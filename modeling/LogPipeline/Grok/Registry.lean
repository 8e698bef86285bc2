import LogPipeline.ConfigError
import LogPipeline.Keyed
import LogPipeline.Grok.Builtins
import LogPipeline.Grok.Placeholder
import LogPipeline.Text.Blank

/-!
# Pattern sets

The definitions that placeholders refer to. A later definition of a name replaces the earlier one;
references inside a definition are followed only when an expression is compiled.
-/

namespace LogPipeline.Grok

structure Registry where
  definitions : Keyed String := []
  deriving Repr

namespace Registry

def empty : Registry := {}

def withBuiltins : Registry := ⟨builtins⟩

def get? (registry : Registry) (name : String) : Option String := registry.definitions.get? name

def contains (registry : Registry) (name : String) : Bool := registry.definitions.contains name

def size (registry : Registry) : Nat := registry.definitions.length

def isName (name : String) : Bool := !name.toList.isEmpty && name.toList.all isNameChar

/-- Adds or replaces a definition. -/
def define (registry : Registry) (name expression : String) : Except ConfigError Registry :=
  if isName name then .ok ⟨registry.definitions.insert name expression⟩
  else .error (.invalidPatternName name)

/-- The lines of a text, without their ends. -/
def linesFrom (line : List Char) : List Char → List (List Char)
  | [] => if line.isEmpty then [] else [line.reverse]
  | '\n' :: rest => line.reverse :: linesFrom [] rest
  | c :: rest => linesFrom (c :: line) rest

/-- The definition on a line: none on a blank line and in a comment. The name ends at the first blank. -/
def definition? (number : Nat) (line : List Char) : Except ConfigError (Option (String × String)) :=
  let line := Text.trim line
  if line.isEmpty || line.head? == some '#' then .ok none
  else
    let name := line.takeWhile fun c => !Text.isBlank c
    let expression := Text.trim (line.dropWhile fun c => !Text.isBlank c)
    if expression.isEmpty then
      .error (.invalidPatternDefinition number
        ("expected 'NAME expression', got '" ++ String.ofList line ++ "'"))
    else .ok (some (String.ofList name, String.ofList expression))

/-- Adds the definitions of lines, the first of which has a number. The result is the set with what was
defined up to the first bad line, and the number of definitions or the error. -/
def loadLines (registry : Registry) (number count : Nat) :
    List (List Char) → Registry × Except ConfigError Nat
  | [] => (registry, .ok count)
  | line :: rest =>
    match definition? number line with
    | .error e => (registry, .error e)
    | .ok none => loadLines registry (number + 1) count rest
    | .ok (some (name, expression)) =>
      match registry.define name expression with
      | .error e => (registry, .error e)
      | .ok registry => loadLines registry (number + 1) (count + 1) rest

/-- Adds the definitions of a text, one to a line. -/
def load (registry : Registry) (text : String) : Registry × Except ConfigError Nat :=
  registry.loadLines 1 0 (linesFrom [] text.toList)

end Registry

end LogPipeline.Grok
