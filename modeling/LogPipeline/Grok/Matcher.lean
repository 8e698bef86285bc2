import LogPipeline.Event.Value
import LogPipeline.Grok.Expansion
import LogPipeline.Regex.Parser
import LogPipeline.Regex.Search
import LogPipeline.Regex.Size

/-!
# Matchers

A compiled expression matches a whole text and yields the texts of its named groups as field values. A
group that took no part yields nothing; of several groups for one field the last one counts.
-/

namespace LogPipeline.Grok

/-- The text as a whole number or a decimal, if it is one. -/
def CaptureType.convert (type : CaptureType) (text : String) : Value :=
  match type with
  | .text => .text text
  | .int => ((Number.readInteger? text.toList).map .integer).getD (.text text)
  | .float => ((Number.readDecimal? text.toList).map .float).getD (.text text)

/-- A named group and where its text goes. -/
structure Slot where
  index : Nat
  capture : Capture
  deriving DecidableEq, Repr

structure Matcher where
  /-- The expression that was compiled. -/
  source : String
  /-- The regular expression it became. -/
  expanded : String
  slots : List Slot
  start : Nat
  program : Regex.Program
  deriving Repr

namespace Matcher

/-- The fields in the order of their first groups, each once. -/
def captureNames (matcher : Matcher) : List String :=
  (matcher.slots.map fun slot => slot.capture.name).eraseDups

def fieldsOf (text : Array Char) (saves : List (Nat × Nat)) (slots : List Slot) : Keyed Value :=
  slots.foldl (fun fields slot =>
    match Regex.groupText? text saves slot.index with
    | some part => fields.insert slot.capture.name (slot.capture.type.convert part)
    | none => fields) []

/-- The fields of a text, if the expression matches it. -/
def captures? (matcher : Matcher) (text : String) : Option (Keyed Value) :=
  let cs := text.toList.toArray
  (Regex.search matcher.start matcher.program cs).map fun saves => fieldsOf cs saves matcher.slots

def isMatch (matcher : Matcher) (text : String) : Bool := (matcher.captures? text).isSome

/-- The expansion between the beginning and the end of the text. -/
def anchored (expansion : List Char) : List Char :=
  "\\A(?:".toList ++ expansion ++ ")\\z".toList

/-- The slots of the named groups of an expression. A group made by a placeholder goes to the field that
the placeholder gave, any other to the field of its own name. -/
def slotsOf (pattern : Regex.Pattern) (captures : List Capture) : List Slot :=
  let table := captures.mapIdx fun i capture => (groupName i, capture)
  let present := pattern.node.groups
  (pattern.names.filter fun (index, _) => present.contains index).map fun (index, name) =>
    ⟨index, (table.lookup name).getD ⟨name, .text⟩⟩

/-- The matcher of an expanded expression. -/
def ofExpansion (source : String) (expansion : Expansion) : Except ConfigError Matcher :=
  let text := anchored expansion.text
  match Regex.parse text with
  | .error fault => .error (.invalidExpression source fault)
  | .ok pattern =>
    if pattern.node.fits then
      let (start, program) := Regex.program pattern.node
      .ok ⟨source, String.ofList text, slotsOf pattern expansion.captures, start, program⟩
    else .error (.invalidExpression source .tooLarge)

/-- The matcher of an expression over a set of patterns. -/
def build (registry : Registry) (expression : String) : Except ConfigError Matcher := do
  let expansion ← expand registry expression
  ofExpansion expression expansion

end Matcher

/-- A set of patterns with the matchers of the expressions compiled so far. -/
structure Compiler where
  registry : Registry
  matchers : Keyed Matcher := []

namespace Compiler

/-- How many expressions have been compiled. -/
def cached (compiler : Compiler) : Nat := compiler.matchers.length

/-- The matcher of an expression, built at its first use. Nothing is kept of an expression that cannot be
compiled. -/
def compile (compiler : Compiler) (expression : String) : Except ConfigError Matcher × Compiler :=
  match compiler.matchers.get? expression with
  | some matcher => (.ok matcher, compiler)
  | none =>
    match Matcher.build compiler.registry expression with
    | .ok matcher =>
      (.ok matcher, { compiler with matchers := compiler.matchers.insert expression matcher })
    | .error e => (.error e, compiler)

end Compiler

end LogPipeline.Grok
