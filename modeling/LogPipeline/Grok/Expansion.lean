import LogPipeline.Grok.Registry

/-!
# Expansion

Placeholders are replaced by groups that hold the expansion of the patterns they name. The names on the
way to a placeholder are remembered, so that a cycle is found where it closes; since they are defined and
differ from each other, the way is never longer than the set of patterns is large.
-/

namespace LogPipeline.Grok

/-- How a captured text is converted. -/
inductive CaptureType where
  | text
  | int
  | float
  deriving DecidableEq, Repr

/-- The field that the text of a group goes to. -/
structure Capture where
  name : String
  type : CaptureType
  deriving DecidableEq, Repr

def CaptureType.parse (capture kind : String) : Except ConfigError CaptureType :=
  if kind = "int" then .ok .int
  else if kind = "float" then .ok .float
  else .error (.invalidCaptureType capture kind)

/-- The capture that a placeholder asks for. -/
def Placeholder.capture? (placeholder : Placeholder) : Except ConfigError (Option Capture) :=
  match placeholder.capture, placeholder.kind with
  | none, _ => .ok none
  | some name, none => .ok (some ⟨name, .text⟩)
  | some name, some kind => (CaptureType.parse name kind).map fun type => some ⟨name, type⟩

/-- The name of the group of the capture with a number. -/
def groupName (number : Nat) : String := "__grok" ++ natText number

/-- An expanded text with its captures, in the order in which their groups open. -/
structure Expansion where
  text : List Char
  captures : List Capture
  deriving DecidableEq, Repr

def groupStart (capture : Option Capture) (number : Nat) : List Char :=
  match capture with
  | some _ => "(?P<".toList ++ (groupName number).toList ++ ['>']
  | none => "(?:".toList

/-- Expands pieces in order; `number` captures come before them. `expand` expands a definition under its
name, behind a number of captures. -/
def expandPieces (registry : Registry) (expand : String → String → Nat → Except ConfigError Expansion)
    (origin : String) (stack : List String) (number : Nat) : List Piece → Except ConfigError Expansion
  | [] => .ok ⟨[], []⟩
  | .char c :: rest => do
    let after ← expandPieces registry expand origin stack number rest
    return ⟨c :: after.text, after.captures⟩
  | .reference placeholder :: rest =>
    if stack.contains placeholder.name then
      .error (.cyclicPattern (stack.reverse ++ [placeholder.name]))
    else
      match registry.get? placeholder.name with
      | none => .error (.unknownPattern placeholder.name origin)
      | some definition => do
        let capture ← placeholder.capture?
        let inner ← expand placeholder.name definition (number + capture.toList.length)
        let captures := capture.toList ++ inner.captures
        let after ← expandPieces registry expand origin stack (number + captures.length) rest
        return ⟨groupStart capture number ++ inner.text ++ ')' :: after.text,
          captures ++ after.captures⟩

/-- Expands a text below the names in `stack`, innermost first, at most `depth` of them deeper. -/
def expandText (registry : Registry) :
    (depth : Nat) → (origin : String) → (stack : List String) → (number : Nat) → (text : String) →
      Except ConfigError Expansion
  | 0, _, stack, _, _ => .error (.cyclicPattern stack.reverse)
  | depth + 1, origin, stack, number, text =>
    expandPieces registry
      (fun name definition number => expandText registry depth name (name :: stack) number definition)
      origin stack number (pieces text)

/-- The name of an expression that is no pattern. -/
def rootName : String := "<root>"

/-- Expands an expression. -/
def expand (registry : Registry) (expression : String) : Except ConfigError Expansion :=
  expandText registry (registry.size + 1) rootName [] 0 expression

end LogPipeline.Grok
