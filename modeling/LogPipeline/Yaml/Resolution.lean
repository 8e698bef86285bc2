import LogPipeline.Yaml.Node
import LogPipeline.Event.Value

/-!
# Resolution

What a scalar without quotes means: nothing, a truth value, a number or a text. Whole numbers are written
in base 2, 8, 10 or 16. Digits after a leading zero are a text, and so is a number too large for a float.
-/

namespace LogPipeline.Yaml

open Text (isDigit natOf dropStart?)

inductive Meaning where
  | nothing
  | flag (b : Bool)
  | integer (i : Int)
  | real (x : Binary64)
  | text (s : String)
  deriving DecidableEq, Repr

def isNothing (s : String) : Bool := s = "null" || s = "Null" || s = "NULL" || s = "~"

def flag? (s : String) : Option Bool :=
  if s = "true" ∨ s = "True" ∨ s = "TRUE" then some true
  else if s = "false" ∨ s = "False" ∨ s = "FALSE" then some false
  else none

/-- Whether a text is made of digits of which the first is a superfluous zero. -/
def hasLeadingZero (cs : List Char) : Bool :=
  match (Number.takeSign cs).2 with
  | '0' :: c :: rest => (c :: rest).all isDigit
  | _ => false

def digitIn? (base : Nat) (c : Char) : Option Nat := (Json.hexValue? c).filter (· < base)

/-- The number that digits write in a base. -/
def natIn? (base : Nat) (cs : List Char) : Option Nat :=
  if cs.isEmpty then none
  else cs.foldlM (fun n c => (digitIn? base c).map (n * base + ·)) 0

/-- The digits behind the mark of a base, with the base. -/
def based? (cs : List Char) : Option (Nat × List Char) :=
  match cs with
  | '0' :: 'x' :: rest => some (16, rest)
  | '0' :: 'o' :: rest => some (8, rest)
  | '0' :: 'b' :: rest => some (2, rest)
  | _ => none

/-- A whole number without a minus sign. -/
def unsigned? (cs : List Char) : Option Nat :=
  let digits := match cs with
    | '+' :: rest => rest
    | rest => rest
  match based? digits with
  | some (base, rest) => natIn? base rest
  | none => if hasLeadingZero cs then none else natIn? 10 digits

/-- A whole number with a minus sign. -/
def negative? (cs : List Char) : Option Int :=
  match cs with
  | '-' :: rest =>
    match based? rest with
    | some (base, rest) => (natIn? base rest).map fun n => -(n : Int)
    | none => if hasLeadingZero cs then none else (natIn? 10 rest).map fun n => -(n : Int)
  | _ => none

/-- A whole number of 128 bits. -/
def integer? (cs : List Char) : Option Int :=
  match unsigned? cs with
  | some n => if n < Number.wordLimit * Number.wordLimit then some n else none
  | none => (negative? cs).filter fun i => -(Number.wordLimit * Number.wordLimit : Int) ≤ 2 * i

/-- A float, which is finite unless it is written by a word. -/
def real? (cs : List Char) : Option Binary64 :=
  let s := String.ofList cs
  let body := match cs with
    | '+' :: rest => rest
    | rest => rest
  let bare := String.ofList body
  if body.length < cs.length ∧ body.head?.any (fun c => c = '+' || c = '-') then none
  else if bare = ".inf" ∨ bare = ".Inf" ∨ bare = ".INF" then some (.infinite false)
  else if s = "-.inf" ∨ s = "-.Inf" ∨ s = "-.INF" then some (.infinite true)
  else if s = ".nan" ∨ s = ".NaN" ∨ s = ".NAN" then some .nan
  else (Number.readDecimal? body).filter Binary64.isFinite

/-- The meaning of a scalar without quotes. -/
def plainMeaning (s : String) : Meaning :=
  if s = "" ∨ isNothing s then .nothing
  else
    match flag? s with
    | some b => .flag b
    | none =>
      match integer? s.toList with
      | some i => .integer i
      | none =>
        if hasLeadingZero s.toList then .text s
        else
          match real? s.toList with
          | some x => .real x
          | none => .text s

/-- The meaning of a scalar. A standard tag says what it must be; a tag of the application has no meaning
here. -/
def meaning? (s : String) (style : Style) (tag : Option Tag) : Option Meaning :=
  match tag with
  | none | some .unreadable => some (if style = .plain then plainMeaning s else .text s)
  | some .application => none
  | some .flag => (flag? s).map .flag
  | some .integer => (integer? s.toList).map .integer
  | some .real => (real? s.toList).map .real
  | some .nothing => if isNothing s then some .nothing else none
  | some .foreign => some (.text s)

namespace Node

/-- The text of a scalar, whatever it means. -/
def text? : Node → Option String
  | .scalar s _ _ => some s
  | _ => none

/-- The text of a scalar that means one. -/
def name? : Node → Option String
  | .scalar s style tag =>
    match meaning? s style tag with
    | some (.text s) => some s
    | _ => none
  | _ => none

mutual
/-- The value that a node stands for. There is none for nothing, for a whole number of more than 64 bits,
and for a mapping with a key that is no text. -/
def value? : Node → Option Value
  | .scalar s style tag =>
    match meaning? s style tag with
    | some (.flag b) => some (.bool b)
    | some (.integer i) =>
      if Number.fitsInteger i then some (.integer i)
      else if 0 ≤ i ∧ i < Number.wordLimit then some (.float (.ofInt i))
      else none
    | some (.real x) => some (.float x)
    | some (.text s) => some (.text s)
    | some .nothing | none => none
  | .sequence items tag =>
    if tag = some .application then none else (values? items).map .list
  | .mapping entries tag =>
    if tag = some .application then none
    else (namedValues? entries).map fun pairs => .map (Keyed.ofPairs pairs)
def values? : List Node → Option (List Value)
  | [] => some []
  | item :: rest => do return (← item.value?) :: (← values? rest)
def namedValues? : List (Node × Node) → Option (List (String × Value))
  | [] => some []
  | (key, value) :: rest => do return (← key.name?, ← value.value?) :: (← namedValues? rest)
end

end Node

end LogPipeline.Yaml
