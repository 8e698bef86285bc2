import LogPipeline.Keyed
import LogPipeline.Json.Doc
import LogPipeline.Time.Instant
import LogPipeline.Number.Reading

/-!
# Field values

What a field of an event can hold, its text, and its place in a JSON document. A document has no
instants: they are written as texts.
-/

namespace LogPipeline

inductive Value where
  | bool (b : Bool)
  /-- A whole number of 64 bits. -/
  | integer (i : Int)
  | float (x : Binary64)
  | text (s : String)
  /-- An instant, made by a stage. -/
  | timestamp (instant : Time.Instant)
  | list (items : List Value)
  | map (entries : List (String × Value))
  deriving Repr, Inhabited

namespace Value

def asText? : Value → Option String
  | .text s => some s
  | _ => none

def asTimestamp? : Value → Option Time.Instant
  | .timestamp instant => some instant
  | _ => none

def asInteger? : Value → Option Int
  | .integer i => some i
  | _ => none

mutual
def toDoc : Value → Json.Doc
  | .bool b => .bool b
  | .integer i => .integer i
  | .float x => .real x
  | .text s => .text s
  | .timestamp instant => .text instant.text
  | .list items => .list (docs items)
  | .map entries => .object (namedDocs entries)
def docs : List Value → List Json.Doc
  | [] => []
  | value :: rest => value.toDoc :: docs rest
def namedDocs : List (String × Value) → List (String × Json.Doc)
  | [] => []
  | (name, value) :: rest => (name, value.toDoc) :: namedDocs rest
end

mutual
/-- The value that a document stands for. There is none for `null`. A whole number too large for 64
bits with a sign is a float, and a name keeps the last of its values. -/
def ofDoc? : Json.Doc → Option Value
  | .null => none
  | .bool b => some (.bool b)
  | .integer i => some (if Number.fitsInteger i then .integer i else .float (.ofInt i))
  | .real x => some (.float x)
  | .text s => some (.text s)
  | .list items => (ofDocs? items).map .list
  | .object entries => (ofNamedDocs? entries).map fun pairs => .map (Keyed.ofPairs pairs)
def ofDocs? : List Json.Doc → Option (List Value)
  | [] => some []
  | doc :: rest => do return (← ofDoc? doc) :: (← ofDocs? rest)
def ofNamedDocs? : List (String × Json.Doc) → Option (List (String × Value))
  | [] => some []
  | (name, doc) :: rest => do return (name, ← ofDoc? doc) :: (← ofNamedDocs? rest)
end

/-- The text of a value: lists and maps are written as JSON. -/
def display : Value → String
  | .bool b => if b then "true" else "false"
  | .integer i => String.ofList (Json.integerText i)
  | .float x => x.text
  | .text s => s
  | .timestamp instant => instant.text
  | .list items => (Json.Doc.list (docs items)).compact
  | .map entries => (Json.Doc.object (namedDocs entries)).compact

mutual
/-- Equality of values. Floats are compared as numbers, and the order of the entries of a map does not
matter. -/
def same : Value → Value → Bool
  | .bool a, .bool b => a == b
  | .integer a, .integer b => a == b
  | .float a, .float b => a.same b
  | .text a, .text b => a == b
  | .timestamp a, .timestamp b => a == b
  | .list a, .list b => sameItems a b
  | .map a, .map b => a.length == b.length && sameEntries a b
  | _, _ => false
def sameItems : List Value → List Value → Bool
  | [], [] => true
  | a :: as, b :: bs => a.same b && sameItems as bs
  | _, _ => false
/-- Whether every entry of the first list has its like among those of the second. -/
def sameEntries : List (String × Value) → List (String × Value) → Bool
  | [], _ => true
  | (name, value) :: rest, others =>
    (match Keyed.get? others name with
      | some other => value.same other
      | none => false) && sameEntries rest others
end

end Value

end LogPipeline
