import LogPipeline.Config.Readable

/-!
# Configurations in JSON

A choice may also be written as a table with its name for the only key and `null` for the value, and a record
as the list of the values of its fields.
-/

namespace LogPipeline

namespace Json.Doc

def text? : Doc → Option String
  | .text s => some s
  | _ => none

def choice? : Doc → Option String
  | .text s => some s
  | .object [(name, .null)] => some name
  | _ => none

def flag? : Doc → Option Bool
  | .bool b => some b
  | _ => none

def count? : Doc → Option Nat
  | .integer i => if 0 ≤ i ∧ i < Number.wordLimit then some i.toNat else none
  | _ => none

def items? : Doc → Option (List Doc)
  | .list items => some items
  | _ => none

def entries? : Doc → Option (List (String × Doc))
  | .object entries => some entries
  | _ => none

def single? : Doc → Option (String × Doc)
  | .object [entry] => some entry
  | _ => none

def record? (fields : List String) : Doc → Option (List (String × Doc))
  | .object entries => some entries
  | .list items => if items.length ≤ fields.length then some (fields.zip items) else none
  | _ => none

def isNothing : Doc → Bool
  | .null => true
  | _ => false

end Json.Doc

instance : Config.Readable Json.Doc where
  text? := Json.Doc.text?
  choice? := Json.Doc.choice?
  flag? := Json.Doc.flag?
  count? := Json.Doc.count?
  value? := Value.ofDoc?
  items? := Json.Doc.items?
  entries? := Json.Doc.entries?
  single? := Json.Doc.single?
  record? := Json.Doc.record?
  isNothing? doc := some doc.isNothing

end LogPipeline
