import LogPipeline.Event.Value

/-!
# Reading configurations

Configurations are written in more than one language. What a language has to offer is how a text, a
number, a list or a table is read off one of its documents; the rules for records are the same for all:
every name in a record is known and occurs once, and what is required is there.
-/

namespace LogPipeline.Config

class Readable (α : Type) where
  text? : α → Option String
  /-- The name of one of a fixed set of choices. -/
  choice? : α → Option String
  flag? : α → Option Bool
  /-- A whole number of 64 bits without a sign. -/
  count? : α → Option Nat
  value? : α → Option Value
  items? : α → Option (List α)
  entries? : α → Option (List (String × α))
  /-- The entry of a table that has only one. -/
  single? : α → Option (String × α)
  /-- The entries of a record, given the names of its fields. -/
  record? : List String → α → Option (List (String × α))
  /-- Whether a document stands for the absence of a value, if that can be told. -/
  isNothing? : α → Option Bool

open Readable

variable {α β : Type} [Readable α]

abbrev Record (α : Type) := List (String × α)

/-- Whether all names are among the known ones, each at most once. -/
def namesFit (known names : List String) : Bool :=
  names.all known.contains && names.eraseDups.length == names.length

namespace Record

def read? (fields : List String) (doc : α) : Option (Record α) :=
  (record? fields doc).filter fun entries => namesFit fields (entries.map Prod.fst)

/-- A field that must be there. -/
def required? (record : Record α) (field : String) (read : α → Option β) : Option β :=
  (record.lookup field).bind read

/-- A field with a value of its own where it is not given. -/
def default? (record : Record α) (field : String) (value : β) (read : α → Option β) : Option β :=
  match record.lookup field with
  | some doc => read doc
  | none => some value

/-- A field that may be absent, or present with nothing in it. -/
def optional? (record : Record α) (field : String) (read : α → Option β) : Option (Option β) :=
  match record.lookup field with
  | some doc => do
    if ← isNothing? doc then return none
    return some (← read doc)
  | none => some none

end Record

/-- A list whose items are all read in one way. -/
def list? (read : α → Option β) (doc : α) : Option (List β) :=
  (items? doc).bind fun items => items.mapM read

/-- A table whose values are all read in one way. A name that comes again gets a new value. -/
def table? (read : α → Option β) (doc : α) : Option (Keyed β) :=
  (entries? doc).bind fun entries =>
    (entries.mapM fun entry => (read entry.2).map fun value => (entry.1, value)).map Keyed.ofPairs

end LogPipeline.Config
