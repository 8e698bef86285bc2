import LogPipeline.Event.Value

/-!
# Events

An event is a record on its way through the pipeline: its fields in the order in which they came, the
line it was made from, as long as no stage has taken it, and a set of tags, in order too.
-/

namespace LogPipeline

structure Event where
  fields : Keyed Value := []
  /-- The line as it was read. -/
  raw : Option String := none
  tags : List String := []
  deriving Repr, Inhabited

namespace Event

/-- The field that holds the line of a new event. -/
def messageField : String := "message"

/-- The name under which tags are written. -/
def tagsField : String := "tags"

def ofLine (line : String) : Event :=
  { fields := [(messageField, .text line)], raw := some line }

def get? (event : Event) (field : String) : Option Value := event.fields.get? field

def getText? (event : Event) (field : String) : Option String :=
  (event.get? field).bind Value.asText?

def contains (event : Event) (field : String) : Bool := event.fields.contains field

def insert (event : Event) (field : String) (value : Value) : Event :=
  { event with fields := event.fields.insert field value }

def remove (event : Event) (field : String) : Event :=
  { event with fields := event.fields.erase field }

/-- The event without its line. -/
def takeRaw (event : Event) : Event := { event with raw := none }

def hasTag (event : Event) (tag : String) : Bool := event.tags.contains tag

def addTag (event : Event) (tag : String) : Event :=
  if event.hasTag tag then event else { event with tags := event.tags ++ [tag] }

def removeTag (event : Event) (tag : String) : Event :=
  { event with tags := event.tags.erase tag }

/-- Equality of events, in which the order of fields and tags does not matter. -/
def same (a b : Event) : Bool :=
  a.raw == b.raw && a.tags.length == b.tags.length && a.tags.all b.hasTag &&
    a.fields.length == b.fields.length && Value.sameEntries a.fields b.fields

/-- The list written for a field named like the tags, when there are tags: its items, or the value
itself, and then the tags. -/
def withTags (value : Value) (tags : List String) : Value :=
  match value with
  | .list items => .list (items ++ tags.map .text)
  | other => .list (other :: tags.map .text)

/-- The fields of the event as one object, and the tags, if there are any, at the end or in the field
named like them. -/
def toDoc (event : Event) : Json.Doc :=
  let fields := event.fields.map fun (name, value) =>
    (name, (if name = tagsField ∧ event.tags ≠ [] then withTags value event.tags else value).toDoc)
  if event.tags = [] ∨ event.contains tagsField then .object fields
  else .object (fields ++ [(tagsField, .list (event.tags.map .text))])

def toJson (event : Event) : String := event.toDoc.compact

end Event

end LogPipeline
