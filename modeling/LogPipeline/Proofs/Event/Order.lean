import LogPipeline.Proofs.Edits
import LogPipeline.Proofs.Filter.Mutation

/-!
# The order of fields and tags

Whatever is done to an event, its fields stand in the order in which they were last created, and so do its tags. What
was done is kept as a history of values put in and names dropped, and what an action reads to change or to rename a
field, it reads from the history and not from the event.
-/

namespace LogPipeline

namespace Event

open LogPipeline.Filter (Mutation)
open Keyed (Edit Follows CreatedBefore LastCreated lastPut?)

/-! ## Changes and histories -/

/-- An event begins without fields or with a line. -/
inductive Origin where
  | empty
  | line (text : String)

/-- What is done to an event. -/
inductive Change where
  | insert (field : String) (value : Value)
  | remove (field : String)
  | addTag (tag : String)
  | removeTag (tag : String)
  | mutate (mutation : Mutation)

/-- What was done to the fields of an event and to its tags. -/
structure History where
  fields : List (Edit Value) := []
  tags : List (Edit Unit) := []

def Origin.event : Origin → Event
  | .empty => {}
  | .line text => .ofLine text

def Change.apply (event : Event) : Change → Event
  | .insert field value => event.insert field value
  | .remove field => event.remove field
  | .addTag tag => event.addTag tag
  | .removeTag tag => event.removeTag tag
  | .mutate mutation => mutation.apply event

namespace History

def put (history : History) (field : String) (value : Value) : History :=
  { history with fields := history.fields ++ [.put field value] }

def drop (history : History) (field : String) : History :=
  { history with fields := history.fields ++ [.drop field] }

def putTag (history : History) (tag : String) : History :=
  { history with tags := history.tags ++ [.put tag ()] }

def dropTag (history : History) (tag : String) : History :=
  { history with tags := history.tags ++ [.drop tag] }

/-- A field that is there is put in again with another value. -/
def revise (history : History) (field : String) (f : Value → Value) : History :=
  match lastPut? history.fields field with
  | some value => history.put field (f value)
  | none => history

/-- A field that is there is dropped and put in under its new name. If the new name is the old one, the field is not
there any more when it is put in, and so it is created again. -/
def rename (history : History) (entry : String × String) : History :=
  match lastPut? history.fields entry.1 with
  | some value => (history.drop entry.1).put entry.2 value
  | none => history

/-- What an action does. A value that cannot be converted is put in again as it is, and so is one whose letters should
be changed and which is no text. -/
def mutate (history : History) : Mutation → History
  | .removeField fields => fields.foldl drop history
  | .addField values => values.foldl (fun history pair => history.put pair.1 pair.2) history
  | .renameField renames => renames.foldl rename history
  | .addTag tags => tags.foldl putTag history
  | .removeTag tags => tags.foldl dropTag history
  | .uppercase fields => fields.foldl (fun history field => history.revise field (Mutation.textIn Text.toUpper)) history
  | .lowercase fields => fields.foldl (fun history field => history.revise field (Mutation.textIn Text.toLower)) history
  | .convert conversions =>
    conversions.foldl (fun history entry => history.revise entry.1 (Mutation.converted entry.2)) history

def record (history : History) : Change → History
  | .insert field value => history.put field value
  | .remove field => history.drop field
  | .addTag tag => history.putTag tag
  | .removeTag tag => history.dropTag tag
  | .mutate mutation => history.mutate mutation

end History

def Origin.history : Origin → History
  | .empty => {}
  | .line text => History.put {} messageField (.text text)

/-- The tags, with nothing under them. -/
def tagged (event : Event) : Keyed Unit := event.tags.map fun tag => (tag, ())

/-- Fields and tags are what a history makes of them. -/
structure Obeys (event : Event) (history : History) : Prop where
  fields : Follows history.fields event.fields
  tags : Follows history.tags event.tagged

/-- What a single change does to the order of fields and tags: new ones come last, no other is moved, and what is left
when one is removed stays as it was. -/
structure Steady (event : Event) : Prop where
  insert : ∀ field value, (event.insert field value).fields.keys =
    if field ∈ event.fields.keys then event.fields.keys else event.fields.keys ++ [field]
  remove : ∀ field, (event.remove field).fields.keys = event.fields.keys.filter (· != field)
  addTag : ∀ tag, (event.addTag tag).tags = if tag ∈ event.tags then event.tags else event.tags ++ [tag]
  removeTag : ∀ tag, (event.removeTag tag).tags = event.tags.filter (· != tag)
  uppercase : ∀ fields, ((Mutation.uppercase fields).apply event).fields.keys = event.fields.keys
  lowercase : ∀ fields, ((Mutation.lowercase fields).apply event).fields.keys = event.fields.keys
  convert : ∀ conversions, ((Mutation.convert conversions).apply event).fields.keys = event.fields.keys

variable {α : Type} {event : Event} {history : History}

/-! ## Tags -/

theorem keys_tagged (event : Event) : event.tagged.keys = event.tags := by
  simp [tagged, Keyed.keys, Function.comp_def]

theorem get?_tagged {tag : String} : event.tagged.get? tag = some () ↔ tag ∈ event.tags := by
  rw [← keys_tagged, ← Keyed.contains_iff_mem_keys, Keyed.contains]
  cases event.tagged.get? tag <;> simp

theorem tagged_addTag (event : Event) (tag : String) : (event.addTag tag).tagged = event.tagged.insert tag () := by
  by_cases h : tag ∈ event.tags
  · rw [addTag_eq_self_iff.mpr h, Keyed.insert_eq_self_iff.mpr (get?_tagged.mpr h)]
  · rw [Keyed.insert_of_notMem (by rwa [keys_tagged]), tagged, tags_addTag, if_neg h]
    simp [tagged]

theorem tagged_removeTag (event : Event) (tag : String) : (event.removeTag tag).tagged = event.tagged.erase tag := by
  simp only [tagged, removeTag]
  induction event.tags with
  | nil => rfl
  | cons first rest ih =>
    rw [List.erase_cons]
    by_cases h : first = tag <;> simp [h, Keyed.erase, ih]

/-! ## Changes of an event and of its history -/

namespace Obeys

theorem insert (h : event.Obeys history) (field : String) (value : Value) :
    (event.insert field value).Obeys (history.put field value) := ⟨h.fields.put field value, h.tags⟩

theorem remove (h : event.Obeys history) (field : String) : (event.remove field).Obeys (history.drop field) :=
  ⟨h.fields.drop field, h.tags⟩

theorem addTag (h : event.Obeys history) (tag : String) : (event.addTag tag).Obeys (history.putTag tag) where
  fields := by
    rw [fields_addTag]
    exact h.fields
  tags := by
    rw [tagged_addTag]
    exact h.tags.put tag ()

theorem removeTag (h : event.Obeys history) (tag : String) : (event.removeTag tag).Obeys (history.dropTag tag) where
  fields := h.fields
  tags := by
    rw [tagged_removeTag]
    exact h.tags.drop tag

theorem adjust (h : event.Obeys history) (field : String) (f : Value → Value) :
    (event.adjust field f).Obeys (history.revise field f) := by
  unfold Event.adjust Keyed.adjust History.revise
  rw [h.fields.get? field]
  cases lastPut? history.fields field with
  | none => exact h
  | some value => exact h.insert field (f value)

theorem renameOne (h : event.Obeys history) (entry : String × String) :
    (Mutation.renameOne event entry).Obeys (history.rename entry) := by
  unfold Mutation.renameOne History.rename Event.get?
  rw [h.fields.get? entry.1]
  cases lastPut? history.fields entry.1 with
  | none => exact h
  | some value => exact (h.remove entry.1).insert entry.2 value

theorem foldl {step : Event → α → Event} {note : History → α → History}
    (hstep : ∀ event history operand, Obeys event history → (step event operand).Obeys (note history operand))
    (h : event.Obeys history) (operands : List α) :
    (operands.foldl step event).Obeys (operands.foldl note history) := by
  induction operands generalizing event history with
  | nil => exact h
  | cons operand rest ih => exact ih (hstep event history operand h)

theorem mutate (h : event.Obeys history) (mutation : Mutation) :
    (mutation.apply event).Obeys (history.mutate mutation) := by
  cases mutation with
  | removeField fields => exact h.foldl (fun _ _ field h => h.remove field) fields
  | addField values =>
    simp only [Mutation.apply, insertAll_eq_foldl]
    exact h.foldl (fun _ _ pair h => h.insert pair.1 pair.2) values
  | renameField renames => exact h.foldl (fun _ _ entry h => h.renameOne entry) renames
  | addTag tags => exact h.foldl (fun _ _ tag h => h.addTag tag) tags
  | removeTag tags => exact h.foldl (fun _ _ tag h => h.removeTag tag) tags
  | uppercase fields =>
    refine h.foldl (fun event history field h => ?_) fields
    rw [Mutation.mapText_eq_adjust]
    exact h.adjust field _
  | lowercase fields =>
    refine h.foldl (fun event history field h => ?_) fields
    rw [Mutation.mapText_eq_adjust]
    exact h.adjust field _
  | convert conversions =>
    refine h.foldl (fun event history entry h => ?_) conversions
    rw [Mutation.convertOne_eq_adjust]
    exact h.adjust entry.1 _

theorem change (h : event.Obeys history) (change : Change) : (change.apply event).Obeys (history.record change) := by
  cases change with
  | insert field value => exact h.insert field value
  | remove field => exact h.remove field
  | addTag tag => exact h.addTag tag
  | removeTag tag => exact h.removeTag tag
  | mutate mutation => exact h.mutate mutation

theorem origin (origin : Origin) : origin.event.Obeys origin.history := by
  cases origin with
  | empty => exact ⟨Keyed.follows_nil, Keyed.follows_nil⟩
  | line text =>
    have hmessage := Keyed.follows_nil.put messageField (Value.text text)
    exact ⟨hmessage, Keyed.follows_nil⟩

theorem unique (h : event.Obeys history) : event.Unique where
  fields := h.fields.distinct
  tags := by
    have hdistinct := h.tags.distinct
    rwa [Keyed.Distinct, keys_tagged] at hdistinct

end Obeys

/-! ## Single changes -/

theorem keys_foldl {step : Event → α → Event}
    (hstep : ∀ event operand, (step event operand).fields.keys = event.fields.keys) (operands : List α)
    (event : Event) : (operands.foldl step event).fields.keys = event.fields.keys := by
  induction operands generalizing event with
  | nil => rfl
  | cons operand rest ih => exact (ih (step event operand)).trans (hstep event operand)

theorem keys_mapText (f : List Char → List Char) (event : Event) (field : String) :
    (Mutation.mapText f event field).fields.keys = event.fields.keys := by
  rw [Mutation.mapText_eq_adjust]
  exact Keyed.keys_adjust event.fields field _

theorem keys_convertOne (event : Event) (entry : String × Filter.Conversion) :
    (Mutation.convertOne event entry).fields.keys = event.fields.keys := by
  rw [Mutation.convertOne_eq_adjust]
  exact Keyed.keys_adjust event.fields entry.1 _

theorem keys_insert (event : Event) (field : String) (value : Value) : (event.insert field value).fields.keys =
    if field ∈ event.fields.keys then event.fields.keys else event.fields.keys ++ [field] := by
  unfold Event.insert
  by_cases hm : field ∈ event.fields.keys
  · rw [if_pos hm, Keyed.keys_insert_of_contains _ value (Keyed.contains_iff_mem_keys.mpr hm)]
  · rw [if_neg hm, Keyed.insert_of_notMem hm, Keyed.keys_append, Keyed.keys_cons, Keyed.keys_nil]

theorem Unique.steady (h : event.Unique) : event.Steady where
  insert := keys_insert event
  remove field := by
    unfold Event.remove
    rw [Keyed.keys_erase, h.fields.erase_eq_filter]
  addTag := tags_addTag event
  removeTag tag := by
    unfold Event.removeTag
    rw [h.tags.erase_eq_filter]
  uppercase fields := keys_foldl (keys_mapText Text.toUpper) fields event
  lowercase fields := keys_foldl (keys_mapText Text.toLower) fields event
  convert conversions := keys_foldl keys_convertOne conversions event

/-- After any changes of a new event, whatever it began with, every name and tag occurs once, the fields and the tags
stand in the order in which they were last created, and what is there is what was put in last. No later change moves a
field or tag that it leaves there. -/
theorem in_order_of_creation (origin : Origin) (changes : List Change) :
    let event := changes.foldl Change.apply origin.event
    let history := changes.foldl History.record origin.history
    event.Unique ∧
      event.fields.keys.Pairwise (CreatedBefore history.fields) ∧
      event.tags.Pairwise (CreatedBefore history.tags) ∧
      (∀ field ∈ event.fields.keys, ∃ moment, LastCreated history.fields field moment) ∧
      (∀ tag ∈ event.tags, ∃ moment, LastCreated history.tags tag moment) ∧
      (∀ field, event.get? field = lastPut? history.fields field) ∧
      (∀ tag, tag ∈ event.tags ↔ lastPut? history.tags tag = some ()) ∧
      event.Steady := by
  intro event history
  have h : event.Obeys history := (Obeys.origin origin).foldl (fun _ _ change h => h.change change) changes
  have htags := h.tags.order
  have hcreated := h.tags.created
  rw [keys_tagged] at htags hcreated
  refine ⟨h.unique, h.fields.order, htags, h.fields.created, hcreated, h.fields.get?, fun tag => ?_, h.unique.steady⟩
  rw [← h.tags.get? tag, get?_tagged]

/-- A field that is renamed to its own name goes to the end, and one that is overwritten does not move. -/
example :
    let event : Event := { fields := [("a", .integer 1), ("b", .integer 2), ("c", .integer 3)] }
    ((Mutation.renameField [("b", "b")]).apply event).fields.keys = ["a", "c", "b"] ∧
      ((Mutation.renameField [("c", "a")]).apply event).fields.keys = ["a", "b"] ∧
      ((Mutation.addField [("b", .integer 4)]).apply event).fields.keys = ["a", "b", "c"] := by
  decide

end Event

end LogPipeline
