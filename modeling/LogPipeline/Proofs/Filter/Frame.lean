import LogPipeline.Filter.Basic
import LogPipeline.Proofs.Keyed
import LogPipeline.Proofs.Result

/-!
# What filters change

A filter names fields and tags: what it captures, where it puts an instant, what its action is applied to, the
tag of its failures. An event that passes a chain of filters differs from what it was at most in these, and
the only way not to pass is a failure of a filter whose policy it is to drop.
-/

namespace LogPipeline

namespace Event

/-- Every name and every tag occurs once. -/
structure Unique (event : Event) : Prop where
  fields : event.fields.Distinct
  tags : event.tags.Nodup

/-- An event with the same line, and with the same fields and tags except for those that are named. -/
structure ChangesOnly (fields tags : List String) (before after : Event) : Prop where
  raw : after.raw = before.raw
  unique : before.Unique → after.Unique
  get? : ∀ field ∉ fields, after.get? field = before.get? field
  hasTag : ∀ tag ∉ tags, (tag ∈ after.tags ↔ tag ∈ before.tags)

variable {fields tags fields' tags' : List String} {before between after event : Event}

theorem ChangesOnly.refl (event : Event) : event.ChangesOnly fields tags event :=
  ⟨rfl, id, fun _ _ => rfl, fun _ _ => .rfl⟩

theorem ChangesOnly.trans (h : before.ChangesOnly fields tags between)
    (h' : between.ChangesOnly fields tags after) : before.ChangesOnly fields tags after where
  raw := h'.raw.trans h.raw
  unique hu := h'.unique (h.unique hu)
  get? field hf := (h'.get? field hf).trans (h.get? field hf)
  hasTag tag ht := (h'.hasTag tag ht).trans (h.hasTag tag ht)

theorem ChangesOnly.mono (h : before.ChangesOnly fields tags after) (hf : fields ⊆ fields')
    (ht : tags ⊆ tags') : before.ChangesOnly fields' tags' after where
  raw := h.raw
  unique := h.unique
  get? field hn := h.get? field fun hm => hn (hf hm)
  hasTag tag hn := h.hasTag tag fun hm => hn (ht hm)

/-- Steps that change only what is named, one after the other. -/
theorem changesOnly_foldl {α : Type} {step : Event → α → Event} {operands : List α}
    (h : ∀ operand ∈ operands, ∀ event : Event, event.ChangesOnly fields tags (step event operand))
    (event : Event) : event.ChangesOnly fields tags (operands.foldl step event) := by
  induction operands generalizing event with
  | nil => exact .refl event
  | cons operand rest ih =>
    have hfirst := h operand List.mem_cons_self event
    exact hfirst.trans (ih (fun operand hm => h operand (List.mem_cons_of_mem _ hm)) _)

theorem changesOnly_insert (event : Event) (field : String) (value : Value) :
    event.ChangesOnly [field] [] (event.insert field value) where
  raw := rfl
  unique hu := ⟨hu.fields.insert field value, hu.tags⟩
  get? other hn := Keyed.get?_insert_of_ne _ value (by simpa using hn)
  hasTag _ _ := .rfl

theorem insert_eq_self_iff {field : String} {value : Value} :
    event.insert field value = event ↔ event.get? field = some value := by
  unfold get?
  rw [← Keyed.insert_eq_self_iff]
  exact ⟨congrArg Event.fields, fun h => congrArg (fun fields => { event with fields }) h⟩

theorem get?_insert_self (event : Event) (field : String) (value : Value) :
    (event.insert field value).get? field = some value := Keyed.get?_insert_self event.fields field value

theorem changesOnly_remove (event : Event) (field : String) :
    event.ChangesOnly [field] [] (event.remove field) where
  raw := rfl
  unique hu := ⟨hu.fields.erase field, hu.tags⟩
  get? other hn := Keyed.get?_erase_of_ne _ (by simpa using hn)
  hasTag _ _ := .rfl

theorem fields_addTag (event : Event) (tag : String) : (event.addTag tag).fields = event.fields := by
  unfold addTag
  split <;> rfl

theorem tags_addTag (event : Event) (tag : String) :
    (event.addTag tag).tags = if tag ∈ event.tags then event.tags else event.tags ++ [tag] := by
  unfold addTag hasTag
  by_cases h : tag ∈ event.tags <;> simp [h]

theorem mem_tags_addTag {tag other : String} :
    other ∈ (event.addTag tag).tags ↔ other = tag ∨ other ∈ event.tags := by
  rw [tags_addTag]
  split
  · rename_i h
    refine ⟨.inr, ?_⟩
    rintro (rfl | hm)
    · exact h
    · exact hm
  · simp [or_comm]

theorem addTag_eq_self_iff {tag : String} : event.addTag tag = event ↔ tag ∈ event.tags := by
  unfold addTag hasTag
  by_cases h : tag ∈ event.tags
  · simp [h]
  · have hne : event.tags ++ [tag] ≠ event.tags := by simp
    simpa [h] using fun heq => hne (congrArg Event.tags heq)

theorem changesOnly_addTag (event : Event) (tag : String) :
    event.ChangesOnly [] [tag] (event.addTag tag) := by
  have hfields := event.fields_addTag tag
  have hraw : (event.addTag tag).raw = event.raw := by
    unfold addTag
    split <;> rfl
  refine ⟨hraw, fun hu => ⟨hfields ▸ hu.fields, ?_⟩, fun field _ => ?_, fun other hn => ?_⟩
  · rw [tags_addTag]
    split
    · exact hu.tags
    · rename_i hnew
      refine List.nodup_append.mpr ⟨hu.tags, by simp, ?_⟩
      rintro a ha b hb rfl
      obtain rfl := List.mem_singleton.mp hb
      exact hnew ha
  · exact congrArg (Keyed.get? · field) hfields
  · rw [tags_addTag]
    split
    · exact .rfl
    · simp_all

theorem changesOnly_removeTag (event : Event) (tag : String) :
    event.ChangesOnly [] [tag] (event.removeTag tag) where
  raw := rfl
  unique hu := ⟨hu.fields, hu.tags.erase tag⟩
  get? _ _ := rfl
  hasTag other hn := List.mem_erase_of_ne (by simpa using hn)

theorem insertAll_eq_foldl (event : Event) (pairs : List (String × Value)) :
    { event with fields := event.fields.insertAll pairs } =
      pairs.foldl (fun event pair => event.insert pair.1 pair.2) event := by
  induction pairs generalizing event with
  | nil => rfl
  | cons pair rest ih => exact ih (event.insert pair.1 pair.2)

theorem changesOnly_insertAll (event : Event) {pairs : Keyed Value} (h : pairs.keys ⊆ fields) :
    event.ChangesOnly fields [] { event with fields := event.fields.insertAll pairs } := by
  rw [insertAll_eq_foldl]
  refine changesOnly_foldl (fun pair hm event => ?_) event
  have hname : pair.1 ∈ fields := h (List.mem_map_of_mem hm)
  exact (event.changesOnly_insert pair.1 pair.2).mono (by simpa using hname) (List.Subset.refl [])

end Event

open Event (ChangesOnly)

namespace Grok.Matcher

/-- Steps each of which adds at most the name of its slot. -/
theorem keys_foldl_subset {step : Keyed Value → Slot → Keyed Value} (slots : List Slot)
    (hstep : ∀ fields slot, (step fields slot).keys ⊆ fields.keys ++ [slot.capture.name]) (fields : Keyed Value) :
    (slots.foldl step fields).keys ⊆ fields.keys ++ slots.map fun slot => slot.capture.name := by
  induction slots generalizing fields with
  | nil => simp
  | cons slot rest ih =>
    rw [List.foldl_cons, List.map_cons, List.append_cons]
    intro name hm
    rcases List.mem_append.mp (ih _ hm) with hm | hm
    · exact List.mem_append_left _ (hstep fields slot hm)
    · exact List.mem_append_right _ hm

theorem keys_fieldsOf_subset (text : Array Char) (saves : List (Nat × Nat)) (slots : List Slot) :
    (fieldsOf text saves slots).keys ⊆ slots.map fun slot => slot.capture.name := by
  refine keys_foldl_subset slots (fun fields slot name hm => ?_) []
  split at hm
  · rcases Keyed.mem_keys_insert.mp hm with rfl | hm
    · simp
    · exact List.mem_append_left _ hm
  · exact List.mem_append_left _ hm

theorem keys_subset_captureNames {matcher : Matcher} {text : String} {captures : Keyed Value}
    (h : matcher.captures? text = some captures) : captures.keys ⊆ matcher.captureNames := by
  obtain ⟨saves, -, rfl⟩ := Option.map_eq_some_iff.mp h
  intro name hm
  exact List.mem_eraseDups.mpr (keys_fieldsOf_subset _ saves _ hm)

end Grok.Matcher

namespace Filter

namespace Mutation

/-- The names of fields among what an action is applied to. -/
def fieldOperands : Mutation → List String
  | .removeField fields | .uppercase fields | .lowercase fields => fields
  | .addField values => values.keys
  | .renameField renames => renames.flatMap fun rename => [rename.1, rename.2]
  | .addTag _ | .removeTag _ => []
  | .convert conversions => conversions.keys

def tagOperands : Mutation → List String
  | .addTag tags | .removeTag tags => tags
  | _ => []

theorem changesOnly_mapText (f : List Char → List Char) (event : Event) (field : String) :
    event.ChangesOnly [field] [] (mapText f event field) := by
  unfold mapText
  split
  · exact event.changesOnly_insert field _
  · exact .refl event

theorem changesOnly_renameOne (event : Event) (rename : String × String) :
    event.ChangesOnly [rename.1, rename.2] [] (renameOne event rename) := by
  unfold renameOne
  split
  · rename_i value _
    have hremove : event.ChangesOnly [rename.1, rename.2] [] (event.remove rename.1) :=
      (event.changesOnly_remove rename.1).mono (by simp) (List.Subset.refl [])
    exact hremove.trans (((event.remove rename.1).changesOnly_insert rename.2 value).mono (by simp)
      (List.Subset.refl []))
  · exact .refl event

theorem changesOnly_convertOne (event : Event) (entry : String × Conversion) :
    event.ChangesOnly [entry.1] [] (convertOne event entry) := by
  unfold convertOne
  split
  · exact event.changesOnly_insert entry.1 _
  · exact .refl event

theorem apply_changesOnly (mutation : Mutation) (event : Event) :
    event.ChangesOnly mutation.fieldOperands mutation.tagOperands (mutation.apply event) := by
  cases mutation with
  | removeField fields =>
    refine Event.changesOnly_foldl (fun field hm event => ?_) event
    exact (event.changesOnly_remove field).mono (by simpa [fieldOperands] using hm) (List.Subset.refl [])
  | addField values => exact event.changesOnly_insertAll (List.Subset.refl _)
  | renameField renames =>
    refine Event.changesOnly_foldl (fun rename hm event => ?_) event
    have hnames : [rename.1, rename.2] ⊆ (renameField renames).fieldOperands :=
      fun name hn => List.mem_flatMap.mpr ⟨rename, hm, hn⟩
    exact (changesOnly_renameOne event rename).mono hnames (List.Subset.refl [])
  | addTag tags =>
    refine Event.changesOnly_foldl (fun tag hm event => ?_) event
    exact (event.changesOnly_addTag tag).mono (List.Subset.refl []) (by simpa [tagOperands] using hm)
  | removeTag tags =>
    refine Event.changesOnly_foldl (fun tag hm event => ?_) event
    exact (event.changesOnly_removeTag tag).mono (List.Subset.refl []) (by simpa [tagOperands] using hm)
  | uppercase fields =>
    refine Event.changesOnly_foldl (fun field hm event => ?_) event
    exact (changesOnly_mapText _ event field).mono (by simpa [fieldOperands] using hm) (List.Subset.refl [])
  | lowercase fields =>
    refine Event.changesOnly_foldl (fun field hm event => ?_) event
    exact (changesOnly_mapText _ event field).mono (by simpa [fieldOperands] using hm) (List.Subset.refl [])
  | convert conversions =>
    refine Event.changesOnly_foldl (fun entry hm event => ?_) event
    have hname : entry.1 ∈ (convert conversions).fieldOperands := List.mem_map_of_mem hm
    exact (changesOnly_convertOne event entry).mono (by simpa using hname) (List.Subset.refl [])

end Mutation

/-- The fields that a filter names: those it captures, the target of an instant, and the operands of an
action. -/
def namedFields : Filter → List String
  | .grok filter => filter.matcher.captureNames
  | .date filter => [filter.target]
  | .mutate mutation => mutation.fieldOperands

/-- The tags that a filter names: the one of its failures, and the operands of an action. -/
def namedTags : Filter → List String
  | .grok filter => [filter.tag]
  | .date filter => [filter.tag]
  | .mutate mutation => mutation.tagOperands

/-- What becomes of events that a filter fails on. Actions never fail. -/
def policy? : Filter → Option FailurePolicy
  | .grok filter => some filter.onFailure
  | .date filter => some filter.onFailure
  | .mutate _ => none

/-- Whether there is nothing in an event that the filter could extract or read. -/
def FailsOn (filter : Filter) (currentYear : Int) (event : Event) : Prop :=
  match filter with
  | .grok filter => filter.extract? event = none
  | .date filter => ∃ e, filter.normalize currentYear event = .error e
  | .mutate _ => False

variable {filter : Filter} {filters earlier later : List Filter} {currentYear : Int}
  {event after reached : Event} {tag : String} {fields tags : List String}

theorem FailurePolicy.apply_changesOnly {policy : FailurePolicy}
    (h : policy.apply event tag = .continue after) : event.ChangesOnly [] [tag] after := by
  cases policy with
  | tag =>
    cases h
    exact event.changesOnly_addTag tag
  | drop => cases h
  | pass =>
    cases h
    exact .refl event

theorem FailurePolicy.apply_eq_drop_iff {policy : FailurePolicy} :
    policy.apply event tag = .drop ↔ policy = .drop := by
  cases policy <;> simp [FailurePolicy.apply]

theorem Grok.extract?_changesOnly {filter : Grok} (h : filter.extract? event = some after) :
    event.ChangesOnly filter.matcher.captureNames [] after := by
  obtain ⟨captures, hc, rfl⟩ := Option.map_eq_some_iff.mp h
  obtain ⟨text, -, hc⟩ := Option.bind_eq_some_iff.mp hc
  exact event.changesOnly_insertAll (LogPipeline.Grok.Matcher.keys_subset_captureNames hc)

theorem Date.normalize_changesOnly {filter : Date} (h : filter.normalize currentYear event = .ok after) :
    event.ChangesOnly [filter.target] [] after := by
  unfold normalize at h
  split at h
  · cases h
  · cases h
    exact event.changesOnly_insert _ _
  · split at h
    · cases h
      exact event.changesOnly_insert _ _
    · cases h

/-- An event that a filter lets through differs in what the filter names. -/
theorem process_changesOnly (h : filter.process currentYear event = .continue after) :
    event.ChangesOnly filter.namedFields filter.namedTags after := by
  cases filter with
  | grok filter =>
    simp only [process, Grok.process] at h
    split at h
    · rename_i hextract
      cases h
      exact (Grok.extract?_changesOnly hextract).mono (List.Subset.refl _) (List.nil_subset _)
    · exact (FailurePolicy.apply_changesOnly h).mono (List.nil_subset _) (List.Subset.refl _)
  | date filter =>
    simp only [process, Date.process] at h
    split at h
    · rename_i hnormalize
      cases h
      exact (Date.normalize_changesOnly hnormalize).mono (List.Subset.refl _) (List.nil_subset _)
    · exact (FailurePolicy.apply_changesOnly h).mono (List.nil_subset _) (List.Subset.refl _)
  | mutate mutation =>
    cases h
    exact mutation.apply_changesOnly event

theorem process_eq_drop_iff :
    filter.process currentYear event = .drop ↔
      filter.policy? = some .drop ∧ filter.FailsOn currentYear event := by
  cases filter with
  | grok filter =>
    simp only [process, Grok.process, policy?, FailsOn, Option.some.injEq]
    cases filter.extract? event with
    | some after => simp
    | none => simp [FailurePolicy.apply_eq_drop_iff]
  | date filter =>
    simp only [process, Date.process, policy?, FailsOn, Option.some.injEq]
    cases filter.normalize currentYear event with
    | ok after => simp
    | error e => simp [FailurePolicy.apply_eq_drop_iff]
  | mutate mutation => simp [process, policy?]

theorem pass_cons (filter : Filter) (filters : List Filter) (currentYear : Int) (event : Event) :
    (chain (filter :: filters) currentYear).pass event =
      match filter.process currentYear event with
      | .continue after => (chain filters currentYear).pass after
      | .drop => .dropped := by
  change Chain.passThrough (filter.stage currentYear :: _) event = _
  simp only [Chain.passThrough, stage, Flow.effect]
  cases filter.process currentYear event <;> rfl

/-- A filter of a chain to which an event comes that it fails on and whose policy is to drop it. -/
def Discards (filters : List Filter) (currentYear : Int) (event : Event) : Prop :=
  ∃ earlier filter later reached, filters = earlier ++ filter :: later ∧
    (chain earlier currentYear).pass event = .passed reached ∧ filter.policy? = some .drop ∧
    filter.FailsOn currentYear reached

theorem Discards.cons (hp : filter.process currentYear event = .continue after)
    (h : Discards filters currentYear after) : Discards (filter :: filters) currentYear event := by
  obtain ⟨earlier, failing, later, reached, rfl, hpass, hdrop, hfails⟩ := h
  refine ⟨filter :: earlier, failing, later, reached, rfl, ?_, hdrop, hfails⟩
  rw [pass_cons, hp]
  exact hpass

/-- How an event comes out of a chain of filters. -/
theorem pass_cases (filters : List Filter) (currentYear : Int) (event : Event) :
    (∃ after, (chain filters currentYear).pass event = .passed after ∧
      event.ChangesOnly (filters.flatMap namedFields) (filters.flatMap namedTags) after) ∨
    ((chain filters currentYear).pass event = .dropped ∧ Discards filters currentYear event) := by
  induction filters generalizing event with
  | nil => exact .inl ⟨event, rfl, .refl event⟩
  | cons filter rest ih =>
    rw [pass_cons]
    cases hp : filter.process currentYear event with
    | drop =>
      obtain ⟨hdrop, hfails⟩ := process_eq_drop_iff.mp hp
      exact .inr ⟨rfl, [], filter, rest, event, rfl, rfl, hdrop, hfails⟩
    | «continue» next =>
      have hfirst : event.ChangesOnly ((filter :: rest).flatMap namedFields)
          ((filter :: rest).flatMap namedTags) next :=
        (process_changesOnly hp).mono (by simp) (by simp)
      rcases ih next with ⟨after, hpass, hrest⟩ | ⟨hpass, hdiscards⟩
      · exact .inl ⟨after, hpass, hfirst.trans (hrest.mono (by simp) (by simp))⟩
      · exact .inr ⟨hpass, hdiscards.cons hp⟩

theorem pass_append (h : (chain earlier currentYear).pass event = .passed reached) (later : List Filter) :
    (chain (earlier ++ later) currentYear).pass event = (chain later currentYear).pass reached := by
  induction earlier generalizing event with
  | nil =>
    cases h
    rfl
  | cons filter rest ih =>
    rw [pass_cons] at h
    rw [List.cons_append, pass_cons]
    cases hp : filter.process currentYear event with
    | drop =>
      rw [hp] at h
      cases h
    | «continue» next =>
      rw [hp] at h
      exact ih h

theorem Discards.pass_eq_dropped (h : Discards filters currentYear event) :
    (chain filters currentYear).pass event = .dropped := by
  obtain ⟨earlier, filter, later, reached, rfl, hpass, hdrop, hfails⟩ := h
  rw [pass_append hpass, pass_cons, process_eq_drop_iff.mpr ⟨hdrop, hfails⟩]

/-- An event passes a chain of filters or is dropped. If it passes, its line is the same, its names and tags are
still unique, and every field and tag that no filter names is as it was. It is dropped exactly if it comes to a
filter that fails on it and whose policy is to drop, so never where no filter has this policy. -/
theorem pass_changes_only_named (filters : List Filter) (currentYear : Int) (h : event.Unique) :
    ((∃ after, (chain filters currentYear).pass event = .passed after ∧
        after.Unique ∧ after.raw = event.raw ∧
        (∀ field ∉ filters.flatMap namedFields, after.get? field = event.get? field) ∧
        (∀ tag ∉ filters.flatMap namedTags, (tag ∈ after.tags ↔ tag ∈ event.tags))) ∨
      (chain filters currentYear).pass event = .dropped) ∧
    ((chain filters currentYear).pass event = .dropped ↔ Discards filters currentYear event) ∧
    ((∀ filter ∈ filters, filter.policy? ≠ some .drop) →
      (chain filters currentYear).pass event ≠ .dropped) := by
  have hcases := pass_cases filters currentYear event
  have hdropped (hd : (chain filters currentYear).pass event = .dropped) :
      Discards filters currentYear event := by
    rcases hcases with ⟨after, hpass, -⟩ | ⟨-, hdiscards⟩
    · rw [hd] at hpass
      cases hpass
    · exact hdiscards
  refine ⟨?_, ⟨hdropped, Discards.pass_eq_dropped⟩, fun hpolicy hd => ?_⟩
  · rcases hcases with ⟨after, hpass, hchanges⟩ | ⟨hpass, -⟩
    · exact .inl ⟨after, hpass, hchanges.unique h, hchanges.raw, hchanges.get?, hchanges.hasTag⟩
    · exact .inr hpass
  · obtain ⟨earlier, filter, later, reached, rfl, -, hdrop, -⟩ := hdropped hd
    exact hpolicy filter (by simp) hdrop

/-- Filters that capture, rename and read an instant leave the other fields and tags of an event. -/
theorem pass_changes_only_named_of_renamed :
    let configs : List FilterConfig := [
      .grok { pattern := "(?P<_>[a-z]+) [0-9]+", onFailure := .tag },
      .mutate { action := "rename_field", rename := [("_", "name"), ("absent", "size")] },
      .date { field := "length", patterns := ["UNIX"], onFailure := .pass }]
    let event : Event := {
      fields := [("message", .text "bob 7"), ("length", .integer 5)]
      raw := some "bob 7"
      tags := ["seen"] }
    event.Unique ∧ ∃ filters, (buildAll configs { registry := .empty }).1 = .ok filters ∧
      ∃ after, (chain filters 2024).pass event = .passed after ∧ after.raw = some "bob 7" ∧
        after.get? "length" = some (.integer 5) ∧ "seen" ∈ after.tags := by
  intro configs event
  have hunique : event.Unique := ⟨by decide, by decide⟩
  have hbuilt : (buildAll configs { registry := .empty }).1.toOption.any (fun filters =>
      filters.flatMap namedFields == ["_", "_", "name", "absent", "size", "@timestamp"] &&
      filters.flatMap namedTags == ["_grokparsefailure", "_dateparsefailure"] &&
      filters.all fun filter => filter.policy? != some .drop) = true := by decide +kernel
  obtain ⟨filters, hfilters, hnames⟩ := exists_ok hbuilt
  simp only [Bool.and_eq_true, beq_iff_eq, List.all_eq_true, bne_iff_ne] at hnames
  obtain ⟨⟨hfields, htags⟩, hpolicies⟩ := hnames
  obtain ⟨hpassed, -, hkept⟩ := pass_changes_only_named filters 2024 hunique
  obtain ⟨after, hpass, -, hraw, hget, htag⟩ := hpassed.resolve_right (hkept hpolicies)
  refine ⟨hunique, filters, hfilters, after, hpass, hraw, ?_, ?_⟩
  · rw [hget "length" (by rw [hfields]; decide)]
    rfl
  · exact (htag "seen" (by rw [htags]; decide)).mpr List.mem_cons_self

end Filter

end LogPipeline
