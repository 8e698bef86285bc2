import LogPipeline.Proofs.Filter.Independence

/-!
# Several fields renamed

A renaming goes through its entries one after the other, so an entry may take away what an earlier one has put down.
Where the new names differ from each other and from all old names, that does not happen: every field goes from its old
name to its new one as if all went at once.
-/

namespace LogPipeline.Filter.Mutation

variable {renames others rest : Keyed String} {first rename : String × String} {event : Event} {name : String}

/-- New names that differ from each other and from the old names, which differ too. -/
structure SafeRenames (renames : Keyed String) : Prop where
  old : renames.Distinct
  new : (renames.map Prod.snd).Nodup
  apart : ∀ rename ∈ renames, rename.2 ∉ renames.keys

theorem mem_renameOperands :
    name ∈ (renameField renames).fieldOperands ↔ ∃ rename ∈ renames, name = rename.1 ∨ name = rename.2 := by
  simp [fieldOperands]

theorem SafeRenames.ne (h : SafeRenames renames) (hm : rename ∈ renames) : rename.1 ≠ rename.2 := by
  intro heq
  exact h.apart rename hm (heq ▸ List.mem_map_of_mem hm)

theorem SafeRenames.tail (h : SafeRenames (first :: rest)) : SafeRenames rest where
  old := ((Keyed.distinct_cons first rest).mp h.old).2
  new := (List.nodup_cons.mp h.new).2
  apart rename hm := by
    have := h.apart rename (List.mem_cons_of_mem _ hm)
    rw [Keyed.keys_cons, List.mem_cons, not_or] at this
    exact this.2

/-- The names of an entry are none of those of the other entries. -/
theorem SafeRenames.head_notMem (h : SafeRenames (first :: rest)) (hn : name = first.1 ∨ name = first.2) :
    name ∉ (renameField rest).fieldOperands := by
  rw [mem_renameOperands]
  rintro ⟨rename, hm, heq⟩
  have hold : rename.1 ∈ rest.keys := List.mem_map_of_mem hm
  have hnew : rename.2 ∈ rest.map Prod.snd := List.mem_map_of_mem hm
  have hsafe := h.apart rename (List.mem_cons_of_mem _ hm)
  have hfirst := h.apart first List.mem_cons_self
  rw [Keyed.keys_cons, List.mem_cons, not_or] at hsafe hfirst
  rcases hn with rfl | rfl <;> rcases heq with heq | heq
  · exact ((Keyed.distinct_cons first rest).mp h.old).1 (heq ▸ hold)
  · exact hsafe.1 heq.symm
  · exact hfirst.2 (heq ▸ hold)
  · exact (List.nodup_cons.mp h.new).1 (heq ▸ hnew)

theorem SafeRenames.perm (h : SafeRenames renames) (hp : renames.Perm others) : SafeRenames others where
  old := ((hp.map Prod.fst).nodup_iff).mp h.old
  new := ((hp.map Prod.snd).nodup_iff).mp h.new
  apart rename hm hk := h.apart rename (hp.mem_iff.mpr hm) ((hp.map Prod.fst).mem_iff.mpr hk)

/-! ## One entry -/

theorem get?_renameOne_new (event : Event) (rename : String × String) :
    (renameOne event rename).get? rename.2 = (event.get? rename.1).or (event.get? rename.2) := by
  unfold renameOne
  split
  · rename_i value hvalue
    rw [Event.get?_insert_self, hvalue, Option.some_or]
  · rename_i hnone
    rw [hnone, Option.none_or]

theorem get?_renameOne_old (hu : event.Unique) (hne : rename.1 ≠ rename.2) :
    (renameOne event rename).get? rename.1 = none := by
  unfold renameOne
  split
  · rename_i value _
    have hkept := ((event.remove rename.1).changesOnly_insert rename.2 value).get? rename.1 (by simpa using hne)
    rw [hkept, Event.get?, Event.remove, Keyed.get?_erase hu.fields, if_pos rfl]
  · assumption

theorem tags_renameOne (event : Event) (rename : String × String) : (renameOne event rename).tags = event.tags := by
  unfold renameOne
  split <;> rfl

theorem filter_renameOne {p : String → Bool} (hold : p rename.1 = false) (hnew : p rename.2 = false) (event : Event) :
    (renameOne event rename).fields.filter (fun field => p field.1) = event.fields.filter fun field => p field.1 := by
  unfold renameOne
  split
  · simp only [Event.insert, Event.remove]
    rw [Keyed.filter_insert hnew, Keyed.filter_erase hold]
  · rfl

/-! ## All entries -/

/-- Each field goes to its new name, and nothing stays under the old one. -/
theorem get?_renamed (h : SafeRenames renames) (hu : event.Unique) (hm : rename ∈ renames) :
    ((renameField renames).apply event).get? rename.2 = (event.get? rename.1).or (event.get? rename.2) ∧
      ((renameField renames).apply event).get? rename.1 = none := by
  induction renames generalizing event with
  | nil => cases hm
  | cons first rest ih =>
    have hfirst := changesOnly_renameOne event first
    show ((renameField rest).apply (renameOne event first)).get? rename.2 = _ ∧
      ((renameField rest).apply (renameOne event first)).get? rename.1 = none
    rcases List.mem_cons.mp hm with rfl | hm
    · -- what the first entry has done, the others leave as it is
      have hrest := (renameField rest).apply_changesOnly (renameOne event rename)
      rw [hrest.get? rename.2 (h.head_notMem (.inr rfl)), hrest.get? rename.1 (h.head_notMem (.inl rfl))]
      exact ⟨get?_renameOne_new event rename, get?_renameOne_old hu (h.ne List.mem_cons_self)⟩
    · -- the names of the other entries are still as they were when their turn comes
      have hkept (name : String) (hn : name = rename.1 ∨ name = rename.2) :
          (renameOne event first).get? name = event.get? name := by
        refine hfirst.get? name fun hf => h.head_notMem ?_ (mem_renameOperands.mpr ⟨rename, hm, hn⟩)
        simpa using hf
      rw [← hkept rename.1 (.inl rfl), ← hkept rename.2 (.inr rfl)]
      exact ih h.tail (hfirst.unique hu) hm

theorem filter_renamed {p : String → Bool} (hp : ∀ name ∈ (renameField renames).fieldOperands, p name = false)
    (event : Event) :
    ((renameField renames).apply event).fields.filter (fun field => p field.1) =
      event.fields.filter fun field => p field.1 := by
  refine List.foldlRecOn (motive := fun after : Event =>
      after.fields.filter (fun field => p field.1) = event.fields.filter fun field => p field.1)
    renames renameOne rfl fun before hbefore rename hm => ?_
  have hold := hp rename.1 (mem_renameOperands.mpr ⟨rename, hm, .inl rfl⟩)
  have hnew := hp rename.2 (mem_renameOperands.mpr ⟨rename, hm, .inr rfl⟩)
  exact (filter_renameOne hold hnew before).trans hbefore

theorem tags_renamed (renames : Keyed String) (event : Event) :
    ((renameField renames).apply event).tags = event.tags :=
  List.foldlRecOn (motive := fun after => after.tags = event.tags) renames renameOne rfl
    fun before hbefore rename _ => (tags_renameOne before rename).trans hbefore

/-- Once no field has an old name there is nothing left to rename. -/
theorem renamed_of_absent (h : ∀ rename ∈ renames, event.get? rename.1 = none) :
    (renameField renames).apply event = event := by
  refine Settling.foldl_eq_self fun rename hm => ?_
  unfold renameOne
  rw [h rename hm]

/-- The order of the entries does not matter but for the order of the fields that they make. -/
theorem renamed_perm (h : SafeRenames renames) (hp : renames.Perm others) (hu : event.Unique) :
    ((renameField others).apply event).Rearranges ((renameField renames).apply event) := by
  have hothers := (renameField others).apply_changesOnly event
  have hrenames := (renameField renames).apply_changesOnly event
  refine Event.AgreeOn.rearranges ⟨hothers.unique hu, hrenames.unique hu, hothers.raw.trans hrenames.raw.symm,
    fun name _ => ?_, fun tag _ => by rw [tags_renamed, tags_renamed]⟩
  by_cases hn : name ∈ (renameField renames).fieldOperands
  · obtain ⟨rename, hm, hname⟩ := mem_renameOperands.mp hn
    obtain ⟨hnew, hold⟩ := get?_renamed h hu hm
    obtain ⟨hnew', hold'⟩ := get?_renamed (h.perm hp) hu (hp.mem_iff.mp hm)
    rcases hname with rfl | rfl
    · rw [hold, hold']
    · rw [hnew, hnew']
  · have hn' : name ∉ (renameField others).fieldOperands := by
      rw [mem_renameOperands] at hn ⊢
      simpa only [hp.mem_iff] using hn
    rw [hothers.get? name hn', hrenames.get? name hn]

/-- A renaming whose new names differ from each other and from the old ones acts on all fields at once. Under each new
name stands what stood under the old one, or, if there was nothing, what stood under the new one before; no field has
an old name any more; all others have their values and their order, and tags and line are as they were. Renaming again
changes nothing, and neither does another order of the entries, but for the order of the fields. -/
theorem renames_at_once (h : SafeRenames renames) (hu : event.Unique) :
    let after := (renameField renames).apply event
    (∀ rename ∈ renames, after.get? rename.2 = (event.get? rename.1).or (event.get? rename.2)) ∧
      (∀ rename ∈ renames, rename.1 ∉ after.fields.keys) ∧
      after.fields.filter (fun field => field.1 ∉ (renameField renames).fieldOperands) =
        event.fields.filter (fun field => field.1 ∉ (renameField renames).fieldOperands) ∧
      after.tags = event.tags ∧ after.raw = event.raw ∧
      (renameField renames).apply after = after ∧
      ∀ others, renames.Perm others → ((renameField others).apply event).Rearranges after := by
  intro after
  have hnamed : ∀ name ∈ (renameField renames).fieldOperands,
      decide (name ∉ (renameField renames).fieldOperands) = false := by simp
  have hgone : ∀ rename ∈ renames, after.get? rename.1 = none := fun rename hm => (get?_renamed h hu hm).2
  exact ⟨fun rename hm => (get?_renamed h hu hm).1, fun rename hm => Keyed.get?_eq_none_iff.mp (hgone rename hm),
    filter_renamed hnamed event, tags_renamed renames event, ((renameField renames).apply_changesOnly event).raw,
    renamed_of_absent hgone, fun others hp => renamed_perm h hp hu⟩

/-- A new name that the event has already, an old name that it does not have, and fields around them. -/
theorem renames_at_once_of_taken :
    let renames : Keyed String := [("src", "source"), ("gone", "dest"), ("port", "sport")]
    let event : Event :=
      { fields := [("a", .integer 1), ("port", .integer 53), ("source", .text "old"), ("dest", .text "kept"),
          ("src", .text "new"), ("z", .bool true)]
        tags := ["seen"] }
    SafeRenames renames ∧ event.Unique ∧
      let after := (renameField renames).apply event
      after.get? "source" = some (.text "new") ∧ after.get? "dest" = some (.text "kept") ∧
        "src" ∉ after.fields.keys ∧ (renameField renames).apply after = after ∧
        ((renameField renames.reverse).apply event).Rearranges after := by
  intro renames event
  have h : SafeRenames renames := ⟨by decide, by decide, by decide⟩
  have hu : event.Unique := ⟨by decide, by decide⟩
  obtain ⟨hnew, hold, -, -, -, htwice, hperm⟩ := renames_at_once h hu
  refine ⟨h, hu, ?_, ?_, ?_, htwice, hperm _ (List.reverse_perm renames).symm⟩
  · exact hnew ("src", "source") (by decide)
  · exact hnew ("gone", "dest") (by decide)
  · exact hold ("src", "source") (by decide)

end LogPipeline.Filter.Mutation
