import LogPipeline.Proofs.Filter.Mutation

/-!
# Actions on different names

What an action puts under the names that it is given depends on what stands under these names, and on nothing else of
the event. With what `Frame` says about all other names, two actions that name different fields and different tags
give the same event in either order, up to the order of its fields and of its tags.
-/

namespace LogPipeline

namespace Event

/-- The same event but for the order of its fields and of its tags. -/
structure Rearranges (a b : Event) : Prop where
  raw : a.raw = b.raw
  fields : a.fields.Perm b.fields
  tags : a.tags.Perm b.tags

/-- Events with the same line, and with the same fields and tags as far as they are in question. -/
structure AgreeOn (fields tags : String → Prop) (a b : Event) : Prop where
  left : a.Unique
  right : b.Unique
  raw : a.raw = b.raw
  get? : ∀ field, fields field → a.get? field = b.get? field
  hasTag : ∀ tag, tags tag → (tag ∈ a.tags ↔ tag ∈ b.tags)

variable {fields tags : String → Prop} {a b c event : Event} {field tag : String}

theorem AgreeOn.symm (h : AgreeOn fields tags a b) : AgreeOn fields tags b a where
  left := h.right
  right := h.left
  raw := h.raw.symm
  get? field hf := (h.get? field hf).symm
  hasTag tag ht := (h.hasTag tag ht).symm

theorem AgreeOn.trans (h : AgreeOn fields tags a b) (h' : AgreeOn fields tags b c) : AgreeOn fields tags a c where
  left := h.left
  right := h'.right
  raw := h.raw.trans h'.raw
  get? field hf := (h.get? field hf).trans (h'.get? field hf)
  hasTag tag ht := (h.hasTag tag ht).trans (h'.hasTag tag ht)

/-- Events that agree on everything have the same fields and tags in some order. -/
theorem AgreeOn.rearranges (h : AgreeOn (fun _ => True) (fun _ => True) a b) : a.Rearranges b where
  raw := h.raw
  fields := Keyed.perm_of_get?_eq h.left.fields h.right.fields fun field => h.get? field trivial
  tags := (List.perm_ext_iff_of_nodup h.left.tags h.right.tags).mpr fun tag => h.hasTag tag trivial

theorem ChangesOnly.agreeOn {named namedTags : List String} (h : a.ChangesOnly named namedTags b) (hu : a.Unique) :
    AgreeOn (· ∉ named) (· ∉ namedTags) a b where
  left := hu
  right := h.unique hu
  raw := h.raw.symm
  get? field hf := (h.get? field hf).symm
  hasTag tag ht := (h.hasTag tag ht).symm

/-! ## One step on two events -/

theorem AgreeOn.insert (h : AgreeOn fields tags a b) (field : String) (value : Value) :
    AgreeOn fields tags (a.insert field value) (b.insert field value) where
  left := (a.changesOnly_insert field value).unique h.left
  right := (b.changesOnly_insert field value).unique h.right
  raw := h.raw
  get? other ho := by
    have := h.get? other ho
    simp only [Event.get?] at this
    simp only [Event.get?, Event.insert, Keyed.get?_insert, this]
  hasTag := h.hasTag

theorem AgreeOn.remove (h : AgreeOn fields tags a b) (field : String) :
    AgreeOn fields tags (a.remove field) (b.remove field) where
  left := (a.changesOnly_remove field).unique h.left
  right := (b.changesOnly_remove field).unique h.right
  raw := h.raw
  get? other ho := by
    have := h.get? other ho
    simp only [Event.get?] at this
    simp only [Event.get?, Event.remove, Keyed.get?_erase h.left.fields, Keyed.get?_erase h.right.fields, this]
  hasTag := h.hasTag

/-- A change of a value needs the value to be the same in both events. -/
theorem AgreeOn.adjust (h : AgreeOn fields tags a b) (hf : fields field) (f : Value → Value) :
    AgreeOn fields tags (a.adjust field f) (b.adjust field f) where
  left := ⟨h.left.fields.adjust field f, h.left.tags⟩
  right := ⟨h.right.fields.adjust field f, h.right.tags⟩
  raw := h.raw
  get? other ho := by
    have hother := h.get? other ho
    have hfield := h.get? field hf
    simp only [Event.get?] at hother hfield
    simp only [Event.get?, Event.adjust, Keyed.get?_adjust, hother, hfield]
  hasTag := h.hasTag

theorem AgreeOn.addTag (h : AgreeOn fields tags a b) (tag : String) :
    AgreeOn fields tags (a.addTag tag) (b.addTag tag) where
  left := (a.changesOnly_addTag tag).unique h.left
  right := (b.changesOnly_addTag tag).unique h.right
  raw := ((a.changesOnly_addTag tag).raw.trans h.raw).trans (b.changesOnly_addTag tag).raw.symm
  get? field hf := by
    rw [(a.changesOnly_addTag tag).get? field List.not_mem_nil, (b.changesOnly_addTag tag).get? field List.not_mem_nil,
      h.get? field hf]
  hasTag other ho := by rw [mem_tags_addTag, mem_tags_addTag, h.hasTag other ho]

theorem AgreeOn.removeTag (h : AgreeOn fields tags a b) (tag : String) :
    AgreeOn fields tags (a.removeTag tag) (b.removeTag tag) where
  left := (a.changesOnly_removeTag tag).unique h.left
  right := (b.changesOnly_removeTag tag).unique h.right
  raw := h.raw
  get? := h.get?
  hasTag other ho := by
    unfold Event.removeTag
    rw [h.left.tags.mem_erase_iff, h.right.tags.mem_erase_iff, h.hasTag other ho]

theorem AgreeOn.foldl {α : Type} {step : Event → α → Event} {operands : List α}
    (hstep : ∀ operand ∈ operands, ∀ a b, AgreeOn fields tags a b →
      AgreeOn fields tags (step a operand) (step b operand))
    (h : AgreeOn fields tags a b) : AgreeOn fields tags (operands.foldl step a) (operands.foldl step b) := by
  induction operands generalizing a b with
  | nil => exact h
  | cons operand rest ih =>
    obtain ⟨hfirst, hrest⟩ := List.forall_mem_cons.mp hstep
    exact ih hrest (hfirst a b h)

end Event

namespace Filter.Mutation

open Event (AgreeOn)

variable {fields tags : String → Prop} {mutation first second : Mutation} {a b event : Event}

theorem agreeOn_mapText (f : List Char → List Char) {names : List String} (hn : ∀ field ∈ names, fields field)
    (h : AgreeOn fields tags a b) : AgreeOn fields tags (names.foldl (mapText f) a) (names.foldl (mapText f) b) := by
  refine h.foldl fun field hm a b h => ?_
  rw [mapText_eq_adjust, mapText_eq_adjust]
  exact h.adjust (hn field hm) _

theorem agreeOn_renameOne {rename : String × String} (hn : fields rename.1) (h : AgreeOn fields tags a b) :
    AgreeOn fields tags (renameOne a rename) (renameOne b rename) := by
  unfold renameOne
  rw [h.get? rename.1 hn]
  split
  · exact (h.remove rename.1).insert rename.2 _
  · exact h

/-! ## Whole actions -/

/-- Events that agree on the fields that an action names, and perhaps on more, agree on them after it. -/
theorem apply_agreeOn (hn : ∀ field ∈ mutation.fieldOperands, fields field) (h : AgreeOn fields tags a b) :
    AgreeOn fields tags (mutation.apply a) (mutation.apply b) := by
  cases mutation with
  | removeField names => exact h.foldl fun field _ _ _ h => h.remove field
  | addField values =>
    simp only [apply, Event.insertAll_eq_foldl]
    exact h.foldl fun pair _ _ _ h => h.insert pair.1 pair.2
  | renameField renames =>
    refine h.foldl fun rename hm _ _ h => agreeOn_renameOne (hn rename.1 ?_) h
    exact List.mem_flatMap.mpr ⟨rename, hm, List.mem_cons_self⟩
  | addTag names => exact h.foldl fun tag _ _ _ h => h.addTag tag
  | removeTag names => exact h.foldl fun tag _ _ _ h => h.removeTag tag
  | uppercase names => exact agreeOn_mapText Text.toUpper hn h
  | lowercase names => exact agreeOn_mapText Text.toLower hn h
  | convert conversions =>
    refine h.foldl fun entry hm a b h => ?_
    rw [convertOne_eq_adjust, convertOne_eq_adjust]
    exact h.adjust (hn entry.1 (List.mem_map_of_mem hm)) _

/-- The order of two actions does not matter where the one names nothing that the other names. -/
theorem agreeOn_swapped (hf : ∀ field ∈ second.fieldOperands, field ∉ first.fieldOperands) (hu : event.Unique) :
    AgreeOn (· ∉ first.fieldOperands) (· ∉ first.tagOperands) (first.apply (second.apply event))
      (second.apply (first.apply event)) := by
  have hsecond : (second.apply event).Unique := (second.apply_changesOnly event).unique hu
  -- the first action changes neither what the second has done nor what it starts from
  have hlast := ((first.apply_changesOnly (second.apply event)).agreeOn hsecond).symm
  have hstart := (first.apply_changesOnly event).agreeOn hu
  exact hlast.trans (apply_agreeOn hf hstart)

/-- Two actions that name different fields, old and new names of a renaming alike, and different tags give the same
in either order, up to the order of fields and of tags. -/
theorem apply_comm_of_disjoint (hf : ∀ field ∈ first.fieldOperands, field ∉ second.fieldOperands)
    (ht : ∀ tag ∈ first.tagOperands, tag ∉ second.tagOperands) (hu : event.Unique) :
    (first.apply (second.apply event)).Rearranges (second.apply (first.apply event)) := by
  have houtsideFirst := agreeOn_swapped (fun field hm hm' => hf field hm' hm) hu
  have houtsideSecond := (agreeOn_swapped hf hu).symm
  refine Event.AgreeOn.rearranges ⟨houtsideFirst.left, houtsideFirst.right, houtsideFirst.raw, fun field _ => ?_,
    fun tag _ => ?_⟩
  · by_cases hm : field ∈ first.fieldOperands
    · exact houtsideSecond.get? field (hf field hm)
    · exact houtsideFirst.get? field hm
  · by_cases hm : tag ∈ first.tagOperands
    · exact houtsideSecond.hasTag tag (ht tag hm)
    · exact houtsideFirst.hasTag tag hm

/-- A renaming by way of a third name, and fields that are put in. Which of the new fields comes last depends on the
order of the two. -/
theorem apply_comm_of_disjoint_of_rename :
    let first : Mutation := .renameField [("host", "name"), ("name", "server")]
    let second : Mutation := .addField [("env", .text "prod"), ("port", .integer 53)]
    let event : Event :=
      { fields := [("host", .text "Web1"), ("port", .text "any")], raw := some "Web1 any", tags := ["seen"] }
    (∀ field ∈ first.fieldOperands, field ∉ second.fieldOperands) ∧
      (∀ tag ∈ first.tagOperands, tag ∉ second.tagOperands) ∧ event.Unique ∧
      (first.apply (second.apply event)).Rearranges (second.apply (first.apply event)) ∧
      (first.apply (second.apply event)).fields.keys = ["port", "env", "server"] ∧
      (second.apply (first.apply event)).fields.keys = ["port", "server", "env"] := by
  intro first second event
  have hf : ∀ field ∈ first.fieldOperands, field ∉ second.fieldOperands := by decide
  have ht : ∀ tag ∈ first.tagOperands, tag ∉ second.tagOperands := by decide
  have hu : event.Unique := ⟨by decide, by decide⟩
  exact ⟨hf, ht, hu, apply_comm_of_disjoint hf ht hu, by decide, by decide⟩

end Filter.Mutation

end LogPipeline
