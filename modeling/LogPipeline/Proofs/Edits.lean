import LogPipeline.Proofs.Keyed

/-!
# Where the order of names comes from

A keyed list that is made by putting pairs in and dropping names has its names in the order in which they were last
created, and under each of them what was put there last. A name is created when it is put in and is not there at that
moment, so that putting it in again does not move it, and putting it in after it was dropped does.
-/

namespace LogPipeline.Keyed

/-- A single change of a keyed list. -/
inductive Edit (α : Type) where
  | put (key : String) (value : α)
  | drop (key : String)

variable {α : Type}

namespace Edit

def key : Edit α → String
  | .put key _ => key
  | .drop key => key

/-- What stands under the name afterwards. -/
def value? : Edit α → Option α
  | .put _ value => some value
  | .drop _ => none

def apply (m : Keyed α) : Edit α → Keyed α
  | .put key value => m.insert key value
  | .drop key => m.erase key

end Edit

/-! ## Histories -/

/-- What was put under a name last, unless the name was dropped after that. -/
def lastPut? (edits : List (Edit α)) (key : String) : Option α :=
  (edits.reverse.find? fun edit => edit.key = key).bind Edit.value?

/-- The edit at a moment puts in a name that is not there. -/
structure Creates (edits : List (Edit α)) (key : String) (moment : Nat) : Prop where
  put : ∃ value, edits[moment]? = some (.put key value)
  absent : lastPut? (edits.take moment) key = none

/-- A name is created at a moment, and not again later. -/
structure LastCreated (edits : List (Edit α)) (key : String) (moment : Nat) : Prop where
  creates : Creates edits key moment
  last : ∀ later, Creates edits key later → later ≤ moment

/-- A name was last created before another one. -/
def CreatedBefore (edits : List (Edit α)) (key other : String) : Prop :=
  ∃ moment later, LastCreated edits key moment ∧ LastCreated edits other later ∧ moment < later

/-- A keyed list holds what was put in last, in the order in which the names were last created. -/
structure Follows (edits : List (Edit α)) (m : Keyed α) : Prop where
  distinct : m.Distinct
  get? : ∀ key, m.get? key = lastPut? edits key
  created : ∀ key ∈ m.keys, ∃ moment, LastCreated edits key moment
  order : m.keys.Pairwise (CreatedBefore edits)

variable {edits : List (Edit α)} {edit : Edit α} {m : Keyed α} {key : String} {moment : Nat}

/-! ## One more edit -/

theorem lastPut?_append (edits : List (Edit α)) (edit : Edit α) (key : String) :
    lastPut? (edits ++ [edit]) key = if edit.key = key then edit.value? else lastPut? edits key := by
  rw [lastPut?, List.reverse_append, List.reverse_singleton, List.singleton_append, List.find?_cons]
  by_cases h : edit.key = key <;> simp [h, lastPut?]

theorem get?_apply (hd : m.Distinct) (edit : Edit α) (key : String) :
    (edit.apply m).get? key = if edit.key = key then edit.value? else m.get? key := by
  cases edit with
  | put name value => simp [Edit.apply, Edit.key, Edit.value?, get?_insert, eq_comm]
  | drop name => simp [Edit.apply, Edit.key, Edit.value?, get?_erase hd, eq_comm]

theorem Creates.lt_length (h : Creates edits key moment) : moment < edits.length := by
  obtain ⟨value, hput⟩ := h.put
  exact (List.getElem?_eq_some_iff.mp hput).1

/-- An edit behind all others creates at most the name that it puts in, and leaves earlier creations as they are. -/
theorem creates_append_iff : Creates (edits ++ [edit]) key moment ↔
    Creates edits key moment ∨
      moment = edits.length ∧ (∃ value, edit = .put key value) ∧ lastPut? edits key = none := by
  constructor
  · intro h
    obtain ⟨value, hput⟩ := h.put
    rcases Nat.lt_or_ge moment edits.length with hlt | hge
    · -- before the last edit, the longer history and the shorter one are the same
      rw [List.getElem?_append_left hlt] at hput
      have habsent := h.absent
      rw [List.take_append_of_le_length (Nat.le_of_lt hlt)] at habsent
      exact .inl ⟨⟨value, hput⟩, habsent⟩
    · have hlt := h.lt_length
      obtain rfl : moment = edits.length := by simp at hlt; omega
      have habsent := h.absent
      rw [List.take_left] at habsent
      exact .inr ⟨rfl, ⟨value, by simpa using hput⟩, habsent⟩
  · rintro (h | ⟨rfl, ⟨value, rfl⟩, habsent⟩)
    · have hlt := h.lt_length
      refine ⟨?_, ?_⟩
      · rw [List.getElem?_append_left hlt]
        exact h.put
      · rw [List.take_append_of_le_length (Nat.le_of_lt hlt)]
        exact h.absent
    · refine ⟨⟨value, by simp⟩, ?_⟩
      rwa [List.take_left]

/-- What is there is not created again. -/
theorem LastCreated.append (h : LastCreated edits key moment) (hp : lastPut? edits key ≠ none) (edit : Edit α) :
    LastCreated (edits ++ [edit]) key moment where
  creates := creates_append_iff.mpr (.inl h.creates)
  last later hl := by
    rcases creates_append_iff.mp hl with hl | ⟨-, -, habsent⟩
    · exact h.last later hl
    · exact absurd habsent hp

theorem lastCreated_put (hp : lastPut? edits key = none) (value : α) :
    LastCreated (edits ++ [.put key value]) key edits.length where
  creates := creates_append_iff.mpr (.inr ⟨rfl, ⟨value, rfl⟩, hp⟩)
  last later hl := by
    have hlt := hl.lt_length
    simp at hlt
    omega

theorem Follows.lastPut?_ne_none (h : Follows edits m) (hm : key ∈ m.keys) : lastPut? edits key ≠ none := by
  rw [← h.get?]
  exact fun hnone => get?_eq_none_iff.mp hnone hm

/-- The names that are there keep their order. -/
theorem Follows.pairwise_append (h : Follows edits m) (edit : Edit α) :
    m.keys.Pairwise (CreatedBefore (edits ++ [edit])) := by
  refine h.order.imp_of_mem fun {key other} hk ho hbefore => ?_
  obtain ⟨moment, later, hfirst, hsecond, hlt⟩ := hbefore
  exact ⟨moment, later, hfirst.append (h.lastPut?_ne_none hk) edit, hsecond.append (h.lastPut?_ne_none ho) edit, hlt⟩

theorem Follows.created_append (h : Follows edits m) (edit : Edit α) (hm : key ∈ m.keys) :
    ∃ moment, LastCreated (edits ++ [edit]) key moment := by
  obtain ⟨moment, hcreated⟩ := h.created key hm
  exact ⟨moment, hcreated.append (h.lastPut?_ne_none hm) edit⟩

theorem Follows.get?_append (h : Follows edits m) (edit : Edit α) (key : String) :
    (edit.apply m).get? key = lastPut? (edits ++ [edit]) key := by
  rw [get?_apply h.distinct, lastPut?_append, h.get?]

theorem Follows.put (h : Follows edits m) (key : String) (value : α) :
    Follows (edits ++ [.put key value]) (m.insert key value) := by
  by_cases hm : key ∈ m.keys
  · -- a name that is there keeps its place
    have hkeys := keys_insert_of_contains m value (contains_iff_mem_keys.mpr hm)
    refine ⟨h.distinct.insert key value, h.get?_append (.put key value), fun other ho => ?_, ?_⟩
    · exact h.created_append _ (hkeys ▸ ho)
    · rw [hkeys]
      exact h.pairwise_append _
  · -- a new one comes last, and was created last
    have hnew : LastCreated (edits ++ [.put key value]) key edits.length :=
      lastCreated_put ((h.get? key).symm.trans (get?_eq_none_iff.mpr hm)) value
    refine ⟨h.distinct.insert key value, h.get?_append (.put key value), fun other ho => ?_, ?_⟩
    · rcases mem_keys_insert.mp ho with rfl | ho
      · exact ⟨_, hnew⟩
      · exact h.created_append _ ho
    · rw [insert_of_notMem hm, keys_append, List.pairwise_append]
      refine ⟨h.pairwise_append _, List.pairwise_singleton _ _, fun other ho new hn => ?_⟩
      obtain rfl : new = key := by simpa using hn
      obtain ⟨moment, hmoment⟩ := h.created other ho
      exact ⟨moment, edits.length, hmoment.append (h.lastPut?_ne_none ho) _, hnew, hmoment.creates.lt_length⟩

theorem Follows.drop (h : Follows edits m) (key : String) : Follows (edits ++ [.drop key]) (m.erase key) := by
  have hkept : (m.erase key).keys.Sublist m.keys := by
    rw [keys_erase]
    exact List.erase_sublist
  refine ⟨h.distinct.erase key, h.get?_append (.drop key), fun other ho => ?_, ?_⟩
  · exact h.created_append (.drop key) (hkept.subset ho)
  · exact (h.pairwise_append (.drop key)).sublist hkept

theorem follows_nil : Follows [] ([] : Keyed α) := ⟨distinct_nil, fun _ => rfl, nofun, .nil⟩

end LogPipeline.Keyed
