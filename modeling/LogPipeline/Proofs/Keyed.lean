import LogPipeline.Keyed

/-!
# Names that occur once

Putting values in and removing them keeps the names of a keyed list distinct, and leaves what stands under
other names alone. Pairs with distinct names, put in one after the other, are the list they were. A list stays
as it is when a value is put in that is there already, or a name is removed that is not there. Lists with the
same under every name are the same up to their order. Of several pairs of one name that are put in, the first
gives the place and the last gives the value.
-/

namespace LogPipeline.Keyed

variable {α : Type} {m a b : Keyed α} {pairs : Keyed α} {key other : String} {value : α}

instance (m : Keyed α) : Decidable m.Distinct := inferInstanceAs (Decidable m.keys.Nodup)

@[simp] theorem keys_nil : keys ([] : Keyed α) = [] := rfl

@[simp] theorem keys_cons (pair : String × α) (m : Keyed α) : keys (pair :: m) = pair.1 :: keys m := rfl

@[simp] theorem keys_append (a b : Keyed α) : keys (a ++ b) = keys a ++ keys b := List.map_append

@[simp] theorem distinct_nil : Distinct ([] : Keyed α) := List.nodup_nil

@[simp] theorem distinct_cons (pair : String × α) (m : Keyed α) :
    Distinct (pair :: m) ↔ pair.1 ∉ m.keys ∧ m.Distinct := List.nodup_cons

theorem distinct_append : Distinct (a ++ b) ↔ a.Distinct ∧ b.Distinct ∧ ∀ key ∈ a.keys, key ∉ b.keys := by
  unfold Distinct
  rw [keys_append, List.nodup_append]
  constructor
  · rintro ⟨ha, hb, hne⟩
    exact ⟨ha, hb, fun key hk hk' => hne key hk key hk' rfl⟩
  · rintro ⟨ha, hb, hne⟩
    refine ⟨ha, hb, ?_⟩
    rintro key hk _ hk' rfl
    exact hne key hk hk'

theorem contains_iff_mem_keys : m.contains key = true ↔ key ∈ m.keys := by
  constructor
  · intro h
    obtain ⟨value, hv⟩ := Option.isSome_iff_exists.mp h
    exact mem_keys_of_get? hv
  · intro h
    induction m with
    | nil => cases h
    | cons pair rest ih =>
      obtain ⟨name, old⟩ := pair
      by_cases hk : name = key
      · simp [contains, get?, hk]
      · have hr : key ∈ keys rest := by simpa [Ne.symm hk] using h
        simpa [contains, get?, hk] using ih hr

theorem get?_append (a b : Keyed α) (key : String) : get? (a ++ b) key = (a.get? key).or (b.get? key) := by
  induction a with
  | nil => rfl
  | cons pair rest ih =>
    obtain ⟨name, value⟩ := pair
    by_cases hk : name = key <;> simp [get?, hk, ih]

/-- Changing every value, in a way that may depend on its name. -/
theorem get?_map {β : Type} (f : String → α → β) (m : Keyed α) (key : String) :
    get? (m.map fun pair => (pair.1, f pair.1 pair.2)) key = (m.get? key).map (f key) := by
  induction m with
  | nil => rfl
  | cons pair rest ih =>
    obtain ⟨name, value⟩ := pair
    by_cases hk : name = key
    · subst hk
      simp [get?]
    · simp [get?, hk, ih]

/-- A new name comes last. -/
theorem insert_of_notMem (h : key ∉ m.keys) (value : α) : m.insert key value = m ++ [(key, value)] := by
  induction m with
  | nil => rfl
  | cons pair rest ih =>
    obtain ⟨name, old⟩ := pair
    obtain ⟨hne, hr⟩ : key ≠ name ∧ key ∉ keys rest := by simpa using h
    simp [insert, Ne.symm hne, ih hr]

theorem mem_keys_insert : other ∈ (m.insert key value).keys ↔ other = key ∨ other ∈ m.keys := by
  by_cases h : key ∈ m.keys
  · rw [keys_insert_of_contains m value (contains_iff_mem_keys.mpr h)]
    constructor
    · exact .inr
    · rintro (rfl | hm)
      · exact h
      · exact hm
  · rw [insert_of_notMem h]
    simp [or_comm]

theorem keys_erase (m : Keyed α) (key : String) : (m.erase key).keys = m.keys.erase key := by
  induction m with
  | nil => rfl
  | cons pair rest ih =>
    obtain ⟨name, old⟩ := pair
    by_cases hk : name = key
    · simp [erase, hk]
    · simp [erase, hk, ih]

theorem Distinct.insert (h : m.Distinct) (key : String) (value : α) : (m.insert key value).Distinct := by
  by_cases hm : key ∈ m.keys
  · unfold Distinct
    rwa [keys_insert_of_contains m value (contains_iff_mem_keys.mpr hm)]
  · rw [insert_of_notMem hm, distinct_append]
    refine ⟨h, by simp, fun name hn hk => hm ?_⟩
    obtain rfl : name = key := by simpa using hk
    exact hn

theorem Distinct.erase (h : m.Distinct) (key : String) : (m.erase key).Distinct := by
  unfold Distinct
  rw [keys_erase]
  exact List.Nodup.erase key h

/-- Pairs whose names are new and differ go behind what is there. -/
theorem insertAll_of_distinct (hd : Distinct (m ++ pairs)) : m.insertAll pairs = m ++ pairs := by
  induction pairs generalizing m with
  | nil => simp [insertAll]
  | cons pair rest ih =>
    have hnew : pair.1 ∉ m.keys := fun hm => (distinct_append.mp hd).2.2 _ hm List.mem_cons_self
    have hassoc : m ++ pair :: rest = (m ++ [pair]) ++ rest := by simp
    rw [hassoc] at hd
    calc m.insertAll (pair :: rest)
        = (m.insert pair.1 pair.2).insertAll rest := rfl
      _ = (m ++ [pair]).insertAll rest := by rw [insert_of_notMem hnew]
      _ = m ++ pair :: rest := by rw [ih hd, hassoc]

theorem ofPairs_of_distinct (h : Distinct pairs) : ofPairs pairs = pairs := insertAll_of_distinct h

/-! ## Changes that change nothing -/

theorem insert_eq_self_iff : m.insert key value = m ↔ m.get? key = some value := by
  refine ⟨fun h => h ▸ get?_insert_self m key value, fun h => ?_⟩
  induction m with
  | nil => cases h
  | cons pair rest ih =>
    obtain ⟨name, old⟩ := pair
    by_cases hk : name = key
    · obtain rfl : old = value := by simpa [get?, hk] using h
      simp [insert, hk]
    · have hr : get? rest key = some value := by simpa [get?, hk] using h
      simp [insert, hk, ih hr]

theorem erase_of_notMem (h : key ∉ m.keys) : m.erase key = m := by
  induction m with
  | nil => rfl
  | cons pair rest ih =>
    obtain ⟨name, old⟩ := pair
    obtain ⟨hne, hr⟩ : key ≠ name ∧ key ∉ keys rest := by simpa using h
    simp [erase, Ne.symm hne, ih hr]

theorem erase_erase (h : m.Distinct) (key : String) : (m.erase key).erase key = m.erase key := by
  refine erase_of_notMem ?_
  rw [keys_erase]
  exact List.Nodup.not_mem_erase h

theorem erase_comm (m : Keyed α) (key other : String) : (m.erase key).erase other = (m.erase other).erase key := by
  induction m with
  | nil => rfl
  | cons pair rest ih =>
    obtain ⟨name, old⟩ := pair
    by_cases hk : name = key <;> by_cases ho : name = other <;> simp_all [erase]

theorem get?_adjust_self (m : Keyed α) (key : String) (f : α → α) :
    (m.adjust key f).get? key = (m.get? key).map f := by
  unfold adjust
  split
  · rename_i value hvalue
    rw [get?_insert_self, hvalue, Option.map_some]
  · rename_i hnone
    rw [hnone, Option.map_none]

theorem get?_adjust_of_ne (m : Keyed α) (f : α → α) (h : other ≠ key) :
    (m.adjust key f).get? other = m.get? other := by
  unfold adjust
  split
  · exact get?_insert_of_ne m _ h
  · rfl

theorem keys_adjust (m : Keyed α) (key : String) (f : α → α) : (m.adjust key f).keys = m.keys := by
  unfold adjust
  split
  · rename_i value hvalue
    exact keys_insert_of_contains m _ (Option.isSome_iff_exists.mpr ⟨value, hvalue⟩)
  · rfl

theorem Distinct.adjust (h : m.Distinct) (key : String) (f : α → α) : (m.adjust key f).Distinct := by
  unfold Keyed.adjust
  split
  · exact h.insert key _
  · exact h

theorem adjust_eq_self_iff {f : α → α} : m.adjust key f = m ↔ ∀ value, m.get? key = some value → f value = value := by
  unfold adjust
  split
  · rename_i value hvalue
    rw [insert_eq_self_iff, hvalue]
    simp only [Option.some.injEq, forall_eq', eq_comm]
  · rename_i hnone
    simp [hnone]

/-! ## Lists with the same under every name -/

theorem get?_eq_none_iff : m.get? key = none ↔ key ∉ m.keys := by
  rw [← contains_iff_mem_keys, contains, Bool.not_eq_true, Option.isSome_eq_false_iff, Option.isNone_iff_eq_none]

theorem get?_insert (m : Keyed α) (key other : String) (value : α) :
    (m.insert key value).get? other = if other = key then some value else m.get? other := by
  split
  · rename_i h
    rw [h, get?_insert_self]
  · rename_i h
    exact get?_insert_of_ne m value h

theorem get?_erase (h : m.Distinct) (key other : String) :
    (m.erase key).get? other = if other = key then none else m.get? other := by
  split
  · rename_i ho
    rw [ho, get?_eq_none_iff, keys_erase]
    exact List.Nodup.not_mem_erase h
  · rename_i ho
    exact get?_erase_of_ne m ho

theorem get?_adjust (m : Keyed α) (key other : String) (f : α → α) :
    (m.adjust key f).get? other = if other = key then (m.get? key).map f else m.get? other := by
  split
  · rename_i h
    rw [h, get?_adjust_self]
  · rename_i h
    exact get?_adjust_of_ne m f h

theorem mem_iff_get? (h : m.Distinct) : (key, value) ∈ m ↔ m.get? key = some value := by
  induction m with
  | nil => simp
  | cons pair rest ih =>
    obtain ⟨name, old⟩ := pair
    obtain ⟨hnew, hrest⟩ := (distinct_cons _ _).mp h
    rw [List.mem_cons, ih hrest, Prod.mk.injEq, get?]
    by_cases hk : name = key
    · -- the name is not in the rest, so that only the first pair counts
      subst hk
      have hnone : get? rest name = none := get?_eq_none_iff.mpr hnew
      simp [hnone, eq_comm]
    · simp [hk, Ne.symm hk]

theorem Distinct.nodup (h : m.Distinct) : m.Nodup :=
  List.Pairwise.of_map Prod.fst (fun _ _ hne heq => hne (congrArg Prod.fst heq)) h

theorem perm_of_get?_eq (ha : a.Distinct) (hb : b.Distinct) (h : ∀ key, a.get? key = b.get? key) : a.Perm b := by
  refine (List.perm_ext_iff_of_nodup ha.nodup hb.nodup).mpr fun pair => ?_
  rw [mem_iff_get? ha, mem_iff_get? hb, h]

theorem get?_eq_of_perm (h : a.Distinct) (hp : a.Perm b) (key : String) : a.get? key = b.get? key := by
  have hb : b.Distinct := (hp.map Prod.fst).nodup h
  refine Option.ext fun value => ?_
  rw [← mem_iff_get? h, ← mem_iff_get? hb, hp.mem_iff]

/-! ## Pairs left alone -/

theorem filter_insert {p : String → Bool} (h : p key = false) (m : Keyed α) (value : α) :
    (m.insert key value).filter (fun pair => p pair.1) = m.filter fun pair => p pair.1 := by
  induction m with
  | nil => simp [insert, h]
  | cons pair rest ih =>
    obtain ⟨name, old⟩ := pair
    by_cases hk : name = key
    · subst hk
      simp [insert, h]
    · simp [insert, hk, List.filter_cons, ih]

theorem filter_erase {p : String → Bool} (h : p key = false) (m : Keyed α) :
    (m.erase key).filter (fun pair => p pair.1) = m.filter fun pair => p pair.1 := by
  induction m with
  | nil => rfl
  | cons pair rest ih =>
    obtain ⟨name, old⟩ := pair
    by_cases hk : name = key
    · subst hk
      simp [erase, h]
    · simp [erase, hk, List.filter_cons, ih]

/-! ## Many pairs at once -/

/-- The names that are there keep their places; the new ones come behind them in the order of their first pairs. -/
theorem keys_insertAll (m : Keyed α) (pairs : List (String × α)) :
    (m.insertAll pairs).keys = m.keys ++ ((keys pairs).filter (· ∉ m.keys)).eraseDups := by
  induction pairs generalizing m with
  | nil => simp [insertAll]
  | cons pair rest ih =>
    show ((m.insert pair.1 pair.2).insertAll rest).keys = _
    rw [ih, keys_cons, List.filter_cons]
    by_cases h : pair.1 ∈ m.keys
    · rw [keys_insert_of_contains m _ (contains_iff_mem_keys.mpr h), if_neg (by simpa using h)]
    · -- the later pairs of the name are left out with it
      rw [insert_of_notMem h, keys_append, if_pos (by simpa using h), List.eraseDups_cons, List.filter_filter,
        List.append_assoc]
      simp [Bool.beq_eq_decide_eq, Bool.and_comm]

theorem keys_ofPairs (pairs : List (String × α)) : (ofPairs pairs).keys = (keys pairs).eraseDups := by
  rw [ofPairs, keys_insertAll, keys_nil, List.nil_append, List.filter_eq_self.mpr (by simp)]

/-- Of several pairs of one name the last counts. -/
theorem get?_insertAll (m : Keyed α) (pairs : List (String × α)) (key : String) :
    (m.insertAll pairs).get? key = (get? pairs.reverse key).or (m.get? key) := by
  induction pairs generalizing m with
  | nil => rfl
  | cons pair rest ih =>
    show ((m.insert pair.1 pair.2).insertAll rest).get? key = _
    rw [ih, List.reverse_cons, get?_append, Option.or_assoc, get?_insert]
    simp only [get?, eq_comm]
    split <;> rfl

theorem get?_ofPairs (pairs : List (String × α)) (key : String) : (ofPairs pairs).get? key = get? pairs.reverse key := by
  rw [ofPairs, get?_insertAll, get?_nil, Option.or_none]

theorem Distinct.insertAll (h : m.Distinct) (pairs : List (String × α)) : (m.insertAll pairs).Distinct := by
  induction pairs generalizing m with
  | nil => exact h
  | cons pair rest ih => exact ih (h.insert pair.1 pair.2)

theorem keys_insertAll_of_distinct (h : Distinct pairs) (m : Keyed α) :
    (m.insertAll pairs).keys = m.keys ++ (keys pairs).filter (· ∉ m.keys) := by
  have hnew : Distinct (pairs.filter fun pair => pair.1 ∉ m.keys) := (List.filter_sublist.map Prod.fst).nodup h
  have hkeys : keys (pairs.filter fun pair => pair.1 ∉ m.keys) = (keys pairs).filter (· ∉ m.keys) := by
    unfold keys
    rw [List.filter_map]
    rfl
  rw [keys_insertAll, ← hkeys, ← keys_ofPairs, ofPairs_of_distinct hnew]

end LogPipeline.Keyed
