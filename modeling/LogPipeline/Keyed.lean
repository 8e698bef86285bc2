/-!
# Values by name, in order of arrival

A list of pairs in which a name keeps the place where it first came. Putting a value under a name that
is there replaces the old value in its place; removing a name leaves the order of the others.
-/

namespace LogPipeline

abbrev Keyed (α : Type) := List (String × α)

namespace Keyed

variable {α : Type}

def keys (m : Keyed α) : List String := m.map Prod.fst

def get? : Keyed α → String → Option α
  | [], _ => none
  | (name, value) :: rest, key => if name = key then some value else get? rest key

def contains (m : Keyed α) (key : String) : Bool := (m.get? key).isSome

def insert : Keyed α → String → α → Keyed α
  | [], key, value => [(key, value)]
  | (name, old) :: rest, key, value =>
    if name = key then (name, value) :: rest else (name, old) :: insert rest key value

def erase : Keyed α → String → Keyed α
  | [], _ => []
  | (name, value) :: rest, key => if name = key then rest else (name, value) :: erase rest key

/-- Replaces the value under a name, if there is one. -/
def adjust (m : Keyed α) (key : String) (f : α → α) : Keyed α :=
  match m.get? key with
  | some value => m.insert key (f value)
  | none => m

/-- Puts pairs in one after the other. -/
def insertAll (m : Keyed α) (pairs : List (String × α)) : Keyed α :=
  pairs.foldl (fun m pair => m.insert pair.1 pair.2) m

def ofPairs (pairs : List (String × α)) : Keyed α := insertAll [] pairs

/-- Each name occurs once. -/
def Distinct (m : Keyed α) : Prop := m.keys.Nodup

@[simp] theorem get?_nil (key : String) : get? ([] : Keyed α) key = none := rfl

theorem mem_keys_of_get? {m : Keyed α} {key : String} {value : α} (h : m.get? key = some value) :
    key ∈ m.keys := by
  induction m with
  | nil => simp at h
  | cons pair rest ih =>
    obtain ⟨name, old⟩ := pair
    by_cases hk : name = key
    · simp [keys, hk]
    · simp only [get?, hk, ↓reduceIte] at h
      exact List.mem_cons_of_mem _ (ih h)

@[simp] theorem get?_insert_self (m : Keyed α) (key : String) (value : α) :
    (m.insert key value).get? key = some value := by
  induction m with
  | nil => simp [insert, get?]
  | cons pair rest ih =>
    obtain ⟨name, old⟩ := pair
    by_cases h : name = key <;> simp [insert, get?, h, ih]

theorem get?_insert_of_ne (m : Keyed α) {key other : String} (value : α) (h : other ≠ key) :
    (m.insert key value).get? other = m.get? other := by
  induction m with
  | nil => simp [insert, get?, Ne.symm h]
  | cons pair rest ih =>
    obtain ⟨name, old⟩ := pair
    by_cases hk : name = key
    · subst hk
      simp [insert, get?, Ne.symm h]
    · simp [insert, get?, hk, ih]

theorem get?_erase_of_ne (m : Keyed α) {key other : String} (h : other ≠ key) :
    (m.erase key).get? other = m.get? other := by
  induction m with
  | nil => rfl
  | cons pair rest ih =>
    obtain ⟨name, old⟩ := pair
    by_cases hk : name = key
    · subst hk
      simp [erase, get?, Ne.symm h]
    · simp [erase, get?, hk, ih]

theorem keys_insert_of_contains (m : Keyed α) {key : String} (value : α) (h : m.contains key = true) :
    (m.insert key value).keys = m.keys := by
  induction m with
  | nil => simp [contains] at h
  | cons pair rest ih =>
    obtain ⟨name, old⟩ := pair
    by_cases hk : name = key
    · simp [insert, keys, hk]
    · simp only [contains, get?, hk, ↓reduceIte] at h
      simpa [insert, keys, hk] using ih h

end Keyed

end LogPipeline
