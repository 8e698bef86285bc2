import LogPipeline.Files.Tree

/-!
# Opening files

What opening a file for writing does to a tree: the file is empty afterwards, or everything is as it was.
Where a path leads depends on what the tree holds at each place, and on nothing else.
-/

namespace LogPipeline

theorem Path.getLast?_segmentsFrom_slash (name cs : List Char) :
    (Path.segmentsFrom name (cs ++ ['/'])).getLast? = some "" := by
  induction cs generalizing name with
  | nil => rfl
  | cons c rest ih =>
    by_cases hc : c = '/'
    · subst hc
      simp [segmentsFrom, List.getLast?_cons, ih]
    · simp [segmentsFrom, ih]

namespace FileTree

/-- Trees that hold the same at every place. -/
def Same (a b : FileTree) : Prop := ∀ place, a.get? place = b.get? place

/-- All that was there still is, though files may have got other contents. -/
def Grown (a b : FileTree) : Prop := ∀ place entry, a.get? place = some entry →
  b.get? place = some entry ∨
    ∃ old new, entry = .file old ∧ b.get? place = some (.file new)

def Target.place : Target → List String
  | .found place _ | .free place => place

/-- What a path leads to is there, or nothing is there. -/
def Holds (tree : FileTree) : Target → Prop
  | .found place entry => tree.get? place = some entry
  | .free place => tree.get? place = none

variable {tree a b opened : FileTree} {place other : List String} {entry : Entry} {path : String}
  {append : Bool}

theorem Same.refl (tree : FileTree) : tree.Same tree := fun _ => rfl

theorem Same.symm (h : a.Same b) : b.Same a := fun place => (h place).symm

theorem Same.trans {c : FileTree} (h : a.Same b) (h' : b.Same c) : a.Same c :=
  fun place => (h place).trans (h' place)

theorem lookup_filter_of_ne {entries : List (List String × Entry)} (h : other ≠ place) :
    (entries.filter fun entry => entry.1 != place).lookup other = entries.lookup other := by
  induction entries with
  | nil => rfl
  | cons first rest ih =>
    obtain ⟨key, value⟩ := first
    by_cases hk : key = place
    · subst hk
      have hne : (other == key) = false := by simpa using h
      simp [List.lookup_cons, hne, ih]
    · simp [List.lookup_cons, hk, ih]

theorem get?_set_of_ne (h : other ≠ place) : (tree.set place entry).get? other = tree.get? other := by
  have hne : (other == place) = false := by simpa using h
  simp only [get?, set, List.lookup_cons, hne, lookup_filter_of_ne h]

/-- Nothing can be put where the root or a directory above is, which are there without an entry. -/
theorem get?_set_self (h : tree.get? place ≠ some .directory) :
    (tree.set place entry).get? place = some entry := by
  unfold get? at h ⊢
  split at h
  · exact absurd rfl h
  · rename_i hroot
    simp only [if_neg hroot, set, List.lookup_cons, beq_self_eq_true]

/-- An entry that is put where it was changes nothing. -/
theorem same_set (h : tree.get? place = some entry) (hd : entry ≠ .directory) :
    (tree.set place entry).Same tree := by
  intro other
  by_cases ho : other = place
  · subst ho
    rw [get?_set_self (by simpa [h] using hd), h]
  · exact get?_set_of_ne ho

/-! ## Following paths -/

theorem Same.follow (h : a.Same b) (names : List String) (place : List String) :
    a.follow place names = b.follow place names := by
  induction names generalizing place with
  | nil => simp only [FileTree.follow, h place]
  | cons name rest ih => simp only [FileTree.follow, h place, h (Path.next place name), ih]

theorem Same.findToWrite (h : a.Same b) (path : String) : a.findToWrite path = b.findToWrite path := by
  simp only [FileTree.findToWrite, h.follow]

theorem Same.find (h : a.Same b) (path : String) : a.find path = b.find path := by
  simp only [FileTree.find, h.follow]

theorem holds_of_follow {names : List String} {target : Target}
    (h : tree.follow place names = .ok target) : tree.Holds target := by
  induction names generalizing place with
  | nil =>
    simp only [FileTree.follow] at h
    split at h
    · cases h
      assumption
    · cases h
  | cons name rest ih =>
    simp only [FileTree.follow] at h
    split at h
    · cases h
    · cases h
    · cases h
    · cases h
    · split at h
      · cases h
      · split at h
        · rename_i hfree
          cases h
          exact Option.isNone_iff_eq_none.mp hfree.2
        · exact ih h

theorem holds_of_findToWrite {target : Target} (h : tree.findToWrite path = .ok target) :
    tree.Holds target := by
  unfold FileTree.findToWrite at h
  cases hc : checkPath path with
  | error e => simp [hc, bind, Except.bind] at h
  | ok _ =>
    simp only [hc, bind, Except.bind] at h
    split at h
    · split at h
      · cases h
      · split at h <;> cases h
    · exact holds_of_follow h

/-- A path with a slash at its end cannot be written. -/
theorem findToWrite_of_slash (tree : FileTree) (h : (Path.segments path).getLast? = some "") :
    ∃ e, tree.findToWrite path = .error e := by
  unfold FileTree.findToWrite
  cases hc : checkPath path with
  | error e => exact ⟨e, rfl⟩
  | ok _ =>
    simp only [bind, Except.bind, if_pos h]
    split
    · exact ⟨_, rfl⟩
    · split <;> exact ⟨_, rfl⟩

theorem findToWrite_eq_find (h : (Path.segments path).getLast? ≠ some "") :
    tree.findToWrite path = tree.find path := by
  simp only [FileTree.findToWrite, find, if_neg h]

theorem Grown.refl (tree : FileTree) : tree.Grown tree := fun _ _ h => .inl h

theorem Grown.trans {c : FileTree} (h : a.Grown b) (h' : b.Grown c) : a.Grown c := by
  intro place entry he
  rcases h place entry he with hb | ⟨old, new, rfl, hb⟩
  · exact h' place entry hb
  · rcases h' place _ hb with hc | ⟨_, newer, -, hc⟩
    · exact .inr ⟨old, new, rfl, hc⟩
    · exact .inr ⟨old, newer, rfl, hc⟩

theorem grown_set {bytes : List UInt8}
    (h : tree.get? place = none ∨ ∃ old, tree.get? place = some (.file old)) :
    tree.Grown (tree.set place (.file bytes)) := by
  have hd : tree.get? place ≠ some .directory := by
    rcases h with h | ⟨old, h⟩ <;> simp [h]
  intro other entry he
  by_cases hne : other = place
  · subst hne
    rcases h with h | ⟨old, h⟩
    · simp [h] at he
    · exact .inr ⟨old, bytes, by simpa [h, eq_comm] using he, get?_set_self hd⟩
  · exact .inl (by rw [get?_set_of_ne hne, he])

/-- In a tree that has grown, names lead to the same place if there is something. -/
theorem Grown.follow {names : List String} {target : Target} (h : a.Grown b)
    (hf : a.follow place names = .ok target) (he : b.get? target.place = some entry) :
    b.follow place names = .ok (.found target.place entry) := by
  induction names generalizing place with
  | nil =>
    simp only [FileTree.follow] at hf ⊢
    split at hf
    · cases hf
      simp only [Target.place] at he ⊢
      rw [he]
    · cases hf
  | cons name rest ih =>
    simp only [FileTree.follow] at hf ⊢
    split at hf
    · cases hf
    · cases hf
    · cases hf
    · cases hf
    · rename_i hdir
      have hdir' : b.get? place = some .directory := by
        rcases h place _ hdir with hb | ⟨_, _, hfile, -⟩
        · exact hb
        · cases hfile
      simp only [hdir']
      split at hf
      · cases hf
      · rename_i hlength
        rw [if_neg hlength]
        split at hf
        · -- what could be made is there
          rename_i hfree
          obtain ⟨rfl, -⟩ := hfree
          cases hf
          simp only [Target.place] at he ⊢
          simp [he, FileTree.follow]
        · -- the names end at something in the first tree, and so they do in the other
          have hne : ¬ (rest = [] ∧ (b.get? (Path.next place name)).isNone = true) := by
            rintro ⟨rfl, hnone⟩
            have hb := ih hf
            simp only [FileTree.follow] at hb
            simp [Option.isNone_iff_eq_none.mp hnone] at hb
          rw [if_neg hne]
          exact ih hf

theorem Grown.findToWrite {target : Target} (h : a.Grown b) (hf : a.findToWrite path = .ok target)
    (he : b.get? target.place = some entry) :
    b.findToWrite path = .ok (.found target.place entry) := by
  have hslash : (Path.segments path).getLast? ≠ some "" := fun hslash => by
    obtain ⟨e, herr⟩ := a.findToWrite_of_slash hslash
    rw [herr] at hf
    cases hf
  rw [findToWrite_eq_find hslash] at hf ⊢
  unfold FileTree.find at hf ⊢
  cases hc : checkPath path with
  | error e => simp [hc, bind, Except.bind] at hf
  | ok _ =>
    simp only [hc, bind, Except.bind] at hf ⊢
    exact h.follow hf he

/-! ## Opening -/

/-- What opening a file finds, and what it comes to. -/
theorem openToWrite_eq_ok (h : tree.openToWrite path append = .ok opened) :
    (∃ place bytes, tree.findToWrite path = .ok (.found place (.file bytes)) ∧
      opened = if append then tree else tree.set place (.file [])) ∨
    (∃ place, tree.findToWrite path = .ok (.found place .sink) ∧ opened = tree) ∨
    (∃ place, tree.findToWrite path = .ok (.free place) ∧ opened = tree.set place (.file [])) := by
  unfold openToWrite at h
  split at h
  · exact .inl ⟨_, _, ‹_›, by simpa using h.symm⟩
  · exact .inr (.inl ⟨_, ‹_›, by simpa using h.symm⟩)
  · cases h
  · cases h
  · exact .inr (.inr ⟨_, ‹_›, by simpa using h.symm⟩)
  · cases h

/-- Opening a file leaves everything as it was, or puts an empty file where none or another one was. -/
theorem openToWrite_sets (h : tree.openToWrite path append = .ok opened) :
    opened = tree ∨ ∃ place, opened = tree.set place (.file []) ∧
      (tree.get? place = none ∨ ∃ old, tree.get? place = some (.file old)) := by
  rcases openToWrite_eq_ok h with ⟨place, bytes, hfound, rfl⟩ | ⟨place, -, rfl⟩ | ⟨place, hfree, rfl⟩
  · cases append
    · exact .inr ⟨place, rfl, .inr ⟨bytes, holds_of_findToWrite hfound⟩⟩
    · exact .inl rfl
  · exact .inl rfl
  · exact .inr ⟨place, rfl, .inl (holds_of_findToWrite hfree)⟩

theorem grown_of_openToWrite (h : tree.openToWrite path append = .ok opened) : tree.Grown opened := by
  rcases openToWrite_sets h with rfl | ⟨place, rfl, hplace⟩
  · exact .refl _
  · exact grown_set hplace

/-- A file that is empty stays so, whatever is opened. -/
theorem openToWrite_keeps_empty (h : tree.openToWrite path append = .ok opened)
    (hp : tree.get? place = some (.file [])) : opened.get? place = some (.file []) := by
  rcases openToWrite_sets h with rfl | ⟨other, rfl, hother⟩
  · exact hp
  · by_cases hne : place = other
    · subst hne
      exact get?_set_self (by simp [hp])
    · rw [get?_set_of_ne hne, hp]

/-- Opening a file that is there changes nothing if it is empty or to be continued. -/
theorem openToWrite_leaves (h : tree.findToWrite path = .ok (.found place entry))
    (he : entry = .file [] ∨ entry = .sink ∨ (append = true ∧ ∃ bytes, entry = .file bytes)) :
    ∃ opened, tree.openToWrite path append = .ok opened ∧ opened.Same tree := by
  rcases he with rfl | rfl | ⟨rfl, bytes, rfl⟩
  · cases append
    · exact ⟨tree.set place (.file []), by simp [openToWrite, h],
        same_set (holds_of_findToWrite h) (by simp)⟩
    · exact ⟨tree, by simp [openToWrite, h], .refl tree⟩
  · exact ⟨tree, by simp [openToWrite, h], .refl tree⟩
  · exact ⟨tree, by simp [openToWrite, h], .refl tree⟩

theorem not_slash_of_openToWrite (h : tree.openToWrite path append = .ok opened) :
    (Path.segments path).getLast? ≠ some "" := by
  intro hslash
  obtain ⟨e, he⟩ := tree.findToWrite_of_slash hslash
  simp [openToWrite, he] at h

theorem Same.set (h : a.Same b) (place : List String) (entry : Entry) :
    (a.set place entry).Same (b.set place entry) := by
  intro other
  by_cases hne : other = place
  · subst hne
    simp only [get?, FileTree.set, List.lookup_cons, beq_self_eq_true]
  · rw [get?_set_of_ne hne, get?_set_of_ne hne, h other]

/-- In trees that hold the same, opening a file comes to the same. -/
theorem Same.openToWrite (h : a.Same b) (ho : a.openToWrite path append = .ok opened) :
    ∃ opened', b.openToWrite path append = .ok opened' ∧ opened.Same opened' := by
  unfold FileTree.openToWrite at ho ⊢
  rw [← h.findToWrite]
  split at ho
  · rename_i place bytes hfound
    cases append
    · cases ho
      exact ⟨_, rfl, h.set place _⟩
    · cases ho
      exact ⟨_, rfl, h⟩
  · cases ho
    exact ⟨_, rfl, h⟩
  · cases ho
  · cases ho
  · cases ho
    exact ⟨_, rfl, h.set _ _⟩
  · cases ho

end FileTree

end LogPipeline
