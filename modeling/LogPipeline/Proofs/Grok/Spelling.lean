import LogPipeline.Grok.Placeholder

/-!
# How placeholders are spelled

A placeholder is spelled as a percent sign and, in braces, a name, a capture and a type, with a colon before each
part but the first. A text is cut where a placeholder is spelled and goes on behind it; every other character stands
for itself. Nothing of the text is lost by cutting it, and there is one way to cut it.
-/

namespace LogPipeline.Grok

/-- A capture or a type with its colon, if there is one. -/
def labelText : Option String → List Char
  | none => []
  | some label => ':' :: label.toList

namespace Placeholder

/-- What stands in the braces. -/
def inside (p : Placeholder) : List Char := p.name.toList ++ labelText p.capture ++ labelText p.kind

def spelling (p : Placeholder) : List Char := '%' :: '{' :: (p.inside ++ ['}'])

/-- A name is not empty, and neither is a capture. Without a capture a type has to be empty, since what stands in
the place of the capture would be one. -/
structure WellFormed (p : Placeholder) : Prop where
  name_ne : p.name.toList ≠ []
  name : ∀ c ∈ p.name.toList, isNameChar c = true
  capture : ∀ label, p.capture = some label → label.toList ≠ [] ∧ ∀ c ∈ label.toList, isLabelChar c = true
  kind : ∀ label, p.kind = some label →
    (p.capture = none → label.toList = []) ∧ ∀ c ∈ label.toList, isLabelChar c = true

end Placeholder

/-- A text cut into its placeholders and the characters between them. -/
inductive Cut : List Char → List Piece → Prop
  | nil : Cut [] []
  | char {c : Char} {cs : List Char} {ps : List Piece}
      (hplain : ∀ p : Placeholder, p.WellFormed → ∀ rest, c :: cs ≠ p.spelling ++ rest) (h : Cut cs ps) :
      Cut (c :: cs) (.char c :: ps)
  | reference {p : Placeholder} {cs : List Char} {ps : List Piece} (hp : p.WellFormed) (h : Cut cs ps) :
      Cut (p.spelling ++ cs) (.reference p :: ps)

variable {p : Placeholder} {c stop : Char} {cs name label rest : List Char} {ps : List Piece}

/-! ## Reading a placeholder -/

theorem span_eq {f : Char → Bool} (hall : ∀ c ∈ cs, f c = true) (hstop : f stop = false) (rest : List Char) :
    (cs ++ stop :: rest).takeWhile f = cs ∧ (cs ++ stop :: rest).dropWhile f = stop :: rest := by
  rw [List.takeWhile_append_of_pos hall, List.dropWhile_append_of_pos hall]
  simp [hstop]

theorem exists_span (f : Char → Bool) (cs : List Char) :
    ∃ front rest, cs.takeWhile f = front ∧ cs.dropWhile f = rest ∧ cs = front ++ rest ∧ ∀ c ∈ front, f c = true :=
  ⟨_, _, rfl, rfl, List.takeWhile_append_dropWhile.symm, List.all_eq_true.mp List.all_takeWhile⟩

namespace Placeholder

/-- Reads what stands behind the name. -/
def readLabels? (name : String) : List Char → Option (Placeholder × List Char)
  | '}' :: rest => some (⟨name, none, none⟩, rest)
  | ':' :: rest =>
    let label := rest.takeWhile isLabelChar
    match rest.dropWhile isLabelChar with
    | '}' :: rest =>
      if label.isEmpty then some (⟨name, none, some ""⟩, rest)
      else some (⟨name, some (String.ofList label), none⟩, rest)
    | ':' :: rest =>
      if label.isEmpty then none
      else
        let kind := rest.takeWhile isLabelChar
        match rest.dropWhile isLabelChar with
        | '}' :: rest => some (⟨name, some (String.ofList label), some (String.ofList kind)⟩, rest)
        | _ => none
    | _ => none
  | _ => none

theorem read?_eq (cs : List Char) :
    read? cs = if (cs.takeWhile isNameChar).isEmpty then none
      else readLabels? (String.ofList (cs.takeWhile isNameChar)) (cs.dropWhile isNameChar) := rfl

theorem of_readLabels? {name : String} (hne : name.toList ≠ []) (hname : ∀ c ∈ name.toList, isNameChar c = true)
    (h : readLabels? name cs = some (p, rest)) :
    p.WellFormed ∧ p.name = name ∧ cs = labelText p.capture ++ labelText p.kind ++ '}' :: rest := by
  unfold readLabels? at h
  split at h
  · cases h
    exact ⟨⟨hne, hname, nofun, nofun⟩, rfl, rfl⟩
  · rename_i tail
    obtain ⟨label, after, htake, hdrop, rfl, hlabel⟩ := exists_span isLabelChar tail
    simp only [htake, hdrop] at h
    split at h
    · split at h
      · -- what follows the colon at once is no capture
        rename_i hempty
        obtain rfl := List.isEmpty_iff.mp hempty
        cases h
        refine ⟨⟨hne, hname, nofun, ?_⟩, rfl, rfl⟩
        rintro label ⟨⟩
        exact ⟨fun _ => rfl, nofun⟩
      · rename_i hlabelne
        cases h
        refine ⟨⟨hne, hname, ?_, nofun⟩, rfl, by simp [labelText]⟩
        rintro label ⟨⟩
        exact ⟨by simpa using hlabelne, by simpa using hlabel⟩
    · rename_i tail
      obtain ⟨kind, after, htake', hdrop', rfl, hkind⟩ := exists_span isLabelChar tail
      simp only [htake', hdrop'] at h
      split at h
      · cases h
      rename_i hlabelne
      split at h
      · cases h
        refine ⟨⟨hne, hname, ?_, ?_⟩, rfl, by simp [labelText]⟩
        · rintro label ⟨⟩
          exact ⟨by simpa using hlabelne, by simpa using hlabel⟩
        · rintro label ⟨⟩
          exact ⟨nofun, by simpa using hkind⟩
      · cases h
    · cases h
  · cases h

theorem readLabels?_labels (h : p.WellFormed) (rest : List Char) :
    readLabels? p.name (labelText p.capture ++ labelText p.kind ++ '}' :: rest) = some (p, rest) := by
  obtain ⟨name, capture, kind⟩ := p
  cases capture with
  | none =>
    cases kind with
    | none => rfl
    | some kind =>
      obtain rfl : kind = "" := by simpa using (h.kind kind rfl).1 rfl
      simp [readLabels?, labelText, isLabelChar]
  | some capture =>
    obtain ⟨hcapturene, hcapture⟩ := h.capture capture rfl
    have hcapturene : capture ≠ "" := by simpa using hcapturene
    cases kind with
    | none =>
      obtain ⟨htake, hdrop⟩ := span_eq hcapture (show isLabelChar '}' = false from rfl) rest
      simp [readLabels?, labelText, htake, hdrop, hcapturene]
    | some kind =>
      obtain ⟨htake, hdrop⟩ := span_eq hcapture (show isLabelChar ':' = false from rfl)
        (kind.toList ++ '}' :: rest)
      obtain ⟨htake', hdrop'⟩ := span_eq (h.kind kind rfl).2 (show isLabelChar '}' = false from rfl) rest
      simp [readLabels?, labelText, htake, hdrop, htake', hdrop', hcapturene]

/-- What is read is a placeholder, and it stands at the beginning. -/
theorem of_read? (h : read? cs = some (p, rest)) : p.WellFormed ∧ cs = p.inside ++ '}' :: rest := by
  obtain ⟨name, after, htake, hdrop, rfl, hname⟩ := exists_span isNameChar cs
  rw [read?_eq, htake, hdrop] at h
  split at h
  · cases h
  rename_i hne
  obtain ⟨hp, hpname, rfl⟩ := of_readLabels? (by simpa using hne) (by simpa using hname) h
  exact ⟨hp, by simp [inside, hpname]⟩

theorem read?_inside (h : p.WellFormed) (rest : List Char) : read? (p.inside ++ '}' :: rest) = some (p, rest) := by
  -- the name ends at the first colon or brace
  obtain ⟨stop, tail, hlabels, hstop⟩ : ∃ stop tail,
      labelText p.capture ++ labelText p.kind ++ '}' :: rest = stop :: tail ∧ isNameChar stop = false := by
    cases p.capture <;> cases p.kind <;> exact ⟨_, _, rfl, rfl⟩
  have hinside : p.inside ++ '}' :: rest = p.name.toList ++ stop :: tail := by
    rw [← hlabels]
    simp [inside]
  obtain ⟨htake, hdrop⟩ := span_eq h.name hstop tail
  rw [read?_eq, hinside, htake, hdrop, if_neg (by simpa using h.name_ne), ← hlabels, String.ofList_toList]
  exact readLabels?_labels h rest

theorem spelling_append (p : Placeholder) (rest : List Char) :
    p.spelling ++ rest = '%' :: '{' :: (p.inside ++ '}' :: rest) := by
  simp [spelling]

end Placeholder

/-! ## Cutting -/

theorem piecesFrom_reference (hp : p.WellFormed) (rest : List Char) (limit : Nat) :
    piecesFrom (limit + 1) (p.spelling ++ rest) = .reference p :: piecesFrom limit rest := by
  rw [p.spelling_append]
  simp only [piecesFrom, Placeholder.read?_inside hp]

theorem piecesFrom_char (hplain : ∀ p : Placeholder, p.WellFormed → ∀ rest, c :: cs ≠ p.spelling ++ rest)
    (limit : Nat) : piecesFrom (limit + 1) (c :: cs) = .char c :: piecesFrom limit cs := by
  conv => lhs; unfold piecesFrom
  split
  · rename_i inner
    split
    · rename_i found rest hread
      obtain ⟨hp, rfl⟩ := Placeholder.of_read? hread
      exact absurd (found.spelling_append rest).symm (hplain found hp rest)
    · rfl
  · rfl

theorem cut_piecesFrom {limit : Nat} (h : cs.length ≤ limit) : Cut cs (piecesFrom limit cs) := by
  induction limit generalizing cs with
  | zero =>
    obtain rfl : cs = [] := List.eq_nil_of_length_eq_zero (Nat.le_zero.mp h)
    exact .nil
  | succ limit ih =>
    cases cs with
    | nil => exact .nil
    | cons c cs =>
      by_cases hspelled : ∃ p : Placeholder, p.WellFormed ∧ ∃ rest, c :: cs = p.spelling ++ rest
      · obtain ⟨p, hp, rest, heq⟩ := hspelled
        have hlength : rest.length ≤ limit := by
          have := congrArg List.length heq
          simp only [p.spelling_append, List.length_cons, List.length_append] at this h
          omega
        rw [heq, piecesFrom_reference hp]
        exact .reference hp (ih hlength)
      · have hplain : ∀ p : Placeholder, p.WellFormed → ∀ rest, c :: cs ≠ p.spelling ++ rest :=
          fun p hp rest heq => hspelled ⟨p, hp, rest, heq⟩
        rw [piecesFrom_char hplain]
        exact .char hplain (ih (Nat.le_of_succ_le_succ h))

theorem Cut.eq_piecesFrom (h : Cut cs ps) {limit : Nat} (hl : cs.length ≤ limit) : ps = piecesFrom limit cs := by
  -- each piece takes at least one character, so that the limit is not reached
  induction h generalizing limit with
  | nil => cases limit <;> rfl
  | @char c cs ps hplain h ih =>
    obtain ⟨limit, rfl⟩ : ∃ l, limit = l + 1 := ⟨limit - 1, by simp only [List.length_cons] at hl; omega⟩
    rw [piecesFrom_char hplain, ← ih (Nat.le_of_succ_le_succ hl)]
  | @reference p cs ps hp h ih =>
    have hl' := hl
    simp only [p.spelling_append, List.length_cons, List.length_append] at hl'
    obtain ⟨limit, rfl⟩ : ∃ l, limit = l + 1 := ⟨limit - 1, by omega⟩
    rw [piecesFrom_reference hp, ← ih (by omega)]

theorem cut_iff {text : String} : Cut text.toList ps ↔ pieces text = ps := by
  constructor
  · exact fun h => (h.eq_piecesFrom (Nat.le_refl _)).symm
  · rintro rfl
    exact cut_piecesFrom (Nat.le_refl _)

theorem Cut.wellFormed (h : Cut cs ps) (hp : .reference p ∈ ps) : p.WellFormed := by
  induction h with
  | nil => cases hp
  | char _ _ ih =>
    rcases List.mem_cons.mp hp with h | h
    · cases h
    · exact ih h
  | reference hq _ ih =>
    rcases List.mem_cons.mp hp with h | h
    · cases h
      exact hq
    · exact ih h

end LogPipeline.Grok
