import LogPipeline.Text.Blank
import Mathlib.Data.List.TakeWhile

/-!
# Texts between blanks

A text is blanks, what is left of it when it is trimmed, and blanks again.
-/

namespace LogPipeline.Text

variable {c : Char} {cs body before after : List Char}

/-- There is no blank at either end. -/
structure Bare (cs : List Char) : Prop where
  front : cs.head?.any isBlank = false
  back : cs.getLast?.any isBlank = false

/-- There is nothing but blanks. -/
def IsGap (cs : List Char) : Prop := ∀ c ∈ cs, isBlank c = true

theorem dropWhile_isBlank (hb : IsGap before) (hf : cs.head?.any isBlank = false) :
    (before ++ cs).dropWhile isBlank = cs := by
  rw [List.dropWhile_append_of_pos hb]
  cases cs with
  | nil => rfl
  | cons c cs => exact List.dropWhile_cons_of_neg (by simpa using hf)

theorem exists_gap (cs : List Char) :
    ∃ before, IsGap before ∧ cs = before ++ cs.dropWhile isBlank ∧
      (cs.dropWhile isBlank).head?.any isBlank = false := by
  refine ⟨cs.takeWhile isBlank, List.all_eq_true.mp List.all_takeWhile, List.takeWhile_append_dropWhile.symm, ?_⟩
  have hhead := List.head?_dropWhile_not isBlank cs
  cases h : (cs.dropWhile isBlank).head? with
  | none => rfl
  | some c => simpa [h] using hhead

theorem IsGap.reverse (h : IsGap cs) : IsGap cs.reverse := fun c hc => h c (List.mem_reverse.mp hc)

/-- What is left of a text stands between blanks, and has none at its ends. -/
theorem trim_eq_iff : trim cs = body ↔
    Bare body ∧ ∃ before after, IsGap before ∧ IsGap after ∧ cs = before ++ (body ++ after) := by
  constructor
  · rintro rfl
    obtain ⟨before, hb, hcs, hfront⟩ := exists_gap cs
    obtain ⟨after, ha, hleft, hback⟩ := exists_gap (trimLeft cs).reverse
    have hbody : trimLeft cs = trim cs ++ after.reverse := by
      rw [← List.reverse_reverse (trimLeft cs), hleft, List.reverse_append]
      rfl
    refine ⟨⟨?_, ?_⟩, before, after.reverse, hb, ha.reverse, by rw [← hbody]; exact hcs⟩
    · rw [← trimLeft, hbody] at hfront
      cases h : trim cs with
      | nil => rfl
      | cons c rest => simpa [h] using hfront
    · rw [trim, trimRight, List.getLast?_reverse]
      exact hback
  · rintro ⟨⟨hfront, hback⟩, before, after, hb, ha, rfl⟩
    rw [trim, trimLeft, trimRight]
    cases hbody : body with
    | nil =>
      rw [List.nil_append, List.dropWhile_eq_nil_iff.mpr fun c hc => (List.mem_append.mp hc).elim (hb c) (ha c)]
      rfl
    | cons c rest =>
      rw [← hbody, dropWhile_isBlank hb (by simpa [hbody] using hfront), List.reverse_append,
        dropWhile_isBlank ha.reverse (by rwa [List.head?_reverse]), List.reverse_reverse]

theorem trim_spec (cs : List Char) :
    Bare (trim cs) ∧ ∃ before after, IsGap before ∧ IsGap after ∧ cs = before ++ (trim cs ++ after) :=
  trim_eq_iff.mp rfl

theorem trim_eq_nil_iff : trim cs = [] ↔ IsGap cs := by
  rw [trim_eq_iff]
  constructor
  · rintro ⟨-, before, after, hb, ha, rfl⟩
    exact fun c hc => (List.mem_append.mp hc).elim (hb c) (ha c)
  · exact fun h => ⟨⟨rfl, rfl⟩, cs, [], h, nofun, by simp⟩

/-- Behind blanks, what is trimmed begins with the first character that is none. -/
theorem head?_trim (hb : IsGap before) (hc : isBlank c = false) : (trim (before ++ c :: cs)).head? = some c := by
  obtain ⟨⟨hfront, -⟩, before', after, hb', ha, hcs⟩ := trim_spec (before ++ c :: cs)
  cases hbody : trim (before ++ c :: cs) with
  | nil => exact absurd (trim_eq_nil_iff.mp hbody c (by simp)) (by simp [hc])
  | cons d rest =>
    rw [hbody] at hfront hcs
    have hleft := congrArg (List.dropWhile isBlank) hcs
    rw [dropWhile_isBlank hb (by simpa using hc), dropWhile_isBlank hb' (by simpa using hfront)] at hleft
    rw [(List.cons.inj hleft).1]
    rfl

end LogPipeline.Text
