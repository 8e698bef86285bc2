import LogPipeline.Number.Reading
import LogPipeline.Proofs.Json.Grammar

/-!
# Reading whole numbers

What is read as a whole number is a sign, if any, and digits behind it, and the number is the one that they write. Of
64 bits are read those that fit, and no others.
-/

namespace LogPipeline.Number

open Json (IsDigits)
open Text (isDigit natOf)

/-- A sign, if any, and whether it is a minus. -/
inductive IsSign : Bool → List Char → Prop
  | none : IsSign false []
  | plus : IsSign false ['+']
  | minus : IsSign true ['-']

/-- A sign and digits, and the integer that they write. -/
inductive WritesInteger : List Char → Int → Prop
  | digits {negative : Bool} {sign digits : List Char} (hs : IsSign negative sign) (hd : IsDigits digits) :
      WritesInteger (sign ++ digits) (if negative then -(natOf digits : Int) else natOf digits)

variable {negative : Bool} {sign cs rest digits : List Char} {n : Int}

/-- A sign is taken off what begins with none. -/
theorem takeSign_append (hs : IsSign negative sign) (hr : ∀ c, rest.head? = some c → c ≠ '-' ∧ c ≠ '+') :
    takeSign (sign ++ rest) = (negative, rest) := by
  cases hs with
  | plus => rfl
  | minus => rfl
  | none =>
    rw [List.nil_append]
    unfold takeSign
    split
    · exact absurd rfl (hr '-' rfl).1
    · exact absurd rfl (hr '+' rfl).2
    · rfl

theorem of_takeSign (h : takeSign cs = (negative, rest)) : ∃ sign, IsSign negative sign ∧ cs = sign ++ rest := by
  unfold takeSign at h
  split at h
  · cases h
    exact ⟨['-'], .minus, rfl⟩
  · cases h
    exact ⟨['+'], .plus, rfl⟩
  · cases h
    exact ⟨[], .none, rfl⟩

theorem ne_sign_of_isDigit {c : Char} (h : isDigit c = true) : c ≠ '-' ∧ c ≠ '+' := by
  constructor
  · rintro rfl
    cases h
  · rintro rfl
    cases h

theorem isDigits_iff : (digits.isEmpty || !digits.all isDigit) = false ↔ IsDigits digits := by
  simp [IsDigits]

theorem takeSign_digits (hs : IsSign negative sign) (hd : IsDigits digits) :
    takeSign (sign ++ digits) = (negative, digits) :=
  takeSign_append hs fun _ hc => ne_sign_of_isDigit (hd.2 _ (List.mem_of_mem_head? hc))

theorem readWhole?_eq_some_iff : readWhole? cs = some n ↔ WritesInteger cs n := by
  constructor
  · intro h
    obtain ⟨negative, digits, hsign⟩ : ∃ negative digits, takeSign cs = (negative, digits) := ⟨_, _, rfl⟩
    simp only [readWhole?, hsign] at h
    split at h
    · cases h
    · rename_i hd
      obtain ⟨sign, hs, rfl⟩ := of_takeSign hsign
      cases h
      exact .digits hs (isDigits_iff.mp (Bool.not_eq_true _ ▸ hd))
  · rintro ⟨hs, hd⟩
    simp only [readWhole?, takeSign_digits hs hd, isDigits_iff.mpr hd]
    rfl

theorem readInteger?_eq_some_iff : readInteger? cs = some n ↔ WritesInteger cs n ∧ fitsInteger n = true := by
  rw [readInteger?, Option.filter_eq_some_iff, readWhole?_eq_some_iff]

end LogPipeline.Number
