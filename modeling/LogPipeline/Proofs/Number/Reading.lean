import LogPipeline.Json.Doc
import LogPipeline.Number.Reading
import LogPipeline.Proofs.Number.Digits

/-!
# Reading decimal numbers

A sign, digits, and perhaps a point and digits behind it are read as the number nearest to what is written.
-/

namespace LogPipeline.Number

open Text (isBlank isDigit natOf isDigit_of_mem_toDigits natOf_toDigits takeWhile_isDigit takeWhile_isDigit_self
  toDigits_head)

variable {negative : Bool} {c : Char} {whole fraction rest : List Char}

/-- The sign in front of a number. -/
def signText (negative : Bool) : List Char := if negative then ['-'] else []

theorem toLower_of_isDigit (h : isDigit c = true) : c.toLower = c := by
  have hall : ∀ n < 58, 48 ≤ n → (Char.ofNat n).toLower = Char.ofNat n := by decide
  simp only [isDigit, Bool.and_eq_true, decide_eq_true_eq] at h
  have := hall c.toNat (by omega) h.1
  rwa [Char.ofNat_toNat] at this

/-- What begins with a digit is none of the words. -/
theorem readDecimal?_digits (negative : Bool) (hw : whole ≠ []) (hd : ∀ c ∈ whole, isDigit c = true)
    (rest : List Char) :
    readDecimal? (signText negative ++ (whole ++ rest)) = readUnsigned? negative (whole ++ rest) := by
  obtain ⟨c, tail, heq⟩ : ∃ c tail, whole ++ rest = c :: tail ∧ isDigit c = true := by
    obtain ⟨c, tail, rfl⟩ := List.exists_cons_of_ne_nil hw
    exact ⟨c, tail ++ rest, rfl, hd c List.mem_cons_self⟩
  obtain ⟨heq, hc⟩ := heq
  rw [heq]
  have hsign : takeSign (signText negative ++ c :: tail) = (negative, c :: tail) := by
    cases negative with
    | true => rfl
    | false =>
      rw [signText, if_neg (by decide), List.nil_append]
      unfold takeSign
      split
      · rename_i heq
        cases heq
        cases hc
      · rename_i heq
        cases heq
        cases hc
      · rfl
  have hword {word : String} (hf : word.toList.head?.any isDigit = false) : lowerAscii (c :: tail) ≠ word.toList := by
    intro heq
    rw [lowerAscii, List.map_cons, toLower_of_isDigit hc] at heq
    simp [← heq, hc] at hf
  have hinf := hword (show "inf".toList.head?.any isDigit = false by decide)
  have hinfinity := hword (show "infinity".toList.head?.any isDigit = false by decide)
  have hnan := hword (show "nan".toList.head?.any isDigit = false by decide)
  simp only [readDecimal?, hsign]
  rw [if_neg (not_or.mpr ⟨hinf, hinfinity⟩), if_neg hnan]

theorem readDecimal?_whole (negative : Bool) (hw : whole ≠ []) (hd : ∀ c ∈ whole, isDigit c = true) :
    readDecimal? (signText negative ++ whole) = some (.ofDecimal negative (natOf whole) 0) := by
  obtain ⟨htake, hdrop⟩ := takeWhile_isDigit_self hd
  have hread := readDecimal?_digits negative hw hd []
  rw [List.append_nil] at hread
  rw [hread]
  simp [readUnsigned?, htake, hdrop, hw]

theorem readDecimal?_fraction (negative : Bool) (hw : whole ≠ []) (hd : ∀ c ∈ whole ++ fraction, isDigit c = true) :
    readDecimal? (signText negative ++ (whole ++ '.' :: fraction)) =
      some (.ofDecimal negative (natOf (whole ++ fraction)) (-(fraction.length : Int))) := by
  have hwhole (c : Char) (h : c ∈ whole) : isDigit c = true := hd c (List.mem_append_left _ h)
  have hfraction (c : Char) (h : c ∈ fraction) : isDigit c = true := hd c (List.mem_append_right _ h)
  obtain ⟨htake, hdrop⟩ := takeWhile_isDigit hwhole (show ('.' :: fraction).head?.any isDigit = false from rfl)
  obtain ⟨htail, hnothing⟩ := takeWhile_isDigit_self hfraction
  rw [readDecimal?_digits negative hw hwhole]
  simp [readUnsigned?, htake, hdrop, htail, hnothing, hw]

theorem isBlank_signText : ∀ c ∈ signText negative, isBlank c = false := by
  cases negative with
  | false => exact List.forall_mem_nil _
  | true => exact List.forall_mem_singleton.mpr rfl

theorem integerText_eq (i : Int) :
    Json.integerText i = signText (decide (i < 0)) ++ Nat.toDigits 10 i.natAbs := by
  by_cases h : i < 0 <;> simp [Json.integerText, signText, h]

/-- An integer is read as the number nearest to it. -/
theorem readDecimal?_integerText (i : Int) :
    readDecimal? (Json.integerText i) = some (.ofDecimal (decide (i < 0)) i.natAbs 0) := by
  obtain ⟨c, rest, heq, -⟩ := toDigits_head i.natAbs
  rw [integerText_eq, readDecimal?_whole _ (by simp [heq]) fun c => isDigit_of_mem_toDigits, natOf_toDigits]

theorem trim_integerText (i : Int) : Text.trim (Json.integerText i) = Json.integerText i := by
  refine Text.trim_eq_self fun c hc => ?_
  rw [integerText_eq, List.mem_append] at hc
  rcases hc with hc | hc
  · exact isBlank_signText c hc
  · exact Text.isBlank_of_isDigit (isDigit_of_mem_toDigits hc)

end LogPipeline.Number
