import LogPipeline.Number.Binary64
import Mathlib.Algebra.Order.Field.Power
import Mathlib.Algebra.Order.Floor.Ring
import Mathlib.Data.Rat.Floor
import Mathlib.Tactic.FieldSimp
import Mathlib.Tactic.Linarith
import Mathlib.Tactic.NormNum
import Mathlib.Tactic.Positivity
import Mathlib.Tactic.Ring

/-!
# Rounding

Every operation on binary64 numbers rounds the exact value: `Rounds` says that a number is what rounding makes of a
value. A value that can be represented stays as it is, and any other moves by half of the last place at most.
-/

namespace LogPipeline.Binary64

/-- The value of a finite number. -/
def value : Binary64 → ℚ
  | .finite negative mantissa exponent => (signedMantissa negative mantissa : ℚ) * 2 ^ exponent
  | _ => 0

/-! ## Rounding to a mantissa -/

theorem roundHalfEven_bounds (num : ℕ) {den : ℕ} (hd : den ≠ 0) :
    2 * num ≤ 2 * (roundHalfEven num den * den) + den ∧ 2 * (roundHalfEven num den * den) ≤ 2 * num + den := by
  have hsplit := Nat.div_add_mod' num den
  have hless := Nat.mod_lt num (Nat.pos_of_ne_zero hd)
  have hnext : (num / den + 1) * den = num / den * den + den := Nat.succ_mul _ _
  unfold roundHalfEven
  simp only
  split
  · omega
  · split
    · omega
    · rcases Nat.mod_two_eq_zero_or_one (num / den) with h | h
      · rw [h, Nat.add_zero]
        omega
      · rw [h]
        omega

/-- Rounding a ratio to a whole number moves it by a half at most. -/
theorem roundHalfEven_near (num : ℕ) {den : ℕ} (hd : den ≠ 0) :
    |(roundHalfEven num den : ℚ) - num / den| ≤ 1 / 2 := by
  have hden : (0 : ℚ) < den := by positivity
  obtain ⟨hlow, hhigh⟩ := roundHalfEven_bounds num hd
  have hlow : (2 : ℚ) * num ≤ 2 * (roundHalfEven num den * den) + den := by exact_mod_cast hlow
  have hhigh : (2 : ℚ) * (roundHalfEven num den * den) ≤ 2 * num + den := by exact_mod_cast hhigh
  have hratio : (num : ℚ) / den * den = num := div_mul_cancel₀ _ hden.ne'
  rw [abs_sub_le_iff]
  constructor
  · refine le_of_mul_le_mul_right ?_ hden
    linarith
  · refine le_of_mul_le_mul_right ?_ hden
    linarith

theorem scaled_spec (num : ℕ) {den : ℕ} (hd : den ≠ 0) (exponent : ℤ) :
    (scaled num den exponent).2 ≠ 0 ∧
      ((scaled num den exponent).1 : ℚ) / (scaled num den exponent).2 = num / den / 2 ^ exponent := by
  unfold scaled
  split
  · rename_i h
    obtain ⟨k, rfl⟩ := Int.eq_ofNat_of_zero_le h
    refine ⟨by simpa using hd, ?_⟩
    simp only [Int.toNat_natCast]
    push_cast
    rw [zpow_natCast, div_div]
  · rename_i h
    obtain ⟨k, hk⟩ := Int.eq_ofNat_of_zero_le (show 0 ≤ -exponent by omega)
    obtain rfl : exponent = -(k : ℤ) := by omega
    refine ⟨hd, ?_⟩
    simp only [neg_neg, Int.toNat_natCast]
    push_cast
    rw [zpow_neg, zpow_natCast]
    field_simp

/-- The greatest power of two that a ratio reaches. -/
theorem floorLog2_spec {num den : ℕ} (hn : num ≠ 0) (hd : den ≠ 0) :
    (2 : ℚ) ^ floorLog2 num den ≤ num / den ∧ (num : ℚ) / den < 2 ^ (floorLog2 num den + 1) := by
  have hden : (0 : ℚ) < den := by positivity
  have hnumLow : ((2 : ℚ) ^ (num.log2 : ℤ)) ≤ num := by
    rw [zpow_natCast]
    exact_mod_cast Nat.log2_self_le hn
  have hnumHigh : (num : ℚ) < 2 ^ ((num.log2 : ℤ) + 1) := by
    exact_mod_cast @Nat.lt_log2_self num
  have hdenLow : ((2 : ℚ) ^ (den.log2 : ℤ)) ≤ den := by
    rw [zpow_natCast]
    exact_mod_cast Nat.log2_self_le hd
  have hdenHigh : (den : ℚ) < 2 ^ ((den.log2 : ℤ) + 1) := by
    exact_mod_cast @Nat.lt_log2_self den
  -- the guess is the power, or one more
  obtain ⟨guess, hguess⟩ : ∃ guess : ℤ, (num.log2 : ℤ) - den.log2 = guess := ⟨_, rfl⟩
  have hlow : (2 : ℚ) ^ (guess - 1) ≤ num / den := by
    rw [le_div_iff₀ hden]
    calc (2 : ℚ) ^ (guess - 1) * den ≤ 2 ^ (guess - 1) * 2 ^ ((den.log2 : ℤ) + 1) := by gcongr
      _ = 2 ^ (num.log2 : ℤ) := by rw [← zpow_add₀ two_ne_zero]; congr 1; omega
      _ ≤ num := hnumLow
  have hhigh : (num : ℚ) / den < 2 ^ (guess + 1) := by
    rw [div_lt_iff₀ hden]
    calc (num : ℚ) < 2 ^ ((num.log2 : ℤ) + 1) := hnumHigh
      _ = 2 ^ (guess + 1) * 2 ^ (den.log2 : ℤ) := by rw [← zpow_add₀ two_ne_zero]; congr 1; omega
      _ ≤ 2 ^ (guess + 1) * den := by gcongr
  obtain ⟨hnonzero, hratio⟩ := scaled_spec num hd guess
  have hcompare : (scaled num den guess).1 < (scaled num den guess).2 ↔ (num : ℚ) / den < 2 ^ guess := by
    rw [← div_lt_one (by positivity : (0 : ℚ) < 2 ^ guess), ← hratio,
      div_lt_one (by positivity : (0 : ℚ) < (scaled num den guess).2)]
    exact Nat.cast_lt.symm
  unfold floorLog2
  simp only [hguess]
  split
  · rename_i h
    exact ⟨hlow, by simpa using hcompare.mp h⟩
  · rename_i h
    exact ⟨not_lt.mp (mt hcompare.mpr h), hhigh⟩

theorem floorLog2_lt {num den : ℕ} {power : ℤ} (hn : num ≠ 0) (hd : den ≠ 0) (h : (num : ℚ) / den < 2 ^ power) :
    floorLog2 num den < power :=
  (zpow_lt_zpow_iff_right₀ one_lt_two).mp (lt_of_le_of_lt (floorLog2_spec hn hd).1 h)

/-! ## Rounding a ratio -/

/-- The power of two of the last place of what a ratio is rounded to. -/
def lastPlace (num den : ℕ) : ℤ := max (floorLog2 num den - 52) leastExponent

/-- A ratio is rounded to a multiple of the last place. The multiple may have a digit too many, in which case it is a
power of two. -/
theorem ofRatio_eq (negative : Bool) {num den : ℕ} (hn : num ≠ 0) (hd : den ≠ 0) :
    ∃ multiple : ℕ, |(multiple : ℚ) - num / den / 2 ^ lastPlace num den| ≤ 1 / 2 ∧ multiple ≤ 2 * leastMantissa ∧
      ∃ mantissa exponent, mantissa < 2 * leastMantissa ∧ lastPlace num den ≤ exponent ∧
        exponent ≤ lastPlace num den + 1 ∧
        (mantissa : ℚ) * 2 ^ exponent = multiple * 2 ^ lastPlace num den ∧
        ofRatio negative num den =
          if greatestExponent < exponent then .infinite negative else .finite negative mantissa exponent := by
  obtain ⟨hnonzero, hratio⟩ := scaled_spec num hd (lastPlace num den)
  obtain ⟨-, hhigh⟩ := floorLog2_spec hn hd
  obtain ⟨multiple, hmultiple⟩ : ∃ multiple, roundHalfEven (scaled num den (lastPlace num den)).1
    (scaled num den (lastPlace num den)).2 = multiple := ⟨_, rfl⟩
  have hnear : |(multiple : ℚ) - num / den / 2 ^ lastPlace num den| ≤ 1 / 2 := by
    rw [← hmultiple, ← hratio]
    exact roundHalfEven_near _ hnonzero
  have hless : (num : ℚ) / den / 2 ^ lastPlace num den < (2 * leastMantissa : ℕ) := by
    rw [div_lt_iff₀ (by positivity)]
    calc (num : ℚ) / den < 2 ^ (floorLog2 num den + 1) := hhigh
      _ ≤ 2 ^ ((53 : ℤ) + lastPlace num den) := zpow_le_zpow_right₀ one_le_two (by unfold lastPlace; omega)
      _ = (2 * leastMantissa : ℕ) * 2 ^ lastPlace num den := by
        rw [zpow_add₀ two_ne_zero]
        norm_num [leastMantissa]
  have hbound : multiple ≤ 2 * leastMantissa := by
    have hsum : (multiple : ℚ) < (2 * leastMantissa + 1 : ℕ) := by
      push_cast at hless ⊢
      linarith [(abs_le.mp hnear).2]
    exact Nat.le_of_lt_succ (by exact_mod_cast hsum)
  have hround : ofRatio negative num den =
      let carried := if multiple = 2 * leastMantissa then (leastMantissa, lastPlace num den + 1)
        else (multiple, lastPlace num den)
      if greatestExponent < carried.2 then .infinite negative else .finite negative carried.1 carried.2 := by
    unfold ofRatio
    rw [if_neg hn, ← hmultiple]
    rfl
  refine ⟨multiple, hnear, hbound, ?_⟩
  by_cases hcarry : multiple = 2 * leastMantissa
  · rw [if_pos hcarry] at hround
    refine ⟨leastMantissa, lastPlace num den + 1, by decide, by omega, le_rfl, ?_, hround⟩
    rw [hcarry, zpow_add_one₀ two_ne_zero]
    push_cast
    ring
  · rw [if_neg hcarry] at hround
    exact ⟨multiple, lastPlace num den, by omega, le_rfl, by omega, rfl, hround⟩

theorem leastMantissa_mul (power : ℤ) : (leastMantissa : ℚ) * 2 ^ (power - 52) = 2 ^ power := by
  have hleast : (leastMantissa : ℚ) = 2 ^ (52 : ℤ) := by norm_num [leastMantissa]
  rw [hleast, ← zpow_add₀ two_ne_zero]
  congr 1
  omega

/-- What reaches a power of two is not rounded to less. -/
theorem ofRatio_large (negative : Bool) {num den : ℕ} (hd : den ≠ 0) {power : ℤ} (hp : leastExponent + 52 ≤ power)
    (h : (2 : ℚ) ^ power ≤ num / den) :
    ofRatio negative num den = .infinite negative ∨
      ∃ mantissa exponent, ofRatio negative num den = .finite negative mantissa exponent ∧
        (2 : ℚ) ^ power ≤ mantissa * 2 ^ exponent := by
  have hn : num ≠ 0 := by
    rintro rfl
    rw [Nat.cast_zero, zero_div] at h
    exact absurd h (not_le.mpr (by positivity))
  obtain ⟨multiple, hnear, -, mantissa, exponent, -, -, -, hvalue, heq⟩ := ofRatio_eq negative hn hd
  obtain ⟨hlow, hhigh⟩ := floorLog2_spec hn hd
  have hpower : power ≤ floorLog2 num den :=
    Int.le_of_lt_add_one ((zpow_lt_zpow_iff_right₀ one_lt_two).mp (lt_of_le_of_lt h hhigh))
  have hplace : lastPlace num den = floorLog2 num den - 52 := by
    unfold lastPlace
    omega
  have hscaled : (leastMantissa : ℚ) ≤ num / den / 2 ^ lastPlace num den := by
    rw [le_div_iff₀ (by positivity), hplace]
    exact (leastMantissa_mul _).trans_le hlow
  have hmultiple : leastMantissa ≤ multiple := by
    have hsum : (leastMantissa : ℚ) < (multiple + 1 : ℕ) := by
      push_cast
      linarith [(abs_le.mp hnear).1]
    exact Nat.le_of_lt_succ (by exact_mod_cast hsum)
  split at heq
  · exact .inl heq
  · refine .inr ⟨mantissa, exponent, heq, ?_⟩
    rw [hvalue, hplace]
    calc (2 : ℚ) ^ power ≤ 2 ^ floorLog2 num den := zpow_le_zpow_right₀ one_le_two hpower
      _ = (leastMantissa : ℚ) * 2 ^ (floorLog2 num den - 52) := (leastMantissa_mul _).symm
      _ ≤ multiple * 2 ^ (floorLog2 num den - 52) := by gcongr

/-! ## What rounding makes of a value -/

/-- The values that binary64 numbers have, apart from the greatest exponent. -/
def Representable (q : ℚ) : Prop :=
  ∃ (mantissa : ℕ) (exponent : ℤ), mantissa < 2 * leastMantissa ∧ leastExponent ≤ exponent ∧ |q| = mantissa * 2 ^ exponent

/-- A number is what rounding makes of a value: the value itself if it can be represented, and a value half of the
last place away at most. No power of two lies between the two. -/
structure Rounds (q : ℚ) (x : Binary64) : Prop where
  fits : ∃ negative mantissa exponent, x = .finite negative mantissa exponent ∧ mantissa < 2 * leastMantissa ∧
    leastExponent ≤ exponent
  exact : Representable q → x.value = q
  near : ∀ power : ℤ, leastExponent + 53 ≤ power → |q| < 2 ^ power → |x.value - q| ≤ 2 ^ (power - 54)
  large : ∀ power : ℤ, leastExponent + 52 ≤ power → 2 ^ power ≤ |q| → 2 ^ power ≤ |x.value|

/-- Values up to which no operation overflows. -/
@[irreducible] def roomyPower : ℤ := 1000

theorem lt_roomyPower {q : ℚ} {power : ℤ} (hp : power ≤ 1000) (h : q < 2 ^ power) : q < 2 ^ roomyPower := by
  refine h.trans_le (zpow_le_zpow_right₀ one_le_two ?_)
  unfold roomyPower
  exact hp

theorem Rounds.isFinite {q : ℚ} {x : Binary64} (h : Rounds q x) : x.isFinite = true := by
  obtain ⟨_, _, _, rfl, _⟩ := h.fits
  rfl

theorem representable_intCast {i : ℤ} (h : i.natAbs < 2 * leastMantissa) : Representable i :=
  ⟨i.natAbs, 0, h, by decide, by rw [zpow_zero, mul_one, Nat.cast_natAbs, Int.cast_abs]⟩

theorem cast_mantissa_lt {mantissa : ℕ} (h : mantissa < 2 * leastMantissa) : (mantissa : ℚ) < 2 ^ (53 : ℤ) := by
  have hcast : (mantissa : ℚ) < (2 * leastMantissa : ℕ) := by exact_mod_cast h
  exact hcast.trans_le (by norm_num [leastMantissa])

theorem abs_lt_of_natAbs {i : ℤ} (h : i.natAbs < 2 * leastMantissa) : |(i : ℚ)| < 2 ^ (53 : ℤ) := by
  have hcast := cast_mantissa_lt h
  rwa [Nat.cast_natAbs, Int.cast_abs] at hcast

def withSign (negative : Bool) (q : ℚ) : ℚ := if negative then -q else q

theorem abs_withSign (negative : Bool) (q : ℚ) : |withSign negative q| = |q| := by
  cases negative <;> simp [withSign]

theorem withSign_sub (negative : Bool) (q r : ℚ) :
    withSign negative q - withSign negative r = withSign negative (q - r) := by
  cases negative <;> simp [withSign]
  ring

theorem withSign_natAbs (i : ℤ) (q : ℚ) : withSign (decide (i < 0)) ((i.natAbs : ℕ) * q) = i * q := by
  rw [Nat.cast_natAbs, Int.cast_abs]
  by_cases hi : i < 0
  · have : (i : ℚ) < 0 := by exact_mod_cast hi
    simp [withSign, hi, abs_of_neg this]
  · have : (0 : ℚ) ≤ i := by exact_mod_cast not_lt.mp hi
    simp [withSign, hi, abs_of_nonneg this]

theorem value_finite (negative : Bool) (mantissa : ℕ) (exponent : ℤ) :
    (finite negative mantissa exponent).value = withSign negative (mantissa * 2 ^ exponent) := by
  cases negative <;> simp [value, signedMantissa, withSign]

theorem rounds_zero (negative : Bool) : Rounds 0 (.finite negative 0 leastExponent) := by
  have hvalue : (finite negative 0 leastExponent).value = 0 := by simp [value_finite, withSign]
  refine ⟨⟨negative, 0, leastExponent, rfl, by decide, le_rfl⟩, fun _ => hvalue, fun power _ _ => ?_,
    fun power _ h => ?_⟩
  · rw [hvalue, sub_zero, abs_zero]
    positivity
  · rw [hvalue]
    exact h

section

variable {num den multiple mantissa : ℕ} {exponent power : ℤ}

/-- What can be represented is a multiple of the last place, so that nothing is rounded. -/
theorem multiple_exact (hn : num ≠ 0) (hd : den ≠ 0) (hm : mantissa < 2 * leastMantissa)
    (he : leastExponent ≤ exponent) (hvalue : (num : ℚ) / den = mantissa * 2 ^ exponent)
    (hnear : |(multiple : ℚ) - num / den / 2 ^ lastPlace num den| ≤ 1 / 2) :
    (multiple : ℚ) * 2 ^ lastPlace num den = num / den := by
  have hplace : lastPlace num den ≤ exponent := by
    have hless : (num : ℚ) / den < 2 ^ (53 + exponent) := by
      rw [hvalue, zpow_add₀ two_ne_zero]
      gcongr
      exact cast_mantissa_lt hm
    have := floorLog2_lt hn hd hless
    unfold lastPlace
    omega
  obtain ⟨k, hk⟩ := Int.eq_ofNat_of_zero_le (show 0 ≤ exponent - lastPlace num den by omega)
  have hscaled : (num : ℚ) / den / 2 ^ lastPlace num den = (mantissa * 2 ^ k : ℕ) := by
    rw [hvalue, mul_div_assoc, ← zpow_sub₀ two_ne_zero, hk]
    push_cast
    rw [zpow_natCast]
  have hmultiple : multiple = mantissa * 2 ^ k := by
    rw [hscaled] at hnear
    obtain ⟨hlow, hhigh⟩ := abs_le.mp hnear
    have hlow : mantissa * 2 ^ k < multiple + 1 := by
      have : ((mantissa * 2 ^ k : ℕ) : ℚ) < (multiple + 1 : ℕ) := by
        push_cast at hlow ⊢
        linarith
      exact_mod_cast this
    have hhigh : multiple < mantissa * 2 ^ k + 1 := by
      have : (multiple : ℚ) < (mantissa * 2 ^ k + 1 : ℕ) := by
        push_cast at hhigh ⊢
        linarith
      exact_mod_cast this
    omega
  rw [hmultiple, ← hscaled, div_mul_cancel₀ _ (by positivity)]

/-- Half of a last place is half of the last of 53 places below a power of two, or less. -/
theorem multiple_near (hnear : |(multiple : ℚ) - num / den / 2 ^ lastPlace num den| ≤ 1 / 2)
    (hplace : lastPlace num den ≤ power - 53) :
    |(multiple : ℚ) * 2 ^ lastPlace num den - num / den| ≤ 2 ^ (power - 54) := by
  have hscaled : (multiple : ℚ) * 2 ^ lastPlace num den - num / den =
      (multiple - num / den / 2 ^ lastPlace num den) * 2 ^ lastPlace num den := by
    rw [sub_mul, div_mul_cancel₀ _ (by positivity)]
  rw [hscaled, abs_mul, abs_of_pos (show (0 : ℚ) < 2 ^ lastPlace num den by positivity)]
  calc |(multiple : ℚ) - num / den / 2 ^ lastPlace num den| * 2 ^ lastPlace num den
      ≤ 1 / 2 * 2 ^ (power - 53) := by gcongr; exact one_le_two
    _ = 2 ^ (power - 54) := by
      rw [show power - 53 = power - 54 + 1 by ring, zpow_add_one₀ two_ne_zero]
      ring

theorem ofRatio_rounds (negative : Bool) (num : ℕ) (hd : den ≠ 0) (h : (num : ℚ) / den < 2 ^ roomyPower) :
    Rounds (withSign negative (num / den)) (ofRatio negative num den) := by
  by_cases hn : num = 0
  · subst hn
    simpa [withSign, ofRatio] using rounds_zero negative
  · obtain ⟨multiple, hnear, -, mantissa, exponent, hmantissa, hleast, hgreatest, hvalue, heq⟩ :=
      ofRatio_eq negative hn hd
    have hfinite : ¬ greatestExponent < exponent := by
      have := floorLog2_lt hn hd h
      unfold lastPlace leastExponent at *
      unfold greatestExponent
      unfold roomyPower at this
      omega
    rw [if_neg hfinite] at heq
    have habs : |withSign negative ((num : ℚ) / den)| = num / den := by
      rw [abs_withSign, abs_of_nonneg (by positivity)]
    have hresult : (ofRatio negative num den).value = withSign negative (multiple * 2 ^ lastPlace num den) := by
      rw [heq, value_finite, hvalue]
    refine ⟨⟨negative, mantissa, exponent, heq, hmantissa, ?_⟩, ?_, ?_, ?_⟩
    · unfold lastPlace at hleast
      omega
    · rintro ⟨m, e, hm, he, hrepresented⟩
      rw [habs] at hrepresented
      rw [hresult, multiple_exact hn hd hm he hrepresented hnear]
    · intro power hp hless
      rw [habs] at hless
      rw [hresult, withSign_sub, abs_withSign]
      have := floorLog2_lt hn hd hless
      exact multiple_near hnear (by unfold lastPlace; omega)
    · intro power hp hle
      rw [habs] at hle
      rcases ofRatio_large negative hd hp hle with hinfinite | ⟨m, e, hlarge, hle⟩
      · rw [heq] at hinfinite
        cases hinfinite
      · rwa [hlarge, value_finite, abs_withSign, abs_of_nonneg (by positivity)]

end

/-- A number that reaches a power of two has 52 places below it. -/
theorem Rounds.places {q : ℚ} {x : Binary64} (hx : Rounds q x) {power : ℤ} (hp : leastExponent + 52 ≤ power)
    (h : 2 ^ power ≤ |q|) : ∃ j : ℤ, x.value = j * 2 ^ (power - 52) := by
  obtain ⟨negative, m, e, heq, hm, -⟩ := hx.fits
  have hvalue : x.value = withSign negative (m * 2 ^ e) := by rw [heq, value_finite]
  have hsize : (2 : ℚ) ^ power < 2 ^ (53 + e) := by
    have hcast := cast_mantissa_lt hm
    calc (2 : ℚ) ^ power ≤ |x.value| := hx.large power hp h
      _ = m * 2 ^ e := by rw [hvalue, abs_withSign, abs_of_nonneg (by positivity)]
      _ < 2 ^ (53 : ℤ) * 2 ^ e := by gcongr
      _ = 2 ^ (53 + e) := (zpow_add₀ two_ne_zero _ _).symm
  have hpower := (zpow_lt_zpow_iff_right₀ one_lt_two).mp hsize
  obtain ⟨k, hk⟩ := Int.eq_ofNat_of_zero_le (show 0 ≤ e - (power - 52) by omega)
  refine ⟨signedMantissa negative (m * 2 ^ k), ?_⟩
  rw [hvalue, show e = k + (power - 52) by omega, zpow_add₀ two_ne_zero, zpow_natCast]
  cases negative <;> simp [withSign, signedMantissa] <;> ring

/-! ## Operations -/

theorem ofDyadic_rounds (negative : Bool) (mantissa : ℕ) (exponent : ℤ)
    (h : (mantissa : ℚ) * 2 ^ exponent < 2 ^ roomyPower) :
    Rounds (withSign negative (mantissa * 2 ^ exponent)) (ofDyadic negative mantissa exponent) := by
  unfold ofDyadic
  split
  · rename_i hexponent
    obtain ⟨k, rfl⟩ := Int.eq_ofNat_of_zero_le hexponent
    have hratio : (mantissa : ℚ) * 2 ^ (k : ℤ) = (mantissa * 2 ^ k : ℕ) / (1 : ℕ) := by
      push_cast
      rw [zpow_natCast, div_one]
    rw [hratio] at h ⊢
    exact ofRatio_rounds negative _ one_ne_zero h
  · rename_i hexponent
    obtain ⟨k, hk⟩ := Int.eq_ofNat_of_zero_le (show 0 ≤ -exponent by omega)
    obtain rfl : exponent = -(k : ℤ) := by omega
    have hratio : (mantissa : ℚ) * 2 ^ (-(k : ℤ)) = mantissa / (2 ^ k : ℕ) := by
      push_cast
      rw [zpow_neg, zpow_natCast, div_eq_mul_inv]
    rw [neg_neg, Int.toNat_natCast]
    rw [hratio] at h ⊢
    exact ofRatio_rounds negative _ (by positivity) h

theorem ofInt_rounds (i : ℤ) (h : |(i : ℚ)| < 2 ^ roomyPower) : Rounds i (ofInt i) := by
  have habs : ((i.natAbs : ℕ) : ℚ) / (1 : ℕ) = |(i : ℚ)| := by
    rw [Nat.cast_one, div_one, Nat.cast_natAbs, Int.cast_abs]
  have hrounds := ofRatio_rounds (decide (i < 0)) i.natAbs one_ne_zero (by rwa [habs])
  have hsign := withSign_natAbs i 1
  rw [mul_one, mul_one] at hsign
  rwa [Nat.cast_one, div_one, hsign] at hrounds

/-- Integers of 53 digits in base two are numbers. -/
theorem ofInt_exact {i : ℤ} (h : i.natAbs < 2 * leastMantissa) : (ofInt i).isFinite = true ∧ (ofInt i).value = i := by
  have hrounds := ofInt_rounds i (lt_roomyPower (by decide) (abs_lt_of_natAbs h))
  exact ⟨hrounds.isFinite, hrounds.exact (representable_intCast h)⟩

theorem mul_rounds {x y : Binary64} (hx : x.isFinite = true) (hy : y.isFinite = true)
    (h : |x.value * y.value| < 2 ^ roomyPower) : Rounds (x.value * y.value) (x.mul y) := by
  cases x with
  | nan => cases hx
  | infinite => cases hx
  | finite s m e =>
    cases y with
    | nan => cases hy
    | infinite => cases hy
    | finite t n f =>
      have hvalue : (finite s m e).value * (finite t n f).value =
          withSign (s != t) ((m * n : ℕ) * 2 ^ (e + f)) := by
        rw [value_finite, value_finite, zpow_add₀ two_ne_zero]
        cases s <;> cases t <;> simp [withSign] <;> ring
      have hpos : (0 : ℚ) ≤ (m * n : ℕ) * 2 ^ (e + f) := by positivity
      rw [hvalue, abs_withSign, abs_of_nonneg hpos] at h
      rw [hvalue]
      exact ofDyadic_rounds _ _ _ h

theorem add_rounds {x y : Binary64} (hx : x.isFinite = true) (hy : y.isFinite = true)
    (h : |x.value + y.value| < 2 ^ roomyPower) : Rounds (x.value + y.value) (x.add y) := by
  cases x with
  | nan => cases hx
  | infinite => cases hx
  | finite s m e =>
    cases y with
    | nan => cases hy
    | infinite => cases hy
    | finite t n f =>
      obtain ⟨low, hlow⟩ : ∃ low, min e f = low := ⟨_, rfl⟩
      obtain ⟨j, hj⟩ := Int.eq_ofNat_of_zero_le (show 0 ≤ e - low by omega)
      obtain ⟨k, hk⟩ := Int.eq_ofNat_of_zero_le (show 0 ≤ f - low by omega)
      obtain ⟨sum, hsum⟩ : ∃ sum : ℤ, signedMantissa s m * 2 ^ (e - low).toNat +
        signedMantissa t n * 2 ^ (f - low).toNat = sum := ⟨_, rfl⟩
      have hvalue : (finite s m e).value + (finite t n f).value = (sum : ℚ) * 2 ^ low := by
        have htwo : (2 : ℚ) ≠ 0 := two_ne_zero
        rw [← hsum, hj, hk, show e = low + j by omega, show f = low + k by omega]
        simp only [value, Int.toNat_natCast, zpow_add₀ htwo, zpow_natCast]
        push_cast
        ring
      have hadd : (finite s m e).add (finite t n f) =
          if sum = 0 then .finite (s && t) 0 leastExponent else ofDyadic (decide (sum < 0)) sum.natAbs low := by
        rw [← hsum, ← hlow]
        rfl
      rw [hvalue] at h ⊢
      rw [hadd]
      split
      · rename_i hzero
        rw [hzero, Int.cast_zero, zero_mul]
        exact rounds_zero _
      · have habs : ((sum.natAbs : ℕ) : ℚ) * 2 ^ low = |(sum : ℚ) * 2 ^ low| := by
          rw [abs_mul, abs_of_pos (show (0 : ℚ) < 2 ^ low by positivity), Nat.cast_natAbs, Int.cast_abs]
        have hrounds := ofDyadic_rounds (decide (sum < 0)) sum.natAbs low (by rwa [habs])
        rwa [withSign_natAbs] at hrounds

theorem value_neg (x : Binary64) : x.neg.value = -x.value := by
  cases x with
  | nan => simp [neg, value]
  | infinite s => simp [neg, value]
  | finite s m e => cases s <;> simp [neg, value_finite, withSign]

theorem sub_rounds {x y : Binary64} (hx : x.isFinite = true) (hy : y.isFinite = true)
    (h : |x.value - y.value| < 2 ^ roomyPower) : Rounds (x.value - y.value) (x.sub y) := by
  have hneg : y.neg.isFinite = true := by cases y <;> first | rfl | cases hy
  rw [sub_eq_add_neg, ← value_neg] at h ⊢
  exact add_rounds hx hneg h

/-- A decimal with a moderate number of places is rounded as a ratio, unless it is out of range in any case. -/
theorem ofDecimal_eq (negative : Bool) {digits places : ℕ} (hd : digits ≠ 0) (hp : places ≤ 400) :
    ofDecimal negative digits (-places) = ofRatio negative digits (10 ^ places) ∨
      ofDecimal negative digits (-places) = .infinite negative ∧
        (2 : ℚ) ^ roomyPower ≤ digits / (10 ^ places : ℕ) := by
  unfold ofDecimal
  rw [if_neg hd]
  simp only
  split
  · rename_i hhuge
    obtain rfl : places = 0 := by omega
    refine .inr ⟨rfl, ?_⟩
    rw [pow_zero, Nat.cast_one, div_one]
    calc (2 : ℚ) ^ roomyPower ≤ 2 ^ (digits.log2 : ℤ) := by
          refine zpow_le_zpow_right₀ one_le_two ?_
          unfold roomyPower
          omega
      _ = (2 ^ digits.log2 : ℕ) := by
          push_cast
          rw [zpow_natCast]
      _ ≤ digits := by exact_mod_cast Nat.log2_self_le hd
  · rw [if_neg (by omega)]
    split
    · rename_i hplaces
      obtain rfl : places = 0 := by omega
      simp
    · rw [neg_neg, Int.toNat_natCast]
      exact .inl rfl

theorem ofDecimal_rounds (negative : Bool) {digits places : ℕ} (hp : places ≤ 400)
    (h : (digits : ℚ) / (10 ^ places : ℕ) < 2 ^ roomyPower) :
    Rounds (withSign negative (digits / (10 ^ places : ℕ))) (ofDecimal negative digits (-places)) := by
  by_cases hd : digits = 0
  · subst hd
    simpa [withSign, ofDecimal] using rounds_zero negative
  · rcases ofDecimal_eq negative hd hp with heq | ⟨-, hhuge⟩
    · rw [heq]
      exact ofRatio_rounds negative digits (by positivity) h
    · exact absurd h (not_lt.mpr hhuge)

/-! ## Whole numbers -/

theorem ofDecimal_exact {i : ℤ} (h : i.natAbs < 2 * leastMantissa) :
    (ofDecimal (decide (i < 0)) i.natAbs 0).isFinite = true ∧ (ofDecimal (decide (i < 0)) i.natAbs 0).value = i := by
  have hratio : ((i.natAbs : ℕ) : ℚ) / (10 ^ 0 : ℕ) = (i.natAbs : ℕ) * 1 := by simp
  have habs : ((i.natAbs : ℕ) : ℚ) / (10 ^ 0 : ℕ) < 2 ^ roomyPower := by
    refine lt_roomyPower (show (53 : ℤ) ≤ 1000 by decide) ?_
    rw [hratio, mul_one, Nat.cast_natAbs, Int.cast_abs]
    exact abs_lt_of_natAbs h
  have hrounds := ofDecimal_rounds (decide (i < 0)) (Nat.zero_le 400) habs
  rw [hratio, withSign_natAbs, mul_one] at hrounds
  exact ⟨hrounds.isFinite, hrounds.exact (representable_intCast h)⟩

/-- An integer beyond those is rounded to a number beyond those. -/
theorem ofDecimal_beyond (negative : Bool) {digits : ℕ} (h : 2 * leastMantissa ≤ digits) :
    ofDecimal negative digits 0 = .infinite negative ∨
      ∃ mantissa exponent, ofDecimal negative digits 0 = .finite negative mantissa exponent ∧
        (2 * leastMantissa : ℕ) ≤ (mantissa : ℚ) * 2 ^ exponent := by
  have hd : digits ≠ 0 := by
    rintro rfl
    exact absurd h (by decide)
  have hpower : ((2 * leastMantissa : ℕ) : ℚ) = 2 ^ (53 : ℤ) := by norm_num [leastMantissa]
  have hdigits : (2 : ℚ) ^ (53 : ℤ) ≤ digits / (10 ^ 0 : ℕ) := by
    rw [← hpower, pow_zero, Nat.cast_one, div_one]
    exact_mod_cast h
  rw [hpower]
  rcases ofDecimal_eq negative hd (Nat.zero_le 400) with heq | ⟨heq, -⟩
  · rw [Nat.cast_zero, neg_zero] at heq
    rw [heq]
    exact ofRatio_large negative (by positivity) (by decide) hdigits
  · exact .inl heq

theorem floor_eq {x : Binary64} (hx : x.isFinite = true) : x.floor = some ⌊x.value⌋ := by
  cases x with
  | nan => cases hx
  | infinite => cases hx
  | finite s m e =>
    unfold floor
    simp only
    split
    · rename_i he
      obtain ⟨k, rfl⟩ := Int.eq_ofNat_of_zero_le he
      have hvalue : (finite s m k).value = ((signedMantissa s (m * 2 ^ k) : ℤ) : ℚ) := by
        rw [value_finite]
        cases s <;> simp [withSign, signedMantissa]
      rw [hvalue, Int.floor_intCast, Int.toNat_natCast]
    · rename_i he
      obtain ⟨k, hk⟩ := Int.eq_ofNat_of_zero_le (show 0 ≤ -e by omega)
      obtain rfl : e = -(k : ℤ) := by omega
      have hvalue : (finite s m (-(k : ℤ))).value = ((signedMantissa s m : ℤ) : ℚ) / (2 ^ k : ℕ) := by
        rw [value_finite]
        cases s <;> simp [withSign, signedMantissa, div_eq_mul_inv]
      rw [hvalue, Rat.floor_intCast_div_natCast, neg_neg, Int.toNat_natCast]
      push_cast
      rfl

/-- The integer in front of the point of a number. -/
def wholePart (q : ℚ) : ℤ := if 0 ≤ q then ⌊q⌋ else ⌈q⌉

/-- What is cut off at the point is the part behind it, whatever the sign. -/
theorem truncate_eq {x : Binary64} (hx : x.isFinite = true) : x.truncate = some (wholePart x.value) := by
  cases x with
  | nan => cases hx
  | infinite => cases hx
  | finite s m e =>
    have hwhole : ((if 0 ≤ e then m * 2 ^ e.toNat else m / 2 ^ (-e).toNat : ℕ) : ℤ) = ⌊(m : ℚ) * 2 ^ e⌋ := by
      split
      · rename_i he
        obtain ⟨k, rfl⟩ := Int.eq_ofNat_of_zero_le he
        have hvalue : (m : ℚ) * 2 ^ (k : ℤ) = ((m * 2 ^ k : ℕ) : ℤ) := by
          push_cast
          rw [zpow_natCast]
        rw [hvalue, Int.floor_intCast, Int.toNat_natCast]
      · rename_i he
        obtain ⟨k, hk⟩ := Int.eq_ofNat_of_zero_le (show 0 ≤ -e by omega)
        obtain rfl : e = -(k : ℤ) := by omega
        have hvalue : (m : ℚ) * 2 ^ (-(k : ℤ)) = ((m : ℕ) : ℤ) / ((2 ^ k : ℕ) : ℚ) := by
          push_cast
          rw [zpow_neg, zpow_natCast, div_eq_mul_inv]
        rw [hvalue, Rat.floor_intCast_div_natCast, neg_neg, Int.toNat_natCast]
        norm_cast
    have hpos : (0 : ℚ) ≤ m * 2 ^ e := by positivity
    unfold truncate
    simp only [signedMantissa, hwhole, value_finite, wholePart, withSign, Option.some.injEq]
    cases s with
    | false => simp only [Bool.false_eq_true, if_false, if_pos hpos]
    | true =>
      simp only [if_true, Int.ceil_neg]
      split
      · -- the number is a negative zero
        have hzero : (m : ℚ) * 2 ^ e = 0 := by linarith
        rw [hzero, neg_zero, Int.floor_zero, neg_zero]
      · rfl

/-- A number is rounded to the nearest whole number, and away from zero if two are equally near. -/
theorem round_eq (negative : Bool) (mantissa : ℕ) (exponent : ℤ) :
    (finite negative mantissa exponent).round =
      some (if negative then -⌊(mantissa : ℚ) * 2 ^ exponent + 1 / 2⌋ else ⌊(mantissa : ℚ) * 2 ^ exponent + 1 / 2⌋) := by
  unfold round
  simp only [signedMantissa, Option.some.injEq]
  have hwhole : ((if 0 ≤ exponent then mantissa * 2 ^ exponent.toNat
      else (2 * mantissa + 2 ^ (-exponent).toNat) / (2 * 2 ^ (-exponent).toNat) : ℕ) : ℤ) =
      ⌊(mantissa : ℚ) * 2 ^ exponent + 1 / 2⌋ := by
    split
    · rename_i he
      obtain ⟨k, rfl⟩ := Int.eq_ofNat_of_zero_le he
      have hvalue : (mantissa : ℚ) * 2 ^ (k : ℤ) = ((mantissa * 2 ^ k : ℕ) : ℤ) := by
        push_cast
        rw [zpow_natCast]
      rw [hvalue, Int.floor_intCast_add, Int.toNat_natCast]
      norm_num
    · rename_i he
      obtain ⟨k, hk⟩ := Int.eq_ofNat_of_zero_le (show 0 ≤ -exponent by omega)
      obtain rfl : exponent = -(k : ℤ) := by omega
      have hvalue : (mantissa : ℚ) * 2 ^ (-(k : ℤ)) + 1 / 2 =
          ((2 * mantissa + 2 ^ k : ℕ) : ℤ) / ((2 * 2 ^ k : ℕ) : ℚ) := by
        push_cast
        rw [zpow_neg, zpow_natCast]
        field_simp
      rw [hvalue, Rat.floor_intCast_div_natCast, neg_neg, Int.toNat_natCast]
      norm_cast
  rw [← hwhole]

/-- A number beyond an integer on one side or the other has its whole numbers there. -/
theorem le_natAbs_of_le {negative : Bool} {mantissa bound : ℕ} {exponent i : ℤ}
    (h : (bound : ℚ) ≤ mantissa * 2 ^ exponent)
    (hi : (finite negative mantissa exponent).floor = some i ∨ (finite negative mantissa exponent).round = some i) :
    bound ≤ i.natAbs := by
  rcases hi with hi | hi
  · rw [floor_eq rfl, Option.some.injEq, value_finite] at hi
    cases negative with
    | false =>
      have : (bound : ℤ) ≤ ⌊(mantissa : ℚ) * 2 ^ exponent⌋ := Int.le_floor.mpr h
      rw [← hi, withSign, if_neg (by decide)]
      omega
    | true =>
      have : ⌊-((mantissa : ℚ) * 2 ^ exponent)⌋ ≤ -(bound : ℤ) := by
        have := Int.floor_le (-((mantissa : ℚ) * 2 ^ exponent))
        have hcast : ((⌊-((mantissa : ℚ) * 2 ^ exponent)⌋ : ℤ) : ℚ) ≤ (-(bound : ℤ) : ℤ) := by
          push_cast
          linarith
        exact_mod_cast hcast
      rw [← hi, withSign, if_pos rfl]
      omega
  · have : (bound : ℤ) ≤ ⌊(mantissa : ℚ) * 2 ^ exponent + 1 / 2⌋ := by
      refine Int.le_floor.mpr ?_
      push_cast
      linarith
    rw [round_eq, Option.some.injEq] at hi
    rw [← hi]
    split <;> omega

theorem round_of_nonneg {x : Binary64} (hx : x.isFinite = true) (h : 0 ≤ x.value) :
    x.round = some ⌊x.value + 1 / 2⌋ := by
  cases x with
  | nan => cases hx
  | infinite => cases hx
  | finite negative mantissa exponent =>
    have hpos : (0 : ℚ) ≤ mantissa * 2 ^ exponent := by positivity
    rw [round_eq]
    rw [value_finite] at h ⊢
    cases negative with
    | false => rfl
    | true =>
      have hzero : (mantissa : ℚ) * 2 ^ exponent = 0 := by
        simp only [withSign, if_true] at h
        linarith
      have hhalf : ⌊(1 / 2 : ℚ)⌋ = 0 := by norm_num
      rw [withSign, if_pos rfl, if_pos rfl, hzero, neg_zero, zero_add, hhalf, neg_zero]

/-- A number is rounded to the whole number it is closer than a half to. -/
theorem round_of_near {x : Binary64} {i : ℤ} (hx : x.isFinite = true) (h : |x.value - i| < 1 / 2) :
    x.round = some i := by
  cases x with
  | nan => cases hx
  | infinite => cases hx
  | finite negative mantissa exponent =>
    obtain ⟨hlow, hhigh⟩ := abs_lt.mp h
    rw [value_finite] at hlow hhigh
    rw [round_eq]
    cases negative with
    | false =>
      have hfloor : ⌊(mantissa : ℚ) * 2 ^ exponent + 1 / 2⌋ = i := by
        rw [Int.floor_eq_iff]
        simp only [withSign, Bool.false_eq_true, if_false] at hlow hhigh
        constructor <;> linarith
      rw [hfloor, if_neg (by decide)]
    | true =>
      have hfloor : ⌊(mantissa : ℚ) * 2 ^ exponent + 1 / 2⌋ = -i := by
        rw [Int.floor_eq_iff]
        simp only [withSign, if_true] at hlow hhigh
        push_cast
        constructor <;> linarith
      rw [hfloor, if_pos rfl, neg_neg]

end LogPipeline.Binary64
