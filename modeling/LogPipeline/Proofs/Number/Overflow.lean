import LogPipeline.Proofs.Number.Rounding

/-!
# Values out of range

A value is rounded to infinity exactly if it is at least half of a last place above the greatest number: there the
even neighbour is the one that the range does not have any more. A decimal is out of range exactly if its value is.
-/

namespace LogPipeline.Binary64

variable {num den k : ℕ}

/-- Half of a last place above the greatest number. -/
def overflow : ℚ := (2 * leastMantissa - 1 / 2) * 2 ^ greatestExponent

/-- Rounding stays below an even number for what is closer to the number before it. -/
theorem roundHalfEven_lt_iff (hd : den ≠ 0) (hk : k % 2 = 0) :
    roundHalfEven num den < k ↔ (num : ℚ) / den < k - 1 / 2 := by
  have hden : (0 : ℚ) < den := by positivity
  have hratio : (num : ℚ) / den < k - 1 / 2 ↔ 2 * num + den < 2 * (k * den) := by
    rw [div_lt_iff₀ hden, ← Nat.cast_lt (α := ℚ)]
    push_cast
    constructor <;> intro h <;> linarith
  rw [hratio]
  have hsplit := Nat.div_add_mod' num den
  have hless := Nat.mod_lt num (Nat.pos_of_ne_zero hd)
  unfold roundHalfEven
  simp only
  rcases Nat.lt_trichotomy (num / den + 1) k with hlow | hnext | hhigh
  · -- two steps below
    have hmul : (num / den + 2) * den ≤ k * den := Nat.mul_le_mul_right den hlow
    rw [Nat.add_mul] at hmul
    have hround : num / den + num / den % 2 < k := by omega
    constructor
    · omega
    · intro _
      split
      · omega
      · split <;> omega
  · -- one step below, where the part behind the point decides
    have hodd : num / den % 2 = 1 := by omega
    have hmul : (num / den + 1) * den = k * den := by rw [hnext]
    rw [Nat.add_mul] at hmul
    rw [hodd]
    constructor
    · split
      · omega
      · split <;> omega
    · intro h
      rw [if_pos (by omega)]
      omega
  · have hmul : k * den ≤ num / den * den := Nat.mul_le_mul_right den (by omega)
    constructor
    · split
      · omega
      · split <;> omega
    · omega

theorem roundHalfEven_le (hd : den ≠ 0) (h : (num : ℚ) / den < k) : roundHalfEven num den ≤ k := by
  have hnear := (abs_le.mp (roundHalfEven_near num hd)).2
  have hless : (roundHalfEven num den : ℚ) < (k + 1 : ℕ) := by
    push_cast
    linarith
  exact Nat.le_of_lt_succ (by exact_mod_cast hless)

theorem isFinite_ite (negative : Bool) (mantissa : ℕ) (exponent : ℤ) :
    (if greatestExponent < exponent then infinite negative else finite negative mantissa exponent).isFinite = true ↔
      exponent ≤ greatestExponent := by
  split
  · rename_i h
    simpa [isFinite] using h
  · rename_i h
    simpa [isFinite] using h

/-- A ratio is in range if its last place is, after the carry into the next place. -/
theorem ofRatio_isFinite_eq (negative : Bool) (hn : num ≠ 0) :
    (ofRatio negative num den).isFinite = true ↔
      (if roundHalfEven (scaled num den (lastPlace num den)).1 (scaled num den (lastPlace num den)).2 =
        2 * leastMantissa then lastPlace num den + 1 else lastPlace num den) ≤ greatestExponent := by
  have hround : ofRatio negative num den =
      let multiple := roundHalfEven (scaled num den (lastPlace num den)).1 (scaled num den (lastPlace num den)).2
      let carried := if multiple = 2 * leastMantissa then (leastMantissa, lastPlace num den + 1)
        else (multiple, lastPlace num den)
      if greatestExponent < carried.2 then .infinite negative else .finite negative carried.1 carried.2 := by
    unfold ofRatio
    rw [if_neg hn]
    rfl
  rw [hround]
  simp only
  rw [isFinite_ite, apply_ite Prod.snd]

/-- The greatest power of two that is a number, and the next one. -/
theorem greatest_powers : (2 : ℚ) ^ (1023 : ℤ) = leastMantissa * 2 ^ greatestExponent ∧
    (2 : ℚ) ^ (1024 : ℤ) = (2 * leastMantissa) * 2 ^ greatestExponent := by
  have hgreatest : (leastMantissa : ℚ) * 2 ^ greatestExponent = 2 ^ (1023 : ℤ) := leastMantissa_mul 1023
  refine ⟨hgreatest.symm, ?_⟩
  rw [mul_assoc, hgreatest]
  exact zpow_one_add₀ two_ne_zero 1023

theorem overflow_bounds : (2 : ℚ) ^ (1023 : ℤ) ≤ overflow ∧ overflow ≤ 2 ^ (1024 : ℤ) := by
  have hpos : (0 : ℚ) < 2 ^ greatestExponent := by positivity
  have hleast : (1 : ℚ) ≤ leastMantissa := by norm_num [leastMantissa]
  rw [greatest_powers.1, greatest_powers.2, overflow]
  constructor
  · refine mul_le_mul_of_nonneg_right ?_ hpos.le
    linarith
  · refine mul_le_mul_of_nonneg_right ?_ hpos.le
    linarith

/-- In the greatest last place a value below the next power of two keeps its digits or is carried to that power, and
it keeps them if it is in range. -/
theorem greatestPlace_spec (hd : den ≠ 0) (h : (num : ℚ) / den < 2 ^ (1024 : ℤ)) :
    let multiple := roundHalfEven (scaled num den greatestExponent).1 (scaled num den greatestExponent).2
    multiple ≤ 2 * leastMantissa ∧ (multiple < 2 * leastMantissa ↔ (num : ℚ) / den < overflow) := by
  intro multiple
  obtain ⟨hnonzero, hratio⟩ := scaled_spec num hd greatestExponent
  have hpos : (0 : ℚ) < 2 ^ greatestExponent := by positivity
  have hbound : (num : ℚ) / den / 2 ^ greatestExponent < (2 * leastMantissa : ℕ) := by
    rw [div_lt_iff₀ hpos]
    refine h.trans_eq ?_
    rw [greatest_powers.2]
    push_cast
    rfl
  refine ⟨roundHalfEven_le hnonzero (hratio.trans_lt hbound), ?_⟩
  have hless : multiple < 2 * leastMantissa ↔ ((scaled num den greatestExponent).1 : ℚ) /
      (scaled num den greatestExponent).2 < (2 * leastMantissa : ℕ) - 1 / 2 := roundHalfEven_lt_iff hnonzero (by decide)
  rw [hless, hratio, div_lt_iff₀ hpos, overflow]
  push_cast
  rfl

theorem ofRatio_isFinite_iff (negative : Bool) (num : ℕ) (hd : den ≠ 0) :
    (ofRatio negative num den).isFinite = true ↔ (num : ℚ) / den < overflow := by
  obtain ⟨hbelow, habove⟩ := overflow_bounds
  by_cases hn : num = 0
  · subst hn
    have hzero : (0 : ℚ) < overflow := lt_of_lt_of_le (by positivity) hbelow
    simp [ofRatio, isFinite, hzero]
  · obtain ⟨hlow, hhigh⟩ := floorLog2_spec hn hd
    rw [ofRatio_isFinite_eq negative hn]
    rcases lt_trichotomy (floorLog2 num den) 1023 with hsmall | htop | hlarge
    · -- the last place is below the greatest one, so that a carry does no harm
      have hplace : lastPlace num den + 1 ≤ greatestExponent := by
        unfold lastPlace leastExponent greatestExponent
        omega
      have hless : (num : ℚ) / den < overflow :=
        hhigh.trans_le ((zpow_le_zpow_right₀ one_le_two (by omega)).trans hbelow)
      simp only [hless, iff_true]
      split <;> omega
    · -- the greatest last place, where a carry decides
      have hplace : lastPlace num den = greatestExponent := by
        unfold lastPlace leastExponent greatestExponent
        omega
      obtain ⟨hle, hless⟩ := greatestPlace_spec hd (htop ▸ hhigh)
      rw [hplace, ← hless]
      split <;> omega
    · -- no place is left
      have hplace : greatestExponent < lastPlace num den := by
        unfold lastPlace greatestExponent
        omega
      have hmore : overflow ≤ (num : ℚ) / den :=
        habove.trans ((zpow_le_zpow_right₀ one_le_two (by omega)).trans hlow)
      simp only [not_lt.mpr hmore, iff_false]
      split <;> omega

/-! ## Decimals -/

theorem eight_zpow (exponent : ℤ) : (8 : ℚ) ^ exponent = 2 ^ (3 * exponent) := by
  rw [zpow_mul]
  norm_num

/-- A decimal with digits is at least the power of two that its digits and places give. -/
theorem le_decimal {digits : ℕ} (hd : digits ≠ 0) {exponent : ℤ} (he : 0 ≤ exponent) :
    (2 : ℚ) ^ ((digits.log2 : ℤ) + 3 * exponent) ≤ digits * 10 ^ exponent := by
  have hlow : ((2 : ℚ) ^ (digits.log2 : ℤ)) ≤ digits := by
    rw [zpow_natCast]
    exact_mod_cast Nat.log2_self_le hd
  have hten : (8 : ℚ) ^ exponent ≤ 10 ^ exponent := zpow_le_zpow_left₀ he (by norm_num) (by norm_num)
  rw [zpow_add₀ two_ne_zero, ← eight_zpow]
  gcongr

theorem decimal_lt (digits : ℕ) {exponent : ℤ} (he : exponent < 0) :
    (digits : ℚ) * 10 ^ exponent < 2 ^ ((digits.log2 : ℤ) + 1 + 3 * exponent) := by
  have hhigh : (digits : ℚ) < 2 ^ ((digits.log2 : ℤ) + 1) := by
    exact_mod_cast @Nat.lt_log2_self digits
  have hten : (10 : ℚ) ^ exponent ≤ 8 ^ exponent := by
    obtain ⟨k, hk⟩ := Int.eq_ofNat_of_zero_le (show 0 ≤ -exponent by omega)
    obtain rfl : exponent = -(k : ℤ) := by omega
    rw [zpow_neg, zpow_neg, zpow_natCast, zpow_natCast]
    gcongr
    norm_num
  rw [zpow_add₀ two_ne_zero, ← eight_zpow]
  calc (digits : ℚ) * 10 ^ exponent ≤ digits * 8 ^ exponent := by gcongr
    _ < 2 ^ ((digits.log2 : ℤ) + 1) * 8 ^ exponent := by gcongr

/-- A decimal is read as a finite number exactly if its value is in range, however many places it has. -/
theorem ofDecimal_isFinite_iff (negative : Bool) (digits : ℕ) (exponent : ℤ) :
    (ofDecimal negative digits exponent).isFinite = true ↔ (digits : ℚ) * 10 ^ exponent < overflow := by
  obtain ⟨hbelow, habove⟩ := overflow_bounds
  unfold ofDecimal
  simp only
  split
  · rename_i hzero
    have hpos : (0 : ℚ) < overflow := lt_of_lt_of_le (by positivity) hbelow
    simp [hzero, isFinite, hpos]
  · rename_i hd
    split
    · rename_i hhuge
      have hmore : overflow ≤ digits * 10 ^ exponent :=
        (habove.trans (zpow_le_zpow_right₀ one_le_two (by omega))).trans (le_decimal hd hhuge.2)
      simp [isFinite, hmore]
    · split
      · rename_i htiny
        have hless : (digits : ℚ) * 10 ^ exponent < overflow :=
          (decimal_lt digits htiny.2).trans_le ((zpow_le_zpow_right₀ one_le_two (by omega)).trans hbelow)
        simp [isFinite, hless]
      · split
        · rename_i he
          obtain ⟨k, rfl⟩ := Int.eq_ofNat_of_zero_le he
          rw [ofRatio_isFinite_iff negative _ one_ne_zero, Int.toNat_natCast]
          push_cast
          rw [div_one, zpow_natCast]
        · rename_i he
          obtain ⟨k, hk⟩ := Int.eq_ofNat_of_zero_le (show 0 ≤ -exponent by omega)
          obtain rfl : exponent = -(k : ℤ) := by omega
          rw [ofRatio_isFinite_iff negative _ (by positivity), neg_neg, Int.toNat_natCast]
          push_cast
          rw [zpow_neg, zpow_natCast, div_eq_mul_inv]

end LogPipeline.Binary64
