import LogPipeline.Time.Layout
import LogPipeline.Proofs.Number.Reading
import LogPipeline.Proofs.Number.Rounding

/-!
# Seconds and milliseconds

Numbers of seconds and milliseconds after the beginning of 1970 are read as binary64 numbers. Whole ones lose nothing
by that: those that are instants are numbers exactly, and the others do not become instants by rounding. A number
of seconds with a fraction is read as the nanosecond that is nearest to the nearest binary64 number, since what
comes after the first rounding is exact, or too small to matter. So it depends on that rounding alone whether the
instant that is written is the one that is read.
-/

namespace LogPipeline.Time

open Binary64
open Text (isDigit natOf)

variable {instant : Instant} {seconds : ℤ} {nanos : ℕ} {x : Binary64}

/-! ## Instants as numbers -/

/-- The nanoseconds from the beginning of 1970 on. -/
def Instant.sinceEpoch (instant : Instant) : ℤ := instant.seconds * 1000000000 + instant.nanos

/-- The seconds of instants are numbers of less than 44 digits in base two. -/
theorem natAbs_lt_of_isUsableDay (h : isUsableDay (seconds / secondsPerDay) = true) :
    seconds.natAbs < 8796093022208 := by
  simp only [isUsableDay, Bool.and_eq_true, decide_eq_true_eq] at h
  unfold yearStart leastYear greatestYear secondsPerDay at h
  omega

theorem Instant.ofUnix?_large (h : 8796093022208 ≤ seconds.natAbs) : ofUnix? seconds nanos = none := by
  unfold ofUnix?
  rw [if_neg fun hday => absurd (natAbs_lt_of_isUsableDay hday) (Nat.not_lt.mpr h)]

theorem Instant.ofUnix?_eq_some_iff (hn : nanos < nanosPerSecond) :
    ofUnix? seconds nanos = some instant ↔
      instant.IsRepresentable ∧ instant.nanos < nanosPerSecond ∧
        instant.sinceEpoch = seconds * 1000000000 + nanos := by
  unfold ofUnix? nanosPerSecond at *
  obtain ⟨s, n⟩ := instant
  simp only [Option.ite_none_right_eq_some, Option.some.injEq, mk.injEq, IsRepresentable, sinceEpoch, nanosPerSecond]
  constructor
  · rintro ⟨hday, rfl, rfl⟩
    exact ⟨⟨hday, by omega⟩, hn, rfl⟩
  · rintro ⟨⟨hday, -⟩, hless, heq⟩
    obtain rfl : s = seconds := by omega
    exact ⟨hday, rfl, by omega⟩

namespace Layout

/-! ## Whole numbers -/

/-- The number nearest to an integer. -/
def nearest (n : ℤ) : Binary64 := .ofDecimal (decide (n < 0)) n.natAbs 0

theorem ofSeconds?_nearest (n : ℤ) : ofSeconds? (nearest n) = Instant.ofUnix? n 0 := by
  by_cases hn : n.natAbs < 2 * leastMantissa
  · obtain ⟨hfinite, hvalue⟩ := ofDecimal_exact hn
    obtain ⟨hwhole, hwholeValue⟩ := ofInt_exact hn
    have hzero : Representable 0 := ⟨0, 0, by decide, by decide, by simp⟩
    have hroomy : |(0 : ℚ)| < 2 ^ roomyPower := by
      rw [abs_zero]
      positivity
    have hsub := sub_rounds hfinite hwhole (by rwa [hvalue, hwholeValue, sub_self])
    rw [hvalue, hwholeValue, sub_self] at hsub
    obtain ⟨hbillion, -⟩ := @ofInt_exact 1000000000 (by decide)
    have hmul := mul_rounds hsub.isFinite hbillion (by rwa [hsub.exact hzero, zero_mul])
    rw [hsub.exact hzero, zero_mul] at hmul
    have hround := @round_of_near _ 0 hmul.isFinite (by rw [hmul.exact hzero]; norm_num)
    have hfloor : (nearest n).floor = some n := by
      rw [nearest, floor_eq hfinite, hvalue, Int.floor_intCast]
    simp only [ofSeconds?, hfloor, Option.bind_eq_bind, Option.bind_some]
    unfold nearest
    rw [hround]
    rfl
  · have hlarge : 8796093022208 ≤ n.natAbs := le_trans (by decide) (not_lt.mp hn)
    rw [Instant.ofUnix?_large hlarge]
    rcases ofDecimal_beyond (decide (n < 0)) (not_lt.mp hn) with heq | ⟨m, e, heq, hle⟩
    · rw [nearest, heq]
      rfl
    · have hfloor : (finite (decide (n < 0)) m e).floor = some ⌊(finite (decide (n < 0)) m e).value⌋ := floor_eq rfl
      have hbeyond := le_natAbs_of_le hle (.inl hfloor)
      rw [nearest, heq, ofSeconds?, hfloor]
      simp only [Option.bind_eq_bind, Option.bind_some]
      rw [Option.bind_eq_none_iff]
      intro nanos _
      exact Instant.ofUnix?_large (le_trans (by decide) hbeyond)

theorem ofMillis?_nearest (n : ℤ) :
    ofMillis? (nearest n) = Instant.ofUnix? (n / 1000) ((n % 1000).toNat * 1000000) := by
  by_cases hn : n.natAbs < 2 * leastMantissa
  · obtain ⟨hfinite, hvalue⟩ := ofDecimal_exact hn
    have hround : (nearest n).round = some n := by
      rw [nearest]
      exact round_of_near hfinite (by rw [hvalue]; norm_num)
    simp only [ofMillis?, hround, Option.bind_eq_bind, Option.bind_some]
  · have hlarge (i : ℤ) (h : 2 * leastMantissa ≤ i.natAbs) : 8796093022208 ≤ (i / 1000).natAbs := by
      unfold leastMantissa at h
      omega
    rw [Instant.ofUnix?_large (hlarge n (not_lt.mp hn))]
    rcases ofDecimal_beyond (decide (n < 0)) (not_lt.mp hn) with heq | ⟨m, e, heq, hle⟩
    · rw [nearest, heq]
      rfl
    · rw [nearest, heq, ofMillis?, Option.bind_eq_bind, Option.bind_eq_none_iff]
      intro i hi
      exact Instant.ofUnix?_large (hlarge i (le_natAbs_of_le hle (.inr hi)))

theorem unix_integerText (year : ℤ) (zone : Zone) (n : ℤ) :
    unix.read? year zone (String.ofList (Json.integerText n)) = Instant.ofUnix? n 0 := by
  simp only [read?, String.toList_ofList, Number.trim_integerText, Number.readDecimal?_integerText, Option.bind_some]
  exact ofSeconds?_nearest n

theorem unixMillis_integerText (year : ℤ) (zone : Zone) (n : ℤ) :
    unixMillis.read? year zone (String.ofList (Json.integerText n)) =
      Instant.ofUnix? (n / 1000) ((n % 1000).toNat * 1000000) := by
  simp only [read?, String.toList_ofList, Number.trim_integerText, Number.readDecimal?_integerText, Option.bind_some]
  exact ofMillis?_nearest n

/-! ## Fractions -/

/-- The part of a number of seconds behind the whole ones, as binary arithmetic gives it. -/
def lastSecond (x : Binary64) : Binary64 := x.sub (.ofInt ⌊x.value⌋)

/-- The nanoseconds of that part. -/
def lastNanos (x : Binary64) : Binary64 := (lastSecond x).mul (.ofInt 1000000000)

theorem ofSeconds?_of_round {k : ℤ} (hx : x.isFinite = true) (h : (lastNanos x).round = some k) :
    ofSeconds? x = Instant.ofUnix? ⌊x.value⌋ (min k.toNat 999999999) := by
  unfold lastNanos lastSecond at h
  simp only [ofSeconds?, floor_eq hx, Option.bind_eq_bind, Option.bind_some, h]

theorem abs_fract_lt : |Int.fract x.value| < 2 ^ (0 : ℤ) := by
  rw [abs_of_nonneg (Int.fract_nonneg _), zpow_zero]
  exact Int.fract_lt_one _

theorem lastSecond_rounds (hx : x.isFinite = true) (hl : |x.value| < 2 ^ (44 : ℤ)) :
    Rounds (Int.fract x.value) (lastSecond x) := by
  have hwhole : ⌊x.value⌋.natAbs < 2 * leastMantissa := by
    obtain ⟨hlow, hhigh⟩ := abs_lt.mp hl
    have hlow : (-17592186044416 : ℤ) ≤ ⌊x.value⌋ := Int.le_floor.mpr (by norm_num at hlow ⊢; linarith)
    have hhigh : ⌊x.value⌋ < (17592186044416 : ℤ) := Int.floor_lt.mpr (by norm_num at hhigh ⊢; linarith)
    unfold leastMantissa
    omega
  obtain ⟨hfinite, hvalue⟩ := ofInt_exact hwhole
  have hpart := @sub_rounds x _ hx hfinite
  rw [hvalue, Int.self_sub_floor] at hpart
  exact hpart (lt_roomyPower (by decide) abs_fract_lt)

theorem lastNanos_rounds (hx : x.isFinite = true) (hl : |x.value| < 2 ^ (44 : ℤ)) :
    |(lastSecond x).value * 1000000000| < 2 ^ (30 : ℤ) ∧
      Rounds ((lastSecond x).value * 1000000000) (lastNanos x) := by
  have hpart := lastSecond_rounds hx hl
  have hnear := abs_le.mp (hpart.near 0 (by decide) abs_fract_lt)
  have hnonneg := Int.fract_nonneg x.value
  have hless := Int.fract_lt_one x.value
  have hsize : |(lastSecond x).value * 1000000000| < 2 ^ (30 : ℤ) := by
    norm_num at hnear
    refine abs_lt.mpr ⟨?_, ?_⟩ <;> norm_num <;> linarith
  obtain ⟨hbillion, hvalue⟩ := @ofInt_exact 1000000000 (by decide)
  push_cast at hvalue
  have hmul := @mul_rounds (lastSecond x) _ hpart.isFinite hbillion
  rw [hvalue] at hmul
  exact ⟨hsize, hmul (lt_roomyPower (by decide) hsize)⟩

theorem lastNanos_near (hx : x.isFinite = true) (hl : |x.value| < 2 ^ (44 : ℤ)) :
    |(lastNanos x).value - Int.fract x.value * 1000000000| < 1 / 1000000 := by
  have hsecond := abs_le.mp ((lastSecond_rounds hx hl).near 0 (by decide) abs_fract_lt)
  obtain ⟨hsize, hrounds⟩ := lastNanos_rounds hx hl
  have hnanos := abs_le.mp (hrounds.near 30 (by decide) hsize)
  norm_num at hsecond hnanos ⊢
  rw [abs_lt]
  constructor <;> linarith

/-- With 29 places at most, nothing is rounded. -/
theorem lastNanos_exact {j : ℤ} (hx : x.isFinite = true) (hl : |x.value| < 2 ^ (44 : ℤ))
    (hj : x.value = j * 2 ^ (23 - 52 : ℤ)) : (lastNanos x).value = Int.fract x.value * 1000000000 ∧
      Int.fract x.value * 1000000000 + 1 / 2 < 1000000000 := by
  obtain ⟨r, hr, hless⟩ : ∃ r : ℕ, j % (536870912 : ℕ) = r ∧ r < 536870912 := by
    exact ⟨(j % (536870912 : ℕ)).toNat, by omega, by omega⟩
  have hfract : Int.fract x.value = r * 2 ^ (-29 : ℤ) := by
    have hratio : x.value = j / (536870912 : ℕ) := by
      rw [hj]
      norm_num [div_eq_mul_inv]
    rw [hratio, Int.fract_div_intCast_eq_div_intCast_mod, hr]
    norm_num [div_eq_mul_inv]
  have hsecond : (lastSecond x).value = Int.fract x.value := by
    refine (lastSecond_rounds hx hl).exact ⟨r, -29, by unfold leastMantissa; omega, by decide, ?_⟩
    rw [hfract, abs_of_nonneg (by positivity)]
  have hnanos : (lastSecond x).value * 1000000000 = (r * 1953125 : ℕ) * 2 ^ (-20 : ℤ) := by
    rw [hsecond, hfract]
    push_cast
    norm_num
    ring
  constructor
  · rw [(lastNanos_rounds hx hl).2.exact ⟨r * 1953125, -20, by unfold leastMantissa; omega, by decide, ?_⟩, hsecond]
    rw [hnanos, abs_of_nonneg (by positivity)]
  · have hcast : (r : ℚ) ≤ 536870911 := by exact_mod_cast Nat.le_of_lt_succ hless
    rw [hfract]
    norm_num
    linarith

/-- What the nanoseconds of the last second are rounded to. -/
structure RoundsTo (x : Binary64) (k : ℤ) : Prop where
  round : (lastNanos x).round = some k
  nonneg : 0 ≤ k
  less : k < 1000000000
  total : ⌊x.value⌋ * 1000000000 + k = ⌊x.value * 1000000000 + 1 / 2⌋

theorem abs_value_lt {v : ℚ} (hx : Rounds v x) (hl : |v| < 2 ^ (43 : ℤ)) : |x.value| < 2 ^ (44 : ℤ) := by
  have hnear := abs_le.mp (hx.near 43 (by decide) hl)
  have hv := abs_lt.mp hl
  norm_num at hnear hv
  refine abs_lt.mpr ⟨?_, ?_⟩ <;> norm_num <;> linarith

/-- A whole number of seconds is a number itself, so what it is rounded to does not lie in the second before. -/
theorem ne_floor_add_one {v : ℚ} (hx : Rounds v x) (hs : |v| < 2 ^ (23 : ℤ)) : v ≠ (⌊x.value⌋ + 1 : ℤ) := by
  intro hnext
  have hsize : (⌊x.value⌋ + 1).natAbs < 2 * leastMantissa := by
    have : ((⌊x.value⌋ + 1).natAbs : ℚ) < (8388608 : ℕ) := by
      rw [Nat.cast_natAbs, Int.cast_abs, ← hnext]
      norm_num at hs ⊢
      exact hs
    have : (⌊x.value⌋ + 1).natAbs < 8388608 := by exact_mod_cast this
    unfold leastMantissa
    omega
  have hexact := hx.exact (hnext ▸ representable_intCast hsize)
  have hless := Int.lt_floor_add_one x.value
  push_cast at hnext
  linarith

/-- Below 2 ^ 23 seconds, all roundings together are less than half a nanosecond. -/
theorem roundsTo_of_small {v : ℚ} {total : ℤ} (hx : Rounds v x) (hv : v * 1000000000 = total)
    (hs : |v| < 2 ^ (23 : ℤ)) : RoundsTo x (total - ⌊x.value⌋ * 1000000000) := by
  have hl : |v| < 2 ^ (43 : ℤ) := hs.trans (zpow_lt_zpow_right₀ one_lt_two (by decide))
  obtain ⟨hlow, hhigh⟩ := abs_le.mp (hx.near 23 (by decide) hs)
  norm_num at hlow hhigh
  obtain ⟨hnanosLow, hnanosHigh⟩ := abs_lt.mp (lastNanos_near hx.isFinite (abs_value_lt hx hl))
  have hsplit := Int.floor_add_fract x.value
  have hnonneg := Int.fract_nonneg x.value
  have hless := Int.fract_lt_one x.value
  obtain ⟨k, hk⟩ : ∃ k, total - ⌊x.value⌋ * 1000000000 = k := ⟨_, rfl⟩
  have hcast : (k : ℚ) = v * 1000000000 - ⌊x.value⌋ * 1000000000 := by
    rw [hv, ← hk]
    push_cast
    rfl
  rw [hk]
  have hzero : (-1 : ℤ) < k := by
    have : (-1 : ℚ) < k := by linarith
    exact_mod_cast this
  have hbillion : k < 1000000001 := by
    have : (k : ℚ) < 1000000001 := by linarith
    exact_mod_cast this
  have hwhole : k ≠ 1000000000 := by
    rintro rfl
    refine ne_floor_add_one hx hs ?_
    push_cast at hcast ⊢
    linarith
  refine ⟨round_of_near (lastNanos_rounds hx.isFinite (abs_value_lt hx hl)).2.isFinite ?_, by omega, by omega, ?_⟩
  · refine abs_lt.mpr ⟨?_, ?_⟩ <;> linarith
  · have hfloor : ⌊x.value * 1000000000 + 1 / 2⌋ = total := by
      rw [Int.floor_eq_iff, ← hv]
      constructor <;> linarith
    omega

/-- From there on, a number has 29 places at most. -/
theorem roundsTo_of_large {v : ℚ} (hx : Rounds v x) (hl : |v| < 2 ^ (43 : ℤ)) (hs : 2 ^ (23 : ℤ) ≤ |v|) :
    RoundsTo x ⌊Int.fract x.value * 1000000000 + 1 / 2⌋ := by
  obtain ⟨j, hj⟩ := hx.places (by decide) hs
  obtain ⟨hexact, hless⟩ := lastNanos_exact hx.isFinite (abs_value_lt hx hl) hj
  have hnonneg : 0 ≤ Int.fract x.value * 1000000000 := mul_nonneg (Int.fract_nonneg _) (by norm_num)
  have hfinite := (lastNanos_rounds hx.isFinite (abs_value_lt hx hl)).2.isFinite
  refine ⟨?_, ?_, ?_, ?_⟩
  · rw [← hexact]
    exact round_of_nonneg hfinite (by rwa [hexact])
  · exact Int.floor_nonneg.mpr (by linarith)
  · exact Int.floor_lt.mpr (by exact_mod_cast hless)
  · rw [← Int.floor_intCast_add]
    congr 1
    push_cast
    linarith [Int.floor_add_fract x.value]

/-- The instant that a number of seconds is read as is the nearest one; half a nanosecond goes to the later one. -/
theorem ofSeconds?_eq {v : ℚ} {total : ℤ} (hx : Rounds v x) (hv : v * 1000000000 = total) (hl : |v| < 2 ^ (43 : ℤ)) :
    ∃ seconds nanos, nanos < nanosPerSecond ∧
      seconds * 1000000000 + (nanos : ℤ) = ⌊x.value * 1000000000 + 1 / 2⌋ ∧
      ofSeconds? x = Instant.ofUnix? seconds nanos := by
  obtain ⟨k, hk⟩ : ∃ k, RoundsTo x k := by
    by_cases hs : |v| < 2 ^ (23 : ℤ)
    · exact ⟨_, roundsTo_of_small hx hv hs⟩
    · exact ⟨_, roundsTo_of_large hx hl (not_lt.mp hs)⟩
  obtain ⟨n, rfl⟩ := Int.eq_ofNat_of_zero_le hk.nonneg
  have hless := hk.less
  refine ⟨⌊x.value⌋, n, ?_, hk.total, ?_⟩
  · unfold nanosPerSecond
    omega
  · rw [ofSeconds?_of_round hx.isFinite hk.round, Int.toNat_natCast, Nat.min_eq_left (by omega)]

/-- Seconds as they are written: a sign, digits, a point and digits behind it. -/
structure WrittenSeconds where
  negative : Bool
  whole : List Char
  fraction : List Char

namespace WrittenSeconds

structure IsValid (w : WrittenSeconds) : Prop where
  whole : w.whole ≠ []
  digits : ∀ c ∈ w.whole ++ w.fraction, isDigit c = true
  fraction : 1 ≤ w.fraction.length ∧ w.fraction.length ≤ 9

def text (w : WrittenSeconds) : String :=
  String.ofList (Number.signText w.negative ++ (w.whole ++ '.' :: w.fraction))

/-- The nanoseconds from the beginning of 1970 to the instant written. -/
def sinceEpoch (w : WrittenSeconds) : ℤ :=
  signedMantissa w.negative (natOf (w.whole ++ w.fraction) * 10 ^ (9 - w.fraction.length))

/-- The binary64 number nearest to what is written. -/
def nearest (w : WrittenSeconds) : Binary64 :=
  .ofDecimal w.negative (natOf (w.whole ++ w.fraction)) (-(w.fraction.length : ℤ))

/-- The nearest binary64 number is within half a nanosecond of the instant written. It may be just half a nanosecond
before it, but not behind it. -/
def IsKept (w : WrittenSeconds) : Prop :=
  -(1 / 2) ≤ w.nearest.value * 1000000000 - w.sinceEpoch ∧ w.nearest.value * 1000000000 - w.sinceEpoch < 1 / 2

variable {w : WrittenSeconds}

theorem isKept_iff : w.IsKept ↔ w.sinceEpoch = ⌊w.nearest.value * 1000000000 + 1 / 2⌋ := by
  rw [eq_comm, Int.floor_eq_iff]
  unfold IsKept
  constructor
  · rintro ⟨hlow, hhigh⟩
    constructor <;> linarith
  · rintro ⟨hlow, hhigh⟩
    constructor <;> linarith

theorem nearest_rounds (hw : w.IsValid) (hl : |(w.sinceEpoch : ℚ) / 1000000000| < 2 ^ (43 : ℤ)) :
    Rounds (w.sinceEpoch / 1000000000) w.nearest := by
  obtain ⟨digits, hdigits⟩ : ∃ digits, natOf (w.whole ++ w.fraction) = digits := ⟨_, rfl⟩
  have hpower : (10 : ℚ) ^ (9 - w.fraction.length) * 10 ^ w.fraction.length = 1000000000 := by
    rw [← pow_add, Nat.sub_add_cancel hw.fraction.2]
    norm_num
  have hvalue : (w.sinceEpoch : ℚ) / 1000000000 = withSign w.negative (digits / (10 ^ w.fraction.length : ℕ)) := by
    rw [sinceEpoch, hdigits, ← hpower]
    cases w.negative <;> simp only [signedMantissa, withSign, Bool.false_eq_true, if_true, if_false] <;> push_cast <;>
      field_simp
  rw [hvalue] at hl ⊢
  rw [abs_withSign, abs_of_nonneg (by positivity)] at hl
  unfold nearest
  rw [hdigits]
  exact ofDecimal_rounds w.negative (by have := hw.fraction.2; omega) (lt_roomyPower (by decide) hl)

theorem unix_text (hw : w.IsValid) (year : ℤ) (zone : Zone) :
    unix.read? year zone w.text = ofSeconds? w.nearest := by
  have htrim : Text.trim (Number.signText w.negative ++ (w.whole ++ '.' :: w.fraction)) =
      Number.signText w.negative ++ (w.whole ++ '.' :: w.fraction) := by
    refine Text.trim_eq_self fun c hc => ?_
    rcases List.mem_append.mp hc with hc | hc
    · exact Number.isBlank_signText c hc
    · rcases List.mem_append.mp hc with hc | hc
      · exact Text.isBlank_of_isDigit (hw.digits c (List.mem_append_left _ hc))
      · rcases List.mem_cons.mp hc with rfl | hc
        · decide
        · exact Text.isBlank_of_isDigit (hw.digits c (List.mem_append_right _ hc))
  simp only [read?, text, String.toList_ofList, htrim, Number.readDecimal?_fraction w.negative hw.whole hw.digits,
    Option.bind_some, nearest]

theorem isKept_of_small (hw : w.IsValid) (hs : |(w.sinceEpoch : ℚ) / 1000000000| < 2 ^ (23 : ℤ)) : w.IsKept := by
  have hnear := (nearest_rounds hw (hs.trans (zpow_lt_zpow_right₀ one_lt_two (by decide)))).near 23 (by decide) hs
  obtain ⟨hlow, hhigh⟩ := abs_le.mp hnear
  norm_num at hlow hhigh
  constructor <;> linarith

/-- From 2 ^ 29 seconds on, every 125th millisecond is kept and no other. -/
theorem isKept_iff_of_millis {millis : ℤ} (hw : w.IsValid) (hm : w.sinceEpoch = millis * 1000000)
    (hl : |(w.sinceEpoch : ℚ) / 1000000000| < 2 ^ (43 : ℤ)) (hs : 2 ^ (29 : ℤ) ≤ |(w.sinceEpoch : ℚ) / 1000000000|) :
    w.IsKept ↔ 125 ∣ millis := by
  have hrounds := nearest_rounds hw hl
  have hcast : (w.sinceEpoch : ℚ) = millis * 1000000 := by exact_mod_cast hm
  constructor
  · intro hkept
    obtain ⟨j, hj⟩ := hrounds.places (by decide) hs
    obtain ⟨hlow, hhigh⟩ := hkept
    rw [hj, hcast] at hlow hhigh
    norm_num at hlow hhigh
    have hlow : (-5 : ℤ) < 1000 * j - 8388608 * millis := by
      have : (-5 : ℚ) < 1000 * j - 8388608 * millis := by linarith
      exact_mod_cast this
    have hhigh : 1000 * j - 8388608 * millis < (5 : ℤ) := by
      have : 1000 * j - 8388608 * millis < (5 : ℚ) := by linarith
      exact_mod_cast this
    -- the difference is a multiple of eight
    omega
  · rintro ⟨k, rfl⟩
    have hvalue : (w.sinceEpoch : ℚ) / 1000000000 = k * 2 ^ (-3 : ℤ) := by
      rw [hcast]
      push_cast
      norm_num
      ring
    have hk : k.natAbs < 2 * leastMantissa := by
      rw [hvalue, abs_mul] at hl
      norm_num at hl
      have : ((k.natAbs : ℕ) : ℚ) < (2 * leastMantissa : ℕ) := by
        rw [Nat.cast_natAbs, Int.cast_abs]
        norm_num [leastMantissa]
        linarith
      exact_mod_cast this
    have hexact := hrounds.exact ⟨k.natAbs, -3, hk, by decide, by
      rw [hvalue, abs_mul, Nat.cast_natAbs, Int.cast_abs]
      norm_num⟩
    unfold IsKept
    rw [hexact]
    constructor <;> linarith

end WrittenSeconds

/-- A number of seconds with one to nine digits behind the point is read as the instant that is written exactly if the
nearest binary64 number lies in the half of a nanosecond before or behind it. Below 2 ^ 23 seconds it always does.
For whole milliseconds this is also when the same is read from their number; from 2 ^ 29 seconds on those are the
eighths of a second. -/
theorem unix_exact_iff {w : WrittenSeconds} (hw : w.IsValid) (hr : instant.IsRepresentable)
    (hl : instant.nanos < nanosPerSecond) (he : instant.sinceEpoch = w.sinceEpoch) (year : ℤ) (zone : Zone) :
    (unix.read? year zone w.text = some instant ↔ w.IsKept) ∧
      (|(w.sinceEpoch : ℚ) / 1000000000| < 2 ^ (23 : ℤ) → w.IsKept) ∧
      ∀ millis : ℤ, w.sinceEpoch = millis * 1000000 →
        (unix.read? year zone w.text = unixMillis.read? year zone (String.ofList (Json.integerText millis)) ↔
          w.IsKept) ∧
        (2 ^ (29 : ℤ) ≤ |(w.sinceEpoch : ℚ) / 1000000000| → (w.IsKept ↔ 125 ∣ millis)) := by
  have hsize : |(w.sinceEpoch : ℚ) / 1000000000| < 2 ^ (43 : ℤ) := by
    have hseconds := natAbs_lt_of_isUsableDay hr.1
    have hwhole : w.sinceEpoch.natAbs < 8796093022208 * 1000000000 := by
      unfold nanosPerSecond at hl
      rw [← he, Instant.sinceEpoch]
      omega
    have hcast : ((w.sinceEpoch.natAbs : ℕ) : ℚ) < (8796093022208 * 1000000000 : ℕ) := by exact_mod_cast hwhole
    rw [Nat.cast_natAbs, Int.cast_abs] at hcast
    rw [abs_div]
    norm_num at hcast ⊢
    linarith
  have hread : unix.read? year zone w.text = some instant ↔ w.IsKept := by
    obtain ⟨seconds, nanos, hn, htotal, heq⟩ := ofSeconds?_eq (WrittenSeconds.nearest_rounds hw hsize)
      (div_mul_cancel₀ _ (by norm_num)) hsize
    rw [WrittenSeconds.unix_text hw, heq, Instant.ofUnix?_eq_some_iff hn, htotal, he, WrittenSeconds.isKept_iff]
    exact ⟨fun h => h.2.2, fun h => ⟨hr, hl, h⟩⟩
  refine ⟨hread, WrittenSeconds.isKept_of_small hw, fun millis hm => ⟨?_, fun hs => ?_⟩⟩
  · have hmillis : unixMillis.read? year zone (String.ofList (Json.integerText millis)) = some instant := by
      have hless : (millis % 1000).toNat * 1000000 < nanosPerSecond := by
        unfold nanosPerSecond
        omega
      rw [unixMillis_integerText, Instant.ofUnix?_eq_some_iff hless]
      exact ⟨hr, hl, by omega⟩
    rw [hmillis, hread]
  · exact WrittenSeconds.isKept_iff_of_millis hw hm hsize hs

/-- Eighths of a second are kept. -/
theorem unix_exact_iff_of_eighth :
    let w : WrittenSeconds := ⟨true, "1484928900".toList, "125".toList⟩
    let instant : Instant := ⟨-1484928901, 875000000⟩
    w.IsValid ∧ instant.IsRepresentable ∧ instant.nanos < nanosPerSecond ∧ instant.sinceEpoch = w.sinceEpoch ∧
      w.text = "-1484928900.125" ∧ unix.read? 2026 .utc "-1484928900.125" = some instant ∧
      unixMillis.read? 2026 .utc "-1484928900125" = some instant := by
  intro w instant
  have hw : w.IsValid := ⟨by decide, List.all_eq_true.mp (by decide), by decide⟩
  have hr : instant.IsRepresentable := by decide
  have hl : instant.nanos < nanosPerSecond := by decide
  have he : instant.sinceEpoch = w.sinceEpoch := by decide +kernel
  have htext : w.text = "-1484928900.125" := by decide +kernel
  obtain ⟨hread, -, hmillis⟩ := unix_exact_iff hw hr hl he 2026 .utc
  obtain ⟨hsame, hkept⟩ := hmillis (-1484928900125) (by decide +kernel)
  have hsize : 2 ^ (29 : ℤ) ≤ |(w.sinceEpoch : ℚ) / 1000000000| := by
    rw [← he]
    norm_num [Instant.sinceEpoch, instant]
  have hw := (hkept hsize).mpr (by decide)
  rw [htext] at hread hsame
  have hunix := hread.mpr hw
  refine ⟨‹_›, hr, hl, he, htext, hunix, ?_⟩
  rw [← hunix]
  exact (hsame.mpr hw).symm

/-- Thousandths of a second are not. -/
theorem unix_loses_milliseconds :
    let w : WrittenSeconds := ⟨false, "1484928900".toList, "123".toList⟩
    w.IsValid ∧ (⟨1484928900, 123000000⟩ : Instant).IsRepresentable ∧
      Instant.sinceEpoch ⟨1484928900, 123000000⟩ = w.sinceEpoch ∧ w.text = "1484928900.123" ∧
      unix.read? 2026 .utc "1484928900.123" = some ⟨1484928900, 122999907⟩ ∧
      unixMillis.read? 2026 .utc "1484928900123" = some ⟨1484928900, 123000000⟩ :=
  ⟨⟨by decide, List.all_eq_true.mp (by decide), by decide⟩, by decide, by decide +kernel, by decide +kernel, by decide +kernel,
    by decide +kernel⟩

end Layout

end LogPipeline.Time
