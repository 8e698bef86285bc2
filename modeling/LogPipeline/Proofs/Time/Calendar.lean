import LogPipeline.Time.Calendar

/-!
# Days and years

The years follow each other without gaps, and a day lies in the year of its date. So every date of a year
of timestamps is a day of timestamps, and every day has a date of which it is the day.
-/

namespace LogPipeline.Time

variable {year day : Int}

theorem yearStart_succ (year : Int) : yearStart (year + 1) = yearStart year + yearLength year := by
  have hleap : isLeap year = true ↔ year % 4 = 0 ∧ (year % 100 ≠ 0 ∨ year % 400 = 0) := by
    simp [isLeap]
  unfold yearStart yearLength
  split
  · rename_i h
    have := hleap.1 h
    omega
  · rename_i h
    have := mt hleap.2 h
    omega

theorem yearStart_le {first last : Int} (h : first ≤ last) : yearStart first ≤ yearStart last := by
  unfold yearStart
  omega

/-- A day within a year of timestamps is a day of timestamps. -/
theorem isUsableDay_of_year (hy : isUsableYear year = true) (hfirst : yearStart year ≤ day)
    (hlast : day < yearStart year + yearLength year) : isUsableDay day = true := by
  simp only [isUsableYear, Bool.and_eq_true, decide_eq_true_eq] at hy
  simp only [isUsableDay, Bool.and_eq_true, decide_eq_true_eq]
  rw [← yearStart_succ] at hlast
  refine ⟨Int.le_trans (yearStart_le hy.1) hfirst, Int.lt_of_lt_of_le hlast (yearStart_le ?_)⟩
  omega

/-- The year of a day is the one in which the day lies. -/
theorem yearOf_bounds (day : Int) :
    yearStart (yearOf day) ≤ day ∧ day < yearStart (yearOf day) + yearLength (yearOf day) := by
  rw [← yearStart_succ]
  obtain ⟨estimate, he⟩ : ∃ estimate, (day + 719162) * 400 / 146097 + 1 = estimate := ⟨_, rfl⟩
  have hlow : yearStart (estimate - 1) ≤ day := by unfold yearStart; omega
  have hhigh : day < yearStart (estimate + 2) := by unfold yearStart; omega
  unfold yearOf
  simp only [he]
  split
  · rename_i h
    exact ⟨hlow, by rwa [show estimate - 1 + 1 = estimate by omega]⟩
  · split
    · rename_i h
      exact ⟨h, by rwa [show estimate + 1 + 1 = estimate + 2 by omega]⟩
    · omega

/-- A day of timestamps lies in a year of timestamps. -/
theorem isUsableYear_yearOf (h : isUsableDay day = true) : isUsableYear (yearOf day) = true := by
  simp only [isUsableDay, Bool.and_eq_true, decide_eq_true_eq] at h
  simp only [isUsableYear, Bool.and_eq_true, decide_eq_true_eq]
  obtain ⟨hfirst, hlast⟩ := yearOf_bounds day
  rw [← yearStart_succ] at hlast
  constructor
  · refine Int.not_lt.mp fun hlow => ?_
    have := yearStart_le (show yearOf day + 1 ≤ leastYear by omega)
    omega
  · refine Int.not_lt.mp fun hhigh => ?_
    have := yearStart_le (show greatestYear + 1 ≤ yearOf day by omega)
    omega

theorem monthStart_thirteen (year : Int) : monthStart year 13 = yearLength year := by
  cases h : isLeap year <;> simp [monthStart, monthLength, yearLength, h]

theorem monthStart_succ (year : Int) {month : Nat} (h : 1 ≤ month) :
    monthStart year (month + 1) = monthStart year month + monthLength year month := by
  obtain ⟨month, rfl⟩ := Nat.exists_eq_add_of_le' h
  rfl

theorem monthStart_le (year : Int) {first last : Nat} (h : first ≤ last) :
    monthStart year first ≤ monthStart year last := by
  induction last with
  | zero => exact Nat.le_of_eq (congrArg _ (Nat.le_zero.1 h))
  | succ last ih =>
    by_cases heq : first = last + 1
    · exact Nat.le_of_eq (congrArg _ heq)
    · refine Nat.le_trans (ih (by omega)) ?_
      cases last with
      | zero => exact Nat.le_refl _
      | succ last => exact Nat.le_add_right _ _

namespace Date

variable {date : Date}

/-- The day of a date lies in the year of the date. -/
theorem toDay_bounds (h : date.IsValid) :
    yearStart date.year ≤ date.toDay ∧ date.toDay < yearStart date.year + yearLength date.year := by
  obtain ⟨hfirst, hlast, hday, hlength⟩ := h
  have hmonth : monthStart date.year date.month + date.day ≤ monthStart date.year (date.month + 1) := by
    rw [monthStart_succ _ hfirst]
    exact Nat.add_le_add_left hlength _
  have hyear := monthStart_le date.year (show date.month + 1 ≤ 13 by omega)
  rw [monthStart_thirteen] at hyear
  unfold toDay
  omega

/-- The month that is looked for is one of the year's, if the day lies in the year. -/
theorem monthAt_spec {month left limit : Nat} (hm : 1 ≤ month) (hl : month + limit ≤ 12)
    (h : monthStart year month + left < monthStart year (month + limit + 1)) :
    ∃ m d, monthAt year month left limit = ⟨year, m, d⟩ ∧ IsValid ⟨year, m, d⟩ ∧
      monthStart year m + d = monthStart year month + left + 1 := by
  induction limit generalizing month left with
  | zero =>
    have hlength : left + 1 ≤ monthLength year month := by
      rw [Nat.add_zero, monthStart_succ year hm] at h
      omega
    exact ⟨month, left + 1, rfl, ⟨hm, hl, Nat.le_add_left 1 left, hlength⟩, rfl⟩
  | succ limit ih =>
    rw [monthAt]
    split
    · rename_i hlength
      exact ⟨month, left + 1, rfl, ⟨hm, Nat.le_trans (Nat.le_add_right _ _) hl, Nat.le_add_left 1 left, hlength⟩, rfl⟩
    · have hnext := monthStart_succ year hm
      have hshift : month + 1 + limit + 1 = month + (limit + 1) + 1 := by omega
      obtain ⟨m, d, heq, hvalid, hsum⟩ := @ih (month + 1) (left - monthLength year month) (by omega) (by omega)
        (by rw [hshift]; omega)
      exact ⟨m, d, heq, hvalid, by omega⟩

/-- The date of a day is a date of the calendar, and its day is that day. -/
theorem ofDay_spec (day : Int) :
    (ofDay day).year = yearOf day ∧ (ofDay day).IsValid ∧ (ofDay day).toDay = day := by
  obtain ⟨hfirst, hlast⟩ := yearOf_bounds day
  have hstart : monthStart (yearOf day) 1 = 0 := rfl
  obtain ⟨m, d, heq, hvalid, hsum⟩ := @monthAt_spec (yearOf day) 1 (day - yearStart (yearOf day)).toNat 11
    (Nat.le_refl _) (Nat.le_refl _) (by rw [monthStart_thirteen, hstart]; omega)
  rw [ofDay, heq]
  refine ⟨rfl, hvalid, ?_⟩
  show yearStart (yearOf day) + (monthStart (yearOf day) m + d - 1 : Nat) = day
  omega

end Date

end LogPipeline.Time
