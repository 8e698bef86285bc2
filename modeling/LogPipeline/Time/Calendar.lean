/-!
# The calendar

Days are counted from 1970-01-01 in the Gregorian calendar, extended to all years. A year is found from
a day by an estimate that is off by one at most.
-/

namespace LogPipeline.Time

def isLeap (year : Int) : Bool := year % 4 == 0 && (year % 100 != 0 || year % 400 == 0)

/-- The first day of a year. -/
def yearStart (year : Int) : Int :=
  365 * (year - 1) + (year - 1) / 4 - (year - 1) / 100 + (year - 1) / 400 - 719162

/-- The year that a day lies in. -/
def yearOf (day : Int) : Int :=
  let year := (day + 719162) * 400 / 146097 + 1
  if day < yearStart year then year - 1
  else if yearStart (year + 1) ≤ day then year + 1
  else year

/-- The position of a day in its year, from 1 on. -/
def ordinalOf (day : Int) : Nat := (day - yearStart (yearOf day) + 1).toNat

def yearLength (year : Int) : Nat := if isLeap year then 366 else 365

def monthLength (year : Int) (month : Nat) : Nat :=
  if month = 2 then (if isLeap year then 29 else 28)
  else if month = 4 ∨ month = 6 ∨ month = 9 ∨ month = 11 then 30
  else 31

/-- How many days of the year lie before a month. -/
def monthStart (year : Int) : (month : Nat) → Nat
  | 0 | 1 => 0
  | month + 2 => monthStart year (month + 1) + monthLength year (month + 1)

/-- A day by its year, month and position in the month. -/
structure Date where
  year : Int
  month : Nat
  day : Nat
  deriving DecidableEq, Repr

def Date.IsValid (date : Date) : Prop :=
  1 ≤ date.month ∧ date.month ≤ 12 ∧ 1 ≤ date.day ∧ date.day ≤ monthLength date.year date.month

instance (date : Date) : Decidable date.IsValid :=
  inferInstanceAs (Decidable (_ ∧ _))

def Date.toDay (date : Date) : Int :=
  yearStart date.year + (monthStart date.year date.month + date.day - 1 : Nat)

/-- Looks for the month of a day that lies `left` days behind the first day of `month`. -/
def monthAt (year : Int) (month left : Nat) : (limit : Nat) → Date
  | 0 => ⟨year, month, left + 1⟩
  | limit + 1 =>
    if left < monthLength year month then ⟨year, month, left + 1⟩
    else monthAt year (month + 1) (left - monthLength year month) limit

def Date.ofDay (day : Int) : Date :=
  let year := yearOf day
  monthAt year 1 (day - yearStart year).toNat 11

/-- The day of the week, from Monday, 0, to Sunday, 6. -/
def weekdayOf (day : Int) : Nat := ((day + 3) % 7).toNat

/-- The first Monday of the first week of a year: the week with the year's first Thursday. -/
def isoYearStart (year : Int) : Int :=
  let first := yearStart year
  let monday := first - weekdayOf first
  if weekdayOf first ≤ 3 then monday else monday + 7

/-- The year that the week of a day belongs to. -/
def isoYearOf (day : Int) : Int :=
  let year := yearOf day
  if day < isoYearStart year then year - 1
  else if isoYearStart (year + 1) ≤ day then year + 1
  else year

/-- The number of a day's week in the year the week belongs to. -/
def isoWeekOf (day : Int) : Nat := ((day - isoYearStart (isoYearOf day)) / 7 + 1).toNat

/-- How many weeks that begin on `firstDay` have begun in the year of a day. -/
def weeksFrom (firstDay : Nat) (day : Int) : Nat :=
  (ordinalOf day + 6 - (weekdayOf day + 7 - firstDay) % 7) / 7

/-- The years that timestamps may lie in. -/
def leastYear : Int := -262143

def greatestYear : Int := 262142

/-- Whether a day lies in the years of timestamps. -/
def isUsableDay (day : Int) : Bool := yearStart leastYear ≤ day && day < yearStart (greatestYear + 1)

def isUsableYear (year : Int) : Bool := leastYear ≤ year && year ≤ greatestYear

end LogPipeline.Time
