import LogPipeline.Time.Calendar
import LogPipeline.Time.Format

/-!
# Components of a date and a time

What has been read from a value so far. A component that is read twice must be the same both times, and
together the components must belong to one date: it is built from the first sufficient set of them, and
all others are compared with it.
-/

namespace LogPipeline.Time

structure Components where
  year : Option Int := none
  century : Option Int := none
  yearOfCentury : Option Int := none
  isoYear : Option Int := none
  isoYearOfCentury : Option Int := none
  quarter : Option Nat := none
  month : Option Nat := none
  weekFromSunday : Option Nat := none
  weekFromMonday : Option Nat := none
  isoWeek : Option Nat := none
  /-- Monday is 0. -/
  weekday : Option Nat := none
  ordinal : Option Nat := none
  day : Option Nat := none
  /-- Whether the hour lies in the second half of the day. -/
  afternoon : Option Bool := none
  /-- The hour within the half of the day. -/
  halfHour : Option Nat := none
  minute : Option Nat := none
  second : Option Nat := none
  nanos : Option Nat := none
  unixSeconds : Option Int := none
  offset : Option Int := none
  deriving DecidableEq, Repr

/-- Keeps a component that is already there only if it is the same. -/
def agree {α : Type} [BEq α] (old : Option α) (value : α) : Option (Option α) :=
  match old with
  | none => some (some value)
  | some known => if known == value then some old else none

namespace Components

def fitsWord (n : Int) : Bool := -0x80000000 ≤ n && n ≤ 0x7FFFFFFF

def setHalf (c : Components) (afternoon : Bool) : Option Components := do
  return { c with afternoon := ← agree c.afternoon afternoon }

def setMonth (c : Components) (month : Nat) : Option Components :=
  if 1 ≤ month ∧ month ≤ 12 then do return { c with month := ← agree c.month month } else none

def setWeekday (c : Components) (weekday : Nat) : Option Components := do
  return { c with weekday := ← agree c.weekday weekday }

def setNanos (c : Components) (nanos : Nat) : Option Components := do
  return { c with nanos := ← agree c.nanos nanos }

def setOffset (c : Components) (offset : Int) : Option Components := do
  return { c with offset := ← agree c.offset offset }

def setYear (c : Components) (year : Int) : Option Components :=
  if fitsWord year then do return { c with year := ← agree c.year year } else none

/-- Notes a component that was read as the number `n`, unless it is out of its range. Only years may be
negative. -/
def set (c : Components) (component : Component) (n : Int) : Option Components :=
  let nat := n.toNat
  let within (low high : Nat) : Bool := low ≤ nat && nat ≤ high
  match component with
  | .year => c.setYear n
  | .century =>
    if fitsWord n then do return { c with century := ← agree c.century n } else none
  | .yearOfCentury =>
    if within 0 99 then do return { c with yearOfCentury := ← agree c.yearOfCentury n } else none
  | .isoYear =>
    if fitsWord n then do return { c with isoYear := ← agree c.isoYear n } else none
  | .isoYearOfCentury =>
    if within 0 99 then do return { c with isoYearOfCentury := ← agree c.isoYearOfCentury n }
    else none
  | .quarter => if within 1 4 then do return { c with quarter := ← agree c.quarter nat } else none
  | .month => c.setMonth nat
  | .day => if within 1 31 then do return { c with day := ← agree c.day nat } else none
  | .weekFromSunday =>
    if within 0 53 then do return { c with weekFromSunday := ← agree c.weekFromSunday nat } else none
  | .weekFromMonday =>
    if within 0 53 then do return { c with weekFromMonday := ← agree c.weekFromMonday nat } else none
  | .isoWeek => if within 1 53 then do return { c with isoWeek := ← agree c.isoWeek nat } else none
  | .daysFromSunday => if within 0 6 then c.setWeekday ((nat + 6) % 7) else none
  | .weekdayFromMonday => if within 1 7 then c.setWeekday (nat - 1) else none
  | .ordinal =>
    if within 1 366 then do return { c with ordinal := ← agree c.ordinal nat } else none
  | .hour =>
    if within 0 23 then do
      let c ← c.setHalf (12 ≤ nat)
      return { c with halfHour := ← agree c.halfHour (nat % 12) }
    else none
  | .halfDayHour =>
    if within 1 12 then do return { c with halfHour := ← agree c.halfHour (nat % 12) } else none
  | .minute => if within 0 59 then do return { c with minute := ← agree c.minute nat } else none
  | .second => if within 0 60 then do return { c with second := ← agree c.second nat } else none
  | .nanos => if within 0 999999999 then c.setNanos nat else none
  | .unixSeconds =>
    if n ≤ 0x7FFFFFFFFFFFFFFF then do return { c with unixSeconds := ← agree c.unixSeconds n } else none

/-- Why no date or time could be built. -/
inductive Gap where
  /-- Components are missing. -/
  | missing
  /-- Components contradict each other, or there is no such date or time. -/
  | contradiction
  deriving DecidableEq, Repr

/-- The year that a year, a century and a year of a century say. Without a century the years of a
century are those from 1970 to 2069. -/
def fullYear (year century yearOfCentury : Option Int) : Except Gap (Option Int) :=
  match year, century, yearOfCentury with
  | year, none, none => .ok year
  | some y, q, r =>
    if y < 0 then .error .contradiction
    else if q.getD (y / 100) = y / 100 ∧ r.getD (y % 100) = y % 100 then .ok (some y)
    else .error .contradiction
  | none, some q, some r =>
    if q < 0 ∨ ¬fitsWord (q * 100 + r) then .error .contradiction else .ok (some (q * 100 + r))
  | none, none, some r => .ok (some (if r < 70 then r + 2000 else r + 1900))
  | none, some _, none => .error .missing

def sameAs {α : Type} [BEq α] (component : Option α) (value : α) : Bool :=
  component.all (· == value)

/-- Whether a century or a year of a century, if read, is that of a year. -/
def centuryMatches (century yearOfCentury : Option Int) (year : Int) : Bool :=
  if 0 ≤ year then sameAs century (year / 100) && sameAs yearOfCentury (year % 100)
  else century.isNone && yearOfCentury.isNone

/-- Whether every component read is that of the day. -/
def matchesDay (c : Components) (day : Int) : Bool :=
  let date := Date.ofDay day
  sameAs c.year date.year && centuryMatches c.century c.yearOfCentury date.year &&
    sameAs c.month date.month && sameAs c.day date.day &&
    sameAs c.quarter ((date.month - 1) / 3 + 1) &&
    sameAs c.isoYear (isoYearOf day) &&
    centuryMatches none c.isoYearOfCentury (isoYearOf day) &&
    sameAs c.isoWeek (isoWeekOf day) && sameAs c.weekday (weekdayOf day) &&
    sameAs c.ordinal (ordinalOf day) &&
    sameAs c.weekFromSunday (weeksFrom 6 day) && sameAs c.weekFromMonday (weeksFrom 0 day)

/-- The day of a year with a day of the week in the week of a number. Week 1 begins with the first
`firstDay` of the year. -/
def dayOfWeek (year : Int) (week weekday firstDay : Nat) : Except Gap Int :=
  let start := yearStart year
  let ordinal : Int := (1 + (firstDay + 7 - weekdayOf start) % 7 + (weekday + 7 - firstDay) % 7 : Nat) +
    ((week : Int) - 1) * 7
  if isUsableYear year ∧ 1 ≤ ordinal ∧ ordinal ≤ yearLength year then .ok (start + ordinal - 1)
  else .error .contradiction

/-- The day that the first sufficient set of components says. -/
def candidate (c : Components) : Except Gap Int := do
  let year ← fullYear c.year c.century c.yearOfCentury
  let isoYear ← fullYear c.isoYear none c.isoYearOfCentury
  match year, c.month, c.day with
  | some y, some m, some d =>
    let date : Date := ⟨y, m, d⟩
    if isUsableYear y ∧ date.IsValid then .ok date.toDay else .error .contradiction
  | _, _, _ =>
    match year, c.ordinal with
    | some y, some n =>
      if isUsableYear y ∧ n ≤ yearLength y then .ok (yearStart y + n - 1) else .error .contradiction
    | _, _ =>
      match year, c.weekFromSunday, c.weekday with
      | some y, some w, some d => dayOfWeek y w d 6
      | _, _, _ =>
        match year, c.weekFromMonday, c.weekday with
        | some y, some w, some d => dayOfWeek y w d 0
        | _, _, _ =>
          match isoYear, c.isoWeek, c.weekday with
          | some y, some w, some d =>
            let day := isoYearStart y + ((w : Int) - 1) * 7 + d
            if isoYearOf day = y ∧ isUsableDay day then .ok day else .error .contradiction
          | _, _, _ => .error .missing

/-- The day of the components, all of which it has. -/
def day? (c : Components) : Except Gap Int := do
  let day ← c.candidate
  if c.matchesDay day then .ok day else .error .contradiction

/-- The time of the components, in seconds and nanoseconds after midnight. There is an hour and a minute in
every time, and a second if there are nanoseconds. A second of 60 is a leap second. -/
def time? (c : Components) : Except Gap (Nat × Nat) :=
  match c.afternoon, c.halfHour, c.minute with
  | some afternoon, some hour, some minute =>
    let hour := hour + if afternoon then 12 else 0
    let second := c.second.getD 0
    if c.nanos.isSome ∧ c.second.isNone then .error .missing
    else
      let leap := second = 60
      .ok (hour * 3600 + minute * 60 + (if leap then 59 else second),
        c.nanos.getD 0 + if leap then 1000000000 else 0)
  | _, _, _ => .error .missing

end Components

end LogPipeline.Time
