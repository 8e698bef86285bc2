import LogPipeline.Time.Calendar

/-!
# Instants

A point in time is a number of seconds from the beginning of 1970 in universal time, and nanoseconds. In
a leap second the nanoseconds go on from `10 ^ 9`. The text of an instant has as many groups of three
digits behind the second as are needed.
-/

namespace LogPipeline.Time

def secondsPerDay : Int := 86400

def nanosPerSecond : Nat := 1000000000

structure Instant where
  seconds : Int
  nanos : Nat
  deriving DecidableEq, Repr, Inhabited

namespace Instant

/-- An instant in the years of timestamps. -/
def IsRepresentable (instant : Instant) : Prop :=
  isUsableDay (instant.seconds / secondsPerDay) ∧ instant.nanos < 2 * nanosPerSecond

instance (instant : Instant) : Decidable instant.IsRepresentable :=
  inferInstanceAs (Decidable (_ ∧ _))

/-- The instant, if it lies in the years of timestamps. -/
def ofUnix? (seconds : Int) (nanos : Nat) : Option Instant :=
  if isUsableDay (seconds / secondsPerDay) then some ⟨seconds, nanos⟩ else none

/-- The last `count` decimal digits of a number. -/
def lastDigits : (count n : Nat) → List Char
  | 0, _ => []
  | count + 1, n => lastDigits count (n / 10) ++ [Nat.digitChar (n % 10)]

/-- Four digits, or as many as there are; outside of the first 10000 years with a sign. -/
def yearText (year : Int) : List Char :=
  let digits := if year.natAbs < 10000 then lastDigits 4 year.natAbs else Nat.toDigits 10 year.natAbs
  if year < 0 then '-' :: digits
  else if year.natAbs < 10000 then digits
  else '+' :: digits

/-- The digits behind the second: none, or three, six or nine after a point. -/
def fractionText (nanos : Nat) : List Char :=
  if nanos = 0 then []
  else if nanos % 1000000 = 0 then '.' :: lastDigits 3 (nanos / 1000000)
  else if nanos % 1000 = 0 then '.' :: lastDigits 6 (nanos / 1000)
  else '.' :: lastDigits 9 nanos

/-- The text of a date and a time of the day; a leap second is the second after the one it extends. -/
def dateTimeText (day : Int) (second nanos : Nat) : List Char :=
  let date := Date.ofDay day
  let leap := nanosPerSecond ≤ nanos
  yearText date.year ++ '-' :: lastDigits 2 date.month ++ '-' :: lastDigits 2 date.day ++
    'T' :: lastDigits 2 (second / 3600) ++ ':' :: lastDigits 2 (second / 60 % 60) ++
    ':' :: lastDigits 2 (second % 60 + if leap then 1 else 0) ++
    fractionText (if leap then nanos - nanosPerSecond else nanos)

/-- The text of the instant in universal time. -/
def text (instant : Instant) : String :=
  String.ofList (dateTimeText (instant.seconds / secondsPerDay)
    (instant.seconds % secondsPerDay).toNat instant.nanos ++ ['Z'])

end Instant

end LogPipeline.Time
