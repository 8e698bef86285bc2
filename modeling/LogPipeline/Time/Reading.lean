import LogPipeline.Time.Components

/-!
# Reading dates and times

A value is read by the items of a format from left to right, and must end with them. Blanks may stand
before every number and every offset.
-/

namespace LogPipeline.Time

-- Powers are those of core, whatever other instances there are.
attribute [local instance (2000)] instPowNat

open Text (isBlank isDigit natOf trimLeft dropStart?)

/-- Reads between `least` and `most` digits, as many as there are; without `most` all of them. -/
def readDigits? (least : Nat) (most : Option Nat) (cs : List Char) : Option (List Char × List Char) :=
  let allowed := match most with
    | some n => cs.take n
    | none => cs
  let digits := allowed.takeWhile isDigit
  if least ≤ digits.length then some (digits, cs.drop digits.length) else none

def readNumber? (least : Nat) (most : Option Nat) (cs : List Char) : Option (Nat × List Char) :=
  (readDigits? least most cs).map fun (digits, rest) => (natOf digits, rest)

/-- How many digits a component has at most. -/
def Component.width : Component → Option Nat
  | .year | .isoYear => some 4
  | .quarter | .daysFromSunday | .weekdayFromMonday => some 1
  | .ordinal => some 3
  | .nanos => some 9
  | .unixSeconds => none
  | _ => some 2

/-- Whether a component may have a sign, with which it may have any number of digits. -/
def Component.hasSign : Component → Bool
  | .year | .isoYear => true
  | _ => false

def readComponent? (component : Component) (cs : List Char) : Option (Int × List Char) :=
  let cs := trimLeft cs
  let unsigned : Option (Int × List Char) :=
    (readNumber? 1 component.width cs).map fun (n, rest) => ((n : Int), rest)
  if component.hasSign then
    match cs with
    | '-' :: rest => (readNumber? 1 none rest).map fun (n, rest) => (-(n : Int), rest)
    | '+' :: rest => (readNumber? 1 none rest).map fun (n, rest) => ((n : Int), rest)
    | _ => unsigned
  else unsigned

/-- Digits behind the second, of which those after the ninth have no meaning. -/
def readFraction? (cs : List Char) : Option (Nat × List Char) :=
  (readDigits? 1 (some 9) cs).map fun (digits, rest) =>
    (natOf digits * 10 ^ (9 - digits.length), rest.dropWhile isDigit)

def readFixedFraction? (digits : Nat) (cs : List Char) : Option (Nat × List Char) :=
  (readNumber? digits (some digits) cs).map fun (n, rest) => (n * 10 ^ (9 - digits), rest)

def sameLetters (a b : List Char) : Bool := a.map Char.toLower == b.map Char.toLower

def monthNames : List String := ["january", "february", "march", "april", "may", "june", "july", "august",
  "september", "october", "november", "december"]

def weekdayNames : List String :=
  ["monday", "tuesday", "wednesday", "thursday", "friday", "saturday", "sunday"]

/-- Reads a name by its first three letters, in any case. If `long`, the rest of it is taken if it is
there. -/
def readName? (names : List String) (long : Bool) (cs : List Char) : Option (Nat × List Char) :=
  (names.findIdx? fun name => sameLetters (name.toList.take 3) (cs.take 3)).map fun index =>
    let tail := (names.getD index "").toList.drop 3
    let rest := cs.drop 3
    (index, if long && sameLetters tail (rest.take tail.length) then rest.drop tail.length else rest)

def readHalf? (cs : List Char) : Option (Bool × List Char) :=
  if sameLetters (cs.take 2) ['a', 'm'] then some (false, cs.drop 2)
  else if sameLetters (cs.take 2) ['p', 'm'] then some (true, cs.drop 2)
  else none

/-- Reads an offset: a sign, which may be the minus of mathematics, two digits of hours, and two of
minutes after what `separate` takes. A `Z` may stand for no offset, and the minutes may be missing at the
end of the value, if the flags say so. -/
def readOffset? (allowZ allowHours : Bool) (separate : List Char → Option (List Char))
    (cs : List Char) : Option (Int × List Char) :=
  match cs with
  | [] => none
  | c :: rest =>
    if allowZ && (c = 'Z' || c = 'z') then some (0, rest)
    else if c = '+' ∨ c = '-' ∨ c = '\u2212' then do
      let (hours, rest) ← readNumber? 2 (some 2) rest
      let rest ← separate rest
      let total (minutes : Nat) : Int :=
        let seconds : Int := (hours * 3600 + minutes * 60 : Nat)
        if c = '+' then seconds else -seconds
      if allowHours && rest.isEmpty then return (total 0, rest)
      else
        let (minutes, rest) ← readNumber? 2 (some 2) rest
        if minutes < 60 then return (total minutes, rest) else none
    else none

/-- Blanks and colons between hours and minutes. -/
def skipSeparators (cs : List Char) : Option (List Char) :=
  some (cs.dropWhile fun c => c == ':' || isBlank c)

def noteFraction (c : Components) (cs : List Char) (read : List Char → Option (Nat × List Char)) :
    Option (Components × List Char) :=
  match cs with
  | '.' :: rest => do
    let (nanos, rest) ← read rest
    return (← c.setNanos nanos, rest)
  | _ => some (c, cs)

/-- Reads a value by one item, the full date and time apart. -/
def readItem? (c : Components) (item : Item) (cs : List Char) : Option (Components × List Char) :=
  match item with
  | .literal text => (dropStart? text cs).map (c, ·)
  | .blank => some (c, trimLeft cs)
  | .number component => do
    let (n, rest) ← readComponent? component cs
    return (← c.set component n, rest)
  | .monthName long => do
    let (index, rest) ← readName? monthNames long cs
    return (← c.setMonth (index + 1), rest)
  | .weekdayName long => do
    let (index, rest) ← readName? weekdayNames long cs
    return (← c.setWeekday index, rest)
  | .half => do
    let (afternoon, rest) ← readHalf? cs
    return (← c.setHalf afternoon, rest)
  | .fraction => noteFraction c cs readFraction?
  | .pointFraction digits => noteFraction c cs (readFixedFraction? digits)
  | .bareFraction digits => do
    let (nanos, rest) ← readFixedFraction? digits cs
    return (← c.setNanos nanos, rest)
  | .zoneName => some (c, cs.dropWhile fun c => !isBlank c)
  | .offset lenient => do
    let (offset, rest) ← readOffset? lenient lenient skipSeparators (trimLeft cs)
    return (← c.setOffset offset, rest)
  | .full | .fault => none

def readItems? (c : Components) : List Item → List Char → Option (Components × List Char)
  | [], cs => some (c, cs)
  | item :: items, cs => do
    let (c, rest) ← readItem? c item cs
    readItems? c items rest

/-- Reads a date and a time with a letter or a blank between them, and an offset, for which `UTC` may
stand. Blanks may stand before the hyphens and the colons too. -/
def readFull? (c : Components) (cs : List Char) : Option (Components × List Char) := do
  let (c, rest) ← readItems? c [.number .year, .blank, .literal ['-'], .number .month, .blank,
    .literal ['-'], .number .day] cs
  let rest ← match rest with
    | mark :: rest => if mark = 't' ∨ mark = 'T' ∨ mark = ' ' then some rest else none
    | [] => none
  let (c, rest) ← readItems? c [.number .hour, .blank, .literal [':'], .number .minute, .blank,
    .literal [':'], .number .second, .fraction, .blank] rest
  let (offset, rest) ←
    if sameLetters (rest.take 3) ['u', 't', 'c'] then some ((0 : Int), rest.drop 3)
    else readOffset? true false skipSeparators rest
  return (← c.setOffset offset, rest)

/-- Reads a whole value by the items of a format. -/
def readValue? (c : Components) : List Item → List Char → Option Components
  | [], cs => if cs.isEmpty then some c else none
  | .full :: items, cs => do
    let (c, rest) ← readFull? c cs
    readValue? c items rest
  | item :: items, cs => do
    let (c, rest) ← readItem? c item cs
    readValue? c items rest

/-- Reads what stands between two parts of a timestamp. -/
def readMark? (mark : Char) : List Char → Option (List Char)
  | c :: rest => if c = mark then some rest else none
  | [] => none

/-- The greatest offset of a timestamp, in seconds. -/
def greatestOffset : Nat := (23 * 60 + 59) * 60

/-- Reads a timestamp in the form of the Internet standard: every component has its full number of
digits, and there is always an offset. -/
def readTimestamp? (cs : List Char) : Option Components := do
  let (year, rest) ← readNumber? 4 (some 4) cs
  let (month, rest) ← readNumber? 2 (some 2) (← readMark? '-' rest)
  let (day, rest) ← readNumber? 2 (some 2) (← readMark? '-' rest)
  let rest ← match rest with
    | mark :: rest => if mark = 't' ∨ mark = 'T' ∨ mark = ' ' then some rest else none
    | [] => none
  let (hour, rest) ← readNumber? 2 (some 2) rest
  let (minute, rest) ← readNumber? 2 (some 2) (← readMark? ':' rest)
  let (second, rest) ← readNumber? 2 (some 2) (← readMark? ':' rest)
  let c : Components := {}
  let c ← c.set .year year
  let c ← c.set .month month
  let c ← c.set .day day
  let c ← c.set .hour hour
  let c ← c.set .minute minute
  let c ← c.set .second second
  let (c, rest) ← noteFraction c rest readFraction?
  let (offset, rest) ← readOffset? true false (readMark? ':') rest
  if offset.natAbs ≤ greatestOffset ∧ rest.isEmpty then c.setOffset offset else none

end LogPipeline.Time
