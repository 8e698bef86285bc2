import LogPipeline.Text.Blank

/-!
# Time formats

A format is a text with specifiers: a percent sign and a letter stand for a component of a date or a
time. It is cut into items, by which values are read. What is no specifier is an item of its own, so that a
format with a fault in it can be refused.
-/

namespace LogPipeline.Time

/-- A component that is written as a number. -/
inductive Component where
  | year
  | century
  | yearOfCentury
  | isoYear
  | isoYearOfCentury
  | quarter
  | month
  | day
  | weekFromSunday
  | weekFromMonday
  | isoWeek
  /-- Sunday is 0. -/
  | daysFromSunday
  /-- Monday is 1. -/
  | weekdayFromMonday
  | ordinal
  | hour
  | halfDayHour
  | minute
  | second
  | nanos
  | unixSeconds
  deriving DecidableEq, Repr

inductive Item where
  | literal (text : List Char)
  /-- Blanks, of which a value may have any number. -/
  | blank
  | number (component : Component)
  /-- The name of a month, in three letters or, if `long`, in full as well. -/
  | monthName (long : Bool)
  | weekdayName (long : Bool)
  /-- The half of the day: `am` or `pm`. -/
  | half
  /-- Digits behind the second, after a point. -/
  | fraction
  /-- As many digits as given, after a point. -/
  | pointFraction (digits : Nat)
  | bareFraction (digits : Nat)
  | zoneName
  /-- The offset from universal time; minutes and a `Z` in its place are optional if `lenient`. -/
  | offset (lenient : Bool)
  /-- A date, a time and an offset. -/
  | full
  /-- What is no specifier. -/
  | fault
  deriving DecidableEq, Repr

namespace Item

def slashDate : List Item :=
  [.number .month, .literal ['/'], .number .day, .literal ['/'], .number .yearOfCentury]

def clock : List Item :=
  [.number .hour, .literal [':'], .number .minute, .literal [':'], .number .second]

/-- The items of a specifier of one letter. -/
def ofLetter : Char → List Item
  | 'A' => [.weekdayName true]
  | 'B' => [.monthName true]
  | 'C' => [.number .century]
  | 'D' => slashDate
  | 'F' => [.number .year, .literal ['-'], .number .month, .literal ['-'], .number .day]
  | 'G' => [.number .isoYear]
  | 'H' => [.number .hour]
  | 'I' => [.number .halfDayHour]
  | 'M' => [.number .minute]
  | 'P' => [.half]
  | 'R' => [.number .hour, .literal [':'], .number .minute]
  | 'S' => [.number .second]
  | 'T' => clock
  | 'U' => [.number .weekFromSunday]
  | 'V' => [.number .isoWeek]
  | 'W' => [.number .weekFromMonday]
  | 'X' => clock
  | 'Y' => [.number .year]
  | 'Z' => [.zoneName]
  | 'a' => [.weekdayName false]
  | 'b' => [.monthName false]
  | 'c' => [.weekdayName false, .blank, .monthName false, .blank, .number .day, .blank] ++ clock ++
      [.blank, .number .year]
  | 'd' => [.number .day]
  | 'e' => [.number .day]
  | 'f' => [.number .nanos]
  | 'g' => [.number .isoYearOfCentury]
  | 'h' => [.monthName false]
  | 'j' => [.number .ordinal]
  | 'k' => [.number .hour]
  | 'l' => [.number .halfDayHour]
  | 'm' => [.number .month]
  | 'n' => [.blank]
  | 'p' => [.half]
  | 'q' => [.number .quarter]
  | 'r' => [.number .halfDayHour, .literal [':'], .number .minute, .literal [':'], .number .second,
      .blank, .half]
  | 's' => [.number .unixSeconds]
  | 't' => [.blank]
  | 'u' => [.number .weekdayFromMonday]
  | 'v' => [.number .day, .literal ['-'], .monthName false, .literal ['-'], .number .year]
  | 'w' => [.number .daysFromSunday]
  | 'x' => slashDate
  | 'y' => [.number .yearOfCentury]
  | 'z' => [.offset false]
  | '+' => [.full]
  | '%' => [.literal ['%']]
  | _ => [.fault]

/-- Reads a specifier behind its percent sign. -/
def readPlain : List Char → List Item × List Char
  | ':' :: 'z' :: rest | ':' :: ':' :: 'z' :: rest | ':' :: ':' :: ':' :: 'z' :: rest =>
    ([.offset false], rest)
  | '.' :: 'f' :: rest => ([.fraction], rest)
  | '.' :: '3' :: 'f' :: rest => ([.pointFraction 3], rest)
  | '.' :: '6' :: 'f' :: rest => ([.pointFraction 6], rest)
  | '.' :: '9' :: 'f' :: rest => ([.pointFraction 9], rest)
  | '3' :: 'f' :: rest => ([.bareFraction 3], rest)
  | '6' :: 'f' :: rest => ([.bareFraction 6], rest)
  | '9' :: 'f' :: rest => ([.bareFraction 9], rest)
  | c :: rest => (ofLetter c, rest)
  | [] => ([.fault], [])

/-- Reads a specifier, which may begin with a mark of how numbers are padded, or with the mark of its
alternative form. Padding has no meaning where values are read. -/
def readSpecifier : List Char → List Item × List Char
  | '#' :: 'z' :: rest => ([.offset true], rest)
  | '#' :: rest => ([.fault], rest.drop 1)
  | c :: rest =>
    if c = '-' ∨ c = '0' ∨ c = '_' then
      match readPlain rest with
      | ([.number component], rest) => ([.number component], rest)
      | (_, rest) => ([.fault], rest)
    else readPlain (c :: rest)
  | [] => ([.fault], [])

def isLiteral (c : Char) : Bool := c != '%' && !Text.isBlank c

/-- Reads items to the end of the format. Every round takes a character. -/
def readAll : (limit : Nat) → List Char → List Item
  | 0, _ | _, [] => []
  | limit + 1, c :: rest =>
    if c = '%' then
      let (items, rest) := readSpecifier rest
      items ++ readAll limit rest
    else if Text.isBlank c then .blank :: readAll limit (rest.dropWhile Text.isBlank)
    else .literal (c :: rest.takeWhile isLiteral) :: readAll limit (rest.dropWhile isLiteral)

end Item

/-- The items of a format. -/
def formatItems (format : String) : List Item :=
  Item.readAll format.toList.length format.toList

/-- Whether every specifier of a format is one. -/
def isFormat (format : String) : Bool := !(formatItems format).contains .fault

end LogPipeline.Time
