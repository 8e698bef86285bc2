import LogPipeline.Number.Reading
import LogPipeline.Time.Instant
import LogPipeline.Time.Reading
import LogPipeline.Time.Zone

/-!
# Layouts

How the texts of timestamps are read: by a name, as seconds or milliseconds after the beginning of 1970, or
by a format. A format without a percent sign shows how a reference time would be written, and is
translated piece by piece. A text that carries no offset is a local time of the zone at hand.
-/

namespace LogPipeline.Time

inductive Layout where
  | iso8601
  /-- Seconds, with a fraction. -/
  | unix
  | unixMillis
  /-- A layout as it was given, and the format it stands for. -/
  | format (layout pattern : String)
  deriving DecidableEq, Repr

/-- Why a text is no layout. -/
structure LayoutError where
  layout : String
  message : String
  deriving DecidableEq, Repr

namespace Layout

/-- The tokens of the reference time, each before those that begin it. -/
def referenceTokens : List (String × String) := [
  ("January", "%B"), ("Jan", "%b"), ("Monday", "%A"), ("Mon", "%a"), ("MST", "%Z"), ("2006", "%Y"),
  ("-07:00", "%#z"), ("-0700", "%#z"), ("-07", "%#z"), ("Z07:00", "%#z"), ("Z0700", "%#z"),
  ("Z07", "%#z"), ("002", "%j"), ("01", "%m"), ("02", "%d"), ("03", "%I"), ("04", "%M"), ("05", "%S"),
  ("06", "%y"), ("_2", "%e"), ("15", "%H"), ("PM", "%p"), ("pm", "%p"), ("1", "%m"), ("2", "%d"),
  ("3", "%I"), ("4", "%M"), ("5", "%S")]

/-- What follows a fraction mark at the front: a point and a run of zeros or nines that no other digit
follows. -/
def fractionMark? (cs : List Char) : Option (List Char) :=
  match cs with
  | '.' :: digit :: rest =>
    if digit = '0' ∨ digit = '9' then
      let tail := rest.dropWhile (· == digit)
      if tail.head?.any Text.isDigit then none else some tail
    else none
  | _ => none

/-- The first token of a list that the text begins with: its format and what follows it. -/
def token? (cs : List Char) : List (String × String) → Option (String × List Char)
  | [] => none
  | (token, pattern) :: rest =>
    match Text.dropStart? token.toList cs with
    | some tail => some (pattern, tail)
    | none => token? cs rest

/-- The format of one piece at the front of a reference layout, and what follows it. -/
def piece (c : Char) (rest : List Char) : List Char × List Char :=
  match fractionMark? (c :: rest) with
  | some tail => ("%.f".toList, tail)
  | none =>
    match token? (c :: rest) referenceTokens with
    | some (pattern, tail) => (pattern.toList, tail)
    | none => (if c = '%' then ['%', '%'] else [c], rest)

/-- Translates a reference layout. Every piece takes a character. -/
def translateFrom : (limit : Nat) → List Char → List Char
  | 0, _ | _, [] => []
  | limit + 1, c :: rest =>
    let (pattern, tail) := piece c rest
    pattern ++ translateFrom limit tail

def translate (layout : String) : String :=
  String.ofList (translateFrom layout.toList.length layout.toList)

def parse (layout : String) : Except LayoutError Layout :=
  if layout = "ISO8601" then .ok .iso8601
  else if layout = "UNIX" then .ok .unix
  else if layout = "UNIX_MS" then .ok .unixMillis
  else if layout = "" then .error ⟨"", "empty layout"⟩
  else
    let pattern := if layout.toList.contains '%' then layout else translate layout
    if isFormat pattern then .ok (.format layout pattern)
    else .error ⟨layout, "'" ++ pattern ++ "' is not a valid format"⟩

/-- The instant of a local date and time at an offset. -/
def atOffset? (day : Int) (time : Nat × Nat) (offset : Int) : Option Instant :=
  Instant.ofUnix? (day * secondsPerDay + time.1 - offset) time.2

/-- The earliest instant of a local date and time in a zone. -/
def inZone? (day : Int) (time : Nat × Nat) (zone : Zone) : Option Instant :=
  (zone.earliest? (day * secondsPerDay + time.1)).bind fun seconds => Instant.ofUnix? seconds time.2

/-- Whether an offset is less than a day. -/
def isUsableOffset (offset : Int) : Bool := offset.natAbs < 86400

/-- The instant of components that have an offset; they must make a date and a time. -/
def zoned? (c : Components) : Option Instant :=
  match c.offset, c.day?, c.time? with
  | some offset, .ok day, .ok time => if isUsableOffset offset then atOffset? day time offset else none
  | _, _, _ => none

/-- The forms of an ISO 8601 timestamp that are read besides that of the Internet standard. -/
def zonedForms : List (List Item) :=
  [formatItems "%Y-%m-%dT%H:%M:%S%.f%#z", formatItems "%Y-%m-%d %H:%M:%S%.f%#z"]

def localForms : List (List Item) :=
  [formatItems "%Y-%m-%dT%H:%M:%S%.f", formatItems "%Y-%m-%d %H:%M:%S%.f"]

/-- The local date and time that a value writes in a form. -/
def local? (form : List Item) (cs : List Char) : Option (Int × (Nat × Nat)) :=
  (readValue? {} form cs).bind fun c =>
    match c.day?, c.time? with
    | .ok day, .ok time => some (day, time)
    | _, _ => none

def readIso8601? (zone : Zone) (cs : List Char) : Option Instant :=
  let zoned := ((readTimestamp? cs).bind zoned?).orElse fun _ =>
    zonedForms.findSome? fun form => (readValue? {} form cs).bind zoned?
  zoned.orElse fun _ =>
    match localForms.findSome? fun form => local? form cs with
    | some (day, time) => inZone? day time zone
    | none => none

/-- Reads a value by a format. Where the year is missing it is the current one, and where the time is
missing it is midnight. -/
def readFormat? (currentYear : Int) (zone : Zone) (items : List Item) (cs : List Char) :
    Option Instant := do
  let c ← readValue? {} items cs
  let day ← match c.day? with
    | .ok day => some day
    | .error .missing => (c.setYear currentYear).bind fun c => c.day?.toOption
    | .error .contradiction => none
  let time ← match c.time? with
    | .ok time => some time
    | .error .missing => some (0, 0)
    | .error .contradiction => none
  match c.offset.filter isUsableOffset with
  | some offset => atOffset? day time offset
  | none => inZone? day time zone

/-- The instant a number of seconds after the beginning of 1970, to the nanosecond that binary arithmetic
gives. -/
def ofSeconds? (seconds : Binary64) : Option Instant := do
  let whole ← seconds.floor
  let fraction := (seconds.sub (.ofInt whole)).mul (.ofInt 1000000000)
  let nanos ← fraction.round
  Instant.ofUnix? whole (min nanos.toNat 999999999)

def ofMillis? (millis : Binary64) : Option Instant := do
  let whole ← millis.round
  Instant.ofUnix? (whole / 1000) ((whole % 1000).toNat * 1000000)

/-- Reads a value, blanks at its ends apart. -/
def read? (layout : Layout) (currentYear : Int) (zone : Zone) (value : String) : Option Instant :=
  let cs := Text.trim value.toList
  match layout with
  | .iso8601 => readIso8601? zone cs
  | .unix => (Number.readDecimal? cs).bind ofSeconds?
  | .unixMillis => (Number.readDecimal? cs).bind ofMillis?
  | .format _ pattern => readFormat? currentYear zone (formatItems pattern) cs

end Layout

end LogPipeline.Time
