import LogPipeline.Packed
import LogPipeline.Time.ZoneData

/-!
# Time zones

A zone is the history of its offset from universal time. The instants of a local time are those whose
local time it is: none where the clock was put forward over it, two where it was put back over it.
-/

namespace LogPipeline.Time

/-- An offset in seconds, and those that replace it, each with the time from which it holds. -/
structure Zone where
  first : Int
  changes : List (Int × Int)
  deriving DecidableEq, Repr

namespace Zone

def utc : Zone := ⟨0, []⟩

/-- The offset at a number of seconds after the beginning of 1970, given the offset before the changes. -/
def offsetAfter (offset : Int) : List (Int × Int) → Int → Int
  | [], _ => offset
  | (time, next) :: rest, seconds =>
    if seconds < time then offset else offsetAfter next rest seconds

def offsetAt (zone : Zone) (seconds : Int) : Int := offsetAfter zone.first zone.changes seconds

/-- The first instant at or after `start`, if there is a start, that has a local time. -/
def earliestFrom (start : Option Int) (offset : Int) : List (Int × Int) → (localTime : Int) → Option Int
  | [], localTime =>
    let seconds := localTime - offset
    if start.all (· ≤ seconds) then some seconds else none
  | (time, next) :: rest, localTime =>
    let seconds := localTime - offset
    if start.all (· ≤ seconds) && seconds < time then some seconds
    else earliestFrom (some time) next rest localTime

/-- The earliest instant with a local time, in seconds after the beginning of 1970. -/
def earliest? (zone : Zone) (localTime : Int) : Option Int :=
  earliestFrom none zone.first zone.changes localTime

/-- A change written as the distance from the time of the one before. -/
def changesFrom (offsets : List Int) (time : Int) : List Nat → List (Int × Int)
  | distance :: position :: rest =>
    let time := time + if distance % 2 = 0 then (distance / 2 * 900 : Nat) else (distance / 2 : Nat)
    (time, offsets.getD position 0) :: changesFrom offsets time rest
  | _ => []

def ofPacked (text : String) : Zone :=
  match Packed.numbers text with
  | [] => utc
  | count :: numbers =>
    let offsets := (numbers.take count).map Packed.signed
    let changes := match numbers.drop count with
      | time :: position :: rest =>
        let time := Packed.signed time
        (time, offsets.getD position 0) :: changesFrom offsets time rest
      | _ => []
    ⟨offsets.getD 0 0, changes⟩

/-- The zone with a name of the database. -/
def named? (name : String) : Option Zone :=
  (zoneData.lookup ((zoneAliases.lookup name).getD name)).map ofPacked

end Zone

end LogPipeline.Time
