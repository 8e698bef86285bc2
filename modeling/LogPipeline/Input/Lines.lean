import LogPipeline.Text.Utf8

/-!
# Lines of bytes

Bytes are cut behind every line feed. A line does not include its line feed, nor one carriage return directly
before that. What follows the last line feed is a line too, unless it is empty, and is kept as it is. Each
line is decoded on its own.
-/

namespace LogPipeline.Lines

def lineFeed : UInt8 := 10

def carriageReturn : UInt8 := 13

/-- The lines with their ends, of which only the last can be without one. -/
def split : List UInt8 → List (List UInt8)
  | [] => []
  | byte :: rest =>
    if byte = lineFeed then [byte] :: split rest
    else
      match split rest with
      | [] => [[byte]]
      | line :: lines => (byte :: line) :: lines

def isTerminated (line : List UInt8) : Bool := line.getLast? == some lineFeed

/-- A line without its end. -/
def chomp (line : List UInt8) : List UInt8 :=
  if isTerminated line then
    let body := line.dropLast
    if body.getLast? == some carriageReturn then body.dropLast else body
  else line

def text (line : List UInt8) : String := String.ofList (Text.decodeLossy (chomp line))

/-- The texts of all lines. -/
def ofBytes (bytes : List UInt8) : List String := (split bytes).map text

/-- The texts of the lines that have an end. -/
def terminated (bytes : List UInt8) : List String := ((split bytes).filter isTerminated).map text

end LogPipeline.Lines
