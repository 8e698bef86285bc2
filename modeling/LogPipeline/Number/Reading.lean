import LogPipeline.Number.Binary64
import LogPipeline.Text.Blank

/-!
# Reading numbers

Whole numbers of 64 bits with a sign, and decimal numbers, from texts that hold nothing else.
-/

namespace LogPipeline.Number

open Text (isDigit natOf)

def leastInteger : Int := -0x8000000000000000

def greatestInteger : Int := 0x7FFFFFFFFFFFFFFF

/-- The number of different words of 64 bits. -/
def wordLimit : Nat := 0x10000000000000000

def fitsInteger (i : Int) : Bool := leastInteger ≤ i && i ≤ greatestInteger

/-- The sign at the front, and the rest. -/
def takeSign : List Char → Bool × List Char
  | '-' :: rest => (true, rest)
  | '+' :: rest => (false, rest)
  | rest => (false, rest)

/-- A whole number: an optional sign and at least one digit. -/
def readWhole? (cs : List Char) : Option Int :=
  let (negative, digits) := takeSign cs
  if digits.isEmpty || !digits.all isDigit then none
  else some (if negative then -(natOf digits : Int) else natOf digits)

/-- A whole number that fits into 64 bits. -/
def readInteger? (cs : List Char) : Option Int :=
  (readWhole? cs).filter fitsInteger

/-- A whole number without a minus sign, below a bound. -/
def readNatural? (bound : Nat) (cs : List Char) : Option Nat :=
  let digits := match cs with
    | '+' :: rest => rest
    | rest => rest
  if digits.isEmpty || !digits.all isDigit then none
  else if natOf digits < bound then some (natOf digits) else none

def lowerAscii (cs : List Char) : List Char := cs.map Char.toLower

/-- An exponent: an optional sign and at least one digit. -/
def readExponent? (cs : List Char) : Option Int := readWhole? cs

/-- The digits, the point, the digits behind it and the exponent of a number without a sign. -/
def readUnsigned? (negative : Bool) (cs : List Char) : Option Binary64 :=
  let whole := cs.takeWhile isDigit
  let rest := cs.dropWhile isDigit
  let (fraction, rest) := match rest with
    | '.' :: rest => (rest.takeWhile isDigit, rest.dropWhile isDigit)
    | rest => ([], rest)
  let number (exponent : Int) : Option Binary64 :=
    if whole.isEmpty && fraction.isEmpty then none
    else some (.ofDecimal negative (natOf (whole ++ fraction)) (exponent - fraction.length))
  match rest with
  | [] => number 0
  | c :: rest => if c = 'e' ∨ c = 'E' then (readExponent? rest).bind number else none

/-- A decimal number: an optional sign, digits with a point among or around them, and an optional
exponent; or one of the words for infinity and for what is not a number, in any case. -/
def readDecimal? (cs : List Char) : Option Binary64 :=
  let (negative, rest) := takeSign cs
  let word := lowerAscii rest
  if word = "inf".toList ∨ word = "infinity".toList then some (.infinite negative)
  else if word = "nan".toList then some .nan
  else readUnsigned? negative rest

end LogPipeline.Number
