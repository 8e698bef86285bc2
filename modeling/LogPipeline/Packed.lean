/-!
# Packed numbers

Tables are written as text, five bits of a number to a digit: a digit of 32 or more has another one
after it. Nothing is skipped, so a text of digits has exactly one reading.
-/

namespace LogPipeline.Packed

/-- The value of a digit: capital letters come first, then small letters, decimal digits, `+` and the
rest. -/
def digit (c : Char) : Nat :=
  let n := c.toNat
  if 65 ≤ n ∧ n ≤ 90 then n - 65
  else if 97 ≤ n ∧ n ≤ 122 then n - 71
  else if 48 ≤ n ∧ n ≤ 57 then n + 4
  else if n = 43 then 62
  else 63

/-- Reads numbers, the leading digits of the first of which are worth `high`. -/
def numbersFrom (high : Nat) : List Char → List Nat
  | [] => []
  | c :: rest =>
    if digit c < 32 then (high * 32 + digit c) :: numbersFrom 0 rest
    else numbersFrom (high * 32 + (digit c - 32)) rest

def numbers (text : String) : List Nat :=
  numbersFrom 0 text.toList

/-- An integer written as twice its value, less one when negative. -/
def signed (n : Nat) : Int :=
  if n % 2 = 0 then (n / 2 : Nat) else -((n + 1) / 2 : Nat)

/-- Ranges written as the distance of each from the end of the one before, and its length less one. -/
def rangesFrom (start : Nat) : List Nat → List (Nat × Nat)
  | gap :: more :: rest => (start + gap, start + gap + more) :: rangesFrom (start + gap + more + 1) rest
  | _ => []

def ranges (text : String) : List (Nat × Nat) :=
  rangesFrom 0 (numbers text)

end LogPipeline.Packed
