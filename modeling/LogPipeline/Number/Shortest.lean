import LogPipeline.Number.Binary64

/-!
# The shortest decimal

The text of a number has the fewest digits that read back as the number, and of those the decimal
nearest to it. Two layouts of these digits are in use: plain decimals in texts, and the form that JSON
documents have.
-/

namespace LogPipeline

-- Powers are those of core, whatever other instances there are.
attribute [local instance (2000)] instPowNat

/-- The value `digits * 10 ^ exponent`. -/
structure Decimal where
  digits : Nat
  exponent : Int
  deriving DecidableEq, Repr

namespace Binary64

/-- Whether `mantissa * 2 ^ exponent` is the number nearest to `d`, compared exactly. An end of the
interval belongs to it if the mantissa is even. The interval is half as wide below a power of two. -/
def readsBack (mantissa : Nat) (exponent : Int) (d : Decimal) : Bool :=
  let narrow := mantissa == leastMantissa && exponent != leastExponent
  -- all three in quarters of the last place, on a common denominator
  let quarter := exponent - 2
  let twos (n : Nat) : Nat := if 0 ≤ quarter then n * 2 ^ quarter.toNat else n
  let tens (n : Nat) : Nat := if 0 ≤ d.exponent then n else n * 10 ^ (-d.exponent).toNat
  let low := tens (twos (4 * mantissa - if narrow then 1 else 2))
  let high := tens (twos (4 * mantissa + 2))
  let value :=
    (if 0 ≤ d.exponent then d.digits * 10 ^ d.exponent.toNat else d.digits) *
      (if 0 ≤ quarter then 1 else 2 ^ (-quarter).toNat)
  if mantissa % 2 = 0 then low ≤ value && value ≤ high else low < value && value < high

/-- How far `d` is from `mantissa * 2 ^ exponent`, times a factor that depends on the exponents only. -/
def distance (mantissa : Nat) (exponent : Int) (d : Decimal) : Nat :=
  let value := (if 0 ≤ d.exponent then d.digits * 10 ^ d.exponent.toNat else d.digits) *
    (if 0 ≤ exponent then 1 else 2 ^ (-exponent).toNat)
  let exact := (if 0 ≤ exponent then mantissa * 2 ^ exponent.toNat else mantissa) *
    (if 0 ≤ d.exponent then 1 else 10 ^ (-d.exponent).toNat)
  (value - exact) + (exact - value)

/-- The multiples of `10 ^ exponent` on either side of the value, if they read back, the nearer one. -/
def onGrid? (mantissa : Nat) (exponent : Int) (grid : Int) : Option Decimal :=
  let num := (if 0 ≤ exponent then mantissa * 2 ^ exponent.toNat else mantissa) *
    (if 0 ≤ grid then 1 else 10 ^ (-grid).toNat)
  let den := (if 0 ≤ exponent then 1 else 2 ^ (-exponent).toNat) *
    (if 0 ≤ grid then 10 ^ grid.toNat else 1)
  let below : Decimal := ⟨num / den, grid⟩
  let above : Decimal := ⟨num / den + 1, grid⟩
  let hitBelow := below.digits != 0 && readsBack mantissa exponent below
  let hitAbove := readsBack mantissa exponent above
  if hitBelow && hitAbove then
    let a := distance mantissa exponent below
    let b := distance mantissa exponent above
    if a < b then some below
    else if b < a then some above
    else if below.digits % 2 = 0 then some below else some above
  else if hitBelow then some below
  else if hitAbove then some above
  else none

/-- The power of ten of the first digit of `mantissa * 2 ^ exponent`, at least as great as it is. -/
def leadingPower (mantissa : Nat) (exponent : Int) : Int :=
  -- log10 2 is just below 0.30103
  ((mantissa.log2 : Int) + 1 + exponent) * 30103 / 100000 + 1

/-- Looks through ever finer grids; seventeen digits are always enough. -/
def shortestFrom (mantissa : Nat) (exponent : Int) (grid : Int) : (limit : Nat) → Decimal
  | 0 => ⟨0, 0⟩
  | limit + 1 =>
    match onGrid? mantissa exponent grid with
    | some d => d
    | none => shortestFrom mantissa exponent (grid - 1) limit

/-- A decimal without zeros at its end. -/
def stripZeros (d : Decimal) : (limit : Nat) → Decimal
  | 0 => d
  | limit + 1 =>
    if d.digits ≠ 0 ∧ d.digits % 10 = 0 then stripZeros ⟨d.digits / 10, d.exponent + 1⟩ limit else d

/-- The shortest decimal of a value that is not zero. -/
def shortest (mantissa : Nat) (exponent : Int) : Decimal :=
  stripZeros (shortestFrom mantissa exponent (leadingPower mantissa exponent) 24) 24

def zeros (n : Nat) : List Char := List.replicate n '0'

/-- The digits of a decimal without an exponent, and with nothing behind the point if it is whole. -/
def positional (d : Decimal) : List Char :=
  let digits := Nat.toDigits 10 d.digits
  if 0 ≤ d.exponent then digits ++ zeros d.exponent.toNat
  else
    let places := (-d.exponent).toNat
    if places < digits.length then
      digits.take (digits.length - places) ++ '.' :: digits.drop (digits.length - places)
    else '0' :: '.' :: zeros (places - digits.length) ++ digits

/-- One digit before the point, and the power of ten with its sign. -/
def scientific (d : Decimal) : List Char :=
  let digits := Nat.toDigits 10 d.digits
  let power := d.exponent + (digits.length - 1 : Nat)
  let fraction := match digits.drop 1 with
    | [] => []
    | rest => '.' :: rest
  digits.take 1 ++ fraction ++ ['e', if power < 0 then '-' else '+'] ++ Nat.toDigits 10 power.natAbs

def signText (negative : Bool) : List Char := if negative then ['-'] else []

/-- A number in plain decimals: whole numbers have no point, and no number has an exponent. -/
def text : Binary64 → String
  | .nan => "NaN"
  | .infinite negative => if negative then "-inf" else "inf"
  | .finite negative mantissa exponent =>
    if mantissa = 0 then (if negative then "-0" else "0")
    else String.ofList (signText negative ++ positional (shortest mantissa exponent))

/-- A number in a JSON document. From `10 ^ 16` on and below `10 ^ -5` it has an exponent; otherwise
there is always a digit behind the point. What is not finite has no number and becomes `null`. -/
def jsonText : Binary64 → String
  | .nan | .infinite _ => "null"
  | .finite negative mantissa exponent =>
    if mantissa = 0 then (if negative then "-0.0" else "0.0")
    else
      let d := shortest mantissa exponent
      let power := d.exponent + ((Nat.toDigits 10 d.digits).length - 1 : Nat)
      let body :=
        if power < -5 ∨ 16 ≤ power then scientific d
        else if 0 ≤ d.exponent then positional d ++ ['.', '0']
        else positional d
      String.ofList (signText negative ++ body)

end Binary64

end LogPipeline
