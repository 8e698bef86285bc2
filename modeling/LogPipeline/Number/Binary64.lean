/-!
# Binary64 numbers

Numbers of 64 bits as exact values: a finite one is a sign, a mantissa and a power of two. Every
operation computes the exact result and rounds it once, to the nearest number and to the one with an
even mantissa where two are equally near.
-/

namespace LogPipeline

-- Powers are those of core, whatever other instances there are.
attribute [local instance (2000)] instPowNat

/-- A binary64 number. The mantissa of a finite number has 53 digits in base two, or fewer if the
exponent is the least one. -/
inductive Binary64 where
  | nan
  | infinite (negative : Bool)
  /-- The value `mantissa * 2 ^ exponent`, or its negative. -/
  | finite (negative : Bool) (mantissa : Nat) (exponent : Int)
  deriving DecidableEq, Repr

namespace Binary64

def leastExponent : Int := -1074

def greatestExponent : Int := 971

/-- The least number of 53 digits in base two. -/
def leastMantissa : Nat := 0x10000000000000

def zero : Binary64 := .finite false 0 leastExponent

/-- `num / den`, rounded; half goes to the even neighbour. -/
def roundHalfEven (num den : Nat) : Nat :=
  let q := num / den
  let r := num % den
  if 2 * r < den then q
  else if den < 2 * r then q + 1
  else q + q % 2

/-- The ratio of `num / den` and `2 ^ exponent`, as numerator and denominator. -/
def scaled (num den : Nat) (exponent : Int) : Nat × Nat :=
  if 0 ≤ exponent then (num, den * 2 ^ exponent.toNat) else (num * 2 ^ (-exponent).toNat, den)

/-- The greatest power of two not above `num / den`, for a ratio that is not zero. -/
def floorLog2 (num den : Nat) : Int :=
  let guess : Int := (num.log2 : Int) - (den.log2 : Int)
  let (n, d) := scaled num den guess
  if n < d then guess - 1 else guess

/-- The number nearest to `num / den`. -/
def ofRatio (negative : Bool) (num den : Nat) : Binary64 :=
  if num = 0 then .finite negative 0 leastExponent
  else
    let exponent := max (floorLog2 num den - 52) leastExponent
    let (n, d) := scaled num den exponent
    let mantissa := roundHalfEven n d
    let (mantissa, exponent) :=
      if mantissa = 2 * leastMantissa then (leastMantissa, exponent + 1) else (mantissa, exponent)
    if greatestExponent < exponent then .infinite negative
    else .finite negative mantissa exponent

/-- The number nearest to `mantissa * 2 ^ exponent`. -/
def ofDyadic (negative : Bool) (mantissa : Nat) (exponent : Int) : Binary64 :=
  if 0 ≤ exponent then ofRatio negative (mantissa * 2 ^ exponent.toNat) 1
  else ofRatio negative mantissa (2 ^ (-exponent).toNat)

def ofInt (i : Int) : Binary64 := ofRatio (decide (i < 0)) i.natAbs 1

/-- The number nearest to `digits * 10 ^ exponent`. Far outside the range of the finite numbers no
power of ten is computed. -/
def ofDecimal (negative : Bool) (digits : Nat) (exponent : Int) : Binary64 :=
  if digits = 0 then .finite negative 0 leastExponent
  else
    -- the value lies between 2 ^ (log2 digits) * 10 ^ exponent and twice that
    let bits : Int := digits.log2
    if 1100 < bits + 3 * exponent ∧ 0 ≤ exponent then .infinite negative
    else if bits + 3 * exponent < -1200 ∧ exponent < 0 then .finite negative 0 leastExponent
    else if 0 ≤ exponent then ofRatio negative (digits * 10 ^ exponent.toNat) 1
    else ofRatio negative digits (10 ^ (-exponent).toNat)

def isFinite : Binary64 → Bool
  | .finite .. => true
  | _ => false

def isInfinite : Binary64 → Bool
  | .infinite _ => true
  | _ => false

def isNegative : Binary64 → Bool
  | .nan => false
  | .infinite negative => negative
  | .finite negative _ _ => negative

def neg : Binary64 → Binary64
  | .nan => .nan
  | .infinite negative => .infinite !negative
  | .finite negative mantissa exponent => .finite (!negative) mantissa exponent

/-- The mantissa with its sign. -/
def signedMantissa (negative : Bool) (mantissa : Nat) : Int :=
  if negative then -(mantissa : Int) else mantissa

def add : Binary64 → Binary64 → Binary64
  | .nan, _ | _, .nan => .nan
  | .infinite s, .infinite t => if s = t then .infinite s else .nan
  | .infinite s, _ => .infinite s
  | _, .infinite t => .infinite t
  | .finite s m e, .finite t n f =>
    let low := min e f
    let sum := signedMantissa s m * 2 ^ (e - low).toNat + signedMantissa t n * 2 ^ (f - low).toNat
    if sum = 0 then .finite (s && t) 0 leastExponent
    else ofDyadic (decide (sum < 0)) sum.natAbs low

def sub (a b : Binary64) : Binary64 := add a b.neg

def mul : Binary64 → Binary64 → Binary64
  | .nan, _ | _, .nan => .nan
  | .infinite s, .infinite t => .infinite (s != t)
  | .infinite s, .finite t n _ => if n = 0 then .nan else .infinite (s != t)
  | .finite s m _, .infinite t => if m = 0 then .nan else .infinite (s != t)
  | .finite s m e, .finite t n f => ofDyadic (s != t) (m * n) (e + f)

def div : Binary64 → Binary64 → Binary64
  | .nan, _ | _, .nan => .nan
  | .infinite _, .infinite _ => .nan
  | .infinite s, .finite t _ _ => .infinite (s != t)
  | .finite s _ _, .infinite t => .finite (s != t) 0 leastExponent
  | .finite s m e, .finite t n f =>
    if n = 0 then (if m = 0 then .nan else .infinite (s != t))
    else if f ≤ e then ofRatio (s != t) (m * 2 ^ (e - f).toNat) n
    else ofRatio (s != t) m (n * 2 ^ (f - e).toNat)

/-- The integer between zero and a finite value that is nearest to the value. -/
def truncate : Binary64 → Option Int
  | .finite negative mantissa exponent =>
    let whole := if 0 ≤ exponent then mantissa * 2 ^ exponent.toNat
      else mantissa / 2 ^ (-exponent).toNat
    some (signedMantissa negative whole)
  | _ => none

/-- The greatest integer not above a finite value. -/
def floor : Binary64 → Option Int
  | .finite negative mantissa exponent =>
    if 0 ≤ exponent then some (signedMantissa negative (mantissa * 2 ^ exponent.toNat))
    else some (signedMantissa negative mantissa / 2 ^ (-exponent).toNat)
  | _ => none

/-- The integer nearest to a finite value; half goes away from zero. -/
def round : Binary64 → Option Int
  | .finite negative mantissa exponent =>
    let whole := if 0 ≤ exponent then mantissa * 2 ^ exponent.toNat
      else (2 * mantissa + 2 ^ (-exponent).toNat) / (2 * 2 ^ (-exponent).toNat)
    some (signedMantissa negative whole)
  | _ => none

/-- Equality of values: nothing equals what is not a number, and both zeros are equal. -/
def same : Binary64 → Binary64 → Bool
  | .nan, _ | _, .nan => false
  | .infinite s, .infinite t => s == t
  | .finite s m e, .finite t n f => (m == 0 && n == 0) || (s == t && m == n && e == f)
  | _, _ => false

/-- The value of the bit that says that a number is negative. -/
def signBit : Nat := 0x8000000000000000

/-- The number that 64 bits encode. -/
def ofBits (bits : Nat) : Binary64 :=
  let negative := bits / signBit % 2 == 1
  let biased : Nat := bits / leastMantissa % 2048
  let fraction : Nat := bits % leastMantissa
  if biased = 2047 then (if fraction = 0 then .infinite negative else .nan)
  else if biased = 0 then .finite negative fraction leastExponent
  else .finite negative (leastMantissa + fraction) ((biased : Int) - 1075)

def toBits : Binary64 → Nat
  | .nan => 0x7FF8000000000000
  | .infinite negative => (if negative then signBit else 0) + 2047 * leastMantissa
  | .finite negative mantissa exponent =>
    (if negative then signBit else 0) +
      if mantissa < leastMantissa then mantissa
      else (exponent + 1075).toNat * leastMantissa + (mantissa - leastMantissa)

end Binary64

end LogPipeline
