/-!
# Blank characters

White space in the sense of Unicode, and texts without the blanks at their ends.
-/

namespace LogPipeline.Text

/-- The characters with the property `White_Space`. -/
def isBlank (c : Char) : Bool :=
  let n := c.toNat
  (9 ≤ n && n ≤ 13) || n == 0x20 || n == 0x85 || n == 0xA0 || n == 0x1680 ||
    (0x2000 ≤ n && n ≤ 0x200A) || n == 0x2028 || n == 0x2029 || n == 0x202F || n == 0x205F ||
    n == 0x3000

def trimLeft (cs : List Char) : List Char := cs.dropWhile isBlank

def trimRight (cs : List Char) : List Char := (cs.reverse.dropWhile isBlank).reverse

/-- The text without blanks at either end. -/
def trim (cs : List Char) : List Char := trimRight (trimLeft cs)

def isDigit (c : Char) : Bool := 48 ≤ c.toNat && c.toNat ≤ 57

def digitValue (c : Char) : Nat := c.toNat - 48

/-- The number that a list of digits writes, after `high`. -/
def natFrom (high : Nat) : List Char → Nat
  | [] => high
  | c :: rest => natFrom (high * 10 + digitValue c) rest

def natOf (digits : List Char) : Nat := natFrom 0 digits

/-- The rest of the text behind `start`, if the text begins with it. -/
def dropStart? : (start text : List Char) → Option (List Char)
  | [], text => some text
  | _ :: _, [] => none
  | a :: start, b :: text => if a = b then dropStart? start text else none

end LogPipeline.Text
