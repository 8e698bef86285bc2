import LogPipeline.Json.Doc
import LogPipeline.Number.Reading

/-!
# Reading JSON

Reads exactly one document, which may nest below 128 levels. A whole number beyond the largest of 64
bits is a real number, and so is minus zero. A real number is computed from its first digits, as many as
fit into 64 bits, by one multiplication or division, each rounded.
-/

namespace LogPipeline.Json

-- Powers are those of core, whatever other instances there are.
attribute [local instance (2000)] instPowNat

open Text (isDigit natOf digitValue)

def isSpace (c : Char) : Bool := c = ' ' || c = '\n' || c = '\t' || c = '\r'

def skipSpace (cs : List Char) : List Char := cs.dropWhile isSpace

def largestWord : Nat := Number.wordLimit - 1

/-- Appends digits to a number while it fits into 64 bits. The digits left over are returned. -/
def absorb (number : Nat) : List Char → Nat × List Char
  | [] => (number, [])
  | c :: rest =>
    let more := number * 10 + digitValue c
    if more ≤ largestWord then absorb more rest else (number, c :: rest)

/-- Scales a number by a power of ten, in steps of at most 308 decimal places. Too large a result is an
error, too small a one is zero. -/
def scaleTen : (limit : Nat) → Binary64 → Int → Option Binary64
  | 0, x, _ => some x
  | limit + 1, x, exponent =>
    if exponent.natAbs ≤ 308 then
      let power : Binary64 := .ofDecimal false (10 ^ exponent.natAbs) 0
      if 0 ≤ exponent then (some (x.mul power)).filter fun y => !y.isInfinite
      else some (x.div power)
    else if x.same .zero then some x
    else if 0 ≤ exponent then none
    else scaleTen limit (x.div (.ofDecimal false (10 ^ 308) 0)) (exponent + 308)

def realOf (negative : Bool) (significand : Nat) (exponent : Int) : Option Doc :=
  (scaleTen 4 (.ofInt significand) exponent).map fun x => .real (if negative then x.neg else x)

/-- Reads the exponent behind its letter, if there is one, and computes the number. -/
def readScale (negative : Bool) (significand : Nat) (exponent : Int) (cs : List Char) :
    Option (Doc × List Char) :=
  match cs with
  | c :: rest =>
    if c = 'e' ∨ c = 'E' then
      let (down, rest) := Number.takeSign rest
      let digits := rest.takeWhile isDigit
      let rest := rest.dropWhile isDigit
      if digits.isEmpty then none
      else
        let size := natOf digits
        if size > 0x7FFFFFFF then
          if significand ≠ 0 ∧ !down then none
          else (realOf negative 0 0).map (·, rest)
        else (realOf negative significand (if down then exponent - size else exponent + size)).map
          (·, rest)
    else (realOf negative significand exponent).map (·, cs)
  | [] => (realOf negative significand exponent).map (·, cs)

/-- Reads a number behind its sign. -/
def readUnsigned (negative : Bool) (cs : List Char) : Option (Doc × List Char) :=
  let whole := cs.takeWhile isDigit
  let rest := cs.dropWhile isDigit
  if whole.isEmpty || (whole.head? == some '0' && whole.length > 1) then none
  else
    let (significand, excess) := absorb 0 whole
    match rest with
    | '.' :: rest =>
      let fraction := rest.takeWhile isDigit
      let rest := rest.dropWhile isDigit
      if fraction.isEmpty then none
      else
        let (significand, unused) := absorb significand fraction
        readScale negative significand (excess.length - (fraction.length - unused.length : Nat)) rest
    | _ =>
      let isReal := match rest with
        | c :: _ => c = 'e' || c = 'E'
        | [] => false
      if isReal || !excess.isEmpty then readScale negative significand excess.length rest
      else if !negative then some (.integer significand, rest)
      else if significand = 0 || significand > 0x8000000000000000 then
        (realOf true significand 0).map (·, rest)
      else some (.integer (-(significand : Int)), rest)

def readNumber (cs : List Char) : Option (Doc × List Char) :=
  match cs with
  | '-' :: rest => readUnsigned true rest
  | _ => readUnsigned false cs

def hexValue? (c : Char) : Option Nat :=
  let n := c.toNat
  if 48 ≤ n ∧ n ≤ 57 then some (n - 48)
  else if 97 ≤ n ∧ n ≤ 102 then some (n - 87)
  else if 65 ≤ n ∧ n ≤ 70 then some (n - 55)
  else none

/-- The unit that four hexadecimal digits write. -/
def readUnit : List Char → Option (Nat × List Char)
  | a :: b :: c :: d :: rest => do
    return ((← hexValue? a) * 4096 + (← hexValue? b) * 256 + (← hexValue? c) * 16 + (← hexValue? d),
      rest)
  | _ => none

/-- Reads an escape behind its backslash. A character above the first 65536 takes two units. -/
def readEscape : List Char → Option (Char × List Char)
  | [] => none
  | c :: rest =>
    match c with
    | '"' => some ('"', rest)
    | '\\' => some ('\\', rest)
    | '/' => some ('/', rest)
    | 'b' => some ('\x08', rest)
    | 'f' => some ('\x0c', rest)
    | 'n' => some ('\n', rest)
    | 'r' => some ('\r', rest)
    | 't' => some ('\t', rest)
    | 'u' => do
      let (unit, rest) ← readUnit rest
      if 0xD800 ≤ unit ∧ unit < 0xDC00 then
        match rest with
        | '\\' :: 'u' :: rest => do
          let (low, rest) ← readUnit rest
          if 0xDC00 ≤ low ∧ low < 0xE000 then
            return (Char.ofNat (0x10000 + (unit - 0xD800) * 0x400 + (low - 0xDC00)), rest)
          else none
        | _ => none
      else if 0xDC00 ≤ unit ∧ unit < 0xE000 then none
      else return (Char.ofNat unit, rest)
    | _ => none

/-- Reads a text behind its opening quote. -/
def readText : (limit : Nat) → List Char → Option (List Char × List Char)
  | 0, _ | _, [] => none
  | limit + 1, c :: rest =>
    if c = '"' then some ([], rest)
    else if c = '\\' then do
      let (c, rest) ← readEscape rest
      let (text, rest) ← readText limit rest
      return (c :: text, rest)
    else if c.toNat < 32 then none
    else do
      let (text, rest) ← readText limit rest
      return (c :: text, rest)

mutual
/-- Reads a document from its first character on; `depth` lists and objects may still be entered. -/
def readValue : (limit depth : Nat) → List Char → Option (Doc × List Char)
  | 0, _, _ | _, _, [] => none
  | limit + 1, depth, c :: rest =>
    match c with
    | '[' =>
      match depth, skipSpace rest with
      | 0, _ => none
      | _, ']' :: rest => some (.list [], rest)
      | depth + 1, rest => do
        let (items, rest) ← readItems limit depth rest
        return (.list items, rest)
    | '{' =>
      match depth, skipSpace rest with
      | 0, _ => none
      | _, '}' :: rest => some (.object [], rest)
      | depth + 1, rest => do
        let (entries, rest) ← readEntries limit depth rest
        return (.object entries, rest)
    | '"' => do
      let (text, rest) ← readText rest.length rest
      return (.text (String.ofList text), rest)
    | 'n' => (Text.dropStart? "ull".toList rest).map (.null, ·)
    | 't' => (Text.dropStart? "rue".toList rest).map (.bool true, ·)
    | 'f' => (Text.dropStart? "alse".toList rest).map (.bool false, ·)
    | _ => readNumber (c :: rest)
def readItems : (limit depth : Nat) → List Char → Option (List Doc × List Char)
  | 0, _, _ => none
  | limit + 1, depth, cs => do
    let (item, rest) ← readValue limit depth cs
    match skipSpace rest with
    | ']' :: rest => return ([item], rest)
    | ',' :: rest =>
      let (items, rest) ← readItems limit depth (skipSpace rest)
      return (item :: items, rest)
    | _ => none
def readEntries : (limit depth : Nat) → List Char → Option (List (String × Doc) × List Char)
  | 0, _, _ => none
  | limit + 1, depth, cs =>
    match cs with
    | '"' :: rest => do
      let (name, rest) ← readText rest.length rest
      match skipSpace rest with
      | ':' :: rest =>
        let (doc, rest) ← readValue limit depth (skipSpace rest)
        match skipSpace rest with
        | '}' :: rest => return ([(String.ofList name, doc)], rest)
        | ',' :: rest =>
          let (entries, rest) ← readEntries limit depth (skipSpace rest)
          return ((String.ofList name, doc) :: entries, rest)
        | _ => none
      | _ => none
    | _ => none
end

/-- How many lists and objects may lie inside each other. -/
def depthLimit : Nat := 127

/-- Reads a text that holds one document and blanks around it. Every call takes a character or goes
on to one that does. -/
def parseWithin (depth : Nat) (text : String) : Option Doc := do
  let cs := text.toList
  let (doc, rest) ← readValue (2 * cs.length + 2) depth (skipSpace cs)
  if (skipSpace rest).isEmpty then some doc else none

def parse (text : String) : Option Doc := parseWithin depthLimit text

end LogPipeline.Json
