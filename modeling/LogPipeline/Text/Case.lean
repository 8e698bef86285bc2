import LogPipeline.CharSet
import LogPipeline.Unicode.TextData

/-!
# Upper- and lowercase texts

Every character is replaced by its full upper- or lowercase form, which may have several characters. A
capital sigma at the end of a word becomes the final sigma.
-/

namespace LogPipeline.Text

/-- The characters of a form, from their distances from `n`. -/
def formChars (n : Nat) (distances : List Nat) : List Char :=
  distances.map fun d => Char.ofNat ((n : Int) + Packed.signed d).toNat

/-- Reads at most `limit` forms; `previous` is the character before. -/
def formsFrom (previous : Nat) : (limit : Nat) → List Nat → List (Nat × List Char)
  | limit + 1, gap :: count :: rest =>
    (previous + gap, formChars (previous + gap) (rest.take count)) ::
      formsFrom (previous + gap) limit (rest.drop count)
  | _, _ => []

def forms (text : String) : List (Nat × List Char) :=
  let table := Packed.numbers text
  formsFrom 0 table.length table

def uppercaseForms : List (Nat × List Char) := forms Unicode.uppercaseData

def lowercaseForms : List (Nat × List Char) := forms Unicode.lowercaseData

/-- Looks a character up in forms that are in order. -/
def form? (n : Nat) : List (Nat × List Char) → Option (List Char)
  | [] => none
  | (m, form) :: rest => if m = n then some form else if n < m then none else form? n rest

def upperChar (c : Char) : List Char :=
  if c.toNat < 128 then [c.toUpper] else (form? c.toNat uppercaseForms).getD [c]

def lowerChar (c : Char) : List Char :=
  if c.toNat < 128 then [c.toLower] else (form? c.toNat lowercaseForms).getD [c]

def caseIgnorable : CharSet := .ofPacked Unicode.caseIgnorableData

def cased : CharSet := .ofPacked Unicode.casedData

/-- Whether a cased character comes first, those apart that do not interrupt a word. -/
def meetsCased (cs : List Char) : Bool :=
  match cs.dropWhile caseIgnorable.contains with
  | c :: _ => cased.contains c
  | [] => false

def capitalSigma : Char := '\u03A3'

def toUpper (cs : List Char) : List Char := cs.flatMap upperChar

/-- The lowercase form of a text behind the characters `before`, the nearest of which comes first. -/
def lowerAfter (before : List Char) : List Char → List Char
  | [] => []
  | c :: rest =>
    if c = capitalSigma then
      let final := meetsCased before && !meetsCased rest
      (if final then '\u03C2' else '\u03C3') :: lowerAfter (c :: before) rest
    else lowerChar c ++ lowerAfter (c :: before) rest

def toLower (cs : List Char) : List Char := lowerAfter [] cs

end LogPipeline.Text
