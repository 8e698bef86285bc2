import LogPipeline.Regex.Node
import LogPipeline.Text.Blank
import LogPipeline.Unicode.Category
import LogPipeline.Unicode.Folding

/-!
# Escapes and classes

The parts of an expression below its operators: blanks that an expression may ignore, escapes, and
bracketed classes with their set operations. Every reader returns what it read and the rest of the
text.
-/

namespace LogPipeline.Regex

open Text (isBlank)

/-- Why a text is not an expression. -/
inductive Fault where
  | groupUnclosed
  | groupUnopened
  | groupName
  | groupNameRepeated
  | flag
  | lookAround
  | nothingToRepeat
  | repetitionCount
  | escape
  | backReference
  | property
  | classUnclosed
  | classItem
  | classRange
  /-- The expression could match bytes that are not text. -/
  | notText
  /-- A class by property where only bytes are known. -/
  | propertyOfBytes
  | tooDeep
  | tooLarge
  deriving DecidableEq, Repr

/-- How the text that follows is read and matched. -/
structure Flags where
  ignoreCase : Bool := false
  multiLine : Bool := false
  dotNewline : Bool := false
  swapGreed : Bool := false
  unicode : Bool := true
  /-- Carriage returns end lines too. -/
  returns : Bool := false
  /-- Blanks and comments in the expression have no meaning. -/
  spaced : Bool := false
  deriving DecidableEq, Repr

/-- Drops blanks and comments. A comment begins at `#` and ends with its line. -/
def skipBlanks (inComment : Bool) : List Char → List Char
  | [] => []
  | c :: rest =>
    if inComment then skipBlanks (c != '\n') rest
    else if isBlank c then skipBlanks false rest
    else if c = '#' then skipBlanks true rest
    else c :: rest

def Flags.skip (flags : Flags) (cs : List Char) : List Char :=
  if flags.spaced then skipBlanks false cs else cs

/-- The characters of a kind at the front, which may have blanks between them, and what follows. At most
`limit` are taken. -/
def Flags.span (flags : Flags) (kind : Char → Bool) : (limit : Nat) → List Char → List Char × List Char
  | limit + 1, c :: rest =>
    if kind c then
      let (taken, rest) := flags.span kind limit (flags.skip rest)
      (c :: taken, rest)
    else ([], c :: rest)
  | _, rest => ([], rest)

/-- A character, a class or a condition, as an escape writes it. -/
inductive Atom where
  /-- `isByte` if it was given as two hexadecimal digits. -/
  | literal (c : Char) (isByte : Bool)
  | set (set : CharSet)
  | look (condition : Look)
  deriving DecidableEq, Repr

def hexDigit? (c : Char) : Option Nat :=
  let n := c.toNat
  if 48 ≤ n ∧ n ≤ 57 then some (n - 48)
  else if 97 ≤ n ∧ n ≤ 102 then some (n - 87)
  else if 65 ≤ n ∧ n ≤ 70 then some (n - 55)
  else none

/-- The character with a code point, if there is one. -/
def charOf? (n : Nat) : Option Char :=
  if n.isValidChar then some (Char.ofNat n) else none

/-- Reads exactly `count` hexadecimal digits. -/
def hexDigits (flags : Flags) : (count value : Nat) → List Char → Except Fault (Nat × List Char)
  | 0, value, cs => .ok (value, cs)
  | _ + 1, _, [] => .error .escape
  | count + 1, value, c :: rest =>
    match hexDigit? c with
    | none => .error .escape
    | some d => hexDigits flags count (value * 16 + d) (flags.skip rest)

/-- Reads up to a closing brace, which is taken too. At most `limit` characters are read. -/
def upToBrace (flags : Flags) : (limit : Nat) → List Char → Except Fault (List Char × List Char)
  | 0, _ | _, [] => .error .escape
  | limit + 1, c :: rest =>
    if c = '}' then .ok ([], rest)
    else do
      let (name, rest) ← upToBrace flags limit (flags.skip rest)
      return (c :: name, rest)

/-- The character with a code point given by hexadecimal digits. -/
def charOfDigits (digits : List Char) : Except Fault Char :=
  let values := digits.filterMap hexDigit?
  if digits.isEmpty || values.length != digits.length then .error .escape
  else
    -- eight digits hold more than any code point
    let significant := values.dropWhile (· == 0)
    if significant.length > 8 then .error .escape
    else match charOf? (significant.foldl (· * 16 + ·) 0) with
      | none => .error .escape
      | some c => .ok c

/-- Reads the digits of a character given by its code point; `width` of them, or any number in
braces. -/
def hexEscape (flags : Flags) (width : Nat) (cs : List Char) : Except Fault (Atom × List Char) :=
  match flags.skip cs with
  | [] => .error .escape
  | '{' :: rest => do
    let (digits, rest) ← upToBrace flags rest.length (flags.skip rest)
    return (.literal (← charOfDigits digits) false, flags.skip rest)
  | rest => do
    let (value, rest) ← hexDigits flags width 0 rest
    match charOf? value with
    | none => .error .escape
    | some c => .ok (.literal c (width == 2), rest)

/-- The members of a set under the flags, or all others. Byte sets must be ASCII, since a single byte
above is no character. -/
def foldAndNegate (flags : Flags) (negated : Bool) (set : CharSet) : Except Fault CharSet :=
  if flags.unicode then
    let folded := if flags.ignoreCase then set.foldCase else set
    .ok (if negated then folded.complement else folded)
  else
    let folded := if flags.ignoreCase then set.foldAsciiCase else set
    let result := if negated then folded.byteComplement else folded
    if result.isAscii then .ok result else .error .notText

/-- The position of the first place where `part` occurs, split around it. -/
def splitAround? (part : List Char) : List Char → Option (List Char × List Char)
  | [] => none
  | c :: rest =>
    match Text.dropStart? part (c :: rest) with
    | some after => some ([], after)
    | none => (splitAround? part rest).map fun (before, after) => (c :: before, after)

/-- The class of a property expression: a name, or a name and a value joined by `=`, `:` or `!=`. -/
def propertyClass (flags : Flags) (negated : Bool) (text : List Char) : Except Fault CharSet :=
  if !flags.unicode then .error .propertyOfBytes
  else
    let (found, unequal) :=
      match splitAround? ['!', '='] text with
      | some (name, value) =>
        (Unicode.classValued? (String.ofList name) (String.ofList value), true)
      | none =>
        match (splitAround? [':'] text).orElse fun _ => splitAround? ['='] text with
        | some (name, value) =>
          (Unicode.classValued? (String.ofList name) (String.ofList value), false)
        | none => (Unicode.classNamed? (String.ofList text), false)
    match found with
    | none => .error .property
    | some set => foldAndNegate flags (negated != unequal) set

def propertyEscape (flags : Flags) (negated : Bool) (cs : List Char) : Except Fault (Atom × List Char) :=
  match flags.skip cs with
  | [] => .error .escape
  | '{' :: rest => do
    let (name, rest) ← upToBrace flags rest.length (flags.skip rest)
    return (.set (← propertyClass flags negated name), rest)
  | '\\' :: _ => .error .property
  | c :: rest => do
    return (.set (← propertyClass flags negated [c]), flags.skip rest)

def asciiWord : CharSet := ⟨[(48, 57), (65, 90), (95, 95), (97, 122)]⟩

def asciiSpace : CharSet := ⟨[(9, 13), (32, 32)]⟩

/-- Digits, blanks or word characters, or all others. -/
def shortClass (flags : Flags) (kind : Char) : Except Fault CharSet :=
  let negated := kind.isUpper
  let kind := kind.toLower
  let set :=
    if flags.unicode then
      if kind = 'd' then Unicode.decimalDigits
      else if kind = 's' then Unicode.whiteSpace
      else Unicode.wordChars
    else
      if kind = 'd' then CharSet.range 48 57 else if kind = 's' then asciiSpace else asciiWord
  foldAndNegate { flags with ignoreCase := false } negated set

def Flags.word (flags : Flags) : CharSet :=
  if flags.unicode then Unicode.wordChars else asciiWord

def isWordConditionChar (c : Char) : Bool := c.isAlpha || c == '-'

/-- The special word condition with a name; `cs` begins with the brace behind the name. -/
def specialWord (flags : Flags) (name cs : List Char) : Except Fault (Atom × List Char) :=
  match cs with
  | '}' :: rest =>
    if name = "start".toList then .ok (.look (.wordStart flags.word), rest)
    else if name = "end".toList then .ok (.look (.wordEnd flags.word), rest)
    else if name = "start-half".toList then .ok (.look (.wordStartHalf flags.word), rest)
    else if name = "end-half".toList then .ok (.look (.wordEndHalf flags.word), rest)
    else .error .escape
  | _ => .error .escape

/-- Reads what follows `\b`: the name of a special word condition in braces, if a letter or a hyphen
comes first in them. -/
def wordCondition (flags : Flags) (cs : List Char) : Except Fault (Atom × List Char) :=
  match cs with
  | '{' :: rest =>
    match flags.skip rest with
    | [] => .error .escape
    | inner@(c :: _) =>
      if isWordConditionChar c then
        let (name, rest) := flags.span isWordConditionChar inner.length inner
        specialWord flags name rest
      else .ok (.look (.wordBoundary flags.word), cs)
  | _ => .ok (.look (.wordBoundary flags.word), cs)

/-- Reads an escape, from the character after the backslash on. -/
def escape (flags : Flags) : List Char → Except Fault (Atom × List Char)
  | [] => .error .escape
  | c :: rest =>
    if c.isDigit then .error .backReference
    else if c = 'x' then hexEscape flags 2 rest
    else if c = 'u' then hexEscape flags 4 rest
    else if c = 'U' then hexEscape flags 8 rest
    else if c = 'p' then propertyEscape flags false rest
    else if c = 'P' then propertyEscape flags true rest
    else if "dswDSW".toList.contains c then
      (shortClass flags c).map fun set => (.set set, rest)
    else if c = 'a' then .ok (.literal '\x07' false, rest)
    else if c = 'f' then .ok (.literal '\x0c' false, rest)
    else if c = 't' then .ok (.literal '\t' false, rest)
    else if c = 'n' then .ok (.literal '\n' false, rest)
    else if c = 'r' then .ok (.literal '\r' false, rest)
    else if c = 'v' then .ok (.literal '\x0b' false, rest)
    else if c = 'A' then .ok (.look .textStart, rest)
    else if c = 'z' then .ok (.look .textEnd, rest)
    else if c = 'b' then wordCondition flags rest
    else if c = 'B' then .ok (.look (.notWordBoundary flags.word), rest)
    else if c = '<' then .ok (.look (.wordStart flags.word), rest)
    else if c = '>' then .ok (.look (.wordEnd flags.word), rest)
    else if c.isAlpha || c.toNat ≥ 128 then .error .escape
    else .ok (.literal c false, rest)

/-! ## Bracketed classes -/

inductive SetOperator where
  | inter
  | diff
  | symmDiff
  deriving DecidableEq, Repr

/-- Items read so far: their union, how many there are, and how deep they nest. -/
structure ClassItems where
  set : CharSet := .empty
  count : Nat := 0
  height : Nat := 0

def ClassItems.add (items : ClassItems) (set : CharSet) (height : Nat) : ClassItems :=
  ⟨items.set.union set, items.count + 1, max items.height height⟩

def ClassItems.totalHeight (items : ClassItems) : Nat :=
  if items.count ≤ 1 then items.height else items.height + 1

/-- An operand with its depth, and the operator that waits for another operand. -/
structure ClassOperation where
  operator : SetOperator
  left : CharSet
  height : Nat

/-- A class whose closing bracket is still to come. -/
structure OpenClass where
  negated : Bool
  items : ClassItems
  waiting : Option ClassOperation

/-- The value of a class up to here: the waiting operation is applied. Operations are done from left
to right. -/
def OpenClass.value (flags : Flags) (open_ : OpenClass) : CharSet × Nat :=
  match open_.waiting with
  | none => (open_.items.set, open_.items.totalHeight)
  | some ⟨operator, left, height⟩ =>
    let fold (s : CharSet) : CharSet :=
      if flags.ignoreCase then (if flags.unicode then s.foldCase else s.foldAsciiCase) else s
    let left := fold left
    let right := fold open_.items.set
    let set := match operator with
      | .inter => left.inter right
      | .diff => left.diff right
      | .symmDiff => left.symmDiff right
    (set, max height open_.items.totalHeight + 1)

/-- The classes with names of their own, which hold ASCII characters only. -/
def namedClasses : List (String × CharSet) := [
  ("alnum", ⟨[(48, 57), (65, 90), (97, 122)]⟩), ("alpha", ⟨[(65, 90), (97, 122)]⟩),
  ("ascii", ⟨[(0, 127)]⟩), ("blank", ⟨[(9, 9), (32, 32)]⟩), ("cntrl", ⟨[(0, 31), (127, 127)]⟩),
  ("digit", ⟨[(48, 57)]⟩), ("graph", ⟨[(33, 126)]⟩), ("lower", ⟨[(97, 122)]⟩),
  ("print", ⟨[(32, 126)]⟩), ("punct", ⟨[(33, 47), (58, 64), (91, 96), (123, 126)]⟩),
  ("space", asciiSpace), ("upper", ⟨[(65, 90)]⟩), ("word", asciiWord),
  ("xdigit", ⟨[(48, 57), (65, 70), (97, 102)]⟩)]

/-- Whether a caret is at the front, and what follows. -/
def takeCaret : List Char → Bool × List Char
  | '^' :: rest => (true, rest)
  | rest => (false, rest)

/-- Reads a named class from behind its opening bracket, if there is one. -/
def namedClass? (flags : Flags) (cs : List Char) : Option (Except Fault CharSet × List Char) :=
  match cs with
  | ':' :: rest =>
    let (negated, rest) := takeCaret rest
    let name := rest.takeWhile (· != ':')
    match rest.dropWhile (· != ':') with
    | ':' :: ']' :: rest =>
      (namedClasses.lookup (String.ofList name)).map fun set =>
        (foldAndNegate flags negated set, rest)
    | _ => none
  | _ => none

/-- Reads hyphens, each of which is a member. -/
def leadingHyphens (flags : Flags) :
    (limit : Nat) → ClassItems → List Char → ClassItems × List Char
  | limit + 1, items, '-' :: rest =>
    leadingHyphens flags limit (items.add (.single '-') 0) (flags.skip rest)
  | _, items, cs => (items, cs)

/-- What negates a class, and what follows. -/
def classNegation (flags : Flags) (cs : List Char) : Bool × List Char :=
  match cs with
  | '^' :: rest => (true, flags.skip rest)
  | cs => (false, cs)

/-- Reads a closing bracket that is the first item of a class, and so is meant as a character. -/
def firstBracket (flags : Flags) (negated : Bool) (items : ClassItems) (cs : List Char) :
    Except Fault (OpenClass × List Char) :=
  match cs with
  | [] => .error .classUnclosed
  | ']' :: rest =>
    if items.count = 0 then
      match flags.skip rest with
      | [] => .error .classUnclosed
      | rest => .ok (⟨negated, items.add (.single ']') 0, none⟩, rest)
    else .ok (⟨negated, items, none⟩, cs)
  | _ => .ok (⟨negated, items, none⟩, cs)

/-- Reads what stands at the front of a class behind its negation: hyphens, and a closing bracket that
is meant as a character. -/
def classFront (flags : Flags) (negated : Bool) (cs : List Char) : Except Fault (OpenClass × List Char) :=
  let (items, cs) := leadingHyphens flags cs.length {} cs
  firstBracket flags negated items cs

/-- Reads what stands at the front of a class. -/
def classHead (flags : Flags) (cs : List Char) : Except Fault (OpenClass × List Char) :=
  let (negated, cs) := classNegation flags (flags.skip cs)
  classFront flags negated cs

/-- Reads a character or an escape inside a class. -/
def classAtom (flags : Flags) : List Char → Except Fault (Atom × List Char)
  | [] => .error .classUnclosed
  | '\\' :: rest => escape flags rest
  | c :: rest => .ok (.literal c false, rest)

/-- The code point of a character in a class. Byte classes know ASCII characters only. -/
def classChar (flags : Flags) : Atom → Except Fault Nat
  | .literal c _ =>
    if flags.unicode || c.toNat < 128 then .ok c.toNat else .error .notText
  | _ => .error .classRange

/-- What follows the hyphen at the front of `cs`, over blanks. -/
def afterHyphen (flags : Flags) (cs : List Char) : Option Char :=
  if flags.spaced then
    match (cs.drop 1).dropWhile isBlank with
    | '#' :: rest => (rest.dropWhile isBlank).head?
    | rest => rest.head?
  else (cs.drop 1).head?

/-- The members of an item that is no range. -/
def itemSet (flags : Flags) (atom : Atom) : Except Fault CharSet :=
  match atom with
  | .set set => .ok set
  | .look _ => .error .classItem
  | .literal _ _ => do
    let n ← classChar flags atom
    return .range n n

/-- The members of a range. -/
def rangeSet (flags : Flags) (first last : Atom) : Except Fault CharSet := do
  let low ← classChar flags first
  let high ← classChar flags last
  if low ≤ high then return .range low high else .error .classRange

/-- Reads what follows the first character or escape of an item: a hyphen and the end of a range, or
nothing. -/
def classItemFrom (flags : Flags) (atom : Atom) (cs : List Char) : Except Fault (CharSet × List Char) :=
  let next := afterHyphen flags cs
  if cs.head? != some '-' || next == some ']' || next == some '-' then
    if cs.isEmpty then .error .classUnclosed else (itemSet flags atom).map (·, cs)
  else
    match flags.skip (cs.drop 1) with
    | [] => .error .classUnclosed
    | cs => do
      let (last, rest) ← classAtom flags cs
      (rangeSet flags atom last).map (·, rest)

/-- Reads an item of a class: a range, a character or a class that an escape writes. -/
def classItem (flags : Flags) (cs : List Char) : Except Fault (CharSet × List Char) := do
  let (atom, rest) ← classAtom flags cs
  classItemFrom flags atom (flags.skip rest)

/-- The set operator at the front, and what follows. -/
def setOperator? : List Char → Option (SetOperator × List Char)
  | '&' :: '&' :: rest => some (.inter, rest)
  | '-' :: '-' :: rest => some (.diff, rest)
  | '~' :: '~' :: rest => some (.symmDiff, rest)
  | _ => none

/-- Reads a class to its closing bracket, given those that are open, innermost first. Each round takes
a character, so as many rounds as characters are enough. -/
def classBody (flags : Flags) :
    (limit : Nat) → OpenClass → List OpenClass → List Char → Except Fault ((CharSet × Nat) × List Char)
  | 0, _, _, _ => .error .classUnclosed
  | limit + 1, current, outer, cs =>
    match flags.skip cs with
    | [] => .error .classUnclosed
    | '[' :: rest =>
      match namedClass? flags rest with
      | some (set, rest) => do
        let set ← set
        classBody flags limit { current with items := current.items.add set 0 } outer rest
      | none => do
        let (inner, rest) ← classHead flags rest
        classBody flags limit inner (current :: outer) rest
    | ']' :: rest => do
      let (set, height) := current.value flags
      let set ← foldAndNegate flags current.negated set
      match outer with
      | [] => return ((set, height + 1), rest)
      | parent :: outer =>
        classBody flags limit { parent with items := parent.items.add set (height + 1) } outer rest
    | cs =>
      match setOperator? cs with
      | some (operator, rest) =>
        let (left, height) := current.value flags
        classBody flags limit { current with items := {}, waiting := some ⟨operator, left, height⟩ }
          outer rest
      | none => do
        let (set, rest) ← classItem flags cs
        classBody flags limit { current with items := current.items.add set 0 } outer rest

/-- Reads a class from behind its opening bracket: its members, and how deep it nests. -/
def bracketed (flags : Flags) (cs : List Char) : Except Fault ((CharSet × Nat) × List Char) := do
  let (open_, rest) ← classHead flags cs
  classBody flags (cs.length + 1) open_ [] rest

end LogPipeline.Regex
