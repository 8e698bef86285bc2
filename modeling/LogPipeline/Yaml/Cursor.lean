/-!
# Cursors

A place in a text, with its line and column. A line ends with a carriage return, a line feed, both, or one
of the three separators of Unicode; all but the last two are read as a line feed.
-/

namespace LogPipeline.Yaml

/-- Why a text is not a document. All faults weigh the same. -/
inductive Fault where
  | malformed
  deriving DecidableEq, Repr

def isBreak (c : Char) : Bool :=
  c = '\n' || c = '\r' || c = '\x85' || c = '\u2028' || c = '\u2029'

def isBlank (c : Char) : Bool := c = ' ' || c = '\t'

/-- The characters of names and of digits in any base. -/
def isWordChar (c : Char) : Bool := c.isAlphanum || c = '-' || c = '_'

/-- How many bytes characters take in UTF-8. -/
def byteCount (cs : List Char) : Nat := cs.foldl (fun count c => count + c.utf8Size) 0

structure Cursor where
  rest : List Char
  /-- How many bytes come before it. -/
  index : Nat := 0
  line : Nat := 0
  column : Nat := 0
  deriving Repr

namespace Cursor

def atEnd (cursor : Cursor) : Bool := cursor.rest.isEmpty

/-- Whether the character `offset` places ahead exists and satisfies `p`. -/
def sees (cursor : Cursor) (offset : Nat) (p : Char → Bool) : Bool := cursor.rest[offset]?.any p

def starts (cursor : Cursor) (c : Char) : Bool := cursor.sees 0 (· == c)

/-- Whether a word ends `offset` places ahead: by a blank, a line break or the end. -/
def endsWord (cursor : Cursor) (offset : Nat) : Bool :=
  cursor.rest[offset]?.all fun c => isBlank c || isBreak c

def atBlank (cursor : Cursor) : Bool := cursor.sees 0 isBlank

def atBreak (cursor : Cursor) : Bool := cursor.sees 0 isBreak

/-- Goes on by characters that do not end the line. -/
def skip (cursor : Cursor) (count : Nat) : Cursor :=
  { cursor with
    rest := cursor.rest.drop count
    index := cursor.index + byteCount (cursor.rest.take count)
    column := cursor.column + count }

/-- The characters up to the first that does not satisfy `p`, and the place behind them. -/
def span (cursor : Cursor) (p : Char → Bool) : List Char × Cursor :=
  let word := cursor.rest.takeWhile p
  (word, cursor.skip word.length)

def skipWhile (cursor : Cursor) (p : Char → Bool) : Cursor := (cursor.span p).2

/-- Reads a line break, if there is one. -/
def readBreak (cursor : Cursor) : List Char × Cursor :=
  let next (count : Nat) : Cursor :=
    { rest := cursor.rest.drop count
      index := cursor.index + byteCount (cursor.rest.take count)
      line := cursor.line + 1 }
  match cursor.rest with
  | '\r' :: '\n' :: _ => (['\n'], next 2)
  | c :: _ =>
    if c = '\u2028' ∨ c = '\u2029' then ([c], next 1)
    else if isBreak c then (['\n'], next 1)
    else ([], cursor)
  | [] => ([], cursor)

/-- Whether three equal marks at the beginning of a line separate documents here. -/
def atMark (cursor : Cursor) (mark : Char) : Bool :=
  cursor.column == 0 && cursor.rest.take 3 == [mark, mark, mark] && cursor.endsWord 3

def atDocumentMark (cursor : Cursor) : Bool := cursor.atMark '-' || cursor.atMark '.'

end Cursor

/-- The characters that a text may hold. -/
def isPrintable (c : Char) : Bool :=
  let n := c.toNat
  n == 0x09 || n == 0x0A || n == 0x0D || (0x20 ≤ n && n ≤ 0x7E) || n == 0x85 ||
    (0xA0 ≤ n && n ≤ 0xFFFD) || 0x10000 ≤ n

end LogPipeline.Yaml
