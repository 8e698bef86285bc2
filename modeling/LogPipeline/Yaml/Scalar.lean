import LogPipeline.Yaml.Cursor
import LogPipeline.Json.Reader

/-!
# Scalars

The texts of a document: plain words, texts between quotes and blocks of lines. A single line break
between two words of a plain or a quoted text is a blank; of several the first is left out.
-/

namespace LogPipeline.Yaml

/-- How a scalar is written. -/
inductive Style where
  | plain
  | literal
  | folded
  | quoted
  deriving DecidableEq, Repr

/-- The white space between two words. -/
structure Gap where
  /-- Blanks on the line on which the gap begins. -/
  blanks : List Char := []
  broken : Bool := false
  /-- The first line break. -/
  first : List Char := []
  /-- All other line breaks. -/
  others : List Char := []
  deriving Repr

/-- What a gap means. -/
def Gap.fold (gap : Gap) : List Char :=
  if !gap.broken then gap.blanks
  else if gap.first == ['\n'] then (if gap.others.isEmpty then [' '] else gap.others)
  else gap.first ++ gap.others

/-- Reads white space. A tab before the column `margin` of a line after the first is a fault. -/
def readGap (margin : Nat) : (limit : Nat) → Gap → Cursor → Except Fault (Gap × Cursor)
  | 0, gap, cursor => .ok (gap, cursor)
  | limit + 1, gap, cursor =>
    match cursor.rest with
    | [] => .ok (gap, cursor)
    | c :: _ =>
      if isBlank c then
        if !gap.broken then readGap margin limit { gap with blanks := gap.blanks ++ [c] } (cursor.skip 1)
        else if c = '\t' ∧ cursor.column < margin then .error .malformed
        else readGap margin limit gap (cursor.skip 1)
      else if isBreak c then
        let (text, cursor) := cursor.readBreak
        if gap.broken then readGap margin limit { gap with others := gap.others ++ text } cursor
        else readGap margin limit { broken := true, first := text } cursor
      else .ok (gap, cursor)

def isFlowMark (c : Char) : Bool := c = ',' || c = '[' || c = ']' || c = '{' || c = '}'

/-- Reads a word of a plain scalar. Inside brackets the marks of lists and tables end it, and a colon must
not stand before one of them. -/
def readWord (flow : Bool) : List Char → Except Fault (List Char)
  | [] => .ok []
  | c :: rest =>
    if isBlank c ∨ isBreak c then .ok []
    else if flow ∧ c = ':' ∧ rest.head?.any (fun d => isFlowMark d || d = '?') then .error .malformed
    else if c = ':' ∧ rest.head?.all (fun d => isBlank d || isBreak d) then .ok []
    else if flow ∧ isFlowMark c then .ok []
    else (readWord flow rest).map (c :: ·)

/-- Reads a plain scalar behind the pieces of text read so far, last first, and a gap. The result also tells
whether a line break came last. -/
def readPlain (flow : Bool) (margin : Nat) :
    (limit : Nat) → (text : List (List Char)) → Gap → Cursor → Except Fault (List Char × Bool × Cursor)
  | 0, text, gap, cursor => .ok (text.reverse.flatten, gap.broken, cursor)
  | limit + 1, text, gap, cursor =>
    if cursor.atDocumentMark || cursor.starts '#' then .ok (text.reverse.flatten, gap.broken, cursor)
    else
      match readWord flow cursor.rest with
      | .error fault => .error fault
      | .ok word =>
        let cursor := cursor.skip word.length
        let (text, gap) : List (List Char) × Gap :=
          if word.isEmpty then (text, gap) else ((gap.fold ++ word) :: text, {})
        if !(cursor.atBlank || cursor.atBreak) then .ok (text.reverse.flatten, gap.broken, cursor)
        else
          match readGap margin (limit + 1) gap cursor with
          | .error fault => .error fault
          | .ok (gap, cursor) =>
            if !flow && cursor.column < margin then .ok (text.reverse.flatten, gap.broken, cursor)
            else readPlain flow margin limit text gap cursor

def hexNumber? (count : Nat) (cs : List Char) : Option Nat :=
  let digits := cs.take count
  if digits.length < count then none
  else digits.foldlM (fun n c => (Json.hexValue? c).map (n * 16 + ·)) 0

/-- The character that an escape with a letter alone stands for. -/
def simpleEscape? (c : Char) : Option Char :=
  match c with
  | '0' => some '\x00'
  | 'a' => some '\x07'
  | 'b' => some '\x08'
  | 't' | '\t' => some '\t'
  | 'n' => some '\n'
  | 'v' => some '\x0b'
  | 'f' => some '\x0c'
  | 'r' => some '\r'
  | 'e' => some '\x1b'
  | ' ' => some ' '
  | '"' => some '"'
  | '/' => some '/'
  | '\\' => some '\\'
  | 'N' => some '\x85'
  | '_' => some '\xa0'
  | 'L' => some '\u2028'
  | 'P' => some '\u2029'
  | _ => none

/-- Reads an escape behind its backslash: the character, and how many others stand for it. -/
def readEscape (cs : List Char) : Except Fault (Char × Nat) :=
  match cs with
  | [] => .error .malformed
  | c :: rest =>
    match simpleEscape? c with
    | some d => .ok (d, 1)
    | none =>
      let count := if c = 'x' then 2 else if c = 'u' then 4 else if c = 'U' then 8 else 0
      match count, hexNumber? count rest with
      | 0, _ | _, none => .error .malformed
      | _, some n =>
        if (0xD800 ≤ n ∧ n ≤ 0xDFFF) ∨ 0x10FFFF < n then .error .malformed
        else .ok (Char.ofNat n, count + 1)

/-- Reads the characters of a quoted text up to white space or the closing quote, behind those in `word`, last
first; the result tells whether an escaped line break came last. -/
def readQuotedWord (quote : Char) :
    (limit : Nat) → (word : List Char) → Cursor → Except Fault (List Char × Bool × Cursor)
  | 0, word, cursor => .ok (word.reverse, false, cursor)
  | limit + 1, word, cursor =>
    match cursor.rest with
    | [] => .ok (word.reverse, false, cursor)
    | c :: rest =>
      if isBlank c ∨ isBreak c then .ok (word.reverse, false, cursor)
      else if c = quote then
        if quote = '\'' ∧ rest.head? = some '\'' then
          readQuotedWord quote limit ('\'' :: word) (cursor.skip 2)
        else .ok (word.reverse, false, cursor)
      else if quote = '"' ∧ c = '\\' then
        if rest.head?.any isBreak then .ok (word.reverse, true, (cursor.skip 1).readBreak.2)
        else
          match readEscape rest with
          | .error fault => .error fault
          | .ok (d, count) => readQuotedWord quote limit (d :: word) (cursor.skip (count + 1))
      else readQuotedWord quote limit (c :: word) (cursor.skip 1)

/-- Reads a quoted text behind its opening quote and the pieces of text read so far, last first. -/
def readQuoted (quote : Char) :
    (limit : Nat) → (text : List (List Char)) → Cursor → Except Fault (List Char × Cursor)
  | 0, _, _ => .error .malformed
  | limit + 1, text, cursor =>
    if cursor.atDocumentMark || cursor.atEnd then .error .malformed
    else
      match readQuotedWord quote (limit + 1) [] cursor with
      | .error fault => .error fault
      | .ok (word, escaped, cursor) =>
        if cursor.starts quote then .ok ((word :: text).reverse.flatten, cursor.skip 1)
        else
          match readGap 0 (limit + 1) { broken := escaped } cursor with
          | .error fault => .error fault
          | .ok (gap, cursor) => readQuoted quote limit ((word ++ gap.fold) :: text) cursor

/-- Which of the line breaks at the end of a block are kept. -/
inductive Chomping where
  | none
  | one
  | all
  deriving DecidableEq, Repr

/-- Reads the lines without text before a line of a block, and the blanks before its margin. Where the margin
is not known yet, it is the farthest column reached. -/
def readBlockBreaks (least : Nat) (margin : Nat) :
    (limit farthest : Nat) → (breaks : List Char) → Cursor → Except Fault (Nat × List Char × Cursor)
  | 0, _, breaks, cursor => .ok (margin, breaks, cursor)
  | limit + 1, farthest, breaks, cursor =>
    let blanks := cursor.rest.takeWhile (· == ' ')
    let cursor := cursor.skip
      (if margin = 0 then blanks.length else min blanks.length (margin - cursor.column))
    let farthest := max farthest cursor.column
    if (margin = 0 ∨ cursor.column < margin) ∧ cursor.starts '\t' then .error .malformed
    else if cursor.atBreak then
      let (text, cursor) := cursor.readBreak
      readBlockBreaks least margin limit farthest (breaks ++ text) cursor
    else .ok (if margin = 0 then max farthest (max least 1) else margin, breaks, cursor)

/-- What has been read of a block: its text, the last line break, the line breaks after it, and whether the
last line began with a blank. -/
structure Block where
  /-- The pieces of the text, last first. -/
  text : List (List Char) := []
  last : List Char := []
  breaks : List Char := []
  blank : Bool := false
  deriving Repr

/-- Reads the lines of a block at its margin. -/
def readBlockLines (folded : Bool) (margin : Nat) :
    (limit : Nat) → Block → Cursor → Except Fault (Block × Cursor)
  | 0, block, cursor => .ok (block, cursor)
  | limit + 1, block, cursor =>
    if cursor.column ≠ margin ∨ cursor.atEnd then .ok (block, cursor)
    else
      let joint :=
        if folded && block.last == ['\n'] && !block.blank && !cursor.atBlank then
          (if block.breaks.isEmpty then [' '] else [])
        else block.last
      let blank := cursor.atBlank
      let (line, cursor) := cursor.span fun c => !isBreak c
      let (last, cursor) := cursor.readBreak
      match readBlockBreaks margin margin (limit + 1) 0 [] cursor with
      | .error fault => .error fault
      | .ok (_, breaks, cursor) =>
        readBlockLines folded margin limit
          ⟨(joint ++ block.breaks ++ line) :: block.text, last, breaks, blank⟩ cursor

/-- Reads the marks behind the sign of a block: how its end is treated, and its indentation. -/
def readBlockHeader (cursor : Cursor) : Except Fault (Chomping × Nat × Cursor) :=
  let chomping (cursor : Cursor) : Chomping × Cursor :=
    if cursor.starts '+' then (.all, cursor.skip 1)
    else if cursor.starts '-' then (.none, cursor.skip 1)
    else (.one, cursor)
  let indentation (cursor : Cursor) : Except Fault (Nat × Cursor) :=
    match cursor.rest with
    | c :: _ =>
      if c = '0' then .error .malformed
      else if c.isDigit then .ok (c.toNat - 48, cursor.skip 1)
      else .ok (0, cursor)
    | [] => .ok (0, cursor)
  if cursor.starts '+' || cursor.starts '-' then
    let (kept, cursor) := chomping cursor
    (indentation cursor).map fun (indent, cursor) => (kept, indent, cursor)
  else
    (indentation cursor).map fun (indent, cursor) =>
      if indent = 0 then (.one, 0, cursor)
      else
        let (kept, cursor) := chomping cursor
        (kept, indent, cursor)

/-- Reads a block behind its sign. `least` is the least column that its lines can begin at, and `limit` a bound
on the number of characters that are left. -/
def readBlock (folded : Bool) (least limit : Nat) (cursor : Cursor) : Except Fault (List Char × Cursor) := do
  let (chomping, indent, cursor) ← readBlockHeader cursor
  let cursor := cursor.skipWhile isBlank
  let cursor := if cursor.starts '#' then cursor.skipWhile fun c => !isBreak c else cursor
  if !(cursor.atBreak || cursor.atEnd) then .error .malformed
  else
    let cursor := cursor.readBreak.2
    let margin := if indent = 0 then 0 else least - 1 + indent
    let (margin, breaks, cursor) ← readBlockBreaks least margin limit 0 [] cursor
    let (block, cursor) ← readBlockLines folded margin limit { breaks := breaks } cursor
    let tail := match chomping with
      | .none => []
      | .one => block.last
      | .all => block.last ++ block.breaks
    return (block.text.reverse.flatten ++ tail, cursor)

end LogPipeline.Yaml
