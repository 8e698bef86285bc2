import LogPipeline.Yaml.Scalar
import LogPipeline.Yaml.Tag

/-!
# Tokens

A text is cut into scalars, marks, and tokens that say where a block begins and ends, which follows from
the columns. What turns out to be a key by the colon behind it gets its token in front afterwards. Such a
key lies on one line and is at most 1024 bytes long.
-/

namespace LogPipeline.Yaml

inductive Token where
  | version (major minor : Nat)
  /-- A shorthand for the beginnings of tags. -/
  | shorthand (handle : List Char) (expansion : List UInt8)
  | documentStart
  | documentEnd
  | sequenceStart
  | mappingStart
  | blockEnd
  | flowSequenceStart
  | flowSequenceEnd
  | flowMappingStart
  | flowMappingEnd
  | entry
  | flowEntry
  | key
  | value
  | alias (name : List Char)
  | anchor (name : List Char)
  | tag (handle : List Char) (suffix : List UInt8)
  | scalar (text : List Char) (style : Style)
  | streamEnd
  deriving DecidableEq, Repr

/-- The place of what may become a key. -/
structure Candidate where
  /-- How many tokens come before it. -/
  position : Nat
  /-- Whether nothing else can stand here. -/
  required : Bool
  place : Cursor
  deriving Repr

structure Lexer where
  cursor : Cursor
  /-- A bound on the number of characters that are left. -/
  limit : Nat
  /-- The tokens read so far, last first. -/
  tokens : List Token := []
  /-- How many tokens there are. -/
  count : Nat := 0
  /-- The columns of the blocks around the cursor, innermost first. -/
  indents : List Nat := []
  /-- The candidates on each level of brackets, innermost first, and last the one outside of brackets. -/
  candidates : List (Option Candidate) := [none]
  keyAllowed : Bool := true
  deriving Repr

namespace Lexer

def inFlow (lexer : Lexer) : Bool := 1 < lexer.candidates.length

/-- The least column of what lies inside the innermost block. -/
def margin (lexer : Lexer) : Nat :=
  match lexer.indents with
  | column :: _ => column + 1
  | [] => 0

def emit (lexer : Lexer) (token : Token) : Lexer :=
  { lexer with tokens := token :: lexer.tokens, count := lexer.count + 1 }

/-- Puts a token behind the first `position` ones. -/
def insertAt (lexer : Lexer) (position : Nat) (token : Token) : Lexer :=
  let later := lexer.count - position
  { lexer with
    tokens := lexer.tokens.take later ++ token :: lexer.tokens.drop later
    count := lexer.count + 1 }

def advance (lexer : Lexer) (count : Nat) : Lexer := { lexer with cursor := lexer.cursor.skip count }

def setCandidate (lexer : Lexer) (candidate : Option Candidate) : Lexer :=
  { lexer with candidates := candidate :: lexer.candidates.tail }

/-- Gives up the candidate of this level, which must not have been required. -/
def dropCandidate (lexer : Lexer) : Except Fault Lexer :=
  match lexer.candidates with
  | some candidate :: _ =>
    if candidate.required then .error .malformed else .ok (lexer.setCandidate none)
  | _ => .ok lexer

/-- Notes that what begins here may become a key. -/
def noteCandidate (lexer : Lexer) : Except Fault Lexer :=
  if lexer.keyAllowed then
    lexer.dropCandidate.map fun lexer =>
      let required := !lexer.inFlow && lexer.indents.head?.any (· == lexer.cursor.column)
      lexer.setCandidate (some ⟨lexer.count, required, lexer.cursor⟩)
  else .ok lexer

/-- The candidate of this level, if it still can become a key here. -/
def candidate? (lexer : Lexer) : Except Fault (Option Candidate) :=
  match lexer.candidates with
  | some candidate :: _ =>
    if candidate.place.line < lexer.cursor.line ∨
        candidate.place.index + 1024 < lexer.cursor.index then
      if candidate.required then .error .malformed else .ok none
    else .ok (some candidate)
  | _ => .ok none

/-- Begins a block at a column that lies farther in than the innermost one. -/
def openBlock (lexer : Lexer) (column position : Nat) (token : Token) : Lexer :=
  if lexer.inFlow || lexer.indents.head?.any (column ≤ ·) then lexer
  else { lexer.insertAt position token with indents := column :: lexer.indents }

/-- Ends the blocks that begin behind a column; without a column all of them. -/
def closeBlocks (lexer : Lexer) (column : Option Nat) : Lexer :=
  if lexer.inFlow then lexer
  else
    let inner := lexer.indents.takeWhile fun indent => column.all (· < indent)
    { lexer with
      indents := lexer.indents.drop inner.length
      tokens := List.replicate inner.length .blockEnd ++ lexer.tokens
      count := lexer.count + inner.length }

/-- Skips blanks, comments and line breaks. Tabs count as blanks where no key can begin. -/
def skipSpace : (limit : Nat) → Lexer → Lexer
  | 0, lexer => lexer
  | limit + 1, lexer =>
    let cursor := lexer.cursor
    let cursor := if cursor.column = 0 && cursor.starts '\ufeff' then cursor.skip 1 else cursor
    let tabs := lexer.inFlow || !lexer.keyAllowed
    let cursor := cursor.skipWhile fun c => c = ' ' || (tabs && c = '\t')
    let cursor := if cursor.starts '#' then cursor.skipWhile fun c => !isBreak c else cursor
    if cursor.atBreak then
      skipSpace limit
        { lexer with cursor := cursor.readBreak.2, keyAllowed := lexer.keyAllowed || !lexer.inFlow }
    else { lexer with cursor := cursor }

/-- Leaves all blocks, as at the marks between documents. -/
def leaveBlocks (lexer : Lexer) : Except Fault Lexer :=
  (lexer.closeBlocks none).dropCandidate.map fun lexer => { lexer with keyAllowed := false }

def documentMark (lexer : Lexer) (token : Token) : Except Fault Lexer :=
  lexer.leaveBlocks.map fun lexer => (lexer.advance 3).emit token

def openFlow (lexer : Lexer) (token : Token) : Except Fault Lexer :=
  lexer.noteCandidate.map fun lexer =>
    ({ lexer with candidates := none :: lexer.candidates, keyAllowed := true }.advance 1).emit token

def closeFlow (lexer : Lexer) (token : Token) : Except Fault Lexer :=
  lexer.dropCandidate.map fun lexer =>
    let outer := if lexer.inFlow then lexer.candidates.tail else lexer.candidates
    ({ lexer with candidates := outer, keyAllowed := false }.advance 1).emit token

def flowEntry (lexer : Lexer) : Except Fault Lexer :=
  lexer.dropCandidate.map fun lexer =>
    ({ lexer with keyAllowed := true }.advance 1).emit .flowEntry

/-- Begins a block at the cursor, where a new block may begin. -/
def openBlockHere (lexer : Lexer) (token : Token) : Except Fault Lexer :=
  if lexer.inFlow then .ok lexer
  else if lexer.keyAllowed then
    .ok (lexer.openBlock lexer.cursor.column lexer.count token)
  else .error .malformed

def entry (lexer : Lexer) : Except Fault Lexer := do
  let lexer ← lexer.openBlockHere .sequenceStart
  let lexer ← lexer.dropCandidate
  return ({ lexer with keyAllowed := true }.advance 1).emit .entry

def key (lexer : Lexer) : Except Fault Lexer := do
  let lexer ← lexer.openBlockHere .mappingStart
  let lexer ← lexer.dropCandidate
  return ({ lexer with keyAllowed := !lexer.inFlow }.advance 1).emit .key

def value (lexer : Lexer) : Except Fault Lexer := do
  match ← lexer.candidate? with
  | some candidate =>
    let lexer := (lexer.insertAt candidate.position .key).openBlock candidate.place.column
      candidate.position .mappingStart
    return ({ lexer.setCandidate none with keyAllowed := false }.advance 1).emit .value
  | none =>
    let lexer ← lexer.openBlockHere .mappingStart
    return ({ lexer with keyAllowed := !lexer.inFlow }.advance 1).emit .value

/-- Reads a name behind its mark. -/
def name (lexer : Lexer) (token : List Char → Token) : Except Fault Lexer := do
  let lexer ← lexer.noteCandidate
  let (name, cursor) := (lexer.cursor.skip 1).span isWordChar
  if name.isEmpty || !(cursor.endsWord 0 || cursor.sees 0 "?:,]\x7d%@\x60".toList.contains) then
    .error .malformed
  else return { lexer with cursor := cursor, keyAllowed := false }.emit (token name)

def isTagChar (c : Char) : Bool := isWordChar c || ";/?:@&=+$.!~*'()".toList.contains c

/-- How many bytes a character takes in UTF-8, as its first byte announces. -/
def announcedLength? (byte : Nat) : Option Nat :=
  if byte < 0x80 then some 1
  else if 0xC0 ≤ byte ∧ byte < 0xE0 then some 2
  else if 0xE0 ≤ byte ∧ byte < 0xF0 then some 3
  else if 0xF0 ≤ byte ∧ byte < 0xF8 then some 4
  else none

/-- Reads bytes that are written as percent signs with two digits. -/
def readBytes? : (count : Nat) → List Char → Option (List Nat × List Char)
  | 0, cs => some ([], cs)
  | count + 1, '%' :: rest => do
    let byte ← hexNumber? 2 rest
    let (bytes, rest) ← readBytes? count (rest.drop 2)
    return (byte :: bytes, rest)
  | _, _ => none

/-- Reads as many bytes as the first one announces. Those behind it must be able to stand there, but all of
them together need not be a character. -/
def readByteGroup? (cs : List Char) : Option (List UInt8 × List Char) := do
  let (first, _) ← readBytes? 1 cs
  let length ← first.head?.bind announcedLength?
  let (bytes, rest) ← readBytes? length cs
  if bytes.tail.all fun byte => 0x80 ≤ byte && byte < 0xC0 then
    return (bytes.map (·.toUInt8), rest)
  else none

/-- Reads the characters of a tag. Inside angle brackets commas and square brackets are among them. -/
def readTagChars (verbatim : Bool) :
    (limit : Nat) → (text : List UInt8) → Cursor → Except Fault (List UInt8 × Cursor)
  | 0, text, cursor => .ok (text, cursor)
  | limit + 1, text, cursor =>
    match cursor.rest with
    | [] => .ok (text, cursor)
    | c :: _ =>
      if c = '%' then
        match readByteGroup? cursor.rest with
        | some (bytes, rest) =>
          readTagChars verbatim limit (text ++ bytes)
            (cursor.skip (cursor.rest.length - rest.length))
        | none => .error .malformed
      else if isTagChar c ∨ (verbatim ∧ (c = ',' ∨ c = '[' ∨ c = ']')) then
        readTagChars verbatim limit (text ++ [c.toUInt8]) (cursor.skip 1)
      else .ok (text, cursor)

/-- Reads a tag: between angle brackets, or a handle between exclamation marks and a suffix. -/
def tag (lexer : Lexer) : Except Fault Lexer := do
  let lexer ← lexer.noteCandidate
  let limit := lexer.limit
  let (handle, suffix, cursor) ←
    if lexer.cursor.sees 1 (· == '<') then do
      let (suffix, cursor) ← readTagChars true limit [] (lexer.cursor.skip 2)
      if suffix.isEmpty || !cursor.starts '>' then .error .malformed
      else .ok (([] : List Char), untilZero suffix, cursor.skip 1)
    else do
      let (word, cursor) := (lexer.cursor.skip 1).span isWordChar
      if cursor.starts '!' then
        let (suffix, cursor) ← readTagChars false limit [] (cursor.skip 1)
        if suffix.isEmpty then .error .malformed
        else .ok ('!' :: word ++ ['!'], untilZero suffix, cursor)
      else do
        let (suffix, cursor) ← readTagChars false limit (word.map Char.toUInt8) cursor
        let suffix := untilZero suffix
        if suffix.isEmpty then .ok ([], ['!'.toUInt8], cursor) else .ok (['!'], suffix, cursor)
  if (lexer.inFlow && cursor.starts ',') || cursor.endsWord 0 then
    return { lexer with cursor := cursor, keyAllowed := false }.emit (.tag handle suffix)
  else .error .malformed

def block (lexer : Lexer) (folded : Bool) : Except Fault Lexer := do
  let lexer ← lexer.dropCandidate
  let (text, cursor) ← readBlock folded lexer.margin lexer.limit (lexer.cursor.skip 1)
  return { lexer with cursor := cursor, keyAllowed := true }.emit
    (.scalar text (if folded then .folded else .literal))

def quoted (lexer : Lexer) (quote : Char) : Except Fault Lexer := do
  let lexer ← lexer.noteCandidate
  let (text, cursor) ← readQuoted quote lexer.limit [] (lexer.cursor.skip 1)
  return { lexer with cursor := cursor, keyAllowed := false }.emit (.scalar text .quoted)

def plain (lexer : Lexer) : Except Fault Lexer := do
  let lexer ← lexer.noteCandidate
  let (text, broken, cursor) ←
    readPlain lexer.inFlow lexer.margin lexer.limit [] {} lexer.cursor
  return { lexer with cursor := cursor, keyAllowed := broken }.emit (.scalar text .plain)

/-- Reads a number of at most nine digits. -/
def readVersionPart (cursor : Cursor) : Except Fault (Nat × Cursor) :=
  let (digits, cursor) := cursor.span Char.isDigit
  if digits.isEmpty ∨ 9 < digits.length then .error .malformed
  else .ok (Text.natOf digits, cursor)

/-- Reads a directive: the version of the language, or a shorthand for tags. -/
def directive (lexer : Lexer) : Except Fault Lexer := do
  let lexer ← lexer.leaveBlocks
  let (name, cursor) := (lexer.cursor.skip 1).span isWordChar
  if name.isEmpty || !cursor.endsWord 0 then .error .malformed
  else
    let cursor := cursor.skipWhile isBlank
    let (token, cursor) ←
      if name = "YAML".toList then do
        let (major, cursor) ← readVersionPart cursor
        if !cursor.starts '.' then .error .malformed
        else
          let (minor, cursor) ← readVersionPart (cursor.skip 1)
          .ok (Token.version major minor, cursor)
      else if name = "TAG".toList then do
        let (word, next) := (cursor.skip 1).span isWordChar
        let closed := next.starts '!'
        if !cursor.starts '!' || (!closed && !word.isEmpty) then .error .malformed
        else
          let handle := if closed then '!' :: word ++ ['!'] else ['!']
          let cursor := if closed then next.skip 1 else next
          if !cursor.atBlank then .error .malformed
          else
            let cursor := cursor.skipWhile isBlank
            let (expansion, cursor) ← readTagChars true lexer.limit [] cursor
            if expansion.isEmpty || !cursor.endsWord 0 then .error .malformed
            else .ok (Token.shorthand handle (untilZero expansion), cursor)
      else .error .malformed
    let cursor := cursor.skipWhile isBlank
    let cursor := if cursor.starts '#' then cursor.skipWhile fun c => !isBreak c else cursor
    if cursor.atBreak || cursor.atEnd then
      return { lexer with cursor := cursor.readBreak.2 }.emit token
    else .error .malformed

/-- The characters that no plain scalar begins with, unless something follows some of them at once. -/
def isIndicator (c : Char) : Bool := "-?:,[]{}#&*!|>'\"%@\x60".toList.contains c

/-- Reads the next token, which begins at a character. -/
def readToken (lexer : Lexer) (c : Char) : Except Fault Lexer :=
  let cursor := lexer.cursor
  if cursor.column = 0 ∧ c = '%' then lexer.directive
  else if cursor.atMark '-' then lexer.documentMark .documentStart
  else if cursor.atMark '.' then lexer.documentMark .documentEnd
  else if c = '[' then lexer.openFlow .flowSequenceStart
  else if c = '{' then lexer.openFlow .flowMappingStart
  else if c = ']' then lexer.closeFlow .flowSequenceEnd
  else if c = '}' then lexer.closeFlow .flowMappingEnd
  else if c = ',' then lexer.flowEntry
  else if c = '-' ∧ cursor.endsWord 1 then lexer.entry
  else if c = '?' ∧ (lexer.inFlow ∨ cursor.endsWord 1) then lexer.key
  else if c = ':' ∧ (lexer.inFlow ∨ cursor.endsWord 1) then lexer.value
  else if c = '*' then lexer.name .alias
  else if c = '&' then lexer.name .anchor
  else if c = '!' then lexer.tag
  else if c = '|' ∧ !lexer.inFlow then lexer.block false
  else if c = '>' ∧ !lexer.inFlow then lexer.block true
  else if c = '\'' ∨ c = '"' then lexer.quoted c
  else if !(isIndicator c ∨ isBlank c) ∨ c = '-' ∨ (!lexer.inFlow ∧ (c = '?' ∨ c = ':')) then lexer.plain
  else .error .malformed

/-- Reads all tokens. Each takes a character. -/
def run : (limit : Nat) → Lexer → Except Fault (List Token)
  | 0, _ => .error .malformed
  | limit + 1, lexer =>
    let lexer := lexer.skipSpace lexer.limit
    let lexer := lexer.closeBlocks (some lexer.cursor.column)
    match lexer.cursor.rest with
    | [] => lexer.leaveBlocks.map fun lexer => (lexer.emit .streamEnd).tokens.reverse
    | c :: _ =>
      match lexer.readToken c with
      | .ok lexer => run limit lexer
      | .error fault => .error fault

end Lexer

/-- The tokens of a text. -/
def tokens (text : String) : Except Fault (List Token) :=
  let cs := text.toList
  if cs.all isPrintable then Lexer.run (cs.length + 1) { cursor := { rest := cs }, limit := cs.length + 1 }
  else .error .malformed

end LogPipeline.Yaml
