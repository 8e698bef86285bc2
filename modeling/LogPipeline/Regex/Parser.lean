import LogPipeline.Regex.Lexeme
import LogPipeline.Text.Letter

/-!
# Reading expressions

An expression is read from left to right. What is open around the current place is kept outside in:
for every group that is not yet closed, the pieces before it and the alternatives before those. A
flag holds from where it is set to the end of its group.
-/

namespace LogPipeline.Regex

open Text (isDigit natOf)

/-- A part of a sequence: what it matches, how deep it nests, and whether it can be repeated (the
setting of a flag cannot). -/
structure Piece where
  node : Node
  height : Nat
  repeatable : Bool
  deriving Repr

/-- How deep an expression may nest. -/
def heightLimit : Nat := 250

def Piece.ofNode (node : Node) : Piece := ⟨node, 0, true⟩

def highest (pieces : List Piece) : Nat := pieces.foldl (fun h p => max h p.height) 0

/-- The sequence of pieces given last to first. -/
def Piece.sequence (reversed : List Piece) : Piece :=
  match reversed with
  | [piece] => piece
  | [] => .ofNode .empty
  | pieces => ⟨.ofPieces (pieces.reverse.map Piece.node), highest pieces + 1, true⟩

/-- The choice between alternatives given last to first. -/
def Piece.choice (reversed : List Piece) : Piece :=
  match reversed with
  | [piece] => piece
  | pieces => ⟨.ofAlternatives (pieces.reverse.map Piece.node), highest pieces + 1, true⟩

/-- A group that is not yet closed, with what stands before it and the flags that hold after it. -/
structure OpenGroup where
  capture : Option Nat
  pieces : List Piece
  alternatives : List Piece
  flags : Flags

structure Reader where
  flags : Flags := {}
  /-- The pieces of the current sequence, last first. -/
  pieces : List Piece := []
  /-- The finished alternatives of the current group, last first. -/
  alternatives : List Piece := []
  outer : List OpenGroup := []
  /-- How many capturing groups have been opened. -/
  groupCount : Nat := 0
  /-- The names of groups, last first. -/
  names : List (Nat × String) := []

/-- An expression with the names of its groups, in the order in which they open. -/
structure Pattern where
  node : Node
  names : List (Nat × String)
  deriving Repr

namespace Reader

def push (reader : Reader) (piece : Piece) : Reader :=
  { reader with pieces := piece :: reader.pieces }

/-- The choice between all alternatives of the current group. -/
def current (reader : Reader) : Piece :=
  .choice (.sequence reader.pieces :: reader.alternatives)

def setFlag (flags : Flags) (c : Char) (on : Bool) : Option Flags :=
  match c with
  | 'i' => some { flags with ignoreCase := on }
  | 'm' => some { flags with multiLine := on }
  | 's' => some { flags with dotNewline := on }
  | 'U' => some { flags with swapGreed := on }
  | 'u' => some { flags with unicode := on }
  | 'R' => some { flags with returns := on }
  | 'x' => some { flags with spaced := on }
  | _ => none

/-- Reads flags up to a colon or a closing parenthesis, which is returned with the flags and with
whether there were any. No flag is given twice, and a negation is followed by a flag. -/
def readFlags (flags : Flags) (seen : List Char) (negated : Bool) :
    List Char → Except Fault ((Flags × Bool × Char) × List Char)
  | [] => .error .flag
  | c :: rest =>
    if c = ':' ∨ c = ')' then
      if seen.head? = some '-' then .error .flag else .ok ((flags, !seen.isEmpty, c), rest)
    else if seen.contains c then .error .flag
    else if c = '-' then readFlags flags (c :: seen) true rest
    else
      match setFlag flags c (!negated) with
      | none => .error .flag
      | some flags => readFlags flags (c :: seen) negated rest

def isNameStart (c : Char) : Bool := c = '_' || Text.letters.contains c

def isNamePart (c : Char) : Bool :=
  c = '_' || c = '.' || c = '[' || c = ']' || Text.letters.contains c ||
    Text.numerals.contains c

/-- Reads the name of a group and the `>` behind it. -/
def groupName (cs : List Char) : Except Fault (String × List Char) :=
  let name := cs.takeWhile (· != '>')
  match cs.dropWhile (· != '>'), name with
  | _ :: rest, first :: more =>
    if isNameStart first && more.all isNamePart then .ok (String.ofList name, rest)
    else .error .groupName
  | _, _ => .error .groupName

/-- Opens a group; `cs` is the text inside it. -/
def openGroup (reader : Reader) (capture : Option Nat) (flags : Flags) : Reader :=
  { reader with
    flags := flags
    pieces := []
    alternatives := []
    outer := ⟨capture, reader.pieces, reader.alternatives, reader.flags⟩ :: reader.outer }

def openNamed (reader : Reader) (cs : List Char) : Except Fault (Reader × List Char) := do
  let (name, rest) ← groupName cs
  if reader.names.any (·.2 == name) then .error .groupNameRepeated
  else
    let index := reader.groupCount + 1
    return ({ reader.openGroup (some index) reader.flags with
      groupCount := index
      names := (index, name) :: reader.names }, rest)

/-- Opens a group with flags, or sets flags for the rest of the current group. -/
def openFlagged (reader : Reader) (cs : List Char) : Except Fault (Reader × List Char) := do
  let ((flags, any, stop), rest) ← readFlags reader.flags [] false cs
  if stop = ':' then return (reader.openGroup none flags, rest)
  else if any then return ({ reader with flags }.push ⟨.empty, 0, false⟩, rest)
  else .error .nothingToRepeat

/-- Reads what stands behind an opening parenthesis and a question mark. -/
def openSpecial (reader : Reader) (cs : List Char) : Except Fault (Reader × List Char) :=
  match cs with
  | '=' :: _ | '!' :: _ | '<' :: '=' :: _ | '<' :: '!' :: _ => .error .lookAround
  | 'P' :: '<' :: rest | '<' :: rest => reader.openNamed rest
  | rest => reader.openFlagged rest

/-- Opens a group that has a number only. -/
def openNumbered (reader : Reader) : Reader :=
  { reader.openGroup (some (reader.groupCount + 1)) reader.flags with
    groupCount := reader.groupCount + 1 }

/-- Reads what stands behind an opening parenthesis. -/
def readGroup (reader : Reader) (cs : List Char) : Except Fault (Reader × List Char) :=
  match reader.flags.skip cs with
  | '?' :: rest => reader.openSpecial rest
  | rest => .ok (reader.openNumbered, rest)

/-- Closes the innermost group. -/
def closeGroup (reader : Reader) : Except Fault Reader :=
  match reader.outer with
  | [] => .error .groupUnopened
  | group :: outer =>
    let body := reader.current
    let node := match group.capture with
      | some index => .group index body.node
      | none => body.node
    .ok { reader with
      flags := group.flags
      pieces := ⟨node, body.height + 1, true⟩ :: group.pieces
      alternatives := group.alternatives
      outer := outer }

/-- Repeats the last piece. -/
def repeatLast (reader : Reader) (lazy : Bool) (least : Nat) (most : Option Nat) :
    Except Fault Reader :=
  match reader.pieces with
  | [] => .error .nothingToRepeat
  | piece :: pieces =>
    if piece.repeatable then
      let node := .repetition (lazy == reader.flags.swapGreed) least most piece.node
      .ok { reader with pieces := ⟨node, piece.height + 1, true⟩ :: pieces }
    else .error .nothingToRepeat

/-- Whether a question mark makes the repetition lazy, and what follows. -/
def takeLazy : List Char → Bool × List Char
  | '?' :: rest => (true, rest)
  | rest => (false, rest)

/-- The number of rounds that digits give, `none` if there are none; `cs` follows them. -/
def roundsOf (flags : Flags) (digits cs : List Char) : Except Fault (Option Nat × List Char) :=
  let rest := flags.skip (cs.dropWhile Text.isBlank)
  if digits.isEmpty then .ok (none, rest)
  else
    let significant := digits.dropWhile (· == '0')
    if significant.length > 10 then .error .repetitionCount
    else
      let n := natOf significant
      if n ≤ 0xFFFFFFFF then .ok (some n, rest) else .error .repetitionCount

/-- Reads a number of rounds. -/
def roundCount (flags : Flags) (cs : List Char) : Except Fault (Option Nat × List Char) :=
  let cs := cs.dropWhile Text.isBlank
  let (digits, rest) := flags.span isDigit cs.length cs
  roundsOf flags digits rest

/-- Reads a number of rounds that has to be there. -/
def givenRounds (flags : Flags) (cs : List Char) : Except Fault (Option Nat × List Char) := do
  let (most, rest) ← roundCount flags cs
  if most.isNone then .error .repetitionCount else .ok (most, rest)

/-- Reads the most rounds of a repetition, given the least. -/
def mostRounds (flags : Flags) (least : Option Nat) (cs : List Char) :
    Except Fault (Option Nat × List Char) :=
  match cs with
  | ',' :: rest =>
    match flags.skip rest with
    | '}' :: rest => .ok (none, '}' :: rest)
    | rest => givenRounds flags rest
  | rest => .ok (least, rest)

/-- Repeats the last piece between two numbers of rounds; `cs` begins with the closing brace. -/
def repeatRounds (reader : Reader) (least most : Option Nat) (cs : List Char) :
    Except Fault (Reader × List Char) :=
  match least, cs with
  | some least, '}' :: rest =>
    if most.any (· < least) then .error .repetitionCount
    else do
      let (lazy, rest) := takeLazy (reader.flags.skip rest)
      return (← reader.repeatLast lazy least most, rest)
  | _, _ => .error .repetitionCount

/-- Reads a repetition from behind its opening brace. -/
def readRepetition (reader : Reader) (cs : List Char) : Except Fault (Reader × List Char) := do
  let (least, rest) ← roundCount reader.flags (reader.flags.skip cs)
  let (most, rest) ← mostRounds reader.flags least rest
  reader.repeatRounds least most rest

/-- A single character under the flags. -/
def literal (flags : Flags) (c : Char) (isByte : Bool) : Except Fault Node :=
  if !flags.unicode && isByte && c.toNat ≥ 128 then .error .notText
  else if flags.ignoreCase then
    .ok (.chars (if flags.unicode then (CharSet.single c).foldCase
      else (CharSet.single c).foldAsciiCase))
  else .ok (.chars (.single c))

/-- Any character, or any but the end of a line. -/
def anyChar (flags : Flags) : Except Fault Node :=
  if !flags.unicode then .error .notText
  else if flags.dotNewline then .ok (.chars .all)
  else if flags.returns then
    .ok (.chars ⟨[(0, 9), (11, 12), (14, 0xD7FF), (0xE000, 0x10FFFF)]⟩)
  else .ok (.chars ⟨[(0, 9), (11, 0xD7FF), (0xE000, 0x10FFFF)]⟩)

def lineStart (flags : Flags) : Look :=
  if !flags.multiLine then .textStart else if flags.returns then .lineStartReturn else .lineStart

def lineEnd (flags : Flags) : Look :=
  if !flags.multiLine then .textEnd else if flags.returns then .lineEndReturn else .lineEnd

/-- Reads one operator, group bracket, class or character. -/
def step (reader : Reader) (c : Char) (rest : List Char) : Except Fault (Reader × List Char) :=
  let flags := reader.flags
  let pushNode (node : Node) : Reader := reader.push (.ofNode node)
  match c with
  | '(' => reader.readGroup rest
  | ')' => do return (← reader.closeGroup, rest)
  | '|' => .ok ({ reader with
      pieces := []
      alternatives := .sequence reader.pieces :: reader.alternatives }, rest)
  | '[' => do
    let ((set, height), rest) ← bracketed flags rest
    return (reader.push ⟨.chars set, height, true⟩, rest)
  | '?' => do
    let (lazy, rest) := takeLazy rest
    return (← reader.repeatLast lazy 0 (some 1), rest)
  | '*' => do
    let (lazy, rest) := takeLazy rest
    return (← reader.repeatLast lazy 0 none, rest)
  | '+' => do
    let (lazy, rest) := takeLazy rest
    return (← reader.repeatLast lazy 1 none, rest)
  | '{' => reader.readRepetition rest
  | '\\' => do
    let (atom, rest) ← escape flags rest
    match atom with
    | .literal c isByte => return (pushNode (← literal flags c isByte), rest)
    | .set set => return (pushNode (.chars set), rest)
    | .look condition => return (pushNode (.look condition), rest)
  | '.' => do return (pushNode (← anyChar flags), rest)
  | '^' => .ok (pushNode (.look (lineStart flags)), rest)
  | '$' => .ok (pushNode (.look (lineEnd flags)), rest)
  | c => do return (pushNode (← literal flags c false), rest)

/-- Reads to the end of the text. Every step takes a character, so as many steps as characters are
enough. -/
def run : (limit : Nat) → Reader → List Char → Except Fault Reader
  | 0, reader, cs => if (reader.flags.skip cs).isEmpty then .ok reader else .error .tooDeep
  | limit + 1, reader, cs =>
    match reader.flags.skip cs with
    | [] => .ok reader
    | c :: rest => do
      let (reader, rest) ← reader.step c rest
      run limit reader rest

end Reader

/-- Reads an expression. -/
def parse (text : List Char) : Except Fault Pattern := do
  let reader ← Reader.run text.length {} text
  if reader.outer.isEmpty then
    let piece := reader.current
    if piece.height > heightLimit then .error .tooDeep
    else return ⟨piece.node, reader.names.reverse⟩
  else .error .groupUnclosed

end LogPipeline.Regex
