/-!
# Placeholders

An expression is made of plain characters and of placeholders, which name a pattern and, if its text is
to be kept, the field that it goes to and a type. What merely looks like the beginning of a placeholder is
plain text.
-/

namespace LogPipeline.Grok

structure Placeholder where
  name : String
  capture : Option String
  kind : Option String
  deriving DecidableEq, Repr

inductive Piece where
  | char (c : Char)
  | reference (placeholder : Placeholder)
  deriving DecidableEq, Repr

/-- The characters of pattern names: letters, digits and underscores. -/
def isNameChar (c : Char) : Bool := c.isAlphanum || c = '_'

/-- The characters of captures and types. -/
def isLabelChar (c : Char) : Bool := c != ':' && c != '}'

/-- Reads the placeholder behind an opening percent sign and brace, with the rest of the text. Of the two
parts that colons separate from the name, the first is a capture only if it is not empty; a single empty
part is a type. -/
def Placeholder.read? (cs : List Char) : Option (Placeholder × List Char) :=
  let name := cs.takeWhile isNameChar
  if name.isEmpty then none
  else
    let name := String.ofList name
    match cs.dropWhile isNameChar with
    | '}' :: rest => some (⟨name, none, none⟩, rest)
    | ':' :: rest =>
      let label := rest.takeWhile isLabelChar
      match rest.dropWhile isLabelChar with
      | '}' :: rest =>
        if label.isEmpty then some (⟨name, none, some ""⟩, rest)
        else some (⟨name, some (String.ofList label), none⟩, rest)
      | ':' :: rest =>
        if label.isEmpty then none
        else
          let kind := rest.takeWhile isLabelChar
          match rest.dropWhile isLabelChar with
          | '}' :: rest => some (⟨name, some (String.ofList label), some (String.ofList kind)⟩, rest)
          | _ => none
      | _ => none
    | _ => none

/-- Cuts a text into pieces. Every piece takes a character. -/
def piecesFrom : (limit : Nat) → List Char → List Piece
  | 0, _ | _, [] => []
  | limit + 1, c :: rest =>
    match c, rest with
    | '%', '{' :: inner =>
      match Placeholder.read? inner with
      | some (placeholder, rest) => .reference placeholder :: piecesFrom limit rest
      | none => .char c :: piecesFrom limit rest
    | _, _ => .char c :: piecesFrom limit rest

def pieces (expression : String) : List Piece :=
  piecesFrom expression.toList.length expression.toList

end LogPipeline.Grok
