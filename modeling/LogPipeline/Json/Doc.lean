import LogPipeline.Number.Shortest

/-!
# JSON documents

A document keeps the order of the entries of its objects, repeated names included, and tells whole
numbers from others. The compact form has no blank and, since control characters inside texts are
escaped, no line break; the wide form has one entry or item per line.
-/

namespace LogPipeline.Json

inductive Doc where
  | null
  | bool (b : Bool)
  | integer (i : Int)
  | real (x : Binary64)
  | text (s : String)
  | list (items : List Doc)
  | object (entries : List (String × Doc))
  deriving Repr, Inhabited

def hexDigit (n : Nat) : Char := Nat.digitChar (n % 16)

/-- A character between quotes. -/
def escapeChar (c : Char) : List Char :=
  if c = '"' then ['\\', '"']
  else if c = '\\' then ['\\', '\\']
  else if c = '\n' then ['\\', 'n']
  else if c = '\r' then ['\\', 'r']
  else if c = '\t' then ['\\', 't']
  else if c = '\x08' then ['\\', 'b']
  else if c = '\x0c' then ['\\', 'f']
  else if c.toNat < 32 then ['\\', 'u', '0', '0', hexDigit (c.toNat / 16), hexDigit c.toNat]
  else [c]

def quote (s : String) : List Char := '"' :: s.toList.flatMap escapeChar ++ ['"']

def integerText (i : Int) : List Char :=
  if i < 0 then '-' :: Nat.toDigits 10 i.natAbs else Nat.toDigits 10 i.natAbs

namespace Doc

mutual
/-- The compact form. -/
def render : Doc → List Char
  | .null => ['n', 'u', 'l', 'l']
  | .bool b => if b then ['t', 'r', 'u', 'e'] else ['f', 'a', 'l', 's', 'e']
  | .integer i => integerText i
  | .real x => x.jsonText.toList
  | .text s => quote s
  | .list items => '[' :: renderItems items ++ [']']
  | .object entries => '{' :: renderEntries entries ++ ['}']
def renderItems : List Doc → List Char
  | [] => []
  | [item] => render item
  | item :: rest => render item ++ ',' :: renderItems rest
def renderEntries : List (String × Doc) → List Char
  | [] => []
  | [(name, doc)] => quote name ++ ':' :: render doc
  | (name, doc) :: rest => quote name ++ ':' :: render doc ++ ',' :: renderEntries rest
end

def compact (doc : Doc) : String := String.ofList doc.render

def newline (depth : Nat) : List Char := '\n' :: List.replicate (2 * depth) ' '

mutual
/-- The wide form; what stands in a list or an object is indented by two blanks more. -/
def renderWide (depth : Nat) : Doc → List Char
  | .list [] => ['[', ']']
  | .list items => '[' :: renderWideItems (depth + 1) items ++ newline depth ++ [']']
  | .object [] => ['{', '}']
  | .object entries => '{' :: renderWideEntries (depth + 1) entries ++ newline depth ++ ['}']
  | .null => ['n', 'u', 'l', 'l']
  | .bool b => if b then ['t', 'r', 'u', 'e'] else ['f', 'a', 'l', 's', 'e']
  | .integer i => integerText i
  | .real x => x.jsonText.toList
  | .text s => quote s
def renderWideItems (depth : Nat) : List Doc → List Char
  | [] => []
  | [item] => newline depth ++ renderWide depth item
  | item :: rest => newline depth ++ renderWide depth item ++ ',' :: renderWideItems depth rest
def renderWideEntries (depth : Nat) : List (String × Doc) → List Char
  | [] => []
  | [(name, doc)] => newline depth ++ quote name ++ ':' :: ' ' :: renderWide depth doc
  | (name, doc) :: rest =>
    newline depth ++ quote name ++ ':' :: ' ' :: renderWide depth doc ++
      ',' :: renderWideEntries depth rest
end

def wide (doc : Doc) : String := String.ofList (doc.renderWide 0)

end Doc

end LogPipeline.Json
