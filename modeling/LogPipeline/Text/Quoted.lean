import LogPipeline.CharSet
import LogPipeline.Unicode.TextData

/-!
# Quoted texts

Names in descriptions stand between double quotes. Quotes, backslashes and what is not visible are escaped.
-/

namespace LogPipeline.Text

/-- Characters that are not seen by themselves. -/
def hidden : CharSet := .ofPacked Unicode.hiddenData

def isVisible (c : Char) : Bool := (0x20 ≤ c.toNat && c.toNat < 0x7F) || !hidden.contains c

def quoteChar (c : Char) : List Char :=
  if c = '"' ∨ c = '\\' then ['\\', c]
  else if c = '\x00' then ['\\', '0']
  else if c = '\t' then ['\\', 't']
  else if c = '\n' then ['\\', 'n']
  else if c = '\r' then ['\\', 'r']
  else if isVisible c then [c]
  else ['\\', 'u', '{'] ++ Nat.toDigits 16 c.toNat ++ ['}']

def quoted (s : String) : String := String.ofList ('"' :: s.toList.flatMap quoteChar ++ ['"'])

/-- A list of quoted texts. -/
def quotedList (items : List String) : String := "[" ++ ", ".intercalate (items.map quoted) ++ "]"

end LogPipeline.Text
