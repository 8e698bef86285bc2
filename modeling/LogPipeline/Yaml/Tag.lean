/-!
# Tags

What a tag says about its node. A tag is a sequence of bytes and ends before the first zero. The standard
tags call for a truth value, a number or nothing; a tag that begins with an exclamation mark belongs to the
application.
-/

namespace LogPipeline.Yaml

inductive Tag where
  | flag
  | integer
  | real
  | nothing
  | application
  /-- An exclamation mark before bytes that are no text. -/
  | unreadable
  | foreign
  deriving DecidableEq, Repr

/-- What the standard tags begin with. -/
def standardTags : List UInt8 := "tag:yaml.org,2002:".toUTF8.toList

def untilZero (bytes : List UInt8) : List UInt8 := bytes.takeWhile (· ≠ 0)

namespace Tag

def standard (name : String) : List UInt8 := standardTags ++ name.toUTF8.toList

def ofBytes (bytes : List UInt8) : Tag :=
  match bytes with
  | 0x21 :: name =>
    if (String.fromUTF8? (ByteArray.mk name.toArray)).isSome then .application else .unreadable
  | _ =>
    if bytes = standard "bool" then .flag
    else if bytes = standard "int" then .integer
    else if bytes = standard "float" then .real
    else if bytes = standard "null" then .nothing
    else .foreign

end Tag

end LogPipeline.Yaml
