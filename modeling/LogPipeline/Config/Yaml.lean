import LogPipeline.Config.Readable
import LogPipeline.Yaml.Resolution

/-!
# Configurations in YAML

Every scalar is a text where a text is called for; truth values and counts stand without quotes. Where a list
or a table is called for, an empty scalar is an empty one.
-/

namespace LogPipeline

namespace Yaml.Node

/-- Whether a scalar may be a truth value or a number: it is plain, or a literal block with the tag of what
is called for. -/
def allows (style : Style) (tag : Option Tag) (expected : Tag) : Bool :=
  style == .plain || (style == .literal && tag == some expected)

def flagOf? : Node → Option Bool
  | .scalar s style tag => if allows style tag .flag then flag? s else none
  | _ => none

def countOf? : Node → Option Nat
  | .scalar s style tag =>
    if allows style tag .integer then (unsigned? s.toList).filter (· < Number.wordLimit) else none
  | _ => none

def itemsOf? : Node → Option (List Node)
  | .sequence items _ => some items
  | .scalar "" .plain _ => some []
  | _ => none

def entriesOf? : Node → Option (List (String × Node))
  | .mapping entries _ => entries.mapM fun entry => entry.1.text?.map fun name => (name, entry.2)
  | .scalar "" .plain _ => some []
  | _ => none

def singleOf? : Node → Option (String × Node)
  | .mapping [(key, value)] tag =>
    if tag = some .application then none else key.text?.map fun name => (name, value)
  | _ => none

/-- Whether there is no value. The tag of nothing must not stand before anything else. -/
def isAbsent? : Node → Option Bool
  | .scalar s .plain none => some (s = "" || isNothing s)
  | .scalar s .plain (some .nothing) => if isNothing s then some true else none
  | _ => some false

end Yaml.Node

instance : Config.Readable Yaml.Node where
  text? := Yaml.Node.text?
  choice? := Yaml.Node.name?
  flag? := Yaml.Node.flagOf?
  count? := Yaml.Node.countOf?
  value? := Yaml.Node.value?
  items? := Yaml.Node.itemsOf?
  entries? := Yaml.Node.entriesOf?
  single? := Yaml.Node.singleOf?
  record? _ := Yaml.Node.entriesOf?
  isNothing? := Yaml.Node.isAbsent?

end LogPipeline
