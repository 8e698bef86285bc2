import LogPipeline.Yaml.Written

/-!
# Nodes

What a document means once every alias has been replaced by the node with its anchor. That is the node that
comes last of those whose anchors have the number, even if it stands behind the alias. Nodes must not lie too
deep inside each other, and the replacements must not make more of a text than its length allows.
-/

namespace LogPipeline.Yaml

inductive Node where
  | scalar (text : String) (style : Style) (tag : Option Tag)
  | sequence (items : List Node) (tag : Option Tag)
  | mapping (entries : List (Node × Node)) (tag : Option Tag)
  deriving Repr, Inhabited

/-- How many sequences and mappings may lie inside each other. -/
def depthLimit : Nat := 128

/-- How many aliases may be replaced for each scalar, alias or end of a sequence or mapping. -/
def aliasLimit : Nat := 100

/-- Replaces aliases. The state is how many more may be. -/
abbrev Expander := StateT Nat (Except Fault)

namespace Written

/-- The node that an alias stands for; `anchored` are the nodes with anchors, last first. -/
def follow (anchored : List (Nat × Written)) : Written → Expander Written
  | .alias number => do
    match ← get, anchored.lookup number with
    | left + 1, some target => set left; return target
    | _, _ => throw .malformed
  | written => return written

/-- The meaning of a node that has at most `depth` sequences and mappings inside each other. -/
def expand (anchored : List (Nat × Written)) : (depth : Nat) → Written → Expander Node
  | 0, written => do
    match ← written.follow anchored with
    | .scalar text style properties => return .scalar text style properties.tag
    | _ => throw .malformed
  | depth + 1, written => do
    match ← written.follow anchored with
    | .scalar text style properties => return .scalar text style properties.tag
    | .sequence items properties =>
      return .sequence (← items.mapM (expand anchored depth)) properties.tag
    | .mapping entries properties =>
      let entries ← entries.mapM fun entry => do
        let key ← expand anchored depth entry.1
        return (key, ← expand anchored depth entry.2)
      return .mapping entries properties.tag
    | .alias _ => throw .malformed

end Written

namespace Node

def ofWritten (written : Written) : Except Fault Node :=
  (written.expand written.anchored.reverse depthLimit).run' (aliasLimit * written.size)

/-- The document of a text. -/
def parse (text : String) : Except Fault Node := (Written.parse text).bind ofWritten

end Node

end LogPipeline.Yaml
