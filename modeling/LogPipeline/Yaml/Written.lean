import LogPipeline.Yaml.Token

/-!
# Written nodes

The tree that tokens write: scalars, sequences, mappings and aliases, each with its tag and its anchor if it
has them. Anchors have numbers instead of names. A text holds at most one document; an empty one holds an
empty scalar.
-/

namespace LogPipeline.Yaml

/-- What stands in front of a node. -/
structure Properties where
  anchor : Option Nat := none
  tag : Option Tag := none
  deriving DecidableEq, Repr

inductive Written where
  | scalar (text : String) (style : Style) (properties : Properties)
  | sequence (items : List Written) (properties : Properties)
  | mapping (entries : List (Written × Written)) (properties : Properties)
  | alias (anchor : Nat)
  deriving Repr, Inhabited

namespace Written

def empty : Written := .scalar "" .plain {}

def anchor? : Written → Option Nat
  | .scalar _ _ properties => properties.anchor
  | .sequence _ properties => properties.anchor
  | .mapping _ properties => properties.anchor
  | .alias _ => none

mutual
/-- How long the text is, counted in scalars, aliases and the two ends of sequences and mappings. -/
def size : Written → Nat
  | .scalar .. => 1
  | .sequence items _ => itemsSize items + 2
  | .mapping entries _ => entriesSize entries + 2
  | .alias _ => 1
def itemsSize : List Written → Nat
  | [] => 0
  | item :: rest => item.size + itemsSize rest
def entriesSize : List (Written × Written) → Nat
  | [] => 0
  | (key, value) :: rest => key.size + value.size + entriesSize rest
end

mutual
/-- The nodes with anchors, in the order in which they begin. -/
def anchored : Written → List (Nat × Written)
  | .scalar text style properties =>
    (properties.anchor.map fun number => (number, .scalar text style properties)).toList
  | .sequence items properties =>
    (properties.anchor.map fun number => (number, .sequence items properties)).toList ++
      itemsAnchored items
  | .mapping entries properties =>
    (properties.anchor.map fun number => (number, .mapping entries properties)).toList ++
      entriesAnchored entries
  | .alias _ => []
def itemsAnchored : List Written → List (Nat × Written)
  | [] => []
  | item :: rest => item.anchored ++ itemsAnchored rest
def entriesAnchored : List (Written × Written) → List (Nat × Written)
  | [] => []
  | (key, value) :: rest => key.anchored ++ value.anchored ++ entriesAnchored rest
end

end Written

/-- The tokens that are left, and the numbers of the anchors met so far. -/
structure Reading where
  tokens : List Token
  anchors : List (List Char × Nat) := []

abbrev TokenReader := StateT Reading (Except Fault)

namespace TokenReader

def fail {α : Type} : TokenReader α := throw .malformed

/-- The next token, which is not taken. -/
def peek : TokenReader Token := do return (← get).tokens.headD .streamEnd

def skip : TokenReader Unit := modify fun reading => { reading with tokens := reading.tokens.tail }

/-- Numbers an anchor by how many names there are so far. A name that comes again takes a new number, which
the next new name may then share with it. -/
def openAnchor (name : List Char) : TokenReader Nat := do
  let reading ← get
  let number := reading.anchors.length
  set { reading with
    anchors := (name, number) :: reading.anchors.filter fun anchor => anchor.1 != name }
  return number

/-- The number of an anchor that has been met. -/
def aliased (name : List Char) : TokenReader Written := do
  match (← get).anchors.lookup name with
  | some number => return .alias number
  | none => fail

end TokenReader

open TokenReader

/-- The shorthands for tags. -/
abbrev Shorthands := List (List Char × List UInt8)

def defaultShorthands : Shorthands :=
  [(['!'], ['!'.toUInt8]), (['!', '!'], standardTags)]

def readTagText (shorthands : Shorthands) (handle : List Char) (suffix : List UInt8) : TokenReader Tag :=
  if handle.isEmpty then return .ofBytes suffix
  else
    match shorthands.lookup handle with
    | some expansion => return .ofBytes (expansion ++ suffix)
    | none => fail

def readAnchor : TokenReader (Option Nat) := do
  match ← peek with
  | .anchor name => skip; return some (← openAnchor name)
  | _ => return none

def readTag (shorthands : Shorthands) : TokenReader (Option Tag) := do
  match ← peek with
  | .tag handle suffix => skip; return some (← readTagText shorthands handle suffix)
  | _ => return none

/-- Reads the anchor and the tag in front of a node, in any order. -/
def readProperties (shorthands : Shorthands) : TokenReader Properties := do
  match ← readAnchor with
  | some number => return ⟨some number, ← readTag shorthands⟩
  | none =>
    match ← readTag shorthands with
    | some tag => return ⟨← readAnchor, some tag⟩
    | none => return {}

/-- Whether a node is left out before a token in a mapping without brackets. -/
def endsBlockNode : Token → Bool
  | .key | .value | .blockEnd => true
  | _ => false

def endsItem : Token → Bool
  | .entry | .blockEnd => true
  | _ => false

/-- Whether a node is left out before a token inside brackets. -/
def endsFlowNode (closing : Token) (token : Token) : Bool := token == .flowEntry || token == closing

mutual
/-- Reads a node. `block` allows blocks, and `indentless` a sequence that is not indented. -/
def readNode (shorthands : Shorthands) : (limit : Nat) → (block indentless : Bool) → TokenReader Written
  | 0, _, _ => fail
  | limit + 1, block, indentless => do
    match ← peek with
    | .alias name => skip; aliased name
    | _ =>
      let properties ← readProperties shorthands
      let left : TokenReader Written :=
        if properties == {} then fail else return .scalar "" .plain properties
      match ← peek with
      | .entry =>
        if indentless then return .sequence (← readIndentless shorthands limit) properties else left
      | .scalar text style => skip; return .scalar (String.ofList text) style properties
      | .flowSequenceStart =>
        skip; return .sequence (← readFlowItems shorthands limit true) properties
      | .flowMappingStart =>
        skip; return .mapping (← readFlowEntries shorthands limit true) properties
      | .sequenceStart =>
        if block then do skip; return .sequence (← readItems shorthands limit) properties else left
      | .mappingStart =>
        if block then do skip; return .mapping (← readEntries shorthands limit) properties else left
      | _ => left

/-- Reads a node unless it is left out. -/
def readNodeUnless (shorthands : Shorthands) :
    (limit : Nat) → (left : Token → Bool) → (block indentless : Bool) → TokenReader Written
  | 0, _, _, _ => fail
  | limit + 1, left, block, indentless => do
    if left (← peek) then return .empty else readNode shorthands limit block indentless

/-- Reads the items of a block sequence. -/
def readItems (shorthands : Shorthands) : (limit : Nat) → TokenReader (List Written)
  | 0 => fail
  | limit + 1 => do
    match ← peek with
    | .blockEnd => skip; return []
    | .entry =>
      skip
      let item ← readNodeUnless shorthands limit endsItem true false
      return item :: (← readItems shorthands limit)
    | _ => fail

/-- Reads the items of a sequence that is not indented. -/
def readIndentless (shorthands : Shorthands) : (limit : Nat) → TokenReader (List Written)
  | 0 => fail
  | limit + 1 => do
    match ← peek with
    | .entry =>
      skip
      let item ← readNodeUnless shorthands limit
        (fun token => endsItem token || endsBlockNode token) true false
      return item :: (← readIndentless shorthands limit)
    | _ => return []

/-- Reads the entries of a block mapping. -/
def readEntries (shorthands : Shorthands) : (limit : Nat) → TokenReader (List (Written × Written))
  | 0 => fail
  | limit + 1 => do
    match ← peek with
    | .blockEnd => skip; return []
    | .key =>
      skip
      let key ← readNodeUnless shorthands limit endsBlockNode true true
      let value ← readValueBehind shorthands limit endsBlockNode true
      return (key, value) :: (← readEntries shorthands limit)
    | _ => fail

/-- Reads the value behind its mark, or nothing without one. -/
def readValueBehind (shorthands : Shorthands) :
    (limit : Nat) → (left : Token → Bool) → (block : Bool) → TokenReader Written
  | 0, _, _ => fail
  | limit + 1, left, block => do
    match ← peek with
    | .value => skip; readNodeUnless shorthands limit left block block
    | _ => return .empty

/-- Reads the items of a sequence in brackets. An item with a key is a mapping with one entry. -/
def readFlowItems (shorthands : Shorthands) : (limit : Nat) → (first : Bool) → TokenReader (List Written)
  | 0, _ => fail
  | limit + 1, first => do
    let ends := endsFlowNode .flowSequenceEnd
    if !first && (← peek) == .flowEntry then skip
    else if !first && (← peek) != .flowSequenceEnd then fail
    match ← peek with
    | .flowSequenceEnd => skip; return []
    | .key =>
      skip
      let token ← peek
      -- a key that is left out takes the token behind it along
      let key ←
        if token == .value || ends token then do skip; pure Written.empty
        else readNode shorthands limit false false
      let value ← readValueBehind shorthands limit ends false
      return .mapping [(key, value)] {} :: (← readFlowItems shorthands limit false)
    | _ =>
      let item ← readNode shorthands limit false false
      return item :: (← readFlowItems shorthands limit false)

/-- Reads the entries of a mapping in brackets. Without a key mark an entry has an empty value. -/
def readFlowEntries (shorthands : Shorthands) :
    (limit : Nat) → (first : Bool) → TokenReader (List (Written × Written))
  | 0, _ => fail
  | limit + 1, first => do
    let ends := endsFlowNode .flowMappingEnd
    if !first && (← peek) == .flowEntry then skip
    else if !first && (← peek) != .flowMappingEnd then fail
    match ← peek with
    | .flowMappingEnd => skip; return []
    | .key =>
      skip
      let key ← readNodeUnless shorthands limit (fun token => token == .value || ends token) false false
      let value ← readValueBehind shorthands limit ends false
      return (key, value) :: (← readFlowEntries shorthands limit false)
    | _ =>
      let key ← readNode shorthands limit false false
      return (key, .empty) :: (← readFlowEntries shorthands limit false)
end

/-- Reads the directives in front of a document. -/
def readDirectives : (versioned : Bool) → (shorthands : Shorthands) → List Token →
    Except Fault (Shorthands × List Token)
  | versioned, shorthands, .version major minor :: rest =>
    if versioned || major != 1 || (minor != 1 && minor != 2) then .error .malformed
    else readDirectives true shorthands rest
  | versioned, shorthands, .shorthand handle expansion :: rest =>
    if (shorthands.lookup handle).isSome then .error .malformed
    else readDirectives versioned ((handle, expansion) :: shorthands) rest
  | _, shorthands, tokens => .ok (shorthands, tokens)

/-- The end of a text behind its document. -/
def endsText (tokens : List Token) : Bool :=
  match tokens.dropWhile (· == .documentEnd) with
  | [.streamEnd] => true
  | _ => false

/-- Reads the root of a document. An explicit one may be empty. -/
def readRoot (shorthands : Shorthands) (explicit : Bool) (tokens : List Token) :
    Except Fault Written := do
  let isEmpty := match tokens.head? with
    | some .documentStart | some .documentEnd | some .streamEnd | some (.version ..)
    | some (.shorthand ..) => true
    | _ => false
  -- from one token to the next there are at most three calls
  let limit := 3 * tokens.length + 3
  let (node, reading) ←
    if explicit && isEmpty then .ok (Written.empty, { tokens := tokens })
    else (readNode shorthands limit true false).run { tokens := tokens }
  if endsText reading.tokens then return node else .error .malformed

/-- The document of a text. -/
def Written.parse (text : String) : Except Fault Written := do
  let tokens ← Yaml.tokens text
  match tokens with
  | [.streamEnd] => return .empty
  | .documentStart :: rest => readRoot defaultShorthands true rest
  | .version .. :: _ | .shorthand .. :: _ =>
    -- the default shorthands may be redefined, so they come after those of the document
    let (shorthands, rest) ← readDirectives false [] tokens
    match rest with
    | .documentStart :: rest => readRoot (shorthands ++ defaultShorthands) true rest
    | _ => .error .malformed
  | _ => readRoot defaultShorthands false tokens

end LogPipeline.Yaml
