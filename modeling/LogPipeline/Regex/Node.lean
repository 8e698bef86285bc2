import LogPipeline.CharSet

/-!
# Regular expressions

An expression with its flags already resolved: what is matched is sets of characters, positions that
meet a condition, repetitions, groups, sequences and ordered choices.
-/

namespace LogPipeline.Regex

/-- A condition on the characters around a position. Word conditions come with the set of characters
that count as parts of a word. -/
inductive Look where
  | textStart
  | textEnd
  | lineStart
  | lineEnd
  /-- Lines end in a carriage return, a newline, or both in this order. -/
  | lineStartReturn
  | lineEndReturn
  | wordBoundary (word : CharSet)
  | notWordBoundary (word : CharSet)
  | wordStart (word : CharSet)
  | wordEnd (word : CharSet)
  | wordStartHalf (word : CharSet)
  | wordEndHalf (word : CharSet)
  deriving DecidableEq, Repr

inductive Node where
  | empty
  | chars (set : CharSet)
  | look (condition : Look)
  /-- At least `least` and at most `most` times in a row, as often as possible if `greedy`. -/
  | repeated (greedy : Bool) (least : Nat) (most : Option Nat) (body : Node)
  | group (index : Nat) (body : Node)
  | seq (first second : Node)
  /-- The first alternative is preferred. -/
  | alt (first second : Node)
  deriving DecidableEq, Repr

namespace Node

/-- A sequence of two, written as its parts from left to right. What is empty adds nothing. -/
def append : Node → Node → Node
  | .empty, b => b
  | .seq a b, c => .seq a (append b c)
  | a, .empty => a
  | a, b => .seq a b

def ofPieces (pieces : List Node) : Node := pieces.foldr append .empty

def set? : Node → Option CharSet
  | .chars set => some set
  | _ => none

/-- Whether a node is one certain character. -/
def isChar : Node → Bool
  | .chars set => set.single?.isSome
  | _ => false

/-- The parts of a sequence. -/
def pieces : Node → List Node
  | .empty => []
  | .seq a b => a :: pieces b
  | node => [node]

/-- The parts of a sequence, where certain characters in a row make one part. -/
def runs (node : Node) : List (List Node) := node.pieces.splitBy fun a b => a.isChar && b.isChar

/-- The alternatives of a choice. -/
def alternatives : Node → List Node
  | .alt a b => a :: alternatives b
  | node => [node]

/-- The class that a choice between classes, or between certain characters, comes to. -/
def joinedClass? (nodes : List Node) : Option Node :=
  if nodes.all isChar || nodes.all (fun node => !node.isChar) then
    (nodes.mapM set?).map fun sets => .chars (sets.foldl CharSet.union .empty)
  else none

/-- The longest common beginning of lists. -/
def commonStart : List (List (List Node)) → List (List Node)
  | [] => []
  | [parts] => parts
  | parts :: rest =>
    (parts.zip (commonStart rest)).takeWhile (fun pair => pair.1 == pair.2) |>.map Prod.fst

/-- The common beginning of sequences with several parts each, and what is left of each. -/
def splitStart? (nodes : List Node) : Option (Node × List Node) :=
  let sequences := nodes.map runs
  let start := commonStart sequences
  if start.isEmpty || sequences.any (fun parts => parts.length < 2) then none
  else
    some (ofPieces start.flatten,
      sequences.map fun parts => ofPieces (parts.drop start.length).flatten)

/-- A choice that goes as many ways as there are nodes. -/
def ofWays : List Node → Node
  | [] => .empty
  | [node] => node
  | node :: rest => .alt node (ofWays rest)

/-- A choice, of which a common beginning is taken out first. What is left has none, so that two rounds are
enough. -/
def ofAlternativesWithin : (rounds : Nat) → List Node → Node
  | 0, nodes => ofWays nodes
  | rounds + 1, nodes =>
    match nodes.flatMap alternatives with
    | [] => .empty
    | [node] => node
    | nodes =>
      match joinedClass? nodes with
      | some node => node
      | none =>
        match splitStart? nodes with
        | some (start, rest) => start.append (ofAlternativesWithin rounds rest)
        | none => ofWays nodes

def ofAlternatives (nodes : List Node) : Node := ofAlternativesWithin 2 nodes

/-- Whether no match can have a character in it. -/
def onlyEmpty : Node → Bool
  | .empty | .look _ => true
  | .chars _ => false
  | .repeated _ _ most body => most == some 0 || onlyEmpty body
  | .group _ body => onlyEmpty body
  | .seq a b => onlyEmpty a && onlyEmpty b
  | .alt a b => onlyEmpty a && onlyEmpty b

/-- A lower bound on the length of a match; none for what is certain not to match. -/
def leastLength? : Node → Option Nat
  | .empty | .look _ => some 0
  | .chars set => if set.isEmpty then none else some 1
  | .repeated _ least _ body => (leastLength? body).map (least * ·)
  | .group _ body => leastLength? body
  | .seq a b => do return (← leastLength? a) + (← leastLength? b)
  | .alt a b => do return min (← leastLength? a) (← leastLength? b)

/-- Whether it is certain that every match has a character in it. -/
def neverEmpty (node : Node) : Bool := node.leastLength?.any (0 < ·)

/-- A repetition. Of what has no characters one round says as much as many; a repetition that is
never entered leaves nothing of its body. -/
def repetition (greedy : Bool) (least : Nat) (most : Option Nat) (body : Node) : Node :=
  let (least, most) :=
    if onlyEmpty body then (min least 1, some (min (most.getD 1) 1)) else (least, most)
  if most = some 0 then .empty
  else if least = 1 ∧ most = some 1 then body
  else .repeated greedy least most body

/-- The groups in the expression, in the order in which they open. -/
def groups : Node → List Nat
  | .empty | .chars _ | .look _ => []
  | .repeated _ _ _ body => groups body
  | .group index body => index :: groups body
  | .seq a b => groups a ++ groups b
  | .alt a b => groups a ++ groups b

end Node

namespace Look

/-- Whether the condition holds between the characters `before` and `after`. -/
def holds (condition : Look) (before after : Option Char) : Bool :=
  let isWord (word : CharSet) (c : Option Char) : Bool := c.any word.contains
  match condition with
  | .textStart => before.isNone
  | .textEnd => after.isNone
  | .lineStart => before.isNone || before == some '\n'
  | .lineEnd => after.isNone || after == some '\n'
  | .lineStartReturn =>
    before.isNone || before == some '\n' || (before == some '\r' && after != some '\n')
  | .lineEndReturn =>
    after.isNone || after == some '\r' || (after == some '\n' && before != some '\r')
  | .wordBoundary word => isWord word before != isWord word after
  | .notWordBoundary word => isWord word before == isWord word after
  | .wordStart word => !isWord word before && isWord word after
  | .wordEnd word => isWord word before && !isWord word after
  | .wordStartHalf word => !isWord word before
  | .wordEndHalf word => !isWord word after

end Look

end LogPipeline.Regex
