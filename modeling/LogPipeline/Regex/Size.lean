import LogPipeline.Regex.Code
import LogPipeline.Regex.Node
import Std.Data.HashMap

/-!
# How large an expression is

The memory that an expression takes as an automaton over the bytes of a text, which bounds what is accepted.
There are two automata, one of which reads backward. A repetition is built once for each of its rounds. In
a class, states that would be equal are built once, as far as earlier ones are remembered: every state is
noted at a place that follows from its number and ways, where it takes the place of another one.
-/

namespace LogPipeline.Regex

/-- The largest automaton accepted, in bytes. -/
def sizeLimit : Nat := 10 * 1024 * 1024

/-- The bytes that a state takes, and each way out of it for a range of bytes, or for no byte. -/
def stateSize : Nat := 32
def wayBytes : Nat := 8
def choiceBytes : Nat := 4

/-- The states built so far, and the bytes that ways take. -/
structure Extent where
  states : Nat := 0
  ways : Nat := 0
  deriving DecidableEq, Repr

/-- An extent, unless it is too large. -/
def Extent.checked (extent : Extent) : Option Extent :=
  if extent.states * stateSize + extent.ways ≤ sizeLimit then some extent else none

/-- Adds a state with ways that take a number of bytes. -/
def Extent.add (extent : Extent) (ways : Nat) : Option Extent :=
  Extent.checked ⟨extent.states + 1, extent.ways + ways⟩

def Extent.widen (extent : Extent) (ways : Nat) : Option Extent :=
  Extent.checked { extent with ways := extent.ways + ways }

/-- Does something a number of times. -/
def times {α : Type} (step : α → Option α) : (count : Nat) → α → Option α
  | 0, a => some a
  | count + 1, a =>
    match step a with
    | some a => times step count a
    | none => none

/-! ## Classes -/

/-- Mixes numbers into one of 64 bits. -/
def mixed (numbers : List Nat) : UInt64 :=
  numbers.foldl (fun hash n => (hash ^^^ n.toUInt64) * 1099511628211) 14695981039346656037

/-- States that are remembered, with what is known of each, by their places. -/
abbrev Memory := Std.HashMap Nat (List Nat × Nat)

/-- The state that is remembered for a description, or a new one. -/
def recallOr (places : Nat) (description : List Nat) (ways : Nat) (extent : Extent) (memory : Memory) :
    Option (Nat × Extent × Memory) :=
  let place := (mixed description).toNat % places
  let remembered := memory[place]?.filter fun entry => entry.1 == description
  match remembered with
  | some (_, state) => some (state, extent, memory)
  | none =>
    (extent.add ways).map fun larger =>
      (extent.states, larger, memory.insert place (description, extent.states))

def forwardPlaces : Nat := 10000
def backwardPlaces : Nat := 1000

/-- Builds the states for sequences of at most `limit` bytes that lead to a target. A state is described by its
ways. -/
def buildForward (target : Nat) :
    (limit : Nat) → List (List (Nat × Nat)) → Extent → Memory → Option (Nat × Extent × Memory)
  | 0, _, extent, memory => some (target, extent, memory)
  | limit + 1, sequences, extent, memory => do
    let (description, extent, memory) ← (byHead sequences).foldlM
      (fun (description, extent, memory) ((low, high), tails) => do
        let (next, extent, memory) ←
          if tails == [[]] then some (target, extent, memory)
          else buildForward target limit tails extent memory
        return (description ++ [low, high, next], extent, memory))
      (([] : List Nat), extent, memory)
    recallOr forwardPlaces description (description.length / 3 * wayBytes) extent memory

/-- Builds the states that read a sequence from its end. A state is described by where it leads and by its
bytes. -/
def buildBackward (sequence : List (Nat × Nat)) (target : Nat) (extent : Extent) (memory : Memory) :
    Option (Extent × Memory) := do
  let (_, extent, memory) ← sequence.foldlM
    (fun (target, extent, memory) (low, high) =>
      recallOr backwardPlaces [target, low, high] 0 extent memory) (target, extent, memory)
  return (extent, memory)

/-- Builds a class of several characters. -/
def buildClass (backward : Bool) (set : CharSet) (extent : Extent) : Option Extent := do
  if set.isAscii then (← extent.add 0).add (set.ranges.length * wayBytes)
  else if backward then
    let target := extent.states + 1
    let extent ← (← extent.add 0).add 0
    let (extent, _) ← (codes set).foldlM (fun (extent, memory) sequence => do
      let (extent, memory) ← buildBackward sequence target extent memory
      return (← extent.widen choiceBytes, memory)) (extent, ({} : Memory))
    return extent
  else
    let target := extent.states
    let extent ← extent.add 0
    let (_, extent, _) ← buildForward target 4 (codes set) extent {}
    return extent

/-! ## Choices between certain texts -/

/-- Divides texts by their first bytes. Those with a byte stay in order. -/
def byFirst : List (List Nat) → List (Nat × List (List Nat))
  | [] => []
  | [] :: rest => byFirst rest
  | (byte :: tail) :: rest =>
    let groups := byFirst rest
    (byte, tail :: (groups.lookup byte).getD []) :: groups.filter fun group => group.1 ≠ byte

/-- The stretches of a list of texts between those that are empty. -/
def stretches : List (List Nat) → List (List (List Nat))
  | [] => [[]]
  | [] :: rest => [] :: stretches rest
  | text :: rest =>
    match stretches rest with
    | stretch :: more => (text :: stretch) :: more
    | [] => [[text]]

/-- Stretches, where several ends of texts with nothing before them count as one. -/
def mergedStretches (texts : List (List Nat)) : List (List (List Nat)) :=
  match stretches texts with
  | [] :: rest => [] :: rest.dropWhile List.isEmpty
  | all => all

/-- Builds the states for a choice between texts of at most `limit` bytes. A state divides the texts by their
next bytes, stretch by stretch, so that the order of the texts is kept. -/
def buildTexts : (limit : Nat) → List (List Nat) → Extent → Option Extent
  | 0, _, extent => some extent
  | limit + 1, texts, extent => do
    let parts := (mergedStretches texts).map byFirst
    let extent ← parts.flatten.foldlM (fun extent group =>
      if group.2.all List.isEmpty then some extent else buildTexts limit group.2 extent) extent
    let filled := parts.filter fun part => !part.isEmpty
    let extent ← filled.foldlM (fun extent part =>
      extent.add (if part.length = 1 then 0 else part.length * wayBytes)) extent
    extent.add ((filled.length + parts.length - 1) * choiceBytes)

namespace Node

/-- The bytes of a node that is one certain text. -/
def text? : Node → Option (List Nat)
  | .chars set => set.single?.map codeOf
  | .seq a b => do return (← text? a) ++ (← text? b)
  | _ => none

/-- Where in a choice a node stands. -/
inductive Place where
  | alone
  | second
  | later
  deriving DecidableEq, Repr

/-- What a node adds to the choice that it stands in. The second alternative makes it a choice. -/
def Place.finish (place : Place) (extent : Extent) : Option Extent :=
  match place with
  | .alone => some extent
  | .second => do (← extent.add (2 * choiceBytes)).add 0
  | .later => extent.widen choiceBytes

/-- Builds the automaton of a node. -/
def build (backward : Bool) : Node → Place → Extent → Option Extent
  | .empty, place, extent | .look _, place, extent => do place.finish (← extent.add 0)
  | .chars set, place, extent => do
    place.finish (← match set.single? with
      | some n => times (·.add 0) (byteLength n) extent
      | none => buildClass backward set extent)
  | .group _ body, place, extent => do
    place.finish (←
      if backward then build backward body .alone extent
      else do (← build backward body .alone (← extent.add 0)).add 0)
  | .seq a b, place, extent => do
    place.finish (←
      if backward then do build backward a .alone (← build backward b .alone extent)
      else do build backward b .alone (← build backward a .alone extent))
  | .alt a b, place, extent => do
    match place with
    | .alone =>
      match (alternatives (.alt a b)).mapM text? with
      | some texts =>
        let texts := if backward then texts.map List.reverse else texts
        buildTexts (texts.foldl (fun count text => count + text.length) 0) texts (← extent.add 0)
      | none => build backward b .second (← build backward a .alone extent)
    | place => build backward b .later (← place.finish (← build backward a .alone extent))
  | .repeated _ least most body, place, extent => do
    let neverEmptyBody := body.neverEmpty
    let body := build backward body .alone
    let choice (extent : Extent) : Option Extent := extent.add (2 * choiceBytes)
    place.finish (← match least, most with
      | 0, none => do
        if neverEmptyBody then body (← choice extent)
        else (← choice (← choice (← body extent))).add 0
      | 0, some 1 => do (← body (← choice extent)).add 0
      | least, none => do choice (← times body least extent)
      | least, some most => do
        let extent ← if least = 0 then extent.add 0 else times body least extent
        if least = most then some extent
        else times (fun extent => do body (← choice extent)) (most - least) (← extent.add 0))

/-- Whether the automata are small enough, with a start, the group of the whole match, and an end. -/
def fits (node : Node) : Bool :=
  let forward := do
    let extent ← node.build false .alone (← (← ({} : Extent).add 0).add 0)
    (← extent.add 0).add 0
  let backward := do (← node.build true .alone (← ({} : Extent).add 0)).add 0
  forward.isSome && backward.isSome

end Node

end LogPipeline.Regex
