import LogPipeline.CharSet
import LogPipeline.Unicode.FoldingData

/-!
# Case folding

Simple case folding divides the characters into classes; a set is folded by adding every member of
each class that it meets.
-/

namespace LogPipeline.Unicode

/-- The members of a folding class after its first, from the distances between them. -/
def foldingMembers (last : Nat) : Nat → List Nat → List Nat × List Nat
  | count + 1, gap :: rest =>
    let (members, left) := foldingMembers (last + gap) count rest
    ((last + gap) :: members, left)
  | _, rest => ([], rest)

/-- Reads as many classes as `limit` allows; each takes at least one number. -/
def foldingClassesFrom (first : Nat) : (limit : Nat) → List Nat → List (List Nat)
  | limit + 1, gap :: size :: rest =>
    let (members, left) := foldingMembers (first + gap) (size - 1) rest
    ((first + gap) :: members) :: foldingClassesFrom (first + gap) limit left
  | _, _ => []

/-- The classes with more than one member. -/
def foldingClasses : List (List Nat) :=
  let table := Packed.numbers foldingData
  foldingClassesFrom 0 table.length table

/-- Whether simple case folding identifies the character with another one. -/
def hasOtherCase (c : Char) : Bool := foldingClasses.any fun members => members.contains c.toNat

end LogPipeline.Unicode

namespace LogPipeline.CharSet

/-- Adds every character that differs from a member in case only. -/
def foldCase (s : CharSet) : CharSet :=
  Unicode.foldingClasses.foldl (fun kept members =>
    if members.any (covers s.ranges) then
      members.foldl (fun kept n => ⟨insertRange n n kept.ranges⟩) kept
    else kept) s

/-- Adds the other case of every ASCII letter. -/
def foldAsciiCase (s : CharSet) : CharSet :=
  (List.range 26).foldl (fun kept i =>
    let kept := if covers s.ranges (65 + i) then ⟨insertRange (97 + i) (97 + i) kept.ranges⟩ else kept
    if covers s.ranges (97 + i) then ⟨insertRange (65 + i) (65 + i) kept.ranges⟩ else kept) s

end LogPipeline.CharSet
