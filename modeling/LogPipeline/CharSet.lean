import LogPipeline.Packed

/-!
# Sets of characters

A set is a list of ranges of code points, in order and apart from each other. Every operation keeps
that order; membership stops at the first range that begins above the character.
-/

namespace LogPipeline

/-- A set of code points, as ranges with both ends included. -/
structure CharSet where
  ranges : List (Nat × Nat)
  deriving DecidableEq, Repr

namespace CharSet

def empty : CharSet := ⟨[]⟩

def range (low high : Nat) : CharSet := ⟨[(low, high)]⟩

def single (c : Char) : CharSet := range c.toNat c.toNat

/-- Every character: all code points but the surrogates. -/
def all : CharSet := ⟨[(0, 0xD7FF), (0xE000, 0x10FFFF)]⟩

def ofPacked (text : String) : CharSet := ⟨Packed.ranges text⟩

/-- Whether an ordered list of ranges has the code point `n`. -/
def covers : List (Nat × Nat) → Nat → Bool
  | [], _ => false
  | (low, high) :: rest, n => if n < low then false else if n ≤ high then true else covers rest n

def contains (s : CharSet) (c : Char) : Bool := covers s.ranges c.toNat

def isEmpty (s : CharSet) : Bool := s.ranges.isEmpty

/-- Puts a range in its place, joined with those it meets or touches. -/
def insertRange (low high : Nat) : List (Nat × Nat) → List (Nat × Nat)
  | [] => [(low, high)]
  | (a, b) :: rest =>
    if high + 1 < a then (low, high) :: (a, b) :: rest
    else if b + 1 < low then (a, b) :: insertRange low high rest
    else insertRange (min low a) (max high b) rest

def union (s t : CharSet) : CharSet :=
  if s.isEmpty then t
  else if t.isEmpty then s
  else ⟨t.ranges.foldl (fun kept r => insertRange r.1 r.2 kept) s.ranges⟩

/-- What an ordered list of ranges leaves of the code points from `start` to `stop`. -/
def gaps (start stop : Nat) : List (Nat × Nat) → List (Nat × Nat)
  | [] => if start ≤ stop then [(start, stop)] else []
  | (low, high) :: rest =>
    if start < low then (start, low - 1) :: gaps (high + 1) stop rest else gaps (high + 1) stop rest

/-- The parts of a range on either side of the surrogates. -/
def outsideSurrogates (r : Nat × Nat) : List (Nat × Nat) :=
  (if r.1 ≤ 0xD7FF then [(r.1, min r.2 0xD7FF)] else []) ++
    (if 0xE000 ≤ r.2 then [(max r.1 0xE000, r.2)] else [])

/-- All characters not in the set. -/
def complement (s : CharSet) : CharSet :=
  ⟨(gaps 0 0x10FFFF s.ranges).flatMap outsideSurrogates⟩

/-- All code points below 256 not in the set. -/
def byteComplement (s : CharSet) : CharSet := ⟨gaps 0 255 s.ranges⟩

def inter (s t : CharSet) : CharSet := (s.complement.union t.complement).complement

def diff (s t : CharSet) : CharSet := s.inter t.complement

def symmDiff (s t : CharSet) : CharSet := (s.union t).diff (s.inter t)

/-- Whether all members are below 128. -/
def isAscii (s : CharSet) : Bool := s.ranges.all fun r => r.2 < 128

/-- The only member, if there is exactly one. -/
def single? (s : CharSet) : Option Nat :=
  match s.ranges with
  | [(low, high)] => if low = high then some low else none
  | _ => none

def ofRanges (rs : List (Char × Char)) : CharSet :=
  rs.foldl (fun s r => s.union (range r.1.toNat r.2.toNat)) empty

end CharSet

end LogPipeline
