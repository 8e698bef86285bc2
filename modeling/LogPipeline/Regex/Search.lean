import LogPipeline.Regex.Program

/-!
# Searching

A search follows the program from one choice to the next, the preferred way first, and comes back to
the last choice where it fails. No instruction is tried twice at one position: a second try would fail
like the first, so the number of steps is bounded by the sizes of program and text.
-/

namespace LogPipeline.Regex

/-- A place in the program and the text, with the positions noted on the way, last first. -/
structure Thread where
  state : Nat
  position : Nat
  saves : List (Nat × Nat)
  deriving Repr

/-- The threads that go on from an instruction, the preferred one first; `none` where it accepts. -/
def Instr.next (instr : Instr) (text : Array Char) (thread : Thread) : Option (List Thread) :=
  match instr with
  | .accept => none
  | .chars set next =>
    some (match text[thread.position]? with
      | some c => if set.contains c then [⟨next, thread.position + 1, thread.saves⟩] else []
      | none => [])
  | .look condition next =>
    let before := if thread.position = 0 then none else text[thread.position - 1]?
    some (if condition.holds before text[thread.position]? then
      [⟨next, thread.position, thread.saves⟩] else [])
  | .split first second =>
    some [⟨first, thread.position, thread.saves⟩, ⟨second, thread.position, thread.saves⟩]
  | .save slot next =>
    some [⟨next, thread.position, (slot, thread.position) :: thread.saves⟩]

/-- The number of the pair of an instruction and a position. -/
def Thread.place (thread : Thread) (text : Array Char) : Nat :=
  thread.state * (text.size + 1) + thread.position

/-- Runs the threads in order until one accepts. `seen` marks the pairs of an instruction and a position
that have been tried. -/
def explore (program : Program) (text : Array Char) :
    (fuel : Nat) → (seen : Array Bool) → List Thread → Option (List (Nat × Nat))
  | 0, _, _ | _, _, [] => none
  | fuel + 1, seen, thread :: waiting =>
    if seen.getD (thread.place text) true then explore program text fuel seen waiting
    else
      let seen := seen.setIfInBounds (thread.place text) true
      match program[thread.state]? with
      | none => explore program text fuel seen waiting
      | some instr =>
        match instr.next text thread with
        | none => some thread.saves
        | some threads => explore program text fuel seen (threads ++ waiting)

/-- Searches for the leftmost match; the result is the positions noted on its way, last first. Each
new pair of an instruction and a position adds at most two threads. -/
def search (start : Nat) (program : Program) (text : Array Char) : Option (List (Nat × Nat)) :=
  let places := program.size * (text.size + 1)
  let threads := (List.range (text.size + 1)).map fun position => ⟨start, position, []⟩
  explore program text (2 * places + threads.length + 1) (Array.replicate places false) threads

/-- The text between the last opening and the last closing of a group, if it took part. -/
def groupText? (text : Array Char) (saves : List (Nat × Nat)) (index : Nat) : Option String :=
  match saves.lookup (2 * index), saves.lookup (2 * index + 1) with
  | some first, some last => some (String.ofList (text.extract first last).toList)
  | _, _ => none

end LogPipeline.Regex
