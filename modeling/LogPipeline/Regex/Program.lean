import LogPipeline.Regex.Node

/-!
# Matching programs

An expression becomes a graph of instructions. It is built from its end: the code of a node is given
the instruction that follows it, and returns the one that begins it, so nothing is patched but the
turning point of a loop.
-/

namespace LogPipeline.Regex

inductive Instr where
  | accept
  | chars (set : CharSet) (next : Nat)
  | look (condition : Look) (next : Nat)
  /-- Tries `first`, and `second` where that fails. -/
  | split (first second : Nat)
  /-- Notes the position in a slot: twice the index of a group where it opens, one more where it
  closes. -/
  | save (slot next : Nat)
  deriving DecidableEq, Repr

abbrev Program := Array Instr

namespace Program

/-- Adds an instruction; the first part of the result is its place. -/
def add (program : Program) (instr : Instr) : Nat × Program :=
  (program.size, program.push instr)

/-- Tries the body before what follows it, or after. -/
def choice (greedy : Bool) (body next : Nat) : Instr :=
  if greedy then .split body next else .split next body

/-- `count` optional rounds, each of which is entered only after the one before it. -/
def optional (emit : Nat → Program → Nat × Program) (greedy : Bool) (next : Nat) :
    (count : Nat) → Program → Nat × Program
  | 0, program => (next, program)
  | count + 1, program =>
    let (tail, program) := optional emit greedy next count program
    let (body, program) := emit tail program
    program.add (choice greedy body next)

/-- `count` rounds in a row. -/
def times (emit : Nat → Program → Nat × Program) (next : Nat) :
    (count : Nat) → Program → Nat × Program
  | 0, program => (next, program)
  | count + 1, program =>
    let (tail, program) := times emit next count program
    emit tail program

/-- A body followed by the choice to run it again. The choice is returned too. -/
def loop (emit : Nat → Program → Nat × Program) (greedy : Bool) (next : Nat) (program : Program) :
    (Nat × Nat) × Program :=
  let (turn, program) := program.add .accept
  let (body, program) := emit turn program
  ((body, turn), program.setIfInBounds turn (choice greedy body next))

/-- Adds the code of a node, to be followed by the instruction at `next`. -/
def emit : Node → (next : Nat) → Program → Nat × Program
  | .empty, next, program => (next, program)
  | .chars set, next, program => program.add (.chars set next)
  | .look condition, next, program => program.add (.look condition next)
  | .group index body, next, program =>
    let (close, program) := program.add (.save (2 * index + 1) next)
    let (inner, program) := emit body close program
    program.add (.save (2 * index) inner)
  | .seq a b, next, program =>
    let (second, program) := emit b next program
    emit a second program
  | .alt a b, next, program =>
    let (second, program) := emit b next program
    let (first, program) := emit a next program
    program.add (.split first second)
  | .repeated greedy least (some most) body, next, program =>
    let (rest, program) := optional (emit body) greedy next (most - least) program
    times (emit body) rest least program
  | .repeated greedy 0 none body, next, program =>
    let ((first, turn), program) := loop (emit body) greedy next program
    -- a body that can be empty is entered by a choice of its own, which keeps the order of preference
    if body.neverEmpty then (turn, program) else program.add (choice greedy first next)
  | .repeated greedy (least + 1) none body, next, program =>
    let ((first, _), program) := loop (emit body) greedy next program
    times (emit body) first least program

end Program

/-- The program of an expression. It accepts at instruction 0 and begins at the instruction returned
with it. -/
def program (node : Node) : Nat × Program :=
  Program.emit node 0 #[.accept]

end LogPipeline.Regex
