import LogPipeline.Event.Basic
import LogPipeline.Text.Quoted

/-!
# Stages

A stage is one step on the way of an event. It passes the event on, changed or not, or discards it; an
output writes a text besides. A stage that breaks down takes its worker with it. After all events the stages of
a chain are finished one after the other, whether or not that succeeds for each.
-/

namespace LogPipeline

/-- What a stage decides about an event. -/
inductive Flow where
  | continue (event : Event)
  /-- The event is discarded. -/
  | drop
  deriving Repr, Inhabited

/-- Why an event could not be processed. -/
inductive ProcessingError where
  | fieldMissing (field : String)
  | noMatchingLayout (field value : String)
  | write (output cause : String)
  deriving DecidableEq, Repr

def ProcessingError.message : ProcessingError → String
  | .fieldMissing field => "Field '" ++ field ++ "' is missing"
  | .noMatchingLayout field value =>
    "No layout matched value '" ++ value ++ "' of field '" ++ field ++ "'"
  | .write output cause => "Write error in output '" ++ output ++ "': " ++ cause

/-- What happens when a stage is handed an event. -/
inductive Effect where
  | flow (flow : Flow) (written : String)
  /-- The stage breaks down. -/
  | panic
  deriving Repr, Inhabited

def Flow.effect (flow : Flow) : Effect := .flow flow ""

structure Stage where
  name : String
  process : Event → Effect
  /-- How it goes when the stage is finished, which happens once, after all events. -/
  finish : Except ProcessingError Unit := .ok ()

/-- A call on a stage, which is known by its position in the chain. -/
inductive Call where
  | processed (stage : Nat) (written : String)
  | finished (stage : Nat)
  deriving DecidableEq, Repr

/-- How an event comes out of a list of stages. -/
inductive Passage where
  | passed (event : Event)
  | dropped
  | panicked
  deriving Repr

/-- What finishing stages came to. -/
structure Finishing where
  /-- The calls on the stages, in order. -/
  calls : List Call := []
  /-- How many stages could not be finished. -/
  failures : Nat := 0

/-- The stages of a phase, in the order in which events go through them. -/
structure Chain where
  stages : List Stage

namespace Chain

def empty : Chain := ⟨[]⟩

def size (chain : Chain) : Nat := chain.stages.length

def names (chain : Chain) : List String := chain.stages.map Stage.name

def describe (chain : Chain) : String :=
  "Chain \x7b stages: " ++ Text.quotedList chain.names ++ " \x7d"

/-- The way of an event through stages, up to the one that does not pass it on. -/
def passThrough : List Stage → Event → Passage
  | [], event => .passed event
  | stage :: rest, event =>
    match stage.process event with
    | .flow (.continue event) _ => passThrough rest event
    | .flow .drop _ => .dropped
    | .panic => .panicked

def pass (chain : Chain) (event : Event) : Passage := passThrough chain.stages event

/-- Finishes stages, the first of which stands at a position. One that cannot be finished is counted, and the
next one has its turn all the same. -/
def finishFrom (position : Nat) : List Stage → Finishing
  | [] => {}
  | stage :: rest =>
    let finishing := finishFrom (position + 1) rest
    { calls := .finished position :: finishing.calls
      failures :=
        match stage.finish with
        | .ok () => finishing.failures
        | .error _ => finishing.failures + 1 }

theorem finishFrom_eq (position : Nat) (stages : List Stage) :
    finishFrom position stages =
      ⟨(List.range' position stages.length).map .finished,
        stages.countP fun stage => !stage.finish.toBool⟩ := by
  induction stages generalizing position with
  | nil => rfl
  | cons stage rest ih =>
    cases h : stage.finish with
    | ok => simp [finishFrom, ih, h, List.range'_succ, Except.toBool]
    | error => simp [finishFrom, ih, h, List.range'_succ, Except.toBool]

def finish (chain : Chain) : Finishing := finishFrom 0 chain.stages

/-- Every stage is called once, in order, however many of them cannot be finished. -/
theorem finish_eq (chain : Chain) :
    chain.finish =
      ⟨(List.range chain.size).map .finished, chain.stages.countP fun stage => !stage.finish.toBool⟩ := by
  rw [finish, finishFrom_eq, size, List.range_eq_range']

/-- How many stages cannot be finished. -/
def finishFailures (chain : Chain) : Nat := chain.finish.failures

end Chain

end LogPipeline
