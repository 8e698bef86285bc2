import LogPipeline.Input.Basic
import LogPipeline.Pipeline.Basic

/-!
# Runs

A run drives an input to its end, or to a request to stop, and then closes the pipeline: first the filters, so
that all events sent before are flushed, then the outputs. The reader of the input, the workers of both
phases and the run itself move one at a time and in any order; a schedule is a list of moves, of which
those that cannot be made are passed over.
-/

namespace LogPipeline

/-- How far a run has come. `read` is what waiting for the input has given, if it was waited for. -/
inductive Phase where
  | reading
  | closingFilters (read : Option (Except LifecycleError Nat))
  | closingOutputs (read : Option (Except LifecycleError Nat)) (filters : Except LifecycleError Stats)
  | over (result : Except LifecycleError PipelineStats)

structure Run where
  pipeline : Pipeline
  input : Input
  phase : Phase
  /-- Whether the run was asked to stop. -/
  requested : Bool := false

inductive Move where
  /-- The reader does its next thing. -/
  | read
  /-- A worker of the filters does its next thing. -/
  | filter (worker : Nat)
  | output (worker : Nat)
  /-- Somebody asks the run to stop. -/
  | request
  /-- The run notices the request and turns to closing. -/
  | interrupt
  /-- The run notices that the input has finished and turns to closing. -/
  | finish
  /-- The run notices that all workers of the phase that is closing have gone. -/
  | proceed
  deriving DecidableEq, Repr

namespace Run

/-- Turns to closing the filters, or to the outputs if that cannot be done. -/
def beginClosing (run : Run) (read : Option (Except LifecycleError Nat)) : Run :=
  match run.pipeline.beginCloseFilters with
  | .ok pipeline => { run with pipeline := pipeline, phase := .closingFilters read }
  | .error e =>
    match run.pipeline.beginCloseOutputs with
    | .ok pipeline => { run with pipeline := pipeline, phase := .closingOutputs read (.error e) }
    | .error _ => { run with phase := .over (.error e) }

/-- Begins a run: starts the pipeline, and then the input. If that fails the pipeline is closed. -/
def begin (pipeline : Pipeline) (input : Input) : Run :=
  match pipeline.start with
  | (pipeline, .error e) => { pipeline := pipeline, input := input, phase := .over (.error e) }
  | (pipeline, .ok ()) =>
    match input.start pipeline.inbound with
    | .ok (input, inbound) =>
      { pipeline := { pipeline with inbound := inbound }, input := input, phase := .reading }
    | .error e =>
      ({ pipeline := pipeline, input := input, phase := .reading } : Run).beginClosing (some (.error e))

/-- How a run ends: an error of closing counts before an error of the input. -/
def result (read : Option (Except LifecycleError Nat)) (filters outputs : Except LifecycleError Stats) :
    Except LifecycleError PipelineStats := do
  let stats ← Pipeline.verdict filters outputs
  match read with
  | some (.error e) => .error e
  | _ => return stats

/-- Notices that all workers of the phase that is closing have gone. -/
def proceed? (run : Run) : Option Run :=
  match run.phase with
  | .closingFilters read =>
    if run.pipeline.filters.isDeserted then
      let (pipeline, filters) := run.pipeline.endCloseFilters
      some (match pipeline.beginCloseOutputs with
        | .ok pipeline => { run with pipeline := pipeline, phase := .closingOutputs read filters }
        | .error e =>
          { run with pipeline := pipeline, phase := .over (result read filters (.error e)) })
    else none
  | .closingOutputs read filters =>
    if run.pipeline.outputs.isDeserted then
      let (pipeline, outputs) := run.pipeline.endCloseOutputs
      some { run with pipeline := pipeline, phase := .over (result read filters outputs) }
    else none
  | _ => none

def isReading (run : Run) : Bool :=
  match run.phase with
  | .reading => true
  | _ => false

/-- A move, if it can be made. -/
def move? (run : Run) : Move → Option Run
  | .read =>
    (run.input.step run.pipeline.inbound).map fun (input, inbound) =>
      { run with input := input, pipeline := { run.pipeline with inbound := inbound } }
  | .filter worker =>
    (run.pipeline.moveFilter? worker).map fun pipeline => { run with pipeline := pipeline }
  | .output worker =>
    (run.pipeline.moveOutput? worker).map fun pipeline => { run with pipeline := pipeline }
  | .request => some { run with requested := true }
  | .interrupt =>
    if run.isReading && run.requested then
      some ({ run with input := run.input.stop }.beginClosing none)
    else none
  | .finish =>
    if run.isReading && run.input.isFinished then
      let (input, read) := run.input.wait
      some ({ run with input := input }.beginClosing (some read))
    else none
  | .proceed => run.proceed?

/-- A move, or nothing if it cannot be made. -/
def move (run : Run) (move : Move) : Run := (run.move? move).getD run

/-- The moves of a schedule. -/
def follow (run : Run) (schedule : List Move) : Run := schedule.foldl Run.move run

/-- The outcome, once the run is over. -/
def outcome? (run : Run) : Option (Except LifecycleError PipelineStats) :=
  match run.phase with
  | .over result => some result
  | _ => none

/-- The moves that bring a run to its end, in the order in which they are tried. -/
def moves (run : Run) : List Move :=
  (List.range run.pipeline.outputs.workers.length).map .output ++
    (List.range run.pipeline.filters.workers.length).map .filter ++
    [.read, .interrupt, .finish, .proceed]

/-- Makes the first move that can be made. -/
def moveAny? (run : Run) : Option Run := run.moves.findSome? run.move?

/-- An upper bound on the moves that can still be made. -/
def remaining (run : Run) : Nat :=
  run.pipeline.remaining +
    run.input.pending.length *
      (run.pipeline.filters.chain.size + run.pipeline.outputs.chain.size + 7) + 16

def settleWithin : (limit : Nat) → Run → Run
  | 0, run => run
  | limit + 1, run =>
    match run.moveAny? with
    | some run => settleWithin limit run
    | none => run

/-- Goes on until no move can be made. -/
def settle (run : Run) : Run := settleWithin run.remaining run

end Run

namespace Pipeline

/-- Runs a pipeline on an input to the end of the input. -/
def run (pipeline : Pipeline) (input : Input) : Run := (Run.begin pipeline input).settle

/-- Runs a pipeline on an input, and asks to stop when nothing else happens any more. -/
def runInterrupted (pipeline : Pipeline) (input : Input) : Run :=
  let quiet := pipeline.run input
  match quiet.outcome? with
  | some _ => quiet
  | none => (quiet.move .request).settle

end Pipeline

end LogPipeline
