import LogPipeline.Config.Pipeline
import LogPipeline.Pipeline.Controller

/-!
# Pipelines

Two phases with a channel between them: the filters take events from the inputs, the outputs take them from
the filters. The outputs are started first and closed last. Closing goes on to the outputs even if
closing the filters failed, and the first error counts.
-/

namespace LogPipeline

structure PipelineStats where
  filters : Stats
  outputs : Stats
  deriving DecidableEq, Repr

structure Pipeline where
  filters : Controller
  outputs : Controller
  /-- The capacity of both channels. -/
  capacity : Nat
  /-- The channel from the inputs to the filters. -/
  inbound : Channel := {}
  /-- The channel from the filters to the outputs. -/
  outbound : Channel := {}

namespace Pipeline

/-- Lets a worker of the filters do its next thing. -/
def moveFilter? (pipeline : Pipeline) (index : Nat) : Option Pipeline :=
  (pipeline.filters.move? ⟨pipeline.inbound, .forward pipeline.outbound⟩ index).map
    fun (filters, ports) =>
      { pipeline with
        filters := filters
        inbound := ports.inbound
        outbound := ports.sentinel.channel?.getD pipeline.outbound }

/-- Lets a worker of the outputs do its next thing. -/
def moveOutput? (pipeline : Pipeline) (index : Nat) : Option Pipeline :=
  (pipeline.outputs.move? ⟨pipeline.outbound, .final⟩ index).map fun (outputs, ports) =>
    { pipeline with outputs := outputs, outbound := ports.inbound }

/-- Lets the first worker that does not have to wait do its next thing, those of the outputs first. -/
def moveAny? (pipeline : Pipeline) : Option Pipeline :=
  ((List.range pipeline.outputs.workers.length).findSome? pipeline.moveOutput?).orElse fun _ =>
    (List.range pipeline.filters.workers.length).findSome? pipeline.moveFilter?

/-- An upper bound on what the workers can still do with the events that are there. -/
def remaining (pipeline : Pipeline) : Nat :=
  let events := pipeline.inbound.waiting.length + pipeline.outbound.waiting.length +
    pipeline.filters.workers.length + pipeline.outputs.workers.length
  events * (pipeline.filters.chain.size + pipeline.outputs.chain.size + 4) +
    pipeline.filters.workers.length + pipeline.outputs.workers.length

def settleWithin : (limit : Nat) → Pipeline → Pipeline
  | 0, pipeline => pipeline
  | limit + 1, pipeline =>
    match pipeline.moveAny? with
    | some pipeline => settleWithin limit pipeline
    | none => pipeline

/-- Lets all workers go on until they wait or have gone. -/
def settle (pipeline : Pipeline) : Pipeline := settleWithin pipeline.remaining pipeline

/-- Sends events to a running pipeline, whose workers go on where the channel is full. The number of events
sent is that of those before the first that is refused. -/
def feed (pipeline : Pipeline) : List Event → Nat × Pipeline
  | [] => (0, pipeline)
  | event :: rest =>
    let pipeline := if pipeline.inbound.hasRoom then pipeline else pipeline.settle
    match pipeline.inbound.send? event with
    | some (.accepted inbound) =>
      let (count, pipeline) := ({ pipeline with inbound := inbound } : Pipeline).feed rest
      (count + 1, pipeline)
    | _ => (0, pipeline)

/-- Tells the workers of the filters to leave. -/
def beginCloseFilters (pipeline : Pipeline) : Except LifecycleError Pipeline :=
  pipeline.filters.beginClose.map fun filters => { pipeline with filters := filters }

def endCloseFilters (pipeline : Pipeline) : Pipeline × Except LifecycleError Stats :=
  let (filters, result) := pipeline.filters.endClose
  ({ pipeline with filters := filters }, result)

def beginCloseOutputs (pipeline : Pipeline) : Except LifecycleError Pipeline :=
  pipeline.outputs.beginClose.map fun outputs => { pipeline with outputs := outputs }

def endCloseOutputs (pipeline : Pipeline) : Pipeline × Except LifecycleError Stats :=
  let (outputs, result) := pipeline.outputs.endClose
  ({ pipeline with outputs := outputs }, result)

def closeFilters (pipeline : Pipeline) : Pipeline × Except LifecycleError Stats :=
  match pipeline.beginCloseFilters with
  | .error e => (pipeline, .error e)
  | .ok pipeline => pipeline.settle.endCloseFilters

def closeOutputs (pipeline : Pipeline) : Pipeline × Except LifecycleError Stats :=
  match pipeline.beginCloseOutputs with
  | .error e => (pipeline, .error e)
  | .ok pipeline => pipeline.settle.endCloseOutputs

/-- How closing both phases ends. -/
def verdict (filters outputs : Except LifecycleError Stats) : Except LifecycleError PipelineStats := do
  return ⟨← filters, ← outputs⟩

/-- Closes the filters, and then the outputs. -/
def close (pipeline : Pipeline) : Pipeline × Except LifecycleError PipelineStats :=
  let (pipeline, filters) := pipeline.closeFilters
  let (pipeline, outputs) := pipeline.closeOutputs
  (pipeline, verdict filters outputs)

/-- Starts the outputs, and then the filters. Where the filters cannot be started, the outputs are closed
again. Nobody sends to the pipeline yet. -/
def start (pipeline : Pipeline) : Pipeline × Except LifecycleError Unit :=
  let inbound : Channel := { capacity := some pipeline.capacity }
  let outbound : Channel := { capacity := some pipeline.capacity }
  match pipeline.outputs.start ⟨outbound, .final⟩ with
  | .error e => (pipeline, .error e)
  | .ok (outputs, ports) =>
    let outbound := ports.inbound
    match pipeline.filters.start ⟨inbound, .forward outbound⟩ with
    | .ok (filters, ports) =>
      ({ pipeline with
          filters := filters
          outputs := outputs
          inbound := ports.inbound
          outbound := ports.sentinel.channel?.getD outbound }, .ok ())
    | .error e =>
      (({ pipeline with outputs := outputs, outbound := outbound } : Pipeline).closeOutputs.1, .error e)

/-- The pipeline of a configuration, with the files of its outputs opened. -/
def ofConfig (config : PipelineConfig) (currentYear : Int) (tree : FileTree) :
    FileTree × Except ConfigError Pipeline :=
  let filters : Except ConfigError Controller := do
    let compiler ← config.buildCompiler tree
    let filters ← config.buildFilters compiler
    Controller.build "filters" (Filter.chain filters currentYear) config.workers.filters
  match filters with
  | .error e => (tree, .error e)
  | .ok filters =>
    match config.openOutputs config.effectiveOutputs tree with
    | (tree, .error e) => (tree, .error e)
    | (tree, .ok ()) =>
      match Controller.build "outputs" config.outputChain config.workers.outputs with
      | .error e => (tree, .error e)
      | .ok outputs =>
        (tree, .ok { filters := filters, outputs := outputs, capacity := config.channelCapacity })

end Pipeline

end LogPipeline
