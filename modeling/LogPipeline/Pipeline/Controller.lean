import LogPipeline.Pipeline.LifecycleError
import LogPipeline.Pipeline.Worker
import LogPipeline.Text.Quoted

/-!
# Controllers

A controller is a chain with a fixed number of workers. It is started once and closed once. Closing it lets
the workers take what waits in the inbound channel, and is over when all of them have gone; then every stage
is finished, in order.
-/

namespace LogPipeline

inductive ControllerState where
  | idle
  | running (closing : Bool) (workers : List Worker)
  | closed
  deriving Repr

structure Controller where
  name : String
  chain : Chain
  /-- How many workers there are. -/
  poolSize : Nat
  poolSize_pos : 0 < poolSize
  state : ControllerState := .idle
  /-- The counts of the last closing. -/
  stats : Stats := {}
  /-- The calls on the stages, last first. -/
  calls : List Call := []

namespace Controller

def build (name : String) (chain : Chain) (workers : Nat) : Except ConfigError Controller :=
  if h : 0 < workers then .ok ⟨name, chain, workers, h, .idle, {}, []⟩
  else .error (.invalidWorkerCount workers)

theorem build_eq_ok_iff {name : String} {chain : Chain} {workers : Nat} {controller : Controller} :
    build name chain workers = .ok controller ↔
      ∃ h : 0 < workers, controller = ⟨name, chain, workers, h, .idle, {}, []⟩ := by
  unfold build
  split <;> simp_all [eq_comm]

theorem build_eq_error_iff {name : String} {chain : Chain} {workers : Nat} {e : ConfigError} :
    build name chain workers = .error e ↔ workers = 0 ∧ e = .invalidWorkerCount 0 := by
  unfold build
  split
  · simp only [reduceCtorEq, false_iff]
    omega
  · obtain rfl : workers = 0 := by omega
    simp [eq_comm]

def isRunning (controller : Controller) : Bool :=
  match controller.state with
  | .running .. => true
  | _ => false

def workers (controller : Controller) : List Worker :=
  match controller.state with
  | .running _ workers => workers
  | _ => []

def describe (controller : Controller) : String :=
  "Controller \x7b name: " ++ Text.quoted controller.name ++
    ", workers: " ++ natText controller.poolSize ++
    ", chain: " ++ controller.chain.describe ++
    ", running: " ++ (if controller.isRunning then "true" else "false") ++ " \x7d"

/-- Puts the workers at the ports. -/
def start (controller : Controller) (ports : Ports) : Except LifecycleError (Controller × Ports) :=
  match controller.state with
  | .idle =>
    .ok ({ controller with state := .running false (List.replicate controller.poolSize {}) },
      ⟨ports.inbound.addReceivers controller.poolSize,
        ports.sentinel.addSenders controller.poolSize⟩)
  | .running .. => .error (.alreadyStarted controller.name)
  | .closed => .error (.alreadyClosed controller.name)

/-- Lets one worker do its next thing, if there is one for it to do. -/
def move? (controller : Controller) (ports : Ports) (index : Nat) : Option (Controller × Ports) :=
  match controller.state with
  | .running closing workers =>
    (workers[index]?.bind fun worker => worker.step controller.chain closing ports).map fun turn =>
      ({ controller with
          state := .running closing (workers.set index turn.worker)
          calls := turn.calls ++ controller.calls },
        turn.ports)
  | _ => none

/-- Lets the first worker that does not have to wait do its next thing. -/
def moveAny? (controller : Controller) (ports : Ports) : Option (Controller × Ports) :=
  (List.range controller.workers.length).findSome? (controller.move? ports)

/-- Tells the workers to leave when no event waits. -/
def beginClose (controller : Controller) : Except LifecycleError Controller :=
  match controller.state with
  | .idle => .error (.notStarted controller.name)
  | .running _ workers => .ok { controller with state := .running true workers }
  | .closed => .error (.alreadyClosed controller.name)

/-- Whether all workers have gone. -/
def isDeserted (controller : Controller) : Bool := controller.workers.all Worker.hasLeft

/-- The counts of the workers that did not panic. -/
def merged (workers : List Worker) : Stats :=
  (workers.filter fun worker => !worker.hasPanicked).foldl
    (fun stats worker => stats.add worker.stats) {}

/-- How closing ends, given the workers that have gone. -/
def verdict (controller : Controller) (workers : List Worker) : Except LifecycleError Stats :=
  let stats := merged workers
  if workers.any Worker.hasPanicked then .error (.workerPanicked controller.name)
  else if 0 < stats.undeliverable then
    .error (.downstreamClosed controller.name stats.undeliverable)
  else .ok stats

/-- The calls by which all stages are finished, last first. -/
def finishCalls (chain : Chain) : List Call := chain.finish.calls.reverse

/-- Ends closing, when all workers have gone. Stages that cannot be finished make no difference to the result. -/
def endClose (controller : Controller) : Controller × Except LifecycleError Stats :=
  ({ controller with
      state := .closed
      stats := merged controller.workers
      calls := finishCalls controller.chain ++ controller.calls },
    controller.verdict controller.workers)

/-- An upper bound on what the workers can still do with the events that are there. -/
def remaining (controller : Controller) (ports : Ports) : Nat :=
  (ports.inbound.waiting.length + controller.workers.length) * (controller.chain.size + 2) +
    controller.workers.length

/-- Lets the workers go on until all of them wait or have gone. -/
def settleWithin : (limit : Nat) → Controller → Ports → Controller × Ports
  | 0, controller, ports => (controller, ports)
  | limit + 1, controller, ports =>
    match controller.moveAny? ports with
    | some (controller, ports) => settleWithin limit controller ports
    | none => (controller, ports)

def settle (controller : Controller) (ports : Ports) : Controller × Ports :=
  settleWithin (controller.remaining ports) controller ports

/-- Closes the controller and waits until its workers have gone. -/
def close (controller : Controller) (ports : Ports) :
    (Controller × Ports) × Except LifecycleError Stats :=
  match controller.beginClose with
  | .error e => ((controller, ports), .error e)
  | .ok closing =>
    let (settled, ports) := closing.settle ports
    let (closed, result) := settled.endClose
    ((closed, ports), result)

/-- A controller that is given up is closed, if it is running. -/
def release (controller : Controller) (ports : Ports) : Controller × Ports :=
  if controller.isRunning then (controller.close ports).1 else (controller, ports)

/-- What was written by the stage at a position, in order. -/
def writtenBy (controller : Controller) (position : Nat) : List String :=
  controller.calls.reverse.filterMap fun call =>
    match call with
    | .processed stage written => if stage = position ∧ written ≠ "" then some written else none
    | .finished _ => none

end Controller

end LogPipeline
