import LogPipeline.Pipeline.Channel
import LogPipeline.Stage.Basic

/-!
# Workers

A worker takes an event, carries it from stage to stage, hands it over at the end of the chain, and takes the
next. It leaves when no event will come any more or, once its controller is closing, when no event waits. What
a worker does next depends on the channels it meets at that moment; which of several workers goes first
is left open.
-/

namespace LogPipeline

/-- What became of the events that were taken. -/
structure Stats where
  received : Nat := 0
  delivered : Nat := 0
  dropped : Nat := 0
  undeliverable : Nat := 0
  deriving DecidableEq, Repr

def Stats.add (a b : Stats) : Stats :=
  ⟨a.received + b.received, a.delivered + b.delivered, a.dropped + b.dropped,
    a.undeliverable + b.undeliverable⟩

/-- Counts how an event left the chain. -/
def Stats.count (stats : Stats) : Outcome → Stats
  | .delivered => { stats with delivered := stats.delivered + 1 }
  | .dropped => { stats with dropped := stats.dropped + 1 }
  | .undeliverable _ => { stats with undeliverable := stats.undeliverable + 1 }

inductive Task where
  | waiting
  /-- Carries an event that has gone through a number of stages. -/
  | carrying (event : Event) (passed : Nat)
  | left
  | panicked
  deriving Repr

structure Worker where
  task : Task := .waiting
  stats : Stats := {}
  deriving Repr

/-- Where the events of a controller come from and go to. -/
structure Ports where
  inbound : Channel
  sentinel : Sentinel
  deriving Repr

/-- The ports when a worker has gone. -/
def Ports.leave (ports : Ports) : Ports :=
  ⟨ports.inbound.dropReceiver, ports.sentinel.dropSender⟩

namespace Worker

def hasLeft (worker : Worker) : Bool :=
  match worker.task with
  | .left | .panicked => true
  | _ => false

def hasPanicked (worker : Worker) : Bool :=
  match worker.task with
  | .panicked => true
  | _ => false

/-- What one thing that a worker did has changed. -/
structure Turn where
  worker : Worker
  ports : Ports
  calls : List Call := []

/-- The worker back at the inbound channel. -/
def settled (worker : Worker) (outcome : Outcome) : Worker :=
  ⟨.waiting, worker.stats.count outcome⟩

/-- Takes the next event, or leaves. -/
def takeNext (worker : Worker) (closing : Bool) (ports : Ports) : Option Turn :=
  match ports.inbound.take? with
  | some (event, inbound) =>
    some {
      worker := ⟨.carrying event 0, { worker.stats with received := worker.stats.received + 1 }⟩
      ports := { ports with inbound := inbound } }
  | none =>
    if closing || ports.inbound.isExhausted then
      some { worker := { worker with task := .left }, ports := ports.leave }
    else none

/-- Hands an event to the stage at a position. -/
def enter (worker : Worker) (ports : Ports) (event : Event) (position : Nat) (stage : Stage) : Turn :=
  match stage.process event with
  | .flow (.continue event) written =>
    { worker := { worker with task := .carrying event (position + 1) }
      ports := ports
      calls := [.processed position written] }
  | .flow .drop written =>
    { worker := worker.settled .dropped, ports := ports, calls := [.processed position written] }
  | .panic =>
    { worker := { worker with task := .panicked }
      ports := ports.leave
      calls := [.processed position ""] }

/-- Hands an event over at the end of the chain. -/
def deliver (worker : Worker) (ports : Ports) (event : Event) : Option Turn :=
  (ports.sentinel.accept? event).map fun (outcome, sentinel) =>
    { worker := worker.settled outcome, ports := { ports with sentinel := sentinel } }

/-- What the worker does next, if it does not have to wait and has not gone. -/
def step (worker : Worker) (chain : Chain) (closing : Bool) (ports : Ports) : Option Turn :=
  match worker.task with
  | .waiting => worker.takeNext closing ports
  | .carrying event passed =>
    match chain.stages[passed]? with
    | some stage => some (worker.enter ports event passed stage)
    | none => worker.deliver ports event
  | .left | .panicked => none

end Worker

end LogPipeline
