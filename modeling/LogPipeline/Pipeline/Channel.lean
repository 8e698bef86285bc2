import LogPipeline.Event.Basic

/-!
# Channels

A queue of events between those who send and those who take. A sender waits while the channel is full. When
nobody is left to take, events are refused and those that wait are lost; when nobody is left to send,
those that wait can still be taken.
-/

namespace LogPipeline

structure Channel where
  /-- The events that wait, first come first. -/
  waiting : List Event := []
  /-- How many events may wait. Without a number there is no limit. -/
  capacity : Option Nat := none
  senders : Nat := 0
  receivers : Nat := 0
  deriving Repr

namespace Channel

/-- Whether one more event may wait. A channel of capacity zero holds one event while it is handed over. -/
def hasRoom (channel : Channel) : Bool :=
  channel.capacity.all fun capacity => channel.waiting.length < max capacity 1

/-- Whether events are refused. -/
def isClosed (channel : Channel) : Bool := channel.receivers == 0

/-- Whether no event will come any more. -/
def isExhausted (channel : Channel) : Bool := channel.senders == 0 && channel.waiting.isEmpty

def push (channel : Channel) (event : Event) : Channel :=
  { channel with waiting := channel.waiting ++ [event] }

/-- The first event that waits, and the channel without it. -/
def take? (channel : Channel) : Option (Event × Channel) :=
  match channel.waiting with
  | [] => none
  | event :: rest => some (event, { channel with waiting := rest })

def addSenders (channel : Channel) (count : Nat) : Channel :=
  { channel with senders := channel.senders + count }

def addReceivers (channel : Channel) (count : Nat) : Channel :=
  { channel with receivers := channel.receivers + count }

def dropSender (channel : Channel) : Channel := { channel with senders := channel.senders - 1 }

def dropReceiver (channel : Channel) : Channel :=
  { channel with
    receivers := channel.receivers - 1
    waiting := if channel.receivers ≤ 1 then [] else channel.waiting }

/-- How sending an event ends, if it does not have to wait. -/
inductive Sent where
  | accepted (channel : Channel)
  | refused

def send? (channel : Channel) (event : Event) : Option Sent :=
  if channel.isClosed then some .refused
  else if channel.hasRoom then some (.accepted (channel.push event))
  else none

theorem send?_eq_accepted_iff {channel next : Channel} {event : Event} :
    channel.send? event = some (.accepted next) ↔
      channel.isClosed = false ∧ channel.hasRoom = true ∧ next = channel.push event := by
  unfold send?
  cases channel.isClosed <;> cases channel.hasRoom <;> simp [eq_comm]

theorem send?_eq_refused_iff {channel : Channel} {event : Event} :
    channel.send? event = some .refused ↔ channel.isClosed = true := by
  unfold send?
  cases channel.isClosed <;> cases channel.hasRoom <;> simp

/-- Sends events in order, up to the first that is refused or would have to wait, and counts them. -/
def sendAll (channel : Channel) : List Event → Nat × Channel
  | [] => (0, channel)
  | event :: rest =>
    match channel.send? event with
    | some (.accepted channel) =>
      let (count, channel) := channel.sendAll rest
      (count + 1, channel)
    | _ => (0, channel)

end Channel

/-- What lies at the end of a chain: the channel to the next phase, or nothing. -/
inductive Sentinel where
  | forward (channel : Channel)
  | final
  deriving Repr

/-- How an event left a chain. -/
inductive Outcome where
  | delivered
  | dropped
  /-- The next phase takes no more events. -/
  | undeliverable (event : Event)
  deriving Repr

namespace Sentinel

/-- Hands an event over, if that does not have to wait. -/
def accept? (sentinel : Sentinel) (event : Event) : Option (Outcome × Sentinel) :=
  match sentinel with
  | .final => some (.delivered, .final)
  | .forward channel =>
    (channel.send? event).map fun sent =>
      match sent with
      | .accepted channel => (.delivered, .forward channel)
      | .refused => (.undeliverable event, .forward channel)

/-- The channel behind the chain, if there is one. -/
def channel? : Sentinel → Option Channel
  | .forward channel => some channel
  | .final => none

def addSenders (sentinel : Sentinel) (count : Nat) : Sentinel :=
  match sentinel with
  | .forward channel => .forward (channel.addSenders count)
  | .final => .final

def dropSender (sentinel : Sentinel) : Sentinel :=
  match sentinel with
  | .forward channel => .forward channel.dropSender
  | .final => .final

end Sentinel

end LogPipeline
