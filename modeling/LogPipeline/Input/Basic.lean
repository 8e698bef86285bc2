import LogPipeline.Input.Lines
import LogPipeline.Pipeline.Channel
import LogPipeline.Pipeline.LifecycleError

/-!
# Inputs

An input sends events, one after the other, until it has no more, fails, is told to stop, or nobody takes them
any more. It looks at the request to stop between reading an event and sending it. It is started once; the
number of events sent is reported to whoever waits for it.
-/

namespace LogPipeline

/-- What comes after the last event. -/
inductive Ending where
  | ends
  | fails (message : String)
  /-- Nothing: the input stays as it is until it is told to stop. -/
  | idles
  deriving DecidableEq, Repr

/-- What the reader of an input is doing. -/
inductive Reader where
  | fresh
  | reading
  /-- Has read an event. -/
  | holding (event : Event)
  /-- Has found no request to stop, and sends the event. -/
  | sending (event : Event)
  /-- Has sent a number of events, or failed. -/
  | finished (result : Except String Nat)
  /-- Has finished, and somebody has waited for it. -/
  | joined
  deriving Repr

structure Input where
  name : String
  /-- The events that have not been read. -/
  pending : List Event
  ending : Ending := .ends
  reader : Reader := .fresh
  /-- Whether the input was told to stop. -/
  stopping : Bool := false
  /-- How many events have been sent. -/
  sent : Nat := 0
  /-- The number that was reported last. -/
  reported : Nat := 0
  deriving Repr

namespace Input

/-- The lines of bytes, one event each. Where reading fails after the bytes, the line that has no end by then
is lost. -/
def ofBytes (name : String) (bytes : List UInt8) (failure : Option String := none) : Input :=
  match failure with
  | none => { name := name, pending := (Lines.ofBytes bytes).map Event.ofLine }
  | some message =>
    { name := name
      pending := (Lines.terminated bytes).map Event.ofLine
      ending := .fails message }

/-- Starts the reader, which sends to a channel. -/
def start (input : Input) (channel : Channel) : Except LifecycleError (Input × Channel) :=
  match input.reader with
  | .fresh => .ok ({ input with reader := .reading }, channel.addSenders 1)
  | _ => .error (.alreadyStarted input.name)

def stop (input : Input) : Input := { input with stopping := true }

/-- Whether the reader has finished or was never started. -/
def isFinished (input : Input) : Bool :=
  match input.reader with
  | .fresh | .finished _ | .joined => true
  | _ => false

/-- The end of the reader. -/
def finish (input : Input) (channel : Channel) (result : Except String Nat) : Input × Channel :=
  ({ input with reader := .finished result }, channel.dropSender)

/-- Reads the next event, or finishes. -/
def read? (input : Input) (channel : Channel) : Option (Input × Channel) :=
  match input.pending, input.ending with
  | event :: rest, _ => some ({ input with reader := .holding event, pending := rest }, channel)
  | [], .ends => some (input.finish channel (.ok input.sent))
  | [], .fails message => some (input.finish channel (.error message))
  | [], .idles => if input.stopping then some (input.finish channel (.ok input.sent)) else none

/-- What the reader does next, if it does not have to wait and has not finished. -/
def step (input : Input) (channel : Channel) : Option (Input × Channel) :=
  match input.reader with
  | .reading => input.read? channel
  | .holding event =>
    if input.stopping then some (input.finish channel (.ok input.sent))
    else some ({ input with reader := .sending event }, channel)
  | .sending event =>
    (channel.send? event).map fun sent =>
      match sent with
      | .accepted channel => ({ input with reader := .reading, sent := input.sent + 1 }, channel)
      | .refused => input.finish channel (.ok input.sent)
  | .fresh | .finished _ | .joined => none

/-- Reports how many events a finished reader has sent. A failure is reported once. -/
def join (input : Input) : Input × Except LifecycleError Nat :=
  match input.reader with
  | .finished (.ok count) => ({ input with reader := .joined, reported := count }, .ok count)
  | .finished (.error message) => ({ input with reader := .joined }, .error (.input input.name message))
  | _ => (input, .ok input.reported)

/-- Waits for the reader, which has finished or was never started. -/
def wait (input : Input) : Input × Except LifecycleError Nat :=
  match input.reader with
  | .fresh => (input, .error (.notStarted input.name))
  | _ => input.join

/-- Tells the reader to stop; what it has sent is reported when it has finished. -/
def beginClose (input : Input) : Except LifecycleError Input :=
  match input.reader with
  | .fresh => .error (.notStarted input.name)
  | _ => .ok input.stop

/-- Lets the reader go on until it waits or has finished. -/
def settleWithin : (limit : Nat) → Input → Channel → Input × Channel
  | 0, input, channel => (input, channel)
  | limit + 1, input, channel =>
    match input.step channel with
    | some (input, channel) => settleWithin limit input channel
    | none => (input, channel)

/-- Lets the reader go on. Every event takes three steps. -/
def settle (input : Input) (channel : Channel) : Input × Channel :=
  settleWithin (3 * input.pending.length + 4) input channel

end Input

end LogPipeline
