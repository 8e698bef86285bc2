import LogPipeline.Proofs.Pipeline.Progress
import LogPipeline.Input.Basic

/-!
# Steps of readers

Everything that the reader of an input can do, with what it finds when it does it, and how much it has still to do.
Later proofs go through these cases and leave the step function closed.
-/

namespace LogPipeline.Input

/-- Why a reader finishes, and with what result. -/
inductive Finishes (input : Input) (channel : Channel) : Except String Nat → Prop
  | ended : input.reader = .reading → input.pending = [] → input.ending = .ends →
      Finishes input channel (.ok input.sent)
  | failed {message} : input.reader = .reading → input.pending = [] → input.ending = .fails message →
      Finishes input channel (.error message)
  | idled : input.reader = .reading → input.pending = [] → input.ending = .idles → input.stopping = true →
      Finishes input channel (.ok input.sent)
  | stopped {event} : input.reader = .holding event → input.stopping = true →
      Finishes input channel (.ok input.sent)
  | refused {event} : input.reader = .sending event → channel.isClosed = true →
      Finishes input channel (.ok input.sent)

/-- What a reader can do at its channel. -/
inductive Acts (input : Input) (channel : Channel) : Input → Channel → Prop
  | take {event rest} : input.reader = .reading → input.pending = event :: rest →
      Acts input channel { input with reader := .holding event, pending := rest } channel
  | pass {event} : input.reader = .holding event → input.stopping = false →
      Acts input channel { input with reader := .sending event } channel
  | send {event} : input.reader = .sending event → channel.isClosed = false → channel.hasRoom = true →
      Acts input channel { input with reader := .reading, sent := input.sent + 1 } (channel.push event)
  | finish {result} : input.Finishes channel result →
      Acts input channel { input with reader := .finished result } channel.dropSender

variable {input next : Input} {channel channel' : Channel}

theorem acts_of_read? (hr : input.reader = .reading) (h : input.read? channel = some (next, channel')) :
    input.Acts channel next channel' := by
  unfold read? at h
  split at h
  · cases h
    exact .take hr ‹_›
  · cases h
    exact .finish (.ended hr ‹_› ‹_›)
  · cases h
    exact .finish (.failed hr ‹_› ‹_›)
  · split at h
    · cases h
      exact .finish (.idled hr ‹_› ‹_› ‹_›)
    · cases h

theorem acts_of_step (h : input.step channel = some (next, channel')) : input.Acts channel next channel' := by
  unfold step at h
  split at h
  · exact acts_of_read? ‹_› h
  · split at h
    · cases h
      exact .finish (.stopped ‹_› ‹_›)
    · rename_i hstop
      cases h
      exact .pass ‹_› (by simpa using hstop)
  · obtain ⟨sent, hsend, heq⟩ := Option.map_eq_some_iff.mp h
    cases sent with
    | accepted accepting =>
      obtain ⟨hopen, hroom, rfl⟩ := Channel.send?_eq_accepted_iff.mp hsend
      cases heq
      exact .send ‹_› hopen hroom
    | refused =>
      cases heq
      exact .finish (.refused ‹_› (Channel.send?_eq_refused_iff.mp hsend))
  all_goals cases h

theorem Acts.frame (h : input.Acts channel next channel') :
    next.name = input.name ∧ next.ending = input.ending ∧ next.stopping = input.stopping ∧
      next.reported = input.reported ∧ next.reader ≠ .fresh ∧ channel'.receivers = channel.receivers := by
  cases h <;> exact ⟨rfl, rfl, rfl, rfl, nofun, rfl⟩

/-- A reader that has not finished goes on, unless it idles or what it sends has to wait. -/
theorem step_isSome_or (channel : Channel) (hf : input.isFinished = false) (hi : input.ending ≠ .idles) :
    (input.step channel).isSome = true ∨ channel.Full := by
  cases hr : input.reader with
  | reading =>
    left
    cases hp : input.pending with
    | cons event rest => simp [step, read?, hr, hp]
    | nil =>
      cases he : input.ending with
      | idles => exact absurd he hi
      | _ => simp [step, read?, hr, hp, he]
  | holding event =>
    left
    simp only [step, hr]
    split <;> rfl
  | sending event =>
    cases hsend : channel.send? event with
    | some sent => exact .inl (by simp [step, hr, hsend])
    | none => exact .inr (Channel.full_of_send?_eq_none hsend)
  | _ => simp [isFinished, hr] at hf

/-! ## Calls -/

theorem of_start (h : input.start channel = .ok (next, channel')) :
    input.reader = .fresh ∧ next = { input with reader := .reading } ∧ channel' = channel.addSenders 1 := by
  unfold start at h
  split at h
  · cases h
    exact ⟨‹_›, rfl, rfl⟩
  · cases h

theorem of_beginClose (h : input.beginClose = .ok next) : input.reader ≠ .fresh ∧ next = input.stop := by
  unfold beginClose at h
  split at h
  · cases h
  · cases h
    exact ⟨‹_›, rfl⟩

/-- Waiting marks the reader as waited for, and notes the number. -/
theorem wait_frame (input : Input) :
    input.wait.1.name = input.name ∧ input.wait.1.ending = input.ending ∧ input.wait.1.stopping = input.stopping := by
  unfold wait join
  repeat' split
  all_goals exact ⟨rfl, rfl, rfl⟩

/-! ## What is left to do -/

/-- How much a reader has still to do, with one more for every event that it has to send. -/
def toil (input : Input) : Nat :=
  match input.reader with
  | .reading => 4 * input.pending.length + 1
  | .holding _ => 4 * input.pending.length + 4
  | .sending _ => 4 * input.pending.length + 3
  | .fresh | .finished _ | .joined => 0

theorem toil_wait (input : Input) : input.wait.1.toil ≤ input.toil := by
  unfold wait join
  cases hr : input.reader with
  | finished result =>
    cases result <;> exact Nat.zero_le _
  | _ => exact Nat.le_refl _

/-- Every step lessens what there is to do for the reader and those who take what it sends. -/
theorem Acts.wanes (h : input.Acts channel next channel') :
    next.toil + channel'.waiting.length < input.toil + channel.waiting.length := by
  cases h with
  | take hr hp =>
    simp only [toil, hr, hp, List.length_cons]
    omega
  | pass hr _ =>
    simp only [toil, hr]
    omega
  | send hr _ _ =>
    simp only [toil, hr, Channel.push, List.length_append, List.length_singleton]
    omega
  | finish hf =>
    -- only a reader that was at work finishes
    have : 0 < input.toil := by
      cases hf <;> simp [toil, *]
    simpa [toil, Channel.dropSender] using this

/-! ## Going on -/

/-- How many steps a reader can still take, whatever happens at the channel: three for every event, and one to
finish. -/
def stepsLeft (input : Input) : Nat :=
  match input.reader with
  | .reading => 3 * input.pending.length + 1
  | .holding _ => 3 * input.pending.length + 3
  | .sending _ => 3 * input.pending.length + 2
  | .fresh | .finished _ | .joined => 0

theorem Acts.stepsLeft_lt (h : input.Acts channel next channel') : next.stepsLeft < input.stepsLeft := by
  cases h with
  | take hr hp =>
    simp only [stepsLeft, hr, hp, List.length_cons]
    omega
  | pass hr _ =>
    simp only [stepsLeft, hr]
    omega
  | send hr _ _ =>
    simp only [stepsLeft, hr]
    omega
  | finish hf => cases hf <;> simp [stepsLeft, *]

/-- The limit on how long a reader goes on is no limit. -/
theorem step_settleWithin {limit : Nat} (h : input.stepsLeft ≤ limit) :
    (settleWithin limit input channel).1.step (settleWithin limit input channel).2 = none := by
  induction limit generalizing input channel with
  | zero =>
    show input.step channel = none
    refine Option.eq_none_iff_forall_ne_some.mpr fun moved hs => ?_
    have := (acts_of_step hs).stepsLeft_lt
    omega
  | succ limit ih =>
    simp only [settleWithin]
    split
    · rename_i hs
      have := (acts_of_step hs).stepsLeft_lt
      exact ih (by omega)
    · assumption

theorem step_settle (input : Input) (channel : Channel) :
    (input.settle channel).1.step (input.settle channel).2 = none := by
  refine step_settleWithin ?_
  unfold stepsLeft
  split <;> omega

end LogPipeline.Input
