import LogPipeline.Proofs.Input.Reading
import LogPipeline.Proofs.Pipeline.Delivery

/-!
# Inputs that are called

A feed is an input with those who call it: they start it, stop it, wait for it or close it, in any order and as
often as they like, while its reader takes its steps and others do with the channel whatever they want. A call
that waits for the reader returns when the reader has finished, and as long as it waits there is no other call.
What the reader puts on the channel is recorded.

`Kept` says what has been sent and returned at any time, `spent_follow` what a reader that was told to stop may still
send, and `waning` that a call that waits returns. `settle_follows` says that `Input.settle` is such a run, of the
reader alone.
-/

namespace LogPipeline

namespace Input

/-- An input as it was made. -/
structure Unused (input : Input) : Prop where
  reader : input.reader = .fresh
  stopping : input.stopping = false
  sent : input.sent = 0
  reported : input.reported = 0

theorem unused_ofBytes (name : String) (bytes : List UInt8) (failure : Option String) :
    (ofBytes name bytes failure).Unused := by
  cases failure <;> exact ⟨rfl, rfl, rfl, rfl⟩

/-- Whether the reader was started and has finished. -/
def hasEnded (input : Input) : Bool :=
  match input.reader with
  | .finished _ | .joined => true
  | _ => false

/-- The event that the reader sends without looking at the request to stop any more. -/
def passed (input : Input) : List Event :=
  match input.reader with
  | .sending event => [event]
  | _ => []

/-- The reader has no more to send than the event that it has passed: it has finished, or will as soon as it looks at
the request to stop. -/
def Spent (input : Input) : Prop := input.stopping = true ∨ input.hasEnded = true

theorem passed_of_hasEnded {input : Input} (h : input.hasEnded = true) : input.passed = [] := by
  cases hr : input.reader with
  | sending event => simp [hasEnded, hr] at h
  | _ => simp [passed, hr]

/-- An input after something that is no step of its reader: the reader has passed the same event, and is spent if it
was. -/
structure Rests (input next : Input) : Prop where
  passed : next.passed = input.passed
  spent : input.Spent → next.Spent

variable {input next : Input} {channel channel' : Channel} {result : Except String Nat}

theorem Finishes.isSending (h : input.Finishes channel result) : input.isSending = true := by
  cases h <;> simp [Input.isSending, *]

theorem Acts.isSending (h : input.Acts channel next channel') : input.isSending = true := by
  cases h with
  | finish hf => exact hf.isSending
  | _ => simp [Input.isSending, *]

theorem Rests.refl (input : Input) : input.Rests input := ⟨rfl, id⟩

theorem rests_start (h : input.start channel = .ok (next, channel')) : input.Rests next := by
  obtain ⟨hr, rfl, -⟩ := of_start h
  exact ⟨by simp [passed, hr], by simp [Spent, hasEnded, hr]⟩

theorem rests_stop (input : Input) : input.Rests input.stop := ⟨rfl, fun _ => .inl rfl⟩

theorem rests_beginClose (h : input.beginClose = .ok next) : input.Rests next := by
  obtain ⟨-, rfl⟩ := of_beginClose h
  exact rests_stop input

theorem rests_wait (input : Input) : input.Rests input.wait.1 := by
  unfold wait join
  cases hr : input.reader with
  | finished result =>
    cases result <;> exact ⟨by simp [passed, hr], fun _ => .inr rfl⟩
  | _ => exact .refl input

end Input

namespace Feed

/-- A call on an input. -/
inductive Call where
  | start
  | stop
  | wait
  | close
  deriving DecidableEq, Repr

/-- What a call has given. -/
inductive Answer where
  | done
  | refused (e : LifecycleError)
  /-- What waiting for the reader has given. -/
  | returned (result : Except LifecycleError Nat)

/-- What can happen around an input that is called. -/
inductive Deed where
  | call (call : Call)
  /-- The reader does its next thing. -/
  | read
  /-- Somebody takes an event from the channel. -/
  | receive
  /-- Others change the channel: they send to it, take from it or drop an end of it. -/
  | others (change : Channel → Channel)
  /-- A call that waits finds that the reader has finished. -/
  | join

end Feed

structure Feed where
  input : Input
  channel : Channel
  /-- The events that the reader has put on the channel, in order. -/
  sent : List Event := []
  /-- Whether a call waits for the reader. -/
  waits : Bool := false
  /-- What the calls have given that have returned, first come first. -/
  answers : List Feed.Answer := []

namespace Feed

/-- A feed that nobody has called yet. -/
def begin (input : Input) (channel : Channel) : Feed := { input := input, channel := channel }

def answer (feed : Feed) (answer : Answer) : Feed := { feed with answers := feed.answers ++ [answer] }

def call (feed : Feed) : Call → Feed
  | .start =>
    match feed.input.start feed.channel with
    | .ok (input, channel) => { feed with input := input, channel := channel }.answer .done
    | .error e => feed.answer (.refused e)
  | .stop => { feed with input := feed.input.stop }.answer .done
  | .wait =>
    match feed.input.reader with
    | .fresh => feed.answer (.refused (.notStarted feed.input.name))
    | _ => { feed with waits := true }
  | .close =>
    match feed.input.beginClose with
    | .ok input => { feed with input := input, waits := true }
    | .error e => feed.answer (.refused e)

/-- What happens. What cannot be done changes nothing, and a call is put off as long as another waits. -/
def step (feed : Feed) : Deed → Feed
  | .call call => if feed.waits then feed else feed.call call
  | .read =>
    match feed.input.step feed.channel with
    | some (input, channel) =>
      { feed with
        input := input
        channel := channel
        sent := feed.sent ++ channel.waiting.drop feed.channel.waiting.length }
    | none => feed
  | .receive => { feed with channel := feed.channel.take?.elim feed.channel Prod.snd }
  | .others change => { feed with channel := change feed.channel }
  | .join =>
    if feed.waits && feed.input.isFinished then
      let (input, result) := feed.input.wait
      { feed with input := input, waits := false }.answer (.returned result)
    else feed

def follow (feed : Feed) (deeds : List Deed) : Feed := deeds.foldl step feed

/-- What waiting for the reader has given. -/
def returns (feed : Feed) : List (Except LifecycleError Nat) :=
  feed.answers.filterMap fun
    | .returned result => some result
    | _ => none

/-- What a reader has sent that finished, by how waiting for it ends. -/
def counted (result : Except String Nat) : Nat := result.toOption.getD 0

/-- How waiting for a reader ends that has finished with a result, for the first who waits. -/
def verdict (name : String) (result : Except String Nat) : Except LifecycleError Nat := result.mapError (.input name)

/-- Others leave at least one who takes what is sent. -/
def Deed.Holds : Deed → Prop
  | .others change => ∀ channel, 0 < channel.receivers → 0 < (change channel).receivers
  | _ => True

/-- The input is never told to stop (a request is never taken back), and there always is somebody to take what it
sends. -/
structure Undisturbed (feed : Feed) (deeds : List Deed) : Prop where
  taken : 0 < feed.channel.receivers
  holds : ∀ deed ∈ deeds, deed.Holds
  going : (feed.follow deeds).input.stopping = false

variable {feed : Feed} {origin input next : Input} {channel channel' : Channel} {held calm : Prop}
  {sent : List Event} {returns : List (Except LifecycleError Nat)} {result : Except String Nat} {deed : Deed}
  {deeds : List Deed}

theorem returns_answer (feed : Feed) (answer : Answer) :
    (feed.answer answer).returns = feed.returns ++
      match answer with
      | .returned result => [result]
      | _ => [] := by
  cases answer <;> simp [Feed.answer, Feed.returns]

/-! ## What the reader has done -/

/-- What was sent by a reader that has finished with a result, given the input as it was made: all events, unless
something came up. -/
def Accounts (calm : Prop) (origin : Input) (sent : List Event) : Except String Nat → Prop
  | .ok count => count = sent.length ∧ sent <+: origin.pending ∧
      (calm → sent = origin.pending ∧ ∀ message, origin.ending ≠ .fails message)
  | .error message => sent = origin.pending ∧ origin.ending = .fails message

/-- What has been sent, and what waiting has given, by how far the reader has come. `held` says that there always
was somebody to take what is sent. -/
def Stands (held : Prop) (origin input : Input) (sent : List Event)
    (returns : List (Except LifecycleError Nat)) : Prop :=
  match input.reader with
  | .finished result => returns = [] ∧ input.reported = 0 ∧
      Accounts (held ∧ input.stopping = false) origin sent result
  | .joined => ∃ result times, Accounts (held ∧ input.stopping = false) origin sent result ∧
      input.reported = counted result ∧
      returns = verdict origin.name result :: List.replicate times (.ok (counted result))
  | _ => returns = [] ∧ input.reported = 0 ∧ input.sent = sent.length ∧ sent ++ input.unsent = origin.pending

theorem Accounts.mono {calm' : Prop} (h : Accounts calm origin sent result) (hc : calm' → calm) :
    Accounts calm' origin sent result := by
  cases result with
  | ok count => exact ⟨h.1, h.2.1, fun hcalm => h.2.2 (hc hcalm)⟩
  | error message => exact h

theorem Accounts.sent_prefix (h : Accounts calm origin sent result) : sent <+: origin.pending := by
  cases result with
  | ok count => exact h.2.1
  | error message => exact h.1 ▸ List.prefix_refl _

namespace Stands

theorem stop (h : Stands held origin input sent returns) : Stands held origin input.stop sent returns := by
  have hcalm : held ∧ input.stop.stopping = false → held ∧ input.stopping = false := fun h => nomatch h.2
  unfold Stands at h ⊢
  -- only what is said of inputs that were not told to stop looks at the request
  cases hr : input.reader with
  | finished result =>
    rw [hr] at h
    simp only [Input.stop, hr]
    exact ⟨h.1, h.2.1, h.2.2.mono hcalm⟩
  | joined =>
    rw [hr] at h
    simp only [Input.stop, hr]
    obtain ⟨result, times, ha, hreported, hreturns⟩ := h
    exact ⟨result, times, ha.mono hcalm, hreported, hreturns⟩
  | _ => simpa [hr, Input.stop, Input.unsent] using h

/-- What has been sent before the reader finishes, with what was not, is what the input was made with. -/
theorem of_isSending (h : Stands held origin input sent returns) (hs : input.isSending = true) :
    returns = [] ∧ input.reported = 0 ∧ input.sent = sent.length ∧ sent ++ input.unsent = origin.pending := by
  unfold Stands at h
  cases hr : input.reader with
  | reading | holding | sending => simpa only [hr] using h
  | _ => simp [Input.isSending, hr] at hs

theorem finish (h : Stands held origin input sent returns) (he : input.ending = origin.ending)
    (hc : held → channel.isClosed = false) (hf : input.Finishes channel result) :
    Stands held origin { input with reader := .finished result } sent returns := by
  obtain ⟨hreturns, hreported, hsent, hevents⟩ := h.of_isSending hf.isSending
  refine ⟨hreturns, hreported, ?_⟩
  -- a reader that finishes before all is sent was told to stop, or had nobody to send to
  cases hf with
  | ended hr hp hends =>
    have hall : sent = origin.pending := by simpa [Input.unsent, hr, hp] using hevents
    exact ⟨hsent, hall ▸ List.prefix_refl _, fun _ => ⟨hall, by simp [← he, hends]⟩⟩
  | failed hr hp hfails =>
    exact ⟨by simpa [Input.unsent, hr, hp] using hevents, he ▸ hfails⟩
  | idled hr hp hidles hstop =>
    exact ⟨hsent, ⟨_, hevents⟩, fun hcalm => absurd (hcalm.2.symm.trans hstop) Bool.false_ne_true⟩
  | stopped hr hstop =>
    exact ⟨hsent, ⟨_, hevents⟩, fun hcalm => absurd (hcalm.2.symm.trans hstop) Bool.false_ne_true⟩
  | refused hr hclosed =>
    exact ⟨hsent, ⟨_, hevents⟩, fun hcalm => absurd ((hc hcalm.1).symm.trans hclosed) Bool.false_ne_true⟩

/-- What a step of the reader puts on the channel. -/
theorem acts (h : Stands held origin input sent returns) (he : input.ending = origin.ending)
    (hc : held → channel.isClosed = false) (ha : input.Acts channel next channel') :
    Stands held origin next (sent ++ channel'.waiting.drop channel.waiting.length) returns := by
  obtain ⟨hreturns, hreported, hsent, hevents⟩ := h.of_isSending ha.isSending
  cases ha with
  | take hr hp =>
    refine ⟨hreturns, hreported, by simpa using hsent, ?_⟩
    simpa [Input.unsent, hr, hp] using hevents
  | pass hr _ =>
    refine ⟨hreturns, hreported, by simpa using hsent, ?_⟩
    simpa [Input.unsent, hr] using hevents
  | send hr _ _ =>
    refine ⟨hreturns, hreported, by simpa [Channel.push] using hsent, ?_⟩
    simpa [Input.unsent, hr, Channel.push] using hevents
  | finish hf =>
    simpa [Channel.dropSender] using h.finish he hc hf

/-- To be started changes nothing about what was sent. -/
theorem start (h : Stands held origin input sent returns)
    (hs : input.start channel = .ok (next, channel')) : Stands held origin next sent returns := by
  obtain ⟨hr, rfl, -⟩ := Input.of_start hs
  simpa only [Stands, Input.unsent, hr] using h

/-- A failure is returned once, and a number as often as somebody waits. -/
theorem wait (h : Stands held origin input sent returns) (hn : input.name = origin.name)
    (hr : input.reader ≠ .fresh) (hf : input.isFinished = true) :
    Stands held origin input.wait.1 sent (returns ++ [input.wait.2]) := by
  unfold Stands at h
  cases hreader : input.reader with
  | finished result =>
    simp only [hreader] at h
    obtain ⟨rfl, hreported, ha⟩ := h
    cases result with
    | ok count =>
      simp only [Input.wait, Input.join, hreader]
      exact ⟨_, 0, ha, rfl, rfl⟩
    | error message =>
      simp only [Input.wait, Input.join, hreader]
      exact ⟨_, 0, ha, hreported, by rw [hn]; rfl⟩
  | joined =>
    simp only [hreader] at h
    obtain ⟨result, times, ha, hreported, rfl⟩ := h
    simp only [Input.wait, Input.join, hreader, Stands]
    refine ⟨result, times + 1, ha, hreported, ?_⟩
    rw [hreported, List.replicate_succ', List.cons_append]
  | fresh => exact absurd hreader hr
  | _ => simp [Input.isFinished, hreader] at hf

end Stands

/-! ## What holds all along -/

/-- What holds of a feed, given the input as it was made. -/
structure Kept (held : Prop) (origin : Input) (feed : Feed) : Prop where
  named : feed.input.name = origin.name
  ending : feed.input.ending = origin.ending
  taken : held → 0 < feed.channel.receivers
  started : feed.waits = true → feed.input.reader ≠ .fresh
  stands : Stands held origin feed.input feed.sent feed.returns

theorem kept_begin (h : origin.Unused) (hc : held → 0 < channel.receivers) :
    (begin origin channel).Kept held origin where
  named := rfl
  ending := rfl
  taken := hc
  started := nofun
  stands := by simp [begin, Stands, h.reader, h.reported, h.sent, Input.unsent, returns]

namespace Kept

theorem answer (h : feed.Kept held origin) {answer : Answer} (ha : (feed.answer answer).returns = feed.returns) :
    (feed.answer answer).Kept held origin :=
  ⟨h.named, h.ending, h.taken, h.started, ha ▸ h.stands⟩

theorem answer_done (h : feed.Kept held origin) : (feed.answer .done).Kept held origin :=
  h.answer (by simp [returns_answer])

theorem answer_refused (h : feed.Kept held origin) (e : LifecycleError) :
    (feed.answer (.refused e)).Kept held origin :=
  h.answer (by simp [returns_answer])

theorem call (h : feed.Kept held origin) (hw : feed.waits = false) (call : Call) :
    (feed.call call).Kept held origin := by
  have hwaits : feed.waits = true → False := fun hwaits => Bool.false_ne_true (hw.symm.trans hwaits)
  cases call with
  | start =>
    simp only [Feed.call]
    split
    · rename_i next channel hs
      have hstands := h.stands.start hs
      obtain ⟨-, rfl, rfl⟩ := Input.of_start hs
      exact answer_done ⟨h.named, h.ending, h.taken, fun hw => (hwaits hw).elim, hstands⟩
    · exact h.answer_refused _
  | stop =>
    exact answer_done ⟨h.named, h.ending, h.taken, fun hw => (hwaits hw).elim, h.stands.stop⟩
  | wait =>
    simp only [Feed.call]
    split
    · exact h.answer_refused _
    · rename_i hr
      exact ⟨h.named, h.ending, h.taken, fun _ => hr, h.stands⟩
  | close =>
    simp only [Feed.call]
    split
    · rename_i hb
      obtain ⟨hr, rfl⟩ := Input.of_beginClose hb
      exact ⟨h.named, h.ending, h.taken, fun _ => hr, h.stands.stop⟩
    · exact h.answer_refused _

theorem step (h : feed.Kept held origin) (hd : held → deed.Holds) : (feed.step deed).Kept held origin := by
  cases deed with
  | call call =>
    simp only [Feed.step]
    split
    · exact h
    · rename_i hw
      exact h.call (by simpa using hw) call
  | read =>
    simp only [Feed.step]
    split
    · rename_i next channel hs
      have ha := Input.acts_of_step hs
      obtain ⟨hn, he, -, -, hr, hreceivers⟩ := ha.frame
      have hopen : held → feed.channel.isClosed = false := fun hheld => by
        simpa [Channel.isClosed] using Nat.ne_of_gt (h.taken hheld)
      refine ⟨hn.trans h.named, he.trans h.ending, ?_, fun _ => hr, h.stands.acts h.ending hopen ha⟩
      exact fun hheld => hreceivers ▸ h.taken hheld
    · exact h
  | receive =>
    refine ⟨h.named, h.ending, fun hheld => ?_, h.started, h.stands⟩
    have := h.taken hheld
    simp only [Feed.step, Channel.take?]
    split <;> exact this
  -- whatever others do with the channel, they do not undo what was sent
  | others change => exact ⟨h.named, h.ending, fun hheld => hd hheld _ (h.taken hheld), h.started, h.stands⟩
  | join =>
    simp only [Feed.step]
    split
    · rename_i hboth
      obtain ⟨hw, hf⟩ := Bool.and_eq_true_iff.mp hboth
      -- only a reader that was started is waited for
      obtain ⟨hn, he, -⟩ := feed.input.wait_frame
      refine ⟨hn.trans h.named, he.trans h.ending, h.taken, fun hw => absurd hw Bool.false_ne_true, ?_⟩
      rw [returns_answer]
      exact h.stands.wait h.named (h.started hw) hf
    · exact h

theorem follow (h : feed.Kept held origin) (hd : held → ∀ deed ∈ deeds, deed.Holds) :
    (feed.follow deeds).Kept held origin := by
  induction deeds generalizing feed with
  | nil => exact h
  | cons deed rest ih =>
    refine ih (h.step fun hheld => ?_) fun hheld => ?_
    · exact hd hheld deed List.mem_cons_self
    · exact fun deed hm => hd hheld deed (List.mem_cons_of_mem _ hm)

/-- A reader that has finished has a result, which is what is returned first. -/
theorem of_hasEnded (h : feed.Kept held origin) (he : feed.input.hasEnded = true) :
    ∃ result, Accounts (held ∧ feed.input.stopping = false) origin feed.sent result ∧
      (feed.returns = [] ∨ ∃ times,
        feed.returns = verdict origin.name result :: List.replicate times (.ok (counted result))) := by
  have hstands := h.stands
  unfold Stands at hstands
  cases hr : feed.input.reader with
  | finished result =>
    rw [hr] at hstands
    exact ⟨result, hstands.2.2, .inl hstands.1⟩
  | joined =>
    rw [hr] at hstands
    obtain ⟨result, times, ha, -, hreturns⟩ := hstands
    exact ⟨result, ha, .inr ⟨times, hreturns⟩⟩
  | _ => simp [Input.hasEnded, hr] at he

theorem of_not_hasEnded (h : feed.Kept held origin) (he : feed.input.hasEnded = false) :
    feed.returns = [] ∧ feed.sent ++ feed.input.unsent = origin.pending := by
  have hstands := h.stands
  unfold Stands at hstands
  cases hr : feed.input.reader with
  | finished result => simp [Input.hasEnded, hr] at he
  | joined => simp [Input.hasEnded, hr] at he
  | _ =>
    simp only [hr] at hstands
    exact ⟨hstands.1, hstands.2.2.2⟩

theorem sent_prefix (h : feed.Kept held origin) : feed.sent <+: origin.pending := by
  cases he : feed.input.hasEnded with
  | false => exact ⟨_, (h.of_not_hasEnded he).2⟩
  | true =>
    obtain ⟨result, ha, -⟩ := h.of_hasEnded he
    exact ha.sent_prefix

theorem hasEnded_of_returns (h : feed.Kept held origin) (hr : feed.returns ≠ []) : feed.input.hasEnded = true := by
  cases he : feed.input.hasEnded with
  | false => exact absurd (h.of_not_hasEnded he).1 hr
  | true => rfl

theorem of_returns (h : feed.Kept held origin) (hr : feed.returns ≠ []) :
    ∃ result times, Accounts (held ∧ feed.input.stopping = false) origin feed.sent result ∧
      feed.returns = verdict origin.name result :: List.replicate times (.ok (counted result)) := by
  obtain ⟨result, ha, hreturns⟩ := h.of_hasEnded (h.hasEnded_of_returns hr)
  obtain ⟨times, hreturns⟩ := hreturns.resolve_left hr
  exact ⟨result, times, ha, hreturns⟩

end Kept

/-! ## What is still sent -/

theorem rests_of_call (feed : Feed) (call : Call) :
    (feed.call call).sent = feed.sent ∧ feed.input.Rests (feed.call call).input := by
  cases call with
  | start =>
    simp only [Feed.call]
    split
    · rename_i hs
      exact ⟨rfl, Input.rests_start hs⟩
    · exact ⟨rfl, .refl _⟩
  | stop => exact ⟨rfl, feed.input.rests_stop⟩
  | wait =>
    simp only [Feed.call]
    split <;> exact ⟨rfl, .refl _⟩
  | close =>
    simp only [Feed.call]
    split
    · rename_i hb
      exact ⟨rfl, Input.rests_beginClose hb⟩
    · exact ⟨rfl, .refl _⟩

/-- Only the reader sends. -/
theorem rests_of_ne_read (feed : Feed) (hd : deed ≠ .read) :
    (feed.step deed).sent = feed.sent ∧ feed.input.Rests (feed.step deed).input := by
  cases deed with
  | call call =>
    simp only [step]
    split
    · exact ⟨rfl, .refl _⟩
    · exact feed.rests_of_call call
  | read => exact absurd rfl hd
  | receive => exact ⟨rfl, .refl _⟩
  | others change => exact ⟨rfl, .refl _⟩
  | join =>
    simp only [step]
    split
    · exact ⟨rfl, feed.input.rests_wait⟩
    · exact ⟨rfl, .refl _⟩

/-- A reader that is spent sends the event that it has passed, and passes no other. -/
theorem spent_of_acts (ho : input.Spent) (ha : input.Acts channel next channel') :
    next.Spent ∧ channel'.waiting.drop channel.waiting.length ++ next.passed <+: input.passed := by
  cases ha with
  | take hr hp =>
    refine ⟨?_, by simp [Input.passed, hr]⟩
    simpa [Input.Spent, Input.hasEnded, hr] using ho
  -- the reader looks at the request before it passes an event
  | pass hr hstop => simp [Input.Spent, hstop, Input.hasEnded, hr] at ho
  | send hr _ _ =>
    refine ⟨?_, by simp [Input.passed, hr, Channel.push]⟩
    simpa [Input.Spent, Input.hasEnded, hr] using ho
  | finish hf => exact ⟨.inr rfl, by simp [Input.passed, Channel.dropSender]⟩

/-- What a spent input has sent and may still send is no more after anything that happens. -/
theorem spent_step (ho : feed.input.Spent) (deed : Deed) :
    (feed.step deed).input.Spent ∧
      (feed.step deed).sent ++ (feed.step deed).input.passed <+: feed.sent ++ feed.input.passed := by
  by_cases hd : deed = .read
  · subst hd
    simp only [step]
    split
    · rename_i hs
      obtain ⟨ho', hpassed⟩ := spent_of_acts ho (Input.acts_of_step hs)
      refine ⟨ho', ?_⟩
      rw [List.append_assoc]
      exact (List.prefix_append_right_inj _).mpr hpassed
    · exact ⟨ho, List.prefix_refl _⟩
  · obtain ⟨hsent, hrests⟩ := feed.rests_of_ne_read hd
    rw [hsent, hrests.passed]
    exact ⟨hrests.spent ho, List.prefix_refl _⟩

theorem spent_follow (ho : feed.input.Spent) (deeds : List Deed) :
    (feed.follow deeds).input.Spent ∧
      (feed.follow deeds).sent ++ (feed.follow deeds).input.passed <+: feed.sent ++ feed.input.passed := by
  induction deeds generalizing feed with
  | nil => exact ⟨ho, List.prefix_refl _⟩
  | cons deed rest ih =>
    obtain ⟨ho', hstep⟩ := spent_step ho deed
    obtain ⟨ho'', hrest⟩ := ih ho'
    exact ⟨ho'', hrest.trans hstep⟩

/-- What was sent stays sent. -/
theorem sent_prefix_follow (feed : Feed) (deeds : List Deed) : feed.sent <+: (feed.follow deeds).sent := by
  induction deeds generalizing feed with
  | nil => exact List.prefix_refl _
  | cons deed rest ih =>
    refine List.IsPrefix.trans ?_ (ih (feed.step deed))
    by_cases hd : deed = .read
    · subst hd
      simp only [step]
      split
      · exact List.prefix_append _ _
      · exact List.prefix_refl _
    · exact (feed.rests_of_ne_read hd).1 ▸ List.prefix_refl _

/-! ## Until a call returns -/

/-- What there is to do until a call that waits returns. -/
def load (feed : Feed) : Nat := feed.input.toil + feed.channel.waiting.length + feed.waits.toNat

/-- The deeds of which one is due as long as a call waits. -/
def dues : List Deed := [.read, .receive, .join]

/-- Others leave the channel as it is, but for what they take. -/
def Deed.Quiet : Deed → Prop
  | .others _ => False
  | _ => True

instance : DecidablePred Deed.Quiet
  | .others _ => isFalse id
  | .call _ | .read | .receive | .join => isTrue trivial

theorem Deed.Quiet.holds (h : deed.Quiet) : deed.Holds := by
  cases deed with
  | others change => cases h
  | _ => trivial

/-- Rounds in which the reader goes on and somebody takes what it sends, as many as there is to do. -/
structure Fair (feed : Feed) (rounds : List (List Deed)) : Prop where
  quiet : ∀ round ∈ rounds, ∀ deed ∈ round, deed.Quiet
  due : ∀ round ∈ rounds, ∀ deed ∈ dues, deed ∈ round
  enough : feed.load ≤ rounds.length

theorem fair_replicate {times : Nat} (h : feed.load ≤ times) : feed.Fair (List.replicate times dues) := by
  have hquiet : ∀ deed ∈ dues, deed.Quiet := by decide
  refine ⟨fun round hm => ?_, fun round hm deed hd => ?_, by rwa [List.length_replicate]⟩
  · exact List.eq_of_mem_replicate hm ▸ hquiet
  · exact List.eq_of_mem_replicate hm ▸ hd

/-- A call that waited has returned since. -/
def Returned (earlier : List Answer) (feed : Feed) : Prop :=
  ∃ result rest, feed.answers = earlier ++ .returned result :: rest

/-- A call waits, or has returned. -/
structure Awaited (origin : Input) (earlier : List Answer) (feed : Feed) : Prop where
  kept : feed.Kept False origin
  waits : (feed.waits = true ∧ feed.answers = earlier) ∨ Returned earlier feed

theorem answers_prefix_call (feed : Feed) (call : Call) : feed.answers <+: (feed.call call).answers := by
  cases call with
  | start =>
    simp only [Feed.call]
    split <;> exact List.prefix_append _ _
  | stop => exact List.prefix_append _ _
  | wait =>
    simp only [Feed.call]
    split
    · exact List.prefix_append _ _
    · exact List.prefix_refl _
  | close =>
    simp only [Feed.call]
    split
    · exact List.prefix_refl _
    · exact List.prefix_append _ _

theorem answers_prefix_step (feed : Feed) (deed : Deed) : feed.answers <+: (feed.step deed).answers := by
  cases deed with
  | call call =>
    simp only [step]
    split
    · exact List.prefix_refl _
    · exact feed.answers_prefix_call call
  | read =>
    simp only [step]
    split <;> exact List.prefix_refl _
  | receive => exact List.prefix_refl _
  | others change => exact List.prefix_refl _
  | join =>
    simp only [step]
    split
    · exact List.prefix_append _ _
    · exact List.prefix_refl _

theorem Returned.step {earlier : List Answer} (h : Returned earlier feed) (deed : Deed) :
    Returned earlier (feed.step deed) := by
  obtain ⟨result, rest, ha⟩ := h
  obtain ⟨more, hm⟩ := feed.answers_prefix_step deed
  exact ⟨result, rest ++ more, by simp [← hm, ha]⟩

theorem Returned.returns_ne_nil {earlier : List Answer} (h : Returned earlier feed) : feed.returns ≠ [] := by
  obtain ⟨result, rest, ha⟩ := h
  simp [returns, ha]

theorem returned_of_join (hw : feed.waits = true) (hf : feed.input.isFinished = true) :
    Returned feed.answers (feed.step .join) :=
  ⟨feed.input.wait.2, [], by simp [Feed.step, hw, hf, answer]⟩

/-- As long as a call waits, it goes on waiting, or the reader has finished and it returns. -/
theorem step_of_waits (hw : feed.waits = true) (deed : Deed) :
    ((feed.step deed).waits = true ∧ (feed.step deed).answers = feed.answers) ∨
      (deed = .join ∧ feed.input.isFinished = true) := by
  cases deed with
  | call call => exact .inl (by simp [step, hw])
  | read =>
    simp only [step]
    split <;> exact .inl ⟨hw, rfl⟩
  | receive => exact .inl ⟨hw, rfl⟩
  | others change => exact .inl ⟨hw, rfl⟩
  | join =>
    cases hf : feed.input.isFinished with
    | true => exact .inr ⟨rfl, rfl⟩
    | false => exact .inl (by simp [step, hw, hf])

theorem load_join (hw : feed.waits = true) (hf : feed.input.isFinished = true) :
    (feed.step .join).load < feed.load := by
  have := feed.input.toil_wait
  simp only [step, hw, hf, Bool.and_self, ↓reduceIte, answer, load, Bool.toNat_true, Bool.toNat_false]
  omega

theorem load_read (hs : (feed.input.step feed.channel).isSome = true) : (feed.step .read).load < feed.load := by
  obtain ⟨⟨next, channel⟩, hs⟩ := Option.isSome_iff_exists.mp hs
  have := (Input.acts_of_step hs).wanes
  simp only [step, hs, load]
  omega

theorem load_receive (hw : feed.channel.waiting ≠ []) : (feed.step .receive).load < feed.load := by
  obtain ⟨event, rest, hw⟩ := List.exists_cons_of_ne_nil hw
  simp only [step, Channel.take?, hw, load, Option.elim_some, List.length_cons]
  omega

theorem due_of_waits (hi : feed.input.ending ≠ .idles) (hw : feed.waits = true) :
    ∃ deed ∈ dues, (feed.step deed).load < feed.load := by
  cases hf : feed.input.isFinished with
  | true => exact ⟨.join, by simp [dues], load_join hw hf⟩
  | false =>
    -- a reader that cannot go on has a full channel before it, from which something can be taken
    rcases Input.step_isSome_or feed.channel hf hi with hs | hfull
    · exact ⟨.read, by simp [dues], load_read hs⟩
    · exact ⟨.receive, by simp [dues], load_receive hfull.waiting_ne_nil⟩

theorem read_eq_or (feed : Feed) : feed.step .read = feed ∨ (feed.step .read).load < feed.load := by
  cases hs : feed.input.step feed.channel with
  | none => exact .inl (by simp [step, hs])
  | some next => exact .inr (load_read (by simp [hs]))

theorem receive_eq_or (feed : Feed) : feed.step .receive = feed ∨ (feed.step .receive).load < feed.load := by
  cases hw : feed.channel.waiting with
  | nil => exact .inl (by simp [step, Channel.take?, hw])
  | cons event rest => exact .inr (load_receive (by simp [hw]))

theorem waning (hi : origin.ending ≠ .idles) (earlier : List Answer) :
    Waning step load (fun _ => 0) dues Deed.Quiet (Awaited origin earlier) (Returned earlier) where
  keeps := by
    intro feed deed hq h
    refine ⟨h.kept.step nofun, ?_⟩
    rcases h.waits with ⟨hw, ha⟩ | hr
    · rcases step_of_waits hw deed with ⟨hw', ha'⟩ | ⟨rfl, hf⟩
      · exact .inl ⟨hw', ha'.trans ha⟩
      · exact .inr (ha ▸ returned_of_join hw hf)
    · exact .inr (hr.step deed)
  wanes := by
    intro feed deed hq h hr
    obtain ⟨hw, ha⟩ := h.waits.resolve_right hr
    cases deed with
    | call call => exact .inl (by simp [step, hw])
    | read => exact feed.read_eq_or
    | receive => exact feed.receive_eq_or
    | others change => cases hq
    | join =>
      cases hf : feed.input.isFinished with
      | false => exact .inl (by simp [step, hw, hf])
      | true => exact .inr (load_join hw hf)
  stays := fun _ hr => hr.step _
  due := fun h hr => due_of_waits (h.kept.ending ▸ hi) (h.waits.resolve_right hr).1

/-- A call that waits returns when the reader goes on and what it sends is taken. -/
theorem Fair.returned {rounds : List (List Deed)} (hf : feed.Fair rounds) (h : feed.Kept False origin)
    (hi : origin.ending ≠ .idles) (hw : feed.waits = true) : Returned feed.answers (feed.follow rounds.flatten) := by
  refine (waning hi feed.answers).done_of_rounds hf.quiet hf.due ⟨h, .inl ⟨hw, rfl⟩⟩ ?_
  rw [Waning.total_zero]
  exact hf.enough

/-! ## Going on -/

theorem settleWithin_follows (limit : Nat) (feed : Feed) :
    ∃ times, let after := feed.follow (List.replicate times .read)
      Input.settleWithin limit feed.input feed.channel = (after.input, after.channel) ∧
        after.waits = feed.waits ∧ after.answers = feed.answers := by
  induction limit generalizing feed with
  | zero => exact ⟨0, rfl, rfl, rfl⟩
  | succ limit ih =>
    simp only [Input.settleWithin]
    split
    · rename_i next channel hs
      obtain ⟨times, hsettle, hwaits, hanswers⟩ := ih (feed.step .read)
      have hstep : (feed.step .read).input = next ∧ (feed.step .read).channel = channel ∧
          (feed.step .read).waits = feed.waits ∧ (feed.step .read).answers = feed.answers := by
        simp [step, hs]
      obtain ⟨hi, hc, hw, ha⟩ := hstep
      rw [hi, hc] at hsettle
      exact ⟨times + 1, hsettle, hwaits.trans hw, hanswers.trans ha⟩
    · exact ⟨0, rfl, rfl, rfl⟩

/-- To let the reader go on is to let it take one step after the other, until it has to wait or has finished; no call
returns meanwhile. -/
theorem settle_follows (feed : Feed) :
    ∃ times, let after := feed.follow (List.replicate times .read)
      feed.input.settle feed.channel = (after.input, after.channel) ∧
        after.input.step after.channel = none ∧ after.waits = feed.waits ∧ after.answers = feed.answers := by
  obtain ⟨times, hsettle, hwaits, hanswers⟩ :=
    settleWithin_follows (3 * feed.input.pending.length + 4) feed
  have hstops := feed.input.step_settle feed.channel
  rw [show feed.input.settle feed.channel = _ from hsettle] at hstops
  exact ⟨times, hsettle, hstops, hwaits, hanswers⟩

end Feed

end LogPipeline
