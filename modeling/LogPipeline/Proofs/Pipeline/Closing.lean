import LogPipeline.Proofs.Pipeline.Turn

/-!
# Closing a controller

A session is a controller between two channels, with a record of what could be seen from outside: which
events were sent, who took which event, how it was counted, what was put on the outbound channel. Senders,
workers and those who take from the outbound channel act in any order. `close_accounts` says what is known when
all workers have gone after a call to close.
-/

namespace LogPipeline

/-- What an event was counted as. -/
inductive Fate where
  | delivered
  | dropped
  | undeliverable
  deriving DecidableEq, Repr

/-- What was counted last, by the counts before and after. -/
def Fate.between (before after : Stats) : Fate :=
  if before.delivered < after.delivered then .delivered
  else if before.dropped < after.dropped then .dropped
  else .undeliverable

/-- An event as it was taken, who took it, and what it was counted as. -/
structure Settlement where
  worker : Nat
  event : Event
  fate : Fate

/-- What an event is counted as, by how it left the chain. -/
def Fate.ofOutcome : Outcome → Fate
  | .delivered => .delivered
  | .dropped => .dropped
  | .undeliverable _ => .undeliverable

theorem Fate.between_count (stats : Stats) (outcome : Outcome) :
    Fate.between stats (stats.count outcome) = .ofOutcome outcome := by
  cases outcome <;> simp [between, Stats.count, ofOutcome]

structure Session where
  controller : Controller
  inbound : Channel
  outbound : Channel
  /-- The events whose sending was completed, in order. -/
  sent : List Event
  /-- Which worker took which event, in order. -/
  taken : List (Nat × Event) := []
  settled : List Settlement := []
  /-- The events that were put on the outbound channel, in order. -/
  put : List Event := []

/-- What can happen around a controller. -/
inductive Act where
  /-- Somebody sends an event. That may be refused, or have to wait. -/
  | send (event : Event)
  /-- A sender of the inbound channel is copied. -/
  | addSender
  | dropSender
  | work (worker : Nat)
  /-- Somebody takes an event from the outbound channel. -/
  | receive
  /-- A receiver of the outbound channel is given up. -/
  | dropReceiver

namespace Controller

/-- Controllers that differ in nothing but how far they have come. -/
def Alike (a b : Controller) : Prop :=
  a.name = b.name ∧ a.chain = b.chain ∧ a.poolSize = b.poolSize

theorem Alike.rfl {a : Controller} : a.Alike a := ⟨Eq.refl _, Eq.refl _, Eq.refl _⟩

theorem Alike.trans {a b c : Controller} (h : a.Alike b) (h' : b.Alike c) : a.Alike c :=
  ⟨h.1.trans h'.1, h.2.1.trans h'.2.1, h.2.2.trans h'.2.2⟩

end Controller

namespace Session

/-- A controller is started between two channels. -/
def start? (controller : Controller) (inbound outbound : Channel) : Except LifecycleError Session :=
  (controller.start ⟨inbound, .forward outbound⟩).map fun (controller, ports) =>
    { controller := controller
      inbound := ports.inbound
      outbound := ports.sentinel.channel?.getD outbound
      sent := inbound.waiting }

/-- The events that a worker took, in order. -/
def takenBy (session : Session) (worker : Nat) : List Event :=
  (session.taken.filter fun entry => entry.1 = worker).map Prod.snd

/-- The events of a worker that have been counted, in order. -/
def settledBy (session : Session) (worker : Nat) : List Event :=
  (session.settled.filter fun entry => entry.worker = worker).map Settlement.event

/-- Records what is seen of a worker: that it took an event, or that the event that it took last has been
counted. -/
def note (session : Session) (index : Nat) (before after : Worker) : Session :=
  match before.task, after.task with
  | .waiting, .carrying event _ => { session with taken := session.taken ++ [(index, event)] }
  | .carrying .., .waiting =>
    match (session.takenBy index).getLast? with
    | some event =>
      { session with
        settled := session.settled ++ [⟨index, event, .between before.stats after.stats⟩] }
    | none => session
  | _, _ => session

/-- A worker does its next thing, if there is one. -/
def work? (session : Session) (index : Nat) : Option Session :=
  (session.controller.move? ⟨session.inbound, .forward session.outbound⟩ index).map
    fun (controller, ports) =>
      let noted :=
        match session.controller.workers[index]?, controller.workers[index]? with
        | some before, some after => session.note index before after
        | _, _ => session
      let outbound := ports.sentinel.channel?.getD session.outbound
      { noted with
        controller := controller
        inbound := ports.inbound
        outbound := outbound
        put := session.put ++ outbound.waiting.drop session.outbound.waiting.length }

/-- Nobody can send, or become able to, once all senders are gone. What cannot be done changes nothing. -/
def step (session : Session) : Act → Session
  | .send event =>
    if session.inbound.senders = 0 then session
    else
      match session.inbound.send? event with
      | some (.accepted inbound) =>
        { session with inbound := inbound, sent := session.sent ++ [event] }
      | _ => session
  | .addSender =>
    if session.inbound.senders = 0 then session
    else { session with inbound := session.inbound.addSenders 1 }
  | .dropSender => { session with inbound := session.inbound.dropSender }
  | .work index => (session.work? index).getD session
  | .receive =>
    match session.outbound.take? with
    | some (_, outbound) => { session with outbound := outbound }
    | none => session
  | .dropReceiver => { session with outbound := session.outbound.dropReceiver }

def follow (session : Session) (acts : List Act) : Session := acts.foldl step session

/-- The call to close, up to the point where it waits for the workers. -/
def beginClose? (session : Session) : Except LifecycleError Session :=
  session.controller.beginClose.map fun controller => { session with controller := controller }

/-! ## What a step keeps -/

/-- The events that a worker took are those that have been counted and the one that it carries, which has gone
through as many stages as it says. -/
def Holds (session : Session) (index : Nat) (worker : Worker) : Prop :=
  match worker.task with
  | .carrying event passed => ∃ original,
      session.takenBy index = session.settledBy index ++ [original] ∧
        Chain.passThrough (session.controller.chain.stages.drop passed) event =
          session.controller.chain.pass original
  | _ => session.takenBy index = session.settledBy index

/-- What was put on the outbound channel for a settlement. -/
def putFor (chain : Chain) (settlement : Settlement) : List Event :=
  if settlement.fate = .delivered then chain.image settlement.event else []

/-- What holds as long as there are workers; `admitted` had been sent when closing began. -/
structure Kept (session : Session) (admitted : List Event) (closing : Bool) (workers : List Worker) :
    Prop where
  running : session.controller.state = .running closing workers
  size : workers.length = session.controller.poolSize
  unbroken : ∀ worker ∈ workers, worker.hasPanicked = false
  receivers : staying workers ≤ session.inbound.receivers
  fifo : ∃ rest, session.sent = session.taken.map Prod.snd ++ rest ∧
    (0 < staying workers → rest = session.inbound.waiting)
  promised : admitted <+: session.sent
  gone : staying workers < workers.length →
    (session.inbound.senders = 0 ∧ session.sent = session.taken.map Prod.snd) ∨
      (closing = true ∧ admitted <+: session.taken.map Prod.snd)
  holds : ∀ index worker, workers[index]? = some worker → session.Holds index worker
  inside : (∀ entry ∈ session.taken, entry.1 < workers.length) ∧
    ∀ entry ∈ session.settled, entry.worker < workers.length
  counts : Controller.merged workers = {
    received := session.taken.length
    delivered := session.settled.countP (·.fate = .delivered)
    dropped := session.settled.countP (·.fate = .dropped)
    undeliverable := session.settled.countP (·.fate = .undeliverable) }
  fates : ∀ entry ∈ session.settled,
    if entry.fate = .dropped then session.controller.chain.pass entry.event = .dropped
    else ∃ event, session.controller.chain.pass entry.event = .passed event
  put : session.put = session.settled.flatMap (putFor session.controller.chain)

variable {session next : Session} {admitted : List Event} {closing : Bool} {workers : List Worker}
  {worker : Worker} {index : Nat} {turn : Worker.Turn}

theorem forward_of_acts {chain : Chain} {inbound outbound : Channel}
    (h : worker.Acts chain closing ⟨inbound, .forward outbound⟩ turn) :
    ∃ outbound', turn.ports.sentinel = .forward outbound' := by
  cases h with
  | deliver _ ha =>
    obtain ⟨sent, -, hs⟩ := Option.map_eq_some_iff.mp ha
    cases sent <;> cases hs <;> exact ⟨_, rfl⟩
  | _ => exact ⟨_, rfl⟩

theorem of_work? (h : session.work? index = some next) :
    ∃ closing workers worker turn outbound, session.controller.state = .running closing workers ∧
      workers[index]? = some worker ∧
      worker.Acts session.controller.chain closing ⟨session.inbound, .forward session.outbound⟩ turn ∧
      turn.ports.sentinel = .forward outbound ∧
      next = { session.note index worker turn.worker with
        controller := { session.controller with
          state := .running closing (workers.set index turn.worker)
          calls := turn.calls ++ session.controller.calls }
        inbound := turn.ports.inbound
        outbound := outbound
        put := session.put ++ outbound.waiting.drop session.outbound.waiting.length } := by
  obtain ⟨⟨controller, ports⟩, hm, rfl⟩ := Option.map_eq_some_iff.mp h
  obtain ⟨closing, workers, worker, turn, hs, hw, ha, rfl, rfl⟩ := Controller.of_move? hm
  obtain ⟨outbound, ho⟩ := forward_of_acts ha
  refine ⟨closing, workers, worker, turn, outbound, hs, hw, ha, ho, ?_⟩
  have hi : index < workers.length := (List.getElem?_eq_some_iff.mp hw).1
  simp only [Controller.workers, hs, hw, List.getElem?_set_self hi, ho, Sentinel.channel?,
    Option.getD_some]

theorem index_lt (hi : workers[index]? = some worker) : index < workers.length :=
  (List.getElem?_eq_some_iff.mp hi).1

theorem takenBy_append (session : Session) (index other : Nat) (event : Event) :
    takenBy { session with taken := session.taken ++ [(index, event)] } other =
      session.takenBy other ++ if index = other then [event] else [] := by
  by_cases h : index = other <;> simp [takenBy, h]

theorem settledBy_append (session : Session) (entry : Settlement) (other : Nat) :
    settledBy { session with settled := session.settled ++ [entry] } other =
      session.settledBy other ++ if entry.worker = other then [entry.event] else [] := by
  by_cases h : entry.worker = other <;> simp [settledBy, h]

namespace Kept

theorem unbroken_set (h : session.Kept admitted closing workers) (index : Nat)
    (hw : worker.hasPanicked = false) :
    ∀ other ∈ workers.set index worker, other.hasPanicked = false := by
  intro other hm
  rcases List.mem_or_eq_of_mem_set hm with hm | rfl
  · exact h.unbroken other hm
  · exact hw

/-- Of the other workers there is nothing new to record. -/
theorem holds_set {after : Worker} (h : session.Kept admitted closing workers)
    (hi : workers[index]? = some worker) (hc : next.controller.chain = session.controller.chain)
    (ht : ∀ other, other ≠ index → next.takenBy other = session.takenBy other)
    (hs : ∀ other, other ≠ index → next.settledBy other = session.settledBy other)
    (hself : next.Holds index after) :
    ∀ other worker, (workers.set index after)[other]? = some worker → next.Holds other worker := by
  intro other worker' hw
  by_cases he : other = index
  · subst he
    rw [List.getElem?_set_self (index_lt hi)] at hw
    cases hw
    exact hself
  · rw [List.getElem?_set_ne (Ne.symm he)] at hw
    have := h.holds other worker' hw
    simpa only [Holds, hc, ht other he, hs other he] using this

theorem take (h : session.Kept admitted closing workers) {stats : Stats} {event : Event}
    {rest : List Event} (hi : workers[index]? = some ⟨.waiting, stats⟩)
    (hw : session.inbound.waiting = event :: rest) :
    let after : Worker := ⟨.carrying event 0, { stats with received := stats.received + 1 }⟩
    Kept { session with
      controller := { session.controller with state := .running closing (workers.set index after) }
      inbound := { session.inbound with waiting := rest }
      taken := session.taken ++ [(index, event)] } admitted closing (workers.set index after) := by
  intro after
  have hstay := staying_set_of_stays after hi rfl rfl
  have hpos := staying_pos hi rfl
  obtain ⟨sentRest, hf, hrest⟩ := h.fifo
  -- this worker is still there, so what was sent and not taken is what waits, of which it takes the first
  obtain rfl : sentRest = event :: rest := (hrest hpos).trans hw
  refine { h with
    running := rfl
    size := by simpa using h.size
    unbroken := h.unbroken_set index rfl
    receivers := ?_, fifo := ?_, gone := ?_, holds := ?_, inside := ?_, counts := ?_ }
  · simpa only [hstay] using h.receivers
  · exact ⟨rest, by simp [hf], fun _ => rfl⟩
  -- if all that was sent had been taken, nothing could have been waiting
  · intro hg
    rcases h.gone (by simpa [hstay] using hg) with ⟨-, heq⟩ | ⟨hc, hp⟩
    · rw [hf] at heq
      simp at heq
    · exact .inr ⟨hc, by simpa using hp.trans (List.prefix_append _ _)⟩
  · refine h.holds_set hi rfl (fun other ho => ?_) (fun _ _ => rfl) ?_
    · exact (takenBy_append session index other event).trans (by simp [Ne.symm ho])
    · refine ⟨event, ?_, rfl⟩
      have := h.holds index _ hi
      refine (takenBy_append session index index event).trans ?_
      simp only [Holds] at this
      simp only [this, ↓reduceIte]
      rfl
  · simp only [List.length_set]
    refine ⟨fun entry he => ?_, h.inside.2⟩
    rcases List.mem_append.mp he with he | he
    · exact h.inside.1 entry he
    · obtain rfl : entry = (index, event) := by simpa using he
      exact index_lt hi
  · rw [Controller.merged_set { received := 1 } h.unbroken hi rfl rfl, h.counts]
    simp [Stats.add]

theorem leave (h : session.Kept admitted closing workers) {stats : Stats}
    (hi : workers[index]? = some ⟨.waiting, stats⟩) (hw : session.inbound.waiting = [])
    (hl : closing = true ∨ session.inbound.senders = 0) {outbound : Channel} :
    let after : Worker := ⟨.left, stats⟩
    Kept { session with
      controller := { session.controller with state := .running closing (workers.set index after) }
      inbound := session.inbound.dropReceiver
      outbound := outbound } admitted closing (workers.set index after) := by
  intro after
  have hstay := staying_set_of_goes after hi rfl rfl
  have hpos := staying_pos hi rfl
  obtain ⟨rest, hf, hrest⟩ := h.fifo
  -- nothing waits while this worker is still there, so all that was sent has been taken
  obtain rfl : rest = [] := (hrest hpos).trans hw
  have hsent : session.sent = session.taken.map Prod.snd := by simpa using hf
  refine { h with
    running := rfl
    size := by simpa using h.size
    unbroken := h.unbroken_set index rfl
    receivers := ?_, fifo := ?_, gone := ?_, holds := ?_, inside := by simpa using h.inside
    counts := ?_ }
  · have := h.receivers
    simp only [Channel.dropReceiver]
    omega
  · exact ⟨[], hf, fun _ => by simp [Channel.dropReceiver, hw]⟩
  · intro _
    rcases hl with hc | hs
    · exact .inr ⟨hc, hsent ▸ h.promised⟩
    · exact .inl ⟨hs, hsent⟩
  · exact h.holds_set hi rfl (fun _ _ => rfl) (fun _ _ => rfl) (h.holds index _ hi)
  · rw [Controller.merged_set {} h.unbroken hi rfl rfl, h.counts]
    rfl

theorem pass (h : session.Kept admitted closing workers) {stats : Stats} {event changed : Event}
    {passed : Nat} {stage : Stage} {written : String} {calls : List Call}
    (hi : workers[index]? = some ⟨.carrying event passed, stats⟩)
    (hs : session.controller.chain.stages[passed]? = some stage)
    (hp : stage.process event = .flow (.continue changed) written) :
    let after : Worker := ⟨.carrying changed (passed + 1), stats⟩
    Kept { session with
      controller := { session.controller with
        state := .running closing (workers.set index after)
        calls := calls } } admitted closing (workers.set index after) := by
  intro after
  have hstay := staying_set_of_stays after hi rfl rfl
  refine { h with
    running := rfl
    size := by simpa using h.size
    unbroken := h.unbroken_set index rfl
    receivers := by simpa only [hstay] using h.receivers
    fifo := by simpa only [hstay] using h.fifo
    gone := by simpa only [hstay, List.length_set] using h.gone
    holds := ?_, inside := by simpa using h.inside, counts := ?_ }
  · obtain ⟨original, ho, he⟩ := h.holds index _ hi
    exact h.holds_set hi rfl (fun _ _ => rfl) (fun _ _ => rfl)
      ⟨original, ho, (Chain.passThrough_of_continue hs hp).symm.trans he⟩
  · rw [Controller.merged_set {} h.unbroken hi rfl rfl, h.counts]
    rfl

/-- The event that a worker carries has been counted, and the worker is back. -/
theorem settle (h : session.Kept admitted closing workers) {stats : Stats} {event original : Event}
    {passed : Nat} {outbound : Channel} {calls : List Call} {put : List Event}
    (hi : workers[index]? = some ⟨.carrying event passed, stats⟩)
    (ho : session.takenBy index = session.settledBy index ++ [original]) (outcome : Outcome)
    (hf : if Fate.ofOutcome outcome = .dropped then session.controller.chain.pass original = .dropped
      else ∃ event, session.controller.chain.pass original = .passed event)
    (hput : put = session.put ++
      putFor session.controller.chain ⟨index, original, .ofOutcome outcome⟩) :
    let after : Worker := ⟨.waiting, stats.count outcome⟩
    Kept { session with
      controller := { session.controller with
        state := .running closing (workers.set index after)
        calls := calls }
      outbound := outbound
      settled := session.settled ++ [⟨index, original, .ofOutcome outcome⟩]
      put := put } admitted closing (workers.set index after) := by
  intro after
  have hstay := staying_set_of_stays after hi rfl rfl
  let entry : Settlement := ⟨index, original, .ofOutcome outcome⟩
  refine { h with
    running := rfl
    size := by simpa using h.size
    unbroken := h.unbroken_set index rfl
    receivers := by simpa only [hstay] using h.receivers
    fifo := by simpa only [hstay] using h.fifo
    gone := by simpa only [hstay, List.length_set] using h.gone
    holds := ?_, inside := ?_, counts := ?_, fates := ?_, put := ?_ }
  · refine h.holds_set hi rfl (fun _ _ => rfl) (fun other hne => ?_) ?_
    · exact (settledBy_append session entry other).trans (by simp [entry, Ne.symm hne])
    · refine ho.trans ((settledBy_append session entry index).trans ?_).symm
      simp [entry]
  · simp only [List.length_set]
    refine ⟨h.inside.1, fun other hm => ?_⟩
    rcases List.mem_append.mp hm with hm | hm
    · exact h.inside.2 other hm
    · obtain rfl : other = entry := by simpa using hm
      exact index_lt hi
  · rw [Controller.merged_set _ h.unbroken hi rfl (Stats.count_eq_add _ _), h.counts]
    cases outcome <;> simp [Stats.add, Stats.ofOutcome, Stats.count, Fate.ofOutcome]
  · intro other hm
    rcases List.mem_append.mp hm with hm | hm
    · exact h.fates other hm
    · obtain rfl : other = entry := by simpa using hm
      exact hf
  · simp [hput, h.put]

theorem work (h : session.Kept admitted closing workers) (hc : session.controller.chain.Steady)
    (hw : session.work? index = some next) :
    next.controller.Alike session.controller ∧
      ∃ workers', next.Kept admitted closing workers' := by
  obtain ⟨closing', workers', worker, turn, outbound, hs, hi, ha, ho, rfl⟩ := of_work? hw
  obtain ⟨rfl, rfl⟩ : closing' = closing ∧ workers' = workers := by
    simpa [h.running, eq_comm] using hs
  refine ⟨.rfl, workers'.set index turn.worker, ?_⟩
  -- the record of a step is read off the worker before and after it; `Holds` ties what is carried to the event
  -- that was taken, and so to what the chain makes of it
  cases ha with
  | take hq =>
    cases ho
    simpa [note] using h.take hi hq
  | leave hq hl =>
    cases ho
    simpa [note, Ports.leave, Sentinel.dropSender, Channel.dropSender] using h.leave hi hq hl
  | pass hst hp =>
    cases ho
    simpa [note] using h.pass hi hst hp
  | drop hst hp =>
    cases ho
    obtain ⟨original, htaken, he⟩ := h.holds index _ hi
    have hd : session.controller.chain.pass original = .dropped :=
      he.symm.trans (Chain.passThrough_of_drop hst hp)
    have hlast : (session.takenBy index).getLast? = some original := by simp [htaken]
    simpa [note, hlast, Fate.between_count] using h.settle hi htaken .dropped hd
      (by simp [putFor, Fate.ofOutcome])
  | panic hst hp => exact absurd hp (hc _ (List.mem_of_getElem? hst) _)
  | @deliver stats event passed outcome sentinel hst hacc =>
    obtain ⟨original, htaken, he⟩ := h.holds index _ hi
    have hpass := he.symm.trans (Chain.passThrough_of_end hst)
    have hlast : (session.takenBy index).getLast? = some original := by simp [htaken]
    obtain ⟨sent, hsend, heq⟩ := Option.map_eq_some_iff.mp hacc
    cases sent with
    | accepted channel =>
      obtain ⟨rfl, rfl⟩ := Prod.mk.inj heq
      obtain rfl : channel = outbound := by simpa using ho
      obtain ⟨-, -, rfl⟩ := Channel.send?_eq_accepted_iff.mp hsend
      simpa [note, hlast, Fate.between_count] using h.settle hi htaken .delivered ⟨_, hpass⟩
        (by simp [Channel.push, putFor, Fate.ofOutcome, Chain.image, hpass, Passage.events])
    | refused =>
      obtain ⟨rfl, rfl⟩ := Prod.mk.inj heq
      obtain rfl : session.outbound = outbound := by simpa using ho
      simpa [note, hlast, Fate.between_count] using h.settle hi htaken (.undeliverable _) ⟨_, hpass⟩
        (by simp [putFor, Fate.ofOutcome])

/-- The senders do what they can, which is nothing once all of them are gone. -/
theorem send (h : session.Kept admitted closing workers) (event : Event) :
    (session.step (.send event)).Kept admitted closing workers := by
  simp only [step]
  split
  · exact h
  rename_i hs
  split
  · rename_i channel hsend
    obtain ⟨-, -, rfl⟩ := Channel.send?_eq_accepted_iff.mp hsend
    obtain ⟨rest, hf, hrest⟩ := h.fifo
    refine { h with receivers := h.receivers, fifo := ?_, promised := ?_, gone := ?_ }
    -- what waits has grown by the same event at the same end
    · refine ⟨rest ++ [event], by simp [hf], fun hp => ?_⟩
      simp [Channel.push, hrest hp]
    · exact h.promised.trans (List.prefix_append _ _)
    · intro hg
      -- a worker that went because nobody could send any more rules out that somebody does
      rcases h.gone hg with ⟨hzero, -⟩ | hright
      · exact absurd hzero hs
      · exact .inr hright
  · exact h

theorem addSender (h : session.Kept admitted closing workers) :
    (session.step .addSender).Kept admitted closing workers := by
  simp only [step]
  split
  · exact h
  · rename_i hs
    refine { h with receivers := h.receivers, fifo := h.fifo, gone := fun hg => ?_ }
    rcases h.gone hg with ⟨hzero, -⟩ | hright
    · exact absurd hzero hs
    · exact .inr hright

theorem dropSender (h : session.Kept admitted closing workers) :
    (session.step .dropSender).Kept admitted closing workers := by
  refine { h with receivers := h.receivers, fifo := h.fifo, gone := fun hg => ?_ }
  rcases h.gone hg with ⟨hzero, hsent⟩ | hright
  · exact .inl ⟨by simp [step, Channel.dropSender, hzero], hsent⟩
  · exact .inr hright

theorem step (h : session.Kept admitted closing workers) (hc : session.controller.chain.Steady)
    (act : Act) : (session.step act).controller.Alike session.controller ∧
      ∃ workers', (session.step act).Kept admitted closing workers' := by
  cases act with
  | send event =>
    refine ⟨?_, workers, h.send event⟩
    simp only [Session.step]
    repeat' split
    all_goals exact .rfl
  | addSender =>
    refine ⟨?_, workers, h.addSender⟩
    simp only [Session.step]
    split <;> exact .rfl
  | dropSender => exact ⟨.rfl, workers, h.dropSender⟩
  | work index =>
    simp only [Session.step]
    cases hw : session.work? index with
    | none => exact ⟨.rfl, workers, h⟩
    | some next => exact h.work hc hw
  | receive =>
    simp only [Session.step]
    split
    · exact ⟨.rfl, workers, { h with }⟩
    · exact ⟨.rfl, workers, h⟩
  | dropReceiver => exact ⟨.rfl, workers, { h with }⟩

theorem follow (h : session.Kept admitted closing workers) (hc : session.controller.chain.Steady)
    (acts : List Act) : (session.follow acts).controller.Alike session.controller ∧
      ∃ workers', (session.follow acts).Kept admitted closing workers' := by
  induction acts generalizing session workers with
  | nil => exact ⟨.rfl, workers, h⟩
  | cons act rest ih =>
    obtain ⟨halike, workers', h'⟩ := h.step hc act
    obtain ⟨hrest, hkept⟩ := ih h' (halike.2.1 ▸ hc)
    exact ⟨hrest.trans halike, hkept⟩

end Kept

/-- A controller that was just started: its workers wait, and nothing has been taken. -/
theorem kept_of_start? {controller : Controller} {inbound outbound : Channel}
    (h : start? controller inbound outbound = .ok session) :
    session.controller.Alike controller ∧ ∃ workers, session.Kept [] false workers := by
  unfold start? Controller.start at h
  split at h
  · cases h
    let fresh : Worker := {}
    have hmem : ∀ worker ∈ List.replicate controller.poolSize fresh, worker = fresh :=
      fun worker hm => List.eq_of_mem_replicate hm
    have hstay : staying (List.replicate controller.poolSize fresh) = controller.poolSize :=
      staying_replicate controller.poolSize
    refine ⟨.rfl, List.replicate controller.poolSize fresh, ?_⟩
    exact {
      running := rfl
      size := by simp
      unbroken := fun worker hm => by rw [hmem worker hm]; rfl
      receivers := by simp [hstay, Channel.addReceivers]
      fifo := ⟨_, rfl, fun _ => rfl⟩
      promised := List.nil_prefix
      gone := by simp [hstay]
      holds := fun index worker hw => by rw [hmem worker (List.mem_of_getElem? hw)]; rfl
      inside := by simp
      counts := Controller.merged_replicate _
      fates := by simp
      put := rfl }
  · cases h
  · cases h

/-- The call to close notes what had been sent by then. -/
theorem Kept.beginClose {shut : Session} (h : session.Kept [] false workers)
    (hb : session.beginClose? = .ok shut) :
    shut.controller.Alike session.controller ∧ shut.Kept session.sent true workers := by
  unfold beginClose? Controller.beginClose at hb
  rw [h.running] at hb
  cases hb
  refine ⟨.rfl, { h with running := rfl, promised := List.prefix_rfl, gone := fun hg => ?_ }⟩
  -- nobody has left on account of closing yet
  rcases h.gone hg with hleft | ⟨hfalse, -⟩
  · exact .inl hleft
  · cases hfalse

/-! ## When all workers have gone -/

/-- Lists of owned things that agree for every owner hold the same things. -/
theorem perm_of_owners {α : Type} {a b : List (Nat × α)}
    (h : ∀ owner, (a.filter fun entry => entry.1 = owner).map Prod.snd =
      (b.filter fun entry => entry.1 = owner).map Prod.snd) : a.Perm b := by
  classical
  have restore (owner : Nat) (list : List (Nat × α)) :
      ((list.filter fun entry => entry.1 = owner).map Prod.snd).map (owner, ·) =
        list.filter fun entry => entry.1 = owner := by
    induction list with
    | nil => rfl
    | cons entry rest ih =>
      obtain ⟨other, event⟩ := entry
      by_cases he : other = owner <;> simp_all
  -- entries are counted in the list of their owner, from which they can be restored
  refine List.perm_iff_count.mpr fun entry => ?_
  have heq := congrArg (List.map (entry.1, ·)) (h entry.1)
  rw [restore, restore] at heq
  have hc := congrArg (List.count entry) heq
  simpa [List.count_filter] using hc

/-- Of which worker a settlement is, and of which event. -/
def Settlement.owned (settlement : Settlement) : Nat × Event := (settlement.worker, settlement.event)

theorem settledBy_eq (session : Session) (index : Nat) :
    session.settledBy index =
      ((session.settled.map Settlement.owned).filter fun entry => entry.1 = index).map Prod.snd := by
  simp only [settledBy, List.filter_map, List.map_map]
  rfl

namespace Kept

/-- Workers that have all gone carry nothing. -/
theorem takenBy_eq_settledBy (h : session.Kept admitted closing workers) (hd : staying workers = 0)
    (index : Nat) : session.takenBy index = session.settledBy index := by
  -- of those who are no workers nothing is recorded
  cases hi : workers[index]? with
  | none =>
    have hle : workers.length ≤ index := List.getElem?_eq_none_iff.mp hi
    have htaken : session.takenBy index = [] := by
      simp only [takenBy, List.map_eq_nil_iff, List.filter_eq_nil_iff, decide_eq_true_eq]
      intro entry hm he
      have := h.inside.1 entry hm
      omega
    have hsettled : session.settledBy index = [] := by
      simp only [settledBy, List.map_eq_nil_iff, List.filter_eq_nil_iff, decide_eq_true_eq]
      intro entry hm he
      have := h.inside.2 entry hm
      omega
    rw [htaken, hsettled]
  | some worker =>
    have hleft := staying_eq_zero_iff.mp hd worker (List.mem_of_getElem? hi)
    have hholds := h.holds index worker hi
    obtain ⟨task, stats⟩ := worker
    cases task with
    | carrying => cases hleft
    | _ => exact hholds

theorem settled_perm_taken (h : session.Kept admitted closing workers) (hd : staying workers = 0) :
    (session.settled.map Settlement.event).Perm (session.taken.map Prod.snd) := by
  have hp : session.taken.Perm (session.settled.map Settlement.owned) :=
    perm_of_owners fun index => (h.takenBy_eq_settledBy hd index).trans (settledBy_eq session index)
  simpa [Settlement.owned, Function.comp_def] using (hp.map Prod.snd).symm

/-- A single worker settles events in the order in which it takes them. -/
theorem settled_eq_taken (h : session.Kept admitted closing workers) (hd : staying workers = 0)
    (hone : session.controller.poolSize = 1) :
    session.settled.map Settlement.event = session.taken.map Prod.snd := by
  have heq := h.takenBy_eq_settledBy hd 0
  have hlen : workers.length = 1 := h.size.trans hone
  have htaken : session.taken.filter (fun entry => entry.1 = 0) = session.taken := by
    refine List.filter_eq_self.mpr fun entry hm => ?_
    have := h.inside.1 entry hm
    exact decide_eq_true (by omega)
  have hsettled : session.settled.filter (fun entry => entry.worker = 0) = session.settled := by
    refine List.filter_eq_self.mpr fun entry hm => ?_
    have := h.inside.2 entry hm
    exact decide_eq_true (by omega)
  simpa [takenBy, settledBy, htaken, hsettled] using heq.symm

theorem staying_eq_zero (h : session.Kept admitted closing workers)
    (hd : session.controller.isDeserted = true) : staying workers = 0 :=
  (Controller.isDeserted_iff h.running).mp hd

/-- What was sent when closing began has been taken when all workers have gone. -/
theorem admitted_taken (h : session.Kept admitted closing workers) (hd : staying workers = 0) :
    admitted <+: session.taken.map Prod.snd := by
  have hpos := session.controller.poolSize_pos
  have hsize := h.size
  -- a pool is not empty, so somebody has gone
  rcases h.gone (by omega) with ⟨-, hsent⟩ | ⟨-, hp⟩
  · exact hsent ▸ h.promised
  · exact hp

theorem endClose_eq (h : session.Kept admitted closing workers) :
    session.controller.endClose.1.stats = Controller.merged workers ∧
      session.controller.endClose.2 =
        if 0 < (Controller.merged workers).undeliverable then
          .error (.downstreamClosed session.controller.name (Controller.merged workers).undeliverable)
        else .ok (Controller.merged workers) := by
  have hw : session.controller.workers = workers := by simp [Controller.workers, h.running]
  have hany : workers.any Worker.hasPanicked = false := by
    simpa using h.unbroken
  simp [Controller.endClose, Controller.verdict, hw, hany]

end Kept

/-- What was put on the outbound channel, by the settlements alone. -/
theorem flatMap_putFor (chain : Chain) (settled : List Settlement) :
    settled.flatMap (putFor chain) =
      (settled.filter (·.fate = .delivered)).flatMap fun entry => chain.image entry.event := by
  induction settled with
  | nil => rfl
  | cons entry rest ih => by_cases h : entry.fate = .delivered <;> simp [putFor, h, ih]

theorem length_eq_fates (settled : List Settlement) :
    settled.length = settled.countP (·.fate = .delivered) + settled.countP (·.fate = .dropped) +
      settled.countP (·.fate = .undeliverable) := by
  induction settled with
  | nil => rfl
  | cons entry rest ih =>
    cases hf : entry.fate <;> simp [hf, ih] <;> omega

/-- A controller whose stages do not break down loses nothing that was sent before it began to close, whoever
goes on sending, however its workers take turns and whenever those who take from it give up. Who took what
is known from `taken`, so no two workers take one event; every event that was taken is settled once, and
those settled as delivered, and no others, were put on the outbound channel as they came out of the chain. -/
theorem close_accounts {controller : Controller} {inbound outbound : Channel} {session closing : Session}
    (before after : List Act) (hc : controller.chain.Steady)
    (hs : start? controller inbound outbound = .ok session)
    (hb : (session.follow before).beginClose? = .ok closing)
    (hd : (closing.follow after).controller.isDeserted = true) :
    let ended := closing.follow after
    let admitted := (session.follow before).sent
    let taken := ended.taken.map Prod.snd
    let (closed, result) := ended.controller.endClose
    let stats := closed.stats
    (admitted <+: taken ∧ taken <+: ended.sent) ∧
    (stats.received = taken.length ∧
      stats.received = stats.delivered + stats.dropped + stats.undeliverable) ∧
    ((ended.settled.map Settlement.event).Perm taken ∧
      (controller.poolSize = 1 → ended.settled.map Settlement.event = taken)) ∧
    (stats.delivered = ended.settled.countP (·.fate = .delivered) ∧
      stats.dropped = ended.settled.countP (·.fate = .dropped) ∧
      stats.undeliverable = ended.settled.countP (·.fate = .undeliverable)) ∧
    (∀ entry ∈ ended.settled, if entry.fate = .dropped then controller.chain.pass entry.event = .dropped
      else ∃ event, controller.chain.pass entry.event = .passed event) ∧
    ended.put = ((ended.settled.filter (·.fate = .delivered)).flatMap
      fun entry => controller.chain.image entry.event) ∧
    result = (if 0 < stats.undeliverable then
      .error (.downstreamClosed ended.controller.name stats.undeliverable) else .ok stats) := by
  -- the invariant is carried from the start to the call to close, where what was sent so far becomes what
  -- is admitted, and on to the end
  obtain ⟨hstart, workers, hk⟩ := kept_of_start? hs
  obtain ⟨hbefore, workers, hk⟩ := hk.follow (hstart.2.1 ▸ hc) before
  have hshut := hbefore.trans hstart
  obtain ⟨hclosing, hk⟩ := hk.beginClose hb
  have hshut := hclosing.trans hshut
  obtain ⟨hafter, workers, hk⟩ := hk.follow (hshut.2.1 ▸ hc) after
  obtain ⟨-, hchain, hsize⟩ := hafter.trans hshut
  have hgone := hk.staying_eq_zero hd
  obtain ⟨hstats, hresult⟩ := hk.endClose_eq
  have hperm := hk.settled_perm_taken hgone
  have hlength : (closing.follow after).taken.length = (closing.follow after).settled.length := by
    simpa using hperm.length_eq.symm
  obtain ⟨rest, hf, -⟩ := hk.fifo
  dsimp only
  rw [hresult, hstats, hk.counts]
  refine ⟨⟨hk.admitted_taken hgone, hf ▸ List.prefix_append _ _⟩, ⟨by simp, ?_⟩,
    ⟨hperm, fun hone => hk.settled_eq_taken hgone (hsize.trans hone)⟩, ⟨rfl, rfl, rfl⟩, ?_, ?_, rfl⟩
  · exact hlength.trans (length_eq_fates _)
  · exact hchain ▸ hk.fates
  · rw [hk.put, hchain, flatMap_putFor]

/-- Two workers and a sender that goes on: one event is delivered, one is dropped, and one comes too late for
those who take from the outbound channel, as does one that was sent when a worker had already gone. -/
theorem close_accounts_of_two_workers :
    let untagged : Stage :=
      { name := "untagged"
        process := fun event => if event.tags = [] then Flow.drop.effect else (Flow.continue event).effect }
    let controller : Controller := ⟨"filters", ⟨[untagged]⟩, 2, by decide, .idle, {}, []⟩
    let outbound : Channel := { capacity := some 1, receivers := 1 }
    let before : List Act := [.send { tags := ["a"] }, .work 1, .send {}, .send { tags := ["b"] }]
    let after : List Act := [.work 0, .work 1, .work 1, .receive, .dropReceiver, .work 0, .work 0, .work 0,
      .work 0, .work 1, .send { tags := ["c"] }, .work 0, .work 0, .work 0, .work 0]
    ∃ session closing, start? controller { senders := 1 } outbound = .ok session ∧
      (session.follow before).beginClose? = .ok closing ∧
      (closing.follow after).controller.isDeserted = true ∧
      (session.follow before).sent <+: (closing.follow after).taken.map Prod.snd ∧
      (closing.follow after).controller.endClose.1.stats = ⟨4, 1, 1, 2⟩ := by
  intro untagged controller outbound before after
  have hc : controller.chain.Steady := by
    intro stage hm event
    obtain rfl : stage = untagged := by simpa [controller] using hm
    simp only [untagged]
    split <;> simp [Flow.effect]
  refine ⟨_, _, rfl, rfl, by decide +kernel, ?_, by decide +kernel⟩
  exact (close_accounts before after hc rfl rfl (by decide +kernel)).1.1

end Session

end LogPipeline
