import LogPipeline.Output.Writer
import LogPipeline.Proofs.Pipeline.Turn

/-!
# Events in flight

Where the events of two phases are between the one who sends them and the texts that a writer has written. A
flight keeps what is there apart from how far the controllers have come; that every turn of a worker keeps
the texts of a flight is what the delivery of events rests on.
-/

namespace LogPipeline

/-- The same things, in the same order where there is an order to keep. -/
def Agree {α : Type} (ordered : Prop) (a b : List α) : Prop := a.Perm b ∧ (ordered → a = b)

namespace Agree

variable {α β : Type} {ordered : Prop} {a b c a' b' : List α}

theorem of_eq (h : a = b) : Agree ordered a b := ⟨.of_eq h, fun _ => h⟩

theorem trans (h : Agree ordered a b) (h' : Agree ordered b c) : Agree ordered a c :=
  ⟨h.1.trans h'.1, fun ho => (h.2 ho).trans (h'.2 ho)⟩

theorem append (h : Agree ordered a b) (h' : Agree ordered a' b') :
    Agree ordered (a ++ a') (b ++ b') :=
  ⟨h.1.append h'.1, fun ho => by rw [h.2 ho, h'.2 ho]⟩

theorem mono {other : Prop} (h : Agree ordered a b) (ho : other → ordered) : Agree other a b :=
  ⟨h.1, fun hother => h.2 (ho hother)⟩

variable {list : List α} {index : Nat} {x : α} (f : α → List β) (next : α)

theorem flatMap_set_perm (h : list[index]? = some x) :
    ((list.set index next).flatMap f ++ f x).Perm (list.flatMap f ++ f next) := by
  induction list generalizing index with
  | nil => simp at h
  | cons first rest ih =>
    cases index with
    | zero =>
      -- the two sides differ in where the first part stands
      obtain rfl : first = x := by simpa using h
      simp only [List.set_cons_zero, List.flatMap_cons, List.append_assoc]
      refine List.perm_append_comm.trans ?_
      rw [← List.append_assoc]
      exact List.perm_append_comm.append_right _
    | succ index =>
      simp only [List.set_cons_succ, List.flatMap_cons, List.append_assoc]
      exact (ih (by simpa using h)).append_left _

theorem eq_singleton (h : list[index]? = some x) (hl : list.length = 1) : list = [x] ∧ index = 0 := by
  obtain ⟨only, rfl⟩ := List.length_eq_one_iff.mp hl
  cases index <;> simp_all

/-- One that had nothing is given something. -/
theorem flatMap_set_of_take (h : list[index]? = some x) (hx : f x = []) :
    Agree (list.length = 1) ((list.set index next).flatMap f) (list.flatMap f ++ f next) := by
  refine ⟨by simpa [hx] using flatMap_set_perm f next h, fun hl => ?_⟩
  obtain ⟨rfl, rfl⟩ := eq_singleton h hl
  simp [hx]

/-- One gives up what it had. -/
theorem flatMap_set_of_put (h : list[index]? = some x) (hn : f next = []) :
    Agree (list.length = 1) (f x ++ (list.set index next).flatMap f) (list.flatMap f) := by
  refine ⟨?_, fun hl => ?_⟩
  · exact List.perm_append_comm.trans (by simpa [hn] using flatMap_set_perm f next h)
  · obtain ⟨rfl, rfl⟩ := eq_singleton h hl
    simp [hn]

theorem flatMap_set_of_keep (h : list[index]? = some x) (hn : f next = f x) :
    (list.set index next).flatMap f = list.flatMap f := by
  induction list generalizing index with
  | nil => rfl
  | cons first rest ih =>
    cases index with
    | zero =>
      obtain rfl : first = x := by simpa using h
      simp [hn]
    | succ index => simp [ih (by simpa using h)]

end Agree

/-! ## Texts -/

/-- What is to be written for an event. -/
def Chain.texts (chain : Chain) (event : Event) : List String :=
  (chain.image event).map (Writer.lineText false)

/-- What is to be written for an event that has gone through some stages. -/
def Chain.textsFrom (chain : Chain) (event : Event) (passed : Nat) : List String :=
  (Chain.passThrough (chain.stages.drop passed) event).events.map (Writer.lineText false)

/-- What a writer has still to write for an event, which is nothing once the event has gone through. -/
def Writer.textsFrom (event : Event) (passed : Nat) : List String :=
  if passed = 0 then [Writer.lineText false event] else []

/-- The chain of a single writer that takes everything. -/
def Writer.chain (name : String) : Chain := ⟨[Writer.stage name {} false]⟩

/-- The texts for what a worker carries. -/
def Worker.load (texts : Event → Nat → List String) (worker : Worker) : List String :=
  match worker.task with
  | .carrying event passed => texts event passed
  | _ => []

def Worker.isCarrying (worker : Worker) : Bool :=
  match worker.task with
  | .carrying .. => true
  | _ => false

/-- How many workers carry an event. -/
def carrying (workers : List Worker) : Nat := workers.countP Worker.isCarrying

/-- Workers of which none has broken down, and who have counted all that they took but what they carry. -/
structure Tallied (workers : List Worker) : Prop where
  unbroken : ∀ worker ∈ workers, worker.hasPanicked = false
  balanced : (Controller.merged workers).received =
    (Controller.merged workers).delivered + (Controller.merged workers).dropped + carrying workers
  forwarded : (Controller.merged workers).undeliverable = 0

theorem tallied_replicate (size : Nat) : Tallied (List.replicate size {}) := by
  refine ⟨fun worker hm => ?_, ?_, ?_⟩
  · rw [List.eq_of_mem_replicate hm]
    rfl
  · simp [Controller.merged_replicate, carrying, List.countP_replicate, Worker.isCarrying]
  · rw [Controller.merged_replicate]

/-- A worker that counts what it has taken and what has become of it. -/
theorem Tallied.set {workers : List Worker} {index : Nat} {worker : Worker} (h : Tallied workers)
    (next : Worker) (hi : workers[index]? = some worker) (hn : next.hasPanicked = false) (counted : Stats)
    (hc : next.stats = worker.stats.add counted)
    (hb : counted.received + worker.isCarrying.toNat =
      counted.delivered + counted.dropped + next.isCarrying.toNat)
    (hu : counted.undeliverable = 0) :
    Tallied (workers.set index next) ∧
      Controller.merged (workers.set index next) = (Controller.merged workers).add counted := by
  have hmerged := Controller.merged_set counted h.unbroken hi hn hc
  have hcarrying := countP_set Worker.isCarrying next hi
  have hbalanced := h.balanced
  refine ⟨⟨fun other hm => ?_, ?_, ?_⟩, hmerged⟩
  · rcases List.mem_or_eq_of_mem_set hm with hm | rfl
    · exact h.unbroken other hm
    · exact hn
  · simp only [hmerged, Stats.add, carrying] at hbalanced ⊢
    omega
  · simp [hmerged, Stats.add, h.forwarded, hu]

/-- Between the one who sends and what has been written. -/
structure Flight where
  /-- The events that have not been sent. -/
  unsent : List Event
  /-- Whether somebody sends. -/
  sending : Bool
  inbound : Channel
  filters : List Worker
  outbound : Channel
  outputs : List Worker
  written : List String

namespace Flight

/-- What has been written, and what is to be written for all that is on its way, the oldest first. -/
def texts (chain : Chain) (flight : Flight) : List String :=
  flight.written ++ (flight.outputs.flatMap (Worker.load Writer.textsFrom) ++
    (flight.outbound.waiting.map (Writer.lineText false) ++
      (flight.filters.flatMap (Worker.load chain.textsFrom) ++
        (flight.inbound.waiting ++ flight.unsent).flatMap chain.texts)))

/-- What holds of a flight of some events through a chain, whatever has happened so far. Single workers keep
the order. -/
structure Sound (ordered : Prop) (chain : Chain) (events : List Event) (flight : Flight) : Prop where
  agree : Agree ordered (flight.texts chain) (events.flatMap chain.texts)
  single : ordered → flight.filters.length = 1 ∧ flight.outputs.length = 1
  sent : flight.sending = false → flight.unsent = []
  inboundSenders : flight.inbound.senders = flight.sending.toNat
  inboundReceivers : flight.inbound.receivers = staying flight.filters
  outboundSenders : flight.outbound.senders = staying flight.filters
  outboundReceivers : flight.outbound.receivers = staying flight.outputs
  manned : 0 < flight.filters.length ∧ 0 < flight.outputs.length
  /-- The first to go has found everything done. -/
  filtersGone : staying flight.filters < flight.filters.length →
    flight.sending = false ∧ flight.inbound.waiting = []
  outputsGone : staying flight.outputs < flight.outputs.length →
    staying flight.filters = 0 ∧ flight.outbound.waiting = []
  filtersTallied : Tallied flight.filters
  outputsTallied : Tallied flight.outputs
  taken : (Controller.merged flight.filters).received + flight.inbound.waiting.length +
    flight.unsent.length = events.length
  passed : (Controller.merged flight.filters).delivered =
    (Controller.merged flight.outputs).received + flight.outbound.waiting.length
  kept : (Controller.merged flight.outputs).dropped = 0
  counted : flight.written.length + (flight.outputs.flatMap (Worker.load Writer.textsFrom)).length =
    (Controller.merged flight.outputs).received

namespace Sound

variable {ordered : Prop} {chain : Chain} {events : List Event} {flight : Flight} {index passed : Nat}
  {stats : Stats} {event : Event} {rest : List Event}

/-! ### Filters -/

theorem filterTakes (h : flight.Sound ordered chain events)
    (hi : flight.filters[index]? = some ⟨.waiting, stats⟩)
    (hw : flight.inbound.waiting = event :: rest) :
    let after : Worker := ⟨.carrying event 0, { stats with received := stats.received + 1 }⟩
    Sound ordered chain events { flight with
      inbound := { flight.inbound with waiting := rest }
      filters := flight.filters.set index after } := by
  intro after
  have hstay := staying_set_of_stays after hi rfl rfl
  have hload := Agree.flatMap_set_of_take (Worker.load chain.textsFrom) after hi rfl
  obtain ⟨htallied, hmerged⟩ := h.filtersTallied.set after hi rfl { received := 1 } rfl rfl rfl
  refine { h with
    agree := ?_
    inboundReceivers := h.inboundReceivers.trans hstay.symm
    outboundSenders := h.outboundSenders.trans hstay.symm
    single := by simpa using h.single
    manned := by simpa using h.manned
    filtersGone := ?_
    outputsGone := by simpa [hstay] using h.outputsGone
    filtersTallied := htallied
    taken := ?_, passed := ?_ }
  -- the event moves from the channel to the worker; all that is further ahead stays
  · refine Agree.trans (.append (.of_eq rfl) (.append (.of_eq rfl) (.append (.of_eq rfl) ?_))) h.agree
    refine ((hload.mono fun ho => (h.single ho).1).append (.of_eq rfl)).trans (.of_eq ?_)
    simp only [hw, List.cons_append, List.flatMap_cons, List.append_assoc]
    rfl
  · intro hg
    have := (h.filtersGone (by simpa [hstay] using hg)).2
    simp [hw] at this
  · have := h.taken
    simp only [hmerged, Stats.add, hw, List.length_cons] at this ⊢
    omega
  · simpa [hmerged, Stats.add] using h.passed

theorem filterLeaves (h : flight.Sound ordered chain events)
    (hi : flight.filters[index]? = some ⟨.waiting, stats⟩) (hw : flight.inbound.waiting = [])
    (hs : flight.sending = false) :
    let after : Worker := ⟨.left, stats⟩
    Sound ordered chain events { flight with
      inbound := flight.inbound.dropReceiver
      outbound := flight.outbound.dropSender
      filters := flight.filters.set index after } := by
  intro after
  have hstay := staying_set_of_goes after hi rfl rfl
  have hload := Agree.flatMap_set_of_keep (Worker.load chain.textsFrom) after hi rfl
  obtain ⟨htallied, hmerged⟩ := h.filtersTallied.set after hi rfl {} rfl rfl rfl
  have hempty : flight.inbound.dropReceiver.waiting = [] := by simp [Channel.dropReceiver, hw]
  refine { h with
    agree := ?_
    inboundReceivers := ?_
    outboundSenders := ?_
    single := by simpa using h.single
    manned := by simpa using h.manned
    filtersGone := fun _ => ⟨hs, hempty⟩
    outputsGone := ?_
    filtersTallied := htallied
    taken := ?_, passed := ?_ }
  · have := h.agree
    simpa only [texts, hload, hempty, hw, Channel.dropSender] using this
  · have := h.inboundReceivers
    simp only [Channel.dropReceiver]
    omega
  · have := h.outboundSenders
    simp only [Channel.dropSender]
    omega
  · intro hg
    -- the outputs are all there as long as a filter is, and this one was
    obtain ⟨hzero, hwaiting⟩ := h.outputsGone hg
    exact ⟨by omega, hwaiting⟩
  · have := h.taken
    rw [hmerged]
    simpa [Stats.add, hempty, hw] using this
  · rw [hmerged]
    exact h.passed

variable {stage : Stage} {changed : Event} {written : String}

/-- A worker of the filters whose turn leaves what it has to write as it is. -/
theorem filterKeeps {worker after : Worker} (h : flight.Sound ordered chain events)
    (hi : flight.filters[index]? = some worker) (hw : worker.hasLeft = false) (ha : after.hasLeft = false)
    (hkeep : after.load chain.textsFrom = worker.load chain.textsFrom) (dropped : Nat)
    (hc : after.stats = worker.stats.add { dropped := dropped })
    (hb : worker.isCarrying.toNat = dropped + after.isCarrying.toNat) :
    Sound ordered chain events { flight with filters := flight.filters.set index after } := by
  have hstay := staying_set_of_stays after hi hw ha
  have hload := Agree.flatMap_set_of_keep (Worker.load chain.textsFrom) after hi hkeep
  have hstanding : after.hasPanicked = false := by
    obtain ⟨task, stats⟩ := after
    cases task <;> first | rfl | cases ha
  obtain ⟨htallied, hmerged⟩ := h.filtersTallied.set after hi hstanding { dropped := dropped } hc
    (by simpa using hb) rfl
  exact { h with
    agree := by simpa only [texts, hload] using h.agree
    single := by simpa using h.single
    inboundReceivers := h.inboundReceivers.trans hstay.symm
    outboundSenders := h.outboundSenders.trans hstay.symm
    manned := by simpa using h.manned
    filtersGone := by simpa [hstay] using h.filtersGone
    outputsGone := by simpa [hstay] using h.outputsGone
    filtersTallied := htallied
    taken := by simpa [hmerged, Stats.add] using h.taken
    passed := by simpa [hmerged, Stats.add] using h.passed }

theorem filterPasses (h : flight.Sound ordered chain events)
    (hi : flight.filters[index]? = some ⟨.carrying event passed, stats⟩)
    (hs : chain.stages[passed]? = some stage)
    (hp : stage.process event = .flow (.continue changed) written) :
    let after : Worker := ⟨.carrying changed (passed + 1), stats⟩
    Sound ordered chain events { flight with filters := flight.filters.set index after } := by
  refine h.filterKeeps hi rfl rfl ?_ 0 rfl rfl
  simp only [Worker.load, Chain.textsFrom, Chain.passThrough_of_continue hs hp]

theorem filterDrops (h : flight.Sound ordered chain events)
    (hi : flight.filters[index]? = some ⟨.carrying event passed, stats⟩)
    (hs : chain.stages[passed]? = some stage) (hp : stage.process event = .flow .drop written) :
    let after : Worker := ⟨.waiting, stats.count .dropped⟩
    Sound ordered chain events { flight with filters := flight.filters.set index after } := by
  refine h.filterKeeps hi rfl rfl ?_ 1 rfl rfl
  simp only [Worker.load, Chain.textsFrom, Chain.passThrough_of_drop hs hp, Passage.events, List.map_nil]

theorem filterDelivers (h : flight.Sound ordered chain events)
    (hi : flight.filters[index]? = some ⟨.carrying event passed, stats⟩)
    (hs : chain.stages[passed]? = none) :
    let after : Worker := ⟨.waiting, stats.count .delivered⟩
    Sound ordered chain events { flight with
      outbound := flight.outbound.push event
      filters := flight.filters.set index after } := by
  intro after
  have hstay := staying_set_of_stays after hi rfl rfl
  have hpos := staying_pos hi rfl
  have hput := Agree.flatMap_set_of_put (Worker.load chain.textsFrom) after hi rfl
  have htext : Worker.load chain.textsFrom ⟨.carrying event passed, stats⟩ = [Writer.lineText false event] := by
    simp only [Worker.load, Chain.textsFrom, Chain.passThrough_of_end hs, Passage.events, List.map_cons,
      List.map_nil]
  obtain ⟨htallied, hmerged⟩ := h.filtersTallied.set after hi rfl { delivered := 1 } rfl rfl rfl
  refine { h with
    agree := ?_
    single := by simpa using h.single
    inboundReceivers := h.inboundReceivers.trans hstay.symm
    outboundSenders := h.outboundSenders.trans hstay.symm
    manned := by simpa using h.manned
    filtersGone := by simpa [after, hstay] using h.filtersGone
    outputsGone := ?_
    filtersTallied := htallied
    taken := by simpa [after, hmerged, Stats.add] using h.taken
    passed := ?_ }
  -- the event moves from the worker to the end of the channel; both are next to each other in the texts
  · refine Agree.trans (.append (.of_eq rfl) (.append (.of_eq rfl) ?_)) h.agree
    simp only [Channel.push, List.map_append, List.append_assoc]
    refine .append (.of_eq rfl) ?_
    rw [← List.append_assoc]
    rw [htext] at hput
    exact .append (hput.mono fun ho => (h.single ho).1) (.of_eq rfl)
  · intro hg
    have := (h.outputsGone hg).1
    omega
  · have := h.passed
    simp only [after, hmerged, Stats.add, Channel.push, List.length_append, List.length_singleton] at this ⊢
    omega

/-! ### Outputs -/

theorem outputTakes (h : flight.Sound ordered chain events)
    (hi : flight.outputs[index]? = some ⟨.waiting, stats⟩)
    (hw : flight.outbound.waiting = event :: rest) :
    let after : Worker := ⟨.carrying event 0, { stats with received := stats.received + 1 }⟩
    Sound ordered chain events { flight with
      outbound := { flight.outbound with waiting := rest }
      outputs := flight.outputs.set index after } := by
  intro after
  have hstay := staying_set_of_stays after hi rfl rfl
  have hload := Agree.flatMap_set_of_take (Worker.load Writer.textsFrom) after hi rfl
  obtain ⟨htallied, hmerged⟩ := h.outputsTallied.set after hi rfl { received := 1 } rfl rfl rfl
  refine { h with
    agree := ?_
    single := by simpa using h.single
    outboundReceivers := h.outboundReceivers.trans hstay.symm
    manned := by simpa using h.manned
    outputsGone := ?_
    outputsTallied := htallied
    passed := ?_, kept := by simpa [hmerged, Stats.add] using h.kept
    counted := ?_ }
  -- the event moves from the channel to the worker, as it does for a filter
  · refine Agree.trans (.append (.of_eq rfl) ?_) h.agree
    refine ((hload.mono fun ho => (h.single ho).2).append (.of_eq rfl)).trans (.of_eq ?_)
    simp only [hw, List.map_cons, List.append_assoc]
    rfl
  · intro hg
    have := (h.outputsGone (by simpa [hstay] using hg)).2
    simp [hw] at this
  · have := h.passed
    simp only [hmerged, Stats.add, hw, List.length_cons] at this ⊢
    omega
  · have hlength := hload.1.length_eq
    have := h.counted
    simp only [hmerged, Stats.add, hlength, List.length_append] at this ⊢
    rw [← this]
    rfl

theorem outputLeaves (h : flight.Sound ordered chain events)
    (hi : flight.outputs[index]? = some ⟨.waiting, stats⟩) (hw : flight.outbound.waiting = [])
    (hs : staying flight.filters = 0) :
    let after : Worker := ⟨.left, stats⟩
    Sound ordered chain events { flight with
      outbound := flight.outbound.dropReceiver
      outputs := flight.outputs.set index after } := by
  intro after
  have hstay := staying_set_of_goes after hi rfl rfl
  have hload := Agree.flatMap_set_of_keep (Worker.load Writer.textsFrom) after hi rfl
  obtain ⟨htallied, hmerged⟩ := h.outputsTallied.set after hi rfl {} rfl rfl rfl
  have hempty : flight.outbound.dropReceiver.waiting = [] := by simp [Channel.dropReceiver, hw]
  refine { h with
    agree := ?_
    single := by simpa using h.single
    outboundReceivers := ?_
    manned := by simpa using h.manned
    outputsGone := fun _ => ⟨hs, hempty⟩
    outputsTallied := htallied
    passed := ?_, kept := by simpa [hmerged, Stats.add] using h.kept
    counted := ?_ }
  · have := h.agree
    simpa only [texts, hload, hempty, hw] using this
  · have := h.outboundReceivers
    simp only [Channel.dropReceiver]
    omega
  · have := h.passed
    simpa [hmerged, Stats.add, hempty, hw] using this
  · simpa only [hload, hmerged, Stats.add, Nat.add_zero] using h.counted

/-- The event that a worker of the outputs carries is written. -/
theorem outputWrites (h : flight.Sound ordered chain events)
    (hi : flight.outputs[index]? = some ⟨.carrying event 0, stats⟩) :
    let after : Worker := ⟨.carrying event 1, stats⟩
    Sound ordered chain events { flight with
      outputs := flight.outputs.set index after
      written := flight.written ++ [Writer.lineText false event] } := by
  intro after
  have hstay := staying_set_of_stays after hi rfl rfl
  have hput := Agree.flatMap_set_of_put (Worker.load Writer.textsFrom) after hi rfl
  have htext : Worker.load Writer.textsFrom ⟨.carrying event 0, stats⟩ = [Writer.lineText false event] := rfl
  rw [htext] at hput
  obtain ⟨htallied, hmerged⟩ := h.outputsTallied.set after hi rfl {} rfl rfl rfl
  refine { h with
    agree := ?_
    single := by simpa using h.single
    outboundReceivers := h.outboundReceivers.trans hstay.symm
    manned := by simpa using h.manned
    outputsGone := by simpa [hstay] using h.outputsGone
    outputsTallied := htallied
    passed := by simpa [hmerged, Stats.add] using h.passed
    kept := by simpa [hmerged, Stats.add] using h.kept
    counted := ?_ }
  -- the text moves from the worker to the end of what has been written
  · refine Agree.trans ?_ h.agree
    simp only [texts, List.append_assoc]
    refine .append (.of_eq rfl) ?_
    rw [← List.append_assoc]
    exact .append (hput.mono fun ho => (h.single ho).2) (.of_eq rfl)
  · have hlength := hput.1.length_eq
    have := h.counted
    simp only [hmerged, Stats.add, List.length_append, List.length_singleton] at this hlength ⊢
    omega

theorem outputDelivers (h : flight.Sound ordered chain events)
    (hi : flight.outputs[index]? = some ⟨.carrying event (passed + 1), stats⟩) :
    let after : Worker := ⟨.waiting, stats.count .delivered⟩
    Sound ordered chain events { flight with outputs := flight.outputs.set index after } := by
  intro after
  have hstay := staying_set_of_stays after hi rfl rfl
  have hload := Agree.flatMap_set_of_keep (Worker.load Writer.textsFrom) after hi rfl
  obtain ⟨htallied, hmerged⟩ := h.outputsTallied.set after hi rfl { delivered := 1 } rfl rfl rfl
  exact { h with
    agree := by simpa only [texts, hload] using h.agree
    single := by simpa using h.single
    outboundReceivers := h.outboundReceivers.trans hstay.symm
    manned := by simpa using h.manned
    outputsGone := by simpa [hstay] using h.outputsGone
    outputsTallied := htallied
    passed := by simpa [hmerged, Stats.add] using h.passed
    kept := by simpa [hmerged, Stats.add] using h.kept
    counted := by simpa [hload, hmerged, Stats.add] using h.counted }

/-! ### The one who sends -/

theorem sends (h : flight.Sound ordered chain events) (hs : flight.sending = true)
    (hu : flight.unsent = event :: rest) :
    Sound ordered chain events { flight with
      inbound := flight.inbound.push event
      unsent := rest } := by
  refine { h with agree := ?_, sent := ?_, filtersGone := ?_, taken := ?_ }
  · simpa [texts, Channel.push, hu] using h.agree
  · simp [hs]
  · intro hg
    simpa [hs] using (h.filtersGone hg).1
  · have := h.taken
    simp only [Channel.push, hu, List.length_append, List.length_cons, List.length_nil] at this ⊢
    omega

theorem stops (h : flight.Sound ordered chain events) (hs : flight.sending = true)
    (hu : flight.unsent = []) :
    Sound ordered chain events { flight with
      inbound := flight.inbound.dropSender
      sending := false } := by
  refine { h with sent := fun _ => hu, inboundSenders := ?_, filtersGone := ?_ }
  · simp [Channel.dropSender, h.inboundSenders, hs]
  · intro hg
    exact ⟨rfl, (h.filtersGone hg).2⟩

/-- Nobody refuses what is sent. -/
theorem inbound_isClosed (h : flight.Sound ordered chain events) (hs : flight.sending = true) :
    flight.inbound.isClosed = false := by
  -- the first filter to go would have found that nobody sends
  have hall : ¬ staying flight.filters < flight.filters.length := fun hg => by
    simpa [hs] using (h.filtersGone hg).1
  have := h.manned.1
  simp only [Channel.isClosed, h.inboundReceivers, beq_eq_false_iff_ne]
  omega

/-- Nobody refuses what the filters deliver. -/
theorem outbound_isClosed (h : flight.Sound ordered chain events) (hs : 0 < staying flight.filters) :
    flight.outbound.isClosed = false := by
  -- the first output to go would have found that all filters had gone
  have hall : ¬ staying flight.outputs < flight.outputs.length := fun hg => by
    have := (h.outputsGone hg).1
    omega
  have := h.manned.2
  simp only [Channel.isClosed, h.outboundReceivers, beq_eq_false_iff_ne]
  omega

/-! ### Turns -/

/-- The flight after a turn of a worker of the filters. -/
theorem filterTurn {closing : Bool} {worker : Worker} {turn : Worker.Turn}
    (h : flight.Sound ordered chain events) (hc : chain.Steady)
    (hi : flight.filters[index]? = some worker)
    (ha : worker.Acts chain closing ⟨flight.inbound, .forward flight.outbound⟩ turn)
    (hclosing : closing = true → flight.sending = false) :
    ∃ outbound, turn.ports.sentinel = .forward outbound ∧
      Sound ordered chain events { flight with
        inbound := turn.ports.inbound
        outbound := outbound
        filters := flight.filters.set index turn.worker } := by
  cases ha with
  | take hw => exact ⟨_, rfl, h.filterTakes hi hw⟩
  | leave hw hl =>
    refine ⟨_, rfl, h.filterLeaves hi hw ?_⟩
    rcases hl with hl | hl
    · exact hclosing hl
    · simpa [h.inboundSenders] using hl
  | pass hs hp => exact ⟨_, rfl, h.filterPasses hi hs hp⟩
  | drop hs hp => exact ⟨_, rfl, h.filterDrops hi hs hp⟩
  -- no stage of a steady chain breaks down
  | panic hs hp => exact absurd hp (hc _ (List.mem_of_getElem? hs) _)
  | deliver hs hacc =>
    have hopen := h.outbound_isClosed (staying_pos hi rfl)
    obtain ⟨sent, hsend, heq⟩ := Option.map_eq_some_iff.mp hacc
    cases sent with
    | accepted channel =>
      obtain ⟨rfl, rfl⟩ := Prod.mk.inj heq
      obtain ⟨-, -, rfl⟩ := Channel.send?_eq_accepted_iff.mp hsend
      exact ⟨_, rfl, h.filterDelivers hi hs⟩
    | refused =>
      rw [Channel.send?_eq_refused_iff.mp hsend] at hopen
      cases hopen

/-- The flight after a turn of a worker of the outputs, with what the worker has written. -/
theorem outputTurn {name : String} {closing : Bool} {worker : Worker} {turn : Worker.Turn}
    (h : flight.Sound ordered chain events) (hi : flight.outputs[index]? = some worker)
    (ha : worker.Acts (Writer.chain name) closing ⟨flight.outbound, .final⟩ turn)
    (hclosing : closing = true → staying flight.filters = 0) :
    ∃ written, (turn.calls = [] ∧ written = [] ∨
        ∃ event, turn.calls = [.processed 0 (Writer.lineText false event)] ∧
          written = [Writer.lineText false event]) ∧
      Sound ordered chain events { flight with
        outbound := turn.ports.inbound
        outputs := flight.outputs.set index turn.worker
        written := flight.written ++ written } := by
  have hstage {passed : Nat} {stage : Stage} (hs : (Writer.chain name).stages[passed]? = some stage) :
      passed = 0 ∧ stage = Writer.stage name {} false := by
    cases passed <;> simp_all [Writer.chain]
  cases ha with
  | take hw => exact ⟨[], .inl ⟨rfl, rfl⟩, by simpa using h.outputTakes hi hw⟩
  | leave hw hl =>
    have hs : staying flight.filters = 0 := by
      rcases hl with hl | hl
      · exact hclosing hl
      · exact h.outboundSenders.symm.trans hl
    exact ⟨[], .inl ⟨rfl, rfl⟩, by simpa [Ports.leave] using h.outputLeaves hi hw hs⟩
  | @pass stats event passed stage next written hs hp =>
    obtain ⟨rfl, rfl⟩ := hstage hs
    obtain ⟨rfl, rfl⟩ : event = next ∧ Writer.lineText false event = written := by
      simpa [Writer.stage, Writer.process] using hp
    exact ⟨_, .inr ⟨event, rfl, rfl⟩, h.outputWrites hi⟩
  | drop hs hp =>
    obtain ⟨rfl, rfl⟩ := hstage hs
    simp [Writer.stage, Writer.process] at hp
  | panic hs hp =>
    obtain ⟨rfl, rfl⟩ := hstage hs
    simp [Writer.stage, Writer.process] at hp
  | @deliver stats event passed outcome sentinel hs hacc =>
    obtain ⟨rfl, rfl⟩ : Outcome.delivered = outcome ∧ Sentinel.final = sentinel := by
      simpa [Sentinel.accept?] using hacc
    cases passed with
    | zero => simp [Writer.chain] at hs
    | succ passed => exact ⟨[], .inl ⟨rfl, rfl⟩, by simpa using h.outputDelivers hi⟩

/-! ### The end -/

theorem carrying_eq_zero {workers : List Worker} (h : staying workers = 0) : carrying workers = 0 := by
  refine List.countP_eq_zero.mpr fun worker hm => ?_
  have hleft := staying_eq_zero_iff.mp h worker hm
  obtain ⟨task, stats⟩ := worker
  cases task <;> simp_all [Worker.isCarrying, Worker.hasLeft]

theorem load_eq_nil {workers : List Worker} (h : staying workers = 0)
    (texts : Event → Nat → List String) : workers.flatMap (Worker.load texts) = [] := by
  refine List.flatMap_eq_nil_iff.mpr fun worker hm => ?_
  have hleft := staying_eq_zero_iff.mp h worker hm
  obtain ⟨task, stats⟩ := worker
  cases task <;> first | rfl | cases hleft

/-- When all workers of both phases have gone, everything has been written. -/
theorem landed (h : flight.Sound ordered chain events) (ho : staying flight.outputs = 0) :
    Agree ordered flight.written (events.flatMap chain.texts) ∧
      (Controller.merged flight.filters).received = events.length ∧
      (Controller.merged flight.filters).received =
        (Controller.merged flight.filters).delivered + (Controller.merged flight.filters).dropped ∧
      (Controller.merged flight.filters).delivered = (Controller.merged flight.outputs).received ∧
      (Controller.merged flight.outputs).received = (Controller.merged flight.outputs).delivered ∧
      flight.written.length = (Controller.merged flight.outputs).received := by
  -- nobody being left at the outputs, the filters have gone too, and before them the one who sends
  obtain ⟨hmannedF, hmannedO⟩ := h.manned
  obtain ⟨hf, houtbound⟩ := h.outputsGone (by omega)
  obtain ⟨hsending, hinbound⟩ := h.filtersGone (by omega)
  have hunsent := h.sent hsending
  have hcarryF := carrying_eq_zero hf
  have hcarryO := carrying_eq_zero ho
  have hloadO := load_eq_nil ho Writer.textsFrom
  refine ⟨?_, ?_, ?_, ?_, ?_, ?_⟩
  · simpa [texts, load_eq_nil hf, hloadO, houtbound, hinbound, hunsent] using h.agree
  · simpa [hinbound, hunsent] using h.taken
  · simpa [hcarryF] using h.filtersTallied.balanced
  · simpa [houtbound] using h.passed
  · simpa [hcarryO, h.kept] using h.outputsTallied.balanced
  · simpa [hloadO] using h.counted

end Sound

end Flight

end LogPipeline
