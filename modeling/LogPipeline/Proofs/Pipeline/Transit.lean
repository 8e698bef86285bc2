import LogPipeline.Proofs.Pipeline.Closing
import LogPipeline.Proofs.Pipeline.Flight

/-!
# Events on their way through two phases

Which events were sent, which of them the workers of each phase have taken, and what is in between. Both
phases may have any stages. What is said of the channels holds even if workers break down; that no event gets
lost rests on stages that do not.
-/

namespace LogPipeline

/-- What a worker took in a turn. -/
def Worker.took (before after : Worker) : List Event :=
  match before.task, after.task with
  | .waiting, .carrying event _ => [event]
  | _, _ => []

/-- What is to come out of a chain of what a worker carries. -/
def Worker.held (chain : Chain) (worker : Worker) : List Event :=
  match worker.task with
  | .carrying event passed => (Chain.passThrough (chain.stages.drop passed) event).events
  | _ => []

structure Transit where
  /-- The events whose sending was completed, in order. -/
  sent : List Event
  inbound : Channel
  /-- The events that the filters took, in order. -/
  taken : List Event
  filters : List Worker
  outbound : Channel
  /-- The events that the outputs took, in order. -/
  received : List Event
  outputs : List Worker

namespace Transit

/-- After a turn of a worker of the filters. -/
def afterFilter (transit : Transit) (index : Nat) (worker : Worker) (turn : Worker.Turn)
    (outbound : Channel) : Transit :=
  { transit with
    inbound := turn.ports.inbound
    taken := transit.taken ++ worker.took turn.worker
    filters := transit.filters.set index turn.worker
    outbound := outbound }

/-- After a turn of a worker of the outputs. -/
def afterOutput (transit : Transit) (index : Nat) (worker : Worker) (turn : Worker.Turn) : Transit :=
  { transit with
    outbound := turn.ports.inbound
    received := transit.received ++ worker.took turn.worker
    outputs := transit.outputs.set index turn.worker }

/-- The channels know who is there. -/
structure Joined (transit : Transit) : Prop where
  inboundReceivers : transit.inbound.receivers = staying transit.filters
  outboundSenders : transit.outbound.senders = staying transit.filters
  outboundReceivers : transit.outbound.receivers = staying transit.outputs
  manned : 0 < transit.filters.length ∧ 0 < transit.outputs.length

/-- Nothing gets lost. -/
structure Whole (chain : Chain) (transit : Transit) : Prop where
  fifo : transit.sent = transit.taken ++ transit.inbound.waiting
  filtersGone : staying transit.filters = 0 → transit.inbound.waiting = []
  outputsGone : staying transit.outputs < transit.outputs.length →
    staying transit.filters = 0 ∧ transit.outbound.waiting = []
  filtersTallied : Tallied transit.filters
  outputsTallied : Tallied transit.outputs
  taken : (Controller.merged transit.filters).received = transit.taken.length
  passed : (Controller.merged transit.filters).delivered =
    transit.received.length + transit.outbound.waiting.length
  received : (Controller.merged transit.outputs).received = transit.received.length
  images : (transit.received ++ (transit.outbound.waiting ++
    transit.filters.flatMap (Worker.held chain))).Perm (transit.taken.flatMap chain.image)

variable {transit : Transit} {chain : Chain} {closing : Bool} {worker : Worker} {turn : Worker.Turn}
  {index passed : Nat} {stats : Stats} {event : Event} {rest : List Event} {outbound : Channel}

/-! ## Who is there -/

theorem receivers_of_acts {ports : Ports} {workers : List Worker} (hi : workers[index]? = some worker)
    (ha : worker.Acts chain closing ports turn) (hr : ports.inbound.receivers = staying workers) :
    turn.ports.inbound.receivers = staying (workers.set index turn.worker) := by
  have hgoes (next : Worker) (hn : next.hasLeft = true) (hw : worker.hasLeft = false) :
      ports.inbound.dropReceiver.receivers = staying (workers.set index next) := by
    have := staying_set_of_goes next hi hw hn
    simp only [Channel.dropReceiver]
    omega
  cases ha with
  | leave _ _ => exact hgoes _ rfl rfl
  | panic _ _ => exact hgoes _ rfl rfl
  | _ => exact hr.trans (staying_set_of_stays _ hi rfl rfl).symm

theorem senders_of_acts {inbound : Channel} {workers : List Worker} (hi : workers[index]? = some worker)
    (ha : worker.Acts chain closing ⟨inbound, .forward transit.outbound⟩ turn)
    (hs : transit.outbound.senders = staying workers) (ho : turn.ports.sentinel = .forward outbound) :
    outbound.senders = staying (workers.set index turn.worker) ∧
      outbound.receivers = transit.outbound.receivers := by
  have hgoes (next : Worker) (hn : next.hasLeft = true) (hw : worker.hasLeft = false) :
      transit.outbound.dropSender.senders = staying (workers.set index next) := by
    have := staying_set_of_goes next hi hw hn
    simp only [Channel.dropSender]
    omega
  have hstays (next : Worker) (hn : next.hasLeft = false) (hw : worker.hasLeft = false) :
      transit.outbound.senders = staying (workers.set index next) :=
    hs.trans (staying_set_of_stays next hi hw hn).symm
  cases ha with
  | leave _ _ =>
    cases ho
    exact ⟨hgoes _ rfl rfl, rfl⟩
  | panic _ _ =>
    cases ho
    exact ⟨hgoes _ rfl rfl, rfl⟩
  | deliver _ hacc =>
    obtain ⟨sent, hsend, heq⟩ := Option.map_eq_some_iff.mp hacc
    cases sent with
    | accepted channel =>
      cases heq
      cases ho
      obtain ⟨-, -, rfl⟩ := Channel.send?_eq_accepted_iff.mp hsend
      exact ⟨hstays _ rfl rfl, rfl⟩
    | refused =>
      cases heq
      cases ho
      exact ⟨hstays _ rfl rfl, rfl⟩
  | _ =>
    cases ho
    exact ⟨hstays _ rfl rfl, rfl⟩

namespace Joined

theorem filterTurn (h : transit.Joined) (hi : transit.filters[index]? = some worker)
    (ha : worker.Acts chain closing ⟨transit.inbound, .forward transit.outbound⟩ turn)
    (ho : turn.ports.sentinel = .forward outbound) :
    (transit.afterFilter index worker turn outbound).Joined := by
  obtain ⟨hsenders, hreceivers⟩ := senders_of_acts hi ha h.outboundSenders ho
  exact {
    inboundReceivers := receivers_of_acts hi ha h.inboundReceivers
    outboundSenders := hsenders
    outboundReceivers := hreceivers.trans h.outboundReceivers
    manned := by simpa [afterFilter] using h.manned }

theorem outputTurn (h : transit.Joined) (hi : transit.outputs[index]? = some worker)
    (ha : worker.Acts chain closing ⟨transit.outbound, .final⟩ turn) :
    (transit.afterOutput index worker turn).Joined := by
  refine {
    inboundReceivers := h.inboundReceivers
    outboundSenders := ?_
    outboundReceivers := receivers_of_acts hi ha h.outboundReceivers
    manned := by simpa [afterOutput] using h.manned }
  refine Eq.trans ?_ h.outboundSenders
  cases ha <;> rfl

end Joined

/-! ## Nothing gets lost -/

namespace Whole

/-- A worker of the filters whose turn leaves what is to come of it as it is. -/
theorem filterKeeps {after : Worker} (h : transit.Whole chain)
    (hi : transit.filters[index]? = some worker) (hw : worker.hasLeft = false) (ha : after.hasLeft = false)
    (hheld : after.held chain = worker.held chain) (dropped : Nat)
    (hc : after.stats = worker.stats.add { dropped := dropped })
    (hb : worker.isCarrying.toNat = dropped + after.isCarrying.toNat) :
    Whole chain { transit with filters := transit.filters.set index after } := by
  have hstay := staying_set_of_stays after hi hw ha
  have hstanding : after.hasPanicked = false := by
    obtain ⟨task, stats⟩ := after
    cases task <;> first | rfl | cases ha
  obtain ⟨htallied, hmerged⟩ := h.filtersTallied.set after hi hstanding { dropped := dropped } hc
    (by simpa using hb) rfl
  exact { h with
    filtersGone := by simpa only [hstay] using h.filtersGone
    outputsGone := by simpa only [hstay] using h.outputsGone
    filtersTallied := htallied
    taken := by simpa [hmerged, Stats.add] using h.taken
    passed := by simpa [hmerged, Stats.add] using h.passed
    images := by simpa only [Agree.flatMap_set_of_keep (Worker.held chain) after hi hheld] using h.images }

variable {stage : Stage} {changed : Event} {written : String}

theorem filterPasses (h : transit.Whole chain)
    (hi : transit.filters[index]? = some ⟨.carrying event passed, stats⟩)
    (hs : chain.stages[passed]? = some stage)
    (hp : stage.process event = .flow (.continue changed) written) :
    let after : Worker := ⟨.carrying changed (passed + 1), stats⟩
    Whole chain { transit with filters := transit.filters.set index after } := by
  refine h.filterKeeps hi rfl rfl ?_ 0 rfl rfl
  simp only [Worker.held, Chain.passThrough_of_continue hs hp]

theorem filterDrops (h : transit.Whole chain)
    (hi : transit.filters[index]? = some ⟨.carrying event passed, stats⟩)
    (hs : chain.stages[passed]? = some stage) (hp : stage.process event = .flow .drop written) :
    let after : Worker := ⟨.waiting, stats.count .dropped⟩
    Whole chain { transit with filters := transit.filters.set index after } := by
  refine h.filterKeeps hi rfl rfl ?_ 1 rfl rfl
  simp only [Worker.held, Chain.passThrough_of_drop hs hp, Passage.events]

theorem filterTakes (h : transit.Whole chain) (hi : transit.filters[index]? = some ⟨.waiting, stats⟩)
    (hw : transit.inbound.waiting = event :: rest) :
    let after : Worker := ⟨.carrying event 0, { stats with received := stats.received + 1 }⟩
    Whole chain { transit with
      inbound := { transit.inbound with waiting := rest }
      taken := transit.taken ++ [event]
      filters := transit.filters.set index after } := by
  intro after
  have hstay := staying_set_of_stays after hi rfl rfl
  have hpos := staying_pos hi rfl
  obtain ⟨htallied, hmerged⟩ := h.filtersTallied.set after hi rfl { received := 1 } rfl rfl rfl
  refine { h with
    fifo := by simp [h.fifo, hw]
    filtersGone := fun (hz : staying (transit.filters.set index after) = 0) => by omega
    outputsGone := by simpa only [hstay] using h.outputsGone
    filtersTallied := htallied
    taken := by simp [hmerged, Stats.add, h.taken]
    passed := by simpa [hmerged, Stats.add] using h.passed
    images := ?_ }
  -- what the event is to become joins what was to come of those taken before
  have hheld : ((transit.filters.set index after).flatMap (Worker.held chain)).Perm
      (transit.filters.flatMap (Worker.held chain) ++ chain.image event) := by
    have hperm := Agree.flatMap_set_perm (Worker.held chain) after hi
    rwa [show Worker.held chain ⟨.waiting, stats⟩ = [] from rfl, List.append_nil] at hperm
  have hjoined := h.images.append_right (chain.image event)
  simp only [List.append_assoc] at hjoined
  simp only [List.flatMap_append, List.flatMap_cons, List.flatMap_nil, List.append_nil]
  exact .trans (.append_left _ (.append_left _ hheld)) hjoined

theorem filterLeaves (h : transit.Whole chain) (hi : transit.filters[index]? = some ⟨.waiting, stats⟩)
    (hw : transit.inbound.waiting = []) :
    let after : Worker := ⟨.left, stats⟩
    Whole chain { transit with
      inbound := transit.inbound.dropReceiver
      filters := transit.filters.set index after
      outbound := transit.outbound.dropSender } := by
  intro after
  have hstay := staying_set_of_goes after hi rfl rfl
  obtain ⟨htallied, hmerged⟩ := h.filtersTallied.set after hi rfl {} rfl rfl rfl
  have hempty : transit.inbound.dropReceiver.waiting = [] := by simp [Channel.dropReceiver, hw]
  refine { h with
    fifo := by simpa [hempty, hw] using h.fifo
    filtersGone := fun _ => hempty
    outputsGone := fun hg => ?_
    filtersTallied := htallied
    taken := by simpa [hmerged, Stats.add] using h.taken
    passed := by simpa [hmerged, Stats.add, Channel.dropSender] using h.passed
    images := ?_ }
  -- the outputs are all there as long as a filter is, and this one was
  · have := (h.outputsGone hg).1
    omega
  · simpa only [Channel.dropSender, Agree.flatMap_set_of_keep (Worker.held chain) after hi rfl]
      using h.images

/-- Nobody refuses what the filters deliver. -/
theorem outbound_isClosed (h : transit.Whole chain) (hj : transit.Joined)
    (hs : 0 < staying transit.filters) : transit.outbound.isClosed = false := by
  -- the first output to go would have found that all filters had gone
  have hall : ¬ staying transit.outputs < transit.outputs.length := fun hg => by
    have := (h.outputsGone hg).1
    omega
  have := hj.manned.2
  simp only [Channel.isClosed, hj.outboundReceivers, beq_eq_false_iff_ne]
  omega

theorem filterDelivers (h : transit.Whole chain)
    (hi : transit.filters[index]? = some ⟨.carrying event passed, stats⟩)
    (hs : chain.stages[passed]? = none) :
    let after : Worker := ⟨.waiting, stats.count .delivered⟩
    Whole chain { transit with
      filters := transit.filters.set index after
      outbound := transit.outbound.push event } := by
  intro after
  have hstay := staying_set_of_stays after hi rfl rfl
  have hpos := staying_pos hi rfl
  obtain ⟨htallied, hmerged⟩ := h.filtersTallied.set after hi rfl { delivered := 1 } rfl rfl rfl
  refine { h with
    filtersGone := fun (hz : staying (transit.filters.set index after) = 0) => by omega
    outputsGone := fun hg => ?_
    filtersTallied := htallied
    taken := by simpa [hmerged, Stats.add] using h.taken
    passed := by simp [hmerged, Stats.add, h.passed, Channel.push, Nat.add_assoc]
    images := ?_ }
  · have := (h.outputsGone hg).1
    omega
  -- what the worker held is the event, which is put behind those that wait
  have hheld : (event :: (transit.filters.set index after).flatMap (Worker.held chain)).Perm
      (transit.filters.flatMap (Worker.held chain)) := by
    have hperm := Agree.flatMap_set_perm (Worker.held chain) after hi
    rw [show Worker.held chain ⟨.carrying event passed, stats⟩ = [event] by
      simp [Worker.held, Chain.passThrough_of_end hs, Passage.events]] at hperm
    simpa [after, Worker.held] using List.perm_append_comm.trans hperm
  simp only [Channel.push, List.append_assoc, List.cons_append, List.nil_append]
  exact .trans (.append_left _ (.append_left _ hheld)) h.images

theorem filterTurn (h : transit.Whole chain) (hj : transit.Joined) (hc : chain.Steady)
    (hi : transit.filters[index]? = some worker)
    (ha : worker.Acts chain closing ⟨transit.inbound, .forward transit.outbound⟩ turn)
    (ho : turn.ports.sentinel = .forward outbound) :
    (transit.afterFilter index worker turn outbound).Whole chain := by
  cases ha with
  | take hw =>
    cases ho
    exact h.filterTakes hi hw
  | leave hw _ =>
    cases ho
    simpa [afterFilter, Worker.took, Ports.leave] using h.filterLeaves hi hw
  | pass hs hp =>
    cases ho
    simpa [afterFilter, Worker.took] using h.filterPasses hi hs hp
  | drop hs hp =>
    cases ho
    simpa [afterFilter, Worker.took] using h.filterDrops hi hs hp
  -- no stage of a steady chain breaks down
  | panic hs hp => exact absurd hp (hc _ (List.mem_of_getElem? hs) _)
  | deliver hs hacc =>
    have hopen := h.outbound_isClosed hj (staying_pos hi rfl)
    obtain ⟨sent, hsend, heq⟩ := Option.map_eq_some_iff.mp hacc
    cases sent with
    | accepted channel =>
      obtain ⟨rfl, rfl⟩ := Prod.mk.inj heq
      obtain ⟨-, -, rfl⟩ := Channel.send?_eq_accepted_iff.mp hsend
      cases ho
      simpa [afterFilter, Worker.took] using h.filterDelivers hi hs
    | refused =>
      rw [Channel.send?_eq_refused_iff.mp hsend] at hopen
      cases hopen

/-! ### Outputs -/

theorem outputTakes (h : transit.Whole chain) (hi : transit.outputs[index]? = some ⟨.waiting, stats⟩)
    (hw : transit.outbound.waiting = event :: rest) :
    let after : Worker := ⟨.carrying event 0, { stats with received := stats.received + 1 }⟩
    Whole chain { transit with
      outbound := { transit.outbound with waiting := rest }
      received := transit.received ++ [event]
      outputs := transit.outputs.set index after } := by
  intro after
  have hstay := staying_set_of_stays after hi rfl rfl
  obtain ⟨htallied, hmerged⟩ := h.outputsTallied.set after hi rfl { received := 1 } rfl rfl rfl
  refine { h with
    outputsGone := fun hg => ?_
    outputsTallied := htallied
    passed := ?_
    received := by simp [hmerged, Stats.add, h.received]
    images := by simpa [hw] using h.images }
  · have := (h.outputsGone (by simpa [hstay] using hg)).2
    simp [hw] at this
  · have := h.passed
    simp only [hw, List.length_cons, List.length_append, List.length_nil] at this ⊢
    omega

/-- A worker of the outputs whose turn moves no event. -/
theorem outputKeeps (h : transit.Whole chain) (after : Worker)
    (hi : transit.outputs[index]? = some worker) (hw : worker.hasLeft = false) (ha : after.hasLeft = false)
    (delivered dropped : Nat)
    (hc : after.stats = worker.stats.add { delivered := delivered, dropped := dropped })
    (hb : worker.isCarrying.toNat = delivered + dropped + after.isCarrying.toNat) :
    Whole chain { transit with outputs := transit.outputs.set index after } := by
  have hstay := staying_set_of_stays after hi hw ha
  have hstanding : after.hasPanicked = false := by
    obtain ⟨task, stats⟩ := after
    cases task <;> first | rfl | cases ha
  obtain ⟨htallied, hmerged⟩ := h.outputsTallied.set after hi hstanding _ hc (by simpa using hb) rfl
  exact { h with
    outputsGone := by simpa [hstay] using h.outputsGone
    outputsTallied := htallied
    received := by simpa [hmerged, Stats.add] using h.received }

theorem outputLeaves (h : transit.Whole chain) (hi : transit.outputs[index]? = some ⟨.waiting, stats⟩)
    (hw : transit.outbound.waiting = []) (hf : staying transit.filters = 0) :
    let after : Worker := ⟨.left, stats⟩
    Whole chain { transit with
      outbound := transit.outbound.dropReceiver
      outputs := transit.outputs.set index after } := by
  intro after
  obtain ⟨htallied, hmerged⟩ := h.outputsTallied.set after hi rfl {} rfl rfl rfl
  have hempty : transit.outbound.dropReceiver.waiting = [] := by simp [Channel.dropReceiver, hw]
  exact { h with
    outputsGone := fun _ => ⟨hf, hempty⟩
    outputsTallied := htallied
    passed := by simpa [hempty, hw] using h.passed
    received := by simpa [hmerged, Stats.add] using h.received
    images := by simpa [hempty, hw] using h.images }

theorem outputTurn {outputChain : Chain} (h : transit.Whole chain) (hj : transit.Joined)
    (hc : outputChain.Steady) (hi : transit.outputs[index]? = some worker)
    (ha : worker.Acts outputChain closing ⟨transit.outbound, .final⟩ turn)
    (hclosing : closing = true → staying transit.filters = 0) :
    (transit.afterOutput index worker turn).Whole chain := by
  cases ha with
  | take hw => exact h.outputTakes hi hw
  | leave hw hl =>
    have hf : staying transit.filters = 0 := by
      rcases hl with hl | hl
      · exact hclosing hl
      · exact hj.outboundSenders.symm.trans hl
    simpa [afterOutput, Worker.took, Ports.leave] using h.outputLeaves hi hw hf
  | pass hs hp =>
    simpa [afterOutput, Worker.took] using h.outputKeeps ⟨.carrying _ _, _⟩ hi rfl rfl 0 0 rfl rfl
  | @drop stats event passed stage written hs hp =>
    simpa [afterOutput, Worker.took] using
      h.outputKeeps ⟨.waiting, stats.count .dropped⟩ hi rfl rfl 0 1 rfl rfl
  | panic hs hp => exact absurd hp (hc _ (List.mem_of_getElem? hs) _)
  | @deliver stats event passed outcome sentinel hs hacc =>
    obtain ⟨rfl, rfl⟩ : Outcome.delivered = outcome ∧ Sentinel.final = sentinel := by
      simpa [Sentinel.accept?] using hacc
    simpa [afterOutput, Worker.took] using
      h.outputKeeps ⟨.waiting, stats.count .delivered⟩ hi rfl rfl 1 0 rfl rfl

/-! ### The one who sends -/

theorem sends (h : transit.Whole chain) (hs : 0 < staying transit.filters) (event : Event) :
    Whole chain { transit with
      sent := transit.sent ++ [event]
      inbound := transit.inbound.push event } :=
  { h with
    fifo := by simp [h.fifo, Channel.push]
    filtersGone := fun (hz : staying transit.filters = 0) => by omega }

/-! ### The beginning and the end -/

theorem held_eq_nil (chain : Chain) {workers : List Worker}
    (h : ∀ worker ∈ workers, worker.isCarrying = false) : workers.flatMap (Worker.held chain) = [] := by
  refine List.flatMap_eq_nil_iff.mpr fun worker hm => ?_
  have hnot := h worker hm
  obtain ⟨task, stats⟩ := worker
  cases task <;> first | rfl | cases hnot

/-- When all workers of both phases have gone, what was sent has been taken, and what came out of the filters
has been taken by the outputs. -/
theorem landed (h : transit.Whole chain) (hj : transit.Joined) (ho : staying transit.outputs = 0) :
    transit.sent = transit.taken ∧ transit.received.Perm (transit.taken.flatMap chain.image) ∧
      (Controller.merged transit.filters).received =
        (Controller.merged transit.filters).delivered + (Controller.merged transit.filters).dropped ∧
      (Controller.merged transit.filters).delivered = (Controller.merged transit.outputs).received := by
  obtain ⟨-, hmanned⟩ := hj.manned
  obtain ⟨hf, houtbound⟩ := h.outputsGone (by omega)
  have hcarry := Flight.Sound.carrying_eq_zero hf
  have hheld := held_eq_nil chain fun worker hm => by
    simpa using List.countP_eq_zero.mp hcarry worker hm
  refine ⟨by simpa [h.filtersGone hf] using h.fifo, by simpa [houtbound, hheld] using h.images, ?_, ?_⟩
  · simpa [hcarry] using h.filtersTallied.balanced
  · simpa [houtbound, h.received] using h.passed

end Whole

/-- Nothing has been sent, and all workers wait. -/
def fresh (filters outputs : Nat) (inbound outbound : Channel) : Transit :=
  { sent := [], inbound := inbound, taken := [], filters := List.replicate filters {}, outbound := outbound
    received := [], outputs := List.replicate outputs {} }

theorem joined_fresh {filters outputs : Nat} {inbound outbound : Channel} (hf : 0 < filters)
    (ho : 0 < outputs) (hi : inbound.receivers = filters) (hs : outbound.senders = filters)
    (hr : outbound.receivers = outputs) : (fresh filters outputs inbound outbound).Joined :=
  ⟨hi.trans (staying_replicate filters).symm, hs.trans (staying_replicate filters).symm,
    hr.trans (staying_replicate outputs).symm, by simpa [fresh] using ⟨hf, ho⟩⟩

theorem whole_fresh {filters outputs : Nat} {inbound outbound : Channel} (chain : Chain)
    (hi : inbound.waiting = []) (ho : outbound.waiting = []) :
    (fresh filters outputs inbound outbound).Whole chain where
  fifo := by simp [fresh, hi]
  filtersGone := fun _ => hi
  outputsGone := by simp [fresh, staying_replicate]
  filtersTallied := tallied_replicate filters
  outputsTallied := tallied_replicate outputs
  taken := by simp [fresh, Controller.merged_replicate]
  passed := by simp [fresh, Controller.merged_replicate, ho]
  received := by simp [fresh, Controller.merged_replicate]
  images := by
    have hheld : (List.replicate filters {}).flatMap (Worker.held chain) = [] :=
      Whole.held_eq_nil chain fun worker hm => by
        rw [List.eq_of_mem_replicate hm]
        rfl
    simp [fresh, ho, hheld]

end Transit

end LogPipeline
