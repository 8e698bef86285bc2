import LogPipeline.Proofs.Pipeline.Turn

/-!
# Progress

What brings closing to an end. Every turn of a worker lessens the load that is left, and in a pool that is
closing a worker that has not gone can take a turn, unless the channel behind it is full. A system whose acts
lessen a load, and in which one of the acts that are due always does, is done after as many rounds
of these as its load is large.
-/

namespace LogPipeline

/-! ## Rounds -/

/-- As long as the system is not done, a quiet act that changes anything lessens the load, apart from what the
act itself adds, and one of the acts that are due lessens it. -/
structure Waning {σ α : Type} (step : σ → α → σ) (load : σ → Nat) (cost : α → Nat) (dues : List α)
    (quiet : α → Prop) (within done : σ → Prop) : Prop where
  keeps : ∀ {s a}, quiet a → within s → within (step s a)
  wanes : ∀ {s a}, quiet a → within s → ¬ done s → step s a = s ∨ load (step s a) < load s + cost a
  stays : ∀ {s a}, quiet a → done s → done (step s a)
  due : ∀ {s}, within s → ¬ done s → ∃ a ∈ dues, load (step s a) < load s

namespace Waning

variable {σ α : Type} {step : σ → α → σ} {load : σ → Nat} {cost : α → Nat} {dues : List α}
  {quiet : α → Prop} {within done : σ → Prop} {s : σ} {a : α} {acts : List α}

/-- What a list of acts adds. -/
def total (cost : α → Nat) : List α → Nat
  | [] => 0
  | a :: rest => cost a + total cost rest

theorem total_append (cost : α → Nat) (acts rest : List α) :
    total cost (acts ++ rest) = total cost acts + total cost rest := by
  induction acts with
  | nil => simp [total]
  | cons a acts ih =>
    simp only [List.cons_append, total, ih]
    omega

theorem total_zero (acts : List α) : total (fun _ => 0) acts = 0 := by
  induction acts with
  | nil => rfl
  | cons a acts ih => simpa only [total, Nat.zero_add] using ih

theorem keeps_all (h : Waning step load cost dues quiet within done) (hq : ∀ a ∈ acts, quiet a)
    (hs : within s) : within (acts.foldl step s) := by
  induction acts generalizing s with
  | nil => exact hs
  | cons a rest ih =>
    simp only [List.forall_mem_cons] at hq
    exact ih hq.2 (h.keeps hq.1 hs)

theorem stays_all (h : Waning step load cost dues quiet within done) (hq : ∀ a ∈ acts, quiet a)
    (hs : done s) : done (acts.foldl step s) := by
  induction acts generalizing s with
  | nil => exact hs
  | cons a rest ih =>
    simp only [List.forall_mem_cons] at hq
    exact ih hq.2 (h.stays hq.1 hs)

theorem load_le (h : Waning step load cost dues quiet within done) (hq : ∀ a ∈ acts, quiet a)
    (hs : within s) (hdone : ¬ done (acts.foldl step s)) :
    load (acts.foldl step s) ≤ load s + total cost acts := by
  induction acts generalizing s with
  | nil => simp [total]
  | cons a rest ih =>
    have hrest := ih (fun b hb => hq b (.tail _ hb)) (h.keeps (hq a (.head _)) hs) hdone
    have hnot : ¬ done s := fun hs => hdone (h.stays_all hq hs)
    simp only [List.foldl_cons, total]
    rcases h.wanes (hq a (.head _)) hs hnot with heq | hlt
    · rw [heq] at hrest ⊢
      omega
    · omega

/-- A round in which an act that is due is not left out lessens the load. -/
theorem load_lt (h : Waning step load cost dues quiet within done) (hq : ∀ a ∈ acts, quiet a)
    (hs : within s) (hdone : ¬ done (acts.foldl step s)) (ha : a ∈ acts)
    (hd : load (step s a) < load s) : load (acts.foldl step s) < load s + total cost acts := by
  induction acts with
  | nil => cases ha
  | cons first rest ih =>
    have hqrest : ∀ b ∈ rest, quiet b := fun b hb => hq b (.tail _ hb)
    have hrest := h.load_le hqrest (h.keeps (hq first (.head _)) hs) hdone
    have hnot : ¬ done s := fun hs => hdone (h.stays_all hq hs)
    simp only [List.foldl_cons, total] at hdone ⊢
    rcases h.wanes (hq first (.head _)) hs hnot with heq | hlt
    -- what changes nothing leaves the act that is due as it was
    · rcases List.mem_cons.mp ha with rfl | ha
      · rw [heq] at hd
        omega
      · rw [heq] at hdone ⊢
        have := ih hqrest hdone ha
        omega
    · omega

theorem done_of_rounds (h : Waning step load cost dues quiet within done) {rounds : List (List α)}
    (hq : ∀ round ∈ rounds, ∀ a ∈ round, quiet a) (hd : ∀ round ∈ rounds, ∀ a ∈ dues, a ∈ round)
    (hs : within s) (hl : load s + total cost rounds.flatten ≤ rounds.length) :
    done (rounds.flatten.foldl step s) := by
  induction rounds generalizing s with
  | nil =>
    refine Classical.byContradiction fun hdone => ?_
    obtain ⟨a, -, hlt⟩ := h.due hs hdone
    have : load s = 0 := by simpa [total] using hl
    omega
  | cons round rest ih =>
    simp only [List.forall_mem_cons] at hq hd
    simp only [List.flatten_cons, total_append, List.length_cons, List.foldl_append] at hl ⊢
    have hqrest : ∀ a ∈ rest.flatten, quiet a := fun a ha => by
      obtain ⟨round, hm, ha⟩ := List.mem_flatten.mp ha
      exact hq.2 round hm a ha
    -- the act that is due stands in this round, and the round has lessened the load or the system is done
    by_cases hdone : done (round.foldl step s)
    · exact h.stays_all hqrest hdone
    · obtain ⟨a, ha, hlt⟩ := h.due hs fun hs => hdone (h.stays_all hq.1 hs)
      have := h.load_lt hq.1 hs hdone (hd.1 a ha) hlt
      exact ih hq.2 hd.2 (h.keeps_all hq.1 hs) (by omega)

end Waning

/-! ## Loads -/

/-- What an event weighs that has all of a chain before it. To hand it over takes as much as it weighs
further on. -/
def Chain.haul (chain : Chain) (further : Nat) : Nat := chain.size + further + 2

/-- What a worker has still to do with what it carries. -/
def Worker.toil (chain : Chain) (further : Nat) (worker : Worker) : Nat :=
  match worker.task with
  | .waiting => 1
  | .carrying _ passed => chain.size - passed + further + 2
  | .left | .panicked => 0

def toils (chain : Chain) (further : Nat) : List Worker → Nat
  | [] => 0
  | worker :: rest => worker.toil chain further + toils chain further rest

/-- How many events wait behind a chain. -/
def Sentinel.backlog : Sentinel → Nat
  | .forward channel => channel.waiting.length
  | .final => 0

/-- What the workers at some ports have still to do, with what waits behind them. -/
def Ports.load (ports : Ports) (chain : Chain) (further : Nat) (workers : List Worker) : Nat :=
  ports.inbound.waiting.length * chain.haul further + toils chain further workers +
    ports.sentinel.backlog * further

variable {chain : Chain} {further : Nat} {workers : List Worker} {worker : Worker} {turn : Worker.Turn}
  {closing : Bool} {ports ports' : Ports} {index : Nat}

theorem toils_set (chain : Chain) (further : Nat) (next : Worker)
    (h : workers[index]? = some worker) :
    toils chain further (workers.set index next) + worker.toil chain further =
      toils chain further workers + next.toil chain further := by
  induction workers generalizing index with
  | nil => simp at h
  | cons first rest ih =>
    cases index with
    | zero =>
      obtain rfl : first = worker := by simpa using h
      simp only [List.set_cons_zero, toils]
      omega
    | succ index =>
      simp only [List.set_cons_succ, toils]
      have ih : toils chain further (rest.set index next) + worker.toil chain further =
          toils chain further rest + next.toil chain further := ih (by simpa using h)
      omega

@[simp] theorem Sentinel.backlog_dropSender (sentinel : Sentinel) :
    sentinel.dropSender.backlog = sentinel.backlog := by
  cases sentinel <;> rfl

theorem Sentinel.backlog_le_of_accept? {sentinel next : Sentinel} {event : Event} {outcome : Outcome}
    (h : sentinel.accept? event = some (outcome, next)) : next.backlog ≤ sentinel.backlog + 1 := by
  cases sentinel with
  | final =>
    cases h
    simp
  | forward channel =>
    obtain ⟨sent, hsent, heq⟩ := Option.map_eq_some_iff.mp h
    cases sent with
    | accepted channel' =>
      cases heq
      obtain ⟨-, -, rfl⟩ := Channel.send?_eq_accepted_iff.mp hsent
      simp [backlog, Channel.push]
    | refused =>
      cases heq
      simp

theorem Channel.length_dropReceiver (channel : Channel) :
    channel.dropReceiver.waiting.length ≤ channel.waiting.length := by
  unfold dropReceiver
  split <;> simp

/-- Every turn lessens what there is to do. -/
theorem Worker.Acts.wanes (h : worker.Acts chain closing ports turn) (further : Nat) :
    turn.ports.inbound.waiting.length * chain.haul further + turn.worker.toil chain further +
        turn.ports.sentinel.backlog * further <
      ports.inbound.waiting.length * chain.haul further + worker.toil chain further +
        ports.sentinel.backlog * further := by
  cases h with
  | take hw =>
    simp only [toil, hw, List.length_cons, Nat.succ_mul, Chain.haul]
    omega
  | leave hw _ =>
    simp [toil, hw, Ports.leave, Channel.dropReceiver]
  | pass hs _ =>
    have : _ < chain.size := (List.getElem?_eq_some_iff.mp hs).1
    simp only [toil]
    omega
  | drop _ _ =>
    simp only [toil]
    omega
  | panic _ _ =>
    -- the last worker to go takes along what waits
    have := Nat.mul_le_mul_right (chain.haul further) ports.inbound.length_dropReceiver
    simp only [toil, Ports.leave, Sentinel.backlog_dropSender]
    omega
  | deliver hs ha =>
    have hbacklog := Nat.mul_le_mul_right further (Sentinel.backlog_le_of_accept? ha)
    simp only [toil, Nat.succ_mul] at hbacklog ⊢
    omega

theorem Controller.load_of_move? {controller next : Controller} (further : Nat)
    (h : controller.move? ports index = some (next, ports')) :
    ports'.load next.chain further next.workers <
      ports.load controller.chain further controller.workers := by
  obtain ⟨closing, workers, worker, turn, hs, hw, ha, rfl, rfl⟩ := of_move? h
  have hset := toils_set controller.chain further turn.worker hw
  have := ha.wanes further
  simp only [Ports.load, Controller.workers, hs]
  omega

/-! ## Who can take a turn -/

/-- One more event has to wait before it may wait in the channel. -/
structure Channel.Full (channel : Channel) : Prop where
  isOpen : channel.isClosed = false
  noRoom : channel.hasRoom = false

theorem Channel.Full.waiting_ne_nil {channel : Channel} (h : channel.Full) : channel.waiting ≠ [] := by
  intro hempty
  have hroom := h.noRoom
  cases hc : channel.capacity <;> simp [hasRoom, hc, hempty] at hroom

/-- Only a full channel makes a sender wait. -/
theorem Channel.full_of_send?_eq_none {channel : Channel} {event : Event} (h : channel.send? event = none) :
    channel.Full := by
  unfold send? at h
  split at h
  · cases h
  · rename_i hclosed
    split at h
    · cases h
    · rename_i hroom
      exact ⟨by simpa using hclosed, by simpa using hroom⟩

/-- Only a full channel makes one wait who hands an event over. -/
theorem Sentinel.of_accept?_eq_none {sentinel : Sentinel} {event : Event}
    (h : sentinel.accept? event = none) : ∃ channel, sentinel = .forward channel ∧ channel.Full := by
  cases sentinel with
  | final => cases h
  | forward channel =>
    exact ⟨channel, rfl, Channel.full_of_send?_eq_none (Option.map_eq_none_iff.mp h)⟩

theorem Worker.step_isSome_or (chain : Chain) (h : worker.hasLeft = false)
    (hp : closing = true ∨ ports.inbound.waiting ≠ []) :
    (worker.step chain closing ports).isSome = true ∨
      ∃ channel, ports.sentinel = .forward channel ∧ channel.Full := by
  obtain ⟨task, stats⟩ := worker
  cases task with
  | waiting =>
    left
    cases hw : ports.inbound.waiting with
    | cons event rest => simp [step, takeNext, Channel.take?, hw]
    | nil =>
      obtain rfl : closing = true := hp.resolve_right fun hne => hne hw
      simp [step, takeNext, Channel.take?, hw]
  | carrying event passed =>
    simp only [step]
    split
    · exact .inl rfl
    · simp only [deliver, Option.isSome_map]
      cases ha : ports.sentinel.accept? event with
      | some _ => exact .inl rfl
      | none => exact .inr (Sentinel.of_accept?_eq_none ha)
  | left => cases h
  | panicked => cases h

theorem Controller.staying_pos {controller : Controller} (hs : controller.state = .running closing workers)
    (hd : controller.isDeserted = false) : 0 < staying workers := by
  refine Nat.pos_of_ne_zero fun hzero => ?_
  rw [(isDeserted_iff hs).mpr hzero] at hd
  cases hd

/-- As long as somebody is there who may leave or finds an event, somebody can move, unless what is handed over
has to wait. -/
theorem Controller.move?_isSome_or {controller : Controller} (ports : Ports)
    (hs : controller.state = .running closing workers) (hstay : 0 < staying workers)
    (hp : closing = true ∨ ports.inbound.waiting ≠ []) :
    (∃ index, index < workers.length ∧ (controller.move? ports index).isSome = true) ∨
      ∃ channel, ports.sentinel = .forward channel ∧ channel.Full := by
  obtain ⟨worker, hm, hw⟩ := List.countP_pos_iff.mp hstay
  obtain ⟨index, hi, hget⟩ := List.getElem_of_mem hm
  rcases Worker.step_isSome_or controller.chain (by simpa using hw) hp with hstep | hfull
  · refine .inl ⟨index, hi, ?_⟩
    simpa [move?, hs, List.getElem?_eq_getElem hi, hget] using hstep
  · exact .inr hfull

/-! ## Until nobody can -/

/-- To hand an event over takes no waiting, now or later. -/
def Sentinel.Unhindered : Sentinel → Prop
  | .forward channel => channel.isClosed = true ∨ channel.capacity = none
  | .final => True

namespace Sentinel

variable {sentinel next : Sentinel} {event : Event} {outcome : Outcome}

theorem Unhindered.not_full {channel : Channel} (h : (forward channel).Unhindered) : ¬ channel.Full := by
  intro hfull
  rcases h with hclosed | hnone
  · rw [hfull.isOpen] at hclosed
    cases hclosed
  · have hroom := hfull.noRoom
    simp [Channel.hasRoom, hnone] at hroom

theorem Unhindered.accept? (h : sentinel.Unhindered)
    (ha : sentinel.accept? event = some (outcome, next)) : next.Unhindered := by
  cases sentinel with
  | final =>
    cases ha
    trivial
  | forward channel =>
    obtain ⟨sent, hsent, heq⟩ := Option.map_eq_some_iff.mp ha
    cases sent with
    | accepted channel' =>
      cases heq
      obtain ⟨-, -, rfl⟩ := Channel.send?_eq_accepted_iff.mp hsent
      exact h
    | refused =>
      cases heq
      exact h

theorem Unhindered.dropSender (h : sentinel.Unhindered) : sentinel.dropSender.Unhindered := by
  cases sentinel <;> exact h

end Sentinel

theorem Controller.unhindered_of_move? {controller next : Controller}
    (h : controller.move? ports index = some (next, ports')) (hu : ports.sentinel.Unhindered) :
    ports'.sentinel.Unhindered := by
  obtain ⟨closing, workers, worker, turn, -, -, ha, rfl, rfl⟩ := of_move? h
  cases ha with
  | leave _ _ => exact hu.dropSender
  | panic _ _ => exact hu.dropSender
  | deliver _ ha => exact hu.accept? ha
  | _ => exact hu

theorem toils_le (chain : Chain) (further : Nat) (workers : List Worker) :
    toils chain further workers ≤ workers.length * chain.haul further := by
  induction workers with
  | nil => simp [toils]
  | cons worker rest ih =>
    have : worker.toil chain further ≤ chain.haul further := by
      unfold Worker.toil Chain.haul
      split <;> omega
    simp only [toils, List.length_cons, Nat.succ_mul]
    omega

namespace Controller

variable {controller next : Controller}

theorem moveAny?_eq_none_iff :
    controller.moveAny? ports = none ↔
      ∀ index < controller.workers.length, controller.move? ports index = none := by
  simp [moveAny?, List.findSome?_eq_none_iff]

theorem load_le_remaining (controller : Controller) (ports : Ports) :
    ports.load controller.chain 0 controller.workers ≤ controller.remaining ports := by
  have := toils_le controller.chain 0 controller.workers
  simp only [Ports.load, remaining, Chain.haul, Nat.add_zero, Nat.mul_zero, Nat.add_mul] at this ⊢
  omega

theorem closing_of_move? {index : Nat} (hs : ∃ workers, controller.state = .running true workers)
    (h : controller.move? ports index = some (next, ports')) :
    ∃ workers, next.state = .running true workers := by
  obtain ⟨workers, hs⟩ := hs
  obtain ⟨closing, workers', worker, turn, hs', -, -, -, rfl⟩ := of_move? h
  obtain ⟨rfl, -⟩ := ControllerState.running.inj (hs.symm.trans hs')
  exact ⟨_, rfl⟩

/-- What every move keeps is kept by workers that go on. -/
theorem settleWithin_keeps {p : Controller → Ports → Prop}
    (hp : ∀ {controller ports index next ports'}, p controller ports →
      controller.move? ports index = some (next, ports') → p next ports') (limit : Nat)
    (h : p controller ports) :
    p (settleWithin limit controller ports).1 (settleWithin limit controller ports).2 := by
  induction limit generalizing controller ports with
  | zero => exact h
  | succ limit ih =>
    simp only [settleWithin]
    split
    · rename_i hm
      obtain ⟨index, -, hm⟩ := List.exists_of_findSome?_eq_some hm
      exact ih (hp h hm)
    · exact h

/-- The limit on how long the workers go on is no limit. -/
theorem moveAny?_settleWithin {limit : Nat}
    (h : ports.load controller.chain 0 controller.workers ≤ limit) :
    (settleWithin limit controller ports).1.moveAny? (settleWithin limit controller ports).2 = none := by
  induction limit generalizing controller ports with
  | zero =>
    refine moveAny?_eq_none_iff.mpr fun index _ => Option.eq_none_iff_forall_ne_some.mpr fun moved hm => ?_
    have := load_of_move? 0 (show controller.move? ports index = some (moved.1, moved.2) from hm)
    omega
  | succ limit ih =>
    simp only [settleWithin]
    split
    · rename_i hm
      obtain ⟨index, -, hm⟩ := List.exists_of_findSome?_eq_some hm
      have := load_of_move? 0 hm
      exact ih (by omega)
    · assumption

/-- Workers that are told to leave and never have to wait have gone when they can do nothing more. -/
theorem isDeserted_settle (hs : controller.state = .running true workers) (hu : ports.sentinel.Unhindered) :
    (controller.settle ports).1.isDeserted = true := by
  have hstuck := moveAny?_settleWithin (controller.load_le_remaining ports)
  have hkept := settleWithin_keeps
    (p := fun controller ports =>
      (∃ workers, controller.state = .running true workers) ∧ ports.sentinel.Unhindered)
    (fun {_ _ _ _ _} h hm => ⟨closing_of_move? h.1 hm, unhindered_of_move? hm h.2⟩)
    (controller.remaining ports) ⟨⟨workers, hs⟩, hu⟩
  change (settleWithin (controller.remaining ports) controller ports).1.isDeserted = true
  generalize settleWithin (controller.remaining ports) controller ports = settled at hstuck hkept ⊢
  obtain ⟨⟨left, hleft⟩, hu⟩ := hkept
  -- whoever is still there could move, as no channel is full
  cases hd : settled.1.isDeserted with
  | true => rfl
  | false =>
    rcases move?_isSome_or _ hleft (staying_pos hleft hd) (.inl rfl) with ⟨index, hi, hm⟩ | ⟨channel, hc, hf⟩
    · have hnone := moveAny?_eq_none_iff.mp hstuck index (by simpa [Controller.workers, hleft] using hi)
      rw [hnone] at hm
      cases hm
    · rw [hc] at hu
      exact absurd hf hu.not_full

end Controller

end LogPipeline
