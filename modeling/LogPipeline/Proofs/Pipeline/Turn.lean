import LogPipeline.Pipeline.Controller

/-!
# Turns of workers

Everything that a worker can do, with what it finds when it does it. Later proofs go through these cases and
leave the step functions closed.
-/

namespace LogPipeline

/-- What comes out at the end: one event, or none. -/
def Passage.events : Passage → List Event
  | .passed event => [event]
  | .dropped | .panicked => []

namespace Chain

/-- What comes out of a chain for an event. -/
def image (chain : Chain) (event : Event) : List Event := (chain.pass event).events

/-- No stage of a chain breaks down. -/
def Steady (chain : Chain) : Prop :=
  ∀ stage ∈ chain.stages, ∀ event, stage.process event ≠ .panic

variable {stages : List Stage} {passed : Nat} {stage : Stage} {event next : Event} {written : String}

theorem drop_eq_cons (h : stages[passed]? = some stage) :
    stages.drop passed = stage :: stages.drop (passed + 1) := by
  obtain ⟨hl, rfl⟩ := List.getElem?_eq_some_iff.mp h
  exact List.drop_eq_getElem_cons hl

theorem passThrough_of_continue (h : stages[passed]? = some stage)
    (hp : stage.process event = .flow (.continue next) written) :
    passThrough (stages.drop passed) event = passThrough (stages.drop (passed + 1)) next := by
  rw [drop_eq_cons h]
  simp only [passThrough, hp]

theorem passThrough_of_drop (h : stages[passed]? = some stage)
    (hp : stage.process event = .flow .drop written) :
    passThrough (stages.drop passed) event = .dropped := by
  rw [drop_eq_cons h]
  simp only [passThrough, hp]

theorem passThrough_of_end (h : stages[passed]? = none) :
    passThrough (stages.drop passed) event = .passed event := by
  rw [List.drop_eq_nil_of_le (List.getElem?_eq_none_iff.mp h)]
  rfl

end Chain

namespace Worker

/-- What a worker can do at its ports. -/
inductive Acts (chain : Chain) (closing : Bool) (ports : Ports) : Worker → Turn → Prop
  | take {stats event rest} : ports.inbound.waiting = event :: rest →
      Acts chain closing ports ⟨.waiting, stats⟩ {
        worker := ⟨.carrying event 0, { stats with received := stats.received + 1 }⟩
        ports := { ports with inbound := { ports.inbound with waiting := rest } } }
  | leave {stats} : ports.inbound.waiting = [] → (closing = true ∨ ports.inbound.senders = 0) →
      Acts chain closing ports ⟨.waiting, stats⟩ { worker := ⟨.left, stats⟩, ports := ports.leave }
  | pass {stats event passed stage next written} : chain.stages[passed]? = some stage →
      stage.process event = .flow (.continue next) written →
      Acts chain closing ports ⟨.carrying event passed, stats⟩ {
        worker := ⟨.carrying next (passed + 1), stats⟩
        ports := ports
        calls := [.processed passed written] }
  | drop {stats event passed stage written} : chain.stages[passed]? = some stage →
      stage.process event = .flow .drop written →
      Acts chain closing ports ⟨.carrying event passed, stats⟩ {
        worker := ⟨.waiting, stats.count .dropped⟩
        ports := ports
        calls := [.processed passed written] }
  | panic {stats event passed stage} : chain.stages[passed]? = some stage →
      stage.process event = .panic →
      Acts chain closing ports ⟨.carrying event passed, stats⟩ {
        worker := ⟨.panicked, stats⟩
        ports := ports.leave
        calls := [.processed passed ""] }
  | deliver {stats event passed outcome sentinel} : chain.stages[passed]? = none →
      ports.sentinel.accept? event = some (outcome, sentinel) →
      Acts chain closing ports ⟨.carrying event passed, stats⟩ {
        worker := ⟨.waiting, stats.count outcome⟩
        ports := { ports with sentinel := sentinel } }

variable {chain : Chain} {closing : Bool} {ports : Ports} {worker : Worker} {turn : Turn}

theorem acts_of_takeNext {stats : Stats}
    (h : takeNext ⟨.waiting, stats⟩ closing ports = some turn) :
    Acts chain closing ports ⟨.waiting, stats⟩ turn := by
  unfold takeNext Channel.take? at h
  cases hw : ports.inbound.waiting with
  | cons event rest =>
    simp only [hw] at h
    cases h
    exact .take hw
  | nil =>
    simp only [hw] at h
    split at h
    · rename_i hl
      cases h
      refine .leave hw ?_
      simpa [Channel.isExhausted, hw] using hl
    · cases h

theorem acts_of_enter {stats : Stats} {event : Event} {passed : Nat} {stage : Stage}
    (hs : chain.stages[passed]? = some stage) :
    Acts chain closing ports ⟨.carrying event passed, stats⟩
      (enter ⟨.carrying event passed, stats⟩ ports event passed stage) := by
  unfold enter
  split
  · exact .pass hs ‹_›
  · exact .drop hs ‹_›
  · exact .panic hs ‹_›

theorem acts_of_step (h : worker.step chain closing ports = some turn) :
    Acts chain closing ports worker turn := by
  obtain ⟨task, stats⟩ := worker
  cases task with
  | waiting => exact acts_of_takeNext h
  | carrying event passed =>
    simp only [step] at h
    split at h
    · rename_i stage hs
      cases h
      exact acts_of_enter hs
    · rename_i hs
      obtain ⟨⟨outcome, sentinel⟩, ha, rfl⟩ := Option.map_eq_some_iff.mp h
      exact .deliver hs ha
  | left => cases h
  | panicked => cases h

end Worker

namespace Controller

/-- A move of a controller is a turn of one of its workers. -/
theorem of_move? {controller next : Controller} {ports ports' : Ports} {index : Nat}
    (h : controller.move? ports index = some (next, ports')) :
    ∃ closing workers worker turn, controller.state = .running closing workers ∧
      workers[index]? = some worker ∧ worker.Acts controller.chain closing ports turn ∧
      ports' = turn.ports ∧ next = { controller with
        state := .running closing (workers.set index turn.worker)
        calls := turn.calls ++ controller.calls } := by
  unfold move? at h
  split at h
  · rename_i closing workers hs
    obtain ⟨turn, ht, heq⟩ := Option.map_eq_some_iff.mp h
    obtain ⟨worker, hw, hstep⟩ := Option.bind_eq_some_iff.mp ht
    cases heq
    exact ⟨closing, workers, worker, turn, hs, hw, Worker.acts_of_step hstep, rfl, rfl⟩
  · cases h

end Controller

/-! ## Pools -/

/-- How many workers have not gone. -/
def staying (workers : List Worker) : Nat := workers.countP fun worker => !worker.hasLeft

theorem countP_set {α : Type} {list : List α} {index : Nat} {x : α} (p : α → Bool) (next : α)
    (h : list[index]? = some x) :
    (list.set index next).countP p + (p x).toNat = list.countP p + (p next).toNat := by
  induction list generalizing index with
  | nil => simp at h
  | cons first rest ih =>
    cases index with
    | zero =>
      obtain rfl : first = x := by simpa using h
      cases hx : p first <;> cases hn : p next <;> simp [hx, hn]
    | succ index =>
      simp only [List.set_cons_succ, List.countP_cons]
      have ih : (rest.set index next).countP p + (p x).toNat = rest.countP p + (p next).toNat :=
        ih (by simpa using h)
      omega

theorem staying_set_of_stays {workers : List Worker} {index : Nat} {worker : Worker} (next : Worker)
    (h : workers[index]? = some worker) (hw : worker.hasLeft = false) (hn : next.hasLeft = false) :
    staying (workers.set index next) = staying workers := by
  simpa [staying, hw, hn] using countP_set (fun worker => !worker.hasLeft) next h

theorem staying_set_of_goes {workers : List Worker} {index : Nat} {worker : Worker} (next : Worker)
    (h : workers[index]? = some worker) (hw : worker.hasLeft = false) (hn : next.hasLeft = true) :
    staying (workers.set index next) + 1 = staying workers := by
  simpa [staying, hw, hn] using countP_set (fun worker => !worker.hasLeft) next h

theorem staying_eq_zero_iff {workers : List Worker} :
    staying workers = 0 ↔ ∀ worker ∈ workers, worker.hasLeft = true := by
  simp [staying, List.countP_eq_zero]

theorem staying_replicate (size : Nat) : staying (List.replicate size {}) = size := by
  simp [staying, List.countP_replicate, Worker.hasLeft]

theorem Controller.isDeserted_iff {controller : Controller} {closing : Bool} {workers : List Worker}
    (hs : controller.state = .running closing workers) :
    controller.isDeserted = true ↔ staying workers = 0 := by
  simp [isDeserted, Controller.workers, hs, staying_eq_zero_iff]

theorem staying_pos {workers : List Worker} {index : Nat} {worker : Worker}
    (h : workers[index]? = some worker) (hw : worker.hasLeft = false) : 0 < staying workers := by
  refine List.countP_pos_iff.mpr ⟨worker, List.mem_of_getElem? h, ?_⟩
  simp [hw]

namespace Stats

theorem add_right_comm (a b c : Stats) : (a.add b).add c = (a.add c).add b := by
  simp only [add, mk.injEq]
  omega

/-- The counts of one event that left a chain. -/
def ofOutcome (outcome : Outcome) : Stats := ({} : Stats).count outcome

theorem count_eq_add (stats : Stats) (outcome : Outcome) :
    stats.count outcome = stats.add (ofOutcome outcome) := by
  cases outcome <;> rfl

theorem foldl_add (workers : List Worker) (a b : Stats) :
    workers.foldl (fun stats worker => stats.add worker.stats) (a.add b) =
      (workers.foldl (fun stats worker => stats.add worker.stats) a).add b := by
  induction workers generalizing a with
  | nil => rfl
  | cons worker rest ih => simp only [List.foldl_cons, add_right_comm a b, ih]

end Stats

namespace Controller

theorem merged_eq_foldl {workers : List Worker} (h : ∀ worker ∈ workers, worker.hasPanicked = false) :
    merged workers = workers.foldl (fun stats worker => stats.add worker.stats) {} := by
  unfold merged
  rw [List.filter_eq_self.mpr fun worker hm => by simp [h worker hm]]

theorem merged_replicate (size : Nat) : merged (List.replicate size {}) = {} := by
  rw [merged_eq_foldl fun worker hm => by rw [List.eq_of_mem_replicate hm]; rfl]
  induction size with
  | zero => rfl
  | succ size ih => exact ih

/-- What one worker counts, the pool counts. -/
theorem merged_set {workers : List Worker} {index : Nat} {worker next : Worker} (counted : Stats)
    (h : ∀ worker ∈ workers, worker.hasPanicked = false) (hi : workers[index]? = some worker)
    (hn : next.hasPanicked = false) (hc : next.stats = worker.stats.add counted) :
    merged (workers.set index next) = (merged workers).add counted := by
  have hset : ∀ worker ∈ workers.set index next, worker.hasPanicked = false := by
    intro other hm
    rcases List.mem_or_eq_of_mem_set hm with hm | rfl
    · exact h other hm
    · exact hn
  rw [merged_eq_foldl h, merged_eq_foldl hset]
  clear h hset
  -- the sum starts from anything, so that the induction can pass the first worker
  generalize ({} : Stats) = start
  induction workers generalizing index start with
  | nil => simp at hi
  | cons first rest ih =>
    cases index with
    | zero =>
      obtain rfl : first = worker := by simpa using hi
      simp only [List.set_cons_zero, List.foldl_cons, hc]
      rw [← Stats.foldl_add]
      congr 1
      simp only [Stats.add, Stats.mk.injEq]
      omega
    | succ index =>
      simp only [List.set_cons_succ, List.foldl_cons]
      exact ih (by simpa using hi) _

end Controller

end LogPipeline
