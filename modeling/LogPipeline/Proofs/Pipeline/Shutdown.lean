import LogPipeline.Proofs.Pipeline.Delivery
import LogPipeline.Proofs.Pipeline.Lifecycle
import LogPipeline.Proofs.Pipeline.Transit

/-!
# Shutting a pipeline down

A drive is a run of a pipeline on an input of which nothing is known: it sends what and when it likes, may
fail to start, may say at any time that it has finished, and may then have failed; and at any time somebody may
ask the run to stop. `drive_shuts_down` says how every such run ends.
-/

namespace LogPipeline

/-- Why a run stops reading. -/
inductive Reason where
  /-- The input could not be started. -/
  | unstarted (e : LifecycleError)
  /-- The input has finished, and was waited for. -/
  | waited (read : Except LifecycleError Nat)
  /-- The run was asked to stop, and does not wait for the input. -/
  | interrupted

namespace Reason

/-- What the run knows of the input. -/
def read : Reason → Option (Except LifecycleError Nat)
  | .unstarted e => some (.error e)
  | .waited read => some read
  | .interrupted => none

/-- What went wrong with the input: it could not be started, or it was waited for and had failed. -/
def failure : Reason → Option LifecycleError
  | .unstarted e => some e
  | .waited (.error e) => some e
  | .waited (.ok _) => none
  | .interrupted => none

end Reason

structure Drive where
  run : Run
  /-- The events whose sending was completed, in order. -/
  sent : List Event := []
  /-- Those that had been sent when closing the filters began. -/
  admitted : List Event := []
  /-- The events that the filters took, in order. -/
  taken : List Event := []
  /-- The events that the outputs took, in order. -/
  received : List Event := []
  reason : Option Reason := none
  /-- How closing the filters has ended. -/
  filtersClose : Option (Except LifecycleError Stats) := none
  outputsClose : Option (Except LifecycleError Stats) := none

/-- What can happen in a run. -/
inductive Happening where
  /-- Somebody sends an event. That may be refused, or have to wait. -/
  | send (event : Event)
  | addSender
  | dropSender
  /-- A worker of the filters does its next thing. -/
  | filter (worker : Nat)
  | output (worker : Nat)
  /-- The run stops reading and turns to closing. -/
  | turn (reason : Reason)
  /-- The run notices that all workers of the phase that is closing have gone. -/
  | proceed

/-- What a worker of a controller took, by the controller before and after. -/
def Controller.took (before after : Controller) (index : Nat) : List Event :=
  match before.workers[index]?, after.workers[index]? with
  | some before, some after => before.took after
  | _, _ => []

namespace Drive

/-- The pipeline is started, and the input is given a sender. -/
def begin (pipeline : Pipeline) (input : Input) : Drive :=
  match pipeline.start with
  | (pipeline, .error e) => { run := { pipeline := pipeline, input := input, phase := .over (.error e) } }
  | (pipeline, .ok ()) =>
    { run := {
        pipeline := { pipeline with inbound := pipeline.inbound.addSenders 1 }
        input := input
        phase := .reading } }

def withPipeline (drive : Drive) (pipeline : Pipeline) : Drive :=
  { drive with run := { drive.run with pipeline := pipeline } }

def withInbound (drive : Drive) (inbound : Channel) : Drive :=
  drive.withPipeline { drive.run.pipeline with inbound := inbound }

/-- What cannot be done changes nothing. -/
def step (drive : Drive) : Happening → Drive
  | .send event =>
    match drive.run.pipeline.inbound.send? event with
    | some (.accepted inbound) => { drive.withInbound inbound with sent := drive.sent ++ [event] }
    | _ => drive
  | .addSender => drive.withInbound (drive.run.pipeline.inbound.addSenders 1)
  | .dropSender => drive.withInbound drive.run.pipeline.inbound.dropSender
  | .filter index =>
    match drive.run.pipeline.moveFilter? index with
    | some pipeline =>
      { drive.withPipeline pipeline with
        taken := drive.taken ++ drive.run.pipeline.filters.took pipeline.filters index }
    | none => drive
  | .output index =>
    match drive.run.pipeline.moveOutput? index with
    | some pipeline =>
      { drive.withPipeline pipeline with
        received := drive.received ++ drive.run.pipeline.outputs.took pipeline.outputs index }
    | none => drive
  | .turn reason =>
    if drive.run.isReading then
      { drive with
        run := drive.run.beginClosing reason.read
        admitted := drive.sent
        reason := some reason }
    else drive
  | .proceed =>
    match drive.run.proceed? with
    | some run =>
      let noted : Drive :=
        match drive.run.phase with
        | .closingFilters _ => { drive with filtersClose := some drive.run.pipeline.endCloseFilters.2 }
        | .closingOutputs .. => { drive with outputsClose := some drive.run.pipeline.endCloseOutputs.2 }
        | _ => drive
      { noted with run := run }
    | none => drive

def follow (drive : Drive) (happenings : List Happening) : Drive := happenings.foldl step drive

end Drive

/-! ## How far a controller has come -/

/-- How far a controller of a run has come. -/
inductive Course where
  | running
  | closing
  | closed

namespace Phase

def filters : Phase → Course
  | .reading => .running
  | .closingFilters _ => .closing
  | _ => .closed

def outputs : Phase → Course
  | .closingOutputs .. => .closing
  | .over _ => .closed
  | _ => .running

end Phase

namespace Controller

/-- A controller on its course, with the workers that it has, or had when it was closed. -/
def On (controller : Controller) (workers : List Worker) : Course → Prop
  | .running => controller.state = .running false workers ∧ controller.Unfinished
  | .closing => controller.state = .running true workers ∧ controller.Unfinished
  | .closed => controller.state = .closed ∧ controller.Finished ∧ staying workers = 0 ∧
      controller.stats = merged workers

variable {controller : Controller} {workers left : List Worker} {course : Course} {closing : Bool}
  {worker : Worker} {chain : Chain} {ports : Ports}

/-- A controller stays on its course when a worker has taken a turn. -/
theorem On.turn {turn : Worker.Turn} (h : controller.On workers course)
    (hs : controller.state = .running closing left) (ha : worker.Acts chain closing ports turn)
    (index : Nat) : left = workers ∧ On { controller with
      state := .running closing (left.set index turn.worker)
      calls := turn.calls ++ controller.calls } (workers.set index turn.worker) course := by
  have hcalls (hu : controller.Unfinished) (stage : Nat) :
      .finished stage ∉ turn.calls ++ controller.calls := fun hm => by
    rcases List.mem_append.mp hm with hm | hm
    · exact not_finished_of_acts ha stage hm
    · exact hu stage hm
  cases course with
  | running =>
    obtain ⟨rfl, rfl⟩ := ControllerState.running.inj (hs.symm.trans h.1)
    exact ⟨rfl, rfl, hcalls h.2⟩
  | closing =>
    obtain ⟨rfl, rfl⟩ := ControllerState.running.inj (hs.symm.trans h.1)
    exact ⟨rfl, rfl, hcalls h.2⟩
  | closed =>
    have := hs.symm.trans h.1
    cases this

theorem On.beginClose (h : controller.On workers .running) :
    controller.beginClose = .ok { controller with state := .running true workers } ∧
      On { controller with state := .running true workers } workers .closing := by
  refine ⟨?_, rfl, h.2⟩
  simp [Controller.beginClose, h.1]

theorem On.standing_eq_closed (h : controller.On workers .closed) : controller.standing = .closed := by
  simp only [standing, h.1]

theorem On.endClose (h : controller.On workers .closing) (hd : controller.isDeserted = true) :
    controller.endClose.1.On workers .closed := by
  have hw : controller.workers = workers := by simp [Controller.workers, h.1]
  refine ⟨rfl, h.2.finish, (isDeserted_iff h.1).mp hd, ?_⟩
  simp [Controller.endClose, hw]

end Controller

namespace Pipeline

variable {pipeline next : Pipeline} {index : Nat}

theorem of_moveFilter? (h : pipeline.moveFilter? index = some next) :
    ∃ closing workers worker turn outbound, pipeline.filters.state = .running closing workers ∧
      workers[index]? = some worker ∧
      worker.Acts pipeline.filters.chain closing ⟨pipeline.inbound, .forward pipeline.outbound⟩ turn ∧
      turn.ports.sentinel = .forward outbound ∧
      pipeline.filters.took next.filters index = worker.took turn.worker ∧
      next = { pipeline with
        filters := { pipeline.filters with
          state := .running closing (workers.set index turn.worker)
          calls := turn.calls ++ pipeline.filters.calls }
        inbound := turn.ports.inbound
        outbound := outbound } := by
  obtain ⟨⟨controller, ports⟩, hm, rfl⟩ := Option.map_eq_some_iff.mp h
  obtain ⟨closing, workers, worker, turn, hs, hw, ha, rfl, rfl⟩ := Controller.of_move? hm
  obtain ⟨outbound, ho⟩ := Session.forward_of_acts ha
  refine ⟨closing, workers, worker, turn, outbound, hs, hw, ha, ho, ?_, ?_⟩
  · simp [Controller.took, Controller.workers, hs, hw, List.getElem?_set_self (Session.index_lt hw)]
  · simp only [ho, Sentinel.channel?, Option.getD_some]

theorem of_moveOutput? (h : pipeline.moveOutput? index = some next) :
    ∃ closing workers worker turn, pipeline.outputs.state = .running closing workers ∧
      workers[index]? = some worker ∧
      worker.Acts pipeline.outputs.chain closing ⟨pipeline.outbound, .final⟩ turn ∧
      pipeline.outputs.took next.outputs index = worker.took turn.worker ∧
      next = { pipeline with
        outputs := { pipeline.outputs with
          state := .running closing (workers.set index turn.worker)
          calls := turn.calls ++ pipeline.outputs.calls }
        outbound := turn.ports.inbound } := by
  obtain ⟨⟨controller, ports⟩, hm, rfl⟩ := Option.map_eq_some_iff.mp h
  obtain ⟨closing, workers, worker, turn, hs, hw, ha, rfl, rfl⟩ := Controller.of_move? hm
  refine ⟨closing, workers, worker, turn, hs, hw, ha, ?_, rfl⟩
  simp [Controller.took, Controller.workers, hs, hw, List.getElem?_set_self (Session.index_lt hw)]

end Pipeline

/-! ## What a happening keeps -/

namespace Drive

def transit (drive : Drive) (filters outputs : List Worker) : Transit where
  sent := drive.sent
  inbound := drive.run.pipeline.inbound
  taken := drive.taken
  filters := filters
  outbound := drive.run.pipeline.outbound
  received := drive.received
  outputs := outputs

/-- What has been noted of a run, by its phase. -/
def Recorded (drive : Drive) : Prop :=
  match drive.run.phase with
  | .reading => drive.filtersClose = none ∧ drive.outputsClose = none
  | .closingFilters read =>
    (∃ reason, drive.reason = some reason ∧ reason.read = read) ∧ drive.filtersClose = none ∧
      drive.outputsClose = none
  | .closingOutputs read filters =>
    (∃ reason, drive.reason = some reason ∧ reason.read = read) ∧ drive.filtersClose = some filters ∧
      drive.outputsClose = none
  | .over result => ∃ reason filters outputs, drive.reason = some reason ∧
      drive.filtersClose = some filters ∧ drive.outputsClose = some outputs ∧
        result = Run.result reason.read filters outputs

/-- What holds of a drive of two chains, whatever has happened so far. -/
structure Kept (chain outputChain : Chain) (size outputSize : Nat) (drive : Drive)
    (filters outputs : List Worker) : Prop where
  filtersOn : drive.run.pipeline.filters.On filters drive.run.phase.filters
  outputsOn : drive.run.pipeline.outputs.On outputs drive.run.phase.outputs
  filtersChain : drive.run.pipeline.filters.chain = chain
  outputsChain : drive.run.pipeline.outputs.chain = outputChain
  filtersSize : filters.length = size
  outputsSize : outputs.length = outputSize
  recorded : drive.Recorded
  admitted : drive.admitted <+: drive.sent
  joined : (drive.transit filters outputs).Joined
  whole : chain.Steady → outputChain.Steady → (drive.transit filters outputs).Whole chain
  closes : chain.Steady → outputChain.Steady →
    (∀ result, drive.filtersClose = some result → result = .ok (Controller.merged filters)) ∧
      ∀ result, drive.outputsClose = some result → result = .ok (Controller.merged outputs)

variable {chain outputChain : Chain} {size outputSize : Nat} {drive : Drive}
  {filters outputs : List Worker}

namespace Kept

theorem send (h : drive.Kept chain outputChain size outputSize filters outputs) (event : Event) :
    (drive.step (.send event)).Kept chain outputChain size outputSize filters outputs := by
  simp only [step]
  split
  · rename_i inbound hsend
    obtain ⟨hopen, -, rfl⟩ := Channel.send?_eq_accepted_iff.mp hsend
    -- the channel is open only as long as a worker of the filters is there to take from it
    have hpos : 0 < staying filters := by
      have hreceivers : drive.run.pipeline.inbound.receivers = staying filters := h.joined.inboundReceivers
      simp only [Channel.isClosed, hreceivers, beq_eq_false_iff_ne] at hopen
      omega
    exact { h with
      recorded := h.recorded
      admitted := h.admitted.trans (List.prefix_append _ _)
      joined := { h.joined with }
      whole := fun hc ho => (h.whole hc ho).sends hpos event }
  · exact h

theorem addSender (h : drive.Kept chain outputChain size outputSize filters outputs) :
    (drive.step .addSender).Kept chain outputChain size outputSize filters outputs :=
  { h with
    recorded := h.recorded
    joined := { h.joined with }
    whole := fun hc ho => { h.whole hc ho with } }

theorem dropSender (h : drive.Kept chain outputChain size outputSize filters outputs) :
    (drive.step .dropSender).Kept chain outputChain size outputSize filters outputs :=
  { h with
    recorded := h.recorded
    joined := { h.joined with }
    whole := fun hc ho => { h.whole hc ho with } }

/-- Nothing has been noted of a close that is not over. -/
theorem closes_eq_none (h : drive.Recorded) :
    (drive.run.phase.filters ≠ .closed → drive.filtersClose = none) ∧
      (drive.run.phase.outputs ≠ .closed → drive.outputsClose = none) := by
  unfold Recorded at h
  cases hp : drive.run.phase with
  | reading =>
    simp only [hp] at h
    exact ⟨fun _ => h.1, fun _ => h.2⟩
  | closingFilters read =>
    simp only [hp] at h
    exact ⟨fun _ => h.2.1, fun _ => h.2.2⟩
  | closingOutputs read filters =>
    simp only [hp] at h
    exact ⟨fun hne => absurd rfl hne, fun _ => h.2.2⟩
  | _ => exact ⟨fun hne => absurd rfl hne, fun hne => absurd rfl hne⟩

theorem not_closed {controller : Controller} {workers left : List Worker} {course : Course}
    {closing : Bool} (h : controller.On workers course) (hs : controller.state = .running closing left) :
    course ≠ .closed := by
  rintro rfl
  rw [h.1] at hs
  cases hs

theorem filter (h : drive.Kept chain outputChain size outputSize filters outputs) (index : Nat) :
    ∃ filters', (drive.step (.filter index)).Kept chain outputChain size outputSize filters' outputs := by
  simp only [step]
  split
  · rename_i pipeline hm
    obtain ⟨closing, left, worker, turn, outbound, hs, hw, ha, ho, htook, heq⟩ :=
      Pipeline.of_moveFilter? hm
    rw [htook]
    subst heq
    obtain ⟨rfl, hon⟩ := h.filtersOn.turn hs ha index
    -- a worker moves, so the filters have not been closed, and nothing is noted of it
    have hnone := (closes_eq_none h.recorded).1 (not_closed h.filtersOn hs)
    refine ⟨left.set index turn.worker, { h with
      filtersOn := hon
      filtersSize := by simpa using h.filtersSize
      recorded := h.recorded
      joined := h.joined.filterTurn hw ha ho
      whole := fun hc hco => (h.whole hc hco).filterTurn h.joined hc hw (h.filtersChain ▸ ha) ho
      closes := fun hc hco => ⟨fun _ hr => ?_, (h.closes hc hco).2⟩ }⟩
    cases hnone.symm.trans hr
  · exact ⟨filters, h⟩

/-- The outputs are told to leave when the filters have gone. -/
theorem filtersGone (h : drive.Kept chain outputChain size outputSize filters outputs)
    (hc : drive.run.phase.outputs ≠ .running) : staying filters = 0 := by
  have hon := h.filtersOn
  cases hp : drive.run.phase with
  | reading => simp [hp, Phase.outputs] at hc
  | closingFilters read => simp [hp, Phase.outputs] at hc
  | _ =>
    rw [hp] at hon
    exact hon.2.2.1

theorem output (h : drive.Kept chain outputChain size outputSize filters outputs) (index : Nat) :
    ∃ outputs', (drive.step (.output index)).Kept chain outputChain size outputSize filters outputs' := by
  simp only [step]
  split
  · rename_i pipeline hm
    obtain ⟨closing, left, worker, turn, hs, hw, ha, htook, heq⟩ := Pipeline.of_moveOutput? hm
    rw [htook]
    subst heq
    obtain ⟨rfl, hon⟩ := h.outputsOn.turn hs ha index
    have hnone := (closes_eq_none h.recorded).2 (not_closed h.outputsOn hs)
    -- outputs that are told to leave find nothing more coming
    have hclosing (hc : closing = true) : staying filters = 0 := by
      refine h.filtersGone fun hrunning => ?_
      have hon := h.outputsOn
      rw [hrunning] at hon
      obtain ⟨rfl, -⟩ := ControllerState.running.inj (hon.1.symm.trans hs)
      cases hc
    refine ⟨left.set index turn.worker, { h with
      outputsOn := hon
      outputsSize := by simpa using h.outputsSize
      recorded := h.recorded
      joined := h.joined.outputTurn hw ha
      whole := fun hc hco => (h.whole hc hco).outputTurn h.joined hco hw (h.outputsChain ▸ ha) hclosing
      closes := fun hc hco => ⟨(h.closes hc hco).1, fun _ hr => ?_⟩ }⟩
    cases hnone.symm.trans hr
  · exact ⟨outputs, h⟩

/-- What has been sent when the run turns to closing is admitted. -/
theorem turn (h : drive.Kept chain outputChain size outputSize filters outputs) (reason : Reason) :
    (drive.step (.turn reason)).Kept chain outputChain size outputSize filters outputs := by
  simp only [step]
  split
  · rename_i hreading
    have hp : drive.run.phase = .reading := by
      cases hp : drive.run.phase <;> simp [Run.isReading, hp] at hreading ⊢
    have hon := h.filtersOn
    have honOutputs := h.outputsOn
    have hrecorded := h.recorded
    simp only [hp, Phase.filters, Phase.outputs, Recorded] at hon honOutputs hrecorded
    obtain ⟨hbegin, hclosing⟩ := hon.beginClose
    simp only [Run.beginClosing, Pipeline.beginCloseFilters, hbegin, Except.map]
    exact { h with
      filtersOn := hclosing
      outputsOn := honOutputs
      recorded := ⟨⟨reason, rfl, rfl⟩, hrecorded⟩
      admitted := List.prefix_rfl
      joined := h.joined
      whole := h.whole }
  · exact h

/-- How closing a controller ends whose workers have counted all that they took. -/
theorem endClose_of_tallied {controller : Controller} {workers : List Worker}
    (h : controller.On workers .closing) (ht : Tallied workers) :
    controller.endClose.2 = .ok (Controller.merged workers) := by
  rw [Run.Kept.endClose_of_tallied h.1 ht]

theorem proceed (h : drive.Kept chain outputChain size outputSize filters outputs) :
    (drive.step .proceed).Kept chain outputChain size outputSize filters outputs := by
  simp only [step]
  split
  · rename_i run hproceed
    have hon := h.filtersOn
    have honOutputs := h.outputsOn
    have hrecorded := h.recorded
    cases hp : drive.run.phase with
    | closingFilters read =>
      simp only [hp, Phase.filters, Phase.outputs, Recorded] at hon honOutputs hrecorded
      simp only [Run.proceed?, hp] at hproceed
      split at hproceed
      · rename_i hd
        obtain ⟨hbegin, hclosing⟩ := honOutputs.beginClose
        simp only [Pipeline.endCloseFilters, Pipeline.beginCloseOutputs, hbegin, Except.map,
          Option.some.injEq] at hproceed
        subst hproceed
        exact { h with
          filtersOn := hon.endClose hd
          outputsOn := hclosing
          recorded := ⟨hrecorded.1, rfl, hrecorded.2.2⟩
          joined := h.joined
          whole := h.whole
          closes := fun hc hco => ⟨fun _ hr => by
            obtain rfl := Option.some.inj hr
            exact endClose_of_tallied hon (h.whole hc hco).filtersTallied, (h.closes hc hco).2⟩ }
      · cases hproceed
    | closingOutputs read stats =>
      simp only [hp, Phase.filters, Phase.outputs, Recorded] at hon honOutputs hrecorded
      simp only [Run.proceed?, hp] at hproceed
      split at hproceed
      · rename_i hd
        obtain ⟨⟨reason, hreason, hread⟩, hfilters, -⟩ := hrecorded
        simp only [Pipeline.endCloseOutputs, Option.some.injEq] at hproceed
        subst hproceed
        exact { h with
          filtersOn := hon
          outputsOn := honOutputs.endClose hd
          recorded := ⟨reason, stats, _, hreason, hfilters, rfl, by rw [hread]; rfl⟩
          joined := h.joined
          whole := h.whole
          closes := fun hc hco => ⟨(h.closes hc hco).1, fun _ hr => by
            obtain rfl := Option.some.inj hr
            exact endClose_of_tallied honOutputs (h.whole hc hco).outputsTallied⟩ }
      · cases hproceed
    | _ => simp [Run.proceed?, hp] at hproceed
  · exact h

theorem step (h : drive.Kept chain outputChain size outputSize filters outputs) (happening : Happening) :
    ∃ filters' outputs',
      (drive.step happening).Kept chain outputChain size outputSize filters' outputs' := by
  cases happening with
  | send event => exact ⟨filters, outputs, h.send event⟩
  | addSender => exact ⟨filters, outputs, h.addSender⟩
  | dropSender => exact ⟨filters, outputs, h.dropSender⟩
  | filter index =>
    obtain ⟨filters', h'⟩ := h.filter index
    exact ⟨filters', outputs, h'⟩
  | output index =>
    obtain ⟨outputs', h'⟩ := h.output index
    exact ⟨filters, outputs', h'⟩
  | turn reason => exact ⟨filters, outputs, h.turn reason⟩
  | proceed => exact ⟨filters, outputs, h.proceed⟩

theorem follow (h : drive.Kept chain outputChain size outputSize filters outputs)
    (happenings : List Happening) : ∃ filters' outputs',
      (drive.follow happenings).Kept chain outputChain size outputSize filters' outputs' := by
  induction happenings generalizing drive filters outputs with
  | nil => exact ⟨filters, outputs, h⟩
  | cons happening rest ih =>
    obtain ⟨filters', outputs', h'⟩ := h.step happening
    exact ih h'

end Kept

/-- A pipeline of controllers that nobody has called yet. -/
theorem kept_of_build {name outputName : String} {filterPool outputPool : Controller}
    (capacity : Nat) (input : Input) (hf : Controller.build name chain size = .ok filterPool)
    (ho : Controller.build outputName outputChain outputSize = .ok outputPool) :
    (begin { filters := filterPool, outputs := outputPool, capacity := capacity } input).Kept chain
      outputChain size outputSize (List.replicate size {}) (List.replicate outputSize {}) := by
  obtain ⟨hpos, rfl⟩ := Controller.build_eq_ok_iff.mp hf
  obtain ⟨hposOutputs, rfl⟩ := Controller.build_eq_ok_iff.mp ho
  let inbound : Channel := { capacity := some capacity, senders := 1, receivers := size }
  let outbound : Channel := { capacity := some capacity, senders := size, receivers := outputSize }
  have hbegin : begin {
      filters := ⟨name, chain, size, hpos, .idle, {}, []⟩
      outputs := ⟨outputName, outputChain, outputSize, hposOutputs, .idle, {}, []⟩
      capacity := capacity } input = {
        run := {
          pipeline := {
            filters := ⟨name, chain, size, hpos, .running false (List.replicate size {}), {}, []⟩
            outputs := ⟨outputName, outputChain, outputSize, hposOutputs,
              .running false (List.replicate outputSize {}), {}, []⟩
            capacity := capacity
            inbound := inbound
            outbound := outbound }
          input := input
          phase := .reading } } := by
    simp [begin, Pipeline.start, Controller.start, Sentinel.addSenders, Sentinel.channel?,
      Channel.addSenders, Channel.addReceivers, inbound, outbound]
  rw [hbegin]
  exact {
    filtersOn := ⟨rfl, by simp [Controller.Unfinished]⟩
    outputsOn := ⟨rfl, by simp [Controller.Unfinished]⟩
    filtersChain := rfl
    outputsChain := rfl
    filtersSize := by simp
    outputsSize := by simp
    recorded := ⟨rfl, rfl⟩
    admitted := List.prefix_rfl
    joined := Transit.joined_fresh hpos hposOutputs rfl rfl rfl
    whole := fun _ _ => Transit.whole_fresh chain rfl rfl
    closes := fun _ _ => ⟨by rintro _ ⟨⟩, by rintro _ ⟨⟩⟩ }

/-! ## The end of a run -/

/-- How many turns of a run are ahead. -/
def ahead (drive : Drive) : Nat :=
  match drive.run.phase with
  | .reading => 3
  | .closingFilters _ => 2
  | .closingOutputs .. => 1
  | .over _ => 0

/-- What is still to be done in a run. -/
def load (drive : Drive) : Nat :=
  let pipeline := drive.run.pipeline
  let ports : Ports := ⟨pipeline.inbound, .forward pipeline.outbound⟩
  ports.load pipeline.filters.chain (pipeline.outputs.chain.haul 0) pipeline.filters.workers +
    toils pipeline.outputs.chain 0 pipeline.outputs.workers + pipeline.inbound.senders + drive.ahead

/-- What those who send add to it. -/
def cost (chain outputChain : Chain) : Happening → Nat
  | .send _ => chain.haul (outputChain.haul 0) + 1
  | .addSender => 2
  | _ => 0

/-- What is due again and again while a run is closing. -/
def dues (size outputSize : Nat) : List Happening :=
  .proceed :: ((List.range size).map .filter ++ (List.range outputSize).map .output)

theorem filter_mem_dues {index : Nat} (h : index < size) : .filter index ∈ dues size outputSize := by
  simp [dues, h]

theorem output_mem_dues {index : Nat} (h : index < outputSize) : .output index ∈ dues size outputSize := by
  simp [dues, h]

theorem senders_of_acts {closing : Bool} {ports : Ports} {worker : Worker} {turn : Worker.Turn}
    (h : worker.Acts chain closing ports turn) : turn.ports.inbound.senders = ports.inbound.senders := by
  cases h <;> rfl

theorem load_filter {index : Nat} {pipeline : Pipeline}
    (hm : drive.run.pipeline.moveFilter? index = some pipeline) :
    (drive.step (.filter index)).load < drive.load := by
  simp only [step, hm]
  obtain ⟨closing, left, worker, turn, outbound, hs, hw, ha, ho, -, rfl⟩ := Pipeline.of_moveFilter? hm
  have hwanes := ha.wanes (drive.run.pipeline.outputs.chain.haul 0)
  have hset := toils_set drive.run.pipeline.filters.chain (drive.run.pipeline.outputs.chain.haul 0)
    turn.worker hw
  have hsenders := senders_of_acts ha
  simp only [ho, Sentinel.backlog] at hwanes hsenders
  simp only [load, withPipeline, Ports.load, Sentinel.backlog, Controller.workers, hs, ahead]
  omega

theorem load_output {index : Nat} {pipeline : Pipeline}
    (hm : drive.run.pipeline.moveOutput? index = some pipeline) :
    (drive.step (.output index)).load < drive.load := by
  simp only [step, hm]
  obtain ⟨closing, left, worker, turn, hs, hw, ha, -, rfl⟩ := Pipeline.of_moveOutput? hm
  have hwanes := ha.wanes 0
  have hset := toils_set drive.run.pipeline.outputs.chain 0 turn.worker hw
  simp only [Nat.mul_zero, Nat.add_zero] at hwanes
  simp only [load, withPipeline, Ports.load, Sentinel.backlog, Controller.workers, hs, ahead]
  omega

theorem load_proceed {run : Run} (h : drive.Kept chain outputChain size outputSize filters outputs)
    (hm : drive.run.proceed? = some run) : (drive.step .proceed).load < drive.load := by
  simp only [step, hm]
  cases hp : drive.run.phase with
  | closingFilters read =>
    have hon := h.outputsOn
    simp only [hp, Phase.outputs] at hon
    simp only [Run.proceed?, hp] at hm
    split at hm
    · simp only [Pipeline.endCloseFilters, Pipeline.beginCloseOutputs, hon.beginClose.1, Except.map,
        Option.some.injEq] at hm
      subst hm
      simp only [load, ahead, hp, Ports.load, Controller.workers, hon.1, Controller.endClose, toils]
      omega
    · cases hm
  | closingOutputs read stats =>
    simp only [Run.proceed?, hp] at hm
    split at hm
    · simp only [Pipeline.endCloseOutputs, Option.some.injEq] at hm
      subst hm
      simp only [load, ahead, hp, Ports.load, Controller.workers, Controller.endClose, toils]
      omega
    · cases hm
  | _ => simp [Run.proceed?, hp] at hm

theorem phase_step (hr : drive.run.isReading = false) (happening : Happening) :
    (drive.step happening).run.phase = drive.run.phase ∨
      drive.run.proceed? = some (drive.step happening).run := by
  cases happening with
  | send event =>
    simp only [step]
    split <;> exact .inl rfl
  | addSender => exact .inl rfl
  | dropSender => exact .inl rfl
  | filter index =>
    simp only [step]
    split <;> exact .inl rfl
  | output index =>
    simp only [step]
    split <;> exact .inl rfl
  | turn reason => exact .inl (by simp [step, hr])
  | proceed =>
    simp only [step]
    split
    · rename_i run hm
      exact .inr hm
    · exact .inl rfl

theorem phase_of_proceed? {run next : Run} (h : run.proceed? = some next) :
    run.outcome? = none ∧ next.isReading = false := by
  unfold Run.proceed? at h
  split at h
  · rename_i hp
    split at h
    · refine ⟨by simp [Run.outcome?, hp], ?_⟩
      obtain rfl := Option.some.inj h
      split <;> rfl
    · cases h
  · rename_i hp
    split at h
    · refine ⟨by simp [Run.outcome?, hp], ?_⟩
      obtain rfl := Option.some.inj h
      rfl
    · cases h
  · cases h

/-- A run that does not read any more does not begin to again. -/
theorem isReading_step (hr : drive.run.isReading = false) (happening : Happening) :
    (drive.step happening).run.isReading = false := by
  rcases phase_step hr happening with hphase | hm
  · simpa [Run.isReading, hphase] using hr
  · exact (phase_of_proceed? hm).2

/-- A run that is over stays over. -/
theorem outcome?_step (hd : drive.run.outcome?.isSome = true) (happening : Happening) :
    (drive.step happening).run.outcome?.isSome = true := by
  have hr : drive.run.isReading = false := by
    cases hp : drive.run.phase <;> simp [Run.outcome?, Run.isReading, hp] at hd ⊢
  rcases phase_step hr happening with hphase | hm
  · simpa [Run.outcome?, hphase] using hd
  · rw [(phase_of_proceed? hm).1] at hd
    cases hd

/-- What is still to be done gets less, unless somebody goes on sending. -/
theorem step_eq_or_load_lt (h : drive.Kept chain outputChain size outputSize filters outputs)
    (hr : drive.run.isReading = false) (happening : Happening) :
    drive.step happening = drive ∨
      (drive.step happening).load < drive.load + cost chain outputChain happening := by
  cases happening with
  | send event =>
    simp only [step]
    split
    · rename_i inbound hsend
      obtain ⟨-, -, rfl⟩ := Channel.send?_eq_accepted_iff.mp hsend
      refine .inr ?_
      simp only [load, withInbound, withPipeline, ahead, Ports.load, Channel.push, List.length_append,
        List.length_singleton, Nat.succ_mul, cost, h.filtersChain, h.outputsChain]
      omega
    · exact .inl rfl
  | addSender =>
    refine .inr ?_
    simp only [step, load, withInbound, withPipeline, ahead, Ports.load, Channel.addSenders, cost]
    omega
  | dropSender =>
    cases hs : drive.run.pipeline.inbound.senders with
    | zero =>
      -- nobody is left who could give a sender up
      left
      have hsame : drive.run.pipeline.inbound.dropSender = drive.run.pipeline.inbound := by
        simp only [Channel.dropSender, hs, Nat.zero_sub]
        rw [← hs]
      simp only [step, hsame]
      rfl
    | succ senders =>
      refine .inr ?_
      simp only [step, load, withInbound, withPipeline, ahead, Ports.load, Channel.dropSender, cost, hs]
      omega
  | filter index =>
    cases hm : drive.run.pipeline.moveFilter? index with
    | none => exact .inl (by simp [step, hm])
    | some pipeline => exact .inr (load_filter hm)
  | output index =>
    cases hm : drive.run.pipeline.moveOutput? index with
    | none => exact .inl (by simp [step, hm])
    | some pipeline => exact .inr (load_output hm)
  | turn reason => exact .inl (by simp [step, hr])
  | proceed =>
    cases hm : drive.run.proceed? with
    | none => exact .inl (by simp [step, hm])
    | some run => exact .inr (load_proceed h hm)

theorem due_of_filters (h : drive.Kept chain outputChain size outputSize filters outputs) {index : Nat}
    (hi : index < filters.length)
    (hm : (drive.run.pipeline.filters.move? ⟨drive.run.pipeline.inbound,
      .forward drive.run.pipeline.outbound⟩ index).isSome = true) :
    ∃ happening ∈ dues size outputSize, (drive.step happening).load < drive.load := by
  obtain ⟨pipeline, hm⟩ : ∃ pipeline, drive.run.pipeline.moveFilter? index = some pipeline :=
    Option.isSome_iff_exists.mp (by simpa [Pipeline.moveFilter?] using hm)
  exact ⟨.filter index, filter_mem_dues (h.filtersSize ▸ hi), load_filter hm⟩

theorem due_of_outputs {closing : Bool} (h : drive.Kept chain outputChain size outputSize filters outputs)
    (hs : drive.run.pipeline.outputs.state = .running closing outputs) (hstay : 0 < staying outputs)
    (hp : closing = true ∨ drive.run.pipeline.outbound.waiting ≠ []) :
    ∃ happening ∈ dues size outputSize, (drive.step happening).load < drive.load := by
  rcases Controller.move?_isSome_or ⟨drive.run.pipeline.outbound, .final⟩ hs hstay hp with
    ⟨index, hi, hm⟩ | ⟨channel, hc, -⟩
  · obtain ⟨pipeline, hm⟩ : ∃ pipeline, drive.run.pipeline.moveOutput? index = some pipeline :=
      Option.isSome_iff_exists.mp (by simpa [Pipeline.moveOutput?] using hm)
    exact ⟨.output index, output_mem_dues (h.outputsSize ▸ hi), load_output hm⟩
  · cases hc

/-- As long as a run is closing, a worker can move, or all workers of the phase have gone. -/
theorem due_of_closing (h : drive.Kept chain outputChain size outputSize filters outputs)
    (hr : drive.run.isReading = false) (hd : ¬ drive.run.outcome?.isSome = true) :
    ∃ happening ∈ dues size outputSize, (drive.step happening).load < drive.load := by
  have hon := h.filtersOn
  have honOutputs := h.outputsOn
  have hproceed (hm : drive.run.proceed?.isSome = true) :
      ∃ happening ∈ dues size outputSize, (drive.step happening).load < drive.load := by
    obtain ⟨run, hm⟩ := Option.isSome_iff_exists.mp hm
    exact ⟨.proceed, .head _, load_proceed h hm⟩
  cases hp : drive.run.phase with
  | reading => simp [Run.isReading, hp] at hr
  | closingFilters read =>
    simp only [hp, Phase.filters, Phase.outputs] at hon honOutputs
    cases hgone : drive.run.pipeline.filters.isDeserted with
    | true => exact hproceed (by simp [Run.proceed?, hp, hgone])
    | false =>
      rcases Controller.move?_isSome_or ⟨drive.run.pipeline.inbound, .forward drive.run.pipeline.outbound⟩
        hon.1 (Controller.staying_pos hon.1 hgone) (.inl rfl) with ⟨index, hi, hm⟩ | ⟨channel, hc, hfull⟩
      · exact due_of_filters h hi hm
      -- where a filter has to wait for room in the outbound channel, an output is there to take from it
      · obtain rfl : drive.run.pipeline.outbound = channel := by simpa using hc
        have hreceivers : drive.run.pipeline.outbound.receivers = staying outputs :=
          h.joined.outboundReceivers
        have hopen := hfull.isOpen
        simp only [Channel.isClosed, hreceivers, beq_eq_false_iff_ne] at hopen
        exact due_of_outputs h honOutputs.1 (Nat.pos_of_ne_zero hopen) (.inr hfull.waiting_ne_nil)
  | closingOutputs read stats =>
    simp only [hp, Phase.outputs] at honOutputs
    cases hgone : drive.run.pipeline.outputs.isDeserted with
    | true => exact hproceed (by simp [Run.proceed?, hp, hgone])
    | false => exact due_of_outputs h honOutputs.1 (Controller.staying_pos honOutputs.1 hgone) (.inl rfl)
  | _ => simp [Run.outcome?, hp] at hd

/-- A run of two chains that does not read any more. -/
def Closing (chain outputChain : Chain) (size outputSize : Nat) (drive : Drive) : Prop :=
  drive.run.isReading = false ∧
    ∃ filters outputs, drive.Kept chain outputChain size outputSize filters outputs

theorem waning (chain outputChain : Chain) (size outputSize : Nat) :
    Waning step load (cost chain outputChain) (dues size outputSize) (fun _ => True)
      (Closing chain outputChain size outputSize) (fun drive => drive.run.outcome?.isSome = true) where
  keeps := fun _ ⟨hr, _, _, h⟩ => ⟨isReading_step hr _, h.step _⟩
  wanes := fun _ ⟨hr, _, _, h⟩ _ => step_eq_or_load_lt h hr _
  stays := fun _ hd => outcome?_step hd _
  due := fun ⟨hr, _, _, h⟩ hd => due_of_closing h hr hd

/-! ## How a run ends -/

/-- How a result goes by how closing the filters and the outputs has ended, and by why the run stopped
reading: the filters count before the outputs, and both before the input. -/
structure Settles (reason : Reason) (filters outputs : Except LifecycleError Stats)
    (result : Except LifecycleError PipelineStats) : Prop where
  ok : ∀ stats, result = .ok stats ↔
    reason.failure = none ∧ filters = .ok stats.filters ∧ outputs = .ok stats.outputs
  filtersFail : ∀ e, filters = .error e → result = .error e
  outputsFail : ∀ stats e, filters = .ok stats → outputs = .error e → result = .error e
  inputFails : ∀ stats outputStats e, filters = .ok stats → outputs = .ok outputStats →
    reason.failure = some e → result = .error e

theorem result_eq (reason : Reason) (filters outputs : Except LifecycleError Stats) :
    Run.result reason.read filters outputs =
      match filters, outputs, reason.failure with
      | .error e, _, _ => .error e
      | .ok _, .error e, _ => .error e
      | .ok _, .ok _, some e => .error e
      | .ok stats, .ok outputStats, none => .ok ⟨stats, outputStats⟩ := by
  cases filters with
  | error e => rfl
  | ok stats =>
    cases outputs with
    | error e => rfl
    | ok outputStats =>
      cases reason with
      | unstarted e => rfl
      | waited read => cases read <;> rfl
      | interrupted => rfl

theorem settles_result (reason : Reason) (filters outputs : Except LifecycleError Stats) :
    Settles reason filters outputs (Run.result reason.read filters outputs) := by
  rw [result_eq]
  refine ⟨fun stats => ?_, ?_, ?_, ?_⟩
  · obtain ⟨filterStats, outputStats⟩ := stats
    cases filters <;> cases outputs <;> cases reason.failure <;> simp
  · rintro e rfl
    rfl
  · rintro stats e rfl rfl
    rfl
  · rintro stats outputStats e rfl rfl he
    rw [he]

/-- The outputs are not even told to leave before the filters are closed. -/
def Ordered (drive : Drive) : Prop :=
  (drive.run.pipeline.outputs.standing = .closed ∨
      ∃ workers, drive.run.pipeline.outputs.state = .running true workers) →
    drive.run.pipeline.filters.standing = .closed

/-- A run that is over has closed both controllers, and has finished every stage of both once. -/
structure Ended (drive : Drive) (result : Except LifecycleError PipelineStats) : Prop where
  filtersClosed : drive.run.pipeline.filters.standing = .closed
  outputsClosed : drive.run.pipeline.outputs.standing = .closed
  filtersFinished : drive.run.pipeline.filters.Finished
  outputsFinished : drive.run.pipeline.outputs.Finished
  settles : ∃ reason filters outputs, drive.reason = some reason ∧ drive.filtersClose = some filters ∧
    drive.outputsClose = some outputs ∧ Settles reason filters outputs result

/-- All that had been sent when closing began has been counted by the filters, and what they did not drop of
what they took has been counted by the outputs. -/
structure Flushed (chain : Chain) (drive : Drive) : Prop where
  admitted : drive.admitted <+: drive.taken
  sent : drive.taken <+: drive.sent
  filtersClose : drive.filtersClose = some (.ok drive.run.pipeline.filters.stats)
  outputsClose : drive.outputsClose = some (.ok drive.run.pipeline.outputs.stats)
  taken : drive.run.pipeline.filters.stats.received = drive.taken.length
  balanced : drive.run.pipeline.filters.stats.received =
    drive.run.pipeline.filters.stats.delivered + drive.run.pipeline.filters.stats.dropped
  passed : drive.run.pipeline.filters.stats.delivered = drive.run.pipeline.outputs.stats.received
  received : drive.run.pipeline.outputs.stats.received = drive.received.length
  images : drive.received.Perm (drive.taken.flatMap chain.image)

namespace Kept

theorem ordered (h : drive.Kept chain outputChain size outputSize filters outputs) : drive.Ordered := by
  intro ho
  have hon := h.filtersOn
  have honOutputs := h.outputsOn
  cases hp : drive.run.phase with
  | reading | closingFilters read =>
    -- the outputs run and have not been told
    rw [hp] at honOutputs
    rcases ho with ho | ⟨workers, ho⟩
    · simp [Controller.standing, show _ = ControllerState.running false outputs from honOutputs.1] at ho
    · cases ho.symm.trans honOutputs.1
  | _ =>
    rw [hp] at hon
    exact hon.standing_eq_closed

theorem ended (h : drive.Kept chain outputChain size outputSize filters outputs)
    {result : Except LifecycleError PipelineStats} (hp : drive.run.phase = .over result) :
    drive.Ended result := by
  have hon := h.filtersOn
  have honOutputs := h.outputsOn
  have hrecorded := h.recorded
  simp only [hp, Phase.filters, Phase.outputs, Recorded] at hon honOutputs hrecorded
  obtain ⟨reason, stats, outputStats, hreason, hf, ho, rfl⟩ := hrecorded
  exact {
    filtersClosed := hon.standing_eq_closed
    outputsClosed := honOutputs.standing_eq_closed
    filtersFinished := hon.2.1
    outputsFinished := honOutputs.2.1
    settles := ⟨reason, stats, outputStats, hreason, hf, ho, settles_result reason stats outputStats⟩ }

theorem flushed (h : drive.Kept chain outputChain size outputSize filters outputs)
    {result : Except LifecycleError PipelineStats} (hp : drive.run.phase = .over result)
    (hc : chain.Steady) (hco : outputChain.Steady) : drive.Flushed chain := by
  have hon := h.filtersOn
  have honOutputs := h.outputsOn
  have hrecorded := h.recorded
  simp only [hp, Phase.filters, Phase.outputs, Recorded] at hon honOutputs hrecorded
  obtain ⟨reason, stats, outputStats, -, hf, ho, -⟩ := hrecorded
  obtain ⟨-, -, -, hstats⟩ := hon
  obtain ⟨-, -, hgone, houtputStats⟩ := honOutputs
  have hwhole := h.whole hc hco
  obtain ⟨hsent, himages, hbalanced, hpassed⟩ := hwhole.landed h.joined hgone
  have hsent : drive.sent = drive.taken := hsent
  obtain ⟨hfclose, hoclose⟩ := h.closes hc hco
  exact {
    admitted := hsent ▸ h.admitted
    sent := hsent ▸ List.prefix_rfl
    filtersClose := by rw [hf, hfclose stats hf, hstats]
    outputsClose := by rw [ho, hoclose outputStats ho, houtputStats]
    taken := hstats ▸ hwhole.taken
    balanced := hstats ▸ hbalanced
    passed := hstats ▸ houtputStats ▸ hpassed
    received := houtputStats ▸ hwhole.received
    images := himages }

theorem turned (h : drive.Kept chain outputChain size outputSize filters outputs)
    (hr : drive.run.isReading = true) (reason : Reason) :
    (drive.step (.turn reason)).run.isReading = false := by
  have hon := h.filtersOn
  have hp : drive.run.phase = .reading := by
    cases hp : drive.run.phase <;> simp [Run.isReading, hp] at hr ⊢
  rw [hp] at hon
  simp only [Drive.step, hr, ↓reduceIte, Run.beginClosing, Pipeline.beginCloseFilters, hon.beginClose.1,
    Except.map]
  rfl

end Kept

/-- Whatever the input does, and whenever the run is asked to stop, it ends with both controllers closed, first
the filters and then the outputs, and with every stage finished once. As long as it reads it can be made to stop.
From then on it comes to its end if everything that is due gets its turn often enough: each such round brings the
end nearer, and each event that is sent in the meantime puts it off, so that finitely many sends are outlasted by
enough rounds. If no stage breaks down, nothing that had been sent when closing began gets lost. -/
theorem drive_shuts_down {name outputName : String} {filterPool outputPool : Controller}
    (hf : Controller.build name chain size = .ok filterPool)
    (ho : Controller.build outputName outputChain outputSize = .ok outputPool) (capacity : Nat)
    (input : Input) (happenings : List Happening) :
    let pipeline : Pipeline := { filters := filterPool, outputs := outputPool, capacity := capacity }
    let drive := (begin pipeline input).follow happenings
    drive.Ordered ∧
    (drive.run.isReading = true → ∀ reason,
      let turned := drive.step (.turn reason)
      turned.run.isReading = false ∧ turned.reason = some reason ∧ turned.admitted = drive.sent) ∧
    (drive.run.isReading = false → ∀ rounds : List (List Happening),
      (∀ round ∈ rounds, ∀ happening ∈ dues size outputSize, happening ∈ round) →
      drive.load + Waning.total (cost chain outputChain) rounds.flatten ≤ rounds.length →
      (drive.follow rounds.flatten).run.outcome?.isSome = true) ∧
    ∀ result, drive.run.outcome? = some result →
      drive.Ended result ∧ (chain.Steady → outputChain.Steady → drive.Flushed chain) := by
  intro pipeline drive
  obtain ⟨filters, outputs, h⟩ := (kept_of_build capacity input hf ho).follow happenings
  have h : drive.Kept chain outputChain size outputSize filters outputs := h
  refine ⟨h.ordered, fun hr reason => ⟨h.turned hr reason, ?_, ?_⟩, fun hr rounds hd hl => ?_, ?_⟩
  · simp only [step, hr, ↓reduceIte]
  · simp only [step, hr, ↓reduceIte]
  · exact (waning chain outputChain size outputSize).done_of_rounds (fun _ _ _ _ => trivial) hd
      ⟨hr, filters, outputs, h⟩ hl
  · intro result hover
    have hp : drive.run.phase = .over result := by
      cases hp : drive.run.phase <;> simp [Run.outcome?, hp] at hover ⊢
      exact hover
    exact ⟨h.ended hp, h.flushed hp⟩

/-- A run that is asked to stop while one event is with a worker and one waits: the first is delivered, the
second dropped. -/
theorem drive_shuts_down_of_interrupted :
    let untagged : Stage :=
      { name := "untagged"
        process := fun event => if event.tags = [] then Flow.drop.effect else (Flow.continue event).effect }
    let happenings : List Happening :=
      [.send { tags := ["a"] }, .filter 1, .send {}, .turn .interrupted, .send { tags := ["b"] }]
    let rounds : List (List Happening) := List.replicate 22 (dues 2 1)
    ∃ filterPool outputPool, Controller.build "filters" ⟨[untagged]⟩ 2 = .ok filterPool ∧
      Controller.build "outputs" (Writer.chain "memory") 1 = .ok outputPool ∧
      let pipeline : Pipeline := { filters := filterPool, outputs := outputPool, capacity := 1 }
      let drive := (begin pipeline (Input.ofBytes "lines" [])).follow (happenings ++ rounds.flatten)
      drive.admitted.length = 2 ∧ drive.run.pipeline.filters.stats = ⟨2, 1, 1, 0⟩ ∧
      ∃ result, drive.run.outcome? = some result ∧ drive.Ended result ∧ drive.Flushed ⟨[untagged]⟩ := by
  intro untagged happenings rounds
  let filterPool : Controller := ⟨"filters", ⟨[untagged]⟩, 2, by decide, .idle, {}, []⟩
  let outputPool : Controller := ⟨"outputs", Writer.chain "memory", 1, by decide, .idle, {}, []⟩
  have hf : Controller.build "filters" ⟨[untagged]⟩ 2 = .ok filterPool := rfl
  have ho : Controller.build "outputs" (Writer.chain "memory") 1 = .ok outputPool := rfl
  let input := Input.ofBytes "lines" []
  have hc : Chain.Steady ⟨[untagged]⟩ := by
    intro stage hm event
    obtain rfl : stage = untagged := by simpa using hm
    simp only [untagged]
    split <;> simp [Flow.effect]
  have hco : (Writer.chain "memory").Steady := by
    intro stage hm event
    obtain rfl : stage = Writer.stage "memory" {} false := by simpa [Writer.chain] using hm
    simp [Writer.stage, Writer.process]
  have hover := (drive_shuts_down hf ho 1 input happenings).2.2.1 (by decide +kernel) rounds
    (fun round hm happening hd => List.eq_of_mem_replicate hm ▸ hd) (by decide +kernel)
  obtain ⟨result, hr⟩ := Option.isSome_iff_exists.mp hover
  have happend : (begin { filters := filterPool, outputs := outputPool, capacity := 1 } input).follow
      (happenings ++ rounds.flatten) = ((begin { filters := filterPool, outputs := outputPool, capacity := 1 }
        input).follow happenings).follow rounds.flatten := List.foldl_append
  rw [← happend] at hr
  obtain ⟨hended, hflushed⟩ :=
    (drive_shuts_down hf ho 1 input (happenings ++ rounds.flatten)).2.2.2 result hr
  exact ⟨filterPool, outputPool, hf, ho, by decide +kernel, by decide +kernel, result, hr, hended,
    hflushed hc hco⟩

/-- A worker that broke down counts before an input that failed. -/
example :
    let fragile : Stage := { name := "fragile", process := fun _ => .panic }
    let filterPool : Controller := ⟨"filters", ⟨[fragile]⟩, 1, by decide, .idle, {}, []⟩
    let outputPool : Controller := ⟨"outputs", Chain.empty, 1, by decide, .idle, {}, []⟩
    let pipeline : Pipeline := { filters := filterPool, outputs := outputPool, capacity := 1 }
    let happenings : List Happening := [.send {}, .filter 0, .filter 0,
      .turn (.waited (.error (.input "lines" "fault"))), .proceed, .output 0, .proceed]
    ((begin pipeline (Input.ofBytes "lines" [])).follow happenings).run.outcome? =
      some (.error (.workerPanicked "filters")) := by
  decide +kernel

end Drive

end LogPipeline
