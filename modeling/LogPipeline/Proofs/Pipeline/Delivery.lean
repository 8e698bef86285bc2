import LogPipeline.Filter.Basic
import LogPipeline.Pipeline.Run
import LogPipeline.Proofs.Pipeline.Flight

/-!
# Delivery

A run over lines that ends by itself has written the text of every line that the filters let through, and
nothing else, however the reader and the workers took turns. Nothing is said here about whether a run ends, or
about one that was asked to stop.
-/

namespace LogPipeline

/-! ## The stages -/

theorem Flow.effect_ne_panic (flow : Flow) : flow.effect ≠ .panic := by simp [effect]

/-- Filters do not break down. -/
theorem Filter.chain_steady (filters : List Filter) (currentYear : Int) :
    (Filter.chain filters currentYear).Steady := by
  intro stage hm event
  obtain ⟨filter, -, rfl⟩ := List.mem_map.mp hm
  exact (filter.process currentYear event).effect_ne_panic

theorem Writer.lineText_ne_empty (event : Event) : Writer.lineText false event ≠ "" := by
  intro h
  simpa [lineText] using congrArg String.length h

theorem Controller.writtenBy_append (controller : Controller) (calls : List Call) (position : Nat) :
    writtenBy { controller with calls := calls ++ controller.calls } position =
      controller.writtenBy position ++ writtenBy { controller with calls := calls } position := by
  simp [writtenBy]

/-! ## The reader -/

namespace Input

/-- The events that have not been sent. -/
def unsent (input : Input) : List Event :=
  match input.reader with
  | .holding event | .sending event => event :: input.pending
  | _ => input.pending

def isSending (input : Input) : Bool :=
  match input.reader with
  | .reading | .holding _ | .sending _ => true
  | _ => false

/-- How reading ends, by what comes after the last event. -/
def Ends (failure : Option String) (result : Except String Nat) : Prop :=
  match failure with
  | none => ∃ count, result = .ok count
  | some message => result = .error message

/-- An input that nobody has told to stop, of bytes that end or cannot be read any further. -/
structure Intact (name : String) (failure : Option String) (input : Input) : Prop where
  named : input.name = name
  ending : input.ending = failure.elim .ends .fails
  going : input.stopping = false

/-- A reader that was started and has not been waited for. -/
def Reads (failure : Option String) (input : Input) : Prop :=
  match input.reader with
  | .reading | .holding _ | .sending _ => True
  | .finished result => Ends failure result
  | _ => False

variable {name : String} {failure : Option String} {input next : Input} {channel channel' : Channel}

/-- A reader goes on with what it has, sends an event, or finishes when there is nothing left to send. -/
theorem of_step (h : input.step channel = some (next, channel')) (hi : input.Intact name failure)
    (hc : input.isSending = true → channel.isClosed = false) :
    next.Intact name failure ∧ next.Reads failure ∧ input.isSending = true ∧
      ((next.unsent = input.unsent ∧ next.isSending = true ∧ channel' = channel) ∨
        (∃ event, input.unsent = event :: next.unsent ∧ next.isSending = true ∧
          channel' = channel.push event) ∨
        (input.unsent = [] ∧ next.unsent = [] ∧ next.isSending = false ∧
          channel' = channel.dropSender)) := by
  obtain ⟨hn, he, hs⟩ := hi
  obtain ⟨_, pending, ending, reader, stopping, sent, reported⟩ := input
  cases reader with
  | reading =>
    cases pending with
    | cons event rest =>
      cases h
      exact ⟨⟨hn, he, hs⟩, trivial, rfl, .inl ⟨rfl, rfl, rfl⟩⟩
    | nil =>
      cases failure with
      | none =>
        cases he
        cases h
        exact ⟨⟨hn, rfl, hs⟩, ⟨_, rfl⟩, rfl, .inr (.inr ⟨rfl, rfl, rfl, rfl⟩)⟩
      | some message =>
        cases he
        cases h
        exact ⟨⟨hn, rfl, hs⟩, rfl, rfl, .inr (.inr ⟨rfl, rfl, rfl, rfl⟩)⟩
  | holding event =>
    cases hs
    cases h
    exact ⟨⟨hn, he, rfl⟩, trivial, rfl, .inl ⟨rfl, rfl, rfl⟩⟩
  | sending event =>
    obtain ⟨outcome, hsend, heq⟩ := Option.map_eq_some_iff.mp h
    cases outcome with
    | accepted accepting =>
      obtain ⟨-, -, rfl⟩ := Channel.send?_eq_accepted_iff.mp hsend
      cases heq
      exact ⟨⟨hn, he, hs⟩, trivial, rfl, .inr (.inl ⟨event, rfl, rfl, rfl⟩)⟩
    | refused =>
      -- a channel that has receivers refuses nothing
      have hopen := hc rfl
      rw [Channel.send?_eq_refused_iff.mp hsend] at hopen
      cases hopen
  | fresh => cases h
  | finished => cases h
  | joined => cases h

end Input

/-! ## Runs -/

namespace Run

/-- What is in flight in a run, given the workers of both phases. -/
def flight (run : Run) (filters outputs : List Worker) : Flight where
  unsent := run.input.unsent
  sending := run.input.isSending
  inbound := run.pipeline.inbound
  filters := filters
  outbound := run.pipeline.outbound
  outputs := outputs
  written := run.pipeline.outputs.writtenBy 0

/-- What waiting for the reader has given. -/
def Reported (name : String) (failure : Option String) (read : Option (Except LifecycleError Nat)) : Prop :=
  match failure with
  | none => ∃ count, read = some (.ok count)
  | some message => read = some (.error (.input name message))

/-- How far a run and its controllers have come, given the workers of both phases. Those of a controller that
was closed are the ones that it had. -/
def Stands (name : String) (failure : Option String) (run : Run) (filters outputs : List Worker) : Prop :=
  match run.phase with
  | .reading =>
    run.input.Reads failure ∧ run.pipeline.filters.state = .running false filters ∧
      run.pipeline.outputs.state = .running false outputs
  | .closingFilters read =>
    run.input.reader = .joined ∧ run.pipeline.filters.state = .running true filters ∧
      run.pipeline.outputs.state = .running false outputs ∧ Reported name failure read
  | .closingOutputs read stats =>
    run.input.reader = .joined ∧ run.pipeline.filters.state = .closed ∧ staying filters = 0 ∧
      run.pipeline.outputs.state = .running true outputs ∧ Reported name failure read ∧
      stats = .ok (Controller.merged filters)
  | .over result =>
    run.input.reader = .joined ∧ run.pipeline.filters.state = .closed ∧
      run.pipeline.outputs.state = .closed ∧ staying outputs = 0 ∧
      ∃ read, Reported name failure read ∧ result =
        Run.result read (.ok (Controller.merged filters)) (.ok (Controller.merged outputs))

/-- What holds of a run that was not asked to stop, over an input of some events. -/
structure Kept (ordered : Prop) (chain : Chain) (writer name : String) (failure : Option String)
    (events : List Event) (run : Run) (filters outputs : List Worker) : Prop where
  filtersChain : run.pipeline.filters.chain = chain
  outputsChain : run.pipeline.outputs.chain = Writer.chain writer
  intact : run.input.Intact name failure
  unasked : run.requested = false
  stands : run.Stands name failure filters outputs
  sound : (run.flight filters outputs).Sound ordered chain events

variable {ordered : Prop} {chain : Chain} {writer name : String} {failure : Option String}
  {events : List Event} {run next : Run} {filters outputs : List Worker}

namespace Kept

theorem isSending_of_joined (h : run.input.reader = .joined) : run.input.isSending = false := by
  simp [Input.isSending, h]

theorem step_of_joined {input : Input} (h : input.reader = .joined) (channel : Channel) :
    input.step channel = none := by
  simp [Input.step, h]

theorem read (h : run.Kept ordered chain writer name failure events filters outputs)
    (hm : run.move? .read = some next) :
    next.Kept ordered chain writer name failure events filters outputs := by
  obtain ⟨⟨input, inbound⟩, hstep, rfl⟩ := Option.map_eq_some_iff.mp hm
  obtain ⟨hintact, hreads, hsending, hcases⟩ :=
    Input.of_step hstep h.intact fun hs => h.sound.inbound_isClosed hs
  -- in any other phase the reader has been waited for, and takes no step
  have hphase : run.phase = .reading := by
    have hst := h.stands
    unfold Stands at hst
    split at hst
    · assumption
    all_goals
      rw [step_of_joined hst.1] at hstep
      cases hstep
  have hst := h.stands
  simp only [Stands, hphase] at hst
  refine { h with
    intact := hintact
    stands := by simpa only [Stands, hphase] using ⟨hreads, hst.2⟩
    sound := ?_ }
  rcases hcases with ⟨hu, hs, rfl⟩ | ⟨event, hu, hs, rfl⟩ | ⟨hu, hu', hs, rfl⟩
  · simpa only [flight, hu, hs, hsending] using h.sound
  · simpa only [flight, hs, hsending] using h.sound.sends hsending hu
  · simpa only [flight, hs, hu, hu'] using h.sound.stops hsending hu

/-- Waiting for a reader that has finished. -/
theorem waited {input : Input} {result : Except String Nat} (hi : input.Intact name failure)
    (h : input.Reads failure) (hr : input.reader = .finished result) :
    ∃ joined read, input.wait = (joined, read) ∧ joined.Intact name failure ∧ joined.reader = .joined ∧
      joined.pending = input.pending ∧ Reported name failure (some read) := by
  obtain ⟨rfl, he, hs⟩ := hi
  obtain ⟨_, pending, ending, reader, stopping, sent, reported⟩ := input
  cases hr
  cases failure with
  | none =>
    obtain ⟨count, rfl⟩ := h
    exact ⟨_, _, rfl, ⟨rfl, he, hs⟩, rfl, rfl, count, rfl⟩
  | some message =>
    obtain rfl : result = .error message := h
    exact ⟨_, _, rfl, ⟨rfl, he, hs⟩, rfl, rfl, rfl⟩

/-- The filters run in the first two phases. -/
theorem filtersRun {closing : Bool} {workers : List Worker} (h : run.Stands name failure filters outputs)
    (hs : run.pipeline.filters.state = .running closing workers) :
    workers = filters ∧ (closing = true → run.input.isSending = false) ∧
      ∀ (pipeline : Pipeline) (filters' : List Worker),
        pipeline.filters.state = .running closing filters' → pipeline.outputs = run.pipeline.outputs →
          Stands name failure { run with pipeline := pipeline } filters' outputs := by
  unfold Stands at h
  split at h
  · rename_i hphase
    obtain ⟨hreads, hfilters, houtputs⟩ := h
    obtain ⟨rfl, rfl⟩ : closing = false ∧ workers = filters := by simpa [hs] using hfilters
    refine ⟨rfl, nofun, fun pipeline filters' hf ho => ?_⟩
    simp only [Stands, hphase, ho]
    exact ⟨hreads, hf, houtputs⟩
  · rename_i hphase
    obtain ⟨hjoined, hfilters, houtputs, hread⟩ := h
    obtain ⟨rfl, rfl⟩ : closing = true ∧ workers = filters := by simpa [hs] using hfilters
    refine ⟨rfl, fun _ => isSending_of_joined hjoined, fun pipeline filters' hf ho => ?_⟩
    simp only [Stands, hphase, ho]
    exact ⟨hjoined, hf, houtputs, hread⟩
  · rw [h.2.1] at hs
    cases hs
  · rw [h.2.1] at hs
    cases hs

/-- The outputs run in the first three phases, and are told to leave when the filters have gone. -/
theorem outputsRun {closing : Bool} {workers : List Worker} (h : run.Stands name failure filters outputs)
    (hs : run.pipeline.outputs.state = .running closing workers) :
    workers = outputs ∧ (closing = true → staying filters = 0) ∧
      ∀ (pipeline : Pipeline) (outputs' : List Worker),
        pipeline.outputs.state = .running closing outputs' → pipeline.filters = run.pipeline.filters →
          Stands name failure { run with pipeline := pipeline } filters outputs' := by
  unfold Stands at h
  split at h
  · rename_i hphase
    obtain ⟨hreads, hfilters, houtputs⟩ := h
    obtain ⟨rfl, rfl⟩ : closing = false ∧ workers = outputs := by simpa [hs] using houtputs
    refine ⟨rfl, nofun, fun pipeline outputs' ho hf => ?_⟩
    simp only [Stands, hphase, hf]
    exact ⟨hreads, hfilters, ho⟩
  · rename_i hphase
    obtain ⟨hjoined, hfilters, houtputs, hread⟩ := h
    obtain ⟨rfl, rfl⟩ : closing = false ∧ workers = outputs := by simpa [hs] using houtputs
    refine ⟨rfl, nofun, fun pipeline outputs' ho hf => ?_⟩
    simp only [Stands, hphase, hf]
    exact ⟨hjoined, hfilters, ho, hread⟩
  · rename_i hphase
    obtain ⟨hjoined, hfilters, hgone, houtputs, hread⟩ := h
    obtain ⟨rfl, rfl⟩ : closing = true ∧ workers = outputs := by simpa [hs] using houtputs
    refine ⟨rfl, fun _ => hgone, fun pipeline outputs' ho hf => ?_⟩
    simp only [Stands, hphase, hf]
    exact ⟨hjoined, hfilters, hgone, ho, hread⟩
  · rw [h.2.2.1] at hs
    cases hs

theorem filter {index : Nat} (h : run.Kept ordered chain writer name failure events filters outputs)
    (hc : chain.Steady) (hm : run.move? (.filter index) = some next) :
    ∃ filters', next.Kept ordered chain writer name failure events filters' outputs := by
  obtain ⟨pipeline, hp, rfl⟩ := Option.map_eq_some_iff.mp hm
  obtain ⟨⟨controller, ports⟩, hmove, rfl⟩ := Option.map_eq_some_iff.mp hp
  obtain ⟨closing, workers, worker, turn, hs, hw, ha, rfl, rfl⟩ := Controller.of_move? hmove
  obtain ⟨rfl, hclosing, hstands⟩ := filtersRun h.stands hs
  obtain ⟨outbound, ho, hsound⟩ := h.sound.filterTurn hc hw (h.filtersChain ▸ ha) hclosing
  refine ⟨workers.set index turn.worker, { h with stands := hstands _ _ rfl rfl, sound := ?_ }⟩
  simpa only [flight, ho, Sentinel.channel?, Option.getD_some] using hsound

theorem output {index : Nat} (h : run.Kept ordered chain writer name failure events filters outputs)
    (hm : run.move? (.output index) = some next) :
    ∃ outputs', next.Kept ordered chain writer name failure events filters outputs' := by
  obtain ⟨pipeline, hp, rfl⟩ := Option.map_eq_some_iff.mp hm
  obtain ⟨⟨controller, ports⟩, hmove, rfl⟩ := Option.map_eq_some_iff.mp hp
  obtain ⟨closing, workers, worker, turn, hs, hw, ha, rfl, rfl⟩ := Controller.of_move? hmove
  obtain ⟨rfl, hclosing, hstands⟩ := outputsRun h.stands hs
  obtain ⟨written, hcalls, hsound⟩ := h.sound.outputTurn hw (h.outputsChain ▸ ha) hclosing
  refine ⟨workers.set index turn.worker, { h with stands := hstands _ _ rfl rfl, sound := ?_ }⟩
  have hwritten : Controller.writtenBy { run.pipeline.outputs with
      state := .running closing (workers.set index turn.worker)
      calls := turn.calls ++ run.pipeline.outputs.calls } 0 =
        run.pipeline.outputs.writtenBy 0 ++ written := by
    refine (Controller.writtenBy_append _ turn.calls 0).trans (congrArg _ ?_)
    rcases hcalls with ⟨hcalls, rfl⟩ | ⟨event, hcalls, rfl⟩
    · simp [Controller.writtenBy, hcalls]
    · simp [Controller.writtenBy, hcalls, Writer.lineText_ne_empty]
  simpa only [flight, hwritten] using hsound

/-- The run turns to closing the filters when the reader has finished. -/
theorem finish (h : run.Kept ordered chain writer name failure events filters outputs)
    (hm : run.move? .finish = some next) :
    next.Kept ordered chain writer name failure events filters outputs := by
  simp only [move?] at hm
  split at hm
  · rename_i hnow
    simp only [Bool.and_eq_true] at hnow
    have hphase : run.phase = .reading := by
      cases hp : run.phase <;> simp [isReading, hp] at hnow ⊢
    have hst := h.stands
    simp only [Stands, hphase] at hst
    obtain ⟨hreads, hfilters, houtputs⟩ := hst
    obtain ⟨result, hr⟩ : ∃ result, run.input.reader = .finished result := by
      cases hr : run.input.reader <;> simp_all [Input.isFinished, Input.Reads]
    obtain ⟨input, read, hwait, hintact, hjoined, hpending, hread⟩ := waited h.intact hreads hr
    have hbegin : run.pipeline.filters.beginClose =
        .ok { run.pipeline.filters with state := .running true filters } := by
      simp [Controller.beginClose, hfilters]
    simp only [hwait, Option.some.injEq] at hm
    simp only [beginClosing, Pipeline.beginCloseFilters, hbegin, Except.map] at hm
    subst hm
    refine { h with
      intact := hintact
      stands := ⟨hjoined, rfl, houtputs, hread⟩
      sound := ?_ }
    have hsound := h.sound
    -- waiting for the reader changes nothing that is in flight
    have hunsent : input.unsent = run.input.unsent := by
      simp [Input.unsent, hjoined, hr, hpending]
    have hsending : input.isSending = run.input.isSending := by
      simp [Input.isSending, hjoined, hr]
    simpa only [flight, hunsent, hsending] using hsound
  · cases hm

/-- How closing a controller ends whose workers have gone and have counted nothing as undeliverable. -/
theorem endClose_of_tallied {controller : Controller} {workers : List Worker}
    (hs : controller.state = .running true workers) (ht : Tallied workers) :
    controller.endClose = ({ controller with
      state := .closed
      stats := Controller.merged workers
      calls := Controller.finishCalls controller.chain ++ controller.calls },
      .ok (Controller.merged workers)) := by
  have hw : controller.workers = workers := by simp [Controller.workers, hs]
  have hany : workers.any Worker.hasPanicked = false := by simpa using ht.unbroken
  simp [Controller.endClose, Controller.verdict, hw, hany, ht.forwarded]

theorem writtenBy_finishCalls (controller : Controller) (chain : Chain) (position : Nat) :
    Controller.writtenBy { controller with calls := Controller.finishCalls chain } position = [] := by
  simp [Controller.writtenBy, Controller.finishCalls, chain.finish_eq, List.filterMap_map]

/-- The run turns to closing the outputs when the filters have gone, and is over when the outputs have. -/
theorem proceed (h : run.Kept ordered chain writer name failure events filters outputs)
    (hm : run.move? .proceed = some next) :
    next.Kept ordered chain writer name failure events filters outputs := by
  have hst := h.stands
  simp only [move?, proceed?] at hm
  split at hm
  · rename_i read hphase
    simp only [Stands, hphase] at hst
    obtain ⟨hjoined, hfilters, houtputs, hread⟩ := hst
    split at hm
    · rename_i hd
      have hgone := (Controller.isDeserted_iff hfilters).mp hd
      simp only [Pipeline.endCloseFilters, endClose_of_tallied hfilters h.sound.filtersTallied,
        Pipeline.beginCloseOutputs, Controller.beginClose, houtputs, Except.map, Option.some.injEq] at hm
      subst hm
      exact { h with
        stands := ⟨hjoined, rfl, hgone, rfl, hread, rfl⟩
        sound := h.sound }
    · cases hm
  · rename_i read stats hphase
    simp only [Stands, hphase] at hst
    obtain ⟨hjoined, hfilters, hgone, houtputs, hread, rfl⟩ := hst
    split at hm
    · rename_i hd
      simp only [Pipeline.endCloseOutputs, endClose_of_tallied houtputs h.sound.outputsTallied,
        Option.some.injEq] at hm
      subst hm
      refine { h with
        stands := ⟨hjoined, hfilters, rfl, (Controller.isDeserted_iff houtputs).mp hd, read, hread, rfl⟩
        sound := ?_ }
      -- finishing the stages calls them once more, which writes nothing
      have hwritten := Controller.writtenBy_append run.pipeline.outputs
        (Controller.finishCalls run.pipeline.outputs.chain) 0
      rw [writtenBy_finishCalls, List.append_nil] at hwritten
      have hsound := h.sound
      simp only [flight, ← hwritten] at hsound
      exact hsound
    · cases hm
  · cases hm

/-- Nobody asks a run to stop, and so it goes on. -/
theorem move (h : run.Kept ordered chain writer name failure events filters outputs) (hc : chain.Steady)
    {move : Move} (hm : move ≠ .request) :
    ∃ filters' outputs', (run.move move).Kept ordered chain writer name failure events filters' outputs' := by
  unfold Run.move
  cases hnext : run.move? move with
  | none => exact ⟨filters, outputs, h⟩
  | some next =>
    cases move with
    | read => exact ⟨filters, outputs, h.read hnext⟩
    | filter index =>
      obtain ⟨filters', h'⟩ := h.filter hc hnext
      exact ⟨filters', outputs, h'⟩
    | output index =>
      obtain ⟨outputs', h'⟩ := h.output hnext
      exact ⟨filters, outputs', h'⟩
    | request => exact absurd rfl hm
    | interrupt => simp [move?, h.unasked] at hnext
    | finish => exact ⟨filters, outputs, h.finish hnext⟩
    | proceed => exact ⟨filters, outputs, h.proceed hnext⟩

theorem follow (h : run.Kept ordered chain writer name failure events filters outputs) (hc : chain.Steady)
    {schedule : List Move} (hs : .request ∉ schedule) :
    ∃ filters' outputs',
      (run.follow schedule).Kept ordered chain writer name failure events filters' outputs' := by
  induction schedule generalizing run filters outputs with
  | nil => exact ⟨filters, outputs, h⟩
  | cons first rest ih =>
    simp only [List.mem_cons, not_or] at hs
    obtain ⟨filters', outputs', h'⟩ := h.move hc (Ne.symm hs.1)
    exact ih h' hs.2

end Kept

theorem flatMap_load_replicate (texts : Event → Nat → List String) (size : Nat) :
    (List.replicate size ({} : Worker)).flatMap (Worker.load texts) = [] := by
  refine List.flatMap_eq_nil_iff.mpr fun worker hm => ?_
  rw [List.eq_of_mem_replicate hm]
  rfl

/-- A flight begins with everything unsent. -/
theorem sound_of_fresh (chain : Chain) (events : List Event) {filters outputs : Nat} (hf : 0 < filters)
    (ho : 0 < outputs) (capacity : Nat) :
    Flight.Sound (filters = 1 ∧ outputs = 1) chain events {
      unsent := events
      sending := true
      inbound := { capacity := some capacity, senders := 1, receivers := filters }
      filters := List.replicate filters {}
      outbound := { capacity := some capacity, senders := filters, receivers := outputs }
      outputs := List.replicate outputs {}
      written := [] } where
  agree := .of_eq (by simp [Flight.texts, flatMap_load_replicate])
  single := by simp
  sent := nofun
  inboundSenders := rfl
  inboundReceivers := (staying_replicate filters).symm
  outboundSenders := (staying_replicate filters).symm
  outboundReceivers := (staying_replicate outputs).symm
  manned := by simp [hf, ho]
  filtersGone := by simp [staying_replicate]
  outputsGone := by simp [staying_replicate]
  filtersTallied := tallied_replicate filters
  outputsTallied := tallied_replicate outputs
  taken := by simp [Controller.merged_replicate]
  passed := by simp [Controller.merged_replicate]
  kept := by simp [Controller.merged_replicate]
  counted := by simp [Controller.merged_replicate, flatMap_load_replicate]

/-- The lines that can be read: bytes that cannot be read to their end have none without its line feed. -/
def readable (failure : Option String) (bytes : List UInt8) : List String :=
  match failure with
  | none => Lines.ofBytes bytes
  | some _ => Lines.terminated bytes

theorem kept_of_begin {filterPool outputPool : Controller} (capacity : Nat) (name : String)
    (bytes : List UInt8) (failure : Option String) (hf : filterPool.state = .idle)
    (hfc : filterPool.chain = chain) (ho : outputPool.state = .idle)
    (hoc : outputPool.chain = Writer.chain writer) (hcalls : outputPool.calls = []) :
    (Run.begin { filters := filterPool, outputs := outputPool, capacity := capacity }
      (Input.ofBytes name bytes failure)).Kept (filterPool.poolSize = 1 ∧ outputPool.poolSize = 1) chain
        writer name failure ((readable failure bytes).map Event.ofLine)
        (List.replicate filterPool.poolSize {}) (List.replicate outputPool.poolSize {}) := by
  have hsound := sound_of_fresh chain ((readable failure bytes).map Event.ofLine)
    filterPool.poolSize_pos outputPool.poolSize_pos capacity
  have hwritten : outputPool.writtenBy 0 = [] := by simp [Controller.writtenBy, hcalls]
  rw [← hwritten] at hsound
  have hbegin : Run.begin { filters := filterPool, outputs := outputPool, capacity := capacity }
      (Input.ofBytes name bytes failure) = {
        pipeline := {
          filters := { filterPool with state := .running false (List.replicate filterPool.poolSize {}) }
          outputs := { outputPool with state := .running false (List.replicate outputPool.poolSize {}) }
          capacity := capacity
          inbound := { capacity := some capacity, senders := 1, receivers := filterPool.poolSize }
          outbound := { capacity := some capacity, senders := filterPool.poolSize,
                        receivers := outputPool.poolSize } }
        input := { Input.ofBytes name bytes failure with reader := .reading }
        phase := .reading } := by
    cases failure <;>
      simp [Run.begin, Pipeline.start, Controller.start, hf, ho, Input.start, Input.ofBytes,
        Sentinel.addSenders, Sentinel.channel?, Channel.addSenders, Channel.addReceivers]
  rw [hbegin]
  exact {
    filtersChain := hfc
    outputsChain := hoc
    intact := by cases failure <;> exact ⟨rfl, rfl, rfl⟩
    unasked := rfl
    stands := ⟨trivial, rfl, rfl⟩
    sound := by cases failure <;> exact hsound }

theorem of_build {phase : String} {size : Nat} {pool : Controller}
    (h : Controller.build phase chain size = .ok pool) :
    pool.state = .idle ∧ pool.chain = chain ∧ pool.poolSize = size ∧ pool.calls = [] := by
  obtain ⟨-, rfl⟩ := Controller.build_eq_ok_iff.mp h
  exact ⟨rfl, rfl, rfl, rfl⟩

/-- A run that is over without having been asked to stop has written, for each line that could be read, what
comes out of the filters for that line alone: each text once, whole, and in the order of the lines if both
phases have a single worker. It reports an input that cannot be read as that, and otherwise the counts. -/
theorem run_delivers {filters : List Filter} {currentYear : Int}
    {filterWorkers outputWorkers capacity : Nat} {filterPool outputPool : Controller}
    {writer name : String} {bytes : List UInt8} {failure : Option String} {schedule : List Move}
    {result : Except LifecycleError PipelineStats}
    (hf : Controller.build "filters" (Filter.chain filters currentYear) filterWorkers = .ok filterPool)
    (ho : Controller.build "outputs" (Writer.chain writer) outputWorkers = .ok outputPool)
    (hs : .request ∉ schedule) :
    let pipeline : Pipeline := { filters := filterPool, outputs := outputPool, capacity := capacity }
    let run := (Run.begin pipeline (Input.ofBytes name bytes failure)).follow schedule
    run.outcome? = some result →
    let written := run.pipeline.outputs.writtenBy 0
    let lines := readable failure bytes
    let expected := lines.flatMap fun line =>
      ((Filter.chain filters currentYear).image (Event.ofLine line)).map fun event =>
        event.toJson ++ "\n"
    (written.Perm expected ∧ (filterWorkers = 1 → outputWorkers = 1 → written = expected)) ∧
    (∀ message, failure = some message → result = .error (.input name message)) ∧
    (failure = none → ∃ stats, result = .ok stats ∧
      stats.filters.received = lines.length ∧
      stats.filters.received = stats.filters.delivered + stats.filters.dropped ∧
      stats.filters.delivered = stats.outputs.received ∧
      stats.outputs.received = stats.outputs.delivered ∧
      stats.outputs.delivered = written.length) := by
  intro pipeline run hr written lines expected
  obtain ⟨hfs, hfc, hfsize, -⟩ := of_build hf
  obtain ⟨hos, hoc, hosize, hcalls⟩ := of_build ho
  have hk := kept_of_begin capacity name bytes failure hfs hfc hos hoc hcalls
  obtain ⟨filters', outputs', hk⟩ := hk.follow (Filter.chain_steady filters currentYear) hs
  obtain ⟨result', hover⟩ : ∃ result', run.phase = .over result' ∧ result' = result := by
    unfold outcome? at hr
    split at hr
    · exact ⟨_, ‹_›, Option.some.inj hr⟩
    · cases hr
  obtain ⟨hover, rfl⟩ := hover
  have hst : run.Stands name failure filters' outputs' := hk.stands
  simp only [Stands, hover] at hst
  obtain ⟨-, -, -, hgone, read, hread, hresult⟩ := hst
  obtain ⟨⟨hperm, hequal⟩, hreceived, hbalance, hpassed, hout, hcount⟩ := hk.sound.landed hgone
  have hexpected : ((readable failure bytes).map Event.ofLine).flatMap
      (Filter.chain filters currentYear).texts = expected := by
    rw [List.flatMap_map]
    rfl
  rw [hexpected] at hperm hequal
  refine ⟨⟨hperm, fun h1 h2 => hequal ⟨hfsize.trans h1, hosize.trans h2⟩⟩, ?_, ?_⟩
  · rintro message rfl
    obtain rfl : read = some (.error (.input name message)) := hread
    exact hresult
  · rintro rfl
    obtain ⟨count, rfl⟩ : ∃ count, read = some (.ok count) := hread
    refine ⟨_, hresult, ?_, hbalance, hpassed, hout, ?_⟩
    · exact hreceived.trans (List.length_map _)
    · exact (hcount.trans hout).symm

/-- A second worker takes the second of two lines and is done with it first. -/
theorem run_delivers_out_of_order :
    let filters : List Filter := [.mutate (.addTag ["seen"])]
    let schedule : List Move := [.read, .read, .read, .read, .read, .read, .read, .finish, .filter 0,
      .filter 1, .filter 1, .filter 1, .filter 0, .filter 0, .filter 0, .filter 1, .proceed,
      .output 0, .output 0, .output 0, .output 0, .output 0, .output 0, .output 0, .proceed]
    ∃ filterPool outputPool result,
      Controller.build "filters" (Filter.chain filters 2024) 2 = .ok filterPool ∧
      Controller.build "outputs" (Writer.chain "memory") 1 = .ok outputPool ∧ .request ∉ schedule ∧
      let pipeline : Pipeline := { filters := filterPool, outputs := outputPool, capacity := 2 }
      let run := (Run.begin pipeline (Input.ofBytes "lines" [97, 10, 98] none)).follow schedule
      run.outcome? = some result ∧
      run.pipeline.outputs.writtenBy 0 =
        [r#"{"message":"b","tags":["seen"]}"# ++ "\n", r#"{"message":"a","tags":["seen"]}"# ++ "\n"] ∧
      ∃ stats, result = .ok stats ∧ stats.filters.received = 2 := by
  intro filters schedule
  let filterPool : Controller := ⟨"filters", Filter.chain filters 2024, 2, by decide, .idle, {}, []⟩
  let outputPool : Controller := ⟨"outputs", Writer.chain "memory", 1, by decide, .idle, {}, []⟩
  have hover : ((Run.begin { filters := filterPool, outputs := outputPool, capacity := 2 }
      (Input.ofBytes "lines" [97, 10, 98] none)).follow schedule).outcome?.isSome = true := by
    decide +kernel
  obtain ⟨result, hr⟩ := Option.isSome_iff_exists.mp hover
  have hf : Controller.build "filters" (Filter.chain filters 2024) 2 = .ok filterPool := rfl
  have ho : Controller.build "outputs" (Writer.chain "memory") 1 = .ok outputPool := rfl
  have hs : .request ∉ schedule := by decide
  obtain ⟨stats, hok, hreceived, -⟩ := (run_delivers hf ho hs hr).2.2 rfl
  exact ⟨filterPool, outputPool, result, hf, ho, hs, hr, by decide +kernel, stats, hok, hreceived⟩

/-- A line without an end is lost when the bytes that follow cannot be read. -/
theorem run_loses_unterminated_line :
    let schedule : List Move := [.read, .read, .read, .read, .finish, .filter 0, .filter 0, .filter 0,
      .proceed, .output 0, .output 0, .output 0, .output 0, .proceed]
    ∃ filterPool outputPool result,
      Controller.build "filters" (Filter.chain [] 2024) 1 = .ok filterPool ∧
      Controller.build "outputs" (Writer.chain "memory") 1 = .ok outputPool ∧ .request ∉ schedule ∧
      let pipeline : Pipeline := { filters := filterPool, outputs := outputPool, capacity := 1 }
      let run := (Run.begin pipeline (Input.ofBytes "lines" [97, 10, 98] (some "fault"))).follow schedule
      run.outcome? = some result ∧
      ¬ (run.pipeline.outputs.writtenBy 0).Perm ((Lines.ofBytes [97, 10, 98]).flatMap fun line =>
        ((Filter.chain [] 2024).image (Event.ofLine line)).map fun event => event.toJson ++ "\n") := by
  intro schedule
  let filterPool : Controller := ⟨"filters", Filter.chain [] 2024, 1, by decide, .idle, {}, []⟩
  let outputPool : Controller := ⟨"outputs", Writer.chain "memory", 1, by decide, .idle, {}, []⟩
  have hover : ((Run.begin { filters := filterPool, outputs := outputPool, capacity := 1 }
      (Input.ofBytes "lines" [97, 10, 98] (some "fault"))).follow schedule).outcome?.isSome = true := by
    decide +kernel
  obtain ⟨result, hr⟩ := Option.isSome_iff_exists.mp hover
  exact ⟨filterPool, outputPool, result, rfl, rfl, by decide, hr, by decide +kernel⟩

end Run

end LogPipeline
