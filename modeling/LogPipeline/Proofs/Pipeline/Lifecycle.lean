import LogPipeline.Proofs.Pipeline.Closing
import LogPipeline.Proofs.Pipeline.Progress
import LogPipeline.Proofs.Result

/-!
# The life of a controller

A lifetime is a controller with those who call it: they start it, close it or give it up, in any order and as
often as they like, while its workers take their turns and others do with the channels whatever they want. A
call that closes a running controller waits for the workers, and as long as it waits there is no other
call. `lifetime_accords` says how each call ends, and which calls the stages have seen by then;
`close_follows` says that `Controller.close` is such a call, with the workers taking their turns meanwhile.
-/

namespace LogPipeline

/-- Where a controller stands. -/
inductive Standing where
  | idle
  | running
  | closed
  deriving DecidableEq, Repr

/-- To stay, or to go one step ahead. -/
inductive Standing.Moves : Standing → Standing → Prop
  | stay {standing} : Moves standing standing
  | start : Moves .idle .running
  | close : Moves .running .closed

namespace Controller

def standing (controller : Controller) : Standing :=
  match controller.state with
  | .idle => .idle
  | .running .. => .running
  | .closed => .closed

/-- No stage has been finished. -/
def Unfinished (controller : Controller) : Prop := ∀ stage, .finished stage ∉ controller.calls

/-- Every stage has been finished once, in the order of the chain, after all that it was handed. -/
def Finished (controller : Controller) : Prop :=
  ∃ processed, (∀ stage, .finished stage ∉ processed) ∧
    controller.calls.reverse = processed ++ (List.range controller.chain.size).map .finished

end Controller

/-- A call on a controller. -/
inductive Request where
  | start (ports : Ports)
  | close
  /-- The controller is given up. -/
  | drop

namespace Request

def isStart : Request → Bool
  | .start _ => true
  | _ => false

def isDrop : Request → Bool
  | .drop => true
  | _ => false

/-- What a caller is told of how closing ended. Who gives a controller up is told nothing. -/
def reply (request : Request) (result : Except LifecycleError Stats) :
    Except LifecycleError (Option Stats) :=
  match request with
  | .drop => .ok none
  | _ => result.map some

end Request

/-- A call that has returned. -/
structure Answer where
  request : Request
  /-- The controller as the call found it. -/
  before : Controller
  /-- The controller as the call left it. -/
  after : Controller
  /-- The workers that had broken down when the call returned. -/
  broken : List Nat
  result : Except LifecycleError (Option Stats)

namespace Answer

/-- How closing ends, by what has been seen: a worker that broke down counts before an event that could not
be handed over. -/
def verdict (answer : Answer) : Except LifecycleError Stats :=
  let stats := answer.after.stats
  if answer.broken ≠ [] then .error (.workerPanicked answer.before.name)
  else if 0 < stats.undeliverable then
    .error (.downstreamClosed answer.before.name stats.undeliverable)
  else .ok stats

/-- A call that leaves everything as it was. -/
def Leaves (answer : Answer) (result : Except LifecycleError (Option Stats)) : Prop :=
  answer.after = answer.before ∧ answer.result = result

/-- What a call does, by where the controller stands. -/
def Lawful (answer : Answer) : Prop :=
  let name := answer.before.name
  match answer.before.standing, answer.request with
  | .idle, .start _ =>
    answer.after.standing = .running ∧ answer.after.stats = answer.before.stats ∧
      answer.result = .ok none
  | .idle, .close => answer.Leaves (.error (.notStarted name))
  | .running, .start _ => answer.Leaves (.error (.alreadyStarted name))
  | .running, request =>
    answer.after.standing = .closed ∧ answer.after.Finished ∧
      answer.result = request.reply answer.verdict
  | .closed, .start _ | .closed, .close => answer.Leaves (.error (.alreadyClosed name))
  | .idle, .drop | .closed, .drop => answer.Leaves (.ok none)

end Answer

/-- Answers of which each is lawful and finds the controller where the one before has left it. -/
def Accords (first : Standing) (answers : List Answer) (last : Standing) : Prop :=
  match answers with
  | [] => first = last
  | answer :: rest => answer.before.standing = first ∧ answer.Lawful ∧
      Accords answer.after.standing rest last

structure Lifetime where
  controller : Controller
  ports : Ports
  /-- A call that waits for the workers, and the controller as it found it. -/
  pending : Option (Request × Controller) := none
  released : Bool := false
  /-- The workers that have broken down. -/
  broken : List Nat := []
  /-- The calls that have returned, first come first. -/
  answers : List Answer := []

/-- What can happen around a controller that is called. -/
inductive Deed where
  | call (request : Request)
  | work (worker : Nat)
  /-- Somebody takes an event from the channel behind the chain. -/
  | receive
  /-- Others do something to the channels. -/
  | others (change : Ports → Ports)
  /-- The call that waits notices that all workers have gone. -/
  | join

/-- The ports after somebody has taken an event from behind the chain. -/
def Ports.receive (ports : Ports) : Ports :=
  match ports.sentinel with
  | .forward channel =>
    match channel.take? with
    | some (_, channel) => { ports with sentinel := .forward channel }
    | none => ports
  | .final => ports

namespace Lifetime

/-- A call returns. -/
def answer (life : Lifetime) (request : Request) (before : Controller)
    (result : Except LifecycleError (Option Stats)) : Lifetime :=
  { life with
    pending := none
    released := life.released || request.isDrop
    answers := life.answers ++ [⟨request, before, life.controller, life.broken, result⟩] }

/-- A call that closes the controller, up to the point where it waits for the workers. -/
def beginClose (life : Lifetime) (request : Request) : Lifetime :=
  match life.controller.beginClose with
  | .ok controller =>
    { life with controller := controller, pending := some (request, life.controller) }
  | .error e => life.answer request life.controller (request.reply (.error e))

/-- A controller that is given up is closed if it is running. -/
def call (life : Lifetime) (request : Request) : Lifetime :=
  match request with
  | .start ports =>
    match life.controller.start ports with
    | .ok (controller, ports) =>
      { life with controller := controller, ports := ports }.answer request life.controller (.ok none)
    | .error e => life.answer request life.controller (.error e)
  | .close => life.beginClose .close
  | .drop =>
    if life.controller.isRunning then life.beginClose .drop
    else life.answer .drop life.controller (.ok none)

/-- What cannot be done changes nothing. -/
def step (life : Lifetime) : Deed → Lifetime
  | .call request => if life.pending.isSome || life.released then life else life.call request
  | .work index =>
    match life.controller.move? life.ports index with
    | some (controller, ports) =>
      let broke := controller.workers[index]?.any Worker.hasPanicked
      { life with
        controller := controller
        ports := ports
        broken := life.broken ++ if broke then [index] else [] }
    | none => life
  | .receive => { life with ports := life.ports.receive }
  | .others change => { life with ports := change life.ports }
  | .join =>
    match life.pending with
    | some (request, before) =>
      if life.controller.isDeserted then
        let (controller, result) := life.controller.endClose
        { life with controller := controller }.answer request before (request.reply result)
      else life
    | none => life

def follow (life : Lifetime) (deeds : List Deed) : Lifetime := deeds.foldl step life

end Lifetime

/-! ## Where a controller stands -/

namespace Controller

variable {controller next : Controller} {ports ports' : Ports} {index : Nat} {closing : Bool}
  {workers : List Worker}

theorem standing_of_running (h : controller.state = .running closing workers) :
    controller.standing = .running := by
  simp [standing, h]

theorem standing_eq_running_iff :
    controller.standing = .running ↔ ∃ closing workers, controller.state = .running closing workers := by
  cases hs : controller.state <;> simp [standing, hs]

theorem isRunning_iff : controller.isRunning = true ↔ controller.standing = .running := by
  cases hs : controller.state <;> simp [isRunning, standing, hs]

/-- Workers hand events to stages, and do not finish them. -/
theorem not_finished_of_acts {chain : Chain} {worker : Worker} {turn : Worker.Turn}
    (h : worker.Acts chain closing ports turn) (stage : Nat) : .finished stage ∉ turn.calls := by
  cases h <;> simp

theorem Unfinished.finish (h : controller.Unfinished) : controller.endClose.1.Finished := by
  refine ⟨controller.calls.reverse, fun stage hm => h stage (List.mem_reverse.mp hm), ?_⟩
  simp [endClose, finishCalls, controller.chain.finish_eq]

end Controller

theorem Accords.snoc {first last : Standing} {answers : List Answer} {answer : Answer}
    (h : Accords first answers last) (hb : answer.before.standing = last) (ha : answer.Lawful) :
    Accords first (answers ++ [answer]) answer.after.standing := by
  induction answers generalizing first with
  | nil => exact ⟨hb.trans (Eq.symm h), ha, rfl⟩
  | cons head rest ih => exact ⟨h.1, h.2.1, ih h.2.2⟩

theorem any_eq_true_iff_countP {α : Type} {list : List α} {p : α → Bool} :
    list.any p = true ↔ 0 < list.countP p := by
  simp [List.countP_pos_iff]

namespace Lifetime

/-! ## What a deed cannot take back -/

/-- The controller is still the same one, and what has been answered stays answered. -/
structure Grows (life next : Lifetime) : Prop where
  alike : next.controller.Alike life.controller
  answers : life.answers <+: next.answers

theorem Grows.refl (life : Lifetime) : life.Grows life := ⟨.rfl, List.prefix_rfl⟩

theorem Grows.trans {a b c : Lifetime} (h : a.Grows b) (h' : b.Grows c) : a.Grows c :=
  ⟨h'.alike.trans h.alike, h.answers.trans h'.answers⟩

theorem grows_answer (life : Lifetime) (request : Request) (before : Controller)
    (result : Except LifecycleError (Option Stats)) : life.Grows (life.answer request before result) :=
  ⟨.rfl, List.prefix_append _ _⟩

theorem grows_beginClose (life : Lifetime) (request : Request) : life.Grows (life.beginClose request) := by
  unfold beginClose
  cases hs : life.controller.state <;> simp only [Controller.beginClose, hs]
  · exact life.grows_answer _ _ _
  · exact ⟨.rfl, List.prefix_rfl⟩
  · exact life.grows_answer _ _ _

theorem grows_call (life : Lifetime) (request : Request) : life.Grows (life.call request) := by
  cases request with
  | start ports =>
    cases hs : life.controller.state <;> simp only [call, Controller.start, hs]
    · exact ⟨.rfl, List.prefix_append _ _⟩
    · exact life.grows_answer _ _ _
    · exact life.grows_answer _ _ _
  | close => exact life.grows_beginClose _
  | drop =>
    simp only [call]
    split
    · exact life.grows_beginClose _
    · exact life.grows_answer _ _ _

theorem grows_step (life : Lifetime) (deed : Deed) : life.Grows (life.step deed) := by
  cases deed with
  | call request =>
    simp only [step]
    split
    · exact .refl life
    · exact life.grows_call request
  | work index =>
    simp only [step]
    split
    · rename_i hm
      obtain ⟨closing, workers, worker, turn, -, -, -, rfl, rfl⟩ := Controller.of_move? hm
      exact ⟨.rfl, List.prefix_rfl⟩
    · exact .refl life
  | receive => exact ⟨.rfl, List.prefix_rfl⟩
  | others change => exact ⟨.rfl, List.prefix_rfl⟩
  | join =>
    simp only [step]
    split
    · split
      · exact ⟨.rfl, List.prefix_append _ _⟩
      · exact .refl life
    · exact .refl life

/-! ## What a deed keeps -/

/-- What holds of a lifetime, whatever has happened so far. -/
structure Kept (life : Lifetime) : Prop where
  accords : Accords .idle life.answers life.controller.standing
  pending : ∀ request before, life.pending = some (request, before) →
    (request.isStart = false ∧ before.standing = .running ∧ life.controller.Alike before) ∧
      life.released = false ∧ ∃ workers, life.controller.state = .running true workers
  size : ∀ closing workers, life.controller.state = .running closing workers →
    workers.length = life.controller.poolSize
  broken : life.controller.standing ≠ .closed →
    (life.controller.workers.any Worker.hasPanicked = true ↔ life.broken ≠ [])
  unfinished : life.controller.standing ≠ .closed → life.controller.Unfinished
  finished : life.controller.standing = .closed → life.controller.Finished
  released : life.released = true → life.controller.standing ≠ .running

variable {life : Lifetime} {request : Request} {before : Controller}

namespace Kept

/-- A call that only returns. -/
theorem leave (h : life.Kept) {result : Except LifecycleError (Option Stats)}
    (ha : Answer.Lawful ⟨request, life.controller, life.controller, life.broken, result⟩)
    (hd : request.isDrop = true → life.controller.standing ≠ .running) :
    (life.answer request life.controller result).Kept := by
  refine { h with accords := h.accords.snoc rfl ha, pending := by rintro _ _ ⟨⟩, released := fun hr => ?_ }
  rcases Bool.or_eq_true_iff.mp hr with hr | hr
  · exact h.released hr
  · exact hd hr

theorem start (h : life.Kept) (hl : life.released = false) (ports : Ports) :
    (life.call (.start ports)).Kept := by
  cases hs : life.controller.state with
  | idle =>
    have hidle : life.controller.standing = .idle := by simp [Controller.standing, hs]
    have hbroken : life.broken = [] := by simpa [hidle, Controller.workers, hs] using h.broken
    simp only [call, Controller.start, hs]
    refine { accords := ?_, pending := ?_, size := ?_, broken := ?_, unfinished := ?_, finished := ?_,
             released := ?_ }
    · refine h.accords.snoc rfl ?_
      simp only [Answer.Lawful, hidle]
      exact ⟨rfl, trivial, trivial⟩
    · rintro _ _ ⟨⟩
    · rintro _ _ ⟨⟩
      simp [answer]
    · simp [answer, hbroken, Controller.workers, Worker.hasPanicked]
    · exact fun _ => h.unfinished (by simp [hidle])
    · rintro ⟨⟩
    · simp [answer, hl, Request.isDrop]
  | running closing workers =>
    simp only [call, Controller.start, hs]
    refine h.leave ?_ (by rintro ⟨⟩)
    simp only [Answer.Lawful, Controller.standing_of_running hs]
    exact ⟨rfl, rfl⟩
  | closed =>
    simp only [call, Controller.start, hs]
    refine h.leave ?_ (by rintro ⟨⟩)
    simp only [Answer.Lawful, Controller.standing, hs]
    exact ⟨rfl, rfl⟩

/-- A call that closes a running controller has to wait. -/
theorem beginClose (h : life.Kept) (hl : life.released = false) (hq : request.isStart = false)
    {closing : Bool} {workers : List Worker} (hs : life.controller.state = .running closing workers) :
    (life.beginClose request).Kept := by
  have hrunning := Controller.standing_of_running hs
  have hworkers : life.controller.workers = workers := by simp [Controller.workers, hs]
  simp only [Lifetime.beginClose, Controller.beginClose, hs]
  refine { accords := ?_, pending := ?_, size := ?_, broken := ?_, unfinished := ?_, finished := ?_,
           released := ?_ }
  · have haccords := h.accords
    rw [hrunning] at haccords
    exact haccords
  · rintro _ _ ⟨⟩
    exact ⟨⟨hq, hrunning, .rfl⟩, hl, workers, rfl⟩
  · rintro _ _ ⟨⟩
    exact h.size closing workers hs
  · intro _
    rw [← h.broken (by simp [hrunning]), hworkers]
    rfl
  · exact fun _ => h.unfinished (by simp [hrunning])
  · rintro ⟨⟩
  · simp [hl]

theorem close (h : life.Kept) (hl : life.released = false) : (life.call .close).Kept := by
  cases hs : life.controller.state with
  | idle =>
    simp only [call, Lifetime.beginClose, Controller.beginClose, hs]
    refine h.leave ?_ (by rintro ⟨⟩)
    simp only [Answer.Lawful, Controller.standing, hs]
    exact ⟨rfl, rfl⟩
  | running closing workers => exact h.beginClose hl rfl hs
  | closed =>
    simp only [call, Lifetime.beginClose, Controller.beginClose, hs]
    refine h.leave ?_ (by rintro ⟨⟩)
    simp only [Answer.Lawful, Controller.standing, hs]
    exact ⟨rfl, rfl⟩

theorem drop (h : life.Kept) (hl : life.released = false) : (life.call .drop).Kept := by
  cases hs : life.controller.state with
  | running closing workers =>
    simp only [call, Controller.isRunning, hs, ↓reduceIte]
    exact h.beginClose hl rfl hs
  | _ =>
    simp only [call, Controller.isRunning, hs, Bool.false_eq_true, ↓reduceIte]
    refine h.leave ?_ fun _ => by simp [Controller.standing, hs]
    simp only [Answer.Lawful, Controller.standing, hs]
    exact ⟨rfl, rfl⟩

theorem call (h : life.Kept) : (life.step (.call request)).Kept := by
  simp only [step]
  split
  · exact h
  rename_i hfree
  have hl : life.released = false := by
    simp only [Bool.or_eq_true, not_or, Bool.not_eq_true] at hfree
    exact hfree.2
  cases request with
  | start ports => exact h.start hl ports
  | close => exact h.close hl
  | drop => exact h.drop hl

/-- The turn of a worker is seen if the worker breaks down in it. -/
theorem work (h : life.Kept) (index : Nat) : (life.step (.work index)).Kept := by
  simp only [step]
  split
  · rename_i next ports hm
    obtain ⟨closing, workers, worker, turn, hs, hw, ha, rfl, rfl⟩ := Controller.of_move? hm
    have hi : index < workers.length := (List.getElem?_eq_some_iff.mp hw).1
    have hrunning := Controller.standing_of_running hs
    have hworkers : life.controller.workers = workers := by simp [Controller.workers, hs]
    have hbroken := h.broken (by simp [hrunning])
    refine { accords := ?_, pending := ?_, size := ?_, broken := ?_, unfinished := ?_, finished := ?_,
             released := ?_ }
    · have haccords := h.accords
      rw [hrunning] at haccords
      exact haccords
    · intro request before hp
      obtain ⟨hbefore, hl, _, hclosing⟩ := h.pending request before hp
      obtain ⟨rfl, -⟩ := ControllerState.running.inj (hs.symm.trans hclosing)
      exact ⟨hbefore, hl, _, rfl⟩
    · rintro _ _ ⟨⟩
      simpa using h.size closing workers hs
    · intro _
      -- only a worker that has not broken down takes a turn, so that none is counted twice
      have hpanicked : worker.hasPanicked = false := by cases ha <;> rfl
      have hcount := countP_set Worker.hasPanicked turn.worker hw
      simp only [any_eq_true_iff_countP, hworkers] at hbroken
      simp only [any_eq_true_iff_countP, Controller.workers, List.getElem?_set_self hi, Option.any_some]
      rw [hpanicked] at hcount
      cases hnew : turn.worker.hasPanicked
      · simp_all
      · simp_all
    · intro _ stage hm
      rcases List.mem_append.mp hm with hm | hm
      · exact Controller.not_finished_of_acts ha stage hm
      · exact h.unfinished (by simp [hrunning]) stage hm
    · rintro ⟨⟩
    · exact fun hr => absurd hrunning (h.released hr)
  · exact h

/-- How closing ends is what has been seen of it. -/
theorem endClose_eq_verdict
    (hb : life.controller.workers.any Worker.hasPanicked = true ↔ life.broken ≠ [])
    (hn : life.controller.name = before.name) (request : Request)
    (result : Except LifecycleError (Option Stats)) : life.controller.endClose.2 =
      Answer.verdict ⟨request, before, life.controller.endClose.1, life.broken, result⟩ := by
  simp only [Controller.endClose, Controller.verdict, Answer.verdict, hb, hn]

theorem join (h : life.Kept) : (life.step .join).Kept := by
  simp only [step]
  split
  · rename_i request before hp
    split
    · obtain ⟨⟨hq, hbefore, halike⟩, hl, workers, hs⟩ := h.pending request before hp
      have hrunning := Controller.standing_of_running hs
      have hfinished := (h.unfinished (by simp [hrunning])).finish
      have hverdict := endClose_eq_verdict (h.broken (by simp [hrunning])) halike.1
      refine { accords := ?_, pending := by rintro _ _ ⟨⟩, size := by rintro _ _ ⟨⟩,
               broken := fun hne => absurd rfl hne, unfinished := fun hne => absurd rfl hne,
               finished := fun _ => hfinished, released := by rintro _ ⟨⟩ }
      refine h.accords.snoc (hbefore.trans hrunning.symm) ?_
      simp only [Answer.Lawful, hbefore]
      cases request with
      | start ports => cases hq
      | close => exact ⟨rfl, hfinished, congrArg Request.close.reply (hverdict .close _)⟩
      | drop => exact ⟨rfl, hfinished, rfl⟩
    · exact h
  · exact h

theorem step (h : life.Kept) (deed : Deed) : (life.step deed).Kept := by
  cases deed with
  | call request => exact h.call
  | work index => exact h.work index
  | receive => exact { h with }
  | others change => exact { h with }
  | join => exact h.join

theorem follow (h : life.Kept) (deeds : List Deed) : (life.follow deeds).Kept := by
  induction deeds generalizing life with
  | nil => exact h
  | cons deed rest ih => exact ih (h.step deed)

end Kept

/-- A call takes the controller at most one step ahead. -/
theorem moves_call (life : Lifetime) (request : Request) :
    Standing.Moves life.controller.standing (life.call request).controller.standing := by
  have hclose (request : Request) :
      (life.beginClose request).controller.standing = life.controller.standing := by
    cases hs : life.controller.state <;>
      simp [beginClose, Controller.beginClose, hs, answer, Controller.standing]
  cases request with
  | start ports =>
    cases hs : life.controller.state <;>
      simp only [call, Controller.start, hs, answer, Controller.standing]
    · exact .start
    · exact .stay
    · exact .stay
  | close => exact hclose .close ▸ .stay
  | drop =>
    simp only [call]
    split
    · exact hclose .drop ▸ .stay
    · exact .stay

theorem Kept.moves (h : life.Kept) (deed : Deed) :
    Standing.Moves life.controller.standing (life.step deed).controller.standing := by
  cases deed with
  | call request =>
    simp only [Lifetime.step]
    split
    · exact .stay
    · exact life.moves_call request
  | work index =>
    simp only [Lifetime.step]
    split
    · rename_i hm
      obtain ⟨closing, workers, worker, turn, hs, -, -, rfl, rfl⟩ := Controller.of_move? hm
      rw [Controller.standing_of_running hs]
      exact .stay
    · exact .stay
  | receive => exact .stay
  | others change => exact .stay
  | join =>
    simp only [Lifetime.step]
    split
    · rename_i request before hp
      split
      · obtain ⟨-, -, workers, hs⟩ := h.pending request before hp
        rw [Controller.standing_of_running hs]
        exact .close
      · exact .stay
    · exact .stay

/-! ## Waiting for the workers -/

/-- What the workers have still to do before a call that waits can return. -/
def load (life : Lifetime) : Nat :=
  life.ports.load life.controller.chain 1 life.controller.workers + life.pending.isSome.toNat

/-- What is due again and again while a call waits. -/
def dues (size : Nat) : List Deed := .receive :: .join :: (List.range size).map .work

/-- Nobody does anything to the channels but take events from behind the chain. -/
def Quiet : Deed → Prop
  | .others _ => False
  | _ => True

/-- After some answers, a call has returned from closing the controller that it found. -/
def Returned (earlier : List Answer) (request : Request) (before : Controller) (life : Lifetime) : Prop :=
  ∃ answer rest, life.answers = earlier ++ answer :: rest ∧ answer.request = request ∧
    answer.before = before ∧ answer.after.standing = .closed

/-- A call waits after some answers, or has returned. -/
structure Awaited (size : Nat) (earlier : List Answer) (request : Request) (before : Controller)
    (life : Lifetime) : Prop where
  kept : life.Kept
  size : life.controller.poolSize = size
  waits : (life.pending = some (request, before) ∧ life.answers = earlier) ∨
    Returned earlier request before life

theorem load_work {index : Nat} {next : Controller} {ports : Ports}
    (hm : life.controller.move? life.ports index = some (next, ports)) :
    (life.step (.work index)).load < life.load := by
  have := Controller.load_of_move? 1 hm
  simp only [step, hm, load]
  omega

theorem load_receive {channel : Channel} {event : Event} {rest : List Event}
    (hs : life.ports.sentinel = .forward channel) (hw : channel.waiting = event :: rest) :
    (life.step .receive).load < life.load := by
  simp [step, load, Ports.receive, hs, Channel.take?, hw, Ports.load, Sentinel.backlog]

theorem load_join (hp : life.pending = some (request, before)) (hd : life.controller.isDeserted = true) :
    (life.step .join).load < life.load := by
  have hstep : life.step .join = answer { life with controller := life.controller.endClose.1 } request before
      (request.reply life.controller.endClose.2) := by
    simp only [step, hp, hd, ↓reduceIte]
  rw [hstep]
  -- no worker is left in a closed controller
  change life.ports.load life.controller.chain 1 [] + 0 < life.load
  simp only [load, Ports.load, toils, hp, Option.isSome_some, Bool.toNat_true]
  omega

/-- Nothing but the end of the workers ends a wait. -/
theorem step_of_pending (hp : life.pending = some (request, before)) (deed : Deed) :
    ((life.step deed).pending = life.pending ∧ (life.step deed).answers = life.answers) ∨
      (deed = .join ∧ life.controller.isDeserted = true) := by
  cases deed with
  | call request => exact .inl (by simp [step, hp])
  | work index =>
    simp only [step]
    split <;> exact .inl ⟨rfl, rfl⟩
  | receive => exact .inl ⟨rfl, rfl⟩
  | others change => exact .inl ⟨rfl, rfl⟩
  | join =>
    cases hd : life.controller.isDeserted with
    | true => exact .inr ⟨rfl, rfl⟩
    | false => exact .inl (by simp [step, hp, hd])

theorem Returned.step {earlier : List Answer} (h : Returned earlier request before life) (deed : Deed) :
    Returned earlier request before (life.step deed) := by
  obtain ⟨answer, rest, ha, hq⟩ := h
  obtain ⟨more, hm⟩ := (life.grows_step deed).answers
  exact ⟨answer, rest ++ more, by simp [← hm, ha], hq⟩

theorem returned_of_join {earlier : List Answer} (hp : life.pending = some (request, before))
    (ha : life.answers = earlier) (hd : life.controller.isDeserted = true) :
    Returned earlier request before (life.step .join) := by
  refine ⟨⟨request, before, life.controller.endClose.1, life.broken,
    request.reply life.controller.endClose.2⟩, [], ?_, rfl, rfl, rfl⟩
  simp only [step, hp, hd, ↓reduceIte, answer, ha]

theorem receive_eq_or (life : Lifetime) :
    life.step .receive = life ∨ (life.step .receive).load < life.load := by
  cases hs : life.ports.sentinel with
  | final => exact .inl (by simp [step, Ports.receive, hs])
  | forward channel =>
    cases hw : channel.waiting with
    | nil => exact .inl (by simp [step, Ports.receive, hs, Channel.take?, hw])
    | cons event rest => exact .inr (load_receive hs hw)

/-- As long as a call waits, a worker can move, or an event behind the chain is in the way, or all
have gone. -/
theorem due_of_pending (h : life.Kept) (hp : life.pending = some (request, before)) :
    ∃ deed ∈ dues life.controller.poolSize, (life.step deed).load < life.load := by
  obtain ⟨-, -, workers, hs⟩ := h.pending request before hp
  cases hd : life.controller.isDeserted with
  | true => exact ⟨.join, by simp [dues], load_join hp hd⟩
  | false =>
    -- where no worker can move, the channel behind the chain is full, and there is something to take
    rcases Controller.move?_isSome_or life.ports hs (Controller.staying_pos hs hd) (.inl rfl) with
      ⟨index, hi, hm⟩ | ⟨channel, hc, hf⟩
    · obtain ⟨moved, hm⟩ := Option.isSome_iff_exists.mp hm
      have hsize := h.size true workers hs
      refine ⟨.work index, ?_, load_work hm⟩
      simp only [dues, List.mem_cons, List.mem_map, List.mem_range]
      exact .inr (.inr ⟨index, by omega, rfl⟩)
    · obtain ⟨event, rest, hw⟩ := List.exists_cons_of_ne_nil hf.waiting_ne_nil
      exact ⟨.receive, by simp [dues], load_receive hc hw⟩

theorem waning (size : Nat) (earlier : List Answer) (request : Request) (before : Controller) :
    Waning step load (fun _ => 0) (dues size) Quiet (Awaited size earlier request before)
      (Returned earlier request before) where
  keeps := by
    intro life deed hq h
    refine ⟨h.kept.step deed, (life.grows_step deed).alike.2.2.trans h.size, ?_⟩
    rcases h.waits with ⟨hp, ha⟩ | hr
    · rcases step_of_pending hp deed with ⟨hp', ha'⟩ | ⟨rfl, hd⟩
      · exact .inl ⟨hp'.trans hp, ha'.trans ha⟩
      · exact .inr (returned_of_join hp ha hd)
    · exact .inr (hr.step deed)
  wanes := by
    intro life deed hq h hr
    obtain ⟨hp, ha⟩ := h.waits.resolve_right hr
    cases deed with
    | call request => exact .inl (by simp [step, hp])
    | work index =>
      cases hm : life.controller.move? life.ports index with
      | none => exact .inl (by simp [step, hm])
      | some moved => exact .inr (load_work hm)
    | receive => exact life.receive_eq_or
    | others change => cases hq
    | join =>
      cases hd : life.controller.isDeserted with
      | false => exact .inl (by simp [step, hp, hd])
      | true => exact .inr (load_join hp hd)
  stays := fun _ hr => hr.step _
  due := by
    intro life h hr
    exact h.size ▸ due_of_pending h.kept (h.waits.resolve_right hr).1

/-! ## Closing in one go -/

theorem grows_follow (life : Lifetime) (deeds : List Deed) : life.Grows (life.follow deeds) := by
  induction deeds generalizing life with
  | nil => exact .refl life
  | cons deed rest ih => exact (life.grows_step deed).trans (ih _)

/-- Workers that go on until none of them can have done so one turn at a time. -/
theorem settleWithin_follows (limit : Nat) (life : Lifetime) :
    ∃ works : List Nat,
      let after := life.follow (works.map .work)
      Controller.settleWithin limit life.controller life.ports = (after.controller, after.ports) ∧
        after.pending = life.pending ∧ after.released = life.released ∧ after.answers = life.answers := by
  induction limit generalizing life with
  | zero => exact ⟨[], rfl, rfl, rfl, rfl⟩
  | succ limit ih =>
    simp only [Controller.settleWithin]
    split
    · rename_i next ports hm
      obtain ⟨index, -, hm⟩ := List.exists_of_findSome?_eq_some hm
      obtain ⟨works, hw, hp, hr, ha⟩ := ih (life.step (.work index))
      have hstep : (life.step (.work index)).controller = next ∧ (life.step (.work index)).ports = ports ∧
          (life.step (.work index)).pending = life.pending ∧
          (life.step (.work index)).released = life.released ∧
          (life.step (.work index)).answers = life.answers := by
        simp [step, hm]
      obtain ⟨hc, hports, hp', hr', ha'⟩ := hstep
      rw [hc, hports] at hw
      exact ⟨index :: works, hw, hp.trans hp', hr.trans hr', ha.trans ha'⟩
    · exact ⟨[], rfl, rfl, rfl, rfl⟩

/-- Closing in one go is a call that waits while the workers take turns, and returns when all of them have
gone. -/
theorem close_follows (hr : life.controller.isRunning = true) (hp : life.pending = none)
    (hl : life.released = false) (hu : life.ports.sentinel.Unhindered) :
    ∃ works : List Nat,
      let after := life.follow (.call .close :: works.map .work ++ [.join])
      let result := (life.controller.close life.ports).2
      life.controller.close life.ports = ((after.controller, after.ports), result) ∧
        after.answers = life.answers ++
          [⟨.close, life.controller, after.controller, after.broken, result.map some⟩] := by
  obtain ⟨closing, workers, hs⟩ := Controller.standing_eq_running_iff.mp (Controller.isRunning_iff.mp hr)
  let shut : Controller := { life.controller with state := .running true workers }
  let waiting : Lifetime := { life with controller := shut, pending := some (.close, life.controller) }
  have hcall : life.step (.call .close) = waiting := by
    simp [step, hp, hl, call, beginClose, Controller.beginClose, hs, waiting, shut]
  obtain ⟨works, hw, hp', -, ha⟩ := settleWithin_follows (shut.remaining life.ports) waiting
  generalize hafter : waiting.follow (works.map .work) = settled at hw hp' ha
  have hsettle : shut.settle life.ports = (settled.controller, settled.ports) := hw
  have hdeserted : settled.controller.isDeserted = true := by
    simpa only [hsettle] using
      Controller.isDeserted_settle (show shut.state = .running true workers from rfl) hu
  have hclose : life.controller.close life.ports =
      ((settled.controller.endClose.1, settled.ports), settled.controller.endClose.2) := by
    simp only [Controller.close, Controller.beginClose, hs]
    rw [show Controller.settle _ life.ports = _ from hsettle]
  have hjoin : life.follow (.call .close :: works.map .work ++ [.join]) =
      answer { settled with controller := settled.controller.endClose.1 } .close life.controller
        (Request.close.reply settled.controller.endClose.2) := by
    have hpending : settled.pending = some (.close, life.controller) := hp'
    simp only [follow, List.cons_append, List.foldl_cons, List.foldl_append, List.foldl_nil, hcall]
      at hafter ⊢
    rw [hafter]
    simp only [step, hpending, hdeserted, ↓reduceIte]
  refine ⟨works, ?_⟩
  simp only [hjoin, hclose]
  exact ⟨rfl, by rw [show life.answers = settled.answers from ha.symm]; rfl⟩

/-! ## From the beginning -/

/-- A controller that nobody has called yet. -/
def begin (controller : Controller) (ports : Ports) : Lifetime := { controller := controller, ports := ports }

theorem kept_of_build {name : String} {chain : Chain} {size : Nat} {controller : Controller} (ports : Ports)
    (h : Controller.build name chain size = .ok controller) : (begin controller ports).Kept := by
  obtain ⟨hpos, rfl⟩ := Controller.build_eq_ok_iff.mp h
  exact {
    accords := rfl
    pending := by rintro _ _ ⟨⟩
    size := by rintro _ _ ⟨⟩
    broken := fun _ => by simp [begin, Controller.workers]
    unfinished := fun _ => by simp [begin, Controller.Unfinished]
    finished := by rintro ⟨⟩
    released := by rintro ⟨⟩ }

/-- Whatever the callers, the workers and the others do, each call ends as it must where the controller
stands, and changes nothing when it is refused; a call that closes leaves the controller closed, whether
workers have broken down or events could not be handed over. The stages are finished by the time the controller
is closed, and not before; a stage that cannot be finished keeps none of the others from it. A controller that
was given up does not run. A call that waits returns when the workers are given enough turns and what they hand
over is taken, unless others go on sending. -/
theorem lifetime_accords {name : String} {chain : Chain} {size : Nat} {controller : Controller}
    (h : Controller.build name chain size = .ok controller) (ports : Ports) (deeds : List Deed) :
    let life := (begin controller ports).follow deeds
    (∀ deed, Standing.Moves life.controller.standing (life.step deed).controller.standing) ∧
    Accords .idle life.answers life.controller.standing ∧
    (life.controller.standing = .closed → life.controller.Finished) ∧
    (life.controller.standing ≠ .closed → life.controller.Unfinished) ∧
    (life.released = true → life.controller.standing ≠ .running) ∧
    ∀ request before, life.pending = some (request, before) →
      before.standing = .running ∧
      ∀ rounds : List (List Deed), (∀ round ∈ rounds, ∀ deed ∈ round, Quiet deed) →
        (∀ round ∈ rounds, ∀ deed ∈ dues size, deed ∈ round) → life.load ≤ rounds.length →
        Returned life.answers request before (life.follow rounds.flatten) := by
  intro life
  have hk : life.Kept := (kept_of_build ports h).follow deeds
  refine ⟨hk.moves, hk.accords, hk.finished, hk.unfinished, hk.released, fun request before hp => ?_⟩
  refine ⟨(hk.pending request before hp).1.2.1, fun rounds hq hd hl => ?_⟩
  have hsize : life.controller.poolSize = size := by
    obtain ⟨-, rfl⟩ := Controller.build_eq_ok_iff.mp h
    exact ((begin _ ports).grows_follow deeds).alike.2.2
  refine (waning size life.answers request before).done_of_rounds hq hd ⟨hk, hsize, .inl ⟨hp, rfl⟩⟩ ?_
  rwa [Waning.total_zero]

/-- One of two workers breaks down, and a stage cannot be finished; the controller is closed nevertheless,
once. -/
theorem lifetime_accords_of_breakdown :
    let fragile : Stage :=
      { name := "fragile"
        process := fun event => if event.tags = [] then (Flow.continue event).effect else .panic
        finish := .error (.fieldMissing "tags") }
    let sturdy : Stage := { name := "sturdy", process := fun event => (Flow.continue event).effect }
    let chain : Chain := ⟨[fragile, sturdy]⟩
    let ports : Ports :=
      ⟨{ waiting := [{ tags := ["a"] }, {}], senders := 1 },
        .forward { capacity := some 0, receivers := 1 }⟩
    let deeds : List Deed :=
      [.call .close, .call (.start ports), .call (.start ports), .work 0, .work 0, .call .close]
    let rounds : List (List Deed) := List.replicate 7 (dues 2)
    ∃ controller, Controller.build "filters" chain 2 = .ok controller ∧
      let life := (begin controller ports).follow deeds
      let after := (life.follow rounds.flatten).follow [.call .close, .call .drop]
      (∃ before, life.pending = some (.close, before) ∧
        Returned life.answers .close before (life.follow rounds.flatten)) ∧
      after.answers.map Answer.result = [.error (.notStarted "filters"), .ok none,
        .error (.alreadyStarted "filters"), .error (.workerPanicked "filters"),
        .error (.alreadyClosed "filters"), .ok none] ∧
      after.controller.calls.reverse = [.processed 0 "", .processed 0 "", .processed 1 "", .finished 0,
        .finished 1] := by
  intro fragile sturdy chain ports deeds rounds
  let controller : Controller := ⟨"filters", chain, 2, by decide, .idle, {}, []⟩
  have h : Controller.build "filters" chain 2 = .ok controller := rfl
  refine ⟨controller, h, ?_, by decide +kernel, by decide +kernel⟩
  have hclosing : ((begin controller ports).follow deeds).pending.any
      (fun call => !call.1.isStart && !call.1.isDrop) = true := by decide +kernel
  obtain ⟨⟨request, before⟩, hp, hclose⟩ := Option.any_eq_true _ _ |>.mp hclosing
  obtain rfl : request = .close := by cases request <;> simp_all [Request.isStart, Request.isDrop]
  obtain ⟨-, hreturns⟩ := (lifetime_accords h ports deeds).2.2.2.2.2 _ _ hp
  refine ⟨before, hp, hreturns rounds (fun round hm deed hd => ?_) (fun round hm deed hd => ?_)
    (by decide +kernel)⟩
  · obtain rfl := List.eq_of_mem_replicate hm
    cases deed with
    | others change => simp [dues] at hd
    | _ => trivial
  · obtain rfl := List.eq_of_mem_replicate hm
    exact hd

end Lifetime

end LogPipeline
