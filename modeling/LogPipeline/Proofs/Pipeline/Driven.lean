import LogPipeline.Proofs.Input.Reading
import LogPipeline.Proofs.Pipeline.Shutdown

/-!
# Runs as drives

The input of a drive may do anything. Here are the runs of an input that reads events from a list: every move
of such a run is something that happens in a drive, so that what is said of all drives is said of these runs.
-/

namespace LogPipeline

/-- All that a reader does to its channel is to send to it, or to give its sender up. -/
theorem Input.channel_of_step {input next : Input} {channel channel' : Channel}
    (h : input.step channel = some (next, channel')) :
    channel' = channel ∨ channel' = channel.dropSender ∨
      ∃ event, channel.send? event = some (.accepted channel') := by
  cases acts_of_step h with
  | take _ _ => exact .inl rfl
  | pass _ _ => exact .inl rfl
  | send _ hopen hroom => exact .inr (.inr ⟨_, Channel.send?_eq_accepted_iff.mpr ⟨hopen, hroom, rfl⟩⟩)
  | finish _ => exact .inr (.inl rfl)

namespace Run

/-- Runs of which the same can be seen from outside. -/
structure Like (a b : Run) : Prop where
  pipeline : a.pipeline = b.pipeline
  phase : a.phase = b.phase

variable {a b next : Run}

theorem Like.isReading (h : a.Like b) : a.isReading = b.isReading := by
  simp only [Run.isReading, h.phase]

theorem Like.beginClosing (h : a.Like b) (read : Option (Except LifecycleError Nat)) :
    (a.beginClosing read).Like (b.beginClosing read) := by
  unfold Run.beginClosing
  rw [h.pipeline]
  split
  · exact ⟨rfl, rfl⟩
  · split
    · exact ⟨rfl, rfl⟩
    · exact ⟨rfl, rfl⟩

theorem Like.proceed? (h : a.Like b) (hb : b.proceed? = some next) :
    ∃ next', a.proceed? = some next' ∧ next'.Like next := by
  unfold Run.proceed? at hb ⊢
  rw [h.pipeline, h.phase]
  cases hp : b.phase with
  | closingFilters read =>
    simp only [hp] at hb ⊢
    split at hb
    · rename_i hd
      cases hb
      rw [if_pos hd]
      refine ⟨_, rfl, ?_⟩
      split <;> exact ⟨rfl, rfl⟩
    · cases hb
  | closingOutputs read stats =>
    simp only [hp] at hb ⊢
    split at hb
    · rename_i hd
      cases hb
      rw [if_pos hd]
      exact ⟨_, rfl, rfl, rfl⟩
    · cases hb
  | _ => simp [hp] at hb

end Run

namespace Drive

variable {drive : Drive} {run : Run}

/-- A move of a run happens in a drive that is like it. -/
theorem happens_of_move (h : drive.run.Like run) (move : Move) :
    ∃ happenings, (drive.follow happenings).run.Like (run.move move) := by
  unfold Run.move
  cases hm : run.move? move with
  | none => exact ⟨[], h⟩
  | some next =>
    simp only [Option.getD_some]
    cases move with
    | read =>
      obtain ⟨⟨input, inbound⟩, hstep, rfl⟩ := Option.map_eq_some_iff.mp hm
      rcases Input.channel_of_step hstep with rfl | rfl | ⟨event, hsend⟩
      · exact ⟨[], h.pipeline, h.phase⟩
      · refine ⟨[.dropSender], ?_, h.phase⟩
        simp [follow, step, withInbound, withPipeline, h.pipeline]
      · refine ⟨[.send event], ?_⟩
        simp only [follow, List.foldl_cons, List.foldl_nil, step, h.pipeline, hsend]
        exact ⟨by simp [withInbound, withPipeline, h.pipeline], h.phase⟩
    | filter index =>
      obtain ⟨pipeline, hp, rfl⟩ := Option.map_eq_some_iff.mp hm
      refine ⟨[.filter index], ?_⟩
      simp only [follow, List.foldl_cons, List.foldl_nil, step, h.pipeline, hp]
      exact ⟨rfl, h.phase⟩
    | output index =>
      obtain ⟨pipeline, hp, rfl⟩ := Option.map_eq_some_iff.mp hm
      refine ⟨[.output index], ?_⟩
      simp only [follow, List.foldl_cons, List.foldl_nil, step, h.pipeline, hp]
      exact ⟨rfl, h.phase⟩
    | request =>
      -- a drive keeps no account of requests: it may turn to closing at any time
      cases hm
      exact ⟨[], h.pipeline, h.phase⟩
    | interrupt =>
      simp only [Run.move?] at hm
      split at hm
      · rename_i hnow
        cases hm
        have hr : drive.run.isReading = true := h.isReading.trans (Bool.and_eq_true_iff.mp hnow).1
        refine ⟨[.turn .interrupted], ?_⟩
        simp only [follow, List.foldl_cons, List.foldl_nil, step, hr, ↓reduceIte]
        have hlike : drive.run.Like { run with input := run.input.stop } := ⟨h.pipeline, h.phase⟩
        exact hlike.beginClosing none
      · cases hm
    | finish =>
      simp only [Run.move?] at hm
      split at hm
      · rename_i hnow
        cases hm
        have hr : drive.run.isReading = true := h.isReading.trans (Bool.and_eq_true_iff.mp hnow).1
        refine ⟨[.turn (.waited run.input.wait.2)], ?_⟩
        simp only [follow, List.foldl_cons, List.foldl_nil, step, hr, ↓reduceIte]
        have hlike : drive.run.Like { run with input := run.input.wait.1 } := ⟨h.pipeline, h.phase⟩
        exact hlike.beginClosing (some run.input.wait.2)
      · cases hm
    | proceed =>
      obtain ⟨next', hp, hlike⟩ := h.proceed? hm
      refine ⟨[.proceed], ?_⟩
      simp only [follow, List.foldl_cons, List.foldl_nil, step, hp]
      exact hlike

theorem happens_of_follow (h : drive.run.Like run) (schedule : List Move) :
    ∃ happenings, (drive.follow happenings).run.Like (run.follow schedule) := by
  induction schedule generalizing drive run with
  | nil => exact ⟨[], h⟩
  | cons move rest ih =>
    obtain ⟨first, hfirst⟩ := happens_of_move h move
    obtain ⟨later, hlater⟩ := ih hfirst
    refine ⟨first ++ later, ?_⟩
    simp only [follow, List.foldl_append]
    exact hlater

/-- An input that cannot be started gives up its sender. -/
theorem happens_of_begin (pipeline : Pipeline) (input : Input) :
    ∃ happenings, ((begin pipeline input).follow happenings).run.Like (Run.begin pipeline input) := by
  unfold begin Run.begin
  cases hs : pipeline.start with
  | mk started result =>
    cases result with
    | error e => exact ⟨[], rfl, rfl⟩
    | ok begun =>
      cases begun
      cases hi : input.start started.inbound with
      | ok begun =>
        -- an input that can be started has taken a sender, as that of a drive has from the beginning
        have hinbound : begun.2 = started.inbound.addSenders 1 := (Input.of_start hi).2.2
        refine ⟨[], ?_, ?_⟩
        · simp [follow, hi, hinbound]
        · simp [follow, hi]
      | error e =>
        have hinbound : (started.inbound.addSenders 1).dropSender = started.inbound := rfl
        refine ⟨[.dropSender, .turn (.unstarted e)], ?_⟩
        simp only [follow, List.foldl_cons, List.foldl_nil, step, withInbound, withPipeline, hinbound,
          Run.isReading, ↓reduceIte, hi]
        exact Run.Like.beginClosing ⟨rfl, rfl⟩ _

/-- A run that goes on as long as it can follows a schedule. -/
theorem settle_follows (run : Run) : ∃ schedule, run.settle = run.follow schedule := by
  unfold Run.settle
  generalize run.remaining = limit
  induction limit generalizing run with
  | zero => exact ⟨[], rfl⟩
  | succ limit ih =>
    simp only [Run.settleWithin]
    split
    · rename_i next hm
      obtain ⟨move, -, hm⟩ := List.exists_of_findSome?_eq_some hm
      obtain ⟨schedule, hs⟩ := ih next
      refine ⟨move :: schedule, hs.trans ?_⟩
      simp [Run.follow, Run.move, hm]
    · exact ⟨[], rfl⟩

/-- To run a pipeline on an input, to the end of the input or to a request to stop, is to drive it. -/
theorem happens_of_run (pipeline : Pipeline) (input : Input) :
    (∃ happenings, ((begin pipeline input).follow happenings).run.Like (pipeline.run input)) ∧
      ∃ happenings, ((begin pipeline input).follow happenings).run.Like
        (pipeline.runInterrupted input) := by
  have hfollow (schedule : List Move) : ∃ happenings,
      ((begin pipeline input).follow happenings).run.Like ((Run.begin pipeline input).follow schedule) := by
    obtain ⟨first, hfirst⟩ := happens_of_begin pipeline input
    obtain ⟨later, hlater⟩ := happens_of_follow hfirst schedule
    exact ⟨first ++ later, by simpa only [follow, List.foldl_append] using hlater⟩
  obtain ⟨schedule, hs⟩ := settle_follows (Run.begin pipeline input)
  refine ⟨by simpa only [Pipeline.run, hs] using hfollow schedule, ?_⟩
  unfold Pipeline.runInterrupted Pipeline.run
  rw [hs]
  dsimp only
  split
  · exact hfollow schedule
  · obtain ⟨later, hl⟩ := settle_follows (((Run.begin pipeline input).follow schedule).move .request)
    rw [hl]
    have := hfollow (schedule ++ .request :: later)
    simpa only [Run.follow, List.foldl_append, List.foldl_cons] using this

end Drive

end LogPipeline
