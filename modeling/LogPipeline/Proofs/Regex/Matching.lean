import LogPipeline.Regex.Program
import Mathlib.Order.Nat

/-!
# What an expression matches

`Node.Matches` says between which positions of a text a node matches, whatever is preferred. The program of a
node accepts from a position exactly if the node matches from there.
-/

namespace LogPipeline.Regex

/-- Whether a condition holds at a position of a text. -/
def Look.At (condition : Look) (text : Array Char) (position : Nat) : Prop :=
  condition.holds (if position = 0 then none else text[position - 1]?) text[position]? = true

/-- A number of rounds, each of which begins where the one before it ends. -/
def Rounds (round : Nat → Nat → Prop) : (count : Nat) → (start stop : Nat) → Prop
  | 0, start, stop => start = stop
  | count + 1, start, stop => ∃ middle, round start middle ∧ Rounds round count middle stop

/-- A node matches the part of a text between two positions. -/
def Node.Matches (text : Array Char) : Node → (start stop : Nat) → Prop
  | .empty, start, stop => start = stop
  | .chars set, start, stop => stop = start + 1 ∧ ∃ c, text[start]? = some c ∧ set.contains c = true
  | .look condition, start, stop => start = stop ∧ condition.At text start
  -- a greatest number below the least one leaves just the least one
  | .repeated _ least most body, start, stop => ∃ count, least ≤ count ∧
      (∀ bound, most = some bound → count ≤ max least bound) ∧ Rounds (Matches text body) count start stop
  | .group _ body, start, stop => Matches text body start stop
  | .seq a b, start, stop => ∃ middle, Matches text a start middle ∧ Matches text b middle stop
  | .alt a b, start, stop => Matches text a start stop ∨ Matches text b start stop

section Rounds

variable {round : Nat → Nat → Prop}

theorem rounds_add {a b start stop : Nat} : Rounds round (a + b) start stop ↔
    ∃ middle, Rounds round a start middle ∧ Rounds round b middle stop := by
  induction a generalizing start with
  | zero => simp [Rounds]
  | succ a ih =>
    rw [Nat.succ_add]
    simp only [Rounds, ih]
    constructor
    · rintro ⟨first, hr, middle, ha, hb⟩
      exact ⟨middle, ⟨first, hr, ha⟩, hb⟩
    · rintro ⟨middle, ⟨first, hr, ha⟩, hb⟩
      exact ⟨first, hr, middle, ha, hb⟩

theorem rounds_le {size count start stop : Nat}
    (hround : ∀ start stop, round start stop → start ≤ size → stop ≤ size)
    (h : Rounds round count start stop) (hs : start ≤ size) : stop ≤ size := by
  induction count generalizing start with
  | zero => exact h ▸ hs
  | succ count ih =>
    obtain ⟨middle, hr, h⟩ := h
    exact ih h (hround start middle hr hs)

end Rounds

namespace Node

variable {text : Array Char} {start stop : Nat}

theorem matches_append {a b : Node} : (append a b).Matches text start stop ↔
    ∃ middle, a.Matches text start middle ∧ b.Matches text middle stop := by
  induction a generalizing start with
  | empty => simp [append, Matches]
  | seq first second _ ih =>
    simp only [append, Matches, ih]
    constructor
    · rintro ⟨k, hf, middle, hs, hb⟩
      exact ⟨middle, ⟨k, hf, hs⟩, hb⟩
    · rintro ⟨middle, ⟨k, hf, hs⟩, hb⟩
      exact ⟨k, hf, middle, hs, hb⟩
  | _ => cases b <;> simp [append, Matches]

theorem matches_ofPieces_cons {a : Node} {rest : List Node} :
    (ofPieces (a :: rest)).Matches text start stop ↔
      ∃ middle, a.Matches text start middle ∧ (ofPieces rest).Matches text middle stop :=
  matches_append

/-- A match that begins inside the text does not leave it. -/
theorem Matches.stop_le {node : Node} (h : node.Matches text start stop) (hs : start ≤ text.size) :
    stop ≤ text.size := by
  induction node generalizing start stop with
  | empty => exact h ▸ hs
  | chars set =>
    obtain ⟨rfl, c, hc, -⟩ := h
    exact (Array.getElem?_eq_some_iff.mp hc).1
  | look condition => exact h.1 ▸ hs
  | repeated greedy least most body ih =>
    obtain ⟨count, -, -, hrounds⟩ := h
    exact rounds_le (fun _ _ hround => ih hround) hrounds hs
  | group index body ih => exact ih h hs
  | seq first second ihf ihs =>
    obtain ⟨middle, hf, hs'⟩ := h
    exact ihs hs' (ihf hf hs)
  | alt first second ihf ihs =>
    rcases h with h | h
    · exact ihf h hs
    · exact ihs h hs

theorem textStart_iff (hs : start ≤ text.size) : Look.textStart.At text start ↔ start = 0 := by
  constructor
  · intro h
    by_contra hne
    have hlt : start - 1 < text.size := by omega
    simp [Look.At, Look.holds, hne, hlt] at h
  · rintro rfl
    simp [Look.At, Look.holds]

theorem textEnd_iff (hs : stop ≤ text.size) : Look.textEnd.At text stop ↔ stop = text.size := by
  constructor
  · intro h
    by_contra hne
    have hlt : stop < text.size := by omega
    simp [Look.At, Look.holds, hlt] at h
  · rintro rfl
    simp [Look.At, Look.holds]

/-- Between the conditions for the two ends of the text, a node matches somewhere if it matches all of it. -/
theorem matches_between_ends_iff {node : Node} :
    (∃ start stop, start ≤ text.size ∧
      (ofPieces [.look .textStart, node, .look .textEnd]).Matches text start stop) ↔
      node.Matches text 0 text.size := by
  simp only [matches_ofPieces_cons]
  constructor
  · rintro ⟨start, stop, hs, _, ⟨rfl, hstart⟩, last, hnode, _, ⟨rfl, hend⟩, -⟩
    obtain rfl := (textStart_iff hs).mp hstart
    obtain rfl := (textEnd_iff (hnode.stop_le hs)).mp hend
    exact hnode
  · intro h
    refine ⟨0, text.size, Nat.zero_le _, 0, ⟨rfl, (textStart_iff (Nat.zero_le _)).mpr rfl⟩, ?_⟩
    exact ⟨text.size, h, text.size, ⟨rfl, (textEnd_iff (Nat.le_refl _)).mpr rfl⟩, rfl⟩

end Node

/-! ## Programs -/

/-- A program accepts from an instruction and a position after a number of steps. -/
inductive Program.Accepts (program : Program) (text : Array Char) : (steps state position : Nat) → Prop
  | accept {state position} : program[state]? = some .accept → Accepts program text 0 state position
  | chars {steps state position set next c} : program[state]? = some (.chars set next) →
      text[position]? = some c → set.contains c = true →
      Accepts program text steps next (position + 1) → Accepts program text (steps + 1) state position
  | look {steps state position condition next} : program[state]? = some (.look condition next) →
      condition.At text position → Accepts program text steps next position →
      Accepts program text (steps + 1) state position
  | first {steps state position first second} : program[state]? = some (.split first second) →
      Accepts program text steps first position → Accepts program text (steps + 1) state position
  | second {steps state position first second} : program[state]? = some (.split first second) →
      Accepts program text steps second position → Accepts program text (steps + 1) state position
  | save {steps state position slot next} : program[state]? = some (.save slot next) →
      Accepts program text steps next position → Accepts program text (steps + 1) state position

namespace Program

variable {program final : Program} {text : Array Char} {steps state position : Nat}

/-- A program has the instructions of another one from a place on. -/
def HasFrom (final program : Program) (place : Nat) : Prop :=
  ∀ state, place ≤ state → state < program.size → final[state]? = program[state]?

theorem accepts_split {first second : Nat} (h : final[state]? = some (.split first second)) :
    final.Accepts text steps state position ↔ ∃ fewer, steps = fewer + 1 ∧
      (final.Accepts text fewer first position ∨ final.Accepts text fewer second position) := by
  constructor
  · intro ha
    cases ha with
    | first hs ha =>
      cases h.symm.trans hs
      exact ⟨_, rfl, .inl ha⟩
    | second hs ha =>
      cases h.symm.trans hs
      exact ⟨_, rfl, .inr ha⟩
    | _ hs => cases h.symm.trans hs
  · rintro ⟨fewer, rfl, ha | ha⟩
    · exact .first h ha
    · exact .second h ha

theorem accepts_choice {greedy : Bool} {body next : Nat}
    (h : final[state]? = some (choice greedy body next)) :
    final.Accepts text steps state position ↔ ∃ fewer, steps = fewer + 1 ∧
      (final.Accepts text fewer body position ∨ final.Accepts text fewer next position) := by
  cases greedy with
  | true => exact accepts_split h
  | false =>
    have hsplit : final.Accepts text steps state position ↔ _ := accepts_split h
    simpa only [or_comm] using hsplit

theorem HasFrom.mono {place other : Nat} (h : final.HasFrom program place) (hp : place ≤ other) :
    final.HasFrom program other :=
  fun state hs hsize => h state (hp.trans hs) hsize

/-- What is emitted makes rounds and goes on to the next instruction. A later part may build on what it adds,
but leaves all of it as it is. -/
structure Emits (text : Array Char) (emit : Nat → Program → Nat × Program) (round : Nat → Nat → Prop) :
    Prop where
  size_le : ∀ next program, program.size ≤ (emit next program).2.size
  keeps : ∀ next (program : Program) state, state < program.size →
    (emit next program).2[state]? = program[state]?
  sound : ∀ next program final, HasFrom final (emit next program).2 program.size →
    ∀ steps start, final.Accepts text steps (emit next program).1 start →
      ∃ fewer stop, fewer ≤ steps ∧ round start stop ∧ final.Accepts text fewer next stop
  complete : ∀ next program final, HasFrom final (emit next program).2 program.size →
    ∀ start stop, round start stop → ∀ steps, final.Accepts text steps next stop →
      ∃ more, final.Accepts text more (emit next program).1 start

namespace Emits

variable {emit other : Nat → Program → Nat × Program} {round round' : Nat → Nat → Prop}

theorem congr (h : Emits text emit round) (hr : ∀ start stop, round start stop ↔ round' start stop) :
    Emits text emit round' where
  size_le := h.size_le
  keeps := h.keeps
  sound next program final hf steps start ha := by
    obtain ⟨fewer, stop, hle, hround, ha⟩ := h.sound next program final hf steps start ha
    exact ⟨fewer, stop, hle, (hr start stop).mp hround, ha⟩
  complete next program final hf start stop hround :=
    h.complete next program final hf start stop ((hr start stop).mpr hround)

theorem nothing : Emits text (fun next program => (next, program)) (· = ·) where
  size_le _ _ := le_rfl
  keeps _ _ _ _ := rfl
  sound _ _ _ _ steps start ha := ⟨steps, start, le_rfl, rfl, ha⟩
  complete := by
    rintro _ _ _ _ start _ rfl steps ha
    exact ⟨steps, ha⟩

theorem getElem?_push_of_lt {instr : Instr} (h : state < program.size) :
    (program.push instr)[state]? = program[state]? := by
  rw [Array.getElem?_push, if_neg (Nat.ne_of_lt h)]

theorem of_hasFrom_add {instr : Instr} (h : final.HasFrom (program.add instr).2 program.size) :
    final[(program.add instr).1]? = some instr := by
  have := h program.size le_rfl (by simp [add])
  simpa [add] using this

/-- A single instruction. -/
theorem instr {instr : Nat → Instr}
    (hsound : ∀ {final : Program} {next state : Nat}, final[state]? = some (instr next) →
      ∀ steps start, final.Accepts text steps state start →
        ∃ fewer stop, fewer ≤ steps ∧ round start stop ∧ final.Accepts text fewer next stop)
    (hcomplete : ∀ {final : Program} {next state : Nat}, final[state]? = some (instr next) →
      ∀ start stop, round start stop → ∀ steps, final.Accepts text steps next stop →
        ∃ more, final.Accepts text more state start) :
    Emits text (fun next program => program.add (instr next)) round where
  size_le _ _ := by simp [add]
  keeps _ _ _ h := getElem?_push_of_lt h
  sound _ _ _ hf := hsound (of_hasFrom_add hf)
  complete _ _ _ hf := hcomplete (of_hasFrom_add hf)

theorem chars (set : CharSet) : Emits text (fun next program => program.add (.chars set next))
    ((Node.chars set).Matches text) := by
  refine instr (fun hs steps start ha => ?_) (fun hs start stop hm steps ha => ?_)
  · cases ha with
    | chars hi hc hm ha =>
      cases hs.symm.trans hi
      exact ⟨_, _, Nat.le_succ _, ⟨rfl, _, hc, hm⟩, ha⟩
    | _ hi => cases hs.symm.trans hi
  · obtain ⟨rfl, c, hc, hm⟩ := hm
    exact ⟨_, .chars hs hc hm ha⟩

theorem look (condition : Look) : Emits text (fun next program => program.add (.look condition next))
    ((Node.look condition).Matches text) := by
  refine instr (fun hs steps start ha => ?_) (fun hs start stop hm steps ha => ?_)
  · cases ha with
    | look hi hc ha =>
      cases hs.symm.trans hi
      exact ⟨_, _, Nat.le_succ _, ⟨rfl, hc⟩, ha⟩
    | _ hi => cases hs.symm.trans hi
  · obtain ⟨rfl, hc⟩ := hm
    exact ⟨_, .look hs hc ha⟩

theorem save (slot : Nat) : Emits text (fun next program => program.add (.save slot next)) (· = ·) := by
  refine instr (fun hs steps start ha => ?_) (fun hs start stop hm steps ha => ?_)
  · cases ha with
    | save hi ha =>
      cases hs.symm.trans hi
      exact ⟨_, _, Nat.le_succ _, rfl, ha⟩
    | _ hi => cases hs.symm.trans hi
  · subst hm
    exact ⟨_, .save hs ha⟩

/-- One after the other; the second one is emitted first. -/
theorem andThen (h : Emits text emit round) (h' : Emits text other round') :
    Emits text (fun next program => emit (other next program).1 (other next program).2)
      (fun start stop => ∃ middle, round start middle ∧ round' middle stop) where
  size_le next program := (h'.size_le next program).trans (h.size_le _ _)
  keeps next program state hs :=
    (h.keeps _ _ state (hs.trans_le (h'.size_le next program))).trans (h'.keeps next program state hs)
  sound next program final hf steps start ha := by
    have hsize := h'.size_le next program
    obtain ⟨fewer, middle, hle, hround, ha⟩ := h.sound _ _ final (hf.mono hsize) steps start ha
    obtain ⟨least, stop, hle', hround', ha⟩ := h'.sound next program final (fun state hs hlt =>
      (hf state hs (hlt.trans_le (h.size_le _ _))).trans (h.keeps _ _ state hlt)) fewer middle ha
    exact ⟨least, stop, hle'.trans hle, ⟨middle, hround, hround'⟩, ha⟩
  complete next program final hf start stop hround steps ha := by
    have hsize := h'.size_le next program
    obtain ⟨middle, hround, hround'⟩ := hround
    obtain ⟨more, ha⟩ := h'.complete next program final (fun state hs hlt =>
      (hf state hs (hlt.trans_le (h.size_le _ _))).trans (h.keeps _ _ state hlt)) middle stop hround' steps ha
    exact h.complete _ _ final (hf.mono hsize) start middle hround more ha

theorem hasFrom_of_keeps {place : Nat} {code : Program} (hf : final.HasFrom code place)
    (hsize : program.size ≤ code.size) (hk : ∀ state, state < program.size → code[state]? = program[state]?) :
    final.HasFrom program place :=
  fun state hs hlt => (hf state hs (hlt.trans_le hsize)).trans (hk state hlt)

/-- A choice between what is emitted last and another way. -/
theorem orElse (h : Emits text emit round) (h' : Emits text other round') (greedy : Bool) :
    Emits text (fun next program =>
        (emit next (other next program).2).2.add
          (choice greedy (emit next (other next program).2).1 (other next program).1))
      (fun start stop => round start stop ∨ round' start stop) where
  size_le next program := by
    have := (h'.size_le next program).trans (h.size_le next _)
    simp only [add, Array.size_push]
    omega
  keeps next program state hs := by
    have hlt := hs.trans_le (h'.size_le next program)
    exact (getElem?_push_of_lt (hlt.trans_le (h.size_le next _))).trans
      ((h.keeps next _ state hlt).trans (h'.keeps next program state hs))
  sound next program final hf steps start ha := by
    have hsize := h'.size_le next program
    have hsize' := h.size_le next (other next program).2
    have hfirst := hasFrom_of_keeps hf (by simp [add]) (fun state hs => getElem?_push_of_lt hs)
    have hsecond := hasFrom_of_keeps hfirst hsize' (h.keeps next _)
    obtain ⟨fewer, rfl, ha | ha⟩ := (accepts_choice (of_hasFrom_add (hf.mono (hsize.trans hsize')))).mp ha
    · obtain ⟨least, stop, hle, hround, ha⟩ := h.sound _ _ final (hfirst.mono hsize) fewer start ha
      exact ⟨least, stop, Nat.le_succ_of_le hle, .inl hround, ha⟩
    · obtain ⟨least, stop, hle, hround, ha⟩ := h'.sound _ _ final hsecond fewer start ha
      exact ⟨least, stop, Nat.le_succ_of_le hle, .inr hround, ha⟩
  complete next program final hf start stop hround steps ha := by
    have hsize := h'.size_le next program
    have hsize' := h.size_le next (other next program).2
    have hfirst := hasFrom_of_keeps hf (by simp [add]) (fun state hs => getElem?_push_of_lt hs)
    have hsecond := hasFrom_of_keeps hfirst hsize' (h.keeps next _)
    have hchoice := of_hasFrom_add (hf.mono (hsize.trans hsize'))
    rcases hround with hround | hround
    · obtain ⟨more, ha⟩ := h.complete _ _ final (hfirst.mono hsize) start stop hround steps ha
      exact ⟨more + 1, (accepts_choice hchoice).mpr ⟨more, rfl, .inl ha⟩⟩
    · obtain ⟨more, ha⟩ := h'.complete _ _ final hsecond start stop hround steps ha
      exact ⟨more + 1, (accepts_choice hchoice).mpr ⟨more, rfl, .inr ha⟩⟩

/-! ### Repetitions -/

theorem times (h : Emits text emit round) (count : Nat) :
    Emits text (fun next program => Program.times emit next count program) (Rounds round count) := by
  induction count with
  | zero => exact nothing
  | succ count ih => exact h.andThen ih

theorem optional (h : Emits text emit round) (greedy : Bool) (count : Nat) :
    Emits text (fun next program => Program.optional emit greedy next count program)
      (fun start stop => ∃ rounds, rounds ≤ count ∧ Rounds round rounds start stop) := by
  induction count with
  | zero => exact nothing.congr fun start stop => by simp [Rounds]
  | succ count ih =>
    refine ((h.andThen ih).orElse nothing greedy).congr fun start stop => ?_
    constructor
    · rintro (⟨middle, hround, rounds, hle, hrounds⟩ | rfl)
      · exact ⟨rounds + 1, by omega, middle, hround, hrounds⟩
      · exact ⟨0, Nat.zero_le _, rfl⟩
    · rintro ⟨rounds | rounds, hle, hrounds⟩
      · exact .inr hrounds
      · obtain ⟨middle, hround, hrounds⟩ := hrounds
        exact .inl ⟨middle, hround, rounds, by omega, hrounds⟩

/-- The body of a loop, which goes on to the choice to run it again, and that choice. -/
theorem loop_spec (h : Emits text emit round) (greedy : Bool) (next : Nat) (program : Program) :
    let code := Program.loop emit greedy next program
    program.size ≤ code.2.size ∧
      (∀ state, state < program.size → code.2[state]? = program[state]?) ∧
      ∀ final, HasFrom final code.2 program.size →
        final[code.1.2]? = some (choice greedy code.1.1 next) ∧
        (∀ steps start, final.Accepts text steps code.1.1 start →
          ∃ fewer stop, fewer ≤ steps ∧ round start stop ∧ final.Accepts text fewer code.1.2 stop) ∧
        ∀ start stop, round start stop → ∀ steps, final.Accepts text steps code.1.2 stop →
          ∃ more, final.Accepts text more code.1.1 start := by
  intro code
  -- the turning point is a placeholder while the body is emitted
  let started := program.push .accept
  let body := emit program.size started
  have hcode : code = ((body.1, program.size),
      body.2.setIfInBounds program.size (choice greedy body.1 next)) := rfl
  have hsize : program.size < body.2.size :=
    Nat.lt_of_lt_of_le (by simp [started]) (h.size_le program.size started)
  rw [hcode]
  refine ⟨by simpa using hsize.le, fun state hs => ?_, fun final hf => ?_⟩
  · rw [Array.getElem?_setIfInBounds_ne (Nat.ne_of_gt hs)]
    exact (h.keeps _ started state (by simp [started]; omega)).trans (getElem?_push_of_lt hs)
  · have hbody : final.HasFrom body.2 started.size := fun state hs hlt => by
      have hs : program.size + 1 ≤ state := by simpa [started] using hs
      refine (hf state (by omega) (by simpa using hlt)).trans ?_
      exact Array.getElem?_setIfInBounds_ne (by omega)
    refine ⟨?_, h.sound _ started final hbody, h.complete _ started final hbody⟩
    refine (hf program.size le_rfl (by simpa using hsize)).trans ?_
    exact Array.getElem?_setIfInBounds_self_of_lt hsize

/-- From its turning point a loop makes any number of rounds. -/
theorem loop (h : Emits text emit round) (greedy : Bool) :
    Emits text (fun next program =>
        let code := Program.loop emit greedy next program
        (code.1.2, code.2))
      (fun start stop => ∃ count, Rounds round count start stop) where
  size_le next program := (h.loop_spec greedy next program).1
  keeps next program := (h.loop_spec greedy next program).2.1
  sound next program final hf steps start ha := by
    obtain ⟨hturn, hsound, -⟩ := (h.loop_spec greedy next program).2.2 final hf
    -- a round leaves fewer steps to accept in
    induction steps using Nat.strong_induction_on generalizing start with
    | _ steps ih =>
      obtain ⟨fewer, rfl, ha | ha⟩ := (accepts_choice hturn).mp ha
      · obtain ⟨least, middle, hle, hround, ha⟩ := hsound fewer start ha
        obtain ⟨last, stop, hlast, ⟨count, hrounds⟩, ha⟩ := ih least (by omega) middle ha
        exact ⟨last, stop, by omega, ⟨count + 1, middle, hround, hrounds⟩, ha⟩
      · exact ⟨fewer, start, by omega, ⟨0, rfl⟩, ha⟩
  complete next program final hf start stop hround steps ha := by
    obtain ⟨hturn, -, hcomplete⟩ := (h.loop_spec greedy next program).2.2 final hf
    obtain ⟨count, hrounds⟩ := hround
    induction count generalizing start with
    | zero =>
      obtain rfl : start = stop := hrounds
      exact ⟨steps + 1, (accepts_choice hturn).mpr ⟨steps, rfl, .inr ha⟩⟩
    | succ count ih =>
      obtain ⟨middle, hround, hrounds⟩ := hrounds
      obtain ⟨more, ha⟩ := ih middle hrounds
      obtain ⟨more, ha⟩ := hcomplete start middle hround more ha
      exact ⟨more + 1, (accepts_choice hturn).mpr ⟨more, rfl, .inl ha⟩⟩

/-- From its body a loop makes at least one round. -/
theorem loopBody (h : Emits text emit round) (greedy : Bool) :
    Emits text (fun next program =>
        let code := Program.loop emit greedy next program
        (code.1.1, code.2))
      (fun start stop => ∃ count, Rounds round (count + 1) start stop) where
  size_le next program := (h.loop_spec greedy next program).1
  keeps next program := (h.loop_spec greedy next program).2.1
  sound next program final hf steps start ha := by
    obtain ⟨-, hsound, -⟩ := (h.loop_spec greedy next program).2.2 final hf
    obtain ⟨fewer, middle, hle, hround, ha⟩ := hsound steps start ha
    obtain ⟨least, stop, hle', ⟨count, hrounds⟩, ha⟩ :=
      (h.loop greedy).sound next program final hf fewer middle ha
    exact ⟨least, stop, hle'.trans hle, ⟨count, middle, hround, hrounds⟩, ha⟩
  complete next program final hf start stop hround steps ha := by
    obtain ⟨-, -, hcomplete⟩ := (h.loop_spec greedy next program).2.2 final hf
    obtain ⟨count, middle, hround, hrounds⟩ := hround
    obtain ⟨more, ha⟩ := (h.loop greedy).complete next program final hf middle stop ⟨count, hrounds⟩ steps ha
    exact hcomplete start middle hround more ha

/-! ### Nodes -/

theorem rounds_bounded {least most start stop : Nat} :
    (∃ middle, Rounds round least start middle ∧
      ∃ rounds, rounds ≤ most - least ∧ Rounds round rounds middle stop) ↔
    ∃ count, least ≤ count ∧ (∀ bound, some most = some bound → count ≤ max least bound) ∧
      Rounds round count start stop := by
  constructor
  · rintro ⟨middle, hleast, rounds, hle, hrounds⟩
    refine ⟨least + rounds, by omega, ?_, rounds_add.mpr ⟨middle, hleast, hrounds⟩⟩
    rintro bound ⟨⟩
    omega
  · rintro ⟨count, hle, hmost, hrounds⟩
    obtain ⟨rounds, rfl⟩ := Nat.exists_eq_add_of_le hle
    obtain ⟨middle, hleast, hrounds⟩ := rounds_add.mp hrounds
    have := hmost most rfl
    exact ⟨middle, hleast, rounds, by omega, hrounds⟩

theorem rounds_unbounded {least start stop : Nat} :
    (∃ middle, Rounds round least start middle ∧ ∃ count, Rounds round (count + 1) middle stop) ↔
    ∃ count, least + 1 ≤ count ∧ (∀ bound, (none : Option Nat) = some bound → count ≤ max (least + 1) bound) ∧
      Rounds round count start stop := by
  constructor
  · rintro ⟨middle, hleast, count, hrounds⟩
    exact ⟨least + (count + 1), by omega, nofun, rounds_add.mpr ⟨middle, hleast, hrounds⟩⟩
  · rintro ⟨count, hle, -, hrounds⟩
    obtain ⟨rounds, rfl⟩ := Nat.exists_eq_add_of_le hle
    rw [Nat.add_assoc, Nat.add_comm 1] at hrounds
    obtain ⟨middle, hleast, hrounds⟩ := rounds_add.mp hrounds
    exact ⟨middle, hleast, rounds, hrounds⟩

theorem rounds_any {start stop : Nat} : (∃ count, Rounds round count start stop) ↔
    ∃ count, 0 ≤ count ∧ (∀ bound, (none : Option Nat) = some bound → count ≤ max 0 bound) ∧
      Rounds round count start stop := by
  simp

/-- The code of a node makes its matches. -/
theorem node (text : Array Char) (node : Node) :
    Emits text (fun next program => Program.emit node next program) (node.Matches text) := by
  induction node with
  | empty => exact nothing
  | chars set => exact chars set
  | look condition => exact look condition
  | group index body ih =>
    refine ((save (2 * index)).andThen (ih.andThen (save (2 * index + 1)))).congr fun start stop => ?_
    simp [Node.Matches]
  | seq a b iha ihb => exact iha.andThen ihb
  | alt a b iha ihb => exact iha.orElse ihb true
  | repeated greedy least most body ih =>
    cases most with
    | some most =>
      exact ((ih.times least).andThen (ih.optional greedy (most - least))).congr fun start stop =>
        rounds_bounded
    | none =>
      cases least with
      | succ least =>
        exact ((ih.times least).andThen (ih.loopBody greedy)).congr fun start stop => rounds_unbounded
      | zero =>
        by_cases hb : body.neverEmpty = true
        · have hcode : (fun next program => Program.emit (.repeated greedy 0 none body) next program) =
              fun next program =>
                let code := Program.loop (Program.emit body) greedy next program
                (code.1.2, code.2) := by
            funext next program
            simp [Program.emit, hb]
          rw [hcode]
          exact (ih.loop greedy).congr fun start stop => rounds_any
        · have hcode : (fun next program => Program.emit (.repeated greedy 0 none body) next program) =
              fun next program =>
                let code := Program.loop (Program.emit body) greedy next program
                code.2.add (choice greedy code.1.1 next) := by
            funext next program
            simp [Program.emit, hb]
          rw [hcode]
          refine ((ih.loopBody greedy).orElse nothing greedy).congr fun start stop => ?_
          refine Iff.trans ⟨?_, ?_⟩ rounds_any
          · rintro (⟨count, hrounds⟩ | rfl)
            · exact ⟨count + 1, hrounds⟩
            · exact ⟨0, rfl⟩
          · rintro ⟨count | count, hrounds⟩
            · exact .inr hrounds
            · exact .inl ⟨count, hrounds⟩

end Emits

/-- The program of a node accepts from where the node matches. -/
theorem accepts_program_iff (node : Node) (text : Array Char) (start : Nat) :
    (∃ steps, (Regex.program node).2.Accepts text steps (Regex.program node).1 start) ↔
      ∃ stop, node.Matches text start stop := by
  have hemits := Emits.node text node
  have haccept : (Regex.program node).2[0]? = some .accept := hemits.keeps 0 #[.accept] 0 (by simp)
  have hself : HasFrom (Regex.program node).2 (Program.emit node 0 #[.accept]).2 1 := fun _ _ _ => rfl
  constructor
  · rintro ⟨steps, ha⟩
    obtain ⟨-, stop, -, hm, -⟩ := hemits.sound 0 #[.accept] _ hself steps start ha
    exact ⟨stop, hm⟩
  · rintro ⟨stop, hm⟩
    exact hemits.complete 0 #[.accept] _ hself start stop hm 0 (.accept haccept)

end Program

end LogPipeline.Regex
