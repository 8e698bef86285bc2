import LogPipeline.Proofs.Regex.Matching
import LogPipeline.Regex.Search

/-!
# What a search finds

A search finds a match exactly if there is one. No pair of an instruction and a position is tried twice: where a
pair that has been tried accepts, a thread that still waits accepts in fewer steps.
-/

namespace LogPipeline.Regex

/-- The program accepts from the place of a thread after a number of steps. -/
def Thread.AcceptsIn (program : Program) (text : Array Char) (steps : Nat) (thread : Thread) : Prop :=
  program.Accepts text steps thread.state thread.position

variable {program : Program} {text : Array Char} {steps : Nat} {thread other : Thread}
  {threads waiting : List Thread} {instr : Instr} {seen : Array Bool}

/-! ## Threads that go on -/

/-- A thread accepts if one of those that go on from it does. -/
theorem accepts_of_next (hi : program[thread.state]? = some instr)
    (hn : instr.next text thread = some threads) (hm : other ∈ threads) (ha : other.AcceptsIn program text steps) :
    thread.AcceptsIn program text (steps + 1) := by
  cases instr with
  | accept => cases hn
  | chars set next =>
    cases hn
    split at hm
    · split at hm
      · obtain rfl := List.mem_singleton.mp hm
        exact .chars hi ‹_› ‹_› ha
      · cases hm
    · cases hm
  | look condition next =>
    cases hn
    obtain ⟨hl, rfl⟩ : condition.At text thread.position ∧
        other = ⟨next, thread.position, thread.saves⟩ := by
      simpa [Look.At] using hm
    exact .look hi hl ha
  | split first second =>
    cases hn
    rcases List.mem_cons.mp hm with rfl | hm
    · exact .first hi ha
    · obtain rfl := List.mem_singleton.mp hm
      exact .second hi ha
  | save slot next =>
    cases hn
    obtain rfl := List.mem_singleton.mp hm
    exact .save hi ha

/-- Where a thread accepts, one of those that go on from it does, in fewer steps. -/
theorem next_of_accepts (hi : program[thread.state]? = some instr)
    (hn : instr.next text thread = some threads) (ha : thread.AcceptsIn program text steps) :
    ∃ other ∈ threads, ∃ fewer < steps, other.AcceptsIn program text fewer := by
  cases ha with
  | accept hi' =>
    cases hi.symm.trans hi'
    cases hn
  | chars hi' hc hs ha =>
    cases hi.symm.trans hi'
    simp only [Instr.next, hc, hs, if_true, Option.some.injEq] at hn
    subst hn
    exact ⟨_, List.mem_singleton_self _, _, Nat.lt_succ_self _, ha⟩
  | look hi' hl ha =>
    cases hi.symm.trans hi'
    simp only [Look.At] at hl
    simp only [Instr.next, hl, if_true, Option.some.injEq] at hn
    subst hn
    exact ⟨_, List.mem_singleton_self _, _, Nat.lt_succ_self _, ha⟩
  | first hi' ha =>
    cases hi.symm.trans hi'
    cases hn
    exact ⟨_, List.mem_cons_self, _, Nat.lt_succ_self _, ha⟩
  | second hi' ha =>
    cases hi.symm.trans hi'
    cases hn
    exact ⟨_, List.mem_cons_of_mem _ (List.mem_singleton_self _), _, Nat.lt_succ_self _, ha⟩
  | save hi' ha =>
    cases hi.symm.trans hi'
    cases hn
    exact ⟨_, List.mem_singleton_self _, _, Nat.lt_succ_self _, ha⟩

/-- At most two threads go on, and none of them leaves the text. -/
theorem next_inside (hn : instr.next text thread = some threads) (hp : thread.position ≤ text.size) :
    threads.length ≤ 2 ∧ ∀ other ∈ threads, other.position ≤ text.size := by
  cases instr with
  | accept => cases hn
  | chars set next =>
    cases hn
    cases hc : text[thread.position]? with
    | none => simp
    | some c =>
      have hlt : thread.position < text.size := (Array.getElem?_eq_some_iff.mp hc).1
      simp only
      split
      · simp only [List.length_singleton, List.mem_singleton, forall_eq]
        omega
      · simp
  | look condition next =>
    cases hn
    generalize (if thread.position = 0 then none else text[thread.position - 1]?) = before
    split <;> simp [hp]
  | split first second =>
    cases hn
    simp [hp]
  | save slot next =>
    cases hn
    simp [hp]

/-! ## Finding -/

/-- What a search finds, one of its threads has found. -/
theorem accepts_of_explore {fuel : Nat} {seen : Array Bool} {threads : List Thread}
    {saves : List (Nat × Nat)} (h : explore program text fuel seen threads = some saves) :
    ∃ thread ∈ threads, ∃ steps, thread.AcceptsIn program text steps := by
  induction fuel generalizing seen threads with
  | zero => simp [explore] at h
  | succ fuel ih =>
    cases threads with
    | nil => simp [explore] at h
    | cons thread waiting =>
      have later (h : ∃ thread ∈ waiting, ∃ steps, thread.AcceptsIn program text steps) :
          ∃ other ∈ thread :: waiting, ∃ steps, other.AcceptsIn program text steps := by
        obtain ⟨other, hm, ha⟩ := h
        exact ⟨other, List.mem_cons_of_mem _ hm, ha⟩
      simp only [explore] at h
      split at h
      · exact later (ih h)
      · split at h
        · exact later (ih h)
        · rename_i instr hi
          split at h
          · rename_i hn
            refine ⟨thread, List.mem_cons_self, 0, .accept ?_⟩
            cases instr <;> first | exact hi | simp [Instr.next] at hn
          · rename_i threads hn
            obtain ⟨other, hm, steps, ha⟩ := ih h
            rcases List.mem_append.mp hm with hm | hm
            · refine ⟨thread, List.mem_cons_self, steps + 1, ?_⟩
              exact accepts_of_next hi hn hm ha
            · exact later ⟨other, hm, steps, ha⟩

/-! ## Missing nothing -/

theorem Thread.AcceptsIn.state_lt (ha : thread.AcceptsIn program text steps) : thread.state < program.size := by
  cases ha <;> exact (Array.getElem?_eq_some_iff.mp ‹program[thread.state]? = _›).1

/-- Where an accepting thread of a search has its mark. -/
theorem Thread.AcceptsIn.place_lt (ha : thread.AcceptsIn program text steps)
    (hp : thread.position ≤ text.size) : thread.place text < program.size * (text.size + 1) := by
  have hrow := Nat.mul_le_mul_right (text.size + 1) (Nat.succ_le_of_lt ha.state_lt)
  rw [Nat.succ_mul] at hrow
  unfold Thread.place
  omega

theorem place_inj (h : thread.place text = other.place text) (hp : thread.position ≤ text.size)
    (hp' : other.position ≤ text.size) :
    thread.state = other.state ∧ thread.position = other.position := by
  have hrow (t : Thread) (hp : t.position ≤ text.size) : t.place text / (text.size + 1) = t.state := by
    unfold Thread.place
    rw [Nat.add_comm, Nat.add_mul_div_right _ _ (Nat.succ_pos _), Nat.div_eq_of_lt (Nat.lt_succ_of_le hp),
      Nat.zero_add]
  have hstate : thread.state = other.state := by rw [← hrow thread hp, ← hrow other hp', h]
  unfold Thread.place at h
  rw [hstate] at h
  exact ⟨hstate, Nat.add_left_cancel h⟩

/-- What is marked has been tried: where a marked pair accepts, a thread that waits does, in fewer steps. -/
structure Explored (program : Program) (text : Array Char) (seen : Array Bool) (waiting : List Thread) :
    Prop where
  size_eq : seen.size = program.size * (text.size + 1)
  inside : ∀ thread ∈ waiting, thread.position ≤ text.size
  later : ∀ thread : Thread, thread.position ≤ text.size → seen[thread.place text]? = some true →
    ∀ steps, thread.AcceptsIn program text steps →
      ∃ other ∈ waiting, ∃ fewer < steps, other.AcceptsIn program text fewer

namespace Explored

/-- A thread in front that is marked is not the only one left to accept. -/
theorem later_in_rest (h : Explored program text seen (thread :: waiting))
    (hseen : seen[thread.place text]? = some true) (ha : thread.AcceptsIn program text steps) :
    ∃ other ∈ waiting, ∃ fewer < steps, other.AcceptsIn program text fewer := by
  -- what accepts in fewer steps may be the thread itself again
  induction steps using Nat.strongRecOn with
  | ind steps ih =>
    obtain ⟨other, hm, fewer, hlt, ho⟩ := h.later thread (h.inside _ List.mem_cons_self) hseen steps ha
    rcases List.mem_cons.mp hm with rfl | hm
    · obtain ⟨other, hm, least, hlt', ho⟩ := ih fewer hlt ho
      exact ⟨other, hm, least, hlt'.trans hlt, ho⟩
    · exact ⟨other, hm, fewer, hlt, ho⟩

/-- A thread is left out if the others accept where it does. -/
theorem leave (h : Explored program text seen (thread :: waiting))
    (hrest : ∀ steps, thread.AcceptsIn program text steps →
      ∃ other ∈ waiting, ∃ fewer < steps, other.AcceptsIn program text fewer) :
    Explored program text seen waiting where
  size_eq := h.size_eq
  inside other hm := h.inside other (List.mem_cons_of_mem _ hm)
  later marked hp hseen steps ha := by
    obtain ⟨other, hm, fewer, hlt, ho⟩ := h.later marked hp hseen steps ha
    rcases List.mem_cons.mp hm with rfl | hm
    · obtain ⟨other, hm, least, hlt', ho⟩ := hrest fewer ho
      exact ⟨other, hm, least, hlt'.trans hlt, ho⟩
    · exact ⟨other, hm, fewer, hlt, ho⟩

/-- A thread is marked and gives way to those that go on from it. -/
theorem mark (h : Explored program text seen (thread :: waiting))
    (hi : program[thread.state]? = some instr) (hn : instr.next text thread = some threads) :
    Explored program text (seen.setIfInBounds (thread.place text) true) (threads ++ waiting) where
  size_eq := by rw [Array.size_setIfInBounds, h.size_eq]
  inside other hm := by
    rcases List.mem_append.mp hm with hm | hm
    · exact (next_inside hn (h.inside _ List.mem_cons_self)).2 other hm
    · exact h.inside other (List.mem_cons_of_mem _ hm)
  later marked hp hseen steps ha := by
    have hnext {steps : Nat} (ha : thread.AcceptsIn program text steps) :
        ∃ other ∈ threads ++ waiting, ∃ fewer < steps, other.AcceptsIn program text fewer := by
      obtain ⟨other, hm, hlater⟩ := next_of_accepts hi hn ha
      exact ⟨other, List.mem_append_left _ hm, hlater⟩
    by_cases hplace : thread.place text = marked.place text
    · obtain ⟨hstate, hposition⟩ := place_inj hplace (h.inside _ List.mem_cons_self) hp
      unfold Thread.AcceptsIn at ha
      rw [← hstate, ← hposition] at ha
      exact hnext ha
    · rw [Array.getElem?_setIfInBounds_ne hplace] at hseen
      obtain ⟨other, hm, fewer, hlt, ho⟩ := h.later marked hp hseen steps ha
      rcases List.mem_cons.mp hm with rfl | hm
      · obtain ⟨other, hm, least, hlt', ho⟩ := hnext ho
        exact ⟨other, hm, least, hlt'.trans hlt, ho⟩
      · exact ⟨other, List.mem_append_right _ hm, fewer, hlt, ho⟩

end Explored

theorem le_place_of_getElem?_eq_none (h : program[thread.state]? = none) :
    program.size * (text.size + 1) ≤ thread.place text :=
  (Nat.mul_le_mul_right _ (Array.getElem?_eq_none_iff.mp h)).trans (Nat.le_add_right _ _)

theorem unmarked_of_getD {place : Nat} (h : ¬ seen.getD place true = true) :
    ∃ hlt : place < seen.size, seen[place] = false := by
  by_cases hlt : place < seen.size
  · rw [Array.getD_eq_getD_getElem?, Array.getElem?_eq_getElem hlt] at h
    exact ⟨hlt, Bool.eq_false_iff.mpr h⟩
  · rw [Array.getD_eq_getD_getElem?, Array.getElem?_eq_none (Nat.not_lt.mp hlt)] at h
    exact absurd rfl h

theorem count_mark {place : Nat} (hlt : place < seen.size) (h : seen[place] = false) :
    (seen.setIfInBounds place true).count false + 1 = seen.count false := by
  have hpos : 0 < seen.count false := Array.count_pos_iff.mpr (h ▸ Array.getElem_mem hlt)
  rw [Array.setIfInBounds, dif_pos hlt, Array.count_set hlt, h]
  simp only [beq_self_eq_true, if_true, Bool.true_beq, Bool.false_eq_true, if_false]
  omega

/-- A search that has rounds enough and finds nothing has missed nothing. -/
theorem not_accepts_of_explore {fuel : Nat} (hx : Explored program text seen waiting)
    (hfuel : waiting.length + 2 * seen.count false < fuel)
    (h : explore program text fuel seen waiting = none) :
    ∀ thread ∈ waiting, ∀ steps, ¬ thread.AcceptsIn program text steps := by
  induction fuel generalizing seen waiting with
  | zero => exact absurd hfuel (Nat.not_lt_zero _)
  | succ fuel ih =>
    cases waiting with
    | nil => exact nofun
    | cons thread waiting =>
      have hp := hx.inside thread List.mem_cons_self
      -- if the thread is left out, the ones behind it do not accept, and so neither does it
      have hleave (hrest : ∀ steps, thread.AcceptsIn program text steps →
            ∃ other ∈ waiting, ∃ fewer < steps, other.AcceptsIn program text fewer)
          (h : explore program text fuel seen waiting = none) :
          ∀ other ∈ thread :: waiting, ∀ steps, ¬ other.AcceptsIn program text steps := by
        have hnone := ih (hx.leave hrest) (by simp only [List.length_cons] at hfuel; omega) h
        intro other hm steps ha
        rcases List.mem_cons.mp hm with rfl | hm
        · obtain ⟨other, hm, fewer, -, ho⟩ := hrest steps ha
          exact hnone other hm fewer ho
        · exact hnone other hm steps ha
      simp only [explore] at h
      split at h
      · rename_i hseen
        refine hleave (fun steps ha => hx.later_in_rest ?_ ha) h
        have hlt : thread.place text < seen.size := hx.size_eq ▸ ha.place_lt hp
        rw [Array.getD_eq_getD_getElem?, Array.getElem?_eq_getElem hlt] at hseen
        rw [Array.getElem?_eq_getElem hlt]
        exact congrArg some hseen
      · rename_i hseen
        obtain ⟨hlt, hfalse⟩ := unmarked_of_getD hseen
        split at h
        · rename_i hi
          rw [hx.size_eq] at hlt
          exact absurd hlt (Nat.not_lt_of_le (le_place_of_getElem?_eq_none hi))
        · rename_i instr hi
          split at h
          · cases h
          · rename_i threads hn
            have hcount := count_mark hlt hfalse
            have hnone := ih (hx.mark hi hn) (by
              have := (next_inside hn hp).1
              simp only [List.length_append, List.length_cons] at hfuel ⊢
              omega) h
            intro other hm steps ha
            rcases List.mem_cons.mp hm with rfl | hm
            · obtain ⟨other, hm, fewer, -, ho⟩ := next_of_accepts hi hn ha
              exact hnone other (List.mem_append_left _ hm) fewer ho
            · exact hnone other (List.mem_append_right _ hm) steps ha

/-- A search finds a match of a node exactly if the node matches somewhere in the text. -/
theorem search_isSome_iff (node : Node) (text : Array Char) :
    (search (Regex.program node).1 (Regex.program node).2 text).isSome = true ↔
      ∃ start stop, start ≤ text.size ∧ node.Matches text start stop := by
  let threads : List Thread :=
    (List.range (text.size + 1)).map fun position => ⟨(Regex.program node).1, position, []⟩
  have hthreads (thread : Thread) (hm : thread ∈ threads) :
      thread.state = (Regex.program node).1 ∧ thread.position ≤ text.size := by
    obtain ⟨position, hposition, rfl⟩ := List.mem_map.mp hm
    exact ⟨rfl, Nat.le_of_lt_succ (List.mem_range.mp hposition)⟩
  constructor
  · intro h
    obtain ⟨saves, hsearch⟩ := Option.isSome_iff_exists.mp h
    obtain ⟨thread, hm, steps, ha⟩ := accepts_of_explore hsearch
    obtain ⟨hstate, hposition⟩ := hthreads thread hm
    unfold Thread.AcceptsIn at ha
    rw [hstate] at ha
    obtain ⟨stop, hmatches⟩ := (Program.accepts_program_iff node text thread.position).mp ⟨steps, ha⟩
    exact ⟨thread.position, stop, hposition, hmatches⟩
  · rintro ⟨start, stop, hle, hmatches⟩
    obtain ⟨steps, ha⟩ := (Program.accepts_program_iff node text start).mpr ⟨stop, hmatches⟩
    rw [Option.isSome_iff_ne_none]
    intro hnone
    -- before the search nothing is marked
    let places := (Regex.program node).2.size * (text.size + 1)
    have hx : Explored (Regex.program node).2 text (Array.replicate places false) threads := {
      size_eq := Array.size_replicate
      inside := fun thread hm => (hthreads thread hm).2
      later := by
        intro thread _ hseen
        rw [Array.getElem?_replicate] at hseen
        split at hseen <;> cases hseen }
    have hfuel : threads.length + 2 * (Array.replicate places false).count false <
        2 * places + threads.length + 1 := by
      rw [Array.count_replicate_self]
      omega
    have hm : (⟨(Regex.program node).1, start, []⟩ : Thread) ∈ threads :=
      List.mem_map.mpr ⟨start, List.mem_range.mpr (Nat.lt_succ_of_le hle), rfl⟩
    exact not_accepts_of_explore hx hfuel hnone _ hm steps ha

end LogPipeline.Regex
