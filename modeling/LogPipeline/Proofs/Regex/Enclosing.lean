import LogPipeline.Proofs.Regex.Searching

/-!
# A group around a whole text

Where a search has found a match, what holds of a thread at the start and of every thread that goes on from one holds
of the thread that has accepted. So a program that notes nothing but where one group opens at the beginning of the
text and closes at its end finds the whole text in this group.
-/

namespace LogPipeline.Regex

variable {program : Program} {text : Array Char} {instr : Instr} {thread other : Thread}
  {threads waiting : List Thread} {saves : List (Nat × Nat)} {index inner opening : Nat}

/-- A thread goes on from an instruction. -/
inductive Instr.Leads (text : Array Char) (thread : Thread) : Instr → Thread → Prop
  | chars {set : CharSet} {next : Nat} (hp : thread.position < text.size) :
      Leads text thread (.chars set next) ⟨next, thread.position + 1, thread.saves⟩
  | look {condition : Look} {next : Nat} (h : condition.At text thread.position) :
      Leads text thread (.look condition next) ⟨next, thread.position, thread.saves⟩
  | first {first second : Nat} : Leads text thread (.split first second) ⟨first, thread.position, thread.saves⟩
  | second {first second : Nat} : Leads text thread (.split first second) ⟨second, thread.position, thread.saves⟩
  | save {slot next : Nat} :
      Leads text thread (.save slot next) ⟨next, thread.position, (slot, thread.position) :: thread.saves⟩

theorem leads_of_next (hn : instr.next text thread = some threads) (hm : other ∈ threads) :
    instr.Leads text thread other := by
  cases instr with
  | accept => cases hn
  | chars set next =>
    cases hn
    split at hm
    · rename_i c hc
      split at hm
      · obtain rfl := List.mem_singleton.mp hm
        exact .chars (Array.getElem?_eq_some_iff.mp hc).1
      · cases hm
    · cases hm
  | look condition next =>
    cases hn
    obtain ⟨hl, rfl⟩ : condition.At text thread.position ∧ other = ⟨next, thread.position, thread.saves⟩ := by
      simpa [Look.At] using hm
    exact .look hl
  | split first second =>
    cases hn
    rcases List.mem_cons.mp hm with rfl | hm
    · exact .first
    · obtain rfl := List.mem_singleton.mp hm
      exact .second
  | save slot next =>
    cases hn
    obtain rfl := List.mem_singleton.mp hm
    exact .save

/-- What is kept from a thread to those that go on from it holds where a search ends. -/
theorem explore_keeps {Inv : Thread → Prop} {fuel : Nat} {seen : Array Bool}
    (hleads : ∀ thread instr other, Inv thread → program[thread.state]? = some instr →
      instr.Leads text thread other → Inv other)
    (h : explore program text fuel seen waiting = some saves) (hw : ∀ thread ∈ waiting, Inv thread) :
    ∃ thread, Inv thread ∧ program[thread.state]? = some .accept ∧ thread.saves = saves := by
  induction fuel generalizing seen waiting with
  | zero => simp [explore] at h
  | succ fuel ih =>
    cases waiting with
    | nil => simp [explore] at h
    | cons thread waiting =>
      obtain ⟨hthread, hwaiting⟩ := List.forall_mem_cons.mp hw
      simp only [explore] at h
      split at h
      · exact ih h hwaiting
      split at h
      · exact ih h hwaiting
      rename_i instr hi
      split at h
      · rename_i hn
        cases h
        refine ⟨thread, hthread, ?_, rfl⟩
        cases instr <;> first | exact hi | simp [Instr.next] at hn
      · rename_i threads hn
        refine ih h (List.forall_mem_append.mpr ⟨fun other hm => ?_, hwaiting⟩)
        exact hleads thread instr other hthread hi (leads_of_next hn hm)

/-! ## Programs around a group -/

/-- An instruction notes nothing and goes on to places from the closing of a group up to its opening. -/
def Instr.staysBefore (opening : Nat) : Instr → Bool
  | .chars _ next | .look _ next => 2 ≤ next && next < opening
  | .split first second => (2 ≤ first && first < opening) && (2 ≤ second && second < opening)
  | .accept | .save _ _ => false

/-- From the instruction behind `opening`, a program goes from the beginning of the text through a group to its end. -/
structure Program.Encloses (program : Program) (index inner opening : Nat) : Prop where
  accepts : program[0]? = some .accept
  ends : program[1]? = some (.look .textEnd 0)
  closes : program[2]? = some (.save (2 * index + 1) 1)
  stays : ∀ state < opening, 3 ≤ state → program[state]?.any (Instr.staysBefore opening) = true
  opens : program[opening]? = some (.save (2 * index) inner)
  inside : 2 ≤ inner ∧ inner < opening
  starts : program[opening + 1]? = some (.look .textStart opening)

/-- What a thread has noted by its place in a program around a group. -/
inductive Thread.Noted (text : Array Char) (index opening : Nat) : Thread → Prop
  | before {position : Nat} (hp : position ≤ text.size) : Noted text index opening ⟨opening + 1, position, []⟩
  | opening : Noted text index opening ⟨opening, 0, []⟩
  | inside {state position : Nat} (hs : 2 ≤ state) (hs' : state < opening) (hp : position ≤ text.size) :
      Noted text index opening ⟨state, position, [(2 * index, 0)]⟩
  | closed {position : Nat} (hp : position ≤ text.size) :
      Noted text index opening ⟨1, position, [(2 * index + 1, position), (2 * index, 0)]⟩
  | done : Noted text index opening ⟨0, text.size, [(2 * index + 1, text.size), (2 * index, 0)]⟩

theorem noted_of_staysBefore {state position : Nat} (hi : instr.staysBefore opening = true)
    (hl : instr.Leads text ⟨state, position, [(2 * index, 0)]⟩ other) (hp : position ≤ text.size) :
    other.Noted text index opening := by
  cases hl with
  | chars hp =>
    simp only [Instr.staysBefore, Bool.and_eq_true, decide_eq_true_eq] at hi
    exact .inside hi.1 hi.2 hp
  | look _ =>
    simp only [Instr.staysBefore, Bool.and_eq_true, decide_eq_true_eq] at hi
    exact .inside hi.1 hi.2 hp
  | first =>
    simp only [Instr.staysBefore, Bool.and_eq_true, decide_eq_true_eq] at hi
    exact .inside hi.1.1 hi.1.2 hp
  | second =>
    simp only [Instr.staysBefore, Bool.and_eq_true, decide_eq_true_eq] at hi
    exact .inside hi.2.1 hi.2.2 hp
  | save => cases hi

namespace Program.Encloses

/-- What has been noted is kept right from step to step. -/
theorem keeps_noted (h : program.Encloses index inner opening) (ht : thread.Noted text index opening)
    (hi : program[thread.state]? = some instr) (hl : instr.Leads text thread other) :
    other.Noted text index opening := by
  cases ht with
  | @before position hp =>
    cases h.starts.symm.trans hi
    cases hl with
    | look hlook =>
      obtain rfl := (Node.textStart_iff hp).mp hlook
      exact .opening
  | opening =>
    cases h.opens.symm.trans hi
    cases hl
    exact .inside h.inside.1 h.inside.2 (Nat.zero_le _)
  | @inside state position hs hs' hp =>
    -- the group is closed from place 2, and from every other place inside a thread stays inside
    by_cases htwo : state = 2
    · subst htwo
      cases h.closes.symm.trans hi
      cases hl
      exact .closed hp
    · have hstays := h.stays state hs' (by omega)
      rw [hi] at hstays
      exact noted_of_staysBefore hstays hl hp
  | @closed position hp =>
    cases h.ends.symm.trans hi
    cases hl with
    | look hlook =>
      obtain rfl := (Node.textEnd_iff hp).mp hlook
      exact .done
  | done =>
    cases h.accepts.symm.trans hi
    cases hl

/-- A search finds the group from the beginning of the text to its end. -/
theorem search_eq (h : program.Encloses index inner opening)
    (hs : search (opening + 1) program text = some saves) :
    saves = [(2 * index + 1, text.size), (2 * index, 0)] := by
  have hstart : ∀ thread ∈ (List.range (text.size + 1)).map fun position => (⟨opening + 1, position, []⟩ : Thread),
      thread.Noted text index opening := by
    refine List.forall_mem_map.mpr fun position hm => .before ?_
    exact Nat.le_of_lt_succ (List.mem_range.mp hm)
  obtain ⟨thread, ht, hi, rfl⟩ :=
    explore_keeps (fun _ _ _ ht hi hl => h.keeps_noted ht hi hl) hs hstart
  -- the search ended at an instruction that accepts, and there is one in the last place only
  cases ht with
  | before _ => cases h.starts.symm.trans hi
  | opening => cases h.opens.symm.trans hi
  | @inside state position hs hs' _ =>
    by_cases htwo : state = 2
    · subst htwo
      cases h.closes.symm.trans hi
    · have hstays := h.stays state hs' (by omega)
      rw [hi] at hstays
      cases hstays
  | closed _ => cases h.ends.symm.trans hi
  | done => rfl

theorem groupText?_eq (h : program.Encloses index inner opening)
    (hs : search (opening + 1) program text = some saves) :
    groupText? text saves index = some (String.ofList text.toList) := by
  have hne : (2 * index == 2 * index + 1) = false := by simp
  rw [h.search_eq hs, groupText?]
  simp [List.lookup_cons, hne]

end Program.Encloses

end LogPipeline.Regex
