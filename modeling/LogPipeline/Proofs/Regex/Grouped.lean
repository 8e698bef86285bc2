import LogPipeline.Proofs.Regex.Pasted

/-!
# Reading inside a group

What a reader makes of an expression that is pasted into a group: the same as of the expression alone,
up to the parenthesis that closes the group.
-/

namespace LogPipeline.Regex.Reader

variable {flags : Flags} {cs rest tail : List Char} (reader : Reader)

/-! ## Groups and repetitions -/

theorem readFlags_follows (flags : Flags) (seen : List Char) (negated : Bool) (cs : List Char) :
    Follows pastClosing (readFlags flags seen negated (cs ++ closing))
      (readFlags flags seen negated cs) := by
  induction cs generalizing flags seen negated with
  | nil => exact .of_leaves (readFlags_leaves flags seen negated closing)
  | cons c cs ih =>
    simp only [List.cons_append, readFlags]
    refine .ite (fun _ => .ite (fun _ => .error _) fun _ => .ok _) fun _ => ?_
    refine .ite (fun _ => .error _) fun _ => .ite (fun _ => ih _ _ _) fun _ => ?_
    split
    · exact .error _
    · exact ih _ _ _

theorem groupName_follows (cs : List Char) :
    Follows pastClosing (groupName (cs ++ closing)) (groupName cs) := by
  unfold groupName
  simp only
  rcases span_closing (· != '>') rfl cs with ⟨h, -⟩ | ⟨h, h'⟩
  · rw [h]
    exact .error _
  · rw [h, h']
    cases cs.dropWhile (· != '>') with
    -- the name would have to end with the parenthesis
    | nil =>
      refine .of_leaves ?_
      split
      · rename_i heq _
        cases heq
        exact .ite (fun _ => .ok List.suffix_rfl) fun _ => .error _
      · exact .error _
    | cons c rest =>
      cases cs.takeWhile (· != '>') with
      | nil => exact .error _
      | cons first more => exact .ite (fun _ => .ok rest) fun _ => .error _

theorem openNamed_follows (cs : List Char) :
    Follows pastClosing (reader.openNamed (cs ++ closing)) (reader.openNamed cs) := by
  refine (groupName_follows cs).bind ?_ ?_
  · exact fun _ _ => .ite (fun _ => .error _) fun _ => .ok List.suffix_rfl
  · exact fun _ rest _ => .ite (fun _ => .error _) fun _ => .ok rest

theorem openFlagged_follows (cs : List Char) :
    Follows pastClosing (reader.openFlagged (cs ++ closing)) (reader.openFlagged cs) := by
  refine (readFlags_follows _ _ _ cs).bind (fun _ _ => ?_) fun _ rest _ => ?_
  · exact .ite (fun _ => .ok List.suffix_rfl) fun _ =>
      .ite (fun _ => .ok List.suffix_rfl) fun _ => .error _
  · exact .ite (fun _ => .ok rest) fun _ => .ite (fun _ => .ok rest) fun _ => .error _

theorem openSpecial_of_flags {c : Char} (h₁ : c ≠ '=') (h₂ : c ≠ '!') (h₃ : c ≠ '<')
    (h₄ : ¬ (c = 'P' ∧ ∃ rest, cs = '<' :: rest)) :
    reader.openSpecial (c :: cs) = reader.openFlagged (c :: cs) := by
  unfold openSpecial
  split <;> simp_all

theorem openSpecial_follows (cs : List Char) :
    Follows pastClosing (reader.openSpecial (cs ++ closing)) (reader.openSpecial cs) := by
  have hnamed := reader.openNamed_follows
  have hflagged := reader.openFlagged_follows
  cases cs with
  | nil => exact hflagged []
  | cons c cs =>
    by_cases hlook : c = '=' ∨ c = '!'
    · rcases hlook with rfl | rfl <;> exact .error _
    · rw [not_or] at hlook
      by_cases hangle : c = '<'
      · subst hangle
        cases cs with
        | nil => exact hnamed []
        | cons d cs =>
          by_cases hlook : d = '=' ∨ d = '!'
          · rcases hlook with rfl | rfl <;> exact .error _
          · rw [not_or] at hlook
            unfold openSpecial
            simp only [List.cons_append, List.cons.injEq, hlook, false_and, imp_self, implies_true]
            exact hnamed (d :: cs)
      · by_cases hname : c = 'P' ∧ ∃ rest, cs = '<' :: rest
        · obtain ⟨rfl, rest, rfl⟩ := hname
          exact hnamed rest
        · have hname' : ¬ (c = 'P' ∧ ∃ rest, cs ++ closing = '<' :: rest) := by
            cases cs with
            | nil => simp [closing]
            | cons d cs => simpa using hname
          rw [List.cons_append, openSpecial_of_flags reader hlook.1 hlook.2 hangle hname,
            openSpecial_of_flags reader hlook.1 hlook.2 hangle hname']
          exact hflagged (c :: cs)

theorem readGroup_follows (cs : List Char) :
    Follows pastClosing (reader.readGroup (cs ++ closing)) (reader.readGroup cs) := by
  unfold readGroup
  rcases reader.flags.skip_closing cs with hs | ⟨hs, -⟩
  · rw [hs]
    cases reader.flags.skip cs with
    | nil => exact .ok []
    | cons c cs =>
      by_cases hc : c = '?'
      · subst hc
        exact reader.openSpecial_follows cs
      · simp only [List.cons_append, List.cons.injEq, hc, false_and, imp_self, implies_true]
        exact .ok (c :: cs)
  · rw [hs]
    exact .past List.nil_suffix

theorem takeLazy_closing (cs : List Char) :
    takeLazy (cs ++ closing) = ((takeLazy cs).1, (takeLazy cs).2 ++ closing) := by
  cases cs with
  | nil => rfl
  | cons c cs =>
    by_cases hc : c = '?'
    · subst hc
      rfl
    · unfold takeLazy
      simp only [List.cons_append, List.cons.injEq, hc, false_and, imp_self, implies_true]

theorem roundsOf_follows (flags : Flags) (digits cs : List Char) :
    Follows tail (roundsOf flags digits (cs ++ closing)) (roundsOf flags digits cs) := by
  unfold roundsOf
  simp only [dropBlanks_closing]
  refine .ite (fun _ => .ok_skip) fun _ => .ite (fun _ => .error _) fun _ => ?_
  exact .ite (fun _ => .ok_skip) fun _ => .error _

theorem roundCount_follows (flags : Flags) (cs : List Char) :
    Follows tail (roundCount flags (cs ++ closing)) (roundCount flags cs) := by
  unfold roundCount
  rw [dropBlanks_closing]
  exact (flags.span_follows rfl (Nat.le_refl _) (by simp)).next (roundsOf_leaves flags) fun _ _ _ =>
    roundsOf_follows flags _ _

theorem givenRounds_follows (flags : Flags) (cs : List Char) :
    Follows tail (givenRounds flags (cs ++ closing)) (givenRounds flags cs) := by
  refine (roundCount_follows flags cs).bind (fun _ _ => ?_) fun _ rest _ => ?_
  · exact .ite (fun _ => .error _) fun _ => .ok List.suffix_rfl
  · exact .ite (fun _ => .error _) fun _ => .ok rest

theorem mostRounds_follows (flags : Flags) (least : Option Nat) (cs : List Char) :
    Follows tail (mostRounds flags least (cs ++ closing)) (mostRounds flags least cs) := by
  cases cs with
  | nil => exact .ok []
  | cons c cs =>
    by_cases hc : c = ','
    · subst hc
      simp only [List.cons_append, mostRounds]
      rcases flags.skip_closing cs with hs | ⟨hs, -⟩
      · rw [hs]
        cases flags.skip cs with
        | nil => exact givenRounds_follows flags []
        | cons c cs =>
          by_cases hc : c = '}'
          · subst hc
            exact .ok ('}' :: cs)
          · simp only [List.cons_append, List.cons.injEq, hc, false_and, imp_self, implies_true]
            exact givenRounds_follows flags (c :: cs)
      · rw [hs]
        exact .of_leaves ((givenRounds_leaves flags []).trans List.nil_suffix)
    · unfold mostRounds
      simp only [List.cons_append, List.cons.injEq, hc, false_and, imp_self, implies_true]
      exact .ok (c :: cs)

theorem repeatRounds_follows (least most : Option Nat) (cs : List Char) :
    Follows tail (reader.repeatRounds least most (cs ++ closing))
      (reader.repeatRounds least most cs) := by
  cases least with
  | none => exact .error _
  | some least =>
    cases cs with
    | nil => exact .error _
    | cons c cs =>
      by_cases hc : c = '}'
      · subst hc
        simp only [List.cons_append, repeatRounds]
        refine .ite (fun _ => .error _) fun _ => ?_
        rcases reader.flags.skip_closing cs with hs | ⟨hs, -⟩
        · rw [hs, takeLazy_closing]
          exact .after fun _ => .ok _
        · rw [hs]
          exact .of_leaves (Yields.trivial.bind fun _ _ => .ok List.nil_suffix)
      · unfold repeatRounds
        simp only [List.cons_append, List.cons.injEq, hc, false_and, imp_self, implies_true]
        exact .error _

theorem readRepetition_follows (cs : List Char) :
    Follows tail (reader.readRepetition (cs ++ closing)) (reader.readRepetition cs) := by
  refine .bind (.skip (roundCount_leaves _ _) (roundCount_follows _ _)) (fun least rest => ?_) ?_
  · exact (mostRounds_leaves _ _ _).bind fun _ h => (reader.repeatRounds_leaves _ _ _).trans h
  · intro least rest _
    refine (mostRounds_follows _ _ _).bind (fun _ _ => reader.repeatRounds_leaves _ _ _) ?_
    exact fun most rest _ => reader.repeatRounds_follows _ _ _

/-- A brace that is left behind `\\b` begins no repetition. -/
theorem readRepetition_of_blanks (h : reader.flags.skip cs = []) :
    Fails (reader.readRepetition (cs ++ closing)) := by
  have hcount : Yields (roundCount reader.flags (reader.flags.skip (cs ++ closing))) fun r => r.1 = none := by
    rcases reader.flags.skip_closing cs with hs | ⟨hs, -⟩
    · rw [hs, h]
      exact .ok rfl
    · rw [hs]
      exact .ok rfl
  refine hcount.bind fun (least, rest) hnone => ?_
  obtain rfl : least = none := hnone
  exact Yields.trivial.bind fun _ _ => .error _

/-! ## Steps -/

/-- An escape that leaves a dangling brace. -/
def LeavesBrace (flags : Flags) (c : Char) (cs : List Char) : Prop :=
  c = '\\' ∧ ∃ rest, cs = 'b' :: rest ∧ Dangling flags rest

theorem step_follows {c : Char} {cs : List Char} (h : ¬ LeavesBrace reader.flags c cs) :
    Follows pastClosing (reader.step c (cs ++ closing)) (reader.step c cs) := by
  unfold step
  simp only [takeLazy_closing]
  split
  · exact reader.readGroup_follows cs
  · exact .after fun _ => .ok cs
  · exact .ok cs
  · exact (bracketed_follows _ cs).bind (fun _ _ => .ok List.suffix_rfl) fun _ rest _ => .ok rest
  iterate 3 exact .after fun _ => .ok _
  · exact reader.readRepetition_follows cs
  · refine (escape_follows fun rest hrest hd => h ⟨rfl, rest, hrest, hd⟩).bind ?_ ?_
    · rintro (_ | _ | _) rest
      · exact Yields.trivial.bind fun _ _ => .ok List.suffix_rfl
      · exact .ok List.suffix_rfl
      · exact .ok List.suffix_rfl
    · rintro (_ | _ | _) rest -
      · exact .after fun _ => .ok rest
      · exact .ok rest
      · exact .ok rest
  · exact .after fun _ => .ok cs
  · exact .ok cs
  · exact .ok cs
  · exact .after fun _ => .ok cs

theorem step_of_leavesBrace {c : Char} {cs : List Char} (h : LeavesBrace reader.flags c cs) :
    Leaves (reader.step c (cs ++ closing)) pastClosing ∨
      ∃ condition blanks, reader.flags.skip blanks = [] ∧ reader.step c (cs ++ closing) =
        .ok (reader.push (.ofNode (.look condition)), '{' :: blanks ++ closing) := by
  obtain ⟨rfl, rest, rfl, hd⟩ := h
  rcases escape_of_dangling hd with h | h
  · refine .inl (h.bind ?_)
    rintro ⟨_ | _ | _, rest⟩ hrest
    · exact Yields.trivial.bind fun _ _ => .ok hrest
    · exact .ok hrest
    · exact .ok hrest
  · obtain ⟨blanks, rfl, hblanks⟩ := hd
    refine .inr ⟨.wordBoundary reader.flags.word, blanks, hblanks, ?_⟩
    unfold step
    simp only [h]
    rfl

/-! ## Groups outside -/

/-- The reader with groups that are open outside of what it has read. -/
def within (outside : List OpenGroup) (reader : Reader) : Reader :=
  { reader with outer := reader.outer ++ outside }

variable (outside : List OpenGroup)

theorem openNamed_within (cs : List Char) :
    (reader.within outside).openNamed cs = Prod.map (within outside) id <$> reader.openNamed cs := by
  unfold openNamed
  rw [map_bind]
  refine bind_congr fun named => ?_
  rw [map_ite]
  rfl

theorem openFlagged_within (cs : List Char) :
    (reader.within outside).openFlagged cs = Prod.map (within outside) id <$> reader.openFlagged cs := by
  unfold openFlagged
  rw [map_bind]
  refine bind_congr fun set => ?_
  simp only [map_ite]
  rfl

theorem openSpecial_within (cs : List Char) :
    (reader.within outside).openSpecial cs = Prod.map (within outside) id <$> reader.openSpecial cs := by
  unfold openSpecial
  split
  iterate 4 rfl
  · exact reader.openNamed_within outside _
  · exact reader.openNamed_within outside _
  · exact reader.openFlagged_within outside _

theorem readGroup_within (cs : List Char) :
    (reader.within outside).readGroup cs = Prod.map (within outside) id <$> reader.readGroup cs := by
  have hflags : (reader.within outside).flags = reader.flags := rfl
  unfold readGroup
  rw [hflags]
  split
  · exact reader.openSpecial_within outside _
  · rfl

theorem closeGroup_within (h : reader.outer ≠ []) :
    (reader.within outside).closeGroup = within outside <$> reader.closeGroup := by
  unfold closeGroup
  simp only [within]
  cases houter : reader.outer with
  | nil => exact absurd houter h
  | cons group outer => rfl

theorem repeatLast_within (lazy : Bool) (least : Nat) (most : Option Nat) :
    (reader.within outside).repeatLast lazy least most =
      within outside <$> reader.repeatLast lazy least most := by
  unfold repeatLast
  simp only [within]
  cases reader.pieces with
  | nil => rfl
  | cons piece pieces =>
    simp only [map_ite]
    rfl

theorem repeatRounds_within (least most : Option Nat) (cs : List Char) :
    (reader.within outside).repeatRounds least most cs =
      Prod.map (within outside) id <$> reader.repeatRounds least most cs := by
  unfold repeatRounds
  split
  · simp only [repeatLast_within, map_ite, map_bind, bind_map_left]
    rfl
  · rfl

theorem readRepetition_within (cs : List Char) :
    (reader.within outside).readRepetition cs =
      Prod.map (within outside) id <$> reader.readRepetition cs := by
  unfold readRepetition
  rw [map_bind]
  refine bind_congr fun least => ?_
  rw [map_bind]
  exact bind_congr fun most => reader.repeatRounds_within outside _ _ _

/-- What is open outside does not change a step, unless it is closed by it. -/
theorem step_within {c : Char} (cs : List Char) (h : c ≠ ')' ∨ reader.outer ≠ []) :
    (reader.within outside).step c cs = Prod.map (within outside) id <$> reader.step c cs := by
  unfold step
  simp only
  split
  · exact reader.readGroup_within outside cs
  · rw [reader.closeGroup_within outside (h.resolve_left (· rfl)), map_bind, bind_map_left]
    rfl
  · rfl
  · rw [map_bind]
    rfl
  iterate 3
    rw [repeatLast_within, map_bind, bind_map_left]
    rfl
  · exact reader.readRepetition_within outside cs
  · rw [map_bind]
    refine bind_congr fun (atom, rest) => ?_
    cases atom with
    | literal c isByte =>
      simp only [map_bind]
      rfl
    | set _ => rfl
    | look _ => rfl
  · rw [map_bind]
    rfl
  · rfl
  · rfl
  · rw [map_bind]
    rfl

/-! ## Runs -/

/-- A step that closes no group leaves all that are open. -/
theorem step_outer {c : Char} (hc : c ≠ ')') (cs : List Char) :
    Yields (reader.step c cs) fun r => reader.outer <:+ r.1.outer := by
  -- the reader is the one with nothing open, within what is open
  have hstep : reader.step c cs = _ := step_within { reader with outer := [] } reader.outer cs (.inl hc)
  rw [hstep]
  exact .map fun r _ => List.suffix_append _ _

theorem run_outer (limit : Nat) {cs : List Char} (h : ')' ∉ cs) :
    Yields (run limit reader cs) fun r => reader.outer <:+ r.outer := by
  induction limit generalizing reader cs with
  | zero => exact .ite (fun _ => .ok List.suffix_rfl) fun _ => .error _
  | succ limit ih =>
    unfold run
    split
    · exact .ok List.suffix_rfl
    · rename_i c rest hs
      have hsub : ')' ∉ c :: rest := fun hm => h ((hs ▸ reader.flags.skip_suffix cs).mem hm)
      intro last hlast
      obtain ⟨⟨next, rest'⟩, hnext, hlast⟩ := bind_eq_ok.mp hlast
      have hrest : ')' ∉ rest' := fun hm =>
        List.not_mem_of_not_mem_cons hsub ((reader.step_leaves c rest _ hnext).mem hm)
      have houter := reader.step_outer (List.ne_of_not_mem_cons hsub).symm rest _ hnext
      exact houter.trans (ih next hrest last hlast)

/-- Behind the parenthesis of the closing no group is closed. -/
theorem run_past (limit : Nat) (hcs : cs <:+ pastClosing) (houter : reader.outer ≠ []) :
    Yields (run limit reader cs) fun r => r.outer ≠ [] := by
  refine (reader.run_outer limit fun hm => absurd (hcs.mem hm) (by decide)).mono fun last hlast hnil => ?_
  exact houter (List.suffix_nil.mp (hnil ▸ hlast))

/-- A dangling brace is never read. -/
theorem run_brace (limit : Nat) {blanks : List Char} (h : reader.flags.skip blanks = []) :
    Fails (run limit reader ('{' :: blanks ++ closing)) := by
  have hs : reader.flags.skip ('{' :: blanks ++ closing) = '{' :: (blanks ++ closing) := by
    unfold Flags.skip
    split <;> rfl
  cases limit with
  | zero =>
    unfold run
    rw [hs]
    exact .error _
  | succ limit =>
    unfold run
    rw [hs]
    exact (reader.readRepetition_of_blanks h).bind fun _ => False.elim

/-- One step inside a group: the step of the expression alone, unless it leads to nowhere or closes the
group. -/
theorem step_within_closing (group : OpenGroup) {c : Char} {cs : List Char}
    (h : c ≠ ')' ∨ reader.outer ≠ []) {next : Reader}
    (hnext : (reader.within [group]).step c (cs ++ closing) = .ok (next, rest)) :
    (∀ limit, Yields (run limit next rest) fun r => r.outer ≠ []) ∨
      ∃ inner rest', next = inner.within [group] ∧ rest = rest' ++ closing ∧
        reader.step c cs = .ok (inner, rest') := by
  rw [reader.step_within [group] _ h] at hnext
  obtain ⟨⟨inner, rest⟩, hinner, heq⟩ := map_eq_ok.mp hnext
  cases heq
  have hpast (hrest : rest <:+ pastClosing) (limit : Nat) :
      Yields (run limit (inner.within [group]) rest) fun r => r.outer ≠ [] :=
    (inner.within [group]).run_past limit hrest (by simp [within])
  by_cases hbrace : LeavesBrace reader.flags c cs
  · rcases reader.step_of_leavesBrace hbrace with hrest | ⟨condition, blanks, hblanks, hstep⟩
    · exact .inl (hpast (hrest _ hinner))
    · rw [hstep] at hinner
      cases hinner
      refine .inl fun limit => Fails.yields ?_
      exact run_brace ((reader.push (.ofNode (.look condition))).within [group]) limit hblanks
  · rcases reader.step_follows hbrace _ _ hinner with hrest | ⟨rest', rfl, hstep⟩
    · exact .inl (hpast hrest)
    · exact .inr ⟨inner, rest', rfl, rfl, hstep⟩

/-- Reading an expression that is pasted into a group, to an end with no group open: the expression alone
either closes a group that it does not open, or it is read the same way and leaves the closing. -/
theorem run_within (group : OpenGroup) {limit : Nat} (limit' : Nat) {cs : List Char}
    (h : cs.length ≤ limit) {last : Reader}
    (hrun : run limit' (reader.within [group]) (cs ++ closing) = .ok last) (hlast : last.outer = []) :
    run limit reader cs = .error .groupUnopened ∨
      ∃ inner rounds, run limit reader cs = .ok inner ∧
        run rounds (inner.within [group]) closing = .ok last := by
  induction limit' generalizing limit reader cs with
  | zero =>
    unfold run at hrun
    split at hrun
    · cases hrun
      exact absurd hlast (by simp [within])
    · cases hrun
  | succ limit' ih =>
    -- either the text alone is at its end, or both take the same step
    have hflags : (reader.within [group]).flags = reader.flags := rfl
    unfold run at hrun
    rw [hflags] at hrun
    rcases reader.flags.skip_closing cs with hs | ⟨hs, -⟩
    · cases hcs : reader.flags.skip cs with
      | nil =>
        refine .inr ⟨reader, limit' + 1, ?_, ?_⟩
        · cases limit <;> simp [run, hcs]
        · unfold run
          rwa [hflags, Flags.skip_closing_self, ← List.nil_append closing, ← hcs, ← hs]
      | cons c rest =>
        have hlength : (c :: rest).length ≤ limit :=
          Nat.le_trans (hcs ▸ (reader.flags.skip_suffix cs).length_le) h
        obtain ⟨limit, rfl⟩ := Nat.exists_eq_add_one_of_ne_zero (Nat.ne_zero_of_lt hlength)
        have halone : run (limit + 1) reader cs =
            reader.step c rest >>= fun next => run limit next.1 next.2 := by
          rw [run, hcs]
        rw [halone]
        rw [hs, hcs] at hrun
        obtain ⟨⟨next, rest'⟩, hnext, hrun⟩ := bind_eq_ok.mp hrun
        by_cases hopen : c ≠ ')' ∨ reader.outer ≠ []
        · rcases reader.step_within_closing group hopen hnext with hlost | ⟨inner, rest, rfl, rfl, hstep⟩
          · exact absurd hlast (hlost limit' last hrun)
          · rw [hstep]
            refine ih inner ?_ hrun
            exact Nat.le_trans (reader.step_leaves c _ _ hstep).length_le (Nat.le_of_succ_le_succ hlength)
        · obtain ⟨rfl, hnil⟩ : c = ')' ∧ reader.outer = [] := by simpa using hopen
          refine .inl ?_
          simp only [step, closeGroup, hnil]
          rfl
    · -- a comment has taken the closing, so that the group stays open
      rw [hs] at hrun
      cases hrun
      exact absurd hlast (by simp [within])

/-! ## Anchored expressions -/

/-- The group that is open behind `\\A(?:`. -/
def anchor : OpenGroup := ⟨none, [.ofNode (.look .textStart)], [], {}⟩

theorem run_anchor (limit : Nat) (cs : List Char) :
    run (limit + 2) {} (['\\', 'A', '(', '?', ':'] ++ cs) = run limit (within [anchor] {}) cs := rfl

/-- The reader behind the parenthesis that closes the group again. -/
def anchored (inner : Reader) : Reader :=
  { inner with
    flags := {}
    pieces := [⟨inner.current.node, inner.current.height + 1, true⟩, .ofNode (.look .textStart)]
    alternatives := []
    outer := [] }

theorem closeGroup_anchor {inner : Reader} (h : inner.outer = []) :
    (inner.within [anchor]).closeGroup = .ok inner.anchored := by
  cases inner
  subst h
  rfl

/-- What is read when the group closes: what was read inside, between the two ends of the text. -/
theorem run_closing {limit : Nat} {inner last : Reader}
    (hrun : run limit (inner.within [anchor]) closing = .ok last) (hlast : last.outer = []) :
    inner.outer = [] ∧ last = inner.anchored.push (.ofNode (.look .textEnd)) := by
  have hskip := (inner.within [anchor]).flags.skip_closing_self
  cases limit with
  | zero =>
    unfold run at hrun
    rw [hskip] at hrun
    cases hrun
  | succ limit =>
    unfold run at hrun
    rw [hskip] at hrun
    obtain ⟨⟨next, rest⟩, hnext, hrun⟩ := bind_eq_ok.mp hrun
    obtain ⟨closed, hclosed, hnext⟩ := bind_eq_ok.mp hnext
    cases hnext
    cases houter : inner.outer with
    | nil =>
      rw [closeGroup_anchor houter] at hclosed
      cases hclosed
      cases limit with
      | zero => cases hrun
      | succ limit => cases limit <;> exact ⟨rfl, (Except.ok.inj hrun).symm⟩
    | cons group outer =>
      -- the parenthesis closes a group of the text, and none is left for the one around it
      simp only [closeGroup, within, houter, List.cons_append] at hclosed
      cases hclosed
      exact absurd hlast (run_past _ limit List.suffix_rfl (by simp) _ hrun)

end LogPipeline.Regex.Reader

namespace LogPipeline.Regex

theorem current_anchored (inner : Reader) :
    (inner.anchored.push (.ofNode (.look .textEnd))).current =
      ⟨.ofPieces [.look .textStart, inner.current.node, .look .textEnd], inner.current.height + 2, true⟩ := by
  have hsequence : (inner.anchored.push (.ofNode (.look .textEnd))).current =
      ⟨.ofPieces [.look .textStart, inner.current.node, .look .textEnd],
        highest (inner.anchored.push (.ofNode (.look .textEnd))).pieces + 1, true⟩ := rfl
  rw [hsequence]
  simp [highest, Reader.anchored, Reader.push, Piece.ofNode]

/-- An expression that is read between the two ends of a text is read the same way alone, unless it closes
a group that it does not open. -/
theorem parse_anchored {cs : List Char} {pattern : Pattern}
    (h : parse (['\\', 'A', '(', '?', ':'] ++ (cs ++ closing)) = .ok pattern) :
    parse cs = .error .groupUnopened ∨ ∃ alone, parse cs = .ok alone ∧ pattern =
      ⟨.ofPieces [.look .textStart, alone.node, .look .textEnd], alone.names⟩ := by
  obtain ⟨last, hrun, h⟩ := bind_eq_ok.mp h
  split at h
  · rename_i houter
    have hlast := List.isEmpty_iff.mp houter
    have hanchor := Reader.run_anchor ((cs ++ closing).length + 3) (cs ++ closing)
    rcases Reader.run_within {} Reader.anchor _ (Nat.le_refl cs.length) (hanchor.symm.trans hrun) hlast with
      herror | ⟨inner, rounds, hinner, hclosing⟩
    · refine .inl ?_
      unfold parse
      rw [herror]
      rfl
    · obtain ⟨hnil, rfl⟩ := Reader.run_closing hclosing hlast
      simp only [current_anchored] at h
      split at h
      · cases h
      · rename_i hheight
        cases h
        refine .inr ⟨⟨inner.current.node, inner.names.reverse⟩, ?_, rfl⟩
        have hlow : ¬ inner.current.height > heightLimit := by omega
        unfold parse
        rw [hinner]
        simp only [bind, Except.bind, hnil, List.isEmpty_nil, if_true, if_neg hlow]
        rfl
  · cases h

end LogPipeline.Regex
