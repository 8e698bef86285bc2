import LogPipeline.Proofs.Result
import LogPipeline.Regex.Parser

/-!
# What reading leaves

Whatever a reader of expressions, escapes or classes leaves of a text is an end of it.
-/

namespace LogPipeline.Regex

variable {flags : Flags} {cs rest : List Char} {c : Char}

theorem skipBlanks_suffix (inComment : Bool) (cs : List Char) : skipBlanks inComment cs <:+ cs := by
  induction cs generalizing inComment with
  | nil => exact List.suffix_rfl
  | cons c cs ih =>
    simp only [skipBlanks]
    repeat' split
    all_goals first | exact (ih _).trans (List.suffix_cons c cs) | exact List.suffix_rfl

theorem Flags.skip_suffix (flags : Flags) (cs : List Char) : flags.skip cs <:+ cs := by
  unfold skip
  split
  · exact skipBlanks_suffix false cs
  · exact List.suffix_rfl

theorem suffix_of_cons (h : rest <:+ cs) : rest <:+ c :: cs := h.trans (List.suffix_cons c cs)

theorem suffix_of_skip (h : rest <:+ flags.skip cs) : rest <:+ cs := h.trans (flags.skip_suffix cs)

/-- What is left after the first character that is not skipped. -/
theorem suffix_of_skip_eq_cons (hs : flags.skip cs = c :: rest) : rest <:+ cs :=
  (List.suffix_cons c rest).trans (hs ▸ flags.skip_suffix cs)

theorem Flags.span_suffix (flags : Flags) (kind : Char → Bool) (limit : Nat) (cs : List Char) :
    (flags.span kind limit cs).2 <:+ cs := by
  induction limit generalizing cs with
  | zero => exact List.suffix_rfl
  | succ limit ih =>
    cases cs with
    | nil => exact List.suffix_rfl
    | cons c cs =>
      simp only [span]
      split
      · exact suffix_of_cons (suffix_of_skip (ih _))
      · exact List.suffix_rfl

/-- A reading that leaves an end of a text, if it comes to an end. -/
abbrev Leaves {α : Type} (reading : Except Fault (α × List Char)) (cs : List Char) : Prop :=
  Yields reading fun result => result.2 <:+ cs

theorem Leaves.trans {α : Type} {reading : Except Fault (α × List Char)} {cs' : List Char}
    (h : Leaves reading cs) (hs : cs <:+ cs') : Leaves reading cs' :=
  h.mono fun _ h => h.trans hs

/-! ## Escapes -/

theorem hexDigits_leaves (flags : Flags) (count value : Nat) (cs : List Char) :
    Leaves (hexDigits flags count value cs) cs := by
  induction count generalizing value cs with
  | zero => exact .ok List.suffix_rfl
  | succ count ih =>
    cases cs with
    | nil => exact .error _
    | cons c cs =>
      simp only [hexDigits]
      split
      · exact .error _
      · exact (ih _ _).trans (suffix_of_cons (flags.skip_suffix cs))

theorem upToBrace_leaves (flags : Flags) (limit : Nat) (cs : List Char) :
    Leaves (upToBrace flags limit cs) cs := by
  induction limit generalizing cs with
  | zero =>
    unfold upToBrace
    exact .error _
  | succ limit ih =>
    cases cs with
    | nil => exact .error _
    | cons c cs =>
      refine .ite (fun _ => .ok (List.suffix_cons c cs)) fun _ => ?_
      exact (ih _).bind fun _ h => .ok (suffix_of_cons (suffix_of_skip h))

theorem hexEscape_leaves (flags : Flags) (width : Nat) (cs : List Char) :
    Leaves (hexEscape flags width cs) cs := by
  unfold hexEscape
  split
  · exact .error _
  · rename_i after hs
    refine (upToBrace_leaves _ _ _).bind fun (digits, rest) h => ?_
    have hrest := (suffix_of_skip h).trans (suffix_of_skip_eq_cons hs)
    exact Yields.trivial.bind fun _ _ => .ok ((flags.skip_suffix rest).trans hrest)
  · refine (hexDigits_leaves _ _ _ _).bind fun (value, rest) h => ?_
    simp only
    split
    · exact .error _
    · exact .ok (suffix_of_skip h)

theorem propertyEscape_leaves (flags : Flags) (negated : Bool) (cs : List Char) :
    Leaves (propertyEscape flags negated cs) cs := by
  unfold propertyEscape
  split
  · exact .error _
  · rename_i after hs
    refine (upToBrace_leaves _ _ _).bind fun (name, rest) h => ?_
    exact Yields.trivial.bind fun _ _ => .ok ((suffix_of_skip h).trans (suffix_of_skip_eq_cons hs))
  · exact .error _
  · rename_i after _ _ hs
    exact Yields.trivial.bind fun _ _ => .ok ((flags.skip_suffix after).trans (suffix_of_skip_eq_cons hs))

theorem specialWord_leaves (flags : Flags) (name cs : List Char) :
    Leaves (specialWord flags name cs) cs := by
  unfold specialWord
  split
  · iterate 4 refine .ite (fun _ => .ok (List.suffix_cons _ _)) fun _ => ?_
    exact .error _
  · exact .error _

theorem wordCondition_leaves (flags : Flags) (cs : List Char) : Leaves (wordCondition flags cs) cs := by
  unfold wordCondition
  split
  · rename_i rest
    split
    · exact .error _
    · rename_i c inner hs
      have hinner : c :: inner <:+ '{' :: rest := suffix_of_cons (hs ▸ flags.skip_suffix rest)
      have hname := flags.span_suffix isWordConditionChar (c :: inner).length (c :: inner)
      refine .ite (fun _ => ?_) fun _ => .ok List.suffix_rfl
      exact (specialWord_leaves flags _ _).trans (hname.trans hinner)
  · exact .ok List.suffix_rfl

theorem escape_leaves (flags : Flags) (c : Char) (cs : List Char) :
    Leaves (escape flags (c :: cs)) cs := by
  unfold escape
  refine .ite (fun _ => .error _) fun _ => ?_
  refine .ite (fun _ => hexEscape_leaves _ _ _) fun _ => ?_
  refine .ite (fun _ => hexEscape_leaves _ _ _) fun _ => ?_
  refine .ite (fun _ => hexEscape_leaves _ _ _) fun _ => ?_
  refine .ite (fun _ => propertyEscape_leaves _ _ _) fun _ => ?_
  refine .ite (fun _ => propertyEscape_leaves _ _ _) fun _ => ?_
  refine .ite (fun _ => .map fun _ _ => List.suffix_rfl) fun _ => ?_
  iterate 8 refine .ite (fun _ => .ok List.suffix_rfl) fun _ => ?_
  refine .ite (fun _ => wordCondition_leaves _ _) fun _ => ?_
  iterate 3 refine .ite (fun _ => .ok List.suffix_rfl) fun _ => ?_
  exact .ite (fun _ => .error _) fun _ => .ok List.suffix_rfl

/-! ## Classes -/

theorem takeCaret_suffix (cs : List Char) : (takeCaret cs).2 <:+ cs := by
  unfold takeCaret
  split
  · exact List.suffix_cons _ _
  · exact List.suffix_rfl

theorem namedClass?_suffix {set : Except Fault CharSet} (h : namedClass? flags cs = some (set, rest)) :
    rest <:+ cs := by
  unfold namedClass? at h
  split at h
  · rename_i after
    simp only at h
    split at h
    · rename_i hd
      obtain ⟨set, -, heq⟩ := Option.map_eq_some_iff.mp h
      cases heq
      have hdrop := hd ▸ List.dropWhile_suffix _
      have hrest := (suffix_of_cons (List.suffix_cons _ _)).trans hdrop
      exact suffix_of_cons (hrest.trans (takeCaret_suffix after))
    · cases h
  · cases h

theorem leadingHyphens_suffix (flags : Flags) (limit : Nat) (items : ClassItems) (cs : List Char) :
    (leadingHyphens flags limit items cs).2 <:+ cs := by
  induction limit generalizing items cs with
  | zero => exact List.suffix_rfl
  | succ limit ih =>
    unfold leadingHyphens
    split
    · rename_i heq
      cases heq
      exact suffix_of_cons (suffix_of_skip (ih _ _))
    · exact List.suffix_rfl

theorem classNegation_suffix (flags : Flags) (cs : List Char) : (classNegation flags cs).2 <:+ cs := by
  unfold classNegation
  split
  · exact suffix_of_cons (flags.skip_suffix _)
  · exact List.suffix_rfl

theorem firstBracket_leaves (flags : Flags) (negated : Bool) (items : ClassItems) (cs : List Char) :
    Leaves (firstBracket flags negated items cs) cs := by
  unfold firstBracket
  split
  · exact .error _
  · refine .ite (fun _ => ?_) fun _ => .ok List.suffix_rfl
    split
    · exact .error _
    · exact .ok (suffix_of_cons (flags.skip_suffix _))
  · exact .ok List.suffix_rfl

theorem classFront_leaves (flags : Flags) (negated : Bool) (cs : List Char) :
    Leaves (classFront flags negated cs) cs :=
  (firstBracket_leaves _ _ _ _).trans (leadingHyphens_suffix _ _ _ _)

theorem classHead_leaves (flags : Flags) (cs : List Char) : Leaves (classHead flags cs) cs :=
  (classFront_leaves _ _ _).trans (suffix_of_skip (classNegation_suffix _ _))

theorem classAtom_leaves (flags : Flags) (cs : List Char) : Leaves (classAtom flags cs) cs.tail := by
  unfold classAtom
  split
  · exact .error _
  · rename_i rest
    cases rest with
    | nil => exact .error _
    | cons c rest => exact (escape_leaves flags c rest).trans (List.suffix_cons c rest)
  · exact .ok List.suffix_rfl

theorem classItemFrom_leaves (flags : Flags) (atom : Atom) (cs : List Char) :
    Leaves (classItemFrom flags atom cs) cs := by
  unfold classItemFrom
  refine .ite (fun _ => .ite (fun _ => .error _) fun _ => .map fun _ _ => List.suffix_rfl) fun _ => ?_
  split
  · exact .error _
  · refine (classAtom_leaves _ _).bind fun (last, rest) hlast => .map fun _ _ => ?_
    exact hlast.trans ((List.tail_suffix _).trans ((flags.skip_suffix _).trans (List.drop_suffix 1 cs)))

theorem classItem_leaves (flags : Flags) (cs : List Char) : Leaves (classItem flags cs) cs.tail :=
  (classAtom_leaves flags cs).bind fun (_, rest) h =>
    (classItemFrom_leaves _ _ _).trans ((flags.skip_suffix rest).trans h)

theorem setOperator?_suffix {operator : SetOperator} (h : setOperator? cs = some (operator, rest)) :
    rest <:+ cs.tail := by
  unfold setOperator? at h
  split at h
  all_goals cases h
  all_goals exact List.suffix_cons _ _

theorem classBody_leaves (flags : Flags) (limit : Nat) (current : OpenClass) (outer : List OpenClass)
    (cs : List Char) : Leaves (classBody flags limit current outer cs) cs := by
  induction limit generalizing current outer cs with
  | zero => exact .error _
  | succ limit ih =>
    unfold classBody
    simp only
    have hskip {c : Char} {rest : List Char} (hs : flags.skip cs = c :: rest) := suffix_of_skip_eq_cons hs
    split
    · exact .error _
    · rename_i rest hs
      split
      · rename_i set rest' hn
        have hrest := (namedClass?_suffix hn).trans (hskip hs)
        exact Yields.trivial.bind fun _ _ => (ih _ _ _).trans hrest
      · exact (classHead_leaves _ _).bind fun _ h => (ih _ _ _).trans (h.trans (hskip hs))
    · rename_i rest hs
      refine Yields.trivial.bind fun _ _ => ?_
      split
      · exact .ok (hskip hs)
      · exact (ih _ _ _).trans (hskip hs)
    · split
      · rename_i hop
        exact (ih _ _ _).trans (suffix_of_skip ((setOperator?_suffix hop).trans (List.tail_suffix _)))
      · exact (classItem_leaves _ _).bind fun _ h =>
          (ih _ _ _).trans (suffix_of_skip (h.trans (List.tail_suffix _)))

theorem bracketed_leaves (flags : Flags) (cs : List Char) : Leaves (bracketed flags cs) cs :=
  (classHead_leaves flags cs).bind fun _ h => (classBody_leaves _ _ _ _ _).trans h

/-! ## Groups and repetitions -/

namespace Reader

theorem readFlags_leaves (flags : Flags) (seen : List Char) (negated : Bool) (cs : List Char) :
    Leaves (readFlags flags seen negated cs) cs.tail := by
  induction cs generalizing flags seen negated with
  | nil => exact .error _
  | cons c cs ih =>
    unfold readFlags
    refine .ite (fun _ => .ite (fun _ => .error _) fun _ => .ok List.suffix_rfl) fun _ => ?_
    refine .ite (fun _ => .error _) fun _ => ?_
    refine .ite (fun _ => (ih _ _ _).trans (List.tail_suffix cs)) fun _ => ?_
    split
    · exact .error _
    · exact (ih _ _ _).trans (List.tail_suffix cs)

theorem groupName_leaves (cs : List Char) : Leaves (groupName cs) cs := by
  unfold groupName
  simp only
  split
  · rename_i hd _
    exact .ite (fun _ => .ok ((List.suffix_cons _ _).trans (hd ▸ List.dropWhile_suffix _)))
      fun _ => .error _
  · exact .error _

variable (reader : Reader)

theorem openNamed_leaves (cs : List Char) : Leaves (reader.openNamed cs) cs :=
  (groupName_leaves cs).bind fun _ h => .ite (fun _ => .error _) fun _ => .ok h

theorem openFlagged_leaves (cs : List Char) : Leaves (reader.openFlagged cs) cs.tail :=
  (readFlags_leaves _ _ _ _).bind fun _ h =>
    .ite (fun _ => .ok h) fun _ => .ite (fun _ => .ok h) fun _ => .error _

theorem openSpecial_leaves (cs : List Char) : Leaves (reader.openSpecial cs) cs := by
  unfold openSpecial
  split
  iterate 4 exact .error _
  · exact (reader.openNamed_leaves _).trans (suffix_of_cons (List.suffix_cons _ _))
  · exact (reader.openNamed_leaves _).trans (List.suffix_cons _ _)
  · exact (reader.openFlagged_leaves _).trans (List.tail_suffix _)

theorem readGroup_leaves (cs : List Char) : Leaves (reader.readGroup cs) cs := by
  unfold readGroup
  split
  · rename_i hs
    exact (reader.openSpecial_leaves _).trans (suffix_of_skip_eq_cons hs)
  · exact .ok (reader.flags.skip_suffix cs)

theorem takeLazy_suffix (cs : List Char) : (takeLazy cs).2 <:+ cs := by
  unfold takeLazy
  split
  · exact List.suffix_cons _ _
  · exact List.suffix_rfl

theorem roundsOf_leaves (flags : Flags) (digits cs : List Char) : Leaves (roundsOf flags digits cs) cs := by
  have hrest := (flags.skip_suffix _).trans (List.dropWhile_suffix Text.isBlank (l := cs))
  unfold roundsOf
  refine .ite (fun _ => .ok hrest) fun _ => .ite (fun _ => .error _) fun _ => ?_
  exact .ite (fun _ => .ok hrest) fun _ => .error _

theorem roundCount_leaves (flags : Flags) (cs : List Char) : Leaves (roundCount flags cs) cs :=
  (roundsOf_leaves _ _ _).trans ((flags.span_suffix _ _ _).trans (List.dropWhile_suffix Text.isBlank))

theorem givenRounds_leaves (flags : Flags) (cs : List Char) : Leaves (givenRounds flags cs) cs :=
  (roundCount_leaves flags cs).bind fun _ h => .ite (fun _ => .error _) fun _ => .ok h

theorem mostRounds_leaves (flags : Flags) (least : Option Nat) (cs : List Char) :
    Leaves (mostRounds flags least cs) cs := by
  unfold mostRounds
  split
  · rename_i rest
    have hskip := suffix_of_cons (c := ',') (flags.skip_suffix rest)
    split
    · rename_i hs
      exact .ok (hs ▸ hskip)
    · exact (givenRounds_leaves _ _).trans hskip
  · exact .ok List.suffix_rfl

theorem repeatRounds_leaves (least most : Option Nat) (cs : List Char) :
    Leaves (reader.repeatRounds least most cs) cs := by
  unfold repeatRounds
  split
  · rename_i rest
    refine .ite (fun _ => .error _) fun _ => Yields.trivial.bind fun _ _ => .ok (suffix_of_cons ?_)
    exact (takeLazy_suffix _).trans (reader.flags.skip_suffix rest)
  · exact .error _

theorem readRepetition_leaves (cs : List Char) : Leaves (reader.readRepetition cs) cs := by
  refine (roundCount_leaves _ _).bind fun (least, rest) h => ?_
  refine (mostRounds_leaves _ _ _).bind fun (most, rest') h' => ?_
  exact (reader.repeatRounds_leaves _ _ _).trans (h'.trans (suffix_of_skip h))

theorem step_leaves (c : Char) (cs : List Char) : Leaves (reader.step c cs) cs := by
  have hlazy := takeLazy_suffix cs
  unfold step
  simp only
  split
  · exact reader.readGroup_leaves cs
  · exact Yields.trivial.bind fun _ _ => .ok List.suffix_rfl
  · exact .ok List.suffix_rfl
  · exact (bracketed_leaves _ _).bind fun _ h => .ok h
  iterate 3 exact Yields.trivial.bind fun _ _ => .ok hlazy
  · exact reader.readRepetition_leaves cs
  · cases cs with
    | nil => exact .error _
    | cons c cs =>
      refine (escape_leaves _ _ _).bind fun (atom, rest) h => ?_
      have hrest : rest <:+ c :: cs := suffix_of_cons h
      split
      · exact Yields.trivial.bind fun _ _ => .ok hrest
      · exact .ok hrest
      · exact .ok hrest
  · exact Yields.trivial.bind fun _ _ => .ok List.suffix_rfl
  · exact .ok List.suffix_rfl
  · exact .ok List.suffix_rfl
  · exact Yields.trivial.bind fun _ _ => .ok List.suffix_rfl

end Reader

end LogPipeline.Regex
