import LogPipeline.Proofs.Regex.Rest

/-!
# Reading before a closing parenthesis

What the readers make of a text is the same with `)\z` pasted behind it, unless they take the
parenthesis for something else. What is left then holds no parenthesis any more.
-/

namespace LogPipeline.Regex

variable {flags : Flags} {cs rest tail : List Char}

/-- What is pasted behind a text to close the group around it. -/
def closing : List Char := [')', '\\', 'z']

/-- What is left of it behind the parenthesis. -/
def pastClosing : List Char := ['\\', 'z']

theorem pastClosing_suffix : pastClosing <:+ closing := List.suffix_cons _ _

/-- The reading `x` of a text with the closing behind it follows the reading `y` of the text alone: it
gives the same and leaves the closing, unless what it leaves is an end of `tail`. -/
def Follows {α : Type} (tail : List Char) (x y : Except Fault (α × List Char)) : Prop :=
  ∀ a rest, x = .ok (a, rest) → rest <:+ tail ∨ ∃ rest', rest = rest' ++ closing ∧ y = .ok (a, rest')

namespace Follows

variable {α β : Type} {a : α} {x y x' y' : Except Fault (α × List Char)}

theorem error (f : Fault) : Follows tail (.error f) y := nofun

theorem ok (rest : List Char) : Follows tail (.ok (a, rest ++ closing)) (.ok (a, rest)) := by
  rintro _ _ ⟨⟩
  exact .inr ⟨rest, rfl, rfl⟩

theorem of_leaves (h : Leaves x tail) : Follows tail x y := fun _ _ hx => .inl (h _ hx)

theorem of_fails (h : Fails x) : Follows tail x y := of_leaves h.yields

theorem past (h : rest <:+ tail) : Follows tail (.ok (a, rest)) y := of_leaves (.ok h)

theorem ite {p : Prop} [Decidable p] (h : p → Follows tail x y) (h' : ¬ p → Follows tail x' y') :
    Follows tail (if p then x else x') (if p then y else y') := by
  by_cases hp : p
  · simpa only [if_pos hp] using h hp
  · simpa only [if_neg hp] using h' hp

theorem mono {tail' : List Char} (hs : tail <:+ tail') (h : Follows tail x y) : Follows tail' x y :=
  fun a rest hx => (h a rest hx).imp_left (·.trans hs)

theorem bind_past {tail' : List Char} {f g : α × List Char → Except Fault (β × List Char)}
    (hx : Follows tail' x y) (hf : ∀ a rest, rest <:+ tail' → Leaves (f (a, rest)) tail)
    (h : ∀ a rest, y = .ok (a, rest) → Follows tail (f (a, rest ++ closing)) (g (a, rest))) :
    Follows tail (x >>= f) (y >>= g) := by
  intro b rest hb
  obtain ⟨⟨a, rest'⟩, ha, hb⟩ := bind_eq_ok.mp hb
  rcases hx a rest' ha with hpast | ⟨rest', rfl, hy⟩
  · exact .inl (hf a rest' hpast _ hb)
  · rw [hy]
    exact h a rest' hy b rest hb

theorem bind {f g : α × List Char → Except Fault (β × List Char)} (hx : Follows tail x y)
    (hf : ∀ a rest, Leaves (f (a, rest)) rest)
    (h : ∀ a rest, y = .ok (a, rest) → Follows tail (f (a, rest ++ closing)) (g (a, rest))) :
    Follows tail (x >>= f) (y >>= g) :=
  hx.bind_past (fun a rest hpast => (hf a rest).trans hpast) h

/-- A reading that goes on where another, which cannot fail, has stopped. -/
theorem next {p q : α × List Char} {f g : α → List Char → Except Fault (β × List Char)}
    (hp : Follows tail (.ok p) (.ok q)) (hf : ∀ a rest, Leaves (f a rest) rest)
    (h : ∀ a rest, q = (a, rest) → Follows tail (f a (rest ++ closing)) (g a rest)) :
    Follows tail (f p.1 p.2) (g q.1 q.2) := by
  rcases hp p.1 p.2 rfl with hpast | ⟨rest, hrest, hq⟩
  · exact of_leaves ((hf _ _).trans hpast)
  · obtain rfl : q = (p.1, rest) := by simpa using hq
    rw [hrest]
    exact h _ _ rfl

theorem onFirst {p q : α × List Char} (f : α → β) (h : Follows tail (.ok p) (.ok q)) :
    Follows tail (.ok (f p.1, p.2)) (.ok (f q.1, q.2)) :=
  h.next (fun _ _ => .ok List.suffix_rfl) fun _ rest _ => ok rest

/-- A reading that goes on with the result of a computation that reads nothing. -/
theorem after {z : Except Fault β} {f g : β → Except Fault (α × List Char)}
    (h : ∀ b, Follows tail (f b) (g b)) : Follows tail (z >>= f) (z >>= g) := by
  cases z with
  | error e => exact error e
  | ok b => exact h b

theorem map {z : Except Fault β} {f : β → α} :
    Follows tail (z.map fun b => (f b, rest ++ closing)) (z.map fun b => (f b, rest)) := by
  cases z with
  | error e => exact error e
  | ok b => exact ok rest

end Follows

/-! ## Blanks -/

theorem skipBlanks_closing (inComment : Bool) (cs : List Char) :
    skipBlanks inComment (cs ++ closing) = skipBlanks inComment cs ++ closing ∨
      skipBlanks inComment (cs ++ closing) = [] ∧ skipBlanks inComment cs = [] := by
  induction cs generalizing inComment with
  -- the closing has no end of line, so a comment takes all of it
  | nil => cases inComment <;> decide
  | cons c cs ih =>
    simp only [List.cons_append, skipBlanks]
    repeat' split
    all_goals first | exact ih _ | exact .inl rfl

/-- A comment that is open at the end of a text takes the closing with it. -/
theorem Flags.skip_closing (flags : Flags) (cs : List Char) :
    flags.skip (cs ++ closing) = flags.skip cs ++ closing ∨
      flags.skip (cs ++ closing) = [] ∧ flags.skip cs = [] := by
  unfold skip
  split
  · exact skipBlanks_closing false cs
  · exact .inl rfl

theorem Flags.skip_closing_self (flags : Flags) : flags.skip closing = closing := by
  unfold skip
  split <;> rfl

theorem Follows.skip {α : Type} {x y : List Char → Except Fault (α × List Char)}
    (hx : Leaves (x []) []) (h : Follows tail (x (flags.skip cs ++ closing)) (y (flags.skip cs))) :
    Follows tail (x (flags.skip (cs ++ closing))) (y (flags.skip cs)) := by
  rcases flags.skip_closing cs with hs | ⟨hs, -⟩
  · rwa [hs]
  · rw [hs]
    exact of_leaves (hx.trans List.nil_suffix)

theorem Follows.ok_skip {α : Type} {a : α} :
    Follows tail (.ok (a, flags.skip (cs ++ closing))) (.ok (a, flags.skip cs)) := by
  rcases flags.skip_closing cs with hs | ⟨hs, -⟩
  · rw [hs]
    exact ok _
  · rw [hs]
    exact past List.nil_suffix

theorem Flags.span_follows (flags : Flags) {kind : Char → Bool} (hkind : kind ')' = false)
    {limit limit' : Nat} {cs : List Char} (h : cs.length ≤ limit) (h' : cs.length ≤ limit') :
    Follows tail (.ok (flags.span kind limit' (cs ++ closing))) (.ok (flags.span kind limit cs)) := by
  -- a parenthesis ends what is taken, as the end of the text does
  have hnil (limit limit' : Nat) :
      Follows tail (.ok (flags.span kind limit' ([] ++ closing))) (.ok (flags.span kind limit [])) := by
    have hclosing : flags.span kind limit' closing = ([], closing) := by
      cases limit' <;> simp [span, closing, hkind]
    rw [List.nil_append, hclosing]
    cases limit <;> exact .ok []
  induction limit' generalizing limit cs with
  | zero =>
    obtain rfl := List.eq_nil_of_length_eq_zero (Nat.le_zero.mp h')
    exact hnil _ _
  | succ limit' ih =>
    cases cs with
    | nil => exact hnil _ _
    | cons c cs =>
      obtain ⟨limit, rfl⟩ := Nat.exists_eq_add_one_of_ne_zero (Nat.ne_zero_of_lt h)
      have hlength := (flags.skip_suffix cs).length_le
      simp only [List.length_cons, Nat.add_le_add_iff_right] at h h'
      simp only [List.cons_append, span]
      split
      · have hnext : Follows tail (.ok (flags.span kind limit' (flags.skip (cs ++ closing))))
            (.ok (flags.span kind limit (flags.skip cs))) := by
          rcases flags.skip_closing cs with hs | ⟨hs, -⟩
          · rw [hs]
            exact ih (by omega) (by omega)
          · rw [hs]
            exact .of_leaves (.ok ((flags.span_suffix _ _ _).trans List.nil_suffix))
        exact hnext.onFirst (c :: ·)
      · exact .ok (c :: cs)

/-! ## Escapes -/

theorem hexDigits_follows (flags : Flags) (count value : Nat) (cs : List Char) :
    Follows tail (hexDigits flags count value (cs ++ closing)) (hexDigits flags count value cs) := by
  induction count generalizing value cs with
  | zero => exact .ok _
  | succ count ih =>
    cases cs with
    | nil => exact .error _
    | cons c cs =>
      simp only [List.cons_append, hexDigits]
      split
      · exact .error _
      · exact .skip (hexDigits_leaves _ _ _ _) (ih _ _)

/-- Without a closing brace nothing is read. -/
theorem upToBrace_of_no_brace (flags : Flags) (limit : Nat) {cs : List Char} (h : '}' ∉ cs) :
    Fails (upToBrace flags limit cs) := by
  induction limit generalizing cs with
  | zero =>
    unfold upToBrace
    exact .error _
  | succ limit ih =>
    cases cs with
    | nil => exact .error _
    | cons c cs =>
      have hc := List.ne_of_not_mem_cons h
      have hcs : '}' ∉ flags.skip cs := fun hm =>
        List.not_mem_of_not_mem_cons h ((flags.skip_suffix cs).mem hm)
      refine .ite (fun heq => absurd heq.symm hc) fun _ => ?_
      exact (ih hcs).bind fun _ => False.elim

theorem upToBrace_follows (flags : Flags) {limit : Nat} (limit' : Nat) {cs : List Char}
    (h : cs.length ≤ limit) :
    Follows tail (upToBrace flags limit' (cs ++ closing)) (upToBrace flags limit cs) := by
  induction limit' generalizing limit cs with
  | zero =>
    unfold upToBrace
    exact .error _
  | succ limit' ih =>
    cases cs with
    | nil => exact .of_fails (upToBrace_of_no_brace _ _ (by decide))
    | cons c cs =>
      obtain ⟨limit, rfl⟩ := Nat.exists_eq_add_one_of_ne_zero (Nat.ne_zero_of_lt h)
      refine .ite (fun _ => .ok _) fun _ => ?_
      refine .bind ?_ (fun _ _ => .ok List.suffix_rfl) fun _ _ _ => .ok _
      refine .skip (upToBrace_leaves _ _ _) (ih ?_)
      exact Nat.le_trans (flags.skip_suffix cs).length_le (Nat.le_of_succ_le_succ h)

theorem hexEscape_follows (flags : Flags) {width : Nat} (hwidth : 0 < width) (cs : List Char) :
    Follows tail (hexEscape flags width (cs ++ closing)) (hexEscape flags width cs) := by
  unfold hexEscape
  rcases flags.skip_closing cs with hs | ⟨hs, -⟩
  · rw [hs]
    generalize flags.skip cs = cs
    cases cs with
    | nil =>
      obtain ⟨width, rfl⟩ := Nat.exists_eq_add_one_of_ne_zero (Nat.ne_zero_of_lt hwidth)
      exact .error _
    | cons c cs =>
      by_cases hc : c = '{'
      · subst hc
        refine .bind ?_ (fun _ rest => ?_) fun _ _ _ => .after fun _ => .ok_skip
        · refine .skip (upToBrace_leaves _ _ _) (upToBrace_follows flags _ ?_)
          exact (flags.skip_suffix cs).length_le
        · exact Yields.trivial.bind fun _ _ => .ok (flags.skip_suffix rest)
      · simp only [List.cons_append, List.cons.injEq, hc, false_and, imp_self, implies_true]
        refine .bind (hexDigits_follows flags width 0 (c :: cs)) (fun value rest => ?_) fun value rest _ => ?_
        all_goals simp only; split
        · exact .error _
        · exact .ok List.suffix_rfl
        · exact .error _
        · exact .ok _
  · rw [hs]
    exact .error _

theorem propertyEscape_follows (flags : Flags) (negated : Bool) (cs : List Char) :
    Follows pastClosing (propertyEscape flags negated (cs ++ closing))
      (propertyEscape flags negated cs) := by
  unfold propertyEscape
  rcases flags.skip_closing cs with hs | ⟨hs, -⟩
  · rw [hs]
    generalize flags.skip cs = cs
    cases cs with
    -- the parenthesis is taken for the name of the property
    | nil => exact .of_leaves (Yields.trivial.bind fun _ _ => .ok (flags.skip_suffix _))
    | cons c cs =>
      by_cases hc : c = '{'
      · subst hc
        refine .bind ?_ (fun _ rest => ?_) fun _ _ _ => .after fun _ => .ok _
        · refine .skip (upToBrace_leaves _ _ _) (upToBrace_follows flags _ ?_)
          exact (flags.skip_suffix cs).length_le
        · exact Yields.trivial.bind fun _ _ => .ok List.suffix_rfl
      · by_cases hc' : c = '\\'
        · subst hc'
          exact .error _
        · simp only [List.cons_append]
          exact .after fun _ => .ok_skip
  · rw [hs]
    exact .error _

theorem specialWord_follows (flags : Flags) (name cs : List Char) :
    Follows tail (specialWord flags name (cs ++ closing)) (specialWord flags name cs) := by
  cases cs with
  | nil => exact .error _
  | cons c cs =>
    by_cases hc : c = '}'
    · subst hc
      iterate 4 refine .ite (fun _ => .ok _) fun _ => ?_
      exact .error _
    · unfold specialWord
      simp only [List.cons_append, List.cons.injEq, hc, false_and, imp_self, implies_true]
      exact .error _

/-- An opening brace that nothing but blanks follow. Behind `\b` it is an error in a text alone. With the
closing behind it no name of a word condition follows either, and the brace is left. -/
def Dangling (flags : Flags) (cs : List Char) : Prop := ∃ blanks, cs = '{' :: blanks ∧ flags.skip blanks = []

theorem wordCondition_of_dangling (h : Dangling flags cs) :
    Leaves (wordCondition flags (cs ++ closing)) pastClosing ∨
      wordCondition flags (cs ++ closing) = .ok (.look (.wordBoundary flags.word), cs ++ closing) := by
  obtain ⟨blanks, rfl, hblanks⟩ := h
  unfold wordCondition
  simp only [List.cons_append]
  rcases flags.skip_closing blanks with hs | ⟨hs, -⟩
  · rw [hs, hblanks]
    exact .inr rfl
  · rw [hs]
    exact .inl (.error _)

theorem wordCondition_follows (h : ¬ Dangling flags cs) :
    Follows pastClosing (wordCondition flags (cs ++ closing)) (wordCondition flags cs) := by
  cases cs with
  | nil => exact .ok []
  | cons c cs =>
    by_cases hc : c = '{'
    · subst hc
      unfold wordCondition
      simp only [List.cons_append]
      rcases flags.skip_closing cs with hs | ⟨hs, -⟩
      · cases hcs : flags.skip cs with
        | nil => exact absurd ⟨cs, rfl, hcs⟩ h
        | cons c inner =>
          rw [hs, hcs]
          refine .ite (fun _ => ?_) fun _ => .ok ('{' :: cs)
          have hname : Follows pastClosing
              (.ok (flags.span isWordConditionChar ((c :: inner) ++ closing).length ((c :: inner) ++ closing)))
              (.ok (flags.span isWordConditionChar (c :: inner).length (c :: inner))) :=
            flags.span_follows rfl (Nat.le_refl _) (by simp)
          exact hname.next (specialWord_leaves flags) fun _ _ _ => specialWord_follows flags _ _
      · rw [hs]
        exact .error _
    · unfold wordCondition
      simp only [List.cons_append, List.cons.injEq, hc, false_and, imp_self, implies_true]
      exact .ok (c :: cs)

theorem escape_of_dangling (h : Dangling flags cs) :
    Leaves (escape flags ('b' :: cs ++ closing)) pastClosing ∨
      escape flags ('b' :: cs ++ closing) = .ok (.look (.wordBoundary flags.word), cs ++ closing) :=
  wordCondition_of_dangling h

theorem escape_follows (h : ∀ rest, cs = 'b' :: rest → ¬ Dangling flags rest) :
    Follows pastClosing (escape flags (cs ++ closing)) (escape flags cs) := by
  cases cs with
  -- a backslash at the end of the text escapes the parenthesis
  | nil => exact .of_leaves (escape_leaves flags ')' pastClosing)
  | cons c cs =>
    simp only [List.cons_append, escape]
    refine .ite (fun _ => .error _) fun _ => ?_
    refine .ite (fun _ => hexEscape_follows _ (by decide) _) fun _ => ?_
    refine .ite (fun _ => hexEscape_follows _ (by decide) _) fun _ => ?_
    refine .ite (fun _ => hexEscape_follows _ (by decide) _) fun _ => ?_
    refine .ite (fun _ => propertyEscape_follows _ _ _) fun _ => ?_
    refine .ite (fun _ => propertyEscape_follows _ _ _) fun _ => ?_
    refine .ite (fun _ => .map) fun _ => ?_
    iterate 8 refine .ite (fun _ => .ok _) fun _ => ?_
    refine .ite (fun hc => wordCondition_follows (h cs (hc ▸ rfl))) fun _ => ?_
    iterate 3 refine .ite (fun _ => .ok _) fun _ => ?_
    exact .ite (fun _ => .error _) fun _ => .ok _

/-! ## Classes -/

/-- Cutting at a character that the closing does not hold cuts at the same place. -/
theorem span_closing (p : Char → Bool) (hp : closing.dropWhile p = []) (cs : List Char) :
    (cs ++ closing).dropWhile p = [] ∧ cs.dropWhile p = [] ∨
      (cs ++ closing).dropWhile p = cs.dropWhile p ++ closing ∧
        (cs ++ closing).takeWhile p = cs.takeWhile p := by
  induction cs with
  | nil => exact .inl ⟨hp, rfl⟩
  | cons c cs ih =>
    cases hc : p c
    · exact .inr ⟨by simp [hc], by simp [hc]⟩
    · simpa [hc] using ih

theorem takeCaret_closing (cs : List Char) :
    takeCaret (cs ++ closing) = ((takeCaret cs).1, (takeCaret cs).2 ++ closing) := by
  cases cs with
  | nil => rfl
  | cons c cs =>
    by_cases hc : c = '^'
    · subst hc
      rfl
    · unfold takeCaret
      simp only [List.cons_append, List.cons.injEq, hc, false_and, imp_self, implies_true]

theorem namedClass?_closing (flags : Flags) (cs : List Char) :
    namedClass? flags (cs ++ closing) =
      (namedClass? flags cs).map fun result => (result.1, result.2 ++ closing) := by
  cases cs with
  | nil => rfl
  | cons c cs =>
    by_cases hc : c = ':'
    · subst hc
      unfold namedClass?
      simp only [List.cons_append, takeCaret_closing]
      generalize (takeCaret cs).2 = cs
      rcases span_closing (· != ':') rfl cs with ⟨h, h'⟩ | ⟨h, h'⟩
      · rw [h, h']
        rfl
      · -- the colon behind the name is in the text; a bracket behind it is not the closing either
        rw [h, h']
        cases cs.dropWhile (· != ':') with
        | nil => rfl
        | cons d ds =>
          by_cases hd : d = ':'
          · subst hd
            cases ds with
            | nil => rfl
            | cons d ds =>
              by_cases hd : d = ']'
              · subst hd
                simp only [List.cons_append, Option.map_map]
                rfl
              · simp only [List.cons_append, List.cons.injEq, hd, false_and, and_false, imp_self,
                  implies_true, Option.map_none]
          · simp only [List.cons_append, List.cons.injEq, hd, false_and, imp_self, implies_true,
              Option.map_none]
    · unfold namedClass?
      simp only [List.cons_append, List.cons.injEq, hc, false_and, imp_self, implies_true]
      rfl

theorem leadingHyphens_follows (flags : Flags) {limit limit' : Nat} (items : ClassItems) {cs : List Char}
    (h : cs.length ≤ limit) (h' : cs.length ≤ limit') :
    Follows tail (.ok (leadingHyphens flags limit' items (cs ++ closing)))
      (.ok (leadingHyphens flags limit items cs)) := by
  induction limit' generalizing limit items cs with
  | zero =>
    obtain rfl := List.eq_nil_of_length_eq_zero (Nat.le_zero.mp h')
    cases limit <;> exact .ok []
  | succ limit' ih =>
    cases cs with
    | nil => cases limit <;> exact .ok []
    | cons c cs =>
      obtain ⟨limit, rfl⟩ := Nat.exists_eq_add_one_of_ne_zero (Nat.ne_zero_of_lt h)
      have hlength := (flags.skip_suffix cs).length_le
      simp only [List.length_cons, Nat.add_le_add_iff_right] at h h'
      by_cases hc : c = '-'
      · subst hc
        simp only [List.cons_append, leadingHyphens]
        rcases flags.skip_closing cs with hs | ⟨hs, -⟩
        · rw [hs]
          exact ih _ (by omega) (by omega)
        · rw [hs]
          exact .of_leaves (.ok ((leadingHyphens_suffix _ _ _ _).trans List.nil_suffix))
      · unfold leadingHyphens
        simp only [List.cons_append, List.cons.injEq, hc, false_and, imp_self, implies_true]
        exact .ok (c :: cs)

theorem classNegation_follows (flags : Flags) (cs : List Char) :
    Follows tail (.ok (classNegation flags (cs ++ closing))) (.ok (classNegation flags cs)) := by
  cases cs with
  | nil => exact .ok []
  | cons c cs =>
    by_cases hc : c = '^'
    · subst hc
      exact .ok_skip
    · unfold classNegation
      simp only [List.cons_append, List.cons.injEq, hc, false_and, imp_self, implies_true]
      exact .ok (c :: cs)

theorem firstBracket_follows (flags : Flags) (negated : Bool) (items : ClassItems) (cs : List Char) :
    Follows closing (firstBracket flags negated items (cs ++ closing))
      (firstBracket flags negated items cs) := by
  cases cs with
  | nil => exact .past List.suffix_rfl
  | cons c cs =>
    by_cases hc : c = ']'
    · subst hc
      simp only [List.cons_append, firstBracket]
      refine .ite (fun _ => ?_) fun _ => .ok (']' :: cs)
      rcases flags.skip_closing cs with hs | ⟨hs, -⟩
      · rw [hs]
        cases flags.skip cs with
        | nil => exact .past List.suffix_rfl
        | cons c cs => exact .ok (c :: cs)
      · rw [hs]
        exact .error _
    · unfold firstBracket
      simp only [List.cons_append, List.cons.injEq, hc, false_and, imp_self, implies_true]
      exact .ok (c :: cs)

theorem classFront_follows (flags : Flags) (negated : Bool) (cs : List Char) :
    Follows closing (classFront flags negated (cs ++ closing)) (classFront flags negated cs) := by
  have hhyphens : Follows closing (.ok (leadingHyphens flags (cs ++ closing).length {} (cs ++ closing)))
      (.ok (leadingHyphens flags cs.length {} cs)) :=
    leadingHyphens_follows flags {} (Nat.le_refl _) (by simp)
  exact hhyphens.next (firstBracket_leaves flags negated) fun _ _ _ => firstBracket_follows flags negated _ _

theorem classHead_follows (flags : Flags) (cs : List Char) :
    Follows closing (classHead flags (cs ++ closing)) (classHead flags cs) := by
  unfold classHead
  rcases flags.skip_closing cs with hs | ⟨hs, -⟩
  · rw [hs]
    exact (classNegation_follows flags _).next (classFront_leaves flags) fun _ _ _ =>
      classFront_follows flags _ _
  · rw [hs]
    exact .error _

theorem classAtom_follows (flags : Flags) (cs : List Char) :
    Follows closing (classAtom flags (cs ++ closing)) (classAtom flags cs) ∨
      ∃ condition rest, classAtom flags (cs ++ closing) = .ok (.look condition, rest) := by
  cases cs with
  | nil => exact .inl (.past pastClosing_suffix)
  | cons c cs =>
    by_cases hc : c = '\\'
    · subst hc
      by_cases h : ∃ rest, cs = 'b' :: rest ∧ Dangling flags rest
      · obtain ⟨rest, rfl, h⟩ := h
        rcases escape_of_dangling h with h | h
        · exact .inl (.of_leaves (h.trans pastClosing_suffix))
        · exact .inr ⟨_, _, h⟩
      · exact .inl ((escape_follows (by grind)).mono pastClosing_suffix)
    · unfold classAtom
      simp only [List.cons_append]
      exact .inl (.ok cs)

theorem head?_closing {d : Char} (hd : d ∉ closing) (cs : List Char) :
    ((cs ++ closing).head? == some d) = (cs.head? == some d) := by
  cases cs with
  | nil => simpa [closing] using (List.ne_of_not_mem_cons hd).symm
  | cons c cs => rfl

theorem dropBlanks_closing (cs : List Char) :
    (cs ++ closing).dropWhile Text.isBlank = cs.dropWhile Text.isBlank ++ closing := by
  rw [List.dropWhile_append]
  split
  · rename_i h
    rw [List.isEmpty_iff.mp h]
    rfl
  · rfl

theorem afterHyphen_closing (flags : Flags) {d : Char} (hd : d ∉ closing) (c : Char) (cs : List Char) :
    (afterHyphen flags (c :: cs ++ closing) == some d) = (afterHyphen flags (c :: cs) == some d) := by
  unfold afterHyphen
  split
  · simp only [List.cons_append, List.drop_succ_cons, List.drop_zero, dropBlanks_closing]
    cases cs.dropWhile Text.isBlank with
    | nil => exact head?_closing hd []
    | cons c cs =>
      by_cases hc : c = '#'
      · subst hc
        simp only [List.cons_append, dropBlanks_closing]
        exact head?_closing hd _
      · simp only [List.cons_append, List.cons.injEq, hc, false_and, imp_self, implies_true]
        rfl
  · exact head?_closing hd cs

/-! A condition, as `\b` with a dangling brace leaves one, is no item of a class and no end of a range. -/

theorem rangeSet_of_look (flags : Flags) (first : Atom) (condition : Look) (rest : List Char) :
    Fails ((rangeSet flags first (.look condition)).map (·, rest)) := by
  cases h : classChar flags first <;> simp only [rangeSet, h] <;> exact .error _

theorem classItemFrom_of_look (flags : Flags) (condition : Look) (cs : List Char) :
    Fails (classItemFrom flags (.look condition) cs) := by
  unfold classItemFrom
  refine .ite (fun _ => .ite (fun _ => .error _) fun _ => .error _) fun _ => ?_
  split
  · exact .error _
  · exact Yields.trivial.bind fun _ _ => .error _

theorem classItemFrom_follows (flags : Flags) (atom : Atom) (cs : List Char) :
    Follows closing (classItemFrom flags atom (cs ++ closing)) (classItemFrom flags atom cs) := by
  cases cs with
  | nil => exact .of_leaves (classItemFrom_leaves flags atom closing)
  | cons c cs =>
    have hrest {last : Atom} {rest : List Char} : Leaves ((rangeSet flags atom last).map (·, rest)) rest :=
      .map fun _ _ => List.suffix_rfl
    have hbracket : ']' ∉ closing := by decide
    have hhyphen : '-' ∉ closing := by decide
    -- so that a hyphen makes a range with the closing exactly if it makes one without
    simp only [classItemFrom, afterHyphen_closing flags hbracket, afterHyphen_closing flags hhyphen]
    refine .ite (fun _ => .map) fun _ => ?_
    simp only [List.cons_append, List.drop_succ_cons, List.drop_zero]
    rcases flags.skip_closing cs with hs | ⟨hs, -⟩
    · rw [hs]
      cases flags.skip cs with
      | nil =>
        refine .of_leaves ((classAtom_leaves flags closing).bind fun _ h => ?_)
        exact hrest.trans (h.trans pastClosing_suffix)
      | cons d ds =>
        rcases classAtom_follows flags (d :: ds) with h | ⟨condition, rest, h⟩
        · exact h.bind (fun _ _ => hrest) fun _ _ _ => .map
        · simp only [List.cons_append] at h ⊢
          rw [h]
          exact .of_fails (rangeSet_of_look flags atom condition rest)
    · rw [hs]
      exact .error _

theorem classItem_follows (flags : Flags) (cs : List Char) :
    Follows closing (classItem flags (cs ++ closing)) (classItem flags cs) := by
  unfold classItem
  rcases classAtom_follows flags cs with h | ⟨condition, rest, h⟩
  · refine h.bind (fun atom rest => ?_) fun atom rest _ => ?_
    · exact (classItemFrom_leaves _ _ _).trans (flags.skip_suffix rest)
    · exact .skip (classItemFrom_leaves _ _ _) (classItemFrom_follows flags atom _)
  · rw [h]
    exact .of_fails (classItemFrom_of_look flags condition _)

theorem setOperator?_closing (c : Char) (cs : List Char) :
    setOperator? (c :: cs ++ closing) =
      (setOperator? (c :: cs)).map fun result => (result.1, result.2 ++ closing) := by
  unfold setOperator?
  cases cs <;> split <;> simp_all [closing]

/-- Without a closing bracket no class is read. -/
theorem classBody_of_no_bracket (flags : Flags) (limit : Nat) (current : OpenClass)
    (outer : List OpenClass) {cs : List Char} (h : ']' ∉ cs) :
    Fails (classBody flags limit current outer cs) := by
  induction limit generalizing current outer cs with
  | zero => exact .error _
  | succ limit ih =>
    unfold classBody
    simp only
    replace h : ']' ∉ flags.skip cs := fun hm => h ((flags.skip_suffix cs).mem hm)
    generalize flags.skip cs = cs at h ⊢
    replace ih {current : OpenClass} {outer : List OpenClass} {rest : List Char} (hrest : rest <:+ cs) :
        Fails (classBody flags limit current outer rest) := ih _ _ fun hm => h (hrest.mem hm)
    split
    · exact .error _
    · split
      · rename_i hn
        exact Yields.trivial.bind fun _ _ => ih (suffix_of_cons (namedClass?_suffix hn))
      · exact (classHead_leaves _ _).bind fun _ hrest => ih (suffix_of_cons hrest)
    · exact absurd List.mem_cons_self h
    · split
      · rename_i hop
        exact ih ((setOperator?_suffix hop).trans (List.tail_suffix _))
      · exact (classItem_leaves _ _).bind fun _ hrest => ih (hrest.trans (List.tail_suffix _))

theorem classBody_past (flags : Flags) (limit : Nat) (current : OpenClass) (outer : List OpenClass)
    (h : cs <:+ closing) : Leaves (classBody flags limit current outer cs) tail := by
  have hbracket : ']' ∉ closing := by decide
  exact (classBody_of_no_bracket _ _ _ _ fun hm => hbracket (h.mem hm)).yields

theorem classBody_follows (flags : Flags) {limit : Nat} (limit' : Nat) (current : OpenClass)
    (outer : List OpenClass) {cs : List Char} (h : cs.length < limit) :
    Follows tail (classBody flags limit' current outer (cs ++ closing))
      (classBody flags limit current outer cs) := by
  -- on the rounds that are left with the closing; the text alone only has enough of them
  induction limit' generalizing limit current outer cs with
  | zero => exact .error _
  | succ limit' ih =>
    obtain ⟨limit, rfl⟩ := Nat.exists_eq_add_one_of_ne_zero (Nat.ne_zero_of_lt h)
    unfold classBody
    simp only
    rcases flags.skip_closing cs with hs | ⟨hs, -⟩
    · rw [hs]
      have hlength := Nat.lt_of_le_of_lt (flags.skip_suffix cs).length_le h
      generalize flags.skip cs = cs at hlength ⊢
      cases cs with
      | nil =>
        -- the class is open at the end of the text, and the closing becomes an item of it
        refine .of_leaves ((classItem_leaves flags closing).bind fun _ h => ?_)
        exact classBody_past _ _ _ _ (h.trans pastClosing_suffix)
      | cons c cs =>
        -- what is left behind `c` is short enough for the rounds that are left
        replace ih {current : OpenClass} {outer : List OpenClass} {rest : List Char} (hrest : rest <:+ cs) :
            Follows tail (classBody flags limit' current outer (rest ++ closing))
              (classBody flags limit current outer rest) := by
          have := hrest.length_le
          exact ih _ _ (by simp only [List.length_cons] at hlength; omega)
        by_cases hopen : c = '['
        · subst hopen
          simp only [List.cons_append, namedClass?_closing]
          cases hn : namedClass? flags cs with
          | none =>
            refine (classHead_follows flags cs).bind_past (fun _ _ => classBody_past _ _ _ _) ?_
            exact fun head rest hhead => ih (classHead_leaves flags cs _ hhead)
          | some result => exact .after fun _ => ih (namedClass?_suffix hn)
        · by_cases hclose : c = ']'
          · subst hclose
            refine .after fun _ => ?_
            split
            · exact .ok cs
            · exact ih List.suffix_rfl
          · have hop := setOperator?_closing c cs
            simp only [List.cons_append] at hop
            simp only [List.cons_append, List.cons.injEq, hopen, hclose, false_and, imp_self,
              implies_true, hop]
            cases ho : setOperator? (c :: cs) with
            | none =>
              refine (classItem_follows flags (c :: cs)).bind_past (fun _ _ => classBody_past _ _ _ _) ?_
              exact fun item rest hitem => ih (classItem_leaves flags (c :: cs) _ hitem)
            | some result => exact ih (setOperator?_suffix ho)
    · rw [hs]
      exact .error _

theorem bracketed_follows (flags : Flags) (cs : List Char) :
    Follows tail (bracketed flags (cs ++ closing)) (bracketed flags cs) := by
  refine (classHead_follows flags cs).bind_past (fun _ _ => classBody_past _ _ _ _) ?_
  intro head rest hhead
  exact classBody_follows _ _ _ _ (Nat.lt_succ_of_le (classHead_leaves flags cs _ hhead).length_le)

end LogPipeline.Regex
