import LogPipeline.Grok.Registry
import LogPipeline.Proofs.Keyed
import LogPipeline.Proofs.Text.Trimming
import Mathlib.Data.List.Forall2
import Mathlib.Data.List.ReduceOption

/-!
# Pattern files

A line of a pattern file is blank, a comment, or a name and what it stands for with blanks between and around them;
any other line is at fault. Loading a text puts the definitions of its lines in, one after the other, up to the first
faulty line.
-/

namespace LogPipeline.Grok

open Text (isBlank IsGap Bare)

/-- What a line says: nothing if it is blank or a comment, and otherwise what a name stands for. -/
inductive LineDefines (line : List Char) : Option (String × String) → Prop
  | blank (h : IsGap line) : LineDefines line none
  | comment {before text : List Char} (hb : IsGap before) (h : line = before ++ '#' :: text) :
      LineDefines line none
  | pair {before name gap expression after : List Char} (hb : IsGap before) (hname : name ≠ [])
      (hmark : name.head? ≠ some '#') (hwhole : ∀ c ∈ name, isBlank c = false) (hg : IsGap gap)
      (hsome : gap ≠ []) (hexpression : expression ≠ []) (hbare : Bare expression) (ha : IsGap after)
      (h : line = before ++ (name ++ (gap ++ (expression ++ after)))) :
      LineDefines line (some (String.ofList name, String.ofList expression))

/-- What is wrong with a line: there is a single word on it, or what it defines has no proper name. -/
inductive LineFault (number : Nat) (line : List Char) : ConfigError → Prop
  | single {before word after : List Char} (hb : IsGap before) (hword : word ≠ []) (hmark : word.head? ≠ some '#')
      (hwhole : ∀ c ∈ word, isBlank c = false) (ha : IsGap after) (h : line = before ++ (word ++ after)) :
      LineFault number line
        (.invalidPatternDefinition number ("expected 'NAME expression', got '" ++ String.ofList word ++ "'"))
  | name {definition : String × String} (h : LineDefines line (some definition))
      (hname : Registry.isName definition.1 = false) : LineFault number line (.invalidPatternName definition.1)

/-- The definitions of a text are those of its lines. -/
def TextDefines (text : String) (definitions : List (String × String)) : Prop :=
  ∃ marks, List.Forall₂ LineDefines (text.toList.splitOn '\n') marks ∧ definitions = marks.reduceOption

/-- The set with more definitions. -/
def Registry.defineAll (registry : Registry) (definitions : List (String × String)) : Registry :=
  ⟨registry.definitions.insertAll definitions⟩

/-- One thing loaded and, if nothing was wrong with it, another one. -/
def Registry.andThen (result : Registry × Except ConfigError Nat)
    (next : Registry → Nat → Registry × Except ConfigError Nat) : Registry × Except ConfigError Nat :=
  match result with
  | (after, .error e) => (after, .error e)
  | (between, .ok added) => next between added

variable {line : List Char} {lines : List (List Char)} {mark mark' : Option (String × String)}
  {number count total : Nat} {registry after : Registry} {text : String} {definition : String × String}
  {definitions definitions' : List (String × String)} {e : ConfigError}

/-! ## Lines -/

namespace Registry

theorem lineDefines_of_definition? (h : definition? number line = .ok mark) : LineDefines line mark := by
  obtain ⟨⟨hfront, hback⟩, before, after, hb, ha, hline⟩ := Text.trim_spec line
  simp only [definition?] at h
  generalize hbody : Text.trim line = body at h hfront hback hline
  split at h
  · cases h
    rename_i hskip
    cases body with
    | nil => exact .blank (Text.trim_eq_nil_iff.mp hbody)
    | cons c rest =>
      obtain rfl : c = '#' := by simpa using hskip
      exact .comment hb hline
  split at h
  · cases h
  rename_i hskip hempty
  cases h
  obtain ⟨hbare, gap, after', hg, ha', htail⟩ := Text.trim_spec (body.dropWhile fun c => !isBlank c)
  generalize htrim : Text.trim (body.dropWhile fun c => !isBlank c) = expression at hempty hbare htail ⊢
  have hcut := @List.takeWhile_append_dropWhile _ (fun c => !isBlank c) body
  generalize hname : (body.takeWhile fun c => !isBlank c) = name at hcut ⊢
  rw [htail] at hcut
  have hwhole : ∀ c ∈ name, isBlank c = false := fun c hc => by
    rw [← hname] at hc
    simpa using List.all_eq_true.mp List.all_takeWhile c hc
  cases body with
  | nil => simp at hskip
  | cons c rest =>
    have hc : isBlank c = false := by simpa using hfront
    rw [List.takeWhile_cons_of_pos (by simp [hc])] at hname
    have hrest : IsGap (after' ++ after) := fun d hd => (List.mem_append.mp hd).elim (ha' d) (ha d)
    refine .pair hb (by simp [← hname]) (by simpa [← hname] using hskip) hwhole hg ?_ (by simpa using hempty)
      hbare hrest ?_
    · -- the name ends at a blank
      rintro rfl
      have hhead := List.head?_dropWhile_not (fun c => !isBlank c) (c :: rest)
      have hfirst := hbare.front
      rw [htail] at hhead
      cases expression with
      | nil => simp at hempty
      | cons d expression => simp_all
    · rw [hline, ← hcut]
      simp only [List.append_assoc]

theorem definition?_of_lineDefines (number : Nat) (h : LineDefines line mark) :
    definition? number line = .ok mark := by
  cases h with
  | blank h => simp [definition?, Text.trim_eq_nil_iff.mpr h]
  | comment hb h =>
    rw [definition?, h, Text.head?_trim hb rfl]
    simp
  | @pair before name gap expression after hb hname hmark hwhole hg hsome hexpression hbare ha h =>
    have hline : Text.trim line = name ++ (gap ++ expression) := by
      refine Text.trim_eq_iff.mpr ⟨⟨?_, ?_⟩, before, after, hb, ha, by simpa using h⟩
      · rw [List.head?_append_of_ne_nil _ hname]
        cases name with
        | nil => rfl
        | cons c name => simpa using hwhole c
      · rw [← List.append_assoc, List.getLast?_append_of_ne_nil _ hexpression]
        exact hbare.back
    have htake : (name ++ (gap ++ expression)).takeWhile (fun c => !isBlank c) = name ∧
        (name ++ (gap ++ expression)).dropWhile (fun c => !isBlank c) = gap ++ expression := by
      have hpos : ∀ c ∈ name, (!isBlank c) = true := fun c hc => by simp [hwhole c hc]
      rw [List.takeWhile_append_of_pos hpos, List.dropWhile_append_of_pos hpos]
      cases gap with
      | nil => exact absurd rfl hsome
      | cons c gap => simp [hg c List.mem_cons_self]
    have htrim : Text.trim (gap ++ expression) = expression :=
      Text.trim_eq_iff.mpr ⟨hbare, gap, [], hg, nofun, by simp⟩
    have hskip : ((name ++ (gap ++ expression)).isEmpty ||
        (name ++ (gap ++ expression)).head? == some '#') = false := by
      rw [List.head?_append_of_ne_nil _ hname]
      simp [hname, hmark]
    simp only [definition?, hline, hskip, htake.1, htake.2, htrim, Bool.false_eq_true, if_false]
    rw [if_neg (by simpa using hexpression)]

theorem definition?_eq_ok_iff : definition? number line = .ok mark ↔ LineDefines line mark :=
  ⟨lineDefines_of_definition?, definition?_of_lineDefines number⟩

end Registry

theorem LineDefines.unique (h : LineDefines line mark) (h' : LineDefines line mark') : mark = mark' := by
  have hread := Registry.definition?_of_lineDefines 0 h
  exact Except.ok.inj (hread.symm.trans (Registry.definition?_of_lineDefines 0 h'))

theorem TextDefines.unique (h : TextDefines text definitions) (h' : TextDefines text definitions') :
    definitions = definitions' := by
  obtain ⟨marks, hm, rfl⟩ := h
  obtain ⟨marks', hm', rfl⟩ := h'
  have hunique : Relator.RightUnique LineDefines := fun _ _ _ => LineDefines.unique
  rw [hunique.forall₂ hm hm']

/-! ## Texts -/

namespace Registry

theorem lineFault_of_definition? (h : definition? number line = .error e) : LineFault number line e := by
  obtain ⟨⟨hfront, hback⟩, before, after, hb, ha, hline⟩ := Text.trim_spec line
  simp only [definition?] at h
  generalize Text.trim line = word at h hfront hback hline
  split at h
  · cases h
  rename_i hskip
  split at h
  · rename_i hempty
    cases h
    obtain ⟨hword, hmark⟩ : word ≠ [] ∧ word.head? ≠ some '#' := by simpa using hskip
    have hcut := @List.takeWhile_append_dropWhile _ (fun c => !isBlank c) word
    have hgap : IsGap (word.dropWhile fun c => !isBlank c) := Text.trim_eq_nil_iff.mp (by simpa using hempty)
    -- a blank in the word would be followed by blanks only, and the word does not end with one
    have hnone : word.dropWhile (fun c => !isBlank c) = [] := by
      by_contra hne
      rw [← hcut, List.getLast?_append_of_ne_nil _ hne] at hback
      obtain ⟨c, hc⟩ := Option.isSome_iff_exists.mp (List.getLast?_isSome.mpr hne)
      simp [hc, hgap c (List.mem_of_getLast? hc)] at hback
    refine .single hb hword hmark (fun c hc => ?_) ha hline
    simpa using List.dropWhile_eq_nil_iff.mp hnone c hc
  · cases h

theorem definition?_single {before word after : List Char} (hb : IsGap before) (hword : word ≠ [])
    (hmark : word.head? ≠ some '#') (hwhole : ∀ c ∈ word, isBlank c = false) (ha : IsGap after) :
    definition? number (before ++ (word ++ after)) = .error
      (.invalidPatternDefinition number ("expected 'NAME expression', got '" ++ String.ofList word ++ "'")) := by
  have htrim : Text.trim (before ++ (word ++ after)) = word := by
    refine Text.trim_eq_iff.mpr ⟨⟨?_, ?_⟩, before, after, hb, ha, rfl⟩
    · cases h : word.head? with
      | none => rfl
      | some c => simpa using hwhole c (List.mem_of_head? h)
    · cases h : word.getLast? with
      | none => rfl
      | some c => simpa using hwhole c (List.mem_of_getLast? h)
  have hnone : word.dropWhile (fun c => !isBlank c) = [] :=
    List.dropWhile_eq_nil_iff.mpr fun c hc => by simp [hwhole c hc]
  have hskip : (word.isEmpty || word.head? == some '#') = false := by simp [hword, hmark]
  have hempty : Text.trim [] = [] := rfl
  simp only [definition?, htrim, hskip, hnone, hempty, Bool.false_eq_true, if_false, List.isEmpty_nil, if_true]

theorem define_of_isName {name : String} (h : isName name = true) (expression : String) :
    registry.define name expression = .ok (registry.defineAll [(name, expression)]) := by
  simp [define, h, Registry.defineAll, Keyed.insertAll]

theorem loadLines_cons_of_none (h : LineDefines line none) :
    registry.loadLines number count (line :: lines) = registry.loadLines (number + 1) count lines := by
  rw [loadLines, definition?_of_lineDefines number h]

theorem loadLines_cons_of_some (h : LineDefines line (some definition)) (hn : isName definition.1 = true) :
    registry.loadLines number count (line :: lines) =
      (registry.defineAll [definition]).loadLines (number + 1) (count + 1) lines := by
  simp [loadLines, definition?_of_lineDefines number h, define_of_isName hn]

theorem loadLines_cons_of_fault (h : LineFault number line e) :
    registry.loadLines number count (line :: lines) = (registry, .error e) := by
  cases h with
  | single hb hword hmark hwhole ha h => rw [loadLines, h, definition?_single hb hword hmark hwhole ha]
  | name h hname => simp [loadLines, definition?_of_lineDefines number h, define, hname]

/-- The three things that a line can do. -/
theorem line_cases (number : Nat) (line : List Char) :
    LineDefines line none ∨
      (∃ definition, LineDefines line (some definition) ∧ isName definition.1 = true) ∨
      ∃ e, LineFault number line e := by
  cases hline : definition? number line with
  | error e => exact .inr (.inr ⟨e, lineFault_of_definition? hline⟩)
  | ok mark =>
    have hdefines := definition?_eq_ok_iff.mp hline
    cases mark with
    | none => exact .inl hdefines
    | some definition =>
      cases hname : isName definition.1 with
      | true => exact .inr (.inl ⟨definition, hdefines, hname⟩)
      | false => exact .inr (.inr ⟨_, .name hdefines hname⟩)

theorem loadLines_append (above lines : List (List Char)) :
    registry.loadLines number count (above ++ lines) =
      andThen (registry.loadLines number count above) fun between added =>
        between.loadLines (number + above.length) added lines := by
  induction above generalizing registry number count with
  | nil => rfl
  | cons line above ih =>
    have hlength : number + (line :: above).length = number + 1 + above.length := by simp; omega
    rw [List.cons_append, hlength]
    rcases line_cases number line with h | ⟨definition, h, hn⟩ | ⟨e, h⟩
    · rw [loadLines_cons_of_none h, loadLines_cons_of_none h, ih]
    · rw [loadLines_cons_of_some h hn, loadLines_cons_of_some h hn, ih]
    · rw [loadLines_cons_of_fault h, loadLines_cons_of_fault h]
      rfl

theorem loadLines_eq_ok (h : registry.loadLines number count lines = (after, .ok total)) :
    ∃ marks, List.Forall₂ LineDefines lines marks ∧
      after.definitions = registry.definitions.insertAll marks.reduceOption := by
  induction lines generalizing registry number count with
  | nil =>
    cases h
    exact ⟨[], .nil, rfl⟩
  | cons line lines ih =>
    rcases line_cases number line with hline | ⟨definition, hline, hn⟩ | ⟨e, hline⟩
    · rw [loadLines_cons_of_none hline] at h
      obtain ⟨marks, hm, hd⟩ := ih h
      exact ⟨none :: marks, .cons hline hm, hd⟩
    · rw [loadLines_cons_of_some hline hn] at h
      obtain ⟨marks, hm, hd⟩ := ih h
      exact ⟨some definition :: marks, .cons hline hm, hd⟩
    · rw [loadLines_cons_of_fault hline] at h
      cases h

/-- What is behind the last line break counts as a line unless there is nothing. -/
theorem splitOn_linesFrom (front cs : List Char) :
    cs.splitOnPPrepend (· == '\n') front = linesFrom front cs ∨
      cs.splitOnPPrepend (· == '\n') front = linesFrom front cs ++ [[]] := by
  induction cs generalizing front with
  | nil =>
    rw [List.splitOnPPrepend_nil]
    cases front with
    | nil => exact .inr rfl
    | cons c front => exact .inl rfl
  | cons c cs ih =>
    by_cases hc : c = '\n'
    · subst hc
      rw [List.splitOnPPrepend_cons_pos rfl, ← List.splitOnPPrepend_nil_right]
      rcases ih [] with h | h
      · exact .inl (by rw [h]; rfl)
      · exact .inr (by rw [h]; rfl)
    · rw [List.splitOnPPrepend_cons_neg (by simpa using hc)]
      simpa only [linesFrom] using ih (c :: front)

theorem load_eq (registry : Registry) (text : String) :
    registry.load text = registry.loadLines 1 0 (text.toList.splitOn '\n') := by
  have hlast (result : Registry × Except ConfigError Nat) (number : Nat) :
      andThen result (fun between added => between.loadLines number added [[]]) = result := by
    obtain ⟨after, e | added⟩ := result <;> rfl
  rw [load, List.splitOn, ← List.splitOnPPrepend_nil_right]
  rcases splitOn_linesFrom [] text.toList with h | h
  · rw [h]
  · rw [h, loadLines_append, hlast]

/-- A text is loaded by putting its definitions in. -/
theorem load_eq_ok (h : registry.load text = (after, .ok total)) :
    ∃ definitions, TextDefines text definitions ∧
      after.definitions = registry.definitions.insertAll definitions := by
  rw [load_eq] at h
  obtain ⟨marks, hm, hd⟩ := loadLines_eq_ok h
  exact ⟨_, ⟨marks, hm, rfl⟩, hd⟩

end Registry

end LogPipeline.Grok
