import LogPipeline.Proofs.Grok.Loading

/-!
# Pattern texts one behind the other

A line of a pattern file leaves the definitions as they are, adds one, or is at fault. Loading stops at the first
faulty line and keeps what the lines above it have defined. So a text that begins on a new line behind another one is
loaded as if it came after it by itself, except that its lines have higher numbers.
-/

namespace LogPipeline

/-- The error, with a line that stands further down. -/
def ConfigError.below (lines : Nat) : ConfigError → ConfigError
  | .invalidPatternDefinition number message => .invalidPatternDefinition (number + lines) message
  | e => e

namespace Grok

/-- The first faulty line of a text, and the definitions of the lines above it. -/
def FailsAfter (text : String) (definitions : List (String × String)) (e : ConfigError) : Prop :=
  ∃ above line below marks, text.toList.splitOn '\n' = above ++ line :: below ∧
    List.Forall₂ LineDefines above marks ∧ definitions = marks.reduceOption ∧
    (∀ definition ∈ definitions, Registry.isName definition.1 = true) ∧ LineFault (above.length + 1) line e

/-- What comes of lines that stand below others, of which some have definitions. -/
def Registry.below (lines added : Nat) : Registry × Except ConfigError Nat → Registry × Except ConfigError Nat
  | (registry, .ok count) => (registry, .ok (added + count))
  | (registry, .error e) => (registry, .error (e.below lines))

namespace Registry

variable {number count : Nat} {line : List Char} {lines : List (List Char)} {registry after : Registry}
  {definition : String × String} {marks : List (Option (String × String))} {e : ConfigError} {text : String}

/-! ## Lines -/

theorem lineFault_below (h : LineFault number line e) (lines : Nat) :
    LineFault (number + lines) line (e.below lines) := by
  cases h with
  | single hb hword hmark hwhole ha h => exact .single hb hword hmark hwhole ha h
  | name h hname => exact .name h hname

/-- Nothing depends on where the lines stand but the numbers in errors. -/
theorem loadLines_below (above added : Nat) :
    registry.loadLines (number + above) (added + count) lines =
      below above added (registry.loadLines number count lines) := by
  induction lines generalizing registry number count with
  | nil => rfl
  | cons line lines ih =>
    rcases line_cases number line with h | ⟨definition, h, hn⟩ | ⟨e, h⟩
    · rw [loadLines_cons_of_none h, loadLines_cons_of_none h, ← ih, Nat.add_right_comm]
    · rw [loadLines_cons_of_some h hn, loadLines_cons_of_some h hn, ← ih, Nat.add_right_comm number,
        Nat.add_assoc added]
    · rw [loadLines_cons_of_fault h, loadLines_cons_of_fault (lineFault_below h above)]
      rfl

theorem loadLines_of_defines (h : List.Forall₂ LineDefines lines marks)
    (hn : ∀ definition ∈ marks.reduceOption, isName definition.1 = true) :
    registry.loadLines number count lines =
      (registry.defineAll marks.reduceOption, .ok (count + marks.reduceOption.length)) := by
  induction h generalizing registry number count with
  | nil => rfl
  | @cons line mark lines marks hline _ ih =>
    cases mark with
    | none =>
      rw [List.reduceOption_cons_of_none] at hn ⊢
      rw [loadLines_cons_of_none hline, ih hn]
    | some definition =>
      rw [List.reduceOption_cons_of_some] at hn ⊢
      obtain ⟨hfirst, hrest⟩ := List.forall_mem_cons.mp hn
      rw [loadLines_cons_of_some hline hfirst, ih hrest, List.length_cons, Nat.add_right_comm, Nat.add_assoc]
      rfl

/-- Loading fails at the first faulty line, with what the lines above it have defined. -/
theorem loadLines_eq_error_iff : registry.loadLines number count lines = (after, .error e) ↔
    ∃ above line below marks, lines = above ++ line :: below ∧ List.Forall₂ LineDefines above marks ∧
      (∀ definition ∈ marks.reduceOption, isName definition.1 = true) ∧
      LineFault (number + above.length) line e ∧ after = registry.defineAll marks.reduceOption := by
  constructor
  · -- the lines above are met one by one, each with the set that the line before has left
    intro h
    induction lines generalizing registry number count with
    | nil => cases h
    | cons line lines ih =>
      rcases line_cases number line with hline | ⟨definition, hline, hn⟩ | ⟨fault, hline⟩
      · rw [loadLines_cons_of_none hline] at h
        obtain ⟨above, bad, below, marks, rfl, hm, hnames, hbad, rfl⟩ := ih h
        refine ⟨line :: above, bad, below, none :: marks, rfl, .cons hline hm, hnames, ?_, rfl⟩
        rwa [List.length_cons, Nat.add_comm above.length, ← Nat.add_assoc]
      · rw [loadLines_cons_of_some hline hn] at h
        obtain ⟨above, bad, below, marks, rfl, hm, hnames, hbad, rfl⟩ := ih h
        refine ⟨line :: above, bad, below, some definition :: marks, rfl, .cons hline hm,
          List.forall_mem_cons.mpr ⟨hn, hnames⟩, ?_, rfl⟩
        rwa [List.length_cons, Nat.add_comm above.length, ← Nat.add_assoc]
      · rw [loadLines_cons_of_fault hline] at h
        cases h
        exact ⟨[], line, lines, [], rfl, .nil, nofun, hline, rfl⟩
  · rintro ⟨above, line, below, marks, rfl, hm, hnames, hline, rfl⟩
    rw [loadLines_append, loadLines_of_defines hm hnames]
    exact loadLines_cons_of_fault hline

/-! ## Whole texts -/

theorem length_splitOn (c : Char) (cs : List Char) : (cs.splitOn c).length = cs.count c + 1 := by
  induction cs with
  | nil => rfl
  | cons d cs ih =>
    rw [List.splitOn_cons_eq_if_modifyHead, List.count_cons]
    split <;> simp [ih]

theorem load_eq_error_iff : registry.load text = (after, .error e) ↔
    ∃ definitions, FailsAfter text definitions e ∧ after = registry.defineAll definitions := by
  rw [load_eq, loadLines_eq_error_iff]
  constructor
  · rintro ⟨above, line, below, marks, hlines, hm, hnames, hline, rfl⟩
    exact ⟨_, ⟨above, line, below, marks, hlines, hm, rfl, hnames, by rwa [Nat.add_comm]⟩, rfl⟩
  · rintro ⟨_, ⟨above, line, below, marks, hlines, hm, rfl, hnames, hline⟩, rfl⟩
    exact ⟨above, line, below, marks, hlines, hm, hnames, by rwa [Nat.add_comm], rfl⟩

/-- Two texts with a line break between them are loaded as the first one and then the second one. If the first fails,
that is all. Otherwise the second goes into what the first has left, the numbers of definitions add up, and lines of
the second are numbered behind those of the first. A text fails at its first faulty line, and only what the lines
above have defined is in the set then. -/
theorem load_joined (registry : Registry) (first second : String) :
    registry.load (first ++ "\n" ++ second) =
        andThen (registry.load first) (fun between added =>
          below (first.toList.count '\n' + 1) added (between.load second)) ∧
      ∀ text after e, registry.load text = (after, .error e) ↔
        ∃ definitions, FailsAfter text definitions e ∧ after = registry.defineAll definitions := by
  refine ⟨?_, fun text after e => load_eq_error_iff⟩
  have hlines : (first ++ "\n" ++ second).toList.splitOn '\n' =
      first.toList.splitOn '\n' ++ second.toList.splitOn '\n' := by
    simp [String.toList_append, List.splitOn_append_cons_self]
  -- the first text ends on the line whose number is the count of its line breaks and one
  have hbehind (between : Registry) (added : Nat) :
      between.loadLines (1 + (first.toList.splitOn '\n').length) added (second.toList.splitOn '\n') =
        below (first.toList.count '\n' + 1) added (between.load second) := by
    rw [length_splitOn, load_eq, ← loadLines_below]
    rfl
  rw [load_eq, hlines, loadLines_append, load_eq]
  simp only [hbehind]

/-- The line feed behind a carriage return counts, and so does the empty line at the seam. -/
example : Registry.empty.load ("GOOD x\r\n" ++ "\n" ++ "# more\nLONELY\n") =
    (⟨[("GOOD", "x")]⟩, .error (.invalidPatternDefinition 4 "expected 'NAME expression', got 'LONELY'")) := rfl

end Registry

end Grok

end LogPipeline
