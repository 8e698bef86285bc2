import Mathlib.Logic.Relation
import LogPipeline.Grok.Expansion
import LogPipeline.Proofs.Result

/-!
# References between patterns

The placeholders of a text and of the definitions that they lead to form a graph. Expanding a text follows it
depth first and remembers only the way from the root. `expand_isOk_iff_resolves` says when that succeeds and how
deep it goes, and that definitions to which nothing leads do not matter.
-/

namespace LogPipeline.Grok

def Piece.placeholder? : Piece → Option Placeholder
  | .char _ => none
  | .reference placeholder => some placeholder

/-- The placeholders of a text, in order. -/
def placeholders (text : String) : List Placeholder := (pieces text).filterMap Piece.placeholder?

namespace Registry

/-- One definition has a placeholder for another. -/
def Refers (registry : Registry) (name other : String) : Prop :=
  ∃ definition, registry.get? name = some definition ∧
    ∃ placeholder ∈ placeholders definition, placeholder.name = other

/-- A text leads to a name, through any number of definitions. -/
def Reaches (registry : Registry) (text name : String) : Prop :=
  ∃ placeholder ∈ placeholders text, Relation.ReflTransGen registry.Refers placeholder.name name

/-- A text itself, and the definitions of the names that it leads to. -/
inductive Visits (registry : Registry) (text : String) : String → Prop
  | self : Visits registry text text
  | definition {name definition : String} : registry.Reaches text name →
      registry.get? name = some definition → Visits registry text definition

/-- What a text needs in order to be expanded. -/
structure Resolves (registry : Registry) (text : String) : Prop where
  defined : ∀ name, registry.Reaches text name → registry.contains name = true
  acyclic : ∀ name, registry.Reaches text name → ¬ Relation.TransGen registry.Refers name name
  typed : ∀ visited, registry.Visits text visited → ∀ placeholder ∈ placeholders visited,
    ∀ capture kind, placeholder.capture = some capture → placeholder.kind = some kind →
      kind = "int" ∨ kind = "float"

variable {registry : Registry} {text name found : String} {p : Placeholder}

theorem contains_iff_get? :
    registry.contains name = true ↔ ∃ definition, registry.get? name = some definition := by
  simp [contains, Keyed.contains, get?, Option.isSome_iff_exists]

theorem length_le_size {stack : List String} (hn : stack.Nodup)
    (hd : ∀ name ∈ stack, registry.contains name = true) : stack.length ≤ registry.size := by
  have hs : stack ⊆ registry.definitions.keys := by
    intro name hm
    obtain ⟨definition, h⟩ := contains_iff_get?.mp (hd name hm)
    exact Keyed.mem_keys_of_get? h
  simpa [Keyed.keys, size] using hn.length_le_of_subset hs

theorem Reaches.placeholder (h : p ∈ placeholders text) :
    registry.Reaches text p.name := ⟨p, h, .refl⟩

/-- What the definition of a placeholder leads to, the text leads to. -/
theorem Reaches.through (hp : p ∈ placeholders text)
    (hd : registry.get? p.name = some found)
    (h : registry.Reaches found name) : registry.Reaches text name := by
  obtain ⟨inner, hi, hr⟩ := h
  exact ⟨p, hp, .head ⟨found, hd, inner, hi, rfl⟩ hr⟩

/-- A text leads to its placeholders, and to what their definitions lead to. -/
theorem Reaches.cases (h : registry.Reaches text name) :
    ∃ p ∈ placeholders text, p.name = name ∨
      ∃ found, registry.get? p.name = some found ∧ registry.Reaches found name := by
  obtain ⟨p, hp, hr⟩ := h
  refine ⟨p, hp, ?_⟩
  cases hr using Relation.ReflTransGen.head_induction_on with
  | refl => exact .inl rfl
  | head hstep hrest =>
    obtain ⟨found, hd, inner, hi, rfl⟩ := hstep
    exact .inr ⟨found, hd, inner, hi, hrest⟩

/-- A name on a cycle is one that its own definition leads to. -/
theorem reaches_of_cycle (h : Relation.TransGen registry.Refers name name)
    (hd : registry.get? name = some found) : registry.Reaches found name := by
  obtain ⟨_, ⟨other, hf, inner, hi, rfl⟩, hr⟩ := Relation.TransGen.head'_iff.mp h
  obtain rfl : found = other := Option.some.inj (hd.symm.trans hf)
  exact ⟨inner, hi, hr⟩

theorem Resolves.definition (h : registry.Resolves text) (hp : p ∈ placeholders text)
    (hd : registry.get? p.name = some found) : registry.Resolves found where
  defined name hr := h.defined name (.through hp hd hr)
  acyclic name hr := h.acyclic name (.through hp hd hr)
  typed visited hv := by
    refine h.typed visited ?_
    cases hv with
    | self => exact .definition (.placeholder hp) hd
    | definition hr hg => exact .definition (.through hp hd hr) hg

end Registry

section Expansion

variable {registry other : Registry} {origin text name : String} {stack : List String}
  {number depth : Nat} {ps : List Piece} {expansion : Expansion}

theorem mem_placeholders {placeholder : Placeholder} :
    placeholder ∈ placeholders text ↔ .reference placeholder ∈ pieces text := by
  simp only [placeholders, List.mem_filterMap]
  constructor
  · rintro ⟨piece, hm, hp⟩
    cases piece with
    | char c => cases hp
    | reference p => cases hp; exact hm
  · exact fun h => ⟨_, h, rfl⟩

/-! ## Depth -/

/-- The expansion of a text, of which what lies deeper than `depth` is left to `below`. -/
def expandAbove (registry : Registry)
    (below : String → List String → Nat → String → Except ConfigError Expansion) :
    (depth : Nat) → (origin : String) → (stack : List String) → (number : Nat) → (text : String) →
      Except ConfigError Expansion
  | 0, origin, stack, number, text => below origin stack number text
  | depth + 1, origin, stack, number, text =>
    expandPieces registry
      (fun name definition number =>
        expandAbove registry below depth name (name :: stack) number definition)
      origin stack number (pieces text)

theorem expandText_eq_expandAbove : expandText registry depth =
    expandAbove registry (fun _ stack _ _ => .error (.cyclicPattern stack.reverse)) depth := by
  induction depth with
  | zero => rfl
  | succ depth ih =>
    funext origin stack number text
    simp only [expandText, expandAbove, ih]

/-- Expanding pieces asks only for what their placeholders name. -/
theorem expandPieces_congr {f g : String → String → Nat → Except ConfigError Expansion}
    (hr : ∀ p, .reference p ∈ ps → registry.get? p.name = other.get? p.name)
    (hf : ∀ p, .reference p ∈ ps → p.name ∉ stack → ∀ definition,
      registry.get? p.name = some definition → f p.name definition = g p.name definition) :
    expandPieces registry f origin stack number ps = expandPieces other g origin stack number ps := by
  induction ps generalizing number with
  | nil => rfl
  | cons piece rest ih =>
    have ih := fun number => @ih number (fun p hp => hr p (.tail _ hp)) (fun p hp => hf p (.tail _ hp))
    cases piece with
    | char c => simp only [expandPieces, ih]
    | reference p =>
      simp only [expandPieces, ← hr p (.head _), ih]
      split
      · rfl
      · rename_i hs
        have hs : p.name ∉ stack := by simpa using hs
        cases hd : registry.get? p.name with
        | none => rfl
        | some definition => simp only [hf p (.head _) hs definition hd]

/-- Since the names on the way differ and are defined, an expansion never goes deeper than there are
definitions, whatever would be found there. -/
theorem expandAbove_eq {below below' : String → List String → Nat → String → Except ConfigError Expansion}
    {depth' : Nat} (hn : stack.Nodup) (hd : ∀ name ∈ stack, registry.contains name = true)
    (h : registry.size < depth + stack.length) (h' : registry.size < depth' + stack.length) :
    expandAbove registry below depth origin stack number text =
      expandAbove registry below' depth' origin stack number text := by
  have hl := Registry.length_le_size hn hd
  -- every level adds a defined name to `stack`, which has none twice; at depth zero these would be more than
  -- there are definitions, so that neither `below` is ever asked
  induction depth generalizing depth' origin stack number text with
  | zero => omega
  | succ depth ih =>
    obtain ⟨depth', rfl⟩ : ∃ d, depth' = d + 1 := ⟨depth' - 1, by omega⟩
    refine expandPieces_congr (fun _ _ => rfl) fun p _ hs definition hg => ?_
    funext number
    have hn' : (p.name :: stack).Nodup := List.nodup_cons.mpr ⟨hs, hn⟩
    have hd' : ∀ name ∈ p.name :: stack, registry.contains name = true := by
      simpa using ⟨Registry.contains_iff_get?.mpr ⟨_, hg⟩, hd⟩
    refine ih hn' hd' ?_ ?_ (Registry.length_le_size hn' hd') <;> simp only [List.length_cons] <;> omega

/-- Two sets that agree on all names to which a text leads expand it alike. -/
theorem expandAbove_congr {below : String → List String → Nat → String → Except ConfigError Expansion}
    (h : ∀ name, registry.Reaches text name → other.get? name = registry.get? name) :
    expandAbove registry below depth origin stack number text =
      expandAbove other below depth origin stack number text := by
  induction depth generalizing origin stack number text with
  | zero => rfl
  | succ depth ih =>
    have hp : ∀ p, .reference p ∈ pieces text → registry.Reaches text p.name :=
      fun p hp => .placeholder (mem_placeholders.mpr hp)
    refine expandPieces_congr (fun p hm => (h _ (hp p hm)).symm) fun p hm _ definition hg => ?_
    funext number
    exact ih fun name hr => h name (.through (mem_placeholders.mpr hm) hg hr)

theorem expand_eq_expandAbove
    (below : String → List String → Nat → String → Except ConfigError Expansion)
    (h : registry.size < depth) :
    expand registry text = expandAbove registry below depth rootName [] 0 text := by
  rw [expand, expandText_eq_expandAbove]
  exact expandAbove_eq .nil (by simp) (by simp) (by simpa using h)

theorem expand_congr
    (h : ∀ name, registry.Reaches text name → other.get? name = registry.get? name) :
    expand other text = expand registry text := by
  -- the two sets may differ in size, so both expansions are brought to one depth that is enough for either
  let below : String → List String → Nat → String → Except ConfigError Expansion :=
    fun _ _ _ _ => .ok ⟨[], []⟩
  let depth := max registry.size other.size + 1
  calc expand other text = expandAbove other below depth rootName [] 0 text :=
        expand_eq_expandAbove below (by omega)
    _ = expandAbove registry below depth rootName [] 0 text := (expandAbove_congr h).symm
    _ = expand registry text := (expand_eq_expandAbove below (by omega)).symm

/-! ## Success -/

theorem capture?_isOk_iff {p : Placeholder} :
    (∃ capture, p.capture? = .ok capture) ↔
      ∀ capture kind, p.capture = some capture → p.kind = some kind → kind = "int" ∨ kind = "float" := by
  obtain ⟨name, capture, kind⟩ := p
  cases capture <;> cases kind <;> simp [Placeholder.capture?]
  rename_i capture kind
  by_cases hi : kind = "int"
  · simp [CaptureType.parse, hi, Except.map]
  · by_cases hf : kind = "float" <;> simp [CaptureType.parse, hi, hf, Except.map]

/-- What is found at the placeholders of pieces that could be expanded. -/
theorem of_expandPieces_eq_ok {f : String → String → Nat → Except ConfigError Expansion}
    (h : expandPieces registry f origin stack number ps = .ok expansion) :
    ∀ p, .reference p ∈ ps → p.name ∉ stack ∧ (∃ capture, p.capture? = .ok capture) ∧
      ∃ definition number inner, registry.get? p.name = some definition ∧
        f p.name definition number = .ok inner := by
  induction ps generalizing number expansion with
  | nil => simp
  | cons piece rest ih =>
    cases piece with
    | char c =>
      simp only [expandPieces, bind_eq_ok] at h
      obtain ⟨after, ha, -⟩ := h
      intro p hp
      exact ih ha p (by simpa using hp)
    | reference q =>
      simp only [expandPieces] at h
      split at h
      · cases h
      rename_i hs
      split at h
      · cases h
      rename_i definition hd
      simp only [bind_eq_ok] at h
      obtain ⟨capture, hc, inner, hi, after, ha, -⟩ := h
      intro p hp
      rcases List.mem_cons.mp hp with hq | hp
      · cases hq
        exact ⟨by simpa using hs, ⟨capture, hc⟩, definition, _, inner, hd, hi⟩
      · exact ih ha p hp

/-- Pieces can be expanded if there is nothing wrong at any placeholder. -/
theorem expandPieces_eq_ok {f : String → String → Nat → Except ConfigError Expansion}
    (h : ∀ p, .reference p ∈ ps → p.name ∉ stack ∧ (∃ capture, p.capture? = .ok capture) ∧
      ∃ definition, registry.get? p.name = some definition ∧
        ∀ number, ∃ inner, f p.name definition number = .ok inner) :
    ∃ expansion, expandPieces registry f origin stack number ps = .ok expansion := by
  induction ps generalizing number with
  | nil => exact ⟨_, rfl⟩
  | cons piece rest ih =>
    have ih := fun number => @ih number fun p hp => h p (.tail _ hp)
    cases piece with
    | char c =>
      obtain ⟨after, ha⟩ := ih number
      exact ⟨_, by simp only [expandPieces, ha]; rfl⟩
    | reference p =>
      obtain ⟨hs, ⟨capture, hc⟩, definition, hd, hf⟩ := h p (.head _)
      obtain ⟨inner, hi⟩ := hf (number + capture.toList.length)
      obtain ⟨after, ha⟩ := ih (number + (capture.toList ++ inner.captures).length)
      refine ⟨⟨groupStart capture number ++ inner.text ++ ')' :: after.text,
        (capture.toList ++ inner.captures) ++ after.captures⟩, ?_⟩
      have hs : ¬ stack.contains p.name = true := by simpa using hs
      simp only [expandPieces, hs, hd, hc, bind, Except.bind, hi, ha]
      rfl

/-- Below a text that could be expanded every name is defined, differs from those on the way to the text, and
was expanded under its own name. -/
theorem of_reaches (h : expandText registry depth origin stack number text = .ok expansion)
    (hr : registry.Reaches text name) :
    name ∉ stack ∧ ∃ definition, registry.get? name = some definition ∧
      ∃ depth stack number inner,
        expandText registry depth name (name :: stack) number definition = .ok inner := by
  induction depth generalizing origin stack number text expansion with
  | zero => cases h
  | succ depth ih =>
    obtain ⟨p, hp, hcase⟩ := hr.cases
    obtain ⟨hs, -, definition, number, inner, hd, hi⟩ :=
      of_expandPieces_eq_ok h p (mem_placeholders.mp hp)
    rcases hcase with rfl | ⟨found, hf, hr⟩
    · exact ⟨hs, definition, hd, _, _, _, _, hi⟩
    · obtain rfl : definition = found := Option.some.inj (hd.symm.trans hf)
      obtain ⟨hn, hrest⟩ := ih hi hr
      exact ⟨fun hm => hn (.tail _ hm), hrest⟩

theorem resolves_of_expandText_eq_ok
    (h : expandText registry depth origin stack number text = .ok expansion) :
    registry.Resolves text where
  defined name hr := by
    obtain ⟨-, definition, hd, -⟩ := of_reaches h hr
    exact Registry.contains_iff_get?.mpr ⟨definition, hd⟩
  acyclic name hr hcycle := by
    -- the name was expanded with itself on `stack`, and so its definition cannot lead back to it
    obtain ⟨-, definition, hd, _, _, _, _, hi⟩ := of_reaches h hr
    exact (of_reaches hi (Registry.reaches_of_cycle hcycle hd)).1 (.head _)
  typed visited hv p hp := by
    have typed_at {depth origin stack number expansion}
        (h : expandText registry depth origin stack number visited = .ok expansion) :
        ∃ capture, p.capture? = .ok capture := by
      cases depth with
      | zero => cases h
      | succ depth => exact (of_expandPieces_eq_ok h p (mem_placeholders.mp hp)).2.1
    refine capture?_isOk_iff.mp ?_
    cases hv with
    | self => exact typed_at h
    | definition hr hg =>
      obtain ⟨-, definition, hd, _, _, _, _, hi⟩ := of_reaches h hr
      obtain rfl : definition = visited := Option.some.inj (hd.symm.trans hg)
      exact typed_at hi

/-- The names on the way lead to every placeholder, so that none of these closes a cycle, and so there is always
depth left. -/
theorem expandText_eq_ok (hn : stack.Nodup) (hd : ∀ name ∈ stack, registry.contains name = true)
    (hl : registry.size < depth + stack.length)
    (hw : ∀ name ∈ stack, ∀ p ∈ placeholders text, Relation.TransGen registry.Refers name p.name)
    (h : registry.Resolves text) :
    ∃ expansion, expandText registry depth origin stack number text = .ok expansion := by
  induction depth generalizing origin stack number text with
  | zero => have := Registry.length_le_size hn hd; omega
  | succ depth ih =>
    refine expandPieces_eq_ok fun p hp => ?_
    have hp := mem_placeholders.mpr hp
    have hr : registry.Reaches text p.name := .placeholder hp
    -- a name on the way that is met again would be on a cycle
    have hs : p.name ∉ stack := fun hm => h.acyclic _ hr (hw _ hm p hp)
    obtain ⟨definition, hg⟩ := Registry.contains_iff_get?.mp (h.defined _ hr)
    refine ⟨hs, capture?_isOk_iff.mpr (h.typed _ .self p hp), definition, hg, fun number => ?_⟩
    refine ih (List.nodup_cons.mpr ⟨hs, hn⟩) ?_ ?_ ?_ (h.definition hp hg)
    · simpa using ⟨Registry.contains_iff_get?.mpr ⟨_, hg⟩, hd⟩
    · simp only [List.length_cons]; omega
    · intro name hm q hq
      have hstep : registry.Refers p.name q.name := ⟨definition, hg, q, hq, rfl⟩
      rcases List.mem_cons.mp hm with rfl | hm
      · exact .single hstep
      · exact .tail (hw name hm p hp) hstep

/-- An expansion goes at most one deeper than there are definitions, so it does not matter what is found
`below`. It succeeds exactly if the text resolves, and definitions to which the text does not lead have no
influence on it. -/
theorem expand_isOk_iff_resolves (registry : Registry) (text : String) :
    (∀ depth, registry.size + 1 ≤ depth → ∀ below,
      expandAbove registry below depth rootName [] 0 text = expand registry text) ∧
    ((∃ expansion, expand registry text = .ok expansion) ↔ registry.Resolves text) ∧
    ∀ other : Registry, (∀ name, registry.Reaches text name → other.get? name = registry.get? name) →
      expand other text = expand registry text := by
  refine ⟨fun depth hd below => (expand_eq_expandAbove below hd).symm, ⟨?_, fun h => ?_⟩,
    fun other h => expand_congr h⟩
  · rintro ⟨expansion, h⟩
    exact resolves_of_expandText_eq_ok h
  · exact expandText_eq_ok .nil (by simp) (by simp) (by simp) h

/-- A cycle to which nothing leads does no harm, and one definition may be used twice. -/
theorem expand_beside_cycle :
    let registry : Registry := ⟨[("LOOP", "%{LOOP}"), ("TWO", "%{D}%{D}"), ("D", "x")]⟩
    let other : Registry := ⟨[("D", "x"), ("TWO", "%{D}%{D}")]⟩
    (∀ name, registry.Reaches "%{TWO}" name → other.get? name = registry.get? name) ∧
      expand other "%{TWO}" = expand registry "%{TWO}" := by
  intro registry other
  have hd : ∀ name, ¬ registry.Reaches "x" name := by
    rintro name ⟨p, hp, -⟩
    have : placeholders "x" = [] := by decide
    simp [this] at hp
  have htwo : ∀ name, registry.Reaches "%{D}%{D}" name → name = "D" := by
    intro name hr
    obtain ⟨p, hp, hcase⟩ := hr.cases
    have hps : placeholders "%{D}%{D}" = [⟨"D", none, none⟩, ⟨"D", none, none⟩] := by decide
    obtain rfl : p = ⟨"D", none, none⟩ := by simpa [hps] using hp
    rcases hcase with rfl | ⟨found, hf, hr⟩
    · rfl
    · obtain rfl : "x" = found := Option.some.inj hf
      exact absurd hr (hd name)
  have hagree : ∀ name, registry.Reaches "%{TWO}" name → other.get? name = registry.get? name := by
    intro name hr
    obtain ⟨p, hp, hcase⟩ := hr.cases
    have hps : placeholders "%{TWO}" = [⟨"TWO", none, none⟩] := by decide
    obtain rfl : p = ⟨"TWO", none, none⟩ := by simpa [hps] using hp
    rcases hcase with rfl | ⟨found, hf, hr⟩
    · decide
    · obtain rfl : "%{D}%{D}" = found := Option.some.inj hf
      obtain rfl := htwo name hr
      decide
  exact ⟨hagree, (expand_isOk_iff_resolves registry "%{TWO}").2.2 other hagree⟩

end Expansion

end LogPipeline.Grok
