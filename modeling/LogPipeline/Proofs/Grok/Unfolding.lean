import LogPipeline.Proofs.Grok.References
import LogPipeline.Proofs.Grok.Spelling
import LogPipeline.Proofs.Keyed
import LogPipeline.Proofs.Number.Digits
import Mathlib.Data.List.Forall2

/-!
# What an expansion consists of

Every placeholder of a text is followed into its definition, and so on, which makes a tree of groups. Where the tree
is finite and its types are known there is an expansion: the tree written down, in which the groups that capture are
numbered in the order in which they open, and nothing but the openings depends on these numbers.
-/

namespace LogPipeline.Grok

/-- A text with the text of its definition inside every placeholder. -/
inductive Unfolding where
  | done
  | char (c : Char) (rest : Unfolding)
  | group (placeholder : Placeholder) (inner rest : Unfolding)

inductive Unfolds (registry : Registry) : List Piece → Unfolding → Prop
  | done : Unfolds registry [] .done
  | char {c : Char} {ps : List Piece} {rest : Unfolding} (h : Unfolds registry ps rest) :
      Unfolds registry (.char c :: ps) (.char c rest)
  | group {p : Placeholder} {definition : String} {inside ps : List Piece} {inner rest : Unfolding}
      (hd : registry.get? p.name = some definition) (hc : Cut definition.toList inside)
      (hi : Unfolds registry inside inner) (h : Unfolds registry ps rest) :
      Unfolds registry (.reference p :: ps) (.group p inner rest)

/-- What is met on a walk through a tree, depth first and from left to right. -/
inductive Mark where
  | char (c : Char)
  | opens (placeholder : Placeholder)
  | closes

def Unfolding.marks : Unfolding → List Mark
  | .done => []
  | .char c rest => .char c :: rest.marks
  | .group p inner rest => .opens p :: (inner.marks ++ .closes :: rest.marks)

/-- The placeholder that opens a group with a capture. -/
def Mark.occurrence? : Mark → Option Placeholder
  | .opens p => if p.capture.isSome then some p else none
  | _ => none

def occurrences (marks : List Mark) : List Placeholder := marks.filterMap Mark.occurrence?

/-- How a mark is written behind a number of occurrences. -/
def Mark.text (number : Nat) : Mark → List Char
  | .char c => [c]
  | .closes => [')']
  | .opens p =>
    match p.capture with
    | some _ => "(?P<".toList ++ (groupName number).toList ++ ['>']
    | none => "(?:".toList

/-- Marks written one after the other, each with the number of occurrences before it. -/
def marksText (number : Nat) (marks : List Mark) : List Char :=
  (marks.mapIdx fun i mark => mark.text (number + (occurrences (marks.take i)).length)).flatten

/-- How a type is asked for. -/
def CaptureType.kind : CaptureType → Option String
  | .text => none
  | .int => some "int"
  | .float => some "float"

structure Placeholder.Asks (p : Placeholder) (capture : Capture) : Prop where
  name : p.capture = some capture.name
  type : p.kind = capture.type.kind

/-- The groups that an expansion has made, and their captures. -/
def Expansion.groups (expansion : Expansion) : Keyed Capture :=
  expansion.captures.mapIdx fun i capture => (groupName i, capture)

/-- An expansion is a tree written down, and its groups are the occurrences in the tree: one for each, under its
number. -/
structure Expansion.Records (expansion : Expansion) (tree : Unfolding) : Prop where
  text : expansion.text = marksText 0 tree.marks
  distinct : expansion.groups.Distinct
  length : expansion.groups.length = (occurrences tree.marks).length
  group : ∀ (i : Nat) (p : Placeholder), (occurrences tree.marks)[i]? = some p →
    ∃ capture, expansion.groups.get? (groupName i) = some capture ∧ p.Asks capture

variable {registry : Registry} {text name definition : String} {p : Placeholder} {mark : Mark}
  {marks more : List Mark} {number other : Nat} {capture : Capture} {expansion expansion' : Expansion}
  {tree tree' : Unfolding} {ps : List Piece}

/-! ## Marks -/

@[simp] theorem occurrences_append : occurrences (marks ++ more) = occurrences marks ++ occurrences more :=
  List.filterMap_append

theorem occurrences_cons (mark : Mark) (marks : List Mark) :
    occurrences (mark :: marks) = occurrences [mark] ++ occurrences marks :=
  List.filterMap_append (l := [mark])

theorem occurrences_opens (p : Placeholder) : occurrences [.opens p] = if p.capture.isSome then [p] else [] := by
  cases h : p.capture <;> simp [occurrences, Mark.occurrence?, h]

theorem mem_occurrences : p ∈ occurrences marks ↔ .opens p ∈ marks ∧ p.capture.isSome = true := by
  simp only [occurrences, List.mem_filterMap]
  constructor
  · rintro ⟨mark, hm, hp⟩
    cases mark with
    | opens q =>
      obtain ⟨hq, rfl⟩ : q.capture.isSome = true ∧ q = p := by simpa [Mark.occurrence?] using hp
      exact ⟨hm, hq⟩
    | _ => cases hp
  · rintro ⟨hm, hp⟩
    exact ⟨_, hm, by simp [Mark.occurrence?, hp]⟩

theorem occurrences_group (p : Placeholder) (inner rest : Unfolding) :
    occurrences (Unfolding.group p inner rest).marks =
      occurrences [.opens p] ++ (occurrences inner.marks ++ occurrences rest.marks) := by
  rw [Unfolding.marks, occurrences_cons, occurrences_append]
  rfl

theorem marksText_nil : marksText number [] = [] := rfl

theorem marksText_cons : marksText number (mark :: marks) =
    mark.text number ++ marksText (number + (occurrences [mark]).length) marks := by
  have hnumber (i : Nat) : number + (occurrences ((mark :: marks).take (i + 1))).length =
      number + (occurrences [mark]).length + (occurrences (marks.take i)).length := by
    rw [List.take_succ_cons, occurrences_cons, List.length_append, Nat.add_assoc]
  unfold marksText
  rw [List.mapIdx_cons, List.flatten_cons]
  simp only [hnumber]
  rfl

theorem marksText_append : marksText number (marks ++ more) =
    marksText number marks ++ marksText (number + (occurrences marks).length) more := by
  induction marks generalizing number with
  | nil => simp [marksText_nil, occurrences]
  | cons mark marks ih =>
    rw [List.cons_append, marksText_cons, ih, marksText_cons, occurrences_cons mark marks,
      List.length_append, List.append_assoc, Nat.add_assoc]

theorem marksText_group (p : Placeholder) (inner rest : Unfolding) :
    marksText number (Unfolding.group p inner rest).marks =
      (Mark.opens p).text number ++ marksText (number + (occurrences [.opens p]).length) inner.marks ++
        ')' :: marksText (number + (occurrences [.opens p]).length + (occurrences inner.marks).length) rest.marks := by
  rw [Unfolding.marks, marksText_cons, marksText_append, marksText_cons, ← List.append_assoc]
  rfl

/-! ## Names of groups -/

theorem groupName_injective (h : groupName number = groupName other) : number = other := by
  have hdigits : Nat.toDigits 10 number = Nat.toDigits 10 other := by
    have := congrArg String.toList h
    simpa [groupName, natText] using this
  rw [← Text.natOf_toDigits number, hdigits, Text.natOf_toDigits]

theorem groups_keys (expansion : Expansion) :
    expansion.groups.keys = (List.range expansion.captures.length).map groupName := by
  refine List.ext_getElem? fun i => ?_
  simp only [Keyed.keys, Expansion.groups, List.getElem?_map, List.getElem?_mapIdx]
  by_cases hi : i < expansion.captures.length <;> simp [hi]

theorem groups_distinct (expansion : Expansion) : expansion.groups.Distinct := by
  unfold Keyed.Distinct
  rw [groups_keys]
  exact List.pairwise_map.mpr (List.nodup_range.imp fun hne heq => hne (groupName_injective heq))

theorem groups_get? (expansion : Expansion) (i : Nat) :
    expansion.groups.get? (groupName i) = expansion.captures[i]? := by
  cases h : expansion.captures[i]? with
  | none =>
    rw [Keyed.get?_eq_none_iff, groups_keys]
    rintro hm
    obtain ⟨j, hj, hname⟩ := List.mem_map.mp hm
    obtain rfl := groupName_injective hname
    exact absurd (List.mem_range.mp hj) (by simpa using h)
  | some capture =>
    refine (Keyed.mem_iff_get? (groups_distinct expansion)).mp (List.mem_of_getElem? (i := i) ?_)
    simp [Expansion.groups, h]

/-! ## Trees -/

theorem Unfolds.unique (h : Unfolds registry ps tree) (h' : Unfolds registry ps tree') : tree = tree' := by
  induction h generalizing tree' with
  | done =>
    cases h'
    rfl
  | char _ ih =>
    cases h' with
    | char h' => rw [ih h']
  | group hd hc _ _ ihi ih =>
    cases h' with
    | group hd' hc' hi' h' =>
      cases hd.symm.trans hd'
      cases (cut_iff.mp hc).symm.trans (cut_iff.mp hc')
      rw [ihi hi', ih h']

/-- The tree of a definition is a part of each tree with a placeholder for it. -/
theorem Unfolds.of_mem (h : Unfolds registry ps tree) (hp : .reference p ∈ ps) :
    .opens p ∈ tree.marks ∧ ∃ definition inner, registry.get? p.name = some definition ∧
      Unfolds registry (pieces definition) inner ∧ inner.marks ⊆ tree.marks ∧
      inner.marks.length < tree.marks.length := by
  induction h with
  | done => cases hp
  | @char c ps rest h ih =>
    obtain ⟨hopens, definition, inner, hd, hi, hsub, hlt⟩ := ih (by simpa using hp)
    refine ⟨.tail _ hopens, definition, inner, hd, hi, fun mark hm => .tail _ (hsub hm), ?_⟩
    exact Nat.lt_succ_of_lt hlt
  | @group q definition inside ps inner rest hd hc hi h _ ih =>
    rcases List.mem_cons.mp hp with hq | hp
    · cases hq
      refine ⟨.head _, definition, inner, hd, (cut_iff.mp hc).symm ▸ hi, ?_, ?_⟩
      · exact fun mark hm => .tail _ (List.mem_append_left _ hm)
      · simp only [Unfolding.marks, List.length_cons, List.length_append]
        omega
    · obtain ⟨hopens, definition, inner', hd', hi', hsub, hlt⟩ := ih hp
      refine ⟨.tail _ (List.mem_append_right _ (.tail _ hopens)), definition, inner', hd', hi', ?_, ?_⟩
      · exact fun mark hm => .tail _ (List.mem_append_right _ (.tail _ (hsub hm)))
      · simp only [Unfolding.marks, List.length_cons, List.length_append]
        omega

theorem Unfolds.of_reaches (h : Unfolds registry (pieces text) tree) (hr : registry.Reaches text name) :
    ∃ definition inner, registry.get? name = some definition ∧ Unfolds registry (pieces definition) inner ∧
      inner.marks ⊆ tree.marks ∧ inner.marks.length < tree.marks.length := by
  obtain ⟨p, hp, hr⟩ := hr
  induction hr with
  | refl => exact (h.of_mem (mem_placeholders.mp hp)).2
  | tail _ hstep ih =>
    obtain ⟨definition, inner, hd, hi, hsub, hlt⟩ := ih
    obtain ⟨found, hf, q, hq, rfl⟩ := hstep
    obtain rfl : definition = found := Option.some.inj (hd.symm.trans hf)
    obtain ⟨-, definition', inner', hd', hi', hsub', hlt'⟩ := hi.of_mem (mem_placeholders.mp hq)
    exact ⟨definition', inner', hd', hi', fun mark hm => hsub (hsub' hm), Nat.lt_trans hlt' hlt⟩

/-- A text with a tree can be expanded: a name on a cycle would have a tree inside its own. -/
theorem Unfolds.resolves (h : Unfolds registry (pieces text) tree)
    (ht : ∀ p, .opens p ∈ tree.marks → ∀ capture kind, p.capture = some capture → p.kind = some kind →
      kind = "int" ∨ kind = "float") : registry.Resolves text where
  defined name hr := by
    obtain ⟨definition, -, hd, -⟩ := h.of_reaches hr
    exact Registry.contains_iff_get?.mpr ⟨definition, hd⟩
  acyclic name hr hcycle := by
    obtain ⟨definition, inner, hd, hi, -⟩ := h.of_reaches hr
    obtain ⟨found, inner', hf, hi', -, hlt⟩ := hi.of_reaches (Registry.reaches_of_cycle hcycle hd)
    obtain rfl : definition = found := Option.some.inj (hd.symm.trans hf)
    rw [hi.unique hi'] at hlt
    exact Nat.lt_irrefl _ hlt
  typed visited hv p hp := by
    cases hv with
    | self => exact ht p (h.of_mem (mem_placeholders.mp hp)).1
    | definition hr hd =>
      obtain ⟨definition, inner, hd', hi, hsub, -⟩ := h.of_reaches hr
      obtain rfl : visited = definition := Option.some.inj (hd.symm.trans hd')
      exact ht p (hsub (hi.of_mem (mem_placeholders.mp hp)).1)

/-! ## Writing a tree down -/

/-- How a group opens for the capture that its placeholder asks for. -/
theorem opens_of_capture? {asked : Option Capture} (h : p.capture? = .ok asked) (number : Nat) :
    (Mark.opens p).text number = groupStart asked number ∧
      List.Forall₂ Placeholder.Asks (occurrences [.opens p]) asked.toList := by
  obtain ⟨name, label, kind⟩ := p
  rw [occurrences_opens]
  cases label with
  | none =>
    cases h
    exact ⟨rfl, .nil⟩
  | some label =>
    suffices hasks : ∃ type, asked = some ⟨label, type⟩ ∧ kind = type.kind by
      obtain ⟨type, rfl, htype⟩ := hasks
      exact ⟨rfl, .cons ⟨rfl, htype⟩ .nil⟩
    cases kind with
    | none =>
      cases h
      exact ⟨.text, rfl, rfl⟩
    | some kind =>
      obtain ⟨type, htype, rfl⟩ := map_eq_ok.mp h
      unfold CaptureType.parse at htype
      split at htype
      · rename_i hint
        cases htype
        exact ⟨.int, rfl, congrArg some hint⟩
      split at htype
      · rename_i hfloat
        cases htype
        exact ⟨.float, rfl, congrArg some hfloat⟩
      · cases htype

/-- An expansion behind a number of groups is a tree written down, with a capture for each occurrence. -/
structure Expansion.Writes (number : Nat) (expansion : Expansion) (tree : Unfolding) : Prop where
  text : expansion.text = marksText number tree.marks
  captures : List.Forall₂ Placeholder.Asks (occurrences tree.marks) expansion.captures

theorem unfolds_of_expandPieces {f : String → String → Nat → Except ConfigError Expansion} {origin : String}
    {stack : List String}
    (hf : ∀ p, .reference p ∈ ps → ∀ definition number inner, registry.get? p.name = some definition →
      f p.name definition number = .ok inner →
      ∃ tree, Unfolds registry (pieces definition) tree ∧ inner.Writes number tree)
    (h : expandPieces registry f origin stack number ps = .ok expansion) :
    ∃ tree, Unfolds registry ps tree ∧ expansion.Writes number tree := by
  induction ps generalizing number expansion with
  | nil =>
    cases h
    exact ⟨.done, .done, rfl, .nil⟩
  | cons piece rest ih =>
    have ih := fun number expansion => @ih number expansion fun p hp => hf p (.tail _ hp)
    cases piece with
    | char c =>
      simp only [expandPieces, bind_eq_ok] at h
      obtain ⟨after, ha, h⟩ := h
      cases h
      obtain ⟨tree, ht, hw⟩ := ih _ _ ha
      refine ⟨.char c tree, .char ht, ?_, hw.captures⟩
      rw [Unfolding.marks, marksText_cons, hw.text]
      rfl
    | reference p =>
      simp only [expandPieces] at h
      split at h
      · cases h
      split at h
      · cases h
      rename_i definition hd
      simp only [bind_eq_ok] at h
      obtain ⟨asked, hasked, inner, hi, after, ha, h⟩ := h
      cases h
      obtain ⟨inside, hinside, hwi⟩ := hf p (.head _) definition _ inner hd hi
      obtain ⟨tree, ht, hw⟩ := ih _ _ ha
      obtain ⟨hopens, hasks⟩ := opens_of_capture? hasked number
      refine ⟨.group p inside tree, .group hd (cut_iff.mpr rfl) hinside ht, ?_, ?_⟩
      · rw [marksText_group, hopens, hasks.length_eq, hwi.text, hwi.captures.length_eq, hw.text,
          List.length_append, Nat.add_assoc]
      · rw [occurrences_group]
        simpa using List.rel_append hasks (List.rel_append hwi.captures hw.captures)

theorem unfolds_of_expandText {depth : Nat} {origin : String} {stack : List String}
    (h : expandText registry depth origin stack number text = .ok expansion) :
    ∃ tree, Unfolds registry (pieces text) tree ∧ expansion.Writes number tree := by
  induction depth generalizing origin stack number text expansion with
  | zero => cases h
  | succ depth ih => exact unfolds_of_expandPieces (fun _ _ _ _ _ _ hi => ih hi) h

/-! ## Groups -/

theorem Expansion.Writes.records (h : expansion.Writes 0 tree) : expansion.Records tree where
  text := h.text
  distinct := groups_distinct expansion
  length := by rw [Expansion.groups, List.length_mapIdx, h.captures.length_eq]
  group i p hp := by
    obtain ⟨hi, rfl⟩ := List.getElem?_eq_some_iff.mp hp
    have hi' : i < expansion.captures.length := h.captures.length_eq ▸ hi
    refine ⟨expansion.captures[i], ?_, h.captures.get hi hi'⟩
    rw [groups_get?, List.getElem?_eq_getElem hi']

theorem CaptureType.kind_injective {type other : CaptureType} (h : type.kind = other.kind) : type = other := by
  cases type <;> cases other <;> simp_all [kind]

theorem Placeholder.Asks.unique {other : Capture} (h : p.Asks capture) (h' : p.Asks other) : capture = other := by
  obtain ⟨name, type⟩ := capture
  obtain ⟨name', type'⟩ := other
  obtain rfl : name = name' := Option.some.inj (h.name.symm.trans h'.name)
  obtain rfl : type = type' := CaptureType.kind_injective (h.type.symm.trans h'.type)
  rfl

/-- A tree has one expansion. -/
theorem Expansion.Records.unique (h : expansion.Records tree) (h' : expansion'.Records tree) :
    expansion = expansion' := by
  have hlength (e : Expansion) : e.groups.length = e.captures.length := by rw [Expansion.groups, List.length_mapIdx]
  have hcaptures : expansion.captures = expansion'.captures := by
    refine List.ext_getElem? fun i => ?_
    cases hp : (occurrences tree.marks)[i]? with
    | none =>
      have hi := List.getElem?_eq_none_iff.mp hp
      rw [List.getElem?_eq_none, List.getElem?_eq_none]
      · rwa [← hlength, h'.length]
      · rwa [← hlength, h.length]
    | some p =>
      obtain ⟨capture, hc, hasks⟩ := h.group i p hp
      obtain ⟨capture', hc', hasks'⟩ := h'.group i p hp
      rw [groups_get?] at hc hc'
      rw [hc, hc', hasks.unique hasks']
  obtain ⟨text, captures⟩ := expansion
  obtain ⟨text', captures'⟩ := expansion'
  obtain rfl : captures = captures' := hcaptures
  obtain rfl : text = text' := h.text.trans h'.text.symm
  rfl

/-- In a tree that is recorded all types are known. -/
theorem Expansion.Records.typed (h : expansion.Records tree) (hp : .opens p ∈ tree.marks) {label kind : String}
    (hlabel : p.capture = some label) (hkind : p.kind = some kind) : kind = "int" ∨ kind = "float" := by
  have hm : p ∈ occurrences tree.marks := mem_occurrences.mpr ⟨hp, by rw [hlabel]; rfl⟩
  obtain ⟨i, hi⟩ := List.mem_iff_getElem?.mp hm
  obtain ⟨capture, -, hasks⟩ := h.group i p hi
  have htype : some kind = capture.type.kind := hkind.symm.trans hasks.type
  cases hc : capture.type <;> rw [hc] at htype <;> cases htype
  · exact .inl rfl
  · exact .inr rfl

/-- A text has an expansion exactly if it can be unfolded and all types are known, and the expansion is the tree
written down. -/
theorem expand_records_unfolding (registry : Registry) (text : String) (expansion : Expansion) :
    expand registry text = .ok expansion ↔
      ∃ ps tree, Cut text.toList ps ∧ Unfolds registry ps tree ∧ expansion.Records tree := by
  constructor
  · intro h
    obtain ⟨tree, ht, hw⟩ := unfolds_of_expandText h
    exact ⟨pieces text, tree, cut_iff.mpr rfl, ht, hw.records⟩
  · rintro ⟨ps, tree, hcut, ht, hr⟩
    obtain rfl := cut_iff.mp hcut
    have hresolves : registry.Resolves text := ht.resolves fun p hp label kind => hr.typed hp
    obtain ⟨found, hfound⟩ : ∃ found, expand registry text = .ok found :=
      expandText_eq_ok .nil (by simp) (by simp) (by simp) hresolves
    obtain ⟨tree', ht', hw⟩ := unfolds_of_expandText hfound
    obtain rfl := ht.unique ht'
    rw [hfound, hw.records.unique hr]

/-- A definition that captures is used twice, inside a group that captures. -/
example : expand ⟨[("D", "[0-9]"), ("PAIR", "%{D:digit:int}-%{D:digit:int}")]⟩ "<%{PAIR:pair}>%{D}%{D:last}" =
    .ok ⟨"<(?P<__grok0>(?P<__grok1>[0-9])-(?P<__grok2>[0-9]))>(?:[0-9])(?P<__grok3>[0-9])".toList,
      [⟨"pair", .text⟩, ⟨"digit", .int⟩, ⟨"digit", .int⟩, ⟨"last", .text⟩]⟩ := by
  rfl

end LogPipeline.Grok
