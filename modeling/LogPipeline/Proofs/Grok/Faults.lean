import LogPipeline.Proofs.Grok.References
import LogPipeline.Proofs.Grok.Spelling
import Mathlib.Data.List.Chain
import Mathlib.Data.List.Lex

/-!
# Where an expansion fails

A placeholder may close a cycle, name a pattern that is not defined, or ask for a type that there is not. An expansion
that fails reports the first such placeholder, depth first and from left to right. What it says of a cycle, of the
place of an unknown name and of a type can be found in the set of patterns.
-/

namespace LogPipeline.Grok

/-- The placeholder at an address: at the first number of the address in a list of placeholders, then in the
definition of that one, and so on, on a way through these definitions. A list may lead around a cycle without end. -/
inductive Occurs (registry : Registry) : List Placeholder → List Nat → List String → Placeholder → Prop
  | here {qs : List Placeholder} {i : Nat} {p : Placeholder} (h : qs[i]? = some p) : Occurs registry qs [i] [] p
  | inside {qs : List Placeholder} {i : Nat} {q p : Placeholder} {definition : String} {address : List Nat}
      {way : List String} (h : qs[i]? = some q) (hd : registry.get? q.name = some definition)
      (hb : Occurs registry (placeholders definition) address way p) :
      Occurs registry qs (i :: address) (q.name :: way) p

/-- What is wrong with a placeholder to which a way leads. -/
inductive Fault (registry : Registry) : List String → Placeholder → ConfigError → Prop
  | cyclic {way : List String} {p : Placeholder} (h : p.name ∈ way) :
      Fault registry way p (.cyclicPattern (way ++ [p.name]))
  | unknownInRoot {p : Placeholder} (h : registry.get? p.name = none) :
      Fault registry [] p (.unknownPattern p.name rootName)
  | unknownInside {way : List String} {origin : String} {p : Placeholder} (h : registry.get? p.name = none)
      (hn : p.name ∉ way ++ [origin]) : Fault registry (way ++ [origin]) p (.unknownPattern p.name origin)
  | type {way : List String} {p : Placeholder} {capture kind : String} (hn : p.name ∉ way)
      (hd : registry.contains p.name = true) (hc : p.capture = some capture) (hk : p.kind = some kind)
      (hi : kind ≠ "int") (hf : kind ≠ "float") : Fault registry way p (.invalidCaptureType capture kind)

/-- Depth first and from left to right: what comes before a placeholder comes before all below it. -/
def Precedes : List Nat → List Nat → Prop := List.Lex (· < ·)

/-- Below a way, nothing is wrong with any placeholder that a list of them leads to. -/
def Sound (registry : Registry) (way : List String) (qs : List Placeholder) : Prop :=
  ∀ address below p, Occurs registry qs address below p → ∀ error, ¬ Fault registry (way ++ below) p error

/-- Below a way, the first thing that is wrong in a list of placeholders. -/
def FirstFault (registry : Registry) (way : List String) (qs : List Placeholder) (error : ConfigError) : Prop :=
  ∃ address below p, Occurs registry qs address below p ∧ Fault registry (way ++ below) p error ∧
    ∀ address' below' p', Occurs registry qs address' below' p' → Precedes address' address →
      ∀ error', ¬ Fault registry (way ++ below') p' error'

/-- An error that speaks of the definitions to which a text leads. -/
inductive Genuine (registry : Registry) (text : String) : ConfigError → Prop
  | cycle {names : List String} {last : String} (hroot : ∃ p ∈ placeholders text, names.head? = some p.name)
      (hlinks : (names ++ [last]).IsChain registry.Refers) (hdistinct : names.Nodup)
      (hdefined : ∀ name ∈ names, registry.contains name = true) (hlast : last ∈ names) :
      Genuine registry text (.cyclicPattern (names ++ [last]))
  | unknown {name origin : String} (h : registry.get? name = none)
      (horigin : (origin = rootName ∧ ∃ p ∈ placeholders text, p.name = name) ∨
        (origin ≠ rootName ∧ registry.Reaches text origin ∧ registry.Refers origin name)) :
      Genuine registry text (.unknownPattern name origin)
  | type {visited capture kind : String} {p : Placeholder} (hv : registry.Visits text visited)
      (hp : p ∈ placeholders visited) (hc : p.capture = some capture) (hk : p.kind = some kind)
      (hi : kind ≠ "int") (hf : kind ≠ "float") : Genuine registry text (.invalidCaptureType capture kind)

variable {registry : Registry} {text name origin definition : String} {p q : Placeholder} {qs : List Placeholder}
  {i j : Nat} {address address' : List Nat} {way below above : List String} {error : ConfigError}

/-! ## Addresses -/

theorem Occurs.ne_nil (h : Occurs registry qs address way p) : address ≠ [] := by
  cases h <;> exact List.cons_ne_nil _ _

/-- At one address there is one placeholder, and one way leads there. -/
theorem Occurs.unique {way' : List String} (h : Occurs registry qs address way p)
    (h' : Occurs registry qs address way' q) : way = way' ∧ p = q := by
  induction h generalizing way' with
  | here hi =>
    cases h' with
    | here hi' => exact ⟨rfl, Option.some.inj (hi.symm.trans hi')⟩
    | inside _ _ hb => exact absurd rfl hb.ne_nil
  | inside hi hd hb ih =>
    cases h' with
    | here => exact absurd rfl hb.ne_nil
    | inside hi' hd' hb' =>
      cases hi.symm.trans hi'
      cases hd.symm.trans hd'
      obtain ⟨rfl, rfl⟩ := ih hb'
      exact ⟨rfl, rfl⟩

/-- The placeholders behind the first one keep what is below them. -/
theorem occurs_succ_iff :
    Occurs registry (q :: qs) ((i + 1) :: address) way p ↔ Occurs registry qs (i :: address) way p := by
  constructor
  · intro h
    cases h with
    | here h => exact .here (by simpa using h)
    | inside h hd hb => exact .inside (by simpa using h) hd hb
  · intro h
    cases h with
    | here h => exact .here (by simpa using h)
    | inside h hd hb => exact .inside (by simpa using h) hd hb

/-- What is at or below the first placeholder of a list. -/
theorem Occurs.cases_zero (h : Occurs registry (q :: qs) (0 :: address) way p) :
    (address = [] ∧ way = [] ∧ p = q) ∨ ∃ definition below, registry.get? q.name = some definition ∧
      way = q.name :: below ∧ Occurs registry (placeholders definition) address below p := by
  cases h with
  | here h =>
    obtain rfl : q = p := by simpa using h
    exact .inl ⟨rfl, rfl, rfl⟩
  | inside h hd hb =>
    rename_i found _ below
    obtain rfl : q = found := by simpa using h
    exact .inr ⟨_, below, hd, rfl, hb⟩

/-- Each name on a way is that of a placeholder on it, which comes before the end of the way. -/
theorem Occurs.ancestor {before after : List String} (h : Occurs registry qs address (before ++ name :: after) p) :
    ∃ address' q, Occurs registry qs address' before q ∧ q.name = name ∧ Precedes address' address := by
  obtain ⟨way, hway⟩ : ∃ way, way = before ++ name :: after := ⟨_, rfl⟩
  rw [← hway] at h
  induction h generalizing before with
  | here => simp at hway
  | @inside qs i q p definition address way hi hd hb ih =>
    cases before with
    | nil =>
      obtain ⟨rfl, -⟩ : q.name = name ∧ way = after := by simpa using hway
      obtain ⟨j, address, rfl⟩ := List.exists_cons_of_ne_nil hb.ne_nil
      exact ⟨[i], q, .here hi, rfl, .cons .nil⟩
    | cons first before =>
      obtain ⟨rfl, hrest⟩ : q.name = first ∧ way = before ++ name :: after := by simpa using hway
      obtain ⟨address', q', hq', hname, hlt⟩ := ih hrest
      exact ⟨i :: address', q', .inside hi hd hq', hname, .cons hlt⟩

/-- The text in which a placeholder stands is that of the last definition on the way to it. -/
theorem Occurs.placed (h : Occurs registry (placeholders text) address way p) :
    (way = [] ∧ p ∈ placeholders text) ∨ ∃ before origin definition, way = before ++ [origin] ∧
      registry.Reaches text origin ∧ registry.get? origin = some definition ∧ p ∈ placeholders definition := by
  obtain ⟨qs, hqs⟩ : ∃ qs, qs = placeholders text := ⟨_, rfl⟩
  rw [← hqs] at h
  induction h generalizing text with
  | here hi => exact .inl ⟨rfl, hqs ▸ List.mem_of_getElem? hi⟩
  | @inside qs i q p definition address way hi hd hb ih =>
    have hq : q ∈ placeholders text := hqs ▸ List.mem_of_getElem? hi
    rcases ih rfl with ⟨rfl, hp⟩ | ⟨before, origin, found, rfl, hr, hf, hp⟩
    · exact .inr ⟨[], q.name, definition, rfl, .placeholder hq, hd, hp⟩
    · exact .inr ⟨q.name :: before, origin, found, rfl, .through hq hd hr, hf, hp⟩

/-- The names on a way are defined, each but the first is referred to by the one before it, and so is the name
at its end. -/
theorem Occurs.links (h : Occurs registry qs address way p) :
    (∃ q ∈ qs, (way ++ [p.name]).head? = some q.name) ∧ (way ++ [p.name]).IsChain registry.Refers ∧
      ∀ name ∈ way, registry.contains name = true := by
  induction h with
  | here hi => exact ⟨⟨_, List.mem_of_getElem? hi, rfl⟩, .singleton _, by simp⟩
  | @inside qs i q p definition address way hi hd hb ih =>
    obtain ⟨⟨first, hfirst, hhead⟩, hlinks, hdefined⟩ := ih
    refine ⟨⟨q, List.mem_of_getElem? hi, rfl⟩, hlinks.cons fun name hname => ?_, ?_⟩
    · obtain rfl : first.name = name := Option.some.inj (hhead.symm.trans hname)
      exact ⟨definition, hd, first, hfirst, rfl⟩
    · simpa using ⟨Registry.contains_iff_get?.mpr ⟨definition, hd⟩, hdefined⟩

/-! ## What errors say -/

theorem placeholder_wellFormed (hp : p ∈ placeholders text) : p.WellFormed :=
  (cut_iff.mpr rfl : Cut text.toList (pieces text)).wellFormed (mem_placeholders.mp hp)

/-- Names have no angle brackets, so that no pattern is taken for the root. -/
theorem Registry.Reaches.ne_rootName (hr : registry.Reaches text name) : name ≠ rootName := by
  obtain ⟨visited, p, hp, rfl⟩ : ∃ visited, ∃ p ∈ placeholders visited, p.name = name := by
    obtain ⟨p, hp, hr⟩ := hr
    cases hr with
    | refl => exact ⟨text, p, hp, rfl⟩
    | tail _ hstep =>
      obtain ⟨definition, -, q, hq, rfl⟩ := hstep
      exact ⟨definition, q, hq, rfl⟩
  intro hroot
  have hchars := (placeholder_wellFormed hp).name
  rw [hroot] at hchars
  exact absurd (hchars '<' (by decide)) (by decide)

/-- A name twice on the way to the first fault would have been a fault before. -/
theorem Occurs.nodup (h : Occurs registry qs address way p)
    (hearlier : ∀ address' way' p', Occurs registry qs address' way' p' → Precedes address' address →
      ∀ error, ¬ Fault registry way' p' error) : way.Nodup := by
  suffices hfront : ∀ before after, way = before ++ after → before.Nodup from hfront way [] (by simp)
  intro before
  induction before using List.reverseRecOn with
  | nil => exact fun _ _ => .nil
  | append_singleton before name ih =>
    intro after hway
    obtain rfl : way = before ++ name :: after := by simpa using hway
    obtain ⟨address', q, hq, rfl, hlt⟩ := h.ancestor
    refine List.nodup_append.mpr ⟨ih _ rfl, by simp, fun other hm _ hname heq => ?_⟩
    obtain rfl := List.mem_singleton.mp hname
    exact hearlier address' before q hq hlt _ (.cyclic (heq ▸ hm))

theorem Fault.origin_eq (h : Fault registry way p (.unknownPattern name origin)) :
    origin = way.getLast?.getD rootName := by
  cases h with
  | unknownInRoot => rfl
  | unknownInside => simp

/-- An unknown name is said to stand in the root exactly if it stands in the text itself. -/
theorem Fault.origin_eq_rootName_iff (h : Fault registry way p (.unknownPattern name origin))
    (ho : Occurs registry (placeholders text) address way p) : origin = rootName ↔ way = [] := by
  rw [h.origin_eq]
  rcases ho.placed with ⟨rfl, -⟩ | ⟨before, last, definition, rfl, hr, -⟩
  · simp
  · simp [hr.ne_rootName]

theorem Fault.genuine_of_unknown (h : Fault registry way p (.unknownPattern name origin))
    (ho : Occurs registry (placeholders text) address way p) :
    Genuine registry text (.unknownPattern name origin) := by
  obtain ⟨hnone, rfl⟩ : registry.get? name = none ∧ p.name = name := by
    cases h with
    | unknownInRoot hnone => exact ⟨hnone, rfl⟩
    | unknownInside hnone => exact ⟨hnone, rfl⟩
  have hroot := h.origin_eq_rootName_iff ho
  have hlast := h.origin_eq
  rcases ho.placed with ⟨hway, hp⟩ | ⟨before, last, definition, rfl, hr, hd, hp⟩
  · exact .unknown hnone (.inl ⟨hroot.mpr hway, p, hp, rfl⟩)
  · obtain rfl : origin = last := by simpa using hlast
    exact .unknown hnone (.inr ⟨by simp [hroot], hr, definition, hd, p, hp, rfl⟩)

theorem FirstFault.genuine (h : FirstFault registry [] (placeholders text) error) :
    Genuine registry text error := by
  obtain ⟨address, way, p, ho, hf, hearlier⟩ := h
  simp only [List.nil_append] at hf hearlier
  cases hf with
  | cyclic hm =>
    obtain ⟨⟨q, hq, hhead⟩, hlinks, hdefined⟩ := ho.links
    refine .cycle ⟨q, hq, ?_⟩ hlinks (ho.nodup hearlier) hdefined hm
    rwa [List.head?_append_of_ne_nil _ (List.ne_nil_of_mem hm)] at hhead
  | unknownInRoot hnone => exact Fault.genuine_of_unknown (.unknownInRoot hnone) ho
  | unknownInside hnone hn => exact Fault.genuine_of_unknown (.unknownInside hnone hn) ho
  | type hn hd hc hk hi hf =>
    rcases ho.placed with ⟨-, hp⟩ | ⟨before, origin, definition, -, hr, hd, hp⟩
    · exact .type .self hp hc hk hi hf
    · exact .type (.definition hr hd) hp hc hk hi hf

/-! ## Finding the first fault -/

theorem Sound.nil : Sound registry above [] := by
  rintro address below p ho
  cases ho with
  | here h => simp at h
  | inside h => simp at h

/-- Nothing is wrong with a placeholder and what is below it. -/
def SoundAt (registry : Registry) (above : List String) (q : Placeholder) : Prop :=
  (∀ error, ¬ Fault registry above q error) ∧
    ∀ definition, registry.get? q.name = some definition →
      Sound registry (above ++ [q.name]) (placeholders definition)

theorem SoundAt.not_fault (hq : SoundAt registry above q) (ho : Occurs registry (q :: qs) (0 :: address) way p)
    (error : ConfigError) : ¬ Fault registry (above ++ way) p error := by
  rcases ho.cases_zero with ⟨-, rfl, rfl⟩ | ⟨definition, below, hd, rfl, hb⟩
  · simpa using hq.1 error
  · simpa using hq.2 definition hd address below p hb error

theorem Sound.cons (hq : SoundAt registry above q) (h : Sound registry above qs) : Sound registry above (q :: qs) := by
  intro address below p ho error
  obtain ⟨i, address, rfl⟩ := List.exists_cons_of_ne_nil ho.ne_nil
  cases i with
  | zero => exact hq.not_fault ho error
  | succ i => exact h _ below p (occurs_succ_iff.mp ho) error

theorem FirstFault.head (h : Fault registry above q error) : FirstFault registry above (q :: qs) error := by
  refine ⟨[0], [], q, .here rfl, by simpa using h, fun address below p ho hlt => ?_⟩
  cases hlt with
  | nil => exact absurd rfl ho.ne_nil
  | rel h => exact absurd h (Nat.not_lt_zero _)
  | cons h => cases h

theorem FirstFault.inside (hq : ∀ error, ¬ Fault registry above q error) (hd : registry.get? q.name = some definition)
    (h : FirstFault registry (above ++ [q.name]) (placeholders definition) error) :
    FirstFault registry above (q :: qs) error := by
  obtain ⟨address, below, p, ho, hf, hearlier⟩ := h
  refine ⟨0 :: address, q.name :: below, p, .inside rfl hd ho, by simpa using hf, ?_⟩
  intro address' below' p' ho' hlt error'
  cases hlt with
  | nil => exact absurd rfl ho'.ne_nil
  | rel h => exact absurd h (Nat.not_lt_zero _)
  | cons hlt =>
    rcases ho'.cases_zero with ⟨-, rfl, rfl⟩ | ⟨found, below', hd', rfl, hb⟩
    · simpa using hq error'
    · obtain rfl : definition = found := Option.some.inj (hd.symm.trans hd')
      simpa using hearlier _ below' p' hb hlt error'

theorem FirstFault.after (hq : SoundAt registry above q) (h : FirstFault registry above qs error) :
    FirstFault registry above (q :: qs) error := by
  obtain ⟨address, below, p, ho, hf, hearlier⟩ := h
  obtain ⟨i, address, rfl⟩ := List.exists_cons_of_ne_nil ho.ne_nil
  refine ⟨(i + 1) :: address, below, p, occurs_succ_iff.mpr ho, hf, ?_⟩
  intro address' below' p' ho' hlt error'
  obtain ⟨j, address', rfl⟩ := List.exists_cons_of_ne_nil ho'.ne_nil
  cases j with
  | zero => exact hq.not_fault ho' error'
  | succ j =>
    refine hearlier _ below' p' (occurs_succ_iff.mp ho') ?_ error'
    cases hlt with
    | rel h => exact .rel (Nat.lt_of_succ_lt_succ h)
    | cons h => exact .cons h

/-! ## What an expansion reports -/

/-- A result is right about what is found below a way. -/
def Judges (registry : Registry) (above : List String) (qs : List Placeholder) : Except ConfigError Expansion → Prop
  | .ok _ => Sound registry above qs
  | .error error => FirstFault registry above qs error

theorem Judges.map {result : Except ConfigError Expansion} (h : Judges registry above qs result)
    (f : Expansion → Expansion) : Judges registry above qs (result >>= fun expansion => .ok (f expansion)) := by
  cases result with
  | ok expansion => exact h
  | error e => exact h

/-- A placeholder with nothing wrong, the text of its definition and what stands behind it. -/
theorem Judges.reference {result : Except ConfigError Expansion} {after : Expansion → Except ConfigError Expansion}
    (hq : ∀ error, ¬ Fault registry above q error) (hd : registry.get? q.name = some definition)
    (hi : Judges registry (above ++ [q.name]) (placeholders definition) result)
    (ha : ∀ inner, Judges registry above qs (after inner)) : Judges registry above (q :: qs) (result >>= after) := by
  cases result with
  | error e => exact FirstFault.inside hq hd hi
  | ok inner =>
    have hat : SoundAt registry above q := ⟨hq, fun found hfound => by
      obtain rfl : definition = found := Option.some.inj (hd.symm.trans hfound)
      exact hi⟩
    have hafter := ha inner
    show Judges registry above (q :: qs) (after inner)
    generalize after inner = result at hafter ⊢
    cases result with
    | ok expansion => exact Sound.cons hat hafter
    | error e => exact FirstFault.after hat hafter

theorem capture?_eq_error (h : p.capture? = .error error) : ∃ capture kind, p.capture = some capture ∧
    p.kind = some kind ∧ kind ≠ "int" ∧ kind ≠ "float" ∧ error = .invalidCaptureType capture kind := by
  obtain ⟨name, capture, kind⟩ := p
  cases capture with
  | none => cases h
  | some capture =>
    cases kind with
    | none => cases h
    | some kind =>
      by_cases hi : kind = "int"
      · simp [Placeholder.capture?, CaptureType.parse, hi, Except.map] at h
      by_cases hf : kind = "float"
      · simp [Placeholder.capture?, CaptureType.parse, hf, Except.map] at h
      · have herror : error = .invalidCaptureType capture kind := by
          simpa [Placeholder.capture?, CaptureType.parse, hi, hf, Except.map, eq_comm] using h
        exact ⟨capture, kind, rfl, rfl, hi, hf, herror⟩

/-- A defined name that is not on the way, with a capture that there is. -/
theorem not_fault {capture : Option Capture} (hn : p.name ∉ above) (hd : registry.get? p.name = some definition)
    (hc : p.capture? = .ok capture) (error : ConfigError) : ¬ Fault registry above p error := by
  intro hf
  cases hf with
  | cyclic h => exact hn h
  | unknownInRoot h => cases h.symm.trans hd
  | unknownInside h => cases h.symm.trans hd
  | type _ _ hcapture hkind hi hf =>
    rcases capture?_isOk_iff.mp ⟨capture, hc⟩ _ _ hcapture hkind with h | h
    · exact hi h
    · exact hf h

theorem judges_expandPieces {f : String → String → Nat → Except ConfigError Expansion} {origin : String}
    {stack : List String} {number : Nat} {ps : List Piece} (ho : origin = stack.head?.getD rootName)
    (hf : ∀ p, .reference p ∈ ps → p.name ∉ stack → ∀ definition number, registry.get? p.name = some definition →
      Judges registry (stack.reverse ++ [p.name]) (placeholders definition) (f p.name definition number)) :
    Judges registry stack.reverse (ps.filterMap Piece.placeholder?)
      (expandPieces registry f origin stack number ps) := by
  induction ps generalizing number with
  | nil => exact Sound.nil
  | cons piece rest ih =>
    have ih := fun number => @ih number fun p hp => hf p (.tail _ hp)
    cases piece with
    | char c => exact (ih number).map fun after => ⟨c :: after.text, after.captures⟩
    | reference p =>
      rw [List.filterMap_cons_some (show (Piece.reference p).placeholder? = some p from rfl)]
      simp only [expandPieces]
      split
      · rename_i hs
        exact FirstFault.head (.cyclic (by simpa using hs))
      rename_i hs
      have hs : p.name ∉ stack := by simpa using hs
      split
      · rename_i hnone
        refine FirstFault.head ?_
        cases stack with
        | nil => exact ho ▸ .unknownInRoot hnone
        | cons name stack =>
          obtain rfl : origin = name := ho
          rw [List.reverse_cons] at *
          exact .unknownInside hnone (by simpa [or_comm] using hs)
      rename_i definition hd
      cases hc : p.capture? with
      | error e =>
        obtain ⟨capture, kind, hcapture, hkind, hi, hf', rfl⟩ := capture?_eq_error hc
        exact FirstFault.head
          (.type (by simpa using hs) (Registry.contains_iff_get?.mpr ⟨_, hd⟩) hcapture hkind hi hf')
      | ok capture =>
        have hp : ∀ error, ¬ Fault registry stack.reverse p error := not_fault (by simpa using hs) hd hc
        refine Judges.reference hp hd (hf p (.head _) hs definition (number + capture.toList.length) hd) ?_
        intro inner
        exact (ih _).map fun after => ⟨groupStart capture number ++ inner.text ++ ')' :: after.text,
          capture.toList ++ inner.captures ++ after.captures⟩

/-- As deep as there are definitions, an expansion is right about what it finds. -/
theorem judges_expandText {depth : Nat} {origin : String} {stack : List String} {number : Nat}
    (ho : origin = stack.head?.getD rootName) (hn : stack.Nodup) (hd : ∀ name ∈ stack, registry.contains name = true)
    (hl : registry.size < depth + stack.length) :
    Judges registry stack.reverse (placeholders text) (expandText registry depth origin stack number text) := by
  induction depth generalizing origin stack number text with
  | zero =>
    have := Registry.length_le_size hn hd
    omega
  | succ depth ih =>
    refine judges_expandPieces ho fun p _ hs definition number hg => ?_
    rw [← List.reverse_cons]
    refine ih rfl (List.nodup_cons.mpr ⟨hs, hn⟩) ?_ ?_
    · simpa using ⟨Registry.contains_iff_get?.mpr ⟨_, hg⟩, hd⟩
    · simp only [List.length_cons]
      omega

theorem judges_expand (registry : Registry) (text : String) :
    Judges registry [] (placeholders text) (expand registry text) :=
  judges_expandText rfl .nil (by simp) (by simp)

/-! ## One first fault -/

theorem Fault.unique {way' : List String} {error' : ConfigError} (h : Fault registry way p error)
    (h' : Fault registry way' p error') (hw : way = way') : error = error' := by
  cases h with
  | cyclic hm =>
    cases h' with
    | cyclic => rw [hw]
    | unknownInRoot => simp [hw] at hm
    | unknownInside _ hn => exact absurd (hw ▸ hm) hn
    | type hn => exact absurd (hw ▸ hm) hn
  | unknownInRoot hnone =>
    cases h' with
    | cyclic hm => simp [← hw] at hm
    | unknownInRoot => rfl
    | unknownInside => simp at hw
    | type _ hd => simp [Registry.contains_iff_get?, hnone] at hd
  | unknownInside hnone hn =>
    cases h' with
    | cyclic hm => exact absurd (hw ▸ hm) hn
    | unknownInRoot => simp at hw
    | unknownInside =>
      obtain ⟨-, rfl⟩ := List.append_inj' hw rfl |>.imp_right List.singleton_inj.mp
      rfl
    | type _ hd => simp [Registry.contains_iff_get?, hnone] at hd
  | type hn hd hc hk =>
    cases h' with
    | cyclic hm => exact absurd (hw ▸ hm) hn
    | unknownInRoot hnone => simp [Registry.contains_iff_get?, hnone] at hd
    | unknownInside hnone => simp [Registry.contains_iff_get?, hnone] at hd
    | type _ _ hc' hk' =>
      cases hc.symm.trans hc'
      cases hk.symm.trans hk'
      rfl

theorem FirstFault.unique {error' : ConfigError} (h : FirstFault registry above qs error)
    (h' : FirstFault registry above qs error') : error = error' := by
  obtain ⟨address, below, p, ho, hf, hearlier⟩ := h
  obtain ⟨address', below', p', ho', hf', hearlier'⟩ := h'
  rcases trichotomous_of (List.Lex (· < ·)) address address' with hlt | rfl | hlt
  · exact absurd hf (hearlier' _ _ _ ho hlt _)
  · obtain ⟨rfl, rfl⟩ := ho.unique ho'
    exact hf.unique hf' rfl
  · exact absurd hf' (hearlier _ _ _ ho' hlt _)

/-- An expansion fails exactly if there is a fault, and with the first one; what it says is true of the set of
patterns. As the origin of an unknown name it gives the place of the first fault, which is the root exactly if the
fault stands in the text itself (`Fault.origin_eq_rootName_iff`); that the text has the same name further on does
not matter. -/
theorem expand_error_iff_first (registry : Registry) (text : String) (error : ConfigError) :
    (expand registry text = .error error ↔ FirstFault registry [] (placeholders text) error) ∧
      (expand registry text = .error error → Genuine registry text error) := by
  have hjudges := judges_expand registry text
  have hfirst : expand registry text = .error error → FirstFault registry [] (placeholders text) error := by
    intro h
    rwa [h] at hjudges
  refine ⟨⟨hfirst, fun h => ?_⟩, fun h => (hfirst h).genuine⟩
  cases hresult : expand registry text with
  | ok expansion =>
    rw [hresult] at hjudges
    obtain ⟨address, below, p, ho, hf, -⟩ := h
    exact absurd hf (hjudges _ _ _ ho _)
  | error found =>
    rw [hresult] at hjudges
    rw [hjudges.unique h]

/-- A cycle that a longer way leads into, beside two names that are not defined; the first of these stands inside
the cycle, behind the place where it closes. -/
theorem expand_error_of_entered_cycle :
    let registry : Registry := ⟨[("A", "x%{B}"), ("B", "%{D}%{C}"), ("C", "%{B}%{NONE}"), ("D", "y")]⟩
    let error : ConfigError := .cyclicPattern ["A", "B", "C", "B"]
    expand registry "%{D}%{A}%{MISSING}" = .error error ∧
      FirstFault registry [] (placeholders "%{D}%{A}%{MISSING}") error ∧
      Genuine registry "%{D}%{A}%{MISSING}" error := by
  intro registry error
  have h : expand registry "%{D}%{A}%{MISSING}" = .error error := by rfl
  obtain ⟨hfirst, hgenuine⟩ := expand_error_iff_first registry "%{D}%{A}%{MISSING}" error
  exact ⟨h, hfirst.mp h, hgenuine h⟩

end LogPipeline.Grok
