import LogPipeline.Proofs.Regex.Matching
import LogPipeline.Text.Blank

/-!
# The texts of an expression

Where no condition looks around, what an expression matches depends only on the characters between the two positions:
`Node.Spells` says which characters these may be.
-/

namespace LogPipeline

variable {c d : Char} {low high : Nat}

theorem CharSet.contains_range : (range low high).contains c = true ↔ low ≤ c.toNat ∧ c.toNat ≤ high := by
  simp [range, contains, covers]

theorem CharSet.contains_single : (single d).contains c = true ↔ c = d := by
  rw [single, contains_range, ← Nat.le_antisymm_iff, Char.toNat_inj, eq_comm]

theorem Text.isDigit_iff : isDigit c = true ↔ 48 ≤ c.toNat ∧ c.toNat ≤ 57 := by simp [isDigit]

end LogPipeline

namespace LogPipeline.Regex

/-- The characters of a text between two positions. -/
def Between (text : Array Char) (start stop : Nat) (cs : List Char) : Prop :=
  ∃ rest, text.toList.drop start = cs ++ rest ∧ stop = start + cs.length

namespace Node

/-- No condition looks at what is around. -/
def lookless : Node → Bool
  | .empty | .chars _ => true
  | .look _ => false
  | .repeated _ _ _ body => lookless body
  | .group _ body => lookless body
  | .seq a b => lookless a && lookless b
  | .alt a b => lookless a && lookless b

/-- The texts that a node matches in which no condition looks around. -/
def Spells : Node → List Char → Prop
  | .empty, cs => cs = []
  | .chars set, cs => ∃ c, cs = [c] ∧ set.contains c = true
  | .look _, _ => False
  | .repeated _ least most body, cs => ∃ parts : List (List Char), least ≤ parts.length ∧
      (∀ bound, most = some bound → parts.length ≤ max least bound) ∧ (∀ part ∈ parts, Spells body part) ∧
      cs = parts.flatten
  | .group _ body, cs => Spells body cs
  | .seq a b, cs => ∃ front back, Spells a front ∧ Spells b back ∧ cs = front ++ back
  | .alt a b, cs => Spells a cs ∨ Spells b cs

end Node

variable {text : Array Char} {start stop : Nat} {c : Char} {cs front back : List Char}

/-! ## Parts of a text -/

theorem between_nil : Between text start stop [] ↔ start = stop := by
  simp [Between, eq_comm]

theorem between_singleton : Between text start stop [c] ↔ stop = start + 1 ∧ text[start]? = some c := by
  rw [← Array.getElem?_toList, ← List.head?_drop]
  constructor
  · rintro ⟨rest, htext, rfl⟩
    exact ⟨rfl, by rw [htext]; rfl⟩
  · rintro ⟨rfl, hc⟩
    obtain ⟨rest, hrest⟩ := List.head?_eq_some_iff.mp hc
    exact ⟨rest, hrest, rfl⟩

theorem between_append : Between text start stop (front ++ back) ↔
    ∃ middle, Between text start middle front ∧ Between text middle stop back := by
  constructor
  · rintro ⟨rest, htext, rfl⟩
    refine ⟨start + front.length, ⟨back ++ rest, by rw [htext, List.append_assoc], rfl⟩, rest, ?_, ?_⟩
    · rw [← List.drop_drop, htext, List.append_assoc, List.drop_left]
    · rw [List.length_append, Nat.add_assoc]
  · rintro ⟨_, ⟨rest, htext, rfl⟩, rest', hrest, rfl⟩
    rw [← List.drop_drop, htext, List.drop_left] at hrest
    refine ⟨rest', by rw [htext, hrest, List.append_assoc], ?_⟩
    rw [List.length_append, Nat.add_assoc]

theorem between_all : Between text 0 text.size cs ↔ cs = text.toList := by
  constructor
  · rintro ⟨rest, htext, hsize⟩
    have hlength := congrArg List.length htext
    simp only [List.drop_zero, List.length_append, Array.length_toList] at hlength
    obtain rfl : rest = [] := List.length_eq_zero_iff.mp (by omega)
    simpa using htext.symm
  · rintro rfl
    exact ⟨[], by simp, by simp⟩

theorem rounds_iff_between {round : Nat → Nat → Prop} {spells : List Char → Prop} {count : Nat}
    (hround : ∀ start stop, round start stop ↔ ∃ cs, Between text start stop cs ∧ spells cs) :
    Rounds round count start stop ↔ ∃ parts : List (List Char), parts.length = count ∧
      (∀ part ∈ parts, spells part) ∧ Between text start stop parts.flatten := by
  induction count generalizing start with
  | zero =>
    simp only [Rounds, List.length_eq_zero_iff]
    constructor
    · rintro rfl
      exact ⟨[], rfl, List.forall_mem_nil _, between_nil.mpr rfl⟩
    · rintro ⟨_, rfl, -, hb⟩
      exact between_nil.mp hb
  | succ count ih =>
    simp only [Rounds, hround, ih]
    constructor
    · rintro ⟨middle, ⟨cs, hb, hcs⟩, parts, rfl, hparts, hb'⟩
      exact ⟨cs :: parts, rfl, List.forall_mem_cons.mpr ⟨hcs, hparts⟩, between_append.mpr ⟨middle, hb, hb'⟩⟩
    · rintro ⟨parts, hlength, hparts, hb⟩
      obtain ⟨cs, parts, rfl⟩ := List.exists_cons_of_length_eq_add_one hlength
      obtain ⟨middle, hb, hb'⟩ := between_append.mp hb
      obtain ⟨hcs, hparts⟩ := List.forall_mem_cons.mp hparts
      exact ⟨middle, ⟨cs, hb, hcs⟩, parts, Nat.succ.inj hlength, hparts, hb'⟩

namespace Node

variable {node body : Node} {greedy : Bool} {least count : Nat} {most : Option Nat} {set : CharSet}

/-- A node without conditions matches between two positions if it spells what stands between them. -/
theorem matches_iff_spells (h : node.lookless = true) :
    node.Matches text start stop ↔ ∃ cs, Between text start stop cs ∧ node.Spells cs := by
  induction node generalizing start stop with
  | empty => simp [Matches, Spells, between_nil]
  | chars set =>
    simp only [Matches, Spells]
    constructor
    · rintro ⟨hstop, c, hc, hset⟩
      exact ⟨[c], between_singleton.mpr ⟨hstop, hc⟩, c, rfl, hset⟩
    · rintro ⟨_, hb, c, rfl, hset⟩
      obtain ⟨hstop, hc⟩ := between_singleton.mp hb
      exact ⟨hstop, c, hc, hset⟩
  | look condition => cases h
  | repeated greedy least most body ih =>
    simp only [Matches, Spells, rounds_iff_between fun start stop => @ih start stop h]
    constructor
    · rintro ⟨_, hleast, hmost, parts, rfl, hparts, hb⟩
      exact ⟨_, hb, parts, hleast, hmost, hparts, rfl⟩
    · rintro ⟨_, hb, parts, hleast, hmost, hparts, rfl⟩
      exact ⟨_, hleast, hmost, parts, rfl, hparts, hb⟩
  | group index body ih => exact ih h
  | seq a b iha ihb =>
    obtain ⟨ha, hb⟩ := (Bool.and_eq_true _ _).mp h
    simp only [Matches, Spells, iha ha, ihb hb]
    constructor
    · rintro ⟨middle, ⟨front, hf, hfront⟩, back, hb, hback⟩
      exact ⟨_, between_append.mpr ⟨middle, hf, hb⟩, front, back, hfront, hback, rfl⟩
    · rintro ⟨_, hcs, front, back, hfront, hback, rfl⟩
      obtain ⟨middle, hf, hb⟩ := between_append.mp hcs
      exact ⟨middle, ⟨front, hf, hfront⟩, back, hb, hback⟩
  | alt a b iha ihb =>
    obtain ⟨ha, hb⟩ := (Bool.and_eq_true _ _).mp h
    simp only [Matches, Spells, iha ha, ihb hb, ← exists_or, ← and_or_left]

/-- A node without conditions matches a whole text if it spells it. -/
theorem matches_whole_iff (h : node.lookless = true) :
    node.Matches text 0 text.size ↔ node.Spells text.toList := by
  simp only [matches_iff_spells h, between_all, exists_eq_left]

/-! ## Repetitions -/

theorem spells_times : (repeated greedy count (some count) body).Spells cs ↔ ∃ parts : List (List Char),
    parts.length = count ∧ (∀ part ∈ parts, body.Spells part) ∧ cs = parts.flatten := by
  simp only [Spells, Option.some.injEq, forall_eq', Nat.max_self]
  constructor
  · rintro ⟨parts, hleast, hmost, h⟩
    exact ⟨parts, Nat.le_antisymm hmost hleast, h⟩
  · rintro ⟨parts, rfl, h⟩
    exact ⟨parts, Nat.le_refl _, Nat.le_refl _, h⟩

theorem spells_optional : (repeated greedy 0 (some 1) body).Spells cs ↔ cs = [] ∨ body.Spells cs := by
  simp only [Spells, Option.some.injEq, forall_eq', Nat.zero_max]
  constructor
  · rintro ⟨_ | ⟨part, _ | ⟨next, parts⟩⟩, -, hmost, hparts, rfl⟩
    · exact .inl rfl
    · exact .inr (by simpa using hparts)
    · simp at hmost
  · rintro (rfl | h)
    · exact ⟨[], by simp⟩
    · exact ⟨[cs], by simpa using h⟩

theorem spells_repeated_chars : (repeated greedy least most (.chars set)).Spells cs ↔
    least ≤ cs.length ∧ (∀ bound, most = some bound → cs.length ≤ max least bound) ∧
      ∀ c ∈ cs, set.contains c = true := by
  have hflatten (cs : List Char) : (cs.map fun c => [c]).flatten = cs := List.flatMap_singleton' cs
  constructor
  · rintro ⟨parts, hleast, hmost, hparts, rfl⟩
    -- every part is one character
    obtain ⟨cs, rfl⟩ : ∃ cs : List Char, parts = cs.map fun c => [c] := by
      clear hleast hmost
      induction parts with
      | nil => exact ⟨[], rfl⟩
      | cons part parts ih =>
        obtain ⟨⟨c, rfl, -⟩, hrest⟩ := List.forall_mem_cons.mp hparts
        obtain ⟨cs, rfl⟩ := ih hrest
        exact ⟨c :: cs, rfl⟩
    rw [hflatten]
    rw [List.length_map] at hleast hmost
    refine ⟨hleast, hmost, fun c hc => ?_⟩
    obtain ⟨d, hd, hset⟩ := hparts [c] (List.mem_map_of_mem hc)
    rwa [(List.cons.inj hd).1]
  · rintro ⟨hleast, hmost, hset⟩
    refine ⟨cs.map fun c => [c], by rwa [List.length_map], by rwa [List.length_map], ?_, (hflatten cs).symm⟩
    exact List.forall_mem_map.mpr fun c hc => ⟨c, rfl, hset c hc⟩

end Node

end LogPipeline.Regex
