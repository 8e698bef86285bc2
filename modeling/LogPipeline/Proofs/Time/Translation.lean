import LogPipeline.Proofs.Time.Years
import Mathlib.Data.List.Nodup

/-!
# Reference layouts

A layout without a percent sign shows how the reference time is written. It is cut into fraction marks, tokens and
other characters, without gaps: a fraction mark goes before a token, and a long token before a short one. In the
format each piece is replaced by what stands for it. A specifier ends by itself and no other character begins one, so
the items of the format are those of the pieces, of which only plain text and blanks run together.
-/

namespace LogPipeline

theorem Text.dropStart?_eq_some_iff {start cs rest : List Char} :
    Text.dropStart? start cs = some rest ↔ cs = start ++ rest := by
  induction start generalizing cs with
  | nil => simp [Text.dropStart?]
  | cons a start ih =>
    cases cs with
    | nil => simp [Text.dropStart?]
    | cons b cs =>
      rw [Text.dropStart?, Option.ite_none_right_eq_some, ih, List.cons_append, List.cons.injEq, @eq_comm _ a]

end LogPipeline

namespace LogPipeline.Time

open Text (isBlank isDigit dropStart?_eq_some_iff)

namespace Layout

/-- A part of a reference layout. -/
inductive ReferencePiece where
  /-- A point and a digit a number of times. -/
  | fraction (digit : Char) (count : Nat)
  /-- A token of the reference time, and the format that stands for it. -/
  | token (text pattern : String)
  | plain (c : Char)

/-- What a piece is in the layout. -/
def ReferencePiece.text : ReferencePiece → List Char
  | .fraction digit count => '.' :: List.replicate count digit
  | .token text _ => text.toList
  | .plain c => [c]

/-- What a piece becomes in the format. -/
def ReferencePiece.pattern : ReferencePiece → List Char
  | .fraction _ _ => "%.f".toList
  | .token _ pattern => pattern.toList
  | .plain c => [c]

/-- The items of a piece that stands alone. -/
def ReferencePiece.items (piece : ReferencePiece) : List Item := formatItems (String.ofList piece.pattern)

/-- A fraction mark is at the front: a point and a run of zeros or of nines, which no other digit follows. -/
structure FractionAt (cs : List Char) (digit : Char) (count : Nat) (rest : List Char) : Prop where
  text : cs = '.' :: (List.replicate count digit ++ rest)
  digit : digit = '0' ∨ digit = '9'
  count : 0 < count
  ends : rest.head?.any isDigit = false

/-- A layout that is cut into pieces. Where there is no fraction mark it is the longest token that is taken, and a
single character only where there is no token either. -/
inductive CutInto : List Char → List ReferencePiece → Prop
  | nil : CutInto [] []
  | fraction {cs rest : List Char} {digit : Char} {count : Nat} {ps : List ReferencePiece}
      (hf : FractionAt cs digit count rest) (h : CutInto rest ps) : CutInto cs (.fraction digit count :: ps)
  | token {cs rest : List Char} {text pattern : String} {ps : List ReferencePiece}
      (hf : ∀ digit count rest, ¬ FractionAt cs digit count rest) (ht : (text, pattern) ∈ referenceTokens)
      (hs : cs = text.toList ++ rest)
      (hl : ∀ other ∈ referenceTokens, other.1.toList <+: cs → other.1.toList.length ≤ text.toList.length)
      (h : CutInto rest ps) : CutInto cs (.token text pattern :: ps)
  | plain {c : Char} {cs : List Char} {ps : List ReferencePiece}
      (hf : ∀ digit count rest, ¬ FractionAt (c :: cs) digit count rest)
      (ht : ∀ token ∈ referenceTokens, ¬ token.1.toList <+: c :: cs) (h : CutInto cs ps) :
      CutInto (c :: cs) (.plain c :: ps)

variable {c digit : Char} {cs rest tail : List Char} {count : Nat} {text pattern : String}
  {tokens : List (String × String)} {ps ps' : List ReferencePiece}

/-! ## Fraction marks and tokens -/

theorem fractionMark?_eq_some_iff :
    fractionMark? cs = some rest ↔ ∃ digit count, FractionAt cs digit count rest := by
  constructor
  · intro h
    unfold fractionMark? at h
    split at h
    · rename_i digit tail
      rw [Option.ite_none_right_eq_some] at h
      obtain ⟨hdigit, h⟩ := h
      simp only [Option.ite_none_left_eq_some, Option.some.injEq, Bool.not_eq_true] at h
      obtain ⟨hends, rfl⟩ := h
      have hrun : tail.takeWhile (· == digit) = List.replicate (tail.takeWhile (· == digit)).length digit :=
        List.eq_replicate_of_mem fun c hc => eq_of_beq (List.all_eq_true.mp List.all_takeWhile c hc)
      refine ⟨digit, (tail.takeWhile (· == digit)).length + 1, ?_, hdigit, Nat.succ_pos _, hends⟩
      rw [List.replicate_succ, List.cons_append, ← hrun, List.takeWhile_append_dropWhile]
    · cases h
  · rintro ⟨digit, count, rfl, hdigit, hcount, hends⟩
    obtain ⟨count, rfl⟩ := Nat.exists_eq_add_one_of_ne_zero (Nat.ne_of_gt hcount)
    have hrest : (List.replicate count digit ++ rest).dropWhile (· == digit) = rest := by
      rw [List.dropWhile_append_of_pos (by simp)]
      cases rest with
      | nil => rfl
      | cons c rest =>
        -- the digit of the run would be a digit behind it
        have hc : c ≠ digit := by
          rintro rfl
          rcases hdigit with rfl | rfl <;> cases hends
        simp [hc]
    simp [fractionMark?, List.replicate_succ, hdigit, hrest, hends]

theorem token?_eq_none_iff : token? cs tokens = none ↔ ∀ token ∈ tokens, ¬ token.1.toList <+: cs := by
  induction tokens with
  | nil => simp [token?]
  | cons token tokens ih =>
    rw [token?, List.forall_mem_cons, ← ih]
    cases h : Text.dropStart? token.1.toList cs with
    | some tail => simp [dropStart?_eq_some_iff.mp h]
    | none =>
      have hnone : ¬ token.1.toList <+: cs := by
        rintro ⟨tail, htail⟩
        rw [dropStart?_eq_some_iff.mpr htail.symm] at h
        cases h
      simp [hnone]

/-- A token stands behind those that begin with it. -/
theorem referenceTokens_ordered :
    referenceTokens.Pairwise fun earlier later => ¬ earlier.1.toList <+: later.1.toList := by decide

theorem referenceTokens_distinct : (referenceTokens.map Prod.fst).Nodup := by decide

theorem referenceTokens_ne : ∀ token ∈ referenceTokens, token.1.toList ≠ [] := by decide

/-- The first token at the front is the longest one. -/
theorem of_token? (ho : tokens.Pairwise fun earlier later => ¬ earlier.1.toList <+: later.1.toList)
    (h : token? cs tokens = some (pattern, rest)) :
    ∃ text, (text, pattern) ∈ tokens ∧ cs = text.toList ++ rest ∧
      ∀ other ∈ tokens, other.1.toList <+: cs → other.1.toList.length ≤ text.toList.length := by
  induction tokens with
  | nil => cases h
  | cons token tokens ih =>
    obtain ⟨hlater, ho⟩ := List.pairwise_cons.mp ho
    rw [token?] at h
    split at h
    · rename_i tail htail
      cases h
      have hcs := dropStart?_eq_some_iff.mp htail
      refine ⟨token.1, List.mem_cons_self, hcs, fun other hm hother => ?_⟩
      rcases List.mem_cons.mp hm with rfl | hm
      · exact Nat.le_refl _
      · -- a longer token would begin with the one that was found
        refine Nat.le_of_not_lt fun hlt => hlater other hm ?_
        exact List.prefix_of_prefix_length_le ⟨_, hcs.symm⟩ hother (Nat.le_of_lt hlt)
    · rename_i hnone
      obtain ⟨text, hm, hcs, hlongest⟩ := ih ho h
      refine ⟨text, List.mem_cons_of_mem _ hm, hcs, fun other hother hprefix => ?_⟩
      rcases List.mem_cons.mp hother with rfl | hother
      · obtain ⟨tail, htail⟩ := hprefix
        rw [dropStart?_eq_some_iff.mpr htail.symm] at hnone
        cases hnone
      · exact hlongest other hother hprefix

/-! ## Cutting -/

theorem FractionAt.unique {digit' : Char} {count' : Nat} {rest' : List Char} (h : FractionAt cs digit count rest)
    (h' : FractionAt cs digit' count' rest') : digit = digit' ∧ count = count' ∧ rest = rest' := by
  have hrest : some rest = some rest' := by
    rw [← fractionMark?_eq_some_iff.mpr ⟨_, _, h⟩, ← fractionMark?_eq_some_iff.mpr ⟨_, _, h'⟩]
  obtain rfl := Option.some.inj hrest
  have hrun : List.replicate count digit = List.replicate count' digit' := by
    have hcs := h.text.symm.trans h'.text
    simpa using hcs
  obtain ⟨hcount, hdigit⟩ := List.replicate_inj.mp hrun
  exact ⟨hdigit.resolve_left (Nat.ne_of_gt h.count), hcount, rfl⟩

/-- A layout can be cut in one way only. -/
theorem CutInto.unique (h : CutInto cs ps) (h' : CutInto cs ps') : ps = ps' := by
  induction h generalizing ps' with
  | nil =>
    cases h' with
    | nil => rfl
    | fraction hf' _ => cases hf'.text
    | token _ ht' hs' => exact absurd (List.append_eq_nil_iff.mp hs'.symm).1 (referenceTokens_ne _ ht')
  | fraction hf _ ih =>
    cases h' with
    | nil => cases hf.text
    | fraction hf' h' =>
      obtain ⟨rfl, rfl, rfl⟩ := hf.unique hf'
      rw [ih h']
    | token hf' => exact absurd hf (hf' _ _ _)
    | plain hf' => exact absurd hf (hf' _ _ _)
  | @token cs rest text pattern ps hf ht hs hl _ ih =>
    cases h' with
    | nil => exact absurd (List.append_eq_nil_iff.mp hs.symm).1 (referenceTokens_ne _ ht)
    | fraction hf' => exact absurd hf' (hf _ _ _)
    | @token _ rest' text' pattern' ps' _ ht' hs' hl' h' =>
      -- neither of two longest tokens is longer than the other
      have hprefix : text.toList <+: cs := ⟨rest, hs.symm⟩
      have hprefix' : text'.toList <+: cs := ⟨rest', hs'.symm⟩
      have hlength : text.toList.length = text'.toList.length :=
        Nat.le_antisymm (hl' _ ht hprefix) (hl _ ht' hprefix')
      obtain ⟨htext, rfl⟩ := List.append_inj (hs.symm.trans hs') hlength
      have htoken := List.inj_on_of_nodup_map referenceTokens_distinct ht ht' (String.toList_inj.mp htext)
      obtain ⟨rfl, rfl⟩ := Prod.mk.inj htoken
      rw [ih h']
    | plain _ ht' => exact absurd ⟨rest, hs.symm⟩ (ht' _ ht)
  | plain hf ht _ ih =>
    cases h' with
    | fraction hf' => exact absurd hf' (hf _ _ _)
    | token _ ht' hs' => exact absurd ⟨_, hs'.symm⟩ (ht _ ht')
    | plain _ _ h' => rw [ih h']

/-- Nothing of a layout is lost by cutting it. -/
theorem CutInto.text_eq (h : CutInto cs ps) : cs = ps.flatMap ReferencePiece.text := by
  induction h with
  | nil => rfl
  | fraction hf _ ih => rw [List.flatMap_cons, ← ih, hf.text, ReferencePiece.text, List.cons_append]
  | token _ _ hs _ _ ih => rw [List.flatMap_cons, ← ih, hs, ReferencePiece.text]
  | plain _ _ _ ih => rw [List.flatMap_cons, ← ih, ReferencePiece.text, List.singleton_append]

/-- The piece at the front of a layout, before any cut of what is behind it. -/
theorem exists_piece (hc : c ≠ '%') (cs : List Char) :
    ∃ p : ReferencePiece, p.pattern = (piece c cs).1 ∧ p.text ≠ [] ∧ c :: cs = p.text ++ (piece c cs).2 ∧
      ∀ ps, CutInto (piece c cs).2 ps → CutInto (c :: cs) (p :: ps) := by
  unfold piece
  cases hmark : fractionMark? (c :: cs) with
  | some tail =>
    obtain ⟨digit, count, hf⟩ := fractionMark?_eq_some_iff.mp hmark
    exact ⟨.fraction digit count, rfl, nofun, hf.text, fun _ h => .fraction hf h⟩
  | none =>
    have hf : ∀ digit count rest, ¬ FractionAt (c :: cs) digit count rest := fun _ _ _ hf => by
      rw [fractionMark?_eq_some_iff.mpr ⟨_, _, hf⟩] at hmark
      cases hmark
    cases htoken : token? (c :: cs) referenceTokens with
    | some found =>
      obtain ⟨text, ht, hs, hl⟩ := of_token? referenceTokens_ordered htoken
      exact ⟨.token text found.1, rfl, referenceTokens_ne _ ht, hs, fun _ h => .token hf ht hs hl h⟩
    | none =>
      refine ⟨.plain c, ?_, nofun, rfl, fun _ h => .plain hf (token?_eq_none_iff.mp htoken) h⟩
      simp [ReferencePiece.pattern, hc]

/-- A layout is translated piece by piece. -/
theorem cut_translateFrom {limit : Nat} (hl : cs.length ≤ limit) (hp : '%' ∉ cs) :
    ∃ ps, CutInto cs ps ∧ translateFrom limit cs = ps.flatMap ReferencePiece.pattern := by
  induction limit generalizing cs with
  | zero =>
    obtain rfl := List.eq_nil_of_length_eq_zero (Nat.le_zero.mp hl)
    exact ⟨[], .nil, rfl⟩
  | succ limit ih =>
    cases cs with
    | nil => exact ⟨[], .nil, rfl⟩
    | cons c cs =>
      obtain ⟨hc, -⟩ := List.ne_and_not_mem_of_not_mem_cons hp
      obtain ⟨p, hpattern, hne, htext, hcut⟩ := exists_piece (Ne.symm hc) cs
      have hlength : (piece c cs).2.length ≤ limit := by
        have := List.length_pos_iff.mpr hne
        have := congrArg List.length htext
        simp only [List.length_cons, List.length_append] at this hl
        omega
      have hp' : '%' ∉ (piece c cs).2 := fun hm => hp (htext ▸ List.mem_append_right _ hm)
      obtain ⟨ps, hps, htranslate⟩ := ih hlength hp'
      refine ⟨p :: ps, hcut ps hps, ?_⟩
      show (piece c cs).1 ++ translateFrom limit (piece c cs).2 = _
      rw [htranslate, List.flatMap_cons, hpattern]

end Layout

/-! ## Items -/

namespace Item

/-- An item in front of others. Plain text goes on in plain text behind it, and blanks in blanks. -/
def attach : Item → List Item → List Item
  | .literal text, .literal more :: rest => .literal (text ++ more) :: rest
  | .blank, .blank :: rest => .blank :: rest
  | item, rest => item :: rest

/-- An item is a component of a date or a time, and so neither text nor a fault. -/
def isComponent : Item → Bool
  | .literal _ | .blank | .fault => false
  | _ => true

/-- A specifier ends by itself, whatever stands behind it. -/
def Specifies (pattern : List Char) (item : Item) : Prop :=
  item.isComponent = true ∧
    ∃ specifier, pattern = '%' :: specifier ∧ ∀ rest, readSpecifier (specifier ++ rest) = ([item], rest)

/-- The item that a character is which begins no specifier. -/
def ofPlain (c : Char) : Item := if isBlank c then .blank else .literal [c]

variable {item : Item} {items : List Item} {pattern cs : List Char} {c : Char}

theorem attach_of_isComponent (h : item.isComponent = true) (items : List Item) :
    attach item items = item :: items := by
  unfold attach
  split
  · cases h
  · cases h
  · rfl

theorem attach_of_head (h : ∀ next, items.head? = some next → next.isComponent = true) :
    attach item items = item :: items := by
  unfold attach
  split
  · cases h _ rfl
  · cases h _ rfl
  · rfl

theorem fault_notMem_attach (hi : item ≠ .fault) (h : .fault ∉ items) : .fault ∉ attach item items := by
  unfold attach
  split
  · simpa using h
  · exact h
  · simpa [hi.symm] using h

theorem readAll_specifier (h : Specifies pattern item) (cs : List Char) :
    readAll (pattern ++ cs).length (pattern ++ cs) = item :: readAll cs.length cs := by
  obtain ⟨-, specifier, rfl, hread⟩ := h
  show readAll ((specifier ++ cs).length + 1) ('%' :: (specifier ++ cs)) = _
  rw [readAll, if_pos rfl, hread]
  exact congrArg (item :: ·) (readAll_limit (by simp) (Nat.le_refl _))

/-- A character that begins no specifier is added to the items behind it, if the next percent sign begins one that is
a component. -/
theorem readAll_plain (hc : c ≠ '%')
    (hnext : cs.head? = some '%' → ∀ item, (readAll cs.length cs).head? = some item → item.isComponent = true) :
    readAll (c :: cs).length (c :: cs) = attach (ofPlain c) (readAll cs.length cs) := by
  have hblank : isBlank '%' = false := rfl
  cases cs with
  | nil =>
    by_cases hcb : isBlank c = true <;> simp [readAll, hc, hcb, ofPlain, attach]
  | cons d rest =>
    by_cases hd : d = '%'
    · -- neither blanks nor plain text go on with a percent sign, and nothing is added to a component
      subst hd
      rw [attach_of_head (hnext rfl), List.length_cons, readAll, if_neg hc]
      by_cases hcb : isBlank c = true
      · rw [if_pos hcb, List.dropWhile_cons_of_neg (by simp [hblank]), ofPlain, if_pos hcb]
      · rw [if_neg hcb, List.dropWhile_cons_of_neg (by simp [isLiteral]),
          List.takeWhile_cons_of_neg (by simp [isLiteral]), ofPlain, if_neg hcb]
    · -- both characters are read with the same rest, so a run of either kind is cut off at the same place
      have hlimit {f : Char → Bool} :
          readAll (rest.length + 1) (rest.dropWhile f) = readAll rest.length (rest.dropWhile f) := by
        have hle := (List.dropWhile_suffix (l := rest) f).length_le
        exact readAll_limit (Nat.le_succ_of_le hle) hle
      by_cases hcb : isBlank c = true <;> by_cases hdb : isBlank d = true <;>
        simp [readAll, hc, hd, hcb, hdb, ofPlain, attach, isLiteral, hlimit]

end Item

namespace Layout

/-- What stands for a token is a specifier. -/
theorem token_specifies : ∀ token ∈ referenceTokens, ∃ item, Item.Specifies token.2.toList item := by
  simp only [referenceTokens, List.forall_mem_cons]
  and_intros
  all_goals first | exact ⟨_, rfl, _, rfl, fun _ => rfl⟩ | exact List.forall_mem_nil _

/-- A piece of a layout without a percent sign. -/
def ReferencePiece.Proper : ReferencePiece → Prop
  | .fraction _ _ => True
  | .token text pattern => (text, pattern) ∈ referenceTokens
  | .plain c => c ≠ '%'

theorem CutInto.proper (h : CutInto cs ps) (hp : '%' ∉ cs) : ∀ p ∈ ps, p.Proper := by
  induction h with
  | nil => exact nofun
  | fraction hf _ ih =>
    rw [hf.text] at hp
    refine List.forall_mem_cons.mpr ⟨trivial, ih fun hm => hp ?_⟩
    exact List.mem_cons_of_mem _ (List.mem_append_right _ hm)
  | token _ ht hs _ _ ih =>
    rw [hs] at hp
    exact List.forall_mem_cons.mpr ⟨ht, ih fun hm => hp (List.mem_append_right _ hm)⟩
  | plain _ _ _ ih =>
    obtain ⟨hc, hp⟩ := List.ne_and_not_mem_of_not_mem_cons hp
    exact List.forall_mem_cons.mpr ⟨Ne.symm hc, ih hp⟩

namespace ReferencePiece

variable {p : ReferencePiece}

theorem Proper.cases (h : p.Proper) :
    (∃ item, Item.Specifies p.pattern item) ∨ ∃ c, p = .plain c ∧ c ≠ '%' := by
  cases p with
  | fraction digit count => exact .inl ⟨.fraction, rfl, ['.', 'f'], rfl, fun _ => rfl⟩
  | token text pattern => exact .inl (token_specifies _ h)
  | plain c => exact .inr ⟨c, rfl, h⟩

theorem items_eq (p : ReferencePiece) : p.items = Item.readAll p.pattern.length p.pattern := by
  rw [items, formatItems, String.toList_ofList]

theorem items_of_specifies {item : Item} (h : Item.Specifies p.pattern item) : p.items = [item] := by
  have hread := Item.readAll_specifier h []
  rw [List.append_nil] at hread
  rw [items_eq, hread]
  rfl

theorem items_plain (hc : c ≠ '%') : (plain c).items = [Item.ofPlain c] := by
  rw [items_eq, pattern, Item.readAll_plain hc fun h _ _ => by cases h]
  unfold Item.ofPlain
  split <;> rfl

end ReferencePiece

variable {ps : List ReferencePiece}

/-- Only a specifier begins with a percent sign. -/
theorem isComponent_of_percent (h : ∀ p ∈ ps, p.Proper) (hp : (ps.flatMap ReferencePiece.pattern).head? = some '%')
    (item : Item) (hitem : (Item.readAll (ps.flatMap ReferencePiece.pattern).length
      (ps.flatMap ReferencePiece.pattern)).head? = some item) : item.isComponent = true := by
  cases ps with
  | nil => cases hp
  | cons p ps =>
    rcases (h p List.mem_cons_self).cases with ⟨next, hnext⟩ | ⟨c, rfl, hc⟩
    · rw [List.flatMap_cons, Item.readAll_specifier hnext] at hitem
      cases hitem
      exact hnext.1
    · exact absurd (Option.some.inj hp) hc

/-- The items of a format are those of its pieces. -/
theorem readAll_pieces (h : ∀ p ∈ ps, p.Proper) :
    Item.readAll (ps.flatMap ReferencePiece.pattern).length (ps.flatMap ReferencePiece.pattern) =
      (ps.flatMap ReferencePiece.items).foldr Item.attach [] := by
  induction ps with
  | nil => rfl
  | cons p ps ih =>
    obtain ⟨hp, hps⟩ := List.forall_mem_cons.mp h
    simp only [List.flatMap_cons, List.foldr_append, ← ih hps]
    rcases hp.cases with ⟨item, hitem⟩ | ⟨c, rfl, hc⟩
    · rw [Item.readAll_specifier hitem, ReferencePiece.items_of_specifies hitem]
      exact (Item.attach_of_isComponent hitem.1 _).symm
    · rw [ReferencePiece.items_plain hc]
      exact Item.readAll_plain hc (isComponent_of_percent hps)

theorem fault_notMem_pieces (h : ∀ p ∈ ps, p.Proper) :
    .fault ∉ (ps.flatMap ReferencePiece.items).foldr Item.attach [] := by
  induction ps with
  | nil => exact nofun
  | cons p ps ih =>
    obtain ⟨hp, hps⟩ := List.forall_mem_cons.mp h
    rw [List.flatMap_cons, List.foldr_append]
    rcases hp.cases with ⟨item, hitem⟩ | ⟨c, rfl, hc⟩
    · rw [ReferencePiece.items_of_specifies hitem]
      refine Item.fault_notMem_attach ?_ (ih hps)
      rintro rfl
      cases hitem.1
    · rw [ReferencePiece.items_plain hc]
      refine Item.fault_notMem_attach ?_ (ih hps)
      unfold Item.ofPlain
      split <;> exact nofun

/-! ## Layouts -/

/-- The layouts that have a name. -/
def names : List String := ["ISO8601", "UNIX", "UNIX_MS"]

theorem parse_reference {layout : String} (hne : layout ≠ "") (hp : '%' ∉ layout.toList)
    (hf : .fault ∉ formatItems (translate layout)) :
    ∃ parsed, Layout.parse layout = .ok parsed ∧
      (layout ∉ names → parsed = .format layout (translate layout)) := by
  have hcontains : layout.toList.contains '%' = false := by simpa using hp
  have hformat : isFormat (translate layout) = true := by simpa [isFormat] using hf
  unfold Layout.parse
  split
  · rename_i hname
    exact ⟨_, rfl, fun hn => absurd (by simp [names, hname]) hn⟩
  split
  · rename_i hname
    exact ⟨_, rfl, fun hn => absurd (by simp [names, hname]) hn⟩
  split
  · rename_i hname
    exact ⟨_, rfl, fun hn => absurd (by simp [names, hname]) hn⟩
  · simp only [hcontains, Bool.false_eq_true, if_false]
    exact ⟨_, if_pos hformat, fun _ => rfl⟩

/-- A layout that is not empty and has no percent sign is accepted. There is one way to cut it, its format has what
stands for each of the pieces, and the items of the format are those of the pieces. -/
theorem reference_accepted {layout : String} (hne : layout ≠ "") (hp : '%' ∉ layout.toList) :
    ∃ ps, (∀ other, CutInto layout.toList other ↔ other = ps) ∧
      layout.toList = ps.flatMap ReferencePiece.text ∧
      (translate layout).toList = ps.flatMap ReferencePiece.pattern ∧
      formatItems (translate layout) = (ps.flatMap ReferencePiece.items).foldr Item.attach [] ∧
      .fault ∉ formatItems (translate layout) ∧
      ∃ parsed, Layout.parse layout = .ok parsed ∧
        (layout ∉ names → parsed = .format layout (translate layout)) := by
  obtain ⟨ps, hcut, htranslate⟩ := cut_translateFrom (Nat.le_refl layout.toList.length) hp
  have hproper := hcut.proper hp
  have hpattern : (translate layout).toList = ps.flatMap ReferencePiece.pattern := by
    rw [translate, String.toList_ofList, htranslate]
  have hitems : formatItems (translate layout) = (ps.flatMap ReferencePiece.items).foldr Item.attach [] := by
    rw [formatItems, hpattern, readAll_pieces hproper]
  have hfault : .fault ∉ formatItems (translate layout) := hitems ▸ fault_notMem_pieces hproper
  refine ⟨ps, fun other => ⟨fun h => h.unique hcut, ?_⟩, hcut.text_eq, hpattern, hitems, hfault,
    parse_reference hne hp hfault⟩
  rintro rfl
  exact hcut

/-- The longest token is taken, and a point before a run of zeros that ends in another digit is plain. -/
theorem reference_accepted_of_overlaps :
    "Jan 002.000-07002.05" ≠ "" ∧ '%' ∉ "Jan 002.000-07002.05".toList ∧
      Layout.parse "Jan 002.000-07002.05" = .ok (.format "Jan 002.000-07002.05" "%b %j%.f%#z%d.%S") := by
  have hne : "Jan 002.000-07002.05" ≠ "" := by decide
  have hp : '%' ∉ "Jan 002.000-07002.05".toList := by decide
  refine ⟨hne, hp, ?_⟩
  obtain ⟨_, _, _, _, _, _, parsed, hparse, hformat⟩ := reference_accepted hne hp
  have htranslate : translate "Jan 002.000-07002.05" = "%b %j%.f%#z%d.%S" := by decide
  rw [hparse, hformat (by decide), htranslate]

end Layout

end LogPipeline.Time
