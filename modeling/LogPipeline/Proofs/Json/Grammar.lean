import LogPipeline.Json.Doc
import LogPipeline.Proofs.Number.Digits

/-!
# The grammar of documents

What the language of documents allows, without blanks between the parts of a document, and that every document
is written in it. A text of this language has no control character and so no line break.
-/

namespace LogPipeline.Json

open Text (isDigit isDigit_of_mem_toDigits toDigits_head)

/-! ## The language -/

def IsDigits (cs : List Char) : Prop := cs ≠ [] ∧ ∀ c ∈ cs, isDigit c = true

/-- Digits without a zero in front of others. -/
def IsWhole (cs : List Char) : Prop := IsDigits cs ∧ (cs.head? = some '0' → cs = ['0'])

inductive IsFraction : List Char → Prop
  | none : IsFraction []
  | point {cs : List Char} (h : IsDigits cs) : IsFraction ('.' :: cs)

inductive IsPower : List Char → Prop
  | none : IsPower []
  | letter {c : Char} {sign cs : List Char} (hc : c = 'e' ∨ c = 'E')
      (hs : sign = [] ∨ sign = ['+'] ∨ sign = ['-']) (h : IsDigits cs) : IsPower (c :: sign ++ cs)

inductive IsNumber : List Char → Prop
  | parts {sign whole fraction power : List Char} (hs : sign = [] ∨ sign = ['-']) (hw : IsWhole whole)
      (hf : IsFraction fraction) (hp : IsPower power) : IsNumber (sign ++ whole ++ fraction ++ power)

def isHexDigit (c : Char) : Bool :=
  isDigit c || (97 ≤ c.toNat && c.toNat ≤ 102) || (65 ≤ c.toNat && c.toNat ≤ 70)

/-- How a character may be written between quotes. -/
inductive IsCharacter : List Char → Prop
  | plain {c : Char} (hq : c ≠ '"') (hb : c ≠ '\\') (hc : 32 ≤ c.toNat) : IsCharacter [c]
  | letter {c : Char} (h : c ∈ ['"', '\\', '/', 'b', 'f', 'n', 'r', 't']) : IsCharacter ['\\', c]
  | unit {digits : List Char} (hl : digits.length = 4) (h : ∀ c ∈ digits, isHexDigit c = true) :
      IsCharacter ('\\' :: 'u' :: digits)

/-- A text from its closing quote on, or from a character before it. -/
inductive IsTextEnd : List Char → Prop
  | close : IsTextEnd ['"']
  | character {cs rest : List Char} (h : IsCharacter cs) (ht : IsTextEnd rest) : IsTextEnd (cs ++ rest)

inductive IsText : List Char → Prop
  | opened {cs : List Char} (h : IsTextEnd cs) : IsText ('"' :: cs)

mutual
inductive IsValue : List Char → Prop
  | null : IsValue ['n', 'u', 'l', 'l']
  | true : IsValue ['t', 'r', 'u', 'e']
  | false : IsValue ['f', 'a', 'l', 's', 'e']
  | number {cs : List Char} (h : IsNumber cs) : IsValue cs
  | text {cs : List Char} (h : IsText cs) : IsValue cs
  | emptyList : IsValue ['[', ']']
  | list {cs : List Char} (h : IsItems cs) : IsValue ('[' :: cs ++ [']'])
  | object {cs : List Char} (h : IsObject cs) : IsValue cs
inductive IsItems : List Char → Prop
  | last {cs : List Char} (h : IsValue cs) : IsItems cs
  | next {cs rest : List Char} (h : IsValue cs) (ht : IsItems rest) : IsItems (cs ++ ',' :: rest)
inductive IsObject : List Char → Prop
  | empty : IsObject ['{', '}']
  | entries {cs : List Char} (h : IsEntries cs) : IsObject ('{' :: cs ++ ['}'])
inductive IsEntries : List Char → Prop
  | last {name cs : List Char} (hn : IsText name) (h : IsValue cs) : IsEntries (name ++ ':' :: cs)
  | next {name cs rest : List Char} (hn : IsText name) (h : IsValue cs) (ht : IsEntries rest) :
      IsEntries (name ++ ':' :: cs ++ ',' :: rest)
end

/-! ## Control characters -/

variable {c : Char} {cs rest : List Char}

/-- The text has none of the first 32 characters, which are control characters. -/
def Printable (cs : List Char) : Prop := ∀ c ∈ cs, 32 ≤ c.toNat

theorem printable_nil : Printable [] := by simp [Printable]

theorem printable_cons : Printable (c :: cs) ↔ 32 ≤ c.toNat ∧ Printable cs := by simp [Printable]

theorem printable_append : Printable (cs ++ rest) ↔ Printable cs ∧ Printable rest := by
  simp [Printable, or_imp, forall_and]

theorem IsDigits.printable (h : IsDigits cs) : Printable cs := by
  intro c hc
  have hd := h.2 c hc
  simp only [isDigit, Bool.and_eq_true, decide_eq_true_eq] at hd
  omega

theorem IsNumber.printable (h : IsNumber cs) : Printable cs := by
  obtain ⟨hs, hw, hf, hp⟩ := h
  simp only [printable_append]
  refine ⟨⟨⟨?_, hw.1.printable⟩, ?_⟩, ?_⟩
  · rcases hs with rfl | rfl <;> simp [Printable]
  · cases hf with
    | none => exact printable_nil
    | point h => exact printable_cons.2 ⟨by decide, h.printable⟩
  · cases hp with
    | none => exact printable_nil
    | letter hc hs h =>
      refine printable_append.2 ⟨printable_cons.2 ⟨?_, ?_⟩, h.printable⟩
      · rcases hc with rfl | rfl <;> decide
      · rcases hs with rfl | rfl | rfl <;> simp [Printable]

theorem isHexDigit_printable (h : isHexDigit c = true) : 32 ≤ c.toNat := by
  simp only [isHexDigit, isDigit, Bool.or_eq_true, Bool.and_eq_true, decide_eq_true_eq] at h
  omega

theorem IsCharacter.printable (h : IsCharacter cs) : Printable cs := by
  cases h with
  | plain hq hb hc => exact printable_cons.2 ⟨hc, printable_nil⟩
  | letter h =>
    refine printable_cons.2 ⟨by decide, printable_cons.2 ⟨?_, printable_nil⟩⟩
    simp only [List.mem_cons, List.not_mem_nil, or_false] at h
    rcases h with rfl | rfl | rfl | rfl | rfl | rfl | rfl | rfl <;> decide
  | unit hl h =>
    have hd : Printable _ := fun c hc => isHexDigit_printable (h c hc)
    exact printable_cons.2 ⟨by decide, printable_cons.2 ⟨by decide, hd⟩⟩

theorem IsTextEnd.printable (h : IsTextEnd cs) : Printable cs := by
  induction h with
  | close => simp [Printable]
  | character h _ ih => exact printable_append.2 ⟨h.printable, ih⟩

theorem IsText.printable (h : IsText cs) : Printable cs := by
  obtain ⟨h⟩ := h
  exact printable_cons.2 ⟨by decide, h.printable⟩

mutual
theorem IsValue.printable {cs : List Char} : IsValue cs → Printable cs
  | .null | .true | .false | .emptyList => by simp [Printable]
  | .number h => h.printable
  | .text h => h.printable
  | .list h => by simpa [Printable, or_imp, forall_and] using h.printable
  | .object h => h.printable
theorem IsItems.printable {cs : List Char} : IsItems cs → Printable cs
  | .last h => h.printable
  | .next h ht => printable_append.2 ⟨h.printable, printable_cons.2 ⟨by decide, ht.printable⟩⟩
theorem IsObject.printable {cs : List Char} : IsObject cs → Printable cs
  | .empty => by simp [Printable]
  | .entries h => by simpa [Printable, or_imp, forall_and] using h.printable
theorem IsEntries.printable {cs : List Char} : IsEntries cs → Printable cs
  | .last hn h => printable_append.2 ⟨hn.printable, printable_cons.2 ⟨by decide, h.printable⟩⟩
  | .next hn h ht => by
    have hfirst : Printable (_ ++ ':' :: _) :=
      printable_append.2 ⟨hn.printable, printable_cons.2 ⟨by decide, h.printable⟩⟩
    exact printable_append.2 ⟨hfirst, printable_cons.2 ⟨by decide, ht.printable⟩⟩
end

/-! ## Numbers -/

variable {n : Nat} {d : Decimal} {sign : List Char}

theorem isDigits_toDigits (n : Nat) : IsDigits (Nat.toDigits 10 n) := by
  obtain ⟨c, rest, heq, -⟩ := toDigits_head n
  exact ⟨by simp [heq], fun c => isDigit_of_mem_toDigits⟩

theorem isWhole_toDigits (n : Nat) : IsWhole (Nat.toDigits 10 n) := by
  refine ⟨isDigits_toDigits n, fun hc => ?_⟩
  obtain ⟨c, rest, heq, -, hz⟩ := toDigits_head n
  rw [heq, List.head?_cons, Option.some.injEq] at hc
  rw [heq, hc, (hz hc).2]

theorem IsDigits.append (h : IsDigits cs) (hr : ∀ c ∈ rest, isDigit c = true) : IsDigits (cs ++ rest) :=
  ⟨by simp [h.1], fun c hc => (List.mem_append.1 hc).elim (h.2 c) (hr c)⟩

theorem isDigit_of_mem_zeros (h : c ∈ Binary64.zeros n) : isDigit c = true := by
  rw [(List.mem_replicate.1 h).2]
  decide

theorem IsWhole.take (h : IsWhole cs) (hn : n ≠ 0) : IsWhole (cs.take n) := by
  obtain ⟨n, rfl⟩ := Nat.exists_eq_succ_of_ne_zero hn
  cases cs with
  | nil => exact h
  | cons c cs =>
    refine ⟨⟨by simp, fun c hc => h.1.2 c (List.mem_of_mem_take hc)⟩, fun hc => ?_⟩
    rw [h.2 hc, List.take_succ_cons, List.take_nil]

/-- If the digit of a decimal is a zero, no zeros are put behind it. -/
def ZeroUnscaled (d : Decimal) : Prop := d.digits = 0 → d.exponent ≤ 0

theorem isWhole_shifted (h : ZeroUnscaled d) :
    IsWhole (Nat.toDigits 10 d.digits ++ Binary64.zeros d.exponent.toNat) := by
  refine ⟨(isDigits_toDigits _).append fun c => isDigit_of_mem_zeros, fun hc => ?_⟩
  obtain ⟨c, rest, heq, -, hz⟩ := toDigits_head d.digits
  rw [heq, List.cons_append, List.head?_cons, Option.some.injEq] at hc
  have hzero : d.exponent.toNat = 0 := by
    have := h (hz hc).1
    omega
  rw [heq, hc, (hz hc).2, hzero]
  rfl

/-- A decimal with digits behind the point. -/
theorem positional_of_neg (h : d.exponent < 0) :
    ∃ whole fraction, Binary64.positional d = whole ++ '.' :: fraction ∧ IsWhole whole ∧ IsDigits fraction := by
  have hdigits := isDigits_toDigits d.digits
  unfold Binary64.positional
  simp only [Int.not_le.2 h, ↓reduceIte]
  split
  · -- the point stands between two digits
    rename_i hp
    refine ⟨_, _, rfl, (isWhole_toDigits _).take (by omega), ?_, fun c hc => ?_⟩
    · rw [ne_eq, List.drop_eq_nil_iff]
      omega
    · exact hdigits.2 c (List.mem_of_mem_drop hc)
  · -- the point stands before all digits, and zeros behind it
    refine ⟨['0'], _, rfl, isWhole_toDigits 0, by simp [hdigits.1], fun c hc => ?_⟩
    exact (List.mem_append.1 hc).elim isDigit_of_mem_zeros (hdigits.2 c)

theorem isNumber_integerText (i : Int) : IsNumber (integerText i) := by
  have hnat := isWhole_toDigits i.natAbs
  unfold integerText
  split
  · simpa using IsNumber.parts (.inr rfl) hnat .none .none
  · simpa using IsNumber.parts (.inl rfl) hnat .none .none

/-! ### Numbers with a point -/

theorem onGrid?_digits {mantissa : Nat} {exponent grid : Int}
    (h : Binary64.onGrid? mantissa exponent grid = some d) : d.digits ≠ 0 := by
  unfold Binary64.onGrid? at h
  simp only at h
  grind

theorem shortestFrom_unscaled (mantissa : Nat) (exponent grid : Int) (limit : Nat) :
    ZeroUnscaled (Binary64.shortestFrom mantissa exponent grid limit) := by
  induction limit generalizing grid with
  | zero => exact fun _ => Int.le_refl 0
  | succ limit ih =>
    unfold Binary64.shortestFrom
    split
    · rename_i h
      exact fun hz => absurd hz (onGrid?_digits h)
    · exact ih _

theorem stripZeros_unscaled (h : ZeroUnscaled d) (limit : Nat) : ZeroUnscaled (Binary64.stripZeros d limit) := by
  induction limit generalizing d with
  | zero => exact h
  | succ limit ih =>
    unfold Binary64.stripZeros
    split
    · exact ih fun (hz : d.digits / 10 = 0) => by omega
    · exact h

theorem shortest_unscaled (mantissa : Nat) (exponent : Int) : ZeroUnscaled (Binary64.shortest mantissa exponent) :=
  stripZeros_unscaled (shortestFrom_unscaled _ _ _ _) _

theorem isNumber_positional (hs : sign = [] ∨ sign = ['-']) (h : d.exponent < 0) :
    IsNumber (sign ++ Binary64.positional d) := by
  obtain ⟨whole, fraction, heq, hw, hf⟩ := positional_of_neg h
  simpa [heq] using IsNumber.parts hs hw (.point hf) .none

theorem isNumber_pointed (hs : sign = [] ∨ sign = ['-']) (hp : ZeroUnscaled d) (h : 0 ≤ d.exponent) :
    IsNumber (sign ++ (Binary64.positional d ++ ['.', '0'])) := by
  have hzero : IsDigits ['0'] := isDigits_toDigits 0
  simpa [Binary64.positional, h] using IsNumber.parts hs (isWhole_shifted hp) (.point hzero) .none

theorem isNumber_scientific (hs : sign = [] ∨ sign = ['-']) (d : Decimal) :
    IsNumber (sign ++ Binary64.scientific d) := by
  have hdigits := isDigits_toDigits d.digits
  have hparts {fraction : List Char} (hf : IsFraction fraction) (power : Int) :
      IsNumber (sign ++ ((Nat.toDigits 10 d.digits).take 1 ++ fraction ++
        ['e', if power < 0 then '-' else '+'] ++ Nat.toDigits 10 power.natAbs)) := by
    have hp : IsPower ('e' :: [if power < 0 then '-' else '+'] ++ Nat.toDigits 10 power.natAbs) := by
      refine .letter (.inl rfl) ?_ (isDigits_toDigits _)
      split
      · exact .inr (.inr rfl)
      · exact .inr (.inl rfl)
    simpa using IsNumber.parts hs ((isWhole_toDigits _).take (by decide)) hf hp
  unfold Binary64.scientific
  simp only
  split
  · exact hparts .none _
  · rename_i hne
    exact hparts (.point ⟨hne, fun c hc => hdigits.2 c (List.mem_of_mem_drop hc)⟩) _

theorem isNumber_jsonText {x : Binary64} (hx : x.isFinite = true) : IsNumber x.jsonText.toList := by
  cases x with
  | nan => cases hx
  | infinite => cases hx
  | finite negative mantissa exponent =>
    have hs : Binary64.signText negative = [] ∨ Binary64.signText negative = ['-'] := by
      cases negative
      · exact .inl rfl
      · exact .inr rfl
    have hp := shortest_unscaled mantissa exponent
    simp only [Binary64.jsonText]
    split
    · have hzero : IsNumber (Binary64.signText negative ++ ['0'] ++ ['.', '0'] ++ []) :=
        .parts hs (isWhole_toDigits 0) (.point (isDigits_toDigits 0)) .none
      cases negative <;> exact hzero
    · simp only [String.toList_ofList]
      split
      · exact isNumber_scientific hs _
      · split
        · rename_i h
          exact isNumber_pointed hs hp h
        · rename_i h
          exact isNumber_positional hs (Int.not_le.1 h)

theorem isValue_jsonText (x : Binary64) : IsValue x.jsonText.toList := by
  cases x with
  | nan => exact .null
  | infinite negative =>
    rw [Binary64.jsonText]
    exact .null
  | finite negative mantissa exponent => exact .number (isNumber_jsonText rfl)

/-! ## Texts -/

theorem isHexDigit_hexDigit (n : Nat) : isHexDigit (hexDigit n) = true := by
  have hall : ∀ n < 16, isHexDigit (Nat.digitChar n) = true := by decide
  exact hall (n % 16) (Nat.mod_lt n (by decide))

theorem isCharacter_escapeChar (c : Char) : IsCharacter (escapeChar c) := by
  unfold escapeChar
  -- the seven characters that have an escape of their own
  iterate 7
    split
    · exact .letter (by decide)
  split
  · refine .unit rfl fun c hc => ?_
    simp only [List.mem_cons, List.not_mem_nil, or_false] at hc
    rcases hc with rfl | rfl | rfl | rfl
    · decide
    · decide
    · exact isHexDigit_hexDigit _
    · exact isHexDigit_hexDigit _
  · rename_i hquote hback _ _ _ _ _ hcontrol
    exact .plain hquote hback (Nat.le_of_not_lt hcontrol)

theorem isText_quote (s : String) : IsText (quote s) := by
  have hend : IsTextEnd (s.toList.flatMap escapeChar ++ ['"']) := by
    induction s.toList with
    | nil => exact .close
    | cons c cs ih =>
      rw [List.flatMap_cons, List.append_assoc]
      exact .character (isCharacter_escapeChar c) ih
  exact .opened hend

/-! ## Documents -/

mutual
/-- Every document is written in the language. -/
theorem isValue_render : (doc : Doc) → IsValue doc.render
  | .null => .null
  | .bool b => by cases b <;> constructor
  | .integer i => .number (isNumber_integerText i)
  | .real x => isValue_jsonText x
  | .text s => .text (isText_quote s)
  | .list [] => .emptyList
  | .list (item :: items) => .list (isItems_renderItems (item :: items) (List.cons_ne_nil _ _))
  | .object entries => .object (isObject_render entries)
theorem isItems_renderItems : (items : List Doc) → items ≠ [] → IsItems (Doc.renderItems items)
  | [], h => absurd rfl h
  | [item], _ => .last (isValue_render item)
  | item :: next :: items, _ =>
    .next (isValue_render item) (isItems_renderItems (next :: items) (List.cons_ne_nil _ _))
theorem isObject_render : (entries : List (String × Doc)) → IsObject (Doc.object entries).render
  | [] => .empty
  | entry :: entries => .entries (isEntries_renderEntries (entry :: entries) (List.cons_ne_nil _ _))
theorem isEntries_renderEntries : (entries : List (String × Doc)) → entries ≠ [] →
    IsEntries (Doc.renderEntries entries)
  | [], h => absurd rfl h
  | [(name, doc)], _ => .last (isText_quote name) (isValue_render doc)
  | (name, doc) :: next :: entries, _ =>
    .next (isText_quote name) (isValue_render doc)
      (isEntries_renderEntries (next :: entries) (List.cons_ne_nil _ _))
end

end LogPipeline.Json
