import LogPipeline.Json.Reader
import LogPipeline.Proofs.Number.Digits

/-!
# Reading back what was written

The compact form of a document is read back as the same document, as long as it has no number that is written
with a point, all its whole numbers are those of a word with or without a sign, and it does not nest deeper
than the reader allows.
-/

namespace LogPipeline.Json

open Text (isDigit digitValue natOf natFrom natFrom_nil natFrom_cons le_natFrom natOf_toDigits toDigits_head
  isDigit_of_mem_toDigits)

/-- What comes behind a part of a document: nothing, or a mark that ends the part. -/
inductive Follows : List Char → Prop
  | nothing : Follows []
  | comma (rest : List Char) : Follows (',' :: rest)
  | bracket (rest : List Char) : Follows (']' :: rest)
  | brace (rest : List Char) : Follows ('}' :: rest)

variable {limit n : Nat} {c : Char} {cs rest : List Char}

/-! ## Numbers -/

theorem absorb_of_le (h : natFrom n cs ≤ largestWord) : absorb n cs = (natFrom n cs, []) := by
  induction cs generalizing n with
  | nil => rw [absorb, natFrom_nil]
  | cons c cs ih =>
    have hle := le_natFrom (n * 10 + digitValue c) cs
    rw [natFrom_cons] at h ⊢
    rw [absorb, if_pos (Nat.le_trans hle h), ih h]

theorem absorb_toDigits (h : n ≤ largestWord) : absorb 0 (Nat.toDigits 10 n) = (n, []) := by
  have hn : natFrom 0 (Nat.toDigits 10 n) = n := natOf_toDigits n
  rw [absorb_of_le (by rwa [hn]), hn]

theorem spanOf_digits (n : Nat) (hr : Follows rest) :
    (Nat.toDigits 10 n ++ rest).takeWhile isDigit = Nat.toDigits 10 n ∧
      (Nat.toDigits 10 n ++ rest).dropWhile isDigit = rest :=
  Text.takeWhile_isDigit (fun _ => isDigit_of_mem_toDigits) (by cases hr <;> rfl)

/-- A whole number of a word is read as far as its digits go; what is done with it depends on its sign. -/
theorem readUnsigned_toDigits (negative : Bool) (hn : n ≤ largestWord) (hr : Follows rest) :
    readUnsigned negative (Nat.toDigits 10 n ++ rest) =
      if !negative then some (.integer n, rest)
      else if n = 0 || n > 0x8000000000000000 then (realOf true n 0).map (·, rest)
      else some (.integer (-(n : Int)), rest) := by
  obtain ⟨c, digits, heq, -, hz⟩ := toDigits_head n
  have hfit : ((Nat.toDigits 10 n).isEmpty ||
      ((Nat.toDigits 10 n).head? == some '0' && decide ((Nat.toDigits 10 n).length > 1))) = false := by
    rw [heq]
    by_cases hc : c = '0'
    · simp [(hz hc).2]
    · simp [hc]
  unfold readUnsigned
  simp only [spanOf_digits n hr, hfit, absorb_toDigits hn]
  cases hr <;> simp

theorem readNumber_integerText {i : Int} (hi : Number.leastInteger ≤ i) (hn : i ≤ largestWord)
    (hr : Follows rest) : readNumber (integerText i ++ rest) = some (.integer i, rest) := by
  have hword : (largestWord : Int) = 0xFFFFFFFFFFFFFFFF := rfl
  have hleast : Number.leastInteger = -0x8000000000000000 := rfl
  have hfits : i.natAbs ≤ largestWord := by omega
  unfold integerText
  split
  · rename_i hneg
    have hsign : ¬ (i.natAbs = 0 ∨ i.natAbs > 0x8000000000000000) := by omega
    rw [List.cons_append, readNumber, readUnsigned_toDigits true hfits hr]
    simp only [Bool.not_true, Bool.false_eq_true, ↓reduceIte, Bool.or_eq_true, decide_eq_true_eq, hsign]
    rw [show -(i.natAbs : Int) = i by omega]
  · rename_i hpos
    obtain ⟨c, digits, heq, hd, -⟩ := toDigits_head i.natAbs
    have hread : readNumber (Nat.toDigits 10 i.natAbs ++ rest) =
        readUnsigned false (Nat.toDigits 10 i.natAbs ++ rest) := by
      rw [heq, List.cons_append]
      unfold readNumber
      split
      · rename_i hminus
        cases hminus
        cases hd
      · rfl
    rw [hread, readUnsigned_toDigits false hfits hr]
    simp only [Bool.not_false, ↓reduceIte]
    rw [show (i.natAbs : Int) = i by omega]

theorem integerText_starts (i : Int) :
    ∃ c tail, integerText i = c :: tail ∧ (isDigit c = true ∨ c = '-') := by
  unfold integerText
  split
  · exact ⟨_, _, rfl, .inr rfl⟩
  · obtain ⟨c, tail, heq, hd, -⟩ := toDigits_head i.natAbs
    exact ⟨c, tail, heq, .inl hd⟩

/-! ## Texts -/

theorem hexValue?_hexDigit (n : Nat) : hexValue? (hexDigit n) = some (n % 16) := by
  have hall : ∀ n < 16, hexValue? (Nat.digitChar n) = some n := by decide
  exact hall (n % 16) (Nat.mod_lt n (by decide))

theorem readEscape_unit (h : c.toNat < 32) (rest : List Char) :
    readEscape ('u' :: '0' :: '0' :: hexDigit (c.toNat / 16) :: hexDigit c.toNat :: rest) =
      some (c, rest) := by
  have hunit : 0 * 4096 + 0 * 256 + c.toNat / 16 % 16 * 16 + c.toNat % 16 = c.toNat := by omega
  have hzero : hexValue? '0' = some 0 := rfl
  simp only [readEscape, readUnit, hexValue?_hexDigit, hzero, Option.bind_eq_bind, Option.bind_some,
    Option.pure_def, hunit]
  rw [if_neg (by omega), if_neg (by omega), Char.ofNat_toNat]

/-- Where a text that is being read goes on with an escape. -/
theorem readText_escape {escape : List Char} (h : ∀ tail, readEscape (escape ++ tail) = some (c, tail))
    (limit : Nat) (tail : List Char) :
    readText (limit + 1) ('\\' :: (escape ++ tail)) =
      (readText limit tail).map fun read => (c :: read.1, read.2) := by
  rw [readText, if_neg (by decide), if_pos rfl, h]
  simp only [Option.bind_eq_bind, Option.bind_some]
  cases readText limit tail <;> rfl

theorem readText_escapeChar (limit : Nat) (c : Char) (tail : List Char) :
    readText (limit + 1) (escapeChar c ++ tail) =
      (readText limit tail).map fun read => (c :: read.1, read.2) := by
  unfold escapeChar
  -- the seven characters that have an escape of their own
  iterate 7
    split
    · rename_i h
      subst h
      exact readText_escape (fun _ => rfl) limit tail
  split
  · rename_i h
    exact readText_escape (readEscape_unit h) limit tail
  · rename_i hquote hback _ _ _ _ _ hcontrol
    rw [List.singleton_append, readText, if_neg hquote, if_neg hback, if_neg hcontrol]
    cases readText limit tail <;> rfl

theorem readText_flatMap (hl : cs.length < limit) (rest : List Char) :
    readText limit (cs.flatMap escapeChar ++ '"' :: rest) = some (cs, rest) := by
  induction cs generalizing limit with
  | nil =>
    obtain ⟨limit, rfl⟩ := Nat.exists_eq_succ_of_ne_zero (Nat.ne_of_gt hl)
    rw [List.flatMap_nil, List.nil_append, readText, if_pos rfl]
  | cons c cs ih =>
    obtain ⟨limit, rfl⟩ := Nat.exists_eq_succ_of_ne_zero (Nat.ne_of_gt (Nat.zero_lt_of_lt hl))
    rw [List.flatMap_cons, List.append_assoc, readText_escapeChar, ih (Nat.lt_of_succ_lt_succ hl)]
    rfl

theorem length_le_flatMap (cs : List Char) : cs.length ≤ (cs.flatMap escapeChar).length := by
  induction cs with
  | nil => exact Nat.le_refl 0
  | cons c cs ih =>
    have hc : 1 ≤ (escapeChar c).length := by
      unfold escapeChar
      repeat' split
      all_goals simp
    rw [List.flatMap_cons, List.length_append, List.length_cons]
    omega

/-- A text in quotes is read behind its opening quote. -/
theorem readText_quote (s : String) (rest : List Char) :
    ∃ tail, quote s ++ rest = '"' :: tail ∧ readText tail.length tail = some (s.toList, rest) := by
  refine ⟨s.toList.flatMap escapeChar ++ '"' :: rest, by simp [quote], readText_flatMap ?_ rest⟩
  have := length_le_flatMap s.toList
  simp only [List.length_append, List.length_cons]
  omega

theorem escapeChar_of_plain (hq : c ≠ '"') (hb : c ≠ '\\') (hc : 32 ≤ c.toNat) : escapeChar c = [c] := by
  have hcontrol (control : Char) (h : control.toNat < 32) : c ≠ control := by
    rintro rfl
    omega
  rw [escapeChar, if_neg hq, if_neg hb, if_neg (hcontrol _ (by decide)), if_neg (hcontrol _ (by decide)),
    if_neg (hcontrol _ (by decide)), if_neg (hcontrol _ (by decide)), if_neg (hcontrol _ (by decide)),
    if_neg (Nat.not_lt.mpr hc)]

theorem quote_of_plain {s : String} (h : ∀ c ∈ s.toList, escapeChar c = [c]) : quote s = '"' :: s.toList ++ ['"'] := by
  have hflat : ∀ {cs : List Char}, (∀ c ∈ cs, escapeChar c = [c]) → cs.flatMap escapeChar = cs := by
    intro cs h
    induction cs with
    | nil => rfl
    | cons c cs ih =>
      rw [List.flatMap_cons, h c List.mem_cons_self, ih fun d hd => h d (List.mem_cons_of_mem _ hd)]
      rfl
  rw [quote, hflat h]

/-! ## Documents -/

namespace Doc

mutual
/-- How many lists and objects lie inside each other. -/
def depth : Doc → Nat
  | .list items => itemsDepth items + 1
  | .object entries => entriesDepth entries + 1
  | _ => 0
def itemsDepth : List Doc → Nat
  | [] => 0
  | item :: rest => max item.depth (itemsDepth rest)
def entriesDepth : List (String × Doc) → Nat
  | [] => 0
  | (_, doc) :: rest => max doc.depth (entriesDepth rest)
end

mutual
/-- A document without numbers that are written with a point, and with whole numbers of a word only. -/
def Exact : Doc → Prop
  | .integer i => Number.leastInteger ≤ i ∧ i ≤ largestWord
  | .real _ => False
  | .list items => ItemsExact items
  | .object entries => EntriesExact entries
  | _ => True
def ItemsExact : List Doc → Prop
  | [] => True
  | item :: rest => item.Exact ∧ ItemsExact rest
def EntriesExact : List (String × Doc) → Prop
  | [] => True
  | (_, doc) :: rest => doc.Exact ∧ EntriesExact rest
end

/-- A document begins with a character of its own. -/
theorem render_starts {doc : Doc} (h : doc.Exact) :
    ∃ c tail, doc.render = c :: tail ∧ isSpace c = false ∧ c ≠ ']' := by
  cases doc with
  | null => exact ⟨_, _, rfl, by decide, by decide⟩
  | bool b => cases b <;> exact ⟨_, _, rfl, by decide, by decide⟩
  | integer i =>
    obtain ⟨c, tail, heq, hc⟩ := integerText_starts i
    refine ⟨c, tail, heq, ?_, ?_⟩
    · cases hs : isSpace c with
      | false => rfl
      | true =>
        simp only [isSpace, Bool.or_eq_true, decide_eq_true_eq] at hs
        rcases hs with ((rfl | rfl) | rfl) | rfl <;> rcases hc with hc | hc <;> cases hc
    · rintro rfl
      rcases hc with hc | hc <;> cases hc
  | real x => exact h.elim
  | text s => exact ⟨_, _, rfl, by decide, by decide⟩
  | list items => exact ⟨_, _, rfl, by decide, by decide⟩
  | object entries => exact ⟨_, _, rfl, by decide, by decide⟩

end Doc

theorem readValue_of_digit {depth : Nat} (h : isDigit c = true ∨ c = '-') :
    readValue (limit + 1) depth (c :: rest) = readNumber (c :: rest) := by
  unfold readValue
  split
  all_goals first
    | rfl
    | rcases h with h | h <;> cases h

theorem skipSpace_cons (h : isSpace c = false) : skipSpace (c :: rest) = c :: rest := by
  rw [skipSpace, List.dropWhile_cons_of_neg (by simp [h])]

theorem skipSpace_render {doc : Doc} (h : doc.Exact) (rest : List Char) :
    skipSpace (doc.render ++ rest) = doc.render ++ rest := by
  obtain ⟨c, tail, heq, hc, -⟩ := Doc.render_starts h
  rw [heq, List.cons_append, skipSpace_cons hc]

theorem readValue_list {depth : Nat} (hs : skipSpace rest = rest) (h : ∀ tail, rest ≠ ']' :: tail) :
    readValue (limit + 1) (depth + 1) ('[' :: rest) =
      (readItems limit depth rest).map fun read => (.list read.1, read.2) := by
  unfold readValue
  simp only [hs]
  cases readItems limit depth rest <;> rfl

theorem readValue_object {depth : Nat} (hs : skipSpace rest = rest) (h : ∀ tail, rest ≠ '}' :: tail) :
    readValue (limit + 1) (depth + 1) ('{' :: rest) =
      (readEntries limit depth rest).map fun read => (.object read.1, read.2) := by
  unfold readValue
  simp only [hs]
  cases readEntries limit depth rest <;> rfl

theorem renderItems_cons (item : Doc) {items : List Doc} (h : items ≠ []) :
    Doc.renderItems (item :: items) = item.render ++ ',' :: Doc.renderItems items := by
  rw [Doc.renderItems]
  exact h

theorem renderEntries_cons (name : String) (doc : Doc) {entries : List (String × Doc)} (h : entries ≠ []) :
    Doc.renderEntries ((name, doc) :: entries) =
      quote name ++ ':' :: doc.render ++ ',' :: Doc.renderEntries entries := by
  rw [Doc.renderEntries]
  exact h

theorem renderItems_starts {items : List Doc} (hne : items ≠ []) (h : Doc.ItemsExact items) :
    ∃ c tail, Doc.renderItems items = c :: tail ∧ isSpace c = false ∧ c ≠ ']' := by
  cases items with
  | nil => exact absurd rfl hne
  | cons item items =>
    obtain ⟨c, tail, heq, hc⟩ := Doc.render_starts h.1
    cases items with
    | nil => exact ⟨c, tail, heq, hc⟩
    | cons next items =>
      rw [renderItems_cons item (List.cons_ne_nil _ _), heq]
      exact ⟨c, _, rfl, hc⟩

theorem renderEntries_starts {entries : List (String × Doc)} (hne : entries ≠ []) :
    ∃ tail, Doc.renderEntries entries = '"' :: tail := by
  cases entries with
  | nil => exact absurd rfl hne
  | cons entry entries =>
    cases entries with
    | nil => exact ⟨_, rfl⟩
    | cons next entries =>
      rw [renderEntries_cons entry.1 entry.2 (List.cons_ne_nil _ _)]
      exact ⟨_, rfl⟩

theorem skipSpace_renderItems {items : List Doc} (hne : items ≠ []) (h : Doc.ItemsExact items)
    (rest : List Char) : skipSpace (Doc.renderItems items ++ rest) = Doc.renderItems items ++ rest := by
  obtain ⟨c, tail, heq, hc, -⟩ := renderItems_starts hne h
  rw [heq, List.cons_append, skipSpace_cons hc]

theorem skipSpace_renderEntries {entries : List (String × Doc)} (hne : entries ≠ []) (rest : List Char) :
    skipSpace (Doc.renderEntries entries ++ rest) = Doc.renderEntries entries ++ rest := by
  obtain ⟨tail, heq⟩ := renderEntries_starts hne
  rw [heq, List.cons_append, skipSpace_cons (by decide)]

mutual
/-- A document is read up to where it ends. The limit counts calls, of which no character takes more than
two. -/
theorem readValue_render (doc : Doc) {limit depth : Nat} {rest : List Char} (he : doc.Exact)
    (hl : 2 * doc.render.length ≤ limit) (hd : doc.depth ≤ depth) (hr : Follows rest) :
    readValue limit depth (doc.render ++ rest) = some (doc, rest) := by
  obtain ⟨c, tail, heq, -⟩ := Doc.render_starts he
  obtain ⟨limit, rfl⟩ : ∃ n, limit = n + 1 := by
    refine Nat.exists_eq_succ_of_ne_zero ?_
    rw [heq, List.length_cons] at hl
    omega
  cases doc with
  | null => rfl
  | bool b => cases b <;> rfl
  | integer i =>
    have hnumber := readNumber_integerText he.1 he.2 hr
    obtain ⟨c, tail, hstart, hdigit⟩ := integerText_starts i
    rw [Doc.render]
    rw [hstart, List.cons_append] at hnumber ⊢
    rw [readValue_of_digit hdigit, hnumber]
  | real x => exact he.elim
  | text s =>
    obtain ⟨tail, hquote, hread⟩ := readText_quote s rest
    rw [Doc.render, hquote]
    unfold readValue
    simp [hread]
  | list items =>
    simp only [Doc.depth] at hd
    obtain ⟨depth, rfl⟩ : ∃ n, depth = n + 1 := Nat.exists_eq_succ_of_ne_zero (Nat.ne_zero_of_lt hd)
    by_cases hne : items = []
    · subst hne
      rfl
    · simp only [Doc.render, List.length_cons, List.length_append, List.length_nil] at hl
      have hread := readItems_render items hne he (show _ ≤ limit by omega) (Nat.le_of_succ_le_succ hd) rest
      obtain ⟨c, tail, hstart, -, hend⟩ := renderItems_starts hne he
      rw [Doc.render, List.cons_append, List.cons_append, List.append_assoc, List.singleton_append,
        readValue_list (skipSpace_renderItems hne he _) (by simp [hstart, hend]), hread]
      rfl
  | object entries =>
    simp only [Doc.depth] at hd
    obtain ⟨depth, rfl⟩ : ∃ n, depth = n + 1 := Nat.exists_eq_succ_of_ne_zero (Nat.ne_zero_of_lt hd)
    by_cases hne : entries = []
    · subst hne
      rfl
    · simp only [Doc.render, List.length_cons, List.length_append, List.length_nil] at hl
      have hread := readEntries_render entries hne he (show _ ≤ limit by omega) (Nat.le_of_succ_le_succ hd) rest
      obtain ⟨tail, hstart⟩ := renderEntries_starts hne
      rw [Doc.render, List.cons_append, List.cons_append, List.append_assoc, List.singleton_append,
        readValue_object (skipSpace_renderEntries hne _) (by simp [hstart]), hread]
      rfl
theorem readItems_render (items : List Doc) {limit depth : Nat} (hne : items ≠ []) (he : Doc.ItemsExact items)
    (hl : 2 * (Doc.renderItems items).length + 1 ≤ limit) (hd : Doc.itemsDepth items ≤ depth)
    (rest : List Char) :
    readItems limit depth (Doc.renderItems items ++ ']' :: rest) = some (items, rest) := by
  obtain ⟨limit, rfl⟩ : ∃ n, limit = n + 1 := Nat.exists_eq_succ_of_ne_zero (Nat.ne_zero_of_lt hl)
  cases items with
  | nil => exact absurd rfl hne
  | cons item items =>
    simp only [Doc.itemsDepth, Nat.max_le] at hd
    by_cases hlast : items = []
    · subst hlast
      simp only [Doc.renderItems] at hl ⊢
      rw [readItems, readValue_render item he.1 (by omega) hd.1 (.bracket rest)]
      rfl
    · rw [renderItems_cons item hlast] at hl ⊢
      simp only [List.length_append, List.length_cons] at hl
      have hitem := readValue_render item he.1 (show _ ≤ limit by omega) hd.1
        (.comma (Doc.renderItems items ++ ']' :: rest))
      have hitems := readItems_render items hlast he.2 (show _ ≤ limit by omega) hd.2 rest
      rw [List.append_assoc, List.cons_append, readItems, hitem]
      simp only [Option.bind_eq_bind, Option.bind_some]
      rw [skipSpace_cons (by decide)]
      simp only [skipSpace_renderItems hlast he.2, hitems]
      rfl
theorem readEntries_render (entries : List (String × Doc)) {limit depth : Nat} (hne : entries ≠ [])
    (he : Doc.EntriesExact entries) (hl : 2 * (Doc.renderEntries entries).length + 1 ≤ limit)
    (hd : Doc.entriesDepth entries ≤ depth) (rest : List Char) :
    readEntries limit depth (Doc.renderEntries entries ++ '}' :: rest) = some (entries, rest) := by
  obtain ⟨limit, rfl⟩ : ∃ n, limit = n + 1 := Nat.exists_eq_succ_of_ne_zero (Nat.ne_zero_of_lt hl)
  cases entries with
  | nil => exact absurd rfl hne
  | cons entry entries =>
    obtain ⟨name, doc⟩ := entry
    simp only [Doc.entriesDepth, Nat.max_le] at hd
    by_cases hlast : entries = []
    · subst hlast
      simp only [Doc.renderEntries, List.length_append, List.length_cons] at hl ⊢
      have hdoc := readValue_render doc he.1 (show _ ≤ limit by omega) hd.1 (.brace rest)
      obtain ⟨tail, hquote, hname⟩ := readText_quote name (':' :: (doc.render ++ '}' :: rest))
      rw [List.append_assoc, List.cons_append, hquote, readEntries, hname]
      simp only [Option.bind_eq_bind, Option.bind_some]
      rw [skipSpace_cons (by decide)]
      simp only [skipSpace_render he.1, hdoc, Option.bind_some]
      rw [skipSpace_cons (by decide)]
      simp
    · rw [renderEntries_cons name doc hlast] at hl ⊢
      simp only [List.length_append, List.length_cons] at hl
      have hdoc := readValue_render doc he.1 (show _ ≤ limit by omega) hd.1
        (.comma (Doc.renderEntries entries ++ '}' :: rest))
      have hentries := readEntries_render entries hlast he.2 (show _ ≤ limit by omega) hd.2 rest
      obtain ⟨tail, hquote, hname⟩ :=
        readText_quote name (':' :: (doc.render ++ ',' :: (Doc.renderEntries entries ++ '}' :: rest)))
      have htext : quote name ++ ':' :: doc.render ++ ',' :: Doc.renderEntries entries ++ '}' :: rest =
          '"' :: tail := by simpa using hquote
      rw [htext, readEntries, hname]
      simp only [Option.bind_eq_bind, Option.bind_some]
      rw [skipSpace_cons (by decide)]
      simp only [skipSpace_render he.1, hdoc, Option.bind_some]
      rw [skipSpace_cons (by decide)]
      simp [skipSpace_renderEntries hlast, hentries]
end

/-- The compact form of a document is read as the document. -/
theorem parseWithin_compact {doc : Doc} {depth : Nat} (he : doc.Exact) (hd : doc.depth ≤ depth) :
    parseWithin depth doc.compact = some doc := by
  have hread := readValue_render doc he (show _ ≤ 2 * doc.render.length + 2 by omega) hd .nothing
  have hskip := skipSpace_render he []
  rw [List.append_nil] at hread hskip
  simp only [parseWithin, Doc.compact, String.toList_ofList, hskip, hread]
  rfl

end LogPipeline.Json
