import LogPipeline.Text.Case

/-!
# Cases of texts

The upper- and lowercase forms of characters have no characters with another such form in them. So a text that was
put in upper- or lowercase stays as it is when it is put in that case again.
-/

namespace LogPipeline.Text

variable {c d : Char} {n : Nat} {table : List (Nat × List Char)} {ok : Char → Bool} {extra : List Char}

/-! ## Tables -/

/-- Pieces of a text with their characters. A piece is spelled out by `String.toList_ofList`, without decoding. -/
inductive Spelled : List String → List Char → Prop where
  | nil : Spelled [] []
  | cons {piece cs pieces rest} : piece.toList = cs → Spelled pieces rest → Spelled (piece :: pieces) (cs ++ rest)

theorem Spelled.toList_join {pieces : List String} {cs : List Char} (h : Spelled pieces cs) :
    (String.join pieces).toList = cs := by
  rw [String.toList_join]
  induction h with
  | nil => rfl
  | cons hpiece _ ih => rw [List.flatMap_cons, hpiece, ih]

/-- Numbers as the bits of one number, after those that are there. -/
def bitsFrom (bits : Nat) : List Nat → Nat
  | [] => bits
  | n :: rest => bitsFrom (bits ||| 1 <<< n) rest

theorem testBit_bitsFrom (bits : Nat) (ns : List Nat) (n : Nat) :
    (bitsFrom bits ns).testBit n = (bits.testBit n || decide (n ∈ ns)) := by
  induction ns generalizing bits with
  | nil => simp [bitsFrom]
  | cons m rest ih =>
    simp only [bitsFrom, ih, Nat.testBit_or, Nat.one_shiftLeft, Nat.testBit_two_pow, List.mem_cons,
      Bool.decide_or, Bool.or_assoc, eq_comm]

/-- Whether every character of the forms of a table, and every one of `extra`, has no form itself and is `ok`. -/
def formsLast (ok : Char → Bool) (extra : List Char) (table : List (Nat × List Char)) : Bool :=
  let named := bitsFrom 0 (table.map Prod.fst)
  (extra ++ table.flatMap Prod.snd).all fun c => !named.testBit c.toNat && ok c

theorem formsLast_iff : formsLast ok extra table = true ↔
    ∀ c ∈ extra ++ table.flatMap Prod.snd, c.toNat ∉ table.map Prod.fst ∧ ok c = true := by
  simp only [formsLast, testBit_bitsFrom, List.all_eq_true, Bool.and_eq_true, Nat.zero_testBit, Bool.false_or,
    Bool.not_eq_true', decide_eq_false_iff_not]

/-- The last forms of a table that is written in pieces. -/
def FormsLast (ok : Char → Bool) (extra : List Char) (text : String) : Prop :=
  formsLast ok extra (forms text) = true

theorem formsLast_join {pieces : List String} {cs : List Char} (h : Spelled pieces cs)
    (hlast : let numbers := Packed.numbersFrom 0 cs
      formsLast ok extra (formsFrom 0 numbers.length numbers) = true) :
    FormsLast ok extra (String.join pieces) := by
  rwa [FormsLast, forms, Packed.numbers, h.toList_join]

def smallSigmas : List Char := ['\u03C2', '\u03C3']

theorem formsLast_uppercase : FormsLast (fun c => c.toUpper == c) [] Unicode.uppercaseData := by
  unfold Unicode.uppercaseData
  dsimp only
  apply formsLast_join
  · repeat' first | exact String.toList_ofList | apply Spelled.cons | exact Spelled.nil
  · decide +kernel

theorem formsLast_lowercase :
    FormsLast (fun c => c.toLower == c && c != capitalSigma) smallSigmas Unicode.lowercaseData := by
  unfold Unicode.lowercaseData
  dsimp only
  apply formsLast_join
  · repeat' first | exact String.toList_ofList | apply Spelled.cons | exact Spelled.nil
  · decide +kernel

/-! ## Characters -/

theorem form?_eq_none (h : n ∉ table.map Prod.fst) : form? n table = none := by
  induction table with
  | nil => rfl
  | cons entry rest ih =>
    obtain ⟨m, form⟩ := entry
    obtain ⟨hne, hrest⟩ : n ≠ m ∧ n ∉ rest.map Prod.fst := by simpa using h
    rw [form?, if_neg (Ne.symm hne), ih hrest, ite_self]

theorem mem_of_form? {form : List Char} (h : form? n table = some form) : (n, form) ∈ table := by
  induction table with
  | nil => cases h
  | cons entry rest ih =>
    obtain ⟨m, first⟩ := entry
    rw [form?] at h
    split at h
    · rename_i heq
      cases h
      rw [heq]
      exact List.mem_cons_self
    · split at h
      · cases h
      · exact List.mem_cons_of_mem _ (ih h)

/-- The form of a character: that of `ascii` for the first 128, and that of a table for the others. -/
def charForm (ascii : Char → Char) (table : List (Nat × List Char)) (c : Char) : List Char :=
  if c.toNat < 128 then [ascii c] else (form? c.toNat table).getD [c]

variable {ascii : Char → Char}

theorem charForm_last (hlast : formsLast ok extra table = true) (hok : ∀ c, ok c = true → ascii c = c)
    (hc : c ∈ extra ++ table.flatMap Prod.snd) : charForm ascii table c = [c] := by
  obtain ⟨hnone, hc⟩ := formsLast_iff.mp hlast c hc
  rw [charForm, hok c hc, form?_eq_none hnone, Option.getD_none, ite_self]

/-- The form of a character has the last forms only: it is one of the first 128, or in the table, or the character
itself, which has no other. -/
theorem mem_charForm (h : d ∈ charForm ascii table c) :
    (c.toNat < 128 ∧ d = ascii c) ∨ d ∈ table.flatMap Prod.snd ∨ (d = c ∧ charForm ascii table c = [c]) := by
  unfold charForm at h ⊢
  split at h
  · rename_i hsmall
    exact .inl ⟨hsmall, List.mem_singleton.mp h⟩
  · rename_i hlarge
    rw [if_neg hlarge]
    cases hform : form? c.toNat table with
    | some form =>
      rw [hform, Option.getD_some] at h
      exact .inr (.inl (List.mem_flatMap.mpr ⟨_, mem_of_form? hform, h⟩))
    | none =>
      rw [hform, Option.getD_none, List.mem_singleton] at h
      exact .inr (.inr ⟨h, Option.getD_none⟩)

theorem charForm_of_mem (hlast : formsLast ok extra table = true) (hok : ∀ c, ok c = true → ascii c = c)
    (hsmall : ∀ c : Char, c.toNat < 128 → (ascii c).toNat < 128 ∧ ascii (ascii c) = ascii c)
    (h : d ∈ charForm ascii table c) : charForm ascii table d = [d] := by
  rcases mem_charForm h with ⟨hc, rfl⟩ | hd | ⟨rfl, hself⟩
  · obtain ⟨hd, htwice⟩ := hsmall c hc
    rw [charForm, if_pos hd, htwice]
  · exact charForm_last hlast hok (List.mem_append_right _ hd)
  · exact hself

/-! ## Uppercase -/

theorem toUpper_small {c : Char} (h : c.toNat < 128) : c.toUpper.toNat < 128 ∧ c.toUpper.toUpper = c.toUpper := by
  have hall : ∀ n < 128, (Char.ofNat n).toUpper.toNat < 128 ∧
      (Char.ofNat n).toUpper.toUpper = (Char.ofNat n).toUpper := by decide
  simpa only [Char.ofNat_toNat] using hall c.toNat h

theorem upperChar_of_mem (h : d ∈ upperChar c) : upperChar d = [d] :=
  charForm_of_mem formsLast_uppercase (fun _ => eq_of_beq) (fun _ => toUpper_small) h

theorem flatMap_eq_self {f : Char → List Char} {cs : List Char} (h : ∀ c ∈ cs, f c = [c]) : cs.flatMap f = cs := by
  induction cs with
  | nil => rfl
  | cons c rest ih =>
    obtain ⟨hc, hrest⟩ := List.forall_mem_cons.mp h
    rw [List.flatMap_cons, hc, ih hrest, List.singleton_append]

/-- A text in uppercase stays as it is. -/
theorem toUpper_toUpper (cs : List Char) : toUpper (toUpper cs) = toUpper cs := by
  refine flatMap_eq_self fun d hd => ?_
  obtain ⟨c, -, hd⟩ := List.mem_flatMap.mp hd
  exact upperChar_of_mem hd

/-! ## Lowercase -/

theorem toLower_small {c : Char} (h : c.toNat < 128) : c.toLower.toNat < 128 ∧ c.toLower.toLower = c.toLower := by
  have hall : ∀ n < 128, (Char.ofNat n).toLower.toNat < 128 ∧
      (Char.ofNat n).toLower.toLower = (Char.ofNat n).toLower := by decide
  simpa only [Char.ofNat_toNat] using hall c.toNat h

/-- Characters that stay as they are in lowercase, wherever they stand. -/
def IsLower (c : Char) : Prop := c ≠ capitalSigma ∧ lowerChar c = [c]

theorem toLower_of_ok (c : Char) (h : (c.toLower == c && c != capitalSigma) = true) : c.toLower = c :=
  eq_of_beq (Bool.and_eq_true_iff.mp h).1

theorem isLower_smallSigma (h : c ∈ smallSigmas) : IsLower c := by
  have hcapital : capitalSigma ∉ smallSigmas := by decide
  refine ⟨?_, charForm_last formsLast_lowercase toLower_of_ok (List.mem_append_left _ h)⟩
  rintro rfl
  exact hcapital h

theorem isLower_of_mem (hc : c ≠ capitalSigma) (h : d ∈ lowerChar c) : IsLower d := by
  refine ⟨?_, charForm_of_mem formsLast_lowercase toLower_of_ok (fun _ => toLower_small) h⟩
  rcases mem_charForm h with ⟨hsmall, rfl⟩ | hd | ⟨rfl, -⟩
  · intro heq
    have hsigma := (toLower_small hsmall).1
    rw [heq] at hsigma
    exact absurd hsigma (by decide)
  · obtain ⟨-, hok⟩ := formsLast_iff.mp formsLast_lowercase d (List.mem_append_right _ hd)
    simp only [Bool.and_eq_true, bne_iff_ne] at hok
    exact hok.2
  · exact hc

theorem isLower_of_mem_lowerAfter {before cs : List Char} (h : d ∈ lowerAfter before cs) : IsLower d := by
  induction cs generalizing before with
  | nil => cases h
  | cons c rest ih =>
    rw [lowerAfter] at h
    split at h
    · rcases List.mem_cons.mp h with rfl | hrest
      · refine isLower_smallSigma ?_
        split <;> decide
      · exact ih hrest
    · rename_i hc
      rcases List.mem_append.mp h with hform | hrest
      · exact isLower_of_mem hc hform
      · exact ih hrest

theorem lowerAfter_eq_self {cs : List Char} (h : ∀ c ∈ cs, IsLower c) (before : List Char) :
    lowerAfter before cs = cs := by
  induction cs generalizing before with
  | nil => rfl
  | cons c rest ih =>
    obtain ⟨⟨hne, hc⟩, hrest⟩ := List.forall_mem_cons.mp h
    rw [lowerAfter, if_neg hne, hc, ih hrest, List.singleton_append]

/-- A text in lowercase stays as it is: it has no capital sigma, so no sigma comes to the end of a word. -/
theorem toLower_toLower (cs : List Char) : toLower (toLower cs) = toLower cs :=
  lowerAfter_eq_self (fun _ => isLower_of_mem_lowerAfter) []

end LogPipeline.Text
