import LogPipeline.Text.Utf8

/-!
# Decoding piece by piece

A byte that is a character by itself is one wherever it stands, whatever is broken around it: what comes before it is
decoded as if nothing followed, and what comes behind it as if nothing came before. All other bytes make characters of
two bytes or more, or replacements. Characters that were encoded are decoded to what they were.
-/

namespace LogPipeline.Text

variable {first byte low high : UInt8} {size : Nat} {rest before after bytes : List UInt8} {c : Char}

/-! ## One character -/

/-- Which first bytes call for more, and for what. -/
theorem sequenceShape?_eq_some (h : sequenceShape? first = some (size, low, high)) :
    (0xC2 ≤ first.toNat ∧ first.toNat ≤ 0xF4) ∧
      (first.toNat ≤ 0xDF → size = 2) ∧ (0xE0 ≤ first.toNat ∧ first.toNat ≤ 0xEF → size = 3) ∧
      (0xF0 ≤ first.toNat → size = 4) ∧
      (low.toNat = 0x80 ∧ first.toNat ≠ 0xE0 ∧ first.toNat ≠ 0xF0 ∨ first.toNat = 0xE0 ∧ low.toNat = 0xA0 ∨
        first.toNat = 0xF0 ∧ low.toNat = 0x90) ∧
      (high.toNat = 0xBF ∧ first.toNat ≠ 0xED ∧ first.toNat ≠ 0xF4 ∨ first.toNat = 0xED ∧ high.toNat = 0x9F ∨
        first.toNat = 0xF4 ∧ high.toNat = 0x8F) := by
  unfold sequenceShape? at h
  simp only [UInt8.le_iff_toNat_le, ← UInt8.toNat_inj, UInt8.reduceToNat] at h
  -- one goal for each class of first bytes, and one for those that start nothing
  repeat' split at h
  all_goals cases h
  all_goals simp; omega

theorem exists_sequenceShape? (first : UInt8) (h : 0xC2 ≤ first.toNat ∧ first.toNat ≤ 0xF4) :
    ∃ size low high, sequenceShape? first = some (size, low, high) := by
  unfold sequenceShape?
  simp only [UInt8.le_iff_toNat_le, ← UInt8.toNat_inj, UInt8.reduceToNat]
  repeat' split
  all_goals first
    | exact ⟨_, _, _, rfl⟩
    | omega

theorem isContinuation_iff : isContinuation byte = true ↔ 0x80 ≤ byte.toNat ∧ byte.toNat ≤ 0xBF := by
  simp [isContinuation, UInt8.le_iff_toNat_le]

/-- An ASCII byte ends what comes before it, whether that is complete or not. -/
theorem decodeOne_append (hb : byte < 0x80) (first : UInt8) (rest after : List UInt8) :
    decodeOne first (rest ++ byte :: after) =
      ((decodeOne first rest).1, (decodeOne first rest).2 ++ byte :: after) := by
  have hcont : isContinuation byte = false := by
    rw [← Bool.not_eq_true, isContinuation_iff]
    have := UInt8.lt_iff_toNat_lt.mp hb
    simp only [UInt8.reduceToNat] at this
    omega
  unfold decodeOne
  split
  · rfl
  cases hshape : sequenceShape? first with
  | none => rfl
  | some shape =>
    obtain ⟨size, low, high⟩ := shape
    have hlow : byte < low := by
      have := sequenceShape?_eq_some hshape
      have := UInt8.lt_iff_toNat_lt.mp hb
      simp only [UInt8.reduceToNat] at this
      exact UInt8.lt_iff_toNat_lt.mpr (by omega)
    -- what comes before may end after each of its bytes
    cases rest with
    | nil => simp [hlow]
    | cons second rest =>
      simp only [List.cons_append]
      split
      · rfl
      split
      · rfl
      cases rest with
      | nil => simp [hcont]
      | cons third rest =>
        simp only [List.cons_append]
        split
        · rfl
        split
        · rfl
        cases rest with
        | nil => simp [hcont]
        | cons fourth rest =>
          simp only [List.cons_append]
          split <;> rfl

theorem decodeOne_ascii (hf : first < 0x80) (rest : List UInt8) :
    decodeOne first rest = (some (Char.ofNat first.toNat), rest) := by
  rw [decodeOne, if_pos hf]

theorem toNat_ofNat_of_valid {n : Nat} (h : n.isValidChar) : (Char.ofNat n).toNat = n := by
  unfold Char.ofNat
  rw [dif_pos h]
  rfl

/-- A byte that is no ASCII makes a character that is none, or a replacement, with some of the bytes behind it. -/
theorem decodeOne_of_not_ascii (hf : ¬ first < 0x80) (rest : List UInt8) :
    0x80 ≤ ((decodeOne first rest).1.getD replacement).toNat ∧ (decodeOne first rest).2 <:+ rest := by
  have hreplacement : 0x80 ≤ replacement.toNat := by decide
  have hcharacter {n : Nat} (h : 0x80 ≤ n ∧ n.isValidChar) : 0x80 ≤ (Char.ofNat n).toNat := by
    rw [toNat_ofNat_of_valid h.2]
    exact h.1
  unfold decodeOne
  rw [if_neg hf]
  cases hshape : sequenceShape? first with
  | none => exact ⟨hreplacement, List.suffix_refl _⟩
  | some shape =>
    obtain ⟨size, low, high⟩ := shape
    have hbounds := sequenceShape?_eq_some hshape
    -- a sequence that breaks off is a replacement; that a whole one is no ASCII, and no surrogate, is what the bounds
    -- of its second byte are for
    cases rest with
    | nil => exact ⟨hreplacement, List.suffix_refl _⟩
    | cons second rest =>
      dsimp only
      split
      · exact ⟨hreplacement, List.suffix_refl _⟩
      rename_i hsecond
      simp only [UInt8.lt_iff_toNat_lt, not_or, Nat.not_lt] at hsecond
      split
      · rename_i htwo
        refine ⟨hcharacter ?_, List.suffix_cons _ _⟩
        simp only [leadBits, tailBits, htwo, ↓reduceIte, Nat.isValidChar]
        omega
      rename_i htwo
      cases rest with
      | nil => exact ⟨hreplacement, List.suffix_cons _ _⟩
      | cons third rest =>
        dsimp only
        split
        · exact ⟨hreplacement, List.suffix_cons _ _⟩
        rename_i hthird
        rw [Bool.not_eq_true', Bool.not_eq_false, isContinuation_iff] at hthird
        have hsuffix : rest <:+ second :: third :: rest := (List.suffix_cons _ _).trans (List.suffix_cons _ _)
        split
        · rename_i hthree
          refine ⟨hcharacter ?_, hsuffix⟩
          simp only [leadBits, tailBits, hthree, Nat.reduceEqDiff, ↓reduceIte, Nat.isValidChar]
          omega
        rename_i hthree
        cases rest with
        | nil => exact ⟨hreplacement, hsuffix⟩
        | cons fourth rest =>
          dsimp only
          split
          · exact ⟨hreplacement, hsuffix⟩
          rename_i hfourth
          rw [Bool.not_eq_true', Bool.not_eq_false, isContinuation_iff] at hfourth
          refine ⟨hcharacter ?_, (List.suffix_cons _ _).trans hsuffix⟩
          simp only [leadBits, tailBits, htwo, hthree, ↓reduceIte, Nat.isValidChar]
          omega

/-! ## Texts -/

@[simp] theorem decodeLossy_nil : decodeLossy [] = [] := by rw [decodeLossy]

theorem decodeLossy_cons (first : UInt8) (rest : List UInt8) :
    decodeLossy (first :: rest) =
      (decodeOne first rest).1.getD replacement :: decodeLossy (decodeOne first rest).2 := by
  rw [decodeLossy]

/-- An ASCII byte is the same character whatever is around it. -/
theorem decodeLossy_append_cons (hb : byte < 0x80) (before after : List UInt8) :
    decodeLossy (before ++ byte :: after) =
      decodeLossy before ++ Char.ofNat byte.toNat :: decodeLossy after := by
  -- one character after the other: what follows does not change how many bytes one takes
  induction before using decodeLossy.induct with
  | case1 => rw [List.nil_append, decodeLossy_cons, decodeOne_ascii hb, decodeLossy_nil]; rfl
  | case2 first rest step ih =>
    rw [List.cons_append, decodeLossy_cons, decodeOne_append hb, ih, decodeLossy_cons, List.cons_append]

theorem decodeOne_suffix (first : UInt8) (rest : List UInt8) : (decodeOne first rest).2 <:+ rest := by
  by_cases hf : first < 0x80
  · exact (decodeOne_ascii hf rest).symm ▸ List.suffix_refl rest
  · exact (decodeOne_of_not_ascii hf rest).2

theorem decodeLossy_eq_nil_iff : decodeLossy bytes = [] ↔ bytes = [] := by
  cases bytes with
  | nil => simp
  | cons first rest => simp [decodeLossy_cons]

theorem toNat_decodeOne_ascii (hf : first < 0x80) (rest : List UInt8) :
    ((decodeOne first rest).1.getD replacement).toNat = first.toNat := by
  have hvalid : first.toNat.isValidChar := .inl (Nat.lt_trans first.toNat_lt (by decide))
  rw [decodeOne_ascii hf, Option.getD_some, toNat_ofNat_of_valid hvalid]

/-- Characters of one byte come from such bytes. -/
theorem mem_of_mem_decodeLossy (hc : c.toNat < 0x80) (h : c ∈ decodeLossy bytes) :
    ∃ byte ∈ bytes, byte.toNat = c.toNat := by
  induction bytes using decodeLossy.induct with
  | case1 => simp at h
  | case2 first rest step ih =>
    rw [decodeLossy_cons, List.mem_cons] at h
    rcases h with rfl | h
    · by_cases hf : first < 0x80
      · exact ⟨first, List.mem_cons_self, (toNat_decodeOne_ascii hf rest).symm⟩
      · have := (decodeOne_of_not_ascii hf rest).1
        omega
    · obtain ⟨byte, hm, hbyte⟩ := ih h
      exact ⟨byte, List.mem_cons_of_mem _ ((decodeOne_suffix first rest).subset hm), hbyte⟩

/-- A last character of one byte comes from the last byte. -/
theorem getLast?_of_decodeLossy (hc : c.toNat < 0x80) (h : (decodeLossy bytes).getLast? = some c) :
    ∃ byte, bytes.getLast? = some byte ∧ byte.toNat = c.toNat := by
  induction bytes using decodeLossy.induct with
  | case1 => simp at h
  | case2 first rest step ih =>
    rw [decodeLossy_cons, List.getLast?_cons] at h
    obtain ⟨taken, hrest⟩ := decodeOne_suffix first rest
    cases hleft : step.2 with
    | nil =>
      rw [show (decodeOne first rest).2 = [] from hleft, decodeLossy_nil] at h
      obtain rfl : (decodeOne first rest).1.getD replacement = c := Option.some.inj h
      by_cases hf : first < 0x80
      · have hnil : rest = [] := by rwa [show step = _ from decodeOne_ascii hf rest] at hleft
        exact ⟨first, by rw [hnil]; rfl, (toNat_decodeOne_ascii hf rest).symm⟩
      · have := (decodeOne_of_not_ascii hf rest).1
        omega
    | cons next left =>
      -- the last byte is among those that are left
      obtain ⟨d, hd⟩ : ∃ d, (decodeLossy step.2).getLast? = some d := by
        rw [hleft, decodeLossy_cons, List.getLast?_cons]
        exact ⟨_, rfl⟩
      obtain rfl : d = c := by
        rw [show decodeLossy (decodeOne first rest).2 = decodeLossy step.2 from rfl, hd] at h
        exact Option.some.inj h
      obtain ⟨byte, hbyte, hchar⟩ := ih hd
      refine ⟨byte, ?_, hchar⟩
      rw [← hrest, ← List.cons_append, List.getLast?_append]
      exact congrArg (Option.or · _) hbyte

/-! ## Characters that were encoded -/

variable {second third fourth : UInt8}

theorem not_ascii_of_le (h : 0xC2 ≤ first.toNat) : ¬ first < 0x80 := by
  simp only [UInt8.lt_iff_toNat_lt, UInt8.reduceToNat]
  omega

theorem decodeOne_of_two (hf : 0xC2 ≤ first.toNat ∧ first.toNat ≤ 0xDF)
    (hs : 0x80 ≤ second.toNat ∧ second.toNat ≤ 0xBF) (rest : List UInt8) :
    decodeOne first (second :: rest) = (some (Char.ofNat (first.toNat % 32 * 64 + second.toNat % 64)), rest) := by
  obtain ⟨size, low, high, hshape⟩ := exists_sequenceShape? first ⟨hf.1, by omega⟩
  obtain ⟨-, hsize, -, -, hlow, hhigh⟩ := sequenceShape?_eq_some hshape
  have hsecond : ¬ (second < low ∨ high < second) := by
    simp only [UInt8.lt_iff_toNat_lt]
    omega
  simp only [decodeOne, not_ascii_of_le hf.1, hshape, hsecond, hsize hf.2, ↓reduceIte, leadBits, tailBits]

theorem decodeOne_of_three (hf : 0xE0 ≤ first.toNat ∧ first.toNat ≤ 0xEF)
    (hs : 0x80 ≤ second.toNat ∧ second.toNat ≤ 0xBF) (hleast : first.toNat = 0xE0 → 0xA0 ≤ second.toNat)
    (hgap : first.toNat = 0xED → second.toNat ≤ 0x9F) (ht : 0x80 ≤ third.toNat ∧ third.toNat ≤ 0xBF)
    (rest : List UInt8) :
    decodeOne first (second :: third :: rest) =
      (some (Char.ofNat ((first.toNat % 16 * 64 + second.toNat % 64) * 64 + third.toNat % 64)), rest) := by
  obtain ⟨size, low, high, hshape⟩ := exists_sequenceShape? first ⟨by omega, by omega⟩
  obtain ⟨-, -, hsize, -, hlow, hhigh⟩ := sequenceShape?_eq_some hshape
  have hsecond : ¬ (second < low ∨ high < second) := by
    simp only [UInt8.lt_iff_toNat_lt]
    omega
  simp only [decodeOne, not_ascii_of_le (show 0xC2 ≤ first.toNat by omega), hshape, hsecond, hsize hf,
    isContinuation_iff.mpr ht, Nat.reduceEqDiff, Bool.not_true, Bool.false_eq_true, ↓reduceIte, leadBits, tailBits]

theorem decodeOne_of_four (hf : 0xF0 ≤ first.toNat ∧ first.toNat ≤ 0xF4)
    (hs : 0x80 ≤ second.toNat ∧ second.toNat ≤ 0xBF) (hleast : first.toNat = 0xF0 → 0x90 ≤ second.toNat)
    (hgreatest : first.toNat = 0xF4 → second.toNat ≤ 0x8F) (ht : 0x80 ≤ third.toNat ∧ third.toNat ≤ 0xBF)
    (hl : 0x80 ≤ fourth.toNat ∧ fourth.toNat ≤ 0xBF) (rest : List UInt8) :
    decodeOne first (second :: third :: fourth :: rest) =
      (some (Char.ofNat (((first.toNat % 8 * 64 + second.toNat % 64) * 64 + third.toNat % 64) * 64 +
        fourth.toNat % 64)), rest) := by
  obtain ⟨size, low, high, hshape⟩ := exists_sequenceShape? first ⟨by omega, by omega⟩
  obtain ⟨-, -, -, hsize, hlow, hhigh⟩ := sequenceShape?_eq_some hshape
  have hsecond : ¬ (second < low ∨ high < second) := by
    simp only [UInt8.lt_iff_toNat_lt]
    omega
  simp only [decodeOne, not_ascii_of_le (show 0xC2 ≤ first.toNat by omega), hshape, hsecond, hsize hf.1,
    isContinuation_iff.mpr ht, isContinuation_iff.mpr hl, Nat.reduceEqDiff, Bool.not_true, Bool.false_eq_true,
    ↓reduceIte, leadBits, tailBits]

/-- The bytes of a character are decoded to it, whatever follows. -/
theorem decodeOne_utf8EncodeChar (c : Char) (rest : List UInt8) :
    ∃ first tail, String.utf8EncodeChar c = first :: tail ∧ decodeOne first (tail ++ rest) = (some c, rest) := by
  have hvalid : c.toNat.isValidChar := c.valid
  unfold Nat.isValidChar at hvalid
  have hbyte (n : Nat) (h : n < 256) : (UInt8.ofNat n).toNat = n := by
    rw [UInt8.toNat_ofNat', Nat.mod_eq_of_lt h]
  have hcharacter {n : Nat} (h : n = c.toNat) : (some (Char.ofNat n), rest) = (some c, rest) := by
    rw [h, Char.ofNat_toNat]
  simp only [String.utf8EncodeChar, show c.val.toNat = c.toNat from rfl]
  -- one case for each number of bytes
  split
  · rename_i h
    have hfirst := hbyte c.toNat (by omega)
    refine ⟨_, _, rfl, ?_⟩
    rw [decodeOne_ascii (UInt8.lt_iff_toNat_lt.mpr (Nat.lt_of_le_of_lt (hfirst ▸ h) (by decide)))]
    exact hcharacter hfirst
  split
  · rename_i h
    have hfirst := hbyte (c.toNat / 64 % 32 + 192) (by omega)
    have hsecond := hbyte (c.toNat % 64 + 128) (by omega)
    refine ⟨_, _, rfl, ?_⟩
    rw [List.cons_append, List.nil_append, decodeOne_of_two (by omega) (by omega)]
    exact hcharacter (by omega)
  split
  · rename_i h
    have hfirst := hbyte (c.toNat / 4096 % 16 + 224) (by omega)
    have hsecond := hbyte (c.toNat / 64 % 64 + 128) (by omega)
    have hthird := hbyte (c.toNat % 64 + 128) (by omega)
    refine ⟨_, _, rfl, ?_⟩
    rw [List.cons_append, List.cons_append, List.nil_append,
      decodeOne_of_three (by omega) (by omega) (by omega) (by omega) (by omega)]
    exact hcharacter (by omega)
  · have hfirst := hbyte (c.toNat / 262144 % 8 + 240) (by omega)
    have hsecond := hbyte (c.toNat / 4096 % 64 + 128) (by omega)
    have hthird := hbyte (c.toNat / 64 % 64 + 128) (by omega)
    have hfourth := hbyte (c.toNat % 64 + 128) (by omega)
    refine ⟨_, _, rfl, ?_⟩
    rw [List.cons_append, List.cons_append, List.cons_append, List.nil_append,
      decodeOne_of_four (by omega) (by omega) (by omega) (by omega) (by omega) (by omega)]
    exact hcharacter (by omega)

theorem decodeLossy_flatMap_utf8EncodeChar (cs : List Char) :
    decodeLossy (cs.flatMap String.utf8EncodeChar) = cs := by
  induction cs with
  | nil => exact decodeLossy_nil
  | cons c rest ih =>
    obtain ⟨first, tail, hbytes, hone⟩ := decodeOne_utf8EncodeChar c (rest.flatMap String.utf8EncodeChar)
    rw [List.flatMap_cons, hbytes, List.cons_append, decodeLossy_cons, hone, ih, Option.getD_some]

theorem data_toUTF8 (s : String) : s.toUTF8.data.toList = s.toList.flatMap String.utf8EncodeChar := by
  have hbytes : s.toUTF8 = (s.toList.flatMap String.utf8EncodeChar).toByteArray := by
    rw [String.toUTF8_eq_toByteArray, ← String.ofList_toList (s := s), String.toByteArray_ofList, String.toList_ofList]
    rfl
  rw [hbytes, List.data_toByteArray]

theorem decodeLossy_toUTF8 (s : String) : decodeLossy s.toUTF8.data.toList = s.toList := by
  rw [data_toUTF8, decodeLossy_flatMap_utf8EncodeChar]

end LogPipeline.Text
