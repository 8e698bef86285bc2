import LogPipeline.Proofs.Number.Overflow
import LogPipeline.Proofs.Number.Reading
import LogPipeline.Proofs.Number.Whole

/-!
# The texts of decimal numbers

A decimal number is a sign, digits with a point among or around them and a power of ten, or a sign and one of the
words for infinity and for what is not a number. A text of the first form writes a number that has a nearest finite
one, unless it is out of range; the words have none.
-/

namespace LogPipeline.Number

open Text (isDigit natOf takeWhile_isDigit takeWhile_isDigit_self)

/-- A point and digits behind it, or nothing. -/
inductive IsFraction : List Char → List Char → Prop
  | none : IsFraction [] []
  | point {places : List Char} (hd : ∀ c ∈ places, isDigit c = true) : IsFraction ('.' :: places) places

/-- A letter and the exponent of a power of ten, or nothing. -/
inductive IsPower : List Char → Int → Prop
  | none : IsPower [] 0
  | letter {c : Char} {cs : List Char} {n : Int} (hc : c = 'e' ∨ c = 'E') (hn : WritesInteger cs n) :
      IsPower (c :: cs) n

/-- A number without a sign: the number that all its digits write, and the power of ten of the last of them. -/
inductive WritesUnsigned : List Char → Nat → Int → Prop
  | parts {whole fraction places power : List Char} {n : Int} (hw : ∀ c ∈ whole, isDigit c = true)
      (hf : IsFraction fraction places) (hne : whole ≠ [] ∨ places ≠ []) (hp : IsPower power n) :
      WritesUnsigned (whole ++ (fraction ++ power)) (natOf (whole ++ places)) (n - places.length)

variable {negative : Bool} {sign cs rest word places power : List Char} {digits : Nat} {n exponent : Int} {x : Binary64}
  {c : Char}

theorem IsPower.head_not_digit (h : IsPower power n) : power.head?.any isDigit = false := by
  cases h with
  | none => rfl
  | letter hc _ => rcases hc with rfl | rfl <;> rfl

/-- The exponent behind the digits of a number. -/
def readPower? : List Char → Option Int
  | [] => some 0
  | c :: rest => if c = 'e' ∨ c = 'E' then readExponent? rest else none

theorem readPower?_eq_some_iff : readPower? power = some n ↔ IsPower power n := by
  cases power with
  | nil =>
    constructor
    · intro h
      cases h
      exact .none
    · intro h
      cases h
      rfl
  | cons c rest =>
    rw [readPower?, Option.ite_none_right_eq_some, readExponent?, readWhole?_eq_some_iff]
    constructor
    · rintro ⟨hc, hn⟩
      exact .letter hc hn
    · intro h
      cases h with
      | letter hc hn => exact ⟨hc, hn⟩

/-- What is read of a text whose digits, fraction and rest are known. -/
theorem readUnsigned?_parts {whole fraction : List Char} (hw : ∀ c ∈ whole, isDigit c = true)
    (hf : IsFraction fraction places) (hp : power.head?.any isDigit = false)
    (hdot : fraction = [] → power.head? ≠ some '.') :
    readUnsigned? negative (whole ++ (fraction ++ power)) = (readPower? power).bind fun n =>
      if whole.isEmpty && places.isEmpty then none
      else some (.ofDecimal negative (natOf (whole ++ places)) (n - places.length)) := by
  cases hf with
  | none =>
    obtain ⟨htake, hdrop⟩ := takeWhile_isDigit hw hp
    rw [List.nil_append]
    unfold readUnsigned?
    simp only [htake, hdrop]
    cases power with
    | nil => rfl
    | cons c rest =>
      -- without a fraction the next character must not be taken for a point
      have hc : c ≠ '.' := fun h => hdot rfl (by rw [h]; rfl)
      by_cases hpower : c = 'e' ∨ c = 'E' <;> simp [readPower?, hc, hpower]
  | point hd =>
    obtain ⟨htake, hdrop⟩ := takeWhile_isDigit hw (show ('.' :: (places ++ power)).head?.any isDigit = false from rfl)
    obtain ⟨htail, hrest⟩ := takeWhile_isDigit hd hp
    rw [List.cons_append]
    unfold readUnsigned?
    simp only [htake, hdrop, htail, hrest]
    cases power with
    | nil => rfl
    | cons c rest =>
      simp only [readPower?]
      split <;> rfl

/-- Every text has its digits in front, a point and digits behind them, if there is a point, and a rest. -/
theorem exists_parts (cs : List Char) :
    ∃ whole fraction places power, cs = whole ++ (fraction ++ power) ∧ (∀ c ∈ whole, isDigit c = true) ∧
      IsFraction fraction places ∧ power.head?.any isDigit = false ∧ (fraction = [] → power.head? ≠ some '.') := by
  have hdigits (cs : List Char) : ∀ c ∈ cs.takeWhile isDigit, isDigit c = true :=
    List.all_eq_true.mp List.all_takeWhile
  have hend (cs : List Char) : (cs.dropWhile isDigit).head?.any isDigit = false := by
    have := List.head?_dropWhile_not isDigit cs
    cases h : (cs.dropWhile isDigit).head? with
    | none => rfl
    | some c => simpa [h] using this
  have hsplit (cs : List Char) : cs = cs.takeWhile isDigit ++ cs.dropWhile isDigit :=
    List.takeWhile_append_dropWhile.symm
  by_cases hdot : (cs.dropWhile isDigit).head? = some '.'
  · obtain ⟨rest, hrest⟩ := List.head?_eq_some_iff.mp hdot
    refine ⟨_, _, _, rest.dropWhile isDigit, ?_, hdigits cs, .point (hdigits rest), hend rest, nofun⟩
    rw [List.cons_append, ← hsplit rest, ← hrest]
    exact hsplit cs
  · exact ⟨_, [], [], _, hsplit cs, hdigits cs, .none, hend cs, fun _ => hdot⟩

theorem readUnsigned?_eq_some_iff :
    readUnsigned? negative cs = some x ↔
      ∃ digits exponent, WritesUnsigned cs digits exponent ∧ x = .ofDecimal negative digits exponent := by
  constructor
  · intro h
    obtain ⟨whole, fraction, places, power, rfl, hw, hf, hp, hdot⟩ := exists_parts cs
    rw [readUnsigned?_parts hw hf hp hdot, Option.bind_eq_some_iff] at h
    obtain ⟨n, hn, h⟩ := h
    rw [Option.ite_none_left_eq_some] at h
    obtain ⟨hne, hx⟩ := h
    refine ⟨_, _, .parts hw hf ?_ (readPower?_eq_some_iff.mp hn), (Option.some.inj hx).symm⟩
    simpa [Decidable.or_iff_not_imp_left] using hne
  · rintro ⟨digits, exponent, ⟨hw, hf, hne, hp⟩, rfl⟩
    rw [readUnsigned?_parts hw hf hp.head_not_digit fun _ => ?_, readPower?_eq_some_iff.mpr hp, Option.bind_some,
      if_neg (by simpa [Decidable.or_iff_not_imp_left] using hne)]
    cases hp with
    | none => nofun
    | letter hc _ => rcases hc with rfl | rfl <;> simp

/-! ## Texts without a finite number -/

/-- The words for infinity and for what is not a number, in small letters. -/
def words : List (List Char) := ["inf".toList, "infinity".toList, "nan".toList]

theorem mem_words {word : List Char} :
    word ∈ words ↔ (word = "inf".toList ∨ word = "infinity".toList) ∨ word = "nan".toList := by
  rw [words, List.mem_cons, List.mem_cons, List.mem_singleton, or_assoc]

/-- A text that is read as a number, but not as a finite one: one of the words, or digits that are out of range. -/
inductive IsNonfinite : List Char → Prop
  | word {negative : Bool} {sign word : List Char} (hs : IsSign negative sign) (hw : lowerAscii word ∈ words) :
      IsNonfinite (sign ++ word)
  | large {negative : Bool} {sign cs : List Char} {digits : Nat} {exponent : Int} (hs : IsSign negative sign)
      (hn : WritesUnsigned cs digits exponent) (ho : Binary64.overflow ≤ digits * 10 ^ exponent) :
      IsNonfinite (sign ++ cs)

theorem WritesUnsigned.head (h : WritesUnsigned cs digits exponent) :
    ∃ c rest, cs = c :: rest ∧ (isDigit c = true ∨ c = '.') := by
  obtain ⟨hw, hf, hne, -⟩ := h
  rename_i whole fraction places power n
  cases whole with
  | cons c whole => exact ⟨c, _, rfl, .inl (hw c List.mem_cons_self)⟩
  | nil =>
    cases hf with
    | none => simp at hne
    | point _ => exact ⟨'.', _, rfl, .inr rfl⟩

theorem takeSign_word (hs : IsSign negative sign) (hw : lowerAscii word ∈ words) :
    takeSign (sign ++ word) = (negative, word) := by
  refine takeSign_append hs fun c hc => ?_
  obtain ⟨rest, rfl⟩ := List.head?_eq_some_iff.mp hc
  constructor
  · rintro rfl
    simp [words, lowerAscii] at hw
  · rintro rfl
    simp [words, lowerAscii] at hw

theorem takeSign_unsigned (hs : IsSign negative sign) (h : WritesUnsigned cs digits exponent) :
    takeSign (sign ++ cs) = (negative, cs) := by
  obtain ⟨c, rest, rfl, hc⟩ := h.head
  refine takeSign_append hs fun c' hc' => ?_
  obtain rfl : c = c' := by simpa using hc'
  rcases hc with hc | rfl
  · exact ne_sign_of_isDigit hc
  · decide

theorem head_of_word (h : lowerAscii (c :: rest) ∈ words) : c.toLower = 'i' ∨ c.toLower = 'n' := by
  rcases mem_words.mp h with (h | h) | h
  · exact .inl (List.head_eq_of_cons_eq h)
  · exact .inl (List.head_eq_of_cons_eq h)
  · exact .inr (List.head_eq_of_cons_eq h)

theorem WritesUnsigned.not_word (h : WritesUnsigned cs digits exponent) : lowerAscii cs ∉ words := by
  obtain ⟨c, rest, rfl, hc⟩ := h.head
  intro hword
  rcases hc with hc | rfl
  · rw [← toLower_of_isDigit hc] at hc
    rcases head_of_word hword with hletter | hletter
    · rw [hletter] at hc
      cases hc
    · rw [hletter] at hc
      cases hc
  · exact absurd (head_of_word hword) (by decide)

/-- What is read of a text whose sign is known. -/
theorem readDecimal?_eq (h : takeSign cs = (negative, rest)) :
    readDecimal? cs =
      if lowerAscii rest = "inf".toList ∨ lowerAscii rest = "infinity".toList then some (.infinite negative)
      else if lowerAscii rest = "nan".toList then some .nan
      else readUnsigned? negative rest := by
  simp only [readDecimal?, h]

theorem readDecimal?_unsigned (hs : IsSign negative sign) (h : WritesUnsigned cs digits exponent) :
    readDecimal? (sign ++ cs) = some (.ofDecimal negative digits exponent) := by
  obtain ⟨hinfinite, hnan⟩ := not_or.mp (mt mem_words.mpr h.not_word)
  rw [readDecimal?_eq (takeSign_unsigned hs h), if_neg hinfinite, if_neg hnan]
  exact readUnsigned?_eq_some_iff.mpr ⟨_, _, h, rfl⟩

/-- The texts of numbers: a word or digits, with a sign or without. -/
inductive WritesDecimal : List Char → Binary64 → Prop
  | infinity {negative : Bool} {sign word : List Char} (hs : IsSign negative sign)
      (hw : lowerAscii word = "inf".toList ∨ lowerAscii word = "infinity".toList) :
      WritesDecimal (sign ++ word) (.infinite negative)
  | nan {negative : Bool} {sign word : List Char} (hs : IsSign negative sign)
      (hw : lowerAscii word = "nan".toList) : WritesDecimal (sign ++ word) .nan
  | digits {negative : Bool} {sign cs : List Char} {digits : Nat} {exponent : Int} (hs : IsSign negative sign)
      (hn : WritesUnsigned cs digits exponent) :
      WritesDecimal (sign ++ cs) (.ofDecimal negative digits exponent)

theorem readDecimal?_eq_some_iff : readDecimal? cs = some x ↔ WritesDecimal cs x := by
  constructor
  · intro hx
    obtain ⟨negative, rest, hsign⟩ : ∃ negative rest, takeSign cs = (negative, rest) := ⟨_, _, rfl⟩
    obtain ⟨sign, hs, rfl⟩ := of_takeSign hsign
    rw [readDecimal?_eq hsign] at hx
    split at hx
    · cases hx
      exact .infinity hs ‹_›
    · split at hx
      · cases hx
        exact .nan hs ‹_›
      · obtain ⟨digits, exponent, hn, rfl⟩ := readUnsigned?_eq_some_iff.mp hx
        exact .digits hs hn
  · rintro (⟨hs, hw⟩ | ⟨hs, hw⟩ | ⟨hs, hn⟩)
    · rw [readDecimal?_eq (takeSign_word hs (mem_words.mpr (.inl hw))), if_pos hw]
    · rw [readDecimal?_eq (takeSign_word hs (mem_words.mpr (.inr hw))), if_neg, if_pos hw]
      rw [hw]
      decide
    · exact readDecimal?_unsigned hs hn

/-- The texts that are read as a number but not as a finite one. -/
theorem isNonfinite_iff : IsNonfinite cs ↔ ∃ x, readDecimal? cs = some x ∧ x.isFinite = false := by
  simp only [readDecimal?_eq_some_iff]
  constructor
  · rintro (⟨hs, hw⟩ | ⟨hs, hn, ho⟩)
    · rcases mem_words.mp hw with hw | hw
      · exact ⟨_, .infinity hs hw, rfl⟩
      · exact ⟨_, .nan hs hw, rfl⟩
    · refine ⟨_, .digits hs hn, ?_⟩
      rw [← Bool.not_eq_true, Binary64.ofDecimal_isFinite_iff]
      exact not_lt.mpr ho
  · rintro ⟨x, ⟨hs, hw⟩ | ⟨hs, hw⟩ | ⟨hs, hn⟩, hfinite⟩
    · exact .word hs (mem_words.mpr (.inl hw))
    · exact .word hs (mem_words.mpr (.inr hw))
    · -- what is no word is not finite because its digits are out of range
      refine .large hs hn (not_lt.mp fun hless => ?_)
      rw [(Binary64.ofDecimal_isFinite_iff _ _ _).mpr hless] at hfinite
      cases hfinite

/-! ### Their characters -/

/-- The characters of numbers that are no digits, in small letters. -/
def marks : List Char := "+-.einftya".toList

/-- What a number is written with. -/
def IsMark (c : Char) : Prop := isDigit c = true ∨ c.toLower ∈ marks

instance : DecidablePred IsMark := fun c => inferInstanceAs (Decidable (isDigit c = true ∨ c.toLower ∈ marks))

theorem IsSign.isMark (h : IsSign negative sign) (hc : c ∈ sign) : IsMark c := by
  cases h with
  | none => cases hc
  | plus => exact .inr (List.mem_singleton.mp hc ▸ by decide)
  | minus => exact .inr (List.mem_singleton.mp hc ▸ by decide)

theorem WritesInteger.isMark (h : WritesInteger cs n) (hc : c ∈ cs) : IsMark c := by
  obtain ⟨hs, hd⟩ := h
  rcases List.mem_append.mp hc with hc | hc
  · exact hs.isMark hc
  · exact .inl (hd.2 c hc)

theorem IsPower.isMark (h : IsPower power n) (hc : c ∈ power) : IsMark c := by
  cases h with
  | none => cases hc
  | letter hletter hn =>
    rcases List.mem_cons.mp hc with rfl | hc
    · rcases hletter with rfl | rfl <;> exact .inr (by decide)
    · exact hn.isMark hc

theorem WritesUnsigned.isMark (h : WritesUnsigned cs digits exponent) (hc : c ∈ cs) : IsMark c := by
  obtain ⟨hw, hf, -, hp⟩ := h
  rcases List.mem_append.mp hc with hc | hc
  · exact .inl (hw c hc)
  rcases List.mem_append.mp hc with hc | hc
  · cases hf with
    | none => cases hc
    | point hd =>
      rcases List.mem_cons.mp hc with rfl | hc
      · exact .inr (by decide)
      · exact .inl (hd c hc)
  · exact hp.isMark hc

theorem isMark_of_word (h : lowerAscii word ∈ words) (hc : c ∈ word) : IsMark c := by
  have hletter : c.toLower ∈ lowerAscii word := List.mem_map_of_mem hc
  have hall : ∀ word ∈ words, word ⊆ marks := by decide
  exact .inr (hall _ h hletter)

theorem IsNonfinite.isMark (h : IsNonfinite cs) (hc : c ∈ cs) : IsMark c := by
  rcases h with ⟨hs, hw⟩ | ⟨hs, hn, -⟩
  · exact (List.mem_append.mp hc).elim hs.isMark (isMark_of_word hw)
  · exact (List.mem_append.mp hc).elim hs.isMark hn.isMark

end LogPipeline.Number
