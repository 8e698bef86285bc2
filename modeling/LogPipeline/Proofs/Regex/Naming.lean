import LogPipeline.Proofs.Regex.Language
import LogPipeline.Proofs.Result
import LogPipeline.Regex.Parser

/-!
# Names of groups

The names that are made of small letters, digits and `_` are read as names of groups. The tables of letters and
numerals are far too long to be searched in a proof; of both only the first ranges matter here.
-/

namespace LogPipeline.Text

variable {c : Char}

theorem exists_letters : ∃ rest, letters.ranges = (65, 90) :: (97, 122) :: rest := by
  -- only the front of the table is decoded, up to the end of the small letters
  have htext : ∃ more, Unicode.alphabeticData.toList = 'i' :: 'B' :: 'Z' :: 'G' :: 'Z' :: more := by
    unfold Unicode.alphabeticData
    rw [String.toList_join, List.flatMap_cons]
    exact ⟨_, rfl⟩
  obtain ⟨more, hmore⟩ := htext
  refine ⟨Packed.rangesFrom 123 (Packed.numbersFrom 0 more), ?_⟩
  rw [letters, CharSet.ofPacked, Packed.ranges, Packed.numbers, hmore]
  rfl

theorem exists_numerals : ∃ rest, numerals.ranges = (48, 57) :: rest := by
  have htext : ∃ more, Unicode.numericData.toList = 'h' :: 'Q' :: 'J' :: more := by
    unfold Unicode.numericData
    rw [String.toList_join, List.flatMap_cons]
    exact ⟨_, rfl⟩
  obtain ⟨more, hmore⟩ := htext
  refine ⟨Packed.rangesFrom 58 (Packed.numbersFrom 0 more), ?_⟩
  rw [numerals, CharSet.ofPacked, Packed.ranges, Packed.numbers, hmore]
  rfl

theorem letters_contains (h : 97 ≤ c.toNat ∧ c.toNat ≤ 122) : letters.contains c = true := by
  obtain ⟨rest, hranges⟩ := exists_letters
  have hlow : ¬ c.toNat < 65 ∧ ¬ c.toNat ≤ 90 ∧ ¬ c.toNat < 97 := by omega
  simp [CharSet.contains, hranges, CharSet.covers, hlow, h.2]

theorem numerals_contains (h : isDigit c = true) : numerals.contains c = true := by
  obtain ⟨rest, hranges⟩ := exists_numerals
  obtain ⟨hlow, hhigh⟩ := isDigit_iff.mp h
  simp [CharSet.contains, hranges, CharSet.covers, Nat.not_lt.mpr hlow, hhigh]

end LogPipeline.Text

namespace LogPipeline.Regex.Reader

open Text (isDigit)

variable {reader : Reader} {cs rest more : List Char} {c first : Char} {name : String}

theorem isNamePart_of_letter (h : 97 ≤ c.toNat ∧ c.toNat ≤ 122) : isNamePart c = true := by
  simp [isNamePart, Text.letters_contains h]

theorem isNamePart_of_digit (h : isDigit c = true) : isNamePart c = true := by
  simp [isNamePart, Text.numerals_contains h]

theorem groupName_eq (hfirst : isNameStart first = true) (hmore : ∀ c ∈ more, isNamePart c = true)
    (hstop : '>' ∉ first :: more) (rest : List Char) :
    groupName (first :: more ++ '>' :: rest) = .ok (String.ofList (first :: more), rest) := by
  have hname : ∀ c ∈ first :: more, (c != '>') = true := fun c hc => by
    rw [bne_iff_ne]
    rintro rfl
    exact hstop hc
  have htake : (first :: more ++ '>' :: rest).takeWhile (· != '>') = first :: more := by
    rw [List.takeWhile_append_of_pos hname]
    simp
  have hdrop : (first :: more ++ '>' :: rest).dropWhile (· != '>') = '>' :: rest := by
    rw [List.dropWhile_append_of_pos hname]
    simp
  simp only [groupName, htake, hdrop, hfirst, List.all_eq_true.mpr hmore, Bool.and_self, if_true]

/-- The reader behind the name of a group. -/
def opened (reader : Reader) (name : String) : Reader :=
  { reader.openGroup (some (reader.groupCount + 1)) reader.flags with
    groupCount := reader.groupCount + 1
    names := (reader.groupCount + 1, name) :: reader.names }

/-- A group with a name opens, unless the name was used before. -/
theorem run_named (hspaced : reader.flags.spaced = false) (hname : groupName cs = .ok (name, rest))
    (hnew : reader.names.any (·.2 == name) = false) (limit : Nat) :
    run (limit + 1) reader ('(' :: '?' :: 'P' :: '<' :: cs) = run limit (reader.opened name) rest := by
  have hskip (cs : List Char) : reader.flags.skip cs = cs := by rw [Flags.skip, hspaced]; rfl
  have hopen : reader.openNamed cs = .ok (reader.opened name, rest) := by
    simp only [openNamed, hname, bind, Except.bind, hnew, Bool.false_eq_true, if_false]
    rfl
  have hstep : reader.step '(' ('?' :: 'P' :: '<' :: cs) = .ok (reader.opened name, rest) := by
    show reader.readGroup ('?' :: 'P' :: '<' :: cs) = _
    rw [readGroup, hskip]
    exact hopen
  rw [run, hskip]
  simp only [hstep]
  rfl

end LogPipeline.Regex.Reader
