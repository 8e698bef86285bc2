import LogPipeline.Proofs.Grok.Capturing
import LogPipeline.Proofs.Number.Decimal

/-!
# Captured numbers

What the built-in patterns for whole and decimal numbers match, and the values that typed captures make of it.
-/

namespace LogPipeline.Grok

open CharSet (contains_range contains_single)
open Json (IsDigits)
open Number
open Regex (Node program)
open Text (isDigit isDigit_iff natOf)

/-! ## Nodes -/

def signNode : Node := .repeated true 0 (some 1) (.chars ⟨[(43, 43), (45, 45)]⟩)

def digitsNode : Node := .repeated true 1 none (.chars (.range 48 57))

/-- A point and digits. -/
def placesNode : Node := .seq (.chars (.single '.')) digitsNode

def integerNode : Node := .seq signNode digitsNode

def decimalNode : Node :=
  .seq signNode (.alt (.seq digitsNode (.repeated true 0 (some 1) placesNode)) placesNode)

variable {cs : List Char} {c : Char}

theorem contains_signs : (CharSet.mk [(43, 43), (45, 45)]).contains c = true ↔ c = '+' ∨ c = '-' := by
  have hplus : c = '+' ↔ c.toNat = 43 := Char.toNat_inj.symm
  have hminus : c = '-' ↔ c.toNat = 45 := Char.toNat_inj.symm
  rw [hplus, hminus]
  simp only [CharSet.contains, CharSet.covers]
  grind

theorem spells_signNode_iff : signNode.Spells cs ↔ ∃ negative, IsSign negative cs := by
  rw [signNode, Node.spells_optional]
  constructor
  · rintro (rfl | ⟨c, rfl, hc⟩)
    · exact ⟨_, .none⟩
    · rcases contains_signs.mp hc with rfl | rfl
      · exact ⟨_, .plus⟩
      · exact ⟨_, .minus⟩
  · rintro ⟨negative, hs⟩
    cases hs with
    | none => exact .inl rfl
    | plus => exact .inr ⟨'+', rfl, rfl⟩
    | minus => exact .inr ⟨'-', rfl, rfl⟩

theorem spells_digitsNode_iff : digitsNode.Spells cs ↔ IsDigits cs := by
  simp only [digitsNode, Node.spells_repeated_chars, contains_range, ← isDigit_iff, IsDigits, reduceCtorEq,
    IsEmpty.forall_iff, implies_true, true_and, Nat.one_le_iff_ne_zero, ne_eq, List.length_eq_zero_iff]

theorem spells_placesNode_iff : placesNode.Spells cs ↔ ∃ places, IsDigits places ∧ cs = '.' :: places := by
  constructor
  · rintro ⟨_, places, ⟨c, rfl, hc⟩, hplaces, rfl⟩
    rw [contains_single.mp hc]
    exact ⟨places, spells_digitsNode_iff.mp hplaces, rfl⟩
  · rintro ⟨places, hplaces, rfl⟩
    exact ⟨['.'], places, ⟨'.', rfl, contains_single.mpr rfl⟩, spells_digitsNode_iff.mpr hplaces, rfl⟩

theorem spells_integerNode_iff : integerNode.Spells cs ↔ ∃ n, WritesInteger cs n := by
  constructor
  · rintro ⟨sign, digits, hsign, hdigits, rfl⟩
    obtain ⟨negative, hs⟩ := spells_signNode_iff.mp hsign
    exact ⟨_, .digits hs (spells_digitsNode_iff.mp hdigits)⟩
  · rintro ⟨_, hs, hd⟩
    exact ⟨_, _, spells_signNode_iff.mpr ⟨_, hs⟩, spells_digitsNode_iff.mpr hd, rfl⟩

/-! ## Decimal numbers -/

/-- A sign, digits and places, without a power of ten: the digits in front of the point or behind it may be missing,
but a point has places behind it. -/
inductive WritesPlain : List Char → Binary64 → Prop
  | whole {negative : Bool} {sign whole : List Char} (hs : IsSign negative sign) (hw : IsDigits whole) :
      WritesPlain (sign ++ whole) (.ofDecimal negative (natOf whole) 0)
  | point {negative : Bool} {sign whole places : List Char} (hs : IsSign negative sign)
      (hw : ∀ c ∈ whole, isDigit c = true) (hp : IsDigits places) :
      WritesPlain (sign ++ (whole ++ '.' :: places))
        (.ofDecimal negative (natOf (whole ++ places)) (-(places.length : Int)))

theorem WritesPlain.readDecimal? {x : Binary64} (h : WritesPlain cs x) : readDecimal? cs = some x := by
  cases h with
  | @whole negative sign whole hs hw =>
    have hunsigned : WritesUnsigned whole (natOf whole) 0 := by
      simpa using WritesUnsigned.parts hw.2 .none (.inl hw.1) .none
    exact readDecimal?_unsigned hs hunsigned
  | @point negative sign whole places hs hw hp =>
    have hunsigned : WritesUnsigned (whole ++ '.' :: places) (natOf (whole ++ places)) (-(places.length : Int)) := by
      simpa using WritesUnsigned.parts hw (.point hp.2) (.inr hp.1) .none
    exact readDecimal?_unsigned hs hunsigned

theorem spells_decimalNode_iff : decimalNode.Spells cs ↔ ∃ x, WritesPlain cs x := by
  constructor
  · rintro ⟨sign, _, hsign, ⟨whole, rest, hwhole, hrest, rfl⟩ | hplaces, rfl⟩
    · obtain ⟨negative, hs⟩ := spells_signNode_iff.mp hsign
      have hw := spells_digitsNode_iff.mp hwhole
      rcases Node.spells_optional.mp hrest with rfl | hrest
      · rw [List.append_nil]
        exact ⟨_, .whole hs hw⟩
      · obtain ⟨places, hp, rfl⟩ := spells_placesNode_iff.mp hrest
        exact ⟨_, .point hs hw.2 hp⟩
    · obtain ⟨negative, hs⟩ := spells_signNode_iff.mp hsign
      obtain ⟨places, hp, rfl⟩ := spells_placesNode_iff.mp hplaces
      have hpoint : WritesPlain (sign ++ ([] ++ '.' :: places)) _ := .point hs nofun hp
      exact ⟨_, hpoint⟩
  · rintro ⟨_, ⟨hs, hw⟩ | @⟨negative, sign, whole, places, hs, hw, hp⟩⟩
    · refine ⟨_, _, spells_signNode_iff.mpr ⟨_, hs⟩, .inl ⟨_, [], spells_digitsNode_iff.mpr hw, ?_, ?_⟩, rfl⟩
      · exact Node.spells_optional.mpr (.inl rfl)
      · exact (List.append_nil _).symm
    · have hplaces : placesNode.Spells ('.' :: places) := spells_placesNode_iff.mpr ⟨places, hp, rfl⟩
      refine ⟨_, _, spells_signNode_iff.mpr ⟨_, hs⟩, ?_, rfl⟩
      by_cases hempty : whole = []
      · subst hempty
        exact .inr hplaces
      · exact .inl ⟨whole, _, spells_digitsNode_iff.mpr ⟨hempty, hw⟩, Node.spells_optional.mpr (.inr hplaces), rfl⟩

/-! ## Captures -/

theorem convert_integer {text : String} {n : Int} (h : WritesInteger text.toList n) :
    CaptureType.int.convert text = if fitsInteger n then .integer n else .text text := by
  have hread : readInteger? text.toList = if fitsInteger n then some n else none := by
    rw [readInteger?, readWhole?_eq_some_iff.mpr h]
    rfl
  rw [CaptureType.convert, hread]
  split <;> rfl

theorem convert_decimal {text : String} {x : Binary64} (h : WritesPlain text.toList x) :
    CaptureType.float.convert text = .float x := by
  rw [CaptureType.convert, h.readDecimal?]
  rfl

theorem captures_integer (earlier : List String) : ∃ matcher,
    ((Compiler.compileAll { registry := .withBuiltins } earlier).compile "%{INT:n:int}").1 = .ok matcher ∧
    ∀ text fields, matcher.captures? text = some fields ↔
      ∃ n, WritesInteger text.toList n ∧ fields = [("n", if fitsInteger n then .integer n else .text text)] := by
  have hexpand : expand .withBuiltins "%{INT:n:int}" =
      .ok ⟨groupStart (some ⟨"n", .int⟩) 0 ++ "(?:[+-]?(?:[0-9]+)))".toList, [⟨"n", .int⟩]⟩ := by decide +kernel
  have hencloses : (program (capturing integerNode)).2.Encloses 1 6 7 :=
    ⟨rfl, rfl, rfl, by decide +kernel, rfl, by decide, rfl⟩
  obtain ⟨matcher, hmatcher, hcaptures⟩ :=
    compile_capturing earlier hexpand (show _ = true by decide +kernel) rfl hencloses (by decide)
  refine ⟨matcher, hmatcher, fun text fields => ?_⟩
  rw [hcaptures, spells_integerNode_iff]
  constructor
  · rintro ⟨⟨n, hn⟩, rfl⟩
    exact ⟨n, hn, by rw [convert_integer hn]⟩
  · rintro ⟨n, hn, rfl⟩
    exact ⟨⟨n, hn⟩, by rw [convert_integer hn]⟩

theorem captures_decimal (earlier : List String) : ∃ matcher,
    ((Compiler.compileAll { registry := .withBuiltins } earlier).compile "%{NUMBER:x:float}").1 = .ok matcher ∧
    ∀ text fields, matcher.captures? text = some fields ↔
      ∃ x, WritesPlain text.toList x ∧ fields = [("x", .float x)] := by
  have hexpand : expand .withBuiltins "%{NUMBER:x:float}" =
      .ok ⟨groupStart (some ⟨"x", .float⟩) 0 ++
        "(?:(?:(?:[+-]?(?:(?:[0-9]+(?:\\.[0-9]+)?)|(?:\\.[0-9]+))))))".toList, [⟨"x", .float⟩]⟩ := by decide +kernel
  have hencloses : (program (capturing decimalNode)).2.Encloses 1 14 15 :=
    ⟨rfl, rfl, rfl, by decide +kernel, rfl, by decide, rfl⟩
  obtain ⟨matcher, hmatcher, hcaptures⟩ :=
    compile_capturing earlier hexpand (show _ = true by decide +kernel) rfl hencloses (by decide)
  refine ⟨matcher, hmatcher, fun text fields => ?_⟩
  rw [hcaptures, spells_decimalNode_iff]
  constructor
  · rintro ⟨⟨x, hx⟩, rfl⟩
    exact ⟨x, hx, by rw [convert_decimal hx]⟩
  · rintro ⟨x, hx, rfl⟩
    exact ⟨⟨x, hx⟩, by rw [convert_decimal hx]⟩

/-- Over the built-in patterns, whatever was compiled before, `INT` captures the texts that are a sign, if any, and
digits: as the integer that they write if it is one of 64 bits, and as they are otherwise. `NUMBER` captures the texts
that are a sign, if any, and digits with a point in front of some of them, if any, always as a decimal number. -/
theorem typed_numbers (earlier : List String) :
    (∃ matcher,
      ((Compiler.compileAll { registry := .withBuiltins } earlier).compile "%{INT:n:int}").1 = .ok matcher ∧
      ∀ text fields, matcher.captures? text = some fields ↔
        ∃ n, WritesInteger text.toList n ∧ fields = [("n", if fitsInteger n then .integer n else .text text)]) ∧
    ∃ matcher,
      ((Compiler.compileAll { registry := .withBuiltins } earlier).compile "%{NUMBER:x:float}").1 = .ok matcher ∧
      ∀ text fields, matcher.captures? text = some fields ↔
        ∃ x, WritesPlain text.toList x ∧ fields = [("x", .float x)] :=
  ⟨captures_integer earlier, captures_decimal earlier⟩

end LogPipeline.Grok
