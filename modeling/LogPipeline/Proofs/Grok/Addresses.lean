import LogPipeline.Proofs.Grok.Languages
import LogPipeline.Proofs.Number.Digits

/-!
# Addresses

What the built-in pattern for addresses of four bytes matches.
-/

namespace LogPipeline.Grok

open CharSet (contains_range contains_single)
open Regex (Node parse)
open Text (isDigit isDigit_iff natOf natFrom_cons natFrom_nil digitValue)

/-- One to three digits that write a number below 256. -/
structure IsOctet (cs : List Char) : Prop where
  some : 1 ≤ cs.length
  few : cs.length ≤ 3
  digits : ∀ c ∈ cs, isDigit c = true
  value : natOf cs ≤ 255

/-- A number from 250 on, from 200 on, or below that. -/
def octetNode : Node :=
  .alt (.seq (.chars (.single '2')) (.seq (.chars (.single '5')) (.chars (.range 48 53))))
    (.alt (.seq (.chars (.single '2')) (.seq (.chars (.range 48 52)) (.chars (.range 48 57))))
      (.seq (.repeated true 0 (some 1) (.chars (.range 48 49)))
        (.repeated true 1 (some 2) (.chars (.range 48 57)))))

/-- Three octets with a point behind each of them, and another one. -/
def addressNode : Node :=
  .seq (.repeated true 3 (some 3) (.seq octetNode (.chars (.single '.')))) octetNode

variable {a b c : Char} {cs : List Char}

/-! ## Octets -/

theorem isOctet_of_short (hs : 1 ≤ cs.length) (hf : cs.length ≤ 2) (hd : ∀ c ∈ cs, isDigit c = true) :
    IsOctet cs := by
  refine ⟨hs, Nat.le_succ_of_le hf, hd, ?_⟩
  match cs, hs, hf, hd with
  | [a], _, _, hd =>
    have := isDigit_iff.mp (hd a (by simp))
    rw [natOf, natFrom_cons, natFrom_nil, digitValue]
    omega
  | [a, b], _, _, hd =>
    have := isDigit_iff.mp (hd a (by simp))
    have := isDigit_iff.mp (hd b (by simp))
    rw [natOf, natFrom_cons, natFrom_cons, natFrom_nil, digitValue, digitValue]
    omega

theorem isOctet_three : IsOctet [a, b, c] ↔ (isDigit a = true ∧ isDigit b = true ∧ isDigit c = true) ∧
    (digitValue a * 10 + digitValue b) * 10 + digitValue c ≤ 255 := by
  have hvalue : natOf [a, b, c] = (digitValue a * 10 + digitValue b) * 10 + digitValue c := by
    rw [natOf, natFrom_cons, natFrom_cons, natFrom_cons, natFrom_nil, Nat.zero_mul, Nat.zero_add]
  rw [← hvalue]
  constructor
  · intro h
    exact ⟨by simpa using h.digits, h.value⟩
  · rintro ⟨hd, hv⟩
    exact ⟨by simp, by simp, by simpa using hd, hv⟩

/-- Three digits write an octet from 250 on, one from 200 on or one below that. -/
theorem isOctet_three_iff : IsOctet [a, b, c] ↔
    (a = '2' ∧ b = '5' ∧ 48 ≤ c.toNat ∧ c.toNat ≤ 53) ∨
      (a = '2' ∧ (48 ≤ b.toNat ∧ b.toNat ≤ 52) ∧ 48 ≤ c.toNat ∧ c.toNat ≤ 57) ∨
      ((48 ≤ a.toNat ∧ a.toNat ≤ 49) ∧ (48 ≤ b.toNat ∧ b.toNat ≤ 57) ∧ 48 ≤ c.toNat ∧ c.toNat ≤ 57) := by
  have hchar (c d : Char) : c = d ↔ c.toNat = d.toNat := Char.toNat_inj.symm
  have htwo : '2'.toNat = 50 := rfl
  have hfive : '5'.toNat = 53 := rfl
  rw [isOctet_three]
  simp only [isDigit_iff, digitValue, hchar, htwo, hfive]
  omega

theorem isOctet_of_low {front back : List Char}
    (hf : (Node.repeated true 0 (some 1) (.chars (.range 48 49))).Spells front)
    (hb : (Node.repeated true 1 (some 2) (.chars (.range 48 57))).Spells back) : IsOctet (front ++ back) := by
  obtain ⟨-, hfew, hfront⟩ := Node.spells_repeated_chars.mp hf
  obtain ⟨hsome, hmost, hback⟩ := Node.spells_repeated_chars.mp hb
  have hdigits : ∀ c ∈ front ++ back, isDigit c = true := by
    intro c hc
    rw [isDigit_iff]
    rcases List.mem_append.mp hc with hc | hc
    · have := contains_range.mp (hfront c hc)
      omega
    · exact contains_range.mp (hback c hc)
  match front, back, hfew 1 rfl, hmost 2 rfl with
  | [], back, _, hmost => exact isOctet_of_short hsome hmost hdigits
  | [a], [b], _, _ => exact isOctet_of_short (by simp) (by simp) hdigits
  | [a], [b, c], _, _ =>
    simp only [List.forall_mem_cons] at hfront hback
    exact isOctet_three_iff.mpr (.inr (.inr ⟨contains_range.mp hfront.1, contains_range.mp hback.1,
      contains_range.mp hback.2.1⟩))

theorem spells_octetNode_of_low (front back : List Char) (hfew : front.length ≤ 1)
    (hfront : ∀ c ∈ front, 48 ≤ c.toNat ∧ c.toNat ≤ 49) (hsome : 1 ≤ back.length) (hmost : back.length ≤ 2)
    (hback : ∀ c ∈ back, 48 ≤ c.toNat ∧ c.toNat ≤ 57) : octetNode.Spells (front ++ back) := by
  refine .inr (.inr ⟨front, back, Node.spells_repeated_chars.mpr ⟨Nat.zero_le _, ?_, ?_⟩,
    Node.spells_repeated_chars.mpr ⟨hsome, ?_, ?_⟩, rfl⟩)
  · rintro _ ⟨⟩
    exact hfew
  · exact fun c hc => contains_range.mpr (hfront c hc)
  · rintro _ ⟨⟩
    exact hmost
  · exact fun c hc => contains_range.mpr (hback c hc)

theorem spells_octetNode_iff : octetNode.Spells cs ↔ IsOctet cs := by
  constructor
  · rintro (⟨_, _, ⟨a, rfl, ha⟩, ⟨_, _, ⟨b, rfl, hb⟩, ⟨c, rfl, hc⟩, rfl⟩, rfl⟩ |
      ⟨_, _, ⟨a, rfl, ha⟩, ⟨_, _, ⟨b, rfl, hb⟩, ⟨c, rfl, hc⟩, rfl⟩, rfl⟩ | ⟨front, back, hfront, hback, rfl⟩)
    · exact isOctet_three_iff.mpr (.inl ⟨contains_single.mp ha, contains_single.mp hb, contains_range.mp hc⟩)
    · exact isOctet_three_iff.mpr
        (.inr (.inl ⟨contains_single.mp ha, contains_range.mp hb, contains_range.mp hc⟩))
    · exact isOctet_of_low hfront hback
  · -- fewer than three digits are always below 200
    intro h
    have hdigits : ∀ c ∈ cs, 48 ≤ c.toNat ∧ c.toNat ≤ 57 := fun c hc => isDigit_iff.mp (h.digits c hc)
    match cs, h.some, h.few with
    | [a], _, _ => exact spells_octetNode_of_low [] [a] (by simp) nofun (by simp) (by simp) hdigits
    | [a, b], _, _ => exact spells_octetNode_of_low [] [a, b] (by simp) nofun (by simp) (by simp) hdigits
    | [a, b, c], _, _ =>
      rcases isOctet_three_iff.mp h with ⟨rfl, rfl, hc⟩ | ⟨rfl, hb, hc⟩ | ⟨ha, hb, hc⟩
      · exact .inl ⟨['2'], ['5', c], ⟨_, rfl, rfl⟩,
          ⟨['5'], [c], ⟨_, rfl, rfl⟩, ⟨c, rfl, contains_range.mpr hc⟩, rfl⟩, rfl⟩
      · exact .inr (.inl ⟨['2'], [b, c], ⟨_, rfl, rfl⟩,
          ⟨[b], [c], ⟨b, rfl, contains_range.mpr hb⟩, ⟨c, rfl, contains_range.mpr hc⟩, rfl⟩, rfl⟩)
      · exact spells_octetNode_of_low [a] [b, c] (by simp) (by simpa using ha) (by simp) (by simp)
          (by simpa using ⟨hb, hc⟩)

/-! ## Addresses -/

/-- Four octets with points between them. -/
def IsAddress (cs : List Char) : Prop :=
  ∃ first second third fourth, IsOctet first ∧ IsOctet second ∧ IsOctet third ∧ IsOctet fourth ∧
    cs = first ++ '.' :: (second ++ '.' :: (third ++ '.' :: fourth))

theorem spells_addressNode_iff : addressNode.Spells cs ↔ IsAddress cs := by
  have hpart (part : List Char) : (Node.seq octetNode (.chars (.single '.'))).Spells part ↔
      ∃ octet, IsOctet octet ∧ part = octet ++ ['.'] := by
    constructor
    · rintro ⟨octet, _, ho, ⟨c, rfl, hc⟩, rfl⟩
      rw [contains_single.mp hc]
      exact ⟨octet, spells_octetNode_iff.mp ho, rfl⟩
    · rintro ⟨octet, ho, rfl⟩
      exact ⟨octet, ['.'], spells_octetNode_iff.mpr ho, ⟨'.', rfl, contains_single.mpr rfl⟩, rfl⟩
  constructor
  · rintro ⟨front, last, hfront, hlast, rfl⟩
    obtain ⟨parts, hlength, hparts, rfl⟩ := Node.spells_times.mp hfront
    match parts, hlength with
    | [a, b, c], _ =>
      simp only [List.forall_mem_cons, hpart] at hparts
      obtain ⟨⟨first, h₁, rfl⟩, ⟨second, h₂, rfl⟩, ⟨third, h₃, rfl⟩, -⟩ := hparts
      exact ⟨first, second, third, last, h₁, h₂, h₃, spells_octetNode_iff.mp hlast, by simp⟩
  · rintro ⟨first, second, third, last, h₁, h₂, h₃, hlast, rfl⟩
    refine ⟨[first ++ ['.'], second ++ ['.'], third ++ ['.']].flatten, last,
      Node.spells_times.mpr ⟨_, rfl, ?_, rfl⟩, spells_octetNode_iff.mpr hlast, by simp⟩
    simp only [List.forall_mem_cons, hpart]
    exact ⟨⟨first, h₁, rfl⟩, ⟨second, h₂, rfl⟩, ⟨third, h₃, rfl⟩, nofun⟩

/-- Over the built-in patterns, whatever was compiled before, `IPV4` has a matcher, and it matches the texts that are
four octets with points between them. -/
theorem ipv4_matches_addresses (earlier : List String) :
    ∃ matcher, ((Compiler.compileAll { registry := .withBuiltins } earlier).compile "%{IPV4}").1 = .ok matcher ∧
      ∀ text, matcher.isMatch text = true ↔ IsAddress text.toList := by
  obtain ⟨expansion, hexpand, hread⟩ := exists_ok (x := expand .withBuiltins "%{IPV4}")
    (p := fun expansion => (parse (Matcher.anchored expansion.text)).toOption.any fun pattern =>
      pattern.node == Matcher.betweenEnds addressNode && pattern.node.fits) (by decide +kernel)
  obtain ⟨pattern, hparse, hpattern⟩ := exists_ok hread
  obtain ⟨hnode, hfits⟩ := (Bool.and_eq_true _ _).mp hpattern
  refine ⟨_, compile_eq_ok earlier hexpand hparse hfits, fun text => ?_⟩
  rw [isMatch_iff_spells (congrArg (fun node => (Regex.program node).1) (eq_of_beq hnode))
    (congrArg (fun node => (Regex.program node).2) (eq_of_beq hnode)) (by decide), spells_addressNode_iff]

end LogPipeline.Grok
