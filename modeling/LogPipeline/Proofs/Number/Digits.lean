import LogPipeline.Text.Blank

/-!
# Decimal digits

The digits of a number, and the number that digits write.
-/

namespace LogPipeline.Text

-- Powers are those of core, whatever other instances there are.
attribute [local instance (2000)] instPowNat

variable {n : Nat} {c : Char}

theorem isDigit_of_mem_toDigits (h : c ∈ Nat.toDigits 10 n) : isDigit c = true := by
  have hd := Nat.isDigit_of_mem_toDigits (by decide) (by decide) h
  simpa [isDigit, Char.isDigit, UInt32.le_iff_toNat_le] using hd

theorem isBlank_of_isDigit (h : isDigit c = true) : isBlank c = false := by
  simp only [isDigit, Bool.and_eq_true, decide_eq_true_eq] at h
  simp only [isBlank, Bool.or_eq_false_iff, Bool.and_eq_false_iff, decide_eq_false_iff_not, beq_eq_false_iff_ne]
  omega

/-- Without blanks there is nothing to trim. -/
theorem trim_eq_self {cs : List Char} (h : ∀ c ∈ cs, isBlank c = false) : trim cs = cs := by
  have hleft {cs : List Char} (h : ∀ c ∈ cs, isBlank c = false) : cs.dropWhile isBlank = cs := by
    cases cs with
    | nil => rfl
    | cons c cs => rw [List.dropWhile_cons_of_neg (by simp [h c List.mem_cons_self])]
  rw [trim, trimRight, trimLeft, hleft h, hleft fun c hc => h c (List.mem_reverse.mp hc), List.reverse_reverse]

/-- Blanks are all that is trimmed. -/
theorem mem_trim {cs : List Char} (hc : c ∈ cs) (hb : isBlank c = false) : c ∈ trim cs := by
  have hleft {cs : List Char} (hc : c ∈ cs) : c ∈ cs.dropWhile isBlank := by
    rw [← @List.takeWhile_append_dropWhile _ isBlank cs, List.mem_append] at hc
    refine hc.resolve_left fun htake => ?_
    have hblank := List.all_eq_true.mp List.all_takeWhile c htake
    rw [hb] at hblank
    cases hblank
  exact List.mem_reverse.mpr (hleft (List.mem_reverse.mpr (hleft hc)))

/-- Digits end at what is no digit. -/
theorem takeWhile_isDigit {digits rest : List Char} (hd : ∀ c ∈ digits, isDigit c = true)
    (hr : rest.head?.any isDigit = false) :
    (digits ++ rest).takeWhile isDigit = digits ∧ (digits ++ rest).dropWhile isDigit = rest := by
  rw [List.takeWhile_append_of_pos hd, List.dropWhile_append_of_pos hd]
  cases rest with
  | nil => simp
  | cons c rest =>
    have hc : isDigit c = false := by simpa using hr
    simp [hc]

theorem takeWhile_isDigit_self {digits : List Char} (hd : ∀ c ∈ digits, isDigit c = true) :
    digits.takeWhile isDigit = digits ∧ digits.dropWhile isDigit = [] := by
  have happend := takeWhile_isDigit hd (show ([] : List Char).head?.any isDigit = false from rfl)
  rwa [List.append_nil] at happend

theorem digitValue_digitChar (h : n < 10) : digitValue (Nat.digitChar n) = n := by
  have hall : ∀ n < 10, digitValue (Nat.digitChar n) = n := by decide
  exact hall n h

theorem natFrom_nil (high : Nat) : natFrom high [] = high := by
  unfold natFrom
  rfl

theorem natFrom_cons (high : Nat) (c : Char) (rest : List Char) :
    natFrom high (c :: rest) = natFrom (high * 10 + digitValue c) rest := by
  conv => lhs; unfold natFrom

theorem natFrom_append (high : Nat) (cs rest : List Char) :
    natFrom high (cs ++ rest) = natFrom (natFrom high cs) rest := by
  induction cs generalizing high with
  | nil => rw [List.nil_append, natFrom_nil]
  | cons c cs ih => rw [List.cons_append, natFrom_cons, natFrom_cons, ih]

theorem natOf_toDigits (n : Nat) : natOf (Nat.toDigits 10 n) = n := by
  induction n using Nat.strongRecOn with
  | ind n ih =>
    by_cases h : n < 10
    · rw [Nat.toDigits_of_lt_base h, natOf, natFrom_cons, natFrom_nil, digitValue_digitChar h]
      omega
    · have hrest : natFrom 0 (Nat.toDigits 10 (n / 10)) = n / 10 := ih (n / 10) (by omega)
      rw [Nat.toDigits_of_base_le (by decide) (by omega), natOf, natFrom_append, hrest, natFrom_cons,
        natFrom_nil, digitValue_digitChar (Nat.mod_lt n (by decide))]
      omega

/-- A number has no zero in front, unless it is zero. -/
theorem toDigits_head (n : Nat) : ∃ c rest, Nat.toDigits 10 n = c :: rest ∧ isDigit c = true ∧
    (c = '0' → n = 0 ∧ rest = []) := by
  induction n using Nat.strongRecOn with
  | ind n ih =>
    by_cases h : n < 10
    · have hall : ∀ n < 10, isDigit (Nat.digitChar n) = true ∧ (Nat.digitChar n = '0' → n = 0) := by
        decide
      exact ⟨_, [], Nat.toDigits_of_lt_base h, (hall n h).1, fun hc => ⟨(hall n h).2 hc, rfl⟩⟩
    · obtain ⟨c, rest, heq, hd, hz⟩ := ih (n / 10) (by omega)
      refine ⟨c, rest ++ [Nat.digitChar (n % 10)], ?_, hd, fun hc => ?_⟩
      · rw [Nat.toDigits_of_base_le (by decide) (by omega), heq, List.cons_append]
      · have := (hz hc).1
        omega

theorem le_natFrom (high : Nat) (cs : List Char) : high ≤ natFrom high cs := by
  induction cs generalizing high with
  | nil => exact Nat.le_of_eq (natFrom_nil high).symm
  | cons c cs ih =>
    have := ih (high * 10 + digitValue c)
    rw [natFrom_cons]
    omega

theorem natFrom_eq (high : Nat) (cs : List Char) : natFrom high cs = high * 10 ^ cs.length + natOf cs := by
  induction cs generalizing high with
  | nil => simp [natOf, natFrom_nil]
  | cons c cs ih =>
    rw [natOf, natFrom_cons, natFrom_cons, ih, ih (0 * 10 + digitValue c), List.length_cons, Nat.pow_succ,
      Nat.add_mul, Nat.add_mul, Nat.mul_assoc, Nat.mul_comm 10]
    omega

theorem natOf_append (cs rest : List Char) : natOf (cs ++ rest) = natOf cs * 10 ^ rest.length + natOf rest := by
  rw [natOf, natFrom_append, natFrom_eq]
  rfl

theorem natOf_lt {cs : List Char} (h : ∀ c ∈ cs, isDigit c = true) : natOf cs < 10 ^ cs.length := by
  induction cs with
  | nil => decide
  | cons c cs ih =>
    have hc : digitValue c < 10 := by
      have := h c List.mem_cons_self
      simp only [isDigit, Bool.and_eq_true, decide_eq_true_eq] at this
      unfold digitValue
      omega
    have hrest := ih fun d hd => h d (List.mem_cons_of_mem _ hd)
    have hpow : digitValue c * 10 ^ cs.length + 10 ^ cs.length ≤ 10 * 10 ^ cs.length := by
      rw [← Nat.succ_mul]
      exact Nat.mul_le_mul_right _ hc
    rw [show c :: cs = [c] ++ cs from rfl, natOf_append, List.length_append, Nat.pow_add]
    simp only [natOf, natFrom_cons, natFrom_nil, List.length_singleton, Nat.pow_one, Nat.zero_mul,
      Nat.zero_add] at hrest ⊢
    omega

end LogPipeline.Text
