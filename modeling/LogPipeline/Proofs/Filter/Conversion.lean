import LogPipeline.Proofs.Filter.Mutation
import LogPipeline.Proofs.Number.Rounding
import LogPipeline.Proofs.Number.Whole

/-!
# Conversions to integers

A value may denote an integer: by being one, as the number of a boolean, with what stands before the point of a float,
or by its text. The conversion to integers gives just that integer, and keeps a value that denotes none. Floats are
the exception: there is an integer for each of them, whether they denote one or not.
-/

namespace LogPipeline.Filter

open Number (WritesInteger fitsInteger greatestInteger leastInteger readInteger?_eq_some_iff)

namespace Conversion

variable {value : Value} {x : Binary64} {i n : ℤ}

/-! ## Integers of values -/

/-- The integer of 64 bits that a value denotes. -/
def Denotes : Value → ℤ → Prop
  | .integer i, n => i = n
  | .bool b, n => (if b then 1 else 0) = n
  | .float x, n => x.isFinite = true ∧ Binary64.wholePart x.value = n ∧ fitsInteger n = true
  | value, n => WritesInteger (trimmed value) n ∧ fitsInteger n = true

/-- A float, if it is one, has an integer before the point, and one of 64 bits. -/
def Fitting (value : Value) : Prop :=
  ∀ x, value = .float x → x.isFinite = true ∧ fitsInteger (Binary64.wholePart x.value) = true

theorem clamp_eq_self_iff : clamp i = i ↔ fitsInteger i = true := by
  simp only [clamp, fitsInteger, Bool.and_eq_true, decide_eq_true_eq]
  unfold leastInteger greatestInteger
  omega

theorem integerOf_eq (hx : x.isFinite = true) : integerOf x = clamp (Binary64.wholePart x.value) := by
  unfold integerOf
  split
  · cases hx
  · cases hx
  · rw [Binary64.truncate_eq hx, Option.getD_some]

theorem denotes_float_iff : Denotes (.float x) n ↔ Fitting (.float x) ∧ integerOf x = n := by
  constructor
  · rintro ⟨hx, rfl, hn⟩
    refine ⟨?_, (integerOf_eq hx).trans (clamp_eq_self_iff.mpr hn)⟩
    rintro _ ⟨⟩
    exact ⟨hx, hn⟩
  · rintro ⟨h, rfl⟩
    obtain ⟨hx, hn⟩ := h x rfl
    rw [integerOf_eq hx, clamp_eq_self_iff.mpr hn]
    exact ⟨hx, rfl, hn⟩

/-- Integers come from the values that denote them, and from floats that do not fit. -/
theorem convert?_integer_iff (h : Fitting value) : convert? .integer value = some (.integer n) ↔ Denotes value n := by
  have htext (value : Value) : (Number.readInteger? (trimmed value)).map Value.integer = some (.integer n) ↔
      WritesInteger (trimmed value) n ∧ fitsInteger n = true := by
    simp [← readInteger?_eq_some_iff]
  cases value with
  | bool b => simp [convert?, Denotes]
  | integer i => simp [convert?, Denotes]
  | float x => simp [convert?, denotes_float_iff, h]
  | text s => exact htext (.text s)
  | timestamp instant => exact htext (.timestamp instant)
  | list items => exact htext (.list items)
  | map entries => exact htext (.map entries)

theorem exists_convert?_integer {after : Value} (h : convert? .integer value = some after) :
    ∃ n, after = .integer n := by
  have hmakes := makes_of_convert? h
  cases after with
  | integer n => exact ⟨n, rfl⟩
  | _ => cases hmakes

end Conversion

namespace Mutation

open Conversion (Denotes Fitting)

variable {conversions : Keyed Conversion} {conversion : Conversion} {event : Event} {field : String} {value : Value}

/-! ## Converted fields -/

/-- A field is converted by its own entry, and by no other. -/
theorem get?_apply_convert (hd : conversions.Distinct) (hm : (field, conversion) ∈ conversions) (event : Event) :
    ((convert conversions).apply event).get? field = (event.get? field).map (converted conversion) := by
  induction conversions generalizing event with
  | nil => cases hm
  | cons first rest ih =>
    obtain ⟨hnew, hrest⟩ := (Keyed.distinct_cons first rest).mp hd
    have hself : (convertOne event first).get? first.1 = (event.get? first.1).map (converted first.2) := by
      rw [convertOne_eq_adjust]
      exact Keyed.get?_adjust_self _ _ _
    show ((convert rest).apply (convertOne event first)).get? field = _
    rcases List.mem_cons.mp hm with rfl | hm
    · -- the other entries have other fields
      rw [((convert rest).apply_changesOnly _).get? field hnew, hself]
    · have hne : field ≠ first.1 := fun heq => hnew (heq ▸ List.mem_map_of_mem hm)
      rw [ih hrest hm, (changesOnly_convertOne event first).get? field (by simpa using hne)]

theorem converted_integer_iff (h : Fitting value) (n : ℤ) :
    converted .integer value = .integer n ↔ Denotes value n := by
  rw [← Conversion.convert?_integer_iff h]
  unfold converted
  cases hconvert : Conversion.convert? .integer value with
  | some after => simp
  | none =>
    -- a value that is kept is no integer
    constructor
    · rintro rfl
      cases hconvert
    · nofun

theorem converted_integer_eq_self (h : Fitting value) (hnone : ∀ n, ¬ Denotes value n) :
    converted .integer value = value := by
  unfold converted
  cases hconvert : Conversion.convert? .integer value with
  | none => rfl
  | some after =>
    obtain ⟨n, rfl⟩ := Conversion.exists_convert?_integer hconvert
    exact absurd ((Conversion.convert?_integer_iff h).mp hconvert) (hnone n)

/-- The conversion to integers never invents a number, that is, an integer comes only from a value that denotes it and
a value that denotes none is kept, exactly for values that are no floats and for finite floats with an integer of 64
bits before the point. Those become the integer that they denote. What is not a number becomes zero, infinity a limit
of 64 bits, and a finite float the integer of 64 bits nearest to the one before its point. -/
theorem convert_invents_none_iff (hd : conversions.Distinct) (hm : (field, .integer) ∈ conversions)
    (hv : event.get? field = some value) :
    let after := ((convert conversions).apply event).get? field
    (((∀ n, after = some (.integer n) → Denotes value n) ∧ ((∀ n, ¬ Denotes value n) → after = some value)) ↔
        Fitting value) ∧
      (Fitting value → ∀ n, after = some (.integer n) ↔ Denotes value n) ∧
      (value = .float .nan → after = some (.integer 0)) ∧
      (∀ negative, value = .float (.infinite negative) →
        after = some (.integer (if negative then leastInteger else greatestInteger))) ∧
      ∀ x, value = .float x → x.isFinite = true →
        after = some (.integer (max leastInteger (min greatestInteger (Binary64.wholePart x.value)))) := by
  intro after
  have hafter : after = some (converted .integer value) := by
    rw [← Option.map_some, ← hv]
    exact get?_apply_convert hd hm event
  simp only [hafter, Option.some.injEq]
  refine ⟨⟨?_, fun h => ?_⟩, converted_integer_iff, ?_, ?_, ?_⟩
  · rintro ⟨hinvents, -⟩ x rfl
    exact (Conversion.denotes_float_iff.mp (hinvents _ rfl)).1 x rfl
  · exact ⟨fun n => (converted_integer_iff h n).mp, converted_integer_eq_self h⟩
  · rintro rfl
    rfl
  · rintro negative rfl
    rfl
  · rintro x rfl hx
    rw [← Conversion.clamp, ← Conversion.integerOf_eq hx]
    rfl

/-- The part behind the point of -7.5 is cut off, and a text that is no integer of 64 bits is kept. -/
theorem convert_invents_none_of_fraction :
    let conversions : Keyed Conversion := [("size", .integer), ("ratio", .integer)]
    let event : Event :=
      { fields := [("ratio", .float (.finite true 8444249301319680 (-50))), ("size", .text "9223372036854775808")] }
    conversions.Distinct ∧ ("ratio", .integer) ∈ conversions ∧ ("size", .integer) ∈ conversions ∧
      ((convert conversions).apply event).get? "ratio" = some (.integer (-7)) ∧
      ((convert conversions).apply event).get? "size" = some (.text "9223372036854775808") := by
  intro conversions event
  have hd : conversions.Distinct := by decide
  have hratio : ("ratio", .integer) ∈ conversions := .tail _ (.head _)
  have hsize : ("size", .integer) ∈ conversions := .head _
  refine ⟨hd, hratio, hsize, ?_, ?_⟩
  · obtain ⟨x, hx⟩ : ∃ x, Binary64.finite true 8444249301319680 (-50) = x := ⟨_, rfl⟩
    have hv : event.get? "ratio" = some (.float x) := by
      rw [← hx]
      rfl
    have hfinite : x.isFinite = true := by
      rw [← hx]
      rfl
    have htruncate : x.truncate = some (-7) := by
      rw [← hx]
      decide
    have hwhole : Binary64.wholePart x.value = -7 :=
      Option.some.inj ((Binary64.truncate_eq hfinite).symm.trans htruncate)
    have hfits : fitsInteger (Binary64.wholePart x.value) = true := by
      rw [hwhole]
      decide
    refine ((convert_invents_none_iff hd hratio hv).2.1 ?_ (-7)).mpr ⟨hfinite, hwhole, hwhole ▸ hfits⟩
    rintro _ ⟨⟩
    exact ⟨hfinite, hfits⟩
  · have hv : event.get? "size" = some (.text "9223372036854775808") := rfl
    refine ((convert_invents_none_iff hd hsize hv).1.mpr nofun).2 fun n hn => ?_
    have hread : Number.readInteger? (Conversion.trimmed (.text "9223372036854775808")) = none := by decide
    rw [readInteger?_eq_some_iff.mpr hn] at hread
    cases hread

/-- What is not a number becomes zero. -/
theorem convert_of_nan :
    let event : Event := { fields := [("count", .float .nan)] }
    ∃ mutation, build { action := "convert", convert := [("count", "integer")] } = .ok mutation ∧
      event.get? "count" = some (.float .nan) ∧ (∀ n, ¬ Denotes (.float .nan) n) ∧
      (mutation.apply event).get? "count" = some (.integer 0) := by
  refine ⟨.convert [("count", .integer)], rfl, rfl, ?_, rfl⟩
  rintro n ⟨hfinite, -⟩
  cases hfinite

end Mutation

end LogPipeline.Filter
