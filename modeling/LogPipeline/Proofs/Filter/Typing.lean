import LogPipeline.Grok.Matcher
import LogPipeline.Proofs.Event.Nulls
import LogPipeline.Proofs.Filter.Conversion
import LogPipeline.Proofs.Number.Decimal

/-!
# Typed values in documents

Captures and conversions type what was a text. A text that is not read as a number is kept, so that nothing is lost,
but some texts are read as a number that is not finite, and for those `null` is written. Both ways of typing lose
these texts, and only these.
-/

namespace LogPipeline

open Number (IsMark IsNonfinite isNonfinite_iff readDecimal?)
open Value (Nonnull)

variable {value : Value} {cs : List Char} {c : Char}

/-- Reading a number loses the texts of those that are not finite, whatever is kept of the others. -/
theorem Value.nonnull_read_iff (h : value.Nonnull) :
    Nonnull (((readDecimal? cs).map Value.float).getD value) ↔ ¬ IsNonfinite cs := by
  rw [isNonfinite_iff]
  cases hread : readDecimal? cs with
  | none => simpa using h
  | some x => simp [Value.nonnull_iff]

namespace Grok

theorem CaptureType.nonnull_convert_iff (type : CaptureType) (text : String) :
    (type.convert text).Nonnull ↔ ¬ (type = .float ∧ IsNonfinite text.toList) := by
  have htext := Value.nonnull_text text
  cases type with
  | text => simpa [CaptureType.convert] using htext
  | int =>
    simp only [CaptureType.convert, reduceCtorEq, false_and, not_false_iff, iff_true]
    cases Number.readInteger? text.toList with
    | none => exact htext
    | some n => exact Value.nonnull_iff.mpr nofun
  | float => simpa [CaptureType.convert] using Value.nonnull_read_iff htext

end Grok

namespace Filter

/-! ## Converted values -/

namespace Conversion

variable {conversion : Conversion} {converted : Value}

/-- A text is converted to a float, but not to a finite one. -/
def Voids (conversion : Conversion) (value : Value) : Prop :=
  conversion = .float ∧ ∃ s, value = .text s ∧ IsNonfinite (Text.trim s.toList)

theorem not_isNonfinite_trimmed (hc : c ∈ value.display.toList) (hb : Text.isBlank c = false) (hm : ¬ IsMark c) :
    ¬ IsNonfinite (trimmed value) :=
  fun h => hm (h.isMark (Text.mem_trim hc hb))

/-- What is no text and no number shows a character that no number is written with. -/
theorem eq_text_of_isNonfinite (h : IsNonfinite (trimmed value)) :
    (∃ s, value = .text s) ∨ (∃ i, value = .integer i) ∨ ∃ x, value = .float x := by
  cases value with
  | text s => exact .inl ⟨s, rfl⟩
  | integer i => exact .inr (.inl ⟨i, rfl⟩)
  | float x => exact .inr (.inr ⟨x, rfl⟩)
  | bool b =>
    cases b with
    | true => exact absurd h (not_isNonfinite_trimmed (show 'r' ∈ "true".toList by decide) (by decide) (by decide))
    | false => exact absurd h (not_isNonfinite_trimmed (show 'l' ∈ "false".toList by decide) (by decide) (by decide))
  | timestamp instant =>
    have hzone : 'Z' ∈ instant.text.toList := by simp [Time.Instant.text]
    exact absurd h (not_isNonfinite_trimmed hzone (by decide) (by decide))
  | list items =>
    have hopen : '[' ∈ (Value.list items).display.toList := by
      simp [Value.display, Json.Doc.compact, Json.Doc.render]
    exact absurd h (not_isNonfinite_trimmed hopen (by decide) (by decide))
  | map entries =>
    have hopen : '{' ∈ (Value.map entries).display.toList := by
      simp [Value.display, Json.Doc.compact, Json.Doc.render]
    exact absurd h (not_isNonfinite_trimmed hopen (by decide) (by decide))

theorem ofInt_isFinite {i : ℤ} (h : Number.fitsInteger i = true) : (Binary64.ofInt i).isFinite = true := by
  have hi : i.natAbs ≤ 2 ^ 63 := by
    simp only [Number.fitsInteger, Bool.and_eq_true, decide_eq_true_eq] at h
    unfold Number.leastInteger Number.greatestInteger at h
    omega
  rw [Binary64.ofInt, Binary64.ofRatio_isFinite_iff _ _ one_ne_zero, Nat.cast_one, div_one]
  calc (i.natAbs : ℚ) ≤ 2 ^ (63 : ℤ) := by exact_mod_cast hi
    _ < 2 ^ (1023 : ℤ) := zpow_lt_zpow_right₀ one_lt_two (by decide)
    _ ≤ Binary64.overflow := Binary64.overflow_bounds.1

theorem nonnull_of_makes (h : conversion.Makes converted = true) (hc : conversion ≠ .float) : converted.Nonnull := by
  refine Value.nonnull_iff.mpr ?_
  rintro x rfl
  cases conversion with
  | float => exact absurd rfl hc
  | _ => cases h

theorem all_nonnull_of_makes (h : conversion.Makes converted = true) :
    converted.All Nonnull ↔ converted.Nonnull := by
  cases converted with
  | list items => cases conversion <;> cases h
  | map entries => cases conversion <;> cases h
  | _ => rfl

end Conversion

namespace Mutation

open Conversion (Voids)

variable {conversions : Keyed Conversion} {conversion : Conversion} {event : Event} {field : String}

/-- What is no number is converted to a float by its text. -/
theorem nonnull_read (hn : value.Nonnull) (hi : ∀ i, value ≠ .integer i) (hx : ∀ x, value ≠ .float x)
    (hread : Conversion.convert? .float value = (readDecimal? (Conversion.trimmed value)).map .float) :
    (converted .float value).Nonnull ↔ ¬ Voids .float value := by
  rw [converted, hread, Value.nonnull_read_iff hn, not_iff_not]
  constructor
  · intro h
    rcases Conversion.eq_text_of_isNonfinite h with ⟨s, rfl⟩ | ⟨i, rfl⟩ | ⟨x, rfl⟩
    · exact ⟨rfl, s, rfl, h⟩
    · exact absurd rfl (hi i)
    · exact absurd rfl (hx x)
  · rintro ⟨-, s, rfl, h⟩
    exact h

theorem nonnull_converted_iff (hw : value.WellFormed) (hn : value.Nonnull) :
    (converted conversion value).Nonnull ↔ ¬ Voids conversion value := by
  by_cases hc : conversion = .float
  · subst hc
    cases value with
    | integer i =>
      have hfinite := Conversion.ofInt_isFinite hw
      simpa [converted, Conversion.convert?, Voids, Value.nonnull_iff] using hfinite
    | float x => simpa [converted, Conversion.convert?, Voids] using hn
    | _ => exact nonnull_read hn (by simp) (by simp) rfl
  · have hvoids : ¬ Voids conversion value := fun h => hc h.1
    simp only [hvoids, not_false_iff, iff_true]
    unfold converted
    cases hconvert : conversion.convert? value with
    | none => exact hn
    | some after => exact Conversion.nonnull_of_makes (Conversion.makes_of_convert? hconvert) hc

theorem all_nonnull_converted_iff (hn : value.All Nonnull) :
    (converted conversion value).All Nonnull ↔ (converted conversion value).Nonnull := by
  unfold converted
  cases hconvert : conversion.convert? value with
  | none => exact ⟨fun _ => hn.self, fun _ => hn⟩
  | some after => exact Conversion.all_nonnull_of_makes (Conversion.makes_of_convert? hconvert)

/-- An action that converts leaves the fields of an event without a `null` exactly if it voids none of them. -/
theorem nonnull_fields_iff (hd : conversions.Distinct) (hu : event.Unique)
    (h : ∀ entry ∈ event.fields, entry.2.WellFormed ∧ entry.2.All Nonnull) :
    (∀ entry ∈ ((convert conversions).apply event).fields, entry.2.All Nonnull) ↔
      ∀ entry ∈ conversions, ∀ value, event.get? entry.1 = some value → ¬ Voids entry.2 value := by
  have hchanges := (convert conversions).apply_changesOnly event
  have hafter := (hchanges.unique hu).fields
  -- what is asked of a field before its conversion
  have hfield {name : String} {value : Value} (hv : event.get? name = some value) :
      value.WellFormed ∧ value.All Nonnull := h (name, value) ((Keyed.mem_iff_get? hu.fields).mpr hv)
  have hkept {conversion : Conversion} {name : String} {value : Value} (hv : event.get? name = some value) :
      (converted conversion value).All Nonnull ↔ ¬ Voids conversion value := by
    obtain ⟨hw, hn⟩ := hfield hv
    rw [all_nonnull_converted_iff hn, nonnull_converted_iff hw hn.self]
  constructor
  · -- a converted field is among the fields
    intro hall entry hm value hv
    refine (hkept hv).mp (hall (entry.1, converted entry.2 value) ((Keyed.mem_iff_get? hafter).mpr ?_))
    exact (get?_apply_convert hd hm event).trans (by rw [hv, Option.map_some])
  · -- a field is converted, or is as it was
    rintro hnone ⟨name, after⟩ hm
    have hget : ((convert conversions).apply event).get? name = some after := (Keyed.mem_iff_get? hafter).mp hm
    by_cases hn : name ∈ (convert conversions).fieldOperands
    · obtain ⟨entry, hentry, rfl⟩ := List.mem_map.mp hn
      rw [get?_apply_convert hd hentry, Option.map_eq_some_iff] at hget
      obtain ⟨value, hv, rfl⟩ := hget
      exact (hkept hv).mpr (hnone entry hentry value hv)
    · rw [hchanges.get? name hn] at hget
      exact (hfield hget).2

/-- A typed capture, or a field that an action converts, is written as `null` exactly if a text is typed as a float
that is not finite: a word for infinity or for what is not a number, or digits that are out of range. Of an event
without a `null` in its fields, an action that converts makes one that is written without a `null` exactly if it voids
none of the fields. -/
theorem typed_null_iff (hd : conversions.Distinct) (hm : (field, conversion) ∈ conversions)
    (hv : event.get? field = some value) (hw : value.WellFormed) (hn : value.All Nonnull) :
    (∀ (type : Grok.CaptureType) (text : String),
        (type.convert text).toDoc.compact = "null" ↔ type = .float ∧ IsNonfinite text.toList) ∧
      (∃ after, ((convert conversions).apply event).get? field = some after ∧
        (after.toDoc.compact = "null" ↔ Voids conversion value) ∧ (after.All Nonnull ↔ ¬ Voids conversion value)) ∧
      (event.Unique → (∀ entry ∈ event.fields, entry.2.WellFormed ∧ entry.2.All Nonnull) →
        ((∀ entry ∈ ((convert conversions).apply event).entries, entry.2.All Nonnull) ↔
          ∀ entry ∈ conversions, ∀ value, event.get? entry.1 = some value → ¬ Voids entry.2 value)) := by
  refine ⟨fun type text => not_iff_not.mp (type.nonnull_convert_iff text), ⟨converted conversion value, ?_, ?_, ?_⟩, ?_⟩
  · rw [get?_apply_convert hd hm, hv, Option.map_some]
  · exact not_iff_not.mp (nonnull_converted_iff hw hn.self)
  · rw [all_nonnull_converted_iff hn, nonnull_converted_iff hw hn.self]
  · intro hu h
    rw [Event.nonnull_entries_iff, nonnull_fields_iff hd hu h]

/-- A text that is in range, if only just, and one that begins like a word. -/
theorem typed_null_iff_of_greatest :
    let conversions : Keyed Conversion := [("ratio", .float), ("name", .float)]
    let event : Event := { fields := [("name", .text "nano"), ("ratio", .text " -1.7976931348623158e308\n")] }
    conversions.Distinct ∧ ("ratio", .float) ∈ conversions ∧ event.Unique ∧
      (∀ entry ∈ event.fields, entry.2.WellFormed ∧ entry.2.All Nonnull) ∧
      (∃ after, ((convert conversions).apply event).get? "ratio" = some after ∧ after.toDoc.compact ≠ "null") ∧
      ∀ entry ∈ ((convert conversions).apply event).entries, entry.2.All Nonnull := by
  intro conversions event
  have hd : conversions.Distinct := by decide
  have hm : ("ratio", .float) ∈ conversions := .head _
  have hu : event.Unique := ⟨by decide, by decide⟩
  have hv : event.get? "ratio" = some (.text " -1.7976931348623158e308\n") := rfl
  have htext (s : String) : Value.WellFormed (.text s) ∧ Value.All Nonnull (.text s) :=
    ⟨trivial, Value.nonnull_text s⟩
  have hfields : ∀ entry ∈ event.fields, entry.2.WellFormed ∧ entry.2.All Nonnull :=
    List.forall_mem_cons.mpr ⟨htext _, List.forall_mem_cons.mpr ⟨htext _, List.forall_mem_nil _⟩⟩
  have hfinite : ∀ s ∈ [" -1.7976931348623158e308\n", "nano"],
      (readDecimal? (Text.trim s.toList)).all Binary64.isFinite = true := by decide +kernel
  have hvoids : ∀ entry ∈ conversions, ∀ value, event.get? entry.1 = some value → ¬ Voids entry.2 value := by
    rintro entry hentry _ hvalue ⟨-, s, rfl, h⟩
    obtain ⟨x, hx, hinfinite⟩ := isNonfinite_iff.mp h
    have hs : s ∈ [" -1.7976931348623158e308\n", "nano"] := by
      rcases List.mem_cons.mp hentry with rfl | hentry
      · cases hvalue
        exact .head _
      · obtain rfl := List.mem_singleton.mp hentry
        cases hvalue
        exact .tail _ (.head _)
    simpa [hx, hinfinite] using hfinite s hs
  obtain ⟨-, ⟨after, hget, hnull, -⟩, hwritten⟩ := typed_null_iff hd hm hv (htext _).1 (htext _).2
  exact ⟨hd, hm, hu, hfields, ⟨after, hget, mt hnull.mp (hvoids _ hm _ hv)⟩, (hwritten hu hfields).mpr hvoids⟩

/-- Digits out of range and a word, of which the texts are lost. -/
theorem typed_null_of_range :
    let event : Event := { fields := [("ratio", .text "1e999")] }
    (∃ mutation, build { action := "convert", convert := [("ratio", "float")] } = .ok mutation ∧
      ∃ after, (mutation.apply event).get? "ratio" = some after ∧ after.toDoc.compact = "null") ∧
    (Value.text "1e999").All Nonnull ∧ (Grok.CaptureType.float.convert "nan").toDoc.compact = "null" := by
  intro event
  have hread : readDecimal? (Text.trim "1e999".toList) = some (.infinite false) := by decide +kernel
  have hconverted : converted .float (.text "1e999") = .float (.infinite false) := by
    simp only [converted, Conversion.convert?, Conversion.trimmed, Value.display, hread, Option.map_some,
      Option.getD_some]
  refine ⟨⟨.convert [("ratio", .float)], rfl, .float (.infinite false), ?_, by decide +kernel⟩,
    Value.nonnull_text _, by decide +kernel⟩
  exact (get?_apply_convert (by decide) (.head _) event).trans (congrArg some hconverted)

end Mutation

end Filter

end LogPipeline
