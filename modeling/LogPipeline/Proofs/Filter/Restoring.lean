import LogPipeline.Proofs.Filter.Conversion
import LogPipeline.Proofs.Number.Reading

/-!
# Conversions that restore

A value that is converted may come back when what it became is converted again, or may be kept by the first conversion.
Here are values of which that is so. All else that a conversion could touch stays as it is: the other fields, the order
of all fields, the tags and the line. Floats, and texts that are no integers, are not spoken of.
-/

namespace LogPipeline

/-! ## Other values under the same names -/

namespace Keyed

variable {α : Type} {m a b : Keyed α}

/-- Names that occur once, in the same order and with the same under each of them, make the same list. -/
theorem eq_of_keys_eq (hd : a.Distinct) (hk : b.keys = a.keys) (h : ∀ key, b.get? key = a.get? key) : b = a := by
  induction a generalizing b with
  | nil => exact List.map_eq_nil_iff.mp hk
  | cons pair rest ih =>
    obtain ⟨name, value⟩ := pair
    obtain ⟨hnew, hrest⟩ := (distinct_cons _ _).mp hd
    cases b with
    | nil => cases hk
    | cons pair' rest' =>
      obtain ⟨name', value'⟩ := pair'
      obtain ⟨rfl, hks⟩ : name' = name ∧ keys rest' = keys rest := List.cons.inj hk
      obtain rfl : value' = value := by simpa [get?] using h name'
      have hrests : ∀ key, get? rest' key = get? rest key := by
        intro key
        by_cases hkey : name' = key
        · -- the first name stands in neither rest
          subst hkey
          rw [get?_eq_none_iff.mpr hnew, get?_eq_none_iff.mpr (hks ▸ hnew)]
        · simpa [get?, hkey] using h key
      rw [ih hrest hks hrests]

end Keyed

namespace Event

/-- An event with the same names in the same order, the same tags and the same line, and with other values at most
under the names that are given. -/
structure Revalues (fields : List String) (before after : Event) : Prop where
  keys : after.fields.keys = before.fields.keys
  get? : ∀ field ∉ fields, after.get? field = before.get? field
  tags : after.tags = before.tags
  raw : after.raw = before.raw

variable {fields fields' : List String} {before between after : Event}

theorem Revalues.refl (event : Event) : event.Revalues fields event := ⟨rfl, fun _ _ => rfl, rfl, rfl⟩

theorem Revalues.trans (h : before.Revalues fields between) (h' : between.Revalues fields after) :
    before.Revalues fields after where
  keys := h'.keys.trans h.keys
  get? field hn := (h'.get? field hn).trans (h.get? field hn)
  tags := h'.tags.trans h.tags
  raw := h'.raw.trans h.raw

theorem Revalues.mono (h : before.Revalues fields after) (hf : fields ⊆ fields') : before.Revalues fields' after :=
  { h with get? := fun field hn => h.get? field fun hm => hn (hf hm) }

theorem revalues_adjust (event : Event) (field : String) (f : Value → Value) :
    event.Revalues [field] (event.adjust field f) where
  keys := Keyed.keys_adjust event.fields field f
  get? other hn := Keyed.get?_adjust_of_ne event.fields f (by simpa using hn)
  tags := rfl
  raw := rfl

theorem Revalues.eq_of_get? (h : before.Revalues fields after) (hu : before.Unique)
    (hf : ∀ field ∈ fields, after.get? field = before.get? field) : after = before := by
  have hfields : after.fields = before.fields := by
    refine Keyed.eq_of_keys_eq hu.fields h.keys fun field => ?_
    by_cases hm : field ∈ fields
    · exact hf field hm
    · exact h.get? field hm
  obtain ⟨fields, raw, tags⟩ := after
  obtain ⟨-, -, htags, hraw⟩ := h
  cases hfields
  cases htags
  cases hraw
  rfl

end Event

namespace Filter

open Number (WritesInteger IsSign fitsInteger readInteger?_eq_some_iff readWhole?_eq_some_iff)

/-! ## Values that come back -/

theorem writesInteger_integerText (i : Int) : WritesInteger (Json.integerText i) i := by
  have hdigits := Json.isDigits_toDigits i.natAbs
  by_cases h : i < 0
  · have hwrites : WritesInteger (['-'] ++ Nat.toDigits 10 i.natAbs) _ := .digits .minus hdigits
    simpa [Json.integerText, h, Text.natOf_toDigits, abs_of_neg h] using hwrites
  · have hwrites : WritesInteger ([] ++ Nat.toDigits 10 i.natAbs) _ := .digits .none hdigits
    simpa [Json.integerText, h, Text.natOf_toDigits, abs_of_nonneg (not_lt.mp h)] using hwrites

namespace Conversion

variable {value : Value} {sequence : List Conversion}

/-- Values that are the same again after conversions in turn: integers and Booleans by way of their texts, Booleans by
way of their numbers, texts that are converted to texts, and texts of integers that have more than 64 bits, which are
kept. -/
inductive Restores : List Conversion → Value → Prop
  | integer {i : Int} (h : fitsInteger i = true) : Restores [.text, .integer] (.integer i)
  | bool (b : Bool) : Restores [.text, .boolean] (.bool b)
  | number (b : Bool) : Restores [.integer, .boolean] (.bool b)
  | text (s : String) : Restores [.text] (.text s)
  | beyond {s : String} {i : Int} (hw : WritesInteger (Text.trim s.toList) i) (hf : fitsInteger i = false) :
      Restores [.integer] (.text s)

end Conversion

namespace Mutation

open Conversion (Restores)

variable {value : Value} {sequence : List Conversion} {conversions : Keyed Conversion}
  {actions : List (Keyed Conversion)}
  {field : String} {event : Event}

/-! ## Fields that come back -/

/-- Conversions of several fields, and then of others. -/
def convertAll (actions : List (Keyed Conversion)) (event : Event) : Event :=
  actions.foldl (fun event conversions => (convert conversions).apply event) event

theorem revalues_convert (event : Event) : event.Revalues conversions.keys ((convert conversions).apply event) := by
  induction conversions generalizing event with
  | nil => exact .refl event
  | cons entry rest ih =>
    have hfirst : event.Revalues (Keyed.keys (entry :: rest)) (convertOne event entry) := by
      rw [convertOne_eq_adjust]
      exact (event.revalues_adjust entry.1 (converted entry.2)).mono (by simp)
    exact hfirst.trans ((ih _).mono (by simp))

theorem revalues_convertAll (event : Event) :
    event.Revalues (actions.flatMap Keyed.keys) (convertAll actions event) := by
  induction actions generalizing event with
  | nil => exact .refl event
  | cons conversions rest ih =>
    have hfirst : event.Revalues ((conversions :: rest).flatMap Keyed.keys) ((convert conversions).apply event) :=
      (revalues_convert event).mono (by simp)
    exact hfirst.trans ((ih _).mono (by simp))

/-- Each action converts the field by its own entry for it. -/
theorem get?_convertAll
    (h : List.Forall₂ (fun conversion conversions => conversions.Distinct ∧ (field, conversion) ∈ conversions)
      sequence actions) (event : Event) :
    (convertAll actions event).get? field =
      (event.get? field).map fun value =>
        sequence.foldl (fun value conversion => converted conversion value) value := by
  induction h generalizing event with
  | nil => exact Option.map_id'.symm
  | cons first _ ih =>
    obtain ⟨hd, hm⟩ := first
    show (convertAll _ ((convert _).apply event)).get? field = _
    rw [ih, get?_apply_convert hd hm, Option.map_map]
    rfl

theorem converted_of_some {conversion : Conversion} {after : Value} (h : conversion.convert? value = some after) :
    converted conversion value = after := by rw [converted, h, Option.getD_some]

theorem converted_of_none {conversion : Conversion} (h : conversion.convert? value = none) :
    converted conversion value = value := by rw [converted, h, Option.getD_none]

theorem foldl_converted_of_restores (h : Restores sequence value) :
    sequence.foldl (fun value conversion => converted conversion value) value = value := by
  cases h with
  | @integer i hf =>
    have hread : Number.readInteger? (Conversion.trimmed (.text (Value.integer i).display)) = some i := by
      rw [Conversion.trimmed, Value.display, Value.display, String.toList_ofList, Number.trim_integerText]
      exact readInteger?_eq_some_iff.mpr ⟨writesInteger_integerText i, hf⟩
    have htext : converted .text (.integer i) = .text (Value.integer i).display := rfl
    simp only [List.foldl_cons, List.foldl_nil, htext]
    exact converted_of_some (congrArg (Option.map Value.integer) hread)
  | bool b => cases b <;> rfl
  | number b => cases b <;> rfl
  | text s => rfl
  | @beyond s i hw hf =>
    refine converted_of_none ?_
    have hread : Number.readInteger? (Conversion.trimmed (.text s)) = none := by
      rw [Conversion.trimmed, Value.display, Number.readInteger?, readWhole?_eq_some_iff.mpr hw]
      simp [hf]
    exact congrArg (Option.map Value.integer) hread

/-- A field whose value comes back does so whatever other fields are converted along with it. No conversion touches a
field that it does not name, the order of the fields, the tags or the line, so that conversions of this field alone give
back the event. -/
theorem conversions_restore (hv : event.get? field = some value) (hr : Restores sequence value)
    (ha : List.Forall₂ (fun conversion conversions => conversions.Distinct ∧ (field, conversion) ∈ conversions)
      sequence actions) :
    let after := convertAll actions event
    after.get? field = some value ∧ event.Revalues (actions.flatMap Keyed.keys) after ∧
      (event.Unique → actions.flatMap Keyed.keys ⊆ [field] → after = event) := by
  intro after
  have hafter : after.get? field = some value := by
    rw [get?_convertAll ha, hv, Option.map_some, foldl_converted_of_restores hr]
  have hrevalues : event.Revalues (actions.flatMap Keyed.keys) after := revalues_convertAll event
  refine ⟨hafter, hrevalues, fun hu honly => hrevalues.eq_of_get? hu fun other hm => ?_⟩
  obtain rfl := List.mem_singleton.mp (honly hm)
  exact hafter.trans hv.symm

/-- The least integer, converted along with a Boolean that does not come back, and a text of the integer behind the
greatest. -/
theorem conversions_restore_of_limits :
    let event : Event :=
      { fields := [("open", .bool true), ("count", .integer (-9223372036854775808)),
          ("total", .text "+09223372036854775808")],
        raw := some "line", tags := ["seen"] }
    let actions : List (Keyed Conversion) := [[("count", .text), ("open", .integer)], [("count", .integer)]]
    event.get? "count" = some (.integer (-9223372036854775808)) ∧
      (convertAll actions event).get? "count" = some (.integer (-9223372036854775808)) ∧
      (convertAll actions event).fields.keys = ["open", "count", "total"] ∧
      event.Unique ∧ convertAll [[("total", .integer)]] event = event := by
  intro event actions
  have hcount : event.get? "count" = some (.integer (-9223372036854775808)) := rfl
  have htotal : event.get? "total" = some (.text "+09223372036854775808") := rfl
  have hunique : event.Unique := ⟨by decide, by decide⟩
  have hback : Restores [.text, .integer] (.integer (-9223372036854775808)) := .integer (by decide)
  have hwrites : WritesInteger (Text.trim "+09223372036854775808".toList) 9223372036854775808 :=
    readWhole?_eq_some_iff.mp (by decide)
  have hkept : Restores [.integer] (.text "+09223372036854775808") := .beyond hwrites (by decide)
  have hentries : List.Forall₂
      (fun conversion conversions => conversions.Distinct ∧ ("count", conversion) ∈ conversions)
      [.text, .integer] actions := .cons ⟨by decide, .head _⟩ (.cons ⟨by decide, .head _⟩ .nil)
  obtain ⟨hvalue, hrevalues, -⟩ := conversions_restore hcount hback hentries
  exact ⟨hcount, hvalue, hrevalues.keys, hunique,
    (conversions_restore htotal hkept (.cons ⟨by decide, .head _⟩ .nil)).2.2 hunique (List.Subset.refl _)⟩

end Mutation

end Filter

end LogPipeline
