import LogPipeline.Proofs.Keyed
import LogPipeline.Proofs.Number.Decimal
import LogPipeline.Proofs.Number.Whole
import LogPipeline.Grok.Matcher

/-!
# What a match yields

Several groups may go to one field, and any of them may have taken no part in a match. `Merges` says which fields
there are then: their order is that of the first groups that took part, their values are from the last ones.
-/

namespace LogPipeline.Grok

open Number (WritesInteger WritesDecimal fitsInteger readInteger?_eq_some_iff readDecimal?_eq_some_iff)

/-- The value that a captured text becomes: a number, if the slot is for one and the text writes it, and otherwise the
text as it is. -/
inductive CaptureType.Converts (text : String) : CaptureType → Value → Prop
  | text : Converts text .text (.text text)
  | integer {n : Int} (h : WritesInteger text.toList n) (hfits : fitsInteger n = true) :
      Converts text .int (.integer n)
  | noInteger (h : ∀ n, WritesInteger text.toList n → fitsInteger n = false) : Converts text .int (.text text)
  | decimal {x : Binary64} (h : WritesDecimal text.toList x) : Converts text .float (.float x)
  | noDecimal (h : ∀ x, ¬ WritesDecimal text.toList x) : Converts text .float (.text text)

theorem CaptureType.convert_converts (type : CaptureType) (text : String) :
    type.Converts text (type.convert text) := by
  cases type with
  | text => exact .text
  | int =>
    unfold convert
    cases h : Number.readInteger? text.toList with
    | some n =>
      obtain ⟨hwrites, hfits⟩ := readInteger?_eq_some_iff.mp h
      exact .integer hwrites hfits
    | none =>
      refine .noInteger fun n hwrites => Bool.eq_false_iff.mpr fun hfits => ?_
      rw [readInteger?_eq_some_iff.mpr ⟨hwrites, hfits⟩] at h
      cases h
  | float =>
    unfold convert
    cases h : Number.readDecimal? text.toList with
    | some x => exact .decimal (readDecimal?_eq_some_iff.mp h)
    | none =>
      refine .noDecimal fun x hwrites => ?_
      rw [readDecimal?_eq_some_iff.mpr hwrites] at h
      cases h

/-- A slot whose group took part in a match, with the text of the group. -/
structure Part where
  slot : Slot
  text : String

def Part.name (part : Part) : String := part.slot.capture.name

def Part.type (part : Part) : CaptureType := part.slot.capture.type

/-- Each name has one field, at the place of the first part of this name and with what the last one becomes. -/
structure Merges (parts : List Part) (fields : Keyed Value) : Prop where
  keys : fields.keys = (parts.map Part.name).eraseDups
  distinct : fields.Distinct
  last : ∀ earlier part later, parts = earlier ++ part :: later → (∀ other ∈ later, other.name ≠ part.name) →
    ∃ value, fields.get? part.name = some value ∧ part.type.Converts part.text value

/-- The fields of parts that are put in one after the other. -/
theorem merges_ofPairs (parts : List Part) :
    Merges parts (.ofPairs (parts.map fun part => (part.name, part.type.convert part.text))) where
  keys := by
    rw [Keyed.keys_ofPairs, Keyed.keys, List.map_map]
    rfl
  distinct := Keyed.distinct_nil.insertAll _
  last := by
    rintro earlier part later rfl hlast
    refine ⟨part.type.convert part.text, ?_, part.type.convert_converts part.text⟩
    -- from behind, the part is the first one of its name
    have hlater : Keyed.get? (later.map fun part => (part.name, part.type.convert part.text)).reverse part.name =
        none := by
      rw [Keyed.get?_eq_none_iff, ← List.map_reverse, Keyed.keys, List.map_map]
      rintro hm
      obtain ⟨other, ho, hname⟩ := List.mem_map.mp hm
      exact hlast other (List.mem_reverse.mp ho) hname
    rw [Keyed.get?_ofPairs, List.map_append, List.map_cons, List.reverse_append, List.reverse_cons, List.append_assoc,
      Keyed.get?_append, hlater, Option.none_or]
    simp [Keyed.get?]

namespace Matcher

/-- The slots that took part in a match with these notes, in their order. -/
def partsOf (text : Array Char) (saves : List (Nat × Nat)) (slots : List Slot) : List Part :=
  slots.filterMap fun slot => (Regex.groupText? text saves slot.index).map (Part.mk slot)

/-- The parts of the match that is found in a text. -/
def parts? (matcher : Matcher) (text : String) : Option (List Part) :=
  let cs := text.toList.toArray
  (Regex.search matcher.start matcher.program cs).map fun saves => partsOf cs saves matcher.slots

theorem fieldsOf_eq (text : Array Char) (saves : List (Nat × Nat)) (slots : List Slot) :
    fieldsOf text saves slots =
      .ofPairs ((partsOf text saves slots).map fun part => (part.name, part.type.convert part.text)) := by
  unfold fieldsOf Keyed.ofPairs Keyed.insertAll partsOf
  rw [List.foldl_map, List.foldl_filterMap]
  congr 1
  funext fields slot
  cases Regex.groupText? text saves slot.index <;> rfl

theorem groupText?_infix {text : Array Char} {saves : List (Nat × Nat)} {index : Nat} {part : String}
    (h : Regex.groupText? text saves index = some part) : part.toList <:+: text.toList := by
  unfold Regex.groupText? at h
  split at h
  · cases h
    rw [String.toList_ofList, Array.toList_extract, List.extract_eq_take_drop]
    exact (List.take_prefix _ _).isInfix.trans (List.drop_suffix _ _).isInfix
  · cases h

theorem partsOf_slots (text : Array Char) (saves : List (Nat × Nat)) (slots : List Slot) :
    ((partsOf text saves slots).map Part.slot).Sublist slots := by
  induction slots with
  | nil => exact .slnil
  | cons slot rest ih =>
    unfold partsOf at ih ⊢
    cases h : Regex.groupText? text saves slot.index with
    | none => simpa [h] using ih.cons slot
    | some part => simpa [h] using ih

theorem partsOf_infix {text : Array Char} {saves : List (Nat × Nat)} {slots : List Slot} :
    ∀ part ∈ partsOf text saves slots, part.text.toList <:+: text.toList := by
  intro part hm
  obtain ⟨slot, -, hpart⟩ := List.mem_filterMap.mp hm
  obtain ⟨taken, htaken, rfl⟩ := Option.map_eq_some_iff.mp hpart
  exact groupText?_infix htaken

/-- A match yields the fields of its parts. -/
theorem captures?_merges {matcher : Matcher} {text : String} (h : matcher.isMatch text = true) :
    ∃ parts fields, matcher.parts? text = some parts ∧ matcher.captures? text = some fields ∧
      (parts.map Part.slot).Sublist matcher.slots ∧ (∀ part ∈ parts, part.text.toList <:+: text.toList) ∧
      Merges parts fields := by
  obtain ⟨fields, hfields⟩ := Option.isSome_iff_exists.mp h
  obtain ⟨saves, hsaves, hfieldsOf⟩ := Option.map_eq_some_iff.mp hfields
  refine ⟨partsOf text.toList.toArray saves matcher.slots, fields, ?_, hfields, partsOf_slots _ _ _, ?_, ?_⟩
  · unfold parts?
    simp only [hsaves, Option.map_some]
  · exact partsOf_infix
  · rw [← hfieldsOf, fieldsOf_eq]
    exact merges_ofPairs _

end Matcher

end LogPipeline.Grok
