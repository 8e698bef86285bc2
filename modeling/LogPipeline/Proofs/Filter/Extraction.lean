import LogPipeline.Filter.Grok
import LogPipeline.Proofs.Grok.Merging
import LogPipeline.Proofs.Result

/-!
# What extraction does to an event

The fields that a match yields are merged into those of the event: the values under names that are there change in
their places, the new names come behind. Nothing else changes, and nothing at all where there is no match.
-/

namespace LogPipeline

/-- The event after fields were merged into it. -/
structure Event.Absorbs (before : Event) (fields : Keyed Value) (after : Event) : Prop where
  raw : after.raw = before.raw
  tags : after.tags = before.tags
  keys : after.fields.keys = before.fields.keys ++ fields.keys.filter (· ∉ before.fields.keys)
  get? : ∀ name, after.get? name = (fields.get? name).or (before.get? name)

theorem Event.absorbs_insertAll (event : Event) {fields : Keyed Value} (h : fields.Distinct) :
    event.Absorbs fields { event with fields := event.fields.insertAll fields } where
  raw := rfl
  tags := rfl
  keys := Keyed.keys_insertAll_of_distinct h event.fields
  get? name := by
    have hreverse : Keyed.get? fields.reverse name = fields.get? name :=
      (Keyed.get?_eq_of_perm h (List.reverse_perm fields).symm name).symm
    exact (Keyed.get?_insertAll event.fields fields name).trans (by rw [hreverse]; rfl)

namespace Filter.Grok

open LogPipeline.Grok (Part Merges)

/-- Where a matcher matches a text, it captures fields, and they are what the parts of the match yield: one for each
name of a slot whose group took part. A filter with this matcher merges them into an event that has the text. An event
without a text, or with one that is not matched, comes as it is to the policy for failures. -/
theorem extract_merges (filter : Grok) :
    (∀ text, filter.matcher.isMatch text = true →
      ∃ parts fields, filter.matcher.parts? text = some parts ∧ filter.matcher.captures? text = some fields ∧
        (parts.map Part.slot).Sublist filter.matcher.slots ∧
        (∀ part ∈ parts, part.text.toList <:+: text.toList) ∧ Merges parts fields ∧
        ∀ event, filter.text? event = some text →
          ∃ after, filter.extract? event = some after ∧ event.Absorbs fields after) ∧
    ∀ event, (∀ text, filter.text? event = some text → filter.matcher.isMatch text = false) →
      filter.extract? event = none ∧ filter.process event = filter.onFailure.apply event filter.tag := by
  refine ⟨fun text hmatch => ?_, fun event hnone => ?_⟩
  · obtain ⟨parts, fields, hparts, hfields, hslots, htexts, hmerges⟩ := Grok.Matcher.captures?_merges hmatch
    refine ⟨parts, fields, hparts, hfields, hslots, htexts, hmerges, fun event htext => ?_⟩
    refine ⟨_, ?_, event.absorbs_insertAll hmerges.distinct⟩
    rw [extract?, htext, Option.bind_some, hfields, Option.map_some]
  · have hextract : filter.extract? event = none := by
      rw [extract?, Option.map_eq_none_iff, Option.bind_eq_none_iff]
      intro text htext
      exact Option.isNone_iff_eq_none.mp (Option.isSome_eq_false_iff.mp (hnone text htext))
    exact ⟨hextract, by rw [process, hextract]⟩

/-- Of two alternatives one takes part; its field is there already and keeps its place. -/
theorem extract_merges_of_alternatives :
    let event : Event := {
      fields := [("__", .text "old"), ("_", .bool true)]
      raw := some "7"
      tags := ["seen"] }
    ∃ filter, (build { pattern := "(?P<_>[a-z])|(?P<__>[0-9])", onFailure := .tag } { registry := .empty }).1 =
        .ok filter ∧ filter.matcher.isMatch "7" = true ∧ filter.text? event = some "7" ∧
      ∃ after, filter.extract? event = some after ∧ after.tags = ["seen"] ∧ after.fields.keys = ["__", "_"] ∧
        after.get? "__" = some (.text "7") ∧ after.get? "_" = some (.bool true) := by
  intro event
  have hbuild : (build { pattern := "(?P<_>[a-z])|(?P<__>[0-9])", onFailure := .tag }
      { registry := .empty }).1.toOption.any (fun filter => filter.source.isNone &&
        (filter.matcher.captures? "7").any fun fields =>
          fields.keys == ["__"] && (fields.get? "__").bind Value.asText? == some "7") = true := by decide +kernel
  obtain ⟨filter, hfilter, hcaptures⟩ := exists_ok hbuild
  obtain ⟨hsource, hcaptures⟩ := (Bool.and_eq_true _ _).mp hcaptures
  obtain ⟨fields, hfields, hvalues⟩ := (Option.any_eq_true _ _).mp hcaptures
  simp only [Bool.and_eq_true, beq_iff_eq] at hvalues
  obtain ⟨hkeys, hdigit⟩ := hvalues
  have hmatch : filter.matcher.isMatch "7" = true := by
    rw [Grok.Matcher.isMatch, hfields, Option.isSome_some]
  have htext : filter.text? event = some "7" := by
    rw [text?, Option.isNone_iff_eq_none.mp hsource]
  obtain ⟨parts, fields', -, hfields', -, -, -, hextract⟩ := (extract_merges filter).1 "7" hmatch
  obtain rfl : fields = fields' := Option.some.inj (hfields.symm.trans hfields')
  obtain ⟨after, hafter, habsorbs⟩ := hextract event htext
  refine ⟨filter, hfilter, hmatch, htext, after, hafter, habsorbs.tags, ?_, ?_, ?_⟩
  · rw [habsorbs.keys, hkeys]
    decide
  · obtain ⟨value, hvalue, hdigit⟩ := Option.bind_eq_some_iff.mp hdigit
    rw [habsorbs.get?, hvalue]
    cases value <;> cases hdigit
    rfl
  · have hnone : fields.get? "_" = none := Keyed.get?_eq_none_iff.mpr (by rw [hkeys]; decide)
    rw [habsorbs.get?, hnone]
    rfl

end Filter.Grok

end LogPipeline
