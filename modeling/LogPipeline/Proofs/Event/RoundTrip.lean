import LogPipeline.Event.Basic
import LogPipeline.Proofs.Json.Reading
import LogPipeline.Proofs.Keyed

/-!
# Reading events back

The JSON text of an event reads as one map: its fields, in order, and its tags, at the end or in the field
named like them. Floats and instants are left out: an instant is read as a text, and not every float is read as
the number it was.
-/

namespace LogPipeline

namespace Value

/-! ## Nested values -/

mutual
/-- A value and all values inside it meet a condition. -/
def All (p : Value → Prop) : Value → Prop
  | .list items => p (.list items) ∧ AllItems p items
  | .map entries => p (.map entries) ∧ AllEntries p entries
  | value => p value
def AllItems (p : Value → Prop) : List Value → Prop
  | [] => True
  | value :: rest => value.All p ∧ AllItems p rest
def AllEntries (p : Value → Prop) : List (String × Value) → Prop
  | [] => True
  | (_, value) :: rest => value.All p ∧ AllEntries p rest
end

mutual
/-- How many lists and maps lie inside each other. -/
def depth : Value → Nat
  | .list items => itemsDepth items + 1
  | .map entries => entriesDepth entries + 1
  | _ => 0
def itemsDepth : List Value → Nat
  | [] => 0
  | value :: rest => max value.depth (itemsDepth rest)
def entriesDepth : List (String × Value) → Nat
  | [] => 0
  | (_, value) :: rest => max value.depth (entriesDepth rest)
end

/-- Integers have 64 bits, and the names of a map differ. -/
def WellFormed : Value → Prop
  | .integer i => Number.fitsInteger i = true
  | .map entries => Keyed.Distinct entries
  | _ => True

/-- Neither a float nor an instant. -/
def Plain : Value → Prop
  | .float _ | .timestamp _ => False
  | _ => True

variable {p : Value → Prop} {value : Value} {items : List Value} {entries : Keyed Value} {n : Nat}

theorem allItems_iff : AllItems p items ↔ ∀ value ∈ items, value.All p := by
  induction items with
  | nil => simp [AllItems]
  | cons value rest ih => simp [AllItems, ih]

theorem allEntries_iff : AllEntries p entries ↔ ∀ entry ∈ entries, entry.2.All p := by
  induction entries with
  | nil => simp [AllEntries]
  | cons entry rest ih => simp [AllEntries, ih]

theorem itemsDepth_le_iff : itemsDepth items ≤ n ↔ ∀ value ∈ items, value.depth ≤ n := by
  induction items with
  | nil => simp [itemsDepth]
  | cons value rest ih => rw [itemsDepth, Nat.max_le, ih, List.forall_mem_cons]

theorem entriesDepth_le_iff : entriesDepth entries ≤ n ↔ ∀ entry ∈ entries, entry.2.depth ≤ n := by
  induction entries with
  | nil => simp [entriesDepth]
  | cons entry rest ih => rw [entriesDepth, Nat.max_le, ih, List.forall_mem_cons]

theorem docs_eq_map (items : List Value) : docs items = items.map toDoc := by
  induction items with
  | nil => rfl
  | cons value rest ih => rw [docs, ih, List.map_cons]

theorem namedDocs_eq_map (entries : Keyed Value) :
    namedDocs entries = entries.map fun entry => (entry.1, entry.2.toDoc) := by
  induction entries with
  | nil => rfl
  | cons entry rest ih => rw [namedDocs, ih, List.map_cons]

/-! ## Values as documents -/

mutual
theorem depth_toDoc : ∀ value : Value, value.toDoc.depth = value.depth
  | .bool _ | .integer _ | .float _ | .text _ | .timestamp _ => rfl
  | .list items => by rw [toDoc, Json.Doc.depth, depth, itemsDepth_docs items]
  | .map entries => by rw [toDoc, Json.Doc.depth, depth, entriesDepth_namedDocs entries]
theorem itemsDepth_docs : ∀ items : List Value, Json.Doc.itemsDepth (docs items) = itemsDepth items
  | [] => rfl
  | value :: rest => by rw [docs, Json.Doc.itemsDepth, itemsDepth, depth_toDoc value, itemsDepth_docs rest]
theorem entriesDepth_namedDocs : ∀ entries : List (String × Value),
    Json.Doc.entriesDepth (namedDocs entries) = entriesDepth entries
  | [] => rfl
  | (_, value) :: rest => by
    rw [namedDocs, Json.Doc.entriesDepth, entriesDepth, depth_toDoc value, entriesDepth_namedDocs rest]
end

mutual
theorem exact_toDoc : ∀ value : Value, value.All WellFormed → value.All Plain → value.toDoc.Exact
  | .bool _, _, _ | .text _, _, _ => trivial
  | .integer i, hw, _ => by
    simp only [All, WellFormed, Number.fitsInteger, Bool.and_eq_true, decide_eq_true_eq] at hw
    have hword : Number.greatestInteger ≤ Json.largestWord := by decide
    exact ⟨hw.1, Int.le_trans hw.2 hword⟩
  | .float _, _, hp | .timestamp _, _, hp => hp.elim
  | .list items, hw, hp => itemsExact_docs items hw.2 hp.2
  | .map entries, hw, hp => entriesExact_namedDocs entries hw.2 hp.2
theorem itemsExact_docs : ∀ items : List Value, AllItems WellFormed items → AllItems Plain items →
    Json.Doc.ItemsExact (docs items)
  | [], _, _ => trivial
  | value :: rest, hw, hp => ⟨exact_toDoc value hw.1 hp.1, itemsExact_docs rest hw.2 hp.2⟩
theorem entriesExact_namedDocs : ∀ entries : List (String × Value), AllEntries WellFormed entries →
    AllEntries Plain entries → Json.Doc.EntriesExact (namedDocs entries)
  | [], _, _ => trivial
  | (_, value) :: rest, hw, hp => ⟨exact_toDoc value hw.1 hp.1, entriesExact_namedDocs rest hw.2 hp.2⟩
end

mutual
theorem ofDoc?_toDoc : ∀ value : Value, value.All WellFormed → value.All Plain →
    ofDoc? value.toDoc = some value
  | .bool _, _, _ | .text _, _, _ => rfl
  | .integer i, hw, _ => by
    rw [toDoc, ofDoc?, if_pos (show Number.fitsInteger i = true from hw)]
  | .float _, _, hp | .timestamp _, _, hp => hp.elim
  | .list items, hw, hp => by
    rw [toDoc, ofDoc?, ofDocs?_docs items hw.2 hp.2]
    rfl
  | .map entries, hw, hp => by
    rw [toDoc, ofDoc?, ofNamedDocs?_namedDocs entries hw.2 hp.2, Option.map_some,
      Keyed.ofPairs_of_distinct hw.1]
theorem ofDocs?_docs : ∀ items : List Value, AllItems WellFormed items → AllItems Plain items →
    ofDocs? (docs items) = some items
  | [], _, _ => rfl
  | value :: rest, hw, hp => by
    rw [docs, ofDocs?, ofDoc?_toDoc value hw.1 hp.1, ofDocs?_docs rest hw.2 hp.2]
    rfl
theorem ofNamedDocs?_namedDocs : ∀ entries : List (String × Value), AllEntries WellFormed entries →
    AllEntries Plain entries → ofNamedDocs? (namedDocs entries) = some entries
  | [], _, _ => rfl
  | (_, value) :: rest, hw, hp => by
    rw [namedDocs, ofNamedDocs?, ofDoc?_toDoc value hw.1 hp.1, ofNamedDocs?_namedDocs rest hw.2 hp.2]
    rfl
end

/-- A value that does not nest too deep is read back from its JSON text. -/
theorem ofDoc?_parse (hw : value.All WellFormed) (hp : value.All Plain) (hd : value.depth ≤ Json.depthLimit) :
    (Json.parse value.toDoc.compact).bind ofDoc? = some value := by
  rw [Json.parse, Json.parseWithin_compact (exact_toDoc value hw hp) (depth_toDoc value ▸ hd)]
  exact ofDoc?_toDoc value hw hp

/-- What a value adds to a list: its items if it is a list, and itself otherwise. -/
def asItems : Value → List Value
  | .list items => items
  | value => [value]

end Value

namespace Event

open Value (All Plain WellFormed)

variable {event : Event} {p : Value → Prop} {entry : String × Value} {value : Value} {n : Nat}

theorem withTags_eq (value : Value) (tags : List String) :
    withTags value tags = .list (value.asItems ++ tags.map .text) := by
  cases value <;> rfl

/-- What stands under a name in the JSON object of an event, given the field of that name. -/
def shown (event : Event) (name : String) (value : Value) : Value :=
  if name = tagsField ∧ event.tags ≠ [] then withTags value event.tags else value

/-- The entries of the JSON object of an event. -/
def entries (event : Event) : Keyed Value :=
  let fields : Keyed Value := event.fields.map fun field => (field.1, event.shown field.1 field.2)
  if event.tags = [] ∨ event.contains tagsField then fields
  else fields ++ [(tagsField, .list (event.tags.map .text))]

theorem toDoc_eq (event : Event) : event.toDoc = (Value.map event.entries).toDoc := by
  unfold toDoc entries shown
  rw [Value.toDoc, Value.namedDocs_eq_map]
  split <;> simp [Value.toDoc, Value.docs_eq_map]

theorem keys_entries (event : Event) : event.entries.keys =
    if event.tags = [] ∨ event.contains tagsField then event.fields.keys
    else event.fields.keys ++ [tagsField] := by
  unfold entries
  split <;> simp [Keyed.keys]

theorem distinct_entries (h : event.fields.Distinct) : event.entries.Distinct := by
  unfold Keyed.Distinct
  rw [keys_entries]
  split
  · exact h
  · rename_i hnew
    have hnew : tagsField ∉ event.fields.keys := fun hm => hnew (.inr (Keyed.contains_iff_mem_keys.mpr hm))
    refine List.nodup_append.mpr ⟨h, by simp, ?_⟩
    rintro name hn _ ht rfl
    exact hnew (List.mem_singleton.mp ht ▸ hn)

theorem get?_entries (event : Event) (name : String) : event.entries.get? name =
    match event.get? name with
    | some value => some (event.shown name value)
    | none => if name = tagsField ∧ event.tags ≠ [] then some (.list (event.tags.map .text)) else none := by
  have hfields : Keyed.get? (event.fields.map fun field => (field.1, event.shown field.1 field.2)) name =
      (event.get? name).map (event.shown name) := Keyed.get?_map _ _ _
  have hcontains : event.contains tagsField = (event.get? tagsField).isSome := rfl
  unfold entries
  split
  · rename_i h
    rw [hfields]
    cases hg : event.get? name with
    | some value => rfl
    | none =>
      rw [if_neg]
      · rfl
      · rintro ⟨rfl, ht⟩
        simp [hcontains, hg, ht] at h
  · rename_i h
    rw [Keyed.get?_append, hfields]
    cases hg : event.get? name with
    | some value => rfl
    | none =>
      have ht : event.tags ≠ [] := fun ht => h (.inl ht)
      by_cases hn : name = tagsField
      · subst hn
        simp [Keyed.get?, ht]
      · simp [Keyed.get?, hn, Ne.symm hn]

theorem get?_entries_of_ne {field : String} (h : field ≠ tagsField) :
    event.entries.get? field = event.get? field := by
  rw [get?_entries]
  cases event.get? field <;> simp [shown, h]

/-- Under the name of the tags stand the items of the field of that name, and then the tags. -/
theorem get?_entries_tags (event : Event) : event.entries.get? tagsField =
    if event.tags = [] then event.get? tagsField
    else some (.list ((event.get? tagsField).toList.flatMap Value.asItems ++ event.tags.map .text)) := by
  rw [get?_entries]
  by_cases ht : event.tags = []
  · cases event.get? tagsField <;> simp [shown, ht]
  · cases event.get? tagsField <;> simp [shown, ht, withTags_eq]

theorem mem_entries (h : entry ∈ event.entries) :
    (∃ field ∈ event.fields, entry.2 = field.2 ∨ entry.2 = withTags field.2 event.tags) ∨
      entry.2 = .list (event.tags.map .text) := by
  have hfields (h : entry ∈ event.fields.map fun field => (field.1, event.shown field.1 field.2)) :
      ∃ field ∈ event.fields, entry.2 = field.2 ∨ entry.2 = withTags field.2 event.tags := by
    obtain ⟨field, hm, rfl⟩ := List.mem_map.mp h
    refine ⟨field, hm, ?_⟩
    unfold shown
    split
    · exact .inr rfl
    · exact .inl rfl
  unfold entries at h
  split at h
  · exact .inl (hfields h)
  · rcases List.mem_append.mp h with h | h
    · exact .inl (hfields h)
    · exact .inr (congrArg Prod.snd (List.mem_singleton.mp h))

theorem all_asItems (h : value.All p) : ∀ item ∈ value.asItems, item.All p := by
  cases value with
  | list items => exact Value.allItems_iff.mp h.2
  | _ => simpa [Value.asItems] using h

theorem depth_asItems (value : Value) : ∀ item ∈ value.asItems, item.depth ≤ value.depth := by
  cases value with
  | list items =>
    intro item hm
    exact Nat.le_succ_of_le (Value.itemsDepth_le_iff.mp (Nat.le_refl _) item hm)
  | _ => simp [Value.asItems]

/-- A condition that holds of every list and every text holds of all entries if it holds of all fields. -/
theorem all_entries (hl : ∀ items, p (.list items)) (ht : ∀ s, p (.text s))
    (h : ∀ field ∈ event.fields, field.2.All p) : ∀ entry ∈ event.entries, entry.2.All p := by
  have htags : ∀ item ∈ event.tags.map Value.text, item.All p := by
    intro item hm
    obtain ⟨tag, -, rfl⟩ := List.mem_map.mp hm
    exact ht tag
  intro entry hm
  rcases mem_entries hm with ⟨field, hf, heq | heq⟩ | heq
  · exact heq ▸ h field hf
  · rw [heq, withTags_eq]
    refine ⟨hl _, Value.allItems_iff.mpr fun item hi => ?_⟩
    rcases List.mem_append.mp hi with hi | hi
    · exact all_asItems (h field hf) item hi
    · exact htags item hi
  · rw [heq]
    exact ⟨hl _, Value.allItems_iff.mpr htags⟩

theorem depth_entries (h : ∀ field ∈ event.fields, field.2.depth ≤ n) :
    ∀ entry ∈ event.entries, entry.2.depth ≤ n + 1 := by
  have htags : ∀ item ∈ event.tags.map Value.text, item.depth ≤ n := by
    intro item hm
    obtain ⟨tag, -, rfl⟩ := List.mem_map.mp hm
    exact Nat.zero_le n
  intro entry hm
  rcases mem_entries hm with ⟨field, hf, heq | heq⟩ | heq
  · exact heq ▸ Nat.le_succ_of_le (h field hf)
  · rw [heq, withTags_eq]
    refine Nat.succ_le_succ (Value.itemsDepth_le_iff.mpr fun item hi => ?_)
    rcases List.mem_append.mp hi with hi | hi
    · exact Nat.le_trans (depth_asItems field.2 item hi) (h field hf)
    · exact htags item hi
  · rw [heq]
    exact Nat.succ_le_succ (Value.itemsDepth_le_iff.mpr htags)

theorem parse_entries (hf : event.fields.Distinct) (hw : ∀ field ∈ event.fields, field.2.All WellFormed)
    (hp : ∀ field ∈ event.fields, field.2.All Plain) (hd : ∀ field ∈ event.fields, field.2.depth ≤ 100) :
    (Json.parse event.toJson).bind Value.ofDoc? = some (.map event.entries) := by
  rw [toJson, toDoc_eq]
  refine Value.ofDoc?_parse ⟨distinct_entries hf, ?_⟩ ⟨trivial, ?_⟩ ?_
  · exact Value.allEntries_iff.mpr (all_entries (fun _ => trivial) (fun _ => trivial) hw)
  · exact Value.allEntries_iff.mpr (all_entries (fun _ => trivial) (fun _ => trivial) hp)
  · have hentries : Value.entriesDepth event.entries ≤ 101 :=
      Value.entriesDepth_le_iff.mpr (depth_entries hd)
    rw [Value.depth, Json.depthLimit]
    omega

/-- The JSON text of an event without floats and instants, of which no value nests deeper than 100 levels, reads as
a map. Its names are those of the fields, in order, and behind them that of the tags, if there are tags and no
field has this name. Under the name of the tags stand the items of the field of that name and then the tags,
if there are any; under every other name stands the value of the field. -/
theorem parse_toJson (hf : event.fields.Distinct) (hw : ∀ field ∈ event.fields, field.2.All WellFormed)
    (hp : ∀ field ∈ event.fields, field.2.All Plain) (hd : ∀ field ∈ event.fields, field.2.depth ≤ 100) :
    ∃ entries : Keyed Value, (Json.parse event.toJson).bind Value.ofDoc? = some (.map entries) ∧
      entries.keys = event.fields.keys ++
        (if event.tags ≠ [] ∧ tagsField ∉ event.fields.keys then [tagsField] else []) ∧
      entries.Distinct ∧
      (∀ field ≠ tagsField, entries.get? field = event.get? field) ∧
      entries.get? tagsField = if event.tags = [] then event.get? tagsField
        else some (.list ((event.get? tagsField).toList.flatMap Value.asItems ++ event.tags.map .text)) := by
  refine ⟨event.entries, parse_entries hf hw hp hd, ?_, distinct_entries hf,
    fun _ => get?_entries_of_ne, get?_entries_tags event⟩
  have hcontains : event.contains tagsField = true ↔ tagsField ∈ event.fields.keys :=
    Keyed.contains_iff_mem_keys
  rw [keys_entries]
  by_cases ht : event.tags = [] <;> by_cases hm : tagsField ∈ event.fields.keys <;>
    simp [ht, hm, hcontains]

/-- An event with the least integer, characters that are escaped, empty and nested values, and tags besides a field
named like them. -/
theorem parse_toJson_of_nested :
    let event : Event := {
      fields := [("a\n\"b", .integer Number.leastInteger), ("tags", .text "own"),
        ("deep", .list [.map [("k", .bool true), ("", .list [])], .text "\x00"])]
      tags := ["seen", ""] }
    event.fields.Distinct ∧ (∀ field ∈ event.fields, field.2.All WellFormed) ∧
      (∀ field ∈ event.fields, field.2.All Plain) ∧ (∀ field ∈ event.fields, field.2.depth ≤ 100) ∧
      ∃ entries : Keyed Value, (Json.parse event.toJson).bind Value.ofDoc? = some (.map entries) ∧
        entries.keys = ["a\n\"b", "tags", "deep"] ∧
        entries.get? "a\n\"b" = some (.integer Number.leastInteger) ∧
        entries.get? "tags" = some (.list [.text "own", .text "seen", .text ""]) := by
  intro event
  have hf : event.fields.Distinct := by decide
  have hw : ∀ field ∈ event.fields, field.2.All WellFormed := by
    simp [event, Value.All, Value.AllItems, Value.AllEntries, WellFormed, Number.fitsInteger,
      Number.leastInteger, Number.greatestInteger]
  have hp : ∀ field ∈ event.fields, field.2.All Plain := by
    simp [event, Value.All, Value.AllItems, Value.AllEntries, Plain]
  have hd : ∀ field ∈ event.fields, field.2.depth ≤ 100 := by
    simp [event, Value.depth, Value.itemsDepth, Value.entriesDepth]
  obtain ⟨entries, hparse, hkeys, -, hget, htags⟩ := parse_toJson hf hw hp hd
  exact ⟨hf, hw, hp, hd, entries, hparse, hkeys, hget _ (by decide), htags⟩

end Event

end LogPipeline
