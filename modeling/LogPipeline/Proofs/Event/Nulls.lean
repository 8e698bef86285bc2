import LogPipeline.Proofs.Event.RoundTrip
import LogPipeline.Proofs.Json.Grammar

/-!
# Values without a JSON form

What is not a finite number has no number in JSON, and `null` is written in its place. No other value is written so,
and what is written for an event has a `null` in it exactly if a field has one.
-/

namespace LogPipeline

open Text (isDigit)

theorem Json.IsNumber.head {cs : List Char} (h : Json.IsNumber cs) :
    ∃ c, cs.head? = some c ∧ (isDigit c = true ∨ c = '-') := by
  obtain ⟨hs, hw, -, -⟩ := h
  obtain ⟨c, rest, rfl⟩ := List.exists_cons_of_ne_nil hw.1.1
  rcases hs with rfl | rfl
  · exact ⟨c, rfl, .inl (hw.1.2 c List.mem_cons_self)⟩
  · exact ⟨'-', rfl, .inr rfl⟩

theorem Json.IsNumber.head_ne {cs : List Char} (h : Json.IsNumber cs) : cs.head? ≠ some 'n' := by
  obtain ⟨c, hhead, hc⟩ := h.head
  rw [hhead]
  rintro ⟨⟩
  exact absurd hc (by decide)

namespace Value

variable {value : Value}

theorem All.self {p : Value → Prop} (h : value.All p) : p value := by
  cases value with
  | list items => exact h.1
  | map entries => exact h.1
  | _ => exact h

/-- Something other than `null` is written for the value. -/
def Nonnull (value : Value) : Prop := value.toDoc.compact ≠ "null"

theorem render_head_ne (h : ∀ x, value = .float x → x.isFinite = true) : value.toDoc.render.head? ≠ some 'n' := by
  cases value with
  | bool b => cases b <;> nofun
  | integer i => exact (Json.isNumber_integerText i).head_ne
  | float x => exact (Json.isNumber_jsonText (h x rfl)).head_ne
  | text s => exact (show some '"' ≠ some 'n' by decide)
  | timestamp instant => exact (show some '"' ≠ some 'n' by decide)
  | list items => exact (show some '[' ≠ some 'n' by decide)
  | map entries => exact (show some '{' ≠ some 'n' by decide)

theorem nonnull_iff : value.Nonnull ↔ ∀ x, value = .float x → x.isFinite = true := by
  constructor
  · rintro h x rfl
    cases x with
    | nan => simp [Nonnull, toDoc, Json.Doc.compact, Json.Doc.render, Binary64.jsonText] at h
    | infinite negative => simp [Nonnull, toDoc, Json.Doc.compact, Json.Doc.render, Binary64.jsonText] at h
    | finite => rfl
  · intro h heq
    have hrender : value.toDoc.render = "null".toList :=
      (String.toList_ofList).symm.trans (congrArg String.toList heq)
    exact render_head_ne h (by rw [hrender]; rfl)

theorem nonnull_text (s : String) : Nonnull (.text s) := nonnull_iff.mpr (by simp)

theorem nonnull_list (items : List Value) : Nonnull (.list items) := nonnull_iff.mpr (by simp)

end Value

namespace Event

open Value (Nonnull)

variable {event : Event}

theorem all_of_asItems {p : Value → Prop} {value : Value} (hl : ∀ items, p (.list items))
    (h : ∀ item ∈ value.asItems, item.All p) : value.All p := by
  cases value with
  | list items => exact ⟨hl items, Value.allItems_iff.mpr h⟩
  | _ => exact h _ (List.mem_singleton_self _)

/-- A `null` in what is written for an event comes from a field. -/
theorem nonnull_entries_iff :
    (∀ entry ∈ event.entries, entry.2.All Nonnull) ↔ ∀ field ∈ event.fields, field.2.All Nonnull := by
  refine ⟨fun h field hm => ?_, all_entries Value.nonnull_list Value.nonnull_text⟩
  have hentry : (field.1, event.shown field.1 field.2) ∈ event.entries := by
    have hfield := List.mem_map_of_mem (f := fun field => (field.1, event.shown field.1 field.2)) hm
    unfold entries
    split
    · exact hfield
    · exact List.mem_append_left _ hfield
  have hshown := h _ hentry
  simp only [shown] at hshown
  split at hshown
  · -- the value, or its items, are in front of the tags
    rw [withTags_eq] at hshown
    exact all_of_asItems Value.nonnull_list fun item hi => Value.allItems_iff.mp hshown.2 item (List.mem_append_left _ hi)
  · exact hshown

end Event

end LogPipeline
