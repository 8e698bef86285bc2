import LogPipeline.Proofs.Filter.Normalize
import LogPipeline.Proofs.Json.Reading
import LogPipeline.Proofs.Time.Epochs
import LogPipeline.Proofs.Time.Rendering

/-!
# Dates of events

What a date filter puts into an event depends on the text of its field alone, unless the field holds an instant. So
a number gives the same as its text, and an instant that was written as a text is restored by a filter that reads
ISO 8601.
-/

namespace LogPipeline.Filter

open Time (Instant Zone Layout nanosPerSecond)

variable {filter : Date} {value : Value} {instant : Instant}

namespace Date

/-! ## Whole numbers -/

/-- A whole number of seconds or milliseconds after the beginning of 1970 is read as that instant, whatever its
size, if it lies in the years of timestamps, and not read otherwise. An event gets the same from a field that holds
the number and from one that holds its text. -/
theorem read_integer_iff (n : Int) (currentYear : Int) (zone : Zone) :
    (∀ instant, Layout.unix.read? currentYear zone (Value.integer n).display = some instant ↔
        instant.IsRepresentable ∧ instant.nanos < nanosPerSecond ∧ instant.sinceEpoch = n * 1000000000) ∧
      (∀ instant, Layout.unixMillis.read? currentYear zone (Value.integer n).display = some instant ↔
        instant.IsRepresentable ∧ instant.nanos < nanosPerSecond ∧ instant.sinceEpoch = n * 1000000) ∧
      ∀ (filter : Date) (event : Event), ∀ value ∈ [Value.integer n, .text (Value.integer n).display],
        filter.normalize currentYear (event.insert filter.field value) =
          (filter.read currentYear (Value.integer n).display).map fun instant =>
            (event.insert filter.field value).insert filter.target (.timestamp instant) := by
  refine ⟨fun instant => ?_, fun instant => ?_, fun filter event value hv => ?_⟩
  · have hzero : 0 < nanosPerSecond := by decide
    rw [Value.display, Layout.unix_integerText, Instant.ofUnix?_eq_some_iff hzero, Nat.cast_zero, add_zero]
  · have hless : (n % 1000).toNat * 1000000 < nanosPerSecond := by
      unfold nanosPerSecond
      omega
    have htotal : n / 1000 * 1000000000 + ((n % 1000).toNat * 1000000 : Nat) = n * 1000000 := by omega
    rw [Value.display, Layout.unixMillis_integerText, Instant.ofUnix?_eq_some_iff hless, htotal]
  · simp only [List.mem_cons, List.not_mem_nil, or_false] at hv
    rcases hv with rfl | rfl
    · exact filter.normalize_insert currentYear event rfl
    · exact filter.normalize_insert currentYear event rfl

/-! ## Instants -/

theorem escapeChar_instant {c : Char} (h : c ∈ instant.text.toList) : Json.escapeChar c = [c] := by
  rcases Instant.mem_text c h with hdigit | hmark
  · have hbounds : 48 ≤ c.toNat ∧ c.toNat ≤ 57 := by simpa [Text.isDigit] using hdigit
    refine Json.escapeChar_of_plain ?_ ?_ (by omega)
    · rintro rfl
      cases hdigit
    · rintro rfl
      cases hdigit
  · simp only [Time.marks, List.mem_cons, List.not_mem_nil, or_false] at hmark
    rcases hmark with rfl | rfl | rfl | rfl | rfl | rfl <;> decide

theorem trim_instant (instant : Instant) : Text.trim instant.text.toList = instant.text.toList := by
  refine Text.trim_eq_self fun c hc => ?_
  rcases Instant.mem_text c hc with hdigit | hmark
  · exact Text.isBlank_of_isDigit hdigit
  · simp only [Time.marks, List.mem_cons, List.not_mem_nil, or_false] at hmark
    rcases hmark with rfl | rfl | rfl | rfl | rfl | rfl <;> decide

/-- An instant outside of a leap second is read back from its text by ISO 8601, in whatever zone. Its JSON is that
text in quotes; read as a value, this is the text, and every filter of which no layout before ISO 8601 takes the text
gets the instant back from it. -/
theorem timestamp_restored (hr : instant.IsRepresentable) (hl : instant.nanos < nanosPerSecond) (currentYear : Int)
    (zone : Zone) :
    Layout.iso8601.read? currentYear zone (Value.timestamp instant).display = some instant ∧
      (Value.timestamp instant).toDoc.compact = "\"" ++ (Value.timestamp instant).display ++ "\"" ∧
      (Json.parse (Value.timestamp instant).toDoc.compact).bind Value.ofDoc? =
        some (.text (Value.timestamp instant).display) ∧
      ∀ (filter : Date) (event : Event) (earlier later : List Layout),
        filter.layouts = earlier ++ .iso8601 :: later →
        (∀ layout ∈ earlier, layout.read? currentYear filter.zone (Value.timestamp instant).display = none) →
        let read := event.insert filter.field (.text (Value.timestamp instant).display)
        filter.normalize currentYear read = .ok (read.insert filter.target (.timestamp instant)) := by
  have hread (zone : Zone) : Layout.iso8601.read? currentYear zone instant.text = some instant := by
    rw [Layout.read?, trim_instant]
    exact Instant.readIso8601?_text hr hl
  refine ⟨hread zone, ?_, ?_, fun filter event earlier later hf he => ?_⟩
  · have hquote : Json.quote instant.text = '"' :: instant.text.toList ++ ['"'] :=
      Json.quote_of_plain fun c hc => escapeChar_instant hc
    show String.ofList (Json.quote instant.text) = "\"" ++ instant.text ++ "\""
    rw [hquote, ← String.toList_inj]
    simp
  · have hparse := @Json.parseWithin_compact (.text instant.text) Json.depthLimit trivial (Nat.zero_le _)
    rw [Value.toDoc, Json.parse, hparse]
    rfl
  · have hgets : filter.read currentYear instant.text = .ok instant := read_append hf he (hread filter.zone)
    intro read
    rw [filter.normalize_insert currentYear event rfl, Value.display, Value.display, hgets]
    rfl

/-- An instant of a year before 0, read by a filter that tries seconds first. -/
theorem timestamp_restored_of_negative_year :
    let instant : Instant := ⟨-100000000000, 500⟩
    let filter : Date := ⟨"seen", "when", [.unix, .iso8601], .utc, .tag, "_dateparsefailure"⟩
    let read : Event := Event.insert {} "seen" (.text "-1199-02-15T14:13:20.000000500Z")
    instant.IsRepresentable ∧ instant.nanos < nanosPerSecond ∧
      (Value.timestamp instant).display = "-1199-02-15T14:13:20.000000500Z" ∧
      Layout.iso8601.read? 2026 .utc "-1199-02-15T14:13:20.000000500Z" = some instant ∧
      (Value.timestamp instant).toDoc.compact = "\"-1199-02-15T14:13:20.000000500Z\"" ∧
      filter.normalize 2026 read = .ok (read.insert "when" (.timestamp instant)) := by
  intro instant filter read
  have hr : instant.IsRepresentable := by decide
  have hl : instant.nanos < nanosPerSecond := by decide
  have htext : (Value.timestamp instant).display = "-1199-02-15T14:13:20.000000500Z" := by decide +kernel
  have hunix : Layout.unix.read? 2026 .utc "-1199-02-15T14:13:20.000000500Z" = none := by decide +kernel
  obtain ⟨hread, hjson, -, hrestored⟩ := timestamp_restored hr hl 2026 .utc
  rw [htext] at hread hjson hrestored
  refine ⟨hr, hl, htext, hread, hjson, hrestored filter {} [.unix] [] rfl fun layout hm => ?_⟩
  rw [List.mem_singleton.mp hm]
  exact hunix

end Date

end LogPipeline.Filter
