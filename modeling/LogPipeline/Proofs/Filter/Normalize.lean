import LogPipeline.Filter.Date
import LogPipeline.Proofs.Filter.Frame

/-!
# Normalized fields

A date filter takes an instant from the value of its field, the value itself or what the first layout that accepts
its text reads, and puts it under its target. This is all it changes, and where there is no instant only the failure
policy acts. Whatever it lets through it lets through unchanged the second time.
-/

namespace LogPipeline.Filter

open Time (Instant Zone Layout)

variable {filter : Date} {currentYear : Int} {event after : Event} {value : Value} {text : String} {instant : Instant}
  {layout : Layout} {earlier later : List Layout} {e : ProcessingError}

namespace Date

/-! ## The first layout -/

/-- The first layout that accepts a text decides. -/
theorem parseFrom_append (he : ∀ layout ∈ earlier, layout.read? currentYear filter.zone text = none)
    (hl : layout.read? currentYear filter.zone text = some instant) (index : Nat) (later : List Layout) :
    filter.parseFrom currentYear text index (earlier ++ layout :: later) = some (index + earlier.length, instant) := by
  induction earlier generalizing index with
  | nil => simp [parseFrom, hl]
  | cons first earlier ih =>
    rw [List.cons_append, parseFrom, he first List.mem_cons_self]
    simp only
    rw [ih fun layout h => he layout (List.mem_cons_of_mem _ h), List.length_cons]
    congr 2
    omega

/-- No layout accepts a text, or there is a first one. -/
theorem parseFrom_cases (filter : Date) (currentYear : Int) (text : String) (index : Nat) (layouts : List Layout) :
    (filter.parseFrom currentYear text index layouts = none ∧
      ∀ layout ∈ layouts, layout.read? currentYear filter.zone text = none) ∨
    ∃ earlier layout later instant, layouts = earlier ++ layout :: later ∧
      (∀ layout ∈ earlier, layout.read? currentYear filter.zone text = none) ∧
      layout.read? currentYear filter.zone text = some instant := by
  induction layouts generalizing index with
  | nil => exact .inl ⟨rfl, nofun⟩
  | cons first rest ih =>
    cases hfirst : first.read? currentYear filter.zone text with
    | some instant => exact .inr ⟨[], first, rest, instant, rfl, nofun, hfirst⟩
    | none =>
      rcases ih (index + 1) with ⟨hnone, hrest⟩ | ⟨earlier, layout, later, instant, rfl, hearlier, hlayout⟩
      · exact .inl ⟨by rw [parseFrom, hfirst, hnone], List.forall_mem_cons.mpr ⟨hfirst, hrest⟩⟩
      · exact .inr ⟨first :: earlier, layout, later, instant, rfl,
          List.forall_mem_cons.mpr ⟨hfirst, hearlier⟩, hlayout⟩

/-- The instant of a text, or why there is none. -/
def read (filter : Date) (currentYear : Int) (text : String) : Except ProcessingError Instant :=
  match filter.parse? currentYear text with
  | some (_, instant) => .ok instant
  | none => .error (.noMatchingLayout filter.field text)

theorem read_append (hf : filter.layouts = earlier ++ layout :: later)
    (he : ∀ layout ∈ earlier, layout.read? currentYear filter.zone text = none)
    (hl : layout.read? currentYear filter.zone text = some instant) : filter.read currentYear text = .ok instant := by
  rw [read, parse?, hf, parseFrom_append he hl]

theorem read_of_none (h : ∀ layout ∈ filter.layouts, layout.read? currentYear filter.zone text = none) :
    filter.read currentYear text = .error (.noMatchingLayout filter.field text) := by
  rcases filter.parseFrom_cases currentYear text 0 filter.layouts with
    ⟨hnone, -⟩ | ⟨_, layout, _, instant, hf, -, hl⟩
  · rw [read, parse?, hnone]
  · rw [h layout (by simp [hf])] at hl
    cases hl

/-- Whether an instant is what the first layout that accepts a text reads from it. -/
def FirstReads (filter : Date) (currentYear : Int) (text : String) (instant : Instant) : Prop :=
  ∃ earlier layout later, filter.layouts = earlier ++ layout :: later ∧
    (∀ layout ∈ earlier, layout.read? currentYear filter.zone text = none) ∧
    layout.read? currentYear filter.zone text = some instant

theorem read_cases (filter : Date) (currentYear : Int) (text : String) :
    (∃ instant, filter.read currentYear text = .ok instant ∧ filter.FirstReads currentYear text instant) ∨
    (filter.read currentYear text = .error (.noMatchingLayout filter.field text) ∧
      ∀ layout ∈ filter.layouts, layout.read? currentYear filter.zone text = none) := by
  rcases filter.parseFrom_cases currentYear text 0 filter.layouts with
    ⟨-, hnone⟩ | ⟨earlier, layout, later, instant, hf, he, hl⟩
  · exact .inr ⟨read_of_none hnone, hnone⟩
  · exact .inl ⟨instant, read_append hf he hl, earlier, layout, later, hf, he, hl⟩

theorem read_eq_ok_iff : filter.read currentYear text = .ok instant ↔ filter.FirstReads currentYear text instant := by
  constructor
  · intro h
    rcases filter.read_cases currentYear text with ⟨_, hread, hfirst⟩ | ⟨hread, -⟩
    · cases hread.symm.trans h
      exact hfirst
    · cases hread.symm.trans h
  · rintro ⟨earlier, layout, later, hf, he, hl⟩
    exact read_append hf he hl

theorem read_eq_error_iff : filter.read currentYear text = .error e ↔
    e = .noMatchingLayout filter.field text ∧
      ∀ layout ∈ filter.layouts, layout.read? currentYear filter.zone text = none := by
  constructor
  · intro h
    rcases filter.read_cases currentYear text with ⟨_, hread, -⟩ | ⟨hread, hnone⟩
    · cases hread.symm.trans h
    · cases hread.symm.trans h
      exact ⟨rfl, hnone⟩
  · rintro ⟨rfl, hnone⟩
    exact read_of_none hnone

/-- Layouts that come later leave what is read. -/
theorem FirstReads.append (h : filter.FirstReads currentYear text instant) (more : List Layout) :
    { filter with layouts := filter.layouts ++ more }.FirstReads currentYear text instant := by
  obtain ⟨earlier, layout, later, hf, he, hl⟩ := h
  exact ⟨earlier, layout, later ++ more, by simp [hf], he, hl⟩

/-! ## The instant of an event -/

/-- The instant of a value, or why there is none. -/
def instantOf (filter : Date) (currentYear : Int) (value : Value) : Except ProcessingError Instant :=
  match value.asTimestamp? with
  | some instant => .ok instant
  | none => filter.read currentYear value.display

/-- What an event gets is the instant of the value of its field. -/
theorem normalize_of_get? (h : event.get? filter.field = some value) (currentYear : Int) :
    filter.normalize currentYear event =
      (filter.instantOf currentYear value).map fun instant => event.insert filter.target (.timestamp instant) := by
  have hread (value : Value) :
      (match filter.parse? currentYear value.display with
        | some (_, instant) => .ok (event.insert filter.target (.timestamp instant))
        | none => .error (.noMatchingLayout filter.field value.display)) =
      (filter.read currentYear value.display).map fun instant =>
        event.insert filter.target (.timestamp instant) := by
    unfold read
    cases filter.parse? currentYear value.display <;> rfl
  unfold normalize
  rw [h]
  cases value with
  | timestamp instant => rfl
  | _ => exact hread _

theorem normalize_of_absent (h : event.get? filter.field = none) (currentYear : Int) :
    filter.normalize currentYear event = .error (.fieldMissing filter.field) := by
  rw [normalize, h]

/-- What an event gets depends on the text of its field, unless the field holds an instant. -/
theorem normalize_insert (filter : Date) (currentYear : Int) (event : Event) (hv : value.asTimestamp? = none) :
    filter.normalize currentYear (event.insert filter.field value) =
      (filter.read currentYear value.display).map fun instant =>
        (event.insert filter.field value).insert filter.target (.timestamp instant) := by
  rw [normalize_of_get? (event.get?_insert_self filter.field value), instantOf, hv]

theorem asTimestamp?_eq_some_iff : value.asTimestamp? = some instant ↔ value = .timestamp instant := by
  cases value <;> simp [Value.asTimestamp?]

theorem instantOf_eq_ok_iff : filter.instantOf currentYear value = .ok instant ↔
    value = .timestamp instant ∨ (value.asTimestamp? = none ∧ filter.FirstReads currentYear value.display instant) := by
  unfold instantOf
  cases hv : value.asTimestamp? with
  | some own => simp [← asTimestamp?_eq_some_iff, hv]
  | none => simp [← asTimestamp?_eq_some_iff, hv, read_eq_ok_iff]

theorem instantOf_eq_error_iff : filter.instantOf currentYear value = .error e ↔
    value.asTimestamp? = none ∧ e = .noMatchingLayout filter.field value.display ∧
      ∀ layout ∈ filter.layouts, layout.read? currentYear filter.zone value.display = none := by
  unfold instantOf
  cases hv : value.asTimestamp? with
  | some own => simp
  | none => simp [read_eq_error_iff]

/-- Whether a filter finds an instant in an event: it is in the field itself, or read from the text of the field. -/
def Finds (filter : Date) (currentYear : Int) (event : Event) (instant : Instant) : Prop :=
  event.get? filter.field = some (.timestamp instant) ∨
    ∃ value, event.get? filter.field = some value ∧ value.asTimestamp? = none ∧
      filter.FirstReads currentYear value.display instant

/-- Why a filter finds no instant in an event: the field is absent, or no layout accepts its text. -/
def Misses (filter : Date) (currentYear : Int) (event : Event) (e : ProcessingError) : Prop :=
  (event.get? filter.field = none ∧ e = .fieldMissing filter.field) ∨
    ∃ value, event.get? filter.field = some value ∧ value.asTimestamp? = none ∧
      e = .noMatchingLayout filter.field value.display ∧
      ∀ layout ∈ filter.layouts, layout.read? currentYear filter.zone value.display = none

theorem normalize_eq_ok_iff : filter.normalize currentYear event = .ok after ↔
    ∃ instant, filter.Finds currentYear event instant ∧ after = event.insert filter.target (.timestamp instant) := by
  cases hget : event.get? filter.field with
  | none => simp [normalize_of_absent hget, Finds, hget]
  | some value =>
    rw [normalize_of_get? hget, map_eq_ok]
    refine exists_congr fun instant => and_congr ?_ eq_comm
    simp [instantOf_eq_ok_iff, Finds, hget]

theorem normalize_eq_error_iff :
    filter.normalize currentYear event = .error e ↔ filter.Misses currentYear event e := by
  cases hget : event.get? filter.field with
  | none => simp [normalize_of_absent hget, Misses, hget, eq_comm]
  | some value =>
    have hmap : (filter.instantOf currentYear value).map (fun instant =>
        event.insert filter.target (.timestamp instant)) = .error e ↔ filter.instantOf currentYear value = .error e := by
      cases filter.instantOf currentYear value <;> simp [Except.map]
    simp [normalize_of_get? hget, hmap, instantOf_eq_error_iff, Misses, hget]

/-! ## Twice -/

/-- What a filter found in an event it finds in what it made of the event, wherever it put the instant. -/
theorem normalize_normalize (h : filter.normalize currentYear event = .ok after) :
    filter.normalize currentYear after = .ok after := by
  obtain ⟨instant, hfinds, rfl⟩ := normalize_eq_ok_iff.mp h
  have hsettled : (event.insert filter.target (.timestamp instant)).insert filter.target (.timestamp instant) =
      event.insert filter.target (.timestamp instant) :=
    Event.insert_eq_self_iff.mpr (event.get?_insert_self _ _)
  refine normalize_eq_ok_iff.mpr ⟨instant, ?_, hsettled.symm⟩
  by_cases htarget : filter.field = filter.target
  · -- the text is gone, and the instant stands in its place
    exact .inl (htarget ▸ event.get?_insert_self _ _)
  · unfold Finds
    rwa [(event.changesOnly_insert filter.target _).get? filter.field (by simpa using htarget)]

theorem normalize_addTag (h : filter.normalize currentYear event = .error e) (tag : String) :
    filter.normalize currentYear (event.addTag tag) = .error e := by
  have hget := (event.changesOnly_addTag tag).get? filter.field (List.not_mem_nil)
  rw [normalize_eq_error_iff] at h ⊢
  unfold Misses
  rwa [hget]

theorem process_of_error (h : filter.normalize currentYear event = .error e) :
    filter.process currentYear event = filter.onFailure.apply event filter.tag := by
  rw [process, h]

theorem process_of_ok (h : filter.normalize currentYear event = .ok after) :
    filter.process currentYear event = .continue after := by
  rw [process, h]

/-- An event that a filter lets through it lets through as it is. -/
theorem process_process (h : filter.process currentYear event = .continue after) :
    filter.process currentYear after = .continue after := by
  cases hn : filter.normalize currentYear event with
  | ok normalized =>
    cases (process_of_ok hn).symm.trans h
    exact process_of_ok (normalize_normalize hn)
  | error e =>
    rw [process_of_error hn] at h
    cases hpolicy : filter.onFailure with
    | tag =>
      rw [hpolicy] at h
      cases h
      rw [process_of_error (normalize_addTag hn filter.tag), hpolicy, FailurePolicy.apply,
        Event.addTag_eq_self_iff.mpr (Event.mem_tags_addTag.mpr (.inl rfl))]
    | drop =>
      rw [hpolicy] at h
      cases h
    | pass =>
      rw [hpolicy] at h
      cases h
      rw [process_of_error hn, hpolicy, FailurePolicy.apply]

/-- A filter puts the instant that it finds in an event under its target, which changes nothing else, and layouts
that are appended leave this. Where it finds none there is one reason why, and the event goes to the failure policy
as it is. In both cases an event that goes on is not changed by the filter again. -/
theorem normalize_finds (filter : Date) (currentYear : Int) (event : Event) :
    (∀ after, filter.normalize currentYear event = .ok after ↔
      ∃ instant, filter.Finds currentYear event instant ∧
        after = event.insert filter.target (.timestamp instant)) ∧
    (∀ e, filter.normalize currentYear event = .error e ↔ filter.Misses currentYear event e) ∧
    (∀ after, filter.normalize currentYear event = .ok after →
      filter.process currentYear event = .continue after ∧
      after.raw = event.raw ∧ after.tags = event.tags ∧
      (∀ field ≠ filter.target, after.get? field = event.get? field) ∧
      ∀ more, { filter with layouts := filter.layouts ++ more }.normalize currentYear event = .ok after) ∧
    (∀ e, filter.normalize currentYear event = .error e →
      filter.process currentYear event = filter.onFailure.apply event filter.tag) ∧
    ∀ after, filter.process currentYear event = .continue after →
      filter.process currentYear after = .continue after := by
  refine ⟨fun _ => normalize_eq_ok_iff, fun _ => normalize_eq_error_iff, fun after h => ?_,
    fun _ => process_of_error, fun _ => process_process⟩
  obtain ⟨instant, hfinds, rfl⟩ := normalize_eq_ok_iff.mp h
  refine ⟨process_of_ok h, rfl, rfl, fun field hne => ?_, fun more => ?_⟩
  · exact (event.changesOnly_insert filter.target _).get? field (by simpa using hne)
  · refine normalize_eq_ok_iff.mpr ⟨instant, ?_, rfl⟩
    rcases hfinds with hown | ⟨value, hvalue, hkind, hfirst⟩
    · exact .inl hown
    · exact .inr ⟨value, hvalue, hkind, hfirst.append more⟩

/-- A filter that puts the instant where it found the text, and reads seconds after ISO 8601. -/
theorem normalize_finds_of_seconds :
    let filter : Date := ⟨"when", "when", [.iso8601, .unix], .utc, .tag, "_dateparsefailure"⟩
    let event : Event := { fields := [("when", .text " 1700000000 "), ("size", .integer 5)], raw := some "1700000000" }
    let after : Event :=
      { fields := [("when", .timestamp ⟨1700000000, 0⟩), ("size", .integer 5)], raw := some "1700000000" }
    filter.normalize 2024 event = .ok after ∧
      { filter with layouts := [.iso8601, .unix, .unixMillis] }.normalize 2024 event = .ok after ∧
      filter.process 2024 event = .continue after ∧ filter.process 2024 after = .continue after := by
  intro filter event after
  have hiso : Layout.iso8601.read? 2024 .utc " 1700000000 " = none := by decide +kernel
  have hunix : Layout.unix.read? 2024 .utc " 1700000000 " = some ⟨1700000000, 0⟩ := by decide +kernel
  have hfirst : filter.FirstReads 2024 " 1700000000 " ⟨1700000000, 0⟩ :=
    ⟨[.iso8601], .unix, [], rfl, by simpa using hiso, hunix⟩
  obtain ⟨hok, -, hafter, -, htwice⟩ := normalize_finds filter 2024 event
  have hnormalize : filter.normalize 2024 event = .ok after :=
    (hok after).mpr ⟨_, .inr ⟨.text " 1700000000 ", rfl, rfl, hfirst⟩, rfl⟩
  obtain ⟨hprocess, -, -, -, hmore⟩ := hafter after hnormalize
  exact ⟨hnormalize, hmore [.unixMillis], hprocess, htwice after hprocess⟩

end Date

end LogPipeline.Filter
