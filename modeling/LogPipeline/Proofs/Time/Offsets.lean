import LogPipeline.Proofs.Time.Forms

/-!
# Offsets and zones

A value that carries an offset is read alike in every zone, except by a format and with an offset of a day or
more: such an offset is left aside, and the value is read as a local time of the zone.
-/

namespace LogPipeline.Time.Layout

variable {c : Components} {cs : List Char} {items : List Item} {zone : Zone} {offset : Int}

/-! ## ISO 8601 -/

/-- What the forms with an offset make of a value. -/
def readZoned? (cs : List Char) : Option Instant :=
  ((readTimestamp? cs).bind zoned?).orElse fun _ =>
    zonedForms.findSome? fun form => (readValue? {} form cs).bind zoned?

theorem readIso8601?_of_zoned (h : zonedReading? cs = some c) : readIso8601? zone cs = readZoned? cs := by
  have hlocal : (localForms.findSome? fun form => local? form cs) = none := by
    rw [List.findSome?_eq_none_iff]
    intro form hf
    rw [local?, readValue?_of_zoned h hf, Option.bind_none]
  simp [readIso8601?, readZoned?, hlocal]

theorem zoned?_of_unusable (ho : c.offset = some offset) (hu : isUsableOffset offset = false) :
    zoned? c = none := by
  unfold zoned?
  split
  · rename_i heq _ _
    rw [ho, Option.some.injEq] at heq
    rw [← heq, hu]
    rfl
  · rfl

theorem readZoned?_of_unusable (h : zonedReading? cs = some c) (ho : c.offset = some offset)
    (hu : isUsableOffset offset = false) : readZoned? cs = none := by
  have hzoned := zoned?_of_unusable ho hu
  rcases zonedReading?_cases h with h | ⟨ht, h | ⟨hT, h⟩⟩
  · rw [usable_of_timestamp h ho] at hu
    cases hu
  · have hblank := withMark_unique _ [.offset true] h
    simp [readZoned?, zonedForms_eq, ht, h, hblank, hzoned]
  · simp [readZoned?, zonedForms_eq, ht, hT, h, hzoned]

/-! ## Formats -/

/-- The day that a format makes of components: a missing year is the current one. -/
def formatDay? (currentYear : Int) (c : Components) : Option Int :=
  match c.day? with
  | .ok day => some day
  | .error .missing => (c.setYear currentYear).bind fun c => c.day?.toOption
  | .error .contradiction => none

/-- The time that a format makes of components: a missing one is midnight. -/
def formatTime? (c : Components) : Option (Nat × Nat) :=
  match c.time? with
  | .ok time => some time
  | .error .missing => some (0, 0)
  | .error .contradiction => none

/-- The local date and time of components, whatever their offset. -/
def dateTime? (currentYear : Int) (c : Components) : Option (Int × (Nat × Nat)) := do
  return (← formatDay? currentYear c, ← formatTime? c)

theorem readFormat?_eq (year : Int) (zone : Zone) (items : List Item) (cs : List Char) :
    readFormat? year zone items cs = (readValue? {} items cs).bind fun c =>
      (dateTime? year c).bind fun (day, time) =>
        match c.offset.filter isUsableOffset with
        | some offset => atOffset? day time offset
        | none => inZone? day time zone := by
  unfold readFormat? dateTime? formatDay? formatTime?
  cases hv : readValue? {} items cs with
  | none => rfl
  | some c =>
    simp only [Option.bind_eq_bind, Option.bind_some, Option.pure_def]
    rcases hd : c.day? with (_ | _) | day
    · cases hy : c.setYear year with
      | none => rfl
      | some c' =>
        simp only [Option.bind_some]
        rcases hd' : c'.day? with gap | day
        · rfl
        · rcases ht : c.time? with (_ | _) | time <;> rfl
    · rfl
    · rcases ht : c.time? with (_ | _) | time <;> rfl

variable {year day : Int} {time : Nat × Nat}

theorem formatDay?_usable (hc : c.InRange) (h : formatDay? year c = some day) : isUsableDay day = true := by
  unfold formatDay? at h
  split at h
  · rename_i hd
    cases h
    exact Components.day?_usable hc hd
  · rw [Option.bind_eq_some_iff] at h
    obtain ⟨c', hset, h⟩ := h
    have hd : c'.day? = .ok day := by
      cases hd : c'.day? <;> simp_all [Except.toOption]
    exact Components.day?_usable (Components.setYear_inRange hc hset) hd
  · cases h

theorem formatTime?_lt (hc : c.InRange) (h : formatTime? c = some time) : time.1 < 86400 := by
  unfold formatTime? at h
  split at h
  · rename_i ht
    cases h
    exact Components.time?_lt hc ht
  · cases h
    decide
  · cases h

/-- The date lies in the years of timestamps, and the time within a day. -/
theorem dateTime?_bounds (hc : c.InRange) (h : dateTime? year c = some (day, time)) :
    isUsableDay day = true ∧ time.1 < 86400 := by
  simp only [dateTime?, Option.bind_eq_bind, Option.pure_def, Option.bind_eq_some_iff, Option.some.injEq,
    Prod.mk.injEq] at h
  obtain ⟨_, hday, _, htime, rfl, rfl⟩ := h
  exact ⟨formatDay?_usable hc hday, formatTime?_lt hc htime⟩

theorem readFormat?_of_usable (hv : readValue? {} items cs = some c) (ho : c.offset = some offset)
    (hu : isUsableOffset offset = true) :
    readFormat? year zone items cs = (dateTime? year c).bind fun (day, time) => atOffset? day time offset := by
  have hfilter : c.offset.filter isUsableOffset = some offset := by simp [ho, Option.filter, hu]
  rw [readFormat?_eq, hv, Option.bind_some, hfilter]

/-- With an offset that is not usable a value is read as if it had none. -/
theorem readFormat?_of_unusable (hv : readValue? {} items cs = some c) (ho : c.offset = some offset)
    (hu : isUsableOffset offset = false) :
    readFormat? year zone items cs = (dateTime? year c).bind fun (day, time) => inZone? day time zone := by
  have hfilter : c.offset.filter isUsableOffset = none := by simp [ho, Option.filter, hu]
  rw [readFormat?_eq, hv, Option.bind_some, hfilter]

theorem inZone?_fixed (offset : Int) (day : Int) (time : Nat × Nat) :
    inZone? day time ⟨offset, []⟩ = Instant.ofUnix? (day * secondsPerDay + time.1 - offset) time.2 := by
  simp [inZone?, Zone.earliest?, Zone.earliestFrom]

/-- A local time is read in universal time, but not as the same instant in a zone an hour ahead. -/
theorem inZone?_differs (hd : isUsableDay day = true) (ht : time.1 < 86400) :
    ∃ instant, inZone? day time .utc = some instant ∧ inZone? day time ⟨3600, []⟩ ≠ some instant := by
  have hday : (day * secondsPerDay + time.1 - 0) / secondsPerDay = day := by
    unfold secondsPerDay
    omega
  refine ⟨⟨day * secondsPerDay + time.1 - 0, time.2⟩, ?_, ?_⟩
  · rw [Zone.utc, inZone?_fixed, Instant.ofUnix?, hday, if_pos hd]
  · intro h
    simp only [inZone?_fixed, Instant.ofUnix?, Option.ite_none_right_eq_some, Option.some.injEq,
      Instant.mk.injEq] at h
    omega

/-! ## The offset of a value -/

/-- The offset that a layout reads from a value. -/
def offset? (layout : Layout) (value : String) : Option Int :=
  let cs := Text.trim value.toList
  match layout with
  | .iso8601 => (zonedReading? cs).bind Components.offset
  | .unix | .unixMillis => none
  | .format _ pattern => (readValue? {} (formatItems pattern) cs).bind Components.offset

/-- Whether a format reads a date and a time from a value, and leaves the value's offset aside. -/
def LosesOffset (layout : Layout) (year : Int) (value : String) (offset : Int) : Prop :=
  match layout with
  | .format _ pattern => isUsableOffset offset = false ∧
      ((readValue? {} (formatItems pattern) (Text.trim value.toList)).bind (dateTime? year)).isSome = true
  | _ => False

variable {layout : Layout} {value : String}

theorem LosesOffset.unusable (h : layout.LosesOffset year value offset) : isUsableOffset offset = false := by
  cases layout with
  | format given pattern => exact h.1
  | _ => exact h.elim

/-- Unless the offset is lost, all zones give the same. -/
theorem read?_of_kept (h : layout.offset? value = some offset) (hk : ¬ layout.LosesOffset year value offset) :
    ∃ result, (∀ zone, layout.read? year zone value = result) ∧
      (isUsableOffset offset = false → result = none) := by
  cases layout with
  | iso8601 =>
    obtain ⟨c, hc, ho⟩ := Option.bind_eq_some_iff.mp h
    exact ⟨_, fun _ => readIso8601?_of_zoned hc, readZoned?_of_unusable hc ho⟩
  | unix => cases h
  | unixMillis => cases h
  | format given pattern =>
    obtain ⟨c, hc, ho⟩ := Option.bind_eq_some_iff.mp h
    cases hu : isUsableOffset offset with
    | true => exact ⟨_, fun _ => readFormat?_of_usable hc ho hu, nofun⟩
    | false =>
      have hnone : dateTime? year c = none := by simpa [LosesOffset, hu, hc] using hk
      refine ⟨none, fun zone => ?_, fun _ => rfl⟩
      rw [read?, readFormat?_of_unusable hc ho hu, hnone, Option.bind_none]

/-- If the offset is lost, the value is read in universal time, but not as the same instant in a zone an hour ahead. -/
theorem read?_of_lost (h : layout.offset? value = some offset) (hl : layout.LosesOffset year value offset) :
    ∃ instant, layout.read? year .utc value = some instant ∧
      layout.read? year ⟨3600, []⟩ value ≠ some instant := by
  cases layout with
  | iso8601 => exact hl.elim
  | unix => cases h
  | unixMillis => cases h
  | format given pattern =>
    obtain ⟨c, hc, ho⟩ := Option.bind_eq_some_iff.mp h
    obtain ⟨hu, htime⟩ := hl
    rw [hc, Option.bind_some] at htime
    obtain ⟨⟨day, time⟩, htime⟩ := Option.isSome_iff_exists.mp htime
    obtain ⟨hday, hlt⟩ := dateTime?_bounds (readValue?_inRange hc) htime
    have hread (zone : Zone) : (Layout.format given pattern).read? year zone value = inZone? day time zone := by
      rw [read?, readFormat?_of_unusable hc ho hu, htime, Option.bind_some]
    simpa only [hread] using inZone?_differs hday hlt

/-- An offset that is read from a value wins over the zone, so that all zones give the same, and rejects the value
if it is not usable. Both fail in the same case: where a format reads a date and a time besides an offset that is
not usable. ISO 8601 has no such case. -/
theorem offset_wins_iff (h : layout.offset? value = some offset) (year : Int) :
    ((∀ zone zone', layout.read? year zone value = layout.read? year zone' value) ↔
        ¬ layout.LosesOffset year value offset) ∧
      ((isUsableOffset offset = false → ∀ zone, layout.read? year zone value = none) ↔
        ¬ layout.LosesOffset year value offset) := by
  refine ⟨⟨fun hall hl => ?_, fun hk zone zone' => ?_⟩, fun hall hl => ?_, fun hk hu zone => ?_⟩
  · obtain ⟨instant, hutc, hahead⟩ := read?_of_lost h hl
    exact hahead ((hall _ _).trans hutc)
  · obtain ⟨result, hread, -⟩ := read?_of_kept h hk
    rw [hread, hread]
  · obtain ⟨instant, hutc, -⟩ := read?_of_lost h hl
    rw [hall hl.unusable] at hutc
    cases hutc
  · obtain ⟨result, hread, hnone⟩ := read?_of_kept h hk
    rw [hread, hnone hu]

/-- An offset that is usable, and one that ISO 8601 refuses. -/
theorem offset_wins_iff_of_values :
    let access := Layout.format "02/Jan/2006:15:04:05 -0700" "%d/%b/%Y:%H:%M:%S %#z"
    access.offset? "10/Oct/2000:13:55:36 -0700" = some (-25200) ∧
      (∀ zone zone', access.read? 2000 zone "10/Oct/2000:13:55:36 -0700" =
        access.read? 2000 zone' "10/Oct/2000:13:55:36 -0700") ∧
      iso8601.offset? "2017-01-20T10:15:00+24:00" = some 86400 ∧
      ∀ zone, iso8601.read? 2017 zone "2017-01-20T10:15:00+24:00" = none := by
  intro access
  have husable : access.offset? "10/Oct/2000:13:55:36 -0700" = some (-25200) := by decide +kernel
  have hday : iso8601.offset? "2017-01-20T10:15:00+24:00" = some 86400 := by decide +kernel
  exact ⟨husable, (offset_wins_iff husable 2000).1.mpr fun hl => absurd hl.unusable (by decide),
    hday, (offset_wins_iff hday 2017).2.mpr id (by decide)⟩

/-- An offset of 25 hours is read, and left aside: the value is a different instant in another zone. -/
theorem offset_of_a_day_lost :
    let access := Layout.format "02/Jan/2006:15:04:05 -0700" "%d/%b/%Y:%H:%M:%S %#z"
    let value := "10/Oct/2000:13:55:36 +2500"
    (Layout.parse "02/Jan/2006:15:04:05 -0700").toOption = some access ∧ access.offset? value = some 90000 ∧
      isUsableOffset 90000 = false ∧
      (Zone.named? "UTC").bind (access.read? 2000 · value) = some ⟨971186136, 0⟩ ∧
      (Zone.named? "Asia/Tokyo").bind (access.read? 2000 · value) = some ⟨971153736, 0⟩ := by
  decide +kernel

end LogPipeline.Time.Layout
