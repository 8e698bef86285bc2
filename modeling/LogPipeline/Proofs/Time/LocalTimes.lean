import LogPipeline.Proofs.Time.Agreement
import LogPipeline.Proofs.Time.Database

/-!
# Local times

A value without an offset stands for the first instant at which the clocks of the zone show its date and time, and
for none where they never do. This goes for ISO 8601 and for every format, so that the two agree on all values of
the same form.
-/

namespace LogPipeline.Time

namespace Zone

variable {zone : Zone} {day seconds other : Int} {time : Nat × Nat} {instant : Instant}

/-! ## Instants of a local time -/

/-- Whether the clocks of a zone show a date and a time at an instant of the years of timestamps. -/
def Shows (zone : Zone) (localTime : Int × (Nat × Nat)) (instant : Instant) : Prop :=
  instant.IsRepresentable ∧ instant.localAt (zone.offsetAt instant.seconds) = localTime

/-- Whether an instant is the first at which the clocks of a zone show a date and a time. -/
def ShowsFirst (zone : Zone) (localTime : Int × (Nat × Nat)) (instant : Instant) : Prop :=
  zone.Shows localTime instant ∧ ∀ other, zone.Shows localTime other → instant.seconds ≤ other.seconds

theorem seconds_of_localAt {offset : Int} (h : instant.localAt offset = (day, time)) :
    instant.seconds + offset = day * secondsPerDay + time.1 ∧ instant.nanos = time.2 := by
  unfold Instant.localAt at h
  obtain ⟨rfl, rfl⟩ := Prod.mk.inj h
  refine ⟨?_, rfl⟩
  unfold secondsPerDay
  dsimp only
  omega

/-- If the clocks show the same at a time of timestamps and earlier, then the earlier time is one of timestamps too:
before the first change they never do. -/
theorem isUsableDay_of_earlier (hz : zone.Moderate) (hsame : seconds + zone.offsetAt seconds = other + zone.offsetAt other)
    (hle : seconds ≤ other) (h : isUsableDay (other / secondsPerDay) = true) :
    isUsableDay (seconds / secondsPerDay) = true := by
  simp only [isUsableDay, Bool.and_eq_true, decide_eq_true_eq] at h ⊢
  simp only [yearStart, leastYear, greatestYear, secondsPerDay] at h ⊢
  refine ⟨Int.not_lt.mp fun hbefore => ?_, by omega⟩
  -- both times would lie before all changes, where there is one offset only
  have hseconds := hz.offsetAt_lt seconds
  have hother := hz.offsetAt_lt other
  have hfirst : zone.offsetAt seconds = zone.first := hz.offsetAt_of_early (by unfold earliestChange; omega)
  have hfirst' : zone.offsetAt other = zone.first := hz.offsetAt_of_early (by unfold earliestChange; omega)
  omega

end Zone

namespace Layout

open Zone (Shows ShowsFirst)

variable {zone : Zone} {name given pattern value : String} {year day : Int} {time : Nat × Nat} {instant : Instant}
  {c : Components} {cs rest : List Char} {form : List Item} {mark : Item} {layout : Layout}

/-- What it is about the seconds of an instant that makes the clocks of a zone show a date and a time. -/
theorem shows_iff (ht : time.1 < 86400) (hn : time.2 < 2 * nanosPerSecond) :
    zone.Shows (day, time) instant ↔
      isUsableDay (instant.seconds / secondsPerDay) = true ∧
        instant.seconds + zone.offsetAt instant.seconds = day * secondsPerDay + time.1 ∧
        instant.nanos = time.2 := by
  constructor
  · rintro ⟨⟨husable, -⟩, hlocal⟩
    exact ⟨husable, Zone.seconds_of_localAt hlocal⟩
  · obtain ⟨seconds, nanos⟩ := instant
    rintro ⟨husable, hseconds, rfl⟩
    exact ⟨⟨husable, hn⟩, localAt_of_local ht hseconds⟩

theorem inZone?_iff_earliest? :
    inZone? day time zone = some instant ↔
      zone.earliest? (day * secondsPerDay + time.1) = some instant.seconds ∧
        isUsableDay (instant.seconds / secondsPerDay) = true ∧ instant.nanos = time.2 := by
  simp only [inZone?, Instant.ofUnix?, Option.bind_eq_some_iff, Option.ite_none_right_eq_some, Option.some.injEq]
  constructor
  · rintro ⟨seconds, he, husable, rfl⟩
    exact ⟨he, husable, rfl⟩
  · rintro ⟨he, husable, hnanos⟩
    exact ⟨instant.seconds, he, husable, congrArg (Instant.mk instant.seconds) hnanos.symm⟩

/-- The instant in a zone is the first at which its clocks show the date and the time: what is earliest among all
times is earliest among those of timestamps. -/
theorem inZone?_eq_some_iff (hz : zone.InOrder) (hm : zone.Moderate) (ht : time.1 < 86400)
    (hn : time.2 < 2 * nanosPerSecond) :
    inZone? day time zone = some instant ↔ zone.ShowsFirst (day, time) instant := by
  rw [inZone?_iff_earliest?, Zone.earliest?_eq_some_iff hz, ShowsFirst, shows_iff ht hn]
  constructor
  · rintro ⟨⟨hshown, hleast⟩, husable, hnanos⟩
    exact ⟨⟨husable, hshown, hnanos⟩, fun other ho => hleast _ ((shows_iff ht hn).mp ho).2.1⟩
  · rintro ⟨⟨husable, hshown, hnanos⟩, hfirst⟩
    refine ⟨⟨hshown, fun other ho => Int.not_lt.mp fun hlt => ?_⟩, husable, hnanos⟩
    have hother := Zone.isUsableDay_of_earlier hm (ho.trans hshown.symm) (Int.le_of_lt hlt) husable
    have hle := hfirst ⟨other, time.2⟩ ((shows_iff ht hn).mpr ⟨hother, ho, rfl⟩)
    exact absurd hlt (Int.not_lt.mpr hle)

theorem inZone?_eq_none_iff (hz : zone.InOrder) (hm : zone.Moderate) (ht : time.1 < 86400)
    (hn : time.2 < 2 * nanosPerSecond) :
    inZone? day time zone = none ↔ ∀ instant, ¬ zone.Shows (day, time) instant := by
  constructor
  · intro h instant hshows
    obtain ⟨husable, hshown, -⟩ := (shows_iff ht hn).mp hshows
    cases he : zone.earliest? (day * secondsPerDay + time.1) with
    | none => exact (Zone.earliest?_eq_none_iff hz).mp he _ hshown
    | some seconds =>
      obtain ⟨hsame, hleast⟩ := (Zone.earliest?_eq_some_iff hz).mp he
      have hday := Zone.isUsableDay_of_earlier hm (hsame.trans hshown.symm) (hleast _ hshown) husable
      have hfound : inZone? day time zone = some ⟨seconds, time.2⟩ := inZone?_iff_earliest?.mpr ⟨he, hday, rfl⟩
      cases h.symm.trans hfound
  · intro h
    refine Option.eq_none_iff_forall_ne_some.mpr fun instant hfound => ?_
    exact h instant ((inZone?_eq_some_iff hz hm ht hn).mp hfound).1

/-! ## What values without an offset write -/

/-- The components of a date with a time to the second. -/
def IsWhole (c : Components) : Prop :=
  ∃ year month day afternoon hour minute second nanos, c =
    { year := some year, month := some month, day := some day, afternoon := some afternoon, halfHour := some hour,
      minute := some minute, second := some second, nanos := nanos }

theorem readItems?_datePart (h : readItems? {} datePart cs = some (c, rest)) :
    ∃ year month day, c = { year := some year, month := some month, day := some day } := by
  simp only [datePart, readItems?, readItem?, Option.bind_eq_bind, Option.pure_def, Option.bind_eq_some_iff,
    Option.map_eq_some_iff, Option.some.injEq, Prod.mk.injEq, Prod.exists] at h
  obtain ⟨_, _, ⟨_, _, -, _, hyear, rfl, -⟩, _, _, ⟨_, -, rfl, -⟩, _, _, ⟨_, _, -, _, hmonth, rfl, -⟩, _, _,
    ⟨_, -, rfl, -⟩, _, _, ⟨_, _, -, _, hday, rfl, -⟩, rfl, -⟩ := h
  -- every number is noted where there is none yet
  obtain ⟨-, hyear⟩ := Option.ite_none_right_eq_some.mp hyear
  cases hyear
  obtain ⟨-, hmonth⟩ := Option.ite_none_right_eq_some.mp hmonth
  cases hmonth
  obtain ⟨-, hday⟩ := Option.ite_none_right_eq_some.mp hday
  cases hday
  exact ⟨_, _, _, rfl⟩

theorem readItems?_clockPart {next : Components} {month dayOfMonth : Nat}
    (hc : c = { year := some year, month := some month, day := some dayOfMonth })
    (h : readItems? c clockPart cs = some (next, rest)) : IsWhole next := by
  subst hc
  simp only [clockPart, readItems?, readItem?, Option.bind_eq_bind, Option.pure_def, Option.bind_eq_some_iff,
    Option.map_eq_some_iff, Option.some.injEq, Prod.mk.injEq, Prod.exists] at h
  obtain ⟨_, _, ⟨_, _, -, _, hhour, rfl, -⟩, _, _, ⟨_, -, rfl, -⟩, _, _, ⟨_, _, -, _, hminute, rfl, -⟩, _, _,
    ⟨_, -, rfl, -⟩, _, _, ⟨_, _, -, _, hsecond, rfl, -⟩, _, _, hfraction, rfl, -⟩ := h
  obtain ⟨-, hhour⟩ := Option.ite_none_right_eq_some.mp hhour
  cases hhour
  obtain ⟨-, hminute⟩ := Option.ite_none_right_eq_some.mp hminute
  cases hminute
  obtain ⟨-, hsecond⟩ := Option.ite_none_right_eq_some.mp hsecond
  cases hsecond
  unfold noteFraction at hfraction
  split at hfraction
  · simp only [Option.bind_eq_bind, Option.pure_def, Option.bind_eq_some_iff, Option.some.injEq, Prod.mk.injEq,
      Prod.exists] at hfraction
    obtain ⟨_, _, -, _, hnanos, rfl, -⟩ := hfraction
    cases hnanos
    exact ⟨_, _, _, _, _, _, _, _, rfl⟩
  · cases hfraction
    exact ⟨_, _, _, _, _, _, _, _, rfl⟩

/-- What a form without an offset reads is a whole date and time. -/
theorem isWhole_of_local (hf : form ∈ localForms) (h : readValue? {} form cs = some c) : IsWhole c := by
  have hmark : ∃ mark, form = withMark mark ∧ (mark = .literal ['T'] ∨ mark = .blank) := by
    simp only [localForms_eq, List.mem_cons, List.not_mem_nil, or_false] at hf
    rcases hf with rfl | rfl
    · exact ⟨_, rfl, .inl rfl⟩
    · exact ⟨_, rfl, .inr rfl⟩
  obtain ⟨mark, rfl, hmark⟩ := hmark
  rw [withMark, readValue?_date, Option.bind_eq_some_iff] at h
  obtain ⟨⟨date, rest⟩, hdate, h⟩ := h
  obtain ⟨year, month, day, hdate⟩ := readItems?_datePart hdate
  obtain ⟨rest, hclock⟩ : ∃ rest, readValue? date clockPart rest = some c := by
    rcases hmark with rfl | rfl
    · simp only [readValue?, readItem?, Option.bind_eq_bind, Option.bind_eq_some_iff, Option.map_eq_some_iff] at h
      obtain ⟨_, ⟨rest, -, rfl⟩, h⟩ := h
      exact ⟨rest, h⟩
    · exact ⟨_, h⟩
  -- the time is read by items that leave nothing of the value
  have happend : readValue? date (clockPart ++ []) rest = _ := readValue?_append (by decide)
  rw [List.append_nil, hclock, eq_comm, Option.bind_eq_some_iff] at happend
  obtain ⟨⟨next, tail⟩, hitems, hend⟩ := happend
  obtain ⟨-, hend⟩ := Option.ite_none_right_eq_some.mp hend
  cases hend
  exact readItems?_clockPart hdate hitems

theorem IsWhole.offset_eq (h : IsWhole c) : c.offset = none := by
  obtain ⟨_, _, _, _, _, _, _, _, rfl⟩ := h
  rfl

theorem IsWhole.hasTime (h : IsWhole c) : c.HasTime := by
  obtain ⟨_, _, _, _, _, _, _, _, rfl⟩ := h
  exact ⟨rfl, rfl, rfl, fun _ => rfl⟩

theorem IsWhole.day?_ne_missing (h : IsWhole c) : c.day? ≠ .error .missing := by
  obtain ⟨year, month, day, _, _, _, _, _, rfl⟩ := h
  intro h
  simp only [Components.day?, Components.candidate, Components.fullYear, bind, Except.bind] at h
  by_cases hvalid : isUsableYear year = true ∧ Date.IsValid ⟨year, month, day⟩
  · rw [if_pos hvalid] at h
    dsimp only at h
    split at h <;> cases h
  · rw [if_neg hvalid] at h
    cases h

/-- The local date and time of a whole date and time do not depend on the current year. -/
theorem IsWhole.dateTime?_eq (h : IsWhole c) (year : Int) :
    dateTime? year c = match c.day?, c.time? with
      | .ok day, .ok time => some (day, time)
      | _, _ => none := by
  have hday : formatDay? year c = c.day?.toOption := by
    unfold formatDay?
    cases hd : c.day? with
    | ok day => rfl
    | error gap =>
      cases gap with
      | missing => exact absurd hd h.day?_ne_missing
      | contradiction => rfl
  have htime : formatTime? c = c.time?.toOption := by
    unfold formatTime?
    rcases Components.time?_cases c with ⟨-, time, ht⟩ | ⟨hno, -⟩
    · rw [ht]
      rfl
    · exact absurd h.hasTime hno
  rw [dateTime?, hday, htime]
  cases c.day? <;> cases c.time? <;> rfl

/-- The local date and time that a layout reads from a value without an offset. -/
def localTime? (layout : Layout) (currentYear : Int) (value : String) : Option (Int × (Nat × Nat)) :=
  let cs := Text.trim value.toList
  match layout with
  | .iso8601 => localForms.findSome? fun form => local? form cs
  | .unix | .unixMillis => none
  | .format _ pattern => (readValue? {} (formatItems pattern) cs).bind fun c =>
      if (c.offset.filter isUsableOffset).isSome then none else dateTime? currentYear c

theorem time?_nanos_lt (hn : c.FractionInRange) (h : c.time? = .ok time) : time.2 < 2 * nanosPerSecond := by
  unfold Components.time? at h
  split at h
  · have hnanos : c.nanos.getD 0 < nanosPerSecond := by
      cases hf : c.nanos with
      | none => decide
      | some nanos => exact hn nanos hf
    simp only at h
    split at h
    · cases h
    · cases h
      unfold nanosPerSecond at hnanos ⊢
      dsimp only
      split <;> omega
  · cases h

theorem dateTime?_nanos_lt (hn : c.FractionInRange) (h : dateTime? year c = some (day, time)) :
    time.2 < 2 * nanosPerSecond := by
  simp only [dateTime?, Option.bind_eq_bind, Option.pure_def, Option.bind_eq_some_iff, Option.some.injEq,
    Prod.mk.injEq] at h
  obtain ⟨_, -, _, htime, -, rfl⟩ := h
  unfold formatTime? at htime
  split at htime
  · rename_i ht
    cases htime
    exact time?_nanos_lt hn ht
  · cases htime
    decide
  · cases htime

/-- The local date and time that a form writes, as a format reads it. -/
theorem local?_eq (hf : form ∈ localForms) (year : Int) (cs : List Char) :
    local? form cs = (readValue? {} form cs).bind fun c => dateTime? year c := by
  unfold local?
  cases hc : readValue? {} form cs with
  | none => rfl
  | some c => exact ((isWhole_of_local hf hc).dateTime?_eq year).symm

theorem exists_pattern (hf : form ∈ localForms) : ∃ pattern, form = formatItems pattern := by
  simp only [localForms, List.mem_cons, List.not_mem_nil, or_false] at hf
  rcases hf with rfl | rfl <;> exact ⟨_, rfl⟩

/-- No other form reads a value than the one that does. -/
theorem findSome?_local (hf : form ∈ localForms) (hc : readValue? {} form cs = some c) :
    (localForms.findSome? fun form => local? form cs) = local? form cs := by
  have hforms : form = withMark (.literal ['T']) ∨ form = withMark .blank := by
    simpa [localForms_eq] using hf
  rw [localForms_eq]
  rcases hforms with rfl | rfl
  · have hblank : readValue? {} (withMark .blank) cs = none := by
      simpa using withMark_unique [] [] (by simpa using hc)
    have hnone : local? (withMark .blank) cs = none := by rw [local?, hblank, Option.bind_none]
    cases hT : local? (withMark (.literal ['T'])) cs <;> simp [hT, hnone]
  · have hnone : local? (withMark (.literal ['T'])) cs = none := by
      cases hT : readValue? {} (withMark (.literal ['T'])) cs with
      | none => rw [local?, hT, Option.bind_none]
      | some read =>
        have hblank := withMark_unique [] [] (by simpa using hT)
        rw [List.append_nil, hc] at hblank
        cases hblank
    cases hblank : local? (withMark .blank) cs <;> simp [hblank, hnone]

/-- ISO 8601 reads a value of a form without an offset as the date and the time that the form writes. -/
theorem readIso8601?_of_local (hf : form ∈ localForms) (hc : readValue? {} form cs = some c) (zone : Zone) :
    readIso8601? zone cs = (local? form cs).bind fun (day, time) => inZone? day time zone := by
  have hreading : zonedReading? cs = none := by
    cases hz : zonedReading? cs with
    | none => rfl
    | some read =>
      rw [readValue?_of_zoned hz hf] at hc
      cases hc
  obtain ⟨hstamp, hforms⟩ : readTimestamp? cs = none ∧
      (zonedForms.findSome? fun form => readValue? {} form cs) = none := by
    cases ht : readTimestamp? cs <;> simp_all [zonedReading?]
  have hzoned : (zonedForms.findSome? fun form => (readValue? {} form cs).bind zoned?) = none := by
    rw [List.findSome?_eq_none_iff] at hforms ⊢
    intro form hm
    rw [hforms form hm, Option.bind_none]
  rw [readIso8601?, hstamp, hzoned, findSome?_local hf hc]
  cases local? form cs <;> rfl

/-- A format reads such a value in the same way. -/
theorem readFormat?_of_local (hf : form ∈ localForms) (hc : readValue? {} form cs = some c) (year : Int) (zone : Zone) :
    readFormat? year zone form cs = (local? form cs).bind fun (day, time) => inZone? day time zone := by
  rw [readFormat?_eq, local?_eq hf year, hc, Option.bind_some, Option.bind_some, (isWhole_of_local hf hc).offset_eq]
  rfl

/-! ## The two ways to read a local time -/

theorem read?_of_localTime? (h : layout.localTime? year value = some (day, time)) :
    (∀ zone, layout.read? year zone value = inZone? day time zone) ∧ time.1 < 86400 ∧
      time.2 < 2 * nanosPerSecond := by
  cases layout with
  | iso8601 =>
    obtain ⟨form, hf, hlocal⟩ := List.exists_of_findSome?_eq_some h
    obtain ⟨c, hc, htime⟩ := Option.bind_eq_some_iff.mp ((local?_eq hf year _).symm.trans hlocal)
    refine ⟨fun zone => ?_, ?_⟩
    · rw [read?, readIso8601?_of_local hf hc, hlocal, Option.bind_some]
    · obtain ⟨pattern, rfl⟩ := exists_pattern hf
      exact ⟨(dateTime?_bounds (readValue?_inRange hc) htime).2,
        dateTime?_nanos_lt (readValue?_fractionInRange hc) htime⟩
  | unix => cases h
  | unixMillis => cases h
  | format given pattern =>
    obtain ⟨c, hc, h⟩ := Option.bind_eq_some_iff.mp h
    obtain ⟨hoffset, htime⟩ := Option.ite_none_left_eq_some.mp h
    refine ⟨fun zone => ?_, (dateTime?_bounds (readValue?_inRange hc) htime).2,
      dateTime?_nanos_lt (readValue?_fractionInRange hc) htime⟩
    rw [read?, readFormat?_eq, hc, Option.bind_some, htime, Option.bind_some,
      Option.not_isSome_iff_eq_none.mp hoffset]

theorem localTime?_of_form (hf : formatItems pattern ∈ localForms)
    (hc : readValue? {} (formatItems pattern) (Text.trim value.toList) = some c) (year : Int) (given : String) :
    iso8601.localTime? year value = local? (formatItems pattern) (Text.trim value.toList) ∧
      (format given pattern).localTime? year value = local? (formatItems pattern) (Text.trim value.toList) := by
  refine ⟨findSome?_local hf hc, ?_⟩
  rw [localTime?, local?_eq hf year, hc, Option.bind_some, Option.bind_some, (isWhole_of_local hf hc).offset_eq]
  rfl

/-- A value without an offset is read, by ISO 8601 as by a format, as the first instant at which the clocks of the
zone show its date and its time, and as none exactly if they never show them. On the values of a form without an
offset ISO 8601 and the format of that form agree, and what they go by are the components that are written. -/
theorem local_read_first (hz : Zone.named? name = some zone) (year : Int) (value : String) :
    (∀ layout day time, localTime? layout year value = some (day, time) →
      (∀ instant, layout.read? year zone value = some instant ↔ zone.ShowsFirst (day, time) instant) ∧
      (layout.read? year zone value = none ↔ ∀ instant, ¬ zone.Shows (day, time) instant)) ∧
    ∀ given pattern c, formatItems pattern ∈ localForms →
      readValue? {} (formatItems pattern) (Text.trim value.toList) = some c →
      iso8601.read? year zone value = (format given pattern).read? year zone value ∧
      iso8601.localTime? year value = (format given pattern).localTime? year value ∧
      (∀ day time, iso8601.localTime? year value = some (day, time) → c.AgreesWithDay day ∧ c.AgreesWithTime time) ∧
      (iso8601.localTime? year value = none → iso8601.read? year zone value = none) := by
  have horder := Zone.named?_inOrder hz
  have hmoderate := Zone.named?_moderate hz
  refine ⟨fun layout day time h => ?_, fun given pattern c hf hc => ?_⟩
  · obtain ⟨hread, ht, hn⟩ := read?_of_localTime? h
    simp only [hread]
    exact ⟨fun instant => inZone?_eq_some_iff horder hmoderate ht hn, inZone?_eq_none_iff horder hmoderate ht hn⟩
  · obtain ⟨hiso, hformat⟩ := localTime?_of_form hf hc year given
    have hreadIso := readIso8601?_of_local hf hc zone
    refine ⟨?_, hiso.trans hformat.symm, fun day time h => ?_, fun h => ?_⟩
    · exact hreadIso.trans (readFormat?_of_local hf hc year zone).symm
    · have hdateTime : dateTime? year c = some (day, time) := by
        rw [hiso, local?_eq hf year, hc] at h
        exact h
      simp only [dateTime?, Option.bind_eq_bind, Option.pure_def, Option.bind_eq_some_iff, Option.some.injEq,
        Prod.mk.injEq] at hdateTime
      obtain ⟨_, hday, _, htime, rfl, rfl⟩ := hdateTime
      obtain ⟨hagrees, -⟩ := formatTime?_agrees (readValue?_inRange hc) (readValue?_fractionInRange hc) htime
      exact ⟨formatDay?_agrees hday, hagrees (isWhole_of_local hf hc).hasTime⟩
    · rw [read?, hreadIso, ← hiso, h, Option.bind_none]

/-- A time that the clocks of a zone show twice, as they are put back, and one that they leave out. -/
theorem local_read_first_of_changes :
    let layout := Layout.format "%Y-%m-%d %H:%M:%S%.f" "%Y-%m-%d %H:%M:%S%.f"
    ∃ zone, Zone.named? "Asia/Pyongyang" = some zone ∧
      iso8601.read? 2018 zone "2015-08-14 23:45:00" = some ⟨1439563500, 0⟩ ∧
      layout.read? 2018 zone "2015-08-14 23:45:00" = some ⟨1439563500, 0⟩ ∧
      zone.ShowsFirst (16661, (85500, 0)) ⟨1439563500, 0⟩ ∧ zone.Shows (16661, (85500, 0)) ⟨1439565300, 0⟩ ∧
      iso8601.read? 2018 zone "2018-05-04T23:45:00" = none ∧ ∀ instant, ¬ zone.Shows (17655, (85500, 0)) instant := by
  intro layout
  have hzone : (Zone.named? "Asia/Pyongyang").map (fun zone =>
      (iso8601.read? 2018 zone "2015-08-14 23:45:00", iso8601.read? 2018 zone "2018-05-04T23:45:00",
        zone.offsetAt 1439565300)) = some (some ⟨1439563500, 0⟩, none, 30600) := by decide +kernel
  obtain ⟨zone, hz, hshown⟩ := Option.map_eq_some_iff.mp hzone
  obtain ⟨htwice, hshown⟩ := Prod.mk.inj hshown
  obtain ⟨hnever, hoffset⟩ := Prod.mk.inj hshown
  have hlocal : iso8601.localTime? 2018 "2015-08-14 23:45:00" = some (16661, (85500, 0)) := by decide +kernel
  have hskipped : iso8601.localTime? 2018 "2018-05-04T23:45:00" = some (17655, (85500, 0)) := by decide +kernel
  have hf : formatItems "%Y-%m-%d %H:%M:%S%.f" ∈ localForms := List.mem_cons_of_mem _ List.mem_cons_self
  obtain ⟨c, hc⟩ : ∃ c, readValue? {} (formatItems "%Y-%m-%d %H:%M:%S%.f")
      (Text.trim "2015-08-14 23:45:00".toList) = some c := Option.isSome_iff_exists.mp (by decide +kernel)
  obtain ⟨hfirst, hagree⟩ := local_read_first hz 2018 "2015-08-14 23:45:00"
  obtain ⟨hnone, -⟩ := local_read_first hz 2018 "2018-05-04T23:45:00"
  refine ⟨zone, hz, htwice, ?_, ?_, ⟨by decide, ?_⟩, hnever, ?_⟩
  · rw [← (hagree "%Y-%m-%d %H:%M:%S%.f" _ c hf hc).1]
    exact htwice
  · exact ((hfirst _ _ _ hlocal).1 _).mp htwice
  · dsimp only
    rw [hoffset]
    decide
  · exact (hnone _ _ _ hskipped).2.mp hnever

end Layout

end LogPipeline.Time
