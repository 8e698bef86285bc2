import LogPipeline.Proofs.Time.Offsets
import LogPipeline.Proofs.Time.Zones

/-!
# What becomes of the components of a value

The instant that a format makes of a value has, on the clocks of its offset, the date that was read. It has the
time that was read too if there is a whole time among the components; otherwise it is midnight, whatever components
of a time there are. Seconds since the epoch belong neither to the date nor to the time; a format reads them and makes
nothing of them.
-/

namespace LogPipeline.Time

/-- The day, the second of the day and the nanoseconds that clocks with an offset show at an instant. -/
def Instant.localAt (instant : Instant) (offset : Int) : Int × (Nat × Nat) :=
  let seconds := instant.seconds + offset
  (seconds / secondsPerDay, ((seconds % secondsPerDay).toNat, instant.nanos))

namespace Components

variable {c next : Components} {day : Int} {time : Nat × Nat}

/-- The components of a date, as far as they were read, are those of a day. -/
structure AgreesWithDay (c : Components) (day : Int) : Prop where
  year : ∀ y ∈ c.year, y = (Date.ofDay day).year
  century : ∀ q ∈ c.century, 0 ≤ (Date.ofDay day).year ∧ q = (Date.ofDay day).year / 100
  yearOfCentury : ∀ r ∈ c.yearOfCentury, 0 ≤ (Date.ofDay day).year ∧ r = (Date.ofDay day).year % 100
  month : ∀ m ∈ c.month, m = (Date.ofDay day).month
  dayOfMonth : ∀ d ∈ c.day, d = (Date.ofDay day).day
  quarter : ∀ q ∈ c.quarter, q = ((Date.ofDay day).month - 1) / 3 + 1
  isoYear : ∀ y ∈ c.isoYear, y = isoYearOf day
  isoYearOfCentury : ∀ r ∈ c.isoYearOfCentury, 0 ≤ isoYearOf day ∧ r = isoYearOf day % 100
  isoWeek : ∀ w ∈ c.isoWeek, w = isoWeekOf day
  weekday : ∀ d ∈ c.weekday, d = weekdayOf day
  ordinal : ∀ n ∈ c.ordinal, n = ordinalOf day
  weekFromSunday : ∀ w ∈ c.weekFromSunday, w = weeksFrom 6 day
  weekFromMonday : ∀ w ∈ c.weekFromMonday, w = weeksFrom 0 day

/-- The components of a time, as far as they were read, are those of a second of the day and its nanoseconds. An
hour of a half of the day is known up to twelve hours. -/
structure AgreesWithTime (c : Components) (time : Nat × Nat) : Prop where
  afternoon : ∀ a ∈ c.afternoon, a = decide (12 ≤ time.1 / 3600)
  halfHour : ∀ h ∈ c.halfHour, h = time.1 / 3600 % 12
  minute : ∀ m ∈ c.minute, m = time.1 / 60 % 60
  second : ∀ s ∈ c.second, s = time.1 % 60 + if nanosPerSecond ≤ time.2 then 1 else 0
  nanos : ∀ n ∈ c.nanos, n = time.2 % nanosPerSecond

/-- The components of a whole time: an hour and a minute, and a second if there is a fraction. -/
def HasTime (c : Components) : Prop :=
  c.afternoon.isSome ∧ c.halfHour.isSome ∧ c.minute.isSome ∧ (c.nanos.isSome → c.second.isSome)

/-- No component of a time was read. Seconds since the epoch, which are not such a component, may have been. -/
def Clockless (c : Components) : Prop :=
  c.afternoon = none ∧ c.halfHour = none ∧ c.minute = none ∧ c.second = none ∧ c.nanos = none

/-- The offset of the clocks that a value goes by: the one that it carries, if it is less than a day, or that of the
zone. -/
def offsetIn (c : Components) (zone : Zone) (instant : Instant) : Int :=
  (c.offset.filter Layout.isUsableOffset).getD (zone.offsetAt instant.seconds)

/-! ## Dates -/

theorem sameAs_iff {α : Type} [BEq α] [LawfulBEq α] {component : Option α} {value : α} :
    sameAs component value = true ↔ ∀ a ∈ component, a = value := by
  simp [sameAs, Option.all_eq_true]

theorem centuryMatches_iff {century yearOfCentury : Option Int} {year : Int} :
    centuryMatches century yearOfCentury year = true ↔
      (∀ q ∈ century, 0 ≤ year ∧ q = year / 100) ∧ ∀ r ∈ yearOfCentury, 0 ≤ year ∧ r = year % 100 := by
  unfold centuryMatches
  split
  · rename_i h
    simp [sameAs_iff, h]
  · rename_i h
    cases century <;> cases yearOfCentury <;> simp [h]

theorem agreesWithDay_of_matches (h : c.matchesDay day = true) : c.AgreesWithDay day := by
  simp only [matchesDay, Bool.and_eq_true, sameAs_iff, centuryMatches_iff] at h
  obtain ⟨⟨⟨⟨⟨⟨⟨⟨⟨⟨⟨hyear, hcentury, hofCentury⟩, hmonth⟩, hday⟩, hquarter⟩, hiso⟩, -, hisoOf⟩, hisoWeek⟩,
    hweekday⟩, hordinal⟩, hsunday⟩, hmonday⟩ := h
  exact ⟨hyear, hcentury, hofCentury, hmonth, hday, hquarter, hiso, hisoOf, hisoWeek, hweekday, hordinal,
    hsunday, hmonday⟩

theorem day?_agrees (h : c.day? = .ok day) : c.AgreesWithDay day := by
  obtain ⟨candidate, -, h⟩ := bind_eq_ok.mp h
  split at h
  · rename_i hmatches
    cases h
    exact agreesWithDay_of_matches hmatches
  · cases h

/-- What is noted beside the components that are there agrees with a day only if they do. -/
theorem AgreesWithDay.of_setYear {year : Int} (h : next.AgreesWithDay day) (hs : c.setYear year = some next) :
    c.AgreesWithDay day := by
  simp only [setYear, Option.ite_none_right_eq_some, Option.bind_eq_bind, Option.pure_def,
    Option.bind_eq_some_iff, Option.some.injEq] at hs
  obtain ⟨-, new, hnew, rfl⟩ := hs
  refine { h with year := fun y hy => h.year y ?_ }
  rw [Option.mem_def.mp hy] at hnew
  simp only [agree, Option.ite_none_right_eq_some, Option.some.injEq] at hnew
  exact hnew.2.symm

/-! ## Times -/

theorem clockless_agrees (h : c.Clockless) (time : Nat × Nat) : c.AgreesWithTime time := by
  obtain ⟨hafternoon, hhour, hminute, hsecond, hnanos⟩ := h
  constructor <;> simp [hafternoon, hhour, hminute, hsecond, hnanos]

/-- There is a time exactly if there are the components of one. -/
theorem time?_cases (c : Components) :
    (c.HasTime ∧ ∃ time, c.time? = .ok time) ∨ (¬ c.HasTime ∧ c.time? = .error .missing) := by
  obtain ⟨afternoon, ha⟩ : ∃ a, c.afternoon = a := ⟨_, rfl⟩
  obtain ⟨hour, hh⟩ : ∃ h, c.halfHour = h := ⟨_, rfl⟩
  obtain ⟨minute, hm⟩ : ∃ m, c.minute = m := ⟨_, rfl⟩
  unfold time? HasTime
  rw [ha, hh, hm]
  cases afternoon <;> cases hour <;> cases minute <;> simp
  cases c.second <;> cases c.nanos <;> simp

/-- The hour, the minute and the second of a second of the day. -/
theorem clock_parts (hour : Nat) {minute second : Nat} (hm : minute < 60) (hs : second < 60) :
    (hour * 3600 + minute * 60 + second) / 3600 = hour ∧
      (hour * 3600 + minute * 60 + second) / 60 % 60 = minute ∧
      (hour * 3600 + minute * 60 + second) % 60 = second := by omega

theorem time?_agrees (hc : c.InRange) (hn : c.FractionInRange) (h : c.time? = .ok time) :
    c.AgreesWithTime time := by
  unfold time? at h
  split at h
  · rename_i afternoon hour minute ha hh hm
    have hhour := hc.halfHour hour hh
    have hnanos : c.nanos.getD 0 < nanosPerSecond := by
      cases hf : c.nanos with
      | none => decide
      | some nanos => exact hn nanos hf
    have hsecond : c.second.getD 0 ≤ 60 := by
      cases hs : c.second with
      | none => decide
      | some second => exact hc.second second hs
    simp only at h
    split at h
    · cases h
    · cases h
      have hshown : (if c.second.getD 0 = 60 then 59 else c.second.getD 0) < 60 := by split <;> omega
      obtain ⟨hclockHour, hclockMinute, hclockSecond⟩ :=
        clock_parts (hour + if afternoon then 12 else 0) (hc.minute minute hm) hshown
      unfold nanosPerSecond at hnanos
      constructor <;>
        simp only [hclockHour, hclockMinute, hclockSecond, ha, hh, hm, Option.mem_some_iff, nanosPerSecond]
      case afternoon =>
        rintro _ rfl
        cases afternoon with
        | false => simp; omega
        | true => simp
      case halfHour =>
        rintro _ rfl
        cases afternoon with
        | false => simp; omega
        | true => simp; omega
      case minute =>
        rintro _ rfl
        rfl
      case second =>
        -- a second of 60 is shown as 59 with a second more of nanoseconds
        intro second hs
        rw [hs, Option.getD_some]
        split <;> split <;> omega
      case nanos =>
        intro nanos hf
        rw [hf, Option.getD_some] at hnanos ⊢
        split <;> omega
  · cases h

end Components

open Components

variable {c : Components} {year day : Int} {time : Nat × Nat}

namespace Layout

variable {given pattern name value : String} {zone : Zone} {instant : Instant}

theorem formatDay?_agrees (h : formatDay? year c = some day) : c.AgreesWithDay day := by
  unfold formatDay? at h
  split at h
  · rename_i hd
    cases h
    exact day?_agrees hd
  · rw [Option.bind_eq_some_iff] at h
    obtain ⟨next, hset, h⟩ := h
    have hd : next.day? = .ok day := by
      cases hd : next.day? <;> simp_all [Except.toOption]
    exact (day?_agrees hd).of_setYear hset
  · cases h

/-- The time of a format is that of the components, or midnight where there is no whole time among them. -/
theorem formatTime?_agrees (hc : c.InRange) (hn : c.FractionInRange) (h : formatTime? c = some time) :
    (c.HasTime → c.AgreesWithTime time) ∧ (¬ c.HasTime → time = (0, 0)) := by
  unfold formatTime? at h
  rcases time?_cases c with ⟨hhas, read, hread⟩ | ⟨hno, hmissing⟩
  · rw [hread] at h
    cases h
    exact ⟨fun _ => time?_agrees hc hn hread, fun hno => absurd hhas hno⟩
  · rw [hmissing] at h
    cases h
    exact ⟨fun hhas => absurd hhas hno, fun _ => rfl⟩

theorem localAt_of_local {offset seconds : Int} (ht : time.1 < 86400)
    (h : seconds + offset = day * secondsPerDay + time.1) : Instant.localAt ⟨seconds, time.2⟩ offset = (day, time) := by
  unfold secondsPerDay at h
  simp only [Instant.localAt, secondsPerDay, h, Prod.mk.injEq]
  refine ⟨by omega, Prod.ext ?_ rfl⟩
  show ((day * 86400 + (time.1 : Int)) % 86400).toNat = time.1
  omega

/-- At the instant that a format makes of a value the clocks show the date and the time of the components. -/
theorem read?_localAt (hz : zone.InOrder) (h : (format given pattern).read? year zone value = some instant) :
    ∃ c, readValue? {} (formatItems pattern) (Text.trim value.toList) = some c ∧
      dateTime? year c = some (instant.localAt (c.offsetIn zone instant)) := by
  rw [read?, readFormat?_eq] at h
  obtain ⟨c, hc, h⟩ := Option.bind_eq_some_iff.mp h
  obtain ⟨⟨day, time⟩, htime, h⟩ := Option.bind_eq_some_iff.mp h
  obtain ⟨-, hlt⟩ := dateTime?_bounds (readValue?_inRange hc) htime
  refine ⟨c, hc, htime.trans (congrArg some (Eq.symm ?_))⟩
  unfold offsetIn
  cases ho : c.offset.filter isUsableOffset with
  | some offset =>
    simp only [ho, atOffset?, Instant.ofUnix?, Option.ite_none_right_eq_some, Option.some.injEq] at h
    obtain ⟨-, rfl⟩ := h
    exact localAt_of_local hlt (by rw [Option.getD_some]; omega)
  | none =>
    simp only [ho, inZone?, Option.bind_eq_some_iff, Instant.ofUnix?, Option.ite_none_right_eq_some,
      Option.some.injEq] at h
    obtain ⟨seconds, hearliest, -, rfl⟩ := h
    exact localAt_of_local hlt (Zone.offset_of_earliest? hz hearliest)

/-- The date and the time that a format reads from a value are found again on the clocks of its offset, or of the
zone. The date always is. The time is if there is a whole time among the components, and otherwise midnight stands in
its place; so no component of a date or a time is lost, and midnight is put only where no component of a time was
read, exactly if there is a whole time or no component of one. Nothing is said of the rest of what can be read:
seconds since the epoch are left aside, and so is an offset of a day or more, in whose place the zone has its own. -/
theorem format_keeps_iff (hz : Zone.named? name = some zone)
    (h : (format given pattern).read? year zone value = some instant) :
    ∃ c day time, readValue? {} (formatItems pattern) (Text.trim value.toList) = some c ∧
      instant.localAt (c.offsetIn zone instant) = (day, time) ∧ c.AgreesWithDay day ∧
      (¬ c.HasTime → time = (0, 0)) ∧
      (c.AgreesWithTime time ∧ (¬ c.HasTime → c.Clockless) ↔ c.HasTime ∨ c.Clockless) := by
  obtain ⟨c, hc, htime⟩ := read?_localAt (Zone.named?_inOrder hz) h
  obtain ⟨⟨day, time⟩, hlocal⟩ : ∃ dateTime, instant.localAt (c.offsetIn zone instant) = dateTime := ⟨_, rfl⟩
  rw [hlocal] at htime
  simp only [dateTime?, Option.bind_eq_bind, Option.pure_def, Option.bind_eq_some_iff, Option.some.injEq,
    Prod.mk.injEq] at htime
  obtain ⟨_, hday, _, htime, rfl, rfl⟩ := htime
  obtain ⟨hagrees, hmidnight⟩ :=
    formatTime?_agrees (readValue?_inRange hc) (readValue?_fractionInRange hc) htime
  refine ⟨c, _, _, hc, hlocal, formatDay?_agrees hday, hmidnight, ?_, ?_⟩
  · rintro ⟨-, hno⟩
    exact Classical.or_iff_not_imp_left.mpr hno
  · rintro (hhas | hno)
    · exact ⟨hagrees hhas, fun hnot => absurd hhas hnot⟩
    · exact ⟨clockless_agrees hno _, fun _ => hno⟩

/-- A value with a whole time, read in a zone that is ahead of universal time. -/
theorem format_keeps_iff_of_whole_time :
    let layout := Layout.format "%d-%b-%Y %H:%M:%S%.f" "%d-%b-%Y %H:%M:%S%.f"
    let instant : Instant := ⟨1484874900, 500000000⟩
    ∃ zone, Zone.named? "Asia/Tokyo" = some zone ∧
      layout.read? 2026 zone "20-Jan-2017 10:15:00.5" = some instant ∧
      ∃ c : Components, readValue? {} (formatItems "%d-%b-%Y %H:%M:%S%.f") "20-Jan-2017 10:15:00.5".toList = some c ∧
        c.HasTime ∧ c.AgreesWithDay (instant.localAt 32400).1 ∧ c.AgreesWithTime (instant.localAt 32400).2 := by
  intro layout instant
  have hzone : (Zone.named? "Asia/Tokyo").map (fun zone =>
      ((Layout.format "%d-%b-%Y %H:%M:%S%.f" "%d-%b-%Y %H:%M:%S%.f").read? 2026 zone "20-Jan-2017 10:15:00.5",
        zone.offsetAt 1484874900)) = some (some ⟨1484874900, 500000000⟩, 32400) := by decide +kernel
  obtain ⟨zone, hz, hshown⟩ := Option.map_eq_some_iff.mp hzone
  obtain ⟨hread, hoffset⟩ := Prod.mk.inj hshown
  have hvalue : readValue? {} (formatItems "%d-%b-%Y %H:%M:%S%.f") "20-Jan-2017 10:15:00.5".toList = some
      { year := some 2017, month := some 1, day := some 20, afternoon := some false, halfHour := some 10,
        minute := some 15, second := some 0, nanos := some 500000000 } := by decide +kernel
  have htrim : Text.trim "20-Jan-2017 10:15:00.5".toList = "20-Jan-2017 10:15:00.5".toList := by decide +kernel
  obtain ⟨c, day, time, hc, hlocal, hday, -, hkeeps⟩ := format_keeps_iff hz hread
  rw [htrim, hvalue, Option.some.injEq] at hc
  have hclock : c.offsetIn zone instant = 32400 := by
    subst hc
    exact hoffset
  have hhas : c.HasTime := by
    subst hc
    exact ⟨rfl, rfl, rfl, fun _ => rfl⟩
  rw [hclock] at hlocal
  rw [hlocal]
  exact ⟨zone, hz, hread, c, hc ▸ hvalue, hhas, hday, (hkeeps.mpr (.inl hhas)).1⟩

/-- An hour without a minute is read, and left aside: the instant is the midnight before. -/
theorem hour_without_minute_lost :
    let hourly := Layout.format "%Y-%m-%d %H" "%Y-%m-%d %H"
    (Layout.parse "%Y-%m-%d %H").toOption = some hourly ∧
      (Zone.named? "UTC").bind (hourly.read? 2026 · "2021-03-04 05") = some ⟨1614816000, 0⟩ ∧
      Instant.localAt ⟨1614816000, 0⟩ 0 = (18690, (0, 0)) ∧
      ∃ c : Components, readValue? {} (formatItems "%Y-%m-%d %H") "2021-03-04 05".toList = some c ∧
        c.halfHour = some 5 ∧ ¬ c.AgreesWithTime (0, 0) ∧ ¬ c.Clockless := by
  intro hourly
  have hvalue : readValue? {} (formatItems "%Y-%m-%d %H") "2021-03-04 05".toList = some
      { year := some 2021, month := some 3, day := some 4, afternoon := some false, halfHour := some 5 } := by
    decide +kernel
  refine ⟨by decide +kernel, by decide +kernel, by decide +kernel, _, hvalue, rfl, fun hagrees => ?_, fun hno => ?_⟩
  · exact absurd (hagrees.halfHour 5 rfl) (by decide)
  · cases hno.1

end Layout

end LogPipeline.Time
