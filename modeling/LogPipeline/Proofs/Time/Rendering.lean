import LogPipeline.Proofs.Time.Forms

/-!
# Reading rendered instants

The text of an instant outside of a leap second is read back as that instant by ISO 8601, in whatever zone. The
texts of the years 0 to 9999 have the form of the Internet standard; those of other years have a sign in front and
are read by the first of the other forms.
-/

namespace LogPipeline.Time

-- Powers are those of core, whatever other instances there are.
attribute [local instance (2000)] instPowNat

open Text (isBlank isDigit natOf trimLeft)

variable {cs rest digits : List Char} {n width : Nat}

/-! ## Digits of a fixed number -/

namespace Instant

theorem length_lastDigits (count n : Nat) : (lastDigits count n).length = count := by
  induction count generalizing n with
  | zero => rfl
  | succ count ih => rw [lastDigits, List.length_append, ih, List.length_singleton]

theorem isDigit_digitChar (h : n < 10) : isDigit (Nat.digitChar n) = true := by
  have hall : ∀ n < 10, isDigit (Nat.digitChar n) = true := by decide
  exact hall n h

theorem isDigit_of_mem_lastDigits {count : Nat} {c : Char} (h : c ∈ lastDigits count n) : isDigit c = true := by
  induction count generalizing n with
  | zero => cases h
  | succ count ih =>
    rw [lastDigits, List.mem_append, List.mem_singleton] at h
    rcases h with h | rfl
    · exact ih h
    · exact isDigit_digitChar (Nat.mod_lt n (by decide))

theorem natOf_lastDigits {count : Nat} (h : n < 10 ^ count) : natOf (lastDigits count n) = n := by
  induction count generalizing n with
  | zero =>
    rw [Nat.pow_zero] at h
    exact (Nat.lt_one_iff.mp h).symm
  | succ count ih =>
    have hrest := ih (n := n / 10) (by rw [Nat.pow_succ] at h; omega)
    rw [lastDigits, Text.natOf_append, hrest, natOf, Text.natFrom_cons, Text.natFrom_nil,
      Text.digitValue_digitChar (Nat.mod_lt n (by decide))]
    simp only [List.length_singleton, Nat.pow_one]
    omega

end Instant

open Instant

/-- Digits are read up to a width. -/
theorem readDigits?_width {least : Nat} (hd : ∀ c ∈ digits, isDigit c = true) (hl : least ≤ digits.length) :
    readDigits? least (some digits.length) (digits ++ rest) = some (digits, rest) := by
  simp [readDigits?, (Text.takeWhile_isDigit_self hd).1, hl]

/-- Digits are read up to a character that is no digit. -/
theorem readDigits?_stop {least : Nat} {most : Option Nat} {stop : Char} (hd : ∀ c ∈ digits, isDigit c = true)
    (hl : least ≤ digits.length) (hm : ∀ n ∈ most, digits.length ≤ n) (hs : isDigit stop = false) :
    readDigits? least most (digits ++ stop :: rest) = some (digits, stop :: rest) := by
  cases most with
  | none => simp [readDigits?, List.takeWhile_append_of_pos hd, hs, hl]
  | some n =>
    have hlength : digits.length ≤ n := hm n rfl
    have htake : (digits ++ stop :: rest).take n = digits ++ (stop :: rest).take (n - digits.length) := by
      rw [List.take_append, List.take_of_length_le hlength]
    have hstop : ((stop :: rest).take (n - digits.length)).takeWhile isDigit = [] := by
      cases n - digits.length <;> simp [hs]
    simp [readDigits?, htake, List.takeWhile_append_of_pos hd, hstop, hl]

theorem readNumber?_lastDigits (h : n < 10 ^ width) :
    readNumber? width (some width) (lastDigits width n ++ rest) = some (n, rest) := by
  have hread := @readDigits?_width rest (lastDigits width n) width (fun _ => isDigit_of_mem_lastDigits)
    (Nat.le_of_eq (length_lastDigits width n).symm)
  rw [length_lastDigits] at hread
  simp only [readNumber?, hread, Option.map_some, natOf_lastDigits h]

/-! ## Fractions -/

/-- A fraction that is written has from one to nine digits, which say how many nanoseconds it has. -/
theorem fractionText_spec {nanos : Nat} (hn : nanos < nanosPerSecond) (h : nanos ≠ 0) :
    ∃ digits, fractionText nanos = '.' :: digits ∧ (∀ c ∈ digits, isDigit c = true) ∧ 1 ≤ digits.length ∧
      digits.length ≤ 9 ∧ natOf digits * 10 ^ (9 - digits.length) = nanos := by
  unfold nanosPerSecond at hn
  unfold fractionText
  rw [if_neg h]
  split
  · refine ⟨_, rfl, fun _ => isDigit_of_mem_lastDigits, ?_⟩
    rw [length_lastDigits, natOf_lastDigits (by show _ < 1000; omega)]
    exact ⟨by decide, by decide, by show _ * 1000000 = _; omega⟩
  · split
    · refine ⟨_, rfl, fun _ => isDigit_of_mem_lastDigits, ?_⟩
      rw [length_lastDigits, natOf_lastDigits (by show _ < 1000000; omega)]
      exact ⟨by decide, by decide, by show _ * 1000 = _; omega⟩
    · refine ⟨_, rfl, fun _ => isDigit_of_mem_lastDigits, ?_⟩
      rw [length_lastDigits, natOf_lastDigits (by show _ < 1000000000; omega)]
      exact ⟨by decide, by decide, by show _ * 1 = _; omega⟩

theorem noteFraction_fractionText {c : Components} {nanos : Nat} (hn : nanos < nanosPerSecond)
    (hc : c.nanos = none) : noteFraction c (fractionText nanos ++ ['Z']) readFraction? =
      some ({ c with nanos := if nanos = 0 then none else some nanos }, ['Z']) := by
  by_cases h : nanos = 0
  · subst h
    cases c
    cases hc
    rfl
  · obtain ⟨digits, htext, hd, hleast, hmost, hvalue⟩ := fractionText_spec hn h
    have hread := @readDigits?_stop [] digits 1 (some 9) 'Z' hd hleast (by simpa using hmost) (by decide)
    rw [htext, if_neg h, List.cons_append]
    simp only [noteFraction, readFraction?, hread, Option.map_some, hvalue, Option.bind_eq_bind, Option.bind_some,
      Components.setNanos, hc, agree, Option.pure_def]
    rfl

/-! ## Years -/

/-- The year of a text in the form of the Internet standard has four digits. -/
theorem yearText_plain {year : Int} (hl : 0 ≤ year) (hg : year < 10000) :
    yearText year = lastDigits 4 year.natAbs ∧ year.natAbs < 10 ^ (4 : Nat) := by
  have hfour : year.natAbs < 10000 := by omega
  refine ⟨?_, hfour⟩
  simp only [yearText, if_pos hfour]
  rw [if_neg (by omega)]

/-- Any other year has a sign. -/
theorem yearText_signed {year : Int} (h : year < 0 ∨ 10000 ≤ year) :
    ∃ sign digits, yearText year = sign :: digits ∧ (∀ c ∈ digits, isDigit c = true) ∧ 1 ≤ digits.length ∧
      (sign = '-' ∧ year = -(natOf digits : Int) ∨ sign = '+' ∧ year = natOf digits) := by
  obtain ⟨digits, hdigits⟩ : ∃ digits, (if year.natAbs < 10000 then lastDigits 4 year.natAbs
    else Nat.toDigits 10 year.natAbs) = digits := ⟨_, rfl⟩
  have hspec : (∀ c ∈ digits, isDigit c = true) ∧ 1 ≤ digits.length ∧ natOf digits = year.natAbs := by
    rw [← hdigits]
    split
    · rename_i hfour
      exact ⟨fun _ => isDigit_of_mem_lastDigits, by rw [length_lastDigits]; decide, natOf_lastDigits hfour⟩
    · obtain ⟨c, rest, heq, -, -⟩ := Text.toDigits_head year.natAbs
      exact ⟨fun _ => Text.isDigit_of_mem_toDigits, by rw [heq]; exact Nat.le_add_left 1 _, Text.natOf_toDigits _⟩
  obtain ⟨hd, hl, hvalue⟩ := hspec
  by_cases hneg : year < 0
  · exact ⟨'-', digits, by simp only [yearText, hdigits, if_pos hneg], hd, hl, .inl ⟨rfl, by omega⟩⟩
  · refine ⟨'+', digits, ?_, hd, hl, .inr ⟨rfl, by omega⟩⟩
    simp only [yearText, hdigits, if_neg hneg]
    rw [if_neg (by omega)]

theorem readComponent?_yearText {year : Int} (h : year < 0 ∨ 10000 ≤ year) :
    readComponent? .year (yearText year ++ '-' :: rest) = some (year, '-' :: rest) := by
  obtain ⟨sign, digits, htext, hd, hl, hsign⟩ := yearText_signed h
  have hread := @readDigits?_stop rest digits 1 none '-' hd hl nofun (by decide)
  rw [htext, List.cons_append]
  rcases hsign with ⟨rfl, hyear⟩ | ⟨rfl, hyear⟩
  · have htrim : trimLeft ('-' :: (digits ++ '-' :: rest)) = '-' :: (digits ++ '-' :: rest) := rfl
    simp [readComponent?, Component.hasSign, htrim, readNumber?, hread, hyear]
  · have htrim : trimLeft ('+' :: (digits ++ '-' :: rest)) = '+' :: (digits ++ '-' :: rest) := rfl
    simp [readComponent?, Component.hasSign, htrim, readNumber?, hread, hyear]

/-! ## The components of a text -/

/-- The parts of a date and a time that are written. -/
structure Written where
  date : Date
  hour : Nat
  minute : Nat
  second : Nat
  nanos : Nat

namespace Written

structure IsValid (w : Written) : Prop where
  year : isUsableYear w.date.year = true
  date : w.date.IsValid
  hour : w.hour < 24
  minute : w.minute < 60
  second : w.second < 60
  nanos : w.nanos < nanosPerSecond

def text (w : Written) : List Char :=
  yearText w.date.year ++ '-' :: (lastDigits 2 w.date.month ++ '-' :: (lastDigits 2 w.date.day ++
    'T' :: (lastDigits 2 w.hour ++ ':' :: (lastDigits 2 w.minute ++ ':' :: (lastDigits 2 w.second ++
      (fractionText w.nanos ++ ['Z']))))))

/-- What is noted of the date. -/
def dateComponents (w : Written) : Components :=
  { year := some w.date.year, month := some w.date.month, day := some w.date.day }

/-- What is noted of the date and the whole seconds of the time. -/
def clockComponents (w : Written) : Components :=
  { w.dateComponents with
    afternoon := some (decide (12 ≤ w.hour)), halfHour := some (w.hour % 12), minute := some w.minute,
    second := some w.second }

def components (w : Written) : Components :=
  { w.clockComponents with nanos := if w.nanos = 0 then none else some w.nanos, offset := some 0 }

variable {w : Written}

theorem set_year (hw : w.IsValid) : Components.set {} .year w.date.year = some { year := some w.date.year } := by
  have hy := hw.year
  simp only [isUsableYear, Bool.and_eq_true, decide_eq_true_eq] at hy
  unfold leastYear greatestYear at hy
  have hfits : Components.fitsWord w.date.year = true := by
    simp only [Components.fitsWord, Bool.and_eq_true, decide_eq_true_eq]
    omega
  simp [Components.set, Components.setYear, hfits, agree]

theorem set_month (hw : w.IsValid) : Components.set { year := some w.date.year } .month w.date.month =
    some { year := some w.date.year, month := some w.date.month } := by
  obtain ⟨hfirst, hlast, -, -⟩ := hw.date
  simp [Components.set, Components.setMonth, hfirst, hlast, agree]

theorem day_le_monthLength (hw : w.IsValid) : 1 ≤ w.date.day ∧ w.date.day ≤ 31 := by
  obtain ⟨-, -, hfirst, hlast⟩ := hw.date
  refine ⟨hfirst, Nat.le_trans hlast ?_⟩
  unfold monthLength
  split
  · split <;> decide
  · split <;> decide

theorem set_day (hw : w.IsValid) : Components.set { year := some w.date.year, month := some w.date.month } .day
    w.date.day = some w.dateComponents := by
  obtain ⟨hfirst, hlast⟩ := day_le_monthLength hw
  simp [Components.set, hfirst, hlast, agree, dateComponents]

theorem set_clock (hw : w.IsValid) : ∃ atHour atMinute, w.dateComponents.set .hour w.hour = some atHour ∧
    atHour.set .minute w.minute = some atMinute ∧ atMinute.set .second w.second = some w.clockComponents := by
  have hh : w.hour ≤ 23 := Nat.le_of_lt_succ hw.hour
  have hm : w.minute ≤ 59 := Nat.le_of_lt_succ hw.minute
  have hs : w.second ≤ 60 := Nat.le_of_lt hw.second
  refine ⟨{ w.dateComponents with afternoon := some (decide (12 ≤ w.hour)), halfHour := some (w.hour % 12) },
    { w.dateComponents with
      afternoon := some (decide (12 ≤ w.hour)), halfHour := some (w.hour % 12), minute := some w.minute }, ?_, ?_, ?_⟩
  · simp [Components.set, Components.setHalf, hh, agree, dateComponents]
  · simp [Components.set, hm, agree, dateComponents]
  · simp [Components.set, hs, agree, dateComponents, clockComponents]

theorem noteFraction_text (hw : w.IsValid) :
    noteFraction w.clockComponents (fractionText w.nanos ++ ['Z']) readFraction? =
      some ({ w.clockComponents with nanos := if w.nanos = 0 then none else some w.nanos }, ['Z']) :=
  noteFraction_fractionText hw.nanos rfl

/-! ## The forms of a text -/

/-- Everything but the year and the fraction has two digits. -/
theorem two_digits (hw : w.IsValid) : w.date.month < 10 ^ (2 : Nat) ∧ w.date.day < 10 ^ (2 : Nat) ∧
    w.hour < 10 ^ (2 : Nat) ∧ w.minute < 10 ^ (2 : Nat) ∧ w.second < 10 ^ (2 : Nat) :=
  ⟨Nat.lt_of_le_of_lt hw.date.2.1 (by decide), Nat.lt_of_le_of_lt (day_le_monthLength hw).2 (by decide),
    Nat.lt_trans hw.hour (by decide), Nat.lt_trans hw.minute (by decide), Nat.lt_trans hw.second (by decide)⟩

theorem number_lastDigits {c next : Components} {component : Component} (hc : component.width = some width)
    (hw : 0 < width) (hn : n < 10 ^ width) (hs : c.set component n = some next) :
    readItem? c (.number component) (lastDigits width n ++ rest) = some (next, rest) :=
  Layout.readItem?_number hc hw (readNumber?_lastDigits hn) hs

/-- The text with four digits of the year has the form of the Internet standard. -/
theorem readTimestamp?_text (hw : w.IsValid) (hl : 0 ≤ w.date.year) (hg : w.date.year < 10000) :
    readTimestamp? w.text = some w.components := by
  obtain ⟨hyear, hfour⟩ := yearText_plain hl hg
  obtain ⟨hmonth, hday, hhour, hminute, hsecond⟩ := two_digits hw
  obtain ⟨atHour, atMinute, hset₁, hset₂, hset₃⟩ := set_clock hw
  have hset : Components.set {} .year (w.date.year.natAbs : Int) = some { year := some w.date.year } := by
    rw [show (w.date.year.natAbs : Int) = w.date.year by omega]
    exact set_year hw
  rw [text, hyear, readTimestamp?]
  refine Option.bind_eq_some_iff.mpr ⟨_, readNumber?_lastDigits hfour, ?_⟩
  refine Option.bind_eq_some_iff.mpr ⟨_, rfl, ?_⟩
  refine Option.bind_eq_some_iff.mpr ⟨_, readNumber?_lastDigits hmonth, ?_⟩
  refine Option.bind_eq_some_iff.mpr ⟨_, rfl, ?_⟩
  refine Option.bind_eq_some_iff.mpr ⟨_, readNumber?_lastDigits hday, ?_⟩
  refine Option.bind_eq_some_iff.mpr ⟨_, readNumber?_lastDigits hhour, ?_⟩
  refine Option.bind_eq_some_iff.mpr ⟨_, rfl, ?_⟩
  refine Option.bind_eq_some_iff.mpr ⟨_, readNumber?_lastDigits hminute, ?_⟩
  refine Option.bind_eq_some_iff.mpr ⟨_, rfl, ?_⟩
  refine Option.bind_eq_some_iff.mpr ⟨_, readNumber?_lastDigits hsecond, ?_⟩
  refine Option.bind_eq_some_iff.mpr ⟨_, hset, ?_⟩
  refine Option.bind_eq_some_iff.mpr ⟨_, set_month hw, ?_⟩
  refine Option.bind_eq_some_iff.mpr ⟨_, set_day hw, ?_⟩
  refine Option.bind_eq_some_iff.mpr ⟨_, hset₁, ?_⟩
  refine Option.bind_eq_some_iff.mpr ⟨_, hset₂, ?_⟩
  refine Option.bind_eq_some_iff.mpr ⟨_, hset₃, ?_⟩
  exact Option.bind_eq_some_iff.mpr ⟨_, noteFraction_text hw, rfl⟩

theorem readItem?_year (hw : w.IsValid) (hy : w.date.year < 0 ∨ 10000 ≤ w.date.year) :
    readItem? {} (.number .year) (yearText w.date.year ++ '-' :: rest) =
      some ({ year := some w.date.year }, '-' :: rest) := by
  simp only [readItem?, readComponent?_yearText hy, Option.bind_eq_bind, Option.bind_some, set_year hw]
  rfl

/-- With a sign of the year it is read by the first of the other forms. -/
theorem readValue?_text (hw : w.IsValid) (hy : w.date.year < 0 ∨ 10000 ≤ w.date.year) :
    readTimestamp? w.text = none ∧
      readValue? {} (Layout.withMark (.literal ['T']) ++ [.offset true]) w.text = some w.components := by
  obtain ⟨hmonth, hday, hhour, hminute, hsecond⟩ := two_digits hw
  obtain ⟨atHour, atMinute, hset₁, hset₂, hset₃⟩ := set_clock hw
  constructor
  · obtain ⟨sign, digits, htext, -, -, hsign⟩ := yearText_signed hy
    cases hnumber : readNumber? 4 (some 4) w.text with
    | none => rw [readTimestamp?, hnumber, Option.bind_eq_bind, Option.bind_none]
    | some read =>
      obtain ⟨c, tail, heq, hc⟩ := Layout.readNumber?_head (by decide) hnumber
      rw [text, htext, List.cons_append, List.cons.injEq] at heq
      rw [← heq.1] at hc
      rcases hsign with ⟨rfl, -⟩ | ⟨rfl, -⟩ <;> cases hc
  · have hfraction : readItem? w.clockComponents .fraction (fractionText w.nanos ++ ['Z']) = _ := noteFraction_text hw
    have hform : Layout.withMark (.literal ['T']) ++ [.offset true] = [.number .year, .literal ['-'], .number .month,
        .literal ['-'], .number .day, .literal ['T'], .number .hour, .literal [':'], .number .minute, .literal [':'],
        .number .second, .fraction, .offset true] := rfl
    rw [text, hform, readValue?_cons (readItem?_year hw hy) nofun, readValue?_cons (Layout.readItem?_mark '-') nofun,
      readValue?_cons (number_lastDigits rfl (by decide) hmonth (set_month hw)) nofun,
      readValue?_cons (Layout.readItem?_mark '-') nofun,
      readValue?_cons (number_lastDigits rfl (by decide) hday (set_day hw)) nofun,
      readValue?_cons (Layout.readItem?_mark 'T') nofun,
      readValue?_cons (number_lastDigits rfl (by decide) hhour hset₁) nofun,
      readValue?_cons (Layout.readItem?_mark ':') nofun,
      readValue?_cons (number_lastDigits rfl (by decide) hminute hset₂) nofun,
      readValue?_cons (Layout.readItem?_mark ':') nofun,
      readValue?_cons (number_lastDigits rfl (by decide) hsecond hset₃) nofun, readValue?_cons hfraction nofun]
    rfl

/-! ## The instant of a text -/

theorem day?_components {day : Int} (hw : w.IsValid) (h : w.date = Date.ofDay day) :
    w.components.day? = .ok day := by
  have hday : w.date.toDay = day := h ▸ (Date.ofDay_spec day).2.2
  have hcandidate : w.components.candidate = .ok day := by
    show (if isUsableYear w.date.year = true ∧ w.date.IsValid then Except.ok w.date.toDay
      else Except.error Components.Gap.contradiction) = _
    rw [if_pos ⟨hw.year, hw.date⟩, hday]
  have hmatches : w.components.matchesDay day = true := by
    simp [Components.matchesDay, components, clockComponents, dateComponents, Components.sameAs,
      Components.centuryMatches, h]
  rw [Components.day?, hcandidate]
  show (if w.components.matchesDay day = true then Except.ok day else _) = _
  rw [if_pos hmatches]

theorem time?_components (hw : w.IsValid) :
    w.components.time? = .ok (w.hour * 3600 + w.minute * 60 + w.second, w.nanos) := by
  have hsecond := hw.second
  have hhour : w.hour % 12 + (if 12 ≤ w.hour then 12 else 0) = w.hour := by
    have := hw.hour
    split <;> omega
  have hnanos : (if w.nanos = 0 then none else some w.nanos).getD 0 = w.nanos := by
    split
    · exact Eq.symm ‹_›
    · rfl
  have hleap : w.second ≠ 60 := by omega
  simp [Components.time?, components, clockComponents, hhour, hnanos, hleap]

theorem zoned?_components {day : Int} (hw : w.IsValid) (h : w.date = Date.ofDay day)
    (hd : isUsableDay day = true) : Layout.zoned? w.components =
      some ⟨day * secondsPerDay + (w.hour * 3600 + w.minute * 60 + w.second : Nat), w.nanos⟩ := by
  have hwithin : (day * secondsPerDay + (w.hour * 3600 + w.minute * 60 + w.second : Nat)) / secondsPerDay = day := by
    have := hw.hour
    have := hw.minute
    have := hw.second
    unfold secondsPerDay
    omega
  have hoffset : w.components.offset = some 0 := rfl
  have husable : Layout.isUsableOffset 0 = true := rfl
  simp only [Layout.zoned?, hoffset, day?_components hw h, time?_components hw, husable, if_true, Layout.atOffset?,
    Int.sub_zero, Instant.ofUnix?, hwithin, hd]

/-- The text is read as its instant, in whatever zone. -/
theorem readIso8601?_text {day : Int} {zone : Zone} (hw : w.IsValid) (h : w.date = Date.ofDay day)
    (hd : isUsableDay day = true) : Layout.readIso8601? zone w.text =
      some ⟨day * secondsPerDay + (w.hour * 3600 + w.minute * 60 + w.second : Nat), w.nanos⟩ := by
  by_cases hy : w.date.year < 0 ∨ 10000 ≤ w.date.year
  · obtain ⟨hnone, hread⟩ := readValue?_text hw hy
    simp [Layout.readIso8601?, hnone, Layout.zonedForms_eq, hread, zoned?_components hw h hd]
  · simp [Layout.readIso8601?, readTimestamp?_text hw (by omega) (by omega), zoned?_components hw h hd]

end Written

/-- The parts of an instant. -/
def Instant.written (instant : Instant) : Written :=
  let second := (instant.seconds % secondsPerDay).toNat
  ⟨Date.ofDay (instant.seconds / secondsPerDay), second / 3600, second / 60 % 60, second % 60, instant.nanos⟩

variable {instant : Instant}

theorem Instant.written_isValid (hr : instant.IsRepresentable) (hl : instant.nanos < nanosPerSecond) :
    instant.written.IsValid := by
  obtain ⟨hyear, hdate, -⟩ := Date.ofDay_spec (instant.seconds / secondsPerDay)
  have hsecond : (instant.seconds % secondsPerDay).toNat < 86400 := by
    unfold secondsPerDay
    omega
  refine ⟨?_, hdate, ?_, Nat.mod_lt _ (by decide), Nat.mod_lt _ (by decide), hl⟩
  · show isUsableYear (Date.ofDay (instant.seconds / secondsPerDay)).year = true
    rw [hyear]
    exact isUsableYear_yearOf hr.1
  · show (instant.seconds % secondsPerDay).toNat / 3600 < 24
    omega

theorem Instant.toList_text (hl : instant.nanos < nanosPerSecond) : instant.text.toList = instant.written.text := by
  have hleap : ¬ nanosPerSecond ≤ instant.nanos := Nat.not_le.mpr hl
  simp [Instant.text, dateTimeText, written, Written.text, hleap]

theorem Instant.readIso8601?_text {zone : Zone} (hr : instant.IsRepresentable) (hl : instant.nanos < nanosPerSecond) :
    Layout.readIso8601? zone instant.text.toList = some instant := by
  rw [toList_text hl, Written.readIso8601?_text (written_isValid hr hl) rfl hr.1]
  obtain ⟨seconds, nanos⟩ := instant
  simp only [written, Option.some.injEq, Instant.mk.injEq, and_true]
  unfold secondsPerDay
  omega

/-! ## The characters of a text -/

/-- What the text of an instant has besides digits. -/
def marks : List Char := ['-', '+', 'T', ':', '.', 'Z']

theorem Instant.mem_yearText {year : Int} : ∀ c ∈ yearText year, isDigit c = true ∨ c ∈ marks := by
  obtain ⟨digits, hdigits, hmem⟩ : ∃ digits, (if year.natAbs < 10000 then lastDigits 4 year.natAbs
      else Nat.toDigits 10 year.natAbs) = digits ∧ ∀ c ∈ digits, isDigit c = true ∨ c ∈ marks := by
    refine ⟨_, rfl, fun c hc => .inl ?_⟩
    split at hc
    · exact isDigit_of_mem_lastDigits hc
    · exact Text.isDigit_of_mem_toDigits hc
  have hminus : '-' ∈ marks := by decide
  have hplus : '+' ∈ marks := by decide
  unfold yearText
  simp only [hdigits]
  split
  · exact List.forall_mem_cons.mpr ⟨.inr hminus, hmem⟩
  · split
    · exact hmem
    · exact List.forall_mem_cons.mpr ⟨.inr hplus, hmem⟩

theorem Instant.mem_fractionText {nanos : Nat} : ∀ c ∈ fractionText nanos, isDigit c = true ∨ c ∈ marks := by
  have hdot : '.' ∈ marks := by decide
  unfold fractionText
  repeat' split
  · exact List.forall_mem_nil _
  all_goals exact List.forall_mem_cons.mpr ⟨.inr hdot, fun _ hc => .inl (isDigit_of_mem_lastDigits hc)⟩

theorem Instant.mem_text : ∀ c ∈ instant.text.toList, isDigit c = true ∨ c ∈ marks := by
  have hdigits {count n : Nat} : ∀ c ∈ lastDigits count n, isDigit c = true ∨ c ∈ marks :=
    fun _ hc => .inl (isDigit_of_mem_lastDigits hc)
  simp only [text, dateTimeText, String.toList_ofList, List.forall_mem_append, List.forall_mem_cons]
  and_intros
  all_goals first
    | exact mem_yearText
    | exact mem_fractionText
    | exact hdigits
    | exact .inr (by decide)
    | exact List.forall_mem_nil _

end LogPipeline.Time
