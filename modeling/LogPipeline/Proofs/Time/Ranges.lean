import LogPipeline.Time.Instant
import LogPipeline.Time.Reading
import LogPipeline.Proofs.Number.Digits
import LogPipeline.Proofs.Result
import LogPipeline.Proofs.Time.Calendar

/-!
# Ranges of components

What is read into components stays within their ranges, so that a date that they make lies in the years of
timestamps and a time within a day.
-/

namespace LogPipeline.Time

-- Powers are those of core, whatever other instances there are.
attribute [local instance (2000)] instPowNat

theorem agree_eq {α : Type} [BEq α] [LawfulBEq α] {old new : Option α} {value : α} (h : agree old value = some new) :
    new = some value := by
  unfold agree at h
  split at h
  · exact (Option.some.inj h).symm
  · split at h
    · rename_i heq
      rw [← Option.some.inj h, eq_of_beq heq]
    · cases h

/-- What a component that is noted is known to be. -/
theorem agree_forall {α : Type} [BEq α] [LawfulBEq α] {p : α → Prop} {old new : Option α} {value : α}
    (h : agree old value = some new) (hv : p value) : ∀ a ∈ new, p a := by
  rintro a ha
  rw [agree_eq h, Option.mem_some_iff] at ha
  rwa [← ha]

namespace Components

/-- The ranges on which dates and times rely. -/
structure InRange (c : Components) : Prop where
  ordinal : ∀ n ∈ c.ordinal, 1 ≤ n
  halfHour : ∀ n ∈ c.halfHour, n < 12
  minute : ∀ n ∈ c.minute, n < 60
  second : ∀ n ∈ c.second, n ≤ 60

variable {c next : Components} {component : Component} {n : Int}

theorem inRange_empty : InRange {} := by constructor <;> simp

/-! ## Notes -/

theorem set_inRange (hc : c.InRange) (h : c.set component n = some next) : next.InRange := by
  obtain ⟨ho, hh, hm, hs⟩ := hc
  cases component
  all_goals
    simp only [set, setHalf, setMonth, setWeekday, setNanos, setYear, Option.bind_eq_bind, Option.pure_def,
      Option.ite_none_right_eq_some, Option.bind_eq_some_iff, Option.some.injEq, Bool.and_eq_true,
      decide_eq_true_eq] at h
  -- an hour of the day notes the half of the day as well
  case hour =>
    obtain ⟨hr, c', ⟨half, -, rfl⟩, new, ha, rfl⟩ := h
    exact ⟨ho, agree_forall ha (by omega), hm, hs⟩
  case halfDayHour =>
    obtain ⟨hr, new, ha, rfl⟩ := h
    exact ⟨ho, agree_forall ha (by omega), hm, hs⟩
  case minute =>
    obtain ⟨hr, new, ha, rfl⟩ := h
    exact ⟨ho, hh, agree_forall ha (by omega), hs⟩
  case second =>
    obtain ⟨hr, new, ha, rfl⟩ := h
    exact ⟨ho, hh, hm, agree_forall ha (by omega)⟩
  case ordinal =>
    obtain ⟨hr, new, ha, rfl⟩ := h
    exact ⟨agree_forall ha (by omega), hh, hm, hs⟩
  -- no other component has a range here
  all_goals
    obtain ⟨-, new, -, rfl⟩ := h
    exact ⟨ho, hh, hm, hs⟩

theorem setYear_inRange (hc : c.InRange) (h : c.setYear n = some next) : next.InRange :=
  @set_inRange c next .year n hc h

/-- Whether a property of components lasts when one more component is noted. -/
structure Lasting (p : Components → Prop) : Prop where
  set : ∀ {c next component n}, p c → c.set component n = some next → p next
  half : ∀ {c next afternoon}, p c → c.setHalf afternoon = some next → p next
  weekday : ∀ {c next weekday}, p c → c.setWeekday weekday = some next → p next
  nanos : ∀ {c next nanos}, nanos < nanosPerSecond → p c → c.setNanos nanos = some next → p next
  offset : ∀ {c next offset}, p c → c.setOffset offset = some next → p next

theorem lasting_inRange : Lasting InRange where
  set := set_inRange
  half hc h := by
    simp only [setHalf, Option.bind_eq_bind, Option.pure_def, Option.bind_eq_some_iff, Option.some.injEq] at h
    obtain ⟨_, -, rfl⟩ := h
    exact ⟨hc.ordinal, hc.halfHour, hc.minute, hc.second⟩
  weekday hc h := by
    simp only [setWeekday, Option.bind_eq_bind, Option.pure_def, Option.bind_eq_some_iff, Option.some.injEq] at h
    obtain ⟨_, -, rfl⟩ := h
    exact ⟨hc.ordinal, hc.halfHour, hc.minute, hc.second⟩
  nanos _ hc h := by
    simp only [setNanos, Option.bind_eq_bind, Option.pure_def, Option.bind_eq_some_iff, Option.some.injEq] at h
    obtain ⟨_, -, rfl⟩ := h
    exact ⟨hc.ordinal, hc.halfHour, hc.minute, hc.second⟩
  offset hc h := by
    simp only [setOffset, Option.bind_eq_bind, Option.pure_def, Option.bind_eq_some_iff, Option.some.injEq] at h
    obtain ⟨_, -, rfl⟩ := h
    exact ⟨hc.ordinal, hc.halfHour, hc.minute, hc.second⟩

/-- A fraction is less than a second. -/
def FractionInRange (c : Components) : Prop := ∀ n ∈ c.nanos, n < nanosPerSecond

theorem fractionInRange_empty : FractionInRange {} := by simp [FractionInRange]

theorem setNanos_fractionInRange {nanos : Nat} (hn : nanos < nanosPerSecond)
    (h : c.setNanos nanos = some next) : next.FractionInRange := by
  simp only [setNanos, Option.bind_eq_bind, Option.pure_def, Option.bind_eq_some_iff, Option.some.injEq] at h
  obtain ⟨new, hnew, rfl⟩ := h
  exact agree_forall hnew hn

theorem nanos_set (hcomponent : component ≠ .nanos) (h : c.set component n = some next) :
    next.nanos = c.nanos := by
  cases component
  case nanos => exact absurd rfl hcomponent
  all_goals
    simp only [set, setHalf, setMonth, setWeekday, setYear, Option.bind_eq_bind, Option.pure_def,
      Option.ite_none_right_eq_some, Option.bind_eq_some_iff, Option.some.injEq] at h
  case hour =>
    obtain ⟨-, _, ⟨_, -, rfl⟩, _, -, rfl⟩ := h
    rfl
  all_goals
    obtain ⟨-, _, -, rfl⟩ := h
    rfl

theorem set_fractionInRange (hc : c.FractionInRange) (h : c.set component n = some next) :
    next.FractionInRange := by
  by_cases hcomponent : component = .nanos
  · subst hcomponent
    simp only [set, Option.ite_none_right_eq_some, Bool.and_eq_true, decide_eq_true_eq] at h
    exact setNanos_fractionInRange (by unfold nanosPerSecond; omega) h.2
  · rw [FractionInRange, nanos_set hcomponent h]
    exact hc

theorem lasting_fractionInRange : Lasting FractionInRange where
  set := set_fractionInRange
  half hc h := by
    simp only [setHalf, Option.bind_eq_bind, Option.pure_def, Option.bind_eq_some_iff, Option.some.injEq] at h
    obtain ⟨_, -, rfl⟩ := h
    exact hc
  weekday hc h := by
    simp only [setWeekday, Option.bind_eq_bind, Option.pure_def, Option.bind_eq_some_iff, Option.some.injEq] at h
    obtain ⟨_, -, rfl⟩ := h
    exact hc
  nanos hn _ h := setNanos_fractionInRange hn h
  offset hc h := by
    simp only [setOffset, Option.bind_eq_bind, Option.pure_def, Option.bind_eq_some_iff, Option.some.injEq] at h
    obtain ⟨_, -, rfl⟩ := h
    exact hc

end Components

open Components

/-! ## Items of a format -/

/-- Whether a fraction of a fixed length has nine digits at most. -/
def Item.IsBounded : Item → Prop
  | .pointFraction digits | .bareFraction digits => digits ≤ 9
  | _ => True

namespace Item

theorem isBounded_ofLetter (letter : Char) : ∀ item ∈ ofLetter letter, item.IsBounded := by
  unfold ofLetter
  split <;> simp [IsBounded, slashDate, clock]

theorem isBounded_readPlain (cs : List Char) : ∀ item ∈ (readPlain cs).1, item.IsBounded := by
  unfold readPlain
  split
  case h_11 => exact isBounded_ofLetter _
  all_goals simp [IsBounded]

theorem isBounded_readSpecifier (cs : List Char) : ∀ item ∈ (readSpecifier cs).1, item.IsBounded := by
  unfold readSpecifier
  split
  · simp [IsBounded]
  · simp [IsBounded]
  · split
    · split <;> simp [IsBounded]
    · exact isBounded_readPlain _
  · simp [IsBounded]

theorem isBounded_readAll (limit : Nat) (cs : List Char) : ∀ item ∈ readAll limit cs, item.IsBounded := by
  induction limit generalizing cs with
  | zero => simp [readAll]
  | succ limit ih =>
    cases cs with
    | nil => simp [readAll]
    | cons c rest =>
      rw [readAll]
      split
      · simp only [List.mem_append]
        rintro item (hitem | hitem)
        · exact isBounded_readSpecifier _ item hitem
        · exact ih _ item hitem
      · split <;> simpa [IsBounded] using ih _

end Item

theorem isBounded_formatItems (pattern : String) : ∀ item ∈ formatItems pattern, item.IsBounded :=
  Item.isBounded_readAll _ _

/-! ## Fractions -/

variable {c next : Components} {cs rest digits : List Char} {item : Item} {items : List Item} {nanos width : Nat}

theorem readDigits?_spec {least : Nat} (h : readDigits? least (some width) cs = some (digits, rest)) :
    (∀ c ∈ digits, Text.isDigit c = true) ∧ digits.length ≤ width := by
  simp only [readDigits?, Option.ite_none_right_eq_some, Option.some.injEq, Prod.mk.injEq] at h
  obtain ⟨-, rfl, -⟩ := h
  refine ⟨List.all_eq_true.mp List.all_takeWhile, ?_⟩
  exact Nat.le_trans (List.takeWhile_prefix _).length_le (List.length_take_le _ _)

theorem fraction_lt (hd : ∀ c ∈ digits, Text.isDigit c = true) (hl : digits.length ≤ width) (hw : width ≤ 9) :
    Text.natOf digits * 10 ^ (9 - width) < nanosPerSecond := by
  calc Text.natOf digits * 10 ^ (9 - width) < 10 ^ digits.length * 10 ^ (9 - width) :=
        Nat.mul_lt_mul_of_pos_right (Text.natOf_lt hd) (Nat.pow_pos (by decide))
    _ ≤ 10 ^ width * 10 ^ (9 - width) := Nat.mul_le_mul_right _ (Nat.pow_le_pow_right (by decide) hl)
    _ = nanosPerSecond := by rw [← Nat.pow_add, Nat.add_sub_cancel' hw]; rfl

theorem readFraction?_lt (h : readFraction? cs = some (nanos, rest)) : nanos < nanosPerSecond := by
  simp only [readFraction?, Option.map_eq_some_iff, Prod.exists, Prod.mk.injEq] at h
  obtain ⟨digits, _, hdigits, rfl, -⟩ := h
  obtain ⟨hd, hl⟩ := readDigits?_spec hdigits
  exact fraction_lt hd (Nat.le_refl _) hl

theorem readFixedFraction?_lt (hw : width ≤ 9) (h : readFixedFraction? width cs = some (nanos, rest)) :
    nanos < nanosPerSecond := by
  simp only [readFixedFraction?, readNumber?, Option.map_eq_some_iff, Prod.exists, Prod.mk.injEq] at h
  obtain ⟨_, _, ⟨digits, _, hdigits, rfl, -⟩, rfl, -⟩ := h
  obtain ⟨hd, hl⟩ := readDigits?_spec hdigits
  exact fraction_lt hd hl hw

/-! ## Reading -/

section

variable {p : Components → Prop}

theorem noteFraction_lasting (hp : Lasting p) {read : List Char → Option (Nat × List Char)}
    (hread : ∀ {cs nanos rest}, read cs = some (nanos, rest) → nanos < nanosPerSecond) (hc : p c)
    (h : noteFraction c cs read = some (next, rest)) : p next := by
  unfold noteFraction at h
  split at h
  · simp only [Option.bind_eq_bind, Option.pure_def, Option.bind_eq_some_iff, Option.some.injEq, Prod.mk.injEq,
      Prod.exists] at h
    obtain ⟨_, _, hnanos, _, hset, rfl, -⟩ := h
    exact hp.nanos (hread hnanos) hc hset
  · cases h
    exact hc

theorem readItem?_lasting (hp : Lasting p) (hi : item.IsBounded) (hc : p c)
    (h : readItem? c item cs = some (next, rest)) : p next := by
  cases item
  case fraction => exact noteFraction_lasting hp readFraction?_lt hc h
  case pointFraction width => exact noteFraction_lasting hp (readFixedFraction?_lt hi) hc h
  all_goals
    simp only [readItem?, Option.bind_eq_bind, Option.pure_def, Option.bind_eq_some_iff, Option.map_eq_some_iff,
      Option.some.injEq, Prod.mk.injEq, Prod.exists, reduceCtorEq] at h
  case number component =>
    obtain ⟨_, _, -, _, hset, rfl, -⟩ := h
    exact hp.set hc hset
  case monthName long =>
    obtain ⟨index, _, -, _, hset, rfl, -⟩ := h
    exact @Lasting.set p hp _ _ .month ((index + 1 : Nat) : Int) hc hset
  case weekdayName long =>
    obtain ⟨_, _, -, _, hset, rfl, -⟩ := h
    exact hp.weekday hc hset
  case half =>
    obtain ⟨_, _, -, _, hset, rfl, -⟩ := h
    exact hp.half hc hset
  case bareFraction width =>
    obtain ⟨_, _, hnanos, _, hset, rfl, -⟩ := h
    exact hp.nanos (readFixedFraction?_lt hi hnanos) hc hset
  case offset lenient =>
    obtain ⟨_, _, -, _, hset, rfl, -⟩ := h
    exact hp.offset hc hset
  case literal text =>
    obtain ⟨_, -, rfl, -⟩ := h
    exact hc
  case blank =>
    obtain ⟨rfl, -⟩ := h
    exact hc
  case zoneName =>
    obtain ⟨rfl, -⟩ := h
    exact hc

theorem readItems?_lasting (hp : Lasting p) (hi : ∀ item ∈ items, item.IsBounded) (hc : p c)
    (h : readItems? c items cs = some (next, rest)) : p next := by
  induction items generalizing c cs with
  | nil =>
    cases h
    exact hc
  | cons item items ih =>
    simp only [readItems?, Option.bind_eq_bind, Option.bind_eq_some_iff, Prod.exists] at h
    obtain ⟨c', rest', hitem, hitems⟩ := h
    exact ih (fun _ hm => hi _ (List.mem_cons_of_mem _ hm))
      (readItem?_lasting hp (hi _ List.mem_cons_self) hc hitem) hitems

theorem readFull?_lasting (hp : Lasting p) (hc : p c) (h : readFull? c cs = some (next, rest)) : p next := by
  simp only [readFull?, Option.bind_eq_bind, Option.pure_def, Option.bind_eq_some_iff, Prod.exists] at h
  obtain ⟨date, _, hdate, h⟩ := h
  split at h
  · split at h
    · simp only [Option.bind_some, Option.bind_eq_some_iff, Prod.exists] at h
      obtain ⟨clock, _, hclock, h⟩ := h
      have hread := readItems?_lasting hp (by simp [Item.IsBounded])
        (readItems?_lasting hp (by simp [Item.IsBounded]) hc hdate) hclock
      split at h
      · simp only [Option.bind_eq_some_iff, Option.some.injEq, Prod.mk.injEq] at h
        obtain ⟨_, hset, rfl, -⟩ := h
        exact hp.offset hread hset
      · simp only [Option.bind_eq_some_iff, Option.some.injEq, Prod.mk.injEq] at h
        obtain ⟨_, -, _, hset, rfl, -⟩ := h
        exact hp.offset hread hset
    · cases h
  · cases h

/-- What lasts when a component is noted holds of all that is read by the items of a format. -/
theorem readValue?_lasting (hp : Lasting p) (hi : ∀ item ∈ items, item.IsBounded) (hc : p c)
    (h : readValue? c items cs = some next) : p next := by
  fun_induction readValue? c items cs with
  | case1 c cs hempty =>
    cases h
    exact hc
  | case2 c cs hempty => cases h
  | case3 c cs items ih =>
    simp only [Option.bind_eq_bind, Option.bind_eq_some_iff, Prod.exists] at h
    obtain ⟨c', rest, hfull, hrest⟩ := h
    exact ih _ _ (fun _ hm => hi _ (List.mem_cons_of_mem _ hm)) (readFull?_lasting hp hc hfull) hrest
  | case4 c cs item items hitem ih =>
    simp only [Option.bind_eq_bind, Option.bind_eq_some_iff, Prod.exists] at h
    obtain ⟨c', rest, hitem, hrest⟩ := h
    exact ih _ _ (fun _ hm => hi _ (List.mem_cons_of_mem _ hm))
      (readItem?_lasting hp (hi _ List.mem_cons_self) hc hitem) hrest

end

theorem readValue?_inRange {pattern : String} (h : readValue? {} (formatItems pattern) cs = some c) :
    c.InRange :=
  readValue?_lasting lasting_inRange (isBounded_formatItems pattern) inRange_empty h

theorem readValue?_fractionInRange {pattern : String} (h : readValue? {} (formatItems pattern) cs = some c) :
    c.FractionInRange :=
  readValue?_lasting lasting_fractionInRange (isBounded_formatItems pattern) fractionInRange_empty h

/-! ## Dates and times -/

namespace Components

variable {day : Int} {time : Nat × Nat}

/-- A time lies within a day. -/
theorem time?_lt (hc : c.InRange) (h : c.time? = .ok time) : time.1 < 86400 := by
  unfold time? at h
  split at h
  · rename_i afternoon hour minute _ hh hm
    have hhour := hc.halfHour hour hh
    have hminute := hc.minute minute hm
    have hsecond : c.second.getD 0 ≤ 60 := by
      cases hs : c.second with
      | none => simp
      | some second => exact hc.second second hs
    simp only at h
    split at h
    · cases h
    · cases h
      cases afternoon <;> simp <;> split <;> omega
  · cases h

theorem dayOfWeek_usable {year : Int} {week weekday firstDay : Nat}
    (h : dayOfWeek year week weekday firstDay = .ok day) : isUsableDay day = true := by
  simp only [dayOfWeek] at h
  split at h
  · rename_i hr
    cases h
    exact isUsableDay_of_year hr.1 (by omega) (by omega)
  · cases h

/-- The day that a date is built from lies in the years of timestamps. -/
theorem candidate_usable (hc : c.InRange) (h : c.candidate = .ok day) : isUsableDay day = true := by
  simp only [candidate] at h
  obtain ⟨year, -, h⟩ := bind_eq_ok.mp h
  obtain ⟨isoYear, -, h⟩ := bind_eq_ok.mp h
  split at h
  · split at h
    · rename_i hdate
      cases h
      have hbounds := Date.toDay_bounds hdate.2
      exact isUsableDay_of_year hdate.1 hbounds.1 hbounds.2
    · cases h
  · split at h
    · rename_i hordinal _ _
      have hfirst := hc.ordinal _ hordinal
      split at h
      · rename_i hlast
        cases h
        exact isUsableDay_of_year hlast.1 (by omega) (by omega)
      · cases h
    · split at h
      · exact dayOfWeek_usable h
      · split at h
        · exact dayOfWeek_usable h
        · split at h
          · split at h
            · rename_i hday
              cases h
              exact hday.2
            · cases h
          · cases h

theorem day?_usable (hc : c.InRange) (h : c.day? = .ok day) : isUsableDay day = true := by
  obtain ⟨candidate, hcandidate, h⟩ := bind_eq_ok.mp h
  split at h
  · cases h
    exact candidate_usable hc hcandidate
  · cases h

end Components

end LogPipeline.Time
