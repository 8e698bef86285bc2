import LogPipeline.Proofs.Time.Offsets
import LogPipeline.Proofs.Time.Rendering

/-!
# The current year

The current year has a part in what a format makes of a value only if no year was read, and then it stands for a
year in front of the value: a format without a year reads a value as the same format behind a year reads the value
behind the current year.
-/

namespace LogPipeline.Time

open Components

variable {c next : Components} {year other : Int} {isoYear : Option Int}

/-! ## Years that were read -/

namespace Components

/-- Whether a year was read, whole or within its century. -/
def HasYear (c : Components) : Prop := c.year.isSome ∨ c.yearOfCentury.isSome

/-- The components with years, if they are given, in place of all that they say of years. -/
def onlyYears (year isoYear : Option Int) (c : Components) : Components :=
  { c with year := year, century := none, yearOfCentury := none, isoYear := isoYear, isoYearOfCentury := none }

theorem fullYear_self (year : Option Int) : fullYear year none none = .ok year := by
  cases year <;> rfl

/-- The day that components say depends on the years that they say, however they say them. -/
theorem candidate_eq (c : Components) : c.candidate = (do
    let year ← fullYear c.year c.century c.yearOfCentury
    let isoYear ← fullYear c.isoYear none c.isoYearOfCentury
    (c.onlyYears year isoYear).candidate) := by
  unfold candidate
  simp only [onlyYears, fullYear_self]
  rfl

theorem dayOfWeek_ne_missing (year : Int) (week weekday firstDay : Nat) :
    dayOfWeek year week weekday firstDay ≠ .error .missing := by
  unfold dayOfWeek
  dsimp only
  split <;> nofun

/-- What is missing besides a year is missing in every year. -/
theorem candidate_missing (h : (c.onlyYears (some year) isoYear).candidate = .error .missing) (other : Int) :
    (c.onlyYears (some other) isoYear).candidate = .error .missing := by
  simp only [candidate, onlyYears, fullYear_self, bind, Except.bind] at h ⊢
  split at h
  · split at h <;> cases h
  · rename_i hdate
    split at h
    · split at h <;> cases h
    · rename_i hordinal
      split at h
      · exact absurd h (dayOfWeek_ne_missing _ _ _ _)
      · rename_i hsunday
        split at h
        · exact absurd h (dayOfWeek_ne_missing _ _ _ _)
        · rename_i hmonday
          -- the same components are missing, whatever the year
          split
          · exact (hdate _ _ _ rfl ‹_› ‹_›).elim
          · split
            · exact (hordinal _ _ rfl ‹_›).elim
            · split
              · exact (hsunday _ _ _ rfl ‹_› ‹_›).elim
              · split
                · exact (hmonday _ _ _ rfl ‹_› ‹_›).elim
                · exact h

theorem fullYear_cases {known century yearOfCentury : Option Int} (h : known.isSome ∨ yearOfCentury.isSome) :
    (∃ year, fullYear known century yearOfCentury = .ok (some year)) ∨
      fullYear known century yearOfCentury = .error .contradiction := by
  unfold fullYear
  split
  · obtain ⟨year, rfl⟩ : ∃ year, _ = some year := Option.isSome_iff_exists.mp (by simpa using h)
    exact .inl ⟨year, rfl⟩
  · split
    · exact .inr rfl
    · split
      · exact .inl ⟨_, rfl⟩
      · exact .inr rfl
  · split
    · exact .inr rfl
    · exact .inl ⟨_, rfl⟩
  · exact .inl ⟨_, rfl⟩
  · simp at h

theorem candidate_of_missing (h : c.day? = .error .missing) : c.candidate = .error .missing := by
  cases hc : c.candidate with
  | ok day =>
    simp only [day?, hc, bind, Except.bind] at h
    split at h <;> cases h
  | error gap =>
    rw [day?, hc] at h
    exact h

theorem setYear_eq (h : c.setYear year = some next) : next = { c with year := some year } := by
  simp only [setYear, Option.ite_none_right_eq_some, Option.bind_eq_bind, Option.pure_def,
    Option.bind_eq_some_iff, Option.some.injEq] at h
  obtain ⟨-, new, hnew, rfl⟩ := h
  rw [agree_eq hnew]

/-- If a year was read and a date is missing something else, no other year makes it a date. -/
theorem day?_setYear (hy : c.HasYear) (hm : c.day? = .error .missing) (hs : c.setYear other = some next) (day : Int) :
    next.day? ≠ .ok day := by
  intro hnext
  obtain rfl := setYear_eq hs
  obtain ⟨candidate, hcandidate, -⟩ := bind_eq_ok.mp hnext
  rw [candidate_eq] at hcandidate
  obtain ⟨newYear, hnew, hcandidate⟩ := bind_eq_ok.mp hcandidate
  obtain ⟨isoYear, hiso, hcandidate⟩ := bind_eq_ok.mp hcandidate
  dsimp only at hnew hiso
  have hmissing := candidate_of_missing hm
  rw [candidate_eq, hiso] at hmissing
  rcases fullYear_cases hy with ⟨year, hyear⟩ | hyear
  · -- a year was known, so what was missing then is missing still
    rw [hyear] at hmissing
    have hother : (some other).isSome ∨ c.yearOfCentury.isSome := .inl rfl
    rcases fullYear_cases hother with ⟨y, h⟩ | h
    · cases h.symm.trans hnew
      have hstill := candidate_missing hmissing y
      cases hstill.symm.trans hcandidate
    · cases h.symm.trans hnew
  · rw [hyear] at hmissing
    cases hmissing

end Components

namespace Layout

variable {zone : Zone} {given pattern value : String} {cs : List Char}

theorem formatDay?_of_hasYear (hy : c.HasYear) (year : Int) : formatDay? year c = c.day?.toOption := by
  unfold formatDay?
  cases hd : c.day? with
  | ok day => rfl
  | error gap =>
    cases gap with
    | contradiction => rfl
    | missing =>
      show ((c.setYear year).bind fun next => next.day?.toOption) = none
      rw [Option.bind_eq_none_iff]
      intro next hs
      cases hnext : next.day? with
      | ok day => exact absurd hnext (day?_setYear hy hd hs day)
      | error gap => rfl

/-- Where a year was read, the current year has no part in the result. -/
theorem readFormat?_of_hasYear {items : List Item} (hc : readValue? {} items cs = some c) (hy : c.HasYear)
    (year other : Int) : readFormat? year zone items cs = readFormat? other zone items cs := by
  rw [readFormat?_eq, readFormat?_eq, hc, Option.bind_some, Option.bind_some, dateTime?, dateTime?,
    formatDay?_of_hasYear hy, formatDay?_of_hasYear hy]

end Layout

/-! ## Items without a year -/

/-- Whether a component says a year, or a part of one. -/
def Component.isYear : Component → Bool
  | .year | .century | .yearOfCentury | .isoYear | .isoYearOfCentury => true
  | _ => false

/-- Whether a value is read for a year, or a part of one, by an item. -/
def Item.readsYear : Item → Bool
  | .number component => component.isYear
  | .full => true
  | _ => false

variable {component : Component} {n : Int} {item : Item} {items : List Item} {cs rest : List Char}

namespace Components

theorem setHalf_onlyYears (year isoYear : Option Int) (c : Components) (afternoon : Bool) :
    (c.onlyYears year isoYear).setHalf afternoon = (c.setHalf afternoon).map (onlyYears year isoYear) := by
  simp only [setHalf, Option.bind_eq_bind, Option.pure_def, Option.map_bind, Function.comp_def, Option.map_some]
  rfl

theorem setMonth_onlyYears (year isoYear : Option Int) (c : Components) (month : Nat) :
    (c.onlyYears year isoYear).setMonth month = (c.setMonth month).map (onlyYears year isoYear) := by
  simp only [setMonth, Option.bind_eq_bind, Option.pure_def, apply_ite (Option.map _), Option.map_none,
    Option.map_bind, Function.comp_def, Option.map_some]
  rfl

theorem setWeekday_onlyYears (year isoYear : Option Int) (c : Components) (weekday : Nat) :
    (c.onlyYears year isoYear).setWeekday weekday = (c.setWeekday weekday).map (onlyYears year isoYear) := by
  simp only [setWeekday, Option.bind_eq_bind, Option.pure_def, Option.map_bind, Function.comp_def, Option.map_some]
  rfl

theorem setNanos_onlyYears (year isoYear : Option Int) (c : Components) (nanos : Nat) :
    (c.onlyYears year isoYear).setNanos nanos = (c.setNanos nanos).map (onlyYears year isoYear) := by
  simp only [setNanos, Option.bind_eq_bind, Option.pure_def, Option.map_bind, Function.comp_def, Option.map_some]
  rfl

theorem setOffset_onlyYears (year isoYear : Option Int) (c : Components) (offset : Int) :
    (c.onlyYears year isoYear).setOffset offset = (c.setOffset offset).map (onlyYears year isoYear) := by
  simp only [setOffset, Option.bind_eq_bind, Option.pure_def, Option.map_bind, Function.comp_def, Option.map_some]
  rfl

theorem set_onlyYears (year isoYear : Option Int) (c : Components) (h : component.isYear = false) (n : Int) :
    (c.onlyYears year isoYear).set component n = (c.set component n).map (onlyYears year isoYear) := by
  cases component
  case hour =>
    simp only [set, setHalf_onlyYears, Option.bind_eq_bind, Option.pure_def, apply_ite (Option.map _), Option.map_none,
      Option.map_bind, Option.bind_map, Function.comp_def, Option.map_some]
    rfl
  case month => exact setMonth_onlyYears year isoYear c n.toNat
  case daysFromSunday | weekdayFromMonday | nanos =>
    simp only [set, setWeekday_onlyYears, setNanos_onlyYears, apply_ite (Option.map _), Option.map_none]
  case year | century | yearOfCentury | isoYear | isoYearOfCentury => cases h
  all_goals
    simp only [set, Option.bind_eq_bind, Option.pure_def, apply_ite (Option.map _), Option.map_none,
      Option.map_bind, Function.comp_def, Option.map_some]
    rfl

end Components

/-! ## Reading without a year -/

namespace Layout

/-- What is read of a value, with years in place of what the components say of years. -/
def withYears (year isoYear : Option Int) (read : Components × List Char) : Components × List Char :=
  (read.1.onlyYears year isoYear, read.2)

theorem noteFraction_onlyYears (year isoYear : Option Int) (c : Components) (cs : List Char)
    (read : List Char → Option (Nat × List Char)) :
    noteFraction (c.onlyYears year isoYear) cs read = (noteFraction c cs read).map (withYears year isoYear) := by
  unfold noteFraction
  split
  · simp only [setNanos_onlyYears, Option.bind_eq_bind, Option.pure_def, Option.map_bind, Option.bind_map,
      Function.comp_def, Option.map_some]
    rfl
  · rfl

theorem readItem?_onlyYears (year isoYear : Option Int) (c : Components) (h : item.readsYear = false) (cs : List Char) :
    readItem? (c.onlyYears year isoYear) item cs = (readItem? c item cs).map (withYears year isoYear) := by
  cases item
  case full => cases h
  case fault => rfl
  case blank => rfl
  case zoneName => rfl
  case literal text =>
    simp only [readItem?, Option.map_map, Function.comp_def]
    rfl
  case fraction => exact noteFraction_onlyYears year isoYear c cs _
  case pointFraction => exact noteFraction_onlyYears year isoYear c cs _
  case number component =>
    simp only [readItem?, set_onlyYears year isoYear c h, Option.bind_eq_bind, Option.pure_def, Option.map_bind,
      Option.bind_map, Function.comp_def, Option.map_some]
    rfl
  all_goals
    simp only [readItem?, setMonth_onlyYears, setWeekday_onlyYears, setHalf_onlyYears,
      setNanos_onlyYears, setOffset_onlyYears, Option.bind_eq_bind, Option.pure_def, Option.map_bind,
      Option.bind_map, Function.comp_def, Option.map_some]
    rfl

theorem readValue?_onlyYears (year isoYear : Option Int) (c : Components)
    (h : ∀ item ∈ items, item.readsYear = false) (cs : List Char) :
    readValue? (c.onlyYears year isoYear) items cs =
      (readValue? c items cs).map (onlyYears year isoYear) := by
  induction items generalizing c cs with
  | nil =>
    rw [readValue?, readValue?]
    split <;> rfl
  | cons item items ih =>
    obtain ⟨hitem, hitems⟩ := List.forall_mem_cons.mp h
    have hfull : item ≠ .full := by
      rintro rfl
      cases hitem
    rw [readValue?, readValue?]
    · simp only [readItem?_onlyYears year isoYear c hitem, Option.bind_eq_bind, Option.map_bind, Option.bind_map,
        Function.comp_def]
      exact congrArg _ (funext fun read => ih read.1 hitems read.2)
    · exact fun heq => hfull heq
    · exact fun heq => hfull heq

/-- Without a year there is no date, and with the current one the date is that of the year. -/
theorem formatDay?_onlyYears {year : Int} (hf : fitsWord year = true) (hc : c = c.onlyYears none none) :
    formatDay? year c = (c.onlyYears (some year) none).day?.toOption := by
  have hmissing : c.day? = .error .missing := by
    rw [hc]
    rfl
  have hset : c.setYear year = some (c.onlyYears (some year) none) := by
    rw [hc, setYear, if_pos hf]
    rfl
  unfold formatDay?
  rw [hmissing, hset]
  rfl

end Layout

/-! ## Formats behind a year -/

namespace Item

theorem length_readPlain (cs : List Char) : (readPlain cs).2.length ≤ cs.length := by
  unfold readPlain
  split <;> simp only [List.length_cons, List.length_nil] <;> omega

theorem length_readSpecifier (cs : List Char) : (readSpecifier cs).2.length ≤ cs.length := by
  unfold readSpecifier
  split
  · simp only [List.length_cons]
    omega
  · simp only [List.length_drop, List.length_cons]
    omega
  · rename_i c rest _ _
    have hrest := length_readPlain rest
    split
    · split <;> rename_i h <;> rw [h] at hrest <;> exact Nat.le_succ_of_le hrest
    · exact length_readPlain (c :: rest)
  · exact Nat.le_refl _

/-- Any limit that is long enough gives the same items. -/
theorem readAll_limit {limit limit' : Nat} (h : cs.length ≤ limit) (h' : cs.length ≤ limit') :
    readAll limit cs = readAll limit' cs := by
  induction limit generalizing limit' cs with
  | zero =>
    obtain rfl := List.eq_nil_of_length_eq_zero (Nat.le_zero.mp h)
    cases limit' <;> rfl
  | succ limit ih =>
    match cs, limit' with
    | [], 0 => rfl
    | [], _ + 1 => rfl
    | c :: rest, limit' + 1 =>
      have hl : rest.length ≤ limit := Nat.le_of_succ_le_succ h
      have hl' : rest.length ≤ limit' := Nat.le_of_succ_le_succ h'
      have hread {tail : List Char} (ht : tail.length ≤ rest.length) : readAll limit tail = readAll limit' tail :=
        ih (Nat.le_trans ht hl) (Nat.le_trans ht hl')
      obtain ⟨⟨items, tail⟩, hs⟩ : ∃ read, readSpecifier rest = read := ⟨_, rfl⟩
      have hspecifier : tail.length ≤ rest.length := by simpa only [hs] using length_readSpecifier rest
      simp only [readAll, hs, hread hspecifier, hread (List.dropWhile_suffix Text.isBlank).length_le,
        hread (List.dropWhile_suffix isLiteral).length_le]

/-- The items of a format that stands behind a blank. -/
def bodyItems (pattern : String) : List Item :=
  readAll pattern.toList.length (pattern.toList.dropWhile Text.isBlank)

/-- A format begins with its first item that is not blank, or with blanks and then this item. -/
theorem formatItems_cases (pattern : String) :
    formatItems pattern = bodyItems pattern ∨ formatItems pattern = .blank :: bodyItems pattern := by
  unfold formatItems bodyItems
  cases hcs : pattern.toList with
  | nil => exact .inl rfl
  | cons c rest =>
    by_cases hc : Text.isBlank c = true
    · have hpercent : c ≠ '%' := by
        rintro rfl
        cases hc
      refine .inr ?_
      rw [List.dropWhile_cons_of_pos hc, List.length_cons, readAll, if_neg hpercent, if_pos hc]
      have hle := (List.dropWhile_suffix (l := rest) Text.isBlank).length_le
      rw [readAll_limit hle (Nat.le_succ_of_le hle)]
    · rw [List.dropWhile_cons_of_neg hc]
      exact .inl rfl

theorem mem_bodyItems {pattern : String} (h : item ∈ bodyItems pattern) : item ∈ formatItems pattern := by
  rcases formatItems_cases pattern with heq | heq <;> rw [heq]
  · exact h
  · exact List.mem_cons_of_mem _ h

theorem formatItems_year (pattern : String) :
    formatItems ("%Y " ++ pattern) = .number .year :: .blank :: bodyItems pattern := by
  have htext : ("%Y " ++ pattern).toList = '%' :: 'Y' :: ' ' :: pattern.toList := by simp
  have hle := (List.dropWhile_suffix (l := pattern.toList) Text.isBlank).length_le
  rw [formatItems, htext, bodyItems, readAll_limit hle (Nat.le_succ_of_le hle)]
  rfl

/-- A text with a percent sign is a layout if its items are without a fault. -/
theorem parse_eq_ok_iff {pattern : String} {layout : Layout} (h : '%' ∈ pattern.toList) :
    Layout.parse pattern = .ok layout ↔ .fault ∉ formatItems pattern ∧ layout = .format pattern pattern := by
  have hname {name : String} (hn : '%' ∉ name.toList) : pattern ≠ name := by
    rintro rfl
    exact hn h
  have hcontains : pattern.toList.contains '%' = true := by simpa using h
  have hformat : isFormat pattern = true ↔ .fault ∉ formatItems pattern := by simp [isFormat]
  rw [Layout.parse, if_neg (hname (by decide)), if_neg (hname (by decide)), if_neg (hname (by decide)),
    if_neg (hname (by decide)), if_pos hcontains, ← hformat]
  dsimp only
  split
  · rename_i hitems
    simp only [hitems, Except.ok.injEq, true_and, eq_comm]
  · rename_i hitems
    simp only [hitems, reduceCtorEq, false_and]

end Item

/-! ## Values behind a year -/

/-- What is left of a text has no blank in front. -/
theorem trimLeft_trim (cs : List Char) : Text.trimLeft (Text.trim cs) = Text.trim cs := by
  have hprefix : Text.trim cs <+: Text.trimLeft cs := by
    rw [← List.reverse_suffix, Text.trim, Text.trimRight, List.reverse_reverse]
    exact List.dropWhile_suffix Text.isBlank
  have hhead := List.head?_dropWhile_not Text.isBlank cs
  cases htrim : Text.trim cs with
  | nil => rfl
  | cons c rest =>
    obtain ⟨tail, htail⟩ := hprefix
    rw [htrim] at htail
    rw [← Text.trimLeft, ← htail] at hhead
    rw [Text.trimLeft, List.dropWhile_cons_of_neg (by simpa using hhead)]

/-- What is left of a text has no blank at the end, whatever stands in front of it. -/
theorem trimRight_append {cs : List Char} (h : Text.trim cs ≠ []) (front : List Char) :
    Text.trimRight (front ++ Text.trim cs) = front ++ Text.trim cs := by
  obtain ⟨tail, htail⟩ : ∃ tail, (Text.trimLeft cs).reverse.dropWhile Text.isBlank = tail := ⟨_, rfl⟩
  have htrim : Text.trim cs = tail.reverse := by rw [Text.trim, Text.trimRight, htail]
  have hhead := List.head?_dropWhile_not Text.isBlank (Text.trimLeft cs).reverse
  rw [htail] at hhead
  rw [htrim] at h ⊢
  cases tail with
  | nil => exact absurd rfl h
  | cons c rest =>
    rw [Text.trimRight, List.reverse_append, List.reverse_reverse, List.cons_append,
      List.dropWhile_cons_of_neg (by simpa using hhead), ← List.cons_append, List.reverse_append, List.reverse_reverse]

theorem toDigits_year {y : Nat} (hl : 1000 ≤ y) (hg : y ≤ 9999) : Nat.toDigits 10 y = Instant.lastDigits 4 y := by
  rw [Nat.toDigits_of_base_le (by decide) (by omega), Nat.toDigits_of_base_le (by decide) (by omega),
    Nat.toDigits_of_base_le (by decide) (by omega), Nat.toDigits_of_lt_base (by omega)]
  simp only [Instant.lastDigits, List.nil_append]
  rw [Nat.mod_eq_of_lt (show y / 10 / 10 / 10 < 10 by omega)]

/-- A text of four digits, a blank and what is left of another text ends with its last digit or with that text. -/
theorem trim_year (y : Nat) (cs : List Char) :
    Text.trim (Instant.lastDigits 4 y ++ ' ' :: Text.trim cs) =
      Instant.lastDigits 4 y ++ if Text.trim cs = [] then [] else ' ' :: Text.trim cs := by
  have hdigits : ∀ c ∈ Instant.lastDigits 4 y, Text.isBlank c = false :=
    fun c hc => Text.isBlank_of_isDigit (Instant.isDigit_of_mem_lastDigits hc)
  have hleft (rest : List Char) :
      Text.trimLeft (Instant.lastDigits 4 y ++ rest) = Instant.lastDigits 4 y ++ rest := by
    cases hd : Instant.lastDigits 4 y with
    | nil => simpa [hd] using Instant.length_lastDigits 4 y
    | cons c digits =>
      have hc : Text.isBlank c = false := hdigits c (by rw [hd]; exact List.mem_cons_self)
      rw [List.cons_append, Text.trimLeft, List.dropWhile_cons_of_neg (by simp [hc])]
  rw [Text.trim, hleft]
  split
  · rename_i hempty
    have hself := Text.trim_eq_self hdigits
    rw [Text.trim, ← List.append_nil (Instant.lastDigits 4 y), hleft, List.append_nil] at hself
    rw [hempty, List.append_nil, Text.trimRight, List.reverse_append]
    exact hself
  · rename_i htrim
    have hfront : Instant.lastDigits 4 y ++ ' ' :: Text.trim cs = (Instant.lastDigits 4 y ++ [' ']) ++ Text.trim cs := by
      simp
    rw [hfront, trimRight_append htrim]

/-- A format behind a year reads the format, with the year noted. -/
theorem readValue?_behind {y : Nat} (hg : y ≤ 9999) (pattern : String) (cs : List Char) :
    readValue? {} (formatItems ("%Y " ++ pattern))
        (Text.trim (Instant.lastDigits 4 y ++ ' ' :: Text.trim cs)) =
      readValue? (onlyYears (some (y : Int)) none {}) (Item.bodyItems pattern) (Text.trim cs) := by
  have hset : Components.set {} .year (y : Int) = some (onlyYears (some (y : Int)) none {}) := by
    have hfits : fitsWord (y : Int) = true := by
      simp only [fitsWord, Bool.and_eq_true, decide_eq_true_eq]
      omega
    simp [Components.set, setYear, hfits, agree, onlyYears]
  have hfour : y < 10 ^ 4 := by omega
  have hyear (rest : List Char) : readItem? {} (.number .year) (Instant.lastDigits 4 y ++ rest) =
      some (onlyYears (some (y : Int)) none {}, rest) := Written.number_lastDigits rfl (by decide) hfour hset
  have hblank : Text.trimLeft (if Text.trim cs = [] then [] else ' ' :: Text.trim cs) = Text.trim cs := by
    split
    · rename_i hempty
      rw [hempty]
      rfl
    · rw [Text.trimLeft, List.dropWhile_cons_of_pos (by decide), ← Text.trimLeft, trimLeft_trim]
  rw [Item.formatItems_year, trim_year, readValue?_cons (hyear _) (by decide), readValue?_cons rfl (by decide), hblank]

theorem readValue?_body (c : Components) (pattern : String) (cs : List Char) :
    readValue? c (formatItems pattern) (Text.trim cs) = readValue? c (Item.bodyItems pattern) (Text.trim cs) := by
  rcases Item.formatItems_cases pattern with heq | heq
  · rw [heq]
  · have hblank : readItem? c .blank (Text.trim cs) = some (c, Text.trim cs) := by rw [readItem?, trimLeft_trim]
    rw [heq, readValue?_cons hblank (by decide)]

/-! ## The current year -/

namespace Layout

variable {zone : Zone} {pattern value : String}

/-- A format without a year reads a value as the same format behind a year reads it behind the current year. -/
theorem readFormat?_behind {y : Nat} (hg : y ≤ 9999) (h : ∀ item ∈ formatItems pattern, item.readsYear = false)
    (zone : Zone) (cs : List Char) (other : Int) :
    readFormat? y zone (formatItems pattern) (Text.trim cs) =
      readFormat? other zone (formatItems ("%Y " ++ pattern))
        (Text.trim (Instant.lastDigits 4 y ++ ' ' :: Text.trim cs)) := by
  have hbody : ∀ item ∈ Item.bodyItems pattern, item.readsYear = false :=
    fun item hm => h item (Item.mem_bodyItems hm)
  -- both read the same items, one of them with the year noted from the beginning
  rw [readFormat?_eq, readFormat?_eq, readValue?_body, readValue?_behind hg, readValue?_onlyYears _ _ _ hbody]
  cases hc : readValue? {} (Item.bodyItems pattern) (Text.trim cs) with
  | none => rfl
  | some c =>
    have hfits : fitsWord (y : Int) = true := by
      simp only [fitsWord, Bool.and_eq_true, decide_eq_true_eq]
      omega
    have hyearless : c = c.onlyYears none none := by
      -- reading with no year in place of what was said of years changes nothing, so nothing was said
      have hread := readValue?_onlyYears none none {} hbody (Text.trim cs)
      rw [show onlyYears none none {} = {} from rfl, hc] at hread
      exact Option.some.inj hread
    have hday : formatDay? y c = formatDay? other (c.onlyYears (some (y : Int)) none) := by
      rw [formatDay?_onlyYears hfits hyearless, formatDay?_of_hasYear (.inl rfl)]
    rw [Option.map_some, Option.bind_some, Option.bind_some, dateTime?, dateTime?, hday]
    rfl

/-- Where a format reads a year, whole or within its century, the current year does not matter. A format that reads
no year makes of a value in a year of four digits what the format behind `%Y` makes of the year, a blank and the
value, whatever the current year is then. -/
theorem current_year_matters (value : String) (zone : Zone) :
    (∀ given pattern c, readValue? {} (formatItems pattern) (Text.trim value.toList) = some c → c.HasYear →
      ∀ year other, (format given pattern).read? year zone value = (format given pattern).read? other zone value) ∧
    ∀ pattern layout, '%' ∈ pattern.toList → Layout.parse pattern = .ok layout →
      (∀ item ∈ formatItems pattern, item.readsYear = false) →
      ∃ dated, Layout.parse ("%Y " ++ pattern) = .ok dated ∧ ∀ y : Nat, 1000 ≤ y → y ≤ 9999 → ∀ other,
        layout.read? y zone value =
          dated.read? other zone (toString y ++ " " ++ String.ofList (Text.trim value.toList)) := by
  refine ⟨fun given pattern c hc hy year other => readFormat?_of_hasYear hc hy year other,
    fun pattern layout hpercent hparse hyears => ?_⟩
  obtain ⟨hfault, rfl⟩ := (Item.parse_eq_ok_iff hpercent).mp hparse
  have hdated : .fault ∉ formatItems ("%Y " ++ pattern) := by
    simpa [Item.formatItems_year] using fun hm => hfault (Item.mem_bodyItems hm)
  refine ⟨_, (Item.parse_eq_ok_iff (by simp)).mpr ⟨hdated, rfl⟩, fun y hl hg other => ?_⟩
  have htext : (toString y ++ " " ++ String.ofList (Text.trim value.toList)).toList =
      Instant.lastDigits 4 y ++ ' ' :: Text.trim value.toList := by
    simp [toDigits_year hl hg]
  rw [read?, read?, htext]
  exact readFormat?_behind hg hyears zone value.toList other

/-- A value with a year of its century, and one without a year. -/
theorem current_year_matters_of_values :
    let sorted := Layout.format "%y/%m/%d" "%y/%m/%d"
    let system := Layout.format "%b %e %H:%M:%S" "%b %e %H:%M:%S"
    sorted.read? 2024 .utc "21/03/04" = sorted.read? 1999 .utc "21/03/04" ∧
      Layout.parse "%Y %b %e %H:%M:%S" = .ok (.format "%Y %b %e %H:%M:%S" "%Y %b %e %H:%M:%S") ∧
      system.read? 2024 .utc " Mar  7 04:02:16" =
        (Layout.format "%Y %b %e %H:%M:%S" "%Y %b %e %H:%M:%S").read? 1999 .utc "2024 Mar  7 04:02:16" ∧
      system.read? 2024 .utc " Mar  7 04:02:16" = some ⟨1709784136, 0⟩ := by
  intro sorted system
  have hread : readValue? {} (formatItems "%y/%m/%d") (Text.trim "21/03/04".toList) = some
      { yearOfCentury := some 21, month := some 3, day := some 4 } := by decide +kernel
  have hparse : Layout.parse "%b %e %H:%M:%S" = .ok system := by decide +kernel
  have hyears : ∀ item ∈ formatItems "%b %e %H:%M:%S", item.readsYear = false := by decide +kernel
  have hsystem : system.read? 2024 .utc " Mar  7 04:02:16" = some ⟨1709784136, 0⟩ := by decide +kernel
  obtain ⟨hsorted, -⟩ := current_year_matters "21/03/04" .utc
  obtain ⟨-, hbehind⟩ := current_year_matters " Mar  7 04:02:16" .utc
  obtain ⟨dated, hdated, hsame⟩ := hbehind _ system (by decide) hparse hyears
  have hshown : Layout.parse "%Y %b %e %H:%M:%S" = .ok (.format "%Y %b %e %H:%M:%S" "%Y %b %e %H:%M:%S") := by
    decide +kernel
  cases hdated.symm.trans hshown
  exact ⟨hsorted _ _ _ hread (.inr rfl) 2024 1999, hshown,
    hsame 2024 (by decide) (by decide) 1999, hsystem⟩

end Layout

end LogPipeline.Time
