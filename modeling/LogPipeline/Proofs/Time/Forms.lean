import LogPipeline.Time.Layout
import LogPipeline.Proofs.Time.Ranges

/-!
# Forms of a timestamp

A value is read item by item, so that what a form with an offset reads ends with the offset, and the form without
it does not read the value. The forms of ISO 8601 differ in what stands between the date and the time, by which no
two of them take the same value.
-/

namespace LogPipeline.Time

open Text (isBlank isDigit isBlank_of_isDigit natOf trimLeft dropStart?)

variable {c next : Components} {cs rest : List Char} {items more : List Item} {form : List Item} {n width : Nat}

/-! ## Values and items -/

/-- A value is read by the first items of a format and then by the others. -/
theorem readValue?_append (h : .full ∉ items) :
    readValue? c (items ++ more) cs =
      (readItems? c items cs).bind fun (next, rest) => readValue? next more rest := by
  induction items generalizing c cs with
  | nil => rfl
  | cons item items ih =>
    simp only [List.mem_cons, not_or] at h
    rw [List.cons_append, readValue?, readItems?]
    · cases hitem : readItem? c item cs with
      | none => rfl
      | some read => exact ih h.2
    · exact fun heq => h.1 heq.symm

theorem readValue?_cons {item : Item} (hi : readItem? c item cs = some (next, rest)) (h : item ≠ .full) :
    readValue? c (item :: items) cs = readValue? next items rest := by
  rw [readValue?, hi]
  · rfl
  · exact h

theorem readValue?_eq_none (h : .full ∉ items) (hi : readItems? c items cs = some (next, rest))
    (hr : rest ≠ []) : readValue? c items cs = none := by
  have happend : readValue? c (items ++ []) cs = _ := readValue?_append h
  rw [List.append_nil, hi] at happend
  simpa [readValue?, hr] using happend

/-- A value that ends with an offset is not read without it. -/
theorem readValue?_of_offset {lenient : Bool} (h : .full ∉ items)
    (hv : readValue? c (items ++ [.offset lenient]) cs = some next) : readValue? c items cs = none := by
  rw [readValue?_append h, Option.bind_eq_some_iff] at hv
  obtain ⟨⟨c', rest⟩, hitems, hoffset⟩ := hv
  refine readValue?_eq_none h hitems ?_
  rintro rfl
  cases hoffset

/-! ## The forms of a timestamp -/

namespace Layout

def datePart : List Item :=
  [.number .year, .literal ['-'], .number .month, .literal ['-'], .number .day]

def clockPart : List Item :=
  [.number .hour, .literal [':'], .number .minute, .literal [':'], .number .second, .fraction]

/-- A date and a time with a mark between them. -/
def withMark (mark : Item) : List Item := datePart ++ mark :: clockPart

theorem localForms_eq : localForms = [withMark (.literal ['T']), withMark .blank] := by decide +kernel

theorem zonedForms_eq : zonedForms =
    [withMark (.literal ['T']) ++ [.offset true], withMark .blank ++ [.offset true]] := by decide +kernel

theorem readValue?_date : readValue? c (datePart ++ more) cs =
    (readItems? c datePart cs).bind fun (next, rest) => readValue? next more rest :=
  readValue?_append (by decide)

/-- What begins with a form with a `T` and with one with a blank behind the date do not read the same value. -/
theorem withMark_unique (afterMark afterBlank : List Item)
    (h : readValue? c (withMark (.literal ['T']) ++ afterMark) cs = some next) :
    readValue? c (withMark .blank ++ afterBlank) cs = none := by
  rw [withMark, List.append_assoc, readValue?_date, Option.bind_eq_some_iff] at h
  obtain ⟨⟨c', rest⟩, hdate, hmark⟩ := h
  rw [withMark, List.append_assoc, readValue?_date, hdate, Option.bind_some]
  match rest, hmark with
  | mark :: rest, hmark =>
    by_cases hT : 'T' = mark
    · -- the other form finds no digit of the hour at the `T`
      subst hT
      rfl
    · simp [readValue?, readItem?, dropStart?, hT] at hmark

/-! ## Timestamps of the Internet standard -/

theorem readNumber?_head {value : Nat} (hw : 0 < width) (h : readNumber? width (some width) cs = some (value, rest)) :
    ∃ c tail, cs = c :: tail ∧ isDigit c = true := by
  obtain ⟨width, rfl⟩ := Nat.exists_eq_succ_of_ne_zero (Nat.ne_of_gt hw)
  cases cs with
  | nil => simp [readNumber?, readDigits?] at h
  | cons c tail =>
    cases hd : isDigit c with
    | true => exact ⟨c, tail, rfl, hd⟩
    | false => simp [readNumber?, readDigits?, hd] at h

theorem trimLeft_of_isDigit {d : Char} (h : isDigit d = true) : trimLeft (d :: rest) = d :: rest := by
  rw [trimLeft, List.dropWhile_cons_of_neg (by simp [isBlank_of_isDigit h])]

/-- Digits that are read as a number of a full width are read as that component. -/
theorem readItem?_number {component : Component} {value : Nat} (hc : component.width = some width) (hw : 0 < width)
    (h : readNumber? width (some width) cs = some (value, rest)) (hs : c.set component value = some next) :
    readItem? c (.number component) cs = some (next, rest) := by
  obtain ⟨d, tail, rfl, hd⟩ := readNumber?_head hw h
  have hnumber : readNumber? 1 (some width) (d :: tail) = some (value, rest) := by
    simp only [readNumber?, readDigits?, Option.map_eq_some_iff, Option.ite_none_right_eq_some] at h ⊢
    obtain ⟨read, ⟨hl, hr⟩, heq⟩ := h
    exact ⟨read, ⟨by omega, hr⟩, heq⟩
  have hread : readComponent? component (d :: tail) = some ((value : Int), rest) := by
    simp only [readComponent?, trimLeft_of_isDigit hd, hc, hnumber]
    split
    · split
      · rename_i heq
        cases heq
        cases hd
      · rename_i heq
        cases heq
        cases hd
      · rfl
    · rfl
  simp only [readItem?, hread, Option.bind_eq_bind, Option.bind_some, hs, Option.pure_def]

theorem readMark?_eq {mark : Char} (h : readMark? mark cs = some rest) : cs = mark :: rest := by
  cases cs with
  | nil => cases h
  | cons c tail =>
    simp only [readMark?, Option.ite_none_right_eq_some, Option.some.injEq] at h
    rw [h.1, h.2]

theorem readItem?_mark (mark : Char) : readItem? c (.literal [mark]) (mark :: rest) = some (c, rest) := by
  simp [readItem?, dropStart?]

/-- What a timestamp consists of: a date, a mark, a time, and an offset below a day. -/
theorem readTimestamp?_parts (h : readTimestamp? cs = some c) :
    ∃ date mark rest next tail offset, readItems? {} datePart cs = some (date, mark :: rest) ∧
      isDigit mark = false ∧ trimLeft rest = rest ∧ readItems? date clockPart rest = some (next, tail) ∧ tail ≠ [] ∧
      next.setOffset offset = some c ∧ offset.natAbs ≤ greatestOffset := by
  unfold readTimestamp? at h
  -- all numbers are read before any of them is noted; they are noted in the order of the items
  obtain ⟨⟨year, rest₁⟩, hyear, h⟩ := Option.bind_eq_some_iff.mp h
  obtain ⟨rest₂, hmark₁, h⟩ := Option.bind_eq_some_iff.mp h
  obtain ⟨⟨month, rest₃⟩, hmonth, h⟩ := Option.bind_eq_some_iff.mp h
  obtain ⟨rest₄, hmark₂, h⟩ := Option.bind_eq_some_iff.mp h
  obtain ⟨⟨day, rest₅⟩, hday, h⟩ := Option.bind_eq_some_iff.mp h
  dsimp only at h
  split at h
  · rename_i mark rest
    split at h
    · rename_i hmark
      obtain ⟨_, ⟨⟩, h⟩ := Option.bind_eq_some_iff.mp h
      obtain ⟨⟨hour, rest₆⟩, hhour, h⟩ := Option.bind_eq_some_iff.mp h
      obtain ⟨rest₇, hmark₃, h⟩ := Option.bind_eq_some_iff.mp h
      obtain ⟨⟨minute, rest₈⟩, hminute, h⟩ := Option.bind_eq_some_iff.mp h
      obtain ⟨rest₉, hmark₄, h⟩ := Option.bind_eq_some_iff.mp h
      obtain ⟨⟨second, rest₁₀⟩, hsecond, h⟩ := Option.bind_eq_some_iff.mp h
      obtain ⟨c₁, hset₁, h⟩ := Option.bind_eq_some_iff.mp h
      obtain ⟨c₂, hset₂, h⟩ := Option.bind_eq_some_iff.mp h
      obtain ⟨c₃, hset₃, h⟩ := Option.bind_eq_some_iff.mp h
      obtain ⟨c₄, hset₄, h⟩ := Option.bind_eq_some_iff.mp h
      obtain ⟨c₅, hset₅, h⟩ := Option.bind_eq_some_iff.mp h
      obtain ⟨c₆, hset₆, h⟩ := Option.bind_eq_some_iff.mp h
      obtain ⟨⟨c₇, tail⟩, hfraction, h⟩ := Option.bind_eq_some_iff.mp h
      obtain ⟨⟨offset, rest₁₁⟩, hoffset, h⟩ := Option.bind_eq_some_iff.mp h
      obtain ⟨⟨hbound, -⟩, hset⟩ := Option.ite_none_right_eq_some.mp h
      obtain ⟨d, digits, hrest, hd⟩ := readNumber?_head (by decide) hhour
      obtain rfl := readMark?_eq hmark₁
      obtain rfl := readMark?_eq hmark₂
      obtain rfl := readMark?_eq hmark₃
      obtain rfl := readMark?_eq hmark₄
      have hitem : readItem? c₆ .fraction rest₁₀ = some (c₇, tail) := hfraction
      refine ⟨c₃, mark, rest, c₇, tail, offset, ?_, ?_, ?_, ?_, ?_, hset, hbound⟩
      · simp [datePart, readItems?, readItem?_number rfl (by decide) hyear hset₁, readItem?_mark,
          readItem?_number rfl (by decide) hmonth hset₂, readItem?_number rfl (by decide) hday hset₃]
      · rcases hmark with rfl | rfl | rfl <;> decide
      · rw [hrest, trimLeft_of_isDigit hd]
      · simp [clockPart, readItems?, readItem?_number rfl (by decide) hhour hset₄, readItem?_mark,
          readItem?_number rfl (by decide) hminute hset₅, readItem?_number rfl (by decide) hsecond hset₆,
          hitem]
      · rintro rfl
        cases hoffset
    · cases h
  · cases h

/-- A timestamp has no local form. -/
theorem readValue?_of_timestamp (h : readTimestamp? cs = some c) (hf : form ∈ localForms) :
    readValue? {} form cs = none := by
  obtain ⟨date, mark, rest, clock, tail, offset, hdate, hmark, htrim, hclock, htail, -, -⟩ :=
    readTimestamp?_parts h
  have hnone : readValue? date clockPart rest = none := readValue?_eq_none (by decide) hclock htail
  rw [localForms_eq] at hf
  simp only [List.mem_cons, List.not_mem_nil, or_false] at hf
  rcases hf with rfl | rfl
  · rw [withMark, readValue?_date, hdate, Option.bind_some]
    by_cases hT : 'T' = mark
    · simp [readValue?, readItem?, dropStart?, hnone]
    · simp [readValue?, readItem?, dropStart?, hT]
  · rw [withMark, readValue?_date, hdate, Option.bind_some]
    by_cases hb : isBlank mark = true
    · -- the form goes on behind the blank, up to the offset
      have hskip : trimLeft (mark :: rest) = rest := by
        rw [trimLeft, List.dropWhile_cons_of_pos hb]
        exact htrim
      simp [readValue?, readItem?, hskip, hnone]
    · have hkeep : trimLeft (mark :: rest) = mark :: rest := by
        rw [trimLeft, List.dropWhile_cons_of_neg hb]
      simp [readValue?, readItem?, clockPart, readComponent?, Component.hasSign, Component.width, readNumber?,
        readDigits?, hkeep, hmark]

theorem usable_of_timestamp {offset : Int} (h : readTimestamp? cs = some c) (ho : c.offset = some offset) :
    isUsableOffset offset = true := by
  obtain ⟨date, mark, rest, clock, tail, read, -, -, -, -, -, hset, hbound⟩ := readTimestamp?_parts h
  simp only [Components.setOffset, Option.bind_eq_bind, Option.pure_def, Option.bind_eq_some_iff,
    Option.some.injEq] at hset
  obtain ⟨new, hnew, rfl⟩ := hset
  have heq : read = offset := agree_forall hnew rfl offset ho
  rw [← heq, isUsableOffset, decide_eq_true_eq]
  exact Nat.lt_of_le_of_lt hbound (by decide)

/-! ## ISO 8601 -/

/-- What a value is read as by the forms with an offset: the first of them that reads it. -/
def zonedReading? (cs : List Char) : Option Components :=
  (readTimestamp? cs).orElse fun _ => zonedForms.findSome? fun form => readValue? {} form cs

theorem zonedReading?_cases (h : zonedReading? cs = some c) :
    readTimestamp? cs = some c ∨ readTimestamp? cs = none ∧
      (readValue? {} (withMark (.literal ['T']) ++ [.offset true]) cs = some c ∨
        readValue? {} (withMark (.literal ['T']) ++ [.offset true]) cs = none ∧
          readValue? {} (withMark .blank ++ [.offset true]) cs = some c) := by
  rw [zonedReading?, zonedForms_eq] at h
  cases ht : readTimestamp? cs with
  | some read =>
    rw [ht] at h
    exact .inl h
  | none =>
    rw [ht] at h
    cases hT : readValue? {} (withMark (.literal ['T']) ++ [.offset true]) cs with
    | some read => exact .inr ⟨rfl, .inl (by simpa [hT] using h)⟩
    | none => exact .inr ⟨rfl, .inr ⟨rfl, by simpa [hT] using h⟩⟩

/-- A value that a form with an offset reads has no local form. -/
theorem readValue?_of_zoned (h : zonedReading? cs = some c) (hf : form ∈ localForms) :
    readValue? {} form cs = none := by
  have hforms : form = withMark (.literal ['T']) ∨ form = withMark .blank := by
    simpa [localForms_eq] using hf
  rcases zonedReading?_cases h with h | ⟨-, h | ⟨-, h⟩⟩
  · exact readValue?_of_timestamp h hf
  · rcases hforms with rfl | rfl
    · exact readValue?_of_offset (by decide) h
    · simpa using withMark_unique _ [] h
  · rcases hforms with rfl | rfl
    · cases hlocal : readValue? {} (withMark (.literal ['T'])) cs with
      | none => rfl
      | some read =>
        rw [withMark_unique [] [.offset true] (by simpa using hlocal)] at h
        cases h
    · exact readValue?_of_offset (by decide) h

end Layout

end LogPipeline.Time
