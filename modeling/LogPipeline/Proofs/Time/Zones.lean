import LogPipeline.Time.Zone

/-!
# The clocks of a zone

The changes of a zone of the database come one after the other, so that the instant found for a local time is one
at which the clocks of the zone show that time. There is none before it, and where none is found the clocks never
show the time.
-/

namespace LogPipeline.Time.Zone

variable {zone : Zone} {start : Option Int} {offset localTime seconds : Int} {changes : List (Int × Int)}

/-- The changes come at or after a time, if there is one, and none before the one in front of it. -/
def InOrderFrom (start : Option Int) : List (Int × Int) → Prop
  | [] => True
  | (time, _) :: rest => (∀ first ∈ start, first ≤ time) ∧ InOrderFrom (some time) rest

def InOrder (zone : Zone) : Prop := InOrderFrom none zone.changes

theorem offset_of_earliestFrom (hc : InOrderFrom start changes)
    (h : earliestFrom start offset changes localTime = some seconds) :
    (∀ first ∈ start, first ≤ seconds) ∧ seconds + offsetAfter offset changes seconds = localTime := by
  induction changes generalizing start offset with
  | nil =>
    simp only [earliestFrom, Option.ite_none_right_eq_some, Option.some.injEq, Option.all_eq_true,
      decide_eq_true_eq] at h
    obtain ⟨hstart, rfl⟩ := h
    exact ⟨hstart, by rw [offsetAfter]; omega⟩
  | cons change rest ih =>
    obtain ⟨time, next⟩ := change
    rw [earliestFrom] at h
    split at h
    · rename_i hin
      cases h
      simp only [Bool.and_eq_true, Option.all_eq_true, decide_eq_true_eq] at hin
      exact ⟨hin.1, by rw [offsetAfter, if_pos hin.2]; omega⟩
    · obtain ⟨hlater, hoffset⟩ := ih hc.2 h
      have htime : time ≤ seconds := hlater time rfl
      exact ⟨fun first hf => Int.le_trans (hc.1 first hf) htime, by rwa [offsetAfter, if_neg (by omega)]⟩

/-- At the earliest instant of a local time the clocks of the zone show that time. -/
theorem offset_of_earliest? (hz : zone.InOrder) (h : zone.earliest? localTime = some seconds) :
    seconds + zone.offsetAt seconds = localTime := (offset_of_earliestFrom hz h).2

/-- Where the clocks show a local time, an instant is found that is not later. -/
theorem exists_earliestFrom (hstart : ∀ first ∈ start, first ≤ seconds)
    (h : seconds + offsetAfter offset changes seconds = localTime) :
    ∃ earliest, earliestFrom start offset changes localTime = some earliest ∧ earliest ≤ seconds := by
  induction changes generalizing start offset with
  | nil =>
    obtain rfl : seconds + offset = localTime := h
    refine ⟨seconds, ?_, Int.le_refl _⟩
    rw [earliestFrom, Int.add_sub_cancel, if_pos]
    exact (Option.all_eq_true _ _).mpr fun first hf => decide_eq_true (hstart first hf)
  | cons change rest ih =>
    obtain ⟨time, next⟩ := change
    rw [offsetAfter] at h
    rw [earliestFrom]
    split
    · rename_i hin
      simp only [Bool.and_eq_true, decide_eq_true_eq] at hin
      refine ⟨_, rfl, ?_⟩
      split at h <;> omega
    · rename_i hout
      by_cases hbefore : seconds < time
      · -- in front of the change the time would have been found
        rw [if_pos hbefore] at h
        obtain rfl : seconds = localTime - offset := by omega
        refine absurd (Bool.and_eq_true_iff.mpr ⟨?_, decide_eq_true hbefore⟩) hout
        exact (Option.all_eq_true _ _).mpr fun first hf => decide_eq_true (hstart first hf)
      · rw [if_neg hbefore] at h
        refine ih ?_ h
        rintro _ ⟨⟩
        omega

theorem exists_earliest? (h : seconds + zone.offsetAt seconds = localTime) :
    ∃ earliest, zone.earliest? localTime = some earliest ∧ earliest ≤ seconds := exists_earliestFrom nofun h

/-- The instant of a local time is the first at which the clocks show it. -/
theorem earliest?_eq_some_iff (hz : zone.InOrder) : zone.earliest? localTime = some seconds ↔
    seconds + zone.offsetAt seconds = localTime ∧
      ∀ other, other + zone.offsetAt other = localTime → seconds ≤ other := by
  constructor
  · intro h
    refine ⟨offset_of_earliest? hz h, fun other ho => ?_⟩
    obtain ⟨earliest, he, hle⟩ := exists_earliest? ho
    cases he.symm.trans h
    exact hle
  · rintro ⟨hoffset, hleast⟩
    obtain ⟨earliest, he, hle⟩ := exists_earliest? hoffset
    rw [he, Int.le_antisymm hle (hleast earliest (offset_of_earliest? hz he))]

/-- There is no instant of a local time exactly if the clocks never show it. -/
theorem earliest?_eq_none_iff (hz : zone.InOrder) :
    zone.earliest? localTime = none ↔ ∀ seconds, seconds + zone.offsetAt seconds ≠ localTime := by
  constructor
  · intro h seconds hs
    obtain ⟨earliest, he, -⟩ := exists_earliest? hs
    cases he.symm.trans h
  · intro h
    cases he : zone.earliest? localTime with
    | none => rfl
    | some seconds => exact absurd (offset_of_earliest? hz he) (h seconds)

theorem inOrderFrom_changesFrom (offsets : List Int) (time : Int) (numbers : List Nat) :
    InOrderFrom (some time) (changesFrom offsets time numbers) := by
  fun_induction changesFrom offsets time numbers with
  | case1 time distance position rest next ih =>
    refine ⟨?_, ih⟩
    rintro _ ⟨⟩
    simp only [next]
    split <;> omega
  | case2 => trivial

theorem inOrder_ofPacked (text : String) : (ofPacked text).InOrder := by
  unfold ofPacked
  split
  · trivial
  · simp only [InOrder]
    split
    · exact ⟨nofun, inOrderFrom_changesFrom _ _ _⟩
    · trivial

theorem named?_inOrder {name : String} (h : named? name = some zone) : zone.InOrder := by
  obtain ⟨text, -, rfl⟩ := Option.map_eq_some_iff.mp h
  exact inOrder_ofPacked text

end LogPipeline.Time.Zone
