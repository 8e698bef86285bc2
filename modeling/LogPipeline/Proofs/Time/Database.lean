import LogPipeline.Proofs.Time.Zones

/-!
# The zones of the database

Every zone of the database has offsets of less than a day, and no changes before a time within the nineteenth
century. What this says about a zone stands at the front of its packed text, and is checked there.
-/

namespace LogPipeline

/-! ## The front of a packed text -/

namespace Packed

/-- A text in pieces begins with the numbers of its first piece. -/
theorem numbersFrom_append (high : Nat) (cs rest : List Char) :
    ∃ more, numbersFrom high (cs ++ rest) = numbersFrom high cs ++ more := by
  induction cs generalizing high with
  | nil => exact ⟨_, rfl⟩
  | cons c cs ih =>
    rw [List.cons_append, numbersFrom, numbersFrom]
    split
    · obtain ⟨more, h⟩ := ih 0
      exact ⟨more, by rw [h, List.cons_append]⟩
    · exact ih _

end Packed

namespace Time.Zone

variable {zone : Zone} {name text : String} {seconds offset : Int} {numbers more : List Nat}

/-- A time before all changes of the database. -/
def earliestChange : Int := -4000000000

/-- A zone whose offsets are less than a day, and whose changes are not before the earliest one. -/
structure Moderate (zone : Zone) : Prop where
  first : zone.first.natAbs < 86400
  offsets : ∀ change ∈ zone.changes, change.2.natAbs < 86400
  times : ∀ change ∈ zone.changes, earliestChange ≤ change.1

theorem offsetAfter_cases (offset : Int) (changes : List (Int × Int)) (seconds : Int) :
    offsetAfter offset changes seconds = offset ∨
      ∃ change ∈ changes, change.1 ≤ seconds ∧ offsetAfter offset changes seconds = change.2 := by
  induction changes generalizing offset with
  | nil => exact .inl rfl
  | cons change rest ih =>
    obtain ⟨time, next⟩ := change
    rw [offsetAfter]
    split
    · exact .inl rfl
    · rcases ih next with h | ⟨change, hm, htime, h⟩
      · exact .inr ⟨(time, next), List.mem_cons_self, by omega, h⟩
      · exact .inr ⟨change, List.mem_cons_of_mem _ hm, htime, h⟩

namespace Moderate

theorem offsetAt_lt (h : zone.Moderate) (seconds : Int) : (zone.offsetAt seconds).natAbs < 86400 := by
  rcases offsetAfter_cases zone.first zone.changes seconds with heq | ⟨change, hm, -, heq⟩
  · rw [offsetAt, heq]
    exact h.first
  · rw [offsetAt, heq]
    exact h.offsets change hm

theorem offsetAt_of_early (h : zone.Moderate) (hs : seconds < earliestChange) : zone.offsetAt seconds = zone.first := by
  rcases offsetAfter_cases zone.first zone.changes seconds with heq | ⟨change, hm, htime, -⟩
  · exact heq
  · have := h.times change hm
    omega

end Moderate

/-- Whether the numbers of a packed zone have small offsets in front, and a first change that is late enough. -/
def frontOk : List Nat → Bool
  | [] => true
  | count :: numbers =>
    ((numbers.take count).all fun n => decide ((Packed.signed n).natAbs < 86400)) &&
      (numbers.drop count).head?.all fun time => decide (earliestChange ≤ Packed.signed time)

/-- Whether the numbers go on behind the offsets. -/
def hasChange : List Nat → Bool
  | [] => false
  | count :: numbers => decide (count < numbers.length)

theorem frontOk_append (hc : hasChange numbers = true) (h : frontOk numbers = true) :
    frontOk (numbers ++ more) = true := by
  cases numbers with
  | nil => cases hc
  | cons count numbers =>
    have hlength : count < numbers.length := by simpa [hasChange] using hc
    have hle : count ≤ numbers.length := Nat.le_of_lt hlength
    have hdrop : 0 < (numbers.drop count).length := by
      rw [List.length_drop]
      omega
    obtain ⟨time, rest, hfront⟩ := List.exists_cons_of_length_pos hdrop
    rw [List.cons_append, frontOk, List.take_append_of_le_length hle, List.drop_append_of_le_length hle]
    rw [frontOk] at h
    rw [hfront] at h ⊢
    exact h

theorem getD_natAbs_lt {offsets : List Int} (h : ∀ offset ∈ offsets, offset.natAbs < 86400) (position : Nat) :
    (offsets.getD position 0).natAbs < 86400 := by
  rw [List.getD_eq_getElem?_getD]
  cases hget : offsets[position]? with
  | none => decide
  | some offset => exact h offset (List.mem_of_getElem? hget)

theorem mem_changesFrom {offsets : List Int} (h : ∀ offset ∈ offsets, offset.natAbs < 86400) (time : Int)
    (numbers : List Nat) :
    ∀ change ∈ changesFrom offsets time numbers, change.2.natAbs < 86400 ∧ time ≤ change.1 := by
  fun_induction changesFrom offsets time numbers with
  | case1 time distance position rest next ih =>
    have hnext : time ≤ next := by
      simp only [next]
      split <;> omega
    intro change hm
    rcases List.mem_cons.mp hm with rfl | hm
    · exact ⟨getD_natAbs_lt h position, hnext⟩
    · obtain ⟨hoffset, htime⟩ := ih change hm
      exact ⟨hoffset, Int.le_trans hnext htime⟩
  | case2 => exact List.forall_mem_nil _

theorem moderate_ofPacked (h : frontOk (Packed.numbers text) = true) : (ofPacked text).Moderate := by
  unfold ofPacked
  split
  · exact ⟨by decide, List.forall_mem_nil _, List.forall_mem_nil _⟩
  · rename_i count numbers hnumbers
    rw [hnumbers, frontOk, Bool.and_eq_true, List.all_eq_true] at h
    obtain ⟨hoffsets, htime⟩ := h
    have hsmall : ∀ offset ∈ (numbers.take count).map Packed.signed, offset.natAbs < 86400 := by
      rintro _ hm
      obtain ⟨n, hn, rfl⟩ := List.mem_map.mp hm
      exact of_decide_eq_true (hoffsets n hn)
    -- what is looked up outside of the offsets is zero, and small too
    have hfirst := getD_natAbs_lt hsmall 0
    dsimp only
    split
    · rename_i time position rest hdrop
      have hearly : earliestChange ≤ Packed.signed time := by simpa [hdrop] using htime
      have hlater := mem_changesFrom hsmall (Packed.signed time) rest
      refine ⟨hfirst,
        List.forall_mem_cons.mpr ⟨getD_natAbs_lt hsmall position, fun change hm => (hlater change hm).1⟩,
        List.forall_mem_cons.mpr ⟨hearly, fun change hm => ?_⟩⟩
      exact Int.le_trans hearly (hlater change hm).2
    · exact ⟨hfirst, List.forall_mem_nil _, List.forall_mem_nil _⟩

/-! ## The database -/

/-- Texts with the characters of their first pieces, and whether there is but one. A piece is spelled out by
`String.toList_ofList`, without decoding. -/
inductive Fronts : List (String × String) → List (List Char × Bool) → Prop where
  | nil : Fronts [] []
  | whole {name text cs table fronts} : text.toList = cs → Fronts table fronts →
      Fronts ((name, text) :: table) ((cs, true) :: fronts)
  | pieces {name piece rest cs table fronts} : piece.toList = cs → Fronts table fronts →
      Fronts ((name, String.join (piece :: rest)) :: table) ((cs, false) :: fronts)

def frontsOk (fronts : List (List Char × Bool)) : Bool :=
  fronts.all fun front =>
    let numbers := Packed.numbersFrom 0 front.1
    frontOk numbers && (front.2 || hasChange numbers)

/-- What is checked of the fronts of a table holds of its zones. -/
def AllModerate (table : List (String × String)) : Prop := ∀ entry ∈ table, (ofPacked entry.2).Moderate

theorem allModerate_of_fronts {table : List (String × String)} {fronts : List (List Char × Bool)}
    (h : Fronts table fronts) (hok : frontsOk fronts = true) : AllModerate table := by
  induction h with
  | nil => nofun
  | @whole name text cs table fronts hcs _ ih =>
    simp only [frontsOk, List.all_cons, Bool.and_eq_true] at hok
    refine List.forall_mem_cons.mpr ⟨moderate_ofPacked ?_, ih hok.2⟩
    rw [Packed.numbers, hcs]
    exact hok.1.1
  | @pieces name piece rest cs table fronts hcs _ ih =>
    simp only [frontsOk, List.all_cons, Bool.and_eq_true, Bool.false_or] at hok
    refine List.forall_mem_cons.mpr ⟨moderate_ofPacked ?_, ih hok.2⟩
    obtain ⟨more, hmore⟩ := Packed.numbersFrom_append 0 cs (rest.flatMap String.toList)
    rw [Packed.numbers, String.toList_join, List.flatMap_cons, hcs, hmore]
    exact frontOk_append hok.1.2 hok.1.1

theorem allModerate_zoneData : AllModerate zoneData := by
  unfold zoneData
  dsimp only
  apply allModerate_of_fronts
  · repeat' first | exact String.toList_ofList | apply Fronts.pieces | apply Fronts.whole | exact Fronts.nil
  · decide +kernel

theorem named?_moderate (h : named? name = some zone) : zone.Moderate := by
  obtain ⟨text, htext, rfl⟩ := Option.map_eq_some_iff.mp h
  obtain ⟨earlier, later, htable, -⟩ := List.lookup_eq_some_iff.mp htext
  have hm : (_, text) ∈ zoneData := htable ▸ List.mem_append_right earlier List.mem_cons_self
  exact allModerate_zoneData _ hm

end Time.Zone

end LogPipeline
