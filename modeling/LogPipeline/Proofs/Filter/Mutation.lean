import Mathlib.Data.List.Nodup
import LogPipeline.Proofs.Filter.Frame
import LogPipeline.Proofs.Text.Case

/-!
# Actions applied twice

An action goes through its operands one after the other. Each of them leaves an event settled: the same step would
change nothing in it, and the steps of the other operands do not undo that. So the second time an action is applied,
no step changes the event. Renaming is the exception: what one rename puts under a name, another may take from there.
-/

namespace LogPipeline

/-! ## Steps that settle -/

variable {α β : Type} {step : β → α → β} {operands : List α} {ok : β → Prop} {a : α} {b : β}

/-- Steps of which each leaves a state in which it would change nothing, and stays so when the others are made. The
states are those that are `ok`. -/
structure Settling (step : β → α → β) (operands : List α) (ok : β → Prop) : Prop where
  keeps : ∀ b a, ok b → ok (step b a)
  self : ∀ b, ok b → ∀ a ∈ operands, step (step b a) a = step b a
  other : ∀ b, ok b → ∀ a ∈ operands, ∀ a' ∈ operands, step b a = b → step (step b a') a = step b a'

namespace Settling

theorem foldl_of_settled (h : Settling step operands ok) (hb : ok b) (ha : a ∈ operands) (hsettled : step b a = b)
    {rest : List α} (hrest : rest ⊆ operands) : step (rest.foldl step b) a = rest.foldl step b := by
  induction rest generalizing b with
  | nil => exact hsettled
  | cons a' rest ih =>
    -- the step of `a'` leaves `a` settled, and so do the others from there on
    obtain ⟨ha', hrest⟩ := List.cons_subset.mp hrest
    exact ih (h.keeps b a' hb) (h.other b hb a ha a' ha' hsettled) hrest

/-- After all steps, none of them would change anything. -/
theorem foldl_settled (h : Settling step operands ok) (hb : ok b) {rest : List α} (hrest : rest ⊆ operands) :
    ∀ a ∈ rest, step (rest.foldl step b) a = rest.foldl step b := by
  induction rest generalizing b with
  | nil => nofun
  | cons first rest ih =>
    obtain ⟨hfirst, hlater⟩ := List.cons_subset.mp hrest
    intro a ha
    rcases List.mem_cons.mp ha with rfl | ha
    · exact h.foldl_of_settled (h.keeps b a hb) hfirst (h.self b hb a hfirst) hlater
    · exact ih (h.keeps b first hb) hlater a ha

theorem foldl_eq_self {rest : List α} (h : ∀ a ∈ rest, step b a = b) : rest.foldl step b = b := by
  induction rest with
  | nil => rfl
  | cons a rest ih =>
    obtain ⟨ha, hrest⟩ := List.forall_mem_cons.mp h
    rw [List.foldl_cons, ha, ih hrest]

theorem foldl_foldl (h : Settling step operands ok) (hb : ok b) :
    operands.foldl step (operands.foldl step b) = operands.foldl step b :=
  foldl_eq_self (h.foldl_settled hb (List.Subset.refl _))

end Settling

/-! ## Steps on events -/

namespace Event

variable {event : Event} {field : String}

def adjust (event : Event) (field : String) (f : Value → Value) : Event :=
  { event with fields := event.fields.adjust field f }

theorem adjust_eq_self_iff {f : Value → Value} :
    event.adjust field f = event ↔ ∀ value, event.get? field = some value → f value = value := by
  unfold get?
  rw [← Keyed.adjust_eq_self_iff]
  exact ⟨congrArg Event.fields, fun h => congrArg (fun fields => { event with fields }) h⟩

theorem settling_remove (fields : List String) : Settling remove fields Unique where
  keeps event field h := (event.changesOnly_remove field).unique h
  self event h field _ := by
    unfold remove
    rw [Keyed.erase_erase h.fields]
  other event _ field _ field' _ hsettled := by
    have hcomm : (event.remove field').remove field = (event.remove field).remove field' := by
      unfold remove
      rw [Keyed.erase_comm]
    rw [hcomm, hsettled]

theorem settling_removeTag (tags : List String) : Settling removeTag tags Unique where
  keeps event tag h := (event.changesOnly_removeTag tag).unique h
  self event h tag _ := by
    unfold removeTag
    rw [List.erase_of_not_mem h.tags.not_mem_erase]
  other event _ tag _ tag' _ hsettled := by
    have hcomm : (event.removeTag tag').removeTag tag = (event.removeTag tag).removeTag tag' := by
      unfold removeTag
      rw [List.erase_comm]
    rw [hcomm, hsettled]

theorem settling_addTag (tags : List String) : Settling addTag tags fun _ => True where
  keeps _ _ _ := trivial
  self _ _ _ _ := addTag_eq_self_iff.mpr (mem_tags_addTag.mpr (.inl rfl))
  other _ _ _ _ _ _ hsettled :=
    addTag_eq_self_iff.mpr (mem_tags_addTag.mpr (.inr (addTag_eq_self_iff.mp hsettled)))

theorem settling_insert {values : Keyed Value} (h : values.Distinct) :
    Settling (fun (event : Event) pair => event.insert pair.1 pair.2) values fun _ => True where
  keeps _ _ _ := trivial
  self event _ pair _ := insert_eq_self_iff.mpr (event.get?_insert_self pair.1 pair.2)
  other event _ pair hm pair' hm' hsettled := by
    rw [insert_eq_self_iff] at hsettled ⊢
    by_cases hname : pair.1 = pair'.1
    · -- a name that is the same belongs to the same pair, which puts the same value
      obtain rfl : pair = pair' := List.inj_on_of_nodup_map h hm hm' hname
      exact event.get?_insert_self pair.1 pair.2
    · rw [(event.changesOnly_insert pair'.1 pair'.2).get? pair.1 (by simpa using hname), hsettled]

/-- Changes of values that change nothing the second time, the same change wherever it is the same field. -/
theorem settling_adjust (operands : List α) (field : α → String) {change : α → Value → Value}
    (htwice : ∀ a ∈ operands, ∀ value, change a (change a value) = change a value)
    (hsame : ∀ a ∈ operands, ∀ a' ∈ operands, field a = field a' → change a = change a') :
    Settling (fun (event : Event) a => event.adjust (field a) (change a)) operands fun _ => True := by
  have hself (event : Event) (a : α) (ha : a ∈ operands) :
      (event.adjust (field a) (change a)).adjust (field a) (change a) = event.adjust (field a) (change a) := by
    refine adjust_eq_self_iff.mpr fun value hvalue => ?_
    obtain ⟨old, -, rfl⟩ := Option.map_eq_some_iff.mp ((Keyed.get?_adjust_self _ _ _).symm.trans hvalue)
    exact htwice a ha old
  refine ⟨fun _ _ _ => trivial, fun event _ => hself event, fun event _ a ha a' ha' hsettled => ?_⟩
  by_cases hname : field a = field a'
  · -- the other operand makes the same change
    rw [← hname, ← hsame a ha a' ha' hname]
    exact hself event a ha
  · rw [adjust_eq_self_iff] at hsettled ⊢
    intro value hvalue
    exact hsettled value ((Keyed.get?_adjust_of_ne _ _ hname).symm.trans hvalue)

end Event

namespace Filter

/-! ## Conversions -/

namespace Conversion

variable {conversion : Conversion} {value converted : Value}

/-- Whether a value is of the kind that a conversion converts to. -/
def Makes : Conversion → Value → Bool
  | .integer, .integer _ | .float, .float _ | .text, .text _ | .boolean, .bool _ => true
  | _, _ => false

theorem makes_of_convert? (h : conversion.convert? value = some converted) : conversion.Makes converted = true := by
  unfold convert? at h
  split at h
  -- the value itself, one made from it, or one read from its text
  all_goals first
    | cases h; rfl
    | obtain ⟨_, -, rfl⟩ := Option.map_eq_some_iff.mp h; rfl

theorem convert?_of_makes (h : conversion.Makes value = true) : conversion.convert? value = some value := by
  unfold Makes at h
  split at h
  · rfl
  · rfl
  · rfl
  · rfl
  · cases h

/-- A converted value stays as it is. -/
theorem convert?_convert? (h : conversion.convert? value = some converted) :
    conversion.convert? converted = some converted := convert?_of_makes (makes_of_convert? h)

end Conversion

namespace Mutation

variable {config : MutateConfig} {mutation : Mutation} {event : Event}

/-! ## Actions -/

/-- A text in another form; other values as they are. -/
def textIn (f : List Char → List Char) : Value → Value
  | .text s => .text (String.ofList (f s.toList))
  | value => value

theorem textIn_textIn {f : List Char → List Char} (hf : ∀ cs, f (f cs) = f cs) (value : Value) :
    textIn f (textIn f value) = textIn f value := by
  cases value with
  | text s => simp only [textIn, String.toList_ofList, hf]
  | _ => rfl

theorem mapText_eq_adjust (f : List Char → List Char) (event : Event) (field : String) :
    mapText f event field = event.adjust field (textIn f) := by
  unfold mapText
  split
  · rename_i s hs
    simp only [Event.get?] at hs
    simp only [Event.adjust, Keyed.adjust, hs, textIn, Event.insert]
  · rename_i hother
    refine (Event.adjust_eq_self_iff.mpr fun value hvalue => ?_).symm
    cases value with
    | text s => exact absurd hvalue (hother s)
    | _ => rfl

/-- A converted value, or the value itself where the conversion fails. -/
def converted (conversion : Conversion) (value : Value) : Value := (conversion.convert? value).getD value

theorem converted_converted (conversion : Conversion) (value : Value) :
    converted conversion (converted conversion value) = converted conversion value := by
  unfold converted
  cases h : conversion.convert? value with
  | none => rw [Option.getD_none, h, Option.getD_none]
  | some after => rw [Option.getD_some, Conversion.convert?_convert? h, Option.getD_some]

theorem convertOne_eq_adjust (event : Event) (entry : String × Conversion) :
    convertOne event entry = event.adjust entry.1 (converted entry.2) := by
  unfold convertOne
  split
  · rename_i after hafter
    obtain ⟨value, hvalue, hconvert⟩ := Option.bind_eq_some_iff.mp hafter
    simp only [Event.get?] at hvalue
    simp only [Event.adjust, Keyed.adjust, hvalue, converted, hconvert, Option.getD_some, Event.insert]
  · rename_i hnone
    refine (Event.adjust_eq_self_iff.mpr fun value hvalue => ?_).symm
    rw [converted, Option.bind_eq_none_iff.mp hnone value hvalue, Option.getD_none]

theorem settling_mapText {f : List Char → List Char} (hf : ∀ cs, f (f cs) = f cs) (fields : List String) :
    Settling (mapText f) fields fun _ => True := by
  simpa only [← mapText_eq_adjust] using
    Event.settling_adjust fields (fun field => field) (fun _ _ => textIn_textIn hf)
      (fun _ _ _ _ _ => rfl)

theorem settling_convertOne {conversions : Keyed Conversion} (h : conversions.Distinct) :
    Settling convertOne conversions fun _ => True := by
  have hsame : ∀ entry ∈ conversions, ∀ entry' ∈ conversions, entry.1 = entry'.1 →
      converted entry.2 = converted entry'.2 := by
    intro entry hm entry' hm' hname
    rw [List.inj_on_of_nodup_map h hm hm' hname]
  simpa only [← convertOne_eq_adjust] using
    Event.settling_adjust conversions Prod.fst (fun entry _ => converted_converted entry.2) hsame

/-- What an action names by key is named once. -/
def Distinct : Mutation → Prop
  | .addField values => values.Distinct
  | .convert conversions => conversions.Distinct
  | _ => True

theorem apply_apply (hname : mutation.name ≠ "rename_field") (hdistinct : mutation.Distinct) (hevent : event.Unique) :
    mutation.apply (mutation.apply event) = mutation.apply event := by
  cases mutation with
  | removeField fields => exact (Event.settling_remove fields).foldl_foldl hevent
  | addField values =>
    simp only [apply, Event.insertAll_eq_foldl]
    exact (Event.settling_insert hdistinct).foldl_foldl trivial
  | renameField renames => exact absurd rfl hname
  | addTag tags => exact (Event.settling_addTag tags).foldl_foldl trivial
  | removeTag tags => exact (Event.settling_removeTag tags).foldl_foldl hevent
  | uppercase fields => exact (settling_mapText Text.toUpper_toUpper fields).foldl_foldl trivial
  | lowercase fields => exact (settling_mapText Text.toLower_toLower fields).foldl_foldl trivial
  | convert conversions => exact (settling_convertOne hdistinct).foldl_foldl trivial

/-! ## Actions that are built -/

theorem keys_parseConversion {entries : Keyed String} :
    Yields (entries.mapM parseConversion) fun conversions => Keyed.keys conversions = entries.keys := by
  induction entries with
  | nil => exact .ok rfl
  | cons entry rest ih =>
    rw [List.mapM_cons]
    have hkey : Yields (parseConversion entry) fun first => first.1 = entry.1 := by
      unfold parseConversion
      split
      · exact .ok rfl
      · exact .error _
    refine hkey.bind fun first hfirst => .bind ih fun later hlater => .ok ?_
    rw [Keyed.keys_cons, Keyed.keys_cons, hfirst, hlater]

theorem required_yields {α : Type} {option : String} {operand : List α} {action : List α → Mutation}
    {post : Mutation → Prop} (h : post (action operand)) : Yields (required option operand action) post :=
  .ite (fun _ => .error _) fun _ => .ok h

theorem ofAction_yields (hvalues : config.values.Distinct) (hconvert : config.convert.Distinct) :
    Yields (ofAction config) fun mutation => mutation.name = config.action ∧ mutation.Distinct := by
  unfold ofAction
  split
  case h_8 haction =>
    refine .ite (fun _ => .error _) fun _ => .map (keys_parseConversion.mono fun conversions hkeys => ?_)
    have hdistinct : Keyed.Distinct conversions := by rwa [Keyed.Distinct, hkeys]
    exact ⟨haction.symm, hdistinct⟩
  case h_9 => exact .error _
  case h_2 haction => exact required_yields ⟨haction.symm, hvalues⟩
  all_goals
    rename_i haction
    exact required_yields ⟨haction.symm, trivial⟩

theorem build_yields (hvalues : config.values.Distinct) (hconvert : config.convert.Distinct) :
    Yields (build config) fun mutation => mutation.name = config.action ∧ mutation.Distinct := by
  refine .bind (ofAction_yields hvalues hconvert) fun mutation h => ?_
  split
  · exact .error _
  · exact .ok h

/-- An action other than a renaming, applied to an event a second time, changes nothing. -/
theorem apply_idempotent (hbuild : build config = .ok mutation) (haction : config.action ≠ "rename_field")
    (hvalues : config.values.Distinct) (hconvert : config.convert.Distinct) (hevent : event.Unique) :
    mutation.apply (mutation.apply event) = mutation.apply event := by
  obtain ⟨hname, hdistinct⟩ := build_yields hvalues hconvert mutation hbuild
  exact apply_apply (hname ▸ haction) hdistinct hevent

/-- Texts that are no numbers, numbers that are not finite and a name that the event does not have. -/
theorem apply_idempotent_of_conversions :
    let config : MutateConfig :=
      { action := "convert", convert := [("count", "int"), ("share", "string"), ("name", "float"), ("absent", "bool")] }
    let event : Event :=
      { fields := [("name", .text "Straße"), ("share", .float .nan), ("count", .float (.infinite true))],
        tags := ["seen"] }
    event.Unique ∧ ∃ mutation, build config = .ok mutation ∧
      mutation.apply (mutation.apply event) = mutation.apply event ∧
      (mutation.apply event).get? "share" = some (.text "NaN") := by
  intro config event
  have hunique : event.Unique := ⟨by decide, by decide⟩
  have hbuild : build config =
      .ok (.convert [("count", .integer), ("share", .text), ("name", .float), ("absent", .boolean)]) := rfl
  exact ⟨hunique, _, hbuild, apply_idempotent hbuild (by decide) (by decide) (by decide) hunique, rfl⟩

end Mutation

end Filter

end LogPipeline
