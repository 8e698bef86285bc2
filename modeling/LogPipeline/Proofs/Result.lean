/-!
# Results

When a computation that may fail gives a value, and what holds of the value if it does.
-/

namespace LogPipeline

variable {ε α β : Type}

instance decidableEqExcept [DecidableEq ε] [DecidableEq α] : DecidableEq (Except ε α)
  | .error e, .error e' => decidable_of_iff (e = e') (by simp)
  | .ok a, .ok a' => decidable_of_iff (a = a') (by simp)
  | .error _, .ok _ => isFalse nofun
  | .ok _, .error _ => isFalse nofun

theorem bind_eq_ok {x : Except ε α} {f : α → Except ε β} {b : β} :
    x >>= f = .ok b ↔ ∃ a, x = .ok a ∧ f a = .ok b := by
  cases x <;> simp [bind, Except.bind]

theorem map_eq_ok {x : Except ε α} {f : α → β} {b : β} :
    x.map f = .ok b ↔ ∃ a, x = .ok a ∧ f a = b := by
  cases x <;> simp [Except.map]

theorem map_ite (f : α → β) (p : Prop) [Decidable p] (x y : Except ε α) :
    (f <$> if p then x else y) = if p then f <$> x else f <$> y := apply_ite _ _ _ _

theorem exists_ok {x : Except ε α} {p : α → Bool} (h : x.toOption.any p = true) :
    ∃ a, x = .ok a ∧ p a = true := by
  cases x with
  | error e => cases h
  | ok a => exact ⟨a, rfl, h⟩

/-- If a computation gives a value, something holds of the value. -/
def Yields (x : Except ε α) (post : α → Prop) : Prop := ∀ a, x = .ok a → post a

namespace Yields

variable {x y : Except ε α} {post : α → Prop} {post' : β → Prop}

theorem ok {a : α} (h : post a) : Yields (.ok a : Except ε α) post := by
  rintro _ ⟨⟩
  exact h

theorem error (e : ε) : Yields (.error e) post := nofun

theorem ite {p : Prop} [Decidable p] (hx : p → Yields x post) (hy : ¬ p → Yields y post) :
    Yields (if p then x else y) post := by
  by_cases h : p
  · simpa only [if_pos h] using hx h
  · simpa only [if_neg h] using hy h

theorem bind {f : α → Except ε β} (hx : Yields x post) (hf : ∀ a, post a → Yields (f a) post') :
    Yields (x >>= f) post' := by
  intro b h
  obtain ⟨a, ha, hb⟩ := bind_eq_ok.mp h
  exact hf a (hx a ha) b hb

theorem map {f : α → β} (hx : Yields x fun a => post' (f a)) : Yields (x.map f) post' := by
  intro b h
  obtain ⟨a, ha, rfl⟩ := map_eq_ok.mp h
  exact hx a ha

theorem mono {weaker : α → Prop} (hx : Yields x post) (h : ∀ a, post a → weaker a) : Yields x weaker :=
  fun a ha => h a (hx a ha)

theorem trivial : Yields x fun _ => True := fun _ _ => .intro

end Yields

/-- A computation that gives no value. -/
abbrev Fails (x : Except ε α) : Prop := Yields x fun _ => False

theorem Fails.yields {x : Except ε α} {post : α → Prop} (h : Fails x) : Yields x post :=
  h.mono fun _ => False.elim

end LogPipeline
