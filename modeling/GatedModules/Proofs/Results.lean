import Mathlib.Logic.Basic

/-!
# Results

When a result that was made from another one is a value and when it is an error, and what holds of
either.
-/

namespace GatedModules

theorem map_eq_ok_iff {x : Except ε α} {f : α → β} {b : β} :
    x.map f = .ok b ↔ ∃ a, x = .ok a ∧ f a = b := by
  cases x <;> simp [Except.map]

theorem bind_eq_ok_iff {x : Except ε α} {f : α → Except ε β} {b : β} :
    (x >>= f) = .ok b ↔ ∃ a, x = .ok a ∧ f a = .ok b := by
  cases x <;> simp [bind, Except.bind]

theorem mapError_eq_ok_iff {x : Except ε α} {f : ε → ε'} {a : α} :
    x.mapError f = .ok a ↔ x = .ok a := by
  cases x <;> constructor <;> intro h <;> cases h <;> rfl

theorem mapError_eq_error_iff {x : Except ε α} {f : ε → ε'} {e : ε'} :
    x.mapError f = .error e ↔ ∃ e', x = .error e' ∧ f e' = e := by
  constructor
  · intro h
    cases x <;> cases h
    exact ⟨_, rfl, rfl⟩
  · rintro ⟨e', rfl, rfl⟩
    rfl

/-- A result whose value, if it has one, is good, and whose error is bearable otherwise. -/
def Yields (good : α → Prop) (bearable : ε → Prop) : Except ε α → Prop
  | .ok a => good a
  | .error e => bearable e

namespace Yields

variable {x : Except ε α} {good : α → Prop} {bearable : ε → Prop}

theorem good_of_ok (h : Yields good bearable x) {a : α} (hx : x = .ok a) : good a := by
  subst hx
  exact h

theorem bearable_of_error (h : Yields good bearable x) {e : ε} (hx : x = .error e) :
    bearable e := by
  subst hx
  exact h

theorem bind {f : α → Except ε β} {better : β → Prop} (h : Yields good bearable x)
    (hf : ∀ a, good a → Yields better bearable (f a)) : Yields better bearable (x >>= f) := by
  cases x with
  | ok a => exact hf a h
  | error e => exact h

theorem map {f : α → β} {better : β → Prop} (h : Yields good bearable x)
    (hf : ∀ a, good a → better (f a)) : Yields better bearable (x.map f) := by
  cases x with
  | ok a => exact hf a h
  | error e => exact h

end Yields

end GatedModules
