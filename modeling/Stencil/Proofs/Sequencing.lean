import Mathlib.Logic.Basic

/-!
# Sequencing

What comes of one computation after another, where either may fail: with a result only
(`bind_eq_ok_iff`), or with a state that is kept also by a failure (`bind_apply`). Readers of markup
and renders are of the latter kind.
-/

namespace Stencil

variable {ε σ α β : Type}

/-- Two computations succeed if the first does and the second does with its result. -/
theorem bind_eq_ok_iff {x : Except ε α} {f : α → Except ε β} {b : β} :
    x >>= f = .ok b ↔ ∃ a, x = .ok a ∧ f a = .ok b := by
  cases x with
  | error e => simp [bind, Except.bind]
  | ok a => simp [bind, Except.bind]

/-- The second computation starts in the state that the first leaves, unless that fails. -/
theorem bind_apply (r : ExceptT ε (StateM σ) α) (f : α → ExceptT ε (StateM σ) β) (s : σ) :
    (r >>= f) s =
      match r s with
      | (.ok a, s) => f a s
      | (.error e, s) => (.error e, s) := by
  show (match r s with | (x, s) => ExceptT.bindCont f x s) = _
  match r s with
  | (.ok a, s) => rfl
  | (.error e, s) => rfl

theorem bind_apply_of_ok {r : ExceptT ε (StateM σ) α} {s s' : σ} {a : α} (h : r s = (.ok a, s'))
    (f : α → ExceptT ε (StateM σ) β) : (r >>= f) s = f a s' := by
  rw [bind_apply, h]

theorem bind_apply_of_error {r : ExceptT ε (StateM σ) α} {s s' : σ} {e : ε}
    (h : r s = (.error e, s')) (f : α → ExceptT ε (StateM σ) β) :
    (r >>= f) s = (.error e, s') := by
  rw [bind_apply, h]

/-- Two computations succeed if the first does and the second does from where the first ends. -/
theorem bind_apply_eq_ok_iff {r : ExceptT ε (StateM σ) α} {f : α → ExceptT ε (StateM σ) β}
    {s t : σ} {b : β} :
    (r >>= f) s = (.ok b, t) ↔ ∃ a s', r s = (.ok a, s') ∧ f a s' = (.ok b, t) := by
  constructor
  · intro h
    match hr : r s with
    | (.ok a, s') => exact ⟨a, s', rfl, by rwa [bind_apply_of_ok hr] at h⟩
    | (.error e, s') =>
      rw [bind_apply_of_error hr] at h
      cases h
  · rintro ⟨a, s', hr, hf⟩
    rwa [bind_apply_of_ok hr]

end Stencil
