import Stencil.Proofs.Decimal.Integral
import Stencil.Value.Basic

/-!
# Integers as values

An integer is an integer of 64 bits if it fits, else a decimal of its value if 96 bits hold its
magnitude. Whatever is larger has no value.

* `IsExact` — an answer is an integer exactly, or an error where there is no value for it
* `isExact_of_ofSigned?` — how answers are found to be exact
-/

namespace Stencil

theorem Integer.ofInt?_eq_none_iff {n : Int} :
    ofInt? n = none ↔ n < least ∨ greatest < n := by
  simp only [ofInt?, ite_eq_right_iff, reduceCtorEq, imp_false]
  omega

variable {ε : Type} {error : ε} {n : Int} {answer : Except ε Value}

/-- Whether an answer is an integer exactly: an integer if 64 bits hold it, else a decimal of its
value if 96 bits hold its magnitude, else an error. -/
def IsExact (error : ε) (n : Int) (answer : Except ε Value) : Prop :=
  match Integer.ofInt? n with
  | some m => answer = .ok (.int m)
  | none =>
    if n.natAbs < Decimal.bound then ∃ d : Decimal, d.Denotes n ∧ answer = .ok (.decimal d)
    else answer = .error error

/-- A decimal as an answer, or an error where there is none. -/
def decimalOr (error : ε) : Option Decimal → Except ε Value
  | some d => .ok (.decimal d)
  | none => .error error

/-- An answer is exact if it is the integer that fits, and else what comes of making a decimal. -/
theorem isExact_of_ofSigned?
    (hfits : ∀ m, Integer.ofInt? n = some m → answer = .ok (.int m))
    (hwide : Integer.ofInt? n = none → answer = decimalOr error (Decimal.ofSigned? n 0)) :
    IsExact error n answer := by
  unfold IsExact
  cases hn : Integer.ofInt? n with
  | some m => exact hfits m hn
  | none =>
    specialize hwide hn
    cases hd : Decimal.ofSigned? n 0 with
    | some d =>
      have hbound : n.natAbs < Decimal.bound := by
        rw [← Nat.not_le, ← Decimal.ofSigned?_eq_none_iff, hd]
        simp
      simp only [hbound, if_true]
      exact ⟨d, Decimal.denotes_of_ofSigned? hd, by rw [hwide, hd, decimalOr]⟩
    | none =>
      have hbound : ¬ n.natAbs < Decimal.bound := by
        rw [Nat.not_lt, ← Decimal.ofSigned?_eq_none_iff, hd]
      simp only [hbound, if_false]
      rw [hwide, hd, decimalOr]

end Stencil
