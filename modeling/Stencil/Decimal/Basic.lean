import Stencil.Power

/-!
# Decimals

A decimal has a sign, a coefficient of 96 bits and a scale, the number of digits behind the point,
of at most 28. Its value is `± coefficient / 10 ^ scale`. Several decimals have the same value
(`1.5` and `1.50`): they compare equal, and only `Stencil.Decimal.inspect` tells them apart.

* `Decimal.ofSigned?` — makes a decimal from a coefficient and a scale
* `Decimal.compare`, `Decimal.same` — the order of the values
* `Decimal.normalize` — the representative with the smallest scale
-/

namespace Stencil

/-- The coefficient of a decimal is smaller than this. -/
def Decimal.bound : Nat := 2 ^ 96

/-- The greatest number of digits behind the point. -/
def Decimal.maxScale : Nat := 28

/-- A decimal number. -/
structure Decimal where
  negative : Bool
  coefficient : Nat
  scale : Nat
  coefficient_lt : coefficient < Decimal.bound := by decide
  scale_le : scale ≤ Decimal.maxScale := by decide
  deriving DecidableEq

namespace Decimal

/-! ## Making decimals -/

/-- Zero. -/
def zero : Decimal where
  negative := false
  coefficient := 0
  scale := 0

instance : Inhabited Decimal := ⟨zero⟩

/-- The decimal with a signed coefficient and a scale, if both are within bounds. Its zero has no
sign. -/
def ofSigned? (coefficient : Int) (scale : Nat) : Option Decimal :=
  if h : coefficient.natAbs < bound ∧ scale ≤ maxScale then
    some ⟨coefficient < 0, coefficient.natAbs, scale, h.1, h.2⟩
  else none

/-- An integer within bounds as a decimal without digits behind the point. -/
def ofBounded (n : Int) (h : n.natAbs < bound) : Decimal where
  negative := n < 0
  coefficient := n.natAbs
  scale := 0
  coefficient_lt := h

/-- A 64-bit integer as a decimal. -/
def ofInt64 (n : Int64) : Decimal :=
  ofBounded n.toInt (by
    have h₁ := Int64.le_toInt n
    have h₂ := Int64.toInt_lt n
    unfold bound
    omega)

/-! ## Values -/

/-- The coefficient with its sign. -/
def signed (d : Decimal) : Int :=
  if d.negative then -(d.coefficient : Int) else d.coefficient

/-- Whether the value is zero. -/
def isZero (d : Decimal) : Bool :=
  d.coefficient == 0

/-- The coefficient that the value has at a scale that is not smaller than its own. -/
def signedAt (d : Decimal) (scale : Nat) : Int :=
  d.signed * 10 ^ (scale - d.scale)

/-- The order of the values of two decimals. -/
def compare (a b : Decimal) : Ordering :=
  Ord.compare (a.signed * 10 ^ b.scale) (b.signed * 10 ^ a.scale)

/-- Whether two decimals have the same value. -/
def same (a b : Decimal) : Bool :=
  a.signed * 10 ^ b.scale == b.signed * 10 ^ a.scale

@[simp] theorem signed_natAbs (d : Decimal) : d.signed.natAbs = d.coefficient := by
  unfold signed
  split <;> omega

theorem signed_ofSigned? {coefficient : Int} {scale : Nat} {d : Decimal}
    (h : ofSigned? coefficient scale = some d) : d.signed = coefficient ∧ d.scale = scale := by
  unfold ofSigned? at h
  split at h
  · simp only [Option.some.injEq] at h
    subst h
    refine ⟨?_, rfl⟩
    simp only [signed, decide_eq_true_eq]
    split <;> omega
  · simp at h

theorem same_comm (a b : Decimal) : a.same b = b.same a := by
  rw [same, same, Bool.eq_iff_iff, beq_iff_eq, beq_iff_eq]
  exact ⟨Eq.symm, Eq.symm⟩

/-! ## The smallest scale -/

/-- Takes zeros off the end of a coefficient, as long as it has digits behind the point. -/
def dropZeros : (coefficient scale : Nat) → Nat × Nat
  | c, 0 => (c, 0)
  | c, scale + 1 => if c % 10 = 0 then dropZeros (c / 10) scale else (c, scale + 1)

theorem dropZeros_fst_le (c scale : Nat) : (dropZeros c scale).1 ≤ c := by
  induction scale generalizing c with
  | zero => simp [dropZeros]
  | succ s ih =>
    simp only [dropZeros]
    split
    · exact Nat.le_trans (ih (c / 10)) (Nat.div_le_self c 10)
    · simp

theorem dropZeros_snd_le (c scale : Nat) : (dropZeros c scale).2 ≤ scale := by
  induction scale generalizing c with
  | zero => simp [dropZeros]
  | succ s ih =>
    simp only [dropZeros]
    split
    · exact Nat.le_trans (ih (c / 10)) (Nat.le_succ s)
    · simp

/-- The decimal of the same value with the smallest scale. Its zero has no sign. -/
def normalize (d : Decimal) : Decimal where
  negative := d.negative && d.coefficient != 0
  coefficient := (dropZeros d.coefficient d.scale).1
  scale := (dropZeros d.coefficient d.scale).2
  coefficient_lt := Nat.lt_of_le_of_lt (dropZeros_fst_le _ _) d.coefficient_lt
  scale_le := Nat.le_trans (dropZeros_snd_le _ _) d.scale_le

/-- The decimal without its sign. -/
def abs (d : Decimal) : Decimal :=
  { d with negative := false }

end Decimal

end Stencil
