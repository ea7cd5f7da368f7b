import Stencil.Decimal.Arithmetic
import Stencil.Proofs.Decimal.Order

/-!
# Decimals of integers

An integer is a decimal without digits behind the point if 96 bits hold its magnitude. The sum, the
difference and the product of two such decimals are exact, and fail only if 96 bits do not hold the
result.

* `Denotes` — the value of a decimal is an integer
* `nearest?_one` — an integer needs no rounding
* `add?_of_integral`, `mul?_of_integral` — arithmetic is exact
-/

namespace Stencil.Decimal

/-- Whether the value of a decimal is an integer. -/
def Denotes (d : Decimal) (n : Int) : Prop :=
  d.signed = n * 10 ^ d.scale

theorem denotes_of_ofSigned? {n : Int} {d : Decimal} (h : ofSigned? n 0 = some d) :
    d.Denotes n := by
  obtain ⟨hsigned, hscale⟩ := signed_ofSigned? h
  rw [Denotes, hsigned, hscale, Int.pow_zero, Int.mul_one]

theorem ofSigned?_eq_none_iff {n : Int} : ofSigned? n 0 = none ↔ bound ≤ n.natAbs := by
  simp [ofSigned?]

theorem isZero_iff {d : Decimal} : d.isZero = true ↔ d.signed = 0 := by
  rw [← Int.natAbs_eq_zero, signed_natAbs, isZero, beq_iff_eq]

/-! ## Rounding -/

theorem halfEven_one (n : Nat) : Rounding.halfEven n 1 = n := by
  simp [Rounding.halfEven, Nat.mod_one]

/-- An integer needs no rounding. -/
theorem nearest?_one (n : Int) : nearest? n 1 0 = ofSigned? n 0 := by
  have hsign : (if n < 0 then -(n.natAbs : Int) else n.natAbs) = n := by
    split <;> omega
  simp only [nearest?, nearestFrom, coefficientAt, Nat.pow_zero, Nat.mul_one, halfEven_one,
    decide_eq_true_eq, hsign]

/-! ## Arithmetic -/

variable {x y : Decimal}

theorem signedAt_zero (h : x.scale = 0) : x.signedAt 0 = x.signed := by
  rw [signedAt, h, Int.pow_zero, Int.mul_one]

theorem add?_of_integral (hx : x.scale = 0) (hy : y.scale = 0) (hx0 : x.isZero = false)
    (hy0 : y.isZero = false) : add? x y = ofSigned? (x.signed + y.signed) 0 := by
  have hcommon : commonScale x y = 0 := by rw [commonScale, hx, hy, Nat.max_self]
  simp only [add?, hx0, hy0, hcommon, signedAt_zero hx, signedAt_zero hy, Nat.pow_zero,
    nearest?_one, Bool.false_eq_true, if_false]

theorem mul?_of_integral (hx : x.scale = 0) (hy : y.scale = 0) :
    mul? x y = ofSigned? (x.signed * y.signed) 0 := by
  rw [mul?, hx, hy]
  exact nearest?_one _

theorem signed_neg (d : Decimal) : d.neg.signed = -d.signed := by
  unfold neg
  split
  · rename_i hzero
    rw [isZero_iff.mp hzero, Int.neg_zero]
  · cases hsign : d.negative <;> simp [signed, hsign]

theorem scale_neg (d : Decimal) : d.neg.scale = d.scale := by
  unfold neg
  split <;> rfl

theorem isZero_neg (d : Decimal) : d.neg.isZero = d.isZero := by
  unfold neg
  split <;> rfl

theorem sub?_of_integral (hx : x.scale = 0) (hy : y.scale = 0) (hx0 : x.isZero = false)
    (hy0 : y.isZero = false) : sub? x y = ofSigned? (x.signed - y.signed) 0 := by
  rw [sub?, add?_of_integral hx ((scale_neg y).trans hy) hx0 ((isZero_neg y).trans hy0),
    signed_neg, Int.sub_eq_add_neg]

end Stencil.Decimal
