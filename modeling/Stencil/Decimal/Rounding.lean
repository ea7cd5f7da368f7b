import Stencil.Decimal.Basic
import Stencil.Integer
import Stencil.Rounding

/-!
# Rounding decimals

Cutting off and rounding digits behind the point. A half goes away from zero.
-/

namespace Stencil.Decimal

theorem halfUp_ten_pow_lt {n k : Nat} (hn : n < bound) (hk : 0 < k) :
    Rounding.halfUp n (10 ^ k) < bound := by
  unfold Rounding.halfUp
  have hpow : 10 ≤ 10 ^ k := by
    calc 10 = 10 ^ 1 := rfl
      _ ≤ 10 ^ k := Nat.pow_le_pow_right (by decide) hk
  rw [Nat.div_lt_iff_lt_mul (by omega)]
  have h : bound * (2 * 10) ≤ bound * (2 * 10 ^ k) :=
    Nat.mul_le_mul (Nat.le_refl _) (by omega)
  have hb : 10 ^ k ≤ bound * 10 ^ k := Nat.le_mul_of_pos_left _ (by decide)
  have hb' : bound * (2 * 10 ^ k) = bound * 10 ^ k + bound * 10 ^ k := by
    rw [← Nat.mul_add]; congr 1; omega
  omega

/-- The value rounded to a number of digits behind the point, a half away from zero. A decimal
that has no more digits stays as it is. -/
def round (digits : Nat) (d : Decimal) : Decimal :=
  if h : d.scale ≤ digits then d
  else
    { negative := d.negative && Rounding.halfUp d.coefficient (10 ^ (d.scale - digits)) != 0
      coefficient := Rounding.halfUp d.coefficient (10 ^ (d.scale - digits))
      scale := digits
      coefficient_lt := halfUp_ten_pow_lt d.coefficient_lt (by omega)
      scale_le := by have := d.scale_le; omega }

theorem round_scale_le (d : Decimal) (digits : Nat) : (d.round digits).scale ≤ digits := by
  unfold round
  split <;> simp_all

/-! ## Integers -/

/-- The integer that is left when the digits behind the point are cut off. -/
def truncated (d : Decimal) : Int :=
  d.signed.tdiv (10 ^ d.scale)

/-- What is left when the digits behind the point are cut off, if that is a 64-bit integer. -/
def truncate? (d : Decimal) : Option Int64 :=
  Integer.ofInt? d.truncated

theorem natAbs_ediv_lt (n m : Int) (hn : n.natAbs < bound) : (n / m).natAbs < bound :=
  Nat.lt_of_le_of_lt (Int.natAbs_ediv_le_natAbs n m) hn

/-- The greatest integer that is not greater than the value. -/
def floor (d : Decimal) : Decimal :=
  ofBounded (d.signed / 10 ^ d.scale)
    (natAbs_ediv_lt _ _ (by rw [signed_natAbs]; exact d.coefficient_lt))

/-- The smallest integer that is not smaller than the value. -/
def ceil (d : Decimal) : Decimal :=
  ofBounded (-(-d.signed / 10 ^ d.scale)) (by
    rw [Int.natAbs_neg]
    exact natAbs_ediv_lt _ _ (by rw [Int.natAbs_neg, signed_natAbs]; exact d.coefficient_lt))

end Stencil.Decimal
