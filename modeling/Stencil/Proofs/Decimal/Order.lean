import Stencil.Proofs.Text.Numerals

/-!
# The order of decimals

Decimals are compared by their values, so one that has the same value as another compares in the
same way, and the comparison is an order of all decimals, whatever their scales.

* `Decimal.compare_congr_left`, `Decimal.compare_congr_right` — equal values compare alike
* `Decimal.compare_isLE_iff` — the comparison is an order (`Std.TransCmp Decimal.compare`)
* `Decimal.compare_ofInt64` — integers compare as decimals as they do by themselves
* `Decimal.toText_normalize` — zeros at the end do not change the text
-/

namespace Stencil.Decimal

/-! ## Values -/

theorem same_iff_compare {a b : Decimal} : a.same b ↔ a.compare b = .eq := by
  rw [same, compare, beq_iff_eq, Std.compare_eq_iff_eq]

theorem compare_mul_pow (x y : Int) (n : Nat) :
    Ord.compare (x * 10 ^ n) (y * 10 ^ n) = Ord.compare x y := by
  have hpos : (0 : Int) < 10 ^ n := Int.pow_pos (by decide)
  rw [Int.compare_eq_ite_lt, Int.compare_eq_ite_lt]
  simp only [Int.mul_lt_mul_right hpos]

/-- Decimals of the same value compare alike with any other. -/
theorem compare_congr_left {a a' : Decimal} (h : a.same a') (b : Decimal) :
    a.compare b = a'.compare b := by
  rw [same, beq_iff_eq] at h
  -- Both sides are brought to the product of the three scales.
  have hleft : a.signed * 10 ^ b.scale * 10 ^ a'.scale =
      a'.signed * 10 ^ b.scale * 10 ^ a.scale := by
    rw [Int.mul_right_comm, h, Int.mul_right_comm]
  have hright : b.signed * 10 ^ a.scale * 10 ^ a'.scale =
      b.signed * 10 ^ a'.scale * 10 ^ a.scale := Int.mul_right_comm ..
  rw [compare, ← compare_mul_pow _ _ a'.scale, hleft, hright, compare_mul_pow, compare]

theorem compare_swap (a b : Decimal) : (a.compare b).swap = b.compare a :=
  (@Std.OrientedCmp.eq_swap Int Ord.compare _ _ _).symm

theorem compare_congr_right {b b' : Decimal} (h : b.same b') (a : Decimal) :
    a.compare b = a.compare b' := by
  rw [← compare_swap b a, compare_congr_left h a, compare_swap]

/-! ## The order -/

theorem compare_isLE_iff {a b : Decimal} :
    (a.compare b).isLE ↔ a.signed * 10 ^ b.scale ≤ b.signed * 10 ^ a.scale := by
  rw [compare, Int.isLE_compare]

/-- The order of decimals is reflexive, transitive and total, and turns around with its sides. -/
instance : Std.TransCmp compare where
  eq_swap := (compare_swap ..).symm
  isLE_trans {a b c} hab hbc := by
    rw [compare_isLE_iff] at hab hbc ⊢
    -- All sides are brought to the product of the three scales.
    have hpos (n : Nat) : (0 : Int) < 10 ^ n := Int.pow_pos (by decide)
    refine Int.le_of_mul_le_mul_right ?_ (hpos b.scale)
    calc a.signed * 10 ^ c.scale * 10 ^ b.scale
        = a.signed * 10 ^ b.scale * 10 ^ c.scale := Int.mul_right_comm ..
      _ ≤ b.signed * 10 ^ a.scale * 10 ^ c.scale :=
        Int.mul_le_mul_of_nonneg_right hab (Int.le_of_lt (hpos _))
      _ = b.signed * 10 ^ c.scale * 10 ^ a.scale := Int.mul_right_comm ..
      _ ≤ c.signed * 10 ^ b.scale * 10 ^ a.scale :=
        Int.mul_le_mul_of_nonneg_right hbc (Int.le_of_lt (hpos _))
      _ = c.signed * 10 ^ a.scale * 10 ^ b.scale := Int.mul_right_comm ..

theorem signed_ofInt64 (n : Int64) : (ofInt64 n).signed = n.toInt := by
  simp only [ofInt64, ofBounded, signed, decide_eq_true_eq]
  split <;> omega

/-- Integers compare as decimals as they do by themselves. -/
theorem compare_ofInt64 (a b : Int64) :
    (ofInt64 a).compare (ofInt64 b) = Ord.compare a.toInt b.toInt := by
  have hscale (n : Int64) : (ofInt64 n).scale = 0 := rfl
  rw [compare, hscale, hscale, signed_ofInt64, signed_ofInt64, Int.pow_zero, Int.mul_one,
    Int.mul_one]

/-! ## Zeros at the end -/

theorem dropZeros_dropZeros (c scale : Nat) :
    dropZeros (dropZeros c scale).1 (dropZeros c scale).2 = dropZeros c scale := by
  induction scale generalizing c with
  | zero => rfl
  | succ s ih =>
    by_cases hzero : c % 10 = 0
    · simp only [dropZeros, hzero, if_true]
      exact ih (c / 10)
    · simp only [dropZeros, hzero, if_false]

theorem eq_of_parts {a b : Decimal} (hnegative : a.negative = b.negative)
    (hcoefficient : a.coefficient = b.coefficient) (hscale : a.scale = b.scale) : a = b := by
  cases a
  cases b
  cases hnegative
  cases hcoefficient
  cases hscale
  rfl

theorem normalize_normalize (d : Decimal) : d.normalize.normalize = d.normalize := by
  have hzeros := dropZeros_dropZeros d.coefficient d.scale
  have hnegative : d.normalize.normalize.negative = d.normalize.negative := by
    show ((d.negative && d.coefficient != 0) && d.normalize.coefficient != 0) =
      (d.negative && d.coefficient != 0)
    rw [Bool.eq_iff_iff]
    simp [normalize_coefficient_eq_zero_iff]
  exact eq_of_parts hnegative (congrArg Prod.fst hzeros) (congrArg Prod.snd hzeros)

/-- The text of a decimal has no zeros at the end anyway. -/
theorem toText_normalize (d : Decimal) : d.normalize.toText = d.toText := by
  rw [toText, toText, normalize_normalize]

end Stencil.Decimal
