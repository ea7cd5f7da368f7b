import Mathlib.Algebra.Order.Field.Basic
import Mathlib.Tactic.FieldSimp
import Mathlib.Tactic.Linarith
import Mathlib.Tactic.Ring
import Stencil.Proofs.Decimal.Order

/-!
# Rounded values

The value of a decimal as a rational number, and what rounding makes of it: the nearest multiple of
a power of ten, where a half goes away from zero (`Nearest`).

* `same_iff_value` — decimals are equal if their values are
* `normalize_eq_of_value` — a value has one representative with the smallest scale
* `Nearest.unique` — a number is rounded to one other
* `nearest_round` — rounding gives the nearest multiple
-/

namespace Stencil.Decimal

/-! ## Values -/

/-- The value of a decimal. -/
def value (d : Decimal) : ℚ :=
  d.signed / 10 ^ d.scale

theorem same_iff_value {a b : Decimal} : a.same b ↔ a.value = b.value := by
  rw [same, beq_iff_eq, value, value, div_eq_div_iff (by positivity) (by positivity)]
  norm_cast

theorem compare_isLE_iff_value {a b : Decimal} : (a.compare b).isLE ↔ a.value ≤ b.value := by
  rw [compare_isLE_iff, value, value, div_le_div_iff₀ (by positivity) (by positivity)]
  norm_cast

theorem compare_eq_lt_iff {a b : Decimal} : a.compare b = .lt ↔ a.value < b.value := by
  rw [← not_le, ← compare_isLE_iff_value, ← compare_swap a b]
  cases a.compare b <;> decide

theorem value_ofInt64 (n : Int64) : (ofInt64 n).value = n.toInt := by
  have hscale : (ofInt64 n).scale = 0 := rfl
  rw [value, hscale, signed_ofInt64, pow_zero, div_one]

theorem value_normalize (d : Decimal) : d.normalize.value = d.value :=
  same_iff_value.mp (same_normalize d)

/-! ## The smallest scale -/

/-- A decimal without zeros at the end, and without a sign of zero. -/
structure IsNormal (d : Decimal) : Prop where
  coefficient : 0 < d.scale → d.coefficient % 10 ≠ 0
  sign : d.negative → d.coefficient ≠ 0

theorem dropZeros_mod (c scale : Nat) :
    0 < (dropZeros c scale).2 → (dropZeros c scale).1 % 10 ≠ 0 := by
  induction scale generalizing c with
  | zero => simp [dropZeros]
  | succ s ih =>
    by_cases hzero : c % 10 = 0
    · simpa only [dropZeros, hzero, if_true] using ih (c / 10)
    · simp [dropZeros, hzero]

theorem isNormal_normalize (d : Decimal) : d.normalize.IsNormal := by
  refine ⟨dropZeros_mod d.coefficient d.scale, fun hnegative hzero => ?_⟩
  rw [normalize_coefficient_eq_zero_iff] at hzero
  simp [normalize, hzero] at hnegative

theorem coefficient_mul_of_same {a b : Decimal} (h : a.same b) :
    a.coefficient * 10 ^ b.scale = b.coefficient * 10 ^ a.scale := by
  rw [same, beq_iff_eq] at h
  have habs := congrArg Int.natAbs h
  simpa [Int.natAbs_mul, Int.natAbs_pow] using habs

theorem IsNormal.scale_le {a b : Decimal} (ha : a.IsNormal) (h : a.same b) :
    a.scale ≤ b.scale := by
  by_contra hlt
  obtain ⟨k, hk⟩ : ∃ k, a.scale = b.scale + (k + 1) := ⟨a.scale - b.scale - 1, by omega⟩
  have hmul := coefficient_mul_of_same h
  rw [hk, Nat.pow_add, Nat.mul_comm (10 ^ b.scale), ← Nat.mul_assoc] at hmul
  have hcancel : a.coefficient = b.coefficient * 10 ^ (k + 1) :=
    Nat.eq_of_mul_eq_mul_right (Nat.pow_pos (by decide)) hmul
  -- The coefficient would be a multiple of ten.
  refine ha.coefficient (by omega) ?_
  rw [hcancel, Nat.pow_succ, ← Nat.mul_assoc, Nat.mul_mod_left]

theorem IsNormal.negative_iff {d : Decimal} (h : d.IsNormal) : d.negative ↔ d.signed < 0 := by
  have hsign := h.sign
  unfold signed
  cases hnegative : d.negative with
  | false => simp
  | true =>
    have := hsign hnegative
    simp only [if_true, true_iff]
    omega

/-- A value has one representative with the smallest scale. -/
theorem IsNormal.eq_of_same {a b : Decimal} (ha : a.IsNormal) (hb : b.IsNormal) (h : a.same b) :
    a = b := by
  have hscale : a.scale = b.scale :=
    Nat.le_antisymm (ha.scale_le h) (hb.scale_le (same_comm a b ▸ h))
  have hsigned : a.signed = b.signed := by
    rw [same, beq_iff_eq, hscale] at h
    exact Int.eq_of_mul_eq_mul_right (Int.pow_ne_zero (by decide)) h
  refine eq_of_parts ?_ ?_ hscale
  · rw [Bool.eq_iff_iff, ha.negative_iff, hb.negative_iff, hsigned]
  · rw [← signed_natAbs, ← signed_natAbs, hsigned]

theorem normalize_eq_of_value {a b : Decimal} (h : a.value = b.value) :
    a.normalize = b.normalize := by
  refine (isNormal_normalize a).eq_of_same (isNormal_normalize b) (same_iff_value.mpr ?_)
  rw [value_normalize, value_normalize, h]

/-! ## The nearest multiple -/

/-- A number is the multiple of `10⁻ⁿ` that is nearest to another one; of two that are equally near
it is the one farther away from zero. -/
structure Nearest (n : Nat) (x q : ℚ) : Prop where
  multiple : ∃ k : ℤ, q = k / 10 ^ n
  nearest : ∀ k : ℤ, |x - q| ≤ |x - k / 10 ^ n|
  away : ∀ k : ℤ, |x - q| = |x - k / 10 ^ n| → |(k : ℚ) / 10 ^ n| ≤ |q|

variable {n : Nat} {x q q' : ℚ}

/-- A multiple is rounded to itself. -/
theorem Nearest.eq_of_multiple (h : Nearest n x q) (hx : ∃ k : ℤ, x = k / 10 ^ n) : q = x := by
  obtain ⟨k, hk⟩ := hx
  have hle := h.nearest k
  rw [← hk, sub_self, abs_zero] at hle
  linarith [abs_eq_zero.mp (le_antisymm hle (abs_nonneg _))]

theorem nearest_self (hx : ∃ k : ℤ, x = k / 10 ^ n) : Nearest n x x := by
  refine ⟨hx, fun k => ?_, fun k heq => ?_⟩
  · rw [sub_self, abs_zero]
    exact abs_nonneg _
  · rw [sub_self, abs_zero] at heq
    rw [← sub_eq_zero.mp (abs_eq_zero.mp heq.symm)]

/-- A number is rounded to one other. -/
theorem Nearest.unique (h : Nearest n x q) (h' : Nearest n x q') : q = q' := by
  obtain ⟨k, hk⟩ := h.multiple
  obtain ⟨k', hk'⟩ := h'.multiple
  have hdistance : |x - q| = |x - q'| :=
    le_antisymm (hk' ▸ h.nearest k') (hk ▸ h'.nearest k)
  have hsize : |q| = |q'| :=
    le_antisymm (hk ▸ h'.away k (hk ▸ hdistance.symm)) (hk' ▸ h.away k' (hk' ▸ hdistance))
  rcases abs_eq_abs.mp hsize with heq | hopposite
  · exact heq
  -- Two opposite numbers are equally near to zero only, which is a multiple itself.
  rcases abs_eq_abs.mp hdistance with hleft | hright
  · linarith
  · have hzero : x = 0 := by linarith
    have hq := h.eq_of_multiple ⟨0, by simp [hzero]⟩
    have hq' := h'.eq_of_multiple ⟨0, by simp [hzero]⟩
    rw [hq, hq']

/-! ## Rounding -/

theorem halfUp_bounds (c : Nat) {p : Nat} (hp : 0 < p) :
    2 * (Rounding.halfUp c p * p) ≤ 2 * c + p ∧
      2 * c + p < 2 * (Rounding.halfUp c p * p) + 2 * p := by
  have hlow := Nat.div_mul_le_self (2 * c + p) (2 * p)
  have hhigh := Nat.lt_div_mul_add (a := 2 * c + p) (show 0 < 2 * p by omega)
  rw [Rounding.halfUp]
  generalize (2 * c + p) / (2 * p) = r at hlow hhigh ⊢
  have hmul : r * (2 * p) = 2 * (r * p) := Nat.mul_left_comm r 2 p
  omega

/-- A rounded quotient is the nearest one, and of two it is the one farther away from zero. -/
theorem halfUp_nearest (c : Nat) {p : Nat} (hp : 0 < p) (m : ℤ) :
    |(c : ℤ) - Rounding.halfUp c p * p| ≤ |(c : ℤ) - m * p| ∧
      (|(c : ℤ) - Rounding.halfUp c p * p| = |(c : ℤ) - m * p| → |m| ≤ Rounding.halfUp c p) := by
  obtain ⟨hlow, hhigh⟩ := halfUp_bounds c hp
  generalize Rounding.halfUp c p = r at hlow hhigh ⊢
  have hlow' : 2 * ((r : ℤ) * p) ≤ 2 * c + p := by exact_mod_cast hlow
  have hhigh' : 2 * (c : ℤ) + p < 2 * (r * p) + 2 * p := by exact_mod_cast hhigh
  -- The distance to the rounded quotient is half of the divisor at most.
  have hhalf : 2 * |(c : ℤ) - r * p| ≤ p := by
    rcases abs_cases ((c : ℤ) - r * p) with ⟨habs, -⟩ | ⟨habs, -⟩ <;> omega
  rcases lt_trichotomy m r with hless | rfl | hgreater
  · have hstep : m * p + p ≤ r * p := by nlinarith
    have hfar : (p : ℤ) ≤ 2 * |(c : ℤ) - m * p| := by
      have := le_abs_self ((c : ℤ) - m * p)
      omega
    refine ⟨by omega, fun heq => abs_le.mpr ⟨?_, by omega⟩⟩
    -- A negative quotient is too far away.
    by_contra hnegative
    have hbelow : m * p ≤ -p := by nlinarith
    have := le_abs_self ((c : ℤ) - m * p)
    omega
  · exact ⟨le_refl _, fun _ => (abs_of_nonneg (Int.natCast_nonneg r)).le⟩
  · have hstep : r * p + p ≤ m * p := by nlinarith
    have hfar : (p : ℤ) < 2 * |(c : ℤ) - m * p| := by
      have := neg_abs_le ((c : ℤ) - m * p)
      omega
    exact ⟨by omega, fun heq => by omega⟩

theorem signed_round {d : Decimal} {n : Nat} (h : n < d.scale) :
    (d.round n).signed =
      if d.negative then -(Rounding.halfUp d.coefficient (10 ^ (d.scale - n)) : ℤ)
      else Rounding.halfUp d.coefficient (10 ^ (d.scale - n)) := by
  simp only [round, dif_neg (Nat.not_le.mpr h), signed]
  generalize Rounding.halfUp d.coefficient (10 ^ (d.scale - n)) = r
  cases d.negative with
  | false => simp
  | true => by_cases hzero : r = 0 <;> simp [hzero]

/-- Rounding takes the nearest coefficient of the new scale. -/
theorem signed_round_nearest {d : Decimal} {n : Nat} (h : n < d.scale) (m : ℤ) :
    |d.signed - (d.round n).signed * 10 ^ (d.scale - n)| ≤ |d.signed - m * 10 ^ (d.scale - n)| ∧
      (|d.signed - (d.round n).signed * 10 ^ (d.scale - n)| =
          |d.signed - m * 10 ^ (d.scale - n)| → |m| ≤ |(d.round n).signed|) := by
  have hnearest := halfUp_nearest d.coefficient (p := 10 ^ (d.scale - n)) (Nat.pow_pos (by decide))
  rw [signed_round h]
  generalize Rounding.halfUp d.coefficient (10 ^ (d.scale - n)) = r at hnearest ⊢
  push_cast at hnearest
  cases hnegative : d.negative with
  | false => simpa [signed, hnegative] using hnearest m
  | true =>
    -- With the signs of all turned around the distances are the same.
    have hopposite (k : ℤ) : |-(d.coefficient : ℤ) - -k * 10 ^ (d.scale - n)| =
        |(d.coefficient : ℤ) - k * 10 ^ (d.scale - n)| := by
      rw [← abs_neg]
      congr 1
      ring
    obtain ⟨k, rfl⟩ : ∃ k, m = -k := ⟨-m, (neg_neg m).symm⟩
    simp only [signed, hnegative, if_true]
    rw [hopposite, hopposite, abs_neg, abs_neg, Nat.abs_cast]
    exact hnearest k

theorem scale_round {d : Decimal} {n : Nat} (h : n < d.scale) : (d.round n).scale = n := by
  rw [round, dif_neg (by omega)]

/-- The difference to a multiple of a greater power of ten. -/
theorem value_sub {d : Decimal} {n : Nat} (h : n ≤ d.scale) (m : ℤ) :
    d.value - m / 10 ^ n = ((d.signed - m * 10 ^ (d.scale - n) : ℤ) : ℚ) / 10 ^ d.scale := by
  have hpow : (10 : ℚ) ^ d.scale = 10 ^ (d.scale - n) * 10 ^ n := by
    rw [← pow_add, Nat.sub_add_cancel h]
  rw [value, hpow]
  push_cast
  field_simp

theorem multiple_of_scale_le {d : Decimal} {n : Nat} (h : d.scale ≤ n) :
    ∃ k : ℤ, d.value = k / 10 ^ n := by
  have hpow : (10 : ℚ) ^ n = 10 ^ (n - d.scale) * 10 ^ d.scale := by
    rw [← pow_add, Nat.sub_add_cancel h]
  refine ⟨d.signed * 10 ^ (n - d.scale), ?_⟩
  rw [value, hpow]
  push_cast
  field_simp

/-- Rounding gives the nearest multiple. -/
theorem nearest_round (d : Decimal) (n : Nat) : Nearest n d.value (d.round n).value := by
  by_cases hscale : d.scale ≤ n
  · have hstays : d.round n = d := by rw [round, dif_pos hscale]
    rw [hstays]
    exact nearest_self (multiple_of_scale_le hscale)
  have hlt : n < d.scale := Nat.lt_of_not_le hscale
  have hvalue : (d.round n).value = (d.round n).signed / 10 ^ n := by rw [value, scale_round hlt]
  have hpos : (0 : ℚ) < 10 ^ d.scale := by positivity
  have hdistance (m : ℤ) : |d.value - m / 10 ^ n| =
      ((|d.signed - m * 10 ^ (d.scale - n)| : ℤ) : ℚ) / 10 ^ d.scale := by
    rw [value_sub hlt.le, abs_div, abs_of_pos hpos, Int.cast_abs]
  refine ⟨⟨_, hvalue⟩, fun k => ?_, fun k heq => ?_⟩
  · rw [hvalue, hdistance, hdistance, div_le_div_iff_of_pos_right hpos]
    exact_mod_cast (signed_round_nearest hlt k).1
  · rw [hvalue, hdistance, hdistance, div_left_inj' hpos.ne'] at heq
    have hle := (signed_round_nearest hlt k).2 (by exact_mod_cast heq)
    rw [hvalue, abs_div, abs_div, div_le_div_iff_of_pos_right (by positivity)]
    exact_mod_cast hle

end Stencil.Decimal
