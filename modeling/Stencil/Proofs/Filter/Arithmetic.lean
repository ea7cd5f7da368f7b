import Stencil.Filter.Arithmetic
import Stencil.Proofs.Value.Integral

/-!
# Arithmetic of integers

Two integers give their result exactly, whether 64 bits hold it or only a decimal does. There is one
exception: the remainder of the least integer by `-1` is `0`, but as a decimal, since the remainder
is asked for together with a quotient that does not fit.

* `ofInt?_tdiv_eq_none_iff` — the one quotient that does not fit
* `Operator.integers_eq`, `Operator.decimals_eq` — the results of integers and of decimals
* `integers_exact` — when arithmetic of integers is exact
-/

namespace Stencil.Filter

/-! ## Operations -/

/-- The operations of arithmetic. -/
inductive Operator where
  | plus | minus | times | dividedBy | modulo
  deriving DecidableEq

namespace Operator

/-- What an operation does. -/
def arithmetic : Operator → Arithmetic
  | .plus => Filter.plus
  | .minus => Filter.minus
  | .times => Filter.times
  | .dividedBy => Filter.dividedBy
  | .modulo => Filter.modulo

/-- The result in mathematics. A quotient is cut off toward zero, and a remainder has the sign of
the first number. -/
def result : Operator → Int → Int → Int
  | .plus, a, b => a + b
  | .minus, a, b => a - b
  | .times, a, b => a * b
  | .dividedBy, a, b => a.tdiv b
  | .modulo, a, b => a.tmod b

/-- Whether there is a result: nothing is divided by zero. -/
def Defined (o : Operator) (b : Int) : Prop :=
  o.arithmetic.divides = true → b ≠ 0

/-- A call of the filter of an operation. -/
def call (o : Operator) (site : Site) (a b : Value) : Except RuntimeError Value :=
  o.arithmetic.operation.call o.arithmetic.name site a [b]

/-- The error of a result that has no value. -/
def tooLarge (o : Operator) : RuntimeError :=
  .wrongType (.overflow o.arithmetic.name)

/-- Whether the remainder of a division is asked for whose quotient does not fit. -/
def Declines (o : Operator) (a b : Int64) : Prop :=
  o = .modulo ∧ a.toInt = Integer.least ∧ b.toInt = -1

end Operator

/-! ## Which results fit -/

/-- A quotient of integers of 64 bits fits, unless the least one is divided by `-1`. -/
theorem ofInt?_tdiv_eq_none_iff {a b : Int64} :
    Integer.ofInt? (a.toInt.tdiv b.toInt) = none ↔
      a.toInt = Integer.least ∧ b.toInt = -1 := by
  constructor
  · intro h
    have ha := Integer.bounds a
    rw [Integer.ofInt?_eq_none_iff] at h
    have hquotient : (a.toInt.tdiv b.toInt).natAbs = a.toInt.natAbs / b.toInt.natAbs :=
      Int.natAbs_tdiv ..
    unfold Integer.least Integer.greatest at *
    rcases Nat.lt_or_ge 1 b.toInt.natAbs with hb | hb
    · -- Such a quotient has at most half the magnitude.
      have hhalf : a.toInt.natAbs / b.toInt.natAbs ≤ a.toInt.natAbs / 2 :=
        Nat.div_le_div_left hb (by decide)
      omega
    · obtain hb | hb | hb : b.toInt = 0 ∨ b.toInt = 1 ∨ b.toInt = -1 := by omega
      · rw [hb, Int.tdiv_zero] at h
        omega
      · rw [hb, Int.tdiv_one] at h
        omega
      · rw [hb, Int.tdiv_neg, Int.tdiv_one] at h
        omega
  · rintro ⟨ha, hb⟩
    rw [ha, hb]
    rfl

/-- Every remainder of integers of 64 bits fits. -/
theorem ofInt?_tmod_ne_none (a b : Int64) : Integer.ofInt? (a.toInt.tmod b.toInt) ≠ none := by
  have ha := Integer.bounds a
  have hb := Integer.bounds b
  have hremainder : (a.toInt.tmod b.toInt).natAbs = a.toInt.natAbs % b.toInt.natAbs :=
    Int.natAbs_tmod ..
  rw [ne_eq, Integer.ofInt?_eq_none_iff]
  rcases Nat.eq_zero_or_pos b.toInt.natAbs with hzero | hpos
  · rw [Int.natAbs_eq_zero.mp hzero, Int.tmod_zero]
    omega
  · have hlt := Nat.mod_lt a.toInt.natAbs hpos
    unfold Integer.least Integer.greatest at *
    omega

/-! ## What comes of two integers -/

namespace Operator

variable {o : Operator} {a b : Int64}

theorem eq_of_declines (h : o.Declines a b) : o = .modulo ∧ a = Int64.minValue ∧ b = -1 :=
  ⟨h.1, Int64.toInt_inj.mp h.2.1, Int64.toInt_inj.mp h.2.2⟩

/-- The operations on integers give each result that fits, but for the declined remainder. -/
theorem integers_eq (hb : o.Defined b.toInt) (h : ¬ o.Declines a b) :
    o.arithmetic.integers a.toInt b.toInt = Integer.ofInt? (o.result a.toInt b.toInt) := by
  cases o with
  | plus | minus | times => rfl
  | dividedBy => exact if_neg (hb rfl)
  | modulo =>
    have hquotient : Integer.ofInt? (a.toInt.tdiv b.toInt) ≠ none :=
      fun hnone => h ⟨rfl, ofInt?_tdiv_eq_none_iff.mp hnone⟩
    obtain ⟨n, hn⟩ := Option.ne_none_iff_exists'.mp hquotient
    exact (if_neg (hb rfl)).trans (by rw [hn]; rfl)

theorem isZero_ofInt64 {n : Int64} (h : n.toInt ≠ 0) : (Decimal.ofInt64 n).isZero = false := by
  rw [Bool.eq_false_iff, ne_eq, Decimal.isZero_iff, Decimal.signed_ofInt64]
  exact h

/-- A result that does not fit is computed as a decimal without digits behind the point. -/
theorem decimals_eq (h : Integer.ofInt? (o.result a.toInt b.toInt) = none) :
    o.arithmetic.decimals (.ofInt64 a) (.ofInt64 b) =
      Decimal.ofSigned? (o.result a.toInt b.toInt) 0 := by
  have hsigned := Decimal.signed_ofInt64
  have ha := Integer.bounds a
  have hb := Integer.bounds b
  cases o with
  | plus =>
    rw [Integer.ofInt?_eq_none_iff, result] at h
    refine (Decimal.add?_of_integral rfl rfl (isZero_ofInt64 ?_) (isZero_ofInt64 ?_)).trans ?_
    · omega
    · omega
    · rw [hsigned, hsigned, result]
  | minus =>
    rw [Integer.ofInt?_eq_none_iff, result] at h
    by_cases ha0 : a.toInt = 0
    · -- The one difference from zero that does not fit: zero leaves the other number as it is.
      unfold Integer.least Integer.greatest at *
      obtain rfl : a = 0 := Int64.toInt_inj.mp ha0
      obtain rfl : b = Int64.minValue := Int64.toInt_inj.mp (by
        rw [show Int64.minValue.toInt = -2 ^ 63 by rfl]
        omega)
      rfl
    · refine (Decimal.sub?_of_integral rfl rfl (isZero_ofInt64 ha0) (isZero_ofInt64 ?_)).trans ?_
      · omega
      · rw [hsigned, hsigned, result]
  | times =>
    refine (Decimal.mul?_of_integral rfl rfl).trans ?_
    rw [hsigned, hsigned, result]
  | dividedBy =>
    obtain ⟨ha, hb⟩ := ofInt?_tdiv_eq_none_iff.mp h
    obtain rfl : a = Int64.minValue := Int64.toInt_inj.mp ha
    obtain rfl : b = -1 := Int64.toInt_inj.mp hb
    rfl
  | modulo => exact absurd h (ofInt?_tmod_ne_none a b)

/-- A call with two integers: the result of integers if there is one, else that of decimals. -/
theorem call_eq (hb : o.Defined b.toInt) (site : Site) :
    o.call site (.int a) (.int b) =
      match o.arithmetic.integers a.toInt b.toInt with
      | some n => .ok (.int n)
      | none => decimalOr o.tooLarge (o.arithmetic.decimals (.ofInt64 a) (.ofInt64 b)) := by
  have hzero : (o.arithmetic.divides && (Value.int b).toDecimal.isZero) = false := by
    rw [Bool.and_eq_false_imp]
    exact fun hdivides => isZero_ofInt64 (hb hdivides)
  show ((o.arithmetic.run (.int a) (.int b)).mapError RuntimeError.wrongType) = _
  rw [Arithmetic.run]
  cases o.arithmetic.integers a.toInt b.toInt with
  | some n => rfl
  | none =>
    simp only [hzero, Bool.false_eq_true, if_false]
    cases hdecimal : o.arithmetic.decimals (.ofInt64 a) (.ofInt64 b) with
    | some d => simp only [Value.toDecimal, hdecimal]; rfl
    | none => simp only [Value.toDecimal, hdecimal]; rfl

/-- The declined remainder is zero, as a decimal. -/
theorem call_of_declines (h : o.Declines a b) (site : Site) :
    o.call site (.int a) (.int b) = .ok (.decimal .zero) := by
  obtain ⟨rfl, rfl, rfl⟩ := eq_of_declines h
  rfl

end Operator

/-- **Arithmetic of integers is exact.** Wherever nothing is divided by zero, an operation on two
integers gives the result as an integer if 64 bits hold it, else as a decimal of that value if
96 bits hold its magnitude, else the error that it is too large. This holds for all pairs of
integers but one: the remainder of the least integer by `-1` is zero, given as a decimal. -/
theorem integers_exact (o : Operator) (site : Site) (a b : Int64) (hb : o.Defined b.toInt) :
    (IsExact o.tooLarge (o.result a.toInt b.toInt) (o.call site (.int a) (.int b)) ↔
        ¬ o.Declines a b) ∧
      (o.Declines a b → o.call site (.int a) (.int b) = .ok (.decimal .zero)) := by
  refine ⟨⟨fun hexact hdeclines => ?_, fun h => ?_⟩, fun h => o.call_of_declines h site⟩
  · have hcall := o.call_of_declines hdeclines site
    obtain ⟨rfl, rfl, rfl⟩ := Operator.eq_of_declines hdeclines
    have hfits : Integer.ofInt? (Operator.modulo.result Int64.minValue.toInt (-1 : Int64).toInt) =
        some 0 := rfl
    simp only [IsExact, hfits, hcall] at hexact
    cases hexact
  · have hintegers := o.integers_eq hb h
    refine isExact_of_ofSigned? (fun m hm => ?_) (fun hwide => ?_)
    · rw [o.call_eq hb, hintegers, hm]
    · rw [o.call_eq hb, hintegers, hwide, o.decimals_eq hwide]

/-- The least integer divided by `-1` is the first integer that does not fit. -/
theorem integers_exact_leastByMinusOne :
    Operator.dividedBy.Defined (-1 : Int64).toInt ∧
      ¬ Operator.dividedBy.Declines Int64.minValue (-1) ∧
      IsExact Operator.dividedBy.tooLarge (2 ^ 63)
        (Operator.dividedBy.call ⟨.none, {}⟩ (.int Int64.minValue) (.int (-1))) := by
  have hdefined : Operator.dividedBy.Defined (-1 : Int64).toInt := fun _ => by decide
  have hnot : ¬ Operator.dividedBy.Declines Int64.minValue (-1) := fun h => by cases h.1
  exact ⟨hdefined, hnot,
    (integers_exact .dividedBy ⟨.none, {}⟩ Int64.minValue (-1) hdefined).1.mpr hnot⟩

/-- The remainder of the least integer by `-1` is zero and fits, but it is a decimal. -/
theorem leastByMinusOne_remainder :
    Operator.modulo.result Int64.minValue.toInt (-1 : Int64).toInt = 0 ∧
      Operator.modulo.call ⟨.none, {}⟩ (.int Int64.minValue) (.int (-1)) = .ok (.decimal .zero) ∧
      ¬ ∀ (o : Operator) (site : Site) (a b : Int64), o.Defined b.toInt →
        IsExact o.tooLarge (o.result a.toInt b.toInt) (o.call site (.int a) (.int b)) := by
  have hdeclines : Operator.modulo.Declines Int64.minValue (-1) := ⟨rfl, rfl, rfl⟩
  have hcall := Operator.call_of_declines hdeclines ⟨.none, {}⟩
  refine ⟨rfl, hcall, fun h => ?_⟩
  have hexact := h .modulo ⟨.none, {}⟩ Int64.minValue (-1) (fun _ => by decide)
  rw [hcall] at hexact
  cases hexact

end Stencil.Filter
