import Stencil.Proofs.Host.Conversions
import Stencil.Proofs.Value.Integral

/-!
# Integers of the host

The strict conversion turns an integer into the same value whatever type it has at the host, as far
as 64 bits go: those that fit are integers, and those of the unsigned type of 64 bits that do not
are decimals. The signed type of 128 bits is the exception: it has no value for integers that do not
fit, although there are decimals for them up to 96 bits.

* `isExact_unsigned` — integers without sign are exact
* `integers_by_value` — when the value of an integer is exact, and when it depends on the type
-/

namespace Stencil.Host

/-! ## Types of integers -/

/-- The integer types that can be handed over strictly. -/
inductive IntegerType where
  | signed (width : Width)
  | unsigned (width : Width)
  /-- 128 bits with a sign. -/
  | wide

namespace IntegerType

/-- Whether an integer is one of a type. -/
def Holds : IntegerType → Int → Prop
  | .signed width, n => -2 ^ (width.bits - 1) ≤ n ∧ n < 2 ^ (width.bits - 1)
  | .unsigned width, n => 0 ≤ n ∧ n < 2 ^ width.bits
  | .wide, n => -2 ^ 127 ≤ n ∧ n < 2 ^ 127

instance : (t : IntegerType) → (n : Int) → Decidable (t.Holds n)
  | .signed _, _ | .unsigned _, _ | .wide, _ => inferInstanceAs (Decidable (_ ∧ _))

/-- Whether a type has a sign. -/
def isSigned : IntegerType → Bool
  | .unsigned _ => false
  | _ => true

/-- The value of an integer of a type. -/
def value? (t : IntegerType) (n : Int) : Except ConversionError Value :=
  (Datum.integer t.isSigned n).value?

end IntegerType

/-- Whether an integer has no 64 bits and is a decimal all the same. -/
def DecimalOnly (n : Int) : Prop :=
  Integer.ofInt? n = none ∧ n.natAbs < Decimal.bound

/-! ## Values -/

/-- Integers without sign are exact. -/
theorem isExact_unsigned (n : Int) : IsExact (.integerTooWide n) n (integerValue? false n) := by
  refine isExact_of_ofSigned? (fun m hm => ?_) (fun hwide => ?_)
  · rw [integerValue?, hm]
  · rw [integerValue?, hwide]
    cases Decimal.ofSigned? n 0 <;> rfl

theorem integerValue?_of_fits {signed : Bool} {n : Int} {m : Int64}
    (h : Integer.ofInt? n = some m) : integerValue? signed n = .ok (.int m) := by
  rw [integerValue?, h]

theorem integerValue?_of_not_decimalOnly {n : Int} (h : ¬ DecimalOnly n) (signed : Bool) :
    integerValue? signed n = integerValue? false n := by
  cases hn : Integer.ofInt? n with
  | some m => rw [integerValue?_of_fits hn, integerValue?_of_fits hn]
  | none =>
    have hnone : Decimal.ofSigned? n 0 = none :=
      Decimal.ofSigned?_eq_none_iff.mpr (Nat.not_lt.mp fun hlt => h ⟨hn, hlt⟩)
    cases signed <;> simp [integerValue?, hn, hnone]

theorem fits_of_holds_signed {width : Width} {n : Int} (h : (IntegerType.signed width).Holds n) :
    Integer.ofInt? n ≠ none := by
  obtain ⟨hleast, hlt⟩ := h
  rw [ne_eq, Integer.ofInt?_eq_none_iff]
  unfold Integer.least Integer.greatest
  cases width <;> simp only [Width.bits] at hleast hlt <;> omega

namespace IntegerType

variable {t : IntegerType} {n : Int}

/-- The value of an integer does not depend on its type, but for 128 bits. -/
theorem value?_eq (h : t.Holds n) (hwide : ¬ (t = .wide ∧ DecimalOnly n)) :
    t.value? n = integerValue? false n := by
  cases t with
  | unsigned width => rfl
  | signed width =>
    exact integerValue?_of_not_decimalOnly (fun hn => fits_of_holds_signed h hn.1) true
  | wide => exact integerValue?_of_not_decimalOnly (fun hn => hwide ⟨rfl, hn⟩) true

theorem value?_wide (h : DecimalOnly n) :
    IntegerType.wide.value? n = .error (.integerTooWide n) := by
  simp [value?, isSigned, Datum.value?, integerValue?, h.1]

theorem exists_decimal (h : DecimalOnly n) :
    ∃ d : Decimal, integerValue? false n = .ok (.decimal d) := by
  have hexact := isExact_unsigned n
  simp only [IsExact, h.1, h.2, if_true] at hexact
  obtain ⟨d, -, hd⟩ := hexact
  exact ⟨d, hd⟩

/-- Where there is a decimal only, 128 bits are the one type that has no value. -/
theorem value?_eq_error_iff (h : t.Holds n) (hn : DecimalOnly n) :
    t.value? n = .error (.integerTooWide n) ↔ t = .wide := by
  refine ⟨fun herror => Classical.byContradiction fun hother => ?_, ?_⟩
  · obtain ⟨d, hd⟩ := exists_decimal hn
    rw [value?_eq h fun hwide => hother hwide.1, hd] at herror
    cases herror
  · rintro rfl
    exact value?_wide hn

end IntegerType

/-- **Integers convert by value.** The value of an integer of any type is an integer if 64 bits hold
it, else a decimal of its value if 96 bits hold its magnitude, else the error that it is too wide.
This fails for one type only: 128 bits with a sign, where every integer that does not fit is too
wide. So the same integer has the same value in any two types, unless just one of them is that type
and there is a decimal for it. -/
theorem integers_by_value (t : IntegerType) (n : Int) (h : t.Holds n) :
    (IsExact (.integerTooWide n) n (t.value? n) ↔ ¬ (t = .wide ∧ DecimalOnly n)) ∧
      (t = .wide → DecimalOnly n → t.value? n = .error (.integerTooWide n)) ∧
      ∀ t' : IntegerType, t'.Holds n →
        (t.value? n = t'.value? n ↔ (DecimalOnly n → (t = .wide ↔ t' = .wide))) := by
  refine ⟨⟨fun hexact => ?_, fun hwide => ?_⟩, fun hwide hn => ?_,
    fun t' h' => ⟨fun heq hn => ?_, fun hiff => ?_⟩⟩
  · rintro ⟨rfl, hn⟩
    simp only [IsExact, hn.1, hn.2, if_true, IntegerType.value?_wide hn] at hexact
    obtain ⟨d, -, hd⟩ := hexact
    cases hd
  · rw [IntegerType.value?_eq h hwide]
    exact isExact_unsigned n
  · rw [hwide]
    exact IntegerType.value?_wide hn
  · rw [← IntegerType.value?_eq_error_iff h hn, heq, IntegerType.value?_eq_error_iff h' hn]
  · by_cases hwide : t = .wide ∧ DecimalOnly n
    · rw [hwide.1, (hiff hwide.2).mp hwide.1]
    · have hwide' : ¬ (t' = .wide ∧ DecimalOnly n) :=
        fun h' => hwide ⟨(hiff h'.2).mpr h'.1, h'.2⟩
      rw [IntegerType.value?_eq h hwide, IntegerType.value?_eq h' hwide']

/-- The first integer that does not fit, without sign. -/
theorem integers_by_value_firstWide :
    (IntegerType.unsigned .w64).Holds (2 ^ 63) ∧
      IsExact (.integerTooWide (2 ^ 63)) (2 ^ 63) ((IntegerType.unsigned .w64).value? (2 ^ 63)) ∧
      IntegerType.wide.Holds (2 ^ 63) ∧
      (IntegerType.unsigned .w64).value? (2 ^ 63) ≠ IntegerType.wide.value? (2 ^ 63) := by
  have hholds : (IntegerType.unsigned .w64).Holds (2 ^ 63) := by decide
  have hholds' : IntegerType.wide.Holds (2 ^ 63) := by decide
  have hn : DecimalOnly (2 ^ 63) := ⟨rfl, by decide⟩
  obtain ⟨hexact, -, hsame⟩ := integers_by_value (.unsigned .w64) (2 ^ 63) hholds
  have hother : IntegerType.unsigned .w64 ≠ .wide := IntegerType.noConfusion
  refine ⟨hholds, hexact.mpr fun h => hother h.1, hholds', fun heq => ?_⟩
  exact hother (((hsame .wide hholds').mp heq hn).mpr rfl)

/-- The same integer is refused if it has 128 bits. -/
theorem firstWide_refused :
    IntegerType.wide.Holds (2 ^ 63) ∧
      (Datum.integer true (2 ^ 63)).value? = .error (.integerTooWide (2 ^ 63)) ∧
      ¬ ∀ (t : IntegerType) (n : Int), t.Holds n → IsExact (.integerTooWide n) n (t.value? n) := by
  have hholds : IntegerType.wide.Holds (2 ^ 63) := by decide
  have hn : DecimalOnly (2 ^ 63) := ⟨rfl, by decide⟩
  refine ⟨hholds, IntegerType.value?_wide hn, fun h => ?_⟩
  have hexact := h .wide (2 ^ 63) hholds
  simp only [IsExact, hn.1, hn.2, if_true, IntegerType.value?_wide hn] at hexact
  obtain ⟨d, -, hd⟩ := hexact
  cases hd

end Stencil.Host
