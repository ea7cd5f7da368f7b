import Stencil.Proofs.Decimal.Nearest

/-!
# Decimals as they are written

The text of a decimal is a sign, digits before the point and digits behind it (`Form`). It has no
more digits than the value needs (`Form.IsShortest`), so equal decimals are written alike, and what
is written is told by the value alone.

* `exists_form` — the text is the shortest form of the value
* `toText_eq_of_value` — equal decimals have the same text
-/

namespace Stencil

/-! ## Digits -/

namespace Text

theorem head?_toDigits_ne_zero {n : Nat} (h : 0 < n) : (Nat.toDigits 10 n).head? ≠ some '0' := by
  induction n using Nat.strongRecOn with
  | _ n ih =>
    by_cases hlt : n < 10
    · rw [Nat.toDigits_of_lt_base hlt]
      simpa [Nat.digitChar_eq_zero] using h.ne'
    · rw [Nat.toDigits_of_base_le (by decide) (by omega),
        List.head?_append_of_ne_nil _ Nat.toDigits_ne_nil]
      exact ih (n / 10) (by omega) (by omega)

theorem getLast?_toDigits (n : Nat) :
    (Nat.toDigits 10 n).getLast? = some (Nat.digitChar (n % 10)) := by
  by_cases hlt : n < 10
  · rw [Nat.toDigits_of_lt_base hlt, Nat.mod_eq_of_lt hlt]
    rfl
  · rw [Nat.toDigits_of_base_le (by decide) (by omega), List.getLast?_concat]

end Text

namespace Decimal

/-! ## Forms -/

/-- A number as it is written: its sign, the digits before the point and those behind it. -/
structure Form where
  negative : Bool
  whole : List Char
  behind : List Char

namespace Form

/-- What is written. There is no point without digits behind it. -/
def text (f : Form) : List Char :=
  (if f.negative then ['-'] else []) ++ f.whole ++ if f.behind = [] then [] else '.' :: f.behind

/-- The number that is written. -/
def value (f : Form) : ℚ :=
  (if f.negative then -1 else 1) * Nat.ofDigitChars 10 (f.whole ++ f.behind) 0 /
    10 ^ f.behind.length

/-- A number in digits only, without zeros that could be left out, and without a sign of zero. -/
structure IsShortest (f : Form) : Prop where
  digits : ∀ c ∈ f.whole ++ f.behind, c.isDigit
  whole_ne_nil : f.whole ≠ []
  whole_head : f.whole.head? = some '0' → f.whole = ['0']
  behind_last : f.behind.getLast? ≠ some '0'
  sign : f.negative → ∃ c ∈ f.whole ++ f.behind, c ≠ '0'

end Form

namespace Splits

variable {c scale : Nat} {whole behind : List Char}

theorem behind_eq_nil_iff (h : Splits c scale whole behind) : behind = [] ↔ scale = 0 := by
  rw [← List.length_eq_zero_iff, h.length_behind]

/-- The digits are those of the coefficient. -/
theorem ofDigitChars_eq (h : Splits c scale whole behind) :
    Nat.ofDigitChars 10 (whole ++ behind) 0 = c := by
  rw [← h.append, paddedDigits, Nat.ofDigitChars_append, Nat.ofDigitChars_replicate_zero,
    Nat.mul_zero, Nat.ofDigitChars_ten_toDigits]

/-- Before the point there is no zero at the beginning, unless it is the only digit there. -/
theorem whole_head (h : Splits c scale whole behind) (hzero : whole.head? = some '0') :
    whole = ['0'] := by
  obtain ⟨rest, rfl⟩ := List.head?_eq_some_iff.mp hzero
  have happend := h.append
  have hlength := congrArg List.length happend
  rw [paddedDigits, List.length_append, List.length_replicate, List.length_append,
    List.length_cons, h.length_behind] at hlength
  cases rest with
  | nil => rfl
  | cons d rest =>
    -- With a second digit before the point nothing was put in front of the coefficient.
    rw [List.length_cons] at hlength
    have hnone : scale + 1 - (Nat.toDigits 10 c).length = 0 := by omega
    rw [paddedDigits, hnone, List.replicate_zero, List.nil_append] at happend
    rcases Nat.eq_zero_or_pos c with rfl | hpos
    · rw [Nat.toDigits_zero] at happend
      simp at happend
    · have hhead := Text.head?_toDigits_ne_zero hpos
      rw [happend] at hhead
      exact absurd rfl hhead

/-- Behind the point there is no zero at the end, if the coefficient has none. -/
theorem behind_last (h : Splits c scale whole behind) (hc : 0 < scale → c % 10 ≠ 0) :
    behind.getLast? ≠ some '0' := by
  intro hzero
  have hne : behind ≠ [] := by
    rintro rfl
    cases hzero
  have hscale : 0 < scale := Nat.pos_of_ne_zero (mt h.behind_eq_nil_iff.mpr hne)
  have hlast := congrArg List.getLast? h.append
  rw [paddedDigits, List.getLast?_append_of_ne_nil _ Nat.toDigits_ne_nil,
    List.getLast?_append_of_ne_nil _ hne, hzero, Text.getLast?_toDigits] at hlast
  exact hc hscale (Nat.digitChar_eq_zero.mp (Option.some.inj hlast))

/-- A number other than zero has a digit other than zero. -/
theorem exists_ne_zero (h : Splits c scale whole behind) (hc : c ≠ 0) :
    ∃ d ∈ whole ++ behind, d ≠ '0' := by
  by_contra hnone
  push Not at hnone
  have hvalue := h.ofDigitChars_eq
  rw [List.eq_replicate_of_mem hnone, Nat.ofDigitChars_replicate_zero, Nat.mul_zero] at hvalue
  exact hc hvalue.symm

end Splits

/-- The text of a decimal is the shortest form of its value. -/
theorem exists_form (d : Decimal) :
    ∃ f : Form, d.toText = f.text ∧ f.IsShortest ∧ f.value = d.value ∧
      f.behind.length ≤ d.scale := by
  obtain ⟨whole, behind, hsplits, hwrite⟩ :=
    write_eq d.normalize.negative d.normalize.coefficient d.normalize.scale
  have hnormal := isNormal_normalize d
  refine ⟨⟨d.normalize.negative, whole, behind⟩, ?_, ?_, ?_, ?_⟩
  · rw [toText, inspect, hwrite, Form.text, List.append_assoc]
    simp only [hsplits.behind_eq_nil_iff]
  · exact ⟨fun c hc => isDigit_paddedDigits _ _ c (hsplits.append ▸ hc), hsplits.whole_ne_nil,
      hsplits.whole_head, hsplits.behind_last hnormal.coefficient,
      fun hnegative => hsplits.exists_ne_zero (hnormal.sign hnegative)⟩
  · rw [← value_normalize, value, Form.value, hsplits.ofDigitChars_eq, hsplits.length_behind,
      signed]
    split <;> simp
  · rw [hsplits.length_behind]
    exact normalize_scale_le d

/-- Equal decimals have the same text. -/
theorem toText_eq_of_value {a b : Decimal} (h : a.value = b.value) : a.toText = b.toText := by
  rw [toText, toText, normalize_eq_of_value h]

end Decimal

end Stencil
