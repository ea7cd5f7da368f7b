import Stencil.Proofs.Decimal.Writing
import Stencil.Proofs.Text.SnakeCase
import Stencil.Settings

/-!
# What settings do to texts

How decimals are written and how keys are spelled, by any setting.

* `DecimalEncoding.written_shortest` — decimals are rounded and written in their shortest form
* `KeyEncoding.snakeCase_settles` — keys keep their letters and are spelled once
-/

namespace Stencil

open Decimal (Form Nearest)
open Text (isUppercase lowerChar)

/-! ## Decimals -/

namespace DecimalEncoding

/-- The decimal that is written. -/
def written : DecimalEncoding → Decimal → Decimal
  | .full, d => d
  | .scaled digits, d => d.round digits

theorem toList_encode (encoding : DecimalEncoding) (d : Decimal) :
    (encoding.encode d).toList = (encoding.written d).toText := by
  cases encoding <;> exact String.toList_ofList

/-- What is written depends on the value alone. -/
theorem encode_eq_of_value (encoding : DecimalEncoding) {a b : Decimal} (h : a.value = b.value) :
    encoding.encode a = encoding.encode b := by
  rw [← String.toList_inj, toList_encode, toList_encode]
  refine Decimal.toText_eq_of_value ?_
  cases encoding with
  | full => exact h
  | scaled digits =>
    have hb := Decimal.nearest_round b digits
    rw [← h] at hb
    exact (Decimal.nearest_round a digits).unique hb

/-- What has been written once is written again in the same way. -/
theorem encode_normalize_written (encoding : DecimalEncoding) (d : Decimal) :
    encoding.encode (encoding.written d).normalize = encoding.encode d := by
  rw [← String.toList_inj, toList_encode, toList_encode]
  refine Decimal.toText_eq_of_value ?_
  cases encoding with
  | full => exact Decimal.value_normalize d
  | scaled digits =>
    have hscale : (d.round digits).normalize.scale ≤ digits :=
      Nat.le_trans (Decimal.normalize_scale_le _) (Decimal.round_scale_le d digits)
    have hstays : (d.round digits).normalize.round digits = (d.round digits).normalize := by
      rw [Decimal.round, dif_pos hscale]
    show ((d.round digits).normalize.round digits).value = (d.round digits).value
    rw [hstays, Decimal.value_normalize]

/-- **Decimals are rounded and written in their shortest form.** What is written for a decimal is a
number in digits without zeros that could be left out, and without a sign of zero: in full it is the
value of the decimal, and with a number of digits behind the point, of which there are no more, it
is the multiple that is nearest to the value, a half going away from zero, so it is the value itself
if that has no more digits. Decimals of the same value are written alike, and the decimal that is
read back from the text is written as this text again. -/
theorem written_shortest (encoding : DecimalEncoding) (d : Decimal) :
    ∃ form : Form,
      ((encoding.encode d).toList = form.text ∧ form.IsShortest) ∧
      (encoding = .full → form.value = d.value) ∧
      (∀ digits, encoding = .scaled digits →
        form.behind.length ≤ digits ∧ Nearest digits d.value form.value ∧
          ((∃ k : ℤ, d.value = k / 10 ^ digits) → form.value = d.value)) ∧
      (∀ d' : Decimal, d'.value = d.value → encoding.encode d' = encoding.encode d) ∧
      ∃ read : Decimal, Decimal.ofText? (encoding.encode d).toList = some read ∧
        encoding.encode read = encoding.encode d := by
  obtain ⟨form, htext, hshortest, hvalue, hlength⟩ := (encoding.written d).exists_form
  refine ⟨form, ⟨?_, hshortest⟩, ?_, ?_, fun d' h => encoding.encode_eq_of_value h,
    (encoding.written d).normalize, ?_, encoding.encode_normalize_written d⟩
  · rw [toList_encode, htext]
  · rintro rfl
    exact hvalue
  · rintro digits rfl
    have hnearest : Nearest digits d.value form.value := hvalue ▸ d.nearest_round digits
    exact ⟨Nat.le_trans hlength (d.round_scale_le digits), hnearest, hnearest.eq_of_multiple⟩
  · rw [toList_encode, Decimal.ofText?_toText]

end DecimalEncoding

/-! ## Keys -/

namespace KeyEncoding

theorem toList_transform (key : String) :
    (snakeCase.transform key).toList = Text.snakeCase key.toList :=
  String.toList_ofList

/-- **Keys keep their letters and are spelled once.** In snake case no two underscores stand next to
each other, and all else is what the key has, with its capitals in lower case. If the lower case of
the capitals has no capitals itself, there are none left, and spelling the key again changes
nothing. -/
theorem snakeCase_settles (key : String) :
    (¬ ['_', '_'] <:+: (snakeCase.transform key).toList) ∧
    (snakeCase.transform key).toList.filter (· ≠ '_') =
      (key.toList.filter (· ≠ '_')).flatMap (fun c => if isUppercase c then lowerChar c else [c]) ∧
    ((∀ c ∈ key.toList, isUppercase c → ∀ d ∈ lowerChar c, ¬ isUppercase d) →
      (∀ c ∈ (snakeCase.transform key).toList, ¬ isUppercase c) ∧
      snakeCase.transform (snakeCase.transform key) = snakeCase.transform key) := by
  have hsingle := Text.single_snakeCase key.toList
  rw [toList_transform]
  refine ⟨hsingle.not_contained, Text.filter_snakeCase key.toList, fun h => ?_⟩
  have hlower := Text.not_isUppercase_snakeCase h
  refine ⟨hlower, ?_⟩
  rw [← String.toList_inj, toList_transform, toList_transform,
    Text.snakeCase_of_single hlower hsingle]

end KeyEncoding

end Stencil
