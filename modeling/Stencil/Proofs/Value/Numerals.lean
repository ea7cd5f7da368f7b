import Stencil.Proofs.Text.Parts
import Stencil.Proofs.Value.Equality

/-!
# Numbers as texts

What is written for a number counts as the same number, also with white space around it. A text
counts as the integer that is left of its decimal, so there is one way to read it.

* `textToInt?_eq` — the integer of a text is that of its decimal
* `IsTextOf` — the texts of a value
* `IsTextOf.toInt_eq`, `IsTextOf.toDecimal_eq` — what the text of a number counts as
-/

namespace Stencil

namespace Decimal

theorem truncate?_ofInt64 (n : Int64) : (ofInt64 n).truncate? = some n := by
  have hscale : (ofInt64 n).scale = 0 := rfl
  rw [truncate?, truncated, hscale, signed_ofInt64, Int.pow_zero, Int.tdiv_one]
  exact Integer.ofInt?_eq_some_iff.mpr rfl

theorem normalize_ofInt64 (n : Int64) : (ofInt64 n).normalize = ofInt64 n := by
  refine eq_of_parts ?_ rfl rfl
  show (decide (n.toInt < 0) && n.toInt.natAbs != 0) = decide (n.toInt < 0)
  rw [Bool.eq_iff_iff, Bool.and_eq_true, decide_eq_true_eq, bne_iff_ne]
  omega

theorem truncate?_normalize (d : Decimal) : d.normalize.truncate? = d.truncate? := by
  rw [truncate?, truncated_normalize, truncate?]

end Decimal

namespace Value

/-- The integer that a text denotes is what is left of its decimal, be it written as an integer or
not. -/
theorem textToInt?_eq (s : String) :
    textToInt? s = (Decimal.ofText? (Text.trim s.toList)).bind Decimal.truncate? := by
  simp only [textToInt?, Option.orElse_eq_orElse, Option.orElse_eq_or]
  cases hinteger : Integer.ofText? (Text.trim s.toList) with
  | none => rw [Option.none_or]
  | some n =>
    rw [Decimal.ofText?_of_integer hinteger, Option.bind_some, Decimal.truncate?_ofInt64,
      Option.some_or]

/-- A text counts as the integer that is left of its decimal. -/
theorem toInt_string (s : String) : (string s).toInt = (string s).toDecimal.truncate?.getD 0 := by
  rw [toInt, toDecimal, textToInt?_eq]
  cases Decimal.ofText? (Text.trim s.toList) with
  | none => rfl
  | some d => rw [Option.bind_some, Option.getD_some]

/-! ## Texts of numbers -/

/-- A value is an integer or a decimal. -/
inductive IsNumber : Value → Prop where
  | int (n : Int64) : IsNumber (.int n)
  | decimal (d : Decimal) : IsNumber (.decimal d)

/-- A value is a text that is written for another value, with any white space around it. -/
inductive IsTextOf (v : Value) : Value → Prop where
  | text {s : String} {left right : List Char} (heq : s.toList = left ++ v.text.toList ++ right)
    (hleft : ∀ c ∈ left, Text.isBlank c) (hright : ∀ c ∈ right, Text.isBlank c) :
    IsTextOf v (.string s)

namespace IsNumber

variable {v : Value}

/-- There is no white space in what is written for a number. -/
theorem isBlank_of_mem_text (h : v.IsNumber) {c : Char} (hc : c ∈ v.text.toList) :
    Text.isBlank c = false := by
  cases h with
  | int n =>
    rw [text, String.toList_ofList] at hc
    exact Integer.isBlank_of_mem_toText hc
  | decimal d =>
    rw [text, String.toList_ofList] at hc
    exact Decimal.isBlank_of_mem_toText hc

/-- The text of a number denotes its decimal, without zeros at the end. -/
theorem ofText?_text (h : v.IsNumber) :
    Decimal.ofText? v.text.toList = some v.toDecimal.normalize := by
  cases h with
  | int n =>
    rw [text, String.toList_ofList, toDecimal, Decimal.normalize_ofInt64]
    exact Decimal.ofText?_of_integer (Integer.ofText?_toText n)
  | decimal d =>
    rw [text, String.toList_ofList]
    exact Decimal.ofText?_toText d

/-- A number counts as the integer that is left of its decimal. -/
theorem toInt_eq (h : v.IsNumber) : v.toInt = v.toDecimal.truncate?.getD 0 := by
  cases h with
  | int n =>
    rw [toDecimal, Decimal.truncate?_ofInt64]
    rfl
  | decimal d => rfl

end IsNumber

namespace IsTextOf

variable {v w : Value}

/-- The text of a number has the same decimal, without zeros at the end. -/
theorem toDecimal_eq (hv : v.IsNumber) (h : v.IsTextOf w) :
    w.toDecimal = v.toDecimal.normalize := by
  obtain ⟨heq, hleft, hright⟩ := h
  have htrimmed := Text.trimmed_of_forall (fun c => hv.isBlank_of_mem_text) hleft hright
  rw [toDecimal, heq, htrimmed.trim_eq, hv.ofText?_text, Option.getD_some]

/-- The text of a number has the same integer. -/
theorem toInt_eq (hv : v.IsNumber) (h : v.IsTextOf w) : w.toInt = v.toInt := by
  have hdecimal := h.toDecimal_eq hv
  obtain ⟨-, -, -⟩ := h
  rw [toInt_string, hdecimal, Decimal.truncate?_normalize, hv.toInt_eq]

theorem toCount_eq (hv : v.IsNumber) (h : v.IsTextOf w) : w.toCount = v.toCount := by
  rw [toCount, h.toInt_eq hv, toCount]

end IsTextOf

end Value

end Stencil
