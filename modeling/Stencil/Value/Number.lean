import Stencil.Decimal.Text
import Stencil.Integer
import Stencil.Text.Blank
import Stencil.Value.Basic

/-!
# Values as numbers

Every value counts as a number: texts as the number they denote, with white space around it, and
whatever denotes none as zero.
-/

namespace Stencil.Value

/-- The integer that a text denotes. A decimal is cut off at the point. -/
def textToInt? (text : String) : Option Int64 :=
  let cs := Text.trim text.toList
  Integer.ofText? cs <|> (Decimal.ofText? cs).bind Decimal.truncate?

/-- A value as an integer. -/
def toInt : Value → Int64
  | .int n => n
  | .decimal d => d.truncate?.getD 0
  | .string text => (textToInt? text).getD 0
  | _ => 0

/-- A value as a decimal. -/
def toDecimal : Value → Decimal
  | .int n => .ofInt64 n
  | .decimal d => d
  | .string text => (Decimal.ofText? (Text.trim text.toList)).getD .zero
  | _ => .zero

/-- A value as a count; a negative number counts as zero. -/
def toCount (v : Value) : Nat :=
  v.toInt.toInt.toNat

/-- A decimal without digits behind the point as an integer, or as a decimal if it is too large. -/
def ofIntegral (d : Decimal) : Value :=
  match d.truncate? with
  | some n => .int n
  | none => .decimal d

/-- A number of items as an integer. -/
def ofCount (n : Nat) : Value :=
  .int (Int64.ofInt n)

end Stencil.Value
