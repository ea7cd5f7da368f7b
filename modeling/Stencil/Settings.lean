import Stencil.Calendar.Instant
import Stencil.Decimal.Text
import Stencil.Text.SnakeCase

/-!
# Settings

What a render can be told beside its data: how decimals are written, how the keys of drops are
spelled, how deep includes may nest, and what time it is.
-/

namespace Stencil

/-- How decimals are written. -/
inductive DecimalEncoding where
  /-- With all their digits. -/
  | full
  /-- Rounded to a number of digits behind the point, a half away from zero. -/
  | scaled (digits : Nat)
  deriving DecidableEq, Repr

/-- The text of a decimal. -/
def DecimalEncoding.encode : DecimalEncoding → Decimal → String
  | .full, d => String.ofList d.toText
  | .scaled digits, d => String.ofList (d.round digits).toText

/-- How keys are spelled before a drop is asked for them. -/
inductive KeyEncoding where
  | identity
  | snakeCase
  deriving DecidableEq, Repr

/-- The spelling of a key. -/
def KeyEncoding.transform : KeyEncoding → String → String
  | .identity, key => key
  | .snakeCase, key => String.ofList (Text.snakeCase key.toList)

/-- The settings of a render. -/
structure Settings where
  decimals : DecimalEncoding := .scaled 8
  keys : KeyEncoding := .identity
  /-- The greatest number of includes that may be active at a time. -/
  maxIncludeDepth : Nat := 100
  /-- The moment that the words `now` and `today` stand for. -/
  now : Calendar.Instant := Calendar.Instant.epoch

end Stencil
