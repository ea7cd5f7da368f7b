import Stencil.Binary.Basic
import Stencil.Decimal.Basic

/-!
# Decimals from floats

A float is an integer or an integer halved a number of times. An integer becomes a decimal as it
is. The halves are taken one by one, with a coefficient that never leaves 96 bits, and then the
digits behind the point are cut down to those that a float can vouch for: a coefficient of 52 bits.
Each digit that is dropped rounds the next one, a five upwards.

Every step has a coefficient and a scale; the value is `coefficient / 10 ^ scale`, halved as often
as the step has still to do.
-/

namespace Stencil.Decimal

/-! ## Halves -/

/-- Halves a coefficient with a scale `count` times. Where the half is exact, or the only way to
stay in bounds, it is taken; otherwise a digit behind the point is added. -/
def halve : (count : Nat) → (coefficient scale : Nat) → Nat × Nat
  | 0, c, scale => (c, scale)
  | count + 1, c, scale =>
    if c % 2 = 0 ∨ bound ≤ c * 5 then halve count (c / 2) scale
    else halve count (c * 5) (scale + 1)

/-! ## Digits behind the point -/

/-- Drops the last digit; a five or more rounds the next one up. -/
def dropDigit (c : Nat) : Nat :=
  c / 10 + (if 5 ≤ c % 10 then 1 else 0)

/-- Drops `count` digits. What has no digits left is zero. -/
def dropDigits : (count : Nat) → (coefficient scale : Nat) → Nat × Nat
  | 0, c, scale => (c, scale)
  | count + 1, c, scale =>
    if c / 10 = 0 then (0, 0) else dropDigits count (dropDigit c) (scale - 1)

/-- Drops digits behind the point until the coefficient has no more than 52 bits. -/
def vouchedFor : (coefficient scale : Nat) → Nat × Nat
  | c, 0 => (c, 0)
  | c, scale + 1 =>
    if 2 ^ Binary.storedBits ≤ c then vouchedFor (dropDigit c) scale else (c, scale + 1)

/-- The coefficient and the scale of an integer halved `count` times. -/
def ofHalves (mantissa count : Nat) : Nat × Nat :=
  let (c, scale) := halve count mantissa 0
  let (c, scale) := dropDigits (scale - maxScale) c scale
  let (c, scale) := vouchedFor c scale
  dropZeros c scale

/-- The decimal nearest to a float: an integer exactly, another number with about fifteen digits.
There is none for what is not a finite number and for numbers that are too large. -/
def ofBinary? : Binary → Option Decimal
  | .notANumber => none
  | .infinite _ => none
  | .finite negative mantissa exponent =>
    let (coefficient, scale) :=
      if exponent < 0 then ofHalves mantissa exponent.natAbs
      else (mantissa * 2 ^ exponent.toNat, 0)
    if h : coefficient < bound ∧ scale ≤ maxScale then
      some ⟨negative, coefficient, scale, h.1, h.2⟩
    else none

end Stencil.Decimal
