import Stencil.Power

/-!
# Binary floating point numbers

The numbers of the 64-bit format: a finite one is `± mantissa * 2 ^ exponent`, where the mantissa
has 53 bits unless the exponent is the smallest.
-/

namespace Stencil

/-- A binary floating point number. -/
inductive Binary where
  | notANumber
  | infinite (negative : Bool)
  | finite (negative : Bool) (mantissa : Nat) (exponent : Int)
  deriving DecidableEq, Inhabited

namespace Binary

/-- The bits of a mantissa that are written down. -/
def storedBits : Nat := 52

/-- The exponent of the numbers closest to zero. -/
def minExponent : Int := -1074

/-- The number that 64 bits encode: a sign, 11 bits of exponent and 52 bits of mantissa. -/
def ofBits (bits : UInt64) : Binary :=
  let n := bits.toNat
  let negative := 2 ^ 63 ≤ n
  let biased : Nat := n / 2 ^ storedBits % 2 ^ 11
  let stored : Nat := n % 2 ^ storedBits
  if biased = 2 ^ 11 - 1 then
    if stored = 0 then .infinite negative else .notANumber
  else if biased = 0 then .finite negative stored minExponent
  else .finite negative (2 ^ storedBits + stored) (biased + minExponent - 1)

end Binary

end Stencil
