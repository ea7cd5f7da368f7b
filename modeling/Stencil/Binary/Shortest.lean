import Stencil.Binary.Basic

/-!
# The shortest text of a float

A finite float is written with the fewest digits that read back as the same float, without
exponent. The digits are a multiple of the greatest power of ten that has a multiple among the
numbers which round to the float; of two such multiples the nearer one is taken.
-/

namespace Stencil.Binary

/-! ## The numbers that round to a float -/

/-- A positive float in quarters of its last place, and the ends of the interval of numbers that
round to it. All three are multiples of `2 ^ exponent`. -/
structure Interval where
  low : Nat
  value : Nat
  high : Nat
  exponent : Int
  /-- Whether the ends belong to the interval. -/
  closed : Bool

/-- The interval of a positive float. Below a power of two the floats are twice as dense. -/
def interval (mantissa : Nat) (exponent : Int) : Interval where
  low := 4 * mantissa - (if mantissa = 2 ^ storedBits ∧ minExponent < exponent then 1 else 2)
  value := 4 * mantissa
  high := 4 * mantissa + 2
  exponent := exponent - 2
  closed := mantissa % 2 = 0

/-! ## Grids -/

/-- A power as a fraction. -/
def powerFraction (base : Nat) (exponent : Int) : Nat × Nat :=
  if 0 ≤ exponent then (base ^ exponent.toNat, 1) else (1, base ^ (-exponent).toNat)

/-- The multiple of `10 ^ grid` in the interval that is nearest to the float, if there is one. -/
def Interval.multiple? (i : Interval) (grid : Int) : Option Nat :=
  let (twos, twosBelow) := powerFraction 2 i.exponent
  let (tens, tensBelow) := powerFraction 10 grid
  let unit := tens * twosBelow
  let measure := twos * tensBelow
  let value := i.value * measure
  let below := value / unit
  let inside (k : Nat) : Bool :=
    if i.closed then i.low * measure ≤ k * unit && k * unit ≤ i.high * measure
    else i.low * measure < k * unit && k * unit < i.high * measure
  match inside below, inside (below + 1) with
  | true, true =>
    some (if value - below * unit ≤ (below + 1) * unit - value then below else below + 1)
  | true, false => some below
  | false, true => some (below + 1)
  | false, false => none

/-- The powers of ten that can carry the last digit of a float, greatest first. -/
def grids : List Int :=
  (List.range 660).map fun (k : Nat) => 310 - (k : Int)

/-- The digits of a float and the power of ten of the last one. -/
def shortest? (i : Interval) : Option (Nat × Int) :=
  grids.findSome? fun grid => (i.multiple? grid).map (·, grid)

/-! ## Text -/

/-- The text of `digits * 10 ^ grid`. -/
def positional (digits : Nat) (grid : Int) : List Char :=
  let written := Nat.toDigits 10 digits
  if 0 ≤ grid then written ++ List.replicate grid.toNat '0'
  else
    let places := (-grid).toNat
    let padded := List.replicate (places + 1 - written.length) '0' ++ written
    padded.take (padded.length - places) ++ '.' :: padded.drop (padded.length - places)

/-- The text of a float. -/
def toText : Binary → List Char
  | .notANumber => "NaN".toList
  | .infinite negative => (if negative then ['-'] else []) ++ "inf".toList
  | .finite negative mantissa exponent =>
    (if negative then ['-'] else []) ++
      match shortest? (interval mantissa exponent) with
      | some (digits, grid) => if mantissa = 0 then ['0'] else positional digits grid
      | none => ['0']

end Stencil.Binary
