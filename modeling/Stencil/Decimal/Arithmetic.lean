import Stencil.Decimal.Remainder
import Stencil.Decimal.Basic
import Stencil.Rounding

/-!
# Decimal arithmetic

Sums, differences, products and quotients are computed exactly, as fractions, and then the nearest
decimal is taken: `Decimal.nearest?` rounds at the greatest scale, up to a given one, at which the
coefficient fits, a half to the even neighbour. So a sum or a product that can be represented is
exact, and an operation fails only if its result has too many digits before the point.

A sum keeps the scale of its longer summand, and a product has the scales of both factors together.
A quotient has the smallest scale, unless the coefficients divide without a remainder.

The remainder is what a long division in words leaves of the coefficients
(`Stencil.Decimal.remainder`). It is exact if the divisor, at the common scale, has up to 64 bits.

* `Decimal.nearest?` — rounding of a fraction
* `Decimal.add?`, `sub?`, `mul?`, `div?`, `rem?`
-/

namespace Stencil.Decimal

/-! ## Rounding fractions -/

/-- The coefficient of the fraction `n / d` at a scale. -/
def coefficientAt (n d scale : Nat) : Nat :=
  Rounding.halfEven (n * 10 ^ scale) d

/-- The fraction `± n / d` at the greatest scale, counted down from `scale`, at which its
coefficient fits. -/
def nearestFrom (negative : Bool) (n d : Nat) : Nat → Option Decimal
  | 0 =>
    let c := (coefficientAt n d 0 : Int)
    ofSigned? (if negative then -c else c) 0
  | scale + 1 =>
    let c := (coefficientAt n d (scale + 1) : Int)
    match ofSigned? (if negative then -c else c) (scale + 1) with
    | some result => some result
    | none => nearestFrom negative n d scale

/-- The decimal nearest to the fraction `n / d`, where `d` is not zero, among those of a scale up to
`scale`. -/
def nearest? (n : Int) (d scale : Nat) : Option Decimal :=
  nearestFrom (n < 0) n.natAbs d scale

/-! ## Sums -/

/-- The scale at which two decimals are brought together. -/
def commonScale (a b : Decimal) : Nat :=
  max a.scale b.scale

/-- The sum of two decimals. Zero leaves the other one as it is. -/
def add? (a b : Decimal) : Option Decimal :=
  if a.isZero then some b
  else if b.isZero then some a
  else
    let s := commonScale a b
    nearest? (a.signedAt s + b.signedAt s) (10 ^ s) s

/-- The decimal with the other sign. Zero keeps its sign. -/
def neg (d : Decimal) : Decimal :=
  if d.isZero then d else { d with negative := !d.negative }

/-- The difference of two decimals. -/
def sub? (a b : Decimal) : Option Decimal :=
  add? a b.neg

/-! ## Products and quotients -/

/-- The product of two decimals. -/
def mul? (a b : Decimal) : Option Decimal :=
  nearest? (a.signed * b.signed) (10 ^ (a.scale + b.scale)) (min (a.scale + b.scale) maxScale)

/-- The quotient of two decimals; there is none by zero. -/
def div? (a b : Decimal) : Option Decimal :=
  if b.isZero then none
  else
    let s := commonScale a b
    let n := a.signedAt s * (b.signedAt s).sign
    let d := (b.signedAt s).natAbs
    if a.coefficient % b.coefficient = 0 then nearest? n d (a.scale - b.scale)
    else (nearest? n d maxScale).map normalize

/-- What a division of a decimal by another leaves of the first, with its sign. A decimal that is
smaller than its divisor is left as it is. There is no remainder by zero. -/
def rem? (a b : Decimal) : Option Decimal :=
  if b.isZero then none
  else
    let s := commonScale a b
    let n := (a.signedAt s).natAbs
    let d := (b.signedAt s).natAbs
    if n < d then some a
    else
      let c := (remainder n d : Int)
      ofSigned? (if a.negative then -c else c) s

end Stencil.Decimal
