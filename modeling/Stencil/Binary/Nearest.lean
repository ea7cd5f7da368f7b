import Stencil.Binary.Basic
import Stencil.Rounding
import Stencil.Text.Digits

/-!
# Reading floats

A float is read from decimal digits by rounding the fraction they denote to the nearest number of a
format, a half to the even mantissa. Narrow floats are rounded in their own format first.
-/

namespace Stencil.Binary

/-- The numbers of a binary format. -/
structure Format where
  /-- The number of bits of a mantissa. -/
  precision : Nat
  leastExponent : Int
  greatestExponent : Int

/-- The format of 64 bits. -/
def wide : Format := ⟨53, minExponent, 971⟩

/-- The format of 32 bits. -/
def narrow : Format := ⟨24, -149, 104⟩

/-- The number of a format that is nearest to the fraction `n / d`, where `d` is not zero. -/
def nearest (f : Format) (negative : Bool) (n d : Nat) : Binary :=
  if n = 0 then .finite negative 0 minExponent
  else
    let guess : Int := (n.log2 : Int) - d.log2 - f.precision
    let e := max guess f.leastExponent
    let mantissaAt (e : Int) : Nat := Rounding.halfEven (n * 2 ^ (-e).toNat) (d * 2 ^ e.toNat)
    let e := if 2 ^ f.precision ≤ mantissaAt e then e + 1 else e
    let m := mantissaAt e
    let (m, e) := if 2 ^ f.precision ≤ m then (m / 2, e + 1) else (m, e)
    if f.greatestExponent < e then .infinite negative else .finite negative m e

/-- A float in the format of 64 bits. -/
def widen : Binary → Binary
  | .finite negative m e => nearest wide negative (m * 2 ^ e.toNat) (2 ^ (-e).toNat)
  | b => b

/-! ## Text -/

/-- The digits at the beginning of a text and the rest. -/
def spanDigits (cs : List Char) : List Char × List Char :=
  cs.span Char.isDigit

/-- The exponent that stands at the end of a number. -/
def exponent? : List Char → Option Int
  | [] => some 0
  | e :: rest =>
    if e = 'e' || e = 'E' then
      match rest with
      | '-' :: digits => (Text.digitsValue? 10 digits).map fun n => -(n : Int)
      | digits => (Text.natural? 10 digits).map fun n => (n : Int)
    else none

/-- An exponent, held where a number with so many digits is out of every format. -/
def clampExponent (digits : Nat) (e : Int) : Int :=
  max (-(digits + 400 : Int)) (min e 400)

/-- The float that a number without sign denotes. -/
def unsigned? (f : Format) (negative : Bool) (cs : List Char) : Option Binary :=
  let lower := cs.map Char.toLower
  if lower = "nan".toList then some .notANumber
  else if lower = "inf".toList || lower = "infinity".toList then some (.infinite negative)
  else
    let (whole, rest) := spanDigits cs
    let (fraction, rest) := match rest with
      | '.' :: rest => spanDigits rest
      | rest => ([], rest)
    (Text.digitsValue? 10 (whole ++ fraction)).bind fun n =>
      (exponent? rest).map fun e =>
        let e := clampExponent (whole ++ fraction).length (e - fraction.length)
        widen (nearest f negative (n * 10 ^ e.toNat) (10 ^ (-e).toNat))

/-- The float that a text denotes in a format. -/
def ofText? (f : Format) (cs : List Char) : Option Binary :=
  match cs with
  | '-' :: rest => unsigned? f true rest
  | '+' :: rest => unsigned? f false rest
  | rest => unsigned? f false rest

end Stencil.Binary
