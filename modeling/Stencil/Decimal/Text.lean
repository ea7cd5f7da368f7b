import Stencil.Decimal.Rounding
import Stencil.Text.Digits

/-!
# Decimals as text

A decimal is written without exponent. `Decimal.inspect` keeps the scale, `Decimal.toText` writes
the value in its shortest form, without zeros at the end and without a sign of zero.

Reading (`Decimal.ofText?`) takes a sign, digits with at most one point, and single or repeated
underscores anywhere behind the first digit. Digits beyond the greatest scale, or digits behind the
point beyond the coefficient, are rounded away: the first of them decides. At the greatest scale an
underscore behind a short coefficient counts as such a digit, a zero.
An exponent may follow, a power of ten between -28 and 28. A positive one must leave the number
exact; a negative one rounds it.
-/

namespace Stencil.Decimal

/-! ## Writing -/

/-- The digits of a coefficient, at least one of them before the point. -/
def paddedDigits (coefficient scale : Nat) : List Char :=
  let digits := Nat.toDigits 10 coefficient
  List.replicate (scale + 1 - digits.length) '0' ++ digits

/-- The text of a number `± coefficient / 10 ^ scale`. -/
def write (negative : Bool) (coefficient scale : Nat) : List Char :=
  let digits := paddedDigits coefficient scale
  let whole := digits.take (digits.length - scale)
  let behind := digits.drop (digits.length - scale)
  (if negative then ['-'] else []) ++ whole ++ (if scale = 0 then [] else '.' :: behind)

/-- The text of a decimal with all digits of its scale. -/
def inspect (d : Decimal) : List Char :=
  write d.negative d.coefficient d.scale

/-- The text of the value of a decimal. -/
def toText (d : Decimal) : List Char :=
  d.normalize.inspect

/-! ## Reading digits -/

/-- What has been read of a number. -/
structure Digits where
  coefficient : Nat := 0
  scale : Nat := 0
  /-- Whether the point has been read. -/
  point : Bool := false
  /-- Whether a digit has been read. -/
  any : Bool := false

/-- The decimal with the sign, coefficient and scale that were read. -/
def Digits.toDecimal? (r : Digits) (negative : Bool) : Option Decimal :=
  ofSigned? (if negative then -(r.coefficient : Int) else r.coefficient) r.scale

/-- Rounds at a digit that no longer fits. A coefficient that grows out of bounds gives up one more
digit, if it has one behind the point. -/
def Digits.roundAt (r : Digits) (digit : Nat) : Option Digits :=
  if digit < 5 then some r
  else if r.coefficient + 1 < bound then some { r with coefficient := r.coefficient + 1 }
  else if r.scale = 0 then none
  else some { r with coefficient := (r.coefficient + 1 + 4) / 10, scale := r.scale - 1 }

/-- Whether a character can stand behind the digit that rounds a number. -/
def isIgnored (c : Char) : Bool :=
  (Text.digitValue? 10 c).isSome || c == '_'

/-- Rounds at a digit that no longer fits. Behind it there can be more digits. -/
def Digits.close? (r : Digits) (digit : Nat) (rest : List Char) : Option Digits :=
  if rest.all isIgnored then r.roundAt digit else none

/-- A coefficient below this is short: it has room for one more digit in 64 bits. -/
def shortBound : Nat := (2 ^ 64 - 1) / 10 - 255

/-- Whether the coefficient was short when its last digit was read. -/
def Digits.isShort (r : Digits) : Bool :=
  r.coefficient / 10 < shortBound

/-- Reads on at the greatest scale. -/
def Digits.atMaxScale? (r : Digits) (c : Char) (rest : List Char) : Option Digits :=
  match Text.digitValue? 10 c with
  | some d => r.close? d rest
  | none =>
    if c ≠ '_' then none
    else if r.isShort then r.close? 0 rest
    else
      match rest.dropWhile (· == '_') with
      | [] => some r
      | c :: rest => (Text.digitValue? 10 c).bind (r.close? · rest)

/-- The digits from which a number is read on. -/
def readDigits (r : Digits) : List Char → Option Digits
  | [] => if r.any then some r else none
  | c :: rest =>
    if r.point && r.scale == maxScale then r.atMaxScale? c rest
    else
      match Text.digitValue? 10 c with
      | some d =>
        let grown := r.coefficient * 10 + d
        if grown < bound then
          readDigits
            { coefficient := grown, scale := if r.point then r.scale + 1 else 0,
              point := r.point, any := true } rest
        else if r.point then r.close? d rest
        else none
      | none =>
        if c = '.' && !r.point then readDigits { r with point := true } rest
        else if c = '_' && r.any then readDigits r rest
        else none

/-- Reads a number without exponent. -/
def plain? (cs : List Char) : Option Decimal :=
  match cs with
  | '-' :: rest => (readDigits {} rest).bind (·.toDecimal? true)
  | '+' :: rest => (readDigits {} rest).bind (·.toDecimal? false)
  | _ => (readDigits {} cs).bind (·.toDecimal? false)

/-! ## Reading exponents -/

/-- A decimal times a power of ten. -/
def scaleUp? (d : Decimal) (exponent : Nat) : Option Decimal :=
  if maxScale < exponent then none
  else if exponent ≤ d.scale then ofSigned? d.signed (d.scale - exponent)
  else ofSigned? (d.signed * 10 ^ (exponent - d.scale)) 0

/-- A decimal divided by a power of ten, rounded to the greatest scale, a half away from zero. It
keeps its sign, even as zero. -/
def scaleDown? (d : Decimal) (exponent : Nat) : Option Decimal :=
  if h : exponent ≤ maxScale then
    some
      { d.round (maxScale - exponent) with
        negative := d.negative
        scale := (d.round (maxScale - exponent)).scale + exponent
        scale_le := by have := d.round_scale_le (maxScale - exponent); omega }
  else none

/-- Reads a number with an exponent behind `e` or `E`. -/
def scientific? (cs : List Char) : Option Decimal :=
  let isMark : Char → Bool := fun c => c == 'e' || c == 'E'
  match cs.dropWhile (!isMark ·) with
  | [] => none
  | _ :: exponent => do
    let base ← plain? (cs.takeWhile (!isMark ·))
    match exponent with
    | '-' :: digits => scaleDown? base (← Text.natural? 10 digits)
    | _ => scaleUp? base (← Text.natural? 10 exponent)

/-- The decimal that a text denotes. -/
def ofText? (cs : List Char) : Option Decimal :=
  plain? cs <|> scientific? cs

end Stencil.Decimal
