import Stencil.Decimal.Arithmetic
import Stencil.Filter.Basic

/-!
# Arithmetic filters

Two integers give an integer where the result fits. All other values count as decimals, and so do
integers whose result does not fit.
-/

namespace Stencil.Filter

/-! ## Two numbers -/

/-- An operation of arithmetic. -/
structure Arithmetic where
  name : String
  /-- The result of integers, if it fits. -/
  integers : Int → Int → Option Int64
  decimals : Decimal → Decimal → Option Decimal
  /-- Whether the second number must not be zero. -/
  divides : Bool

/-- The result of an operation on two values. -/
def Arithmetic.run (op : Arithmetic) (a b : Value) : Answer :=
  let onIntegers := match a, b with
    | .int a, .int b => op.integers a.toInt b.toInt
    | _, _ => none
  match onIntegers with
  | some n => .ok (.int n)
  | none =>
    if op.divides && b.toDecimal.isZero then .error (.divisionByZero op.name)
    else
      match op.decimals a.toDecimal b.toDecimal with
      | some d => .ok (.decimal d)
      | none => .error (.overflow op.name)

/-- The filter of an operation. -/
def Arithmetic.operation (op : Arithmetic) : Operation :=
  .one fun _ a b => op.run a b

/-- Addition. -/
def plus : Arithmetic where
  name := "plus"
  integers a b := Integer.ofInt? (a + b)
  decimals := Decimal.add?
  divides := false

/-- Subtraction. -/
def minus : Arithmetic where
  name := "minus"
  integers a b := Integer.ofInt? (a - b)
  decimals := Decimal.sub?
  divides := false

/-- Multiplication. -/
def times : Arithmetic where
  name := "times"
  integers a b := Integer.ofInt? (a * b)
  decimals := Decimal.mul?
  divides := false

/-- Division; of integers, toward zero. -/
def dividedBy : Arithmetic where
  name := "divided_by"
  integers a b := if b = 0 then none else Integer.ofInt? (a.tdiv b)
  decimals := Decimal.div?
  divides := true

/-- Remainder, with the sign of the first number. Integers have one where they have a quotient. -/
def modulo : Arithmetic where
  name := "modulo"
  integers a b :=
    if b = 0 then none
    else (Integer.ofInt? (a.tdiv b)).bind fun _ => Integer.ofInt? (a.tmod b)
  decimals := Decimal.rem?
  divides := true

/-! ## One number -/

/-- The absolute value. -/
def abs : Operation :=
  .none fun _ v => .ok <| match v with
    | .int n =>
      match Integer.ofInt? n.toInt.natAbs with
      | some m => .int m
      | none => .decimal (Decimal.ofInt64 n).abs
    | v => .decimal v.toDecimal.abs

/-- The smallest integer that is not smaller. -/
def ceil : Operation :=
  .none fun _ v => .ok <| match v with
    | .int n => .int n
    | v => .ofIntegral v.toDecimal.ceil

/-- The greatest integer that is not greater. -/
def floor : Operation :=
  .none fun _ v => .ok <| match v with
    | .int n => .int n
    | v => .ofIntegral v.toDecimal.floor

/-- Rounds to a number of digits behind the point, a half away from zero. -/
def round : Operation :=
  .optional fun _ v digits => .ok <| match v with
    | .int n => .int n
    | v => .decimal (v.toDecimal.round (min (digits.elim 0 Value.toCount) Decimal.maxScale))

end Stencil.Filter
