import Stencil.Power

/-!
# Remainders by long division

What a division in words of 32 bits leaves, for a divisor of up to 96 bits. The words of the
dividend are brought down one after another. Each word of the quotient is estimated from the
leading words, and the estimate is a word as well: of a greater one only the lowest 32 bits count.
Then too little is taken away, and the words that follow do not make up for it.

So the result has no more bits than a divisor may have, but it is smaller than the divisor only if
no estimate was cut off. Where the divisor has up to 64 bits, nothing is estimated, and the result
is the remainder.

* `Remainder.step` — one word of the quotient
* `Remainder.ofWords` — all words of a dividend
* `remainder` — what is left of a dividend
-/

namespace Stencil.Decimal.Remainder

/-- The number of values of a word. -/
def word : Nat := 2 ^ 32

/-- The number of words of the longest dividend. -/
def words : Nat := 7

/-- The word of the quotient that the leading words of a dividend and a divisor suggest. -/
def estimate (divisor dividend : Nat) : Nat :=
  dividend / word ^ 2 / (divisor / word ^ 2) % word

/-- What is left of the leading words of a dividend, in one word. -/
def lead (divisor dividend : Nat) : Nat :=
  (dividend / word ^ 2 - estimate divisor dividend * (divisor / word ^ 2)) % word

/-- What is left when the estimated multiple of a divisor is taken away. It is negative if that was
too much. -/
def rest (divisor dividend : Nat) : Int :=
  (lead divisor dividend * word ^ 2 + dividend % word ^ 2 : Nat) -
    (estimate divisor dividend * (divisor % word ^ 2) : Nat)

/-- Takes a multiple of a divisor off a dividend. A multiple that was too great gives back the
divisor until nothing is missing. -/
def step (divisor dividend : Nat) : Nat :=
  if 0 ≤ rest divisor dividend then (rest divisor dividend).toNat
  else (rest divisor dividend % divisor).toNat

/-- What is left of the lowest `count` words of a dividend. -/
def ofWords (divisor : Nat) : (count dividend : Nat) → Nat
  | 0, _ => 0
  | count + 1, dividend =>
    step divisor (ofWords divisor count (dividend / word) * word + dividend % word)

end Stencil.Decimal.Remainder

namespace Stencil.Decimal

open Remainder

/-- What is left of a dividend by a divisor of up to 96 bits that is not zero. A divisor of more
than two words is moved up until its leading bit is set, and the dividend with it. -/
def remainder (dividend divisor : Nat) : Nat :=
  if divisor < word ^ 2 then dividend % divisor
  else
    let unit := 2 ^ (95 - divisor.log2)
    ofWords (divisor * unit) words (dividend * unit) / unit

end Stencil.Decimal
