import Stencil.Power
import Stencil.Text.Digits

/-!
# Integers of 64 bits

The integers of templates. Results that do not fit are noticed (`Integer.ofInt?`) or held at the
nearest bound (`Integer.clamp`), never wrapped.

* `Integer.ofInt?_eq_some_iff` — which integers fit
* `Integer.ofText?` reads, `Integer.toText` writes
-/

namespace Stencil.Integer

/-! ## Bounds -/

/-- The smallest integer. -/
def least : Int := -2 ^ 63

/-- The greatest integer. -/
def greatest : Int := 2 ^ 63 - 1

/-- The 64-bit integer with a value, if there is one. -/
def ofInt? (n : Int) : Option Int64 :=
  if least ≤ n ∧ n ≤ greatest then some (Int64.ofInt n) else none

/-- The 64-bit integer nearest to a value. -/
def clamp (n : Int) : Int64 :=
  if n < least then Int64.ofInt least
  else if greatest < n then Int64.ofInt greatest
  else Int64.ofInt n

theorem toInt_ofInt {n : Int} (h : least ≤ n ∧ n ≤ greatest) : (Int64.ofInt n).toInt = n := by
  unfold least greatest at h
  exact Int64.toInt_ofInt_of_le (by omega) (by omega)

theorem bounds (n : Int64) : least ≤ n.toInt ∧ n.toInt ≤ greatest := by
  have h₁ := Int64.le_toInt n
  have h₂ := Int64.toInt_lt n
  unfold least greatest
  omega

/-- An integer fits exactly if some 64-bit integer has its value, and then it is that one. -/
theorem ofInt?_eq_some_iff {n : Int} {m : Int64} : ofInt? n = some m ↔ m.toInt = n := by
  unfold ofInt?
  constructor
  · intro h
    split at h
    · rename_i hb
      simp only [Option.some.injEq] at h
      rw [← h, toInt_ofInt hb]
    · simp at h
  · intro h
    rw [← h, if_pos (bounds m), Int64.ofInt_toInt]

/-! ## Text -/

/-- The text of an integer. -/
def toText (n : Int64) : List Char :=
  (if n.toInt < 0 then ['-'] else []) ++ Nat.toDigits 10 n.toInt.natAbs

/-- The 64-bit integer that a text denotes: digits, which may follow a sign. -/
def ofText? : List Char → Option Int64
  | '-' :: digits => (Text.digitsValue? 10 digits).bind fun n => ofInt? (-(n : Int))
  | digits => (Text.natural? 10 digits).bind fun n => ofInt? n

end Stencil.Integer
