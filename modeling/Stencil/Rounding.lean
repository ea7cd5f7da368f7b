import Stencil.Power

/-!
# Rounded quotients

A quotient of natural numbers, rounded to the nearest one. The two functions differ in where a half
goes.
-/

namespace Stencil.Rounding

/-- The quotient `n / d`, rounded; a half goes to the even neighbour. -/
def halfEven (n d : Nat) : Nat :=
  if 2 * (n % d) < d ∨ 2 * (n % d) = d ∧ n / d % 2 = 0 then n / d else n / d + 1

/-- The quotient `n / d`, rounded; a half goes up. -/
def halfUp (n d : Nat) : Nat :=
  (2 * n + d) / (2 * d)

end Stencil.Rounding
