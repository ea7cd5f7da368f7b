/-!
# Tables of code points

The shapes in which the properties of characters are kept: closed ranges, runs that take every
or every other code point, and runs that are moved by a fixed distance. All tables are sorted,
so a search stops at the first entry that starts beyond the code point.
-/

namespace Stencil.Text

/-- A sorted table of closed ranges. -/
abbrev Ranges := List (Nat × Nat)

/-- Whether a range of the table holds the code point. -/
def Ranges.contains : Ranges → Nat → Bool
  | [], _ => false
  | (first, last) :: rest, n =>
    if n < first then false else n ≤ last || Ranges.contains rest n

/-- The code points from `first` to `last`, `step` apart. -/
structure Run where
  first : Nat
  last : Nat
  step : Nat

/-- Whether a code point is one of the run. -/
def Run.contains (r : Run) (n : Nat) : Bool :=
  r.first ≤ n && n ≤ r.last && (n - r.first) % r.step == 0

/-- A table of runs, sorted by their first code points. -/
abbrev Runs := List Run

/-- Whether a run of the table holds the code point. -/
def Runs.contains : Runs → Nat → Bool
  | [], _ => false
  | r :: rest, n => if n < r.first then false else r.contains n || Runs.contains rest n

/-- A run whose code points all move by the same distance. -/
structure Shift where
  run : Run
  distance : Int

/-- A table of shifts, sorted by their first code points. -/
abbrev Shifts := List Shift

/-- The code point that the table moves `n` to, which is `n` itself if no run holds it. -/
def Shifts.apply : Shifts → Nat → Nat
  | [], n => n
  | s :: rest, n =>
    if n < s.run.first then n
    else if s.run.contains n then ((n : Int) + s.distance).toNat
    else Shifts.apply rest n

end Stencil.Text
