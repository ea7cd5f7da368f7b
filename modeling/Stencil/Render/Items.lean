import Stencil.Markup.View
import Stencil.Template.Node

/-!
# What loops run over

The items of a loop are given one after another, so that a range of any length can be left early.

* `Items.toList` — all items
* `Items.range`, `Items.listed` — windows over ranges and arrays: passing over items, a greatest
  number, and from the end if reversed
-/

namespace Stencil.Render

open Stencil.Markup Stencil.Template

/-- The items that a loop has still to visit. -/
inductive Items where
  | list (values : List Value)
  /-- So many integers, each `step` apart from the one before. -/
  | progression (first step : Int) (count : Nat)

namespace Items

/-- The number of items. -/
def count : Items → Nat
  | .list values => values.length
  | .progression _ _ count => count

/-- The first item, and the items behind it. -/
def next? : Items → Option (Value × Items)
  | .list [] => none
  | .list (v :: rest) => some (v, .list rest)
  | .progression _ _ 0 => none
  | .progression first step (count + 1) =>
    some (.int (Int64.ofInt first), .progression (first + step) step count)

/-- All items. -/
def toList : Items → List Value
  | .list values => values
  | .progression first step count =>
    (List.range count).map fun (k : Nat) => .int (Int64.ofInt (first + step * k))

/-- At most so many items; all of them if no limit is given. -/
def limited (limit : Option Nat) (count : Nat) : Nat :=
  limit.elim count (min count)

/-- A window over an array. -/
def listed (values : List Value) (offset : Nat) (limit : Option Nat) (reversed : Bool) : Items :=
  let ordered := if reversed then values.reverse else values
  let rest := ordered.drop offset
  .list (rest.take (limited limit rest.length))

/-- A window over the integers from the first to the last. -/
def range (first last : Int) (offset : Nat) (limit : Option Nat) (reversed : Bool) : Items :=
  let total := (last - first + 1).toNat
  let count := limited limit (total - offset)
  if reversed then .progression (last - offset) (-1) count
  else .progression (first + offset) 1 count

end Items

/-- What a loop visits. Only arrays and ranges have items. -/
def itemsOf (header : LoopHeader) (view : View) : Items :=
  let offset := (header.offset.map fun e => (e.value view).toCount).getD 0
  let limit := header.limit.map fun e => (e.value view).toCount
  match header.source with
  | .range first last =>
    .range (first.value view).toInt.toInt (last.value view).toInt.toInt offset limit
      header.reversed
  | .collection e => .listed ((e.value view).array?.getD []) offset limit header.reversed

end Stencil.Render
