import Stencil.Filter.Basic
import Stencil.Text.CaseMapping

/-!
# Filters on collections

These filters work on the items of their value; a value that is no array is its own only item.

* `order` — the order of `sort`, in which any two values compare
-/

namespace Stencil.Filter

/-! ## Items -/

/-- The texts of the items with a separator between them; a space if none is given. -/
def join : Operation :=
  .optional fun site v separator =>
    .ok (.string (String.ofList
      ((separator.elim [' '] site.text).intercalate (v.toArray.map site.text))))

/-- Adds an item unless an equal one is there. -/
def addNew (items : List Value) (v : Value) : List Value :=
  if items.any (·.same v) then items else items ++ [v]

/-- Items without those that are equal to an earlier one. -/
def distinct (items : List Value) : List Value :=
  items.foldl addNew []

/-- The number of characters, items or entries. -/
def size : Operation :=
  .none fun _ v => .ok (.ofCount v.size)

/-- The values that a key leads to in the items. -/
def map : Operation :=
  .one fun site v key => .ok (.array (v.toArray.map (site.lookup · key)))

/-- The items with those of an array behind them. -/
def concat : Operation :=
  .one fun _ v tail =>
    match tail with
    | .array more => .ok (.array (v.toArray ++ more))
    | _ => .error (.notAnArray "concat")

/-- The value, or the argument in place of nil and of what is empty. -/
def orDefault : Operation :=
  .one fun _ v replacement => .ok <|
    let empty := match v with
      | .nil => true
      | .string _ | .array _ | .dictionary _ => v.size == 0
      | _ => false
    if empty then replacement else v

/-! ## Sorting -/

/-- The place of a kind among the kinds. -/
def rank : Value → Nat
  | .nil => 0
  | .bool _ => 1
  | .int _ | .decimal _ => 2
  | .string _ => 3
  | .array _ => 4
  | .dictionary _ => 5
  | .drop _ => 6

/-- The order of two values: numbers by value, strings by code points, all else by kind. -/
def order (a b : Value) : Ordering :=
  match a.compare? b with
  | some o => o
  | none =>
    if rank a = 2 ∧ rank b = 2 then a.toDecimal.compare b.toDecimal
    else compare (rank a) (rank b)

/-- What an item is sorted by: itself, or what a key leads to. -/
def sortKey (site : Site) (key : Option Value) (item : Value) : Value :=
  key.elim item (site.lookup item)

/-- Sorts the items; those that are not in order keep their places to each other. -/
def sort : Operation :=
  .optional fun site v key =>
    .ok (.array (v.toArray.mergeSort fun a b =>
      (order (sortKey site key a) (sortKey site key b)).isLE))

/-- The text in lower case that an item is sorted by. -/
def naturalKey (site : Site) (key : Option Value) (item : Value) : String :=
  String.ofList (Text.lower (site.text (sortKey site key item)))

/-- Sorts the items by their texts in lower case. -/
def sortNatural : Operation :=
  .optional fun site v key =>
    let keyed := v.toArray.map fun item => (naturalKey site key item, item)
    .ok (.array ((keyed.mergeSort fun a b => (compare a.1 b.1).isLE).map (·.2)))

end Stencil.Filter
