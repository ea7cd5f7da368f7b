import Stencil.Bindings
import Stencil.Decimal.Basic

/-!
# Values

What flows through a template. Texts, numbers and collections are plain data; a *drop* is an object
that answers lookups itself and is known by its handle only, so two drops are equal when they are
the same object.

* `Value.same` — equality; decimals by value, dictionaries by what their names are bound to
* `Value.compare?` — the order within integers, within decimals and within strings
-/

namespace Stencil

/-- What a drop is known by. -/
inductive Handle where
  /-- An object of the host. -/
  | object (name : String)
  /-- The object of a loop, the loops of a render being numbered as they start. -/
  | loop (number : Nat)
  deriving DecidableEq, Repr

/-- A datum of a template. -/
inductive Value where
  | nil
  | bool (b : Bool)
  | string (text : String)
  | int (n : Int64)
  | decimal (d : Decimal)
  | array (items : List Value)
  | dictionary (entries : List (String × Value))
  | drop (handle : Handle)
  deriving Inhabited

namespace Value

/-! ## Equality -/

mutual

/-- Whether two values are equal. Values of different kinds never are. -/
def same : Value → Value → Bool
  | .nil, .nil => true
  | .bool a, .bool b => a == b
  | .string a, .string b => a == b
  | .int a, .int b => a == b
  | .decimal a, .decimal b => a.same b
  | .array xs, .array ys => sameItems xs ys
  | .dictionary xs, .dictionary ys => sameEntries xs ys
  | .drop a, .drop b => a == b
  | _, _ => false

/-- Whether two lists of values are equal item by item. -/
def sameItems : List Value → List Value → Bool
  | [], [] => true
  | x :: xs, y :: ys => same x y && sameItems xs ys
  | _, _ => false

/-- Whether two lists of entries are equal entry by entry. -/
def sameEntries : List (String × Value) → List (String × Value) → Bool
  | [], [] => true
  | (k, x) :: xs, (l, y) :: ys => k == l && same x y && sameEntries xs ys
  | _, _ => false

end

instance : BEq Value := ⟨same⟩

/-! ## Order -/

/-- The order of two numbers of one kind or of two strings; strings order by code point. All other
pairs have none. -/
def compare? : Value → Value → Option Ordering
  | .int a, .int b => some (compare a.toInt b.toInt)
  | .decimal a, .decimal b => some (a.compare b)
  | .string a, .string b => some (compare a b)
  | _, _ => none

/-! ## Tests -/

/-- Only nil and false are not truthy. -/
def truthy : Value → Bool
  | .nil => false
  | .bool b => b
  | _ => true

def isNil : Value → Bool
  | .nil => true
  | _ => false

def isArray : Value → Bool
  | .array _ => true
  | _ => false

def isDictionary : Value → Bool
  | .dictionary _ => true
  | _ => false

def isDrop : Value → Bool
  | .drop _ => true
  | _ => false

/-- The text of a string. -/
def string? : Value → Option String
  | .string s => some s
  | _ => none

/-- The items of an array. -/
def array? : Value → Option (List Value)
  | .array items => some items
  | _ => none

/-! ## Collections -/

/-- The number of characters, items or entries; other values have none. -/
def size : Value → Nat
  | .string s => s.length
  | .array items => items.length
  | .dictionary entries => entries.length
  | _ => 0

/-- The items of an array; nil has none, and any other value is the only item. -/
def toArray : Value → List Value
  | .array items => items
  | .nil => []
  | v => [v]

/-- An array with one more item. Other values stay as they are. -/
def push (v item : Value) : Value :=
  match v with
  | .array items => .array (items ++ [item])
  | _ => v

/-- An array without its last item, and that item if there is one. Other values stay. -/
def pop (v : Value) : Value × Option Value :=
  match v with
  | .array items => (.array items.dropLast, items.getLast?)
  | _ => (v, none)

end Value

end Stencil
