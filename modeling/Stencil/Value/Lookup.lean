import Stencil.Settings
import Stencil.Value.Basic

/-!
# Lookups

What a key leads to in a value. A lookup never fails: where there is nothing, it gives nil.
-/

namespace Stencil

/-- How drops answer: what the drop of a handle has under a key. -/
abbrev Objects := Handle → String → Option Value

/-- No drop answers anything. -/
def Objects.none : Objects := fun _ _ => Option.none

namespace Value

/-- What a key leads to: the item of an array at an index, the entry of a dictionary under a name,
or the answer of a drop to a key spelled as the settings say. -/
def lookup (objects : Objects) (keys : KeyEncoding) (v key : Value) : Value :=
  match v, key with
  | .array items, .int index =>
    if index.toInt < 0 then .nil else items.getD index.toInt.toNat .nil
  | .dictionary entries, .string name => (Bindings.find? entries name).getD .nil
  | .drop handle, .string name => (objects handle (keys.transform name)).getD .nil
  | _, _ => .nil

end Value

end Stencil
