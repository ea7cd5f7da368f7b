import Stencil.Bindings
import Stencil.Value.Basic

/-!
# Scopes

Variables live in a stack of scopes. Reading finds the innermost binding; writing goes to the
innermost scope that can be written to and passes over the others.

* `read_assign_self`, `read_assign_of_ne` — what is read after a write
-/

namespace Stencil.Render

/-- A layer of variables. -/
structure Scope where
  bindings : Bindings Value
  /-- Whether variables can be written to this layer. -/
  writable : Bool

/-- A stack of scopes, innermost first. -/
abbrev Scopes := List Scope

namespace Scope

/-- A scope that can be written to. -/
def mutable (bindings : Bindings Value) : Scope := ⟨bindings, true⟩

/-- A scope that keeps the bindings it has. -/
def fixed (bindings : Bindings Value) : Scope := ⟨bindings, false⟩

end Scope

namespace Scopes

/-- The innermost binding of a name. -/
def find? : Scopes → String → Option Value
  | [], _ => none
  | scope :: outer, name => (Bindings.find? scope.bindings name).or (find? outer name)

/-- The value of a variable; nil if it is not bound. -/
def read (scopes : Scopes) (name : String) : Value :=
  (scopes.find? name).getD .nil

/-- Binds a name in the innermost scope that can be written to. -/
def assign : Scopes → String → Value → Scopes
  | [], _, _ => []
  | scope :: outer, name, value =>
    if scope.writable then
      { scope with bindings := Bindings.insert scope.bindings name value } :: outer
    else scope :: assign outer name value

/-- The scopes inside of the innermost one that can be written to. -/
def shielding (scopes : Scopes) : Scopes :=
  scopes.takeWhile (!·.writable)

/-- A variable reads as it was written, unless a scope further in binds its name. -/
theorem read_assign_self (scopes : Scopes) (name : String) (value : Value)
    (hbound : find? scopes.shielding name = none) (hwritable : ∃ s ∈ scopes, s.writable) :
    (scopes.assign name value).read name = value := by
  unfold read
  suffices h : (scopes.assign name value).find? name = some value by rw [h]; rfl
  induction scopes with
  | nil => simp at hwritable
  | cons scope outer ih =>
    by_cases hw : scope.writable
    · simp [assign, hw, find?, Bindings.find?_insert_self]
    · simp only [shielding, List.takeWhile_cons, hw, Bool.not_false, if_true, find?,
        Option.or_eq_none_iff] at hbound
      simp only [assign, hw, Bool.false_eq_true, if_false, find?, hbound.1, Option.none_or]
      exact ih hbound.2 (by simpa [hw] using hwritable)

/-- Writing a variable changes no other. -/
theorem read_assign_of_ne (scopes : Scopes) {name other : String} (value : Value)
    (hne : name ≠ other) : (scopes.assign name value).read other = scopes.read other := by
  unfold read
  congr 1
  induction scopes with
  | nil => rfl
  | cons scope outer ih =>
    by_cases hw : scope.writable
    · simp [assign, hw, find?, Bindings.find?_insert_of_ne _ hne]
    · simp [assign, hw, find?, ih]

end Scopes

end Stencil.Render
