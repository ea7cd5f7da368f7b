import Stencil.Markup.Expression
import Stencil.Text.Search
import Stencil.Value.Lookup
import Stencil.Value.Number

/-!
# Evaluating expressions

Expressions and conditions have a value in every view: they never fail, and what is not there is
nil. A view is what they can see of a render.

* `Expression.value` — the value of an expression
* `Operator.holds` — the comparisons
* `Condition.holds` — truth; the right side of a connective counts only where it decides
-/

namespace Stencil.Markup

/-- What expressions can see. -/
structure View where
  read : String → Value
  objects : Objects
  keys : KeyEncoding

/-! ## Expressions -/

/-- What a selector finds in a value. Dictionaries and drops may have entries of that name. -/
def Selector.apply (view : View) (s : Selector) (v : Value) : Value :=
  match v, s with
  | .dictionary _, _ => v.lookup view.objects view.keys (.string s.name)
  | .drop _, _ => v.lookup view.objects view.keys (.string s.name)
  | _, .size => Value.ofCount v.size
  | .array items, .first => items.head?.getD .nil
  | .array items, .last => items.getLast?.getD .nil
  | _, _ => .nil

mutual

/-- The value of a step behind the value of the steps before it, if there are any. -/
def Expression.step (view : View) (before : Option Value) : Expression → Value
  | .lookup steps => (stepsValue view before steps).getD .nil
  | .name identifier =>
    match before with
    | some v => v.lookup view.objects view.keys (.string identifier)
    | none => view.read identifier
  | .literal value => value
  | .subscript key =>
    match before with
    | some v => v.lookup view.objects view.keys (key.step view none)
    | none => .nil
  | .selector s =>
    match before with
    | some v => s.apply view v
    | none => .nil

/-- The value of the last of several steps. -/
def stepsValue (view : View) (before : Option Value) : List Expression → Option Value
  | [] => before
  | e :: steps => stepsValue view (some (e.step view before)) steps

end

/-- The value of an expression. -/
def Expression.value (view : View) (e : Expression) : Value :=
  e.step view none

/-! ## Conditions -/

/-- Whether a value contains another: an array an equal item, a dictionary an entry under its text,
a string its text. -/
def containsValue : Value → Value → Bool
  | .array items, v => items.any (·.same v)
  | .dictionary entries, v => Bindings.contains entries v.text
  | .string s, v => Text.containsText v.text.toList s.toList
  | _, _ => false

/-- Whether a comparison holds. Values without an order are neither less nor greater. -/
def Operator.holds (op : Operator) (left right : Value) : Bool :=
  match op with
  | .equal => left.same right
  | .notEqual => !left.same right
  | .less => left.compare? right == some .lt
  | .greater => left.compare? right == some .gt
  | .lessOrEqual => (left.compare? right).any (·.isLE)
  | .greaterOrEqual => (left.compare? right).any (·.isGE)
  | .contains => containsValue left right

/-- Whether a simple condition holds. -/
def Comparison.holds (view : View) (c : Comparison) : Bool :=
  match c.right with
  | none => (c.left.value view).truthy
  | some (op, right) => op.holds (c.left.value view) (right.value view)

/-- Whether a condition holds. -/
def Condition.holds (view : View) : Condition → Bool
  | .simple test => test.holds view
  | .linked test .and rest => test.holds view && rest.holds view
  | .linked test .or rest => test.holds view || rest.holds view

end Stencil.Markup
