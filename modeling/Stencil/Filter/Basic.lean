import Stencil.Bindings
import Stencil.Error
import Stencil.Value.Lookup
import Stencil.Value.Number
import Stencil.Value.Text

/-!
# Filters

A filter turns a value and arguments into a value. The shape of an operation says how many
arguments it takes, so the count is checked in one place (`Operation.call`) and an operation never
meets a missing argument.
-/

namespace Stencil

/-- What a filter can see beside its arguments. -/
structure Site where
  objects : Objects
  settings : Settings

/-- The text that is written for a value. -/
def Site.text (site : Site) (v : Value) : List Char :=
  (v.render site.settings).toList

/-- What a key leads to in a value. -/
def Site.lookup (site : Site) (v key : Value) : Value :=
  v.lookup site.objects site.settings.keys key

/-- What an operation gives. -/
abbrev Answer := Except TypeFault Value

/-- What a filter does, by the arguments it takes. -/
inductive Operation where
  | none (run : Site → Value → Answer)
  | optional (run : Site → Value → Option Value → Answer)
  | one (run : Site → Value → Value → Answer)
  | oneOrTwo (run : Site → Value → Value → Option Value → Answer)
  | two (run : Site → Value → Value → Value → Answer)
  | any (run : Site → Value → List Value → Answer)

namespace Operation

/-- The smallest number of arguments. -/
def least : Operation → Nat
  | .none _ | .optional _ | .any _ => 0
  | .one _ | .oneOrTwo _ => 1
  | .two _ => 2

/-- The greatest number of arguments, if there is one. -/
def most? : Operation → Option Nat
  | .none _ => some 0
  | .optional _ | .one _ => some 1
  | .oneOrTwo _ | .two _ => some 2
  | .any _ => Option.none

/-- The number of arguments that a message asks for when a wrong number was received. -/
def expected (op : Operation) (received : Nat) : Nat :=
  if received < op.least then op.least else op.most?.getD received

/-- Runs an operation on its arguments; their number must be right. -/
def call (name : String) (op : Operation) (site : Site) (v : Value) (args : List Value) :
    Except RuntimeError Value :=
  match op, args with
  | .none run, [] => (run site v).mapError .wrongType
  | .optional run, [] => (run site v Option.none).mapError .wrongType
  | .optional run, [a] => (run site v (some a)).mapError .wrongType
  | .one run, [a] => (run site v a).mapError .wrongType
  | .oneOrTwo run, [a] => (run site v a Option.none).mapError .wrongType
  | .oneOrTwo run, [a, b] => (run site v a (some b)).mapError .wrongType
  | .two run, [a, b] => (run site v a b).mapError .wrongType
  | .any run, args => (run site v args).mapError .wrongType
  | op, args => .error (.argumentCount name (op.expected args.length) args.length)

/-- An operation that changes the text of its value. -/
def ofText (change : List Char → List Char) : Operation :=
  .none fun site v => .ok (.string (String.ofList (change (site.text v))))

/-- An operation on the items of its value. -/
def ofItems (change : List Value → Value) : Operation :=
  .none fun _ v => .ok (change v.toArray)

end Operation

/-- A filter. -/
structure Filter where
  operation : Operation
  /-- Whether its calls are noted in the journal of a render. -/
  observed : Bool

/-- Names of filters, each with the filter. -/
abbrev FilterTable := Bindings Filter

end Stencil
