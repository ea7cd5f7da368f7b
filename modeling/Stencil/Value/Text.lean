import Stencil.Integer
import Stencil.Settings
import Stencil.Text.Quoted
import Stencil.Value.Basic

/-!
# Values as text

* `Value.text` — the text of a value; nil, collections and drops have none
* `Value.render` — the text that is written to the output, where decimals follow the settings
* `Value.inspect` — the kind of a value and all it holds, for messages
-/

namespace Stencil.Value

/-- The text of a value. -/
def text : Value → String
  | .bool b => if b then "true" else "false"
  | .string s => s
  | .int n => String.ofList (Integer.toText n)
  | .decimal d => String.ofList d.toText
  | _ => ""

/-- The text that is written for a value. -/
def render (settings : Settings) : Value → String
  | .decimal d => settings.decimals.encode d
  | v => v.text

/-! ## Inspection -/

/-- Texts with commas between them. -/
def separated : List String → String
  | [] => ""
  | [s] => s
  | s :: rest => s ++ ", " ++ separated rest

/-- A text between double quotes. -/
def quoted (s : String) : String :=
  String.ofList (Text.quote s.toList)

/-- A drop shows what it is known by. -/
def inspectHandle : Handle → String
  | .object name => name
  | .loop number => "forloop " ++ toString number

mutual

/-- The kind of a value and all it holds. -/
def inspect : Value → String
  | .nil => "Nil"
  | .bool b => "Bool(" ++ (if b then "true" else "false") ++ ")"
  | .string s => "String(" ++ quoted s ++ ")"
  | .int n => "Int(" ++ String.ofList (Integer.toText n) ++ ")"
  | .decimal d => "Decimal(" ++ String.ofList d.inspect ++ ")"
  | .array items => "Array([" ++ separated (inspectItems items) ++ "])"
  | .dictionary entries => "Dictionary(\x7b" ++ separated (inspectEntries entries) ++ "\x7d)"
  | .drop handle => "Drop(" ++ inspectHandle handle ++ ")"

/-- The inspections of the items of an array. -/
def inspectItems : List Value → List String
  | [] => []
  | v :: rest => inspect v :: inspectItems rest

/-- The inspections of the entries of a dictionary. -/
def inspectEntries : List (String × Value) → List String
  | [] => []
  | (key, v) :: rest => (quoted key ++ ": " ++ inspect v) :: inspectEntries rest

end

end Stencil.Value
