import Stencil.Binary.Shortest
import Stencil.Decimal.OfBinary
import Stencil.Error
import Stencil.Value.Number
import Stencil.Value.Text

/-!
# Data of the host

What a host hands to a template, and the values it becomes. The strict conversion
(`Datum.value?`) refuses what has no value; the lenient one (`Datum.valueOrNil`) puts nil there.
-/

namespace Stencil.Host

mutual

/-- A datum of the host. -/
inductive Datum where
  | bool (b : Bool)
  /-- An integer of a type with or without sign. -/
  | integer (signed : Bool) (n : Int)
  | float (b : Binary)
  | decimal (d : Decimal)
  | text (s : String)
  | bytes (bs : List UInt8)
  /-- An optional datum that is missing, or a datum without content. -/
  | nothing
  | list (items : List Datum)
  /-- Fields with names, or a map whose keys are texts. -/
  | record (fields : List (String × Datum))
  /-- A map that is handed over by separate calls for keys and values. -/
  | calls (steps : List MapCall)
  /-- A datum that cannot be handed over. -/
  | refused (reason : String)

/-- A call that hands over a part of a map. -/
inductive MapCall where
  | key (d : Datum)
  | value (d : Datum)

end

/-! ## Numbers -/

/-- The value of an integer. One without sign that is too large is a decimal. -/
def integerValue? (signed : Bool) (n : Int) : Except ConversionError Value :=
  match Integer.ofInt? n with
  | some m => .ok (.int m)
  | none =>
    if signed then .error (.integerTooWide n)
    else
      match Decimal.ofSigned? n 0 with
      | some d => .ok (.decimal d)
      | none => .error (.integerTooWide n)

/-- The value of a float. -/
def floatValue? (b : Binary) : Except ConversionError Value :=
  match Decimal.ofBinary? b with
  | some d => .ok (.decimal d)
  | none => .error (.floatWithoutDecimal (String.ofList b.toText))

/-- The integers that bytes are. -/
def byteValues (bs : List UInt8) : Value :=
  .array (bs.map fun b => .ofCount b.toNat)

/-! ## Strict conversion -/

/-- The key that a value can be in a dictionary. -/
def keyOf? : Value → Except ConversionError String
  | .string s => .ok s
  | v => .error (.keyNotAString v.inspect)

mutual

/-- The value of a datum. -/
def Datum.value? : Datum → Except ConversionError Value
  | .bool b => .ok (.bool b)
  | .integer signed n => integerValue? signed n
  | .float b => floatValue? b
  | .decimal d => .ok (.decimal d)
  | .text s => .ok (.string s)
  | .bytes bs => .ok (byteValues bs)
  | .nothing => .ok .nil
  | .list items => return .array (← itemValues? items)
  | .record fields => return .dictionary (← fieldValues? [] fields)
  | .calls steps => return .dictionary (← callValues? [] none steps)
  | .refused reason => .error (.refused reason)

/-- The values of the items of a list. -/
def itemValues? : List Datum → Except ConversionError (List Value)
  | [] => .ok []
  | d :: rest => return (← d.value?) :: (← itemValues? rest)

/-- Adds the values of fields to entries. -/
def fieldValues? (entries : Bindings Value) :
    List (String × Datum) → Except ConversionError (Bindings Value)
  | [] => .ok entries
  | (name, d) :: rest => do
    let v ← d.value?
    fieldValues? (Bindings.insert entries name v) rest

/-- Adds what calls hand over to entries. The latest key waits for a value. -/
def callValues? (entries : Bindings Value) (waiting : Option String) :
    List MapCall → Except ConversionError (Bindings Value)
  | [] => .ok entries
  | .key d :: rest => do
    let key ← keyOf? (← d.value?)
    callValues? entries (some key) rest
  | .value d :: rest => do
    let v ← d.value?
    match waiting with
    | none => throw .missingKey
    | some key => callValues? (Bindings.insert entries key v) none rest

end

/-! ## Lenient conversion -/

/-- The value of a decimal, or nil where there is none. -/
def decimalOrNil (d : Option Decimal) : Value :=
  d.elim .nil .decimal

/-- The value of an integer, or nil. One without sign that is too large is a decimal. -/
def integerOrNil (signed : Bool) (n : Int) : Value :=
  match Integer.ofInt? n with
  | some m => .int m
  | none => if signed then .nil else decimalOrNil (Decimal.ofSigned? n 0)

/-- The value of a float, or nil. -/
def floatOrNil (b : Binary) : Value :=
  decimalOrNil (Decimal.ofBinary? b)

mutual

/-- The value of a datum, with nil for whatever has none. A map that is handed over by calls has a
value as a whole or none. -/
def Datum.valueOrNil : Datum → Value
  | .bool b => .bool b
  | .integer signed n => integerOrNil signed n
  | .float b => floatOrNil b
  | .decimal d => .decimal d
  | .text s => .string s
  | .bytes bs => byteValues bs
  | .nothing => .nil
  | .list items => .array (itemValues items)
  | .record fields => .dictionary (fieldValues [] fields)
  | .calls steps => (callValues? [] none steps).toOption.elim .nil .dictionary
  | .refused _ => .nil

/-- The values of the items of a list. -/
def itemValues : List Datum → List Value
  | [] => []
  | d :: rest => d.valueOrNil :: itemValues rest

/-- Adds the values of fields to entries. -/
def fieldValues (entries : Bindings Value) : List (String × Datum) → Bindings Value
  | [] => entries
  | (name, d) :: rest => fieldValues (Bindings.insert entries name d.valueOrNil) rest

end

end Stencil.Host
