import Stencil.Host.Datum

/-!
# Records

A record type tells how its fields are handed to templates: under their own names, under other
names, or not at all.
-/

namespace Stencil.Host

/-- How a field is handed over. -/
inductive Exposure where
  | asNamed
  | renamed (key : String)
  | hidden
  deriving DecidableEq, Repr

/-- A field of a record type. -/
structure Field where
  name : String
  exposure : Exposure

/-- The key of a field, unless it is hidden. -/
def Field.key? (f : Field) : Option String :=
  match f.exposure with
  | .asNamed => some f.name
  | .renamed key => some key
  | .hidden => none

/-- The record that fields with their data are. -/
def recordOf (fields : List (Field × Datum)) : Datum :=
  .record (fields.filterMap fun (f, d) => f.key?.map (·, d))

end Stencil.Host
