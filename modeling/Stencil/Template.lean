import Stencil.Host.Datum
import Stencil.Render.Partial

/-!
# Templates

A template is read once and rendered any number of times. Its counters go on from one render to the
next, also when a render fails.
-/

namespace Stencil

/-- A template that can be rendered. -/
structure Template where
  config : Config
  nodes : List Template.Node
  counters : Bindings Value

/-- What comes of a render. -/
structure Rendering where
  result : Except Error String
  /-- The template with its counters as they are afterwards. -/
  template : Template
  /-- What happened, in order. -/
  journal : List Render.Event

namespace Template

/-- Reads a template. -/
def read (config : Config) (source : String) : Except Error Template :=
  match nodesOf config.tags source.toList with
  | .ok nodes => .ok ⟨config, nodes, []⟩
  | .error cause => .error (.reading cause)

/-! ## Rendering -/

/-- Renders a template with variables. -/
def render (t : Template) (data : Bindings Value) : Rendering :=
  let (result, ctx) := (Render.renderAll t.config t.nodes).run (.start data t.counters)
  { result := result.map fun _ => ctx.output
    template := { t with counters := ctx.counters }
    journal := ctx.journal.reverse }

/-- The variables that a value brings. Nil brings none. -/
def variablesOf (v : Value) : Except Error (Bindings Value) :=
  match v with
  | .dictionary entries => .ok entries
  | .nil => .ok []
  | v => .error (.conversion (.notADictionary v.inspect))

/-- Renders a template with the variables that a value brings. -/
def renderValue (t : Template) (v : Value) : Rendering :=
  match variablesOf v with
  | .ok data => t.render data
  | .error cause => ⟨.error cause, t, []⟩

/-- Renders a template with the variables that a datum of the host brings. -/
def renderDatum (t : Template) (d : Host.Datum) : Rendering :=
  match d.value? with
  | .ok v => t.renderValue v
  | .error cause => ⟨.error (.conversion cause), t, []⟩

/-! ## Counters -/

/-- What a counter stands at. -/
def counter? (t : Template) (name : String) : Option Value :=
  Bindings.find? t.counters name

/-- Sets a counter. -/
def setCounter (t : Template) (name : String) (v : Value) : Template :=
  { t with counters := Bindings.insert t.counters name v }

/-- Takes all counters away. -/
def clearCounters (t : Template) : Template :=
  { t with counters := [] }

end Template

end Stencil
