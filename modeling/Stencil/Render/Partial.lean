import Stencil.Render.Node
import Stencil.Template.Reader

/-!
# Rendering partials

A partial is read once in a render and rendered in the context of the tag that uses it. Partials may
use each other in circles, so the nodes of partials are unfolded a number of times: as the number of
active partials is bounded, rendering ends.
-/

namespace Stencil.Render

open Stencil.Markup Stencil.Template

/-! ## Loading -/

/-- The key under which partials are remembered. -/
def partialsRegister : String := "include:partials"

/-- Reads the nodes of a partial from storage. -/
def readPartial (config : Config) (path : String) : Except Error (List Node) :=
  match config.storage path with
  | .error fault => .error (.rendering (.fileSystem fault))
  | .ok source => (nodesOf config.tags source.toList).mapError .reading

/-- The nodes of a partial, as remembered or from storage. -/
def loadPartial (config : Config) (path : String) : Render (List Node) := do
  let known ← ask (·.partials partialsRegister)
  match Bindings.find? known path with
  | some nodes =>
    change (·.remember partialsRegister (.partials known))
    return nodes
  | none =>
    if (config.storage path).isOk then note (.loaded path)
    match readPartial config path with
    | .ok nodes =>
      change (·.remember partialsRegister (.partials (Bindings.insert known path nodes)))
      return nodes
    | .error cause =>
      change (·.remember partialsRegister (.partials known))
      throw cause

/-! ## Rendering -/

/-- The name that a partial is bound to: the last component of its path. -/
def partialName (path : String) : String :=
  ((Storage.components path).getLast?).getD path

/-- Renders something for each item, bound to a name, up to the first that leaves an interrupt
pending. -/
def eachItem (name : String) (r : Render Unit) : List Value → Render Unit
  | [] => return ()
  | item :: rest => do
    inScope (.fixed [(name, item)]) r
    unlessInterrupted (eachItem name r rest)

/-- Renders something with a value bound to a name: once for each item of an array, and without
binding if the value is nil. -/
def withTarget (name : String) (v : Value) (r : Render Unit) : Render Unit :=
  match v with
  | .array items => eachItem name r items
  | .nil => r
  | v => inScope (.fixed [(name, v)]) r

/-- The path of the partial that a tag uses. It must not be empty. -/
def pathOf (config : Config) (use : Inclusion) : Render String := do
  let path := (use.template.value (← ask (·.view config))).text
  if path.isEmpty then fail (.fileSystem (.emptyName use.template.text)) else return path

/-- Renders the partial at a path. -/
def renderPartial (config : Config) (load : String → Render (List Node))
    (renderBody : List Node → Render Unit) (use : Inclusion) (path : String) : Render Unit := do
  let nodes ← load path
  let view ← ask (·.view config)
  let name := partialName path
  let target := use.target.elim (view.read name) (·.value view)
  let locals := Bindings.ofList (use.locals.map fun (name, e) => (name, e.value view))
  inScope (.fixed locals) (withTarget name target (renderBody nodes))

/-- Renders the partial that a tag uses; `load` gives its nodes and `renderBody` renders them. -/
def renderInclusion (config : Config) (load : String → Render (List Node))
    (renderBody : List Node → Render Unit) (use : Inclusion) : Render Unit := do
  let path ← pathOf config use
  inPartial config.settings.maxIncludeDepth path (renderPartial config load renderBody use path)

/-- Renders nodes, with the partials they use unfolded so many times; `deeper` renders what lies
below. -/
def renderUnfolded (config : Config) (load : String → Render (List Node))
    (deeper : List Node → Render Unit) : Nat → List Node → Render Unit
  | 0 => deeper
  | n + 1 => renderNodes config (renderInclusion config load (renderUnfolded config load deeper n))

/-- Renders nodes. Partials nest no deeper than the settings allow, so nothing lies below as many
unfoldings and one. -/
def renderAll (config : Config) (nodes : List Node) : Render Unit :=
  renderUnfolded config (loadPartial config) (fun _ => return ())
    (config.settings.maxIncludeDepth + 1) nodes

end Stencil.Render
