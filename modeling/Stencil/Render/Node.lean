import Stencil.Render.Items
import Stencil.Render.Monad

/-!
# Rendering nodes

Nodes are rendered in order, up to the first that leaves an interrupt pending. How partials are
rendered is a parameter here, since their nodes are not a part of the nodes at hand.
-/

namespace Stencil.Render

open Stencil.Markup Stencil.Template

/-! ## Values -/

/-- Sends a value through a filter. -/
def applyFilter (config : Config) (v : Value) (call : FilterCall) : Render Value := do
  match Bindings.find? config.filters call.name with
  | none => fail (.unknownFilter call.name)
  | some filter =>
    let view ← ask (·.view config)
    let site ← ask (·.site config)
    let arguments := call.arguments.map (·.value view)
    if filter.observed then
      let named := Bindings.ofList (call.named.map fun (name, e) => (name, e.value view))
      note (.filtered ⟨v, arguments, named⟩)
    match filter.operation.call call.name site v arguments with
    | .ok result => return result
    | .error cause => fail cause

/-- The value of a pipeline: that of its source, sent through its filters. -/
def evaluate (config : Config) (p : Pipeline) : Render Value := do
  let v := p.source.value (← ask (·.view config))
  p.filters.foldlM (applyFilter config) v

/-! ## Leaves -/

/-- Counts up or down. The integer before is written when counting up, the one after when counting
down. -/
def count (direction : Direction) (name : String) : Render Unit := do
  let counters ← ask (·.counters)
  let before := ((Bindings.find? counters name).map Value.toInt).getD 0
  let after := Integer.clamp (before.toInt + (match direction with | .up => 1 | .down => -1))
  change fun ctx => { ctx with counters := Bindings.insert ctx.counters name (.int after) }
  note (.counted direction name before after)
  emit (Value.text (.int (match direction with | .up => before | .down => after)))

/-- The group of a rotation: as given, or the markup of its values. -/
def groupOf (r : Rotation) (view : View) : String :=
  match r.group with
  | some e => (e.value view).text
  | none => Value.separated (r.values.map (·.text))

/-- Writes the value whose turn it is, and moves on by one place. -/
def rotate (config : Config) (r : Rotation) : Render Unit := do
  let view ← ask (·.view config)
  let group := groupOf r view
  let places ← ask (·.places r.tag)
  let place := (Bindings.find? places group).getD 0 % r.values.length
  let e := r.values.getD place r.first
  emit ((e.value view).render config.settings)
  note (.rotated r.tag group place)
  change (·.remember r.tag
    (.places (Bindings.insert places group ((place + 1) % r.values.length))))

/-! ## Loops -/

/-- Visits items with a render, up to a break; `n` is at least their number. -/
def visit (number : Nat) (visitItem : Value → Render Unit) : (n : Nat) → Items → Render Unit
  | 0, _ => return ()
  | n + 1, items =>
    match items.next? with
    | none => return ()
    | some (item, rest) => do
      visitItem item
      advanceLoop number
      match ← takeInterrupt with
      | some .breakLoop => return ()
      | _ => visit number visitItem n rest

/-- The key under which the loops of a tag are remembered. -/
def loopRegister (tag : String) : String := "for:" ++ tag

/-- Runs a loop over its items, which are not none. -/
def runLoop (tag name : String) (items : Items) (body : Render Unit) : Render Unit :=
  inLoop (loopRegister tag) items.count fun number =>
    inScope (.fixed [("forloop", .drop (.loop number))]) <|
      visit number (fun item => inScope (.fixed [(name, item)]) body) items.count items

/-- Renders something a number of times. -/
def times (r : Render Unit) : Nat → Render Unit
  | 0 => return ()
  | n + 1 => do
    r
    times r n

/-! ## Nodes -/

/-- Whether a branch is taken; one without condition always is. -/
def isTaken (inverted : Bool) (condition : Option Condition) (view : View) : Bool :=
  condition.all fun c => c.holds view != inverted

/-- Whether a clause applies to a subject. -/
def applies (values : List Expression) (subject : Value) (view : View) : Bool :=
  values.any fun e => (e.value view).same subject

mutual

/-- Renders a node; `partialOf` renders the partials. -/
def renderNode (config : Config) (partialOf : Inclusion → Render Unit) : Node → Render Unit
  | .text content => emit content
  | .output pipeline => do
    let v ← evaluate config pipeline
    emit (v.render config.settings)
  | .conditional inverted branches => renderBranches config partialOf inverted branches
  | .loop tag header body otherwise => do
    let items := itemsOf header (← ask (·.view config))
    if items.count = 0 then
      match otherwise with
      | none => return ()
      | some nodes => renderNodes config partialOf nodes
    else runLoop tag header.item items (renderNodes config partialOf body)
  | .choice subject clauses => do
    let v := subject.value (← ask (·.view config))
    renderClauses config partialOf v false clauses
  | .rotation values => rotate config values
  | .assign name pipeline => do
    let v ← evaluate config pipeline
    assign name v
  | .capture name body => do
    let text ← captured (renderNodes config partialOf body)
    assign name (.string text)
  | .comment => return ()
  | .counter direction name => count direction name
  | .interrupt kind => interrupt kind
  | .inclusion use => partialOf use
  | .repetition n body => do
    let n := (n.value (← ask (·.view config))).toCount
    times (renderNodes config partialOf body) n

/-- Renders nodes in order, up to the first that leaves an interrupt pending. -/
def renderNodes (config : Config) (partialOf : Inclusion → Render Unit) :
    List Node → Render Unit
  | [] => return ()
  | node :: rest => do
    renderNode config partialOf node
    unlessInterrupted (renderNodes config partialOf rest)

/-- Renders the first branch that is taken. Only the first condition of all is inverted. -/
def renderBranches (config : Config) (partialOf : Inclusion → Render Unit) (inverted : Bool) :
    List Branch → Render Unit
  | [] => return ()
  | .mk condition body :: rest => do
    if isTaken inverted condition (← ask (·.view config)) then renderNodes config partialOf body
    else renderBranches config partialOf false rest

/-- Renders the clauses that apply, or the `else` clause that comes before all of these. -/
def renderClauses (config : Config) (partialOf : Inclusion → Render Unit) (subject : Value)
    (applied : Bool) : List Clause → Render Unit
  | [] => return ()
  | .mk .otherwise body :: rest =>
    if applied then renderClauses config partialOf subject applied rest
    else renderNodes config partialOf body
  | .mk (.among values) body :: rest => do
    if applies values subject (← ask (·.view config)) then
      renderNodes config partialOf body
      unlessInterrupted (renderClauses config partialOf subject true rest)
    else renderClauses config partialOf subject applied rest

end

end Stencil.Render
