import Stencil.Config
import Stencil.Markup.View
import Stencil.Render.Context

/-!
# Rendering

A render changes its context and may fail; what it changed before a failure stays. The operations
here are all that the rendering of nodes is made of. Those that change something for the time of
another render restore it whether that render fails or not.

* `inScope` — a scope for the time of a render
* `captured` — the output of a render as text
* `inLoop` — an open loop for the time of a render
* `inPartial` — an active partial for the time of a render
-/

namespace Stencil

open Stencil.Markup Stencil.Template

/-- A computation on the context of a render. -/
abbrev Render := ExceptT Error (StateM Render.Context)

namespace Render

/-! ## Reading -/

/-- Runs a render from a context: its result and the context afterwards. -/
def run {α : Type} (r : Render α) (ctx : Context) : Except Error α × Context :=
  ExceptT.run r ctx

/-- What a function sees of the context. -/
def ask {α : Type} (f : Context → α) : Render α := fun ctx => (.ok (f ctx), ctx)

/-- Changes the context. -/
def change (f : Context → Context) : Render Unit := fun ctx => (.ok (), f ctx)

/-- Fails. -/
def fail {α : Type} (cause : RuntimeError) : Render α := throw (.rendering cause)

/-- What expressions see of a context. -/
def Context.view (config : Config) (ctx : Context) : View where
  read := ctx.scopes.read
  objects := ctx.objects config.host
  keys := config.settings.keys

/-- What filters see of a context. -/
def Context.site (config : Config) (ctx : Context) : Site where
  objects := ctx.objects config.host
  settings := config.settings

/-! ## Writing -/

/-- Writes text to the output. -/
def emit (text : String) : Render Unit :=
  change fun ctx => { ctx with output := ctx.output ++ text }

/-- Binds a variable. -/
def assign (name : String) (value : Value) : Render Unit :=
  change fun ctx => { ctx with scopes := ctx.scopes.assign name value }

/-- Notes an event in the journal. -/
def note (e : Event) : Render Unit :=
  change (·.note e)

/-! ## Interrupts -/

/-- Whether an interrupt is pending. -/
def isInterrupted : Render Bool := ask (·.isInterrupted)

/-- Makes an interrupt pending. -/
def interrupt (kind : Interrupt) : Render Unit :=
  change fun ctx =>
    ({ ctx with interrupts := kind :: ctx.interrupts } : Context).note
      (.interrupted ctx.interrupts.length)

/-- Takes the latest interrupt. -/
def takeInterrupt : Render (Option Interrupt) := fun ctx =>
  (.ok ctx.interrupts.head?, { ctx with interrupts := ctx.interrupts.tail })

/-- Goes on unless an interrupt is pending. -/
def unlessInterrupted (next : Render Unit) : Render Unit := do
  if ← isInterrupted then return () else next

/-! ## For the time of a render -/

/-- Runs a render within a further scope. -/
def inScope {α : Type} (scope : Scope) (r : Render α) : Render α := fun ctx =>
  let (result, after) := r { ctx with scopes := scope :: ctx.scopes }
  (result, { after with scopes := after.scopes.tail })

/-- Runs a render and gives what it wrote. -/
def captured (r : Render Unit) : Render String := fun ctx =>
  let (result, after) := r { ctx with output := "" }
  (result.map fun _ => after.output, { after with output := ctx.output })

/-- The greatest length that a loop can tell. -/
def maxLength : Nat := 2 ^ 64 - 1

/-- Starts a loop within those that a register holds, and gives its number. -/
def startLoop (register : String) (length : Nat) : Render Nat := fun ctx =>
  let number := ctx.loops.size
  let around := ctx.openLoops register
  let loop : LoopState := ⟨min length maxLength, 0, around.head?⟩
  (.ok number,
    ({ ctx with loops := ctx.loops.push loop } : Context).remember register
      (.loops (number :: around)))

/-- Ends the innermost loop of a register. -/
def endLoop (register : String) (ctx : Context) : Context :=
  match Bindings.find? ctx.registers register with
  | some (.loops numbers) => ctx.remember register (.loops numbers.tail)
  | _ => ctx

/-- Runs a render within a loop that it is given the number of. -/
def inLoop {α : Type} (register : String) (length : Nat) (r : Nat → Render α) : Render α := do
  let number ← startLoop register length
  fun ctx =>
    let (result, after) := r number ctx
    (result, endLoop register after)

/-- The context with one partial more that is active. -/
def Context.enter (ctx : Context) (path : String) : Context :=
  ({ ctx with depth := ctx.depth + 1 } : Context).note (.entered path)

/-- Makes a partial active, if fewer than so many are. -/
def enterPartial (limit : Nat) (path : String) : Render Unit := fun ctx =>
  if ctx.depth < limit then (.ok (), ctx.enter path)
  else (.error (.rendering (.includeDepthExceeded path)), ctx.note (.refused path))

/-- Makes the innermost active partial inactive. -/
def leavePartial (path : String) (ctx : Context) : Context :=
  ({ ctx with depth := ctx.depth - 1 } : Context).note (.left path)

/-- Runs a render while a partial is active. -/
def inPartial {α : Type} (limit : Nat) (path : String) (r : Render α) : Render α := do
  enterPartial limit path
  fun ctx =>
    let (result, after) := r ctx
    (result, leavePartial path after)

/-- Counts an item of a loop as done. -/
def advanceLoop (number : Nat) : Render Unit :=
  change fun ctx =>
    { ctx with loops := ctx.loops.modify number fun l => { l with index := l.index + 1 } }

end Render

end Stencil
