import Stencil.Render.Scope
import Stencil.Template.Node
import Stencil.Value.Lookup
import Stencil.Value.Number

/-!
# Contexts

The state of a render: variables, counters, what tags remember, pending interrupts, the loops that
have been started, how many partials are active, what has been written, and a journal of what
happened.
-/

namespace Stencil.Render

open Stencil.Template

/-! ## Loops -/

/-- A loop that has been started. -/
structure LoopState where
  length : Nat
  /-- The number of items that are done. -/
  index : Nat
  /-- The loop around it. -/
  parent : Option Nat
  deriving DecidableEq, Repr

/-- What the object of a loop answers. -/
def LoopState.answer (l : LoopState) (key : String) : Option Value :=
  match key with
  | "length" => some (Value.ofCount l.length)
  | "index" => some (Value.ofCount (l.index + 1))
  | "index0" => some (Value.ofCount l.index)
  | "rindex" => some (Value.ofCount (l.length - l.index))
  | "rindex0" => some (Value.ofCount (l.length - (l.index + 1)))
  | "first" => some (.bool (l.index = 0))
  | "last" => some (.bool (l.index + 1 = l.length))
  | "parentloop" => some (l.parent.elim .nil fun n => .drop (.loop n))
  | _ => none

/-! ## Registers -/

/-- What a tag remembers under a key. -/
inductive Payload where
  /-- The loops that are open, innermost first. -/
  | loops (numbers : List Nat)
  /-- The places of rotations, by group. -/
  | places (byGroup : Bindings Nat)
  /-- The partials that have been read. -/
  | partials (byPath : Bindings (List Node))
  | text (s : String)
  | number (n : Int64)

/-! ## Journal -/

/-- The call of a filter that is observed. -/
structure FilterUse where
  value : Value
  arguments : List Value
  named : Bindings Value

/-- What can be told of a render. -/
inductive Event where
  /-- An observed filter was called. -/
  | filtered (use : FilterUse)
  /-- A partial was read from storage. -/
  | loaded (path : String)
  /-- A counter went up or down, from one integer to another. -/
  | counted (direction : Direction) (name : String) (before after : Int64)
  /-- A rotation of a tag and a group showed the value at a place. -/
  | rotated (tag group : String) (place : Nat)
  /-- An interrupt was raised while so many others were pending. -/
  | interrupted (pending : Nat)
  /-- A partial became active. -/
  | entered (path : String)
  /-- A partial that was active is so no longer. -/
  | left (path : String)
  /-- A partial could not become active, since too many were. -/
  | refused (path : String)

/-- The filter call that an event tells of. -/
def Event.filterUse? : Event → Option FilterUse
  | .filtered use => some use
  | _ => none

/-! ## Contexts -/

/-- The state of a render. -/
structure Context where
  scopes : Scopes
  /-- The counters, which outlive the render. -/
  counters : Bindings Value
  registers : Bindings Payload
  /-- Interrupts that have not been dealt with, latest first. -/
  interrupts : List Interrupt
  /-- The loops that have been started, by number. -/
  loops : Array LoopState
  /-- The number of partials that are active. -/
  depth : Nat
  output : String
  /-- What happened, latest first. -/
  journal : List Event

namespace Context

/-- The state at the beginning of a render. -/
def start (data counters : Bindings Value) : Context where
  scopes := [.mutable data]
  counters := counters
  registers := []
  interrupts := []
  loops := #[]
  depth := 0
  output := ""
  journal := []

/-- How drops answer: objects of the host as the host says, loops from their states. -/
def objects (host : String → String → Option Value) (ctx : Context) : Objects
  | .object name, key => host name key
  | .loop number, key => ctx.loops[number]?.bind (·.answer key)

/-- Whether an interrupt is pending. -/
def isInterrupted (ctx : Context) : Bool :=
  !ctx.interrupts.isEmpty

/-- Notes an event. -/
def note (ctx : Context) (e : Event) : Context :=
  { ctx with journal := e :: ctx.journal }

/-- The open loops that a register holds, innermost first. -/
def openLoops (ctx : Context) (key : String) : List Nat :=
  match Bindings.find? ctx.registers key with
  | some (.loops numbers) => numbers
  | _ => []

/-- The places of rotations that a register holds. -/
def places (ctx : Context) (key : String) : Bindings Nat :=
  match Bindings.find? ctx.registers key with
  | some (.places byGroup) => byGroup
  | _ => []

/-- The partials that a register holds. -/
def partials (ctx : Context) (key : String) : Bindings (List Node) :=
  match Bindings.find? ctx.registers key with
  | some (.partials byPath) => byPath
  | _ => []

/-- Remembers something under a key. -/
def remember (ctx : Context) (key : String) (payload : Payload) : Context :=
  { ctx with registers := Bindings.insert ctx.registers key payload }

end Context

end Stencil.Render
