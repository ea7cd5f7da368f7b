import Stencil.Proofs.Render.Kept

/-!
# What renders write

A render adds text at the end of what has been written, and nothing that it does depends on what
stands there already. So what nodes write is said by a render that starts with nothing written.

* `Appends` — a render that only adds to the output and does not depend on it
* `appended` — the text that nodes write
* `renderAll_output` — the output is what it was, and behind it what the nodes write
-/

namespace Stencil.Render

open Stencil.Markup Stencil.Template

variable {config : Config}

/-- The context with further text in front of what has been written. -/
def Context.behind (text : String) (ctx : Context) : Context :=
  { ctx with output := text ++ ctx.output }

theorem Context.behind_output (ctx : Context) :
    { ctx with output := "" }.behind ctx.output = ctx := by
  simp [behind]

/-- A render only adds to what has been written, and does not depend on it: with further text in
front it comes to the same, with that text in front. -/
def Appends {α : Type} (r : Render α) : Prop :=
  ∀ text ctx, r (ctx.behind text) = ((r ctx).1, (r ctx).2.behind text)

namespace Appends

/-! ## Operations -/

theorem pure {α : Type} (a : α) : Appends (Pure.pure a : Render α) := fun _ _ => rfl

theorem bind {α β : Type} {r : Render α} {f : α → Render β} (hr : Appends r)
    (hf : ∀ a, Appends (f a)) : Appends (r >>= f) := by
  intro text ctx
  have hrun := hr text ctx
  match h : r ctx with
  | (.error e, after) =>
    rw [h] at hrun
    rw [bind_apply_of_error h]
    exact bind_apply_of_error hrun f
  | (.ok a, between) =>
    rw [h] at hrun
    rw [bind_apply_of_ok h, bind_apply_of_ok hrun]
    exact hf a text between

/-- What does not look at the output. -/
theorem ask {α : Type} {f : Context → α} (hf : ∀ text ctx, f (ctx.behind text) = f ctx) :
    Appends (ask f) :=
  fun text ctx => congrArg (fun a => (Except.ok a, ctx.behind text)) (hf text ctx)

/-- What changes another part of the context than the output. -/
theorem change {f : Context → Context}
    (hf : ∀ text ctx, f (ctx.behind text) = (f ctx).behind text) : Appends (change f) :=
  fun text ctx => congrArg (Prod.mk _) (hf text ctx)

theorem note (e : Event) : Appends (note e) := change fun _ _ => rfl

theorem emit (text : String) : Appends (emit text) :=
  change fun before ctx => by simp [Context.behind, String.append_assoc]

theorem applyFilter (v : Value) (call : FilterCall) : Appends (applyFilter config v call) := by
  intro text ctx
  cases hfilter : Bindings.find? config.filters call.name with
  | none => rw [applyFilter_apply_none hfilter, applyFilter_apply_none hfilter]
  | some filter =>
    obtain ⟨operation, observed⟩ := filter
    rw [applyFilter_apply hfilter, applyFilter_apply hfilter]
    cases observed <;> rfl

theorem count (direction : Direction) (name : String) : Appends (count direction name) :=
  bind (ask fun _ _ => rfl) fun _ => bind (change fun _ _ => rfl) fun _ =>
    bind (note _) fun _ => emit _

theorem rotate (r : Rotation) : Appends (rotate config r) :=
  bind (ask fun _ _ => rfl) fun _ => bind (ask fun _ _ => rfl) fun _ =>
    bind (emit _) fun _ => bind (note _) fun _ => change fun _ _ => rfl

theorem inScope (scope : Scope) {r : Render Unit} (hr : Appends r) : Appends (inScope scope r) :=
  fun text ctx =>
    let close (c : Context) : Context := { c with scopes := c.scopes.tail }
    congrArg (Prod.map id close) (hr text { ctx with scopes := scope :: ctx.scopes })

/-- What is captured starts with nothing written, so what stands in front makes no difference. -/
theorem captured (r : Render Unit) : Appends (captured r) := fun _ _ => rfl

theorem inLoop (register : String) (length : Nat) {r : Nat → Render Unit}
    (hr : ∀ number, Appends (r number)) : Appends (inLoop register length r) := by
  intro text ctx
  rw [inLoop_apply, inLoop_apply]
  have hrun := hr ctx.loops.size text (startLoop register length ctx).2
  have hend : ∀ left : Context,
      endLoop register (left.behind text) = (endLoop register left).behind text := fun left => by
    rw [endLoop_eq, endLoop_eq]
    rfl
  exact (congrArg (Prod.map id (endLoop register)) hrun).trans (congrArg (Prod.mk _) (hend _))

/-- No operation depends on what has been written. -/
theorem respected (config : Config) :
    Respected config (fun _ => True) (fun _ => True) Eq fun _ r _ => Appends r where
  pure a := pure a
  bind := bind
  view hf := bind (ask fun _ _ => rfl) fun view => hf view view rfl
  values _ hview _ _ := by rw [hview]
  applyFilter v _ _ := applyFilter v _
  emit text := emit text
  assign _ _ := change fun _ _ => rfl
  count direction name _ := count direction name
  rotate r _ := rotate r
  isInterrupted := ask fun _ _ => rfl
  interrupt _ := change fun _ _ => rfl
  takeInterrupt _ _ := rfl
  advanceLoop _ := change fun _ _ => rfl
  inScope _ _ _ hr := hr.inScope _
  captured {r _} _ := captured r
  inLoop length _ _ _ hr := inLoop _ length fun number => hr number trivial

/-! ## Partials -/

theorem pathOf (use : Inclusion) : Appends (pathOf config use) := by
  refine bind (ask fun _ _ => rfl) fun view => ?_
  dsimp only
  split
  · exact fun _ _ => rfl
  · exact pure _

theorem inPartial (limit : Nat) (path : String) {r : Render Unit} (hr : Appends r) :
    Appends (inPartial limit path r) := by
  intro text ctx
  by_cases hlt : ctx.depth < limit
  · have hlt' : (ctx.behind text).depth < limit := hlt
    rw [inPartial_apply_of_lt hlt, inPartial_apply_of_lt hlt']
    exact congrArg (Prod.map id (leavePartial path)) (hr text (ctx.enter path))
  · have hle : limit ≤ (ctx.behind text).depth := Nat.le_of_not_lt hlt
    rw [inPartial_apply_of_le (Nat.le_of_not_lt hlt), inPartial_apply_of_le hle]
    rfl

theorem loadPartial (path : String) : Appends (loadPartial config path) := by
  refine bind (ask fun _ _ => rfl) fun known => ?_
  cases Bindings.find? known path with
  | some nodes => exact bind (change fun _ _ => rfl) fun _ => pure nodes
  | none =>
    cases readPartial config path with
    | error cause =>
      have hkept : Appends (do
          Render.change (·.remember partialsRegister (.partials known))
          throw cause : Render (List Node)) := bind (change fun _ _ => rfl) fun _ _ _ => rfl
      dsimp only
      split
      · exact bind (note _) fun _ => hkept
      · exact hkept
    | ok nodes =>
      have hread : Appends (do
          Render.change (·.remember partialsRegister (.partials (Bindings.insert known path nodes)))
          return nodes : Render (List Node)) := bind (change fun _ _ => rfl) fun _ => pure nodes
      dsimp only
      split
      · exact bind (note _) fun _ => hread
      · exact hread

theorem renderInclusion {renderBody : List Node → Render Unit}
    (hbody : ∀ nodes, Appends (renderBody nodes)) (use : Inclusion) :
    Appends (renderInclusion config (Render.loadPartial config) renderBody use) := by
  refine bind (pathOf use) fun path => inPartial _ path ?_
  refine bind (loadPartial path) fun nodes => bind (ask fun _ _ => rfl) fun view => ?_
  let target := use.target.elim (view.read (partialName path)) (·.value view)
  let body := renderBody nodes
  exact inScope _ (@Respected.withTarget _ _ _ _ _ (respected config) _ target _ body (hbody nodes))

theorem renderAll (nodes : List Node) : Appends (renderAll config nodes) := by
  unfold Render.renderAll
  generalize config.settings.maxIncludeDepth + 1 = n
  induction n generalizing nodes with
  | zero => exact pure ()
  | succ n ih =>
    let render := Render.renderInclusion config (Render.loadPartial config)
      (renderUnfolded config (Render.loadPartial config) (fun _ => return ()) n)
    exact @renderNodes_related _ _ _ _ _ (respected config) _ render
      (fun use _ => renderInclusion ih use) nodes fun _ _ => trivial

end Appends

/-! ## What nodes write -/

/-- The text that nodes write when they are rendered in a context. -/
def appended (config : Config) (nodes : List Node) (ctx : Context) : String :=
  (renderAll config nodes { ctx with output := "" }).2.output

/-- **The output is what it was, and behind it what the nodes write,** whether rendering them fails
or not. -/
theorem renderAll_output (nodes : List Node) (ctx : Context) :
    (renderAll config nodes ctx).2.output = ctx.output ++ appended config nodes ctx := by
  have h := @Appends.renderAll config nodes ctx.output { ctx with output := "" }
  rw [ctx.behind_output] at h
  rw [h]
  rfl

end Stencil.Render
