import Stencil.Proofs.Render.Frame

/-!
# Loops that a render leaves alone

A render counts the items of the loops that it starts, and of no others: the loops around it stand
where they stood, whether the render succeeds or fails. The stack of scopes is the same too, up to
the innermost scope that can be written to.

* `Spared` — contexts that differ in no loop with a number below a bound
* `Spares.renderAll` — the rendering of nodes leaves the loops around it alone
-/

namespace Stencil.Render

open Stencil.Markup Stencil.Template

variable {config : Config} {bound : Nat}

/-- The loops with numbers below a bound are the same afterwards, and so is the stack of scopes, up
to one scope. -/
structure Spared (bound : Nat) (before after : Context) : Prop where
  size : bound ≤ after.loops.size
  loops : ∀ number < bound, after.loops[number]? = before.loops[number]?
  scopes : before.scopes.SameBut after.scopes

namespace Spared

/-- A change of what are neither loops nor scopes. -/
theorem of_eq {before after : Context} (h : bound ≤ before.loops.size)
    (hloops : after.loops = before.loops) (hscopes : after.scopes = before.scopes) :
    Spared bound before after :=
  ⟨hloops ▸ h, fun _ _ => by rw [hloops], hscopes ▸ .refl _⟩

theorem trans {before between after : Context} (h₁ : Spared bound before between)
    (h₂ : Spared bound between after) : Spared bound before after :=
  ⟨h₂.size, fun number h => (h₂.loops number h).trans (h₁.loops number h),
    h₁.scopes.trans h₂.scopes⟩

end Spared

/-- Loading a partial changes neither loops nor scopes. -/
theorem Loads.spared {path : String} {ctx : Context} {loaded : Except Error (List Node) × Context}
    (h : Loads config path ctx loaded) (hctx : bound ≤ ctx.loops.size) :
    Spared bound ctx loaded.2 := by
  cases h with
  | cached _ => exact .of_eq hctx rfl rfl
  | missing _ _ => exact .of_eq hctx rfl rfl
  | malformed _ _ _ => exact .of_eq hctx rfl rfl
  | read _ _ _ => exact .of_eq hctx rfl rfl

/-- A render that leaves the loops with numbers below a bound alone, once so many have been
started. -/
def Spares (bound : Nat) {α : Type} (r : Render α) : Prop :=
  ∀ ctx : Context, bound ≤ ctx.loops.size → Spared bound ctx (r ctx).2

namespace Spares

/-- A render that changes neither loops nor scopes. -/
theorem of_eq {α : Type} {r : Render α} (hloops : ∀ ctx, (r ctx).2.loops = ctx.loops)
    (hscopes : ∀ ctx, (r ctx).2.scopes = ctx.scopes) : Spares bound r :=
  fun ctx hctx => .of_eq hctx (hloops ctx) (hscopes ctx)

theorem ask {α : Type} (f : Context → α) : Spares bound (ask f) :=
  of_eq (fun _ => rfl) fun _ => rfl

theorem bind {α β : Type} {r : Render α} {f : α → Render β} (hr : Spares bound r)
    (hf : ∀ a, Spares bound (f a)) : Spares bound (r >>= f) := by
  intro ctx hctx
  have hbetween := hr ctx hctx
  match hrun : r ctx with
  | (.ok a, between) =>
    rw [hrun] at hbetween
    rw [bind_apply_of_ok hrun]
    exact hbetween.trans (hf a between hbetween.size)
  | (.error e, after) =>
    rw [hrun] at hbetween
    rw [bind_apply_of_error hrun]
    exact hbetween

/-! ## Operations -/

theorem applyFilter (v : Value) (call : FilterCall) : Spares bound (applyFilter config v call) := by
  intro ctx hctx
  obtain ⟨journal, hjournal⟩ := exists_journal_applyFilter config v call ctx
  rw [hjournal]
  exact .of_eq hctx rfl rfl

theorem advanceLoop {number : Nat} (h : bound ≤ number) : Spares bound (advanceLoop number) := by
  intro ctx hctx
  refine ⟨?_, fun other hother => ?_, .refl _⟩
  · show bound ≤ (ctx.loops.modify number _).size
    rwa [Array.size_modify]
  · have hne : number ≠ other := Nat.ne_of_gt (Nat.lt_of_lt_of_le hother h)
    show (ctx.loops.modify number _)[other]? = _
    rw [Array.getElem?_modify, if_neg hne]

theorem inScope (bindings : Bindings Value) {r : Render Unit} (hr : Spares bound r) :
    Spares bound (inScope (.fixed bindings) r) := by
  intro ctx hctx
  obtain ⟨hsize, hloops, hscopes⟩ := hr { ctx with scopes := .fixed bindings :: ctx.scopes } hctx
  exact ⟨hsize, hloops, hscopes.tail⟩

theorem captured {r : Render Unit} (hr : Spares bound r) : Spares bound (captured r) := by
  intro ctx hctx
  obtain ⟨hsize, hloops, hscopes⟩ := hr { ctx with output := "" } hctx
  exact ⟨hsize, hloops, hscopes⟩

/-- A loop that is started has the next number, which is not below the bound. -/
theorem inLoop (register : String) (length : Nat) {r : Nat → Render Unit}
    (hr : ∀ number, bound ≤ number → Spares bound (r number)) :
    Spares bound (inLoop register length r) := by
  intro ctx hctx
  have hstart : bound ≤ (startLoop register length ctx).2.loops.size := by
    show bound ≤ (ctx.loops.push _).size
    rw [Array.size_push]
    omega
  obtain ⟨hsize, hloops, hscopes⟩ := hr ctx.loops.size hctx (startLoop register length ctx).2 hstart
  rw [inLoop_apply]
  refine ⟨?_, fun number hnumber => ?_, ?_⟩
  · show bound ≤ (endLoop register _).loops.size
    rw [endLoop_eq]
    exact hsize
  · show (endLoop register _).loops[number]? = _
    rw [endLoop_eq]
    refine (hloops number hnumber).trans ?_
    show (ctx.loops.push _)[number]? = _
    rw [Array.getElem?_push, if_neg (by omega)]
  · show ctx.scopes.SameBut (endLoop register _).scopes
    rw [endLoop_eq]
    exact hscopes

/-- All operations leave the loops alone that they are not for. -/
theorem respected (config : Config) (bound : Nat) :
    Respected config (fun _ => True) (bound ≤ ·) Eq fun _ r _ => Spares bound r where
  pure _ := of_eq (fun _ => rfl) fun _ => rfl
  bind := bind
  view hf := bind (ask _) fun view => hf view view rfl
  values _ hview _ _ := by rw [hview]
  applyFilter v _ _ := applyFilter v _
  emit _ := of_eq (fun _ => rfl) fun _ => rfl
  assign _ _ _ hctx := ⟨hctx, fun _ _ => rfl, .assign _ _ _⟩
  count _ _ _ := of_eq (fun _ => rfl) fun _ => rfl
  rotate _ _ := of_eq (fun _ => rfl) fun _ => rfl
  isInterrupted := ask _
  interrupt _ := of_eq (fun _ => rfl) fun _ => rfl
  takeInterrupt := of_eq (fun _ => rfl) fun _ => rfl
  advanceLoop := advanceLoop
  inScope _ _ _ hr := hr.inScope _
  captured hr := hr.captured
  inLoop length _ _ _ hr := inLoop _ length hr

/-! ## Partials -/

theorem pathOf (use : Inclusion) : Spares bound (pathOf config use) := by
  refine bind (ask _) fun view => ?_
  dsimp only
  split
  · exact of_eq (fun _ => rfl) fun _ => rfl
  · exact of_eq (fun _ => rfl) fun _ => rfl

theorem inPartial (limit : Nat) (path : String) {r : Render Unit} (hr : Spares bound r) :
    Spares bound (inPartial limit path r) := by
  intro ctx hctx
  by_cases hlt : ctx.depth < limit
  · obtain ⟨hsize, hloops, hscopes⟩ := hr (ctx.enter path) hctx
    rw [inPartial_apply_of_lt hlt]
    exact ⟨hsize, hloops, hscopes⟩
  · rw [inPartial_apply_of_le (Nat.le_of_not_lt hlt)]
    exact .of_eq hctx rfl rfl

theorem loadPartial (path : String) : Spares bound (loadPartial config path) :=
  fun ctx hctx => (loads_loadPartial config path ctx).spared hctx

theorem renderInclusion {renderBody : List Node → Render Unit}
    (hbody : ∀ nodes, Spares bound (renderBody nodes)) (use : Inclusion) :
    Spares bound (renderInclusion config (Render.loadPartial config) renderBody use) := by
  refine bind (pathOf use) fun path => inPartial _ _ ?_
  refine bind (loadPartial path) fun nodes => bind (ask _) fun view => inScope _ ?_
  exact @Respected.withTarget _ _ _ _ _ (respected config bound) _ _ _ (renderBody nodes)
    (hbody nodes)

theorem renderUnfolded {deeper : List Node → Render Unit}
    (hdeeper : ∀ nodes, Spares bound (deeper nodes)) (n : Nat) (nodes : List Node) :
    Spares bound (renderUnfolded config (Render.loadPartial config) deeper n nodes) := by
  induction n generalizing nodes with
  | zero => exact hdeeper nodes
  | succ n ih =>
    let render := Render.renderInclusion config (Render.loadPartial config)
      (Render.renderUnfolded config (Render.loadPartial config) deeper n)
    exact @renderNodes_related _ _ _ _ _ (respected config bound) _ render
      (fun use _ => renderInclusion ih use) nodes fun _ _ => trivial

/-- **The rendering of nodes leaves the loops around it alone.** -/
theorem renderAll (nodes : List Node) : Spares bound (renderAll config nodes) :=
  renderUnfolded (fun _ => of_eq (fun _ => rfl) fun _ => rfl) _ nodes

end Spares

end Stencil.Render
