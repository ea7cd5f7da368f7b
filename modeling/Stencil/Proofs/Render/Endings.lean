import Stencil.Proofs.Render.Adequacy
import Stencil.Proofs.Render.Rotations

/-!
# What the moments of a render end with

What a moment comes to is made up of what the moments that are a step further come to. So a property
of contexts holds after a moment if it holds at it, as long as single operations keep it; and an
operation has to keep it only in those contexts that it is executed in. Here this is said for
rotations: the property may be one of the places of a tag and of the rotations that are noted.

* `Moment.render` — what is done at a moment
* `Unturned` — no rotation of a tag has been executed
* `keeps_render`, `Reached.keeps` — what rotations keep holds after every moment, and at it
-/

namespace Stencil.Render

open Stencil.Markup Stencil.Template

variable {config : Config}

/-! ## What is done at a moment -/

/-- What is done at a moment. -/
def Moment.render (config : Config) (m : Moment) : Render Unit :=
  match m.task with
  | .nodes nodes => renderAll config nodes
  | .node node => renderNode config (renderUse config) node
  | .filters v calls => do
    let _ ← calls.foldlM (applyFilter config) v
    return ()
  | .branches inverted branches => renderBranches config (renderUse config) inverted branches
  | .clauses subject applied clauses =>
    renderClauses config (renderUse config) subject applied clauses
  | .visits name body =>
    match m.turns with
    | [] => return ()
    | turn :: _ =>
      visitEach turn.loop (fun item => inScope (.fixed [(name, item)]) (renderAll config body))
        (turn.items.drop turn.index)
  | .times body n => times (renderAll config body) n
  | .loaded use path nodes => do
    let view ← ask (·.view config)
    inScope (.fixed (localsOf use view))
      (withTarget (partialName path) (targetOf use path view) (renderAll config nodes))
  | .target name v nodes => withTarget name v (renderAll config nodes)
  | .each name items nodes => eachItem name (renderAll config nodes) items

/-! ## Renders that keep a property -/

/-- A property holds after a render from a context if it holds before. -/
def Keeps (I : Context → Prop) {α : Type} (r : Render α) (ctx : Context) : Prop :=
  I ctx → I (r ctx).2

namespace Keeps

variable {I : Context → Prop} {ctx : Context}

theorem pure {α : Type} (a : α) : Keeps I (Pure.pure a : Render α) ctx := id

theorem bind {α β : Type} {r : Render α} {f : α → Render β} (hr : Keeps I r ctx)
    (hf : ∀ a after, r ctx = (.ok a, after) → Keeps I (f a) after) : Keeps I (r >>= f) ctx := by
  intro hctx
  have hbetween := hr hctx
  match hrun : r ctx with
  | (.ok a, between) =>
    rw [hrun] at hbetween
    rw [bind_apply_of_ok hrun]
    exact hf a between hrun hbetween
  | (.error e, after) =>
    rw [hrun] at hbetween
    rw [bind_apply_of_error hrun]
    exact hbetween

theorem run {α : Type} {r : Render α} {result : Except Error α} {after : Context}
    (h : Keeps I r ctx) (hrun : r ctx = (result, after)) (hctx : I ctx) : I after := by
  have hafter := h hctx
  rwa [hrun] at hafter

theorem ask_bind {α β : Type} {f : Context → α} {r : α → Render β} (h : Keeps I (r (f ctx)) ctx) :
    Keeps I (ask f >>= r) ctx := h

/-- A render keeps what it keeps with its result left out. -/
theorem of_done {α : Type} {r : Render α}
    (h : Keeps I (do let _ ← r; return () : Render Unit) ctx) : Keeps I r ctx := by
  intro hctx
  have hafter := h hctx
  rw [bind_apply] at hafter
  match hrun : r ctx with
  | (.ok a, after) | (.error e, after) =>
    rw [hrun] at hafter
    exact hafter

theorem unlessInterrupted {r : Render Unit} (h : ctx.isInterrupted = false → Keeps I r ctx) :
    Keeps I (unlessInterrupted r) ctx := by
  intro hctx
  cases hpending : ctx.isInterrupted with
  | true =>
    rw [unlessInterrupted_apply_of_pending hpending]
    exact hctx
  | false =>
    rw [unlessInterrupted_apply hpending]
    exact h hpending hctx

end Keeps

/-- What is done at the moments that are a step further keeps a property. -/
def StepsKeep (config : Config) (I : Context → Prop) (m : Moment) : Prop :=
  ∀ m', Step config m m' → Keeps I (m'.render config) m'.ctx

/-! ## Rotations of a tag -/

/-- The rotation of a tag that an event tells of: its group and the place that was shown. -/
def Event.turn? (tag : String) : Event → Option (String × Nat)
  | .rotated other group place => if other = tag then some (group, place) else none
  | _ => none

/-- The rotations of a tag that have been noted, latest first. -/
def Context.rotations (ctx : Context) (tag : String) : List (String × Nat) :=
  ctx.journal.filterMap (Event.turn? tag)

/-- No rotation of a tag has been executed, and its places are the same. -/
structure Unturned (tag : String) (before after : Context) : Prop where
  places : after.places tag = before.places tag
  rotations : after.rotations tag = before.rotations tag

namespace Unturned

variable {tag : String} {before after : Context}

theorem of_eq (hregisters : after.registers = before.registers)
    (hjournal : after.journal = before.journal) : Unturned tag before after where
  places := by rw [Context.places, Context.places, hregisters]
  rotations := by rw [Context.rotations, Context.rotations, hjournal]

theorem note {e : Event} (he : e.turn? tag = none) (hregisters : after.registers = before.registers)
    (hjournal : after.journal = e :: before.journal) : Unturned tag before after where
  places := by rw [Context.places, Context.places, hregisters]
  rotations := by
    rw [Context.rotations, Context.rotations, hjournal]
    exact List.filterMap_cons_none he

theorem startLoop (htag : Apart tag) (other : String) (length : Nat) (ctx : Context) :
    Unturned tag ctx (startLoop (loopRegister other) length ctx).2 where
  places := places_startLoop htag other length ctx
  rotations := rfl

theorem endLoop (htag : Apart tag) (other : String) (ctx : Context) :
    Unturned tag ctx (endLoop (loopRegister other) ctx) where
  places := places_endLoop htag other ctx
  rotations := by rw [endLoop_eq]; rfl

theorem loads (htag : Apart tag) {path : String} {ctx : Context}
    {loaded : Except Error (List Node) × Context} (h : Loads config path ctx loaded) :
    Unturned tag ctx loaded.2 where
  places := h.places htag
  rotations := by
    cases h with
    | cached _ | missing _ _ | malformed _ _ _ | read _ _ _ => rfl

theorem rotated {r : Rotation} (h : r.tag ≠ tag) (ctx : Context) :
    Unturned tag ctx (ctx.rotated config r) where
  places := Context.places_remember_of_ne _ h _
  rotations := List.filterMap_cons_none (if_neg h)

end Unturned

/-- A property of contexts that is one of the places of a tag and of its rotations, which nothing
else moves or notes. -/
structure OfTurns (tag : String) (I : Context → Prop) : Prop where
  apart : Apart tag
  unturned : ∀ {before after}, I before → Unturned tag before after → I after

/-! ## What single operations keep -/

namespace OfTurns

variable {tag : String} {I : Context → Prop} (h : OfTurns tag I) {ctx : Context}
include h

/-- What neither registers nor journal are part of. -/
theorem of_eq {α : Type} {r : Render α} (hregisters : (r ctx).2.registers = ctx.registers)
    (hjournal : (r ctx).2.journal = ctx.journal) : Keeps I r ctx :=
  fun hctx => h.unturned hctx (.of_eq hregisters hjournal)

/-- An event that is no rotation of the tag is noted. -/
theorem note {α : Type} {r : Render α} {e : Event} (he : e.turn? tag = none)
    (hregisters : (r ctx).2.registers = ctx.registers)
    (hjournal : (r ctx).2.journal = e :: ctx.journal) : Keeps I r ctx :=
  fun hctx => h.unturned hctx (.note he hregisters hjournal)

theorem applyFilter (v : Value) (call : FilterCall) : Keeps I (applyFilter config v call) ctx := by
  rcases applyFilter_snd config v call ctx with hsame | ⟨use, hnoted⟩
  · exact h.of_eq (by rw [hsame]) (by rw [hsame])
  · refine h.note (e := .filtered use) rfl ?_ ?_
    · rw [hnoted]
      rfl
    · rw [hnoted]
      rfl

theorem inScope {scope : Scope} {r : Render Unit}
    (hr : Keeps I r { ctx with scopes := scope :: ctx.scopes }) :
    Keeps I (inScope scope r) ctx := by
  intro hctx
  have hleft := hr (h.unturned hctx (.of_eq rfl rfl))
  exact h.unturned hleft (.of_eq rfl rfl)

theorem captured {r : Render Unit} (hr : Keeps I r { ctx with output := "" }) :
    Keeps I (captured r) ctx := by
  intro hctx
  have hleft := hr (h.unturned hctx (.of_eq rfl rfl))
  exact h.unturned hleft (.of_eq rfl rfl)

/-- Between the start and the end of a loop, another render keeps the property. -/
theorem inLoop (other : String) (length : Nat) {r : Nat → Render Unit}
    (hr : Keeps I (r ctx.loops.size) (startLoop (loopRegister other) length ctx).2) :
    Keeps I (inLoop (loopRegister other) length r) ctx := by
  intro hctx
  rw [inLoop_apply]
  have hleft := hr (h.unturned hctx (.startLoop h.apart other length ctx))
  exact h.unturned hleft (.endLoop h.apart other _)

/-- A partial is active while it is rendered. -/
theorem inPartial {limit : Nat} {path : String} {r : Render Unit}
    (hr : ctx.depth < limit → Keeps I r (ctx.enter path)) :
    Keeps I (inPartial limit path r) ctx := by
  intro hctx
  by_cases hdepth : ctx.depth < limit
  · rw [inPartial_apply_of_lt hdepth]
    have henter : I (ctx.enter path) := h.unturned hctx (.note (e := .entered path) rfl rfl rfl)
    exact h.unturned (hr hdepth henter) (.note (e := .left path) rfl rfl rfl)
  · rw [inPartial_apply_of_le (Nat.le_of_not_lt hdepth)]
    exact h.unturned hctx (.note (e := .refused path) rfl rfl rfl)

end OfTurns

/-! ## What one step leads to -/

namespace OfTurns

variable {tag : String} {I : Context → Prop} {s : Surroundings}

theorem nodes {nodes : List Node} (ih : StepsKeep config I ⟨s, .nodes nodes⟩) :
    Keeps I (renderAll config nodes) s.ctx := by
  rw [renderAll_eq]
  cases nodes with
  | nil => exact .pure ()
  | cons node rest =>
    rw [renderNodes, ← renderAll_eq]
    exact .bind (ih _ .first) fun _ after hrun => .unlessInterrupted fun hgoes =>
      ih _ (.rest hrun hgoes)

variable (h : OfTurns tag I)
include h

theorem filters {v : Value} {calls : List FilterCall}
    (ih : StepsKeep config I ⟨s, .filters v calls⟩) :
    Keeps I (calls.foldlM (Render.applyFilter config) v) s.ctx := by
  cases calls with
  | nil => exact .pure v
  | cons call rest =>
    rw [List.foldlM_cons]
    exact .bind (h.applyFilter v call) fun result after hrun => .of_done (ih _ (.filter hrun))

omit h in
theorem branches {inverted : Bool} {branches : List Branch}
    (ih : StepsKeep config I ⟨s, .branches inverted branches⟩) :
    Keeps I (renderBranches config (renderUse config) inverted branches) s.ctx := by
  cases branches with
  | nil =>
    rw [renderBranches]
    exact .pure ()
  | cons branch rest =>
    obtain ⟨condition, body⟩ := branch
    rw [renderBranches, ← renderAll_eq]
    refine .ask_bind ?_
    cases htaken : isTaken inverted condition (s.ctx.view config) with
    | true => exact ih _ (.taken htaken)
    | false => exact ih _ (.notTaken htaken)

omit h in
theorem clauses {subject : Value} {applied : Bool} {clauses : List Clause}
    (ih : StepsKeep config I ⟨s, .clauses subject applied clauses⟩) :
    Keeps I (renderClauses config (renderUse config) subject applied clauses) s.ctx := by
  cases clauses with
  | nil =>
    rw [renderClauses]
    exact .pure ()
  | cons clause rest =>
    obtain ⟨label, body⟩ := clause
    cases label with
    | otherwise =>
      rw [renderClauses, ← renderAll_eq]
      cases applied with
      | true => exact ih _ .passed
      | false => exact ih _ .otherwise
    | among values =>
      rw [renderClauses, ← renderAll_eq]
      refine .ask_bind ?_
      cases happlies : applies values subject (s.ctx.view config) with
      | true =>
        exact .bind (ih _ (.applies happlies)) fun _ after hrun => .unlessInterrupted fun hgoes =>
          ih _ (.applied happlies hrun hgoes)
      | false => exact ih _ (.unlike happlies)

omit h in
theorem times {body : List Node} {n : Nat} (ih : StepsKeep config I ⟨s, .times body n⟩) :
    Keeps I (times (renderAll config body) n) s.ctx := by
  cases n with
  | zero => exact .pure ()
  | succ n => exact .bind (ih _ .time) fun _ after hrun => ih _ (.again hrun)

theorem each {name : String} {items : List Value} {nodes : List Node}
    (ih : StepsKeep config I ⟨s, .each name items nodes⟩) :
    Keeps I (eachItem name (renderAll config nodes) items) s.ctx := by
  cases items with
  | nil => exact .pure ()
  | cons item rest =>
    exact .bind (h.inScope (ih _ .item)) fun _ after hrun => .unlessInterrupted fun hgoes =>
      ih _ (.nextItem hrun hgoes)

theorem target {name : String} {v : Value} {nodes : List Node}
    (ih : StepsKeep config I ⟨s, .target name v nodes⟩) :
    Keeps I (withTarget name v (renderAll config nodes)) s.ctx := by
  cases v with
  | nil => exact ih _ .unbound
  | array items => exact ih _ .items
  | _ => exact h.inScope (ih _ (.single rfl rfl))

/-- A loop visits its item, and then the items behind it unless it is left. -/
theorem visits {name : String} {body : List Node} (ih : StepsKeep config I ⟨s, .visits name body⟩) :
    Keeps I (Moment.render config ⟨s, .visits name body⟩) s.ctx := by
  cases hturns : s.turns with
  | nil =>
    simp only [Moment.render, hturns]
    exact .pure ()
  | cons turn outer =>
    let visitItem := fun item => Render.inScope (.fixed [(name, item)]) (renderAll config body)
    have hitems : turn.items.drop turn.index = turn.item :: turn.items.drop (turn.index + 1) :=
      List.drop_eq_getElem_cons turn.index.isLt
    have hvisits : Moment.render config ⟨s, .visits name body⟩ =
        visitEach turn.loop visitItem (turn.item :: turn.items.drop (turn.index + 1)) := by
      simp only [Moment.render, hturns, hitems, visitItem]
    have hbody : Keeps I (visitItem turn.item) s.ctx := h.inScope (ih _ (.visit hturns))
    intro hctx
    have hleft := hbody hctx
    rw [hvisits]
    match hrun : visitItem turn.item s.ctx with
    | (.error cause, left) =>
      rw [hrun] at hleft
      rw [visitEach, bind_apply_of_error hrun]
      exact hleft
    | (.ok (), left) =>
      rw [hrun] at hleft
      have hafter : I (afterVisit turn.loop left) := h.unturned hleft (.of_eq rfl rfl)
      rw [visitEach_cons_of_ok hrun]
      split
      · exact hafter
      · rename_i hgoes
        by_cases hnext : turn.index + 1 < turn.items.length
        · exact ih _ (.next hnext hturns hrun hgoes) hafter
        · -- Behind the last item there is no further visit.
          rw [List.drop_eq_nil_of_le (Nat.le_of_not_lt hnext)]
          exact hafter

theorem loop {loopTag : String} {header : LoopHeader} {body : List Node}
    {otherwise : Option (List Node)}
    (ih : StepsKeep config I ⟨s, .node (.loop loopTag header body otherwise)⟩) :
    Keeps I (renderNode config (renderUse config) (.loop loopTag header body otherwise)) s.ctx := by
  have hlength := length_itemsAt config header s.ctx
  cases hitems : itemsAt config header s.ctx with
  | nil =>
    have hcount : (itemsOf header (s.ctx.view config)).count = 0 := by
      rw [← hlength, hitems, List.length_nil]
    intro hctx
    rw [renderNode_loop_apply_empty _ hcount]
    cases otherwise with
    | none => exact hctx
    | some nodes =>
      rw [Option.elim_some, ← renderAll_eq]
      exact ih _ (.empty hitems) hctx
  | cons item rest =>
    have hsome : 0 < (itemsAt config header s.ctx).length := by
      rw [hitems]
      exact Nat.succ_pos _
    have hrun : Keeps I (runLoop loopTag header.item (itemsOf header (s.ctx.view config))
        (renderAll config body)) s.ctx := by
      rw [runLoop, ← hlength]
      refine h.inLoop _ _ (h.inScope ?_)
      rw [visit_eq_visitEach _ _ (Nat.le_of_eq hlength.symm)]
      exact ih _ (.loop hsome)
    intro hctx
    rw [renderNode_loop_apply _ (hlength ▸ Nat.ne_of_gt hsome), ← renderAll_eq]
    exact hrun hctx

theorem inclusion {use : Inclusion} (ih : StepsKeep config I ⟨s, .node (.inclusion use)⟩) :
    Keeps I (renderUse config use) s.ctx := by
  refine .bind ?_ fun path after hpath => ?_
  · have hsame := pathOf_snd config use s.ctx
    exact h.of_eq (by rw [hsame]) (by rw [hsame])
  · obtain rfl : s.ctx = after := by
      rw [← pathOf_snd config use s.ctx, hpath]
    refine h.inPartial fun hdepth => .bind ?_ fun nodes after hload => ?_
    · exact fun hctx => h.unturned hctx (.loads h.apart (loads_loadPartial config path _))
    · exact ih _ (.inclusion hpath hdepth hload)

/-- What is done at a node, if rotations keep the property. -/
theorem node {node : Node}
    (hrotate : ∀ r, node = .rotation r → Keeps I (rotate config r) s.ctx)
    (ih : StepsKeep config I ⟨s, .node node⟩) :
    Keeps I (renderNode config (renderUse config) node) s.ctx := by
  cases node with
  | loop loopTag header body otherwise => exact h.loop ih
  | text content =>
    rw [renderNode]
    exact h.of_eq rfl rfl
  | output pipeline =>
    rw [renderNode]
    exact .bind (.of_done (ih _ .output)) fun _ _ _ => h.of_eq rfl rfl
  | assign name pipeline =>
    rw [renderNode]
    exact .bind (.of_done (ih _ .assign)) fun _ _ _ => h.of_eq rfl rfl
  | conditional inverted branches =>
    rw [renderNode]
    exact ih _ .conditional
  | choice subject clauses =>
    rw [renderNode]
    exact .ask_bind (ih _ .choice)
  | rotation r =>
    rw [renderNode]
    exact hrotate r rfl
  | capture name body =>
    rw [renderNode, ← renderAll_eq]
    exact .bind (h.captured (ih _ .capture)) fun _ _ _ => h.of_eq rfl rfl
  | comment =>
    rw [renderNode]
    exact .pure ()
  | counter direction name =>
    rw [renderNode]
    exact h.note (e := .counted direction name _ _) rfl rfl rfl
  | interrupt kind =>
    rw [renderNode]
    exact h.note (e := .interrupted _) rfl rfl rfl
  | inclusion use =>
    rw [renderNode]
    exact h.inclusion ih
  | repetition n body =>
    rw [renderNode, ← renderAll_eq]
    exact .ask_bind (ih _ .repetition)

/-- **What one step preserves:** what is done at a moment keeps the property if what is done at the
moments a step further does, and rotations of the tag do. -/
theorem moment {m : Moment}
    (hrotate : ∀ r, m.task = .node (.rotation r) → r.tag = tag → Keeps I (rotate config r) m.ctx)
    (ih : StepsKeep config I m) :
    Keeps I (m.render config) m.ctx := by
  obtain ⟨s, task⟩ := m
  cases task with
  | nodes ns => exact nodes ih
  | node n =>
    refine h.node (fun r hr => ?_) ih
    by_cases htag : r.tag = tag
    · exact hrotate r (congrArg Task.node hr) htag
    · intro hctx
      rw [rotate_apply]
      exact h.unturned hctx (.rotated htag s.ctx)
  | filters v calls => exact .bind (h.filters ih) fun _ _ _ => .pure ()
  | branches inverted bs => exact branches ih
  | clauses subject applied cs => exact clauses ih
  | visits name body => exact h.visits ih
  | times body n => exact times ih
  | loaded use path ns => exact .ask_bind (h.inScope (ih _ .locals))
  | target name v ns => exact h.target ih
  | each name items ns => exact h.each ih

/-- **What is done at a moment keeps the property** if all rotations of the tag do that are executed
from there. -/
theorem render {m : Moment}
    (hrotate : ∀ s r, Relation.ReflTransGen (Step config) m ⟨s, .node (.rotation r)⟩ →
      r.tag = tag → Keeps I (rotate config r) s.ctx) :
    Keeps I (m.render config) m.ctx := by
  induction m using (step_wellFounded config).induction with
  | h m ih =>
    refine h.moment (fun r hr htag => ?_) fun m' hstep => ?_
    · obtain ⟨s, task⟩ := m
      obtain rfl : task = .node (.rotation r) := hr
      exact hrotate s r .refl htag
    · exact ih m' hstep fun s r hreached => hrotate s r (.head hstep hreached)

/-- **What holds at a moment holds at the moments a step further,** if what is done at these keeps
it. -/
theorem step {m m' : Moment} (hstep : Step config m m')
    (hrender : StepsKeep config I m) (hm : I m.ctx) :
    I m'.ctx := by
  have hwithin : ∀ {s : Surroundings} {bindings : Bindings Value}, I s.ctx →
      I (s.within bindings).ctx := fun hs => h.unturned hs (.of_eq rfl rfl)
  cases hstep with
  | rest hrun _ => exact Keeps.run (hrender _ .first) hrun hm
  | filter hrun => exact (h.applyFilter _ _).run hrun hm
  | @loop s loopTag header body otherwise hitems =>
    have hstart := h.unturned hm
      (.startLoop h.apart loopTag (itemsAt config header s.ctx).length s.ctx)
    exact h.unturned hstart (.of_eq rfl rfl)
  | visit _ | single _ _ | locals | item => exact hwithin hm
  | next _ hturns hrun _ =>
    exact h.unturned ((h.inScope (hrender _ (.visit hturns))).run hrun hm) (.of_eq rfl rfl)
  | applied happlies hrun _ => exact Keeps.run (hrender _ (.applies happlies)) hrun hm
  | capture => exact h.unturned hm (.of_eq rfl rfl)
  | again hrun => exact Keeps.run (hrender _ .time) hrun hm
  | @inclusion s use path nodes after _ _ hload =>
    have henter : I (s.ctx.enter path) := h.unturned hm (.note (e := .entered path) rfl rfl rfl)
    have hloads := loads_loadPartial config path (s.ctx.enter path)
    rw [hload] at hloads
    exact h.unturned henter (.loads h.apart hloads)
  | nextItem hrun _ => exact (h.inScope (hrender _ .item)).run hrun hm
  | first | output | assign | conditional | taken _ | notTaken _ | empty _ | choice | otherwise
  | passed | applies _ | unlike _ | repetition | time | unbound | items => exact hm

end OfTurns

/-! ## Whole renders -/

section WholeRenders

variable {t : Template} {data : Bindings Value} {tag : String} {I : Context → Prop}

/-- Rotations of a tag keep a property wherever they are executed in the render of a template. -/
def RotationsKeep (t : Template) (data : Bindings Value) (tag : String) (I : Context → Prop) :
    Prop :=
  ∀ s r, Reached t data ⟨s, .node (.rotation r)⟩ → r.tag = tag → I s.ctx →
    I (s.ctx.rotated t.config r)

/-- What is done at a moment of the render keeps the property. -/
theorem Reached.render_keeps (h : OfTurns tag I) (hrotate : RotationsKeep t data tag I) {m : Moment}
    (hm : Reached t data m) : Keeps I (m.render t.config) m.ctx := by
  refine h.render fun s r hreached htag hctx => ?_
  rw [rotate_apply]
  exact hrotate s r (hm.trans hreached) htag hctx

/-- **What a whole render preserves:** the property holds at all moments. -/
theorem Reached.keeps (h : OfTurns tag I) (hrotate : RotationsKeep t data tag I)
    (hstart : I (.start data t.counters)) {m : Moment} (hm : Reached t data m) : I m.ctx := by
  induction hm with
  | refl => exact hstart
  | tail hbefore hstep ih =>
    have hrender := fun m' hstep' =>
      @Reached.render_keeps t data tag I h hrotate m' (hbefore.tail hstep')
    exact h.step hstep hrender ih

/-- The property holds at the end of the render. -/
theorem render_keeps (h : OfTurns tag I) (hrotate : RotationsKeep t data tag I)
    (hstart : I (.start data t.counters)) :
    I (renderAll t.config t.nodes (.start data t.counters)).2 :=
  (@Reached.render_keeps t data tag I h hrotate (.start t data) .refl) hstart

end WholeRenders

end Stencil.Render
