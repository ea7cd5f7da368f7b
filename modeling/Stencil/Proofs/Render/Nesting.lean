import Mathlib.Data.List.Infix
import Stencil.Proofs.Render.Kept
import Stencil.Proofs.Render.Visiting
import Stencil.Template

/-!
# Nesting of partials

Partials may use each other in circles, and which one is used is known only while rendering. Since
no more of them become active than the settings allow, rendering ends all the same.

* `Accounted` — the number of active partials is that of the history, which breaks no rule
* `renderUnfolded_eq_renderAll` — what lies deeper than partials can nest is never rendered
* `render_nesting` — rendering ends, and a partial is refused just when as many are active as may be
-/

namespace Stencil.Render

open Stencil.Markup Stencil.Template

/-! ## Histories -/

/-- The number of partials that are active after some events. -/
def activeAfter (events : List Event) : Int :=
  (events.countP fun | .entered _ => true | _ => false : Nat) -
    (events.countP fun | .left _ => true | _ => false : Nat)

theorem activeAfter_reverse (events : List Event) :
    activeAfter events.reverse = activeAfter events := by
  simp [activeAfter]

theorem activeAfter_cons (e : Event) (events : List Event) :
    activeAfter (e :: events) = activeAfter events +
      match e with
      | .entered _ => 1
      | .left _ => -1
      | _ => 0 := by
  cases e <;> simp [activeAfter] <;> omega

/-- Whether an event may follow others: a partial becomes active only if fewer than the limit are,
is refused only if as many are, and is left only if some are. -/
def MayFollow (limit : Nat) (earlier : List Event) : Event → Prop
  | .entered _ => activeAfter earlier < limit
  | .left _ => 0 < activeAfter earlier
  | .refused _ => activeAfter earlier = limit
  | _ => True

/-- Every event may follow those before it. The latest comes first. -/
def Lawful (limit : Nat) : List Event → Prop
  | [] => True
  | e :: earlier => MayFollow limit earlier e ∧ Lawful limit earlier

theorem Lawful.of_suffix {limit : Nat} {events moment : List Event} (h : Lawful limit events)
    (hsuffix : moment <:+ events) : Lawful limit moment := by
  induction events with
  | nil =>
    obtain rfl := List.suffix_nil.mp hsuffix
    trivial
  | cons e earlier ih =>
    rcases List.suffix_cons_iff.mp hsuffix with rfl | hsuffix
    · exact h
    · exact ih h.2 hsuffix

/-- At no moment are more partials active than the limit, or fewer than none. -/
theorem Lawful.activeAfter_le {limit : Nat} {events : List Event} (h : Lawful limit events) :
    0 ≤ activeAfter events ∧ activeAfter events ≤ limit := by
  induction events with
  | nil => simp [activeAfter]
  | cons e earlier ih =>
    have hearlier := ih h.2
    have hmay := h.1
    rw [activeAfter_cons]
    cases e <;> simp only [MayFollow] at hmay ⊢ <;> omega

/-- No partial has been refused. -/
def Unrefused (events : List Event) : Prop := ∀ path, .refused path ∉ events

theorem unrefused_cons {e : Event} {events : List Event} :
    Unrefused (e :: events) ↔ (∀ path, e ≠ .refused path) ∧ Unrefused events := by
  constructor
  · intro h
    refine ⟨?_, fun path hmem => h path (List.mem_cons_of_mem e hmem)⟩
    rintro path rfl
    exact h path List.mem_cons_self
  · rintro ⟨he, h⟩ path hmem
    rcases List.mem_cons.mp hmem with rfl | hmem
    · exact he path rfl
    · exact h path hmem

/-- A partial has been refused, and then only active ones were left. -/
def Refused (path : String) (events : List Event) : Prop :=
  ∃ since earlier, events = since ++ .refused path :: earlier ∧
    (∀ e ∈ since, ∃ other, e = .left other) ∧ Unrefused earlier

/-- What the history tells of the error that a render ends with. -/
def Outcome (e : Option Error) (events : List Event) : Prop :=
  match e with
  | some (.rendering (.includeDepthExceeded path)) => Refused path events
  | _ => Unrefused events

/-- A history breaks no rule and tells how many partials are active. -/
structure Accounted (limit depth : Nat) (history : List Event) : Prop where
  depth : (depth : Int) = activeAfter history
  lawful : Lawful limit history

/-- A render leaves as many partials active as there were, adds to the history, breaks no rule, and
ends with the error that the history tells of. -/
structure Nested (limit : Nat) (before : Context) (e : Option Error) (after : Context) : Prop where
  depth : after.depth = before.depth
  history : before.journal <:+ after.journal
  accounted : Accounted limit before.depth before.journal → Unrefused before.journal →
    Accounted limit after.depth after.journal ∧ Outcome e after.journal

namespace Nested

variable {limit : Nat}

/-- A change that neither the depth nor the history is part of. -/
theorem of_eq {before after : Context} (hdepth : after.depth = before.depth)
    (hjournal : after.journal = before.journal) : Nested limit before none after := by
  refine ⟨hdepth, hjournal ▸ List.suffix_refl _, fun haccounted hunrefused => ?_⟩
  exact ⟨⟨by rw [hdepth, hjournal]; exact haccounted.depth, hjournal ▸ haccounted.lawful⟩,
    show Unrefused after.journal from hjournal ▸ hunrefused⟩

/-- An event that has nothing to do with partials. -/
theorem note {before after : Context} {e : Event} (hdepth : after.depth = before.depth)
    (hjournal : after.journal = e :: before.journal)
    (he : ∀ path, e ≠ .entered path ∧ e ≠ .left path ∧ e ≠ .refused path) :
    Nested limit before none after := by
  have hactive : activeAfter (e :: before.journal) = activeAfter before.journal := by
    rw [activeAfter_cons]
    cases e <;> simp_all
  have hmay : MayFollow limit before.journal e := by
    cases e <;> simp_all [MayFollow]
  refine ⟨hdepth, hjournal ▸ List.suffix_cons _ _, fun haccounted hunrefused => ⟨⟨?_, ?_⟩, ?_⟩⟩
  · rw [hdepth, hjournal, hactive]
    exact haccounted.depth
  · rw [hjournal]
    exact ⟨hmay, haccounted.lawful⟩
  · show Unrefused after.journal
    rw [hjournal]
    exact unrefused_cons.mpr ⟨fun path => (he path).2.2, hunrefused⟩

theorem trans {before between after : Context} {e : Option Error}
    (h₁ : Nested limit before none between) (h₂ : Nested limit between e after) :
    Nested limit before e after := by
  refine ⟨h₂.depth.trans h₁.depth, h₁.history.trans h₂.history, fun haccounted hunrefused => ?_⟩
  obtain ⟨hbetween, hunrefused'⟩ := h₁.accounted haccounted hunrefused
  exact h₂.accounted hbetween hunrefused'

/-- An error that is not about nesting, without a change. -/
theorem fail {ctx : Context} {cause : Error}
    (hcause : ∀ path, cause ≠ .rendering (.includeDepthExceeded path)) :
    Nested limit ctx (some cause) ctx := by
  refine ⟨rfl, List.suffix_refl _, fun haccounted hunrefused => ⟨haccounted, ?_⟩⟩
  unfold Outcome
  split
  · rename_i path heq
    exact absurd (Option.some.inj heq) (hcause path)
  · exact hunrefused

/-- An error that is not about nesting, after a change. -/
theorem thenFail {before after : Context} {cause : Error} (h : Nested limit before none after)
    (hcause : ∀ path, cause ≠ .rendering (.includeDepthExceeded path)) :
    Nested limit before (some cause) after :=
  h.trans (fail hcause)

/-- Refusing a partial when as many are active as may be. -/
theorem refused {ctx : Context} {path : String} (hdepth : limit ≤ ctx.depth) :
    Nested limit ctx (some (.rendering (.includeDepthExceeded path)))
      (ctx.note (.refused path)) := by
  refine ⟨rfl, List.suffix_cons _ _, fun haccounted hunrefused => ⟨⟨?_, ?_, haccounted.lawful⟩, ?_⟩⟩
  · show (ctx.depth : Int) = activeAfter (.refused path :: ctx.journal)
    rw [activeAfter_cons, haccounted.depth]
    simp
  · show activeAfter ctx.journal = limit
    obtain ⟨-, hle⟩ := haccounted.lawful.activeAfter_le
    have hactive := haccounted.depth
    omega
  · exact ⟨[], ctx.journal, rfl, by simp, hunrefused⟩

/-- Leaving a partial adds no refusal. -/
theorem outcome_left {e : Option Error} {events : List Event} (h : Outcome e events)
    (path : String) : Outcome e (.left path :: events) := by
  unfold Outcome at h ⊢
  split
  · obtain ⟨since, earlier, rfl, hsince, hearlier⟩ := h
    refine ⟨.left path :: since, earlier, rfl, ?_, hearlier⟩
    exact List.forall_mem_cons.mpr ⟨⟨path, rfl⟩, hsince⟩
  · rename_i hne
    split at h
    · exact absurd rfl (hne _)
    · exact unrefused_cons.mpr ⟨by simp, h⟩

/-- What is nested in an active partial is nested outside of it once it is left. -/
theorem inPartial {ctx after : Context} {path : String} {e : Option Error}
    (hdepth : ctx.depth < limit)
    (h : Nested limit (ctx.enter path) e after) : Nested limit ctx e (leavePartial path after) := by
  have hafter : after.depth = ctx.depth + 1 := h.depth
  refine ⟨?_, (List.suffix_cons _ _).trans (h.history.trans (List.suffix_cons _ _)),
    fun haccounted hunrefused => ?_⟩
  · show after.depth - 1 = ctx.depth
    omega
  · have hentered : Accounted limit (ctx.depth + 1) (.entered path :: ctx.journal) := by
      refine ⟨?_, ?_, haccounted.lawful⟩
      · show ((ctx.depth + 1 : Nat) : Int) = activeAfter (.entered path :: ctx.journal)
        rw [activeAfter_cons, ← haccounted.depth]
        simp
      · show activeAfter ctx.journal < limit
        have hactive := haccounted.depth
        omega
    have hunrefused' : Unrefused (.entered path :: ctx.journal) :=
      unrefused_cons.mpr ⟨by simp, hunrefused⟩
    -- What happens within starts one deeper, from a history that `.entered` has joined.
    obtain ⟨hinside, houtcome⟩ := h.accounted hentered hunrefused'
    have hactive := hinside.depth
    refine ⟨⟨?_, ?_, hinside.lawful⟩, outcome_left houtcome path⟩
    · show ((after.depth - 1 : Nat) : Int) = activeAfter (.left path :: after.journal)
      rw [activeAfter_cons, ← hactive]
      simp only
      omega
    · show 0 < activeAfter after.journal
      omega

/-- Ending a loop changes neither the depth nor the history. -/
theorem endLoop {ctx after : Context} {register : String} {length : Nat} {e : Option Error}
    (h : Nested limit (startLoop register length ctx).2 e after) :
    Nested limit ctx e (Render.endLoop register after) := by
  rw [endLoop_eq]
  exact ⟨h.depth, h.history, h.accounted⟩

theorem loads {config : Config} {path : String} {ctx : Context}
    {loaded : Except Error (List Node) × Context} (h : Loads config path ctx loaded) :
    Nested limit ctx (failure loaded.1) loaded.2 := by
  cases h with
  | cached _ => exact of_eq rfl rfl
  | missing _ _ =>
    refine thenFail (of_eq rfl rfl) ?_
    simp
  | malformed _ _ _ =>
    refine thenFail (note rfl rfl ?_) ?_
    · simp
    · simp
  | read _ _ _ => exact note rfl rfl (by simp)

/-- Every operation keeps partials nested. -/
theorem kept (config : Config) :
    Kept config (fun _ => True) (Nested config.settings.maxIncludeDepth) where
  refl ctx := of_eq rfl rfl
  trans := trans
  fault ctx cause _ _ hcause := fail (by rintro path heq; cases heq; exact hcause.isFilterFault)
  filtered ctx use := note rfl rfl (by simp)
  emit ctx text := of_eq rfl rfl
  assign ctx name v := of_eq rfl rfl
  count ctx direction name _ := note (e := .counted direction name _ _) rfl rfl (by simp)
  rotate ctx r _ := note (e := .rotated r.tag _ _) rfl rfl (by simp)
  interrupt ctx kind := note (e := .interrupted _) rfl rfl (by simp)
  takeInterrupt ctx := of_eq rfl rfl
  advanceLoop ctx number := of_eq rfl rfl
  inScope h := ⟨h.depth, h.history, h.accounted⟩
  captured h := ⟨h.depth, h.history, h.accounted⟩
  inLoop _ h := h.endLoop
  emptyName ctx _ := fail (by simp)
  refused ctx path _ hdepth := refused hdepth
  inPartial hdepth h := h.inPartial hdepth
  loads _ h := loads h

end Nested

/-! ## Unfolding -/

/-- From a number of active partials, two renders do the same, and leave as many active. -/
structure SameAt (depth : Nat) (α : Type) (r r' : Render α) : Prop where
  apply : ∀ ctx, ctx.depth = depth → r ctx = r' ctx
  depth : ∀ ctx, ctx.depth = depth → (r ctx).2.depth = depth

namespace SameAt

variable {config : Config} {depth : Nat}

/-- A render that keeps partials nested does the same as itself. -/
theorem of_sat {limit : Nat} {α : Type} {r : Render α}
    (hr : Sat (fun _ => True) (Nested limit) r) : SameAt depth α r r := by
  refine ⟨fun _ _ => rfl, fun ctx hctx => ?_⟩
  obtain ⟨hnested, -⟩ := hr ctx ctx.caches_true
  exact hnested.depth.trans hctx

theorem bind {α β : Type} {r r' : Render α} {f f' : α → Render β} (hr : SameAt depth α r r')
    (hf : ∀ a, SameAt depth β (f a) (f' a)) : SameAt depth β (r >>= f) (r' >>= f') := by
  constructor
  · intro ctx hctx
    have hbetween := hr.depth ctx hctx
    rw [bind_apply, bind_apply, ← hr.apply ctx hctx]
    match hrun : r ctx with
    | (.ok a, between) =>
      rw [hrun] at hbetween
      exact (hf a).apply between hbetween
    | (.error e, after) => rfl
  · intro ctx hctx
    have hbetween := hr.depth ctx hctx
    rw [bind_apply]
    match hrun : r ctx with
    | (.ok a, between) =>
      rw [hrun] at hbetween
      exact (hf a).depth between hbetween
    | (.error e, after) =>
      rw [hrun] at hbetween
      exact hbetween

theorem inScope (scope : Scope) {r r' : Render Unit} (hr : SameAt depth Unit r r') :
    SameAt depth Unit (Render.inScope scope r) (Render.inScope scope r') := by
  refine ⟨fun ctx hctx => ?_, fun ctx hctx => hr.depth { ctx with scopes := _ } hctx⟩
  unfold Render.inScope
  rw [hr.apply { ctx with scopes := scope :: ctx.scopes } hctx]

theorem captured {r r' : Render Unit} (hr : SameAt depth Unit r r') :
    SameAt depth String (Render.captured r) (Render.captured r') := by
  refine ⟨fun ctx hctx => ?_, fun ctx hctx => hr.depth { ctx with output := "" } hctx⟩
  unfold Render.captured
  rw [hr.apply { ctx with output := "" } hctx]

theorem inLoop (register : String) (length : Nat) {r r' : Nat → Render Unit}
    (hr : ∀ number, SameAt depth Unit (r number) (r' number)) :
    SameAt depth Unit (Render.inLoop register length r) (Render.inLoop register length r') := by
  constructor
  · intro ctx hctx
    rw [inLoop_apply, inLoop_apply]
    rw [(hr ctx.loops.size).apply (startLoop register length ctx).2 hctx]
  · intro ctx hctx
    have hafter := (hr ctx.loops.size).depth (startLoop register length ctx).2 hctx
    show (endLoop register _).depth = depth
    rw [endLoop_eq]
    exact hafter

/-- At the limit a partial is refused, so it does not matter what it is. -/
theorem inPartial {limit : Nat} (path : String) {r r' : Render Unit}
    (hr : depth < limit → SameAt (depth + 1) Unit r r') :
    SameAt depth Unit (Render.inPartial limit path r) (Render.inPartial limit path r') := by
  constructor
  · rintro ctx rfl
    by_cases hlt : ctx.depth < limit
    · rw [inPartial_apply_of_lt hlt, inPartial_apply_of_lt hlt, (hr hlt).apply _ rfl]
    · have hle := Nat.le_of_not_lt hlt
      rw [inPartial_apply_of_le hle, inPartial_apply_of_le hle]
  · rintro ctx rfl
    by_cases hlt : ctx.depth < limit
    · have hafter := (hr hlt).depth (ctx.enter path) rfl
      rw [inPartial_apply_of_lt hlt]
      show (r _).2.depth - 1 = ctx.depth
      rw [hafter, Nat.add_sub_cancel]
    · rw [inPartial_apply_of_le (Nat.le_of_not_lt hlt)]
      rfl

/-- All operations do the same as themselves. -/
theorem respected (config : Config) (depth : Nat) :
    Respected config (fun _ => True) (fun _ => True) Eq (SameAt depth) where
  pure a := of_sat ((Nested.kept config).sat_pure a)
  bind := bind
  view hf := bind (of_sat ((Nested.kept config).sat_ask _)) fun view => hf view view rfl
  values _ hview _ _ := by rw [hview]
  applyFilter v hp hcall := of_sat ((Nested.kept config).respected.applyFilter v hp hcall)
  emit text := of_sat ((Nested.kept config).respected.emit text)
  assign name v := of_sat ((Nested.kept config).respected.assign name v)
  count direction name hp := of_sat ((Nested.kept config).respected.count direction name hp)
  rotate r hr := of_sat ((Nested.kept config).respected.rotate r hr)
  isInterrupted := of_sat (Nested.kept config).respected.isInterrupted
  interrupt kind := of_sat ((Nested.kept config).respected.interrupt kind)
  takeInterrupt := of_sat (Nested.kept config).respected.takeInterrupt
  advanceLoop _ := of_sat ((Nested.kept config).respected.advanceLoop trivial)
  inScope _ _ _ hr := hr.inScope _
  captured hr := hr.captured
  inLoop length _ _ _ hr := inLoop _ length fun number => hr number trivial

theorem renderPartial {renderBody renderBody' : List Node → Render Unit}
    (hbody : ∀ nodes, SameAt depth Unit (renderBody nodes) (renderBody' nodes)) (use : Inclusion)
    (path : String) :
    SameAt depth Unit (Render.renderPartial config (loadPartial config) renderBody use path)
      (Render.renderPartial config (loadPartial config) renderBody' use path) := by
  have hload : SameAt depth (List Node) (loadPartial config path) (loadPartial config path) := by
    refine ⟨fun _ _ => rfl, fun ctx hctx => ?_⟩
    have hnested : Nested config.settings.maxIncludeDepth ctx _ _ :=
      .loads (loads_loadPartial config path ctx)
    exact hnested.depth.trans hctx
  refine hload.bind fun nodes => (of_sat ((Nested.kept config).sat_ask _)).bind fun view => ?_
  exact ((respected config depth).withTarget _ _ (hbody nodes)).inScope _

/-- Unfolding partials further than they can nest from a depth changes nothing. -/
theorem renderUnfolded {deeper deeper' : List Node → Render Unit} {n m : Nat}
    (hn : config.settings.maxIncludeDepth - depth < n)
    (hm : config.settings.maxIncludeDepth - depth < m) (nodes : List Node) :
    SameAt depth Unit (renderUnfolded config (loadPartial config) deeper n nodes)
      (Render.renderUnfolded config (loadPartial config) deeper' m nodes) := by
  induction n generalizing depth m nodes with
  | zero => cases hn
  | succ n ih =>
    cases m with
    | zero => cases hm
    | succ m =>
      refine renderNodes_related (respected config depth) (fun use _ => ?_) nodes
        fun _ _ => trivial
      have huse : (fun _ => True) (Node.inclusion use) := trivial
      refine bind (of_sat ((Nested.kept config).sat_pathOf huse)) fun path => ?_
      refine inPartial path fun hlt => ?_
      -- One partial more is active within, so one unfolding less is enough.
      exact renderPartial (fun nodes => ih (by omega) (by omega) nodes) use path

end SameAt

/-- **What lies deeper than partials can nest is never rendered.** -/
theorem renderUnfolded_eq_renderAll (config : Config) (deeper : List Node → Render Unit) {n : Nat}
    (hn : config.settings.maxIncludeDepth < n) (nodes : List Node) :
    renderUnfolded config (loadPartial config) deeper n nodes = renderAll config nodes := by
  funext ctx
  refine (SameAt.renderUnfolded ?_ ?_ nodes).apply ctx rfl
  · omega
  · omega

/-- Nodes are rendered with the partials they use rendered in the same way, and no other way of
rendering is like that. -/
theorem eq_renderAll_iff (config : Config) (render : List Node → Render Unit) :
    (∀ nodes, render nodes =
      renderNodes config (renderInclusion config (loadPartial config) render) nodes) ↔
      render = renderAll config := by
  constructor
  · intro h
    have hunfolded : ∀ n nodes,
        render nodes = renderUnfolded config (loadPartial config) render n nodes := by
      intro n
      induction n with
      | zero => exact fun _ => rfl
      | succ n ih =>
        intro nodes
        calc render nodes
          _ = renderNodes config (renderInclusion config (loadPartial config) render) nodes :=
            h nodes
          _ = renderUnfolded config (loadPartial config) render (n + 1) nodes :=
            congrArg (fun body =>
              renderNodes config (renderInclusion config (loadPartial config) body) nodes)
              (funext ih)
    funext nodes
    rw [hunfolded _ nodes, renderUnfolded_eq_renderAll config render (Nat.lt_succ_self _)]
  · rintro rfl nodes
    exact (renderUnfolded_eq_renderAll config (fun _ => return ())
      (Nat.lt_succ_of_lt (Nat.lt_succ_self _)) nodes).symm

/-! ## Templates -/

/-- From any context, a tag that uses a partial whose path is not empty makes it active if fewer
partials are than the limit, and fails otherwise. -/
theorem renderInclusion_nesting {config : Config} {use : Inclusion} {ctx : Context}
    (hpath : (use.template.value (ctx.view config)).text ≠ "") :
    let path := (use.template.value (ctx.view config)).text
    let done := renderInclusion config (loadPartial config) (renderAll config) use ctx
    (ctx.depth < config.settings.maxIncludeDepth →
      (.entered path :: ctx.journal) <:+ done.2.journal) ∧
    (config.settings.maxIncludeDepth ≤ ctx.depth →
      done = (.error (.rendering (.includeDepthExceeded path)), ctx.note (.refused path))) := by
  have hkept := Nested.kept config
  have hreads := reads_true config
  have hasked : AsksFor config (fun _ => True) (use.template.value (ctx.view config)).text :=
    ⟨use, trivial, ctx, rfl⟩
  unfold renderInclusion
  simp only [bind_apply_of_ok (pathOf_apply hpath)]
  generalize (use.template.value (ctx.view config)).text = path at hasked ⊢
  constructor
  · intro hlt
    have hbody : ∀ nodes, (∀ n ∈ partsOf nodes, True) → Sat (fun _ => True) _
        (renderAll config nodes) := fun _ hnodes => hkept.sat_renderAll hreads hnodes
    obtain ⟨hnested, -⟩ :=
      hkept.sat_renderPartial hreads hbody hasked use (ctx.enter path) (Context.caches_true _)
    rw [inPartial_apply_of_lt hlt]
    exact hnested.history.trans (List.suffix_cons _ _)
  · intro hle
    exact inPartial_apply_of_le hle path _

/-- What a whole render keeps of nesting, from its start to its end. -/
theorem nested_render (t : Template) (data : Bindings Value) :
    let done := (renderAll t.config t.nodes).run (.start data t.counters)
    done.2.depth = 0 ∧ Accounted t.config.settings.maxIncludeDepth 0 done.2.journal ∧
      Outcome (failure done.1) done.2.journal := by
  intro done
  have hsat : Sat (fun _ => True) (Nested t.config.settings.maxIncludeDepth)
      (renderAll t.config t.nodes) :=
    (Nested.kept t.config).sat_renderAll (reads_true t.config) fun _ _ => trivial
  obtain ⟨hnested, -⟩ := hsat (.start data t.counters) (Context.caches_true _)
  have hstart : Accounted t.config.settings.maxIncludeDepth 0 [] := ⟨rfl, trivial⟩
  obtain ⟨haccounted, houtcome⟩ := hnested.accounted hstart (by simp [Unrefused, Context.start])
  have hdepth : done.2.depth = 0 := hnested.depth
  refine ⟨hdepth, ?_, houtcome⟩
  rw [← hdepth]
  exact haccounted

/-- A render ends by a refusal just when there was one. -/
theorem outcome_refused_iff {e : Option Error} {events : List Event} (h : Outcome e events)
    (path : String) :
    e = some (.rendering (.includeDepthExceeded path)) ↔ .refused path ∈ events := by
  constructor
  · rintro rfl
    obtain ⟨since, earlier, rfl, -, -⟩ := h
    simp
  · intro hmem
    unfold Outcome at h
    split at h
    · -- There is one refusal only, since the render fails with it.
      obtain ⟨since, earlier, rfl, hsince, hearlier⟩ := h
      rcases List.mem_append.mp hmem with hmem | hmem
      · obtain ⟨other, hother⟩ := hsince _ hmem
        cases hother
      · rcases List.mem_cons.mp hmem with heq | hmem
        · cases heq
          rfl
        · exact absurd hmem (hearlier path)
    · exact absurd hmem (h path)

theorem render_result_eq_error_iff (t : Template) (data : Bindings Value) (cause : Error) :
    (t.render data).result = .error cause ↔
      failure ((renderAll t.config t.nodes).run (.start data t.counters)).1 = some cause := by
  simp only [Template.render]
  cases ((renderAll t.config t.nodes).run (.start data t.counters)).1 <;>
    simp [Except.map, failure]

/--
**Rendering ends, and the nesting of partials is bounded.**

Rendering ends: the ways in which nodes and the partials they use can be rendered are one, so that
rendering does not go round in circles, and a loop visits no more than the items of a list. Whenever
a partial becomes active, fewer than the limit are; it is refused just when as many as the limit
are, whatever became inactive before. A render fails for this reason just when a partial was
refused.
-/
theorem render_nesting (t : Template) (data : Bindings Value) :
    let limit := t.config.settings.maxIncludeDepth
    let journal := (t.render data).journal
    (∀ render : List Node → Render Unit,
      (∀ nodes, render nodes =
        renderNodes t.config (renderInclusion t.config (loadPartial t.config) render) nodes) ↔
        render = renderAll t.config) ∧
    (∀ number visitItem items,
      visit number visitItem items.count items = visitEach number visitItem items.toList) ∧
    (∀ moment, moment <+: journal → 0 ≤ activeAfter moment ∧ activeAfter moment ≤ limit) ∧
    (∀ moment path, moment ++ [.entered path] <+: journal → activeAfter moment < limit) ∧
    (∀ moment path, moment ++ [.refused path] <+: journal → activeAfter moment = limit) ∧
    activeAfter journal = 0 ∧
    (∀ path, (t.render data).result = .error (.rendering (.includeDepthExceeded path)) ↔
      .refused path ∈ journal) ∧
    ∀ (use : Inclusion) (ctx : Context), (use.template.value (ctx.view t.config)).text ≠ "" →
      let path := (use.template.value (ctx.view t.config)).text
      let done := renderInclusion t.config (loadPartial t.config) (renderAll t.config) use ctx
      (ctx.depth < limit → (.entered path :: ctx.journal) <:+ done.2.journal) ∧
      (limit ≤ ctx.depth →
        done = (.error (.rendering (.includeDepthExceeded path)), ctx.note (.refused path))) := by
  intro limit journal
  obtain ⟨-, haccounted, houtcome⟩ := nested_render t data
  -- The latest event comes first in a history, so a moment of the journal is an end of it.
  have hlawful : ∀ moment, moment <+: journal → Lawful limit moment.reverse := by
    intro moment hmoment
    refine haccounted.lawful.of_suffix ?_
    rw [← List.reverse_prefix, List.reverse_reverse]
    exact hmoment
  refine ⟨eq_renderAll_iff t.config, fun number visitItem items =>
    visit_eq_visitEach number visitItem (Nat.le_refl _), ?_, ?_, ?_, ?_, ?_,
    fun use ctx hpath => renderInclusion_nesting hpath⟩
  · intro moment hmoment
    have hbounds := (hlawful moment hmoment).activeAfter_le
    rwa [activeAfter_reverse] at hbounds
  · intro moment path hmoment
    have hlawful' := hlawful _ hmoment
    rw [List.reverse_append] at hlawful'
    have hmay : activeAfter moment.reverse < limit := hlawful'.1
    rwa [activeAfter_reverse] at hmay
  · intro moment path hmoment
    have hlawful' := hlawful _ hmoment
    rw [List.reverse_append] at hlawful'
    have hmay : activeAfter moment.reverse = limit := hlawful'.1
    rwa [activeAfter_reverse] at hmay
  · show activeAfter (List.reverse _) = 0
    rw [activeAfter_reverse]
    exact haccounted.depth.symm
  · intro path
    rw [render_result_eq_error_iff, outcome_refused_iff houtcome]
    exact List.mem_reverse.symm

/-! ### A partial that uses itself -/

/-- A template with a partial that uses itself, where two partials may be active at a time. -/
def circular : Template where
  config :=
    { Config.standard with
      settings := { maxIncludeDepth := 2 }
      storage := Storage.Partials.read [("card", "a\x7b% include 'card' %\x7db")] }
  nodes := [.inclusion ⟨.literal (.string "card"), none, []⟩]
  counters := []

theorem render_nesting_circular :
    (circular.render []).result = .error (.rendering (.includeDepthExceeded "card")) ∧
      (∃ earlier later,
        (circular.render []).journal = earlier ++ .refused "card" :: later ∧
        activeAfter earlier = 2) ∧
      activeAfter (circular.render []).journal = 0 := by
  have hfailure :
      (circular.render []).result = .error (.rendering (.includeDepthExceeded "card")) := by
    decide +kernel
  obtain ⟨-, -, -, -, hrefused, hnone, hfails, -⟩ := render_nesting circular []
  obtain ⟨earlier, later, hjournal⟩ := List.append_of_mem ((hfails "card").mp hfailure)
  refine ⟨hfailure, ⟨earlier, later, hjournal, hrefused earlier "card" ?_⟩, hnone⟩
  exact ⟨later, by rw [hjournal, List.append_assoc, List.singleton_append]⟩

end Stencil.Render
