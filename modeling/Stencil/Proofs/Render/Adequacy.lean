import Stencil.Proofs.Render.Moments

/-!
# The moments are those of the render

A moment fails if its task does. It does so just where it cannot go on by itself, or where a moment
one step further fails; and no moment goes on for ever. So a render fails just where one of its
moments cannot go on, with the error of that moment: the moments are all that there is to a render,
and there are no others.

* `Moment.error?` — the error of a moment that fails
* `Step.error?`, `exists_step_of_error?` — it is the error of a moment one step further, unless the
  moment cannot go on
* `step_wellFounded` — no moment can go on for ever
* `result_eq_error_iff_stuck` — a render fails just where one of its moments cannot go on
-/

namespace Stencil.Render

open Stencil.Markup Stencil.Template

variable {config : Config}

/-! ## Errors -/

/-- One render after another fails if the first does, or if the second does from where the first
ends. -/
theorem failure_bind_iff {α β : Type} {r : Render α} {f : α → Render β} {ctx : Context}
    {e : Error} :
    failure ((r >>= f) ctx).1 = some e ↔
      failure (r ctx).1 = some e ∨
        ∃ a after, r ctx = (.ok a, after) ∧ failure (f a after).1 = some e := by
  match hrun : r ctx with
  | (.ok a, after) =>
    rw [bind_apply_of_ok hrun]
    constructor
    · exact fun h => .inr ⟨a, after, rfl, h⟩
    · rintro (h | ⟨_, _, heq, h⟩)
      · cases h
      · cases heq
        exact h
  | (.error cause, after) =>
    rw [bind_apply_of_error hrun]
    constructor
    · exact .inl
    · rintro (h | ⟨_, _, heq, _⟩)
      · exact h
      · cases heq

theorem failure_andThen_iff {α : Type} {r : Render Unit} {f : Unit → Render α} {ctx : Context}
    {e : Error} :
    failure ((r >>= f) ctx).1 = some e ↔
      failure (r ctx).1 = some e ∨
        ∃ after, r ctx = (.ok (), after) ∧ failure (f () after).1 = some e := by
  rw [failure_bind_iff]
  exact or_congr_right ⟨fun ⟨_, after, h⟩ => ⟨after, h⟩, fun ⟨after, h⟩ => ⟨(), after, h⟩⟩

theorem failure_unlessInterrupted_iff {r : Render Unit} {ctx : Context} {e : Error} :
    failure (unlessInterrupted r ctx).1 = some e ↔
      ctx.isInterrupted = false ∧ failure (r ctx).1 = some e := by
  cases hpending : ctx.isInterrupted with
  | true =>
    rw [unlessInterrupted_apply_of_pending hpending]
    simp [failure]
  | false =>
    rw [unlessInterrupted_apply hpending]
    simp

theorem failure_inPartial {α : Type} (limit : Nat) (path : String) (r : Render α) (ctx : Context) :
    failure (inPartial limit path r ctx).1 =
      if ctx.depth < limit then failure (r (ctx.enter path)).1
      else some (.rendering (.includeDepthExceeded path)) := by
  split
  · rename_i hlt
    rw [inPartial_apply_of_lt hlt]
    rfl
  · rename_i hle
    rw [inPartial_apply_of_le (Nat.le_of_not_lt hle)]
    rfl

theorem pathOf_snd (config : Config) (use : Inclusion) (ctx : Context) :
    (pathOf config use ctx).2 = ctx := by
  by_cases hname : (use.template.value (ctx.view config)).text = ""
  · rw [pathOf_apply_empty hname]
  · rw [pathOf_apply hname]

/-- The error that a moment ends with, if its task fails. -/
def Moment.error? (config : Config) (m : Moment) : Option Error :=
  match m.task with
  | .nodes nodes => failure (renderAll config nodes m.ctx).1
  | .node node => failure (renderNode config (renderUse config) node m.ctx).1
  | .filters v calls => failure (calls.foldlM (applyFilter config) v m.ctx).1
  | .branches inverted branches =>
    failure (renderBranches config (renderUse config) inverted branches m.ctx).1
  | .clauses subject applied clauses =>
    failure (renderClauses config (renderUse config) subject applied clauses m.ctx).1
  | .visits name body =>
    match m.turns with
    | [] => none
    | turn :: _ =>
      failure (visitEach turn.loop
        (fun item => inScope (.fixed [(name, item)]) (renderAll config body))
        (turn.items.drop turn.index) m.ctx).1
  | .times body n => failure (times (renderAll config body) n m.ctx).1
  | .loaded use path nodes =>
    let view := m.ctx.view config
    failure (inScope (.fixed (localsOf use view))
      (withTarget (partialName path) (targetOf use path view) (renderAll config nodes)) m.ctx).1
  | .target name v nodes => failure (withTarget name v (renderAll config nodes) m.ctx).1
  | .each name items nodes => failure (eachItem name (renderAll config nodes) items m.ctx).1

/-- The nodes of the partial that a tag uses, if it can be had. -/
def nodesOfUse (config : Config) (use : Inclusion) : Render (List Node) := do
  let path ← pathOf config use
  inPartial config.settings.maxIncludeDepth path (loadPartial config path)

/-- A moment that cannot go on: the call of a filter fails, or the partial that a tag uses cannot
be had. -/
inductive Stuck (config : Config) : Moment → Error → Prop where
  | filter {s v call rest e} : failure (applyFilter config v call s.ctx).1 = some e →
    Stuck config ⟨s, .filters v (call :: rest)⟩ e
  | inclusion {s use e} : failure (nodesOfUse config use s.ctx).1 = some e →
    Stuck config ⟨s, .node (.inclusion use)⟩ e

namespace Moment

variable {s : Surroundings} {e : Error}

theorem error?_nodes_cons {node : Node} {rest : List Node} :
    error? config ⟨s, .nodes (node :: rest)⟩ = some e ↔
      error? config ⟨s, .node node⟩ = some e ∨
        ∃ after, renderNode config (renderUse config) node s.ctx = (.ok (), after) ∧
          after.isInterrupted = false ∧
          error? config ⟨s.continued after, .nodes rest⟩ = some e := by
  show failure (renderAll config (node :: rest) s.ctx).1 = some e ↔ _
  rw [renderAll_eq, renderNodes, failure_andThen_iff]
  simp only [failure_unlessInterrupted_iff, ← renderAll_eq]
  rfl

theorem error?_output {pipeline : Pipeline} :
    error? config ⟨s, .node (.output pipeline)⟩ = some e ↔
      error? config
        ⟨s, .filters (pipeline.source.value (s.ctx.view config)) pipeline.filters⟩ = some e := by
  show failure (renderNode config (renderUse config) (.output pipeline) s.ctx).1 = some e ↔ _
  rw [renderNode, failure_bind_iff]
  constructor
  · rintro (h | ⟨_, _, _, h⟩)
    · exact h
    · cases h
  · exact .inl

theorem error?_assign {name : String} {pipeline : Pipeline} :
    error? config ⟨s, .node (.assign name pipeline)⟩ = some e ↔
      error? config
        ⟨s, .filters (pipeline.source.value (s.ctx.view config)) pipeline.filters⟩ = some e := by
  show failure (renderNode config (renderUse config) (.assign name pipeline) s.ctx).1 = some e ↔ _
  rw [renderNode, failure_bind_iff]
  constructor
  · rintro (h | ⟨_, _, _, h⟩)
    · exact h
    · cases h
  · exact .inl

theorem error?_filters_cons {v : Value} {call : FilterCall} {rest : List FilterCall} :
    error? config ⟨s, .filters v (call :: rest)⟩ = some e ↔
      failure (applyFilter config v call s.ctx).1 = some e ∨
        ∃ result after, applyFilter config v call s.ctx = (.ok result, after) ∧
          error? config ⟨s.continued after, .filters result rest⟩ = some e := by
  show failure ((call :: rest).foldlM (applyFilter config) v s.ctx).1 = some e ↔ _
  rw [List.foldlM_cons, failure_bind_iff]
  rfl

theorem error?_conditional {inverted : Bool} {branches : List Branch} :
    error? config ⟨s, .node (.conditional inverted branches)⟩ =
      error? config ⟨s, .branches inverted branches⟩ := by
  show failure (renderNode config (renderUse config) (.conditional inverted branches) s.ctx).1 = _
  rw [renderNode]
  rfl

theorem error?_branches_cons {inverted : Bool} {condition : Option Condition} {body : List Node}
    {rest : List Branch} :
    error? config ⟨s, .branches inverted (.mk condition body :: rest)⟩ =
      if isTaken inverted condition (s.ctx.view config) then error? config ⟨s, .nodes body⟩
      else error? config ⟨s, .branches false rest⟩ := by
  show failure (renderBranches config (renderUse config) inverted _ s.ctx).1 = _
  rw [renderBranches, ask_bind_apply, ← renderAll_eq]
  split <;> rfl

theorem error?_loop {tag : String} {header : LoopHeader} {body : List Node}
    {otherwise : Option (List Node)} (h : 0 < (itemsAt config header s.ctx).length) :
    error? config ⟨s, .node (.loop tag header body otherwise)⟩ =
      error? config ⟨s.inLoop tag (itemsAt config header s.ctx) h, .visits header.item body⟩ := by
  have hcount : (itemsOf header (s.ctx.view config)).count ≠ 0 := by
    rw [← length_itemsAt]
    exact Nat.ne_of_gt h
  show failure (renderNode config (renderUse config) _ s.ctx).1 = _
  rw [renderNode_loop_apply _ hcount, runLoop, inLoop_inScope_apply,
    visit_eq_visitEach _ _ (Nat.le_refl _), ← renderAll_eq, ← Items.length_toList]
  rfl

theorem error?_empty {tag : String} {header : LoopHeader} {body : List Node}
    {otherwise : Option (List Node)} (h : itemsAt config header s.ctx = []) :
    error? config ⟨s, .node (.loop tag header body otherwise)⟩ =
      otherwise.bind fun nodes => error? config ⟨s, .nodes nodes⟩ := by
  have hcount : (itemsOf header (s.ctx.view config)).count = 0 := by
    rw [← length_itemsAt, h, List.length_nil]
  show failure (renderNode config (renderUse config) _ s.ctx).1 = _
  rw [renderNode_loop_apply_empty _ hcount]
  cases otherwise with
  | none => rfl
  | some nodes =>
    rw [Option.elim_some, ← renderAll_eq]
    rfl

/-- A loop visits its item, and then the items behind it unless it is left. -/
theorem error?_visits {turn : Turn} {outer : List Turn} (hturns : s.turns = turn :: outer)
    {name : String} {body : List Node} :
    error? config ⟨s, .visits name body⟩ = some e ↔
      error? config ⟨s.within [(name, turn.item)], .nodes body⟩ = some e ∨
        ∃ left,
          inScope (.fixed [(name, turn.item)]) (renderAll config body) s.ctx = (.ok (), left) ∧
          left.interrupts.head? ≠ some .breakLoop ∧
          ∃ h : turn.index + 1 < turn.items.length,
            error? config ⟨⟨afterVisit turn.loop left, turn.next h :: outer, s.bound⟩,
              .visits name body⟩ = some e := by
  let visitItem := fun item => inScope (.fixed [(name, item)]) (renderAll config body)
  have hvisits : error? config ⟨s, .visits name body⟩ =
      failure (visitEach turn.loop visitItem (turn.items.drop turn.index) s.ctx).1 := by
    simp only [error?, hturns, visitItem]
  have hitems : turn.items.drop turn.index = turn.item :: turn.items.drop (turn.index + 1) :=
    List.drop_eq_getElem_cons turn.index.isLt
  have hbody : error? config ⟨s.within [(name, turn.item)], .nodes body⟩ =
      failure (visitItem turn.item s.ctx).1 := rfl
  rw [hvisits, hitems, hbody]
  show _ ↔ _ ∨ ∃ left, visitItem turn.item s.ctx = (.ok (), left) ∧ _
  match hrun : visitItem turn.item s.ctx with
  | (.error cause, left) =>
    rw [visitEach, bind_apply_of_error hrun]
    constructor
    · exact .inl
    · rintro (h | ⟨_, heq, _⟩)
      · exact h
      · cases heq
  | (.ok (), left) =>
    rw [visitEach_cons_of_ok hrun]
    constructor
    · intro h
      split at h
      · cases h
      · rename_i hgoes
        by_cases hnext : turn.index + 1 < turn.items.length
        · exact .inr ⟨left, rfl, hgoes, hnext, h⟩
        · rw [List.drop_eq_nil_of_le (Nat.le_of_not_lt hnext)] at h
          cases h
    · rintro (h | ⟨_, heq, hgoes, hnext, h⟩)
      · cases h
      · cases heq
        rw [if_neg hgoes]
        exact h

theorem error?_choice {subject : Expression} {clauses : List Clause} :
    error? config ⟨s, .node (.choice subject clauses)⟩ =
      error? config ⟨s, .clauses (subject.value (s.ctx.view config)) false clauses⟩ := by
  show failure (renderNode config (renderUse config) _ s.ctx).1 = _
  rw [renderNode, ask_bind_apply]
  rfl

theorem error?_otherwise {subject : Value} {applied : Bool} {body : List Node}
    {rest : List Clause} :
    error? config ⟨s, .clauses subject applied (.mk .otherwise body :: rest)⟩ =
      if applied then error? config ⟨s, .clauses subject applied rest⟩
      else error? config ⟨s, .nodes body⟩ := by
  show failure (renderClauses config (renderUse config) subject applied _ s.ctx).1 = _
  rw [renderClauses, ← renderAll_eq]
  split <;> rfl

theorem error?_applies {subject : Value} {applied : Bool} {values : List Expression}
    {body : List Node} {rest : List Clause}
    (h : applies values subject (s.ctx.view config) = true) :
    error? config ⟨s, .clauses subject applied (.mk (.among values) body :: rest)⟩ = some e ↔
      error? config ⟨s, .nodes body⟩ = some e ∨
        ∃ after, renderAll config body s.ctx = (.ok (), after) ∧ after.isInterrupted = false ∧
          error? config ⟨s.continued after, .clauses subject true rest⟩ = some e := by
  show failure (renderClauses config (renderUse config) subject applied _ s.ctx).1 = some e ↔ _
  rw [renderClauses, ask_bind_apply, ← renderAll_eq]
  simp only [h, if_true, failure_andThen_iff, failure_unlessInterrupted_iff]
  rfl

theorem error?_unlike {subject : Value} {applied : Bool} {values : List Expression}
    {body : List Node} {rest : List Clause}
    (h : applies values subject (s.ctx.view config) = false) :
    error? config ⟨s, .clauses subject applied (.mk (.among values) body :: rest)⟩ =
      error? config ⟨s, .clauses subject applied rest⟩ := by
  show failure (renderClauses config (renderUse config) subject applied _ s.ctx).1 = _
  rw [renderClauses, ask_bind_apply]
  simp only [h, Bool.false_eq_true, if_false]
  rfl

theorem error?_capture {name : String} {body : List Node} :
    error? config ⟨s, .node (.capture name body)⟩ = some e ↔
      error? config ⟨s.continued { s.ctx with output := "" }, .nodes body⟩ = some e := by
  show failure (renderNode config (renderUse config) (.capture name body) s.ctx).1 = some e ↔ _
  rw [renderNode, failure_bind_iff, ← renderAll_eq]
  have hcaptured : failure (captured (renderAll config body) s.ctx).1 =
      error? config ⟨s.continued { s.ctx with output := "" }, .nodes body⟩ := failure_map _ _
  rw [hcaptured]
  constructor
  · rintro (h | ⟨_, _, _, h⟩)
    · exact h
    · cases h
  · exact .inl

theorem error?_repetition {n : Expression} {body : List Node} :
    error? config ⟨s, .node (.repetition n body)⟩ =
      error? config ⟨s, .times body (n.value (s.ctx.view config)).toCount⟩ := by
  show failure (renderNode config (renderUse config) _ s.ctx).1 = _
  rw [renderNode, ask_bind_apply, ← renderAll_eq]
  rfl

theorem error?_times_succ {body : List Node} {n : Nat} :
    error? config ⟨s, .times body (n + 1)⟩ = some e ↔
      error? config ⟨s, .nodes body⟩ = some e ∨
        ∃ after, renderAll config body s.ctx = (.ok (), after) ∧
          error? config ⟨s.continued after, .times body n⟩ = some e := by
  show failure (times (renderAll config body) (n + 1) s.ctx).1 = some e ↔ _
  rw [times, failure_andThen_iff]
  rfl

theorem error?_each_cons {name : String} {item : Value} {rest : List Value} {nodes : List Node} :
    error? config ⟨s, .each name (item :: rest) nodes⟩ = some e ↔
      error? config ⟨s.within [(name, item)], .nodes nodes⟩ = some e ∨
        ∃ after, inScope (.fixed [(name, item)]) (renderAll config nodes) s.ctx = (.ok (), after) ∧
          after.isInterrupted = false ∧
          error? config ⟨s.continued after, .each name rest nodes⟩ = some e := by
  show failure (eachItem name (renderAll config nodes) (item :: rest) s.ctx).1 = some e ↔ _
  rw [eachItem, failure_andThen_iff]
  simp only [failure_unlessInterrupted_iff]
  rfl

/-- The partial that a tag uses cannot be had, or it is rendered once it is there. -/
theorem error?_inclusion {use : Inclusion} :
    error? config ⟨s, .node (.inclusion use)⟩ = some e ↔
      failure (nodesOfUse config use s.ctx).1 = some e ∨
        ∃ path nodes after, pathOf config use s.ctx = (.ok path, s.ctx) ∧
          s.ctx.depth < config.settings.maxIncludeDepth ∧
          loadPartial config path (s.ctx.enter path) = (.ok nodes, after) ∧
          error? config ⟨s.continued after, .loaded use path nodes⟩ = some e := by
  show failure (renderInclusion config (loadPartial config) (renderAll config) use s.ctx).1 =
    some e ↔ _
  rw [renderInclusion, nodesOfUse, failure_bind_iff, failure_bind_iff]
  constructor
  · rintro (h | ⟨path, between, hpath, h⟩)
    · exact .inl (.inl h)
    · obtain rfl : s.ctx = between := by
        have hsnd := pathOf_snd config use s.ctx
        rw [hpath] at hsnd
        exact hsnd.symm
      by_cases hdepth : s.ctx.depth < config.settings.maxIncludeDepth
      · rw [failure_inPartial, if_pos hdepth, renderPartial, failure_bind_iff] at h
        rcases h with h | ⟨nodes, after, hload, h⟩
        · refine .inl (.inr ⟨path, s.ctx, hpath, ?_⟩)
          rw [failure_inPartial, if_pos hdepth]
          exact h
        · exact .inr ⟨path, nodes, after, hpath, hdepth, hload, h⟩
      · refine .inl (.inr ⟨path, s.ctx, hpath, ?_⟩)
        rw [failure_inPartial, if_neg hdepth] at h ⊢
        exact h
  · rintro ((h | ⟨path, between, hpath, h⟩) | ⟨path, nodes, after, hpath, hdepth, hload, h⟩)
    · exact .inl h
    · refine .inr ⟨path, between, hpath, ?_⟩
      rw [failure_inPartial] at h ⊢
      split at h
      · rename_i hdepth
        rw [if_pos hdepth, renderPartial, failure_bind_iff]
        exact .inl h
      · rename_i hdepth
        rw [if_neg hdepth]
        exact h
    · refine .inr ⟨path, s.ctx, hpath, ?_⟩
      rw [failure_inPartial, if_pos hdepth, renderPartial, failure_bind_iff]
      exact .inr ⟨nodes, after, hload, h⟩

end Moment

/-! ## One step -/

/-- **A moment fails if one that is a step further does.** -/
theorem Step.error? {m m' : Moment} (h : Step config m m') {e : Error}
    (he : m'.error? config = some e) : m.error? config = some e := by
  cases h with
  | first => exact Moment.error?_nodes_cons.mpr (.inl he)
  | rest hrun hgoes => exact Moment.error?_nodes_cons.mpr (.inr ⟨_, hrun, hgoes, he⟩)
  | output => exact Moment.error?_output.mpr he
  | assign => exact Moment.error?_assign.mpr he
  | filter hrun => exact Moment.error?_filters_cons.mpr (.inr ⟨_, _, hrun, he⟩)
  | conditional => rwa [Moment.error?_conditional]
  | taken htaken => rwa [Moment.error?_branches_cons, if_pos htaken]
  | notTaken htaken => rwa [Moment.error?_branches_cons, htaken, if_neg Bool.false_ne_true]
  | loop hitems => rwa [Moment.error?_loop hitems]
  | empty hitems =>
    rw [Moment.error?_empty hitems]
    exact he
  | visit hturns => exact (Moment.error?_visits hturns).mpr (.inl he)
  | next hnext hturns hrun hgoes =>
    exact (Moment.error?_visits hturns).mpr (.inr ⟨_, hrun, hgoes, hnext, he⟩)
  | choice => rwa [Moment.error?_choice]
  | otherwise => rwa [Moment.error?_otherwise, if_neg Bool.false_ne_true]
  | passed => rwa [Moment.error?_otherwise, if_pos rfl]
  | applies happlies => exact (Moment.error?_applies happlies).mpr (.inl he)
  | applied happlies hrun hgoes =>
    exact (Moment.error?_applies happlies).mpr (.inr ⟨_, hrun, hgoes, he⟩)
  | unlike happlies => rwa [Moment.error?_unlike happlies]
  | capture => exact Moment.error?_capture.mpr he
  | repetition => rwa [Moment.error?_repetition]
  | time => exact Moment.error?_times_succ.mpr (.inl he)
  | again hrun => exact Moment.error?_times_succ.mpr (.inr ⟨_, hrun, he⟩)
  | inclusion hpath hdepth hload =>
    exact Moment.error?_inclusion.mpr (.inr ⟨_, _, _, hpath, hdepth, hload, he⟩)
  | locals => exact he
  | unbound => exact he
  | items => exact he
  | @single s name v nodes hnil harray =>
    cases v with
    | nil => cases hnil
    | array _ => cases harray
    | _ => exact he
  | item => exact Moment.error?_each_cons.mpr (.inl he)
  | nextItem hrun hgoes => exact Moment.error?_each_cons.mpr (.inr ⟨_, hrun, hgoes, he⟩)

/-- Nodes that have no tasks within them never fail. -/
theorem exists_step_of_error?_node {s : Surroundings} {node : Node} {e : Error}
    (h : Moment.error? config ⟨s, .node node⟩ = some e) :
    Stuck config ⟨s, .node node⟩ e ∨
      ∃ m', Step config ⟨s, .node node⟩ m' ∧ m'.error? config = some e := by
  cases node with
  | output pipeline => exact .inr ⟨_, .output, Moment.error?_output.mp h⟩
  | assign name pipeline => exact .inr ⟨_, .assign, Moment.error?_assign.mp h⟩
  | conditional inverted branches =>
    rw [Moment.error?_conditional] at h
    exact .inr ⟨_, .conditional, h⟩
  | loop tag header body otherwise =>
    cases hitems : itemsAt config header s.ctx with
    | nil =>
      rw [Moment.error?_empty hitems] at h
      cases otherwise with
      | none => cases h
      | some nodes => exact .inr ⟨_, .empty hitems, h⟩
    | cons item rest =>
      have hsome : 0 < (itemsAt config header s.ctx).length := by
        rw [hitems]
        exact Nat.succ_pos _
      rw [Moment.error?_loop hsome] at h
      exact .inr ⟨_, .loop hsome, h⟩
  | choice subject clauses =>
    rw [Moment.error?_choice] at h
    exact .inr ⟨_, .choice, h⟩
  | capture name body => exact .inr ⟨_, .capture, Moment.error?_capture.mp h⟩
  | repetition n body =>
    rw [Moment.error?_repetition] at h
    exact .inr ⟨_, .repetition, h⟩
  | inclusion use =>
    rcases Moment.error?_inclusion.mp h with h | ⟨path, nodes, after, hpath, hdepth, hload, h⟩
    · exact .inl (.inclusion h)
    · exact .inr ⟨_, .inclusion hpath hdepth hload, h⟩
  | text | comment | counter | interrupt | rotation =>
    unfold Moment.error? at h
    simp only [renderNode] at h
    cases h

/-- **A moment that fails cannot go on, or a moment that is a step further fails.** -/
theorem exists_step_of_error? {m : Moment} {e : Error} (h : m.error? config = some e) :
    Stuck config m e ∨ ∃ m', Step config m m' ∧ m'.error? config = some e := by
  obtain ⟨s, task⟩ := m
  cases task with
  | nodes ns =>
    cases ns with
    | nil => cases h
    | cons node rest =>
      rcases Moment.error?_nodes_cons.mp h with h | ⟨after, hrun, hgoes, h⟩
      · exact .inr ⟨_, .first, h⟩
      · exact .inr ⟨_, .rest hrun hgoes, h⟩
  | node n => exact exists_step_of_error?_node h
  | filters v calls =>
    cases calls with
    | nil => cases h
    | cons call rest =>
      rcases Moment.error?_filters_cons.mp h with h | ⟨result, after, hrun, h⟩
      · exact .inl (.filter h)
      · exact .inr ⟨_, .filter hrun, h⟩
  | branches inverted bs =>
    cases bs with
    | nil =>
      unfold Moment.error? at h
      simp only [renderBranches] at h
      cases h
    | cons branch rest =>
      obtain ⟨condition, body⟩ := branch
      rw [Moment.error?_branches_cons] at h
      cases htaken : isTaken inverted condition (s.ctx.view config) with
      | true =>
        rw [if_pos htaken] at h
        exact .inr ⟨_, .taken htaken, h⟩
      | false =>
        rw [htaken, if_neg Bool.false_ne_true] at h
        exact .inr ⟨_, .notTaken htaken, h⟩
  | clauses subject applied cs =>
    cases cs with
    | nil =>
      unfold Moment.error? at h
      simp only [renderClauses] at h
      cases h
    | cons clause rest =>
      obtain ⟨label, body⟩ := clause
      cases label with
      | otherwise =>
        rw [Moment.error?_otherwise] at h
        cases applied with
        | true => exact .inr ⟨_, .passed, h⟩
        | false => exact .inr ⟨_, .otherwise, h⟩
      | among values =>
        cases happlies : applies values subject (s.ctx.view config) with
        | true =>
          rcases (Moment.error?_applies happlies).mp h with h | ⟨after, hrun, hgoes, h⟩
          · exact .inr ⟨_, .applies happlies, h⟩
          · exact .inr ⟨_, .applied happlies hrun hgoes, h⟩
        | false =>
          rw [Moment.error?_unlike happlies] at h
          exact .inr ⟨_, .unlike happlies, h⟩
  | visits name body =>
    cases hturns : s.turns with
    | nil =>
      unfold Moment.error? at h
      simp only [hturns] at h
      cases h
    | cons turn outer =>
      rcases (Moment.error?_visits hturns).mp h with h | ⟨left, hrun, hgoes, hnext, h⟩
      · exact .inr ⟨_, .visit hturns, h⟩
      · exact .inr ⟨_, .next hnext hturns hrun hgoes, h⟩
  | times body n =>
    cases n with
    | zero => cases h
    | succ n =>
      rcases Moment.error?_times_succ.mp h with h | ⟨after, hrun, h⟩
      · exact .inr ⟨_, .time, h⟩
      · exact .inr ⟨_, .again hrun, h⟩
  | loaded use path ns => exact .inr ⟨_, .locals, h⟩
  | target name v ns =>
    cases v with
    | nil => exact .inr ⟨_, .unbound, h⟩
    | array items => exact .inr ⟨_, .items, h⟩
    | _ => exact .inr ⟨_, .single rfl rfl, h⟩
  | each name items ns =>
    cases items with
    | nil => cases h
    | cons item rest =>
      rcases Moment.error?_each_cons.mp h with h | ⟨after, hrun, hgoes, h⟩
      · exact .inr ⟨_, .item, h⟩
      · exact .inr ⟨_, .nextItem hrun hgoes, h⟩

/-- What cannot go on fails. -/
theorem Stuck.error? {m : Moment} {e : Error} (h : Stuck config m e) :
    m.error? config = some e := by
  cases h with
  | filter h => exact Moment.error?_filters_cons.mpr (.inl h)
  | inclusion h => exact Moment.error?_inclusion.mpr (.inl h)

/-! ## Steps come to an end -/

/-- How much there is to a task, apart from how often it is done. -/
noncomputable def Task.weight : Task → Nat
  | .nodes ns => 2 * sizeOf ns
  | .node n => 2 * sizeOf n + 1
  | .filters .. => 0
  | .branches _ bs => 2 * sizeOf bs
  | .clauses _ _ cs => 2 * sizeOf cs
  | .visits _ ns | .times ns _ | .each _ _ ns => 2 * sizeOf ns + 1
  | .target _ _ ns => 2 * sizeOf ns + 2
  | .loaded _ _ ns => 2 * sizeOf ns + 3

/-- How often something is still to be done. -/
def Moment.remaining (m : Moment) : Nat :=
  match m.task with
  | .filters _ calls => calls.length
  | .visits .. => m.turns.head?.elim 0 fun turn => turn.items.length - turn.index
  | .times _ n => n
  | .each _ items _ => items.length
  | _ => 0

/-- How far a moment is from the end: the partials that may still become active, the task, and how
often it is still to be done. -/
noncomputable def Moment.distance (config : Config) (m : Moment) : Nat × Nat × Nat :=
  (config.settings.maxIncludeDepth - m.ctx.depth, m.task.weight, m.remaining)

/-- Nearer to the end. -/
def Nearer (config : Config) (m' m : Moment) : Prop :=
  Prod.Lex (· < ·) (Prod.Lex (· < ·) (· < ·)) (m'.distance config) (m.distance config)

theorem Nearer.of_depth {m m' : Moment} (hlt : m.ctx.depth < config.settings.maxIncludeDepth)
    (hdepth : m'.ctx.depth = m.ctx.depth + 1) : Nearer config m' m := by
  refine .left _ _ ?_
  rw [hdepth]
  omega

theorem Nearer.of_weight {m m' : Moment} (hdepth : m'.ctx.depth = m.ctx.depth)
    (h : m'.task.weight < m.task.weight) : Nearer config m' m := by
  unfold Nearer Moment.distance
  rw [hdepth]
  exact .right _ (.left _ _ h)

theorem Nearer.of_remaining {m m' : Moment} (hdepth : m'.ctx.depth = m.ctx.depth)
    (hweight : m'.task.weight = m.task.weight) (h : m'.remaining < m.remaining) :
    Nearer config m' m := by
  unfold Nearer Moment.distance
  rw [hdepth, hweight]
  exact .right _ (.right _ h)

theorem Renders.depth {parts : List Node} {r : Render Unit} (h : Renders config parts r)
    {ctx after : Context} {result : Except Error Unit} (hrun : r ctx = (result, after)) :
    after.depth = ctx.depth := by
  obtain ⟨hnested, -⟩ := h.sat (Nested.kept config) (reads_true config) (fun _ _ => trivial) ctx
    ctx.caches_true
  rw [hrun] at hnested
  exact hnested.depth

theorem Loads.depth {path : String} {ctx : Context} {loaded : Except Error (List Node) × Context}
    (h : Loads config path ctx loaded) : loaded.2.depth = ctx.depth := by
  cases h <;> rfl

/-- **Each step leads nearer to the end.** -/
theorem Step.nearer {m m' : Moment} (h : Step config m m') : Nearer config m' m := by
  cases h with
  | first => exact .of_weight rfl (by simp only [Task.weight, List.cons.sizeOf_spec]; omega)
  | rest hrun _ =>
    refine .of_weight ((Renders.node _).depth hrun) ?_
    simp only [Task.weight, List.cons.sizeOf_spec]
    omega
  | output | assign => exact .of_weight rfl (Nat.succ_pos _)
  | @filter s v call rest result after hrun =>
    obtain ⟨journal, hjournal⟩ := exists_journal_applyFilter config v call s.ctx
    rw [hrun] at hjournal
    obtain rfl : after = { s.ctx with journal } := hjournal
    exact .of_remaining rfl rfl (Nat.lt_succ_self _)
  | conditional =>
    exact .of_weight rfl (by simp only [Task.weight, Node.conditional.sizeOf_spec]; omega)
  | taken _ | notTaken _ =>
    refine .of_weight rfl ?_
    simp only [Task.weight, List.cons.sizeOf_spec, Branch.mk.sizeOf_spec]
    omega
  | loop _ => exact .of_weight rfl (by simp only [Task.weight, Node.loop.sizeOf_spec]; omega)
  | empty _ =>
    refine .of_weight rfl ?_
    simp only [Task.weight, Node.loop.sizeOf_spec, Option.some.sizeOf_spec]
    omega
  | @next s turn outer name body left hnext hturns hrun _ =>
    have hdepth : left.depth = s.ctx.depth := ((Renders.nodes body).inScope _).depth hrun
    refine .of_remaining hdepth rfl ?_
    simp only [Moment.remaining, hturns, Turn.next, List.head?_cons, Option.elim_some]
    omega
  | choice => exact .of_weight rfl (by simp only [Task.weight, Node.choice.sizeOf_spec]; omega)
  | applied _ hrun _ =>
    refine .of_weight ((Renders.nodes _).depth hrun) ?_
    simp only [Task.weight, List.cons.sizeOf_spec, Clause.mk.sizeOf_spec]
    omega
  | otherwise | passed | applies _ | unlike _ =>
    refine .of_weight rfl ?_
    simp only [Task.weight, List.cons.sizeOf_spec, Clause.mk.sizeOf_spec]
    omega
  | capture => exact .of_weight rfl (by simp only [Task.weight, Node.capture.sizeOf_spec]; omega)
  | repetition =>
    exact .of_weight rfl (by simp only [Task.weight, Node.repetition.sizeOf_spec]; omega)
  | again hrun => exact .of_remaining ((Renders.nodes _).depth hrun) rfl (Nat.lt_succ_self _)
  | @inclusion s use path nodes after _ hdepth hload =>
    have hloads := loads_loadPartial config path (s.ctx.enter path)
    rw [hload] at hloads
    exact .of_depth hdepth hloads.depth
  | unbound | single _ _ => exact .of_weight rfl (Nat.lt_add_of_pos_right Nat.two_pos)
  | visit _ | time | locals | items | item => exact .of_weight rfl (Nat.lt_succ_self _)
  | nextItem hrun _ =>
    exact .of_remaining (((Renders.nodes _).inScope _).depth hrun) rfl (Nat.lt_succ_self _)

/-- **No moment can go on for ever.** -/
theorem step_wellFounded (config : Config) :
    WellFounded fun m' m : Moment => Step config m m' := by
  have hlex : WellFounded (Prod.Lex (· < ·) (Prod.Lex (· < ·) (· < ·)) :
      Nat × Nat × Nat → Nat × Nat × Nat → Prop) :=
    (Prod.lex Nat.lt_wfRel (Prod.lex Nat.lt_wfRel Nat.lt_wfRel)).wf
  exact Subrelation.wf Step.nearer (InvImage.wf (Moment.distance config) hlex)

/-! ## Whole renders -/

/-- A moment that fails leads to one that cannot go on, and fails with the error of that one. -/
theorem error?_eq_some_iff {m : Moment} {e : Error} :
    m.error? config = some e ↔
      ∃ m', Relation.ReflTransGen (Step config) m m' ∧ Stuck config m' e := by
  constructor
  · intro h
    induction m using (step_wellFounded config).induction with
    | h m ih =>
      rcases exists_step_of_error? h with hstuck | ⟨next, hstep, hnext⟩
      · exact ⟨m, .refl, hstuck⟩
      · obtain ⟨m', hreached, hstuck⟩ := ih next hstep hnext
        exact ⟨m', .head hstep hreached, hstuck⟩
  · rintro ⟨m', hreached, hstuck⟩
    induction hreached using Relation.ReflTransGen.head_induction_on with
    | refl => exact hstuck.error?
    | head hstep _ ih => exact hstep.error? ih

/--
**The moments are those of the render.** The render of a template fails with an error just if one of
its moments cannot go on with this error: a moment where the call of a filter fails, or where a
partial that is used cannot be had.
-/
theorem result_eq_error_iff_stuck (t : Template) (data : Bindings Value) (e : Error) :
    (t.render data).result = .error e ↔ ∃ m, Reached t data m ∧ Stuck t.config m e := by
  rw [render_result_eq_error_iff]
  show (Moment.start t data).error? t.config = some e ↔ _
  exact error?_eq_some_iff

end Stencil.Render
