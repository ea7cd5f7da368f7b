import Stencil.Proofs.Render.Counting

/-!
# What can fail

Only filter calls and the use of partials can fail. Lookups, conditions, loops, rotations and
counters take values of any kind, and what they cannot use counts as nil, as nothing or as zero.

* `Raised` — the errors that filter calls and the use of partials raise
* `Raised.kept` — every other operation succeeds
* `render_raises` — a render fails only so
-/

namespace Stencil.Render

open Stencil.Markup Stencil.Template

/-! ## Errors of nodes -/

/-- The errors that can be raised where all nodes have a property. -/
inductive Raised (config : Config) (p : Node → Prop) : Error → Prop where
  /-- A filter call fails: with an unknown filter, a wrong number of arguments or a wrong type. -/
  | call {node : Node} {call : FilterCall} {cause : RuntimeError} : p node → call ∈ node.calls →
    FaultOf config call cause → IsFilterFault cause → Raised config p (.rendering cause)
  /-- The name of a partial is empty. -/
  | emptyName {use : Inclusion} : p (.inclusion use) →
    Raised config p (.rendering (.fileSystem (.emptyName use.template.text)))
  /-- As many partials are active as may be. -/
  | refused {path : String} : AsksFor config p path →
    Raised config p (.rendering (.includeDepthExceeded path))
  /-- A partial is not in storage. -/
  | missing {path : String} {fault : StorageFault} : AsksFor config p path →
    config.storage path = .error fault → Raised config p (.rendering (.fileSystem fault))
  /-- The source of a partial cannot be read. -/
  | malformed {path source : String} {cause : SyntaxError} : AsksFor config p path →
    config.storage path = .ok source → nodesOf config.tags source.toList = .error cause →
    Raised config p (.reading cause)

namespace Raised

variable {config : Config} {p : Node → Prop}

/-- What a host brings is turned into values before a render, so that does not fail in it. -/
theorem ne_conversion {e : Error} (h : Raised config p e) (cause : ConversionError) :
    e ≠ .conversion cause := by
  rintro rfl
  cases h

/-- Nothing is raised without filter calls and partials. -/
theorem not_of_plain (hp : ∀ node, p node → node.calls = [] ∧ ∀ use, node ≠ .inclusion use)
    {e : Error} : ¬ Raised config p e := by
  have hasks : ∀ path, ¬ AsksFor config p path := fun path ⟨use, huse, _⟩ =>
    (hp _ huse).2 use rfl
  intro h
  cases h with
  | call hnode hcall _ _ =>
    rw [(hp _ hnode).1] at hcall
    cases hcall
  | emptyName huse => exact (hp _ huse).2 _ rfl
  | refused hpath => exact hasks _ hpath
  | missing hpath _ => exact hasks _ hpath
  | malformed hpath _ _ => exact hasks _ hpath

/-- An operation that succeeds raises nothing. -/
theorem of_none : ∀ e ∈ (none : Option Error), Raised config p e := by
  rintro e ⟨⟩

theorem of_loads {path : String} {ctx : Context} {loaded : Except Error (List Node) × Context}
    (hpath : AsksFor config p path) (h : Loads config path ctx loaded) :
    ∀ e ∈ failure loaded.1, Raised config p e := by
  cases h with
  | cached _ => exact of_none
  | missing _ hsource =>
    rintro e ⟨⟩
    exact .missing hpath hsource
  | malformed _ hsource hnodes =>
    rintro e ⟨⟩
    exact .malformed hpath hsource hnodes
  | read _ _ _ => exact of_none

/-- **No operation fails but filter calls and the use of partials.** -/
theorem kept (config : Config) (p : Node → Prop) :
    Kept config p fun _ failed _ => ∀ e ∈ failed, Raised config p e where
  refl _ := of_none
  trans _ h := h
  fault _ _ hnode hcall hfault := by
    rintro e ⟨⟩
    exact .call hnode hcall hfault hfault.isFilterFault
  filtered _ _ := of_none
  emit _ _ := of_none
  assign _ _ _ := of_none
  count _ _ _ _ := of_none
  rotate _ _ _ := of_none
  interrupt _ _ := of_none
  takeInterrupt _ := of_none
  advanceLoop _ _ := of_none
  inScope h := h
  captured h := h
  inLoop _ h := h
  emptyName _ huse := by
    rintro e ⟨⟩
    exact .emptyName huse
  refused _ _ hpath _ := by
    rintro e ⟨⟩
    exact .refused hpath
  inPartial _ h := h
  loads hpath hloads := of_loads hpath hloads

end Raised

/-! ## Whole renders -/

theorem result_render (t : Template) (data : Bindings Value) :
    let done := (renderAll t.config t.nodes).run (.start data t.counters)
    (t.render data).result = done.1.map fun _ => done.2.output := rfl

/-- Nodes that use no partials raise only what their own filter calls do. -/
theorem raised_of_no_inclusion (config : Config) {nodes : List Node}
    (hinclusion : ∀ use, Node.inclusion use ∉ partsOf nodes) (ctx : Context)
    (hctx : ctx.Caches (· ∈ partsOf nodes)) :
    ∀ e ∈ failure ((renderAll config nodes).run ctx).1, Raised config (· ∈ partsOf nodes) e := by
  let deeper := renderUnfolded config (loadPartial config) (fun _ => return ())
    config.settings.maxIncludeDepth
  let partialOf := renderInclusion config (loadPartial config) deeper
  have hsat := @renderNodes_related _ _ _ _ _ (Raised.kept config _).respected partialOf partialOf
    (fun use huse => absurd huse (hinclusion use)) nodes fun _ hn => hn
  exact (hsat ctx hctx).1

theorem raised_render (t : Template) (data : Bindings Value) :
    ∀ e ∈ failure ((renderAll t.config t.nodes).run (.start data t.counters)).1,
      Raised t.config (IsPartOf t) e := by
  have hread : Reads t.config (IsPartOf t) := fun path nodes h n hn => .inr ⟨path, nodes, h, hn⟩
  have hsat := (Raised.kept t.config (IsPartOf t)).sat_renderAll hread fun _ hn => .inl hn
  exact (hsat _ (Context.caches_start _ _)).1

/--
**Only filter calls and the use of partials fail.** A template without either is rendered with any
data and any counters. Any other can only fail with an error that a filter call raises, or that the
use of a partial does: when its name is empty, its path is not in storage, its source cannot be read
or too many are active. No data make anything else fail, and nothing is converted in a render.
-/
theorem render_raises (t : Template) (data : Bindings Value) :
    ((∀ node ∈ partsOf t.nodes, node.calls = [] ∧ ∀ use, node ≠ .inclusion use) →
        ∃ text, (t.render data).result = .ok text) ∧
      ∀ e, (t.render data).result = .error e →
        Raised t.config (IsPartOf t) e ∧ ∀ cause, e ≠ .conversion cause := by
  rw [result_render]
  constructor
  · intro hplain
    have hinclusion : ∀ use, Node.inclusion use ∉ partsOf t.nodes := fun use huse =>
      (hplain _ huse).2 use rfl
    have hraised := raised_of_no_inclusion t.config hinclusion (.start data t.counters)
      (Context.caches_start _ _)
    match hrun : (renderAll t.config t.nodes).run (.start data t.counters) with
    | (.ok (), after) => exact ⟨after.output, rfl⟩
    | (.error e, after) =>
      rw [hrun] at hraised
      exact absurd (hraised e rfl) (Raised.not_of_plain hplain)
  · intro e he
    have hraised := raised_render t data
    match hrun : (renderAll t.config t.nodes).run (.start data t.counters) with
    | (.ok (), after) =>
      rw [hrun] at he
      cases he
    | (.error e, after) =>
      rw [hrun] at he hraised
      cases he
      exact ⟨hraised e rfl, (hraised e rfl).ne_conversion⟩

/-- Bounds, a subscript, a comparison and a rotation of values that are of no use there. -/
def mistyped : Template where
  config := Config.standard
  nodes :=
    [.loop "for" ⟨"i", .range (.literal (.string "x")) (.literal .nil), false, none,
        some (.literal (.string "y"))⟩
      [.output ⟨.lookup [.name "i", .subscript (.literal .nil), .selector .first], []⟩,
       .rotation ⟨"cycle", some (.literal .nil), .lookup [.name "i"], []⟩] none,
     .conditional true [.mk (some (.simple ⟨.literal .nil, some (.less, .literal (.string "a"))⟩))
       [.text "!"]]]
  counters := [("n", .string "z")]

/-- A filter call with a name that is not known. -/
def misspelled : Template where
  config := Config.standard
  nodes := [.text "a", .output ⟨.literal (.int 1), [⟨"plsu", [.literal (.int 1)], []⟩]⟩]
  counters := []

theorem render_raises_misspelled :
    (∃ text, (mistyped.render []).result = .ok text) ∧
      (misspelled.render []).result = .error (.rendering (.unknownFilter "plsu")) ∧
      Raised misspelled.config (IsPartOf misspelled) (.rendering (.unknownFilter "plsu")) := by
  have hplain : ∀ node ∈ partsOf mistyped.nodes,
      node.calls = [] ∧ ∀ use, node ≠ .inclusion use := by
    simp [mistyped, partsOf, Node.parts, otherwiseParts, branchParts, Node.calls]
  have hfails : (misspelled.render []).result = .error (.rendering (.unknownFilter "plsu")) := by
    decide +kernel
  exact ⟨(render_raises mistyped []).1 hplain, hfails, ((render_raises misspelled []).2 _ hfails).1⟩

end Stencil.Render
