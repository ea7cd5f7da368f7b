import Mathlib.Logic.Relation
import Stencil.Proofs.Render.Containment
import Stencil.Proofs.Render.Nesting
import Stencil.Proofs.Render.Sparing

/-!
# The moments of a render

A render does one thing after another, and some within others: the body of a loop for each item, the
nodes of a partial while it is active. A moment is a thing to do with what is around it: the context
that it is done in, the loops that visit an item, and the names that are bound around it. From a
moment one step leads to what is done within it, or next.

* `Step` — one step from a moment to another
* `Reached` — the moments of the render of a template
* `Step.follows` — what a step does to what is around
* `Reached.parts` — nodes that are rendered are parts of the template or of partials
-/

namespace Stencil.Render

open Stencil.Markup Stencil.Template

/-! ## Moments -/

/-- The visit of an item by a loop. -/
structure Turn where
  /-- The number of the loop. -/
  loop : Nat
  /-- What the loop visits unless it is left early. -/
  items : List Value
  /-- The item that is visited. -/
  index : Fin items.length

/-- The item that is visited. -/
def Turn.item (t : Turn) : Value := t.items[t.index]

/-- The visit of the next item. -/
def Turn.next (t : Turn) (h : t.index + 1 < t.items.length) : Turn where
  loop := t.loop
  items := t.items
  index := ⟨t.index + 1, h⟩

/-- What is around something that is done in a render. -/
structure Surroundings where
  ctx : Context
  /-- The visits that are going on, innermost first. -/
  turns : List Turn
  /-- The names that loops and partials bind around it. -/
  bound : List String

namespace Surroundings

/-- The same with another context. -/
def continued (s : Surroundings) (after : Context) : Surroundings := { s with ctx := after }

/-- Within a further scope. -/
def within (s : Surroundings) (bindings : Bindings Value) : Surroundings where
  ctx := { s.ctx with scopes := .fixed bindings :: s.ctx.scopes }
  turns := s.turns
  bound := Bindings.names bindings ++ s.bound

/-- Within a loop that visits the first of its items. -/
def inLoop (s : Surroundings) (tag : String) (items : List Value) (h : 0 < items.length) :
    Surroundings where
  ctx := loopStart tag items.length s.ctx
  turns := ⟨s.ctx.loops.size, items, ⟨0, h⟩⟩ :: s.turns
  bound := s.bound

end Surroundings

/-- Something that is done in a render. -/
inductive Task where
  | nodes (nodes : List Node)
  | node (node : Node)
  /-- A value is sent through filters. -/
  | filters (v : Value) (calls : List FilterCall)
  | branches (inverted : Bool) (branches : List Branch)
  | clauses (subject : Value) (applied : Bool) (clauses : List Clause)
  /-- The innermost loop visits its item and those behind it. -/
  | visits (name : String) (body : List Node)
  | times (body : List Node) (n : Nat)
  /-- A partial is rendered once its nodes are there. -/
  | loaded (use : Inclusion) (path : String) (nodes : List Node)
  /-- Nodes are rendered with a value bound to a name. -/
  | target (name : String) (v : Value) (nodes : List Node)
  /-- Nodes are rendered for each item. -/
  | each (name : String) (items : List Value) (nodes : List Node)

/-- A moment of a render. -/
structure Moment extends Surroundings where
  task : Task

/-- The render of the partial that a tag uses. -/
def renderUse (config : Config) : Inclusion → Render Unit :=
  renderInclusion config (loadPartial config) (renderAll config)

/-- Nodes are rendered with the partials they use. -/
theorem renderAll_eq (config : Config) (nodes : List Node) :
    renderAll config nodes = renderNodes config (renderUse config) nodes :=
  (eq_renderAll_iff config (renderAll config)).mpr rfl nodes

/-! ## Steps -/

/-- The items that a loop visits unless it is left early. -/
def itemsAt (config : Config) (header : LoopHeader) (ctx : Context) : List Value :=
  (itemsOf header (ctx.view config)).toList

theorem length_itemsAt (config : Config) (header : LoopHeader) (ctx : Context) :
    (itemsAt config header ctx).length = (itemsOf header (ctx.view config)).count :=
  Items.length_toList _

/-- The variables that a tag hands to a partial. -/
def localsOf (use : Inclusion) (view : View) : Bindings Value :=
  Bindings.ofList (use.locals.map fun (name, e) => (name, e.value view))

/-- The value that a partial is rendered with. -/
def targetOf (use : Inclusion) (path : String) (view : View) : Value :=
  use.target.elim (view.read (partialName path)) (·.value view)

/-- One step of a render, to what is done within a moment or next. -/
inductive Step (config : Config) : Moment → Moment → Prop where
  | first {s node rest} : Step config ⟨s, .nodes (node :: rest)⟩ ⟨s, .node node⟩
  | rest {s node rest after} : renderNode config (renderUse config) node s.ctx = (.ok (), after) →
    after.isInterrupted = false →
    Step config ⟨s, .nodes (node :: rest)⟩ ⟨s.continued after, .nodes rest⟩
  | output {s pipeline} : Step config ⟨s, .node (.output pipeline)⟩
    ⟨s, .filters (pipeline.source.value (s.ctx.view config)) pipeline.filters⟩
  | assign {s name pipeline} : Step config ⟨s, .node (.assign name pipeline)⟩
    ⟨s, .filters (pipeline.source.value (s.ctx.view config)) pipeline.filters⟩
  | filter {s v call rest result after} :
    applyFilter config v call s.ctx = (.ok result, after) →
    Step config ⟨s, .filters v (call :: rest)⟩ ⟨s.continued after, .filters result rest⟩
  | conditional {s inverted branches} : Step config ⟨s, .node (.conditional inverted branches)⟩
    ⟨s, .branches inverted branches⟩
  | taken {s inverted condition body rest} : isTaken inverted condition (s.ctx.view config) = true →
    Step config ⟨s, .branches inverted (.mk condition body :: rest)⟩ ⟨s, .nodes body⟩
  | notTaken {s inverted condition body rest} :
    isTaken inverted condition (s.ctx.view config) = false →
    Step config ⟨s, .branches inverted (.mk condition body :: rest)⟩ ⟨s, .branches false rest⟩
  | loop {s : Surroundings} {tag header body otherwise}
    (h : 0 < (itemsAt config header s.ctx).length) :
    Step config ⟨s, .node (.loop tag header body otherwise)⟩
      ⟨s.inLoop tag (itemsAt config header s.ctx) h, .visits header.item body⟩
  | empty {s tag header body nodes} : itemsAt config header s.ctx = [] →
    Step config ⟨s, .node (.loop tag header body (some nodes))⟩ ⟨s, .nodes nodes⟩
  | visit {s : Surroundings} {turn : Turn} {outer name body} : s.turns = turn :: outer →
    Step config ⟨s, .visits name body⟩ ⟨s.within [(name, turn.item)], .nodes body⟩
  | next {s : Surroundings} {turn : Turn} {outer name body left}
    (h : turn.index + 1 < turn.items.length) :
    s.turns = turn :: outer →
    inScope (.fixed [(name, turn.item)]) (renderAll config body) s.ctx = (.ok (), left) →
    left.interrupts.head? ≠ some .breakLoop →
    Step config ⟨s, .visits name body⟩
      ⟨⟨afterVisit turn.loop left, turn.next h :: outer, s.bound⟩, .visits name body⟩
  | choice {s subject clauses} : Step config ⟨s, .node (.choice subject clauses)⟩
    ⟨s, .clauses (subject.value (s.ctx.view config)) false clauses⟩
  | otherwise {s subject body rest} :
    Step config ⟨s, .clauses subject false (.mk .otherwise body :: rest)⟩ ⟨s, .nodes body⟩
  | passed {s subject body rest} :
    Step config ⟨s, .clauses subject true (.mk .otherwise body :: rest)⟩
      ⟨s, .clauses subject true rest⟩
  | applies {s subject applied values body rest} :
    applies values subject (s.ctx.view config) = true →
    Step config ⟨s, .clauses subject applied (.mk (.among values) body :: rest)⟩ ⟨s, .nodes body⟩
  | applied {s subject applied values body rest after} :
    Render.applies values subject (s.ctx.view config) = true →
    renderAll config body s.ctx = (.ok (), after) → after.isInterrupted = false →
    Step config ⟨s, .clauses subject applied (.mk (.among values) body :: rest)⟩
      ⟨s.continued after, .clauses subject true rest⟩
  | unlike {s subject applied values body rest} :
    Render.applies values subject (s.ctx.view config) = false →
    Step config ⟨s, .clauses subject applied (.mk (.among values) body :: rest)⟩
      ⟨s, .clauses subject applied rest⟩
  | capture {s name body} : Step config ⟨s, .node (.capture name body)⟩
    ⟨s.continued { s.ctx with output := "" }, .nodes body⟩
  | repetition {s n body} : Step config ⟨s, .node (.repetition n body)⟩
    ⟨s, .times body (n.value (s.ctx.view config)).toCount⟩
  | time {s body n} : Step config ⟨s, .times body (n + 1)⟩ ⟨s, .nodes body⟩
  | again {s body n after} : renderAll config body s.ctx = (.ok (), after) →
    Step config ⟨s, .times body (n + 1)⟩ ⟨s.continued after, .times body n⟩
  | inclusion {s use path nodes after} : pathOf config use s.ctx = (.ok path, s.ctx) →
    s.ctx.depth < config.settings.maxIncludeDepth →
    loadPartial config path (s.ctx.enter path) = (.ok nodes, after) →
    Step config ⟨s, .node (.inclusion use)⟩ ⟨s.continued after, .loaded use path nodes⟩
  | locals {s use path nodes} : Step config ⟨s, .loaded use path nodes⟩
    ⟨s.within (localsOf use (s.ctx.view config)),
      .target (partialName path) (targetOf use path (s.ctx.view config)) nodes⟩
  | unbound {s name nodes} : Step config ⟨s, .target name .nil nodes⟩ ⟨s, .nodes nodes⟩
  | items {s name items nodes} : Step config ⟨s, .target name (.array items) nodes⟩
    ⟨s, .each name items nodes⟩
  | single {s name v nodes} : v.isNil = false → v.isArray = false →
    Step config ⟨s, .target name v nodes⟩ ⟨s.within [(name, v)], .nodes nodes⟩
  | item {s name item rest nodes} : Step config ⟨s, .each name (item :: rest) nodes⟩
    ⟨s.within [(name, item)], .nodes nodes⟩
  | nextItem {s name item rest nodes after} :
    inScope (.fixed [(name, item)]) (renderAll config nodes) s.ctx = (.ok (), after) →
    after.isInterrupted = false →
    Step config ⟨s, .each name (item :: rest) nodes⟩ ⟨s.continued after, .each name rest nodes⟩

/-- The first moment of the render of a template. -/
def Moment.start (t : Template) (data : Bindings Value) : Moment :=
  ⟨⟨.start data t.counters, [], []⟩, .nodes t.nodes⟩

/-- The moments of the render of a template. -/
def Reached (t : Template) (data : Bindings Value) : Moment → Prop :=
  Relation.ReflTransGen (Step t.config) (.start t data)

/-! ## What a step does to what is around -/

variable {config : Config}

/-- A render of nodes: it leaves the loops around it alone, and has every kept property that it has
if the nodes have a property. -/
structure Renders (config : Config) (parts : List Node) (r : Render Unit) : Prop where
  spares (bound : Nat) : Spares bound r
  sat {p : Node → Prop} {Q : Context → Option Error → Context → Prop} : Kept config p Q →
    Reads config p → (∀ n ∈ parts, p n) → Sat p Q r

namespace Renders

theorem nodes (nodes : List Node) : Renders config (partsOf nodes) (renderAll config nodes) where
  spares _ := .renderAll nodes
  sat hkept hread hnodes := hkept.sat_renderAll hread hnodes

theorem node (node : Node) :
    Renders config node.parts (renderNode config (renderUse config) node) where
  spares bound := @renderNode_related _ _ _ _ _ (Spares.respected config bound) _ (renderUse config)
    (fun use _ => .renderInclusion (fun nodes => .renderAll nodes) use) node fun _ _ => trivial
  sat hkept hread hnodes := @renderNode_related _ _ _ _ _ hkept.respected _ (renderUse config)
    (fun _ huse => hkept.sat_renderInclusion hread (fun _ h => hkept.sat_renderAll hread h) huse)
    node hnodes

theorem inScope {parts : List Node} {r : Render Unit} (h : Renders config parts r)
    (bindings : Bindings Value) : Renders config parts (inScope (.fixed bindings) r) where
  spares bound := (h.spares bound).inScope bindings
  sat hkept hread hnodes := hkept.sat_inScope bindings (h.sat hkept hread hnodes)

end Renders

/-- The nodes that a task is about. -/
def Task.parts : Task → List Node
  | .node n => n.parts
  | .filters .. => []
  | .branches _ bs => branchParts bs
  | .clauses _ _ cs => clauseParts cs
  | .nodes ns | .visits _ ns | .times ns _ | .loaded _ _ ns | .target _ _ ns | .each _ _ ns =>
    partsOf ns

/-- What may be around the moment behind another. -/
inductive Follows (config : Config) (m : Moment) : Surroundings → Prop where
  /-- Neither variables nor loops nor registers have changed. -/
  | quiet {after : Context} : after.scopes = m.ctx.scopes → after.loops = m.ctx.loops →
    after.registers = m.ctx.registers → Follows config m (m.continued after)
  /-- Some nodes have been rendered. -/
  | rendered {parts : List Node} {r : Render Unit} : Renders config parts r →
    parts ⊆ m.task.parts → Follows config m (m.continued (r m.ctx).2)
  /-- A partial has been loaded. -/
  | loaded {path : String} {nodes : List Node} {after : Context} :
    Loads config path (m.ctx.enter path) (.ok nodes, after) → Follows config m (m.continued after)
  /-- There is one scope more. -/
  | within (bindings : Bindings Value) : Follows config m (m.within bindings)
  /-- A loop has been started. -/
  | started {tag : String} {header : LoopHeader} {body : List Node}
    {otherwise : Option (List Node)} {items : List Value} (h : 0 < items.length) :
    .loop tag header body otherwise ∈ m.task.parts → Follows config m (m.inLoop tag items h)
  /-- The innermost loop has visited its item. -/
  | visited {turn : Turn} {outer : List Turn} {parts : List Node} {r : Render Unit}
    (h : turn.index + 1 < turn.items.length) : m.turns = turn :: outer →
    Renders config parts r → parts ⊆ m.task.parts →
    Follows config m ⟨afterVisit turn.loop (r m.ctx).2, turn.next h :: outer, m.bound⟩

theorem Follows.refl (m : Moment) : Follows config m m.toSurroundings :=
  .quiet rfl rfl rfl

/-- The call of a filter changes nothing that expressions can see. -/
theorem follows_applyFilter {m : Moment} (v : Value) (call : FilterCall) :
    Follows config m (m.continued (applyFilter config v call m.ctx).2) := by
  obtain ⟨journal, hjournal⟩ := exists_journal_applyFilter config v call m.ctx
  rw [hjournal]
  exact .quiet rfl rfl rfl

theorem Follows.of_renders {m : Moment} {parts : List Node} {r : Render Unit} {after : Context}
    (h : Renders config parts r) (hparts : parts ⊆ m.task.parts)
    (hrun : r m.ctx = (.ok (), after)) : Follows config m (m.continued after) := by
  have hafter : after = (r m.ctx).2 := by rw [hrun]
  rw [hafter]
  exact .rendered h hparts

/-- **What a step does to what is around.** -/
theorem Step.follows {m m' : Moment} (h : Step config m m') :
    Follows config m m'.toSurroundings := by
  cases h with
  | first => exact .refl _
  | rest hrun _ => exact .of_renders (.node _) (List.subset_append_left _ _) hrun
  | output => exact .refl _
  | assign => exact .refl _
  | @filter s v call rest result after hrun =>
    have hafter : after = (applyFilter config v call s.ctx).2 := by rw [hrun]
    rw [hafter]
    exact follows_applyFilter v call
  | conditional => exact .refl _
  | taken _ => exact .refl _
  | notTaken _ => exact .refl _
  | loop hitems => exact .started hitems (mem_parts_self _)
  | empty _ => exact .refl _
  | visit _ => exact .within _
  | @next s turn outer name body left hnext hturns hrun _ =>
    have hleft : left = (inScope (.fixed [(name, turn.item)]) (renderAll config body) s.ctx).2 := by
      rw [hrun]
    rw [hleft]
    exact .visited hnext hturns ((Renders.nodes body).inScope _) (List.Subset.refl _)
  | choice => exact .refl _
  | otherwise => exact .refl _
  | passed => exact .refl _
  | applies _ => exact .refl _
  | applied _ hrun _ => exact .of_renders (.nodes _) (List.subset_append_left _ _) hrun
  | unlike _ => exact .refl _
  | capture => exact .quiet rfl rfl rfl
  | repetition => exact .refl _
  | time => exact .refl _
  | again hrun => exact .of_renders (.nodes _) (List.Subset.refl _) hrun
  | @inclusion s use path nodes after _ _ hload =>
    have hloads := loads_loadPartial config path (s.ctx.enter path)
    rw [hload] at hloads
    exact .loaded hloads
  | locals => exact .within _
  | unbound => exact .refl _
  | items => exact .refl _
  | single _ _ => exact .within _
  | item => exact .within _
  | nextItem hrun _ =>
    exact .of_renders ((Renders.nodes _).inScope _) (List.Subset.refl _) hrun

/-- The nodes of a moment are parts of those of the moment before, or of a partial. -/
theorem Step.parts {m m' : Moment} (h : Step config m m') {p : Node → Prop}
    (hread : Reads config p) (hcaches : m.ctx.Caches p) (hm : ∀ n ∈ m.task.parts, p n) :
    ∀ n ∈ m'.task.parts, p n := by
  cases h with
  | first => exact fun n hn => hm n (List.mem_append_left _ hn)
  | rest _ _ => exact fun n hn => hm n (List.mem_append_right _ hn)
  | output | assign | filter _ => exact List.forall_mem_nil _
  | conditional | choice | capture | repetition =>
    exact fun n hn => hm n (List.mem_cons_of_mem _ hn)
  | taken _ | otherwise | applies _ => exact fun n hn => hm n (List.mem_append_left _ hn)
  | notTaken _ | passed | applied _ _ _ | unlike _ =>
    exact fun n hn => hm n (List.mem_append_right _ hn)
  | loop _ =>
    exact fun n hn => hm n (List.mem_cons_of_mem _ (List.mem_append_left _ hn))
  | empty _ =>
    exact fun n hn => hm n (List.mem_cons_of_mem _ (List.mem_append_right _ hn))
  | @inclusion s use path nodes after _ _ hload =>
    have hloads := loads_loadPartial config path (s.ctx.enter path)
    rw [hload] at hloads
    exact (hloads.caches hread (hcaches.congr rfl)).2 nodes rfl
  | visit _ | next _ _ _ _ | time | again _ | locals | unbound | items | single _ _ | item
  | nextItem _ _ => exact hm

/-- Every render has the property that says nothing. -/
theorem Kept.trivial (config : Config) (p : Node → Prop) : Kept config p fun _ _ _ => True := by
  constructor <;> intros <;> exact True.intro

/-- A step leaves nothing in the cache but nodes with a property, if all nodes have it. -/
theorem Follows.caches {m : Moment} {s : Surroundings} (h : Follows config m s) {p : Node → Prop}
    (hread : Reads config p) (hparts : ∀ n ∈ m.task.parts, p n) (hm : m.ctx.Caches p) :
    s.ctx.Caches p := by
  have hrendered : ∀ {parts : List Node} {r : Render Unit}, Renders config parts r →
      parts ⊆ m.task.parts → (r m.ctx).2.Caches p := fun hrenders hsub =>
    (hrenders.sat (.trivial config p) hread (fun n hn => hparts n (hsub hn)) m.ctx hm).2
  cases h with
  | quiet _ _ hregisters => exact hm.congr hregisters
  | rendered hrenders hsub => exact hrendered hrenders hsub
  | loaded hloads => exact (hloads.caches hread (hm.congr rfl)).1
  | within bindings => exact hm.congr rfl
  | started hitems _ => exact Context.Caches.remember (hm.congr rfl) _ (by simp)
  | visited hnext _ hrenders hsub => exact (hrendered hrenders hsub).congr rfl

/-- **The nodes of all moments have a property** that those of the template and of all partials
have. -/
theorem Reached.parts {t : Template} {data : Bindings Value} {m : Moment} (h : Reached t data m)
    {p : Node → Prop} (hread : Reads t.config p) (hnodes : ∀ n ∈ partsOf t.nodes, p n) :
    m.ctx.Caches p ∧ ∀ n ∈ m.task.parts, p n := by
  induction h with
  | refl => exact ⟨Context.caches_start _ _, hnodes⟩
  | tail _ hstep ih =>
    exact ⟨hstep.follows.caches hread ih.2 ih.1, hstep.parts hread ih.1 ih.2⟩

end Stencil.Render
