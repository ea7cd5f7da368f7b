import Stencil.Proofs.Render.Reading
import Stencil.Proofs.Template.Built
import Stencil.Render.Partial

/-!
# Relations between renders

Nodes are rendered by few operations. A relation between renders that all of these respect holds
between the renders of nodes with two ways of rendering partials, if it holds between the two ways.
The two renders may see different things, as long as the expressions of all nodes have the same
values in both views.

* `Respected` — what a relation has to satisfy, by operation
* `renderNodes_related` — the relation between the renders of nodes
-/

namespace Stencil.Render

open Stencil.Markup Stencil.Template

/-- A relation between renders that all operations respect, where all nodes have a property, the
numbers of all loops that are started have another, and the views of both renders are related. -/
structure Respected (config : Config) (p : Node → Prop) (N : Nat → Prop) (V : View → View → Prop)
    (R : (α : Type) → Render α → Render α → Prop) : Prop where
  pure {α : Type} (a : α) : R α (pure a) (pure a)
  bind {α β : Type} {r r' : Render α} {f f' : α → Render β} :
    R α r r' → (∀ a, R β (f a) (f' a)) → R β (r >>= f) (r' >>= f')
  view {β : Type} {f f' : View → Render β} : (∀ v v', V v v' → R β (f v) (f' v')) →
    R β (ask (·.view config) >>= f) (ask (·.view config) >>= f')
  values {node : Node} {v v' : View} : p node → V v v' →
    ∀ e ∈ node.expressions, e.value v = e.value v'
  applyFilter {node : Node} {call : FilterCall} (v : Value) : p node → call ∈ node.calls →
    R Value (applyFilter config v call) (applyFilter config v call)
  emit (text : String) : R Unit (emit text) (emit text)
  assign (name : String) (v : Value) : R Unit (assign name v) (assign name v)
  count (direction : Direction) (name : String) : p (.counter direction name) →
    R Unit (count direction name) (count direction name)
  rotate (r : Rotation) : p (.rotation r) → R Unit (rotate config r) (rotate config r)
  isInterrupted : R Bool isInterrupted isInterrupted
  interrupt (kind : Interrupt) : R Unit (interrupt kind) (interrupt kind)
  takeInterrupt : R (Option Interrupt) takeInterrupt takeInterrupt
  advanceLoop {number : Nat} : N number → R Unit (advanceLoop number) (advanceLoop number)
  inScope (bindings : Bindings Value) {r r' : Render Unit} :
    R Unit r r' → R Unit (inScope (.fixed bindings) r) (inScope (.fixed bindings) r')
  captured {r r' : Render Unit} : R Unit r r' → R String (captured r) (captured r')
  inLoop {tag : String} {header : LoopHeader} {body : List Node} {otherwise : Option (List Node)}
    (length : Nat) {r r' : Nat → Render Unit} : p (.loop tag header body otherwise) →
    (∀ number, N number → R Unit (r number) (r' number)) →
    R Unit (inLoop (loopRegister tag) length r) (inLoop (loopRegister tag) length r')

variable {config : Config} {p : Node → Prop} {N : Nat → Prop} {V : View → View → Prop}
  {R : (α : Type) → Render α → Render α → Prop}

namespace Respected

/-! ## Parts of nodes -/

theorem unlessInterrupted (h : Respected config p N V R) {r r' : Render Unit} (hr : R Unit r r') :
    R Unit (unlessInterrupted r) (Render.unlessInterrupted r') := by
  refine h.bind h.isInterrupted fun pending => ?_
  split
  · exact h.pure ()
  · exact hr

theorem evaluate (h : Respected config p N V R) {node : Node} (hp : p node) {pipeline : Pipeline}
    (hsource : pipeline.source ∈ node.expressions)
    (hcalls : ∀ call ∈ pipeline.filters, call ∈ node.calls) :
    R Value (evaluate config pipeline) (Render.evaluate config pipeline) := by
  refine h.view fun view view' hview => ?_
  rw [h.values hp hview _ hsource]
  show R Value (pipeline.filters.foldlM (Render.applyFilter config) (pipeline.source.value view'))
    (pipeline.filters.foldlM (Render.applyFilter config) (pipeline.source.value view'))
  generalize pipeline.source.value view' = v
  generalize pipeline.filters = calls at hcalls ⊢
  -- The value goes from filter to filter, so the induction is for any value.
  induction calls generalizing v with
  | nil => exact h.pure v
  | cons call rest ih =>
    obtain ⟨hcall, hrest⟩ := List.forall_mem_cons.mp hcalls
    rw [List.foldlM_cons]
    exact h.bind (h.applyFilter v hp hcall) fun v => ih v hrest

theorem visit (h : Respected config p N V R) {number : Nat} (hnumber : N number)
    {f f' : Value → Render Unit} (hf : ∀ v, R Unit (f v) (f' v)) (n : Nat) (items : Items) :
    R Unit (visit number f n items) (Render.visit number f' n items) := by
  induction n generalizing items with
  | zero => exact h.pure ()
  | succ n ih =>
    simp only [Render.visit]
    split
    · exact h.pure ()
    · refine h.bind (hf _) fun _ => h.bind (h.advanceLoop hnumber) fun _ => ?_
      refine h.bind h.takeInterrupt fun taken => ?_
      split
      · exact h.pure ()
      · exact ih _

theorem runLoop (h : Respected config p N V R) {tag : String} {header : LoopHeader}
    {body : List Node} {otherwise : Option (List Node)} (hp : p (.loop tag header body otherwise))
    (name : String) (items : Items) {r r' : Render Unit} (hr : R Unit r r') :
    R Unit (runLoop tag name items r) (Render.runLoop tag name items r') := by
  refine h.inLoop _ hp fun number hnumber => h.inScope _ ?_
  exact h.visit hnumber (fun _ => h.inScope _ hr) _ _

theorem times (h : Respected config p N V R) {r r' : Render Unit} (hr : R Unit r r') (n : Nat) :
    R Unit (times r n) (Render.times r' n) := by
  induction n with
  | zero => exact h.pure ()
  | succ n ih => exact h.bind hr fun _ => ih

theorem eachItem (h : Respected config p N V R) (name : String) {r r' : Render Unit}
    (hr : R Unit r r') (items : List Value) :
    R Unit (eachItem name r items) (Render.eachItem name r' items) := by
  induction items with
  | nil => exact h.pure ()
  | cons item rest ih => exact h.bind (h.inScope _ hr) fun _ => h.unlessInterrupted ih

theorem withTarget (h : Respected config p N V R) (name : String) (v : Value) {r r' : Render Unit}
    (hr : R Unit r r') :
    R Unit (withTarget name v r) (Render.withTarget name v r') := by
  unfold Render.withTarget
  split
  · exact h.eachItem name hr _
  · exact hr
  · exact h.inScope _ hr

end Respected

/-! ## Nodes -/

mutual

theorem renderNode_related (h : Respected config p N V R) {q q' : Inclusion → Render Unit}
    (hq : ∀ use, p (.inclusion use) → R Unit (q use) (q' use)) :
    (node : Node) → (∀ n ∈ node.parts, p n) →
      R Unit (renderNode config q node) (renderNode config q' node)
  | .text content, _ => by
    simp only [renderNode]
    exact h.emit content
  | .output pipeline, hp => by
    simp only [renderNode]
    refine h.bind ?_ fun v => h.emit _
    exact h.evaluate (hp _ (mem_parts_self _)) List.mem_cons_self fun _ hcall => hcall
  | .conditional inverted branches, hp => by
    simp only [Node.parts, List.forall_mem_cons] at hp
    simp only [renderNode]
    exact renderBranches_related h hq inverted branches hp.2 (h.values hp.1)
  | .loop tag header body none, hp => by
    simp only [Node.parts, List.forall_mem_cons, List.forall_mem_append] at hp
    simp only [renderNode]
    refine h.view fun view view' hview => ?_
    rw [itemsOf_congr (h.values hp.1 hview)]
    split
    · exact h.pure ()
    · exact h.runLoop hp.1 _ _ (renderNodes_related h hq body hp.2.1)
  | .loop tag header body (some nodes), hp => by
    simp only [Node.parts, List.forall_mem_cons, List.forall_mem_append] at hp
    simp only [renderNode]
    refine h.view fun view view' hview => ?_
    rw [itemsOf_congr (h.values hp.1 hview)]
    split
    · exact renderNodes_related h hq nodes hp.2.2
    · exact h.runLoop hp.1 _ _ (renderNodes_related h hq body hp.2.1)
  | .choice subject clauses, hp => by
    simp only [Node.parts, List.forall_mem_cons] at hp
    simp only [renderNode]
    refine h.view fun view view' hview => ?_
    rw [h.values hp.1 hview subject List.mem_cons_self]
    exact renderClauses_related h hq _ false clauses hp.2 fun hview e he =>
      h.values hp.1 hview e (List.mem_cons_of_mem _ he)
  | .rotation values, hp => by
    simp only [renderNode]
    exact h.rotate values (hp _ (mem_parts_self _))
  | .assign name pipeline, hp => by
    simp only [renderNode]
    refine h.bind ?_ fun v => h.assign name v
    exact h.evaluate (hp _ (mem_parts_self _)) List.mem_cons_self fun _ hcall => hcall
  | .capture name body, hp => by
    simp only [Node.parts, List.forall_mem_cons] at hp
    simp only [renderNode]
    refine h.bind (h.captured (renderNodes_related h hq body hp.2)) fun text => ?_
    exact h.assign name _
  | .comment, _ => by
    simp only [renderNode]
    exact h.pure ()
  | .counter direction name, hp => by
    simp only [renderNode]
    exact h.count direction name (hp _ (mem_parts_self _))
  | .interrupt kind, _ => by
    simp only [renderNode]
    exact h.interrupt kind
  | .inclusion use, hp => by
    simp only [renderNode]
    exact hq use (hp _ (mem_parts_self _))
  | .repetition n body, hp => by
    simp only [Node.parts, List.forall_mem_cons] at hp
    simp only [renderNode]
    refine h.view fun view view' hview => ?_
    rw [h.values hp.1 hview n List.mem_cons_self]
    exact h.times (renderNodes_related h hq body hp.2) _

/-- **The renders of nodes are related if those of the partials they use are.** -/
theorem renderNodes_related (h : Respected config p N V R) {q q' : Inclusion → Render Unit}
    (hq : ∀ use, p (.inclusion use) → R Unit (q use) (q' use)) :
    (nodes : List Node) → (∀ n ∈ partsOf nodes, p n) →
      R Unit (renderNodes config q nodes) (renderNodes config q' nodes)
  | [], _ => by
    simp only [renderNodes]
    exact h.pure ()
  | node :: rest, hp => by
    simp only [partsOf, List.forall_mem_append] at hp
    simp only [renderNodes]
    refine h.bind (renderNode_related h hq node hp.1) fun _ => ?_
    exact h.unlessInterrupted (renderNodes_related h hq rest hp.2)

theorem renderBranches_related (h : Respected config p N V R) {q q' : Inclusion → Render Unit}
    (hq : ∀ use, p (.inclusion use) → R Unit (q use) (q' use)) (inverted : Bool) :
    (branches : List Branch) → (∀ n ∈ branchParts branches, p n) →
      (∀ {v v'}, V v v' → ∀ e ∈ branchExpressions branches, e.value v = e.value v') →
      R Unit (renderBranches config q inverted branches)
        (renderBranches config q' inverted branches)
  | [], _, _ => by
    simp only [renderBranches]
    exact h.pure ()
  | .mk condition body :: rest, hp, hvalues => by
    simp only [branchParts, List.forall_mem_append] at hp
    simp only [branchExpressions, List.forall_mem_append] at hvalues
    simp only [renderBranches]
    refine h.view fun view view' hview => ?_
    rw [isTaken_congr inverted (hvalues hview).1]
    split
    · exact renderNodes_related h hq body hp.1
    · exact renderBranches_related h hq false rest hp.2 fun hview => (hvalues hview).2

theorem renderClauses_related (h : Respected config p N V R) {q q' : Inclusion → Render Unit}
    (hq : ∀ use, p (.inclusion use) → R Unit (q use) (q' use)) (subject : Value)
    (applied : Bool) :
    (clauses : List Clause) → (∀ n ∈ clauseParts clauses, p n) →
      (∀ {v v'}, V v v' → ∀ e ∈ clauseExpressions clauses, e.value v = e.value v') →
      R Unit (renderClauses config q subject applied clauses)
        (renderClauses config q' subject applied clauses)
  | [], _, _ => by
    simp only [renderClauses]
    exact h.pure ()
  | .mk .otherwise body :: rest, hp, hvalues => by
    simp only [clauseParts, List.forall_mem_append] at hp
    simp only [clauseExpressions, List.forall_mem_append] at hvalues
    simp only [renderClauses]
    split
    · exact renderClauses_related h hq subject applied rest hp.2 fun hview => (hvalues hview).2
    · exact renderNodes_related h hq body hp.1
  | .mk (.among values) body :: rest, hp, hvalues => by
    simp only [clauseParts, List.forall_mem_append] at hp
    simp only [clauseExpressions, Label.expressions, List.forall_mem_append] at hvalues
    simp only [renderClauses]
    refine h.view fun view view' hview => ?_
    rw [applies_congr subject (hvalues hview).1]
    split
    · refine h.bind (renderNodes_related h hq body hp.1) fun _ => ?_
      exact h.unlessInterrupted
        (renderClauses_related h hq subject true rest hp.2 fun hview => (hvalues hview).2)
    · exact renderClauses_related h hq subject applied rest hp.2 fun hview => (hvalues hview).2

end

end Stencil.Render
