import Stencil.Render.Node

/-!
# What nodes evaluate

A node evaluates expressions of its own, besides what the nodes within it do. It depends on what it
can see through the values of these only.

* `Node.expressions`, `Node.calls` — the expressions and the filter calls of a node
* `isTaken_congr`, `itemsOf_congr`, `applies_congr`, `groupOf_congr` — expressions with the same
  values decide alike
-/

namespace Stencil

/-! ## Expressions of nodes -/

namespace Markup

/-- The expressions of a simple condition. -/
def Comparison.expressions (c : Comparison) : List Expression :=
  c.left :: (c.right.map (·.2)).toList

/-- The expressions of a condition. -/
def Condition.expressions : Condition → List Expression
  | .simple test => test.expressions
  | .linked test _ rest => test.expressions ++ rest.expressions

/-- The arguments of a filter call. -/
def FilterCall.expressions (call : FilterCall) : List Expression :=
  call.arguments ++ call.named.map (·.2)

/-- The expressions of a pipeline. -/
def Pipeline.expressions (p : Pipeline) : List Expression :=
  p.source :: p.filters.flatMap (·.expressions)

end Markup

namespace Template

open Markup

/-- The expressions of what a loop runs over. -/
def LoopSource.expressions : LoopSource → List Expression
  | .range first last => [first, last]
  | .collection e => [e]

/-- The expressions of the head of a loop. -/
def LoopHeader.expressions (header : LoopHeader) : List Expression :=
  header.source.expressions ++ (header.limit.toList ++ header.offset.toList)

/-- The values that a clause applies to. -/
def Label.expressions : Label → List Expression
  | .among values => values
  | .otherwise => []

/-- The group and the values of a rotation. -/
def Rotation.expressions (r : Rotation) : List Expression :=
  r.group.toList ++ r.values

/-- The expressions of the use of a partial. -/
def Inclusion.expressions (use : Inclusion) : List Expression :=
  use.template :: (use.target.toList ++ use.locals.map (·.2))

/-- The conditions of branches. -/
def branchExpressions : List Branch → List Expression
  | [] => []
  | .mk condition _ :: rest => condition.elim [] (·.expressions) ++ branchExpressions rest

/-- The values that clauses apply to. -/
def clauseExpressions : List Clause → List Expression
  | [] => []
  | .mk label _ :: rest => label.expressions ++ clauseExpressions rest

/-- The expressions of a node itself. -/
def Node.expressions : Node → List Expression
  | .output pipeline => pipeline.expressions
  | .conditional _ branches => branchExpressions branches
  | .loop _ header _ _ => header.expressions
  | .choice subject clauses => subject :: clauseExpressions clauses
  | .rotation r => r.expressions
  | .assign _ pipeline => pipeline.expressions
  | .inclusion use => use.expressions
  | .repetition times _ => [times]
  | .text _ | .capture .. | .comment | .counter .. | .interrupt _ => []

/-- The filter calls of a node itself. -/
def Node.calls : Node → List FilterCall
  | .output pipeline => pipeline.filters
  | .assign _ pipeline => pipeline.filters
  | _ => []

/-- The arguments of its filter calls are expressions of a node. -/
theorem Node.mem_expressions_of_call {node : Node} {call : FilterCall} {e : Expression}
    (hcall : call ∈ node.calls) (he : e ∈ call.expressions) : e ∈ node.expressions := by
  have hpipeline : ∀ p : Pipeline, call ∈ p.filters → e ∈ p.expressions := fun p hp =>
    List.mem_cons_of_mem _ (List.mem_flatMap.mpr ⟨call, hp, he⟩)
  cases node with
  | output p => exact hpipeline p hcall
  | assign name p => exact hpipeline p hcall
  | _ => cases hcall

end Template

namespace Render

open Markup Template

/-! ## Values decide -/

variable {v v' : View}

theorem Comparison.holds_congr {c : Comparison}
    (h : ∀ e ∈ c.expressions, e.value v = e.value v') : c.holds v = c.holds v' := by
  obtain ⟨left, _ | ⟨operator, right⟩⟩ := c
  · have hleft : left.value v = left.value v' := h left List.mem_cons_self
    simp only [Comparison.holds, hleft]
  · have hleft : left.value v = left.value v' := h left List.mem_cons_self
    have hright : right.value v = right.value v' := h right (by simp [Comparison.expressions])
    simp only [Comparison.holds, hleft, hright]

theorem Condition.holds_congr {c : Condition}
    (h : ∀ e ∈ c.expressions, e.value v = e.value v') : c.holds v = c.holds v' := by
  induction c with
  | simple test => exact Comparison.holds_congr h
  | linked test connective rest ih =>
    simp only [Condition.expressions, List.forall_mem_append] at h
    have htest := Comparison.holds_congr h.1
    have hrest := ih h.2
    cases connective with
    | and | or => simp only [Condition.holds, htest, hrest]

theorem isTaken_congr (inverted : Bool) {condition : Option Condition}
    (h : ∀ e ∈ condition.elim [] (·.expressions), e.value v = e.value v') :
    isTaken inverted condition v = isTaken inverted condition v' := by
  cases condition with
  | none => rfl
  | some c => simp only [isTaken, Option.all_some, Condition.holds_congr h]

theorem itemsOf_congr {header : LoopHeader}
    (h : ∀ e ∈ header.expressions, e.value v = e.value v') :
    itemsOf header v = itemsOf header v' := by
  simp only [LoopHeader.expressions, List.forall_mem_append] at h
  obtain ⟨hsource, hlimit, hoffset⟩ := h
  have hmap : ∀ o : Option Expression, (∀ e ∈ o.toList, e.value v = e.value v') →
      (o.map fun e => (e.value v).toCount) = o.map fun e => (e.value v').toCount := by
    intro o ho
    refine Option.map_congr fun e he => ?_
    rw [ho e (Option.mem_toList.mpr he)]
  obtain ⟨item, source, reversed, limit, offset⟩ := header
  unfold itemsOf
  dsimp only at hsource hlimit hoffset ⊢
  rw [hmap limit hlimit, hmap offset hoffset]
  cases source with
  | range first last =>
    have hfirst : first.value v = first.value v' := hsource first (by simp [LoopSource.expressions])
    have hlast : last.value v = last.value v' := hsource last (by simp [LoopSource.expressions])
    dsimp only
    rw [hfirst, hlast]
  | collection e =>
    have he : e.value v = e.value v' := hsource e (by simp [LoopSource.expressions])
    dsimp only
    rw [he]

theorem applies_congr {values : List Expression} (subject : Value)
    (h : ∀ e ∈ values, e.value v = e.value v') :
    applies values subject v = applies values subject v' := by
  unfold applies
  induction values with
  | nil => rfl
  | cons e rest ih =>
    obtain ⟨he, hrest⟩ := List.forall_mem_cons.mp h
    rw [List.any_cons, List.any_cons, he, ih hrest]

theorem groupOf_congr {r : Rotation} (h : ∀ e ∈ r.expressions, e.value v = e.value v') :
    groupOf r v = groupOf r v' := by
  unfold groupOf
  cases hgroup : r.group with
  | none => rfl
  | some e =>
    have he : e.value v = e.value v' := h e (by simp [Rotation.expressions, hgroup])
    simp only [he]

end Render

end Stencil
