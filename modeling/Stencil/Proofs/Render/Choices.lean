import Stencil.Proofs.Render.Moments
import Stencil.Proofs.Render.Output

/-!
# Choices

A choice renders each `when` clause that applies, in order, and an `else` clause where none has
applied before it. With such an `else` clause it ends: `when` clauses further behind are not looked
at any more, whether they apply or not.

* `dueClauses` — each `when` clause that applies, and each `else` clause before which none did
* `upToElse` — where a choice ends
* `renderNode_choice` — what a choice renders
-/

namespace Stencil.Template

/-- The nodes of a clause. -/
def Clause.body : Clause → List Node
  | .mk _ body => body

/-- Whether a clause has no values that the subject can be equal to. -/
def Clause.isElse : Clause → Bool
  | .mk .otherwise _ => true
  | .mk (.among _) _ => false

end Stencil.Template

namespace Stencil.Render

open Stencil.Markup Stencil.Template

variable {config : Config}

/-! ## Nodes in two parts -/

/-- The second part is rendered from where the first ends, unless that fails or leaves an interrupt
pending. -/
theorem renderAll_append (xs ys : List Node) {ctx : Context} (h : ctx.isInterrupted = false) :
    renderAll config (xs ++ ys) ctx =
      (do
        renderAll config xs
        unlessInterrupted (renderAll config ys)) ctx := by
  simp only [renderAll_eq]
  induction xs generalizing ctx with
  | nil => exact (unlessInterrupted_apply h _).symm
  | cons node rest ih =>
    simp only [List.cons_append, renderNodes, bind_assoc]
    match hnode : renderNode config (renderUse config) node ctx with
    | (.error e, after) => rw [bind_apply_of_error hnode, bind_apply_of_error hnode]
    | (.ok (), after) =>
      rw [bind_apply_of_ok hnode, bind_apply_of_ok hnode]
      cases hafter : after.isInterrupted with
      | true =>
        rw [unlessInterrupted_apply_of_pending hafter,
          bind_apply_of_ok (unlessInterrupted_apply_of_pending hafter _),
          unlessInterrupted_apply_of_pending hafter]
      | false =>
        rw [unlessInterrupted_apply hafter, ih hafter, bind_apply, bind_apply,
          unlessInterrupted_apply hafter]

/-! ## Due clauses -/

/-- A clause that is due, with the context that its body is rendered in. -/
structure Due where
  clause : Clause
  ctx : Context

namespace Due

/-- What the body of a due clause writes. -/
def text (config : Config) (d : Due) : String :=
  appended config d.clause.body d.ctx

/-- The body of a due clause neither fails nor leaves an interrupt pending. -/
def Goes (config : Config) (d : Due) : Prop :=
  let done := renderAll config d.clause.body d.ctx
  done.1.isOk = true ∧ done.2.isInterrupted = false

instance (d : Due) : Decidable (d.Goes config) := inferInstanceAs (Decidable (_ ∧ _))

end Due

/-- The clauses that are due, in order: each `when` clause that applies, and each `else` clause
unless a `when` clause before it applied. Clauses are looked at from where the body of the one that
was due before them ends. -/
def dueClauses (config : Config) (subject : Value) :
    (applied : Bool) → List Clause → Context → List Due
  | _, [], _ => []
  | applied, .mk .otherwise body :: rest, ctx =>
    if applied then dueClauses config subject applied rest ctx
    else
      ⟨.mk .otherwise body, ctx⟩ ::
        dueClauses config subject false rest (renderAll config body ctx).2
  | applied, .mk (.among values) body :: rest, ctx =>
    if applies values subject (ctx.view config) then
      ⟨.mk (.among values) body, ctx⟩ ::
        dueClauses config subject true rest (renderAll config body ctx).2
    else dueClauses config subject applied rest ctx

/-- The due clauses up to the first `else` clause among them. -/
def upToElse : List Due → List Due
  | [] => []
  | d :: rest => d :: if d.clause.isElse then [] else upToElse rest

/-- What is left out stands behind. -/
theorem upToElse_append_drop (due : List Due) :
    upToElse due ++ due.drop (upToElse due).length = due := by
  induction due with
  | nil => rfl
  | cons d rest ih =>
    rw [upToElse]
    split
    · rfl
    · simp [ih]

/-- Nothing stands behind an `else` clause that is the last of all clauses. -/
theorem upToElse_dueClauses_of_elseLast {clauses : List Clause}
    (h : ∀ c ∈ clauses.dropLast, c.isElse = false) (subject : Value) (applied : Bool)
    (ctx : Context) :
    upToElse (dueClauses config subject applied clauses ctx) =
      dueClauses config subject applied clauses ctx := by
  induction clauses generalizing applied ctx with
  | nil => rfl
  | cons clause rest ih =>
    have hrest : ∀ c ∈ rest.dropLast, c.isElse = false := by
      intro c hc
      cases rest with
      | nil => cases hc
      | cons _ _ => exact h c (List.mem_cons_of_mem _ hc)
    obtain ⟨label, body⟩ := clause
    cases label with
    | otherwise =>
      have hnil : rest = [] := by
        cases rest with
        | nil => rfl
        | cons _ _ => cases h _ List.mem_cons_self
      subst hnil
      cases applied <;> rfl
    | among values =>
      simp only [dueClauses]
      split
      · rw [upToElse, ih hrest]
        rfl
      · exact ih hrest applied ctx

/-! ## What a choice renders -/

/-- The clauses of a choice come to the same as the bodies of the due ones, one after another. -/
theorem renderClauses_eq (subject : Value) (applied : Bool) (clauses : List Clause) {ctx : Context}
    (h : ctx.isInterrupted = false) :
    renderClauses config (renderUse config) subject applied clauses ctx =
      renderAll config
        ((upToElse (dueClauses config subject applied clauses ctx)).flatMap (·.clause.body))
        ctx := by
  -- Whether a clause has applied, and the context, are as the clauses before leave them.
  induction clauses generalizing applied ctx with
  | nil =>
    rw [renderAll_eq]
    rfl
  | cons clause rest ih =>
    obtain ⟨label, body⟩ := clause
    cases label with
    | otherwise =>
      simp only [renderClauses, dueClauses]
      cases applied with
      | true => exact ih true h
      | false => simp [upToElse, Clause.isElse, Clause.body, renderAll_eq]
    | among values =>
      simp only [renderClauses, ask_bind_apply, dueClauses]
      split
      · simp only [upToElse, Clause.isElse, Clause.body, Bool.false_eq_true, if_false,
          List.flatMap_cons, ← renderAll_eq]
        rw [renderAll_append body _ h]
        match hbody : renderAll config body ctx with
        | (.error e, after) => rw [bind_apply_of_error hbody, bind_apply_of_error hbody]
        | (.ok (), after) =>
          rw [bind_apply_of_ok hbody, bind_apply_of_ok hbody]
          cases hafter : after.isInterrupted with
          | true =>
            rw [unlessInterrupted_apply_of_pending hafter,
              unlessInterrupted_apply_of_pending hafter]
          | false =>
            rw [unlessInterrupted_apply hafter, unlessInterrupted_apply hafter]
            exact ih true hafter
      · exact ih applied h

/-- Clauses write what the bodies of the due ones write, as long as these neither fail nor leave an
interrupt pending. -/
theorem renderClauses_output (subject : Value) (applied : Bool) (clauses : List Clause)
    (ctx : Context)
    (h : ∀ d ∈ upToElse (dueClauses config subject applied clauses ctx), d.Goes config) :
    ∃ after, renderClauses config (renderUse config) subject applied clauses ctx = (.ok (), after) ∧
      after.output = ctx.output ++ String.join
        ((upToElse (dueClauses config subject applied clauses ctx)).map (·.text config)) := by
  induction clauses generalizing applied ctx with
  | nil => exact ⟨ctx, rfl, by simp [dueClauses, upToElse]⟩
  | cons clause rest ih =>
    obtain ⟨label, body⟩ := clause
    have hbody : (renderAll config body ctx).2.output = ctx.output ++ appended config body ctx :=
      renderAll_output body ctx
    cases label with
    | otherwise =>
      simp only [renderClauses, dueClauses] at h ⊢
      cases applied with
      | true => exact ih true ctx h
      | false =>
        obtain ⟨hok, -⟩ : (renderAll config body ctx).1.isOk = true ∧ _ := h _ List.mem_cons_self
        rw [← renderAll_eq]
        refine ⟨_, eq_ok_of_isOk hok, ?_⟩
        show (renderAll config body ctx).2.output = _
        rw [hbody]
        simp [upToElse, Clause.isElse, Due.text, Clause.body]
    | among values =>
      simp only [renderClauses, ask_bind_apply, dueClauses] at h ⊢
      split at h
      · rename_i happlies
        obtain ⟨hok, hcalm⟩ : (renderAll config body ctx).1.isOk = true ∧
            (renderAll config body ctx).2.isInterrupted = false := h _ List.mem_cons_self
        obtain ⟨after, hrest, hafter⟩ :=
          ih true (renderAll config body ctx).2 fun d hd => h d (List.mem_cons_of_mem _ hd)
        refine ⟨after, ?_, ?_⟩
        · rw [if_pos happlies, ← renderAll_eq, bind_apply_of_ok (eq_ok_of_isOk hok),
            unlessInterrupted_apply hcalm]
          exact hrest
        · rw [hafter, hbody, if_pos happlies]
          simp [upToElse, Clause.isElse, Due.text, Clause.body, String.append_assoc]
      · rename_i happlies
        rw [if_neg happlies, if_neg happlies]
        exact ih applied ctx h

/--
**What a choice renders.** With nothing pending, a choice comes to the same as the bodies of the
due clauses up to the first `else` clause among them, one after another in its place. If these
neither fail nor leave an interrupt pending, then it succeeds and writes what they write.

So it writes what all due clauses would write if and only if those behind that `else` clause would
write nothing; in particular if an `else` clause stands nowhere but at the end.
-/
theorem renderNode_choice (config : Config) (subject : Expression) (clauses : List Clause)
    (ctx : Context) :
    let due := dueClauses config (subject.value (ctx.view config)) false clauses ctx
    let reached := upToElse due
    let done := renderNode config (renderUse config) (.choice subject clauses) ctx
    (ctx.isInterrupted = false →
      done = renderAll config (reached.flatMap (·.clause.body)) ctx) ∧
    ((∀ d ∈ reached, d.Goes config) →
      done.1 = .ok () ∧
      done.2.output = ctx.output ++ String.join (reached.map (·.text config)) ∧
      (done.2.output = ctx.output ++ String.join (due.map (·.text config)) ↔
        String.join ((due.drop reached.length).map (·.text config)) = "")) ∧
    ((∀ c ∈ clauses.dropLast, c.isElse = false) → reached = due) := by
  intro due reached done
  have hdone : done = renderClauses config (renderUse config) (subject.value (ctx.view config))
      false clauses ctx := by
    show renderNode _ _ _ ctx = _
    rw [renderNode, ask_bind_apply]
  refine ⟨fun hctx => ?_, fun hgoes => ?_, fun helse =>
    upToElse_dueClauses_of_elseLast helse _ _ _⟩
  · rw [hdone]
    exact renderClauses_eq _ _ _ hctx
  · obtain ⟨after, hrun, houtput⟩ := renderClauses_output _ _ _ _ hgoes
    rw [hdone, hrun]
    have hdue : String.join (due.map (·.text config)) = String.join (reached.map (·.text config)) ++
        String.join ((due.drop reached.length).map (·.text config)) := by
      rw [← String.join_append, ← List.map_append, upToElse_append_drop]
    refine ⟨rfl, houtput, ?_⟩
    show after.output = _ ↔ _
    -- What is written is what all would write, without what those behind would write.
    have hnone : ∀ x y : String, x = x ++ y ↔ y = "" := fun x y => by
      rw [← String.toList_inj]
      simp
    rw [houtput, hdue, String.append_right_inj]
    exact hnone _ _

/-- Two clauses that apply, of which the second does so since the body of the first has bound its
value, and an `else` clause between them. -/
def bindingClauses : List Clause :=
  [.mk (.among [.literal (.int 1)]) [.text "a", .assign "y" ⟨.literal (.int 1), []⟩],
    .mk .otherwise [.text "b"],
    .mk (.among [.lookup [.name "y"]]) [.text "c"]]

theorem renderNode_choice_bindingClauses :
    let ctx := Context.start [] []
    let reached := upToElse (dueClauses Config.standard (.int 1) false bindingClauses ctx)
    let done := renderNode Config.standard (renderUse Config.standard)
      (.choice (.literal (.int 1)) bindingClauses) ctx
    ctx.isInterrupted = false ∧ (∀ d ∈ reached, d.Goes Config.standard) ∧
      done = renderAll Config.standard (reached.flatMap (·.clause.body)) ctx ∧
      done.1 = .ok () ∧ done.2.output = "ac" := by
  intro ctx reached done
  obtain ⟨hplace, houtput, -⟩ :=
    renderNode_choice Config.standard (.literal (.int 1)) bindingClauses ctx
  have hgoes : ∀ d ∈ reached, d.Goes Config.standard := by decide +kernel
  obtain ⟨hok, hwrites, -⟩ := houtput hgoes
  have htexts : reached.map (·.text Config.standard) = ["a", "c"] := by decide +kernel
  refine ⟨rfl, hgoes, hplace rfl, hok, hwrites.trans ?_⟩
  show ctx.output ++ String.join (reached.map (·.text Config.standard)) = _
  rw [htexts]
  decide

/-- An `else` clause before a clause that applies. -/
def elseFirst : List Clause :=
  [.mk .otherwise [.text "E"], .mk (.among [.literal (.int 1)]) [.text "W"]]

/-- A clause that applies is not rendered behind an `else` clause that is. -/
theorem choice_ends_at_else :
    let ctx := Context.start [] []
    let due := dueClauses Config.standard (.int 1) false elseFirst ctx
    let done := renderNode Config.standard (renderUse Config.standard)
      (.choice (.literal (.int 1)) elseFirst) ctx
    (∀ d ∈ due, d.Goes Config.standard) ∧
      ctx.output ++ String.join (due.map (·.text Config.standard)) = "EW" ∧
      done.1 = .ok () ∧ done.2.output = "E" := by
  refine ⟨by decide +kernel, by decide +kernel, ?_, by decide +kernel⟩
  exact congrArg Prod.fst (eq_ok_of_isOk (by decide +kernel))

end Stencil.Render
