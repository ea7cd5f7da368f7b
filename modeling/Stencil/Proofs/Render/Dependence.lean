import Stencil.Proofs.Render.Kept
import Stencil.Template

/-!
# What a render depends on

A template reads the variables that its expressions start with. Two renders whose data agree on
these do the same from beginning to end, whatever else the data hold, if no partials are used.

* `Expression.variableNames` — the names that an expression reads as variables
* `Scopes.AgreeOn`, `Unaffected` — variables that differ, and renders to which that makes no
  difference
* `render_eq_of_agree` — a template depends on its variables only
-/

namespace Stencil

/-! ## Variables of expressions -/

namespace Markup

mutual

/-- The variables of a step, which is the first of its lookup or a later one. Later steps are looked
up in the value before, but for what stands in brackets. -/
def Expression.stepVariables (isFirst : Bool) : Expression → List String
  | .lookup steps => variablesOfSteps isFirst steps
  | .name identifier => if isFirst then [identifier] else []
  | .subscript key => key.stepVariables true
  | .literal _ => []
  | .selector _ => []

/-- The variables of several steps. -/
def variablesOfSteps (isFirst : Bool) : List Expression → List String
  | [] => []
  | e :: steps => e.stepVariables isFirst ++ variablesOfSteps false steps

end

/-- The names that an expression reads as variables. -/
def Expression.variableNames (e : Expression) : List String :=
  e.stepVariables true

/-- Views that differ in variables only, and in none with one of these names. -/
structure View.AgreeOn (names : List String) (v v' : View) : Prop where
  read : ∀ name ∈ names, v.read name = v'.read name
  objects : v.objects = v'.objects
  keys : v.keys = v'.keys

variable {names : List String} {v v' : View}

theorem Selector.apply_congr (h : v.AgreeOn names v') (s : Selector) (value : Value) :
    s.apply v value = s.apply v' value := by
  unfold Selector.apply
  rw [h.objects, h.keys]

mutual

theorem Expression.step_congr (h : v.AgreeOn names v') (before : Option Value) (e : Expression)
    (he : ∀ name ∈ e.stepVariables before.isNone, name ∈ names) :
    e.step v before = e.step v' before := by
  match e, before with
  | .lookup steps, before =>
    rw [Expression.stepVariables] at he
    rw [Expression.step, Expression.step, stepsValue_congr h before steps he]
  | .name identifier, none =>
    have hmem : identifier ∈ names := he identifier (by simp [Expression.stepVariables])
    exact h.read identifier hmem
  | .name identifier, some value =>
    simp only [Expression.step, h.objects, h.keys]
  | .literal value, _ =>
    rw [Expression.step, Expression.step]
  | .subscript key, none => rfl
  | .subscript key, some value =>
    rw [Expression.stepVariables] at he
    have hkey := Expression.step_congr h none key he
    simp only [Expression.step, hkey, h.objects, h.keys]
  | .selector s, none => rfl
  | .selector s, some value =>
    simp only [Expression.step, Selector.apply_congr h]

theorem stepsValue_congr (h : v.AgreeOn names v') (before : Option Value) (steps : List Expression)
    (hsteps : ∀ name ∈ variablesOfSteps before.isNone steps, name ∈ names) :
    stepsValue v before steps = stepsValue v' before steps := by
  match steps with
  | [] => rw [stepsValue, stepsValue]
  | e :: steps =>
    simp only [variablesOfSteps, List.forall_mem_append] at hsteps
    rw [stepsValue, stepsValue, Expression.step_congr h before e hsteps.1]
    exact stepsValue_congr h _ steps hsteps.2

end

/-- An expression depends on its variables only. -/
theorem Expression.value_congr (h : v.AgreeOn names v') {e : Expression}
    (he : ∀ name ∈ e.variableNames, name ∈ names) : e.value v = e.value v' :=
  Expression.step_congr h none e he

end Markup

namespace Template

/-- The names that a template reads as variables, at any depth. -/
def variableNames (t : Template) : List String :=
  (partsOf t.nodes).flatMap fun node => node.expressions.flatMap (·.variableNames)

end Template

namespace Render

open Markup Template

/-! ## Scopes -/

/-- Scopes that differ in the bindings of the outermost one only, and in none of these names. A name
that is not bound there reads as nil. -/
inductive Scopes.AgreeOn (names : List String) : Scopes → Scopes → Prop where
  | nil : AgreeOn names [] []
  | outermost {b b' : Bindings Value} (writable : Bool) :
    (∀ name ∈ names, (Bindings.find? b name).getD .nil = (Bindings.find? b' name).getD .nil) →
    AgreeOn names [⟨b, writable⟩] [⟨b', writable⟩]
  | inner {outer outer' : Scopes} (scope : Scope) :
    AgreeOn names outer outer' → AgreeOn names (scope :: outer) (scope :: outer')

namespace Scopes.AgreeOn

variable {names : List String} {scopes scopes' : Scopes}

theorem read (h : AgreeOn names scopes scopes') {name : String} (hname : name ∈ names) :
    scopes.read name = scopes'.read name := by
  induction h with
  | nil => rfl
  | outermost writable h => simpa [Scopes.read, Scopes.find?] using h name hname
  | inner scope _ ih =>
    unfold Scopes.read at ih ⊢
    unfold Scopes.find?
    cases Bindings.find? scope.bindings name with
    | none => simpa using ih
    | some value => rfl

/-- What is written is the same in both. -/
theorem assign (h : AgreeOn names scopes scopes') (name : String) (value : Value) :
    AgreeOn names (scopes.assign name value) (scopes'.assign name value) := by
  induction h with
  | nil => exact .nil
  | @outermost b b' writable h =>
    cases writable with
    | false => exact .outermost false h
    | true =>
      refine .outermost true fun other hother => ?_
      by_cases heq : name = other
      · subst heq
        rw [Bindings.find?_insert_self, Bindings.find?_insert_self]
      · rw [Bindings.find?_insert_of_ne _ heq, Bindings.find?_insert_of_ne _ heq]
        exact h other hother
  | inner scope houter ih =>
    by_cases hwritable : scope.writable
    · simp only [Scopes.assign, hwritable, if_true]
      exact .inner _ houter
    · simp only [Scopes.assign, hwritable, Bool.false_eq_true, if_false]
      exact .inner _ ih

theorem tail (h : AgreeOn names scopes scopes') : AgreeOn names scopes.tail scopes'.tail := by
  cases h with
  | nil => exact .nil
  | outermost _ _ => exact .nil
  | inner _ h => exact h

/-- Contexts that differ in variables only are seen so. -/
theorem view {ctx : Context} (h : AgreeOn names ctx.scopes scopes) (config : Config) :
    (ctx.view config).AgreeOn names (Context.view config { ctx with scopes := scopes }) where
  read _ hname := h.read hname
  objects := rfl
  keys := rfl

end Scopes.AgreeOn

/-! ## Renders -/

/-- Two renders that do the same in contexts that differ in variables only, and in none with one of
these names: they give the same, and the contexts afterwards differ no further. -/
def Unaffected (names : List String) (α : Type) (r r' : Render α) : Prop :=
  ∀ (ctx : Context) (scopes : Scopes), ctx.scopes.AgreeOn names scopes →
    ∃ scopes', (r ctx).2.scopes.AgreeOn names scopes' ∧
      r' { ctx with scopes := scopes } = ((r ctx).1, { (r ctx).2 with scopes := scopes' })

namespace Unaffected

variable {config : Config} {names : List String}

theorem bind {α β : Type} {r r' : Render α} {f f' : α → Render β} (hr : Unaffected names α r r')
    (hf : ∀ a, Unaffected names β (f a) (f' a)) : Unaffected names β (r >>= f) (r' >>= f') := by
  intro ctx scopes hagree
  obtain ⟨between, hbetween, hrun⟩ := hr ctx scopes hagree
  match hfirst : r ctx with
  | (.error e, after) =>
    rw [hfirst] at hbetween hrun
    rw [bind_apply_of_error hfirst, bind_apply_of_error hrun]
    exact ⟨between, hbetween, rfl⟩
  | (.ok a, after) =>
    rw [hfirst] at hbetween hrun
    rw [bind_apply_of_ok hfirst, bind_apply_of_ok hrun]
    exact hf a after between hbetween

/-- What two renders see of their contexts differs in variables only. -/
theorem view {β : Type} {f f' : View → Render β}
    (hf : ∀ v v', View.AgreeOn names v v' → Unaffected names β (f v) (f' v')) :
    Unaffected names β (ask (·.view config) >>= f) (ask (·.view config) >>= f') := by
  intro ctx scopes hagree
  exact hf _ _ (hagree.view config) ctx scopes hagree

/-- An operation that does not meet variables is unaffected. -/
theorem of_indifferent {α : Type} {r : Render α}
    (hscopes : ∀ ctx, (r ctx).2.scopes = ctx.scopes)
    (hr : ∀ (ctx : Context) scopes,
      r { ctx with scopes := scopes } = ((r ctx).1, { (r ctx).2 with scopes := scopes })) :
    Unaffected names α r r :=
  fun ctx scopes hagree => ⟨scopes, hscopes ctx ▸ hagree, hr ctx scopes⟩

/-- Reading what is no variable is unaffected. -/
theorem ask {α : Type} {f : Context → α}
    (hf : ∀ (ctx : Context) scopes, f { ctx with scopes := scopes } = f ctx) :
    Unaffected names α (ask f) (ask f) :=
  of_indifferent (fun _ => rfl) fun ctx scopes =>
    congrArg (fun a => (Except.ok a, ({ ctx with scopes := scopes } : Context))) (hf ctx scopes)

theorem applyFilter {call : FilterCall}
    (hcall : ∀ e ∈ call.expressions, ∀ name ∈ e.variableNames, name ∈ names) (v : Value) :
    Unaffected names Value (applyFilter config v call) (applyFilter config v call) := by
  intro ctx scopes hagree
  have hvalues : ∀ e ∈ call.expressions, e.value (ctx.view config) =
      e.value (Context.view config { ctx with scopes := scopes }) :=
    fun e he => Expression.value_congr (hagree.view config) (hcall e he)
  simp only [FilterCall.expressions, List.forall_mem_append, List.forall_mem_map] at hvalues
  obtain ⟨harguments, hnamed⟩ := hvalues
  have harguments' := List.map_congr_left harguments
  have hnamed' := List.map_congr_left fun (entry : String × Expression) hentry =>
    congrArg (Prod.mk entry.1) (hnamed entry hentry)
  cases hfilter : Bindings.find? config.filters call.name with
  | none =>
    rw [applyFilter_apply_none hfilter, applyFilter_apply_none hfilter]
    exact ⟨scopes, hagree, rfl⟩
  | some filter =>
    rw [applyFilter_apply hfilter, applyFilter_apply hfilter]
    dsimp only
    rw [← harguments', ← hnamed']
    split
    · exact ⟨scopes, hagree, rfl⟩
    · exact ⟨scopes, hagree, rfl⟩

theorem rotate {r : Rotation}
    (hr : ∀ e ∈ r.expressions, ∀ name ∈ e.variableNames, name ∈ names) :
    Unaffected names Unit (rotate config r) (rotate config r) := by
  refine view fun v v' hviews => ?_
  have hvalues : ∀ e ∈ r.expressions, e.value v = e.value v' :=
    fun e he => Expression.value_congr hviews (hr e he)
  rw [groupOf_congr hvalues]
  refine bind (ask fun _ _ => rfl) fun places => ?_
  have hvalue : ∀ place, (r.values.getD place r.first).value v =
      (r.values.getD place r.first).value v' := by
    intro place
    rw [List.getD_eq_getElem?_getD]
    cases hplace : r.values[place]? with
    | none => exact hvalues _ (by simp [Rotation.expressions, Rotation.values])
    | some e => exact hvalues e (List.mem_append_right _ (List.mem_of_getElem? hplace))
  dsimp only
  rw [hvalue]
  exact of_indifferent (fun _ => rfl) fun _ _ => rfl

theorem inScope (scope : Scope) {α : Type} {r r' : Render α} (hr : Unaffected names α r r') :
    Unaffected names α (inScope scope r) (Render.inScope scope r') := by
  intro ctx scopes hagree
  obtain ⟨scopes', hafter, hrun⟩ :=
    hr { ctx with scopes := scope :: ctx.scopes } (scope :: scopes) (.inner scope hagree)
  refine ⟨scopes'.tail, hafter.tail, ?_⟩
  exact congrArg (Prod.map id fun after : Context => { after with scopes := after.scopes.tail })
    hrun

theorem captured {r r' : Render Unit} (hr : Unaffected names Unit r r') :
    Unaffected names String (captured r) (Render.captured r') := by
  intro ctx scopes hagree
  obtain ⟨scopes', hafter, hrun⟩ := hr { ctx with output := "" } scopes hagree
  refine ⟨scopes', hafter, ?_⟩
  exact congrArg (fun done : Except Error Unit × Context =>
    (done.1.map fun _ => done.2.output, { done.2 with output := ctx.output })) hrun

theorem inLoop (register : String) (length : Nat) {r r' : Nat → Render Unit}
    (hr : ∀ number, Unaffected names Unit (r number) (r' number)) :
    Unaffected names Unit (inLoop register length r) (Render.inLoop register length r') := by
  intro ctx scopes hagree
  obtain ⟨scopes', hafter, hrun⟩ :=
    hr ctx.loops.size (startLoop register length ctx).2 scopes hagree
  have hstart : (startLoop register length { ctx with scopes := scopes }).2 =
      { (startLoop register length ctx).2 with scopes := scopes } := rfl
  rw [inLoop_apply, inLoop_apply, hstart]
  generalize r ctx.loops.size (startLoop register length ctx).2 = done at hafter hrun ⊢
  obtain ⟨result, after⟩ := done
  refine ⟨scopes', ?_, ?_⟩
  · show ((endLoop register after).scopes).AgreeOn names scopes'
    rw [endLoop_eq]
    exact hafter
  · refine (congrArg (Prod.map id (endLoop register)) hrun).trans (Prod.ext rfl ?_)
    show endLoop register { after with scopes := scopes' } =
      { endLoop register after with scopes := scopes' }
    rw [endLoop_eq, endLoop_eq]

/-- All operations are unaffected where all expressions read variables with these names only. -/
theorem respected (config : Config) {p : Node → Prop}
    (hp : ∀ node, p node → ∀ e ∈ node.expressions, ∀ name ∈ e.variableNames, name ∈ names) :
    Respected config p (fun _ => True) (View.AgreeOn names) (Unaffected names) where
  pure _ := of_indifferent (fun _ => rfl) fun _ _ => rfl
  bind := bind
  view := view
  values hnode hviews e he := Expression.value_congr hviews (hp _ hnode e he)
  applyFilter v hnode hcall := applyFilter
    (fun e he => hp _ hnode e (Node.mem_expressions_of_call hcall he)) v
  emit _ := of_indifferent (fun _ => rfl) fun _ _ => rfl
  assign name v _ _ hagree := ⟨_, hagree.assign name v, rfl⟩
  count _ _ _ := of_indifferent (fun _ => rfl) fun _ _ => rfl
  rotate _ hnode := rotate (hp _ hnode)
  isInterrupted := ask fun _ _ => rfl
  interrupt _ := of_indifferent (fun _ => rfl) fun _ _ => rfl
  takeInterrupt := of_indifferent (fun _ => rfl) fun _ _ => rfl
  advanceLoop _ := of_indifferent (fun _ => rfl) fun _ _ => rfl
  inScope _ _ _ hr := hr.inScope _
  captured hr := hr.captured
  inLoop length _ _ _ hr := inLoop _ length fun number => hr number trivial

/-- Nodes that use no partials are rendered alike. -/
theorem renderAll (config : Config) {nodes : List Node}
    (hinclusion : ∀ use, Node.inclusion use ∉ partsOf nodes)
    (hnodes : ∀ node ∈ partsOf nodes, ∀ e ∈ node.expressions, ∀ name ∈ e.variableNames,
      name ∈ names) :
    Unaffected names Unit (renderAll config nodes) (Render.renderAll config nodes) :=
  renderNodes_related (respected config hnodes) (fun use huse => absurd huse (hinclusion use)) nodes
    fun _ hn => hn

end Unaffected

end Render

namespace Template

open Markup Render

/--
**A template depends on its variables only.** If it uses no partials, it comes to the same with any
two data that agree on the names that its expressions read as variables, where a name that is not
bound counts as nil: to the same text or the same error, with the same counters afterwards, and by
the same events.
-/
theorem render_eq_of_agree (t : Template) {data data' : Bindings Value}
    (hinclusion : ∀ use, Node.inclusion use ∉ partsOf t.nodes)
    (hagree : ∀ name ∈ t.variableNames,
      (Bindings.find? data name).getD .nil = (Bindings.find? data' name).getD .nil) :
    t.render data = t.render data' := by
  have hnodes : ∀ node ∈ partsOf t.nodes, ∀ e ∈ node.expressions, ∀ name ∈ e.variableNames,
      name ∈ t.variableNames := by
    intro node hnode e he name hname
    exact List.mem_flatMap.mpr ⟨node, hnode, List.mem_flatMap.mpr ⟨e, he, hname⟩⟩
  obtain ⟨scopes, -, hrun⟩ := Unaffected.renderAll t.config hinclusion hnodes
    (.start data t.counters) [.mutable data'] (.outermost true hagree)
  have hdone : (renderAll t.config t.nodes).run (.start data' t.counters) =
      ((renderAll t.config t.nodes (.start data t.counters)).1,
        { (renderAll t.config t.nodes (.start data t.counters)).2 with scopes := scopes }) := hrun
  rw [render, render, hdone]
  rfl

/-- A loop with a limit, an assignment in it, and an output behind it. -/
def total : Template where
  config := Config.standard
  nodes :=
    [.loop "for" ⟨"item", .collection (.lookup [.name "cart", .subscript (.lookup [.name "key"])]),
        false, some (.lookup [.name "most"]), none⟩
      [.assign "sum" ⟨.lookup [.name "item", .name "price"],
        [⟨"plus", [.lookup [.name "sum"]], []⟩]⟩] none,
     .output ⟨.lookup [.name "sum"], []⟩]
  counters := []

theorem render_eq_of_agree_total :
    let cart : Value := .dictionary [("all", .array [.dictionary [("price", .int 3)]])]
    let data : Bindings Value := [("cart", cart), ("key", .string "all"), ("price", .int 1)]
    let data' : Bindings Value :=
      [("cart", cart), ("key", .string "all"), ("most", .nil), ("price", .int 2)]
    total.variableNames = ["cart", "key", "most", "item", "sum", "sum"] ∧
      (∀ use, Node.inclusion use ∉ partsOf total.nodes) ∧
      (∀ name ∈ total.variableNames,
        (Bindings.find? data name).getD .nil = (Bindings.find? data' name).getD .nil) ∧
      total.render data = total.render data' := by
  intro cart data data'
  have hvariables : total.variableNames = ["cart", "key", "most", "item", "sum", "sum"] := by decide
  have hinclusion : ∀ use, Node.inclusion use ∉ partsOf total.nodes := by
    simp [total, partsOf, Node.parts, otherwiseParts]
  have hagree : ∀ name ∈ total.variableNames,
      (Bindings.find? data name).getD .nil = (Bindings.find? data' name).getD .nil := by
    rw [hvariables]
    simp [data, data', Bindings.find?]
  exact ⟨hvariables, hinclusion, hagree, render_eq_of_agree total hinclusion hagree⟩

end Template

end Stencil
