import Stencil.Proofs.Render.Related

/-!
# What renders do to their context

A render takes a context to another one, with or without an error. A property of context, error and
context that holds of every operation, and of one operation after another, holds of the rendering of
all nodes, of the partials they use and of the partials these use.

* `Kept` — what such a property has to satisfy, by operation
* `renderAll_kept` — the property of a whole render

The nodes of partials come from storage or from the cache, so the cache must hold no others than a
property of nodes allows (`Context.Caches`). All operations leave it so.
-/

namespace Stencil.Render

open Stencil.Markup Stencil.Template

/-! ## Results of operations -/

/-- The error of a result, if it is one. -/
def failure {α : Type} : Except Error α → Option Error
  | .ok _ => none
  | .error e => some e

theorem failure_map {α β : Type} (f : α → β) (x : Except Error α) :
    failure (x.map f) = failure x := by
  cases x <;> rfl

theorem inLoop_apply {α : Type} (register : String) (length : Nat) (r : Nat → Render α)
    (ctx : Context) :
    inLoop register length r ctx =
      let (result, after) := r ctx.loops.size (startLoop register length ctx).2
      (result, endLoop register after) := rfl

/-- The registers without the innermost loop of one of them. -/
def registersAfterLoop (register : String) (registers : Bindings Payload) : Bindings Payload :=
  match Bindings.find? registers register with
  | some (.loops numbers) => Bindings.insert registers register (.loops numbers.tail)
  | _ => registers

/-- Ending a loop changes nothing but registers, and depends on nothing but these. -/
theorem endLoop_eq (register : String) (ctx : Context) :
    endLoop register ctx =
      { ctx with registers := registersAfterLoop register ctx.registers } := by
  unfold endLoop registersAfterLoop
  cases Bindings.find? ctx.registers register with
  | none => rfl
  | some payload => cases payload <;> rfl

/-- A partial that may become active is so for the time of a render. -/
theorem inPartial_apply_of_lt {α : Type} {limit : Nat} {ctx : Context} (h : ctx.depth < limit)
    (path : String) (r : Render α) :
    inPartial limit path r ctx =
      let (result, after) := r (ctx.enter path)
      (result, leavePartial path after) := by
  have henter : enterPartial limit path ctx = (.ok (), ctx.enter path) := if_pos h
  exact bind_apply_of_ok henter _

theorem inPartial_apply_of_le {α : Type} {limit : Nat} {ctx : Context} (h : limit ≤ ctx.depth)
    (path : String) (r : Render α) :
    inPartial limit path r ctx =
      (.error (.rendering (.includeDepthExceeded path)), ctx.note (.refused path)) := by
  have henter : enterPartial limit path ctx =
      (.error (.rendering (.includeDepthExceeded path)), ctx.note (.refused path)) :=
    if_neg (Nat.not_lt_of_le h)
  exact bind_apply_of_error henter _

/-- The errors that the call of a filter can lead to. -/
def IsFilterFault : RuntimeError → Prop
  | .unknownFilter _ | .argumentCount .. | .wrongType _ => True
  | .fileSystem _ | .includeDepthExceeded _ => False

theorem isFilterFault_of_call {name : String} {op : Operation} {site : Site} {v : Value}
    {args : List Value} {cause : RuntimeError} (h : op.call name site v args = .error cause) :
    IsFilterFault cause := by
  have hwrong : ∀ answer : Answer, answer.mapError RuntimeError.wrongType = .error cause →
      IsFilterFault cause := by
    intro answer hanswer
    cases answer with
    | ok result => cases hanswer
    | error fault =>
      cases hanswer
      trivial
  unfold Operation.call at h
  split at h
  case h_9 =>
    cases h
    trivial
  all_goals exact hwrong _ h

/-- The errors of a filter call: there is no such filter, or it fails on the values it is given. -/
inductive FaultOf (config : Config) (call : FilterCall) : RuntimeError → Prop where
  | unknown : Bindings.find? config.filters call.name = none →
    FaultOf config call (.unknownFilter call.name)
  | failed {filter : Filter} {cause : RuntimeError} (ctx : Context) (v : Value) :
    Bindings.find? config.filters call.name = some filter →
    filter.operation.call call.name (ctx.site config) v
      (call.arguments.map (·.value (ctx.view config))) = .error cause →
    FaultOf config call cause

theorem FaultOf.isFilterFault {config : Config} {call : FilterCall} {cause : RuntimeError}
    (h : FaultOf config call cause) : IsFilterFault cause := by
  cases h with
  | unknown _ => trivial
  | failed ctx v _ hcall => exact isFilterFault_of_call hcall

/-- A render that asks the context first is given the answer, and the context is as before. -/
theorem ask_bind_apply {α β : Type} (f : Context → α) (r : α → Render β) (ctx : Context) :
    (ask f >>= r) ctx = r (f ctx) ctx := rfl

theorem unlessInterrupted_apply {ctx : Context} (h : ctx.isInterrupted = false) (r : Render Unit) :
    unlessInterrupted r ctx = r ctx := by
  have hask : isInterrupted ctx = (.ok false, ctx) := by rw [← h]; rfl
  exact bind_apply_of_ok hask _

theorem unlessInterrupted_apply_of_pending {ctx : Context} (h : ctx.isInterrupted = true)
    (r : Render Unit) : unlessInterrupted r ctx = (.ok (), ctx) := by
  have hask : isInterrupted ctx = (.ok true, ctx) := by rw [← h]; rfl
  exact bind_apply_of_ok hask _

/-- The call of a filter that there is: the answer of its operation, and a note of its use if it is
observed. -/
theorem applyFilter_apply {config : Config} {call : FilterCall} {filter : Filter}
    (h : Bindings.find? config.filters call.name = some filter) (v : Value) (ctx : Context) :
    applyFilter config v call ctx =
      let arguments := call.arguments.map (·.value (ctx.view config))
      let named := Bindings.ofList (call.named.map fun (name, e) =>
        (name, e.value (ctx.view config)))
      ((filter.operation.call call.name (ctx.site config) v arguments).mapError .rendering,
        if filter.observed then ctx.note (.filtered ⟨v, arguments, named⟩) else ctx) := by
  obtain ⟨operation, observed⟩ := filter
  -- The call is noted before its answer is known, so an observed call is noted also if it fails.
  unfold applyFilter
  rw [h]
  simp only [bind_apply, ask]
  cases observed with
  | false =>
    cases operation.call call.name (ctx.site config) v
      (call.arguments.map (·.value (ctx.view config))) <;> rfl
  | true =>
    cases operation.call call.name (ctx.site config) v
      (call.arguments.map (·.value (ctx.view config))) <;> rfl

theorem applyFilter_apply_none {config : Config} {call : FilterCall}
    (h : Bindings.find? config.filters call.name = none) (v : Value) (ctx : Context) :
    applyFilter config v call ctx = (.error (.rendering (.unknownFilter call.name)), ctx) := by
  unfold applyFilter
  rw [h]
  rfl

/-- The call of a filter changes nothing, or notes itself. -/
theorem applyFilter_snd (config : Config) (v : Value) (call : FilterCall) (ctx : Context) :
    (applyFilter config v call ctx).2 = ctx ∨
      ∃ use, (applyFilter config v call ctx).2 = ctx.note (.filtered use) := by
  cases hfilter : Bindings.find? config.filters call.name with
  | none => exact .inl (by rw [applyFilter_apply_none hfilter])
  | some filter =>
    rw [applyFilter_apply hfilter]
    dsimp only
    split
    · exact .inr ⟨_, rfl⟩
    · exact .inl rfl

/-- The call of a filter changes nothing but the journal. -/
theorem exists_journal_applyFilter (config : Config) (v : Value) (call : FilterCall)
    (ctx : Context) :
    ∃ journal, (applyFilter config v call ctx).2 = { ctx with journal } := by
  rcases applyFilter_snd config v call ctx with hsame | ⟨use, hnoted⟩
  · exact ⟨ctx.journal, hsame⟩
  · exact ⟨_, hnoted⟩

/-- The path of a partial is what its expression says, unless that is empty. -/
theorem pathOf_apply {config : Config} {use : Inclusion} {ctx : Context}
    (h : (use.template.value (ctx.view config)).text ≠ "") :
    pathOf config use ctx = (.ok (use.template.value (ctx.view config)).text, ctx) := by
  have hempty : (use.template.value (ctx.view config)).text.isEmpty = false := by
    rwa [← Bool.not_eq_true, String.isEmpty_iff]
  unfold pathOf
  simp only [bind_apply, ask, hempty]
  rfl

theorem pathOf_apply_empty {config : Config} {use : Inclusion} {ctx : Context}
    (h : (use.template.value (ctx.view config)).text = "") :
    pathOf config use ctx =
      (.error (.rendering (.fileSystem (.emptyName use.template.text))), ctx) := by
  unfold pathOf
  simp only [bind_apply, ask, h]
  rfl

/-! ## Caches -/

theorem Context.partials_remember_self (ctx : Context) (key : String)
    (byPath : Bindings (List Node)) :
    (ctx.remember key (.partials byPath)).partials key = byPath := by
  simp [partials, remember, Bindings.find?_insert_self]

theorem Context.partials_remember_of_ne (ctx : Context) {key other : String} (h : key ≠ other)
    (payload : Payload) : (ctx.remember key payload).partials other = ctx.partials other := by
  simp [partials, remember, Bindings.find?_insert_of_ne _ h]

/-- All nodes that the cache holds have a property. -/
def Context.Caches (p : Node → Prop) (ctx : Context) : Prop :=
  ∀ path nodes, Bindings.find? (ctx.partials partialsRegister) path = some nodes →
    ∀ n ∈ partsOf nodes, p n

/-- All nodes that can be read from storage have a property. -/
def Reads (config : Config) (p : Node → Prop) : Prop :=
  ∀ path nodes, readPartial config path = .ok nodes → ∀ n ∈ partsOf nodes, p n

variable {config : Config} {p : Node → Prop}

theorem readPartial_eq_ok {path : String} {nodes : List Node}
    (h : readPartial config path = .ok nodes) :
    ∃ source, config.storage path = .ok source ∧ nodesOf config.tags source.toList = .ok nodes := by
  unfold readPartial at h
  cases hsource : config.storage path with
  | error fault =>
    rw [hsource] at h
    cases h
  | ok source =>
    rw [hsource] at h
    cases hnodes : nodesOf config.tags source.toList with
    | error e =>
      simp only [hnodes] at h
      cases h
    | ok nodes' =>
      simp only [hnodes] at h
      cases h
      exact ⟨source, rfl, hnodes⟩

theorem readPartial_of_read {path source : String} {nodes : List Node}
    (hsource : config.storage path = .ok source)
    (hnodes : nodesOf config.tags source.toList = .ok nodes) :
    readPartial config path = .ok nodes := by
  unfold readPartial
  simp only [hsource, hnodes]
  rfl

theorem readPartial_of_malformed {path source : String} {cause : SyntaxError}
    (hsource : config.storage path = .ok source)
    (hnodes : nodesOf config.tags source.toList = .error cause) :
    readPartial config path = .error (.reading cause) := by
  unfold readPartial
  simp only [hsource, hnodes]
  rfl

/-- Partials are built from the tags of their configuration. -/
theorem reads_isOf (config : Config) : Reads config (Node.IsOf config.tags) := by
  intro path nodes h
  obtain ⟨source, -, hnodes⟩ := readPartial_eq_ok h
  exact nodesOf_builtFrom hnodes

theorem reads_true (config : Config) : Reads config fun _ => True := fun _ _ _ _ _ => trivial

theorem Context.caches_true (ctx : Context) : ctx.Caches fun _ => True :=
  fun _ _ _ _ _ => trivial

theorem Context.caches_start (data counters : Bindings Value) :
    (Context.start data counters).Caches p := by
  intro path nodes h
  cases h

/-- Contexts with the same registers cache the same. -/
theorem Context.Caches.congr {ctx after : Context} (h : ctx.Caches p)
    (hregisters : after.registers = ctx.registers) : after.Caches p := by
  intro path nodes hfind
  refine h path nodes ?_
  unfold Context.partials at hfind ⊢
  rwa [hregisters] at hfind

/-- What is remembered that is no cache leaves nothing in the cache that was not there. -/
theorem Context.Caches.remember {ctx : Context} (h : ctx.Caches p) (key : String)
    {payload : Payload} (hpayload : ∀ b, payload ≠ .partials b) :
    (ctx.remember key payload).Caches p := by
  intro path nodes hfind
  by_cases hkey : key = partialsRegister
  · subst hkey
    unfold Context.partials Context.remember at hfind
    simp only [Bindings.find?_insert_self] at hfind
    cases payload with
    | partials b => exact absurd rfl (hpayload b)
    | _ => cases hfind
  · rw [Context.partials_remember_of_ne _ hkey] at hfind
    exact h path nodes hfind

theorem Context.Caches.endLoop {ctx : Context} (h : ctx.Caches p) (register : String) :
    (endLoop register ctx).Caches p := by
  unfold Render.endLoop
  split
  · exact h.remember _ (by simp)
  · exact h

/-! ## Loading -/

/-- What loading a partial comes to. -/
inductive Loads (config : Config) (path : String) (ctx : Context) :
    Except Error (List Node) × Context → Prop where
  /-- It has been read before. -/
  | cached {nodes : List Node} :
    Bindings.find? (ctx.partials partialsRegister) path = some nodes →
    Loads config path ctx
      (.ok nodes, ctx.remember partialsRegister (.partials (ctx.partials partialsRegister)))
  /-- There is no source. -/
  | missing {fault : StorageFault} :
    Bindings.find? (ctx.partials partialsRegister) path = none →
    config.storage path = .error fault →
    Loads config path ctx
      (.error (.rendering (.fileSystem fault)),
        ctx.remember partialsRegister (.partials (ctx.partials partialsRegister)))
  /-- The source cannot be read. -/
  | malformed {source : String} {cause : SyntaxError} :
    Bindings.find? (ctx.partials partialsRegister) path = none →
    config.storage path = .ok source → nodesOf config.tags source.toList = .error cause →
    Loads config path ctx
      (.error (.reading cause), (ctx.note (.loaded path)).remember partialsRegister
        (.partials (ctx.partials partialsRegister)))
  /-- It is read and remembered. -/
  | read {source : String} {nodes : List Node} :
    Bindings.find? (ctx.partials partialsRegister) path = none →
    config.storage path = .ok source → nodesOf config.tags source.toList = .ok nodes →
    Loads config path ctx
      (.ok nodes, (ctx.note (.loaded path)).remember partialsRegister
        (.partials (Bindings.insert (ctx.partials partialsRegister) path nodes)))

theorem loads_loadPartial (config : Config) (path : String) (ctx : Context) :
    Loads config path ctx (loadPartial config path ctx) := by
  unfold loadPartial
  simp only [bind_apply, ask]
  cases hknown : Bindings.find? (ctx.partials partialsRegister) path with
  | some nodes => exact .cached hknown
  | none =>
    cases hsource : config.storage path with
    | error fault =>
      simp only [readPartial, hsource]
      exact .missing hknown hsource
    | ok source =>
      cases hnodes : nodesOf config.tags source.toList with
      | error cause =>
        simp only [readPartial, hsource, hnodes]
        exact .malformed hknown hsource hnodes
      | ok nodes =>
        simp only [readPartial, hsource, hnodes]
        exact .read hknown hsource hnodes

/-- Loading leaves nothing in the cache that is neither from there nor from storage. -/
theorem Loads.caches {path : String} {ctx : Context} {loaded : Except Error (List Node) × Context}
    (h : Loads config path ctx loaded) (hread : Reads config p) (hctx : ctx.Caches p) :
    loaded.2.Caches p ∧ ∀ nodes, loaded.1 = .ok nodes → ∀ n ∈ partsOf nodes, p n := by
  cases h with
  | cached hfind =>
    refine ⟨fun path' nodes' h' => ?_, fun nodes' h' => ?_⟩
    · rw [Context.partials_remember_self] at h'
      exact hctx path' nodes' h'
    · cases h'
      exact hctx path _ hfind
  | missing hfind hsource =>
    refine ⟨fun path' nodes' h' => ?_, fun nodes' h' => by cases h'⟩
    rw [Context.partials_remember_self] at h'
    exact hctx path' nodes' h'
  | malformed hfind hsource hnodes =>
    refine ⟨fun path' nodes' h' => ?_, fun nodes' h' => by cases h'⟩
    rw [Context.partials_remember_self] at h'
    exact hctx path' nodes' h'
  | @read source nodes hfind hsource hnodes =>
    have hall : ∀ n ∈ partsOf nodes, p n :=
      hread path nodes (readPartial_of_read hsource hnodes)
    refine ⟨fun path' nodes' h' => ?_, fun nodes' h' => ?_⟩
    · rw [Context.partials_remember_self] at h'
      by_cases hpath : path = path'
      · subst hpath
        rw [Bindings.find?_insert_self] at h'
        cases h'
        exact hall
      · rw [Bindings.find?_insert_of_ne _ hpath] at h'
        exact hctx path' nodes' h'
    · cases h'
      exact hall

/-! ## Kept properties -/

/-- Whether a path is what the name of some inclusion can say. -/
def AsksFor (config : Config) (p : Node → Prop) (path : String) : Prop :=
  ∃ use, p (.inclusion use) ∧ ∃ ctx : Context, (use.template.value (ctx.view config)).text = path

/-- A property of a context, an error if there is one, and the context afterwards that all
operations have, where all nodes have a property. -/
structure Kept (config : Config) (p : Node → Prop)
    (Q : Context → Option Error → Context → Prop) : Prop where
  refl (ctx : Context) : Q ctx none ctx
  trans {before between after : Context} {e : Option Error} :
    Q before none between → Q between e after → Q before e after
  fault {node : Node} {call : FilterCall} (ctx : Context) (cause : RuntimeError) : p node →
    call ∈ node.calls → FaultOf config call cause → Q ctx (some (.rendering cause)) ctx
  filtered (ctx : Context) (use : FilterUse) : Q ctx none (ctx.note (.filtered use))
  emit (ctx : Context) (text : String) : Q ctx none { ctx with output := ctx.output ++ text }
  assign (ctx : Context) (name : String) (v : Value) :
    Q ctx none { ctx with scopes := ctx.scopes.assign name v }
  count (ctx : Context) (direction : Direction) (name : String) : p (.counter direction name) →
    Q ctx none (count direction name ctx).2
  rotate (ctx : Context) (r : Rotation) : p (.rotation r) → Q ctx none (rotate config r ctx).2
  interrupt (ctx : Context) (kind : Interrupt) : Q ctx none (interrupt kind ctx).2
  takeInterrupt (ctx : Context) : Q ctx none { ctx with interrupts := ctx.interrupts.tail }
  advanceLoop (ctx : Context) (number : Nat) : Q ctx none (advanceLoop number ctx).2
  inScope {ctx after : Context} {bindings : Bindings Value} {e : Option Error} :
    Q { ctx with scopes := .fixed bindings :: ctx.scopes } e after →
    Q ctx e { after with scopes := after.scopes.tail }
  captured {ctx after : Context} {e : Option Error} : Q { ctx with output := "" } e after →
    Q ctx e { after with output := ctx.output }
  inLoop {tag : String} {header : LoopHeader} {body : List Node} {otherwise : Option (List Node)}
    {ctx after : Context} {length : Nat} {e : Option Error} :
    p (.loop tag header body otherwise) →
    Q (startLoop (loopRegister tag) length ctx).2 e after →
    Q ctx e (endLoop (loopRegister tag) after)
  emptyName {use : Inclusion} (ctx : Context) : p (.inclusion use) →
    Q ctx (some (.rendering (.fileSystem (.emptyName use.template.text)))) ctx
  refused (ctx : Context) (path : String) : AsksFor config p path →
    config.settings.maxIncludeDepth ≤ ctx.depth →
    Q ctx (some (.rendering (.includeDepthExceeded path))) (ctx.note (.refused path))
  inPartial {ctx after : Context} {path : String} {e : Option Error} :
    ctx.depth < config.settings.maxIncludeDepth →
    Q (ctx.enter path) e after → Q ctx e (leavePartial path after)
  loads {ctx : Context} {path : String} {loaded : Except Error (List Node) × Context} :
    AsksFor config p path → Loads config path ctx loaded → Q ctx (failure loaded.1) loaded.2

/-- A render has a property, and leaves the cache with no other nodes than are allowed. -/
def Sat (p : Node → Prop) (Q : Context → Option Error → Context → Prop) {α : Type}
    (r : Render α) : Prop :=
  ∀ ctx, ctx.Caches p → Q ctx (failure (r ctx).1) (r ctx).2 ∧ (r ctx).2.Caches p

variable {Q : Context → Option Error → Context → Prop}

namespace Kept

/-- An operation that only reads has every kept property. -/
theorem sat_ask (h : Kept config p Q) {α : Type} (f : Context → α) : Sat p Q (ask f) :=
  fun ctx hctx => ⟨h.refl ctx, hctx⟩

theorem sat_pure (h : Kept config p Q) {α : Type} (a : α) : Sat p Q (pure a) :=
  fun ctx hctx => ⟨h.refl ctx, hctx⟩

theorem sat_bind (h : Kept config p Q) {α β : Type} {r : Render α} {f : α → Render β}
    (hr : Sat p Q r) (hf : ∀ a, Sat p Q (f a)) : Sat p Q (r >>= f) := by
  intro ctx hctx
  obtain ⟨hQ, hcaches⟩ := hr ctx hctx
  match hrun : r ctx with
  | (.ok a, between) =>
    rw [hrun] at hQ hcaches
    rw [bind_apply_of_ok hrun]
    obtain ⟨hQ', hcaches'⟩ := hf a between hcaches
    exact ⟨h.trans hQ hQ', hcaches'⟩
  | (.error e, after) =>
    rw [hrun] at hQ hcaches
    rw [bind_apply_of_error hrun]
    exact ⟨hQ, hcaches⟩

theorem sat_applyFilter (h : Kept config p Q) {node : Node} (hp : p node) {call : FilterCall}
    (hmem : call ∈ node.calls) (v : Value) : Sat p Q (applyFilter config v call) := by
  intro ctx hctx
  cases hfilter : Bindings.find? config.filters call.name with
  | none =>
    rw [applyFilter_apply_none hfilter]
    exact ⟨h.fault ctx _ hp hmem (.unknown hfilter), hctx⟩
  | some filter =>
    obtain ⟨use, happly⟩ : ∃ use, applyFilter config v call ctx =
        ((filter.operation.call call.name (ctx.site config) v
          (call.arguments.map (·.value (ctx.view config)))).mapError .rendering,
          if filter.observed then ctx.note (.filtered use) else ctx) :=
      ⟨_, applyFilter_apply hfilter v ctx⟩
    rw [happly]
    generalize hafter : (if filter.observed then ctx.note (.filtered use) else ctx) = after
    have hnoted : Q ctx none after ∧ after.Caches p := by
      subst hafter
      split
      · exact ⟨h.filtered ctx use, hctx.congr rfl⟩
      · exact ⟨h.refl ctx, hctx⟩
    refine ⟨?_, hnoted.2⟩
    cases hcall : filter.operation.call call.name (ctx.site config) v
      (call.arguments.map (·.value (ctx.view config))) with
    | ok result => exact hnoted.1
    | error cause =>
      exact h.trans hnoted.1 (h.fault after cause hp hmem (.failed ctx v hfilter hcall))

theorem sat_inScope (h : Kept config p Q) (bindings : Bindings Value) {r : Render Unit}
    (hr : Sat p Q r) : Sat p Q (Render.inScope (.fixed bindings) r) := by
  intro ctx hctx
  obtain ⟨hQ, hcaches⟩ := hr { ctx with scopes := .fixed bindings :: ctx.scopes } (hctx.congr rfl)
  exact ⟨h.inScope hQ, hcaches.congr rfl⟩

theorem sat_captured (h : Kept config p Q) {r : Render Unit} (hr : Sat p Q r) :
    Sat p Q (Render.captured r) := by
  intro ctx hctx
  obtain ⟨hQ, hcaches⟩ := hr { ctx with output := "" } (hctx.congr rfl)
  refine ⟨?_, hcaches.congr rfl⟩
  have hfailure : failure (Render.captured r ctx).1 = failure (r { ctx with output := "" }).1 :=
    failure_map _ _
  rw [hfailure]
  exact h.captured hQ

theorem sat_inLoop (h : Kept config p Q) {tag : String} {header : LoopHeader}
    {body : List Node} {otherwise : Option (List Node)} (hp : p (.loop tag header body otherwise))
    (length : Nat) {r : Nat → Render Unit} (hr : ∀ number, Sat p Q (r number)) :
    Sat p Q (Render.inLoop (loopRegister tag) length r) := by
  intro ctx hctx
  have hstart : (startLoop (loopRegister tag) length ctx).2.Caches p :=
    Context.Caches.remember (hctx.congr rfl) _ (by simp)
  obtain ⟨hQ, hcaches⟩ := hr ctx.loops.size _ hstart
  exact ⟨h.inLoop hp hQ, hcaches.endLoop _⟩

/-- All operations have a kept property. -/
theorem respected (h : Kept config p Q) :
    Respected config p (fun _ => True) Eq fun _ r _ => Sat p Q r where
  pure a := h.sat_pure a
  bind hr hf := h.sat_bind hr hf
  view hf := h.sat_bind (h.sat_ask _) fun view => hf view view rfl
  values _ hview _ _ := by rw [hview]
  applyFilter v hp hcall := h.sat_applyFilter hp hcall v
  emit text ctx hctx := ⟨h.emit ctx text, hctx.congr rfl⟩
  assign name v ctx hctx := ⟨h.assign ctx name v, hctx.congr rfl⟩
  count direction name hp ctx hctx := ⟨h.count ctx direction name hp, hctx.congr rfl⟩
  rotate r hp ctx hctx := ⟨h.rotate ctx r hp, Context.Caches.remember (hctx.congr rfl) _ (by simp)⟩
  isInterrupted := h.sat_ask _
  interrupt kind ctx hctx := ⟨h.interrupt ctx kind, hctx.congr rfl⟩
  takeInterrupt ctx hctx := ⟨h.takeInterrupt ctx, hctx.congr rfl⟩
  advanceLoop _ ctx hctx := ⟨h.advanceLoop ctx _, hctx.congr rfl⟩
  inScope bindings _ _ hr := h.sat_inScope bindings hr
  captured hr := h.sat_captured hr
  inLoop length _ _ hp hr := h.sat_inLoop hp length fun number => hr number trivial

/-! ## Partials -/

theorem sat_pathOf (h : Kept config p Q) {use : Inclusion} (huse : p (.inclusion use)) :
    Sat p Q (pathOf config use) := by
  refine h.sat_bind (h.sat_ask _) fun view => ?_
  simp only
  split
  · exact fun ctx hctx => ⟨h.emptyName ctx huse, hctx⟩
  · exact h.sat_pure _

theorem sat_inPartial (h : Kept config p Q) {path : String} (hpath : AsksFor config p path)
    {r : Render Unit} (hr : Sat p Q r) :
    Sat p Q (Render.inPartial config.settings.maxIncludeDepth path r) := by
  intro ctx hctx
  by_cases hdepth : ctx.depth < config.settings.maxIncludeDepth
  · rw [inPartial_apply_of_lt hdepth]
    obtain ⟨hQ, hcaches⟩ := hr (ctx.enter path) (hctx.congr rfl)
    exact ⟨h.inPartial hdepth hQ, hcaches.congr rfl⟩
  · have hle := Nat.le_of_not_lt hdepth
    rw [inPartial_apply_of_le hle]
    exact ⟨h.refused ctx path hpath hle, hctx.congr rfl⟩

theorem sat_renderPartial (h : Kept config p Q) (hread : Reads config p)
    {renderBody : List Node → Render Unit}
    (hbody : ∀ nodes, (∀ n ∈ partsOf nodes, p n) → Sat p Q (renderBody nodes)) {path : String}
    (hpath : AsksFor config p path) (use : Inclusion) :
    Sat p Q (renderPartial config (loadPartial config) renderBody use path) := by
  intro ctx hctx
  have hloads := loads_loadPartial config path ctx
  obtain ⟨hcaches, hnodes⟩ := hloads.caches hread hctx
  have hQ := h.loads hpath hloads
  unfold Render.renderPartial
  match hload : loadPartial config path ctx with
  | (.error e, after) =>
    rw [hload] at hQ hcaches
    rw [bind_apply_of_error hload]
    exact ⟨hQ, hcaches⟩
  | (.ok nodes, between) =>
    -- The nodes come from the cache or from storage, so they have the property.
    rw [hload] at hQ hcaches hnodes
    rw [bind_apply_of_ok hload]
    have htarget : ∀ v, Sat p Q (withTarget (partialName path) v (renderBody nodes)) := fun v =>
      @Respected.withTarget _ _ _ _ _ h.respected _ v _ (renderBody nodes)
        (hbody nodes (hnodes nodes rfl))
    have hrest := h.sat_bind (h.sat_ask (·.view config)) fun view =>
      h.sat_inScope (Bindings.ofList (use.locals.map fun (name, e) => (name, e.value view)))
        (htarget (use.target.elim (view.read (partialName path)) (·.value view)))
    obtain ⟨hQ', hcaches'⟩ := hrest between hcaches
    exact ⟨h.trans hQ hQ', hcaches'⟩

theorem sat_renderInclusion (h : Kept config p Q) (hread : Reads config p)
    {renderBody : List Node → Render Unit}
    (hbody : ∀ nodes, (∀ n ∈ partsOf nodes, p n) → Sat p Q (renderBody nodes)) {use : Inclusion}
    (huse : p (.inclusion use)) :
    Sat p Q (renderInclusion config (loadPartial config) renderBody use) := by
  intro ctx hctx
  unfold renderInclusion
  by_cases hname : (use.template.value (ctx.view config)).text = ""
  · rw [bind_apply_of_error (pathOf_apply_empty hname)]
    exact ⟨h.emptyName ctx huse, hctx⟩
  · rw [bind_apply_of_ok (pathOf_apply hname)]
    have hpath : AsksFor config p (use.template.value (ctx.view config)).text :=
      ⟨use, huse, ctx, rfl⟩
    exact h.sat_inPartial hpath (h.sat_renderPartial hread hbody hpath use) ctx hctx

/-- **What all operations keep, the rendering of nodes keeps,** however deep partials are
unfolded. -/
theorem sat_renderUnfolded (h : Kept config p Q) (hread : Reads config p)
    {deeper : List Node → Render Unit}
    (hdeeper : ∀ nodes, (∀ n ∈ partsOf nodes, p n) → Sat p Q (deeper nodes)) (n : Nat)
    {nodes : List Node} (hnodes : ∀ n ∈ partsOf nodes, p n) :
    Sat p Q (renderUnfolded config (loadPartial config) deeper n nodes) := by
  induction n generalizing nodes with
  | zero => exact hdeeper nodes hnodes
  | succ n ih =>
    -- The nodes of partials are one unfolding less deep.
    let render := renderInclusion config (loadPartial config)
      (renderUnfolded config (loadPartial config) deeper n)
    refine @renderNodes_related _ _ _ _ _ h.respected _ render (fun use huse => ?_) nodes hnodes
    exact h.sat_renderInclusion hread (fun nodes hnodes => ih hnodes) huse

theorem sat_renderAll (h : Kept config p Q) (hread : Reads config p) {nodes : List Node}
    (hnodes : ∀ n ∈ partsOf nodes, p n) : Sat p Q (renderAll config nodes) :=
  h.sat_renderUnfolded hread (fun _ _ => h.sat_pure ()) _ hnodes

end Kept

end Stencil.Render
