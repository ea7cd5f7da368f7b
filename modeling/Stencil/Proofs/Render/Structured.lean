import Stencil.Proofs.Render.Kept
import Stencil.Proofs.Render.Visiting

/-!
# Break and continue without a stack

What `break` and `continue` mean can be told without pending interrupts: a render ends with a
signal, sequences and sections pass on what is not normal, and the loop around takes it. Rendering
with pending interrupts does the same, and leaves just the signal that is passed on pending.

* `Structured.renderAll` — rendering with signals
* `Agrees` — rendering with interrupts does the same as rendering with signals
* `renderAll_structured` — both ways of rendering do the same
-/

namespace Stencil.Render

open Stencil.Markup Stencil.Template

/-! ## Rendering with signals -/

/-- How a render ends: normally, or with what changes the course of the loop around it. -/
abbrev Signal := Option Interrupt

namespace Structured

/-- Goes on after a normal end only. -/
def andThen (r next : Render Signal) : Render Signal := do
  match ← r with
  | none => next
  | some kind => return some kind

/-- Runs a render and gives its signal and what it wrote. -/
def captured (r : Render Signal) : Render (Signal × String) := fun ctx =>
  let (result, after) := r { ctx with output := "" }
  (result.map fun signal => (signal, after.output), { after with output := ctx.output })

/-- Visits items. A continue goes on with the next item, a break leaves the loop, and the loop
itself ends normally. -/
def visitEach (number : Nat) (visitItem : Value → Render Signal) : List Value → Render Signal
  | [] => return none
  | item :: rest => do
    let signal ← visitItem item
    advanceLoop number
    match signal with
    | some .breakLoop => return none
    | _ => visitEach number visitItem rest

/-- Runs a loop over its items, which are not none. -/
def runLoop (tag name : String) (items : Items) (body : Render Signal) : Render Signal :=
  inLoop (loopRegister tag) items.count fun number =>
    inScope (.fixed [("forloop", .drop (.loop number))]) <|
      visitEach number (fun item => inScope (.fixed [(name, item)]) body) items.toList

/-- Renders something a number of times. -/
def times (r : Render Signal) : Nat → Render Signal
  | 0 => return none
  | n + 1 => andThen r (times r n)

mutual

/-- Renders a node; `partialOf` renders the partials. -/
def renderNode (config : Config) (partialOf : Inclusion → Render Signal) : Node → Render Signal
  | .text content => do
    emit content
    return none
  | .output pipeline => do
    let v ← evaluate config pipeline
    emit (v.render config.settings)
    return none
  | .conditional inverted branches => renderBranches config partialOf inverted branches
  | .loop tag header body otherwise => do
    let items := itemsOf header (← ask (·.view config))
    if items.count = 0 then
      match otherwise with
      | none => return none
      | some nodes => renderNodes config partialOf nodes
    else runLoop tag header.item items (renderNodes config partialOf body)
  | .choice subject clauses => do
    let v := subject.value (← ask (·.view config))
    renderClauses config partialOf v false clauses
  | .rotation values => do
    rotate config values
    return none
  | .assign name pipeline => do
    let v ← evaluate config pipeline
    assign name v
    return none
  | .capture name body => do
    let (signal, text) ← captured (renderNodes config partialOf body)
    assign name (.string text)
    return signal
  | .comment => return none
  | .counter direction name => do
    count direction name
    return none
  | .interrupt kind => do
    note (.interrupted 0)
    return some kind
  | .inclusion use => partialOf use
  | .repetition n body => do
    let n := (n.value (← ask (·.view config))).toCount
    times (renderNodes config partialOf body) n

/-- Renders nodes in order, up to the first that does not end normally. -/
def renderNodes (config : Config) (partialOf : Inclusion → Render Signal) :
    List Node → Render Signal
  | [] => return none
  | node :: rest =>
    andThen (renderNode config partialOf node) (renderNodes config partialOf rest)

/-- Renders the first branch that is taken. Only the first condition of all is inverted. -/
def renderBranches (config : Config) (partialOf : Inclusion → Render Signal) (inverted : Bool) :
    List Branch → Render Signal
  | [] => return none
  | .mk condition body :: rest => do
    if isTaken inverted condition (← ask (·.view config)) then renderNodes config partialOf body
    else renderBranches config partialOf false rest

/-- Renders the clauses that apply, or the `else` clause that comes before all of these. -/
def renderClauses (config : Config) (partialOf : Inclusion → Render Signal) (subject : Value)
    (applied : Bool) : List Clause → Render Signal
  | [] => return none
  | .mk .otherwise body :: rest =>
    if applied then renderClauses config partialOf subject applied rest
    else renderNodes config partialOf body
  | .mk (.among values) body :: rest => do
    if applies values subject (← ask (·.view config)) then
      andThen (renderNodes config partialOf body)
        (renderClauses config partialOf subject true rest)
    else renderClauses config partialOf subject applied rest

end

/-- Renders something for each item, bound to a name, up to the first that does not end normally. -/
def eachItem (name : String) (r : Render Signal) : List Value → Render Signal
  | [] => return none
  | item :: rest => andThen (inScope (.fixed [(name, item)]) r) (eachItem name r rest)

/-- Renders something with a value bound to a name: once for each item of an array, and without
binding if the value is nil. -/
def withTarget (name : String) (v : Value) (r : Render Signal) : Render Signal :=
  match v with
  | .array items => eachItem name r items
  | .nil => r
  | v => inScope (.fixed [(name, v)]) r

/-- Renders the partial at a path. -/
def renderPartial (config : Config) (renderBody : List Node → Render Signal) (use : Inclusion)
    (path : String) : Render Signal := do
  let nodes ← loadPartial config path
  let view ← ask (·.view config)
  let name := partialName path
  let target := use.target.elim (view.read name) (·.value view)
  let locals := Bindings.ofList (use.locals.map fun (name, e) => (name, e.value view))
  inScope (.fixed locals) (withTarget name target (renderBody nodes))

/-- Renders the partial that a tag uses; `renderBody` renders its nodes. -/
def renderInclusion (config : Config) (renderBody : List Node → Render Signal) (use : Inclusion) :
    Render Signal := do
  let path ← pathOf config use
  inPartial config.settings.maxIncludeDepth path (renderPartial config renderBody use path)

/-- Renders nodes, with the partials they use unfolded so many times. -/
def renderUnfolded (config : Config) : Nat → List Node → Render Signal
  | 0 => fun _ => return none
  | n + 1 => renderNodes config (renderInclusion config (renderUnfolded config n))

/-- Renders nodes. -/
def renderAll (config : Config) (nodes : List Node) : Render Signal :=
  renderUnfolded config (config.settings.maxIncludeDepth + 1) nodes

end Structured

/-- A loop passes on no signal of its body. -/
theorem Structured.visitEach_signal (number : Nat) (visitItem : Value → Render Signal)
    {items : List Value} {ctx after : Context} {signal : Signal}
    (h : Structured.visitEach number visitItem items ctx = (.ok signal, after)) :
    signal = none := by
  induction items generalizing ctx with
  | nil =>
    cases h
    rfl
  | cons item rest ih =>
    unfold Structured.visitEach at h
    obtain ⟨itemSignal, between, -, h⟩ := bind_apply_eq_ok_iff.mp h
    obtain ⟨-, next, -, h⟩ := bind_apply_eq_ok_iff.mp h
    split at h
    · cases h
      rfl
    · exact ih h

/-! ## Calm contexts -/

/-- The numbers of interrupts that were pending when others were raised. -/
def pendingCounts (journal : List Event) : List Nat :=
  journal.filterMap fun
    | .interrupted pending => some pending
    | _ => none

/-- No interrupt is pending, none was raised while another was pending but for those of the past,
and all nodes that the cache holds have a property. -/
structure Context.Calm (p : Node → Prop) (past : List Nat) (ctx : Context) : Prop where
  interrupts : ctx.interrupts = []
  raised : ∀ n ∈ pendingCounts ctx.journal, n = 0 ∨ n ∈ past
  caches : ctx.Caches p

/-- An operation that neither raises interrupts nor takes them, nor caches other nodes than are
allowed. -/
def Quiet (p : Node → Prop) (past : List Nat) {α : Type} (r : Render α) : Prop :=
  ∀ ctx : Context, ctx.Calm p past → (r ctx).2.Calm p past

variable {config : Config} {p : Node → Prop} {past : List Nat}

theorem Context.Calm.congr {ctx after : Context} (h : ctx.Calm p past)
    (hinterrupts : after.interrupts = ctx.interrupts)
    (hjournal : pendingCounts after.journal = pendingCounts ctx.journal)
    (hregisters : after.registers = ctx.registers) : after.Calm p past :=
  ⟨hinterrupts.trans h.interrupts, hjournal ▸ h.raised, h.caches.congr hregisters⟩

theorem Context.Calm.endLoop {ctx : Context} (h : ctx.Calm p past) (register : String) :
    (endLoop register ctx).Calm p past := by
  have hcaches := h.caches.endLoop register
  rw [endLoop_eq] at hcaches ⊢
  exact ⟨h.interrupts, h.raised, hcaches⟩

namespace Quiet

theorem ask {α : Type} (f : Context → α) : Quiet p past (ask f) := fun _ hctx => hctx

theorem bind {α β : Type} {r : Render α} {f : α → Render β} (hr : Quiet p past r)
    (hf : ∀ a, Quiet p past (f a)) : Quiet p past (r >>= f) := by
  intro ctx hctx
  have hbetween := hr ctx hctx
  match hrun : r ctx with
  | (.ok a, between) =>
    rw [hrun] at hbetween
    rw [bind_apply_of_ok hrun]
    exact hf a between hbetween
  | (.error e, after) =>
    rw [hrun] at hbetween
    rw [bind_apply_of_error hrun]
    exact hbetween

theorem applyFilter (v : Value) (call : FilterCall) : Quiet p past (applyFilter config v call) := by
  intro ctx hctx
  cases hfilter : Bindings.find? config.filters call.name with
  | none =>
    rw [applyFilter_apply_none hfilter]
    exact hctx
  | some filter =>
    rw [applyFilter_apply hfilter]
    dsimp only
    split
    · exact hctx.congr rfl rfl rfl
    · exact hctx

theorem evaluate (pipeline : Pipeline) : Quiet p past (evaluate config pipeline) := by
  refine bind (ask _) fun view => ?_
  show Quiet p past
    (pipeline.filters.foldlM (Render.applyFilter config) (pipeline.source.value view))
  generalize pipeline.source.value view = v
  induction pipeline.filters generalizing v with
  | nil => exact fun _ hctx => hctx
  | cons call rest ih =>
    rw [List.foldlM_cons]
    exact bind (applyFilter v call) fun v => ih v

theorem rotate (r : Rotation) : Quiet p past (rotate config r) := fun _ hctx =>
  ⟨hctx.interrupts, hctx.raised, Context.Caches.remember (hctx.caches.congr rfl) _ (by simp)⟩

theorem loadPartial (hread : Reads config p) (path : String) :
    Quiet p past (loadPartial config path) := by
  intro ctx hctx
  have hloads := loads_loadPartial config path ctx
  have hcaches := (hloads.caches hread hctx.caches).1
  generalize Render.loadPartial config path ctx = loaded at hloads hcaches
  cases hloads <;> exact ⟨hctx.interrupts, hctx.raised, hcaches⟩

theorem pathOf (use : Inclusion) : Quiet p past (pathOf config use) := by
  intro ctx hctx
  by_cases hpath : (use.template.value (ctx.view config)).text = ""
  · rw [pathOf_apply_empty hpath]
    exact hctx
  · rw [pathOf_apply hpath]
    exact hctx

end Quiet

/-! ## Agreement -/

/-- What a render with signals comes to with interrupts: the signal is pending. -/
def pending : Except Error Signal × Context → Except Error Unit × Context
  | (.ok signal, after) => (.ok (), { after with interrupts := signal.toList })
  | (.error cause, after) => (.error cause, { after with interrupts := [] })

theorem pending_ok_none {after : Context} (h : after.interrupts = []) :
    pending (.ok none, after) = (.ok (), after) := by
  show (Except.ok (), { after with interrupts := [] }) = _
  rw [← h]

theorem pending_error {after : Context} (h : after.interrupts = []) (cause : Error) :
    pending (.error cause, after) = (.error cause, after) := by
  show (Except.error cause, { after with interrupts := [] }) = _
  rw [← h]

theorem pending_length_le (x : Except Error Signal × Context) :
    (pending x).2.interrupts.length ≤ 1 := by
  match x with
  | (.ok none, after) => exact Nat.zero_le 1
  | (.ok (some kind), after) => exact Nat.le_refl 1
  | (.error e, after) => exact Nat.zero_le 1

theorem pending_journal (x : Except Error Signal × Context) :
    (pending x).2.journal = x.2.journal := by
  match x with
  | (.ok signal, after) => rfl
  | (.error e, after) => rfl

/-- What is done to the context in the end does not meet the signal. -/
theorem pending_map {F : Context → Context}
    (hF : ∀ (c : Context) (interrupts : List Interrupt),
      F { c with interrupts := interrupts } = { F c with interrupts := interrupts })
    (x : Except Error Signal × Context) :
    Prod.map id F (pending x) = pending (Prod.map id F x) := by
  match x with
  | (.ok signal, after) => exact Prod.ext rfl (hF after signal.toList)
  | (.error e, after) => exact Prod.ext rfl (hF after [])

/-- From calm contexts, rendering with interrupts does the same as rendering with signals, which
leaves the context calm. -/
def Agrees (p : Node → Prop) (past : List Nat) (r : Render Unit) (s : Render Signal) : Prop :=
  ∀ ctx : Context, ctx.Calm p past → r ctx = pending (s ctx) ∧ (s ctx).2.Calm p past

namespace Agrees

/-- An operation without interrupts ends normally. -/
theorem of_quiet {r : Render Unit} (hr : Quiet p past r) :
    Agrees p past r (do r; return none) := by
  intro ctx hctx
  have hafter := hr ctx hctx
  match hrun : r ctx with
  | (.ok (), after) =>
    rw [hrun] at hafter
    rw [bind_apply_of_ok hrun]
    exact ⟨(pending_ok_none hafter.interrupts).symm, hafter⟩
  | (.error e, after) =>
    rw [hrun] at hafter
    rw [bind_apply_of_error hrun]
    exact ⟨(pending_error hafter.interrupts e).symm, hafter⟩

/-- Both go on in the same way after an operation without interrupts. -/
theorem bind {α : Type} {q : Render α} {f : α → Render Unit} {g : α → Render Signal}
    (hq : Quiet p past q)
    (h : ∀ ctx a, ctx.Calm p past → (q ctx).1 = .ok a → Agrees p past (f a) (g a)) :
    Agrees p past (q >>= f) (q >>= g) := by
  intro ctx hctx
  have hbetween := hq ctx hctx
  match hrun : q ctx with
  | (.ok a, between) =>
    rw [hrun] at hbetween
    rw [bind_apply_of_ok hrun, bind_apply_of_ok hrun]
    exact h ctx a hctx (by rw [hrun]) between hbetween
  | (.error e, after) =>
    rw [hrun] at hbetween
    rw [bind_apply_of_error hrun, bind_apply_of_error hrun]
    exact ⟨(pending_error hbetween.interrupts e).symm, hbetween⟩

theorem normal : Agrees p past (return ()) (return none) := fun _ hctx =>
  ⟨(pending_ok_none hctx.interrupts).symm, hctx⟩

theorem interrupt (kind : Interrupt) :
    Agrees p past (interrupt kind) (do note (.interrupted 0); return some kind) := by
  intro ctx hctx
  have hraised : ∀ n ∈ 0 :: pendingCounts ctx.journal, n = 0 ∨ n ∈ past :=
    List.forall_mem_cons.mpr ⟨.inl rfl, hctx.raised⟩
  refine ⟨?_, hctx.interrupts, hraised, hctx.caches⟩
  unfold Render.interrupt change
  simp only [hctx.interrupts]
  rfl

/-- What is pending after the first keeps the second from being rendered. -/
theorem andThen {r r' : Render Unit} {s s' : Render Signal} (h : Agrees p past r s)
    (h' : Agrees p past r' s') :
    Agrees p past (do r; unlessInterrupted r') (Structured.andThen s s') := by
  intro ctx hctx
  obtain ⟨hrun, hcalm⟩ := h ctx hctx
  unfold Structured.andThen
  -- Only after a normal end is nothing pending, and only then the second is rendered.
  match hs : s ctx with
  | (.ok none, between) =>
    rw [hs] at hrun hcalm
    rw [pending_ok_none hcalm.interrupts] at hrun
    rw [bind_apply_of_ok hrun, bind_apply_of_ok hs]
    have hnone : between.interrupts = [] := hcalm.interrupts
    have hpass : unlessInterrupted r' between = r' between := by
      simp [unlessInterrupted, isInterrupted, bind_apply, Render.ask, Context.isInterrupted, hnone]
    rw [hpass]
    exact h' between hcalm
  | (.ok (some kind), between) =>
    rw [hs] at hrun hcalm
    rw [bind_apply_of_ok hrun, bind_apply_of_ok hs]
    exact ⟨rfl, hcalm⟩
  | (.error e, after) =>
    rw [hs] at hrun hcalm
    rw [bind_apply_of_error hrun, bind_apply_of_error hs]
    exact ⟨rfl, hcalm⟩

theorem inScope (scope : Scope) {r : Render Unit} {s : Render Signal} (h : Agrees p past r s) :
    Agrees p past (inScope scope r) (Render.inScope scope s) := by
  intro ctx hctx
  obtain ⟨hrun, hcalm⟩ := h { ctx with scopes := scope :: ctx.scopes } (hctx.congr rfl rfl rfl)
  refine ⟨?_, hcalm.congr rfl rfl rfl⟩
  unfold Render.inScope
  rw [hrun]
  exact pending_map (F := fun after => { after with scopes := after.scopes.tail })
    (fun _ _ => rfl) _

/-- What was written before a signal is kept, and the signal is passed on. -/
theorem capture (name : String) {r : Render Unit} {s : Render Signal} (h : Agrees p past r s) :
    Agrees p past (do assign name (.string (← captured r)))
      (do
        let (signal, text) ← Structured.captured s
        assign name (.string text)
        return signal) := by
  intro ctx hctx
  obtain ⟨hrun, hcalm⟩ := h { ctx with output := "" } (hctx.congr rfl rfl rfl)
  rw [bind_apply, bind_apply]
  unfold captured Structured.captured
  rw [hrun]
  match hs : s { ctx with output := "" } with
  | (.ok signal, after) =>
    rw [hs] at hcalm
    exact ⟨rfl, hcalm.congr rfl rfl rfl⟩
  | (.error e, after) =>
    rw [hs] at hcalm
    exact ⟨rfl, hcalm.congr rfl rfl rfl⟩

theorem inPartial (limit : Nat) (path : String) {r : Render Unit} {s : Render Signal}
    (h : Agrees p past r s) :
    Agrees p past (inPartial limit path r) (Render.inPartial limit path s) := by
  intro ctx hctx
  by_cases hlt : ctx.depth < limit
  · obtain ⟨hrun, hcalm⟩ := h (ctx.enter path) (hctx.congr rfl rfl rfl)
    rw [inPartial_apply_of_lt hlt, inPartial_apply_of_lt hlt, hrun]
    exact ⟨pending_map (fun _ _ => rfl) _, hcalm.congr rfl rfl rfl⟩
  · have hle := Nat.le_of_not_lt hlt
    rw [inPartial_apply_of_le hle, inPartial_apply_of_le hle]
    have hnoted : (ctx.note (.refused path)).Calm p past := hctx.congr rfl rfl rfl
    exact ⟨(pending_error hnoted.interrupts _).symm, hnoted⟩

theorem inLoop (register : String) (length : Nat) {r : Nat → Render Unit}
    {s : Nat → Render Signal} (h : ∀ number, Agrees p past (r number) (s number)) :
    Agrees p past (inLoop register length r) (Render.inLoop register length s) := by
  intro ctx hctx
  have hstart : (startLoop register length ctx).2.Calm p past :=
    ⟨hctx.interrupts, hctx.raised, Context.Caches.remember (hctx.caches.congr rfl) _ (by simp)⟩
  obtain ⟨hrun, hcalm⟩ := h ctx.loops.size _ hstart
  rw [inLoop_apply, inLoop_apply, hrun]
  refine ⟨pending_map (fun c interrupts => ?_) _, hcalm.endLoop register⟩
  rw [endLoop_eq, endLoop_eq]

/-- A loop takes the interrupt that its body leaves pending. -/
theorem visitEach (number : Nat) {f : Value → Render Unit} {g : Value → Render Signal}
    (h : ∀ v, Agrees p past (f v) (g v)) (items : List Value) :
    Agrees p past (visitEach number f items) (Structured.visitEach number g items) := by
  induction items with
  | nil => exact normal
  | cons item rest ih =>
    intro ctx hctx
    obtain ⟨hrun, hcalm⟩ := h item ctx hctx
    unfold Render.visitEach Structured.visitEach
    match hs : g item ctx with
    | (.error e, after) =>
      rw [hs] at hrun hcalm
      rw [bind_apply_of_error hrun, bind_apply_of_error hs]
      exact ⟨rfl, hcalm⟩
    | (.ok signal, between) =>
      rw [hs] at hrun hcalm
      rw [bind_apply_of_ok hrun, bind_apply_of_ok hs]
      -- What is pending is taken once the item is counted as done.
      have hadvanced : (advanceLoop number between).2.Calm p past := hcalm.congr rfl rfl rfl
      have hnone : { (advanceLoop number between).2 with interrupts := [] } =
          (advanceLoop number between).2 := by
        rw [← hadvanced.interrupts]
      have hrest : Render.visitEach number f rest
            { (advanceLoop number between).2 with interrupts := [] } =
          pending (Structured.visitEach number g rest (advanceLoop number between).2) ∧
          (Structured.visitEach number g rest (advanceLoop number between).2).2.Calm p past := by
        rw [hnone]
        exact ih _ hadvanced
      match signal with
      | none => exact hrest
      | some .continueLoop => exact hrest
      | some .breakLoop => exact ⟨rfl, hadvanced⟩

theorem runLoop (tag name : String) (items : Items) {r : Render Unit} {s : Render Signal}
    (h : Agrees p past r s) :
    Agrees p past (runLoop tag name items r) (Structured.runLoop tag name items s) := by
  refine inLoop _ _ fun number => inScope _ ?_
  rw [visit_eq_visitEach number _ (Nat.le_refl _)]
  exact visitEach number (fun _ => inScope _ h) items.toList

theorem eachItem (name : String) {r : Render Unit} {s : Render Signal} (h : Agrees p past r s)
    (items : List Value) :
    Agrees p past (eachItem name r items) (Structured.eachItem name s items) := by
  induction items with
  | nil => exact normal
  | cons item rest ih => exact andThen (inScope _ h) ih

theorem withTarget (name : String) (v : Value) {r : Render Unit} {s : Render Signal}
    (h : Agrees p past r s) :
    Agrees p past (withTarget name v r) (Structured.withTarget name v s) := by
  cases v with
  | array items => exact eachItem name h items
  | nil => exact h
  | _ => exact inScope _ h

end Agrees

/-! ## Nodes -/

mutual

theorem renderNode_agrees (hrepetition : ∀ n body, ¬ p (.repetition n body))
    {q : Inclusion → Render Unit} {q' : Inclusion → Render Signal}
    (hq : ∀ use, Agrees p past (q use) (q' use)) :
    (node : Node) → (∀ n ∈ node.parts, p n) →
      Agrees p past (renderNode config q node) (Structured.renderNode config q' node)
  | .text content, _ => by
    simp only [renderNode, Structured.renderNode]
    exact .of_quiet fun _ hctx => hctx.congr rfl rfl rfl
  | .output pipeline, _ => by
    simp only [renderNode, Structured.renderNode]
    refine .bind (.evaluate pipeline) fun _ v _ _ => ?_
    exact .of_quiet fun _ hctx => hctx.congr rfl rfl rfl
  | .conditional inverted branches, hp => by
    simp only [Node.parts, List.forall_mem_cons] at hp
    simp only [renderNode, Structured.renderNode]
    exact renderBranches_agrees hrepetition hq inverted branches hp.2
  | .loop tag header body none, hp => by
    simp only [Node.parts, List.forall_mem_cons, List.forall_mem_append] at hp
    simp only [renderNode, Structured.renderNode]
    refine .bind (.ask _) fun _ view _ _ => ?_
    split
    · exact .normal
    · exact .runLoop _ _ _ (renderNodes_agrees hrepetition hq body hp.2.1)
  | .loop tag header body (some nodes), hp => by
    simp only [Node.parts, List.forall_mem_cons, List.forall_mem_append] at hp
    simp only [renderNode, Structured.renderNode]
    refine .bind (.ask _) fun _ view _ _ => ?_
    split
    · exact renderNodes_agrees hrepetition hq nodes hp.2.2
    · exact .runLoop _ _ _ (renderNodes_agrees hrepetition hq body hp.2.1)
  | .choice subject clauses, hp => by
    simp only [Node.parts, List.forall_mem_cons] at hp
    simp only [renderNode, Structured.renderNode]
    refine .bind (.ask _) fun _ view _ _ => ?_
    exact renderClauses_agrees hrepetition hq _ false clauses hp.2
  | .rotation values, _ => by
    simp only [renderNode, Structured.renderNode]
    exact .of_quiet (.rotate values)
  | .assign name pipeline, _ => by
    simp only [renderNode, Structured.renderNode]
    refine .bind (.evaluate pipeline) fun _ v _ _ => ?_
    exact .of_quiet fun _ hctx => hctx.congr rfl rfl rfl
  | .capture name body, hp => by
    simp only [Node.parts, List.forall_mem_cons] at hp
    simp only [renderNode, Structured.renderNode]
    exact .capture name (renderNodes_agrees hrepetition hq body hp.2)
  | .comment, _ => by
    simp only [renderNode, Structured.renderNode]
    exact .normal
  | .counter direction name, _ => by
    simp only [renderNode, Structured.renderNode]
    exact .of_quiet fun _ hctx => hctx.congr rfl rfl rfl
  | .interrupt kind, _ => by
    simp only [renderNode, Structured.renderNode]
    exact .interrupt kind
  | .inclusion use, _ => by
    simp only [renderNode, Structured.renderNode]
    exact hq use
  | .repetition n body, hp =>
    absurd (hp _ (mem_parts_self _)) (hrepetition n body)

/-- **Nodes are rendered with interrupts as with signals,** if the partials they use are. -/
theorem renderNodes_agrees (hrepetition : ∀ n body, ¬ p (.repetition n body))
    {q : Inclusion → Render Unit} {q' : Inclusion → Render Signal}
    (hq : ∀ use, Agrees p past (q use) (q' use)) :
    (nodes : List Node) → (∀ n ∈ partsOf nodes, p n) →
      Agrees p past (renderNodes config q nodes) (Structured.renderNodes config q' nodes)
  | [], _ => by
    simp only [renderNodes, Structured.renderNodes]
    exact .normal
  | node :: rest, hp => by
    simp only [partsOf, List.forall_mem_append] at hp
    simp only [renderNodes, Structured.renderNodes]
    exact .andThen (renderNode_agrees hrepetition hq node hp.1)
      (renderNodes_agrees hrepetition hq rest hp.2)

theorem renderBranches_agrees (hrepetition : ∀ n body, ¬ p (.repetition n body))
    {q : Inclusion → Render Unit} {q' : Inclusion → Render Signal}
    (hq : ∀ use, Agrees p past (q use) (q' use)) (inverted : Bool) :
    (branches : List Branch) → (∀ n ∈ branchParts branches, p n) →
      Agrees p past (renderBranches config q inverted branches)
        (Structured.renderBranches config q' inverted branches)
  | [], _ => by
    simp only [renderBranches, Structured.renderBranches]
    exact .normal
  | .mk condition body :: rest, hp => by
    simp only [branchParts, List.forall_mem_append] at hp
    simp only [renderBranches, Structured.renderBranches]
    refine .bind (.ask _) fun _ view _ _ => ?_
    split
    · exact renderNodes_agrees hrepetition hq body hp.1
    · exact renderBranches_agrees hrepetition hq false rest hp.2

theorem renderClauses_agrees (hrepetition : ∀ n body, ¬ p (.repetition n body))
    {q : Inclusion → Render Unit} {q' : Inclusion → Render Signal}
    (hq : ∀ use, Agrees p past (q use) (q' use)) (subject : Value) (applied : Bool) :
    (clauses : List Clause) → (∀ n ∈ clauseParts clauses, p n) →
      Agrees p past (renderClauses config q subject applied clauses)
        (Structured.renderClauses config q' subject applied clauses)
  | [], _ => by
    simp only [renderClauses, Structured.renderClauses]
    exact .normal
  | .mk .otherwise body :: rest, hp => by
    simp only [clauseParts, List.forall_mem_append] at hp
    simp only [renderClauses, Structured.renderClauses]
    split
    · exact renderClauses_agrees hrepetition hq subject applied rest hp.2
    · exact renderNodes_agrees hrepetition hq body hp.1
  | .mk (.among values) body :: rest, hp => by
    simp only [clauseParts, List.forall_mem_append] at hp
    simp only [renderClauses, Structured.renderClauses]
    refine .bind (.ask _) fun _ view _ _ => ?_
    split
    · exact .andThen (renderNodes_agrees hrepetition hq body hp.1)
        (renderClauses_agrees hrepetition hq subject true rest hp.2)
    · exact renderClauses_agrees hrepetition hq subject applied rest hp.2

end

/-! ## Partials -/

theorem renderPartial_agrees (hread : Reads config p) {renderBody : List Node → Render Unit}
    {renderBody' : List Node → Render Signal}
    (hbody : ∀ nodes, (∀ n ∈ partsOf nodes, p n) →
      Agrees p past (renderBody nodes) (renderBody' nodes))
    (use : Inclusion) (path : String) :
    Agrees p past (renderPartial config (loadPartial config) renderBody use path)
      (Structured.renderPartial config renderBody' use path) := by
  refine .bind (.loadPartial hread path) fun ctx nodes hctx hload => ?_
  have hnodes := ((loads_loadPartial config path ctx).caches hread hctx.caches).2 nodes hload
  refine .bind (.ask _) fun _ view _ _ => ?_
  exact .inScope _ (.withTarget _ _ (hbody nodes hnodes))

theorem renderInclusion_agrees (hread : Reads config p) {renderBody : List Node → Render Unit}
    {renderBody' : List Node → Render Signal}
    (hbody : ∀ nodes, (∀ n ∈ partsOf nodes, p n) →
      Agrees p past (renderBody nodes) (renderBody' nodes))
    (use : Inclusion) :
    Agrees p past (renderInclusion config (loadPartial config) renderBody use)
      (Structured.renderInclusion config renderBody' use) := by
  refine .bind (.pathOf use) fun _ path _ _ => ?_
  exact .inPartial _ path (renderPartial_agrees hread hbody use path)

theorem renderUnfolded_agrees (hread : Reads config p)
    (hrepetition : ∀ n body, ¬ p (.repetition n body)) (n : Nat) {nodes : List Node}
    (hnodes : ∀ n ∈ partsOf nodes, p n) :
    Agrees p past (renderUnfolded config (loadPartial config) (fun _ => return ()) n nodes)
      (Structured.renderUnfolded config n nodes) := by
  induction n generalizing nodes with
  | zero => exact .normal
  | succ n ih =>
    refine renderNodes_agrees hrepetition (fun use => ?_) nodes hnodes
    exact renderInclusion_agrees hread (fun _ => ih) use

theorem isOf_no_repetition {tags : TagTable}
    (h : ∀ name, Bindings.find? tags name ≠ some .repetition) (n : Expression) (body : List Node) :
    ¬ (Node.repetition n body).IsOf tags := by
  rintro ⟨name, hname⟩
  exact h name hname

/-- What was raised before counts as the past. -/
theorem Context.calm_of_caches {ctx : Context} (hpending : ctx.interrupts = [])
    (hcache : ctx.Caches p) : ctx.Calm p (pendingCounts ctx.journal) :=
  ⟨hpending, fun _ hn => .inr hn, hcache⟩

theorem standard_no_repetition (name : String) :
    Bindings.find? TagTable.standard name ≠ some .repetition := by
  intro h
  have hmem := Bindings.mem_of_find?_ofList h
  simp at hmem

/--
**Break and continue are structured.** From a context without pending interrupts, nodes are rendered
as they are with signals: with the same error or none, and the same context afterwards but for what
is pending. That is the signal, or nothing if nodes end normally or fail. No interrupt is raised
while another is pending, so there is never more than one.
-/
theorem renderAll_structured (config : Config)
    (hrepetition : ∀ name, Bindings.find? config.tags name ≠ some .repetition) {nodes : List Node}
    (hnodes : BuiltFrom config.tags nodes) (ctx : Context) (hpending : ctx.interrupts = [])
    (hcache : ctx.Caches (Node.IsOf config.tags)) :
    let done := (renderAll config nodes).run ctx
    done = pending ((Structured.renderAll config nodes).run ctx) ∧
      (∀ n ∈ pendingCounts done.2.journal, n = 0 ∨ n ∈ pendingCounts ctx.journal) ∧
      done.2.interrupts.length ≤ 1 := by
  intro done
  obtain ⟨hrun, hafter⟩ := renderUnfolded_agrees (reads_isOf config)
    (isOf_no_repetition hrepetition) _ hnodes ctx (Context.calm_of_caches hpending hcache)
  have hdone : done = pending ((Structured.renderAll config nodes).run ctx) := hrun
  refine ⟨hdone, ?_, ?_⟩
  · rw [hdone, pending_journal]
    exact hafter.raised
  · rw [hdone]
    exact pending_length_le _

/-! ### Interrupts within and behind a loop -/

/-- A loop that is left within a capture, and a continue that no loop takes. -/
def interrupted : List Node :=
  [.loop "for" ⟨"item", .range (.literal (.int 1)) (.literal (.int 3)), false, none, none⟩
    [.text "a", .capture "kept" [.text "b", .interrupt .breakLoop, .text "c"], .text "d"] none,
   .text "e", .interrupt .continueLoop, .text "f"]

theorem renderAll_structured_interrupted :
    let done := (renderAll Config.standard interrupted).run (.start [] [])
    done = pending ((Structured.renderAll Config.standard interrupted).run (.start [] [])) ∧
      done.2.output = "ae" ∧ (done.2.scopes.read "kept").text = "b" ∧
      done.2.interrupts = [.continueLoop] := by
  have hnodes : BuiltFrom TagTable.standard interrupted := by decide
  obtain ⟨hagrees, -⟩ := renderAll_structured Config.standard standard_no_repetition hnodes
    (.start [] []) rfl (Context.caches_start [] [])
  exact ⟨hagrees, by decide +kernel, by decide +kernel, by decide +kernel⟩

end Stencil.Render
