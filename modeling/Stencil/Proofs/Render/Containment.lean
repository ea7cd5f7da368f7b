import Stencil.Proofs.Render.Structured

/-!
# What loops leave pending

A loop takes one interrupt after each item, the latest. What is pending after the loop is therefore
what the last item that it visited left pending, but for the latest. Only a body that may raise an
interrupt while another is pending can leave more.

* `visitEach_interrupts` — what is pending after items have been visited
* `renderNode_loop_calm` — with standard tags only, nothing is pending after a loop
* `renderNode_loop_interrupts` — what is pending after a loop, with any tags
-/

namespace Stencil.Render

open Stencil.Markup Stencil.Template

/-! ## Visits -/

/-- A visit that is over: its item is counted as done, and the latest interrupt is taken. -/
def afterVisit (number : Nat) (left : Context) : Context :=
  { (advanceLoop number left).2 with interrupts := left.interrupts.tail }

/-- The contexts that the visits of items end in, with all that they leave pending, up to a visit
that breaks or fails. -/
def visits (number : Nat) (visitItem : Value → Render Unit) : List Value → Context → List Context
  | [], _ => []
  | item :: rest, ctx =>
    match visitItem item ctx with
    | (.error _, _) => []
    | (.ok (), left) =>
      if left.interrupts.head? = some .breakLoop then [left]
      else left :: visits number visitItem rest (afterVisit number left)

/-- The context in which a loop visits its items. -/
def loopStart (tag : String) (length : Nat) (ctx : Context) : Context :=
  let started := (startLoop (loopRegister tag) length ctx).2
  { started with scopes := .fixed [("forloop", .drop (.loop ctx.loops.size))] :: started.scopes }

/-- The contexts that the visits of the items of a loop end in. -/
def loopVisits (config : Config) (partialOf : Inclusion → Render Unit) (tag : String)
    (header : LoopHeader) (body : List Node) (ctx : Context) : List Context :=
  let items := itemsOf header (ctx.view config)
  visits ctx.loops.size
    (fun item => inScope (.fixed [(header.item, item)]) (renderNodes config partialOf body))
    items.toList (loopStart tag items.count ctx)

/-- What is done after the visit of an item: the loop ends if the latest interrupt is a break, and
goes on with the other items if not. -/
theorem visitEach_cons_of_ok {number : Nat} {visitItem : Value → Render Unit} {item : Value}
    {ctx left : Context} (h : visitItem item ctx = (.ok (), left)) (rest : List Value) :
    visitEach number visitItem (item :: rest) ctx =
      if left.interrupts.head? = some .breakLoop then (.ok (), afterVisit number left)
      else visitEach number visitItem rest (afterVisit number left) := by
  rw [visitEach, bind_apply_of_ok h]
  have hadvance : advanceLoop number left = (.ok (), (advanceLoop number left).2) := rfl
  have htake : takeInterrupt (advanceLoop number left).2 =
      (.ok left.interrupts.head?, afterVisit number left) := rfl
  rw [bind_apply_of_ok hadvance, bind_apply_of_ok htake]
  match left.interrupts.head? with
  | none => rfl
  | some .breakLoop => rfl
  | some .continueLoop => rfl

/-- **What is pending after items have been visited** is what the last visit left, but for the
latest interrupt. -/
theorem visitEach_interrupts {number : Nat} {visitItem : Value → Render Unit} {items : List Value}
    {ctx after : Context} (h : visitEach number visitItem items ctx = (.ok (), after)) :
    after.interrupts =
      ((visits number visitItem items ctx).getLast?.map (·.interrupts.tail)).getD
        ctx.interrupts := by
  induction items generalizing ctx with
  | nil =>
    cases h
    rfl
  | cons item rest ih =>
    rw [visits]
    match hvisit : visitItem item ctx with
    | (.error e, left) =>
      rw [visitEach, bind_apply_of_error hvisit] at h
      cases h
    | (.ok (), left) =>
      rw [visitEach_cons_of_ok hvisit] at h
      dsimp only
      split at h
      · rename_i hbreak
        rw [if_pos hbreak]
        cases h
        rfl
      · rename_i hbreak
        rw [if_neg hbreak, List.getLast?_cons, ih h]
        cases (visits number visitItem rest (afterVisit number left)).getLast? with
        | none | some => rfl

/-- An item is visited unless there is none. -/
theorem visits_ne_nil {number : Nat} {visitItem : Value → Render Unit} {items : List Value}
    {ctx after : Context} (hitems : items ≠ [])
    (h : visitEach number visitItem items ctx = (.ok (), after)) :
    visits number visitItem items ctx ≠ [] := by
  cases items with
  | nil => exact absurd rfl hitems
  | cons item rest =>
    rw [visits]
    match hvisit : visitItem item ctx with
    | (.error e, left) =>
      rw [visitEach, bind_apply_of_error hvisit] at h
      cases h
    | (.ok (), left) =>
      dsimp only
      split <;> simp

/-! ## Loops -/

theorem eq_ok_of_isOk {x : Except Error Unit × Context} (h : x.1.isOk) : x = (.ok (), x.2) := by
  match x, h with
  | (.ok (), after), _ => rfl

variable {config : Config} {tag : String} {header : LoopHeader} {body : List Node}
  {otherwise : Option (List Node)} {ctx after : Context}

/-- What is rendered in a loop is rendered from where the loop starts, and the loop ends. -/
theorem inLoop_inScope_apply {α : Type} (tag : String) (length : Nat) (r : Nat → Render α)
    (ctx : Context) :
    inLoop (loopRegister tag) length
        (fun number => inScope (.fixed [("forloop", .drop (.loop number))]) (r number)) ctx =
      let (result, left) := r ctx.loops.size (loopStart tag length ctx)
      (result, endLoop (loopRegister tag) { left with scopes := left.scopes.tail }) := rfl

/-- A loop that has items runs over them. -/
theorem renderNode_loop_apply (partialOf : Inclusion → Render Unit)
    (hitems : (itemsOf header (ctx.view config)).count ≠ 0) :
    renderNode config partialOf (.loop tag header body otherwise) ctx =
      runLoop tag header.item (itemsOf header (ctx.view config))
        (renderNodes config partialOf body) ctx := by
  cases otherwise with
  | none | some =>
    rw [renderNode, ask_bind_apply]
    simp only [if_neg hitems]

/-- A loop that has none renders what is there for that case. -/
theorem renderNode_loop_apply_empty (partialOf : Inclusion → Render Unit)
    (hitems : (itemsOf header (ctx.view config)).count = 0) :
    renderNode config partialOf (.loop tag header body otherwise) ctx =
      otherwise.elim (pure ()) (renderNodes config partialOf) ctx := by
  cases otherwise with
  | none | some =>
    rw [renderNode, ask_bind_apply]
    simp only [if_pos hitems]
    rfl

/-- **What is pending after a loop** is what the visit of its last item left, but for the latest
interrupt. -/
theorem renderNode_loop_last {partialOf : Inclusion → Render Unit}
    (hitems : (itemsOf header (ctx.view config)).count ≠ 0)
    (h : renderNode config partialOf (.loop tag header body otherwise) ctx = (.ok (), after)) :
    ∃ left, (loopVisits config partialOf tag header body ctx).getLast? = some left ∧
      after.interrupts = left.interrupts.tail := by
  have hnonempty : (itemsOf header (ctx.view config)).toList ≠ [] := by
    rw [← List.length_pos_iff, Items.length_toList]
    exact Nat.pos_of_ne_zero hitems
  rw [renderNode_loop_apply partialOf hitems, runLoop, inLoop_inScope_apply,
    visit_eq_visitEach _ _ (Nat.le_refl _)] at h
  match hvisits : visitEach ctx.loops.size
      (fun item => inScope (.fixed [(header.item, item)]) (renderNodes config partialOf body))
      (itemsOf header (ctx.view config)).toList
      (loopStart tag (itemsOf header (ctx.view config)).count ctx) with
  | (.error e, between) =>
    rw [hvisits] at h
    cases h
  | (.ok (), between) =>
    rw [hvisits] at h
    cases h
    have hlast := visitEach_interrupts hvisits
    have hleft := List.getLast?_eq_some_getLast (visits_ne_nil hnonempty hvisits)
    rw [hleft] at hlast
    refine ⟨_, hleft, ?_⟩
    rw [endLoop_eq]
    exact hlast

/-! ## Loops over standard tags -/

/-- The render of the partial that a tag uses, with those within it unfolded so many times. -/
def partialsUnfolded (config : Config) (n : Nat) : Inclusion → Render Unit :=
  renderInclusion config (loadPartial config)
    (renderUnfolded config (loadPartial config) (fun _ => return ()) n)

/-- With signals, a loop that has items ends normally. -/
theorem renderNode_loop_signal {partialOf : Inclusion → Render Signal} {signal : Signal}
    (hitems : (itemsOf header (ctx.view config)).count ≠ 0)
    (h : Structured.renderNode config partialOf (.loop tag header body otherwise) ctx =
      (.ok signal, after)) : signal = none := by
  have hloop : Structured.runLoop tag header.item (itemsOf header (ctx.view config))
      (Structured.renderNodes config partialOf body) ctx = (.ok signal, after) := by
    cases otherwise with
    | none | some =>
      rw [Structured.renderNode, ask_bind_apply] at h
      simpa only [if_neg hitems] using h
  rw [Structured.runLoop, inLoop_inScope_apply] at hloop
  match hvisits : Structured.visitEach ctx.loops.size
      (fun item => inScope (.fixed [(header.item, item)])
        (Structured.renderNodes config partialOf body))
      (itemsOf header (ctx.view config)).toList
      (loopStart tag (itemsOf header (ctx.view config)).count ctx) with
  | (.error e, left) =>
    rw [hvisits] at hloop
    cases hloop
  | (.ok _, left) =>
    rw [hvisits] at hloop
    cases hloop
    exact Structured.visitEach_signal _ _ hvisits

/-- **Without custom blocks nothing is pending after a loop,** neither in it nor in the partials
that it uses. -/
theorem renderNode_loop_calm {p : Node → Prop} {past : List Nat} (hread : Reads config p)
    (hrepetition : ∀ n body, ¬ p (.repetition n body)) (n : Nat)
    (hp : ∀ m ∈ (Node.loop tag header body otherwise).parts, p m) (hctx : ctx.Calm p past)
    (hitems : (itemsOf header (ctx.view config)).count ≠ 0)
    (h : renderNode config (partialsUnfolded config n) (.loop tag header body otherwise) ctx =
      (.ok (), after)) : after.interrupts = [] := by
  obtain ⟨hrun, -⟩ := renderNode_agrees hrepetition
    (fun use => renderInclusion_agrees hread
      (fun nodes hnodes => renderUnfolded_agrees hread hrepetition n hnodes) use)
    (.loop tag header body otherwise) hp ctx hctx
  rw [← partialsUnfolded, h] at hrun
  match hs : Structured.renderNode config
      (Structured.renderInclusion config (Structured.renderUnfolded config n))
      (.loop tag header body otherwise) ctx with
  | (.error e, left) =>
    rw [hs] at hrun
    cases hrun
  | (.ok signal, left) =>
    rw [hs] at hrun
    cases renderNode_loop_signal hitems hs
    cases hrun
    rfl

/--
**What loops leave pending.** After a loop that has items, what the visit of its last item left is
pending, but for the latest interrupt. So interrupts that were raised in the loop stay pending where
its body raises several on end. Without custom blocks in the loop and in the partials no body does,
and nothing is pending after a loop that starts so.
-/
theorem renderNode_loop_interrupts (config : Config) (n : Nat) {tag : String} {header : LoopHeader}
    {body : List Node} {otherwise : Option (List Node)} {ctx after : Context}
    (hitems : (itemsOf header (ctx.view config)).count ≠ 0)
    (h : renderNode config (partialsUnfolded config n) (.loop tag header body otherwise) ctx =
      (.ok (), after)) :
    (∃ left,
      (loopVisits config (partialsUnfolded config n) tag header body ctx).getLast? = some left ∧
        after.interrupts = left.interrupts.tail) ∧
      ((∀ name, Bindings.find? config.tags name ≠ some .repetition) →
        BuiltFrom config.tags [.loop tag header body otherwise] →
        ctx.Caches (Node.IsOf config.tags) → ctx.interrupts = [] → after.interrupts = []) := by
  refine ⟨renderNode_loop_last hitems h, fun hrepetition hbuilt hcache hpending => ?_⟩
  exact renderNode_loop_calm (reads_isOf config) (isOf_no_repetition hrepetition) n
    (builtFrom_cons.mp hbuilt).1 (Context.calm_of_caches hpending hcache) hitems h

/-- The items `1` and `2`. -/
def twoItems : LoopHeader :=
  ⟨"i", .range (.literal (.int 1)) (.literal (.int 2)), false, none, none⟩

/-- A body that is left early. -/
def leftEarly : List Node := [.text "a", .interrupt .continueLoop, .text "b"]

theorem renderNode_loop_interrupts_leftEarly :
    let partialOf := partialsUnfolded Config.standard 1
    let done := renderNode Config.standard partialOf (.loop "for" twoItems leftEarly none)
      (.start [] [])
    (itemsOf twoItems (Context.view Config.standard (.start [] []))).count ≠ 0 ∧
      done.1 = .ok () ∧ done.2.interrupts = [] ∧
      ∃ left, (loopVisits Config.standard partialOf "for" twoItems leftEarly
        (.start [] [])).getLast? = some left ∧ left.interrupts.tail = [] := by
  intro partialOf done
  have hitems : (itemsOf twoItems (Context.view Config.standard (.start [] []))).count ≠ 0 := by
    decide
  have hok : done = (.ok (), done.2) := eq_ok_of_isOk (by decide +kernel)
  obtain ⟨⟨left, hleft, hafter⟩, hcalm⟩ :=
    renderNode_loop_interrupts Config.standard 1 hitems hok
  have hnone : done.2.interrupts = [] :=
    hcalm standard_no_repetition (by decide) (Context.caches_start [] []) rfl
  exact ⟨hitems, congrArg Prod.fst hok, hnone, left, hleft, hafter.symm.trans hnone⟩

/-- The standard tags with a custom block. -/
def repeating : Config :=
  { Config.standard with tags := Bindings.insert TagTable.standard "repeat" .repetition }

/-- A loop over one item, whose body breaks twice before the loop looks. -/
def brokenTwice : Node :=
  .loop "for" ⟨"i", .range (.literal (.int 1)) (.literal (.int 1)), false, none, none⟩
    [.repetition (.literal (.int 2)) [.interrupt .breakLoop]] none

/-- A break that is raised in a loop is pending after it, and nothing behind the loop is written. -/
theorem breakLoop_pending_after_loop :
    let done := renderNode repeating (partialsUnfolded repeating 1) brokenTwice (.start [] [])
    BuiltFrom repeating.tags [brokenTwice] ∧ done.1 = .ok () ∧
      (Context.start [] []).interrupts = [] ∧ done.2.interrupts = [.breakLoop] ∧
      ((renderAll repeating [brokenTwice, .text "after"]).run (.start [] [])).2.output = "" := by
  refine ⟨by decide, ?_, rfl, ?_, ?_⟩
  · exact congrArg Prod.fst (eq_ok_of_isOk (by decide +kernel))
  · decide +kernel
  · decide +kernel

end Stencil.Render
