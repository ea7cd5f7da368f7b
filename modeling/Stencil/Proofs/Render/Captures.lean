import Stencil.Proofs.Markup.RoundTrip
import Stencil.Proofs.Render.Brackets
import Stencil.Proofs.Render.Choices

/-!
# Captures

What a body writes can be captured under a name and written by an output of this name, and the
result is that of rendering the body where it stands, but for the variable. So a body does the same
whether it writes to the output or is captured, also when it fails.

* `Appends.captured_apply` — capturing against rendering
* `capture_then_output` — a body that is captured and written
-/

namespace Stencil.Render

open Stencil.Markup Stencil.Template

variable {config : Config}

/-! ## Capturing -/

/-- What is captured is what a render adds to the output, which is left as it was. Apart from that,
the render comes to the same. -/
theorem Appends.captured_apply {r : Render Unit} (hr : Appends r) (ctx : Context) :
    Render.captured r ctx =
      ((r ctx).1.map fun _ => (r { ctx with output := "" }).2.output,
        { (r ctx).2 with output := ctx.output }) := by
  have h := hr ctx.output { ctx with output := "" }
  rw [ctx.behind_output] at h
  rw [h]
  rfl

/-! ## The name of a variable as markup -/

section

variable {name : String} (hname : lex name.toList = .ok [⟨.identifier, name.toList⟩])

include hname

/-- A name is what a capture binds. -/
theorem readMarkup_readTarget (tag : String) :
    readMarkup tag (some name.toList) readTarget = .ok name := by
  have hread : readTarget [⟨.identifier, name.toList⟩] =
      (.ok (String.ofList name.toList), []) := rfl
  rw [String.ofList_toList] at hread
  exact whole_of_read hname hread

/-- A name denotes the variable, unless it denotes a constant. -/
theorem ofMarkup_name (hconstant : constant? name = none) :
    Pipeline.ofMarkup name.toList = .ok ⟨.lookup [.name name], []⟩ := by
  refine whole_of_read hname ?_
  have hexpression : readExpression [⟨.identifier, name.toList⟩] =
      (.ok (.lookup [.name name]), []) := by
    rw [readExpression, beginExpression, String.ofList_toList, hconstant]
    have hnil : Markup.Follows [] := fun t ht => by cases ht
    show readSteps [] [.name name] [] = _
    rw [readSteps_follows [] [.name name] hnil, endExpression]
  have hfilters : readFilters [] [] = (.ok [], []) := by
    have hnone : ∀ call ∈ ([] : List FilterCall), call.isRepresentable := fun _ h => by cases h
    exact readFilters_lexemes hnone []
  show readPipeline _ = _
  rw [readPipeline, hexpression]
  dsimp only
  rw [hfilters]
  rfl

end

/-! ## One node and the rest -/

theorem renderAll_cons_of_ok {node : Node} {ctx between : Context}
    (h : renderNode config (renderUse config) node ctx = (.ok (), between))
    (hbetween : between.isInterrupted = false) (rest : List Node) :
    renderAll config (node :: rest) ctx = renderAll config rest between := by
  simp only [renderAll_eq]
  rw [renderNodes, bind_apply_of_ok h, unlessInterrupted_apply hbetween]

theorem renderAll_cons_of_error {node : Node} {ctx after : Context} {e : Error}
    (h : renderNode config (renderUse config) node ctx = (.error e, after)) (rest : List Node) :
    renderAll config (node :: rest) ctx = (.error e, after) := by
  rw [renderAll_eq, renderNodes]
  exact bind_apply_of_error h _

theorem renderAll_nil (ctx : Context) : renderAll config [] ctx = (.ok (), ctx) := by
  rw [renderAll_eq]
  rfl

theorem captured_renderAll (config : Config) (body : List Node) (ctx : Context) :
    captured (renderNodes config (renderUse config) body) ctx =
      ((renderAll config body ctx).1.map fun _ => appended config body ctx,
        { (renderAll config body ctx).2 with output := ctx.output }) := by
  rw [← renderAll_eq]
  exact (Appends.renderAll body).captured_apply ctx

/-- A capture binds what its body writes. -/
theorem renderNode_capture_of_ok (name : String) {body : List Node} {ctx after : Context}
    (h : renderAll config body ctx = (.ok (), after)) :
    renderNode config (renderUse config) (.capture name body) ctx =
      (.ok (), { after with
        output := ctx.output
        scopes := after.scopes.assign name (.string (appended config body ctx)) }) := by
  have hcaptured := captured_renderAll config body ctx
  rw [h] at hcaptured
  rw [renderNode, bind_apply_of_ok hcaptured]
  rfl

/-- A capture whose body fails binds nothing. -/
theorem renderNode_capture_of_error (name : String) {body : List Node} {ctx after : Context}
    {e : Error} (h : renderAll config body ctx = (.error e, after)) :
    renderNode config (renderUse config) (.capture name body) ctx =
      (.error e, { after with output := ctx.output }) := by
  have hcaptured := captured_renderAll config body ctx
  rw [h] at hcaptured
  rw [renderNode]
  exact bind_apply_of_error hcaptured _

/-- An output of a variable writes its text. -/
theorem renderAll_variable (name : String) {ctx : Context} (h : ctx.isInterrupted = false) :
    renderAll config [.output ⟨.lookup [.name name], []⟩] ctx =
      (.ok (), { ctx with output :=
        ctx.output ++ (ctx.scopes.read name).render config.settings }) := by
  have hvalue : evaluate config ⟨.lookup [.name name], []⟩ ctx =
      (.ok (ctx.scopes.read name), ctx) := rfl
  have hnode : renderNode config (renderUse config) (.output ⟨.lookup [.name name], []⟩) ctx =
      (.ok (), { ctx with output :=
        ctx.output ++ (ctx.scopes.read name).render config.settings }) := by
    rw [renderNode, bind_apply_of_ok hvalue]
    rfl
  rw [renderAll_cons_of_ok hnode h, renderAll_nil]

/-! ## Captured and written -/

/-- **A body that is captured and written does what it does where it stands.** A name can be that of
a capture and be written by an output, unless it denotes a constant. If no scope inside of the
innermost one that can be written to binds it, and a body renders and leaves no interrupt, then
capturing the body and writing the variable adds the same text to the output and leaves the same
context, but for the variable. If the body fails, so does the capture, with the same failure, and
it leaves what the body leaves, but adds nothing to the output. -/
theorem capture_then_output (config : Config) {name : String}
    (hname : lex name.toList = .ok [⟨.identifier, name.toList⟩])
    (hconstant : constant? name = none) :
    ∃ pipeline, readMarkup "capture" (some name.toList) readTarget = .ok name ∧
      Pipeline.ofMarkup name.toList = .ok pipeline ∧
      ∀ body ctx, (∃ s ∈ ctx.scopes, s.writable) →
        Scopes.find? ctx.scopes.shielding name = none →
        (∀ after, renderAll config body ctx = (.ok (), after) → after.interrupts = [] →
          ∃ text, after.output = ctx.output ++ text ∧
            renderAll config [.capture name body, .output pipeline] ctx =
              (.ok (), { after with scopes := after.scopes.assign name (.string text) })) ∧
        ∀ after e, renderAll config body ctx = (.error e, after) → ∀ rest,
          renderAll config (.capture name body :: rest) ctx =
            (.error e, { after with output := ctx.output }) := by
  refine ⟨_, readMarkup_readTarget hname "capture", ofMarkup_name hname hconstant,
    fun body ctx hwritable hbound => ⟨fun after h hinterrupts => ?_,
      fun after e h rest => renderAll_cons_of_error (renderNode_capture_of_error name h) rest⟩⟩
  have houtput : (renderAll config body ctx).2.output = _ := renderAll_output body ctx
  rw [h] at houtput
  refine ⟨appended config body ctx, houtput, ?_⟩
  -- What the body does to the scopes is balanced, so the variable reads as it is written.
  have hsame : ctx.scopes.SameBut after.scopes := by
    have hacted := renderAll_acted config body ctx
    rw [h] at hacted
    exact hacted.sameBut
  have hread : (after.scopes.assign name (.string (appended config body ctx))).read name =
      .string (appended config body ctx) :=
    Scopes.read_assign_self _ _ _ (hsame.shielding ▸ hbound) (hsame.exists_writable hwritable)
  have hpending : ∀ scopes output,
      ({ after with scopes := scopes, output := output } : Context).isInterrupted = false := by
    simp [Context.isInterrupted, hinterrupts]
  rw [renderAll_cons_of_ok (renderNode_capture_of_ok name h) (hpending _ _),
    renderAll_variable name (hpending _ _)]
  dsimp only
  rw [hread, houtput]
  rfl

/-- A body that counts, assigns and writes. -/
def tally : List Node :=
  [.text "n", .counter .up "n", .assign "seen" ⟨.literal (.int 1), []⟩]

/-- The same body, and a partial that there is not. -/
def failingTally : List Node :=
  tally ++ [.inclusion ⟨.literal (.string "card"), none, []⟩]

theorem capture_then_output_tally :
    ∃ pipeline, Pipeline.ofMarkup "kept".toList = .ok pipeline ∧
      let ctx := { Context.start [("kept", .string "before")] [] with output := "> " }
      let done := renderAll Config.standard [.capture "kept" tally, .output pipeline] ctx
      let failed := renderAll Config.standard [.capture "kept" failingTally] ctx
      done.1 = .ok () ∧ done.2.output = "> n0" ∧ done.2.scopes.read "kept" = .string "n0" ∧
        failed.1 = .error (.rendering (.fileSystem .includesForbidden)) ∧
        failed.2.output = "> " ∧ failed.2.scopes.read "kept" = .string "before" ∧
        failed.2.scopes.read "seen" = .int 1 := by
  have hname : lex "kept".toList = .ok [⟨.identifier, "kept".toList⟩] := by decide
  obtain ⟨pipeline, -, hmarkup, hrun⟩ := capture_then_output Config.standard hname (by decide)
  refine ⟨pipeline, hmarkup, ?_⟩
  intro ctx done failed
  have hwritable : ∃ s ∈ ctx.scopes, s.writable := ⟨_, List.mem_singleton_self _, rfl⟩
  obtain ⟨hdone, -⟩ := hrun tally ctx hwritable rfl
  obtain ⟨-, hfailed⟩ := hrun failingTally ctx hwritable rfl
  obtain ⟨text, htext, hdone⟩ := hdone (renderAll Config.standard tally ctx).2 rfl rfl
  have hfailed := hfailed (renderAll Config.standard failingTally ctx).2 _ rfl []
  have houtput : (renderAll Config.standard tally ctx).2.output = "> " ++ "n0" := by decide +kernel
  obtain rfl : text = "n0" :=
    (String.append_right_inj "> ").mp (htext.symm.trans houtput)
  rw [show done = _ from hdone, show failed = _ from hfailed]
  exact ⟨rfl, houtput.trans (by decide), rfl, rfl, rfl, rfl, rfl⟩

end Stencil.Render
