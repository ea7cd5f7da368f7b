import Stencil.Proofs.Render.Kept

/-!
# The frame of a render

What a render leaves as it was, whether it succeeds or fails anywhere: the stack of scopes up to the
bindings of the innermost scope that can be written to, the number of active partials, and the loops
that are open. So nothing that a loop or a partial binds outlives its tag.

* `Scopes.SameBut` — stacks that differ in the bindings of one scope only
* `renderAll_frame` — the frame law
-/

namespace Stencil.Render

open Stencil.Markup Stencil.Template

/-! ## Scopes -/

/-- The stack afterwards is the same, up to the bindings of the innermost scope that could be
written to before. -/
structure Scopes.SameBut (before after : Scopes) : Prop where
  writable : after.map (·.writable) = before.map (·.writable)
  others : ∀ i, i ≠ before.findIdx (·.writable) → after[i]? = before[i]?

namespace Scopes.SameBut

theorem refl (scopes : Scopes) : scopes.SameBut scopes := ⟨rfl, fun _ _ => rfl⟩

theorem length {before after : Scopes} (h : before.SameBut after) :
    after.length = before.length := by
  have hlength := congrArg List.length h.writable
  simpa using hlength

/-- The same scope can be written to afterwards. -/
theorem findIdx {before after : Scopes} (h : before.SameBut after) :
    after.findIdx (·.writable) = before.findIdx (·.writable) := by
  have hmap : ∀ scopes : Scopes,
      scopes.findIdx (·.writable) = (scopes.map (·.writable)).findIdx id := by
    intro scopes
    rw [List.findIdx_map]
    rfl
  rw [hmap after, hmap before, h.writable]

theorem trans {before between after : Scopes} (h₁ : before.SameBut between)
    (h₂ : between.SameBut after) : before.SameBut after := by
  refine ⟨h₂.writable.trans h₁.writable, fun i hi => ?_⟩
  rw [h₂.others i (by rwa [h₁.findIdx]), h₁.others i hi]

theorem assign (scopes : Scopes) (name : String) (v : Value) :
    scopes.SameBut (scopes.assign name v) := by
  induction scopes with
  | nil => exact refl []
  | cons scope outer ih =>
    by_cases hw : scope.writable
    · refine ⟨by simp [Scopes.assign, hw], fun i hi => ?_⟩
      rw [List.findIdx_cons] at hi
      cases i with
      | zero => simp [hw] at hi
      | succ i => simp [Scopes.assign, hw]
    · refine ⟨by simp [Scopes.assign, hw, ih.writable], fun i hi => ?_⟩
      rw [List.findIdx_cons] at hi
      cases i with
      | zero => simp [Scopes.assign, hw]
      | succ i =>
        -- Behind a scope that cannot be written to, places count from one on.
        have hi' : i ≠ outer.findIdx (·.writable) := by
          intro heq
          simp [hw, heq] at hi
        simpa [Scopes.assign, hw] using ih.others i hi'

/-- A stack is the same once a scope that could not be written to has been taken off again. -/
theorem tail {scopes after : Scopes} {bindings : Bindings Value}
    (h : Scopes.SameBut (.fixed bindings :: scopes) after) : scopes.SameBut after.tail := by
  refine ⟨by rw [List.map_tail, h.writable]; rfl, fun i hi => ?_⟩
  have hi' : i + 1 ≠ List.findIdx (·.writable) (Scope.fixed bindings :: scopes) := by
    rw [List.findIdx_cons]
    simpa [Scope.fixed] using hi
  rw [List.getElem?_tail, h.others (i + 1) hi', List.getElem?_cons_succ]

/-- The scopes inside of the one that can be written to are the same. -/
theorem shielding {before after : Scopes} (h : before.SameBut after) :
    after.shielding = before.shielding := by
  have htake : ∀ scopes : Scopes,
      scopes.shielding = scopes.take (scopes.findIdx (·.writable)) := by
    intro scopes
    simp [Scopes.shielding, List.takeWhile_eq_take_findIdx_not]
  rw [htake, htake, h.findIdx]
  refine List.ext_getElem? fun i => ?_
  simp only [List.getElem?_take]
  split
  · rename_i hi
    exact h.others i (Nat.ne_of_lt hi)
  · rfl

end Scopes.SameBut

/-! ## Registers -/

theorem loopRegister_injective {tag other : String} (h : loopRegister tag = loopRegister other) :
    tag = other :=
  (String.append_right_inj _).mp h

theorem loopRegister_ne_partialsRegister (tag : String) : loopRegister tag ≠ partialsRegister := by
  intro h
  have hhead := congrArg (fun s => s.toList.head?) h
  simp [loopRegister, partialsRegister] at hhead

namespace Context

theorem openLoops_remember_self (ctx : Context) (key : String) (numbers : List Nat) :
    (ctx.remember key (.loops numbers)).openLoops key = numbers := by
  simp [openLoops, remember, Bindings.find?_insert_self]

theorem openLoops_remember_of_ne (ctx : Context) {key other : String} (h : key ≠ other)
    (payload : Payload) : (ctx.remember key payload).openLoops other = ctx.openLoops other := by
  simp [openLoops, remember, Bindings.find?_insert_of_ne _ h]

/-- Contexts with the same registers have the same loops open. -/
theorem openLoops_congr {ctx after : Context} (h : after.registers = ctx.registers)
    (key : String) : after.openLoops key = ctx.openLoops key := by
  rw [openLoops, openLoops, h]

end Context

theorem openLoops_endLoop_self (register : String) (ctx : Context) :
    (endLoop register ctx).openLoops register = (ctx.openLoops register).tail := by
  unfold endLoop
  split
  · rename_i numbers hfind
    rw [Context.openLoops_remember_self]
    simp [Context.openLoops, hfind]
  · rename_i hfind
    have hnone : ctx.openLoops register = [] := by
      unfold Context.openLoops
      split
      · rename_i numbers hnumbers
        exact absurd hnumbers (hfind numbers)
      · rfl
    rw [hnone]
    rfl

theorem openLoops_endLoop_of_ne {register other : String} (h : register ≠ other) (ctx : Context) :
    (endLoop register ctx).openLoops other = ctx.openLoops other := by
  unfold endLoop
  split
  · exact Context.openLoops_remember_of_ne _ h _
  · rfl

/-- No rotation remembers its places where a loop remembers which loops are open. -/
def Separate (tags : TagTable) : Prop :=
  ∀ name tag, Bindings.find? tags name = some .rotation → Bindings.find? tags tag = some .loop →
    name ≠ loopRegister tag

theorem standard_separate : Separate TagTable.standard := by
  intro name tag hname htag
  have hcycle : name = "cycle" := by simpa using Bindings.mem_of_find?_ofList hname
  have hfor : tag = "for" := by simpa using Bindings.mem_of_find?_ofList htag
  subst hcycle hfor
  decide

/-! ## The frame -/

/-- What a render leaves as it was. -/
structure Framed (tags : TagTable) (before after : Context) : Prop where
  scopes : before.scopes.SameBut after.scopes
  depth : after.depth = before.depth
  openLoops : ∀ tag, Bindings.find? tags tag = some .loop →
    after.openLoops (loopRegister tag) = before.openLoops (loopRegister tag)

namespace Framed

variable {tags : TagTable}

/-- A change of what is not in the frame. -/
theorem of_eq {before after : Context} (hscopes : after.scopes = before.scopes)
    (hdepth : after.depth = before.depth) (hregisters : after.registers = before.registers) :
    Framed tags before after :=
  ⟨hscopes ▸ .refl _, hdepth, fun _ _ => Context.openLoops_congr hregisters _⟩

theorem trans {before between after : Context} (h₁ : Framed tags before between)
    (h₂ : Framed tags between after) : Framed tags before after :=
  ⟨h₁.scopes.trans h₂.scopes, h₂.depth.trans h₁.depth,
    fun tag htag => (h₂.openLoops tag htag).trans (h₁.openLoops tag htag)⟩

/-- What is remembered for no loop is not in the frame. -/
theorem remember (ctx : Context) {key : String}
    (hkey : ∀ tag, Bindings.find? tags tag = some .loop → key ≠ loopRegister tag)
    (payload : Payload) : Framed tags ctx (ctx.remember key payload) :=
  ⟨.refl _, rfl, fun tag htag => Context.openLoops_remember_of_ne ctx (hkey tag htag) payload⟩

/-- A loop that is started is open until it is ended. -/
theorem inLoop {ctx after : Context} {tag : String} {length : Nat}
    (h : Framed tags (startLoop (loopRegister tag) length ctx).2 after)
    (htag : Bindings.find? tags tag = some .loop) :
    Framed tags ctx (endLoop (loopRegister tag) after) := by
  refine ⟨?_, ?_, fun other hother => ?_⟩
  · rw [endLoop_eq]
    exact h.scopes
  · rw [endLoop_eq]
    exact h.depth
  · -- The loop that was started is the first of its register again when it is ended.
    by_cases heq : loopRegister tag = loopRegister other
    · obtain rfl := loopRegister_injective heq
      rw [openLoops_endLoop_self, h.openLoops tag htag]
      have hstart : (startLoop (loopRegister tag) length ctx).2.openLoops (loopRegister tag) =
          ctx.loops.size :: ctx.openLoops (loopRegister tag) :=
        Context.openLoops_remember_self _ _ _
      rw [hstart]
      rfl
    · rw [openLoops_endLoop_of_ne heq, h.openLoops other hother]
      exact Context.openLoops_remember_of_ne _ heq _

theorem loads {config : Config} {path : String} {ctx : Context}
    {loaded : Except Error (List Node) × Context} (h : Loads config path ctx loaded) :
    Framed tags ctx loaded.2 := by
  have hkey : ∀ tag, Bindings.find? tags tag = some .loop → partialsRegister ≠ loopRegister tag :=
    fun tag _ => (loopRegister_ne_partialsRegister tag).symm
  have hnote : Framed tags ctx (ctx.note (.loaded path)) := of_eq rfl rfl rfl
  cases h with
  | cached _ => exact remember ctx hkey _
  | missing _ _ => exact remember ctx hkey _
  | malformed _ _ _ => exact hnote.trans (remember _ hkey _)
  | read _ _ _ => exact hnote.trans (remember _ hkey _)

/-- Every operation leaves the frame as it was. -/
theorem kept {config : Config} (hseparate : Separate config.tags) :
    Kept config (Node.IsOf config.tags) fun before _ after => Framed config.tags before after where
  refl ctx := of_eq rfl rfl rfl
  trans := trans
  fault ctx cause _ _ _ := of_eq rfl rfl rfl
  filtered ctx use := of_eq rfl rfl rfl
  emit ctx text := of_eq rfl rfl rfl
  assign ctx name v := ⟨.assign _ name v, rfl, fun _ _ => Context.openLoops_congr rfl _⟩
  count ctx direction name _ := of_eq rfl rfl rfl
  rotate ctx r hr :=
    ⟨.refl _, rfl, fun tag htag =>
      (Context.openLoops_remember_of_ne _ (hseparate r.tag tag hr htag) _).trans
        (Context.openLoops_congr rfl _)⟩
  interrupt ctx kind := of_eq rfl rfl rfl
  takeInterrupt ctx := of_eq rfl rfl rfl
  advanceLoop ctx number := of_eq rfl rfl rfl
  inScope h := ⟨h.scopes.tail, h.depth, h.openLoops⟩
  captured h := ⟨h.scopes, h.depth, h.openLoops⟩
  inLoop htag h := h.inLoop htag
  emptyName ctx _ := of_eq rfl rfl rfl
  refused ctx path _ _ := of_eq rfl rfl rfl
  inPartial {ctx after path e} _ h := by
    have hdepth : after.depth = ctx.depth + 1 := h.depth
    refine ⟨h.scopes, ?_, h.openLoops⟩
    show after.depth - 1 = ctx.depth
    omega
  loads _ hloads := loads hloads

end Framed

/--
**The frame law.** Whether the rendering of nodes succeeds or fails anywhere, no scope is left over
or missing afterwards, all bindings are the same but those of the innermost scope that could be
written to, as many partials are active as before, and the same loops are open under every loop tag.
-/
theorem renderAll_frame (config : Config) (hseparate : Separate config.tags) {nodes : List Node}
    (hnodes : BuiltFrom config.tags nodes) (ctx : Context)
    (hcache : ctx.Caches (Node.IsOf config.tags)) :
    let after := ((renderAll config nodes).run ctx).2
    after.scopes.length = ctx.scopes.length ∧
      after.scopes.map (·.writable) = ctx.scopes.map (·.writable) ∧
      (∀ i, i ≠ ctx.scopes.findIdx (·.writable) → after.scopes[i]? = ctx.scopes[i]?) ∧
      after.depth = ctx.depth ∧
      ∀ tag, Bindings.find? config.tags tag = some .loop →
        after.openLoops (loopRegister tag) = ctx.openLoops (loopRegister tag) := by
  have hsat := (Framed.kept hseparate).sat_renderAll (reads_isOf config) hnodes
  obtain ⟨hframe, -⟩ := hsat ctx hcache
  exact ⟨hframe.scopes.length, hframe.scopes.writable, hframe.scopes.others, hframe.depth,
    hframe.openLoops⟩

/-! ### A failing partial -/

/-- A loop that writes a variable and then uses a partial that cannot be had. -/
def failingLoop : List Node :=
  [.loop "for" ⟨"item", .range (.literal (.int 1)) (.literal (.int 3)), false, none, none⟩
    [.assign "seen" ⟨.literal (.int 1), []⟩, .inclusion ⟨.literal (.string "card"), none, []⟩] none]

/-- Two partials are active, and the innermost scope cannot be written to. -/
def withinPartials : Context :=
  { Context.start [] [] with
    scopes := [.fixed [("card", .nil)], .mutable [("item", .nil)]]
    depth := 2 }

/-- The loop fails within its first item and within the partial, and only the variable is left. -/
theorem renderAll_frame_failingLoop :
    let done := (renderAll Config.standard failingLoop).run withinPartials
    done.1 = .error (.rendering (.fileSystem .includesForbidden)) ∧
      done.2.scopes.read "seen" = .int 1 ∧ done.2.scopes.length = 2 ∧
      done.2.scopes[0]? = some (.fixed [("card", .nil)]) ∧ done.2.depth = 2 ∧
      done.2.openLoops "for:for" = [] := by
  have hcache : withinPartials.Caches (Node.IsOf TagTable.standard) := by
    intro path nodes h
    cases h
  have hnodes : BuiltFrom TagTable.standard failingLoop := by decide
  obtain ⟨hlength, -, hothers, hdepth, hloops⟩ :=
    renderAll_frame Config.standard standard_separate hnodes withinPartials hcache
  exact ⟨rfl, rfl, hlength, hothers 0 (by decide), hdepth, hloops "for" (by decide)⟩

end Stencil.Render
