import Mathlib.Data.List.Induction
import Stencil.Proofs.Render.LoopObjects

/-!
# The variables that a tag hands to a partial

A tag that uses a partial evaluates what it hands over where it stands itself, and the partial finds
it in a scope that cannot be written to. If the tag names no target, the name of the partial is
bound in a scope of its own further in: to what the name is bound to around the tag, or to one item
of it after another. So the partial reads what it has been handed under every name but its own, and
under its own name only if that is not bound around the tag.

* `Follows.scopes` — what a step does to the stack of scopes
* `Stands` — where a moment is in the render of a partial
* `inclusion_locals` — what is read in a partial under the names of the variables it was handed
-/

namespace Stencil.Render

open Stencil.Markup Stencil.Template

variable {config : Config}

/-! ## What is handed over -/

/-- The last of the expressions that a tag gives for a name. -/
def localOf? (use : Inclusion) (name : String) : Option Expression :=
  use.locals.reverse.lookup name

theorem find?_localsOf (use : Inclusion) (view : View) (name : String) :
    Bindings.find? (localsOf use view) name = (localOf? use name).map (·.value view) :=
  Bindings.find?_ofList_map _ _ _

/-- Expressions see the same when a partial has been loaded. -/
theorem Loads.view {path : String} {ctx : Context} {loaded : Except Error (List Node) × Context}
    (h : Loads config path ctx loaded) : loaded.2.view config = ctx.view config := by
  cases h <;> rfl

/-! ## Scopes that stay -/

theorem Renders.sameBut {parts : List Node} {r : Render Unit} (h : Renders config parts r)
    (ctx : Context) : ctx.scopes.SameBut (r ctx).2.scopes :=
  (h.spares 0 ctx (Nat.zero_le _)).scopes

theorem Loads.sameBut {path : String} {ctx : Context} {loaded : Except Error (List Node) × Context}
    (h : Loads config path ctx loaded) : ctx.scopes.SameBut loaded.2.scopes :=
  (h.spared (Nat.zero_le _)).scopes

/-- What a step does to the stack of scopes: it stays, up to the innermost scope that can be written
to, or there is one more scope, which cannot be written to. -/
theorem Follows.scopes {m : Moment} {s : Surroundings} (h : Follows config m s) :
    m.ctx.scopes.SameBut s.ctx.scopes ∨
      ∃ bindings, s.ctx.scopes = .fixed bindings :: m.ctx.scopes := by
  cases h with
  | @quiet after hscopes _ _ =>
    left
    show m.ctx.scopes.SameBut after.scopes
    rw [hscopes]
    exact .refl _
  | rendered hrenders _ => exact .inl (hrenders.sameBut _)
  | loaded hloads => exact .inl hloads.sameBut
  | within bindings => exact .inr ⟨bindings, rfl⟩
  | started _ _ => exact .inr ⟨_, rfl⟩
  | visited _ _ hrenders _ => exact .inl (hrenders.sameBut _)

/-- A stack of scopes had a height when these were all that lie inside of the innermost scope that
can be written to, and has at least this height since. -/
def Scopes.Holds (held : Scopes) (height : Nat) (scopes : Scopes) : Prop :=
  ∃ inner, scopes.shielding = inner ++ held ∧ scopes.length = inner.length + height

namespace Scopes.Holds

variable {held scopes : Scopes} {height : Nat}

theorem shielding (scopes : Scopes) : Holds scopes.shielding scopes.length scopes :=
  ⟨[], rfl, (Nat.zero_add _).symm⟩

theorem sameBut (h : Holds held height scopes) {after : Scopes} (hsame : scopes.SameBut after) :
    Holds held height after := by
  obtain ⟨inner, hshielding, hlength⟩ := h
  exact ⟨inner, hsame.shielding.trans hshielding, hsame.length.trans hlength⟩

theorem shielding_fixed (bindings : Bindings Value) (scopes : Scopes) :
    Scopes.shielding (.fixed bindings :: scopes) = .fixed bindings :: scopes.shielding := rfl

theorem within (h : Holds held height scopes) (bindings : Bindings Value) :
    Holds held height (.fixed bindings :: scopes) := by
  obtain ⟨inner, hshielding, hlength⟩ := h
  refine ⟨.fixed bindings :: inner, ?_, ?_⟩
  · rw [shielding_fixed, hshielding, List.cons_append]
  · rw [List.length_cons, List.length_cons, hlength]
    omega

/-- No scope is further in than those that are held if the stack is no higher. -/
theorem eq_shielding (h : Holds held height scopes) (hheight : scopes.length = height) :
    scopes.shielding = held := by
  obtain ⟨inner, hshielding, hlength⟩ := h
  have hinner : inner = [] := List.eq_nil_of_length_eq_zero (by omega)
  rw [hshielding, hinner, List.nil_append]

/-- A scope that is added is held at the height that it brings the stack to. -/
theorem entered (h : Holds held height scopes) (hheight : scopes.length = height)
    (bindings : Bindings Value) :
    Holds (.fixed bindings :: held) (height + 1) (.fixed bindings :: scopes) := by
  refine ⟨[], ?_, ?_⟩
  · rw [shielding_fixed, h.eq_shielding hheight, List.nil_append]
  · rw [List.length_cons, hheight, List.length_nil, Nat.zero_add]

end Scopes.Holds

theorem Follows.holds {m : Moment} {s : Surroundings} (h : Follows config m s) {held : Scopes}
    {height : Nat} (hm : held.Holds height m.ctx.scopes) : held.Holds height s.ctx.scopes := by
  rcases h.scopes with hsame | ⟨bindings, hpushed⟩
  · exact hm.sameBut hsame
  · rw [hpushed]
    exact hm.within bindings

/-! ## In the render of a partial -/

/-- Where a moment is in the render of a partial whose name is bound to what it is bound to around
the tag. `held` are the scopes inside of the innermost one that can be written to, and `height` is
that of the whole stack, when what is handed over has been put into a scope. -/
inductive Stands (name : String) (own : Value) (held : Scopes) (height : Nat) (m : Moment) :
    Prop where
  /-- The name of the partial is about to be bound. -/
  | before {nodes : List Node} : m.task = .target name own nodes →
    held.Holds height m.ctx.scopes → m.ctx.scopes.length = height → Stands name own held height m
  /-- The partial is about to be rendered for the next item. -/
  | between {rest : List Value} {nodes : List Node} : own.isNil = false → rest ⊆ own.toArray →
    m.task = .each name rest nodes → held.Holds height m.ctx.scopes →
    m.ctx.scopes.length = height → Stands name own held height m
  /-- In the partial, with its name not bound. -/
  | unbound : own.isNil = true → held.Holds height m.ctx.scopes → Stands name own held height m
  /-- In the partial, with its name bound. -/
  | bound {item : Value} : item ∈ own.toArray →
    Scopes.Holds (.fixed [(name, item)] :: held) (height + 1) m.ctx.scopes →
    Stands name own held height m

/-- A value that is neither nil nor an array is its only item. -/
theorem mem_toArray_self {v : Value} (hnil : v.isNil = false) (harray : v.isArray = false) :
    v ∈ v.toArray := by
  cases v with
  | nil => cases hnil
  | array items => cases harray
  | _ => exact List.mem_singleton_self _

variable {name : String} {own : Value} {held : Scopes} {height : Nat}

/-- What one step preserves. -/
theorem Step.stands {m m' : Moment} (h : Step config m m') (hm : Stands name own held height m) :
    Stands name own held height m' := by
  cases hm with
  | before htask hholds hheight =>
    obtain ⟨s, task⟩ := m
    obtain rfl : task = _ := htask
    cases h with
    | unbound => exact .unbound rfl hholds
    | items => exact .between rfl (List.Subset.refl _) rfl hholds hheight
    | single hnil harray =>
      exact .bound (mem_toArray_self hnil harray) (hholds.entered hheight _)
  | @between rest nodes hnil hrest htask hholds hheight =>
    obtain ⟨s, task⟩ := m
    obtain rfl : task = _ := htask
    cases h with
    | item => exact .bound (hrest List.mem_cons_self) (hholds.entered hheight _)
    | @nextItem _ _ item rest nodes after hrun _ =>
      have hrenders : Renders config _ (inScope (.fixed [(name, item)]) (renderAll config nodes)) :=
        (Renders.nodes nodes).inScope _
      have hsame := hrenders.sameBut s.ctx
      rw [hrun] at hsame
      exact .between hnil (List.cons_subset.mp hrest).2 rfl (hholds.sameBut hsame)
        (hsame.length.trans hheight)
  -- Within the partial, what it has been handed stays below the scopes that come and go.
  | unbound hnil hholds => exact .unbound hnil (h.follows.holds hholds)
  | bound hitem hholds => exact .bound hitem (h.follows.holds hholds)

/-- What any number of steps preserve. -/
theorem Stands.steps {m m' : Moment} (hm : Stands name own held height m)
    (h : Relation.ReflTransGen (Step config) m m') : Stands name own held height m' := by
  induction h with
  | refl => exact hm
  | tail _ hstep ih => exact hstep.stands ih

/-- Within no further scope a partial has in scope what it was handed, and further in its name if
that is bound. -/
theorem Stands.shielding {m : Moment} (h : Stands name own held height m)
    (hheight : m.ctx.scopes.length = height + (if own.isNil then 0 else 1)) :
    own = .nil ∧ m.ctx.scopes.shielding = held ∨
      ∃ item ∈ own.toArray, m.ctx.scopes.shielding = .fixed [(name, item)] :: held := by
  cases own with
  | nil =>
    left
    refine ⟨rfl, ?_⟩
    cases h with
    | before _ hholds _ => exact hholds.eq_shielding hheight
    | between hnil _ _ _ _ => cases hnil
    | unbound _ hholds => exact hholds.eq_shielding hheight
    | bound hitem _ => cases hitem
  | _ =>
    right
    have hheight' : m.ctx.scopes.length = height + 1 := hheight
    cases h with
    | before _ _ hlength => omega
    | between _ _ _ _ hlength => omega
    | unbound hnil _ => cases hnil
    | @bound item hitem hholds => exact ⟨item, hitem, hholds.eq_shielding hheight'⟩

/-! ## What is read -/

/-- A name reads as what it has been bound to for the partial, or as what the partial itself is
bound to. -/
theorem Stands.read {m : Moment} (h : Stands name own held height m)
    (hheight : m.ctx.scopes.length = height + (if own.isNil then 0 else 1)) {key : String}
    {v : Value} (hfind : held.find? key = some v) :
    (key ≠ name ∨ own = .nil → m.ctx.scopes.read key = v) ∧
      (key = name → own ≠ .nil → m.ctx.scopes.read key ∈ own.toArray) := by
  rcases h.shielding hheight with ⟨hnil, hshielding⟩ | ⟨item, hitem, hshielding⟩
  · rw [← hshielding] at hfind
    exact ⟨fun _ => Scopes.read_of_shielding hfind, fun _ hbound => absurd hnil hbound⟩
  · refine ⟨fun hfree => Scopes.read_of_shielding ?_, fun hname _ => ?_⟩
    · have hname : name ≠ key := by
        rcases hfree with hne | rfl
        · exact hne.symm
        · cases hitem
      rw [hshielding, Scopes.find?, Scope.fixed, Bindings.find?, if_neg hname]
      exact hfind
    · subst hname
      have hread : m.ctx.scopes.shielding.find? key = some item := by
        rw [hshielding, Scopes.find?, Scope.fixed, Bindings.find?, if_pos rfl]
        rfl
      rw [Scopes.read_of_shielding hread]
      exact hitem

/-- Loading a partial changes nothing that the tag sees, and no scope is added. -/
theorem Step.loaded {s : Surroundings} {use : Inclusion} {path : String} {nodes : List Node}
    {after : Context}
    (h : Step config ⟨s, .node (.inclusion use)⟩ ⟨s.continued after, .loaded use path nodes⟩) :
    after.view config = s.ctx.view config ∧ after.scopes.length = s.ctx.scopes.length := by
  cases h with
  | inclusion _ _ hload =>
    have hloads := loads_loadPartial config path (s.ctx.enter path)
    rw [hload] at hloads
    exact ⟨hloads.view, hloads.sameBut.length⟩

/-- When a partial has been loaded, what it is handed is put into a scope, and its name is about to
be bound to what it is bound to around the tag. -/
theorem Step.stands_of_loaded {s : Surroundings} {use : Inclusion} {path : String}
    {nodes : List Node} {m : Moment} (h : Step config ⟨s, .loaded use path nodes⟩ m)
    (htarget : use.target = none) :
    Stands (partialName path) ((s.ctx.view config).read (partialName path))
      (.fixed (localsOf use (s.ctx.view config)) :: s.ctx.scopes.shielding)
      (s.ctx.scopes.length + 1) m := by
  cases h with
  | locals =>
    have htask : targetOf use path (s.ctx.view config) =
        (s.ctx.view config).read (partialName path) := by
      rw [targetOf, htarget]
      rfl
    rw [htask]
    exact .before rfl ((Scopes.Holds.shielding s.ctx.scopes).entered rfl _) rfl

/--
**What is read in a partial that is handed variables.** Take any use of a partial that names no
target, and any moment in the partial at which no loop and no further partial has been entered: the
stack of scopes is then one higher than around the tag, or two if the name of the partial is bound
around the tag. A name that the tag gives a value reads as the value that the last expression for it
had around the tag, unless it is the name of the partial and bound around the tag: then it reads as
what it is bound to there, or as an item of that.
-/
theorem inclusion_locals (config : Config) {s : Surroundings} {use : Inclusion} {path : String}
    {nodes : List Node} {after : Context} {m : Moment} {key : String} {e : Expression}
    (hstep : Step config ⟨s, .node (.inclusion use)⟩ ⟨s.continued after, .loaded use path nodes⟩)
    (htarget : use.target = none)
    (hsteps : Relation.ReflTransGen (Step config) ⟨s.continued after, .loaded use path nodes⟩ m)
    (hheight : m.ctx.scopes.length = s.ctx.scopes.length +
      (if ((s.ctx.view config).read (partialName path)).isNil then 1 else 2))
    (hkey : localOf? use key = some e) :
    let view := s.ctx.view config
    let own := view.read (partialName path)
    let read := (m.ctx.view config).read key
    (key ≠ partialName path ∨ own = .nil → read = e.value view) ∧
      (key = partialName path → own ≠ .nil → read ∈ own.toArray) := by
  intro view own read
  obtain ⟨hview, hlength⟩ := hstep.loaded
  obtain rfl | ⟨m₁, hfirst, hrest⟩ := hsteps.cases_head
  · -- What is handed over is in no scope yet.
    have hloaded : after.scopes.length =
        s.ctx.scopes.length + (if own.isNil then 1 else 2) := hheight
    split at hloaded <;> omega
  have hstands : Stands (partialName path) ((after.view config).read (partialName path))
      (.fixed (localsOf use (after.view config)) :: after.scopes.shielding)
      (after.scopes.length + 1) m := (hfirst.stands_of_loaded htarget).steps hrest
  rw [hview] at hstands
  refine hstands.read ?_ ?_
  · rw [hheight, hlength]
    split <;> rfl
  · rw [Scopes.find?, Scope.fixed, find?_localsOf, hkey]
    rfl

/-! ### A partial that is handed a variable of its own name -/

/-- The nodes of a partial that shows two variables, one of which has the name of the partial. -/
def cardNodes : List Node :=
  [.output ⟨.lookup [.name "title"], []⟩, .text ", ", .output ⟨.lookup [.name "card"], []⟩]

/-- A tag that hands both variables to the partial. -/
def handing : Inclusion :=
  ⟨.literal (.string "card"), none,
    [("title", .literal (.string "handed")), ("card", .literal (.string "handed"))]⟩

/-- The partial has been read before, and both names are bound around the tag. -/
def aroundCard : Surroundings where
  ctx := (Context.start [("card", .string "around"), ("title", .string "around")] []).remember
    partialsRegister (.partials [("card", cardNodes)])
  turns := []
  bound := []

/-- The context in which the partial is there. -/
def cardLoaded : Context :=
  (aroundCard.ctx.enter "card").remember partialsRegister (.partials [("card", cardNodes)])

/-- The first moment in the partial. -/
def inCard : Moment :=
  let view := cardLoaded.view Config.standard
  ⟨((aroundCard.continued cardLoaded).within (localsOf handing view)).within
    [(partialName "card", targetOf handing "card" view)], .nodes cardNodes⟩

theorem step_aroundCard : Step Config.standard ⟨aroundCard, .node (.inclusion handing)⟩
    ⟨aroundCard.continued cardLoaded, .loaded handing "card" cardNodes⟩ :=
  .inclusion rfl (by decide) rfl

theorem steps_inCard : Relation.ReflTransGen (Step Config.standard)
    ⟨aroundCard.continued cardLoaded, .loaded handing "card" cardNodes⟩ inCard :=
  (Relation.ReflTransGen.single .locals).tail (.single (by decide +kernel) (by decide +kernel))

theorem inclusion_locals_handing :
    handing.target = none ∧
      inCard.ctx.scopes.length = aroundCard.ctx.scopes.length + 2 ∧
      localOf? handing "title" = some (.literal (.string "handed")) ∧
      (aroundCard.ctx.view Config.standard).read "title" = .string "around" ∧
      (inCard.ctx.view Config.standard).read "title" = .string "handed" := by
  have hkey : localOf? handing "title" = some (.literal (.string "handed")) := rfl
  obtain ⟨hread, -⟩ :=
    inclusion_locals Config.standard step_aroundCard rfl steps_inCard (by decide +kernel) hkey
  exact ⟨rfl, rfl, hkey, rfl, hread (.inl (by decide +kernel))⟩

/-- A variable that a partial is handed under its own name is hidden by the one around the tag. -/
theorem local_hidden_by_own_name :
    Step Config.standard ⟨aroundCard, .node (.inclusion handing)⟩
        ⟨aroundCard.continued cardLoaded, .loaded handing "card" cardNodes⟩ ∧
      Relation.ReflTransGen (Step Config.standard)
        ⟨aroundCard.continued cardLoaded, .loaded handing "card" cardNodes⟩ inCard ∧
      inCard.ctx.scopes.length = aroundCard.ctx.scopes.length + 2 ∧
      handing.target = none ∧ localOf? handing "card" = some (.literal (.string "handed")) ∧
      (inCard.ctx.view Config.standard).read "card" = .string "around" ∧
      (renderUse Config.standard handing aroundCard.ctx).2.output = "handed, around" := by
  refine ⟨step_aroundCard, steps_inCard, rfl, rfl, rfl, ?_, by decide +kernel⟩
  have hname : partialName "card" = "card" := by decide +kernel
  simp only [inCard, targetOf, hname]
  rfl

end Stencil.Render
