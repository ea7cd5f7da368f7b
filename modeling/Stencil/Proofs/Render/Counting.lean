import Stencil.Proofs.Render.Caching

/-!
# Counters lose no update

The counters of a template are changed by its counter tags, by whoever sets or clears them, and by
nothing else. So what they stand at is what comes of replaying the counter tags that were executed,
also if renders failed in between; and a render reads no counter but those it counts.

* `replay` — what counter tags leave, one after another
* `Tallies` — a render changes the counters as the counter tags in its journal say
* `Blind` — a render does not depend on counters that it does not count
* `session_counting` — the counters of a template in the course of its renders
-/

namespace Stencil.Render

open Stencil.Markup Stencil.Template

/-! ## Counting -/

/-- A counter tag that was executed. -/
structure Counting where
  direction : Direction
  name : String
  deriving DecidableEq

/-- The integer that a counter stands at; one that there is not stands at zero. -/
def standing (counters : Bindings Value) (name : String) : Int64 :=
  ((Bindings.find? counters name).map Value.toInt).getD 0

/-- The next integer in a direction, or the same at the bound. -/
def stepped : Direction → Int64 → Int64
  | .up, n => Integer.clamp (n.toInt + 1)
  | .down, n => Integer.clamp (n.toInt - 1)

/-- The integer that a counter tag writes: the one before when counting up, the one after when
counting down. -/
def written : Direction → Int64 → Int64
  | .up, n => n
  | .down, n => stepped .down n

/-- The counters after a counter tag. -/
def Counting.apply (c : Counting) (counters : Bindings Value) : Bindings Value :=
  Bindings.insert counters c.name (.int (stepped c.direction (standing counters c.name)))

/-- The counters after counter tags, in their order. -/
def replay (cs : List Counting) (counters : Bindings Value) : Bindings Value :=
  cs.foldl (fun counters c => c.apply counters) counters

/-- The context after a counter tag. -/
def Context.counted (ctx : Context) (direction : Direction) (name : String) : Context :=
  let before := standing ctx.counters name
  { ctx with
    counters := (Counting.mk direction name).apply ctx.counters
    output := ctx.output ++ String.ofList (Integer.toText (written direction before))
    journal := .counted direction name before (stepped direction before) :: ctx.journal }

/-- A counter tag succeeds, and neither reads nor changes anything but its counter. -/
theorem count_apply (direction : Direction) (name : String) (ctx : Context) :
    count direction name ctx = (.ok (), ctx.counted direction name) := by
  cases direction <;> rfl

theorem standing_apply_self (c : Counting) (counters : Bindings Value) :
    standing (c.apply counters) c.name = stepped c.direction (standing counters c.name) := by
  conv_lhs => rw [standing, Counting.apply, Bindings.find?_insert_self]
  rfl

theorem find?_apply_of_ne (c : Counting) (counters : Bindings Value) {name : String}
    (h : c.name ≠ name) : Bindings.find? (c.apply counters) name = Bindings.find? counters name :=
  Bindings.find?_insert_of_ne counters h _

theorem standing_apply_of_ne (c : Counting) (counters : Bindings Value) {name : String}
    (h : c.name ≠ name) : standing (c.apply counters) name = standing counters name := by
  rw [standing, find?_apply_of_ne c counters h, standing]

theorem replay_append (cs ds : List Counting) (counters : Bindings Value) :
    replay (cs ++ ds) counters = replay ds (replay cs counters) :=
  List.foldl_append

/-! ## Journals -/

/-- The counter tag that an event tells of. -/
def Event.counting? : Event → Option Counting
  | .counted direction name _ _ => some ⟨direction, name⟩
  | _ => none

/-- The counter tags that events tell of, in order. -/
def countings (events : List Event) : List Counting :=
  events.filterMap Event.counting?

theorem countings_append (xs ys : List Event) :
    countings (xs ++ ys) = countings xs ++ countings ys :=
  List.filterMap_append

/-- What an event says of a counter is so. -/
def Event.IsTrue (counters : Bindings Value) : Event → Prop
  | .counted direction name before after =>
    before = standing counters name ∧ after = stepped direction before
  | _ => True

/-- What events say of counters is so, where each counter tag follows those before it. -/
def Tallied (counters : Bindings Value) : List Event → Prop
  | [] => True
  | e :: rest => e.IsTrue counters ∧ Tallied (replay (countings [e]) counters) rest

theorem tallied_append {counters : Bindings Value} {xs ys : List Event} :
    Tallied counters (xs ++ ys) ↔
      Tallied counters xs ∧ Tallied (replay (countings xs) counters) ys := by
  induction xs generalizing counters with
  | nil => simp [Tallied, countings, replay]
  | cons e xs ih =>
    have hsplit : countings (e :: xs) = countings [e] ++ countings xs := countings_append [e] xs
    rw [List.cons_append, Tallied, Tallied, ih, hsplit, replay_append, and_assoc]

/-- A render adds events to the journal that tell the truth of the counters, and leaves the counters
as they say. All counter tags that were executed have a property. -/
def Tallies (p : Node → Prop) (before after : Context) : Prop :=
  ∃ events, after.journal = events.reverse ++ before.journal ∧
    after.counters = replay (countings events) before.counters ∧
    Tallied before.counters events ∧
    ∀ c ∈ countings events, p (.counter c.direction c.name)

namespace Tallies

variable {p : Node → Prop} {before between after : Context}

/-- A change that neither the counters nor the journal is part of. -/
theorem of_eq (hjournal : after.journal = before.journal)
    (hcounters : after.counters = before.counters) : Tallies p before after :=
  ⟨[], hjournal, hcounters, trivial, by simp [countings]⟩

/-- An event that has nothing to do with counters. -/
theorem note {e : Event} (he : e.counting? = none) (hjournal : after.journal = e :: before.journal)
    (hcounters : after.counters = before.counters) : Tallies p before after := by
  have hnone : countings [e] = [] := by simp [countings, he]
  have htrue : e.IsTrue before.counters := by
    cases e with
    | counted => cases he
    | _ => trivial
  refine ⟨[e], hjournal, ?_, ⟨htrue, trivial⟩, ?_⟩
  · rw [hnone]
    exact hcounters
  · rw [hnone]
    simp

theorem trans (h₁ : Tallies p before between) (h₂ : Tallies p between after) :
    Tallies p before after := by
  obtain ⟨xs, hjournal₁, hcounters₁, htallied₁, hp₁⟩ := h₁
  obtain ⟨ys, hjournal₂, hcounters₂, htallied₂, hp₂⟩ := h₂
  refine ⟨xs ++ ys, ?_, ?_, ?_, ?_⟩
  · rw [hjournal₂, hjournal₁, List.reverse_append, List.append_assoc]
  · rw [hcounters₂, hcounters₁, countings_append, replay_append]
  · rw [hcounters₁] at htallied₂
    exact tallied_append.mpr ⟨htallied₁, htallied₂⟩
  · rw [countings_append]
    exact List.forall_mem_append.mpr ⟨hp₁, hp₂⟩

theorem count (ctx : Context) {direction : Direction} {name : String}
    (hp : p (.counter direction name)) : Tallies p ctx (ctx.counted direction name) := by
  refine ⟨[.counted direction name _ _], rfl, rfl, ⟨⟨rfl, rfl⟩, trivial⟩, ?_⟩
  exact List.forall_mem_singleton.mpr hp

theorem loads {config : Config} {path : String} {ctx : Context}
    {loaded : Except Error (List Node) × Context} (h : Loads config path ctx loaded) :
    Tallies p ctx loaded.2 := by
  cases h with
  | cached _ => exact of_eq rfl rfl
  | missing _ _ => exact of_eq rfl rfl
  | malformed _ _ _ => exact note (e := .loaded path) rfl rfl rfl
  | read _ _ _ => exact note (e := .loaded path) rfl rfl rfl

/-- Every operation changes counters only as the journal says. -/
theorem kept (config : Config) (p : Node → Prop) :
    Kept config p fun before _ after => Tallies p before after where
  refl ctx := of_eq rfl rfl
  trans := trans
  fault ctx cause _ _ _ := of_eq rfl rfl
  filtered ctx use := note (e := .filtered use) rfl rfl rfl
  emit ctx text := of_eq rfl rfl
  assign ctx name v := of_eq rfl rfl
  count ctx direction name hp := by
    rw [count_apply]
    exact count ctx hp
  rotate ctx r _ := note (e := .rotated r.tag _ _) rfl rfl rfl
  interrupt ctx kind := note (e := .interrupted _) rfl rfl rfl
  takeInterrupt ctx := of_eq rfl rfl
  advanceLoop ctx number := of_eq rfl rfl
  inScope h := h
  captured h := h
  inLoop {tag _ _ _ _ after _ _} _ h := by
    rw [endLoop_eq]
    exact h
  emptyName ctx _ := of_eq rfl rfl
  refused ctx path _ _ := note (e := .refused path) rfl rfl rfl
  inPartial {ctx after path e} _ h := by
    have henter : Tallies p ctx (ctx.enter path) := note (e := .entered path) rfl rfl rfl
    have hleave : Tallies p after (leavePartial path after) := note (e := .left path) rfl rfl rfl
    exact (henter.trans h).trans hleave
  loads _ h := loads h

end Tallies

/-! ## Counters that are not counted -/

/-- A render does not depend on what counters stand at that it does not count: from other counters
it comes to the same, and counters that stood at the same stand at the same afterwards. -/
def Blind {α : Type} (r : Render α) : Prop :=
  ∀ ctx, ∃ events : List Event, (r ctx).2.journal = events.reverse ++ ctx.journal ∧
    ∀ counters, (∀ c ∈ countings events, standing counters c.name = standing ctx.counters c.name) →
      ∃ after,
        r { ctx with counters := counters } = ((r ctx).1, { (r ctx).2 with counters := after }) ∧
        ∀ name, standing counters name = standing ctx.counters name →
          standing after name = standing (r ctx).2.counters name

namespace Blind

variable {config : Config}

/-- What neither reads nor changes counters. -/
theorem of_indifferent {α : Type} {r : Render α}
    (hjournal : ∀ ctx, ∃ events : List Event,
      (r ctx).2.journal = events.reverse ++ ctx.journal)
    (hr : ∀ (ctx : Context) counters, r { ctx with counters := counters } =
      ((r ctx).1, { (r ctx).2 with counters := counters })) : Blind r := by
  intro ctx
  obtain ⟨events, hevents⟩ := hjournal ctx
  have hsame : (r ctx).2.counters = ctx.counters :=
    congrArg (fun done => done.2.counters) (hr ctx ctx.counters)
  refine ⟨events, hevents, fun counters _ => ⟨counters, hr ctx counters, fun name hname => ?_⟩⟩
  rw [hsame]
  exact hname

theorem bind {α β : Type} {r : Render α} {f : α → Render β} (hr : Blind r)
    (hf : ∀ a, Blind (f a)) : Blind (r >>= f) := by
  intro ctx
  obtain ⟨xs, hxs, hblind⟩ := hr ctx
  match hrun : r ctx with
  | (.error e, between) =>
    rw [hrun] at hxs hblind
    rw [bind_apply_of_error hrun]
    refine ⟨xs, hxs, fun counters hcounters => ?_⟩
    obtain ⟨after, hrun', hafter⟩ := hblind counters hcounters
    exact ⟨after, bind_apply_of_error hrun' f, hafter⟩
  | (.ok a, between) =>
    rw [hrun] at hxs hblind
    rw [bind_apply_of_ok hrun]
    obtain ⟨ys, hys, hblind'⟩ := hf a between
    refine ⟨xs ++ ys, ?_, fun counters hcounters => ?_⟩
    · rw [hys, hxs, List.reverse_append, List.append_assoc]
    · rw [countings_append, List.forall_mem_append] at hcounters
      obtain ⟨mid, hrun', hmid⟩ := hblind counters hcounters.1
      -- What stood at the same at first still does so when the second render counts it.
      obtain ⟨after, hrun'', hafter⟩ := hblind' mid fun c hc => hmid c.name (hcounters.2 c hc)
      refine ⟨after, ?_, fun name hname => hafter name (hmid name hname)⟩
      rw [bind_apply_of_ok hrun']
      exact hrun''

theorem count (direction : Direction) (name : String) : Blind (count direction name) := by
  intro ctx
  rw [count_apply]
  refine ⟨[.counted direction name _ _], rfl, fun counters hcounters => ?_⟩
  have hname : standing counters name = standing ctx.counters name :=
    hcounters ⟨direction, name⟩ List.mem_cons_self
  refine ⟨(Counting.mk direction name).apply counters, ?_, fun other hother => ?_⟩
  · rw [count_apply]
    simp only [Context.counted, hname]
  · show standing _ other = standing ((Counting.mk direction name).apply ctx.counters) other
    by_cases heq : name = other
    · subst heq
      have hself := standing_apply_self ⟨direction, name⟩
      rw [hself counters, hself ctx.counters, hname]
    · rw [standing_apply_of_ne _ _ heq, standing_apply_of_ne _ _ heq, hother]

theorem applyFilter (v : Value) (call : FilterCall) : Blind (applyFilter config v call) := by
  cases hfilter : Bindings.find? config.filters call.name with
  | none =>
    refine of_indifferent (fun ctx => ⟨[], ?_⟩) fun ctx counters => ?_
    · rw [applyFilter_apply_none hfilter]
      rfl
    · rw [applyFilter_apply_none hfilter, applyFilter_apply_none hfilter]
  | some filter =>
    obtain ⟨operation, observed⟩ := filter
    refine of_indifferent (fun ctx => ?_) fun ctx counters => ?_
    · rw [applyFilter_apply hfilter]
      cases observed with
      | false => exact ⟨[], rfl⟩
      | true => exact ⟨[.filtered _], rfl⟩
    · rw [applyFilter_apply hfilter, applyFilter_apply hfilter]
      cases observed <;> rfl

theorem inScope (scope : Scope) {r : Render Unit} (hr : Blind r) : Blind (inScope scope r) := by
  intro ctx
  obtain ⟨events, hevents, hblind⟩ := hr { ctx with scopes := scope :: ctx.scopes }
  refine ⟨events, hevents, fun counters hcounters => ?_⟩
  obtain ⟨after, hrun, hafter⟩ := hblind counters hcounters
  let close (c : Context) : Context := { c with scopes := c.scopes.tail }
  exact ⟨after, congrArg (Prod.map id close) hrun, hafter⟩

theorem captured {r : Render Unit} (hr : Blind r) : Blind (captured r) := by
  intro ctx
  obtain ⟨events, hevents, hblind⟩ := hr { ctx with output := "" }
  refine ⟨events, hevents, fun counters hcounters => ?_⟩
  obtain ⟨after, hrun, hafter⟩ := hblind counters hcounters
  let close (done : Except Error Unit × Context) : Except Error String × Context :=
    (done.1.map fun _ => done.2.output, { done.2 with output := ctx.output })
  exact ⟨after, congrArg close hrun, hafter⟩

theorem inLoop (register : String) (length : Nat) {r : Nat → Render Unit}
    (hr : ∀ number, Blind (r number)) : Blind (inLoop register length r) := by
  intro ctx
  obtain ⟨events, hevents, hblind⟩ := hr ctx.loops.size (startLoop register length ctx).2
  rw [inLoop_apply]
  refine ⟨events, ?_, fun counters hcounters => ?_⟩
  · show (endLoop register _).journal = _
    rw [endLoop_eq]
    exact hevents
  · obtain ⟨after, hrun, hafter⟩ := hblind counters hcounters
    refine ⟨after, ?_, fun name hname => ?_⟩
    · have hend : ∀ left : Context, endLoop register { left with counters := after } =
          { endLoop register left with counters := after } := fun left => by
        rw [endLoop_eq, endLoop_eq]
      refine (congrArg (Prod.map id (endLoop register)) hrun).trans ?_
      exact congrArg (Prod.mk _) (hend _)
    · show _ = standing (endLoop register _).counters name
      rw [endLoop_eq]
      exact hafter name hname

theorem inPartial (limit : Nat) (path : String) {r : Render Unit} (hr : Blind r) :
    Blind (inPartial limit path r) := by
  intro ctx
  by_cases hlt : ctx.depth < limit
  · obtain ⟨events, hevents, hblind⟩ := hr (ctx.enter path)
    rw [inPartial_apply_of_lt hlt]
    refine ⟨.entered path :: events ++ [.left path], ?_, fun counters hcounters => ?_⟩
    · show .left path :: (r (ctx.enter path)).2.journal = _
      rw [hevents]
      simp [Context.enter, Context.note]
    · have hcounters' : ∀ c ∈ countings events,
          standing counters c.name = standing ctx.counters c.name := by
        intro c hc
        refine hcounters c ?_
        rw [countings_append]
        exact List.mem_append_left _ hc
      obtain ⟨after, hrun, hafter⟩ := hblind counters hcounters'
      refine ⟨after, ?_, hafter⟩
      have hlt' : ({ ctx with counters := counters } : Context).depth < limit := hlt
      rw [inPartial_apply_of_lt hlt']
      exact congrArg (Prod.map id (leavePartial path)) hrun
  · have hle := Nat.le_of_not_lt hlt
    rw [inPartial_apply_of_le hle]
    refine ⟨[.refused path], rfl, fun counters _ => ⟨counters, ?_, fun _ hname => hname⟩⟩
    have hle' : limit ≤ ({ ctx with counters := counters } : Context).depth := hle
    exact inPartial_apply_of_le hle' path r

theorem pathOf (use : Inclusion) : Blind (pathOf config use) := by
  refine of_indifferent (fun ctx => ⟨[], ?_⟩) fun ctx counters => ?_
  · by_cases hpath : (use.template.value (ctx.view config)).text = ""
    · rw [pathOf_apply_empty hpath]
      rfl
    · rw [pathOf_apply hpath]
      rfl
  · by_cases hpath : (use.template.value (ctx.view config)).text = ""
    · rw [pathOf_apply_empty hpath]
      exact pathOf_apply_empty hpath
    · rw [pathOf_apply hpath]
      exact pathOf_apply hpath

theorem loadPartial (path : String) : Blind (loadPartial config path) := by
  refine of_indifferent (fun ctx => ?_) fun ctx counters => ?_
  · have hloads := loads_loadPartial config path ctx
    generalize Render.loadPartial config path ctx = loaded at hloads
    cases hloads with
    | cached _ => exact ⟨[], rfl⟩
    | missing _ _ => exact ⟨[], rfl⟩
    | malformed _ _ _ => exact ⟨[.loaded path], rfl⟩
    | read _ _ _ => exact ⟨[.loaded path], rfl⟩
  · -- What is loaded depends on the registers and on storage only.
    unfold Render.loadPartial
    simp only [bind_apply, ask]
    show _ = _
    have hpartials : ({ ctx with counters := counters } : Context).partials partialsRegister =
        ctx.partials partialsRegister := rfl
    rw [hpartials]
    cases Bindings.find? (ctx.partials partialsRegister) path with
    | some nodes => rfl
    | none =>
      cases hsource : config.storage path with
      | error fault => simp only [readPartial, hsource]; rfl
      | ok source =>
        cases hnodes : nodesOf config.tags source.toList with
        | error cause => simp only [readPartial, hsource, hnodes]; rfl
        | ok nodes => simp only [readPartial, hsource, hnodes]; rfl

theorem ask {α : Type} {f : Context → α}
    (hf : ∀ (ctx : Context) counters, f { ctx with counters := counters } = f ctx) :
    Blind (ask f) :=
  of_indifferent (fun _ => ⟨[], rfl⟩) fun ctx counters =>
    congrArg (fun a => (Except.ok a, ({ ctx with counters := counters } : Context)))
      (hf ctx counters)

/-- No operation depends on counters but counting. -/
theorem respected (config : Config) :
    Respected config (fun _ => True) (fun _ => True) Eq fun _ r _ => Blind r where
  pure _ := of_indifferent (fun _ => ⟨[], rfl⟩) fun _ _ => rfl
  bind := bind
  view hf := bind (ask fun _ _ => rfl) fun view => hf view view rfl
  values _ hview _ _ := by rw [hview]
  applyFilter v _ _ := applyFilter v _
  emit _ := of_indifferent (fun _ => ⟨[], rfl⟩) fun _ _ => rfl
  assign _ _ := of_indifferent (fun _ => ⟨[], rfl⟩) fun _ _ => rfl
  count direction name _ := count direction name
  rotate r _ := of_indifferent (fun _ => ⟨[.rotated r.tag _ _], rfl⟩) fun _ _ => rfl
  isInterrupted := ask fun _ _ => rfl
  interrupt _ := of_indifferent (fun _ => ⟨[.interrupted _], rfl⟩) fun _ _ => rfl
  takeInterrupt := of_indifferent (fun _ => ⟨[], rfl⟩) fun _ _ => rfl
  advanceLoop _ := of_indifferent (fun _ => ⟨[], rfl⟩) fun _ _ => rfl
  inScope _ _ _ hr := hr.inScope _
  captured hr := hr.captured
  inLoop length _ _ _ hr := inLoop _ length fun number => hr number trivial

theorem renderUnfolded (n : Nat) (nodes : List Node) :
    Blind (renderUnfolded config (Render.loadPartial config) (fun _ => return ()) n nodes) := by
  induction n generalizing nodes with
  | zero => exact (respected config).pure ()
  | succ n ih =>
    let render := renderInclusion config (Render.loadPartial config)
      (Render.renderUnfolded config (Render.loadPartial config) (fun _ => return ()) n)
    refine @renderNodes_related _ _ _ _ _ (respected config) _ render (fun use _ => ?_) nodes
      fun _ _ => trivial
    refine bind (pathOf use) fun path => inPartial _ path ?_
    refine bind (loadPartial path) fun nodes => bind (ask fun _ _ => rfl) fun view => ?_
    have hbody := ih nodes
    let target := use.target.elim (view.read (partialName path)) (·.value view)
    let body :=
      Render.renderUnfolded config (Render.loadPartial config) (fun _ => return ()) n nodes
    exact inScope _ (@Respected.withTarget _ _ _ _ _ (respected config) _ target _ body hbody)

end Blind

/-! ## Whole renders -/

/-- Whether a node is part of a template, or of a partial that the template can use. -/
def IsPartOf (t : Template) (n : Node) : Prop :=
  n ∈ partsOf t.nodes ∨ ∃ path nodes, readPartial t.config path = .ok nodes ∧ n ∈ partsOf nodes

/-- A render leaves the counters as its journal says, and its journal tells the truth. -/
theorem tallies_render (t : Template) (data : Bindings Value) :
    (t.render data).template.counters =
        replay (countings (t.render data).journal) t.counters ∧
      Tallied t.counters (t.render data).journal ∧
      ∀ c ∈ countings (t.render data).journal, IsPartOf t (.counter c.direction c.name) := by
  have hread : Reads t.config (IsPartOf t) := fun path nodes h n hn => .inr ⟨path, nodes, h, hn⟩
  have hnodes : ∀ n ∈ partsOf t.nodes, IsPartOf t n := fun _ hn => .inl hn
  obtain ⟨⟨events, hjournal, htallies⟩, -⟩ := (Tallies.kept t.config _).sat_renderAll hread hnodes
    (.start data t.counters) (Context.caches_start _ _)
  -- The journal of the context runs backwards and starts empty.
  have hevents : (t.render data).journal = events := by
    refine (congrArg List.reverse hjournal).trans ?_
    rw [Context.start, List.append_nil, List.reverse_reverse]
  rw [hevents]
  exact htallies

/-- What a counter tag finds, at any moment of a render, is what the tags before it have left. -/
theorem counted_of_prefix {t : Template} {data : Bindings Value} {moment : List Event}
    {direction : Direction} {name : String} {before after : Int64}
    (h : moment ++ [.counted direction name before after] <+: (t.render data).journal) :
    before = standing (replay (countings moment) t.counters) name ∧
      after = stepped direction before := by
  obtain ⟨rest, hrest⟩ := h
  obtain ⟨-, htallied, -⟩ := tallies_render t data
  rw [← hrest, List.append_assoc] at htallied
  exact (tallied_append.mp htallied).2.1

/-- A render does not depend on counters that it does not count. -/
theorem render_blind (t : Template) (data counters : Bindings Value)
    (h : ∀ c ∈ countings (t.render data).journal,
      standing counters c.name = standing t.counters c.name) :
    ({ t with counters := counters }.render data).result = (t.render data).result ∧
      ({ t with counters := counters }.render data).journal = (t.render data).journal := by
  obtain ⟨events, hjournal, hblind⟩ := @Blind.renderUnfolded t.config
    (t.config.settings.maxIncludeDepth + 1) t.nodes (.start data t.counters)
  have hevents : (t.render data).journal = events := by
    refine (congrArg List.reverse hjournal).trans ?_
    rw [Context.start, List.append_nil, List.reverse_reverse]
  rw [hevents] at h
  obtain ⟨after, hrun, -⟩ := hblind counters h
  have hrun' : (renderAll t.config t.nodes).run (.start data counters) =
      (((renderAll t.config t.nodes).run (.start data t.counters)).1,
        { ((renderAll t.config t.nodes).run (.start data t.counters)).2 with
          counters := after }) := hrun
  unfold Template.render
  rw [hrun']
  exact ⟨rfl, rfl⟩

end Stencil.Render

namespace Stencil

open Stencil.Render Stencil.Template

/-! ## Sessions -/

/-- What is done to the counters of a template. -/
inductive Deed where
  | counted (c : Counting)
  | set (name : String) (v : Value)
  | cleared

namespace Deed

/-- The counters after a deed. -/
def apply : Deed → Bindings Value → Bindings Value
  | .counted c, counters => c.apply counters
  | .set name v, counters => Bindings.insert counters name v
  | .cleared, _ => []

/-- The counters after deeds, in their order. -/
def applyAll (deeds : List Deed) (counters : Bindings Value) : Bindings Value :=
  deeds.foldl (fun counters deed => deed.apply counters) counters

/-- Whether a deed is done to a counter. -/
def Touches (name : String) : Deed → Prop
  | .counted c => c.name = name
  | .set other _ => other = name
  | .cleared => True

theorem applyAll_append (xs ys : List Deed) (counters : Bindings Value) :
    applyAll (xs ++ ys) counters = applyAll ys (applyAll xs counters) :=
  List.foldl_append

theorem applyAll_counted (cs : List Counting) (counters : Bindings Value) :
    applyAll (cs.map .counted) counters = replay cs counters :=
  List.foldl_map

theorem find?_apply_of_not_touches {name : String} {deed : Deed} (h : ¬deed.Touches name)
    (counters : Bindings Value) :
    Bindings.find? (deed.apply counters) name = Bindings.find? counters name := by
  cases deed with
  | counted c => exact find?_apply_of_ne c counters h
  | set other v => exact Bindings.find?_insert_of_ne counters h v
  | cleared => exact absurd trivial h

/-- Counters that nothing is done to keep their value. -/
theorem find?_applyAll_of_not_touches {name : String} {deeds : List Deed}
    (h : ∀ deed ∈ deeds, ¬deed.Touches name) (counters : Bindings Value) :
    Bindings.find? (applyAll deeds counters) name = Bindings.find? counters name := by
  induction deeds generalizing counters with
  | nil => rfl
  | cons deed rest ih =>
    rw [List.forall_mem_cons] at h
    exact (ih h.2 _).trans (find?_apply_of_not_touches h.1 counters)

end Deed

namespace Session

/-- What a step does to the counters; a render does what its journal says, whether it fails or
not. -/
def deedsOf (s : Session) : Step → List Deed
  | .insert _ _ | .remove _ => []
  | .setCounter name v => [.set name v]
  | .clearCounters => [.cleared]
  | .render data => (countings (s.current.render data).journal).map .counted

/-- What steps do to the counters, in order. -/
def deeds : List Step → Session → List Deed
  | [], _ => []
  | step :: rest, s => s.deedsOf step ++ deeds rest (s.next Template.yield step)

/-- The session after steps. -/
def after (steps : List Step) (s : Session) : Session :=
  steps.foldl (next Template.yield) s

/-- One step leaves the counters as what it does to them says. -/
theorem counters_next (s : Session) (step : Step) :
    (s.next Template.yield step).template.counters =
      Deed.applyAll (s.deedsOf step) s.template.counters := by
  cases step with
  | insert path source => rfl
  | remove path => rfl
  | setCounter name v => rfl
  | clearCounters => rfl
  | render data =>
    rw [deedsOf, Deed.applyAll_counted]
    exact (tallies_render s.current data).1

/-- Steps leave the counters as what they do to them says. -/
theorem counters_after (steps : List Step) (s : Session) :
    (s.after steps).template.counters =
      Deed.applyAll (s.deeds steps) s.template.counters := by
  induction steps generalizing s with
  | nil => rfl
  | cons step rest ih =>
    rw [deeds, Deed.applyAll_append, ← counters_next]
    exact ih (s.next Template.yield step)

end Session

/-- A render with a datum is one with variables, unless it fails at once and does nothing. -/
theorem Template.renderDatum_eq (t : Template) (d : Host.Datum) :
    (∃ data, t.renderDatum d = t.render data) ∨
      ∃ cause, t.renderDatum d = ⟨.error cause, t, []⟩ := by
  unfold renderDatum renderValue
  split
  · split
    · exact .inl ⟨_, rfl⟩
    · exact .inr ⟨_, rfl⟩
  · exact .inr ⟨_, rfl⟩

/--
**Counters lose no update.** After a session the counters are what comes of replaying, in order,
what was done to them: counters were set and cleared, and counter tags were executed, also in
renders that failed in the end. Counters that nothing was done to keep their value.

A counter tag that is executed does no more than to count, to write the integer before or after and
to note both in the journal: it finds no variable, and no variable finds a counter. So what a tag
finds at any moment of a render is what the tags before it have left, all of which are part of the
template or of its partials; and from counters that stand elsewhere where none of them counts, the
render comes to the same.
-/
theorem session_counting (t : Template) :
    (∀ partials steps,
      let s : Session := ⟨t, partials⟩
      (s.after steps).template.counters = Deed.applyAll (s.deeds steps) t.counters ∧
      ∀ name, (∀ deed ∈ s.deeds steps, ¬deed.Touches name) →
        Bindings.find? (s.after steps).template.counters name =
          Bindings.find? t.counters name) ∧
    (∀ d, (∃ data, t.renderDatum d = t.render data) ∨
      ∃ cause, t.renderDatum d = ⟨.error cause, t, []⟩) ∧
    (∀ partialOf direction name ctx,
      renderNode t.config partialOf (.counter direction name) ctx =
        (.ok (), ctx.counted direction name)) ∧
    (∀ (ctx : Context) (counters : Bindings Value),
      { ctx with counters := counters }.view t.config = ctx.view t.config) ∧
    ∀ data,
      (∀ moment direction name before after,
        moment ++ [.counted direction name before after] <+: (t.render data).journal →
          before = standing (replay (countings moment) t.counters) name ∧
          after = stepped direction before) ∧
      (∀ c ∈ countings (t.render data).journal, IsPartOf t (.counter c.direction c.name)) ∧
      ∀ counters, (∀ c ∈ countings (t.render data).journal,
          standing counters c.name = standing t.counters c.name) →
        ({ t with counters := counters }.render data).result = (t.render data).result ∧
        ({ t with counters := counters }.render data).journal = (t.render data).journal := by
  refine ⟨fun partials steps => ?_, t.renderDatum_eq, fun _ direction name ctx => ?_,
    fun _ _ => rfl, fun data => ⟨fun _ _ _ _ _ => counted_of_prefix,
      (tallies_render t data).2.2, render_blind t data⟩⟩
  · have hafter := Session.counters_after steps ⟨t, partials⟩
    refine ⟨hafter, fun name hname => ?_⟩
    rw [hafter]
    exact Deed.find?_applyAll_of_not_touches hname t.counters
  · rw [renderNode]
    exact count_apply direction name ctx

/-! ### A render that fails behind a counter tag -/

/-- A template that counts, and then uses a partial. -/
def countingFirst : Template :=
  ⟨Config.standard, [.counter .up "n", .inclusion ⟨.literal (.string "card"), none, []⟩], []⟩

/-- A counter is set. A render fails for want of the partial, and one that has it does not. -/
def failsOnce : List Session.Step :=
  [.setCounter "n" (.int 5), .render [], .insert "card" "!", .render []]

theorem session_counting_failsOnce :
    let s : Session := ⟨countingFirst, []⟩
    (s.yields Template.yield failsOnce).map (·.1.toOption) = [none, some "6!"] ∧
      countings (countingFirst.render []).journal = [⟨.up, "n"⟩] ∧
      s.deeds failsOnce = [.set "n" (.int 5), .counted ⟨.up, "n"⟩, .counted ⟨.up, "n"⟩] ∧
      standing (s.after failsOnce).template.counters "n" = 7 := by
  intro s
  have hfirst : countings ((s.after (failsOnce.take 1)).current.render []).journal =
      [⟨.up, "n"⟩] := by
    decide +kernel
  have hsecond : countings ((s.after (failsOnce.take 3)).current.render []).journal =
      [⟨.up, "n"⟩] := by
    decide +kernel
  have hdeeds : s.deeds failsOnce =
      [.set "n" (.int 5), .counted ⟨.up, "n"⟩, .counted ⟨.up, "n"⟩] := by
    calc s.deeds failsOnce
      _ = .set "n" (.int 5) ::
            ((countings ((s.after (failsOnce.take 1)).current.render []).journal).map .counted ++
              ((countings ((s.after (failsOnce.take 3)).current.render []).journal).map .counted ++
                [])) := rfl
      _ = _ := by
        rw [hfirst, hsecond]
        rfl
  obtain ⟨hafter, -⟩ := (session_counting countingFirst).1 [] failsOnce
  refine ⟨by decide +kernel, by decide +kernel, hdeeds, ?_⟩
  rw [hafter, hdeeds]
  decide

end Stencil
