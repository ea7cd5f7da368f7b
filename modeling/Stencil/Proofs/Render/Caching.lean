import Mathlib.Data.List.Nodup
import Stencil.Proofs.Render.Frame
import Stencil.Template

/-!
# Partials are as if read anew

A partial is read once in a render and remembered until the end of the render. Nothing can be told
from the outside: a render comes to what it would if each use of a partial read it again, also when
partials are put into storage or taken out of it between renders.

* `renderAnew` — rendering that reads a partial each time it is used
* `Mirrors` — contexts that differ in what is remembered of partials only
* `session_caching` — renders in a row, with changes of storage between them
-/

namespace Stencil.Render

open Stencil.Markup Stencil.Template

/-! ## Rendering without a cache -/

/-- The nodes of a partial, from storage each time. -/
def readAnew (config : Config) (path : String) : Render (List Node) :=
  fun ctx => (readPartial config path, ctx)

/-- Renders nodes, reading a partial each time it is used. -/
def renderAnew (config : Config) (nodes : List Node) : Render Unit :=
  renderUnfolded config (readAnew config) (fun _ => return ())
    (config.settings.maxIncludeDepth + 1) nodes

/-! ## Contexts with and without a cache -/

/-- A context with a cache is as one without: all is the same but the journal and the register of
partials, and what is cached is what would be read. -/
structure Mirrors (config : Config) (ctx other : Context) : Prop where
  scopes : ctx.scopes = other.scopes
  counters : ctx.counters = other.counters
  interrupts : ctx.interrupts = other.interrupts
  loops : ctx.loops = other.loops
  depth : ctx.depth = other.depth
  output : ctx.output = other.output
  registers : ∀ key, key ≠ partialsRegister →
    Bindings.find? ctx.registers key = Bindings.find? other.registers key
  cached : ∀ path nodes, Bindings.find? (ctx.partials partialsRegister) path = some nodes →
    readPartial config path = .ok nodes

namespace Mirrors

variable {config : Config} {ctx other : Context}

theorem objects (h : Mirrors config ctx other) (host : String → String → Option Value) :
    ctx.objects host = other.objects host := by
  funext d key
  cases d <;> simp only [Context.objects, h.loops]

theorem view (h : Mirrors config ctx other) : ctx.view config = other.view config := by
  unfold Context.view
  rw [h.scopes, h.objects]

theorem site (h : Mirrors config ctx other) : ctx.site config = other.site config := by
  unfold Context.site
  rw [h.objects]

theorem openLoops (h : Mirrors config ctx other) {key : String} (hkey : key ≠ partialsRegister) :
    ctx.openLoops key = other.openLoops key := by
  unfold Context.openLoops
  rw [h.registers key hkey]

theorem places (h : Mirrors config ctx other) {key : String} (hkey : key ≠ partialsRegister) :
    ctx.places key = other.places key := by
  unfold Context.places
  rw [h.registers key hkey]

theorem withLoops (h : Mirrors config ctx other) (loops : Array LoopState) :
    Mirrors config { ctx with loops := loops } { other with loops := loops } :=
  { h with loops := rfl }

/-- The journal tells what a context that has a cache does, so it is not shared. -/
theorem note (h : Mirrors config ctx other) (e : Event) : Mirrors config (ctx.note e) other :=
  { h with }

/-- Both remember the same under a key that is not that of partials. -/
theorem remember (h : Mirrors config ctx other) {key : String} (hkey : key ≠ partialsRegister)
    (payload : Payload) :
    Mirrors config (ctx.remember key payload) (other.remember key payload) := by
  refine ⟨h.scopes, h.counters, h.interrupts, h.loops, h.depth, h.output, ?_, ?_⟩
  · intro name hname
    by_cases heq : key = name
    · subst heq
      simp only [Context.remember, Bindings.find?_insert_self]
    · simp only [Context.remember, Bindings.find?_insert_of_ne _ heq, h.registers name hname]
  · intro path nodes hfind
    rw [Context.partials_remember_of_ne _ hkey] at hfind
    exact h.cached path nodes hfind

/-- Remembering partials is nothing that the other context shows. -/
theorem remember_partials (h : Mirrors config ctx other) {byPath : Bindings (List Node)}
    (hread : ∀ path nodes, Bindings.find? byPath path = some nodes →
      readPartial config path = .ok nodes) :
    Mirrors config (ctx.remember partialsRegister (.partials byPath)) other := by
  refine ⟨h.scopes, h.counters, h.interrupts, h.loops, h.depth, h.output, ?_, ?_⟩
  · intro name hname
    simp only [Context.remember, Bindings.find?_insert_of_ne _ hname.symm, h.registers name hname]
  · intro path nodes hfind
    rw [Context.partials_remember_self] at hfind
    exact hread path nodes hfind

theorem endLoop (h : Mirrors config ctx other) {register : String}
    (hregister : register ≠ partialsRegister) :
    Mirrors config (endLoop register ctx) (Render.endLoop register other) := by
  unfold Render.endLoop
  rw [h.registers register hregister]
  split
  · exact h.remember hregister _
  · exact h

theorem start (config : Config) (data counters : Bindings Value) :
    Mirrors config (.start data counters) (.start data counters) := by
  refine ⟨rfl, rfl, rfl, rfl, rfl, rfl, fun _ _ => rfl, ?_⟩
  intro path nodes hfind
  cases hfind

end Mirrors

/-- Two renders come to the same from contexts with and without a cache. -/
def SameWithoutCache (config : Config) (α : Type) (r r' : Render α) : Prop :=
  ∀ ctx other, Mirrors config ctx other →
    (r ctx).1 = (r' other).1 ∧ Mirrors config (r ctx).2 (r' other).2

namespace SameWithoutCache

variable {config : Config}

/-- Both go on in the same way with what comes of the first. -/
theorem bindOf {α β : Type} {r r' : Render α} {f f' : α → Render β}
    (hr : SameWithoutCache config α r r')
    (hf : ∀ other a, (r' other).1 = .ok a → SameWithoutCache config β (f a) (f' a)) :
    SameWithoutCache config β (r >>= f) (r' >>= f') := by
  intro ctx other h
  obtain ⟨hresult, hafter⟩ := hr ctx other h
  rw [bind_apply, bind_apply]
  -- The results are the same, so the first succeeds in both ways or in none.
  match hrun : r ctx, hrun' : r' other with
  | (.ok a, between), (.ok a', between') =>
    rw [hrun, hrun'] at hresult hafter
    cases hresult
    exact hf other a (by rw [hrun']) between between' hafter
  | (.error e, after), (.error e', after') =>
    rw [hrun, hrun'] at hresult hafter
    cases hresult
    exact ⟨rfl, hafter⟩
  | (.ok a, between), (.error e, after) =>
    rw [hrun, hrun'] at hresult
    cases hresult
  | (.error e, after), (.ok a, between) =>
    rw [hrun, hrun'] at hresult
    cases hresult

theorem bind {α β : Type} {r r' : Render α} {f f' : α → Render β}
    (hr : SameWithoutCache config α r r') (hf : ∀ a, SameWithoutCache config β (f a) (f' a)) :
    SameWithoutCache config β (r >>= f) (r' >>= f') :=
  hr.bindOf fun _ a _ => hf a

/-- What depends on no more than what both contexts share. -/
theorem ask {α : Type} {f : Context → α}
    (hf : ∀ ctx other, Mirrors config ctx other → f ctx = f other) :
    SameWithoutCache config α (ask f) (ask f) := fun ctx other h =>
  ⟨congrArg Except.ok (hf ctx other h), h⟩

theorem view : SameWithoutCache config View (Render.ask (·.view config))
    (Render.ask (·.view config)) :=
  ask fun _ _ h => h.view

theorem applyFilter (v : Value) (call : FilterCall) :
    SameWithoutCache config Value (applyFilter config v call) (applyFilter config v call) := by
  intro ctx other h
  cases hfilter : Bindings.find? config.filters call.name with
  | none =>
    rw [applyFilter_apply_none hfilter, applyFilter_apply_none hfilter]
    exact ⟨rfl, h⟩
  | some filter =>
    rw [applyFilter_apply hfilter, applyFilter_apply hfilter, h.view, h.site]
    refine ⟨rfl, ?_⟩
    dsimp only
    split
    · exact { h with }
    · exact h

theorem emit (text : String) : SameWithoutCache config Unit (emit text) (Render.emit text) :=
  fun _ _ h => ⟨rfl, { h with output := congrArg (· ++ text) h.output }⟩

theorem note (e : Event) : SameWithoutCache config Unit (note e) (Render.note e) :=
  fun _ _ h => ⟨rfl, { h with }⟩

theorem remember {key : String} (hkey : key ≠ partialsRegister) (payload : Payload) :
    SameWithoutCache config Unit (change (·.remember key payload))
      (change (·.remember key payload)) :=
  fun _ _ h => ⟨rfl, h.remember hkey payload⟩

theorem count (direction : Direction) (name : String) :
    SameWithoutCache config Unit (count direction name) (count direction name) := by
  refine bind (ask fun _ _ h => h.counters) fun counters => ?_
  refine bind (fun _ _ h => ⟨rfl, ?_⟩) fun _ => bind (note _) fun _ => emit _
  exact { h with counters := congrArg (fun c => Bindings.insert c name _) h.counters }

theorem rotate {r : Rotation} (hr : r.tag ≠ partialsRegister) :
    SameWithoutCache config Unit (rotate config r) (rotate config r) := by
  refine bind view fun view => bind (ask fun _ _ h => h.places hr) fun places => ?_
  exact bind (emit _) fun _ => bind (note _) fun _ => remember hr _

theorem inScope (scope : Scope) {r r' : Render Unit} (hr : SameWithoutCache config Unit r r') :
    SameWithoutCache config Unit (inScope scope r) (Render.inScope scope r') := by
  intro ctx other h
  obtain ⟨hresult, hafter⟩ := hr { ctx with scopes := scope :: ctx.scopes }
    { other with scopes := scope :: other.scopes }
    { h with scopes := congrArg (scope :: ·) h.scopes }
  exact ⟨hresult, { hafter with scopes := congrArg List.tail hafter.scopes }⟩

theorem captured {r r' : Render Unit} (hr : SameWithoutCache config Unit r r') :
    SameWithoutCache config String (captured r) (Render.captured r') := by
  intro ctx other h
  obtain ⟨hresult, hafter⟩ := hr { ctx with output := "" } { other with output := "" }
    { h with output := rfl }
  refine ⟨?_, { hafter with output := h.output }⟩
  show Except.map _ _ = Except.map _ _
  rw [hresult, hafter.output]

theorem inLoop {register : String} (hregister : register ≠ partialsRegister) (length : Nat)
    {r r' : Nat → Render Unit}
    (hr : ∀ number, SameWithoutCache config Unit (r number) (r' number)) :
    SameWithoutCache config Unit (inLoop register length r) (Render.inLoop register length r') := by
  intro ctx other h
  have hstart : Mirrors config (startLoop register length ctx).2
      (startLoop register length other).2 := by
    unfold startLoop
    simp only [h.openLoops hregister, h.loops]
    exact (h.withLoops _).remember hregister _
  obtain ⟨hresult, hafter⟩ := hr ctx.loops.size _ _ hstart
  rw [inLoop_apply, inLoop_apply, ← h.loops]
  exact ⟨hresult, hafter.endLoop hregister⟩

theorem inPartial (limit : Nat) (path : String) {r r' : Render Unit}
    (hr : SameWithoutCache config Unit r r') :
    SameWithoutCache config Unit (inPartial limit path r) (Render.inPartial limit path r') := by
  intro ctx other h
  by_cases hlt : ctx.depth < limit
  · have hlt' : other.depth < limit := h.depth ▸ hlt
    obtain ⟨hresult, hafter⟩ := hr (ctx.enter path) (other.enter path)
      { h with depth := congrArg (· + 1) h.depth }
    rw [inPartial_apply_of_lt hlt, inPartial_apply_of_lt hlt']
    exact ⟨hresult, { hafter with depth := congrArg (· - 1) hafter.depth }⟩
  · have hle := Nat.le_of_not_lt hlt
    have hle' : limit ≤ other.depth := h.depth ▸ hle
    rw [inPartial_apply_of_le hle, inPartial_apply_of_le hle']
    exact ⟨rfl, { h with }⟩

/-- What is loaded is what would be read. -/
theorem load (path : String) :
    SameWithoutCache config (List Node) (loadPartial config path) (readAnew config path) := by
  intro ctx other h
  have hloads := loads_loadPartial config path ctx
  have hcached := h.remember_partials h.cached
  show _ = readPartial config path ∧ Mirrors config _ other
  generalize loadPartial config path ctx = loaded at hloads
  cases hloads with
  | cached hfind => exact ⟨(h.cached path _ hfind).symm, hcached⟩
  | missing hfind hsource => exact ⟨by simp only [readPartial, hsource], hcached⟩
  | malformed hfind hsource hnodes =>
    exact ⟨(readPartial_of_malformed hsource hnodes).symm, { hcached with }⟩
  | @read source nodes hfind hsource hnodes =>
    have hread := readPartial_of_read hsource hnodes
    refine ⟨hread.symm, (h.note _).remember_partials ?_⟩
    intro path' nodes' hfind'
    by_cases heq : path = path'
    · subst heq
      rw [Bindings.find?_insert_self] at hfind'
      cases hfind'
      exact hread
    · rw [Bindings.find?_insert_of_ne _ heq] at hfind'
      exact h.cached path' nodes' hfind'

/-- All operations come to the same, if no rotation remembers its places where partials are. -/
theorem respected (hrotation : Bindings.find? config.tags partialsRegister ≠ some .rotation) :
    Respected config (Node.IsOf config.tags) (fun _ => True) Eq (SameWithoutCache config) where
  pure a _ _ h := ⟨rfl, h⟩
  bind := bind
  view hf := bind view fun view => hf view view rfl
  values _ hview _ _ := by rw [hview]
  applyFilter v _ _ := applyFilter v _
  emit := emit
  assign name v _ _ h := ⟨rfl, { h with scopes := congrArg (·.assign name v) h.scopes }⟩
  count direction name _ := count direction name
  rotate r hr := by
    refine rotate fun heq => hrotation ?_
    rw [← heq]
    exact hr
  isInterrupted := ask fun _ _ h => by simp only [Context.isInterrupted, h.interrupts]
  interrupt kind _ _ h := ⟨rfl, { h with interrupts := congrArg (kind :: ·) h.interrupts }⟩
  takeInterrupt _ _ h :=
    ⟨congrArg (fun l : List Interrupt => Except.ok l.head?) h.interrupts,
      { h with interrupts := congrArg List.tail h.interrupts }⟩
  advanceLoop {number} _ _ _ h :=
    ⟨rfl, { h with
      loops := congrArg (·.modify number fun l => { l with index := l.index + 1 }) h.loops }⟩
  inScope _ _ _ hr := hr.inScope _
  captured hr := hr.captured
  inLoop length _ _ _ hr := inLoop (loopRegister_ne_partialsRegister _) length fun number =>
    hr number trivial

theorem pathOf (use : Inclusion) :
    SameWithoutCache config String (pathOf config use) (Render.pathOf config use) := by
  refine bind view fun view => ?_
  dsimp only
  split
  · exact fun _ _ h => ⟨rfl, h⟩
  · exact fun _ _ h => ⟨rfl, h⟩

theorem renderUnfolded
    (hrotation : Bindings.find? config.tags partialsRegister ≠ some .rotation) (n : Nat)
    {nodes : List Node} (hnodes : BuiltFrom config.tags nodes) :
    SameWithoutCache config Unit
      (renderUnfolded config (loadPartial config) (fun _ => return ()) n nodes)
      (Render.renderUnfolded config (readAnew config) (fun _ => return ()) n nodes) := by
  induction n generalizing nodes with
  | zero => exact fun _ _ h => ⟨rfl, h⟩
  | succ n ih =>
    refine renderNodes_related (respected hrotation) (fun use _ => ?_) nodes hnodes
    refine bind (pathOf use) fun path => inPartial _ path ?_
    refine bindOf (load path) fun _ nodes hload => bind view fun view => inScope _ ?_
    -- What is loaded was read with the tags of the configuration.
    have hbody := ih (reads_isOf config path nodes hload)
    exact (respected hrotation).withTarget _ _ hbody

end SameWithoutCache

/-- **A render with a cache comes to what it would come to if each use of a partial read it.** -/
theorem renderAll_eq_renderAnew {config : Config}
    (hrotation : Bindings.find? config.tags partialsRegister ≠ some .rotation) {nodes : List Node}
    (hnodes : BuiltFrom config.tags nodes) (data counters : Bindings Value) :
    let cached := (renderAll config nodes).run (.start data counters)
    let anew := (renderAnew config nodes).run (.start data counters)
    cached.1 = anew.1 ∧ cached.2.output = anew.2.output ∧ cached.2.counters = anew.2.counters := by
  obtain ⟨hresult, hafter⟩ := SameWithoutCache.renderUnfolded hrotation
    (config.settings.maxIncludeDepth + 1) hnodes _ _ (Mirrors.start config data counters)
  exact ⟨hresult, hafter.output, hafter.counters⟩

/-! ## Reading once -/

/-- The paths of the partials that were read from storage. -/
def readPaths (journal : List Event) : List String :=
  journal.filterMap fun
    | .loaded path => some path
    | _ => none

/-- No path was read twice, what is cached was read, and what was read is cached unless that failed
in the end. -/
structure ReadOnce (e : Option Error) (ctx : Context) : Prop where
  nodup : (readPaths ctx.journal).Nodup
  read : ∀ path nodes, Bindings.find? (ctx.partials partialsRegister) path = some nodes →
    path ∈ readPaths ctx.journal
  cached : e = none → ∀ path ∈ readPaths ctx.journal,
    Bindings.find? (ctx.partials partialsRegister) path ≠ none

namespace ReadOnce

variable {config : Config} {e : Option Error} {ctx after : Context}

theorem start (data counters : Bindings Value) : ReadOnce none (.start data counters) where
  nodup := List.nodup_nil
  read := by
    intro path nodes hfind
    cases hfind
  cached := by
    intro _ path hpath
    cases hpath

/-- A change of neither the cache nor what was read. -/
theorem congr (h : ReadOnce e ctx)
    (hpartials : after.partials partialsRegister = ctx.partials partialsRegister)
    (hread : readPaths after.journal = readPaths ctx.journal) : ReadOnce e after := by
  refine ⟨?_, ?_, ?_⟩
  · rw [hread]
    exact h.nodup
  · rw [hpartials, hread]
    exact h.read
  · rw [hpartials, hread]
    exact h.cached

theorem fail (h : ReadOnce none ctx) (cause : Error) : ReadOnce (some cause) ctx :=
  ⟨h.nodup, h.read, fun hnone => by cases hnone⟩

/-- What is not cached has not been read. -/
theorem not_read (h : ReadOnce none ctx) {path : String}
    (hfind : Bindings.find? (ctx.partials partialsRegister) path = none) :
    path ∉ readPaths ctx.journal :=
  fun hmem => h.cached rfl path hmem hfind

theorem endLoop (h : ReadOnce e ctx) {register : String} (hregister : register ≠ partialsRegister) :
    ReadOnce e (endLoop register ctx) := by
  unfold Render.endLoop
  split
  · exact h.congr (Context.partials_remember_of_ne _ hregister _) rfl
  · exact h

/-- A partial is read only if it is not cached, and then it is cached. -/
theorem loads {path : String} {loaded : Except Error (List Node) × Context}
    (hloads : Loads config path ctx loaded) (h : ReadOnce none ctx) :
    ReadOnce (failure loaded.1) loaded.2 := by
  have hsame : ∀ c : Context, (c.remember partialsRegister
      (.partials (ctx.partials partialsRegister))).partials partialsRegister =
        ctx.partials partialsRegister := fun c => c.partials_remember_self _ _
  cases hloads with
  | cached hfind => exact h.congr (hsame _) rfl
  | missing hfind hsource => exact (h.congr (hsame _) rfl).fail _
  | malformed hfind hsource hnodes =>
    -- The source was read but nothing is cached, which is why a failure is told apart.
    refine ⟨?_, ?_, fun hnone => by cases hnone⟩
    · exact List.nodup_cons.mpr ⟨h.not_read hfind, h.nodup⟩
    · rw [hsame]
      exact fun other nodes hother => List.mem_cons_of_mem path (h.read other nodes hother)
  | read hfind hsource hnodes =>
    refine ⟨?_, ?_, ?_⟩
    · exact List.nodup_cons.mpr ⟨h.not_read hfind, h.nodup⟩
    · intro other nodes' hother
      rw [Context.partials_remember_self] at hother
      by_cases heq : path = other
      · subst heq
        exact List.mem_cons_self
      · rw [Bindings.find?_insert_of_ne _ heq] at hother
        exact List.mem_cons_of_mem path (h.read other nodes' hother)
    · intro _ other hmem
      rw [Context.partials_remember_self]
      by_cases heq : path = other
      · subst heq
        rw [Bindings.find?_insert_self]
        simp
      · rw [Bindings.find?_insert_of_ne _ heq]
        rcases List.mem_cons.mp hmem with hother | hmem
        · exact absurd hother.symm heq
        · exact h.cached rfl other hmem

/-- All operations keep what is cached in step with what was read. -/
theorem kept (hrotation : Bindings.find? config.tags partialsRegister ≠ some .rotation) :
    Kept config (Node.IsOf config.tags)
      fun before e after => ReadOnce none before → ReadOnce e after where
  refl _ h := h
  trans h₁ h₂ h := h₂ (h₁ h)
  fault _ _ _ _ _ h := h.fail _
  filtered _ _ h := h.congr rfl rfl
  emit _ _ h := h.congr rfl rfl
  assign _ _ _ h := h.congr rfl rfl
  count _ _ _ _ h := h.congr rfl rfl
  rotate ctx r hr h := by
    have htag : r.tag ≠ partialsRegister := by
      intro heq
      rw [← heq] at hrotation
      exact hrotation hr
    exact h.congr (Context.partials_remember_of_ne _ htag _) rfl
  interrupt _ _ h := h.congr rfl rfl
  takeInterrupt _ h := h.congr rfl rfl
  advanceLoop _ _ h := h.congr rfl rfl
  inScope hbody h := (hbody (h.congr rfl rfl)).congr rfl rfl
  captured hbody h := (hbody (h.congr rfl rfl)).congr rfl rfl
  inLoop {tag _ _ _ _ _ _ _} _ hbody h := by
    have hne := loopRegister_ne_partialsRegister tag
    exact (hbody (h.congr (Context.partials_remember_of_ne _ hne _) rfl)).endLoop hne
  emptyName _ _ h := h.fail _
  refused ctx path _ _ h := by
    have hnoted : ReadOnce none (ctx.note (.refused path)) := h.congr rfl rfl
    exact hnoted.fail _
  inPartial _ hbody h := (hbody (h.congr rfl rfl)).congr rfl rfl
  loads _ hloads h := loads hloads h

end ReadOnce

/-- A render reads no path twice, and caches nothing that it did not read. -/
theorem readOnce_render {t : Template}
    (hrotation : Bindings.find? t.config.tags partialsRegister ≠ some .rotation)
    (hnodes : BuiltFrom t.config.tags t.nodes) (data : Bindings Value) :
    let done := (renderAll t.config t.nodes).run (.start data t.counters)
    ReadOnce (failure done.1) done.2 := by
  have hsat := (ReadOnce.kept hrotation).sat_renderAll (reads_isOf t.config) hnodes
  obtain ⟨honce, -⟩ := hsat (.start data t.counters) (Context.caches_start _ _)
  exact honce (.start data t.counters)

end Stencil.Render

namespace Stencil

open Stencil.Render Stencil.Template

/-! ## Renders in a row -/

/-- A template, and the partials in storage. -/
structure Session where
  template : Template
  partials : Storage.Partials

/-- What a render comes to from the outside: its result, and the counters afterwards. -/
abbrev Yield := Except Error String × Bindings Value

/-- What a render comes to. -/
def Template.yield (t : Template) (data : Bindings Value) : Yield :=
  ((t.render data).result, (t.render data).template.counters)

/-- What a render comes to that reads a partial each time it is used. -/
def Template.yieldAnew (t : Template) (data : Bindings Value) : Yield :=
  let (result, ctx) := (renderAnew t.config t.nodes).run (.start data t.counters)
  (result.map fun _ => ctx.output, ctx.counters)

namespace Session

/-- What is done with a template and with the partials in storage. -/
inductive Step where
  | insert (path source : String)
  | remove (path : String)
  | setCounter (name : String) (v : Value)
  | clearCounters
  | render (data : Bindings Value)

/-- The template with the partials that are in storage now. -/
def current (s : Session) : Template :=
  { s.template with config := { s.template.config with storage := s.partials.read } }

/-- The session after a step, given what a render comes to. -/
def next (yield : Template → Bindings Value → Yield) (s : Session) : Step → Session
  | .insert path source => { s with partials := Bindings.insert s.partials path source }
  | .remove path => { s with partials := Bindings.erase s.partials path }
  | .setCounter name v => { s with template := s.template.setCounter name v }
  | .clearCounters => { s with template := s.template.clearCounters }
  | .render data =>
    { s with template := { s.template with counters := (yield s.current data).2 } }

/-- What the renders among steps come to. -/
def yields (yield : Template → Bindings Value → Yield) : List Step → Session → List Yield
  | [], _ => []
  | step :: rest, s =>
    let later := yields yield rest (s.next yield step)
    match step with
    | .render data => yield s.current data :: later
    | _ => later

end Session

/-- A render comes to what it does if each use of a partial reads it. -/
theorem Template.yield_eq_yieldAnew {t : Template}
    (hrotation : Bindings.find? t.config.tags partialsRegister ≠ some .rotation)
    (hnodes : BuiltFrom t.config.tags t.nodes) (data : Bindings Value) :
    t.yield data = t.yieldAnew data := by
  obtain ⟨hresult, houtput, hcounters⟩ :=
    renderAll_eq_renderAnew hrotation hnodes data t.counters
  unfold Template.yield Template.yieldAnew Template.render
  dsimp only
  rw [hresult, houtput, hcounters]

/-- Sessions are the same with two ways of rendering that come to the same for templates of some
tags and nodes, which no step changes. -/
theorem Session.yields_congr {yield yield' : Template → Bindings Value → Yield} {tags : TagTable}
    {nodes : List Node}
    (hyield : ∀ t data, t.config.tags = tags → t.nodes = nodes → yield t data = yield' t data)
    (steps : List Session.Step) {s : Session} (htags : s.template.config.tags = tags)
    (hnodes : s.template.nodes = nodes) :
    s.yields yield steps = s.yields yield' steps := by
  induction steps generalizing s with
  | nil => rfl
  | cons step rest ih =>
    have hcurrent : ∀ data, yield s.current data = yield' s.current data := fun data =>
      hyield s.current data htags hnodes
    have hnext : s.next yield step = s.next yield' step := by
      cases step with
      | render data => simp only [Session.next, hcurrent data]
      | _ => simp only [Session.next]
    have hrest : (s.next yield' step).yields yield rest =
        (s.next yield' step).yields yield' rest := by
      refine ih ?_ ?_
      · cases step <;> exact htags
      · cases step <;> exact hnodes
    simp only [Session.yields, hnext, hrest]
    cases step with
    | render data => simp only [hcurrent data]
    | _ => simp only

/--
**The cache of partials cannot be told from the outside and is never stale.** However partials are
put into storage and taken out of it between the renders of a template, each render comes to what it
would if each use of a partial read it from storage as it is. In a render no path is read twice, and
all that is cached in the end was read in that render and is what is in storage.
-/
theorem session_caching (t : Template)
    (hrotation : Bindings.find? t.config.tags partialsRegister ≠ some .rotation)
    (hnodes : BuiltFrom t.config.tags t.nodes) :
    (∀ partials steps, Session.yields Template.yield steps ⟨t, partials⟩ =
      Session.yields Template.yieldAnew steps ⟨t, partials⟩) ∧
    ∀ data,
      (readPaths (t.render data).journal).Nodup ∧
      ∀ path nodes,
        Bindings.find? (((renderAll t.config t.nodes).run (.start data t.counters)).2.partials
          partialsRegister) path = some nodes →
        path ∈ readPaths (t.render data).journal ∧ readPartial t.config path = .ok nodes := by
  refine ⟨fun partials steps => ?_, fun data => ?_⟩
  · refine Session.yields_congr (fun t' data htags hnodes' => ?_) steps rfl rfl
    refine Template.yield_eq_yieldAnew ?_ ?_ data
    · rw [htags]
      exact hrotation
    · rw [htags, hnodes']
      exact hnodes
  · have honce := readOnce_render hrotation hnodes data
    have hjournal : readPaths (t.render data).journal = (readPaths
        ((renderAll t.config t.nodes).run (.start data t.counters)).2.journal).reverse :=
      List.filterMap_reverse
    obtain ⟨-, hmirrors⟩ := SameWithoutCache.renderUnfolded hrotation
      (t.config.settings.maxIncludeDepth + 1) hnodes _ _ (Mirrors.start t.config data t.counters)
    refine ⟨?_, fun path nodes hfind => ⟨?_, hmirrors.cached path nodes hfind⟩⟩
    · rw [hjournal]
      exact List.nodup_reverse.mpr honce.nodup
    · rw [hjournal]
      exact List.mem_reverse.mpr (honce.read path nodes hfind)

/-! ### A partial that changes -/

/-- A template that uses a partial twice. -/
def usingTwice : Template :=
  ⟨Config.standard, [.inclusion ⟨.literal (.string "card"), none, []⟩,
    .inclusion ⟨.literal (.string "card"), none, []⟩], []⟩

/-- A partial is put into storage, replaced and taken away, with a render after each. -/
def changes : List Session.Step :=
  [.insert "card" "a", .render [], .insert "card" "b", .render [], .remove "card", .render []]

theorem standard_partialsRegister :
    Bindings.find? TagTable.standard partialsRegister ≠ some .rotation := by
  decide

/-- The template that uses a partial twice, with that partial in storage. -/
def usingStored : Template :=
  Session.current ⟨usingTwice, [("card", "a")]⟩

theorem session_caching_usingTwice :
    Session.yields Template.yield changes ⟨usingTwice, []⟩ =
        Session.yields Template.yieldAnew changes ⟨usingTwice, []⟩ ∧
      (Session.yields Template.yieldAnew changes ⟨usingTwice, []⟩).map (·.1.toOption) =
        [some "aa", some "bb", none] ∧
      (usingStored.render []).result = .ok "aa" ∧
      readPaths (usingStored.render []).journal = ["card"] ∧
      ∃ nodes, readPartial usingStored.config "card" = .ok nodes ∧
        Bindings.find? (((renderAll usingStored.config usingStored.nodes).run
          (.start [] [])).2.partials partialsRegister) "card" = some nodes := by
  have hnodes : BuiltFrom TagTable.standard usingTwice.nodes := by decide
  obtain ⟨hsession, -⟩ := session_caching usingTwice standard_partialsRegister hnodes
  obtain ⟨-, hreads⟩ := session_caching usingStored standard_partialsRegister hnodes
  have hfound : (Bindings.find? (((renderAll usingStored.config usingStored.nodes).run
      (.start [] [])).2.partials partialsRegister) "card").isSome := by
    decide +kernel
  obtain ⟨nodes, hfind⟩ := Option.isSome_iff_exists.mp hfound
  refine ⟨hsession [] changes, ?_, by decide +kernel, by decide +kernel, nodes,
    ((hreads []).2 "card" nodes hfind).2, hfind⟩
  rw [← hsession [] changes]
  decide +kernel

end Stencil
