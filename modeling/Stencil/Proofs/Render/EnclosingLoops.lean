import Stencil.Proofs.Render.LoopObjects

/-!
# The loops around

The object of a loop leads to the object of the loop around it. A loop takes the loop around it from
a register of open loops when it starts, so that register is compared with the visits that are going
on: whatever loops have been run and left before, it holds the loops of these visits.

* `LoopTag` — tables in which one tag runs loops
* `Surroundings.Linked` — the loops of the visits are open, and each knows the one around it
* `parentloop_enclosing` — the object leads to the objects of all loops around, one after another
-/

namespace Stencil.Render

open Stencil.Markup Stencil.Template

/-! ## Tables -/

/-- One tag runs loops, and nothing else is remembered where it remembers the open ones. -/
structure LoopTag (tags : TagTable) (tag : String) : Prop where
  separate : Separate tags
  runs : Bindings.find? tags tag = some .loop
  only : ∀ other, Bindings.find? tags other = some .loop → other = tag

theorem standard_loopTag : LoopTag TagTable.standard "for" where
  separate := standard_separate
  runs := by decide
  only other hother := by simpa using Bindings.mem_of_find?_ofList hother

/-! ## Loops know the loops around them -/

/-- The number of the loop that the loop of a visit knows around it. -/
def parentOf (loops : Array LoopState) (turn : Turn) : Option Nat :=
  loops[turn.loop]?.bind (·.parent)

/-- The loops of the visits are open, and each knows the one around it. -/
structure Surroundings.Linked (config : Config) (tag : String) (s : Surroundings) : Prop where
  caches : s.ctx.Caches (Node.IsOf config.tags)
  openLoops : s.ctx.openLoops (loopRegister tag) = s.turns.map (·.loop)
  parents : ∀ i, s.turns[i]?.bind (parentOf s.ctx.loops) = s.turns[i + 1]?.map (·.loop)

theorem parentOf_push_of_lt {loops : Array LoopState} {turn : Turn} (h : turn.loop < loops.size)
    (started : LoopState) : parentOf (loops.push started) turn = parentOf loops turn := by
  unfold parentOf
  rw [Array.getElem?_push, if_neg (Nat.ne_of_lt h)]

/-- The loop around stays when an item is counted as done. -/
theorem parentOf_afterVisit (number : Nat) (left : Context) (turn : Turn) :
    parentOf (afterVisit number left).loops turn = parentOf left.loops turn := by
  show (left.loops.modify number fun l => { l with index := l.index + 1 })[turn.loop]?.bind _ = _
  unfold parentOf
  rw [Array.getElem?_modify]
  split
  · cases left.loops[turn.loop]? <;> rfl
  · rfl

/-- What visits know of the loops around them stays if their loops do. -/
theorem parents_congr {loops after : Array LoopState} {turns : List Turn}
    (h : ∀ turn ∈ turns, parentOf after turn = parentOf loops turn) (i : Nat) :
    turns[i]?.bind (parentOf after) = turns[i]?.bind (parentOf loops) := by
  cases hturn : turns[i]? with
  | none => rfl
  | some turn => exact h turn (List.mem_of_getElem? hturn)

namespace Surroundings.Linked

variable {config : Config} {tag : String} {s : Surroundings}

theorem continued (h : s.Linked config tag) (htold : s.Told) {after : Context}
    (hspared : Spared s.ctx.loops.size s.ctx after) (hcaches : after.Caches (Node.IsOf config.tags))
    (hopen : after.openLoops (loopRegister tag) = s.ctx.openLoops (loopRegister tag)) :
    (s.continued after).Linked config tag where
  caches := hcaches
  openLoops := hopen.trans h.openLoops
  parents i := by
    refine (parents_congr (fun turn hturn => ?_) i).trans (h.parents i)
    exact congrArg (·.bind (·.parent)) (hspared.loops _ (htold.loop_lt hturn))

/-- A loop that is started knows the innermost open loop. -/
theorem inLoop (h : s.Linked config tag) (htold : s.Told) {items : List Value}
    (hitems : 0 < items.length) : (s.inLoop tag items hitems).Linked config tag where
  caches := Context.Caches.remember (h.caches.congr rfl) _ (by simp)
  openLoops := (Context.openLoops_remember_self _ _ _).trans
    (congrArg (s.ctx.loops.size :: ·) h.openLoops)
  parents i := by
    show (_ :: s.turns)[i]?.bind (parentOf (s.ctx.loops.push _)) = s.turns[i]?.map _
    cases i with
    | zero =>
      show (s.ctx.loops.push _)[s.ctx.loops.size]?.bind _ = _
      rw [Array.getElem?_push_size, h.openLoops]
      cases s.turns <;> rfl
    | succ i =>
      refine (parents_congr (fun turn hturn => ?_) i).trans (h.parents i)
      exact parentOf_push_of_lt (htold.loop_lt hturn) _

/-- To count an item as done changes nothing of the loops around. -/
theorem afterVisit {turn : Turn} {outer : List Turn} {left : Context} {bound : List String}
    (h : Linked config tag ⟨left, turn :: outer, bound⟩)
    (hnext : turn.index + 1 < turn.items.length) :
    Linked config tag ⟨afterVisit turn.loop left, turn.next hnext :: outer, bound⟩ where
  caches := h.caches.congr rfl
  openLoops := h.openLoops
  parents i := by
    cases i with
    | zero => exact (parentOf_afterVisit _ _ turn).trans (h.parents 0)
    | succ i =>
      exact (parents_congr (fun other _ => parentOf_afterVisit _ _ other) i).trans
        (h.parents (i + 1))

end Surroundings.Linked

/-- What one step preserves. -/
theorem Follows.linked {config : Config} {tag : String} {m : Moment} {s : Surroundings}
    (htag : LoopTag config.tags tag) (h : Follows config m s)
    (hparts : ∀ n ∈ m.task.parts, n.IsOf config.tags) (htold : m.Told)
    (hm : m.Linked config tag) : s.Linked config tag := by
  -- Nodes that are rendered leave the loops open that were.
  have hrendered : ∀ {parts : List Node} {r : Render Unit}, Renders config parts r →
      parts ⊆ m.task.parts → (m.continued (r m.ctx).2).Linked config tag := by
    intro parts r hrenders hsub
    obtain ⟨hframed, hcaches⟩ := hrenders.sat (Framed.kept htag.separate) (reads_isOf config)
      (fun n hn => hparts n (hsub hn)) m.ctx hm.caches
    exact hm.continued htold (hrenders.spares _ _ (Nat.le_refl _)) hcaches
      (hframed.openLoops tag htag.runs)
  cases h with
  | quiet hscopes hloops hregisters =>
    exact hm.continued htold (.of_eq (Nat.le_refl _) hloops hscopes) (hm.caches.congr hregisters)
      (Context.openLoops_congr hregisters _)
  | rendered hrenders hsub => exact hrendered hrenders hsub
  | @loaded path nodes after hloads =>
    obtain ⟨hsize, hloops, hscopes⟩ := hloads.spared (Nat.le_refl _)
    have hframed : Framed config.tags (m.ctx.enter path) after := .loads hloads
    exact hm.continued htold ⟨hsize, hloops, hscopes⟩
      (hloads.caches (reads_isOf config) (hm.caches.congr rfl)).1
      (hframed.openLoops tag htag.runs)
  | within bindings => exact ⟨hm.caches.congr rfl, hm.openLoops, hm.parents⟩
  | started hitems hnode =>
    obtain rfl := htag.only _ (hparts _ hnode)
    exact hm.inLoop htold hitems
  | @visited turn outer parts r hnext hturns hrenders hsub =>
    have hturn : Surroundings.Linked config tag ⟨(r m.ctx).2, turn :: outer, m.bound⟩ := by
      rw [← hturns]
      exact hrendered hrenders hsub
    exact hturn.afterVisit hnext

/-- What a whole render preserves. -/
theorem Reached.linked {t : Template} {tag : String} (htag : LoopTag t.config.tags tag)
    (hnodes : BuiltFrom t.config.tags t.nodes) {data : Bindings Value} {m : Moment}
    (h : Reached t data m) :
    m.Linked t.config tag ∧ ∀ n ∈ m.task.parts, n.IsOf t.config.tags := by
  induction h with
  | refl => exact ⟨⟨Context.caches_start _ _, rfl, fun _ => rfl⟩, hnodes⟩
  | tail hreached hstep ih =>
    obtain ⟨hlinked, hparts⟩ := ih
    exact ⟨hstep.follows.linked htag hparts (Reached.told hreached) hlinked,
      hstep.parts (reads_isOf _) hlinked.caches hparts⟩

/-! ## From object to object -/

/-- The expression that reads the object of a loop around the innermost. -/
def enclosing (i : Nat) : Expression :=
  .lookup (.name "forloop" :: List.replicate i (.name "parentloop"))

/-- The object of the loop of a visit, or nil if there is none. -/
def loopObject : Option Turn → Value
  | some turn => .drop (.loop turn.loop)
  | none => .nil

/-- The object of a loop leads to the one of the next loop around, and that of the outermost to
nil. -/
theorem step_parentloop {config : Config} {tag : String} {s : Surroundings} (htold : s.Told)
    (hlinked : s.Linked config tag) (i : Nat) :
    (Expression.name "parentloop").step (s.ctx.view config) (some (loopObject s.turns[i]?)) =
      loopObject s.turns[i + 1]? := by
  have hparent := hlinked.parents i
  cases hturn : s.turns[i]? with
  | none =>
    have hnone : s.turns[i + 1]? = none := by
      rw [List.getElem?_eq_none_iff] at hturn ⊢
      omega
    rw [hnone]
    rfl
  | some turn =>
    obtain ⟨parent, hstate⟩ := htold.states turn (List.mem_of_getElem? hturn)
    rw [hturn, Option.bind_some, parentOf, hstate, Option.bind_some] at hparent
    obtain rfl : parent = s.turns[i + 1]?.map (·.loop) := hparent
    have hkey : config.settings.keys.transform "parentloop" = "parentloop" :=
      transform_loopKey _ (by decide)
    show (s.ctx.objects config.host (.loop turn.loop)
      (config.settings.keys.transform "parentloop")).getD .nil = _
    rw [hkey]
    simp only [Context.objects, hstate, Option.bind_some, LoopState.answer, Option.getD_some]
    cases s.turns[i + 1]? <;> rfl

theorem stepsValue_parentloop {config : Config} {tag : String} {s : Surroundings} (htold : s.Told)
    (hlinked : s.Linked config tag) (i j : Nat) :
    stepsValue (s.ctx.view config) (some (loopObject s.turns[i]?))
        (List.replicate j (.name "parentloop")) =
      some (loopObject s.turns[i + j]?) := by
  induction j generalizing i with
  | zero => rfl
  | succ j ih =>
    rw [List.replicate_succ, stepsValue, step_parentloop htold hlinked, ih (i + 1)]
    rw [Nat.add_right_comm, Nat.add_assoc]

/--
**The objects of the loops around.** At every moment of a render with the standard tags, in the body
of a loop or of a partial that is used there, `forloop` and then `parentloop` again and again lead
to the objects of all loops around, innermost first, and then to nil, unless `forloop` is bound to
something else. These are different objects, and each is at the item that its loop visits.
-/
theorem parentloop_enclosing (t : Template) (htags : t.config.tags = TagTable.standard)
    (hnodes : BuiltFrom t.config.tags t.nodes) (data : Bindings Value) {m : Moment}
    (h : Reached t data m) (hturns : m.turns ≠ []) (hname : "forloop" ∉ m.bound) :
    (∀ i, (enclosing i).value (m.ctx.view t.config) = loopObject m.turns[i]?) ∧
      (m.turns.map (·.loop)).Nodup ∧
      ∀ turn ∈ m.turns, m.ctx.objects t.config.host (.loop turn.loop) "index0" =
        some (.ofCount turn.index) := by
  have htag : LoopTag t.config.tags "for" := by
    rw [htags]
    exact standard_loopTag
  have htold := h.told
  obtain ⟨hlinked, -⟩ := h.linked htag hnodes
  refine ⟨fun i => ?_, ?_, fun turn hturn => ?_⟩
  · obtain ⟨turn, outer, heq⟩ := List.exists_cons_of_ne_nil hturns
    have hhead : m.turns.head? = some turn := by rw [heq]; rfl
    have hread : (m.ctx.view t.config).read "forloop" = loopObject m.turns[0]? := by
      rw [heq]
      exact htold.read hname hhead
    show (stepsValue _ (some ((m.ctx.view t.config).read "forloop")) _).getD .nil = _
    rw [hread, stepsValue_parentloop htold hlinked, Nat.zero_add]
    rfl
  · exact (List.pairwise_map.mpr htold.order).imp Nat.ne_of_gt
  · obtain ⟨parent, hanswer⟩ := htold.exists_answer hturn t.config.host
    rw [hanswer]
    rfl

/-- A loop within a loop that is left by a break. -/
def brokenLoop : Node := .loop "for" twoItems [.interrupt .breakLoop] none

/-- A loop with two loops in its body, the first of which is left by a break. -/
def withinTwo : Template where
  config := Config.standard
  nodes := [.loop "for" twoItems [brokenLoop, .loop "for" twoItems leftEarly none] none]
  counters := []

/-- The visit of the first item of the outer loop. -/
def firstTurn : Turn := ⟨0, itemsAt withinTwo.config twoItems (.start [] []), ⟨0, by decide⟩⟩

/-- Within the first item of the outer loop. -/
def withinFirst : Surroundings :=
  ((Moment.start withinTwo []).inLoop "for" firstTurn.items (by decide)).within
    [("i", firstTurn.item)]

/-- The context that the first of the two loops leaves. -/
def afterBroken : Context :=
  (renderNode withinTwo.config (renderUse withinTwo.config) brokenLoop withinFirst.ctx).2

/-- The third loop that is started stands within the first, after the second has been left. -/
theorem parentloop_enclosing_afterBreak :
    ∃ m, Reached withinTwo [] m ∧ m.turns.map (·.loop) = [2, 0] ∧ "forloop" ∉ m.bound ∧
      ∀ i, (enclosing i).value (m.ctx.view withinTwo.config) = loopObject m.turns[i]? := by
  have hfirst : Reached withinTwo []
      ⟨withinFirst, .nodes [brokenLoop, .loop "for" twoItems leftEarly none]⟩ :=
    (reached_firstVisit withinTwo [] rfl (by decide)).tail
      (@Step.visit _ _ firstTurn [] _ _ rfl)
  have hbroken : renderNode withinTwo.config (renderUse withinTwo.config) brokenLoop
      withinFirst.ctx = (.ok (), afterBroken) := eq_ok_of_isOk (by decide +kernel)
  have hgoes : afterBroken.isInterrupted = false := by decide +kernel
  have hitems : 0 < (itemsAt withinTwo.config twoItems afterBroken).length := by decide +kernel
  have hsecond := ((hfirst.tail (.rest hbroken hgoes)).tail .first).tail (.loop (by exact hitems))
  have hvisit := hsecond.tail (.visit rfl)
  have hname : "forloop" ∉ ["i", "i"] := by decide
  obtain ⟨hobjects, -, -⟩ :=
    parentloop_enclosing withinTwo rfl (by decide) [] hvisit (List.cons_ne_nil _ _) hname
  have hloops : [afterBroken.loops.size, 0] = [2, 0] := by decide +kernel
  exact ⟨_, hvisit, hloops, hname, hobjects⟩

end Stencil.Render
