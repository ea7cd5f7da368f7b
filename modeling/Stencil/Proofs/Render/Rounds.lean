import Stencil.Proofs.Render.Counting
import Stencil.Proofs.Render.Endings

/-!
# Rotations go round

In the course of a render the rotations of a group show their values in turn: the first one, the
second one and so on, and after the last the first again. That is so over loops, clauses, captures
and partials, since the place of a group is remembered for the whole render and nothing else moves
it. For this the lists of the group have to be of one length; of whatever lengths they are, the
place is always one of the list that is shown from.

* `placesShown` — the places that the rotations of a group have shown, in order
* `InTurn` — these are as they should be, and the next place is the next one
* `rotations_go_round` — what the rotations of a group show in the course of a render
-/

namespace Stencil.Render

open Stencil.Markup Stencil.Template

variable {config : Config} {tag group : String} {n : Nat}

/-! ## Places in turn -/

/-- The place that an event shows for a tag and a group. -/
def Event.placeShown? (tag group : String) (e : Event) : Option Nat :=
  (e.turn? tag).bind fun turn => if turn.1 = group then some turn.2 else none

/-- The places that events show for a tag and a group, in the order of the events. -/
def placesShown (tag group : String) (events : List Event) : List Nat :=
  events.filterMap (Event.placeShown? tag group)

theorem placesShown_eq (tag group : String) (events : List Event) :
    placesShown tag group events = (events.filterMap (Event.turn? tag)).filterMap
      fun turn => if turn.1 = group then some turn.2 else none := by
  rw [List.filterMap_filterMap]
  rfl

/-- The rotations of a group have shown the places of a list of some length in turn, over and over,
and the next one is the next place. -/
structure InTurn (tag group : String) (n : Nat) (ctx : Context) : Prop where
  shown : (placesShown tag group ctx.journal).reverse =
    (List.range (placesShown tag group ctx.journal).length).map (· % n)
  next : ctx.placeOf tag group = (placesShown tag group ctx.journal).length % n

theorem InTurn.ofTurns (htag : Apart tag) (group : String) (n : Nat) :
    OfTurns tag (InTurn tag group n) where
  apart := htag
  unturned {before after} h hunturned := by
    have hshown : placesShown tag group after.journal = placesShown tag group before.journal := by
      rw [placesShown_eq, placesShown_eq]
      exact congrArg _ hunturned.rotations
    refine ⟨by rw [hshown]; exact h.shown, ?_⟩
    rw [Context.placeOf, hunturned.places, hshown]
    exact h.next

theorem InTurn.start (data counters : Bindings Value) :
    InTurn tag group n (.start data counters) :=
  ⟨rfl, (Nat.zero_mod n).symm⟩

/-- The place that a rotation shows next is the next one in turn. -/
theorem InTurn.nextPlace_eq {r : Rotation} {ctx : Context} (h : InTurn tag group n ctx)
    (htag : r.tag = tag) (hgroup : groupOf r (ctx.view config) = group)
    (hlength : r.values.length = n) :
    nextPlace config r ctx = (placesShown tag group ctx.journal).length % n := by
  rw [nextPlace, htag, hgroup, h.next, hlength, Nat.mod_mod]

/-- **One rotation more** of the group is the next one in turn. -/
theorem InTurn.rotated {r : Rotation} {ctx : Context} (h : InTurn tag group n ctx)
    (htag : r.tag = tag) (hgroup : groupOf r (ctx.view config) = group)
    (hlength : r.values.length = n) : InTurn tag group n (ctx.rotated config r) := by
  have hplace := h.nextPlace_eq htag hgroup hlength
  have hjournal : placesShown tag group (ctx.rotated config r).journal =
      (placesShown tag group ctx.journal).length % n :: placesShown tag group ctx.journal := by
    rw [← hplace]
    exact List.filterMap_cons_some (by simp [Event.placeShown?, Event.turn?, htag, hgroup])
  constructor
  · rw [hjournal, List.reverse_cons, h.shown, List.length_cons, List.range_succ, List.map_append]
    simp
  · rw [placeOf_rotated htag hgroup, hjournal, h.next, hlength, List.length_cons, Nat.mod_mod,
      Nat.mod_add_mod]

/-- A rotation of another group of the tag leaves the turn where it is. -/
theorem InTurn.rotated_of_ne {r : Rotation} {ctx : Context} (h : InTurn tag group n ctx)
    (hgroup : groupOf r (ctx.view config) ≠ group) : InTurn tag group n (ctx.rotated config r) := by
  have hjournal : placesShown tag group (ctx.rotated config r).journal =
      placesShown tag group ctx.journal := by
    refine List.filterMap_cons_none ?_
    simp only [Event.placeShown?, Event.turn?]
    split
    · exact if_neg hgroup
    · rfl
  refine ⟨by rw [hjournal]; exact h.shown, ?_⟩
  rw [placeOf_rotated_of_ne fun hsame => hgroup hsame.2, hjournal]
  exact h.next

/-! ## In the course of a render -/

/-- All rotations of a group that a render executes have lists of one length. -/
def OfLength (t : Template) (data : Bindings Value) (tag group : String) (n : Nat) : Prop :=
  ∀ s r, Reached t data ⟨s, .node (.rotation r)⟩ → r.tag = tag →
    groupOf r (s.ctx.view t.config) = group → r.values.length = n

/-- That is so if all rotations of the tag have, in the template and in its partials. -/
theorem ofLength_of_parts {t : Template} {p : Node → Prop}
    (hp : ∀ r, p (.rotation r) → r.tag = tag → r.values.length = n) (hread : Reads t.config p)
    (hnodes : ∀ node ∈ partsOf t.nodes, p node) (data : Bindings Value) (group : String) :
    OfLength t data tag group n :=
  fun _ r hm htag _ => hp r ((hm.parts hread hnodes).2 _ (mem_parts_self _)) htag

theorem OfLength.rotationsKeep {t : Template} {data : Bindings Value}
    (h : OfLength t data tag group n) : RotationsKeep t data tag (InTurn tag group n) := by
  intro s r hm htag hturn
  by_cases hgroup : groupOf r (s.ctx.view t.config) = group
  · exact hturn.rotated htag hgroup (h s r hm htag hgroup)
  · exact hturn.rotated_of_ne hgroup

/-- A rotation writes and notes the place that it shows. -/
theorem rotate_shows {r : Rotation} {ctx : Context} {i : Nat} (h : nextPlace config r ctx = i) :
    ∃ hlt : i < r.values.length,
      rotate config r ctx = (.ok (), ctx.rotated config r) ∧
      (ctx.rotated config r).output = ctx.output ++
        ((r.values.get ⟨i, hlt⟩).value (ctx.view config)).render config.settings ∧
      (ctx.rotated config r).journal =
        .rotated r.tag (groupOf r (ctx.view config)) i :: ctx.journal := by
  subst h
  exact ⟨nextPlace_lt r ctx, rotate_apply r ctx, rfl, rfl⟩

/--
**Rotations go round.** If all rotations of a group that a render executes have lists of one length,
then over the whole render they show the places of such a list in turn, and after the last the first
again: a rotation before which so many have been executed shows the value of the expression at that
number, modulo the length.

Whatever the lengths of the lists are, a rotation always succeeds, shows the value of an expression
of its own list, and leaves a place of its own list to the next.
-/
theorem rotations_go_round (t : Template) (data : Bindings Value) (htag : Apart tag)
    (hlength : OfLength t data tag group n) :
    (∃ k, placesShown tag group (t.render data).journal = (List.range k).map (· % n)) ∧
    (∀ s r, Reached t data ⟨s, .node (.rotation r)⟩ → r.tag = tag →
      groupOf r (s.ctx.view t.config) = group →
      let i := (placesShown tag group s.ctx.journal).length
      ∃ hlt : i % n < r.values.length,
        rotate t.config r s.ctx = (.ok (), s.ctx.rotated t.config r) ∧
        (s.ctx.rotated t.config r).output = s.ctx.output ++
          ((r.values.get ⟨i % n, hlt⟩).value (s.ctx.view t.config)).render t.config.settings ∧
        (s.ctx.rotated t.config r).journal = .rotated tag group (i % n) :: s.ctx.journal) ∧
    ∀ (config : Config) (r : Rotation) (ctx : Context),
      ∃ hlt : nextPlace config r ctx < r.values.length,
        rotate config r ctx = (.ok (), ctx.rotated config r) ∧
        (ctx.rotated config r).output = ctx.output ++
          ((r.values.get ⟨nextPlace config r ctx, hlt⟩).value (ctx.view config)).render
            config.settings ∧
        (ctx.rotated config r).placeOf r.tag (groupOf r (ctx.view config)) < r.values.length := by
  have hstart : InTurn tag group n (.start data t.counters) := .start data t.counters
  refine ⟨?_, fun s r hm hr hgroup => ?_, fun config r ctx => ?_⟩
  · have hend := render_keeps (InTurn.ofTurns htag group n) hlength.rotationsKeep hstart
    refine ⟨_, Eq.trans ?_ hend.shown⟩
    -- The journal of the context runs backwards.
    exact List.filterMap_reverse
  · have hturn := hm.keeps (InTurn.ofTurns htag group n) hlength.rotationsKeep hstart
    have hshows := rotate_shows (hturn.nextPlace_eq hr hgroup (hlength s r hm hr hgroup))
    rwa [hr, hgroup] at hshows
  · obtain ⟨hlt, hrun, houtput, -⟩ := @rotate_shows config r ctx _ rfl
    refine ⟨hlt, hrun, houtput, ?_⟩
    rw [placeOf_rotated rfl rfl]
    exact Nat.mod_lt _ (Nat.succ_pos _)

/-- Letters are shown in a loop over two items, and once more behind it. -/
def lettersInLoop : Node := .loop "for" twoItems [.rotation letters] none

/-- The letters behind the loop are captured. -/
def threeLetters : Template where
  config := Config.standard
  nodes := [lettersInLoop, .capture "third" [.rotation letters]]
  counters := []

/-- The context that the loop leaves. -/
def afterLetters : Context :=
  (renderNode threeLetters.config (renderUse threeLetters.config) lettersInLoop
    (.start [] threeLetters.counters)).2

theorem rotations_go_round_threeLetters :
    OfLength threeLetters [] "cycle" "'a', 'b'" 2 ∧
      placesShown "cycle" "'a', 'b'" (threeLetters.render []).journal = [0, 1, 0] ∧
      ∃ s, Reached threeLetters [] ⟨s, .node (.rotation letters)⟩ ∧
        (placesShown "cycle" "'a', 'b'" s.ctx.journal).length = 2 ∧
        (s.ctx.rotated threeLetters.config letters).output = "a" := by
  have hlength : OfLength threeLetters [] "cycle" "'a', 'b'" 2 := by
    refine @ofLength_of_parts "cycle" 2 threeLetters (fun node => ∀ r, node = .rotation r →
      r.values.length = 2) (fun r h _ => h r rfl) ?_ ?_ [] _
    · intro path nodes h
      obtain ⟨source, hsource, -⟩ := readPartial_eq_ok h
      cases hsource
    · rintro node hnode r rfl
      simp only [threeLetters, lettersInLoop, partsOf, Node.parts, otherwiseParts] at hnode
      obtain rfl : r = letters := by simpa using hnode
      rfl
  obtain ⟨⟨k, hplaces⟩, hshows, -⟩ := rotations_go_round threeLetters [] apart_cycle hlength
  have hloop : renderNode threeLetters.config (renderUse threeLetters.config) lettersInLoop
      (.start [] threeLetters.counters) = (.ok (), afterLetters) :=
    eq_ok_of_isOk (by decide +kernel)
  have hgoes : afterLetters.isInterrupted = false := by decide +kernel
  have hbehind : Reached threeLetters []
      ⟨(Moment.start threeLetters []).continued afterLetters,
        .nodes [.capture "third" [.rotation letters]]⟩ :=
    .single (.rest hloop hgoes)
  have hthird := ((hbehind.tail .first).tail .capture).tail .first
  have hthree : (placesShown "cycle" "'a', 'b'" (threeLetters.render []).journal).length = 3 := by
    decide +kernel
  obtain rfl : k = 3 := by rwa [hplaces, List.length_map, List.length_range] at hthree
  obtain ⟨hlt, -, houtput, -⟩ := hshows _ _ hthird rfl (by decide +kernel)
  refine ⟨hlength, hplaces, _, hthird, by decide +kernel, houtput.trans ?_⟩
  decide +kernel +revert

end Stencil.Render
