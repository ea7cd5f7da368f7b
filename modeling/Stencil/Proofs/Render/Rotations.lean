import Stencil.Proofs.Markup.Lists
import Stencil.Proofs.Render.Frame

/-!
# Rotations

A rotation shows the value at the place that its tag remembers for its group, and moves that place
on. The group of a rotation is a text: that of the value it is given, or the markup of its list. So
rotations of a tag share their places if these texts are the same, and leave each other alone if
not.

* `nextShown` — what a rotation shows next
* `rotate_apply` — what a rotation does
* `Unmoved` — a place is the same unless a rotation of its group is noted
* `rotations_apart` — which rotations leave each other alone
-/

namespace Stencil.Render

open Stencil.Markup Stencil.Template

variable {config : Config}

/-! ## Places -/

/-- The place that a tag remembers for a group. -/
def Context.placeOf (ctx : Context) (tag group : String) : Nat :=
  (Bindings.find? (ctx.places tag) group).getD 0

/-- The place of the value that a rotation shows next. -/
def nextPlace (config : Config) (r : Rotation) (ctx : Context) : Nat :=
  ctx.placeOf r.tag (groupOf r (ctx.view config)) % r.values.length

/-- Whatever has been remembered, it is the place of a value of the rotation. -/
theorem nextPlace_lt (r : Rotation) (ctx : Context) : nextPlace config r ctx < r.values.length :=
  Nat.mod_lt _ (Nat.succ_pos _)

/-- The value that a rotation shows next. -/
def nextShown (config : Config) (r : Rotation) (ctx : Context) : Value :=
  (r.values.get ⟨nextPlace config r ctx, nextPlace_lt r ctx⟩).value (ctx.view config)

/-- The context after a rotation. -/
def Context.rotated (config : Config) (r : Rotation) (ctx : Context) : Context :=
  let group := groupOf r (ctx.view config)
  let place := nextPlace config r ctx
  let text := (nextShown config r ctx).render config.settings
  (({ ctx with output := ctx.output ++ text } : Context).note (.rotated r.tag group place)).remember
    r.tag (.places (Bindings.insert (ctx.places r.tag) group ((place + 1) % r.values.length)))

/-- A rotation succeeds, shows the value whose turn it is, and moves its place on. -/
theorem rotate_apply (r : Rotation) (ctx : Context) :
    rotate config r ctx = (.ok (), ctx.rotated config r) := by
  have hvalue : r.values.getD (nextPlace config r ctx) r.first =
      r.values.get ⟨nextPlace config r ctx, nextPlace_lt r ctx⟩ := by
    rw [List.getD_eq_getElem?_getD, List.getElem?_eq_getElem (nextPlace_lt r ctx)]
    rfl
  unfold Context.rotated nextShown
  rw [← hvalue]
  rfl

theorem Context.places_remember_self (ctx : Context) (key : String) (byGroup : Bindings Nat) :
    (ctx.remember key (.places byGroup)).places key = byGroup := by
  simp [places, remember, Bindings.find?_insert_self]

theorem Context.places_remember_of_ne (ctx : Context) {key other : String} (h : key ≠ other)
    (payload : Payload) : (ctx.remember key payload).places other = ctx.places other := by
  simp [places, remember, Bindings.find?_insert_of_ne _ h]

/-- A rotation moves its place on by one, within its list. -/
theorem placeOf_rotated {r : Rotation} {ctx : Context} {tag group : String} (htag : r.tag = tag)
    (hgroup : groupOf r (ctx.view config) = group) :
    (ctx.rotated config r).placeOf tag group =
      (ctx.placeOf tag group % r.values.length + 1) % r.values.length := by
  subst htag hgroup
  unfold Context.placeOf Context.rotated
  rw [Context.places_remember_self, Bindings.find?_insert_self]
  rfl

theorem placeOf_rotated_of_ne {r : Rotation} {ctx : Context} {tag group : String}
    (h : ¬(r.tag = tag ∧ groupOf r (ctx.view config) = group)) :
    (ctx.rotated config r).placeOf tag group = ctx.placeOf tag group := by
  unfold Context.placeOf Context.rotated
  by_cases htag : r.tag = tag
  · subst htag
    have hgroup : groupOf r (ctx.view config) ≠ group := fun heq => h ⟨rfl, heq⟩
    rw [Context.places_remember_self, Bindings.find?_insert_of_ne _ hgroup]
  · rw [Context.places_remember_of_ne _ htag]
    rfl

/-! ## Rotations in any order -/

/-- Whether rotations remember their places under the same tag and group. -/
def sharesPlace (view : View) (r other : Rotation) : Bool :=
  other.tag == r.tag && groupOf other view == groupOf r view

theorem sharesPlace_iff {view : View} {r other : Rotation} :
    sharesPlace view r other = true ↔
      other.tag = r.tag ∧ groupOf other view = groupOf r view := by
  simp [sharesPlace]

/-- The context after rotations, in their order. -/
def Context.rotatedAll (config : Config) (rs : List Rotation) (ctx : Context) : Context :=
  rs.foldl (fun ctx r => ctx.rotated config r) ctx

theorem view_rotatedAll (rs : List Rotation) (ctx : Context) :
    (ctx.rotatedAll config rs).view config = ctx.view config := by
  induction rs generalizing ctx with
  | nil => rfl
  | cons r rs ih => exact ih (ctx.rotated config r)

/-- The place of a rotation after other rotations is that after those that share it. -/
theorem placeOf_rotatedAll_filter (r : Rotation) (rs : List Rotation) {ctx other : Context}
    (hview : ctx.view config = other.view config)
    (hplace : ctx.placeOf r.tag (groupOf r (ctx.view config)) =
      other.placeOf r.tag (groupOf r (ctx.view config))) :
    (ctx.rotatedAll config rs).placeOf r.tag (groupOf r (ctx.view config)) =
      (other.rotatedAll config (rs.filter (sharesPlace (ctx.view config) r))).placeOf r.tag
        (groupOf r (ctx.view config)) := by
  -- A rotation that shares no place is executed on one side only, so the contexts come to differ.
  induction rs generalizing ctx other with
  | nil => exact hplace
  | cons first rs ih =>
    by_cases hshares : sharesPlace (ctx.view config) r first
    · rw [List.filter_cons_of_pos hshares]
      obtain ⟨htag, hgroup⟩ := sharesPlace_iff.mp hshares
      refine @ih (ctx.rotated config first) (other.rotated config first) hview ?_
      show (ctx.rotated config first).placeOf r.tag (groupOf r (ctx.view config)) =
        (other.rotated config first).placeOf r.tag (groupOf r (ctx.view config))
      rw [placeOf_rotated htag hgroup, placeOf_rotated htag (hview ▸ hgroup), hplace]
    · rw [List.filter_cons_of_neg hshares]
      refine @ih (ctx.rotated config first) other hview ?_
      refine (placeOf_rotated_of_ne fun h => ?_).trans hplace
      exact hshares (sharesPlace_iff.mpr h)

theorem nextShown_congr {r : Rotation} {ctx other : Context}
    (hview : ctx.view config = other.view config)
    (hplace : ctx.placeOf r.tag (groupOf r (ctx.view config)) =
      other.placeOf r.tag (groupOf r (ctx.view config))) :
    nextShown config r ctx = nextShown config r other := by
  have hnext : nextPlace config r ctx = nextPlace config r other := by
    rw [nextPlace, nextPlace, hplace, hview]
  simp only [nextShown, hnext, hview]

/-- What a rotation shows next depends on the rotations before it that share its place, and on no
others, in whatever order they are. -/
theorem nextShown_rotatedAll_filter (r : Rotation) (rs : List Rotation) (ctx : Context) :
    nextShown config r (ctx.rotatedAll config rs) =
      nextShown config r
        (ctx.rotatedAll config (rs.filter (sharesPlace (ctx.view config) r))) := by
  refine nextShown_congr ?_ ?_
  · rw [view_rotatedAll, view_rotatedAll]
  · rw [view_rotatedAll]
    exact placeOf_rotatedAll_filter r rs rfl rfl

/-! ## Rotations in a render -/

/-- A tag that remembers its places where nothing else is remembered. -/
structure Apart (tag : String) : Prop where
  loops : ∀ other, loopRegister other ≠ tag
  partials : partialsRegister ≠ tag

theorem apart_cycle : Apart "cycle" where
  loops other h := by
    have hhead := congrArg (fun s => s.toList.head?) h
    simp [loopRegister] at hhead
  partials := by decide

theorem places_startLoop {tag : String} (htag : Apart tag) (other : String) (length : Nat)
    (ctx : Context) :
    (startLoop (loopRegister other) length ctx).2.places tag = ctx.places tag :=
  Context.places_remember_of_ne _ (htag.loops other) _

theorem places_endLoop {tag : String} (htag : Apart tag) (other : String) (ctx : Context) :
    (endLoop (loopRegister other) ctx).places tag = ctx.places tag := by
  unfold endLoop
  split
  · exact ctx.places_remember_of_ne (htag.loops other) _
  · rfl

/-- Loading a partial moves no place. -/
theorem Loads.places {tag : String} (htag : Apart tag) {path : String} {ctx : Context}
    {loaded : Except Error (List Node) × Context} (h : Loads config path ctx loaded) :
    loaded.2.places tag = ctx.places tag := by
  cases h with
  | cached _ | missing _ _ | malformed _ _ _ | read _ _ _ =>
    exact Context.places_remember_of_ne _ htag.partials _

/-- Events have been noted, and a place of a tag has moved only if one of them is a rotation of its
group. -/
def Unmoved (tag : String) (before after : Context) : Prop :=
  ∃ events, after.journal = events ++ before.journal ∧
    ∀ group, (∀ place, .rotated tag group place ∉ events) →
      after.placeOf tag group = before.placeOf tag group

namespace Unmoved

variable {tag : String} {before between after : Context}

/-- A change of what are neither places nor journal. -/
theorem of_eq (hjournal : after.journal = before.journal)
    (hplaces : after.places tag = before.places tag) : Unmoved tag before after :=
  ⟨[], hjournal, fun _ _ => by rw [Context.placeOf, Context.placeOf, hplaces]⟩

theorem note {e : Event} (hjournal : after.journal = e :: before.journal)
    (hplaces : after.places tag = before.places tag) : Unmoved tag before after :=
  ⟨[e], hjournal, fun _ _ => by rw [Context.placeOf, Context.placeOf, hplaces]⟩

theorem trans (h₁ : Unmoved tag before between) (h₂ : Unmoved tag between after) :
    Unmoved tag before after := by
  obtain ⟨xs, hxs, hplaces₁⟩ := h₁
  obtain ⟨ys, hys, hplaces₂⟩ := h₂
  refine ⟨ys ++ xs, by rw [hys, hxs, List.append_assoc], fun group hgroup => ?_⟩
  rw [hplaces₂ group fun place h => hgroup place (List.mem_append_left _ h),
    hplaces₁ group fun place h => hgroup place (List.mem_append_right _ h)]

theorem rotate (r : Rotation) (ctx : Context) : Unmoved tag ctx (ctx.rotated config r) := by
  refine ⟨[.rotated r.tag _ _], rfl, fun group hgroup => ?_⟩
  refine placeOf_rotated_of_ne fun ⟨htag, heq⟩ => ?_
  subst htag heq
  exact hgroup _ List.mem_cons_self

theorem loads (htag : Apart tag) {path : String} {ctx : Context}
    {loaded : Except Error (List Node) × Context} (h : Loads config path ctx loaded) :
    Unmoved tag ctx loaded.2 := by
  have hplaces := h.places htag
  cases h with
  | cached _ => exact of_eq rfl hplaces
  | missing _ _ => exact of_eq rfl hplaces
  | malformed _ _ _ => exact note (e := .loaded path) rfl hplaces
  | read _ _ _ => exact note (e := .loaded path) rfl hplaces

theorem kept (htag : Apart tag) (config : Config) :
    Kept config (fun _ => True) fun before _ after => Unmoved tag before after where
  refl ctx := of_eq rfl rfl
  trans := trans
  fault ctx cause _ _ _ := of_eq rfl rfl
  filtered ctx use := note (e := .filtered use) rfl rfl
  emit ctx text := of_eq rfl rfl
  assign ctx name v := of_eq rfl rfl
  count ctx direction name _ := note (e := .counted direction name _ _) rfl rfl
  rotate ctx r _ := by
    rw [rotate_apply]
    exact rotate r ctx
  interrupt ctx kind := note (e := .interrupted _) rfl rfl
  takeInterrupt ctx := of_eq rfl rfl
  advanceLoop ctx number := of_eq rfl rfl
  inScope h := h
  captured h := h
  inLoop {other _ _ _ ctx after length _} _ h := by
    have hstart : Unmoved tag ctx (startLoop (loopRegister other) length ctx).2 :=
      of_eq rfl (places_startLoop htag other length ctx)
    have hend : Unmoved tag after (endLoop (loopRegister other) after) :=
      of_eq (by rw [endLoop_eq]) (places_endLoop htag other after)
    exact (hstart.trans h).trans hend
  emptyName ctx _ := of_eq rfl rfl
  refused ctx path _ _ := note (e := .refused path) rfl rfl
  inPartial {ctx after path e} _ h := by
    have henter : Unmoved tag ctx (ctx.enter path) := note (e := .entered path) rfl rfl
    have hleave : Unmoved tag after (leavePartial path after) := note (e := .left path) rfl rfl
    exact (henter.trans h).trans hleave
  loads _ h := loads htag h

end Unmoved

/-- Whatever nodes are rendered, the place of a group moves only if one of its rotations is
executed. -/
theorem Unmoved.renderAll {tag : String} (htag : Apart tag) (nodes : List Node) (ctx : Context) :
    Unmoved tag ctx (renderAll config nodes ctx).2 :=
  ((Unmoved.kept htag config).sat_renderAll (reads_true config) (fun _ _ => trivial) ctx
    ctx.caches_true).1

/-! ## Which rotations share a place -/

/-- Rotations of a tag that are given no group share a place just if their lists are the same, apart
from zeros at the end of decimals. -/
theorem sharesPlace_iff_values {r other : Rotation} (hr : r.group = none)
    (hother : other.group = none) (htag : other.tag = r.tag)
    (h : ∀ e ∈ r.values ++ other.values, e.isRepresentable) (view : View) :
    sharesPlace view r other = true ↔
      r.values.map (·.mapDecimals Decimal.normalize) =
        other.values.map (·.mapDecimals Decimal.normalize) := by
  have hgroups : groupOf other view = groupOf r view ↔ Value.separated (r.values.map (·.text)) =
      Value.separated (other.values.map (·.text)) := by
    rw [groupOf, groupOf, hr, hother]
    exact eq_comm
  rw [sharesPlace_iff, and_iff_right htag, hgroups]
  exact separated_text_eq_iff (List.cons_ne_nil _ _) (List.cons_ne_nil _ _) h

/-- A rotation that is given a group shares a place with one that is not just if the group is the
markup of the list of the other. -/
theorem sharesPlace_iff_group {r other : Rotation} {e : Expression} (hr : r.group = some e)
    (hother : other.group = none) (htag : other.tag = r.tag) (view : View) :
    sharesPlace view r other = true ↔
      (e.value view).text = Value.separated (other.values.map (·.text)) := by
  rw [sharesPlace_iff, and_iff_right htag, groupOf, groupOf, hr, hother]
  exact eq_comm

/--
**Which rotations leave each other alone.** A rotation succeeds, shows the value whose turn it is
and moves its place on. What it shows next depends on those rotations before it that have the same
tag and group, and on nothing else that is rendered.

Without groups, rotations of a tag have the same group just if their lists are the same, as long as
these have texts of their own: no string in them holds a quote, and no decimal is written like an
integer. One with a group and one without have the same just if the text of the group is the markup
of the list.
-/
theorem rotations_apart (config : Config) :
    (∀ r (ctx : Context), rotate config r ctx = (.ok (), ctx.rotated config r)) ∧
    (∀ r rs (ctx : Context), nextShown config r (ctx.rotatedAll config rs) =
      nextShown config r
        (ctx.rotatedAll config (rs.filter (sharesPlace (ctx.view config) r)))) ∧
    (∀ tag, Apart tag → ∀ nodes ctx, Unmoved tag ctx (renderAll config nodes ctx).2) ∧
    (∀ r other view, other.tag = r.tag → other.group = none →
      (r.group = none → (∀ e ∈ r.values ++ other.values, e.isRepresentable) →
        (sharesPlace view r other = true ↔
          r.values.map (·.mapDecimals Decimal.normalize) =
            other.values.map (·.mapDecimals Decimal.normalize))) ∧
      ∀ e, r.group = some e → (sharesPlace view r other = true ↔
        (e.value view).text = Value.separated (other.values.map (·.text)))) :=
  ⟨rotate_apply, nextShown_rotatedAll_filter, fun _ htag => Unmoved.renderAll htag,
    fun _ _ view htag hother =>
      ⟨fun hr h => sharesPlace_iff_values hr hother htag h view,
        fun _ hr => sharesPlace_iff_group hr hother htag view⟩⟩

/-- The letters `a` and `b`. -/
def letters : Rotation :=
  ⟨"cycle", none, .literal (.string "a"), [.literal (.string "b")]⟩

/-- The numbers `1` and `2`. -/
def numbers : Rotation :=
  ⟨"cycle", none, .literal (.int 1), [.literal (.int 2)]⟩

theorem rotations_apart_letters :
    let ctx := Context.start [] []
    (∀ e ∈ letters.values ++ numbers.values, e.isRepresentable) ∧
      sharesPlace (ctx.view Config.standard) letters numbers = false ∧
      nextShown Config.standard letters
        (ctx.rotatedAll Config.standard [letters, numbers, numbers]) = .string "b" ∧
      Unmoved "cycle" ctx (renderAll Config.standard [.rotation letters] ctx).2 := by
  intro ctx
  obtain ⟨-, hnext, hunmoved, hshares⟩ := rotations_apart Config.standard
  have hrepresentable : ∀ e ∈ letters.values ++ numbers.values, e.isRepresentable := by decide
  have hlists := (hshares letters numbers (ctx.view Config.standard) rfl rfl).1 rfl hrepresentable
  have hapart : sharesPlace (ctx.view Config.standard) letters numbers = false := by
    rw [← Bool.not_eq_true, hlists]
    intro h
    cases h
  refine ⟨hrepresentable, hapart, ?_, hunmoved "cycle" apart_cycle _ _⟩
  rw [hnext]
  rfl

/-- A list of one value, which is written like the two letters. -/
def quotedLetters : Rotation :=
  ⟨"cycle", none, .literal (.string "a', 'b"), []⟩

/-- Numbers, in a group that is named like the letters are written. -/
def numbersForLetters : Rotation :=
  { numbers with group := some (.literal (.string "'a', 'b'")) }

/-- Rotations with different lists, or one with a group and one without, do not leave each other
alone if they are written alike. -/
theorem rotations_written_alike :
    let ctx := (Context.start [] []).rotated Config.standard letters
    letters.group = none ∧ quotedLetters.group = none ∧ letters.values ≠ quotedLetters.values ∧
      numbersForLetters.group.isSome ∧
      nextShown Config.standard letters ctx = .string "b" ∧
      nextShown Config.standard letters (ctx.rotated Config.standard quotedLetters) =
        .string "a" ∧
      nextShown Config.standard letters (ctx.rotated Config.standard numbersForLetters) =
        .string "a" := by
  refine ⟨rfl, rfl, fun h => ?_, rfl, rfl, rfl, rfl⟩
  exact absurd (congrArg List.length h) (by decide)

end Stencil.Render
