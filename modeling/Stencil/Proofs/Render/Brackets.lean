import Mathlib.Data.List.Induction
import Stencil.Proofs.Render.LoopObjects

/-!
# Scopes that come and go

Scopes are pushed and popped again, and variables are written meanwhile. Once all scopes that were
pushed since some moment are gone, what is left of it are the writes that none of them took in:
those made while no pushed scope could be written to.

* `openAfter`, `Balanced` — how many pushed scopes are there after some actions
* `reaching` — the writes that go past the pushed scopes
* `actAll_balanced` — what is left of balanced actions
* `renderAll_acted` — what rendering nodes does to the scopes is balanced
* `read_of_bracketed` — what variables read as after a write, and once the scopes are gone
-/

namespace Stencil.Render

open Stencil.Template

/-! ## Actions -/

namespace Scopes

/-- What can be done to a stack of scopes. -/
inductive Action where
  | push (scope : Scope)
  /-- The innermost scope is taken off. -/
  | pop
  | write (name : String) (value : Value)

/-- The stack after an action. -/
def act (scopes : Scopes) : Action → Scopes
  | .push scope => scope :: scopes
  | .pop => scopes.tail
  | .write name v => scopes.assign name v

/-- The stack after actions, one after another. -/
def actAll (scopes : Scopes) (actions : List Action) : Scopes :=
  actions.foldl act scopes

/-- The stack after writes, one after another. -/
def assignAll (scopes : Scopes) (writes : List (String × Value)) : Scopes :=
  writes.foldl (fun scopes (name, v) => scopes.assign name v) scopes

/-- How many scopes that were pushed are there after actions, if so many were there before. There
is no answer if a scope is popped that was not pushed. -/
def openAfter : Nat → List Action → Option Nat
  | n, [] => some n
  | n, .push _ :: rest => openAfter (n + 1) rest
  | 0, .pop :: _ => none
  | n + 1, .pop :: rest => openAfter n rest
  | n, .write _ _ :: rest => openAfter n rest

/-- Actions that pop the scopes that they push, and no others. -/
def Balanced (actions : List Action) : Prop :=
  openAfter 0 actions = some 0

/-- The writes that no pushed scope takes in. It is told of the pushed scopes that are there,
innermost first, whether they can be written to. -/
def reaching : List Bool → List Action → List (String × Value)
  | _, [] => []
  | pushed, .push scope :: rest => reaching (scope.writable :: pushed) rest
  | pushed, .pop :: rest => reaching pushed.tail rest
  | pushed, .write name v :: rest =>
    if pushed.any id then reaching pushed rest else (name, v) :: reaching pushed rest

instance (actions : List Action) : Decidable (Balanced actions) :=
  inferInstanceAs (Decidable (openAfter 0 actions = some 0))

theorem actAll_append (scopes : Scopes) (xs ys : List Action) :
    scopes.actAll (xs ++ ys) = (scopes.actAll xs).actAll ys :=
  List.foldl_append

theorem openAfter_append (n : Nat) (xs ys : List Action) :
    openAfter n (xs ++ ys) = (openAfter n xs).bind (openAfter · ys) := by
  fun_induction openAfter n xs with
  | case1 n => rfl
  | case2 n scope rest ih => exact ih
  | case3 rest => rfl
  | case4 n rest ih => exact ih
  | case5 n name v rest ih =>
    rw [List.cons_append, openAfter]
    exact ih

/-- Pushed scopes below make no difference. -/
theorem openAfter_add {n m : Nat} {actions : List Action} (h : openAfter n actions = some m)
    (below : Nat) : openAfter (n + below) actions = some (m + below) := by
  fun_induction openAfter n actions with
  | case1 n =>
    cases h
    rfl
  | case2 n scope rest ih =>
    rw [openAfter, Nat.add_right_comm]
    exact ih h
  | case3 rest => cases h
  | case4 n rest ih =>
    rw [Nat.succ_add, openAfter]
    exact ih h
  | case5 n name v rest ih =>
    rw [openAfter]
    exact ih h

namespace Balanced

theorem nil : Balanced [] := rfl

theorem write (name : String) (v : Value) : Balanced [.write name v] := rfl

theorem append {xs ys : List Action} (hxs : Balanced xs) (hys : Balanced ys) :
    Balanced (xs ++ ys) := by
  unfold Balanced at *
  rw [openAfter_append, hxs]
  exact hys

theorem within {actions : List Action} (h : Balanced actions) (scope : Scope) :
    Balanced (.push scope :: actions ++ [.pop]) := by
  show openAfter 1 (actions ++ [.pop]) = some 0
  rw [openAfter_append, ← Nat.zero_add 1, openAfter_add h 1]
  rfl

end Balanced

/-! ## What is left -/

/-- A write goes past the inner scopes of a stack if none of these can be written to. -/
theorem assign_append (inner outer : Scopes) (name : String) (v : Value) :
    assign (inner ++ outer) name v =
      if inner.any (·.writable) then inner.assign name v ++ outer
      else inner ++ outer.assign name v := by
  induction inner with
  | nil => rfl
  | cons scope inner ih =>
    cases hw : scope.writable with
    | true => simp [assign, hw]
    | false =>
      rw [List.cons_append, assign, if_neg (by simp [hw]), ih, List.any_cons, hw, Bool.false_or]
      split
      · simp [assign, hw]
      · rfl

/-- What is left of actions: the pushed scopes that are there, and the writes that reach the scopes
below them. -/
theorem exists_actAll_eq {actions : List Action} {inner : Scopes} {n : Nat}
    (h : openAfter inner.length actions = some n) (scopes : Scopes) :
    ∃ after : Scopes, after.length = n ∧
      actAll (inner ++ scopes) actions =
        after ++ scopes.assignAll (reaching (inner.map (·.writable)) actions) := by
  induction actions generalizing inner scopes with
  | nil =>
    cases h
    exact ⟨inner, rfl, rfl⟩
  | cons action rest ih =>
    cases action with
    | push scope =>
      have hrest : openAfter (scope :: inner).length rest = some n := h
      exact ih hrest scopes
    | pop =>
      cases inner with
      | nil => cases h
      | cons scope inner =>
        have hrest : openAfter inner.length rest = some n := h
        exact ih hrest scopes
    | write name v =>
      have hany : (inner.map (·.writable)).any id = inner.any (·.writable) := List.any_map
      have hrest : openAfter inner.length rest = some n := by
        rw [openAfter] at h
        exact h
      have hact : actAll (inner ++ scopes) (.write name v :: rest) =
          actAll (assign (inner ++ scopes) name v) rest := rfl
      rw [hact, assign_append, reaching, hany]
      cases hw : inner.any (·.writable) with
      | true =>
        -- An inner scope takes the write in, and can be written to as before.
        have hsame := SameBut.assign inner name v
        rw [← hsame.length] at hrest
        obtain ⟨after, hlength, heq⟩ := ih hrest scopes
        rw [hsame.writable] at heq
        exact ⟨after, hlength, heq⟩
      | false =>
        obtain ⟨after, hlength, heq⟩ := ih hrest (scopes.assign name v)
        exact ⟨after, hlength, heq⟩

/-- **What is left of balanced actions are the writes that reach the scopes around them.** -/
theorem actAll_balanced {actions : List Action} (h : Balanced actions) (scopes : Scopes) :
    scopes.actAll actions = scopes.assignAll (reaching [] actions) := by
  have hnone : openAfter ([] : Scopes).length actions = some 0 := h
  obtain ⟨after, hlength, heq⟩ := exists_actAll_eq hnone scopes
  rw [List.eq_nil_of_length_eq_zero hlength] at heq
  exact heq

theorem SameBut.assignAll (scopes : Scopes) (writes : List (String × Value)) :
    scopes.SameBut (scopes.assignAll writes) := by
  induction writes generalizing scopes with
  | nil => exact .refl _
  | cons pair rest ih => exact (SameBut.assign scopes pair.1 pair.2).trans (ih _)

/-! ## What is read -/

/-- A variable whose name a scope further in binds reads as before when it is written. -/
theorem read_assign_of_shadowed {scopes : Scopes} {name : String} {u : Value}
    (h : find? scopes.shielding name = some u) (v : Value) :
    (scopes.assign name v).read name = u := by
  rw [← (SameBut.assign scopes name v).shielding] at h
  exact read_of_shielding h

theorem SameBut.exists_writable {before after : Scopes} (h : before.SameBut after)
    (hwritable : ∃ s ∈ before, s.writable) : ∃ s ∈ after, s.writable := by
  have hmap : ∀ scopes : Scopes, (∃ s ∈ scopes, s.writable) ↔ true ∈ scopes.map (·.writable) := by
    simp
  rw [hmap] at hwritable ⊢
  rwa [h.writable]

/-- What a variable reads as after writes: as a scope further in binds it, else as it was written
last. -/
theorem read_assignAll {scopes : Scopes} (hwritable : ∃ s ∈ scopes, s.writable)
    (writes : List (String × Value)) (name : String) :
    (scopes.assignAll writes).read name =
      (find? scopes.shielding name).getD
        ((writes.reverse.lookup name).getD (scopes.read name)) := by
  induction writes using List.reverseRecOn with
  | nil =>
    cases hfind : find? scopes.shielding name with
    | none => rfl
    | some u => exact read_of_shielding hfind
  | append_singleton front pair ih =>
    obtain ⟨key, v⟩ := pair
    have hlast : scopes.assignAll (front ++ [(key, v)]) =
        (scopes.assignAll front).assign key v := by
      simp [assignAll]
    have hsame := SameBut.assignAll scopes front
    rw [hlast, List.reverse_append, List.reverse_singleton, List.singleton_append,
      List.lookup_cons]
    by_cases hkey : key = name
    · subst hkey
      rw [beq_self_eq_true]
      cases hfind : find? scopes.shielding key with
      | none =>
        rw [← hsame.shielding] at hfind
        exact read_assign_self _ _ _ hfind (hsame.exists_writable hwritable)
      | some u =>
        rw [← hsame.shielding] at hfind
        exact read_assign_of_shadowed hfind v
    · rw [read_assign_of_ne _ _ hkey, ih, beq_false_of_ne (Ne.symm hkey)]

/-- The scope at the bottom of the stack can be written to, and stays. -/
theorem exists_writable_actAll (base : Bindings Value) {before : List Action} {n : Nat}
    (hbefore : openAfter 0 before = some n) :
    ∃ s ∈ actAll [.mutable base] before, s.writable := by
  have hnone : openAfter ([] : Scopes).length before = some n := hbefore
  obtain ⟨after, -, heq⟩ := exists_actAll_eq hnone [.mutable base]
  have hbase : ∃ s ∈ [Scope.mutable base], s.writable :=
    ⟨.mutable base, List.mem_singleton_self _, rfl⟩
  obtain ⟨s, hs, hw⟩ := (SameBut.assignAll [.mutable base] _).exists_writable hbase
  refine ⟨s, ?_, hw⟩
  rw [List.nil_append] at heq
  rw [heq]
  exact List.mem_append_right after hs

/-- A write shows where the variable reads as written then: if no scope further in binds its name,
or the innermost of these binds it to the same value. -/
theorem read_assign_eq_iff {scopes : Scopes} (hwritable : ∃ s ∈ scopes, s.writable)
    (name : String) (v : Value) :
    (scopes.assign name v).read name = v ↔
      find? scopes.shielding name = none ∨ find? scopes.shielding name = some v := by
  cases hfind : find? scopes.shielding name with
  | none => simp [read_assign_self _ _ v hfind hwritable]
  | some u => simp [read_assign_of_shadowed hfind v]

/-- A variable reads as before if a scope further in binds its name. -/
theorem read_assignAll_of_shadowed {scopes : Scopes} {name : String}
    (h : find? scopes.shielding name ≠ none) (writes : List (String × Value)) :
    (scopes.assignAll writes).read name = scopes.read name := by
  obtain ⟨u, hfind⟩ := Option.ne_none_iff_exists'.mp h
  rw [read_of_shielding hfind]
  rw [← (SameBut.assignAll scopes writes).shielding] at hfind
  exact read_of_shielding hfind

/--
**The law of scopes.** However scopes have been pushed and popped and variables been written since
the first scope, a variable reads as it is written if and only if no scope inside of the innermost
one that can be written to binds its name, or the innermost of those binds it to the same value; it
reads as before if any of them binds its name, and all others read as before anyway. When all scopes
are gone that have been pushed from there on, a variable reads as it was written last while none of
them could be written to, if no scope that was there already binds it further in, and otherwise it
reads as before.
-/
theorem read_of_bracketed (base : Bindings Value) {before : List Action} {n : Nat}
    (hbefore : openAfter 0 before = some n) :
    let scopes := actAll [.mutable base] before
    (∀ name v,
      ((scopes.act (.write name v)).read name = v ↔
        find? scopes.shielding name = none ∨ find? scopes.shielding name = some v) ∧
      (find? scopes.shielding name ≠ none →
        (scopes.act (.write name v)).read name = scopes.read name) ∧
      ∀ other, other ≠ name → (scopes.act (.write name v)).read other = scopes.read other) ∧
    ∀ since, Balanced since → ∀ name,
      ((∀ v, (name, v) ∉ reaching [] since) → (scopes.actAll since).read name = scopes.read name) ∧
      (find? scopes.shielding name ≠ none →
        (scopes.actAll since).read name = scopes.read name) ∧
      (find? scopes.shielding name = none → ∀ v,
        (reaching [] since).reverse.lookup name = some v →
          (scopes.actAll since).read name = v) := by
  intro scopes
  have hwritable : ∃ s ∈ scopes, s.writable := exists_writable_actAll base hbefore
  refine ⟨fun name v => ⟨read_assign_eq_iff hwritable name v,
    fun h => read_assignAll_of_shadowed h [(name, v)],
    fun other hne => read_assign_of_ne scopes v (Ne.symm hne)⟩, fun since hsince name => ?_⟩
  rw [actAll_balanced hsince scopes]
  refine ⟨fun hnot => ?_, fun h => read_assignAll_of_shadowed h _, fun hfind v hlast => ?_⟩
  · have hnone : (reaching [] since).reverse.lookup name = none := by
      rw [List.lookup_eq_none_iff]
      rintro ⟨key, v⟩ hmem
      rw [List.mem_reverse] at hmem
      refine bne_iff_ne.mpr ?_
      rintro rfl
      exact hnot v hmem
    rw [read_assignAll hwritable, hnone]
    cases hfind : find? scopes.shielding name with
    | none => rfl
    | some u => exact (read_of_shielding hfind).symm
  · rw [read_assignAll hwritable, hfind, hlast]
    rfl

/-! ### Shadowed and unshadowed writes -/

/-- Writes between which a scope that can be written to comes and goes, and one that cannot. -/
def writesAround : List Action :=
  [.write "seen" (.int 1), .push (.mutable []), .write "seen" (.int 2), .pop,
    .push (.fixed [("seen", .int 3)]), .write "item" (.int 4), .write "seen" (.int 5), .pop]

theorem read_of_bracketed_writesAround :
    let scopes := actAll [.mutable [("seen", .int 0)]] [.push (.fixed [("item", .int 1)])]
    openAfter 0 [.push (.fixed [("item", .int 1)])] = some 1 ∧ Balanced writesAround ∧
      (scopes.actAll writesAround).read "seen" = .int 5 ∧
      (scopes.actAll writesAround).read "item" = scopes.read "item" ∧
      (scopes.actAll writesAround).read "other" = scopes.read "other" := by
  have hbalanced : Balanced writesAround := by decide
  have hbefore : openAfter 0 [.push (.fixed [("item", .int 1)])] = some 1 := rfl
  obtain ⟨-, hsince⟩ := read_of_bracketed [("seen", .int 0)] hbefore
  refine ⟨hbefore, hbalanced, ?_, ?_, ?_⟩
  · exact (hsince writesAround hbalanced "seen").2.2 rfl (.int 5) rfl
  · exact (hsince writesAround hbalanced "item").2.1 nofun
  · refine (hsince writesAround hbalanced "other").1 fun v hmem => ?_
    simp [writesAround, reaching, Scope.mutable, Scope.fixed] at hmem

/-- The value that is written is read although a scope further in binds the name, as this binds it
to the same value. -/
theorem written_value_read_though_shadowed :
    let scopes := actAll [.mutable []] [.push (.fixed [("item", .int 1)])]
    openAfter 0 [.push (.fixed [("item", .int 1)])] = some 1 ∧
      ¬((scopes.act (.write "item" (.int 1))).read "item" = .int 1 ↔
        find? scopes.shielding "item" = none) := by
  refine ⟨rfl, fun h => ?_⟩
  cases h.mp rfl

end Scopes

/-! ## Rendering -/

/-- What was done to a stack of scopes was balanced. -/
def Scopes.Acted (before after : Scopes) : Prop :=
  ∃ actions, Scopes.Balanced actions ∧ after = before.actAll actions

namespace Scopes.Acted

theorem refl (scopes : Scopes) : scopes.Acted scopes := ⟨[], .nil, rfl⟩

theorem trans {before between after : Scopes} (h₁ : before.Acted between)
    (h₂ : between.Acted after) : before.Acted after := by
  obtain ⟨xs, hxs, rfl⟩ := h₁
  obtain ⟨ys, hys, rfl⟩ := h₂
  exact ⟨xs ++ ys, hxs.append hys, (actAll_append before xs ys).symm⟩

theorem assign (scopes : Scopes) (name : String) (v : Value) :
    scopes.Acted (scopes.assign name v) :=
  ⟨[.write name v], .write name v, rfl⟩

theorem within {scope : Scope} {scopes after : Scopes} (h : Scopes.Acted (scope :: scopes) after) :
    scopes.Acted after.tail := by
  obtain ⟨actions, hactions, rfl⟩ := h
  refine ⟨.push scope :: actions ++ [.pop], hactions.within scope, ?_⟩
  rw [actAll_append]
  rfl

/-- What was done is what was written to the innermost scope that can be written to. -/
theorem exists_assignAll {before after : Scopes} (h : before.Acted after) :
    ∃ writes, after = before.assignAll writes := by
  obtain ⟨actions, hactions, rfl⟩ := h
  exact ⟨_, actAll_balanced hactions before⟩

theorem sameBut {before after : Scopes} (h : before.Acted after) : before.SameBut after := by
  obtain ⟨writes, rfl⟩ := h.exists_assignAll
  exact .assignAll before writes

/-- All operations act on the scopes so. -/
theorem kept (config : Config) : Kept config (fun _ => True)
    fun before _ after => before.scopes.Acted after.scopes where
  refl ctx := refl _
  trans := trans
  fault ctx _ _ _ _ := refl _
  filtered ctx _ := refl _
  emit ctx _ := refl _
  assign ctx name v := assign _ name v
  count ctx _ _ _ := refl _
  rotate ctx _ _ := refl _
  interrupt ctx _ := refl _
  takeInterrupt ctx := refl _
  advanceLoop ctx _ := refl _
  inScope h := h.within
  captured h := h
  inLoop _ h := by
    rw [endLoop_eq]
    exact h
  emptyName ctx _ := refl _
  refused ctx _ _ _ := refl _
  inPartial _ h := h
  loads _ hloads := by cases hloads <;> exact refl _

end Scopes.Acted

/-- **Whatever rendering nodes does to the scopes is balanced,** whether it fails or not. -/
theorem renderAll_acted (config : Config) (nodes : List Node) (ctx : Context) :
    ctx.scopes.Acted (renderAll config nodes ctx).2.scopes := by
  have hnodes : ∀ node ∈ partsOf nodes, True := fun _ _ => trivial
  exact ((Scopes.Acted.kept config).sat_renderAll (reads_true config) hnodes ctx
    ctx.caches_true).1

end Stencil.Render
