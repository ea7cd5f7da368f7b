import Stencil.Render.Node

/-!
# Visiting items

The items of a loop are given one after another, and a loop counts how many may still come. That
count never ends a loop early: it visits the items of a list, up to a break.

* `Items.next?_eq` — the items that are given are those of the list
* `visit_eq_visitEach` — a loop visits the items of the list
-/

namespace Stencil.Render

open Stencil.Template

namespace Items

theorem length_toList (items : Items) : items.toList.length = items.count := by
  cases items with
  | list values => rfl
  | progression first step total => simp [toList, count]

theorem toList_progression_succ (first step : Int) (count : Nat) :
    (progression first step (count + 1)).toList =
      .int (Int64.ofInt first) :: (progression (first + step) step count).toList := by
  simp only [toList, List.range_succ_eq_map, List.map_cons, List.map_map]
  refine List.cons_eq_cons.mpr ⟨by simp, List.map_congr_left fun k _ => ?_⟩
  have hstep : first + step * ((k + 1 : Nat) : Int) = first + step + step * k := by
    rw [Int.natCast_add, Int.mul_add, Int.natCast_one, Int.mul_one]
    omega
  simp only [Function.comp_apply, Nat.succ_eq_add_one, hstep]

/-- The next item is the first of the list, and what is behind it is the rest. -/
theorem next?_eq (items : Items) :
    (items.next? = none ∧ items.toList = []) ∨
      ∃ item rest, items.next? = some (item, rest) ∧ items.toList = item :: rest.toList := by
  cases items with
  | list values =>
    cases values with
    | nil => exact .inl ⟨rfl, rfl⟩
    | cons v rest => exact .inr ⟨v, .list rest, rfl, rfl⟩
  | progression first step count =>
    cases count with
    | zero => exact .inl ⟨rfl, rfl⟩
    | succ count => exact .inr ⟨_, _, rfl, toList_progression_succ first step count⟩

end Items

/-- Visits the items of a list with a render, up to a break. -/
def visitEach (number : Nat) (visitItem : Value → Render Unit) : List Value → Render Unit
  | [] => return ()
  | item :: rest => do
    visitItem item
    advanceLoop number
    match ← takeInterrupt with
    | some .breakLoop => return ()
    | _ => visitEach number visitItem rest

/-- **A loop visits the items of a list, up to a break.** -/
theorem visit_eq_visitEach (number : Nat) (visitItem : Value → Render Unit) {n : Nat}
    {items : Items} (h : items.count ≤ n) :
    visit number visitItem n items = visitEach number visitItem items.toList := by
  rw [← items.length_toList] at h
  induction n generalizing items with
  | zero =>
    rw [List.eq_nil_of_length_eq_zero (Nat.le_zero.mp h)]
    rfl
  | succ n ih =>
    unfold visit
    rcases items.next?_eq with ⟨hnext, hitems⟩ | ⟨item, rest, hnext, hitems⟩
    · rw [hnext, hitems]
      rfl
    · have hrest : rest.toList.length ≤ n := by
        rw [hitems] at h
        exact Nat.le_of_succ_le_succ h
      rw [hnext, hitems]
      exact congrArg (fun next : Render Unit => do
        visitItem item
        advanceLoop number
        match ← takeInterrupt with
        | some .breakLoop => return ()
        | _ => next) (ih hrest)

end Stencil.Render
