import Stencil.Proofs.Render.Containment

/-!
# Windows over ranges

A loop over a range computes its integers one by one, also where the range is far too long to be
written down. It visits what a loop over the array of these integers would.

* `ascending` — the integers of a range, written down
* `Items.toList_range_eq` — the window over a range is the window over its integers
* `range_as_listed` — loops over a range and over the array of its integers
-/

namespace Stencil.Render

open Stencil.Markup Stencil.Template

/-! ## Integers in order -/

/-- The integers from the first to the last, in order. There are none if the last is smaller. -/
def ascending (first last : Int64) : List Int64 :=
  (List.range (last.toInt - first.toInt + 1).toNat).map fun (k : Nat) =>
    Int64.ofInt (first.toInt + k)

theorem length_ascending (first last : Int64) :
    (ascending first last).length = (last.toInt - first.toInt + 1).toNat := by
  simp [ascending]

/-- The integer at a place is as far from the first as the place. -/
theorem toInt_getElem_ascending {first last : Int64} {k : Nat}
    (hk : k < (ascending first last).length) :
    ((ascending first last)[k]).toInt = first.toInt + k := by
  have hlength := length_ascending first last
  have hfirst := Integer.bounds first
  have hlast := Integer.bounds last
  simp only [ascending, List.getElem_map, List.getElem_range]
  exact Integer.toInt_ofInt (by omega)

theorem mem_ascending {first last n : Int64} :
    n ∈ ascending first last ↔ first ≤ n ∧ n ≤ last := by
  rw [Int64.le_iff_toInt_le, Int64.le_iff_toInt_le]
  constructor
  · intro hmem
    obtain ⟨k, hk, rfl⟩ := List.getElem_of_mem hmem
    rw [toInt_getElem_ascending hk]
    rw [length_ascending] at hk
    omega
  · rintro ⟨hfirst, hlast⟩
    have hk : (n.toInt - first.toInt).toNat < (ascending first last).length := by
      rw [length_ascending]
      omega
    have hn : (ascending first last)[(n.toInt - first.toInt).toNat] = n := by
      rw [← Int64.toInt_inj, toInt_getElem_ascending hk]
      omega
    exact hn ▸ List.getElem_mem hk

theorem pairwise_ascending (first last : Int64) : (ascending first last).Pairwise (· < ·) := by
  rw [List.pairwise_iff_getElem]
  intro i j hi hj hlt
  rw [Int64.lt_iff_toInt_lt, toInt_getElem_ascending hi, toInt_getElem_ascending hj]
  omega

/-! ## Windows -/

namespace Items

theorem limited_le (limit : Option Nat) (count : Nat) : limited limit count ≤ count := by
  cases limit with
  | none => exact Nat.le_refl count
  | some n => exact Nat.min_le_left count n

theorem toList_listed (values : List Value) (offset : Nat) (limit : Option Nat)
    (reversed : Bool) :
    (listed values offset limit reversed).toList =
      ((if reversed then values.reverse else values).drop offset).take
        (limited limit (values.length - offset)) := by
  cases reversed <;> simp [listed, toList]

/-- **The window over a range is the window over its integers.** -/
theorem toList_range_eq (first last : Int64) (offset : Nat) (limit : Option Nat)
    (reversed : Bool) :
    (range first.toInt last.toInt offset limit reversed).toList =
      (listed ((ascending first last).map .int) offset limit reversed).toList := by
  have hlimited := limited_le limit ((last.toInt - first.toInt + 1).toNat - offset)
  rw [toList_listed, List.length_map, length_ascending]
  generalize hcount : limited limit ((last.toInt - first.toInt + 1).toNat - offset) = count
    at hlimited
  cases reversed with
  | false =>
    simp only [range, toList, hcount, Bool.false_eq_true, if_false]
    refine List.ext_getElem ?_ fun k hk hk' => ?_
    · simp [length_ascending, hlimited]
    · simp [ascending, Int.add_assoc]
  | true =>
    simp only [range, toList, hcount, if_true]
    refine List.ext_getElem ?_ fun k hk hk' => ?_
    · simp [length_ascending, hlimited]
    · -- Counted from the end, the place is that of the integer that is computed.
      have hcounted : k < count := by simpa using hk
      simp only [List.getElem_map, List.getElem_range, List.getElem_take, List.getElem_drop,
        List.getElem_reverse, ascending, List.length_map, List.length_range]
      congr 2
      omega

/-- To give no limit is to give the greatest, for an array that is no longer than that. -/
theorem listed_maxLength {values : List Value} (h : values.length ≤ maxLength) (offset : Nat)
    (reversed : Bool) :
    listed values offset none reversed = listed values offset (some maxLength) reversed := by
  have hrest : ((if reversed then values.reverse else values).drop offset).length ≤ maxLength := by
    cases reversed <;> simp <;> omega
  simp only [listed, limited, Option.elim_none, Option.elim_some, Nat.min_eq_left hrest]

end Items

/-! ## Loops over the same items -/

theorem runLoop_congr (tag name : String) {items items' : Items} (body : Render Unit)
    (h : items.toList = items'.toList) :
    runLoop tag name items body = runLoop tag name items' body := by
  have hcount : items.count = items'.count := by
    rw [← items.length_toList, ← items'.length_toList, h]
  unfold runLoop
  rw [hcount]
  congr 1
  funext number
  rw [visit_eq_visitEach _ _ (Nat.le_of_eq hcount), visit_eq_visitEach _ _ (Nat.le_refl _), h]

/-- Loops over the same items are the same, however they come by their items. -/
theorem renderNode_loop_congr {config : Config} {header header' : LoopHeader} {ctx : Context}
    (hitems : (itemsOf header (ctx.view config)).toList =
      (itemsOf header' (ctx.view config)).toList)
    (hname : header.item = header'.item) (partialOf : Inclusion → Render Unit) (tag : String)
    (body : List Node) (otherwise : Option (List Node)) :
    renderNode config partialOf (.loop tag header body otherwise) ctx =
      renderNode config partialOf (.loop tag header' body otherwise) ctx := by
  have hcount : (itemsOf header (ctx.view config)).count =
      (itemsOf header' (ctx.view config)).count := by
    rw [← Items.length_toList, ← Items.length_toList, hitems]
  have hloop := runLoop_congr tag header.item (renderNodes config partialOf body) hitems
  rw [hname] at hloop
  cases otherwise with
  | none | some =>
    simp only [renderNode]
    rw [ask_bind_apply, ask_bind_apply, hcount, hname, hloop]

/--
**Ranges are as if written down.** A window over the range from one 64-bit integer to another has
the items of the window over the array that holds just these integers in ascending order, whatever
is passed over, however many are asked for and from whichever end. Their number is what the loop
tells, up to the greatest length it can tell. So a loop over the range is rendered as the loop over
the array with the same parameters, with whatever body.
-/
theorem range_as_listed (first last : Int64) (offset : Nat) (limit : Option Nat)
    (reversed : Bool) :
    let integers := ascending first last
    let listed := Items.listed (integers.map .int) offset limit reversed
    let range := Items.range first.toInt last.toInt offset limit reversed
    ((∀ n, n ∈ integers ↔ first ≤ n ∧ n ≤ last) ∧ integers.Pairwise (· < ·)) ∧
      range.toList = listed.toList ∧
      range.count = listed.toList.length ∧
      (∀ register (ctx : Context),
        ((startLoop register range.count ctx).2.loops[ctx.loops.size]?).map (·.length) =
          some (min listed.toList.length maxLength)) ∧
      (integers.length ≤ maxLength →
        Items.listed (integers.map .int) offset none reversed =
          Items.listed (integers.map .int) offset (some maxLength) reversed) ∧
      ∀ (config : Config) (partialOf : Inclusion → Render Unit) (tag name : String)
        (start stop array : Expression) (most skipped : Option Expression) (body : List Node)
        (otherwise : Option (List Node)) (ctx : Context),
        (start.value (ctx.view config)).toInt = first →
        (stop.value (ctx.view config)).toInt = last →
        array.value (ctx.view config) = .array (integers.map .int) →
        renderNode config partialOf
            (.loop tag ⟨name, .range start stop, reversed, most, skipped⟩ body otherwise) ctx =
          renderNode config partialOf
            (.loop tag ⟨name, .collection array, reversed, most, skipped⟩ body otherwise) ctx := by
  intro integers listed range
  have hitems : range.toList = listed.toList :=
    Items.toList_range_eq first last offset limit reversed
  have hcount : range.count = listed.toList.length := by
    rw [← hitems, Items.length_toList]
  refine ⟨⟨fun n => mem_ascending, pairwise_ascending first last⟩, hitems, hcount,
    fun register ctx => ?_, fun hlength => ?_, ?_⟩
  · rw [hcount]
    simp [startLoop, Context.remember]
  · exact Items.listed_maxLength (by rwa [List.length_map]) offset reversed
  · intro config partialOf tag name start stop array most skipped body otherwise ctx hstart hstop
      harray
    have hsame : (itemsOf ⟨name, .range start stop, reversed, most, skipped⟩
          (ctx.view config)).toList =
        (itemsOf ⟨name, .collection array, reversed, most, skipped⟩ (ctx.view config)).toList := by
      simp only [itemsOf, hstart, hstop, harray, Value.array?, Option.getD_some]
      exact Items.toList_range_eq first last _ _ reversed
    exact renderNode_loop_congr hsame rfl partialOf tag body otherwise

/-- A loop that goes down from the greatest integer but one, over all of them or over the array
that would hold them. -/
def downwards (source : LoopSource) : Node :=
  .loop "for" ⟨"i", source, true, some (.literal (.int 2)), some (.literal (.int 1))⟩
    [.output ⟨.name "i", []⟩] none

/-- Two integers are visited of the range of all, where no array could hold that range. -/
theorem range_as_listed_allIntegers (ctx : Context) :
    let least := Value.int Int64.minValue
    let greatest := Value.int Int64.maxValue
    let integers := (ascending Int64.minValue Int64.maxValue).map Value.int
    (Items.range Int64.minValue.toInt Int64.maxValue.toInt 1 (some 2) true).toList.map
        (·.toInt) = [Int64.maxValue - 1, Int64.maxValue - 2] ∧
      renderNode Config.standard (fun _ => return ())
          (downwards (.range (.literal least) (.literal greatest))) ctx =
        renderNode Config.standard (fun _ => return ())
          (downwards (.collection (.literal (.array integers)))) ctx := by
  intro least greatest integers
  obtain ⟨-, -, -, -, -, hloops⟩ :=
    range_as_listed Int64.minValue Int64.maxValue 1 (some 2) true
  refine ⟨by decide, ?_⟩
  exact hloops Config.standard _ "for" "i" _ _ _ _ _ _ none ctx rfl rfl rfl

end Stencil.Render
