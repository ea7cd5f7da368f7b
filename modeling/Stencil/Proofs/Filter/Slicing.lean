import Stencil.Proofs.Filter.Cutting
import Stencil.Proofs.Filter.Guarded

/-!
# Slicing

A slice is what stands in an array or in a text from one place up to another. Where it starts
outside, there is none.

* `slice_stretch?` — a stretch of a list has the elements between its places
* `stretch?_map` — the stretch of changed elements
* `slices_between` — slices of arrays and of texts
-/

namespace Stencil.Filter

/-! ## Places -/

/-- Where a slice starts; a negative offset counts from the end. -/
def startOf (length : Nat) (offset : Int) : Int :=
  if offset < 0 then length + offset else offset

/-- How many elements an argument asks for: one if there is no argument, and none if it is
negative. -/
def wanted (length : Option Value) : Int :=
  max (length.elim 1 fun v => v.toInt.toInt) 0

theorem startOf_natCast (length n : Nat) : startOf length n = n :=
  if_neg (by omega)

theorem wanted_nonneg (length : Option Value) : 0 ≤ wanted length :=
  Int.le_max_right ..

theorem toNat_wanted (length : Option Value) :
    (wanted length).toNat = length.elim 1 Value.toCount := by
  cases length with
  | none => rfl
  | some v => simp only [wanted, Option.elim_some, Value.toCount]; omega

/-- The elements of a list from one place up to another, which is left out, in order. -/
structure Between {α : Type} (items : List α) (start stop : Int) (part : List α) : Prop where
  length : (part.length : Int) = stop - start
  getElem? : ∀ i : Nat, start + i < stop → part[i]? = items[start.toNat + i]?

/-- What a slice of a list is: none where it starts outside, else the elements from its start on, as
many as are wanted or as there are. -/
structure Slice {α : Type} (items : List α) (offset : Int) (count : Int)
    (part? : Option (List α)) : Prop where
  eq_none_iff : part? = none ↔
    startOf items.length offset < 0 ∨ items.length < startOf items.length offset
  between : ∀ part, part? = some part →
    Between items (startOf items.length offset)
      (min (startOf items.length offset + count) items.length) part

section Stretches

variable {α β : Type} (offset : Int) (count : Nat) (items : List α)

theorem stretch?_eq :
    stretch? offset count items =
      if 0 ≤ startOf items.length offset ∧ startOf items.length offset ≤ items.length then
        some ((items.drop (startOf items.length offset).toNat).take count)
      else none := rfl

/-- What stands behind the start of a list, taken up to a number of elements. -/
theorem between_take_drop {start : Nat} (h : start ≤ items.length) :
    Between items start (min (start + count : Int) items.length)
      ((items.drop start).take count) where
  length := by
    rw [List.length_take, List.length_drop]
    omega
  getElem? i hi := by
    rw [List.getElem?_take_of_lt (by omega), List.getElem?_drop, Int.toNat_natCast]

/-- A stretch of a list has the elements between its places. -/
theorem slice_stretch? : Slice items offset count (stretch? offset count items) := by
  rw [stretch?_eq]
  by_cases hstart : 0 ≤ startOf items.length offset ∧ startOf items.length offset ≤ items.length
  · obtain ⟨start, heq⟩ := Int.eq_ofNat_of_zero_le hstart.1
    rw [if_pos hstart]
    refine ⟨?_, ?_⟩
    · simp only [reduceCtorEq, false_iff]
      omega
    · rintro part ⟨⟩
      rw [heq] at hstart ⊢
      exact between_take_drop count items (by omega)
  · rw [if_neg hstart]
    refine ⟨?_, ?_⟩
    · simp only [true_iff]
      omega
    · rintro part ⟨⟩

/-- The stretch of changed elements is the stretch, changed. -/
theorem stretch?_map (f : α → β) :
    stretch? offset count (items.map f) = (stretch? offset count items).map (List.map f) := by
  simp only [stretch?_eq, List.length_map]
  split
  · rw [← List.map_drop, ← List.map_take, Option.map_some]
  · rfl

theorem stretch?_front : stretch? 0 count items = some (items.take count) := by
  have hstart : startOf items.length 0 = 0 := startOf_natCast items.length 0
  rw [stretch?_eq, hstart, if_pos (by omega), Int.toNat_zero, List.drop_zero]

theorem stretch?_back {start : Nat} (hstart : start ≤ items.length)
    (hcount : items.length ≤ count) :
    stretch? start count items = some (items.drop start) := by
  have hlength : (items.drop start).length ≤ count := by
    rw [List.length_drop]
    omega
  rw [stretch?_eq, startOf_natCast, if_pos (by omega), Int.toNat_natCast,
    List.take_of_length_le hlength]

end Stretches

/-! ## The filter -/

/-- A call of the filter. -/
def sliceCall? (site : Site) (v offset : Value) (length : Option Value) :
    Option (Except RuntimeError Value) :=
  standardCall? "slice" site v (offset :: length.toList)

section Calls

variable (site : Site) (v offset : Value) (length : Option Value)

theorem sliceCall?_eq :
    sliceCall? site v offset length =
      some (slice.call "slice" site v (offset :: length.toList)) := by
  rw [sliceCall?, standardCall?_eq]
  rfl

theorem exists_slice_call :
    ∃ w, slice.call "slice" site v (offset :: length.toList) = .ok w := by
  cases length <;> exact ⟨_, rfl⟩

theorem sliceCall?_array (items : List Value) :
    sliceCall? site (.array items) offset length =
      some (.ok
        (((stretch? offset.toInt.toInt (wanted length).toNat items).map .array).getD .nil)) := by
  rw [sliceCall?_eq, toNat_wanted]
  cases length <;> rfl

theorem sliceCall?_string (s : String) :
    sliceCall? site (.string s) offset length =
      some (.ok (((stretch? offset.toInt.toInt (wanted length).toNat s.toList).map
        (.string <| String.ofList ·)).getD .nil)) := by
  rw [sliceCall?_eq, toNat_wanted]
  cases length <;> rfl

theorem slice_wanted {α : Type} (items : List α) :
    Slice items offset.toInt.toInt (wanted length)
      (stretch? offset.toInt.toInt (wanted length).toNat items) := by
  have hslice := slice_stretch? offset.toInt.toInt (wanted length).toNat items
  rwa [Int.toNat_of_nonneg (wanted_nonneg length)] at hslice

/-- Nothing goes wrong where the filter cuts. -/
theorem callGuarded?_slice :
    callGuarded? site v (offset :: length.toList) "slice" slice =
      some (slice.call "slice" site v (offset :: length.toList)) :=
  callGuarded?_eq (by simp [standardOperations]) fun hdate => absurd hdate (by decide)

/-- Slicing the characters of a text gives the characters of the slice. -/
theorem sliceCall?_characters (s : String) :
    sliceCall? site (texts (s.toList.map String.singleton)) offset length =
      some (.ok (((stretch? offset.toInt.toInt (wanted length).toNat s.toList).map fun cs =>
        texts (cs.map String.singleton)).getD .nil)) := by
  rw [texts, sliceCall?_array, stretch?_map, stretch?_map, Option.map_map, Option.map_map]
  rfl

end Calls

theorem join_singletons (cs : List Char) :
    String.join (cs.map String.singleton) = String.ofList cs := by
  simp [← String.toList_inj, String.toList_join, List.flatMap_map]

/-- The two slices at a place of a list. -/
theorem stretch?_at {α : Type} {k n : Int64} (hk : 0 ≤ k) (hkn : k ≤ n) {items : List α}
    (hn : n.toInt = items.length) :
    stretch? (0 : Int64).toInt (wanted (some (.int k))).toNat items =
        some (items.take k.toInt.toNat) ∧
      stretch? k.toInt (wanted (some (.int n))).toNat items = some (items.drop k.toInt.toNat) := by
  have hk' : 0 ≤ k.toInt := Int64.le_iff_toInt_le.mp hk
  have hkn' : k.toInt ≤ n.toInt := Int64.le_iff_toInt_le.mp hkn
  have hwanted (m : Int64) : wanted (some (.int m)) = max m.toInt 0 := rfl
  obtain ⟨start, hstart⟩ := Int.eq_ofNat_of_zero_le hk'
  constructor
  · rw [hwanted, Int64.toInt_zero, stretch?_front, Int.max_eq_left hk']
  · rw [hwanted, hstart, stretch?_back _ _ (by omega) (by omega), Int.toNat_natCast]

/-- **Slices are what stands between two places.** Slicing gives a value for any arguments and never
stops the program. There is no slice if it would start outside of an array or of a text, where a
negative offset counts from the end; else the slice has the elements from its start on, in order, as
many as are wanted or as there are. The slice of a text is that of its characters, put together, and
the slices in front of a place and behind it make up the whole. -/
theorem slices_between (site : Site) :
    (∀ (offset : Value) (length : Option Value),
      (∀ v, ∃ w, sliceCall? site v offset length = some (.ok w) ∧
        callGuarded? site v (offset :: length.toList) "slice" slice = some (.ok w)) ∧
      (∀ items : List Value, ∃ part?, Slice items offset.toInt.toInt (wanted length) part? ∧
        sliceCall? site (.array items) offset length =
          some (.ok ((part?.map .array).getD .nil))) ∧
      (∀ s : String, ∃ part?, Slice s.toList offset.toInt.toInt (wanted length) part? ∧
        sliceCall? site (.string s) offset length =
          some (.ok ((part?.map (.string <| String.ofList ·)).getD .nil))) ∧
      (∀ s : String, ∃ part? : Option (List String),
        sliceCall? site (texts (s.toList.map String.singleton)) offset length =
          some (.ok ((part?.map texts).getD .nil)) ∧
        sliceCall? site (.string s) offset length =
          some (.ok ((part?.map (.string <| String.join ·)).getD .nil)))) ∧
    (∀ k n : Int64, 0 ≤ k → k ≤ n →
      (∀ items : List Value, n.toInt = items.length → ∃ front back, front ++ back = items ∧
        sliceCall? site (.array items) (.int 0) (some (.int k)) = some (.ok (.array front)) ∧
        sliceCall? site (.array items) (.int k) (some (.int n)) = some (.ok (.array back))) ∧
      (∀ s : String, n.toInt = s.length → ∃ front back, front ++ back = s ∧
        sliceCall? site (.string s) (.int 0) (some (.int k)) = some (.ok (.string front)) ∧
        sliceCall? site (.string s) (.int k) (some (.int n)) = some (.ok (.string back)))) := by
  refine ⟨fun offset length => ⟨fun v => ?_, fun items => ?_, fun s => ?_, fun s => ?_⟩,
    fun k n hk hkn => ⟨fun items hn => ?_, fun s hn => ?_⟩⟩
  · obtain ⟨w, hw⟩ := exists_slice_call site v offset length
    exact ⟨w, by rw [sliceCall?_eq, hw], by rw [callGuarded?_slice, hw]⟩
  · exact ⟨_, slice_wanted offset length items, sliceCall?_array ..⟩
  · exact ⟨_, slice_wanted offset length s.toList, sliceCall?_string ..⟩
  · refine ⟨(stretch? offset.toInt.toInt (wanted length).toNat s.toList).map
      (List.map String.singleton), ?_, ?_⟩
    · rw [sliceCall?_characters, Option.map_map]
      rfl
    · rw [sliceCall?_string, Option.map_map]
      simp only [Function.comp_def, join_singletons]
  · obtain ⟨hfront, hback⟩ := stretch?_at hk hkn hn
    refine ⟨_, _, List.take_append_drop k.toInt.toNat items, ?_, ?_⟩
    · rw [sliceCall?_array, Value.toInt, hfront]
      rfl
    · rw [sliceCall?_array, Value.toInt, hback]
      rfl
  · have hlength : n.toInt = s.toList.length := by rw [hn, String.length_toList]
    obtain ⟨hfront, hback⟩ := stretch?_at hk hkn hlength
    refine ⟨String.ofList (s.toList.take k.toInt.toNat),
      String.ofList (s.toList.drop k.toInt.toNat), ?_, ?_, ?_⟩
    · rw [← String.ofList_append, List.take_append_drop, String.ofList_toList]
    · rw [sliceCall?_string, Value.toInt, hfront]
      rfl
    · rw [sliceCall?_string, Value.toInt, hback]
      rfl

end Stencil.Filter
