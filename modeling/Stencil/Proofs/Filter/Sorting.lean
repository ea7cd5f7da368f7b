import Mathlib.Data.Prod.Lex
import Mathlib.Data.String.Basic
import Stencil.Proofs.Decimal.Nearest
import Stencil.Proofs.Filter.Calls

/-!
# Sorting

Any two values compare, also values of different kinds: by kind first, then by number, then by
text. So the order of `sort` is one of all values (`Std.TransCmp order`), and so is the order of
items by what a key leads to in them.

A sort may stop the program where its comparison contradicts itself (`sortBy?`). That never happens
with an order, and what comes out then is the items in order, where items that compare equal stay in
the order they were in.

* `Grade`, `order_isLE_iff` — where a value stands among all values
* `consistent_of_transCmp` — an order does not contradict itself
* `filter_mergeSort` — sorting is stable
* `sort_sorts` — the filter sorts
-/

namespace Stencil.Filter

/-! ## The order of values -/

/-- The number that a value is sorted by among the numbers. -/
def number (v : Value) : Decimal :=
  if rank v = 2 then v.toDecimal else .zero

/-- The text that a value is sorted by among the strings. -/
def letters (v : Value) : String :=
  v.string?.getD ""

theorem order_of_rank_ne {a b : Value} (h : rank a ≠ rank b) :
    order a b = compare (rank a) (rank b) := by
  have hnone : a.compare? b = none := by
    cases a <;> cases b <;> first | rfl | exact absurd rfl h
  have hnumbers : ¬ (rank a = 2 ∧ rank b = 2) := fun ⟨ha, hb⟩ => h (ha.trans hb.symm)
  simp only [order, hnone, hnumbers, if_false]

theorem order_of_numbers {a b : Value} (ha : rank a = 2) (hb : rank b = 2) :
    order a b = a.toDecimal.compare b.toDecimal := by
  cases a <;> cases ha <;> cases b <;> cases hb
  · exact (Decimal.compare_ofInt64 ..).symm
  all_goals rfl

/-- Values of one kind that are no numbers are ordered by their texts, if they are strings. -/
theorem order_of_rank_eq {a b : Value} (hrank : rank a = rank b) (hnumber : rank a ≠ 2) :
    order a b = compare (letters a) (letters b) := by
  have hempty : .eq = compare "" "" := Std.ReflOrd.compare_self.symm
  match a, b, hrank with
  | .string s, .string t, _ => rfl
  | .nil, .nil, _ | .bool _, .bool _, _ | .array _, .array _, _ => exact hempty
  | .dictionary _, .dictionary _, _ | .drop _, .drop _, _ => exact hempty
  | .int _, _, _ | .decimal _, _, _ => exact absurd rfl hnumber

theorem letters_of_number {v : Value} (h : rank v = 2) : letters v = "" := by
  cases v <;> cases h <;> rfl

/-- Values are ordered by kind first, then by number, then by text. -/
theorem order_eq (a b : Value) :
    order a b =
      compareLex (compareOn rank)
        (compareLex (fun a b => (number a).compare (number b)) (compareOn letters)) a b := by
  simp only [compareLex, compareOn]
  by_cases hrank : rank a = rank b
  · rw [hrank, Std.ReflOrd.compare_self, Ordering.eq_then]
    by_cases hnumber : rank a = 2
    · have hnumber' : rank b = 2 := hrank ▸ hnumber
      rw [order_of_numbers hnumber hnumber', number, number, if_pos hnumber, if_pos hnumber',
        letters_of_number hnumber, letters_of_number hnumber', Std.ReflOrd.compare_self,
        Ordering.then_eq]
    · have hnumber' : rank b ≠ 2 := hrank ▸ hnumber
      have hzero : Decimal.zero.compare .zero = .eq := rfl
      rw [order_of_rank_eq hrank hnumber, number, number, if_neg hnumber, if_neg hnumber', hzero,
        Ordering.eq_then]
  · rw [order_of_rank_ne hrank]
    cases hkinds : compare (rank a) (rank b) with
    | eq => exact absurd (Std.compare_eq_iff_eq.mp hkinds) hrank
    | lt | gt => rfl

/-- Where a value stands among all values: what kind it is of, where the two kinds of numbers are
one, which number it is and which text. -/
abbrev Grade := ℕ ×ₗ ℚ ×ₗ String

/-- The grade of a value. -/
def Grade.of : Value → Grade
  | .nil => toLex (0, toLex (0, ""))
  | .bool _ => toLex (1, toLex (0, ""))
  | .int n => toLex (2, toLex (n.toInt, ""))
  | .decimal d => toLex (2, toLex (d.value, ""))
  | .string s => toLex (3, toLex (0, s))
  | .array _ => toLex (4, toLex (0, ""))
  | .dictionary _ => toLex (5, toLex (0, ""))
  | .drop _ => toLex (6, toLex (0, ""))

theorem Grade.of_eq (v : Value) :
    Grade.of v = toLex (rank v, toLex ((number v).value, letters v)) := by
  have hzero : Decimal.zero.value = 0 := by simp [Decimal.value, Decimal.zero, Decimal.signed]
  cases v with
  | int n =>
    have hvalue : (number (.int n)).value = n.toInt := Decimal.value_ofInt64 n
    rw [hvalue]
    rfl
  | decimal d => rfl
  | _ =>
    rw [number, if_neg (by simp [rank]), hzero]
    rfl

/-- A value is not sorted behind another exactly if its grade is not above the grade of the
other. -/
theorem order_isLE_iff (a b : Value) : (order a b).isLE ↔ Grade.of a ≤ Grade.of b := by
  have hletters : (compare (letters a) (letters b)).isLE ↔ letters a ≤ letters b :=
    Std.LawfulBCmp.isLE_iff_le
  rw [order_eq, Grade.of_eq, Grade.of_eq, Prod.Lex.toLex_le_toLex, Prod.Lex.toLex_le_toLex]
  simp only [compareLex, compareOn, Ordering.isLE_then_iff_or, Nat.compare_eq_lt,
    Std.compare_eq_iff_eq, Decimal.compare_eq_lt_iff, ← Decimal.same_iff_compare,
    Decimal.same_iff_value, hletters]

/-- An order of keys is one of the items that have them. -/
theorem transCmp_on {α β : Type} (cmp : β → β → Ordering) [Std.TransCmp cmp] (key : α → β) :
    Std.TransCmp fun a b => cmp (key a) (key b) where
  eq_swap := Std.OrientedCmp.eq_swap
  isLE_trans := Std.TransCmp.isLE_trans

instance : Std.TransCmp fun a b => (number a).compare (number b) :=
  transCmp_on Decimal.compare number

/-- The order of values is reflexive, transitive and total on all kinds together, and turns around
with its sides. -/
instance : Std.TransCmp order := by
  rw [funext fun a => funext (order_eq a)]
  infer_instance

/-! ## Sorting by an order -/

section Sorting

variable {α : Type} (cmp : α → α → Ordering)

/-- Whether a comparison never contradicts itself on some items. -/
def Consistent (items : List α) : Prop :=
  ∀ a ∈ items, ∀ b ∈ items,
    cmp b a = (cmp a b).swap ∧ ∀ c ∈ items, cmp b c = cmp a b → cmp a c = cmp a b

instance (items : List α) : Decidable (Consistent cmp items) :=
  inferInstanceAs (Decidable (∀ a ∈ items, ∀ b ∈ items,
    cmp b a = (cmp a b).swap ∧ ∀ c ∈ items, cmp b c = cmp a b → cmp a c = cmp a b))

/-- The items in order. Where the comparison contradicts itself, a sort may stop the program, and
there is no result. -/
def sortBy? (items : List α) : Option (List α) :=
  if Consistent cmp items then some (items.mergeSort fun a b => (cmp a b).isLE) else none

variable [Std.TransCmp cmp]

/-- An order does not contradict itself. -/
theorem consistent_of_transCmp (items : List α) : Consistent cmp items := by
  refine fun a _ b _ => ⟨Std.OrientedCmp.eq_swap, fun c _ hbc => ?_⟩
  cases hab : cmp a b with
  | lt => exact Std.TransCmp.lt_trans hab (hbc.trans hab)
  | eq => exact Std.TransCmp.eq_trans hab (hbc.trans hab)
  | gt => exact Std.TransCmp.gt_trans hab (hbc.trans hab)

theorem sortBy?_eq (items : List α) :
    sortBy? cmp items = some (items.mergeSort fun a b => (cmp a b).isLE) :=
  if_pos (consistent_of_transCmp cmp items)

theorem isLE_total (a b : α) : ((cmp a b).isLE || (cmp b a).isLE) = true := by
  rw [@Std.OrientedCmp.eq_swap _ cmp _ b a]
  cases cmp a b <;> rfl

theorem pairwise_mergeSort (items : List α) :
    (items.mergeSort fun a b => (cmp a b).isLE).Pairwise fun a b => (cmp a b).isLE :=
  List.pairwise_mergeSort (fun _ _ _ => Std.TransCmp.isLE_trans) (isLE_total cmp) items

/-- Sorting is stable: items that compare equal stay in the order they were in. -/
theorem filter_mergeSort (a : α) (items : List α) :
    (items.mergeSort fun a b => (cmp a b).isLE).filter (cmp a · == .eq) =
      items.filter (cmp a · == .eq) := by
  have hperm := List.mergeSort_perm items fun a b => (cmp a b).isLE
  -- The items that compare equal are in order as they are, so they are not moved to each other.
  have hequal : (items.filter (cmp a · == .eq)).Pairwise fun b c => (cmp b c).isLE := by
    rw [List.pairwise_filter]
    refine List.pairwise_of_forall fun b c hb hc => ?_
    have hba : cmp b a = .eq := Std.OrientedCmp.eq_symm (beq_iff_eq.mp hb)
    rw [Std.TransCmp.eq_trans hba (beq_iff_eq.mp hc)]
    rfl
  have hsublist := List.sublist_mergeSort (fun _ _ _ => Std.TransCmp.isLE_trans) (isLE_total cmp)
    hequal List.filter_sublist
  have hfiltered := hsublist.filter (cmp a · == .eq)
  simp only [List.filter_filter, Bool.and_self] at hfiltered
  exact (hfiltered.eq_of_length (hperm.filter _).length_eq.symm).symm

end Sorting

/-! ## The filter -/

/-- The order in which items are sorted: that of themselves, or of what a property leads to in
them. -/
def sortOrder (site : Site) (property : Option Value) (a b : Value) : Ordering :=
  match property with
  | none => order a b
  | some property => order (site.lookup a property) (site.lookup b property)

theorem sortOrder_eq (site : Site) (property : Option Value) :
    sortOrder site property =
      fun a b => order (sortKey site property a) (sortKey site property b) := by
  cases property <;> rfl

instance (site : Site) (property : Option Value) : Std.TransCmp (sortOrder site property) := by
  rw [sortOrder_eq]
  exact transCmp_on order (sortKey site property)

theorem standardCall?_sort (site : Site) (v : Value) (property : Option Value) :
    standardCall? "sort" site v property.toList =
      some (.ok (.array (v.toArray.mergeSort fun a b => (sortOrder site property a b).isLE))) := by
  have hlookup : standardOperations.reverse.lookup "sort" = some sort := rfl
  rw [standardCall?_eq, hlookup, sortOrder_eq]
  cases property <;> rfl

/-- The items in an order, in which the sort finds no contradiction: the same items, none of them
behind one that it comes before, and those that compare equal in the order they were in. -/
structure Sorted (cmp : Value → Value → Ordering) (items sorted : List Value) : Prop where
  sort : sortBy? cmp items = some sorted
  perm : sorted.Perm items
  pairwise : sorted.Pairwise fun a b => (cmp a b).isLE
  stable : ∀ a, sorted.filter (cmp a · == .eq) = items.filter (cmp a · == .eq)

theorem sorted_mergeSort (cmp : Value → Value → Ordering) [Std.TransCmp cmp]
    (items : List Value) : Sorted cmp items (items.mergeSort fun a b => (cmp a b).isLE) where
  sort := sortBy?_eq cmp items
  perm := List.mergeSort_perm _ _
  pairwise := pairwise_mergeSort cmp items
  stable a := filter_mergeSort cmp a items

theorem exists_sorted (site : Site) (v : Value) (property : Option Value) :
    ∃ items, standardCall? "sort" site v property.toList = some (.ok (.array items)) ∧
      Sorted (sortOrder site property) v.toArray items ∧
      standardCall? "sort" site (.array items) property.toList = some (.ok (.array items)) := by
  have hsorted := sorted_mergeSort (sortOrder site property) v.toArray
  refine ⟨_, standardCall?_sort site v property, hsorted, ?_⟩
  rw [standardCall?_sort, Value.toArray, List.mergeSort_of_pairwise hsorted.pairwise]

/-- **Sorting sorts.** Values are ordered by kind: nil, truth values, numbers, strings, arrays,
dictionaries, drops; numbers by what they are and strings by their characters. This order is
reflexive, transitive and total, and turns around with its sides. Whatever is sorted, the sort does
not stop the program: it gives the items of the value in this order of themselves, or of what a
property leads to in them; items that compare equal stay in the order they were in, and sorting
again changes nothing. -/
theorem sort_sorts (site : Site) (v : Value) :
    ((∀ a b, (order a b).isLE ↔ Grade.of a ≤ Grade.of b) ∧
        (∀ a, order a a = .eq) ∧ (∀ a b, order b a = (order a b).swap) ∧
        (∀ a b, (order a b).isLE ∨ (order b a).isLE) ∧
        ∀ a b c, (order a b).isLE → (order b c).isLE → (order a c).isLE) ∧
      (∃ items, standardCall? "sort" site v [] = some (.ok (.array items)) ∧
        Sorted order v.toArray items ∧
        standardCall? "sort" site (.array items) [] = some (.ok (.array items))) ∧
      ∀ property, ∃ items, standardCall? "sort" site v [property] = some (.ok (.array items)) ∧
        Sorted (fun a b => order (site.lookup a property) (site.lookup b property)) v.toArray
          items ∧
        standardCall? "sort" site (.array items) [property] = some (.ok (.array items)) :=
  ⟨⟨order_isLE_iff, fun a => Std.ReflCmp.compare_self, fun a b => Std.OrientedCmp.eq_swap,
      fun a b => by simpa using isLE_total order a b, fun a b c => Std.TransCmp.isLE_trans⟩,
    exists_sorted site v none, fun property => exists_sorted site v (some property)⟩

/-- Values of several kinds that are not in order, two of which are the same number. -/
def mixed : List Value :=
  [.string "b", .int 2, .decimal ⟨false, 15, 1, by decide, by decide⟩, .nil, .array [], .bool true,
    .string "a", .decimal ⟨false, 200000, 5, by decide, by decide⟩]

/-- Dictionaries whose prices are not in order, one of which has none. -/
def prices : List Value :=
  [.dictionary [("price", .string "free")], .dictionary [("price", .int 2)], .dictionary [],
    .dictionary [("price", .bool false)]]

theorem sort_sorts_mixed :
    standardCall? "sort" ⟨.none, {}⟩ (.array mixed) [] = some (.ok (.array
        [.nil, .bool true, .decimal ⟨false, 15, 1, by decide, by decide⟩, .int 2,
          .decimal ⟨false, 200000, 5, by decide, by decide⟩, .string "a", .string "b", .array []])) ∧
      standardCall? "sort" ⟨.none, {}⟩ (.array prices) [.string "price"] = some (.ok (.array
        [.dictionary [], .dictionary [("price", .bool false)], .dictionary [("price", .int 2)],
          .dictionary [("price", .string "free")]])) := by
  obtain ⟨-, ⟨items, hcall, hitems, -⟩, -⟩ := sort_sorts ⟨.none, {}⟩ (.array mixed)
  obtain ⟨-, -, hproperty⟩ := sort_sorts ⟨.none, {}⟩ (.array prices)
  obtain ⟨priced, hcall', hpriced, -⟩ := hproperty (.string "price")
  have hsort : sortBy? order mixed = some
      [.nil, .bool true, .decimal ⟨false, 15, 1, by decide, by decide⟩, .int 2,
        .decimal ⟨false, 200000, 5, by decide, by decide⟩, .string "a", .string "b", .array []] := by
    rw [sortBy?_eq]
    simp +decide [mixed, List.mergeSort, List.MergeSort.Internal.splitInTwo]
  have hsort' : sortBy? (fun a b => order (Site.lookup ⟨.none, {}⟩ a (.string "price"))
      (Site.lookup ⟨.none, {}⟩ b (.string "price"))) prices = some
      [.dictionary [], .dictionary [("price", .bool false)], .dictionary [("price", .int 2)],
        .dictionary [("price", .string "free")]] := by
    rw [@sortBy?_eq _ _ (transCmp_on order _)]
    simp +decide [prices, List.mergeSort, List.MergeSort.Internal.splitInTwo]
  obtain rfl := Option.some.inj (hsort.symm.trans hitems.sort)
  obtain rfl := Option.some.inj (hsort'.symm.trans hpriced.sort)
  exact ⟨hcall, hcall'⟩

end Stencil.Filter
