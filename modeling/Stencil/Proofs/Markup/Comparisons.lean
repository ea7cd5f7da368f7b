import Stencil.Markup.View
import Stencil.Proofs.Value.Equality

/-!
# Comparing values

Comparisons cannot tell equal values apart, and within the kinds that have an order they agree with
each other.

* `Operator.holds_congr` — equal values compare alike, on either side
* `compare?_eq_some_eq_iff` — values of a kind that has an order are equal exactly if they compare
  equal
* `equal_values_alike` — what equality and the order of values are
-/

namespace Stencil.Markup

/-! ## Equal values -/

theorem compare?_canonical (v w : Value) : v.canonical.compare? w.canonical = v.compare? w := by
  cases v with
  | decimal a =>
    cases w with
    | decimal b =>
      simp only [Value.canonical, Value.compare?, Decimal.compare_congr_left a.same_normalize,
        Decimal.compare_congr_right b.same_normalize]
    | _ => rfl
  | int a | string a => cases w <;> rfl
  | _ => rfl

theorem containsValue_canonical (v w : Value) :
    containsValue v.canonical w.canonical = containsValue v w := by
  cases v with
  | array items =>
    simp only [Value.canonical, containsValue, Value.canonicalItems_eq, List.any_map,
      Function.comp_def, Value.same_canonical_left, Value.same_canonical_right]
  | dictionary entries =>
    simp only [Value.canonical, containsValue, Bindings.contains, Value.find?_canonicalEntries,
      Value.text_canonical, Option.isSome_map]
  | string s => simp only [Value.canonical, containsValue, Value.text_canonical]
  | _ => rfl

theorem Operator.holds_canonical (operator : Operator) (v w : Value) :
    operator.holds v.canonical w.canonical = operator.holds v w := by
  cases operator <;>
    simp only [holds, Value.same_canonical_left, Value.same_canonical_right, compare?_canonical,
      containsValue_canonical]

/-- Equal values compare alike, on either side. -/
theorem Operator.holds_congr {v v' w w' : Value} (h : v.same v') (h' : w.same w')
    (operator : Operator) : operator.holds v w = operator.holds v' w' := by
  rw [← operator.holds_canonical v, ← operator.holds_canonical v',
    (Value.same_iff_canonical ..).mp h, (Value.same_iff_canonical ..).mp h']

/-! ## Order -/

/-- Two values have an order: both are integers, both are decimals, or both are strings. -/
inductive Comparable : Value → Value → Prop where
  | int (m n : Int64) : Comparable (.int m) (.int n)
  | decimal (a b : Decimal) : Comparable (.decimal a) (.decimal b)
  | string (s t : String) : Comparable (.string s) (.string t)

namespace Comparable

variable {a b c : Value}

theorem of_compare? {o : Ordering} (h : a.compare? b = some o) : Comparable a b := by
  cases a with
  | int m =>
    cases b with
    | int n => exact .int m n
    | _ => cases h
  | decimal x =>
    cases b with
    | decimal y => exact .decimal x y
    | _ => cases h
  | string s =>
    cases b with
    | string t => exact .string s t
    | _ => cases h
  | _ => cases h

/-- Values that have an order compare in one way, which turns around with the sides, and they
compare equal if they are. -/
theorem exists_compare? (h : Comparable a b) :
    ∃ o, a.compare? b = some o ∧ b.compare? a = some o.swap ∧ (o = .eq ↔ a.same b) := by
  cases h with
  | int m n =>
    refine ⟨_, rfl, congrArg some Std.OrientedCmp.eq_swap, ?_⟩
    rw [Std.compare_eq_iff_eq, Value.same, beq_iff_eq, Int64.toInt_inj]
  | decimal x y =>
    exact ⟨_, rfl, congrArg some Std.OrientedCmp.eq_swap, Decimal.same_iff_compare.symm⟩
  | string s t =>
    refine ⟨_, rfl, congrArg some Std.OrientedCmp.eq_swap, ?_⟩
    rw [Std.compare_eq_iff_eq, Value.same, beq_iff_eq]

theorem lt_trans (hab : a.compare? b = some .lt) (hbc : b.compare? c = some .lt) :
    a.compare? c = some .lt := by
  cases of_compare? hab with
  | int | decimal | string =>
    cases of_compare? hbc
    exact congrArg some (Std.TransCmp.lt_trans (Option.some.inj hab) (Option.some.inj hbc))

end Comparable

theorem compare?_swap (a b : Value) : b.compare? a = (a.compare? b).map Ordering.swap := by
  cases hab : a.compare? b with
  | some o =>
    obtain ⟨o', hab', hba, -⟩ := (Comparable.of_compare? hab).exists_compare?
    rw [hba, Option.map_some, Option.some.inj (hab.symm.trans hab')]
  | none =>
    cases hba : b.compare? a with
    | none => rfl
    | some o =>
      obtain ⟨o', -, hab', -⟩ := (Comparable.of_compare? hba).exists_compare?
      cases hab.symm.trans hab'

/-- A value that has an order compares equal to the values that it is equal to. -/
theorem compare?_eq_some_eq_iff (a b : Value) :
    a.compare? b = some .eq ↔ Comparable a a ∧ a.same b := by
  constructor
  · intro h
    have hab := Comparable.of_compare? h
    obtain ⟨o, ho, -, hsame⟩ := hab.exists_compare?
    refine ⟨?_, hsame.mp (Option.some.inj (ho.symm.trans h))⟩
    cases hab with
    | int m n => exact .int m m
    | decimal x y => exact .decimal x x
    | string s t => exact .string s s
  · rintro ⟨ha, hsame⟩
    have heq : a.compare? a = a.compare? b := by
      rw [← compare?_canonical a, ← compare?_canonical a b, (Value.same_iff_canonical a b).mp hsame]
    obtain ⟨o, ho, -, hrefl⟩ := ha.exists_compare?
    rw [← heq, ho, hrefl.mpr (Value.same_equivalence.refl a)]

/-- The comparisons by order turn around with their sides, and a value is at most another if it is
less or equal to it and has an order. -/
theorem Operator.holds_order (a b : Value) :
    Operator.less.holds a b = Operator.greater.holds b a ∧
      Operator.lessOrEqual.holds a b = Operator.greaterOrEqual.holds b a ∧
      (Operator.lessOrEqual.holds a b ↔
        Operator.less.holds a b ∨ Comparable a a ∧ Operator.equal.holds a b) := by
  simp only [holds]
  rw [← compare?_eq_some_eq_iff, compare?_swap a b]
  cases a.compare? b with
  | none => decide
  | some o => cases o <;> decide

/-- **Equal values are alike.** Equality is an equivalence: arrays are equal item by item,
dictionaries if the same names were bound at last to equal values, whatever the order of binding,
decimals by their values, and drops if they are the same. What a value counts as, what is written
for it, what keys lead to in it, and how it compares on either side are the same for equal values,
up to equality. The order of values is a strict one of all integers, of all decimals and of all
strings, where values compare equal exactly if they are, and other values have none; the comparison
operators agree with it and with each other. -/
theorem equal_values_alike :
    (Equivalence fun a b : Value => a.same b = true) ∧
    ((∀ xs ys, (Value.array xs).same (.array ys) ↔
        List.Forall₂ (fun v w => v.same w = true) xs ys) ∧
      (∀ pairs pairs' : List (String × Value),
        (Value.dictionary (Bindings.ofList pairs)).same (.dictionary (Bindings.ofList pairs')) ↔
          ∀ name, Option.Rel (fun v w => v.same w = true) (pairs.reverse.lookup name)
            (pairs'.reverse.lookup name)) ∧
      (∀ x y, (Value.decimal x).same (.decimal y) ↔ x.value = y.value) ∧
      ∀ h k, (Value.drop h).same (.drop k) ↔ h = k) ∧
    (∀ a b : Value, a.same b →
      a.truthy = b.truthy ∧ a.size = b.size ∧ a.toInt = b.toInt ∧
      a.toDecimal.value = b.toDecimal.value ∧ Value.sameItems a.toArray b.toArray ∧
      (∀ settings, a.render settings = b.render settings) ∧
      (∀ objects keys key, (a.lookup objects keys key).same (b.lookup objects keys key)) ∧
      ∀ (operator : Operator) (c : Value),
        operator.holds a c = operator.holds b c ∧ operator.holds c a = operator.holds c b) ∧
    ((∀ a b, Comparable a b → ∃ o, a.compare? b = some o ∧ b.compare? a = some o.swap ∧
        (o = .eq ↔ a.same b)) ∧
      (∀ a b, ¬ Comparable a b → a.compare? b = none) ∧
      ∀ a b c : Value, a.compare? b = some .lt → b.compare? c = some .lt →
        a.compare? c = some .lt) ∧
    ∀ a b, Operator.notEqual.holds a b = !Operator.equal.holds a b ∧
      Operator.less.holds a b = Operator.greater.holds b a ∧
      Operator.lessOrEqual.holds a b = Operator.greaterOrEqual.holds b a ∧
      (Operator.lessOrEqual.holds a b ↔
        Operator.less.holds a b ∨ Comparable a a ∧ Operator.equal.holds a b) := by
  refine ⟨Value.same_equivalence, ⟨Value.same_array_iff, fun pairs pairs' => ?_,
    fun x y => Decimal.same_iff_value, fun h k => beq_iff_eq⟩, fun a b h => ?_,
    ⟨fun a b => Comparable.exists_compare?, fun a b h => ?_, fun a b c => Comparable.lt_trans⟩,
    fun a b => ⟨rfl, Operator.holds_order a b⟩⟩
  · rw [Value.same_dictionary_iff (Bindings.ordered_ofList _) (Bindings.ordered_ofList _)]
    simp only [Bindings.find?_ofList]
  · have hrefl (c : Value) : c.same c := Value.same_equivalence.refl c
    refine ⟨Value.eq_of_same Value.truthy_canonical h, Value.eq_of_same Value.size_canonical h,
      Value.eq_of_same Value.toInt_canonical h,
      Value.eq_of_same (f := (·.toDecimal.value)) Value.value_toDecimal_canonical h, ?_,
      fun settings => Value.eq_of_same (f := (·.render settings)) (·.render_canonical settings) h,
      fun objects keys key => ?_, fun operator c =>
        ⟨operator.holds_congr h (hrefl c), operator.holds_congr (hrefl c) h⟩⟩
    · rw [Value.sameItems_iff_canonical]
      exact Value.eq_of_same (f := (Value.canonicalItems ·.toArray)) Value.toArray_canonical h
    · rw [Value.same_iff_canonical]
      exact Value.eq_of_same (f := fun v => (v.lookup objects keys key).canonical)
        (·.lookup_canonical objects keys key) h
  · exact Option.eq_none_iff_forall_ne_some.mpr fun o ho => h (Comparable.of_compare? ho)

end Stencil.Markup
