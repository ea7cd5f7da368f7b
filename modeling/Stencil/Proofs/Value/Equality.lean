import Mathlib.Data.List.Forall2
import Mathlib.Data.List.GetD
import Stencil.Proofs.Bindings
import Stencil.Proofs.Settings
import Stencil.Value.Lookup
import Stencil.Value.Number
import Stencil.Value.Text

/-!
# Equal values

Of the values that are equal to each other one is canonical: that without zeros at the end of any
of its decimals. Two values are equal exactly if they have the same canonical one
(`same_iff_canonical`), so equality is an equivalence, and whatever can be told from the canonical
value is the same for equal values.

* `same_equivalence` — equality is an equivalence
* `same_array_iff`, `same_dictionary_iff` — arrays are compared item by item, and dictionaries name
  by name
* `truthy_canonical` and the lemmas behind it — what the canonical value tells
-/

namespace Stencil

namespace Decimal

theorem normalize_eq_iff {a b : Decimal} : a.normalize = b.normalize ↔ a.same b := by
  rw [same_iff_value]
  refine ⟨fun h => ?_, normalize_eq_of_value⟩
  rw [← value_normalize a, h, value_normalize]

/-- Zeros at the end are cut off as all digits behind the point are. -/
theorem truncated_normalize (d : Decimal) : d.normalize.truncated = d.truncated := by
  have hpow : (10 : Int) ^ d.scale =
      10 ^ d.normalize.scale * 10 ^ (d.scale - d.normalize.scale) := by
    rw [← Int.pow_add, Nat.add_sub_cancel' (normalize_scale_le d)]
  rw [truncated, truncated, ← normalize_signed_mul d, hpow,
    Int.mul_tdiv_mul_of_pos_left _ _ (Int.pow_pos (by decide))]

end Decimal

namespace Value

/-! ## Canonical values -/

mutual

/-- The value without zeros at the end of its decimals. -/
def canonical : Value → Value
  | .decimal d => .decimal d.normalize
  | .array items => .array (canonicalItems items)
  | .dictionary entries => .dictionary (canonicalEntries entries)
  | v => v

/-- The items of an array without zeros at the end of their decimals. -/
def canonicalItems : List Value → List Value
  | [] => []
  | v :: rest => canonical v :: canonicalItems rest

/-- The entries of a dictionary without zeros at the end of their decimals. -/
def canonicalEntries : List (String × Value) → List (String × Value)
  | [] => []
  | (name, v) :: rest => (name, canonical v) :: canonicalEntries rest

end

mutual

/-- Values are equal if they have the same canonical value. -/
theorem same_iff_canonical (v w : Value) : v.same w ↔ v.canonical = w.canonical := by
  match v with
  | .array xs =>
    cases w with
    | array ys => simp only [same, canonical, array.injEq, sameItems_iff_canonical xs ys]
    | _ => simp [same, canonical]
  | .dictionary xs =>
    cases w with
    | dictionary ys =>
      simp only [same, canonical, dictionary.injEq, sameEntries_iff_canonical xs ys]
    | _ => simp [same, canonical]
  | .decimal a =>
    cases w with
    | decimal b => simp only [same, canonical, decimal.injEq, Decimal.normalize_eq_iff]
    | _ => simp [same, canonical]
  | .nil | .bool a | .string a | .int a | .drop a => cases w <;> simp [same, canonical]

/-- Lists of values are equal if they have the same canonical values. -/
theorem sameItems_iff_canonical (xs ys : List Value) :
    sameItems xs ys ↔ canonicalItems xs = canonicalItems ys := by
  match xs, ys with
  | [], [] | [], _ :: _ | _ :: _, [] => simp [sameItems, canonicalItems]
  | x :: xs, y :: ys =>
    simp only [sameItems, canonicalItems, Bool.and_eq_true, List.cons.injEq,
      same_iff_canonical x y, sameItems_iff_canonical xs ys]

/-- Lists of entries are equal if they have the same canonical entries. -/
theorem sameEntries_iff_canonical (xs ys : List (String × Value)) :
    sameEntries xs ys ↔ canonicalEntries xs = canonicalEntries ys := by
  match xs, ys with
  | [], [] | [], _ :: _ | _ :: _, [] => simp [sameEntries, canonicalEntries]
  | (k, x) :: xs, (l, y) :: ys =>
    simp only [sameEntries, canonicalEntries, Bool.and_eq_true, List.cons.injEq, Prod.mk.injEq,
      beq_iff_eq, same_iff_canonical x y, sameEntries_iff_canonical xs ys]

end

/-- Equality is an equivalence. -/
theorem same_equivalence : Equivalence fun v w : Value => v.same w = true := by
  simp only [same_iff_canonical]
  exact ⟨fun _ => rfl, Eq.symm, Eq.trans⟩

theorem canonicalItems_eq (items : List Value) : canonicalItems items = items.map canonical := by
  induction items with
  | nil => rfl
  | cons v rest ih => rw [canonicalItems, ih, List.map_cons]

theorem canonicalEntries_eq (entries : List (String × Value)) :
    canonicalEntries entries = entries.map fun (name, v) => (name, v.canonical) := by
  induction entries with
  | nil => rfl
  | cons entry rest ih => rw [canonicalEntries, ih, List.map_cons]

mutual

theorem canonical_canonical (v : Value) : v.canonical.canonical = v.canonical := by
  match v with
  | .array items => simp only [canonical, canonicalItems_canonicalItems items]
  | .dictionary entries => simp only [canonical, canonicalEntries_canonicalEntries entries]
  | .decimal d => simp only [canonical, Decimal.normalize_normalize]
  | .nil | .bool _ | .string _ | .int _ | .drop _ => rfl

theorem canonicalItems_canonicalItems (items : List Value) :
    canonicalItems (canonicalItems items) = canonicalItems items := by
  match items with
  | [] => rfl
  | v :: rest =>
    simp only [canonicalItems, canonical_canonical v, canonicalItems_canonicalItems rest]

theorem canonicalEntries_canonicalEntries (entries : List (String × Value)) :
    canonicalEntries (canonicalEntries entries) = canonicalEntries entries := by
  match entries with
  | [] => rfl
  | (name, v) :: rest =>
    simp only [canonicalEntries, canonical_canonical v, canonicalEntries_canonicalEntries rest]

end

theorem same_canonical_left (v w : Value) : v.canonical.same w = v.same w := by
  rw [Bool.eq_iff_iff, same_iff_canonical, same_iff_canonical, canonical_canonical]

theorem same_canonical_right (v w : Value) : v.same w.canonical = v.same w := by
  rw [Bool.eq_iff_iff, same_iff_canonical, same_iff_canonical, canonical_canonical]

/-! ## Kinds -/

theorem sameItems_iff_forall₂ (xs ys : List Value) :
    sameItems xs ys ↔ List.Forall₂ (fun v w => v.same w = true) xs ys := by
  match xs, ys with
  | [], [] | [], _ :: _ | _ :: _, [] => simp [sameItems]
  | x :: xs, y :: ys =>
    rw [sameItems, Bool.and_eq_true, List.forall₂_cons, sameItems_iff_forall₂ xs ys]

/-- Arrays are equal if their items are, one by one. -/
theorem same_array_iff (xs ys : List Value) :
    (array xs).same (array ys) ↔ List.Forall₂ (fun v w => v.same w = true) xs ys := by
  rw [same, sameItems_iff_forall₂]

theorem find?_canonicalEntries (entries : List (String × Value)) (name : String) :
    Bindings.find? (canonicalEntries entries) name =
      (Bindings.find? entries name).map canonical := by
  induction entries with
  | nil => rfl
  | cons entry rest ih =>
    obtain ⟨key, v⟩ := entry
    rw [canonicalEntries, Bindings.find?, Bindings.find?, ih]
    split <;> rfl

theorem ordered_canonicalEntries {entries : Bindings Value} (h : entries.Ordered) :
    Bindings.Ordered (canonicalEntries entries) := by
  rw [canonicalEntries_eq]
  exact List.pairwise_map.mpr h

/-- Dictionaries are equal if the same names are bound in them, to equal values. -/
theorem same_dictionary_iff {xs ys : Bindings Value} (hx : xs.Ordered) (hy : ys.Ordered) :
    (dictionary xs).same (dictionary ys) ↔
      ∀ name, Option.Rel (fun v w => v.same w = true) (xs.find? name) (ys.find? name) := by
  have hrel (found found' : Option Value) :
      Option.Rel (fun v w => v.same w = true) found found' ↔
        found.map canonical = found'.map canonical := by
    cases found <;> cases found' <;> simp [same_iff_canonical]
  simp only [hrel, ← find?_canonicalEntries]
  rw [same, sameEntries_iff_canonical]
  refine ⟨fun h name => by rw [h], fun h => ?_⟩
  exact (ordered_canonicalEntries hx).ext (ordered_canonicalEntries hy) h

/-! ## What the canonical value tells -/

/-- What can be told from the canonical value is the same for equal values. -/
theorem eq_of_same {α : Type} {f : Value → α} (hf : ∀ v, f v.canonical = f v) {v w : Value}
    (h : v.same w) : f v = f w := by
  rw [← hf v, ← hf w, (same_iff_canonical v w).mp h]

section Canonical

variable (v : Value)

theorem truthy_canonical : v.canonical.truthy = v.truthy := by
  cases v <;> rfl

theorem size_canonical : v.canonical.size = v.size := by
  cases v with
  | array items => simp [canonical, size, canonicalItems_eq]
  | dictionary entries => simp [canonical, size, canonicalEntries_eq]
  | _ => rfl

theorem toInt_canonical : v.canonical.toInt = v.toInt := by
  cases v with
  | decimal d => simp only [canonical, toInt, Decimal.truncate?, Decimal.truncated_normalize]
  | _ => rfl

theorem value_toDecimal_canonical : v.canonical.toDecimal.value = v.toDecimal.value := by
  cases v with
  | decimal d => exact Decimal.value_normalize d
  | _ => rfl

theorem toArray_canonical : canonicalItems v.canonical.toArray = canonicalItems v.toArray := by
  cases v with
  | nil => rfl
  | array items => exact canonicalItems_canonicalItems items
  | _ => exact congrArg (fun v => [v]) (canonical_canonical _)

theorem text_canonical : v.canonical.text = v.text := by
  cases v with
  | decimal d => exact congrArg String.ofList (Decimal.toText_normalize d)
  | _ => rfl

theorem render_canonical (settings : Settings) :
    v.canonical.render settings = v.render settings := by
  cases v with
  | decimal d => exact settings.decimals.encode_eq_of_value (Decimal.value_normalize d)
  | _ => rfl

theorem lookup_canonical (objects : Objects) (keys : KeyEncoding) (key : Value) :
    (v.canonical.lookup objects keys key).canonical = (v.lookup objects keys key).canonical := by
  cases v with
  | array items =>
    cases key with
    | int index =>
      simp only [canonical, lookup, canonicalItems_eq]
      split
      · rfl
      · exact (congrArg canonical (List.getD_map items .nil canonical)).trans
          (canonical_canonical _)
    | _ => rfl
  | dictionary entries =>
    cases key with
    | string name =>
      simp only [canonical, lookup, find?_canonicalEntries]
      cases Bindings.find? entries name with
      | none => rfl
      | some found => exact canonical_canonical found
    | _ => rfl
  | _ => rfl

end Canonical

end Value

end Stencil
