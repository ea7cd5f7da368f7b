import Stencil.Host.Datum
import Stencil.Proofs.Sequencing

/-!
# The two conversions of plain data

Plain data are built from truth values, machine integers, floats, characters, texts, optional data,
lists and maps with texts as keys. The strict conversion gets a map by calls for its keys and
values, the lenient one as a whole. They differ only where a float has no decimal: there the strict
one fails and the lenient one puts nil.

* `Plain` — plain data
* `unlessFaulty` — a result that the first float without a decimal replaces by its error
* `Plain.value?_eq` — what the strict conversion gives, by the lenient one
* `conversions_agree` — the two conversions agree but for the floats without decimals
-/

namespace Stencil.Host

/-! ## Plain data -/

/-- The widths of the integer types of the host. -/
inductive Width where
  | w8 | w16 | w32 | w64

/-- The number of bits. -/
def Width.bits : Width → Nat
  | .w8 => 8
  | .w16 => 16
  | .w32 => 32
  | .w64 => 64

/-- An integer of a type with or without sign. -/
structure MachineInteger where
  signed : Bool
  width : Width
  value : Int
  least_le : (if signed then -2 ^ (width.bits - 1) else 0) ≤ value := by decide
  value_lt : value < 2 ^ (if signed then width.bits - 1 else width.bits) := by decide

/-- A datum of the common types of the host. -/
inductive Plain where
  | bool (b : Bool)
  | integer (n : MachineInteger)
  /-- A float of 64 bits, or of 32 bits, which is one of 64 bits as well. -/
  | float (b : Binary)
  | character (c : Char)
  | text (s : String)
  /-- An optional datum that is missing. -/
  | absent
  /-- An optional datum that is there. -/
  | present (d : Plain)
  | list (items : List Plain)
  /-- A map with texts as keys. -/
  | map (entries : List (String × Plain))

namespace Plain

mutual

/-- The floats in a datum, in order. -/
def floats : Plain → List Binary
  | .float b => [b]
  | .present d => d.floats
  | .list items => itemFloats items
  | .map entries => entryFloats entries
  | _ => []

/-- The floats in the items of a list. -/
def itemFloats : List Plain → List Binary
  | [] => []
  | d :: rest => d.floats ++ itemFloats rest

/-- The floats in the entries of a map. -/
def entryFloats : List (String × Plain) → List Binary
  | [] => []
  | (_, d) :: rest => d.floats ++ entryFloats rest

end

mutual

/-- A datum with other data in the places of its floats. -/
def mapFloats (f : Binary → Plain) : Plain → Plain
  | .float b => f b
  | .present d => .present (d.mapFloats f)
  | .list items => .list (mapItemFloats f items)
  | .map entries => .map (mapEntryFloats f entries)
  | d => d

/-- The items of a list with other data in the places of their floats. -/
def mapItemFloats (f : Binary → Plain) : List Plain → List Plain
  | [] => []
  | d :: rest => d.mapFloats f :: mapItemFloats f rest

/-- The entries of a map with other data in the places of their floats. -/
def mapEntryFloats (f : Binary → Plain) : List (String × Plain) → List (String × Plain)
  | [] => []
  | (name, d) :: rest => (name, d.mapFloats f) :: mapEntryFloats f rest

end

/-! ### Handing over -/

mutual

/-- A datum as it is handed over, where `ofMap` hands over the maps. -/
def handed (ofMap : List (String × Datum) → Datum) : Plain → Datum
  | .bool b => .bool b
  | .integer n => .integer n.signed n.value
  | .float b => .float b
  | .character c => .text c.toString
  | .text s => .text s
  | .absent => .nothing
  | .present d => d.handed ofMap
  | .list items => .list (handedItems ofMap items)
  | .map entries => ofMap (handedEntries ofMap entries)

/-- The items of a list as they are handed over. -/
def handedItems (ofMap : List (String × Datum) → Datum) : List Plain → List Datum
  | [] => []
  | d :: rest => d.handed ofMap :: handedItems ofMap rest

/-- The entries of a map as they are handed over. -/
def handedEntries (ofMap : List (String × Datum) → Datum) :
    List (String × Plain) → List (String × Datum)
  | [] => []
  | (name, d) :: rest => (name, d.handed ofMap) :: handedEntries ofMap rest

end

end Plain

/-- The calls that hand over a map: one for each key and one for each value. -/
def entryCalls (entries : List (String × Datum)) : List MapCall :=
  entries.flatMap fun (name, d) => [.key (.text name), .value d]

/-- The strict conversion of plain data. -/
def Plain.value? (d : Plain) : Except ConversionError Value :=
  (d.handed (.calls <| entryCalls ·)).value?

/-- The lenient conversion of plain data. -/
def Plain.valueOrNil (d : Plain) : Value :=
  (d.handed .record).valueOrNil

/-! ## Floats without decimals -/

/-- Whether a float has no decimal. -/
def isFaulty (b : Binary) : Bool :=
  (Decimal.ofBinary? b).isNone

/-- The error of a float that has no decimal. -/
def faultOf (b : Binary) : ConversionError :=
  .floatWithoutDecimal (String.ofList b.toText)

/-- A result, unless one of some floats has no decimal. The first such float is the cause. -/
def unlessFaulty {α : Type} (floats : List Binary) (a : α) : Except ConversionError α :=
  match floats.find? isFaulty with
  | some b => .error (faultOf b)
  | none => .ok a

theorem unlessFaulty_append {α β γ : Type} (xs ys : List Binary) (a : α) (b : β) (f : α → β → γ) :
    unlessFaulty (xs ++ ys) (f a b) =
      (do
        let a ← unlessFaulty xs a
        let b ← unlessFaulty ys b
        return f a b) := by
  unfold unlessFaulty
  rw [List.find?_append]
  cases xs.find? isFaulty with
  | some x => rfl
  | none =>
    cases ys.find? isFaulty with
    | some y => rfl
    | none => rfl

theorem unlessFaulty_map {α β : Type} (xs : List Binary) (a : α) (f : α → β) :
    unlessFaulty xs (f a) =
      (do
        let a ← unlessFaulty xs a
        return f a) := by
  unfold unlessFaulty
  cases xs.find? isFaulty <;> rfl

theorem unlessFaulty_eq_ok_iff {α : Type} (floats : List Binary) (a b : α) :
    unlessFaulty floats a = .ok b ↔ (∀ x ∈ floats, isFaulty x = false) ∧ a = b := by
  unfold unlessFaulty
  cases hfind : floats.find? isFaulty with
  | none =>
    have hnone : ∀ x ∈ floats, isFaulty x = false := by simpa using hfind
    simp only [Except.ok.injEq]
    exact ⟨fun hab => ⟨hnone, hab⟩, And.right⟩
  | some x =>
    simp only [reduceCtorEq, false_iff, not_and]
    intro hnone
    have hx := hnone x (List.mem_of_find?_eq_some hfind)
    rw [List.find?_some hfind] at hx
    cases hx

/-! ## Numbers -/

/-- Every machine integer has a value: it is in bounds, or it is a decimal. -/
theorem integerValue?_eq (n : MachineInteger) :
    integerValue? n.signed n.value = .ok (integerOrNil n.signed n.value) := by
  obtain ⟨signed, width, value, hleast, hlt⟩ := n
  unfold integerValue? integerOrNil
  cases hfits : Integer.ofInt? value with
  | some m => rfl
  | none =>
    have hwide : ¬ (Integer.least ≤ value ∧ value ≤ Integer.greatest) := by
      intro hbounds
      simp [Integer.ofInt?, hbounds] at hfits
    unfold Integer.least Integer.greatest at hwide
    cases signed with
    | true =>
      exfalso
      cases width <;> simp [Width.bits] at hleast hlt <;> omega
    | false =>
      have hbound : value.natAbs < Decimal.bound ∧ 0 ≤ Decimal.maxScale := by
        unfold Decimal.bound Decimal.maxScale
        cases width <;> simp [Width.bits] at hleast hlt <;> omega
      simp [Decimal.ofSigned?, hbound, decimalOrNil]

theorem floatValue?_eq (b : Binary) : floatValue? b = unlessFaulty [b] (floatOrNil b) := by
  unfold floatValue? unlessFaulty floatOrNil isFaulty decimalOrNil
  cases hb : Decimal.ofBinary? b with
  | none => simp [hb, faultOf]
  | some d => simp [hb]

/-! ## Structures -/

theorem callValues?_entryCalls_cons (bound : Bindings Value) (name : String) (d : Datum)
    (rest : List (String × Datum)) :
    callValues? bound none (entryCalls ((name, d) :: rest)) =
      (do
        let v ← d.value?
        callValues? (Bindings.insert bound name v) none (entryCalls rest)) := by
  simp only [entryCalls, List.flatMap_cons, List.cons_append, List.nil_append, callValues?,
    Datum.value?, keyOf?]
  rfl

namespace Plain

mutual

/-- The strict conversion gives what the lenient one gives, unless a float has no decimal. -/
theorem value?_eq : (d : Plain) → d.value? = unlessFaulty d.floats d.valueOrNil
  | .bool b => rfl
  | .integer n => integerValue?_eq n
  | .float b => floatValue?_eq b
  | .character c => rfl
  | .text s => rfl
  | .absent => rfl
  | .present d => value?_eq d
  | .list items => by
    have hitems := itemValues?_eq items
    simp only [value?, valueOrNil, handed, Datum.value?, Datum.valueOrNil, floats, hitems]
    exact (unlessFaulty_map _ _ Value.array).symm
  | .map entries => by
    have hentries := entryValues?_eq [] entries
    simp only [value?, valueOrNil, handed, Datum.value?, Datum.valueOrNil, floats, hentries]
    exact (unlessFaulty_map _ _ Value.dictionary).symm

theorem itemValues?_eq : (items : List Plain) →
    itemValues? (handedItems (.calls <| entryCalls ·) items) =
      unlessFaulty (itemFloats items) (itemValues (handedItems .record items))
  | [] => rfl
  | d :: rest => by
    have hd : Datum.value? _ = _ := value?_eq d
    have hrest := itemValues?_eq rest
    simp only [handedItems, itemValues?, itemValues, itemFloats, hd, hrest]
    exact (unlessFaulty_append _ _ _ _ List.cons).symm

theorem entryValues?_eq (bound : Bindings Value) : (entries : List (String × Plain)) →
    callValues? bound none (entryCalls (handedEntries (.calls <| entryCalls ·) entries)) =
      unlessFaulty (entryFloats entries) (fieldValues bound (handedEntries .record entries))
  | [] => rfl
  | (name, d) :: rest => by
    have hd : Datum.value? _ = _ := value?_eq d
    have hrest := entryValues?_eq (Bindings.insert bound name d.valueOrNil) rest
    simp only [handedEntries, callValues?_entryCalls_cons, hd, fieldValues, entryFloats]
    -- What is bound ahead of the rest depends on the value, so the two are not simply paired.
    unfold unlessFaulty at hrest ⊢
    rw [List.find?_append]
    cases d.floats.find? isFaulty with
    | some b => rfl
    | none => exact hrest

end

/-! ### Nil in the places of the faulty floats -/

/-- A float, or a missing datum in the place of one that has no decimal. -/
def blank (b : Binary) : Plain :=
  if isFaulty b then .absent else .float b

theorem blank_not_faulty (b : Binary) : ∀ x ∈ (blank b).floats, isFaulty x = false := by
  unfold blank
  cases hb : isFaulty b with
  | true => simp [floats]
  | false => simp [floats, hb]

theorem valueOrNil_blank (b : Binary) : (blank b).valueOrNil = floatOrNil b := by
  unfold blank
  cases hb : isFaulty b with
  | true =>
    have hnone : Decimal.ofBinary? b = none := by simpa [isFaulty] using hb
    simp [valueOrNil, handed, Datum.valueOrNil, floatOrNil, hnone, decimalOrNil]
  | false => simp [valueOrNil, handed, Datum.valueOrNil]

mutual

theorem mapFloats_blank_not_faulty :
    (d : Plain) → ∀ x ∈ (d.mapFloats blank).floats, isFaulty x = false
  | .float b => blank_not_faulty b
  | .present d => mapFloats_blank_not_faulty d
  | .list items => mapItemFloats_blank_not_faulty items
  | .map entries => mapEntryFloats_blank_not_faulty entries
  | .bool _ | .integer _ | .character _ | .text _ | .absent => by simp [mapFloats, floats]

theorem mapItemFloats_blank_not_faulty :
    (items : List Plain) → ∀ x ∈ itemFloats (mapItemFloats blank items), isFaulty x = false
  | [] => by simp [mapItemFloats, itemFloats]
  | d :: rest => by
    intro x hx
    rcases List.mem_append.mp hx with hd | hrest
    · exact mapFloats_blank_not_faulty d x hd
    · exact mapItemFloats_blank_not_faulty rest x hrest

theorem mapEntryFloats_blank_not_faulty :
    (entries : List (String × Plain)) →
      ∀ x ∈ entryFloats (mapEntryFloats blank entries), isFaulty x = false
  | [] => by simp [mapEntryFloats, entryFloats]
  | (_, d) :: rest => by
    intro x hx
    rcases List.mem_append.mp hx with hd | hrest
    · exact mapFloats_blank_not_faulty d x hd
    · exact mapEntryFloats_blank_not_faulty rest x hrest

end

mutual

theorem valueOrNil_mapFloats_blank : (d : Plain) → (d.mapFloats blank).valueOrNil = d.valueOrNil
  | .float b => valueOrNil_blank b
  | .present d => valueOrNil_mapFloats_blank d
  | .list items => congrArg Value.array (itemValues_mapFloats_blank items)
  | .map entries => congrArg Value.dictionary (entryValues_mapFloats_blank [] entries)
  | .bool _ | .integer _ | .character _ | .text _ | .absent => rfl

theorem itemValues_mapFloats_blank : (items : List Plain) →
    itemValues (handedItems .record (mapItemFloats blank items)) =
      itemValues (handedItems .record items)
  | [] => rfl
  | d :: rest =>
    congrArg₂ List.cons (valueOrNil_mapFloats_blank d) (itemValues_mapFloats_blank rest)

theorem entryValues_mapFloats_blank (bound : Bindings Value) :
    (entries : List (String × Plain)) →
      fieldValues bound (handedEntries .record (mapEntryFloats blank entries)) =
        fieldValues bound (handedEntries .record entries)
  | [] => rfl
  | (name, d) :: rest => by
    have hd : Datum.valueOrNil _ = _ := valueOrNil_mapFloats_blank d
    simp only [mapEntryFloats, handedEntries, fieldValues, hd]
    exact entryValues_mapFloats_blank _ rest

end

end Plain

/-! ## The two conversions -/

/-- **The conversions agree.** The strict conversion of plain data fails exactly where a float has
no decimal, and the first such float is what it names. What it gives is what the lenient one gives.
And what the lenient one gives, in every case, is the value of the same data with each float that
has no decimal missing, and no other. -/
theorem conversions_agree (d : Plain) :
    ((∃ e, d.value? = .error e) ↔ ∃ b ∈ d.floats, Decimal.ofBinary? b = none) ∧
      (∀ e, d.value? = .error e → ∃ b, d.floats.find? isFaulty = some b ∧ e = faultOf b) ∧
      (∀ v, d.value? = .ok v → d.valueOrNil = v) ∧
      (d.mapFloats Plain.blank).value? = .ok d.valueOrNil := by
  rw [d.value?_eq]
  refine ⟨⟨?_, ?_⟩, ?_, ?_, ?_⟩
  · rintro ⟨e, he⟩
    unfold unlessFaulty at he
    cases hfind : d.floats.find? isFaulty with
    | none => simp [hfind] at he
    | some b =>
      exact ⟨b, List.mem_of_find?_eq_some hfind, by simpa [isFaulty] using List.find?_some hfind⟩
  · rintro ⟨b, hb, hnone⟩
    cases hd : unlessFaulty d.floats d.valueOrNil with
    | error e => exact ⟨e, rfl⟩
    | ok v =>
      have hsound := ((unlessFaulty_eq_ok_iff _ _ _).mp hd).1 b hb
      simp [isFaulty, hnone] at hsound
  · intro e he
    unfold unlessFaulty at he
    cases hfind : d.floats.find? isFaulty with
    | none => simp [hfind] at he
    | some b => exact ⟨b, rfl, by simpa [hfind] using he.symm⟩
  · intro v hv
    exact ((unlessFaulty_eq_ok_iff _ _ _).mp hv).2
  · rw [Plain.value?_eq, Plain.valueOrNil_mapFloats_blank]
    exact (unlessFaulty_eq_ok_iff _ _ _).mpr ⟨d.mapFloats_blank_not_faulty, rfl⟩

example :
    (Plain.list [.integer ⟨false, .w64, 2 ^ 64 - 1, by decide, by decide⟩,
      .map [("rate", .present (.float .notANumber))], .float (.finite true 3 (-1))]).valueOrNil =
      .array [.decimal ⟨false, 2 ^ 64 - 1, 0, by decide, by decide⟩,
        .dictionary [("rate", .nil)], .decimal ⟨true, 15, 1, by decide, by decide⟩] := by
  rfl

end Stencil.Host
