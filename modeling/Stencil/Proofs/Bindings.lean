import Mathlib.Data.List.Sort
import Stencil.Bindings

/-!
# Bindings in order

Bindings that were made by inserting have their names in ascending order, so each name once, and
what a name is bound to is all there is about it.

* `ordered_ofList` — whatever is put together has its names in order
* `Ordered.mem_iff` — a name is in the list with what is found for it, and with nothing else
* `Ordered.ext` — bindings in which the same is found are the same
-/

namespace Stencil.Bindings

variable {α : Type} {b : Bindings α} {name key : String} {value new : α}

/-- The names are in ascending order. -/
def Ordered (b : Bindings α) : Prop :=
  b.Pairwise fun first second => first.1 < second.1

instance : Std.Irrefl fun first second : String × α => first.1 < second.1 :=
  ⟨fun entry => String.lt_irrefl entry.1⟩

instance : Std.Antisymm fun first second : String × α => first.1 < second.1 :=
  ⟨fun _ _ hlt hgt => absurd hgt (String.lt_asymm hlt)⟩

theorem find?_cons_self (b : Bindings α) : find? ((name, value) :: b) name = some value :=
  if_pos rfl

theorem find?_cons_of_ne (b : Bindings α) (h : key ≠ name) :
    find? ((key, value) :: b) name = find? b name :=
  if_neg h

theorem mem_insert (b : Bindings α) :
    ∀ entry ∈ b.insert name new, entry = (name, new) ∨ entry ∈ b := by
  induction b with
  | nil => simp [insert]
  | cons first rest ih =>
    obtain ⟨key, value⟩ := first
    intro entry hmem
    simp only [insert] at hmem
    split at hmem
    · exact (List.mem_cons.mp hmem).imp_right (List.mem_cons_of_mem _)
    · split at hmem
      · exact List.mem_cons.mp hmem
      · rcases List.mem_cons.mp hmem with rfl | hmem
        · exact .inr List.mem_cons_self
        · exact (ih entry hmem).imp_right (List.mem_cons_of_mem _)

/-- A name that is bound again loses what it was bound to. -/
theorem insert_insert (b : Bindings α) (name : String) (value new : α) :
    (b.insert name value).insert name new = b.insert name new := by
  induction b with
  | nil => simp [insert]
  | cons entry rest ih =>
    obtain ⟨key, bound⟩ := entry
    by_cases hkey : key = name
    · simp [insert, hkey]
    · by_cases hlt : name < key
      · simp [insert, hkey, hlt]
      · simp [insert, hkey, hlt, ih]

namespace Ordered

/-- A name is in the list with what is found for it, and with nothing else. -/
theorem mem_iff (h : b.Ordered) : (name, value) ∈ b ↔ find? b name = some value := by
  refine ⟨fun hmem => ?_, mem_of_find?⟩
  induction b with
  | nil => cases hmem
  | cons entry rest ih =>
    obtain ⟨hfirst, hrest⟩ := List.pairwise_cons.mp h
    rcases List.mem_cons.mp hmem with rfl | hmem
    · exact find?_cons_self rest
    · have hlt : entry.1 < name := hfirst (name, value) hmem
      have hne : entry.1 ≠ name := fun heq => String.lt_irrefl name (heq ▸ hlt)
      exact (find?_cons_of_ne rest hne).trans (ih hrest hmem)

protected theorem insert (h : b.Ordered) (name : String) (new : α) :
    (b.insert name new).Ordered := by
  induction b with
  | nil => exact List.pairwise_singleton ..
  | cons first rest ih =>
    obtain ⟨key, value⟩ := first
    obtain ⟨hfirst, hrest⟩ := List.pairwise_cons.mp h
    simp only [Bindings.insert]
    split
    · rename_i heq
      subst heq
      exact List.pairwise_cons.mpr ⟨hfirst, hrest⟩
    · split
      · rename_i hlt
        refine List.pairwise_cons.mpr ⟨fun entry hmem => ?_, h⟩
        rcases List.mem_cons.mp hmem with rfl | hmem
        · exact hlt
        · exact String.lt_trans hlt (hfirst entry hmem)
      · rename_i hne hnlt
        have hlt : key < name := Decidable.byContradiction fun hge =>
          hne (String.le_antisymm (String.not_lt.mp hnlt) (String.not_lt.mp hge))
        refine List.pairwise_cons.mpr ⟨fun entry hmem => ?_, ih hrest⟩
        rcases mem_insert rest entry hmem with rfl | hmem
        · exact hlt
        · exact hfirst entry hmem

/-- Bindings in which the same is found are the same. -/
theorem ext {b' : Bindings α} (h : b.Ordered) (h' : b'.Ordered)
    (hfind : ∀ name, b.find? name = b'.find? name) : b = b' := by
  refine List.Pairwise.eq_of_mem_iff h h' fun entry => ?_
  rw [show entry = (entry.1, entry.2) from rfl, h.mem_iff, h'.mem_iff, hfind]

end Ordered

/-- Of several bindings of a name the last one is found. -/
theorem find?_ofList (pairs : List (String × α)) (name : String) :
    find? (ofList pairs) name = pairs.reverse.lookup name := by
  rw [ofList, find?_foldl_insert, find?_nil, Option.or_none]

/-- Whatever is put together has its names in order. -/
theorem ordered_ofList (pairs : List (String × α)) : (ofList pairs).Ordered := by
  have hfold (b : Bindings α) (h : b.Ordered) :
      (pairs.foldl (fun b pair => b.insert pair.1 pair.2) b).Ordered := by
    induction pairs generalizing b with
    | nil => exact h
    | cons pair rest ih => exact ih _ (h.insert ..)
  exact hfold [] .nil

end Stencil.Bindings
