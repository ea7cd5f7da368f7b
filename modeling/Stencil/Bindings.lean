/-!
# Bindings

A finite map from names, kept as a list with its names in ascending order and each name once.

* `find?_insert_self`, `find?_insert_of_ne` — what is found after an insertion
* `mem_of_find?_ofList`, `find?_ofList_map` — what is found in a list of bindings
-/

namespace Stencil

/-- Names, each with what it is bound to. -/
abbrev Bindings (α : Type) := List (String × α)

namespace Bindings

variable {α : Type}

/-- What a name is bound to. -/
def find? : Bindings α → String → Option α
  | [], _ => none
  | (key, value) :: rest, name => if key = name then some value else find? rest name

/-- Whether a name is bound. -/
def contains (b : Bindings α) (name : String) : Bool :=
  (find? b name).isSome

/-- Binds a name, in place of what it may have been bound to. -/
def insert : Bindings α → String → α → Bindings α
  | [], name, new => [(name, new)]
  | (key, value) :: rest, name, new =>
    if key = name then (name, new) :: rest
    else if name < key then (name, new) :: (key, value) :: rest
    else (key, value) :: insert rest name new

/-- Unbinds a name. -/
def erase : Bindings α → String → Bindings α
  | [], _ => []
  | (key, value) :: rest, name =>
    if key = name then rest else (key, value) :: erase rest name

/-- Binds names one after another; the last binding of a name stays. -/
def ofList (pairs : List (String × α)) : Bindings α :=
  pairs.foldl (fun b (name, value) => insert b name value) []

/-- The names that are bound. -/
def names (b : Bindings α) : List String :=
  b.map (·.1)

@[simp] theorem find?_nil (name : String) : find? ([] : Bindings α) name = none := rfl

theorem find?_insert_self (b : Bindings α) (name : String) (new : α) :
    find? (insert b name new) name = some new := by
  induction b with
  | nil => simp [insert, find?]
  | cons entry rest ih =>
    obtain ⟨key, value⟩ := entry
    simp only [insert]
    split
    · simp [find?]
    · split
      · simp [find?]
      · rename_i hne _
        simp [find?, hne, ih]

theorem find?_insert_of_ne (b : Bindings α) {name other : String} (h : name ≠ other) (new : α) :
    find? (insert b name new) other = find? b other := by
  induction b with
  | nil => simp [insert, find?, h]
  | cons entry rest ih =>
    obtain ⟨key, value⟩ := entry
    simp only [insert]
    split
    · rename_i hkey
      subst hkey
      simp [find?, h]
    · split
      · simp [find?, h]
      · simp only [find?, ih]

theorem mem_of_find? {b : Bindings α} {name : String} {v : α} (h : find? b name = some v) :
    (name, v) ∈ b := by
  induction b with
  | nil => cases h
  | cons entry rest ih =>
    obtain ⟨key, value⟩ := entry
    by_cases hkey : key = name
    · subst hkey
      simp only [find?, if_true, Option.some.injEq] at h
      rw [h]
      exact List.mem_cons_self
    · simp only [find?, hkey, if_false] at h
      exact List.mem_cons_of_mem _ (ih h)

theorem mem_of_find?_foldl_insert {pairs : List (String × α)} {b : Bindings α} {name : String}
    {v : α}
    (h : find? (pairs.foldl (fun b (name, value) => insert b name value) b) name = some v) :
    (name, v) ∈ pairs ∨ find? b name = some v := by
  induction pairs generalizing b with
  | nil => exact .inr h
  | cons pair rest ih =>
    obtain ⟨key, value⟩ := pair
    rcases ih h with hmem | hfind
    · exact .inl (List.mem_cons_of_mem _ hmem)
    · by_cases hkey : key = name
      · subst hkey
        rw [find?_insert_self] at hfind
        cases hfind
        exact .inl List.mem_cons_self
      · rw [find?_insert_of_ne _ hkey] at hfind
        exact .inr hfind

/-- What is found was bound. -/
theorem mem_of_find?_ofList {pairs : List (String × α)} {name : String} {v : α}
    (h : find? (ofList pairs) name = some v) : (name, v) ∈ pairs := by
  rcases mem_of_find?_foldl_insert h with hmem | hfind
  · exact hmem
  · cases hfind

/-- Of several bindings of a name the last one is found. -/
theorem find?_foldl_insert (pairs : List (String × α)) (b : Bindings α) (name : String) :
    find? (pairs.foldl (fun b (name, value) => insert b name value) b) name =
      (pairs.reverse.lookup name).or (find? b name) := by
  induction pairs generalizing b with
  | nil => rfl
  | cons pair rest ih =>
    obtain ⟨key, value⟩ := pair
    rw [List.foldl_cons, ih, List.reverse_cons, List.lookup_append, Option.or_assoc]
    congr 1
    by_cases hkey : key = name
    · subst hkey
      simp [find?_insert_self]
    · have hne : (name == key) = false := beq_false_of_ne (Ne.symm hkey)
      simp [find?_insert_of_ne _ hkey, List.lookup_cons, hne]

theorem find?_ofList_map {β : Type} (f : α → β) (pairs : List (String × α)) (name : String) :
    find? (ofList (pairs.map fun (key, a) => (key, f a))) name =
      (pairs.reverse.lookup name).map f := by
  have hlookup (pairs : List (String × α)) :
      (pairs.map fun (key, a) => (key, f a)).lookup name = (pairs.lookup name).map f := by
    induction pairs with
    | nil => rfl
    | cons pair rest ih =>
      rw [List.map_cons, List.lookup_cons, List.lookup_cons, ih]
      split <;> rfl
  rw [ofList, find?_foldl_insert, ← List.map_reverse, hlookup, find?_nil, Option.or_none]

end Bindings

end Stencil
