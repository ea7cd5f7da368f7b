import Mathlib.Data.List.Basic
import Stencil.Proofs.Text.Parts
import Stencil.Storage.Path

/-!
# Steps of paths

A path is a sequence of steps from a directory to a directory or a file (`steps`), whatever slashes
and points it is written with. The file of a partial is as many steps below the root as the path of
the partial has components. None of them goes up, and the components can be read off them.

* `steps_below` — components behind a root are steps behind those of the root
* `below_eq` — how they are written
* `fileOf?_eq_some_iff` — which paths have a file
* `fileOf?_injective` — a file has one path
-/

namespace Stencil.Storage

/-! ## Components -/

theorem components_eq (path : String) :
    components path = (path.toList.splitOn '/').map String.ofList := by
  rw [components, Text.splitOn_singleton]

theorem components_ne_nil (path : String) : components path ≠ [] := by
  rw [components_eq]
  exact mt List.map_eq_nil_iff.mp (List.splitOn_ne_nil '/' _)

theorem not_mem_of_mem_components {path c : String} (h : c ∈ components path) : '/' ∉ c.toList := by
  rw [components_eq, List.mem_map] at h
  obtain ⟨part, hpart, rfl⟩ := h
  rw [String.toList_ofList]
  exact Text.not_mem_of_mem_splitOn hpart

/-- The components of a path, with slashes between, are the path. -/
theorem intercalate_components (path : String) : "/".intercalate (components path) = path := by
  rw [← String.toList_inj, String.toList_intercalate, components_eq, List.map_map,
    show String.toList ∘ String.ofList = id from funext fun _ => String.toList_ofList, List.map_id]
  exact List.intercalate_splitOn '/'

theorem components_injective {path other : String} (h : components path = components other) :
    path = other := by
  rw [← intercalate_components path, h, intercalate_components]

theorem components_append (path other : String) :
    components (path ++ "/" ++ other) = components path ++ components other := by
  simp only [components_eq, String.toList_append, List.append_assoc]
  rw [show "/".toList = ['/'] from rfl, List.singleton_append, List.splitOn_append_cons_self,
    List.map_append]

theorem components_of_not_mem {name : String} (h : '/' ∉ name.toList) : components name = [name] := by
  rw [components_eq, List.splitOn_eq_singleton h, List.map_singleton, String.ofList_toList]

/-! ## Names -/

/-- Whether a text is the name of something in a directory, other than the directory itself and the
one above. -/
structure IsName (name : String) : Prop where
  ne_empty : name ≠ ""
  ne_point : name ≠ "."
  ne_points : name ≠ ".."
  not_mem : '/' ∉ name.toList

instance (name : String) : Decidable (IsName name) :=
  decidable_of_iff (name ≠ "" ∧ name ≠ "." ∧ name ≠ ".." ∧ '/' ∉ name.toList)
    ⟨fun h => ⟨h.1, h.2.1, h.2.2.1, h.2.2.2⟩, fun h => ⟨h.1, h.2, h.3, h.4⟩⟩

theorem isPlain_iff (c : String) :
    isPlain c ↔ c ≠ "" ∧ c ≠ "." ∧ c ≠ ".." ∧ '\\' ∉ c.toList := by
  simp [isPlain, and_assoc]

theorem isName_of_isPlain {path c : String} (hc : c ∈ components path) (h : isPlain c) :
    IsName c := by
  obtain ⟨hempty, hpoint, hpoints, -⟩ := (isPlain_iff c).mp h
  exact ⟨hempty, hpoint, hpoints, not_mem_of_mem_components hc⟩

theorem toList_fileName (name : String) :
    (fileName name).toList = '_' :: (name.toList ++ ".liquid".toList) := by
  simp [fileName]

theorem fileName_injective {name other : String} (h : fileName name = fileName other) :
    name = other := by
  have htext := congrArg String.toList h
  rw [toList_fileName, toList_fileName] at htext
  exact String.toList_inj.mp (List.append_cancel_right (List.cons_eq_cons.mp htext).2)

theorem isName_fileName {name : String} (h : '/' ∉ name.toList) : IsName (fileName name) := by
  have hhead {text : String} (htext : text.toList.head? ≠ some '_') : fileName name ≠ text := by
    rintro rfl
    rw [toList_fileName] at htext
    exact htext rfl
  refine ⟨hhead (by decide), hhead (by decide), hhead (by decide), ?_⟩
  rw [toList_fileName]
  simpa using h

/-! ## Steps -/

/-- Where a path begins: at the top if there is a slash in front, else where it is looked up from,
of which a point in front is kept. -/
def start (path : String) : List String :=
  if path.toList.head? = some '/' then ["/"]
  else if (components path).head? = some "." then ["."]
  else []

/-- The steps of a path. Empty components and points lead nowhere, but for a point in front. -/
def steps (path : String) : List String :=
  start path ++ (components path).filter fun c => c ≠ "" ∧ c ≠ "."

theorem descend_of_open {path : String} (h : path.toList.getLast?.all (· = '/')) (name : String) :
    descend path name = path ++ name := if_pos h

theorem descend_of_closed {path : String} (h : ¬ path.toList.getLast?.all (· = '/'))
    (name : String) : descend path name = path ++ "/" ++ name := if_neg h

/-- A path is empty, ends in a slash, or has a slash put behind it. -/
theorem descend_cases (path name : String) :
    (path = "" ∧ descend path name = name) ∨
      (∃ front, path = front ++ "/" ∧ descend path name = front ++ "/" ++ name) ∨
      (path ≠ "" ∧ descend path name = path ++ "/" ++ name) := by
  by_cases hopen : path.toList.getLast?.all (· = '/')
  · rw [descend_of_open hopen]
    rcases List.eq_nil_or_concat' path.toList with hnil | ⟨front, c, hfront⟩
    · left
      obtain rfl : path = "" := String.toList_inj.mp hnil
      exact ⟨rfl, String.empty_append⟩
    · right; left
      rw [hfront, List.getLast?_concat] at hopen
      obtain rfl : c = '/' := by simpa using hopen
      have hpath : path = String.ofList front ++ "/" := by
        rw [← String.toList_inj, hfront]
        simp
      exact ⟨String.ofList front, hpath, by rw [← hpath]⟩
  · right; right
    refine ⟨?_, descend_of_closed hopen name⟩
    rintro rfl
    exact hopen rfl

example : descend "" "a" = "a" ∧ descend "/" "a" = "/a" ∧ descend "r" "a" = "r/a" := by decide

theorem head?_components_append (path other : String) :
    (components (path ++ "/" ++ other)).head? = (components path).head? := by
  obtain ⟨first, rest, hfirst⟩ := List.exists_cons_of_ne_nil (components_ne_nil path)
  rw [components_append, hfirst]
  rfl

/-- Behind its first slash a path can go on in any way. -/
theorem start_append_congr (path other another : String) :
    start (path ++ "/" ++ other) = start (path ++ "/" ++ another) := by
  have hhead (tail : String) :
      (path ++ "/" ++ tail).toList.head? = path.toList.head?.or (some '/') := by
    cases h : path.toList <;> simp [h]
  unfold start
  rw [hhead, hhead, head?_components_append, head?_components_append]

theorem start_append {path : String} (h : path ≠ "") (other : String) :
    start (path ++ "/" ++ other) = start path := by
  obtain ⟨c, cs, hpath⟩ := List.exists_cons_of_ne_nil fun hnil => h (String.toList_inj.mp hnil)
  unfold start
  rw [head?_components_append, String.toList_append, String.toList_append, hpath]
  rfl

theorem filter_name {name : String} (h : IsName name) :
    [name].filter (fun c => c ≠ "" ∧ c ≠ ".") = [name] := by
  simp [h.ne_empty, h.ne_point]

theorem components_empty : components "" = [""] :=
  components_of_not_mem (by decide)

theorem steps_empty : steps "" = [] := by
  rw [steps, start, components_empty]
  rfl

theorem steps_slash (path : String) : steps (path ++ "/") =
    start (path ++ "/") ++ (components path).filter fun c => c ≠ "" ∧ c ≠ "." := by
  have hcomponents := components_append path ""
  rw [String.append_empty, components_empty] at hcomponents
  rw [steps, hcomponents, List.filter_append]
  simp

/-- One more component is one more step. -/
theorem steps_descend (path : String) {name : String} (h : IsName name) :
    steps (descend path name) = steps path ++ [name] := by
  have hname := components_of_not_mem h.not_mem
  rcases descend_cases path name with ⟨rfl, hdescend⟩ | ⟨front, rfl, hdescend⟩ | ⟨hne, hdescend⟩
  · have hhead : name.toList.head? ≠ some '/' := fun hslash =>
      h.not_mem (List.mem_of_mem_head? hslash)
    have hstart : start name = [] := by
      rw [start, if_neg hhead, hname, if_neg (by simpa using h.ne_point)]
    rw [hdescend, steps, hstart, hname, filter_name h, steps_empty]
  · have hstart := start_append_congr front name ""
    rw [String.append_empty] at hstart
    rw [hdescend, steps_slash, steps, hstart, components_append, hname, List.filter_append,
      filter_name h, List.append_assoc]
  · rw [hdescend, steps, steps, start_append hne, components_append, hname, List.filter_append,
      filter_name h, List.append_assoc]

/-- Components behind a root are steps behind those of the root. -/
theorem steps_below (root : String) {names : List String} (h : ∀ c ∈ names, IsName c) :
    steps (below root names) = steps root ++ names := by
  induction names generalizing root with
  | nil => simp [below]
  | cons name names ih =>
    obtain ⟨hname, hnames⟩ := List.forall_mem_cons.mp h
    have hrest := ih (descend root name) hnames
    rw [below] at hrest
    rw [below, List.foldl_cons, hrest, steps_descend root hname, List.append_assoc,
      List.singleton_append]

theorem closed_of_isName {path name : String} (h : IsName name) :
    ¬ (descend path name).toList.getLast?.all (· = '/') := by
  have hlast : (descend path name).toList.getLast? = name.toList.getLast? := by
    obtain ⟨front, c, hname⟩ := List.eq_nil_or_concat' name.toList |>.resolve_left
      fun hnil => h.ne_empty (String.toList_inj.mp hnil)
    unfold descend
    split <;> simp [hname, List.getLast?_cons]
  rw [hlast]
  cases hc : name.toList.getLast? with
  | none => exact fun _ => h.ne_empty (String.toList_inj.mp (List.getLast?_eq_none_iff.mp hc))
  | some c =>
    have hmem := List.mem_of_getLast? hc
    rw [Option.all_some, decide_eq_true_eq]
    rintro rfl
    exact h.not_mem hmem

/-- Components are written behind a root with slashes between. -/
theorem below_eq (root : String) {names : List String} (hne : names ≠ [])
    (h : ∀ c ∈ names, IsName c) : below root names = descend root ("/".intercalate names) := by
  induction names generalizing root with
  | nil => exact absurd rfl hne
  | cons name names ih =>
    obtain ⟨hname, hnames⟩ := List.forall_mem_cons.mp h
    cases names with
    | nil => simp [below]
    | cons next rest =>
      have hrest := ih (descend root name) (List.cons_ne_nil _ _) hnames
      rw [below] at hrest
      rw [below, List.foldl_cons, hrest, descend_of_closed (closed_of_isName hname),
        String.intercalate_cons_cons]
      unfold descend
      split <;> simp [String.append_assoc]

/-! ## Files -/

/-- The components of the file of a partial: those of its path, but for the last. -/
theorem exists_fileOf? {path : String} (h : ∀ c ∈ components path, isPlain c) :
    ∃ above last, components path = above ++ [last] ∧
      fileOf? path = some (above ++ [fileName last]) := by
  obtain ⟨above, last, hparts⟩ : ∃ above last, components path = above ++ [last] := by
    rcases List.eq_nil_or_concat (components path) with hnil | hparts
    · exact absurd hnil (components_ne_nil path)
    · simpa using hparts
  refine ⟨above, last, hparts, ?_⟩
  have hall : (above ++ [last]).all isPlain := by
    rw [← hparts]
    exact List.all_eq_true.mpr h
  simp only [fileOf?, hparts, hall, if_true, List.dropLast_concat, List.getLast?_concat]
  rfl

/-- The paths that have a file, and the components of that file. -/
theorem fileOf?_eq_some_iff {path : String} {names : List String} :
    fileOf? path = some names ↔ (∀ c ∈ components path, isPlain c) ∧
      ∃ above last, components path = above ++ [last] ∧ names = above ++ [fileName last] := by
  constructor
  · intro h
    have hplain : ∀ c ∈ components path, isPlain c := by
      by_contra hnot
      have hall : ¬ (components path).all isPlain := mt List.all_eq_true.mp hnot
      simp [fileOf?, hall] at h
    obtain ⟨above, last, hparts, hfile⟩ := exists_fileOf? hplain
    rw [h] at hfile
    exact ⟨hplain, above, last, hparts, Option.some.inj hfile⟩
  · rintro ⟨hplain, above, last, hparts, rfl⟩
    obtain ⟨above', last', hparts', hfile⟩ := exists_fileOf? hplain
    obtain ⟨rfl, hlast⟩ := List.append_inj' (hparts.symm.trans hparts') rfl
    rw [hfile, List.singleton_inj.mp hlast]

/-- All components of a file are names. -/
theorem isName_of_mem_file {path : String} {names : List String} (h : fileOf? path = some names) :
    ∀ c ∈ names, IsName c := by
  obtain ⟨hplain, above, last, hparts, rfl⟩ := fileOf?_eq_some_iff.mp h
  intro c hc
  rcases List.mem_append.mp hc with habove | hlast
  · have hmem : c ∈ components path := hparts ▸ List.mem_append_left _ habove
    exact isName_of_isPlain hmem (hplain c hmem)
  · have hmem : last ∈ components path := hparts ▸ List.mem_append_right _ List.mem_cons_self
    rw [List.mem_singleton.mp hlast]
    exact isName_fileName (not_mem_of_mem_components hmem)

/-- A file is that of one path only. -/
theorem fileOf?_injective {path other : String} {names : List String}
    (h : fileOf? path = some names) (h' : fileOf? other = some names) : path = other := by
  obtain ⟨-, above, last, hparts, rfl⟩ := fileOf?_eq_some_iff.mp h
  obtain ⟨-, above', last', hparts', hnames⟩ := fileOf?_eq_some_iff.mp h'
  obtain ⟨rfl, hlast⟩ := List.append_inj' hnames rfl
  obtain rfl := fileName_injective (List.singleton_inj.mp hlast)
  exact components_injective (hparts.trans hparts'.symm)

theorem templatePath_eq_ok_iff {root path file : String} :
    templatePath root path = .ok file ↔
      ∃ names, fileOf? path = some names ∧ below root names = file := by
  unfold templatePath
  split
  · rename_i names hnames
    simp [hnames]
  · rename_i hnone
    simp [hnone]

end Stencil.Storage
