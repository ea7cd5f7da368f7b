import Stencil.Proofs.Storage.Paths
import Stencil.Storage.Partials

/-!
# Loading files

The path of a partial stays below the root, no two paths share a file, and a file that is loaded
into memory is known there by the last component of its path, in whatever way a pattern finds it.

* `loadedName_fileName` — the name is read off the file name
* `Glob.getLast?_of_find` — a found path that leads to a file ends in the name of the file
* `loadFiles_append`, `loadFiles_cons_of_read` — loading goes on behind a file that it has read
* `paths_confined` — what paths lead to
-/

namespace Stencil.Storage

/-! ## Names of files -/

theorem stem_fileName (name : String) : stem (fileName name) = "_" ++ name := by
  have hreverse : (fileName name).toList.reverse =
      "diuqil".toList ++ '.' :: ("_" ++ name).toList.reverse := by
    rw [toList_fileName]
    simp
  have hrest : ((fileName name).toList.reverse.dropWhile (· ≠ '.')).drop 1 =
      ("_" ++ name).toList.reverse := by
    rw [hreverse, List.dropWhile_append_of_pos (by simp), List.dropWhile_cons_of_neg (by simp)]
    rfl
  simp only [stem, hrest]
  cases hcs : ("_" ++ name).toList.reverse with
  | nil => simp at hcs
  | cons c cs =>
    show String.ofList (c :: cs).reverse = _
    rw [← hcs, List.reverse_reverse, String.ofList_toList]

/-- A file is loaded under the name that it has got its own name for. -/
theorem loadedName_fileName (name : String) : loadedName (fileName name) = name := by
  have hstem : (stem (fileName name)).toList = '_' :: name.toList := by
    rw [stem_fileName]
    simp
  rw [loadedName, hstem]
  exact String.ofList_toList

/-! ## Directories -/

namespace Entry

/-- Whether all that is in a directory, and in those below it, has the name of something in a
directory. -/
inductive WellNamed : Entry → Prop
  | file (bytes : List UInt8) : WellNamed (.file bytes)
  | directory {entries : List (String × Entry)} (names : ∀ e ∈ entries, IsName e.1)
      (inner : ∀ e ∈ entries, WellNamed e.2) : WellNamed (.directory entries)

theorem find?_append (e : Entry) (names more : List String) :
    e.find? (names ++ more) = (e.find? names).bind (·.find? more) := by
  induction names generalizing e with
  | nil => rfl
  | cons name names ih =>
    rw [List.cons_append, find?, find?]
    cases Bindings.find? e.entries name with
    | none => rfl
    | some inner => exact ih inner

/-- There is nothing below a file. -/
theorem isDirectory_of_find?_append {e inner : Entry} {names : List String} {name : String}
    (h : e.find? (names ++ [name]) = some inner) :
    ∃ entries, e.find? names = some (.directory entries) := by
  rw [find?_append] at h
  obtain ⟨above, habove, hname⟩ := Option.bind_eq_some_iff.mp h
  cases above with
  | file bytes => cases hname
  | directory entries => exact ⟨entries, habove⟩

theorem WellNamed.find? {e inner : Entry} (h : e.WellNamed) {names : List String}
    (hfind : e.find? names = some inner) : inner.WellNamed := by
  induction names generalizing e with
  | nil =>
    obtain rfl : e = inner := Option.some.inj hfind
    exact h
  | cons name names ih =>
    obtain ⟨next, hnext, hrest⟩ := Option.bind_eq_some_iff.mp hfind
    cases h with
    | file bytes => cases hnext
    | directory _ hinner => exact ih (hinner _ (Bindings.mem_of_find? hnext)) hrest

theorem mem_allDescendants {entries : List (String × Entry)} {path : List String} {inner : Entry}
    (h : (path, inner) ∈ allDescendants entries) :
    ∃ e ∈ entries, (path = [e.1] ∧ inner = e.2) ∨
      ∃ below, path = e.1 :: below ∧ (below, inner) ∈ e.2.descendants := by
  induction entries with
  | nil => cases h
  | cons e entries ih =>
    obtain ⟨name, e⟩ := e
    rw [allDescendants, List.mem_append, List.mem_cons, List.mem_map] at h
    rcases h with (heq | ⟨⟨below, inner'⟩, hbelow, heq⟩) | hmem
    · obtain ⟨rfl, rfl⟩ := Prod.mk.inj heq
      exact ⟨_, List.mem_cons_self, .inl ⟨rfl, rfl⟩⟩
    · obtain ⟨rfl, rfl⟩ := Prod.mk.inj heq
      exact ⟨_, List.mem_cons_self, .inr ⟨below, rfl, hbelow⟩⟩
    · obtain ⟨e', he', hpath⟩ := ih hmem
      exact ⟨e', List.mem_cons_of_mem _ he', hpath⟩

/-- The path of what is below a directory ends in a name. -/
theorem WellNamed.exists_last {e : Entry} (h : e.WellNamed) {path : List String} {inner : Entry}
    (hmem : (path, inner) ∈ e.descendants) : ∃ above last, path = above ++ [last] ∧ IsName last := by
  induction h generalizing path inner with
  | file bytes => cases hmem
  | directory hnames hinner ih =>
    obtain ⟨e, he, ⟨rfl, rfl⟩ | ⟨below, rfl, hbelow⟩⟩ := mem_allDescendants hmem
    · exact ⟨[], e.1, rfl, hnames e he⟩
    · obtain ⟨above, last, rfl, hlast⟩ := ih e he hbelow
      exact ⟨e.1 :: above, last, rfl, hlast⟩

/-- What a file is read from is a file. -/
theorem find?_of_follow {e : Entry} {names : List String} {bytes : List UInt8}
    (h : e.follow names = .ok bytes) : e.find? names = some (.file bytes) := by
  induction names generalizing e with
  | nil =>
    cases e with
    | file bytes' =>
      obtain rfl := Except.ok.inj h
      rfl
    | directory entries => cases h
  | cons name names ih =>
    cases e with
    | file bytes' => cases h
    | directory entries =>
      rw [follow] at h
      split at h
      · cases h
      · split at h
        · rename_i inner hinner
          exact Option.bind_eq_some_iff.mpr ⟨inner, hinner, ih h⟩
        · cases h

theorem exists_file_of_readText {e : Entry} {names : List String} {source : String}
    (h : e.readText names = .ok source) : ∃ bytes, e.find? names = some (.file bytes) := by
  unfold readText at h
  simp only at h
  split at h
  · cases h
  split at h
  · cases h
  cases hfollow : e.follow names with
  | error fault =>
    rw [hfollow] at h
    cases h
  | ok bytes => exact ⟨bytes, find?_of_follow hfollow⟩

end Entry

/-! ## What patterns find -/

namespace Glob

/-- Whether a component leads to something other than the directory that it is looked up in and the
one above. -/
def LeadsOn (name : String) : Prop :=
  name ≠ "" ∧ name ≠ "." ∧ name ≠ ".."

instance (name : String) : Decidable (LeadsOn name) :=
  inferInstanceAs (Decidable (_ ∧ _))

/-- One more component of a path, whose components are given from the last to the first. -/
def follow? (above : List String) (name : String) : Option (List String) :=
  if name.isEmpty || name = "." then some above
  else if name = ".." then (match above with | [] => none | _ :: rest => some rest)
  else some (name :: above)

theorem resolve_append (names : List String) (name : String) :
    resolve (names ++ [name]) =
      ((names.foldlM follow? []).bind (follow? · name)).map List.reverse := by
  have hresolve (names : List String) :
      resolve names = (names.foldlM follow? []).map List.reverse := rfl
  rw [hresolve, List.foldlM_append]
  cases names.foldlM follow? [] <;> simp

theorem resolve_append_of_leadsOn (names : List String) {name : String} (h : LeadsOn name) :
    resolve (names ++ [name]) = (resolve names).map (· ++ [name]) := by
  obtain ⟨hempty, hpoint, hpoints⟩ := h
  rw [resolve_append]
  show _ = ((names.foldlM follow? []).map List.reverse).map _
  cases names.foldlM follow? [] with
  | none => rfl
  | some above => simp [follow?, hempty, hpoint, hpoints]

/-- Only directories can be gone on from without a name. -/
theorem not_file_of_directory {root : Entry} {names : List String} {name : String}
    (hdirectory : isDirectoryAt root names) (h : ¬ LeadsOn name) (bytes : List UInt8) :
    entryAt? root (names ++ [name]) ≠ some (.file bytes) := by
  intro hfile
  have hresolve : resolve names = (names.foldlM follow? []).map List.reverse := rfl
  rw [entryAt?, resolve_append] at hfile
  rw [isDirectoryAt, entryAt?, hresolve] at hdirectory
  cases hnames : names.foldlM follow? [] with
  | none => simp [hnames] at hdirectory
  | some above =>
    simp only [hnames, Option.map_some, Option.bind_some] at hdirectory hfile
    by_cases hhere : name = "" ∨ name = "."
    · -- The path leads to the same directory without the component.
      have hsame : follow? above name = some above := by
        rcases hhere with rfl | rfl <;> rfl
      simp only [hsame, Option.map_some, Option.bind_some] at hfile
      simp [hfile, Entry.isDirectory] at hdirectory
    · obtain ⟨hempty, hpoint⟩ := not_or.mp hhere
      obtain rfl : name = ".." := by
        by_contra hpoints
        exact h ⟨hempty, hpoint, hpoints⟩
      cases above with
      | nil => cases hfile
      | cons last above =>
        -- The directory above is one as well, since something is in it.
        have hup : root.find? above.reverse = some (.file bytes) := hfile
        rw [List.reverse_cons] at hdirectory
        cases hinner : root.find? (above.reverse ++ [last]) with
        | none => simp [hinner] at hdirectory
        | some inner =>
          obtain ⟨entries, hentries⟩ := Entry.isDirectory_of_find?_append hinner
          rw [hentries] at hup
          cases hup

/-- A path ends in a component that leads on. -/
def EndsInName (path : List String) : Prop :=
  ∃ above last, path = above ++ [last] ∧ LeadsOn last

/-- What is found below a path ends in a name. -/
theorem endsInName_of_below {root : Entry} (hroot : root.WellNamed) {names path : List String}
    {inner : Entry}
    (h : (path, inner) ∈ (entryAt? root names).elim [] (·.descendants)) :
    EndsInName (names ++ path) := by
  cases hentry : entryAt? root names with
  | none =>
    rw [hentry] at h
    cases h
  | some e =>
    rw [hentry] at h
    obtain ⟨plain, -, hfind⟩ := Option.bind_eq_some_iff.mp hentry
    obtain ⟨above, last, rfl, hlast⟩ := (hroot.find? hfind).exists_last h
    exact ⟨names ++ above, last, (List.append_assoc ..).symm,
      hlast.ne_empty, hlast.ne_point, hlast.ne_points⟩

theorem endsInName_of_file {root : Entry} {names : List String} {name : String}
    {bytes : List UInt8} (hfile : entryAt? root (names ++ [name]) = some (.file bytes))
    (h : ¬ LeadsOn name → isDirectoryAt root names) : EndsInName (names ++ [name]) := by
  by_cases hname : LeadsOn name
  · exact ⟨names, name, rfl, hname⟩
  · exact absurd hfile (not_file_of_directory (h hname) hname bytes)

theorem isDirectoryAt_of_leadsOn {root : Entry} {names : List String} {name : String}
    (h : leadsOn root names name) (hname : ¬ LeadsOn name) : isDirectoryAt root names := by
  unfold leadsOn at h
  split at h
  · exact h
  · rename_i hother
    refine absurd ?_ hname
    simpa [LeadsOn, not_or, and_assoc] using hother

theorem isDirectoryAt_of_mem_namesFitting {root : Entry} {names : List String}
    {component : Component} {name : String} (h : name ∈ namesFitting root names component) :
    isDirectoryAt root names := by
  unfold namesFitting at h
  split at h
  · rename_i entries hentry
    simp [isDirectoryAt, hentry, Entry.isDirectory]
  · cases h

/-- A path that leads to a file and is found from another path on is that path or ends in a
name. -/
theorem endsInName_of_expand {root : Entry} (hroot : root.WellNamed) {names found : List String}
    {components : List Component} {bytes : List UInt8} (h : found ∈ expand root names components)
    (hfile : entryAt? root found = some (.file bytes)) : found = names ∨ EndsInName found := by
  induction names, components using expand.induct root with
  | case1 names =>
    rw [expand] at h
    exact .inl (List.mem_singleton.mp h)
  | case2 names component rest name hliteral hleads ih =>
    rw [expand, hliteral] at h
    simp only [hleads, if_true] at h
    rcases ih h with rfl | hends
    · exact .inr (endsInName_of_file hfile (isDirectoryAt_of_leadsOn hleads))
    · exact .inr hends
  | case3 names component rest name hliteral hleads =>
    rw [expand, hliteral] at h
    simp [hleads] at h
  | case4 names component rest hliteral hrecursive hrest =>
    rw [expand, hliteral] at h
    simp only [hrecursive, if_true] at h
    split at h
    · obtain ⟨⟨path, inner⟩, hmem, hpath⟩ := List.mem_filterMap.mp h
      simp only [Option.ite_none_right_eq_some, Option.some.injEq] at hpath
      obtain ⟨-, rfl⟩ := hpath
      exact .inr (endsInName_of_below hroot hmem)
    · rename_i next further hnext
      rw [hrest] at hnext
      cases hnext
  | case5 names component rest hliteral hrecursive next further hrest ih =>
    rw [expand, hliteral] at h
    simp only [hrecursive, if_true] at h
    split at h
    · rename_i hnone
      rw [hrest] at hnone
      cases hnone
    · rename_i next' further' hnext
      rw [hrest] at hnext
      obtain ⟨rfl, rfl⟩ := List.cons_eq_cons.mp hnext
      obtain ⟨⟨path, inner⟩, hmem, hpath⟩ := List.mem_flatMap.mp h
      simp only at hpath
      split at hpath
      · rcases ih path hpath with rfl | hends
        · exact .inr (endsInName_of_below hroot hmem)
        · exact .inr hends
      · cases hpath
  | case6 names component rest hliteral hrecursive ih =>
    rw [expand, hliteral] at h
    simp only [hrecursive] at h
    obtain ⟨name, hmem, hname⟩ := List.mem_flatMap.mp h
    rcases ih name hname with rfl | hends
    · exact .inr (endsInName_of_file hfile fun _ => isDirectoryAt_of_mem_namesFitting hmem)
    · exact .inr hends

/-- A found path that leads to a file ends in the name of the file. -/
theorem getLast?_of_find {root : Entry} (hroot : root.WellNamed) {pattern : List Char}
    {found : List (List String)} (hfound : find root pattern = .ok found) {path : List String}
    (hmem : path ∈ found) {above : List String} {last : String}
    (hresolve : resolve path = some (above ++ [last])) {bytes : List UInt8}
    (hfile : root.find? (above ++ [last]) = some (.file bytes)) : path.getLast? = some last := by
  have hentry : entryAt? root path = some (.file bytes) := by
    rw [entryAt?, hresolve, Option.bind_some, hfile]
  obtain ⟨components, hexpand⟩ : ∃ components, path ∈ expand root [] components := by
    unfold find at hfound
    cases hread : components? pattern with
    | error fault =>
      rw [hread] at hfound
      cases hfound
    | ok components =>
      rw [hread] at hfound
      obtain rfl := Except.ok.inj hfound
      split at hmem
      · exact ⟨components, (List.mem_filter.mp hmem).1⟩
      · exact ⟨components, hmem⟩
  rcases endsInName_of_expand hroot hexpand hentry with rfl | ⟨front, name, rfl, hname⟩
  · have hempty : resolve [] = some [] := rfl
    rw [hempty, Option.some.injEq] at hresolve
    simp at hresolve
  · rw [resolve_append_of_leadsOn front hname] at hresolve
    obtain ⟨plain, -, hplain⟩ := Option.map_eq_some_iff.mp hresolve
    obtain ⟨-, hlast⟩ := List.append_inj' hplain rfl
    rw [List.getLast?_concat, List.singleton_inj.mp hlast]

end Glob

/-! ## Loading -/

section Loading

variable {root : String} {directory : Entry} {partials loaded : Partials} {count n : Nat}

/-- A file that can be read is loaded, and loading goes on. -/
theorem loadFiles_cons_of_read {path plain : List String} {bytes : List UInt8} {source : String}
    (hresolve : Glob.resolve path = some plain) (hfile : directory.find? plain = some (.file bytes))
    (hread : directory.readText plain = .ok source) (rest : List (List String)) :
    loadFiles root directory partials count (path :: rest) =
      loadFiles root directory
        (Bindings.insert partials (loadedName (path.getLast?.getD "")) source) (count + 1) rest := by
  have hentry : Glob.entryAt? directory path = some (.file bytes) := by
    rw [Glob.entryAt?, hresolve, Option.bind_some, hfile]
  rw [loadFiles, hentry, hresolve]
  simp only [hread]

/-- Loading goes on behind files that it has loaded without a fault. -/
theorem loadFiles_append {before : List (List String)}
    (h : loadFiles root directory partials count before = ⟨loaded, .ok n⟩)
    (after : List (List String)) :
    loadFiles root directory partials count (before ++ after) =
      loadFiles root directory loaded n after := by
  induction before generalizing partials count with
  | nil =>
    obtain ⟨rfl, hcount⟩ := Loading.mk.inj h
    rw [List.nil_append, Except.ok.inj hcount]
  | cons path before ih =>
    rw [List.cons_append]
    rw [loadFiles] at h ⊢
    split at h
    · split at h
      · exact ih h
      · cases h
    · exact ih h

/-- Loading changes nothing under a name that no file is loaded under. -/
theorem find?_loadFiles_of_ne {name : String} {found : List (List String)}
    (h : ∀ path ∈ found, loadedName (path.getLast?.getD "") ≠ name) :
    Bindings.find? (loadFiles root directory partials count found).partials name =
      Bindings.find? partials name := by
  induction found generalizing partials count with
  | nil => rfl
  | cons path found ih =>
    obtain ⟨hpath, hfound⟩ := List.forall_mem_cons.mp h
    rw [loadFiles]
    split
    · split
      · rw [ih hfound, Bindings.find?_insert_of_ne _ hpath]
      · rfl
    · exact ih hfound

end Loading

/-- Whether a file is loaded under a name. Whatever pattern finds it, and however it is spelled
there: once loading has got to it, and it can be read, its text is put in under this name and
loading goes on; and the text is read under the name if no other file is loaded under it
afterwards. -/
def LoadedAs (directory : Entry) (file : List String) (name : String) : Prop :=
  ∀ (root : String) (partials : Partials) (pattern : String) (before after : List (List String))
    (path : List String) (loaded : Partials) (count : Nat) (source : String),
    Glob.find directory pattern.toList = .ok (before ++ path :: after) →
    Glob.resolve path = some file →
    directory.readText file = .ok source →
    loadFiles root directory partials 0 before = ⟨loaded, .ok count⟩ →
      load root directory partials pattern =
          loadFiles root directory (Bindings.insert loaded name source) (count + 1) after ∧
        ((∀ other ∈ after, loadedName (other.getLast?.getD "") ≠ name) →
          (load root directory partials pattern).partials.read name = .ok source)

/-- The file of a partial is loaded under the last component of its path. -/
theorem loadedAs_fileName {directory : Entry} (h : directory.WellNamed) (above : List String)
    (last : String) : LoadedAs directory (above ++ [fileName last]) last := by
  intro root partials pattern before after path loaded count source hfound hresolve hread hbefore
  obtain ⟨bytes, hfile⟩ := Entry.exists_file_of_readText hread
  have hlast : path.getLast? = some (fileName last) :=
    Glob.getLast?_of_find h hfound (List.mem_append_right _ List.mem_cons_self) hresolve hfile
  have hload : load root directory partials pattern =
      loadFiles root directory (Bindings.insert loaded last source) (count + 1) after := by
    calc load root directory partials pattern
        = loadFiles root directory partials 0 (before ++ path :: after) := by rw [load, hfound]
      _ = loadFiles root directory loaded count (path :: after) := loadFiles_append hbefore _
      _ = _ := by
        rw [loadFiles_cons_of_read hresolve hfile hread, hlast, Option.getD_some,
          loadedName_fileName]
  refine ⟨hload, fun hafter => ?_⟩
  rw [hload, Partials.read, find?_loadFiles_of_ne hafter, Bindings.find?_insert_self]

/-! ## Paths -/

/-- **Paths of partials stay below the root and do not collide.** A path has a file exactly if none
of its components, which are the path between its slashes, is empty, a point or two points or has a
backslash. The file is behind the root what the path says, but that the last component is put in the
name of a file. So its steps are those of the root and then names only, at least one; the file of
any other path takes other steps; and loaded into memory, it is known by the last component. -/
theorem paths_confined (root path : String) :
    ("/".intercalate (components path) = path ∧ ∀ c ∈ components path, '/' ∉ c.toList) ∧
      ((∃ file, templatePath root path = .ok file) ↔
        ∀ c ∈ components path, c ≠ "" ∧ c ≠ "." ∧ c ≠ ".." ∧ '\\' ∉ c.toList) ∧
      ∀ file, templatePath root path = .ok file → ∃ above last names,
        components path = above ++ [last] ∧ names = above ++ ["_" ++ last ++ ".liquid"] ∧
        file = descend root ("/".intercalate names) ∧
        steps file = steps root ++ names ∧ (∀ c ∈ names, IsName c) ∧
        (∀ other file', templatePath root other = .ok file' → steps file' = steps file →
          other = path) ∧
        ∀ directory : Entry, directory.WellNamed → LoadedAs directory names last := by
  refine ⟨⟨intercalate_components path, fun c => not_mem_of_mem_components⟩, ?_, ?_⟩
  · constructor
    · rintro ⟨file, hfile⟩ c hc
      obtain ⟨names, hnames, -⟩ := templatePath_eq_ok_iff.mp hfile
      exact (isPlain_iff c).mp ((fileOf?_eq_some_iff.mp hnames).1 c hc)
    · intro h
      obtain ⟨above, last, -, hfile⟩ := exists_fileOf? fun c hc => (isPlain_iff c).mpr (h c hc)
      exact ⟨_, templatePath_eq_ok_iff.mpr ⟨_, hfile, rfl⟩⟩
  · intro file hfile
    obtain ⟨names, hnames, rfl⟩ := templatePath_eq_ok_iff.mp hfile
    have hname := isName_of_mem_file hnames
    obtain ⟨-, above, last, hparts, rfl⟩ := fileOf?_eq_some_iff.mp hnames
    refine ⟨above, last, _, hparts, rfl, below_eq root (by simp) hname, steps_below root hname,
      hname, ?_, fun directory h => loadedAs_fileName h above last⟩
    intro other file' hother hsteps
    obtain ⟨names', hnames', rfl⟩ := templatePath_eq_ok_iff.mp hother
    rw [steps_below root (isName_of_mem_file hnames'), steps_below root hname] at hsteps
    rw [List.append_cancel_left hsteps] at hnames'
    exact fileOf?_injective hnames' hnames

/-- A directory with the file of a partial below it, and another file beside that. -/
def cards : Entry :=
  .directory [("a", .directory [("_c.liquid", .file [104, 105]), ("notes", .file [])])]

theorem wellNamed_cards : cards.WellNamed := by
  refine .directory (by decide) (List.forall_mem_singleton.mpr ?_)
  refine .directory (by decide) (List.forall_mem_cons.mpr ⟨.file _, ?_⟩)
  exact List.forall_mem_singleton.mpr (.file _)

/-- A star fits every name. -/
theorem Glob.fits_sequence (cs : List Char) : Glob.fits [.sequence] cs = true := by
  induction cs with
  | nil => simp [Glob.fits]
  | cons c rest ih => simp [Glob.fits, ih]

theorem find_cards :
    Glob.find cards "a/*".toList = .ok [["a", "_c.liquid"], ["a", "notes"]] := by
  have hcomponents : Glob.components? "a/*".toList = .ok [[.char 'a'], [.sequence]] := by
    decide +kernel
  have hname : Glob.literal? [.char 'a'] = some "a" := rfl
  have hstar : Glob.literal? [.sequence] = none := rfl
  have hleads : Glob.leadsOn cards [] "a" := by decide +kernel
  have hfits : Glob.namesFitting cards ["a"] [.sequence] = ["_c.liquid", "notes"] := by
    simp only [Glob.namesFitting, Glob.fits_sequence]
    rfl
  have hexpand : Glob.expand cards [] [[.char 'a'], [.sequence]] =
      [["a", "_c.liquid"], ["a", "notes"]] := by
    simp [Glob.expand, hname, hleads, hstar, hfits, Glob.isRecursive]
  rw [Glob.find, hcomponents, ← hexpand]
  rfl

theorem paths_confined_cards :
    templatePath "/srv" "a/c" = .ok "/srv/a/_c.liquid" ∧
      Glob.find cards "a/*".toList = .ok [["a", "_c.liquid"], ["a", "notes"]] ∧
      (load "/srv" cards [("c", "old")] "a/*").partials.read "c" = .ok "hi" := by
  have hpath : templatePath "/srv" "a/c" = .ok "/srv/a/_c.liquid" := by decide +kernel
  obtain ⟨-, -, hfile⟩ := paths_confined "/srv" "a/c"
  obtain ⟨above, last, names, hcomponents, rfl, -, -, -, -, hloaded⟩ := hfile _ hpath
  have hsplit : components "a/c" = ["a"] ++ ["c"] := by decide +kernel
  obtain ⟨rfl, hlast⟩ := List.append_inj' (hcomponents.symm.trans hsplit) rfl
  obtain rfl := List.singleton_inj.mp hlast
  obtain ⟨-, hread⟩ := hloaded cards wellNamed_cards "/srv" [("c", "old")] "a/*" []
    [["a", "notes"]] ["a", "_c.liquid"] [("c", "old")] 0 "hi" find_cards (by decide)
    (by decide +kernel) rfl
  exact ⟨hpath, find_cards, hread (by decide)⟩

end Stencil.Storage
