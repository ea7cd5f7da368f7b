import Stencil.Storage.Glob

/-!
# Partials

Where the sources of partials come from: nowhere, from a collection in memory, or from files below
a directory. Files can be loaded into a collection; a file is known by its name without the
extension and without an underscore in front.
-/

namespace Stencil.Storage

/-- Gives the source of a partial. -/
abbrev Source := String → Except StorageFault String

/-- No partial can be had. -/
def forbidden : Source := fun _ => .error .includesForbidden

/-! ## In memory -/

/-- Partials in memory. -/
abbrev Partials := Bindings String

/-- The source of a partial in memory. -/
def Partials.read (partials : Partials) : Source := fun name =>
  match Bindings.find? partials name with
  | some source => .ok source
  | none => .error (.notFound name)

/-! ## On disk -/

/-- The source of a partial in a file below a directory. The root is what the directory is called
in messages. -/
def diskSource (root : String) (directory : Entry) : Source := fun path =>
  match fileOf? path with
  | none => .error (.illegalPath path)
  | some names => (directory.readText names).mapError (.unreadable (below root names))

/-! ## Loading -/

/-- A file name without its extension. A point in front begins no extension. -/
def stem (name : String) : String :=
  let reversed := name.toList.reverse
  match (reversed.dropWhile (· ≠ '.')).drop 1 with
  | [] => name
  | rest => String.ofList rest.reverse

/-- The name that a file is loaded under. -/
def loadedName (name : String) : String :=
  match (stem name).toList with
  | '_' :: rest => String.ofList rest
  | cs => String.ofList cs

/-- What is shown of a path below a root. -/
def shown (root : String) (names : List String) : String :=
  below root (names.filter (!·.isEmpty))

/-- What comes of loading: the partials, and their number or what went wrong. -/
structure Loading where
  partials : Partials
  outcome : Except StorageFault Nat

/-- Loads files one after another, up to the first that cannot be read. Directories are passed
over. -/
def loadFiles (root : String) (directory : Entry) (partials : Partials) (count : Nat) :
    List (List String) → Loading
  | [] => ⟨partials, .ok count⟩
  | names :: rest =>
    match Glob.entryAt? directory names, Glob.resolve names with
    | some (.file _), some plain =>
      match directory.readText plain with
      | .ok source =>
        let name := loadedName (names.getLast?.getD "")
        loadFiles root directory (Bindings.insert partials name source) (count + 1) rest
      | .error fault => ⟨partials, .error (.unreadable (shown root names) fault)⟩
    | _, _ => loadFiles root directory partials count rest

/-- What is shown of a pattern below a root. -/
def shownPattern (root pattern : String) : String :=
  if root.isEmpty then pattern else root ++ "/" ++ pattern

/-- Loads all files that a pattern fits. -/
def load (root : String) (directory : Entry) (partials : Partials) (pattern : String) : Loading :=
  match Glob.find directory pattern.toList with
  | .ok paths => loadFiles root directory partials 0 paths
  | .error (position, fault) =>
    ⟨partials, .error (.invalidPattern (shownPattern root pattern) position fault)⟩

end Stencil.Storage
