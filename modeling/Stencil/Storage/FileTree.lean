import Stencil.Bindings
import Stencil.Error
import Stencil.Storage.Path
import Stencil.Text.Percent

/-!
# File trees

Directories and files below a root, and what comes of reading a file: its text, or the fault that
is met first on the way to it.
-/

namespace Stencil.Storage

/-- A directory or a file. -/
inductive Entry where
  | file (bytes : List UInt8)
  | directory (entries : List (String × Entry))
  deriving Inhabited

namespace Entry

/-! ## Building -/

/-- The entries of a directory; a file has none. -/
def entries : Entry → Bindings Entry
  | .file _ => []
  | .directory entries => entries

/-- Whether an entry is a directory. -/
def isDirectory : Entry → Bool
  | .file _ => false
  | .directory _ => true

/-- An empty directory. -/
def empty : Entry := .directory []

/-- Puts a file at a path, with the directories it needs. -/
def insert (e : Entry) (bytes : List UInt8) : List String → Entry
  | [] => .file bytes
  | name :: path =>
    let inner := (Bindings.find? e.entries name).getD empty
    .directory (Bindings.insert e.entries name (inner.insert bytes path))

/-! ## Looking -/

/-- The entry at a path of plain components. -/
def find? (e : Entry) : List String → Option Entry
  | [] => some e
  | name :: path => (Bindings.find? e.entries name).bind (·.find? path)

mutual

/-- All entries below a directory, each with its path; a directory comes before what it holds. -/
def descendants : Entry → List (List String × Entry)
  | .file _ => []
  | .directory entries => allDescendants entries

/-- The given entries and all entries below them. -/
def allDescendants : List (String × Entry) → List (List String × Entry)
  | [] => []
  | (name, e) :: rest =>
    ([name], e) :: (descendants e).map (fun (path, inner) => (name :: path, inner)) ++
      allDescendants rest

end

/-! ## Reading -/

/-- The greatest number of bytes of a name. -/
def maxNameBytes : Nat := 255

/-- The greatest number of bytes of a path. -/
def maxPathBytes : Nat := 4095

/-- Follows a path of plain components to a file. -/
def follow (e : Entry) : List String → Except FileFault (List UInt8)
  | [] =>
    match e with
    | .file bytes => .ok bytes
    | .directory _ => .error .directory
  | name :: path =>
    match e with
    | .file _ => .error .belowAFile
    | .directory entries =>
      if maxNameBytes < name.utf8ByteSize then .error .nameTooLong
      else
        match Bindings.find? entries name with
        | some inner => inner.follow path
        | none => .error .missing

/-- The text of the file at a path of plain components. -/
def readText (e : Entry) (names : List String) : Except FileFault String :=
  let path := below "/" names
  if path.toList.contains '\x00' then .error .nulInName
  else if maxPathBytes < path.utf8ByteSize then .error .nameTooLong
  else do
    let bytes ← e.follow names
    match Text.ofUtf8? bytes with
    | some cs => return String.ofList cs
    | none => throw .notText

end Entry

end Stencil.Storage
