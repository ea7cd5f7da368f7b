import Stencil.Error
import Stencil.Text.Search

/-!
# Paths of partials

A partial on disk is named by a path below the root. The last component stands for a file whose
name begins with an underscore and ends in `.liquid`. Paths that could lead out of the root are
refused.
-/

namespace Stencil.Storage

/-- The components of a path. -/
def components (path : String) : List String :=
  (Text.splitOn ['/'] path.toList).map String.ofList

/-- Whether a component names something below the directory it is looked up in. -/
def isPlain (component : String) : Bool :=
  !component.isEmpty && component ≠ "." && component ≠ ".." && !component.toList.contains '\\'

/-- The name of the file of a partial. -/
def fileName (name : String) : String :=
  "_" ++ name ++ ".liquid"

/-- The components of the file of a partial, below the root. -/
def fileOf? (path : String) : Option (List String) :=
  let names := components path
  if names.all isPlain then
    some (names.dropLast ++ (names.getLast?.map fileName).toList)
  else none

/-- A path with one more component. No slash is added to an empty path, nor to one that ends in a
slash. -/
def descend (path name : String) : String :=
  if path.toList.getLast?.all (· = '/') then path ++ name else path ++ "/" ++ name

/-- Components behind a root. -/
def below (root : String) (names : List String) : String :=
  names.foldl descend root

/-- The file of a partial. -/
def templatePath (root path : String) : Except StorageFault String :=
  match fileOf? path with
  | some names => .ok (below root names)
  | none => .error (.illegalPath path)

end Stencil.Storage
