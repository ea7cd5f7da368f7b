import Stencil.Storage.FileTree

/-!
# Patterns for paths

A pattern is a path whose components may have wildcards: `?` for one character, `*` for any number
of them, and brackets for a choice of characters. A component `**` stands for any number of
directories.

* `Glob.components?` — reads a pattern
* `Glob.find` — the paths below a directory that a pattern fits, directories in order of names
-/

namespace Stencil.Storage.Glob

/-! ## Patterns -/

/-- A part of a pattern. -/
inductive Symbol where
  | char (c : Char)
  | any
  | sequence
  | recursive
  /-- A character in one of the ranges. -/
  | within (ranges : List (Char × Char))
  /-- A character in none of the ranges. -/
  | except (ranges : List (Char × Char))
  deriving DecidableEq, Repr

/-- A component of a pattern. -/
abbrev Component := List Symbol

/-- The ranges between brackets. -/
def ranges : List Char → List (Char × Char)
  | [] => []
  | [a] => [(a, a)]
  | [a, b] => [(a, a), (b, b)]
  | a :: b :: c :: rest =>
    if b = '-' then (a, c) :: ranges rest else (a, a) :: ranges (b :: c :: rest)

/-- The choice behind an opening bracket, and how many characters it takes. A closing bracket in
the first place is one of the choice. -/
def choice? (cs : List Char) : Option (Symbol × Nat) :=
  match cs with
  | '!' :: first :: rest =>
    let others := rest.takeWhile (· ≠ ']')
    if others.length < rest.length then
      some (.except (ranges (first :: others)), others.length + 3)
    else none
  | '!' :: [] => none
  | first :: rest =>
    let others := rest.takeWhile (· ≠ ']')
    if others.length < rest.length then
      some (.within (ranges (first :: others)), others.length + 2)
    else none
  | [] => none

/-- What goes wrong in a pattern, and where. -/
abbrev Fault := Nat × PatternFault

/-- The wildcard that stars before `rest` stand for, and how many characters beyond the first star
it takes. The position is that of the first star. -/
def stars (before : Option Char) (position count : Nat) (rest : List Char) :
    Except Fault (Symbol × Nat) :=
  if 2 < count then .error (position + 2, .wildcards)
  else if count = 1 then .ok (.sequence, 0)
  else if before.all (· = '/') then
    match rest with
    | [] => .ok (.recursive, 1)
    | '/' :: _ => .ok (.recursive, 2)
    | _ => .error (position + 2, .recursive)
  else .error (position - 1, .recursive)

/-- Reads a pattern. The first argument counts the characters that belong to a symbol already
read. -/
def readFrom (skip : Nat) (position : Nat) (before : Option Char) :
    List Char → Except Fault Component
  | [] => .ok []
  | c :: rest =>
    match skip with
    | skip + 1 => readFrom skip (position + 1) (some c) rest
    | 0 =>
      if c = '?' then (readFrom 0 (position + 1) (some c) rest).map (.any :: ·)
      else if c = '*' then do
        let more := (rest.takeWhile (· = '*')).length
        let (symbol, length) ← stars before position (more + 1) (rest.drop more)
        (readFrom length (position + 1) (some c) rest).map (symbol :: ·)
      else if c = '[' then
        match choice? rest with
        | some (symbol, length) => (readFrom length (position + 1) (some c) rest).map (symbol :: ·)
        | none => .error (position, .range)
      else (readFrom 0 (position + 1) (some c) rest).map (.char c :: ·)

/-- Reads one component, or a whole pattern to see whether it is one. -/
def read (cs : List Char) : Except Fault Component :=
  readFrom 0 0 none cs

/-- The components of a pattern as text; one that ends in a slash has no empty component there. -/
def split (cs : List Char) : List (List Char) :=
  let parts := Text.splitOn ['/'] cs
  if parts.getLast? = some [] then parts.dropLast else parts

/-- The components of a pattern. The pattern must be one as a whole as well. -/
def components? (cs : List Char) : Except Fault (List Component) := do
  let _ ← read cs
  (split (if cs.head? = some '/' then cs.drop 1 else cs)).mapM read

/-! ## Matching names -/

/-- Whether a symbol for one character accepts it. -/
def Symbol.accepts (s : Symbol) (c : Char) : Bool :=
  match s with
  | .char d => c == d
  | .any => true
  | .within ranges => ranges.any fun (first, last) => first ≤ c && c ≤ last
  | .except ranges => !ranges.any fun (first, last) => first ≤ c && c ≤ last
  | .sequence | .recursive => false

/-- Whether a component fits a name. -/
def fits : Component → List Char → Bool
  | [], cs => cs.isEmpty
  | .sequence :: symbols, [] => fits symbols []
  | .sequence :: symbols, c :: cs => fits symbols (c :: cs) || fits (.sequence :: symbols) cs
  | _ :: _, [] => false
  | s :: symbols, c :: cs => s.accepts c && fits symbols cs

/-- The character that a symbol without wildcard stands for. -/
def Symbol.char? : Symbol → Option Char
  | .char c => some c
  | _ => none

/-- The name that a component without wildcards stands for. -/
def literal? (component : Component) : Option String :=
  (component.mapM Symbol.char?).map String.ofList

/-- Whether a component stands for any number of directories. -/
def isRecursive (component : Component) : Bool :=
  component == [.recursive]

/-! ## Finding paths -/

/-- A path with single and double points taken as what they mean, if it does not leave the
root. -/
def resolve (names : List String) : Option (List String) :=
  (names.foldlM (fun above name =>
    if name.isEmpty || name = "." then some above
    else if name = ".." then (match above with | [] => none | _ :: rest => some rest)
    else some (name :: above)) []).map List.reverse

/-- What is at a path. -/
def entryAt? (root : Entry) (names : List String) : Option Entry :=
  (resolve names).bind root.find?

/-- Whether there is a directory at a path. -/
def isDirectoryAt (root : Entry) (names : List String) : Bool :=
  (entryAt? root names).any (·.isDirectory)

/-- Whether a component without wildcards leads from a directory to something. -/
def leadsOn (root : Entry) (names : List String) (name : String) : Bool :=
  if name.isEmpty || name = "." || name = ".." then isDirectoryAt root names
  else (entryAt? root (names ++ [name])).isSome

/-- The names in a directory that a component fits. The directory itself and the one above it are
found by a component that begins with a point. -/
def namesFitting (root : Entry) (names : List String) (component : Component) : List String :=
  match entryAt? root names with
  | some (.directory entries) =>
    let special :=
      if component.head? = some (.char '.') then
        ["..", "."].filter fun name => fits component name.toList
      else []
    special ++ (Bindings.names entries).filter fun name => fits component name.toList
  | _ => []

/-- The paths that the components fit, from a path on. -/
def expand (root : Entry) (names : List String) : List Component → List (List String)
  | [] => [names]
  | component :: rest =>
    match literal? component with
    | some name => if leadsOn root names name then expand root (names ++ [name]) rest else []
    | none =>
      if isRecursive component then
        match _h : rest.dropWhile isRecursive with
        | [] =>
          ((entryAt? root names).elim [] (·.descendants)).filterMap fun (path, e) =>
            if e.isDirectory then some (names ++ path) else none
        | next :: further =>
          ((entryAt? root names).elim [] (·.descendants)).flatMap fun (path, _) =>
            if fits next (path.getLast?.getD "").toList then expand root (names ++ path) further
            else []
      else
        (namesFitting root names component).flatMap fun name =>
          expand root (names ++ [name]) rest
termination_by components => components.length
decreasing_by
  · simp
  · have h := (List.dropWhile_sublist (l := rest) isRecursive).length_le
    rw [_h] at h
    simp only [List.length_cons] at *
    omega
  · simp

/-- The paths below a root that a pattern fits; one that ends in a slash fits directories only. -/
def find (root : Entry) (pattern : List Char) : Except Fault (List (List String)) := do
  let paths := expand root [] (← components? pattern)
  return if pattern.getLast? = some '/' then paths.filter (isDirectoryAt root) else paths

end Stencil.Storage.Glob
