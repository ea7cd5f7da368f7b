import Stencil.Bindings
import Stencil.Markup.Reader
import Stencil.Template.Node

/-!
# Tags

The kinds of tags, the names they go by, and the markup each kind takes.
-/

namespace Stencil.Template

open Stencil.Markup

/-! ## Kinds -/

/-- The kinds of tags that can be registered under a name. -/
inductive TagKind where
  | assign
  | capture
  | choice
  | comment
  | conditional (inverted : Bool)
  | counter (direction : Direction)
  | inclusion
  | interrupt (kind : Interrupt)
  | loop
  | repetition
  | rotation
  deriving DecidableEq, Repr

/-- Names of tags, each with the kind of tag it begins. -/
abbrev TagTable := Bindings TagKind

/-- The standard tags. -/
def TagTable.standard : TagTable :=
  Bindings.ofList [
    ("assign", .assign),
    ("break", .interrupt .breakLoop),
    ("capture", .capture),
    ("case", .choice),
    ("comment", .comment),
    ("continue", .interrupt .continueLoop),
    ("cycle", .rotation),
    ("decrement", .counter .down),
    ("for", .loop),
    ("if", .conditional false),
    ("include", .inclusion),
    ("increment", .counter .up),
    ("unless", .conditional true)]

/-! ## Markup -/

/-- Runs a reader on the markup of a tag, which must be there and be read to its end. -/
def readMarkup {α : Type} (tag : String) (markup : Option (List Char)) (r : Reader α) :
    Except SyntaxError α :=
  match markup with
  | none => .error (.missingMarkup tag)
  | some cs => r.whole cs

/-- Reads `name = pipeline`. -/
def readAssignment : Reader (String × Pipeline) := do
  let name ← Reader.name
  let _ ← Reader.expect .equal
  return (name, ← Reader.pipeline)

/-- Reads a name, which may be written as a string. -/
def readTarget : Reader String := do
  match ← Reader.take? .identifier with
  | some name => return String.ofList name
  | none => return String.ofList (← Reader.expect .string)

/-- Reads expressions as long as a comma comes. -/
def readMore (ts : List Lexeme) : Reading (List Expression) :=
  match ts with
  | ⟨.comma, _⟩ :: behind =>
    match _h : readExpression behind with
    | (.error e, rest) => (.error e, rest)
    | (.ok first, rest) =>
      let (more, rest) := readMore rest
      (more.map (first :: ·), rest)
  | ts => (.ok [], ts)
termination_by ts.length
decreasing_by
  have h := (readExpression_suffix behind).length_le
  rw [_h] at h
  simp only [List.length_cons]
  simp only at h
  omega

/-- Reads `group: first, second, …`, where the group may be missing. -/
def readRotation (tag : String) : Reader Rotation := do
  let e ← Reader.expression
  match ← Reader.take? .colon with
  | some _ =>
    let first ← Reader.expression
    return ⟨tag, some e, first, ← Reader.of readMore⟩
  | none => return ⟨tag, none, e, ← Reader.of readMore⟩

/-! ### Loops -/

/-- Reads a range in round brackets or a collection. -/
def readLoopSource : Reader LoopSource := do
  match ← Reader.take? .openRound with
  | some _ =>
    let first ← Reader.expression
    let _ ← Reader.expect .dotDot
    let last ← Reader.expression
    let _ ← Reader.expect .closeRound
    return .range first last
  | none => return .collection (← Reader.expression)

/-- A loop header with the parameter that a key names. -/
def LoopHeader.set? (header : LoopHeader) (key : String) (e : Expression) : Option LoopHeader :=
  if key = "limit" then some { header with limit := some e }
  else if key = "offset" then some { header with offset := some e }
  else none

/-- Reads `key: expression` to the end, with commas where there are any. -/
def readLoopParameters (tag : String) (header : LoopHeader) (ts : List Lexeme) :
    Reading LoopHeader :=
  match ts with
  | [] => (.ok header, [])
  | ⟨.identifier, key⟩ :: ⟨.colon, _⟩ :: behind =>
    match _h : readExpression behind with
    | (.error e, rest) => (.error e, rest)
    | (.ok e, rest) =>
      match header.set? (String.ofList key) e with
      | none => (.error (.invalid (.unknownAttribute (String.ofList key) tag)), rest)
      | some header => readLoopParameters tag header (take? .comma rest).2
  | ⟨.identifier, _⟩ :: rest => (.error (unexpected Kind.colon.title rest), rest)
  | ts => (.error (unexpected Kind.identifier.title ts), ts)
termination_by ts.length
decreasing_by
  have h₁ := (readExpression_suffix behind).length_le
  have h₂ := (take?_suffix .comma rest).length_le
  rw [_h] at h₁
  simp only [List.length_cons]
  simp only at h₁
  omega

/-- Reads `item in source reversed limit: n offset: n`, of which only the source is needed. -/
def readLoopHeader (tag : String) : Reader LoopHeader := do
  let item ← Reader.name
  if ← Reader.takeWord? "in" then
    let source ← readLoopSource
    let reversed ← Reader.takeWord? "reversed"
    Reader.of (readLoopParameters tag ⟨item, source, reversed, none, none⟩)
  else throw (.invalid (.missingIn item tag))

/-! ### Choices -/

/-- Reads further values of a clause, divided by commas or `or`. -/
def readAlternatives (ts : List Lexeme) : Reading (List Expression) :=
  match ts with
  | ⟨kind, text⟩ :: behind =>
    if kind = .comma ∨ (kind = .identifier ∧ text = "or".toList) then
      match _h : readExpression behind with
      | (.error e, rest) => (.error e, rest)
      | (.ok first, rest) =>
        let (more, rest) := readAlternatives rest
        (more.map (first :: ·), rest)
    else if kind = .identifier then
      (.error (.invalid (.missingOr (String.ofList text))), behind)
    else (.ok [], ts)
  | [] => (.ok [], [])
termination_by ts.length
decreasing_by
  have h := (readExpression_suffix behind).length_le
  rw [_h] at h
  simp only [List.length_cons]
  simp only at h
  omega

/-- Reads the values of a clause. -/
def readLabel : Reader Label := do
  let first ← Reader.expression
  return .among (first :: (← Reader.of readAlternatives))

/-! ### Inclusions -/

/-- Reads `name: expression` as long as a name comes, with commas where there are any. -/
def readLocals (ts : List Lexeme) : Reading (List (String × Expression)) :=
  match ts with
  | ⟨.identifier, name⟩ :: ⟨.colon, _⟩ :: behind =>
    match _h : readExpression behind with
    | (.error e, rest) => (.error e, rest)
    | (.ok e, rest) =>
      let (more, rest) := readLocals (take? .comma rest).2
      (more.map ((String.ofList name, e) :: ·), rest)
  | ⟨.identifier, _⟩ :: rest => (.error (unexpected Kind.colon.title rest), rest)
  | ts => (.ok [], ts)
termination_by ts.length
decreasing_by
  have h₁ := (readExpression_suffix behind).length_le
  have h₂ := (take?_suffix .comma rest).length_le
  rw [_h] at h₁
  simp only [List.length_cons]
  simp only at h₁
  omega

/-- Reads what stands behind `for` or `with`, if either comes. -/
def readInclusionTarget : Reader (Option Expression) := do
  if ← Reader.takeWord? "for" then return some (← Reader.expression)
  else if ← Reader.takeWord? "with" then return some (← Reader.expression)
  else return none

/-- Reads `template with target name: expression …`, of which only the template is needed. -/
def readInclusion : Reader Inclusion := do
  let template ← Reader.expression
  let target ← readInclusionTarget
  return ⟨template, target, ← Reader.of readLocals⟩

end Stencil.Template
