import Stencil.Template.Tag

/-!
# Blocks

A block is a tag that encloses a part of the template, up to the tag named `end` and its own name.
Tags that are not registered divide a block into sections. What each kind of block makes of them is
said here: `Block.divide` begins the next section and `Block.close` makes the node.
-/

namespace Stencil.Template

open Stencil.Markup

/-- A block that is open: its tag and the sections that have been read. -/
inductive Block where
  /-- The condition is that of the section being read; the `else` section has none. -/
  | conditional (tag : String) (inverted : Bool) (before : List Branch)
      (condition : Option Condition)
  /-- The body is there once the `else` section is being read. -/
  | loop (tag : String) (header : LoopHeader) (body : Option (List Node))
  /-- The label is missing before the first clause. -/
  | choice (tag : String) (subject : Expression) (before : List Clause) (label : Option Label)
  | capture (tag : String) (name : String)
  /-- Within a comment, only comments of the same name are counted. -/
  | comment (tag : String) (inside : Nat)
  | repetition (tag : String) (times : Expression)

namespace Block

/-- The name of the tag of a block. -/
def tag : Block → String
  | .conditional tag .. => tag
  | .loop tag .. => tag
  | .choice tag .. => tag
  | .capture tag .. => tag
  | .comment tag .. => tag
  | .repetition tag .. => tag

/-- The name of the tag that closes the blocks of a tag. -/
def closing (tag : String) : String := "end" ++ tag

/-! ## Sections -/

/-- The clauses of a choice, once the section of a label has been read. What comes before the
first clause is dropped. -/
def clausesWith (before : List Clause) (label : Option Label) (nodes : List Node) :
    List Clause :=
  match label with
  | none => before
  | some label => before ++ [.mk label nodes]

/-- Begins the section that a tag stands for, when the nodes of a section have been read. -/
def divide (b : Block) (nodes : List Node) (name : String) (markup : Option (List Char)) :
    Except SyntaxError Block :=
  match b with
  | .conditional tag inverted before condition =>
    if name = "elsif" ∨ name = "else" then
      if condition.isNone then .error (.invalid (.branchAfterElse name tag))
      else do
        let next ← if name = "else" then pure none
          else some <$> readMarkup name markup Reader.condition
        return .conditional tag inverted (before ++ [.mk condition nodes]) next
    else .error (.unknownTag name)
  | .loop tag header none =>
    if name = "else" then .ok (.loop tag header (some nodes)) else .error (.unknownTag name)
  | .choice tag subject before label =>
    if name = "when" then do
      let next ← readMarkup name markup readLabel
      return .choice tag subject (clausesWith before label nodes) (some next)
    else if name = "else" then
      .ok (.choice tag subject (clausesWith before label nodes) (some .otherwise))
    else .error (.unknownTag name)
  | _ => .error (.unknownTag name)

/-- The node that a block is when the nodes of its last section have been read. -/
def close (b : Block) (nodes : List Node) : Node :=
  match b with
  | .conditional _ inverted before condition =>
    .conditional inverted (before ++ [.mk condition nodes])
  | .loop tag header none => .loop tag header nodes none
  | .loop tag header (some body) => .loop tag header body (some nodes)
  | .choice _ subject before label => .choice subject (clausesWith before label nodes)
  | .capture _ name => .capture name nodes
  | .comment .. => .comment
  | .repetition _ times => .repetition times nodes

end Block

/-! ## Opening tags -/

/-- What a registered tag begins. -/
inductive Opening where
  /-- A node without a body. -/
  | leaf (node : Node)
  | block (b : Block)

/-- Reads the markup of a registered tag. -/
def TagKind.open? (kind : TagKind) (tag : String) (markup : Option (List Char)) :
    Except SyntaxError Opening :=
  match kind with
  | .assign => do
    let (name, value) ← readMarkup "assign" markup readAssignment
    return .leaf (.assign name value)
  | .capture => return .block (.capture tag (← readMarkup tag markup readTarget))
  | .choice => return .block (.choice tag (← readMarkup tag markup Reader.expression) [] none)
  | .comment => return .block (.comment tag 0)
  | .conditional inverted => do
    let condition ← readMarkup tag markup Reader.condition
    return .block (.conditional tag inverted [] (some condition))
  | .counter direction => return .leaf (.counter direction (← readMarkup tag markup Reader.name))
  | .inclusion => return .leaf (.inclusion (← readMarkup tag markup readInclusion))
  | .interrupt kind => return .leaf (.interrupt kind)
  | .loop => return .block (.loop tag (← readMarkup tag markup (readLoopHeader tag)) none)
  | .repetition => return .block (.repetition tag (← readMarkup tag markup Reader.expression))
  | .rotation => return .leaf (.rotation (← readMarkup tag markup (readRotation tag)))

end Stencil.Template
