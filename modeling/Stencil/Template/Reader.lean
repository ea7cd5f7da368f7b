import Stencil.Template.Block
import Stencil.Template.Piece

/-!
# Reading templates

The pieces of a source are read into nodes in one pass. What is open is kept on a stack, the
innermost block first. A registered tag is a leaf or opens a block. Any other tag is handed to the
innermost block, which it closes or divides; outside all blocks it stops the reading.

* `readNodes` — reads up to a tag that nothing can make use of
* `readSection` — reads up to the end or the next divider of a block that is open already
* `nodesOf` — reads a whole source
-/

namespace Stencil.Template

open Stencil.Markup

/-! ## What is open -/

/-- A block that is open, with the nodes of the section being read, latest first. -/
structure Frame where
  block : Block
  nodes : List Node

/-- What has been read: the open blocks, innermost first, and the nodes outside of them, latest
first. -/
structure Progress where
  frames : List Frame
  nodes : List Node

namespace Progress

/-- Nothing has been read. -/
def start : Progress := ⟨[], []⟩

/-- Adds a node to the section being read. -/
def add (p : Progress) (node : Node) : Progress :=
  match p.frames with
  | [] => { p with nodes := node :: p.nodes }
  | frame :: outer => { p with frames := { frame with nodes := node :: frame.nodes } :: outer }

/-- Goes on with what a registered tag begins. -/
def enter (p : Progress) : Opening → Progress
  | .leaf node => p.add node
  | .block b => { p with frames := ⟨b, []⟩ :: p.frames }

/-- Hands a tag that is not registered to the innermost block. -/
def hand (p : Progress) (frame : Frame) (outer : List Frame) (name : String)
    (markup : Option (List Char)) : Except SyntaxError Progress :=
  if name = Block.closing frame.block.tag then
    .ok (({ p with frames := outer } : Progress).add (frame.block.close frame.nodes.reverse))
  else
    (frame.block.divide frame.nodes.reverse name markup).map fun b =>
      { p with frames := ⟨b, []⟩ :: outer }

/-- Passes a tag within a comment by; only comments of the same name are counted. -/
def skipTag (p : Progress) (tag : String) (inside : Nat) (outer : List Frame) (name : String) :
    Progress :=
  if name = tag then { p with frames := ⟨.comment tag (inside + 1), []⟩ :: outer }
  else if name = Block.closing tag then
    match inside with
    | 0 => ({ p with frames := outer } : Progress).add .comment
    | inside + 1 => { p with frames := ⟨.comment tag inside, []⟩ :: outer }
  else p

end Progress

/-! ## Steps -/

/-- What one piece leads to. -/
inductive Step where
  | next (p : Progress)
  /-- A tag that is not registered stands outside all blocks. -/
  | stop (name : String) (markup : Option (List Char))
  | fail (cause : SyntaxError)

/-- A step that may have failed. -/
def Step.ofExcept : Except SyntaxError Progress → Step
  | .ok p => .next p
  | .error e => .fail e

/-- Takes in one piece. -/
def Progress.step (tags : TagTable) (p : Progress) (piece : Piece) : Step :=
  match p.frames, piece with
  | ⟨.comment tag inside, _⟩ :: outer, .tag name _ => .next (p.skipTag tag inside outer name)
  | ⟨.comment .., _⟩ :: _, _ => .next p
  | _, .text content => .next (p.add (.text (String.ofList content)))
  | _, .output markup =>
    .ofExcept ((Pipeline.ofMarkup markup).map fun pipeline => p.add (.output pipeline))
  | frames, .tag name markup =>
    match Bindings.find? tags name, frames with
    | some kind, _ => .ofExcept ((kind.open? name markup).map p.enter)
    | none, [] => .stop name markup
    | none, frame :: outer => .ofExcept (p.hand frame outer name markup)

/-! ## Stretches -/

/-- Why reading ended. -/
inductive Stop where
  /-- There are no more pieces. -/
  | finished
  /-- A tag came that is not registered. -/
  | tag (name : String) (markup : Option (List Char))
  | failed (cause : SyntaxError)

/-- What reading gives: the nodes outside all blocks, why it ended, and the pieces that are left. -/
structure Stretch where
  nodes : List Node
  stop : Stop
  rest : List Piece

/-- Why reading ended with the last piece. -/
def Progress.finish (p : Progress) : Stop :=
  match p.frames with
  | [] => .finished
  | frame :: _ => .failed (.unclosedTag frame.block.tag)

/-- Reads on from what has been read. -/
def readFrom (tags : TagTable) (p : Progress) : List Piece → Stretch
  | [] => ⟨p.nodes.reverse, p.finish, []⟩
  | piece :: rest =>
    match p.step tags piece with
    | .next p => readFrom tags p rest
    | .stop name markup => ⟨p.nodes.reverse, .tag name markup, rest⟩
    | .fail cause => ⟨p.nodes.reverse, .failed cause, rest⟩

/-- Reads nodes up to the first tag that is neither registered nor a part of a block. -/
def readNodes (tags : TagTable) (ps : List Piece) : Stretch :=
  readFrom tags .start ps

/-- Reads one section of a block that has been opened before. A source must not end within it. -/
def readSection (tags : TagTable) (tag : String) (ps : List Piece) : Stretch :=
  let s := readNodes tags ps
  match s.stop with
  | .finished => { s with stop := .failed (.unclosedTag tag) }
  | _ => s

/-- The nodes of a source, in which every tag must be registered or be a part of a block. -/
def nodesOf (tags : TagTable) (source : List Char) : Except SyntaxError (List Node) :=
  let s := readNodes tags (pieces source)
  match s.stop with
  | .finished => .ok s.nodes
  | .tag name _ => .error (.unknownTag name)
  | .failed cause => .error cause

end Stencil.Template
