import Stencil.Proofs.Sequencing
import Stencil.Template.Reader

/-!
# Outlines of sources

How tags enclose one another in a source can be told from their names alone: each block is closed by
the tag named `end` and its own name, the innermost first, and is divided by the tags that its kind
allows. An outline is this structure, of a source that is closed throughout or of the beginning of
one.

* `Part.Nested` — the rules of nesting
* `Part.Makes` — the nodes that an outline stands for
* `Unfinished` — the outline of a beginning, in which blocks are still open
* `Offence` — why a source has no outline, and the error that tells it
-/

namespace Stencil.Template

open Stencil.Markup

/-! ## Outlines -/

/-- What stands in a block: a first section, and further ones that begin with a tag each. -/
inductive Sections (α : Type) where
  | first (items : List α)
  | next (before : Sections α) (name : String) (markup : Option (List Char)) (items : List α)

namespace Sections

variable {α : Type}

/-- The last section. -/
def last : Sections α → List α
  | .first items => items
  | .next _ _ _ items => items

/-- Adds to the last section. -/
def add : Sections α → α → Sections α
  | .first items, item => .first (items ++ [item])
  | .next before name markup items, item => .next before name markup (items ++ [item])

/-- The names of the tags that divide sections, in order. -/
def dividers : Sections α → List String
  | .first _ => []
  | .next before name _ _ => before.dividers ++ [name]

@[simp]
theorem last_add (s : Sections α) (item : α) : (s.add item).last = s.last ++ [item] := by
  cases s <;> rfl

@[simp]
theorem dividers_add (s : Sections α) (item : α) : (s.add item).dividers = s.dividers := by
  cases s <;> rfl

end Sections

/-- A part of a source that is closed throughout. -/
inductive Part where
  | text (content : List Char)
  | output (markup : List Char)
  /-- A tag that encloses nothing. -/
  | leaf (name : String) (markup : Option (List Char))
  | comment (name : String) (markup : Option (List Char)) (inside : List Piece)
    (ending : Option (List Char))
  | block (name : String) (markup : Option (List Char)) (body : Sections Part)
    (ending : Option (List Char))

mutual

/-- The pieces of a part. -/
def Part.pieces : Part → List Piece
  | .text content => [.text content]
  | .output markup => [.output markup]
  | .leaf name markup => [.tag name markup]
  | .comment name markup inside ending =>
    .tag name markup :: inside ++ [.tag (Block.closing name) ending]
  | .block name markup body ending =>
    .tag name markup :: sectionPieces body ++ [.tag (Block.closing name) ending]

/-- The pieces of parts, in order. -/
def partPieces : List Part → List Piece
  | [] => []
  | part :: rest => part.pieces ++ partPieces rest

/-- The pieces of sections and of the tags between them. -/
def sectionPieces : Sections Part → List Piece
  | .first parts => partPieces parts
  | .next before name markup parts =>
    sectionPieces before ++ .tag name markup :: partPieces parts

end

/-! ## Nesting -/

/-- Whether a piece is a tag of a name. -/
def Piece.IsTag (name : String) : Piece → Prop
  | .tag other _ => other = name
  | _ => False

/-- What stands in a comment, where so many comments of the same name are open within. -/
inductive Commented (tag : String) : Nat → List Piece → Prop where
  | nil : Commented tag 0 []
  | other {n : Nat} {ps : List Piece} {piece : Piece} : Commented tag n ps → ¬piece.IsTag tag →
    ¬piece.IsTag (Block.closing tag) → Commented tag n (ps ++ [piece])
  | opening {n : Nat} {ps : List Piece} (markup : Option (List Char)) : Commented tag n ps →
    Commented tag (n + 1) (ps ++ [.tag tag markup])
  | closing {n : Nat} {ps : List Piece} (markup : Option (List Char)) : Commented tag (n + 1) ps →
    Commented tag n (ps ++ [.tag (Block.closing tag) markup])

/-- Whether a kind of tag encloses nothing. -/
def TagKind.isLeaf : TagKind → Bool
  | .assign | .counter _ | .inclusion | .interrupt _ | .rotation => true
  | _ => false

/-- Whether a kind of block can be divided by tags of these names, in this order. Nothing but the
end comes behind the `else` of a conditional. -/
def TagKind.Allows : TagKind → List String → Prop
  | .conditional _, names =>
    (∀ name ∈ names, name = "elsif" ∨ name = "else") ∧ "else" ∉ names.dropLast
  | .loop, names => names = [] ∨ names = ["else"]
  | .choice, names => ∀ name ∈ names, name = "when" ∨ name = "else"
  | .capture, names | .repetition, names => names = []
  | _, _ => False

mutual

/-- Tags are nested as their kinds allow. What closes or divides a block is not registered. -/
def Part.Nested (tags : TagTable) : Part → Prop
  | .text _ | .output _ => True
  | .leaf name _ => ∃ kind, Bindings.find? tags name = some kind ∧ kind.isLeaf
  | .comment name _ inside _ =>
    Bindings.find? tags name = some .comment ∧ Commented name 0 inside
  | .block name _ body _ =>
    (∃ kind, Bindings.find? tags name = some kind ∧ kind.Allows body.dividers) ∧
      Bindings.find? tags (Block.closing name) = none ∧ SectionsNested tags body

/-- Tags are nested in each part. -/
def PartsNested (tags : TagTable) : List Part → Prop
  | [] => True
  | part :: rest => part.Nested tags ∧ PartsNested tags rest

/-- Tags are nested in each section. -/
def SectionsNested (tags : TagTable) : Sections Part → Prop
  | .first parts => PartsNested tags parts
  | .next before name _ parts =>
    SectionsNested tags before ∧ Bindings.find? tags name = none ∧ PartsNested tags parts

end

/-! ## Nodes -/

/-- The condition of a further branch. -/
def IsCondition (name : String) (markup : Option (List Char)) (condition : Option Condition) :
    Prop :=
  (name = "elsif" ∧ ∃ c, readMarkup name markup Reader.condition = .ok c ∧ condition = some c) ∨
    (name = "else" ∧ condition = none)

/-- The label of a clause. -/
def IsLabel (name : String) (markup : Option (List Char)) (label : Label) : Prop :=
  (name = "when" ∧ readMarkup name markup readLabel = .ok label) ∨
    (name = "else" ∧ label = .otherwise)

/-- Sections are the branches of a conditional, the first of which has a given condition. -/
def AreBranches (c : Condition) : Sections Node → List Branch → Prop
  | .first nodes, branches => branches = [.mk (some c) nodes]
  | .next before name markup nodes, branches => ∃ earlier condition,
    AreBranches c before earlier ∧ IsCondition name markup condition ∧
      branches = earlier ++ [.mk condition nodes]

/-- Sections are the clauses of a choice. What comes before the first clause is dropped. -/
def AreClauses : Sections Node → List Clause → Prop
  | .first _, clauses => clauses = []
  | .next before name markup nodes, clauses => ∃ earlier label,
    AreClauses before earlier ∧ IsLabel name markup label ∧ clauses = earlier ++ [.mk label nodes]

/-- The node that a block of a kind is with these sections. -/
def TagKind.Makes (tag : String) (markup : Option (List Char)) :
    TagKind → Sections Node → Node → Prop
  | .conditional inverted, body, node => ∃ c branches,
    readMarkup tag markup Reader.condition = .ok c ∧ AreBranches c body branches ∧
      node = .conditional inverted branches
  | .loop, .first nodes, node => ∃ header,
    readMarkup tag markup (readLoopHeader tag) = .ok header ∧ node = .loop tag header nodes none
  | .loop, .next (.first nodes) name _ others, node => name = "else" ∧ ∃ header,
    readMarkup tag markup (readLoopHeader tag) = .ok header ∧
      node = .loop tag header nodes (some others)
  | .choice, body, node => ∃ subject clauses,
    readMarkup tag markup Reader.expression = .ok subject ∧ AreClauses body clauses ∧
      node = .choice subject clauses
  | .capture, .first nodes, node => ∃ name,
    readMarkup tag markup readTarget = .ok name ∧ node = .capture name nodes
  | .repetition, .first nodes, node => ∃ times,
    readMarkup tag markup Reader.expression = .ok times ∧ node = .repetition times nodes
  | _, _, _ => False

mutual

/-- The node that a part stands for. -/
def Part.Makes (tags : TagTable) : Part → Node → Prop
  | .text content, node => node = .text (String.ofList content)
  | .output markup, node =>
    ∃ pipeline, Pipeline.ofMarkup markup = .ok pipeline ∧ node = .output pipeline
  | .leaf name markup, node => ∃ kind,
    Bindings.find? tags name = some kind ∧ kind.open? name markup = .ok (.leaf node)
  | .comment .., node => node = .comment
  | .block name markup body _, node => ∃ kind nodes,
    Bindings.find? tags name = some kind ∧ SectionsMake tags body nodes ∧
      kind.Makes name markup nodes node

/-- The nodes that parts stand for, one for each, in order. -/
def PartsMake (tags : TagTable) : List Part → List Node → Prop
  | [], nodes => nodes = []
  | part :: rest, nodes => ∃ node more,
    part.Makes tags node ∧ PartsMake tags rest more ∧ nodes = node :: more

/-- The nodes that the parts of sections stand for. -/
def SectionsMake (tags : TagTable) : Sections Part → Sections Node → Prop
  | .first parts, body => ∃ nodes, PartsMake tags parts nodes ∧ body = .first nodes
  | .next before name markup parts, body => ∃ earlier nodes,
    SectionsMake tags before earlier ∧ PartsMake tags parts nodes ∧
      body = .next earlier name markup nodes

end

/-! ## Beginnings -/

/-- The outline of the beginning of a source, in which blocks are open and comments are not. -/
inductive Unfinished where
  | document (parts : List Part)
  | block (outer : Unfinished) (name : String) (markup : Option (List Char)) (body : Sections Part)

namespace Unfinished

/-- The pieces of a beginning. -/
def pieces : Unfinished → List Piece
  | .document parts => partPieces parts
  | .block outer name markup body => outer.pieces ++ .tag name markup :: sectionPieces body

/-- Tags are nested as their kinds allow, as far as they are closed. -/
def Nested (tags : TagTable) : Unfinished → Prop
  | .document parts => PartsNested tags parts
  | .block outer name _ body => outer.Nested tags ∧
    (∃ kind, Bindings.find? tags name = some kind ∧ kind.Allows body.dividers) ∧
      SectionsNested tags body

/-- Adds a part where the beginning ends. -/
def add : Unfinished → Part → Unfinished
  | .document parts, part => .document (parts ++ [part])
  | .block outer name markup body, part => .block outer name markup (body.add part)

end Unfinished

/-! ## Offences -/

/-- A tag that is not registered comes where it neither closes nor divides what is open. -/
inductive Unfinished.Refuses (tags : TagTable) (name : String) :
    Unfinished → SyntaxError → Prop where
  /-- No block is open. -/
  | outside (parts : List Part) : Refuses tags name (.document parts) (.unknownTag name)
  /-- The conditional that is open innermost has had its `else`. -/
  | afterElse {outer : Unfinished} {tag : String} {markup : Option (List Char)}
    {body : Sections Part} {inverted : Bool} :
    Bindings.find? tags tag = some (.conditional inverted) → "else" ∈ body.dividers →
    name = "elsif" ∨ name = "else" →
    Refuses tags name (.block outer tag markup body) (.invalid (.branchAfterElse name tag))
  /-- The innermost block allows no such tag. -/
  | unknown {outer : Unfinished} {tag : String} {markup : Option (List Char)}
    {body : Sections Part} {kind : TagKind} :
    Bindings.find? tags tag = some kind → name ≠ Block.closing tag →
    ¬kind.Allows (body.dividers ++ [name]) →
    ¬(∃ inverted, kind = .conditional inverted ∧ "else" ∈ body.dividers ∧
      (name = "elsif" ∨ name = "else")) →
    Refuses tags name (.block outer tag markup body) (.unknownTag name)

/-- Why a source has no outline, told by its first piece that does not fit in or by its end. -/
inductive Offence (tags : TagTable) : List Piece → SyntaxError → Prop where
  /-- The source ends within a block. -/
  | unclosed {outer : Unfinished} {name : String} {markup : Option (List Char)}
    {body : Sections Part} : (Unfinished.block outer name markup body).Nested tags →
    Offence tags (Unfinished.block outer name markup body).pieces (.unclosedTag name)
  /-- The source ends within a comment. -/
  | unclosedComment {u : Unfinished} {name : String} {markup : Option (List Char)} {n : Nat}
    {inside : List Piece} : u.Nested tags → Bindings.find? tags name = some .comment →
    Commented name n inside →
    Offence tags (u.pieces ++ .tag name markup :: inside) (.unclosedTag name)
  /-- A tag comes that is not registered and that the innermost block does not take. -/
  | refused {u : Unfinished} {name : String} {markup : Option (List Char)} {rest : List Piece}
    {cause : SyntaxError} : u.Nested tags → Bindings.find? tags name = none →
    u.Refuses tags name cause →
    Offence tags (u.pieces ++ .tag name markup :: rest) cause

/-! ## Legibility -/

/-- Whether the markup of a piece can be read. -/
def Piece.isLegible (tags : TagTable) : Piece → Bool
  | .text _ => true
  | .output markup => (Pipeline.ofMarkup markup).isOk
  | .tag name markup =>
    match Bindings.find? tags name with
    | some kind => (kind.open? name markup).isOk
    | none =>
      if name = "elsif" then (readMarkup name markup Reader.condition).isOk
      else if name = "when" then (readMarkup name markup readLabel).isOk
      else true

/-- The markup of every piece that does not stand in a comment can be read. -/
def Legible (tags : TagTable) (ps : List Piece) : Prop :=
  ∀ u piece rest, Unfinished.Nested tags u → ps = u.pieces ++ piece :: rest → piece.isLegible tags

theorem legible_of_forall {tags : TagTable} {ps : List Piece}
    (h : ∀ piece ∈ ps, piece.isLegible tags) : Legible tags ps := by
  rintro u piece rest - rfl
  exact h piece (by simp)

variable {tags : TagTable}

/-! ## Lists of parts -/

theorem partPieces_append (xs ys : List Part) :
    partPieces (xs ++ ys) = partPieces xs ++ partPieces ys := by
  induction xs with
  | nil => rfl
  | cons part rest ih => rw [List.cons_append, partPieces, ih, partPieces, List.append_assoc]

theorem partPieces_singleton (part : Part) : partPieces [part] = part.pieces :=
  List.append_nil _

theorem partsNested_append {xs ys : List Part} :
    PartsNested tags (xs ++ ys) ↔ PartsNested tags xs ∧ PartsNested tags ys := by
  induction xs with
  | nil => simp [PartsNested]
  | cons part rest ih => simp only [List.cons_append, PartsNested, ih, and_assoc]

theorem partsMake_append {xs ys : List Part} {nodes more : List Node}
    (hxs : PartsMake tags xs nodes) (hys : PartsMake tags ys more) :
    PartsMake tags (xs ++ ys) (nodes ++ more) := by
  induction xs generalizing nodes with
  | nil =>
    subst hxs
    exact hys
  | cons part rest ih =>
    obtain ⟨node, others, hnode, hothers, rfl⟩ := hxs
    exact ⟨node, others ++ more, hnode, ih hothers, rfl⟩

theorem partsMake_singleton {part : Part} {node : Node} (h : part.Makes tags node) :
    PartsMake tags [part] [node] :=
  ⟨node, [], h, rfl, rfl⟩

theorem sectionPieces_add (body : Sections Part) (part : Part) :
    sectionPieces (body.add part) = sectionPieces body ++ part.pieces := by
  cases body with
  | first parts => rw [Sections.add, sectionPieces, partPieces_append, partPieces_singleton]; rfl
  | next before name markup parts =>
    simp only [Sections.add, sectionPieces, partPieces_append, partPieces_singleton,
      List.append_assoc, List.cons_append]

theorem sectionsNested_add {body : Sections Part} {part : Part} (hbody : SectionsNested tags body)
    (hpart : part.Nested tags) : SectionsNested tags (body.add part) := by
  have hlast : PartsNested tags [part] := ⟨hpart, trivial⟩
  cases body with
  | first parts => exact partsNested_append.mpr ⟨hbody, hlast⟩
  | next before name markup parts =>
    exact ⟨hbody.1, hbody.2.1, partsNested_append.mpr ⟨hbody.2.2, hlast⟩⟩

theorem sectionsMake_add {body : Sections Part} {nodes : Sections Node} {part : Part} {node : Node}
    (hbody : SectionsMake tags body nodes) (hpart : part.Makes tags node) :
    SectionsMake tags (body.add part) (nodes.add node) := by
  cases body with
  | first parts =>
    obtain ⟨made, hparts, rfl⟩ := hbody
    exact ⟨_, partsMake_append hparts (partsMake_singleton hpart), rfl⟩
  | next before name markup parts =>
    obtain ⟨earlier, made, hbefore, hparts, rfl⟩ := hbody
    exact ⟨earlier, _, hbefore, partsMake_append hparts (partsMake_singleton hpart), rfl⟩

theorem sectionsMake_dividers {body : Sections Part} {nodes : Sections Node}
    (h : SectionsMake tags body nodes) : nodes.dividers = body.dividers := by
  induction body generalizing nodes with
  | first parts =>
    obtain ⟨_, -, rfl⟩ := h
    rfl
  | next before name markup parts ih =>
    obtain ⟨earlier, _, hbefore, -, rfl⟩ := h
    rw [Sections.dividers, Sections.dividers, ih hbefore]

namespace Unfinished

theorem pieces_add (u : Unfinished) (part : Part) :
    (u.add part).pieces = u.pieces ++ part.pieces := by
  cases u with
  | document parts =>
    exact (partPieces_append parts [part]).trans (by rw [partPieces_singleton]; rfl)
  | block outer name markup body =>
    simp only [add, pieces, sectionPieces_add, List.append_assoc, List.cons_append]

theorem Nested.add {u : Unfinished} (hu : u.Nested tags) {part : Part} (hpart : part.Nested tags) :
    (u.add part).Nested tags := by
  cases u with
  | document parts => exact partsNested_append.mpr ⟨hu, hpart, trivial⟩
  | block outer name markup body =>
    obtain ⟨houter, hkind, hbody⟩ := hu
    refine ⟨houter, ?_, sectionsNested_add hbody hpart⟩
    rwa [Sections.dividers_add]

end Unfinished

end Stencil.Template
