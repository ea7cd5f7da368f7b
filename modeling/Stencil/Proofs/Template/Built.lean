import Stencil.Proofs.Sequencing
import Stencil.Template.Reader

/-!
# What nodes are built from

The nodes that are read with a table of tags consist of text, outputs and what the tags of that
table begin, at every depth.

* `partsOf` — nodes and all nodes within them
* `BuiltFrom` — nodes that consist of the tags of a table
* `nodesOf_builtFrom` — whatever is read with a table is built from it
-/

namespace Stencil.Template

open Stencil.Markup

/-! ## Parts -/

mutual

/-- A node and all nodes within it. -/
def Node.parts : Node → List Node
  | .conditional inverted branches => .conditional inverted branches :: branchParts branches
  | .loop tag header body otherwise =>
    .loop tag header body otherwise :: (partsOf body ++ otherwiseParts otherwise)
  | .choice subject clauses => .choice subject clauses :: clauseParts clauses
  | .capture name body => .capture name body :: partsOf body
  | .repetition times body => .repetition times body :: partsOf body
  | .text content => [.text content]
  | .output pipeline => [.output pipeline]
  | .rotation values => [.rotation values]
  | .assign name value => [.assign name value]
  | .comment => [.comment]
  | .counter direction name => [.counter direction name]
  | .interrupt kind => [.interrupt kind]
  | .inclusion use => [.inclusion use]

/-- Nodes and all nodes within them. -/
def partsOf : List Node → List Node
  | [] => []
  | node :: rest => node.parts ++ partsOf rest

/-- All nodes of an `else` section. -/
def otherwiseParts : Option (List Node) → List Node
  | none => []
  | some nodes => partsOf nodes

/-- All nodes of branches. -/
def branchParts : List Branch → List Node
  | [] => []
  | .mk _ body :: rest => partsOf body ++ branchParts rest

/-- All nodes of clauses. -/
def clauseParts : List Clause → List Node
  | [] => []
  | .mk _ body :: rest => partsOf body ++ clauseParts rest

end

theorem mem_parts_self (node : Node) : node ∈ node.parts := by
  cases node <;> simp [Node.parts]

theorem mem_partsOf {nodes : List Node} {n : Node} :
    n ∈ partsOf nodes ↔ ∃ node ∈ nodes, n ∈ node.parts := by
  induction nodes with
  | nil => simp [partsOf]
  | cons node rest ih => simp [partsOf, ih]

theorem branchParts_append (xs ys : List Branch) :
    branchParts (xs ++ ys) = branchParts xs ++ branchParts ys := by
  induction xs with
  | nil => rfl
  | cons x rest ih =>
    obtain ⟨condition, body⟩ := x
    simp [branchParts, ih]

theorem clauseParts_append (xs ys : List Clause) :
    clauseParts (xs ++ ys) = clauseParts xs ++ clauseParts ys := by
  induction xs with
  | nil => rfl
  | cons x rest ih =>
    obtain ⟨label, body⟩ := x
    simp [clauseParts, ih]

/-! ## Tags of a table -/

/-- Some name begins a kind of tag. -/
def TagTable.Has (tags : TagTable) (kind : TagKind) : Prop :=
  ∃ name, Bindings.find? tags name = some kind

/-- A node is text, an output, or what a tag of a table begins. Loops and rotations keep the name
of their tag. -/
def Node.IsOf (tags : TagTable) : Node → Prop
  | .text _ | .output _ => True
  | .conditional inverted _ => tags.Has (.conditional inverted)
  | .loop tag .. => Bindings.find? tags tag = some .loop
  | .choice .. => tags.Has .choice
  | .rotation r => Bindings.find? tags r.tag = some .rotation
  | .assign .. => tags.Has .assign
  | .capture .. => tags.Has .capture
  | .comment => tags.Has .comment
  | .counter direction _ => tags.Has (.counter direction)
  | .interrupt kind => tags.Has (.interrupt kind)
  | .inclusion _ => tags.Has .inclusion
  | .repetition .. => tags.Has .repetition

/-- Nodes that consist of text, outputs and the tags of a table. -/
def BuiltFrom (tags : TagTable) (nodes : List Node) : Prop :=
  ∀ n ∈ partsOf nodes, n.IsOf tags

theorem TagTable.has_iff {tags : TagTable} {kind : TagKind} :
    tags.Has kind ↔ ∃ entry ∈ tags, Bindings.find? tags entry.1 = some kind := by
  constructor
  · rintro ⟨name, hfind⟩
    exact ⟨(name, kind), Bindings.mem_of_find? hfind, hfind⟩
  · rintro ⟨entry, -, hfind⟩
    exact ⟨entry.1, hfind⟩

instance TagTable.decidableHas (tags : TagTable) (kind : TagKind) : Decidable (tags.Has kind) :=
  decidable_of_iff _ TagTable.has_iff.symm

instance Node.decidableIsOf (tags : TagTable) : (n : Node) → Decidable (n.IsOf tags)
  | .text _ | .output _ => .isTrue trivial
  | .loop tag .. => inferInstanceAs (Decidable (Bindings.find? tags tag = some .loop))
  | .rotation r => inferInstanceAs (Decidable (Bindings.find? tags r.tag = some .rotation))
  | .conditional inverted _ => tags.decidableHas (.conditional inverted)
  | .choice .. => tags.decidableHas .choice
  | .assign .. => tags.decidableHas .assign
  | .capture .. => tags.decidableHas .capture
  | .comment => tags.decidableHas .comment
  | .counter direction _ => tags.decidableHas (.counter direction)
  | .interrupt kind => tags.decidableHas (.interrupt kind)
  | .inclusion _ => tags.decidableHas .inclusion
  | .repetition .. => tags.decidableHas .repetition

instance decidableBuiltFrom (tags : TagTable) (nodes : List Node) :
    Decidable (BuiltFrom tags nodes) :=
  inferInstanceAs (Decidable (∀ n ∈ partsOf nodes, n.IsOf tags))

variable {tags : TagTable}

theorem builtFrom_nil : BuiltFrom tags [] := by
  intro n hn
  cases hn

theorem builtFrom_cons {node : Node} {nodes : List Node} :
    BuiltFrom tags (node :: nodes) ↔ (∀ n ∈ node.parts, n.IsOf tags) ∧ BuiltFrom tags nodes := by
  simp [BuiltFrom, partsOf, or_imp, forall_and]

theorem builtFrom_reverse {nodes : List Node} :
    BuiltFrom tags nodes.reverse ↔ BuiltFrom tags nodes := by
  simp [BuiltFrom, mem_partsOf]

/-! ## Blocks -/

/-- An open block whose tag is of a table and whose sections are built from it. -/
def Block.IsOf (tags : TagTable) : Block → Prop
  | .conditional _ inverted before _ =>
    tags.Has (.conditional inverted) ∧ ∀ n ∈ branchParts before, n.IsOf tags
  | .loop tag _ body =>
    Bindings.find? tags tag = some .loop ∧ ∀ n ∈ otherwiseParts body, n.IsOf tags
  | .choice _ _ before _ => tags.Has .choice ∧ ∀ n ∈ clauseParts before, n.IsOf tags
  | .capture .. => tags.Has .capture
  | .comment .. => tags.Has .comment
  | .repetition .. => tags.Has .repetition

theorem mem_clauseParts_clausesWith {before : List Clause} {label : Option Label}
    {nodes : List Node} {n : Node} (h : n ∈ clauseParts (Block.clausesWith before label nodes)) :
    n ∈ clauseParts before ∨ n ∈ partsOf nodes := by
  cases label with
  | none => exact .inl h
  | some label => simpa [Block.clausesWith, clauseParts_append, clauseParts] using h

/-- The node that a block closes to is built from the table. -/
theorem Block.IsOf.close {b : Block} (hb : b.IsOf tags) {nodes : List Node}
    (hnodes : BuiltFrom tags nodes) : ∀ n ∈ (b.close nodes).parts, n.IsOf tags := by
  intro n hn
  cases b with
  | conditional tag inverted before condition =>
    simp only [Block.close, Node.parts, branchParts_append, branchParts, List.mem_cons,
      List.mem_append, List.append_nil] at hn
    rcases hn with rfl | hn | hn
    · exact hb.1
    · exact hb.2 n hn
    · exact hnodes n hn
  | loop tag header body =>
    cases body with
    | none =>
      simp only [Block.close, Node.parts, otherwiseParts, List.mem_cons, List.append_nil] at hn
      rcases hn with rfl | hn
      · exact hb.1
      · exact hnodes n hn
    | some body =>
      simp only [Block.close, Node.parts, otherwiseParts, List.mem_cons, List.mem_append] at hn
      rcases hn with rfl | hn | hn
      · exact hb.1
      · exact hb.2 n hn
      · exact hnodes n hn
  | choice tag subject before label =>
    simp only [Block.close, Node.parts, List.mem_cons] at hn
    rcases hn with rfl | hn
    · exact hb.1
    · exact (mem_clauseParts_clausesWith hn).elim (hb.2 n) (hnodes n)
  | capture tag name =>
    simp only [Block.close, Node.parts, List.mem_cons] at hn
    rcases hn with rfl | hn
    · exact hb
    · exact hnodes n hn
  | comment tag inside =>
    simp only [Block.close, Node.parts, List.mem_singleton] at hn
    subst hn
    exact hb
  | repetition tag times =>
    simp only [Block.close, Node.parts, List.mem_cons] at hn
    rcases hn with rfl | hn
    · exact hb
    · exact hnodes n hn

/-- A divided block is still of the table. -/
theorem Block.IsOf.divide {b next : Block} (hb : b.IsOf tags) {nodes : List Node}
    (hnodes : BuiltFrom tags nodes) {name : String} {markup : Option (List Char)}
    (h : b.divide nodes name markup = .ok next) : next.IsOf tags := by
  cases b with
  | conditional tag inverted before condition =>
    have hparts : ∀ n ∈ branchParts (before ++ [.mk condition nodes]), n.IsOf tags := by
      intro n hn
      simp only [branchParts_append, branchParts, List.mem_append, List.append_nil] at hn
      exact hn.elim (hb.2 n) (hnodes n)
    simp only [Block.divide] at h
    split at h
    · split at h
      · cases h
      · split at h
        all_goals
          obtain ⟨next, -, h⟩ := bind_eq_ok_iff.mp h
          cases h
          exact ⟨hb.1, hparts⟩
    · cases h
  | loop tag header body =>
    cases body with
    | none =>
      simp only [Block.divide] at h
      split at h
      · cases h
        exact ⟨hb.1, hnodes⟩
      · cases h
    | some body => cases h
  | choice tag subject before label =>
    have hparts : ∀ n ∈ clauseParts (clausesWith before label nodes), n.IsOf tags :=
      fun n hn => (mem_clauseParts_clausesWith hn).elim (hb.2 n) (hnodes n)
    simp only [Block.divide] at h
    split at h
    · obtain ⟨label', -, h⟩ := bind_eq_ok_iff.mp h
      cases h
      exact ⟨hb.1, hparts⟩
    · split at h
      · cases h
        exact ⟨hb.1, hparts⟩
      · cases h
  | capture tag name => cases h
  | comment tag inside => cases h
  | repetition tag times => cases h

/-! ## Opening tags -/

/-- What a reader of a whole markup gives, it gives for some lexemes. -/
theorem exists_read_of_whole {α : Type} {r : Reader α} {markup : List Char} {a : α}
    (h : r.whole markup = .ok a) : ∃ ts rest, r ts = (.ok a, rest) := by
  obtain ⟨ts, -, h⟩ := bind_eq_ok_iff.mp h
  match hread : (do let a ← r; Reader.finish; return a : Reader α) ts with
  | (.error e, rest) =>
    simp only [Reader.read, hread] at h
    cases h
  | (.ok a', rest) =>
    simp only [Reader.read, hread] at h
    cases h
    obtain ⟨a', mid, hr, hfinish⟩ := bind_apply_eq_ok_iff.mp hread
    obtain ⟨_, _, -, hpure⟩ := bind_apply_eq_ok_iff.mp hfinish
    cases hpure
    exact ⟨ts, mid, hr⟩

/-- A rotation keeps the name of its tag. -/
theorem readRotation_tag {tag : String} {ts rest : List Lexeme} {r : Rotation}
    (h : readRotation tag ts = (.ok r, rest)) : r.tag = tag := by
  obtain ⟨e, _, -, h⟩ := bind_apply_eq_ok_iff.mp h
  obtain ⟨colon, _, -, h⟩ := bind_apply_eq_ok_iff.mp h
  cases colon with
  | none =>
    obtain ⟨others, _, -, h⟩ := bind_apply_eq_ok_iff.mp h
    cases h
    rfl
  | some _ =>
    obtain ⟨first, _, -, h⟩ := bind_apply_eq_ok_iff.mp h
    obtain ⟨others, _, -, h⟩ := bind_apply_eq_ok_iff.mp h
    cases h
    rfl

theorem readMarkup_readRotation_tag {tag : String} {markup : Option (List Char)} {r : Rotation}
    (h : readMarkup tag markup (readRotation tag) = .ok r) : r.tag = tag := by
  cases markup with
  | none => cases h
  | some cs =>
    obtain ⟨ts, rest, h⟩ := exists_read_of_whole h
    exact readRotation_tag h

/-- What a registered tag begins is of the table. -/
def Opening.IsOf (tags : TagTable) : Opening → Prop
  | .leaf node => ∀ n ∈ node.parts, n.IsOf tags
  | .block b => b.IsOf tags

theorem isOf_leaf {node : Node} (hparts : node.parts = [node]) (h : node.IsOf tags) :
    (Opening.leaf node).IsOf tags := by
  intro n hn
  rw [hparts, List.mem_singleton] at hn
  exact hn ▸ h

/-- A tag of a table begins what is of the table. -/
theorem open?_isOf {kind : TagKind} {tag : String} (hkind : Bindings.find? tags tag = some kind)
    {markup : Option (List Char)} {opening : Opening} (h : kind.open? tag markup = .ok opening) :
    opening.IsOf tags := by
  have hhas : tags.Has kind := ⟨tag, hkind⟩
  cases kind with
  | assign =>
    obtain ⟨⟨name, value⟩, -, h⟩ := bind_eq_ok_iff.mp h
    cases h
    exact isOf_leaf rfl hhas
  | capture =>
    obtain ⟨name, -, h⟩ := bind_eq_ok_iff.mp h
    cases h
    exact hhas
  | choice =>
    obtain ⟨subject, -, h⟩ := bind_eq_ok_iff.mp h
    cases h
    exact ⟨hhas, by simp [clauseParts]⟩
  | comment =>
    cases h
    exact hhas
  | conditional inverted =>
    obtain ⟨condition, -, h⟩ := bind_eq_ok_iff.mp h
    cases h
    exact ⟨hhas, by simp [branchParts]⟩
  | counter direction =>
    obtain ⟨name, -, h⟩ := bind_eq_ok_iff.mp h
    cases h
    exact isOf_leaf rfl hhas
  | inclusion =>
    obtain ⟨use, -, h⟩ := bind_eq_ok_iff.mp h
    cases h
    exact isOf_leaf rfl hhas
  | interrupt interrupt =>
    cases h
    exact isOf_leaf rfl hhas
  | loop =>
    obtain ⟨header, -, h⟩ := bind_eq_ok_iff.mp h
    cases h
    exact ⟨hkind, by simp [otherwiseParts]⟩
  | repetition =>
    obtain ⟨times, -, h⟩ := bind_eq_ok_iff.mp h
    cases h
    exact hhas
  | rotation =>
    obtain ⟨r, hread, h⟩ := bind_eq_ok_iff.mp h
    cases h
    have htag : r.tag = tag := readMarkup_readRotation_tag hread
    exact isOf_leaf rfl (by rw [← htag] at hkind; exact hkind)

/-! ## Reading -/

/-- All that has been read is built from a table. -/
structure Progress.IsOf (tags : TagTable) (p : Progress) : Prop where
  frames : ∀ frame ∈ p.frames, frame.block.IsOf tags ∧ BuiltFrom tags frame.nodes
  nodes : BuiltFrom tags p.nodes

theorem Progress.IsOf.add {p : Progress} (hp : p.IsOf tags) {node : Node}
    (hnode : ∀ n ∈ node.parts, n.IsOf tags) : (p.add node).IsOf tags := by
  obtain ⟨frames, nodes⟩ := p
  cases frames with
  | nil => exact ⟨hp.frames, builtFrom_cons.mpr ⟨hnode, hp.nodes⟩⟩
  | cons frame outer =>
    obtain ⟨hframe, houter⟩ := List.forall_mem_cons.mp hp.frames
    refine ⟨?_, hp.nodes⟩
    exact List.forall_mem_cons.mpr ⟨⟨hframe.1, builtFrom_cons.mpr ⟨hnode, hframe.2⟩⟩, houter⟩

theorem Progress.IsOf.enter {p : Progress} (hp : p.IsOf tags) {opening : Opening}
    (h : opening.IsOf tags) : (p.enter opening).IsOf tags := by
  cases opening with
  | leaf node => exact hp.add h
  | block b => exact ⟨List.forall_mem_cons.mpr ⟨⟨h, builtFrom_nil⟩, hp.frames⟩, hp.nodes⟩

/-- Handing a tag to the innermost block keeps what has been read built from the table. -/
theorem Progress.IsOf.hand {p : Progress} {frame : Frame} {outer : List Frame}
    (hframe : frame.block.IsOf tags ∧ BuiltFrom tags frame.nodes)
    (houter : ∀ f ∈ outer, f.block.IsOf tags ∧ BuiltFrom tags f.nodes)
    (hnodes : BuiltFrom tags p.nodes) {name : String} {markup : Option (List Char)}
    {next : Progress} (h : p.hand frame outer name markup = .ok next) : next.IsOf tags := by
  have hsection : BuiltFrom tags frame.nodes.reverse := builtFrom_reverse.mpr hframe.2
  simp only [Progress.hand] at h
  split at h
  · cases h
    have hrest : ({ p with frames := outer } : Progress).IsOf tags := ⟨houter, hnodes⟩
    exact hrest.add (hframe.1.close hsection)
  · cases hdivide : frame.block.divide frame.nodes.reverse name markup with
    | error e =>
      rw [hdivide] at h
      cases h
    | ok b =>
      rw [hdivide] at h
      cases h
      refine ⟨List.forall_mem_cons.mpr ⟨⟨?_, builtFrom_nil⟩, houter⟩, hnodes⟩
      exact hframe.1.divide hsection hdivide

theorem Progress.IsOf.skipTag {p : Progress} {outer : List Frame}
    (hcomment : tags.Has .comment)
    (hp : p.IsOf tags) (houter : ∀ f ∈ outer, f.block.IsOf tags ∧ BuiltFrom tags f.nodes)
    (tag : String) (inside : Nat) (name : String) :
    (p.skipTag tag inside outer name).IsOf tags := by
  have hagain : ∀ n, ({ p with frames := ⟨.comment tag n, []⟩ :: outer } : Progress).IsOf tags :=
    fun n => ⟨List.forall_mem_cons.mpr ⟨⟨hcomment, builtFrom_nil⟩, houter⟩, hp.nodes⟩
  unfold Progress.skipTag
  split
  · exact hagain _
  · split
    · cases inside with
      | zero =>
        have hrest : ({ p with frames := outer } : Progress).IsOf tags := ⟨houter, hp.nodes⟩
        exact hrest.add (by simpa [Node.parts, Node.IsOf] using hcomment)
      | succ inside => exact hagain _
    · exact hp

/-- A piece keeps what has been read built from the table. -/
theorem Progress.IsOf.step {p next : Progress} (hp : p.IsOf tags) {piece : Piece}
    (h : p.step tags piece = .next next) : next.IsOf tags := by
  obtain ⟨frames, nodes⟩ := p
  unfold Progress.step at h
  split at h
  · -- A comment is open, where tags are only counted.
    rename_i tag inside _ outer name _ hframes
    obtain rfl : frames = _ := hframes
    obtain ⟨hframe, houter⟩ := List.forall_mem_cons.mp hp.frames
    cases h
    exact hp.skipTag hframe.1 houter tag inside name
  · cases h
    exact hp
  · cases h
    exact hp.add (by simp [Node.parts, Node.IsOf])
  · rename_i markup _
    cases hmarkup : Pipeline.ofMarkup markup with
    | error e =>
      rw [hmarkup] at h
      cases h
    | ok pipeline =>
      rw [hmarkup] at h
      cases h
      exact hp.add (by simp [Node.parts, Node.IsOf])
  · rename_i name markup _
    split at h
    · -- The table knows the name, which begins a node or a block.
      rename_i kind hkind
      cases hopen : kind.open? name markup with
      | error e =>
        rw [hopen] at h
        cases h
      | ok opening =>
        rw [hopen] at h
        cases h
        exact hp.enter (open?_isOf hkind hopen)
    · cases h
    · -- The table does not, so the innermost block is asked.
      rename_i frame outer _ hframes
      obtain rfl : frames = _ := hframes
      obtain ⟨hframe, houter⟩ := List.forall_mem_cons.mp hp.frames
      cases hhand : Progress.hand ⟨frame :: outer, nodes⟩ frame outer name markup with
      | error e =>
        rw [hhand] at h
        cases h
      | ok p =>
        rw [hhand] at h
        cases h
        exact Progress.IsOf.hand hframe houter hp.nodes hhand

theorem readFrom_builtFrom {p : Progress} (hp : p.IsOf tags) (ps : List Piece) :
    BuiltFrom tags (readFrom tags p ps).nodes := by
  induction ps generalizing p with
  | nil => exact builtFrom_reverse.mpr hp.nodes
  | cons piece rest ih =>
    unfold readFrom
    split
    · rename_i next hnext
      exact ih (hp.step hnext)
    · exact builtFrom_reverse.mpr hp.nodes
    · exact builtFrom_reverse.mpr hp.nodes

/-- **What is read with a table of tags is built from it.** -/
theorem nodesOf_builtFrom {source : List Char} {nodes : List Node}
    (h : nodesOf tags source = .ok nodes) : BuiltFrom tags nodes := by
  have hstart : Progress.start.IsOf tags := ⟨by simp [Progress.start], builtFrom_nil⟩
  unfold nodesOf at h
  simp only at h
  split at h
  · cases h
    exact readFrom_builtFrom hstart _
  · cases h
  · cases h

end Stencil.Template
