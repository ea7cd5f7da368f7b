import Stencil.Proofs.Template.Blocks

/-!
# Reading outlines

Pieces that have an outline are read to the nodes that it stands for, and the beginning of a source
is read to what its blocks have become.

* `readFrom_parts` — parts are read to their nodes
* `Unfinished.Makes.read` — beginnings are read to what they make
-/

namespace Stencil.Template

open Stencil.Markup

variable {tags : TagTable}

/-! ## Steps outside of comments -/

namespace Progress

/-- No comment is open. -/
def Attends (p : Progress) : Prop :=
  ∀ tag inside nodes outer, p.frames ≠ ⟨.comment tag inside, nodes⟩ :: outer

theorem Attends.add {p : Progress} (h : p.Attends) (node : Node) : (p.add node).Attends := by
  obtain ⟨frames, nodes⟩ := p
  cases frames with
  | nil => exact h
  | cons frame outer =>
    intro tag inside others rest heq
    obtain ⟨b, made⟩ := frame
    cases heq
    exact h tag inside made outer rfl

/-- Adds nodes, one after another. -/
def addAll (p : Progress) (nodes : List Node) : Progress :=
  nodes.foldl add p

theorem addAll_outside (made nodes : List Node) :
    addAll ⟨[], made⟩ nodes = ⟨[], nodes.reverse ++ made⟩ := by
  induction nodes generalizing made with
  | nil => rfl
  | cons node rest ih =>
    rw [addAll, List.foldl_cons, List.reverse_cons, List.append_assoc]
    exact ih (node :: made)

theorem addAll_inside (b : Block) (made : List Node) (outer : List Frame) (outside : List Node)
    (nodes : List Node) :
    addAll ⟨⟨b, made⟩ :: outer, outside⟩ nodes =
      ⟨⟨b, nodes.reverse ++ made⟩ :: outer, outside⟩ := by
  induction nodes generalizing made with
  | nil => rfl
  | cons node rest ih =>
    rw [addAll, List.foldl_cons, List.reverse_cons, List.append_assoc]
    exact ih (node :: made)

variable {p : Progress}

theorem step_text (h : p.Attends) (content : List Char) :
    p.step tags (.text content) = .next (p.add (.text (String.ofList content))) := by
  obtain ⟨_ | ⟨⟨b, made⟩, outer⟩, nodes⟩ := p
  · rfl
  · cases b with
    | comment tag inside => exact absurd rfl (h tag inside made outer)
    | _ => rfl

theorem step_output (h : p.Attends) (markup : List Char) :
    p.step tags (.output markup) =
      .ofExcept ((Pipeline.ofMarkup markup).map fun pipeline => p.add (.output pipeline)) := by
  obtain ⟨_ | ⟨⟨b, made⟩, outer⟩, nodes⟩ := p
  · rfl
  · cases b with
    | comment tag inside => exact absurd rfl (h tag inside made outer)
    | _ => rfl

theorem step_registered (h : p.Attends) {name : String} {kind : TagKind}
    (hfind : Bindings.find? tags name = some kind) (markup : Option (List Char)) :
    p.step tags (.tag name markup) = .ofExcept ((kind.open? name markup).map p.enter) := by
  obtain ⟨_ | ⟨⟨b, made⟩, outer⟩, nodes⟩ := p
  · simp only [step, hfind]
  · cases b with
    | comment tag inside => exact absurd rfl (h tag inside made outer)
    | _ => simp only [step, hfind]

theorem step_outside {name : String} (hnone : Bindings.find? tags name = none)
    (markup : Option (List Char)) (nodes : List Node) :
    step tags ⟨[], nodes⟩ (.tag name markup) = .stop name markup := by
  simp only [step, hnone]

theorem step_inside {frame : Frame} {outer : List Frame} {nodes : List Node}
    (h : Attends ⟨frame :: outer, nodes⟩) {name : String}
    (hnone : Bindings.find? tags name = none) (markup : Option (List Char)) :
    step tags ⟨frame :: outer, nodes⟩ (.tag name markup) =
      .ofExcept (hand ⟨frame :: outer, nodes⟩ frame outer name markup) := by
  obtain ⟨b, made⟩ := frame
  cases b with
  | comment tag inside => exact absurd rfl (h tag inside made outer)
  | _ => simp only [step, hnone]

theorem hand_closing {frame : Frame} {outer : List Frame} {name : String}
    (h : name = Block.closing frame.block.tag) (markup : Option (List Char)) :
    p.hand frame outer name markup =
      .ok (add ⟨outer, p.nodes⟩ (frame.block.close frame.nodes.reverse)) :=
  if_pos h

theorem hand_other {frame : Frame} {outer : List Frame} {name : String}
    (h : name ≠ Block.closing frame.block.tag) (markup : Option (List Char)) :
    p.hand frame outer name markup =
      (frame.block.divide frame.nodes.reverse name markup).map fun b =>
        ⟨⟨b, []⟩ :: outer, p.nodes⟩ :=
  if_neg h

/-! ### Steps within comments -/

theorem skipTag_opening (tag : String) (inside : Nat) (outer : List Frame) :
    p.skipTag tag inside outer tag = ⟨⟨.comment tag (inside + 1), []⟩ :: outer, p.nodes⟩ :=
  if_pos rfl

theorem skipTag_closing (tag : String) (inside : Nat) (outer : List Frame) :
    p.skipTag tag (inside + 1) outer (Block.closing tag) =
      ⟨⟨.comment tag inside, []⟩ :: outer, p.nodes⟩ :=
  (if_neg (closing_ne_self tag)).trans (if_pos rfl)

theorem skipTag_ending (tag : String) (outer : List Frame) :
    p.skipTag tag 0 outer (Block.closing tag) = add ⟨outer, p.nodes⟩ .comment :=
  (if_neg (closing_ne_self tag)).trans (if_pos rfl)

theorem skipTag_other {tag name : String} (hname : name ≠ tag) (hclosing : name ≠ Block.closing tag)
    (inside : Nat) (outer : List Frame) : p.skipTag tag inside outer name = p :=
  (if_neg hname).trans (if_neg hclosing)

end Progress

theorem readFrom_of_next {p next : Progress} {piece : Piece} (h : p.step tags piece = .next next)
    (rest : List Piece) : readFrom tags p (piece :: rest) = readFrom tags next rest := by
  rw [readFrom, h]

/-! ## Comments -/

/-- A comment is read up to where it stands. -/
theorem readFrom_commented {tag : String} {n : Nat} {inside : List Piece}
    (h : Commented tag n inside) (outer : List Frame) (nodes : List Node) (rest : List Piece) :
    readFrom tags ⟨⟨.comment tag 0, []⟩ :: outer, nodes⟩ (inside ++ rest) =
      readFrom tags ⟨⟨.comment tag n, []⟩ :: outer, nodes⟩ rest := by
  induction h generalizing rest with
  | nil => rfl
  | @other n ps piece _ htag hclosing ih =>
    rw [List.append_assoc, ih, List.singleton_append]
    refine readFrom_of_next ?_ rest
    cases piece with
    | text content => rfl
    | output markup => rfl
    | tag name markup =>
      exact congrArg Step.next (Progress.skipTag_other htag hclosing n outer)
  | @opening n ps markup _ ih =>
    rw [List.append_assoc, ih, List.singleton_append]
    refine readFrom_of_next ?_ rest
    exact congrArg Step.next (Progress.skipTag_opening tag n outer)
  | @closing n ps markup _ ih =>
    rw [List.append_assoc, ih, List.singleton_append]
    refine readFrom_of_next ?_ rest
    exact congrArg Step.next (Progress.skipTag_closing tag n outer)

/-! ## Reading outlines -/

theorem attends_of_kind {b : Block} (h : b.kind ≠ .comment) (made : List Node) (outer : List Frame)
    (nodes : List Node) : Progress.Attends ⟨⟨b, made⟩ :: outer, nodes⟩ := by
  intro tag inside others rest heq
  cases heq
  exact h rfl

mutual

theorem readFrom_part : (part : Part) → part.Nested tags → {node : Node} → part.Makes tags node →
    {p : Progress} → p.Attends → (rest : List Piece) →
      readFrom tags p (part.pieces ++ rest) = readFrom tags (p.add node) rest
  | .text content, _, node, hmakes, p, hp, rest => by
    obtain rfl := hmakes
    exact readFrom_of_next (Progress.step_text hp content) rest
  | .output markup, _, node, hmakes, p, hp, rest => by
    obtain ⟨pipeline, hmarkup, rfl⟩ := hmakes
    refine readFrom_of_next ?_ rest
    rw [Progress.step_output hp, hmarkup]
    rfl
  | .leaf name markup, _, node, hmakes, p, hp, rest => by
    obtain ⟨kind, hfind, hopen⟩ := hmakes
    refine readFrom_of_next ?_ rest
    rw [Progress.step_registered hp hfind, hopen]
    rfl
  | .comment name markup inside ending, ⟨hfind, hinside⟩, node, hmakes, p, hp, rest => by
    obtain rfl := hmakes
    have hopen : p.step tags (.tag name markup) =
        .next ⟨⟨.comment name 0, []⟩ :: p.frames, p.nodes⟩ := by
      rw [Progress.step_registered hp hfind]
      rfl
    rw [Part.pieces, List.cons_append, List.cons_append, readFrom_of_next hopen, List.append_assoc,
      readFrom_commented hinside, List.singleton_append]
    refine readFrom_of_next ?_ rest
    exact congrArg Step.next (Progress.skipTag_ending name p.frames)
  | .block name markup body ending, ⟨⟨kind, hfind, hallows⟩, hending, hbody⟩, node, hmakes, p, hp,
      rest => by
    obtain ⟨kind', made, hfind', hmade, hnode⟩ := hmakes
    obtain rfl : kind = kind' := Option.some.inj (hfind.symm.trans hfind')
    rw [← sectionsMake_dividers hmade] at hallows
    obtain ⟨b, hbecomes, rfl⟩ := becomes_of_makes hallows hnode
    obtain ⟨hkind, htag⟩ := becomes_kind hbecomes
    have hsections := readFrom_sections body hbody hmade hfind hallows.ne_comment hbecomes hp
      (.tag (Block.closing name) ending :: rest)
    rw [Part.pieces, List.cons_append, List.cons_append, List.append_assoc]
    refine hsections.trans (readFrom_of_next ?_ rest)
    have hattends := attends_of_kind (hkind ▸ hallows.ne_comment) made.last.reverse p.frames p.nodes
    rw [Progress.step_inside hattends hending, Progress.hand_closing (by rw [htag]),
      List.reverse_reverse]
    rfl

/-- **Parts are read to the nodes that they stand for.** -/
theorem readFrom_parts : (parts : List Part) → PartsNested tags parts → {nodes : List Node} →
    PartsMake tags parts nodes → {p : Progress} → p.Attends → (rest : List Piece) →
      readFrom tags p (partPieces parts ++ rest) = readFrom tags (p.addAll nodes) rest
  | [], _, nodes, hmakes, p, _, rest => by
    obtain rfl := hmakes
    rfl
  | part :: more, ⟨hpart, hmore⟩, nodes, hmakes, p, hp, rest => by
    obtain ⟨node, others, hnode, hothers, rfl⟩ := hmakes
    rw [partPieces, List.append_assoc, readFrom_part part hpart hnode hp]
    exact readFrom_parts more hmore hothers (hp.add node) rest

/-- A block is read to what it becomes of its sections. -/
theorem readFrom_sections {name : String} {markup : Option (List Char)} {kind : TagKind} :
    (body : Sections Part) → SectionsNested tags body → {made : Sections Node} →
    SectionsMake tags body made → Bindings.find? tags name = some kind → kind ≠ .comment →
    {b : Block} → kind.Becomes name markup made b → {p : Progress} → p.Attends →
    (rest : List Piece) →
      readFrom tags p (.tag name markup :: (sectionPieces body ++ rest)) =
        readFrom tags ⟨⟨b, made.last.reverse⟩ :: p.frames, p.nodes⟩ rest
  | .first parts, hparts, made, hmade, hfind, hcomment, b, hbecomes, p, hp, rest => by
    obtain ⟨nodes, hnodes, rfl⟩ := hmade
    have hkind := (becomes_kind hbecomes).1
    have hopen : p.step tags (.tag name markup) = .next ⟨⟨b, []⟩ :: p.frames, p.nodes⟩ := by
      have hfirst : kind.open? name markup = .ok (.block b) := hbecomes
      rw [Progress.step_registered hp hfind, hfirst]
      rfl
    have hattends := attends_of_kind (hkind ▸ hcomment) [] p.frames p.nodes
    rw [readFrom_of_next hopen, sectionPieces, readFrom_parts parts hparts hnodes hattends,
      Progress.addAll_inside, List.append_nil]
    rfl
  | .next before divider m parts, ⟨hbefore, hdivider, hparts⟩, made, hmade, hfind, hcomment, b,
      hbecomes, p, hp, rest => by
    obtain ⟨earlier, nodes, hearlier, hnodes, rfl⟩ := hmade
    have hkind := (becomes_kind hbecomes).1
    obtain ⟨b', hbecomes', hdivide⟩ := hbecomes
    have hkind' := (becomes_kind hbecomes').1
    -- The tag divides the block that was read so far.
    have hstep : Progress.step tags ⟨⟨b', earlier.last.reverse⟩ :: p.frames, p.nodes⟩
        (.tag divider m) = .next ⟨⟨b, []⟩ :: p.frames, p.nodes⟩ := by
      have hname := ne_closing_of_divider (divide_cases hdivide).1 b'.tag
      rw [Progress.step_inside (attends_of_kind (hkind' ▸ hcomment) _ _ _) hdivider,
        Progress.hand_other hname, List.reverse_reverse, hdivide]
      rfl
    have hattends := attends_of_kind (hkind ▸ hcomment) [] p.frames p.nodes
    rw [sectionPieces, List.append_assoc, List.cons_append,
      readFrom_sections before hbefore hearlier hfind hcomment hbecomes' hp, readFrom_of_next hstep,
      readFrom_parts parts hparts hnodes hattends, Progress.addAll_inside, List.append_nil]
    rfl

end

/-! ## Beginnings -/

/-- What has been read of a beginning. -/
def Unfinished.Makes (tags : TagTable) : Unfinished → Progress → Prop
  | .document parts, p => ∃ nodes, PartsMake tags parts nodes ∧ p = ⟨[], nodes.reverse⟩
  | .block outer name markup body, p => ∃ q kind made b, outer.Makes tags q ∧
    Bindings.find? tags name = some kind ∧ SectionsMake tags body made ∧
      kind.Becomes name markup made b ∧
        p = ⟨⟨b, made.last.reverse⟩ :: q.frames, q.nodes⟩

namespace Unfinished

variable {u : Unfinished} {p : Progress}

theorem Makes.attends (h : u.Makes tags p) (hu : u.Nested tags) : p.Attends := by
  cases u with
  | document parts =>
    obtain ⟨nodes, -, rfl⟩ := h
    intro tag inside made outer heq
    cases heq
  | block outer name markup body =>
    obtain ⟨q, kind, made, b, -, hfind, -, hbecomes, rfl⟩ := h
    obtain ⟨-, ⟨kind', hfind', hallows⟩, -⟩ := hu
    obtain rfl := Option.some.inj (hfind.symm.trans hfind')
    exact attends_of_kind ((becomes_kind hbecomes).1 ▸ hallows.ne_comment) _ _ _

theorem Makes.add (h : u.Makes tags p) {part : Part} {node : Node} (hpart : part.Makes tags node) :
    (u.add part).Makes tags (p.add node) := by
  cases u with
  | document parts =>
    obtain ⟨nodes, hnodes, rfl⟩ := h
    refine ⟨_, partsMake_append hnodes (partsMake_singleton hpart), ?_⟩
    rw [List.reverse_append]
    rfl
  | block outer name markup body =>
    obtain ⟨q, kind, made, b, houter, hfind, hmade, hbecomes, rfl⟩ := h
    refine ⟨q, kind, made.add node, b, houter, hfind, sectionsMake_add hmade hpart,
      becomes_add hbecomes node, ?_⟩
    rw [Sections.last_add, List.reverse_append]
    rfl

/-- **A beginning is read to what it makes.** -/
theorem Makes.read : {u : Unfinished} → {p : Progress} → u.Makes tags p → u.Nested tags →
    (rest : List Piece) →
      readFrom tags .start (u.pieces ++ rest) = readFrom tags p rest
  | .document parts, p, h, hu, rest => by
    obtain ⟨nodes, hnodes, rfl⟩ := h
    have hstart : Progress.start.Attends := by
      intro tag inside made outer heq
      cases heq
    rw [pieces, readFrom_parts parts hu hnodes hstart, Progress.start, Progress.addAll_outside,
      List.append_nil]
  | .block outer name markup body, p, h, ⟨houter, ⟨kind, hfind, hallows⟩, hbody⟩, rest => by
    obtain ⟨q, kind', made, b, hmakes, hfind', hmade, hbecomes, rfl⟩ := h
    obtain rfl := Option.some.inj (hfind.symm.trans hfind')
    rw [pieces, List.append_assoc, hmakes.read houter, List.cons_append]
    exact readFrom_sections body hbody hmade hfind hallows.ne_comment hbecomes
      (hmakes.attends houter) rest

end Unfinished

end Stencil.Template
