import Mathlib
import Stencil.Proofs.Template.OutlineReading

/-!
# Exactly the well-nested sources are read

A source is read if and only if its tags are nested as their kinds allow, and what is read are the
nodes that its outline stands for. Otherwise the first piece that does not fit in is told, or the
block that is open innermost in the end.

* `exists_makes` — legible outlines stand for something
* `Reached` — whatever has been read is a beginning
* `nodesOf_wellNested` — what is read, and what is told otherwise
-/

namespace Stencil.Template

open Stencil.Markup

variable {tags : TagTable}

/-! ## Legible outlines -/

/-- A legible tag whose kind encloses something opens a block. -/
theorem exists_open {name : String} {markup : Option (List Char)} {kind : TagKind}
    {names : List String} (hfind : Bindings.find? tags name = some kind)
    (hallows : kind.Allows names) (h : (Piece.tag name markup).isLegible tags) :
    ∃ b, kind.open? name markup = .ok (.block b) := by
  simp only [Piece.isLegible, hfind] at h
  obtain ⟨opening, hopen⟩ := exists_of_isOk h
  rcases open?_cases hopen with ⟨hleaf, -⟩ | ⟨-, b, rfl, -⟩
  · rw [hallows.isLeaf] at hleaf
    cases hleaf
  · exact ⟨b, hopen⟩

mutual

theorem exists_part_makes : (part : Part) → {u : Unfinished} → u.Nested tags →
    part.Nested tags → {rest : List Piece} → Legible tags (u.pieces ++ (part.pieces ++ rest)) →
      ∃ node, part.Makes tags node
  | .text content, u, hu, _, rest, _ => ⟨_, rfl⟩
  | .output markup, u, hu, _, rest, h => by
    obtain ⟨pipeline, hmarkup⟩ := exists_of_isOk (h u (.output markup) rest hu rfl)
    exact ⟨_, pipeline, hmarkup, rfl⟩
  | .leaf name markup, u, hu, ⟨kind, hfind, hleaf⟩, rest, h => by
    have hlegible := h u (.tag name markup) rest hu rfl
    simp only [Piece.isLegible, hfind] at hlegible
    obtain ⟨opening, hopen⟩ := exists_of_isOk hlegible
    rcases open?_cases hopen with ⟨-, node, rfl⟩ | ⟨hblock, -⟩
    · exact ⟨node, kind, hfind, hopen⟩
    · rw [hblock] at hleaf
      cases hleaf
  | .comment name markup inside ending, u, hu, _, rest, _ => ⟨_, rfl⟩
  | .block name markup body ending, u, hu, ⟨⟨kind, hfind, hallows⟩, hending, hbody⟩, rest, h => by
    have hlegible : Legible tags ((Unfinished.block u name markup body).pieces ++
        (.tag (Block.closing name) ending :: rest)) := by
      rw [Unfinished.pieces, List.append_assoc, List.cons_append]
      rw [Part.pieces, List.cons_append, List.cons_append, List.append_assoc] at h
      exact h
    obtain ⟨made, b, hmade, hbecomes⟩ := exists_sections_make body hu hfind hallows hbody hlegible
    exact ⟨_, kind, made, hfind, hmade, (makes_of_becomes hallows.ne_comment hbecomes).2⟩

theorem exists_parts_make : (parts : List Part) → {u : Unfinished} → u.Nested tags →
    PartsNested tags parts → {rest : List Piece} →
    Legible tags (u.pieces ++ (partPieces parts ++ rest)) → ∃ nodes, PartsMake tags parts nodes
  | [], _, _, _, _, _ => ⟨[], rfl⟩
  | part :: more, u, hu, ⟨hpart, hmore⟩, rest, h => by
    rw [partPieces, List.append_assoc] at h
    obtain ⟨node, hnode⟩ := exists_part_makes part hu hpart h
    rw [← List.append_assoc, ← Unfinished.pieces_add] at h
    obtain ⟨nodes, hnodes⟩ := exists_parts_make more (hu.add hpart) hmore h
    exact ⟨node :: nodes, node, nodes, hnode, hnodes, rfl⟩

/-- A block becomes something of sections that it allows and that are legible. -/
theorem exists_sections_make {name : String} {markup : Option (List Char)} {kind : TagKind} :
    (body : Sections Part) → {u : Unfinished} → u.Nested tags →
    Bindings.find? tags name = some kind → kind.Allows body.dividers → SectionsNested tags body →
    {rest : List Piece} →
    Legible tags ((Unfinished.block u name markup body).pieces ++ rest) →
      ∃ made b, SectionsMake tags body made ∧ kind.Becomes name markup made b
  | .first parts, u, hu, hfind, hallows, hparts, rest, h => by
    rw [Unfinished.pieces, List.append_assoc, List.cons_append] at h
    obtain ⟨b, hopen⟩ := exists_open hfind hallows (h u _ _ hu rfl)
    have hu' : (Unfinished.block u name markup (.first [])).Nested tags :=
      ⟨hu, ⟨kind, hfind, hallows⟩, trivial⟩
    have hlegible : Legible tags ((Unfinished.block u name markup (.first [])).pieces ++
        (partPieces parts ++ rest)) := by
      rw [Unfinished.pieces, List.append_assoc]
      exact h
    obtain ⟨nodes, hnodes⟩ := exists_parts_make parts hu' hparts hlegible
    exact ⟨.first nodes, b, ⟨nodes, hnodes, rfl⟩, hopen⟩
  | .next before divider m parts, u, hu, hfind, hallows, ⟨hbefore, hdivider, hparts⟩, rest, h => by
    have hallows' : kind.Allows before.dividers := hallows.of_append
    have hlegible : Legible tags ((Unfinished.block u name markup before).pieces ++
        (.tag divider m :: (partPieces parts ++ rest))) := by
      simp only [Unfinished.pieces, sectionPieces, List.append_assoc, List.cons_append] at h ⊢
      exact h
    have hu' : (Unfinished.block u name markup before).Nested tags :=
      ⟨hu, ⟨kind, hfind, hallows'⟩, hbefore⟩
    obtain ⟨earlier, b, hearlier, hbecomes⟩ :=
      exists_sections_make before hu hfind hallows' hbefore hlegible
    -- The tag that divides is legible, so a block that did not take it would refuse it.
    have hdivided : ∃ b', b.divide earlier.last divider m = .ok b' := by
      cases hdivide : b.divide earlier.last divider m with
      | ok b' => exact ⟨b', rfl⟩
      | error e =>
        refine absurd hallows ?_
        have hname := ne_closing_of_divider hallows.divider name
        have hrefuses : (Unfinished.block u name markup before).Refuses tags divider e :=
          refuses_of_divide hfind hallows.ne_comment hbecomes (sectionsMake_dividers hearlier)
            (hlegible _ _ _ hu' rfl) hdivider hname hdivide
        exact hrefuses.not_allows hfind
    obtain ⟨b', hdivide⟩ := hdivided
    have hu'' : (Unfinished.block u name markup (.next before divider m [])).Nested tags :=
      ⟨hu, ⟨kind, hfind, hallows⟩, hbefore, hdivider, trivial⟩
    have hlegible' : Legible tags ((Unfinished.block u name markup
        (.next before divider m [])).pieces ++ (partPieces parts ++ rest)) := by
      simp only [Unfinished.pieces, sectionPieces, partPieces, List.append_assoc, List.cons_append,
        List.nil_append] at h ⊢
      exact h
    obtain ⟨nodes, hnodes⟩ := exists_parts_make parts hu'' hparts hlegible'
    exact ⟨.next earlier divider m nodes, b', ⟨earlier, nodes, hearlier, hnodes, rfl⟩, b,
      hbecomes, hdivide⟩

end

/-- What can be read of a legible beginning. -/
theorem exists_makes : {u : Unfinished} → u.Nested tags → {rest : List Piece} →
    Legible tags (u.pieces ++ rest) → ∃ p, u.Makes tags p
  | .document parts, hu, rest, h => by
    obtain ⟨nodes, hnodes⟩ := @exists_parts_make tags parts (.document []) trivial hu rest h
    exact ⟨_, nodes, hnodes, rfl⟩
  | .block outer name markup body, ⟨houter, ⟨kind, hfind, hallows⟩, hbody⟩, rest, h => by
    obtain ⟨made, b, hmade, hbecomes⟩ := exists_sections_make body houter hfind hallows hbody h
    rw [Unfinished.pieces, List.append_assoc] at h
    obtain ⟨q, hq⟩ := exists_makes houter h
    exact ⟨_, q, kind, made, b, hq, hfind, hmade, hbecomes, rfl⟩

/-! ## Whatever is read -/

/-- What has been read of pieces: a beginning, or a beginning and a comment that is open. -/
inductive Reached (tags : TagTable) : List Piece → Progress → Prop where
  | open {u : Unfinished} {p : Progress} : u.Nested tags → u.Makes tags p →
    Reached tags u.pieces p
  | comment {u : Unfinished} {p : Progress} {name : String} {markup : Option (List Char)} {n : Nat}
    {inside : List Piece} : u.Nested tags → u.Makes tags p →
    Bindings.find? tags name = some .comment → Commented name n inside →
    Reached tags (u.pieces ++ .tag name markup :: inside)
      ⟨⟨.comment name n, []⟩ :: p.frames, p.nodes⟩

namespace Reached

variable {u : Unfinished} {p q : Progress}

/-- One part more. -/
theorem add (hu : u.Nested tags) (hp : u.Makes tags p) (part : Part) {node : Node}
    (hpart : part.Nested tags) (hnode : part.Makes tags node) :
    Reached tags (u.pieces ++ part.pieces) (p.add node) := by
  rw [← Unfinished.pieces_add]
  exact .open (hu.add hpart) (hp.add hnode)

/-- A registered tag. -/
theorem registered (hu : u.Nested tags) (hp : u.Makes tags p) {name : String}
    {markup : Option (List Char)} {kind : TagKind} (hfind : Bindings.find? tags name = some kind)
    {opening : Opening} (hopen : kind.open? name markup = .ok opening) :
    Reached tags (u.pieces ++ [.tag name markup]) (p.enter opening) := by
  rcases open?_cases hopen with ⟨hleaf, node, rfl⟩ | ⟨-, b, rfl, -, -⟩
  · exact add hu hp (.leaf name markup) ⟨kind, hfind, hleaf⟩ ⟨kind, hfind, hopen⟩
  · by_cases hcomment : kind = .comment
    · subst hcomment
      cases hopen
      exact .comment hu hp hfind .nil
    · have hbecomes : kind.Becomes name markup (.first []) b := hopen
      have hallows := (makes_of_becomes hcomment hbecomes).1
      have hu' : (Unfinished.block u name markup (.first [])).Nested tags :=
        ⟨hu, ⟨kind, hfind, hallows⟩, trivial⟩
      exact .open hu' ⟨p, kind, .first [], b, hp, hfind, ⟨[], rfl, rfl⟩, hbecomes, rfl⟩

/-- A tag that is not registered, handed to the innermost block. -/
theorem handed {outer : Unfinished} {tag : String} {m : Option (List Char)} {body : Sections Part}
    (hu : (Unfinished.block outer tag m body).Nested tags) {kind : TagKind} {made : Sections Node}
    {b : Block} (hq : outer.Makes tags q) (hfind : Bindings.find? tags tag = some kind)
    (hmade : SectionsMake tags body made) (hbecomes : kind.Becomes tag m made b) {name : String}
    {markup : Option (List Char)} (hnone : Bindings.find? tags name = none) {next : Progress}
    (h : Progress.hand ⟨⟨b, made.last.reverse⟩ :: q.frames, q.nodes⟩ ⟨b, made.last.reverse⟩ q.frames
      name markup = .ok next) :
    Reached tags ((Unfinished.block outer tag m body).pieces ++ [.tag name markup]) next := by
  obtain ⟨houter, ⟨kind', hfind', hallows⟩, hbody⟩ := hu
  obtain rfl := Option.some.inj (hfind.symm.trans hfind')
  have htag := (becomes_kind hbecomes).2
  rw [Unfinished.pieces, List.append_assoc]
  by_cases hname : name = Block.closing b.tag
  · rw [Progress.hand_closing hname, List.reverse_reverse] at h
    cases h
    rw [htag] at hname
    subst hname
    have hnode := (makes_of_becomes hallows.ne_comment hbecomes).2
    exact add houter hq (.block tag m body markup) ⟨⟨kind, hfind, hallows⟩, hnone, hbody⟩
      ⟨kind, made, hfind, hmade, hnode⟩
  · rw [Progress.hand_other hname, List.reverse_reverse] at h
    cases hdivide : b.divide made.last name markup with
    | error e =>
      rw [hdivide] at h
      cases h
    | ok b' =>
      rw [hdivide] at h
      cases h
      have hbecomes' : kind.Becomes tag m (.next made name markup []) b' := ⟨b, hbecomes, hdivide⟩
      have hallows' := (makes_of_becomes hallows.ne_comment hbecomes').1
      rw [Sections.dividers, sectionsMake_dividers hmade] at hallows'
      have hu' : (Unfinished.block outer tag m (.next body name markup [])).Nested tags :=
        ⟨houter, ⟨kind, hfind, hallows'⟩, hbody, hnone, trivial⟩
      exact .open hu' ⟨q, kind, .next made name markup [], b', hq, hfind,
        ⟨made, [], hmade, rfl, rfl⟩, hbecomes', rfl⟩

/-- A tag within a comment. -/
theorem skipped (hu : u.Nested tags) (hp : u.Makes tags p) {name : String}
    {markup : Option (List Char)} (hfind : Bindings.find? tags name = some .comment) {n : Nat}
    {inside : List Piece} (hinside : Commented name n inside) (other : String)
    (m : Option (List Char)) :
    Reached tags (u.pieces ++ .tag name markup :: inside ++ [.tag other m])
      (Progress.skipTag ⟨⟨.comment name n, []⟩ :: p.frames, p.nodes⟩ name n p.frames other) := by
  rw [List.append_assoc, List.cons_append]
  by_cases hname : other = name
  · subst hname
    rw [Progress.skipTag_opening]
    exact .comment hu hp hfind (hinside.opening m)
  · by_cases hclosing : other = Block.closing name
    · subst hclosing
      cases n with
      | zero =>
        rw [Progress.skipTag_ending]
        exact add hu hp (.comment name markup inside m) ⟨hfind, hinside⟩ rfl
      | succ n =>
        rw [Progress.skipTag_closing]
        exact .comment hu hp hfind (hinside.closing m)
    · rw [Progress.skipTag_other hname hclosing]
      exact .comment hu hp hfind (hinside.other hname hclosing)

/-- **Whatever is read is a beginning,** one piece after another. -/
theorem step {ps : List Piece} {piece : Piece} {next : Progress} (h : Reached tags ps p)
    (hstep : p.step tags piece = .next next) : Reached tags (ps ++ [piece]) next := by
  cases h with
  | @comment u p name markup n inside hu hp hfind hinside =>
    cases piece with
    | text content =>
      cases hstep
      rw [List.append_assoc]
      exact .comment hu hp hfind (hinside.other id id)
    | output m =>
      cases hstep
      rw [List.append_assoc]
      exact .comment hu hp hfind (hinside.other id id)
    | tag other m =>
      cases hstep
      exact skipped hu hp hfind hinside other m
  | @«open» u p hu hp =>
    have hattends := hp.attends hu
    cases piece with
    | text content =>
      rw [Progress.step_text hattends] at hstep
      cases hstep
      exact add hu hp (.text content) trivial rfl
    | output markup =>
      rw [Progress.step_output hattends] at hstep
      cases hmarkup : Pipeline.ofMarkup markup with
      | error e =>
        rw [hmarkup] at hstep
        cases hstep
      | ok pipeline =>
        rw [hmarkup] at hstep
        cases hstep
        exact add hu hp (.output markup) trivial ⟨pipeline, hmarkup, rfl⟩
    | tag name markup =>
      cases hfind : Bindings.find? tags name with
      | some kind =>
        rw [Progress.step_registered hattends hfind] at hstep
        cases hopen : kind.open? name markup with
        | error e =>
          rw [hopen] at hstep
          cases hstep
        | ok opening =>
          rw [hopen] at hstep
          cases hstep
          exact registered hu hp hfind hopen
      | none =>
        cases u with
        | document parts =>
          obtain ⟨nodes, -, rfl⟩ := hp
          rw [Progress.step_outside hfind] at hstep
          cases hstep
        | block outer tag m body =>
          obtain ⟨q, kind, made, b, hq, hfind', hmade, hbecomes, rfl⟩ := hp
          rw [Progress.step_inside hattends hfind] at hstep
          cases hhand : Progress.hand ⟨⟨b, made.last.reverse⟩ :: q.frames, q.nodes⟩
            ⟨b, made.last.reverse⟩ q.frames name markup with
          | error e =>
            rw [hhand] at hstep
            cases hstep
          | ok p =>
            rw [hhand] at hstep
            cases hstep
            exact handed hu hq hfind' hmade hbecomes hfind hhand

end Reached

/-! ## What is told -/

/-- The nodes that were read, if reading ended with the last piece. -/
def Stretch.result (s : Stretch) : Except SyntaxError (List Node) :=
  match s.stop with
  | .finished => .ok s.nodes
  | .tag name _ => .error (.unknownTag name)
  | .failed cause => .error cause

theorem nodesOf_eq (source : List Char) :
    nodesOf tags source = (readFrom tags .start (pieces source)).result := rfl

/-- A step that leads no further leads to an offence: the piece, if legible, is refused. -/
theorem Unfinished.Makes.refuses {u : Unfinished} {p : Progress} (hu : u.Nested tags)
    (hp : u.Makes tags p) {piece : Piece} (hlegible : piece.isLegible tags)
    (hstep : ∀ next, p.step tags piece ≠ .next next) :
    ∃ name markup e, piece = .tag name markup ∧ Bindings.find? tags name = none ∧
      u.Refuses tags name e ∧ ∀ rest, (readFrom tags p (piece :: rest)).result = .error e := by
  have hattends := hp.attends hu
  cases piece with
  | text content => exact absurd (Progress.step_text hattends content) (hstep _)
  | output markup =>
    obtain ⟨pipeline, hmarkup⟩ := exists_of_isOk hlegible
    have hnext := @Progress.step_output tags p hattends markup
    rw [hmarkup] at hnext
    exact absurd hnext (hstep _)
  | tag name markup =>
    cases hfind : Bindings.find? tags name with
    | some kind =>
      simp only [Piece.isLegible, hfind] at hlegible
      obtain ⟨opening, hopen⟩ := exists_of_isOk hlegible
      have hnext := Progress.step_registered hattends hfind markup
      rw [hopen] at hnext
      exact absurd hnext (hstep _)
    | none =>
      cases u with
      | document parts =>
        obtain ⟨nodes, -, rfl⟩ := hp
        refine ⟨name, markup, _, rfl, hfind, .outside parts, fun rest => ?_⟩
        rw [readFrom, Progress.step_outside hfind]
        rfl
      | block outer tag m body =>
        obtain ⟨q, kind, made, b, hq, hfind', hmade, hbecomes, rfl⟩ := hp
        obtain ⟨-, ⟨kind', hfind'', hallows⟩, -⟩ := hu
        obtain rfl := Option.some.inj (hfind'.symm.trans hfind'')
        have htag := (becomes_kind hbecomes).2
        have hinside := Progress.step_inside hattends hfind markup
        by_cases hname : name = Block.closing b.tag
        · rw [Progress.hand_closing hname] at hinside
          exact absurd hinside (hstep _)
        · rw [Progress.hand_other hname, List.reverse_reverse] at hinside
          cases hdivide : b.divide made.last name markup with
          | ok b' =>
            rw [hdivide] at hinside
            exact absurd hinside (hstep _)
          | error e =>
            rw [hdivide] at hinside
            rw [htag] at hname
            have hrefuses : (Unfinished.block outer tag m body).Refuses tags name e :=
              refuses_of_divide hfind' hallows.ne_comment hbecomes (sectionsMake_dividers hmade)
                hlegible hfind hname hdivide
            refine ⟨name, markup, e, rfl, hfind, hrefuses, fun rest => ?_⟩
            rw [readFrom, hinside]
            rfl

/-- A tag that is refused leads no further. -/
theorem Unfinished.Makes.step_ne_next {u : Unfinished} {p : Progress} (hu : u.Nested tags)
    (hp : u.Makes tags p) {name : String} (hnone : Bindings.find? tags name = none)
    {e : SyntaxError} (hrefuses : u.Refuses tags name e) (markup : Option (List Char))
    (next : Progress) : p.step tags (.tag name markup) ≠ .next next := by
  have hattends := hp.attends hu
  cases u with
  | document parts =>
    obtain ⟨nodes, -, rfl⟩ := hp
    rw [Progress.step_outside hnone]
    exact fun h => by cases h
  | block outer tag m body =>
    obtain ⟨q, kind, made, b, hq, hfind, hmade, hbecomes, rfl⟩ := hp
    obtain ⟨-, ⟨kind', hfind', hallows⟩, -⟩ := hu
    obtain rfl := Option.some.inj (hfind.symm.trans hfind')
    have htag := (becomes_kind hbecomes).2
    have hname : name ≠ Block.closing b.tag := by
      rw [htag]
      cases hrefuses with
      | afterElse _ _ hname => exact ne_closing_of_divider (hname.imp_right .inl) tag
      | unknown _ hname _ _ => exact hname
    rw [Progress.step_inside hattends hnone, Progress.hand_other hname, List.reverse_reverse]
    intro h
    cases hdivide : b.divide made.last name markup with
    | error e =>
      rw [hdivide] at h
      cases h
    | ok b' =>
      -- What the tag divided would be allowed.
      have hbecomes' : kind.Becomes tag m (.next made name markup []) b' := ⟨b, hbecomes, hdivide⟩
      have hallows' := (makes_of_becomes hallows.ne_comment hbecomes').1
      rw [Sections.dividers, sectionsMake_dividers hmade] at hallows'
      exact hrefuses.not_allows hfind hallows'

/-! ## Whole sources -/

/-- Sources that are read have an outline. -/
theorem exists_parts_of_readFrom {ps : List Piece} {p : Progress} (h : Reached tags ps p)
    {rest : List Piece} {nodes : List Node} (hread : (readFrom tags p rest).result = .ok nodes) :
    ∃ parts, PartsNested tags parts ∧ PartsMake tags parts nodes ∧
      partPieces parts = ps ++ rest := by
  induction rest generalizing ps p with
  | nil =>
    cases h with
    | comment => cases hread
    | @«open» u p hu hp =>
      cases u with
      | block outer tag m body =>
        obtain ⟨q, kind, made, b, -, -, -, -, rfl⟩ := hp
        cases hread
      | document parts =>
        obtain ⟨made, hmade, rfl⟩ := hp
        cases hread
        refine ⟨parts, hu, ?_, (List.append_nil _).symm⟩
        show PartsMake tags parts made.reverse.reverse
        rwa [List.reverse_reverse]
  | cons piece rest ih =>
    cases hstep : p.step tags piece with
    | next next =>
      rw [readFrom_of_next hstep] at hread
      have hparts := ih (h.step hstep) hread
      rwa [List.append_assoc, List.singleton_append] at hparts
    | stop name markup =>
      rw [readFrom, hstep] at hread
      cases hread
    | fail cause =>
      rw [readFrom, hstep] at hread
      cases hread

/-- Sources that are not read have an offence, which is told. -/
theorem offence_of_readFrom {ps : List Piece} {p : Progress} (h : Reached tags ps p)
    {rest : List Piece} (hlegible : Legible tags (ps ++ rest)) {e : SyntaxError}
    (hread : (readFrom tags p rest).result = .error e) : Offence tags (ps ++ rest) e := by
  induction rest generalizing ps p with
  | nil =>
    rw [List.append_nil]
    cases h with
    | @comment u p name markup n inside hu hp hfind hinside =>
      cases hread
      exact .unclosedComment hu hfind hinside
    | @«open» u p hu hp =>
      cases u with
      | document parts =>
        obtain ⟨made, -, rfl⟩ := hp
        cases hread
      | block outer tag m body =>
        obtain ⟨q, kind, made, b, -, -, -, hbecomes, rfl⟩ := hp
        cases hread
        rw [(becomes_kind hbecomes).2]
        exact .unclosed hu
  | cons piece rest ih =>
    by_cases hnext : ∃ next, p.step tags piece = .next next
    · obtain ⟨next, hstep⟩ := hnext
      rw [readFrom_of_next hstep] at hread
      rw [← List.singleton_append, ← List.append_assoc] at hlegible ⊢
      exact ih (h.step hstep) hlegible hread
    · rw [not_exists] at hnext
      cases h with
      | comment => cases piece <;> exact absurd rfl (hnext _)
      | @«open» u p hu hp =>
        obtain ⟨name, markup, e', rfl, hnone, hrefuses, htold⟩ :=
          hp.refuses hu (hlegible u piece rest hu rfl) hnext
        rw [htold] at hread
        cases hread
        exact .refused hu hnone hrefuses

/-- The error that tells of an offence is told. -/
theorem readFrom_of_offence {ps : List Piece} (hlegible : Legible tags ps) {e : SyntaxError}
    (h : Offence tags ps e) : (readFrom tags .start ps).result = .error e := by
  cases h with
  | @unclosed outer name markup body hu =>
    rw [← List.append_nil (Unfinished.pieces _)] at hlegible ⊢
    obtain ⟨p, hp⟩ := exists_makes hu hlegible
    rw [hp.read hu]
    obtain ⟨q, kind, made, b, -, -, -, hbecomes, rfl⟩ := hp
    rw [← (becomes_kind hbecomes).2]
    rfl
  | @unclosedComment u name markup n inside hu hfind hinside =>
    obtain ⟨p, hp⟩ := exists_makes hu hlegible
    have hopen : p.step tags (.tag name markup) =
        .next ⟨⟨.comment name 0, []⟩ :: p.frames, p.nodes⟩ := by
      rw [Progress.step_registered (hp.attends hu) hfind]
      rfl
    have hinside' := @readFrom_commented tags name n inside hinside p.frames p.nodes []
    rw [List.append_nil] at hinside'
    rw [hp.read hu, readFrom_of_next hopen, hinside']
    rfl
  | @refused u name markup rest _ hu hnone hrefuses =>
    obtain ⟨p, hp⟩ := exists_makes hu hlegible
    obtain ⟨name', markup', e', heq, -, hrefuses', htold⟩ :=
      hp.refuses hu (hlegible u _ rest hu rfl) (hp.step_ne_next hu hnone hrefuses markup)
    cases heq
    rw [hp.read hu, htold, hrefuses'.unique hrefuses]

theorem reached_start : Reached tags [] .start :=
  .open (u := .document []) trivial ⟨[], rfl, rfl⟩

/--
**Exactly the well-nested sources are read.** The nodes of a source are what an outline of its
pieces makes, in which tags are nested as their kinds allow. So if all markup outside of comments is
legible, a source is read if and only if it has such an outline, and otherwise the error is that of
its offence: of the first tag that is not registered and that the innermost block does not take, or
of the block that is open innermost in the end.
-/
theorem nodesOf_wellNested {source : List Char} (hlegible : Legible tags (pieces source)) :
    (∀ nodes, nodesOf tags source = .ok nodes ↔
      ∃ parts, PartsNested tags parts ∧ PartsMake tags parts nodes ∧
        partPieces parts = pieces source) ∧
    ((∃ nodes, nodesOf tags source = .ok nodes) ↔
      ∃ parts, PartsNested tags parts ∧ partPieces parts = pieces source) ∧
    ∀ e, nodesOf tags source = .error e ↔ Offence tags (pieces source) e := by
  have hread : ∀ parts nodes, PartsNested tags parts → PartsMake tags parts nodes →
      partPieces parts = pieces source → nodesOf tags source = .ok nodes := by
    intro parts nodes hparts hnodes hpieces
    have hp : (Unfinished.document parts).Makes tags ⟨[], nodes.reverse⟩ := ⟨nodes, hnodes, rfl⟩
    have hall := hp.read hparts []
    rw [List.append_nil, Unfinished.pieces, hpieces] at hall
    rw [nodesOf_eq, hall]
    exact congrArg Except.ok (List.reverse_reverse nodes)
  have houtline : ∀ nodes, nodesOf tags source = .ok nodes → ∃ parts, PartsNested tags parts ∧
      PartsMake tags parts nodes ∧ partPieces parts = pieces source := fun nodes h =>
    exists_parts_of_readFrom reached_start h
  refine ⟨fun nodes => ⟨houtline nodes, ?_⟩, ⟨?_, ?_⟩, fun e => ⟨fun h => ?_, fun h => ?_⟩⟩
  · rintro ⟨parts, hparts, hnodes, hpieces⟩
    exact hread parts nodes hparts hnodes hpieces
  · rintro ⟨nodes, h⟩
    obtain ⟨parts, hparts, -, hpieces⟩ := houtline nodes h
    exact ⟨parts, hparts, hpieces⟩
  · rintro ⟨parts, hparts, hpieces⟩
    have hdocument : Legible tags ((Unfinished.document parts).pieces ++ []) := by
      rwa [List.append_nil, Unfinished.pieces, hpieces]
    obtain ⟨p, nodes, hnodes, -⟩ := exists_makes (u := .document parts) hparts hdocument
    exact ⟨nodes, hread parts nodes hparts hnodes hpieces⟩
  · exact offence_of_readFrom reached_start hlegible h
  · exact readFrom_of_offence hlegible h

/-! ### A second `else` -/

/-- A loop that encloses a choice and has two `else`. -/
def secondElse : List Char :=
  ("\x7b% for x in a %\x7d\x7b% case x %\x7d\x7b% when 1 %\x7d\x7b\x7b x \x7d\x7d" ++
    "\x7b% else %\x7d-\x7b% endcase %\x7d\x7b% else %\x7d\x7b% else %\x7d\x7b% endfor %\x7d").toList

theorem nodesOf_wellNested_secondElse :
    Legible TagTable.standard (pieces secondElse) ∧
      Offence TagTable.standard (pieces secondElse) (.unknownTag "else") := by
  have hall : (pieces secondElse).all (·.isLegible TagTable.standard) := by cbv
  have hlegible := legible_of_forall (List.all_eq_true.mp hall)
  obtain ⟨-, -, herror⟩ := nodesOf_wellNested hlegible
  have htold : nodesOf TagTable.standard secondElse = .error (.unknownTag "else") := by cbv
  exact ⟨hlegible, (herror _).mp htold⟩

end Stencil.Template
