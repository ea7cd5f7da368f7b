import Mathlib.Data.List.Induction
import Stencil.Proofs.Template.OutlineReading
import Stencil.Render.Node

/-!
# Comments

A comment reaches to the tag that closes it, and what stands in it is not read. Only the tags of its
own name and those that close them are counted, so everything else can stand in it: tags that are
not registered or not closed, and markup that cannot be read.

* `openComments`, `commented_iff` — counting the comments that are open
* `commented_or_closed` — there is a tag that closes a comment, or it is open in the end
* `readFrom_behind` — nodes that have been read before make no difference to what is read
* `comment_hides` — how comments are read and rendered
-/

namespace Stencil.Template

open Stencil.Markup Stencil.Render

variable {tags : TagTable} {tag : String}

/-! ## Counting -/

instance (name : String) (piece : Piece) : Decidable (piece.IsTag name) :=
  match piece with
  | .tag other _ => inferInstanceAs (Decidable (other = name))
  | .text _ | .output _ => inferInstanceAs (Decidable False)

/-- How many comments are open behind a piece, if so many are open before it. There is no answer if
it closes one that is not open. -/
def openBehind (tag : String) (n : Nat) (piece : Piece) : Option Nat :=
  if piece.IsTag tag then some (n + 1)
  else if piece.IsTag (Block.closing tag) then
    match n with
    | 0 => none
    | n + 1 => some n
  else some n

/-- How many comments are open behind pieces that stand in a comment. -/
def openComments (tag : String) (ps : List Piece) : Option Nat :=
  ps.foldlM (openBehind tag) 0

theorem openComments_concat (ps : List Piece) (piece : Piece) :
    openComments tag (ps ++ [piece]) = (openComments tag ps).bind (openBehind tag · piece) := by
  simp [openComments]

theorem openBehind_opening (n : Nat) (markup : Option (List Char)) :
    openBehind tag n (.tag tag markup) = some (n + 1) :=
  if_pos rfl

theorem openBehind_closing (n : Nat) (markup : Option (List Char)) :
    openBehind tag (n + 1) (.tag (Block.closing tag) markup) = some n :=
  (if_neg (closing_ne_self tag)).trans (if_pos rfl)

theorem openBehind_ending (markup : Option (List Char)) :
    openBehind tag 0 (.tag (Block.closing tag) markup) = none :=
  (if_neg (closing_ne_self tag)).trans (if_pos rfl)

theorem openBehind_other {piece : Piece} (hopening : ¬piece.IsTag tag)
    (hclosing : ¬piece.IsTag (Block.closing tag)) (n : Nat) :
    openBehind tag n piece = some n :=
  (if_neg hopening).trans (if_neg hclosing)

/-- A piece in a comment opens one, closes one or is passed by. -/
theorem piece_cases (tag : String) (piece : Piece) :
    (∃ markup, piece = .tag tag markup) ∨ (∃ markup, piece = .tag (Block.closing tag) markup) ∨
      ¬piece.IsTag tag ∧ ¬piece.IsTag (Block.closing tag) := by
  cases piece with
  | text | output => exact .inr (.inr ⟨id, id⟩)
  | tag name markup =>
    by_cases hopening : name = tag
    · exact .inl ⟨markup, by rw [hopening]⟩
    by_cases hclosing : name = Block.closing tag
    · exact .inr (.inl ⟨markup, by rw [hclosing]⟩)
    · exact .inr (.inr ⟨hopening, hclosing⟩)

/-- **What stands in a comment is known by counting.** -/
theorem commented_iff {n : Nat} {ps : List Piece} :
    Commented tag n ps ↔ openComments tag ps = some n := by
  constructor
  · intro h
    induction h with
    | nil => rfl
    | other _ hopening hclosing ih =>
      rw [openComments_concat, ih]
      exact openBehind_other hopening hclosing _
    | opening markup _ ih =>
      rw [openComments_concat, ih]
      exact openBehind_opening _ markup
    | closing markup _ ih =>
      rw [openComments_concat, ih]
      exact openBehind_closing _ markup
  · intro h
    induction ps using List.reverseRecOn generalizing n with
    | nil =>
      cases h
      exact .nil
    | append_singleton front piece ih =>
      rw [openComments_concat, Option.bind_eq_some_iff] at h
      obtain ⟨m, hfront, hpiece⟩ := h
      rcases piece_cases tag piece with ⟨markup, rfl⟩ | ⟨markup, rfl⟩ | ⟨hopening, hclosing⟩
      · rw [openBehind_opening] at hpiece
        cases hpiece
        exact .opening markup (ih hfront)
      · cases m with
        | zero =>
          rw [openBehind_ending] at hpiece
          cases hpiece
        | succ m =>
          rw [openBehind_closing] at hpiece
          cases hpiece
          exact .closing markup (ih hfront)
      · rw [openBehind_other hopening hclosing] at hpiece
        cases hpiece
        exact .other (ih hfront) hopening hclosing

instance (tag : String) (n : Nat) (ps : List Piece) : Decidable (Commented tag n ps) :=
  decidable_of_iff _ commented_iff.symm

/-- A comment is closed by a tag, with what stands before it in the comment, and what follows. -/
def ClosedBy (tag : String) (ps inside : List Piece) (ending : Option (List Char))
    (rest : List Piece) : Prop :=
  Commented tag 0 inside ∧ ps = inside ++ .tag (Block.closing tag) ending :: rest

/-- A comment is closed, or it is open in the end. -/
theorem commented_or_closed (tag : String) (ps : List Piece) :
    (∃ n, Commented tag n ps) ∨ ∃ inside ending rest, ClosedBy tag ps inside ending rest := by
  induction ps using List.reverseRecOn with
  | nil => exact .inl ⟨0, .nil⟩
  | append_singleton front piece ih =>
    rcases ih with ⟨n, hfront⟩ | ⟨inside, ending, rest, hinside, rfl⟩
    · rcases piece_cases tag piece with ⟨markup, rfl⟩ | ⟨markup, rfl⟩ | ⟨hopening, hclosing⟩
      · exact .inl ⟨n + 1, .opening markup hfront⟩
      · cases n with
        | zero => exact .inr ⟨front, markup, [], hfront, rfl⟩
        | succ n => exact .inl ⟨n, .closing markup hfront⟩
      · exact .inl ⟨n, .other hfront hopening hclosing⟩
    · exact .inr ⟨inside, ending, rest ++ [piece], hinside, by simp⟩

/-- A comment that is closed is not open in the end. -/
theorem ClosedBy.not_commented {ps inside : List Piece} {ending : Option (List Char)}
    {rest : List Piece} (h : ClosedBy tag ps inside ending rest) (n : Nat) :
    ¬Commented tag n ps := by
  obtain ⟨hinside, rfl⟩ := h
  have hnone : openComments tag (inside ++ .tag (Block.closing tag) ending :: rest) = none := by
    have hzero := commented_iff.mp hinside
    unfold openComments at hzero ⊢
    rw [List.foldlM_append, hzero]
    show (openBehind tag 0 (.tag (Block.closing tag) ending)).bind _ = none
    rw [openBehind_ending]
    rfl
  rw [commented_iff, hnone]
  exact nofun

/-! ## Nodes before -/

/-- The same with nodes that have been read before, latest first. -/
def Progress.behind (p : Progress) (made : List Node) : Progress :=
  { p with nodes := p.nodes ++ made }

/-- What a step leads to with nodes that have been read before. -/
def Step.behind (made : List Node) : Step → Step
  | .next p => .next (p.behind made)
  | s => s

theorem Progress.add_behind (p : Progress) (made : List Node) (node : Node) :
    (p.behind made).add node = (p.add node).behind made := by
  obtain ⟨frames, nodes⟩ := p
  cases frames <;> rfl

theorem Progress.enter_behind (p : Progress) (made : List Node) (opening : Opening) :
    (p.behind made).enter opening = (p.enter opening).behind made := by
  cases opening with
  | leaf node => exact p.add_behind made node
  | block b => rfl

theorem Progress.skipTag_behind (p : Progress) (made : List Node) (tag : String) (inside : Nat)
    (outer : List Frame) (name : String) :
    (p.behind made).skipTag tag inside outer name =
      (p.skipTag tag inside outer name).behind made := by
  unfold skipTag
  split_ifs
  · rfl
  · cases inside with
    | zero => exact add_behind ⟨outer, p.nodes⟩ made .comment
    | succ inside => rfl
  · rfl

theorem Step.ofExcept_map_behind {α : Type} {r : Except SyntaxError α} {made : List Node}
    {f g : α → Progress} (h : ∀ a, g a = (f a).behind made) :
    Step.ofExcept (r.map g) = (Step.ofExcept (r.map f)).behind made := by
  cases r with
  | ok a => exact congrArg Step.next (h a)
  | error e => rfl

theorem Progress.hand_behind (p : Progress) (made : List Node) (frame : Frame) (outer : List Frame)
    (name : String) (markup : Option (List Char)) :
    Step.ofExcept ((p.behind made).hand frame outer name markup) =
      (Step.ofExcept (p.hand frame outer name markup)).behind made := by
  unfold hand
  split_ifs
  · exact congrArg Step.next (add_behind ⟨outer, p.nodes⟩ made _)
  · exact Step.ofExcept_map_behind fun _ => rfl

/-- Nodes that have been read before make no difference to a step. -/
theorem Progress.step_behind (p : Progress) (made : List Node) (piece : Piece) :
    (p.behind made).step tags piece = (p.step tags piece).behind made := by
  by_cases hp : p.Attends
  · have hp' : (p.behind made).Attends := hp
    cases piece with
    | text content => rw [step_text hp, step_text hp', add_behind]; rfl
    | output markup =>
      rw [step_output hp, step_output hp']
      exact Step.ofExcept_map_behind fun _ => p.add_behind made _
    | tag name markup =>
      cases hfind : Bindings.find? tags name with
      | some kind =>
        rw [step_registered hp hfind, step_registered hp' hfind]
        exact Step.ofExcept_map_behind fun opening => p.enter_behind made opening
      | none =>
        obtain ⟨frames, nodes⟩ := p
        cases frames with
        | nil => rw [step_outside hfind]; exact step_outside hfind markup _
        | cons frame outer =>
          rw [step_inside hp hfind]
          exact (step_inside hp' hfind markup).trans (hand_behind _ made frame outer name markup)
  · unfold Attends at hp
    push Not at hp
    obtain ⟨tag, inside, others, outer, hframes⟩ := hp
    obtain ⟨frames, nodes⟩ := p
    obtain rfl := hframes
    cases piece with
    | text content | output markup => rfl
    | tag name markup => exact congrArg Step.next (skipTag_behind _ made tag inside outer name)

/-- Nodes that have been read before make no difference to what is read, and stay. -/
theorem readFrom_behind (p : Progress) (made : List Node) (ps : List Piece) :
    readFrom tags (p.behind made) ps =
      { readFrom tags p ps with nodes := made.reverse ++ (readFrom tags p ps).nodes } := by
  induction ps generalizing p with
  | nil => simp [readFrom, Progress.behind, Progress.finish]
  | cons piece rest ih =>
    rw [readFrom, readFrom, Progress.step_behind]
    cases p.step tags piece with
    | next q => exact ih q
    | stop name markup => simp [Step.behind, Progress.behind]
    | fail cause => simp [Step.behind, Progress.behind]

/-! ## Reading comments -/

section

variable {name : String} (hfind : Bindings.find? tags name = some .comment)
  (markup : Option (List Char)) {p : Progress} (hp : p.Attends)

include hfind hp

/-- A comment that is closed is one node, and reading goes on behind it. -/
theorem readFrom_closed {ps inside : List Piece} {ending : Option (List Char)} {rest : List Piece}
    (h : ClosedBy name ps inside ending rest) :
    readFrom tags p (.tag name markup :: ps) = readFrom tags (p.add .comment) rest := by
  obtain ⟨hinside, rfl⟩ := h
  have hpart := readFrom_part (.comment name markup inside ending) ⟨hfind, hinside⟩ rfl hp rest
  rwa [Part.pieces, List.cons_append, List.cons_append, List.append_assoc,
    List.singleton_append] at hpart

/-- A comment that is open in the end is told. -/
theorem readFrom_unclosed {ps : List Piece} {n : Nat} (h : Commented name n ps) :
    (readFrom tags p (.tag name markup :: ps)).stop = .failed (.unclosedTag name) := by
  have hopen : p.step tags (.tag name markup) =
      .next ⟨⟨.comment name 0, []⟩ :: p.frames, p.nodes⟩ := by
    rw [Progress.step_registered hp hfind]
    rfl
  have hread : readFrom tags _ (ps ++ []) = _ := readFrom_commented h p.frames p.nodes []
  rw [List.append_nil] at hread
  rw [readFrom_of_next hopen, hread]
  rfl

end

/-- **A comment hides anything.** Wherever a comment is read, it reaches to the tag that closes it,
whatever stands in it: it is one node, and what follows is read as if it began there. If no tag
closes it, reading fails and tells so. The node writes nothing and changes nothing. -/
theorem comment_hides {name : String} (hfind : Bindings.find? tags name = some .comment)
    (markup : Option (List Char)) (ps : List Piece) :
    (∀ inside ending rest, ClosedBy name ps inside ending rest →
      (∀ p : Progress, p.Attends →
        readFrom tags p (.tag name markup :: ps) = readFrom tags (p.add .comment) rest) ∧
      readNodes tags (.tag name markup :: ps) =
        { readNodes tags rest with nodes := .comment :: (readNodes tags rest).nodes }) ∧
    ((∀ inside ending rest, ¬ClosedBy name ps inside ending rest) →
      ∀ p : Progress, p.Attends →
        (readFrom tags p (.tag name markup :: ps)).stop = .failed (.unclosedTag name)) ∧
    ∀ config partialOf ctx, renderNode config partialOf .comment ctx = (.ok (), ctx) := by
  refine ⟨fun inside ending rest h => ⟨fun p hp => readFrom_closed hfind markup hp h, ?_⟩,
    fun hnone p hp => ?_, fun config partialOf ctx => ?_⟩
  · have hread := readFrom_closed hfind markup (p := .start) nofun h
    exact hread.trans (readFrom_behind .start [.comment] rest)
  · rcases commented_or_closed name ps with ⟨n, hopen⟩ | ⟨inside, ending, rest, h⟩
    · exact readFrom_unclosed hfind markup hp hopen
    · exact absurd h (hnone inside ending rest)
  · rw [renderNode]
    rfl

/-- Tags that are not registered or not closed, markup that cannot be read, and a comment. -/
def hidden : List Piece :=
  [.tag "frob" none, .output ['|'], .tag "if" none, .tag "comment" none, .tag "else" none,
    .tag "endcomment" none, .tag "endfor" none]

theorem comment_hides_hidden :
    let closed := hidden ++ [.tag "endcomment" none, .text ['a']]
    ClosedBy "comment" closed hidden none [.text ['a']] ∧
      readNodes TagTable.standard (.tag "comment" none :: closed) =
        ⟨[.comment, .text "a"], .finished, []⟩ ∧
      (readNodes TagTable.standard (.tag "comment" none :: hidden)).stop =
        .failed (.unclosedTag "comment") := by
  intro closed
  have hfind : Bindings.find? TagTable.standard "comment" = some .comment := by decide
  have hinside : Commented "comment" 0 hidden := by decide
  have hclosed : ClosedBy "comment" closed hidden none [.text ['a']] := ⟨hinside, rfl⟩
  refine ⟨hclosed, ?_, ?_⟩
  · exact ((comment_hides hfind none closed).1 _ _ _ hclosed).2
  · refine (comment_hides hfind none hidden).2.1 (fun inside ending rest h => ?_) .start nofun
    exact h.not_commented 0 hinside

end Stencil.Template
