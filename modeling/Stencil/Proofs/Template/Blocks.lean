import Stencil.Proofs.Template.Outline

/-!
# What blocks become

While a block is read it is opened once and divided at each tag between its sections. What it has
become then tells the sections that were read, and it closes to the node that these make. A tag that
does not divide it is refused.

* `TagKind.Becomes` — the block that a tag has become after sections
* `makes_of_becomes`, `becomes_of_makes` — what it closes to
* `refuses_of_divide` — which tags do not divide it, and what is told of them
-/

namespace Stencil.Template

open Stencil.Markup

/-! ## Names -/

theorem toList_closing (tag : String) :
    (Block.closing tag).toList = 'e' :: 'n' :: 'd' :: tag.toList :=
  String.toList_append

theorem closing_ne_self (tag : String) : Block.closing tag ≠ tag := by
  intro h
  have hlength := congrArg (fun s : String => s.toList.length) h
  simp only [toList_closing, List.length_cons] at hlength
  omega

/-- A tag that divides blocks does not close any. -/
theorem ne_closing_of_divider {name : String}
    (h : name = "elsif" ∨ name = "else" ∨ name = "when") (tag : String) :
    name ≠ Block.closing tag := by
  intro heq
  have hlist := congrArg String.toList heq
  rw [toList_closing] at hlist
  rcases h with rfl | rfl | rfl
  · cases hlist
  · cases hlist
  · cases hlist

/-! ## Blocks -/

/-- The kind of tag that begins a block. -/
def Block.kind : Block → TagKind
  | .conditional _ inverted .. => .conditional inverted
  | .loop .. => .loop
  | .choice .. => .choice
  | .capture .. => .capture
  | .comment .. => .comment
  | .repetition .. => .repetition

/-- What a tag that can be read begins: a block of its kind and name, unless it encloses nothing. -/
theorem open?_cases {kind : TagKind} {tag : String} {markup : Option (List Char)}
    {opening : Opening} (h : kind.open? tag markup = .ok opening) :
    (kind.isLeaf ∧ ∃ node, opening = .leaf node) ∨
      (kind.isLeaf = false ∧ ∃ b, opening = .block b ∧ b.kind = kind ∧ b.tag = tag) := by
  cases kind with
  | assign =>
    obtain ⟨⟨name, value⟩, -, h⟩ := bind_eq_ok_iff.mp h
    cases h
    exact .inl ⟨rfl, _, rfl⟩
  | comment =>
    cases h
    exact .inr ⟨rfl, _, rfl, rfl, rfl⟩
  | interrupt kind =>
    cases h
    exact .inl ⟨rfl, _, rfl⟩
  | counter | inclusion | rotation =>
    obtain ⟨_, -, h⟩ := bind_eq_ok_iff.mp h
    cases h
    exact .inl ⟨rfl, _, rfl⟩
  | capture | choice | conditional | loop | repetition =>
    obtain ⟨_, -, h⟩ := bind_eq_ok_iff.mp h
    cases h
    exact .inr ⟨rfl, _, rfl, rfl, rfl⟩

theorem divide_conditional_eq_ok_iff {tag : String} {inverted : Bool} {before : List Branch}
    {condition : Option Condition} {nodes : List Node} {name : String}
    {markup : Option (List Char)} {next : Block} :
    (Block.conditional tag inverted before condition).divide nodes name markup = .ok next ↔
      condition ≠ none ∧ ∃ c, IsCondition name markup c ∧
        next = .conditional tag inverted (before ++ [.mk condition nodes]) c := by
  unfold Block.divide
  dsimp only
  by_cases hname : name = "elsif" ∨ name = "else"
  · rw [if_pos hname]
    cases condition with
    | none => simp
    | some condition =>
      simp only [Option.isNone_some, Bool.false_eq_true, if_false, ne_eq, reduceCtorEq,
        not_false_eq_true, true_and]
      rcases hname with rfl | rfl
      · cases hread : readMarkup "elsif" markup Reader.condition with
        | error e => simp [IsCondition, hread, bind, Except.bind, Functor.map, Except.map]
        | ok c =>
          simp [IsCondition, hread, bind, Except.bind, Functor.map, Except.map, pure, Except.pure,
            eq_comm]
      · simp [IsCondition, bind, Except.bind, pure, Except.pure, eq_comm]
  · rw [if_neg hname]
    simp only [reduceCtorEq, false_iff, not_and, not_exists]
    rintro - c (⟨hname', -⟩ | ⟨hname', -⟩)
    · exact absurd (.inl hname') hname
    · exact absurd (.inr hname') hname

theorem divide_loop_eq_ok_iff {tag : String} {header : LoopHeader} {body : Option (List Node)}
    {nodes : List Node} {name : String} {markup : Option (List Char)} {next : Block} :
    (Block.loop tag header body).divide nodes name markup = .ok next ↔
      body = none ∧ name = "else" ∧ next = .loop tag header (some nodes) := by
  cases body with
  | some body => simp [Block.divide]
  | none =>
    simp only [Block.divide, true_and]
    split
    · simp_all [eq_comm]
    · simp_all

theorem divide_choice_eq_ok_iff {tag : String} {subject : Expression} {before : List Clause}
    {label : Option Label} {nodes : List Node} {name : String} {markup : Option (List Char)}
    {next : Block} :
    (Block.choice tag subject before label).divide nodes name markup = .ok next ↔
      ∃ l, IsLabel name markup l ∧
        next = .choice tag subject (Block.clausesWith before label nodes) (some l) := by
  unfold Block.divide
  dsimp only
  by_cases hwhen : name = "when"
  · subst hwhen
    rw [if_pos rfl]
    cases hread : readMarkup "when" markup readLabel with
    | error e => simp [IsLabel, hread, bind, Except.bind]
    | ok l => simp [IsLabel, hread, bind, Except.bind, pure, Except.pure, eq_comm]
  · rw [if_neg hwhen]
    by_cases helse : name = "else"
    · subst helse
      simp [IsLabel, eq_comm]
    · rw [if_neg helse]
      simp [IsLabel, hwhen, helse]

/-- Only some names divide a block, and a divided block is of the same kind and name. -/
theorem divide_cases {b next : Block} {nodes : List Node} {name : String}
    {markup : Option (List Char)} (h : b.divide nodes name markup = .ok next) :
    (name = "elsif" ∨ name = "else" ∨ name = "when") ∧ next.kind = b.kind ∧ next.tag = b.tag := by
  cases b with
  | conditional tag inverted before condition =>
    obtain ⟨-, c, hc, rfl⟩ := divide_conditional_eq_ok_iff.mp h
    exact ⟨hc.imp And.left (.inl ∘ And.left), rfl, rfl⟩
  | loop tag header body =>
    obtain ⟨-, hname, rfl⟩ := divide_loop_eq_ok_iff.mp h
    exact ⟨.inr (.inl hname), rfl, rfl⟩
  | choice tag subject before label =>
    obtain ⟨l, hl, rfl⟩ := divide_choice_eq_ok_iff.mp h
    exact ⟨.inr (hl.symm.imp And.left And.left), rfl, rfl⟩
  | capture tag name => cases h
  | comment tag inside => cases h
  | repetition tag times => cases h

/-! ## Blocks that are open -/

/-- The block that a tag of a kind has become after sections: it was opened, and divided at each tag
between them. -/
def TagKind.Becomes (tag : String) (markup : Option (List Char)) (kind : TagKind) :
    Sections Node → Block → Prop
  | .first _, b => kind.open? tag markup = .ok (.block b)
  | .next before name m _, b => ∃ earlier, kind.Becomes tag markup before earlier ∧
    earlier.divide before.last name m = .ok b

section

variable {tag : String} {markup : Option (List Char)} {kind : TagKind}

theorem becomes_add {body : Sections Node} {b : Block} (h : kind.Becomes tag markup body b)
    (node : Node) : kind.Becomes tag markup (body.add node) b := by
  cases body with
  | first nodes => exact h
  | next before name m nodes => exact h

theorem becomes_kind {body : Sections Node} {b : Block} (h : kind.Becomes tag markup body b) :
    b.kind = kind ∧ b.tag = tag := by
  induction body generalizing b with
  | first nodes =>
    rcases open?_cases h with ⟨-, _, hleaf⟩ | ⟨-, _, hblock, hkind, htag⟩
    · cases hleaf
    · cases hblock
      exact ⟨hkind, htag⟩
  | next before name m nodes ih =>
    obtain ⟨earlier, hearlier, hdivide⟩ := h
    obtain ⟨-, hkind, htag⟩ := divide_cases hdivide
    rw [hkind, htag]
    exact ih hearlier

/-! ### Conditionals -/

theorem allows_conditional_next {inverted : Bool} {names : List String} {name : String} :
    (TagKind.conditional inverted).Allows (names ++ [name]) ↔
      (TagKind.conditional inverted).Allows names ∧ "else" ∉ names ∧
        (name = "elsif" ∨ name = "else") := by
  simp only [TagKind.Allows, List.forall_mem_append, List.forall_mem_singleton,
    List.dropLast_concat]
  refine ⟨fun ⟨⟨hnames, hname⟩, helse⟩ => ⟨⟨hnames, ?_⟩, helse, hname⟩,
    fun ⟨⟨hnames, _⟩, helse, hname⟩ => ⟨⟨hnames, hname⟩, helse⟩⟩
  exact fun hmem => helse (List.dropLast_subset names hmem)

/-- A conditional that has become of sections is allowed by its kind; all its sections are branches,
and the last has no condition if and only if `else` came. -/
theorem becomes_conditional {inverted : Bool} {body : Sections Node} {b : Block}
    (h : (TagKind.conditional inverted).Becomes tag markup body b) :
    ∃ c before condition, readMarkup tag markup Reader.condition = .ok c ∧
      b = .conditional tag inverted before condition ∧
      AreBranches c body (before ++ [.mk condition body.last]) ∧
      (condition = none ↔ "else" ∈ body.dividers) ∧
      (TagKind.conditional inverted).Allows body.dividers := by
  induction body generalizing b with
  | first nodes =>
    obtain ⟨c, hc, h⟩ := bind_eq_ok_iff.mp h
    cases h
    exact ⟨c, [], some c, hc, rfl, rfl, by simp [Sections.dividers],
      by simp [Sections.dividers, TagKind.Allows]⟩
  | next earlier name m nodes ih =>
    obtain ⟨b', hearlier, hdivide⟩ := h
    obtain ⟨c, before, condition, hc, rfl, hbranches, helse, hallows⟩ := ih hearlier
    obtain ⟨hcondition, c', hc', rfl⟩ := divide_conditional_eq_ok_iff.mp hdivide
    have hnot : "else" ∉ earlier.dividers := fun hmem => hcondition (helse.mpr hmem)
    refine ⟨c, _, c', hc, rfl, ⟨_, c', hbranches, hc', rfl⟩, ?_, ?_⟩
    · rw [Sections.dividers, List.mem_append, List.mem_singleton]
      rcases hc' with ⟨rfl, c'', -, rfl⟩ | ⟨rfl, rfl⟩
      · simp [hnot]
      · simp
    · exact allows_conditional_next.mpr ⟨hallows, hnot, hc'.imp And.left And.left⟩

/-- Branches that are allowed are those of a conditional that has become of them. -/
theorem exists_becomes_of_areBranches {inverted : Bool} {body : Sections Node} {c : Condition}
    (hc : readMarkup tag markup Reader.condition = .ok c) {branches : List Branch}
    (hallows : (TagKind.conditional inverted).Allows body.dividers)
    (h : AreBranches c body branches) :
    ∃ before condition, branches = before ++ [.mk condition body.last] ∧
      (TagKind.conditional inverted).Becomes tag markup body
        (.conditional tag inverted before condition) := by
  induction body generalizing branches with
  | first nodes => exact ⟨[], some c, h, bind_eq_ok_iff.mpr ⟨c, hc, rfl⟩⟩
  | next earlier name m nodes ih =>
    obtain ⟨before, condition, hearlier, hcondition, rfl⟩ := h
    obtain ⟨hallows', hnot, -⟩ := allows_conditional_next.mp hallows
    obtain ⟨before', condition', rfl, hbecomes⟩ := ih hallows' hearlier
    refine ⟨_, condition, rfl, _, hbecomes, ?_⟩
    obtain ⟨_, _, _, -, heq, -, helse, -⟩ := becomes_conditional hbecomes
    cases heq
    exact divide_conditional_eq_ok_iff.mpr ⟨fun hnone => hnot (helse.mp hnone), condition,
      hcondition, rfl⟩

/-! ### Loops -/

theorem becomes_loop {body : Sections Node} {b : Block}
    (h : TagKind.loop.Becomes tag markup body b) :
    ∃ header, readMarkup tag markup (readLoopHeader tag) = .ok header ∧
      ((∃ nodes, body = .first nodes ∧ b = .loop tag header none) ∨
        ∃ nodes m others, body = .next (.first nodes) "else" m others ∧
          b = .loop tag header (some nodes)) := by
  induction body generalizing b with
  | first nodes =>
    obtain ⟨header, hheader, h⟩ := bind_eq_ok_iff.mp h
    cases h
    exact ⟨header, hheader, .inl ⟨nodes, rfl, rfl⟩⟩
  | next earlier name m nodes ih =>
    obtain ⟨b', hearlier, hdivide⟩ := h
    obtain ⟨header, hheader, ⟨first, rfl, rfl⟩ | ⟨_, _, _, -, rfl⟩⟩ := ih hearlier
    · obtain ⟨-, rfl, rfl⟩ := divide_loop_eq_ok_iff.mp hdivide
      exact ⟨header, hheader, .inr ⟨first, m, nodes, rfl, rfl⟩⟩
    · cases hdivide

/-! ### Choices -/

theorem becomes_choice {body : Sections Node} {b : Block}
    (h : TagKind.choice.Becomes tag markup body b) :
    ∃ subject before label, readMarkup tag markup Reader.expression = .ok subject ∧
      b = .choice tag subject before label ∧
      AreClauses body (Block.clausesWith before label body.last) ∧
      TagKind.choice.Allows body.dividers := by
  induction body generalizing b with
  | first nodes =>
    obtain ⟨subject, hsubject, h⟩ := bind_eq_ok_iff.mp h
    cases h
    exact ⟨subject, [], none, hsubject, rfl, rfl, by simp [Sections.dividers, TagKind.Allows]⟩
  | next earlier name m nodes ih =>
    obtain ⟨b', hearlier, hdivide⟩ := h
    obtain ⟨subject, before, label, hsubject, rfl, hclauses, hallows⟩ := ih hearlier
    obtain ⟨l, hl, rfl⟩ := divide_choice_eq_ok_iff.mp hdivide
    refine ⟨subject, _, some l, hsubject, rfl, ⟨_, l, hclauses, hl, rfl⟩, ?_⟩
    exact List.forall_mem_append.mpr ⟨hallows,
      List.forall_mem_singleton.mpr (hl.imp And.left And.left)⟩

theorem exists_becomes_of_areClauses {body : Sections Node} {subject : Expression}
    (hsubject : readMarkup tag markup Reader.expression = .ok subject) {clauses : List Clause}
    (h : AreClauses body clauses) :
    ∃ before label, clauses = Block.clausesWith before label body.last ∧
      TagKind.choice.Becomes tag markup body (.choice tag subject before label) := by
  induction body generalizing clauses with
  | first nodes => exact ⟨[], none, h, bind_eq_ok_iff.mpr ⟨subject, hsubject, rfl⟩⟩
  | next earlier name m nodes ih =>
    obtain ⟨before, l, hearlier, hl, rfl⟩ := h
    obtain ⟨before', label, rfl, hbecomes⟩ := ih hearlier
    exact ⟨_, some l, rfl, _, hbecomes, divide_choice_eq_ok_iff.mpr ⟨l, hl, rfl⟩⟩

/-! ### All kinds -/

/-- A block that encloses a body as it is has one section. -/
theorem becomes_undivided (hkind : kind = .capture ∨ kind = .repetition) {body : Sections Node}
    {b : Block} (h : kind.Becomes tag markup body b) :
    (∃ nodes, body = .first nodes) ∧ kind.open? tag markup = .ok (.block b) := by
  cases body with
  | first nodes => exact ⟨⟨nodes, rfl⟩, h⟩
  | next before name m nodes =>
    obtain ⟨earlier, hearlier, hdivide⟩ := h
    have hearlier' := (becomes_kind hearlier).1
    cases earlier with
    | capture | comment | repetition => cases hdivide
    | conditional | loop | choice =>
      rcases hkind with rfl | rfl
      · cases hearlier'
      · cases hearlier'

/-- A block closes to the node that its kind makes of its sections, which it allows. -/
theorem makes_of_becomes (hcomment : kind ≠ .comment) {body : Sections Node} {b : Block}
    (h : kind.Becomes tag markup body b) :
    kind.Allows body.dividers ∧ kind.Makes tag markup body (b.close body.last) := by
  cases kind with
  | conditional inverted =>
    obtain ⟨c, before, condition, hc, rfl, hbranches, -, hallows⟩ := becomes_conditional h
    exact ⟨hallows, c, _, hc, hbranches, rfl⟩
  | loop =>
    obtain ⟨header, hheader, ⟨nodes, rfl, rfl⟩ | ⟨nodes, m, others, rfl, rfl⟩⟩ := becomes_loop h
    · exact ⟨.inl rfl, header, hheader, rfl⟩
    · exact ⟨.inr rfl, rfl, header, hheader, rfl⟩
  | choice =>
    obtain ⟨subject, before, label, hsubject, rfl, hclauses, hallows⟩ := becomes_choice h
    exact ⟨hallows, subject, _, hsubject, hclauses, rfl⟩
  | capture =>
    obtain ⟨⟨nodes, rfl⟩, hopen⟩ := becomes_undivided (.inl rfl) h
    obtain ⟨name, hname, hopen⟩ := bind_eq_ok_iff.mp hopen
    cases hopen
    exact ⟨rfl, name, hname, rfl⟩
  | repetition =>
    obtain ⟨⟨nodes, rfl⟩, hopen⟩ := becomes_undivided (.inr rfl) h
    obtain ⟨times, htimes, hopen⟩ := bind_eq_ok_iff.mp hopen
    cases hopen
    exact ⟨rfl, times, htimes, rfl⟩
  | comment => exact absurd rfl hcomment
  | assign | counter | inclusion | interrupt | rotation =>
    have hkind := (becomes_kind h).1
    cases b <;> cases hkind

/-- The node that a kind makes of sections it allows is what a block of them closes to. -/
theorem becomes_of_makes {body : Sections Node} {node : Node} (hallows : kind.Allows body.dividers)
    (h : kind.Makes tag markup body node) :
    ∃ b, kind.Becomes tag markup body b ∧ node = b.close body.last := by
  cases kind with
  | conditional inverted =>
    obtain ⟨c, branches, hc, hbranches, rfl⟩ := h
    obtain ⟨before, condition, rfl, hbecomes⟩ := exists_becomes_of_areBranches hc hallows hbranches
    exact ⟨_, hbecomes, rfl⟩
  | loop =>
    cases body with
    | first nodes =>
      obtain ⟨header, hheader, rfl⟩ := h
      exact ⟨_, bind_eq_ok_iff.mpr ⟨header, hheader, rfl⟩, rfl⟩
    | next before name m others =>
      cases before with
      | next => cases h
      | first nodes =>
        obtain ⟨rfl, header, hheader, rfl⟩ := h
        exact ⟨_, ⟨_, bind_eq_ok_iff.mpr ⟨header, hheader, rfl⟩, rfl⟩, rfl⟩
  | choice =>
    obtain ⟨subject, clauses, hsubject, hclauses, rfl⟩ := h
    obtain ⟨before, label, rfl, hbecomes⟩ := exists_becomes_of_areClauses hsubject hclauses
    exact ⟨_, hbecomes, rfl⟩
  | capture =>
    cases body with
    | next => cases h
    | first nodes =>
      obtain ⟨name, hname, rfl⟩ := h
      exact ⟨_, bind_eq_ok_iff.mpr ⟨name, hname, rfl⟩, rfl⟩
  | repetition =>
    cases body with
    | next => cases h
    | first nodes =>
      obtain ⟨times, htimes, rfl⟩ := h
      exact ⟨_, bind_eq_ok_iff.mpr ⟨times, htimes, rfl⟩, rfl⟩
  | comment | assign | counter | inclusion | interrupt | rotation => exact absurd hallows id

end

/-! ### Allowed tags -/

theorem TagKind.Allows.ne_comment {kind : TagKind} {names : List String} (h : kind.Allows names) :
    kind ≠ .comment := by
  rintro rfl
  exact h

theorem TagKind.Allows.of_append {kind : TagKind} {names : List String} {name : String}
    (h : kind.Allows (names ++ [name])) : kind.Allows names := by
  cases kind with
  | conditional inverted => exact (allows_conditional_next.mp h).1
  | loop =>
    rcases h with h | h
    · cases List.append_eq_nil_iff.mp h |>.2
    · left
      have hlength := congrArg List.length h
      rw [List.length_append, List.length_singleton, List.length_singleton] at hlength
      exact List.length_eq_zero_iff.mp (by omega)
  | choice => exact (List.forall_mem_append.mp h).1
  | capture | repetition => cases List.append_eq_nil_iff.mp h |>.2
  | comment | assign | counter | inclusion | interrupt | rotation => exact absurd h id

/-- Only some names are allowed to divide a block. -/
theorem TagKind.Allows.divider {kind : TagKind} {names : List String} {name : String}
    (h : kind.Allows (names ++ [name])) : name = "elsif" ∨ name = "else" ∨ name = "when" := by
  cases kind with
  | conditional inverted => exact (allows_conditional_next.mp h).2.2.imp_right .inl
  | loop =>
    rcases h with h | h
    · cases List.append_eq_nil_iff.mp h |>.2
    · have hlast := congrArg List.getLast? h
      rw [List.getLast?_concat] at hlast
      cases hlast
      exact .inr (.inl rfl)
  | choice =>
    rcases h name (by simp) with hname | hname
    · exact .inr (.inr hname)
    · exact .inr (.inl hname)
  | capture | repetition => cases List.append_eq_nil_iff.mp h |>.2
  | comment | assign | counter | inclusion | interrupt | rotation => exact absurd h id

theorem TagKind.Allows.isLeaf {kind : TagKind} {names : List String} (h : kind.Allows names) :
    kind.isLeaf = false := by
  cases kind with
  | assign | counter | inclusion | interrupt | rotation => exact absurd h id
  | _ => rfl

variable {tags : TagTable}

/-! ## Refused tags -/

theorem exists_of_isOk {α : Type} {x : Except SyntaxError α} (h : x.isOk) : ∃ a, x = .ok a := by
  cases x with
  | error e => cases h
  | ok a => exact ⟨a, rfl⟩

theorem isLegible_elsif {markup : Option (List Char)}
    (hnone : Bindings.find? tags "elsif" = none)
    (h : (Piece.tag "elsif" markup).isLegible tags) :
    ∃ c, readMarkup "elsif" markup Reader.condition = .ok c := by
  simp only [Piece.isLegible, hnone, if_true] at h
  exact exists_of_isOk h

theorem isLegible_when {markup : Option (List Char)}
    (hnone : Bindings.find? tags "when" = none)
    (h : (Piece.tag "when" markup).isLegible tags) :
    ∃ l, readMarkup "when" markup readLabel = .ok l := by
  simp only [Piece.isLegible, hnone] at h
  exact exists_of_isOk h

/-- A block that cannot be divided by a legible tag refuses the tag, and tells so. -/
theorem refuses_of_divide {tag : String} {kind : TagKind}
    (hfind : Bindings.find? tags tag = some kind) (hcomment : kind ≠ .comment)
    {markup : Option (List Char)} {made : Sections Node} {b : Block}
    (hbecomes : kind.Becomes tag markup made b) {outer : Unfinished} {body : Sections Part}
    (hdividers : made.dividers = body.dividers) {name : String} {m : Option (List Char)}
    (hlegible : (Piece.tag name m).isLegible tags) (hnone : Bindings.find? tags name = none)
    (hname : name ≠ Block.closing tag) {e : SyntaxError}
    (h : b.divide made.last name m = .error e) :
    (Unfinished.block outer tag markup body).Refuses tags name e := by
  have hdivided : ∀ next, b.divide made.last name m ≠ .ok next := by
    intro next hnext
    rw [hnext] at h
    cases h
  cases kind with
  | conditional inverted =>
    obtain ⟨c, before, condition, -, rfl, -, helse, -⟩ := becomes_conditional hbecomes
    rw [hdividers] at helse
    by_cases hafter : condition = none ∧ (name = "elsif" ∨ name = "else")
    · obtain ⟨rfl, hbranch⟩ := hafter
      rw [Block.divide, if_pos hbranch] at h
      cases h
      exact .afterElse hfind (helse.mp rfl) hbranch
    · have hbranch : ¬(name = "elsif" ∨ name = "else") := by
        rintro (rfl | rfl)
        · obtain ⟨c', hc'⟩ := isLegible_elsif hnone hlegible
          exact hdivided _ (divide_conditional_eq_ok_iff.mpr
            ⟨fun hc => hafter ⟨hc, .inl rfl⟩, some c', .inl ⟨rfl, c', hc', rfl⟩, rfl⟩)
        · exact hdivided _ (divide_conditional_eq_ok_iff.mpr
            ⟨fun hc => hafter ⟨hc, .inr rfl⟩, none, .inr ⟨rfl, rfl⟩, rfl⟩)
      rw [Block.divide, if_neg hbranch] at h
      cases h
      refine .unknown hfind hname ?_ ?_
      · rw [allows_conditional_next]
        exact fun hallows => hbranch hallows.2.2
      · rintro ⟨_, -, -, hname⟩
        exact hbranch hname
  | loop =>
    obtain ⟨header, -, ⟨nodes, rfl, rfl⟩ | ⟨nodes, m', others, rfl, rfl⟩⟩ := becomes_loop hbecomes
    · have helse : name ≠ "else" := fun heq =>
        hdivided _ (divide_loop_eq_ok_iff.mpr ⟨rfl, heq, rfl⟩)
      rw [Block.divide, if_neg helse] at h
      cases h
      refine .unknown hfind hname ?_ (by simp)
      rw [← hdividers]
      simpa [TagKind.Allows, Sections.dividers] using helse
    · cases h
      refine .unknown hfind hname ?_ (by simp)
      rw [← hdividers]
      simp [TagKind.Allows, Sections.dividers]
  | choice =>
    obtain ⟨subject, before, label, -, rfl, -, -⟩ := becomes_choice hbecomes
    have hlabel : ∀ l, ¬IsLabel name m l := fun l hl =>
      hdivided _ (divide_choice_eq_ok_iff.mpr ⟨l, hl, rfl⟩)
    have helse : name ≠ "else" := fun heq => hlabel .otherwise (.inr ⟨heq, rfl⟩)
    have hwhen : name ≠ "when" := by
      rintro rfl
      obtain ⟨l, hl⟩ := isLegible_when hnone hlegible
      exact hlabel l (.inl ⟨rfl, hl⟩)
    rw [Block.divide, if_neg hwhen, if_neg helse] at h
    cases h
    refine .unknown hfind hname ?_ (by simp)
    simp [TagKind.Allows, hwhen, helse]
  | capture | repetition =>
    have hopen := becomes_undivided (by simp) hbecomes
    obtain ⟨⟨nodes, rfl⟩, hopen⟩ := hopen
    obtain ⟨_, -, hopen⟩ := bind_eq_ok_iff.mp hopen
    cases hopen
    cases h
    refine .unknown hfind hname ?_ (by simp)
    simp [TagKind.Allows]
  | comment => exact absurd rfl hcomment
  | assign | counter | inclusion | interrupt | rotation =>
    have hkind := (becomes_kind hbecomes).1
    cases b <;> cases hkind

namespace Unfinished.Refuses

variable {name : String}

/-- A tag that is refused is none that the kind of the block allows. -/
theorem not_allows {outer : Unfinished} {tag : String} {markup : Option (List Char)}
    {body : Sections Part} {e : SyntaxError}
    (h : (Unfinished.block outer tag markup body).Refuses tags name e) {kind : TagKind}
    (hfind : Bindings.find? tags tag = some kind) : ¬kind.Allows (body.dividers ++ [name]) := by
  cases h with
  | @afterElse _ _ _ _ inverted hfind' helse _ =>
    obtain rfl := Option.some.inj (hfind.symm.trans hfind')
    rw [allows_conditional_next]
    exact fun hallows => hallows.2.1 helse
  | unknown hfind' _ hallows _ =>
    obtain rfl := Option.some.inj (hfind.symm.trans hfind')
    exact hallows

/-- There is one error that tells of a refused tag. -/
theorem unique {u : Unfinished} {e e' : SyntaxError} (h : u.Refuses tags name e)
    (h' : u.Refuses tags name e') : e = e' := by
  cases h with
  | outside parts =>
    cases h'
    rfl
  | @afterElse _ _ _ _ inverted hfind helse hname =>
    cases h' with
    | afterElse => rfl
    | unknown hfind' _ _ hafter =>
      obtain rfl := Option.some.inj (hfind.symm.trans hfind')
      exact absurd ⟨inverted, rfl, helse, hname⟩ hafter
  | unknown hfind _ _ hafter =>
    cases h' with
    | unknown => rfl
    | @afterElse _ _ _ _ inverted hfind' helse hname =>
      obtain rfl := Option.some.inj (hfind.symm.trans hfind')
      exact absurd ⟨inverted, rfl, helse, hname⟩ hafter

end Unfinished.Refuses

end Stencil.Template
