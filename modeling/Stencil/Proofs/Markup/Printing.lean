import Stencil.Markup.Reader
import Stencil.Proofs.Markup.Lexing
import Stencil.Proofs.Text.Numerals

/-!
# Markup of expressions and pipelines

The text of an expression is split into the lexemes that the expression is made of, as long as it
has a text of its own.

* `Expression.isRepresentable`, `Pipeline.isRepresentable` — what has a text of its own
* `Pipeline.text` — the text of an expression and its filters
* `lexes_expression`, `lexes_pipeline` — the texts and their lexemes
-/

namespace Stencil.Markup

/-! ## What has a text of its own -/

/-- Whether a text can stand between quotes, and a decimal is not written like an integer. Only
nil, booleans, strings and numbers are written in markup. -/
def isRepresentableLiteral : Value → Bool
  | .nil | .bool _ | .int _ => true
  | .string s => !s.toList.contains '\x27'
  | .decimal d => !d.isIntegral
  | _ => false

mutual

/-- Whether an expression has a text of its own: a literal, or a lookup that starts with a name
that is not a constant. -/
def Expression.isRepresentable : Expression → Bool
  | .literal value => isRepresentableLiteral value
  | .lookup (.name first :: steps) =>
    isIdentifier first.toList && (constant? first).isNone && areRepresentable steps
  | _ => false

/-- Whether the steps behind the first one have texts of their own. -/
def areRepresentable : List Expression → Bool
  | [] => true
  | .name identifier :: steps =>
    isIdentifier identifier.toList && (Selector.ofName? identifier).isNone &&
      areRepresentable steps
  | .selector _ :: steps => areRepresentable steps
  | .subscript key :: steps => key.isRepresentable && areRepresentable steps
  | _ :: _ => false

end

/-- Whether an argument of a filter has a text of its own. -/
def isRepresentableArgument : Argument → Bool
  | (none, e) => e.isRepresentable
  | (some name, e) => isIdentifier name.toList && e.isRepresentable

/-- The arguments of a filter as they are written: those without names come first. -/
def FilterCall.written (call : FilterCall) : List Argument :=
  call.arguments.map (none, ·) ++ call.named.map fun (name, e) => (some name, e)

/-- Whether the use of a filter has a text of its own. -/
def FilterCall.isRepresentable (call : FilterCall) : Bool :=
  isIdentifier call.name.toList && call.written.all isRepresentableArgument

/-- Whether a pipeline has a text of its own. -/
def Pipeline.isRepresentable (p : Pipeline) : Bool :=
  p.source.isRepresentable && p.filters.all (·.isRepresentable)

/-! ## Texts -/

/-- The markup of an argument. -/
def argumentText : Argument → String
  | (none, e) => e.text
  | (some name, e) => name ++ ": " ++ e.text

/-- The markup of the use of a filter. -/
def FilterCall.text (call : FilterCall) : String :=
  match call.written with
  | [] => call.name
  | arguments => call.name ++ ": " ++ Value.separated (arguments.map argumentText)

/-- The markup of filters, behind what they are applied to. -/
def filtersText : List FilterCall → String
  | [] => ""
  | call :: calls => " | " ++ call.text ++ filtersText calls

/-- The markup of a pipeline. -/
def Pipeline.text (p : Pipeline) : String :=
  p.source.text ++ filtersText p.filters

/-! ## Lexemes -/

/-- The lexeme of a sign. -/
def sign (kind : Kind) (c : Char) : Lexeme := ⟨kind, [c]⟩

/-- The lexeme of a name. -/
def word (name : String) : Lexeme := ⟨.identifier, name.toList⟩

/-- The lexeme of a literal. -/
def literalLexeme : Value → Lexeme
  | .string s => ⟨.string, s.toList⟩
  | .int n => ⟨.integer, Integer.toText n⟩
  | .decimal d => ⟨.decimal, d.toText⟩
  | value => word (literalText value)

mutual

/-- The lexemes of an expression. -/
def Expression.lexemes : Expression → List Lexeme
  | .lookup [] => []
  | .lookup (step :: steps) => step.lexemes ++ stepsLexemes steps
  | .name identifier => [word identifier]
  | .selector s => [word s.name]
  | .literal value => [literalLexeme value]
  | .subscript key => sign .openSquare '[' :: (key.lexemes ++ [sign .closeSquare ']'])

/-- The lexemes of the steps behind the first one. -/
def stepsLexemes : List Expression → List Lexeme
  | [] => []
  | step :: steps =>
    (if step.isSubscript then [] else [sign .dot '.']) ++ step.lexemes ++ stepsLexemes steps

end

/-- The lexemes of an argument. -/
def argumentLexemes : Argument → List Lexeme
  | (none, e) => e.lexemes
  | (some name, e) => word name :: sign .colon ':' :: e.lexemes

/-- The lexemes of arguments, with commas between them. -/
def argumentsLexemes : List Argument → List Lexeme
  | [] => []
  | [a] => argumentLexemes a
  | a :: arguments => argumentLexemes a ++ sign .comma ',' :: argumentsLexemes arguments

/-- The lexemes of the use of a filter. -/
def FilterCall.lexemes (call : FilterCall) : List Lexeme :=
  match call.written with
  | [] => [word call.name]
  | arguments => word call.name :: sign .colon ':' :: argumentsLexemes arguments

/-- The lexemes of filters. -/
def filtersLexemes : List FilterCall → List Lexeme
  | [] => []
  | call :: calls => sign .pipe '|' :: (call.lexemes ++ filtersLexemes calls)

/-- The lexemes of a pipeline. -/
def Pipeline.lexemes (p : Pipeline) : List Lexeme :=
  p.source.lexemes ++ filtersLexemes p.filters

/-! ## Splitting literals -/

theorem lexes_toText (n : Int64) :
    Lexes EndsWord (Integer.toText n) [⟨.integer, Integer.toText n⟩] := by
  have hsign : Integer.toText n =
      signOf (n.toInt < 0) ++ Nat.toDigits 10 n.toInt.natAbs := by
    simp [Integer.toText, signOf]
  rw [hsign]
  exact lexes_integer _ Nat.toDigits_ne_nil (Text.isDigit_toDigits _)

theorem lexes_decimalText {d : Decimal} (h : d.isIntegral = false) :
    Lexes EndsWord d.toText [⟨.decimal, d.toText⟩] := by
  have hscale := Decimal.normalize_scale_pos h
  obtain ⟨whole, behind, hsplits, hwrite⟩ :=
    Decimal.write_eq d.normalize.negative d.normalize.coefficient d.normalize.scale
  have htext : d.toText = signOf d.normalize.negative ++ (whole ++ '.' :: behind) := by
    rw [if_neg (Nat.ne_of_gt hscale)] at hwrite
    exact hwrite
  have hbehind : behind ≠ [] := by
    rintro rfl
    exact absurd hsplits.length_behind (Nat.ne_of_lt hscale)
  rw [htext]
  exact lexes_decimal _ hsplits.whole_ne_nil hsplits.isDigit_whole hbehind hsplits.isDigit_behind

theorem lexes_word (name : String) (h : isIdentifier name.toList) :
    Lexes EndsName name.toList [word name] :=
  lexes_identifier h

theorem lexes_literal {value : Value} (h : isRepresentableLiteral value) :
    Lexes EndsWord (literalText value).toList [literalLexeme value] := by
  cases value with
  | nil => exact (lexes_word "nil" rfl).weaken fun _ => EndsWord.endsName
  | bool b =>
    cases b with
    | true => exact (lexes_word "true" rfl).weaken fun _ => EndsWord.endsName
    | false => exact (lexes_word "false" rfl).weaken fun _ => EndsWord.endsName
  | string s =>
    have hquote : '\x27' ∉ s.toList := by simpa [isRepresentableLiteral] using h
    have htext : (literalText (.string s)).toList = '\x27' :: (s.toList ++ ['\x27']) := by
      simp [literalText]
    rw [htext]
    exact (lexes_string hquote).weaken fun _ _ => trivial
  | int n =>
    have htext : (literalText (.int n)).toList = Integer.toText n := String.toList_ofList
    rw [htext]
    exact lexes_toText n
  | decimal d =>
    have hintegral : d.isIntegral = false := by simpa [isRepresentableLiteral] using h
    have htext : (literalText (.decimal d)).toList = d.toText := String.toList_ofList
    rw [htext]
    exact lexes_decimalText hintegral
  | array | dictionary | drop => cases h

/-! ## Splitting expressions -/

theorem isIdentifier_selector (s : Selector) : isIdentifier s.name.toList := by
  cases s with
  | size | first | last => rfl

theorem stepsText_toList (step : Expression) (steps : List Expression) :
    (stepsText (step :: steps)).toList =
      (if step.isSubscript then [] else ['.']) ++ step.text.toList ++ (stepsText steps).toList := by
  rw [stepsText, String.toList_append, String.toList_append]
  split <;> rfl

theorem subscript_toList (key : Expression) :
    (Expression.subscript key).text.toList = '[' :: (key.text.toList ++ [']']) := by
  simp [Expression.text]

/-- A name ends before the steps behind it. -/
theorem endsName_stepsText (steps : List Expression) {rest : List Char} (h : EndsWord rest) :
    EndsName ((stepsText steps).toList ++ rest) := by
  cases steps with
  | nil => exact h.endsName
  | cons step steps =>
    rw [stepsText_toList]
    cases step with
    | subscript key =>
      rw [subscript_toList]
      rintro c ⟨⟩
      exact ⟨rfl, by decide⟩
    | lookup | name | selector | literal =>
      rintro c ⟨⟩
      exact ⟨rfl, by decide⟩

/-- A name behind a point is split off, and then the steps behind it. -/
theorem lexes_namedStep {name : String} {steps : List Expression} (h : isIdentifier name.toList)
    (hsteps : Lexes EndsWord (stepsText steps).toList (stepsLexemes steps)) :
    Lexes EndsWord (['.'] ++ name.toList ++ (stepsText steps).toList)
      ([sign .dot '.'] ++ [word name] ++ stepsLexemes steps) := by
  refine Lexes.append ?_ hsteps fun rest => endsName_stepsText steps
  refine Lexes.append lexes_dot (lexes_word name h) fun rest _ => ?_
  -- No second point follows, for the name starts with a letter.
  obtain ⟨c, cs, hname, hstart⟩ := exists_cons_of_isIdentifier h
  rw [hname, List.cons_append, List.head?_cons, Ne, Option.some.injEq]
  rintro rfl
  cases hstart

theorem endsWord_closeSquare (rest : List Char) : EndsWord (']' :: rest) :=
  endsWord_cons rfl (by decide) (by decide) rest

/-- A subscript is split into what stands between its brackets, and then the steps behind it. -/
theorem lexes_subscript {key : Expression} {steps : List Expression}
    (hkey : Lexes EndsWord key.text.toList key.lexemes)
    (hsteps : Lexes EndsWord (stepsText steps).toList (stepsLexemes steps)) :
    Lexes EndsWord ((Expression.subscript key).text.toList ++ (stepsText steps).toList)
      ((Expression.subscript key).lexemes ++ stepsLexemes steps) := by
  have hopen : Lexes Anything ['['] [sign .openSquare '['] := lexes_sign (by decide)
  have hclose : Lexes Anything [']'] [sign .closeSquare ']'] := lexes_sign (by decide)
  have hinside := hkey.append hclose fun rest _ => endsWord_closeSquare rest
  rw [subscript_toList, Expression.lexemes]
  exact (hopen.append hinside fun _ _ => trivial).append hsteps fun _ _ => trivial

mutual

/-- The text of an expression is split into its lexemes. -/
theorem lexes_expression (e : Expression) (h : e.isRepresentable) :
    Lexes EndsWord e.text.toList e.lexemes := by
  match e, h with
  | .literal value, h =>
    rw [Expression.isRepresentable] at h
    rw [Expression.text, Expression.lexemes]
    exact lexes_literal h
  | .lookup (.name first :: steps), h =>
    simp only [Expression.isRepresentable, Bool.and_eq_true] at h
    rw [Expression.text, Expression.text, String.toList_append, Expression.lexemes,
      Expression.lexemes]
    exact (lexes_word first h.1.1).append (lexes_steps steps h.2) fun _ => endsName_stepsText steps

/-- The text of the steps behind the first one is split into their lexemes. -/
theorem lexes_steps (steps : List Expression) (h : areRepresentable steps) :
    Lexes EndsWord (stepsText steps).toList (stepsLexemes steps) := by
  match steps, h with
  | [], _ => exact Lexes.nil
  | .name identifier :: steps, h =>
    simp only [areRepresentable, Bool.and_eq_true] at h
    rw [stepsText_toList, Expression.text, stepsLexemes, Expression.lexemes]
    exact lexes_namedStep h.1.1 (lexes_steps steps h.2)
  | .selector s :: steps, h =>
    rw [areRepresentable] at h
    rw [stepsText_toList, Expression.text, stepsLexemes, Expression.lexemes]
    exact lexes_namedStep (isIdentifier_selector s) (lexes_steps steps h)
  | .subscript key :: steps, h =>
    simp only [areRepresentable, Bool.and_eq_true] at h
    rw [stepsText_toList, stepsLexemes]
    exact lexes_subscript (lexes_expression key h.1) (lexes_steps steps h.2)

end

/-! ## Splitting pipelines -/

theorem endsWord_comma (rest : List Char) : EndsWord (',' :: rest) :=
  endsWord_cons rfl (by decide) (by decide) rest

theorem endsWord_space (rest : List Char) : EndsWord (' ' :: rest) :=
  endsWord_cons rfl (by decide) (by decide) rest

/-- A sign with a space behind it. -/
theorem lexes_signSpace {c : Char} {kind : Kind}
    (h : (c, kind) ∈ [('|', Kind.pipe), (':', .colon), (',', .comma)]) :
    Lexes Anything [c, ' '] [sign kind c] :=
  (lexes_sign (List.mem_of_mem_take (i := 3) h)).append lexes_space fun _ _ => trivial

/-- A name that a colon ends. -/
theorem lexes_label {name : String} (h : isIdentifier name.toList) :
    Lexes Anything (name ++ ": ").toList [word name, sign .colon ':'] := by
  rw [String.toList_append]
  refine (lexes_word name h).append (lexes_signSpace (by decide)) fun rest _ => ?_
  rintro c ⟨⟩
  exact ⟨rfl, by decide⟩

theorem lexes_argument {a : Argument} (h : isRepresentableArgument a) :
    Lexes EndsWord (argumentText a).toList (argumentLexemes a) := by
  obtain ⟨_ | name, e⟩ := a
  · exact lexes_expression e h
  · simp only [isRepresentableArgument, Bool.and_eq_true] at h
    rw [argumentText, String.toList_append]
    exact (lexes_label h.1).append (lexes_expression e h.2) fun _ _ => trivial

theorem separated_toList (s t : String) (texts : List String) :
    (Value.separated (s :: t :: texts)).toList =
      s.toList ++ ([',', ' '] ++ (Value.separated (t :: texts)).toList) := by
  rw [Value.separated, String.toList_append, String.toList_append, List.append_assoc]
  · rfl
  · simp

theorem lexes_arguments {arguments : List Argument}
    (h : ∀ a ∈ arguments, isRepresentableArgument a) :
    Lexes EndsWord (Value.separated (arguments.map argumentText)).toList
      (argumentsLexemes arguments) := by
  induction arguments with
  | nil => exact Lexes.nil
  | cons a arguments ih =>
    have ha := lexes_argument (h a List.mem_cons_self)
    cases arguments with
    | nil => exact ha
    | cons b arguments =>
      have hb := ih fun c hc => h c (List.mem_cons_of_mem a hc)
      have hcomma : Lexes Anything [',', ' '] [sign .comma ','] := lexes_signSpace (by decide)
      have hbehind := hcomma.append hb fun _ _ => trivial
      rw [List.map_cons, List.map_cons, separated_toList]
      exact ha.append hbehind fun rest _ => endsWord_comma _

theorem lexes_filterCall {call : FilterCall} (h : call.isRepresentable) :
    Lexes EndsWord call.text.toList call.lexemes := by
  simp only [FilterCall.isRepresentable, Bool.and_eq_true, List.all_eq_true] at h
  obtain ⟨hname, harguments⟩ := h
  rw [FilterCall.text, FilterCall.lexemes]
  cases hwritten : call.written with
  | nil => exact (lexes_word _ hname).weaken fun _ => EndsWord.endsName
  | cons a arguments =>
    rw [hwritten] at harguments
    rw [String.toList_append]
    exact (lexes_label hname).append (lexes_arguments harguments) fun _ _ => trivial

theorem endsWord_filtersText (calls : List FilterCall) {rest : List Char} (h : EndsWord rest) :
    EndsWord ((filtersText calls).toList ++ rest) := by
  cases calls with
  | nil => exact h
  | cons call calls =>
    rw [filtersText, String.toList_append, String.toList_append]
    exact endsWord_space _

theorem lexes_filters {calls : List FilterCall} (h : ∀ call ∈ calls, call.isRepresentable) :
    Lexes EndsWord (filtersText calls).toList (filtersLexemes calls) := by
  induction calls with
  | nil => exact Lexes.nil
  | cons call calls ih =>
    have hpipe : Lexes Anything ['|', ' '] [sign .pipe '|'] := lexes_signSpace (by decide)
    have hbar : Lexes Anything " | ".toList [sign .pipe '|'] :=
      lexes_space.append hpipe fun _ _ => trivial
    have hcall := lexes_filterCall (h call List.mem_cons_self)
    have hcalls := ih fun other hother => h other (List.mem_cons_of_mem call hother)
    rw [filtersText, String.toList_append, String.toList_append, List.append_assoc]
    refine hbar.append ?_ fun _ _ => trivial
    exact hcall.append hcalls fun rest => endsWord_filtersText calls

/-- The text of a pipeline is split into its lexemes. -/
theorem lexes_pipeline {p : Pipeline} (h : p.isRepresentable) :
    Lexes EndsWord p.text.toList p.lexemes := by
  simp only [Pipeline.isRepresentable, Bool.and_eq_true, List.all_eq_true] at h
  rw [Pipeline.text, String.toList_append]
  exact (lexes_expression _ h.1).append (lexes_filters h.2) fun rest =>
    endsWord_filtersText p.filters

end Stencil.Markup
