import Stencil.Decimal.Text
import Stencil.Integer
import Stencil.Markup.Cursor
import Stencil.Markup.Expression

/-!
# Reading expressions

The grammar of markup:

* expression: nothing, a string, a number, a constant, or a lookup
* lookup: a name, then subscripts `[expression]` and steps `.name`
* condition: an expression or a comparison, linked by `and` and `or`, grouped to the right
* pipeline: an expression and filters `| name: arguments`

A lookup whose subscript is being read waits on a list; the list is the depth of the brackets. So
every call goes on with fewer lexemes, and the readers end without a bound on their depth.

* `readExpression_suffix` — a reader leaves a suffix of the lexemes it was given
-/

namespace Stencil.Markup

/-! ## Expressions -/

/-- The constant that a name stands for at the beginning of an expression. -/
def constant? (name : String) : Option Value :=
  [("nil", Value.nil), ("null", .nil), ("true", .bool true), ("false", .bool false)].lookup name

/-- The step that a name behind a point stands for. -/
def stepOf (name : String) : Expression :=
  match Selector.ofName? name with
  | some s => .selector s
  | none => .name name

mutual

/-- Reads an expression. The lookups that wait for it are given with their steps, innermost
first. -/
def beginExpression (waiting : List (List Expression)) (ts : List Lexeme) : Reading Expression :=
  match ts with
  | [] => endExpression waiting (.literal .nil) []
  | ⟨kind, text⟩ :: rest =>
    match kind with
    | .string => endExpression waiting (.literal (.string (String.ofList text))) rest
    | .integer =>
      match Integer.ofText? text with
      | some n => endExpression waiting (.literal (.int n)) rest
      | none => (.error (.invalid (.integerOutOfRange (String.ofList text))), rest)
    | .decimal =>
      match Decimal.ofText? text with
      | some d => endExpression waiting (.literal (.decimal d)) rest
      | none => (.error (.invalid (.decimalOutOfRange (String.ofList text))), rest)
    | .identifier =>
      match constant? (String.ofList text) with
      | some value => endExpression waiting (.literal value) rest
      | none => readSteps waiting [.name (String.ofList text)] rest
    | _ => (.error (unexpected "expression" ts), ts)
termination_by 3 * ts.length + 2

/-- Reads the steps of a lookup behind those already read. -/
def readSteps (waiting : List (List Expression)) (steps : List Expression) (ts : List Lexeme) :
    Reading Expression :=
  match ts with
  | ⟨.openSquare, _⟩ :: rest => beginExpression (steps :: waiting) rest
  | ⟨.dot, _⟩ :: ⟨.identifier, text⟩ :: rest =>
    readSteps waiting (steps ++ [stepOf (String.ofList text)]) rest
  | ⟨.dot, _⟩ :: rest => endExpression waiting (.lookup steps) rest
  | ts => endExpression waiting (.lookup steps) ts
termination_by 3 * ts.length + 1

/-- Hands an expression that has been read to the lookup that waits for it. -/
def endExpression (waiting : List (List Expression)) (e : Expression) (ts : List Lexeme) :
    Reading Expression :=
  match waiting with
  | [] => (.ok e, ts)
  | steps :: waiting =>
    match ts with
    | ⟨.closeSquare, _⟩ :: rest => readSteps waiting (steps ++ [.subscript e]) rest
    | ts => (.error (unexpected Kind.closeSquare.title ts), ts)
termination_by 3 * ts.length

end

/-- Reads an expression. -/
def readExpression (ts : List Lexeme) : Reading Expression :=
  beginExpression [] ts

mutual

theorem beginExpression_suffix (waiting : List (List Expression)) (ts : List Lexeme) :
    (beginExpression waiting ts).2 <:+ ts := by
  match ts with
  | [] =>
    rw [beginExpression]
    exact endExpression_suffix _ _ _
  | ⟨kind, text⟩ :: rest =>
    have hrest : rest <:+ ⟨kind, text⟩ :: rest := List.suffix_cons _ _
    rw [beginExpression.eq_def]
    dsimp only
    split
    · exact (endExpression_suffix _ _ _).trans hrest
    · split
      · exact (endExpression_suffix _ _ _).trans hrest
      · exact hrest
    · split
      · exact (endExpression_suffix _ _ _).trans hrest
      · exact hrest
    · split
      · exact (endExpression_suffix _ _ _).trans hrest
      · exact (readSteps_suffix _ _ _).trans hrest
    · exact List.suffix_refl _
termination_by (ts.length, 2)

theorem readSteps_suffix (waiting : List (List Expression)) (steps : List Expression)
    (ts : List Lexeme) : (readSteps waiting steps ts).2 <:+ ts := by
  rw [readSteps.eq_def]
  split
  · exact (beginExpression_suffix _ _).trans (List.suffix_cons _ _)
  · exact (readSteps_suffix _ _ _).trans
      ((List.suffix_cons _ _).trans (List.suffix_cons _ _))
  · exact (endExpression_suffix _ _ _).trans (List.suffix_cons _ _)
  · exact endExpression_suffix _ _ _
termination_by (ts.length, 1)

theorem endExpression_suffix (waiting : List (List Expression)) (e : Expression)
    (ts : List Lexeme) : (endExpression waiting e ts).2 <:+ ts := by
  rw [endExpression.eq_def]
  split
  · exact List.suffix_refl _
  · split
    · exact (readSteps_suffix _ _ _).trans (List.suffix_cons _ _)
    · exact List.suffix_refl _
termination_by (ts.length, 0)

end

/-- An expression is read from the front of the lexemes. -/
theorem readExpression_suffix (ts : List Lexeme) : (readExpression ts).2 <:+ ts :=
  beginExpression_suffix [] ts

/-! ## Conditions -/

/-- Reads an expression or a comparison of two. -/
def readComparison (ts : List Lexeme) : Reading Comparison :=
  match readExpression ts with
  | (.error e, rest) => (.error e, rest)
  | (.ok left, ⟨.comparison, symbol⟩ :: rest) =>
    match Operator.ofSymbol? (String.ofList symbol) with
    | none => (.error (.unknownOperator (String.ofList symbol)), rest)
    | some operator =>
      match readExpression rest with
      | (.error e, rest) => (.error e, rest)
      | (.ok right, rest) => (.ok ⟨left, some (operator, right)⟩, rest)
  | (.ok left, rest) => (.ok ⟨left, none⟩, rest)

theorem readComparison_suffix (ts : List Lexeme) : (readComparison ts).2 <:+ ts := by
  have h := readExpression_suffix ts
  unfold readComparison
  split
  · rename_i heq
    rw [heq] at h
    exact h
  · rename_i left symbol rest heq
    rw [heq] at h
    have hrest : rest <:+ ts := (List.suffix_cons _ _).trans h
    have h' := readExpression_suffix rest
    split
    · exact hrest
    · split
      · rename_i heq'
        rw [heq'] at h'
        exact h'.trans hrest
      · rename_i heq'
        rw [heq'] at h'
        exact h'.trans hrest
  · rename_i heq
    rw [heq] at h
    exact h

/-- The connective at the front of the lexemes, and what follows it. -/
def takeConnective? : List Lexeme → Option (Connective × List Lexeme)
  | ⟨.identifier, word⟩ :: rest =>
    if word = "and".toList then some (.and, rest)
    else if word = "or".toList then some (.or, rest)
    else none
  | _ => none

theorem takeConnective?_length_lt {ts rest : List Lexeme} {c : Connective}
    (h : takeConnective? ts = some (c, rest)) : rest.length < ts.length := by
  unfold takeConnective? at h
  split at h
  · split at h
    · simp_all
    · split at h <;> simp_all
  · simp at h

/-- Reads conditions as long as they are linked. -/
def readCondition (ts : List Lexeme) : Reading Condition :=
  match _h : readComparison ts with
  | (.error e, rest) => (.error e, rest)
  | (.ok test, rest) =>
    match _hc : takeConnective? rest with
    | none => (.ok (.simple test), rest)
    | some (connective, rest) =>
      match readCondition rest with
      | (.error e, rest) => (.error e, rest)
      | (.ok next, rest) => (.ok (.linked test connective next), rest)
termination_by ts.length
decreasing_by
  have h₁ := (readComparison_suffix ts).length_le
  have h₂ := takeConnective?_length_lt _hc
  rw [_h] at h₁
  simp only at h₁
  omega

/-! ## Pipelines -/

/-- An argument of a filter, with its name if it has one. -/
abbrev Argument := Option String × Expression

/-- A filter call with one more argument. -/
def FilterCall.add (call : FilterCall) : Argument → FilterCall
  | (some name, e) => { call with named := call.named ++ [(name, e)] }
  | (none, e) => { call with arguments := call.arguments ++ [e] }

/-- Reads an argument of a filter. -/
def readArgument (ts : List Lexeme) : Reading Argument :=
  match ts with
  | ⟨.identifier, name⟩ :: ⟨.colon, _⟩ :: rest =>
    let (e, rest) := readExpression rest
    (e.map (some (String.ofList name), ·), rest)
  | ts =>
    let (e, rest) := readExpression ts
    (e.map (none, ·), rest)

theorem readArgument_suffix (ts : List Lexeme) : (readArgument ts).2 <:+ ts := by
  unfold readArgument
  split
  · exact (readExpression_suffix _).trans ((List.suffix_cons _ _).trans (List.suffix_cons _ _))
  · exact readExpression_suffix _

/-- Reads the arguments of a filter, which have commas between them. -/
def readArguments (call : FilterCall) (ts : List Lexeme) : Reading FilterCall :=
  match _h : readArgument ts with
  | (.error e, rest) => (.error e, rest)
  | (.ok a, ⟨.comma, _⟩ :: rest) => readArguments (call.add a) rest
  | (.ok a, rest) => (.ok (call.add a), rest)
termination_by ts.length
decreasing_by
  have h := (readArgument_suffix ts).length_le
  rw [_h] at h
  simp only [List.length_cons] at h
  omega

theorem readArguments_suffix (call : FilterCall) (ts : List Lexeme) :
    (readArguments call ts).2 <:+ ts := by
  fun_induction readArguments call ts with
  | case1 call ts e rest heq =>
    have h := readArgument_suffix ts
    rw [heq] at h
    exact h
  | case2 call ts a comma rest heq ih =>
    have h := readArgument_suffix ts
    rw [heq] at h
    exact ih.trans ((List.suffix_cons _ _).trans h)
  | case3 call ts a rest _ heq =>
    have h := readArgument_suffix ts
    rw [heq] at h
    exact h

/-- Reads a filter behind its `|`. -/
def readFilter (ts : List Lexeme) : Reading FilterCall :=
  match ts with
  | ⟨.identifier, name⟩ :: ⟨.colon, _⟩ :: rest => readArguments ⟨String.ofList name, [], []⟩ rest
  | ⟨.identifier, name⟩ :: rest => (.ok ⟨String.ofList name, [], []⟩, rest)
  | ts => (.error (unexpected Kind.identifier.title ts), ts)

theorem readFilter_suffix (ts : List Lexeme) : (readFilter ts).2 <:+ ts := by
  unfold readFilter
  split
  · exact (readArguments_suffix _ _).trans
      ((List.suffix_cons _ _).trans (List.suffix_cons _ _))
  · exact List.suffix_cons _ _
  · exact List.suffix_refl _

/-- Reads filters as long as a `|` comes. -/
def readFilters (calls : List FilterCall) (ts : List Lexeme) : Reading (List FilterCall) :=
  match ts with
  | ⟨.pipe, _⟩ :: rest =>
    match _h : readFilter rest with
    | (.error e, rest) => (.error e, rest)
    | (.ok call, rest) => readFilters (calls ++ [call]) rest
  | ts => (.ok calls, ts)
termination_by ts.length
decreasing_by
  rename_i behind
  have h := (readFilter_suffix behind).length_le
  rw [_h] at h
  simp only [List.length_cons]
  simp only at h
  omega

/-- Reads an expression and its filters. -/
def readPipeline (ts : List Lexeme) : Reading Pipeline :=
  match readExpression ts with
  | (.error e, rest) => (.error e, rest)
  | (.ok source, rest) =>
    let (filters, rest) := readFilters [] rest
    (filters.map (⟨source, ·⟩), rest)

/-! ## Readers -/

namespace Reader

/-- Reads an expression. -/
def expression : Reader Expression := Reader.of readExpression

/-- Reads a condition. -/
def condition : Reader Condition := Reader.of readCondition

/-- Reads a pipeline. -/
def pipeline : Reader Pipeline := Reader.of readPipeline

end Reader

/-- The pipeline that the markup of an output denotes. -/
def Pipeline.ofMarkup (markup : List Char) : Except SyntaxError Pipeline :=
  Reader.pipeline.whole markup

/-- The condition that the markup of a branch denotes. -/
def Condition.ofMarkup (markup : List Char) : Except SyntaxError Condition :=
  Reader.condition.whole markup

end Stencil.Markup
