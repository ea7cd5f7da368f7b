import Stencil.Proofs.Markup.Printing
import Stencil.Proofs.Sequencing

/-!
# Reading back what is written

A pipeline that has a text of its own is what its text denotes. Only decimals may come back with
fewer zeros at the end; their values stay the same.

* `beginExpression_lexemes` — the lexemes of an expression are read as the expression
* `Pipeline.ofMarkup_text` — the text of a pipeline denotes it
-/

namespace Stencil.Markup

/-! ## Decimals of a tree -/

/-- A literal with a function applied to its decimal. -/
def mapLiteral (f : Decimal → Decimal) : Value → Value
  | .decimal d => .decimal (f d)
  | value => value

mutual

/-- An expression with a function applied to its decimals. -/
def Expression.mapDecimals (f : Decimal → Decimal) : Expression → Expression
  | .lookup steps => .lookup (mapDecimalsOf f steps)
  | .name identifier => .name identifier
  | .selector s => .selector s
  | .literal value => .literal (mapLiteral f value)
  | .subscript key => .subscript (key.mapDecimals f)

/-- Expressions with a function applied to their decimals. -/
def mapDecimalsOf (f : Decimal → Decimal) : List Expression → List Expression
  | [] => []
  | e :: es => e.mapDecimals f :: mapDecimalsOf f es

end

/-- An argument with a function applied to its decimals. -/
def mapArgument (f : Decimal → Decimal) (a : Argument) : Argument :=
  (a.1, a.2.mapDecimals f)

/-- A filter call with a function applied to the decimals of its arguments. -/
def FilterCall.mapDecimals (f : Decimal → Decimal) (call : FilterCall) : FilterCall where
  name := call.name
  arguments := call.arguments.map (·.mapDecimals f)
  named := call.named.map fun (name, e) => (name, e.mapDecimals f)

/-- A pipeline with a function applied to its decimals. -/
def Pipeline.mapDecimals (f : Decimal → Decimal) (p : Pipeline) : Pipeline where
  source := p.source.mapDecimals f
  filters := p.filters.map (·.mapDecimals f)

/-! ## Reading expressions -/

/-- Lexemes that neither go on with a lookup nor make a name of what stands before them. -/
def Follows (ts : List Lexeme) : Prop :=
  ∀ t ∈ ts.head?, t.kind ≠ .dot ∧ t.kind ≠ .openSquare ∧ t.kind ≠ .colon

theorem follows_sign (kind : Kind) (c : Char) (h : kind ∈ [Kind.closeSquare, .comma, .pipe])
    (ts : List Lexeme) : Follows (sign kind c :: ts) := by
  have hall : ∀ k ∈ [Kind.closeSquare, .comma, .pipe],
      k ≠ .dot ∧ k ≠ .openSquare ∧ k ≠ .colon := by
    decide
  rintro t ⟨⟩
  exact hall kind h

theorem beginExpression_word (waiting : List (List Expression)) {name : String} {value : Value}
    (h : constant? name = some value) (rest : List Lexeme) :
    beginExpression waiting (word name :: rest) = endExpression waiting (.literal value) rest := by
  rw [word, beginExpression, String.ofList_toList, h]

theorem beginExpression_literal (waiting : List (List Expression)) {value : Value}
    (h : isRepresentableLiteral value) (rest : List Lexeme) :
    beginExpression waiting (literalLexeme value :: rest) =
      endExpression waiting (.literal (mapLiteral Decimal.normalize value)) rest := by
  cases value with
  | nil => exact beginExpression_word waiting rfl rest
  | bool b =>
    cases b with
    | true | false => exact beginExpression_word waiting rfl rest
  | string s =>
    rw [literalLexeme, beginExpression, String.ofList_toList]
    rfl
  | int n =>
    rw [literalLexeme, beginExpression, Integer.ofText?_toText]
    rfl
  | decimal d =>
    rw [literalLexeme, beginExpression, Decimal.ofText?_toText]
    rfl
  | array | dictionary | drop => cases h

theorem stepOf_name {name : String} (h : (Selector.ofName? name).isNone) :
    stepOf (String.ofList name.toList) = .name name := by
  rw [String.ofList_toList, stepOf, Option.isNone_iff_eq_none.mp h]

theorem stepOf_selector (s : Selector) : stepOf (String.ofList s.name.toList) = .selector s := by
  cases s with
  | size | first | last => rfl

theorem readSteps_dot (waiting : List (List Expression)) (taken : List Expression) {name : String}
    {step : Expression} (h : stepOf (String.ofList name.toList) = step) (rest : List Lexeme) :
    readSteps waiting taken (sign .dot '.' :: word name :: rest) =
      readSteps waiting (taken ++ [step]) rest := by
  rw [sign, word, readSteps, h]

theorem readSteps_follows (waiting : List (List Expression)) (taken : List Expression)
    {rest : List Lexeme} (h : Follows rest) :
    readSteps waiting taken rest = endExpression waiting (.lookup taken) rest := by
  rw [readSteps.eq_def]
  split
  · exact absurd rfl (h _ rfl).2.1
  · exact absurd rfl (h _ rfl).1
  · exact absurd rfl (h _ rfl).1
  · rfl

theorem readSteps_subscript (waiting : List (List Expression)) (taken : List Expression)
    (rest : List Lexeme) :
    readSteps waiting taken (sign .openSquare '[' :: rest) =
      beginExpression (taken :: waiting) rest := by
  rw [sign, readSteps]

theorem endExpression_subscript (waiting : List (List Expression)) (taken : List Expression)
    (e : Expression) (rest : List Lexeme) :
    endExpression (taken :: waiting) e (sign .closeSquare ']' :: rest) =
      readSteps waiting (taken ++ [.subscript e]) rest := by
  rw [sign, endExpression]

mutual

/-- The lexemes of an expression are read as the expression, whatever waits for it. -/
theorem beginExpression_lexemes (e : Expression) (h : e.isRepresentable)
    (waiting : List (List Expression)) {rest : List Lexeme} (hrest : Follows rest) :
    beginExpression waiting (e.lexemes ++ rest) =
      endExpression waiting (e.mapDecimals Decimal.normalize) rest := by
  match e, h with
  | .literal value, h =>
    rw [Expression.isRepresentable] at h
    rw [Expression.lexemes, Expression.mapDecimals]
    exact beginExpression_literal waiting h rest
  | .lookup (.name first :: steps), h =>
    simp only [Expression.isRepresentable, Bool.and_eq_true, Option.isNone_iff_eq_none] at h
    obtain ⟨⟨-, hconstant⟩, hsteps⟩ := h
    rw [Expression.lexemes, Expression.lexemes, Expression.mapDecimals, mapDecimalsOf,
      Expression.mapDecimals, List.append_assoc, List.singleton_append, word, beginExpression,
      String.ofList_toList, hconstant]
    exact readSteps_lexemes steps hsteps waiting [.name first] hrest

/-- The lexemes of steps are read as the steps, behind those already read. -/
theorem readSteps_lexemes (steps : List Expression) (h : areRepresentable steps)
    (waiting : List (List Expression)) (taken : List Expression) {rest : List Lexeme}
    (hrest : Follows rest) :
    readSteps waiting taken (stepsLexemes steps ++ rest) =
      endExpression waiting (.lookup (taken ++ mapDecimalsOf Decimal.normalize steps)) rest := by
  match steps, h with
  | [], _ =>
    rw [stepsLexemes, List.nil_append, mapDecimalsOf, List.append_nil]
    exact readSteps_follows waiting taken hrest
  | .name identifier :: steps, h =>
    simp only [areRepresentable, Bool.and_eq_true] at h
    obtain ⟨⟨-, hselector⟩, hsteps⟩ := h
    have hread := readSteps_lexemes steps hsteps waiting (taken ++ [.name identifier]) hrest
    rw [List.append_assoc, List.singleton_append] at hread
    rw [stepsLexemes, Expression.lexemes, mapDecimalsOf, Expression.mapDecimals, ← hread]
    exact readSteps_dot waiting taken (stepOf_name hselector) _
  | .selector s :: steps, h =>
    rw [areRepresentable] at h
    have hread := readSteps_lexemes steps h waiting (taken ++ [.selector s]) hrest
    rw [List.append_assoc, List.singleton_append] at hread
    rw [stepsLexemes, Expression.lexemes, mapDecimalsOf, Expression.mapDecimals, ← hread]
    exact readSteps_dot waiting taken (stepOf_selector s) _
  | .subscript key :: steps, h =>
    simp only [areRepresentable, Bool.and_eq_true] at h
    obtain ⟨hkey, hsteps⟩ := h
    have hread := readSteps_lexemes steps hsteps waiting
      (taken ++ [.subscript (key.mapDecimals Decimal.normalize)]) hrest
    rw [List.append_assoc, List.singleton_append] at hread
    -- While the key is read, the lookup waits with the steps taken so far.
    have hclose := follows_sign .closeSquare ']' (by decide) (stepsLexemes steps ++ rest)
    have hinside := beginExpression_lexemes key hkey (taken :: waiting) hclose
    have hlexemes : stepsLexemes (.subscript key :: steps) ++ rest =
        sign .openSquare '[' ::
          (key.lexemes ++ sign .closeSquare ']' :: (stepsLexemes steps ++ rest)) := by
      simp [stepsLexemes, Expression.lexemes, Expression.isSubscript]
    rw [hlexemes, mapDecimalsOf, Expression.mapDecimals, ← hread, readSteps_subscript, hinside,
      endExpression_subscript]

end

/-! ## Reading pipelines -/

/-- The lexemes of an expression are read as the expression. -/
theorem readExpression_lexemes {e : Expression} (h : e.isRepresentable) {rest : List Lexeme}
    (hrest : Follows rest) :
    readExpression (e.lexemes ++ rest) = (.ok (e.mapDecimals Decimal.normalize), rest) := by
  rw [readExpression, beginExpression_lexemes e h [] hrest, endExpression]

theorem not_colon_stepsLexemes (steps : List Expression) {rest : List Lexeme}
    (hrest : Follows rest) : ∀ t ∈ (stepsLexemes steps ++ rest).head?, t.kind ≠ .colon := by
  cases steps with
  | nil => exact fun t ht => (hrest t ht).2.2
  | cons step steps =>
    cases step with
    | subscript | lookup | name | selector | literal =>
      rw [stepsLexemes, Expression.lexemes.eq_def]
      rintro t ⟨⟩
      decide

/-- An expression does not begin with a name that a colon ends. -/
theorem lexemes_ne_label {e : Expression} (h : e.isRepresentable) {rest : List Lexeme}
    (hrest : Follows rest) (name colon : List Char) (behind : List Lexeme) :
    e.lexemes ++ rest ≠ ⟨.identifier, name⟩ :: ⟨.colon, colon⟩ :: behind := by
  match e, h with
  | .literal value, _ =>
    rw [Expression.lexemes, List.singleton_append]
    intro heq
    rw [(List.cons_eq_cons.mp heq).2] at hrest
    exact (hrest _ rfl).2.2 rfl
  | .lookup (.name first :: steps), _ =>
    rw [Expression.lexemes, Expression.lexemes, List.append_assoc, List.singleton_append]
    intro heq
    have hbehind := not_colon_stepsLexemes steps hrest
    rw [(List.cons_eq_cons.mp heq).2] at hbehind
    exact hbehind _ rfl rfl

/-- The lexemes of an argument are read as the argument. -/
theorem readArgument_lexemes {a : Argument} (h : isRepresentableArgument a) {rest : List Lexeme}
    (hrest : Follows rest) :
    readArgument (argumentLexemes a ++ rest) = (.ok (mapArgument Decimal.normalize a), rest) := by
  obtain ⟨_ | name, e⟩ := a
  · rw [argumentLexemes, readArgument]
    · rw [readExpression_lexemes h hrest]
      rfl
    · exact lexemes_ne_label h hrest
  · simp only [isRepresentableArgument, Bool.and_eq_true] at h
    rw [argumentLexemes, List.cons_append, List.cons_append, word, sign, readArgument,
      readExpression_lexemes h.2 hrest, String.ofList_toList]
    rfl

theorem readArguments_comma (call : FilterCall) {ts rest : List Lexeme} {a : Argument}
    (h : readArgument ts = (.ok a, sign .comma ',' :: rest)) :
    readArguments call ts = readArguments (call.add a) rest := by
  rw [readArguments.eq_def]
  split
  · rename_i heq
    rw [h] at heq
    cases heq
  · rename_i heq
    rw [h] at heq
    cases heq
    rfl
  · rename_i hne heq
    rw [h] at heq
    cases heq
    exact absurd rfl (hne [','] rest)

theorem readArguments_last (call : FilterCall) {ts rest : List Lexeme} {a : Argument}
    (h : readArgument ts = (.ok a, rest)) (hrest : ∀ t ∈ rest.head?, t.kind ≠ .comma) :
    readArguments call ts = (.ok (call.add a), rest) := by
  rw [readArguments.eq_def]
  split
  · rename_i heq
    rw [h] at heq
    cases heq
  · rename_i heq
    rw [h] at heq
    cases heq
    exact absurd rfl (hrest _ rfl)
  · rename_i heq
    rw [h] at heq
    cases heq
    rfl

/-- What stands behind the use of a filter: nothing, or another one. -/
def EndsCall (ts : List Lexeme) : Prop :=
  ∀ t ∈ ts.head?, t.kind = .pipe

theorem EndsCall.follows {ts : List Lexeme} (h : EndsCall ts) : Follows ts := by
  intro t ht
  rw [h t ht]
  decide

/-- The lexemes of arguments are read as the arguments. -/
theorem readArguments_lexemes (call : FilterCall) (a : Argument) (arguments : List Argument)
    (h : ∀ b ∈ a :: arguments, isRepresentableArgument b) {rest : List Lexeme}
    (hrest : EndsCall rest) :
    readArguments call (argumentsLexemes (a :: arguments) ++ rest) =
      (.ok (((a :: arguments).map (mapArgument Decimal.normalize)).foldl FilterCall.add call),
        rest) := by
  have ha := h a List.mem_cons_self
  induction arguments generalizing call a with
  | nil =>
    refine readArguments_last call (readArgument_lexemes ha hrest.follows) fun t ht => ?_
    rw [hrest t ht]
    decide
  | cons b arguments ih =>
    have hcomma := follows_sign .comma ',' (by decide) (argumentsLexemes (b :: arguments) ++ rest)
    have hread := readArguments_comma call (readArgument_lexemes ha hcomma)
    rw [argumentsLexemes, List.append_assoc, List.cons_append, hread]
    · exact ih _ b (fun c hc => h c (List.mem_cons_of_mem a hc)) (h b (by simp))
    · exact List.cons_ne_nil b arguments

theorem foldl_add_unnamed (call : FilterCall) (es : List Expression) :
    (es.map ((none, ·) : Expression → Argument)).foldl FilterCall.add call =
      { call with arguments := call.arguments ++ es } := by
  induction es generalizing call with
  | nil => simp
  | cons e es ih =>
    rw [List.map_cons, List.foldl_cons, ih]
    simp [FilterCall.add]

theorem foldl_add_named (call : FilterCall) (es : List (String × Expression)) :
    (es.map fun (name, e) => ((some name, e) : Argument)).foldl FilterCall.add call =
      { call with named := call.named ++ es } := by
  induction es generalizing call with
  | nil => simp
  | cons e es ih =>
    rw [List.map_cons, List.foldl_cons, ih]
    simp [FilterCall.add]

/-- The arguments of a filter call make it anew. -/
theorem foldl_add_written (call : FilterCall) :
    call.written.foldl FilterCall.add ⟨call.name, [], []⟩ = call := by
  rw [FilterCall.written, List.foldl_append, foldl_add_unnamed, foldl_add_named]
  rfl

theorem written_mapDecimals (f : Decimal → Decimal) (call : FilterCall) :
    (call.mapDecimals f).written = call.written.map (mapArgument f) := by
  rw [FilterCall.written, FilterCall.written, FilterCall.mapDecimals, List.map_append]
  simp only [List.map_map]
  rfl

/-- The lexemes of the use of a filter are read as that. -/
theorem readFilter_lexemes {call : FilterCall} (h : call.isRepresentable) {rest : List Lexeme}
    (hrest : EndsCall rest) :
    readFilter (call.lexemes ++ rest) = (.ok (call.mapDecimals Decimal.normalize), rest) := by
  -- Arguments are added to an empty call one by one, so the call has to be said that way.
  have hanew := foldl_add_written (call.mapDecimals Decimal.normalize)
  have hname : (call.mapDecimals Decimal.normalize).name = call.name := rfl
  rw [written_mapDecimals, hname] at hanew
  simp only [FilterCall.isRepresentable, Bool.and_eq_true, List.all_eq_true] at h
  rw [FilterCall.lexemes, ← hanew]
  cases hwritten : call.written with
  | nil =>
    rw [List.singleton_append, word, readFilter, String.ofList_toList]
    · rfl
    · -- A colon would open arguments, but a `|` follows or nothing.
      rintro colon behind rfl
      have hkind := hrest _ rfl
      cases hkind
  | cons a arguments =>
    rw [hwritten] at h
    rw [List.cons_append, List.cons_append, word, sign, readFilter, String.ofList_toList]
    exact readArguments_lexemes _ a arguments h.2 hrest

theorem endsCall_filtersLexemes (calls : List FilterCall) : EndsCall (filtersLexemes calls) := by
  cases calls with
  | nil =>
    intro t ht
    cases ht
  | cons call calls =>
    rintro t ⟨⟩
    rfl

/-- The lexemes of filters are read as the filters, behind those already read. -/
theorem readFilters_lexemes {calls : List FilterCall} (h : ∀ call ∈ calls, call.isRepresentable)
    (taken : List FilterCall) :
    readFilters taken (filtersLexemes calls) =
      (.ok (taken ++ calls.map (·.mapDecimals Decimal.normalize)), []) := by
  induction calls generalizing taken with
  | nil =>
    rw [filtersLexemes, readFilters]
    · simp
    · simp
  | cons call calls ih =>
    have hcall := readFilter_lexemes (h call List.mem_cons_self) (endsCall_filtersLexemes calls)
    have hcalls := ih (fun other hother => h other (List.mem_cons_of_mem call hother))
      (taken ++ [call.mapDecimals Decimal.normalize])
    rw [List.append_assoc, List.singleton_append] at hcalls
    rw [List.map_cons, ← hcalls, filtersLexemes, sign, readFilters]
    split
    · rename_i heq
      rw [hcall] at heq
      cases heq
    · rename_i heq
      rw [hcall] at heq
      cases heq
      rfl

/-- The lexemes of a pipeline are read as the pipeline. -/
theorem readPipeline_lexemes {p : Pipeline} (h : p.isRepresentable) :
    readPipeline p.lexemes = (.ok (p.mapDecimals Decimal.normalize), []) := by
  simp only [Pipeline.isRepresentable, Bool.and_eq_true, List.all_eq_true] at h
  have hfollows := (endsCall_filtersLexemes p.filters).follows
  rw [readPipeline, Pipeline.lexemes, readExpression_lexemes h.1 hfollows]
  dsimp only
  rw [readFilters_lexemes h.2]
  rfl

/-- A markup that is read to its end gives what is read. -/
theorem whole_of_read {α : Type} {r : Reader α} {markup : List Char} {ts : List Lexeme} {a : α}
    (hlex : lex markup = .ok ts) (hread : r ts = (.ok a, [])) : r.whole markup = .ok a := by
  have hall : (do let a ← r; Reader.finish; return a : Reader α) ts = (.ok a, []) :=
    bind_apply_of_ok hread _
  rw [Reader.whole, hlex]
  exact congrArg Prod.fst hall

/-- **The text of a pipeline denotes the pipeline.** What has a text of its own is read back from
it, apart from zeros at the end of decimals, whose values stay the same. -/
theorem Pipeline.ofMarkup_text {p : Pipeline} (h : p.isRepresentable) :
    Pipeline.ofMarkup p.text.toList = .ok (p.mapDecimals Decimal.normalize) ∧
      ∀ d : Decimal, d.normalize.same d :=
  ⟨whole_of_read ((lexes_pipeline h).lex_eq endsWord_nil) (readPipeline_lexemes h),
    Decimal.same_normalize⟩

/-- A lookup with a lookup in its brackets, and filters with and without arguments. -/
def lastPrice : Pipeline where
  source := .lookup [.name "cart", .subscript (.lookup [.name "ids", .selector .last,
    .subscript (.literal (.int (-2)))]), .name "price-eur?"]
  filters :=
    [⟨"times",
        [.literal (.decimal ⟨true, 150, 2, by decide, by decide⟩), .literal (.string "a | b")],
        [("by", .lookup [.name "contains?"]), ("nil", .literal .nil)]⟩,
      ⟨"round", [], []⟩]

theorem Pipeline.ofMarkup_text_lastPrice :
    lastPrice.isRepresentable ∧
      lastPrice.text =
        "cart[ids.last[-2]].price-eur? | times: -1.5, 'a | b', by: contains?, nil: nil | round" ∧
      Pipeline.ofMarkup lastPrice.text.toList = .ok (lastPrice.mapDecimals Decimal.normalize) :=
  ⟨by rfl, by rfl, (Pipeline.ofMarkup_text (by rfl)).1⟩

end Stencil.Markup
