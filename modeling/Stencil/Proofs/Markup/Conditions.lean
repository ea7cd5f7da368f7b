import Stencil.Proofs.Markup.Comparisons
import Stencil.Proofs.Markup.RoundTrip

/-!
# Conditions read back

Simple conditions with `and` and `or` between them denote the condition that groups them to the
right, however many there are, and that condition holds where its parts say so. There is no
precedence, and neither connective is a word that a name could not be.

* `Sentence` — simple conditions as they are written, with connectives between them
* `readCondition_lexemes` — their lexemes are read as the condition that groups them to the right
* `Condition.ofMarkup_sentence` — from text to truth
-/

namespace Stencil.Markup

/-! ## Conditions as they are written -/

/-- A symbol that stands for a comparison. -/
structure Symbol where
  text : String
  operator : Operator
  denotes : Operator.ofSymbol? text = some operator

/-- A simple condition as it is written. -/
structure Phrase where
  left : Expression
  right : Option (Symbol × Expression)

/-- Simple conditions as they are written, each behind the first with the connective before it. -/
structure Sentence where
  first : Phrase
  others : List (Connective × Phrase)

/-- The word of a connective. -/
def Connective.word : Connective → String
  | .and => "and"
  | .or => "or"

/-- Whether all expressions of a simple condition have a text of their own. -/
def Phrase.isRepresentable (p : Phrase) : Bool :=
  p.left.isRepresentable && p.right.all (·.2.isRepresentable)

/-- Whether all expressions have a text of their own. -/
def Sentence.isRepresentable (s : Sentence) : Bool :=
  s.first.isRepresentable && s.others.all (·.2.isRepresentable)

/-! ### Texts -/

/-- The markup of a simple condition. -/
def Phrase.text (p : Phrase) : String :=
  match p.right with
  | none => p.left.text
  | some (symbol, e) => p.left.text ++ " " ++ symbol.text ++ " " ++ e.text

/-- The markup behind the first simple condition. -/
def linksText : List (Connective × Phrase) → String
  | [] => ""
  | (connective, p) :: others => " " ++ connective.word ++ " " ++ p.text ++ linksText others

/-- The markup of a sentence. -/
def Sentence.text (s : Sentence) : String :=
  s.first.text ++ linksText s.others

/-! ### Meanings -/

/-- The comparison that a simple condition stands for. -/
def Phrase.comparison (p : Phrase) : Comparison where
  left := p.left
  right := p.right.map fun (symbol, e) => (symbol.operator, e)

/-- Simple conditions grouped to the right. -/
def Condition.grouped (first : Phrase) : List (Connective × Phrase) → Condition
  | [] => .simple first.comparison
  | (connective, next) :: others => .linked first.comparison connective (grouped next others)

/-- The condition that groups the simple ones to the right. -/
def Sentence.condition (s : Sentence) : Condition :=
  .grouped s.first s.others

/-- The truth of a simple condition: that of its value, or of the comparison of its two values. -/
def Phrase.truth (view : View) (p : Phrase) : Bool :=
  match p.right with
  | none => (p.left.value view).truthy
  | some (symbol, e) => symbol.operator.holds (p.left.value view) (e.value view)

/-- What a connective makes of two truths. -/
def Connective.join : Connective → Bool → Bool → Bool
  | .and, a, b => a && b
  | .or, a, b => a || b

/-- The truth of `s₁ o₁ (s₂ o₂ (… sₙ))`. -/
def groupedTruth (view : View) (first : Phrase) : List (Connective × Phrase) → Bool
  | [] => first.truth view
  | (connective, next) :: others =>
    connective.join (first.truth view) (groupedTruth view next others)

/-- The truth of a sentence. -/
def Sentence.truth (view : View) (s : Sentence) : Bool :=
  groupedTruth view s.first s.others

/-! ### Decimals -/

/-- A comparison with a function applied to its decimals. -/
def Comparison.mapDecimals (f : Decimal → Decimal) (c : Comparison) : Comparison where
  left := c.left.mapDecimals f
  right := c.right.map fun (operator, e) => (operator, e.mapDecimals f)

/-- A condition with a function applied to its decimals. -/
def Condition.mapDecimals (f : Decimal → Decimal) : Condition → Condition
  | .simple test => .simple (test.mapDecimals f)
  | .linked test connective rest => .linked (test.mapDecimals f) connective (rest.mapDecimals f)

/-! ## Splitting -/

/-- The lexeme of a symbol. -/
def Symbol.lexeme (symbol : Symbol) : Lexeme := ⟨.comparison, symbol.text.toList⟩

/-- The lexemes of a simple condition. -/
def Phrase.lexemes (p : Phrase) : List Lexeme :=
  match p.right with
  | none => p.left.lexemes
  | some (symbol, e) => p.left.lexemes ++ symbol.lexeme :: e.lexemes

/-- The lexemes behind the first simple condition. -/
def linksLexemes : List (Connective × Phrase) → List Lexeme
  | [] => []
  | (connective, p) :: others => word connective.word :: (p.lexemes ++ linksLexemes others)

/-- There are eight symbols. -/
theorem Symbol.text_mem (symbol : Symbol) :
    symbol.text ∈ ["==", "!=", "<>", "<", ">", "<=", ">=", "contains"] := by
  obtain ⟨before, after, hsymbols, -⟩ := List.lookup_eq_some_iff.mp symbol.denotes
  have hmem : symbol.text ∈ (before ++ (symbol.text, symbol.operator) :: after).map (·.1) := by simp
  rw [← hsymbols] at hmem
  exact hmem

/-- A symbol between spaces is split off as a comparison, also `contains`. -/
theorem lexes_comparison {symbol : String}
    (h : symbol ∈ ["==", "!=", "<>", "<", ">", "<=", ">=", "contains"]) :
    Lexes Anything ([' '] ++ symbol.toList ++ [' ']) [⟨.comparison, symbol.toList⟩] := by
  intro rest _
  simp only [List.mem_cons, List.not_mem_nil, or_false] at h
  rcases h with rfl | rfl | rfl | rfl | rfl | rfl | rfl | rfl <;> rfl

theorem lexes_symbol (symbol : Symbol) :
    Lexes Anything (" " ++ symbol.text ++ " ").toList [symbol.lexeme] := by
  rw [String.toList_append, String.toList_append]
  exact lexes_comparison symbol.text_mem

theorem isIdentifier_connective (connective : Connective) :
    isIdentifier connective.word.toList := by
  cases connective with
  | and | or => rfl

/-- A connective between spaces is split off as a name. -/
theorem lexes_connective (connective : Connective) :
    Lexes Anything (" " ++ connective.word ++ " ").toList [word connective.word] := by
  rw [String.toList_append, String.toList_append]
  have hword := lexes_word connective.word (isIdentifier_connective connective)
  have hbefore : Lexes EndsName ([' '] ++ connective.word.toList) [word connective.word] :=
    lexes_space.append hword fun _ _ => trivial
  exact hbefore.append lexes_space fun rest _ => (endsWord_space rest).endsName

theorem lexes_phrase {p : Phrase} (h : p.isRepresentable) :
    Lexes EndsWord p.text.toList p.lexemes := by
  obtain ⟨left, _ | ⟨symbol, e⟩⟩ := p
  · exact lexes_expression left (by simpa [Phrase.isRepresentable] using h)
  · simp only [Phrase.isRepresentable, Option.all_some, Bool.and_eq_true] at h
    have hright := (lexes_symbol symbol).append (lexes_expression e h.2) fun _ _ => trivial
    have htext : (Phrase.mk left (some (symbol, e))).text.toList =
        left.text.toList ++ ((" " ++ symbol.text ++ " ").toList ++ e.text.toList) := by
      simp [Phrase.text]
    rw [htext]
    refine (lexes_expression left h.1).append hright fun rest _ => ?_
    rw [String.toList_append, String.toList_append]
    exact endsWord_space _

theorem endsWord_linksText (others : List (Connective × Phrase)) {rest : List Char}
    (h : EndsWord rest) : EndsWord ((linksText others).toList ++ rest) := by
  cases others with
  | nil => exact h
  | cons link others =>
    simp only [linksText, String.toList_append, List.append_assoc]
    exact endsWord_space _

theorem lexes_links {others : List (Connective × Phrase)}
    (h : ∀ link ∈ others, link.2.isRepresentable) :
    Lexes EndsWord (linksText others).toList (linksLexemes others) := by
  induction others with
  | nil => exact Lexes.nil
  | cons link others ih =>
    obtain ⟨connective, p⟩ := link
    obtain ⟨hp, hothers⟩ := List.forall_mem_cons.mp h
    have hbehind := (lexes_phrase hp).append (ih hothers) fun _ => endsWord_linksText others
    have htext : (linksText ((connective, p) :: others)).toList =
        (" " ++ connective.word ++ " ").toList ++ (p.text.toList ++ (linksText others).toList) := by
      simp [linksText]
    rw [htext]
    exact (lexes_connective connective).append hbehind fun _ _ => trivial

/-! ## Reading -/

/-- What stands behind a simple condition: nothing, or a connective. -/
def EndsPhrase (ts : List Lexeme) : Prop :=
  ∀ t ∈ ts.head?, t.kind = .identifier

theorem EndsPhrase.follows {ts : List Lexeme} (h : EndsPhrase ts) : Follows ts := by
  intro t ht
  rw [h t ht]
  decide

theorem endsPhrase_linksLexemes (others : List (Connective × Phrase)) :
    EndsPhrase (linksLexemes others) := by
  cases others with
  | nil =>
    intro t ht
    cases ht
  | cons link others =>
    rintro t ⟨⟩
    rfl

theorem readComparison_alone {e : Expression} (h : e.isRepresentable) {rest : List Lexeme}
    (hrest : EndsPhrase rest) :
    readComparison (e.lexemes ++ rest) = (.ok ⟨e.mapDecimals Decimal.normalize, none⟩, rest) := by
  have hread := readExpression_lexemes h hrest.follows
  unfold readComparison
  split
  · rename_i heq
    rw [hread] at heq
    cases heq
  · -- A comparison does not stand there.
    rename_i heq
    rw [hread] at heq
    cases heq
    cases hrest _ rfl
  · rename_i heq
    rw [hread] at heq
    cases heq
    rfl

theorem readComparison_symbol {e e' : Expression} (h : e.isRepresentable) (h' : e'.isRepresentable)
    (symbol : Symbol) {rest : List Lexeme} (hrest : EndsPhrase rest) :
    readComparison (e.lexemes ++ symbol.lexeme :: (e'.lexemes ++ rest)) =
      (.ok ⟨e.mapDecimals Decimal.normalize,
        some (symbol.operator, e'.mapDecimals Decimal.normalize)⟩, rest) := by
  have hfollows : Follows (symbol.lexeme :: (e'.lexemes ++ rest)) := by
    rintro t ⟨⟩
    exact ⟨by simp [Symbol.lexeme], by simp [Symbol.lexeme], by simp [Symbol.lexeme]⟩
  have hright := readExpression_lexemes h' hrest.follows
  rw [readComparison, readExpression_lexemes h hfollows, Symbol.lexeme]
  simp only [String.ofList_toList, symbol.denotes, hright]

/-- The lexemes of a simple condition are read as the comparison that it stands for. -/
theorem readComparison_lexemes {p : Phrase} (h : p.isRepresentable) {rest : List Lexeme}
    (hrest : EndsPhrase rest) :
    readComparison (p.lexemes ++ rest) =
      (.ok (p.comparison.mapDecimals Decimal.normalize), rest) := by
  obtain ⟨left, _ | ⟨symbol, e⟩⟩ := p
  · exact readComparison_alone (by simpa [Phrase.isRepresentable] using h) hrest
  · simp only [Phrase.isRepresentable, Option.all_some, Bool.and_eq_true] at h
    have hlexemes : (Phrase.mk left (some (symbol, e))).lexemes ++ rest =
        left.lexemes ++ symbol.lexeme :: (e.lexemes ++ rest) := by
      simp [Phrase.lexemes]
    rw [hlexemes]
    exact readComparison_symbol h.1 h.2 symbol hrest

theorem takeConnective?_word (connective : Connective) (rest : List Lexeme) :
    takeConnective? (word connective.word :: rest) = some (connective, rest) := by
  cases connective with
  | and | or => rfl

/-- What is read as a condition when a simple one has been read. -/
theorem readCondition_of_simple {ts rest : List Lexeme} {test : Comparison}
    (hread : readComparison ts = (.ok test, rest)) (hnone : takeConnective? rest = none) :
    readCondition ts = (.ok (.simple test), rest) := by
  rw [readCondition.eq_def]
  split
  · rename_i heq
    rw [hread] at heq
    cases heq
  · rename_i heq
    rw [hread] at heq
    cases heq
    split
    · rfl
    · rename_i hsome
      rw [hnone] at hsome
      cases hsome

theorem readCondition_of_linked {ts behind after rest : List Lexeme} {test : Comparison}
    {connective : Connective} {next : Condition} (hread : readComparison ts = (.ok test, behind))
    (hsome : takeConnective? behind = some (connective, after))
    (hnext : readCondition after = (.ok next, rest)) :
    readCondition ts = (.ok (.linked test connective next), rest) := by
  rw [readCondition.eq_def]
  split
  · rename_i heq
    rw [hread] at heq
    cases heq
  · rename_i heq
    rw [hread] at heq
    cases heq
    split
    · rename_i hnone
      rw [hsome] at hnone
      cases hnone
    · rename_i heq
      rw [hsome] at heq
      cases heq
      rw [hnext]

/-- The lexemes of a sentence are read as the condition that groups it to the right. -/
theorem readCondition_lexemes {first : Phrase} {others : List (Connective × Phrase)}
    (hfirst : first.isRepresentable) (hothers : ∀ link ∈ others, link.2.isRepresentable) :
    readCondition (first.lexemes ++ linksLexemes others) =
      (.ok ((Condition.grouped first others).mapDecimals Decimal.normalize), []) := by
  have hread := readComparison_lexemes hfirst (endsPhrase_linksLexemes others)
  induction others generalizing first with
  | nil => exact readCondition_of_simple hread rfl
  | cons link others ih =>
    obtain ⟨connective, next⟩ := link
    obtain ⟨hnext, hothers⟩ := List.forall_mem_cons.mp hothers
    have hbehind := ih hnext hothers
      (readComparison_lexemes hnext (endsPhrase_linksLexemes others))
    exact readCondition_of_linked hread (takeConnective?_word connective _) hbehind

/-! ## Truth -/

/-- A value and the value that comes back in its place: a decimal may have lost zeros at its
end. -/
inductive ReadBack : Value → Value → Prop where
  | same (v : Value) : ReadBack v v
  | decimal (d : Decimal) : ReadBack (.decimal d) (.decimal d.normalize)

namespace ReadBack

variable {v w v' w' : Value}

theorem truthy (h : ReadBack v w) : w.truthy = v.truthy := by
  cases h with
  | same | decimal => rfl

/-- A decimal leads nowhere as a key. -/
theorem lookup (h : ReadBack v w) (objects : Objects) (keys : KeyEncoding) (container : Value) :
    container.lookup objects keys w = container.lookup objects keys v := by
  cases h with
  | same => rfl
  | decimal d => cases container <;> rfl

theorem same_value (h : ReadBack v w) : w.same v := by
  cases h with
  | same => exact Value.same_equivalence.refl v
  | decimal d => exact Decimal.same_normalize d

/-- All comparisons are by value. -/
theorem holds (h : ReadBack v w) (h' : ReadBack v' w') (operator : Operator) :
    operator.holds w w' = operator.holds v v' :=
  operator.holds_congr h.same_value h'.same_value

end ReadBack

mutual

/-- An expression that is read back has the value that it had, but for zeros of a literal. -/
theorem readBack_value (view : View) (e : Expression) (h : e.isRepresentable) :
    ReadBack (e.value view) ((e.mapDecimals Decimal.normalize).value view) := by
  match e, h with
  | .literal value, _ =>
    cases value with
    | decimal d => exact .decimal d
    | _ => exact .same _
  | .lookup (.name first :: steps), h =>
    simp only [Expression.isRepresentable, Bool.and_eq_true] at h
    have hsteps := stepsValue_mapDecimals view steps h.2 (view.read first)
    have hvalue : ((Expression.lookup (.name first :: steps)).mapDecimals
        Decimal.normalize).value view = (Expression.lookup (.name first :: steps)).value view := by
      simp only [Expression.value, Expression.mapDecimals, mapDecimalsOf, Expression.step,
        stepsValue, hsteps]
    rw [hvalue]
    exact .same _

/-- Steps that are read back lead to the same value. -/
theorem stepsValue_mapDecimals (view : View) (steps : List Expression)
    (h : areRepresentable steps) (before : Value) :
    stepsValue view (some before) (mapDecimalsOf Decimal.normalize steps) =
      stepsValue view (some before) steps := by
  match steps, h with
  | [], _ => rfl
  | .name identifier :: steps, h =>
    simp only [areRepresentable, Bool.and_eq_true] at h
    simp only [mapDecimalsOf, Expression.mapDecimals, stepsValue,
      stepsValue_mapDecimals view steps h.2]
  | .selector s :: steps, h =>
    rw [areRepresentable] at h
    simp only [mapDecimalsOf, Expression.mapDecimals, stepsValue,
      stepsValue_mapDecimals view steps h]
  | .subscript key :: steps, h =>
    simp only [areRepresentable, Bool.and_eq_true] at h
    have hkey := (readBack_value view key h.1).lookup view.objects view.keys before
    simp only [Expression.value] at hkey
    simp only [mapDecimalsOf, Expression.mapDecimals, stepsValue, Expression.step, hkey,
      stepsValue_mapDecimals view steps h.2]

end

/-- A simple condition that is read back holds where it says so. -/
theorem holds_comparison (view : View) {p : Phrase} (h : p.isRepresentable) :
    (p.comparison.mapDecimals Decimal.normalize).holds view = p.truth view := by
  obtain ⟨left, _ | ⟨symbol, e⟩⟩ := p
  · exact (readBack_value view left (by simpa [Phrase.isRepresentable] using h)).truthy
  · simp only [Phrase.isRepresentable, Option.all_some, Bool.and_eq_true] at h
    exact (readBack_value view left h.1).holds (readBack_value view e h.2) symbol.operator

/-- Simple conditions that are grouped to the right hold where they say so one by one. -/
theorem holds_grouped (view : View) {first : Phrase} {others : List (Connective × Phrase)}
    (hfirst : first.isRepresentable) (hothers : ∀ link ∈ others, link.2.isRepresentable) :
    ((Condition.grouped first others).mapDecimals Decimal.normalize).holds view =
      groupedTruth view first others := by
  induction others generalizing first with
  | nil => exact holds_comparison view hfirst
  | cons link others ih =>
    obtain ⟨connective, next⟩ := link
    obtain ⟨hnext, hothers⟩ := List.forall_mem_cons.mp hothers
    have htest := holds_comparison view hfirst
    have hbehind := ih hnext hothers
    cases connective with
    | and | or =>
      simp only [Condition.grouped, Condition.mapDecimals, Condition.holds, htest, hbehind,
        groupedTruth, Connective.join]

/--
**Conditions group to the right, from text to truth.** Simple conditions with connectives between
them denote the condition that groups them to the right, up to zeros at the end of decimals, whose
values stay the same. In every view it holds where its parts, joined from the right, say so.
-/
theorem Condition.ofMarkup_sentence {s : Sentence} (h : s.isRepresentable) :
    Condition.ofMarkup s.text.toList = .ok (s.condition.mapDecimals Decimal.normalize) ∧
      (∀ d : Decimal, d.normalize.same d) ∧
      ∀ view, (s.condition.mapDecimals Decimal.normalize).holds view = s.truth view := by
  simp only [Sentence.isRepresentable, Bool.and_eq_true, List.all_eq_true] at h
  obtain ⟨hfirst, hothers⟩ := h
  have hlexes : Lexes EndsWord s.text.toList (s.first.lexemes ++ linksLexemes s.others) := by
    rw [Sentence.text, String.toList_append]
    exact (lexes_phrase hfirst).append (lexes_links hothers) fun _ => endsWord_linksText s.others
  refine ⟨?_, Decimal.same_normalize, fun view => holds_grouped view hfirst hothers⟩
  exact whole_of_read (hlexes.lex_eq endsWord_nil) (readCondition_lexemes hfirst hothers)

/-- Names and a string that read like connectives, and a decimal with a zero at its end. -/
def wordsAsNames : Sentence where
  first := ⟨.lookup [.name "and"], some (⟨"<>", .notEqual, rfl⟩, .literal (.string "a and b"))⟩
  others :=
    [(.and, ⟨.lookup [.name "or", .name "tags"],
        some (⟨"contains", .contains, rfl⟩, .lookup [.name "tag"])⟩),
      (.or, ⟨.lookup [.name "or", .subscript (.literal (.int (-1)))], none⟩),
      (.and, ⟨.literal (.decimal ⟨false, 1250, 3, by decide, by decide⟩),
        some (⟨">=", .greaterOrEqual, rfl⟩, .lookup [.name "price"])⟩)]

theorem Condition.ofMarkup_sentence_wordsAsNames :
    wordsAsNames.isRepresentable ∧
      wordsAsNames.text =
        "and <> 'a and b' and or.tags contains tag or or[-1] and 1.25 >= price" ∧
      Condition.ofMarkup wordsAsNames.text.toList =
        .ok (wordsAsNames.condition.mapDecimals Decimal.normalize) ∧
      ∀ view, (wordsAsNames.condition.mapDecimals Decimal.normalize).holds view =
        wordsAsNames.truth view :=
  ⟨by rfl, by rfl, (Condition.ofMarkup_sentence (by rfl)).1,
    (Condition.ofMarkup_sentence (by rfl)).2.2⟩

end Stencil.Markup
