import Stencil.Markup.Reader

/-!
# Lookups that wait

While the key between brackets is read, the lookup in front of them waits. To read with lookups that
wait is to read without them and to go on with each of them then, so an expression is read part by
part.

* `beginExpression_append` — reading for lookups that wait
* `readSteps_openSquare` — a subscript is read as an expression between brackets
* `readExpression_consumes` — reading an expression takes a lexeme, unless there is none
-/

namespace Stencil.Markup

/-! ## Going on -/

/-- Goes on, behind an expression that has been read, with the lookups that wait for it. -/
def resume (waiting : List (List Expression)) : Reading Expression → Reading Expression
  | (.ok e, rest) => endExpression waiting e rest
  | (.error e, rest) => (.error e, rest)

mutual

/-- To read an expression for some lookups that wait, and for others behind them, is to read it for
the former and to go on with the latter. -/
theorem beginExpression_append (inner outer : List (List Expression)) (ts : List Lexeme) :
    beginExpression (inner ++ outer) ts = resume outer (beginExpression inner ts) := by
  match ts with
  | [] =>
    rw [beginExpression, beginExpression]
    exact endExpression_append inner outer _ []
  | ⟨kind, text⟩ :: rest =>
    rw [beginExpression.eq_def, beginExpression.eq_def inner]
    dsimp only
    split
    · exact endExpression_append inner outer _ rest
    · split
      · exact endExpression_append inner outer _ rest
      · rfl
    · split
      · exact endExpression_append inner outer _ rest
      · rfl
    · split
      · exact endExpression_append inner outer _ rest
      · exact readSteps_append inner outer _ rest
    · rfl
termination_by (ts.length, 2)

theorem readSteps_append (inner outer : List (List Expression)) (steps : List Expression)
    (ts : List Lexeme) :
    readSteps (inner ++ outer) steps ts = resume outer (readSteps inner steps ts) := by
  rw [readSteps.eq_def, readSteps.eq_def inner]
  split
  · exact beginExpression_append (steps :: inner) outer _
  · exact readSteps_append inner outer _ _
  · exact endExpression_append inner outer _ _
  · exact endExpression_append inner outer _ _
termination_by (ts.length, 1)

theorem endExpression_append (inner outer : List (List Expression)) (e : Expression)
    (ts : List Lexeme) :
    endExpression (inner ++ outer) e ts = resume outer (endExpression inner e ts) := by
  match inner with
  | [] =>
    rw [endExpression.eq_def []]
    rfl
  | steps :: inner =>
    rw [List.cons_append, endExpression.eq_def, endExpression.eq_def (steps :: inner)]
    dsimp only
    split
    · exact readSteps_append inner outer _ _
    · rfl
termination_by (ts.length, 0)

end

/-- An expression is read for lookups that wait as any other. -/
theorem beginExpression_eq (waiting : List (List Expression)) (ts : List Lexeme) :
    beginExpression waiting ts = resume waiting (readExpression ts) :=
  beginExpression_append [] waiting ts

/-! ## Steps of a lookup -/

section Steps

variable (taken : List Expression) (text : List Char) (rest : List Lexeme)

/-- A subscript is read as an expression, behind which the bracket is closed. -/
theorem readSteps_openSquare :
    readSteps [] taken (⟨.openSquare, text⟩ :: rest) = resume [taken] (readExpression rest) := by
  rw [readSteps.eq_def]
  exact beginExpression_eq [taken] rest

theorem resume_ok_closeSquare (e : Expression) :
    resume [taken] (.ok e, ⟨.closeSquare, text⟩ :: rest) =
      readSteps [] (taken ++ [.subscript e]) rest := by
  rw [resume, endExpression]

theorem resume_ok_of_ne {ts : List Lexeme} (h : ∀ t ∈ ts.head?, t.kind ≠ .closeSquare)
    (e : Expression) :
    resume [taken] (.ok e, ts) = (.error (unexpected Kind.closeSquare.title ts), ts) := by
  rw [resume, endExpression.eq_def]
  dsimp only
  split
  · exact absurd rfl (h _ rfl)
  · rfl

theorem readSteps_dot_identifier (name : List Char) :
    readSteps [] taken (⟨.dot, text⟩ :: ⟨.identifier, name⟩ :: rest) =
      readSteps [] (taken ++ [stepOf (String.ofList name)]) rest := by
  rw [readSteps.eq_def]

theorem readSteps_dot_of_ne {ts : List Lexeme} (h : ∀ t ∈ ts.head?, t.kind ≠ .identifier) :
    readSteps [] taken (⟨.dot, text⟩ :: ts) = (.ok (.lookup taken), ts) := by
  rw [readSteps.eq_def]
  split
  · rename_i heq
    cases heq
  · rename_i heq
    cases heq
    exact absurd rfl (h _ rfl)
  · rename_i heq
    cases heq
    rw [endExpression]
  · rename_i hdot
    exact absurd rfl (hdot text ts)

theorem readSteps_of_ne {ts : List Lexeme}
    (h : ∀ t ∈ ts.head?, t.kind ≠ .openSquare ∧ t.kind ≠ .dot) :
    readSteps [] taken ts = (.ok (.lookup taken), ts) := by
  rw [readSteps.eq_def]
  split
  · exact absurd rfl (h _ rfl).1
  · exact absurd rfl (h _ rfl).2
  · exact absurd rfl (h _ rfl).2
  · rw [endExpression]

end Steps

/-! ## Taking lexemes -/

/-- Reading an expression takes a lexeme, unless there is none. -/
theorem readExpression_consumes {ts rest : List Lexeme} {e : Expression}
    (h : readExpression ts = (.ok e, rest)) (hne : ts ≠ []) : rest.length < ts.length := by
  obtain ⟨⟨kind, text⟩, behind, rfl⟩ := List.exists_cons_of_ne_nil hne
  -- Whatever is read behind the first lexeme is a suffix of what stands there.
  have hend (value : Value) (hread : endExpression [] (.literal value) behind = (.ok e, rest)) :
      rest <:+ behind := by
    have hsuffix := endExpression_suffix [] (.literal value) behind
    rwa [hread] at hsuffix
  suffices hsuffix : rest <:+ behind from Nat.lt_succ_of_le hsuffix.length_le
  rw [readExpression, beginExpression.eq_def] at h
  dsimp only at h
  split at h
  · exact hend _ h
  · split at h
    · exact hend _ h
    · cases h
  · split at h
    · exact hend _ h
    · cases h
  · split at h
    · exact hend _ h
    · have hsuffix := readSteps_suffix [] [.name (String.ofList text)] behind
      rwa [h] at hsuffix
  · cases h

end Stencil.Markup
