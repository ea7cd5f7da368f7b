import Stencil.Proofs.Decimal.Order
import Stencil.Proofs.Markup.RoundTrip

/-!
# Lists of expressions

The text of a list of expressions tells which expressions these are, if each of them has a text of
its own. Only zeros at the end of decimals are not told, since they are not written.

* `Expression.text_normalize` — zeros at the end of decimals do not change the text
* `separated_text_eq_iff` — lists with the same text are the same lists
-/

namespace Stencil.Markup

/-! ## Decimals with zeros at the end -/

theorem isSubscript_mapDecimals (f : Decimal → Decimal) (e : Expression) :
    (e.mapDecimals f).isSubscript = e.isSubscript := by
  cases e <;> rfl

theorem literalText_normalize (value : Value) :
    literalText (mapLiteral Decimal.normalize value) = literalText value := by
  cases value with
  | decimal d => exact congrArg String.ofList (Decimal.toText_normalize d)
  | _ => rfl

mutual

theorem Expression.text_normalize (e : Expression) :
    (e.mapDecimals Decimal.normalize).text = e.text := by
  match e with
  | .lookup [] => rfl
  | .lookup (step :: steps) =>
    rw [Expression.mapDecimals, mapDecimalsOf, Expression.text, Expression.text,
      step.text_normalize, stepsText_normalize steps]
  | .name identifier => rfl
  | .selector s => rfl
  | .literal value =>
    rw [Expression.mapDecimals, Expression.text, Expression.text, literalText_normalize]
  | .subscript key =>
    rw [Expression.mapDecimals, Expression.text, Expression.text, key.text_normalize]

theorem stepsText_normalize (steps : List Expression) :
    stepsText (mapDecimalsOf Decimal.normalize steps) = stepsText steps := by
  match steps with
  | [] => rfl
  | step :: steps =>
    rw [mapDecimalsOf, stepsText, stepsText, isSubscript_mapDecimals, step.text_normalize,
      stepsText_normalize steps]

end

/-! ## Reading a list back -/

/-- The text of a list of expressions is read as the list. -/
theorem readArguments_text {es : List Expression} (hne : es ≠ [])
    (h : ∀ e ∈ es, e.isRepresentable) (call : FilterCall) :
    ∃ ts, lex (Value.separated (es.map (·.text))).toList = .ok ts ∧
      readArguments call ts =
        (.ok { call with
          arguments := call.arguments ++ es.map (·.mapDecimals Decimal.normalize) }, []) := by
  -- A list is written like the arguments of a filter that have no names.
  let arguments : List Argument := es.map (none, ·)
  have harguments : ∀ a ∈ arguments, isRepresentableArgument a := by
    intro a ha
    obtain ⟨e, he, rfl⟩ := List.mem_map.mp ha
    exact h e he
  have htexts : arguments.map argumentText = es.map (·.text) := by
    rw [List.map_map]
    rfl
  have hread : arguments.map (mapArgument Decimal.normalize) =
      (es.map (·.mapDecimals Decimal.normalize)).map (none, ·) := by
    rw [List.map_map, List.map_map]
    rfl
  have hlex := (lexes_arguments harguments).lex_eq endsWord_nil
  rw [htexts] at hlex
  refine ⟨_, hlex, ?_⟩
  obtain ⟨a, rest, hcons⟩ := List.exists_cons_of_ne_nil (List.map_eq_nil_iff.not.mpr hne)
  have hends : EndsCall [] := fun t ht => by cases ht
  have hlexemes := readArguments_lexemes call a rest (hcons ▸ harguments) hends
  rw [← hcons, List.append_nil, hread, foldl_add_unnamed] at hlexemes
  exact hlexemes

/-- **Lists with the same text are the same lists,** apart from zeros at the end of decimals. -/
theorem separated_text_eq_iff {xs ys : List Expression} (hx : xs ≠ []) (hy : ys ≠ [])
    (hrepresentable : ∀ e ∈ xs ++ ys, e.isRepresentable) :
    Value.separated (xs.map (·.text)) = Value.separated (ys.map (·.text)) ↔
      xs.map (·.mapDecimals Decimal.normalize) = ys.map (·.mapDecimals Decimal.normalize) := by
  obtain ⟨hxs, hys⟩ := List.forall_mem_append.mp hrepresentable
  constructor
  · intro h
    obtain ⟨ts, hlex, hread⟩ := readArguments_text hx hxs ⟨"", [], []⟩
    obtain ⟨us, hlex', hread'⟩ := readArguments_text hy hys ⟨"", [], []⟩
    rw [h, hlex'] at hlex
    cases hlex
    rw [hread] at hread'
    simpa using hread'
  · intro h
    have htexts : ∀ es : List Expression,
        (es.map (·.mapDecimals Decimal.normalize)).map (·.text) = es.map (·.text) := by
      intro es
      rw [List.map_map]
      exact List.map_congr_left fun e _ => e.text_normalize
    rw [← htexts xs, ← htexts ys, h]

end Stencil.Markup
