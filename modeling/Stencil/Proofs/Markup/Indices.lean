import Stencil.Proofs.Markup.Resuming
import Stencil.Proofs.Markup.Spacing
import Stencil.Proofs.Markup.Walk

/-!
# Indices within the markup

A program that reads lexemes at an index comes to what the readers come to on the lexemes that are
left, so it always has a result: no index is out of range, the end is not passed, and every loop
ends.

* `Stands` — an index stands in front of lexemes
* `Does` — a walk from an index comes to a reading
* `does_take`, `does_takeWord`, `does_expect` — taking lexemes
* `does_expression`, `does_condition`, `does_pipeline` — the readers
-/

namespace Stencil.Markup

open Walk

variable {all : List Lexeme} {i j : Nat} {ts rest : List Lexeme} {t : Lexeme} {kind : Kind}

/-! ## Indices and what is left -/

/-- An index stands in front of lexemes, behind which there is the end. -/
structure Stands (all : List Lexeme) (i : Nat) (ts : List Lexeme) : Prop where
  drop : all.drop i = ts ++ [finish]
  kinds : ∀ t ∈ ts, t.kind ≠ .finish

namespace Stands

theorem length (h : Stands all i ts) : i + ts.length + 1 = all.length := by
  have hlength := congrArg List.length h.drop
  rw [List.length_drop, List.length_append, List.length_singleton] at hlength
  omega

theorem getElem? (h : Stands all i ts) (skip : Nat) : all[i + skip]? = (ts ++ [finish])[skip]? := by
  rw [← h.drop, List.getElem?_drop]

theorem next (h : Stands all i (t :: ts)) : Stands all (i + 1) ts where
  drop := by rw [← List.drop_drop, h.drop, List.cons_append, List.drop_one, List.tail_cons]
  kinds t' ht' := h.kinds t' (List.mem_cons_of_mem t ht')

theorem eq_drop (h : Stands (ts ++ [finish]) i rest) : i ≤ ts.length ∧ rest = ts.drop i := by
  have hlength := h.length
  rw [List.length_append, List.length_singleton] at hlength
  have hi : i ≤ ts.length := by omega
  have hdrop := h.drop
  rw [List.drop_append_of_le_length hi] at hdrop
  exact ⟨hi, (List.append_cancel_right hdrop).symm⟩

theorem kind_ne (h : Stands all i (t :: ts)) : t.kind ≠ .finish :=
  h.kinds t List.mem_cons_self

end Stands

theorem stands_drop (hkinds : ∀ t ∈ ts, t.kind ≠ .finish) (hi : i ≤ ts.length) :
    Stands (ts ++ [finish]) i (ts.drop i) where
  drop := List.drop_append_of_le_length hi
  kinds t ht := hkinds t (List.mem_of_mem_drop ht)

/-! ## Walks and readings -/

/-- A walk from an index comes to what was read, and it moves forward to what is left then. -/
def Does {α : Type} (all : List Lexeme) (w : Walk α) (i : Nat) (r : Reading α) : Prop :=
  ∃ j, w i = some (r.1, j) ∧ i ≤ j ∧ Stands all j r.2

section Sequencing

variable {α β : Type} {w : Walk α} {f : α → Walk β}

theorem Does.bind_ok {a : α} {r : Reading β} (hw : Does all w i (.ok a, rest))
    (hf : ∀ j, Stands all j rest → Does all (f a) j r) : Does all (w >>= f) i r := by
  obtain ⟨j, hj, hforward, hstands⟩ := hw
  obtain ⟨k, hk, hforward', hleft⟩ := hf j hstands
  refine ⟨k, ?_, Nat.le_trans hforward hforward', hleft⟩
  show (w i).bind (fun x => ExceptT.bindCont f x.1 x.2) = _
  rw [hj]
  exact hk

theorem Does.bind_error {e : SyntaxError} (hw : Does all w i (.error e, rest)) :
    Does all (w >>= f) i (.error e, rest) := by
  obtain ⟨j, hj, hforward, hstands⟩ := hw
  refine ⟨j, ?_, hforward, hstands⟩
  show (w i).bind (fun x => ExceptT.bindCont f x.1 x.2) = _
  rw [hj]
  rfl

theorem does_pure (h : Stands all i ts) (a : α) : Does all (pure a) i (.ok a, ts) :=
  ⟨i, rfl, Nat.le_refl i, h⟩

theorem Does.map {r : Reading α} (hw : Does all w i r) (g : α → β) :
    Does all (do return g (← w)) i (r.1.map g, r.2) := by
  obtain ⟨e | a, rest⟩ := r
  · exact hw.bind_error
  · exact hw.bind_ok fun j hj => does_pure hj _

theorem does_throw (h : Stands all i ts) (e : SyntaxError) :
    Does all (throw e : Walk α) i (.error e, ts) :=
  ⟨i, rfl, Nat.le_refl i, h⟩

end Sequencing

/-! ## Taking lexemes -/

theorem head_cases (kind : Kind) (ts : List Lexeme) :
    (∃ text rest, ts = ⟨kind, text⟩ :: rest) ∨ ∀ t ∈ ts.head?, t.kind ≠ kind := by
  cases ts with
  | nil =>
    right
    rintro t ⟨⟩
  | cons t rest =>
    by_cases hkind : t.kind = kind
    · exact .inl ⟨t.text, rest, by rw [← hkind]⟩
    · right
      rintro t' ⟨⟩
      exact hkind

theorem head_ne (h : ∀ text rest, ts = ⟨kind, text⟩ :: rest → False) :
    ∀ t ∈ ts.head?, t.kind ≠ kind := by
  rcases head_cases kind ts with ⟨text, rest, rfl⟩ | hother
  · exact (h text rest rfl).elim
  · exact hother

theorem place_eq {skip : UInt64} (h : i + skip.toNat < max all.length UInt64.size) :
    place all i skip = i + skip.toNat := by
  unfold place
  split
  · rfl
  · exact Nat.mod_eq_of_lt (by omega)

theorem does_ahead (h : Stands all i ts) {skip : UInt64}
    (hskip : i + skip.toNat < max all.length UInt64.size) :
    Does all (ahead? all skip) i (.ok (ts ++ [finish])[skip.toNat]?, ts) := by
  refine ⟨i, ?_, Nat.le_refl i, h⟩
  rw [ahead?, place_eq hskip, h.getElem?]

theorem does_next (h : Stands all i ts) :
    Does all (ahead? all 0) i (.ok (ts ++ [finish])[0]?, ts) := by
  have hlength := h.length
  exact does_ahead h (show i + 0 < max all.length UInt64.size by omega)

theorem getElem?_any_kind (kind : Kind) (skip : Nat) (ts : List Lexeme) :
    (ts ++ [finish])[skip]?.any (·.kind == kind) = look kind skip ts := by
  rw [look]
  rcases Nat.lt_trichotomy skip ts.length with hlt | rfl | hgt
  · simp [List.getElem?_append_left hlt, hlt]
  · have hlast : (ts ++ [finish])[ts.length]? = some finish := List.getElem?_concat_length
    rw [hlast, List.getElem?_eq_none (Nat.le_refl _), Option.any_some, BEq.rfl, Bool.and_true]
    exact BEq.comm
  · have hnone : (ts ++ [finish])[skip]? = none :=
      List.getElem?_eq_none (by rw [List.length_append, List.length_singleton]; omega)
    have hne : (ts.length == skip) = false := beq_eq_false_iff_ne.mpr (by omega)
    rw [hnone, List.getElem?_eq_none (by omega), Option.any_none, hne, Bool.and_false]

theorem does_lookAhead (h : Stands all i ts) (kind : Kind) {skip : UInt64}
    (hskip : i + skip.toNat < max all.length UInt64.size) :
    Does all (Walk.look all kind skip) i (.ok (look kind skip.toNat ts), ts) := by
  rw [← getElem?_any_kind]
  exact (does_ahead h hskip).map _

theorem does_look (h : Stands all i ts) (kind : Kind) :
    Does all (Walk.look all kind 0) i (.ok (look kind 0 ts), ts) := by
  rw [← getElem?_any_kind]
  exact (does_next h).map _

/-- In front of a lexeme there is one more place, at least that of the end. -/
theorem does_lookSecond (h : Stands all i (t :: ts)) (kind : Kind) :
    Does all (Walk.look all kind 1) i (.ok (look kind 1 (t :: ts)), t :: ts) := by
  have hlength := h.length
  rw [List.length_cons] at hlength
  exact does_lookAhead h kind (show i + 1 < max all.length UInt64.size by omega)

/-- In front of a lexeme the index is in range. -/
theorem does_here (h : Stands all i (t :: ts)) : Does all (here all) i (.ok t, t :: ts) := by
  have hlexeme : all[i]? = some t := h.getElem? 0
  refine ⟨i, ?_, Nat.le_refl i, h⟩
  show all[i]?.map _ = _
  rw [hlexeme]
  rfl

/-- In front of a lexeme there is one more to come: the end. -/
theorem does_advance (h : Stands all i (t :: ts)) : Does all (advance all) i (.ok (), ts) := by
  have hlength := h.length
  rw [List.length_cons] at hlength
  exact ⟨i + 1, if_pos (by omega), Nat.le_succ i, h.next⟩

theorem look_cons_zero (kind : Kind) (t : Lexeme) (ts : List Lexeme) :
    look kind 0 (t :: ts) = (t.kind == kind) := rfl

/-- The next lexeme is taken if it is of the kind that was asked for. -/
theorem does_take_self (h : Stands all i (t :: ts)) (hkind : t.kind = kind) :
    Does all (Walk.take? all kind) i (.ok (some t.text), ts) := by
  have hfinish : (kind == .finish) = false := by
    rw [← hkind]
    exact beq_eq_false_iff_ne.mpr h.kind_ne
  rw [Walk.take?, hfinish]
  refine (does_look h kind).bind_ok fun j hj => ?_
  rw [look_cons_zero, hkind, BEq.rfl, if_neg (by decide)]
  refine (does_here hj).bind_ok fun k hk => ?_
  exact (does_advance hk).bind_ok fun l hl => does_pure hl _

/-- The next lexeme stays if it is not of the kind that was asked for, and the end always does. -/
theorem does_take_of_ne (h : Stands all i ts) (hkind : ∀ t ∈ ts.head?, t.kind ≠ kind) :
    Does all (Walk.take? all kind) i (.ok none, ts) := by
  rw [Walk.take?]
  refine (does_look h kind).bind_ok fun j hj => ?_
  have hnot : (kind == .finish || !look kind 0 ts) = true := by
    cases ts with
    | nil => cases kind <;> rfl
    | cons t ts =>
      have hne : (t.kind == kind) = false := beq_eq_false_iff_ne.mpr (hkind t rfl)
      rw [look_cons_zero, hne, Bool.not_false, Bool.or_true]
  rw [if_pos hnot]
  exact does_pure hj _

theorem does_take (h : Stands all i ts) (kind : Kind) :
    Does all (Walk.take? all kind) i (.ok (take? kind ts).1, (take? kind ts).2) := by
  cases ts with
  | nil =>
    refine does_take_of_ne h ?_
    rintro t ⟨⟩
  | cons t ts =>
    rw [take?]
    split
    · rename_i hkind
      exact does_take_self h hkind.1
    · rename_i hkind
      refine does_take_of_ne h ?_
      rintro t' ⟨⟩ heq
      exact hkind ⟨heq, heq ▸ h.kind_ne⟩

theorem does_lookWord (h : Stands all i ts) (word : String) :
    Does all (Walk.lookWord all word) i (.ok (lookWord word ts), ts) := by
  have hfirst : (ts ++ [finish])[0]?.any (fun t => t.kind == .identifier && t.text == word.toList) =
      lookWord word ts := by
    cases ts <;> rfl
  rw [← hfirst]
  exact (does_next h).map _

theorem does_takeWord (h : Stands all i ts) (word : String) :
    Does all (Walk.takeWord? all word) i (.ok (takeWord? word ts).1, (takeWord? word ts).2) := by
  rw [Walk.takeWord?, takeWord?]
  refine (does_lookWord h word).bind_ok fun j hj => ?_
  split
  · cases ts with
    | nil => rename_i hword; cases hword
    | cons t ts => exact (does_advance hj).bind_ok fun k hk => does_pure hk _
  · exact does_pure hj _

theorem does_describe (h : Stands all i ts) :
    Does all (Walk.describe all) i (.ok (describe ts), ts) := by
  rw [Walk.describe]
  refine (does_next h).bind_ok fun j hj => ?_
  cases ts with
  | nil => exact does_pure hj _
  | cons t ts =>
    have hkind : (t.kind == .finish) = false := beq_eq_false_iff_ne.mpr h.kind_ne
    show Does all (if t.kind == .finish then _ else _) j _
    rw [hkind]
    exact does_pure hj _

theorem does_refuse {α : Type} (h : Stands all i ts) (expected : String) :
    Does all (Walk.refuse all expected : Walk α) i (.error (unexpected expected ts), ts) :=
  (does_describe h).bind_ok fun _ hj => does_throw hj _

theorem does_expect (h : Stands all i ts) (kind : Kind) :
    Does all (Walk.expect all kind) i (expect kind ts) := by
  have htake := does_take h kind
  rw [Walk.expect, expect]
  generalize take? kind ts = taken at htake ⊢
  rcases taken with ⟨_ | text, rest⟩
  · exact htake.bind_ok fun j hj => does_refuse hj _
  · exact htake.bind_ok fun j hj => does_pure hj _

theorem expect_of_ne (h : ∀ t ∈ ts.head?, t.kind ≠ kind) :
    expect kind ts = (.error (unexpected kind.title ts), ts) := by
  cases ts with
  | nil => rfl
  | cons t ts => rw [expect, take?, if_neg fun hkind => h t rfl hkind.1]

theorem does_expectFinish (h : Stands all i ts) :
    Does all (Walk.expectFinish all) i (expectFinish ts) := by
  rw [Walk.expectFinish]
  refine (does_look h .finish).bind_ok fun j hj => ?_
  cases ts with
  | nil => exact does_pure hj _
  | cons t ts =>
    have hkind : (t.kind == .finish) = false := beq_eq_false_iff_ne.mpr h.kind_ne
    rw [look_cons_zero, hkind]
    exact does_refuse hj _

/-! ## Expressions -/

/-- Behind a name there is a subscript, or what comes behind them. -/
theorem subscripts_bind_onward (all : List Lexeme) (n m : Nat) (taken : List Expression) :
    (Walk.subscripts all (n + 1) taken >>= Walk.onward all m) = (do
      match ← Walk.take? all .openSquare with
      | none => Walk.onward all m taken
      | some _ =>
        let key ← Walk.expression all n
        let _ ← Walk.expect all .closeSquare
        Walk.subscripts all n (taken ++ [.subscript key]) >>= Walk.onward all m) := by
  rw [Walk.subscripts, bind_assoc]
  congr 1
  funext text
  cases text with
  | none => exact pure_bind _ _
  | some text => simp only [bind_assoc]

/-- What has been read is read for no lookup that waits. -/
theorem does_ended (h : Stands all i ts) (e : Expression) :
    Does all (pure e) i (endExpression [] e ts) := by
  rw [endExpression]
  exact does_pure h e

mutual

/-- An expression is read within a depth of two for each lexeme, since what a bracket opens and what
a point leads on to take a lexeme each, and two more at the end. -/
theorem does_expression {i limit : Nat} {ts : List Lexeme} (h : Stands all i ts)
    (hlimit : 2 * ts.length + 2 ≤ limit) :
    Does all (Walk.expression all limit) i (readExpression ts) := by
  obtain ⟨limit, rfl⟩ := Nat.exists_eq_add_of_le' (by omega : 1 ≤ limit)
  rw [Walk.expression, readExpression]
  refine (does_look h .finish).bind_ok fun j hj => ?_
  rcases hts : ts with _ | ⟨⟨kind, text⟩, rest⟩
  · rw [hts] at hj
    rw [beginExpression]
    exact does_ended hj _
  · have hlength : ts.length = rest.length + 1 := by rw [hts, List.length_cons]
    rw [hts] at h hj
    have hstays {kind' : Kind} (hne : kind ≠ kind') :
        ∀ t ∈ (⟨kind, text⟩ :: rest : List Lexeme).head?, t.kind ≠ kind' := by
      rintro t ⟨⟩
      exact hne
    rw [look_cons_zero, beq_eq_false_iff_ne.mpr h.kind_ne, if_neg Bool.false_ne_true,
      beginExpression.eq_def]
    dsimp only
    split
    · exact (does_take_self hj rfl).bind_ok fun k hk => does_ended hk _
    · refine (does_take_of_ne hj (hstays (by decide))).bind_ok fun k hk => ?_
      refine (does_take_self hk rfl).bind_ok fun l hl => ?_
      cases hvalue : Integer.ofText? text with
      | some n =>
        simp only [hvalue]
        exact does_ended hl _
      | none =>
        simp only [hvalue]
        exact does_throw hl _
    · refine (does_take_of_ne hj (hstays (by decide))).bind_ok fun k hk => ?_
      refine (does_take_of_ne hk (hstays (by decide))).bind_ok fun l hl => ?_
      refine (does_take_self hl rfl).bind_ok fun m hm => ?_
      cases hvalue : Decimal.ofText? text with
      | some d =>
        simp only [hvalue]
        exact does_ended hm _
      | none =>
        simp only [hvalue]
        exact does_throw hm _
    · refine (does_take_of_ne hj (hstays (by decide))).bind_ok fun k hk => ?_
      refine (does_take_of_ne hk (hstays (by decide))).bind_ok fun l hl => ?_
      refine (does_take_of_ne hl (hstays (by decide))).bind_ok fun m hm => ?_
      refine (does_look hm .identifier).bind_ok fun n hn => ?_
      rw [look_cons_zero, BEq.rfl, if_pos rfl]
      obtain ⟨limit, rfl⟩ := Nat.exists_eq_add_of_le' (by omega : 1 ≤ limit)
      rw [Walk.lookup]
      refine (does_take_self hn rfl).bind_ok fun o ho => ?_
      cases hconstant : constant? (String.ofList text) with
      | some value =>
        simp only [List.isEmpty_nil, if_true, hconstant]
        exact does_ended ho _
      | none =>
        simp only [List.isEmpty_nil, if_true, hconstant]
        obtain ⟨limit, rfl⟩ := Nat.exists_eq_add_of_le' (by omega : 1 ≤ limit)
        rw [Walk.behind]
        exact does_subscripts ho (List.cons_ne_nil _ _) (by omega) (by omega)
    · rename_i hstring hinteger hdecimal hidentifier
      refine (does_take_of_ne hj (hstays hstring)).bind_ok fun k hk => ?_
      refine (does_take_of_ne hk (hstays hinteger)).bind_ok fun l hl => ?_
      refine (does_take_of_ne hl (hstays hdecimal)).bind_ok fun m hm => ?_
      refine (does_look hm .identifier).bind_ok fun n hn => ?_
      rw [look_cons_zero, beq_eq_false_iff_ne.mpr hidentifier, if_neg Bool.false_ne_true]
      exact does_refuse hn _
termination_by (ts.length, 1)

/-- The steps behind a name are read in two, subscripts and what comes behind them, each within its
own limit. -/
theorem does_subscripts {i limit limit' : Nat} {ts : List Lexeme} (h : Stands all i ts)
    {taken : List Expression} (hne : taken ≠ []) (hlimit : 2 * ts.length + 1 ≤ limit)
    (hlimit' : 2 * ts.length + 1 ≤ limit') :
    Does all (Walk.subscripts all limit taken >>= Walk.onward all limit') i
      (readSteps [] taken ts) := by
  obtain ⟨limit, rfl⟩ := Nat.exists_eq_add_of_le' (by omega : 1 ≤ limit)
  rw [subscripts_bind_onward]
  rcases head_cases .openSquare ts with ⟨text, rest, hts⟩ | hopen
  · have hlength : ts.length = rest.length + 1 := by rw [hts, List.length_cons]
    rw [hts] at h ⊢
    rw [readSteps_openSquare]
    refine (does_take_self h rfl).bind_ok fun j hj => ?_
    have hkey := does_expression hj (by omega : 2 * rest.length + 2 ≤ limit)
    have hshorter := (readExpression_suffix rest).length_le
    generalize readExpression rest = key at hkey hshorter ⊢
    obtain ⟨e | key, left⟩ := key
    · exact hkey.bind_error
    · refine hkey.bind_ok fun k hk => ?_
      have hclose := does_expect hk .closeSquare
      rcases head_cases .closeSquare left with ⟨close, left, rfl⟩ | hother
      · rw [resume_ok_closeSquare]
        refine hclose.bind_ok fun l hl => ?_
        have hless : left.length < rest.length := hshorter
        exact does_subscripts hl (List.concat_ne_nil _ _) (by omega) (by omega)
      · rw [resume_ok_of_ne _ hother]
        rw [expect_of_ne hother] at hclose
        exact hclose.bind_error
  · refine (does_take_of_ne h hopen).bind_ok fun j hj => ?_
    obtain ⟨limit', rfl⟩ := Nat.exists_eq_add_of_le' (by omega : 1 ≤ limit')
    dsimp only
    rw [Walk.onward]
    rcases head_cases .dot ts with ⟨text, rest, rfl⟩ | hdot
    · refine (does_take_self hj rfl).bind_ok fun k hk => ?_
      rw [List.length_cons] at hlimit'
      obtain ⟨limit', rfl⟩ := Nat.exists_eq_add_of_le' (by omega : 1 ≤ limit')
      dsimp only
      rw [Walk.lookup]
      rcases head_cases .identifier rest with ⟨name, rest, rfl⟩ | hother
      · rw [readSteps_dot_identifier]
        refine (does_take_self hk rfl).bind_ok fun l hl => ?_
        rw [List.length_cons] at hlimit'
        obtain ⟨limit', rfl⟩ := Nat.exists_eq_add_of_le' (by omega : 1 ≤ limit')
        dsimp only
        rw [List.isEmpty_eq_false_iff.mpr hne, if_neg Bool.false_ne_true, Walk.behind]
        exact does_subscripts hl (List.concat_ne_nil _ _) (by omega) (by omega)
      · rw [readSteps_dot_of_ne _ _ hother]
        refine (does_take_of_ne hk hother).bind_ok fun l hl => ?_
        exact does_pure hl _
    · rw [readSteps_of_ne _ fun t ht => ⟨hopen t ht, hdot t ht⟩]
      refine (does_take_of_ne hj hdot).bind_ok fun k hk => ?_
      exact does_pure hk _
termination_by (ts.length, 0)

end

/-! ## Conditions -/

theorem does_comparison {limit : Nat} (h : Stands all i ts) (hlimit : 2 * ts.length + 2 ≤ limit) :
    Does all (Walk.comparison all limit) i (readComparison ts) := by
  have hleft := does_expression h hlimit
  have hshorter := (readExpression_suffix ts).length_le
  rw [Walk.comparison]
  unfold readComparison
  split
  · rename_i heq
    rw [heq] at hleft
    exact hleft.bind_error
  · rename_i left symbol rest heq
    rw [heq] at hleft hshorter
    rw [List.length_cons] at hshorter
    refine hleft.bind_ok fun j hj => ?_
    refine (does_take_self hj rfl).bind_ok fun k hk => ?_
    cases hsymbol : Operator.ofSymbol? (String.ofList symbol) with
    | none =>
      simp only [hsymbol]
      exact does_throw hk _
    | some operator =>
      have hright := does_expression hk (by omega : 2 * rest.length + 2 ≤ limit)
      simp only [hsymbol]
      split
      · rename_i heq
        rw [heq] at hright
        exact hright.bind_error
      · rename_i heq
        rw [heq] at hright
        exact hright.bind_ok fun l hl => does_pure hl _
  · rename_i left rest hnot heq
    rw [heq] at hleft
    refine hleft.bind_ok fun j hj => ?_
    have hother : ∀ t ∈ rest.head?, t.kind ≠ .comparison := head_ne hnot
    exact (does_take_of_ne hj hother).bind_ok fun k hk => does_pure hk _

/-- A connective is taken as the word that it is. -/
theorem takeConnective?_eq (ts : List Lexeme) :
    takeConnective? ts =
      if lookWord "and" ts then some (.and, ts.drop 1)
      else if lookWord "or" ts then some (.or, ts.drop 1) else none := by
  have hword (word : String) (text : List Char) (rest : List Lexeme) :
      (lookWord word (⟨.identifier, text⟩ :: rest) = true) = (text = word.toList) :=
    propext beq_iff_eq
  unfold takeConnective?
  split
  · simp only [hword, List.drop_one, List.tail_cons]
  · rename_i hother
    have hnot (word : String) : lookWord word ts = false := by
      cases ts with
      | nil => rfl
      | cons t rest => rw [lookWord, beq_eq_false_iff_ne.mpr (head_ne hother t rfl), Bool.false_and]
    simp only [hnot, if_neg Bool.false_ne_true]

theorem does_connective (h : Stands all i ts) :
    Does all (connective? all) i
      (.ok ((takeConnective? ts).map (·.1)), ((takeConnective? ts).map (·.2)).getD ts) := by
  have hand := does_takeWord h "and"
  rw [connective?, takeConnective?_eq]
  rw [takeWord?] at hand
  split at hand
  · rename_i hword
    rw [if_pos hword]
    exact hand.bind_ok fun j hj => does_pure hj _
  · rename_i hword
    rw [if_neg hword]
    refine hand.bind_ok fun j hj => ?_
    have hor := does_takeWord hj "or"
    rw [takeWord?] at hor
    split at hor
    · rename_i hword
      rw [if_pos hword]
      exact hor.bind_ok fun k hk => does_pure hk _
    · rename_i hword
      rw [if_neg hword]
      exact hor.bind_ok fun k hk => does_pure hk _

/-- Behind a connective the conditions go on. -/
theorem does_condition_of_linked {behind : List Lexeme} {test : Comparison}
    {connective : Connective} {r : Reading Condition} {limit : Nat} (h : Stands all i ts)
    (hlimit : 2 * ts.length + 2 ≤ limit) (htest : readComparison ts = (.ok test, behind))
    (hsome : takeConnective? behind = some (connective, rest))
    (hnext : ∀ j, Stands all j rest → rest.length < ts.length →
      Does all (Walk.condition all limit) j r) :
    Does all (Walk.condition all (limit + 1)) i (r.1.map (.linked test connective), r.2) := by
  have hread := does_comparison h hlimit
  have hshorter := (readComparison_suffix ts).length_le
  rw [htest] at hread hshorter
  have hless := takeConnective?_length_lt hsome
  rw [Walk.condition]
  refine hread.bind_ok fun j hj => ?_
  have hlink := does_connective hj
  rw [hsome] at hlink
  exact hlink.bind_ok fun k hk => (hnext k hk (Nat.lt_of_lt_of_le hless hshorter)).map _

theorem does_condition {limit : Nat} (h : Stands all i ts) (hlimit : 2 * ts.length + 3 ≤ limit) :
    Does all (Walk.condition all limit) i (readCondition ts) := by
  obtain ⟨limit, rfl⟩ := Nat.exists_eq_add_of_le' (by omega : 1 ≤ limit)
  fun_induction readCondition ts generalizing i limit with
  | case1 ts e rest heq =>
    have hread := does_comparison h (by omega : 2 * ts.length + 2 ≤ limit)
    rw [heq] at hread
    rw [Walk.condition]
    exact hread.bind_error
  | case2 ts test rest heq hnone =>
    have hread := does_comparison h (by omega : 2 * ts.length + 2 ≤ limit)
    rw [heq] at hread
    rw [Walk.condition]
    refine hread.bind_ok fun j hj => ?_
    have hlink := does_connective hj
    rw [hnone] at hlink
    exact hlink.bind_ok fun k hk => does_pure hk _
  | case3 ts test behind heq connective rest hsome e left hnext ih =>
    obtain ⟨limit, rfl⟩ := Nat.exists_eq_add_of_le' (by omega : 1 ≤ limit)
    have hlinked := does_condition_of_linked h (by omega) heq hsome fun j hj hless =>
      ih hj limit (by omega)
    rwa [hnext] at hlinked
  | case4 ts test behind heq connective rest hsome next left hnext ih =>
    obtain ⟨limit, rfl⟩ := Nat.exists_eq_add_of_le' (by omega : 1 ≤ limit)
    have hlinked := does_condition_of_linked h (by omega) heq hsome fun j hj hless =>
      ih hj limit (by omega)
    rwa [hnext] at hlinked

/-! ## Pipelines -/

theorem exists_of_look {skip : Nat} (h : look kind skip ts = true) (hne : kind ≠ .finish) :
    ∃ text, ts[skip]? = some ⟨kind, text⟩ := by
  unfold look at h
  split at h
  · rename_i t hlexeme
    exact ⟨t.text, by rw [hlexeme, ← beq_iff_eq.mp h]⟩
  · rw [beq_eq_false_iff_ne.mpr hne, Bool.false_and] at h
    cases h

/-- A name and a colon are seen when they stand there. -/
theorem look_name_colon (name colon : List Char) (rest : List Lexeme) :
    (look .identifier 0 (⟨.identifier, name⟩ :: ⟨.colon, colon⟩ :: rest) &&
      look .colon 1 (⟨.identifier, name⟩ :: ⟨.colon, colon⟩ :: rest)) = true := rfl

/-- A colon is looked for behind a name only, so the look ahead stays within the lexemes. -/
theorem does_lookNamed (h : Stands all i ts) :
    Does all (Walk.look all .identifier 0 <&&> Walk.look all .colon 1) i
      (.ok (look .identifier 0 ts && look .colon 1 ts), ts) := by
  refine (does_look h .identifier).bind_ok fun j hj => ?_
  cases hfirst : look .identifier 0 ts with
  | false => exact does_pure hj false
  | true =>
    obtain ⟨name, hname⟩ := exists_of_look hfirst (by decide)
    match ts, hname with
    | _ :: _, rfl => exact does_lookSecond hj .colon

theorem does_argument {limit : Nat} (h : Stands all i ts) (hlimit : 2 * ts.length + 2 ≤ limit) :
    Does all (Walk.argument all limit) i (readArgument ts) := by
  rw [Walk.argument]
  unfold readArgument
  split
  · rename_i name colon rest
    refine (does_lookNamed h).bind_ok fun k hk => ?_
    rw [if_pos (look_name_colon name colon rest)]
    refine (does_expect hk .identifier).bind_ok fun l hl => ?_
    refine (does_expect hl .colon).bind_ok fun m hm => ?_
    rw [List.length_cons, List.length_cons] at hlimit
    exact (does_expression hm (by omega)).map _
  · rename_i hother
    refine (does_lookNamed h).bind_ok fun k hk => ?_
    have hnot : ¬(look .identifier 0 ts && look .colon 1 ts) = true := by
      intro hnamed
      obtain ⟨hfirst, hsecond⟩ := Bool.and_eq_true_iff.mp hnamed
      obtain ⟨name, hfirst⟩ := exists_of_look hfirst (by decide)
      obtain ⟨colon, hsecond⟩ := exists_of_look hsecond (by decide)
      match ts, hfirst, hsecond with
      | _ :: _ :: rest, rfl, rfl => exact hother name colon rest rfl
    rw [if_neg hnot]
    exact (does_expression hk hlimit).map _

theorem does_arguments {limit : Nat} (h : Stands all i ts) (hlimit : 2 * ts.length + 3 ≤ limit)
    (call : FilterCall) : Does all (Walk.arguments all limit call) i (readArguments call ts) := by
  obtain ⟨limit, rfl⟩ := Nat.exists_eq_add_of_le' (by omega : 1 ≤ limit)
  fun_induction readArguments call ts generalizing i limit with
  | case1 call ts e rest heq =>
    have hread := does_argument h (by omega : 2 * ts.length + 2 ≤ limit)
    rw [heq] at hread
    rw [Walk.arguments]
    exact hread.bind_error
  | case2 call ts a comma rest heq ih =>
    have hread := does_argument h (by omega : 2 * ts.length + 2 ≤ limit)
    have hshorter := (readArgument_suffix ts).length_le
    rw [heq] at hread hshorter
    rw [List.length_cons] at hshorter
    rw [Walk.arguments]
    refine hread.bind_ok fun j hj => ?_
    refine (does_take_self hj rfl).bind_ok fun k hk => ?_
    obtain ⟨limit, rfl⟩ := Nat.exists_eq_add_of_le' (by omega : 1 ≤ limit)
    exact ih hk limit (by omega)
  | case3 call ts a rest hnot heq =>
    have hread := does_argument h (by omega : 2 * ts.length + 2 ≤ limit)
    rw [heq] at hread
    rw [Walk.arguments]
    refine hread.bind_ok fun j hj => ?_
    have hother : ∀ t ∈ rest.head?, t.kind ≠ .comma := head_ne hnot
    exact (does_take_of_ne hj hother).bind_ok fun k hk => does_pure hk _

theorem does_filter {limit : Nat} (h : Stands all i ts) (hlimit : 2 * ts.length + 3 ≤ limit) :
    Does all (Walk.filter all limit) i (readFilter ts) := by
  rw [Walk.filter]
  have hname := does_expect h .identifier
  unfold readFilter
  split
  · refine hname.bind_ok fun j hj => ?_
    rw [List.length_cons, List.length_cons] at hlimit
    exact (does_take_self hj rfl).bind_ok fun k hk => does_arguments hk (by omega) _
  · rename_i name rest hnot
    refine hname.bind_ok fun j hj => ?_
    have hother : ∀ t ∈ rest.head?, t.kind ≠ .colon := head_ne hnot
    exact (does_take_of_ne hj hother).bind_ok fun k hk => does_pure hk _
  · rename_i hnot
    have hother : ∀ t ∈ ts.head?, t.kind ≠ .identifier := head_ne hnot
    rw [expect_of_ne hother] at hname
    exact hname.bind_error

theorem does_filters {limit : Nat} (h : Stands all i ts) (hlimit : 2 * ts.length + 2 ≤ limit)
    (calls : List FilterCall) :
    Does all (Walk.filters all limit calls) i (readFilters calls ts) := by
  obtain ⟨limit, rfl⟩ := Nat.exists_eq_add_of_le' (by omega : 1 ≤ limit)
  fun_induction readFilters calls ts generalizing i limit with
  | case1 calls pipe rest e left heq =>
    rw [Walk.filters]
    refine (does_take_self h rfl).bind_ok fun j hj => ?_
    rw [List.length_cons] at hlimit
    have hcall := does_filter hj (by omega : 2 * rest.length + 3 ≤ limit)
    rw [heq] at hcall
    exact hcall.bind_error
  | case2 calls pipe rest call left heq ih =>
    rw [Walk.filters]
    refine (does_take_self h rfl).bind_ok fun j hj => ?_
    rw [List.length_cons] at hlimit
    have hcall := does_filter hj (by omega : 2 * rest.length + 3 ≤ limit)
    have hshorter := (readFilter_suffix rest).length_le
    rw [heq] at hcall hshorter
    dsimp only at hshorter
    refine hcall.bind_ok fun k hk => ?_
    obtain ⟨limit, rfl⟩ := Nat.exists_eq_add_of_le' (by omega : 1 ≤ limit)
    exact ih hk limit (by omega)
  | case3 calls ts hnot =>
    have hother : ∀ t ∈ ts.head?, t.kind ≠ .pipe := head_ne hnot
    rw [Walk.filters]
    exact (does_take_of_ne h hother).bind_ok fun j hj => does_pure hj _

theorem does_pipeline {limit : Nat} (h : Stands all i ts) (hlimit : 2 * ts.length + 2 ≤ limit) :
    Does all (Walk.pipeline all limit) i (readPipeline ts) := by
  have hsource := does_expression h hlimit
  have hshorter := (readExpression_suffix ts).length_le
  rw [Walk.pipeline]
  unfold readPipeline
  split
  · rename_i heq
    rw [heq] at hsource
    exact hsource.bind_error
  · rename_i heq
    rw [heq] at hsource hshorter
    dsimp only at hshorter
    refine hsource.bind_ok fun j hj => ?_
    exact (does_filters hj (by omega) []).map _

end Stencil.Markup
