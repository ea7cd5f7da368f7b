import Stencil.Proofs.Markup.Indices

/-!
# Calls one after another

A program makes calls on the lexemes of a markup as it likes, one after another, and goes on behind
calls that failed in the middle of something.

* `Call`, `run` — the calls there are, and what they do one after another
* `Step.Sound` — what a call may do to the index
* `calls_within` — the index stays within the lexemes, and every call comes to an end
-/

namespace Stencil.Markup

variable {ts : List Lexeme} {i : Nat}

/-! ## What is left behind a refusal -/

theorem take?_of_none {kind : Kind} (h : (take? kind ts).1 = none) : (take? kind ts).2 = ts := by
  cases ts with
  | nil => rfl
  | cons t ts =>
    rw [take?] at h ⊢
    split at h
    · cases h
    · rename_i hkind
      rw [if_neg hkind]

theorem takeWord?_of_false {word : String} (h : (takeWord? word ts).1 = false) :
    (takeWord? word ts).2 = ts := by
  rw [takeWord?] at h ⊢
  split at h
  · cases h
  · rename_i hword
    rw [if_neg hword]

theorem expect_of_error {kind : Kind} {e : SyntaxError} (h : (expect kind ts).1 = .error e) :
    (expect kind ts).2 = ts := by
  rw [expect] at h ⊢
  split at h
  · cases h
  · rename_i rest htake
    have hstays := take?_of_none (congrArg Prod.fst htake)
    rw [htake] at hstays
    exact hstays

/-! ## Calls -/

/-- A call that a program can make. -/
inductive Call where
  | look (kind : Kind) (skip : UInt64)
  | lookWord (word : String)
  | take (kind : Kind)
  | takeWord (word : String)
  | expect (kind : Kind)
  | expectFinish
  | atFinish
  | expression
  | comparison
  | condition
  | pipeline

namespace Call

/-- What a call gives when it does not fail. -/
def Reply : Call → Type
  | look _ _ | lookWord _ | takeWord _ | atFinish => Bool
  | take _ => Option (List Char)
  | expect _ => List Char
  | expectFinish => Unit
  | expression => Expression
  | comparison => Comparison
  | condition => Condition
  | pipeline => Pipeline

/-- A call at an index. -/
def walk (all : List Lexeme) (limit : Nat) : (call : Call) → Walk call.Reply
  | look kind skip => Walk.look all kind skip
  | lookWord word => Walk.lookWord all word
  | take kind => Walk.take? all kind
  | takeWord word => Walk.takeWord? all word
  | expect kind => Walk.expect all kind
  | expectFinish => Walk.expectFinish all
  | atFinish => Walk.look all .finish 0
  | expression => Walk.expression all limit
  | comparison => Walk.comparison all limit
  | condition => Walk.condition all limit
  | pipeline => Walk.pipeline all limit

/-- A call on the lexemes that are left. -/
def read : (call : Call) → List Lexeme → Reading call.Reply
  | look kind skip => fun ts => (.ok (Markup.look kind skip.toNat ts), ts)
  | lookWord word => fun ts => (.ok (Markup.lookWord word ts), ts)
  | take kind => fun ts => (.ok (take? kind ts).1, (take? kind ts).2)
  | takeWord word => fun ts => (.ok (takeWord? word ts).1, (takeWord? word ts).2)
  | expect kind => Markup.expect kind
  | expectFinish => Markup.expectFinish
  | atFinish => fun ts => (.ok (Markup.look .finish 0 ts), ts)
  | expression => readExpression
  | comparison => readComparison
  | condition => readCondition
  | pipeline => readPipeline

/-- Whether the place that a call looks at is counted without wrapping around. -/
def Fits (i : Nat) : Call → Prop
  | look _ skip => i + skip.toNat < UInt64.size
  | _ => True

/-- Whether a call only looks. -/
def Looks : Call → Prop
  | look _ _ | lookWord _ | atFinish | expectFinish => True
  | _ => False

/-- Whether a call that takes or demands one lexeme did not get it. -/
def Refused : (call : Call) → Except SyntaxError call.Reply → Prop
  | take _, .ok none => True
  | takeWord _, .ok false => True
  | expect _, .error _ => True
  | expectFinish, .error _ => True
  | _, _ => False

theorem eq_none_of_refused {kind : Kind} {text : Option (List Char)}
    (h : Refused (.take kind) (.ok text)) : text = none := by
  cases text with
  | none => rfl
  | some text => cases h

theorem eq_false_of_refused {word : String} {found : Bool}
    (h : Refused (.takeWord word) (.ok found)) : found = false := by
  cases found with
  | false => rfl
  | true => cases h

theorem exists_error_of_refused {kind : Kind} {reply : Except SyntaxError (List Char)}
    (h : Refused (.expect kind) reply) : ∃ e, reply = .error e := by
  cases reply with
  | error e => exact ⟨e, rfl⟩
  | ok text => cases h

theorem does {all : List Lexeme} {limit : Nat} (h : Stands all i ts)
    (hlimit : 2 * ts.length + 3 ≤ limit) {call : Call} (hfits : call.Fits i) :
    Does all (call.walk all limit) i (call.read ts) := by
  cases call with
  | look kind skip => exact does_lookAhead h kind (Nat.lt_of_lt_of_le hfits (Nat.le_max_right ..))
  | lookWord word => exact does_lookWord h word
  | take kind => exact does_take h kind
  | takeWord word => exact does_takeWord h word
  | expect kind => exact does_expect h kind
  | expectFinish => exact does_expectFinish h
  | atFinish => exact does_look h .finish
  | expression => exact does_expression h (by omega)
  | comparison => exact does_comparison h (by omega)
  | condition => exact does_condition h hlimit
  | pipeline => exact does_pipeline h (by omega)

/-- A call that did not get its lexeme takes none. -/
theorem read_of_refused {call : Call} (h : call.Refused (call.read ts).1) :
    (call.read ts).2 = ts := by
  cases call with
  | take kind => exact take?_of_none (eq_none_of_refused h)
  | takeWord word => exact takeWord?_of_false (eq_false_of_refused h)
  | expect kind =>
    obtain ⟨e, he⟩ := exists_error_of_refused h
    exact expect_of_error he
  | expectFinish =>
    cases ts with
    | nil => rfl
    | cons t ts => rfl
  | _ => cases h

/-- A call that only looks leaves all lexemes. -/
theorem read_of_looks {call : Call} (h : call.Looks) : (call.read ts).2 = ts := by
  cases call with
  | look kind skip => rfl
  | lookWord word => rfl
  | atFinish => rfl
  | expectFinish => cases ts <;> rfl
  | _ => cases h

/-- A call whose place wraps around looks somewhere else, but it looks. -/
theorem exists_walk_of_not_fits {call : Call} (h : ¬call.Fits i) (all : List Lexeme) :
    call.Looks ∧ ∃ reply, ∀ limit, call.walk all limit i = some (reply, i) := by
  cases call with
  | look kind skip => exact ⟨trivial, .ok _, fun _ => rfl⟩
  | _ => exact absurd trivial h

end Call

/-- A call at an index, with what it came to and the index behind it. -/
structure Step where
  call : Call
  start : Nat
  reply : Except SyntaxError call.Reply
  stop : Nat

/-- Makes calls one after another, each at the index that the one in front of it left, also when
that one failed. -/
def run (all : List Lexeme) (limit : Nat) : Nat → List Call → Option (List Step)
  | _, [] => some []
  | i, call :: calls => do
    let (reply, j) ← call.walk all limit i
    return ⟨call, i, reply, j⟩ :: (← run all limit j calls)

/-- What a call does to the index when the lexemes of the markup are `ts`, behind which there is the
end at the index `ts.length`. -/
structure Step.Sound (ts : List Lexeme) (s : Step) : Prop where
  forward : s.start ≤ s.stop
  within : s.stop ≤ ts.length
  reading : s.call.Fits s.start → s.call.read (ts.drop s.start) = (s.reply, ts.drop s.stop)
  looks : s.call.Looks → s.stop = s.start
  refused : s.call.Refused s.reply → s.stop = s.start
  consumes : s.call = .expression → s.reply.isOk → s.start < ts.length → s.start < s.stop

/-- An expression in front of the end takes a lexeme. -/
theorem length_lt_of_isOk (hok : (readExpression ts).1.isOk) (hne : ts ≠ []) :
    (readExpression ts).2.length < ts.length := by
  cases hread : readExpression ts with
  | mk reply rest =>
    rw [hread] at hok
    cases reply with
    | error e => cases hok
    | ok e => exact readExpression_consumes hread hne

/-- A call within the lexemes comes to an end, the same at any limit that is high enough, and does
to the index what it may. -/
theorem exists_step (hkinds : ∀ t ∈ ts, t.kind ≠ .finish) (hi : i ≤ ts.length) (call : Call) :
    ∃ reply j, (∀ limit, 2 * ts.length + 3 ≤ limit →
        call.walk (ts ++ [finish]) limit i = some (reply, j)) ∧
      (⟨call, i, reply, j⟩ : Step).Sound ts := by
  by_cases hfits : call.Fits i
  · have hstart := stands_drop hkinds hi
    have hlength := hstart.length
    rw [List.length_append, List.length_singleton] at hlength
    -- Where a call stops is told by what it leaves.
    have hdoes (limit : Nat) (hlimit : 2 * ts.length + 3 ≤ limit) :
        call.walk (ts ++ [finish]) limit i =
            some ((call.read (ts.drop i)).1, ts.length - (call.read (ts.drop i)).2.length) ∧
          i ≤ ts.length - (call.read (ts.drop i)).2.length ∧
          Stands (ts ++ [finish]) (ts.length - (call.read (ts.drop i)).2.length)
            (call.read (ts.drop i)).2 := by
      obtain ⟨j, hwalk, hforward, hstop⟩ := Call.does hstart (by omega : _ ≤ limit) hfits
      have hlength' := hstop.length
      rw [List.length_append, List.length_singleton] at hlength'
      obtain rfl : j = ts.length - (call.read (ts.drop i)).2.length := by omega
      exact ⟨hwalk, hforward, hstop⟩
    have hstays (hsame : (call.read (ts.drop i)).2 = ts.drop i) :
        ts.length - (call.read (ts.drop i)).2.length = i := by
      rw [hsame]
      omega
    obtain ⟨-, hforward, hstop⟩ := hdoes _ (Nat.le_refl _)
    obtain ⟨hwithin, hrest⟩ := hstop.eq_drop
    refine ⟨_, _, fun limit hlimit => (hdoes limit hlimit).1, hforward, hwithin, fun _ => ?_,
      fun hlooks => hstays (Call.read_of_looks hlooks),
      fun hrefused => hstays (Call.read_of_refused hrefused), ?_⟩
    · rw [← hrest]
    · rintro rfl hok hbefore
      have hne : ts.drop i ≠ [] := fun hnil =>
        Nat.not_le.mpr hbefore (List.drop_eq_nil_iff.mp hnil)
      have hless := length_lt_of_isOk hok hne
      show i < ts.length - (readExpression (ts.drop i)).2.length
      omega
  · obtain ⟨hlooks, reply, hwalk⟩ := Call.exists_walk_of_not_fits hfits (ts ++ [finish])
    refine ⟨reply, i, fun limit _ => hwalk limit, Nat.le_refl i, hi, fun h => absurd h hfits,
      fun _ => rfl, fun _ => rfl, ?_⟩
    rintro rfl
    cases hlooks

/-- Every step begins where the one in front of it stopped. -/
def Linked : Nat → List Step → Prop
  | _, [] => True
  | i, s :: steps => s.start = i ∧ Linked s.stop steps

theorem exists_run (hkinds : ∀ t ∈ ts, t.kind ≠ .finish) (calls : List Call)
    (hi : i ≤ ts.length) :
    ∃ steps, (∀ limit, 2 * ts.length + 3 ≤ limit →
        run (ts ++ [finish]) limit i calls = some steps) ∧
      steps.map (·.call) = calls ∧ Linked i steps ∧ ∀ s ∈ steps, s.Sound ts := by
  induction calls generalizing i with
  | nil => exact ⟨[], fun _ _ => rfl, rfl, trivial, List.forall_mem_nil _⟩
  | cons call calls ih =>
    obtain ⟨reply, j, hwalk, hsound⟩ := exists_step hkinds hi call
    obtain ⟨steps, hrun, hcalls, hlinked, hsteps⟩ := ih hsound.within
    refine ⟨⟨call, i, reply, j⟩ :: steps, ?_, ?_, ⟨rfl, hlinked⟩, ?_⟩
    · intro limit hlimit
      rw [run, hwalk limit hlimit]
      show (run (ts ++ [finish]) limit j calls).bind _ = _
      rw [hrun limit hlimit]
      rfl
    · rw [List.map_cons, hcalls]
    · exact List.forall_mem_cons.mpr ⟨hsound, hsteps⟩

/--
**The index stays within the lexemes.** Calls are made one after another on the lexemes of a markup,
with the end behind them, as a program likes, and also behind calls that failed. All calls come to
an end, with a depth of calls and turns of loops that is linear in the number of lexemes; no index
is out of range and the end is not passed. The index never moves back, it stays where it was when a
call only looks, however far ahead, or when a lexeme that was asked for is not there, and it moves
on when an expression is read in front of the end.
-/
theorem calls_within {markup : List Char} {ts : List Lexeme} (h : lex markup = .ok ts)
    (calls : List Call) :
    (∀ t ∈ ts, t.kind ≠ .finish) ∧
      ∃ steps, (∀ limit, 2 * ts.length + 3 ≤ limit →
          run (ts ++ [finish]) limit 0 calls = some steps) ∧
        steps.map (·.call) = calls ∧ Linked 0 steps ∧ ∀ s ∈ steps, s.Sound ts := by
  have hkinds (t : Lexeme) (ht : t ∈ ts) : t.kind ≠ .finish :=
    (isLexeme_of_mem_lex h t ht).kind_ne_finish
  exact ⟨hkinds, exists_run hkinds calls (Nat.zero_le _)⟩

/-- Lexemes among which a bracket is not closed. -/
def unclosed : List Lexeme :=
  [⟨.identifier, ['a']⟩, ⟨.openSquare, ['[']⟩, ⟨.identifier, ['b']⟩, ⟨.pipe, ['|']⟩,
    ⟨.identifier, ['c']⟩]

theorem calls_within_unclosed :
    lex "a[b | c".toList = .ok unclosed ∧
      ∃ steps, run (unclosed ++ [finish]) 13 0
          [.expression, .take .closeSquare, .look .pipe (-1), .expect .pipe, .pipeline,
           .expression] = some steps ∧
        steps.length = 6 ∧ Linked 0 steps ∧ ∀ s ∈ steps, s.Sound unclosed := by
  have hlex : lex "a[b | c".toList = .ok unclosed := rfl
  obtain ⟨-, steps, hrun, hcalls, hlinked, hsound⟩ := calls_within hlex
    [.expression, .take .closeSquare, .look .pipe (-1), .expect .pipe, .pipeline, .expression]
  have hlength := congrArg List.length hcalls
  rw [List.length_map] at hlength
  exact ⟨hlex, steps, hrun 13 (by decide), hlength, hlinked, hsound⟩

end Stencil.Markup
