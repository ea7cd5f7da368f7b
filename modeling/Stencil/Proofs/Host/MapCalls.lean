import Stencil.Host.Datum
import Stencil.Proofs.Bindings

/-!
# Maps that are handed over by calls

A map may be handed over by calls for keys and for values in any order. A value goes under the
latest key, and it needs a key that no other value has taken; a key that no value follows leaves
nothing behind.

* `Offends` — what is wrong with a call, by the calls before it
* `Holds` — what the calls bind a key to
* `Reached.afterKey`, `Reached.afterValue` — what one call does
* `map_of_calls` — the calls that make a map, what is in it, and the error of all others
-/

namespace Stencil.Host

/-! ## Calls before others -/

/-- A call that was added is the one that is looked at, or it comes behind that. -/
theorem eq_or_of_append_singleton {α : Type} {xs before after : List α} {x y : α}
    (h : xs ++ [x] = before ++ y :: after) :
    (before = xs ∧ y = x ∧ after = []) ∨
      ∃ rest, xs = before ++ y :: rest ∧ after = rest ++ [x] := by
  rcases List.eq_nil_or_concat after with rfl | ⟨rest, z, rfl⟩
  · obtain ⟨hxs, hx⟩ := List.append_inj' h rfl
    exact .inl ⟨hxs.symm, (List.singleton_inj.mp hx).symm, rfl⟩
  · rw [List.concat_eq_append, ← List.cons_append, ← List.append_assoc] at h
    obtain ⟨hxs, hx⟩ := List.append_inj' h rfl
    rw [List.singleton_inj.mp hx]
    exact .inr ⟨rest, hxs, List.concat_eq_append⟩

/-- The latest key before a call. -/
def LatestKey (before : List MapCall) (d : Datum) : Prop :=
  ∃ earlier since, before = earlier ++ .key d :: since ∧ ∀ d', .key d' ∉ since

/-- There is a key that no value has taken. -/
def KeyWaits (before : List MapCall) : Prop :=
  ∃ earlier d since, before = earlier ++ .key d :: since ∧ ∀ d', .value d' ∉ since

/-- The text under which a value goes. -/
def GoesUnder (before : List MapCall) (name : String) : Prop :=
  ∃ d, LatestKey before d ∧ d.value? = .ok (.string name)

/-- What is wrong with a call behind others. -/
inductive Offends (before : List MapCall) : MapCall → ConversionError → Prop where
  | key {d : Datum} {e : ConversionError} (h : d.value? = .error e) : Offends before (.key d) e
  | notAString {d : Datum} {v : Value} (h : d.value? = .ok v) (hv : ∀ s, v ≠ .string s) :
    Offends before (.key d) (.keyNotAString v.inspect)
  | value {d : Datum} {e : ConversionError} (h : d.value? = .error e) : Offends before (.value d) e
  | missingKey {d : Datum} {v : Value} (h : d.value? = .ok v) (hkey : ¬ KeyWaits before) :
    Offends before (.value d) .missingKey

/-- Nothing is wrong with any of the calls. -/
def Clean (steps : List MapCall) : Prop :=
  ∀ before call after, steps = before ++ call :: after → ∀ e, ¬ Offends before call e

/-- The calls bind a name to a value: the last value that goes under it is this one. -/
def Holds (steps : List MapCall) (name : String) (v : Value) : Prop :=
  ∃ before d after, steps = before ++ .value d :: after ∧
    (GoesUnder before name ∧ d.value? = .ok v) ∧
    ∀ later d' rest, after = later ++ .value d' :: rest →
      ¬ GoesUnder (before ++ .value d :: later) name

section Steps

variable {before : List MapCall} {d d' : Datum} {name : String} {v : Value}

theorem latestKey_key : LatestKey (before ++ [.key d]) d' ↔ d' = d := by
  constructor
  · rintro ⟨earlier, since, heq, hsince⟩
    rcases eq_or_of_append_singleton heq with ⟨-, hd, -⟩ | ⟨rest, -, rfl⟩
    · exact MapCall.key.inj hd
    · exact absurd (List.mem_append_right _ List.mem_cons_self) (hsince d)
  · rintro rfl
    exact ⟨before, [], rfl, fun _ => List.not_mem_nil⟩

theorem keyWaits_key : KeyWaits (before ++ [.key d]) :=
  ⟨before, d, [], rfl, fun _ => List.not_mem_nil⟩

theorem not_keyWaits_value : ¬ KeyWaits (before ++ [.value d]) := by
  rintro ⟨earlier, k, since, heq, hsince⟩
  rcases eq_or_of_append_singleton heq with ⟨-, hd, -⟩ | ⟨rest, -, rfl⟩
  · cases hd
  · exact hsince d (List.mem_append_right _ List.mem_cons_self)

theorem holds_key : Holds (before ++ [.key d]) name v ↔ Holds before name v := by
  constructor
  · rintro ⟨front, d', after, heq, hbound, hlast⟩
    rcases eq_or_of_append_singleton heq with ⟨-, hd, -⟩ | ⟨rest, rfl, rfl⟩
    · cases hd
    · refine ⟨front, d', rest, rfl, hbound, fun later d'' rest' hrest => ?_⟩
      exact hlast later d'' (rest' ++ [.key d]) (by rw [hrest, List.append_assoc, List.cons_append])
  · rintro ⟨front, d', after, rfl, hbound, hlast⟩
    refine ⟨front, d', after ++ [.key d], List.append_assoc .., hbound, ?_⟩
    intro later d'' rest' hrest
    rcases eq_or_of_append_singleton hrest with ⟨-, hd, -⟩ | ⟨rest, hafter, -⟩
    · cases hd
    · exact hlast later d'' rest hafter

/-- A value goes under its name, in place of what was there. -/
theorem holds_value :
    Holds (before ++ [.value d]) name v ↔
      (GoesUnder before name ∧ d.value? = .ok v) ∨
        (¬ GoesUnder before name ∧ Holds before name v) := by
  constructor
  · rintro ⟨front, d', after, heq, hbound, hlast⟩
    rcases eq_or_of_append_singleton heq with ⟨rfl, hd, -⟩ | ⟨rest, rfl, rfl⟩
    · cases hd
      exact .inl hbound
    · refine .inr ⟨hlast rest d [] rfl, front, d', rest, rfl, hbound,
        fun later d'' rest' hrest => ?_⟩
      exact hlast later d'' (rest' ++ [.value d])
        (by rw [hrest, List.append_assoc, List.cons_append])
  · rintro (hbound | ⟨hother, front, d', after, rfl, hbound, hlast⟩)
    · exact ⟨before, d, [], rfl, hbound, fun later d' rest hrest => by simp at hrest⟩
    · refine ⟨front, d', after ++ [.value d], List.append_assoc .., hbound, ?_⟩
      intro later d'' rest' hrest
      rcases eq_or_of_append_singleton hrest with ⟨rfl, -, -⟩ | ⟨rest, hafter, -⟩
      · exact hother
      · exact hlast later d'' rest hafter

theorem holds_nil : ¬ Holds [] name v := by
  rintro ⟨front, d, after, heq, -⟩
  simp at heq

end Steps

/-! ## Offences -/

section Offences

variable {before steps : List MapCall} {call : MapCall} {d : Datum} {e e' : ConversionError}

theorem exists_offends_key_iff :
    (∃ e, Offends before (.key d) e) ↔ ∀ s, d.value? ≠ .ok (.string s) := by
  constructor
  · rintro ⟨e, hoffends⟩ s hs
    cases hoffends with
    | key h => cases h.symm.trans hs
    | notAString h hv => exact hv s (Except.ok.inj (h.symm.trans hs))
  · intro h
    cases hd : d.value? with
    | error e => exact ⟨e, .key hd⟩
    | ok v => exact ⟨_, .notAString hd fun s hs => h s (by rw [hd, hs])⟩

theorem exists_offends_value_iff :
    (∃ e, Offends before (.value d) e) ↔ ¬ ((∃ v, d.value? = .ok v) ∧ KeyWaits before) := by
  constructor
  · rintro ⟨e, hoffends⟩ ⟨⟨v, hv⟩, hwaits⟩
    cases hoffends with
    | value h => cases h.symm.trans hv
    | missingKey h hkey => exact hkey hwaits
  · intro h
    cases hd : d.value? with
    | error e => exact ⟨e, .value hd⟩
    | ok v => exact ⟨_, .missingKey hd fun hwaits => h ⟨⟨v, hd⟩, hwaits⟩⟩

/-- A call is wrong for one reason. -/
theorem Offends.unique (h : Offends before call e) (h' : Offends before call e') : e = e' := by
  cases h with
  | key h =>
    cases h' with
    | key h' => exact Except.error.inj (h.symm.trans h')
    | notAString h' => cases h.symm.trans h'
  | notAString h =>
    cases h' with
    | key h' => cases h.symm.trans h'
    | notAString h' => rw [Except.ok.inj (h.symm.trans h')]
  | value h =>
    cases h' with
    | value h' => exact Except.error.inj (h.symm.trans h')
    | missingKey h' => cases h.symm.trans h'
  | missingKey h =>
    cases h' with
    | value h' => cases h.symm.trans h'
    | missingKey => rfl

/-- The first of the calls with which something is wrong is wrong for this reason. -/
def FirstOffence (steps : List MapCall) (e : ConversionError) : Prop :=
  ∃ before call after, steps = before ++ call :: after ∧ Clean before ∧ Offends before call e

theorem clean_nil : Clean [] := fun before call after heq => by simp at heq

theorem Clean.add (h : Clean before) (hcall : ∀ e, ¬ Offends before call e) :
    Clean (before ++ [call]) := by
  intro front call' after heq
  rcases eq_or_of_append_singleton heq with ⟨rfl, rfl, -⟩ | ⟨rest, rfl, -⟩
  · exact hcall
  · exact h front call' rest rfl

theorem FirstOffence.not_clean (h : FirstOffence steps e) : ¬ Clean steps := by
  obtain ⟨before, call, after, heq, -, hoffends⟩ := h
  exact fun hclean => hclean before call after heq e hoffends

theorem FirstOffence.unique (h : FirstOffence steps e) (h' : FirstOffence steps e') : e = e' := by
  obtain ⟨before, call, after, rfl, hclean, hoffends⟩ := h
  obtain ⟨before', call', after', heq, hclean', hoffends'⟩ := h'
  rcases List.append_eq_append_iff.mp heq with ⟨rest, rfl, hrest⟩ | ⟨rest, rfl, hrest⟩
  · cases rest with
    | nil =>
      obtain ⟨rfl, -⟩ := List.cons_eq_cons.mp hrest
      rw [List.append_nil] at hoffends'
      exact hoffends.unique hoffends'
    | cons first rest =>
      obtain ⟨rfl, -⟩ := List.cons_eq_cons.mp hrest
      exact absurd hoffends (hclean' before call rest rfl e)
  · cases rest with
    | nil =>
      obtain ⟨rfl, -⟩ := List.cons_eq_cons.mp hrest
      rw [List.append_nil] at hoffends
      exact hoffends.unique hoffends'
    | cons first rest =>
      obtain ⟨rfl, -⟩ := List.cons_eq_cons.mp hrest
      exact absurd hoffends' (hclean before' call' rest rfl e')

end Offences

/-! ## Gathering -/

/-- What has been gathered from calls with which nothing is wrong. -/
structure Reached (before : List MapCall) (entries : Bindings Value) (waiting : Option String) :
    Prop where
  clean : Clean before
  waits : waiting.isSome ↔ KeyWaits before
  goesUnder : ∀ key, waiting = some key → ∀ name, GoesUnder before name ↔ name = key
  ordered : entries.Ordered
  find? : ∀ name v, Bindings.find? entries name = some v ↔ Holds before name v

namespace Reached

variable {before : List MapCall} {entries : Bindings Value} {waiting : Option String} {d : Datum}
  {key : String} {v : Value}

theorem start : Reached [] [] none where
  clean := clean_nil
  waits := by simp [KeyWaits]
  goesUnder _ h := by cases h
  ordered := .nil
  find? name v := by simp [holds_nil]

/-- A key waits for a value, in place of one that may have waited before. -/
theorem afterKey (h : Reached before entries waiting) (hd : d.value? = .ok (.string key)) :
    Reached (before ++ [.key d]) entries (some key) where
  clean := h.clean.add fun e hoffends => exists_offends_key_iff.mp ⟨e, hoffends⟩ key hd
  waits := by simp [keyWaits_key]
  goesUnder key' hkey name := by
    cases hkey
    simp only [GoesUnder, latestKey_key, exists_eq_left, hd, Except.ok.injEq, Value.string.injEq]
    exact eq_comm
  ordered := h.ordered
  find? name v := by rw [h.find?, holds_key]

/-- A value goes under the key that waits. -/
theorem afterValue (h : Reached before entries (some key)) (hd : d.value? = .ok v) :
    Reached (before ++ [.value d]) (entries.insert key v) none where
  clean := h.clean.add fun e hoffends =>
    exists_offends_value_iff.mp ⟨e, hoffends⟩ ⟨⟨v, hd⟩, h.waits.mp rfl⟩
  waits := by simp [not_keyWaits_value]
  goesUnder _ hkey := by cases hkey
  ordered := h.ordered.insert key v
  find? name v' := by
    rw [holds_value, h.goesUnder key rfl, hd, ← h.find?]
    by_cases hname : name = key
    · subst hname
      simp [Bindings.find?_insert_self]
    · simp [Bindings.find?_insert_of_ne _ (Ne.symm hname), hname]

/-- A call adds to what has been gathered, or something is wrong with it. -/
theorem step (h : Reached before entries waiting) (call : MapCall) :
    (∃ entries' waiting', Reached (before ++ [call]) entries' waiting' ∧
        ∀ rest, callValues? entries waiting (call :: rest) = callValues? entries' waiting' rest) ∨
      ∃ e, Offends before call e ∧
        ∀ rest, callValues? entries waiting (call :: rest) = .error e := by
  cases call with
  | key d =>
    cases hd : d.value? with
    | error e => exact .inr ⟨e, .key hd, fun rest => by rw [callValues?, hd]; rfl⟩
    | ok w =>
      by_cases htext : ∃ s, w = .string s
      · obtain ⟨s, rfl⟩ := htext
        exact .inl ⟨entries, some s, h.afterKey hd, fun rest => by rw [callValues?, hd]; rfl⟩
      · have hw : ∀ s, w ≠ .string s := fun s hs => htext ⟨s, hs⟩
        have hrefused : keyOf? w = .error (.keyNotAString w.inspect) := by
          cases w with
          | string s => exact absurd rfl (hw s)
          | _ => rfl
        exact .inr ⟨_, .notAString hd hw, fun rest => by
          rw [callValues?, hd]
          show (keyOf? w >>= fun key => callValues? entries (some key) rest) = _
          rw [hrefused]
          rfl⟩
  | value d =>
    cases hd : d.value? with
    | error e => exact .inr ⟨e, .value hd, fun rest => by rw [callValues?, hd]; rfl⟩
    | ok w =>
      cases waiting with
      | none =>
        have hnone : ¬ KeyWaits before := mt h.waits.mpr (by decide)
        exact .inr ⟨_, .missingKey hd hnone, fun rest => by rw [callValues?, hd]; rfl⟩
      | some key =>
        exact .inl ⟨_, _, h.afterValue hd, fun rest => by rw [callValues?, hd]; rfl⟩

/-- Calls are gathered as long as nothing is wrong with them; what is wrong with the first of them
is the error. -/
theorem run (h : Reached before entries waiting) (steps : List MapCall) :
    (∃ entries' waiting', Reached (before ++ steps) entries' waiting' ∧
        callValues? entries waiting steps = .ok entries') ∨
      ∃ e, FirstOffence (before ++ steps) e ∧ callValues? entries waiting steps = .error e := by
  induction steps generalizing before entries waiting with
  | nil => exact .inl ⟨entries, waiting, by rwa [List.append_nil], by rw [callValues?]⟩
  | cons call rest ih =>
    rcases h.step call with ⟨entries', waiting', hnext, hsteps⟩ | ⟨e, hoffends, hsteps⟩
    · rw [hsteps, List.append_cons]
      exact ih hnext
    · exact .inr ⟨e, ⟨before, call, rest, rfl, h.clean, hoffends⟩, hsteps rest⟩

end Reached

/-- Nothing is wrong if all keys are texts, all values have a value, and each has a key of its
own. -/
theorem clean_iff {steps : List MapCall} :
    Clean steps ↔
      (∀ d, .key d ∈ steps → ∃ s, d.value? = .ok (.string s)) ∧
      (∀ d, .value d ∈ steps → ∃ v, d.value? = .ok v) ∧
      ∀ before d after, steps = before ++ .value d :: after → KeyWaits before := by
  constructor
  · intro h
    have hvalue {before after : List MapCall} {d : Datum}
        (heq : steps = before ++ .value d :: after) :
        (∃ v, d.value? = .ok v) ∧ KeyWaits before := by
      have hnone := mt exists_offends_value_iff.mpr (not_exists.mpr (h before _ after heq))
      exact Classical.not_not.mp hnone
    refine ⟨fun d hmem => ?_, fun d hmem => ?_, fun before d after heq => (hvalue heq).2⟩
    · obtain ⟨before, after, heq⟩ := List.append_of_mem hmem
      have hnone := mt exists_offends_key_iff.mpr (not_exists.mpr (h before _ after heq))
      simpa using hnone
    · obtain ⟨before, after, heq⟩ := List.append_of_mem hmem
      exact (hvalue heq).1
  · rintro ⟨hkeys, hvalues, hwaits⟩ before call after heq e hoffends
    have hmem : call ∈ steps := heq ▸ List.mem_append_right _ List.mem_cons_self
    cases call with
    | key d =>
      obtain ⟨s, hs⟩ := hkeys d hmem
      exact exists_offends_key_iff.mp ⟨e, hoffends⟩ s hs
    | value d =>
      exact exists_offends_value_iff.mp ⟨e, hoffends⟩ ⟨hvalues d hmem, hwaits before d after heq⟩

/-- **Maps keep the pairs that are complete.** A map that is handed over by calls, in any order, is
a value exactly if all keys are texts, all values have a value, and a key was handed over since the
last value before each. Then it is a dictionary that has each name once: bound to the last value
whose latest key was that name, and no other name. Else the error is what is wrong with the first
call that something is wrong with. -/
theorem map_of_calls (steps : List MapCall) :
    ((∃ v, (Datum.calls steps).value? = .ok v) ↔
      (∀ d, .key d ∈ steps → ∃ s, d.value? = .ok (.string s)) ∧
      (∀ d, .value d ∈ steps → ∃ v, d.value? = .ok v) ∧
      ∀ before d after, steps = before ++ .value d :: after → KeyWaits before) ∧
    (∀ v, (Datum.calls steps).value? = .ok v → ∃ entries : Bindings Value, v = .dictionary entries ∧
      entries.Ordered ∧ ∀ name v, (name, v) ∈ entries ↔ Holds steps name v) ∧
    ∀ e, (Datum.calls steps).value? = .error e ↔ FirstOffence steps e := by
  rw [← clean_iff, Datum.value?]
  rcases Reached.start.run steps with ⟨entries, waiting, hreached, hrun⟩ | ⟨e, hfirst, hrun⟩
  · have hclean : Clean steps := hreached.clean
    rw [hrun]
    refine ⟨iff_of_true ⟨_, rfl⟩ hclean, fun v hv => ?_, fun e => iff_of_false ?_ ?_⟩
    · refine ⟨entries, (Except.ok.inj hv).symm, hreached.ordered, fun name v => ?_⟩
      exact hreached.ordered.mem_iff.trans (hreached.find? name v)
    · exact fun herror => by cases herror
    · exact fun hfirst => hfirst.not_clean hclean
  · rw [hrun]
    refine ⟨iff_of_false ?_ hfirst.not_clean, fun v hv => ?_,
      fun e' => ⟨fun herror => ?_, fun h => ?_⟩⟩
    · rintro ⟨v, ⟨⟩⟩
    · cases hv
    · cases herror
      exact hfirst
    · rw [hfirst.unique h]
      rfl

end Stencil.Host
