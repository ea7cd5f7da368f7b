import Stencil.Proofs.Filter.Arithmetic
import Stencil.Proofs.Filter.Guarded

/-!
# When standard filters fail

A call of a standard filter fails if the number of its arguments is out of the range of the filter
(`argumentRange`), and else for one of five reasons (`Refuses`), which belong to seven filters. All
other filters take every value and all arguments.

* `argumentRange_eq` — the range of each filter
* `total_of_not_mem` — filters that never refuse
* `Operator.run_error_iff`, `concat_error_iff`, `date_error_iff` — when the others do
* `standard_calls` — when a call fails
-/

namespace Stencil

/-- Whether an operation gives a value for every value and all arguments that it takes. -/
def Operation.Total : Operation → Prop
  | .none run => ∀ site v, ∃ w, run site v = .ok w
  | .optional run => ∀ site v a, ∃ w, run site v a = .ok w
  | .one run => ∀ site v a, ∃ w, run site v a = .ok w
  | .oneOrTwo run => ∀ site v a b, ∃ w, run site v a b = .ok w
  | .two run => ∀ site v a b, ∃ w, run site v a b = .ok w
  | .any run => ∀ site v args, ∃ w, run site v args = .ok w

/-- What such an operation gives for arguments that it reads by their indices is a value. -/
theorem Operation.Total.answer {op : Operation} (h : op.Total) {site : Site} {v : Value}
    {args : List Value} {answer : Answer} (hanswer : op.indexed? site v args = some answer) :
    ∃ w, answer = .ok w := by
  cases op with
  | none run => exact Option.some.inj hanswer ▸ h site v
  | optional run => exact Option.some.inj hanswer ▸ h site v _
  | one run =>
    obtain ⟨a, -, rfl⟩ := Option.map_eq_some_iff.mp hanswer
    exact h site v a
  | oneOrTwo run =>
    obtain ⟨a, -, rfl⟩ := Option.map_eq_some_iff.mp hanswer
    exact h site v a _
  | two run =>
    obtain ⟨a, -, hrest⟩ := Option.bind_eq_some_iff.mp hanswer
    obtain ⟨b, -, rfl⟩ := Option.map_eq_some_iff.mp hrest
    exact h site v a b
  | any run => exact Option.some.inj hanswer ▸ h site v args

namespace Filter

/-! ## Numbers of arguments -/

/-- The smallest and the greatest number of arguments of a standard filter. -/
def argumentRange : String → Nat × Option Nat
  | "append" => (0, none)
  | "join" | "round" | "sort" | "sort_natural" => (0, some 1)
  | "concat" | "date" | "default" | "divided_by" | "map" | "minus" | "modulo" | "plus" | "prepend"
  | "remove" | "remove_first" | "split" | "times" => (1, some 1)
  | "slice" | "truncate" | "truncatewords" => (1, some 2)
  | "replace" | "replace_first" => (2, some 2)
  | _ => (0, some 0)

/-- Whether a number of arguments is in the range of a filter. -/
def InRange (name : String) (count : Nat) : Prop :=
  (argumentRange name).1 ≤ count ∧ ∀ most ∈ (argumentRange name).2, count ≤ most

instance (name : String) (count : Nat) : Decidable (InRange name count) :=
  inferInstanceAs (Decidable
    ((argumentRange name).1 ≤ count ∧ ∀ most ∈ (argumentRange name).2, count ≤ most))

theorem argumentRange_eq :
    ∀ entry ∈ standardOperations, argumentRange entry.1 = (entry.2.least, entry.2.most?) := by
  decide

theorem inRange_iff {name : String} {op : Operation} (h : (name, op) ∈ standardOperations)
    (count : Nat) : InRange name count ↔ op.Takes count := by
  rw [InRange, argumentRange_eq _ h]
  rfl

/-! ## Filters that never refuse -/

/-- The filters that do not take all values. -/
def refusing : List String :=
  ["concat", "date", "divided_by", "minus", "modulo", "plus", "times"]

theorem total_of_not_mem :
    ∀ entry ∈ standardOperations, entry.1 ∉ refusing → entry.2.Total := by
  unfold standardOperations
  simp only [List.forall_mem_cons]
  repeat' apply And.intro
  -- A filter is one of those left out, or it ends in a value whatever its arguments are.
  all_goals first
    | exact fun h => absurd (by decide) h
    | exact fun _ _ _ => ⟨_, rfl⟩
    | exact fun _ _ _ _ => ⟨_, rfl⟩
    | exact fun _ _ _ _ _ => ⟨_, rfl⟩
    | simp

/-! ## Filters that may refuse -/

namespace Operator

variable (o : Operator) (a b : Value)

/-- Whether a division is by zero. -/
def ByZero : Prop :=
  o.arithmetic.divides = true ∧ b.toDecimal.isZero = true

/-- Whether two values are integers with a result that 64 bits hold. -/
def Fits : Prop :=
  ∃ m n : Int64, a = .int m ∧ b = .int n ∧ o.Defined n.toInt ∧
    Integer.ofInt? (o.result m.toInt n.toInt) ≠ none

variable {o a b}

theorem not_byZero_of_defined {n : Int64} (h : o.Defined n.toInt) : ¬ o.ByZero (.int n) := by
  rintro ⟨hdivides, hzero⟩
  rw [Value.toDecimal, isZero_ofInt64 (h hdivides)] at hzero
  cases hzero

/-- Where integers have a result it is the right one, and nothing is divided by zero. -/
theorem defined_of_integers {m n r : Int64} (h : o.arithmetic.integers m.toInt n.toInt = some r) :
    o.Defined n.toInt ∧ Integer.ofInt? (o.result m.toInt n.toInt) = some r := by
  cases o with
  | plus | minus | times => exact ⟨nofun, h⟩
  | dividedBy =>
    simp only [arithmetic, Filter.dividedBy] at h
    split at h
    · cases h
    · rename_i hn
      exact ⟨fun _ => hn, h⟩
  | modulo =>
    simp only [arithmetic, Filter.modulo] at h
    split at h
    · cases h
    · rename_i hn
      obtain ⟨-, -, hr⟩ := Option.bind_eq_some_iff.mp h
      exact ⟨fun _ => hn, hr⟩

theorem run_of_integers {m n r : Int64} (h : o.arithmetic.integers m.toInt n.toInt = some r) :
    o.arithmetic.run (.int m) (.int n) = .ok (.int r) := by
  simp [Arithmetic.run, h]

/-- Values that are not integers with a result are computed as decimals. -/
theorem run_of_no_integers
    (h : ∀ m n, a = .int m → b = .int n → o.arithmetic.integers m.toInt n.toInt = none) :
    o.arithmetic.run a b =
      if o.arithmetic.divides && b.toDecimal.isZero then .error (.divisionByZero o.arithmetic.name)
      else
        match o.arithmetic.decimals a.toDecimal b.toDecimal with
        | some d => .ok (.decimal d)
        | none => .error (.overflow o.arithmetic.name) := by
  unfold Arithmetic.run
  split
  · rename_i m n
    cases hintegers : o.arithmetic.integers m.toInt n.toInt with
    | none => rfl
    | some r => cases hintegers.symm.trans (h m n rfl rfl)
  · rfl

theorem decimals_of_declines {m n : Int64} (h : o.Declines m n) :
    o.arithmetic.decimals (.ofInt64 m) (.ofInt64 n) = some .zero := by
  obtain ⟨rfl, rfl, rfl⟩ := eq_of_declines h
  rfl

/-- What neither integers nor decimals give is no result of integers that 64 bits hold. -/
theorem not_fits
    (hintegers : ∀ m n, a = .int m → b = .int n → o.arithmetic.integers m.toInt n.toInt = none)
    (hdecimals : o.arithmetic.decimals a.toDecimal b.toDecimal = none) : ¬ o.Fits a b := by
  rintro ⟨m, n, rfl, rfl, hdefined, hresult⟩
  -- The one result that fits and that integers do not give is the declined remainder.
  by_cases hdeclines : o.Declines m n
  · rw [Value.toDecimal, Value.toDecimal, decimals_of_declines hdeclines] at hdecimals
    cases hdecimals
  · rw [← integers_eq hdefined hdeclines] at hresult
    exact hresult (hintegers m n rfl rfl)

/-- When an operation of arithmetic fails. -/
theorem run_error_iff {fault : TypeFault} :
    o.arithmetic.run a b = .error fault ↔
      (o.ByZero b ∧ fault = .divisionByZero o.arithmetic.name) ∨
        (¬ o.ByZero b ∧ ¬ o.Fits a b ∧ o.arithmetic.decimals a.toDecimal b.toDecimal = none ∧
          fault = .overflow o.arithmetic.name) := by
  by_cases hintegers : ∃ m n r, a = .int m ∧ b = .int n ∧
      o.arithmetic.integers m.toInt n.toInt = some r
  · obtain ⟨m, n, r, rfl, rfl, hr⟩ := hintegers
    obtain ⟨hdefined, hresult⟩ := defined_of_integers hr
    have hfits : o.Fits (.int m) (.int n) := ⟨m, n, rfl, rfl, hdefined, by simp [hresult]⟩
    simp [run_of_integers hr, not_byZero_of_defined hdefined, hfits]
  · have hnone : ∀ m n, a = .int m → b = .int n →
        o.arithmetic.integers m.toInt n.toInt = none := by
      rintro m n rfl rfl
      rw [Option.eq_none_iff_forall_ne_some]
      exact fun r hr => hintegers ⟨m, n, r, rfl, rfl, hr⟩
    rw [run_of_no_integers hnone]
    by_cases hzero : o.ByZero b
    · simp [hzero.1, hzero.2, hzero, eq_comm]
    · have hzero' : (o.arithmetic.divides && b.toDecimal.isZero) = false := by
        rw [← Bool.not_eq_true, Bool.and_eq_true]
        exact hzero
      rw [hzero', if_neg Bool.false_ne_true]
      cases hdecimals : o.arithmetic.decimals a.toDecimal b.toDecimal with
      | some d => simp [hzero]
      | none =>
        simp [hzero, not_fits hnone hdecimals, eq_comm]

end Operator

/-- Why a standard filter refuses its value or its arguments. -/
inductive Refuses (site : Site) (v : Value) : String → List Value → TypeFault → Prop
  /-- Something other than an array cannot be put behind an array. -/
  | notAnArray {tail : Value} (h : tail.isArray = false) :
    Refuses site v "concat" [tail] (.notAnArray "concat")
  | divisionByZero {o : Operator} {b : Value} (h : o.ByZero b) :
    Refuses site v o.arithmetic.name [b] (.divisionByZero o.arithmetic.name)
  /-- The result is too large for a decimal, and is not that of two integers which 64 bits hold. -/
  | overflow {o : Operator} {b : Value} (hzero : ¬ o.ByZero b) (hfits : ¬ o.Fits v b)
      (h : o.arithmetic.decimals v.toDecimal b.toDecimal = none) :
    Refuses site v o.arithmetic.name [b] (.overflow o.arithmetic.name)
  | notADate {pattern : Value} (h : instantOf? site.settings.now v = none) :
    Refuses site v "date" [pattern] (.notADate v.text)
  | dateFormat {pattern : Value} (hdate : instantOf? site.settings.now v ≠ none)
      (h : Calendar.Pattern.ofText? (datePatternOf site pattern).toList = none) :
    Refuses site v "date" [pattern] (.dateFormat (datePatternOf site pattern))

variable {site : Site} {v : Value} {args : List Value} {fault : TypeFault}

theorem concat_error_iff {tail : Value} :
    concat.indexed? site v [tail] = some (.error fault) ↔
      tail.isArray = false ∧ fault = .notAnArray "concat" := by
  cases tail <;> simp [concat, Operation.indexed?, Value.isArray, eq_comm]

theorem date_error_iff {pattern : Value} :
    date.indexed? site v [pattern] = some (.error fault) ↔
      (instantOf? site.settings.now v = none ∧ fault = .notADate v.text) ∨
        (instantOf? site.settings.now v ≠ none ∧
          Calendar.Pattern.ofText? (datePatternOf site pattern).toList = none ∧
          fault = .dateFormat (datePatternOf site pattern)) := by
  simp only [date, Operation.indexed?, List.getElem?_cons_zero, Option.map_some]
  cases instantOf? site.settings.now v with
  | none => simp [eq_comm]
  | some instant =>
    cases Calendar.Pattern.ofText? (datePatternOf site pattern).toList with
    | none => simp [eq_comm]
    | some read => simp

theorem arithmetic_of_mem {o : Operator} {op : Operation}
    (h : (o.arithmetic.name, op) ∈ standardOperations) : op = o.arithmetic.operation := by
  cases o <;> simpa [standardOperations, Operator.arithmetic, plus, minus, times, dividedBy, modulo]
    using h

theorem exists_of_mem_refusing {name : String} (h : name ∈ refusing) :
    name = "concat" ∨ name = "date" ∨ ∃ o : Operator, name = o.arithmetic.name := by
  simp only [refusing, List.mem_cons, List.not_mem_nil, or_false] at h
  rcases h with rfl | rfl | rfl | rfl | rfl | rfl | rfl
  · exact .inl rfl
  · exact .inr (.inl rfl)
  · exact .inr (.inr ⟨.dividedBy, rfl⟩)
  · exact .inr (.inr ⟨.minus, rfl⟩)
  · exact .inr (.inr ⟨.modulo, rfl⟩)
  · exact .inr (.inr ⟨.plus, rfl⟩)
  · exact .inr (.inr ⟨.times, rfl⟩)

theorem exists_eq_singleton {run : Site → Value → Value → Answer}
    (h : (Operation.one run).Takes args.length) : ∃ a, args = [a] :=
  List.length_eq_one_iff.mp (Nat.le_antisymm (h.2 1 rfl) h.1)

/-- A standard filter refuses its value and its arguments for the reasons that there are. -/
theorem indexed?_error_iff {name : String} {op : Operation}
    (h : (name, op) ∈ standardOperations) (htakes : op.Takes args.length) :
    op.indexed? site v args = some (.error fault) ↔ Refuses site v name args fault := by
  constructor
  · intro herror
    by_cases hname : name ∈ refusing
    · rcases exists_of_mem_refusing hname with rfl | rfl | ⟨o, rfl⟩
      · obtain rfl : op = concat := by simpa [standardOperations] using h
        obtain ⟨tail, rfl⟩ := exists_eq_singleton htakes
        obtain ⟨htail, rfl⟩ := concat_error_iff.mp herror
        exact .notAnArray htail
      · obtain rfl : op = date := by simpa [standardOperations] using h
        obtain ⟨pattern, rfl⟩ := exists_eq_singleton htakes
        rcases date_error_iff.mp herror with ⟨hdate, rfl⟩ | ⟨hdate, hformat, rfl⟩
        · exact .notADate hdate
        · exact .dateFormat hdate hformat
      · obtain rfl := arithmetic_of_mem h
        obtain ⟨b, rfl⟩ := exists_eq_singleton htakes
        rcases Operator.run_error_iff.mp (Option.some.inj herror) with
          ⟨hzero, rfl⟩ | ⟨hzero, hfits, hnone, rfl⟩
        · exact .divisionByZero hzero
        · exact .overflow hzero hfits hnone
    · obtain ⟨w, hw⟩ := (total_of_not_mem _ h hname).answer herror
      cases hw
  · intro hrefuses
    cases hrefuses with
    | notAnArray htail =>
      obtain rfl : op = concat := by simpa [standardOperations] using h
      exact concat_error_iff.mpr ⟨htail, rfl⟩
    | notADate hdate =>
      obtain rfl : op = date := by simpa [standardOperations] using h
      exact date_error_iff.mpr (.inl ⟨hdate, rfl⟩)
    | dateFormat hdate hformat =>
      obtain rfl : op = date := by simpa [standardOperations] using h
      exact date_error_iff.mpr (.inr ⟨hdate, hformat, rfl⟩)
    | divisionByZero hzero =>
      obtain rfl := arithmetic_of_mem h
      exact congrArg some (Operator.run_error_iff.mpr (.inl ⟨hzero, rfl⟩))
    | overflow hzero hfits hnone =>
      obtain rfl := arithmetic_of_mem h
      exact congrArg some (Operator.run_error_iff.mpr (.inr ⟨hzero, hfits, hnone, rfl⟩))

/-! ## Calls -/

/-- The errors of a call in the range are the faults of the filter, as wrong types. -/
theorem mapError_eq_error_iff {answer : Answer} {e : RuntimeError} :
    answer.mapError .wrongType = .error e ↔ ∃ fault, e = .wrongType fault ∧ answer = .error fault := by
  cases answer <;> simp [Except.mapError, eq_comm]

/-- **When a call of a standard filter fails.** No call stops the program, a date by a pattern that
can be read but not written apart. A call fails for the number of its arguments exactly if that is
out of the range of the filter. In the range, it fails exactly if the filter refuses its value or
its arguments, always with the reason as a wrong type, and a filter that refuses nothing gives a
value. -/
theorem standard_calls {name : String} {op : Operation} (h : (name, op) ∈ standardOperations)
    (site : Site) (v : Value) (args : List Value)
    (hpattern : name = "date" → ∀ pattern ∈ args.head?, ¬ Unwritable (datePatternOf site pattern)) :
    callGuarded? site v args name op = some (op.call name site v args) ∧
      ((∃ expected received,
          op.call name site v args = .error (.argumentCount name expected received)) ↔
        ¬ InRange name args.length) ∧
      (InRange name args.length →
        (∀ e, op.call name site v args = .error e ↔
          ∃ fault, e = .wrongType fault ∧ Refuses site v name args fault) ∧
        (name ∉ refusing → ∃ w, op.call name site v args = .ok w)) := by
  rw [inRange_iff h]
  refine ⟨callGuarded?_eq h hpattern, ?_, ?_⟩
  · constructor
    · rintro ⟨expected, received, hcount⟩ htakes
      obtain ⟨answer, -, hcall⟩ := op.call_of_takes name site v htakes
      rw [hcall, mapError_eq_error_iff] at hcount
      obtain ⟨fault, hfault, -⟩ := hcount
      cases hfault
    · intro htakes
      exact ⟨_, _, op.call_of_not_takes name site v htakes⟩
  · intro htakes
    obtain ⟨answer, hanswer, hcall⟩ := op.call_of_takes name site v htakes
    rw [hcall]
    refine ⟨fun e => ?_, fun hname => ?_⟩
    · simp only [mapError_eq_error_iff, ← indexed?_error_iff h htakes, hanswer, Option.some.injEq]
    · obtain ⟨w, rfl⟩ := (total_of_not_mem _ h hname).answer hanswer
      exact ⟨w, rfl⟩

/-- A text that is a date is refused for a pattern that has no meaning. -/
theorem standard_calls_patternWithoutMeaning :
    ("date", date) ∈ standardOperations ∧ ¬ Unwritable "%Y-%Q" ∧
      callGuarded? ⟨.none, {}⟩ (.string "2006-07-05") [.string "%Y-%Q"] "date" date =
        some (.error (.wrongType (.dateFormat "%Y-%Q"))) := by
  have hmem : ("date", date) ∈ standardOperations := by simp [standardOperations]
  have hpattern : datePatternOf ⟨.none, {}⟩ (.string "%Y-%Q") = "%Y-%Q" := by decide
  have hwritable : ¬ Unwritable "%Y-%Q" := by decide
  obtain ⟨hguarded, -, hrange⟩ := standard_calls hmem ⟨.none, {}⟩ (.string "2006-07-05")
    [.string "%Y-%Q"] fun _ pattern hmem => by
      obtain rfl : .string "%Y-%Q" = pattern := Option.some.inj hmem
      rw [hpattern]
      exact hwritable
  obtain ⟨hfails, -⟩ := hrange (by decide)
  refine ⟨hmem, hwritable, hguarded.trans (congrArg some ?_)⟩
  refine (hfails _).mpr ⟨_, rfl, ?_⟩
  have hrefuses := @Refuses.dateFormat ⟨.none, {}⟩ (.string "2006-07-05") (.string "%Y-%Q")
    (by decide) (by rw [hpattern]; rfl)
  rw [hpattern] at hrefuses
  exact hrefuses

end Filter

end Stencil
