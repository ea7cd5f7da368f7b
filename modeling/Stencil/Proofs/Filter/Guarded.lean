import Stencil.Filter.Standard
import Stencil.Proofs.Filter.Sorting
import Stencil.Proofs.Text.Bytes
import Stencil.Proofs.Text.Positions

/-!
# Filters that could stop the program

A program reads the arguments of a call by their indices, cuts texts and lists at positions that it
computes, sorts by a comparison, and writes dates by a pattern. Each of these can stop it: an index
or a position may be out of range, a comparison may contradict itself, and one directive can be read
but not written. Here the filters are written in this way, with no result where the program would
stop (`callGuarded?`), and it is shown that there always is one: that of the call.

* `call_of_takes`, `call_of_not_takes` — the arguments that are read are there
* `stretchPart?_eq` — a part of a list is cut out within it
* `callGuarded?_eq` — no call of a standard filter stops the program
-/

namespace Stencil

/-! ## Arguments -/

namespace Operation

/-- Whether an operation takes a number of arguments. -/
def Takes (op : Operation) (count : Nat) : Prop :=
  op.least ≤ count ∧ ∀ most ∈ op.most?, count ≤ most

instance (op : Operation) (count : Nat) : Decidable (op.Takes count) :=
  inferInstanceAs (Decidable (op.least ≤ count ∧ ∀ most ∈ op.most?, count ≤ most))

/-- What an operation gives if it reads its arguments by their indices. There is no result where one
that it needs is not there. -/
def indexed? (op : Operation) (site : Site) (v : Value) (args : List Value) : Option Answer :=
  match op with
  | .none run => some (run site v)
  | .optional run => some (run site v args[0]?)
  | .one run => args[0]?.map fun a => run site v a
  | .oneOrTwo run => args[0]?.map fun a => run site v a args[1]?
  | .two run => args[0]?.bind fun a => args[1]?.map fun b => run site v a b
  | .any run => some (run site v args)

variable {op : Operation} (name : String) (site : Site) (v : Value) {args : List Value}

/-- Where the number of arguments is right, all that are needed are there. -/
theorem call_of_takes (h : op.Takes args.length) :
    ∃ answer, op.indexed? site v args = some answer ∧
      op.call name site v args = answer.mapError .wrongType := by
  obtain ⟨hleast, hmost⟩ := h
  cases op with
  | none run =>
    obtain rfl : args = [] := List.length_eq_zero_iff.mp (Nat.le_zero.mp (hmost 0 rfl))
    exact ⟨_, rfl, rfl⟩
  | optional run =>
    match args, hmost 1 rfl with
    | [], _ | [a], _ => exact ⟨_, rfl, rfl⟩
  | one run =>
    match args, hleast, hmost 1 rfl with
    | [a], _, _ => exact ⟨_, rfl, rfl⟩
  | oneOrTwo run =>
    match args, hleast, hmost 2 rfl with
    | [a], _, _ | [a, b], _, _ => exact ⟨_, rfl, rfl⟩
  | two run =>
    match args, hleast, hmost 2 rfl with
    | [a, b], _, _ => exact ⟨_, rfl, rfl⟩
  | any run => exact ⟨_, rfl, rfl⟩

/-- Where the number of arguments is wrong, it is refused. -/
theorem call_of_not_takes (h : ¬ op.Takes args.length) :
    op.call name site v args =
      .error (.argumentCount name (op.expected args.length) args.length) := by
  unfold call
  split
  case h_9 => rfl
  -- In each other case the number of arguments is right.
  all_goals exact absurd (by simp [Takes, least, most?]) h

end Operation

namespace Filter

/-! ## Parts of lists -/

/-- The part of a list between two indices, if they are in order and not beyond the end. -/
def part? {α : Type} (start stop : Nat) (items : List α) : Option (List α) :=
  if start ≤ stop ∧ stop ≤ items.length then some ((items.take stop).drop start) else none

/-- The indices between which a stretch of a list stands, if it starts within. A stretch that would
go on beyond the end of the list ends there. -/
def window? (length : Nat) (offset : Int) (count : Nat) : Option (Nat × Nat) :=
  let start? :=
    if offset < 0 then if offset.natAbs ≤ length then some (length - offset.natAbs) else none
    else if offset.toNat ≤ length then some offset.toNat else none
  start?.map fun start => (start, min (start + count) length)

/-- A stretch of a list, cut out between its indices. -/
def stretchPart? {α : Type} (offset : Int) (count : Nat) (items : List α) :
    Option (Option (List α)) :=
  match window? items.length offset count with
  | some (start, stop) => (part? start stop items).map some
  | none => some none

/-- A part that starts within a list, and ends with it at the latest, is there. -/
theorem part?_of_le {α : Type} {start count : Nat} {items : List α} (h : start ≤ items.length) :
    part? start (min (start + count) items.length) items = some ((items.drop start).take count) := by
  rw [part?, if_pos (by omega), List.drop_take]
  congr 1
  rw [List.take_eq_take_iff, List.length_drop]
  omega

/-- The indices of a stretch are in order and within the list, and the stretch stands there. -/
theorem stretchPart?_eq {α : Type} (offset : Int) (count : Nat) (items : List α) :
    stretchPart? offset count items = some (stretch? offset count items) := by
  simp only [stretchPart?, window?, stretch?]
  by_cases hneg : offset < 0
  · rw [if_pos hneg, if_pos hneg]
    by_cases hstart : offset.natAbs ≤ items.length
    · have heq : (items.length + offset).toNat = items.length - offset.natAbs := by omega
      rw [if_pos hstart, if_pos (by omega), Option.map_some, heq]
      simp only [part?_of_le (Nat.sub_le ..), Option.map_some]
    · rw [if_neg hstart, if_neg (by omega), Option.map_none]
  · rw [if_neg hneg, if_neg hneg]
    by_cases hstart : offset.toNat ≤ items.length
    · rw [if_pos hstart, if_pos (by omega), Option.map_some]
      simp only [part?_of_le hstart, Option.map_some]
    · rw [if_neg hstart, if_neg (by omega), Option.map_none]

/-! ## Filters -/

variable (site : Site) (v : Value) (args : List Value)

/-- What a filter gives that changes the text of its value, if the change comes to its end. -/
def ofText? (change : List Char → Option (List Char)) : Option Answer :=
  (change (site.text v)).map fun cs => .ok (.string (String.ofList cs))

/-- Reads a percent encoding by the indices of its bytes. -/
def percentDecode? (cs : List Char) : Option (List Char) :=
  (Text.percentDecodeAt? (Text.utf8 cs) 0).map fun bytes =>
    (bytes.bind Text.ofUtf8?).getD (cs.map fun c => if c = '+' then ' ' else c)

/-- Cuts a text off at a number of words, of which the first are cut out of all. -/
def truncateWords? : Option Answer := do
  let limit := max (← args[0]?).toCount 1
  let words := Text.words (site.text v)
  if words.length ≤ limit then return .ok (.string (String.ofList (site.text v)))
  let kept ← part? 0 limit words
  return .ok (.string (String.ofList ([' '].intercalate kept ++ suffixOf site args[1]?)))

/-- Cuts a part out of an array or of a text. -/
def slice? : Option Answer := do
  let offset := (← args[0]?).toInt.toInt
  let count := args[1]?.elim 1 Value.toCount
  let part ← match v with
    | .array items => (stretchPart? offset count items).map (Option.map .array)
    | v => (stretchPart? offset count (site.text v)).map (Option.map (.string <| String.ofList ·))
  return .ok (part.getD .nil)

/-- Sorts, if the comparison does not contradict itself. -/
def sorted? : Option Answer :=
  (sortBy? (sortOrder site args[0]?) v.toArray).map fun items => .ok (.array items)

/-- Sorts by texts in lower case, if the comparison does not contradict itself. -/
def sortedNaturally? : Option Answer :=
  let keyed := v.toArray.map fun item => (naturalKey site args[0]? item, item)
  (sortBy? (fun a b => compare a.1 b.1) keyed).map fun keyed => .ok (.array (keyed.map (·.2)))

/-- Whether a pattern has the directive that can be read, but not written. -/
def Unwritable (pattern : String) : Prop :=
  Text.containsText "%#z".toList pattern.toList = true

instance (pattern : String) : Decidable (Unwritable pattern) :=
  inferInstanceAs (Decidable (_ = true))

/-- Writes a date by a pattern, if that can be written. -/
def date? : Option Answer := do
  let pattern ← args[0]?
  if (instantOf? site.settings.now v).isSome ∧ Unwritable (datePatternOf site pattern) then none
  else date.indexed? site v args

/-- What a standard filter gives if it reads, cuts, sorts and writes in the way that could stop the
program. -/
def guarded? (name : String) (op : Operation) : Option Answer :=
  match name with
  | "escape_once" => ofText? site v fun cs => (Text.unescape? cs).map Text.escape
  | "strip_html" => ofText? site v Text.stripTags?
  | "url_decode" => ofText? site v percentDecode?
  | "truncatewords" => truncateWords? site v args
  | "slice" => slice? site v args
  | "sort" => sorted? site v args
  | "sort_natural" => sortedNaturally? site v args
  | "date" => date? site v args
  | _ => op.indexed? site v args

/-- A call of a standard filter: the number of arguments is checked first, and then the filter
works on them. -/
def callGuarded? (name : String) (op : Operation) : Option (Except RuntimeError Value) :=
  if op.Takes args.length then (guarded? site v args name op).map (Except.mapError .wrongType)
  else some (.error (.argumentCount name (op.expected args.length) args.length))

/-! ## No filter stops the program -/

theorem percentDecode?_eq (cs : List Char) : percentDecode? cs = some (Text.percentDecode cs) := by
  have hbytes : Text.percentDecodeAt? (Text.utf8 cs) 0 = some (Text.percentDecodeBytes? cs) :=
    Text.percentDecodeAt?_eq [] cs
  rw [percentDecode?, hbytes]
  rfl

theorem ofText?_eq {change : List Char → Option (List Char)} {changed : List Char → List Char}
    (h : ∀ cs, change cs = some (changed cs)) :
    ofText? site v change = (Operation.ofText changed).indexed? site v args := by
  rw [ofText?, h]
  rfl

theorem truncateWords?_eq : truncateWords? site v args = truncateWords.indexed? site v args := by
  cases args with
  | nil => rfl
  | cons limit rest =>
    simp only [truncateWords?, truncateWords, Operation.indexed?, truncatedWords,
      List.getElem?_cons_zero, Option.bind_eq_bind, Option.bind_some, Option.map_some]
    split
    · rfl
    · rename_i hmore
      rw [part?, if_pos (by omega)]
      rfl

theorem slice?_eq : slice? site v args = slice.indexed? site v args := by
  cases args with
  | nil => rfl
  | cons offset rest =>
    simp only [slice?, slice, Operation.indexed?, stretchPart?_eq, List.getElem?_cons_zero,
      Option.bind_eq_bind, Option.bind_some, Option.map_some]
    cases v <;> rfl

theorem sorted?_eq : sorted? site v args = sort.indexed? site v args := by
  rw [sorted?, sortBy?_eq, sortOrder_eq]
  rfl

instance : Std.TransCmp fun a b : String × Value => compare a.1 b.1 :=
  transCmp_on compare Prod.fst

theorem sortedNaturally?_eq : sortedNaturally? site v args = sortNatural.indexed? site v args := by
  simp only [sortedNaturally?, sortBy?_eq]
  rfl

variable {site v args} in
theorem date?_eq (h : ∀ pattern ∈ args.head?, ¬ Unwritable (datePatternOf site pattern)) :
    date? site v args = date.indexed? site v args := by
  cases args with
  | nil => rfl
  | cons pattern rest =>
    have hwritable : ¬ Unwritable (datePatternOf site pattern) := h pattern rfl
    simp [date?, hwritable]

variable {site v args} in
theorem guarded?_eq {name : String} {op : Operation} (h : (name, op) ∈ standardOperations)
    (hpattern : name = "date" → ∀ pattern ∈ args.head?, ¬ Unwritable (datePatternOf site pattern)) :
    guarded? site v args name op = op.indexed? site v args := by
  unfold guarded?
  split
  · obtain rfl : op = .ofText Text.escapeOnce := by simpa [standardOperations] using h
    exact ofText?_eq site v args fun cs => by rw [Text.unescape?_eq]; rfl
  · obtain rfl : op = .ofText Text.stripTags := by simpa [standardOperations] using h
    exact ofText?_eq site v args Text.stripTags?_eq
  · obtain rfl : op = .ofText Text.percentDecode := by simpa [standardOperations] using h
    exact ofText?_eq site v args percentDecode?_eq
  · obtain rfl : op = truncateWords := by simpa [standardOperations] using h
    exact truncateWords?_eq site v args
  · obtain rfl : op = slice := by simpa [standardOperations] using h
    exact slice?_eq site v args
  · obtain rfl : op = sort := by simpa [standardOperations] using h
    exact sorted?_eq site v args
  · obtain rfl : op = sortNatural := by simpa [standardOperations] using h
    exact sortedNaturally?_eq site v args
  · obtain rfl : op = date := by simpa [standardOperations] using h
    exact date?_eq (hpattern rfl)
  · rfl

variable {site v args} in
/-- No call of a standard filter stops the program, unless a date is to be written by a pattern that
can be read, but not written. -/
theorem callGuarded?_eq {name : String} {op : Operation} (h : (name, op) ∈ standardOperations)
    (hpattern : name = "date" → ∀ pattern ∈ args.head?, ¬ Unwritable (datePatternOf site pattern)) :
    callGuarded? site v args name op = some (op.call name site v args) := by
  unfold callGuarded?
  split
  · rename_i htakes
    obtain ⟨answer, hanswer, hcall⟩ := Operation.call_of_takes name site v htakes
    rw [guarded?_eq h hpattern, hanswer, hcall]
    rfl
  · rename_i htakes
    rw [Operation.call_of_not_takes name site v htakes]

end Filter

end Stencil
