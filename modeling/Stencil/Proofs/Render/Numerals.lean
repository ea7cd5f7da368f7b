import Stencil.Proofs.Bindings
import Stencil.Proofs.Filter.Calls
import Stencil.Proofs.Filter.Guarded
import Stencil.Proofs.Render.Counting
import Stencil.Proofs.Value.Numerals

/-!
# Numbers given as texts

Loops, counters and filters take a text for the number that it is written for.

* `itemsOf_range_congr`, `itemsOf_limit_congr`, `itemsOf_offset_congr` — loops see integers
* `count_congr` — so do counters
* `standardCall?_limited` — and filters that are told how much to leave
* `standardCall?_computing` — filters that compute see decimals
* `numbers_through_text` — a number and its text
-/

namespace Stencil

/-! ## Loops -/

namespace Render

open Markup Template Value

section Loops

variable {view : View} {e e' first first' last last' : Expression}

theorem itemsOf_range_congr (header : LoopHeader)
    (hfirst : (first.value view).toInt = (first'.value view).toInt)
    (hlast : (last.value view).toInt = (last'.value view).toInt) :
    itemsOf { header with source := .range first last } view =
      itemsOf { header with source := .range first' last' } view := by
  simp only [itemsOf, hfirst, hlast]

theorem itemsOf_limit_congr (header : LoopHeader)
    (h : (e.value view).toCount = (e'.value view).toCount) :
    itemsOf { header with limit := some e } view =
      itemsOf { header with limit := some e' } view := by
  simp only [itemsOf, Option.map_some, h]

theorem itemsOf_offset_congr (header : LoopHeader)
    (h : (e.value view).toCount = (e'.value view).toCount) :
    itemsOf { header with offset := some e } view =
      itemsOf { header with offset := some e' } view := by
  simp only [itemsOf, Option.map_some, h]

end Loops

/-! ## Counters -/

/-- A counter goes on from the integer that it counts as. -/
theorem count_congr {v w : Value} (h : w.toInt = v.toInt) (direction : Direction) (name : String)
    (ctx : Context) :
    count direction name { ctx with counters := ctx.counters.insert name w } =
      count direction name { ctx with counters := ctx.counters.insert name v } := by
  simp only [count_apply, Context.counted, Counting.apply, standing, Bindings.find?_insert_self,
    Bindings.insert_insert, Option.map_some, h]

end Render

/-! ## Filters -/

/-- Calls with as many arguments give the same if the filter comes to the same. -/
theorem Operation.call_congr {op : Operation} {site : Site} {v v' : Value} {args args' : List Value}
    (name : String) (h : op.indexed? site v args = op.indexed? site v' args')
    (hlength : args.length = args'.length) :
    op.call name site v args = op.call name site v' args' := by
  by_cases htakes : op.Takes args.length
  · obtain ⟨answer, hanswer, hcall⟩ := call_of_takes name site v htakes
    obtain ⟨answer', hanswer', hcall'⟩ := call_of_takes name site v' (hlength ▸ htakes)
    rw [hcall, hcall', Option.some.inj (hanswer.symm.trans (h.trans hanswer'))]
  · rw [call_of_not_takes name site v htakes, call_of_not_takes name site v' (hlength ▸ htakes),
      hlength]

namespace Filter

/-- The filters whose first argument is a number of characters, words, items or digits. -/
def limited : List (String × Operation) :=
  [("round", round), ("slice", slice), ("truncate", truncate), ("truncatewords", truncateWords)]

/-- The filters that compute with numbers. -/
def computing : List (String × Operation) :=
  [("abs", abs), ("ceil", ceil), ("divided_by", dividedBy.operation), ("floor", floor),
    ("minus", minus.operation), ("modulo", modulo.operation), ("plus", plus.operation),
    ("round", round), ("times", times.operation)]

theorem limited_standard :
    ∀ entry ∈ limited, standardOperations.reverse.lookup entry.1 = some entry.2 := by
  simp only [limited, List.forall_mem_cons]
  exact ⟨rfl, rfl, rfl, rfl, List.forall_mem_nil _⟩

theorem computing_standard :
    ∀ entry ∈ computing, standardOperations.reverse.lookup entry.1 = some entry.2 := by
  simp only [computing, List.forall_mem_cons]
  exact ⟨rfl, rfl, rfl, rfl, rfl, rfl, rfl, rfl, rfl, List.forall_mem_nil _⟩

/-! ### Numbers that limit -/

section Limits

variable {v w : Value} (h : w.toInt = v.toInt)
include h

theorem indexed?_limited : ∀ entry ∈ limited, ∀ (site : Site) (u : Value) (args : List Value),
    entry.2.indexed? site u (w :: args) = entry.2.indexed? site u (v :: args) := by
  have hcount : w.toCount = v.toCount := by rw [Value.toCount, h, Value.toCount]
  simp only [limited, List.forall_mem_cons]
  refine ⟨fun site u args => ?_, fun site u args => ?_, fun site u args => ?_,
    fun site u args => ?_, List.forall_mem_nil _⟩
  · simp only [round, Operation.indexed?, List.getElem?_cons_zero, Option.elim_some, hcount]
  · simp only [slice, Operation.indexed?, List.getElem?_cons_zero, List.getElem?_cons_succ,
      Option.map_some, h]
  · simp only [truncate, Operation.indexed?, List.getElem?_cons_zero, List.getElem?_cons_succ,
      Option.map_some, hcount]
  · simp only [truncateWords, Operation.indexed?, List.getElem?_cons_zero, List.getElem?_cons_succ,
      Option.map_some, hcount]

/-- A filter that takes a number of characters, words, items or digits sees the integer only. -/
theorem standardCall?_limited (entry : String × Operation) (hentry : entry ∈ limited) (site : Site)
    (u : Value) (args : List Value) :
    standardCall? entry.1 site u (w :: args) = standardCall? entry.1 site u (v :: args) := by
  have hindexed := indexed?_limited h entry hentry site u args
  rw [standardCall?_eq, standardCall?_eq, limited_standard entry hentry, Option.map_some,
    Option.map_some, Operation.call_congr entry.1 hindexed rfl]

theorem standardCall?_slice_length (site : Site) (u offset : Value) :
    standardCall? "slice" site u [offset, w] = standardCall? "slice" site u [offset, v] := by
  have hcount : w.toCount = v.toCount := by rw [Value.toCount, h, Value.toCount]
  have hlookup : standardOperations.reverse.lookup "slice" = some slice := rfl
  rw [standardCall?_eq, standardCall?_eq, hlookup]
  simp only [slice, Operation.call, Option.map_some, Option.elim_some, hcount]

end Limits

/-! ### Numbers to compute with -/

section Computing

variable {s : String} {d : Decimal} (h : (Value.string s).toDecimal = d)
include h

theorem Arithmetic.run_text_left (op : Arithmetic) (b : Value) :
    op.run (.string s) b = op.run (.decimal d) b := by
  subst h
  cases b <;> rfl

theorem Arithmetic.run_text_right (op : Arithmetic) (a : Value) :
    op.run a (.string s) = op.run a (.decimal d) := by
  subst h
  cases a <;> rfl

theorem indexed?_computing : ∀ entry ∈ computing, ∀ (site : Site) (args : List Value),
    entry.2.indexed? site (.string s) args = entry.2.indexed? site (.decimal d) args := by
  have hrun (op : Arithmetic) (site : Site) (args : List Value) :
      op.operation.indexed? site (.string s) args =
        op.operation.indexed? site (.decimal d) args := by
    simp only [Arithmetic.operation, Operation.indexed?, op.run_text_left h]
  subst h
  simp only [computing, List.forall_mem_cons]
  exact ⟨fun _ _ => rfl, fun _ _ => rfl, hrun dividedBy, fun _ _ => rfl, hrun minus, hrun modulo,
    hrun plus, fun _ _ => rfl, hrun times, List.forall_mem_nil _⟩

theorem indexed?_computing_argument : ∀ entry ∈ computing, ∀ (site : Site) (u : Value),
    entry.2.indexed? site u [.string s] = entry.2.indexed? site u [.decimal d] := by
  have hrun (op : Arithmetic) (site : Site) (u : Value) :
      op.operation.indexed? site u [.string s] = op.operation.indexed? site u [.decimal d] := by
    simp only [Arithmetic.operation, Operation.indexed?, List.getElem?_cons_zero, Option.map_some,
      op.run_text_right h]
  have hcount : (Value.string s).toCount = (Value.decimal d).toCount := by
    rw [Value.toCount, Value.toInt_string, h, Value.toCount, Value.toInt]
  have hround (site : Site) (u : Value) :
      round.indexed? site u [.string s] = round.indexed? site u [.decimal d] := by
    simp only [round, Operation.indexed?, List.getElem?_cons_zero, Option.elim_some, hcount]
  simp only [computing, List.forall_mem_cons]
  exact ⟨fun _ _ => rfl, fun _ _ => rfl, hrun dividedBy, fun _ _ => rfl, hrun minus, hrun modulo,
    hrun plus, hround, hrun times, List.forall_mem_nil _⟩

/-- A filter that computes with numbers takes a text for its decimal, whether it is given as the
value or as the argument. -/
theorem standardCall?_computing (entry : String × Operation) (hentry : entry ∈ computing)
    (site : Site) (u : Value) (args : List Value) :
    standardCall? entry.1 site (.string s) args = standardCall? entry.1 site (.decimal d) args ∧
      standardCall? entry.1 site u [.string s] = standardCall? entry.1 site u [.decimal d] := by
  have hvalue := indexed?_computing h entry hentry site args
  have hargument := indexed?_computing_argument h entry hentry site u
  simp only [standardCall?_eq, computing_standard entry hentry, Option.map_some]
  exact ⟨congrArg some (Operation.call_congr entry.1 hvalue rfl),
    congrArg some (Operation.call_congr entry.1 hargument rfl)⟩

end Computing

end Filter

/-! ## Numbers and their texts -/

open Render Markup Stencil.Filter Template in
/-- **A number and its text are the same number.** The text of an integer or of a decimal, with any
white space around it, counts as the same integer and as a decimal of the same value. So it makes no
difference which of them bounds a loop, limits it or says how many items are passed over, limits
what a filter leaves, or is what a counter goes on from; and a filter that computes with numbers
takes the text for the decimal without zeros at the end. -/
theorem numbers_through_text {v w : Value} (hv : v.IsNumber) (hw : v.IsTextOf w) :
    (w.toInt = v.toInt ∧ w.toDecimal.value = v.toDecimal.value) ∧
    (∀ (view : View) (e e' : Expression), e.value view = v → e'.value view = w →
      ∀ header : LoopHeader,
        (∀ last, itemsOf { header with source := .range e' last } view =
          itemsOf { header with source := .range e last } view) ∧
        (∀ first, itemsOf { header with source := .range first e' } view =
          itemsOf { header with source := .range first e } view) ∧
        itemsOf { header with limit := some e' } view =
          itemsOf { header with limit := some e } view ∧
        itemsOf { header with offset := some e' } view =
          itemsOf { header with offset := some e } view) ∧
    (∀ (site : Site) (u : Value),
      (∀ entry ∈ limited, ∀ args, standardCall? entry.1 site u (w :: args) =
        standardCall? entry.1 site u (v :: args)) ∧
      ∀ offset, standardCall? "slice" site u [offset, w] =
        standardCall? "slice" site u [offset, v]) ∧
    (∀ (direction : Direction) (name : String) (ctx : Context),
      count direction name { ctx with counters := ctx.counters.insert name w } =
        count direction name { ctx with counters := ctx.counters.insert name v }) ∧
    ∀ entry ∈ computing, ∀ (site : Site) (u : Value) (args : List Value),
      standardCall? entry.1 site w args =
        standardCall? entry.1 site (.decimal v.toDecimal.normalize) args ∧
      standardCall? entry.1 site u [w] =
        standardCall? entry.1 site u [.decimal v.toDecimal.normalize] := by
  have hint := hw.toInt_eq hv
  have hcount := hw.toCount_eq hv
  have hdecimal := hw.toDecimal_eq hv
  refine ⟨⟨hint, by rw [hdecimal, Decimal.value_normalize]⟩, ?_, fun site u =>
    ⟨fun entry hentry => standardCall?_limited hint entry hentry site u,
      standardCall?_slice_length hint site u⟩, count_congr hint, ?_⟩
  · rintro view e e' rfl rfl header
    exact ⟨fun last => itemsOf_range_congr header hint rfl,
      fun first => itemsOf_range_congr header rfl hint, itemsOf_limit_congr header hcount,
      itemsOf_offset_congr header hcount⟩
  · obtain ⟨-, -, -⟩ := hw
    exact fun entry hentry => standardCall?_computing hdecimal entry hentry

/-- A negative number with a fraction that ends in zeros. -/
def belowTwelve : Value :=
  .decimal ⟨true, 123400, 4, by decide, by decide⟩

theorem numbers_through_text_belowTwelve :
    belowTwelve.IsNumber ∧ belowTwelve.IsTextOf (.string "\t-12.34 ") ∧
      (Value.string "\t-12.34 ").toInt = belowTwelve.toInt ∧ belowTwelve.toInt = -12 ∧
      (Value.string "\t-12.34 ").toDecimal.value = belowTwelve.toDecimal.value := by
  have hnumber : belowTwelve.IsNumber := .decimal _
  have htext : belowTwelve.IsTextOf (.string "\t-12.34 ") :=
    .text (show _ = ['\t'] ++ belowTwelve.text.toList ++ [' '] by decide)
      (List.forall_mem_singleton.mpr (by decide)) (List.forall_mem_singleton.mpr (by decide))
  have hsame := (numbers_through_text hnumber htext).1
  exact ⟨hnumber, htext, hsame.1, by decide, hsame.2⟩

end Stencil
