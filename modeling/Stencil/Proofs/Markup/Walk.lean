import Stencil.Markup.Reader

/-!
# Reading at an index

A program keeps all lexemes of a markup, with one for the end behind them, and reads them at an
index that it moves on. It would stop at an index that is out of range, it must not move beyond the
end, and its loops might go on for ever. Here reading is written in this way, with no result in any
of these cases. A limit tells how many calls and turns of loops may stand inside each other, so a
reader comes to an end if it has a result at some limit.

* `Walk.here`, `Walk.advance` — where an index could be wrong
* `Walk.place` — the place of a lexeme further ahead, which may wrap around
* `Walk.endless` — where the limit is reached
* `Walk.take?`, `Walk.expect` — taking lexemes
* `Walk.expression`, `Walk.condition`, `Walk.pipeline` — the readers, with their loops
-/

namespace Stencil.Markup

/-- The lexeme for the end of a markup. -/
def finish : Lexeme := ⟨.finish, []⟩

/-- Reading at an index. There is no result where the program would stop, would move beyond the end
or has reached the limit. -/
abbrev Walk := ExceptT SyntaxError (StateT Nat Option)

namespace Walk

variable (all : List Lexeme)

/-! ## The cursor -/

/-- The place that is some places ahead of an index. It is a word, so it wraps around where the sum
is too great for one; no place within the lexemes is, since they stand in memory. -/
def place (i : Nat) (skip : UInt64) : Nat :=
  if i + skip.toNat < all.length then i + skip.toNat else (i + skip.toNat) % UInt64.size

/-- The lexeme that stands some places ahead, if there is one. -/
def ahead? (skip : UInt64) : Walk (Option Lexeme) :=
  fun i => some (.ok all[place all i skip]?, i)

/-- The lexeme at the index, which must be in range. -/
def here : Walk Lexeme :=
  fun i => all[i]?.map fun t => (.ok t, i)

/-- Moves on by one lexeme, of which the last one is not passed. -/
def advance : Walk Unit :=
  fun i => if i + 1 < all.length then some (.ok (), i + 1) else none

/-- There is no result at the limit. -/
def endless {α : Type} : Walk α :=
  fun _ => none

/-- Whether the lexeme some places ahead is of a kind. -/
def look (kind : Kind) (skip : UInt64) : Walk Bool := do
  return (← ahead? all skip).any (·.kind == kind)

/-- Whether the next lexeme is a certain word. -/
def lookWord (word : String) : Walk Bool := do
  return (← ahead? all 0).any fun t => t.kind == .identifier && t.text == word.toList

/-- Takes the next lexeme if it is of a kind. The end is never taken. -/
def take? (kind : Kind) : Walk (Option (List Char)) := do
  if kind == .finish || !(← look all kind 0) then return none
  else
    let t ← here all
    advance all
    return some t.text

/-- Takes the next lexeme if it is a certain word. -/
def takeWord? (word : String) : Walk Bool := do
  if ← lookWord all word then
    advance all
    return true
  else return false

/-- What a message says about the next lexeme. -/
def describe : Walk String := do
  match ← ahead? all 0 with
  | none => return Kind.finish.title
  | some t =>
    if t.kind == .finish then return t.kind.title
    else return t.kind.title ++ " '" ++ String.ofList t.text ++ "'"

/-- Fails since something else was expected. -/
def refuse {α : Type} (expected : String) : Walk α := do
  throw (.unexpectedToken expected (← describe all))

/-- Takes the next lexeme, which must be of a kind. -/
def expect (kind : Kind) : Walk (List Char) := do
  match ← take? all kind with
  | some text => return text
  | none => refuse all kind.title

/-- Demands the end of the markup. -/
def expectFinish : Walk Unit := do
  if ← look all .finish 0 then return () else refuse all Kind.finish.title

/-! ## The readers -/

mutual

/-- Reads an expression. -/
def expression : Nat → Walk Expression
  | 0 => endless
  | limit + 1 => do
    if ← look all .finish 0 then return .literal .nil
    else
      match ← take? all .string with
      | some text => return .literal (.string (String.ofList text))
      | none =>
        match ← take? all .integer with
        | some text =>
          match Integer.ofText? text with
          | some n => return .literal (.int n)
          | none => throw (.invalid (.integerOutOfRange (String.ofList text)))
        | none =>
          match ← take? all .decimal with
          | some text =>
            match Decimal.ofText? text with
            | some d => return .literal (.decimal d)
            | none => throw (.invalid (.decimalOutOfRange (String.ofList text)))
          | none => if ← look all .identifier 0 then lookup limit [] else refuse all "expression"

/-- Reads the steps of a lookup as long as a name comes. -/
def lookup : Nat → List Expression → Walk Expression
  | 0, _ => endless
  | limit + 1, taken => do
    match ← take? all .identifier with
    | none => return .lookup taken
    | some text =>
      if taken.isEmpty then
        match constant? (String.ofList text) with
        | some value => return .literal value
        | none => behind limit [.name (String.ofList text)]
      else behind limit (taken ++ [stepOf (String.ofList text)])

/-- Reads what stands behind a name: subscripts, and what comes behind them. -/
def behind : Nat → List Expression → Walk Expression
  | 0, _ => endless
  | limit + 1, taken => do onward limit (← subscripts limit taken)

/-- Reads on behind a point. -/
def onward : Nat → List Expression → Walk Expression
  | 0, _ => endless
  | limit + 1, taken => do
    match ← take? all .dot with
    | none => return .lookup taken
    | some _ => lookup limit taken

/-- Reads subscripts as long as a bracket opens. -/
def subscripts : Nat → List Expression → Walk (List Expression)
  | 0, _ => endless
  | limit + 1, taken => do
    match ← take? all .openSquare with
    | none => return taken
    | some _ =>
      let key ← expression limit
      let _ ← expect all .closeSquare
      subscripts limit (taken ++ [.subscript key])

end

/-- Reads an expression or a comparison of two. -/
def comparison (limit : Nat) : Walk Comparison := do
  let left ← expression all limit
  match ← take? all .comparison with
  | none => return ⟨left, none⟩
  | some symbol =>
    match Operator.ofSymbol? (String.ofList symbol) with
    | none => throw (.unknownOperator (String.ofList symbol))
    | some operator => return ⟨left, some (operator, ← expression all limit)⟩

/-- Takes a connective if there is one. -/
def connective? : Walk (Option Connective) := do
  if ← takeWord? all "and" then return some .and
  else if ← takeWord? all "or" then return some .or
  else return none

/-- Reads conditions as long as they are linked. -/
def condition : Nat → Walk Condition
  | 0 => endless
  | limit + 1 => do
    let test ← comparison all limit
    match ← connective? all with
    | none => return .simple test
    | some connective => return .linked test connective (← condition limit)

/-- Reads an argument of a filter. -/
def argument (limit : Nat) : Walk Argument := do
  if ← look all .identifier 0 <&&> look all .colon 1 then
    let name ← expect all .identifier
    let _ ← expect all .colon
    return (some (String.ofList name), ← expression all limit)
  else return (none, ← expression all limit)

/-- Reads arguments as long as a comma comes. -/
def arguments : Nat → FilterCall → Walk FilterCall
  | 0, _ => endless
  | limit + 1, call => do
    let a ← argument all limit
    match ← take? all .comma with
    | none => return call.add a
    | some _ => arguments limit (call.add a)

/-- Reads a filter behind its `|`. -/
def filter (limit : Nat) : Walk FilterCall := do
  let name ← expect all .identifier
  match ← take? all .colon with
  | none => return ⟨String.ofList name, [], []⟩
  | some _ => arguments all limit ⟨String.ofList name, [], []⟩

/-- Reads filters as long as a `|` comes. -/
def filters : Nat → List FilterCall → Walk (List FilterCall)
  | 0, _ => endless
  | limit + 1, calls => do
    match ← take? all .pipe with
    | none => return calls
    | some _ => filters limit (calls ++ [← filter all limit])

/-- Reads an expression and its filters. -/
def pipeline (limit : Nat) : Walk Pipeline := do
  let source ← expression all limit
  return ⟨source, ← filters all limit []⟩

end Walk

end Stencil.Markup
