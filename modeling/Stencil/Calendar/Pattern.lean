/-!
# Date patterns

A pattern is text with directives: `%` and a letter, and between them `-`, `_` or `0` to choose
how a number is padded. A pattern with an unknown directive is no pattern, and a padding is refused
where there is no single number.
-/

namespace Stencil.Calendar

/-! ## Items -/

/-- How a number is filled up to its width. -/
inductive Padding where
  | none
  | zero
  | space
  deriving DecidableEq, Repr

/-- A number of an instant. -/
inductive Field where
  | year
  | century
  | yearOfCentury
  | weekYear
  | weekYearOfCentury
  | quarter
  | month
  | day
  | weekFromSunday
  | weekFromMonday
  | weekOfYear
  | weekdayFromSunday
  | weekdayFromMonday
  | dayOfYear
  | hour
  | hour12
  | minute
  | second
  | nanosecond
  | timestamp
  deriving DecidableEq, Repr

/-- One piece of a date text. -/
inductive Item where
  | text (cs : List Char)
  | number (field : Field) (padding : Padding)
  | shortMonth
  | longMonth
  | shortWeekday
  | longWeekday
  | lowerMeridiem
  | upperMeridiem
  /-- The digits of the fraction of a second, without point. -/
  | fraction (digits : Nat)
  /-- The fraction of a second behind a point, in thousands as far as needed. -/
  | shortestFraction
  /-- Date, time and offset with a fraction as far as needed. -/
  | fullInstant
  deriving DecidableEq, Repr

/-- A pattern, read. -/
abbrev Pattern := List Item

namespace Pattern

/-! ## Directives -/

private def literal (s : String) : Item := .text s.toList

private def zeroPadded (field : Field) : Item := .number field .zero

private def clock : Pattern :=
  [zeroPadded .hour, literal ":", zeroPadded .minute, literal ":", zeroPadded .second]

private def slashedDate : Pattern :=
  [zeroPadded .month, literal "/", zeroPadded .day, literal "/", zeroPadded .yearOfCentury]

/-- What a letter behind `%` stands for. -/
def directive? : Char → Option Pattern
  | 'A' => some [.longWeekday]
  | 'B' => some [.longMonth]
  | 'C' => some [zeroPadded .century]
  | 'D' => some slashedDate
  | 'F' => some [zeroPadded .year, literal "-", zeroPadded .month, literal "-", zeroPadded .day]
  | 'G' => some [zeroPadded .weekYear]
  | 'H' => some [zeroPadded .hour]
  | 'I' => some [zeroPadded .hour12]
  | 'M' => some [zeroPadded .minute]
  | 'P' => some [.lowerMeridiem]
  | 'R' => some [zeroPadded .hour, literal ":", zeroPadded .minute]
  | 'S' => some [zeroPadded .second]
  | 'T' => some clock
  | 'U' => some [zeroPadded .weekFromSunday]
  | 'V' => some [zeroPadded .weekOfYear]
  | 'W' => some [zeroPadded .weekFromMonday]
  | 'X' => some clock
  | 'Y' => some [zeroPadded .year]
  | 'Z' => some [literal "UTC"]
  | 'a' => some [.shortWeekday]
  | 'b' => some [.shortMonth]
  | 'c' => some ([.shortWeekday, literal " ", .shortMonth, literal " ", .number .day .space,
      literal " "] ++ clock ++ [literal " ", zeroPadded .year])
  | 'd' => some [zeroPadded .day]
  | 'e' => some [.number .day .space]
  | 'f' => some [zeroPadded .nanosecond]
  | 'g' => some [zeroPadded .weekYearOfCentury]
  | 'h' => some [.shortMonth]
  | 'j' => some [zeroPadded .dayOfYear]
  | 'k' => some [.number .hour .space]
  | 'l' => some [.number .hour12 .space]
  | 'm' => some [zeroPadded .month]
  | 'n' => some [literal "\n"]
  | 'p' => some [.upperMeridiem]
  | 'q' => some [.number .quarter .none]
  | 'r' => some [zeroPadded .hour12, literal ":", zeroPadded .minute, literal ":",
      zeroPadded .second, literal " ", .upperMeridiem]
  | 's' => some [.number .timestamp .none]
  | 't' => some [literal "\t"]
  | 'u' => some [.number .weekdayFromMonday .none]
  | 'v' => some [.number .day .space, literal "-", .shortMonth, literal "-", zeroPadded .year]
  | 'w' => some [.number .weekdayFromSunday .none]
  | 'x' => some slashedDate
  | 'y' => some [zeroPadded .yearOfCentury]
  | 'z' => some [literal "+0000"]
  | '+' => some [.fullInstant]
  | '%' => some [literal "%"]
  | _ => none

/-- The padding that a modifier asks for. -/
def padding? : Char → Option Padding
  | '-' => some .none
  | '0' => some .zero
  | '_' => some .space
  | _ => none

/-- The directive of a letter with another padding. -/
def repadded? (padding : Padding) (c : Char) : Option Pattern :=
  match directive? c with
  | some [.number field _] => some [.number field padding]
  | _ => none

/-- What the characters behind a `%` stand for, and how many of them do. -/
def directiveAt? (cs : List Char) : Option (Pattern × Nat) :=
  if ":::z".toList.isPrefixOf cs then some ([literal "+00"], 4)
  else if "::z".toList.isPrefixOf cs then some ([literal "+00:00:00"], 3)
  else if ":z".toList.isPrefixOf cs then some ([literal "+00:00"], 2)
  else if ".3f".toList.isPrefixOf cs then some ([literal ".", .fraction 3], 3)
  else if ".6f".toList.isPrefixOf cs then some ([literal ".", .fraction 6], 3)
  else if ".9f".toList.isPrefixOf cs then some ([literal ".", .fraction 9], 3)
  else if ".f".toList.isPrefixOf cs then some ([.shortestFraction], 2)
  else if "3f".toList.isPrefixOf cs then some ([.fraction 3], 2)
  else if "6f".toList.isPrefixOf cs then some ([.fraction 6], 2)
  else if "9f".toList.isPrefixOf cs then some ([.fraction 9], 2)
  else
    match cs with
    | [] => none
    | c :: rest =>
      match padding? c, rest with
      | some padding, letter :: _ => (repadded? padding letter).map (·, 2)
      | some _, [] => none
      | none, _ => (directive? c).map (·, 1)

/-! ## Reading patterns -/

/-- Reads a pattern. The first argument counts the characters that belong to a directive already
read. -/
def readFrom : Nat → List Char → Option Pattern
  | _, [] => some []
  | skip + 1, _ :: rest => readFrom skip rest
  | 0, c :: rest =>
    if c = '%' then
      match directiveAt? rest with
      | some (items, length) => (readFrom length rest).map (items ++ ·)
      | none => none
    else (readFrom 0 rest).map (.text [c] :: ·)

/-- The pattern that a text denotes. -/
def ofText? (cs : List Char) : Option Pattern :=
  readFrom 0 cs

end Pattern

end Stencil.Calendar
