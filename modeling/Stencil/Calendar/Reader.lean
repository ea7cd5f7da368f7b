import Stencil.Calendar.Instant
import Stencil.Text.Blank
import Stencil.Text.Digits

/-!
# Reading instants

Three ways to write an instant are read:

* date, `T`, time and offset from universal time, every number with its full width
  (`2006-07-05T10:00:00Z`)
* date and time in universal time (`2006-07-05 10:00:00`)
* a date, for its midnight in universal time (`2006-07-05`)

In the last two, numbers may be shorter and have white space before them, and a year with a sign
may have any number of digits.
-/

namespace Stencil.Calendar

/-! ## Numbers -/

/-- Reads as many digits as there are, at least `least` and at most `most`. -/
def readNumber (least most : Nat) (cs : List Char) : Option (Nat × List Char) :=
  let digits := (cs.take most).takeWhile Char.isDigit
  if digits.length < least then none
  else (Text.digitsValue? 10 digits).map (·, cs.drop digits.length)

/-- Reads one character. -/
def readChar (c : Char) : List Char → Option (List Char)
  | d :: rest => if d = c then some rest else none
  | [] => none

/-- Reads a number of one or two digits, with white space before it. -/
def readShortNumber (cs : List Char) : Option (Nat × List Char) :=
  readNumber 1 2 (Text.trimStart cs)

/-- Reads a year: up to four digits, or a sign and any number of digits. -/
def readYear (cs : List Char) : Option (Int × List Char) :=
  match Text.trimStart cs with
  | '-' :: rest => (readNumber 1 rest.length rest).map fun (n, rest) => (-(n : Int), rest)
  | '+' :: rest => (readNumber 1 rest.length rest).map fun (n, rest) => ((n : Int), rest)
  | cs => (readNumber 1 4 cs).map fun (n, rest) => ((n : Int), rest)

/-! ## Dates and times -/

/-- The day of a date, if the date exists and its year is in range. -/
def dayInRange? (d : Date) : Option Int :=
  d.toDay?.filter Instant.isDayInRange

/-- The time of a day; second 60 is a leap second. -/
def timeOfDay? (hour minute second nano : Nat) : Option (Nat × Nat) :=
  if hour < 24 && minute < 60 && second ≤ 60 then
    let leap := second = 60
    some (hour * 3600 + minute * 60 + (if leap then 59 else second),
      (if leap then Instant.secondNanos else 0) + nano)
  else none

/-- Reads a date with short numbers. -/
def readDate (cs : List Char) : Option (Date × List Char) := do
  let (year, cs) ← readYear cs
  let cs ← readChar '-' cs
  let (month, cs) ← readShortNumber cs
  let cs ← readChar '-' cs
  let (day, cs) ← readShortNumber cs
  return (⟨year, month, day⟩, cs)

/-- The instant that a date denotes: the beginning of the day. -/
def midnight? (cs : List Char) : Option Instant := do
  let (date, cs) ← readDate cs
  if cs.isEmpty then return ⟨← dayInRange? date, 0, 0⟩ else none

/-- The instant that a date and a time denote. -/
def dateTime? (cs : List Char) : Option Instant := do
  let (date, cs) ← readDate cs
  let (hour, cs) ← readShortNumber cs
  let cs ← readChar ':' cs
  let (minute, cs) ← readShortNumber cs
  let cs ← readChar ':' cs
  let (second, cs) ← readShortNumber cs
  if cs.isEmpty then
    let (second, nano) ← timeOfDay? hour minute second 0
    return ⟨← dayInRange? date, second, nano⟩
  else none

/-! ## With offset -/

/-- Reads a fraction of a second in nanoseconds; digits beyond the ninth are passed over. -/
def readFraction : List Char → Option (Nat × List Char)
  | '.' :: cs => do
    let digits := (cs.take 9).takeWhile Char.isDigit
    let (n, rest) ← readNumber 1 9 cs
    return (n * 10 ^ (9 - digits.length), rest.dropWhile Char.isDigit)
  | cs => some (0, cs)

/-- The sign of an offset: a plus, a hyphen or a minus sign. -/
def readSign : List Char → Option (Int × List Char)
  | '+' :: rest => some (1, rest)
  | '-' :: rest => some (-1, rest)
  | '−' :: rest => some (-1, rest)
  | _ => none

/-- Reads an offset from universal time in seconds. -/
def readOffset (cs : List Char) : Option (Int × List Char) :=
  match cs with
  | 'Z' :: rest => some (0, rest)
  | 'z' :: rest => some (0, rest)
  | _ => do
    let (sign, cs) ← readSign cs
    let (hours, cs) ← readNumber 2 2 cs
    let cs ← readChar ':' cs
    let (minutes, cs) ← readNumber 2 2 cs
    if minutes < 60 && hours < 24 then
      return (sign * (hours * 3600 + minutes * 60 : Nat), cs)
    else none

/-- Reads what stands between date and time. -/
def readDivider : List Char → Option (List Char)
  | c :: rest => if c = 'T' || c = 't' || c = ' ' then some rest else none
  | [] => none

/-- The instant that a date, a time and an offset denote. -/
def offsetDateTime? (cs : List Char) : Option Instant := do
  let (year, cs) ← readNumber 4 4 cs
  let cs ← readChar '-' cs
  let (month, cs) ← readNumber 2 2 cs
  let cs ← readChar '-' cs
  let (day, cs) ← readNumber 2 2 cs
  let cs ← readDivider cs
  let (hour, cs) ← readNumber 2 2 cs
  let cs ← readChar ':' cs
  let (minute, cs) ← readNumber 2 2 cs
  let cs ← readChar ':' cs
  let (second, cs) ← readNumber 2 2 cs
  let (nano, cs) ← readFraction cs
  let (offset, cs) ← readOffset cs
  if cs.isEmpty then
    let (second, nano) ← timeOfDay? hour minute second nano
    return Instant.before ⟨← dayInRange? ⟨year, month, day⟩, second, nano⟩ offset
  else none

/-- The instant that a text denotes in one of the three ways. -/
def Instant.ofText? (cs : List Char) : Option Instant :=
  offsetDateTime? cs <|> dateTime? cs <|> midnight? cs

end Stencil.Calendar
