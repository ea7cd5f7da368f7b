import Stencil.Calendar.Instant
import Stencil.Calendar.Pattern

/-!
# Instants as text

Writes the items of a pattern for an instant.
-/

namespace Stencil.Calendar

/-! ## Names -/

/-- The names of the days of the week. -/
def weekdayNames : List String :=
  ["Monday", "Tuesday", "Wednesday", "Thursday", "Friday", "Saturday", "Sunday"]

/-- The names of the months. -/
def monthNames : List String :=
  ["January", "February", "March", "April", "May", "June", "July", "August", "September",
   "October", "November", "December"]

/-- The letters of a short name. -/
def shortName (name : String) : List Char :=
  name.toList.take 3

/-- The name of the day of the week. -/
def weekdayName (day : Int) : String :=
  weekdayNames.getD (weekday day) ""

/-- The name of a month. -/
def monthName (month : Nat) : String :=
  monthNames.getD (month - 1) ""

/-! ## Numbers -/

/-- A number of two digits. A first digit beyond nine is the character as far behind `0`. -/
def twoDigits (n : Nat) (padding : Padding) : List Char :=
  let tens : List Char :=
    if n / 10 = 0 then
      match padding with
      | .none => []
      | .zero => ['0']
      | .space => [' ']
    else [Char.ofNat (48 + n / 10)]
  tens ++ [Char.ofNat (48 + n % 10)]

/-- A number filled up to a width, sign included. -/
def paddedNumber (sign : List Char) (digits : List Char) (width : Nat) (padding : Padding) :
    List Char :=
  let missing := width - (sign.length + digits.length)
  match padding with
  | .none => sign ++ digits
  | .zero => sign ++ List.replicate missing '0' ++ digits
  | .space => List.replicate missing ' ' ++ sign ++ digits

/-- A number of at least `width` digits, with a sign if it is negative. -/
def wideNumber (width : Nat) (n : Int) (padding : Padding) : List Char :=
  paddedNumber (if n < 0 then ['-'] else []) (Nat.toDigits 10 n.natAbs) width padding

/-- A year of at least four digits; one that is not between 0 and 9999 has a sign. -/
def yearText (year : Int) (padding : Padding) : List Char :=
  if 0 ≤ year && year ≤ 9999 then
    paddedNumber [] (Nat.toDigits 10 year.natAbs) 4 padding
  else
    paddedNumber [if year < 0 then '-' else '+'] (Nat.toDigits 10 year.natAbs) 5 padding

/-- The century of a year, held in eight bits. -/
def centuryOf (year : Int) : Nat :=
  (year / 100 % 256).toNat

/-- A number of an instant. -/
def fieldText (i : Instant) (field : Field) (padding : Padding) : List Char :=
  let date := Date.ofDay i.day
  match field with
  | .year => yearText date.year padding
  | .century => twoDigits (centuryOf date.year) padding
  | .yearOfCentury => twoDigits (date.year % 100).toNat padding
  | .weekYear => yearText (weekYear i.day) padding
  | .weekYearOfCentury => twoDigits (weekYear i.day % 100).toNat padding
  | .quarter => Nat.toDigits 10 ((date.month + 2) / 3)
  | .month => twoDigits date.month padding
  | .day => twoDigits date.day padding
  | .weekFromSunday => twoDigits (weekFromSunday i.day) padding
  | .weekFromMonday => twoDigits (weekFromMonday i.day) padding
  | .weekOfYear => twoDigits (weekOfYear i.day) padding
  | .weekdayFromSunday => Nat.toDigits 10 ((weekday i.day + 1) % 7)
  | .weekdayFromMonday => Nat.toDigits 10 (weekday i.day + 1)
  | .dayOfYear => wideNumber 3 (dayOfYear i.day + 1) padding
  | .hour => twoDigits i.hour padding
  | .hour12 => twoDigits i.hour12 padding
  | .minute => twoDigits i.minute padding
  | .second => twoDigits i.secondOfMinute padding
  | .nanosecond => wideNumber 9 i.nanoOfSecond padding
  | .timestamp => wideNumber 9 i.timestamp padding

/-! ## Fractions of a second -/

/-- The first digits of the fraction of a second. -/
def fractionText (i : Instant) (digits : Nat) : List Char :=
  wideNumber digits (i.nanoOfSecond / 10 ^ (9 - digits) : Nat) .zero

/-- The fraction of a second behind a point, in thousands as far as needed; nothing for a full
second. -/
def shortestFractionText (i : Instant) : List Char :=
  let n := i.nanoOfSecond
  if n = 0 then []
  else if n % 1000000 = 0 then '.' :: fractionText i 3
  else if n % 1000 = 0 then '.' :: fractionText i 6
  else '.' :: fractionText i 9

/-! ## Patterns -/

/-- Half of the day. -/
def meridiem (i : Instant) : String :=
  if i.isAfternoon then "PM" else "AM"

/-- One item of a pattern. -/
def itemText (i : Instant) : Item → List Char
  | .text cs => cs
  | .number field padding => fieldText i field padding
  | .shortMonth => shortName (monthName (Date.ofDay i.day).month)
  | .longMonth => (monthName (Date.ofDay i.day).month).toList
  | .shortWeekday => shortName (weekdayName i.day)
  | .longWeekday => (weekdayName i.day).toList
  | .lowerMeridiem => (meridiem i).toList.map Char.toLower
  | .upperMeridiem => (meridiem i).toList
  | .fraction digits => fractionText i digits
  | .shortestFraction => shortestFractionText i
  | .fullInstant =>
    fieldText i .year .zero ++ '-' :: fieldText i .month .zero ++ '-' :: fieldText i .day .zero ++
      'T' :: fieldText i .hour .zero ++ ':' :: fieldText i .minute .zero ++
      ':' :: fieldText i .second .zero ++ shortestFractionText i ++ "+00:00".toList

/-- An instant as a pattern has it. -/
def Instant.format (i : Instant) (pattern : Pattern) : List Char :=
  pattern.flatMap (itemText i)

end Stencil.Calendar
