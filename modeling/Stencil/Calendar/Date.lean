import Stencil.Power

/-!
# Dates

Days of the Gregorian calendar, extended to all years. A day is known by its number, day 0 being
the 1st of January 1970; year, month and day of the month are computed from it and back.

* `startOfYear` — the number of the first day of a year
* `yearOf`, `startOfYear_yearOf_le`, `lt_startOfYear_succ_yearOf` — a day lies in its year
* `Date.ofDay`, `Date.toDay?` — between day numbers and dates
-/

namespace Stencil.Calendar

/-! ## Years -/

/-- The number of the day from which the first of January of the year 1 is 0. -/
def epochOffset : Int := 719162

/-- Whether a year has a 29th of February. -/
def isLeap (year : Int) : Bool :=
  year % 4 = 0 && (year % 100 ≠ 0 || year % 400 = 0)

/-- The number of the first day of a year. -/
def startOfYear (year : Int) : Int :=
  365 * (year - 1) + (year - 1) / 4 - (year - 1) / 100 + (year - 1) / 400 - epochOffset

/-- The year of a day. The average length of a year gives it up to one. -/
def yearOf (day : Int) : Int :=
  let guess := (day + epochOffset) * 400 / 146097 + 1
  if day < startOfYear guess then guess - 1
  else if startOfYear (guess + 1) ≤ day then guess + 1
  else guess

theorem startOfYear_yearOf_le (day : Int) : startOfYear (yearOf day) ≤ day := by
  simp only [yearOf]
  split
  · unfold startOfYear epochOffset at *
    omega
  · split
    · assumption
    · exact Int.not_lt.mp (by assumption)

theorem lt_startOfYear_succ_yearOf (day : Int) : day < startOfYear (yearOf day + 1) := by
  simp only [yearOf]
  split
  · rw [Int.sub_add_cancel]
    assumption
  · split
    · unfold startOfYear epochOffset at *
      omega
    · exact Int.not_le.mp (by assumption)

/-- The number of a day within its year, the first being 0. -/
def dayOfYear (day : Int) : Nat :=
  (day - startOfYear (yearOf day)).toNat

/-! ## Months -/

/-- The lengths of the months of a year. -/
def monthLengths (leap : Bool) : List Nat :=
  [31, if leap then 29 else 28, 31, 30, 31, 30, 31, 31, 30, 31, 30, 31]

/-- The month that a day of the year falls in, and the day of the month. Months are given by their
lengths, the first of them having the number `month`. -/
def splitMonth : (month : Nat) → List Nat → Nat → Nat × Nat
  | month, [], n => (month, n + 1)
  | month, length :: rest, n =>
    if n < length then (month, n + 1) else splitMonth (month + 1) rest (n - length)

/-! ## Dates -/

/-- A date by year, month and day of the month. -/
structure Date where
  year : Int
  month : Nat
  day : Nat
  deriving DecidableEq, Repr, Inhabited

/-- The date of a day. -/
def Date.ofDay (day : Int) : Date :=
  let (month, dayOfMonth) := splitMonth 1 (monthLengths (isLeap (yearOf day))) (dayOfYear day)
  ⟨yearOf day, month, dayOfMonth⟩

/-- The day of a date, if the date exists. -/
def Date.toDay? (d : Date) : Option Int :=
  let lengths := monthLengths (isLeap d.year)
  match lengths[d.month - 1]? with
  | some length =>
    if 1 ≤ d.month && 1 ≤ d.day && d.day ≤ length then
      let before : Nat := (lengths.take (d.month - 1)).foldl (· + ·) 0
      some (startOfYear d.year + before + (d.day - 1))
    else none
  | none => none

/-! ## Weeks -/

/-- The day of the week, Monday being 0. -/
def weekday (day : Int) : Nat :=
  ((day + 3) % 7).toNat

/-- The number of the week of the year, where weeks begin on Sunday and the days before the first
Sunday are in week 0. -/
def weekFromSunday (day : Int) : Nat :=
  (dayOfYear day + 7 - (weekday day + 1) % 7) / 7

/-- The number of the week of the year, where weeks begin on Monday and the days before the first
Monday are in week 0. -/
def weekFromMonday (day : Int) : Nat :=
  (dayOfYear day + 7 - weekday day) / 7

/-- The Thursday of the week of a day. It decides which year the week belongs to. -/
def thursday (day : Int) : Int :=
  day - weekday day + 3

/-- The year that the week of a day belongs to. -/
def weekYear (day : Int) : Int :=
  yearOf (thursday day)

/-- The number of the week of a day within the year it belongs to. -/
def weekOfYear (day : Int) : Nat :=
  dayOfYear (thursday day) / 7 + 1

end Stencil.Calendar
