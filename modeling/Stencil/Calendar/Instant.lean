import Stencil.Calendar.Date

/-!
# Instants

A moment in universal time: a day, a second of the day, and nanoseconds. In a leap second the
nanoseconds go beyond a second.
-/

namespace Stencil.Calendar

/-- A moment in universal time. -/
structure Instant where
  day : Int
  second : Nat
  nanosecond : Nat := 0
  deriving DecidableEq, Repr

namespace Instant

/-- The number of seconds of a day. -/
def daySeconds : Nat := 86400

/-- The number of nanoseconds of a second. -/
def secondNanos : Nat := 1000000000

/-- The beginning of the 1st of January 1970. -/
def epoch : Instant := ⟨0, 0, 0⟩

/-- The first year that dates may have. -/
def firstYear : Int := -262143

/-- The last year that dates may have. -/
def lastYear : Int := 262142

/-- Whether a day is in a year that dates may have. -/
def isDayInRange (day : Int) : Bool :=
  startOfYear firstYear ≤ day && day < startOfYear (lastYear + 1)

/-- The instant a number of seconds after the epoch. -/
def ofSeconds (seconds : Int) : Instant :=
  ⟨seconds / daySeconds, (seconds % daySeconds).toNat, 0⟩

/-- The instant a number of seconds after the epoch, if its date is in range. -/
def ofTimestamp? (seconds : Int) : Option Instant :=
  let i := ofSeconds seconds
  if isDayInRange i.day then some i else none

/-- The seconds from the epoch to an instant. A leap second counts as the one before. -/
def timestamp (i : Instant) : Int :=
  i.day * daySeconds + i.second

/-- An instant some seconds earlier. -/
def before (i : Instant) (seconds : Int) : Instant :=
  { ofSeconds (i.timestamp - seconds) with nanosecond := i.nanosecond }

/-- The hour of the day. -/
def hour (i : Instant) : Nat := i.second / 3600

/-- The hour on a clock face. -/
def hour12 (i : Instant) : Nat :=
  if i.hour % 12 = 0 then 12 else i.hour % 12

/-- The minute of the hour. -/
def minute (i : Instant) : Nat := i.second / 60 % 60

/-- The second of the minute; 60 in a leap second. -/
def secondOfMinute (i : Instant) : Nat :=
  i.second % 60 + i.nanosecond / secondNanos

/-- The nanoseconds within the second. -/
def nanoOfSecond (i : Instant) : Nat :=
  i.nanosecond % secondNanos

/-- Whether an instant is in the second half of the day. -/
def isAfternoon (i : Instant) : Bool :=
  12 ≤ i.hour

end Instant

end Stencil.Calendar
