import Caretaker.Calendar.Instant

/-!
# Counting from the epoch

System clocks count nanoseconds from the start of 1970.  Years are counted here
from March, so that the day that leap years add is the last of its year, and in
spans of 400 years, which all have the same number of days.
-/

namespace Caretaker.Calendar

/-- The days of 400 years. -/
def daysOfSpan : Nat := 146097

/-- From the first of March of the year 0 to the start of 1970. -/
def daysBeforeEpoch : Nat := 719468

/-- The date that lies so many days after the first of January 1970. -/
def Date.ofEpochDays? (days : Nat) : Option Date :=
  let day := days + daysBeforeEpoch
  let inSpan := day % daysOfSpan
  let yearOfSpan := (inSpan - inSpan / 1460 + inSpan / 36524 - inSpan / 146096) / 365
  let inYear := inSpan - (365 * yearOfSpan + yearOfSpan / 4 - yearOfSpan / 100)
  let fromMarch := (5 * inYear + 2) / 153
  let dayOfMonth := inYear - (153 * fromMarch + 2) / 5 + 1
  let month := if fromMarch < 10 then fromMarch + 3 else fromMarch - 9
  let year := 400 * (day / daysOfSpan) + yearOfSpan + (if month ≤ 2 then 1 else 0)
  Date.of? year month dayOfMonth

/-- The instant that lies so many nanoseconds after the start of 1970. -/
def Instant.ofEpochNanos? (nanos : Nat) : Option Instant := do
  let seconds := nanos / 1000000000
  let date ← Date.ofEpochDays? (seconds / 86400)
  let second := seconds % 86400
  Instant.of? date (second / 3600) (second / 60 % 60) (second % 60) (nanos % 1000000000)

end Caretaker.Calendar
