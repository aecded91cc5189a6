import RecordQuery.Time.Calendar

/-!
Instants and the text by which they are compared: date and time of day in UTC, to the second.
-/

namespace RecordQuery

/-- Seconds since the start of 1970 and nanoseconds within the second. In a leap second the
seconds are those of the second before it and the nanoseconds start at 10^9. -/
structure Instant where
  seconds : Int
  nanos : Nat
  deriving DecidableEq, Repr, Inhabited

namespace Instant

/-- The day that seconds are counted from. -/
def epochDay : Int := Calendar.dayOf ⟨1970, 1, 1⟩

/-- The instant lies in a leap second. -/
def inLeapSecond (t : Instant) : Bool :=
  1000000000 ≤ t.nanos

/-- The instant as it is shown. A leap second is shown at the end of a minute only. In the middle of
one it is shown as the next second. -/
def carried (t : Instant) : Instant :=
  if t.inLeapSecond ∧ t.seconds % 60 ≠ 59 then ⟨t.seconds + 1, t.nanos % 1000000000⟩ else t

/-- The date in UTC. -/
def date (t : Instant) : Date :=
  Calendar.dateOf (t.seconds / 86400 + epochDay)

def secondOfDay (t : Instant) : Nat :=
  (t.seconds % 86400).toNat

/-- The instant of a date and a time of day in UTC. -/
def ofDate (date : Date) (secondOfDay nanos : Nat) : Instant :=
  ⟨(Calendar.dayOf date - epochDay) * 86400 + secondOfDay, nanos⟩

/-- The start of year 1, the zero value among instants. -/
def zero : Instant :=
  ofDate ⟨1, 1, 1⟩ 0 0

/-- A number with at least two digits. -/
def twoDigits (n : Nat) : String :=
  if n < 10 then "0" ++ toString n else toString n

/-- A number with at least four digits. -/
def fourDigits (n : Nat) : String :=
  String.ofList (List.replicate (4 - (toString n).length) '0') ++ toString n

/-- Years beyond four digits, and years before 0, carry a sign. -/
def yearText (year : Int) : String :=
  if year < 0 then "-" ++ fourDigits year.natAbs
  else if 9999 < year then "+" ++ fourDigits year.natAbs
  else fourDigits year.natAbs

/-- The text of an instant: `2024-03-01T12:00:00Z`. Fractions of a second are left out, and a
leap second is second 60. -/
def text (t : Instant) : String :=
  let d := t.date
  let s := t.secondOfDay
  let second := s % 60 + if t.inLeapSecond then 1 else 0
  yearText d.year ++ "-" ++ twoDigits d.month ++ "-" ++ twoDigits d.day ++ "T"
    ++ twoDigits (s / 3600) ++ ":" ++ twoDigits (s / 60 % 60) ++ ":" ++ twoDigits second ++ "Z"

end Instant

end RecordQuery
