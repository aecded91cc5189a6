/-!
The Gregorian calendar, extended over all years. Days are counted from the first of January of
year 1, which is day 0; years before it are 0, -1 and so on.
-/

namespace RecordQuery

/-- A day of the calendar. -/
structure Date where
  year : Int
  month : Nat
  day : Nat
  deriving DecidableEq, Repr

namespace Calendar

def isLeap (year : Int) : Bool :=
  year % 4 == 0 && (year % 100 != 0 || year % 400 == 0)

/-- The days before the first of January of the year. -/
def daysBeforeYear (year : Int) : Int :=
  365 * (year - 1) + (year - 1) / 4 - (year - 1) / 100 + (year - 1) / 400

/-- The days of the year before the first of the month. -/
def daysBeforeMonth (leap : Bool) (month : Nat) : Nat :=
  let inCommonYear := match month with
    | 0 | 1 => 0
    | 2 => 31
    | 3 => 59
    | 4 => 90
    | 5 => 120
    | 6 => 151
    | 7 => 181
    | 8 => 212
    | 9 => 243
    | 10 => 273
    | 11 => 304
    | 12 => 334
    | _ => 365
  if leap && 2 < month then inCommonYear + 1 else inCommonYear

def daysInMonth (leap : Bool) (month : Nat) : Nat :=
  daysBeforeMonth leap (month + 1) - daysBeforeMonth leap month

/-- The date is one of the calendar. -/
def isValid (date : Date) : Bool :=
  1 ≤ date.month && date.month ≤ 12 && 1 ≤ date.day
    && date.day ≤ daysInMonth (isLeap date.year) date.month

/-- The day number of a date. -/
def dayOf (date : Date) : Int :=
  daysBeforeYear date.year + daysBeforeMonth (isLeap date.year) date.month + date.day - 1

/-- The year that holds a day. The estimate from the mean length of a year is at most one off. -/
def yearOf (day : Int) : Int :=
  let estimate := day * 400 / 146097 + 1
  if day < daysBeforeYear estimate then estimate - 1
  else if daysBeforeYear (estimate + 1) ≤ day then estimate + 1
  else estimate

/-- The month that holds a day of the year, counted from 0. -/
def monthOf (leap : Bool) (dayOfYear : Nat) : Nat :=
  1 + ((List.range' 2 11).takeWhile fun month => daysBeforeMonth leap month ≤ dayOfYear).length

/-- The date of a day number. -/
def dateOf (day : Int) : Date :=
  let year := yearOf day
  let dayOfYear := (day - daysBeforeYear year).toNat
  let month := monthOf (isLeap year) dayOfYear
  ⟨year, month, dayOfYear - daysBeforeMonth (isLeap year) month + 1⟩

end Calendar

end RecordQuery
