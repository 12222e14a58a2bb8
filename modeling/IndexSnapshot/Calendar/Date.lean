/-
# IndexSnapshot.Calendar.Date -- days in the calendar

The date of a day follows from the number of days alone: years are counted from March on,
so that the day that leap years add is the last one of a year, and four hundred years
always have the same number of days.

* `Date.ofDays` is the date of a number of days, `Date.checked` the date with a given
  year, month and day, if there is one.
-/

namespace IndexSnapshot

set_option autoImplicit false

/-- A day in the calendar. -/
structure Date where
  year : Int
  month : Nat
  day : Nat
  deriving DecidableEq, Repr

/-- Why there is no such day, or no such time of a day. -/
inductive CalendarFault where
  | year (year : Int)
  | month
  | day
  | hour
  | minute
  | second
  /-- The distance from universal time, in minutes, is a day or more. -/
  | offset (minutes : Int)
  deriving DecidableEq, Repr

namespace Date

/-! ## Days in a row -/

/-- The days of four hundred years. -/
def daysOfEra : Nat := 146097

/-- Days from the first of March of the year 0 to the start of 1970. -/
def daysBefore1970 : Int := 719468

/-- The year of an era from its number of days: every fourth year is longer, but every
hundredth is not. -/
def yearOfEra (day : Nat) : Nat :=
  (day - day / 1460 + day / 36524 - day / 146096) / 365

/-- The date a number of days after the start of 1970. -/
def ofDays (days : Int) : Date :=
  let shifted := days + daysBefore1970
  let era := shifted / daysOfEra
  let dayOfEra := (shifted % daysOfEra).toNat
  let year := yearOfEra dayOfEra
  let dayOfYear := dayOfEra - (365 * year + year / 4 - year / 100)
  let monthFromMarch := (5 * dayOfYear + 2) / 153
  let day := dayOfYear - (153 * monthFromMarch + 2) / 5 + 1
  let month := if monthFromMarch < 10 then monthFromMarch + 3 else monthFromMarch - 9
  ⟨era * 400 + year + (if month ≤ 2 then 1 else 0), month, day⟩

/-- The number of days from the start of 1970 to a date. -/
def toDays (date : Date) : Int :=
  let year := if date.month ≤ 2 then date.year - 1 else date.year
  let yearOfEra := (year % 400).toNat
  let monthFromMarch := if date.month ≤ 2 then date.month + 9 else date.month - 3
  let dayOfYear := (153 * monthFromMarch + 2) / 5 + date.day - 1
  let dayOfEra := 365 * yearOfEra + yearOfEra / 4 - yearOfEra / 100 + dayOfYear
  year / 400 * daysOfEra + dayOfEra - daysBefore1970

/-! ## Days that there are -/

/-- Whether a year has a day more than others. -/
def isLeapYear (year : Int) : Bool :=
  year % 4 == 0 && (year % 100 != 0 || year % 400 == 0)

/-- The number of days of a month. -/
def daysOfMonth (year : Int) (month : Nat) : Nat :=
  if month = 2 then if isLeapYear year then 29 else 28
  else if month = 4 ∨ month = 6 ∨ month = 9 ∨ month = 11 then 30
  else 31

/-- The date with a year from 1 on, a month, and a day. -/
def checked (year month day : Nat) : Except CalendarFault Date :=
  if year = 0 then .error (.year year)
  else if month = 0 ∨ 12 < month then .error .month
  else if day = 0 ∨ daysOfMonth year month < day then .error .day
  else .ok ⟨year, month, day⟩

/-! ## Text -/

/-- A number with zeros in front, up to a number of digits. -/
def padded (digits : Nat) (n : Nat) : String :=
  let text := toString n
  String.ofList (List.replicate (digits - text.length) '0') ++ text

/-- Month and day behind the text of the year. -/
def textAfter (year : String) (date : Date) : String :=
  year ++ "-" ++ padded 2 date.month ++ "-" ++ padded 2 date.day

/-- The date with a year of four digits. -/
def iso (date : Date) : String :=
  date.textAfter (padded 4 date.year.toNat)

/-- The date as it would be written in a program. -/
def literal (date : Date) : String :=
  "datetime.date(" ++ toString date.year ++ ", " ++ toString date.month ++ ", "
    ++ toString date.day ++ ")"

end Date

end IndexSnapshot
