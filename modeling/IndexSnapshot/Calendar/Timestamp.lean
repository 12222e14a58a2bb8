/-
# IndexSnapshot.Calendar.Timestamp -- times of a day in the calendar

A timestamp is a date with a time of the day, to the microsecond.  It may say how far the
clocks of its place are ahead of universal time; then it stands for an instant, and it
equals every timestamp of that instant.  One that does not say so equals only itself.

* `Timestamp.checked` is the timestamp with given parts, if there is one.
-/
import IndexSnapshot.Calendar.Date

namespace IndexSnapshot

set_option autoImplicit false

/-- A time of a day. -/
structure TimeOfDay where
  hour : Nat
  minute : Nat
  second : Nat
  microsecond : Nat
  deriving DecidableEq, Repr

/-- A date and a time, and the minutes by which its clocks are ahead of universal time. -/
structure Timestamp where
  date : Date
  time : TimeOfDay
  offset : Option Int
  deriving DecidableEq, Repr

namespace TimeOfDay

/-- The time, if there is one with these numbers. -/
def checked (time : TimeOfDay) : Except CalendarFault TimeOfDay :=
  if 23 < time.hour then .error .hour
  else if 59 < time.minute then .error .minute
  else if 59 < time.second then .error .second
  else .ok time

/-- Microseconds since the start of the day. -/
def microseconds (time : TimeOfDay) : Nat :=
  ((time.hour * 60 + time.minute) * 60 + time.second) * 1000000 + time.microsecond

end TimeOfDay

/-! ## Distances from universal time -/

namespace Offset

/-- The minutes of a day. -/
def dayLength : Nat := 1440

/-- A distance of less than a day. -/
def checked (minutes : Int) : Except CalendarFault Int :=
  if minutes.natAbs < dayLength then .ok minutes else .error (.offset minutes)

/-- A number of minutes as it would be written in a program: whole days, which may lie
before, and seconds behind them. -/
def duration (minutes : Int) : String :=
  let days := minutes / dayLength
  let seconds := 60 * (minutes % dayLength)
  let parts :=
    (if days = 0 then [] else ["days=" ++ toString days])
      ++ if seconds = 0 then [] else ["seconds=" ++ toString seconds]
  "datetime.timedelta(" ++ (if parts.isEmpty then "0" else ", ".intercalate parts) ++ ")"

/-- A distance as it would be written in a program. -/
def literal (minutes : Int) : String :=
  if minutes = 0 then "datetime.timezone.utc"
  else "datetime.timezone(" ++ duration minutes ++ ")"

/-- A distance as a sign, hours and minutes. -/
def text (minutes : Int) : String :=
  (if minutes < 0 then "-" else "+") ++ Date.padded 2 (minutes.natAbs / 60) ++ ":"
    ++ Date.padded 2 (minutes.natAbs % 60)

end Offset

namespace Timestamp

/-- The timestamp of a date, a time and a distance, if there are such. -/
def checked (date : Except CalendarFault Date) (time : TimeOfDay) (offset : Option Int) :
    Except CalendarFault Timestamp := do
  let offset ← offset.mapM Offset.checked
  return ⟨← date, ← time.checked, offset⟩

/-! ## Equality -/

/-- Microseconds since the start of 1970, by the clocks of the place. -/
def localMicroseconds (t : Timestamp) : Int :=
  t.date.toDays * 86400000000 + t.time.microseconds

/-- Whether two timestamps stand for the same time. -/
def same (t u : Timestamp) : Bool :=
  match t.offset, u.offset with
  | none, none => t == u
  | some ahead, some ahead' =>
      t.localMicroseconds - ahead * 60000000 == u.localMicroseconds - ahead' * 60000000
  | _, _ => false

/-! ## Text -/

/-- The timestamp as it would be written in a program.  Seconds and microseconds are left
out from behind where they are zero. -/
def literal (t : Timestamp) : String :=
  let seconds :=
    if t.time.microsecond = 0 then if t.time.second = 0 then [] else [t.time.second]
    else [t.time.second, t.time.microsecond]
  let numbers := [t.date.month, t.date.day, t.time.hour, t.time.minute] ++ seconds
  let offset :=
    match t.offset with
    | none => []
    | some minutes => ["tzinfo=" ++ Offset.literal minutes]
  "datetime.datetime("
    ++ ", ".intercalate (toString t.date.year :: numbers.map toString ++ offset) ++ ")"

/-- The timestamp as it would be printed. -/
def plain (t : Timestamp) : String :=
  t.date.iso ++ " " ++ Date.padded 2 t.time.hour ++ ":" ++ Date.padded 2 t.time.minute ++ ":"
    ++ Date.padded 2 t.time.second
    ++ (if t.time.microsecond = 0 then "" else "." ++ Date.padded 6 t.time.microsecond)
    ++ (t.offset.map Offset.text).getD ""

end Timestamp

end IndexSnapshot
