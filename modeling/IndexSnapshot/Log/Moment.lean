/-
# IndexSnapshot.Log.Moment -- times of log lines

A moment is a number of milliseconds since the start of 1970, in universal time.  Clocks
keep it as a double precision number of seconds, and what is written is the second and
the fraction that this number has.

* `Moment.human` and `Moment.iso` are the two ways in which a moment is written.  Neither
  has room for every moment, and `MomentFault` says why a moment is not written.
-/
import IndexSnapshot.Bytes.Word
import IndexSnapshot.Calendar.Date
import IndexSnapshot.Decimal.Nearest

namespace IndexSnapshot.Log

set_option autoImplicit false

/-- Milliseconds since the start of 1970. -/
structure Moment where
  milliseconds : Int
  deriving DecidableEq, Repr

/-- Why a moment is not written. -/
inductive MomentFault where
  /-- No double precision number is as large as the number of seconds. -/
  | noSeconds
  /-- The number of seconds is no signed 64-bit integer. -/
  | clockRange
  /-- The year, counted from 1900, is no signed 32-bit integer. -/
  | calendarRange
  /-- The year itself is no signed 32-bit integer. -/
  | yearRange
  /-- The year has not one to four digits. -/
  | yearOutOfRange (year : Int)
  deriving DecidableEq, Repr

def MomentFault.message : MomentFault → String
  | .noSeconds => "integer division result too large for a float"
  | .clockRange => "timestamp out of range for platform time_t"
  | .calendarRange => "[Errno 75] Value too large for defined data type"
  | .yearRange => "signed integer is greater than maximum"
  | .yearOutOfRange year => "year " ++ toString year ++ " is out of range"

/-- Seconds of a day. -/
def dayLength : Nat := 86400

/-- The date of a number of seconds. -/
def dateOf (seconds : Int) : Except MomentFault Date :=
  let date := Date.ofDays (seconds / dayLength)
  if !Word.fits 64 seconds then .error .clockRange
  else if !Word.fits 32 (date.year - 1900) then .error .calendarRange
  else .ok date

/-- Hours, minutes and seconds of a number of seconds. -/
def clockText (seconds : Int) : String :=
  let seconds := (seconds % dayLength).toNat
  Date.padded 2 (seconds / 3600) ++ ":" ++ Date.padded 2 (seconds / 60 % 60) ++ ":"
    ++ Date.padded 2 (seconds % 60)

namespace Moment

/-- The seconds since the start of 1970, as clocks keep them. -/
def seconds (m : Moment) : Except MomentFault Double :=
  let seconds := Double.ofRatio (m.milliseconds < 0) m.milliseconds.natAbs 1000
  if seconds.isInfinite then .error .noSeconds else .ok seconds

/-- The second in which a moment lies. -/
def wholeSeconds (seconds : Double) : Int :=
  let (num, den) := seconds.ratio
  let signed : Int := if seconds.isNegative then -(num : Int) else num
  signed / (den : Int)

/-- The number of microseconds: the fraction of the seconds is multiplied by a million, and
the product, which is rounded, is rounded again to an integer. -/
def microseconds (seconds : Double) : Int :=
  let (num, den) := seconds.ratio
  let fraction := (Double.ofRatio false (num % den * 1000000) den).ratio
  let magnitude := num / den * 1000000 + Double.roundRatio fraction.1 fraction.2
  if seconds.isNegative then -(magnitude : Int) else magnitude

/-- Milliseconds since the start of the second. -/
def fraction (m : Moment) : Nat :=
  (m.milliseconds % 1000).toNat

/-- A moment as people read it, with milliseconds.  The year is written in as few digits
as it has. -/
def human (m : Moment) : Except MomentFault String := do
  let whole := wholeSeconds (← m.seconds)
  let date ← dateOf whole
  if date.year < Word.limit 32 then
    return date.textAfter (toString date.year) ++ " " ++ clockText whole ++ ","
      ++ Date.padded 3 m.fraction
  else throw .yearRange

/-- A moment as programs read it.  A whole second has no fraction, any other one has six
digits of it. -/
def iso (m : Moment) : Except MomentFault String := do
  let total := microseconds (← m.seconds)
  let whole := total / 1000000
  let rest := (total % 1000000).toNat
  let date ← dateOf whole
  if 1 ≤ date.year ∧ date.year ≤ 9999 then
    let fraction := if rest = 0 then "" else "." ++ Date.padded 6 rest
    return date.iso ++ "T" ++ clockText whole ++ fraction
      ++ "+00:00"
  else throw (.yearOutOfRange (Word.wrap 32 date.year))

end Moment

end IndexSnapshot.Log
