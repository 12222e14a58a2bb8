/-
# IndexSnapshot.Yaml.Time -- plain scalars that stand for dates and times

A date has a year of four digits.  Alone it has two digits for the month and the day;
with a time behind it one of them is enough.  The time is written behind the letter T or
white space, and behind it there may be a fraction of the second, of which six digits
count, and a distance from universal time, or the letter Z for none.

* `time?` is the date or timestamp that a text has the form of; a fault if it has the
  form, but there is no such day or time.
-/
import IndexSnapshot.Value.Basic

namespace IndexSnapshot.Yaml

set_option autoImplicit false

namespace Time

/-! ## Parts -/

/-- What decimal digits are worth. -/
def worth (digits : List Char) : Nat :=
  digits.foldl (fun n c => 10 * n + (c.toNat - '0'.toNat)) 0

/-- The digits at the start of a text, if their number lies between two bounds. -/
def digits? (least most : Nat) (chars : List Char) : Option (Nat × List Char) :=
  let digits := chars.takeWhile Char.isDigit
  if least ≤ digits.length ∧ digits.length ≤ most then
    some (worth digits, chars.drop digits.length)
  else none

/-- What comes after a mark. -/
def after? (mark : Char) (chars : List Char) : Option (List Char) :=
  match chars with
  | [] => none
  | c :: rest => if c = mark then some rest else none

/-- What comes after white space. -/
def afterBlanks (chars : List Char) : List Char :=
  chars.dropWhile fun c => c == ' ' || c == '\t'

/-- What comes after the sign of a time: a letter, or white space. -/
def afterSign? (chars : List Char) : Option (List Char) :=
  match chars with
  | 'T' :: rest => some rest
  | 't' :: rest => some rest
  | chars => if (afterBlanks chars).length < chars.length then some (afterBlanks chars) else none

/-- The microseconds of a fraction, if there is one. -/
def fraction (chars : List Char) : Nat × List Char :=
  match chars with
  | '.' :: rest =>
      let digits := rest.takeWhile Char.isDigit
      (worth ((digits ++ List.replicate 6 '0').take 6), rest.drop digits.length)
  | chars => (0, chars)

/-- Minutes behind the hours of a distance; without them there are none. -/
def minutes? (chars : List Char) : Option Nat :=
  match chars with
  | [] => some 0
  | ':' :: rest =>
      match digits? 2 2 rest with
      | some (minutes, []) => some minutes
      | _ => none
  | _ => none

/-- The distance from universal time at the end of a text; nothing is no distance. -/
def offset? (chars : List Char) : Option (Option Int) :=
  if chars.isEmpty then some none
  else
    match afterBlanks chars with
    | ['Z'] => some (some 0)
    | sign :: rest => do
        if sign ≠ '+' ∧ sign ≠ '-' then none
        let (hours, rest) ← digits? 1 2 rest
        let minutes ← minutes? rest
        let distance : Int := 60 * hours + minutes
        return some (if sign = '-' then -distance else distance)
    | [] => none

/-- A time behind a date. -/
def timeOfDay? (chars : List Char) : Option (TimeOfDay × Option Int) := do
  let (hour, rest) ← digits? 1 2 chars
  let (minute, rest) ← digits? 2 2 (← after? ':' rest)
  let (second, rest) ← digits? 2 2 (← after? ':' rest)
  let (microsecond, rest) := fraction rest
  return (⟨hour, minute, second, microsecond⟩, ← offset? rest)

end Time

/-- The date or timestamp that a text has the form of. -/
def time? (chars : List Char) : Option (Except CalendarFault Value) := do
  let (year, rest) ← Time.digits? 4 4 chars
  let (month, rest) ← Time.digits? 1 2 (← Time.after? '-' rest)
  let (day, rest) ← Time.digits? 1 2 (← Time.after? '-' rest)
  let date := Date.checked year month day
  if rest.isEmpty then
    if chars.length = 10 then return date.map .date else none
  else
    let (time, offset) ← Time.timeOfDay? (← Time.afterSign? rest)
    return (Timestamp.checked date time offset).map .timestamp

end IndexSnapshot.Yaml
