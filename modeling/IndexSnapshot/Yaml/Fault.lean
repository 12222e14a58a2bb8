/-
# IndexSnapshot.Yaml.Fault -- why a text is not read as YAML

A text that is not of the form of a document is malformed.  Apart from that, a scalar may
have the form of a character, a number or a time without there being one, and what should be a
text may end in bytes that are none.
-/
import IndexSnapshot.Bytes.Utf8
import IndexSnapshot.Bytes.Word
import IndexSnapshot.Calendar.Timestamp
import IndexSnapshot.Text.Digit

namespace IndexSnapshot.Yaml

set_option autoImplicit false

/-- Why a scalar has no value. -/
inductive ScalarFault where
  /-- No character has the code. -/
  | noCharacter (code : Nat)
  /-- A number in a base has no digits. -/
  | noDigits (base : Nat)
  /-- A decimal integer has more digits than are read. -/
  | tooManyDigits (count : Nat)
  /-- A part of sixty stands for more than any double precision number. -/
  | partTooLarge
  /-- There is no such day or time. -/
  | noTime (fault : CalendarFault)
  deriving DecidableEq, Repr

/-- What is said of a day or a time that there is not. -/
def timeMessage : CalendarFault → String
  | .year year => "year " ++ toString year ++ " is out of range"
  | .month => "month must be in 1..12"
  | .day => "day is out of range for month"
  | .hour => "hour must be in 0..23"
  | .minute => "minute must be in 0..59"
  | .second => "second must be in 0..59"
  | .offset minutes =>
      "offset must be a timedelta strictly between -timedelta(hours=24) and "
        ++ "timedelta(hours=24), not " ++ Offset.duration minutes ++ "."

def ScalarFault.message : ScalarFault → String
  | .noCharacter code =>
      if code < Word.limit 32 then "chr() arg not in range(0x110000)"
      else "Python int too large to convert to C int"
  | .noDigits base => "invalid literal for int() with base " ++ toString base ++ ": ''"
  | .tooManyDigits count =>
      "Exceeds the limit (" ++ toString Text.digitLimit
        ++ " digits) for integer string conversion: value has " ++ toString count
        ++ " digits; use sys.set_int_max_str_digits() to increase the limit"
  | .partTooLarge => "int too large to convert to float"
  | .noTime fault => timeMessage fault

/-- Why a text is not read. -/
inductive Fault where
  | malformed
  | scalar (fault : ScalarFault)
  /-- The text is not there to its end. -/
  | notText (flaw : Utf8.Flaw)
  deriving DecidableEq, Repr

end IndexSnapshot.Yaml
