/-
# IndexSnapshot.Decimal.Notation -- numbers as text

Two notations of a double precision number, both with its shortest digits.

* `Double.plain` never has an exponent, and no point after an integer: the form of
  numbers in snapshots.
* `Double.literal` has an exponent from `10 ^ 16` on and below `10 ^ -4`, and a point
  in every other number: the form of numbers in messages.
-/
import IndexSnapshot.Decimal.Shortest

namespace IndexSnapshot

set_option autoImplicit false

namespace Decimal

/-- The digits, first digit first. -/
def digitChars (d : Decimal) : List Char :=
  Nat.toDigits 10 d.digits

/-- The part before the point and the part after it. -/
def split (d : Decimal) : List Char × List Char :=
  let digits := d.digitChars
  if 0 ≤ d.exponent then (digits ++ List.replicate d.exponent.toNat '0', [])
  else
    let places := (-d.exponent).toNat
    if places < digits.length then
      (digits.take (digits.length - places), digits.drop (digits.length - places))
    else (['0'], List.replicate (places - digits.length) '0' ++ digits)

/-- Digits and, if there is a fraction, a point and the fraction. -/
def plain (d : Decimal) : List Char :=
  match d.split with
  | (whole, []) => whole
  | (whole, fraction) => whole ++ '.' :: fraction

/-- The power of ten of the first digit. -/
def magnitude (d : Decimal) : Int :=
  d.exponent + d.digitChars.length - 1

/-- A number in two digits at least. -/
def twoDigits (n : Nat) : List Char :=
  if n < 10 then '0' :: Nat.toDigits 10 n else Nat.toDigits 10 n

/-- One digit before the point, and the power of ten after the others. -/
def scientific (d : Decimal) : List Char :=
  let exponent := d.magnitude
  let tail := ['e', if exponent < 0 then '-' else '+'] ++ twoDigits exponent.natAbs
  match d.digitChars with
  | [] => tail
  | [digit] => digit :: tail
  | digit :: more => digit :: '.' :: more ++ tail

/-- The notation of messages. -/
def literal (d : Decimal) : List Char :=
  if -4 ≤ d.magnitude ∧ d.magnitude < 16 then
    match d.split with
    | (whole, []) => whole ++ ['.', '0']
    | (whole, fraction) => whole ++ '.' :: fraction
  else d.scientific

end Decimal

namespace Double

/-- A minus sign in front of the text of a negative number. -/
def signed (v : Double) (text : List Char) : String :=
  String.ofList (if v.isNegative then '-' :: text else text)

/-- The number without an exponent. -/
def plain (v : Double) : String :=
  if v.isNaN then "NaN"
  else if v.isInfinite then v.signed "inf".toList
  else v.signed (Decimal.ofDouble v).plain

/-- The number as messages show it. -/
def literal (v : Double) : String :=
  if v.isNaN then "nan"
  else if v.isInfinite then v.signed "inf".toList
  else v.signed (Decimal.ofDouble v).literal

end Double

end IndexSnapshot
