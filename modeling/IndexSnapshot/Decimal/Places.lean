/-
# IndexSnapshot.Decimal.Places -- numbers with a given number of digits

The magnitude of a finite number is rounded to a number of digits, or to a number of
places behind the point.  What lies halfway goes to the even neighbour, also in the last
of very many digits, because a number is an exact ratio.

* `Double.fixed` has a given number of places and no exponent, `Double.scientific` one
  digit before the point and an exponent.
* `Double.general` has a given number of digits, and an exponent only where a number is
  very small or has more digits before the point than are given.
-/
import IndexSnapshot.Decimal.Nearest
import IndexSnapshot.Decimal.Notation

namespace IndexSnapshot

set_option autoImplicit false

namespace Decimal

/-- Digits, a point and more digits; without more digits the point is left out, unless it
is kept. -/
def pointed (keepsPoint : Bool) (whole fraction : List Char) : List Char :=
  if fraction.isEmpty && !keepsPoint then whole else whole ++ '.' :: fraction

/-- Zeros in front of digits, up to a width. -/
def padded (width : Nat) (digits : List Char) : List Char :=
  List.replicate (width - digits.length) '0' ++ digits

/-- Digits without the zeros at their end; the first digit stays. -/
def trimmed : List Char → List Char
  | [] => []
  | first :: rest => first :: (rest.reverse.dropWhile (· == '0')).reverse

/-- The power of ten behind the digits of a number. -/
def exponentText (exponent : Int) : List Char :=
  'e' :: (if exponent < 0 then '-' else '+') :: twoDigits exponent.natAbs

/-- The first digit before the point, the others behind it, and the power of ten. -/
def withExponent (keepsPoint : Bool) (digits : List Char) (exponent : Int) : List Char :=
  pointed keepsPoint (digits.take 1) (digits.drop 1) ++ exponentText exponent

/-- Digits, the first of which stands for a power of ten, with the point where it
belongs. -/
def positional (keepsPoint : Bool) (digits : List Char) (exponent : Int) : List Char :=
  if exponent < 0 then
    pointed keepsPoint ['0'] (List.replicate (-exponent - 1).toNat '0' ++ digits)
  else
    let count := exponent.toNat + 1
    pointed keepsPoint
      (digits.take count ++ List.replicate (count - digits.length) '0') (digits.drop count)

end Decimal

namespace Double

/-- The integer nearest to a number times a power of ten. -/
def scaled (v : Double) (power : Int) : Nat :=
  roundRatio (v.ratio.1 * Nat.pow 10 power.toNat) (v.ratio.2 * Nat.pow 10 (-power).toNat)

/-- The power of ten of the first digit of a number that is not zero. -/
def leadingPower (v : Double) : Int :=
  let num := v.ratio.1
  let den := v.ratio.2
  if den ≤ num then (Nat.toDigits 10 (num / den)).length - 1
  else -((Nat.toDigits 10 ((den + num - 1) / num - 1)).length : Int)

/-- A number in `count + 1` digits, and the power of ten of the first of them. -/
def leadingDigits (v : Double) (count : Nat) : List Char × Int :=
  if v.significand = 0 then (List.replicate (count + 1) '0', 0)
  else
    let power := v.leadingPower
    let digits := Nat.toDigits 10 (v.scaled (count - power))
    (digits.take (count + 1), if digits.length = count + 1 then power else power + 1)

/-- A number with a given number of places behind the point. -/
def fixed (v : Double) (keepsPoint : Bool) (places : Nat) : List Char :=
  let digits := Decimal.padded (places + 1) (Nat.toDigits 10 (v.scaled places))
  let count := digits.length - places
  Decimal.pointed keepsPoint (digits.take count) (digits.drop count)

/-- A number with one digit before the point, a given number of places behind it, and an
exponent. -/
def scientific (v : Double) (keepsPoint : Bool) (places : Nat) : List Char :=
  let (digits, power) := v.leadingDigits places
  Decimal.withExponent keepsPoint digits power

/-- No number has more digits before the zeros at its end. -/
def mostDigits : Nat := 767

/-- A number in at most `count` digits, but at least one.  Zeros at the end stay only
together with the point. -/
def general (v : Double) (keepsPoint : Bool) (count : Nat) : List Char :=
  let count := max count 1
  let (digits, power) :=
    v.leadingDigits (if keepsPoint then count - 1 else min (count - 1) mostDigits)
  let digits := if keepsPoint then digits else Decimal.trimmed digits
  if -4 ≤ power ∧ power < count then Decimal.positional keepsPoint digits power
  else Decimal.withExponent keepsPoint digits power

end Double

end IndexSnapshot
