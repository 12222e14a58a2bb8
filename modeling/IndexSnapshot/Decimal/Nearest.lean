/-
# IndexSnapshot.Decimal.Nearest -- the number nearest to a ratio

A ratio of two integers is rounded to the nearest double precision number, and an exact
tie to the one with the even significand.  Reading a decimal is one case of it.

* `Double.ofRatio` rounds a ratio, `Double.ofDecimal` a decimal.
* `Double.ratio` is the exact magnitude of a finite number, so that sums and products
  of numbers are ratios that are rounded once.
-/
import IndexSnapshot.Decimal.Shortest

namespace IndexSnapshot

set_option autoImplicit false

namespace Double

/-! ## Rounding -/

/-- The integer nearest to a ratio; of two equally near ones the even one. -/
def roundRatio (num den : Nat) : Nat :=
  let whole := num / den
  let double := 2 * (num % den)
  if double < den then whole
  else if den < double then whole + 1
  else whole + whole % 2

/-- The integer nearest to a ratio of two integers divided by a power of two. -/
def roundScaled (num den : Nat) (exponent : Int) : Nat :=
  if 0 ≤ exponent then roundRatio num (den * Nat.pow 2 exponent.toNat)
  else roundRatio (num * Nat.pow 2 (-exponent).toNat) den

/-- The power of two of the last place of the significand of a ratio: the significand has
fifty-three binary digits, or fewer where the smallest power is reached. -/
def ratioExponent (num den : Nat) : Int :=
  let estimate : Int := (num.log2 : Int) - den.log2 - 53
  let exponent :=
    if num * Nat.pow 2 (-estimate).toNat < den * Nat.pow 2 estimate.toNat * (2 * hiddenBit) then
      estimate
    else estimate + 1
  max exponent (-1074)

/-- The bits of infinity. -/
def infiniteBits : Nat := 2047 * hiddenBit

/-- The number with a sign and the other bits. -/
def withSign (negative : Bool) (bits : Nat) : Double :=
  ⟨UInt64.ofNat (if negative then signBit + bits else bits)⟩

/-- The number nearest to a ratio; what is too large is infinite. -/
def ofRatio (negative : Bool) (num den : Nat) : Double :=
  if num = 0 then withSign negative 0
  else
    let exponent := ratioExponent num den
    let bits := (exponent + 1074).toNat * hiddenBit + roundScaled num den exponent
    withSign negative (min bits infiniteBits)

/-- The number nearest to a decimal.  No power of ten is written out that is too large or
too small to matter. -/
def ofDecimal (negative : Bool) (d : Decimal) : Double :=
  if d.digits = 0 then withSign negative 0
  else if 400 ≤ d.exponent then withSign negative infiniteBits
  else if d.digits.log2 + 3 * d.exponent < -1080 then withSign negative 0
  else if 0 ≤ d.exponent then ofRatio negative (d.digits * Nat.pow 10 d.exponent.toNat) 1
  else ofRatio negative d.digits (Nat.pow 10 (-d.exponent).toNat)

/-! ## Exact magnitudes -/

/-- The magnitude of a finite number as a ratio. -/
def ratio (v : Double) : Nat × Nat :=
  (v.significand * Nat.pow 2 v.exponent.toNat, Nat.pow 2 (-v.exponent).toNat)

def infinity (negative : Bool) : Double :=
  withSign negative infiniteBits

/-- The product of the magnitudes of two numbers, rounded. -/
def timesMagnitude (v w : Double) : Double :=
  if v.isInfinite || w.isInfinite then infinity false
  else ofRatio false (v.ratio.1 * w.ratio.1) (v.ratio.2 * w.ratio.2)

/-- The sum of the magnitudes of two numbers, rounded. -/
def plusMagnitude (v w : Double) : Double :=
  if v.isInfinite || w.isInfinite then infinity false
  else ofRatio false (v.ratio.1 * w.ratio.2 + w.ratio.1 * v.ratio.2) (v.ratio.2 * w.ratio.2)

/-- The number nearest to an integer; none if the integer is too large for any. -/
def ofInt? (n : Int) : Option Double :=
  let v := ofRatio (n < 0) n.natAbs 1
  if v.isInfinite then none else some v

/-- The pattern that stands for what is not a number. -/
def notANumber : Double :=
  ⟨UInt64.ofNat (infiniteBits + hiddenBit / 2)⟩

end Double

end IndexSnapshot
