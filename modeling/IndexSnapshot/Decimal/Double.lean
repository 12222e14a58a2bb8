/-
# IndexSnapshot.Decimal.Double -- double precision numbers by their bits

Numbers of a facet are 64-bit floating point numbers, held here as their bit
pattern: a sign, an exponent and a fraction.  A finite one is exactly
`significand * 2 ^ exponent` with its sign.

* `ordered` writes a number so that byte strings order as the numbers do; a pattern
  that is not a number has no place in that order.
* `place?` is where a number stands on the number line; the two zeros stand at one
  place.
-/
import IndexSnapshot.Bytes.Field

namespace IndexSnapshot

set_option autoImplicit false

/-- A double precision number. -/
structure Double where
  bits : UInt64
  deriving DecidableEq, Repr

namespace Double

/-! ## Parts -/

/-- The first bit of a pattern: one if the number is negative. -/
def signBit : Nat := 0x8000000000000000

/-- The lowest exponent bit, which is also the place of the bit that a significand in the
normal range has in front of its fraction. -/
def hiddenBit : Nat := 0x10000000000000

def isNegative (v : Double) : Bool :=
  signBit ≤ v.bits.toNat

/-- The eleven exponent bits. -/
def exponentBits (v : Double) : Nat :=
  v.bits.toNat / hiddenBit % 2048

/-- The fifty-two fraction bits. -/
def fraction (v : Double) : Nat :=
  v.bits.toNat % hiddenBit

def isNaN (v : Double) : Bool :=
  v.exponentBits == 2047 && v.fraction != 0

def isInfinite (v : Double) : Bool :=
  v.exponentBits == 2047 && v.fraction == 0

/-- The integer by which the power of two is multiplied: without the hidden bit below
the normal range. -/
def significand (v : Double) : Nat :=
  if v.exponentBits = 0 then v.fraction else hiddenBit + v.fraction

/-- The power of two of the last place of the significand. -/
def exponent (v : Double) : Int :=
  if v.exponentBits = 0 then -1074 else (v.exponentBits : Int) - 1075

/-! ## Bytes -/

/-- The eight bytes of the pattern, most significant first. -/
def toBytes (v : Double) : Bytes :=
  Bytes.bigEndian 8 v.bits.toNat

/-- The pattern of the given bytes. -/
def ofBytes (bytes : Bytes) : Double :=
  ⟨UInt64.ofNat (Bytes.ofBigEndian bytes)⟩

/-- The pattern with its sign bit flipped, and with every other bit flipped too if the
number is negative. -/
def orderedBits (v : Double) : Nat :=
  if v.isNegative then 2 * signBit - 1 - v.bits.toNat else v.bits.toNat + signBit

/-- Eight bytes that order as the numbers do. -/
def ordered (v : Double) : Except Refusal Bytes :=
  if v.isNaN then .error .notANumber else .ok (Bytes.bigEndian 8 v.orderedBits)

/-! ## Order -/

/-- A place on the number line, on a scale on which every finite double precision
number and every integer is an integer. -/
inductive Place where
  | bottom
  | at (n : Int)
  | top
  deriving DecidableEq, Repr

namespace Place

/-- One place is to the left of another. -/
def before : Place → Place → Bool
  | .bottom, .bottom => false
  | .bottom, _ => true
  | .at m, .at n => m < n
  | .at _, .top => true
  | _, _ => false

/-- The place of the integer one. -/
def unit : Int :=
  Int.ofNat (Nat.pow 2 1074)

/-- The place of an integer. -/
def ofInt (n : Int) : Place :=
  .at (n * unit)

end Place

/-- The place of a number; `none` for a pattern that is not a number. -/
def place? (v : Double) : Option Place :=
  if v.isNaN then none
  else if v.isInfinite then some (if v.isNegative then .bottom else .top)
  else
    let magnitude : Int := Int.ofNat (v.significand * Nat.pow 2 (v.exponent + 1074).toNat)
    some (.at (if v.isNegative then -magnitude else magnitude))

end Double

end IndexSnapshot
