/-
# IndexSnapshot.Decimal.Shortest -- the shortest decimal that reads back

Many decimals round to the same double precision number: all those in an interval
around it.  Of the decimals in that interval the shortest one is written, and of
several shortest ones the nearest; an exact tie goes to the even digit.

The decimals with a given exponent form a grid.  The coarsest grid with a point in
the interval gives the shortest decimal, and if any point of a grid lies in the
interval, one of the two neighbours of the number on that grid does.

* `Decimal.ofDouble` is that decimal, with no zero at the end of its digits.
-/
import IndexSnapshot.Decimal.Double

namespace IndexSnapshot

set_option autoImplicit false

/-- The number `digits * 10 ^ exponent`. -/
structure Decimal where
  digits : Nat
  exponent : Int
  deriving DecidableEq, Repr

namespace Decimal

/-- Moves zeros from the end of the digits into the exponent. -/
def trim (d : Decimal) : Decimal :=
  if _h : d.digits ≠ 0 ∧ d.digits % 10 = 0 then trim ⟨d.digits / 10, d.exponent + 1⟩ else d
termination_by d.digits
decreasing_by omega

/-! ## Rounding intervals -/

/-- The number `center * 2 ^ exponent` and the interval of the reals that round to it:
from `low` to `high` on the same scale, with its ends if `closed`. -/
structure Interval where
  low : Nat
  center : Nat
  high : Nat
  exponent : Int
  closed : Bool
  deriving DecidableEq, Repr

namespace Interval

/-- The interval of a finite number without its sign, in quarters of its last place.
It reaches half a place to each side, but only a quarter down from a power of two,
below which the places are half as wide. -/
def ofDouble (v : Double) : Interval :=
  let m := v.significand
  let down := if v.fraction = 0 ∧ 1 < v.exponentBits then 1 else 2
  ⟨4 * m - down, 4 * m, 4 * m + 2, v.exponent - 2, m % 2 = 0⟩

/-- The factor of the decimal side when `d * 10 ^ k` is compared with the binary side. -/
def decimalFactor (i : Interval) (k : Int) : Nat :=
  Nat.pow 10 k.toNat * Nat.pow 2 (-i.exponent).toNat

/-- The factor of the binary side in that comparison. -/
def binaryFactor (i : Interval) (k : Int) : Nat :=
  Nat.pow 10 (-k).toNat * Nat.pow 2 i.exponent.toNat

/-- Whether `d * 10 ^ k` lies in the interval. -/
def contains (i : Interval) (k : Int) (d : Nat) : Bool :=
  let point := d * i.decimalFactor k
  let low := i.low * i.binaryFactor k
  let high := i.high * i.binaryFactor k
  if i.closed then low ≤ point && point ≤ high else low < point && point < high

/-- The point of the grid `10 ^ k` in the interval that is nearest to its center: one of
the two neighbours of the center, the even one on a tie. -/
def nearest? (i : Interval) (k : Int) : Option Nat :=
  let center := i.center * i.binaryFactor k
  let step := i.decimalFactor k
  let below := center / step
  let above := below + 1
  match i.contains k below, i.contains k above with
  | false, false => none
  | true, false => some below
  | false, true => some above
  | true, true =>
      let left := center - below * step
      let right := above * step - center
      if left < right then some below
      else if right < left then some above
      else if below % 2 = 0 then some below else some above

/-- A grid that is too coarse to have a point in the interval. -/
def coarsest (i : Interval) : Int :=
  (Int.fdiv ((Nat.log2 i.high + 1 + i.exponent) * 30103) 100000) + 2

/-- The first point found on `fuel` grids, each ten times finer than the one before. -/
def search (i : Interval) : Nat → Int → Option Decimal
  | 0, _ => none
  | fuel + 1, k =>
      match i.nearest? k with
      | some d => some ⟨d, k⟩
      | none => search i fuel (k - 1)

/-- All the digits of the center. -/
def exact (i : Interval) : Decimal :=
  ⟨i.center * Nat.pow 2 i.exponent.toNat * Nat.pow 5 (-i.exponent).toNat, min i.exponent 0⟩

/-- Seventeen digits always suffice, and the search starts at most four grids early. -/
def shortest (i : Interval) : Decimal :=
  ((i.search 24 i.coarsest).getD i.exact).trim

end Interval

/-- The shortest decimal that reads back as the number, without its sign. -/
def ofDouble (v : Double) : Decimal :=
  if v.significand = 0 then ⟨0, 0⟩ else (Interval.ofDouble v).shortest

end Decimal

end IndexSnapshot
