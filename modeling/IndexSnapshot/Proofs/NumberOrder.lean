/-
# IndexSnapshot.Proofs.NumberOrder -- double precision numbers are in the order of their bits

Of the bits of a number, the first is its sign and the others are its magnitude.  Counted up by
one, the magnitude grows by one unit in its last place, also where the exponent grows; so
magnitudes are in the order of their bits, and infinity comes after all finite ones.  Negative
numbers are in the opposite order, which is what flipping all their bits is for.

* `value` and `number` say which number a pattern stands for.
* `magnitudeOf_succ` and `magnitudeOf_strictMono`: magnitudes by their bits.
* `orderedBits_lt_iff`: the flipped bits are in the order of the numbers, with the negative zero
  before the other one.
-/
import IndexSnapshot.Decimal.Nearest
import IndexSnapshot.Proofs.ByteOrder
import Mathlib

namespace IndexSnapshot.Double

set_option autoImplicit false

/-! ## Numbers -/

/-- The number that a finite pattern stands for. -/
def value (v : Double) : ℚ :=
  (if v.isNegative then -1 else 1) * v.significand * 2 ^ v.exponent

/-- The number that a pattern stands for, if it is not that of what is not a number. -/
noncomputable def number (v : Double) : EReal :=
  if v.isInfinite then (if v.isNegative then ⊥ else ⊤) else ((v.value : ℝ) : EReal)

/-- One number comes before another, also the negative zero before the other one. -/
def Before (v w : Double) : Prop :=
  v.number < w.number ∨ v.number = w.number ∧ v.isNegative = true ∧ w.isNegative = false

/-! ## Magnitudes -/

/-- The bits behind the sign. -/
def magnitudeBits (v : Double) : Nat :=
  v.bits.toNat % signBit

/-- The magnitude with the given bits, in units of the last place of the smallest numbers. -/
def magnitudeOf (bits : Nat) : Nat :=
  (if bits / hiddenBit = 0 then bits % hiddenBit else hiddenBit + bits % hiddenBit)
    * 2 ^ (bits / hiddenBit - 1)

theorem magnitudeOf_split (e : Nat) {f : Nat} (small : f < hiddenBit) :
    magnitudeOf (e * hiddenBit + f) = (if e = 0 then f else hiddenBit + f) * 2 ^ (e - 1) := by
  have quotient : (e * hiddenBit + f) / hiddenBit = e := by
    rw [Nat.mul_comm, Nat.mul_add_div (Nat.zero_lt_of_lt small), Nat.div_eq_of_lt small,
      Nat.add_zero]
  have rest : (e * hiddenBit + f) % hiddenBit = f := by
    rw [Nat.mul_add_mod_of_lt small]
  rw [magnitudeOf, quotient, rest]

/-- **One bit more is one unit in the last place more**, also where the exponent grows. -/
theorem magnitudeOf_succ (n : Nat) :
    magnitudeOf (n + 1) = magnitudeOf n + 2 ^ (n / hiddenBit - 1) := by
  have positive : 0 < hiddenBit := by decide
  have small := Nat.mod_lt n positive
  have split := Nat.div_add_mod' n hiddenBit
  generalize n / hiddenBit = e at *
  generalize n % hiddenBit = f at *
  subst split
  by_cases carries : f + 1 < hiddenBit
  · rw [Nat.add_assoc, magnitudeOf_split e carries, magnitudeOf_split e small]
    by_cases zero : e = 0
    · simp [zero]
    · simp only [zero, if_false]
      ring
  · have next : e * hiddenBit + f + 1 = (e + 1) * hiddenBit + 0 := by
      rw [Nat.add_mul]
      omega
    have full : f + 1 = hiddenBit := by omega
    rw [next, magnitudeOf_split (e + 1) positive, magnitudeOf_split e small]
    by_cases zero : e = 0
    · simp [zero, full]
    · obtain ⟨k, rfl⟩ := Nat.exists_eq_succ_of_ne_zero zero
      simp only [Nat.succ_eq_add_one, Nat.add_eq_zero_iff, one_ne_zero, and_false, if_false,
        Nat.add_sub_cancel, pow_succ, ← full]
      ring

theorem magnitudeOf_strictMono : StrictMono magnitudeOf := by
  apply strictMono_nat_of_lt_succ
  intro n
  rw [magnitudeOf_succ]
  exact Nat.lt_add_of_pos_right (Nat.two_pow_pos _)

/-- The magnitude with its sign. -/
def signedMagnitude (v : Double) : ℤ :=
  if v.isNegative then -magnitudeOf v.magnitudeBits else magnitudeOf v.magnitudeBits

variable {v w : Double}

theorem exponentBits_eq (v : Double) : v.exponentBits = v.magnitudeBits / hiddenBit := by
  simp only [exponentBits, magnitudeBits, hiddenBit, signBit]
  omega

theorem fraction_eq (v : Double) : v.fraction = v.magnitudeBits % hiddenBit := by
  simp only [fraction, magnitudeBits, hiddenBit, signBit]
  omega

/-- What is not a number has more magnitude bits than infinity. -/
theorem isNaN_eq_false_iff : v.isNaN = false ↔ v.magnitudeBits ≤ infiniteBits := by
  have small : v.magnitudeBits < signBit := Nat.mod_lt _ (by decide)
  rw [isNaN, exponentBits_eq, fraction_eq]
  simp only [infiniteBits, hiddenBit, signBit, Bool.and_eq_false_iff, beq_eq_false_iff_ne,
    bne_eq_false_iff_eq] at *
  omega

theorem isInfinite_iff : v.isInfinite = true ↔ v.magnitudeBits = infiniteBits := by
  have small : v.magnitudeBits < signBit := Nat.mod_lt _ (by decide)
  rw [isInfinite, exponentBits_eq, fraction_eq]
  simp only [infiniteBits, hiddenBit, signBit, Bool.and_eq_true, beq_iff_eq] at *
  omega

/-- The value of a number is its signed magnitude, in units of the smallest last place. -/
theorem value_eq (v : Double) : v.value = v.signedMagnitude * 2 ^ (-1074 : ℤ) := by
  have magnitude : (v.significand : ℚ) * 2 ^ v.exponent
      = magnitudeOf v.magnitudeBits * 2 ^ (-1074 : ℤ) := by
    simp only [significand, exponent, magnitudeOf, exponentBits_eq, fraction_eq]
    by_cases zero : v.magnitudeBits / hiddenBit = 0
    · simp [zero]
    · obtain ⟨k, next⟩ := Nat.exists_eq_succ_of_ne_zero zero
      have place : ((v.magnitudeBits / hiddenBit : ℕ) : ℤ) - 1075 = k + -1074 := by
        rw [next]
        push_cast
        ring
      simp only [zero, if_false, place, zpow_add₀ (two_ne_zero (α := ℚ)), zpow_natCast]
      rw [next, Nat.succ_sub_one, Nat.cast_mul, Nat.cast_pow, Nat.cast_ofNat, mul_assoc]
  rw [value, mul_assoc, magnitude, signedMagnitude]
  split_ifs
  · rw [Int.cast_neg, neg_one_mul, neg_mul, Int.cast_natCast]
  · rw [one_mul, Int.cast_natCast]

/-! ## Order -/

/-- The infinities have the least and the greatest signed magnitude. -/
theorem exists_end : ∃ farthest : ℤ, 0 < farthest ∧ ∀ v : Double, v.isNaN = false →
    (v.isInfinite = true → v.signedMagnitude = if v.isNegative then -farthest else farthest) ∧
      (v.isInfinite = false → -farthest < v.signedMagnitude ∧ v.signedMagnitude < farthest) := by
  refine ⟨magnitudeOf infiniteBits, ?_, ?_⟩
  · have above := magnitudeOf_strictMono (show 0 < infiniteBits by decide)
    omega
  · intro v real
    constructor
    · intro infinite
      rw [signedMagnitude, isInfinite_iff.1 infinite]
    · intro finite
      have ne : v.magnitudeBits ≠ infiniteBits := fun same => by
        rw [isInfinite_iff.2 same] at finite
        cases finite
      have below := magnitudeOf_strictMono (lt_of_le_of_ne (isNaN_eq_false_iff.1 real) ne)
      unfold signedMagnitude
      split_ifs <;> omega

theorem value_lt_iff : v.value < w.value ↔ v.signedMagnitude < w.signedMagnitude := by
  rw [value_eq, value_eq, mul_lt_mul_iff_left₀ (by positivity), Int.cast_lt]

/-- Numbers compare as their signed magnitudes do. -/
theorem number_lt_iff (hv : v.isNaN = false) (hw : w.isNaN = false) :
    v.number < w.number ↔ v.signedMagnitude < w.signedMagnitude := by
  obtain ⟨farthest, positive, ends⟩ := exists_end
  obtain ⟨endV, betweenV⟩ := ends v hv
  obtain ⟨endW, betweenW⟩ := ends w hw
  unfold number
  cases infiniteV : v.isInfinite <;> cases infiniteW : w.isInfinite
  case false.false => simp [value_lt_iff]
  case false.true =>
    have between := betweenV infiniteV
    rw [endW infiniteW]
    cases w.isNegative <;> simp <;> omega
  case true.false =>
    have between := betweenW infiniteW
    rw [endV infiniteV]
    cases v.isNegative <;> simp <;> omega
  case true.true =>
    rw [endV infiniteV, endW infiniteW]
    cases v.isNegative <;> cases w.isNegative <;> simp <;> omega

theorem number_eq_iff (hv : v.isNaN = false) (hw : w.isNaN = false) :
    v.number = w.number ↔ v.signedMagnitude = w.signedMagnitude := by
  rw [eq_iff_le_not_lt, eq_iff_le_not_lt, ← not_lt, ← not_lt, number_lt_iff hv hw,
    number_lt_iff hw hv]

/-! ## Flipped bits -/

/-- Of a negative number all bits are flipped, of another one the sign alone. -/
theorem orderedBits_eq (v : Double) :
    v.orderedBits = if v.isNegative then signBit - 1 - v.magnitudeBits
      else signBit + v.magnitudeBits := by
  have small := v.bits.toNat_lt
  have sign : v.isNegative = true ↔ signBit ≤ v.bits.toNat := decide_eq_true_iff
  unfold orderedBits magnitudeBits
  simp only [signBit, sign] at *
  split_ifs <;> omega

theorem orderedBits_lt (v : Double) : v.orderedBits < Nat.pow 256 8 := by
  have small : v.magnitudeBits < signBit := Nat.mod_lt _ (by decide)
  have size : Nat.pow 256 8 = 2 * signBit := by decide
  rw [orderedBits_eq, size]
  split_ifs <;> omega

theorem orderedBits_inj : v.orderedBits = w.orderedBits ↔ v = w := by
  constructor
  · intro same
    have smallV := v.bits.toNat_lt
    have smallW := w.bits.toNat_lt
    have signV : v.isNegative = true ↔ signBit ≤ v.bits.toNat := decide_eq_true_iff
    have signW : w.isNegative = true ↔ signBit ≤ w.bits.toNat := decide_eq_true_iff
    have bits : v.bits.toNat = w.bits.toNat := by
      unfold orderedBits at same
      simp only [signBit, signV, signW] at *
      split_ifs at same <;> omega
    cases v
    cases w
    exact congrArg mk (UInt64.toNat_inj.1 bits)
  · rintro rfl
    rfl

/-- **The flipped bits are in the order of the numbers**, the negative zero before the other. -/
theorem orderedBits_lt_iff (hv : v.isNaN = false) (hw : w.isNaN = false) :
    v.orderedBits < w.orderedBits ↔ v.Before w := by
  have smallV : v.magnitudeBits < signBit := Nat.mod_lt _ (by decide)
  have smallW : w.magnitudeBits < signBit := Nat.mod_lt _ (by decide)
  have less : magnitudeOf v.magnitudeBits < magnitudeOf w.magnitudeBits ↔
      v.magnitudeBits < w.magnitudeBits := magnitudeOf_strictMono.lt_iff_lt
  have more : magnitudeOf w.magnitudeBits < magnitudeOf v.magnitudeBits ↔
      w.magnitudeBits < v.magnitudeBits := magnitudeOf_strictMono.lt_iff_lt
  rw [Before, number_lt_iff hv hw, number_eq_iff hv hw, orderedBits_eq, orderedBits_eq,
    signedMagnitude, signedMagnitude]
  cases v.isNegative <;> cases w.isNegative <;> simp <;> omega

/-! ## Eight bytes -/

theorem ordered_eq_ok_iff {bytes : Bytes} :
    v.ordered = .ok bytes ↔ v.isNaN = false ∧ bytes = Bytes.bigEndian 8 v.orderedBits := by
  unfold ordered
  cases v.isNaN <;> simp [eq_comm]

variable {a b : Bytes}

theorem ordered_lt_iff (first : v.ordered = .ok a) (second : w.ordered = .ok b) :
    a < b ↔ v.Before w := by
  obtain ⟨hv, rfl⟩ := ordered_eq_ok_iff.1 first
  obtain ⟨hw, rfl⟩ := ordered_eq_ok_iff.1 second
  rw [Bytes.bigEndian_lt_iff v.orderedBits_lt w.orderedBits_lt, orderedBits_lt_iff hv hw]

theorem ordered_inj (first : v.ordered = .ok a) (second : w.ordered = .ok b) :
    a = b ↔ v = w := by
  obtain ⟨-, rfl⟩ := ordered_eq_ok_iff.1 first
  obtain ⟨-, rfl⟩ := ordered_eq_ok_iff.1 second
  rw [Bytes.bigEndian_inj v.orderedBits_lt w.orderedBits_lt, orderedBits_inj]

/-- A number in front of other bytes decides first. -/
theorem append_lt_append_iff {s t : Bytes} (first : v.ordered = .ok a)
    (second : w.ordered = .ok b) : a ++ s < b ++ t ↔ v.Before w ∨ v = w ∧ s < t := by
  have lengths : a.length = b.length := by
    obtain ⟨-, rfl⟩ := ordered_eq_ok_iff.1 first
    obtain ⟨-, rfl⟩ := ordered_eq_ok_iff.1 second
    simp
  rw [Bytes.append_lt_append_iff lengths, ordered_lt_iff first second, ordered_inj first second]

end IndexSnapshot.Double
