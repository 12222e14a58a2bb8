/-
# IndexSnapshot.Proofs.ShortestDecimals -- the shortest decimal of a number is its own

Whatever decimal is chosen for a number, it lies between the midpoints to the two neighbours of
the number, and on one of them only if the significand is even.  Of two neighbours one has an odd
significand, so their intervals share no decimal; intervals further apart do not even touch.  So
numbers with the same decimal have the same magnitude.

* `Interval.shortest_mem`: the chosen decimal lies in the interval, on whichever grid the search
  ends, and also if it never finds one.
* `Interval.mem_ofDouble_iff`: the interval, by the bits of the magnitude.
* `magnitudeBits_eq_of_value_eq`: the decimal determines the magnitude.
-/
import IndexSnapshot.Proofs.NumberOrder

namespace IndexSnapshot.Decimal

set_option autoImplicit false

/-- The number that a decimal is. -/
def value (d : Decimal) : ℚ :=
  d.digits * 10 ^ d.exponent

theorem value_trim (d : Decimal) : d.trim.value = d.value := by
  fun_induction trim d with
  | case1 d zeros ih =>
      have digits : d.digits = d.digits / 10 * 10 := (Nat.div_mul_cancel
        (Nat.dvd_of_mod_eq_zero zeros.2)).symm
      rw [ih, value, value, zpow_add_one₀ (by norm_num)]
      conv_rhs => rw [digits]
      push_cast
      ring
  | case2 d _ => rfl

/-! ## Intervals -/

namespace Interval

/-- A number lies in the interval. -/
def Mem (i : Interval) (x : ℚ) : Prop :=
  if i.closed then i.low * 2 ^ i.exponent ≤ x ∧ x ≤ i.high * 2 ^ i.exponent
  else i.low * 2 ^ i.exponent < x ∧ x < i.high * 2 ^ i.exponent

/-- A negative power in front of the comparison is a positive one behind it. -/
theorem pow_toNat {a : ℚ} (nonzero : a ≠ 0) (k : ℤ) : a ^ k.toNat = a ^ k * a ^ (-k).toNat := by
  rw [← zpow_natCast, ← zpow_natCast, ← zpow_add₀ nonzero]
  congr 1
  omega

variable {i : Interval}

/-- The comparison of integers is that of the numbers. -/
theorem contains_iff {k : ℤ} {d : Nat} : i.contains k d = true ↔ i.Mem (d * 10 ^ k) := by
  -- both sides of the comparison are multiplied by what makes them integers
  have positive : (0 : ℚ) < 10 ^ (-k).toNat * 2 ^ (-i.exponent).toNat := by positivity
  have point : ((d * i.decimalFactor k : ℕ) : ℚ)
      = d * 10 ^ k * (10 ^ (-k).toNat * 2 ^ (-i.exponent).toNat) := by
    simp only [decimalFactor, Nat.pow_eq, Nat.cast_mul, Nat.cast_pow, Nat.cast_ofNat]
    rw [pow_toNat (by norm_num) k]
    ring
  have bound (n : Nat) : ((n * i.binaryFactor k : ℕ) : ℚ)
      = n * 2 ^ i.exponent * (10 ^ (-k).toNat * 2 ^ (-i.exponent).toNat) := by
    simp only [binaryFactor, Nat.pow_eq, Nat.cast_mul, Nat.cast_pow, Nat.cast_ofNat]
    rw [pow_toNat (by norm_num) i.exponent]
    ring
  unfold contains Mem
  cases i.closed
  · simp only [Bool.false_eq_true, if_false, Bool.and_eq_true, decide_eq_true_eq]
    rw [← Nat.cast_lt (α := ℚ), ← Nat.cast_lt (α := ℚ), point, bound, bound,
      mul_lt_mul_iff_left₀ positive, mul_lt_mul_iff_left₀ positive]
  · simp only [if_true, Bool.and_eq_true, decide_eq_true_eq]
    rw [← Nat.cast_le (α := ℚ), ← Nat.cast_le (α := ℚ), point, bound, bound,
      mul_le_mul_iff_left₀ positive, mul_le_mul_iff_left₀ positive]

/-- What is found on a grid lies in the interval. -/
theorem contains_of_nearest? {k : ℤ} {d : Nat} (found : i.nearest? k = some d) :
    i.contains k d = true := by
  simp only [nearest?] at found
  split at found
  · cases found
  · rename_i below _
    cases found
    exact below
  · rename_i _ above
    cases found
    exact above
  · rename_i below above
    split_ifs at found <;> cases found <;> assumption

theorem mem_of_search {fuel : Nat} {k : ℤ} {d : Decimal} (found : i.search fuel k = some d) :
    i.Mem d.value := by
  induction fuel generalizing k with
  | zero => cases found
  | succ fuel ih =>
      rw [search] at found
      split at found
      · rename_i digits here
        cases found
        exact contains_iff.1 (contains_of_nearest? here)
      · exact ih found

/-- All the digits of the center are the center. -/
theorem value_exact (i : Interval) : i.exact.value = i.center * 2 ^ i.exponent := by
  simp only [exact, value, Nat.pow_eq, Nat.cast_mul, Nat.cast_pow, Nat.cast_ofNat]
  rcases Int.le_total 0 i.exponent with whole | fraction
  · obtain ⟨n, power⟩ := Int.eq_ofNat_of_zero_le whole
    simp [power]
  · obtain ⟨n, power⟩ := Int.eq_ofNat_of_zero_le (Int.neg_nonneg_of_nonpos fraction)
    have exponent : i.exponent = -n := by omega
    have ten : (10 : ℚ) ^ n = 5 ^ n * 2 ^ n := by
      rw [← mul_pow]
      norm_num
    simp only [exponent, neg_neg, Int.toNat_natCast, Int.toNat_neg_natCast, pow_zero, mul_one,
      min_eq_left (Int.neg_nonpos_of_nonneg (Int.natCast_nonneg n)), zpow_neg, zpow_natCast, ten]
    field_simp

/-- **The chosen decimal lies in the interval**, which its center does. -/
theorem shortest_mem (below : i.low < i.center) (above : i.center < i.high) :
    i.Mem i.shortest.value := by
  rw [shortest, value_trim]
  cases found : i.search 24 i.coarsest with
  | some d => exact mem_of_search found
  | none =>
      have positive : (0 : ℚ) < 2 ^ i.exponent := by positivity
      have low : (i.low : ℚ) < i.center := Nat.cast_lt.2 below
      have high : (i.center : ℚ) < i.high := Nat.cast_lt.2 above
      have low := mul_lt_mul_of_pos_right low positive
      have high := mul_lt_mul_of_pos_right high positive
      rw [Option.getD_none, value_exact, Mem]
      split
      · exact ⟨low.le, high.le⟩
      · exact ⟨low, high⟩

end Interval

/-! ## Midpoints -/

open Double (magnitudeOf magnitudeOf_split magnitudeOf_succ magnitudeOf_strictMono hiddenBit)

/-- What lies halfway between two neighbours, in quarters of the last place of the smallest
numbers. -/
def midpoint (bits : Nat) : Nat :=
  2 * (magnitudeOf bits + magnitudeOf (bits + 1))

theorem midpoint_strictMono : StrictMono midpoint := by
  intro m n less
  have low := magnitudeOf_strictMono less
  have high := magnitudeOf_strictMono (Nat.succ_lt_succ less)
  simp only [Nat.succ_eq_add_one] at high
  simp only [midpoint]
  omega

variable {v w : Double}

/-- A zero has no magnitude bits. -/
theorem significand_eq_zero_iff : v.significand = 0 ↔ v.magnitudeBits = 0 := by
  simp only [Double.significand, Double.exponentBits_eq, Double.fraction_eq, hiddenBit]
  split_ifs <;> omega

/-- The power of two that the smallest last place is multiplied by. -/
def scale (v : Double) : Nat :=
  2 ^ (v.magnitudeBits / hiddenBit - 1)

theorem significand_mul_scale (v : Double) :
    v.significand * scale v = magnitudeOf v.magnitudeBits := by
  simp only [Double.significand, Double.exponentBits_eq, Double.fraction_eq, scale, magnitudeOf]

namespace Interval

theorem two_pow_exponent (v : Double) :
    (2 : ℚ) ^ (Interval.ofDouble v).exponent = scale v * 2 ^ (-1076 : ℤ) := by
  have exponent : (Interval.ofDouble v).exponent
      = ((v.magnitudeBits / hiddenBit - 1 : ℕ) : ℤ) + -1076 := by
    simp only [ofDouble, Double.exponent, Double.exponentBits_eq]
    generalize v.magnitudeBits / hiddenBit = e
    split_ifs <;> omega
  rw [exponent, zpow_add₀ (by norm_num), zpow_natCast, scale, Nat.cast_pow, Nat.cast_ofNat]

theorem high_mul_scale (v : Double) :
    (Interval.ofDouble v).high * scale v = midpoint v.magnitudeBits := by
  rw [midpoint, magnitudeOf_succ, ← significand_mul_scale]
  simp only [ofDouble, scale]
  ring

/-- Down to the neighbour it is one place, or half of one from a power of two. -/
theorem low_mul_scale {bits : Nat} (next : v.magnitudeBits = bits + 1) :
    (Interval.ofDouble v).low * scale v = midpoint bits := by
  have step : (if v.fraction = 0 ∧ 1 < v.exponentBits then 1 else 2) * scale v
      = 2 * 2 ^ (bits / hiddenBit - 1) := by
    have positive : 0 < hiddenBit := by decide
    rw [Double.fraction_eq, Double.exponentBits_eq, scale, next]
    split
    · rename_i power
      have below : (bits + 1) / hiddenBit = bits / hiddenBit + 1 := by
        simp only [hiddenBit] at *
        omega
      obtain ⟨e, exponent⟩ := Nat.exists_eq_add_of_lt (show 0 < bits / hiddenBit by omega)
      rw [below, exponent]
      simp only [Nat.zero_add, Nat.add_sub_cancel, pow_succ]
      ring
    · have same : (bits + 1) / hiddenBit - 1 = bits / hiddenBit - 1 := by
        simp only [hiddenBit] at *
        omega
      rw [same]
  have whole := significand_mul_scale v
  rw [next, magnitudeOf_succ] at whole
  rw [midpoint, magnitudeOf_succ]
  simp only [ofDouble]
  rw [Nat.sub_mul, step, Nat.mul_assoc, whole]
  omega

theorem closed_ofDouble (v : Double) :
    (Interval.ofDouble v).closed = decide (v.magnitudeBits % 2 = 0) := by
  have parity : v.significand % 2 = v.magnitudeBits % 2 := by
    simp only [Double.significand, Double.exponentBits_eq, Double.fraction_eq, hiddenBit]
    split_ifs <;> omega
  rw [ofDouble, parity]

/-- **The interval of a number reaches from midpoint to midpoint**, and has them both if the last
bit is zero. -/
theorem mem_ofDouble_iff {bits : Nat} (next : v.magnitudeBits = bits + 1) {x : ℚ} :
    (Interval.ofDouble v).Mem x ↔
      if (bits + 1) % 2 = 0 then
        midpoint bits * 2 ^ (-1076 : ℤ) ≤ x ∧ x ≤ midpoint (bits + 1) * 2 ^ (-1076 : ℤ)
      else
        midpoint bits * 2 ^ (-1076 : ℤ) < x ∧ x < midpoint (bits + 1) * 2 ^ (-1076 : ℤ) := by
  rw [Mem, two_pow_exponent, ← mul_assoc, ← mul_assoc, ← Nat.cast_mul, ← Nat.cast_mul,
    low_mul_scale next, high_mul_scale, closed_ofDouble, next]
  simp only [decide_eq_true_eq]

/-- **Intervals of different magnitudes have nothing in common**: where two of them meet, the
last bit is one on one side. -/
theorem not_mem_of_lt {bits others : Nat} (hv : v.magnitudeBits = bits + 1)
    (hw : w.magnitudeBits = others + 1) (less : bits < others) {x : ℚ}
    (mem : (Interval.ofDouble v).Mem x) : ¬ (Interval.ofDouble w).Mem x := by
  intro memOther
  rw [mem_ofDouble_iff hv] at mem
  rw [mem_ofDouble_iff hw] at memOther
  have unit : (0 : ℚ) < 2 ^ (-1076 : ℤ) := by positivity
  rcases Nat.lt_or_eq_of_le less with apart | rfl
  · have order : (midpoint (bits + 1) : ℚ) < midpoint others :=
      Nat.cast_lt.2 (midpoint_strictMono apart)
    have order := mul_lt_mul_of_pos_right order unit
    split_ifs at mem memOther <;> linarith [mem.2, memOther.1]
  · split_ifs at mem memOther
    · omega
    · linarith [mem.2, memOther.1]
    · linarith [mem.2, memOther.1]
    · linarith [mem.2, memOther.1]

end Interval

/-! ## Decimals of numbers -/

/-- The decimal of a number other than zero lies in its interval. -/
theorem mem_ofDouble (nonzero : v.magnitudeBits ≠ 0) :
    (Interval.ofDouble v).Mem (ofDouble v).value := by
  have nonzero : v.significand ≠ 0 := mt significand_eq_zero_iff.1 nonzero
  rw [ofDouble, if_neg nonzero]
  apply Interval.shortest_mem
  · simp only [Interval.ofDouble]
    split_ifs <;> omega
  · simp only [Interval.ofDouble]
    omega

theorem value_ofDouble_eq_zero_iff : (ofDouble v).value = 0 ↔ v.magnitudeBits = 0 := by
  constructor
  · intro zero
    by_contra nonzero
    obtain ⟨bits, next⟩ := Nat.exists_eq_succ_of_ne_zero nonzero
    have mem := mem_ofDouble nonzero
    rw [zero, Interval.mem_ofDouble_iff next] at mem
    have positive : (0 : ℚ) < midpoint bits * 2 ^ (-1076 : ℤ) := by
      have least : 0 < midpoint bits := by
        rw [midpoint, magnitudeOf_succ]
        positivity
      positivity
    split_ifs at mem <;> linarith [mem.1]
  · intro zero
    rw [ofDouble, if_pos (significand_eq_zero_iff.2 zero), value]
    simp

/-- **The decimal determines the magnitude.** -/
theorem magnitudeBits_eq_of_value_eq (same : (ofDouble v).value = (ofDouble w).value) :
    v.magnitudeBits = w.magnitudeBits := by
  by_cases zero : v.magnitudeBits = 0
  · rw [value_ofDouble_eq_zero_iff.2 zero, eq_comm, value_ofDouble_eq_zero_iff] at same
    rw [zero, same]
  · have zeroOther : w.magnitudeBits ≠ 0 := by
      intro other
      rw [← value_ofDouble_eq_zero_iff, ← same, value_ofDouble_eq_zero_iff] at other
      exact zero other
    have mem := mem_ofDouble zero
    have memOther := mem_ofDouble zeroOther
    rw [← same] at memOther
    obtain ⟨bits, hv⟩ := Nat.exists_eq_succ_of_ne_zero zero
    obtain ⟨others, hw⟩ := Nat.exists_eq_succ_of_ne_zero zeroOther
    rcases Nat.lt_trichotomy bits others with less | rfl | greater
    · exact absurd memOther (Interval.not_mem_of_lt hv hw less mem)
    · rw [hv, hw]
    · exact absurd mem (Interval.not_mem_of_lt hw hv greater memOther)

end IndexSnapshot.Decimal
