/-
# IndexSnapshot.Proofs.PlainNumerals -- a number in plain notation shows its bits

Plain notation is a sign, digits, and perhaps a point and more digits.  It can be read: the digits
on both sides of the point are an integer, and their number behind the point is the power of ten
by which it is divided.  What is read is the decimal that was written, and the decimal of a number
determines its magnitude; so different numbers are different texts, the two zeros too.

* `Decimal.value_split`: the digits before and behind the point, read as a number.
* `Decimal.value_eq_of_plain_eq`: a text is that of one number only.
* `Double.plain_inj`: so are the texts of numbers, and of the two infinities.
* `Double.unbroken_plain`: there are no spaces in them.
-/
import IndexSnapshot.Decimal.Notation
import IndexSnapshot.Proofs.Columns
import IndexSnapshot.Proofs.ShortestDecimals

namespace IndexSnapshot

set_option autoImplicit false

/-! ## Decimals -/

namespace Decimal

/-- The point stands behind the digits, or within them, or before them. -/
theorem split_cases (d : Decimal) :
    (∃ zeros : Nat, d.exponent = zeros ∧
      d.split = (d.digitChars ++ List.replicate zeros '0', [])) ∨
    (∃ places : Nat, d.exponent = -places ∧ places < d.digitChars.length ∧
      d.split = (d.digitChars.take (d.digitChars.length - places),
        d.digitChars.drop (d.digitChars.length - places))) ∨
    (∃ places : Nat, d.exponent = -places ∧ d.digitChars.length ≤ places ∧
      d.split = (['0'], List.replicate (places - d.digitChars.length) '0' ++ d.digitChars)) := by
  unfold split
  dsimp only
  by_cases whole : 0 ≤ d.exponent
  · left
    refine ⟨d.exponent.toNat, by omega, ?_⟩
    rw [if_pos whole]
  · right
    by_cases within : (-d.exponent).toNat < d.digitChars.length
    · left
      refine ⟨(-d.exponent).toNat, by omega, within, ?_⟩
      rw [if_neg whole, if_pos within]
    · right
      refine ⟨(-d.exponent).toNat, by omega, by omega, ?_⟩
      rw [if_neg whole, if_neg within]

/-- The number that digits before a point and behind it stand for. -/
def read (parts : List Char × List Char) : ℚ :=
  Nat.ofDigitChars 10 (parts.1 ++ parts.2) 0 / 10 ^ parts.2.length

/-- **The two parts are the number.** -/
theorem read_split (d : Decimal) : read d.split = d.value := by
  have digits : Nat.ofDigitChars 10 d.digitChars 0 = d.digits := Nat.ofDigitChars_ten_toDigits
  obtain ⟨zeros, exponent, parts⟩ | ⟨places, exponent, within, parts⟩ |
    ⟨places, exponent, before, parts⟩ := d.split_cases
  · rw [parts, read, value, exponent, zpow_natCast]
    simp [Nat.ofDigitChars_append, Nat.ofDigitChars_replicate_zero, digits, mul_comm]
  · have count : (d.digitChars.drop (d.digitChars.length - places)).length = places := by
      rw [List.length_drop]
      omega
    rw [parts, read, value, exponent, zpow_neg, zpow_natCast, ← div_eq_mul_inv]
    rw [List.take_append_drop, digits, count]
  · have count : (List.replicate (places - d.digitChars.length) '0' ++ d.digitChars).length
        = places := by
      rw [List.length_append, List.length_replicate]
      omega
    rw [parts, read, value, exponent, zpow_neg, zpow_natCast, ← div_eq_mul_inv]
    rw [count, Nat.ofDigitChars_append, Nat.ofDigitChars_append]
    simp [Nat.ofDigitChars_cons, Nat.ofDigitChars_replicate_zero, digits]

/-- Both parts are digits. -/
theorem isDigit_of_mem_split {d : Decimal} {c : Char} (member : c ∈ d.split.1 ∨ c ∈ d.split.2) :
    c.isDigit = true := by
  have zero {n : Nat} (member : c ∈ List.replicate n '0') : c.isDigit = true := by
    rw [(List.mem_replicate.1 member).2]
    decide
  have digit : c ∈ d.digitChars → c.isDigit = true :=
    Nat.isDigit_of_mem_toDigits (by decide) (by decide)
  obtain ⟨_, -, parts⟩ | ⟨_, -, -, parts⟩ | ⟨_, -, -, parts⟩ := d.split_cases <;> rw [parts] at member
  · rcases member with member | impossible
    · exact (List.mem_append.1 member).elim digit zero
    · cases impossible
  · exact digit (member.elim List.mem_of_mem_take List.mem_of_mem_drop)
  · rcases member with member | member
    · exact zero (n := 1) member
    · exact (List.mem_append.1 member).elim zero digit

theorem split_fst_ne_nil (d : Decimal) : d.split.1 ≠ [] := by
  have filled : d.digitChars ≠ [] := Nat.toDigits_ne_nil
  obtain ⟨_, -, parts⟩ | ⟨_, -, within, parts⟩ | ⟨_, -, -, parts⟩ := d.split_cases <;> rw [parts]
  · exact List.append_ne_nil_of_left_ne_nil filled _
  · rw [Ne, List.take_eq_nil_iff, not_or]
    exact ⟨by omega, filled⟩
  · exact List.cons_ne_nil _ _

theorem plain_eq (d : Decimal) :
    d.plain = d.split.1 ++ if d.split.2 = [] then [] else '.' :: d.split.2 := by
  unfold plain
  split
  · rename_i whole parts
    simp [parts]
  · rename_i whole fraction filled parts
    have filled : fraction ≠ [] := filled
    simp [parts, filled]

theorem mem_plain {d : Decimal} {c : Char} (member : c ∈ d.plain) :
    c.isDigit = true ∨ c = '.' := by
  rw [plain_eq, List.mem_append] at member
  rcases member with whole | fraction
  · exact .inl (isDigit_of_mem_split (.inl whole))
  · split at fraction
    · cases fraction
    · rcases List.mem_cons.1 fraction with point | fraction
      · exact .inr point
      · exact .inl (isDigit_of_mem_split (.inr fraction))

/-- **A text is that of one number only**: it is cut at its point. -/
theorem value_eq_of_plain_eq {d e : Decimal} (same : d.plain = e.plain) : d.value = e.value := by
  have noPoint (d : Decimal) : '.' ∉ d.split.1 := by
    intro member
    exact absurd (isDigit_of_mem_split (.inl member)) (by decide)
  have parts : d.split = e.split := by
    rw [plain_eq, plain_eq] at same
    by_cases wholeD : d.split.2 = [] <;> by_cases wholeE : e.split.2 = []
    · rw [if_pos wholeD, if_pos wholeE, List.append_nil, List.append_nil] at same
      exact Prod.ext same (wholeD.trans wholeE.symm)
    · rw [if_pos wholeD, if_neg wholeE, List.append_nil] at same
      have point : '.' ∈ d.split.1 := same ▸ List.mem_append_right _ List.mem_cons_self
      exact absurd point (noPoint d)
    · rw [if_neg wholeD, if_pos wholeE, List.append_nil] at same
      have point : '.' ∈ e.split.1 := same ▸ List.mem_append_right _ List.mem_cons_self
      exact absurd point (noPoint e)
    · rw [if_neg wholeD, if_neg wholeE] at same
      obtain ⟨wholes, fractions⟩ := eq_of_append_cons (noPoint d) (noPoint e) same
      exact Prod.ext wholes fractions
  rw [← read_split, ← read_split, parts]

end Decimal

/-! ## Numbers -/

namespace Double

variable {v w : Double}

/-- The sign and the magnitude are the whole number. -/
theorem eq_of_parts (sign : v.isNegative = w.isNegative)
    (magnitude : v.magnitudeBits = w.magnitudeBits) : v = w := by
  apply orderedBits_inj.1
  rw [orderedBits_eq, orderedBits_eq, sign, magnitude]

/-- The text of a number without its sign. -/
def unsigned (v : Double) : List Char :=
  if v.isInfinite then "inf".toList else (Decimal.ofDouble v).plain

theorem toList_plain (real : v.isNaN = false) :
    v.plain.toList = if v.isNegative then '-' :: v.unsigned else v.unsigned := by
  unfold plain unsigned signed
  rw [real]
  cases v.isInfinite <;> simp

theorem mem_unsigned {c : Char} (member : c ∈ v.unsigned) :
    c.isDigit = true ∨ c ∈ ['.', 'i', 'n', 'f'] := by
  unfold unsigned at member
  split at member
  · right
    simp at member ⊢
    tauto
  · rcases Decimal.mem_plain member with digit | rfl
    · exact .inl digit
    · exact .inr List.mem_cons_self

theorem unsigned_ne_nil (v : Double) : v.unsigned ≠ [] := by
  unfold unsigned
  split
  · decide
  · rw [Decimal.plain_eq]
    exact List.append_ne_nil_of_left_ne_nil (Decimal.split_fst_ne_nil _) _

/-- Digits do not look like infinity. -/
theorem magnitudeBits_eq_of_unsigned_eq (same : v.unsigned = w.unsigned) :
    v.magnitudeBits = w.magnitudeBits := by
  have noLetter (d : Decimal) : d.plain ≠ "inf".toList := by
    intro letters
    have member : 'i' ∈ d.plain := letters ▸ (by decide)
    rcases Decimal.mem_plain member with digit | point
    · exact absurd digit (by decide)
    · exact absurd point (by decide)
  unfold unsigned at same
  split at same <;> split at same
  · rename_i first second
    rw [isInfinite_iff.1 first, isInfinite_iff.1 second]
  · exact absurd same.symm (noLetter _)
  · exact absurd same (noLetter _)
  · exact Decimal.magnitudeBits_eq_of_value_eq (Decimal.value_eq_of_plain_eq same)

/-- Besides digits, there are few characters in numbers. -/
theorem mem_toList_plain {c : Char} (member : c ∈ v.plain.toList) :
    c.isDigit = true ∨ c ∈ ['-', '.', 'i', 'n', 'f'] ∨ v.isNaN = true ∧ c ∈ "NaN".toList := by
  cases real : v.isNaN
  · have unsigned (member : c ∈ v.unsigned) :
        c.isDigit = true ∨ c ∈ ['-', '.', 'i', 'n', 'f'] :=
      (mem_unsigned member).imp_right (List.mem_cons_of_mem _)
    rw [toList_plain real] at member
    rw [← or_assoc]
    left
    split at member
    · rcases List.mem_cons.1 member with rfl | member
      · exact .inr List.mem_cons_self
      · exact unsigned member
    · exact unsigned member
  · rw [plain, if_pos real] at member
    exact .inr (.inr ⟨rfl, member⟩)

theorem notMem_toList_plain {c : Char} (other : c.isDigit = false)
    (unlisted : c ∉ ['-', '.', 'i', 'n', 'f', 'N', 'a']) : c ∉ v.plain.toList := by
  intro member
  rcases mem_toList_plain member with digit | listed | ⟨-, letter⟩
  · rw [other] at digit
    cases digit
  · exact unlisted (List.mem_append_left ['N', 'a'] listed)
  · simp at letter unlisted
    tauto

theorem unbroken_plain (v : Double) : Text.Unbroken v.plain where
  filled := by
    intro empty
    cases real : v.isNaN
    · have list := toList_plain real
      rw [empty] at list
      split at list
      · cases list
      · exact unsigned_ne_nil v list.symm
    · rw [plain, if_pos real] at empty
      exact absurd empty (by decide)
  noSpace := notMem_toList_plain (by decide) (by decide)

/-- **The text of a number shows its bits**, and that it is a number. -/
theorem plain_inj (real : v.isNaN = false) : v.plain = w.plain ↔ v = w := by
  have noSign (v : Double) : '-' ∉ v.unsigned := by
    intro member
    rcases mem_unsigned member with digit | listed
    · exact absurd digit (by decide)
    · exact absurd listed (by decide)
  constructor
  · intro same
    have realToo : w.isNaN = false := by
      by_contra other
      rw [Bool.not_eq_false] at other
      have letter : 'N' ∈ v.plain.toList := by
        rw [same, plain, if_pos other]
        decide
      rcases mem_toList_plain letter with digit | listed | ⟨impossible, -⟩
      · exact absurd digit (by decide)
      · exact absurd listed (by decide)
      · rw [real] at impossible
        cases impossible
    have lists := congrArg String.toList same
    rw [toList_plain real, toList_plain realToo] at lists
    cases signV : v.isNegative <;> cases signW : w.isNegative <;>
      simp only [signV, signW, Bool.false_eq_true, if_false, if_true] at lists
    · exact eq_of_parts (signV.trans signW.symm) (magnitudeBits_eq_of_unsigned_eq lists)
    · exact absurd (lists ▸ List.mem_cons_self) (noSign v)
    · exact absurd (lists ▸ List.mem_cons_self) (noSign w)
    · exact eq_of_parts (signV.trans signW.symm)
        (magnitudeBits_eq_of_unsigned_eq (List.cons.inj lists).2)
  · rintro rfl
    rfl

end Double

end IndexSnapshot
