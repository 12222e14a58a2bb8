/-
# IndexSnapshot.Proofs.PositionalNumerals -- the exponent of a numeral is written out

A numeral has a sign, digits, perhaps a point with more digits, and perhaps an exponent.  The
exponent moves the point over the digits, and zeros fill the places that it passes; zeros at the
end of a fraction are dropped, and with the last digit the point.  None of this changes the
number, nor the sign, which stays with a zero too.  Plain notation of a number is what comes of
its literal in this way.

* `Numeral.read?`: a text taken apart as a numeral, and `Numeral.value`, the number that it is.
* `Numeral.shown`: the numeral without its exponent; `Numeral.shown_spec` says that it has the
  form of plain notation and is the same number with the same sign.
* `Decimal.stripped_plain`: a decimal without zeros at its end loses nothing.
* `Decimal.Trimmed.read?_literal`: its literal is a numeral, shown in plain notation.
* `Double.plain_keeps_literal`: plain notation and literal of every number.
-/
import IndexSnapshot.Proofs.Digits
import IndexSnapshot.Proofs.PlainNumerals
import Mathlib.Data.List.DropRight

namespace IndexSnapshot

set_option autoImplicit false

open Text (IsNumber readNumber? isNumber_toDigits notMem_toDigits)

theorem Decimal.number_split (d : Decimal) : IsNumber d.split.1 :=
  ⟨split_fst_ne_nil d, List.all_eq_true.2 fun _ member => isDigit_of_mem_split (.inl member)⟩

theorem Decimal.digits_split (d : Decimal) : d.split.2.all Char.isDigit = true :=
  List.all_eq_true.2 fun _ member => isDigit_of_mem_split (.inr member)

/-- A numeral taken apart. -/
structure Numeral where
  negative : Bool
  /-- The digits before the point. -/
  whole : List Char
  /-- The digits behind the point. -/
  fraction : List Char
  exponent : Int
  deriving DecidableEq, Repr

namespace Numeral

/-! ## Reading -/

/-- The digits before and behind the point. -/
def readDigits? (chars : List Char) : Option (List Char × List Char) :=
  match chars.splitOn '.' with
  | [whole] => if IsNumber whole then some (whole, []) else none
  | [whole, fraction] => if IsNumber whole ∧ IsNumber fraction then some (whole, fraction) else none
  | _ => none

/-- An integer with a sign or without one. -/
def readExponent? (chars : List Char) : Option Int :=
  match chars with
  | '-' :: digits => (readNumber? digits).map fun n : Nat => -n
  | '+' :: digits => (readNumber? digits).map fun n : Nat => n
  | digits => (readNumber? digits).map fun n : Nat => n

/-- A numeral without its sign. -/
def readUnsigned? (negative : Bool) (chars : List Char) : Option Numeral :=
  match chars.splitOn 'e' with
  | [digits] => do
      let (whole, fraction) ← readDigits? digits
      return ⟨negative, whole, fraction, 0⟩
  | [digits, exponent] => do
      let (whole, fraction) ← readDigits? digits
      return ⟨negative, whole, fraction, ← readExponent? exponent⟩
  | _ => none

/-- The parts of a numeral. -/
def read? (chars : List Char) : Option Numeral :=
  match chars with
  | '-' :: unsigned => readUnsigned? true unsigned
  | unsigned => readUnsigned? false unsigned

/-- All digits as an integer, and the power of ten of the last of them. -/
def decimal (n : Numeral) : Decimal :=
  ⟨Nat.ofDigitChars 10 (n.whole ++ n.fraction) 0, n.exponent - n.fraction.length⟩

/-- The number that a numeral is, without its sign. -/
def value (n : Numeral) : ℚ :=
  n.decimal.value

/-! ## Plain notation -/

/-- A sign, digits, and a point with more digits if there are any. -/
def written (negative : Bool) (whole fraction : List Char) : List Char :=
  (if negative then ['-'] else []) ++ (whole ++ if fraction = [] then [] else '.' :: fraction)

/-- An optional minus sign, digits, and optionally a point and more digits, of which the last is
no zero. -/
def IsPlain (chars : List Char) : Prop :=
  ∃ negative whole fraction, IsNumber whole ∧ fraction.all Char.isDigit = true ∧
    fraction.getLast? ≠ some '0' ∧ chars = written negative whole fraction

/-- Without zeros at the end of a fraction, and without a point that nothing is behind. -/
def stripped (chars : List Char) : List Char :=
  if '.' ∈ chars then (chars.rdropWhile (· == '0')).rdropWhile (· == '.') else chars

/-- The digits of a numeral with the point where its exponent moves it.  A zero has no zeros
behind it. -/
def positional (n : Numeral) : List Char :=
  if n.decimal.digits = 0 ∧ 0 < n.decimal.exponent then ['0'] else n.decimal.plain

/-- A numeral without its exponent. -/
def shown (n : Numeral) : List Char :=
  stripped ((if n.negative then ['-'] else []) ++ n.positional)

/-! ## What is dropped -/

theorem rdropWhile_append_cons {drop : Char → Bool} {c : Char} (stays : drop c = false)
    (before after : List Char) :
    (before ++ c :: after).rdropWhile drop = before ++ c :: after.rdropWhile drop := by
  induction after using List.reverseRecOn with
  | nil => rw [List.rdropWhile_concat_neg _ _ _ (by simp [stays]), List.rdropWhile_nil]
  | append_singleton rest last ih =>
      have grouped : before ++ c :: (rest ++ [last]) = before ++ c :: rest ++ [last] := by simp
      rw [grouped, List.rdropWhile_concat, List.rdropWhile_concat, ih]
      split <;> simp

/-- Zeros at the end of a fraction are dropped, and no others. -/
theorem stripped_written (negative : Bool) {whole fraction : List Char} (number : IsNumber whole)
    (digits : fraction.all Char.isDigit = true) :
    stripped (written negative whole fraction)
      = written negative whole (fraction.rdropWhile (· == '0')) := by
  have noPoint : '.' ∉ (if negative then ['-'] else []) ++ whole := by
    have inWhole : '.' ∉ whole := number.notMem rfl
    cases negative <;> simp [inWhole]
  unfold written
  generalize (if negative then ['-'] else []) = sign at noPoint ⊢
  by_cases none_ : fraction = []
  · rw [none_, List.rdropWhile_nil, if_pos rfl, List.append_nil, stripped, if_neg noPoint]
  · rw [if_neg none_, ← List.append_assoc, stripped, if_pos (by simp),
      rdropWhile_append_cons (by rfl)]
    rcases List.eq_nil_or_concat' (fraction.rdropWhile (· == '0')) with zeros | ⟨front, last, kept⟩
    · rw [zeros, if_pos rfl, List.rdropWhile_concat_pos _ _ _ (by rfl), List.append_nil,
        List.rdropWhile_eq_self_iff]
      intro filled point
      rw [beq_iff_eq] at point
      exact noPoint (point ▸ List.getLast_mem filled)
    · have digit : last.isDigit = true := by
        have member : last ∈ fraction.rdropWhile (· == '0') := by simp [kept]
        exact List.all_eq_true.1 digits last ((List.rdropWhile_prefix _ _).subset member)
      have stays : ¬ (last == '.') = true := by
        intro point
        rw [beq_iff_eq] at point
        rw [point] at digit
        cases digit
      have grouped : sign ++ whole ++ '.' :: (front ++ [last])
          = sign ++ whole ++ '.' :: front ++ [last] := by simp
      rw [kept, if_neg (by simp), grouped, List.rdropWhile_concat_neg (· == '.') _ last stays]
      simp

/-- They do not change the number. -/
theorem read_rdropWhile (whole fraction : List Char) :
    Decimal.read (whole, fraction.rdropWhile (· == '0')) = Decimal.read (whole, fraction) := by
  obtain ⟨count, zeros⟩ : ∃ count, fraction.rtakeWhile (· == '0') = List.replicate count '0' :=
    ⟨_, List.eq_replicate_iff.2 ⟨rfl, fun c member => by
      simpa using List.mem_rtakeWhile_imp member⟩⟩
  have parts : fraction = fraction.rdropWhile (· == '0') ++ List.replicate count '0' := by
    rw [← zeros, List.rdropWhile_append_rtakeWhile]
  generalize fraction.rdropWhile (· == '0') = kept at parts ⊢
  subst parts
  have shifted : Nat.ofDigitChars 10 (whole ++ kept ++ List.replicate count '0') 0
      = 10 ^ count * Nat.ofDigitChars 10 (whole ++ kept) 0 := by
    rw [Nat.ofDigitChars_append, Nat.ofDigitChars_replicate_zero]
  simp only [Decimal.read, ← List.append_assoc, shifted, List.length_append,
    List.length_replicate, pow_add]
  push_cast
  field_simp

/-! ## What is shown -/

theorem readDigits?_written {whole fraction : List Char} (number : IsNumber whole)
    (digits : fraction.all Char.isDigit = true) :
    readDigits? (whole ++ if fraction = [] then [] else '.' :: fraction)
      = some (whole, fraction) := by
  have wholePoint : '.' ∉ whole := number.notMem rfl
  unfold readDigits?
  by_cases none_ : fraction = []
  · rw [if_pos none_, List.append_nil, Text.splitOn_eq_singleton wholePoint, none_]
    exact if_pos number
  · have both : IsNumber fraction := ⟨none_, digits⟩
    rw [if_neg none_, Text.splitOn_append_cons wholePoint (both.notMem rfl)]
    exact if_pos ⟨number, both⟩

/-- No digit and no point is an exponent mark. -/
theorem exponent_notMem {whole fraction : List Char} (number : IsNumber whole)
    (digits : fraction.all Char.isDigit = true) :
    'e' ∉ whole ++ if fraction = [] then [] else '.' :: fraction := by
  have inWhole : 'e' ∉ whole := number.notMem rfl
  by_cases none_ : fraction = []
  · simpa [none_] using inWhole
  · have both : IsNumber fraction := ⟨none_, digits⟩
    simp [none_, inWhole, both.notMem (c := 'e') rfl]

/-- A sign is read as it was put in front of a numeral. -/
theorem read?_signed (negative : Bool) {first : Char} {rest : List Char} (digit : first.isDigit) :
    read? ((if negative then ['-'] else []) ++ first :: rest)
      = readUnsigned? negative (first :: rest) := by
  cases negative with
  | true => rfl
  | false =>
      have other : first ≠ '-' := by
        rintro rfl
        cases digit
      simp only [Bool.false_eq_true, if_false, List.nil_append]
      unfold read?
      split
      · rename_i sign
        exact absurd (List.cons.inj sign).1 other
      · rfl

/-- Plain notation is read as what it was written from. -/
theorem read?_written (negative : Bool) {whole fraction : List Char} (number : IsNumber whole)
    (digits : fraction.all Char.isDigit = true) :
    read? (written negative whole fraction) = some ⟨negative, whole, fraction, 0⟩ := by
  have unsigned : readUnsigned? negative (whole ++ if fraction = [] then [] else '.' :: fraction)
      = some ⟨negative, whole, fraction, 0⟩ := by
    rw [readUnsigned?, Text.splitOn_eq_singleton (exponent_notMem number digits)]
    dsimp only
    rw [readDigits?_written number digits]
    rfl
  obtain ⟨first, rest, rfl⟩ := List.exists_cons_of_ne_nil number.1
  rw [written, List.cons_append, read?_signed negative (number.isDigit List.mem_cons_self)]
  exact unsigned

theorem read_eq_value (negative : Bool) (whole fraction : List Char) :
    Decimal.read (whole, fraction) = value ⟨negative, whole, fraction, 0⟩ := by
  simp [Decimal.read, value, decimal, Decimal.value, div_eq_mul_inv]

/-- The digits of a numeral with the point where they are shown are its number. -/
theorem positional_cases (n : Numeral) :
    ∃ whole fraction, IsNumber whole ∧ fraction.all Char.isDigit = true ∧
      n.positional = whole ++ (if fraction = [] then [] else '.' :: fraction) ∧
      Decimal.read (whole, fraction) = n.value := by
  unfold positional
  split
  case isTrue zero =>
    refine ⟨['0'], [], by decide, rfl, rfl, ?_⟩
    rw [value, Decimal.value, zero.1]
    simp [Decimal.read, Nat.ofDigitChars_cons]
  case isFalse =>
    exact ⟨n.decimal.split.1, n.decimal.split.2, n.decimal.number_split, n.decimal.digits_split,
      Decimal.plain_eq _, Decimal.read_split _⟩

/-- **The exponent of a numeral is written out**: what is shown has the form of plain notation,
and is the same number with the same sign. -/
theorem shown_spec (n : Numeral) :
    IsPlain n.shown ∧ ∃ m, read? n.shown = some m ∧ m.negative = n.negative ∧
      m.value = n.value := by
  obtain ⟨whole, fraction, number, digits, form, same⟩ := n.positional_cases
  have kept : (fraction.rdropWhile (· == '0')).all Char.isDigit = true :=
    List.all_eq_true.2 fun c member =>
      List.all_eq_true.1 digits c ((List.rdropWhile_prefix _ _).subset member)
  have shown_eq : n.shown = written n.negative whole (fraction.rdropWhile (· == '0')) := by
    rw [shown, form]
    exact stripped_written n.negative number digits
  have noZero : (fraction.rdropWhile (· == '0')).getLast? ≠ some '0' := by
    intro last
    have filled : fraction.rdropWhile (· == '0') ≠ [] := by
      intro empty
      rw [empty] at last
      cases last
    have stays := List.rdropWhile_last_not (· == '0') fraction filled
    rw [List.getLast?_eq_some_getLast filled, Option.some.injEq] at last
    rw [last] at stays
    exact stays rfl
  refine ⟨⟨n.negative, whole, _, number, kept, noZero, shown_eq⟩, ⟨n.negative, whole, _, 0⟩,
    shown_eq ▸ read?_written n.negative number kept, rfl, ?_⟩
  rw [← read_eq_value, read_rdropWhile, same]

example : (read? "-1.250e+01".toList).map shown = some "-12.5".toList := by decide

end Numeral

/-! ## Decimals without zeros at their end -/

namespace Decimal

/-- A decimal whose digits do not end in a zero, or the zero itself. -/
def Trimmed (d : Decimal) : Prop :=
  d.digits % 10 = 0 → d = ⟨0, 0⟩

theorem trim_cases (d : Decimal) : d.trim.digits = 0 ∨ d.trim.digits % 10 ≠ 0 := by
  fun_induction trim d with
  | case1 d zeros ih => exact ih
  | case2 d none_ => omega

theorem trimmed_ofDouble (v : Double) : (ofDouble v).Trimmed := by
  intro ends
  by_cases zero : v.magnitudeBits = 0
  · rw [ofDouble, if_pos (significand_eq_zero_iff.2 zero)]
  · have value := mt value_ofDouble_eq_zero_iff.1 zero
    have significand := mt significand_eq_zero_iff.1 zero
    rw [ofDouble, if_neg significand] at ends value
    rcases trim_cases (((Interval.ofDouble v).search 24 (Interval.ofDouble v).coarsest).getD
      (Interval.ofDouble v).exact) with none_ | some_
    · refine absurd ?_ value
      rw [Interval.shortest, Decimal.value, none_]
      simp
    · exact absurd ends some_

/-- The last digit of a number that does not end in a zero. -/
theorem getLast?_digitChars {d : Decimal} (ends : d.digits % 10 ≠ 0) :
    d.digitChars.getLast? ≠ some '0' := by
  rw [digitChars, Nat.toDigits_eq_if (by decide)]
  split
  case isTrue small =>
    rw [List.getLast?_singleton, Ne, Option.some.injEq, Nat.digitChar_eq_zero]
    omega
  case isFalse =>
    rw [List.getLast?_concat, Ne, Option.some.injEq, Nat.digitChar_eq_zero]
    exact ends

/-- The fraction of a decimal without zeros at its end does not end in one. -/
theorem Trimmed.getLast?_split {d : Decimal} (trimmed : d.Trimmed) :
    d.split.2.getLast? ≠ some '0' := by
  by_cases zero : d.digits % 10 = 0
  · rw [trimmed zero]
    decide
  · have last := getLast?_digitChars zero
    have filled : d.digitChars ≠ [] := Nat.toDigits_ne_nil
    obtain ⟨_, -, parts⟩ | ⟨places, -, -, parts⟩ | ⟨_, -, -, parts⟩ := d.split_cases <;>
      rw [parts] <;> dsimp only
    · simp
    · rw [List.getLast?_drop]
      split
      · simp
      · exact last
    · rw [List.getLast?_append, List.getLast?_eq_some_getLast filled] at *
      exact last

/-- **Nothing is dropped from a decimal without zeros at its end.** -/
theorem stripped_plain {d : Decimal} (trimmed : d.Trimmed) (negative : Bool) :
    Numeral.stripped ((if negative then ['-'] else []) ++ d.plain)
      = (if negative then ['-'] else []) ++ d.plain := by
  have kept : d.split.2.rdropWhile (· == '0') = d.split.2 := by
    rw [List.rdropWhile_eq_self_iff]
    intro filled zero
    rw [beq_iff_eq] at zero
    exact trimmed.getLast?_split (by rw [List.getLast?_eq_some_getLast filled, zero])
  have dropped := Numeral.stripped_written negative d.number_split d.digits_split
  rw [kept, Numeral.written, ← plain_eq] at dropped
  exact dropped

/-- A numeral that is such a decimal is shown in plain notation. -/
theorem shown_of_decimal_eq {d : Decimal} (trimmed : d.Trimmed) {n : Numeral}
    (same : n.decimal = d) : n.shown = (if n.negative then ['-'] else []) ++ d.plain := by
  have noZeros : ¬ (n.decimal.digits = 0 ∧ 0 < n.decimal.exponent) := by
    rw [same]
    rintro ⟨zero, positive⟩
    rw [trimmed (by rw [zero])] at positive
    cases positive
  rw [Numeral.shown, Numeral.positional, if_neg noZeros, same, stripped_plain trimmed]

/-! ## Integers with a point -/

/-- Zeros behind a number that is not zero. -/
theorem toDigits_mul_ten_pow {n : Nat} (positive : 0 < n) (count : Nat) :
    Nat.toDigits 10 (n * 10 ^ count) = Nat.toDigits 10 n ++ List.replicate count '0' := by
  induction count with
  | zero => simp
  | succ count ih =>
      have more := Nat.toDigits_append_toDigits (b := 10) (d := 0) (by decide)
        (Nat.mul_pos positive (Nat.pow_pos (by decide) : 0 < 10 ^ count)) (by decide)
      rw [ih, Nat.toDigits_zero, Nat.add_zero, List.append_assoc] at more
      rw [List.replicate_succ', more]
      congr 1
      ring

/-- Without a fraction there are only zeros behind the digits. -/
theorem exists_zeros_of_split {d : Decimal} (whole : d.split.2 = []) :
    ∃ zeros : Nat, d.exponent = zeros ∧ d.split.1 = d.digitChars ++ List.replicate zeros '0' := by
  obtain ⟨zeros, exponent, parts⟩ | ⟨places, exponent, within, parts⟩ | ⟨_, -, -, parts⟩ :=
    d.split_cases
  · exact ⟨zeros, exponent, by rw [parts]⟩
  · rw [parts] at whole ⊢
    have none_ : places = 0 := by
      rw [List.drop_eq_nil_iff] at whole
      omega
    exact ⟨0, by simp [exponent, none_], by simp [none_]⟩
  · rw [parts] at whole
    exact absurd (List.append_eq_nil_iff.1 whole).2 Nat.toDigits_ne_nil

/-- The digits of an integer are those of a decimal without a fraction. -/
theorem Trimmed.toDigits_split {d : Decimal} (trimmed : d.Trimmed) (whole : d.split.2 = []) :
    Nat.toDigits 10 (Nat.ofDigitChars 10 d.split.1 0) = d.split.1 := by
  obtain ⟨zeros, exponent, digits⟩ := exists_zeros_of_split whole
  have value : Nat.ofDigitChars 10 d.digitChars 0 = d.digits := Nat.ofDigitChars_ten_toDigits
  rw [digits, Nat.ofDigitChars_append, Nat.ofDigitChars_replicate_zero, value, Nat.mul_comm]
  rcases Nat.eq_zero_or_pos d.digits with zero | positive
  · have nothing := trimmed (by rw [zero])
    rw [nothing] at exponent ⊢
    have none_ : zeros = 0 := by
      simp only at exponent
      omega
    rw [none_]
    rfl
  · exact toDigits_mul_ten_pow positive zeros

/-- A point and a zero behind an integer are dropped. -/
theorem shown_integer (negative : Bool) {whole : List Char} (number : IsNumber whole)
    (digits : Nat.toDigits 10 (Nat.ofDigitChars 10 whole 0) = whole) :
    Numeral.shown ⟨negative, whole, ['0'], 0⟩ = (if negative then ['-'] else []) ++ whole := by
  have decimal : Numeral.decimal ⟨negative, whole, ['0'], 0⟩
      = ⟨Nat.ofDigitChars 10 whole 0 * 10, -1⟩ := by
    simp [Numeral.decimal, Nat.ofDigitChars_append, Nat.ofDigitChars_cons, mul_comm]
  have parts : (Numeral.decimal ⟨negative, whole, ['0'], 0⟩).split = (whole, ['0']) := by
    rw [decimal]
    rcases Nat.eq_zero_or_pos (Nat.ofDigitChars 10 whole 0) with zero | positive
    · rw [zero] at digits ⊢
      rw [← digits]
      rfl
    · have more : digitChars ⟨Nat.ofDigitChars 10 whole 0 * 10, -1⟩ = whole ++ ['0'] := by
        have zeros := toDigits_mul_ten_pow positive 1
        rwa [digits, pow_one] at zeros
      have filled : 0 < whole.length := List.length_pos_of_ne_nil number.1
      simp [split, more, filled]
  have noZeros : ¬ ((Numeral.decimal ⟨negative, whole, ['0'], 0⟩).digits = 0 ∧
      0 < (Numeral.decimal ⟨negative, whole, ['0'], 0⟩).exponent) := by
    rw [decimal]
    rintro ⟨-, positive⟩
    cases positive
  have dropped : Numeral.stripped (Numeral.written negative whole ['0']) = _ :=
    Numeral.stripped_written negative number rfl
  rw [Numeral.shown, Numeral.positional, if_neg noZeros, plain_eq, parts]
  exact dropped.trans (by simp [Numeral.written, List.rdropWhile])

/-! ## Literals -/

theorem readNumber?_twoDigits (n : Nat) : readNumber? (twoDigits n) = some n := by
  unfold twoDigits
  split
  · have number : IsNumber ('0' :: Nat.toDigits 10 n) :=
      ⟨List.cons_ne_nil _ _, by simpa using (isNumber_toDigits n).2⟩
    rw [readNumber?, if_pos number, Nat.ofDigitChars_cons]
    exact congrArg some Nat.ofDigitChars_ten_toDigits
  · exact Text.readNumber?_toDigits n

/-- The power of ten behind the digits. -/
theorem readExponent?_scientific (exponent : Int) :
    Numeral.readExponent? ((if exponent < 0 then '-' else '+') :: twoDigits exponent.natAbs)
      = some exponent := by
  unfold Numeral.readExponent?
  by_cases negative : exponent < 0
  · have size : -(exponent.natAbs : Int) = exponent := by omega
    simp only [if_pos negative, readNumber?_twoDigits, Option.map_some, size]
  · have size : (exponent.natAbs : Int) = exponent := by omega
    simp only [if_neg negative, readNumber?_twoDigits, Option.map_some, size]

/-- A number with an exponent is read as what it was written from. -/
theorem read?_scientific (d : Decimal) (negative : Bool) :
    ∃ n, Numeral.read? ((if negative then ['-'] else []) ++ d.scientific) = some n ∧
      n.negative = negative ∧ n.decimal = d := by
  have all : IsNumber d.digitChars := isNumber_toDigits _
  obtain ⟨first, more, digits⟩ := List.exists_cons_of_ne_nil all.1
  rw [digits] at all
  have number : IsNumber [first] := ⟨by simp, by simp [all.isDigit List.mem_cons_self]⟩
  have fraction : more.all Char.isDigit = true :=
    List.all_eq_true.2 fun _ member => all.isDigit (List.mem_cons_of_mem _ member)
  have text : d.scientific = ([first] ++ if more = [] then [] else '.' :: more)
      ++ 'e' :: (if d.magnitude < 0 then '-' else '+') :: twoDigits d.magnitude.natAbs := by
    unfold scientific
    dsimp only
    rw [digits]
    cases more <;> simp
  have noMark : 'e' ∉ (if d.magnitude < 0 then '-' else '+') :: twoDigits d.magnitude.natAbs := by
    have inDigits : 'e' ∉ twoDigits d.magnitude.natAbs := by
      have digits := Text.notMem_toDigits (c := 'e') rfl d.magnitude.natAbs
      unfold twoDigits
      split <;> simp [digits]
    split <;> simp [inDigits]
  have exponent : (d.magnitude : Int) - more.length = d.exponent := by
    rw [magnitude, digits, List.length_cons]
    push_cast
    ring
  have unsigned : Numeral.readUnsigned? negative d.scientific
      = some ⟨negative, [first], more, d.magnitude⟩ := by
    rw [Numeral.readUnsigned?, text,
      Text.splitOn_append_cons (Numeral.exponent_notMem number fraction) noMark]
    dsimp only
    rw [Numeral.readDigits?_written number fraction, readExponent?_scientific]
    rfl
  refine ⟨⟨negative, [first], more, d.magnitude⟩, ?_, rfl, ?_⟩
  · rw [← unsigned, text]
    exact Numeral.read?_signed negative (all.isDigit List.mem_cons_self)
  · have value : Nat.ofDigitChars 10 d.digitChars 0 = d.digits := Nat.ofDigitChars_ten_toDigits
    rw [Numeral.decimal, exponent, List.singleton_append, ← digits, value]

/-- The parts of a decimal with a fraction are the whole of it. -/
theorem decimal_split {d : Decimal} (filled : d.split.2 ≠ []) (negative : Bool) :
    Numeral.decimal ⟨negative, d.split.1, d.split.2, 0⟩ = d := by
  have value : Nat.ofDigitChars 10 d.digitChars 0 = d.digits := Nat.ofDigitChars_ten_toDigits
  obtain ⟨_, -, parts⟩ | ⟨places, exponent, within, parts⟩ | ⟨places, exponent, before, parts⟩ :=
    d.split_cases
  · rw [parts] at filled
    exact absurd rfl filled
  · have count : d.digitChars.length - (d.digitChars.length - places) = places := by omega
    rw [Numeral.decimal, parts]
    dsimp only
    rw [List.take_append_drop, value, List.length_drop, count, zero_sub, ← exponent]
  · have count : places - d.digitChars.length + d.digitChars.length = places := by omega
    have zeros : ['0'] ++ (List.replicate (places - d.digitChars.length) '0' ++ d.digitChars)
        = List.replicate (places - d.digitChars.length + 1) '0' ++ d.digitChars := by
      rw [List.replicate_succ]
      rfl
    rw [Numeral.decimal, parts]
    dsimp only
    rw [zeros, Nat.ofDigitChars_append, Nat.ofDigitChars_replicate_zero, mul_zero, value,
      List.length_append, List.length_replicate, count, zero_sub, ← exponent]

/-- Literals without an exponent: there is always a point in them, and a zero behind it if there
is no fraction. -/
def withPoint (d : Decimal) (negative : Bool) : Numeral :=
  ⟨negative, d.split.1, if d.split.2 = [] then ['0'] else d.split.2, 0⟩

theorem value_withPoint (d : Decimal) (negative : Bool) :
    (d.withPoint negative).value = d.value := by
  rw [withPoint, ← Numeral.read_eq_value, ← read_split]
  split
  case isTrue whole =>
    rw [← Numeral.read_rdropWhile]
    exact congrArg read (Prod.ext rfl whole.symm)
  case isFalse => rfl

theorem Trimmed.shown_withPoint {d : Decimal} (trimmed : d.Trimmed) (negative : Bool) :
    (d.withPoint negative).shown = (if negative then ['-'] else []) ++ d.plain := by
  by_cases whole : d.split.2 = []
  · have integer := shown_integer negative d.number_split (trimmed.toDigits_split whole)
    rw [withPoint, if_pos whole, integer, plain_eq, if_pos whole, List.append_nil]
  · rw [withPoint, if_neg whole, shown_of_decimal_eq trimmed (decimal_split whole negative)]

theorem literal_eq {d : Decimal} (near : -4 ≤ d.magnitude ∧ d.magnitude < 16) :
    d.literal = d.split.1 ++ '.' :: if d.split.2 = [] then ['0'] else d.split.2 := by
  rw [literal, if_pos near]
  split
  · rename_i whole parts
    simp [parts]
  · rename_i whole fraction filled parts
    have filled : fraction ≠ [] := filled
    simp [parts, filled]

/-- **A literal is a numeral, and plain notation is what is shown of it.** -/
theorem Trimmed.read?_literal {d : Decimal} (trimmed : d.Trimmed) (negative : Bool) :
    ∃ n, Numeral.read? ((if negative then ['-'] else []) ++ d.literal) = some n ∧
      n.negative = negative ∧ n.value = d.value ∧
      n.shown = (if negative then ['-'] else []) ++ d.plain := by
  by_cases near : -4 ≤ d.magnitude ∧ d.magnitude < 16
  · refine ⟨d.withPoint negative, ?_, rfl, d.value_withPoint negative,
      trimmed.shown_withPoint negative⟩
    have filled : (if d.split.2 = [] then ['0'] else d.split.2) ≠ [] := by
      split <;> simp [*]
    have digits : (if d.split.2 = [] then ['0'] else d.split.2).all Char.isDigit = true := by
      split
      · rfl
      · exact d.digits_split
    have reads := Numeral.read?_written negative d.number_split digits
    rwa [Numeral.written, if_neg filled, ← literal_eq near] at reads
  · have text : d.literal = d.scientific := if_neg near
    obtain ⟨n, reads, sign, same⟩ := d.read?_scientific negative
    refine ⟨n, text ▸ reads, sign, by rw [Numeral.value, same], ?_⟩
    rw [shown_of_decimal_eq trimmed same, sign]

end Decimal

/-! ## Numbers -/

namespace Double

variable {v : Double}

theorem toList_literal (finite : v.isNaN = false) (bounded : v.isInfinite = false) :
    v.literal.toList
      = (if v.isNegative then ['-'] else []) ++ (Decimal.ofDouble v).literal := by
  simp only [literal, finite, bounded, Bool.false_eq_true, if_false, signed, String.toList_ofList]
  split <;> rfl

/-- **Plain notation keeps the printed number**: the literal of a finite number is a numeral, and
plain notation is that numeral without its exponent: a minus sign or none, digits, and perhaps a
point and more digits that do not end in zero.  It is the same decimal number with the same sign.
So no two numbers have the same text, the two zeros and the infinities included. -/
theorem plain_keeps_literal (real : v.isNaN = false) :
    (v.isInfinite = false → ∃ n m, Numeral.read? v.literal.toList = some n ∧
      v.plain.toList = n.shown ∧ Numeral.IsPlain v.plain.toList ∧
      Numeral.read? v.plain.toList = some m ∧ n.negative = v.isNegative ∧
      m.negative = n.negative ∧ m.value = n.value) ∧
    ∀ w : Double, v.plain = w.plain ↔ v = w := by
  refine ⟨fun bounded => ?_, fun w => plain_inj real⟩
  obtain ⟨n, reads, sign, -, shown⟩ := (Decimal.trimmed_ofDouble v).read?_literal v.isNegative
  rw [← toList_literal real bounded] at reads
  have same : v.plain.toList = n.shown := by
    rw [toList_plain real, shown, unsigned, bounded]
    split <;> simp
  obtain ⟨form, m, readsToo, signToo, value⟩ := n.shown_spec
  rw [← same] at form readsToo
  exact ⟨n, m, reads, same, form, readsToo, sign, signToo, value⟩

/-- The smallest of all positive numbers: `5e-324`. -/
theorem plain_keeps_literal_of_smallest :
    Double.isNaN ⟨1⟩ = false ∧ Double.isInfinite ⟨1⟩ = false ∧
    (∃ n m, Numeral.read? (Double.literal ⟨1⟩).toList = some n ∧
      (Double.plain ⟨1⟩).toList = n.shown ∧ Numeral.IsPlain (Double.plain ⟨1⟩).toList ∧
      Numeral.read? (Double.plain ⟨1⟩).toList = some m ∧ n.negative = false ∧
      m.negative = n.negative ∧ m.value = n.value) ∧
    (Double.plain ⟨1⟩ = Double.plain ⟨0⟩ ↔ (⟨1⟩ : Double) = ⟨0⟩) :=
  have kept := plain_keeps_literal (v := ⟨1⟩) rfl
  ⟨rfl, rfl, kept.1 rfl, kept.2 ⟨0⟩⟩

end Double

end IndexSnapshot
