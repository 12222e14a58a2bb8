/-
# IndexSnapshot.Proofs.Digits -- integers read off their digits

An integer is written in decimal digits and read from them again.  There is nothing but digits in
it, so it can be cut from marks and spaces around it.

* `Text.readNumber?_toDigits`: an integer is read as it was written.
* `Text.notMem_toDigits`: no other character is among its digits.
* `Text.isWritable_iff`: which integers are written at all.
* `Text.splitOn_eq_singleton` and `Text.splitOn_append_cons`: where a text is cut at a mark.
-/
import IndexSnapshot.Text.Digit
import Mathlib.Algebra.Group.Nat.Defs

namespace IndexSnapshot.Text

set_option autoImplicit false

/-- Digits, one at least. -/
def IsNumber (chars : List Char) : Prop :=
  chars ≠ [] ∧ chars.all Char.isDigit = true

instance (chars : List Char) : Decidable (IsNumber chars) :=
  inferInstanceAs (Decidable (_ ∧ _))

/-- The integer that digits stand for. -/
def readNumber? (chars : List Char) : Option Nat :=
  if IsNumber chars then some (Nat.ofDigitChars 10 chars 0) else none

theorem IsNumber.isDigit {chars : List Char} (number : IsNumber chars) {c : Char}
    (member : c ∈ chars) : c.isDigit = true :=
  List.all_eq_true.1 number.2 c member

theorem IsNumber.notMem {chars : List Char} (number : IsNumber chars) {c : Char}
    (other : c.isDigit = false) : c ∉ chars := by
  intro member
  have digit := number.isDigit member
  rw [other] at digit
  cases digit

theorem isNumber_toDigits (n : Nat) : IsNumber (Nat.toDigits 10 n) :=
  ⟨Nat.toDigits_ne_nil, List.all_eq_true.2 fun _ member =>
    Nat.isDigit_of_mem_toDigits (by decide) (by decide) member⟩

theorem notMem_toDigits {c : Char} (other : c.isDigit = false) (n : Nat) :
    c ∉ Nat.toDigits 10 n :=
  (isNumber_toDigits n).notMem other

theorem readNumber?_toDigits (n : Nat) : readNumber? (Nat.toDigits 10 n) = some n := by
  rw [readNumber?, if_pos (isNumber_toDigits n), Nat.ofDigitChars_ten_toDigits]

/-- An integer is written if it is less than the power of ten with one digit too many. -/
theorem isWritable_iff (n : Int) : isWritable n = true ↔ n.natAbs < 10 ^ digitLimit := by
  rw [isWritable, decide_eq_true_eq]
  exact Nat.length_toDigits_le_iff (by decide) (by decide)

/-! ## Marks between numbers -/

theorem splitOn_eq_singleton {mark : Char} {chars : List Char} (free : mark ∉ chars) :
    chars.splitOn mark = [chars] := by
  have cut : ([mark].intercalate [chars]).splitOn mark = [chars] :=
    List.splitOn_intercalate mark (by simpa using free) (by simp)
  rwa [List.intercalate_singleton] at cut

theorem splitOn_append_cons {mark : Char} {before after : List Char} (free : mark ∉ before)
    (freeToo : mark ∉ after) : (before ++ mark :: after).splitOn mark = [before, after] := by
  have cut : ([mark].intercalate [before, after]).splitOn mark = [before, after] :=
    List.splitOn_intercalate mark (by simpa using ⟨free, freeToo⟩) (by simp)
  rwa [List.intercalate_cons_cons, List.intercalate_singleton, List.append_assoc] at cut

end IndexSnapshot.Text
