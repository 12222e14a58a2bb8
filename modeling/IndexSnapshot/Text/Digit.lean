/-
# IndexSnapshot.Text.Digit -- decimal digits of all scripts

Every script with decimal digits has ten of them in a row, from zero to nine.  `zeros` is
the table of all zeros, by version 14.0 of the Unicode character data.

Integers have no bound, but decimal numerals have: those of more than `digitLimit` digits are
neither read nor written.
-/

namespace IndexSnapshot.Text

set_option autoImplicit false

/-- The code points of the zeros of all scripts. -/
def zeros : List Nat :=
  [ 0x30, 0x660, 0x6F0, 0x7C0, 0x966, 0x9E6, 0xA66, 0xAE6, 0xB66, 0xBE6, 0xC66, 0xCE6,
    0xD66, 0xDE6, 0xE50, 0xED0, 0xF20, 0x1040, 0x1090, 0x17E0, 0x1810, 0x1946, 0x19D0,
    0x1A80, 0x1A90, 0x1B50, 0x1BB0, 0x1C40, 0x1C50, 0xA620, 0xA8D0, 0xA900, 0xA9D0, 0xA9F0,
    0xAA50, 0xABF0, 0xFF10, 0x104A0, 0x10D30, 0x11066, 0x110F0, 0x11136, 0x111D0, 0x112F0,
    0x11450, 0x114D0, 0x11650, 0x116C0, 0x11730, 0x118E0, 0x11950, 0x11C50, 0x11D50,
    0x11DA0, 0x16A60, 0x16AC0, 0x16B50, 0x1D7CE, 0x1D7D8, 0x1D7E2, 0x1D7EC, 0x1D7F6,
    0x1E140, 0x1E2F0, 0x1E950, 0x1FBF0 ]

/-- Whether a character is a decimal digit. -/
def isDecimalDigit (c : Char) : Bool :=
  zeros.any fun first => first ≤ c.toNat && c.toNat < first + 10

theorem isDecimalDigit_of_isDigit {c : Char} (h : c.isDigit = true) :
    isDecimalDigit c = true := by
  simp only [Char.isDigit, Bool.and_eq_true, decide_eq_true_eq] at h
  have low : 0x30 ≤ c.toNat := h.1
  have high : c.toNat < 0x30 + 10 := Nat.lt_succ_of_le h.2
  simp only [isDecimalDigit, zeros, List.any_cons, Bool.or_eq_true, Bool.and_eq_true,
    decide_eq_true_eq]
  exact Or.inl ⟨low, high⟩

/-! ## Numerals that are too long -/

/-- How many digits of a decimal integer are read or written. -/
def digitLimit : Nat := 4300

/-- Said of an integer that is not written. -/
def tooManyDigits : String :=
  "Exceeds the limit (" ++ toString digitLimit
    ++ " digits) for integer string conversion; use sys.set_int_max_str_digits() to increase the "
    ++ "limit"

/-- Whether an integer has few enough digits to be written. -/
def isWritable (n : Int) : Bool :=
  (Nat.toDigits 10 n.natAbs).length ≤ digitLimit

end IndexSnapshot.Text
