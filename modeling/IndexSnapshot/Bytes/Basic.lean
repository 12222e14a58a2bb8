/-
# IndexSnapshot.Bytes.Basic -- byte strings and the integers stored in them

Keys and values of an index are byte strings.  They order bytewise, print as two
lowercase hexadecimal digits a byte, and hold integers of a fixed number of bytes,
most significant first in keys and least significant first in document id sets.

* `bigEndian k n` and `littleEndian k n` write the low `k` bytes of `n`;
  `ofBigEndian` and `ofLittleEndian` read them back (`ofBigEndian_bigEndian`,
  `ofLittleEndian_littleEndian`).
-/

namespace IndexSnapshot

set_option autoImplicit false

/-- A byte string. -/
abbrev Bytes := List UInt8

namespace Bytes

/-! ## Hexadecimal text -/

/-- The lowercase hexadecimal digit of a number below sixteen. -/
def hexDigit (n : Nat) : Char :=
  if n < 10 then Char.ofNat (48 + n) else Char.ofNat (87 + n)

/-- A number below 256 in two lowercase hexadecimal digits. -/
def hexPair (n : Nat) : List Char :=
  [hexDigit (n / 16), hexDigit (n % 16)]

/-- Two lowercase hexadecimal digits a byte, with nothing between them. -/
def hex (bytes : Bytes) : String :=
  String.ofList (bytes.flatMap fun b => hexPair b.toNat)

/-- The value of a hexadecimal digit of either case. -/
def hexValue? (c : Char) : Option Nat :=
  let n := c.toNat
  if 48 ≤ n ∧ n ≤ 57 then some (n - 48)
  else if 97 ≤ n ∧ n ≤ 102 then some (n - 87)
  else if 65 ≤ n ∧ n ≤ 70 then some (n - 55)
  else none

/-- Reads pairs of hexadecimal digits behind the bytes before them, which are kept in
reverse; `none` on an odd digit out or on any other character. -/
def ofHexOnto (before : Bytes) : List Char → Option Bytes
  | [] => some before.reverse
  | [_] => none
  | a :: b :: rest =>
      match hexValue? a, hexValue? b with
      | some high, some low => ofHexOnto (UInt8.ofNat (16 * high + low) :: before) rest
      | _, _ => none

/-- The bytes that a hexadecimal text stands for. -/
def ofHex? (text : String) : Option Bytes :=
  ofHexOnto [] text.toList

/-! ## Integers of a fixed number of bytes -/

/-- The low `k` bytes of `n`, least significant first. -/
def littleEndian : Nat → Nat → Bytes
  | 0, _ => []
  | k + 1, n => UInt8.ofNat n :: littleEndian k (n / 256)

/-- The number whose bytes are given, least significant first. -/
def ofLittleEndian : Bytes → Nat
  | [] => 0
  | b :: rest => b.toNat + 256 * ofLittleEndian rest

/-- The low `k` bytes of `n`, most significant first. -/
def bigEndian (k n : Nat) : Bytes :=
  (littleEndian k n).reverse

/-- The number whose bytes are given, most significant first. -/
def ofBigEndian (bytes : Bytes) : Nat :=
  ofLittleEndian bytes.reverse

@[simp] theorem length_littleEndian (k n : Nat) : (littleEndian k n).length = k := by
  induction k generalizing n with
  | zero => rfl
  | succ k ih => simp [littleEndian, ih]

@[simp] theorem length_bigEndian (k n : Nat) : (bigEndian k n).length = k := by
  simp [bigEndian]

theorem ofLittleEndian_lt (bytes : Bytes) :
    ofLittleEndian bytes < Nat.pow 256 bytes.length := by
  induction bytes with
  | nil => decide
  | cons b rest ih =>
      have small := b.toNat_lt
      have step : Nat.pow 256 (rest.length + 1) = Nat.pow 256 rest.length * 256 := rfl
      simp only [ofLittleEndian, List.length_cons]
      omega

theorem ofLittleEndian_littleEndian {k n : Nat} (fits : n < Nat.pow 256 k) :
    ofLittleEndian (littleEndian k n) = n := by
  induction k generalizing n with
  | zero =>
      have : n = 0 := Nat.lt_one_iff.1 fits
      simp [littleEndian, ofLittleEndian, this]
  | succ k ih =>
      have step : Nat.pow 256 (k + 1) = Nat.pow 256 k * 256 := rfl
      have : n / 256 < Nat.pow 256 k := by omega
      simp only [littleEndian, ofLittleEndian, ih this, UInt8.toNat_ofNat']
      omega

theorem ofBigEndian_bigEndian {k n : Nat} (fits : n < Nat.pow 256 k) :
    ofBigEndian (bigEndian k n) = n := by
  simp [ofBigEndian, bigEndian, ofLittleEndian_littleEndian fits]

theorem littleEndian_ofLittleEndian (bytes : Bytes) :
    littleEndian bytes.length (ofLittleEndian bytes) = bytes := by
  induction bytes with
  | nil => rfl
  | cons b rest ih =>
      have small := b.toNat_lt
      have head : UInt8.ofNat (b.toNat + 256 * ofLittleEndian rest) = b := by
        apply UInt8.toNat_inj.mp
        simp only [UInt8.toNat_ofNat']
        omega
      have tail : (b.toNat + 256 * ofLittleEndian rest) / 256 = ofLittleEndian rest := by omega
      simp only [List.length_cons, littleEndian, ofLittleEndian, head, tail, ih]

theorem bigEndian_ofBigEndian (bytes : Bytes) :
    bigEndian bytes.length (ofBigEndian bytes) = bytes := by
  have := littleEndian_ofLittleEndian bytes.reverse
  rw [List.length_reverse] at this
  simp [bigEndian, ofBigEndian, this]

end Bytes

end IndexSnapshot
