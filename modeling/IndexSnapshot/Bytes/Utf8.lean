/-
# IndexSnapshot.Bytes.Utf8 -- strict UTF-8

A text is written as UTF-8 and read back strictly: no overlong forms, no
surrogates, nothing above U+10FFFF.  A reading that fails names the first byte
sequence that is no character, how many bytes of it were still acceptable, and
which of three things went wrong with it.

* `encode` writes a text; `decode` reads one or gives a `Flaw`.
* `decode_encode` says that every text is read back.
-/
import IndexSnapshot.Bytes.Basic

namespace IndexSnapshot.Utf8

set_option autoImplicit false

/-! ## Writing -/

/-- The one to four bytes of a character. -/
def encodeChar (c : Char) : Bytes :=
  let n := c.toNat
  if n < 0x80 then [UInt8.ofNat n]
  else if n < 0x800 then [UInt8.ofNat (0xC0 + n / 64), UInt8.ofNat (0x80 + n % 64)]
  else if n < 0x10000 then
    [UInt8.ofNat (0xE0 + n / 4096), UInt8.ofNat (0x80 + n / 64 % 64), UInt8.ofNat (0x80 + n % 64)]
  else
    [UInt8.ofNat (0xF0 + n / 262144), UInt8.ofNat (0x80 + n / 4096 % 64),
      UInt8.ofNat (0x80 + n / 64 % 64), UInt8.ofNat (0x80 + n % 64)]

/-- The bytes of a list of characters. -/
def encodeChars (chars : List Char) : Bytes :=
  chars.flatMap encodeChar

/-- The bytes of a text. -/
def encode (text : String) : Bytes :=
  encodeChars text.toList

/-! ## Why bytes are no text -/

/-- What is wrong with the first byte sequence that is no character. -/
inductive Reason where
  | startByte
  | continuationByte
  | endOfData
  deriving DecidableEq, Repr

def Reason.message : Reason → String
  | .startByte => "invalid start byte"
  | .continuationByte => "invalid continuation byte"
  | .endOfData => "unexpected end of data"

/-- The first byte sequence that is no character: where it starts, its acceptable
bytes (its first byte and how many follow it), and what is wrong. -/
structure Flaw where
  start : Nat
  first : UInt8
  more : Nat
  reason : Reason
  deriving DecidableEq, Repr

/-- Names the byte when it stands alone and the span of positions otherwise. -/
def Flaw.message (flaw : Flaw) : String :=
  let place :=
    if flaw.more = 0 then
      "byte 0x" ++ String.ofList (Bytes.hexPair flaw.first.toNat) ++ " in position "
        ++ toString flaw.start
    else "bytes in position " ++ toString flaw.start ++ "-" ++ toString (flaw.start + flaw.more)
  "'utf-8' codec can't decode " ++ place ++ ": " ++ flaw.reason.message

/-! ## Reading -/

/-- A byte that continues a character. -/
def isTail (b : UInt8) : Bool :=
  0x80 ≤ b && b < 0xC0

/-- Whether `second` may follow `first` in a character of three or four bytes: an
overlong form, a surrogate and a number above U+10FFFF are cut off here. -/
def isSecond (first second : UInt8) : Bool :=
  isTail second
    && !(first == 0xE0 && second < 0xA0)
    && !(first == 0xED && 0xA0 ≤ second)
    && !(first == 0xF0 && second < 0x90)
    && !(first == 0xF4 && 0x90 ≤ second)

/-- The six payload bits of a continuation byte. -/
def payload (b : UInt8) : Nat :=
  b.toNat % 64

/-- Reads on from position `at_`, with the characters before it in reverse, or stops at
the first flaw. -/
def decodeOnto (before : List Char) (at_ : Nat) : Bytes → Except Flaw (List Char)
  | [] => .ok before.reverse
  | a :: rest =>
      if a < 0x80 then decodeOnto (Char.ofNat a.toNat :: before) (at_ + 1) rest
      else if a < 0xC2 then .error ⟨at_, a, 0, .startByte⟩
      else if a < 0xE0 then
        match rest with
        | [] => .error ⟨at_, a, 0, .endOfData⟩
        | b :: rest =>
            if isTail b then
              decodeOnto (Char.ofNat (a.toNat % 32 * 64 + payload b) :: before) (at_ + 2) rest
            else .error ⟨at_, a, 0, .continuationByte⟩
      else if a < 0xF0 then
        match rest with
        | [] => .error ⟨at_, a, 0, .endOfData⟩
        | b :: rest =>
            if isSecond a b then
              match rest with
              | [] => .error ⟨at_, a, 1, .endOfData⟩
              | c :: rest =>
                  if isTail c then
                    decodeOnto
                      (Char.ofNat (a.toNat % 16 * 4096 + payload b * 64 + payload c) :: before)
                      (at_ + 3) rest
                  else .error ⟨at_, a, 1, .continuationByte⟩
            else .error ⟨at_, a, 0, .continuationByte⟩
      else if a < 0xF5 then
        match rest with
        | [] => .error ⟨at_, a, 0, .endOfData⟩
        | b :: rest =>
            if isSecond a b then
              match rest with
              | [] => .error ⟨at_, a, 1, .endOfData⟩
              | c :: rest =>
                  if isTail c then
                    match rest with
                    | [] => .error ⟨at_, a, 2, .endOfData⟩
                    | d :: rest =>
                        if isTail d then
                          decodeOnto
                            (Char.ofNat (a.toNat % 8 * 262144 + payload b * 4096
                              + payload c * 64 + payload d) :: before)
                            (at_ + 4) rest
                        else .error ⟨at_, a, 2, .continuationByte⟩
                  else .error ⟨at_, a, 1, .continuationByte⟩
            else .error ⟨at_, a, 0, .continuationByte⟩
      else .error ⟨at_, a, 0, .startByte⟩

/-- The characters that a byte string encodes, or the first flaw in it. -/
def decodeChars (bytes : Bytes) : Except Flaw (List Char) :=
  decodeOnto [] 0 bytes

/-- The text that a byte string encodes, or the first flaw in it. -/
def decode (bytes : Bytes) : Except Flaw String :=
  (decodeChars bytes).map String.ofList

/-! ## Reading what was written -/

/-- A number below 256 is the value of its byte. -/
theorem toNat_byte {n : Nat} (h : n < 256) : (UInt8.ofNat n).toNat = n := by
  simp; omega

/-- The bytes from 0x80 to 0xBF continue a character. -/
theorem isTail_byte {n : Nat} (low : 0x80 ≤ n) (high : n < 0xC0) :
    isTail (UInt8.ofNat n) = true := by
  have e := toNat_byte (show n < 256 by omega)
  simp [isTail, UInt8.le_iff_toNat_le, UInt8.lt_iff_toNat_lt, e, low, high]

/-- The payload of a continuation byte is what was added to its mark. -/
theorem payload_byte {n : Nat} (h : n < 64) : payload (UInt8.ofNat (0x80 + n)) = n := by
  rw [payload, toNat_byte (by omega)]; omega

/-- A second byte is accepted if it continues a character and does not fall into one of
the four gaps. -/
theorem isSecond_byte {a b : Nat} (ha : a < 256) (low : 0x80 ≤ b) (high : b < 0xC0)
    (overlong3 : a = 0xE0 → 0xA0 ≤ b) (surrogate : a = 0xED → b < 0xA0)
    (overlong4 : a = 0xF0 → 0x90 ≤ b) (above : a = 0xF4 → b < 0x90) :
    isSecond (UInt8.ofNat a) (UInt8.ofNat b) = true := by
  have ea := toNat_byte ha
  have eb := toNat_byte (show b < 256 by omega)
  have tail := isTail_byte low high
  simp only [isSecond, tail, Bool.true_and, Bool.and_eq_true, Bool.not_eq_true',
    Bool.and_eq_false_iff, beq_eq_false_iff_ne, ne_eq, decide_eq_false_iff_not,
    ← UInt8.toNat_inj, UInt8.le_iff_toNat_le, UInt8.lt_iff_toNat_lt, ea, eb]
  simp
  omega

/-- Every character has a number up to U+10FFFF. -/
theorem number_lt (c : Char) : c.toNat < 0x110000 := by
  have valid := c.valid
  simp only [UInt32.isValidChar, Nat.isValidChar] at valid
  have : c.val.toNat = c.toNat := rfl
  omega

/-- No character is a surrogate. -/
theorem number_not_surrogate (c : Char) : c.toNat < 0xD800 ∨ 0xE000 ≤ c.toNat := by
  have valid := c.valid
  simp only [UInt32.isValidChar, Nat.isValidChar] at valid
  have : c.val.toNat = c.toNat := rfl
  omega

/-- One character is read back, whatever comes after it. -/
theorem decodeOnto_encodeChar (before : List Char) (at_ : Nat) (c : Char) (rest : Bytes) :
    decodeOnto before at_ (encodeChar c ++ rest)
      = decodeOnto (c :: before) (at_ + (encodeChar c).length) rest := by
  have self : Char.ofNat c.toNat = c := Char.ofNat_toNat c
  have small := number_lt c
  have gap := number_not_surrogate c
  unfold encodeChar
  generalize c.toNat = n at *
  by_cases h1 : n < 0x80
  · have e := toNat_byte (show n < 256 by omega)
    simp only [h1, if_true, List.cons_append, List.nil_append]
    rw [decodeOnto.eq_def]
    simp [UInt8.lt_iff_toNat_lt, h1, self, Nat.mod_eq_of_lt (show n < 256 by omega)]
  · by_cases h2 : n < 0x800
    · have e := toNat_byte (show 0xC0 + n / 64 < 256 by omega)
      have tail := isTail_byte (show 0x80 ≤ 0x80 + n % 64 by omega) (by omega)
      have value : (0xC0 + n / 64) % 32 * 64 + n % 64 = n := by omega
      have h3 : ¬ 0xC0 + n / 64 < 0x80 := by omega
      have h4 : ¬ 0xC0 + n / 64 < 0xC2 := by omega
      have h5 : 0xC0 + n / 64 < 0xE0 := by omega
      simp only [h1, h2, if_false, if_true, List.cons_append, List.nil_append]
      rw [decodeOnto.eq_def]
      simp only [if_false, if_true, UInt8.lt_iff_toNat_lt, e, tail, payload_byte (show n % 64 < 64 by omega),
        UInt8.reduceToNat, h3, h4, h5, value, self, List.length_cons, List.length_nil]
    · by_cases h3 : n < 0x10000
      · have e := toNat_byte (show 0xE0 + n / 4096 < 256 by omega)
        have second := isSecond_byte (a := 0xE0 + n / 4096) (b := 0x80 + n / 64 % 64)
          (by omega) (by omega) (by omega) (by omega) (by omega) (by omega) (by omega)
        have tail := isTail_byte (show 0x80 ≤ 0x80 + n % 64 by omega) (by omega)
        have value : (0xE0 + n / 4096) % 16 * 4096 + n / 64 % 64 * 64 + n % 64 = n := by omega
        have h4 : ¬ 0xE0 + n / 4096 < 0x80 := by omega
        have h5 : ¬ 0xE0 + n / 4096 < 0xC2 := by omega
        have h6 : ¬ 0xE0 + n / 4096 < 0xE0 := by omega
        have h7 : 0xE0 + n / 4096 < 0xF0 := by omega
        simp only [h1, h2, h3, if_false, if_true, List.cons_append, List.nil_append]
        rw [decodeOnto.eq_def]
        simp only [if_false, if_true, UInt8.lt_iff_toNat_lt, e, second, tail, payload_byte (show n % 64 < 64 by omega),
          payload_byte (show n / 64 % 64 < 64 by omega),
          UInt8.reduceToNat, h4, h5, h6, h7, value, self, List.length_cons, List.length_nil]
      · have e := toNat_byte (show 0xF0 + n / 262144 < 256 by omega)
        have second := isSecond_byte (a := 0xF0 + n / 262144) (b := 0x80 + n / 4096 % 64)
          (by omega) (by omega) (by omega) (by omega) (by omega) (by omega) (by omega)
        have third := isTail_byte (show 0x80 ≤ 0x80 + n / 64 % 64 by omega) (by omega)
        have tail := isTail_byte (show 0x80 ≤ 0x80 + n % 64 by omega) (by omega)
        have value : (0xF0 + n / 262144) % 8 * 262144 + n / 4096 % 64 * 4096 + n / 64 % 64 * 64
            + n % 64 = n := by omega
        have h4 : ¬ 0xF0 + n / 262144 < 0x80 := by omega
        have h5 : ¬ 0xF0 + n / 262144 < 0xC2 := by omega
        have h6 : ¬ 0xF0 + n / 262144 < 0xE0 := by omega
        have h7 : ¬ 0xF0 + n / 262144 < 0xF0 := by omega
        have h8 : 0xF0 + n / 262144 < 0xF5 := by omega
        simp only [h1, h2, h3, if_false, List.cons_append, List.nil_append]
        rw [decodeOnto.eq_def]
        simp only [if_false, if_true, UInt8.lt_iff_toNat_lt, e, second, third, tail,
          payload_byte (show n % 64 < 64 by omega), payload_byte (show n / 64 % 64 < 64 by omega),
          payload_byte (show n / 4096 % 64 < 64 by omega),
          UInt8.reduceToNat, h4, h5, h6, h7, h8, value, self, List.length_cons, List.length_nil]

/-- Characters are read back one after another. -/
theorem decodeOnto_encodeChars (before : List Char) (at_ : Nat) (chars : List Char) :
    decodeOnto before at_ (encodeChars chars) = .ok (before.reverse ++ chars) := by
  induction chars generalizing before at_ with
  | nil => simp [encodeChars, decodeOnto]
  | cons c rest ih =>
      show decodeOnto before at_ (encodeChar c ++ encodeChars rest) = _
      rw [decodeOnto_encodeChar, ih]
      simp

/-- Every text is read back from its bytes. -/
theorem decode_encode (text : String) : decode (encode text) = .ok text := by
  simp [decode, encode, decodeChars, decodeOnto_encodeChars, Except.map]

end IndexSnapshot.Utf8
