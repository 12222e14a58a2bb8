/-
# IndexSnapshot.Proofs.StrictText -- a text has one byte string

Strict reading and writing of UTF-8 are inverse to each other.  That every text is read back
is `Utf8.decode_encode`.  The other direction is what strictness is for: no overlong form, no
surrogate and nothing that is cut off is read as a character, so a byte string that is read
is the one that its text is written as.

* `toNat_of_isTail` and `toNat_of_isSecond`: which numbers the accepted bytes have.
* `encodeChar_one` to `encodeChar_four`: a character is written to the bytes it was read from.
* `decode_eq_ok_iff`: the same for texts.
-/
import IndexSnapshot.Bytes.Utf8

namespace IndexSnapshot.Utf8

set_option autoImplicit false

/-! ## Bytes that are accepted -/

/-- The number of a character is not lost if it is the number of one. -/
theorem toNat_ofNat {n : Nat} (valid : n.isValidChar) : (Char.ofNat n).toNat = n := by
  rw [Char.ofNat, dif_pos valid]
  rfl

/-- A byte is known by its number. -/
theorem ofNat_eq {b : UInt8} {n : Nat} (same : n = b.toNat) : UInt8.ofNat n = b := by
  rw [same, UInt8.ofNat_toNat]

theorem toNat_of_isTail {b : UInt8} (tail : isTail b = true) :
    0x80 ≤ b.toNat ∧ b.toNat < 0xC0 := by
  simpa [isTail, UInt8.le_iff_toNat_le, UInt8.lt_iff_toNat_lt] using tail

/-- A second byte continues a character and falls into none of the four gaps. -/
theorem toNat_of_isSecond {a b : UInt8} (second : isSecond a b = true) :
    (0x80 ≤ b.toNat ∧ b.toNat < 0xC0) ∧ (a.toNat = 0xE0 → 0xA0 ≤ b.toNat) ∧
      (a.toNat = 0xED → b.toNat < 0xA0) ∧ (a.toNat = 0xF0 → 0x90 ≤ b.toNat) ∧
      (a.toNat = 0xF4 → b.toNat < 0x90) := by
  simp only [isSecond, Bool.and_eq_true, Bool.not_eq_true', Bool.and_eq_false_iff,
    beq_eq_false_iff_ne, ne_eq, decide_eq_false_iff_not, ← UInt8.toNat_inj,
    UInt8.le_iff_toNat_le, UInt8.lt_iff_toNat_lt, UInt8.reduceToNat] at second
  obtain ⟨⟨⟨⟨tail, overlong3⟩, surrogate⟩, overlong4⟩, above⟩ := second
  refine ⟨toNat_of_isTail tail, ?_, ?_, ?_, ?_⟩ <;> omega

/-! ## Characters of one to four bytes -/

theorem encodeChar_one {a : UInt8} (ascii : a < 0x80) :
    encodeChar (Char.ofNat a.toNat) = [a] := by
  simp only [UInt8.lt_iff_toNat_lt, UInt8.reduceToNat] at ascii
  have value : (Char.ofNat a.toNat).toNat = a.toNat := toNat_ofNat (.inl (by omega))
  rw [encodeChar, value, if_pos ascii, UInt8.ofNat_toNat]

theorem encodeChar_two {a b : UInt8} (low : ¬ a < 0xC2) (high : a < 0xE0)
    (tail : isTail b = true) :
    encodeChar (Char.ofNat (a.toNat % 32 * 64 + payload b)) = [a, b] := by
  simp only [UInt8.lt_iff_toNat_lt, UInt8.reduceToNat] at low high
  have tail := toNat_of_isTail tail
  have value : (Char.ofNat (a.toNat % 32 * 64 + payload b)).toNat
      = a.toNat % 32 * 64 + b.toNat % 64 := toNat_ofNat (.inl (by rw [payload]; omega))
  rw [encodeChar, value, if_neg (by omega), if_pos (by omega)]
  simp only [List.cons.injEq, and_true]
  refine ⟨ofNat_eq ?_, ofNat_eq ?_⟩ <;> omega

theorem encodeChar_three {a b c : UInt8} (low : ¬ a < 0xE0) (high : a < 0xF0)
    (second : isSecond a b = true) (tail : isTail c = true) :
    encodeChar (Char.ofNat (a.toNat % 16 * 4096 + payload b * 64 + payload c)) = [a, b, c] := by
  simp only [UInt8.lt_iff_toNat_lt, UInt8.reduceToNat] at low high
  obtain ⟨first, overlong, surrogate, -, -⟩ := toNat_of_isSecond second
  have tail := toNat_of_isTail tail
  have value : (Char.ofNat (a.toNat % 16 * 4096 + payload b * 64 + payload c)).toNat
      = a.toNat % 16 * 4096 + b.toNat % 64 * 64 + c.toNat % 64 :=
    toNat_ofNat (by simp only [Nat.isValidChar, payload]; omega)
  rw [encodeChar, value, if_neg (by omega), if_neg (by omega), if_pos (by omega)]
  simp only [List.cons.injEq, and_true]
  refine ⟨ofNat_eq ?_, ofNat_eq ?_, ofNat_eq ?_⟩ <;> omega

theorem encodeChar_four {a b c d : UInt8} (low : ¬ a < 0xF0) (high : a < 0xF5)
    (second : isSecond a b = true) (third : isTail c = true) (tail : isTail d = true) :
    encodeChar (Char.ofNat (a.toNat % 8 * 262144 + payload b * 4096 + payload c * 64
      + payload d)) = [a, b, c, d] := by
  simp only [UInt8.lt_iff_toNat_lt, UInt8.reduceToNat] at low high
  obtain ⟨first, -, -, overlong, above⟩ := toNat_of_isSecond second
  have third := toNat_of_isTail third
  have tail := toNat_of_isTail tail
  have value : (Char.ofNat (a.toNat % 8 * 262144 + payload b * 4096 + payload c * 64
      + payload d)).toNat
      = a.toNat % 8 * 262144 + b.toNat % 64 * 4096 + c.toNat % 64 * 64 + d.toNat % 64 :=
    toNat_ofNat (by simp only [Nat.isValidChar, payload]; omega)
  rw [encodeChar, value, if_neg (by omega), if_neg (by omega), if_neg (by omega)]
  simp only [List.cons.injEq, and_true]
  refine ⟨ofNat_eq ?_, ofNat_eq ?_, ofNat_eq ?_, ofNat_eq ?_⟩ <;> omega

/-! ## Texts -/

/-- What has been read is written to the bytes it was read from.  The cases are the ways in
which the reader goes on; in all others it stops at a flaw. -/
theorem encodeChars_of_decodeOnto {before : List Char} {at_ : Nat} {bytes : Bytes}
    {chars : List Char} (decoded : decodeOnto before at_ bytes = .ok chars) :
    ∃ found, chars = before.reverse ++ found ∧ encodeChars found = bytes := by
  have step {before : List Char} {c : Char} {front rest : Bytes} (written : encodeChar c = front)
      (more : ∃ found, chars = (c :: before).reverse ++ found ∧ encodeChars found = rest) :
      ∃ found, chars = before.reverse ++ found ∧ encodeChars found = front ++ rest := by
    obtain ⟨found, rfl, rfl⟩ := more
    refine ⟨c :: found, ?_, ?_⟩
    · rw [List.reverse_cons, List.append_assoc, List.singleton_append]
    · rw [← written]
      rfl
  fun_induction decodeOnto before at_ bytes with
  | case1 before at_ =>
      cases decoded
      exact ⟨[], (List.append_nil _).symm, rfl⟩
  | case2 before at_ a rest ascii ih => exact step (encodeChar_one ascii) (ih decoded)
  | case5 before at_ a _ low high b rest tail ih =>
      exact step (encodeChar_two low high tail) (ih decoded)
  | case9 before at_ a _ _ low high b second c rest tail ih =>
      exact step (encodeChar_three low high second tail) (ih decoded)
  | case15 before at_ a _ _ _ low high b second c third d rest tail ih =>
      exact step (encodeChar_four low high second third tail) (ih decoded)
  | _ => cases decoded

/-- **A byte string is read as a text exactly if the text is written as it.** -/
theorem decode_eq_ok_iff {bytes : Bytes} {text : String} :
    decode bytes = .ok text ↔ bytes = encode text := by
  constructor
  · intro decoded
    cases read : decodeChars bytes with
    | error flaw =>
        rw [decode, read] at decoded
        cases decoded
    | ok chars =>
        rw [decode, read] at decoded
        cases decoded
        obtain ⟨found, rfl, rfl⟩ := encodeChars_of_decodeOnto read
        rw [encode, String.toList_ofList]
  · rintro rfl
    exact decode_encode text

/-- Different texts are written differently. -/
theorem encode_injective : Function.Injective encode := by
  intro a b same
  have read := decode_encode a
  rw [same, decode_encode] at read
  exact (Except.ok.inj read).symm

end IndexSnapshot.Utf8
