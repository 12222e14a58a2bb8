/-
# IndexSnapshot.Proofs.ByteOrder -- the bytewise order of integers and texts

Byte strings are compared byte by byte from the front.  So integers written most significant
byte first, into fields of one width, compare as integers do.  Texts compare by code points:
a character with a greater number never has a smaller byte where the two first differ, and no
character is written as the beginning of another.

* `append_lt_append_iff`: of two fronts of one length, the fronts decide first.
* `bigEndian_lt_iff` and `Width.lt_iff_of_write`: integers.
* `Utf8.encode_lt_iff`: texts.
-/
import IndexSnapshot.Proofs.KeyRoundTrip
import Mathlib.Data.Char
import Mathlib.Tactic.SplitIfs
import Mathlib.Tactic.Tauto

namespace IndexSnapshot

set_option autoImplicit false

namespace Bytes

/-! ## Fronts of one length -/

/-- Of two fronts of one length, the fronts decide first. -/
theorem append_lt_append_iff {a b s t : Bytes} (lengths : a.length = b.length) :
    a ++ s < b ++ t ↔ a < b ∨ a = b ∧ s < t := by
  induction a generalizing b with
  | nil =>
      obtain rfl := List.length_eq_zero_iff.1 lengths.symm
      simp
  | cons x a ih =>
      cases b with
      | nil => cases lengths
      | cons y b =>
          have rest := ih (Nat.succ.inj lengths)
          simp only [List.cons_append, List.cons_lt_cons_iff, rest, List.cons.injEq]
          tauto

/-! ## Integers -/

theorem bigEndian_succ (k n : Nat) :
    bigEndian (k + 1) n = bigEndian k (n / 256) ++ [UInt8.ofNat n] := by
  simp [bigEndian, littleEndian]

theorem bigEndian_inj {k m n : Nat} (hm : m < Nat.pow 256 k) (hn : n < Nat.pow 256 k) :
    bigEndian k m = bigEndian k n ↔ m = n := by
  constructor
  · intro same
    rw [← ofBigEndian_bigEndian hm, same, ofBigEndian_bigEndian hn]
  · rintro rfl
    rfl

/-- **Integers of one width compare as integers do**, most significant byte first. -/
theorem bigEndian_lt_iff {k m n : Nat} (hm : m < Nat.pow 256 k) (hn : n < Nat.pow 256 k) :
    bigEndian k m < bigEndian k n ↔ m < n := by
  induction k generalizing m n with
  | zero =>
      obtain rfl := Nat.lt_one_iff.1 hm
      obtain rfl := Nat.lt_one_iff.1 hn
      simp [bigEndian, littleEndian]
  | succ k ih =>
      have step : Nat.pow 256 (k + 1) = Nat.pow 256 k * 256 := rfl
      have hm' : m / 256 < Nat.pow 256 k := by omega
      have hn' : n / 256 < Nat.pow 256 k := by omega
      have last : [UInt8.ofNat m] < [UInt8.ofNat n] ↔ m % 256 < n % 256 := by
        simp [List.cons_lt_cons_iff, UInt8.lt_iff_toNat_lt]
      rw [bigEndian_succ, bigEndian_succ, append_lt_append_iff (by simp), ih hm' hn',
        bigEndian_inj hm' hn', last]
      omega

end Bytes

namespace Width

variable {w : Width} {m n : Int} {a b : Bytes}

theorem lt_iff_of_write (first : w.write m = .ok a) (second : w.write n = .ok b) :
    a < b ↔ m < n := by
  obtain ⟨lowM, highM, rfl⟩ := (w.write_eq_ok_iff m a).1 first
  obtain ⟨lowN, highN, rfl⟩ := (w.write_eq_ok_iff n b).1 second
  have bound := w.bound_eq_pow
  rw [Bytes.bigEndian_lt_iff (by omega) (by omega)]
  omega

theorem eq_iff_of_write (first : w.write m = .ok a) (second : w.write n = .ok b) :
    a = b ↔ m = n := by
  constructor
  · rintro rfl
    exact (write_eq_ok_iff_ofBigEndian.1 first).2.trans
      (write_eq_ok_iff_ofBigEndian.1 second).2.symm
  · rintro rfl
    exact Except.ok.inj (first.symm.trans second)

/-- An integer in front of other bytes decides first. -/
theorem append_lt_append_iff {s t : Bytes} (first : w.write m = .ok a)
    (second : w.write n = .ok b) : a ++ s < b ++ t ↔ m < n ∨ m = n ∧ s < t := by
  have lengths := (length_of_write first).trans (length_of_write second).symm
  rw [Bytes.append_lt_append_iff lengths, lt_iff_of_write first second,
    eq_iff_of_write first second]

end Width

/-! ## Texts -/

namespace Utf8

variable {c d : Char}

theorem byte_lt_iff {x y : Nat} (hx : x < 256) (hy : y < 256) :
    UInt8.ofNat x < UInt8.ofNat y ↔ x < y := by
  rw [UInt8.lt_iff_toNat_lt, toNat_byte hx, toNat_byte hy]

theorem byte_inj {x y : Nat} (hx : x < 256) (hy : y < 256) :
    UInt8.ofNat x = UInt8.ofNat y ↔ x = y := by
  rw [← UInt8.toNat_inj, toNat_byte hx, toNat_byte hy]

/-- Where the bytes of two characters first differ, the greater character has the greater byte,
and there is such a place.  The cases are the lengths of the two. -/
theorem encodeChar_append_lt (below : c < d) (s t : Bytes) :
    encodeChar c ++ s < encodeChar d ++ t := by
  have below : c.toNat < d.toNat := below
  have small := number_lt d
  unfold encodeChar
  generalize c.toNat = m at *
  generalize d.toNat = n at *
  have quotients (k : Nat) : k / 64 / 64 = k / 4096 ∧ k / 4096 / 64 = k / 262144 := by omega
  have quotientsM := quotients m
  have quotientsN := quotients n
  dsimp only
  split_ifs <;>
    simp (disch := omega) only [List.cons_append, List.nil_append, List.cons_lt_cons_iff,
      byte_lt_iff, byte_inj] <;>
    omega

/-- A character in front of other bytes decides first. -/
theorem encodeChar_append_lt_iff {s t : Bytes} :
    encodeChar c ++ s < encodeChar d ++ t ↔ c < d ∨ c = d ∧ s < t := by
  constructor
  · intro below
    rcases lt_trichotomy c d with less | rfl | greater
    · exact .inl less
    · exact .inr ⟨rfl, (Bytes.append_lt_append_iff rfl).1 below |>.resolve_left
        (List.lt_irrefl _) |>.2⟩
    · exact absurd below (List.lt_asymm (encodeChar_append_lt greater t s))
  · rintro (less | ⟨rfl, less⟩)
    · exact encodeChar_append_lt less s t
    · exact List.append_left_lt less

theorem encodeChar_ne_nil (c : Char) : encodeChar c ≠ [] := by
  unfold encodeChar
  dsimp only
  split_ifs <;> simp

theorem encodeChars_lt_iff (chars others : List Char) :
    encodeChars chars < encodeChars others ↔ chars < others := by
  induction chars generalizing others with
  | nil =>
      cases others with
      | nil => simp [encodeChars]
      | cons d others =>
          have filled := encodeChar_ne_nil d
          cases written : encodeChar d with
          | nil => exact absurd written filled
          | cons b rest => simp [encodeChars, written]
  | cons c chars ih =>
      cases others with
      | nil => simp [encodeChars]
      | cons d others =>
          have cut (c : Char) (rest : List Char) :
              encodeChars (c :: rest) = encodeChar c ++ encodeChars rest := rfl
          rw [cut, cut, encodeChar_append_lt_iff, ih, List.cons_lt_cons_iff]

/-- **Texts compare by code points**, and a text comes before any that goes on from it. -/
theorem encode_lt_iff (a b : String) : encode a < encode b ↔ a < b :=
  encodeChars_lt_iff a.toList b.toList

end Utf8

end IndexSnapshot
