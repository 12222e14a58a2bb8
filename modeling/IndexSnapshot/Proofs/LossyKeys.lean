/-
# IndexSnapshot.Proofs.LossyKeys -- keys that do not hold all they are written from

Two kinds of key can be written from more than they hold.

The words of a pair are written with a null character between them, and nothing keeps a word from
having one itself.  Then the same key is written from other pairs too, and it is read as the one
pair whose first word has no null character (`WordPair.read_back_iff_no_null`).

A key of numbers holds the bounds of a group, but at level zero it stands for one number and has
no place for a second.  It loses nothing else (`NumericFacet.read_back_but_high_at_level_zero`).
-/
import IndexSnapshot.Proofs.Columns
import IndexSnapshot.Proofs.NumericKeyOrder

namespace IndexSnapshot

set_option autoImplicit false

/-! ## Null characters -/

namespace Utf8

/-- Only the null character is written with a zero byte. -/
theorem zero_notMem_encodeChar {c : Char} (other : c ≠ '\x00') : (0 : UInt8) ∉ encodeChar c := by
  have small := number_lt c
  have positive : c.toNat ≠ 0 := fun zero => other (Char.toNat_inj.1 zero)
  have byte {n : Nat} (fits : n < 256) : 0 = UInt8.ofNat n ↔ n = 0 := by
    rw [← UInt8.toNat_inj, toNat_byte fits]
    exact eq_comm
  unfold encodeChar
  generalize c.toNat = n at *
  dsimp only
  split_ifs <;>
    simp (disch := omega) only [List.mem_cons, List.not_mem_nil, or_false, byte] <;>
    omega

theorem zero_notMem_encodeChars {chars : List Char} (noNull : '\x00' ∉ chars) :
    (0 : UInt8) ∉ encodeChars chars := by
  rw [encodeChars, List.mem_flatMap]
  rintro ⟨c, member, zero⟩
  exact zero_notMem_encodeChar (fun null => noNull (null ▸ member)) zero

theorem encodeChars_inj {chars others : List Char} :
    encodeChars chars = encodeChars others ↔ chars = others := by
  have written (chars : List Char) : encodeChars chars = encode (String.ofList chars) := by
    rw [encode, String.toList_ofList]
  rw [written, written, encode_injective.eq_iff, String.ofList_inj]

end Utf8

/-! ## Word pairs -/

namespace WordPair

variable {key other : WordPair} {bytes : Bytes}

/-- The words of a pair with a null character between them. -/
def joined (key : WordPair) : List Char :=
  key.first.toList ++ '\x00' :: key.second.toList

theorem encodeChars_joined (key : WordPair) :
    Utf8.encodeChars key.joined = Utf8.encode key.first ++ 0 :: Utf8.encode key.second := by
  simp [Utf8.encode, Utf8.encodeChars, joined, Utf8.encodeChar]

/-- A pair is written as its joined words and a byte. -/
theorem write_eq_ok_iff : write key = .ok bytes ↔ Width.u8.Fits key.proximity ∧
    bytes = Utf8.encodeChars key.joined ++ [UInt8.ofNat key.proximity.toNat] := by
  rw [write, List.append_assoc (Utf8.encode key.first), List.singleton_append,
    ← encodeChars_joined]
  split
  case isTrue byte => exact ⟨fun h => ⟨byte, (Except.ok.inj h).symm⟩, fun h => h.2 ▸ rfl⟩
  case isFalse none => exact ⟨fun h => (by cases h), fun h => absurd h.1 none⟩

/-- Pairs share a key exactly if they have the same joined words and the same proximity. -/
theorem write_eq_ok_iff_of_write (written : write key = .ok bytes) :
    write other = .ok bytes ↔ other.joined = key.joined ∧ other.proximity = key.proximity := by
  obtain ⟨byte, rfl⟩ := write_eq_ok_iff.1 written
  rw [write_eq_ok_iff]
  constructor
  · rintro ⟨byte', same⟩
    obtain ⟨words, last⟩ := List.append_inj' same rfl
    have numbers (key : WordPair) (byte : Width.u8.Fits key.proximity) :
        key.proximity.toNat < 256 ∧ (key.proximity.toNat : Int) = key.proximity := by
      have := byte.1
      have := byte.2
      simp only [Width.bound] at this
      omega
    obtain ⟨small, exact⟩ := numbers key byte
    obtain ⟨small', exact'⟩ := numbers other byte'
    refine ⟨(Utf8.encodeChars_inj.1 words).symm, ?_⟩
    rw [← exact, ← exact', (Utf8.byte_inj small small').1 (List.singleton_inj.1 last)]
  · rintro ⟨words, near⟩
    rw [words, near]
    exact ⟨byte, rfl⟩

/-- Pairs whose first words have no null character are told apart by their joined words. -/
theorem eq_of_joined_eq (noNull : '\x00' ∉ key.first.toList) (noNull' : '\x00' ∉ other.first.toList)
    (same : key.joined = other.joined) (near : key.proximity = other.proximity) : key = other := by
  obtain ⟨first, second⟩ := eq_of_append_cons noNull noNull' same
  cases key
  cases other
  rw [mk.injEq]
  exact ⟨String.toList_injective first, String.toList_injective second, near⟩

/-- The words of every pair can be joined again after the first null character. -/
theorem exists_joined_eq (key : WordPair) : ∃ found : WordPair, '\x00' ∉ found.first.toList ∧
    found.joined = key.joined ∧ found.proximity = key.proximity := by
  obtain ⟨first, second, cut, noNull⟩ :=
    List.eq_append_cons_of_mem (show '\x00' ∈ key.joined by simp [joined])
  refine ⟨⟨String.ofList first, String.ofList second, key.proximity⟩, ?_, ?_, rfl⟩
  · rwa [String.toList_ofList]
  · rw [cut, joined, String.toList_ofList, String.toList_ofList]

/-! ### What is read -/

theorem splitZero?_append {before after : Bytes} (noZero : 0 ∉ before) :
    splitZero? (before ++ 0 :: after) = some (before, after) := by
  induction before with
  | nil => rfl
  | cons b before ih =>
      rw [List.mem_cons, not_or] at noZero
      rw [List.cons_append, splitZero?, if_neg (Ne.symm noZero.1), ih noZero.2]
      rfl

theorem read_of_write (noNull : '\x00' ∉ key.first.toList) (written : write key = .ok bytes) :
    read bytes = .ok key := by
  obtain ⟨byte, rfl⟩ := write_eq_ok_iff.1 written
  have cut : splitZero? (Utf8.encodeChars key.first.toList ++ 0 :: Utf8.encode key.second) =
      some (Utf8.encodeChars key.first.toList, Utf8.encode key.second) :=
    splitZero?_append (Utf8.zero_notMem_encodeChars noNull)
  have last : ((UInt8.ofNat key.proximity.toNat).toNat : Int) = key.proximity := by
    have := byte.1
    have := byte.2
    simp only [Width.bound] at this
    rw [Utf8.toNat_byte (by omega)]
    omega
  rw [read, List.getLast?_concat, List.dropLast_concat, encodeChars_joined, Utf8.encode, cut]
  simp only [bind_eq_ok_iff, pure_eq_ok_iff, Reader.text_eq_ok_iff, last]
  exact ⟨key.first, rfl, key.second, rfl, rfl⟩

/-- A pair shares its key with another exactly if one of its words has a null character. -/
theorem exists_sharing_iff (written : write key = .ok bytes) :
    (∃ other, other ≠ key ∧ write other = .ok bytes) ↔
      '\x00' ∈ key.first.toList ∨ '\x00' ∈ key.second.toList := by
  simp only [write_eq_ok_iff_of_write written]
  constructor
  · rintro ⟨other, differ, same, near⟩
    by_contra none
    rw [not_or] at none
    -- the joined words have one null character, and it stands between the words of both pairs
    have counts := congrArg (List.count '\x00') same
    simp only [joined, List.count_append, List.count_cons_self,
      List.count_eq_zero_of_not_mem none.1, List.count_eq_zero_of_not_mem none.2] at counts
    have noNull : '\x00' ∉ other.first.toList := List.count_eq_zero.1 (by omega)
    exact differ (eq_of_joined_eq noNull none.1 same near)
  · rintro (null | null)
    · obtain ⟨found, noNull, same, near⟩ := key.exists_joined_eq
      exact ⟨found, fun equal => noNull (equal ▸ null), same, near⟩
    · obtain ⟨middle, last, cut, -⟩ := List.eq_append_cons_of_mem null
      refine ⟨⟨String.ofList (key.first.toList ++ '\x00' :: middle), String.ofList last,
        key.proximity⟩, fun equal => ?_, ?_, rfl⟩
      · have lengths := congrArg (fun pair => pair.first.toList.length) equal
        simp at lengths
      · simp [joined, cut]

/-- **A word pair is read back exactly if its first word has no null character.**  Every pair with
a proximity of one byte is written, and its key is read as some pair with that key.  It is not the
key of any other pair exactly if neither word has a null character. -/
theorem read_back_iff_no_null (key : WordPair) (byte : Width.u8.Fits key.proximity) :
    ∃ bytes found, write key = .ok bytes ∧ read bytes = .ok found ∧ write found = .ok bytes ∧
      (found = key ↔ '\x00' ∉ key.first.toList) ∧
      ((∃ other, other ≠ key ∧ write other = .ok bytes) ↔
        '\x00' ∈ key.first.toList ∨ '\x00' ∈ key.second.toList) := by
  have written := write_eq_ok_iff.2 ⟨byte, rfl⟩
  obtain ⟨found, noNull, same, near⟩ := key.exists_joined_eq
  have rewritten := (write_eq_ok_iff_of_write written).2 ⟨same, near⟩
  refine ⟨_, found, written, read_of_write noNull rewritten, rewritten, ?_,
    exists_sharing_iff written⟩
  exact ⟨fun equal => equal ▸ noNull, fun noNull' => eq_of_joined_eq noNull noNull' same near⟩

/-- A pair that is read back although it shares its key with another. -/
theorem shared_key_read_back :
    Width.u8.Fits 1 ∧ ∃ bytes found, write ⟨"a", "b\x00c", 1⟩ = .ok bytes ∧
      read bytes = .ok found ∧ write found = .ok bytes ∧
      (found = ⟨"a", "b\x00c", 1⟩ ↔ '\x00' ∉ "a".toList) ∧
      ((∃ other, other ≠ ⟨"a", "b\x00c", 1⟩ ∧ write other = .ok bytes) ↔
        '\x00' ∈ "a".toList ∨ '\x00' ∈ "b\x00c".toList) :=
  ⟨by decide, read_back_iff_no_null ⟨"a", "b\x00c", 1⟩ (by decide)⟩

/-- Two pairs with one key, which is read as the second of them. -/
theorem two_pairs_of_one_key : ∃ bytes, write ⟨"a\x00b", "c", 1⟩ = .ok bytes ∧
    write ⟨"a", "b\x00c", 1⟩ = .ok bytes ∧ read bytes = .ok ⟨"a", "b\x00c", 1⟩ :=
  ⟨[97, 0, 98, 0, 99, 1], by decide, by decide, by decide⟩

end WordPair

/-! ## Keys of numbers -/

namespace Double

theorem length_toBytes (v : Double) : v.toBytes.length = 8 :=
  Bytes.length_bigEndian ..

/-- Every pattern is read back from its bytes. -/
theorem ofBytes_toBytes (v : Double) : ofBytes v.toBytes = v := by
  have fits : v.bits.toNat < Nat.pow 256 8 := v.bits.toNat_lt
  rw [ofBytes, toBytes, Bytes.ofBigEndian_bigEndian fits, UInt64.ofNat_toNat]

theorem length_of_ordered {v : Double} {bytes : Bytes} (ordered : v.ordered = .ok bytes) :
    bytes.length = 8 := by
  obtain ⟨-, rfl⟩ := ordered_eq_ok_iff.1 ordered
  exact Bytes.length_bigEndian ..

end Double

namespace NumericFacet

variable {key : NumericFacet} {bytes : Bytes}

/-- What a key holds: at level zero the one number, in place of both bounds. -/
def held (key : NumericFacet) : NumericFacet :=
  if key.level = 0 then { key with high := key.low } else key

theorem held_eq_self_iff : key.held = key ↔ key.level = 0 → key.high = key.low := by
  unfold held
  split
  case isTrue zero =>
    cases key
    simp only [mk.injEq, true_and]
    exact ⟨fun same _ => same.symm, fun same => (same zero).symm⟩
  case isFalse above => exact iff_of_true rfl fun zero => absurd zero above

/-- **A key of numbers is read back as it was written**, bit by bit, but for a high bound at level
zero, for which the low one is read. -/
theorem read_back_but_high_at_level_zero (written : write key = .ok bytes) :
    read bytes = .ok key.held ∧ (key.held = key ↔ key.level = 0 → key.high = key.low) := by
  refine ⟨?_, held_eq_self_iff⟩
  obtain ⟨header, bounds, front, ⟨low, lowest, single | leveled⟩, rfl⟩ := write_eq_ok_iff.1 written
  all_goals
    have head : FacetHeader.read (header ++ bounds) = .ok (⟨key.fieldId, key.level⟩, bounds) :=
      FacetHeader.read_eq_ok_iff.2 ⟨header, front, rfl⟩
    have first := Double.length_of_ordered lowest
    rw [read, bind_of_ok head, held]
    dsimp only
  · obtain ⟨zero, rfl⟩ := single
    have size : (low ++ key.low.toBytes).length = 16 := by
      rw [List.length_append, first, Double.length_toBytes]
    rw [if_pos zero, if_pos zero, if_pos size, List.drop_left' first, Double.ofBytes_toBytes]
    rfl
  · obtain ⟨above, high, highest, rfl⟩ := leveled
    have second := Double.length_of_ordered highest
    have third := Double.length_toBytes key.low
    have size : (low ++ (high ++ (key.low.toBytes ++ key.high.toBytes))).length = 32 := by
      simp only [List.length_append, first, second, third, Double.length_toBytes]
    have copies : (low ++ (high ++ (key.low.toBytes ++ key.high.toBytes))).drop 16 =
        key.low.toBytes ++ key.high.toBytes := by
      rw [← List.append_assoc]
      exact List.drop_left' (by rw [List.length_append, first, second])
    have last : (low ++ (high ++ (key.low.toBytes ++ key.high.toBytes))).drop 24 =
        key.high.toBytes := by
      rw [← List.drop_drop (i := 8) (j := 16), copies, List.drop_left' third]
    rw [if_neg above, if_neg above, if_pos size, copies, last, List.take_left' third,
      Double.ofBytes_toBytes, Double.ofBytes_toBytes]
    rfl

/-- The bounds of a group, of which the low one is the negative zero. -/
theorem group_from_negative_zero_read :
    write ⟨1, 2, ⟨0x8000000000000000⟩, ⟨0x7FF0000000000000⟩⟩ =
      .ok [0, 1, 2, 0x7F, 0xFF, 0xFF, 0xFF, 0xFF, 0xFF, 0xFF, 0xFF, 0xFF, 0xF0, 0, 0, 0, 0, 0, 0,
        0x80, 0, 0, 0, 0, 0, 0, 0, 0x7F, 0xF0, 0, 0, 0, 0, 0, 0] ∧
    read [0, 1, 2, 0x7F, 0xFF, 0xFF, 0xFF, 0xFF, 0xFF, 0xFF, 0xFF, 0xFF, 0xF0, 0, 0, 0, 0, 0, 0,
        0x80, 0, 0, 0, 0, 0, 0, 0, 0x7F, 0xF0, 0, 0, 0, 0, 0, 0] =
      .ok (held ⟨1, 2, ⟨0x8000000000000000⟩, ⟨0x7FF0000000000000⟩⟩) := by
  have written : write ⟨1, 2, ⟨0x8000000000000000⟩, ⟨0x7FF0000000000000⟩⟩ = .ok _ := rfl
  exact ⟨written, (read_back_but_high_at_level_zero written).1⟩

/-- At level zero the high bound is lost: the key written from 3 and 8 is read as 3 and 3. -/
theorem high_bound_lost_at_level_zero :
    ∃ bytes, write ⟨1, 0, ⟨0x4008000000000000⟩, ⟨0x4020000000000000⟩⟩ = .ok bytes ∧
      read bytes = .ok ⟨1, 0, ⟨0x4008000000000000⟩, ⟨0x4008000000000000⟩⟩ ∧
      (⟨0x4008000000000000⟩ : Double) ≠ ⟨0x4020000000000000⟩ :=
  ⟨_, rfl, rfl, by decide⟩

end NumericFacet

end IndexSnapshot
