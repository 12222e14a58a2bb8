/-
# IndexSnapshot.Proofs.KeyRoundTrip -- reading and writing keys are inverse

A key is written from integers and texts if every integer fits its field, and it is read
from exactly the bytes that it is written to.  So no integer is cut down, and no two byte
strings are read as one key: `keys_read_back_exactly`.

* `Reader.integer_eq_ok_iff`, `Reader.text_eq_ok_iff`: a part is read from the front of the
  bytes exactly if the part is written there.
* `IsCanonical` and `IsExact` say what a kind of key can satisfy.
-/
import IndexSnapshot.Proofs.Steps
import IndexSnapshot.Proofs.StrictText
import IndexSnapshot.Record.FacetKey
import IndexSnapshot.Record.WordKey

namespace IndexSnapshot

set_option autoImplicit false

/-! ## Parts of keys -/

/-- The integer has a place in the field. -/
def Width.Fits (w : Width) (n : Int) : Prop :=
  0 ≤ n ∧ n < w.bound

instance (w : Width) (n : Int) : Decidable (w.Fits n) :=
  inferInstanceAs (Decidable (_ ∧ _))

theorem Width.exists_write_iff {w : Width} {n : Int} :
    (∃ bytes, w.write n = .ok bytes) ↔ w.Fits n := by
  simp only [Width.write_eq_ok_iff, ← and_assoc, exists_and_left, exists_eq, and_true, Fits]

/-- An integer is written as the bytes of its field that are read as it. -/
theorem Width.write_eq_ok_iff_ofBigEndian {w : Width} {n : Int} {bytes : Bytes} :
    w.write n = .ok bytes ↔ bytes.length = w.size ∧ n = Bytes.ofBigEndian bytes := by
  rw [Width.write_eq_ok_iff]
  constructor
  · rintro ⟨low, high, rfl⟩
    have small : n.toNat < Nat.pow 256 w.size := by
      rw [← Width.bound_eq_pow]
      omega
    rw [Bytes.ofBigEndian_bigEndian small]
    exact ⟨Bytes.length_bigEndian .., (Int.toNat_of_nonneg low).symm⟩
  · rintro ⟨length, rfl⟩
    have small := Bytes.ofLittleEndian_lt bytes.reverse
    rw [List.length_reverse, length, ← Width.bound_eq_pow] at small
    refine ⟨Int.natCast_nonneg _, Int.ofNat_lt.2 small, ?_⟩
    rw [← length, Int.toNat_natCast, Bytes.bigEndian_ofBigEndian]

theorem Width.length_of_write {w : Width} {n : Int} {bytes : Bytes}
    (written : w.write n = .ok bytes) : bytes.length = w.size :=
  (Width.write_eq_ok_iff_ofBigEndian.1 written).1

/-- Only a natural number is written. -/
theorem Width.exists_eq_of_write {w : Width} {n : Int} {bytes : Bytes}
    (written : w.write n = .ok bytes) : ∃ m : Nat, n = m :=
  ⟨_, (Width.write_eq_ok_iff_ofBigEndian.1 written).2⟩

namespace Reader

variable {part : String} {bytes rest : Bytes} {n : Nat}

theorem splitAt_eq_ok_iff {head : Bytes} :
    splitAt part n bytes = .ok (head, rest) ↔ head.length = n ∧ bytes = head ++ rest := by
  unfold splitAt
  constructor
  · intro cut
    split at cut
    · cases cut
    · rename_i enough
      cases cut
      exact ⟨List.length_take_of_le (Nat.le_of_not_lt enough), (List.take_append_drop n bytes).symm⟩
  · rintro ⟨rfl, rfl⟩
    rw [if_neg (by rw [List.length_append]; omega), List.take_left, List.drop_left]

/-- An integer is read from the front of the bytes exactly if it is written there. -/
theorem integer_eq_ok_iff (w : Width) :
    integer part w.size bytes = .ok (n, rest) ↔
      ∃ front, w.write n = .ok front ∧ bytes = front ++ rest := by
  simp only [integer, map_eq_ok_iff, Prod.exists, splitAt_eq_ok_iff, Prod.mk.injEq,
    Width.write_eq_ok_iff_ofBigEndian, Int.ofNat_inj]
  constructor
  · rintro ⟨front, _, ⟨length, rfl⟩, rfl, rfl⟩
    exact ⟨front, ⟨length, rfl⟩, rfl⟩
  · rintro ⟨front, ⟨length, rfl⟩, rfl⟩
    exact ⟨front, rest, ⟨length, rfl⟩, rfl, rfl⟩

theorem u32_eq_ok_iff : u32 part bytes = .ok (n, rest) ↔
    ∃ front, Width.u32.write n = .ok front ∧ bytes = front ++ rest :=
  integer_eq_ok_iff .u32

theorem u16_eq_ok_iff : u16 part bytes = .ok (n, rest) ↔
    ∃ front, Width.u16.write n = .ok front ∧ bytes = front ++ rest :=
  integer_eq_ok_iff .u16

/-- Bytes are a text exactly if the text is written as them. -/
theorem text_eq_ok_iff {text : String} :
    Reader.text part bytes = .ok text ↔ bytes = Utf8.encode text := by
  rw [Reader.text, mapError_eq_ok_iff, Utf8.decode_eq_ok_iff]

theorem expectEmpty_eq_ok_iff {u : Unit} : expectEmpty part bytes = .ok u ↔ bytes = [] := by
  cases bytes <;> simp [expectEmpty]

end Reader

/-! ## Kinds of keys -/

/-- A key is written to the bytes that it was read from.  So it is read from no others. -/
structure IsCanonical {K : Type} (read : Bytes → Except Flaw K)
    (write : K → Except Refusal Bytes) : Prop where
  write_of_read : ∀ bytes key, read bytes = .ok key → write key = .ok bytes
  unique : ∀ a b key, read a = .ok key → read b = .ok key → a = b

/-- Besides, a key is written exactly if its integers fit, and it is read back. -/
structure IsExact {K : Type} (read : Bytes → Except Flaw K) (write : K → Except Refusal Bytes)
    (Fits : K → Prop) : Prop extends IsCanonical read write where
  written_iff : ∀ key, (∃ bytes, write key = .ok bytes) ↔ Fits key
  read_of_write : ∀ key bytes, write key = .ok bytes → read bytes = .ok key

section Kinds

variable {K : Type} {read : Bytes → Except Flaw K} {write : K → Except Refusal Bytes}
  {Fits : K → Prop}

theorem IsCanonical.of_write_of_read
    (back : ∀ bytes key, read bytes = .ok key → write key = .ok bytes) :
    IsCanonical read write where
  write_of_read := back
  unique a b key first second := by
    have same := (back a key first).symm.trans (back b key second)
    exact Except.ok.inj same

theorem IsExact.of_read_iff
    (back : ∀ bytes key, read bytes = .ok key ↔ write key = .ok bytes)
    (fits : ∀ key, (∃ bytes, write key = .ok bytes) ↔ Fits key) : IsExact read write Fits where
  toIsCanonical := .of_write_of_read fun bytes key => (back bytes key).1
  written_iff := fits
  read_of_write key bytes := (back bytes key).2

end Kinds

/-! ## Words -/

theorem Word.read_eq_ok_iff (bytes : Bytes) (key : Word) :
    Word.read bytes = .ok key ↔ Word.write key = .ok bytes := by
  simp only [Word.read, Word.write, map_eq_ok_iff, Reader.text_eq_ok_iff, Except.ok.injEq]
  constructor
  · rintro ⟨word, rfl, rfl⟩
    rfl
  · rintro rfl
    exact ⟨key.word, rfl, rfl⟩

theorem DocumentWord.read_eq_ok_iff (bytes : Bytes) (key : DocumentWord) :
    DocumentWord.read bytes = .ok key ↔ DocumentWord.write key = .ok bytes := by
  simp only [DocumentWord.read, DocumentWord.write, bind_eq_ok_iff, pure_eq_ok_iff, Prod.exists,
    Reader.u32_eq_ok_iff, Reader.text_eq_ok_iff]
  constructor
  · rintro ⟨docid, _, ⟨front, written, rfl⟩, word, rfl, rfl⟩
    exact ⟨front, written, rfl⟩
  · rintro ⟨front, written, rfl⟩
    obtain ⟨docid, word⟩ := key
    obtain ⟨docid, rfl⟩ := Width.exists_eq_of_write written
    exact ⟨docid, _, ⟨front, written, rfl⟩, word, rfl, rfl⟩

/-- The position is the last four bytes, whatever the word is. -/
theorem WordPosition.read_eq_ok_iff (bytes : Bytes) (key : WordPosition) :
    WordPosition.read bytes = .ok key ↔ WordPosition.write key = .ok bytes := by
  unfold WordPosition.read WordPosition.write
  simp only [bind_eq_ok_iff, pure_eq_ok_iff]
  constructor
  · intro accepted
    split at accepted
    · cases accepted
    · rename_i enough
      simp only [bind_eq_ok_iff, pure_eq_ok_iff, Reader.text_eq_ok_iff] at accepted
      obtain ⟨word, text, rfl⟩ := accepted
      have length : (bytes.drop (bytes.length - 4)).length = 4 := by
        rw [List.length_drop]
        omega
      refine ⟨_, Width.write_eq_ok_iff_ofBigEndian.2 ⟨length, rfl⟩, ?_⟩
      rw [← text, List.take_append_drop]
  · rintro ⟨last, written, rfl⟩
    have length : last.length = 4 := Width.length_of_write written
    have front : (Utf8.encode key.word ++ last).length - 4 = (Utf8.encode key.word).length := by
      rw [List.length_append, length, Nat.add_sub_cancel]
    rw [if_neg (by rw [List.length_append]; omega), front, List.take_left, List.drop_left,
      bind_eq_ok_iff]
    refine ⟨key.word, Reader.text_eq_ok_iff.2 rfl, ?_⟩
    rw [← (Width.write_eq_ok_iff_ofBigEndian.1 written).2]
    rfl

theorem FieldWordCount.read_eq_ok_iff (bytes : Bytes) (key : FieldWordCount) :
    FieldWordCount.read bytes = .ok key ↔ FieldWordCount.write key = .ok bytes := by
  have count (bytes rest : Bytes) (n : Nat) : Reader.integer "word count" 1 bytes = .ok (n, rest) ↔
      ∃ front, Width.u8.write n = .ok front ∧ bytes = front ++ rest := Reader.integer_eq_ok_iff .u8
  simp only [FieldWordCount.read, FieldWordCount.write, bind_eq_ok_iff, pure_eq_ok_iff,
    Prod.exists, Reader.u16_eq_ok_iff, count, Reader.expectEmpty_eq_ok_iff]
  constructor
  · rintro ⟨fieldId, _, ⟨first, id, rfl⟩, n, _, ⟨second, last, rfl⟩, -, rfl, rfl⟩
    exact ⟨first, id, second, last, by rw [List.append_nil]⟩
  · rintro ⟨first, id, second, last, rfl⟩
    obtain ⟨fieldId, n⟩ := key
    obtain ⟨fieldId, rfl⟩ := Width.exists_eq_of_write id
    obtain ⟨n, rfl⟩ := Width.exists_eq_of_write last
    exact ⟨fieldId, second, ⟨first, id, rfl⟩, n, [], ⟨second, last, (List.append_nil _).symm⟩,
      (), rfl, rfl⟩

/-! ## Word pairs -/

namespace WordPair

theorem eq_of_splitZero? {bytes before after : Bytes}
    (cut : splitZero? bytes = some (before, after)) : bytes = before ++ [0] ++ after := by
  induction bytes generalizing before with
  | nil => cases cut
  | cons b rest ih =>
      rw [splitZero?] at cut
      split at cut
      · rename_i zero
        cases cut
        rw [zero]
        rfl
      · obtain ⟨⟨start, _⟩, found, same⟩ := Option.map_eq_some_iff.1 cut
        cases same
        rw [ih found]
        rfl

theorem write_of_read (bytes : Bytes) (key : WordPair) (accepted : read bytes = .ok key) :
    write key = .ok bytes := by
  unfold read at accepted
  split at accepted
  · cases accepted
  · rename_i proximity last
    split at accepted
    · cases accepted
    · rename_i first second cut
      simp only [bind_eq_ok_iff, pure_eq_ok_iff, Reader.text_eq_ok_iff] at accepted
      obtain ⟨word, rfl, other, rfl, rfl⟩ := accepted
      have byte : (0 : Int) ≤ proximity.toNat ∧ (proximity.toNat : Int) < 256 := by
        have := proximity.toNat_lt
        omega
      obtain ⟨front, rfl⟩ := List.getLast?_eq_some_iff.1 last
      rw [List.dropLast_concat] at cut
      rw [write, if_pos byte, Int.toNat_natCast, UInt8.ofNat_toNat, ← eq_of_splitZero? cut]

end WordPair

/-! ## Facet keys -/

namespace FacetHeader

theorem write_eq_ok_iff {header : FacetHeader} {bytes : Bytes} :
    write header = .ok bytes ↔ ∃ fieldId level, Width.u16.write header.fieldId = .ok fieldId ∧
      Width.u8.write header.level = .ok level ∧ bytes = fieldId ++ level := by
  simp only [write, bind_eq_ok_iff, pure_eq_ok_iff, exists_and_left, eq_comm (a := bytes)]

theorem length_of_write {header : FacetHeader} {bytes : Bytes}
    (written : write header = .ok bytes) : bytes.length = size := by
  obtain ⟨fieldId, level, first, second, rfl⟩ := write_eq_ok_iff.1 written
  rw [List.length_append, Width.length_of_write first, Width.length_of_write second]
  rfl

/-- A header is read from the front of the bytes exactly if it is written there. -/
theorem read_eq_ok_iff {header : FacetHeader} {bytes rest : Bytes} :
    read bytes = .ok (header, rest) ↔ ∃ front, write header = .ok front ∧ bytes = front ++ rest := by
  simp only [read, map_eq_ok_iff, Prod.exists, Reader.splitAt_eq_ok_iff, Prod.mk.injEq]
  constructor
  · rintro ⟨front, _, ⟨length, rfl⟩, rfl, rfl⟩
    have first : (front.take 2).length = 2 := by
      rw [List.length_take, length]
      rfl
    have second : (front.drop 2).length = 1 := by
      rw [List.length_drop, length]
      rfl
    refine ⟨front, write_eq_ok_iff.2 ⟨_, _, Width.write_eq_ok_iff_ofBigEndian.2 ⟨first, rfl⟩,
      Width.write_eq_ok_iff_ofBigEndian.2 ⟨second, rfl⟩, (List.take_append_drop 2 front).symm⟩, rfl⟩
  · rintro ⟨front, written, rfl⟩
    have length := length_of_write written
    obtain ⟨fieldId, level, first, second, rfl⟩ := write_eq_ok_iff.1 written
    obtain ⟨size, id⟩ := Width.write_eq_ok_iff_ofBigEndian.1 first
    have size : fieldId.length = 2 := size
    refine ⟨fieldId ++ level, rest, ⟨length, rfl⟩, ?_, rfl⟩
    rw [List.take_left' size, List.drop_left' size, ← id,
      ← (Width.write_eq_ok_iff_ofBigEndian.1 second).2]

/-- The third byte is the level. -/
theorem facetLevel?_of_write {header : FacetHeader} {front : Bytes}
    (written : write header = .ok front) (rest : Bytes) :
    facetLevel? (front ++ rest) ≠ none ∧
      (facetLevel? (front ++ rest) = some 0 ↔ header.level = 0) := by
  obtain ⟨fieldId, last, first, second, rfl⟩ := write_eq_ok_iff.1 written
  obtain ⟨size, value⟩ := Width.write_eq_ok_iff_ofBigEndian.1 second
  obtain ⟨level, rfl⟩ := List.length_eq_one_iff.1 size
  have place : fieldId.length = 2 := Width.length_of_write first
  have found : facetLevel? (fieldId ++ [level] ++ rest) = some level := by
    rw [facetLevel?, List.append_assoc, List.getElem?_append_right (by omega), place]
    rfl
  have number : header.level = level.toNat := by
    rw [value]
    simp [Bytes.ofBigEndian, Bytes.ofLittleEndian]
  rw [found, number, Option.some.injEq, ← UInt8.toNat_inj, ← Int.ofNat_inj]
  exact ⟨Option.some_ne_none level, Iff.rfl⟩

end FacetHeader

theorem FacetString.read_eq_ok_iff (bytes : Bytes) (key : FacetString) :
    FacetString.read bytes = .ok key ↔ FacetString.write key = .ok bytes := by
  simp only [FacetString.write, bind_eq_ok_iff, pure_eq_ok_iff]
  unfold FacetString.read
  constructor
  · intro accepted
    split at accepted
    · rename_i single
      simp only [bind_eq_ok_iff, pure_eq_ok_iff, Prod.exists, FacetHeader.read_eq_ok_iff,
        Reader.text_eq_ok_iff] at accepted
      obtain ⟨⟨fieldId, level⟩, _, ⟨front, written, rfl⟩, normalized, rfl, rfl⟩ := accepted
      obtain rfl : level = 0 := (FacetHeader.facetLevel?_of_write written _).2.1 single
      exact ⟨front, written, rfl⟩
    · cases accepted
  · rintro ⟨front, written, rfl⟩
    rw [if_pos ((FacetHeader.facetLevel?_of_write written _).2.2 rfl)]
    simp only [bind_eq_ok_iff, pure_eq_ok_iff, Prod.exists, FacetHeader.read_eq_ok_iff,
      Reader.text_eq_ok_iff]
    exact ⟨_, _, ⟨front, written, rfl⟩, key.normalized, rfl, rfl⟩

namespace FacetGroup

/-- The length of a key says that nothing may follow the high bound. -/
theorem length_eq_size_iff {header low high rest : Bytes} {key : FacetHeader} {l h : Int}
    (first : FacetHeader.write key = .ok header) (second : Width.u32.write l = .ok low)
    (third : Width.u32.write h = .ok high) :
    (header ++ (low ++ (high ++ rest))).length = size ↔ rest = [] := by
  have := FacetHeader.length_of_write first
  have := Width.length_of_write second
  have := Width.length_of_write third
  rw [← List.length_eq_zero_iff]
  simp only [List.length_append, FacetHeader.size, Width.size, size] at *
  omega

theorem read_eq_ok_iff (bytes : Bytes) (key : FacetGroup) :
    read bytes = .ok key ↔ write key = .ok bytes := by
  unfold read write
  constructor
  · intro accepted
    split at accepted
    · cases accepted
    · rename_i leveled
      split at accepted
      · rename_i length
        simp only [bind_eq_ok_iff, pure_eq_ok_iff, Prod.exists, FacetHeader.read_eq_ok_iff,
          Reader.u32_eq_ok_iff] at accepted
        obtain ⟨header, _, ⟨front, written, rfl⟩, low, _, ⟨first, lowest, rfl⟩, high, rest,
          ⟨second, highest, rfl⟩, rfl⟩ := accepted
        have above : header.level ≠ 0 := fun zero =>
          leveled (.inr ((FacetHeader.facetLevel?_of_write written _).2.2 zero))
        obtain rfl := (length_eq_size_iff written lowest highest).1 length
        rw [if_neg above]
        simp only [bind_eq_ok_iff, pure_eq_ok_iff]
        refine ⟨front, written, first, lowest, second, highest, ?_⟩
        rw [List.append_nil, List.append_assoc]
      · cases accepted
  · intro written
    split at written
    · cases written
    · rename_i above
      simp only [bind_eq_ok_iff, pure_eq_ok_iff] at written
      obtain ⟨front, written, first, lowest, second, highest, rfl⟩ := written
      obtain ⟨fieldId, level, low, high⟩ := key
      obtain ⟨low, rfl⟩ := Width.exists_eq_of_write lowest
      obtain ⟨high, rfl⟩ := Width.exists_eq_of_write highest
      rw [← List.append_nil second, List.append_assoc front]
      have leveled := FacetHeader.facetLevel?_of_write written (first ++ (second ++ []))
      rw [if_neg (not_or.2 ⟨leveled.1, mt leveled.2.1 above⟩),
        if_pos ((length_eq_size_iff written lowest highest).2 rfl)]
      simp only [bind_eq_ok_iff, pure_eq_ok_iff, Prod.exists, FacetHeader.read_eq_ok_iff,
        Reader.u32_eq_ok_iff]
      exact ⟨_, _, ⟨front, written, rfl⟩, low, _, ⟨first, lowest, rfl⟩, high, [],
        ⟨second, highest, rfl⟩, rfl⟩

end FacetGroup

/-! ## Which keys are written -/

theorem DocumentWord.exists_write_iff (key : DocumentWord) :
    (∃ bytes, write key = .ok bytes) ↔ Width.u32.Fits key.docid := by
  simp only [write, exists_bind_iff, exists_pure_iff, and_true, Width.exists_write_iff]

theorem WordPosition.exists_write_iff (key : WordPosition) :
    (∃ bytes, write key = .ok bytes) ↔ Width.u32.Fits key.position := by
  simp only [write, exists_bind_iff, exists_pure_iff, and_true, Width.exists_write_iff]

theorem FieldWordCount.exists_write_iff (key : FieldWordCount) :
    (∃ bytes, write key = .ok bytes) ↔
      Width.u16.Fits key.fieldId ∧ Width.u8.Fits key.count := by
  simp only [write, exists_bind_iff, exists_pure_iff, and_true, Width.exists_write_iff,
    exists_and_right]

theorem FacetHeader.exists_write_iff (header : FacetHeader) :
    (∃ bytes, write header = .ok bytes) ↔
      Width.u16.Fits header.fieldId ∧ Width.u8.Fits header.level := by
  simp only [write, exists_bind_iff, exists_pure_iff, and_true, Width.exists_write_iff,
    exists_and_right]

theorem FacetString.exists_write_iff (key : FacetString) :
    (∃ bytes, write key = .ok bytes) ↔ Width.u16.Fits key.fieldId := by
  simp only [write, exists_bind_iff, exists_pure_iff, and_true, FacetHeader.exists_write_iff]
  exact and_iff_left (by decide)

theorem FacetGroup.exists_write_iff (key : FacetGroup) :
    (∃ bytes, write key = .ok bytes) ↔
      Width.u16.Fits key.fieldId ∧ (Width.u8.Fits key.level ∧ key.level ≠ 0) ∧
        Width.u32.Fits key.low ∧ Width.u32.Fits key.high := by
  unfold write
  by_cases zero : key.level = 0
  · simp [zero]
  · simp only [zero, if_false, exists_bind_iff, exists_pure_iff, and_true, exists_and_right,
      Width.exists_write_iff, FacetHeader.exists_write_iff, and_assoc, ne_eq, not_false_eq_true]

/-! ## Kinds, one by one -/

theorem Word.isExact : IsExact Word.read Word.write fun _ => True :=
  .of_read_iff Word.read_eq_ok_iff fun _ => iff_true_intro ⟨_, rfl⟩

theorem DocumentWord.isExact :
    IsExact DocumentWord.read DocumentWord.write fun key => Width.u32.Fits key.docid :=
  .of_read_iff DocumentWord.read_eq_ok_iff DocumentWord.exists_write_iff

theorem WordPosition.isExact :
    IsExact WordPosition.read WordPosition.write fun key => Width.u32.Fits key.position :=
  .of_read_iff WordPosition.read_eq_ok_iff WordPosition.exists_write_iff

theorem FieldWordCount.isExact : IsExact FieldWordCount.read FieldWordCount.write
    fun key => Width.u16.Fits key.fieldId ∧ Width.u8.Fits key.count :=
  .of_read_iff FieldWordCount.read_eq_ok_iff FieldWordCount.exists_write_iff

theorem FacetString.isExact :
    IsExact FacetString.read FacetString.write fun key => Width.u16.Fits key.fieldId :=
  .of_read_iff FacetString.read_eq_ok_iff FacetString.exists_write_iff

theorem FacetGroup.isExact : IsExact FacetGroup.read FacetGroup.write
    fun key => Width.u16.Fits key.fieldId ∧ (Width.u8.Fits key.level ∧ key.level ≠ 0) ∧
      Width.u32.Fits key.low ∧ Width.u32.Fits key.high :=
  .of_read_iff FacetGroup.read_eq_ok_iff FacetGroup.exists_write_iff

/-- **Keys are read back exactly as they were written**, and each raw key that is read is the
only one for its key.  A word pair may have zero bytes in its first word, so of it only the
latter holds. -/
theorem keys_read_back_exactly :
    IsExact Word.read Word.write (fun _ => True) ∧
    IsExact DocumentWord.read DocumentWord.write (fun key => Width.u32.Fits key.docid) ∧
    IsExact WordPosition.read WordPosition.write (fun key => Width.u32.Fits key.position) ∧
    IsExact FieldWordCount.read FieldWordCount.write
      (fun key => Width.u16.Fits key.fieldId ∧ Width.u8.Fits key.count) ∧
    IsExact FacetString.read FacetString.write (fun key => Width.u16.Fits key.fieldId) ∧
    IsExact FacetGroup.read FacetGroup.write
      (fun key => Width.u16.Fits key.fieldId ∧ (Width.u8.Fits key.level ∧ key.level ≠ 0) ∧
        Width.u32.Fits key.low ∧ Width.u32.Fits key.high) ∧
    IsCanonical WordPair.read WordPair.write :=
  ⟨Word.isExact, DocumentWord.isExact, WordPosition.isExact, FieldWordCount.isExact,
    FacetString.isExact, FacetGroup.isExact, .of_write_of_read WordPair.write_of_read⟩

end IndexSnapshot
