/-
# IndexSnapshot.Proofs.FacetRoundTrip -- records of the string facet table are read back

A record is written as a key and a value.  What is left of a value behind its texts is
always its documents, so a value is read back, but several values can hold one set of
documents.  A key is read from its own bytes only, and its level says of which kind the record
is.  Together: `records_read_back`.

* `IsStable` says what a kind of value satisfies; `FacetStringValue.isStable` and
  `FacetGroupValue.isStable` go through the two kinds.
* `StringFacet.read_eq_ok_iff` says which records are read at all.
-/
import IndexSnapshot.Proofs.DocidLayouts
import IndexSnapshot.Proofs.FacetLayouts
import IndexSnapshot.Proofs.KeyRoundTrip

namespace IndexSnapshot

set_option autoImplicit false

/-! ## Kinds of values -/

/-- A value is written exactly if its parts fit, and it is read back.  Whatever is read can be
written, if not always to the same bytes. -/
structure IsStable {V : Type} (read : Bytes → Except Flaw V) (write : V → Except Refusal Bytes)
    (Fits : V → Prop) : Prop where
  written_iff : ∀ value, (∃ bytes, write value = .ok bytes) ↔ Fits value
  read_of_write : ∀ value bytes, write value = .ok bytes → read bytes = .ok value
  fits_of_read : ∀ bytes value, read bytes = .ok value → Fits value

section Pairs

variable {K V : Type} {readKey : Bytes → Except Flaw K} {writeKey : K → Except Refusal Bytes}
  {FitsKey : K → Prop} {readValue : Bytes → Except Flaw V} {writeValue : V → Except Refusal Bytes}
  {FitsValue : V → Prop} {k : K} {v : V}

/-- A key and a value that fit are written and read back. -/
theorem IsStable.exists_of_fits (values : IsStable readValue writeValue FitsValue)
    (keys : IsExact readKey writeKey FitsKey) (fits : FitsKey k ∧ FitsValue v) :
    ∃ key value, writeKey k = .ok key ∧ writeValue v = .ok value ∧
      readKey key = .ok k ∧ readValue value = .ok v := by
  obtain ⟨key, writtenKey⟩ := (keys.written_iff k).2 fits.1
  obtain ⟨value, writtenValue⟩ := (values.written_iff v).2 fits.2
  exact ⟨key, value, writtenKey, writtenValue, keys.read_of_write k key writtenKey,
    values.read_of_write v value writtenValue⟩

/-- A value that is read is written, and read once more. -/
theorem IsStable.exists_of_read (values : IsStable readValue writeValue FitsValue) {value : Bytes}
    (accepted : readValue value = .ok v) :
    ∃ again, writeValue v = .ok again ∧ readValue again = .ok v := by
  have fits := values.fits_of_read value v accepted
  obtain ⟨again, written⟩ := (values.written_iff v).2 fits
  exact ⟨again, written, values.read_of_write v again written⟩

end Pairs

/-- Any set of documents is written and read back, however many they are. -/
theorem DocidLayout.compact_integers (s : IdSet) :
    ∃ bytes, compact.write (integers s) = .ok bytes ∧ compact.read bytes = .ok s := by
  have collected : IdSet.ofInts (integers s) = .ok s := by
    rw [IdSet.ofInts_eq fun n member => isId_of_mem_integers member, ofList_integers]
  obtain ⟨bytes, written, back, -⟩ := compact_write_eq collected
  exact ⟨bytes, written, back⟩

theorem DocidLayout.compact_read_of_write {s : IdSet} {bytes : Bytes}
    (written : compact.write (integers s) = .ok bytes) : compact.read bytes = .ok s := by
  obtain ⟨same, again, back⟩ := compact_integers s
  rw [again] at written
  cases written
  exact back

/-- Whether the length of the text has a place in two bytes. -/
def FitsLength (text : String) : Prop :=
  Width.u16.Fits (Utf8.encode text).length

instance (text : String) : Decidable (FitsLength text) :=
  inferInstanceAs (Decidable (Width.u16.Fits _))

/-! ## Values of single texts -/

namespace FacetStringValue

/-- The value, its documents in ascending order. -/
def writeSet (value : FacetStringValue IdSet) : Except Refusal Bytes :=
  write ⟨value.spelling, DocidLayout.integers value.docids⟩

theorem read_eq_ok_iff {bytes : Bytes} {value : FacetStringValue IdSet} :
    read bytes = .ok value ↔ ∃ length tail,
      Width.u16.write (Utf8.encode value.spelling).length = .ok length ∧
        DocidLayout.compact.read tail = .ok value.docids ∧
        bytes = length ++ (Utf8.encode value.spelling ++ tail) := by
  simp only [read, bind_eq_ok_iff, pure_eq_ok_iff, Prod.exists, Reader.u16_eq_ok_iff,
    Reader.splitAt_eq_ok_iff, Reader.text_eq_ok_iff]
  constructor
  · rintro ⟨_, _, ⟨length, written, rfl⟩, _, tail, ⟨rfl, rfl⟩, spelling, rfl, docids, found, rfl⟩
    exact ⟨length, tail, written, found, rfl⟩
  · rintro ⟨length, tail, written, found, rfl⟩
    exact ⟨_, _, ⟨length, written, rfl⟩, _, tail, ⟨rfl, rfl⟩, value.spelling, rfl, value.docids,
      found, rfl⟩

theorem isStable : IsStable read writeSet fun value => FitsLength value.spelling where
  written_iff value := by
    obtain ⟨docids, written, -⟩ := DocidLayout.compact_integers value.docids
    simp only [writeSet, write, exists_bind_iff, exists_pure_iff, written, Except.ok.injEq,
      and_true, exists_eq', Width.exists_write_iff, FitsLength]
  read_of_write value bytes written := by
    simp only [writeSet, write, bind_eq_ok_iff, pure_eq_ok_iff] at written
    obtain ⟨length, written, tail, listed, rfl⟩ := written
    rw [read_eq_ok_iff]
    exact ⟨length, tail, written, DocidLayout.compact_read_of_write listed,
      List.append_assoc _ _ _⟩
  fits_of_read bytes value accepted := by
    obtain ⟨length, tail, written, -, -⟩ := read_eq_ok_iff.1 accepted
    exact Width.exists_write_iff.1 ⟨length, written⟩

end FacetStringValue

/-! ## Values of groups -/

namespace FacetGroupValue

/-- The value, its documents in ascending order. -/
def writeSet (value : FacetGroupValue IdSet) : Except Refusal Bytes :=
  write ⟨value.bounds, DocidLayout.integers value.docids⟩

theorem readBounded_eq_ok_iff {bytes : Bytes} {value : FacetGroupValue IdSet} :
    readBounded bytes = .ok value ↔ ∃ low high lowLength highLength tail,
      value.bounds = some (low, high) ∧
        Width.u16.write (Utf8.encode low).length = .ok lowLength ∧
        Width.u16.write (Utf8.encode high).length = .ok highLength ∧
        DocidLayout.compact.read tail = .ok value.docids ∧
        bytes = lowLength ++ (highLength ++ (Utf8.encode low ++ (Utf8.encode high ++ tail))) := by
  simp only [readBounded, bind_eq_ok_iff, pure_eq_ok_iff, Prod.exists, Reader.u16_eq_ok_iff,
    Reader.splitAt_eq_ok_iff, Reader.text_eq_ok_iff]
  constructor
  · rintro ⟨_, _, ⟨lowLength, first, rfl⟩, _, _, ⟨highLength, second, rfl⟩, _, _, ⟨rfl, rfl⟩,
      _, tail, ⟨rfl, rfl⟩, low, rfl, high, rfl, docids, found, rfl⟩
    exact ⟨low, high, lowLength, highLength, tail, rfl, first, second, found, rfl⟩
  · rintro ⟨low, high, lowLength, highLength, tail, bounds, first, second, found, rfl⟩
    refine ⟨_, _, ⟨lowLength, first, rfl⟩, _, _, ⟨highLength, second, rfl⟩, _, _, ⟨rfl, rfl⟩,
      _, tail, ⟨rfl, rfl⟩, low, rfl, high, rfl, value.docids, found, ?_⟩
    rw [← bounds]

/-- The flag says whether there are bounds. -/
theorem read_eq_ok_iff {bytes : Bytes} {value : FacetGroupValue IdSet} :
    read bytes = .ok value ↔
      (∃ tail, bytes = 0 :: tail ∧ value.bounds = none ∧
        DocidLayout.compact.read tail = .ok value.docids) ∨
      ∃ rest, bytes = 1 :: rest ∧ readBounded rest = .ok value := by
  cases bytes with
  | nil => simp [read]
  | cons flag rest =>
      simp only [read, List.cons.injEq]
      constructor
      · intro accepted
        split at accepted
        · rename_i unbounded
          obtain ⟨docids, found, rfl⟩ := map_eq_ok_iff.1 accepted
          exact .inl ⟨rest, ⟨unbounded, rfl⟩, rfl, found⟩
        · split at accepted
          · rename_i bounded
            exact .inr ⟨rest, ⟨bounded, rfl⟩, accepted⟩
          · cases accepted
      · rintro (⟨tail, ⟨rfl, rfl⟩, unbounded, found⟩ | ⟨tail, ⟨rfl, rfl⟩, accepted⟩)
        · rw [if_pos rfl, map_eq_ok_iff]
          refine ⟨value.docids, found, ?_⟩
          rw [← unbounded]
        · rw [if_neg (by decide), if_pos rfl]
          exact accepted

theorem isStable : IsStable read writeSet
    fun value => ∀ bounds ∈ value.bounds, FitsLength bounds.1 ∧ FitsLength bounds.2 where
  written_iff value := by
    obtain ⟨bounds, docids⟩ := value
    obtain ⟨listed, written, -⟩ := DocidLayout.compact_integers docids
    cases bounds with
    | none => simp [writeSet, write, written, Except.map]
    | some bounds =>
        simp only [writeSet, write, exists_bind_iff, exists_pure_iff, written, Except.ok.injEq,
          and_true, exists_eq', exists_and_right, Width.exists_write_iff, FitsLength,
          Option.mem_some_iff, forall_eq']
  read_of_write value bytes written := by
    obtain ⟨bounds, docids⟩ := value
    rw [read_eq_ok_iff]
    cases bounds with
    | none =>
        obtain ⟨tail, listed, rfl⟩ := map_eq_ok_iff.1 written
        exact .inl ⟨tail, rfl, rfl, DocidLayout.compact_read_of_write listed⟩
    | some bounds =>
        simp only [writeSet, write, bind_eq_ok_iff, pure_eq_ok_iff] at written
        obtain ⟨lowLength, first, highLength, second, tail, listed, rfl⟩ := written
        refine .inr ⟨_, ?_, readBounded_eq_ok_iff.2 ⟨bounds.1, bounds.2, lowLength, highLength,
          tail, rfl, first, second, DocidLayout.compact_read_of_write listed, rfl⟩⟩
        simp only [List.append_assoc, List.cons_append, List.nil_append]
  fits_of_read bytes value accepted := by
    intro bounds member
    rcases read_eq_ok_iff.1 accepted with ⟨_, -, unbounded, -⟩ | ⟨rest, -, bounded⟩
    · rw [unbounded] at member
      cases member
    · obtain ⟨low, high, lowLength, highLength, _, found, first, second, -⟩ :=
        readBounded_eq_ok_iff.1 bounded
      rw [found] at member
      cases member
      exact ⟨Width.exists_write_iff.1 ⟨lowLength, first⟩,
        Width.exists_write_iff.1 ⟨highLength, second⟩⟩

end FacetGroupValue

/-! ## Records -/

namespace StringFacet

variable {key value : Bytes} {entry : StringFacet}

/-- The key under which the record is stored. -/
def writeKey : StringFacet → Except Refusal Bytes
  | .single key _ => FacetString.write key
  | .group key _ => FacetGroup.write key

/-- The value that is stored under the key. -/
def writeValue : StringFacet → Except Refusal Bytes
  | .single _ value => FacetStringValue.writeSet value
  | .group _ value => FacetGroupValue.writeSet value

/-- Every integer of the record has a place in its field, and so has the length of every text
of its value.  The level of a group is not zero. -/
def Fits : StringFacet → Prop
  | .single key value => Width.u16.Fits key.fieldId ∧ FitsLength value.spelling
  | .group key value =>
      (Width.u16.Fits key.fieldId ∧ (Width.u8.Fits key.level ∧ key.level ≠ 0) ∧
        Width.u32.Fits key.low ∧ Width.u32.Fits key.high) ∧
      ∀ bounds ∈ value.bounds, FitsLength bounds.1 ∧ FitsLength bounds.2

instance : (entry : StringFacet) → Decidable entry.Fits
  | .single _ _ => inferInstanceAs (Decidable (_ ∧ _))
  | .group _ _ => inferInstanceAs (Decidable (_ ∧ _))

theorem asSingle_eq_ok_iff : asSingle key value = .ok entry ↔
    ∃ k v, FacetString.read key = .ok k ∧ FacetStringValue.read value = .ok v ∧
      entry = .single k v := by
  simp only [asSingle, bind_eq_ok_iff, map_eq_ok_iff, exists_and_left, eq_comm (a := entry)]

theorem asGroup_eq_ok_iff : asGroup key value = .ok entry ↔
    ∃ k v, FacetGroup.read key = .ok k ∧ FacetGroupValue.read value = .ok v ∧
      entry = .group k v := by
  simp only [asGroup, bind_eq_ok_iff, map_eq_ok_iff, exists_and_left, eq_comm (a := entry)]

/-- A record is read exactly if it is read as one of the two kinds: the other kind never has
its key. -/
theorem read_eq_ok_iff : read key value = .ok entry ↔
    asSingle key value = .ok entry ∨ asGroup key value = .ok entry := by
  -- at each level, one of the two is the record and the other one has no key
  have noSingle (other : facetLevel? key ≠ some 0) : asSingle key value ≠ .ok entry := by
    rw [asSingle, FacetString.read_eq_error other]
    intro impossible
    cases impossible
  have noGroup (other : facetLevel? key = none ∨ facetLevel? key = some 0) :
      asGroup key value ≠ .ok entry := by
    rw [asGroup, FacetGroup.read_eq_error other]
    intro impossible
    cases impossible
  cases leveled : facetLevel? key with
  | none =>
      have other : facetLevel? key ≠ some 0 := by
        rw [leveled]
        exact (Option.some_ne_none 0).symm
      rw [(read_of_none leveled).1]
      refine iff_of_false ?_ (not_or.2 ⟨noSingle other, noGroup (.inl leveled)⟩)
      intro impossible
      cases impossible
  | some level =>
      by_cases zero : level = 0
      · rw [zero] at leveled
        rw [(read_of_zero leveled).1, or_iff_left (noGroup (.inr leveled))]
      · have other : facetLevel? key ≠ some 0 := by
          rwa [leveled, ne_eq, Option.some.injEq]
        rw [(read_of_leveled leveled zero).1, or_iff_right (noSingle other)]

/-- **Records of the string facet table are read back.**  A record that fits its fields is read
as itself, and so of its own kind, from the key and the value that it is written as.  A record
that is read can be written, to the same key and to a value that is read as the same record. -/
theorem records_read_back :
    (∀ entry : StringFacet, entry.Fits → ∃ key value,
      entry.writeKey = .ok key ∧ entry.writeValue = .ok value ∧ read key value = .ok entry) ∧
    ∀ key value entry, read key value = .ok entry → entry.writeKey = .ok key ∧
      ∃ again, entry.writeValue = .ok again ∧ read key again = .ok entry := by
  constructor
  · intro entry fits
    cases entry with
    | single k v =>
        obtain ⟨key, value, writtenKey, writtenValue, backKey, backValue⟩ :=
          FacetStringValue.isStable.exists_of_fits FacetString.isExact fits
        have back := asSingle_eq_ok_iff.2 ⟨k, v, backKey, backValue, rfl⟩
        exact ⟨key, value, writtenKey, writtenValue, read_eq_ok_iff.2 (.inl back)⟩
    | group k v =>
        obtain ⟨key, value, writtenKey, writtenValue, backKey, backValue⟩ :=
          FacetGroupValue.isStable.exists_of_fits FacetGroup.isExact fits
        have back := asGroup_eq_ok_iff.2 ⟨k, v, backKey, backValue, rfl⟩
        exact ⟨key, value, writtenKey, writtenValue, read_eq_ok_iff.2 (.inr back)⟩
  · intro key value entry accepted
    rcases read_eq_ok_iff.1 accepted with single | group
    · obtain ⟨k, v, acceptedKey, acceptedValue, rfl⟩ := asSingle_eq_ok_iff.1 single
      obtain ⟨again, written, back⟩ :=
        FacetStringValue.isStable.exists_of_read acceptedValue
      have back := asSingle_eq_ok_iff.2 ⟨k, v, acceptedKey, back, rfl⟩
      exact ⟨FacetString.isExact.write_of_read key k acceptedKey, again, written,
        read_eq_ok_iff.2 (.inl back)⟩
    · obtain ⟨k, v, acceptedKey, acceptedValue, rfl⟩ := asGroup_eq_ok_iff.1 group
      obtain ⟨again, written, back⟩ :=
        FacetGroupValue.isStable.exists_of_read acceptedValue
      have back := asGroup_eq_ok_iff.2 ⟨k, v, acceptedKey, back, rfl⟩
      exact ⟨FacetGroup.isExact.write_of_read key k acceptedKey, again, written,
        read_eq_ok_iff.2 (.inr back)⟩

/-- A group with bounds that are not plain ASCII, and more documents than an array holds. -/
theorem bounded_group_reads_back :
    let entry : StringFacet :=
      .group ⟨7, 255, 0, 4294967295⟩ ⟨some ("élan", "zèle"), IdSet.ofList [9, 8, 7, 6, 5, 4, 3, 2]⟩
    entry.Fits ∧ ∃ key value, read key value = .ok entry ∧ entry.writeKey = .ok key ∧
      ∃ again, entry.writeValue = .ok again ∧ read key again = .ok entry := by
  intro entry
  have fits : entry.Fits := by decide
  obtain ⟨key, value, -, -, back⟩ := records_read_back.1 entry fits
  exact ⟨fits, key, value, back, records_read_back.2 key value entry back⟩

end StringFacet

end IndexSnapshot
