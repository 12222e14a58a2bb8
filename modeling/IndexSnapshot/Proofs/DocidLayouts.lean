/-
# IndexSnapshot.Proofs.DocidLayouts -- every layout of document ids is read back

Any list of document ids, in any order and with repetitions, is read back from each of
the three layouts as the set of its members: `every_layout_reads_back`.  The compact
layout tells its two forms apart by their length alone.  That works because an array of
at most seven ids never takes more than 28 bytes, and a portable bitmap of more than
seven members never takes less than 32.

* `words?_flatMap` and `writeArray_eq`: arrays, word by word.
* `IdSet.ext` and `ofInts_eq`: a set is known by its members.
-/
import IndexSnapshot.Docids.Layout
import IndexSnapshot.Proofs.PortableBitmap
import IndexSnapshot.Proofs.Steps

namespace IndexSnapshot

set_option autoImplicit false

/-! ## Sets -/

/-- Two sets with the same members are the same. -/
theorem IdSet.ext {s t : IdSet} (same : ∀ i, i ∈ s ↔ i ∈ t) : s = t :=
  IdSet.eq_of_toList <| s.ascending.eq_of_mem_iff t.ascending same

/-- An integer that is a document id. -/
def IsId (n : Int) : Prop :=
  0 ≤ n ∧ n < 0x100000000

/-- The document id that an integer is. -/
def idOf (n : Int) : UInt32 :=
  UInt32.ofNat n.toNat

theorem toNat_idOf {n : Int} (h : IsId n) : ((idOf n).toNat : Int) = n := by
  have : n.toNat < 4294967296 := by have := h.2; omega
  have low := h.1
  rw [idOf, UInt32.toNat_ofNat', Nat.mod_eq_of_lt this]
  omega

theorem isId_toNat (i : UInt32) : IsId (i.toNat : Int) := by
  have := i.toNat_lt
  exact ⟨by omega, by omega⟩

@[simp] theorem idOf_toNat (i : UInt32) : idOf (i.toNat : Int) = i := by
  rw [idOf, Int.toNat_natCast, UInt32.ofNat_toNat]

theorem IdSet.ofInts_eq {ids : List Int} (all : ∀ n ∈ ids, IsId n) :
    IdSet.ofInts ids = .ok (IdSet.ofList (ids.map idOf)) := by
  have each : ∀ n ∈ ids, IdSet.id? n = .ok (idOf n) := fun n member => if_pos (all n member)
  rw [IdSet.ofInts, mapM_eq_ok each]
  rfl

/-- The members of the set of a list are the integers of the list. -/
theorem IdSet.mem_ofList_map_idOf {ids : List Int} (all : ∀ n ∈ ids, IsId n) (i : UInt32) :
    i ∈ IdSet.ofList (ids.map idOf) ↔ (i.toNat : Int) ∈ ids := by
  rw [IdSet.mem_ofList, List.mem_map]
  constructor
  · rintro ⟨n, member, rfl⟩
    rwa [toNat_idOf (all n member)]
  · exact fun member => ⟨_, member, idOf_toNat i⟩

namespace DocidLayout

/-! ## Arrays -/

theorem words?_flatMap (ids : List UInt32) :
    words? (ids.flatMap fun i => Bytes.littleEndian 4 i.toNat) = some ids := by
  induction ids with
  | nil => rfl
  | cons i rest ih =>
      have back : Bytes.ofLittleEndian (Bytes.littleEndian 4 i.toNat) = i.toNat :=
        Bytes.ofLittleEndian_littleEndian i.toNat_lt
      simp only [Bytes.littleEndian] at back
      rw [List.flatMap_cons]
      simp only [Bytes.littleEndian, List.cons_append, List.nil_append, words?, back,
        UInt32.ofNat_toNat]
      simp only [Bytes.littleEndian] at ih
      rw [ih, Option.map_some]

theorem writeWord_eq {n : Int} (h : IsId n) :
    writeWord n = .ok (Bytes.littleEndian 4 (idOf n).toNat) := by
  have value : (idOf n).toNat = n.toNat := by
    have := toNat_idOf h
    omega
  rw [writeWord, (Width.write_eq_ok_iff .u32 n _).2 ⟨h.1, h.2, rfl⟩, value]
  simp only [Except.map, Bytes.bigEndian, List.reverse_reverse, Width.size]

/-- An array has its ids in ascending order, four bytes each. -/
theorem writeArray_eq {ids : List Int} (all : ∀ n ∈ ids, IsId n) :
    writeArray ids = .ok (((ids.mergeSort ascending).map idOf).flatMap
      fun i => Bytes.littleEndian 4 i.toNat) := by
  have sorted : ∀ n ∈ ids.mergeSort ascending, IsId n :=
    fun n member => all n (List.mem_mergeSort.1 member)
  rw [writeArray, mapM_eq_ok fun n member => writeWord_eq (sorted n member), List.flatMap_map]
  rfl

/-- An array is read back as the set of what was written. -/
theorem readArray_writeArray {ids : List Int} (all : ∀ n ∈ ids, IsId n) :
    ∃ bytes, writeArray ids = .ok bytes ∧ bytes.length = 4 * ids.length ∧
      readArray bytes = .ok (IdSet.ofList (ids.map idOf)) := by
  refine ⟨_, writeArray_eq all, ?_, ?_⟩
  · rw [← List.flatMap_map UInt32.toNat, Portable.length_flatMap_littleEndian, List.length_map,
      List.length_map, List.length_mergeSort]
  · have same : IdSet.ofList ((ids.mergeSort ascending).map idOf)
        = IdSet.ofList (ids.map idOf) := by
      apply IdSet.ext
      intro i
      simp only [IdSet.mem_ofList, List.mem_map, List.mem_mergeSort]
    simp only [readArray, words?_flatMap, same]

/-! ## Sets in arrays -/

theorem isId_of_mem_integers {s : IdSet} {n : Int} (member : n ∈ integers s) : IsId n := by
  obtain ⟨i, -, rfl⟩ := List.mem_map.1 member
  exact isId_toNat i

theorem ofList_integers (s : IdSet) : IdSet.ofList ((integers s).map idOf) = s := by
  have back : (integers s).map idOf = s.toList := by
    rw [integers, List.map_map]
    exact (List.map_congr_left fun i _ => idOf_toNat i).trans (List.map_id _)
  rw [back, IdSet.ofList_toList]

/-! ## Layouts -/

theorem readPortable_write (s : IdSet) : readPortable (Portable.write s) = .ok s := by
  have filled : (Portable.write s).isEmpty = false := by
    rw [List.isEmpty_eq_false_iff]
    exact Portable.write_ne_nil s
  rw [readPortable, filled, Portable.read_write]
  rfl

/-- What the compact layout writes of a set, and how it is read: an array up to seven ids, a
longer portable bitmap beyond. -/
theorem compact_write_eq {ids : List Int} {s : IdSet} (collected : IdSet.ofInts ids = .ok s) :
    ∃ bytes, compact.write ids = .ok bytes ∧ compact.read bytes = .ok s ∧
      ((s.size ≤ 7 ∧ bytes.length ≤ 28 ∧ array.write (integers s) = .ok bytes
          ∧ compact.read bytes = array.read bytes) ∨
        (7 < s.size ∧ 28 < bytes.length ∧ portable.write ids = .ok bytes
          ∧ compact.read bytes = portable.read bytes)) := by
  by_cases few : s.size ≤ 7
  · obtain ⟨bytes, written, length, back⟩ :=
      readArray_writeArray fun n (member : n ∈ integers s) => isId_of_mem_integers member
    rw [ofList_integers] at back
    have size : (integers s).length = s.size := List.length_map ..
    have short : bytes.length ≤ 28 := by omega
    have selected : compact.read bytes = readArray bytes := if_pos short
    refine ⟨bytes, ?_, selected.trans back, .inl ⟨few, short, written, selected⟩⟩
    simp only [write, collected, bind, Except.bind, compactLimit, few, if_true, written]
  · have many : 7 < s.size := Nat.lt_of_not_le few
    have long := Portable.lt_length_write many
    have selected : compact.read (Portable.write s) = readPortable (Portable.write s) :=
      if_neg (Nat.not_le.2 long)
    refine ⟨Portable.write s, ?_, selected.trans (readPortable_write s),
      .inr ⟨many, long, ?_, selected⟩⟩
    · simp only [write, collected, bind, Except.bind, compactLimit, few, if_false, pure,
        Except.pure]
    · simp only [write, collected, Except.map]

/-- **Every list of document ids is read back as the set of its members**, from each of the
three layouts.  The compact layout takes at most 28 bytes exactly for sets of at most seven
members, so its reader, which looks at the length alone, always takes the form that was
written. -/
theorem every_layout_reads_back {ids : List Int}
    (all : ∀ n ∈ ids, 0 ≤ n ∧ n < 0x100000000) :
    ∃ s : IdSet, (∀ i : UInt32, i ∈ s ↔ (i.toNat : Int) ∈ ids) ∧
      (∀ layout : DocidLayout, ∃ bytes,
        layout.write ids = .ok bytes ∧ layout.read bytes = .ok s) ∧
      ∃ bytes, compact.write ids = .ok bytes ∧ (bytes.length ≤ 28 ↔ s.size ≤ 7) ∧
        (s.size ≤ 7 → array.write (integers s) = .ok bytes ∧
          compact.read bytes = array.read bytes) ∧
        (7 < s.size → portable.write ids = .ok bytes ∧
          compact.read bytes = portable.read bytes) := by
  have collected := IdSet.ofInts_eq all
  obtain ⟨bytes, written, back, form⟩ := compact_write_eq collected
  refine ⟨_, IdSet.mem_ofList_map_idOf all, fun layout => ?_, bytes, written, ?_⟩
  · cases layout with
    | portable =>
        refine ⟨_, ?_, readPortable_write _⟩
        simp only [write, collected, Except.map]
    | array =>
        obtain ⟨bytes, written, -, back⟩ := readArray_writeArray all
        exact ⟨bytes, written, back⟩
    | compact => exact ⟨bytes, written, back⟩
  · rcases form with ⟨few, short, asArray, selected⟩ | ⟨many, long, asBitmap, selected⟩
    · exact ⟨iff_of_true short few, fun _ => ⟨asArray, selected⟩,
        fun many => absurd few (Nat.not_le.2 many)⟩
    · exact ⟨iff_of_false (Nat.not_le.2 long) (Nat.not_le.2 many),
        fun few => absurd few (Nat.not_le.2 many), fun _ => ⟨asBitmap, selected⟩⟩

/-- Ids at both ends of several containers, out of order and with a repetition. -/
theorem scattered_ids_read_back :
    let ids : List Int := [70000, 3, 3, 0, 4294967295, 65535, 65536, 9, 8, 7]
    (∀ n ∈ ids, 0 ≤ n ∧ n < 0x100000000) ∧
      ∃ s : IdSet, (∀ i : UInt32, i ∈ s ↔ (i.toNat : Int) ∈ ids) ∧
        (∀ layout : DocidLayout, ∃ bytes,
          layout.write ids = .ok bytes ∧ layout.read bytes = .ok s) ∧
        ∃ bytes, compact.write ids = .ok bytes ∧ (bytes.length ≤ 28 ↔ s.size ≤ 7) ∧
          (s.size ≤ 7 → array.write (integers s) = .ok bytes ∧
            compact.read bytes = array.read bytes) ∧
          (7 < s.size → portable.write ids = .ok bytes ∧
            compact.read bytes = portable.read bytes) :=
  ⟨by decide, every_layout_reads_back (by decide)⟩

end DocidLayout

end IndexSnapshot
