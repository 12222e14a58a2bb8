/-
# IndexSnapshot.Proofs.Containers -- reading back the body of a container

A container is written from ascending low halves, as an array or as bits.  Its body is
read back to exactly these halves, whatever comes after it, and what is read passes the
check of a container.

* `bitsMembers_packBits`: the one bits of packed bytes are the places that were packed.
* `container?_body`: a body is read back from its cardinality and its bytes.
* `length_body_ge`: a body takes two bytes a member, or more than an array ever does.
-/
import IndexSnapshot.Docids.Portable
import Mathlib.Data.List.Sort
import Mathlib.Data.List.TakeWhile
import Mathlib.Data.Nat.BitIndices

namespace IndexSnapshot.Portable

set_option autoImplicit false

/-! ## Ascending lists of numbers -/

/-- Low halves as a container holds them: ascending, and each of two bytes. -/
structure LowHalves (lows : List Nat) : Prop where
  ascending : lows.Pairwise (· < ·)
  bounded : ∀ low ∈ lows, low < 65536

/-- Ascending numbers below a bound are no more than there are numbers below it. -/
theorem length_le_of_ascending {ns : List Nat} {bound : Nat} (ascending : ns.Pairwise (· < ·))
    (bounded : ∀ n ∈ ns, n < bound) : ns.length ≤ bound := by
  have distinct : ns.Nodup := ascending.imp fun h => Nat.ne_of_lt h
  have inRange : ns ⊆ List.range bound := fun n member => List.mem_range.2 (bounded n member)
  simpa using (List.subperm_of_subset distinct inRange).length_le

theorem LowHalves.length_le {lows : List Nat} (h : LowHalves lows) : lows.length ≤ 65536 :=
  length_le_of_ascending h.ascending h.bounded

theorem increasing_of_ascending {ns : List Nat} (ascending : ns.Pairwise (· < ·)) :
    Container.increasing ns = true := by
  induction ns with
  | nil => rfl
  | cons a rest ih =>
      cases rest with
      | nil => rfl
      | cons b rest =>
          have first : a < b := (List.pairwise_cons.1 ascending).1 b (List.mem_cons_self ..)
          simp only [Container.increasing, first, decide_true, Bool.true_and]
          exact ih (List.pairwise_cons.1 ascending).2

/-! ## Arrays -/

/-- A number of two bytes is read off the front. -/
theorem halves_littleEndian_append {n : Nat} (fits : n < 65536) (rest : Bytes) :
    halves (Bytes.littleEndian 2 n ++ rest) = n :: halves rest := by
  have back : Bytes.ofLittleEndian (Bytes.littleEndian 2 n) = n :=
    Bytes.ofLittleEndian_littleEndian fits
  rw [← congrArg (· :: halves rest) back]
  rfl

/-- Numbers of two bytes are read back from their bytes. -/
theorem halves_flatMap_littleEndian {ns : List Nat} (bounded : ∀ n ∈ ns, n < 65536) :
    halves (ns.flatMap (Bytes.littleEndian 2)) = ns := by
  induction ns with
  | nil => rfl
  | cons n rest ih =>
      rw [List.flatMap_cons, halves_littleEndian_append (bounded n (List.mem_cons_self ..)),
        ih fun m member => bounded m (List.mem_cons_of_mem n member)]

theorem length_flatMap_littleEndian (k : Nat) (ns : List Nat) :
    (ns.flatMap (Bytes.littleEndian k)).length = k * ns.length := by
  induction ns with
  | nil => rfl
  | cons n rest ih =>
      simp only [List.flatMap_cons, List.length_append, Bytes.length_littleEndian, ih,
        List.length_cons, Nat.mul_add, Nat.mul_one, Nat.add_comm]

/-! ## Bits -/

/-- The sum behind a packed byte, from any start. -/
theorem foldl_pow_eq_sum (base : Nat) (places : List Nat) (start : Nat) :
    places.foldl (fun sum k => sum + Nat.pow 2 (k - base)) start
      = start + ((places.map (· - base)).map (2 ^ ·)).sum := by
  induction places generalizing start with
  | nil => rfl
  | cons k rest ih =>
      rw [List.foldl_cons, ih, List.map_cons, List.map_cons, List.sum_cons, Nat.add_assoc]
      rfl

/-- Different powers of two below a power of two sum up to less than it. -/
theorem sum_two_pow_lt {ns : List Nat} {bound : Nat} (ascending : ns.Pairwise (· < ·))
    (bounded : ∀ n ∈ ns, n < bound) : (ns.map (2 ^ ·)).sum < 2 ^ bound := by
  have indices : (ns.map (2 ^ ·)).sum.bitIndices = ns :=
    Nat.bitIndices_sum_map_two_pow ascending.sortedLT
  refine Nat.lt_pow_two_of_testBit _ fun i above => ?_
  rw [Bool.eq_false_iff, ne_eq, ← Nat.mem_bitIndices, indices]
  exact fun member => absurd (bounded i member) (Nat.not_lt.2 above)

/-- The one bits of a byte are the places whose powers of two sum up to it. -/
theorem bitPlaces_ofNat_sum {places : List Nat} (ascending : places.Pairwise (· < ·))
    (bounded : ∀ k ∈ places, k < 8) :
    bitPlaces (UInt8.ofNat (places.map (2 ^ ·)).sum) = places := by
  have small := sum_two_pow_lt ascending bounded
  have value : (UInt8.ofNat (places.map (2 ^ ·)).sum).toNat = (places.map (2 ^ ·)).sum := by
    rw [UInt8.toNat_ofNat']
    exact Nat.mod_eq_of_lt small
  have indices : (places.map (2 ^ ·)).sum.bitIndices = places :=
    Nat.bitIndices_sum_map_two_pow ascending.sortedLT
  have sorted : (bitPlaces (UInt8.ofNat (places.map (2 ^ ·)).sum)).Pairwise (· < ·) :=
    List.pairwise_lt_range.filter _
  apply sorted.eq_of_mem_iff ascending
  intro k
  rw [bitPlaces, value, List.mem_filter, List.mem_range, ← Nat.mem_bitIndices, indices]
  exact ⟨And.right, fun member => ⟨bounded k member, member⟩⟩

/-- A packed byte has its one bits exactly at the places that were packed. -/
theorem bitPlaces_packByte {base : Nat} {places : List Nat}
    (ascending : places.Pairwise (· < ·)) (inside : ∀ k ∈ places, base ≤ k ∧ k < base + 8) :
    (bitPlaces (packByte base places)).map (base + ·) = places := by
  have shifted : (places.map (· - base)).Pairwise (· < ·) := by
    rw [List.pairwise_map]
    refine ascending.imp_of_mem fun {j k} hj hk h => ?_
    have := inside j hj
    have := inside k hk
    omega
  have small : ∀ k ∈ places.map (· - base), k < 8 := by
    intro k member
    obtain ⟨j, hj, rfl⟩ := List.mem_map.1 member
    have := inside j hj
    omega
  rw [packByte, foldl_pow_eq_sum, Nat.zero_add, bitPlaces_ofNat_sum shifted small, List.map_map]
  refine (List.map_congr_left fun k member => ?_).trans (List.map_id places)
  have := (inside k member).1
  simp only [Function.comp_apply, id_eq]
  omega

/-- The one bits of packed bytes are the places that were packed.  By induction on the
number of bytes: the first byte takes the places before the next one starts. -/
theorem bitsMembers_packBits (n base : Nat) {places : List Nat}
    (ascending : places.Pairwise (· < ·))
    (inside : ∀ k ∈ places, base ≤ k ∧ k < base + 8 * n) :
    bitsMembers base (packBits n base places) = places := by
  induction n generalizing base places with
  | zero =>
      cases places with
      | nil => rfl
      | cons k rest =>
          have := inside k (List.mem_cons_self ..)
          omega
  | succ n ih =>
      have cut : places.takeWhile (· < base + 8) ++ places.dropWhile (· < base + 8) = places :=
        List.takeWhile_append_dropWhile
      have sorted := ascending
      rw [← cut, List.pairwise_append] at sorted
      have here : ∀ k ∈ places.takeWhile (· < base + 8), base ≤ k ∧ k < base + 8 := by
        intro k member
        have below := List.mem_takeWhile_imp member
        rw [decide_eq_true_eq] at below
        exact ⟨(inside k ((List.takeWhile_sublist _).subset member)).1, below⟩
      have later : ∀ k ∈ places.dropWhile (· < base + 8), base + 8 ≤ k ∧ k < base + 8 + 8 * n := by
        intro k member
        have upper := (inside k ((List.dropWhile_sublist _).subset member)).2
        refine ⟨?_, by omega⟩
        -- the first place that is not in this byte is beyond it, and all others are larger
        cases rest : places.dropWhile (· < base + 8) with
        | nil => rw [rest] at member; cases member
        | cons first others =>
            have beyond := List.head?_dropWhile_not (· < base + 8) places
            rw [rest] at beyond member sorted
            simp only [List.head?_cons, decide_eq_false_iff_not, Nat.not_lt] at beyond
            rcases List.mem_cons.1 member with rfl | member
            · exact beyond
            · have := (List.pairwise_cons.1 sorted.2.1).1 k member
              omega
      simp only [packBits, List.span_eq_takeWhile_dropWhile, bitsMembers]
      rw [bitPlaces_packByte sorted.1 here, ih (base + 8) sorted.2.1 later, cut]

theorem length_packBits (n base : Nat) (places : List Nat) :
    (packBits n base places).length = n := by
  induction n generalizing base places with
  | zero => rfl
  | succ n ih => simp only [packBits, List.length_cons, ih]

/-! ## Bodies -/

/-- The container that a body of ascending low halves is read back to. -/
def Container.ofLows (lows : List Nat) : Container :=
  if lows.length ≤ arrayLimit then .array lows
  else .bits lows.length (packBits bitsSize 0 lows)

theorem bitsMembers_bits {lows : List Nat} (h : LowHalves lows) :
    bitsMembers 0 (packBits bitsSize 0 lows) = lows :=
  bitsMembers_packBits bitsSize 0 h.ascending fun low member =>
    ⟨Nat.zero_le low, by have := h.bounded low member; simp only [bitsSize]; omega⟩

theorem Container.members_ofLows {lows : List Nat} (h : LowHalves lows) :
    (Container.ofLows lows).members = lows := by
  unfold Container.ofLows
  split
  · rfl
  · exact bitsMembers_bits h

theorem Container.check_ofLows {lows : List Nat} (h : LowHalves lows) :
    (Container.ofLows lows).check = .ok () := by
  unfold Container.ofLows
  split
  · simp only [Container.check, increasing_of_ascending h.ascending, if_true]
  · simp only [Container.check, bitsMembers_bits h, if_true]

theorem length_body (lows : List Nat) :
    (body lows).length = if lows.length ≤ arrayLimit then 2 * lows.length else bitsSize := by
  unfold body
  split
  · exact length_flatMap_littleEndian 2 lows
  · exact length_packBits bitsSize 0 lows

/-- A body takes two bytes for each of few members; the bits of many members take more than
any number of members below the limit would. -/
theorem length_body_ge (lows : List Nat) :
    2 * lows.length ≤ (body lows).length ∨ bitsSize ≤ (body lows).length := by
  rw [length_body]
  split
  · exact .inl (Nat.le_refl _)
  · exact .inr (Nat.le_refl _)

/-- The front of a byte string is taken off whole. -/
theorem take?_append {n : Nat} {front : Bytes} (length : front.length = n) (rest : Bytes) :
    take? n (front ++ rest) = .ok (front, rest) := by
  subst length
  have enough : ¬ (front ++ rest).length < front.length := by
    rw [List.length_append]
    omega
  rw [take?, if_neg enough, List.take_left, List.drop_left]

/-- A body is read back to its container, whatever comes after it. -/
theorem container?_body {lows : List Nat} (h : LowHalves lows) (rest : Bytes) :
    container? false lows.length (body lows ++ rest) = .ok (Container.ofLows lows, rest) := by
  simp only [container?, Bool.false_eq_true, if_false, Container.ofLows, body]
  by_cases few : lows.length ≤ arrayLimit
  · have notMany : ¬ lows.length > arrayLimit := Nat.not_lt.2 few
    have length := length_flatMap_littleEndian 2 lows
    simp only [few, notMany, if_true, if_false, take?_append length, bind, Except.bind, pure,
      Except.pure, halves_flatMap_littleEndian h.bounded]
  · have many : lows.length > arrayLimit := Nat.lt_of_not_le few
    have length := length_packBits bitsSize 0 lows
    simp only [few, many, if_true, if_false, take?_append length, bind, Except.bind, pure,
      Except.pure]

end IndexSnapshot.Portable
