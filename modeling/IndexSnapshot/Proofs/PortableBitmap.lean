/-
# IndexSnapshot.Proofs.PortableBitmap -- portable bitmaps are read back

A set of document ids is cut into groups by the high halves of its members, and every
group becomes a container.  Reading undoes both steps, for every set: `read_write`.

* `Grouped` is what the groups of a set satisfy: ascending keys, and in each group
  ascending low halves, at least one.  `grouped_consId` keeps it from one id to the next.
* `parse_write` takes a written bitmap apart into the containers of its groups.
* `lt_length_write` is the least length of a bitmap of more than seven members.
-/
import IndexSnapshot.Proofs.Containers

namespace IndexSnapshot.Portable

set_option autoImplicit false

/-! ## Groups -/

/-- The ids that a group stands for. -/
def groupIds (group : Nat × List Nat) : List UInt32 :=
  group.2.map fun low => UInt32.ofNat (65536 * group.1 + low)

/-- The groups of ascending ids. -/
structure Grouped (groups : List (Nat × List Nat)) : Prop where
  keys : groups.Pairwise (·.1 < ·.1)
  keyBound : ∀ g ∈ groups, g.1 < 65536
  nonempty : ∀ g ∈ groups, g.2 ≠ []
  lows : ∀ g ∈ groups, LowHalves g.2

theorem ofNat_halves (i : UInt32) :
    UInt32.ofNat (65536 * (i.toNat / 65536) + i.toNat % 65536) = i := by
  rw [Nat.div_add_mod, UInt32.ofNat_toNat]

/-- Of halves of two bytes nothing is lost in an id. -/
theorem toNat_ofNat_halves {key low : Nat} (hkey : key < 65536) (hlow : low < 65536) :
    (UInt32.ofNat (65536 * key + low)).toNat = 65536 * key + low := by
  rw [UInt32.toNat_ofNat']
  exact Nat.mod_eq_of_lt (by omega)

/-- An id that is put into groups comes out in front of the others. -/
theorem flatMap_consId (i : UInt32) (groups : List (Nat × List Nat)) :
    (consId i groups).flatMap groupIds = i :: groups.flatMap groupIds := by
  cases groups with
  | nil => simp only [consId, List.flatMap_cons, List.flatMap_nil, groupIds, List.map_cons,
      List.map_nil, ofNat_halves, List.append_nil]
  | cons group rest =>
      obtain ⟨key, lows⟩ := group
      by_cases same : key = i.toNat / 65536
      · subst same
        simp only [consId, if_true, List.flatMap_cons, groupIds, List.map_cons, ofNat_halves,
          List.cons_append]
      · simp only [consId, same, if_false, List.flatMap_cons, groupIds, List.map_cons,
          List.map_nil, ofNat_halves, List.cons_append, List.nil_append]

theorem flatMap_foldr_consId (ids : List UInt32) :
    (ids.foldr consId []).flatMap groupIds = ids := by
  induction ids with
  | nil => rfl
  | cons i rest ih => rw [List.foldr_cons, flatMap_consId, ih]

/-- The groups of a set stand for its members, in their order. -/
theorem flatMap_groups (s : IdSet) : (groups s).flatMap groupIds = s.toList :=
  flatMap_foldr_consId s.toList

/-- A smaller id joins the first group or starts a new one before it. -/
theorem grouped_consId {i : UInt32} {groups : List (Nat × List Nat)} (grouped : Grouped groups)
    (below : ∀ j ∈ groups.flatMap groupIds, i < j) : Grouped (consId i groups) := by
  have word := i.toNat_lt
  have high : i.toNat / 65536 < 65536 := by omega
  have low : i.toNat % 65536 < 65536 := by omega
  have single : LowHalves [i.toNat % 65536] :=
    ⟨List.pairwise_singleton .., fun l member => by rw [List.mem_singleton.1 member]; exact low⟩
  cases groups with
  | nil =>
      refine ⟨List.pairwise_singleton .., ?_, ?_, ?_⟩ <;> intro g member <;>
        rw [List.mem_singleton.1 member]
      · exact high
      · exact List.cons_ne_nil _ _
      · exact single
  | cons group rest =>
      obtain ⟨key, lows⟩ := group
      obtain ⟨keys, keyBound, nonempty, allLows⟩ := grouped
      have first : LowHalves lows := allLows _ (List.mem_cons_self ..)
      -- the ids of the first group are above `i`, and so are their halves taken together
      have above : ∀ l ∈ lows, i.toNat < 65536 * key + l := by
        intro l member
        have inGroup : UInt32.ofNat (65536 * key + l) ∈ groupIds (key, lows) :=
          List.mem_map_of_mem member
        have less := below _ (List.mem_flatMap.2 ⟨_, List.mem_cons_self .., inGroup⟩)
        rwa [UInt32.lt_iff_toNat_lt, toNat_ofNat_halves (keyBound _ (List.mem_cons_self ..))
          (first.bounded l member)] at less
      by_cases same : key = i.toNat / 65536
      · have joined : LowHalves (i.toNat % 65536 :: lows) := by
          refine ⟨List.pairwise_cons.2 ⟨fun l member => ?_, first.ascending⟩, ?_⟩
          · have := above l member
            omega
          · exact List.forall_mem_cons.2 ⟨low, first.bounded⟩
        simp only [consId, same, if_true]
        rw [List.pairwise_cons] at keys
        refine ⟨List.pairwise_cons.2 ⟨?_, keys.2⟩, ?_, ?_, ?_⟩
        · exact fun g member => same ▸ keys.1 g member
        · exact List.forall_mem_cons.2 ⟨high, (List.forall_mem_cons.1 keyBound).2⟩
        · exact List.forall_mem_cons.2
            ⟨List.cons_ne_nil _ _, (List.forall_mem_cons.1 nonempty).2⟩
        · exact List.forall_mem_cons.2 ⟨joined, (List.forall_mem_cons.1 allLows).2⟩
      · have before : i.toNat / 65536 < key := by
          obtain ⟨l, member⟩ := List.exists_mem_of_ne_nil lows (nonempty _ (List.mem_cons_self ..))
          have := above l member
          have := first.bounded l member
          omega
        simp only [consId, same, if_false]
        refine ⟨List.pairwise_cons.2 ⟨List.forall_mem_cons.2 ⟨before, fun g member => ?_⟩, keys⟩,
          List.forall_mem_cons.2 ⟨high, keyBound⟩,
          List.forall_mem_cons.2 ⟨List.cons_ne_nil _ _, nonempty⟩,
          List.forall_mem_cons.2 ⟨single, allLows⟩⟩
        exact Nat.lt_trans before ((List.pairwise_cons.1 keys).1 g member)

theorem grouped_groups (s : IdSet) : Grouped (groups s) := by
  obtain ⟨ids, ascending⟩ := s
  show Grouped (ids.foldr consId [])
  induction ids with
  | nil => exact ⟨List.Pairwise.nil, by simp, by simp, by simp⟩
  | cons i rest ih =>
      rw [List.pairwise_cons] at ascending
      apply grouped_consId (ih ascending.2)
      rw [flatMap_foldr_consId]
      exact ascending.1

theorem Grouped.length_le {groups : List (Nat × List Nat)} (grouped : Grouped groups) :
    groups.length ≤ 65536 := by
  have ascending : (groups.map Prod.fst).Pairwise (· < ·) := by
    rw [List.pairwise_map]
    exact grouped.keys
  have bounded : ∀ key ∈ groups.map Prod.fst, key < 65536 := by
    intro key member
    obtain ⟨g, hg, rfl⟩ := List.mem_map.1 member
    exact grouped.keyBound g hg
  simpa using length_le_of_ascending ascending bounded

/-! ## Header -/

theorem number?_littleEndian {k n : Nat} (fits : n < Nat.pow 256 k) (rest : Bytes) :
    number? k (Bytes.littleEndian k n ++ rest) = .ok (n, rest) := by
  rw [number?, take?_append (Bytes.length_littleEndian k n)]
  simp only [Except.map, Bytes.ofLittleEndian_littleEndian fits]

/-- The header of a bitmap without runs. -/
theorem header?_plain {count : Nat} (few : count ≤ 65536) (rest : Bytes) :
    header? (Bytes.littleEndian 4 plainCookie ++ (Bytes.littleEndian 4 count ++ rest))
      = .ok (count, List.replicate count false, true, rest) := by
  have cookie := number?_littleEndian (k := 4) (n := plainCookie) (by decide)
    (Bytes.littleEndian 4 count ++ rest)
  have counted := number?_littleEndian (k := 4) (n := count)
    (Nat.lt_of_le_of_lt few (by decide)) rest
  have notMany : ¬ count > 65536 := Nat.not_lt.2 few
  simp only [header?, cookie, counted, notMany, bind, Except.bind, pure, Except.pure, if_true,
    if_false]

/-- The key of a group and one less than its size, as a header holds them. -/
def headerBytes (group : Nat × List Nat) : Bytes :=
  Bytes.littleEndian 2 group.1 ++ Bytes.littleEndian 2 (group.2.length - 1)

theorem length_flatMap_headerBytes (groups : List (Nat × List Nat)) :
    (groups.flatMap headerBytes).length = 4 * groups.length := by
  induction groups with
  | nil => rfl
  | cons group rest ih =>
      simp only [List.flatMap_cons, headerBytes, List.length_append, Bytes.length_littleEndian, ih,
        List.length_cons]
      omega

theorem twos_headers {groups : List (Nat × List Nat)} (grouped : Grouped groups) :
    twos (halves (groups.flatMap headerBytes))
      = groups.map fun g => (g.1, g.2.length - 1) := by
  obtain ⟨-, keyBound, -, lows⟩ := grouped
  induction groups with
  | nil => rfl
  | cons group rest ih =>
      rw [List.forall_mem_cons] at keyBound lows
      have less : group.2.length - 1 < 65536 := by
        have := lows.1.length_le
        omega
      rw [List.flatMap_cons, headerBytes, List.append_assoc,
        halves_littleEndian_append keyBound.1, halves_littleEndian_append less, twos,
        ih keyBound.2 lows.2, List.map_cons]

theorem length_offsets (start : Nat) (sizes : List Nat) :
    (offsets start sizes).length = sizes.length := by
  induction sizes generalizing start with
  | nil => rfl
  | cons size rest ih => simp only [offsets, List.length_cons, ih]

/-! ## Containers -/

/-- Bodies are read back one after another; none takes a byte of the next one. -/
theorem containers?_bodies {groups : List (Nat × List Nat)} (grouped : Grouped groups) :
    containers? (groups.map fun g => ((g.1, g.2.length - 1), false))
        (groups.map fun g => body g.2).flatten
      = .ok (groups.map fun g => (g.1, Container.ofLows g.2)) := by
  obtain ⟨-, -, nonempty, lows⟩ := grouped
  induction groups with
  | nil => rfl
  | cons group rest ih =>
      rw [List.forall_mem_cons] at nonempty lows
      have size : group.2.length - 1 + 1 = group.2.length := by
        have := List.length_pos_iff.2 nonempty.1
        omega
      have first := container?_body lows.1 (rest.map fun g => body g.2).flatten
      simp only [List.map_cons, List.flatten_cons, containers?, size, first, bind, Except.bind,
        ih nonempty.2 lows.2, pure, Except.pure]

/-- The parts of a written bitmap, in their order. -/
theorem write_eq (s : IdSet) :
    write s = Bytes.littleEndian 4 plainCookie ++ (Bytes.littleEndian 4 (groups s).length
      ++ ((groups s).flatMap headerBytes
        ++ ((offsets (8 + 8 * (groups s).length)
              (((groups s).map fun g => body g.2).map List.length)).flatMap (Bytes.littleEndian 4)
          ++ ((groups s).map fun g => body g.2).flatten))) := by
  simp only [← List.append_assoc]
  rfl

/-- A written bitmap is taken apart into the containers of its groups. -/
theorem parse_write (s : IdSet) :
    parse (write s) = .ok ((groups s).map fun g => (g.1, Container.ofLows g.2)) := by
  have grouped := grouped_groups s
  have headers := length_flatMap_headerBytes (groups s)
  have starts : ((offsets (8 + 8 * (groups s).length)
      (((groups s).map fun g => body g.2).map List.length)).flatMap (Bytes.littleEndian 4)).length
        = 4 * (groups s).length := by
    rw [length_flatMap_littleEndian, length_offsets, List.length_map, List.length_map]
  have paired : ((groups s).map fun g => (g.1, g.2.length - 1)).zip
      (List.replicate (groups s).length false)
        = (groups s).map fun g => ((g.1, g.2.length - 1), false) := by
    induction groups s with
    | nil => rfl
    | cons g rest ih => simp only [List.map_cons, List.length_cons, List.replicate_succ,
        List.zip_cons_cons, ih]
  rw [write_eq, parse, header?_plain grouped.length_le]
  simp only [bind, Except.bind, if_true, take?_append headers, take?_append starts,
    twos_headers grouped, paired, containers?_bodies grouped]

theorem check_containers {groups : List (Nat × List Nat)} (grouped : Grouped groups) :
    check (groups.map fun g => (g.1, Container.ofLows g.2)) = .ok () := by
  have keys : Container.increasing ((groups.map fun g => (g.1, Container.ofLows g.2)).map
      Prod.fst) = true := by
    apply increasing_of_ascending
    rw [List.map_map, List.pairwise_map]
    exact grouped.keys
  rw [check, if_pos keys]
  have lows := grouped.lows
  clear keys grouped
  induction groups with
  | nil => rfl
  | cons group rest ih =>
      rw [List.forall_mem_cons] at lows
      rw [List.map_cons, List.forM]
      simp only [Container.check_ofLows lows.1, bind, Except.bind]
      exact ih lows.2

theorem ids_containers {groups : List (Nat × List Nat)} (grouped : Grouped groups) :
    ids (groups.map fun g => (g.1, Container.ofLows g.2)) = groups.flatMap groupIds := by
  rw [ids, List.flatMap_map]
  apply List.flatMap_congr
  intro g member
  simp only [Container.members_ofLows (grouped.lows g member), groupIds]

/-- **Every set is read back from its portable bitmap.** -/
theorem read_write (s : IdSet) : read (write s) = .ok s := by
  have grouped := grouped_groups s
  simp only [read, parse_write, check_containers grouped, ids_containers grouped, flatMap_groups,
    IdSet.ofList_toList, bind, Except.bind, pure, Except.pure]

/-! ## Length -/

theorem size_eq (s : IdSet) : s.size = ((groups s).map fun g => g.2.length).sum := by
  rw [IdSet.size, ← flatMap_groups s, List.length_flatMap]
  simp only [groupIds, List.length_map]

/-- What stands before the bodies, and the bodies. -/
theorem length_write (s : IdSet) :
    (write s).length = 8 + 8 * (groups s).length
      + ((groups s).map fun g => (body g.2).length).sum := by
  simp only [write_eq, List.length_append, Bytes.length_littleEndian, length_flatMap_headerBytes,
    length_flatMap_littleEndian, length_offsets, List.length_map, List.length_flatten,
    List.map_map]
  simp only [Function.comp_def]
  omega

/-- Bodies together take two bytes for each member, or more than the bits of one container. -/
theorem sum_length_body_ge (groups : List (Nat × List Nat)) :
    2 * (groups.map fun g => g.2.length).sum ≤ (groups.map fun g => (body g.2).length).sum ∨
      bitsSize ≤ (groups.map fun g => (body g.2).length).sum := by
  induction groups with
  | nil => exact .inl (Nat.le_refl _)
  | cons group rest ih =>
      have first := length_body_ge group.2
      simp only [List.map_cons, List.sum_cons]
      omega

/-- A bitmap of more than seven members is longer than an array of seven ids. -/
theorem lt_length_write {s : IdSet} (many : 7 < s.size) : 28 < (write s).length := by
  rw [size_eq] at many
  have filled : 0 < (groups s).length := by
    cases found : groups s with
    | nil => rw [found] at many; exact absurd many (by decide)
    | cons group rest => exact Nat.succ_pos _
  have bodies := sum_length_body_ge (groups s)
  rw [length_write]
  simp only [bitsSize] at bodies
  omega

theorem write_ne_nil (s : IdSet) : write s ≠ [] := by
  intro empty
  have := length_write s
  rw [empty, List.length_nil] at this
  omega

end IndexSnapshot.Portable
