/-
# IndexSnapshot.Docids.Basic -- sets of document ids

A document id is a 32-bit word.  A set of them is kept as its members in strictly
ascending order.

* `ofList` collects any list of ids; `mem_ofList` says that it keeps exactly the
  members, and `ofList_toList` that it leaves a set alone.
* `ofInts` is the same from plain integers, and refuses the first one that is no id.
-/
import IndexSnapshot.Bytes.Field

namespace IndexSnapshot

set_option autoImplicit false

/-- A set of document ids, in ascending order. -/
structure IdSet where
  toList : List UInt32
  ascending : toList.Pairwise (· < ·)
  deriving DecidableEq

namespace IdSet

/-! ## Ascending lists -/

/-- Puts an id in front of a list unless the list starts with it already. -/
def consNew (i : UInt32) : List UInt32 → List UInt32
  | [] => [i]
  | j :: rest => if i = j then j :: rest else i :: j :: rest

/-- Drops every id that equals the one after it. -/
def squeeze (ids : List UInt32) : List UInt32 :=
  ids.foldr consNew []

theorem mem_consNew (i x : UInt32) (ids : List UInt32) :
    x ∈ consNew i ids ↔ x = i ∨ x ∈ ids := by
  cases ids with
  | nil => simp [consNew]
  | cons j rest =>
      by_cases h : i = j
      · subst h; simp [consNew]
      · simp [consNew, h]

theorem mem_squeeze (x : UInt32) (ids : List UInt32) : x ∈ squeeze ids ↔ x ∈ ids := by
  induction ids with
  | nil => simp [squeeze]
  | cons i rest ih =>
      show x ∈ consNew i (squeeze rest) ↔ _
      rw [mem_consNew, ih, List.mem_cons]

theorem pairwise_consNew {i : UInt32} {ids : List UInt32}
    (below : ∀ j ∈ ids, i ≤ j) (sorted : ids.Pairwise (· < ·)) :
    (consNew i ids).Pairwise (· < ·) := by
  cases ids with
  | nil => simp [consNew]
  | cons j rest =>
      by_cases h : i = j
      · simpa [consNew, h] using sorted
      · have first : i < j :=
          UInt32.lt_of_le_of_ne (below j (List.mem_cons_self ..)) h
        simp only [consNew, h, if_false, List.pairwise_cons] at sorted ⊢
        refine ⟨?_, sorted⟩
        intro k hk
        rcases List.mem_cons.1 hk with rfl | hk
        · exact first
        · exact UInt32.lt_trans first (sorted.1 k hk)

theorem pairwise_squeeze {ids : List UInt32} (sorted : ids.Pairwise (· ≤ ·)) :
    (squeeze ids).Pairwise (· < ·) := by
  induction ids with
  | nil => simp [squeeze]
  | cons i rest ih =>
      rw [List.pairwise_cons] at sorted
      apply pairwise_consNew
      · intro j hj
        exact sorted.1 j ((mem_squeeze j rest).1 hj)
      · exact ih sorted.2

theorem squeeze_of_pairwise {ids : List UInt32} (sorted : ids.Pairwise (· < ·)) :
    squeeze ids = ids := by
  induction ids with
  | nil => rfl
  | cons i rest ih =>
      rw [List.pairwise_cons] at sorted
      show consNew i (squeeze rest) = _
      rw [ih sorted.2]
      cases rest with
      | nil => rfl
      | cons j rest =>
          have : i ≠ j := UInt32.ne_of_lt (sorted.1 j (List.mem_cons_self ..))
          simp [consNew, this]

/-- The order by which ids are sorted. -/
def le (i j : UInt32) : Bool :=
  decide (i ≤ j)

theorem pairwise_sorted (ids : List UInt32) : (ids.mergeSort le).Pairwise (· ≤ ·) := by
  have : (ids.mergeSort le).Pairwise fun a b => le a b := List.pairwise_mergeSort
    (fun a b c hab hbc => by
      simp only [le, decide_eq_true_eq] at *
      exact UInt32.le_trans hab hbc)
    (fun a b => by
      simp only [le, Bool.or_eq_true, decide_eq_true_eq]
      exact UInt32.le_total a b) ids
  exact this.imp fun h => by simpa [le] using h

/-! ## Building sets -/

/-- The set of the ids of a list. -/
def ofList (ids : List UInt32) : IdSet :=
  ⟨squeeze (ids.mergeSort le), pairwise_squeeze (pairwise_sorted ids)⟩

/-- The set with no member. -/
def empty : IdSet :=
  ⟨[], List.Pairwise.nil⟩

instance : Membership UInt32 IdSet where
  mem s i := i ∈ s.toList

/-- How many members the set has. -/
def size (s : IdSet) : Nat :=
  s.toList.length

/-- The members of either set. -/
def union (s t : IdSet) : IdSet :=
  ofList (s.toList ++ t.toList)

theorem mem_ofList (i : UInt32) (ids : List UInt32) : i ∈ ofList ids ↔ i ∈ ids := by
  show i ∈ squeeze (ids.mergeSort le) ↔ _
  rw [mem_squeeze, List.mem_mergeSort]

theorem eq_of_toList {s t : IdSet} (h : s.toList = t.toList) : s = t := by
  cases s; cases t; cases h; rfl

theorem ofList_toList (s : IdSet) : ofList s.toList = s := by
  apply eq_of_toList
  show squeeze (s.toList.mergeSort le) = s.toList
  have sorted : s.toList.Pairwise fun a b => le a b :=
    s.ascending.imp fun h => by
      simpa [le] using UInt32.le_of_lt h
  rw [List.mergeSort_of_pairwise sorted, squeeze_of_pairwise s.ascending]

/-- A document id from an integer. -/
def id? (n : Int) : Except Refusal UInt32 :=
  if 0 ≤ n ∧ n < 0x100000000 then .ok (UInt32.ofNat n.toNat) else .error (.docid n)

/-- The set of a list of integers; the first one in the list that is no id decides
what is refused. -/
def ofInts (ids : List Int) : Except Refusal IdSet :=
  (ids.mapM id?).map ofList

/-! ## Views -/

/-- Puts a number in front of ascending runs, extending the first run if it touches. -/
def consRun (n : Nat) : List (Nat × Nat) → List (Nat × Nat)
  | [] => [(n, n)]
  | (first, last) :: rest =>
      if n + 1 = first then (n, last) :: rest else (n, n) :: (first, last) :: rest

/-- The maximal runs of consecutive members, as first and last member. -/
def runs (s : IdSet) : List (Nat × Nat) :=
  s.toList.foldr (fun i => consRun i.toNat) []

end IdSet

end IndexSnapshot
