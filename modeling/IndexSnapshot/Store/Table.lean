/-
# IndexSnapshot.Store.Table -- the raw records of a table

A table holds at most one value for each key, and its records are read in bytewise
ascending order of their keys; they are kept in that order.

* `put` inserts a record, or replaces the one with the same key.
* `get?_put_self` and `get?_put_of_ne` say what a table holds afterwards.
* `ofEntries` sorts records that are kept in another order; `get?_ofEntries`.
-/
import IndexSnapshot.Bytes.Basic
import IndexSnapshot.Store.Entries

namespace IndexSnapshot

set_option autoImplicit false

/-- A raw key and its raw value. -/
abbrev RawRecord := Bytes × Bytes

/-- The records of a table in ascending order of their keys. -/
structure Table where
  records : List RawRecord
  ascending : records.Pairwise fun r s => r.1 < s.1

namespace Table

/-- The table without records. -/
def empty : Table :=
  ⟨[], List.Pairwise.nil⟩

/-- Puts a record into its place among ascending records. -/
def insert (key value : Bytes) : List RawRecord → List RawRecord
  | [] => [(key, value)]
  | (k, v) :: rest =>
      if key = k then (key, value) :: rest
      else if key < k then (key, value) :: (k, v) :: rest
      else (k, v) :: insert key value rest

/-- The value of a key among records. -/
def find? (key : Bytes) : List RawRecord → Option Bytes
  | [] => none
  | (k, v) :: rest => if k = key then some v else find? key rest

theorem mem_insert {key value : Bytes} {records : List RawRecord} {r : RawRecord}
    (h : r ∈ insert key value records) : r = (key, value) ∨ r ∈ records := by
  induction records with
  | nil => simpa [insert] using h
  | cons e rest ih =>
      obtain ⟨k, v⟩ := e
      simp only [insert] at h
      split at h
      · rcases List.mem_cons.1 h with h | h
        · exact .inl h
        · exact .inr (List.mem_cons_of_mem _ h)
      · split at h
        · rcases List.mem_cons.1 h with h | h
          · exact .inl h
          · exact .inr h
        · rcases List.mem_cons.1 h with h | h
          · exact .inr (h ▸ List.mem_cons_self ..)
          · rcases ih h with h | h
            · exact .inl h
            · exact .inr (List.mem_cons_of_mem _ h)

/-- Of two keys neither equal nor in order, the second comes first. -/
theorem lt_of_ne_of_not_lt {k l : Bytes} (ne : k ≠ l) (not : ¬ k < l) : l < k := by
  apply Decidable.byContradiction
  intro h
  exact ne (List.le_antisymm (List.not_lt.1 h) (List.not_lt.1 not))

theorem pairwise_insert (key value : Bytes) {records : List RawRecord}
    (sorted : records.Pairwise fun r s => r.1 < s.1) :
    (insert key value records).Pairwise fun r s => r.1 < s.1 := by
  induction records with
  | nil => simp [insert]
  | cons e rest ih =>
      obtain ⟨k, v⟩ := e
      rw [List.pairwise_cons] at sorted
      simp only [insert]
      split
      · rename_i same
        subst same
        exact List.pairwise_cons.2 sorted
      · split
        · rename_i below
          refine List.pairwise_cons.2 ⟨?_, List.pairwise_cons.2 sorted⟩
          intro s hs
          rcases List.mem_cons.1 hs with rfl | hs
          · exact below
          · exact List.lt_trans below (sorted.1 s hs)
        · rename_i ne not
          refine List.pairwise_cons.2 ⟨?_, ih sorted.2⟩
          intro s hs
          rcases mem_insert hs with rfl | hs
          · exact lt_of_ne_of_not_lt ne not
          · exact sorted.1 s hs

/-- Inserts a record, or replaces the one with the same key. -/
def put (t : Table) (key value : Bytes) : Table :=
  ⟨insert key value t.records, pairwise_insert key value t.ascending⟩

/-- The value of a key. -/
def get? (t : Table) (key : Bytes) : Option Bytes :=
  find? key t.records

theorem get?_put_self (t : Table) (key value : Bytes) :
    (t.put key value).get? key = some value := by
  show find? key (insert key value t.records) = some value
  induction t.records with
  | nil => simp [insert, find?]
  | cons e rest ih =>
      obtain ⟨k, v⟩ := e
      simp only [insert]
      split
      · simp [find?]
      · split
        · simp [find?]
        · rename_i ne _
          simp [find?, Ne.symm ne, ih]

theorem get?_put_of_ne (t : Table) {key other : Bytes} (value : Bytes) (ne : other ≠ key) :
    (t.put key value).get? other = t.get? other := by
  show find? other (insert key value t.records) = find? other t.records
  induction t.records with
  | nil => simp [insert, find?, Ne.symm ne]
  | cons e rest ih =>
      obtain ⟨k, v⟩ := e
      simp only [insert]
      split
      · rename_i same
        subst same
        simp [find?, Ne.symm ne]
      · split
        · simp [find?, Ne.symm ne]
        · simp [find?, ih]

/-- The table with the given entries. -/
def ofEntries (entries : Entries Bytes Bytes) : Table :=
  entries.foldr (fun (key, value) table => table.put key value) empty

theorem get?_ofEntries (entries : Entries Bytes Bytes) (key : Bytes) :
    (ofEntries entries).get? key = entries.get? key := by
  induction entries with
  | nil => rfl
  | cons entry rest ih =>
      obtain ⟨k, v⟩ := entry
      show ((ofEntries rest).put k v).get? key = _
      by_cases same : key = k
      · subst same
        rw [get?_put_self, Entries.get?, if_pos rfl]
      · rw [get?_put_of_ne _ _ same, Entries.get?, if_neg (Ne.symm same), ih]

end Table

end IndexSnapshot
