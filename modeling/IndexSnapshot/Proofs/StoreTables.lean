/-
# IndexSnapshot.Proofs.StoreTables -- the tables of a store

A table is an object that a put changes in place, and its records are kept in the order in
which their keys were first put.  What a store reads is nevertheless what it would read if
each table were kept sorted: records that are sorted when they are read are those of a table
into which they are put one by one.  Nothing but a put changes a table, whatever objects the
fields of the computed values are given.

* `Table.ofEntries_put`: sorting what has been put.
* `World.TablesApart`: the tables of a store are there, and no two of them are the same;
  `tablesApart_run`.
* `store_withTables`, `store_put?` and `store_createTable`: what a store reads at first, and
  after a change of its tables.
* `contents_step`: no event changes a table, but for a put.
-/
import IndexSnapshot.Proofs.FieldObjects
import IndexSnapshot.Store.World
import Mathlib.Data.List.Induction

namespace IndexSnapshot

set_option autoImplicit false

/-! ## Named things -/

namespace Entries

variable {K W : Type} [DecidableEq K] {name : K}

/-- Writing to one of several different objects gives its name another content, and no other. -/
theorem map_read_write {kind : Kind} {refs : Entries K (Ref kind)} {ref : Ref kind} (heap : Heap)
    (different : (refs.map fun entry => entry.2).Nodup) (found : get? refs name = some ref)
    (content : kind.Content) (g : kind.Content → W) :
    (refs.map fun (k, other) => (k, g ((heap.write ref content).read other)))
      = put (refs.map fun (k, other) => (k, g (heap.read other))) name (g content) := by
  induction refs with
  | nil => cases found
  | cons entry rest ih =>
      obtain ⟨k, first⟩ := entry
      obtain ⟨fresh, later⟩ := List.nodup_cons.1 different
      by_cases same : k = name
      · subst same
        simp only [get?, if_pos, Option.some.injEq] at found
        subst found
        simp only [List.map_cons, put, if_pos, Heap.read_write_self]
        refine congrArg _ (List.map_congr_left ?_)
        rintro ⟨k, other⟩ member
        have ne : other ≠ first := fun again =>
          fresh (again ▸ List.mem_map_of_mem member (f := fun entry => entry.2))
        rw [Heap.read_write_of_ne _ _ _ ne]
      · simp only [get?, if_neg same] at found
        have ne : first ≠ ref := fun again =>
          fresh (again ▸ List.mem_map_of_mem (mem_of_get? found) (f := fun entry => entry.2))
        simp only [List.map_cons, put, if_neg same, Heap.read_write_of_ne _ _ _ ne]
        rw [ih later found]

end Entries

namespace Table

/-- The value of a key stands in the only record with that key. -/
theorem find?_eq_some_iff {records : List RawRecord}
    (ascending : records.Pairwise fun r s => r.1 < s.1) {key value : Bytes} :
    find? key records = some value ↔ (key, value) ∈ records := by
  induction records with
  | nil => simp [find?]
  | cons r rest ih =>
      obtain ⟨k, v⟩ := r
      rw [List.pairwise_cons] at ascending
      by_cases same : k = key
      · subst same
        -- another record with this key would have to come after itself
        have once : (k, value) ∉ rest := fun member =>
          List.lt_irrefl k (ascending.1 _ member)
        simp [find?, once, eq_comm]
      · simp [find?, same, Ne.symm same, ih ascending.2]

theorem mem_records_iff (t : Table) {key value : Bytes} :
    (key, value) ∈ t.records ↔ t.get? key = some value :=
  (find?_eq_some_iff t.ascending).symm

/-- A table is what its keys have. -/
theorem ext_get? {t u : Table} (same : ∀ key, t.get? key = u.get? key) : t = u := by
  have members (r : RawRecord) : r ∈ t.records ↔ r ∈ u.records := by
    rw [mem_records_iff, mem_records_iff, same]
  have once (v : Table) : v.records.Nodup :=
    v.ascending.imp fun {r s} below (again : r = s) => List.lt_irrefl s.1 (again ▸ below)
  have perm := (List.perm_ext_iff_of_nodup (once t) (once u)).2 members
  have records : t.records = u.records :=
    perm.eq_of_pairwise (fun r s _ _ below above => absurd (List.lt_trans below above)
      (List.lt_irrefl _)) t.ascending u.ascending
  cases t
  cases u
  cases records
  rfl

/-- **Sorting what has been put** is putting it into the table. -/
theorem ofEntries_put (entries : Entries Bytes Bytes) (key value : Bytes) :
    ofEntries (entries.put key value) = (ofEntries entries).put key value := by
  refine ext_get? fun other => ?_
  rw [get?_ofEntries]
  by_cases same : other = key
  · subst same
    rw [Entries.get?_put_self, get?_put_self]
  · rw [Entries.get?_put_of_ne _ _ same, get?_put_of_ne _ _ same, get?_ofEntries]

end Table

/-! ## What is read -/

/-- Computed values read the same as long as nothing but tables changes. -/
theorem MainObject.view_congr {main : MainObject} {old new : Heap}
    (same : ∀ field : MainField, ∀ place ∈ field.reach old main,
      new.contents place = old.contents place) : main.view new = main.view old := by
  refine MainField.ext fun field => ?_
  rw [get_view, get_view]
  exact FieldShape.read_congr (same field)

namespace World

/-- The tables of a store are there, and no two of them are the same object. -/
structure TablesApart (world : World) : Prop where
  there : ∀ name ref, (name, ref) ∈ world.tables → ref.address < world.heap.next
  different : (world.tables.map fun entry => entry.2).Nodup

variable {world : World}

/-- What a put does, as far as one can read. -/
theorem store_put? (apart : world.TablesApart) (table : String) (key value : Bytes) :
    (world.put? table key value).map World.store = world.store.put? table key value := by
  have found : world.store.tables.get? table
      = (world.tables.get? table).map world.heap.sorted :=
    Entries.get?_map_values world.heap.sorted world.tables table
  rw [put?, Store.put?, found]
  cases named : world.tables.get? table with
  | none => rfl
  | some ref =>
      let records : Entries Bytes Bytes := world.heap.read ref
      have tables := Entries.map_read_write world.heap apart.different named
        (records.put key value) Table.ofEntries
      have main : world.main.view (world.heap.write ref (records.put key value))
          = world.main.view world.heap :=
        MainObject.view_congr fun field place member =>
          world.heap.contents_write_of_ne ref _ (FieldShape.ne_table_of_mem_reach rfl member)
      rw [Table.ofEntries_put] at tables
      exact congrArg some (Store.mk.injEq .. ▸ ⟨tables, main, rfl⟩)

theorem store_newTable (apart : world.TablesApart) (table : String) :
    (world.newTable table).store
      = { world.store with tables := world.store.tables.put table .empty } := by
  let heap := (world.heap.alloc .records []).2
  have extended : world.heap.Extends heap := .alloc world.heap .records []
  have tables : (world.newTable table).store.tables
      = world.store.tables.put table .empty := by
    refine (Entries.map_put heap.sorted world.tables table ⟨world.heap.next⟩).trans ?_
    congr 1
    · refine List.map_congr_left ?_
      rintro ⟨name, ref⟩ member
      exact Prod.ext rfl (congrArg Table.ofEntries (extended.read (apart.there name ref member)))
    · exact congrArg Table.ofEntries (world.heap.read_alloc .records [])
  have main : world.main.view heap = world.main.view world.heap :=
    MainObject.view_congr fun field place member =>
      world.heap.contents_alloc_of_ne .records [] (FieldShape.ne_table_of_mem_reach rfl member)
  exact Store.mk.injEq .. ▸ ⟨tables, main, rfl⟩

/-- What the creation of a table does, as far as one can read. -/
theorem store_createTable (apart : world.TablesApart) (table : String) :
    (world.createTable table).store = world.store.createTable table := by
  have found : world.store.tables.get? table
      = (world.tables.get? table).map world.heap.sorted :=
    Entries.get?_map_values world.heap.sorted world.tables table
  rw [createTable, Store.createTable, found]
  cases world.tables.get? table with
  | some ref => rfl
  | none => exact store_newTable apart table

/-! ## The tables along a run -/

/-- What is written to an object of another kind does not change a table. -/
theorem contents_write_of_isTable {place : Place} (isTable : place.kind.isTable = true)
    (heap : Heap) {kind : Kind} (notTable : kind.isTable = false) (ref : Ref kind)
    (content : kind.Content) : (heap.write ref content).contents place = heap.contents place :=
  heap.contents_write_of_ne ref content fun same =>
    Heap.Grows.kind_ne notTable isTable (congrArg Place.kind same)

/-- A put changes the heap, if anything. -/
theorem step_put (world : World) (table : String) (key value : Bytes) :
    world.step (.put table key value) = world ∨
      ∃ (ref : Ref .records) (records : Entries Bytes Bytes),
        world.step (.put table key value) = { world with heap := world.heap.write ref records } := by
  have put : world.step (.put table key value) = (world.put? table key value).getD world := rfl
  rw [put, put?]
  cases world.tables.get? table with
  | none => exact .inl rfl
  | some ref =>
      exact .inr ⟨ref, Entries.put (world.heap.read ref : Entries Bytes Bytes) key value, rfl⟩

theorem step_createTable (world : World) (table : String) :
    world.step (.createTable table) = world ∨
      world.step (.createTable table) = world.newTable table := by
  show world.createTable table = world ∨ world.createTable table = _
  unfold createTable
  cases world.tables.get? table with
  | some _ => exact .inl rfl
  | none => exact .inr rfl

/-- The end of a transaction is a matter of counting. -/
theorem step_finish (world : World) (txn : Nat) (failure : Option Failure) :
    ∃ openReaders live, world.step (.finish txn failure)
      = { world with openReaders := openReaders, live := live } := by
  show ∃ openReaders live, world.close txn = _
  unfold close
  split
  · exact ⟨_, _, rfl⟩
  · exact ⟨world.openReaders, world.live, rfl⟩

theorem extends_begin (world : World) : world.heap.Extends world.begin.heap :=
  (Heap.extends_allocAll .rows world.store.tables world.heap).trans
    (MainObject.grows_copy world.main
      (Heap.allocAll .rows world.store.tables world.heap).2).toExtends

/-- The objects stay where they are. -/
theorem next_le_step (world : World) (event : StoreEvent) :
    world.heap.next ≤ (world.step event).heap.next := by
  cases event with
  | put table key value =>
      rcases step_put world table key value with same | ⟨ref, records, same⟩ <;> rewrite [same] <;>
        exact Nat.le_refl _
  | createTable table =>
      rcases step_createTable world table with same | same <;> rewrite [same]
      · exact Nat.le_refl _
      · exact Nat.le_succ _
  | setSetting | shareSetting | share => exact Nat.le_refl _
  | replace field new => exact (FieldShape.made_make new world.heap).grows.next_le
  | refill field new =>
      show _ ≤ (field.shape.refill (world.main field) new world.heap).2.next
      rcases FieldShape.refill_cases (world.main field) new world.heap with
        same | ⟨kind, ref, filling, later, same, -, grows, -⟩ <;> rewrite [same]
      · exact (FieldShape.made_make new world.heap).grows.next_le
      · exact grows.next_le
  | addIds field ids =>
      show _ ≤ (world.addIds field ids).heap.next
      unfold addIds
      split <;> exact Nat.le_refl _
  | begin => exact world.extends_begin.next_le
  | finish txn failure =>
      obtain ⟨_, _, same⟩ := step_finish world txn failure
      rewrite [same]
      exact Nat.le_refl _

/-- **No event changes a table**, but for a put, which changes one of the store's. -/
theorem contents_step (world : World) (event : StoreEvent) {place : Place}
    (isTable : place.kind.isTable = true) (there : place.address < world.heap.next)
    (noPut : place.kind = .records → ∀ table key value, event ≠ .put table key value) :
    (world.step event).heap.contents place = world.heap.contents place := by
  cases event with
  | put table key value =>
      rcases step_put world table key value with same | ⟨ref, records, same⟩ <;> rw [same]
      exact world.heap.contents_write_of_ne ref records fun same =>
        noPut (congrArg Place.kind same) table key value rfl
  | createTable table =>
      rcases step_createTable world table with same | same <;> rw [same]
      exact (Heap.Extends.alloc world.heap .records []).contents place there
  | setSetting name value => exact contents_write_of_isTable isTable world.heap rfl _ _
  | shareSetting name held => exact contents_write_of_isTable isTable world.heap rfl _ _
  | replace field new => exact (FieldShape.made_make new world.heap).grows.tables place isTable
  | refill field new =>
      show (field.shape.refill (world.main field) new world.heap).2.contents place = _
      rcases FieldShape.refill_cases (world.main field) new world.heap with
        same | ⟨kind, ref, filling, later, same, root, grows, -⟩ <;> rw [same]
      · exact (FieldShape.made_make new world.heap).grows.tables place isTable
      · exact (contents_write_of_isTable isTable later (FieldShape.kind_of_mem_roots root).2 ref
          filling).trans (grows.tables place isTable)
  | addIds field ids =>
      show (world.addIds field ids).heap.contents place = _
      unfold addIds
      split
      · rfl
      · exact contents_write_of_isTable isTable world.heap rfl _ _
  | share field slot => rfl
  | begin => exact world.extends_begin.contents place there
  | finish txn failure =>
      obtain ⟨_, _, same⟩ := step_finish world txn failure
      rw [same]

/-- A store gets a table only when one is created. -/
theorem tables_step (world : World) (event : StoreEvent) :
    (world.step event).tables = world.tables ∨
      ∃ table, event = .createTable table ∧ world.step event = world.newTable table := by
  cases event with
  | put table key value =>
      rcases step_put world table key value with same | ⟨ref, records, same⟩ <;> rw [same] <;>
        exact .inl rfl
  | createTable table =>
      rcases step_createTable world table with same | same
      · exact .inl (by rw [same])
      · exact .inr ⟨table, rfl, same⟩
  | finish txn failure =>
      obtain ⟨_, _, same⟩ := step_finish world txn failure
      exact .inl (by rw [same])
  | _ => exact .inl rfl

theorem TablesApart.newTable (apart : world.TablesApart) (table : String) :
    (world.newTable table).TablesApart where
  there name ref member := by
    rcases Entries.mem_put member with new | old
    · cases new
      exact Nat.lt_succ_self _
    · exact Nat.lt_succ_of_lt (apart.there name ref old)
  different := by
    refine Entries.nodup_put apart.different fun again => ?_
    obtain ⟨⟨name, ref⟩, member, same⟩ := List.mem_map.1 again
    have there := apart.there name ref member
    rw [show ref = ⟨world.heap.next⟩ from same] at there
    exact Nat.lt_irrefl _ there

theorem tablesApart_step (apart : world.TablesApart) (event : StoreEvent) :
    (world.step event).TablesApart := by
  rcases tables_step world event with same | ⟨table, -, same⟩
  · refine ⟨fun name ref member => ?_, same ▸ apart.different⟩
    exact Nat.lt_of_lt_of_le (apart.there name ref (same ▸ member)) (next_le_step world event)
  · exact same ▸ apart.newTable table

theorem store_start : start.store = ⟨[], {}, 0⟩ := by
  have main : start.main.view start.heap = {} := MainField.ext fun field => by
    rw [MainObject.get_view]
    exact (MainObject.built_ofData {} Heap.empty).read field field.mem_all
  exact Store.mk.injEq .. ▸ ⟨rfl, main, rfl⟩

/-- Tables that are made one after another are apart. -/
theorem tablesApart_foldl_newTable (names : List String) (apart : world.TablesApart) :
    (names.foldl newTable world).TablesApart ∧
      (names.foldl newTable world).store
        = { world.store with
            tables := (names.map fun name => (name, Table.empty)).foldl
              (fun entries (name, table) => entries.put name table) world.store.tables } := by
  induction names generalizing world with
  | nil => exact ⟨apart, rfl⟩
  | cons name rest ih =>
      obtain ⟨others, read⟩ := ih (apart.newTable name)
      refine ⟨others, read.trans ?_⟩
      rw [store_newTable apart]
      rfl

theorem tablesApart_start : start.TablesApart :=
  ⟨fun _ _ => nofun, List.nodup_nil⟩

theorem tablesApart_withTables (names : List String) : (withTables names).TablesApart :=
  (tablesApart_foldl_newTable names tablesApart_start).1

/-- A new store has the tables that it was given the names of. -/
theorem store_withTables (names : List String) :
    (withTables names).store = Store.withTables names := by
  have read := (tablesApart_foldl_newTable names tablesApart_start).2
  rw [store_start] at read
  exact read

/-- **The tables of a store stay apart**, after any events in any order. -/
theorem tablesApart_run (names : List String) (history : List StoreEvent) :
    (run names history).TablesApart := by
  induction history using List.reverseRecOn with
  | nil => exact tablesApart_withTables names
  | append_singleton history event ih =>
      rw [run_concat]
      exact tablesApart_step ih event

end World

end IndexSnapshot
