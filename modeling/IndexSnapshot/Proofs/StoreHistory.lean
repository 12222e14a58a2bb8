/-
# IndexSnapshot.Proofs.StoreHistory -- what has happened to a store

A store is written to, and read transactions on it begin and end, in any order.  What has
happened is a list of events, and what a store should hold is said of that list alone: which
tables exist, which value was put last, and which transactions are open.  None of this depends
on what objects the computed values are made of.

* `TableExists` and `LastPut`: what the tables should be.  `Reflects` says that those of a
  store are so, and `reflects_run` that they always are.
* `readers_step`: transactions are only ever added, and hold what they were given.
* `CountsOpen` and `countsOpen_run`: how many transactions are open.
-/
import IndexSnapshot.Proofs.StoreTables

namespace IndexSnapshot

set_option autoImplicit false

/-! ## Tables -/

namespace Entries

variable {K V : Type} [DecidableEq K]

/-- Entries that are put in one after another are all there, and no others. -/
theorem get?_foldl_put {pairs : List (K × V)} {entries : Entries K V} {name : K} {value : V}
    (found : get? (pairs.foldl (fun entries (name, value) => put entries name value) entries)
      name = some value) : (name, value) ∈ pairs ∨ get? entries name = some value := by
  induction pairs generalizing entries with
  | nil => exact .inr found
  | cons pair rest ih =>
      obtain ⟨k, v⟩ := pair
      rcases ih found with member | before
      · exact .inl (List.mem_cons_of_mem _ member)
      · by_cases same : name = k
        · subst same
          rw [get?_put_self] at before
          cases before
          exact .inl List.mem_cons_self
        · rw [get?_put_of_ne entries v same] at before
          exact .inr before

theorem isSome_get?_foldl_put (pairs : List (K × V)) (entries : Entries K V) (name : K) :
    (get? (pairs.foldl (fun entries (name, value) => put entries name value) entries)
      name).isSome = true ↔
      name ∈ pairs.map Prod.fst ∨ (get? entries name).isSome = true := by
  induction pairs generalizing entries with
  | nil => simp
  | cons pair rest ih =>
      obtain ⟨k, v⟩ := pair
      rw [List.foldl_cons, ih, List.map_cons, List.mem_cons]
      by_cases same : name = k
      · subst same
        simp [get?_put_self]
      · simp [get?_put_of_ne entries v same, same]

end Entries

/-! ## What has happened -/

/-- A table was there from the beginning or has been created. -/
def TableExists (names : List String) (history : List StoreEvent) (table : String) : Prop :=
  table ∈ names ∨ .createTable table ∈ history

/-- The last value that was put for a key into a table while the table existed. -/
def LastPut (names : List String) (history : List StoreEvent) (table : String)
    (key value : Bytes) : Prop :=
  ∃ past future, history = past ++ .put table key value :: future ∧
    TableExists names past table ∧ ∀ later, .put table key later ∉ future

def StoreEvent.isBegin : StoreEvent → Bool
  | .begin => true
  | _ => false

/-- How many transactions have begun. -/
def begun (history : List StoreEvent) : Nat :=
  history.countP StoreEvent.isBegin

/-- A transaction has ended after it had begun. -/
def HasEnded (history : List StoreEvent) (txn : Nat) : Prop :=
  ∃ past failure future, history = past ++ .finish txn failure :: future ∧ txn < begun past

/-- An event of a longer list is the last one or one of those before. -/
theorem split_concat {history past future : List StoreEvent} {event other : StoreEvent}
    (split : history ++ [event] = past ++ other :: future) :
    (history = past ∧ event = other) ∨
      ∃ between, future = between ++ [event] ∧ history = past ++ other :: between := by
  rcases List.eq_nil_or_concat future with rfl | ⟨between, newest, rfl⟩
  · obtain ⟨same, last⟩ := List.append_inj' split rfl
    cases last
    exact .inl ⟨same, rfl⟩
  · rw [List.concat_eq_append, ← List.cons_append, ← List.append_assoc] at split
    obtain ⟨same, last⟩ := List.append_inj' split rfl
    cases last
    exact .inr ⟨between, List.concat_eq_append, same⟩

section Concat

variable {names : List String} {history : List StoreEvent} {event : StoreEvent} {table : String}
  {key value : Bytes}

theorem tableExists_concat :
    TableExists names (history ++ [event]) table ↔
      TableExists names history table ∨ event = .createTable table := by
  simp only [TableExists, List.mem_append, List.mem_singleton, or_assoc,
    eq_comm (a := StoreEvent.createTable table)]

theorem TableExists.mono {past : List StoreEvent} (there : TableExists names past table)
    (more : past ⊆ history) : TableExists names history table :=
  there.imp_right fun created => more created

theorem LastPut.tableExists (last : LastPut names history table key value) :
    TableExists names history table := by
  obtain ⟨past, future, rfl, there, -⟩ := last
  exact there.mono (List.subset_append_left _ _)

/-- One event later, the last put is that event or the one from before. -/
theorem lastPut_concat :
    LastPut names (history ++ [event]) table key value ↔
      (event = .put table key value ∧ TableExists names history table) ∨
      (LastPut names history table key value ∧ ∀ other, event ≠ .put table key other) := by
  constructor
  · rintro ⟨past, future, split, there, last⟩
    rcases split_concat split with ⟨rfl, rfl⟩ | ⟨between, rfl, rfl⟩
    · exact .inl ⟨rfl, there⟩
    · refine .inr ⟨⟨past, between, rfl, there, fun later member => ?_⟩, fun other same => ?_⟩
      · exact last later (List.mem_append_left _ member)
      · exact last other (same ▸ List.mem_append_right _ List.mem_cons_self)
  · rintro (⟨rfl, there⟩ | ⟨⟨past, future, rfl, there, last⟩, ne⟩)
    · exact ⟨history, [], rfl, there, fun _ => List.not_mem_nil⟩
    · refine ⟨past, future ++ [event], by simp, there, fun later member => ?_⟩
      rcases List.mem_append.1 member with member | member
      · exact last later member
      · exact ne later (List.mem_singleton.1 member).symm

theorem begun_concat :
    begun (history ++ [event]) = begun history + if event.isBegin then 1 else 0 := by
  simp only [begun, List.countP_append, List.countP_singleton]

theorem HasEnded.lt_begun {txn : Nat} (ended : HasEnded history txn) : txn < begun history := by
  obtain ⟨past, failure, future, rfl, before⟩ := ended
  rw [begun, List.countP_append]
  exact Nat.lt_add_right _ before

theorem hasEnded_concat {txn : Nat} :
    HasEnded (history ++ [event]) txn ↔
      HasEnded history txn ∨ ((∃ failure, event = .finish txn failure) ∧ txn < begun history) := by
  constructor
  · rintro ⟨past, failure, future, split, before⟩
    rcases split_concat split with ⟨rfl, rfl⟩ | ⟨between, -, rfl⟩
    · exact .inr ⟨⟨failure, rfl⟩, before⟩
    · exact .inl ⟨past, failure, between, rfl, before⟩
  · rintro (⟨past, failure, future, rfl, before⟩ | ⟨⟨failure, rfl⟩, before⟩)
    · exact ⟨past, failure, future ++ [event], by simp, before⟩
    · exact ⟨history, failure, [], rfl, before⟩

end Concat

/-! ## What a store holds -/

/-- A store has the tables that the history of a store with these tables says. -/
structure Reflects (names : List String) (history : List StoreEvent) (store : Store) : Prop where
  tables : ∀ table, (store.tables.get? table).isSome = true ↔ TableExists names history table
  records : ∀ table records, store.tables.get? table = some records → ∀ key value,
    records.get? key = some value ↔ LastPut names history table key value

namespace Reflects

variable {names : List String} {history : List StoreEvent} {store : Store} {event : StoreEvent}

theorem withTables (names : List String) : Reflects names [] (Store.withTables names) where
  tables table := by
    rw [Store.withTables, Entries.ofList, Entries.isSome_get?_foldl_put]
    simp [TableExists, Entries.get?]
  records table records found key value := by
    obtain member | found := Entries.get?_foldl_put found
    · obtain ⟨name, -, same⟩ := List.mem_map.1 member
      cases same
      refine iff_of_false (fun absent => by cases absent) ?_
      rintro ⟨past, future, split, -⟩
      simp at split
    · cases found

/-- Nothing has been put into a table that is not there. -/
theorem not_lastPut (reflects : Reflects names history store) {table : String}
    (missing : store.tables.get? table = none) (key value : Bytes) :
    ¬ LastPut names history table key value := fun last => by
  have there := (reflects.tables table).2 last.tableExists
  rw [missing] at there
  cases there

/-- An event that is not about tables. -/
theorem of_tables_eq (reflects : Reflects names history store) {after : Store}
    (same : after.tables = store.tables) (noPut : ∀ t k v, event ≠ .put t k v)
    (noCreate : ∀ t, event ≠ .createTable t) :
    Reflects names (history ++ [event]) after where
  tables table := by
    rw [same, reflects.tables, tableExists_concat, or_iff_left (noCreate table)]
  records table records found key value := by
    rw [reflects.records table records (same ▸ found) key value, lastPut_concat,
      or_iff_right fun put => noPut _ _ _ put.1, and_iff_left (noPut table key)]

theorem createTable (reflects : Reflects names history store) (table : String) :
    Reflects names (history ++ [.createTable table]) (store.createTable table) := by
  have last (t : String) (key value : Bytes) :
      LastPut names (history ++ [.createTable table]) t key value ↔
        LastPut names history t key value := by
    simp [lastPut_concat]
  unfold Store.createTable
  cases found : store.tables.get? table with
  | some records =>
      refine ⟨fun t => ?_, fun t records found key value => ?_⟩
      · rw [reflects.tables, tableExists_concat]
        refine ⟨.inl, fun there => there.elim id fun same => ?_⟩
        cases same
        exact (reflects.tables table).1 (found ▸ rfl)
      · rw [last]
        exact reflects.records t records found key value
  | none =>
      refine ⟨fun t => ?_, fun t records new key value => ?_⟩
      · rw [tableExists_concat]
        by_cases same : t = table
        · subst same
          simp [Entries.get?_put_self]
        · rw [Entries.get?_put_of_ne _ _ same, reflects.tables,
            or_iff_left fun create => same (StoreEvent.createTable.inj create).symm]
      · rw [last]
        by_cases same : t = table
        · subst same
          rw [Entries.get?_put_self] at new
          cases new
          exact iff_of_false (fun absent => by cases absent)
            (reflects.not_lastPut found key value)
        · rw [Entries.get?_put_of_ne _ _ same] at new
          exact reflects.records t records new key value

theorem put (reflects : Reflects names history store) (table : String) (key value : Bytes) :
    Reflects names (history ++ [.put table key value])
      ((store.put? table key value).getD store) := by
  have sameTables (t : String) :
      TableExists names (history ++ [.put table key value]) t ↔ TableExists names history t := by
    simp [tableExists_concat]
  have last_of_ne {t : String} {k : Bytes} (ne : ¬ (t = table ∧ k = key)) (v : Bytes) :
      LastPut names (history ++ [.put table key value]) t k v ↔ LastPut names history t k v := by
    have other (w : Bytes) : StoreEvent.put table key value ≠ .put t k w := fun same => by
      cases same
      exact ne ⟨rfl, rfl⟩
    rw [lastPut_concat, or_iff_right fun put => other v put.1, and_iff_left other]
  unfold Store.put?
  cases found : store.tables.get? table with
  | none =>
      refine ⟨fun t => (reflects.tables t).trans (sameTables t).symm,
        fun t records there k v => ?_⟩
      rw [last_of_ne]
      · exact reflects.records t records there k v
      · rintro ⟨rfl, -⟩
        exact absurd (found.symm.trans there) (by simp)
  | some records =>
      refine ⟨fun t => ?_, fun t new there k v => ?_⟩
      · rw [sameTables, ← reflects.tables]
        by_cases same : t = table
        · subst same
          simp [Entries.get?_put_self, found]
        · simp [Entries.get?_put_of_ne _ _ same]
      · by_cases same : t = table
        · subst same
          simp only [Option.map_some, Option.getD_some, Entries.get?_put_self,
            Option.some.injEq] at there
          subst there
          by_cases sameKey : k = key
          · subst sameKey
            have there := (reflects.tables t).1 (found ▸ rfl)
            simp [Table.get?_put_self, lastPut_concat, there]
          · rw [Table.get?_put_of_ne _ _ sameKey, last_of_ne fun both => sameKey both.2]
            exact reflects.records t records found k v
        · simp only [Option.map_some, Option.getD_some,
            Entries.get?_put_of_ne _ _ same] at there
          rw [last_of_ne fun both => same both.1]
          exact reflects.records t new there k v

end Reflects

/-! ## Runs -/

namespace World

variable {names : List String} {history : List StoreEvent} {world : World}

/-- Nothing but a put or the creation of a table changes what the tables of a store read. -/
theorem store_tables_step (apart : world.TablesApart) {event : StoreEvent}
    (noPut : ∀ t k v, event ≠ .put t k v) (noCreate : ∀ t, event ≠ .createTable t) :
    (world.step event).store.tables = world.store.tables := by
  rcases tables_step world event with same | ⟨table, create, -⟩
  · show (world.step event).tables.map _ = world.tables.map _
    rw [same]
    refine List.map_congr_left fun (name, ref) member => Prod.ext rfl ?_
    exact congrArg Table.ofEntries
      (contents_step world event rfl (apart.there name ref member) fun _ => noPut)
  · exact absurd create (noCreate table)

/-- **One event** keeps a store to its history. -/
theorem reflects_step (apart : world.TablesApart) (reflects : Reflects names history world.store)
    (event : StoreEvent) :
    Reflects names (history ++ [event]) (world.step event).store := by
  cases event with
  | put table key value =>
      have put := reflects.put table key value
      rw [← store_put? apart, Option.getD_map World.store world] at put
      exact put
  | createTable table => exact store_createTable apart table ▸ reflects.createTable table
  | _ =>
      exact reflects.of_tables_eq (store_tables_step apart nofun nofun) nofun nofun

/-- **A store has the tables that its history says**, after any events in any order. -/
theorem reflects_run (names : List String) (history : List StoreEvent) :
    Reflects names history (run names history).store := by
  induction history using List.reverseRecOn with
  | nil => exact store_withTables names ▸ Reflects.withTables names
  | append_singleton history event ih =>
      rw [run_concat]
      exact reflects_step (tablesApart_run names history) ih event

/-- The transaction that begins now, as it holds what it reads. -/
def opened (world : World) : TxnObject :=
  let tables := Heap.allocAll .rows world.store.tables world.heap
  ⟨tables.1, (world.main.copy tables.2).1⟩

/-- **Transactions are only ever added**, and hold what they were given. -/
theorem readers_step (world : World) (event : StoreEvent) :
    (world.step event).readers
      = world.readers ++ if event.isBegin then [world.opened] else [] := by
  cases event with
  | put table key value =>
      rcases step_put world table key value with same | ⟨ref, records, same⟩ <;> rw [same] <;>
        exact (List.append_nil _).symm
  | createTable table =>
      rcases step_createTable world table with same | same <;> rw [same] <;>
        exact (List.append_nil _).symm
  | finish txn failure =>
      obtain ⟨_, _, same⟩ := step_finish world txn failure
      rw [same]
      exact (List.append_nil _).symm
  | begin => rfl
  | _ => exact (List.append_nil _).symm

/-- A new store has never been read. -/
theorem withTables_eq (names : List String) :
    ∃ heap tables, start.heap.Extends heap ∧ withTables names = { start with heap, tables } := by
  induction names using List.reverseRecOn with
  | nil => exact ⟨_, _, .refl _, rfl⟩
  | append_singleton names name ih =>
      obtain ⟨heap, tables, extended, same⟩ := ih
      have last : withTables (names ++ [name]) = (withTables names).newTable name := by
        simp only [withTables, List.foldl_append, List.foldl_cons, List.foldl_nil]
      rw [last, same]
      exact ⟨_, _, extended.trans (.alloc heap .records []), rfl⟩

theorem length_readers_run (names : List String) (history : List StoreEvent) :
    (run names history).readers.length = begun history := by
  induction history using List.reverseRecOn with
  | nil =>
      obtain ⟨heap, tables, -, same⟩ := withTables_eq names
      exact congrArg (List.length ∘ World.readers) same
  | append_singleton history event ih =>
      rw [run_concat, readers_step, List.length_append, ih, begun_concat]
      cases event.isBegin <;> rfl

/-- A transaction is where it was when it began. -/
theorem readers_run (names : List String) (before after : List StoreEvent) :
    (run names (before ++ .begin :: after)).readers[begun before]?
      = some (run names before).opened := by
  induction after using List.reverseRecOn with
  | nil =>
      rw [run_concat, readers_step, ← length_readers_run names before]
      exact List.getElem?_concat_length
  | append_singleton after event ih =>
      have there := List.getElem?_eq_some_iff.1 ih
      rw [← List.cons_append, ← List.append_assoc, run_concat, readers_step,
        List.getElem?_append_left there.1]
      exact ih

/-- The open transactions are those that have begun and not ended, each of them once, and the
store counts them. -/
structure CountsOpen (history : List StoreEvent) (world : World) : Prop where
  nodup : world.live.Nodup
  mem_iff : ∀ txn, txn ∈ world.live ↔ txn < begun history ∧ ¬ HasEnded history txn
  count : world.openReaders = world.live.length

namespace CountsOpen

variable {world : World}

/-- An event that neither begins nor ends a transaction. -/
theorem of_live_eq (counts : CountsOpen history world) {after : World} {event : StoreEvent}
    (noBegin : event.isBegin = false) (noFinish : ∀ txn failure, event ≠ .finish txn failure)
    (same : after.live = world.live)
    (count : after.openReaders = world.openReaders) :
    CountsOpen (history ++ [event]) after := by
  refine ⟨same ▸ counts.nodup, ?_, by rw [count, same, counts.count]⟩
  intro txn
  rw [same, counts.mem_iff, begun_concat, noBegin, hasEnded_concat]
  simp [noFinish]

theorem begin (counts : CountsOpen history world)
    (begun_eq : world.readers.length = begun history) :
    CountsOpen (history ++ [.begin]) (world.step .begin) := by
  have fresh : world.readers.length ∉ world.live := by
    intro member
    have := ((counts.mem_iff _).1 member).1
    omega
  refine ⟨List.nodup_cons.2 ⟨fresh, counts.nodup⟩, ?_, ?_⟩
  · intro txn
    show txn ∈ world.readers.length :: world.live ↔ _
    rw [List.mem_cons, counts.mem_iff, begun_concat, hasEnded_concat, begun_eq]
    simp only [StoreEvent.isBegin, if_true, reduceCtorEq, exists_false, false_and, or_false]
    constructor
    · rintro (rfl | ⟨old, running⟩)
      · exact ⟨Nat.lt_succ_self _, fun ended => Nat.lt_irrefl _ ended.lt_begun⟩
      · exact ⟨Nat.lt_succ_of_lt old, running⟩
    · rintro ⟨old, running⟩
      rcases Nat.lt_succ_iff_lt_or_eq.1 old with old | rfl
      · exact .inr ⟨old, running⟩
      · exact .inl rfl
  · show world.openReaders + 1 = (world.readers.length :: world.live).length
    rw [List.length_cons, counts.count]

theorem close (counts : CountsOpen history world) (txn : Nat) (failure : Option Failure) :
    CountsOpen (history ++ [.finish txn failure]) (world.close txn) := by
  have ended (other : Nat) : HasEnded (history ++ [.finish txn failure]) other ↔
      HasEnded history other ∨ (other = txn ∧ other < begun history) := by
    simp [hasEnded_concat, eq_comm]
  have noBegin : begun (history ++ [.finish txn failure]) = begun history := begun_concat
  unfold World.close
  split
  · rename_i live
    refine ⟨counts.nodup.erase txn, ?_, ?_⟩
    · intro other
      rw [counts.nodup.mem_erase_iff, counts.mem_iff, noBegin, ended]
      constructor
      · rintro ⟨ne, old, running⟩
        exact ⟨old, fun ended => ended.elim running fun both => ne both.1⟩
      · rintro ⟨old, running⟩
        exact ⟨fun same => running (.inr ⟨same, old⟩), old, fun ended => running (.inl ended)⟩
    · show world.openReaders - 1 = _
      rw [List.length_erase_of_mem live, counts.count]
  · rename_i closed
    refine ⟨counts.nodup, ?_, counts.count⟩
    intro other
    rw [counts.mem_iff, noBegin, ended]
    refine and_congr_right fun old => not_congr ⟨.inl, ?_⟩
    rintro (ended | ⟨rfl, -⟩)
    · exact ended
    · exact Classical.byContradiction fun running => closed ((counts.mem_iff _).2 ⟨old, running⟩)

end CountsOpen

/-- **One event** keeps the count. -/
theorem countsOpen_step (counts : CountsOpen history world)
    (begun_eq : world.readers.length = begun history) (event : StoreEvent) :
    CountsOpen (history ++ [event]) (world.step event) := by
  cases event with
  | put table key value =>
      rcases step_put world table key value with same | ⟨ref, records, same⟩ <;> rw [same] <;>
        exact counts.of_live_eq rfl (by simp) rfl rfl
  | createTable table =>
      rcases step_createTable world table with same | same <;> rw [same] <;>
        exact counts.of_live_eq rfl (by simp) rfl rfl
  | begin => exact counts.begin begun_eq
  | finish txn failure => exact counts.close txn failure
  | _ => exact counts.of_live_eq rfl (by simp) rfl rfl

/-- **The store counts the open transactions**, after any events in any order. -/
theorem countsOpen_run (names : List String) (history : List StoreEvent) :
    CountsOpen history (run names history) := by
  induction history using List.reverseRecOn with
  | nil =>
      obtain ⟨heap, tables, -, same⟩ := withTables_eq names
      show CountsOpen [] (withTables names)
      rw [same]
      refine ⟨List.nodup_nil, fun txn => ?_, rfl⟩
      exact iff_of_false List.not_mem_nil fun both => Nat.not_lt_zero _ both.1
  | append_singleton history event ih =>
      rw [run_concat]
      exact countsOpen_step ih (length_readers_run names history) event

/-! ## What a transaction reads of the tables -/

/-- Nothing can be put into a table that is missing. -/
theorem put?_eq_none_of_missing (names : List String) (history : List StoreEvent)
    {table : String} (missing : ¬ TableExists names history table) (key value : Bytes) :
    (run names history).put? table key value = none := by
  have absent : (run names history).store.put? table key value = none := by
    rw [Store.put?, Option.map_eq_none_iff, ← Option.not_isSome_iff_eq_none,
      (reflects_run names history).tables]
    exact missing
  rw [← store_put? (tablesApart_run names history), Option.map_eq_none_iff] at absent
  exact absent

/-- The computed values are copied behind the lists of records. -/
theorem grows_opened (world : World) :
    (Heap.allocAll .rows world.store.tables world.heap).2.Grows world.begin.heap :=
  MainObject.grows_copy world.main _

/-- A transaction has lists of records of its own, which are those of the tables. -/
theorem opened_tables (world : World) :
    (∀ name ref, (name, ref) ∈ world.opened.tables → ref.address < world.begin.heap.next) ∧
      (world.opened.view world.begin.heap).tables = world.store.tables := by
  have new (name : String) (ref : Ref .rows) (member : (name, ref) ∈ world.opened.tables) :=
    Heap.new_of_mem_allocAll .rows world.store.tables world.heap member
  refine ⟨fun name ref member => ?_, ?_⟩
  · exact Nat.lt_of_lt_of_le (new name ref member).2 world.grows_opened.next_le
  · refine Eq.trans (List.map_congr_left fun (name, ref) member => Prod.ext rfl ?_)
      (Heap.read_allocAll .rows world.store.tables world.heap)
    exact world.grows_opened.toExtends.read (new name ref member).2

/-- **A transaction reads the tables of its beginning**, whatever happens later. -/
theorem opened_tables_run (names : List String) (before after : List StoreEvent) :
    ((run names before).opened.view (run names (before ++ .begin :: after)).heap).tables
      = (run names before).store.tables := by
  obtain ⟨there, tables⟩ := (run names before).opened_tables
  have kept (name : String) (ref : Ref .rows)
      (member : (name, ref) ∈ (run names before).opened.tables) :
      ref.address < (run names (before ++ .begin :: after)).heap.next ∧
        (run names (before ++ .begin :: after)).heap.read ref
          = (run names before).begin.heap.read ref := by
    induction after using List.reverseRecOn with
    | nil =>
        rw [run_concat]
        exact ⟨there name ref member, rfl⟩
    | append_singleton after event ih =>
        rw [← List.cons_append, ← List.append_assoc, run_concat]
        have isTable : ref.place.kind.isTable = true := rfl
        have rows : ref.place.kind ≠ .records := nofun
        exact ⟨Nat.lt_of_lt_of_le ih.1 (next_le_step _ event),
          (contents_step _ event isTable ih.1 fun records => absurd records rows).trans ih.2⟩
  refine Eq.trans (List.map_congr_left fun (name, ref) member => ?_) tables
  exact Prod.ext rfl (kept name ref member).2

end World

end IndexSnapshot
