/-
# IndexSnapshot.Store.Basic -- the store and its read transactions

A store holds the raw tables of an index and its computed values.  A read transaction
is a copy of both, taken when it begins, so it never sees a later change and can be
read even after it has ended.  The store only counts how many are open.

* `begin` and `finish` open and close transactions; `finish_begin` says that a
  transaction leaves nothing behind.
* `put` changes one record; into a table that does not exist nothing can be put.

All this is said of values, which never change.  `IndexSnapshot.Store.World` says how a store
keeps its tables and computed values in objects that do, and what is copied for a transaction.
-/
import IndexSnapshot.Docids.Basic
import IndexSnapshot.Log.Entry
import IndexSnapshot.Snapshot.Name
import IndexSnapshot.Store.Entries
import IndexSnapshot.Store.Table
import IndexSnapshot.Value.Basic

namespace IndexSnapshot

set_option autoImplicit false

/-! ## Contents -/

/-- The computed values of an index, outside of any table. -/
structure MainData where
  settings : Entries String Value := []
  fieldsIds : Entries Int String := []
  fieldDistribution : Entries String Int := []
  documents : IdSet := .empty
  softDeleted : IdSet := .empty
  geoFaceted : IdSet := .empty
  numberFaceted : Entries Int IdSet := []
  stringFaceted : Entries Int IdSet := []
  externalSoft : Bytes := []
  externalHard : Bytes := []
  wordsFst : Bytes := []
  wordsPrefixesFst : Bytes := []
  /-- Nothing if the index has no list of stop words; else words without repetitions. -/
  stopWords : Option (List String) := none

/-- What a read transaction reads: the tables and computed values of one moment. -/
structure ReadTxn where
  tables : Entries String Table
  main : MainData

namespace ReadTxn

/-- The records of a table in ascending order of their keys, if the table exists. -/
def records? (txn : ReadTxn) (table : String) : Option (List RawRecord) :=
  (txn.tables.get? table).map Table.records

/-- The value of a setting; nothing if it is not set. -/
def setting (txn : ReadTxn) (name : String) : Value :=
  (txn.main.settings.get? name).getD .none

/-- The documents with a number in a field. -/
def numberFacetedIn (txn : ReadTxn) (fieldId : Int) : IdSet :=
  (txn.main.numberFaceted.get? fieldId).getD .empty

/-- The documents with a text in a field. -/
def stringFacetedIn (txn : ReadTxn) (fieldId : Int) : IdSet :=
  (txn.main.stringFaceted.get? fieldId).getD .empty

end ReadTxn

/-! ## The store -/

/-- A store: its tables, its computed values, and how many transactions are open. -/
structure Store where
  tables : Entries String Table
  main : MainData := {}
  openReaders : Nat := 0

namespace Store

/-- A store with the given tables, all of them empty. -/
def withTables (names : List String) : Store :=
  ⟨Entries.ofList (names.map fun name => (name, Table.empty)), {}, 0⟩

/-- A store with the tables of an index. -/
def standard : Store :=
  withTables (TableName.all.map TableName.text)

/-! ## Writing -/

/-- Makes sure that a table exists. -/
def createTable (s : Store) (table : String) : Store :=
  match s.tables.get? table with
  | some _ => s
  | none => { s with tables := s.tables.put table .empty }

/-- Inserts or replaces a record of a table, if the table exists. -/
def put? (s : Store) (table : String) (key value : Bytes) : Option Store :=
  (s.tables.get? table).map fun records =>
    { s with tables := s.tables.put table (records.put key value) }

/-- Gives a setting a value. -/
def setSetting (s : Store) (name : String) (value : Value) : Store :=
  { s with main := { s.main with settings := s.main.settings.put name value } }

/-- Replaces the computed values. -/
def setMain (s : Store) (main : MainData) : Store :=
  { s with main }

/-! ## Reading -/

/-- What the store holds at this moment. -/
def freeze (s : Store) : ReadTxn :=
  ⟨s.tables, s.main⟩

/-- Opens a read transaction. -/
def begin (s : Store) : ReadTxn × Store :=
  (s.freeze, { s with openReaders := s.openReaders + 1 })

/-- Closes one of the open read transactions. -/
def finish (s : Store) : Store :=
  { s with openReaders := s.openReaders - 1 }

theorem finish_begin (s : Store) : s.begin.2.finish = s := by
  cases s; rfl

/-! ## What is logged -/

/-- Said when the store has just opened a transaction. -/
def openedEntry (s : Store) : Log.Entry :=
  ⟨"dbsnap.store.memory", Log.debug,
    "Opened read transaction (" ++ toString s.openReaders ++ " open)", {}⟩

/-- Said when the store has just closed a transaction. -/
def closedEntry (s : Store) : Log.Entry :=
  ⟨"dbsnap.store.memory", Log.debug,
    "Closed read transaction (" ++ toString s.openReaders ++ " open)", {}⟩

end Store

end IndexSnapshot
