/-
# IndexSnapshot.Store.World -- a store and its transactions, object by object

What a store does to its objects, and what it hands to a transaction.  Each table is an
object that a put changes in place, and so are the dictionary of settings and the sets of
ids.  A transaction gets a list of the records of each table and a copy of the computed
values, all of them objects of its own but for the sets in the values of settings.

A store takes the objects that it is given as they are: if a field or a setting is given
objects that exist already, then whoever else holds them sees what becomes of them.

* `World.store` and `World.txns`: what a store and its transactions read at this moment.
* `World.step` and `World.run`: what an event does, and what becomes of a new store.
-/
import IndexSnapshot.Failure
import IndexSnapshot.Store.Objects

namespace IndexSnapshot

set_option autoImplicit false

/-- The records of a table, sorted. -/
def Heap.sorted (heap : Heap) (ref : Ref .records) : Table :=
  Table.ofEntries (heap.read ref)

/-- A read transaction, as it holds what it reads. -/
structure TxnObject where
  tables : Entries String (Ref .rows)
  main : MainObject

/-- What a transaction reads. -/
def TxnObject.view (heap : Heap) (txn : TxnObject) : ReadTxn where
  tables := txn.tables.map fun (name, ref) => (name, heap.read ref)
  main := txn.main.view heap

/-- A store with the transactions that were begun on it, in order, and the numbers of those
that are open. -/
structure World where
  heap : Heap
  tables : Entries String (Ref .records)
  main : MainObject
  openReaders : Nat := 0
  readers : List TxnObject := []
  live : List Nat := []

/-! ## Events -/

/-- What can happen to a store. -/
inductive StoreEvent where
  | put (table : String) (key value : Bytes)
  | createTable (table : String)
  | setSetting (name : String) (value : Value)
  /-- A field gets new objects. -/
  | replace (field : MainField) (new : field.Content)
  /-- The objects of a field get another content. -/
  | refill (field : MainField) (new : field.Content)
  | addIds (field : IdField) (ids : IdSet)
  /-- A field gets objects that exist already. -/
  | share (field : MainField) (slot : field.shape.Slot)
  /-- A setting gets a value in which there are sets that exist already. -/
  | shareSetting (name : String) (held : Held)
  | begin
  /-- The transaction with a number ends, also if something fails in it. -/
  | finish (txn : Nat) (failure : Option Failure)

namespace World

/-! ## Reading -/

/-- What a store holds at this moment. -/
def store (world : World) : Store where
  tables := world.tables.map fun (name, ref) => (name, world.heap.sorted ref)
  main := world.main.view world.heap
  openReaders := world.openReaders

/-- What the transactions read at this moment. -/
def txns (world : World) : List ReadTxn :=
  world.readers.map (TxnObject.view world.heap)

/-! ## Tables -/

/-- Makes a table without records. -/
def newTable (world : World) (table : String) : World :=
  let made := world.heap.alloc .records []
  { world with heap := made.2, tables := world.tables.put table made.1 }

/-- Makes sure that a table exists. -/
def createTable (world : World) (table : String) : World :=
  match world.tables.get? table with
  | some _ => world
  | none => world.newTable table

/-- Inserts or replaces a record of a table, if the table exists. -/
def put? (world : World) (table : String) (key value : Bytes) : Option World :=
  (world.tables.get? table).map fun (ref : Ref .records) =>
    let records : Entries Bytes Bytes := world.heap.read ref
    { world with heap := world.heap.write ref (records.put key value) }

/-- A store without tables, with computed values of its own. -/
def start : World :=
  let main := MainObject.ofData {} Heap.empty
  { heap := main.2, tables := [], main := main.1 }

/-- A store with the given tables, all of them empty. -/
def withTables (names : List String) : World :=
  names.foldl newTable start

/-! ## Computed values -/

/-- Gives a setting a value. -/
def setSetting (world : World) (name : String) (held : Held) : World :=
  let ref : Ref .settings := world.main .settings
  let settings : Entries String Held := world.heap.read ref
  { world with heap := world.heap.write ref (settings.put name held) }

/-- Gives a field objects, which may have been made for it. -/
def assign (world : World) (field : MainField) (made : field.shape.Slot × Heap) : World :=
  { world with heap := made.2, main := world.main.set field made.1 }

/-- Adds ids to one of the sets, if it is there. -/
def addIds (world : World) (field : IdField) (ids : IdSet) : World :=
  { world with
    heap := match field.set? world.heap world.main with
      | none => world.heap
      | some ref => world.heap.write ref ((world.heap.read ref).union ids) }

/-! ## Transactions -/

/-- Begins a transaction on a copy of what the store holds. -/
def begin (world : World) : World :=
  let tables := Heap.allocAll .rows world.store.tables world.heap
  let main := world.main.copy tables.2
  { world with
    heap := main.2
    openReaders := world.openReaders + 1
    readers := world.readers ++ [⟨tables.1, main.1⟩]
    live := world.readers.length :: world.live }

/-- Ends a transaction, unless it is not open. -/
def close (world : World) (txn : Nat) : World :=
  if txn ∈ world.live then
    { world with openReaders := world.openReaders - 1, live := world.live.erase txn }
  else world

/-! ## Runs -/

/-- What an event does.  A put into a missing table does nothing. -/
def step (world : World) : StoreEvent → World
  | .put table key value => (world.put? table key value).getD world
  | .createTable table => world.createTable table
  | .setSetting name value => world.setSetting name (.plain value)
  | .replace field new => world.assign field (field.shape.make new world.heap)
  | .refill field new =>
      world.assign field (field.shape.refill (world.main field) new world.heap)
  | .addIds field ids => world.addIds field ids
  | .share field slot => world.assign field (slot, world.heap)
  | .shareSetting name held => world.setSetting name held
  | .begin => world.begin
  | .finish txn _ => world.close txn

/-- What becomes of a store with these tables. -/
def run (names : List String) (history : List StoreEvent) : World :=
  history.foldl step (withTables names)

@[simp] theorem run_concat (names : List String) (history : List StoreEvent)
    (event : StoreEvent) : run names (history ++ [event]) = (run names history).step event := by
  simp only [run, List.foldl_append, List.foldl_cons, List.foldl_nil]

end World

end IndexSnapshot
