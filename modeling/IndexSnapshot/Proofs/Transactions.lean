/-
# IndexSnapshot.Proofs.Transactions -- every transaction reads its beginning

What a transaction reads is determined by what had happened when it began, and by nothing that
happens later, whether before or after it ends.  For the tables this holds of any history.  For
the computed values it holds as long as the store is not given what a transaction reads, and
in particular if it is only ever given new things; objects that the fields of the store share
with each other do no harm.

* `transaction_reads_its_beginning` says all this of one history, with what becomes of puts
  into missing tables and of the count of open transactions.
* `own_set_in_two_fields`: a store that shares a set between two of its fields.
* `taken_over_set_is_read`: a store that has been given a set of a transaction, and what the
  transaction reads then.
-/
import IndexSnapshot.Proofs.FieldHistory

namespace IndexSnapshot

set_option autoImplicit false

namespace World

/-- **Every transaction reads its beginning.**  Whatever happens after a transaction has begun,
also after it has ended, it reads what had happened when it began: a table that did not exist
then is missing, and any other has the values that were put last, each with its key, in
ascending order of the keys.  All that it reads, the computed values as well, is what the store
held then, unless the store is given what a transaction reads; and if the store is given nothing
that exists already, each computed value is what the changes to it had made of it.  A put into a
missing table changes nothing, and the store always counts the transactions that have begun and
not ended. -/
theorem transaction_reads_its_beginning (names : List String)
    (before after : List StoreEvent) :
    (∃ txn, (run names (before ++ .begin :: after)).txns[begun before]? = some txn ∧
      (∀ table, txn.records? table = none ↔ ¬ TableExists names before table) ∧
      (∀ table records, txn.records? table = some records →
        records.Pairwise (fun r s => r.1 < s.1) ∧
          ∀ key value, (key, value) ∈ records ↔ LastPut names before table key value) ∧
      (SparesReads names (before ++ .begin :: after) → txn = (run names before).store.freeze) ∧
      ((∀ event ∈ before ++ .begin :: after, event.takesOver = false) →
        ∀ field : MainField, field.get txn.main = field.after before)) ∧
    (∀ table key value, ¬ TableExists names before table →
      (run names before).put? table key value = none ∧
        run names (before ++ [.put table key value]) = run names before) ∧
    ∃ live : List Nat, live.Nodup ∧ (run names before).store.openReaders = live.length ∧
      ∀ txn, txn ∈ live ↔ txn < begun before ∧ ¬ HasEnded before txn := by
  have reflects := reflects_run names before
  have counts := countsOpen_run names before
  have tables := opened_tables_run names before after
  let heap := (run names (before ++ .begin :: after)).heap
  refine ⟨⟨(run names before).opened.view heap, ?there, fun table => ?missing,
      fun table records found => ?records, fun spares => ?frozen, fun given field => ?fields⟩,
    fun table key value missing => ?put, ⟨_, counts.nodup, counts.count, counts.mem_iff⟩⟩
  case there =>
    rw [txns, List.getElem?_map, readers_run, Option.map_some]
  case missing =>
    rw [ReadTxn.records?, tables, Option.map_eq_none_iff, ← Option.not_isSome_iff_eq_none]
    exact not_congr (reflects.tables table)
  case records =>
    rw [ReadTxn.records?, tables] at found
    obtain ⟨kept, there, rfl⟩ := Option.map_eq_some_iff.1 found
    refine ⟨kept.ascending, fun key value => ?_⟩
    rw [Table.mem_records_iff]
    exact reflects.records table kept there key value
  case frozen =>
    exact ReadTxn.mk.injEq .. ▸ ⟨tables, opened_main_run spares⟩
  case fields =>
    have made := (fields_run names fun event member =>
      given event (List.mem_append_left _ member)).2 field
    rw [← made, ← MainObject.get_view]
    exact congrArg field.get (opened_main_run (sparesReads_of_given names given))
  case put =>
    have refused := put?_eq_none_of_missing names before missing key value
    refine ⟨refused, ?_⟩
    rw [run_concat]
    show ((run names before).put? table key value).getD _ = _
    rw [refused]
    rfl

/-- The store uses one set of ids for two fields. -/
def oneSetTwice : List StoreEvent :=
  let first := StoreEvent.replace .documents (IdSet.ofList [1])
  [first, .share .softDeleted ((run [] [first]).main .documents)]

/-- A store may give one of its fields what another one has. -/
theorem sparesReads_oneSetTwice (ids : IdSet) :
    SparesReads [] (oneSetTwice ++ .begin :: [.addIds .documents ids]) := by
  let first := StoreEvent.replace .documents (IdSet.ofList [1])
  have given : SparesReads [] [first] := sparesReads_of_given [] fun event member => by
    cases List.mem_singleton.1 member
    rfl
  have isolated := isolated_run given
  have changes (place : Place)
      (own : place ∈ FieldShape.ids.own (run [] [first]).heap ((run [] [first]).main .documents)) :
      (run [] [first]).Changes place := ⟨.documents, own⟩
  show SparesReads []
    ([first] ++ [.share .softDeleted ((run [] [first]).main .documents)] ++ [.begin]
      ++ [.addIds .documents ids])
  rw [sparesReads_concat, sparesReads_concat, sparesReads_concat]
  refine ⟨⟨⟨given, fun place member => ?_, fun place own => ?_, fun _ => nofun⟩, trivial⟩, trivial⟩
  · rcases FieldShape.mem_reach_iff.1 member with own | kept
    · exact isolated.changed place (changes place own)
    · cases kept
  · exact isolated.apart place (changes place own)

/-- **A set in two fields of the store**: ids that are added to one of them are in both, and a
transaction that has begun before does not read them. -/
theorem own_set_in_two_fields :
    SparesReads [] (oneSetTwice ++ .begin :: [.addIds .documents (IdSet.ofList [2])]) ∧
    ∃ world txn,
      world = run [] (oneSetTwice ++ .begin :: [.addIds .documents (IdSet.ofList [2])]) ∧
        world.txns[0]? = some txn ∧
        txn.main.documents = IdSet.ofList [1] ∧ txn.main.softDeleted = IdSet.ofList [1] ∧
        world.store.main.documents = (IdSet.ofList [1]).union (IdSet.ofList [2]) ∧
        world.store.main.softDeleted = (IdSet.ofList [1]).union (IdSet.ofList [2]) := by
  have spares := sparesReads_oneSetTwice (IdSet.ofList [2])
  obtain ⟨⟨txn, there, -, -, frozen, -⟩, -⟩ := transaction_reads_its_beginning [] oneSetTwice
    [.addIds .documents (IdSet.ofList [2])]
  refine ⟨spares, _, txn, rfl, there, ?_, ?_, rfl, rfl⟩ <;> rw [frozen spares] <;> rfl

/-- **A set that is taken over from a transaction** is read by it as the store changes it. -/
theorem taken_over_set_is_read (world : World) {number : Nat} {txn : TxnObject}
    (reader : world.readers[number]? = some txn) (ids : IdSet) :
    ((world.step (.share .documents (txn.main .documents))).step (.addIds .documents ids)).txns[
        number]?.map (fun read => read.main.documents)
      = some ((txn.view world.heap).main.documents.union ids) := by
  let set : Ref .ids := txn.main .documents
  let after := (world.step (.share .documents set)).step (.addIds .documents ids)
  have slot : world.main.set .documents set .documents = set := MainObject.set_self ..
  have heap : after.heap = world.heap.write set ((world.heap.read set).union ids) :=
    congrArg (fun slot : Ref .ids => world.heap.write slot ((world.heap.read slot).union ids)) slot
  show (world.readers.map (TxnObject.view after.heap))[number]?.map _ = _
  rw [List.getElem?_map, reader, heap]
  exact congrArg some (world.heap.read_write_self set _)

/-- A set in the value of a setting is not copied when a transaction begins. -/
example :
    (run [] [.shareSetting "ids" ⟨[(run [] []).main .documents], fun sets =>
      .list (sets.map Value.docids)⟩, .begin, .addIds .documents (IdSet.ofList [2])]).txns.map
        (fun txn => txn.setting "ids")
      = [.list [.docids (IdSet.empty.union (IdSet.ofList [2]))]] := by
  rfl

end World

end IndexSnapshot
