/-
# IndexSnapshot.Proofs.RenderReports -- how rendering fails

The snapshot of a name is a text, or its table is missing, or a record of the table is
rejected and the failure names the table and the key: `Reported`.  There are two exceptions.
A record of a word table whose key is sound and whose value is empty stops the rendering
with a failure that names neither (`LacksBitmap`); and settings and fields may have an integer of
too many digits, whatever the tables hold.

* `rows_append_bad` and `rows_error` (of `IndexSnapshot.Snapshot.Row`): the first record
  that cannot be read is the one that fails.
* `render_reported_iff`: rendering is reported exactly when no bitmap is lacking and no integer
  is too long.
-/
import IndexSnapshot.Proofs.Actions
import IndexSnapshot.Proofs.Flaws

namespace IndexSnapshot

set_option autoImplicit false

/-! ## The failing record -/

theorem TableName.rows_append_bad {table : TableName} {before : List RawRecord}
    {found : List Row} {key value : Bytes} {flaw : Flaw} (fine : table.rows before = .ok found)
    (bad : Row.read table key value = .error flaw) (after : List RawRecord) :
    table.rows (before ++ (key, value) :: after)
      = .error (.ofRecordFlaw flaw table.text key) := by
  induction before generalizing found with
  | nil => simp only [List.nil_append, rows, bad]
  | cons record rest ih =>
      obtain ⟨k, v⟩ := record
      simp only [rows] at fine
      split at fine
      · cases fine
      · rename_i row good
        cases more : table.rows rest with
        | error failure => rw [more] at fine; cases fine
        | ok others => simp only [List.cons_append, rows, good, ih more, Except.map]

/-- A flaw that is no lack of a bitmap is reported with the table and the key. -/
theorem Failure.ofRecordFlaw_of_ne {flaw : Flaw} (other : flaw ≠ .noBuffer) (table : String)
    (key : Bytes) :
    Failure.ofRecordFlaw flaw table key
      = .decode ((DecodeError.ofFlaw flaw).withContext table key) := by
  cases flaw <;> first | rfl | exact absurd rfl other

/-! ## Reports -/

/-- How rendering a name of a store should end: with a text, with its table missing, or with
a record of the table rejected, which the report names. -/
inductive Reported (store : Store) (name : SnapshotName) : Except Failure String → Prop
  | text (text : String) : Reported store name (.ok text)
  | missing : store.tables.get? name.text = none →
      Reported store name (.error (.missingTable name.text))
  | record (table : Table) (record : RawRecord) (e : DecodeError) :
      store.tables.get? name.text = some table → record ∈ table.records →
      e.table = some name.text → e.key = some record.1 →
      Reported store name (.error (.decode e))

/-- The name is a word table in which a record has a sound key and no value, and all records
before it can be read. -/
def LacksBitmap (store : Store) (name : SnapshotName) : Prop :=
  ∃ table ∈ TableName.wordTables, name = .table table ∧
    ∃ stored before key after found word,
      store.tables.get? table.text = some stored ∧
        stored.records = before ++ (key, []) :: after ∧
          table.rows before = .ok found ∧ Word.read key = .ok word

/-- A lacking bitmap stops the rendering with a failure that names no record. -/
theorem snapshot_of_lacksBitmap {store : Store} {name : SnapshotName}
    (lacks : LacksBitmap store name) : store.freeze.snapshot name = .error .noBuffer := by
  obtain ⟨table, member, rfl, stored, before, key, after, found, word, has, records, fine,
    sound⟩ := lacks
  have bad : Row.read table key [] = .error .noBuffer :=
    (Row.read_eq_noBuffer_iff table key []).2 ⟨member, ⟨word, sound⟩, rfl⟩
  have stops := TableName.rows_append_bad fine bad after
  have reads : store.freeze.records? table.text = some stored.records := by
    simp only [ReadTxn.records?, Store.freeze, has, Option.map_some]
  simp only [ReadTxn.snapshot_table, ReadTxn.tableSnapshot, ReadTxn.rows, reads, records, stops,
    Except.map, Failure.ofRecordFlaw]

/-- Where no bitmap is lacking and no integer is too long, what becomes of a rendering is
reported. -/
theorem reported_of_not_lacksBitmap {store : Store} {name : SnapshotName}
    (complete : ¬ LacksBitmap store name) (short : store.freeze.isWritable name = true) :
    Reported store name (store.freeze.snapshot name) := by
  rw [ReadTxn.snapshot_of_isWritable short]
  cases name with
  | table table =>
      show Reported store _ (store.freeze.tableSnapshot table)
      unfold ReadTxn.tableSnapshot ReadTxn.rows
      cases has : store.tables.get? table.text with
      | none =>
          simp only [ReadTxn.records?, Store.freeze, has, Option.map_none, Except.map]
          exact .missing has
      | some stored =>
          simp only [ReadTxn.records?, Store.freeze, has, Option.map_some]
          cases read : table.rows stored.records with
          | ok found => exact .text _
          | error failure =>
              obtain ⟨before, key, value, after, flaw, records, ⟨found, fine⟩, bad, rfl⟩ :=
                TableName.rows_error read
              have other : flaw ≠ .noBuffer := by
                rintro rfl
                obtain ⟨member, ⟨word, sound⟩, rfl⟩ :=
                  (Row.read_eq_noBuffer_iff table key value).1 bad
                exact complete ⟨table, member, rfl, stored, before, key, after, found, word, has,
                  records, fine, sound⟩
              rw [Failure.ofRecordFlaw_of_ne other]
              refine .record stored (key, value) _ has ?_ rfl rfl
              rw [records]
              exact List.mem_append_right _ (List.mem_cons_self ..)
  | _ => exact .text _

/-- **Exactly when rendering is reported**: in every session and for every name, unless a
record of a word table has a sound key and no value, or an integer of a setting or a field is too
long.  Then the failure names neither the table nor the key. -/
theorem render_reported_iff (session : Session) (name : SnapshotName) :
    (Reported session.store name ((Action.render name).runIn session).1 ↔
        ¬ LacksBitmap session.store name ∧ session.store.freeze.isWritable name = true) ∧
      (LacksBitmap session.store name →
        ((Action.render name).runIn session).1 = .error .noBuffer) ∧
      (¬ session.store.freeze.isWritable name = true →
        ((Action.render name).runIn session).1 = .error .tooManyDigits) := by
  rw [(Action.render_gives name session).result_eq]
  refine ⟨⟨fun reported => ⟨fun lacks => ?_, ?_⟩,
      fun fine => reported_of_not_lacksBitmap fine.1 fine.2⟩,
    snapshot_of_lacksBitmap, ReadTxn.snapshot_of_not_isWritable⟩
  · rw [snapshot_of_lacksBitmap lacks] at reported
    cases reported
  · refine Classical.byContradiction fun long => ?_
    rw [ReadTxn.snapshot_of_not_isWritable long] at reported
    cases reported

/-- A word without documents, not even an empty bitmap, is not reported. -/
theorem render_unreported :
    ∃ store, Store.standard.put? "word_docids" [0x61] [] = some store ∧
      ¬ Reported store (.table .wordDocids)
        ((Action.render (.table .wordDocids)).runIn { store }).1 := by
  refine ⟨_, rfl, fun reported => ?_⟩
  have stops : ∀ store, Store.standard.put? "word_docids" [0x61] [] = some store →
      store.freeze.snapshot (.table .wordDocids) = .error .noBuffer := by
    rintro _ ⟨⟩
    rfl
  rw [(Action.render_gives _ _).result_eq, stops _ rfl] at reported
  cases reported

end IndexSnapshot
