/-
# IndexSnapshot.Snapshot.Text -- the text of a snapshot

Every name has one text, which depends only on what a read transaction reads.  The text
of a table has one line for each record, in the order of the keys; the first record that
cannot be read stops the rendering, and its error names the table and the key.  The integers of
settings and fields have no bound, and one with too many digits leaves its name without a text.

* `ReadTxn.snapshot` is the text of a name, `ReadTxn.renderedEntry?` what is logged when
  it has been rendered.
* `snapshot_eq_ok_iff`: it is what `ReadTxn.written` makes of integers of any length, if none
  of them is too long.
-/
import IndexSnapshot.Snapshot.Row
import IndexSnapshot.Snapshot.Settings
import IndexSnapshot.Store.Basic

namespace IndexSnapshot

set_option autoImplicit false

/-- Texts, each with the end of a line behind it. -/
def unlines (lines : List String) : String :=
  String.join (lines.map (· ++ "\n"))

namespace ReadTxn

/-! ## Tables -/

/-- The rows of a table. -/
def rows (txn : ReadTxn) (table : TableName) : Except Failure (List Row) :=
  match txn.records? table.text with
  | none => .error (.missingTable table.text)
  | some records => table.rows records

/-- The text of a table. -/
def tableSnapshot (txn : ReadTxn) (table : TableName) : Except Failure String :=
  (txn.rows table).map fun rows => unlines (rows.map (Row.line table))

/-! ## Computed values -/

/-- The fields in ascending order of their ids. -/
def sortedFields (txn : ReadTxn) : List (Int × String) :=
  txn.main.fieldsIds.mergeSort fun a b => decide (a.1 ≤ b.1)

/-- The fields with their counts, in ascending order of their names. -/
def sortedCounts (txn : ReadTxn) : List (String × Int) :=
  txn.main.fieldDistribution.mergeSort fun a b => !decide (b.1 < a.1)

/-- The stop words as a value. -/
def stopWordsValue (txn : ReadTxn) : Value :=
  match txn.main.stopWords with
  | none => .none
  | some words => .set (words.map .text)

/-- The text of a name, with its integers however long they are. -/
def written (txn : ReadTxn) : SnapshotName → Except Failure String
  | .settings => .ok (Setting.snapshot txn.setting)
  | .table name => txn.tableSnapshot name
  | .documentsIds => .ok (Line.docids txn.main.documents)
  | .stopWords => .ok txn.stopWordsValue.display
  | .softDeletedDocumentsIds => .ok (Line.docids txn.main.softDeleted)
  | .fieldDistribution =>
      .ok (unlines (txn.sortedCounts.map fun (name, count) => Line.fieldCount name count))
  | .fieldsIdsMap =>
      .ok (unlines (txn.sortedFields.map fun (fieldId, name) => Line.fieldName fieldId name))
  | .geoFacetedDocumentsIds => .ok (Line.docids txn.main.geoFaceted)
  | .externalDocumentsIds =>
      .ok (unlines ["soft: " ++ Bytes.hex txn.main.externalSoft,
        "hard: " ++ Bytes.hex txn.main.externalHard])
  | .numberFacetedDocumentsIds =>
      .ok (unlines (txn.sortedFields.map fun (fieldId, _) =>
        Line.fieldDocids fieldId (txn.numberFacetedIn fieldId)))
  | .stringFacetedDocumentsIds =>
      .ok (unlines (txn.sortedFields.map fun (fieldId, _) =>
        Line.fieldDocids fieldId (txn.stringFacetedIn fieldId)))
  | .wordsFst => .ok (Bytes.hex txn.main.wordsFst)
  | .wordsPrefixesFst => .ok (Bytes.hex txn.main.wordsPrefixesFst)

/-- The integers without a bound that stand in the text of a name. -/
def integers (txn : ReadTxn) : SnapshotName → List Int
  | .settings => Setting.catalogue.flatMap fun setting => (txn.setting setting.name).integers
  | .fieldDistribution => txn.main.fieldDistribution.map Prod.snd
  | .fieldsIdsMap | .numberFacetedDocumentsIds | .stringFacetedDocumentsIds =>
      txn.main.fieldsIds.map Prod.fst
  | _ => []

/-- Whether the integers in the text of a name have few enough digits. -/
def isWritable (txn : ReadTxn) (name : SnapshotName) : Bool :=
  (txn.integers name).all Text.isWritable

/-- The text of a name. -/
def snapshot (txn : ReadTxn) (name : SnapshotName) : Except Failure String :=
  if txn.isWritable name then txn.written name else .error .tooManyDigits

section Writable

variable {txn : ReadTxn} {name : SnapshotName} {text : String}

theorem snapshot_of_isWritable (short : txn.isWritable name = true) :
    txn.snapshot name = txn.written name :=
  if_pos short

theorem snapshot_of_not_isWritable (long : ¬ txn.isWritable name = true) :
    txn.snapshot name = .error .tooManyDigits :=
  if_neg long

theorem snapshot_eq_ok_iff :
    txn.snapshot name = .ok text ↔ txn.isWritable name = true ∧ txn.written name = .ok text := by
  unfold snapshot
  split <;> simp_all

theorem written_of_snapshot (rendered : txn.snapshot name = .ok text) :
    txn.written name = .ok text :=
  (snapshot_eq_ok_iff.1 rendered).2

/-- In the text of a table all integers are short. -/
theorem snapshot_table (txn : ReadTxn) (table : TableName) :
    txn.snapshot (.table table) = txn.tableSnapshot table :=
  rfl

end Writable

/-! ## What is logged -/

/-- An entry of one of the renderers. -/
def renderEntry (renderer message : String) (name : SnapshotName) : Log.Entry :=
  Log.Entry.aboutTable ⟨"dbsnap.render." ++ renderer, Log.debug, message, {}⟩ name.text

/-- Said once a table, or the settings, have been rendered. -/
def renderedEntry? (txn : ReadTxn) (name : SnapshotName) : Option Log.Entry :=
  match name with
  | .settings =>
      some (renderEntry "settings"
        ("Rendered " ++ toString Setting.catalogue.length ++ " settings") name)
  | .table table =>
      let count := ((txn.records? table.text).getD []).length
      if table = .facetIdStringDocids then
        some (renderEntry "facets" ("Rendered " ++ toString count ++ " string facet entries") name)
      else some (renderEntry "tables" ("Rendered " ++ toString count ++ " entries") name)
  | _ => none

/-- Said once a snapshot of a name has been made. -/
def snapshotEntry (name : SnapshotName) (text : String) : Log.Entry :=
  renderEntry "tables" ("Rendered snapshot of " ++ toString text.length ++ " characters") name

end ReadTxn

end IndexSnapshot
