/-
# IndexSnapshot.Proofs.TableTexts -- the text of a table, or its first bad record

A record is read in two steps, its key and then its value, which is in the layout that goes with
the key.  In the string facet table the level byte of the key decides which layout that is; in
every other table there is one.  The text of a table has a line for each of its records, in the
order of their keys.  If a record cannot be read there is no text, and the report is about the
bad record with the smallest key: about its key if that is the flaw, else about its value.

* `RowKey.read` and `RowKey.readRow` are the two steps, and `Row.read_eq_bind` puts them
  together.
* `Row.line_eq_ofCells`: a line is a column for each part of the key, and the document ids.
* `TableName.exists_first_rejected`: the bad record with the smallest key.
* `Table.readable`: the rows of a table, which its text shows if there is no bad record
  (`ReadTxn.snapshot_of_readable`).
* `table_text_or_first_rejected`: what becomes of a table that is there.
-/
import IndexSnapshot.Proofs.FacetLayouts
import IndexSnapshot.Proofs.KeyOrder
import IndexSnapshot.Proofs.RenderReports

namespace IndexSnapshot

set_option autoImplicit false

/-! ## Key and value -/

/-- The key of a record, taken apart. -/
inductive RowKey where
  | word (key : Word)
  | documentWord (key : DocumentWord)
  | wordPair (key : WordPair)
  | wordPosition (key : WordPosition)
  | fieldWordCount (key : FieldWordCount)
  | numericFacet (key : NumericFacet)
  | facetString (key : FacetString)
  | facetGroup (key : FacetGroup)

namespace RowKey

/-- The key of a string facet.  Its level decides its layout. -/
def readFacet (bytes : Bytes) : Except Flaw RowKey :=
  match facetLevel? bytes with
  | none => .error .neitherFacetLayout
  | some level =>
      if level = 0 then (FacetString.read bytes).map .facetString
      else (FacetGroup.read bytes).map .facetGroup

/-- The key of a record of the table. -/
def read : TableName → Bytes → Except Flaw RowKey
  | .wordDocids, bytes => (Word.read bytes).map .word
  | .exactWordDocids, bytes => (Word.read bytes).map .word
  | .wordPrefixDocids, bytes => (Word.read bytes).map .word
  | .exactWordPrefixDocids, bytes => (Word.read bytes).map .word
  | .docidWordPositions, bytes => (DocumentWord.read bytes).map .documentWord
  | .wordPairProximityDocids, bytes => (WordPair.read bytes).map .wordPair
  | .wordPrefixPairProximityDocids, bytes => (WordPair.read bytes).map .wordPair
  | .wordPositionDocids, bytes => (WordPosition.read bytes).map .wordPosition
  | .fieldIdWordCountDocids, bytes => (FieldWordCount.read bytes).map .fieldWordCount
  | .wordPrefixPositionDocids, bytes => (WordPosition.read bytes).map .wordPosition
  | .facetIdF64Docids, bytes => (NumericFacet.read bytes).map .numericFacet
  | .facetIdStringDocids, bytes => readFacet bytes

/-- The row of a key and a value, which is in the layout that goes with the key. -/
def readRow (value : Bytes) : RowKey → Except Flaw Row
  | .word key => (DocidLayout.portable.read value).map (.word key)
  | .documentWord key => (DocidLayout.array.read value).map (.documentWord key)
  | .wordPair key => (DocidLayout.compact.read value).map (.wordPair key)
  | .wordPosition key => (DocidLayout.compact.read value).map (.wordPosition key)
  | .fieldWordCount key => (DocidLayout.compact.read value).map (.fieldWordCount key)
  | .numericFacet key => (DocidLayout.compact.read value).map (.numericFacet key)
  | .facetString key =>
      (FacetStringValue.read value).map fun found => .stringFacet (.single key found)
  | .facetGroup key =>
      (FacetGroupValue.read value).map fun found => .stringFacet (.group key found)

end RowKey

namespace Row

variable {table : TableName} {key value : Bytes}

theorem readParts_eq_bind {K : Type} {row : K → IdSet → Row} {readKey : Bytes → Except Flaw K}
    {layout : DocidLayout} {named : K → RowKey}
    (follows : ∀ k, (named k).readRow value = (layout.read value).map (row k)) :
    readParts row readKey layout key value
      = (readKey key).map named >>= RowKey.readRow value := by
  unfold readParts
  cases readKey key with
  | error flaw => rfl
  | ok k =>
      show (layout.read value >>= fun ids => pure (row k ids)) = (named k).readRow value
      rw [follows]
      cases layout.read value <;> rfl

theorem read_facet_eq_bind (key value : Bytes) :
    (StringFacet.read key value).map Row.stringFacet
      = RowKey.readFacet key >>= RowKey.readRow value := by
  unfold RowKey.readFacet
  cases leveled : facetLevel? key with
  | none =>
      rw [(StringFacet.read_of_none leveled).1]
      rfl
  | some level =>
      dsimp only
      split
      · rename_i zero
        rw [zero] at leveled
        rw [(StringFacet.read_of_zero leveled).1, StringFacet.asSingle]
        cases FacetString.read key with
        | error flaw => rfl
        | ok found =>
            show ((FacetStringValue.read value).map _).map _ = (FacetStringValue.read value).map _
            cases FacetStringValue.read value <;> rfl
      · rename_i above
        rw [(StringFacet.read_of_leveled leveled above).1, StringFacet.asGroup]
        cases FacetGroup.read key with
        | error flaw => rfl
        | ok found =>
            show ((FacetGroupValue.read value).map _).map _ = (FacetGroupValue.read value).map _
            cases FacetGroupValue.read value <;> rfl

/-- **A record is read in two steps**, the key first. -/
theorem read_eq_bind (table : TableName) (key value : Bytes) :
    read table key value = RowKey.read table key >>= RowKey.readRow value := by
  cases table with
  | facetIdStringDocids => exact read_facet_eq_bind key value
  | _ => exact readParts_eq_bind fun _ => rfl

/-- Key and value are sound, and this is their row. -/
def Accepted (table : TableName) (key value : Bytes) (row : Row) : Prop :=
  ∃ k, RowKey.read table key = .ok k ∧ k.readRow value = .ok row

/-- The key has this flaw, or the key is sound and the value has it. -/
def Rejected (table : TableName) (key value : Bytes) (flaw : Flaw) : Prop :=
  RowKey.read table key = .error flaw ∨
    ∃ k, RowKey.read table key = .ok k ∧ k.readRow value = .error flaw

theorem read_eq_ok_iff {row : Row} :
    read table key value = .ok row ↔ Accepted table key value row := by
  rw [read_eq_bind, bind_eq_ok_iff]
  rfl

theorem read_eq_error_iff {flaw : Flaw} :
    read table key value = .error flaw ↔ Rejected table key value flaw := by
  rw [read_eq_bind, Rejected]
  cases RowKey.read table key with
  | error stopped => simp [bind, Except.bind]
  | ok k => simp [bind, Except.bind]

/-! ## Columns -/

/-- The columns of a line, each with its width. -/
def cells (table : TableName) : Row → List (Nat × String)
  | .word key _ => [(Line.wordWidth, key.word)]
  | .documentWord key _ => [(Line.docidWidth, toString key.docid), (Line.wordWidth, key.word)]
  | .wordPair key _ =>
      [(Line.wordWidth, key.first),
        (if table = .wordPrefixPairProximityDocids then Line.prefixWidth else Line.wordWidth,
          key.second),
        (Line.proximityWidth, toString key.proximity)]
  | .wordPosition key _ =>
      [(if table = .wordPrefixPositionDocids then Line.prefixWidth else Line.wordWidth, key.word),
        (Line.positionWidth, toString key.position)]
  | .fieldWordCount key _ =>
      [(Line.fieldIdWidth, toString key.fieldId), (Line.wordCountWidth, toString key.count)]
  | .numericFacet key _ =>
      [(Line.fieldIdWidth, toString key.fieldId), (Line.levelWidth, toString key.level),
        (Line.numberWidth, key.low.plain), (Line.numberWidth, key.high.plain)]
  | .stringFacet (.single key value) =>
      [(Line.fieldIdWidth, toString key.fieldId), (Line.facetStringWidth, key.normalized),
        (Line.facetStringWidth, value.spelling)]
  | .stringFacet (.group key value) =>
      [(Line.fieldIdWidth, toString key.fieldId), (Line.levelWidth, toString key.level),
        (Line.groupBoundWidth, toString key.low), (Line.groupBoundWidth, toString key.high)]
        ++ (value.bounds.toList.flatMap fun bounds => [bounds.1, bounds.2]).map
            (Line.facetStringWidth, ·)

/-- The documents of a row. -/
def docids : Row → IdSet
  | .word _ ids => ids
  | .documentWord _ ids => ids
  | .wordPair _ ids => ids
  | .wordPosition _ ids => ids
  | .fieldWordCount _ ids => ids
  | .numericFacet _ ids => ids
  | .stringFacet facet => facet.docids

end Row

/-- Columns with a space behind each, then document ids. -/
def Line.ofCells (cells : List (Nat × String)) (ids : IdSet) : String :=
  String.join (cells.map fun cell => Text.column cell.1 cell.2 ++ " ") ++ Line.docids ids

/-- **A line is the columns of its row, and its documents.** -/
theorem Row.line_eq_ofCells (table : TableName) (row : Row) :
    row.line table = Line.ofCells (row.cells table) row.docids := by
  cases row with
  | stringFacet facet =>
      cases facet with
      | single key value =>
          simp [line, cells, docids, StringFacet.docids, Line.ofCells, Line.stringFacet,
            Line.facetString, Text.intColumn, String.append_assoc]
      | group key value =>
          cases bounds : value.bounds <;>
            simp [line, cells, docids, StringFacet.docids, Line.ofCells, Line.stringFacet,
              Line.facetGroup, Line.groupBounds, Text.intColumn, String.append_assoc, bounds]
  | wordPair key ids =>
      by_cases narrow : table = .wordPrefixPairProximityDocids <;>
        simp [line, cells, docids, Line.ofCells, Line.wordPair, Line.wordPrefixPair,
          Text.intColumn, String.append_assoc, narrow]
  | wordPosition key ids =>
      by_cases narrow : table = .wordPrefixPositionDocids <;>
        simp [line, cells, docids, Line.ofCells, Line.wordPosition, Line.prefixPosition,
          Text.intColumn, String.append_assoc, narrow]
  | _ =>
      simp [line, cells, docids, Line.ofCells, Line.word, Line.documentWord, Line.fieldWordCount,
        Line.numericFacet, Text.intColumn, String.append_assoc]

/-! ## All records of a table -/

namespace TableName

variable {table : TableName} {records : List RawRecord}

/-- If there are rows, every record has been read. -/
theorem readable_of_rows {found : List Row} (ok : table.rows records = .ok found)
    {key value : Bytes} (member : (key, value) ∈ records) :
    ∃ row, Row.read table key value = .ok row := by
  induction records generalizing found with
  | nil => cases member
  | cons record rest ih =>
      obtain ⟨k, v⟩ := record
      simp only [rows] at ok
      split at ok
      · cases ok
      · rename_i row read
        obtain ⟨others, more, -⟩ := map_eq_ok_iff.1 ok
        rcases List.mem_cons.1 member with same | member
        · cases same
          exact ⟨row, read⟩
        · exact ih more member

/-- **Of the bad records the one with the smallest key is reported.** -/
theorem exists_first_rejected {stored : Table} {failure : Failure}
    (failed : table.rows stored.records = .error failure) :
    ∃ key value flaw, stored.get? key = some value ∧ Row.Rejected table key value flaw ∧
      (∀ smaller other, stored.get? smaller = some other → smaller < key →
        ∃ row, Row.Accepted table smaller other row) ∧
      failure = .ofRecordFlaw flaw table.text key := by
  obtain ⟨before, key, value, after, flaw, split, ⟨found, fine⟩, bad, report⟩ := rows_error failed
  have there : stored.get? key = some value := by
    rw [← Table.mem_records_iff, split]
    exact List.mem_append_right _ List.mem_cons_self
  refine ⟨key, value, flaw, there, Row.read_eq_error_iff.1 bad, ?_, report⟩
  intro smaller other has below
  rw [← Table.mem_records_iff, split, List.mem_append, List.mem_cons] at has
  have ascending := stored.ascending
  rw [split, List.pairwise_append, List.pairwise_cons] at ascending
  rcases has with member | same | member
  · obtain ⟨row, read⟩ := readable_of_rows fine member
    exact ⟨row, Row.read_eq_ok_iff.1 read⟩
  · cases same
    exact absurd below (List.lt_irrefl key)
  · have above : key < smaller := ascending.2.1.1 _ member
    exact absurd below (List.lt_asymm above)

end TableName

/-! ## The text of a table -/

/-- The rows of the records that can be read, each with its key. -/
def Table.readable (stored : Table) (table : TableName) : List (Bytes × Row) :=
  stored.records.filterMap fun record =>
    (Row.read table record.1 record.2).toOption.map (record.1, ·)

section Readable

variable {table : TableName} {stored : Table}

theorem Table.readable_ascending (stored : Table) (table : TableName) :
    (stored.readable table).Pairwise fun entry later => entry.1 < later.1 := by
  rw [Table.readable, List.pairwise_filterMap]
  refine stored.ascending.imp fun {record later} below entry read other read' => ?_
  obtain ⟨row, -, rfl⟩ := Option.map_eq_some_iff.1 read
  obtain ⟨row', -, rfl⟩ := Option.map_eq_some_iff.1 read'
  exact below

theorem Table.mem_readable_iff {key : Bytes} {row : Row} :
    (key, row) ∈ stored.readable table ↔
      ∃ value, stored.get? key = some value ∧ Row.Accepted table key value row := by
  simp only [Table.readable, List.mem_filterMap, Prod.exists, Option.map_eq_some_iff,
    toOption_eq_some_iff, Row.read_eq_ok_iff, ← Table.mem_records_iff]
  constructor
  · rintro ⟨key, value, member, row, accepted, same⟩
    cases same
    exact ⟨value, member, accepted⟩
  · rintro ⟨value, member, accepted⟩
    exact ⟨key, value, member, row, accepted, rfl⟩

/-- If every record can be read, the text has a line for each. -/
theorem ReadTxn.snapshot_of_readable {txn : ReadTxn}
    (there : txn.tables.get? table.text = some stored)
    (sound : ∀ key value, stored.get? key = some value → ∃ row, Row.Accepted table key value row) :
    txn.snapshot (.table table) = .ok (unlines ((stored.readable table).map fun entry =>
      Line.ofCells (entry.2.cells table) entry.2.docids)) := by
  have rows := ReadTxn.exists_rows there fun key value member => by
    obtain ⟨row, accepted⟩ := sound key value (stored.mem_records_iff.1 member)
    exact ⟨row, Row.read_eq_ok_iff.2 accepted⟩
  simp only [snapshot_table, tableSnapshot, rows, Except.map, Table.readable, List.map_filterMap,
    ← Row.line_eq_ofCells, Option.map_map, Function.comp_def]

/-- A bitmap is found to be missing only where the value is empty, in a word table. -/
theorem Row.ne_noBuffer_of_rejected {key value : Bytes} {flaw : Flaw}
    (filled : table ∈ TableName.wordTables → ∀ key, stored.get? key ≠ some [])
    (has : stored.get? key = some value) (rejected : Row.Rejected table key value flaw) :
    flaw ≠ .noBuffer := by
  rintro rfl
  obtain ⟨member, -, rfl⟩ :=
    (Row.read_eq_noBuffer_iff table key value).1 (Row.read_eq_error_iff.2 rejected)
  exact filled member key has

end Readable

/-- **The text of a table, or its first bad record.**  A table is there, and it is no word table
with an empty value in it.  If each of its records is sound, its text has a line for each of them,
in the order of their keys.  Else the report is that of the flaw of the bad record with the
smallest key, and it names the table and this key. -/
theorem table_text_or_first_rejected (session : Session) {table : TableName} {stored : Table}
    (there : session.store.tables.get? table.text = some stored)
    (filled : table ∈ TableName.wordTables → ∀ key, stored.get? key ≠ some []) :
    ((∀ key value, stored.get? key = some value → ∃ row, Row.Accepted table key value row) →
      ∃ entries : List (Bytes × Row), entries.Pairwise (fun entry later => entry.1 < later.1) ∧
        (∀ key row, (key, row) ∈ entries ↔
          ∃ value, stored.get? key = some value ∧ Row.Accepted table key value row) ∧
        ((Action.render (.table table)).runIn session).1
          = .ok (unlines (entries.map fun entry =>
              Line.ofCells (entry.2.cells table) entry.2.docids))) ∧
    ((¬ ∀ key value, stored.get? key = some value → ∃ row, Row.Accepted table key value row) →
      ∃ key value flaw, stored.get? key = some value ∧ Row.Rejected table key value flaw ∧
        (∀ smaller other, stored.get? smaller = some other → smaller < key →
          ∃ row, Row.Accepted table smaller other row) ∧
        ((Action.render (.table table)).runIn session).1
          = .error (.decode ((DecodeError.ofFlaw flaw).withContext table.text key))) := by
  rw [(Action.render_gives _ session).result_eq]
  have frozen : session.store.freeze.tables.get? table.text = some stored := there
  constructor
  · intro sound
    exact ⟨stored.readable table, stored.readable_ascending table,
      fun key row => Table.mem_readable_iff, ReadTxn.snapshot_of_readable frozen sound⟩
  · intro unsound
    have reads : session.store.freeze.records? table.text = some stored.records := by
      rw [ReadTxn.records?, frozen, Option.map_some]
    simp only [ReadTxn.snapshot_table, ReadTxn.tableSnapshot, ReadTxn.rows, reads]
    cases read : table.rows stored.records with
    | ok found =>
        refine absurd (fun key value has => ?_) unsound
        obtain ⟨row, good⟩ := TableName.readable_of_rows read (stored.mem_records_iff.2 has)
        exact ⟨row, Row.read_eq_ok_iff.1 good⟩
    | error failure =>
        obtain ⟨key, value, flaw, has, rejected, first, rfl⟩ :=
          TableName.exists_first_rejected read
        refine ⟨key, value, flaw, has, rejected, first, ?_⟩
        rw [Failure.ofRecordFlaw_of_ne (Row.ne_noBuffer_of_rejected filled has rejected)]
        rfl

/-- A word with an empty bitmap. -/
def soundWords : Table :=
  Table.empty.put [97] [0x3A, 0x30, 0, 0, 0, 0, 0, 0]

/-- A word that is no text, one whose bitmap is cut off, and one that is sound, put in backwards. -/
def badWords : Table :=
  ((Table.empty.put [255] [0]).put [98] [0]).put [97] [0x3A, 0x30, 0, 0, 0, 0, 0, 0]

/-- An index with these two tables. -/
def twoWordTables : Session where
  store := { tables := [("word_docids", soundWords), ("exact_word_docids", badWords)] }

/-- One table is shown.  In the other the word with the smaller key is reported, for its bitmap,
and not the one whose key is bad. -/
theorem cut_bitmap_is_reported :
    (∃ entries : List (Bytes × Row), ([97], Row.word ⟨"a"⟩ (IdSet.ofList [])) ∈ entries ∧
      ((Action.render (.table .wordDocids)).runIn twoWordTables).1
        = .ok (unlines (entries.map fun entry =>
            Line.ofCells (entry.2.cells .wordDocids) entry.2.docids))) ∧
    ∃ flaw, Row.Rejected .exactWordDocids [255] [0] flaw ∧
      Row.Rejected .exactWordDocids [98] [0] (.bitmap 1 .unreadable) ∧
      ((Action.render (.table .exactWordDocids)).runIn twoWordTables).1
        = .error (.decode ((DecodeError.ofFlaw (.bitmap 1 .unreadable)).withContext
            "exact_word_docids" [98])) := by
  have soundRecords : soundWords.records = [([97], [0x3A, 0x30, 0, 0, 0, 0, 0, 0])] := rfl
  have badRecords : badWords.records
      = [([97], [0x3A, 0x30, 0, 0, 0, 0, 0, 0]), ([98], [0]), ([255], [0])] := rfl
  have accepted : Row.Accepted .wordDocids [97] [0x3A, 0x30, 0, 0, 0, 0, 0, 0]
      (.word ⟨"a"⟩ (IdSet.ofList [])) := ⟨_, rfl, rfl⟩
  have rejected : Row.Rejected .exactWordDocids [98] [0] (.bitmap 1 .unreadable) :=
    .inr ⟨_, rfl, rfl⟩
  obtain ⟨flaw, badKey⟩ : ∃ flaw, RowKey.read .exactWordDocids [255] = .error flaw := ⟨_, rfl⟩
  have soundThere : twoWordTables.store.tables.get? TableName.wordDocids.text = some soundWords :=
    rfl
  have badThere : twoWordTables.store.tables.get? TableName.exactWordDocids.text = some badWords :=
    rfl
  have shown := (table_text_or_first_rejected twoWordTables soundThere
    (fun _ key => by
      intro empty
      rw [← Table.mem_records_iff, soundRecords] at empty
      simp at empty)).1
  have reported := (table_text_or_first_rejected twoWordTables badThere
    (fun _ key => by
      intro empty
      rw [← Table.mem_records_iff, badRecords] at empty
      simp at empty)).2
  refine ⟨?_, flaw, .inl badKey, rejected, ?_⟩
  · obtain ⟨entries, -, members, text⟩ := shown fun key value has => by
      rw [← Table.mem_records_iff, soundRecords, List.mem_singleton] at has
      cases has
      exact ⟨_, accepted⟩
    exact ⟨entries, (members _ _).2 ⟨_, rfl, accepted⟩, text⟩
  · obtain ⟨key, value, found, has, bad, first, text⟩ := reported fun sound => by
      obtain ⟨row, k, read, -⟩ := sound [255] [0] rfl
      cases badKey.symm.trans read
    rw [text]
    -- the sound word is not the bad one, and the one with the bad key is not the first
    rw [← Table.mem_records_iff, badRecords] at has
    simp only [List.mem_cons, Prod.mk.injEq, List.not_mem_nil, or_false] at has
    rcases has with ⟨rfl, rfl⟩ | ⟨rfl, rfl⟩ | ⟨rfl, rfl⟩
    · have sound := (Row.read_eq_ok_iff.2 accepted).symm.trans (Row.read_eq_error_iff.2 bad)
      cases sound
    · have same := (Row.read_eq_error_iff.2 rejected).symm.trans (Row.read_eq_error_iff.2 bad)
      cases same
      rfl
    · obtain ⟨row, good⟩ := first [98] [0] rfl (by decide)
      have sound := (Row.read_eq_error_iff.2 rejected).symm.trans (Row.read_eq_ok_iff.2 good)
      cases sound

end IndexSnapshot
