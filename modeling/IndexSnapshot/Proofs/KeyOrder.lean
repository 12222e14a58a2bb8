/-
# IndexSnapshot.Proofs.KeyOrder -- raw keys are in the order of what they are made of

Tables are read in bytewise order of their keys.  A key puts the integers that come first in
its order first, so that this is the order of the parts: integers by value, texts by code point.
A word with a position is the exception, since the word comes first and is of any length; its
keys are in order of their positions only where the words are the same.  The two kinds of keys
of string facets go by field and level together, so the texts of a field come before its groups.

* `OrdersBy` says that keys compare as something made of them does.
* `Row.before_of_lt`: raw keys in order have rows in order.
* `TableName.rows_eq_ok_iff`: the rows of a table, record by record.
* `keys_order_naturally` puts them together, with what a store shows that was filled so.
-/
import IndexSnapshot.Proofs.ByteOrder
import IndexSnapshot.Proofs.SnapshotContents
import IndexSnapshot.Proofs.StoreHistory
import Mathlib.Data.List.Forall2
import Mathlib.Data.Prod.Lex
import Mathlib.Data.String.Basic

namespace IndexSnapshot

set_option autoImplicit false

/-! ## Keys as tuples -/

def DocumentWord.tuple (key : DocumentWord) : ℤ ×ₗ String :=
  toLex (key.docid, key.word)

def FieldWordCount.tuple (key : FieldWordCount) : ℤ ×ₗ ℤ :=
  toLex (key.fieldId, key.count)

def FacetString.tuple (key : FacetString) : ℤ ×ₗ String :=
  toLex (key.fieldId, key.normalized)

def FacetGroup.tuple (key : FacetGroup) : ℤ ×ₗ ℤ ×ₗ ℤ ×ₗ ℤ :=
  toLex (key.fieldId, toLex (key.level, toLex (key.low, key.high)))

/-- The field and the level, by which the keys of single texts and of groups compare. -/
def FacetHeader.tuple (header : FacetHeader) : ℤ ×ₗ ℤ :=
  toLex (header.fieldId, header.level)

/-- Keys that are written are in bytewise order exactly if something made of them is in order. -/
def OrdersBy {K T : Type} [LT T] (write : K → Except Refusal Bytes) (made : K → T) : Prop :=
  ∀ x y a b, write x = .ok a → write y = .ok b → (a < b ↔ made x < made y)

/-! ## Kinds of keys -/

theorem DocumentWord.ordersBy_tuple : OrdersBy write tuple := by
  intro x y a b first second
  simp only [write, bind_eq_ok_iff, pure_eq_ok_iff] at first second
  obtain ⟨docid, first, rfl⟩ := first
  obtain ⟨other, second, rfl⟩ := second
  rw [Width.append_lt_append_iff first second, Utf8.encode_lt_iff, tuple, tuple,
    Prod.Lex.toLex_lt_toLex]

theorem FieldWordCount.ordersBy_tuple : OrdersBy write tuple := by
  intro x y a b first second
  simp only [write, bind_eq_ok_iff, pure_eq_ok_iff] at first second
  obtain ⟨fieldId, first, count, last, rfl⟩ := first
  obtain ⟨fieldId', first', count', last', rfl⟩ := second
  rw [Width.append_lt_append_iff first first', Width.lt_iff_of_write last last', tuple, tuple,
    Prod.Lex.toLex_lt_toLex]

namespace FacetHeader

variable {header other : FacetHeader} {a b s t : Bytes}

/-- A header in front of other bytes decides first. -/
theorem append_lt_append_iff (first : write header = .ok a) (second : write other = .ok b) :
    a ++ s < b ++ t ↔ header.tuple < other.tuple ∨ header = other ∧ s < t := by
  obtain ⟨fieldId, level, idA, levelA, rfl⟩ := write_eq_ok_iff.1 first
  obtain ⟨fieldId', level', idB, levelB, rfl⟩ := write_eq_ok_iff.1 second
  rw [List.append_assoc, List.append_assoc, Width.append_lt_append_iff idA idB,
    Width.append_lt_append_iff levelA levelB, tuple, tuple, Prod.Lex.toLex_lt_toLex]
  cases header
  cases other
  simp only [mk.injEq]
  tauto

/-- Headers with different levels decide alone. -/
theorem append_lt_append_iff_of_level_ne (first : write header = .ok a)
    (second : write other = .ok b) (apart : header.level ≠ other.level) :
    a ++ s < b ++ t ↔ header.tuple < other.tuple := by
  rw [append_lt_append_iff first second, or_iff_left]
  rintro ⟨rfl, -⟩
  exact apart rfl

end FacetHeader

theorem FacetString.ordersBy_tuple : OrdersBy write tuple := by
  intro x y a b first second
  simp only [write, bind_eq_ok_iff, pure_eq_ok_iff] at first second
  obtain ⟨header, first, rfl⟩ := first
  obtain ⟨header', second, rfl⟩ := second
  rw [FacetHeader.append_lt_append_iff first second, Utf8.encode_lt_iff, tuple, tuple,
    FacetHeader.tuple, FacetHeader.tuple, Prod.Lex.toLex_lt_toLex, Prod.Lex.toLex_lt_toLex]
  simp

namespace FacetGroup

theorem write_eq_ok_iff {key : FacetGroup} {bytes : Bytes} :
    write key = .ok bytes ↔ key.level ≠ 0 ∧ ∃ header low high,
      FacetHeader.write ⟨key.fieldId, key.level⟩ = .ok header ∧
        Width.u32.write key.low = .ok low ∧ Width.u32.write key.high = .ok high ∧
        bytes = header ++ (low ++ high) := by
  unfold write
  split
  · rename_i zero
    simp [zero]
  · rename_i above
    simp only [bind_eq_ok_iff, pure_eq_ok_iff, exists_and_left, ne_eq, above, not_false_eq_true,
      true_and, List.append_assoc, eq_comm (a := bytes)]

theorem level_nonneg_of_write {key : FacetGroup} {bytes : Bytes}
    (written : write key = .ok bytes) : 0 ≤ key.level := by
  obtain ⟨-, ⟨level, -⟩, -⟩ := (exists_write_iff key).1 ⟨bytes, written⟩
  exact level.1

theorem ordersBy_tuple : OrdersBy write tuple := by
  intro x y a b first second
  obtain ⟨-, header, low, high, written, lowest, highest, rfl⟩ := write_eq_ok_iff.1 first
  obtain ⟨-, header', low', high', written', lowest', highest', rfl⟩ := write_eq_ok_iff.1 second
  rw [FacetHeader.append_lt_append_iff written written', Width.append_lt_append_iff lowest lowest',
    Width.lt_iff_of_write highest highest']
  simp only [tuple, FacetHeader.tuple, Prod.Lex.toLex_lt_toLex, FacetHeader.mk.injEq]
  tauto

end FacetGroup

/-- Keys of one word are in order of their positions. -/
theorem WordPosition.lt_iff_of_same_word {word : String} {m n : Int} {a b : Bytes}
    (first : write ⟨word, m⟩ = .ok a) (second : write ⟨word, n⟩ = .ok b) : a < b ↔ m < n := by
  simp only [write, bind_eq_ok_iff, pure_eq_ok_iff] at first second
  obtain ⟨position, first, rfl⟩ := first
  obtain ⟨position', second, rfl⟩ := second
  rw [Bytes.append_lt_append_iff rfl, Width.lt_iff_of_write first second]
  simp [List.lt_irrefl]

/-- Keys in order, of one word, have positions in order. -/
theorem WordPosition.lt_of_lt {x y : WordPosition} {a b : Bytes} (first : x.write = .ok a)
    (second : y.write = .ok b) (below : a < b) (same : x.word = y.word) :
    x.position < y.position := by
  obtain ⟨word, m⟩ := x
  obtain ⟨word', n⟩ := y
  obtain rfl : word = word' := same
  exact (lt_iff_of_same_word first second).1 below

/-- The key of a single text and that of a group are in order of their fields and levels. -/
theorem FacetString.lt_group_iff {text : FacetString} {group : FacetGroup} {a b : Bytes}
    (single : write text = .ok a) (grouped : FacetGroup.write group = .ok b) :
    (a < b ↔ FacetHeader.tuple ⟨text.fieldId, 0⟩ < FacetHeader.tuple ⟨group.fieldId, group.level⟩) ∧
      (b < a ↔
        FacetHeader.tuple ⟨group.fieldId, group.level⟩ < FacetHeader.tuple ⟨text.fieldId, 0⟩) := by
  simp only [write, bind_eq_ok_iff, pure_eq_ok_iff] at single
  obtain ⟨header, first, rfl⟩ := single
  obtain ⟨above, header', low, high, second, -, -, rfl⟩ := FacetGroup.write_eq_ok_iff.1 grouped
  exact ⟨FacetHeader.append_lt_append_iff_of_level_ne first second (Ne.symm above),
    FacetHeader.append_lt_append_iff_of_level_ne second first above⟩

/-! ## Rows in order -/

/-- One facet comes before another: by field, and in a field the single texts before the groups;
texts by code point, and groups by level and bounds. -/
def StringFacet.Before : StringFacet → StringFacet → Prop
  | .single key _, .single other _ => key.tuple < other.tuple
  | .single key _, .group other _ => key.fieldId ≤ other.fieldId
  | .group key _, .single other _ => key.fieldId < other.fieldId
  | .group key _, .group other _ => key.tuple < other.tuple

/-- One row comes before another, in the order of what their keys are made of. -/
def Row.Before : Row → Row → Prop
  | .documentWord key _, .documentWord other _ => key.tuple < other.tuple
  | .fieldWordCount key _, .fieldWordCount other _ => key.tuple < other.tuple
  | .wordPosition key _, .wordPosition other _ =>
      key.word = other.word → key.position < other.position
  | .stringFacet facet, .stringFacet other => facet.Before other
  | _, _ => False

/-- A record is what is stored for a row: its key is written, and its value is read. -/
inductive TableName.Stores : TableName → Row → Bytes → Bytes → Prop
  | documentWord {k : DocumentWord} {ids : IdSet} {key value : Bytes}
      (written : k.write = .ok key) (docids : DocidLayout.array.read value = .ok ids) :
      Stores .docidWordPositions (.documentWord k ids) key value
  | fieldWordCount {k : FieldWordCount} {ids : IdSet} {key value : Bytes}
      (written : k.write = .ok key) (docids : DocidLayout.compact.read value = .ok ids) :
      Stores .fieldIdWordCountDocids (.fieldWordCount k ids) key value
  | wordPosition {k : WordPosition} {ids : IdSet} {key value : Bytes}
      (written : k.write = .ok key) (docids : DocidLayout.compact.read value = .ok ids) :
      Stores .wordPositionDocids (.wordPosition k ids) key value
  | prefixPosition {k : WordPosition} {ids : IdSet} {key value : Bytes}
      (written : k.write = .ok key) (docids : DocidLayout.compact.read value = .ok ids) :
      Stores .wordPrefixPositionDocids (.wordPosition k ids) key value
  | facetString {k : FacetString} {v : FacetStringValue IdSet} {key value : Bytes}
      (written : k.write = .ok key) (read : FacetStringValue.read value = .ok v) :
      Stores .facetIdStringDocids (.stringFacet (.single k v)) key value
  | facetGroup {k : FacetGroup} {v : FacetGroupValue IdSet} {key value : Bytes}
      (written : k.write = .ok key) (read : FacetGroupValue.read value = .ok v) :
      Stores .facetIdStringDocids (.stringFacet (.group k v)) key value

namespace TableName.Stores

variable {table : TableName} {row other : Row} {key value key' value' : Bytes}

/-- What is stored for a row is read as the row. -/
theorem read (stored : table.Stores row key value) : Row.read table key value = .ok row := by
  cases stored with
  | documentWord written docids =>
      have back := DocumentWord.isExact.read_of_write _ _ written
      simp [Row.read, Row.readParts, back, docids, bind_of_ok, pure_eq_ok_iff]
  | fieldWordCount written docids =>
      have back := FieldWordCount.isExact.read_of_write _ _ written
      simp [Row.read, Row.readParts, back, docids, bind_of_ok, pure_eq_ok_iff]
  | wordPosition written docids =>
      have back := WordPosition.isExact.read_of_write _ _ written
      simp [Row.read, Row.readParts, back, docids, bind_of_ok, pure_eq_ok_iff]
  | prefixPosition written docids =>
      have back := WordPosition.isExact.read_of_write _ _ written
      simp [Row.read, Row.readParts, back, docids, bind_of_ok, pure_eq_ok_iff]
  | facetString written accepted =>
      have back := FacetString.isExact.read_of_write _ _ written
      have single := StringFacet.asSingle_eq_ok_iff.2 ⟨_, _, back, accepted, rfl⟩
      exact map_eq_ok_iff.2 ⟨_, StringFacet.read_eq_ok_iff.2 (.inl single), rfl⟩
  | facetGroup written accepted =>
      have back := FacetGroup.isExact.read_of_write _ _ written
      have group := StringFacet.asGroup_eq_ok_iff.2 ⟨_, _, back, accepted, rfl⟩
      exact map_eq_ok_iff.2 ⟨_, StringFacet.read_eq_ok_iff.2 (.inr group), rfl⟩

/-- **Raw keys in order have rows in order.** -/
theorem before_of_lt (stored : table.Stores row key value)
    (stored' : table.Stores other key' value') (below : key < key') : row.Before other := by
  cases stored with
  | documentWord written docids =>
      cases stored' with
      | documentWord written' docids' =>
          exact (DocumentWord.ordersBy_tuple _ _ _ _ written written').1 below
  | fieldWordCount written docids =>
      cases stored' with
      | fieldWordCount written' docids' =>
          exact (FieldWordCount.ordersBy_tuple _ _ _ _ written written').1 below
  | wordPosition written docids =>
      cases stored' with
      | wordPosition written' docids' => exact WordPosition.lt_of_lt written written' below
  | prefixPosition written docids =>
      cases stored' with
      | prefixPosition written' docids' => exact WordPosition.lt_of_lt written written' below
  | facetString written accepted =>
      cases stored' with
      | facetString written' accepted' =>
          exact (FacetString.ordersBy_tuple _ _ _ _ written written').1 below
      | facetGroup written' accepted' =>
          have headers := (FacetString.lt_group_iff written written').1.1 below
          exact (Prod.Lex.toLex_lt_toLex.1 headers).elim le_of_lt fun same => le_of_eq same.1
  | facetGroup written accepted =>
      cases stored' with
      | facetString written' accepted' =>
          have headers := (FacetString.lt_group_iff written' written).2.1 below
          rcases Prod.Lex.toLex_lt_toLex.1 headers with less | ⟨-, negative⟩
          · exact less
          · exact absurd negative (not_lt.2 (FacetGroup.level_nonneg_of_write written))
      | facetGroup written' accepted' =>
          exact (FacetGroup.ordersBy_tuple _ _ _ _ written written').1 below

end TableName.Stores

/-! ## Stores filled so -/

theorem toOption_eq_some_iff {α ε : Type} {result : Except ε α} {a : α} :
    result.toOption = some a ↔ result = .ok a := by
  cases result <;> simp [Except.toOption]

/-- The rows of records are what is read from each of them. -/
theorem TableName.eq_filterMap_of_rows {table : TableName} {records : List RawRecord}
    {found : List Row} (ok : table.rows records = .ok found) :
    found = records.filterMap fun record => (Row.read table record.1 record.2).toOption := by
  induction records generalizing found with
  | nil =>
      cases ok
      rfl
  | cons record rest ih =>
      obtain ⟨key, value⟩ := record
      simp only [rows] at ok
      split at ok
      · cases ok
      · rename_i row read
        obtain ⟨others, more, rfl⟩ := map_eq_ok_iff.1 ok
        have first := toOption_eq_some_iff.2 read
        simp [first, ← ih more]

/-- The rows of a table that is there, if every record of it can be read. -/
theorem ReadTxn.exists_rows {txn : ReadTxn} {table : TableName} {t : Table}
    (there : txn.tables.get? table.text = some t)
    (readable : ∀ key value, (key, value) ∈ t.records → ∃ row, Row.read table key value = .ok row) :
    txn.rows table = .ok (t.records.filterMap fun record =>
      (Row.read table record.1 record.2).toOption) := by
  have listed : txn.records? table.text = some t.records := by
    rw [records?, there, Option.map_some]
  simp only [rows, listed]
  cases result : table.rows t.records with
  | error failure =>
      obtain ⟨before, key, value, after, flaw, split, -, bad, -⟩ := TableName.rows_error result
      obtain ⟨row, good⟩ := readable key value (by simp [split])
      rw [good] at bad
      cases bad
  | ok found => rw [TableName.eq_filterMap_of_rows result]

/-- Whatever has been put into the table was stored for a row. -/
def FilledByRows (history : List StoreEvent) (table : TableName) : Prop :=
  ∀ key value, .put table.text key value ∈ history → ∃ row, table.Stores row key value

section Filled

variable {names : List String} {history : List StoreEvent} {table : TableName} {store : Store}

theorem FilledByRows.exists_of_lastPut (filled : FilledByRows history table) {key value : Bytes}
    (last : LastPut names history table.text key value) : ∃ row, table.Stores row key value := by
  obtain ⟨past, future, rfl, -, -⟩ := last
  exact filled key value (List.mem_append_right _ List.mem_cons_self)

/-- A store that was filled with rows shows those put last, in the order of their keys. -/
theorem Reflects.rows_in_order (reflects : Reflects names history store)
    (there : TableExists names history table.text) (filled : FilledByRows history table) :
    ∃ found, store.freeze.rows table = .ok found ∧ found.Pairwise Row.Before ∧
      ∀ row, row ∈ found ↔
        ∃ key value, LastPut names history table.text key value ∧ table.Stores row key value := by
  obtain ⟨t, found⟩ := Option.isSome_iff_exists.1 ((reflects.tables table.text).2 there)
  have put (key value : Bytes) :
      (key, value) ∈ t.records ↔ LastPut names history table.text key value :=
    t.mem_records_iff.trans (reflects.records table.text t found key value)
  have stored (key value : Bytes) (member : (key, value) ∈ t.records) :
      ∃ row, table.Stores row key value := filled.exists_of_lastPut ((put key value).1 member)
  have agrees {key value : Bytes} {row : Row} (member : (key, value) ∈ t.records)
      (read : Row.read table key value = .ok row) : table.Stores row key value := by
    obtain ⟨other, stores⟩ := stored key value member
    rw [stores.read] at read
    cases read
    exact stores
  refine ⟨_, ReadTxn.exists_rows found ?readable, ?order, ?members⟩
  case readable =>
    intro key value member
    obtain ⟨row, stores⟩ := stored key value member
    exact ⟨row, stores.read⟩
  case order =>
    rw [List.pairwise_filterMap]
    refine t.ascending.imp_of_mem ?_
    rintro ⟨key, value⟩ ⟨key', value'⟩ member member' below row read row' read'
    exact (agrees member (toOption_eq_some_iff.1 read)).before_of_lt
      (agrees member' (toOption_eq_some_iff.1 read')) below
  case members =>
    intro row
    simp only [List.mem_filterMap, Prod.exists, toOption_eq_some_iff, ← put]
    constructor
    · rintro ⟨key, value, member, read⟩
      exact ⟨key, value, member, agrees member read⟩
    · rintro ⟨key, value, member, stores⟩
      exact ⟨key, value, member, stores.read⟩

end Filled

/-- **Raw keys are in natural order**: keys of words of documents, of word counts and of facets
in that of their parts, positions of one word by number, and keys of texts and of groups of texts
by field and level.  So the lines of a store that was filled with such keys are in that order,
whatever else was done to it, and the texts of a field come before its groups. -/
theorem keys_order_naturally :
    OrdersBy DocumentWord.write DocumentWord.tuple ∧
    OrdersBy FieldWordCount.write FieldWordCount.tuple ∧
    OrdersBy FacetString.write FacetString.tuple ∧
    OrdersBy FacetGroup.write FacetGroup.tuple ∧
    (∀ word m n a b, WordPosition.write ⟨word, m⟩ = .ok a → WordPosition.write ⟨word, n⟩ = .ok b →
      (a < b ↔ m < n)) ∧
    (∀ text group a b, FacetString.write text = .ok a → FacetGroup.write group = .ok b →
      (a < b ↔
        FacetHeader.tuple ⟨text.fieldId, 0⟩ < FacetHeader.tuple ⟨group.fieldId, group.level⟩) ∧
      (b < a ↔
        FacetHeader.tuple ⟨group.fieldId, group.level⟩ < FacetHeader.tuple ⟨text.fieldId, 0⟩)) ∧
    ∀ (names : List String) (history : List StoreEvent) (table : TableName),
      TableExists names history table.text → FilledByRows history table →
      ∃ found : List Row, found.Pairwise Row.Before ∧
        (∀ row, row ∈ found ↔ ∃ key value,
          LastPut names history table.text key value ∧ table.Stores row key value) ∧
        (World.run names history).store.freeze.snapshot (.table table)
          = .ok (unlines (found.map (Row.line table))) := by
  refine ⟨DocumentWord.ordersBy_tuple, FieldWordCount.ordersBy_tuple, FacetString.ordersBy_tuple,
    FacetGroup.ordersBy_tuple, ?positions, ?facets, ?lines⟩
  case positions =>
    intro word m n a b first second
    exact WordPosition.lt_iff_of_same_word first second
  case facets =>
    intro text group a b single grouped
    exact FacetString.lt_group_iff single grouped
  case lines =>
    intro names history table there filled
    obtain ⟨found, rows, order, members⟩ :=
      (World.reflects_run names history).rows_in_order there filled
    refine ⟨found, order, members, ?_⟩
    rw [ReadTxn.snapshot_table, ReadTxn.tableSnapshot, rows]
    rfl

/-- A group of texts is put before a text of the same field. -/
def groupThenText : List StoreEvent :=
  [.put "facet_id_string_docids" [0, 1, 1, 0, 0, 0, 0, 0, 0, 0, 9] [0], .begin,
    .put "facet_id_string_docids" [0, 1, 0, 195, 169] [0, 0]]

theorem filledByRows_groupThenText : FilledByRows groupThenText .facetIdStringDocids := by
  intro key value member
  simp only [groupThenText, TableName.text, List.mem_cons, StoreEvent.put.injEq, reduceCtorEq,
    List.not_mem_nil, or_false, false_or, true_and] at member
  rcases member with ⟨rfl, rfl⟩ | ⟨rfl, rfl⟩
  · have written : FacetGroup.write ⟨1, 1, 0, 9⟩ = .ok [0, 1, 1, 0, 0, 0, 0, 0, 0, 0, 9] := rfl
    have read : FacetGroupValue.read [0] = .ok ⟨none, IdSet.ofList []⟩ := rfl
    exact ⟨_, .facetGroup written read⟩
  · have written : FacetString.write ⟨1, "é"⟩ = .ok [0, 1, 0, 195, 169] := rfl
    have read : FacetStringValue.read [0, 0] = .ok ⟨"", IdSet.ofList []⟩ := rfl
    exact ⟨_, .facetString written read⟩

/-- What was put backwards is shown in order, and 255 comes before 256. -/
theorem backward_puts_in_order :
    (TableExists [TableName.facetIdStringDocids.text] groupThenText
        TableName.facetIdStringDocids.text ∧
      FilledByRows groupThenText .facetIdStringDocids ∧
      ∃ found : List Row, found.Pairwise Row.Before ∧
        (World.run [TableName.facetIdStringDocids.text] groupThenText).store.freeze.snapshot
            (.table .facetIdStringDocids)
          = .ok (unlines (found.map (Row.line .facetIdStringDocids)))) ∧
    WordPosition.write ⟨"ab", 255⟩ = .ok [97, 98, 0, 0, 0, 255] ∧
      WordPosition.write ⟨"ab", 256⟩ = .ok [97, 98, 0, 0, 1, 0] ∧
      ([97, 98, 0, 0, 0, 255] < ([97, 98, 0, 0, 1, 0] : Bytes) ↔ (255 : Int) < 256) ∧
    FacetString.write ⟨1, "é"⟩ = .ok [0, 1, 0, 195, 169] ∧
      FacetGroup.write ⟨1, 1, 0, 9⟩ = .ok [0, 1, 1, 0, 0, 0, 0, 0, 0, 0, 9] ∧
      ([0, 1, 0, 195, 169] < ([0, 1, 1, 0, 0, 0, 0, 0, 0, 0, 9] : Bytes) ↔
        FacetHeader.tuple ⟨1, 0⟩ < FacetHeader.tuple ⟨1, 1⟩) := by
  obtain ⟨-, -, -, -, positions, facets, lines⟩ := keys_order_naturally
  have there : TableExists [TableName.facetIdStringDocids.text] groupThenText
      TableName.facetIdStringDocids.text := .inl List.mem_cons_self
  obtain ⟨found, order, -, shown⟩ := lines _ _ _ there filledByRows_groupThenText
  exact ⟨⟨there, filledByRows_groupThenText, found, order, shown⟩, rfl, rfl,
    positions "ab" 255 256 _ _ rfl rfl, rfl, rfl, (facets ⟨1, "é"⟩ ⟨1, 1, 0, 9⟩ _ _ rfl rfl).1⟩

end IndexSnapshot
