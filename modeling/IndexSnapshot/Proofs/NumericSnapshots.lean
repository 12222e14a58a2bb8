/-
# IndexSnapshot.Proofs.NumericSnapshots -- a snapshot without texts shows everything

Where an index holds numbers, sets of document ids and bytes only, nothing that it holds can look
like what stands around it: columns may overflow and sets may be of any size, but spaces,
brackets and line ends stand where the columns, sets and lines end, and nowhere else.  So the text
of such a name shows what is held under it, and for numbers with fractions it shows their bits,
as long as they are numbers.

* `Bytes.ofHex?_hex`: hexadecimal digits read back.
* `Line.fieldWordCount_inj` and `Line.numericFacet_inj`: a line shows its record.
* `ReadTxn.numeric_text_shows_contents`.
-/
import IndexSnapshot.Proofs.PlainNumerals
import IndexSnapshot.Proofs.VisibleStrings

namespace IndexSnapshot

set_option autoImplicit false

/-! ## Hexadecimal digits -/

namespace Bytes

theorem hexValue?_hexDigit {n : Nat} (small : n < 16) : hexValue? (hexDigit n) = some n := by
  have all : ∀ n < 16, hexValue? (hexDigit n) = some n := by decide
  exact all n small

theorem ofHexOnto_hexPair (before : Bytes) (b : UInt8) (rest : List Char) :
    ofHexOnto before (hexPair b.toNat ++ rest) = ofHexOnto (b :: before) rest := by
  have small := b.toNat_lt
  have digits : 16 * (b.toNat / 16) + b.toNat % 16 = b.toNat := Nat.div_add_mod _ _
  simp only [hexPair, List.cons_append, List.nil_append, ofHexOnto]
  rw [hexValue?_hexDigit (by omega), hexValue?_hexDigit (by omega)]
  simp only [digits, UInt8.ofNat_toNat]

theorem ofHexOnto_flatMap (before bytes : Bytes) :
    ofHexOnto before (bytes.flatMap fun b => hexPair b.toNat) = some (before.reverse ++ bytes) := by
  induction bytes generalizing before with
  | nil => simp [ofHexOnto]
  | cons b rest ih =>
      rw [List.flatMap_cons, ofHexOnto_hexPair, ih]
      simp

/-- **Hexadecimal digits read back.** -/
theorem ofHex?_hex (bytes : Bytes) : ofHex? (hex bytes) = some bytes := by
  rw [ofHex?, hex, String.toList_ofList, ofHexOnto_flatMap, List.reverse_nil, List.nil_append]

theorem hex_inj {a b : Bytes} : hex a = hex b ↔ a = b := by
  constructor
  · intro same
    have reads := ofHex?_hex a
    rw [same, ofHex?_hex] at reads
    exact (Option.some.inj reads).symm
  · rintro rfl
    rfl

/-- There are only letters and digits in it. -/
theorem lineFeed_notMem_hex (bytes : Bytes) : '\n' ∉ (hex bytes).toList := by
  rw [hex, String.toList_ofList, List.mem_flatMap]
  rintro ⟨b, -, member⟩
  have digit : ∀ n < 16, hexDigit n ≠ '\n' := by decide
  have small := b.toNat_lt
  simp only [hexPair, List.mem_cons, List.not_mem_nil, or_false] at member
  rcases member with high | low
  · exact digit _ (by omega) high.symm
  · exact digit _ (by omega) low.symm

end Bytes

/-! ## What a line shows -/

namespace Line

open Text (column intColumn column_inj column_append_inj intColumn_inj intColumn_append_inj)

variable {ids others : IdSet}

theorem fieldDocids_inj {m n : Int} (same : fieldDocids m ids = fieldDocids n others) :
    m = n ∧ ids = others := by
  obtain ⟨columns, rfl⟩ := append_docids_inj same
  rw [String.append_left_inj] at columns
  exact ⟨intColumn_inj.1 columns, rfl⟩

theorem fieldWordCount_inj {key other : FieldWordCount}
    (same : fieldWordCount key ids = fieldWordCount other others) :
    key = other ∧ ids = others := by
  obtain ⟨columns, rfl⟩ := append_docids_inj same
  rw [String.append_left_inj] at columns
  obtain ⟨fieldId, counts⟩ := intColumn_append_inj columns
  have counts := intColumn_inj.1 counts
  cases key
  cases other
  cases fieldId
  cases counts
  exact ⟨rfl, rfl⟩

/-- A number is told from what stands behind it. -/
theorem number_append_inj {width : Nat} {v w : Double} {a b : String} (real : v.isNaN = false)
    (same : column width v.plain ++ " " ++ a = column width w.plain ++ " " ++ b) :
    v = w ∧ a = b := by
  have unbroken := v.unbroken_plain
  have unbroken' := w.unbroken_plain
  obtain ⟨columns, rests⟩ :=
    column_append_inj unbroken.staysTogether unbroken'.staysTogether same
  have texts := column_inj unbroken.endsVisibly unbroken'.endsVisibly columns
  exact ⟨(Double.plain_inj real).1 texts, rests⟩

/-- The line of numbers, taken apart from the left. -/
theorem numericFacet_eq (key : NumericFacet) (ids : IdSet) :
    numericFacet key ids
      = intColumn fieldIdWidth key.fieldId ++ " " ++ (intColumn levelWidth key.level ++ " "
        ++ (column numberWidth key.low.plain ++ " " ++ (column numberWidth key.high.plain ++ " "
          ++ ""))) ++ docids ids := by
  simp only [numericFacet, String.append_assoc, String.append_empty]

theorem numericFacet_inj {key other : NumericFacet} (low : key.low.isNaN = false)
    (high : key.high.isNaN = false) (same : numericFacet key ids = numericFacet other others) :
    key = other ∧ ids = others := by
  rw [numericFacet_eq, numericFacet_eq] at same
  obtain ⟨columns, rfl⟩ := append_docids_inj same
  obtain ⟨fieldId, columns⟩ := intColumn_append_inj columns
  obtain ⟨level, columns⟩ := intColumn_append_inj columns
  obtain ⟨lows, columns⟩ := number_append_inj low columns
  obtain ⟨highs, -⟩ := number_append_inj high columns
  cases key
  cases other
  cases fieldId
  cases level
  cases lows
  cases highs
  exact ⟨rfl, rfl⟩

end Line

/-! ## Snapshots -/

/-- The names under which an index holds numbers, sets of document ids, or bytes. -/
def SnapshotName.numeric : List SnapshotName :=
  [ .table .fieldIdWordCountDocids, .table .facetIdF64Docids, .documentsIds,
    .softDeletedDocumentsIds, .geoFacetedDocumentsIds, .numberFacetedDocumentsIds,
    .stringFacetedDocumentsIds, .externalDocumentsIds, .wordsFst, .wordsPrefixesFst ]

/-- Values that depend on their names alone, by name. -/
theorem Entries.get?_map {K V W : Type} [DecidableEq K] (entries : Entries K V) (f : K → W)
    (name : K) :
    Entries.get? (entries.map fun entry => (entry.1, f entry.1)) name
      = (entries.get? name).map fun _ => f name := by
  induction entries with
  | nil => rfl
  | cons entry rest ih =>
      obtain ⟨k, v⟩ := entry
      by_cases same : k = name
      · simp [get?, same]
      · simp [get?, same, ih]

namespace ReadTxn

/-- The bounds of numeric facets are numbers. -/
def BoundsAreNumbers (txn : ReadTxn) : Prop :=
  ∀ found, txn.rows .facetIdF64Docids = .ok found → ∀ key ids, .numericFacet key ids ∈ found →
    key.low.isNaN = false ∧ key.high.isNaN = false

variable {txn other : ReadTxn} {text : String}

/-- Each row of the table is a word count of a field. -/
theorem exists_wordCount {found : List Row} (read : txn.rows .fieldIdWordCountDocids = .ok found)
    {row : Row} (member : row ∈ found) : ∃ count ids, row = .fieldWordCount count ids := by
  obtain ⟨_, _, parts⟩ := read_of_mem_rows read member
  obtain ⟨count, ids, -, rfl⟩ := Row.exists_of_readParts parts
  exact ⟨count, ids, rfl⟩

/-- Each row of the table is a numeric facet. -/
theorem exists_numericFacet {found : List Row} (read : txn.rows .facetIdF64Docids = .ok found)
    {row : Row} (member : row ∈ found) : ∃ facet ids, row = .numericFacet facet ids := by
  obtain ⟨_, _, parts⟩ := read_of_mem_rows read member
  obtain ⟨facet, ids, -, rfl⟩ := Row.exists_of_readParts parts
  exact ⟨facet, ids, rfl⟩

theorem wordCounts_eq_of_text_eq
    (rendered : txn.tableSnapshot .fieldIdWordCountDocids = .ok text)
    (rendered' : other.tableSnapshot .fieldIdWordCountDocids = .ok text) :
    txn.rows .fieldIdWordCountDocids = other.rows .fieldIdWordCountDocids := by
  have plain (txn : ReadTxn) (found : List Row)
      (read : txn.rows .fieldIdWordCountDocids = .ok found) (row : Row) (member : row ∈ found) :
      '\n' ∉ (row.line .fieldIdWordCountDocids).toList := by
    obtain ⟨count, ids, rfl⟩ := exists_wordCount read member
    simp [Row.line, Line.fieldWordCount]
  apply rows_eq_of_lines rendered rendered' (plain txn) (plain other)
  intro found found' read read' row member row' member' same
  obtain ⟨count, ids, rfl⟩ := exists_wordCount read member
  obtain ⟨count', ids', rfl⟩ := exists_wordCount read' member'
  obtain ⟨rfl, rfl⟩ := Line.fieldWordCount_inj same
  rfl

theorem numericFacets_eq_of_text_eq (rendered : txn.tableSnapshot .facetIdF64Docids = .ok text)
    (rendered' : other.tableSnapshot .facetIdF64Docids = .ok text)
    (bounds : txn.BoundsAreNumbers) :
    txn.rows .facetIdF64Docids = other.rows .facetIdF64Docids := by
  have number (v : Double) : '\n' ∉ v.plain.toList :=
    Double.notMem_toList_plain (by decide) (by decide)
  have plain (txn : ReadTxn) (found : List Row) (read : txn.rows .facetIdF64Docids = .ok found)
      (row : Row) (member : row ∈ found) : '\n' ∉ (row.line .facetIdF64Docids).toList := by
    obtain ⟨facet, ids, rfl⟩ := exists_numericFacet read member
    simp [Row.line, Line.numericFacet, number]
  apply rows_eq_of_lines rendered rendered' (plain txn) (plain other)
  intro found found' read read' row member row' member' same
  obtain ⟨facet, ids, rfl⟩ := exists_numericFacet read member
  obtain ⟨facet', ids', rfl⟩ := exists_numericFacet read' member'
  obtain ⟨low, high⟩ := bounds found read facet ids member
  obtain ⟨rfl, rfl⟩ := Line.numericFacet_inj low high same
  rfl

/-- Sets of all fields are shown with the ids of the fields. -/
theorem faceted_eq_of_text_eq {sets sets' : Int → IdSet}
    (same : unlines (txn.sortedFields.map fun (id, _) => Line.fieldDocids id (sets id))
      = unlines (other.sortedFields.map fun (id, _) => Line.fieldDocids id (sets' id)))
    (id : Int) :
    (txn.main.fieldsIds.get? id).map (fun _ => sets id)
      = (other.main.fieldsIds.get? id).map fun _ => sets' id := by
  have lines : unlines ((txn.sortedFields.map fun field => (field.1, sets field.1)).map
        fun pair => Line.fieldDocids pair.1 pair.2)
      = unlines ((other.sortedFields.map fun field => (field.1, sets' field.1)).map
        fun pair => Line.fieldDocids pair.1 pair.2) := by
    rw [List.map_map, List.map_map]
    exact same
  have plain (pair : Int × IdSet) : '\n' ∉ (Line.fieldDocids pair.1 pair.2).toList := by
    simp [Line.fieldDocids]
  have pairs := eq_of_unlines_map_eq (fun pair _ => plain pair) (fun pair _ => plain pair)
    (fun _ _ _ _ shown => Prod.ext_iff.2 (Line.fieldDocids_inj shown)) lines
  have values := congrArg (Entries.get? · id) pairs
  rwa [Entries.get?_map, Entries.get?_map, get?_sortedFields, get?_sortedFields] at values

/-- Two strings of bytes are shown, each on a line of its own. -/
theorem eq_of_external_text_eq {soft hard soft' hard' : Bytes}
    (same : unlines ["soft: " ++ Bytes.hex soft, "hard: " ++ Bytes.hex hard]
      = unlines ["soft: " ++ Bytes.hex soft', "hard: " ++ Bytes.hex hard']) :
    soft = soft' ∧ hard = hard' := by
  have plain (soft hard : Bytes) :
      ∀ line ∈ ["soft: " ++ Bytes.hex soft, "hard: " ++ Bytes.hex hard], '\n' ∉ line.toList := by
    simp [Bytes.lineFeed_notMem_hex]
  have lines := unlines_inj (plain soft hard) (plain soft' hard') same
  obtain ⟨softs, rest⟩ := List.cons.inj lines
  obtain ⟨hards, -⟩ := List.cons.inj rest
  rw [String.append_right_inj, Bytes.hex_inj] at softs hards
  exact ⟨softs, hards⟩

/-- **The text of a name without texts shows what is held under it**: the records of a table,
in order, or a set, or the sets of all fields, or bytes. -/
theorem numeric_text_shows_contents {store store' : Store} {name : SnapshotName} {text : String}
    (numeric : name ∈ SnapshotName.numeric) (rendered : store.freeze.snapshot name = .ok text)
    (rendered' : store'.freeze.snapshot name = .ok text)
    (bounds : name = .table .facetIdF64Docids → store.freeze.BoundsAreNumbers) :
    store.freeze.SameContents store'.freeze name := by
  -- a set behind nothing is told from what stands before it
  have set {ids ids' : IdSet} (same : Line.docids ids = Line.docids ids') : ids = ids' :=
    (Line.append_docids_inj (congrArg ("" ++ ·) same)).2
  have same := (written_of_snapshot rendered).trans (written_of_snapshot rendered').symm
  cases name with
  | table table =>
      cases table with
      | fieldIdWordCountDocids => exact wordCounts_eq_of_text_eq rendered rendered'
      | facetIdF64Docids => exact numericFacets_eq_of_text_eq rendered rendered' (bounds rfl)
      | _ => exact absurd numeric (by decide)
  | documentsIds => exact set (Except.ok.inj same)
  | softDeletedDocumentsIds => exact set (Except.ok.inj same)
  | geoFacetedDocumentsIds => exact set (Except.ok.inj same)
  | numberFacetedDocumentsIds => exact faceted_eq_of_text_eq (Except.ok.inj same)
  | stringFacetedDocumentsIds => exact faceted_eq_of_text_eq (Except.ok.inj same)
  | externalDocumentsIds => exact eq_of_external_text_eq (Except.ok.inj same)
  | wordsFst => exact Bytes.hex_inj.1 (Except.ok.inj same)
  | wordsPrefixesFst => exact Bytes.hex_inj.1 (Except.ok.inj same)
  | _ => exact absurd numeric (by decide)

end ReadTxn

theorem Store.snapshot_ofRecord {table : TableName} {key value : Bytes} {row : Row}
    (read : Row.read table key value = .ok row) :
    (ofRecord table key value).freeze.snapshot (.table table)
      = .ok (unlines [row.line table]) := by
  rw [ReadTxn.snapshot_table, ReadTxn.tableSnapshot, rows_ofRecord read]
  rfl

/-- The ids of a record may be stored in any order; bounds of zero with a sign and of a tenth are
numbers. -/
theorem stored_order_of_ids_is_not_content :
    let key : Bytes := [0, 1, 1] ++ [127, 255, 255, 255, 255, 255, 255, 255]
      ++ [191, 185, 153, 153, 153, 153, 153, 154] ++ [128, 0, 0, 0, 0, 0, 0, 0]
      ++ [63, 185, 153, 153, 153, 153, 153, 154]
    let store := Store.ofRecord .facetIdF64Docids key [2, 0, 0, 0, 1, 0, 0, 0]
    let store' := Store.ofRecord .facetIdF64Docids key [1, 0, 0, 0, 2, 0, 0, 0]
    SnapshotName.table .facetIdF64Docids ∈ SnapshotName.numeric ∧ store.freeze.BoundsAreNumbers ∧
      ∃ text, store.freeze.snapshot (.table .facetIdF64Docids) = .ok text ∧
        store'.freeze.snapshot (.table .facetIdF64Docids) = .ok text ∧
          store.freeze.SameContents store'.freeze (.table .facetIdF64Docids) := by
  intro key store store'
  have order : IdSet.ofList [2, 1] = IdSet.ofList [1, 2] := by
    apply IdSet.ext
    intro id
    simp [IdSet.mem_ofList, or_comm]
  have read : Row.read .facetIdF64Docids key [2, 0, 0, 0, 1, 0, 0, 0]
      = .ok (.numericFacet ⟨1, 1, ⟨0x8000000000000000⟩, ⟨0x3FB999999999999A⟩⟩
        (IdSet.ofList [2, 1])) := rfl
  have read' : Row.read .facetIdF64Docids key [1, 0, 0, 0, 2, 0, 0, 0]
      = .ok (.numericFacet ⟨1, 1, ⟨0x8000000000000000⟩, ⟨0x3FB999999999999A⟩⟩
        (IdSet.ofList [1, 2])) := rfl
  rw [order] at read
  have numeric : SnapshotName.table .facetIdF64Docids ∈ SnapshotName.numeric := by decide
  have bounds : store.freeze.BoundsAreNumbers := by
    intro found rows facet ids member
    rw [Store.rows_ofRecord read] at rows
    cases rows
    cases List.mem_singleton.1 member
    exact ⟨by decide, by decide⟩
  have rendered := Store.snapshot_ofRecord read
  have rendered' := Store.snapshot_ofRecord read'
  exact ⟨numeric, bounds, _, rendered, rendered',
    ReadTxn.numeric_text_shows_contents numeric rendered rendered' fun _ => bounds⟩

end IndexSnapshot
