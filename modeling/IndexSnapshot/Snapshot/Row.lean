/-
# IndexSnapshot.Snapshot.Row -- records of tables, taken apart

A row is a record whose key and value have been read.  Its table says how they are to be
read, and in what columns the row is written; two tables of prefixes have columns of
their own for rows of the same kind.

* `Row.read` reads one record, `TableName.rows` all records of a table.
* `rows_error` says that a failure is that of the first record which cannot be read.
-/
import IndexSnapshot.Failure
import IndexSnapshot.Snapshot.Line
import IndexSnapshot.Snapshot.Name
import IndexSnapshot.Store.Table

namespace IndexSnapshot

set_option autoImplicit false

/-- A record of a table, taken apart. -/
inductive Row where
  | word (key : Word) (docids : IdSet)
  | documentWord (key : DocumentWord) (docids : IdSet)
  | wordPair (key : WordPair) (docids : IdSet)
  | wordPosition (key : WordPosition) (docids : IdSet)
  | fieldWordCount (key : FieldWordCount) (docids : IdSet)
  | numericFacet (key : NumericFacet) (docids : IdSet)
  | stringFacet (facet : StringFacet)
  deriving DecidableEq

namespace Row

/-! ## One record -/

/-- The row of a key and a set of document ids that are read separately, the key first. -/
def readParts {K : Type} (row : K → IdSet → Row) (readKey : Bytes → Except Flaw K)
    (layout : DocidLayout) (key value : Bytes) : Except Flaw Row := do
  let k ← readKey key
  let ids ← layout.read value
  return row k ids

/-- The row of a record of the table. -/
def read : TableName → Bytes → Bytes → Except Flaw Row
  | .wordDocids => readParts .word Word.read .portable
  | .exactWordDocids => readParts .word Word.read .portable
  | .wordPrefixDocids => readParts .word Word.read .portable
  | .exactWordPrefixDocids => readParts .word Word.read .portable
  | .docidWordPositions => readParts .documentWord DocumentWord.read .array
  | .wordPairProximityDocids => readParts .wordPair WordPair.read .compact
  | .wordPrefixPairProximityDocids => readParts .wordPair WordPair.read .compact
  | .wordPositionDocids => readParts .wordPosition WordPosition.read .compact
  | .fieldIdWordCountDocids => readParts .fieldWordCount FieldWordCount.read .compact
  | .wordPrefixPositionDocids => readParts .wordPosition WordPosition.read .compact
  | .facetIdF64Docids => readParts .numericFacet NumericFacet.read .compact
  | .facetIdStringDocids => fun key value => (StringFacet.read key value).map .stringFacet

/-- The line of a row of the table. -/
def line (table : TableName) : Row → String
  | .word key ids => Line.word key ids
  | .documentWord key ids => Line.documentWord key ids
  | .wordPair key ids =>
      if table = .wordPrefixPairProximityDocids then Line.wordPrefixPair key ids
      else Line.wordPair key ids
  | .wordPosition key ids =>
      if table = .wordPrefixPositionDocids then Line.prefixPosition key ids
      else Line.wordPosition key ids
  | .fieldWordCount key ids => Line.fieldWordCount key ids
  | .numericFacet key ids => Line.numericFacet key ids
  | .stringFacet facet => Line.stringFacet facet

end Row

namespace TableName

/-! ## All records -/

/-- The rows of records of the table, or the failure of the first bad one. -/
def rows (table : TableName) : List RawRecord → Except Failure (List Row)
  | [] => .ok []
  | (key, value) :: rest =>
      match Row.read table key value with
      | .error flaw => .error (.ofRecordFlaw flaw table.text key)
      | .ok row => (rows table rest).map (row :: ·)

theorem rows_error {table : TableName} {records : List RawRecord} {failure : Failure}
    (failed : rows table records = .error failure) :
    ∃ before key value after flaw,
      records = before ++ (key, value) :: after ∧
        (∃ found, rows table before = .ok found) ∧
          Row.read table key value = .error flaw ∧
            failure = .ofRecordFlaw flaw table.text key := by
  induction records with
  | nil => cases failed
  | cons record rest ih =>
      obtain ⟨key, value⟩ := record
      simp only [rows] at failed
      split at failed
      · rename_i flaw bad
        cases failed
        exact ⟨[], key, value, rest, flaw, rfl, ⟨[], rfl⟩, bad, rfl⟩
      · rename_i row good
        cases more : rows table rest with
        | ok others => rw [more] at failed; cases failed
        | error later =>
            rw [more] at failed
            cases failed
            obtain ⟨before, k, v, after, flaw, rfl, ⟨found, fine⟩, bad, rfl⟩ := ih more
            exact ⟨(key, value) :: before, k, v, after, flaw, rfl,
              ⟨row :: found, by simp [rows, good, fine, Except.map]⟩, bad, rfl⟩

end TableName

end IndexSnapshot
