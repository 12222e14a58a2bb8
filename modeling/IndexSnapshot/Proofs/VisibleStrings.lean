/-
# IndexSnapshot.Proofs.VisibleStrings -- a changed text changes the snapshot

Texts are written as they are, in columns that are filled up with spaces, so a snapshot shows
what the index holds as long as its texts do not look like what stands around them: like the
end of a line, like filling, like the next column, or like the numbers that a group of facet
texts has in their place.  For texts that do not, each line shows its record, and the snapshot
all records; each of the four lets two indexes look the same.

* `Row.IsLegible` and `ReadTxn.IsLegible`: what the texts must not look like.
* `Row.eq_of_line_eq`: a line shows its row.
* `ReadTxn.text_ne_of_contents_ne`: different contents have different texts.
* `Store.different_contents_with_one_text`: where a text is not legible they need not.
-/
import IndexSnapshot.Proofs.Columns
import IndexSnapshot.Proofs.SnapshotContents

namespace IndexSnapshot

set_option autoImplicit false

/-! ## Legible texts -/

namespace Text

/-- A text in a column is legible if it has no line feed and does not end like filling. -/
structure Legible (width : Nat) (text : String) : Prop where
  noLineFeed : '\n' ∉ text.toList
  endsVisibly : EndsVisibly width text

instance (width : Nat) (text : String) : Decidable (Legible width text) :=
  decidable_of_iff ('\n' ∉ text.toList ∧ EndsVisibly width text)
    ⟨fun ⟨h, h'⟩ => ⟨h, h'⟩, fun ⟨h, h'⟩ => ⟨h, h'⟩⟩

/-- A text that begins like a group of facet texts: with a level in its column, and the first
digit of a bound behind it. -/
def BeginsLikeGroup (text : String) : Prop :=
  ∃ (level : Int) (digit : Char), 0 < level ∧ level < 256 ∧ digit.isDigit = true ∧
    (intColumn Line.levelWidth level ++ " ").toList ++ [digit] <+: text.toList

end Text

open Text (Legible StaysTogether BeginsLikeGroup)

/-- The width of the column of the second word. -/
def TableName.secondWidth (table : TableName) : Nat :=
  if table = .wordPrefixPairProximityDocids then Line.prefixWidth else Line.wordWidth

/-- The width of the column of a word with a position. -/
def TableName.positionedWidth (table : TableName) : Nat :=
  if table = .wordPrefixPositionDocids then Line.prefixWidth else Line.wordWidth

/-- The texts of a row are legible; those with another text behind them stay together, and the
normalized text of a facet does not begin like a group. -/
def Row.IsLegible (table : TableName) : Row → Prop
  | .word key _ => Legible Line.wordWidth key.word
  | .documentWord key _ => Legible Line.wordWidth key.word
  | .wordPair key _ =>
      Legible Line.wordWidth key.first ∧ StaysTogether Line.wordWidth key.first ∧
        Legible table.secondWidth key.second
  | .wordPosition key _ => Legible table.positionedWidth key.word
  | .fieldWordCount _ _ => True
  | .numericFacet _ _ => True
  | .stringFacet (.single key value) =>
      Legible Line.facetStringWidth key.normalized ∧
        StaysTogether Line.facetStringWidth key.normalized ∧
        ¬ BeginsLikeGroup key.normalized ∧ Legible Line.facetStringWidth value.spelling
  | .stringFacet (.group _ value) =>
      ∀ bounds ∈ value.bounds, Legible Line.facetStringWidth bounds.1 ∧
        StaysTogether Line.facetStringWidth bounds.1 ∧ Legible Line.facetStringWidth bounds.2

/-- All texts that an index holds under a name are legible. -/
def ReadTxn.IsLegible (txn : ReadTxn) : SnapshotName → Prop
  | .table table => ∀ found, txn.rows table = .ok found → ∀ row ∈ found, row.IsLegible table
  | .fieldDistribution => ∀ entry ∈ txn.main.fieldDistribution,
      Legible Line.fieldNameWidth entry.1
  | .fieldsIdsMap => ∀ entry ∈ txn.main.fieldsIds, Legible Line.fieldNameWidth entry.2
  | _ => True

/-- The names under which an index holds texts. -/
def SnapshotName.withTexts : List SnapshotName :=
  [ .table .wordDocids, .table .exactWordDocids, .table .wordPrefixDocids,
    .table .exactWordPrefixDocids, .table .docidWordPositions, .table .wordPairProximityDocids,
    .table .wordPrefixPairProximityDocids, .table .wordPositionDocids,
    .table .wordPrefixPositionDocids, .table .facetIdStringDocids, .fieldsIdsMap,
    .fieldDistribution ]

/-! ## Lines without line feeds -/

namespace Text

@[simp] theorem lineFeed_mem_column {width : Nat} {text : String} :
    '\n' ∈ (column width text).toList ↔ '\n' ∈ text.toList := by
  rw [toList_column, List.mem_append, List.mem_replicate]
  constructor
  · rintro (inside | ⟨-, impossible⟩)
    · exact inside
    · cases impossible
  · exact .inl

@[simp] theorem lineFeed_notMem_intColumn {width : Nat} {n : Int} :
    '\n' ∉ (intColumn width n).toList := by
  rw [intColumn, lineFeed_mem_column]
  exact notMem_toList_int (by decide) (by decide) n

end Text

namespace Line

@[simp] theorem lineFeed_notMem_docids {ids : IdSet} : '\n' ∉ (docids ids).toList := by
  intro member
  rcases mem_toList_docids member with digit | listed
  · exact absurd digit (by decide)
  · exact absurd listed (by decide)

end Line

/-- A legible row has a line without a line feed; numbers with fractions are left aside. -/
theorem Row.lineFeed_notMem_line {table : TableName} {row : Row} (legible : row.IsLegible table)
    (noFraction : ∀ key ids, row ≠ .numericFacet key ids) :
    '\n' ∉ (row.line table).toList := by
  cases row with
  | word key ids =>
      have word := legible.noLineFeed
      simp [line, Line.word, word]
  | documentWord key ids =>
      have word := legible.noLineFeed
      simp [line, Line.documentWord, word]
  | wordPair key ids =>
      have first := legible.1.noLineFeed
      have second := legible.2.2.noLineFeed
      simp only [line]
      split
      · simp [Line.wordPrefixPair, first, second]
      · simp [Line.wordPair, first, second]
  | wordPosition key ids =>
      have word := legible.noLineFeed
      simp only [line]
      split
      · simp [Line.prefixPosition, word]
      · simp [Line.wordPosition, word]
  | fieldWordCount key ids => simp [line, Line.fieldWordCount]
  | numericFacet key ids => exact absurd rfl (noFraction key ids)
  | stringFacet facet =>
      cases facet with
      | single key value =>
          have normalized := legible.1.noLineFeed
          have spelling := legible.2.2.2.noLineFeed
          simp [line, Line.stringFacet, Line.facetString, normalized, spelling]
      | group key value =>
          obtain ⟨bounds, ids⟩ := value
          cases bounds with
          | none => simp [line, Line.stringFacet, Line.facetGroup, Line.groupBounds]
          | some bounds =>
              obtain ⟨low, -, high⟩ := legible bounds rfl
              have low := low.noLineFeed
              have high := high.noLineFeed
              simp [line, Line.stringFacet, Line.facetGroup, Line.groupBounds, low, high]

/-! ## What a line shows -/

namespace Line

open Text (column intColumn column_inj column_append_inj intColumn_append_inj
  append_intColumn_inj)

variable {ids others : IdSet}

theorem word_inj {key other : Word} (legible : Legible wordWidth key.word)
    (otherLegible : Legible wordWidth other.word) (same : word key ids = word other others) :
    key = other ∧ ids = others := by
  obtain ⟨columns, rfl⟩ := append_docids_inj same
  rw [String.append_left_inj] at columns
  have words := column_inj legible.endsVisibly otherLegible.endsVisibly columns
  cases key
  cases other
  cases words
  exact ⟨rfl, rfl⟩

theorem documentWord_inj {key other : DocumentWord} (legible : Legible wordWidth key.word)
    (otherLegible : Legible wordWidth other.word)
    (same : documentWord key ids = documentWord other others) : key = other ∧ ids = others := by
  obtain ⟨columns, rfl⟩ := append_docids_inj same
  rw [String.append_left_inj] at columns
  obtain ⟨docid, columns⟩ := intColumn_append_inj columns
  have words := column_inj legible.endsVisibly otherLegible.endsVisibly columns
  cases key
  cases other
  cases docid
  cases words
  exact ⟨rfl, rfl⟩

/-- The second word may have a column of any width. -/
theorem wordPair_inj {width : Nat} {key other : WordPair}
    (legible : Legible wordWidth key.first ∧ StaysTogether wordWidth key.first ∧
      Legible width key.second)
    (otherLegible : Legible wordWidth other.first ∧ StaysTogether wordWidth other.first ∧
      Legible width other.second)
    (same : column wordWidth key.first ++ " " ++ column width key.second ++ " "
        ++ intColumn proximityWidth key.proximity ++ " " ++ docids ids
      = column wordWidth other.first ++ " " ++ column width other.second ++ " "
        ++ intColumn proximityWidth other.proximity ++ " " ++ docids others) :
    key = other ∧ ids = others := by
  obtain ⟨columns, rfl⟩ := append_docids_inj same
  rw [String.append_left_inj] at columns
  obtain ⟨columns, proximity⟩ := append_intColumn_inj columns
  obtain ⟨first, second⟩ := column_append_inj legible.2.1 otherLegible.2.1 columns
  have firsts := column_inj legible.1.endsVisibly otherLegible.1.endsVisibly first
  have seconds := column_inj legible.2.2.endsVisibly otherLegible.2.2.endsVisibly second
  cases key
  cases other
  cases firsts
  cases seconds
  cases proximity
  exact ⟨rfl, rfl⟩

/-- The word may have a column of any width. -/
theorem wordPosition_inj {width : Nat} {key other : WordPosition}
    (legible : Legible width key.word) (otherLegible : Legible width other.word)
    (same : column width key.word ++ " " ++ intColumn positionWidth key.position ++ " "
        ++ docids ids
      = column width other.word ++ " " ++ intColumn positionWidth other.position ++ " "
        ++ docids others) : key = other ∧ ids = others := by
  obtain ⟨columns, rfl⟩ := append_docids_inj same
  rw [String.append_left_inj] at columns
  obtain ⟨columns, position⟩ := append_intColumn_inj columns
  have words := column_inj legible.endsVisibly otherLegible.endsVisibly columns
  cases key
  cases other
  cases position
  cases words
  exact ⟨rfl, rfl⟩

/-! ## Facets -/

/-- The line of a single text, taken apart from the left. -/
theorem facetString_eq (key : FacetString) (value : FacetStringValue IdSet) :
    facetString key value
      = intColumn fieldIdWidth key.fieldId ++ " " ++ (column facetStringWidth key.normalized ++ " "
        ++ (column facetStringWidth value.spelling ++ " ")) ++ docids value.docids := by
  simp only [facetString, String.append_assoc]

theorem facetString_inj {key other : FacetString} {value value' : FacetStringValue IdSet}
    (legible : Row.IsLegible .facetIdStringDocids (.stringFacet (.single key value)))
    (otherLegible : Row.IsLegible .facetIdStringDocids (.stringFacet (.single other value')))
    (same : facetString key value = facetString other value') : key = other ∧ value = value' := by
  obtain ⟨normalized, together, -, spelling⟩ := legible
  obtain ⟨normalized', together', -, spelling'⟩ := otherLegible
  rw [facetString_eq, facetString_eq] at same
  obtain ⟨columns, docids⟩ := append_docids_inj same
  obtain ⟨fieldId, columns⟩ := intColumn_append_inj columns
  obtain ⟨first, second⟩ := column_append_inj together together' columns
  rw [String.append_left_inj] at second
  have texts := column_inj normalized.endsVisibly normalized'.endsVisibly first
  have spellings := column_inj spelling.endsVisibly spelling'.endsVisibly second
  cases key
  cases other
  cases value
  cases value'
  cases fieldId
  cases texts
  cases spellings
  cases docids
  exact ⟨rfl, rfl⟩

/-- Bounds are told from no bounds, and from other bounds. -/
theorem groupBounds_inj {bounds bounds' : Option (String × String)}
    (legible : ∀ pair ∈ bounds, Legible facetStringWidth pair.1 ∧
      StaysTogether facetStringWidth pair.1 ∧ Legible facetStringWidth pair.2)
    (legible' : ∀ pair ∈ bounds', Legible facetStringWidth pair.1 ∧
      StaysTogether facetStringWidth pair.1 ∧ Legible facetStringWidth pair.2)
    (same : groupBounds bounds = groupBounds bounds') : bounds = bounds' := by
  have filled (pair : String × String) : groupBounds (some pair) ≠ "" := by
    intro empty
    have length := congrArg String.length empty
    simp only [groupBounds, String.length_append] at length
    have space : " ".length = 1 := rfl
    rw [space] at length
    exact absurd length (Nat.succ_ne_zero _)
  cases bounds with
  | none =>
      cases bounds' with
      | none => rfl
      | some pair' => exact absurd same.symm (filled pair')
  | some pair =>
      cases bounds' with
      | none => exact absurd same (filled pair)
      | some pair' =>
          obtain ⟨low, together, high⟩ := legible pair rfl
          obtain ⟨low', together', high'⟩ := legible' pair' rfl
          unfold groupBounds at same
          dsimp only at same
          rw [String.append_left_inj] at same
          obtain ⟨first, second⟩ := column_append_inj together together' same
          have lows := column_inj low.endsVisibly low'.endsVisibly first
          have highs := column_inj high.endsVisibly high'.endsVisibly second
          rw [Prod.ext lows highs]

/-- The line of a group, taken apart from the left. -/
theorem facetGroup_eq (key : FacetGroup) (value : FacetGroupValue IdSet) :
    facetGroup key value
      = intColumn fieldIdWidth key.fieldId ++ " " ++ (intColumn levelWidth key.level ++ " "
        ++ (intColumn groupBoundWidth key.low ++ " " ++ (intColumn groupBoundWidth key.high ++ " "
          ++ groupBounds value.bounds))) ++ docids value.docids := by
  simp only [facetGroup, String.append_assoc]

theorem facetGroup_inj {key other : FacetGroup} {value value' : FacetGroupValue IdSet}
    (legible : Row.IsLegible .facetIdStringDocids (.stringFacet (.group key value)))
    (otherLegible : Row.IsLegible .facetIdStringDocids (.stringFacet (.group other value')))
    (same : facetGroup key value = facetGroup other value') : key = other ∧ value = value' := by
  rw [facetGroup_eq, facetGroup_eq] at same
  obtain ⟨columns, docids⟩ := append_docids_inj same
  obtain ⟨fieldId, columns⟩ := intColumn_append_inj columns
  obtain ⟨level, columns⟩ := intColumn_append_inj columns
  obtain ⟨low, columns⟩ := intColumn_append_inj columns
  obtain ⟨high, columns⟩ := intColumn_append_inj columns
  have bounds := groupBounds_inj legible otherLegible columns
  cases key
  cases other
  cases value
  cases value'
  cases fieldId
  cases level
  cases low
  cases high
  cases bounds
  cases docids
  exact ⟨rfl, rfl⟩

end Line

/-! ## Single texts and groups -/

/-- What begins a text with filling behind it begins the text, if it does not end like filling. -/
theorem prefix_of_prefix_append_replicate {α : Type} {c d : α} {start list : List α} {n : Nat}
    (ends : start.getLast? = some d) (other : d ≠ c)
    (begins : start <+: list ++ List.replicate n c) : start <+: list := by
  rcases Nat.le_total start.length list.length with within | beyond
  · exact List.prefix_of_prefix_length_le begins (List.prefix_append _ _) within
  · obtain ⟨more, rfl⟩ := List.prefix_of_prefix_length_le (List.prefix_append _ _) begins beyond
    rw [List.prefix_append_right_inj] at begins
    cases last : more.getLast? with
    | none =>
        rw [List.getLast?_eq_none_iff.1 last, List.append_nil]
    | some e =>
        have filling := List.eq_of_mem_replicate (begins.subset (List.mem_of_getLast? last))
        rw [List.getLast?_append, last] at ends
        exact absurd ((Option.some.inj ends).symm.trans filling) other

namespace Line

open Text (column intColumn)

/-- The level of a group is written with at most three digits. -/
theorem length_level {level : Int} (positive : 0 < level) (small : level < 256) :
    (toString level).length ≤ 3 := by
  have digits : toString level = level.toNat.repr := by
    rw [Int.toString_eq_repr, Int.repr_eq_if, if_pos (Int.le_of_lt positive)]
  rw [digits, Nat.length_repr_le_iff (by decide)]
  omega

/-- A bound of a group begins with a digit. -/
theorem exists_digit_of_low {low : Int} (natural : 0 ≤ low) :
    ∃ digit rest, digit.isDigit = true ∧ (toString low).toList = digit :: rest := by
  have digits : (toString low).toList = Nat.toDigits 10 low.toNat := by
    rw [Int.toString_eq_repr, Int.repr_eq_if, if_pos natural, Nat.toList_repr]
  rw [digits]
  cases written : Nat.toDigits 10 low.toNat with
  | nil => exact absurd written Nat.toDigits_ne_nil
  | cons digit rest =>
      have member : digit ∈ Nat.toDigits 10 low.toNat := written ▸ List.mem_cons_self
      exact ⟨digit, rest, Nat.isDigit_of_mem_toDigits (by decide) (by decide) member, rfl⟩

/-- A single text with the line of a group begins like a group. -/
theorem beginsLikeGroup_of_line_eq {key : FacetString} {value : FacetStringValue IdSet}
    {group : FacetGroup} {bounded : FacetGroupValue IdSet} (positive : 0 < group.level)
    (small : group.level < 256) (natural : 0 ≤ group.low)
    (same : facetString key value = facetGroup group bounded) : BeginsLikeGroup key.normalized := by
  rw [facetString_eq, facetGroup_eq] at same
  obtain ⟨columns, -⟩ := append_docids_inj same
  obtain ⟨-, columns⟩ := Text.intColumn_append_inj columns
  obtain ⟨digit, rest, isDigit, low⟩ := exists_digit_of_low natural
  refine ⟨group.level, digit, positive, small, isDigit, ?_⟩
  obtain ⟨leveled, shown⟩ : ∃ leveled, intColumn levelWidth group.level ++ " " = leveled :=
    ⟨_, rfl⟩
  have short : leveled.toList.length ≤ 4 := by
    have level := length_level positive small
    have space : " ".toList.length = 1 := rfl
    rw [← shown, String.toList_append, List.length_append, intColumn, Text.length_column, space,
      levelWidth]
    omega
  rw [shown] at columns ⊢
  have begins : leveled.toList ++ [digit] <+: (column facetStringWidth key.normalized).toList
      ++ (" " ++ (column facetStringWidth value.spelling ++ " ")).toList := by
    rw [← String.toList_append, ← String.append_assoc, columns, String.toList_append, List.prefix_append_right_inj,
      String.append_assoc, String.toList_append, intColumn, Text.toList_column, low]
    exact ⟨_, rfl⟩
  -- the column of the text is wide enough for the level and the digit, which is no filling
  have wide : (leveled.toList ++ [digit]).length
      ≤ (column facetStringWidth key.normalized).toList.length := by
    rw [List.length_append, List.length_singleton, Text.length_column, facetStringWidth]
    omega
  have inColumn := List.prefix_of_prefix_length_le begins (List.prefix_append _ _) wide
  rw [Text.toList_column] at inColumn
  have noFilling : digit ≠ ' ' := by
    rintro rfl
    cases isDigit
  exact prefix_of_prefix_append_replicate List.getLast?_concat noFilling inColumn

end Line

/-! ## Rows -/

theorem StringFacet.eq_of_line_eq {key value key' value' : Bytes} {a b : StringFacet}
    (readA : read key value = .ok a) (readB : read key' value' = .ok b)
    (legibleA : Row.IsLegible .facetIdStringDocids (.stringFacet a))
    (legibleB : Row.IsLegible .facetIdStringDocids (.stringFacet b))
    (same : Line.stringFacet a = Line.stringFacet b) : a = b := by
  cases a with
  | single text spelled =>
      cases b with
      | single text' spelled' =>
          obtain ⟨rfl, rfl⟩ := Line.facetString_inj legibleA legibleB same
          rfl
      | group group bounded =>
          obtain ⟨positive, small, natural, -⟩ := range_of_read_group readB
          have alike := Line.beginsLikeGroup_of_line_eq positive small natural same
          exact absurd alike legibleA.2.2.1
  | group group bounded =>
      cases b with
      | single text spelled =>
          obtain ⟨positive, small, natural, -⟩ := range_of_read_group readA
          have alike := Line.beginsLikeGroup_of_line_eq positive small natural same.symm
          exact absurd alike legibleB.2.2.1
      | group group' bounded' =>
          obtain ⟨rfl, rfl⟩ := Line.facetGroup_inj legibleA legibleB same
          rfl

/-- **A line shows its row**, if the texts of the row are legible. -/
theorem Row.eq_of_line_eq {table : TableName} (texts : .table table ∈ SnapshotName.withTexts)
    {key value key' value' : Bytes} {a b : Row} (readA : Row.read table key value = .ok a)
    (readB : Row.read table key' value' = .ok b) (legibleA : a.IsLegible table)
    (legibleB : b.IsLegible table) (same : a.line table = b.line table) : a = b := by
  -- rows that are read in parts: the parts of either row, and what their line shows
  have inParts {K : Type} {make : K → IdSet → Row} {readKey : Bytes → Except Flaw K}
      {layout : DocidLayout} (partsA : readParts make readKey layout key value = .ok a)
      (partsB : readParts make readKey layout key' value' = .ok b)
      (shown : ∀ k ids k' ids', (make k ids).IsLegible table → (make k' ids').IsLegible table →
        (make k ids).line table = (make k' ids').line table → k = k' ∧ ids = ids') : a = b := by
    obtain ⟨k, ids, -, rfl⟩ := exists_of_readParts partsA
    obtain ⟨k', ids', -, rfl⟩ := exists_of_readParts partsB
    obtain ⟨rfl, rfl⟩ := shown k ids k' ids' legibleA legibleB same
    rfl
  cases table with
  | wordDocids => exact inParts readA readB fun _ _ _ _ => Line.word_inj
  | exactWordDocids => exact inParts readA readB fun _ _ _ _ => Line.word_inj
  | wordPrefixDocids => exact inParts readA readB fun _ _ _ _ => Line.word_inj
  | exactWordPrefixDocids => exact inParts readA readB fun _ _ _ _ => Line.word_inj
  | docidWordPositions => exact inParts readA readB fun _ _ _ _ => Line.documentWord_inj
  | wordPairProximityDocids => exact inParts readA readB fun _ _ _ _ => Line.wordPair_inj
  | wordPrefixPairProximityDocids => exact inParts readA readB fun _ _ _ _ => Line.wordPair_inj
  | wordPositionDocids => exact inParts readA readB fun _ _ _ _ => Line.wordPosition_inj
  | wordPrefixPositionDocids => exact inParts readA readB fun _ _ _ _ => Line.wordPosition_inj
  | facetIdStringDocids =>
      obtain ⟨facet, read, rfl⟩ := map_eq_ok_iff.1 readA
      obtain ⟨facet', read', rfl⟩ := map_eq_ok_iff.1 readB
      rw [StringFacet.eq_of_line_eq read read' legibleA legibleB same]
  | fieldIdWordCountDocids => exact absurd texts (by decide)
  | facetIdF64Docids => exact absurd texts (by decide)

/-- Tables with texts have no numbers with fractions. -/
theorem Row.ne_numericFacet {table : TableName} (texts : .table table ∈ SnapshotName.withTexts)
    {key value : Bytes} {row : Row} (read : Row.read table key value = .ok row)
    (number : NumericFacet) (ids : IdSet) : row ≠ .numericFacet number ids := by
  have inParts {K : Type} {make : K → IdSet → Row} {readKey : Bytes → Except Flaw K}
      {layout : DocidLayout} (parts : readParts make readKey layout key value = .ok row)
      (other : ∀ k ids', make k ids' ≠ .numericFacet number ids) :
      row ≠ .numericFacet number ids := by
    obtain ⟨k, ids', -, rfl⟩ := exists_of_readParts parts
    exact other k ids'
  cases table with
  | facetIdStringDocids =>
      obtain ⟨facet, -, rfl⟩ := map_eq_ok_iff.1 read
      intro impossible
      cases impossible
  | facetIdF64Docids => exact absurd texts (by decide)
  | _ =>
      refine inParts read ?_
      intro _ _ impossible
      cases impossible

/-! ## Fields -/

namespace Line

theorem fieldName_inj {a b : Int × String} (legible : Legible fieldNameWidth a.2)
    (otherLegible : Legible fieldNameWidth b.2) (same : fieldName a.1 a.2 = fieldName b.1 b.2) :
    a = b := by
  obtain ⟨ids, columns⟩ := Text.intColumn_append_inj same
  have names := Text.column_inj legible.endsVisibly otherLegible.endsVisibly columns
  exact Prod.ext ids names

theorem fieldCount_inj {a b : String × Int} (legible : Legible fieldNameWidth a.1)
    (otherLegible : Legible fieldNameWidth b.1) (same : fieldCount a.1 a.2 = fieldCount b.1 b.2) :
    a = b := by
  obtain ⟨columns, counts⟩ := Text.append_intColumn_inj same
  have names := Text.column_inj legible.endsVisibly otherLegible.endsVisibly columns
  exact Prod.ext names counts

end Line

/-! ## Snapshots -/

/-- Lists with one text are the same, if each line shows what it is made of. -/
theorem eq_of_unlines_map_eq {α : Type} {line : α → String} {as bs : List α}
    (plainA : ∀ a ∈ as, '\n' ∉ (line a).toList) (plainB : ∀ b ∈ bs, '\n' ∉ (line b).toList)
    (shown : ∀ a ∈ as, ∀ b ∈ bs, line a = line b → a = b)
    (same : unlines (as.map line) = unlines (bs.map line)) : as = bs :=
  eq_of_map_eq shown
    (unlines_inj (List.forall_mem_map.2 plainA) (List.forall_mem_map.2 plainB) same)

namespace ReadTxn

variable {txn other : ReadTxn} {text : String}

/-- Tables with one text have the same rows, if each line shows its row. -/
theorem rows_eq_of_lines {table : TableName} (rendered : txn.tableSnapshot table = .ok text)
    (renderedOther : other.tableSnapshot table = .ok text)
    (plain : ∀ found, txn.rows table = .ok found → ∀ row ∈ found,
      '\n' ∉ (row.line table).toList)
    (plainOther : ∀ found, other.rows table = .ok found → ∀ row ∈ found,
      '\n' ∉ (row.line table).toList)
    (shown : ∀ found found', txn.rows table = .ok found → other.rows table = .ok found' →
      ∀ a ∈ found, ∀ b ∈ found', a.line table = b.line table → a = b) :
    txn.rows table = other.rows table := by
  obtain ⟨found, read, rfl⟩ := map_eq_ok_iff.1 rendered
  obtain ⟨found', read', same⟩ := map_eq_ok_iff.1 renderedOther
  rw [read, read']
  apply congrArg Except.ok
  exact eq_of_unlines_map_eq (plain found read) (plainOther found' read')
    (shown found found' read read') same.symm

theorem rows_eq_of_snapshot_eq {table : TableName} (texts : .table table ∈ SnapshotName.withTexts)
    (rendered : txn.tableSnapshot table = .ok text)
    (renderedOther : other.tableSnapshot table = .ok text) (legible : txn.IsLegible (.table table))
    (legibleOther : other.IsLegible (.table table)) : txn.rows table = other.rows table := by
  apply rows_eq_of_lines rendered renderedOther
  · intro found read row member
    obtain ⟨key, value, parts⟩ := read_of_mem_rows read member
    exact Row.lineFeed_notMem_line (legible found read row member)
      (Row.ne_numericFacet texts parts)
  · intro found read row member
    obtain ⟨key, value, parts⟩ := read_of_mem_rows read member
    exact Row.lineFeed_notMem_line (legibleOther found read row member)
      (Row.ne_numericFacet texts parts)
  · intro found found' read read' row member row' member' same
    obtain ⟨key, value, parts⟩ := read_of_mem_rows read member
    obtain ⟨key', value', parts'⟩ := read_of_mem_rows read' member'
    exact Row.eq_of_line_eq texts parts parts' (legible found read row member)
      (legibleOther found' read' row' member') same

theorem sortedFields_eq_of_snapshot_eq (rendered : txn.snapshot .fieldsIdsMap = .ok text)
    (renderedOther : other.snapshot .fieldsIdsMap = .ok text)
    (legible : txn.IsLegible .fieldsIdsMap) (legibleOther : other.IsLegible .fieldsIdsMap) :
    txn.sortedFields = other.sortedFields := by
  have same := Except.ok.inj
    ((written_of_snapshot rendered).trans (written_of_snapshot renderedOther).symm)
  have member {index : ReadTxn} {entry : Int × String} (sorted : entry ∈ index.sortedFields) :
      entry ∈ index.main.fieldsIds := List.mem_mergeSort.1 sorted
  refine eq_of_unlines_map_eq ?_ ?_ ?_ same
  · intro entry sorted
    have name := (legible entry (member sorted)).noLineFeed
    simp [Line.fieldName, name]
  · intro entry sorted
    have name := (legibleOther entry (member sorted)).noLineFeed
    simp [Line.fieldName, name]
  · intro a sorted b sorted' lines
    exact Line.fieldName_inj (legible a (member sorted)) (legibleOther b (member sorted')) lines

theorem sortedCounts_eq_of_snapshot_eq (rendered : txn.snapshot .fieldDistribution = .ok text)
    (renderedOther : other.snapshot .fieldDistribution = .ok text)
    (legible : txn.IsLegible .fieldDistribution)
    (legibleOther : other.IsLegible .fieldDistribution) :
    txn.sortedCounts = other.sortedCounts := by
  have same := Except.ok.inj
    ((written_of_snapshot rendered).trans (written_of_snapshot renderedOther).symm)
  have member {index : ReadTxn} {entry : String × Int} (sorted : entry ∈ index.sortedCounts) :
      entry ∈ index.main.fieldDistribution := List.mem_mergeSort.1 sorted
  refine eq_of_unlines_map_eq ?_ ?_ ?_ same
  · intro entry sorted
    have name := (legible entry (member sorted)).noLineFeed
    simp [Line.fieldCount, name]
  · intro entry sorted
    have name := (legibleOther entry (member sorted)).noLineFeed
    simp [Line.fieldCount, name]
  · intro a sorted b sorted' lines
    exact Line.fieldCount_inj (legible a (member sorted)) (legibleOther b (member sorted')) lines

/-- **Different contents have different texts**, under each name that holds texts, as long as
all of these are legible. -/
theorem text_ne_of_contents_ne {store store' : Store} {name : SnapshotName} {text text' : String}
    (texts : name ∈ SnapshotName.withTexts) (rendered : store.freeze.snapshot name = .ok text)
    (rendered' : store'.freeze.snapshot name = .ok text') (legible : store.freeze.IsLegible name)
    (legible' : store'.freeze.IsLegible name)
    (differ : ¬ store.freeze.SameContents store'.freeze name) : text ≠ text' := by
  rintro rfl
  apply differ
  cases name with
  | table table => exact rows_eq_of_snapshot_eq texts rendered rendered' legible legible'
  | fieldsIdsMap =>
      intro id
      rw [← get?_sortedFields, ← get?_sortedFields,
        sortedFields_eq_of_snapshot_eq rendered rendered' legible legible']
  | fieldDistribution =>
      intro field
      rw [← get?_sortedCounts, ← get?_sortedCounts,
        sortedCounts_eq_of_snapshot_eq rendered rendered' legible legible']
  | _ => exact absurd texts (by decide)

end ReadTxn

/-! ## Small indexes -/

namespace Store

/-- An index with the given fields. -/
def ofFields (fields : Entries Int String) : Store :=
  standard.setMain { fieldsIds := fields }

/-- An index with one record. -/
def ofRecord (table : TableName) (key value : Bytes) : Store :=
  (standard.put? table.text key value).getD standard

theorem snapshot_ofFields {fields : Entries Int String}
    (sorted : fields.Pairwise fun a b => decide (a.1 ≤ b.1) = true)
    (short : (ofFields fields).freeze.isWritable .fieldsIdsMap = true) :
    (ofFields fields).freeze.snapshot .fieldsIdsMap
      = .ok (unlines (fields.map fun (id, name) => Line.fieldName id name)) := by
  rw [ReadTxn.snapshot_of_isWritable short]
  show Except.ok (unlines (List.map _ (List.mergeSort fields _))) = _
  rw [List.mergeSort_of_pairwise sorted]

theorem rows_ofRecord {table : TableName} {key value : Bytes} {row : Row}
    (read : Row.read table key value = .ok row) :
    (ofRecord table key value).freeze.rows table = .ok [row] := by
  have records : (ofRecord table key value).freeze.records? table.text = some [(key, value)] := by
    cases table <;> rfl
  simp only [ReadTxn.rows, records, TableName.rows, read]
  rfl

/-- Spaces within a name are shown, even two of them, and beyond the column too. -/
theorem inner_space_changes_text : ∃ text text',
    (ofFields [(0, "name of the  place")]).freeze.snapshot .fieldsIdsMap = .ok text ∧
      (ofFields [(0, "name of the place")]).freeze.snapshot .fieldsIdsMap = .ok text' ∧
        text ≠ text' := by
  have rendered :=
    snapshot_ofFields (List.pairwise_singleton _ ((0 : Int), "name of the  place")) (by decide)
  have rendered' :=
    snapshot_ofFields (List.pairwise_singleton _ ((0 : Int), "name of the place")) (by decide)
  refine ⟨_, _, rendered, rendered', ?_⟩
  apply ReadTxn.text_ne_of_contents_ne _ rendered rendered'
  · exact List.forall_mem_singleton.2 (by decide)
  · exact List.forall_mem_singleton.2 (by decide)
  · intro same
    exact absurd (same 0) (by decide)
  · decide

/-! ## Texts that are not legible -/

/-- Different contents under a name, and one text. -/
def Indistinct (store other : Store) (name : SnapshotName) : Prop :=
  ¬ store.freeze.SameContents other.freeze name ∧
    ∃ text, store.freeze.snapshot name = .ok text ∧ other.freeze.snapshot name = .ok text

theorem indistinct_of_line_eq {table : TableName} {key value key' value' : Bytes} (row row' : Row)
    (read : Row.read table key value = .ok row) (read' : Row.read table key' value' = .ok row')
    (differ : row ≠ row') (same : row.line table = row'.line table) :
    (ofRecord table key value).Indistinct (ofRecord table key' value') (.table table) := by
  have rows := rows_ofRecord read
  have rows' := rows_ofRecord read'
  refine ⟨?_, unlines [row.line table], ?_, ?_⟩
  · intro contents
    have lists := Except.ok.inj (rows.symm.trans (contents.trans rows'))
    exact differ (List.cons.inj lists).1
  · rw [ReadTxn.snapshot_table, ReadTxn.tableSnapshot, rows]
    rfl
  · rw [ReadTxn.snapshot_table, ReadTxn.tableSnapshot, rows', same]
    rfl

/-- **Texts that look like what stands around them hide differences**: one that ends like
filling, one with the end of a line in it, two words with a space that could be either's, and a
normalized text that looks like the numbers of a group. -/
theorem different_contents_with_one_text :
    (ofFields [(0, "a")]).Indistinct (ofFields [(0, "a ")]) .fieldsIdsMap ∧
    (ofFields [(0, "first           \n1   second field name")]).Indistinct
      (ofFields [(0, "first"), (1, "second field name")]) .fieldsIdsMap ∧
    (ofRecord .wordPairProximityDocids
        (List.replicate 16 97 ++ [32, 98, 0] ++ List.replicate 16 99 ++ [1]) []).Indistinct
      (ofRecord .wordPairProximityDocids
        (List.replicate 16 97 ++ [0, 98, 32] ++ List.replicate 16 99 ++ [1]) [])
      (.table .wordPairProximityDocids) ∧
    (ofRecord .facetIdStringDocids [0, 0, 0, 49, 32, 32, 53]
        [0, 8, 32, 49, 50, 51, 52, 53, 54, 55]).Indistinct
      (ofRecord .facetIdStringDocids [0, 0, 1, 0, 0, 0, 5, 0, 18, 214, 135] [0])
      (.table .facetIdStringDocids) := by
  refine ⟨?filling, ?lineEnd, ?words, ?group⟩
  case filling =>
    refine ⟨fun same => absurd (same 0) (by decide), _,
      snapshot_ofFields (by decide) (by decide), ?_⟩
    rw [snapshot_ofFields (by decide) (by decide)]
    rfl
  case lineEnd =>
    refine ⟨fun same => absurd (same 1) (by decide), _,
      snapshot_ofFields (by decide) (by decide), ?_⟩
    rw [snapshot_ofFields (by decide) (by decide)]
    rfl
  case words =>
    apply indistinct_of_line_eq
      (.wordPair ⟨"aaaaaaaaaaaaaaaa b", "cccccccccccccccc", 1⟩ (IdSet.ofList []))
      (.wordPair ⟨"aaaaaaaaaaaaaaaa", "b cccccccccccccccc", 1⟩ (IdSet.ofList []))
    · rfl
    · rfl
    · intro same
      exact absurd (Row.wordPair.inj same).1 (by decide)
    · exact congrArg (· ++ Line.docids _) (by decide)
  case group =>
    apply indistinct_of_line_eq
      (.stringFacet (.single ⟨0, "1  5"⟩ ⟨" 1234567", IdSet.ofList []⟩))
      (.stringFacet (.group ⟨0, 1, 5, 1234567⟩ ⟨none, IdSet.ofList []⟩))
    · rfl
    · rfl
    · intro same
      cases Row.stringFacet.inj same
    · exact congrArg (· ++ Line.docids _) (by decide)

end Store

end IndexSnapshot
