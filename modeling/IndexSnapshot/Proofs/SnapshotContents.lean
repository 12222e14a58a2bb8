/-
# IndexSnapshot.Proofs.SnapshotContents -- what a snapshot is a snapshot of

A snapshot shows what the index holds under a name: the records of a table, taken apart; or
values by name, in whatever order they came; or a set, or bytes.  Rows come from records, so
their integers are in range, and entries are sorted without changing what any name has.

* `ReadTxn.SameContents`: two indexes hold the same under a name.
* `ReadTxn.read_of_mem_rows`: each row has been read from a record.
* `Entries.get?_mergeSort`: sorting leaves each name its value.
-/
import IndexSnapshot.Proofs.FacetRoundTrip
import IndexSnapshot.Snapshot.Text

namespace IndexSnapshot

set_option autoImplicit false

/-! ## The same contents -/

/-- Two indexes hold the same under a name. -/
def ReadTxn.SameContents (txn other : ReadTxn) : SnapshotName → Prop
  | .settings => ∀ setting ∈ Setting.catalogue,
      txn.setting setting.name = other.setting setting.name
  | .table table => txn.rows table = other.rows table
  | .documentsIds => txn.main.documents = other.main.documents
  | .stopWords => Option.Rel List.Perm txn.main.stopWords other.main.stopWords
  | .softDeletedDocumentsIds => txn.main.softDeleted = other.main.softDeleted
  | .fieldDistribution => ∀ name,
      txn.main.fieldDistribution.get? name = other.main.fieldDistribution.get? name
  | .fieldsIdsMap => ∀ id, txn.main.fieldsIds.get? id = other.main.fieldsIds.get? id
  | .geoFacetedDocumentsIds => txn.main.geoFaceted = other.main.geoFaceted
  | .externalDocumentsIds =>
      txn.main.externalSoft = other.main.externalSoft ∧
        txn.main.externalHard = other.main.externalHard
  | .numberFacetedDocumentsIds => ∀ id,
      (txn.main.fieldsIds.get? id).map (fun _ => txn.numberFacetedIn id)
        = (other.main.fieldsIds.get? id).map fun _ => other.numberFacetedIn id
  | .stringFacetedDocumentsIds => ∀ id,
      (txn.main.fieldsIds.get? id).map (fun _ => txn.stringFacetedIn id)
        = (other.main.fieldsIds.get? id).map fun _ => other.stringFacetedIn id
  | .wordsFst => txn.main.wordsFst = other.main.wordsFst
  | .wordsPrefixesFst => txn.main.wordsPrefixesFst = other.main.wordsPrefixesFst

/-! ## Rows -/

/-- Each row of a list of records has been read from one of them. -/
theorem TableName.read_of_mem_rows {table : TableName} {records : List RawRecord}
    {found : List Row} (ok : table.rows records = .ok found) {row : Row} (member : row ∈ found) :
    ∃ key value, Row.read table key value = .ok row := by
  induction records generalizing found with
  | nil =>
      cases ok
      cases member
  | cons record rest ih =>
      obtain ⟨key, value⟩ := record
      simp only [rows] at ok
      split at ok
      · cases ok
      · rename_i first read
        obtain ⟨others, more, rfl⟩ := map_eq_ok_iff.1 ok
        rcases List.mem_cons.1 member with rfl | member
        · exact ⟨key, value, read⟩
        · exact ih more member

theorem ReadTxn.read_of_mem_rows {txn : ReadTxn} {table : TableName} {found : List Row}
    (ok : txn.rows table = .ok found) {row : Row} (member : row ∈ found) :
    ∃ key value, Row.read table key value = .ok row := by
  unfold rows at ok
  split at ok
  · cases ok
  · exact TableName.read_of_mem_rows ok member

/-- A row that is read in parts is made of a key that has been read, and document ids. -/
theorem Row.exists_of_readParts {K : Type} {make : K → IdSet → Row}
    {readKey : Bytes → Except Flaw K} {layout : DocidLayout} {key value : Bytes} {row : Row}
    (read : readParts make readKey layout key value = .ok row) :
    ∃ k ids, readKey key = .ok k ∧ row = make k ids := by
  simp only [readParts, bind_eq_ok_iff, pure_eq_ok_iff] at read
  obtain ⟨k, found, ids, -, rfl⟩ := read
  exact ⟨k, ids, found, rfl⟩

/-- The level of a group is one byte, and not zero, and its bounds are natural numbers. -/
theorem StringFacet.range_of_read_group {key value : Bytes} {group : FacetGroup}
    {bounded : FacetGroupValue IdSet} (found : read key value = .ok (.group group bounded)) :
    0 < group.level ∧ group.level < 256 ∧ 0 ≤ group.low ∧ 0 ≤ group.high := by
  rcases read_eq_ok_iff.1 found with single | leveled
  · obtain ⟨_, _, -, -, impossible⟩ := asSingle_eq_ok_iff.1 single
    cases impossible
  · obtain ⟨_, _, accepted, -, same⟩ := asGroup_eq_ok_iff.1 leveled
    cases same
    have written := (FacetGroup.read_eq_ok_iff key group).1 accepted
    obtain ⟨-, ⟨⟨natural, small⟩, positive⟩, low, high⟩ :=
      (FacetGroup.exists_write_iff group).1 ⟨key, written⟩
    exact ⟨lt_of_le_of_ne natural (Ne.symm positive), small, low.1, high.1⟩

/-! ## Sorted entries -/

namespace Entries

variable {K V : Type} [DecidableEq K]

/-- The value of a name is that of the first entry with the name. -/
theorem get?_eq_head? (entries : Entries K V) (name : K) :
    entries.get? name = (entries.filter (·.1 = name)).head?.map Prod.snd := by
  induction entries with
  | nil => rfl
  | cons entry rest ih =>
      obtain ⟨k, v⟩ := entry
      by_cases same : k = name
      · simp [get?, same]
      · simp [get?, same, ih]

/-- **Sorting leaves each name its value**, since entries that are alike keep their order. -/
theorem get?_mergeSort {le : K × V → K × V → Bool}
    (trans : ∀ a b c, le a b = true → le b c = true → le a c = true)
    (total : ∀ a b, (le a b || le b a) = true) (alike : ∀ a b : K × V, a.1 = b.1 → le a b = true)
    (entries : Entries K V) (name : K) :
    Entries.get? (entries.mergeSort le) name = entries.get? name := by
  have ordered : (entries.filter (·.1 = name)).Pairwise fun a b => le a b = true := by
    apply List.pairwise_of_forall_mem_list
    intro a ha b hb
    have ka : a.1 = name := of_decide_eq_true (List.mem_filter.1 ha).2
    have kb : b.1 = name := of_decide_eq_true (List.mem_filter.1 hb).2
    exact alike a b (ka.trans kb.symm)
  have kept : (entries.filter (·.1 = name)).Sublist
      ((entries.mergeSort le).filter (·.1 = name)) := by
    have inside := (List.sublist_mergeSort trans total ordered List.filter_sublist).filter
      (fun entry : K × V => decide (entry.1 = name))
    simpa only [List.filter_filter, Bool.and_self] using inside
  have lengths := ((List.mergeSort_perm entries le).filter
    (fun entry : K × V => decide (entry.1 = name))).length_eq
  rw [get?_eq_head?, get?_eq_head?, kept.eq_of_length lengths.symm]

end Entries

namespace ReadTxn

theorem get?_sortedFields (txn : ReadTxn) (id : Int) :
    Entries.get? txn.sortedFields id = txn.main.fieldsIds.get? id := by
  apply Entries.get?_mergeSort
  · simp only [decide_eq_true_eq]
    intro a b c
    exact Int.le_trans
  · simp only [Bool.or_eq_true, decide_eq_true_eq]
    intro a b
    exact Int.le_total a.1 b.1
  · simp only [decide_eq_true_eq]
    intro a b same
    exact Int.le_of_eq same

theorem get?_sortedCounts (txn : ReadTxn) (name : String) :
    Entries.get? txn.sortedCounts name = txn.main.fieldDistribution.get? name := by
  apply Entries.get?_mergeSort
  · simp only [Bool.not_eq_true', decide_eq_false_iff_not, String.not_lt]
    intro a b c
    exact String.le_trans
  · simp only [Bool.or_eq_true, Bool.not_eq_true', decide_eq_false_iff_not, String.not_lt]
    intro a b
    exact String.le_total a.1 b.1
  · simp only [Bool.not_eq_true', decide_eq_false_iff_not, String.not_lt]
    intro a b same
    exact same ▸ String.le_refl _

end ReadTxn

end IndexSnapshot
