/-
# IndexSnapshot.Proofs.IndexAssertion -- asserting the whole index

An assertion of the index renders the selected names in one transaction, all of them before
any file is touched, and then compares the records of one text after another.  That is the
comparison of one list of records, and no two of them have the same name, so none is compared
with the fixture of another.

* `FileTree.checkAll_append`: records can be compared in portions.
* `Action.assertIndex_gives` and `Action.assertIndex_gives_error`: what the assertion does.
* `Record.WellNamed` and `ReadTxn.wellNamed_indexRecords`: the names of the records.
-/
import IndexSnapshot.Proofs.FixtureHistory
import IndexSnapshot.Proofs.Steps
import Mathlib.Data.List.Nodup

namespace IndexSnapshot

set_option autoImplicit false

/-! ## Records in portions -/

theorem FileTree.checkAll_append (t : FileTree) (location : Location) (update : Bool)
    (literal : Option String) (first second : List Record) :
    t.checkAll location update literal (first ++ second) =
      match t.checkAll location update literal first with
      | (mid, .ok _) => mid.checkAll location update literal second
      | (mid, .error failure) => (mid, .error failure) := by
  induction first generalizing t with
  | nil => rfl
  | cons record rest ih =>
      rw [List.cons_append, checkAll, checkAll]
      cases t.check location update literal record with
      | mk mid result =>
          cases result with
          | ok _ => exact ih mid
          | error failure => rfl

/-! ## The records of the index -/

/-- The records of the text of a name, for fixtures. -/
def Record.ofText (full : Bool) (pair : SnapshotName × String) : List Record :=
  ofSnapshot pair.1.text pair.2 false full

/-- The records that an assertion of the index compares. -/
def ReadTxn.indexRecords [Pattern.Finder] (txn : ReadTxn) (including excluding : Option String)
    (full : Bool) : Except Failure (List Record) := do
  let names ← Action.selected including excluding
  let texts ← names.mapM txn.snapshot
  return ((names.zip texts).map (Record.ofText full)).flatten

theorem ReadTxn.indexRecords_eq_ok_iff [Pattern.Finder] {txn : ReadTxn}
    {including excluding : Option String} {full : Bool} {records : List Record} :
    txn.indexRecords including excluding full = .ok records ↔
      ∃ names, Action.selected including excluding = .ok names ∧
        ∃ texts, names.mapM txn.snapshot = .ok texts ∧
          ((names.zip texts).map (Record.ofText full)).flatten = records := by
  simp only [indexRecords, bind_eq_ok_iff, pure_eq_ok_iff]

namespace Action

theorem mapM_renderIn_gives (txn : ReadTxn) (names : List SnapshotName) (session : Session) :
    (names.mapM (renderIn txn)).Gives session (names.mapM txn.snapshot) session.files := by
  induction names generalizing session with
  | nil => exact pure_gives [] session
  | cons name rest ih =>
      have first := renderIn_gives txn name session
      rw [List.mapM_cons, List.mapM_cons]
      cases found : txn.snapshot name with
      | error failure => exact (found ▸ first).bind_error
      | ok text =>
          refine (found ▸ first).bind fun journal => ?_
          have others := ih { session with journal }
          cases read : rest.mapM txn.snapshot with
          | error failure => exact (read ▸ others).bind_error
          | ok texts => exact (read ▸ others).map

/-- The texts of all names are read in one transaction. -/
theorem reading_texts_gives (names : List SnapshotName) (session : Session) :
    (reading fun txn => names.mapM (renderIn txn)).Gives session
      (names.mapM session.store.freeze.snapshot) session.files :=
  reading_gives fun _ => mapM_renderIn_gives _ names _

variable [Yaml.Reader] (location : Location) (update full : Bool)

theorem assertText_gives (name : SnapshotName) (text : String) (session : Session) :
    (assertText location update (some full) name text).Gives session
      ((session.files.checkAll location update none (Record.ofText full (name, text))).2.map
        fun _ => Record.ofText full (name, text))
      (session.files.checkAll location update none (Record.ofText full (name, text))).1 := by
  have reduced := reduce_gives name.text text false (some full) session
  refine reduced.bind fun journal => ?_
  exact (forM_check_gives location update none (Record.ofText full (name, text)) _).map

/-- Texts are asserted one after another, each with the files that the one before left. -/
theorem mapM_assertText_gives (pairs : List (SnapshotName × String)) (session : Session) :
    (pairs.mapM fun (name, text) => assertText location update (some full) name text).Gives session
      ((session.files.checkAll location update none
        (pairs.map (Record.ofText full)).flatten).2.map fun _ => pairs.map (Record.ofText full))
      (session.files.checkAll location update none
        (pairs.map (Record.ofText full)).flatten).1 := by
  induction pairs generalizing session with
  | nil => exact pure_gives [] session
  | cons pair rest ih =>
      -- the comparison of all records stops where that of the first text does, or goes on behind it
      have first := assertText_gives location update full pair.1 pair.2 session
      rw [List.mapM_cons, List.map_cons, List.flatten_cons, FileTree.checkAll_append]
      cases checked : session.files.checkAll location update none (Record.ofText full pair) with
      | mk files result =>
          rw [checked] at first
          cases result with
          | error failure => exact first.bind_error
          | ok _ =>
              refine first.bind fun journal => ?_
              have others := ih { session with files, journal }
              dsimp only at others ⊢
              cases compared : files.checkAll location update none
                  (rest.map (Record.ofText full)).flatten with
              | mk later result =>
                  rw [compared] at others
                  cases result with
                  | error failure => exact others.bind_error
                  | ok _ => exact others.map

variable [Pattern.Finder] {location update full} {including excluding : Option String}
  {session : Session}

/-- **An assertion of the index** compares its records in one go. -/
theorem assertIndex_gives {records : List Record}
    (planned : session.store.freeze.indexRecords including excluding full = .ok records) :
    (assertIndex location update including excluding (some full)).Gives session
      ((session.files.checkAll location update none records).2.map fun _ => records)
      (session.files.checkAll location update none records).1 := by
  obtain ⟨names, chosen, texts, read, rfl⟩ := ReadTxn.indexRecords_eq_ok_iff.1 planned
  unfold assertIndex
  rw [chosen]
  refine (ofResult_gives _ session).bind fun journal => ?_
  have texts_give := reading_texts_gives names { session with journal }
  rw [show names.mapM (Session.store { session with journal }).freeze.snapshot = .ok texts
    from read] at texts_give
  refine texts_give.bind fun journal => ?_
  have records_give :=
    mapM_assertText_gives location update full (names.zip texts) { session with journal }
  cases checked : session.files.checkAll location update none
      ((names.zip texts).map (Record.ofText full)).flatten with
  | mk files result =>
      rw [show FileTree.checkAll (Session.files { session with journal }) _ _ _ _ = _
        from checked] at records_give
      cases result with
      | error failure => exact records_give.bind_error
      | ok _ =>
          refine records_give.bind fun journal => ?_
          exact (say_gives _ _).bind fun journal => pure_gives _ _

/-- Where names cannot be selected or texts cannot be read, no file changes, whatever is said
about full texts. -/
theorem assertIndex_gives_unread {failure : Failure} (storeFull : Option Bool)
    (unread : (do (← selected including excluding).mapM session.store.freeze.snapshot)
      = .error failure) :
    (assertIndex location update including excluding storeFull).Gives session
      (.error failure) session.files := by
  unfold assertIndex
  cases chosen : selected including excluding with
  | error e =>
      rw [chosen] at unread
      cases unread
      exact (ofResult_gives _ session).bind_error
  | ok names =>
      rw [chosen] at unread
      refine (ofResult_gives _ session).bind fun journal => ?_
      have texts_give := reading_texts_gives names { session with journal }
      have unread : names.mapM (Session.store { session with journal }).freeze.snapshot
          = .error failure := unread
      rw [unread] at texts_give
      exact texts_give.bind_error

theorem assertIndex_gives_error {failure : Failure}
    (planned : session.store.freeze.indexRecords including excluding full = .error failure) :
    (assertIndex location update including excluding (some full)).Gives session
      (.error failure) session.files := by
  cases read : (do (← selected including excluding).mapM session.store.freeze.snapshot) with
  | error e =>
      have stopped : session.store.freeze.indexRecords including excluding full = .error e := by
        unfold ReadTxn.indexRecords
        cases chosen : selected including excluding with
        | error e' =>
            rw [chosen] at read
            cases read
            rfl
        | ok names =>
            rw [chosen] at read
            have read : names.mapM session.store.freeze.snapshot = .error e := read
            simp only [bind, Except.bind, read]
      cases stopped.symm.trans planned
      exact assertIndex_gives_unread (some full) read
  | ok texts =>
      obtain ⟨names, chosen, read⟩ := bind_eq_ok_iff.1 read
      have passed : session.store.freeze.indexRecords including excluding full = .ok _ :=
        ReadTxn.indexRecords_eq_ok_iff.2 ⟨names, chosen, texts, read, rfl⟩
      cases passed.symm.trans planned

end Action

/-! ## Names of records -/

/-- The records can be kept side by side: each has the name of a file, and no two the same. -/
structure Record.WellNamed (records : List Record) : Prop where
  plain : ∀ record ∈ records, IsFileName record.name
  distinct : (records.map Record.name).Nodup

theorem Record.wellNamed_ofText (full : Bool) (pair : SnapshotName × String) :
    WellNamed (ofText full pair) where
  plain _ := isFileName_of_mem_ofSnapshot
  distinct := nodup_ofSnapshot _

theorem SnapshotName.dot_notMem_text (name : SnapshotName) : '.' ∉ name.text.toList := by
  cases name with
  | table name => cases name <;> decide
  | _ => decide

/-- A name is what stands before the first dot, whatever is written behind it from a dot on. -/
theorem SnapshotName.stem_text_append (name : SnapshotName) {suffix : String}
    (dotted : suffix.toList.takeWhile (· != '.') = []) :
    (name.text ++ suffix).toList.takeWhile (· != '.') = name.text.toList := by
  have free : ∀ c ∈ name.text.toList, (c != '.') = true := by
    intro c present
    rw [bne_iff_ne]
    rintro rfl
    exact name.dot_notMem_text present
  rw [String.toList_append, List.takeWhile_append_of_pos free, dotted, List.append_nil]

/-- What stands before the first dot in the name of a record is the name of the text. -/
theorem Record.stem_of_mem_ofText {full : Bool} {pair : SnapshotName × String} {record : Record}
    (member : record ∈ ofText full pair) :
    record.name.toList.takeWhile (· != '.') = pair.1.text.toList := by
  by_cases short : pair.2.length < threshold false
  · rw [ofText, ofSnapshot_short _ full short, List.mem_singleton] at member
    have whole : (pair.1.text ++ "").toList.takeWhile (· != '.') = _ :=
      pair.1.stem_text_append rfl
    rw [String.append_empty] at whole
    rw [member]
    exact whole
  · rw [ofText, ofSnapshot_long _ full (Nat.le_of_not_lt short), List.mem_append,
      List.mem_singleton] at member
    rcases member with kept | rfl
    · cases full with
      | false => cases kept
      | true =>
          rw [List.mem_singleton.1 kept]
          exact pair.1.stem_text_append (by decide)
    · exact pair.1.stem_text_append (by decide)

/-- The records of texts with different names have different names. -/
theorem Record.wellNamed_ofTexts {full : Bool} {pairs : List (SnapshotName × String)}
    (distinct : ((pairs.map Prod.fst).map SnapshotName.text).Nodup) :
    WellNamed (pairs.map (ofText full)).flatten where
  plain record member := by
    obtain ⟨_, among, member⟩ := List.mem_flatten.1 member
    obtain ⟨pair, -, rfl⟩ := List.mem_map.1 among
    exact (wellNamed_ofText full pair).plain record member
  distinct := by
    rw [← List.flatMap_def, List.map_flatMap, List.nodup_flatMap]
    refine ⟨fun pair _ => (wellNamed_ofText full pair).distinct, ?_⟩
    rw [List.map_map] at distinct
    refine (List.pairwise_map.1 distinct).imp fun {a b} differ => ?_
    -- a name that two texts had in common would have both of their stems
    intro name ha hb
    obtain ⟨first, memberA, rfl⟩ := List.mem_map.1 ha
    obtain ⟨second, memberB, same⟩ := List.mem_map.1 hb
    have stem := stem_of_mem_ofText memberB
    rw [same, stem_of_mem_ofText memberA] at stem
    exact differ (String.toList_injective stem)

/-- Filtering keeps the order of a list. -/
theorem filterAuxM_sublist {α ε : Type} {keeps : α → Except ε Bool} {list taken kept : List α}
    (filtered : list.filterAuxM keeps taken = .ok kept) :
    ∃ more : List α, more.Sublist list ∧ kept = more.reverse ++ taken := by
  induction list generalizing taken with
  | nil =>
      cases filtered
      exact ⟨[], List.Sublist.refl _, rfl⟩
  | cons a rest ih =>
      obtain ⟨keep, -, filtered⟩ := bind_eq_ok_iff.1 filtered
      obtain ⟨more, sub, rfl⟩ := ih filtered
      cases keep with
      | false => exact ⟨more, sub.cons a, rfl⟩
      | true => exact ⟨a :: more, sub.cons_cons a, by simp⟩

/-- The selected names come in the order of the catalogue. -/
theorem Action.sublist_of_selected [Pattern.Finder] {including excluding : Option String}
    {names : List SnapshotName} (chosen : selected including excluding = .ok names) :
    names.Sublist SnapshotName.catalogue := by
  obtain ⟨kept, filtered, rfl⟩ := map_eq_ok_iff.1 chosen
  obtain ⟨more, sub, rfl⟩ := filterAuxM_sublist filtered
  rwa [List.append_nil, List.reverse_reverse]

theorem Action.nodup_of_selected [Pattern.Finder] {including excluding : Option String}
    {names : List SnapshotName} (chosen : selected including excluding = .ok names) :
    (names.map SnapshotName.text).Nodup := by
  have all : (SnapshotName.catalogue.map SnapshotName.text).Nodup := by decide
  exact all.sublist ((sublist_of_selected chosen).map _)

theorem map_fst_zip_sublist {α β : Type} (as : List α) (bs : List β) :
    ((as.zip bs).map Prod.fst).Sublist as := by
  induction as generalizing bs with
  | nil => exact List.Sublist.refl _
  | cons a rest ih =>
      cases bs with
      | nil => exact List.nil_sublist _
      | cons b others => exact (ih others).cons_cons a

/-- **All records of the index have names of their own.** -/
theorem ReadTxn.wellNamed_indexRecords [Pattern.Finder] {txn : ReadTxn}
    {including excluding : Option String} {full : Bool} {records : List Record}
    (planned : txn.indexRecords including excluding full = .ok records) :
    Record.WellNamed records := by
  obtain ⟨names, chosen, texts, -, rfl⟩ := indexRecords_eq_ok_iff.1 planned
  have some := (map_fst_zip_sublist names texts).map SnapshotName.text
  exact Record.wellNamed_ofTexts ((Action.nodup_of_selected chosen).sublist some)

end IndexSnapshot
