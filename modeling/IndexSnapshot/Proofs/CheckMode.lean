/-
# IndexSnapshot.Proofs.CheckMode -- a check looks, and puts aside

In check mode a record is held against its fixture byte by byte, since a text is written in one
way only.  A record that differs is put aside in the pending file of the fixture, a record that
is the same takes this file away, and no other file changes.  Pending files and fixtures have
different endings, so however many checks there are, and whatever they are about, all fixtures
stay as they are.

* `FileTree.compare_check_iff`: a record passes exactly if its fixture has its bytes.
* `FileTree.read?_pending_of_mismatch`: a record that does not match is put aside.
* `Assertion.check_mode_keeps_fixtures`: what a run of checks changes, and what each
  comparison does.
-/
import IndexSnapshot.Proofs.Requests
import IndexSnapshot.Proofs.StrictText
import IndexSnapshot.Proofs.UpdateThenCheck

namespace IndexSnapshot

set_option autoImplicit false

/-! ## One comparison -/

namespace FileTree

variable {t : FileTree} {location : Location} {record : Record}

theorem read?_eq_some_iff {path : Path} {bytes : Bytes} :
    t.read? path = some bytes ↔
      t.obstacle? path = none ∧ t.content? path.folded = some bytes := by
  unfold read? find
  cases t.obstacle? path with
  | some fault => simp
  | none =>
      cases t.content? path.folded with
      | some content => simp
      | none => cases directory : t.isDirectory path.folded <;> simp

/-- A text is the same as its fixture if the fixture can be read and has its bytes. -/
theorem finding_eq_same_iff_read? {path : Path} {text : String} :
    t.finding path text = .same ↔ t.read? path = some (Utf8.encode text) := by
  rw [finding_eq_same_iff, read?_eq_some_iff]
  apply and_congr_right
  intro _
  constructor
  · rintro ⟨bytes, found, decoded⟩
    rw [found, Utf8.decode_eq_ok_iff.1 decoded]
  · exact holds_of_content?_encode

theorem read?_writeText {path : Path} {text : String}
    (written : (t.writeText path text).2 = .ok ()) :
    (t.writeText path text).1.read? path = some (Utf8.encode text) := by
  obtain ⟨-, ⟨-, clear, files⟩ | ⟨⟨fault, place, failed⟩, -⟩⟩ := writeText_cases t path text
  · rw [read?_eq_some_iff, content?, files]
    exact ⟨clear, Entries.get?_put_self ..⟩
  · rw [failed] at written
    cases written

/-- What stands in the way of a comparison: a path is at fault. -/
def IsFault (result : Except Failure Unit) : Prop :=
  ∃ fault place, result = .error (.file fault place)

theorem compare_check_of_same (same : t.finding (location.fixturePath record.name) record.content
      = .same) :
    IsFault (t.compare location false record).2 ∨
      (t.compare location false record).2 = .ok () := by
  rw [compare_of_same same]
  obtain ⟨-, erased | failed, -⟩ :=
    eraseIfThere_cases t (location.fixturePath record.name).pending
  · exact .inr erased
  · exact .inl failed

/-- A record that is written to the pending file does not match. -/
theorem compare_check_of_written
    (differs : t.finding (location.fixturePath record.name) record.content = .missing ∨
      ∃ stored, t.finding (location.fixturePath record.name) record.content = .different stored) :
    IsFault (t.compare location false record).2 ∨
      (∃ how, (t.compare location false record).2 = .error (.mismatch record.name how)) ∧
        (t.compare location false record).1.read? (location.fixturePath record.name).pending
          = some (Utf8.encode record.content) := by
  obtain ⟨how, compared⟩ := compare_of_differs false differs
  simp only [Bool.false_eq_true, if_false] at compared
  rw [compared]
  generalize (location.fixturePath record.name).pending = pending
  obtain ⟨-, ⟨written, -⟩ | ⟨⟨fault, place, failed⟩, -⟩⟩ :=
    writeText_cases t pending record.content
  · refine .inr ⟨⟨how, ?_⟩, read?_writeText written⟩
    simp only [written, Except.bind]
  · refine .inl ⟨fault, place, ?_⟩
    simp only [failed, Except.bind]

theorem compare_check_of_unreadable {failure : Failure}
    (found : t.finding (location.fixturePath record.name) record.content = .unreadable failure) :
    (t.compare location false record).2 = .error failure :=
  congrArg Prod.snd (compare_of_unreadable found)

/-- **A record passes exactly if its fixture is there with the bytes of its text**, unless a
path is at fault. -/
theorem compare_check_iff (t : FileTree) (location : Location) (record : Record) :
    IsFault (t.compare location false record).2 ∨
      ((t.compare location false record).2 = .ok () ↔
        t.read? (location.fixturePath record.name) = some (Utf8.encode record.content)) := by
  rw [← finding_eq_same_iff_read?]
  cases found : t.finding (location.fixturePath record.name) record.content with
  | same =>
      refine (compare_check_of_same found).imp_right fun passed => ?_
      simp only [passed]
  | missing =>
      refine (compare_check_of_written (.inl found)).imp_right ?_
      rintro ⟨⟨how, failed⟩, -⟩
      simp only [failed, reduceCtorEq]
  | different stored =>
      refine (compare_check_of_written (.inr ⟨stored, found⟩)).imp_right ?_
      rintro ⟨⟨how, failed⟩, -⟩
      simp only [failed, reduceCtorEq]
  | unreadable failure =>
      simp only [compare_check_of_unreadable found, reduceCtorEq, or_true]

/-- **A record that does not match is put aside.** -/
theorem read?_pending_of_mismatch {name : String} {how : Mismatch}
    (differs : (t.compare location false record).2 = .error (.mismatch name how)) :
    (t.compare location false record).1.read? (location.fixturePath record.name).pending
      = some (Utf8.encode record.content) := by
  have noFault : ¬ IsFault (t.compare location false record).2 := by
    rintro ⟨fault, place, failed⟩
    cases failed.symm.trans differs
  cases found : t.finding (location.fixturePath record.name) record.content with
  | same =>
      have passed := (compare_check_of_same found).resolve_left noFault
      cases passed.symm.trans differs
  | missing => exact ((compare_check_of_written (.inl found)).resolve_left noFault).2
  | different stored =>
      exact ((compare_check_of_written (.inr ⟨stored, found⟩)).resolve_left noFault).2
  | unreadable failure =>
      cases (compare_check_of_unreadable found).symm.trans differs
      rcases finding_unreadable found with ⟨fault, place, other⟩ | ⟨flaw, other⟩ <;> cases other

end FileTree

/-! ## With and without a literal -/

/-- Whether a record is compared with a fixture: if there is a literal, only a full text is. -/
def Record.UsesFixture (record : Record) (literal : Option String) : Prop :=
  literal = none ∨ record.isFull = true

theorem FileTree.check_of_usesFixture {record : Record} {literal : Option String}
    (uses : record.UsesFixture literal) (t : FileTree) (location : Location) (update : Bool) :
    t.check location update literal record = t.compare location update record := by
  cases literal with
  | none => rfl
  | some text =>
      have full : record.isFull = true := uses.resolve_left (Option.some_ne_none text)
      exact if_pos full

/-- A record that is compared with the literal leaves all files alone. -/
theorem FileTree.check_of_not_usesFixture {record : Record} {literal : Option String}
    (literally : ¬ record.UsesFixture literal) (t : FileTree) (location : Location)
    (update : Bool) :
    ∃ text, t.check location update literal record = (t, record.compareInline text) := by
  cases literal with
  | none => exact absurd (.inl rfl) literally
  | some text =>
      have short : ¬ record.isFull = true := fun full => literally (.inr full)
      exact ⟨text, if_neg short⟩

/-- What a comparison in check mode does. -/
structure Action.ChecksRecord (location : Location) (literal : Option String) (record : Record)
    (session : Session) : Prop where
  /-- A record passes if its fixture is there with the bytes of its text, and only then. -/
  passes_iff : record.UsesFixture literal →
    FileTree.IsFault ((check location false literal record).runIn session).1 ∨
      (((check location false literal record).runIn session).1 = .ok () ↔
        session.files.read? (location.fixturePath record.name)
          = some (Utf8.encode record.content))
  /-- A record that does not match is put aside. -/
  put_aside : record.UsesFixture literal → ∀ name how,
    ((check location false literal record).runIn session).1 = .error (.mismatch name how) →
      ((check location false literal record).runIn session).2.files.read?
          (location.fixturePath record.name).pending
        = some (Utf8.encode record.content)
  /-- No file but the pending one changes. -/
  frame : ∀ path,
    ((check location false literal record).runIn session).2.files.content? path
        ≠ session.files.content? path →
      record.UsesFixture literal ∧ path = (location.fixturePath record.name).pending.folded

/-! ## Files that change -/

/-- No file has changed but some at these paths. -/
def FileTree.ChangesOnly (paths : Path → Prop) (before after : FileTree) : Prop :=
  ∀ path, after.content? path ≠ before.content? path → paths path

instance (paths : Path → Prop) : IsPreorder FileTree (FileTree.ChangesOnly paths) where
  refl _ _ differs := absurd rfl differs
  trans before mid after first second path differs := by
    by_cases kept : mid.content? path = before.content? path
    · exact second path (kept ▸ differs)
    · exact first path kept

theorem FileTree.check_changesOnly (t : FileTree) (location : Location)
    (literal : Option String) (record : Record) :
    ChangesOnly (fun path => record.UsesFixture literal ∧
        path = (location.fixturePath record.name).pending.folded)
      t (t.check location false literal record).1 := by
  intro path differs
  by_cases uses : record.UsesFixture literal
  · rw [check_of_usesFixture uses] at differs
    rcases (compare_cases t location false record).2 path with kept | pending | ⟨updating, -⟩
    · exact absurd kept differs
    · exact ⟨uses, pending⟩
    · cases updating
  · obtain ⟨text, compared⟩ := check_of_not_usesFixture uses t location false
    rw [compared] at differs
    exact absurd rfl differs

theorem Action.checksRecord (location : Location) (literal : Option String) (record : Record)
    (session : Session) : ChecksRecord location literal record session := by
  have gives := check_gives location false literal record session
  constructor
  · intro uses
    rw [gives.result_eq, FileTree.check_of_usesFixture uses]
    exact FileTree.compare_check_iff session.files location record
  · intro uses name how
    rw [gives.result_eq, gives.files_eq, FileTree.check_of_usesFixture uses]
    exact FileTree.read?_pending_of_mismatch
  · rw [gives.files_eq]
    exact session.files.check_changesOnly location literal record

/-! ## Checks one after another -/

/-- A pending file of a record that one of the assertions may compare with its fixture. -/
def Assertion.MayPutAside [Pattern.Finder] (assertions : List Assertion) (path : Path) : Prop :=
  ∃ assertion ∈ assertions, ∃ home literal record,
    assertion.request.Compares assertion.location home literal record ∧
      record.UsesFixture literal ∧ path = (home.fixturePath record.name).pending.folded

/-- **Checks keep all fixtures.**  Assertions in check mode one after another, over whatever
stores and files, change no file but pending files of records that they compare, and no
fixture.  Each comparison passes if its fixture has the bytes of its text, and puts a text that
does not match aside. -/
theorem Assertion.check_mode_keeps_fixtures [Yaml.Reader] [Pattern.Finder]
    {assertions : List Assertion} (checking : ∀ assertion ∈ assertions, assertion.update = false)
    (start : Session) :
    (∀ path : Path, path.IsFixture →
      (run assertions start).files.content? path = start.files.content? path) ∧
    (∀ path, (run assertions start).files.content? path ≠ start.files.content? path →
      MayPutAside assertions path) ∧
    ∀ location literal record session, Action.ChecksRecord location literal record session := by
  have changed : FileTree.ChangesOnly (MayPutAside assertions) start.files
      (run assertions start).files := by
    apply run_related
    intro assertion member home literal record compares files path differs
    rw [checking assertion member] at differs
    have aside := files.check_changesOnly home literal record path differs
    exact ⟨assertion, member, home, literal, record, compares, aside⟩
  refine ⟨fun path fixture => ?_, changed, Action.checksRecord⟩
  by_contra differs
  obtain ⟨assertion, member, home, literal, record, compares, -, rfl⟩ := changed path differs
  exact home.not_isFixture_pending compares.isFileName fixture

/-! ## A fixture that is no text -/

/-- The words of an index and then all names of it, asserted in check mode. -/
def Assertion.checks : List Assertion :=
  [ ⟨Store.standard.setMain { wordsFst := [1] }, [], TablePlace.words.location, false, none,
      .name "words_fst" none none⟩,
    ⟨Store.standard, [], TablePlace.words.location, false, some true, .index none none⟩ ]

/-- The fixture of the words is no text, and it stays. -/
theorem Assertion.checks_keep_broken_fixture :
    (run checks { files := .ofList [(TablePlace.words.location.fixturePath "words_fst", [255])] }
      ).files.content? (TablePlace.words.location.fixturePath "words_fst") = some [255] := by
  have checking : ∀ assertion ∈ checks, assertion.update = false := by decide
  have fixture : (TablePlace.words.location.fixturePath "words_fst").IsFixture :=
    ⟨"words_fst", rfl⟩
  exact (check_mode_keeps_fixtures checking _).1 _ fixture

end IndexSnapshot
