/-
# IndexSnapshot.Proofs.PendingFiles -- which comparisons leave a pending file behind

A text that does not match is put aside in the pending file of its fixture, and a text that does
takes this file away.  In update mode a text that does not match is written to the fixture
instead.  Then the comparison passes, and the pending file of an earlier failure stays where it
is, beside the fixture that has just been written.

* `Location.exists_within_fixturePath`: whatever the name of a record is, its fixture is a file
  with a name of its own, and the pending file lies beside it.
* `FileTree.content?_pending_of_pass` and `FileTree.pending_cases`: one comparison.
* `Comparison.pending_left_iff`: comparisons one after another.
* `Comparison.outdated_text_left`: a passing comparison beside the text of a failed one.
-/
import IndexSnapshot.Proofs.CheckMode
import IndexSnapshot.Proofs.PathFolding

namespace IndexSnapshot

set_option autoImplicit false

/-! ## Records of any name -/

/-- What is written behind a text without a slash belongs to its last piece. -/
theorem Path.splitSlashes_append_plain (chars more : List Char)
    (plain : '/' ∉ more) :
    ∃ pieces last, '/' ∉ last ∧ splitSlashes (chars ++ more) = pieces ++ [last ++ more] := by
  induction chars with
  | nil => exact ⟨[], [], List.not_mem_nil, splitSlashes_eq plain⟩
  | cons c rest ih =>
      obtain ⟨pieces, last, free, cut⟩ := ih
      by_cases slash : c = '/'
      · refine ⟨[] :: pieces, last, free, ?_⟩
        rw [slash, List.cons_append, splitSlashes_slash, cut]
        rfl
      · cases pieces with
        | nil =>
            refine ⟨[], c :: last, ?_, ?_⟩
            · rw [List.mem_cons, not_or]
              exact ⟨Ne.symm slash, free⟩
            · rw [List.cons_append, splitSlashes_cons_of_ne slash cut]
              rfl
        | cons piece others =>
            refine ⟨(c :: piece) :: others, last, free, ?_⟩
            rw [List.cons_append, splitSlashes_cons_of_ne slash cut]
            rfl

namespace Location

/-- A fixture is a file of some directory, whatever the name of its record is. -/
theorem exists_within_fixturePath (location : Location) (name : String) :
    ∃ (directory : Path) (stem : String), '/' ∉ stem.toList ∧
      location.fixturePath name = directory.within (stem ++ fixtureSuffix) := by
  obtain ⟨pieces, last, free, cut⟩ :=
    Path.splitSlashes_append_plain name.toList fixtureSuffix.toList (by decide)
  have named : Path.isName (last ++ fixtureSuffix.toList) = true := by
    cases last with
    | nil => decide
    | cons c rest =>
        have long : rest ++ fixtureSuffix.toList ≠ [] := by simp [fixtureSuffix]
        simp [Path.isName, long]
  obtain ⟨before, read⟩ : ∃ before, (Path.ofString (name ++ fixtureSuffix)).names
      = before ++ [String.ofList last ++ fixtureSuffix] := by
    refine ⟨(pieces.filter Path.isName).map String.ofList, ?_⟩
    simp only [Path.ofString, String.toList_append, cut, List.filter_append, List.map_append]
    rw [List.filter_cons_of_pos named, List.filter_nil, List.map_singleton, String.ofList_append,
      String.ofList_toList]
  have free : '/' ∉ (String.ofList last).toList := by rwa [String.toList_ofList]
  unfold fixturePath Path.child Path.join
  split
  · exact ⟨⟨_, before⟩, _, free, congrArg (Path.mk _) read⟩
  · refine ⟨⟨_, location.directory.names ++ before⟩, _, free, congrArg (Path.mk _) ?_⟩
    rw [read, List.append_assoc]

theorem isFixture_folded_fixturePath (location : Location) (name : String) :
    (location.fixturePath name).folded.IsFixture := by
  obtain ⟨directory, stem, -, path⟩ := location.exists_within_fixturePath name
  have up : stem ++ fixtureSuffix ≠ ".." := fun same => by
    have last := getLast?_fixtureName stem
    rw [same] at last
    exact absurd last (by decide)
  rw [path, Path.folded_within _ up]
  exact ⟨stem, List.getLast?_concat⟩

/-- No pending file is a fixture. -/
theorem not_isFixture_folded_pending (location : Location) (name : String) :
    ¬ (location.fixturePath name).pending.folded.IsFixture := by
  obtain ⟨directory, stem, -, path⟩ := location.exists_within_fixturePath name
  have up : stem ++ fixtureSuffix ++ pendingSuffix ≠ ".." := fun same => by
    have last := getLast?_pendingName stem
    rw [same] at last
    exact absurd last (by decide)
  rw [path, Path.pending, Path.appendToName_within, Path.folded_within _ up]
  rintro ⟨other, last⟩
  rw [Path.within, List.getLast?_concat, Option.some.injEq] at last
  have letter := getLast?_fixtureName other
  rw [← last, getLast?_pendingName] at letter
  exact absurd letter (by decide)

/-- No fixture is a pending file, wherever they are. -/
theorem fixture_ne_pending (location other : Location) (name otherName : String) :
    (location.fixturePath name).folded ≠ (other.fixturePath otherName).pending.folded := by
  intro same
  have fixture := location.isFixture_folded_fixturePath name
  rw [same] at fixture
  exact other.not_isFixture_folded_pending otherName fixture

end Location

namespace FileTree

variable {t : FileTree} {location : Location} {record : Record} {update : Bool}

/-- Where a fixture can be reached, its pending file can, if its name is not too long. -/
theorem obstacle?_pending {name : String}
    (clear : t.obstacle? (location.fixturePath name) = none) :
    t.obstacle? (location.fixturePath name).pending = none ∨
      t.obstacle? (location.fixturePath name).pending = some .nameTooLong := by
  obtain ⟨directory, stem, free, path⟩ := location.exists_within_fixturePath name
  rw [path] at clear ⊢
  rw [Path.pending, Path.appendToName_within]
  obtain ⟨start, shown⟩ := Path.toString_within directory
  have noNull : Char.ofNat 0 ∉ (stem ++ Location.fixtureSuffix).toList := by
    intro null
    have possible := (obstacle?_eq_none_iff.1 clear).1
    rw [shown, Path.textFault?, if_pos] at possible
    · cases possible
    · rw [String.toList_append, List.contains_iff_mem]
      exact List.mem_append_right _ null
  have noSlash : '/' ∉ (stem ++ Location.fixtureSuffix).toList := by
    rw [String.toList_append, List.mem_append, not_or]
    exact ⟨free, by decide⟩
  exact obstacle?_within clear (IsFileName.append ⟨noSlash, noNull⟩ (by decide))

/-! ## One comparison -/

/-- A file that can be reached is gone once it has been taken away. -/
theorem content?_eraseIfThere_self {path : Path}
    (reached : t.obstacle? path = none ∨ t.obstacle? path = some .nameTooLong)
    (erased : (t.eraseIfThere path).2 = .ok ()) :
    (t.eraseIfThere path).1.content? path.folded = none := by
  unfold eraseIfThere has hasDirectory find at erased ⊢
  rcases reached with clear | long
  · rw [clear] at erased ⊢
    cases found : t.content? path.folded with
    | some bytes =>
        simp only
        exact content?_erase_self t path
    | none =>
        rw [found] at erased
        cases directory : t.isDirectory path.folded with
        | true =>
            rw [directory] at erased
            cases erased
        | false => exact found
  · rw [long] at erased
    cases erased

theorem content?_of_eraseIfThere {path q : Path} {bytes : Bytes}
    (there : (t.eraseIfThere path).1.content? q = some bytes) : t.content? q = some bytes := by
  unfold eraseIfThere at there
  split at there
  · exact there
  · exact there
  · split at there
    · exact there
    · by_cases same : q = path.folded
      · rw [same, content?_erase_self] at there
        cases there
      · rwa [content?_erase_of_ne t same] at there

/-- **A comparison that passes** takes the pending file away if it finds its text in the fixture.
Else it is in update mode and leaves the pending file as it was. -/
theorem content?_pending_of_pass
    (passed : (t.compare location update record).2 = .ok ()) :
    (t.finding (location.fixturePath record.name) record.content = .same ∧
      (t.compare location update record).1.content?
        (location.fixturePath record.name).pending.folded = none) ∨
    (update = true ∧ t.finding (location.fixturePath record.name) record.content ≠ .same ∧
      (t.compare location update record).1.content?
          (location.fixturePath record.name).pending.folded
        = t.content? (location.fixturePath record.name).pending.folded) := by
  rcases compare_forms t location update record with ⟨same, compared⟩ |
    ⟨differs, how, compared⟩ | ⟨failure, compared⟩
  · refine .inl ⟨same, ?_⟩
    rw [compared] at passed ⊢
    exact content?_eraseIfThere_self (obstacle?_pending (finding_eq_same_iff.1 same).1) passed
  · cases update with
    | false =>
        simp only [Bool.false_eq_true, if_false] at compared
        rw [compared] at passed
        dsimp only at passed
        exact absurd passed bind_error_ne_ok
    | true =>
        simp only [if_true] at compared
        rw [compared]
        refine .inr ⟨rfl, differs, ?_⟩
        dsimp only
        rcases content?_writeText t (location.fixturePath record.name) record.content
          (location.fixturePath record.name).pending.folded with kept | ⟨same, -⟩
        · exact kept
        · exact absurd same.symm (location.fixture_ne_pending location _ _)
  · rw [compared] at passed
    cases passed

/-- **What is in a pending file after a comparison** was there before, or it is the text of the
comparison, which was in check mode and failed. -/
theorem pending_cases {path : Path} (pending : ¬ path.IsFixture) {bytes : Bytes}
    (there : (t.compare location update record).1.content? path = some bytes) :
    t.content? path = some bytes ∨
      (update = false ∧ path = (location.fixturePath record.name).pending.folded ∧
        bytes = Utf8.encode record.content ∧
        ∃ how, (t.compare location update record).2 = .error (.mismatch record.name how)) := by
  rcases compare_forms t location update record with ⟨-, compared⟩ | ⟨-, how, compared⟩ |
    ⟨failure, compared⟩
  · rw [compared] at there
    exact .inl (content?_of_eraseIfThere there)
  · rw [compared] at there ⊢
    dsimp only at there ⊢
    obtain ⟨-, ⟨written, -, files⟩ | ⟨-, files⟩⟩ := writeText_cases t (if update = true then
      location.fixturePath record.name else (location.fixturePath record.name).pending)
      record.content
    · rw [content?, files] at there
      by_cases same : path = (if update = true then location.fixturePath record.name
          else (location.fixturePath record.name).pending).folded
      · cases update with
        | true =>
            rw [same] at pending
            exact absurd (location.isFixture_folded_fixturePath record.name) pending
        | false =>
            rw [same, Entries.get?_put_self, Option.some.injEq] at there
            exact .inr ⟨rfl, same, there.symm, how, congrArg (Except.bind · _) written⟩
      · rw [Entries.get?_put_of_ne _ _ same] at there
        exact .inl there
    · rw [content?, files] at there
      exact .inl there
  · rw [compared] at there
    exact .inl there

end FileTree

/-! ## Comparisons one after another -/

/-- A comparison of a record with its fixture at a location, in update mode or not. -/
structure Comparison where
  location : Location
  update : Bool
  record : Record

namespace Comparison

def fixture (comparison : Comparison) : Path :=
  comparison.location.fixturePath comparison.record.name

/-- What a comparison gives, and the session afterwards. -/
def act (comparison : Comparison) (session : Session) : Except Failure Unit × Session :=
  (Action.compare comparison.location comparison.update comparison.record).runIn session

/-- The session after comparisons one after another, whether they pass or not. -/
def run (comparisons : List Comparison) (session : Session) : Session :=
  comparisons.foldl (fun session comparison => (comparison.act session).2) session

/-- A comparison of a run, in check mode, failed, and its text was put aside at this path. -/
def PutAside (comparisons : List Comparison) (start : Session) (path : Path) (bytes : Bytes) :
    Prop :=
  ∃ past failed future how, comparisons = past ++ failed :: future ∧
    failed.update = false ∧ path = failed.fixture.pending.folded ∧
    bytes = Utf8.encode failed.record.content ∧
    (failed.act (run past start)).1 = .error (.mismatch failed.record.name how)

theorem act_result (comparison : Comparison) (session : Session) :
    (comparison.act session).1
      = (session.files.compare comparison.location comparison.update comparison.record).2 := by
  rw [act, (Action.compare_gives ..).result_eq]

theorem act_files (comparison : Comparison) (session : Session) :
    (comparison.act session).2.files
      = (session.files.compare comparison.location comparison.update comparison.record).1 := by
  rw [act, (Action.compare_gives ..).files_eq]

theorem run_cons (first : Comparison) (rest : List Comparison) (start : Session) :
    run (first :: rest) start = run rest (first.act start).2 := by
  simp only [run, List.foldl_cons]

/-- **What a run leaves in a pending file** was there when it began, or a comparison of the run
in check mode failed and put it aside. -/
theorem content?_run {comparisons : List Comparison} {start : Session} {path : Path}
    (pending : ¬ path.IsFixture) {bytes : Bytes}
    (there : (run comparisons start).files.content? path = some bytes) :
    start.files.content? path = some bytes ∨ PutAside comparisons start path bytes := by
  induction comparisons generalizing start with
  | nil => exact .inl there
  | cons first rest ih =>
      rw [run_cons] at there
      rcases ih there with before | ⟨past, failed, future, how, split, aside⟩
      · rw [act_files] at before
        rcases FileTree.pending_cases pending before with
          kept | ⟨checking, path_eq, bytes_eq, how, failed⟩
        · exact .inl kept
        · refine .inr ⟨[], first, rest, how, rfl, checking, path_eq, bytes_eq, ?_⟩
          exact (act_result first start).trans failed
      · rw [← run_cons] at aside
        exact .inr ⟨first :: past, failed, future, how, congrArg (first :: ·) split, aside⟩

/-- **After a comparison that passes, its pending file is there** exactly if the comparison was in
update mode, did not find its text in the fixture, and the file was there before.  Such a file was
there when the run began, or an earlier comparison in check mode failed and put its text aside. -/
theorem pending_left_iff {earlier : List Comparison} {start before after : Session}
    {comparison : Comparison} (reached : run earlier start = before)
    (passed : comparison.act before = (.ok (), after)) (bytes : Bytes) :
    (after.files.content? comparison.fixture.pending.folded = some bytes ↔
      comparison.update = true ∧
        before.files.finding comparison.fixture comparison.record.content ≠ .same ∧
        before.files.content? comparison.fixture.pending.folded = some bytes) ∧
    (before.files.content? comparison.fixture.pending.folded = some bytes →
      start.files.content? comparison.fixture.pending.folded = some bytes ∨
        PutAside earlier start comparison.fixture.pending.folded bytes) := by
  have result := act_result comparison before
  have files := act_files comparison before
  rw [passed] at result files
  dsimp only at result files
  rw [files]
  constructor
  · rcases FileTree.content?_pending_of_pass result.symm with
      ⟨same, gone⟩ | ⟨updating, differs, kept⟩
    · constructor
      · intro there
        cases gone.symm.trans there
      · rintro ⟨-, differs, -⟩
        exact absurd same differs
    · constructor
      · intro there
        exact ⟨updating, differs, kept.symm.trans there⟩
      · rintro ⟨-, -, there⟩
        exact kept.trans there
  · intro there
    subst reached
    exact content?_run (comparison.location.not_isFixture_folded_pending _) there

/-! ## The text of a failure that is no more -/

/-- The documents of an index, compared as text. -/
def documents (update : Bool) : Comparison where
  location := TablePlace.words.location
  update
  record := ⟨"documents_ids", "[0, ]"⟩

/-- A text has no fixture and is put aside.  The same text, in update mode, passes, and the
pending file is still there. -/
theorem outdated_text_left : ∃ before after : Session,
    run [documents false] {} = before ∧
    (documents true).act before = (.ok (), after) ∧
    PutAside [documents false] {} (documents true).fixture.pending.folded
      (Utf8.encode "[0, ]") ∧
    after.files.content? (documents true).fixture.pending.folded
      = some (Utf8.encode "[0, ]") := by
  obtain ⟨before, reached⟩ : ∃ before, run [documents false] {} = before := ⟨_, rfl⟩
  have there : before.files.content? (documents true).fixture.pending.folded
      = some (Utf8.encode "[0, ]") := by
    rw [← reached]
    rfl
  have missing : before.files.finding (documents true).fixture (documents true).record.content
      ≠ .same := by
    rw [← reached]
    exact nofun
  have passes : ((documents true).act before).1 = .ok () := by
    rw [← reached]
    rfl
  obtain ⟨after, passed⟩ : ∃ after, (documents true).act before = (.ok (), after) :=
    ⟨_, Prod.ext passes rfl⟩
  obtain ⟨left, aside⟩ := pending_left_iff reached passed (Utf8.encode "[0, ]")
  refine ⟨before, after, reached, passed, ?_, left.2 ⟨rfl, missing, there⟩⟩
  exact (aside there).resolve_left nofun

end Comparison

end IndexSnapshot
