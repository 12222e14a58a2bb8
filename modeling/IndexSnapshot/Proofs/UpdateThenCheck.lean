/-
# IndexSnapshot.Proofs.UpdateThenCheck -- what has been accepted passes

Once an assertion in update mode has passed, each of its records is what its fixture keeps: a
text is read back as it was written, whatever characters it has, and no record is written over
another one.  So the same assertion in check mode compares the same records and finds them all:
`check_passes_after_update`.  It changes no fixture.  All that can stop it is a pending file
that cannot be taken away.

* `FileTree.compare_check_of_holds`, `FileTree.checkAll_check_of_holds`: the comparisons.
* `Asserted` is an assertion of one name or of the whole index; `Asserted.act_gives` says what
  both do.
-/
import IndexSnapshot.Proofs.IndexAssertion

namespace IndexSnapshot

set_option autoImplicit false

/-! ## Fixtures and pending files -/

/-- A fixture, by its name. -/
def Path.IsFixture (path : Path) : Prop :=
  ∃ stem : String, path.names.getLast? = some (stem ++ Location.fixtureSuffix)

theorem Location.not_isFixture_pending (location : Location) {name : String}
    (plain : IsFileName name) : ¬ (location.fixturePath name).pending.folded.IsFixture := by
  rintro ⟨stem, last⟩
  rw [folded_pending location plain, Path.within, List.getLast?_concat, Option.some.injEq] at last
  have letter := getLast?_fixtureName stem
  rw [← last, getLast?_pendingName] at letter
  exact absurd letter (by decide)

namespace FileTree

variable {t : FileTree} {location : Location}

/-- It cannot be said whether there is a pending file, or there is a directory instead. -/
def PendingFault (location : Location) (records : List Record) (failure : Failure) : Prop :=
  ∃ record ∈ records, ∃ fault, (fault = .nameTooLong ∨ fault = .isDirectory) ∧
    failure = .file fault (location.fixturePath record.name).pending.toString

theorem eq_nameTooLong_of_has {p : Path} {fault : FileFault} (unknown : t.has p = .error fault) :
    fault = .nameTooLong := by
  unfold has at unknown
  split at unknown
  · cases unknown
  · cases unknown
    rfl
  · cases unknown

theorem eraseIfThere_error {p : Path} {failure : Failure}
    (stopped : (t.eraseIfThere p).2 = .error failure) :
    ∃ fault, (fault = .nameTooLong ∨ fault = .isDirectory) ∧
      failure = .file fault p.toString := by
  unfold eraseIfThere at stopped
  split at stopped
  · rename_i unknown
    cases stopped
    exact ⟨_, .inl (eq_nameTooLong_of_has unknown), rfl⟩
  · cases stopped
  · split at stopped
    · cases stopped
      exact ⟨_, .inr rfl, rfl⟩
    · cases stopped

/-- In check mode, a record that its fixture keeps takes the pending file away, and that is all. -/
theorem compare_check_of_holds {record : Record}
    (clear : t.obstacle? (location.fixturePath record.name) = none)
    (holds : t.Holds (location.fixturePath record.name) record.content) :
    t.compare location false record
      = t.eraseIfThere (location.fixturePath record.name).pending :=
  compare_of_same (finding_eq_same_iff.2 ⟨clear, holds⟩)

/-- Records that their fixtures keep pass in check mode, unless a pending file is at fault. -/
theorem checkAll_check_of_holds {records : List Record}
    (plain : ∀ record ∈ records, IsFileName record.name)
    (kept : ∀ record ∈ records, t.obstacle? (location.fixturePath record.name) = none ∧
      t.Holds (location.fixturePath record.name) record.content) :
    (t.checkAll location false none records).2 = .ok () ∨
      ∃ failure, PendingFault location records failure ∧
        (t.checkAll location false none records).2 = .error failure := by
  induction records generalizing t with
  | nil => exact .inl rfl
  | cons record rest ih =>
      rw [List.forall_mem_cons] at plain kept
      have erased := compare_check_of_holds kept.1.1 kept.1.2
      cases compared : t.compare location false record with
      | mk mid result =>
          cases result with
          | error failure =>
              rw [checkAll_cons_of_error compared]
              rw [compared] at erased
              obtain ⟨fault, kind, rfl⟩ := eraseIfThere_error (congrArg Prod.snd erased.symm)
              exact .inr ⟨_, ⟨record, List.mem_cons_self, fault, kind, rfl⟩, rfl⟩
          | ok _ =>
              rw [checkAll_cons_of_ok compared]
              have grows := (compare_cases t location false record).1
              have stays {name : String} (named : IsFileName name) :=
                content?_compare_check t location plain.1 named
              rw [compared] at grows stays
              -- taking a pending file away leaves the fixtures of the other records alone
              have later : ∀ other ∈ rest,
                  mid.obstacle? (location.fixturePath other.name) = none ∧
                    mid.Holds (location.fixturePath other.name) other.content := by
                intro other member
                obtain ⟨clear, holds⟩ := kept.2 other member
                exact ⟨obstacle?_of_subset grows clear,
                  holds.of_content? (stays (plain.2 other member))⟩
              rcases ih plain.2 later with passed | ⟨failure, ⟨other, member, fault⟩, failed⟩
              · exact .inl passed
              · exact .inr ⟨failure, ⟨other, List.mem_cons_of_mem _ member, fault⟩, failed⟩

/-- In check mode no fixture changes, whether it belongs to the records or not. -/
theorem content?_checkAll_check {records : List Record}
    (plain : ∀ record ∈ records, IsFileName record.name) {path : Path} (fixture : path.IsFixture) :
    (t.checkAll location false none records).1.content? path = t.content? path := by
  refine ((checkAll_cases t false records).2 path).resolve_right ?_
  rintro (⟨record, member, pending⟩ | ⟨updating, -⟩)
  · rw [pending] at fixture
    exact absurd fixture (location.not_isFixture_pending (plain record member))
  · cases updating

end FileTree

/-! ## Assertions of one name and of the index -/

/-- What an assertion is about: one name, perhaps in a case of the test, or the names of the
index that two patterns select. -/
inductive Asserted where
  | name (table : String) (caseName : Option String)
  | index (including excluding : Option String)

namespace Asserted

section Acts

variable [Yaml.Reader] [Pattern.Finder]

/-- The assertion, with fixtures, and with full texts kept or not. -/
def act (asserted : Asserted) (location : Location) (update full : Bool) : Action (List Record) :=
  match asserted with
  | .name table caseName => Action.assertTable location update table caseName none (some full)
  | .index including excluding =>
      Action.assertIndex location update including excluding (some full)

/-- Where the fixtures are, and the records that are compared with them. -/
def plan (asserted : Asserted) (session : Session) (location : Location) (full : Bool) :
    Except Failure (Location × List Record) :=
  match asserted with
  | .name table caseName => session.plan location table caseName false (some full)
  | .index including excluding =>
      (session.store.freeze.indexRecords including excluding full).map (location, ·)

variable {asserted : Asserted} {session : Session} {location home : Location} {full : Bool}
  {records : List Record}

/-- The plan depends on nothing but what the store holds. -/
theorem plan_congr {later : Session} (same : later.store.freeze = session.store.freeze) :
    asserted.plan later location full = asserted.plan session location full := by
  cases asserted with
  | name table caseName =>
      unfold plan Session.plan
      rw [same]
      rfl
  | index including excluding =>
      unfold plan
      rw [same]

theorem act_gives (planned : asserted.plan session location full = .ok (home, records))
    (update : Bool) :
    (asserted.act location update full).Gives session
      ((session.files.checkAll home update none records).2.map fun _ => records)
      (session.files.checkAll home update none records).1 := by
  cases asserted with
  | name table caseName =>
      have planned : session.plan location table caseName (none : Option String).isSome
          (some full) = .ok (home, records) := planned
      exact Action.assertTable_gives planned update
  | index including excluding =>
      obtain ⟨_, found, same⟩ := map_eq_ok_iff.1 planned
      cases same
      exact Action.assertIndex_gives found

theorem act_gives_error {failure : Failure}
    (planned : asserted.plan session location full = .error failure) (update : Bool) :
    (asserted.act location update full).Gives session (.error failure) session.files := by
  cases asserted with
  | name table caseName =>
      have planned : session.plan location table caseName (none : Option String).isSome
          (some full) = .error failure := planned
      exact Action.assertTable_gives_error planned update
  | index including excluding =>
      cases found : session.store.freeze.indexRecords including excluding full with
      | ok records =>
          rw [plan, found] at planned
          cases planned
      | error e =>
          rw [plan, found] at planned
          cases planned
          exact Action.assertIndex_gives_error found

theorem wellNamed_of_plan (planned : asserted.plan session location full = .ok (home, records)) :
    Record.WellNamed records := by
  cases asserted with
  | name table caseName =>
      obtain ⟨name, text, _, -, -, -, -, rfl⟩ := Session.plan_eq_ok_iff.1 planned
      exact Record.wellNamed_ofText _ (name, text)
  | index including excluding =>
      obtain ⟨_, found, same⟩ := map_eq_ok_iff.1 planned
      cases same
      exact ReadTxn.wellNamed_indexRecords found

/-- If an assertion passes, it has a plan, and all records of the plan pass. -/
theorem exists_plan {update : Bool} {after : Session}
    (passed : (asserted.act location update full).runIn session = (.ok records, after)) :
    ∃ home, asserted.plan session location full = .ok (home, records) ∧
      session.files.checkAll home update none records = (after.files, .ok ()) := by
  cases planned : asserted.plan session location full with
  | error failure =>
      have failed := (act_gives_error planned update).result_eq
      rw [passed] at failed
      cases failed
  | ok plan =>
      obtain ⟨home, compared⟩ := plan
      have gives := act_gives planned update
      have result := gives.result_eq
      have files := gives.files_eq
      rw [passed] at result files
      obtain ⟨_, all, rfl⟩ := map_eq_ok_iff.1 result.symm
      exact ⟨home, rfl, Prod.ext files.symm all⟩

/-- **What has been accepted passes.**  If an assertion in update mode gives records, the same
assertion in check mode, over the same store and the files that are there now, gives the same
records, unless the pending file of one of them is at fault.  No fixture changes, and neither
does the store. -/
theorem check_passes_after_update {before after later final : Session}
    {result : Except Failure (List Record)}
    (updated : (asserted.act location true full).runIn before = (.ok records, after))
    (sameStore : later.store.freeze = before.store.freeze) (sameFiles : later.files = after.files)
    (checked : (asserted.act location false full).runIn later = (result, final)) :
    (result = .ok records ∨ ∃ home failure,
      asserted.plan before location full = .ok (home, records) ∧
        FileTree.PendingFault home records failure ∧ result = .error failure) ∧
    (∀ path : Path, path.IsFixture → final.files.content? path = after.files.content? path) ∧
    final.store = later.store := by
  -- both assertions have one plan, and after the first its records are what the fixtures keep
  obtain ⟨home, planned, accepted⟩ := exists_plan updated
  obtain ⟨plain, distinct⟩ := wellNamed_of_plan planned
  have kept := FileTree.holds_of_checkAll_update plain distinct (congrArg Prod.snd accepted)
  rw [accepted] at kept
  obtain ⟨journal, ran⟩ := act_gives ((plan_congr sameStore).trans planned) false
  rw [checked, sameFiles] at ran
  obtain ⟨rfl, rfl⟩ := Prod.mk.inj ran
  refine ⟨?_, fun path => FileTree.content?_checkAll_check plain, rfl⟩
  rcases FileTree.checkAll_check_of_holds plain kept with passed | ⟨failure, fault, failed⟩
  · rw [passed]
    exact .inl rfl
  · rw [failed]
    exact .inr ⟨home, failure, planned, fault, rfl⟩

end Acts

/-! ## A text with line ends of several kinds -/

/-- A test of an index with one field, whose name is a carriage return, two line separators and
a character beyond the first plane. -/
def lineEnds : Session where
  store := Store.standard.setMain { fieldsIds := [(0, "\r\u0085\u2028😀")] }

/-- The fields of the index, in a case of the test. -/
def fields : Asserted :=
  .name "fields_ids_map" (some "case")

def fieldsText : String :=
  "0   \r\u0085\u2028😀            \n"

def fieldsHome : Location :=
  { TablePlace.words.location with
    directory := ⟨.here, ["snapshots", "t", "case"]⟩, caseName := some "case" }

/-- The files once the fields have been asserted in update mode. -/
def fieldsFiles : FileTree where
  files := [(⟨.here, ["snapshots", "t", "case", "fields_ids_map.snap"]⟩, Utf8.encode fieldsText)]
  directories :=
    [⟨.here, []⟩, ⟨.here, ["snapshots"]⟩, ⟨.here, ["snapshots", "t"]⟩,
      ⟨.here, ["snapshots", "t", "case"]⟩, ⟨.here, ["snapshots", "t", "case"]⟩,
      ⟨.here, []⟩, ⟨.here, ["snapshots"]⟩, ⟨.here, ["snapshots", "t"]⟩,
      ⟨.here, ["snapshots", "t"]⟩, ⟨.here, []⟩, ⟨.here, ["snapshots"]⟩,
      ⟨.here, ["snapshots"]⟩, ⟨.here, []⟩]

theorem fields_plan {session : Session} (same : session.store.freeze = lineEnds.store.freeze) :
    fields.plan session TablePlace.words.location false
      = .ok (fieldsHome, [⟨"fields_ids_map", fieldsText⟩]) := by
  have rendered : lineEnds.store.freeze.snapshot .fieldsIdsMap = .ok fieldsText := by
    show Except.ok (unlines (List.map _ (List.mergeSort [_] _))) = _
    rw [List.mergeSort_singleton]
    rfl
  rw [plan_congr same]
  exact Session.plan_eq_ok_iff.2 ⟨.fieldsIdsMap, _, false, rfl, rfl, rendered, rfl, rfl⟩

/-- The fixture keeps the text, so it is the same. -/
theorem checkAll_fieldsFiles :
    fieldsFiles.checkAll fieldsHome false none [⟨"fields_ids_map", fieldsText⟩]
      = (fieldsFiles, .ok ()) := by
  have found : fieldsFiles.content? (fieldsHome.fixturePath "fields_ids_map").folded
      = some (Utf8.encode fieldsText) := rfl
  have clear : fieldsFiles.obstacle? (fieldsHome.fixturePath "fields_ids_map") = none := rfl
  have erased : fieldsFiles.eraseIfThere (fieldsHome.fixturePath "fields_ids_map").pending
      = (fieldsFiles, .ok ()) := rfl
  have passed : fieldsFiles.compare fieldsHome false ⟨"fields_ids_map", fieldsText⟩
      = (fieldsFiles, .ok ()) := by
    rw [← erased]
    exact FileTree.compare_check_of_holds clear (FileTree.holds_of_content?_encode found)
  rw [FileTree.checkAll_cons_of_ok passed]
  rfl

/-- The text is written with each of its line ends, and it passes. -/
theorem line_ends_pass_after_update : ∃ after final : Session,
    (fields.act TablePlace.words.location true false).runIn lineEnds
        = (.ok [⟨"fields_ids_map", fieldsText⟩], after) ∧
      (fields.act TablePlace.words.location false false).runIn after
        = (.ok [⟨"fields_ids_map", fieldsText⟩], final) ∧
      ∀ path : Path, path.IsFixture →
        final.files.content? path = after.files.content? path := by
  have written : lineEnds.files.checkAll fieldsHome true none [⟨"fields_ids_map", fieldsText⟩]
      = (fieldsFiles, .ok ()) := rfl
  obtain ⟨after, updated, store, files⟩ : ∃ after : Session,
      (fields.act TablePlace.words.location true false).runIn lineEnds
        = (.ok [⟨"fields_ids_map", fieldsText⟩], after) ∧
      after.store.freeze = lineEnds.store.freeze ∧ after.files = fieldsFiles := by
    obtain ⟨journal, ran⟩ := act_gives (fields_plan rfl) true
    rw [written] at ran
    exact ⟨_, ran, rfl, rfl⟩
  obtain ⟨journal, checked⟩ := act_gives (fields_plan store) false
  rw [files, checkAll_fieldsFiles] at checked
  obtain ⟨-, kept, -⟩ := check_passes_after_update updated store rfl checked
  exact ⟨after, _, updated, checked, kept⟩

end Asserted

end IndexSnapshot
