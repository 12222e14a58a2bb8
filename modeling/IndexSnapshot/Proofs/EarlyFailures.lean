/-
# IndexSnapshot.Proofs.EarlyFailures -- what fails early leaves no trace

An assertion looks up its names, places and texts before it compares anything, so when one of
these is at fault no file has been touched, whatever the other texts are like.  Only the
configuration is asked again before each text of the index.  But a configuration that could be
read the first time can be read again as long as no comparison changes its file, and a
comparison changes fixtures and pending files alone.

* `FileTree.checkAll_late`: a comparison does not fail for a reason that comes before it.
* `Session.keepsFull_check`: a comparison leaves the answer of the configuration as it was.
* `Request.early_failure_leaves_files`: an early failure leaves all files, and every outcome the
  store, as they were.
* `Session.pending_configuration_taken_away`: with a configuration in a pending file it is not so.
-/
import IndexSnapshot.Proofs.CheckMode

namespace IndexSnapshot

set_option autoImplicit false

/-! ## Early and late -/

namespace Failure

/-- The kinds of errors that come from a name, a place, a text, a pattern or the
configuration. -/
def earlyKinds : List ErrorKind :=
  [.unknownTable, .location, .missingTable, .decode, .pattern, .config]

/-- A failure of one of these kinds, or another one in a pattern. -/
def IsEarly (failure : Failure) : Prop :=
  (∃ kind ∈ earlyKinds, failure.kind.isKindOf kind = true) ∨ ∃ fault, failure = .pattern fault

/-- A failure of a comparison: the texts differ, a path is at fault, or a fixture is no text. -/
inductive IsLate : Failure → Prop where
  | mismatch (name : String) (how : Mismatch) : IsLate (.mismatch name how)
  | file (fault : FileFault) (place : String) : IsLate (.file fault place)
  | notText (flaw : Utf8.Flaw) : IsLate (.notText flaw)

/-- The kinds of failures of a comparison. -/
def lateKinds : List ErrorKind :=
  [.mismatch, .unicode, .noFile, .fileExists, .notDirectory, .isDirectory, .os, .value]

theorem IsLate.kind_mem {failure : Failure} (late : failure.IsLate) :
    failure.kind ∈ lateKinds := by
  cases late with
  | mismatch name how => exact (by decide : ErrorKind.mismatch ∈ lateKinds)
  | notText flaw => exact (by decide : ErrorKind.unicode ∈ lateKinds)
  | file fault place =>
      have listed : fault.kind ∈ lateKinds := by cases fault <;> decide
      exact listed

theorem IsLate.not_isEarly {failure : Failure} (late : failure.IsLate) : ¬ failure.IsEarly := by
  have apart : ∀ kind ∈ lateKinds, ∀ other ∈ earlyKinds, kind.isKindOf other = false := by decide
  rintro (⟨kind, member, found⟩ | ⟨fault, rfl⟩)
  · rw [apart failure.kind late.kind_mem kind member] at found
    cases found
  · cases late

end Failure

namespace FileTree

variable {t : FileTree} {location : Location} {update : Bool} {literal : Option String}
  {failure : Failure}

theorem writeText_late {path : Path} {text : String}
    (failed : (t.writeText path text).2 = .error failure) : failure.IsLate := by
  obtain ⟨-, ⟨passed, -⟩ | ⟨⟨fault, place, stopped⟩, -⟩⟩ := writeText_cases t path text
  · cases passed.symm.trans failed
  · cases stopped.symm.trans failed
    exact .file fault place

theorem eraseIfThere_late {path : Path} (failed : (t.eraseIfThere path).2 = .error failure) :
    failure.IsLate := by
  obtain ⟨-, passed | ⟨fault, place, stopped⟩, -⟩ := eraseIfThere_cases t path
  · cases passed.symm.trans failed
  · cases stopped.symm.trans failed
    exact .file fault place

theorem settle_late {finding : Finding} {path : Path} {text : String}
    (failed : (finding.settle t update path text).2 = .error failure) : failure.IsLate := by
  cases finding with
  | missing => exact writeText_late failed
  | different stored => exact writeText_late failed
  | same => exact eraseIfThere_late failed
  | unreadable _ => cases failed

theorem result_late {path : Path} {record : Record}
    (failed : (t.finding path record.content).result update path record = .error failure) :
    failure.IsLate := by
  cases found : t.finding path record.content with
  | same =>
      rw [found] at failed
      cases failed
  | unreadable reason =>
      rw [found] at failed
      cases failed
      rcases finding_unreadable found with ⟨fault, place, rfl⟩ | ⟨flaw, rfl⟩
      · exact .file fault place
      · exact .notText flaw
  | missing =>
      rw [found] at failed
      cases update <;> cases failed
      exact .mismatch _ _
  | different stored =>
      rw [found] at failed
      cases update <;> cases failed
      exact .mismatch _ _

theorem compare_late {record : Record}
    (failed : (t.compare location update record).2 = .error failure) : failure.IsLate := by
  unfold compare at failed
  dsimp only at failed
  cases settled : ((t.finding (location.fixturePath record.name) record.content).settle t update
      (location.fixturePath record.name) record.content).2 with
  | error reason =>
      rw [settled] at failed
      cases failed
      exact settle_late settled
  | ok _ =>
      rw [settled] at failed
      exact result_late failed

theorem compareInline_late {record : Record} {text : String}
    (failed : record.compareInline text = .error failure) : failure.IsLate := by
  unfold Record.compareInline at failed
  dsimp only at failed
  split at failed
  · cases failed
  · cases failed
    exact .mismatch _ _

theorem check_late {record : Record}
    (failed : (t.check location update literal record).2 = .error failure) :
    failure.IsLate := by
  by_cases uses : record.UsesFixture literal
  · rw [check_of_usesFixture uses] at failed
    exact compare_late failed
  · obtain ⟨text, compared⟩ := check_of_not_usesFixture uses t location update
    rw [compared] at failed
    dsimp only at failed
    exact compareInline_late failed

/-- **All failures of comparisons are late.** -/
theorem checkAll_late {records : List Record}
    (failed : (t.checkAll location update literal records).2 = .error failure) :
    failure.IsLate := by
  induction records generalizing t with
  | nil => cases failed
  | cons record rest ih =>
      rw [checkAll] at failed
      cases checked : t.check location update literal record with
      | mk mid result =>
          rw [checked] at failed
          cases result with
          | ok _ => exact ih failed
          | error reason =>
              cases failed
              exact check_late (congrArg Prod.snd checked)

/-- A comparison takes no directory away, and changes no file but its pending file and its
fixture. -/
theorem check_cases (t : FileTree) (location : Location) (update : Bool)
    (literal : Option String) (record : Record) :
    t.directories ⊆ (t.check location update literal record).1.directories ∧
      ∀ q, (t.check location update literal record).1.content? q = t.content? q ∨
        q = (location.fixturePath record.name).pending.folded ∨
        q = (location.fixturePath record.name).folded := by
  by_cases uses : record.UsesFixture literal
  · rw [check_of_usesFixture uses]
    obtain ⟨grows, changes⟩ := compare_cases t location update record
    refine ⟨grows, fun q => ?_⟩
    rcases changes q with kept | pending | ⟨-, fixture, -⟩
    · exact .inl kept
    · exact .inr (.inl pending)
    · exact .inr (.inr fixture)
  · obtain ⟨text, compared⟩ := check_of_not_usesFixture uses t location update
    rw [compared]
    exact ⟨List.Subset.refl _, fun q => .inl rfl⟩

/-! ## The configuration -/

/-- What a path leads to, it leads to as long as that stays and no directory is taken away. -/
theorem find_of_grows {after : FileTree} {path : Path} {found : Found}
    (reached : t.find path = .ok found) (grows : t.directories ⊆ after.directories)
    (kept : after.content? path.folded = t.content? path.folded) :
    after.find path = .ok found := by
  unfold find at reached ⊢
  cases clear : t.obstacle? path with
  | some fault =>
      rw [clear] at reached
      cases reached
  | none =>
      rw [clear] at reached
      rw [obstacle?_of_subset grows clear, kept]
      dsimp only at reached ⊢
      cases content : t.content? path.folded with
      | some bytes =>
          rw [content] at reached
          exact reached
      | none =>
          rw [content] at reached
          dsimp only at reached ⊢
          by_cases directory : t.isDirectory path.folded = true
          · rw [if_pos directory] at reached
            rw [if_pos (isDirectory_of_subset grows directory)]
            exact reached
          · rw [if_neg directory] at reached
            cases reached

end FileTree

namespace Config

variable [Yaml.Reader]

theorem loadFile_congr {files after : FileTree} {path : Path}
    (same : after.find path = files.find path) : loadFile after path = loadFile files path := by
  simp only [loadFile, isThere, FileTree.has, openFile, FileTree.readFile, same]

/-- A configuration that could be read has a file, if it is to have one. -/
theorem find_of_load {environment : Environment} {files : FileTree} {path : Path}
    {config : Config} (chosen : choosePath environment none = some path)
    (loaded : (load environment files none).outcome.1 = .ok config) :
    ∃ found, files.find path = .ok found := by
  cases reached : files.find path with
  | ok found => exact ⟨found, rfl⟩
  | error fault =>
      have stopped : ∃ failure, loadFile files path = throw failure := by
        unfold loadFile isThere FileTree.has
        rw [reached]
        cases fault with
        | nameTooLong => exact ⟨_, rfl⟩
        | _ => exact ⟨_, rfl⟩
      obtain ⟨failure, stopped⟩ := stopped
      unfold load at loaded
      rw [chosen] at loaded
      dsimp only at loaded
      rw [stopped] at loaded
      cases loaded

/-- A configuration is read once more as it was, if what its path leads to has stayed. -/
theorem load_of_grows {environment : Environment} {files after : FileTree} {config : Config}
    (loaded : (load environment files none).outcome.1 = .ok config)
    (grows : files.directories ⊆ after.directories)
    (kept : ∀ path, choosePath environment none = some path →
      after.content? path.folded = files.content? path.folded) :
    load environment after none = load environment files none := by
  unfold load
  cases chosen : choosePath environment none with
  | none => rfl
  | some path =>
      obtain ⟨found, reached⟩ := find_of_load chosen loaded
      have same : after.find path = files.find path :=
        (FileTree.find_of_grows reached grows (kept path chosen)).trans reached.symm
      dsimp only
      rw [loadFile_congr same]

end Config

/-! ## Assertions -/

namespace Request

/-- The file of the configuration, if there is one, is none of the fixtures that are compared
for a request, and none of their pending files. -/
def ConfigApart [Pattern.Finder] (request : Request) (location : Location)
    (environment : Environment) : Prop :=
  ∀ path, Config.choosePath environment none = some path →
    ∀ home literal record, request.Compares location home literal record →
      path.folded ≠ (home.fixturePath record.name).folded ∧
        path.folded ≠ (home.fixturePath record.name).pending.folded

end Request

/-- The session keeps full texts or not, and would with these files. -/
def Session.KeepsWith [Yaml.Reader] (session : Session) (storeFull : Option Bool) (full : Bool)
    (files : FileTree) : Prop :=
  Session.keepsFull { session with files } storeFull = .ok full

/-- What holds of files stays so. -/
def FileTree.Preserves (holds : FileTree → Prop) (before after : FileTree) : Prop :=
  holds before → holds after

instance (holds : FileTree → Prop) : IsPreorder FileTree (FileTree.Preserves holds) where
  refl _ held := held
  trans _ _ _ first second held := second (first held)

/-- **A comparison leaves the answer of the configuration as it was.** -/
theorem Session.keepsFull_check [Yaml.Reader] [Pattern.Finder] {request : Request}
    {location : Location} {update full : Bool} {session : Session} (apart : request.ConfigApart location session.environment)
    (storeFull : Option Bool) :
    request.Changes (FileTree.Preserves (session.KeepsWith storeFull full)) location update := by
  intro home literal record compares files kept
  cases storeFull with
  | some said => exact kept
  | none =>
      obtain ⟨config, loaded, answer⟩ := map_eq_ok_iff.1 kept
      have changes := files.check_cases home update literal record
      have again := Config.load_of_grows loaded changes.1 fun path chosen => ?_
      · unfold KeepsWith keepsFull
        dsimp only at again ⊢
        rw [again]
        exact kept
      · obtain ⟨noFixture, noPending⟩ := apart path chosen home literal record compares
        rcases changes.2 path.folded with same | pending | fixture
        · exact same
        · exact absurd pending noPending
        · exact absurd fixture noFixture

namespace Action

variable [Yaml.Reader] {location : Location} {update : Bool} {storeFull : Option Bool}
  {session : Session} {failure : Failure}

/-- An assertion of a name makes its whole plan before it compares anything. -/
theorem assertTable_early {table : String} {caseName literal : Option String}
    (failed : ((assertTable location update table caseName literal storeFull).runIn session).1
      = .error failure) (early : failure.IsEarly) :
    ((assertTable location update table caseName literal storeFull).runIn session).2.files
      = session.files := by
  cases planned : session.plan location table caseName literal.isSome storeFull with
  | error reason => exact (assertTable_gives_error planned update).files_eq
  | ok plan =>
      obtain ⟨home, records⟩ := plan
      rw [(assertTable_gives planned update).result_eq] at failed
      cases compared : (session.files.checkAll home update literal records).2 with
      | ok _ =>
          rw [compared] at failed
          cases failed
      | error reason =>
          rw [compared] at failed
          cases failed
          exact absurd early (FileTree.checkAll_late compared).not_isEarly

/-- Without a configuration not even the first text is compared. -/
theorem mapM_assertText_gives_unchanged (pairs : List (SnapshotName × String))
    (asked : session.keepsFull storeFull = .error failure) :
    ∃ result, ∀ journal,
      (pairs.mapM fun (name, text) => assertText location update storeFull name text).Gives
        { session with journal } result session.files := by
  cases pairs with
  | nil => exact ⟨.ok [], fun journal => pure_gives [] { session with journal }⟩
  | cons pair rest =>
      refine ⟨.error failure, fun journal => ?_⟩
      rw [List.mapM_cons]
      have first := assertText_gives_error location update pair.1 pair.2 { session with journal }
        asked
      exact first.bind_error

variable [Pattern.Finder]

/-- With one, texts that have been read are compared to the end, or until a comparison fails. -/
theorem assertIndex_late {including excluding : Option String} {names : List SnapshotName}
    {texts : List String} {full : Bool} (chosen : selected including excluding = .ok names)
    (read : names.mapM session.store.freeze.snapshot = .ok texts)
    (apart : (Request.index including excluding).ConfigApart location session.environment)
    (kept : session.keepsFull storeFull = .ok full)
    (failed : ((assertIndex location update including excluding storeFull).runIn session).1
      = .error failure) : failure.IsLate := by
  have stays : (Request.index including excluding).Changes
      (FileTree.Preserves (session.KeepsWith storeFull full)) location update :=
    Session.keepsFull_check apart storeFull
  -- the configuration says the same before each text, so it may as well have been said at once
  have each : Agree (FileTree.Preserves (session.KeepsWith storeFull full))
      ((names.zip texts).mapM fun pair => assertText location update storeFull pair.1 pair.2)
      ((names.zip texts).mapM fun pair => assertText location update (some full) pair.1 pair.2)
      session := by
    apply Agree.mapM
    intro pair member files held
    have among : pair.1 ∈ names := (List.of_mem_zip member).1
    refine assertText_agrees (fun full record compared => ?_) (held kept)
    exact stays location none record (.index chosen among compared)
  have compared := (mapM_assertText_gives location update full (names.zip texts) session).map
    (f := List.flatten)
  rw [(assertIndex_agrees chosen read each).result_eq, compared.result_eq] at failed
  cases result : (session.files.checkAll location update none
      ((names.zip texts).map (Record.ofText full)).flatten).2 with
  | ok _ =>
      rw [result] at failed
      cases failed
  | error reason =>
      rw [result] at failed
      cases failed
      exact FileTree.checkAll_late result

theorem assertIndex_early {including excluding : Option String}
    (apart : (Request.index including excluding).ConfigApart location session.environment)
    (failed : ((assertIndex location update including excluding storeFull).runIn session).1
      = .error failure) (early : failure.IsEarly) :
    ((assertIndex location update including excluding storeFull).runIn session).2.files
      = session.files := by
  cases texts_read : (do (← selected including excluding).mapM session.store.freeze.snapshot) with
  | error reason => exact (assertIndex_gives_unread storeFull texts_read).files_eq
  | ok texts =>
      obtain ⟨names, chosen, read⟩ := bind_eq_ok_iff.1 texts_read
      cases kept : session.keepsFull storeFull with
      | ok full =>
          exact absurd early (assertIndex_late chosen read apart kept failed).not_isEarly
      | error reason =>
          obtain ⟨result, gives⟩ := mapM_assertText_gives_unchanged (names.zip texts) kept
          have agree := assertIndex_agrees chosen read
            (Agree.of_gives (refl_of FileTree.Anyhow session.files) gives)
          rw [agree.files_eq]
          exact (gives session.journal).map.files_eq

end Action

/-- **What fails early leaves no trace.**  If an assertion of a name or of the index fails
because of a name, a place, a text, a pattern or the configuration, all files are as before.
Whatever the outcome is, so is the store, with its tables, its main entry and its open readers.
The file of the configuration must be neither one of the fixtures nor a pending file. -/
theorem Request.early_failure_leaves_files [Yaml.Reader] [Pattern.Finder] {request : Request}
    {location : Location} {session : Session} (apart : request.ConfigApart location session.environment)
    (update : Bool) (storeFull : Option Bool) :
    (∀ failure, ((request.act location update storeFull).runIn session).1 = .error failure →
      failure.IsEarly →
        ((request.act location update storeFull).runIn session).2.files = session.files) ∧
    ((request.act location update storeFull).runIn session).2.store = session.store := by
  constructor
  · intro failure failed early
    cases request with
    | name table caseName literal => exact Action.assertTable_early failed early
    | index including excluding => exact Action.assertIndex_early apart failed early
  · have anyhow : request.Changes FileTree.Anyhow location update := fun _ _ _ _ _ => trivial
    exact (Request.act_agrees anyhow storeFull session).store_eq

/-! ## A record that cannot be read -/

/-- All names of the index. -/
def Request.wholeIndex : Request :=
  .index none none

theorem Request.wholeIndex_home [Pattern.Finder] {home : Location} {literal : Option String}
    {record : Record} (compares : wholeIndex.Compares TablePlace.words.location home literal record) :
    home = TablePlace.words.location ∧ IsFileName record.name := by
  refine ⟨?_, compares.isFileName⟩
  cases compares
  rfl

namespace Session

open Request (wholeIndex)

/-- A session whose fixture of the settings is not what they are. -/
def outdated (store : Store) : Session where
  store
  environment := [("DBSNAP_CONFIG", "dbsnap.yml")]
  files := .ofList [(TablePlace.words.location.fixturePath "settings", [])]

theorem outdated_apart [Pattern.Finder] (store : Store) :
    wholeIndex.ConfigApart TablePlace.words.location (outdated store).environment := by
  intro path chosen home literal record compares
  obtain ⟨rfl, plain⟩ := Request.wholeIndex_home compares
  have single : path.folded.names.length = 1 := by
    cases chosen
    rfl
  have deep (name : String) :
      (TablePlace.words.location.directory.folded.within name).names.length = 3 := rfl
  constructor
  · intro same
    rw [same, Location.folded_fixturePath _ plain, deep] at single
    cases single
  · intro same
    rw [same, Location.folded_pending _ plain, deep] at single
    cases single

/-- The settings come before the record that cannot be read, and are not updated. -/
theorem broken_record_leaves_settings : ∃ store failure,
    Store.standard.put? "docid_word_positions" [1] [] = some store ∧
      ((wholeIndex.act TablePlace.words.location true none).runIn (outdated store)).1
        = .error failure ∧
      failure.IsEarly ∧
      ((wholeIndex.act TablePlace.words.location true none).runIn (outdated store)).2.files
        = (outdated store).files := by
  have read : ∃ store failure, Store.standard.put? "docid_word_positions" [1] [] = some store ∧
      SnapshotName.catalogue.mapM store.freeze.snapshot = .error failure ∧
        failure.kind = .decode := ⟨_, _, rfl, rfl, rfl⟩
  obtain ⟨store, failure, stored, stopped, kind⟩ := read
  have failed : ((wholeIndex.act TablePlace.words.location true none).runIn
      (outdated store)).1 = .error failure := by
    have chosen : Action.selected none none = .ok SnapshotName.catalogue := rfl
    have unread : (do
        (← Action.selected none none).mapM (outdated store).store.freeze.snapshot)
          = .error failure := (bind_of_ok chosen).trans stopped
    have gives : (Action.assertIndex TablePlace.words.location true none none none).Gives
        (outdated store) (.error failure) (outdated store).files :=
      Action.assertIndex_gives_unread none unread
    have asked : wholeIndex.act TablePlace.words.location true none
        = Action.assertIndex TablePlace.words.location true none none none := rfl
    rw [asked, gives.result_eq]
  have early : failure.IsEarly := .inl ⟨.decode, by decide, by rw [kind]; decide⟩
  have trace := Request.early_failure_leaves_files (outdated_apart store) true none
  exact ⟨store, failure, stored, failed, early, trace.1 failure failed early⟩

/-! ## A configuration in a pending file -/

/-- The settings of an index without any. -/
def noSettings : String :=
  Setting.snapshot Store.standard.freeze.setting

/-- The fixture of the settings. -/
def settingsPath : Path :=
  TablePlace.words.location.fixturePath "settings"

/-- A session whose fixture of the settings is what they are, and whose configuration is the
pending file of this fixture. -/
def aside : Session where
  environment := [("DBSNAP_CONFIG", "snapshots/t/settings.snap.new")]
  files := .ofList [(settingsPath, Utf8.encode noSettings), (settingsPath.pending, [])]

theorem settle_defaults {key name : String}
    (switch : key = Config.fullKey ∨ key = Config.updateKey) :
    Config.settle key name Config.defaults = pure Config.defaults := by
  have same_text (a b : String) : Value.same (.text a) (.text b) = (a == b) := by
    simp only [Value.same]
  rcases switch with rfl | rfl
  · simp [Config.settle, Value.lookup?, Config.defaults, same_text, Config.fullKey,
      Config.rootKey, Config.sourceRootKey, Config.updateKey, Value.putEntry]
    rfl
  · simp [Config.settle, Value.lookup?, Config.defaults, same_text, Config.fullKey,
      Config.rootKey, Config.sourceRootKey, Config.updateKey, Value.putEntry]
    rfl

/-- The empty file leaves all at its defaults, and no full texts are kept. -/
theorem aside_keepsFull : aside.keepsFull none = .ok false := by
  have loaded : (Config.load aside.environment aside.files none).outcome
      = (do
          let entries ← Config.settle Config.fullKey Config.fullVariable Config.defaults
          let entries ← Config.settle Config.updateKey Config.updateVariable entries
          return ⟨some settingsPath.pending, entries⟩ : Logged Config).run
            [Config.loadingEntry settingsPath.pending] := rfl
  have short : Value.lookup? Config.fullKey Config.defaults = some (.bool false) := by
    simp [Value.lookup?, Value.same, Config.defaults, Config.fullKey, Config.rootKey,
      Config.sourceRootKey]
  rw [Session.keepsFull, loaded, settle_defaults (.inl rfl), pure_bind,
    settle_defaults (.inr rfl), pure_bind]
  show Except.ok (Config.storeFull ⟨_, Config.defaults⟩) = _
  rw [Config.storeFull, Config.entry, short]
  rfl

/-- The settings pass, and that takes the configuration away. -/
theorem aside_checkAll :
    aside.files.checkAll TablePlace.words.location false none [⟨"settings", noSettings⟩]
      = (aside.files.erase settingsPath.pending, .ok ()) := by
  have found : aside.files.content? (TablePlace.words.location.fixturePath "settings").folded
      = some (Utf8.encode noSettings) := rfl
  have clear : aside.files.obstacle? (TablePlace.words.location.fixturePath "settings") = none :=
    rfl
  have erased : aside.files.eraseIfThere
      (TablePlace.words.location.fixturePath "settings").pending
        = (aside.files.erase settingsPath.pending, .ok ()) := rfl
  have compared : aside.files.compare TablePlace.words.location false ⟨"settings", noSettings⟩
      = (aside.files.erase settingsPath.pending, .ok ()) := by
    rw [← erased]
    exact FileTree.compare_check_of_holds clear (FileTree.holds_of_content?_encode found)
  rw [FileTree.checkAll_cons_of_ok compared]
  rfl

/-- The first text passes, and the second one has no configuration any more. -/
theorem aside_mapM_gives (pairs : List (SnapshotName × String)) (journal : List Log.Entry) :
    (((SnapshotName.settings, noSettings) :: (SnapshotName.table .wordDocids, "")
        :: pairs).mapM fun (name, text) =>
      Action.assertText TablePlace.words.location false none name text).Gives
      { aside with journal } (.error (.config (.noFile settingsPath.pending)))
      (aside.files.erase settingsPath.pending) := by
  have short : noSettings.length < Record.threshold false := by
    unfold noSettings Setting.snapshot
    rw [String.length_join]
    decide +kernel
  have records : Record.ofText false (.settings, noSettings) = [⟨"settings", noSettings⟩] :=
    Record.ofSnapshot_short _ false short
  have kept : Session.keepsFull { aside with journal } none = .ok false := aside_keepsFull
  have first := Action.assertText_gives_of_keepsFull TablePlace.words.location false .settings
    noSettings { aside with journal } kept
  rw [records] at first
  dsimp only at first
  rw [aside_checkAll] at first
  rw [List.mapM_cons]
  refine first.bind fun journal => ?_
  have gone : Session.keepsFull
      { aside with files := aside.files.erase settingsPath.pending, journal } none
        = .error (.config (.noFile settingsPath.pending)) := rfl
  have second := Action.assertText_gives_error TablePlace.words.location false
    (.table .wordDocids) "" _ gone
  rw [List.mapM_cons]
  exact second.bind_error.bind_error

/-- **A configuration that is a pending file is lost on the way**: the first name passes and
takes the file away, the second one asks for it, and the files are not what they were. -/
theorem pending_configuration_taken_away : ∃ path failure,
    Config.choosePath aside.environment none = some path ∧ ¬ path.folded.IsFixture ∧
      ((wholeIndex.act TablePlace.words.location false none).runIn aside).1 = .error failure ∧
      failure.IsEarly ∧
      ((wholeIndex.act TablePlace.words.location false none).runIn aside).2.files
        ≠ aside.files := by
  have plain : IsFileName "settings" := by decide
  have apart : ¬ settingsPath.pending.folded.IsFixture :=
    TablePlace.words.location.not_isFixture_pending plain
  have early : (Failure.config (.noFile settingsPath.pending)).IsEarly :=
    .inl ⟨.config, by decide, rfl⟩
  have chosen : Action.selected none none = .ok SnapshotName.catalogue := rfl
  obtain ⟨names, listed⟩ : ∃ names,
      SnapshotName.catalogue = .settings :: .table .wordDocids :: names := ⟨_, rfl⟩
  obtain ⟨texts, read⟩ : ∃ texts,
      SnapshotName.catalogue.mapM aside.store.freeze.snapshot
        = .ok (noSettings :: "" :: texts) := ⟨_, rfl⟩
  rw [listed] at chosen read
  have gives (journal : List Log.Entry) :
      (((SnapshotName.settings :: .table .wordDocids :: names).zip
          (noSettings :: "" :: texts)).mapM fun (name, text) =>
        Action.assertText TablePlace.words.location false none name text).Gives
      { aside with journal } (.error (.config (.noFile settingsPath.pending)))
      (aside.files.erase settingsPath.pending) :=
    aside_mapM_gives (names.zip texts) journal
  have anyhow : FileTree.Anyhow aside.files (aside.files.erase settingsPath.pending) := trivial
  have agree := Action.assertIndex_agrees chosen read (Action.Agree.of_gives anyhow gives)
  have asked : wholeIndex.act TablePlace.words.location false none
      = Action.assertIndex TablePlace.words.location false none none none := rfl
  refine ⟨settingsPath.pending, .config (.noFile settingsPath.pending), rfl, apart, ?_, early, ?_⟩
  · rw [asked, agree.result_eq]
    exact (gives []).bind_error.result_eq
  · rw [asked, agree.files_eq]
    intro same
    have erased := (gives []).bind_error.files_eq.symm.trans same
    have gone := aside.files.content?_erase_self settingsPath.pending
    rw [erased] at gone
    cases gone

end Session

end IndexSnapshot
