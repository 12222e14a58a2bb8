/-
# IndexSnapshot.Proofs.LocatingTests -- the command line finds the directory of a running test

The command line looks for a source file from the working directory, with the roots of the
configuration as they are; a test runner has the whole path of the file, and roots that lie in the
project.  If the project is the working directory, and the source file is given from there without
two dots, both find the same way from the source root, and the directory that is printed, read as
a path of the project, is that of the running test.  Or both fail, and say that the test has no
location.

* `Path.fromRoot_congr`, in another module, is why the ways are the same.
* `Call.Locates`: a call that asks for the location of a test.
* `Call.prints_directory_of_running_test`: what it prints.
* `Call.dashed_words_not_located`: a call that is read in another way.
-/
import IndexSnapshot.CommandLine.Run
import IndexSnapshot.Proofs.Actions
import IndexSnapshot.Proofs.PathFolding
import IndexSnapshot.Proofs.Steps
import IndexSnapshot.Session.Binding
import Mathlib

namespace IndexSnapshot

set_option autoImplicit false

/-! ## Names of a location -/

namespace Path

/-- The way of a source file without two dots has names of the file, seen from the working
directory. -/
theorem written_of_fromRoot {workingDirectory file root way : Path}
    (here : workingDirectory.Written) (written : file.Written)
    (settled : ".." ∉ workingDirectory.names) (forth : ".." ∉ file.names)
    (found : fromRoot workingDirectory file root = .ok way) : way.Written := by
  have kept : ".." ∉ (workingDirectory.join file).names := by
    unfold join
    split
    · exact forth
    · rw [List.mem_append, not_or]
      exact ⟨settled, forth⟩
  have whole : (absolute workingDirectory file).Written := by
    rw [absolute, folded_eq_self kept]
    exact here.join written
  rcases fromRoot_eq_ok_iff.1 found with leads | ⟨-, leads⟩
  · rw [(relativeTo?_eq_some_iff.1 leads).2] at written
    exact fun name member => written name (List.mem_append_right _ member)
  · rw [(relativeTo?_eq_some_iff.1 leads).2] at whole
    exact fun name member => whole name (List.mem_append_right _ member)

/-- The directory that a program runs in: from the root, two dots resolved. -/
structure Settled (p : Path) : Prop where
  rooted : p.isAbsolute = true
  folded_eq : p.folded = p
  written : p.Written

theorem Settled.forth {p : Path} (settled : p.Settled) : ".." ∉ p.names := by
  have forth := forth_folded settled.rooted
  rwa [settled.folded_eq] at forth

/-- A source file is found alike from the working directory and behind it. -/
theorem fromRoot_join {workingDirectory file : Path} (settled : workingDirectory.Settled)
    (relative : file.isAbsolute = false) (forth : ".." ∉ file.names) (root way : Path) :
    fromRoot workingDirectory file root = .ok way ↔
      fromRoot workingDirectory (workingDirectory.join file) (workingDirectory.join root)
        = .ok way := by
  refine fromRoot_congr forth ?_ (absolute_join settled.rooted file).symm
    (absolute_join settled.rooted root).symm
  rw [join_of_not_isAbsolute relative, along, List.mem_append, not_or]
  exact ⟨settled.forth, forth⟩

end Path

theorem Config.written_of_pathEntry {config : Config} {key : String} {path : Path}
    (entry : config.pathEntry key = .ok path) : path.Written := by
  unfold pathEntry at entry
  split at entry
  · cases entry
    exact Path.written_ofString _
  · cases entry

/-! ## Locations -/

/-- Where source files have the same ways, a test has locations that differ in the snapshot root
alone, or none. -/
theorem Location.resolve_together {workingDirectory file file' sourceRoot sourceRoot' : Path}
    (same : ∀ way, Path.fromRoot workingDirectory file sourceRoot = .ok way ↔
      Path.fromRoot workingDirectory file' sourceRoot' = .ok way)
    (testId : String) (snapshotRoot snapshotRoot' : Path) :
    (∃ source name, Path.fromRoot workingDirectory file sourceRoot = .ok source ∧
      resolve workingDirectory file testId none sourceRoot snapshotRoot = .ok
        ⟨(snapshotRoot.join source).child name, source, name, none⟩ ∧
      resolve workingDirectory file' testId none sourceRoot' snapshotRoot' = .ok
        ⟨(snapshotRoot'.join source).child name, source, name, none⟩) ∨
    ((∃ fault, resolve workingDirectory file testId none sourceRoot snapshotRoot
        = .error fault) ∧
      ∃ fault, resolve workingDirectory file' testId none sourceRoot' snapshotRoot'
        = .error fault) := by
  unfold resolve
  cases found : Path.fromRoot workingDirectory file sourceRoot with
  | error fault =>
      cases found' : Path.fromRoot workingDirectory file' sourceRoot' with
      | error fault' => exact .inr ⟨⟨fault, rfl⟩, fault', rfl⟩
      | ok way =>
          rw [(same way).2 found'] at found
          cases found
  | ok source =>
      rw [(same source).1 found]
      cases testNameOf testId with
      | error fault => exact .inr ⟨⟨fault, rfl⟩, fault, rfl⟩
      | ok name => exact .inl ⟨source, name, rfl, rfl, rfl⟩

theorem RunningTest.location_eq {config : Config} {sourceRoot snapshotRoot : Path}
    (test : RunningTest) (workingDirectory : Path)
    (sourceRoot_eq : config.sourceRoot = .ok sourceRoot)
    (snapshotRoot_eq : config.snapshotRoot = .ok snapshotRoot) :
    test.location workingDirectory config
      = (Location.resolve workingDirectory test.file test.testId none
          (test.projectRoot.join sourceRoot)
          (test.projectRoot.join snapshotRoot)).mapError .location := by
  unfold location
  rw [sourceRoot_eq, snapshotRoot_eq]
  rfl

namespace CommandLine

/-! ## Words -/

/-- A word that is no option. -/
def StartsPlain (word : String) : Prop :=
  word.toList.head? ≠ some '-'

instance (word : String) : Decidable (StartsPlain word) :=
  inferInstanceAs (Decidable (¬ _))

theorem Grammar.classify_of_startsPlain (g : Grammar) {word : String} (plain : StartsPlain word) :
    g.classify word = .ok (.plain word) := by
  unfold classify
  split
  · rename_i dashed
    exact absurd (congrArg List.head? dashed) plain
  · rfl

theorem Grammar.classifyAll_of_startsPlain (g : Grammar) {words : List String}
    (plain : ∀ word ∈ words, StartsPlain word) : g.classifyAll words = .ok (words.map .plain) := by
  induction words with
  | nil => rfl
  | cons word rest ih =>
      rw [List.forall_mem_cons] at plain
      have here : word ≠ "--" := by
        rintro rfl
        exact plain.1 rfl
      rw [classifyAll, if_neg here, g.classify_of_startsPlain plain.1, ih plain.2]
      rfl

theorem Given.ofWords_of_startsPlain {word : String} (plain : StartsPlain word) :
    Given.ofWords [word] = .word word := by
  have here : word ≠ "--" := by
    rintro rfl
    exact plain rfl
  simp [ofWords, here]

/-- A source file and a test id that are no options are read as what they are. -/
theorem Arguments.read_locate {source testId : String} (plainSource : StartsPlain source)
    (plainId : StartsPlain testId) :
    Arguments.read ["locate", source, testId]
      = .ok ⟨false, false, some (.locate (.word source) (.word testId) none)⟩ := by
  have words : ∀ word ∈ [source, testId], StartsPlain word := by
    simp [plainSource, plainId]
  have all : ∀ word ∈ ["locate", source, testId], StartsPlain word :=
    List.forall_mem_cons.2 ⟨by decide, words⟩
  have command : mainGrammar.read ["locate", source, testId]
      = .ok { arguments := [("command", ["locate", source, testId])] } := by
    rw [Grammar.read, Grammar.classifyAll_of_startsPlain _ all]
    rfl
  have located : locateGrammar.read [source, testId]
      = .ok { arguments := [("source", [source]), ("test_id", [testId])] } := by
    rw [Grammar.read, Grammar.classifyAll_of_startsPlain _ words]
    rfl
  have asked : locateOf { arguments := [("source", [source]), ("test_id", [testId])] }
      = .locate (.word source) (.word testId) none := by
    rw [← Given.ofWords_of_startsPlain plainSource, ← Given.ofWords_of_startsPlain plainId]
    rfl
  have chosen : readCommand ["locate", source, testId]
      = .ok (some (.locate (.word source) (.word testId) none), []) := by
    have grammar : grammarOf? "locate" = some (locateGrammar, locateOf) := rfl
    simp only [readCommand, grammar, located, asked]
  unfold read
  rw [command]
  show (readCommand ["locate", source, testId] >>= _) = _
  rw [chosen]
  rfl

/-! ## Calls -/

namespace Call

section Runs

variable [Yaml.Reader] {call : Call} {command : Command}

theorem run_of_read {verbose json : Bool}
    (read : Arguments.read call.words = .ok ⟨verbose, json, some command⟩)
    (time : Log.Style → Except Failure String) :
    call.run time = call.outcome (Arguments.sink ⟨verbose, json, some command⟩) time command := by
  unfold run
  rw [read]

theorem outcome_of_ok {output : String}
    (ran : ((call.perform command).runIn
      { files := call.files, environment := call.environment }).1 = .ok output)
    (sink : Log.Sink) (time : Log.Style → Except Failure String) :
    (call.outcome sink time command).ending = .status .success ∧
      (call.outcome sink time command).output = output := by
  unfold outcome
  dsimp only
  rw [ran]
  exact ⟨rfl, rfl⟩

/-- A test without a location is a failure of the call. -/
theorem outcome_of_location_error {fault : LocationFault}
    (ran : ((call.perform command).runIn
      { files := call.files, environment := call.environment }).1 = .error (.location fault))
    (sink : Log.Sink) (time : Log.Style → Except Failure String) :
    (call.outcome sink time command).ending = .status .failure ∧
      (call.outcome sink time command).output = "" := by
  unfold outcome
  dsimp only
  rw [ran]
  exact ⟨rfl, rfl⟩

/-- A call asks for the location of a test, under a configuration that has roots. -/
structure Locates (call : Call) (source testId : String) (config : Config)
    (sourceRoot snapshotRoot : Path) : Prop where
  read : ∃ verbose json, Arguments.read call.words
    = .ok ⟨verbose, json, some (.locate (.word source) (.word testId) none)⟩
  loaded : (Config.load call.environment call.files none).outcome.1 = .ok config
  sourceRoot_eq : config.sourceRoot = .ok sourceRoot
  snapshotRoot_eq : config.snapshotRoot = .ok snapshotRoot

variable {source testId : String} {config : Config} {sourceRoot snapshotRoot : Path}

/-- The call prints the directory of the location that it finds under its configuration. -/
theorem perform_locate (source testId : Given) (caseName : Option Given) (session : Session) :
    ((call.perform (.locate source testId caseName)).runIn session).1
      = (Config.load call.environment call.files none).outcome.1.bind fun config =>
          (call.locate config source testId caseName).map fun location =>
            printed location.directory.toString := by
  have asked := Action.ofLogged_gives (Config.load call.environment call.files none) session
  cases loaded : (Config.load call.environment call.files none).outcome.1 with
  | error failure =>
      rw [loaded] at asked
      exact asked.bind_error.result_eq
  | ok config =>
      rw [loaded] at asked
      have gives : (call.perform (.locate source testId caseName)).Gives session
          ((call.locate config source testId caseName).map fun location =>
            printed location.directory.toString) session.files :=
        asked.bind fun journal => (Action.ofResult_gives _ _).map
      exact gives.result_eq

theorem locate_eq (locates : call.Locates source testId config sourceRoot snapshotRoot) :
    call.locate config (.word source) (.word testId) none
      = (Location.resolve call.workingDirectory (.ofString source) testId none sourceRoot
          snapshotRoot).mapError .location := by
  unfold locate
  rw [locates.sourceRoot_eq, locates.snapshotRoot_eq]
  cases resolved : Location.resolve call.workingDirectory (.ofString source) testId none sourceRoot
    snapshotRoot with
  | error fault => simp only [resolved, bind, Except.bind, mapError_error]
  | ok location => simp only [resolved, bind, Except.bind, mapError_ok, pure, Except.pure]

/-- **The command line prints the directory of a running test**, or both fail because the test has
no location, if the project is the working directory and the source file is given from there
without two dots.  A way from the source root does not depend on whether file and root are given
from there or from the root of all files.  Words that do not begin with a dash are read as file
and test id. -/
theorem prints_directory_of_running_test
    (locates : call.Locates source testId config sourceRoot snapshotRoot)
    (settled : call.workingDirectory.Settled)
    (relative : (Path.ofString source).isAbsolute = false)
    (forth : ".." ∉ (Path.ofString source).names) (update : Bool)
    (time : Log.Style → Except Failure String) :
    let test : RunningTest :=
      ⟨call.workingDirectory, call.workingDirectory.child source, testId, update⟩
    ((∃ location located,
        call.locate config (.word source) (.word testId) none = .ok location ∧
        (call.run time).ending = .status .success ∧
        (call.run time).output = printed location.directory.toString ∧
        test.location call.workingDirectory config = .ok located ∧
        located.directory = call.workingDirectory.child location.directory.toString ∧
        located.sourcePath = location.sourcePath ∧ located.testName = location.testName) ∨
      ((∃ fault, call.locate config (.word source) (.word testId) none
          = .error (.location fault)) ∧
        (call.run time).ending = .status .failure ∧ (call.run time).output = "" ∧
        ∃ fault, test.location call.workingDirectory config = .error (.location fault))) ∧
    (∀ file ∈ [.ofString source, Path.absolute call.workingDirectory (.ofString source)],
      ∀ root, ∀ root' ∈ [root, Path.absolute call.workingDirectory root], ∀ way,
        Path.fromRoot call.workingDirectory file root' = .ok way ↔
          Path.fromRoot call.workingDirectory (.ofString source) root = .ok way) ∧
    (StartsPlain source → StartsPlain testId →
      Arguments.read ["locate", source, testId]
        = .ok ⟨false, false, some (.locate (.word source) (.word testId) none)⟩) := by
  intro test
  have same := Path.fromRoot_join settled relative forth sourceRoot
  refine ⟨?_, fun file isFile root root' isRoot =>
    Path.fromRoot_absolute settled.rooted forth root isFile isRoot, Arguments.read_locate⟩
  obtain ⟨verbose, json, words⟩ := locates.read
  rw [run_of_read words, RunningTest.location_eq test _ locates.sourceRoot_eq
    locates.snapshotRoot_eq, locate_eq locates]
  have ran : ((call.perform (.locate (.word source) (.word testId) none)).runIn
      { files := call.files, environment := call.environment }).1 = _ := perform_locate _ _ _ _
  rw [locates.loaded, Except.bind, locate_eq locates] at ran
  rcases Location.resolve_together same testId snapshotRoot (test.projectRoot.join snapshotRoot)
    with ⟨way, name, found, shown, running⟩ | ⟨⟨fault, missed⟩, fault', missed'⟩
  · left
    rw [shown] at ran ⊢
    obtain ⟨ending, output⟩ := outcome_of_ok ran (Arguments.sink ⟨verbose, json, _⟩) time
    refine ⟨_, _, rfl, ending, output, congrArg _ running, ?_, rfl, rfl⟩
    have written : ((snapshotRoot.join way).child name).Written :=
      ((Config.written_of_pathEntry locates.snapshotRoot_eq).join
        (Path.written_of_fromRoot settled.written (Path.written_ofString source) settled.forth forth
          found)).join (Path.written_ofString name)
    show ((call.workingDirectory.join snapshotRoot).join way).child name = _
    rw [Path.child, Path.child, Path.ofString_toString written, Path.child, Path.join_assoc,
      Path.join_assoc, Path.join_assoc]
  · right
    rw [missed] at ran ⊢
    obtain ⟨ending, output⟩ :=
      outcome_of_location_error ran (Arguments.sink ⟨verbose, json, _⟩) time
    exact ⟨⟨fault, rfl⟩, ending, output, fault', congrArg _ missed'⟩

end Runs

/-- The configuration where the environment sets nothing but the source root. -/
def sourceRootConfig (sourceRoot : String) : Config where
  path := none
  snapshots :=
    [ (.text "root", .text "snapshots"), (.text "source_root", .text sourceRoot),
      (.text "store_full", .bool false), (.text "update", .bool false) ]

/-- A source root that leads back to the working directory, and a test in a class. -/
theorem detour_to_source_root_located :
    let call : Call :=
      { words := ["locate", "tests/test_x.py", "tests/test_x.py::TestA::test_b"]
        environment := [("DBSNAP_SOURCE_ROOT", "../work/tests")]
        workingDirectory := ⟨.root, ["work"]⟩ }
    let test : RunningTest :=
      ⟨⟨.root, ["work"]⟩, ⟨.root, ["work", "tests", "test_x.py"]⟩,
        "tests/test_x.py::TestA::test_b", false⟩
    call.Locates "tests/test_x.py" "tests/test_x.py::TestA::test_b"
        (sourceRootConfig "../work/tests") ⟨.here, ["..", "work", "tests"]⟩
        ⟨.here, ["snapshots"]⟩ ∧
      ∃ located, test.location ⟨.root, ["work"]⟩ (sourceRootConfig "../work/tests") = .ok located ∧
        located.directory = ⟨.root, ["work", "snapshots", "test_x.py", "test_b"]⟩ ∧
        ∀ time, (call.run time).output = "snapshots/test_x.py/test_b\n" := by
  intro call test
  have locates : call.Locates "tests/test_x.py" "tests/test_x.py::TestA::test_b"
      (sourceRootConfig "../work/tests") ⟨.here, ["..", "work", "tests"]⟩
      ⟨.here, ["snapshots"]⟩ :=
    { read := ⟨false, false, rfl⟩
      loaded := by cbv
      sourceRoot_eq := by cbv
      snapshotRoot_eq := by cbv }
  have settled : call.workingDirectory.Settled :=
    { rooted := rfl
      folded_eq := rfl
      written := by
        rw [Path.Written, List.forall_mem_singleton]
        exact ⟨by decide, by decide⟩ }
  have found : call.locate (sourceRootConfig "../work/tests") (.word "tests/test_x.py")
      (.word "tests/test_x.py::TestA::test_b") none = .ok
        { directory := ⟨.here, ["snapshots", "test_x.py", "test_b"]⟩
          sourcePath := ⟨.here, ["test_x.py"]⟩, testName := "test_b" } := by
    rw [locate_eq locates]
    rfl
  have both := fun time => (prints_directory_of_running_test locates settled rfl (by decide) false
    time).1
  simp only [found, Except.ok.injEq, reduceCtorEq, exists_false, false_and, or_false] at both
  obtain ⟨_, located, rfl, -, -, running, directory, -⟩ := both fun _ => .ok ""
  refine ⟨locates, located, running, directory, fun time => ?_⟩
  obtain ⟨_, _, rfl, -, output, -⟩ := both time
  exact output

/-- Words that begin with a dash are options, and two dashes are no word at all, so the command
line does not look for a test that they name. -/
theorem dashed_words_not_located :
    let workingDirectory : Path := ⟨.root, ["work"]⟩
    let environment : Environment := [("DBSNAP_SOURCE_ROOT", ".")]
    (Config.load environment {} none).outcome.1 = .ok (sourceRootConfig ".") ∧
      ∀ test ∈ [("-x.py", "test_a"), ("x.py", "--")],
        (∃ located, RunningTest.location
            ⟨workingDirectory, workingDirectory.child test.1, test.2, false⟩ workingDirectory
            (sourceRootConfig ".") = .ok located) ∧
          ∀ time, (run { words := ["locate", test.1, test.2], environment, workingDirectory }
            time).ending = .usage .misused := by
  intro workingDirectory environment
  have sourceRoot_eq : (sourceRootConfig ".").sourceRoot = .ok ⟨.here, []⟩ := by cbv
  have snapshotRoot_eq : (sourceRootConfig ".").snapshotRoot = .ok ⟨.here, ["snapshots"]⟩ := by cbv
  refine ⟨by cbv, ?_⟩
  simp only [List.forall_mem_cons, List.not_mem_nil, false_implies, implies_true, and_true,
    RunningTest.location_eq _ _ sourceRoot_eq snapshotRoot_eq]
  exact ⟨⟨⟨_, rfl⟩, fun time => rfl⟩, ⟨_, rfl⟩, fun time => rfl⟩

end Call

end CommandLine

end IndexSnapshot
