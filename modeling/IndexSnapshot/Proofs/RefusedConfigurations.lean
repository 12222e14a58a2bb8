/-
# IndexSnapshot.Proofs.RefusedConfigurations -- what becomes of a bad configuration file

A configuration is dealt with if it is refused by a failure of its own kind, or if it is loaded and
can be used: both roots are paths, and both switches are truth values.  Not every file is dealt
with.  Bytes that are no text, scalars without a value and switches that cannot be written end in
failures of other kinds, a root that is no text is noticed only when it is asked for, and a section
that counts as nothing is taken for an empty one, whatever it is.  On all other files the command
line ends with a status, and with that of a refused configuration exactly where it is refused.
All this is so with any reader of YAML, as long as it is lawful.

* `Config.Usable` and `Config.DealtWith`, and `Config.dealtWith_iff`: the files that are dealt with.
* `Call.locate_ends_with_status_iff`: what the command line does on each file.
* `Call.lists_let_through`: two files that are not refused.
-/
import IndexSnapshot.Proofs.ConfigurationPrecedence
import IndexSnapshot.Proofs.LocatingTests

namespace IndexSnapshot

set_option autoImplicit false

namespace Config

/-- A configuration whose roots are paths and whose switches are truth values. -/
structure Usable (config : Config) : Prop where
  snapshotRoot : ∃ path, config.snapshotRoot = .ok path
  sourceRoot : ∃ path, config.sourceRoot = .ok path
  storeFull : ∃ b, config.entry fullKey = .bool b
  update : ∃ b, config.entry updateKey = .bool b

/-- A configuration that is refused as one, or that can be used. -/
def DealtWith : Except Failure Config → Prop
  | .ok config => config.Usable
  | .error failure => ∃ fault, failure = .config fault

theorem exists_pathEntry_iff {config : Config} {key : String} :
    (∃ path, config.pathEntry key = .ok path) ↔ ∃ text, config.entry key = .text text := by
  unfold pathEntry
  cases config.entry key <;> simp

/-- A root that is no text is noticed when it is asked for. -/
theorem pathEntry_eq_error {config : Config} {key : String}
    (other : ∀ text, config.entry key ≠ .text text) :
    config.pathEntry key = .error (.notAPath (config.entry key).kindName) := by
  unfold pathEntry
  cases value : config.entry key with
  | text text => exact absurd value (other text)
  | _ => rfl

/-! ## Files -/

theorem sectionEntries_eq_error {root : List (Value × Value)} {failure : Failure}
    (stopped : sectionEntries root = .error failure) : failure = .config .sectionNotMapping := by
  unfold sectionEntries at stopped
  split at stopped
  · cases stopped
  · split at stopped
    · split at stopped <;> cases stopped
      rfl
    · cases stopped

section Files

variable [Yaml.Reader] {path : Path} {content : Bytes} {failure : Failure}

/-- What a reader has a value for, or finds malformed. -/
def Readable (content : Bytes) : Prop :=
  (∃ value, Yaml.Reader.read (.ofBytes content) = .ok value) ∨
    Yaml.Reader.read (.ofBytes content) = .error .malformed

theorem rootEntries_cases (stopped : rootEntries path (.ofBytes content) = .error failure) :
    (∃ fault, failure = .config fault) ∧ Readable content ∨
      ((∃ flaw, failure = .notText flaw) ∨ ∃ scalar, failure = .scalar scalar) ∧
        ¬ Readable content := by
  unfold rootEntries at stopped
  split at stopped <;> cases stopped
  · rename_i malformed
    exact .inl ⟨⟨_, rfl⟩, .inr malformed⟩
  · rename_i fault faulty
    exact .inr ⟨.inr ⟨fault, rfl⟩, by simp [Readable, faulty]⟩
  · rename_i flaw flawed
    exact .inr ⟨.inl ⟨flaw, rfl⟩, by simp [Readable, flawed]⟩
  · rename_i value read
    exact .inl ⟨⟨_, rfl⟩, .inl ⟨_, read⟩⟩

theorem readable_of_rootEntries {root : List (Value × Value)}
    (map : rootEntries path (.ofBytes content) = .ok root) : Readable content := by
  unfold rootEntries at map
  split at map <;> cases map <;> rename_i read
  · exact .inl ⟨_, read⟩
  · exact .inl ⟨_, read⟩

/-- A file that is not taken apart is refused, or cannot be read. -/
theorem contentEntries_cases (stopped : contentEntries path content = .error failure) :
    (∃ fault, failure = .config fault) ∧ Readable content ∨
      ((∃ flaw, failure = .notText flaw) ∨ ∃ scalar, failure = .scalar scalar) ∧
        ¬ Readable content := by
  unfold contentEntries at stopped
  cases map : rootEntries path (.ofBytes content) with
  | error failure' =>
      rw [map] at stopped
      cases stopped
      exact rootEntries_cases map
  | ok root =>
      rw [bind_of_ok map] at stopped
      exact .inl ⟨⟨_, sectionEntries_eq_error stopped⟩, readable_of_rootEntries map⟩

/-- It is refused exactly if it can be read. -/
theorem exists_config_iff_readable (stopped : contentEntries path content = .error failure) :
    (∃ fault, failure = .config fault) ↔ Readable content := by
  obtain ⟨refused, readable⟩ | ⟨⟨flaw, rfl⟩ | ⟨scalar, rfl⟩, unreadable⟩ :=
    contentEntries_cases stopped
  · exact iff_of_true refused readable
  · simp [unreadable]
  · simp [unreadable]

theorem readable_of_ok {fromFile : List (Value × Value)}
    (ok : contentEntries path content = .ok fromFile) : Readable content := by
  obtain ⟨root, isRoot, -⟩ := bind_eq_ok_iff.1 ok
  exact readable_of_rootEntries isRoot

/-- Bytes that are no text are not read to their end. -/
theorem contentEntries_ne_ok [Yaml.LawfulReader] {flaw : Utf8.Flaw}
    (flawed : Utf8.decode content = .error flaw) (fromFile : List (Value × Value)) :
    contentEntries path content ≠ .ok fromFile := by
  intro ok
  obtain ⟨flaw', cut⟩ := TextStream.exists_flaw_of_decode_error flawed
  have unread (value : Value) : Yaml.Reader.read (.ofBytes content) ≠ .ok value := fun read => by
    rw [Yaml.LawfulReader.whole read] at cut
    cases cut
  rcases readable_of_ok ok with ⟨value, read⟩ | malformed
  · exact unread value read
  · rw [contentEntries, rootEntries, malformed] at ok
    cases ok

/-- A reader that comes upon the flaw says so. -/
theorem contentEntries_of_flaw {flaw : Utf8.Flaw}
    (read : Yaml.Reader.read (.ofBytes content) = .error (.notText flaw)) :
    contentEntries path content = .error (.notText flaw) := by
  rw [contentEntries, rootEntries, read]
  rfl

end Files

/-! ## Configurations -/

/-- Entries of a file that lead to a configuration that is dealt with: if a switch says nothing
the first such switch can be written, and if both say something the roots are texts. -/
structure Tractable (environment : Environment) (fromFile : List (Value × Value)) : Prop where
  full : (¬ ∃ b, Switch.Says (Source.full.value environment fromFile) b) →
    (Source.full.value environment fromFile).isWritable = true
  update : (∃ b, Switch.Says (Source.full.value environment fromFile) b) →
    (¬ ∃ b, Switch.Says (Source.update.value environment fromFile) b) →
      (Source.update.value environment fromFile).isWritable = true
  roots : (∀ source ∈ [Source.full, Source.update],
      ∃ b, Switch.Says (source.value environment fromFile) b) →
    ∀ source ∈ [Source.root, Source.sourceRoot],
      ∃ text, source.value environment fromFile = .text text

theorem exists_config_iff_isWritable {name : String} {value : Value} :
    (∃ fault, Switch.refusal name value = .config fault) ↔ value.isWritable = true := by
  unfold Switch.refusal
  split <;> simp_all

/-- The switches have been read, so only the roots can be at fault. -/
theorem usable_iff {config : Config} {environment : Environment}
    {fromFile : List (Value × Value)} (follows : config.Follows environment fromFile) :
    config.Usable ↔ ∀ key ∈ [rootKey, sourceRootKey], ∃ text, config.entry key = .text text := by
  rw [List.forall_mem_cons, List.forall_mem_singleton, ← exists_pathEntry_iff,
    ← exists_pathEntry_iff]
  exact ⟨fun usable => ⟨usable.snapshotRoot, usable.sourceRoot⟩, fun ⟨root, sourceRoot⟩ =>
    ⟨root, sourceRoot, ⟨_, follows.storeFull_entry⟩, ⟨_, follows.update_entry⟩⟩⟩

theorem dealtWith_loaded_iff {path : Option Path} {environment : Environment}
    {fromFile : List (Value × Value)} (distinct : Value.DistinctNames fromFile) :
    DealtWith (loaded path environment fromFile) ↔ Tractable environment fromFile := by
  cases result : loaded path environment fromFile with
  | error failure =>
      rcases loaded_eq_error_iff.1 result with ⟨silent, rfl⟩ | ⟨full, silent, rfl⟩
      · refine exists_config_iff_isWritable.trans ⟨fun short => ?_, fun entries => entries.full silent⟩
        exact ⟨fun _ => short, fun full => absurd full silent,
          fun switches => absurd (switches Source.full (by simp)) silent⟩
      · refine exists_config_iff_isWritable.trans
          ⟨fun short => ?_, fun entries => entries.update full silent⟩
        exact ⟨absurd full, fun _ _ => short,
          fun switches => absurd (switches Source.update (by simp)) silent⟩
  | ok config =>
      have follows := follows_of_loaded distinct result
      have full : ∃ b, Switch.Says (Source.full.value environment fromFile) b :=
        ⟨_, follows.storeFull⟩
      have update : ∃ b, Switch.Says (Source.update.value environment fromFile) b :=
        ⟨_, follows.update⟩
      have roots : config.Usable ↔ ∀ source ∈ [Source.root, Source.sourceRoot],
          ∃ text, source.value environment fromFile = .text text := by
        rw [usable_iff follows, List.forall_mem_cons, List.forall_mem_singleton,
          List.forall_mem_cons, List.forall_mem_singleton, follows.root, follows.sourceRoot]
      refine roots.trans ⟨fun roots => ⟨absurd full, fun _ => absurd update, fun _ => roots⟩,
        fun entries => entries.roots ?_⟩
      rw [List.forall_mem_cons, List.forall_mem_singleton]
      exact ⟨full, update⟩

section Load

variable [Yaml.Reader] [Yaml.LawfulReader] {environment : Environment} {files : FileTree}
  {path : Path} {content : Bytes}

/-- What is loaded from a file that is there. -/
theorem outcome_of_readFile (named : choosePath environment none = some path)
    (read : files.readFile path = .ok content) :
    (load environment files none).outcome.1
      = contentEntries path content >>= loaded (some path) environment := by
  rw [(load_gives environment files none).outcome_eq, chosenEntries, named]
  dsimp only
  rw [fileEntries_of_readFile read]

theorem exists_follows {path : Option String} {config : Config}
    (ok : (load environment files path).outcome.1 = .ok config) :
    ∃ fromFile, config.Follows environment fromFile := by
  rw [(load_gives environment files path).outcome_eq] at ok
  obtain ⟨fromFile, read, ok⟩ := bind_eq_ok_iff.1 ok
  exact ⟨fromFile, follows_of_loaded (distinctNames_chosenEntries read) ok⟩

/-- **The files that are dealt with**: those that can be read, if what their section says is. -/
theorem dealtWith_iff (named : choosePath environment none = some path)
    (read : files.readFile path = .ok content) :
    DealtWith (load environment files none).outcome.1 ↔
      Readable content ∧ ∀ fromFile, contentEntries path content = .ok fromFile →
        Tractable environment fromFile := by
  have chosen : chosenEntries environment files none = contentEntries path content := by
    rw [chosenEntries, named]
    exact fileEntries_of_readFile read
  rw [outcome_of_readFile named read]
  cases entries : contentEntries path content with
  | error failure =>
      have refused := exists_config_iff_readable entries
      constructor
      · exact fun dealtWith => ⟨refused.1 dealtWith, fun _ impossible => by cases impossible⟩
      · exact fun ⟨readable, _⟩ => refused.2 readable
  | ok fromFile =>
      have distinct := distinctNames_chosenEntries (chosen.trans entries)
      rw [bind_of_ok rfl]
      simp only [readable_of_ok entries, true_and, Except.ok.injEq, forall_eq']
      exact dealtWith_loaded_iff distinct

/-- A configuration fails as one, or because its file cannot be read, or a switch not written. -/
theorem failure_cases (named : choosePath environment none = some path)
    (read : files.readFile path = .ok content) {failure : Failure}
    (failed : (load environment files none).outcome.1 = .error failure) :
    (∃ fault, failure = .config fault) ∨ (∃ flaw, failure = .notText flaw) ∨
      (∃ scalar, failure = .scalar scalar) ∨ failure = .tooManyDigits := by
  have refusal_cases (name : String) (value : Value) :
      (∃ fault, Switch.refusal name value = .config fault) ∨
        Switch.refusal name value = .tooManyDigits := by
    unfold Switch.refusal
    split
    · exact .inl ⟨_, rfl⟩
    · exact .inr rfl
  rw [outcome_of_readFile named read] at failed
  cases entries : contentEntries path content with
  | error stopped =>
      rw [entries] at failed
      cases failed
      exact (contentEntries_cases entries).imp And.left fun unread => unread.1.imp_right .inl
  | ok fromFile =>
      rw [entries, bind_of_ok rfl] at failed
      rcases loaded_eq_error_iff.1 failed with ⟨-, rfl⟩ | ⟨-, -, rfl⟩
      · exact (refusal_cases _ _).imp_right fun long => .inr (.inr long)
      · exact (refusal_cases _ _).imp_right fun long => .inr (.inr long)

/-- A section that is no map is refused if it counts as something, and none if it does not. -/
theorem outcome_of_section (named : choosePath environment none = some path)
    (read : files.readFile path = .ok content) {root : List (Value × Value)} {value : Value}
    (document : Yaml.Reader.read (.ofBytes content) = .ok (.map root))
    (found : Value.lookup? sectionName root = some value)
    (other : ∀ entries, value ≠ .map entries) :
    (load environment files none).outcome.1
      = if value.isTruthy then .error (.config .sectionNotMapping)
        else loaded (some path) environment [] := by
  have inside : sectionEntries root
      = if value.isTruthy then .error (.config .sectionNotMapping) else .ok [] := by
    unfold sectionEntries
    rw [found]
    dsimp only
    cases value with
    | map entries => exact absurd rfl (other entries)
    | _ => rfl
  rw [outcome_of_readFile named read, contentEntries_of_map document, inside]
  split <;> rfl

end Load

end Config

namespace CommandLine

/-- How a call ends with a result. -/
def Ending.ofResult (command : Command) : Except Failure String → Ending
  | .ok _ => .status .success
  | .error failure =>
      match statusOf? command failure with
      | some (reported, _) => .status reported
      | none => .failed failure

namespace Call

variable {call : Call} {command : Command} {source testId : String} {caseName : Option String}
  {config : Config}

/-- Under a configuration that can be used, a test has a location or none. -/
theorem locate_of_usable (usable : config.Usable) :
    (∃ location, call.locate config (.word source) (.word testId) (caseName.map .word)
        = .ok location) ∨
      ∃ fault, call.locate config (.word source) (.word testId) (caseName.map .word)
        = .error (.location fault) := by
  obtain ⟨sourceRoot, isSourceRoot⟩ := usable.sourceRoot
  obtain ⟨snapshotRoot, isSnapshotRoot⟩ := usable.snapshotRoot
  unfold locate
  rw [isSourceRoot, bind_of_ok rfl, isSnapshotRoot, bind_of_ok rfl]
  dsimp only
  cases Location.resolve call.workingDirectory (.ofString source) testId none sourceRoot
    snapshotRoot with
  | error fault => exact .inr ⟨fault, rfl⟩
  | ok location =>
      cases caseName with
      | none => exact .inl ⟨location, rfl⟩
      | some name =>
          cases labelled : location.forCase (some name) with
          | error fault =>
              refine .inr ⟨fault, ?_⟩
              exact congrArg (Except.mapError Failure.location) labelled
          | ok location =>
              refine .inl ⟨location, ?_⟩
              exact congrArg (Except.mapError Failure.location) labelled

/-- A root that is no text is noticed. -/
theorem locate_of_root {key : String} (member : key ∈ [Config.rootKey, Config.sourceRootKey])
    (other : ∀ text, config.entry key ≠ .text text) :
    ∃ kind, call.locate config (.word source) (.word testId) (caseName.map .word)
      = .error (.notAPath kind) := by
  have refused := Config.pathEntry_eq_error other
  unfold locate Config.sourceRoot Config.snapshotRoot
  rw [List.mem_cons, List.mem_singleton] at member
  rcases member with rfl | rfl
  · by_cases sourceRoot : ∃ path, config.pathEntry Config.sourceRootKey = .ok path
    · obtain ⟨path, isPath⟩ := sourceRoot
      rw [isPath, bind_of_ok rfl, refused]
      exact ⟨_, rfl⟩
    · rw [Config.exists_pathEntry_iff, not_exists] at sourceRoot
      rw [Config.pathEntry_eq_error sourceRoot]
      exact ⟨_, rfl⟩
  · rw [refused]
    exact ⟨_, rfl⟩

/-! ## Endings -/

/-- A scalar without a value is no failure of this library. -/
theorem ofResult_scalar (scalar : Yaml.ScalarFault) :
    Ending.ofResult command (.error (.scalar scalar)) = .failed (.scalar scalar) := by
  have kind : (Failure.scalar scalar).kind = .value ∨ (Failure.scalar scalar).kind = .overflow := by
    show scalar.kind = .value ∨ scalar.kind = .overflow
    unfold Yaml.ScalarFault.kind
    split
    · split <;> simp
    all_goals simp
  have unknown : statusOf? command (.scalar scalar) = none := by
    unfold statusOf?
    rcases kind with value | overflow
    · rw [value]
      rfl
    · rw [overflow]
      rfl
  rw [Ending.ofResult, unknown]

section Runs

variable [Yaml.Reader]

theorem ending_of_read {verbose json : Bool}
    (words : Arguments.read call.words = .ok ⟨verbose, json, some command⟩)
    (time : Log.Style → Except Failure String) :
    (call.run time).ending = Ending.ofResult command ((call.perform command).runIn
      { files := call.files, environment := call.environment }).1 := by
  rw [run_of_read words time]
  unfold outcome
  dsimp only
  cases ((call.perform command).runIn
    { files := call.files, environment := call.environment }).1 with
  | ok output => rfl
  | error failure =>
      dsimp only [Ending.ofResult]
      cases statusOf? command failure <;> rfl

/-- The configuration of a call, or why there is none. -/
def configuration (call : Call) : Except Failure Config :=
  (Config.load call.environment call.files none).outcome.1

theorem ending_of_locate {verbose json : Bool}
    (words : Arguments.read call.words = .ok ⟨verbose, json,
      some (.locate (.word source) (.word testId) (caseName.map .word))⟩)
    (time : Log.Style → Except Failure String) :
    (call.run time).ending
      = Ending.ofResult (.locate (.word source) (.word testId) (caseName.map .word))
          (call.configuration.bind fun config =>
            (call.locate config (.word source) (.word testId) (caseName.map .word)).map
              fun location => printed location.directory.toString) := by
  rw [ending_of_read words time, perform_locate, configuration]

variable [Yaml.LawfulReader]

/-- How a call ends that locates a test: as its configuration says, if that is not dealt with or
refused, and with a location or without one otherwise. -/
theorem locate_endings {verbose json : Bool} {path : Path} {content : Bytes}
    (words : Arguments.read call.words = .ok ⟨verbose, json,
      some (.locate (.word source) (.word testId) (caseName.map .word))⟩)
    (named : Config.choosePath call.environment none = some path)
    (read : call.files.readFile path = .ok content) (time : Log.Style → Except Failure String) :
    (∃ fault, call.configuration = .error (.config fault) ∧
      (call.run time).ending = .status .misconfigured) ∨
    (∃ failure, call.configuration = .error failure ∧ (∀ fault, failure ≠ .config fault) ∧
      (call.run time).ending = .failed failure) ∨
    (∃ config, call.configuration = .ok config ∧ config.Usable ∧
      ((call.run time).ending = .status .success ∨ (call.run time).ending = .status .failure)) ∨
    ∃ config kind, call.configuration = .ok config ∧ ¬ config.Usable ∧
      (call.run time).ending = .failed (.notAPath kind) := by
  rw [ending_of_locate words]
  cases result : call.configuration with
  | error failure =>
      rcases Config.failure_cases named read result with
        ⟨fault, rfl⟩ | ⟨flaw, rfl⟩ | ⟨scalar, rfl⟩ | rfl
      · exact .inl ⟨fault, rfl, rfl⟩
      · exact .inr (.inl ⟨_, rfl, by simp, rfl⟩)
      · exact .inr (.inl ⟨_, rfl, by simp, ofResult_scalar scalar⟩)
      · exact .inr (.inl ⟨_, rfl, by simp, rfl⟩)
  | ok config =>
      right; right
      rw [Except.bind]
      by_cases usable : config.Usable
      · refine .inl ⟨config, rfl, usable, ?_⟩
        rcases locate_of_usable usable with ⟨location, found⟩ | ⟨fault, missed⟩
        · rw [found]
          exact .inl rfl
        · rw [missed]
          exact .inr rfl
      · obtain ⟨fromFile, follows⟩ := Config.exists_follows result
        have root := mt (Config.usable_iff follows).2 usable
        simp only [not_forall, not_exists] at root
        obtain ⟨key, member, other⟩ := root
        obtain ⟨kind, refused⟩ := locate_of_root member other
        refine .inr ⟨config, kind, rfl, usable, ?_⟩
        rw [refused]
        rfl

/-- **A call that locates a test ends with a status exactly if its configuration is dealt with**,
and with that of a refused configuration exactly if it is refused.  That is so if the file can be
read and its entries are tractable.  Bytes that are no text give no configuration, and where the
reader comes upon them the call ends with that failure. -/
theorem locate_ends_with_status_iff {verbose json : Bool} {path : Path} {content : Bytes}
    (words : Arguments.read call.words = .ok ⟨verbose, json,
      some (.locate (.word source) (.word testId) (caseName.map .word))⟩)
    (named : Config.choosePath call.environment none = some path)
    (read : call.files.readFile path = .ok content) (time : Log.Style → Except Failure String) :
    ((∃ reported, (call.run time).ending = .status reported) ↔
      Config.DealtWith call.configuration) ∧
    ((call.run time).ending = .status .misconfigured ↔
      ∃ fault, call.configuration = .error (.config fault)) ∧
    (Config.DealtWith call.configuration ↔ Config.Readable content ∧
      ∀ fromFile, Config.contentEntries path content = .ok fromFile →
        Config.Tractable call.environment fromFile) ∧
    (∀ flaw, Utf8.decode content = .error flaw →
      (∀ config, call.configuration ≠ .ok config) ∧
      ∀ flaw', Yaml.Reader.read (.ofBytes content) = .error (.notText flaw') →
        call.configuration = .error (.notText flaw') ∧
          (call.run time).ending = .failed (.notText flaw')) ∧
    (∀ root value, Yaml.Reader.read (.ofBytes content) = .ok (.map root) →
      Value.lookup? Config.sectionName root = some value → (∀ entries, value ≠ .map entries) →
        call.configuration = if value.isTruthy then .error (.config .sectionNotMapping)
          else Config.loaded (some path) call.environment []) ∧
    ∀ config, call.configuration = .ok config →
      ∀ key ∈ [Config.rootKey, Config.sourceRootKey], (∀ text, config.entry key ≠ .text text) →
        config.pathEntry key = .error (.notAPath (config.entry key).kindName) ∧
        ∃ kind, (call.run time).ending = .failed (.notAPath kind) := by
  have endings := locate_endings words named read time
  refine ⟨?_, ?_, Config.dealtWith_iff named read, fun flaw flawed => ⟨?_, fun flaw' cut => ?_⟩,
    fun root value document found other =>
      Config.outcome_of_section named read document found other,
    fun config ok key member other => ⟨Config.pathEntry_eq_error other, ?_⟩⟩
  · obtain ⟨fault, result, ending⟩ | ⟨failure, result, other, ending⟩ |
      ⟨config, result, usable, ending⟩ | ⟨config, kind, result, unusable, ending⟩ := endings
    all_goals rw [result]
    · exact iff_of_true ⟨_, ending⟩ ⟨fault, rfl⟩
    · exact iff_of_false (by simp [ending]) fun ⟨fault, same⟩ => other fault same
    · exact iff_of_true (ending.elim (⟨_, ·⟩) (⟨_, ·⟩)) usable
    · exact iff_of_false (by simp [ending]) unusable
  · obtain ⟨fault, result, ending⟩ | ⟨failure, result, other, ending⟩ |
      ⟨config, result, usable, ending⟩ | ⟨config, kind, result, unusable, ending⟩ := endings
    all_goals rw [result]
    · exact iff_of_true ending ⟨fault, rfl⟩
    · exact iff_of_false (by simp [ending]) fun ⟨fault, same⟩ => other fault (Except.error.inj same)
    · exact iff_of_false (by rcases ending with ending | ending <;> simp [ending]) (by simp)
    · exact iff_of_false (by simp [ending]) (by simp)
  · intro config
    rw [configuration, Config.outcome_of_readFile named read, Ne, bind_eq_ok_iff]
    rintro ⟨fromFile, entries, -⟩
    exact Config.contentEntries_ne_ok flawed fromFile entries
  · have stopped : call.configuration = .error (.notText flaw') := by
      rw [configuration, Config.outcome_of_readFile named read, Config.contentEntries_of_flaw cut]
      rfl
    refine ⟨stopped, ?_⟩
    rw [ending_of_locate words, stopped]
    rfl
  · obtain ⟨kind, refused⟩ : ∃ kind,
        call.locate config (.word source) (.word testId) (caseName.map .word)
          = .error (.notAPath kind) := locate_of_root member other
    refine ⟨kind, ?_⟩
    rw [ending_of_locate words, ok, Except.bind, refused]
    rfl

end Runs

/-- A call that locates a test, with a configuration file. -/
def withFile (content : Bytes) : Call where
  words := ["locate", "tests/test_x.py", "test_x.py::test_a"]
  environment := [("DBSNAP_CONFIG", "c.yaml")]
  files := .ofList [(.ofString "c.yaml", content)]

theorem withFile_words (content : Bytes) : Arguments.read (withFile content).words
    = .ok ⟨false, false, some (.locate (.word "tests/test_x.py") (.word "test_x.py::test_a")
        ((none : Option String).map .word))⟩ :=
  Arguments.read_locate (by decide) (by decide)

theorem withFile_path (content : Bytes) :
    Config.choosePath (withFile content).environment none = some (.ofString "c.yaml") :=
  rfl

theorem withFile_content (content : Bytes) :
    (withFile content).files.readFile (.ofString "c.yaml") = .ok content :=
  rfl

/-- Bytes that are no text are not refused. -/
theorem no_text_not_dealt_with : (∃ flaw, Utf8.decode [0xFF] = .error flaw) ∧
    ¬ Config.DealtWith (withFile [0xFF]).configuration ∧
    ∀ time, ∃ flaw, ((withFile [0xFF]).run time).ending = .failed (.notText flaw) := by
  have flawed : ∃ flaw, Utf8.decode [0xFF] = .error flaw := ⟨_, rfl⟩
  have all := locate_ends_with_status_iff (withFile_words [0xFF]) (withFile_path _)
    (withFile_content _)
  obtain ⟨flaw, decoded⟩ := flawed
  refine ⟨⟨flaw, decoded⟩, ?_, fun time => ?_⟩
  · obtain ⟨_, -, dealtWith, -⟩ := all fun _ => .ok ""
    rw [dealtWith]
    rintro ⟨⟨value, read⟩ | malformed, -⟩
    · cases read
    · cases malformed
  · obtain ⟨-, -, -, unreadable, -⟩ := all time
    exact ⟨_, ((unreadable flaw decoded).2 _ rfl).2⟩

/-- A file whose section is an empty list. -/
def emptySection : String :=
  "\x7b\"snapshots\": []\x7d"

/-- A file whose root is an empty list. -/
def emptyRoot : String :=
  "\x7b\"snapshots\": \x7b\"root\": []\x7d\x7d"

theorem read_emptySection : Yaml.Document.read emptySection
    = .ok (.map [(.text "snapshots", .list [])]) := by
  have tokens : Yaml.Token.ofText (String.ofList (Text.universal emptySection.toList))
      = [.flowMapStart, .key, .scalar "snapshots" false, .value, .flowListStart, .flowListEnd,
          .flowMapEnd] := by
    decide +kernel
  rw [Yaml.Document.read, tokens]
  cbv

theorem read_emptyRoot : Yaml.Document.read emptyRoot
    = .ok (.map [(.text "snapshots", .map [(.text "root", .list [])])]) := by
  have tokens : Yaml.Token.ofText (String.ofList (Text.universal emptyRoot.toList))
      = [.flowMapStart, .key, .scalar "snapshots" false, .value, .flowMapStart, .key,
          .scalar "root" false, .value, .flowListStart, .flowListEnd, .flowMapEnd,
          .flowMapEnd] := by
    decide +kernel
  rw [Yaml.Document.read, tokens]
  cbv

theorem configuration_withFile {text : String} {root fromFile : List (Value × Value)}
    (document : Yaml.Document.read text = .ok (.map root))
    (inside : Config.sectionEntries root = .ok fromFile) :
    (withFile (Utf8.encode text)).configuration
      = Config.loaded (some (.ofString "c.yaml")) [("DBSNAP_CONFIG", "c.yaml")] fromFile := by
  rw [configuration, Config.outcome_of_readFile (withFile_path _) (withFile_content _),
    Config.contentEntries_of_map ((Yaml.documentReader_encode text).trans document),
    bind_of_ok inside]
  rfl

/-- **A list is taken for a section, and for a root**: the first call finds its test, and the
second one ends with a failure that is not one of a configuration. -/
theorem lists_let_through :
    (∃ config, (withFile (Utf8.encode emptySection)).configuration = .ok config ∧
      ∀ time, ((withFile (Utf8.encode emptySection)).run time).ending = .status .success) ∧
    ∃ config, (withFile (Utf8.encode emptyRoot)).configuration = .ok config ∧
      config.snapshotRoot = .error (.notAPath "list") ∧
      ∀ time, ((withFile (Utf8.encode emptyRoot)).run time).ending
        = .failed (.notAPath "list") := by
  let config (root : Value) : Config :=
    ⟨some (.ofString "c.yaml"),
      [ (.text "root", root), (.text "source_root", .text "tests"),
        (.text "store_full", .bool false), (.text "update", .bool false) ]⟩
  have first : (withFile (Utf8.encode emptySection)).configuration
      = .ok (config (.text "snapshots")) :=
    (configuration_withFile read_emptySection (by cbv)).trans (by cbv)
  have second : (withFile (Utf8.encode emptyRoot)).configuration = .ok (config (.list [])) :=
    (configuration_withFile read_emptyRoot (by cbv)).trans (by cbv)
  have found (content : Bytes) : ∃ location, (withFile content).locate (config (.text "snapshots"))
      (.word "tests/test_x.py") (.word "test_x.py::test_a") none = .ok location :=
    ⟨_, by cbv⟩
  have refused (content : Bytes) : (withFile content).locate (config (.list []))
      (.word "tests/test_x.py") (.word "test_x.py::test_a") none = .error (.notAPath "list") := by
    cbv
  refine ⟨⟨_, first, fun time => ?_⟩, _, second, by cbv, fun time => ?_⟩
  · obtain ⟨location, found⟩ := found (Utf8.encode emptySection)
    rw [ending_of_locate (withFile_words _), first, Except.bind, Option.map_none, found]
    rfl
  · rw [ending_of_locate (withFile_words _), second, Except.bind, Option.map_none, refused]
    rfl

end Call

end CommandLine

end IndexSnapshot
