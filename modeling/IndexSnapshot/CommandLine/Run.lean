/-
# IndexSnapshot.CommandLine.Run -- what a call does

A call reads its words, its input, files and the environment; it writes to two outputs
and ends with a status.  Failures of this library are logged and become a status; any
other failure is not dealt with here.

* `Call.run` is all that a call does.
* `Call.wanted` names the files that it may read.
-/
import IndexSnapshot.CommandLine.Arguments
import IndexSnapshot.Log.Sink
import IndexSnapshot.Session.Assertion

namespace IndexSnapshot.CommandLine

set_option autoImplicit false

/-- All that a call depends on. -/
structure Call where
  words : List String
  /-- The text of the input. -/
  input : String := ""
  files : FileTree := {}
  environment : Environment := []
  workingDirectory : Path := ⟨.root, []⟩

/-- What a call says of its success. -/
inductive Status where
  | success
  | failure
  /-- The configuration is refused. -/
  | misconfigured
  /-- The words of the call are not understood. -/
  | misused
  deriving DecidableEq, Repr

/-- The number of a status. -/
def Status.code : Status → Nat
  | .success => 0
  | .failure => 1
  | .misconfigured => 2
  | .misused => 2

/-- How a call ends. -/
inductive Ending where
  | status (status : Status)
  /-- The words were not understood, or help was asked for. -/
  | usage (status : Status)
  | failed (failure : Failure)

/-- What a call leaves behind. -/
structure Outcome where
  ending : Ending
  output : String := ""
  errors : String := ""

/-! ## Commands -/

/-- A text on a line of its own. -/
def printed (text : String) : String :=
  text ++ "\n"

/-- The value for which something given stands; where nothing is given, an empty list. -/
def Given.value : Given → Value
  | .word text => .text text
  | .nothing => .list []

/-- The kind of value that is there where nothing is given. -/
def Given.emptyKind : String :=
  (Value.list []).kindName

/-- The text of a file, which is shown as it was given. -/
def Call.fileText (call : Call) (name : String) : Except Failure String :=
  match call.files.readNamed name with
  | .error fault => .error (.file fault name)
  | .ok content => (Utf8.decode content).mapError .notText

/-- The text that is reduced: that of a file as it is, or that of the input with its lines
ended in one way. -/
def Call.text (call : Call) (file : Option String) : Except Failure String :=
  match file.filter (· != "") with
  | some name => call.fileText name
  | none => .ok (String.ofList (Text.universal call.input.toList))

/-- Each record under a line with its name. -/
def recordsText (records : List Record) : String :=
  String.join (records.map fun record => printed ("--- " ++ record.name) ++ printed record.content)

/-- The location of a test.  What is not given is missed only where it is used. -/
def Call.locate (call : Call) (config : Config) (source testId : Given)
    (caseName : Option Given) : Except Failure Location := do
  let sourceRoot ← config.sourceRoot
  let snapshotRoot ← config.snapshotRoot
  match source, testId with
  | .nothing, _ => throw (.notAPath Given.emptyKind)
  | .word source, .nothing =>
      let _ ← (Path.fromRoot call.workingDirectory (.ofString source) sourceRoot).mapError
        .location
      throw (.notSplit Given.emptyKind)
  | .word source, .word testId =>
      let location ← (Location.resolve call.workingDirectory (.ofString source) testId none
        sourceRoot snapshotRoot).mapError .location
      match caseName with
      | none => return location
      | some .nothing => throw (.notAName Given.emptyKind)
      | some (.word name) => (location.forCase (some name)).mapError .location

/-- What a command prints. -/
def Call.perform [Yaml.Reader] (call : Call) : Command → Action String
  | .reduce name inlined full file => do
      let text ← Action.ofResult (call.text file)
      let records ← Action.reduceAs name.value name.value.plain text inlined
        (if full then some true else none)
      return recordsText records
  | .locate source testId caseName => do
      let config ← Action.ofLogged (Config.load call.environment call.files none)
      let location ← Action.ofResult (call.locate config source testId caseName)
      return printed location.directory.toString
  | .tables => return String.join (SnapshotName.catalogue.map fun name => printed name.text)

/-- The name of a command. -/
def Command.name : Command → String
  | .reduce _ _ _ _ => "reduce"
  | .locate _ _ _ => "locate"
  | .tables => "tables"

/-! ## Endings -/

/-- Logged by the command line itself. -/
def errorEntry (message : String) : Log.Entry :=
  ⟨"dbsnap.cli", Log.error, message, {}⟩

/-- The status of a failure and what is logged of it, if it is one of this library. -/
def statusOf? (command : Command) (f : Failure) : Option (Status × Log.Entry) :=
  if f.kind.isKindOf .config then
    some (.misconfigured, errorEntry ("Configuration error: " ++ f.message))
  else if f.kind.isKindOf .base then
    some (.failure, errorEntry (command.name ++ " failed: " ++ f.message))
  else none

/-- What a command leaves behind; `time` is the time of all entries. -/
def Call.outcome [Yaml.Reader] (call : Call) (sink : Log.Sink)
    (time : Log.Style → Except Failure String) (command : Command) : Outcome :=
  let session : Session := { files := call.files, environment := call.environment }
  let (result, session) := (call.perform command).runIn session
  let errors (entries : List Log.Entry) : String :=
    match sink.writtenAll time (session.journal ++ entries) with
    | .ok text => text
    | .error _ => ""
  match result with
  | .ok output => ⟨.status .success, output, errors []⟩
  | .error f =>
      match statusOf? command f with
      | some (status, entry) => ⟨.status status, "", errors [entry]⟩
      | none => ⟨.failed f, "", errors []⟩

/-- The line that shows how a command is called. -/
def Grammar.usageLine (g : Grammar) : String :=
  printed ("usage: " ++ g.program ++ " " ++ g.usage)

/-- What is left behind where words are not read to their end. -/
def UsageStop.outcome (stop : UsageStop) : Outcome :=
  match stop.stop with
  | .help => ⟨.usage .success, stop.grammar.usageLine, ""⟩
  | .fault fault =>
      ⟨.usage .misused, "",
        stop.grammar.usageLine ++ printed (stop.grammar.program ++ ": error: " ++ fault.message)⟩

/-- The log of a call. -/
def Arguments.sink (arguments : Arguments) : Log.Sink :=
  let level := if arguments.isVerbose then Log.debug else Log.info
  Log.Sink.configure {} level { style := if arguments.logsJson then .structured else .human }

/-- Said where no command is given. -/
def noCommand : String :=
  "No command specified. Use --help for usage."

namespace Call

/-- All that a call does. -/
def run [Yaml.Reader] (call : Call) (time : Log.Style → Except Failure String) : Outcome :=
  match Arguments.read call.words with
  | .error stop => stop.outcome
  | .ok arguments =>
      match arguments.command with
      | none => ⟨.status .failure, "", printed noCommand⟩
      | some command => call.outcome arguments.sink time command

/-- The files that a call may read. -/
def wanted (words : List String) (environment : Environment) : List String :=
  let config := (environment.nonEmpty? Config.pathVariable).toList
  match Arguments.read words with
  | .ok ⟨_, _, some (.reduce _ _ _ file)⟩ => config ++ (file.filter (· != "")).toList
  | _ => config

/-- Whether a call reads its input. -/
def readsInput (words : List String) : Bool :=
  match Arguments.read words with
  | .ok ⟨_, _, some (.reduce _ _ _ file)⟩ => (file.filter (· != "")).isNone
  | _ => false

end Call

end IndexSnapshot.CommandLine
