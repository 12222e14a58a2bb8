/-
# IndexSnapshot.CommandLine.Arguments -- what can be asked for

There are three commands: a text can be reduced to its records, the fixtures of a test
can be located, and the names that can be snapshotted can be listed.

* `Arguments.read` is what the words of a call ask for.
-/
import IndexSnapshot.CommandLine.Grammar

namespace IndexSnapshot.CommandLine

set_option autoImplicit false

/-- What is asked for. -/
inductive Command where
  /-- Reduce a text, from a file or from the input. -/
  | reduce (name : Given) (inlined full : Bool) (file : Option String)
  | locate (source testId : Given) (caseName : Option Given)
  | tables
  deriving DecidableEq, Repr

/-- A call: what is asked for, and how entries are logged. -/
structure Arguments where
  isVerbose : Bool
  logsJson : Bool
  command : Option Command
  deriving DecidableEq, Repr

/-- Why a call is not understood, and by which grammar. -/
structure UsageStop where
  grammar : Grammar
  stop : Stop
  deriving DecidableEq, Repr

/-! ## Grammars -/

def helpFlag : Flag := { names := ["-h", "--help"] }

def commandNames : List String := ["reduce", "locate", "tables"]

def mainGrammar : Grammar where
  program := "dbsnap"
  usage := "[-h] [-v] [--json-logs] \x7breduce,locate,tables\x7d ..."
  flags := [helpFlag, { names := ["-v", "--verbose"] }, { names := ["--json-logs"] }]
  arguments := [⟨"command", .all⟩]

def reduceGrammar : Grammar where
  program := "dbsnap reduce"
  usage := "[-h] --name NAME [--inline] [--full] [file]"
  flags :=
    [ helpFlag, { names := ["--name"], takesValue := true, isRequired := true },
      { names := ["--inline"] }, { names := ["--full"] } ]
  arguments := [⟨"file", .optional⟩]

def locateGrammar : Grammar where
  program := "dbsnap locate"
  usage := "[-h] [--case CASE] source test_id"
  flags := [helpFlag, { names := ["--case"], takesValue := true }]
  arguments := [⟨"source", .one⟩, ⟨"test_id", .one⟩]

def tablesGrammar : Grammar where
  program := "dbsnap tables"
  usage := "[-h]"
  flags := [helpFlag]
  arguments := []

/-! ## Calls -/

/-- The command of what was read by its grammar. -/
def reduceOf (r : Reading) : Command :=
  .reduce ((r.value? "--name").getD .nothing) (r.has "--inline") (r.has "--full")
    (match r.argument "file" with
      | .word file => some file
      | .nothing => none)

def locateOf (r : Reading) : Command :=
  .locate (r.argument "source") (r.argument "test_id") (r.value? "--case")

/-- The grammar of a command, and the command of what is read by it. -/
def grammarOf? (name : String) : Option (Grammar × (Reading → Command)) :=
  if name = "reduce" then some (reduceGrammar, reduceOf)
  else if name = "locate" then some (locateGrammar, locateOf)
  else if name = "tables" then some (tablesGrammar, fun _ => .tables)
  else none

/-- The command that words ask for, and the words that are left over. -/
def readCommand (words : List String) : Except UsageStop (Option Command × List String) :=
  match words with
  | [] => .ok (none, [])
  | name :: rest =>
      match grammarOf? name with
      | none => .error ⟨mainGrammar, .fault (.invalidChoice "command" name commandNames)⟩
      | some (grammar, ofReading) =>
          match grammar.read rest with
          | .error stop => .error ⟨grammar, stop⟩
          | .ok r => .ok (some (ofReading r), r.extras)

namespace Arguments

/-- What the words of a call ask for. -/
def read (words : List String) : Except UsageStop Arguments := do
  let r ← (mainGrammar.read words).mapError (⟨mainGrammar, ·⟩)
  let (command, extras) ← readCommand (r.words "command")
  match r.extras ++ extras with
  | [] => return ⟨r.has "--verbose", r.has "--json-logs", command⟩
  | extras => throw ⟨mainGrammar, .fault (.unrecognized extras)⟩

end Arguments

end IndexSnapshot.CommandLine
