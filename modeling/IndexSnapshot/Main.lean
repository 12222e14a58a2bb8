/-
# IndexSnapshot.Main -- the program

Gathers all that a call depends on, has it run, and puts out what it leaves behind.
-/
import IndexSnapshot.CommandLine.Run
import Std.Time.DateTime.Timestamp

open IndexSnapshot
open IndexSnapshot.CommandLine

/-- The variables that matter here, as far as they are set. -/
def readEnvironment : IO Environment := do
  let names := [Config.pathVariable, Config.fullVariable, Config.updateVariable,
    Config.snapshotRootVariable, Config.sourceRootVariable]
  let values ← names.mapM fun name => do return (name, ← IO.getEnv name)
  return values.filterMap fun (name, value) => value.map fun text => (name, text)

/-- A tree with what lies at a path. -/
def readInto (files : FileTree) (path : Path) : IO FileTree := do
  match ← (IO.FS.readBinFile path.toString).toBaseIO with
  | .ok content => return files.write path content.toList
  | .error (.inappropriateType ..) => return files.withDirectory path
  | .error _ => return files

/-- A tree with all that lies on the way of a text to its file. -/
def readWay (files : FileTree) (name : String) : IO FileTree :=
  let path := Path.ofString name
  ((List.range (path.names.length + 1)).map fun count =>
    { path with names := path.names.take count }).foldlM readInto files

/-- The text of the input. -/
def readInput : IO (Except Failure String) := do
  let content ← (← IO.getStdin).readBinToEnd
  return (Utf8.decode content.toList).mapError .notText

/-- The failure of a call that does not deal with it. -/
def reportFailure (failure : Failure) : IO UInt32 := do
  IO.eprintln (failure.kind.qualifiedName ++ ": " ++ failure.message)
  return 1

/-- Puts out what a call leaves behind. -/
def putOut (outcome : Outcome) : IO UInt32 := do
  IO.print outcome.output
  IO.eprint outcome.errors
  match outcome.ending with
  | .status status => return UInt32.ofNat status.code
  | .usage status => return UInt32.ofNat status.code
  | .failed failure => reportFailure failure

def main (words : List String) : IO UInt32 := do
  let environment ← readEnvironment
  let files ← (Call.wanted words environment).foldlM readWay {}
  let now ← Std.Time.Timestamp.now
  let moment : Log.Moment := ⟨now.toMillisecondsSinceUnixEpoch.val⟩
  let workingDirectory := Path.ofString (← IO.currentDir).toString
  let input ← if Call.readsInput words then readInput else pure (.ok "")
  match input with
  | .error failure => reportFailure failure
  | .ok input =>
      let call : Call := { words, input, files, environment, workingDirectory }
      putOut (call.run fun style => style.time moment)
