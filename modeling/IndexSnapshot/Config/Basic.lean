/-
# IndexSnapshot.Config.Basic -- the configuration

The configuration says where fixtures and test sources live, whether full texts are kept
beside hashes, and whether fixtures are updated.  It comes from three places: the
environment goes before the file, and the file before the defaults.  A root that is
empty in the environment counts as not set; a switch does not.

* `Config.load` reads it with whatever reader of YAML there is; the two switches are checked at
  once, the roots when they are asked for.
-/
import IndexSnapshot.Config.Switch
import IndexSnapshot.Files.Tree
import IndexSnapshot.Yaml.Reader

namespace IndexSnapshot

set_option autoImplicit false

/-- The variables of an environment. -/
abbrev Environment := Entries String String

namespace Environment

/-- The value of a variable that is set to something. -/
def nonEmpty? (environment : Environment) (name : String) : Option String :=
  (environment.get? name).filter (· != "")

end Environment

/-- A configuration: the file it was read from, if any, and its entries. -/
structure Config where
  path : Option Path
  /-- The entries of the `snapshots` section; the switches among them are truth values. -/
  snapshots : List (Value × Value)

namespace Config

/-! ## Names -/

def pathVariable : String := "DBSNAP_CONFIG"
def fullVariable : String := "DBSNAP_FULL_SNAPS"
def updateVariable : String := "DBSNAP_UPDATE_SNAPSHOTS"
def snapshotRootVariable : String := "DBSNAP_SNAPSHOT_ROOT"
def sourceRootVariable : String := "DBSNAP_SOURCE_ROOT"

def sectionName : String := "snapshots"
def rootKey : String := "root"
def sourceRootKey : String := "source_root"
def fullKey : String := "store_full"
def updateKey : String := "update"

/-! ## The file -/

/-- Said before a file is read. -/
def loadingEntry (path : Path) : Log.Entry :=
  ⟨"dbsnap.config.config_loader", Log.info, "Loading config from: " ++ path.toString, {}⟩

/-- What can be read of a configuration file. -/
def openFile (files : FileTree) (path : Path) : Except Failure TextStream :=
  match files.readFile path with
  | .error fault => .error (.file fault path.toString)
  | .ok content => .ok (.ofBytes content)

/-- The entries of the root of a configuration file; an empty file has none. -/
def rootEntries [Yaml.Reader] (path : Path) (stream : TextStream) :
    Except Failure (List (Value × Value)) :=
  match Yaml.Reader.read stream with
  | .error .malformed => .error (.config (.notYaml path))
  | .error (.scalar fault) => .error (.scalar fault)
  | .error (.notText flaw) => .error (.notText flaw)
  | .ok .none => .ok []
  | .ok (.map entries) => .ok entries
  | .ok _ => .error (.config (.rootNotMapping path))

/-- The entries of the section of snapshots.  A section that counts as nothing has none. -/
def sectionEntries (root : List (Value × Value)) : Except Failure (List (Value × Value)) :=
  match Value.lookup? sectionName root with
  | none => .ok []
  | some value =>
      if value.isTruthy then
        match value with
        | .map entries => .ok entries
        | _ => .error (.config .sectionNotMapping)
      else .ok []

/-- Whether there is something at the path of a configuration file. -/
def isThere (files : FileTree) (path : Path) : Except Failure Bool :=
  (files.has path).mapError fun fault => .file fault path.toString

/-- The entries of the section of snapshots of a file. -/
def loadFile [Yaml.Reader] (files : FileTree) (path : Path) : Logged (List (Value × Value)) := do
  if ← Logged.ofResult (isThere files path) then
    Logged.say (loadingEntry path)
    Logged.ofResult (do sectionEntries (← rootEntries path (← openFile files path)))
  else throw (.config (.noFile path))

/-! ## Where entries come from -/

/-- What holds where nothing else is said. -/
def defaults : List (Value × Value) :=
  [ (.text rootKey, .text "snapshots"), (.text sourceRootKey, .text "tests"),
    (.text fullKey, .bool false), (.text updateKey, .bool false) ]

/-- Entries with other entries put over them. -/
def merge (entries newer : List (Value × Value)) : List (Value × Value) :=
  newer.foldl (fun entries (key, value) => Value.putEntry key value entries) entries

/-- Sets an entry if there is a value for it. -/
def override (key : String) (value : Option String) (entries : List (Value × Value)) :
    List (Value × Value) :=
  match value with
  | none => entries
  | some text => Value.putEntry (.text key) (.text text) entries

/-- Entries with those of the environment put over them. -/
def applyEnvironment (environment : Environment) (entries : List (Value × Value)) :
    List (Value × Value) :=
  entries
    |> override rootKey (environment.nonEmpty? snapshotRootVariable)
    |> override sourceRootKey (environment.nonEmpty? sourceRootVariable)
    |> override fullKey (environment.get? fullVariable)
    |> override updateKey (environment.get? updateVariable)

/-- Reads one switch among entries and puts its truth value in place. -/
def settle (key name : String) (entries : List (Value × Value)) :
    Logged (List (Value × Value)) := do
  let value := (Value.lookup? key entries).getD .none
  let switch ← Switch.parse name value
  return Value.putEntry (.text key) (.bool switch) entries

/-- The file to read: the given one, else the one that the environment names.  No name at
all is no file. -/
def choosePath (environment : Environment) (path : Option String) : Option Path :=
  match path with
  | some text => if text = "" then none else some (Path.ofString text)
  | none => (environment.nonEmpty? pathVariable).map Path.ofString

/-- The configuration of an environment, with the file at a path or the one that the
environment names. -/
def load [Yaml.Reader] (environment : Environment) (files : FileTree) (path : Option String) :
    Logged Config := do
  let path := choosePath environment path
  let fromFile ←
    match path with
    | none => pure []
    | some path => loadFile files path
  let entries := applyEnvironment environment (merge defaults fromFile)
  let entries ← settle fullKey fullVariable entries
  let entries ← settle updateKey updateVariable entries
  return ⟨path, entries⟩

/-! ## What it says -/

/-- The value of an entry of the section of snapshots. -/
def entry (config : Config) (key : String) : Value :=
  (Value.lookup? key config.snapshots).getD .none

/-- The path that an entry stands for; only a text stands for one. -/
def pathEntry (config : Config) (key : String) : Except Failure Path :=
  match config.entry key with
  | .text text => .ok (Path.ofString text)
  | value => .error (.notAPath value.kindName)

/-- Where fixtures live. -/
def snapshotRoot (config : Config) : Except Failure Path :=
  config.pathEntry rootKey

/-- Where test sources live. -/
def sourceRoot (config : Config) : Except Failure Path :=
  config.pathEntry sourceRootKey

/-- Whether the full text of a hashed snapshot is kept. -/
def storeFull (config : Config) : Bool :=
  (config.entry fullKey).isTruthy

/-- Whether fixtures are updated. -/
def update (config : Config) : Bool :=
  (config.entry updateKey).isTruthy

/-- All entries as one value. -/
def toValue (config : Config) : Value :=
  .map [(.text sectionName, .map config.snapshots)]

/-- What stands between the dots of a key. -/
def keyParts (key : String) : List String :=
  (key.toList.foldr
    (fun c parts =>
      if c = '.' then [] :: parts
      else
        match parts with
        | [] => [[c]]
        | part :: rest => (c :: part) :: rest)
    [[]]).map String.ofList

/-- The value that the parts of a key lead to from a value.  Where a map has no such key
it is nothing, and it is not defined behind what is no map. -/
def follow? : Value → List String → Option Value
  | value, [] => some value
  | .map entries, part :: rest => follow? ((Value.lookup? part entries).getD .none) rest
  | _, _ :: _ => none

/-- The value under a key with dots, or another value where there is nothing. -/
def get (config : Config) (key : String) (default : Value) : Value :=
  match follow? config.toValue (keyParts key) with
  | none => default
  | some .none => default
  | some value => value

end Config

end IndexSnapshot
