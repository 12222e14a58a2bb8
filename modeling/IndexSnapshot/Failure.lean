/-
# IndexSnapshot.Failure -- why an operation fails

Every operation that can fail says why with a `Failure`.  A failure is a cause; its
text is made in one place, `Failure.message`, and its kind, `Failure.kind`, places it
in the small family of errors that callers tell apart.  Some failures are outside the
family: they come from the outside world, or from a request that makes no sense.
-/
import IndexSnapshot.Bytes.Field
import IndexSnapshot.Files.Fault
import IndexSnapshot.Log.Moment
import IndexSnapshot.Log.Template
import IndexSnapshot.Pattern.Syntax
import IndexSnapshot.Record.Flaw
import IndexSnapshot.Value.Literal
import IndexSnapshot.Yaml.Fault

namespace IndexSnapshot

set_option autoImplicit false

/-! ## Causes -/

/-- Why a test has no fixture location. -/
inductive LocationFault where
  /-- The location is that of a case already. -/
  | caseTaken (testName case : String)
  /-- The test id ends without a name. -/
  | noTestName (testId : String)
  /-- The source file is not under the source root. -/
  | outsideRoot (file root : Path)
  deriving DecidableEq, Repr

def LocationFault.message : LocationFault → String
  | .caseTaken testName case =>
      "Location of " ++ testName ++ " already has case " ++ Text.literal case
  | .noTestName testId => "Cannot derive a test name from " ++ Text.literal testId
  | .outsideRoot file root =>
      "Source file " ++ file.toString ++ " is not under source root " ++ root.toString

/-- Why a configuration is refused. -/
inductive ConfigFault where
  | noFile (path : Path)
  /-- The file is no YAML document. -/
  | notYaml (path : Path)
  | rootNotMapping (path : Path)
  | sectionNotMapping
  /-- The value of a switch is neither true nor false. -/
  | notBoolean (name : String) (value : Value)

def ConfigFault.message : ConfigFault → String
  | .noFile path => "Config file not found: " ++ path.toString
  | .notYaml path => "Invalid YAML in " ++ path.toString
  | .rootNotMapping path => "Config root must be a mapping: " ++ path.toString
  | .sectionNotMapping => "'snapshots' section must be a mapping"
  | .notBoolean name value =>
      name ++ " must be 'true' or 'false', got " ++ value.literal

/-- How a rendered snapshot differs from what it should be. -/
inductive Mismatch where
  /-- There is no fixture; the rendered text was put aside. -/
  | missing (path pending : Path)
  /-- The fixture has another text. -/
  | fixture (path : Path) (diff : String)
  /-- The literal has another text. -/
  | inlineText (diff : String)
  deriving DecidableEq, Repr

def Mismatch.message : Mismatch → String
  | .missing path pending =>
      "Missing snapshot " ++ path.toString ++ "; rendered content written to "
        ++ pending.toString
  | .fixture path diff => "Snapshot " ++ path.toString ++ " does not match:\n" ++ diff
  | .inlineText diff => "Inline snapshot mismatch:\n" ++ diff

/-! ## Failures -/

/-- Why an operation fails. -/
inductive Failure where
  | decode (e : DecodeError)
  | missingTable (table : String)
  | unknownTable (name : String)
  | location (fault : LocationFault)
  | config (fault : ConfigFault)
  | mismatch (name : String) (how : Mismatch)
  /-- A portable bitmap was asked of no bytes at all. -/
  | noBuffer
  /-- A record cannot be written. -/
  | refused (refusal : Refusal)
  | pattern (fault : Pattern.Fault)
  /-- A file that should hold text does not. -/
  | notText (flaw : Utf8.Flaw)
  | file (fault : FileFault) (path : String)
  /-- A value of the named kind stands where a path should. -/
  | notAPath (kind : String)
  /-- A value of the named kind stands where a path should go on. -/
  | notAName (kind : String)
  /-- A value of the named kind stands where a text should be taken apart. -/
  | notSplit (kind : String)
  /-- A value of the named kind is the key of a JSON object. -/
  | keyNotText (kind : String)
  | template (fault : Log.TemplateFault)
  | moment (fault : Log.MomentFault)
  /-- A scalar of a configuration file has no value. -/
  | scalar (fault : Yaml.ScalarFault)
  /-- An integer has more digits than are written. -/
  | tooManyDigits
  deriving Inhabited

/-- The kinds of errors.  The first ten are those of this library. -/
inductive ErrorKind where
  | base
  | decode
  | shapeMismatch
  | unknownShape
  | config
  | store
  | missingTable
  | unknownTable
  | location
  | mismatch
  | index
  | overflow
  | field
  | value
  | type
  | pattern
  | unicode
  | os
  | noFile
  | fileExists
  | notDirectory
  | isDirectory
  | attribute
  | key
  deriving DecidableEq, Repr

namespace ErrorKind

/-- The name under which errors of the kind are reported. -/
def name : ErrorKind → String
  | .base => "DbSnapError"
  | .decode => "DecodeError"
  | .shapeMismatch => "ShapeMismatchError"
  | .unknownShape => "UnknownRecordShapeError"
  | .config => "ConfigError"
  | .store => "StoreError"
  | .missingTable => "MissingTableError"
  | .unknownTable => "UnknownTableError"
  | .location => "SnapshotPathError"
  | .mismatch => "SnapshotMismatchError"
  | .index => "IndexError"
  | .overflow => "OverflowError"
  | .field => "struct.error"
  | .value => "ValueError"
  | .type => "TypeError"
  | .pattern => "re.error"
  | .unicode => "UnicodeDecodeError"
  | .os => "OSError"
  | .noFile => "FileNotFoundError"
  | .fileExists => "FileExistsError"
  | .notDirectory => "NotADirectoryError"
  | .isDirectory => "IsADirectoryError"
  | .attribute => "AttributeError"
  | .key => "KeyError"

/-- The kinds of this library. -/
def own : List ErrorKind :=
  [ .base, .decode, .shapeMismatch, .unknownShape, .config, .store, .missingTable,
    .unknownTable, .location, .mismatch ]

/-- The kind with the given name, if it is one of this library. -/
def ofName? (name : String) : Option ErrorKind :=
  own.find? fun kind => kind.name == name

/-- The kind of which this one is a special case. -/
def parent? : ErrorKind → Option ErrorKind
  | .decode => some .base
  | .shapeMismatch => some .decode
  | .unknownShape => some .decode
  | .config => some .base
  | .store => some .base
  | .missingTable => some .store
  | .unknownTable => some .base
  | .location => some .base
  | _ => none

/-- Whether a kind is another one or a special case of it.  The family is three deep. -/
def isKindOf (kind other : ErrorKind) : Bool :=
  kind == other || kind.parent? == some other || (kind.parent?.bind parent?) == some other

/-- The name of a kind with the place where it is defined. -/
def qualifiedName (kind : ErrorKind) : String :=
  if own.contains kind then "dbsnap.core.exceptions." ++ kind.name else kind.name

end ErrorKind

/-- The kind of the report of a flaw. -/
def Shape.kind : Shape → ErrorKind
  | .damaged => .decode
  | .other => .shapeMismatch
  | .unknown => .unknownShape

/-- The kind of a refusal. -/
def Refusal.kind : Refusal → ErrorKind
  | .field _ _ => .field
  | .docid _ => .overflow
  | .proximity _ => .value
  | .notANumber => .value
  | .groupLevelZero => .value

/-- The kind of the report of a path that cannot be used. -/
def FileFault.kind : FileFault → ErrorKind
  | .missing => .noFile
  | .occupied => .fileExists
  | .notDirectory => .notDirectory
  | .isDirectory => .isDirectory
  | .nameTooLong => .os
  | .nullCharacter => .value

/-- The kind of a message that values do not fit into. -/
def Log.TemplateFault.kind : Log.TemplateFault → ErrorKind
  | .incomplete => .value
  | .incompleteKey => .value
  | .widthTooLarge => .value
  | .precisionTooLarge => .value
  | .integerTooLong => .value
  | .noInteger => .value
  | .unknownPlace _ _ => .value
  | .keyMissing _ => .key
  | .starTooLarge _ => .overflow
  | .digitsTooMany => .overflow
  | .infinite => .overflow
  | .integerTooLarge => .overflow
  | .characterTooLarge => .overflow
  | _ => .type

/-- The kind of a fault in a pattern. -/
def Pattern.Fault.kind : Pattern.Fault → ErrorKind
  | .countTooLarge => .overflow
  | _ => .pattern

/-- The kind of a moment that is not written. -/
def Log.MomentFault.kind : Log.MomentFault → ErrorKind
  | .noSeconds => .overflow
  | .clockRange => .overflow
  | .calendarRange => .os
  | .yearRange => .overflow
  | .yearOutOfRange _ => .value

/-- The kind of a scalar without a value. -/
def Yaml.ScalarFault.kind : Yaml.ScalarFault → ErrorKind
  | .noCharacter code => if code < Word.limit 32 then .value else .overflow
  | .noDigits _ => .value
  | .tooManyDigits _ => .value
  | .partTooLarge => .overflow
  | .noTime _ => .value

namespace Failure

def kind : Failure → ErrorKind
  | .decode e => e.shape.kind
  | .missingTable _ => .missingTable
  | .unknownTable _ => .unknownTable
  | .location _ => .location
  | .config _ => .config
  | .mismatch _ _ => .mismatch
  | .noBuffer => .index
  | .refused refusal => refusal.kind
  | .pattern fault => fault.kind
  | .notText _ => .unicode
  | .file fault _ => fault.kind
  | .notAPath _ => .type
  | .notAName _ => .type
  | .notSplit _ => .attribute
  | .keyNotText _ => .type
  | .template fault => fault.kind
  | .moment fault => fault.kind
  | .scalar fault => fault.kind
  | .tooManyDigits => .value

/-- What a missing table is reported with. -/
def missingTableMessage (table : String) : String :=
  "Table not found in store: " ++ table

/-- What an unknown name is reported with. -/
def unknownTableMessage (name : String) : String :=
  "No snapshot formatter registered for: " ++ name

def message : Failure → String
  | .decode e => e.message
  | .missingTable table => missingTableMessage table
  | .unknownTable name => unknownTableMessage name
  | .location fault => fault.message
  | .config fault => fault.message
  | .mismatch _ how => how.message
  | .noBuffer => Flaw.noBuffer.detail
  | .refused refusal => refusal.message
  | .pattern fault => fault.message
  | .notText flaw => flaw.message
  | .file fault path => fault.message path
  | .notAPath kind => "expected str, bytes or os.PathLike object, not " ++ kind
  | .notAName kind => "unsupported operand type(s) for /: 'PosixPath' and '" ++ kind ++ "'"
  | .notSplit kind => "'" ++ kind ++ "' object has no attribute 'rsplit'"
  | .keyNotText kind => "keys must be str, int, float, bool or None, not " ++ kind
  | .template fault => fault.message
  | .moment fault => fault.message
  | .scalar fault => fault.message
  | .tooManyDigits => Text.tooManyDigits

/-- A flaw in bytes that stand alone. -/
def ofFlaw (flaw : Flaw) : Failure :=
  match flaw with
  | .noBuffer => .noBuffer
  | flaw => .decode (DecodeError.ofFlaw flaw)

/-- A flaw in a record of a table. -/
def ofRecordFlaw (flaw : Flaw) (table : String) (key : Bytes) : Failure :=
  match flaw with
  | .noBuffer => .noBuffer
  | flaw => .decode ((DecodeError.ofFlaw flaw).withContext table key)

end Failure

end IndexSnapshot
