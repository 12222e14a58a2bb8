/-
# IndexSnapshot.Value.Literal -- the text of a value in messages

A message shows a value as it would be written in a program (`literal`), or as it
would be printed (`plain`), which differs for texts, paths and times.  A structured log line
holds values as JSON (`json`); what JSON has no form for is put in as its printed text.

A set that is a member of a set or a key of a map cannot change, and says so.  What lies
within such a thing is in the same position, but for the values of a map.

Literals and printed texts have their integers however long they are; where they are asked for,
it is asked first whether the value can be written (`isWritable`).
-/
import IndexSnapshot.Decimal.Notation
import IndexSnapshot.Docids.Grid
import IndexSnapshot.Text.Quoted
import IndexSnapshot.Value.Display

namespace IndexSnapshot

set_option autoImplicit false

namespace Value

/-! ## Literals -/

/-- The text of a set with the given members. -/
def setLiteral (isFixed : Bool) (members : List String) : String :=
  match isFixed, members with
  | false, [] => "set()"
  | false, members => bracketed "\x7b" "\x7d" members
  | true, [] => "frozenset()"
  | true, members => "frozenset(" ++ bracketed "\x7b" "\x7d" members ++ ")"

mutual

/-- The value as it would be written in a program.  `isFixed` says that it is a member of
a set or a key. -/
def literalIn (isFixed : Bool) : Value → String
  | .none => "None"
  | .bool b => if b then "True" else "False"
  | .int n => toString n
  | .float v => v.literal
  | .text s => Text.literal s
  | .bytes b => Text.bytesLiteral b
  | .list items => bracketed "[" "]" (literalAll isFixed items)
  | .tuple [item] => "(" ++ literalIn isFixed item ++ ",)"
  | .tuple items => bracketed "(" ")" (literalAll isFixed items)
  | .set members => setLiteral isFixed (literalAll true members)
  | .map entries => bracketed "\x7b" "\x7d" (literalEntries entries)
  | .docids s => s.literal
  | .constant value _ => literalIn isFixed value
  | .described value => literalIn isFixed value
  | .path p => "PosixPath(" ++ Text.literal p.toString ++ ")"
  | .date d => d.literal
  | .timestamp t => t.literal

/-- The literals of the values of a list. -/
def literalAll (isFixed : Bool) : List Value → List String
  | [] => []
  | v :: rest => literalIn isFixed v :: literalAll isFixed rest

/-- The literals of entries, each key before its value. -/
def literalEntries : List (Value × Value) → List String
  | [] => []
  | (k, v) :: rest => (literalIn true k ++ ": " ++ literalIn false v) :: literalEntries rest

end

/-- The value as it would be written in a program. -/
def literal (v : Value) : String :=
  literalIn false v

/-- The value as it would be printed. -/
def plain : Value → String
  | .text s => s
  | .path p => p.toString
  | .date d => d.iso
  | .timestamp t => t.plain
  | v => v.literal

/-! ## JSON -/

/-- A number in JSON. -/
def jsonDouble (v : Double) : String :=
  if v.isNaN then "NaN"
  else if v.isInfinite then v.signed "Infinity".toList
  else v.literal

/-- Why a value has no form in JSON. -/
inductive JsonFault where
  /-- A key that cannot be one. -/
  | key (key : Value)
  /-- An integer has too many digits. -/
  | tooManyDigits

/-- A text in which a value is written. -/
def ifWritable (value : Value) (text : String) : Except JsonFault String :=
  if value.isWritable then .ok text else .error .tooManyDigits

/-- The text of a map key in JSON. -/
def jsonKey : Value → Except JsonFault String
  | .text s => .ok s
  | .bool b => .ok (if b then "true" else "false")
  | .int n => ifWritable (.int n) (toString n)
  | .float v => .ok (jsonDouble v)
  | .none => .ok "null"
  | other => .error (.key other)

mutual

/-- The value as JSON in ASCII. -/
def json : Value → Except JsonFault String
  | .none => .ok "null"
  | .bool b => .ok (if b then "true" else "false")
  | .int n => ifWritable (.int n) (toString n)
  | .float v => .ok (jsonDouble v)
  | .text s => .ok (Text.jsonAscii s)
  | .list items => (jsonAll items).map (bracketed "[" "]")
  | .tuple items => (jsonAll items).map (bracketed "[" "]")
  | .map entries => (jsonEntries entries).map (bracketed "\x7b" "\x7d")
  | .bytes b => .ok (Text.jsonAscii (Text.bytesLiteral b))
  | .set members => ifWritable (.set members) (Text.jsonAscii (literal (.set members)))
  | .docids s => .ok (Text.jsonAscii (literal (.docids s)))
  | .constant value _ => ifWritable value (Text.jsonAscii (literal value))
  | .described value => ifWritable value (Text.jsonAscii (literal value))
  | .path p => .ok (Text.jsonAscii p.toString)
  | .date d => .ok (Text.jsonAscii d.iso)
  | .timestamp t => .ok (Text.jsonAscii t.plain)

/-- The values of a list as JSON. -/
def jsonAll : List Value → Except JsonFault (List String)
  | [] => .ok []
  | v :: rest => do
      let first ← json v
      let others ← jsonAll rest
      return first :: others

/-- Entries as JSON, each key before its value. -/
def jsonEntries : List (Value × Value) → Except JsonFault (List String)
  | [] => .ok []
  | (k, v) :: rest => do
      let key ← jsonKey k
      let first ← json v
      let others ← jsonEntries rest
      return (Text.jsonAscii key ++ ": " ++ first) :: others

end

/-! ## Kinds -/

/-- The name of the kind of a value, as messages have it. -/
def kindName : Value → String
  | .none => "NoneType"
  | .bool _ => "bool"
  | .int _ => "int"
  | .float _ => "float"
  | .text _ => "str"
  | .bytes _ => "bytes"
  | .list _ => "list"
  | .tuple _ => "tuple"
  | .set _ => "set"
  | .map _ => "dict"
  | .docids _ => "BitMap"
  | .constant _ _ => "Enum"
  | .described _ => "object"
  | .path _ => "PosixPath"
  | .date _ => "date"
  | .timestamp _ => "datetime"

/-- The name of the kind of a member of a set or a key. -/
def fixedKindName : Value → String
  | .set _ => "frozenset"
  | v => v.kindName

end Value

end IndexSnapshot
