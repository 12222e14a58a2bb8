/-
# IndexSnapshot.Log.Problem -- errors as they are reported

A problem is an error of a named kind with its text.  Errors of this library are
reported with the place where their kind is defined, all others with their name alone.
-/
import IndexSnapshot.Failure

namespace IndexSnapshot.Log

set_option autoImplicit false

/-- An error of a named kind. -/
structure Problem where
  kind : String
  text : String
  deriving DecidableEq, Repr

namespace Problem

/-- The text of an error of this library: where records are concerned, their table and key
stand behind the message, and a table that is missing or unknown is named by it. -/
def ownText (kind : ErrorKind) (message : String) (table : Option String)
    (key : Option Bytes) : String :=
  if kind.isKindOf .decode then DecodeError.message ⟨.damaged, message, table, key⟩
  else if kind = .missingTable then Failure.missingTableMessage message
  else if kind = .unknownTable then Failure.unknownTableMessage message
  else message

/-- An error of the named kind with a message.  The text of a missing key is the key as it
would be written in a program. -/
def ofName (name message : String) (table : Option String) (key : Option Bytes) : Problem :=
  match ErrorKind.ofName? name with
  | some kind => ⟨kind.qualifiedName, ownText kind message table key⟩
  | none => ⟨name, if name = "KeyError" then Text.literal message else message⟩

/-- The kind, and the text if there is one. -/
def line (problem : Problem) : String :=
  if problem.text = "" then problem.kind else problem.kind ++ ": " ++ problem.text

end Problem

end IndexSnapshot.Log
