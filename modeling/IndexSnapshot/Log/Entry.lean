/-
# IndexSnapshot.Log.Entry -- what is logged

An entry is what one part of the library says at one moment: who says it, how grave it
is, the message, and the table, snapshot and test that it is about, where known.
-/
import IndexSnapshot.Value.Literal

namespace IndexSnapshot.Log

set_option autoImplicit false

/-! ## Levels -/

def debug : Int := 10
def info : Int := 20
def warning : Int := 30
def error : Int := 40
def critical : Int := 50

/-- The name of a level; levels between the named ones have a number. -/
def levelName (level : Int) : String :=
  if level = 0 then "NOTSET"
  else if level = debug then "DEBUG"
  else if level = info then "INFO"
  else if level = warning then "WARNING"
  else if level = error then "ERROR"
  else if level = critical then "CRITICAL"
  else "Level " ++ toString level

/-! ## Entries -/

/-- What an entry is about; nothing stands for not known. -/
structure Context where
  table : Value := .none
  snapshot : Value := .none
  testName : Value := .none

namespace Context

/-- The known parts with their names, in the order in which they are shown. -/
def known (context : Context) : List (String × Value) :=
  [("table", context.table), ("snapshot", context.snapshot),
    ("test_name", context.testName)].filter fun (_, value) =>
      match value with
      | .none => false
      | _ => true

/-- The known parts between brackets, after a space; nothing if none is known. -/
def suffix (context : Context) : String :=
  match context.known with
  | [] => ""
  | parts =>
      " [" ++ " ".intercalate (parts.map fun (name, value) => name ++ "=" ++ value.plain) ++ "]"

end Context

/-- One thing that is logged. -/
structure Entry where
  logger : String
  level : Int
  message : String
  context : Context := {}

namespace Entry

/-- The entry on one line, without the time. -/
def line (entry : Entry) : String :=
  entry.logger ++ " - " ++ levelName entry.level ++ " - " ++ entry.message ++ entry.context.suffix

/-- The same entry, about a table. -/
def aboutTable (entry : Entry) (table : String) : Entry :=
  { entry with context := { entry.context with table := .text table } }

/-- The same entry, about a snapshot. -/
def aboutSnapshot (entry : Entry) (name : String) : Entry :=
  { entry with context := { entry.context with snapshot := .text name } }

/-- The same entry, about a test. -/
def aboutTest (entry : Entry) (name : String) : Entry :=
  { entry with context := { entry.context with testName := .text name } }

end Entry

end IndexSnapshot.Log
