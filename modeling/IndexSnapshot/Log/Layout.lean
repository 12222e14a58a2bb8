/-
# IndexSnapshot.Log.Layout -- entries as lines

An entry is written for people, with its parts separated by dashes, or for programs, as
one JSON object in ASCII.  The time of an entry can be left out of either.

* `Layout.line` is the text of an entry.  It takes the time as a text for each style, and
  asks for it only where it is shown.
-/
import IndexSnapshot.Log.Entry
import IndexSnapshot.Log.Moment
import IndexSnapshot.Log.Problem

namespace IndexSnapshot.Log

set_option autoImplicit false

/-- For whom entries are written. -/
inductive Style where
  | human
  | structured
  deriving DecidableEq, Repr

/-- A moment in the notation of a style. -/
def Style.time (style : Style) (moment : Moment) : Except Failure String :=
  match style with
  | .human => moment.human.mapError .moment
  | .structured => moment.iso.mapError .moment

/-- How entries are written. -/
structure Layout where
  style : Style := .human
  showsTime : Bool := true
  deriving DecidableEq, Repr

namespace Layout

/-- A text with a problem on a line of its own behind it. -/
def withProblem (text : String) (problem : Option Problem) : String :=
  match problem with
  | none => text
  | some problem =>
      if text.toList.getLast? = some '\n' then text ++ problem.line
      else text ++ "\n" ++ problem.line

/-- An entry for people: time, logger, level and message, then the problem on a line of
its own, and behind all what the entry is about. -/
def humanLine (time : Option String) (entry : Entry) (problem : Option Problem) : String :=
  let parts := time.toList ++ [entry.logger, levelName entry.level, entry.message]
  withProblem (" - ".intercalate parts) problem ++ entry.context.suffix

/-- The members of an entry for programs, in order. -/
def members (time : Option String) (entry : Entry) (problem : Option Problem) :
    List (Value × Value) :=
  let text (name value : String) : Value × Value := (.text name, .text value)
  [ text "level" (levelName entry.level), text "logger" entry.logger,
    text "message" entry.message ]
    ++ time.toList.map (text "timestamp")
    ++ entry.context.known.map (fun (name, value) => (.text name, value))
    ++ problem.toList.map fun problem => text "exception" problem.line

/-- An entry for programs.  It has none if a value that the entry is about has no form there. -/
def structuredLine (time : Option String) (entry : Entry) (problem : Option Problem) :
    Except Failure String :=
  (Value.json (.map (members time entry problem))).mapError fun
    | .key key => .keyNotText key.fixedKindName
    | .tooManyDigits => .tooManyDigits

/-- The time of an entry, if it is shown. -/
def shownTime (layout : Layout) (time : Style → Except Failure String) :
    Except Failure (Option String) :=
  if layout.showsTime then (time layout.style).map some else .ok none

/-- The text of an entry, and of the problem that it reports. -/
def line (layout : Layout) (time : Style → Except Failure String) (entry : Entry)
    (problem : Option Problem) : Except Failure String := do
  let time ← layout.shownTime time
  match layout.style with
  | .human =>
      if entry.context.known.all fun (_, value) => value.isWritable then
        return humanLine time entry problem
      else throw .tooManyDigits
  | .structured => structuredLine time entry problem

end Layout

end IndexSnapshot.Log
