/-
# IndexSnapshot.Log.Sink -- which entries are written

The sink of this library has a level, and an outlet once it has been configured.  The
outlet keeps the level and layout that it was made with; configuring again changes the
level of the sink alone.  A sink whose level is zero takes that of its surroundings.
Entries whose level is not positive are never written.

* `Sink.accepts` says which entries are written at the outlet, `Sink.written` is what is
  written of one.  Where there is no outlet, the bare message of a warning is written.
-/
import IndexSnapshot.Log.Layout

namespace IndexSnapshot.Log

set_option autoImplicit false

/-- Where entries are written. -/
structure Outlet where
  level : Int
  layout : Layout
  deriving DecidableEq, Repr

/-- The level of this library's log, and its outlet. -/
structure Sink where
  level : Int := 0
  outlet : Option Outlet := none
  deriving DecidableEq, Repr

namespace Sink

/-- The name of the log of this library. -/
def name : String := "dbsnap"

/-- Sets the level, and makes an outlet if there is none. -/
def configure (sink : Sink) (level : Int) (layout : Layout) : Sink :=
  ⟨level, some (sink.outlet.getD ⟨level, layout⟩)⟩

/-- Whether a logger belongs to this library. -/
def owns (logger : String) : Bool :=
  logger == name || (name ++ ".").toList.isPrefixOf logger.toList

/-- The level from which on entries of a logger are passed on. -/
def levelFor (sink : Sink) (logger : String) : Int :=
  if owns logger && sink.level != 0 then sink.level else warning

/-- The outlet that entries of a logger reach. -/
def outletFor (sink : Sink) (logger : String) : Option Outlet :=
  if owns logger then sink.outlet else none

/-- Whether an entry is written. -/
def accepts (sink : Sink) (logger : String) (level : Int) : Bool :=
  0 < level && sink.levelFor logger ≤ level
    && match sink.outletFor logger with
      | some outlet => outlet.level ≤ level
      | none => warning ≤ level

/-- What is written of an entry, if it is written. -/
def written (sink : Sink) (time : Style → Except Failure String) (entry : Entry) : Except Failure String :=
  if sink.accepts entry.logger entry.level then
    match sink.outletFor entry.logger with
    | some outlet =>
        (outlet.layout.line time entry none).map (· ++ "\n")
    | none => .ok (entry.message ++ "\n")
  else .ok ""

/-- What is written of entries, one after another. -/
def writtenAll (sink : Sink) (time : Style → Except Failure String) (entries : List Entry) :
    Except Failure String :=
  (entries.mapM (sink.written time)).map String.join

end Sink

end IndexSnapshot.Log
