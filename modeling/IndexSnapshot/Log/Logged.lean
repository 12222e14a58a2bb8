/-
# IndexSnapshot.Log.Logged -- results that come with what was logged on the way

A logged result is a value or a failure, and the entries that were logged until then.
Entries stay when something fails after them.
-/
import IndexSnapshot.Failure
import IndexSnapshot.Log.Entry

namespace IndexSnapshot

set_option autoImplicit false

/-- A value or a failure, with what is logged on the way to it. -/
abbrev Logged (α : Type) := ExceptT Failure (StateM (List Log.Entry)) α

namespace Logged

/-- Logs an entry. -/
def say (entry : Log.Entry) : Logged Unit :=
  modify (· ++ [entry])

/-- A result that logs nothing. -/
def ofResult {α : Type} (result : Except Failure α) : Logged α :=
  ExceptT.mk (pure result)

/-- The result, and all that was logged. -/
def outcome {α : Type} (action : Logged α) : Except Failure α × List Log.Entry :=
  (ExceptT.run action).run []

theorem outcome_ofResult {α : Type} (result : Except Failure α) :
    (ofResult result).outcome = (result, []) := rfl

theorem outcome_say (entry : Log.Entry) : (say entry).outcome = (.ok (), [entry]) := rfl

end Logged

end IndexSnapshot
