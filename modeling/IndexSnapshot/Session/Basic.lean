/-
# IndexSnapshot.Session.Basic -- what a test works with

A session is what the assertions of a test read and change: the store, the files, the
environment, and what has been logged so far.  An action runs in a session and gives a
value or a failure; what it changed before it failed stays changed.

* `Action.reading` runs an action with a read transaction and closes the transaction in
  any case.
* `Action.render` is the text of one name, read in a transaction of its own.
-/
import IndexSnapshot.Config.Basic
import IndexSnapshot.Snapshot.Text

namespace IndexSnapshot

set_option autoImplicit false

/-- What a test works with. -/
structure Session where
  store : Store := .standard
  files : FileTree := {}
  environment : Environment := []
  journal : List Log.Entry := []

/-- Something that is done in a session. -/
abbrev Action (α : Type) := ExceptT Failure (StateM Session) α

namespace Action

variable {α : Type}

/-- The value or failure of an action, and the session afterwards. -/
def runIn (action : Action α) (session : Session) : Except Failure α × Session :=
  (ExceptT.run action).run session

/-- Logs an entry. -/
def say (entry : Log.Entry) : Action Unit :=
  modify fun session => { session with journal := session.journal ++ [entry] }

/-- Logs an entry if there is one. -/
def sayAny (entry : Option Log.Entry) : Action Unit :=
  match entry with
  | none => pure ()
  | some entry => say entry

/-- The value or failure of a result. -/
def ofResult (result : Except Failure α) : Action α :=
  ExceptT.mk (pure result)

/-- A logged result; its entries go to the journal. -/
def ofLogged (logged : Logged α) : Action α := do
  let (result, entries) := logged.outcome
  modify fun session => { session with journal := session.journal ++ entries }
  ofResult result

/-! ## Transactions -/

/-- Opens a read transaction. -/
def openTxn : Action ReadTxn := do
  let session ← get
  let (txn, store) := session.store.begin
  set { session with store }
  say store.openedEntry
  return txn

/-- Closes a read transaction. -/
def closeTxn : Action Unit := do
  let session ← get
  let store := session.store.finish
  set { session with store }
  say store.closedEntry

/-- Runs an action with a read transaction, which is closed also if the action fails. -/
def reading (action : ReadTxn → Action α) : Action α := do
  let txn ← openTxn
  let result ← ExceptT.mk (Except.ok <$> ExceptT.run (action txn))
  closeTxn
  ofResult result

/-! ## Rendering -/

/-- The text of a name in a transaction. -/
def renderIn (txn : ReadTxn) (name : SnapshotName) : Action String := do
  let text ← ofResult (txn.snapshot name)
  sayAny (txn.renderedEntry? name)
  return text

/-- The text of a name at this moment. -/
def render (name : SnapshotName) : Action String := do
  let text ← reading fun txn => renderIn txn name
  say (ReadTxn.snapshotEntry name text)
  return text

/-- What is snapshotted under a name. -/
def resolve (name : String) : Except Failure SnapshotName :=
  match SnapshotName.ofText? name with
  | some name => .ok name
  | none => .error (.unknownTable name)

end Action

end IndexSnapshot
