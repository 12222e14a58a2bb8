/-
# IndexSnapshot.Session.Assertion -- asserting snapshots

An assertion renders a name of the index, reduces the text to its records, and compares
each of them with a fixture of the test, in order, until one fails.  With a literal the
comparison is with that instead, but for a full text, which always has a fixture.

* `Action.assertTable` asserts one name, `Action.assertIndex` all selected names of the
  index, read in one transaction.
* Patterns are searched for with whatever finder there is, and the configuration is read with
  whatever reader of YAML.
* `Bound` is a location with everything else that an assertion needs, so that a test says
  only what it asserts.
-/
import IndexSnapshot.Fixture.Comparison
import IndexSnapshot.Pattern.Finder
import IndexSnapshot.Session.Basic

namespace IndexSnapshot

set_option autoImplicit false

namespace Action

/-! ## Records -/

/-- Compares a text with a fixture at a location. -/
def compare (location : Location) (update : Bool) (record : Record) : Action Unit := do
  let session ← get
  let path := location.fixturePath record.name
  let finding := session.files.finding path record.content
  let (files, settled) := finding.settle session.files update path record.content
  set { session with files }
  ofResult settled
  sayAny (finding.entry? update path record.name)
  ofResult (finding.result update path record)

/-- Whether full texts are kept: as it is said, or else as the configuration says. -/
def keepsFull [Yaml.Reader] (storeFull : Option Bool) : Action Bool := do
  match storeFull with
  | some full => return full
  | none =>
      let session ← get
      let config ← ofLogged (Config.load session.environment session.files none)
      return config.storeFull

/-- The records of a text.  What is logged is about a value that stands for the name. -/
def reduceAs [Yaml.Reader] (label : Value) (name text : String) (inlined : Bool)
    (storeFull : Option Bool) : Action (List Record) := do
  let full ← keepsFull storeFull
  sayAny (Record.hashedEntry? label text inlined)
  return Record.ofSnapshot name text inlined full

/-- The records of a text. -/
def reduce [Yaml.Reader] (name text : String) (inlined : Bool) (storeFull : Option Bool) :
    Action (List Record) :=
  reduceAs (.text name) name text inlined storeFull

/-! ## One name -/

/-- Compares a record of a name with the literal, if there is one that it is for, else
with its fixture. -/
def check (location : Location) (update : Bool) (literal : Option String) (record : Record) :
    Action Unit :=
  match literal with
  | none => compare location update record
  | some text =>
      if record.isFull then compare location update record
      else ofResult (record.compareInline text)

/-- Asserts the text of a name and gives the records that were compared. -/
def assertTable [Yaml.Reader] (location : Location) (update : Bool) (table : String)
    (caseName literal : Option String) (storeFull : Option Bool) : Action (List Record) := do
  let name ← ofResult (resolve table)
  let location ← ofResult ((location.forCase caseName).mapError .location)
  let text ← render name
  let records ← reduce name.text text literal.isSome storeFull
  records.forM (check location update literal)
  return records

/-! ## The whole index -/

/-- Whether a pattern is found in a text; no pattern says nothing. -/
def found? [Pattern.Finder] (pattern : Option String) (text : String) :
    Except Failure (Option Bool) :=
  match pattern with
  | none => .ok none
  | some pattern =>
      match Pattern.Finder.find pattern text with
      | .error fault => .error (.pattern fault)
      | .ok found => .ok (some found)

/-- Whether a name is selected.  The second pattern matters only for names that the first
one lets pass. -/
def isSelected [Pattern.Finder] (including excluding : Option String) (name : SnapshotName) :
    Except Failure Bool := do
  if (← found? including name.text) = some false then return false
  else return (← found? excluding name.text) != some true

/-- The selected names, in the order of the catalogue. -/
def selected [Pattern.Finder] (including excluding : Option String) :
    Except Failure (List SnapshotName) :=
  SnapshotName.catalogue.filterM (isSelected including excluding)

/-- Compares the records of a text with their fixtures. -/
def assertText [Yaml.Reader] (location : Location) (update : Bool) (storeFull : Option Bool)
    (name : SnapshotName) (text : String) : Action (List Record) := do
  let records ← reduce name.text text false storeFull
  records.forM (compare location update)
  return records

/-- Said when all records of an index have passed. -/
def comparedEntry (records names : Nat) (location : Location) : Log.Entry :=
  Log.Entry.aboutTest
    ⟨"dbsnap.snapshot.harness", Log.debug,
      "Compared " ++ toString records ++ " records across " ++ toString names ++ " tables", {}⟩
    location.testName

/-- Asserts the texts of all selected names and gives the records that were compared.  All
texts are read in one transaction before the first one is compared. -/
def assertIndex [Yaml.Reader] [Pattern.Finder] (location : Location) (update : Bool)
    (including excluding : Option String) (storeFull : Option Bool) :
    Action (List Record) := do
  let names ← ofResult (selected including excluding)
  let texts ← reading fun txn => names.mapM (renderIn txn)
  let records ← (names.zip texts).mapM fun (name, text) =>
    assertText location update storeFull name text
  let records := records.flatten
  say (comparedEntry records.length names.length location)
  return records

end Action

/-! ## Bound assertions -/

/-- A location of fixtures, and how assertions at it work. -/
structure Bound where
  location : Location
  /-- Whether a fixture that differs is written anew. -/
  update : Bool
  /-- Whether full texts are kept; nothing if the configuration is asked each time. -/
  storeFull : Option Bool

namespace Bound

/-- Asserts the text of a name. -/
def assertTable [Yaml.Reader] (bound : Bound) (table : String) (caseName literal : Option String) :
    Action (List Record) :=
  Action.assertTable bound.location bound.update table caseName literal bound.storeFull

/-- Asserts the texts of all selected names. -/
def assertIndex [Yaml.Reader] [Pattern.Finder] (bound : Bound)
    (including excluding : Option String) : Action (List Record) :=
  Action.assertIndex bound.location bound.update including excluding bound.storeFull

end Bound

end IndexSnapshot
