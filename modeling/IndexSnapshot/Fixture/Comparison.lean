/-
# IndexSnapshot.Fixture.Comparison -- comparing a text with its fixture

A text is compared with the file of its fixture.  A text that differs is put aside in a
pending file beside the fixture, and the comparison fails; in update mode it is written
to the fixture instead, and the comparison passes.  A text that is the same takes the
pending file away.

* `FileTree.finding` is what the comparison finds, and changes nothing.
* `Finding.settle` is what becomes of the files, `Finding.result` whether it passes.
-/
import IndexSnapshot.Bytes.Utf8
import IndexSnapshot.Diff.Unified
import IndexSnapshot.Files.Tree
import IndexSnapshot.Fixture.Location
import IndexSnapshot.Fixture.Record
import IndexSnapshot.Text.Dedent

namespace IndexSnapshot

set_option autoImplicit false

/-! ## Files -/

def pendingSuffix : String := ".new"

/-- Where a text is put aside that differs from a fixture. -/
def Path.pending (path : Path) : Path :=
  path.appendToName pendingSuffix

/-- The text of the file that a path leads to. -/
def FileTree.readText (files : FileTree) (path : Path) : Except Failure String :=
  match files.readFile path with
  | .error fault => .error (.file fault path.toString)
  | .ok content => (Utf8.decode content).mapError .notText

/-- Writes a text to a file, and makes the directories on the way to it.  Directories that
were made stay also if the file cannot be written. -/
def FileTree.writeText (files : FileTree) (path : Path) (text : String) :
    FileTree × Except Failure Unit :=
  match files.makeDirectories path.parent with
  | (files, some (fault, place)) => (files, .error (.file fault place.toString))
  | (files, none) =>
      match files.writeFault? path with
      | some fault => (files, .error (.file fault path.toString))
      | none => (files.write path (Utf8.encode text), .ok ())

/-- Takes a file away if it is there. -/
def FileTree.eraseIfThere (files : FileTree) (path : Path) : FileTree × Except Failure Unit :=
  match files.has path with
  | .error fault => (files, .error (.file fault path.toString))
  | .ok false => (files, .ok ())
  | .ok true =>
      if files.hasDirectory path then (files, .error (.file .isDirectory path.toString))
      else (files.erase path, .ok ())

/-! ## Findings -/

/-- How a text compares with its fixture. -/
inductive Finding where
  | missing
  | same
  | different (stored : String)
  /-- The fixture cannot be read. -/
  | unreadable (failure : Failure)

/-- How a text compares with the fixture at a path. -/
def FileTree.finding (files : FileTree) (path : Path) (text : String) : Finding :=
  match files.has path with
  | .error fault => .unreadable (.file fault path.toString)
  | .ok false => .missing
  | .ok true =>
      match files.readText path with
      | .error failure => .unreadable failure
      | .ok stored => if stored = text then .same else .different stored

namespace Finding

/-- The files after a comparison, and whether they could be brought up to date: in update
mode the fixture is written, else the pending file; a fixture with the same text takes the
pending file away. -/
def settle (finding : Finding) (files : FileTree) (update : Bool) (path : Path)
    (text : String) : FileTree × Except Failure Unit :=
  let written := files.writeText (if update then path else path.pending) text
  match finding with
  | .missing => written
  | .different _ => written
  | .same => files.eraseIfThere path.pending
  | .unreadable _ => (files, .ok ())

/-- Whether a comparison passes. -/
def result (finding : Finding) (update : Bool) (path : Path) (record : Record) :
    Except Failure Unit :=
  match finding with
  | .same => .ok ()
  | .unreadable failure => .error failure
  | .missing =>
      if update then .ok () else .error (.mismatch record.name (.missing path path.pending))
  | .different stored =>
      if update then .ok ()
      else
        .error (.mismatch record.name
          (.fixture path (Diff.ofTexts stored record.content record.name)))

/-- Said when a fixture is written. -/
def entry? (finding : Finding) (update : Bool) (path : Path) (name : String) :
    Option Log.Entry :=
  let written (what : String) : Option Log.Entry :=
    if update then
      some <| Log.Entry.aboutSnapshot
        ⟨"dbsnap.snapshot.comparator", Log.info, what ++ " snapshot " ++ path.toString, {}⟩ name
    else none
  match finding with
  | .missing => written "Created"
  | .different _ => written "Updated"
  | _ => none

end Finding

/-! ## Literals -/

/-- A text without the line feeds at its ends. -/
def trimmed (text : String) : String :=
  String.ofList (Text.stripNewlines text.toList)

/-- Compares a record with a literal, which may be indented.  Line feeds at the ends of
either do not count. -/
def Record.compareInline (record : Record) (literal : String) : Except Failure Unit :=
  let actual := trimmed record.content
  let expected := Text.normalizeInline literal
  if actual = expected then .ok ()
  else
    .error (.mismatch record.name
      (.inlineText (Diff.ofTexts (expected ++ "\n") (actual ++ "\n") record.name)))

end IndexSnapshot
