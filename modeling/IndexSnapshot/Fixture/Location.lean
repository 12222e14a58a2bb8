/-
# IndexSnapshot.Fixture.Location -- where the fixtures of a test live

Each test has a directory of its own under the snapshot root: the way of its source file
from the source root, then the name of the test, then that of the case if it is one of
several.  A location is derived from the source file and the test id alone.

* `Location.resolve` derives it; it fails if the file is not under the source root, or
  if the id ends without a name.
* `Location.forCase` goes on to a case, which a location can have only once.
-/
import IndexSnapshot.Failure

namespace IndexSnapshot

set_option autoImplicit false

/-- The place of the fixtures of a test, or of one case of it. -/
structure Location where
  directory : Path
  /-- The source file, from the source root on. -/
  sourcePath : Path
  testName : String
  caseName : Option String := none
  deriving DecidableEq, Repr

/-! ## Test ids -/

/-- What stands behind the last two adjacent colons, if there are any. -/
def afterColons? : List Char → Option (List Char)
  | [] => none
  | c :: rest =>
      match afterColons? rest with
      | some name => some name
      | none =>
          match c, rest with
          | ':', ':' :: name => some name
          | _, _ => none

/-- The name of a test: the innermost part of its id. -/
def testNameOf (testId : String) : Except LocationFault String :=
  match (afterColons? testId.toList).getD testId.toList with
  | [] => .error (.noTestName testId)
  | name => .ok (String.ofList name)

/-! ## Source files -/

/-- The way to a source file from the source root.  The names alone decide if they can;
else both are looked at from the working directory. -/
def Path.fromRoot (workingDirectory file root : Path) : Except LocationFault Path :=
  match file.relativeTo? root with
  | some way => .ok way
  | none =>
      match (Path.absolute workingDirectory file).relativeTo?
          (Path.absolute workingDirectory root) with
      | some way => .ok way
      | none => .error (.outsideRoot file root)

namespace Location

/-! ## Locations -/

def fixtureSuffix : String := ".snap"

/-- The file of a fixture. -/
def fixturePath (location : Location) (name : String) : Path :=
  location.directory.child (name ++ fixtureSuffix)

/-- The location of a case; the same one for no case. -/
def forCase (location : Location) : Option String → Except LocationFault Location
  | none => .ok location
  | some name =>
      match location.caseName with
      | some taken => .error (.caseTaken location.testName taken)
      | none =>
          .ok { location with
            directory := location.directory.child name, caseName := some name }

/-- The location of a test in a source file. -/
def resolve (workingDirectory : Path) (file : Path) (testId : String)
    (caseName : Option String) (sourceRoot snapshotRoot : Path) :
    Except LocationFault Location := do
  let sourcePath ← Path.fromRoot workingDirectory file sourceRoot
  let testName ← testNameOf testId
  let directory := (snapshotRoot.join sourcePath).child testName
  forCase { directory, sourcePath, testName } caseName

end Location

end IndexSnapshot
