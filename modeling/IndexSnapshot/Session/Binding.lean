/-
# IndexSnapshot.Session.Binding -- assertions for a running test

A test runner knows the file and id of the test that runs, and where the project is.
From these and the configuration follow the location of the fixtures and all else that
the assertions of the test need.  Fixtures are updated if the configuration says so,
or if an option of the runner does.
-/
import IndexSnapshot.Session.Assertion

namespace IndexSnapshot

set_option autoImplicit false

/-- An option that a test runner is given. -/
structure RunnerOption where
  group : String
  name : String
  help : String
  deriving DecidableEq, Repr

/-- The option that has fixtures updated. -/
def updateOption : RunnerOption where
  group := "dbsnap"
  name := "--dbsnap-update"
  help := "Rewrite missing or mismatching index snapshots instead of failing"

/-- What a test runner knows of a running test. -/
structure RunningTest where
  projectRoot : Path
  file : Path
  testId : String
  /-- Whether the update option is given. -/
  update : Bool

namespace RunningTest

/-- Where the fixtures of the test live.  Roots that are not absolute lie in the project. -/
def location (test : RunningTest) (workingDirectory : Path) (config : Config) :
    Except Failure Location := do
  let sourceRoot ← config.sourceRoot
  let snapshotRoot ← config.snapshotRoot
  (Location.resolve workingDirectory test.file test.testId none
    (test.projectRoot.join sourceRoot) (test.projectRoot.join snapshotRoot)).mapError .location

/-- The assertions of the test. -/
def bind (test : RunningTest) (workingDirectory : Path) (config : Config) :
    Except Failure Bound := do
  let location ← test.location workingDirectory config
  return ⟨location, config.update || test.update, some config.storeFull⟩

end RunningTest

end IndexSnapshot
