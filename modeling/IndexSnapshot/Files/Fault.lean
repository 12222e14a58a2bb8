/-
# IndexSnapshot.Files.Fault -- why a path cannot be used

A path may lead nowhere, or to something else than what is wanted.  The report shows the
path as it was given.
-/
import IndexSnapshot.Text.Quoted

namespace IndexSnapshot

set_option autoImplicit false

/-- Why a path cannot be used. -/
inductive FileFault where
  /-- Nothing is there, or a directory on the way is missing. -/
  | missing
  /-- Something is there already. -/
  | occupied
  /-- The path goes on behind a file. -/
  | notDirectory
  /-- A directory is where a file should be. -/
  | isDirectory
  /-- The path, or one of its names, is longer than any that can exist. -/
  | nameTooLong
  /-- No path has a null character in it. -/
  | nullCharacter
  deriving DecidableEq, Repr

/-- What is reported of a path. -/
def FileFault.message (path : String) : FileFault → String
  | .missing => "[Errno 2] No such file or directory: " ++ Text.literal path
  | .occupied => "[Errno 17] File exists: " ++ Text.literal path
  | .notDirectory => "[Errno 20] Not a directory: " ++ Text.literal path
  | .isDirectory => "[Errno 21] Is a directory: " ++ Text.literal path
  | .nameTooLong => "[Errno 36] File name too long: " ++ Text.literal path
  | .nullCharacter => "embedded null byte"

end IndexSnapshot
