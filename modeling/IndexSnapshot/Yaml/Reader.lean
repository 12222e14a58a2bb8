/-
# IndexSnapshot.Yaml.Reader -- who reads YAML

YAML is a large language, and this library leaves it to a reader, which is given what can be read
of a file and gives the value of its only document, or says why there is none.  The rest of the
library works with any reader.  Where something in a document contains itself, its value is what
one sees of it, as deep as anyone looks.

The program comes with one of its own, `documentReader`.  It reads documents without anchors,
aliases, tags, directives and block scalars, and calls all others malformed; a file that is no
text has no document for it.
-/
import IndexSnapshot.Files.Stream
import IndexSnapshot.Yaml.Document

namespace IndexSnapshot.Yaml

set_option autoImplicit false

/-- A reader of YAML. -/
class Reader where
  /-- The value of the only document in a stream; nothing if there is no document in it. -/
  read : TextStream → Except Fault Value

/-- The reader that the program comes with. -/
instance (priority := low) documentReader : Reader where
  read stream :=
    match stream.flaw with
    | none => Document.read stream.text
    | some flaw => .error (.notText flaw)

end IndexSnapshot.Yaml
