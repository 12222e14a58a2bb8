/-
# IndexSnapshot.Fixture.Record -- what is kept of a snapshot

A short snapshot is kept as it is.  Of a long one only the hash of its text is kept, and
if wanted the full text before it, each under a name of its own.  A snapshot inside the
source of a test has to be shorter than one in a file.
-/
import IndexSnapshot.Bytes.Utf8
import IndexSnapshot.Digest.Md5
import IndexSnapshot.Log.Entry

namespace IndexSnapshot

set_option autoImplicit false

/-- A named text that is compared with a fixture. -/
structure Record where
  name : String
  content : String
  deriving DecidableEq, Repr

namespace Record

def fullSuffix : String := ".full"
def hashSuffix : String := ".hash"

/-- Whether the record keeps the full text of a snapshot whose hash is kept. -/
def isFull (record : Record) : Bool :=
  fullSuffix.toList.isSuffixOf record.name.toList

/-- The hash of a text. -/
def contentHash (text : String) : String :=
  Md5.hexDigest (Utf8.encode text)

/-- From how many characters on only the hash of a snapshot is kept. -/
def threshold (inlined : Bool) : Nat :=
  if inlined then 256 else 2048

/-- The records of a snapshot, in the order in which they are compared. -/
def ofSnapshot (name text : String) (inlined storeFull : Bool) : List Record :=
  if text.length < threshold inlined then [⟨name, text⟩]
  else
    (if storeFull then [⟨name ++ fullSuffix, text⟩] else [])
      ++ [⟨name ++ hashSuffix, contentHash text⟩]

/-- Said when only the hash of the snapshot with a label is kept. -/
def hashedEntry? (label : Value) (text : String) (inlined : Bool) : Option Log.Entry :=
  if text.length < threshold inlined then none
  else
    some
      ⟨"dbsnap.snapshot.reducer", Log.debug,
        "Snapshot of " ++ toString text.length ++ " characters reduced to its hash (threshold "
          ++ toString (threshold inlined) ++ ")", { snapshot := label }⟩

end Record

end IndexSnapshot
