/-
# IndexSnapshot.Record.FacetValue -- values of the string facet table

* The value of a single facet text is its spelling, with its length in two
  bytes before it, and the documents that hold it.
* The value of a group starts with a flag byte.  Zero means that only documents
  follow; one means that the lengths of the lowest and the highest text of the group
  follow, then the texts, then the documents.

Documents are in the compact layout.
-/
import IndexSnapshot.Docids.Layout
import IndexSnapshot.Record.Reader

namespace IndexSnapshot

set_option autoImplicit false

/-! ## Single texts -/

/-- The spelling of a facet text, and documents: a set when read, any list of
integers when written. -/
structure FacetStringValue (Docids : Type) where
  spelling : String
  docids : Docids
  deriving DecidableEq, Repr

namespace FacetStringValue

def read (bytes : Bytes) : Except Flaw (FacetStringValue IdSet) := do
  let (length, rest) ← Reader.u16 "original string length" bytes
  let (spelling, rest) ← Reader.splitAt "original string" length rest
  let spelling ← Reader.text "original facet string" spelling
  let docids ← DocidLayout.compact.read rest
  return ⟨spelling, docids⟩

def write (value : FacetStringValue (List Int)) : Except Refusal Bytes := do
  let spelling := Utf8.encode value.spelling
  let length ← Width.u16.write spelling.length
  let docids ← DocidLayout.compact.write value.docids
  return length ++ spelling ++ docids

end FacetStringValue

/-! ## Groups -/

/-- The lowest and the highest text of a group, if they are recorded, and documents. -/
structure FacetGroupValue (Docids : Type) where
  bounds : Option (String × String)
  docids : Docids
  deriving DecidableEq, Repr

namespace FacetGroupValue

/-- What stands after the flag of a group with bounds. -/
def readBounded (bytes : Bytes) : Except Flaw (FacetGroupValue IdSet) := do
  let (lowLength, rest) ← Reader.u16 "low bound length" bytes
  let (highLength, rest) ← Reader.u16 "high bound length" rest
  let (low, rest) ← Reader.splitAt "low bound" lowLength rest
  let (high, rest) ← Reader.splitAt "high bound" highLength rest
  let low ← Reader.text "low bound" low
  let high ← Reader.text "high bound" high
  let docids ← DocidLayout.compact.read rest
  return ⟨some (low, high), docids⟩

def read (bytes : Bytes) : Except Flaw (FacetGroupValue IdSet) :=
  match bytes with
  | [] => .error (.truncated "bounds flag" 1 0)
  | flag :: rest =>
      if flag = 0 then (DocidLayout.compact.read rest).map (⟨none, ·⟩)
      else if flag = 1 then readBounded rest
      else .error (.boundsFlag flag)

def write (value : FacetGroupValue (List Int)) : Except Refusal Bytes :=
  match value.bounds with
  | none => (DocidLayout.compact.write value.docids).map ([0] ++ ·)
  | some (low, high) => do
      let low := Utf8.encode low
      let high := Utf8.encode high
      let lowLength ← Width.u16.write low.length
      let highLength ← Width.u16.write high.length
      let docids ← DocidLayout.compact.write value.docids
      return [1] ++ lowLength ++ highLength ++ low ++ high ++ docids

end FacetGroupValue

end IndexSnapshot
