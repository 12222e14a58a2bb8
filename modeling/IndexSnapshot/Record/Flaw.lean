/-
# IndexSnapshot.Record.Flaw -- why stored bytes are rejected

Reading a record never guesses.  Bytes that do not have the layout of their table
are rejected with a `Flaw`, which says exactly what is wrong, and the flaw is
reported as a `DecodeError` that can also name the table and the raw key.

* `Flaw.detail` is the text of a flaw, `Flaw.shape` its class: most flaws mean
  that the bytes are damaged, two mean only that they have another layout of the
  same table, and one that no layout of the table takes them.
* `DecodeError.message` prints the detail, then the table, then the key.
-/
import IndexSnapshot.Bytes.Utf8

namespace IndexSnapshot

set_option autoImplicit false

/-! ## Portable bitmaps -/

/-- Why bytes are no portable bitmap.  The first case is a byte string that is too
short or starts wrong; the others are found once it has been taken apart. -/
inductive BitmapFlaw where
  | unreadable
  | keyOrder
  | arrayOrder
  | cardinality
  | noRuns
  | runPastEnd
  | runOverlap
  | runTouching
  deriving DecidableEq, Repr

def BitmapFlaw.message : BitmapFlaw → String
  | .unreadable => "Could not deserialize bitmap"
  | .keyOrder => invalid "keys not strictly increasing"
  | .arrayOrder => invalid "array elements not strictly increasing"
  | .cardinality => invalid "cardinality is incorrect"
  | .noRuns => invalid "zero run count"
  | .runPastEnd => invalid "run start + length too large"
  | .runOverlap => invalid "run start less than last end"
  | .runTouching => invalid "run start equal to last end, should have combined"
where
  invalid (reason : String) : String := "Invalid bitmap after deserialization: " ++ reason

/-! ## Records -/

/-- Why bytes are not the record they should be.  `part` names the part of the record
that was being read. -/
inductive Flaw where
  | truncated (part : String) (need found : Nat)
  | notText (part : String) (flaw : Utf8.Flaw)
  | trailing (part : String) (count : Nat)
  | emptyWordPair
  | unseparatedWordPair
  | shortWordPosition (size : Nat)
  | numericFacetSize (leveled : Bool) (size : Nat)
  | facetGroupSize (size : Nat)
  | boundsFlag (flag : UInt8)
  | unevenArray (size : Nat)
  | bitmap (size : Nat) (flaw : BitmapFlaw)
  /-- A portable bitmap was asked of no bytes at all. -/
  | noBuffer
  /-- The key is not one of a single facet string. -/
  | notFacetString
  /-- The key is not one of a group of facet strings. -/
  | notFacetGroup
  /-- The key is neither of the two. -/
  | neitherFacetLayout
  deriving DecidableEq, Repr

/-- What a flaw says about the bytes. -/
inductive Shape where
  /-- They are damaged. -/
  | damaged
  /-- They are sound, but have another layout. -/
  | other
  /-- No layout of the table takes them. -/
  | unknown
  deriving DecidableEq, Repr

namespace Flaw

def detail : Flaw → String
  | .truncated part need found =>
      "truncated " ++ part ++ ": need " ++ toString need ++ " bytes, have " ++ toString found
  | .notText part flaw => "invalid UTF-8 in " ++ part ++ ": " ++ flaw.message
  | .trailing part count => toString count ++ " trailing bytes after " ++ part
  | .emptyWordPair => "empty word pair key"
  | .unseparatedWordPair => "word pair key has no separator"
  | .shortWordPosition size => "word position key too short: " ++ toString size ++ " bytes"
  | .numericFacetSize false size =>
      "level 0 numeric facet key has " ++ toString size ++ " value bytes, expected 16"
  | .numericFacetSize true size =>
      "leveled numeric facet key has " ++ toString size ++ " value bytes, expected 32"
  | .facetGroupSize size =>
      "leveled u32 facet key has " ++ toString size ++ " bytes, expected 11"
  | .boundsFlag flag => "invalid bounds flag 0x" ++ String.ofList (Bytes.hexPair flag.toNat)
  | .unevenArray size => "u32 array length " ++ toString size ++ " is not a multiple of 4"
  | .bitmap size flaw =>
      "invalid roaring bitmap (" ++ toString size ++ " bytes): " ++ flaw.message
  | .noBuffer => "Out of bounds on buffer access (axis 0)"
  | .notFacetString => "not a level 0 string facet key"
  | .notFacetGroup => "not a leveled u32 facet key"
  | .neitherFacetLayout =>
      "record matches neither the level 0 string nor the leveled u32 facet layout"

def shape : Flaw → Shape
  | .notFacetString => .other
  | .notFacetGroup => .other
  | .neitherFacetLayout => .unknown
  | _ => .damaged

end Flaw

/-! ## Reports -/

/-- The report of a flaw: what is wrong, and where once that is known. -/
structure DecodeError where
  shape : Shape
  detail : String
  table : Option String
  key : Option Bytes
  deriving DecidableEq, Repr

namespace DecodeError

/-- The report of a flaw that has not been placed yet. -/
def ofFlaw (flaw : Flaw) : DecodeError :=
  ⟨flaw.shape, flaw.detail, none, none⟩

/-- The same report, placed at a record. -/
def withContext (e : DecodeError) (table : String) (key : Bytes) : DecodeError :=
  { e with table := some table, key := some key }

/-- The detail, then whichever of the table and the key is known. -/
def message (e : DecodeError) : String :=
  " ".intercalate <|
    [e.detail] ++ (e.table.map ("table=" ++ ·)).toList
      ++ (e.key.map fun key => "key=" ++ Bytes.hex key).toList

end DecodeError

end IndexSnapshot
