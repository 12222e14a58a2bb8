/-
# IndexSnapshot.Record.FacetKey -- keys of the facet tables

A facet key starts with a field id in two bytes and a level in one.  Level zero
holds single facet values, higher levels hold groups of them.

* `NumericFacet`: the bounds of a number or of a group of numbers, each first in the
  order-keeping form and then as it is; only the latter is read back.
* `FacetString`: a single normalized text, at level zero.
* `FacetGroup`: a group of texts, at a higher level, between two positions.

The last two share a table.  Their keys differ by the level byte alone, so each
reader tells a key of the other layout apart from a damaged one.
-/
import IndexSnapshot.Decimal.Double
import IndexSnapshot.Record.Reader

namespace IndexSnapshot

set_option autoImplicit false

/-! ## Header -/

/-- A field id in two bytes and a level in one. -/
structure FacetHeader where
  fieldId : Int
  level : Int
  deriving DecidableEq, Repr

namespace FacetHeader

/-- How many bytes the header takes. -/
def size : Nat := 3

/-- The header and the rest. -/
def read (bytes : Bytes) : Except Flaw (FacetHeader × Bytes) :=
  (Reader.splitAt "facet key header" size bytes).map fun (head, rest) =>
    (⟨Bytes.ofBigEndian (head.take 2), Bytes.ofBigEndian (head.drop 2)⟩, rest)

def write (header : FacetHeader) : Except Refusal Bytes := do
  let fieldId ← Width.u16.write header.fieldId
  let level ← Width.u8.write header.level
  return fieldId ++ level

end FacetHeader

/-! ## Numbers -/

/-- The bounds of a number, or of a group of numbers. -/
structure NumericFacet where
  fieldId : Int
  level : Int
  low : Double
  high : Double
  deriving DecidableEq, Repr

namespace NumericFacet

/-- At level zero the one number is both bounds. -/
def read (bytes : Bytes) : Except Flaw NumericFacet := do
  let (header, rest) ← FacetHeader.read bytes
  if header.level = 0 then
    if rest.length = 16 then
      let value := Double.ofBytes (rest.drop 8)
      return ⟨header.fieldId, header.level, value, value⟩
    else throw (.numericFacetSize false rest.length)
  else if rest.length = 32 then
    return ⟨header.fieldId, header.level, Double.ofBytes ((rest.drop 16).take 8),
      Double.ofBytes (rest.drop 24)⟩
  else throw (.numericFacetSize true rest.length)

/-- At level zero the high bound is not written. -/
def write (key : NumericFacet) : Except Refusal Bytes := do
  let header ← FacetHeader.write ⟨key.fieldId, key.level⟩
  let low ← key.low.ordered
  if key.level = 0 then return header ++ low ++ key.low.toBytes
  else
    let high ← key.high.ordered
    return header ++ low ++ high ++ key.low.toBytes ++ key.high.toBytes

end NumericFacet

/-! ## Texts -/

/-- A single facet text, normalized. -/
structure FacetString where
  fieldId : Int
  normalized : String
  deriving DecidableEq, Repr

/-- The level byte of a key that is long enough to have one. -/
def facetLevel? (bytes : Bytes) : Option UInt8 :=
  bytes[2]?

namespace FacetString

def read (bytes : Bytes) : Except Flaw FacetString :=
  if facetLevel? bytes = some 0 then do
    let (header, rest) ← FacetHeader.read bytes
    let normalized ← Reader.text "normalized facet string" rest
    return ⟨header.fieldId, normalized⟩
  else .error .notFacetString

def write (key : FacetString) : Except Refusal Bytes := do
  let header ← FacetHeader.write ⟨key.fieldId, 0⟩
  return header ++ Utf8.encode key.normalized

end FacetString

/-- A group of facet texts: those from the `low`th to the `high`th. -/
structure FacetGroup where
  fieldId : Int
  level : Int
  low : Int
  high : Int
  deriving DecidableEq, Repr

namespace FacetGroup

/-- How many bytes the key takes. -/
def size : Nat := 11

def read (bytes : Bytes) : Except Flaw FacetGroup :=
  if facetLevel? bytes = none ∨ facetLevel? bytes = some 0 then .error .notFacetGroup
  else if bytes.length = size then do
    let (header, rest) ← FacetHeader.read bytes
    let (low, rest) ← Reader.u32 "low bound" rest
    let (high, _) ← Reader.u32 "high bound" rest
    return ⟨header.fieldId, header.level, low, high⟩
  else .error (.facetGroupSize bytes.length)

def write (key : FacetGroup) : Except Refusal Bytes :=
  if key.level = 0 then .error .groupLevelZero
  else do
    let header ← FacetHeader.write ⟨key.fieldId, key.level⟩
    let low ← Width.u32.write key.low
    let high ← Width.u32.write key.high
    return header ++ low ++ high

end FacetGroup

end IndexSnapshot
