/-
# IndexSnapshot.Record.StringFacet -- records of the string facet table

The string facet table holds single texts and groups of texts without a mark that
tells them apart.  A key is first read as that of a single text.  Only when it is
sound but has another layout is it read as that of a group, and a key that is neither
is an error of its own.  Once a key has been read, its value must have the layout
that goes with it.
-/
import IndexSnapshot.Record.FacetKey
import IndexSnapshot.Record.FacetValue

namespace IndexSnapshot

set_option autoImplicit false

/-- A record of the string facet table. -/
inductive StringFacet where
  | single (key : FacetString) (value : FacetStringValue IdSet)
  | group (key : FacetGroup) (value : FacetGroupValue IdSet)
  deriving DecidableEq

namespace StringFacet

/-- The record of a group, for a key that is not one of a single text. -/
def readGroup (key value : Bytes) : Except Flaw StringFacet :=
  match FacetGroup.read key with
  | .ok found => (FacetGroupValue.read value).map (.group found)
  | .error flaw => .error (if flaw.shape = .other then .neitherFacetLayout else flaw)

/-- The record with the given key and value. -/
def read (key value : Bytes) : Except Flaw StringFacet :=
  match FacetString.read key with
  | .ok found => (FacetStringValue.read value).map (.single found)
  | .error flaw => if flaw.shape = .other then readGroup key value else .error flaw

/-- The documents of the record. -/
def docids : StringFacet → IdSet
  | .single _ value => value.docids
  | .group _ value => value.docids

end StringFacet

end IndexSnapshot
