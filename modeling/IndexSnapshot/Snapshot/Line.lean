/-
# IndexSnapshot.Snapshot.Line -- one line of a snapshot

The columns of each kind of record.  Column widths are part of the format of every
stored snapshot.  Document ids come last, in ascending order, each followed by a comma
and a space, the last one too.
-/
import IndexSnapshot.Decimal.Notation
import IndexSnapshot.Record.StringFacet
import IndexSnapshot.Record.WordKey
import IndexSnapshot.Text.Column

namespace IndexSnapshot.Line

set_option autoImplicit false

open IndexSnapshot.Text (column intColumn)

/-! ## Column widths -/

def wordWidth : Nat := 16
def prefixWidth : Nat := 4
def docidWidth : Nat := 6
def proximityWidth : Nat := 2
def positionWidth : Nat := 6
def fieldIdWidth : Nat := 3
def wordCountWidth : Nat := 6
def levelWidth : Nat := 2
def numberWidth : Nat := 6
def groupBoundWidth : Nat := 6
def facetStringWidth : Nat := 8
def fieldNameWidth : Nat := 16
def documentCountWidth : Nat := 6

/-! ## Document ids -/

/-- Integers in ascending order, repetitions kept. -/
def integers (ids : List Int) : String :=
  "[" ++ String.join ((ids.mergeSort fun m n => decide (m ≤ n)).map fun n => toString n ++ ", ")
    ++ "]"

/-- The members of a set. -/
def docids (s : IdSet) : String :=
  "[" ++ String.join (s.toList.map fun i => toString i.toNat ++ ", ") ++ "]"

/-! ## Word tables -/

def word (key : Word) (ids : IdSet) : String :=
  column wordWidth key.word ++ " " ++ docids ids

def documentWord (key : DocumentWord) (ids : IdSet) : String :=
  intColumn docidWidth key.docid ++ " " ++ column wordWidth key.word ++ " " ++ docids ids

def wordPair (key : WordPair) (ids : IdSet) : String :=
  column wordWidth key.first ++ " " ++ column wordWidth key.second ++ " "
    ++ intColumn proximityWidth key.proximity ++ " " ++ docids ids

/-- The second word is a prefix, in a narrow column. -/
def wordPrefixPair (key : WordPair) (ids : IdSet) : String :=
  column wordWidth key.first ++ " " ++ column prefixWidth key.second ++ " "
    ++ intColumn proximityWidth key.proximity ++ " " ++ docids ids

def wordPosition (key : WordPosition) (ids : IdSet) : String :=
  column wordWidth key.word ++ " " ++ intColumn positionWidth key.position ++ " " ++ docids ids

/-- The word is a prefix, in a narrow column. -/
def prefixPosition (key : WordPosition) (ids : IdSet) : String :=
  column prefixWidth key.word ++ " " ++ intColumn positionWidth key.position ++ " " ++ docids ids

def fieldWordCount (key : FieldWordCount) (ids : IdSet) : String :=
  intColumn fieldIdWidth key.fieldId ++ " " ++ intColumn wordCountWidth key.count ++ " "
    ++ docids ids

/-! ## Facet tables -/

def numericFacet (key : NumericFacet) (ids : IdSet) : String :=
  intColumn fieldIdWidth key.fieldId ++ " " ++ intColumn levelWidth key.level ++ " "
    ++ column numberWidth key.low.plain ++ " " ++ column numberWidth key.high.plain ++ " "
    ++ docids ids

def facetString (key : FacetString) (value : FacetStringValue IdSet) : String :=
  intColumn fieldIdWidth key.fieldId ++ " " ++ column facetStringWidth key.normalized ++ " "
    ++ column facetStringWidth value.spelling ++ " " ++ docids value.docids

/-- The bounds of a group that has them, each with a space behind it. -/
def groupBounds : Option (String × String) → String
  | none => ""
  | some (low, high) => column facetStringWidth low ++ " " ++ column facetStringWidth high ++ " "

def facetGroup (key : FacetGroup) (value : FacetGroupValue IdSet) : String :=
  intColumn fieldIdWidth key.fieldId ++ " " ++ intColumn levelWidth key.level ++ " "
    ++ intColumn groupBoundWidth key.low ++ " " ++ intColumn groupBoundWidth key.high ++ " "
    ++ groupBounds value.bounds ++ docids value.docids

def stringFacet : StringFacet → String
  | .single key value => facetString key value
  | .group key value => facetGroup key value

/-! ## Computed values -/

/-- A field and how many documents have it. -/
def fieldCount (name : String) (count : Int) : String :=
  column fieldNameWidth name ++ " " ++ intColumn documentCountWidth count

def fieldName (fieldId : Int) (name : String) : String :=
  intColumn fieldIdWidth fieldId ++ " " ++ column fieldNameWidth name

def fieldDocids (fieldId : Int) (ids : IdSet) : String :=
  intColumn fieldIdWidth fieldId ++ " " ++ docids ids

end IndexSnapshot.Line
