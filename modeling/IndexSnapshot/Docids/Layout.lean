/-
# IndexSnapshot.Docids.Layout -- how tables store sets of document ids

Three layouts are in use.  The plain array holds the ids one after another in four
bytes each, least significant first; the portable layout is a roaring bitmap; the
compact one is the array for at most seven ids and the bitmap for more.  The reader
of the compact layout tells the two apart by their length alone.
-/
import IndexSnapshot.Docids.Portable

namespace IndexSnapshot

set_option autoImplicit false

/-- The layouts of a set of document ids. -/
inductive DocidLayout where
  | portable
  | array
  | compact
  deriving DecidableEq, Repr

namespace DocidLayout

/-- The most ids that the compact layout writes as an array. -/
def compactLimit : Nat := 7

/-! ## Plain arrays -/

/-- The words of an array, in stored order; `none` unless its length is a multiple of four. -/
def words? : Bytes → Option (List UInt32)
  | [] => some []
  | a :: b :: c :: d :: rest =>
      (words? rest).map (UInt32.ofNat (Bytes.ofLittleEndian [a, b, c, d]) :: ·)
  | _ => none

/-- The set of the words of an array. -/
def readArray (bytes : Bytes) : Except Flaw IdSet :=
  match words? bytes with
  | some words => .ok (IdSet.ofList words)
  | none => .error (.unevenArray bytes.length)

/-- The order in which an array is written. -/
def ascending (m n : Int) : Bool :=
  decide (m ≤ n)

/-- One word of an array. -/
def writeWord (n : Int) : Except Refusal Bytes :=
  (Width.u32.write n).map List.reverse

/-- The integers in ascending order, repetitions kept.  The smallest one that does not
fit decides what is refused. -/
def writeArray (ids : List Int) : Except Refusal Bytes :=
  ((ids.mergeSort ascending).mapM writeWord).map List.flatten

/-- The members of a set as integers. -/
def integers (s : IdSet) : List Int :=
  s.toList.map fun i => (i.toNat : Int)

/-! ## Layouts -/

/-- A portable bitmap.  No bytes at all are not even looked at. -/
def readPortable (bytes : Bytes) : Except Flaw IdSet :=
  if bytes.isEmpty then .error .noBuffer
  else (Portable.read bytes).mapError (Flaw.bitmap bytes.length)

/-- The set that the bytes hold. -/
def read (layout : DocidLayout) (bytes : Bytes) : Except Flaw IdSet :=
  match layout with
  | .portable => readPortable bytes
  | .array => readArray bytes
  | .compact =>
      if bytes.length ≤ 4 * compactLimit then readArray bytes else readPortable bytes

/-- The bytes for a list of ids in any order.  The plain array keeps repetitions; the
other layouts hold sets. -/
def write (layout : DocidLayout) (ids : List Int) : Except Refusal Bytes :=
  match layout with
  | .portable => (IdSet.ofInts ids).map Portable.write
  | .array => writeArray ids
  | .compact => do
      let s ← IdSet.ofInts ids
      if s.size ≤ compactLimit then writeArray (integers s) else return Portable.write s

end DocidLayout

end IndexSnapshot
