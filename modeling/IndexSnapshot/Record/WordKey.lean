/-
# IndexSnapshot.Record.WordKey -- keys of the word tables

Each kind of key is a structure with a `read` from raw bytes and a `write` to them.
Integers are written most significant byte first, so keys order as their integers do.

* `Word`: a text.
* `DocumentWord`: a document id in four bytes, then a word.
* `WordPair`: a word, a zero byte, a second word, and one byte of proximity.
* `WordPosition`: a word, then a position in four bytes.
* `FieldWordCount`: a field id in two bytes, then a count in one.
-/
import IndexSnapshot.Bytes.Field
import IndexSnapshot.Record.Reader

namespace IndexSnapshot

set_option autoImplicit false

/-! ## Word -/

/-- A word, or a prefix of words. -/
structure Word where
  word : String
  deriving DecidableEq, Repr

namespace Word

def read (bytes : Bytes) : Except Flaw Word :=
  (Reader.text "string key" bytes).map Word.mk

def write (key : Word) : Except Refusal Bytes :=
  .ok (Utf8.encode key.word)

end Word

/-! ## Document and word -/

/-- A word of a document. -/
structure DocumentWord where
  docid : Int
  word : String
  deriving DecidableEq, Repr

namespace DocumentWord

def read (bytes : Bytes) : Except Flaw DocumentWord := do
  let (docid, rest) ← Reader.u32 "document id" bytes
  let word ← Reader.text "word" rest
  return ⟨docid, word⟩

def write (key : DocumentWord) : Except Refusal Bytes := do
  let docid ← Width.u32.write key.docid
  return docid ++ Utf8.encode key.word

end DocumentWord

/-! ## Word pair -/

/-- Two words that stand near each other, and how near. -/
structure WordPair where
  first : String
  second : String
  proximity : Int
  deriving DecidableEq, Repr

namespace WordPair

/-- What stands before the first zero byte and what stands after it. -/
def splitZero? : Bytes → Option (Bytes × Bytes)
  | [] => none
  | b :: rest =>
      if b = 0 then some ([], rest)
      else (splitZero? rest).map fun (before, after) => (b :: before, after)

/-- The last byte is the proximity; the first zero byte of the others separates the words. -/
def read (bytes : Bytes) : Except Flaw WordPair :=
  match bytes.getLast? with
  | none => .error .emptyWordPair
  | some proximity =>
      match splitZero? bytes.dropLast with
      | none => .error .unseparatedWordPair
      | some (first, second) => do
          let first ← Reader.text "first word" first
          let second ← Reader.text "second word" second
          return ⟨first, second, proximity.toNat⟩

def write (key : WordPair) : Except Refusal Bytes :=
  if 0 ≤ key.proximity ∧ key.proximity < 256 then
    .ok (Utf8.encode key.first ++ [0] ++ Utf8.encode key.second
      ++ [UInt8.ofNat key.proximity.toNat])
  else .error (.proximity key.proximity)

end WordPair

/-! ## Word and position -/

/-- A word, or a prefix, at a position. -/
structure WordPosition where
  word : String
  position : Int
  deriving DecidableEq, Repr

namespace WordPosition

def read (bytes : Bytes) : Except Flaw WordPosition :=
  if bytes.length < 4 then .error (.shortWordPosition bytes.length)
  else do
    let word ← Reader.text "word" (bytes.take (bytes.length - 4))
    return ⟨word, Bytes.ofBigEndian (bytes.drop (bytes.length - 4))⟩

def write (key : WordPosition) : Except Refusal Bytes := do
  let position ← Width.u32.write key.position
  return Utf8.encode key.word ++ position

end WordPosition

/-! ## Field and word count -/

/-- A field, and how many words it holds. -/
structure FieldWordCount where
  fieldId : Int
  count : Int
  deriving DecidableEq, Repr

namespace FieldWordCount

def read (bytes : Bytes) : Except Flaw FieldWordCount := do
  let (fieldId, rest) ← Reader.u16 "field id" bytes
  let (count, rest) ← Reader.integer "word count" 1 rest
  Reader.expectEmpty "word count" rest
  return ⟨fieldId, count⟩

def write (key : FieldWordCount) : Except Refusal Bytes := do
  let fieldId ← Width.u16.write key.fieldId
  let count ← Width.u8.write key.count
  return fieldId ++ count

end FieldWordCount

end IndexSnapshot
