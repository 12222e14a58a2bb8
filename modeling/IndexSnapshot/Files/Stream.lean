/-
# IndexSnapshot.Files.Stream -- files that are read as texts

What is read of a file as a text is the characters of its bytes, up to the first bytes that are no
character.  Whoever reads on from there is told so.

* `TextStream.ofBytes` is what can be read of a file with some bytes.
* `ofBytes_of_decode` and `exists_flaw_of_decode_error`: it is whole exactly if the bytes are a
  text.
-/
import IndexSnapshot.Bytes.Utf8

namespace IndexSnapshot

set_option autoImplicit false

/-- What can be read of a file as a text. -/
structure TextStream where
  text : String
  /-- What stands behind the text, if it is not the end. -/
  flaw : Option Utf8.Flaw := none

namespace TextStream

/-- Whether the bytes with a flaw end within a sequence that could have gone on: one that
is cut off, or the first two bytes of a surrogate. -/
def isCutOff (content : Bytes) (flaw : Utf8.Flaw) : Bool :=
  flaw.reason = .endOfData
    || flaw.first = 0xED
      && match content.drop (flaw.start + 1) with
        | [second] => 0xA0 ≤ second && second ≤ 0xBF
        | _ => false

/-- A flaw as it is reported.  A file is taken in parts, and a sequence that is cut off at its
end is a part of its own, so the flaw of one has its place there. -/
def reported (content : Bytes) (flaw : Utf8.Flaw) : Utf8.Flaw :=
  if isCutOff content flaw then { flaw with start := 0 } else flaw

/-- The bytes of a file as they are read. -/
def ofBytes (content : Bytes) : TextStream :=
  match Utf8.decode content with
  | .ok text => ⟨text, none⟩
  | .error flaw =>
      ⟨(Utf8.decode (content.take flaw.start)).toOption.getD "", some (reported content flaw)⟩

theorem ofBytes_of_decode {content : Bytes} {text : String}
    (decoded : Utf8.decode content = .ok text) : ofBytes content = ⟨text, none⟩ := by
  rw [ofBytes, decoded]

theorem exists_flaw_of_decode_error {content : Bytes} {flaw : Utf8.Flaw}
    (flawed : Utf8.decode content = .error flaw) :
    ∃ flaw', (ofBytes content).flaw = some flaw' := by
  rw [ofBytes, flawed]
  exact ⟨_, rfl⟩

end TextStream

end IndexSnapshot
