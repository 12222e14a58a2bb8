/-
# IndexSnapshot.Record.Reader -- taking a record apart from the front

Each reader takes what it needs from the front of a byte string and hands on the
rest, or fails with a flaw that names the part it was reading.
-/
import IndexSnapshot.Record.Flaw

namespace IndexSnapshot.Reader

set_option autoImplicit false

/-- The first `n` bytes and the rest. -/
def splitAt (part : String) (n : Nat) (bytes : Bytes) : Except Flaw (Bytes × Bytes) :=
  if bytes.length < n then .error (.truncated part n bytes.length)
  else .ok (bytes.take n, bytes.drop n)

/-- An integer of `n` bytes, most significant first, and the rest. -/
def integer (part : String) (n : Nat) (bytes : Bytes) : Except Flaw (Nat × Bytes) :=
  (splitAt part n bytes).map fun (head, rest) => (Bytes.ofBigEndian head, rest)

/-- An integer of two bytes and the rest. -/
def u16 (part : String) (bytes : Bytes) : Except Flaw (Nat × Bytes) :=
  integer part 2 bytes

/-- An integer of four bytes and the rest. -/
def u32 (part : String) (bytes : Bytes) : Except Flaw (Nat × Bytes) :=
  integer part 4 bytes

/-- All the bytes, as text. -/
def text (part : String) (bytes : Bytes) : Except Flaw String :=
  (Utf8.decode bytes).mapError (Flaw.notText part)

/-- No bytes may be left. -/
def expectEmpty (part : String) (bytes : Bytes) : Except Flaw Unit :=
  if bytes.isEmpty then .ok () else .error (.trailing part bytes.length)

end IndexSnapshot.Reader
