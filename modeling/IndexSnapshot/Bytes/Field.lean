/-
# IndexSnapshot.Bytes.Field -- writing integers into fields, and what is refused

A record is written from plain integers and texts, and an integer that does not fit
its field is refused, never cut down.  `Refusal` lists every reason for which
writing a record can stop; `Width.write` is the only way an integer enters a key.
-/
import IndexSnapshot.Bytes.Basic

namespace IndexSnapshot

set_option autoImplicit false

/-- The sizes of the integer fields of a record: one, two or four bytes. -/
inductive Width where
  | u8
  | u16
  | u32
  deriving DecidableEq, Repr

namespace Width

/-- How many bytes the field takes. -/
def size : Width → Nat
  | .u8 => 1
  | .u16 => 2
  | .u32 => 4

/-- One more than the largest integer of the field. -/
def bound : Width → Nat
  | .u8 => 0x100
  | .u16 => 0x10000
  | .u32 => 0x100000000

theorem bound_eq_pow (w : Width) : w.bound = Nat.pow 256 w.size := by
  cases w <;> rfl

/-- What a refused integer is told.  An integer outside a machine word (a signed one
for the one byte field) is out of range before the field is even looked at. -/
def refusal (w : Width) (n : Int) : String :=
  match w with
  | .u8 =>
      if n < -0x8000000000000000 ∨ 0x8000000000000000 ≤ n then "argument out of range"
      else "ubyte format requires 0 <= number <= 255"
  | .u16 =>
      if n < 0 ∨ 0x10000000000000000 ≤ n then "argument out of range"
      else "'H' format requires 0 <= number <= 65535"
  | .u32 =>
      if n < 0 ∨ 0x10000000000000000 ≤ n then "argument out of range"
      else "'I' format requires 0 <= number <= 4294967295"

end Width

/-- Why a record cannot be written. -/
inductive Refusal where
  /-- The integer does not fit the field. -/
  | field (width : Width) (n : Int)
  /-- The integer is no document id. -/
  | docid (n : Int)
  /-- The third part of a word pair is not a byte. -/
  | proximity (n : Int)
  /-- A facet bound is not a number. -/
  | notANumber
  /-- A facet group claims the level of single strings. -/
  | groupLevelZero
  deriving DecidableEq, Repr

def Refusal.message : Refusal → String
  | .field width n => width.refusal n
  | .docid n =>
      if n < 0 then "can't convert negative value to uint32_t"
      else if n < 0x10000000000000000 then "value too large to convert to uint32_t"
      else "Python int too large to convert to C unsigned long"
  | .proximity _ => "bytes must be in range(0, 256)"
  | .notANumber => "NaN cannot be encoded as an ordered facet value"
  | .groupLevelZero => "leveled u32 facet keys need a non-zero level"

/-- The integer in the field, most significant byte first, if it fits. -/
def Width.write (w : Width) (n : Int) : Except Refusal Bytes :=
  if 0 ≤ n ∧ n < w.bound then .ok (Bytes.bigEndian w.size n.toNat) else .error (.field w n)

theorem Width.write_eq_ok_iff (w : Width) (n : Int) (bytes : Bytes) :
    w.write n = .ok bytes ↔
      0 ≤ n ∧ n < w.bound ∧ bytes = Bytes.bigEndian w.size n.toNat := by
  unfold Width.write
  split <;> rename_i h
  · simp [h.1, h.2, eq_comm]
  · constructor
    · intro impossible; cases impossible
    · rintro ⟨low, high, _⟩; exact absurd ⟨low, high⟩ h

end IndexSnapshot
