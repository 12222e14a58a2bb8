/-
# IndexSnapshot.Bytes.Word -- signed words

A signed word of some bits holds the integers from the negated limit on and below the
limit.  Of an integer that does not fit it keeps the remainder that does.
-/

namespace IndexSnapshot.Word

set_option autoImplicit false

/-- The least number that is too large for a signed word of some bits. -/
def limit (bits : Nat) : Nat :=
  Nat.pow 2 (bits - 1)

/-- Whether an integer fits into a signed word of some bits. -/
def fits (bits : Nat) (n : Int) : Bool :=
  -(limit bits : Int) ≤ n && n < limit bits

/-- What a signed word keeps of an integer. -/
def wrap (bits : Nat) (n : Int) : Int :=
  Int.bmod n (Nat.pow 2 bits)

end IndexSnapshot.Word
