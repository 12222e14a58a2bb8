/-
# IndexSnapshot.Digest.Md5 -- the 128-bit digest of long texts

A snapshot that is too long to be kept is replaced by its MD5 digest.  The message is
padded with a one bit, zeros, and its length in bits, and cut into blocks of sixteen
words; each block turns a state of four words into the next one in sixty-four steps.

* `digest` is the digest of a byte string, `hexDigest` the same in hexadecimal.
-/
import IndexSnapshot.Bytes.Basic

namespace IndexSnapshot.Md5

set_option autoImplicit false

/-! ## Tables -/

/-- The sixty-four additive constants: the sine of each step number, scaled to a word. -/
def constants : Array UInt32 := #[
    0xd76aa478, 0xe8c7b756, 0x242070db, 0xc1bdceee, 0xf57c0faf, 0x4787c62a, 0xa8304613, 0xfd469501,
    0x698098d8, 0x8b44f7af, 0xffff5bb1, 0x895cd7be, 0x6b901122, 0xfd987193, 0xa679438e, 0x49b40821,
    0xf61e2562, 0xc040b340, 0x265e5a51, 0xe9b6c7aa, 0xd62f105d, 0x02441453, 0xd8a1e681, 0xe7d3fbc8,
    0x21e1cde6, 0xc33707d6, 0xf4d50d87, 0x455a14ed, 0xa9e3e905, 0xfcefa3f8, 0x676f02d9, 0x8d2a4c8a,
    0xfffa3942, 0x8771f681, 0x6d9d6122, 0xfde5380c, 0xa4beea44, 0x4bdecfa9, 0xf6bb4b60, 0xbebfbc70,
    0x289b7ec6, 0xeaa127fa, 0xd4ef3085, 0x04881d05, 0xd9d4d039, 0xe6db99e5, 0x1fa27cf8, 0xc4ac5665,
    0xf4292244, 0x432aff97, 0xab9423a7, 0xfc93a039, 0x655b59c3, 0x8f0ccc92, 0xffeff47d, 0x85845dd1,
    0x6fa87e4f, 0xfe2ce6e0, 0xa3014314, 0x4e0811a1, 0xf7537e82, 0xbd3af235, 0x2ad7d2bb, 0xeb86d391]

/-- By how much the step of a number rotates: four amounts in turn for each round. -/
def rotation (step : Nat) : UInt32 :=
  match step / 16, step % 4 with
  | 0, 0 => 7
  | 0, 1 => 12
  | 0, 2 => 17
  | 0, _ => 22
  | 1, 0 => 5
  | 1, 1 => 9
  | 1, 2 => 14
  | 1, _ => 20
  | 2, 0 => 4
  | 2, 1 => 11
  | 2, 2 => 16
  | 2, _ => 23
  | _, 0 => 6
  | _, 1 => 10
  | _, 2 => 15
  | _, _ => 21

/-- Which word of the block a step reads. -/
def wordIndex (step : Nat) : Nat :=
  match step / 16 with
  | 0 => step
  | 1 => (5 * step + 1) % 16
  | 2 => (3 * step + 5) % 16
  | _ => 7 * step % 16

/-! ## Steps -/

/-- The four words that a block changes. -/
structure State where
  a : UInt32
  b : UInt32
  c : UInt32
  d : UInt32
  deriving DecidableEq, Repr

/-- The state before the first block. -/
def initial : State :=
  ⟨0x67452301, 0xefcdab89, 0x98badcfe, 0x10325476⟩

/-- The word with its bits moved up, those at the top coming in at the bottom. -/
def rotateLeft (w amount : UInt32) : UInt32 :=
  (w <<< amount) ||| (w >>> (32 - amount))

/-- How a step mixes three words of the state. -/
def mix (step : Nat) (s : State) : UInt32 :=
  match step / 16 with
  | 0 => (s.b &&& s.c) ||| (~~~s.b &&& s.d)
  | 1 => (s.d &&& s.b) ||| (~~~s.d &&& s.c)
  | 2 => s.b ^^^ s.c ^^^ s.d
  | _ => s.c ^^^ (s.b ||| ~~~s.d)

/-- One step over the words of a block. -/
def turn (block : Array UInt32) (s : State) (step : Nat) : State :=
  let sum := s.a + mix step s + constants.getD step 0 + block.getD (wordIndex step) 0
  ⟨s.d, s.b + rotateLeft sum (rotation step), s.b, s.c⟩

/-- The state after a block. -/
def absorb (s : State) (block : Array UInt32) : State :=
  let t := (List.range 64).foldl (turn block) s
  ⟨s.a + t.a, s.b + t.b, s.c + t.c, s.d + t.d⟩

/-! ## Messages -/

/-- A one bit, zeros up to eight bytes before the end of a block, and the length in bits. -/
def padding (size : Nat) : Bytes :=
  0x80 :: List.replicate ((119 - size % 64) % 64) 0 ++ Bytes.littleEndian 8 (8 * size)

/-- The words of a byte string; up to three bytes at the end are dropped. -/
def words : Bytes → List UInt32
  | a :: b :: c :: d :: rest => UInt32.ofNat (Bytes.ofLittleEndian [a, b, c, d]) :: words rest
  | _ => []

/-- The state after the first `n` blocks of a byte string. -/
def absorbBlocks : Nat → State → Bytes → State
  | 0, s, _ => s
  | n + 1, s, bytes => absorbBlocks n (absorb s (words (bytes.take 64)).toArray) (bytes.drop 64)

/-- The sixteen bytes of the digest. -/
def digest (message : Bytes) : Bytes :=
  let padded := message ++ padding message.length
  let final := absorbBlocks (padded.length / 64) initial padded
  [final.a, final.b, final.c, final.d].flatMap fun w => Bytes.littleEndian 4 w.toNat

/-- The digest in lowercase hexadecimal. -/
def hexDigest (message : Bytes) : String :=
  Bytes.hex (digest message)

end IndexSnapshot.Md5
