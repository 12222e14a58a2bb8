/-
# IndexSnapshot.Docids.Portable -- the portable roaring format

A set of document ids is cut into containers by the high half of the id.  A
container holds the low halves in one of three ways: as an ascending array, as 8192
bytes of bits, or as runs.  A portable bitmap is a header, the keys and sizes of the
containers, the offsets of their bodies, and the bodies.

* `write` never uses runs: up to 4096 members make an array, more make bits.
* `read` takes all three.  It first takes the bytes apart (`parse`), ignoring what
  follows the last body, and then checks keys and containers (`check`).
-/
import IndexSnapshot.Docids.Basic
import IndexSnapshot.Record.Flaw

namespace IndexSnapshot.Portable

set_option autoImplicit false

/-- The first word of a bitmap without run containers. -/
def plainCookie : Nat := 12346

/-- The low half of the first word of a bitmap that may have run containers. -/
def runCookie : Nat := 12347

/-- Most members of an array container. -/
def arrayLimit : Nat := 4096

/-- Bytes of a container of bits. -/
def bitsSize : Nat := 8192

/-- From this many containers on, a bitmap with run containers has offsets too. -/
def offsetThreshold : Nat := 4

/-! ## Containers -/

/-- The members of a container, as they are stored. -/
inductive Container where
  | array (lows : List Nat)
  | bits (cardinality : Nat) (body : Bytes)
  /-- Each run is its first member and how many follow it. -/
  | runs (pairs : List (Nat × Nat))
  deriving DecidableEq, Repr

/-- The places of the one bits of a byte, lowest first. -/
def bitPlaces (b : UInt8) : List Nat :=
  (List.range 8).filter fun k => b.toNat.testBit k

/-- The places of the one bits of a byte string that starts at place `base`. -/
def bitsMembers (base : Nat) : Bytes → List Nat
  | [] => []
  | b :: rest => (bitPlaces b).map (base + ·) ++ bitsMembers (base + 8) rest

namespace Container

/-- The low halves that the container holds, in stored order. -/
def members : Container → List Nat
  | .array lows => lows
  | .bits _ body => bitsMembers 0 body
  | .runs pairs => pairs.flatMap fun (start, more) => List.range' start (more + 1)

/-- Whether each number is below the next one. -/
def increasing : List Nat → Bool
  | [] => true
  | [_] => true
  | a :: b :: rest => a < b && increasing (b :: rest)

/-- Runs must stay within the container, must not overlap, and must not touch: two
touching runs would be one.  `end_` is one past the run before. -/
def checkRuns (end_ : Nat) : List (Nat × Nat) → Except BitmapFlaw Unit
  | [] => .ok ()
  | (start, more) :: rest =>
      if start + more + 1 > 65536 then .error .runPastEnd
      else if start < end_ then .error .runOverlap
      else if start = end_ ∧ end_ ≠ 0 then .error .runTouching
      else checkRuns (start + more + 1) rest

/-- What a container must satisfy besides being readable. -/
def check : Container → Except BitmapFlaw Unit
  | .array lows => if increasing lows then .ok () else .error .arrayOrder
  | .bits cardinality body =>
      if (bitsMembers 0 body).length = cardinality then .ok () else .error .cardinality
  | .runs pairs => if pairs.isEmpty then .error .noRuns else checkRuns 0 pairs

end Container

/-! ## Writing -/

/-- Puts an id in front of the containers of larger ids: into the first one if it has
the same high half, else into a new one. -/
def consId (i : UInt32) (groups : List (Nat × List Nat)) : List (Nat × List Nat) :=
  let high := i.toNat / 65536
  let low := i.toNat % 65536
  match groups with
  | [] => [(high, [low])]
  | (key, lows) :: rest =>
      if key = high then (key, low :: lows) :: rest else (high, [low]) :: (key, lows) :: rest

/-- The low halves of a set, grouped by high half, both ascending. -/
def groups (s : IdSet) : List (Nat × List Nat) :=
  s.toList.foldr consId []

/-- The byte whose one bits are at the given distances from `base`. -/
def packByte (base : Nat) (places : List Nat) : UInt8 :=
  UInt8.ofNat (places.foldl (fun sum k => sum + Nat.pow 2 (k - base)) 0)

/-- `n` bytes of bits from place `base` on, with one bits at the ascending places. -/
def packBits : Nat → Nat → List Nat → Bytes
  | 0, _, _ => []
  | n + 1, base, places =>
      let (here, later) := places.span (· < base + 8)
      packByte base here :: packBits n (base + 8) later

/-- The body of a container with the given ascending low halves. -/
def body (lows : List Nat) : Bytes :=
  if lows.length ≤ arrayLimit then lows.flatMap (Bytes.littleEndian 2)
  else packBits bitsSize 0 lows

/-- The offsets of bodies of the given sizes when the first one starts at `start`. -/
def offsets (start : Nat) : List Nat → List Nat
  | [] => []
  | size :: rest => start :: offsets (start + size) rest

/-- The portable bitmap of a set. -/
def write (s : IdSet) : Bytes :=
  let groups := groups s
  let bodies := groups.map fun (_, lows) => body lows
  let headers := groups.flatMap fun (key, lows) =>
    Bytes.littleEndian 2 key ++ Bytes.littleEndian 2 (lows.length - 1)
  let starts := offsets (8 + 8 * groups.length) (bodies.map List.length)
  Bytes.littleEndian 4 plainCookie ++ Bytes.littleEndian 4 groups.length ++ headers
    ++ starts.flatMap (Bytes.littleEndian 4) ++ bodies.flatten

/-! ## Reading -/

/-- The first `n` bytes and the rest, if there are so many. -/
def take? (n : Nat) (bytes : Bytes) : Except BitmapFlaw (Bytes × Bytes) :=
  if bytes.length < n then .error .unreadable else .ok (bytes.take n, bytes.drop n)

/-- A number of `n` bytes, least significant first, and the rest. -/
def number? (n : Nat) (bytes : Bytes) : Except BitmapFlaw (Nat × Bytes) :=
  (take? n bytes).map fun (head, rest) => (Bytes.ofLittleEndian head, rest)

/-- A byte string as numbers of two bytes; an odd byte at the end is dropped. -/
def halves : Bytes → List Nat
  | a :: b :: rest => Bytes.ofLittleEndian [a, b] :: halves rest
  | _ => []

/-- A list of numbers, two by two; an odd one at the end is dropped. -/
def twos : List Nat → List (Nat × Nat)
  | a :: b :: rest => (a, b) :: twos rest
  | _ => []

/-- The container that a header announces, and the rest.  A run container ignores the
cardinality of its header. -/
def container? (isRun : Bool) (cardinality : Nat) (bytes : Bytes) :
    Except BitmapFlaw (Container × Bytes) := do
  if isRun then
    let (count, rest) ← number? 2 bytes
    let (pairs, rest) ← take? (4 * count) rest
    return (.runs (twos (halves pairs)), rest)
  else if cardinality > arrayLimit then
    let (body, rest) ← take? bitsSize bytes
    return (.bits cardinality body, rest)
  else
    let (lows, rest) ← take? (2 * cardinality) bytes
    return (.array (halves lows), rest)

/-- The containers of the given headers (key, cardinality less one, is a run). -/
def containers? : List ((Nat × Nat) × Bool) → Bytes → Except BitmapFlaw (List (Nat × Container))
  | [], _ => .ok []
  | ((key, less), isRun) :: headers, bytes => do
      let (container, rest) ← container? isRun (less + 1) bytes
      let others ← containers? headers rest
      return (key, container) :: others

/-- The eight bits of a byte, lowest first. -/
def bitFlags (b : UInt8) : List Bool :=
  (List.range 8).map b.toNat.testBit

/-- How many containers there are, which of them hold runs, whether offsets follow the
headers, and the rest. -/
def header? (bytes : Bytes) : Except BitmapFlaw (Nat × List Bool × Bool × Bytes) := do
  let (cookie, rest) ← number? 4 bytes
  if cookie = plainCookie then
    let (count, rest) ← number? 4 rest
    if count > 65536 then throw .unreadable
    return (count, List.replicate count false, true, rest)
  else if cookie % 65536 = runCookie then
    let count := cookie / 65536 + 1
    let (flags, rest) ← take? ((count + 7) / 8) rest
    return (count, (flags.flatMap bitFlags).take count, decide (offsetThreshold ≤ count), rest)
  else throw .unreadable

/-- The containers of a bitmap, by key.  Offsets are skipped unread. -/
def parse (bytes : Bytes) : Except BitmapFlaw (List (Nat × Container)) := do
  let (count, runs, hasOffsets, rest) ← header? bytes
  let (headers, rest) ← take? (4 * count) rest
  let (_, rest) ← if hasOffsets then take? (4 * count) rest else .ok ([], rest)
  containers? ((twos (halves headers)).zip runs) rest

/-- Keys must increase, and each container must be sound; keys are looked at first. -/
def check (containers : List (Nat × Container)) : Except BitmapFlaw Unit :=
  if Container.increasing (containers.map Prod.fst) then
    containers.forM fun (_, container) => container.check
  else .error .keyOrder

/-- The ids of a list of containers. -/
def ids (containers : List (Nat × Container)) : List UInt32 :=
  containers.flatMap fun (key, container) =>
    container.members.map fun low => UInt32.ofNat (65536 * key + low)

/-- The set that a portable bitmap holds. -/
def read (bytes : Bytes) : Except BitmapFlaw IdSet := do
  let containers ← parse bytes
  check containers
  return IdSet.ofList (ids containers)

end IndexSnapshot.Portable
