/-
# IndexSnapshot.Pattern.Parser -- reading patterns

A pattern is read from left to right, with one frame for every group that is still
open, and the first thing that is wrong stops the reading.  A group that is never
closed is found at the end, the innermost one first.

Of the groups that begin with a question mark, plain ones, committed ones and lookahead are
read, and of the escapes those for classes, anchors, white space and characters that are no
letters or digits.  All others are refused, also those that the language has.

* `parse` reads a pattern.  Each round of its loop takes at least one character, so
  as many rounds as characters suffice.
-/
import IndexSnapshot.Pattern.Syntax

namespace IndexSnapshot.Pattern

set_option autoImplicit false

/-! ## Frames -/

/-- What an item is, as far as repeating it is concerned. -/
inductive ItemKind where
  | plain
  | anchor
  | repeated
  deriving DecidableEq, Repr

/-- A part of a sequence. -/
structure Item where
  pattern : Pattern
  kind : ItemKind

/-- What a group is there for. -/
inductive GroupKind where
  | plain
  | committed
  | ahead (isThere : Bool)
  deriving DecidableEq, Repr

/-- The pattern of a group. -/
def GroupKind.wrap (kind : GroupKind) (pattern : Pattern) : Pattern :=
  match kind with
  | .plain => pattern
  | .committed => .committed pattern
  | .ahead isThere => .ahead isThere pattern

/-- A group that is open: its kind, where it was opened, the choices that are complete,
and the items of the current one, last item first. -/
structure Frame where
  kind : GroupKind
  opened : Nat
  choices : List Pattern
  items : List Item

namespace Frame

/-- A group that was opened at a position. -/
def start (kind : GroupKind) (position : Nat) : Frame :=
  ⟨kind, position, [], []⟩

/-- The items of the current choice in sequence.  All that comes before an item is matched
as one, so that the item goes on from each place only once. -/
def current (frame : Frame) : Pattern :=
  frame.items.foldr (fun item before =>
    match before with
    | .empty => item.pattern
    | before => .sequence before item.pattern) .empty

/-- Begins another choice. -/
def otherwise (frame : Frame) : Frame :=
  { frame with choices := frame.current :: frame.choices, items := [] }

/-- The choices of the group. -/
def close (frame : Frame) : Pattern :=
  frame.kind.wrap (frame.choices.foldl (fun rest choice => .either choice rest) frame.current)

def push (frame : Frame) (kind : ItemKind) (pattern : Pattern) : Frame :=
  { frame with items := ⟨pattern, kind⟩ :: frame.items }

/-- Repeats the last item. -/
def repeatLast (frame : Frame) (position least : Nat) (most : Option Nat)
    (preference : Preference) : Except Fault Frame :=
  match frame.items with
  | [] => .error (.nothingToRepeat position)
  | item :: others =>
      match item.kind with
      | .anchor => .error (.nothingToRepeat position)
      | .repeated => .error (.repeatedTwice position)
      | .plain =>
          .ok { frame with
            items := ⟨.times item.pattern least most preference, .repeated⟩ :: others }

end Frame

/-! ## Escapes and sets -/

/-- The set that a letter after a backslash names. -/
def classEscape? (c : Char) : Option CharSet :=
  match c with
  | 'd' => some .digit
  | 'D' => some (.complement .digit)
  | 's' => some .blank
  | 'S' => some (.complement .blank)
  | 'w' => some .word
  | 'W' => some (.complement .word)
  | _ => none

/-- The character that a letter after a backslash names; punctuation names itself. -/
def charEscape? (c : Char) : Option Char :=
  match c with
  | 'n' => some '\n'
  | 't' => some '\t'
  | 'r' => some '\r'
  | 'f' => some '\x0c'
  | 'v' => some '\x0b'
  | 'a' => some '\x07'
  | c => if c.isAlphanum then none else some c

/-- The anchor that a letter after a backslash names. -/
def anchorEscape? (c : Char) : Option Pattern :=
  match c with
  | 'A' => some .atStart
  | 'Z' => some .atVeryEnd
  | 'b' => some (.wordEdge true)
  | 'B' => some (.wordEdge false)
  | _ => none

/-- A member of a set as it was written, and what it stands for. -/
structure SetMember where
  written : List Char
  set : CharSet

/-- One member of a set: a character, or an escape. -/
def setMember (opened position : Nat) :
    List Char → Except Fault (SetMember × List Char)
  | [] => .error (.openSet opened)
  | '\\' :: [] => .error (.escapeAtEnd position)
  | '\\' :: c :: rest =>
      match classEscape? c, charEscape? c with
      | some set, _ => .ok (⟨['\\', c], set⟩, rest)
      | none, some d => .ok (⟨['\\', c], .only d⟩, rest)
      | none, none =>
          if c = 'b' then .ok (⟨['\\', c], .only '\x08'⟩, rest) else .error (.badEscape c position)
  | c :: rest => .ok (⟨[c], .only c⟩, rest)

/-- Two members with a dash between them. -/
def rangeOf (low high : SetMember) (position : Nat) : Except Fault CharSet :=
  match low.set, high.set with
  | .only first, .only last =>
      if first ≤ last then .ok (.range first last) else .error (fault low high)
  | _, _ => .error (fault low high)
where
  fault (low high : SetMember) : Fault :=
    .badRange (String.ofList (low.written ++ '-' :: high.written)) position

/-- The members of a set up to its closing bracket.  A bracket closes the set unless it
is the first member. -/
def setMembers (opened : Nat) : Nat → Bool → Nat → CharSet → List Char →
    Except Fault (CharSet × Nat × List Char)
  | 0, _, _, _, _ => .error (.openSet opened)
  | fuel + 1, isFirst, position, sofar, chars => do
      match isFirst, chars with
      | false, ']' :: rest => return (sofar, position + 1, rest)
      | _, _ =>
          let (low, rest) ← setMember opened position chars
          let after := position + low.written.length
          match rest with
          | '-' :: ']' :: rest =>
              return (.either sofar (.either low.set (.only '-')), after + 2, rest)
          | '-' :: rest =>
              let (high, rest) ← setMember opened (after + 1) rest
              let range ← rangeOf low high position
              setMembers opened fuel false (after + 1 + high.written.length)
                (.either sofar range) rest
          | rest => setMembers opened fuel false after (.either sofar low.set) rest

/-- A set after its opening bracket. -/
def charSet (opened : Nat) (chars : List Char) : Except Fault (CharSet × Nat × List Char) :=
  match chars with
  | '^' :: rest =>
      (setMembers opened (rest.length + 1) true (opened + 2) .nothing rest).map
        fun (set, after) => (.complement set, after)
  | chars => setMembers opened (chars.length + 1) true (opened + 1) .nothing chars

/-! ## Repetition counts -/

/-- The number that digits stand for. -/
def numberOf (digits : List Char) : Nat :=
  digits.foldl (fun n c => 10 * n + (c.toNat - 48)) 0

/-- The counts between braces, after the opening one: how many characters they take, the
least count and the most; `none` if this is no count. -/
def counts? (chars : List Char) : Option (Nat × Nat × Option Nat × List Char) :=
  let low := chars.takeWhile Char.isDigit
  let rest := chars.dropWhile Char.isDigit
  let least := numberOf low
  match rest with
  | '}' :: rest => if low.isEmpty then none else some (low.length + 1, least, some least, rest)
  | ',' :: rest =>
      let high := rest.takeWhile Char.isDigit
      let most := if high.isEmpty then none else some (numberOf high)
      match rest.dropWhile Char.isDigit with
      | '}' :: rest => some (low.length + high.length + 2, least, most, rest)
      | _ => none
  | _ => none

/-- The bound of counts. -/
def countLimit : Nat := Nat.pow 2 32 - 1

/-- Refuses counts that are too large, and a most that is less than the least. -/
def checkCounts (position least : Nat) (most : Option Nat) : Except Fault Unit :=
  if countLimit ≤ least ∨ most.any (countLimit ≤ ·) then .error .countTooLarge
  else if most.any (· < least) then .error (.repeatOrder position)
  else .ok ()

/-- The preference that a mark after a repetition names, and how long the mark is. -/
def preference (chars : List Char) : Preference × Nat × List Char :=
  match chars with
  | '?' :: rest => (.fewer, 1, rest)
  | '+' :: rest => (.all, 1, rest)
  | chars => (.more, 0, chars)

/-! ## The loop -/

/-- The way that a repetition sign names: least count and most. -/
def sign? (c : Char) : Option (Nat × Option Nat) :=
  match c with
  | '*' => some (0, none)
  | '+' => some (1, none)
  | '?' => some (0, some 1)
  | _ => none

/-- The kind of group that a character behind an opening parenthesis and a question mark
names. -/
def groupKind? (c : Char) : Option GroupKind :=
  match c with
  | ':' => some .plain
  | '>' => some .committed
  | '=' => some (.ahead true)
  | '!' => some (.ahead false)
  | _ => none

/-- What is wrong with a group that starts like one of another kind. -/
def extensionFault (position : Nat) (chars : List Char) : Fault :=
  match chars with
  | [] => .unexpectedEnd (position + 2)
  | '\\' :: c :: _ => .unknownExtension (String.ofList ['\\', c]) (position + 1)
  | c :: _ => .unknownExtension c.toString (position + 1)

/-- Reads on, with the innermost open group first and the others after it. -/
def loop : Nat → Nat → Frame → List Frame → List Char → Except Fault Pattern
  | 0, _, frame, _, _ => .ok frame.close
  | fuel + 1, position, frame, outer, chars => do
      match chars with
      | [] => if outer.isEmpty then return frame.close else throw (.openGroup frame.opened)
      | '(' :: '?' :: rest =>
          match rest.head?.bind groupKind? with
          | some kind => loop fuel (position + 3) (.start kind position) (frame :: outer) rest.tail
          | none => throw (extensionFault position rest)
      | '(' :: rest => loop fuel (position + 1) (.start .plain position) (frame :: outer) rest
      | ')' :: rest =>
          match outer with
          | [] => throw (.strayParenthesis position)
          | below :: outer =>
              loop fuel (position + 1) (below.push .plain frame.close) outer rest
      | '|' :: rest => loop fuel (position + 1) frame.otherwise outer rest
      | '^' :: rest => loop fuel (position + 1) (frame.push .anchor .atStart) outer rest
      | '$' :: rest => loop fuel (position + 1) (frame.push .anchor .atEnd) outer rest
      | '.' :: rest => loop fuel (position + 1) (frame.push .plain (.one .any)) outer rest
      | '[' :: rest =>
          let (set, after, rest) ← charSet position rest
          loop fuel after (frame.push .plain (.one set)) outer rest
      | '\\' :: [] => throw (.escapeAtEnd position)
      | '\\' :: c :: rest =>
          match anchorEscape? c, classEscape? c, charEscape? c with
          | some anchor, _, _ => loop fuel (position + 2) (frame.push .anchor anchor) outer rest
          | none, some set, _ => loop fuel (position + 2) (frame.push .plain (.one set)) outer rest
          | none, none, some d =>
              loop fuel (position + 2) (frame.push .plain (.one (.only d))) outer rest
          | none, none, none => throw (.badEscape c position)
      | '{' :: rest =>
          match counts? rest with
          | none => loop fuel (position + 1) (frame.push .plain (.one (.only '{'))) outer rest
          | some (width, least, most, rest) =>
              checkCounts (position + 1) least most
              let (preference, extra, rest) := preference rest
              let frame ← frame.repeatLast position least most preference
              loop fuel (position + 1 + width + extra) frame outer rest
      | c :: rest =>
          match sign? c with
          | some (least, most) =>
              let (preference, extra, rest) := preference rest
              let frame ← frame.repeatLast position least most preference
              loop fuel (position + 1 + extra) frame outer rest
          | none => loop fuel (position + 1) (frame.push .plain (.one (.only c))) outer rest

/-- The pattern that a text stands for, or the first fault in it. -/
def parse (text : String) : Except Fault Pattern :=
  let chars := text.toList
  loop (chars.length + 1) 0 (.start .plain 0) [] chars

end IndexSnapshot.Pattern
