/-
# IndexSnapshot.Pattern.Syntax -- patterns over names

A pattern selects names.  It is built from character sets, anchors, sequence, choice
and repetition.  `Pattern.Fault` lists why a text is no pattern, and where.
-/

namespace IndexSnapshot

set_option autoImplicit false

/-- A set of characters. -/
inductive CharSet where
  | nothing
  /-- Every character that does not end a line. -/
  | any
  | only (c : Char)
  | range (first last : Char)
  | digit
  | blank
  | word
  | either (s t : CharSet)
  | complement (s : CharSet)
  deriving DecidableEq, Repr

namespace CharSet

/-- Letters, digits and the underscore. -/
def isWord (c : Char) : Bool :=
  c.isAlphanum || c == '_'

/-- Whether a character is in the set.  Names are ASCII, and so are these classes. -/
def contains : CharSet → Char → Bool
  | .nothing, _ => false
  | .any, c => c != '\n'
  | .only d, c => c == d
  | .range first last, c => first ≤ c && c ≤ last
  | .digit, c => c.isDigit
  | .blank, c => c == ' ' || ('\t' ≤ c && c ≤ '\r')
  | .word, c => isWord c
  | .either s t, c => s.contains c || t.contains c
  | .complement s, c => !s.contains c

end CharSet

/-- Which number of repetitions is preferred to others. -/
inductive Preference where
  | more
  | fewer
  /-- As many as there are; no smaller number is tried. -/
  | all
  deriving DecidableEq, Repr

/-- A pattern. -/
inductive Pattern where
  | empty
  | one (set : CharSet)
  | atStart
  /-- At the end, or before a line feed at the end. -/
  | atEnd
  /-- At the very end. -/
  | atVeryEnd
  /-- Between a word character and another one, or (if not `inside`) not there. -/
  | wordEdge (inside : Bool)
  | sequence (p q : Pattern)
  | either (p q : Pattern)
  /-- At least `least` times in a row, and at most `most` times if that is given. -/
  | times (p : Pattern) (least : Nat) (most : Option Nat) (preference : Preference)
  /-- The preferred match alone. -/
  | committed (p : Pattern)
  /-- Before a match, or (if not `isThere`) not before one. -/
  | ahead (isThere : Bool) (p : Pattern)
  deriving DecidableEq, Repr

namespace Pattern

/-- Why a text is no pattern; each with the position of the offending part. -/
inductive Fault where
  | openGroup (position : Nat)
  | openSet (position : Nat)
  | strayParenthesis (position : Nat)
  | nothingToRepeat (position : Nat)
  | repeatedTwice (position : Nat)
  | repeatOrder (position : Nat)
  /-- A count does not fit into 32 bits, or is the greatest that does. -/
  | countTooLarge
  | unexpectedEnd (position : Nat)
  | badEscape (c : Char) (position : Nat)
  | escapeAtEnd (position : Nat)
  | badRange (text : String) (position : Nat)
  | unknownExtension (text : String) (position : Nat)
  deriving DecidableEq, Repr

def Fault.message : Fault → String
  | .openGroup n => place "missing ), unterminated subpattern" n
  | .openSet n => place "unterminated character set" n
  | .strayParenthesis n => place "unbalanced parenthesis" n
  | .nothingToRepeat n => place "nothing to repeat" n
  | .repeatedTwice n => place "multiple repeat" n
  | .repeatOrder n => place "min repeat greater than max repeat" n
  | .countTooLarge => "the repetition number is too large"
  | .unexpectedEnd n => place "unexpected end of pattern" n
  | .badEscape c n => place ("bad escape \\" ++ c.toString) n
  | .escapeAtEnd n => place "bad escape (end of pattern)" n
  | .badRange text n => place ("bad character range " ++ text) n
  | .unknownExtension text n => place ("unknown extension ?" ++ text) n
where
  place (what : String) (position : Nat) : String :=
    what ++ " at position " ++ toString position

end Pattern

end IndexSnapshot
