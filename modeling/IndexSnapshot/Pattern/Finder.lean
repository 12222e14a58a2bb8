/-
# IndexSnapshot.Pattern.Finder -- who searches for patterns

Regular expressions are a language of their own, and this library leaves them to a finder, which
says whether a pattern is found in a text, or why a text is no pattern.  The rest of the library
works with any finder.

The program comes with one of its own, `patternFinder`.  It knows literals, sets and classes of
characters, anchors, groups, choices, all kinds of repetition and lookahead.  Named groups, back
references, lookbehind, conditions, comments, flags and characters given by their codes are
refused by it, though they are a part of the language.
-/
import IndexSnapshot.Pattern.Parser
import IndexSnapshot.Pattern.Search

namespace IndexSnapshot.Pattern

set_option autoImplicit false

/-- A finder of patterns. -/
class Finder where
  /-- Whether the pattern is found somewhere in the text. -/
  find : (pattern text : String) → Except Fault Bool

/-- The finder that the program comes with. -/
instance (priority := low) patternFinder : Finder where
  find pattern text := (parse pattern).map fun pattern => pattern.search text

end IndexSnapshot.Pattern
