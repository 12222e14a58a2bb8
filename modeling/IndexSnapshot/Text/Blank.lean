/-
# IndexSnapshot.Text.Blank -- white space and letter case

White space is every character that separates words: the space and the control
characters of lines and pages, the four separators from U+001C on, the next line
character, and the spaces and separators of general punctuation.  The zero width
space and the byte order mark are not among them.
-/

namespace IndexSnapshot.Text

set_option autoImplicit false

/-- White space. -/
def isBlank (c : Char) : Bool :=
  let n := c.toNat
  (0x09 ≤ n && n ≤ 0x0D) || (0x1C ≤ n && n ≤ 0x20) || n == 0x85 || n == 0xA0 || n == 0x1680
    || (0x2000 ≤ n && n ≤ 0x200A) || n == 0x2028 || n == 0x2029 || n == 0x202F || n == 0x205F
    || n == 0x3000

/-- Drops the characters of a class from both ends. -/
def stripWhere (drop : Char → Bool) (chars : List Char) : List Char :=
  ((chars.dropWhile drop).reverse.dropWhile drop).reverse

/-- Drops white space from both ends. -/
def strip (chars : List Char) : List Char :=
  stripWhere isBlank chars

/-- Drops line feeds from both ends. -/
def stripNewlines (chars : List Char) : List Char :=
  stripWhere (· == '\n') chars

/-- A text with its Latin capitals made small. -/
def lower (chars : List Char) : List Char :=
  chars.map Char.toLower

theorem isBlank_of_isWhitespace {c : Char} (h : c.isWhitespace = true) : isBlank c = true := by
  simp only [Char.isWhitespace, Bool.or_eq_true, decide_eq_true_eq] at h
  rcases h with ((rfl | rfl) | rfl) | rfl <;> decide

end IndexSnapshot.Text
