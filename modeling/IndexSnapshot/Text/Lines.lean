/-
# IndexSnapshot.Text.Lines -- cutting a text into lines

Two notions of line are in use.  Diffs cut a text after every line boundary: line
feed, carriage return or both, the vertical tab and form feed, the separators from
U+001C to U+001E, the next line character, and the two separators of general
punctuation.  Indentation is a matter of line feeds alone.

* `keepEnds` cuts at every boundary and leaves it at the end of its line;
  `flatten_keepEnds` says that nothing is lost.
* `splitNewlines` cuts at line feeds and drops them; `joinNewlines` puts them back.
* `universal` turns carriage returns, with or without a line feed, into line feeds.
-/

namespace IndexSnapshot.Text

set_option autoImplicit false

/-! ## Every line boundary -/

/-- A character that ends a line. -/
def isBoundary (c : Char) : Bool :=
  let n := c.toNat
  (0x0A ≤ n && n ≤ 0x0D) || (0x1C ≤ n && n ≤ 0x1E) || n == 0x85 || n == 0x2028 || n == 0x2029

/-- Puts a character in front of lines: at the start of the first one, or as a line of
its own if it is a boundary.  A carriage return stays with a line feed after it. -/
def consLine (c : Char) (lines : List (List Char)) : List (List Char) :=
  match lines with
  | [] => [[c]]
  | line :: rest =>
      if isBoundary c && !(c == '\r' && line == ['\n']) then [c] :: line :: rest
      else (c :: line) :: rest

/-- The lines of a text, each with its boundary. -/
def keepEnds (chars : List Char) : List (List Char) :=
  chars.foldr consLine []

theorem flatten_consLine (c : Char) (lines : List (List Char)) :
    (consLine c lines).flatten = c :: lines.flatten := by
  cases lines with
  | nil => rfl
  | cons line rest =>
      unfold consLine
      split <;> simp_all
      split <;> simp

theorem flatten_keepEnds (chars : List Char) : (keepEnds chars).flatten = chars := by
  induction chars with
  | nil => rfl
  | cons c rest ih =>
      show (consLine c (keepEnds rest)).flatten = _
      rw [flatten_consLine, ih]

/-- The lines of a text as texts. -/
def lines (text : String) : List String :=
  (keepEnds text.toList).map String.ofList

/-! ## Line feeds alone -/

/-- Puts a character in front of lines that line feeds separate. -/
def consNewline (c : Char) (lines : List (List Char)) : List (List Char) :=
  match lines with
  | [] => [[c]]
  | line :: rest => if c = '\n' then [] :: line :: rest else (c :: line) :: rest

/-- What stands between line feeds. -/
def splitNewlines (chars : List Char) : List (List Char) :=
  chars.foldr consNewline [[]]

/-- Lines with a line feed between each two. -/
def joinNewlines (lines : List (List Char)) : List Char :=
  ['\n'].intercalate lines

/-! ## Carriage returns -/

/-- Adds a character to a text that is kept in reverse; the flag says whether the last
character was a carriage return, whose line feed has been written already. -/
def addUniversal (sofar : List Char × Bool) (c : Char) : List Char × Bool :=
  if c = '\r' then ('\n' :: sofar.1, true)
  else if c = '\n' ∧ sofar.2 = true then (sofar.1, false)
  else (c :: sofar.1, false)

/-- Line feeds instead of carriage returns, and instead of pairs of both. -/
def universal (chars : List Char) : List Char :=
  (chars.foldl addUniversal ([], false)).1.reverse

end IndexSnapshot.Text
