/-
# IndexSnapshot.Text.Dedent -- removing common indentation

A literal inside a test is indented with the test.  Its margin is the longest run of
spaces and tabs with which every line starts that has anything else; the margin is
taken off these lines, and the other lines become empty.
-/
import IndexSnapshot.Text.Blank
import IndexSnapshot.Text.Lines

namespace IndexSnapshot.Text

set_option autoImplicit false

/-- A character of indentation. -/
def isIndent (c : Char) : Bool :=
  c == ' ' || c == '\t'

/-- The indentation of a line. -/
def indentOf (line : List Char) : List Char :=
  line.takeWhile isIndent

/-- A line with nothing but indentation becomes empty. -/
def blankLine (line : List Char) : List Char :=
  if line.all isIndent then [] else line

/-- The longest start that two lists share. -/
def commonStart : List Char → List Char → List Char
  | a :: as, b :: bs => if a = b then a :: commonStart as bs else []
  | _, _ => []

/-- The longest indentation that all the lines share, the empty ones aside. -/
def margin : List (List Char) → List Char
  | [] => []
  | [] :: rest => margin rest
  | line :: rest =>
      (rest.filter (!·.isEmpty)).foldl (fun shared other => commonStart shared (indentOf other))
        (indentOf line)

/-- The lines without their margin. -/
def dedentLines (lines : List (List Char)) : List (List Char) :=
  let lines := lines.map blankLine
  lines.map (List.drop (margin lines).length)

/-- A text without its margin. -/
def dedent (chars : List Char) : List Char :=
  joinNewlines (dedentLines (splitNewlines chars))

/-- What an inline literal stands for: the text without its margin and without line
feeds at its ends. -/
def normalizeInline (text : String) : String :=
  String.ofList (stripNewlines (dedent text.toList))

end IndexSnapshot.Text
