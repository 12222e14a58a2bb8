/-
# IndexSnapshot.Docids.Grid -- sets of document ids in messages

A message shows the members of a set in rows that fit into eighty characters, as columns
of one width.  A set that fits into one row has no columns, and of a large set only the
first and the last rows are shown.
-/
import IndexSnapshot.Docids.Basic

namespace IndexSnapshot

set_option autoImplicit false

namespace IdSet

/-- How many characters a row of members takes at most. -/
def rowLength : Nat := 80

/-- How many members are shown in full. -/
def shownInFull : Nat := 500

/-- How many rows at each end of a large set are shown. -/
def shownRows : Nat := 5

/-- Spaces. -/
def blanks (count : Nat) : String :=
  String.ofList (List.replicate count ' ')

/-- A text at the right end of a column. -/
def atRight (width : Nat) (text : String) : String :=
  blanks (width - text.length) ++ text

/-- Texts in rows of a number of columns.  Every row takes a text, so `fuel` is the number
of texts. -/
def rowsOf (columns : Nat) : Nat → List String → List (List String)
  | 0, _ => []
  | _, [] => []
  | fuel + 1, texts => texts.take columns :: rowsOf columns fuel (texts.drop columns)

def opening : String := "BitMap(["

/-- Rows below each other, behind the opening. -/
def stacked (rows : List (List String)) : String :=
  (",\n" ++ blanks opening.length).intercalate (rows.map fun row => ", ".intercalate row)

/-- What stands in place of the rows that are not shown. -/
def gap : String :=
  ",\n" ++ blanks ((rowLength + opening.length) / 2) ++ "...\n" ++ blanks opening.length

/-- The set in a message. -/
def literal (s : IdSet) : String :=
  let texts := s.toList.map fun i => toString i.toNat
  let width := (texts.getLast?.map String.length).getD 0
  let columns := rowLength / (width + 2)
  let members :=
    if texts.length ≤ columns then ", ".intercalate texts
    else
      let rows := rowsOf columns texts.length (texts.map (atRight width))
      if texts.length ≤ shownInFull then stacked rows
      else
        stacked (rows.take shownRows) ++ gap ++ stacked (rows.drop (rows.length - shownRows))
  opening ++ members ++ "])"

end IdSet

end IndexSnapshot
