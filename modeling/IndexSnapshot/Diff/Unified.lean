/-
# IndexSnapshot.Diff.Unified -- differences as text

A difference is shown as hunks: changes with up to three shared lines before and
behind them.  Changes that are closer together share a hunk.  A hunk begins with the
ranges of old and new lines that it covers.

* `hunks` are the hunks of an alignment; `unified` is the whole text, in the pieces in
  which it is written.
-/
import IndexSnapshot.Diff.Alignment
import IndexSnapshot.Text.Lines

namespace IndexSnapshot.Diff

set_option autoImplicit false

/-- How many shared lines are shown around a change. -/
def context : Nat := 3

/-! ## Hunks -/

/-- Stretches with the numbers of old and new lines before them. -/
structure Hunk where
  oldStart : Nat
  newStart : Nat
  pieces : List Piece
  deriving DecidableEq, Repr

namespace Hunk

def oldSize (h : Hunk) : Nat :=
  (h.pieces.flatMap Piece.olds).length

def newSize (h : Hunk) : Nat :=
  (h.pieces.flatMap Piece.news).length

/-- The same hunk with one more stretch behind the others. -/
def push (h : Hunk) (piece : Piece) : Hunk :=
  { h with pieces := h.pieces ++ [piece] }

end Hunk

/-- The last lines of a list, as many as are shown around a change. -/
def lastLines (lines : List String) : List String :=
  lines.drop (lines.length - context)

/-- Shared lines at the start are cut down to those that are shown; the result is a hunk
that has just begun, and the stretches that are still to come. -/
def opening : List Piece → Hunk × List Piece
  | .same lines :: rest =>
      let skipped := lines.length - context
      (⟨skipped, skipped, [.same (lastLines lines)]⟩, rest)
  | pieces => (⟨0, 0, []⟩, pieces)

/-- Goes on with a hunk.  Shared lines at the end are cut down; shared lines that are too
many to be shown in full end the hunk and begin the next one. -/
def hunksFrom (h : Hunk) : List Piece → List Hunk
  | [] => [h]
  | [.same lines] => [h.push (.same (lines.take context))]
  | .same lines :: rest =>
      if 2 * context < lines.length then
        let skipped := lines.length - context
        h.push (.same (lines.take context)) ::
          hunksFrom
            ⟨h.oldStart + h.oldSize + skipped, h.newStart + h.newSize + skipped,
              [.same (lastLines lines)]⟩ rest
      else hunksFrom (h.push (.same lines)) rest
  | piece :: rest => hunksFrom (h.push piece) rest

/-- A stretch in which something changes. -/
def isChange : Piece → Bool
  | .same _ => false
  | .change _ _ => true

/-- The hunks of an alignment; none if nothing changes. -/
def hunks (pieces : List Piece) : List Hunk :=
  if pieces.any isChange then
    let (first, rest) := opening pieces
    hunksFrom first rest
  else []

/-! ## Text -/

/-- A range of lines: its first line alone if it has one line, else first line and length.
An empty range is given by the line before it. -/
def range (start size : Nat) : String :=
  if size = 1 then toString (start + 1)
  else if size = 0 then toString start ++ ",0"
  else toString (start + 1) ++ "," ++ toString size

/-- The lines of a stretch, each marked as shared, removed or added. -/
def Piece.marked : Piece → List String
  | .same lines => lines.map (" " ++ ·)
  | .change removed added => removed.map ("-" ++ ·) ++ added.map ("+" ++ ·)

/-- The ranges of a hunk, then its lines. -/
def Hunk.written (h : Hunk) : List String :=
  ("@@ -" ++ range h.oldStart h.oldSize ++ " +" ++ range h.newStart h.newSize ++ " @@\n")
    :: h.pieces.flatMap Piece.marked

/-- The two names, then the hunks; nothing if nothing changes. -/
def unified (oldName newName : String) (olds news : List String) : List String :=
  match hunks (pieces olds news) with
  | [] => []
  | hunks =>
      ("--- " ++ oldName ++ "\n") :: ("+++ " ++ newName ++ "\n") :: hunks.flatMap Hunk.written

/-- How a rendered text differs from the stored one of the same name. -/
def ofTexts (stored rendered name : String) : String :=
  String.join (unified (name ++ " (stored)") (name ++ " (rendered)")
    (Text.lines stored) (Text.lines rendered))

end IndexSnapshot.Diff
