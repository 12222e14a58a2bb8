/-
# IndexSnapshot.Diff.Alignment -- what two texts share

Two lists of lines are aligned by their longest common block, and then what stands
before it and what stands behind it are aligned in the same way.  Of several longest
blocks the first one in the old lines counts, and of these the first in the new lines.

A line that is very common in a long new text says little about what belongs together,
so it cannot begin a block; but a block that has been found grows over any equal lines
at its two ends.

* `align` is the alignment: stretches that both lists share, and stretches in between.
  A block is taken only if its lines are really the same, so nothing about the search
  has to be believed.
-/

namespace IndexSnapshot.Diff

set_option autoImplicit false

/-! ## Common lines -/

/-- From this many new lines on, common lines are set aside. -/
def longText : Nat := 200

/-- A new line, and whether it may begin a block. -/
structure NewLine where
  text : String
  seeds : Bool
  deriving DecidableEq, Repr

/-- The new lines: in a long text those that make up more than a hundredth of it, and one
more, may not begin a block. -/
def markCommon (news : List String) : List NewLine :=
  let limit := news.length / 100 + 1
  news.map fun text => ⟨text, news.length < longText || news.count text ≤ limit⟩

/-! ## The longest common block -/

/-- A block: where it starts in the old lines and in the new ones, and its length. -/
structure Block where
  oldAt : Nat
  newAt : Nat
  size : Nat
  deriving DecidableEq, Repr

/-- For each new line, how long the block is that ends with it and with `old`; `before`
holds the same for the old line before. -/
def blockSizes (old : String) (news : List NewLine) (before : List Nat) : List Nat :=
  List.zipWith (fun new size => if new.seeds && new.text == old then size + 1 else 0)
    news (0 :: before)

/-- The longest block seen, after the blocks that end with the old line `i` and with the
new lines from `j` on. -/
def longer (i : Nat) : Nat → List Nat → Block → Block
  | _, [], best => best
  | j, size :: rest, best =>
      longer i (j + 1) rest (if best.size < size then ⟨i + 1 - size, j + 1 - size, size⟩ else best)

/-- The longest block of lines that may begin one, from the old line `i` on. -/
def longestSeeded (news : List NewLine) : Nat → List String → List Nat → Block → Block
  | _, [], _, best => best
  | i, old :: olds, before, best =>
      let sizes := blockSizes old news before
      longestSeeded news (i + 1) olds sizes (longer i 0 sizes best)

/-- How many lines two lists share at their start. -/
def sharedLength : List String → List NewLine → Nat
  | old :: olds, new :: news => if old = new.text then sharedLength olds news + 1 else 0
  | _, _ => 0

/-- The block with all equal lines around it. -/
def grow (olds : List String) (news : List NewLine) (b : Block) : Block :=
  let left := sharedLength (olds.take b.oldAt).reverse (news.take b.newAt).reverse
  let right := sharedLength (olds.drop (b.oldAt + b.size)) (news.drop (b.newAt + b.size))
  ⟨b.oldAt - left, b.newAt - left, left + b.size + right⟩

/-- The block by which the lines are aligned; of length zero if there is none. -/
def longestBlock (olds : List String) (news : List NewLine) : Block :=
  grow olds news (longestSeeded news 0 olds (List.replicate news.length 0) ⟨0, 0, 0⟩)

/-! ## Alignment -/

/-- A stretch of an alignment. -/
inductive Piece where
  | same (lines : List String)
  | change (removed added : List String)
  deriving DecidableEq, Repr

namespace Piece

/-- The old lines of the stretch. -/
def olds : Piece → List String
  | .same lines => lines
  | .change removed _ => removed

/-- The new lines of the stretch. -/
def news : Piece → List String
  | .same lines => lines
  | .change _ added => added

end Piece

/-- The lines of a list from a place on. -/
def slice {α : Type} (start size : Nat) (lines : List α) : List α :=
  (lines.drop start).take size

/-- Whether a block has lines, lies within the old lines, and is the same in both lists. -/
def Block.Holds (b : Block) (olds : List String) (news : List NewLine) : Prop :=
  0 < b.size ∧ b.oldAt + b.size ≤ olds.length ∧
    slice b.oldAt b.size olds = (slice b.newAt b.size news).map NewLine.text

instance (b : Block) (olds : List String) (news : List NewLine) :
    Decidable (b.Holds olds news) :=
  inferInstanceAs (Decidable (_ ∧ _ ∧ _))

/-- The stretches of two lists: the longest block, and what is before and behind it. -/
def align (olds : List String) (news : List NewLine) : List Piece :=
  let b := longestBlock olds news
  if _h : b.Holds olds news then
    align (olds.take b.oldAt) (news.take b.newAt)
      ++ .same (slice b.oldAt b.size olds)
      :: align (olds.drop (b.oldAt + b.size)) (news.drop (b.newAt + b.size))
  else [.change olds (news.map NewLine.text)]
termination_by olds.length
decreasing_by
  · have some_ : 0 < (longestBlock olds news).size := _h.1
    have within : (longestBlock olds news).oldAt + (longestBlock olds news).size ≤ olds.length :=
      _h.2.1
    simp only [List.length_take]
    omega
  · have some_ : 0 < (longestBlock olds news).size := _h.1
    have within : (longestBlock olds news).oldAt + (longestBlock olds news).size ≤ olds.length :=
      _h.2.1
    simp only [List.length_drop]
    omega

/-- Puts a stretch in front of others: an empty change vanishes, and shared lines join
shared lines. -/
def consPiece (piece : Piece) (pieces : List Piece) : List Piece :=
  match piece, pieces with
  | .change [] [], pieces => pieces
  | .same lines, .same more :: rest => .same (lines ++ more) :: rest
  | piece, pieces => piece :: pieces

/-- The alignment of two texts, line by line: shared stretches and changes in turn. -/
def pieces (olds news : List String) : List Piece :=
  (align olds (markCommon news)).foldr consPiece []

end IndexSnapshot.Diff
