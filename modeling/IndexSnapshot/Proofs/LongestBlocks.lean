/-
# IndexSnapshot.Proofs.LongestBlocks -- the search finds the first of the longest blocks

For every old line and every new one there is the block that ends with them: as many equal lines
back from both as may begin a block.  The search looks at these blocks line by line, and keeps the
first of the longest ones.  What it finds and then lets grow is the same on both sides, so the
check that is made before a block is taken never turns one away; and where both sides are the
same, the block is all of them, whichever lines are too common to begin one.

* `longestSeeded_eq_firstLongest`: the lengths that are kept from one old line to the next are
  those of the blocks.
* `firstLongest_cases`: which block is kept.
* `holds_longestBlock_iff`: a block holds if it has lines.
* `longestBlock_self`: of equal lists all lines are the block.
-/
import IndexSnapshot.Diff.Alignment
import Mathlib.Data.List.ProdSigma

namespace IndexSnapshot.Diff

set_option autoImplicit false

variable {olds : List String} {news : List NewLine}

/-! ## Lines shared at the start -/

/-- How many lines two lists share at their start, all of which may begin a block. -/
def seededLength : List String → List NewLine → Nat
  | old :: olds, new :: news =>
      if new.seeds && new.text == old then seededLength olds news + 1 else 0
  | _, _ => 0

@[simp] theorem seededLength_nil_left (news : List NewLine) : seededLength [] news = 0 := by
  cases news <;> rfl

@[simp] theorem seededLength_nil_right (olds : List String) : seededLength olds [] = 0 := by
  cases olds <;> rfl

/-- Two lists begin with the lines that they share, or with fewer of them. -/
theorem exists_shared {count : Nat} (few : count ≤ sharedLength olds news) :
    ∃ lines rest rest', olds = lines.map NewLine.text ++ rest ∧ news = lines ++ rest' ∧
      lines.length = count := by
  induction olds generalizing news count with
  | nil =>
      have none_ : sharedLength [] news = 0 := by cases news <;> rfl
      rw [none_, Nat.le_zero] at few
      exact ⟨[], [], news, rfl, rfl, few.symm⟩
  | cons old olds ih =>
      cases count with
      | zero => exact ⟨[], old :: olds, news, rfl, rfl, rfl⟩
      | succ count =>
          cases news with
          | nil => simp [sharedLength] at few
          | cons new news =>
              rw [sharedLength] at few
              split at few
              case isTrue same =>
                obtain ⟨lines, rest, rest', olds_eq, news_eq, size⟩ :=
                  ih (Nat.le_of_succ_le_succ few)
                exact ⟨new :: lines, rest, rest', by rw [olds_eq, same]; rfl, by rw [news_eq]; rfl,
                  congrArg Nat.succ size⟩
              case isFalse => cases few

theorem seededLength_le_sharedLength (olds : List String) (news : List NewLine) :
    seededLength olds news ≤ sharedLength olds news := by
  induction olds generalizing news with
  | nil => simp
  | cons old olds ih =>
      cases news with
      | nil => simp
      | cons new news =>
          rw [seededLength, sharedLength]
          split
          case isTrue both =>
            rw [Bool.and_eq_true, beq_iff_eq] at both
            rw [if_pos both.2.symm]
            exact Nat.succ_le_succ (ih news)
          case isFalse => exact Nat.zero_le _

/-! ## Blocks by their last lines -/

/-- The length of the block that ends with an old line and a new one. -/
def sizeAt (olds : List String) (news : List NewLine) (cell : Nat × Nat) : Nat :=
  seededLength (olds.take (cell.1 + 1)).reverse (news.take (cell.2 + 1)).reverse

/-- The block that ends with an old line and a new one. -/
def blockAt (olds : List String) (news : List NewLine) (cell : Nat × Nat) : Block :=
  let size := sizeAt olds news cell
  ⟨cell.1 + 1 - size, cell.2 + 1 - size, size⟩

/-- The lengths of the blocks that end with the first of `seen`, which are old lines in reverse. -/
def sizesOf (seen : List String) (news : List NewLine) : List Nat :=
  (List.range news.length).map fun j => seededLength seen (news.take (j + 1)).reverse

theorem sizesOf_nil (news : List NewLine) : sizesOf [] news = List.replicate news.length 0 := by
  simp [sizesOf, List.map_const']

/-- The lengths of one old line give those of the next. -/
theorem blockSizes_sizesOf (old : String) (seen : List String) (news : List NewLine) :
    blockSizes old news (sizesOf seen news) = sizesOf (old :: seen) news := by
  apply List.ext_getElem
  · simp [blockSizes, sizesOf]
  · intro j inSizes inLines
    have within : j < news.length := by simpa [sizesOf] using inLines
    have before (within : j < (0 :: sizesOf seen news).length) :
        (0 :: sizesOf seen news)[j] = seededLength seen (news.take j).reverse := by
      cases j with
      | zero => simp
      | succ j => simp [sizesOf]
    have reversed : (news.take (j + 1)).reverse = news[j] :: (news.take j).reverse := by
      rw [List.take_succ_eq_append_getElem within, List.reverse_append]
      rfl
    simp only [blockSizes, List.getElem_zipWith, before]
    simp only [sizesOf, List.getElem_map, List.getElem_range, reversed, seededLength]

/-! ## The first of the longest blocks -/

/-- Of two blocks the longer one; of equally long ones the one that came first. -/
def firstLonger (best b : Block) : Block :=
  if best.size < b.size then b else best

/-- The first of the longest blocks. -/
def firstLongest (best : Block) (blocks : List Block) : Block :=
  blocks.foldl firstLonger best

/-- **Nothing is longer than the block that is kept**, and what came before it is shorter. -/
theorem firstLongest_cases (best : Block) (blocks : List Block) :
    (firstLongest best blocks = best ∧ ∀ b ∈ blocks, b.size ≤ best.size) ∨
    ∃ before after, blocks = before ++ firstLongest best blocks :: after ∧
      (∀ b ∈ best :: before, b.size < (firstLongest best blocks).size) ∧
      ∀ b ∈ after, b.size ≤ (firstLongest best blocks).size := by
  induction blocks generalizing best with
  | nil => exact .inl ⟨rfl, by simp⟩
  | cons first rest ih =>
      have step : firstLongest best (first :: rest) = firstLongest (firstLonger best first) rest :=
        rfl
      rw [step]
      by_cases longer : best.size < first.size
      · have kept : firstLonger best first = first := if_pos longer
        rw [kept]
        right
        rcases ih first with ⟨same, others⟩ | ⟨before, after, cut, shorter, others⟩
        · rw [same]
          exact ⟨[], rest, rfl, by simpa using longer, others⟩
        · refine ⟨first :: before, after, by rw [List.cons_append, ← cut], ?_, others⟩
          have least := shorter first List.mem_cons_self
          exact List.forall_mem_cons.2 ⟨by omega, shorter⟩
      · have kept : firstLonger best first = best := if_neg longer
        rw [kept]
        rcases ih best with ⟨same, others⟩ | ⟨before, after, cut, shorter, others⟩
        · exact .inl ⟨same, List.forall_mem_cons.2 ⟨by omega, others⟩⟩
        · right
          refine ⟨first :: before, after, by rw [List.cons_append, ← cut], ?_, others⟩
          obtain ⟨least, shorter⟩ := List.forall_mem_cons.1 shorter
          exact List.forall_mem_cons.2 ⟨least, List.forall_mem_cons.2 ⟨by omega, shorter⟩⟩

/-- One old line adds the blocks that end with it. -/
theorem longer_eq_firstLongest (i : Nat) (size : Nat → Nat) (j count : Nat) (best : Block) :
    longer i j ((List.range' j count).map size) best
      = firstLongest best ((List.range' j count).map fun j =>
          ⟨i + 1 - size j, j + 1 - size j, size j⟩) := by
  induction count generalizing j best with
  | zero => rfl
  | succ count ih =>
      rw [List.range'_succ, List.map_cons, longer, ih]
      rfl

theorem firstLongest_append (best : Block) (blocks more : List Block) :
    firstLongest best (blocks ++ more) = firstLongest (firstLongest best blocks) more :=
  List.foldl_append

/-- The places of an old line and a new one, line by line. -/
def cells (oldCount newCount : Nat) : List (Nat × Nat) :=
  List.range oldCount ×ˢ List.range newCount

/-- The places come in the order of the old lines, and of the new lines for each of them. -/
theorem cells_pairwise (oldCount newCount : Nat) :
    (cells oldCount newCount).Pairwise fun c d => c.1 < d.1 ∨ c.1 = d.1 ∧ c.2 < d.2 := by
  refine List.pairwise_flatMap.2 ⟨fun i _ => ?_, ?_⟩
  · refine List.pairwise_map.2 (List.pairwise_lt_range.imp fun less => .inr ⟨rfl, less⟩)
  · refine List.pairwise_lt_range.imp fun less c ofFirst d ofSecond => .inl ?_
    obtain ⟨_, -, rfl⟩ := List.mem_map.1 ofFirst
    obtain ⟨_, -, rfl⟩ := List.mem_map.1 ofSecond
    exact less

/-- **The search keeps the first of the longest blocks.** -/
theorem longestSeeded_eq_firstLongest (olds : List String) (news : List NewLine) (best : Block) :
    longestSeeded news 0 olds (List.replicate news.length 0) best
      = firstLongest best ((cells olds.length news.length).map (blockAt olds news)) := by
  -- the lines that have been looked at are kept in reverse, as the lengths of blocks need them
  have all (seen rest : List String) (best : Block) (whole : seen.reverse ++ rest = olds) :
      longestSeeded news seen.length rest (sizesOf seen news) best
        = firstLongest best ((List.range' seen.length rest.length ×ˢ
            List.range news.length).map (blockAt olds news)) := by
    induction rest generalizing seen best with
    | nil => rfl
    | cons old rest ih =>
        have seenTo : (olds.take (seen.length + 1)).reverse = old :: seen := by
          rw [← whole, List.take_append, List.take_of_length_le (by simp)]
          simp
        have line : longer seen.length 0 (sizesOf (old :: seen) news) best
            = firstLongest best ((List.range news.length).map fun j =>
                blockAt olds news (seen.length, j)) := by
          rw [sizesOf, List.range_eq_range', longer_eq_firstLongest]
          simp only [blockAt, sizeAt, seenTo]
        have others := ih (old :: seen) (longer seen.length 0 (sizesOf (old :: seen) news) best)
          (by simpa using whole)
        rw [List.length_cons] at others
        rw [longestSeeded, blockSizes_sizesOf, others, line, ← firstLongest_append]
        rw [List.length_cons, List.range'_succ, List.product_cons, List.map_append, List.map_map]
        rfl
  have start := all [] olds best rfl
  rwa [sizesOf_nil, List.length_nil, ← List.range_eq_range'] at start

/-- The block that grows. -/
def seededBlock (olds : List String) (news : List NewLine) : Block :=
  longestSeeded news 0 olds (List.replicate news.length 0) ⟨0, 0, 0⟩

/-- The search finds nothing, or a block that is longer than all before it. -/
theorem seededBlock_cases (olds : List String) (news : List NewLine) :
    seededBlock olds news = ⟨0, 0, 0⟩ ∨
    ∃ cell ∈ cells olds.length news.length, seededBlock olds news = blockAt olds news cell ∧
      ∀ other ∈ cells olds.length news.length,
        other.1 < cell.1 ∨ other.1 = cell.1 ∧ other.2 < cell.2 →
        sizeAt olds news other < sizeAt olds news cell := by
  rw [seededBlock, longestSeeded_eq_firstLongest]
  rcases firstLongest_cases ⟨0, 0, 0⟩ ((cells olds.length news.length).map (blockAt olds news))
    with ⟨nothing, -⟩ | ⟨before, after, cut, shorter, -⟩
  · exact .inl nothing
  · right
    generalize firstLongest ⟨0, 0, 0⟩ _ = found at *
    obtain ⟨earlier, others, split, rfl, tail⟩ := List.map_eq_append_iff.1 cut
    obtain ⟨cell, later, rfl, rfl, rfl⟩ := List.map_eq_cons_iff.1 tail
    refine ⟨cell, by rw [split]; simp, rfl, fun other member first => ?_⟩
    have earlierOther : other ∈ earlier := by
      have order := cells_pairwise olds.length news.length
      rw [split, List.pairwise_append, List.pairwise_cons] at order
      rw [split, List.mem_append, List.mem_cons] at member
      rcases member with member | rfl | member
      · exact member
      · omega
      · have := order.2.1.1 other member
        omega
    exact shorter _ (List.mem_cons_of_mem _ (List.mem_map_of_mem earlierOther))

/-! ## Blocks are the same in both lists -/

/-- The lines of a block are the same in both lists. -/
def Block.Common (b : Block) (olds : List String) (news : List NewLine) : Prop :=
  ∃ before before' lines after after',
    olds = before ++ lines.map NewLine.text ++ after ∧ news = before' ++ lines ++ after' ∧
      before.length = b.oldAt ∧ before'.length = b.newAt ∧ lines.length = b.size

/-- Lines that are shared backwards from a place end there. -/
theorem exists_ending {count oldEnd newEnd : Nat}
    (few : count ≤ sharedLength (olds.take oldEnd).reverse (news.take newEnd).reverse) :
    ∃ before before' lines, olds.take oldEnd = before ++ lines.map NewLine.text ∧
      news.take newEnd = before' ++ lines ∧ lines.length = count := by
  obtain ⟨lines, rest, rest', olds_eq, news_eq, size⟩ := exists_shared few
  refine ⟨rest.reverse, rest'.reverse, lines.reverse, ?_, ?_, by rw [List.length_reverse, size]⟩
  · rw [List.reverse_eq_iff.1 olds_eq, List.reverse_append, List.map_reverse]
  · rw [List.reverse_eq_iff.1 news_eq, List.reverse_append]

/-- The block that ends with an old line and a new one. -/
theorem common_blockAt {cell : Nat × Nat} (member : cell ∈ cells olds.length news.length) :
    (blockAt olds news cell).Common olds news := by
  obtain ⟨i, j⟩ := cell
  simp only [cells, List.mem_product, List.mem_range] at member
  obtain ⟨before, before', lines, olds_eq, news_eq, size⟩ :=
    exists_ending (seededLength_le_sharedLength (olds.take (i + 1)).reverse
      (news.take (j + 1)).reverse)
  have oldCount := congrArg List.length olds_eq
  have newCount := congrArg List.length news_eq
  simp only [List.length_take, List.length_append, List.length_map] at oldCount newCount
  refine ⟨before, before', lines, olds.drop (i + 1), news.drop (j + 1), ?_, ?_, ?_, ?_, size⟩
  · rw [← olds_eq, List.take_append_drop]
  · rw [← news_eq, List.take_append_drop]
  · simp only [blockAt, sizeAt, ← size]
    omega
  · simp only [blockAt, sizeAt, ← size]
    omega

/-- A block with the equal lines around it. -/
theorem Block.Common.grow {b : Block} (common : b.Common olds news) :
    (Diff.grow olds news b).Common olds news := by
  obtain ⟨before, before', lines, after, after', rfl, rfl, oldAt, newAt, size⟩ := common
  have oldsBefore : (before ++ lines.map NewLine.text ++ after).take b.oldAt = before := by
    rw [List.append_assoc, List.take_left' oldAt]
  have newsBefore : (before' ++ lines ++ after').take b.newAt = before' := by
    rw [List.append_assoc, List.take_left' newAt]
  have oldsAfter : (before ++ lines.map NewLine.text ++ after).drop (b.oldAt + b.size) = after :=
    List.drop_left' (by simp [oldAt, size])
  have newsAfter : (before' ++ lines ++ after').drop (b.newAt + b.size) = after' :=
    List.drop_left' (by simp [newAt, size])
  obtain ⟨first, first', left, olds_eq, news_eq, leftSize⟩ := exists_ending (Nat.le_refl
    (sharedLength ((before ++ lines.map NewLine.text ++ after).take b.oldAt).reverse
      ((before' ++ lines ++ after').take b.newAt).reverse))
  rw [oldsBefore] at olds_eq
  rw [newsBefore] at news_eq
  obtain ⟨right, last, last', olds_eq', news_eq', rightSize⟩ :=
    exists_shared (Nat.le_refl (sharedLength after after'))
  refine ⟨first, first', left ++ lines ++ right, last, last', ?_, ?_, ?_, ?_, ?_⟩
  · rw [olds_eq, olds_eq']
    simp
  · rw [news_eq, news_eq']
    simp
  · rw [olds_eq, List.length_append, List.length_map] at oldAt
    simp only [Diff.grow, ← leftSize]
    omega
  · rw [news_eq, List.length_append] at newAt
    simp only [Diff.grow, ← leftSize]
    omega
  · simp only [Diff.grow, ← leftSize, oldsAfter, newsAfter, ← rightSize, List.length_append, size]

theorem common_seededBlock (olds : List String) (news : List NewLine) :
    (seededBlock olds news).Common olds news := by
  rcases seededBlock_cases olds news with nothing | ⟨cell, member, found, -⟩
  · rw [nothing]
    exact ⟨[], [], [], olds, news, rfl, rfl, rfl, rfl, rfl⟩
  · rw [found]
    exact common_blockAt member

theorem common_longestBlock (olds : List String) (news : List NewLine) :
    (longestBlock olds news).Common olds news :=
  (common_seededBlock olds news).grow

theorem Block.Common.end_le {b : Block} (common : b.Common olds news) :
    b.oldAt + b.size ≤ olds.length := by
  obtain ⟨before, before', lines, after, after', rfl, -, oldAt, -, size⟩ := common
  simp only [List.length_append, List.length_map]
  omega

theorem Block.Common.slice_eq {b : Block} (common : b.Common olds news) :
    slice b.oldAt b.size olds = (slice b.newAt b.size news).map NewLine.text := by
  obtain ⟨before, before', lines, after, after', rfl, rfl, oldAt, newAt, size⟩ := common
  unfold slice
  rw [List.append_assoc, List.drop_left' oldAt, List.append_assoc, List.drop_left' newAt,
    List.take_left' (by simpa using size), List.take_left' size]

/-- **A block holds if it has lines**: the check turns none of them away. -/
theorem holds_longestBlock_iff (olds : List String) (news : List NewLine) :
    (longestBlock olds news).Holds olds news ↔ 0 < (longestBlock olds news).size := by
  have common := common_longestBlock olds news
  exact ⟨fun holds => holds.1, fun filled => ⟨filled, common.end_le, common.slice_eq⟩⟩

/-! ## Equal lists -/

section Same

variable {seeds : String → Bool}

/-- Lines in which it is marked whether they may begin a block. -/
def marked (seeds : String → Bool) (lines : List String) : List NewLine :=
  lines.map fun text => ⟨text, seeds text⟩

theorem map_text_marked (lines : List String) : (marked seeds lines).map NewLine.text = lines := by
  simp [marked, Function.comp_def]

theorem markCommon_eq_marked (lines : List String) :
    ∃ seeds, markCommon lines = marked seeds lines :=
  ⟨_, rfl⟩

theorem length_marked (lines : List String) : (marked seeds lines).length = lines.length :=
  List.length_map ..

theorem take_marked (count : Nat) (lines : List String) :
    (marked seeds lines).take count = marked seeds (lines.take count) :=
  List.map_take.symm

theorem drop_marked (count : Nat) (lines : List String) :
    (marked seeds lines).drop count = marked seeds (lines.drop count) :=
  List.map_drop.symm

theorem reverse_marked (lines : List String) :
    (marked seeds lines).reverse = marked seeds lines.reverse :=
  List.map_reverse.symm

/-- Equal lists share all lines. -/
theorem sharedLength_marked (lines : List String) :
    sharedLength lines (marked seeds lines) = lines.length := by
  induction lines with
  | nil => rfl
  | cons line lines ih => rw [marked, List.map_cons, sharedLength, if_pos rfl, ← marked, ih]; rfl

/-- It does not matter which of two lists has the marks. -/
theorem seededLength_comm (lines others : List String) :
    seededLength lines (marked seeds others) = seededLength others (marked seeds lines) := by
  induction lines generalizing others with
  | nil => simp [marked]
  | cons line lines ih =>
      cases others with
      | nil => simp [marked]
      | cons other others =>
          have step := ih others
          simp only [marked, List.map_cons, seededLength, Bool.and_eq_true, beq_iff_eq] at step ⊢
          rw [step]
          by_cases same : line = other
          · rw [same]
          · rw [if_neg (fun both => same both.2.symm), if_neg (fun both => same both.2)]

/-- Lists share no more than one of them shares with itself. -/
theorem seededLength_le_self (lines others : List String) :
    seededLength lines (marked seeds others) ≤ seededLength lines (marked seeds lines) := by
  induction lines generalizing others with
  | nil => simp
  | cons line lines ih =>
      cases others with
      | nil => simp [marked]
      | cons other others =>
          have step := ih others
          simp only [marked, List.map_cons, seededLength, Bool.and_eq_true, beq_iff_eq] at step ⊢
          by_cases both : seeds other = true ∧ other = line
          · obtain ⟨may, rfl⟩ := both
            simp only [may, and_self, if_true]
            exact Nat.succ_le_succ step
          · rw [if_neg both]
            exact Nat.zero_le _

/-- What the search finds in equal lists starts at the same place: a block at another place
would be found later than the same block the other way round, or than one that is no shorter. -/
theorem oldAt_eq_newAt_seededBlock (seeds : String → Bool) (lines : List String) :
    (seededBlock lines (marked seeds lines)).oldAt
      = (seededBlock lines (marked seeds lines)).newAt := by
  rcases seededBlock_cases lines (marked seeds lines) with nothing | ⟨⟨i, j⟩, member, found, first⟩
  · rw [nothing]
  · rw [found]
    have sizes (i j : Nat) : sizeAt lines (marked seeds lines) (i, j)
        = seededLength (lines.take (i + 1)).reverse
          (marked seeds (lines.take (j + 1)).reverse) := by
      rw [sizeAt, take_marked, reverse_marked]
    rw [cells, List.mem_product, List.mem_range, List.mem_range, length_marked] at member
    have within {i j : Nat} (oldOne : i < lines.length) (newOne : j < lines.length) :
        (i, j) ∈ cells lines.length (marked seeds lines).length := by
      rw [cells, List.mem_product, List.mem_range, List.mem_range, length_marked]
      exact ⟨oldOne, newOne⟩
    rcases Nat.lt_trichotomy i j with less | rfl | greater
    · have shorter := first (i, i) (within member.1 member.1) (.inr ⟨rfl, less⟩)
      rw [sizes, sizes] at shorter
      exact absurd shorter (Nat.not_lt.2 (seededLength_le_self _ _))
    · rfl
    · have shorter := first (j, i) (within member.2 member.1) (.inl greater)
      rw [sizes, sizes, seededLength_comm] at shorter
      exact absurd shorter (Nat.lt_irrefl _)

/-- **Of equal lists all lines are the block**, also where none may begin one. -/
theorem longestBlock_self (seeds : String → Bool) (lines : List String) :
    longestBlock lines (marked seeds lines) = ⟨0, 0, lines.length⟩ := by
  have start := oldAt_eq_newAt_seededBlock seeds lines
  have within := (common_seededBlock lines (marked seeds lines)).end_le
  have found : longestBlock lines (marked seeds lines)
      = grow lines (marked seeds lines) (seededBlock lines (marked seeds lines)) := rfl
  rw [found, grow, ← start]
  simp only [take_marked, drop_marked, reverse_marked, sharedLength_marked, List.length_reverse,
    List.length_take, List.length_drop, Block.mk.injEq]
  omega

end Same

end IndexSnapshot.Diff
