/-
# IndexSnapshot.Proofs.AppliedDifferences -- a difference turns the old text into the new one

A difference can be applied: each hunk says at which lines it begins and how many it covers, and
each of its lines whether it is kept, removed or added.  Whoever applies it goes through the old
lines, takes over what lies between hunks, and stops where a line that is kept or removed is not
the one that stands there, or where a range is not the one that has been reached.  Nothing ever
stops where the difference of two texts is applied to the first of them, and the second one comes
out.  Equal texts have no difference at all.

* `readRange?_range`: a range is read as it was written, the empty ones too.
* `Patching.step`: what one piece of a difference does.
* `Turns`: hunks that turn lines into others, with nothing but shared lines between them;
  `turns_hunks` says it of the hunks of every alignment, `Turns.run` that they can be applied.
* `pieces_self`: equal texts have nothing but shared lines.
* `difference_turns_stored_into_rendered`: the difference of any two texts.
-/
import IndexSnapshot.Diff.Unified
import IndexSnapshot.Proofs.Digits
import IndexSnapshot.Proofs.LongestBlocks

namespace IndexSnapshot.Diff

set_option autoImplicit false

open Text (readNumber? readNumber?_toDigits notMem_toDigits splitOn_eq_singleton
  splitOn_append_cons)

/-! ## Ranges -/

/-- A range of lines: how many lines are before it, and how many it has.  An empty one is given by
the line before it, any other by its first line. -/
def readRange? (chars : List Char) : Option (Nat × Nat) :=
  match chars.splitOn ',' with
  | [first] => do
      let first ← readNumber? first
      if 0 < first then some (first - 1, 1) else none
  | [first, size] => do
      let first ← readNumber? first
      let size ← readNumber? size
      if size = 0 then some (first, 0)
      else if 0 < first then some (first - 1, size) else none
  | _ => none

/-- The ranges of old and new lines at the head of a hunk. -/
def readRanges? (chars : List Char) : Option ((Nat × Nat) × (Nat × Nat)) :=
  match chars.splitOn ' ' with
  | [['@', '@'], '-' :: old, '+' :: new, ['@', '@', '\n']] => do
      return (← readRange? old, ← readRange? new)
  | _ => none

theorem toList_range (start size : Nat) :
    (range start size).toList =
      if size = 1 then Nat.toDigits 10 (start + 1)
      else if size = 0 then Nat.toDigits 10 start ++ ',' :: Nat.toDigits 10 0
      else Nat.toDigits 10 (start + 1) ++ ',' :: Nat.toDigits 10 size := by
  unfold range
  split_ifs
  · rw [Nat.toString_eq_repr, Nat.toList_repr]
  · simp
  · simp

/-- **A range is read as it was written.** -/
theorem readRange?_range (start size : Nat) :
    readRange? (range start size).toList = some (start, size) := by
  have noComma := @notMem_toDigits ',' rfl
  have alone (n : Nat) := splitOn_eq_singleton (noComma n)
  have both (m n : Nat) := splitOn_append_cons (noComma m) (noComma n)
  rw [toList_range, readRange?]
  split_ifs with one none_
  · simp [alone, readNumber?_toDigits, one]
  · rw [both]
    dsimp only
    rw [readNumber?_toDigits, readNumber?_toDigits, none_]
    rfl
  · simp [both, readNumber?_toDigits, none_]

/-- No range has a space in it. -/
theorem space_notMem_range (start size : Nat) : ' ' ∉ (range start size).toList := by
  have noSpace := @notMem_toDigits ' ' rfl
  rw [toList_range]
  split_ifs <;> simp [noSpace]

/-- The ranges of a hunk, as they are written before its lines. -/
def Hunk.head (h : Hunk) : String :=
  "@@ -" ++ range h.oldStart h.oldSize ++ " +" ++ range h.newStart h.newSize ++ " @@\n"

theorem readRanges?_head (h : Hunk) :
    readRanges? h.head.toList = some ((h.oldStart, h.oldSize), (h.newStart, h.newSize)) := by
  have joined : h.head.toList = [' '].intercalate
      [['@', '@'], '-' :: (range h.oldStart h.oldSize).toList,
        '+' :: (range h.newStart h.newSize).toList, ['@', '@', '\n']] := by
    simp [Hunk.head, List.intercalate_cons_cons]
  have parts : h.head.toList.splitOn ' ' =
      [['@', '@'], '-' :: (range h.oldStart h.oldSize).toList,
        '+' :: (range h.newStart h.newSize).toList, ['@', '@', '\n']] := by
    rw [joined, List.splitOn_intercalate ' ' (by simp [space_notMem_range]) (by simp)]
  simp [readRanges?, parts, readRange?_range]

/-! ## Applying a difference -/

/-- How far old lines have been turned into new ones. -/
structure Patching where
  /-- How many old lines have been passed. -/
  oldAt : Nat
  /-- The new lines up to there. -/
  news : List String
  /-- How many old lines are still to come in the hunk. -/
  oldLeft : Nat
  /-- How many new lines are still to come in it. -/
  newLeft : Nat
  deriving DecidableEq, Repr

namespace Patching

/-- Before the first hunk. -/
def start : Patching :=
  ⟨0, [], 0, 0⟩

/-- Whether no hunk is open. -/
def IsBetween (s : Patching) : Prop :=
  s.oldLeft = 0 ∧ s.newLeft = 0

instance (s : Patching) : Decidable s.IsBetween :=
  inferInstanceAs (Decidable (_ ∧ _))

/-- A line of a hunk that stands in the new lines only. -/
def add? (s : Patching) (line : String) : Option Patching :=
  if 0 < s.newLeft then some { s with news := s.news ++ [line], newLeft := s.newLeft - 1 } else none

/-- A line of a hunk that stands in the old lines only; it has to be there. -/
def remove? (olds : List String) (s : Patching) (line : String) : Option Patching :=
  if 0 < s.oldLeft ∧ olds[s.oldAt]? = some line then
    some { s with oldAt := s.oldAt + 1, oldLeft := s.oldLeft - 1 }
  else none

/-- The head of a hunk.  What lies before it is taken over, and with it the hunk begins at the
places that are given in the old lines and in the new ones. -/
def begin? (olds : List String) (s : Patching) (old new : Nat × Nat) : Option Patching :=
  let passed := slice s.oldAt (old.1 - s.oldAt) olds
  if s.IsBetween ∧ s.oldAt ≤ old.1 ∧ old.1 ≤ olds.length ∧ (s.news ++ passed).length = new.1 then
    some ⟨old.1, s.news ++ passed, old.2, new.2⟩
  else none

/-- One piece of a difference: a line with its mark, or the head of a hunk.  A line that is kept is
removed and added again. -/
def step (olds : List String) (s : Patching) (piece : String) : Option Patching :=
  match piece.toList with
  | ' ' :: line => (s.remove? olds (.ofList line)).bind (·.add? (.ofList line))
  | '-' :: line => s.remove? olds (.ofList line)
  | '+' :: line => s.add? (.ofList line)
  | chars => (readRanges? chars).bind fun ranges => s.begin? olds ranges.1 ranges.2

/-- Pieces one after another. -/
def run (olds : List String) (s : Patching) (pieces : List String) : Option Patching :=
  pieces.foldlM (step olds) s

/-- The new lines, with the old ones behind the last hunk. -/
def finish? (olds : List String) (s : Patching) : Option (List String) :=
  if s.IsBetween then some (s.news ++ olds.drop s.oldAt) else none

/-! ### Pieces of one kind -/

variable {olds : List String}

theorem run_append (s : Patching) (pieces more : List String) :
    run olds s (pieces ++ more) = (run olds s pieces).bind fun t => run olds t more :=
  List.foldlM_append

theorem step_kept (s : Patching) (line : String) :
    step olds s (" " ++ line) = (s.remove? olds line).bind (·.add? line) := by
  simp [step, String.toList_append]

theorem step_removed (s : Patching) (line : String) :
    step olds s ("-" ++ line) = s.remove? olds line := by
  simp [step, String.toList_append]

theorem step_added (s : Patching) (line : String) : step olds s ("+" ++ line) = s.add? line := by
  simp [step, String.toList_append]

theorem step_head (s : Patching) (h : Hunk) :
    step olds s h.head = s.begin? olds (h.oldStart, h.oldSize) (h.newStart, h.newSize) := by
  have marked : ∃ rest, h.head.toList = '@' :: rest := by simp [Hunk.head]
  obtain ⟨rest, marked⟩ := marked
  have ranges := readRanges?_head h
  unfold step
  rw [marked] at ranges ⊢
  simp [ranges]

/-! ### Lines and hunks -/

section Lines

variable {oldAt : Nat} {rest : List String}

/-- A line that is there is removed. -/
theorem remove?_of_drop {line : String} (here : olds.drop oldAt = line :: rest)
    (news : List String) (m n : Nat) :
    remove? olds ⟨oldAt, news, m + 1, n⟩ line = some ⟨oldAt + 1, news, m, n⟩ := by
  have stands : olds[oldAt]? = some line := by
    rw [← Nat.add_zero oldAt, ← List.getElem?_drop, here]
    rfl
  exact if_pos ⟨Nat.succ_pos m, stands⟩

theorem drop_succ_of_drop {line : String} (here : olds.drop oldAt = line :: rest) :
    olds.drop (oldAt + 1) = rest := by
  rw [← List.drop_drop, here, List.drop_one, List.tail_cons]

theorem run_removed {lines : List String} (here : olds.drop oldAt = lines ++ rest)
    (news : List String) (m n : Nat) :
    run olds ⟨oldAt, news, lines.length + m, n⟩ (lines.map ("-" ++ ·))
      = some ⟨oldAt + lines.length, news, m, n⟩ := by
  induction lines generalizing oldAt with
  | nil => rw [List.length_nil, Nat.zero_add]; rfl
  | cons line lines ih =>
      have next := ih (drop_succ_of_drop here)
      rw [List.map_cons, run, List.foldlM_cons, step_removed, List.length_cons,
        Nat.add_right_comm lines.length 1 m, remove?_of_drop here]
      rw [Nat.add_comm lines.length 1, ← Nat.add_assoc]
      exact next

theorem run_added (lines news : List String) (m n : Nat) :
    run olds ⟨oldAt, news, m, lines.length + n⟩ (lines.map ("+" ++ ·))
      = some ⟨oldAt, news ++ lines, m, n⟩ := by
  induction lines generalizing news with
  | nil => rw [List.length_nil, Nat.zero_add, List.append_nil]; rfl
  | cons line lines ih =>
      have next := ih (news ++ [line])
      have added : add? ⟨oldAt, news, m, lines.length + n + 1⟩ line
          = some ⟨oldAt, news ++ [line], m, lines.length + n⟩ := if_pos (Nat.succ_pos _)
      rw [List.map_cons, run, List.foldlM_cons, step_added, List.length_cons,
        Nat.add_right_comm lines.length 1 n, added]
      rw [List.append_assoc] at next
      exact next

theorem run_kept {lines : List String} (here : olds.drop oldAt = lines ++ rest)
    (news : List String) (m n : Nat) :
    run olds ⟨oldAt, news, lines.length + m, lines.length + n⟩ (lines.map (" " ++ ·))
      = some ⟨oldAt + lines.length, news ++ lines, m, n⟩ := by
  induction lines generalizing oldAt news with
  | nil => rw [List.length_nil, Nat.zero_add, Nat.zero_add, List.append_nil]; rfl
  | cons line lines ih =>
      have next := ih (drop_succ_of_drop here) (news ++ [line])
      have added : add? ⟨oldAt + 1, news, lines.length + m, lines.length + n + 1⟩ line
          = some ⟨oldAt + 1, news ++ [line], lines.length + m, lines.length + n⟩ :=
        if_pos (Nat.succ_pos _)
      rw [List.map_cons, run, List.foldlM_cons, step_kept, List.length_cons,
        Nat.add_right_comm lines.length 1 m, Nat.add_right_comm lines.length 1 n,
        remove?_of_drop here, Option.bind_some, added]
      rw [Nat.add_comm lines.length 1, ← Nat.add_assoc]
      rw [List.append_assoc] at next
      exact next

end Lines

end Patching

/-- The old lines of stretches. -/
def oldLines (pieces : List Piece) : List String :=
  pieces.flatMap Piece.olds

/-- The new lines of stretches. -/
def newLines (pieces : List Piece) : List String :=
  pieces.flatMap Piece.news

@[simp] theorem oldLines_cons (piece : Piece) (pieces : List Piece) :
    oldLines (piece :: pieces) = piece.olds ++ oldLines pieces :=
  List.flatMap_cons

@[simp] theorem newLines_cons (piece : Piece) (pieces : List Piece) :
    newLines (piece :: pieces) = piece.news ++ newLines pieces :=
  List.flatMap_cons

@[simp] theorem oldLines_append (pieces more : List Piece) :
    oldLines (pieces ++ more) = oldLines pieces ++ oldLines more :=
  List.flatMap_append

@[simp] theorem newLines_append (pieces more : List Piece) :
    newLines (pieces ++ more) = newLines pieces ++ newLines more :=
  List.flatMap_append

namespace Patching

variable {olds rest : List String} {oldAt : Nat}

/-- A stretch whose old lines are there can be applied. -/
theorem run_marked {piece : Piece} (here : olds.drop oldAt = piece.olds ++ rest)
    (news : List String) (m n : Nat) :
    run olds ⟨oldAt, news, piece.olds.length + m, piece.news.length + n⟩ piece.marked
      = some ⟨oldAt + piece.olds.length, news ++ piece.news, m, n⟩ := by
  cases piece with
  | same lines => exact run_kept here news m n
  | change removed added =>
      have here : olds.drop oldAt = removed ++ rest := here
      rw [Piece.marked, run_append, Piece.olds, Piece.news, run_removed here, Option.bind_some]
      exact run_added added news m n

/-- So can stretches one after another. -/
theorem run_stretches {pieces : List Piece} (here : olds.drop oldAt = oldLines pieces ++ rest)
    (news : List String) :
    run olds ⟨oldAt, news, (oldLines pieces).length, (newLines pieces).length⟩
        (pieces.flatMap Piece.marked)
      = some ⟨oldAt + (oldLines pieces).length, news ++ newLines pieces, 0, 0⟩ := by
  induction pieces generalizing oldAt news with
  | nil => simp [oldLines, newLines, run]
  | cons piece pieces ih =>
      rw [oldLines_cons, List.append_assoc] at here
      have behind : olds.drop (oldAt + piece.olds.length) = oldLines pieces ++ rest := by
        rw [← List.drop_drop, here, List.drop_left]
      rw [oldLines_cons, newLines_cons, List.length_append, List.length_append,
        List.flatMap_cons, run_append, run_marked here, Option.bind_some, ih behind,
        Nat.add_assoc, List.append_assoc]

/-- A hunk can be applied from where its gap begins. -/
theorem run_written {gap news : List String} {h : Hunk}
    (here : olds.drop oldAt = gap ++ (oldLines h.pieces ++ rest)) (within : oldAt ≤ olds.length)
    (oldStart : h.oldStart = oldAt + gap.length)
    (newStart : h.newStart = news.length + gap.length) :
    run olds ⟨oldAt, news, 0, 0⟩ h.written
      = some ⟨h.oldStart + h.oldSize, news ++ (gap ++ newLines h.pieces), 0, 0⟩ := by
  have count := congrArg List.length here
  rw [List.length_drop, List.length_append] at count
  have passed : slice oldAt (h.oldStart - oldAt) olds = gap := by
    rw [slice, oldStart, Nat.add_sub_cancel_left, here, List.take_left]
  have begun : begin? olds ⟨oldAt, news, 0, 0⟩ (h.oldStart, h.oldSize) (h.newStart, h.newSize)
      = some ⟨h.oldStart, news ++ gap, h.oldSize, h.newSize⟩ := by
    unfold begin?
    simp only [passed]
    exact if_pos ⟨⟨rfl, rfl⟩, by omega, by omega, by rw [List.length_append, newStart]⟩
  have behind : olds.drop h.oldStart = oldLines h.pieces ++ rest := by
    rw [oldStart, ← List.drop_drop, here, List.drop_left]
  have lines := run_stretches behind (news ++ gap)
  have written : h.written = h.head :: h.pieces.flatMap Piece.marked := rfl
  rw [written, run, List.foldlM_cons, step_head, begun]
  rw [List.append_assoc] at lines
  exact lines

/-- In pieces that can be applied, a line that is kept or removed is the one that stands where its
turn comes. -/
theorem exists_of_run {s t : Patching} {before after : List String} {piece line : String}
    (ran : run olds s (before ++ piece :: after) = some t)
    (marked : piece = " " ++ line ∨ piece = "-" ++ line) :
    ∃ u, run olds s before = some u ∧ olds[u.oldAt]? = some line := by
  rw [run_append, Option.bind_eq_some_iff] at ran
  obtain ⟨u, reached, ran⟩ := ran
  rw [run, List.foldlM_cons] at ran
  obtain ⟨v, stepped, -⟩ := Option.bind_eq_some_iff.1 ran
  have removed : ∃ w, u.remove? olds line = some w := by
    rcases marked with rfl | rfl
    · rw [step_kept, Option.bind_eq_some_iff] at stepped
      exact ⟨_, stepped.choose_spec.1⟩
    · rw [step_removed] at stepped
      exact ⟨v, stepped⟩
  obtain ⟨w, removed⟩ := removed
  unfold remove? at removed
  split at removed
  case isTrue there => exact ⟨u, reached, there.2⟩
  case isFalse => cases removed

end Patching

/-! ## Hunks that turn lines into others -/

/-- From a place in the old lines and one in the new lines on, hunks turn the old lines that are
left into the new ones that are left: between hunks and behind them both are the same. -/
inductive Turns : Nat → Nat → List String → List String → List Hunk → Prop where
  | nil (oldAt newAt : Nat) (rest : List String) : Turns oldAt newAt rest rest []
  | cons {oldAt newAt : Nat} {h : Hunk} {hunks : List Hunk} (gap : List String)
      {olds news : List String} (oldStart : h.oldStart = oldAt + gap.length)
      (newStart : h.newStart = newAt + gap.length)
      (next : Turns (h.oldStart + h.oldSize) (h.newStart + h.newSize) olds news hunks) :
      Turns oldAt newAt (gap ++ (oldLines h.pieces ++ olds)) (gap ++ (newLines h.pieces ++ news))
        (h :: hunks)

/-- Hunks that turn old lines into new ones can be applied, and then have done so. -/
theorem Turns.run {olds rest news' : List String} {oldAt newAt : Nat} {hunks : List Hunk}
    (turns : Turns oldAt newAt rest news' hunks) (here : olds.drop oldAt = rest)
    (within : oldAt ≤ olds.length) (news : List String) (count : news.length = newAt) :
    ∃ s, Patching.run olds ⟨oldAt, news, 0, 0⟩ (hunks.flatMap Hunk.written) = some s ∧
      s.finish? olds = some (news ++ news') := by
  induction turns generalizing news with
  | nil oldAt newAt rest => exact ⟨_, rfl, by rw [← here]; rfl⟩
  | @cons oldAt newAt h hunks gap rest news' oldStart newStart next ih =>
      have lengths := congrArg List.length here
      rw [List.length_drop, List.length_append, List.length_append] at lengths
      have behind : olds.drop (h.oldStart + h.oldSize) = rest := by
        have size : h.oldSize = (oldLines h.pieces).length := rfl
        rw [oldStart, size, ← List.drop_drop, ← List.drop_drop, here, List.drop_left,
          List.drop_left]
      have whole : h.oldStart + h.oldSize ≤ olds.length := by
        have size : h.oldSize = (oldLines h.pieces).length := rfl
        omega
      have counted : (news ++ (gap ++ newLines h.pieces)).length = h.newStart + h.newSize := by
        have size : h.newSize = (newLines h.pieces).length := rfl
        rw [List.length_append, List.length_append]
        omega
      obtain ⟨s, ran, finished⟩ := ih behind whole _ counted
      refine ⟨s, ?_, ?_⟩
      · rw [List.flatMap_cons, Patching.run_append,
          Patching.run_written here within oldStart (count.symm ▸ newStart), Option.bind_some, ran]
      · rw [finished, List.append_assoc, List.append_assoc]

theorem oldLines_push (h : Hunk) (piece : Piece) :
    oldLines (h.push piece).pieces = oldLines h.pieces ++ piece.olds := by
  simp [Hunk.push, oldLines]

theorem newLines_push (h : Hunk) (piece : Piece) :
    newLines (h.push piece).pieces = newLines h.pieces ++ piece.news := by
  simp [Hunk.push, newLines]

/-- A hunk ends with the shared lines that are shown of more. -/
theorem Turns.ended {oldAt newAt : Nat} {gap olds news : List String} {h : Hunk}
    {hunks : List Hunk} (shown : List String) (oldStart : h.oldStart = oldAt + gap.length)
    (newStart : h.newStart = newAt + gap.length)
    (next : Turns (h.oldStart + h.oldSize + shown.length) (h.newStart + h.newSize + shown.length)
      olds news hunks) :
    Turns oldAt newAt (gap ++ (oldLines h.pieces ++ (shown ++ olds)))
      (gap ++ (newLines h.pieces ++ (shown ++ news))) (h.push (.same shown) :: hunks) := by
  have oldSize : (h.push (.same shown)).oldSize = h.oldSize + shown.length := by
    simp [Hunk.oldSize, Hunk.push, Piece.olds]
  have newSize : (h.push (.same shown)).newSize = h.newSize + shown.length := by
    simp [Hunk.newSize, Hunk.push, Piece.news]
  rw [Nat.add_assoc, ← oldSize, Nat.add_assoc, ← newSize] at next
  have both : Turns oldAt newAt _ _ (h.push (.same shown) :: hunks) :=
    .cons gap oldStart newStart next
  rw [oldLines_push, newLines_push, List.append_assoc, List.append_assoc] at both
  exact both

/-- Shared lines that are too many to be shown in full: those that are shown, and those between. -/
theorem exists_hidden {lines : List String} (long : 2 * context < lines.length) :
    ∃ hidden, lines = lines.take context ++ (hidden ++ lastLines lines) ∧
      lines.length = context + hidden.length + context := by
  refine ⟨(lines.take (lines.length - context)).drop context, ?_, ?_⟩
  · have first : (lines.take (lines.length - context)).take context = lines.take context := by
      rw [List.take_take, Nat.min_eq_left (by omega)]
    rw [← List.append_assoc, ← first, List.take_append_drop]
    exact (List.take_append_drop ..).symm
  · rw [List.length_drop, List.length_take]
    omega

/-- A hunk that goes on with stretches turns their old lines into their new ones, together with
the hunks that come after it. -/
theorem turns_hunksFrom {oldAt newAt : Nat} (gap : List String) (h : Hunk) (rest : List Piece)
    (oldStart : h.oldStart = oldAt + gap.length) (newStart : h.newStart = newAt + gap.length) :
    Turns oldAt newAt (gap ++ (oldLines h.pieces ++ oldLines rest))
      (gap ++ (newLines h.pieces ++ newLines rest)) (hunksFrom h rest) := by
  have pushed (h : Hunk) (piece : Piece) (rest : List Piece) :
      oldLines h.pieces ++ oldLines (piece :: rest)
        = oldLines (h.push piece).pieces ++ oldLines rest ∧
      newLines h.pieces ++ newLines (piece :: rest)
        = newLines (h.push piece).pieces ++ newLines rest := by
    rw [oldLines_push, newLines_push, oldLines_cons, newLines_cons, List.append_assoc,
      List.append_assoc]
    exact ⟨rfl, rfl⟩
  fun_induction hunksFrom h rest generalizing oldAt newAt gap with
  | case1 h => exact .cons gap oldStart newStart (.nil ..)
  | case2 h lines =>
      have both := Turns.ended (lines.take context) oldStart newStart
        (.nil _ _ (lines.drop context))
      rw [List.take_append_drop] at both
      simpa [Piece.olds, Piece.news, oldLines, newLines] using both
  | case3 h lines rest _ long skipped =>
      rename_i ih
      obtain ⟨hidden, cut, count⟩ := exists_hidden long
      have shown : (lines.take context).length = context := by
        rw [List.length_take]
        omega
      have next := @ih (h.oldStart + h.oldSize + (lines.take context).length)
        (h.newStart + h.newSize + (lines.take context).length) hidden
        (by dsimp only [skipped]; omega) (by dsimp only [skipped]; omega)
      have both := Turns.ended (lines.take context) oldStart newStart next
      have whole (others : List String) :
          lines.take context ++ (hidden ++ (lastLines lines ++ others)) = lines ++ others := by
        rw [← List.append_assoc hidden, ← List.append_assoc, ← cut]
      have begun : oldLines [.same (lastLines lines)] = lastLines lines ∧
          newLines [.same (lastLines lines)] = lastLines lines :=
        ⟨List.flatMap_singleton .., List.flatMap_singleton ..⟩
      rw [begun.1, begun.2, whole, whole] at both
      exact both
  | case4 h lines rest _ _ ih =>
      rw [(pushed h (.same lines) rest).1, (pushed h (.same lines) rest).2]
      exact ih gap oldStart newStart
  | case5 h piece rest _ _ ih =>
      rw [(pushed h piece rest).1, (pushed h piece rest).2]
      exact ih gap oldStart newStart

/-- Where nothing changes all lines are shared. -/
theorem newLines_eq_oldLines {pieces : List Piece} (unchanged : pieces.any isChange = false) :
    newLines pieces = oldLines pieces := by
  induction pieces with
  | nil => rfl
  | cons piece pieces ih =>
      rw [List.any_cons, Bool.or_eq_false_iff] at unchanged
      rw [newLines_cons, oldLines_cons, ih unchanged.2]
      cases piece with
      | same lines => rfl
      | change removed added => cases unchanged.1

theorem turns_opening (pieces : List Piece) : Turns 0 0 (oldLines pieces) (newLines pieces)
    (hunksFrom (opening pieces).1 (opening pieces).2) := by
  unfold opening
  split
  · rename_i lines rest
    have cut : lines.take (lines.length - context) ++ lastLines lines = lines :=
      List.take_append_drop ..
    have count : lines.length - context = 0 + (lines.take (lines.length - context)).length := by
      rw [List.length_take]
      omega
    have first := turns_hunksFrom (lines.take (lines.length - context))
      ⟨lines.length - context, lines.length - context, [.same (lastLines lines)]⟩ rest count count
    have begun : oldLines [.same (lastLines lines)] = lastLines lines ∧
        newLines [.same (lastLines lines)] = lastLines lines :=
      ⟨List.flatMap_singleton .., List.flatMap_singleton ..⟩
    rw [begun.1, begun.2, ← List.append_assoc, ← List.append_assoc, cut] at first
    exact first
  · exact turns_hunksFrom [] ⟨0, 0, []⟩ pieces rfl rfl

/-- **The hunks of an alignment turn its old lines into its new ones.** -/
theorem turns_hunks (pieces : List Piece) :
    Turns 0 0 (oldLines pieces) (newLines pieces) (hunks pieces) := by
  unfold hunks
  split
  case isTrue => exact turns_opening pieces
  case isFalse unchanged =>
    rw [newLines_eq_oldLines (Bool.not_eq_true _ ▸ unchanged)]
    exact .nil ..

/-- Without a change there are no hunks, and with one there are some. -/
theorem hunks_eq_nil_iff (pieces : List Piece) :
    hunks pieces = [] ↔ pieces.any isChange = false := by
  have filled (h : Hunk) (rest : List Piece) : hunksFrom h rest ≠ [] := by
    fun_induction hunksFrom h rest <;> simp_all
  unfold hunks
  split
  case isTrue changed => simp [filled, changed]
  case isFalse unchanged => simpa using unchanged

/-! ## Alignments -/

theorem oldLines_consPiece (piece : Piece) (pieces : List Piece) :
    oldLines (consPiece piece pieces) = piece.olds ++ oldLines pieces := by
  fun_cases consPiece piece pieces <;> simp [Piece.olds]

theorem newLines_consPiece (piece : Piece) (pieces : List Piece) :
    newLines (consPiece piece pieces) = piece.news ++ newLines pieces := by
  fun_cases consPiece piece pieces <;> simp [Piece.news]

/-- A list is what stands before a slice, the slice, and what stands behind it. -/
theorem take_append_slice {α : Type} (start size : Nat) (lines : List α) :
    lines.take start ++ (slice start size lines ++ lines.drop (start + size)) = lines := by
  rw [slice, ← List.drop_drop, List.take_append_drop, List.take_append_drop]

/-- All lines are in an alignment, in their order. -/
theorem lines_align (olds : List String) (news : List NewLine) :
    oldLines (align olds news) = olds ∧ newLines (align olds news) = news.map NewLine.text := by
  fun_induction align olds news with
  | case1 olds news b holds before behind =>
      have same : slice b.oldAt b.size olds = (slice b.newAt b.size news).map NewLine.text :=
        holds.2.2
      rw [oldLines_append, oldLines_cons, before.1, behind.1, newLines_append, newLines_cons,
        before.2, behind.2, Piece.olds, Piece.news]
      refine ⟨take_append_slice .., ?_⟩
      rw [same, ← List.map_append, ← List.map_append, take_append_slice]
  | case2 olds news => simp [oldLines, newLines, Piece.olds, Piece.news]

theorem lines_foldr_consPiece (stretches : List Piece) :
    oldLines (stretches.foldr consPiece []) = oldLines stretches ∧
      newLines (stretches.foldr consPiece []) = newLines stretches := by
  induction stretches with
  | nil => exact ⟨rfl, rfl⟩
  | cons piece stretches ih =>
      rw [List.foldr_cons, oldLines_consPiece, newLines_consPiece, ih.1, ih.2, oldLines_cons,
        newLines_cons]
      exact ⟨rfl, rfl⟩

theorem oldLines_pieces (olds news : List String) : oldLines (pieces olds news) = olds := by
  rw [pieces, (lines_foldr_consPiece _).1, (lines_align _ _).1]

theorem newLines_pieces (olds news : List String) : newLines (pieces olds news) = news := by
  obtain ⟨seeds, marks⟩ := markCommon_eq_marked news
  rw [pieces, (lines_foldr_consPiece _).2, (lines_align _ _).2, marks, map_text_marked]

/-- **Equal lists have no change.** -/
theorem pieces_self (lines : List String) : (pieces lines lines).any isChange = false := by
  obtain ⟨seeds, marks⟩ := markCommon_eq_marked lines
  have nothing : align [] [] = [.change [] []] := by
    rw [align]
    exact dif_neg (by decide)
  rw [pieces, marks]
  cases lines with
  | nil =>
      rw [marked, List.map_nil, nothing]
      rfl
  | cons line rest =>
      have block := longestBlock_self seeds (line :: rest)
      have holds := (holds_longestBlock_iff (line :: rest) (marked seeds (line :: rest))).2
        (block ▸ Nat.succ_pos _)
      have after : (marked seeds (line :: rest)).drop (line :: rest).length = [] := by
        rw [← length_marked (line :: rest), List.drop_length]
      rw [align, dif_pos holds]
      simp only [block, Nat.zero_add, List.take_zero, List.drop_length, after, nothing]
      rfl

/-- There are no hunks exactly for equal lists. -/
theorem hunks_pieces_eq_nil_iff (olds news : List String) :
    hunks (pieces olds news) = [] ↔ olds = news := by
  rw [hunks_eq_nil_iff]
  constructor
  · intro unchanged
    rw [← oldLines_pieces olds news, ← newLines_eq_oldLines unchanged, newLines_pieces]
  · rintro rfl
    exact pieces_self olds

/-! ## Texts -/

theorem lines_injective : Function.Injective Text.lines := by
  intro text other same
  have chars := congrArg (fun lines => (lines.map String.toList).flatten) same
  apply String.toList_injective
  simpa [Text.lines, Function.comp_def, Text.flatten_keepEnds] using chars

/-- The two lines before the hunks, which name both texts. -/
def heads (name : String) : List String :=
  ["--- " ++ (name ++ " (stored)") ++ "\n", "+++ " ++ (name ++ " (rendered)") ++ "\n"]

/-- **The difference of two texts turns the lines of the first into those of the second.**  There
is none exactly if the texts are equal.  Otherwise its hunks can be applied at the places that
their ranges state, and each line that is kept or removed is the stored one at the place that has
been reached.  This is so for every alignment, also where most lines are too common to begin a
block, and for lines with any end or none. -/
theorem difference_turns_stored_into_rendered (stored rendered name : String) :
    let pieces := unified (name ++ " (stored)") (name ++ " (rendered)")
      (Text.lines stored) (Text.lines rendered)
    ofTexts stored rendered name = String.join pieces ∧ (pieces = [] ↔ stored = rendered) ∧
      (stored = rendered ∨ ∃ written, pieces = heads name ++ written ∧
        (∃ s, Patching.run (Text.lines stored) .start written = some s ∧
          s.finish? (Text.lines stored) = some (Text.lines rendered)) ∧
        ∀ before piece after line, written = before ++ piece :: after →
          piece = " " ++ line ∨ piece = "-" ++ line →
          ∃ s, Patching.run (Text.lines stored) .start before = some s ∧
            (Text.lines stored)[s.oldAt]? = some line) := by
  intro pieces
  refine ⟨rfl, ?_⟩
  have none_iff := hunks_pieces_eq_nil_iff (Text.lines stored) (Text.lines rendered)
  rw [lines_injective.eq_iff] at none_iff
  have turns := turns_hunks (Diff.pieces (Text.lines stored) (Text.lines rendered))
  rw [oldLines_pieces, newLines_pieces] at turns
  obtain ⟨s, ran, finished⟩ := turns.run rfl (Nat.zero_le _) [] rfl
  cases found : hunks (Diff.pieces (Text.lines stored) (Text.lines rendered)) with
  | nil =>
      have same := none_iff.1 found
      have empty : pieces = [] := by
        simp only [pieces, unified, found]
      exact ⟨iff_of_true empty same, .inl same⟩
  | cons h rest =>
      rw [found] at ran none_iff
      have differ : stored ≠ rendered := fun same => List.cons_ne_nil _ _ (none_iff.2 same)
      have shown : pieces = heads name ++ (h :: rest).flatMap Hunk.written := by
        simp only [pieces, unified, found]
        rfl
      have filled : pieces ≠ [] := shown ▸ List.cons_ne_nil _ _
      refine ⟨iff_of_false filled differ, .inr ⟨_, shown, ⟨s, ran, finished⟩, ?_⟩⟩
      intro before piece after line cut marked
      rw [cut] at ran
      exact Patching.exists_of_run ran marked

end IndexSnapshot.Diff
