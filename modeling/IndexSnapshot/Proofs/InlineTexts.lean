/-
# IndexSnapshot.Proofs.InlineTexts -- which texts a literal can stand for

A literal is indented with the test that it is in, and loses its margin before it is compared.  The
rendered text does not.  So a text that has a margin of its own equals no literal, and neither does
one with a line of nothing but spaces and tabs, which no literal keeps.  Every other text can be
written as a literal with any indentation, on lines of its own.

* `Text.prefix_margin_iff`: the margin is the longest indentation that all lines share.
* `Text.IsFlush`: the lines of a text leave nothing for a margin.  `isFlush_dedentLines` says that
  it is so of lines without their margin, and `dedentLines_eq_self` that such lines stay as they
  are.
* `Text.normalizeInline_indented`: an indented literal stands for the text that it was made of.
* `Record.passes_inline_iff_flush`: which texts pass beside a literal, and beside which ones.
-/
import IndexSnapshot.Fixture.Comparison
import Mathlib.Data.List.DropRight
import Mathlib.Data.List.Infix

namespace IndexSnapshot

set_option autoImplicit false

namespace Text

/-! ## Lines between line feeds -/

@[simp] theorem splitNewlines_nil : splitNewlines [] = [[]] :=
  rfl

theorem splitNewlines_eq_splitOn (chars : List Char) :
    splitNewlines chars = chars.splitOn '\n' := by
  induction chars with
  | nil => rfl
  | cons c rest ih =>
      have step : splitNewlines (c :: rest) = consNewline c (splitNewlines rest) := rfl
      have filled := List.splitOn_ne_nil '\n' rest
      have cutRight : (c :: rest).splitOn '\n' =
          if c == '\n' then [] :: rest.splitOn '\n'
          else (rest.splitOn '\n').modifyHead (c :: ·) :=
        List.splitOnP_cons_eq_if_modifyHead ..
      rw [step, ih, cutRight]
      cases cut : rest.splitOn '\n' with
      | nil => exact absurd cut filled
      | cons line lines => by_cases feed : c = '\n' <;> simp [consNewline, feed]

theorem splitNewlines_newline (before after : List Char) :
    splitNewlines (before ++ '\n' :: after) = splitNewlines before ++ splitNewlines after := by
  simp only [splitNewlines_eq_splitOn, List.splitOn_eq_splitOnP]
  exact List.splitOnP_append_cons before after (beq_self_eq_true _)

theorem joinNewlines_splitNewlines (chars : List Char) :
    joinNewlines (splitNewlines chars) = chars := by
  rw [splitNewlines_eq_splitOn]
  exact List.intercalate_splitOn '\n'

theorem splitNewlines_joinNewlines {lines : List (List Char)} (filled : lines ≠ [])
    (free : ∀ line ∈ lines, '\n' ∉ line) : splitNewlines (joinNewlines lines) = lines := by
  rw [splitNewlines_eq_splitOn]
  exact List.splitOn_intercalate '\n' free filled

theorem splitNewlines_ne_nil (chars : List Char) : splitNewlines chars ≠ [] := by
  rw [splitNewlines_eq_splitOn]
  exact List.splitOn_ne_nil '\n' chars

theorem newline_notMem_of_mem_splitNewlines {chars line : List Char}
    (member : line ∈ splitNewlines chars) : '\n' ∉ line := by
  induction chars generalizing line with
  | nil =>
      rw [List.mem_singleton.1 member]
      exact List.not_mem_nil
  | cons c rest ih =>
      have step : splitNewlines (c :: rest) = consNewline c (splitNewlines rest) := rfl
      rw [step] at member
      cases cut : splitNewlines rest with
      | nil => exact absurd cut (splitNewlines_ne_nil rest)
      | cons first lines =>
          rw [cut] at member ih
          by_cases feed : c = '\n'
          · rw [consNewline, if_pos feed] at member
            rcases List.mem_cons.1 member with rfl | member
            · exact List.not_mem_nil
            · exact ih member
          · rw [consNewline, if_neg feed] at member
            rcases List.mem_cons.1 member with rfl | member
            · rw [List.mem_cons, not_or]
              exact ⟨Ne.symm feed, ih List.mem_cons_self⟩
            · exact ih (List.mem_cons_of_mem _ member)

/-! ## Line feeds at the ends -/

section Strip

variable {drop : Char → Bool} {chars : List Char}

theorem stripWhere_eq (drop : Char → Bool) (chars : List Char) :
    stripWhere drop chars = (chars.dropWhile drop).rdropWhile drop :=
  rfl

/-- What has been stripped starts and ends as it should. -/
theorem stripWhere_idem (drop : Char → Bool) (chars : List Char) :
    stripWhere drop (stripWhere drop chars) = stripWhere drop chars := by
  have started : (stripWhere drop chars).dropWhile drop = stripWhere drop chars := by
    rw [List.dropWhile_eq_self_iff]
    intro filled
    have shorter : stripWhere drop chars <+: chars.dropWhile drop := List.rdropWhile_prefix _ _
    rw [shorter.getElem filled]
    exact List.dropWhile_eq_self_iff.1 (List.dropWhile_idempotent _ _) _
  rw [stripWhere_eq, started, stripWhere_eq, List.rdropWhile_idempotent]

/-- Characters that are dropped do not matter at the ends. -/
theorem stripWhere_padded {first last : Char} (dropFirst : drop first = true)
    (dropLast : drop last = true) :
    stripWhere drop (first :: (chars ++ [last])) = stripWhere drop chars := by
  rw [stripWhere_eq, stripWhere_eq, List.dropWhile_cons_of_pos dropFirst, List.dropWhile_append]
  cases started : chars.dropWhile drop with
  | nil => simp [dropLast]
  | cons c rest => rw [if_neg (by simp), List.rdropWhile_concat_pos _ _ _ dropLast]

end Strip

/-- Stripping line feeds leaves all lines that are not empty. -/
theorem mem_splitNewlines_strip {chars line : List Char} (filled : line ≠ []) :
    line ∈ splitNewlines (stripNewlines chars) ↔ line ∈ splitNewlines chars := by
  have first (chars : List Char) :
      line ∈ splitNewlines (chars.dropWhile (· == '\n')) ↔ line ∈ splitNewlines chars := by
    induction chars with
    | nil => rfl
    | cons c rest ih =>
        by_cases feed : c = '\n'
        · have cut := splitNewlines_newline [] rest
          rw [feed, List.dropWhile_cons_of_pos (by rfl), ih]
          rw [List.nil_append] at cut
          simp [cut, filled]
        · rw [List.dropWhile_cons_of_neg (by simpa using feed)]
  have last (chars : List Char) :
      line ∈ splitNewlines (chars.rdropWhile (· == '\n')) ↔ line ∈ splitNewlines chars := by
    induction chars using List.reverseRecOn with
    | nil => rfl
    | append_singleton rest c ih =>
        by_cases feed : c = '\n'
        · rw [feed, List.rdropWhile_concat_pos _ _ _ (by rfl), ih,
            splitNewlines_newline]
          simp [filled]
        · rw [List.rdropWhile_concat_neg _ _ _ (by simpa using feed)]
  rw [stripNewlines, stripWhere_eq, last, first]

/-! ## The margin -/

/-- Nothing but spaces and tabs. -/
def IsIndentation (line : List Char) : Prop :=
  ∀ c ∈ line, isIndent c = true

theorem isIndentation_iff {line : List Char} : line.all isIndent = true ↔ IsIndentation line :=
  List.all_eq_true

theorem IsIndentation.nil : IsIndentation [] :=
  fun _ member => absurd member List.not_mem_nil

theorem isIndentation_append {start line : List Char} :
    IsIndentation (start ++ line) ↔ IsIndentation start ∧ IsIndentation line := by
  simp only [IsIndentation, List.mem_append, or_imp, forall_and]

theorem IsIndentation.newline_notMem {line : List Char} (blank : IsIndentation line) :
    '\n' ∉ line :=
  fun member => absurd (blank _ member) (by decide)

theorem prefix_commonStart_iff {start a b : List Char} :
    start <+: commonStart a b ↔ start <+: a ∧ start <+: b := by
  induction start generalizing a b with
  | nil => simp
  | cons c rest ih =>
      cases a with
      | nil => simp [commonStart]
      | cons x xs =>
          cases b with
          | nil => simp [commonStart]
          | cons y ys =>
              by_cases same : x = y
              · subst same
                simp only [commonStart, if_true, List.cons_prefix_cons, ih]
                tauto
              · simp only [commonStart, if_neg same, List.cons_prefix_cons]
                constructor
                · intro impossible
                  simp at impossible
                · rintro ⟨⟨rfl, -⟩, other, -⟩
                  exact absurd other same

theorem prefix_indentOf_iff {start line : List Char} :
    start <+: indentOf line ↔ IsIndentation start ∧ start <+: line := by
  induction start generalizing line with
  | nil => simp [IsIndentation]
  | cons c rest ih =>
      cases line with
      | nil => simp [indentOf]
      | cons x xs =>
          have deeper : rest <+: xs.takeWhile isIndent ↔ IsIndentation rest ∧ rest <+: xs := ih
          by_cases indent : isIndent x = true
          · rw [indentOf, List.takeWhile_cons_of_pos indent, List.cons_prefix_cons,
              List.cons_prefix_cons, deeper]
            simp only [IsIndentation, List.mem_cons, forall_eq_or_imp]
            constructor
            · rintro ⟨rfl, blank, front⟩
              exact ⟨⟨indent, blank⟩, rfl, front⟩
            · rintro ⟨⟨-, blank⟩, rfl, front⟩
              exact ⟨rfl, blank, front⟩
          · rw [indentOf, List.takeWhile_cons_of_neg indent, List.cons_prefix_cons]
            simp only [List.prefix_nil, reduceCtorEq, false_iff, not_and]
            rintro blank rfl
            exact absurd (blank _ List.mem_cons_self) indent

/-- **The margin is the longest indentation that the lines share**, the empty ones aside. -/
theorem prefix_margin_iff {lines : List (List Char)} (filled : ∃ line ∈ lines, line ≠ [])
    {start : List Char} :
    start <+: margin lines ↔ IsIndentation start ∧ ∀ line ∈ lines, line ≠ [] → start <+: line := by
  have fold (others : List (List Char)) (shared : List Char) :
      start <+: others.foldl (fun shared other => commonStart shared (indentOf other)) shared ↔
        start <+: shared ∧ ∀ other ∈ others, start <+: indentOf other := by
    induction others generalizing shared with
    | nil => simp
    | cons other rest ih =>
        rw [List.foldl_cons, ih, prefix_commonStart_iff, List.forall_mem_cons, and_assoc]
  induction lines with
  | nil =>
      obtain ⟨line, member, -⟩ := filled
      cases member
  | cons line rest ih =>
      cases line with
      | nil =>
          have later : ∃ line ∈ rest, line ≠ [] := by simpa using filled
          rw [margin]
          refine (ih later).trans ?_
          simp
      | cons c others =>
          rw [margin, fold]
          simp only [prefix_indentOf_iff, List.mem_filter, List.forall_mem_cons]
          constructor
          · rintro ⟨⟨blank, first⟩, later⟩
            refine ⟨blank, fun _ => first, fun other member visible => ?_⟩
            exact (later other ⟨member, by simpa using visible⟩).2
          · rintro ⟨blank, first, later⟩
            refine ⟨⟨blank, first (List.cons_ne_nil _ _)⟩, fun other ⟨member, visible⟩ => ?_⟩
            exact ⟨blank, later other member (by simpa using visible)⟩
          · exact List.cons_ne_nil _ _

/-! ## Lines without a margin -/

theorem blankLine_of_visible {line : List Char} (visible : ¬ IsIndentation line) :
    blankLine line = line := by
  rw [blankLine, if_neg (by rwa [isIndentation_iff])]

theorem blankLine_of_indentation {line : List Char} (blank : IsIndentation line) :
    blankLine line = [] := by
  rw [blankLine, if_pos (isIndentation_iff.2 blank)]

/-- **Lines that leave nothing for a margin**: none of them has spaces and tabs in it and nothing
else, and those that have anything else share no indentation. -/
structure IsFlush (lines : List (List Char)) : Prop where
  visible : ∀ line ∈ lines, line ≠ [] → ¬ IsIndentation line
  noMargin : (∃ line ∈ lines, ¬ IsIndentation line) → ∀ start, IsIndentation start →
    (∀ line ∈ lines, ¬ IsIndentation line → start <+: line) → start = []

/-- Empty lines do not matter. -/
theorem IsFlush.congr {lines others : List (List Char)} (flush : IsFlush lines)
    (same : ∀ line, line ≠ [] → (line ∈ others ↔ line ∈ lines)) : IsFlush others where
  visible line member filled := flush.visible line ((same line filled).1 member) filled
  noMargin := by
    have shown {line : List Char} (visible : ¬ IsIndentation line) :
        line ∈ others ↔ line ∈ lines :=
      same line fun empty => visible (empty ▸ IsIndentation.nil)
    rintro ⟨line, member, visible⟩ start blank front
    refine flush.noMargin ⟨line, (shown visible).1 member, visible⟩ start blank ?_
    exact fun other within seen => front other ((shown seen).2 within) seen

/-- Blanking changes no line that is empty or has more than indentation. -/
theorem blankLine_eq_self {line : List Char} (visible : line ≠ [] → ¬ IsIndentation line) :
    blankLine line = line := by
  by_cases empty : line = []
  · rw [empty]
    rfl
  · exact blankLine_of_visible (visible empty)

/-- A line keeps what is behind the margin. -/
theorem margin_start {lines : List (List Char)} {line : List Char} (member : line ∈ lines)
    (filled : line ≠ []) : IsIndentation (margin lines) ∧ margin lines <+: line := by
  obtain ⟨blank, front⟩ := (prefix_margin_iff ⟨line, member, filled⟩).1 (List.prefix_refl _)
  exact ⟨blank, front line member filled⟩

/-- Flush lines stay as they are. -/
theorem dedentLines_eq_self {lines : List (List Char)} (flush : IsFlush lines) :
    dedentLines lines = lines := by
  have kept : lines.map blankLine = lines :=
    (List.map_congr_left fun line member => blankLine_eq_self (flush.visible line member)).trans
      (List.map_id _)
  have still (line : List Char) (member : line ∈ lines) :
      line.drop (margin lines).length = line := by
    by_cases empty : line = []
    · rw [empty, List.drop_nil]
    · have visible := flush.visible line member empty
      have none : margin lines = [] :=
        flush.noMargin ⟨line, member, visible⟩ _ (margin_start member empty).1
          fun other within seen =>
            (margin_start within fun nothing => seen (nothing ▸ IsIndentation.nil)).2
      rw [none, List.length_nil, List.drop_zero]
  rw [dedentLines, kept]
  exact (List.map_congr_left still).trans (List.map_id _)

theorem mem_map_blankLine {lines : List (List Char)} {line : List Char} (filled : line ≠ []) :
    line ∈ lines.map blankLine ↔ line ∈ lines ∧ ¬ IsIndentation line := by
  rw [List.mem_map]
  constructor
  · rintro ⟨before, member, rfl⟩
    have visible : ¬ IsIndentation before := fun blank => filled (blankLine_of_indentation blank)
    rw [blankLine_of_visible visible]
    exact ⟨member, visible⟩
  · rintro ⟨member, visible⟩
    exact ⟨line, member, blankLine_of_visible visible⟩

/-- A line without its margin, and the line that it was. -/
theorem mem_dedentLines {lines : List (List Char)} {line : List Char} (filled : line ≠ []) :
    line ∈ dedentLines lines ↔ margin (lines.map blankLine) ++ line ∈ lines.map blankLine := by
  rw [dedentLines, List.mem_map]
  constructor
  · rintro ⟨before, member, rfl⟩
    have long : before ≠ [] := by
      rintro rfl
      exact filled List.drop_nil
    obtain ⟨-, rest, rfl⟩ := margin_start member long
    rwa [List.drop_left]
  · intro member
    exact ⟨_, member, List.drop_left⟩

/-- **Lines without their margin are flush.** -/
theorem isFlush_dedentLines (lines : List (List Char)) : IsFlush (dedentLines lines) where
  visible line member filled := by
    rw [mem_dedentLines filled] at member
    have long : margin (lines.map blankLine) ++ line ≠ [] := by simp [filled]
    have indented := (margin_start member long).1
    rw [mem_map_blankLine long, isIndentation_append] at member
    exact fun blank => member.2 ⟨indented, blank⟩
  noMargin := by
    rintro ⟨line, member, visible⟩ start blank front
    have filled : line ≠ [] := fun empty => visible (empty ▸ IsIndentation.nil)
    rw [mem_dedentLines filled] at member
    have long : margin (lines.map blankLine) ++ line ≠ [] := by simp [filled]
    -- With the margin before it, the start would be a longer margin.
    have longer : margin (lines.map blankLine) ++ start <+: margin (lines.map blankLine) := by
      rw [prefix_margin_iff ⟨_, member, long⟩, isIndentation_append]
      refine ⟨⟨(margin_start member long).1, blank⟩, fun other within some => ?_⟩
      obtain ⟨indented, rest, rfl⟩ := margin_start within some
      have seen := ((mem_map_blankLine some).1 within).2
      have more : ¬ IsIndentation rest := fun only => seen (isIndentation_append.2 ⟨indented, only⟩)
      have short : rest ≠ [] := fun empty => more (empty ▸ IsIndentation.nil)
      rw [List.prefix_append_right_inj]
      exact front rest ((mem_dedentLines short).2 within) more
    have count := longer.length_le
    rw [List.length_append] at count
    exact List.eq_nil_of_length_eq_zero (by omega)

/-- A margin can be taken off just once, and the lines that stay the same are those without one. -/
theorem isFlush_iff_dedentLines {lines : List (List Char)} :
    IsFlush lines ↔ dedentLines lines = lines :=
  ⟨dedentLines_eq_self, fun same => same ▸ isFlush_dedentLines lines⟩

instance (lines : List (List Char)) : Decidable (IsFlush lines) :=
  decidable_of_iff _ isFlush_iff_dedentLines.symm

-- Spaces and tabs are different indentation.
example : IsFlush [[' ', 'a'], ['\t', 'b']] ∧ ¬ IsFlush [['\t', 'a'], ['\t', ' ', 'b']] := by decide

/-! ## What a literal stands for -/

theorem newline_notMem_dedentLines {chars line : List Char}
    (member : line ∈ dedentLines (splitNewlines chars)) : '\n' ∉ line := by
  rw [dedentLines, List.mem_map] at member
  obtain ⟨shown, member, rfl⟩ := member
  obtain ⟨before, source, rfl⟩ := List.mem_map.1 member
  intro feed
  have within := List.mem_of_mem_drop feed
  rw [blankLine] at within
  split at within
  · exact absurd within List.not_mem_nil
  · exact newline_notMem_of_mem_splitNewlines source within

theorem splitNewlines_dedent (chars : List Char) :
    splitNewlines (dedent chars) = dedentLines (splitNewlines chars) := by
  refine splitNewlines_joinNewlines ?_ fun _ => newline_notMem_dedentLines
  intro empty
  simp only [dedentLines, List.map_eq_nil_iff] at empty
  exact splitNewlines_ne_nil chars empty

/-- What a literal stands for is flush. -/
theorem isFlush_normalizeInline (literal : String) :
    IsFlush (splitNewlines (normalizeInline literal).toList) := by
  have flush := isFlush_dedentLines (splitNewlines literal.toList)
  rw [← splitNewlines_dedent] at flush
  rw [normalizeInline, String.toList_ofList]
  exact flush.congr fun _ => mem_splitNewlines_strip

/-- Of a flush literal only the line feeds at its ends are lost. -/
theorem normalizeInline_of_isFlush {literal : String}
    (flush : IsFlush (splitNewlines literal.toList)) :
    normalizeInline literal = trimmed literal := by
  rw [normalizeInline, dedent, dedentLines_eq_self flush, joinNewlines_splitNewlines, trimmed]

theorem trimmed_normalizeInline (literal : String) :
    trimmed (normalizeInline literal) = normalizeInline literal := by
  rw [trimmed, normalizeInline, String.toList_ofList, stripNewlines, stripNewlines,
    stripWhere_idem]

/-! ## Literals with an indentation -/

/-- A line with an indentation, which an empty line does not get. -/
def indentLine (indent line : List Char) : List Char :=
  if line = [] then [] else indent ++ line

/-- A text as an indented literal: its lines stand between the line of the opening quotes and that
of the closing ones. -/
def indented (indent : List Char) (text : String) : String :=
  String.ofList <|
    '\n' :: (joinNewlines ((splitNewlines text.toList).map (indentLine indent)) ++ '\n' :: indent)

theorem blankLine_indentLine {indent line : List Char}
    (visible : line ≠ [] → ¬ IsIndentation line) :
    blankLine (indentLine indent line) = indentLine indent line := by
  refine blankLine_eq_self fun filled => ?_
  rw [indentLine] at filled ⊢
  split
  · next empty => exact absurd (if_pos empty) filled
  · next some => exact fun only => visible some (isIndentation_append.1 only).2

/-- The lines of an indented text, but for the empty ones. -/
theorem mem_indented_iff {indent line : List Char} {lines : List (List Char)} (filled : line ≠ []) :
    line ∈ [] :: (lines.map (indentLine indent) ++ [[]]) ↔
      ∃ before ∈ lines, before ≠ [] ∧ indent ++ before = line := by
  simp only [List.mem_cons, List.mem_append, List.mem_map, filled, List.not_mem_nil, or_false,
    false_or]
  refine exists_congr fun before => and_congr_right fun _ => ?_
  by_cases empty : before = []
  · rw [indentLine, if_pos empty]
    exact ⟨fun same => absurd same.symm filled, fun more => absurd empty more.1⟩
  · rw [indentLine, if_neg empty]
    exact ⟨fun same => ⟨empty, same⟩, And.right⟩

section Indented

variable {indent : List Char} (blank : IsIndentation indent) {lines : List (List Char)}
include blank

theorem splitNewlines_indentation : splitNewlines indent = [indent] := by
  have single := splitNewlines_joinNewlines (List.cons_ne_nil indent []) fun line member => by
    rw [List.mem_singleton.1 member]
    exact blank.newline_notMem
  simpa [joinNewlines] using single

theorem splitNewlines_indented (text : String) :
    splitNewlines (indented indent text).toList =
      [] :: ((splitNewlines text.toList).map (indentLine indent) ++ [indent]) := by
  have body : splitNewlines (joinNewlines ((splitNewlines text.toList).map (indentLine indent))) =
      (splitNewlines text.toList).map (indentLine indent) := by
    refine splitNewlines_joinNewlines ?_ fun line member => ?_
    · simpa using splitNewlines_ne_nil text.toList
    · obtain ⟨before, source, rfl⟩ := List.mem_map.1 member
      rw [indentLine]
      split
      · exact List.not_mem_nil
      · rw [List.mem_append, not_or]
        exact ⟨blank.newline_notMem, newline_notMem_of_mem_splitNewlines source⟩
  have first := splitNewlines_newline []
    (joinNewlines ((splitNewlines text.toList).map (indentLine indent)) ++ '\n' :: indent)
  rw [indented, String.toList_ofList, ← List.nil_append ('\n' :: _), first, splitNewlines_newline,
    body, splitNewlines_indentation blank]
  rfl

/-- The margin of an indented text is the indentation. -/
theorem margin_indented (flush : IsFlush lines) (some : ∃ line ∈ lines, line ≠ []) :
    margin ([] :: (lines.map (indentLine indent) ++ [[]])) = indent := by
  have longer {line : List Char} (filled : line ≠ []) : indent ++ line ≠ [] := by simp [filled]
  have into {line : List Char} (member : line ∈ lines) (filled : line ≠ []) :
      indent ++ line ∈ [] :: (lines.map (indentLine indent) ++ [[]]) :=
    (mem_indented_iff (longer filled)).2 ⟨line, member, filled, rfl⟩
  obtain ⟨line, member, filled⟩ := some
  obtain ⟨rest, split⟩ : indent <+: margin ([] :: (lines.map (indentLine indent) ++ [[]])) := by
    refine (prefix_margin_iff ⟨_, into member filled, longer filled⟩).2 ⟨blank, ?_⟩
    intro other within visible
    obtain ⟨before, -, -, rfl⟩ := (mem_indented_iff visible).1 within
    exact List.prefix_append _ _
  -- What the margin had beyond the indentation would be a margin of the flush lines.
  have nothing : rest = [] := by
    refine flush.noMargin ⟨line, member, flush.visible line member filled⟩ rest ?_ ?_
    · have only := (margin_start (into member filled) (longer filled)).1
      rw [← split, isIndentation_append] at only
      exact only.2
    · intro other within visible
      have seen : other ≠ [] := fun empty => visible (empty ▸ IsIndentation.nil)
      have start := (margin_start (into within seen) (longer seen)).2
      rwa [← split, List.prefix_append_right_inj] at start
  rw [← split, nothing, List.append_nil]

theorem dedentLines_indented (flush : IsFlush lines) :
    dedentLines ([] :: (lines.map (indentLine indent) ++ [indent])) = [] :: (lines ++ [[]]) := by
  have shown : ([] :: (lines.map (indentLine indent) ++ [indent])).map blankLine =
      [] :: (lines.map (indentLine indent) ++ [[]]) := by
    rw [List.map_cons, List.map_append, List.map_map, List.map_singleton,
      blankLine_of_indentation blank, blankLine_of_indentation IsIndentation.nil]
    have same : lines.map (blankLine ∘ indentLine indent) = lines.map (indentLine indent) :=
      List.map_congr_left fun line member => blankLine_indentLine (flush.visible line member)
    rw [same]
  have back : (lines.map (indentLine indent)).map
      (List.drop (margin ([] :: (lines.map (indentLine indent) ++ [[]]))).length) = lines := by
    rw [List.map_map]
    refine (List.map_congr_left fun line member => ?_).trans (List.map_id _)
    rw [Function.comp_apply]
    by_cases empty : line = []
    · rw [indentLine, if_pos empty, empty, List.drop_nil, id]
    · rw [margin_indented blank flush ⟨line, member, empty⟩, indentLine, if_neg empty,
        List.drop_left, id]
  rw [dedentLines, shown]
  simp only [List.map_cons, List.map_append, List.drop_nil, List.map_nil, back]

/-- **An indented literal stands for the text that it was made of.** -/
theorem normalizeInline_indented {text : String} (flush : IsFlush (splitNewlines text.toList)) :
    normalizeInline (indented indent text) = trimmed text := by
  have lines : [] :: (splitNewlines text.toList ++ [[]]) =
      splitNewlines ('\n' :: (text.toList ++ ['\n'])) := by
    have first := splitNewlines_newline [] (text.toList ++ ['\n'])
    rw [List.nil_append] at first
    rw [first, splitNewlines_newline]
    rfl
  rw [normalizeInline, dedent, splitNewlines_indented blank, dedentLines_indented blank flush,
    lines, joinNewlines_splitNewlines, stripNewlines, stripWhere_padded (by rfl) (by rfl)]
  rfl

end Indented

end Text

/-! ## Texts beside literals -/

theorem Record.compareInline_eq_ok_iff {record : Record} {literal : String} :
    record.compareInline literal = .ok () ↔
      trimmed record.content = Text.normalizeInline literal := by
  rw [Record.compareInline]
  split <;> simp_all

theorem trimmed_trimmed (text : String) : trimmed (trimmed text) = trimmed text := by
  rw [trimmed, trimmed, String.toList_ofList, Text.stripNewlines, Text.stripNewlines,
    Text.stripWhere_idem]

/-- **Which texts pass beside a literal**: those that are flush once the line feeds at their ends
are off.  They pass beside the literal that is their lines with any indentation, and what a literal
stands for stands for itself. -/
theorem Record.passes_inline_iff_flush (record : Record) :
    ((∃ literal, record.compareInline literal = .ok ()) ↔
      Text.IsFlush (Text.splitNewlines (trimmed record.content).toList)) ∧
    (Text.IsFlush (Text.splitNewlines (trimmed record.content).toList) →
      ∀ indent, Text.IsIndentation indent →
        record.compareInline (Text.indented indent (trimmed record.content)) = .ok ()) ∧
    ∀ text, Text.normalizeInline (Text.normalizeInline text) = Text.normalizeInline text := by
  have passes (flush : Text.IsFlush (Text.splitNewlines (trimmed record.content).toList))
      (indent : List Char) (blank : Text.IsIndentation indent) :
      record.compareInline (Text.indented indent (trimmed record.content)) = .ok () := by
    rw [Record.compareInline_eq_ok_iff, Text.normalizeInline_indented blank flush,
      trimmed_trimmed]
  refine ⟨⟨?_, fun flush => ⟨_, passes flush [] Text.IsIndentation.nil⟩⟩, passes, fun text => ?_⟩
  · rintro ⟨literal, pass⟩
    rw [Record.compareInline_eq_ok_iff.1 pass]
    exact Text.isFlush_normalizeInline literal
  · rw [Text.normalizeInline_of_isFlush (Text.isFlush_normalizeInline text),
      Text.trimmed_normalizeInline]

/-- A text with an empty line and an indented one, beside a literal that a space and a tab
indent. -/
theorem mixed_indentation_passes :
    Text.IsFlush (Text.splitNewlines (trimmed "\nkey\n\n\tvalue\n").toList) ∧
    Text.IsIndentation [' ', '\t'] ∧
    Record.compareInline ⟨"inline", "\nkey\n\n\tvalue\n"⟩ "\n \tkey\n\n \t\tvalue\n \t" =
      .ok () := by
  have shown : trimmed "\nkey\n\n\tvalue\n" = "key\n\n\tvalue" := rfl
  have literal : Text.indented [' ', '\t'] "key\n\n\tvalue" =
      "\n \tkey\n\n \t\tvalue\n \t" := rfl
  have flush : Text.IsFlush (Text.splitNewlines (trimmed "\nkey\n\n\tvalue\n").toList) := by
    rw [shown, Text.isFlush_iff_dedentLines]
    rfl
  have blank : Text.IsIndentation [' ', '\t'] := Text.isIndentation_iff.1 rfl
  have passes :=
    (Record.passes_inline_iff_flush ⟨"inline", "\nkey\n\n\tvalue\n"⟩).2.1 flush _ blank
  rw [shown, literal] at passes
  exact ⟨flush, blank, passes⟩

end IndexSnapshot
