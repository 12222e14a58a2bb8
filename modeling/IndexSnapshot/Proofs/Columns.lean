/-
# IndexSnapshot.Proofs.Columns -- what can be read off a line

A line is made of columns with a space behind each of them, and often of document ids at its
end.  Nothing is escaped, so a line can be taken apart again only as far as its texts let it:
a text must not end in a space that could as well be filling, and one that sticks out of its
column, with more behind it, must have no space there.  Integers and document ids never do.

* `Text.column_inj`: a column shows its text.
* `Text.column_append_inj` and `Text.append_column_inj`: a column is told from what stands
  behind it or before it.
* `Line.append_docids_inj`: so are document ids.
* `unlines_inj`: and lines, if they have no line feed.
-/
import IndexSnapshot.Snapshot.Text
import Mathlib

namespace IndexSnapshot

set_option autoImplicit false

/-! ## Lists cut in two -/

section Lists

variable {α β : Type}

/-- A list is cut in one way at the first place where something stands. -/
theorem eq_of_append_cons {c : α} {p q r s : List α} (hp : c ∉ p) (hq : c ∉ q)
    (same : p ++ c :: r = q ++ c :: s) : p = q ∧ r = s := by
  induction p generalizing q with
  | nil =>
      cases q with
      | nil => exact ⟨rfl, (List.cons.inj same).2⟩
      | cons b q =>
          have first := (List.cons.inj same).1
          exact absurd (first ▸ List.mem_cons_self) hq
  | cons a p ih =>
      cases q with
      | nil =>
          have first := (List.cons.inj same).1
          exact absurd (first ▸ List.mem_cons_self) hp
      | cons b q =>
          obtain ⟨rfl, tails⟩ := List.cons.inj same
          rw [List.mem_cons, not_or] at hp hq
          obtain ⟨rfl, rest⟩ := ih hp.2 hq.2 tails
          exact ⟨rfl, rest⟩

/-- And in one way at the last place. -/
theorem eq_of_append_cons_last {c : α} {p q r s : List α} (hr : c ∉ r) (hs : c ∉ s)
    (same : p ++ c :: r = q ++ c :: s) : p = q ∧ r = s := by
  have turned : r.reverse ++ c :: p.reverse = s.reverse ++ c :: q.reverse := by
    have := congrArg List.reverse same
    simpa using this
  rw [← List.mem_reverse] at hr hs
  obtain ⟨back, front⟩ := eq_of_append_cons hr hs turned
  exact ⟨List.reverse_injective front, List.reverse_injective back⟩

/-- What is added to fill up can be taken away again, if there was none of it at the end. -/
theorem eq_of_append_replicate {c : α} {p q : List α} {m n : Nat} (hp : p.getLast? ≠ some c)
    (hq : q.getLast? ≠ some c)
    (same : p ++ List.replicate m c = q ++ List.replicate n c) : p = q := by
  induction m generalizing n with
  | zero =>
      cases n with
      | zero => simpa using same
      | succ n =>
          rw [List.replicate_zero, List.append_nil, List.replicate_succ', ← List.append_assoc]
            at same
          rw [same, List.getLast?_concat] at hp
          exact absurd rfl hp
  | succ m ih =>
      cases n with
      | zero =>
          rw [List.replicate_zero, List.append_nil, List.replicate_succ', ← List.append_assoc]
            at same
          rw [← same, List.getLast?_concat] at hq
          exact absurd rfl hq
      | succ n =>
          rw [List.replicate_succ', List.replicate_succ', ← List.append_assoc,
            ← List.append_assoc, List.append_cancel_right_eq] at same
          exact ih same

/-- Pieces with the same end behind each of them are told apart by the first character of it. -/
theorem eq_of_flatMap_append {stop : α} {rest : List α} {pieces others : List (List α)}
    (hp : ∀ piece ∈ pieces, stop ∉ piece) (ho : ∀ piece ∈ others, stop ∉ piece)
    (same : pieces.flatMap (· ++ stop :: rest) = others.flatMap (· ++ stop :: rest)) :
    pieces = others := by
  induction pieces generalizing others with
  | nil =>
      cases others with
      | nil => rfl
      | cons other others => simp at same
  | cons piece pieces ih =>
      cases others with
      | nil => simp at same
      | cons other others =>
          rw [List.forall_mem_cons] at hp ho
          simp only [List.flatMap_cons, List.append_assoc, List.cons_append] at same
          obtain ⟨rfl, tail⟩ := eq_of_append_cons hp.1 ho.1 same
          rw [ih hp.2 ho.2 (List.append_cancel_left tail)]

/-- Lists with the same images are the same, if members are told apart by their images. -/
theorem eq_of_map_eq {f : α → β} {as bs : List α}
    (apart : ∀ a ∈ as, ∀ b ∈ bs, f a = f b → a = b) (same : as.map f = bs.map f) : as = bs := by
  induction as generalizing bs with
  | nil => exact (List.map_eq_nil_iff.1 same.symm).symm
  | cons a as ih =>
      cases bs with
      | nil => cases same
      | cons b bs =>
          obtain ⟨first, rest⟩ := List.cons.inj same
          have head := apart a List.mem_cons_self b List.mem_cons_self first
          have tail := ih (fun a ha b hb => apart a (.tail _ ha) b (.tail _ hb)) rest
          rw [head, tail]

end Lists

/-! ## Columns -/

namespace Text

/-- A text that fits its column does not end in a space. -/
def EndsVisibly (width : Nat) (text : String) : Prop :=
  text.length ≤ width → text.toList.getLast? ≠ some ' '

/-- Where a text sticks out of its column, it has no space. -/
def StaysTogether (width : Nat) (text : String) : Prop :=
  ' ' ∉ text.toList.drop width

/-- A text without spaces that is not empty. -/
structure Unbroken (text : String) : Prop where
  filled : text ≠ ""
  noSpace : ' ' ∉ text.toList

instance (width : Nat) (text : String) : Decidable (EndsVisibly width text) :=
  inferInstanceAs (Decidable (_ → _))

instance (width : Nat) (text : String) : Decidable (StaysTogether width text) :=
  inferInstanceAs (Decidable (¬ _))

variable {width : Nat} {a b s t : String}

theorem Unbroken.getLast?_ne (unbroken : Unbroken s) : s.toList.getLast? ≠ some ' ' :=
  fun last => unbroken.noSpace (List.mem_of_getLast? last)

theorem Unbroken.endsVisibly (unbroken : Unbroken s) : EndsVisibly width s :=
  fun _ => unbroken.getLast?_ne

theorem Unbroken.staysTogether (unbroken : Unbroken s) : StaysTogether width s :=
  fun member => unbroken.noSpace (List.mem_of_mem_drop member)

theorem toList_column (width : Nat) (text : String) :
    (column width text).toList = text.toList ++ List.replicate (width - text.length) ' ' := by
  rw [column, String.toList_append, String.toList_ofList]

theorem length_column (width : Nat) (text : String) :
    (column width text).toList.length = max text.length width := by
  rw [toList_column, List.length_append, List.length_replicate, String.length_toList]
  omega

/-- What sticks out of a column is what sticks out of its text. -/
theorem drop_column (width : Nat) (text : String) :
    (column width text).toList.drop width = text.toList.drop width := by
  rw [toList_column, List.drop_append, String.length_toList, List.drop_replicate, Nat.sub_self,
    List.replicate_zero, List.append_nil]

/-- **A column shows its text**, if the text does not end like filling. -/
theorem column_inj (hs : EndsVisibly width s) (ht : EndsVisibly width t)
    (same : column width s = column width t) : s = t := by
  have lists := congrArg String.toList same
  have lengths := congrArg List.length lists
  rw [length_column, length_column] at lengths
  apply String.toList_injective
  by_cases fits : s.length ≤ width
  · have fitsToo : t.length ≤ width := by omega
    rw [toList_column, toList_column] at lists
    exact eq_of_append_replicate (hs fits) (ht fitsToo) lists
  · rw [toList_column, toList_column, Nat.sub_eq_zero_of_le (by omega),
      Nat.sub_eq_zero_of_le (by omega)] at lists
    simpa using lists

/-- **A column is told from what stands behind it**, if it has no space where it sticks out. -/
theorem column_append_inj (ha : StaysTogether width s) (hb : StaysTogether width t)
    (same : column width s ++ " " ++ a = column width t ++ " " ++ b) :
    column width s = column width t ∧ a = b := by
  have cut (text rest : String) : (column width text ++ " " ++ rest).toList
      = (column width text).toList.take width
        ++ ((column width text).toList.drop width ++ ' ' :: rest.toList) := by
    rw [← List.append_assoc, List.take_append_drop, String.toList_append, String.toList_append,
      List.append_assoc]
    rfl
  have lists := congrArg String.toList same
  rw [cut, cut] at lists
  -- both columns reach their width, and the first space from there on is the one behind them
  have full (text : String) : ((column width text).toList.take width).length = width := by
    rw [List.length_take, length_column]
    omega
  obtain ⟨fronts, backs⟩ := List.append_inj lists ((full s).trans (full t).symm)
  have hs : ' ' ∉ (column width s).toList.drop width := by rwa [drop_column]
  have ht : ' ' ∉ (column width t).toList.drop width := by rwa [drop_column]
  obtain ⟨middles, rests⟩ := eq_of_append_cons hs ht backs
  refine ⟨String.toList_injective ?_, String.toList_injective rests⟩
  rw [← List.take_append_drop width (column width s).toList, fronts, middles,
    List.take_append_drop]

/-- **A column is told from what stands before it**, if its text is unbroken. -/
theorem append_column_inj (hs : Unbroken s) (ht : Unbroken t)
    (same : a ++ " " ++ column width s = b ++ " " ++ column width t) : a = b ∧ s = t := by
  have lists := congrArg String.toList same
  have cut (text start : String) : (start ++ " " ++ column width text).toList
      = (start.toList ++ ' ' :: text.toList) ++ List.replicate (width - text.length) ' ' := by
    simp [toList_column]
  have visible {text : String} (unbroken : Unbroken text) (start : String) :
      (start.toList ++ ' ' :: text.toList).getLast? ≠ some ' ' := by
    obtain ⟨c, last⟩ : ∃ c, text.toList.getLast? = some c :=
      List.getLast?_isSome.2 (mt String.toList_eq_nil_iff.1 unbroken.filled)
        |> Option.isSome_iff_exists.1
    have visible := unbroken.getLast?_ne
    rw [last] at visible
    simpa [List.getLast?_append, List.getLast?_cons, last] using visible
  rw [cut, cut] at lists
  have unfilled := eq_of_append_replicate (visible hs a) (visible ht b) lists
  obtain ⟨fronts, texts⟩ := eq_of_append_cons_last hs.noSpace ht.noSpace unfilled
  exact ⟨String.toList_injective fronts, String.toList_injective texts⟩

/-! ## Integers -/

/-- An integer is written with digits, and perhaps a minus sign. -/
theorem mem_toList_int {n : Int} {c : Char} (member : c ∈ (toString n).toList) :
    c.isDigit = true ∨ c = '-' := by
  have digit {k : Nat} (member : c ∈ k.repr.toList) : c.isDigit = true := by
    rw [Nat.toList_repr] at member
    exact Nat.isDigit_of_mem_toDigits (by decide) (by decide) member
  rw [Int.toString_eq_repr, Int.repr_eq_if] at member
  split at member
  · exact .inl (digit member)
  · rw [String.toList_append, List.mem_append] at member
    rcases member with sign | member
    · exact .inr (List.mem_singleton.1 sign)
    · exact .inl (digit member)

theorem notMem_toList_int {c : Char} (other : c.isDigit = false) (noSign : c ≠ '-') (n : Int) :
    c ∉ (toString n).toList := by
  intro member
  rcases mem_toList_int member with digit | sign
  · rw [other] at digit
    cases digit
  · exact noSign sign

theorem toString_int_inj {m n : Int} : toString m = toString n ↔ m = n := by
  rw [Int.toString_eq_repr, Int.toString_eq_repr, Int.repr_inj]

theorem unbroken_int (n : Int) : Unbroken (toString n) where
  filled := by
    rw [Int.toString_eq_repr, Int.repr_eq_if]
    split
    · exact Nat.repr_ne_empty
    · intro empty
      have sign := congrArg String.length empty
      rw [String.length_append] at sign
      simp at sign
  noSpace := notMem_toList_int (by decide) (by decide) n

theorem intColumn_inj {m n : Int} : intColumn width m = intColumn width n ↔ m = n := by
  constructor
  · intro same
    exact toString_int_inj.1
      (column_inj (unbroken_int m).endsVisibly (unbroken_int n).endsVisibly same)
  · rintro rfl
    rfl

theorem intColumn_append_inj {m n : Int}
    (same : intColumn width m ++ " " ++ a = intColumn width n ++ " " ++ b) : m = n ∧ a = b := by
  obtain ⟨columns, rests⟩ :=
    column_append_inj (unbroken_int m).staysTogether (unbroken_int n).staysTogether same
  have texts := column_inj (unbroken_int m).endsVisibly (unbroken_int n).endsVisibly columns
  exact ⟨toString_int_inj.1 texts, rests⟩

theorem append_intColumn_inj {m n : Int}
    (same : a ++ " " ++ intColumn width m = b ++ " " ++ intColumn width n) : a = b ∧ m = n := by
  obtain ⟨fronts, texts⟩ := append_column_inj (unbroken_int m) (unbroken_int n) same
  exact ⟨fronts, toString_int_inj.1 texts⟩

end Text

/-! ## Document ids -/

namespace Line

/-- The ids between the brackets, each with a comma and a space behind it. -/
def docidPieces (ids : IdSet) : List (List Char) :=
  ids.toList.map fun id => (toString id.toNat).toList

theorem toList_docids (ids : IdSet) : (docids ids).toList
    = '[' :: ((docidPieces ids).flatMap (· ++ ',' :: [' ']) ++ [']']) := by
  simp [docids, docidPieces, String.toList_append, String.toList_join, List.flatMap_map]

theorem isDigit_of_mem_docidPieces {ids : IdSet} {piece : List Char} {c : Char}
    (among : piece ∈ docidPieces ids) (member : c ∈ piece) : c.isDigit = true := by
  obtain ⟨id, -, rfl⟩ := List.mem_map.1 among
  rw [Nat.toString_eq_repr, Nat.toList_repr] at member
  exact Nat.isDigit_of_mem_toDigits (by decide) (by decide) member

/-- Besides digits, there are commas, spaces and brackets in document ids. -/
theorem mem_toList_docids {ids : IdSet} {c : Char} (member : c ∈ (docids ids).toList) :
    c.isDigit = true ∨ c ∈ ['[', ',', ' ', ']'] := by
  rw [toList_docids] at member
  simp only [List.mem_cons, List.mem_append, List.mem_flatMap, List.not_mem_nil, or_false]
    at member ⊢
  rcases member with rfl | ⟨piece, among, digit | rfl | rfl⟩ | rfl
  · exact .inr (.inl rfl)
  · exact .inl (isDigit_of_mem_docidPieces among digit)
  · exact .inr (.inr (.inl rfl))
  · exact .inr (.inr (.inr (.inl rfl)))
  · exact .inr (.inr (.inr (.inr rfl)))

theorem docidPieces_inj {ids others : IdSet} (same : docidPieces ids = docidPieces others) :
    ids = others := by
  have lists : ids.toList = others.toList := by
    apply eq_of_map_eq _ same
    intro i _ j _ texts
    have numbers : i.toNat = j.toNat := by
      rw [Nat.toString_eq_repr, Nat.toString_eq_repr, String.toList_inj, Nat.repr_inj] at texts
      exact texts
    exact UInt32.toNat_inj.1 numbers
  cases ids
  cases others
  cases lists
  rfl

/-- **Document ids are told from what stands before them**, by their opening bracket. -/
theorem append_docids_inj {a b : String} {ids others : IdSet}
    (same : a ++ docids ids = b ++ docids others) : a = b ∧ ids = others := by
  have lists := congrArg String.toList same
  rw [String.toList_append, String.toList_append, toList_docids, toList_docids] at lists
  have noBracket (s : IdSet) :
      '[' ∉ (docidPieces s).flatMap (· ++ ',' :: [' ']) ++ [']'] := by
    simp only [List.mem_append, List.mem_flatMap, List.mem_cons, List.not_mem_nil, or_false,
      not_or, not_exists, not_and]
    refine ⟨fun piece among => ⟨fun member => ?_, by decide, by decide⟩, by decide⟩
    have digit := isDigit_of_mem_docidPieces among member
    exact absurd digit (by decide)
  have noComma (s : IdSet) : ∀ piece ∈ docidPieces s, ',' ∉ piece := by
    intro piece among member
    have digit := isDigit_of_mem_docidPieces among member
    exact absurd digit (by decide)
  obtain ⟨fronts, insides⟩ := eq_of_append_cons_last (noBracket ids) (noBracket others) lists
  have pieces := eq_of_flatMap_append (noComma ids) (noComma others)
    (List.append_cancel_right insides)
  exact ⟨String.toList_injective fronts, docidPieces_inj pieces⟩

end Line

/-! ## Lines -/

theorem toList_unlines (lines : List String) :
    (unlines lines).toList = (lines.map String.toList).flatMap (· ++ '\n' :: []) := by
  simp [unlines, String.toList_join, String.toList_append, List.flatMap_map]

/-- **Lines are told apart** if there is no line feed within them. -/
theorem unlines_inj {lines others : List String} (hl : ∀ line ∈ lines, '\n' ∉ line.toList)
    (ho : ∀ line ∈ others, '\n' ∉ line.toList) (same : unlines lines = unlines others) :
    lines = others := by
  have lists := congrArg String.toList same
  rw [toList_unlines, toList_unlines] at lists
  have pieces := eq_of_flatMap_append (List.forall_mem_map.2 hl) (List.forall_mem_map.2 ho) lists
  exact eq_of_map_eq (fun _ _ _ _ texts => String.toList_injective texts) pieces

end IndexSnapshot
