/-
# IndexSnapshot.Proofs.UnambiguousTexts -- the text of a value shows the value

The stable text of a value is read from the front like this.  Its first character tells what kind
of value it is.  A quoted text ends at the first quote that is not escaped, a number at the first
character that is no digit, and a sequence, a set or a map at its closing bracket, once the values
in it have been read.  So what follows the text of a value is never taken for a part of it, as long
as it begins with a comma, a colon or a closing bracket, and inside a text nothing else follows.

* `Text.ToldApart`: two texts are related, or differ before either of them ends.
* `Text.json_append_inj`: quoted texts, whatever follows them.
* `Text.forall₂_of_intercalate_eq`: texts with commas between them.
* `Value.Resembles`: the same value, but for the order of members and entries and for what kind a
  sequence, or something empty, is.
* `Value.toldApart`: by induction on the first value, texts of values are told apart, whatever
  follows them; so values with one text resemble each other (`Value.resembles_of_display_eq`).
-/
import IndexSnapshot.Proofs.InsertionOrder
import IndexSnapshot.Proofs.NumericSnapshots

namespace IndexSnapshot

set_option autoImplicit false

namespace Text

/-! ## Texts that show where they end -/

/-- The characters that can follow a text inside another one. -/
def marks : List Char :=
  [',', ':', ']', '\x7d']

/-- What can follow a text: nothing, or something that begins with a mark. -/
def Ends (rest : List Char) : Prop :=
  ∀ c, rest.head? = some c → c ∈ marks

/-- Two texts that begin one text, each with an end behind it, are related and end at one place. -/
def ToldApart (related : Prop) (a b : List Char) : Prop :=
  ∀ rest rest', Ends rest → Ends rest' → a ++ rest = b ++ rest' → related ∧ rest = rest'

theorem ToldApart.imp {related other : Prop} {a b : List Char} (apart : ToldApart related a b)
    (weaker : related → other) : ToldApart other a b := by
  intro rest rest' ends ends' same
  obtain ⟨this, rests⟩ := apart rest rest' ends ends' same
  exact ⟨weaker this, rests⟩

theorem ToldApart.symm {related : Prop} {a b : List Char} (apart : ToldApart related a b) :
    ToldApart related b a := by
  intro rest rest' ends ends' same
  obtain ⟨this, rests⟩ := apart rest' rest ends' ends same.symm
  exact ⟨this, rests.symm⟩

/-- A text that is not empty and does not begin with a mark. -/
def Starts (text : List Char) : Prop :=
  ∃ c rest, text = c :: rest ∧ c ∉ marks

theorem ends_nil : Ends [] :=
  fun _ none => by cases none

theorem ends_cons {c : Char} (mark : c ∈ marks) (rest : List Char) :
    Ends (c :: rest) :=
  fun _ head => Option.some.inj head ▸ mark

theorem Starts.ne_cons {text : List Char} (starts : Starts text) {c : Char}
    (mark : c ∈ marks) (rest rest' : List Char) : c :: rest ≠ text ++ rest' := by
  obtain ⟨first, more, rfl, other⟩ := starts
  intro same
  exact other ((List.cons.inj same).1 ▸ mark)

/-! ## Characters of one class -/

/-- Characters of a class are told from an end of another class behind them. -/
theorem eq_of_append_eq {p : Char → Bool} {a b rest rest' : List Char} (inA : ∀ c ∈ a, p c = true)
    (inB : ∀ c ∈ b, p c = true) (out : ∀ c, rest.head? = some c → p c = false)
    (out' : ∀ c, rest'.head? = some c → p c = false) (same : a ++ rest = b ++ rest') :
    a = b ∧ rest = rest' := by
  have cut {a rest : List Char} (inA : ∀ c ∈ a, p c = true)
      (out : ∀ c, rest.head? = some c → p c = false) : (a ++ rest).takeWhile p = a := by
    rw [List.takeWhile_append_of_pos inA]
    cases rest with
    | nil => simp
    | cons c rest => simp [out c rfl]
  obtain rfl : a = b := by rw [← cut inA out, same, cut inB out']
  exact ⟨rfl, List.append_cancel_left same⟩

theorem toldApart_int (m n : Int) : ToldApart (m = n) (toString m).toList (toString n).toList := by
  intro rest rest' ends ends' same
  have numeral (n : Int) : ∀ c ∈ (toString n).toList, (c.isDigit || c == '-') = true := by
    intro c member
    simpa using mem_toList_int member
  have stops {rest : List Char} (ends : Ends rest) :
      ∀ c, rest.head? = some c → (c.isDigit || c == '-') = false := by
    intro c head
    have other : ∀ c ∈ marks, (c.isDigit || c == '-') = false := by simp [marks]
    exact other c (ends c head)
  obtain ⟨texts, tails⟩ := eq_of_append_eq (numeral m) (numeral n) (stops ends) (stops ends') same
  exact ⟨toString_int_inj.1 (String.toList_injective texts), tails⟩

/-! ## Quoted texts -/

theorem length_hexDigits (k n : Nat) : (hexDigits k n).length = k := by
  induction k generalizing n with
  | zero => rfl
  | succ k ih => rw [hexDigits, List.length_append, ih, List.length_singleton]

theorem hexDigits_inj {k m n : Nat} (hm : m < 16 ^ k) (hn : n < 16 ^ k)
    (same : hexDigits k m = hexDigits k n) : m = n := by
  induction k generalizing m n with
  | zero => omega
  | succ k ih =>
      obtain ⟨higher, last⟩ := List.append_inj' same rfl
      have digits := congrArg Bytes.hexValue? (List.singleton_inj.1 last)
      rw [Bytes.hexValue?_hexDigit (by omega), Bytes.hexValue?_hexDigit (by omega)] at digits
      have := ih (by omega) (by omega) higher
      have := Option.some.inj digits
      omega

/-- The characters that have a short escape, each with its letter. -/
def shortEscapes : List (Char × Char) :=
  [('"', '"'), ('\\', '\\'), ('\n', 'n'), ('\r', 'r'), ('\t', 't'), ('\x08', 'b'), ('\x0c', 'f')]

theorem mem_shortEscapes_of_jsonShort? {c letter : Char} (short : jsonShort? c = some letter) :
    (c, letter) ∈ shortEscapes := by
  unfold jsonShort? at short
  split at short
  case h_8 => cases short
  all_goals
    obtain rfl := Option.some.inj short
    decide

theorem jsonShort?_inj {c d letter : Char} (first : jsonShort? c = some letter)
    (second : jsonShort? d = some letter) : c = d := by
  have apart : ∀ p ∈ shortEscapes, ∀ q ∈ shortEscapes, p.2 = q.2 → p.1 = q.1 := by decide
  exact apart _ (mem_shortEscapes_of_jsonShort? first) _ (mem_shortEscapes_of_jsonShort? second) rfl

/-- The three forms of a character between double quotes. -/
theorem jsonChar_cases (c : Char) :
    (∃ letter, jsonShort? c = some letter ∧ jsonChar c = ['\\', letter]) ∨
    (c.toNat < 0x20 ∧ jsonChar c = '\\' :: 'u' :: hexDigits 4 c.toNat) ∨
    (jsonShort? c = none ∧ jsonChar c = [c]) := by
  rw [jsonChar]
  cases short : jsonShort? c with
  | some letter => exact .inl ⟨letter, rfl, rfl⟩
  | none =>
      dsimp only
      split
      case isTrue control => exact .inr (.inl ⟨control, rfl⟩)
      case isFalse shown => exact .inr (.inr ⟨rfl, rfl⟩)

/-- A character between double quotes does not begin like the quote behind them. -/
theorem exists_jsonChar_eq (c : Char) : ∃ first rest, jsonChar c = first :: rest ∧ first ≠ '"' := by
  rcases jsonChar_cases c with ⟨letter, -, form⟩ | ⟨-, form⟩ | ⟨short, form⟩
  · exact ⟨_, _, form, by decide⟩
  · exact ⟨_, _, form, by decide⟩
  · refine ⟨_, _, form, ?_⟩
    rintro rfl
    cases short

theorem jsonChar_append_inj {c d : Char} {rest rest' : List Char}
    (same : jsonChar c ++ rest = jsonChar d ++ rest') : c = d ∧ rest = rest' := by
  have letter_ne {c letter : Char} (short : jsonShort? c = some letter) : letter ≠ 'u' := by
    have others : ∀ p ∈ shortEscapes, p.2 ≠ 'u' := by decide
    exact others _ (mem_shortEscapes_of_jsonShort? short)
  have ne_backslash {c : Char} (short : jsonShort? c = none) : c ≠ '\\' := by
    rintro rfl
    cases short
  rcases jsonChar_cases c with ⟨letter, short, form⟩ | ⟨control, form⟩ | ⟨plain, form⟩ <;>
    rcases jsonChar_cases d with ⟨letter', short', form'⟩ | ⟨control', form'⟩ | ⟨plain', form'⟩ <;>
    rw [form, form'] at same
  · simp only [List.cons_append, List.nil_append, List.cons.injEq, true_and] at same
    obtain ⟨rfl, tails⟩ := same
    exact ⟨jsonShort?_inj short short', tails⟩
  · simp [letter_ne short] at same
  · simp [(ne_backslash plain').symm] at same
  · simp [(letter_ne short').symm] at same
  · simp only [List.cons_append, List.cons.injEq, true_and] at same
    obtain ⟨digits, tails⟩ := List.append_inj same (by rw [length_hexDigits, length_hexDigits])
    have numbers := hexDigits_inj (by omega) (by omega) digits
    exact ⟨Char.toNat_inj.1 numbers, tails⟩
  · simp [(ne_backslash plain').symm] at same
  · simp [ne_backslash plain] at same
  · simp [ne_backslash plain] at same
  · simpa using same

/-- **Quoted texts are told apart**, whatever follows them. -/
theorem json_append_inj {s t : String} {rest rest' : List Char}
    (same : (json s).toList ++ rest = (json t).toList ++ rest') : s = t ∧ rest = rest' := by
  have chars {cs ds : List Char}
      (same : cs.flatMap jsonChar ++ '"' :: rest = ds.flatMap jsonChar ++ '"' :: rest') :
      cs = ds ∧ rest = rest' := by
    induction cs generalizing ds with
    | nil =>
        cases ds with
        | nil => exact ⟨rfl, (List.cons.inj same).2⟩
        | cons d ds =>
            obtain ⟨first, more, form, other⟩ := exists_jsonChar_eq d
            simp [form, Ne.symm other] at same
    | cons c cs ih =>
        cases ds with
        | nil =>
            obtain ⟨first, more, form, other⟩ := exists_jsonChar_eq c
            simp [form, other] at same
        | cons d ds =>
            simp only [List.flatMap_cons, List.append_assoc] at same
            obtain ⟨rfl, tails⟩ := jsonChar_append_inj same
            obtain ⟨rfl, rests⟩ := ih tails
            exact ⟨rfl, rests⟩
  simp only [json, String.toList_ofList, List.cons_append, List.append_assoc, List.nil_append,
    List.cons.injEq, true_and] at same
  obtain ⟨texts, rests⟩ := chars same
  exact ⟨String.toList_injective texts, rests⟩

theorem toldApart_json (s t : String) : ToldApart (s = t) (json s).toList (json t).toList :=
  fun _ _ _ _ same => json_append_inj same

/-! ## Texts with commas between them -/

/-- Texts with commas between them, in brackets. -/
def grouped (first last : Char) (texts : List (List Char)) : List Char :=
  first :: ([',', ' '].intercalate texts ++ [last])

theorem grouped_append_eq_iff {first last : Char} {texts others : List (List Char)}
    {rest rest' : List Char} :
    grouped first last texts ++ rest = grouped first last others ++ rest' ↔
      [',', ' '].intercalate texts ++ last :: rest =
        [',', ' '].intercalate others ++ last :: rest' := by
  simp [grouped]

theorem toList_bracketed (left right : String) (texts : List String) :
    (Value.bracketed left right texts).toList =
      left.toList ++ ([',', ' '].intercalate (texts.map String.toList) ++ right.toList) := by
  simp [Value.bracketed, String.toList_intercalate]

section Lists

variable {α : Type} {R : α → α → Prop} {text : α → List Char} {as bs : List α} {close : Char}
  {rest rest' : List Char}

/-- What stands behind the first of some texts: each other one with a comma and a space before it,
then a bracket and what follows it. -/
def afterFirst (text : α → List Char) (close : Char) (items : List α) (rest : List Char) :
    List Char :=
  items.flatMap (fun a => ',' :: ' ' :: text a) ++ close :: rest

theorem intercalate_append_eq (a : α) :
    [',', ' '].intercalate ((a :: as).map text) ++ close :: rest =
      text a ++ afterFirst text close as rest := by
  induction as generalizing a with
  | nil => simp [afterFirst]
  | cons b as ih =>
      rw [List.map_cons, List.map_cons, List.intercalate_cons_cons, List.append_assoc,
        ← List.map_cons, ih b]
      simp [afterFirst]

theorem ends_afterFirst (mark : close ∈ marks) : Ends (afterFirst text close as rest) := by
  cases as with
  | nil => exact ends_cons mark rest
  | cons a as => exact ends_cons (by decide) _

theorem forall₂_of_afterFirst_eq (bracket : close ≠ ',') (mark : close ∈ marks)
    (apart : ∀ a ∈ as, ∀ b ∈ bs, ToldApart (R a b) (text a) (text b))
    (same : afterFirst text close as rest = afterFirst text close bs rest') :
    List.Forall₂ R as bs ∧ rest = rest' := by
  induction as generalizing bs with
  | nil =>
      cases bs with
      | nil => exact ⟨.nil, (List.cons.inj same).2⟩
      | cons b bs => exact absurd (List.cons.inj same).1 bracket
  | cons a as ih =>
      cases bs with
      | nil => exact absurd (List.cons.inj same).1.symm bracket
      | cons b bs =>
          have tails : text a ++ afterFirst text close as rest =
              text b ++ afterFirst text close bs rest' := by
            simpa [afterFirst] using same
          obtain ⟨first, tails⟩ := apart a List.mem_cons_self b List.mem_cons_self _ _
            (ends_afterFirst mark) (ends_afterFirst mark) tails
          obtain ⟨others, rests⟩ :=
            ih (fun a ha b hb => apart a (.tail _ ha) b (.tail _ hb)) tails
          exact ⟨.cons first others, rests⟩

/-- **Texts with commas between them are told apart one by one**, if each of them is. -/
theorem forall₂_of_intercalate_eq (bracket : close ≠ ',') (mark : close ∈ marks)
    (starts : ∀ a ∈ as, Starts (text a)) (starts' : ∀ b ∈ bs, Starts (text b))
    (apart : ∀ a ∈ as, ∀ b ∈ bs, ToldApart (R a b) (text a) (text b))
    (same : [',', ' '].intercalate (as.map text) ++ close :: rest =
      [',', ' '].intercalate (bs.map text) ++ close :: rest') :
    List.Forall₂ R as bs ∧ rest = rest' := by
  cases as with
  | nil =>
      cases bs with
      | nil => exact ⟨.nil, (List.cons.inj same).2⟩
      | cons b bs =>
          rw [intercalate_append_eq] at same
          exact absurd same ((starts' b List.mem_cons_self).ne_cons mark _ _)
  | cons a as =>
      cases bs with
      | nil =>
          rw [intercalate_append_eq] at same
          exact absurd same.symm ((starts a List.mem_cons_self).ne_cons mark _ _)
      | cons b bs =>
          rw [intercalate_append_eq, intercalate_append_eq] at same
          obtain ⟨first, tails⟩ := apart a List.mem_cons_self b List.mem_cons_self _ _
            (ends_afterFirst mark) (ends_afterFirst mark) same
          obtain ⟨others, rests⟩ := forall₂_of_afterFirst_eq bracket mark
            (fun a ha b hb => apart a (.tail _ ha) b (.tail _ hb)) tails
          exact ⟨.cons first others, rests⟩

end Lists

end Text

/-! ## Values that look the same -/

namespace Value

open Text

/-- A value made of nothing, truth values, integers, texts, lists, tuples, sets and maps. -/
inductive IsBasic : Value → Prop where
  | none : IsBasic .none
  | bool (b : Bool) : IsBasic (.bool b)
  | int (n : Int) : IsBasic (.int n)
  | text (s : String) : IsBasic (.text s)
  | list {items : List Value} (inner : ∀ v ∈ items, IsBasic v) : IsBasic (.list items)
  | tuple {items : List Value} (inner : ∀ v ∈ items, IsBasic v) : IsBasic (.tuple items)
  | set {members : List Value} (inner : ∀ v ∈ members, IsBasic v) : IsBasic (.set members)
  | map {entries : List (Value × Value)} (innerKeys : ∀ e ∈ entries, IsBasic e.1)
      (inner : ∀ e ∈ entries, IsBasic e.2) : IsBasic (.map entries)

/-- The same value, but for the order of members and entries, for whether a sequence is a list or
a tuple, and for whether something empty is a set or a map. -/
inductive Resembles : Value → Value → Prop where
  | none : Resembles .none .none
  | bool (b : Bool) : Resembles (.bool b) (.bool b)
  | int (n : Int) : Resembles (.int n) (.int n)
  | text (s : String) : Resembles (.text s) (.text s)
  | list {items others : List Value} (each : List.Forall₂ Resembles items others) :
      Resembles (.list items) (.list others)
  | tuple {items others : List Value} (each : List.Forall₂ Resembles items others) :
      Resembles (.tuple items) (.tuple others)
  | listTuple {items others : List Value} (each : List.Forall₂ Resembles items others) :
      Resembles (.list items) (.tuple others)
  | tupleList {items others : List Value} (each : List.Forall₂ Resembles items others) :
      Resembles (.tuple items) (.list others)
  | set {members others shown shown' : List Value} (left : shown.Perm members)
      (right : shown'.Perm others) (each : List.Forall₂ Resembles shown shown') :
      Resembles (.set members) (.set others)
  | map {entries others shown shown' : List (Value × Value)} (left : shown.Perm entries)
      (right : shown'.Perm others)
      (keys : List.Forall₂ Resembles (shown.map Prod.fst) (shown'.map Prod.fst))
      (values : List.Forall₂ Resembles (shown.map Prod.snd) (shown'.map Prod.snd)) :
      Resembles (.map entries) (.map others)
  | emptySetMap : Resembles (.set []) (.map [])
  | emptyMapSet : Resembles (.map []) (.set [])

/-! ## Texts of values, character by character -/

/-- The text of a value as characters. -/
def chars (v : Value) : List Char :=
  v.display.toList

/-- The text of an entry as characters. -/
def entryChars (e : Value × Value) : List Char :=
  chars e.1 ++ ':' :: ' ' :: chars e.2

theorem chars_text (s : String) :
    chars (.text s) = '"' :: (s.toList.flatMap jsonChar ++ ['"']) := by
  rw [chars, display, Text.json, String.toList_ofList, List.cons_append]

theorem chars_list (items : List Value) :
    chars (.list items) = grouped '[' ']' (items.map chars) := by
  rw [chars, display, toList_bracketed, displayAll_eq_map, List.map_map]
  rfl

theorem chars_tuple (items : List Value) :
    chars (.tuple items) = grouped '[' ']' (items.map chars) := by
  rw [← chars_list, chars, chars, display, display]

theorem exists_chars_set (members : List Value) : ∃ shown : List Value, shown.Perm members ∧
    chars (.set members) = grouped '\x7b' '\x7d' (shown.map chars) := by
  obtain ⟨shown, same, text⟩ := exists_display_set members
  refine ⟨shown, same, ?_⟩
  rw [chars, text, toList_bracketed, List.map_map]
  rfl

theorem exists_chars_map (entries : List (Value × Value)) :
    ∃ shown : List (Value × Value), shown.Perm entries ∧
      chars (.map entries) = grouped '\x7b' '\x7d' (shown.map entryChars) := by
  obtain ⟨shown, same, text⟩ := exists_display_map entries
  have each : String.toList ∘ (fun e : Value × Value => e.1.display ++ ": " ++ e.2.display) =
      entryChars := by
    funext e
    simp [entryChars, chars]
  refine ⟨shown, same, ?_⟩
  rw [chars, text, toList_bracketed, List.map_map, each]
  rfl

/-! ## First characters -/

/-- The first character of a text, the same for all numbers and for both truth values. -/
def opening (c : Char) : Char :=
  if c.isDigit then '-' else if c = 'f' then 't' else c

/-- What the text of a value begins with. -/
def initial : Value → Char
  | .none => 'N'
  | .bool _ => 't'
  | .int _ => '-'
  | .text _ => '"'
  | .list _ => '['
  | .tuple _ => '['
  | .set _ => '\x7b'
  | .map _ => '\x7b'
  | _ => ' '

theorem exists_chars_eq {v : Value} (basic : IsBasic v) :
    ∃ c rest, chars v = c :: rest ∧ opening c = initial v := by
  cases basic with
  | none => exact ⟨_, _, rfl, by decide⟩
  | bool b =>
      cases b with
      | false => exact ⟨_, _, rfl, by decide⟩
      | true => exact ⟨_, _, rfl, by decide⟩
  | int n =>
      cases written : chars (.int n) with
      | nil => exact absurd (String.toList_eq_nil_iff.1 written) (unbroken_int n).filled
      | cons c rest =>
          have member : c ∈ (toString n).toList := by
            rw [chars, display] at written
            exact written ▸ List.mem_cons_self
          refine ⟨c, rest, rfl, ?_⟩
          rcases mem_toList_int member with digit | rfl
          · exact if_pos digit
          · rfl
  | text s => exact ⟨_, _, chars_text s, rfl⟩
  | @list items inner => exact ⟨_, _, chars_list items, rfl⟩
  | @tuple items inner => exact ⟨_, _, chars_tuple items, rfl⟩
  | @set members inner =>
      obtain ⟨_, -, text⟩ := exists_chars_set members
      exact ⟨_, _, text, rfl⟩
  | @map entries innerKeys inner =>
      obtain ⟨_, -, text⟩ := exists_chars_map entries
      exact ⟨_, _, text, rfl⟩

theorem IsBasic.starts {v : Value} (basic : IsBasic v) : Starts (chars v) := by
  obtain ⟨c, rest, text, first⟩ := exists_chars_eq basic
  have other : initial v ∉ marks := by
    cases basic <;> simp [initial, marks]
  refine ⟨c, rest, text, fun mark => other ?_⟩
  have same : ∀ c ∈ marks, opening c = c := by simp [marks, opening]
  rwa [← first, same c mark]

/-- Only values of one kind have to be told apart. -/
theorem toldApart_of_initial {v w : Value} {related : Prop} (basic : IsBasic v)
    (basic' : IsBasic w)
    (apart : initial v = initial w → ToldApart related (chars v) (chars w)) :
    ToldApart related (chars v) (chars w) := by
  intro rest rest' ends ends' same
  refine apart ?_ rest rest' ends ends' same
  obtain ⟨c, more, text, first⟩ := exists_chars_eq basic
  obtain ⟨d, more', text', first'⟩ := exists_chars_eq basic'
  rw [text, text'] at same
  rw [← first, ← first', (List.cons.inj same).1]

/-! ## Sequences, sets and maps -/

/-- Two lists of values, each value of the one told apart from each of the other. -/
structure EachApart (related : Value → Value → Prop) (items others : List Value) : Prop where
  left : ∀ v ∈ items, IsBasic v
  right : ∀ w ∈ others, IsBasic w
  apart : ∀ v ∈ items, ∀ w ∈ others, ToldApart (related v w) (chars v) (chars w)

section Groups

variable {related : Value → Value → Prop} {items others shown shown' : List Value}
  {entries entries' : List (Value × Value)} {first last : Char}

theorem EachApart.symm (each : EachApart related items others) :
    EachApart (flip related) others items where
  left := each.right
  right := each.left
  apart v member w member' := (each.apart w member' v member).symm

theorem EachApart.perm (each : EachApart related items others) (left : shown.Perm items)
    (right : shown'.Perm others) : EachApart related shown shown' where
  left v member := each.left v (left.mem_iff.1 member)
  right w member := each.right w (right.mem_iff.1 member)
  apart v member w member' := each.apart v (left.mem_iff.1 member) w (right.mem_iff.1 member')

theorem toldApart_items (each : EachApart related items others) (bracket : last ≠ ',')
    (mark : last ∈ marks) :
    ToldApart (List.Forall₂ related items others) (grouped first last (items.map chars))
      (grouped first last (others.map chars)) := by
  intro rest rest' _ _ same
  rw [grouped_append_eq_iff] at same
  exact forall₂_of_intercalate_eq bracket mark (fun v hv => (each.left v hv).starts)
    (fun w hw => (each.right w hw).starts) each.apart same

theorem starts_entry {e : Value × Value} (basic : IsBasic e.1) : Starts (entryChars e) := by
  obtain ⟨c, rest, text, other⟩ := basic.starts
  refine ⟨c, rest ++ ':' :: ' ' :: chars e.2, ?_, other⟩
  rw [entryChars, text, List.cons_append]

theorem toldApart_entry {e f : Value × Value}
    (key : ToldApart (related e.1 f.1) (chars e.1) (chars f.1))
    (value : ToldApart (related e.2 f.2) (chars e.2) (chars f.2)) :
    ToldApart (related e.1 f.1 ∧ related e.2 f.2) (entryChars e) (entryChars f) := by
  intro rest rest' ends ends' same
  simp only [entryChars, List.append_assoc, List.cons_append] at same
  obtain ⟨keys, tails⟩ := key _ _ (ends_cons (by decide) _) (ends_cons (by decide) _) same
  simp only [List.cons.injEq, true_and] at tails
  obtain ⟨values, rests⟩ := value _ _ ends ends' tails
  exact ⟨⟨keys, values⟩, rests⟩

theorem toldApart_entries
    (keys : EachApart related (entries.map Prod.fst) (entries'.map Prod.fst))
    (values : EachApart related (entries.map Prod.snd) (entries'.map Prod.snd)) :
    ToldApart (List.Forall₂ related (entries.map Prod.fst) (entries'.map Prod.fst) ∧
        List.Forall₂ related (entries.map Prod.snd) (entries'.map Prod.snd))
      (grouped '\x7b' '\x7d' (entries.map entryChars))
      (grouped '\x7b' '\x7d' (entries'.map entryChars)) := by
  intro rest rest' _ _ same
  rw [grouped_append_eq_iff] at same
  have key {e} {es : List (Value × Value)} (member : e ∈ es) : e.1 ∈ es.map Prod.fst :=
    List.mem_map_of_mem member
  have value {e} {es : List (Value × Value)} (member : e ∈ es) : e.2 ∈ es.map Prod.snd :=
    List.mem_map_of_mem member
  obtain ⟨each, rests⟩ := forall₂_of_intercalate_eq (by decide) (by decide)
    (fun e he => starts_entry (keys.left _ (key he)))
    (fun f hf => starts_entry (keys.right _ (key hf)))
    (fun e he f hf => toldApart_entry (keys.apart _ (key he) _ (key hf))
      (values.apart _ (value he) _ (value hf))) same
  simp only [List.forall₂_map_left_iff, List.forall₂_map_right_iff]
  exact ⟨⟨each.imp fun _ _ both => both.1, each.imp fun _ _ both => both.2⟩, rests⟩

/-- A set is told from a map by what stands behind its first member, if it has one. -/
theorem toldApart_set_map (each : EachApart related items (entries.map Prod.fst)) :
    ToldApart (items = [] ∧ entries = []) (grouped '\x7b' '\x7d' (items.map chars))
      (grouped '\x7b' '\x7d' (entries.map entryChars)) := by
  intro rest rest' _ _ same
  rw [grouped_append_eq_iff] at same
  cases items with
  | nil =>
      cases entries with
      | nil => exact ⟨⟨rfl, rfl⟩, (List.cons.inj same).2⟩
      | cons e entries =>
          have starts := starts_entry (each.right e.1 List.mem_cons_self)
          rw [intercalate_append_eq] at same
          exact absurd same (starts.ne_cons (by decide) _ _)
  | cons v items =>
      have basic := each.left v List.mem_cons_self
      cases entries with
      | nil =>
          rw [intercalate_append_eq] at same
          exact absurd same.symm (basic.starts.ne_cons (by decide) _ _)
      | cons e entries =>
          rw [intercalate_append_eq, intercalate_append_eq, entryChars, List.append_assoc] at same
          obtain ⟨-, tails⟩ := each.apart v List.mem_cons_self e.1 List.mem_cons_self _ _
            (ends_afterFirst (by decide)) (ends_cons (by decide) _) same
          cases items <;> simp [afterFirst] at tails

end Groups

/-! ## Values are told apart by their texts -/

theorem toldApart {v w : Value} (basic : IsBasic v) (basic' : IsBasic w) :
    ToldApart (Resembles v w) (chars v) (chars w) := by
  induction basic generalizing w with
  | none =>
      refine toldApart_of_initial .none basic' fun kind => ?_
      cases basic' with
      | none => exact fun _ _ _ _ same => ⟨.none, List.append_cancel_left same⟩
      | _ => simp [initial] at kind
  | bool b =>
      refine toldApart_of_initial (.bool b) basic' fun kind => ?_
      cases basic' with
      | bool b' =>
          intro rest rest' _ _ same
          obtain ⟨rfl, rests⟩ : b = b' ∧ rest = rest' := by
            cases b <;> cases b' <;> simp_all [chars, display]
          exact ⟨.bool b, rests⟩
      | _ => simp [initial] at kind
  | int n =>
      refine toldApart_of_initial (.int n) basic' fun kind => ?_
      cases basic' with
      | int m =>
          rw [chars, chars, display, display]
          exact (toldApart_int n m).imp fun same => same ▸ .int n
      | _ => simp [initial] at kind
  | text s =>
      refine toldApart_of_initial (.text s) basic' fun kind => ?_
      cases basic' with
      | text t =>
          rw [chars, chars, display, display]
          exact (toldApart_json s t).imp fun same => same ▸ .text s
      | _ => simp [initial] at kind
  | @list items inner ih =>
      refine toldApart_of_initial (.list inner) basic' fun kind => ?_
      have each {others : List Value} (inner' : ∀ w ∈ others, IsBasic w) :
          EachApart Resembles items others :=
        ⟨inner, inner', fun v hv w hw => ih v hv (inner' w hw)⟩
      cases basic' with
      | list inner' =>
          rw [chars_list, chars_list]
          exact (toldApart_items (each inner') (by decide) (by decide)).imp .list
      | tuple inner' =>
          rw [chars_list, chars_tuple]
          exact (toldApart_items (each inner') (by decide) (by decide)).imp .listTuple
      | _ => simp [initial] at kind
  | @tuple items inner ih =>
      refine toldApart_of_initial (.tuple inner) basic' fun kind => ?_
      have each {others : List Value} (inner' : ∀ w ∈ others, IsBasic w) :
          EachApart Resembles items others :=
        ⟨inner, inner', fun v hv w hw => ih v hv (inner' w hw)⟩
      cases basic' with
      | list inner' =>
          rw [chars_tuple, chars_list]
          exact (toldApart_items (each inner') (by decide) (by decide)).imp .tupleList
      | tuple inner' =>
          rw [chars_tuple, chars_tuple]
          exact (toldApart_items (each inner') (by decide) (by decide)).imp .tuple
      | _ => simp [initial] at kind
  | @set members inner ih =>
      refine toldApart_of_initial (.set inner) basic' fun kind => ?_
      have each {others : List Value} (inner' : ∀ w ∈ others, IsBasic w) :
          EachApart Resembles members others :=
        ⟨inner, inner', fun v hv w hw => ih v hv (inner' w hw)⟩
      obtain ⟨shown, left, text⟩ := exists_chars_set members
      cases basic' with
      | @set others inner' =>
          obtain ⟨shown', right, text'⟩ := exists_chars_set others
          rw [text, text']
          exact (toldApart_items ((each inner').perm left right) (by decide) (by decide)).imp
            (.set left right)
      | @map entries innerKeys' _ =>
          obtain ⟨shown', right, text'⟩ := exists_chars_map entries
          rw [text, text']
          refine (toldApart_set_map ((each ?_).perm left (right.map Prod.fst))).imp ?_
          · simpa using innerKeys'
          · rintro ⟨rfl, rfl⟩
            rw [List.nil_perm.1 left, List.nil_perm.1 right]
            exact .emptySetMap
      | _ => simp [initial] at kind
  | @map entries innerKeys inner ihKeys ih =>
      refine toldApart_of_initial (.map innerKeys inner) basic' fun kind => ?_
      have eachKey {others : List Value} (inner' : ∀ w ∈ others, IsBasic w) :
          EachApart Resembles (entries.map Prod.fst) others :=
        ⟨List.forall_mem_map.2 innerKeys, inner',
          List.forall_mem_map.2 fun e he w hw => ihKeys e he (inner' w hw)⟩
      have eachValue {others : List Value} (inner' : ∀ w ∈ others, IsBasic w) :
          EachApart Resembles (entries.map Prod.snd) others :=
        ⟨List.forall_mem_map.2 inner, inner',
          List.forall_mem_map.2 fun e he w hw => ih e he (inner' w hw)⟩
      obtain ⟨shown, left, text⟩ := exists_chars_map entries
      cases basic' with
      | @set members inner' =>
          obtain ⟨shown', right, text'⟩ := exists_chars_set members
          have keys := (eachKey inner').perm (left.map Prod.fst) right
          rw [text, text']
          refine (toldApart_set_map keys.symm).symm.imp ?_
          rintro ⟨rfl, rfl⟩
          rw [List.nil_perm.1 left, List.nil_perm.1 right]
          exact .emptyMapSet
      | @map others innerKeys' inner' =>
          obtain ⟨shown', right, text'⟩ := exists_chars_map others
          have keys := (eachKey (List.forall_mem_map.2 innerKeys')).perm (left.map Prod.fst)
            (right.map Prod.fst)
          have values := (eachValue (List.forall_mem_map.2 inner')).perm (left.map Prod.snd)
            (right.map Prod.snd)
          rw [text, text']
          exact (toldApart_entries keys values).imp fun each => .map left right each.1 each.2
      | _ => simp [initial] at kind

/-- **Values with one text resemble each other**, at any depth. -/
theorem resembles_of_display_eq {v w : Value} (basic : IsBasic v) (basic' : IsBasic w)
    (same : display v = display w) : Resembles v w := by
  have texts : chars v ++ [] = chars w ++ [] := by rw [chars, chars, same]
  exact (toldApart basic basic' [] [] ends_nil ends_nil texts).1

/-- A map with a set of two kinds of members in it, and something empty in a sequence. -/
def mixedMap : Value :=
  .map [(.text "b", .set [.int 1, .text "1"]), (.none, .tuple [.bool true, .set []])]

/-- The same, filled the other way round, with a list and an empty map. -/
def mixedMap' : Value :=
  .map [(.none, .list [.bool true, .map []]), (.text "b", .set [.text "1", .int 1])]

theorem mixed_maps_resemble : IsBasic mixedMap ∧ IsBasic mixedMap' ∧
    display mixedMap = display mixedMap' ∧ Resembles mixedMap mixedMap' := by
  have basic : IsBasic mixedMap := by
    refine .map (by simpa using ⟨.text "b", .none⟩) ?_
    have set : IsBasic (.set [.int 1, .text "1"]) := .set (by simpa using ⟨.int 1, .text "1"⟩)
    have tuple : IsBasic (.tuple [.bool true, .set []]) :=
      .tuple (by simpa using ⟨.bool true, .set (by simp)⟩)
    simpa using ⟨set, tuple⟩
  have basic' : IsBasic mixedMap' := by
    refine .map (by simpa using ⟨.none, .text "b"⟩) ?_
    have list : IsBasic (.list [.bool true, .map []]) :=
      .list (by simpa using ⟨.bool true, .map (by simp) (by simp)⟩)
    have set : IsBasic (.set [.text "1", .int 1]) := .set (by simpa using ⟨.text "1", .int 1⟩)
    simpa using ⟨list, set⟩
  have same : display mixedMap = display mixedMap' := by cbv
  exact ⟨basic, basic', same, resembles_of_display_eq basic basic' same⟩

/-- Truth values are no numbers, nothing is no text, and a set that is not empty is no map. -/
example (b : Bool) (n : Int) (s : String) (v : Value) (entries : List (Value × Value)) :
    ¬ Resembles (.bool b) (.int n) ∧ ¬ Resembles .none (.text s) ∧
      ¬ Resembles (.set [v]) (.map entries) :=
  ⟨nofun, nofun, nofun⟩

end Value

end IndexSnapshot
