/-
# IndexSnapshot.Proofs.SettingLines -- a snapshot of settings has one line a setting

What is written for a value has no line feed in it, however deep texts and keys lie, for in a
quoted text a line feed is escaped and all else is made of digits, letters and marks.  Only the
names in a path are written as they are.  So each setting has its own line, at its place in the
catalogue, and a new value for a setting changes that line and no other one.

* `Value.Pathless`: values without paths; `Value.Pathless.lineFeed_notMem`: they are written on one
  line.
* `endedLines`: what stands before each line feed of a text.
* `Setting.IsSnapshot`: the shape of a snapshot of settings, which every snapshot keeps
  (`Setting.isSnapshot_snapshot`).
* `Store.settings_keep_shape`: so it does in every store, and after each change of a setting.
-/
import IndexSnapshot.Proofs.InlineTexts
import IndexSnapshot.Proofs.UnambiguousTexts
import IndexSnapshot.Snapshot.Text

namespace IndexSnapshot

set_option autoImplicit false

/-! ## Texts without line feeds -/

namespace Text

theorem notMem_intercalate {c : Char} {between : List Char} {texts : List (List Char)}
    (outside : c ∉ between) (each : ∀ text ∈ texts, c ∉ text) : c ∉ between.intercalate texts := by
  induction texts with
  | nil => exact List.not_mem_nil
  | cons text rest ih =>
      obtain ⟨first, others⟩ := List.forall_mem_cons.1 each
      cases rest with
      | nil => rwa [List.intercalate_singleton]
      | cons next rest =>
          rw [List.intercalate_cons_cons, List.mem_append, List.mem_append, not_or, not_or]
          exact ⟨⟨first, outside⟩, ih others⟩

theorem lineFeed_notMem_nat (n : Nat) : '\n' ∉ (toString n).toList := by
  intro member
  rw [Nat.toString_eq_repr, Nat.toList_repr] at member
  exact absurd (Nat.isDigit_of_mem_toDigits (by decide) (by decide) member) (by decide)

theorem lineFeed_notMem_hexDigits (k n : Nat) : '\n' ∉ hexDigits k n := by
  induction k generalizing n with
  | zero => exact List.not_mem_nil
  | succ k ih =>
      have digits : ∀ n < 16, '\n' ≠ Bytes.hexDigit n := by decide
      rw [hexDigits, List.mem_append, List.mem_singleton, not_or]
      exact ⟨ih (n / 16), digits (n % 16) (Nat.mod_lt n (by decide))⟩

/-- A line feed has a short escape, so no character is written as one. -/
theorem lineFeed_notMem_json (s : String) : '\n' ∉ (json s).toList := by
  have char (c : Char) : '\n' ∉ jsonChar c := by
    rcases jsonChar_cases c with ⟨letter, short, form⟩ | ⟨-, form⟩ | ⟨short, form⟩ <;> rw [form]
    · have letters : ∀ p ∈ shortEscapes, '\n' ∉ ['\\', p.2] := by decide
      exact letters _ (mem_shortEscapes_of_jsonShort? short)
    · simpa using lineFeed_notMem_hexDigits 4 c.toNat
    · rw [List.mem_singleton]
      rintro rfl
      cases short
  simp [json, char]

end Text

theorem Date.lineFeed_notMem_padded (digits n : Nat) : '\n' ∉ (padded digits n).toList := by
  have number := Text.lineFeed_notMem_nat n
  simpa [padded] using number

theorem Date.lineFeed_notMem_iso (date : Date) : '\n' ∉ date.iso.toList := by
  simp [iso, textAfter, lineFeed_notMem_padded]

theorem Timestamp.lineFeed_notMem_plain (t : Timestamp) : '\n' ∉ t.plain.toList := by
  have offset (minutes : Int) : '\n' ∉ (Offset.text minutes).toList := by
    have sign : '\n' ∉ (if minutes < 0 then "-" else "+").toList := by split <;> decide
    simp [Offset.text, sign, Date.lineFeed_notMem_padded]
  have ahead : '\n' ∉ ((t.offset.map Offset.text).getD "").toList := by
    cases t.offset with
    | none => decide
    | some minutes => exact offset minutes
  have fraction : '\n' ∉ (if t.time.microsecond = 0 then "" else
      "." ++ Date.padded 6 t.time.microsecond).toList := by
    split
    · decide
    · simp [Date.lineFeed_notMem_padded]
  simp [plain, Date.lineFeed_notMem_iso, Date.lineFeed_notMem_padded, ahead, fraction]

/-! ## Values on one line -/

namespace Value

/-- A value with no path in it, at any depth. -/
inductive Pathless : Value → Prop where
  | none : Pathless .none
  | bool (b : Bool) : Pathless (.bool b)
  | int (n : Int) : Pathless (.int n)
  | float (v : Double) : Pathless (.float v)
  | text (s : String) : Pathless (.text s)
  | bytes (b : Bytes) : Pathless (.bytes b)
  | list {items : List Value} (inner : ∀ v ∈ items, Pathless v) : Pathless (.list items)
  | tuple {items : List Value} (inner : ∀ v ∈ items, Pathless v) : Pathless (.tuple items)
  | set {members : List Value} (inner : ∀ v ∈ members, Pathless v) : Pathless (.set members)
  | map {entries : List (Value × Value)} (innerKeys : ∀ e ∈ entries, Pathless e.1)
      (inner : ∀ e ∈ entries, Pathless e.2) : Pathless (.map entries)
  | docids (s : IdSet) : Pathless (.docids s)
  | constant {value : Value} (name : Option String) (inner : Pathless value) :
      Pathless (.constant value name)
  | described {value : Value} (inner : Pathless value) : Pathless (.described value)
  | date (d : Date) : Pathless (.date d)
  | timestamp (t : Timestamp) : Pathless (.timestamp t)

theorem lineFeed_notMem_bracketed {left right : String} {texts : List String}
    (opened : '\n' ∉ left.toList) (closed : '\n' ∉ right.toList)
    (each : ∀ text ∈ texts, '\n' ∉ text.toList) :
    '\n' ∉ (bracketed left right texts).toList := by
  have joined : '\n' ∉ [',', ' '].intercalate (texts.map String.toList) :=
    Text.notMem_intercalate (by decide) (List.forall_mem_map.2 each)
  simp [Text.toList_bracketed, opened, closed, joined]

/-- **A value without paths is written on one line.** -/
theorem Pathless.lineFeed_notMem {v : Value} (pathless : Pathless v) :
    '\n' ∉ v.display.toList := by
  induction pathless with
  | none => decide
  | bool b => cases b <;> decide
  | int n => exact Text.notMem_toList_int (by decide) (by decide) n
  | float v => exact Double.notMem_toList_plain (by decide) (by decide)
  | text s => exact Text.lineFeed_notMem_json s
  | bytes b => exact Bytes.lineFeed_notMem_hex b
  | list inner ih =>
      rw [display, displayAll_eq_map]
      exact lineFeed_notMem_bracketed (by decide) (by decide) (List.forall_mem_map.2 ih)
  | tuple inner ih =>
      rw [display, displayAll_eq_map]
      exact lineFeed_notMem_bracketed (by decide) (by decide) (List.forall_mem_map.2 ih)
  | @set members inner ih =>
      obtain ⟨shown, same, text⟩ := exists_display_set members
      rw [text]
      refine lineFeed_notMem_bracketed (by decide) (by decide) (List.forall_mem_map.2 ?_)
      exact fun v member => ih v (same.mem_iff.1 member)
  | @map entries innerKeys inner ihKeys ih =>
      obtain ⟨shown, same, text⟩ := exists_display_map entries
      rw [text]
      refine lineFeed_notMem_bracketed (by decide) (by decide) (List.forall_mem_map.2 ?_)
      intro e member
      simp [ihKeys e (same.mem_iff.1 member), ih e (same.mem_iff.1 member)]
  | docids s =>
      refine lineFeed_notMem_bracketed (by decide) (by decide) (List.forall_mem_map.2 ?_)
      exact fun i _ => Text.lineFeed_notMem_nat i.toNat
  | constant name inner ih => exact ih
  | described inner ih => exact ih
  | date d => exact d.lineFeed_notMem_iso
  | timestamp t => exact t.lineFeed_notMem_plain

end Value

/-! ## Lines of a text -/

/-- What stands before each line feed of a text, from the one before it on. -/
def endedLines (text : String) : List String :=
  ((Text.splitNewlines text.toList).dropLast).map String.ofList

section Lines

variable {lines : List String}

theorem splitNewlines_unlines (free : ∀ line ∈ lines, '\n' ∉ line.toList) :
    Text.splitNewlines (unlines lines).toList = lines.map String.toList ++ [[]] := by
  rw [toList_unlines]
  induction lines with
  | nil => rfl
  | cons line rest ih =>
      obtain ⟨first, others⟩ := List.forall_mem_cons.1 free
      have whole : Text.splitNewlines line.toList = [line.toList] := by
        have joined := Text.splitNewlines_joinNewlines (List.cons_ne_nil line.toList [])
          (by simpa using first)
        rwa [Text.joinNewlines, List.intercalate_singleton] at joined
      rw [List.map_cons, List.flatMap_cons, List.append_assoc, List.singleton_append,
        Text.splitNewlines_newline, whole, ih others]
      rfl

theorem endedLines_unlines (free : ∀ line ∈ lines, '\n' ∉ line.toList) :
    endedLines (unlines lines) = lines := by
  rw [endedLines, splitNewlines_unlines free, List.dropLast_concat, List.map_map]
  simp [Function.comp_def]

theorem count_unlines (free : ∀ line ∈ lines, '\n' ∉ line.toList) :
    (unlines lines).toList.count '\n' = lines.length := by
  rw [toList_unlines]
  induction lines with
  | nil => rfl
  | cons line rest ih =>
      obtain ⟨first, others⟩ := List.forall_mem_cons.1 free
      rw [List.map_cons, List.flatMap_cons, List.count_append, ih others, List.count_append,
        List.count_eq_zero.2 first, List.count_singleton_self, List.length_cons]
      omega

end Lines

/-! ## Lines of settings -/

namespace Setting

variable {valueOf : String → Value}

/-- The label of a setting, before its value. -/
def label (setting : Setting) : String :=
  setting.name ++ ": "

/-- A text of sixteen lines, each with its line feed, which begin with the labels of the
catalogue. -/
structure IsSnapshot (text : String) : Prop where
  lineFeeds : text.toList.count '\n' = 16
  ended : unlines (endedLines text) = text
  labels : List.Forall₂ (fun setting line => setting.label.toList <+: line.toList) catalogue
    (endedLines text)

theorem label_prefix_line (setting : Setting) (value : Value) :
    setting.label.toList <+: (setting.line value).toList := by
  unfold line
  rw [String.toList_append]
  exact List.prefix_append _ _

theorem lineFeed_notMem_line {setting : Setting} (member : setting ∈ catalogue) {value : Value}
    (pathless : value.Pathless) : '\n' ∉ (setting.line value).toList := by
  have names : ∀ setting ∈ catalogue, '\n' ∉ setting.name.toList := by decide
  have shown := pathless.lineFeed_notMem
  unfold line
  split
  · simp [names setting member]
  · split
    · simp [names setting member, shown]
    · simp [names setting member, shown]

theorem snapshot_eq (valueOf : String → Value) :
    snapshot valueOf =
      unlines (catalogue.map fun setting => setting.line (valueOf setting.name)) := by
  rw [snapshot, unlines, List.map_map]
  rfl

theorem snapshot_congr {valueOf' : String → Value}
    (same : ∀ setting ∈ catalogue, valueOf' setting.name = valueOf setting.name) :
    snapshot valueOf' = snapshot valueOf := by
  have lines : (catalogue.map fun setting => setting.line (valueOf' setting.name)) =
      catalogue.map fun setting => setting.line (valueOf setting.name) :=
    List.map_congr_left fun setting member => by rw [same setting member]
  rw [snapshot_eq, snapshot_eq, lines]

section Pathless

variable (pathless : ∀ setting ∈ catalogue, (valueOf setting.name).Pathless)

include pathless

theorem lineFeed_notMem_lines :
    ∀ line ∈ catalogue.map fun setting => setting.line (valueOf setting.name),
      '\n' ∉ line.toList :=
  List.forall_mem_map.2 fun setting member => lineFeed_notMem_line member (pathless setting member)

theorem endedLines_snapshot : endedLines (snapshot valueOf) =
    catalogue.map fun setting => setting.line (valueOf setting.name) := by
  rw [snapshot_eq, endedLines_unlines (lineFeed_notMem_lines pathless)]

/-- **A snapshot of settings has its shape**, if there are no paths in them. -/
theorem isSnapshot_snapshot : IsSnapshot (snapshot valueOf) where
  lineFeeds := by
    rw [snapshot_eq, count_unlines (lineFeed_notMem_lines pathless), List.length_map]
    rfl
  ended := by rw [endedLines_snapshot pathless, snapshot_eq]
  labels := by
    rw [endedLines_snapshot pathless, List.forall₂_map_right_iff, List.forall₂_same]
    exact fun setting _ => setting.label_prefix_line _

/-- Settings of one value in two snapshots have the same line in both. -/
theorem getElem?_endedLines_snapshot {valueOf' : String → Value}
    (pathless' : ∀ setting ∈ catalogue, (valueOf' setting.name).Pathless) {i : Nat}
    {setting : Setting} (here : catalogue[i]? = some setting)
    (same : valueOf' setting.name = valueOf setting.name) :
    (endedLines (snapshot valueOf'))[i]? = (endedLines (snapshot valueOf))[i]? := by
  rw [endedLines_snapshot pathless, endedLines_snapshot pathless', List.getElem?_map,
    List.getElem?_map, here, Option.map_some, Option.map_some, same]

end Pathless

end Setting

/-! ## A new value for a setting -/

namespace Store

theorem setting_setSetting_self (store : Store) (name : String) (value : Value) :
    (store.setSetting name value).freeze.setting name = value := by
  simp [freeze, setSetting, ReadTxn.setting, Entries.get?_put_self]

theorem setting_setSetting_of_ne (store : Store) {name other : String} (value : Value)
    (ne : other ≠ name) :
    (store.setSetting name value).freeze.setting other = store.freeze.setting other := by
  simp [freeze, setSetting, ReadTxn.setting, Entries.get?_put_of_ne _ value ne]

theorem pathless_setSetting {store : Store} {value : Value}
    (pathless : ∀ setting ∈ Setting.catalogue, (store.freeze.setting setting.name).Pathless)
    (name : String) (new : value.Pathless) : ∀ setting ∈ Setting.catalogue,
      ((store.setSetting name value).freeze.setting setting.name).Pathless := by
  intro setting member
  by_cases this : setting.name = name
  · rw [this, setting_setSetting_self]
    exact new
  · rw [setting_setSetting_of_ne store value this]
    exact pathless setting member

/-- Settings have a text exactly if none of them has an integer that is too long. -/
theorem isWritable_settings_iff (store : Store) :
    store.freeze.isWritable .settings = true ↔
      ∀ setting ∈ Setting.catalogue, (store.freeze.setting setting.name).isWritable = true := by
  rw [ReadTxn.isWritable, ReadTxn.integers, List.all_flatMap, List.all_eq_true]
  rfl

theorem snapshot_settings_eq_ok_iff (store : Store) (text : String) :
    store.freeze.snapshot .settings = .ok text ↔
      (∀ setting ∈ Setting.catalogue, (store.freeze.setting setting.name).isWritable = true) ∧
        Setting.snapshot store.freeze.setting = text := by
  rw [ReadTxn.snapshot_eq_ok_iff, isWritable_settings_iff, ReadTxn.written, Except.ok.injEq]

/-- A setting that is not in the catalogue is not shown. -/
theorem snapshot_setSetting_of_unlisted (store : Store) {name : String} (value : Value)
    (unlisted : name ∉ Setting.catalogue.map Setting.name) :
    (store.setSetting name value).freeze.snapshot .settings = store.freeze.snapshot .settings := by
  have same : ∀ setting ∈ Setting.catalogue,
      (store.setSetting name value).freeze.setting setting.name
        = store.freeze.setting setting.name := by
    intro setting member
    refine setting_setSetting_of_ne store value ?_
    rintro rfl
    exact unlisted (List.mem_map_of_mem member)
  have integers : (store.setSetting name value).freeze.integers .settings
      = store.freeze.integers .settings := by
    refine List.flatMap_congr fun setting member => ?_
    rw [same setting member]
  rw [ReadTxn.snapshot, ReadTxn.snapshot, ReadTxn.isWritable, ReadTxn.isWritable, integers,
    ReadTxn.written, ReadTxn.written, Setting.snapshot_congr same]

/-- **A snapshot of settings keeps its shape**: if there are no paths in the settings, every text
of them has it, and there is a text unless an integer in them is too long.  Whatever a setting is
set to, as long as there is no path in it, only the line of that setting changes, and none if it
is not in the catalogue. -/
theorem settings_keep_shape {store : Store}
    (pathless : ∀ setting ∈ Setting.catalogue, (store.freeze.setting setting.name).Pathless) :
    ((∀ setting ∈ Setting.catalogue, (store.freeze.setting setting.name).isWritable = true) →
      ∃ text, store.freeze.snapshot .settings = .ok text) ∧
    ((∃ setting ∈ Setting.catalogue, ¬ (store.freeze.setting setting.name).isWritable = true) →
      store.freeze.snapshot .settings = .error .tooManyDigits) ∧
    (∀ text, store.freeze.snapshot .settings = .ok text → Setting.IsSnapshot text) ∧
    ∀ name value, Value.Pathless value →
      (∀ text text', store.freeze.snapshot .settings = .ok text →
        (store.setSetting name value).freeze.snapshot .settings = .ok text' →
        Setting.IsSnapshot text' ∧
        ∀ (i : Nat) setting, Setting.catalogue[i]? = some setting → setting.name ≠ name →
          (endedLines text')[i]? = (endedLines text)[i]?) ∧
      (name ∉ Setting.catalogue.map Setting.name →
        (store.setSetting name value).freeze.snapshot .settings
          = store.freeze.snapshot .settings) := by
  refine ⟨fun short => ?_, fun ⟨setting, member, long⟩ => ?_, fun text shown => ?_,
    fun name value new => ⟨fun text text' shown shown' => ?_, ?_⟩⟩
  · exact ⟨_, (snapshot_settings_eq_ok_iff store _).2 ⟨short, rfl⟩⟩
  · refine ReadTxn.snapshot_of_not_isWritable fun short => long ?_
    exact (isWritable_settings_iff store).1 short setting member
  · obtain ⟨-, rfl⟩ := (snapshot_settings_eq_ok_iff store text).1 shown
    exact Setting.isSnapshot_snapshot pathless
  · have pathless' := pathless_setSetting pathless name new
    obtain ⟨-, rfl⟩ := (snapshot_settings_eq_ok_iff store text).1 shown
    obtain ⟨-, rfl⟩ := (snapshot_settings_eq_ok_iff (store.setSetting name value) text').1 shown'
    refine ⟨Setting.isSnapshot_snapshot pathless', fun i setting here ne => ?_⟩
    exact Setting.getElem?_endedLines_snapshot pathless pathless' here
      (setting_setSetting_of_ne store value ne)
  · exact snapshot_setSetting_of_unlisted store value

/-- A store with line feeds in a key and a value of one setting. -/
def withSynonyms : Store :=
  standard.setSetting "synonyms" (.map [(.text "a\nb", .list [.text "c\nd"])])

/-- Its text keeps its shape when another setting becomes a line feed. -/
theorem line_feeds_stay_within_lines :
    (∀ setting ∈ Setting.catalogue, (withSynonyms.freeze.setting setting.name).Pathless) ∧
    (Value.text "\n").Pathless ∧ ∃ text text', withSynonyms.freeze.snapshot .settings = .ok text ∧
      (withSynonyms.setSetting "criteria" (.text "\n")).freeze.snapshot .settings = .ok text' ∧
      Setting.IsSnapshot text ∧ Setting.IsSnapshot text' ∧
      (endedLines text')[6]? = (endedLines text)[6]? := by
  have unset : ∀ setting ∈ Setting.catalogue, (standard.freeze.setting setting.name).Pathless :=
    fun _ _ => .none
  have pathless : ∀ setting ∈ Setting.catalogue,
      (withSynonyms.freeze.setting setting.name).Pathless := by
    refine pathless_setSetting unset "synonyms" (.map ?_ ?_)
    · simpa using .text _
    · simpa using .list (by simpa using .text _)
  have new : (Value.text "\n").Pathless := .text _
  obtain ⟨written, -, shape, changed⟩ := settings_keep_shape pathless
  obtain ⟨written', -⟩ := settings_keep_shape (pathless_setSetting pathless "criteria" new)
  obtain ⟨text, shown⟩ := written (by decide)
  obtain ⟨text', shown'⟩ := written' (by decide)
  obtain ⟨shape', others⟩ := (changed "criteria" (.text "\n") new).1 text text' shown shown'
  exact ⟨pathless, new, text, text', shown, shown', shape text shown, shape',
    others 6 ⟨"synonyms", false⟩ rfl (by decide)⟩

end Store

end IndexSnapshot
