/-
# IndexSnapshot.Proofs.ConfigurationPrecedence -- where the settings of a configuration come from

Each of the four entries of a configuration has one source: what the environment says of it, or
else the entry of the file, or else the default.  The environment says something of a root if its
variable has a text that is not empty, and of a switch if its variable is there at all.  The
switches are read after that, so a switch of the file that is neither on nor off is refused exactly
where the environment does not replace it.  All this is so with any reader of YAML, as long as it
is lawful.

The refusal names the switch and what it has been set to, and not every value can be written.  A
switch that is an integer of too many digits ends in that failure, and not in a refusal.

* `Switch.read?_eq_some_iff`: what is on and what is off.
* `Source.value`: the value that an entry has, and `Config.load_gives`, what is loaded.
* `Config.load_precedence`: the four entries, the refusals, and that nothing else matters.
* `Config.long_switch_not_refused`: a switch that cannot be written.
-/
import IndexSnapshot.Config.Basic
import IndexSnapshot.Proofs.Digits
import IndexSnapshot.Proofs.DocumentEntries
import Mathlib

namespace IndexSnapshot

set_option autoImplicit false

/-! ## Switches -/

namespace Text

theorem isBlank_toLower {c : Char} (blank : isBlank c = true) : isBlank c.toLower = true := by
  unfold Char.toLower
  split
  case isTrue capital =>
    exfalso
    have n : 'A'.toNat ≤ c.toNat ∧ c.toNat ≤ 'Z'.toNat := capital
    simp only [isBlank, Bool.or_eq_true, Bool.and_eq_true, decide_eq_true_eq, beq_iff_eq] at blank
    have first : 'A'.toNat = 65 := rfl
    have last : 'Z'.toNat = 90 := rfl
    omega
  case isFalse => exact blank

/-- What is left of a word with white space around it is the word. -/
theorem strip_append {before word after : List Char} (filled : word ≠ [])
    (visible : ∀ c ∈ word, isBlank c = false)
    (blank : (before ++ after).all isBlank = true) : strip (before ++ word ++ after) = word := by
  have dropped {blanks letters rest : List Char} (some_ : letters ≠ [])
      (shown : ∀ c ∈ letters, isBlank c = false) (white : ∀ c ∈ blanks, isBlank c = true) :
      (blanks ++ (letters ++ rest)).dropWhile isBlank = letters ++ rest := by
    obtain ⟨first, more, rfl⟩ := List.exists_cons_of_ne_nil some_
    rw [List.dropWhile_append_of_pos white, List.cons_append,
      List.dropWhile_cons_of_neg (by simp [shown first List.mem_cons_self])]
  simp only [List.all_append, Bool.and_eq_true, List.all_eq_true] at blank
  have back : (after.reverse ++ (word.reverse ++ [])).dropWhile isBlank = word.reverse ++ [] :=
    dropped (by simpa using filled) (fun c member => visible c (List.mem_reverse.1 member))
      (fun c member => blank.2 c (List.mem_reverse.1 member))
  rw [strip, stripWhere, List.append_assoc, dropped filled visible blank.1, List.reverse_append]
  rw [List.append_nil] at back
  rw [back, List.reverse_reverse]

theorem exists_strip (chars : List Char) : ∃ before after,
    chars = before ++ strip chars ++ after ∧ (before ++ after).all isBlank = true := by
  refine ⟨chars.takeWhile isBlank,
    ((chars.dropWhile isBlank).reverse.takeWhile isBlank).reverse, ?_, ?_⟩
  · rw [strip, stripWhere, List.append_assoc, ← List.reverse_append,
      List.takeWhile_append_dropWhile, List.reverse_reverse, List.takeWhile_append_dropWhile]
  · simp only [List.all_append, List.all_reverse, List.all_takeWhile, Bool.and_self]

end Text

namespace Switch

/-- A truth value, or its word in any letter case with white space around it. -/
def Says (value : Value) (b : Bool) : Prop :=
  value = .bool b ∨ ∃ text before word after, value = .text text ∧
    text.toList = before ++ word ++ after ∧ (before ++ after).all Text.isBlank = true ∧
    Text.lower word = (toString b).toList

theorem strip_eq_of_lower {before word after : List Char} {b : Bool}
    (blank : (before ++ after).all Text.isBlank = true)
    (low : Text.lower word = (toString b).toList) :
    Text.strip (before ++ word ++ after) = word := by
  have filled : (toString b).toList ≠ [] := by cases b <;> decide
  have visible : (toString b).toList.any Text.isBlank = false := by cases b <;> rfl
  rw [← low] at filled visible
  refine Text.strip_append (mt (congrArg Text.lower) filled) (fun c member => ?_) blank
  rw [Bool.eq_false_iff]
  intro white
  exact List.any_eq_false.1 visible c.toLower (List.mem_map_of_mem member)
    (Text.isBlank_toLower white)

/-- What is on and what is off. -/
theorem read?_eq_some_iff {value : Value} {b : Bool} : read? value = some b ↔ Says value b := by
  constructor
  · intro read
    unfold read? at read
    split at read
    · exact .inl (congrArg Value.bool (Option.some.inj read))
    · rename_i text
      obtain ⟨before, after, parts, blank⟩ := Text.exists_strip text.toList
      refine .inr ⟨text, before, _, after, rfl, parts, blank, ?_⟩
      rw [← String.ofList_inj, String.ofList_toList]
      dsimp only at read
      split at read
      · rename_i word
        rw [word, ← Option.some.inj read]
        rfl
      split at read
      · rename_i word
        rw [word, ← Option.some.inj read]
        rfl
      · cases read
    · cases read
  · rintro (rfl | ⟨text, before, word, after, rfl, parts, blank, low⟩)
    · rfl
    · have word_eq : String.ofList (Text.lower (Text.strip text.toList)) = toString b := by
        rw [parts, strip_eq_of_lower blank low, low, String.ofList_toList]
      simp only [read?, word_eq]
      cases b <;> rfl

theorem Says.unique {value : Value} {b b' : Bool} (one : Says value b) (other : Says value b') :
    b = b' := by
  rw [← read?_eq_some_iff] at one other
  exact Option.some.inj (one.symm.trans other)

theorem refusal_of_isWritable (name : String) {value : Value} (short : value.isWritable = true) :
    refusal name value = .config (.notBoolean name value) :=
  if_pos short

theorem refusal_of_not_isWritable (name : String) {value : Value}
    (long : ¬ value.isWritable = true) : refusal name value = .tooManyDigits :=
  if_neg long

theorem read?_eq_none_iff {value : Value} : read? value = none ↔ ¬ ∃ b, Says value b := by
  simp only [← read?_eq_some_iff, ← Option.isSome_iff_exists, Option.not_isSome_iff_eq_none]

end Switch

/-! ## Files -/

theorem FileTree.has_of_readFile {files : FileTree} {path : Path} {content : Bytes}
    (read : files.readFile path = .ok content) : files.has path = .ok true := by
  unfold readFile at read
  unfold has
  split at read
  · rename_i found
    rw [found]
  · cases read
  · cases read

/-! ## Logged results -/

namespace Logged

variable {α β : Type}

/-- The result of an action, whatever was logged before it. -/
def Gives (action : Logged α) (result : Except Failure α) : Prop :=
  ∀ log, ((ExceptT.run action).run log).1 = result

namespace Gives

variable {action : Logged α} {next : α → Logged β}

theorem outcome_eq {result : Except Failure α} (gives : action.Gives result) :
    action.outcome.1 = result :=
  gives []

theorem bind {result : Except Failure α} {onward : α → Except Failure β}
    (gives : action.Gives result) (rest : ∀ a, result = .ok a → (next a).Gives (onward a)) :
    (action >>= next).Gives (result >>= onward) := by
  intro log
  have ran := gives log
  show ((ExceptT.bindCont next ((ExceptT.run action).run log).1).run
    ((ExceptT.run action).run log).2).1 = result >>= onward
  rw [ran]
  cases result with
  | error failure => rfl
  | ok a => exact rest a rfl _

end Gives

theorem pure_gives (a : α) : (pure a : Logged α).Gives (.ok a) :=
  fun _ => rfl

theorem throw_gives (failure : Failure) : (throw failure : Logged α).Gives (.error failure) :=
  fun _ => rfl

theorem say_gives (entry : Log.Entry) : (say entry).Gives (.ok ()) :=
  fun _ => rfl

theorem ofResult_gives (result : Except Failure α) : (ofResult result).Gives result :=
  fun _ => rfl

end Logged

/-! ## Sources -/

namespace Config

/-- An entry of a configuration: its key, what an environment says of it, and what holds where
nothing else is said. -/
structure Source where
  key : String
  given : Environment → Option String
  default : Value

namespace Source

def root : Source :=
  ⟨rootKey, (·.nonEmpty? snapshotRootVariable), .text "snapshots"⟩

def sourceRoot : Source :=
  ⟨sourceRootKey, (·.nonEmpty? sourceRootVariable), .text "tests"⟩

def full : Source :=
  ⟨fullKey, (·.get? fullVariable), .bool false⟩

def update : Source :=
  ⟨updateKey, (·.get? updateVariable), .bool false⟩

/-- The sources of all four entries. -/
def all : List Source :=
  [root, sourceRoot, full, update]

theorem root_mem : root ∈ all :=
  .head _

theorem sourceRoot_mem : sourceRoot ∈ all :=
  .tail _ (.head _)

theorem full_mem : full ∈ all :=
  .tail _ (.tail _ (.head _))

theorem update_mem : update ∈ all :=
  .tail _ (.tail _ (.tail _ (.head _)))

/-- The value of an entry: what the environment says, or else the file, or else the default. -/
def value (source : Source) (environment : Environment) (fromFile : List (Value × Value)) : Value :=
  match source.given environment, Value.lookup? source.key fromFile with
  | some text, _ => .text text
  | none, some value => value
  | none, none => source.default

end Source

theorem lookup?_override (name key : String) (given : Option String)
    (entries : List (Value × Value)) :
    Value.lookup? name (override key given entries)
      = if key = name then (given.map Value.text).or (Value.lookup? name entries)
        else Value.lookup? name entries := by
  cases given with
  | none => simp [override]
  | some text =>
      by_cases same : key = name
      · subst same
        simp [override, Value.lookup?_putEntry_self]
      · rw [if_neg same]
        exact Value.lookup?_putEntry_text same _ _

theorem lookup?_applyEnvironment {source : Source} (member : source ∈ Source.all)
    (environment : Environment) (entries : List (Value × Value)) :
    Value.lookup? source.key (applyEnvironment environment entries)
      = ((source.given environment).map Value.text).or (Value.lookup? source.key entries) := by
  simp only [Source.all, List.mem_cons, List.not_mem_nil, or_false] at member
  unfold applyEnvironment
  rcases member with rfl | rfl | rfl | rfl <;>
    simp [lookup?_override, Source.root, Source.sourceRoot, Source.full, Source.update,
      rootKey, sourceRootKey, fullKey, updateKey]

theorem lookup?_defaults {source : Source} (member : source ∈ Source.all) :
    Value.lookup? source.key defaults = some source.default := by
  simp only [Source.all, List.mem_cons, List.not_mem_nil, or_false] at member
  rcases member with rfl | rfl | rfl | rfl <;>
    simp [defaults, Value.lookup?_cons, Value.same_text_iff, Source.root, Source.sourceRoot,
      Source.full, Source.update, rootKey, sourceRootKey, fullKey, updateKey]

/-- The entries of the environment, the file and the defaults. -/
def layered (environment : Environment) (fromFile : List (Value × Value)) :
    List (Value × Value) :=
  applyEnvironment environment (merge defaults fromFile)

/-- **What the entries are before the switches are read.** -/
theorem lookup?_layered (source : Source) (member : source ∈ Source.all)
    (environment : Environment) {fromFile : List (Value × Value)}
    (distinct : Value.DistinctNames fromFile) :
    Value.lookup? source.key (layered environment fromFile)
      = some (source.value environment fromFile) := by
  rw [layered, lookup?_applyEnvironment member, merge, Value.lookup?_putEntries distinct,
    lookup?_defaults member]
  unfold Source.value
  cases source.given environment <;> cases Value.lookup? source.key fromFile <;> rfl

/-! ## The file -/

section Read

variable [Yaml.Reader]

/-- The entries of the section of snapshots of a file. -/
def fileEntries (files : FileTree) (path : Path) : Except Failure (List (Value × Value)) := do
  if ← isThere files path then sectionEntries (← rootEntries path (← openFile files path))
  else throw (.config (.noFile path))

/-- The entries of the section of snapshots in the content of a file. -/
def contentEntries (path : Path) (content : Bytes) : Except Failure (List (Value × Value)) := do
  sectionEntries (← rootEntries path (.ofBytes content))

theorem fileEntries_of_readFile {files : FileTree} {path : Path} {content : Bytes}
    (read : files.readFile path = .ok content) :
    fileEntries files path = contentEntries path content := by
  have found : isThere files path = .ok true := by
    rw [isThere, FileTree.has_of_readFile read]
    rfl
  have opened : openFile files path = .ok (.ofBytes content) := by
    rw [openFile, read]
  rw [fileEntries, bind_of_ok found, if_pos rfl, bind_of_ok opened]
  rfl

/-- What is read is a map. -/
theorem contentEntries_of_map {path : Path} {content : Bytes} {root : List (Value × Value)}
    (document : Yaml.Reader.read (.ofBytes content) = .ok (.map root)) :
    contentEntries path content = sectionEntries root := by
  have map : rootEntries path (.ofBytes content) = .ok root := by
    rw [rootEntries, document]
  rw [contentEntries, bind_of_ok map]

/-- The entries that a configuration takes from the chosen file; without one there are none. -/
def chosenEntries (environment : Environment) (files : FileTree) (path : Option String) :
    Except Failure (List (Value × Value)) :=
  match choosePath environment path with
  | none => .ok []
  | some path => fileEntries files path

theorem loadFile_gives (files : FileTree) (path : Path) :
    (loadFile files path).Gives (fileEntries files path) := by
  unfold loadFile fileEntries
  refine (Logged.ofResult_gives _).bind fun found _ => ?_
  cases found with
  | false => exact Logged.throw_gives _
  | true => exact (Logged.say_gives _).bind fun _ _ => Logged.ofResult_gives _

variable [Yaml.LawfulReader]

/-- A section is a map in the map of the file. -/
theorem distinctNames_sectionEntries {stream : TextStream} {path : Path}
    {root fromFile : List (Value × Value)} (read : rootEntries path stream = .ok root)
    (inside : sectionEntries root = .ok fromFile) : Value.DistinctNames fromFile := by
  unfold rootEntries at read
  unfold sectionEntries at inside
  split at inside
  · cases inside
    exact List.Pairwise.nil
  · rename_i value found
    split at inside
    · split at inside
      · cases inside
        split at read <;> cases read
        · cases found
        · rename_i document
          obtain ⟨entry, member, same⟩ := Value.exists_mem_of_lookup? found
          exact (Yaml.LawfulReader.distinct document).2 entry.1 _ (same ▸ member)
      · cases inside
    · cases inside
      exact List.Pairwise.nil

theorem distinctNames_chosenEntries {environment : Environment} {files : FileTree}
    {path : Option String} {fromFile : List (Value × Value)}
    (read : chosenEntries environment files path = .ok fromFile) :
    Value.DistinctNames fromFile := by
  unfold chosenEntries at read
  split at read
  · cases read
    exact List.Pairwise.nil
  · unfold fileEntries at read
    obtain ⟨there, -, read⟩ := bind_eq_ok_iff.1 read
    split at read
    · obtain ⟨stream, -, read⟩ := bind_eq_ok_iff.1 read
      obtain ⟨root, isRoot, inside⟩ := bind_eq_ok_iff.1 read
      exact distinctNames_sectionEntries isRoot inside
    · cases read

end Read

/-! ## What is loaded -/

/-- What a switch says; it is refused if it says nothing. -/
def switchOf (name : String) (value : Value) : Except Failure Bool :=
  match Switch.read? value with
  | some b => .ok b
  | none => .error (Switch.refusal name value)

theorem parse_gives (name : String) (value : Value) :
    (Switch.parse name value).Gives (switchOf name value) := by
  unfold Switch.parse switchOf
  cases Switch.read? value with
  | some b => exact Logged.pure_gives b
  | none =>
      dsimp only
      split
      · exact (Logged.say_gives _).bind fun _ _ => Logged.throw_gives _
      · exact Logged.throw_gives _

/-- Entries with the truth value of a switch in its place. -/
def settled (key name : String) (value : Value) (entries : List (Value × Value)) :
    Except Failure (List (Value × Value)) := do
  let b ← switchOf name value
  return Value.putEntry (.text key) (.bool b) entries

theorem settle_gives {key : String} (name : String) {entries : List (Value × Value)}
    {value : Value} (found : Value.lookup? key entries = some value) :
    (settle key name entries).Gives (settled key name value entries) := by
  unfold settle
  rw [found]
  exact (parse_gives name value).bind fun _ _ => Logged.pure_gives _

/-- The configuration of an environment and the entries of a file. -/
def loaded (path : Option Path) (environment : Environment) (fromFile : List (Value × Value)) :
    Except Failure Config := do
  let entries ← settled fullKey fullVariable (Source.full.value environment fromFile)
    (layered environment fromFile)
  let entries ← settled updateKey updateVariable (Source.update.value environment fromFile) entries
  return ⟨path, entries⟩

/-- Behind the file, the same is done whether there is one or not. -/
theorem settle_both_gives (path : Option Path) (environment : Environment)
    {fromFile : List (Value × Value)} (distinct : Value.DistinctNames fromFile) :
    (do
      let entries ← settle fullKey fullVariable (layered environment fromFile)
      let entries ← settle updateKey updateVariable entries
      return ⟨path, entries⟩ : Logged Config).Gives (loaded path environment fromFile) := by
  have full := settle_gives fullVariable (lookup?_layered _ Source.full_mem environment distinct)
  refine full.bind fun entries put => ?_
  have kept : Value.lookup? updateKey entries
      = some (Source.update.value environment fromFile) := by
    obtain ⟨b, -, put⟩ := bind_eq_ok_iff.1 put
    rw [← pure_eq_ok_iff.1 put, Source.full, Value.lookup?_putEntry_text (by decide)]
    exact lookup?_layered _ Source.update_mem environment distinct
  exact (settle_gives updateVariable kept).bind fun _ _ => Logged.pure_gives _

/-- **What is loaded**: first the file, then the switch of full texts, then that of updates. -/
theorem load_gives [Yaml.Reader] [Yaml.LawfulReader] (environment : Environment) (files : FileTree) (path : Option String) :
    (load environment files path).Gives (do
      let fromFile ← chosenEntries environment files path
      loaded (choosePath environment path) environment fromFile) := by
  have distinct {fromFile : List (Value × Value)}
      (read : chosenEntries environment files path = .ok fromFile) :=
    distinctNames_chosenEntries read
  unfold load
  unfold chosenEntries at distinct ⊢
  cases chosen : choosePath environment path with
  | none =>
      rw [chosen] at distinct
      exact (Logged.pure_gives []).bind fun fromFile read =>
        settle_both_gives none environment (distinct read)
  | some path =>
      rw [chosen] at distinct
      exact (loadFile_gives files path).bind fun fromFile read =>
        settle_both_gives (some path) environment (distinct read)

/-! ## Four entries -/

/-- What a configuration says of its four entries. -/
structure Settings where
  root : Value
  sourceRoot : Value
  storeFull : Bool
  update : Bool

def settings (config : Config) : Settings :=
  ⟨config.entry rootKey, config.entry sourceRootKey, config.storeFull, config.update⟩

/-- The entries of a configuration are those of their sources; the switches have been read. -/
structure Follows (config : Config) (environment : Environment)
    (fromFile : List (Value × Value)) : Prop where
  root : config.entry rootKey = Source.root.value environment fromFile
  sourceRoot : config.entry sourceRootKey = Source.sourceRoot.value environment fromFile
  storeFull : Switch.Says (Source.full.value environment fromFile) config.storeFull
  storeFull_entry : config.entry fullKey = .bool config.storeFull
  update : Switch.Says (Source.update.value environment fromFile) config.update
  update_entry : config.entry updateKey = .bool config.update

theorem entry_eq {config : Config} {key : String} {value : Value}
    (found : Value.lookup? key config.snapshots = some value) : config.entry key = value := by
  rw [entry, found, Option.getD_some]

theorem switchOf_eq_ok_iff {name : String} {value : Value} {b : Bool} :
    switchOf name value = .ok b ↔ Switch.Says value b := by
  rw [← Switch.read?_eq_some_iff, switchOf]
  cases Switch.read? value <;> simp

section Loaded

variable {path : Option Path} {environment : Environment} {fromFile : List (Value × Value)}

theorem loaded_eq_ok_iff {config : Config} :
    loaded path environment fromFile = .ok config ↔
      ∃ full update, Switch.Says (Source.full.value environment fromFile) full ∧
        Switch.Says (Source.update.value environment fromFile) update ∧
        (⟨path, Value.putEntry (.text updateKey) (.bool update)
          (Value.putEntry (.text fullKey) (.bool full) (layered environment fromFile))⟩ : Config)
            = config := by
  simp only [loaded, settled, bind_assoc, pure_bind, bind_eq_ok_iff, pure_eq_ok_iff,
    switchOf_eq_ok_iff, exists_and_left]

/-- The first switch that says nothing is refused. -/
theorem loaded_eq_error_iff {failure : Failure} :
    loaded path environment fromFile = .error failure ↔
      (¬ ∃ b, Switch.Says (Source.full.value environment fromFile) b) ∧
        failure = Switch.refusal fullVariable (Source.full.value environment fromFile) ∨
      (∃ b, Switch.Says (Source.full.value environment fromFile) b) ∧
        (¬ ∃ b, Switch.Says (Source.update.value environment fromFile) b) ∧
        failure
          = Switch.refusal updateVariable (Source.update.value environment fromFile) := by
  simp only [← Switch.read?_eq_some_iff]
  unfold loaded settled switchOf
  cases Switch.read? (Source.full.value environment fromFile) with
  | none => simp [bind, Except.bind, eq_comm]
  | some full =>
      cases Switch.read? (Source.update.value environment fromFile) <;>
        simp [bind, Except.bind, pure, Except.pure, eq_comm]

theorem follows_of_loaded {config : Config} (distinct : Value.DistinctNames fromFile)
    (ok : loaded path environment fromFile = .ok config) : config.Follows environment fromFile := by
  obtain ⟨full, update, saysFull, saysUpdate, same⟩ := loaded_eq_ok_iff.1 ok
  have entries : config.snapshots = Value.putEntry (.text updateKey) (.bool update)
      (Value.putEntry (.text fullKey) (.bool full) (layered environment fromFile)) := by
    rw [← same]
  have kept (source : Source) (member : source ∈ Source.all) (notFull : fullKey ≠ source.key)
      (notUpdate : updateKey ≠ source.key) :
      config.entry source.key = source.value environment fromFile := by
    apply entry_eq
    rw [entries, Value.lookup?_putEntry_text notUpdate, Value.lookup?_putEntry_text notFull,
      lookup?_layered source member environment distinct]
  have fullEntry : config.entry fullKey = .bool full := by
    apply entry_eq
    rw [entries, Value.lookup?_putEntry_text (by decide), Value.lookup?_putEntry_self]
  have updateEntry : config.entry updateKey = .bool update := by
    apply entry_eq
    rw [entries, Value.lookup?_putEntry_self]
  have storeFull_eq : config.storeFull = full := by
    rw [storeFull, fullEntry]
    rfl
  have update_eq : config.update = update := by
    rw [Config.update, updateEntry]
    rfl
  rw [← storeFull_eq] at saysFull fullEntry
  rw [← update_eq] at saysUpdate updateEntry
  exact ⟨kept _ Source.root_mem (by decide) (by decide),
    kept _ Source.sourceRoot_mem (by decide) (by decide), saysFull, fullEntry, saysUpdate,
    updateEntry⟩

/-- A configuration with a switch that says nothing is refused, if its switches can be written. -/
theorem exists_refusal {source : Source} (member : source ∈ [Source.full, Source.update])
    (silent : ¬ ∃ b, Switch.Says (source.value environment fromFile) b) :
    ∃ failure, loaded path environment fromFile = .error failure ∧
      ((∀ source ∈ [Source.full, Source.update],
        (source.value environment fromFile).isWritable = true) →
          ∃ fault, failure = .config fault) := by
  by_cases full : ∃ b, Switch.Says (Source.full.value environment fromFile) b
  · have isUpdate : source = Source.update := by
      simp only [List.mem_cons, List.not_mem_nil, or_false] at member
      rcases member with rfl | rfl
      · exact absurd full silent
      · rfl
    exact ⟨_, loaded_eq_error_iff.2 (.inr ⟨full, isUpdate ▸ silent, rfl⟩), fun short =>
      ⟨_, Switch.refusal_of_isWritable _ (short Source.update (by simp))⟩⟩
  · exact ⟨_, loaded_eq_error_iff.2 (.inl ⟨full, rfl⟩), fun short =>
      ⟨_, Switch.refusal_of_isWritable _ (short Source.full (by simp))⟩⟩

/-- The four entries depend on what their sources say, and on nothing else. -/
theorem loaded_settings_congr {path' : Option Path} {environment' : Environment}
    {fromFile' : List (Value × Value)} (distinct : Value.DistinctNames fromFile)
    (distinct' : Value.DistinctNames fromFile')
    (same : ∀ source ∈ Source.all,
      source.value environment' fromFile' = source.value environment fromFile) :
    (loaded path' environment' fromFile').map settings
      = (loaded path environment fromFile).map settings := by
  have full := same _ Source.full_mem
  have update := same _ Source.update_mem
  cases result : loaded path environment fromFile with
  | error failure =>
      have refused := loaded_eq_error_iff.1 result
      rw [← full, ← update, ← loaded_eq_error_iff] at refused
      rw [refused]
  | ok config =>
      have follows := follows_of_loaded distinct result
      obtain ⟨config', result'⟩ : ∃ config', loaded path' environment' fromFile' = .ok config' :=
        ⟨_, loaded_eq_ok_iff.2 ⟨_, _, full ▸ follows.storeFull, update ▸ follows.update, rfl⟩⟩
      have follows' := follows_of_loaded distinct' result'
      have sameFull := (full ▸ follows'.storeFull).unique follows.storeFull
      have sameUpdate := (update ▸ follows'.update).unique follows.update
      have sameSettings : config'.settings = config.settings := by
        unfold settings
        rw [follows'.root, follows'.sourceRoot, same _ Source.root_mem,
          same _ Source.sourceRoot_mem, ← follows.root, ← follows.sourceRoot, sameFull, sameUpdate]
      rw [result']
      exact congrArg Except.ok sameSettings

/-- A source says the same if the environment does, and the file where it is asked. -/
theorem Source.value_congr {source : Source} {environment' : Environment}
    {fromFile' : List (Value × Value)}
    (given : source.given environment' = source.given environment)
    (asked : source.given environment = none →
      Value.lookup? source.key fromFile' = Value.lookup? source.key fromFile) :
    source.value environment' fromFile' = source.value environment fromFile := by
  unfold value
  rw [given]
  cases said : source.given environment with
  | none => rw [asked said]
  | some text => rfl

end Loaded

/-- The variables that a configuration is taken from. -/
def namesRead : List String :=
  [pathVariable, snapshotRootVariable, sourceRootVariable, fullVariable, updateVariable]

theorem load_congr [Yaml.Reader] {environment environment' : Environment}
    (same : ∀ name ∈ namesRead, environment'.get? name = environment.get? name) (files : FileTree)
    (path : Option String) : load environment' files path = load environment files path := by
  simp only [namesRead, List.forall_mem_cons] at same
  obtain ⟨file, root, source, full, update, -⟩ := same
  unfold load choosePath applyEnvironment Environment.nonEmpty?
  rw [file, root, source, full, update]

/-- **The precedence of settings**: with a file that could be read, or without one,

* a configuration that is loaded has the entries of their sources, and its switches are what these
  say; there is none exactly if a switch says nothing, and the failure is that of the first such
  switch;
* so it is if a switch of the file says nothing and the environment does not replace it, and the
  configuration is refused then, as long as what is there for switches can be written;
* entries of the file that the environment replaces do not matter, nor do entries with other names,
  nor other variables. -/
theorem load_precedence [Yaml.Reader] [Yaml.LawfulReader] {environment : Environment}
    {files : FileTree} {path : Option String} {fromFile : List (Value × Value)}
    (read : chosenEntries environment files path = .ok fromFile) :
    (∀ config, (load environment files path).outcome.1 = .ok config →
      config.Follows environment fromFile) ∧
    (∀ failure, (load environment files path).outcome.1 = .error failure ↔
      (¬ ∃ b, Switch.Says (Source.full.value environment fromFile) b) ∧
        failure = Switch.refusal fullVariable (Source.full.value environment fromFile) ∨
      (∃ b, Switch.Says (Source.full.value environment fromFile) b) ∧
        (¬ ∃ b, Switch.Says (Source.update.value environment fromFile) b) ∧
        failure
          = Switch.refusal updateVariable (Source.update.value environment fromFile)) ∧
    (∀ source ∈ [Source.full, Source.update], ∀ value,
      Value.lookup? source.key fromFile = some value → (¬ ∃ b, Switch.Says value b) →
      source.given environment = none →
        ∃ failure, (load environment files path).outcome.1 = .error failure ∧
          ((∀ source ∈ [Source.full, Source.update],
            (source.value environment fromFile).isWritable = true) →
              ∃ fault, failure = .config fault)) ∧
    (∀ environment' files' path' fromFile',
      chosenEntries environment' files' path' = .ok fromFile' →
      (∀ source ∈ Source.all, source.given environment' = source.given environment ∧
        (source.given environment = none →
          Value.lookup? source.key fromFile' = Value.lookup? source.key fromFile)) →
      (load environment' files' path').outcome.1.map settings
        = (load environment files path).outcome.1.map settings) ∧
    ∀ environment' : Environment,
      (∀ name ∈ namesRead, environment'.get? name = environment.get? name) →
        load environment' files path = load environment files path := by
  have outcome {environment : Environment} {files : FileTree} {path : Option String}
      {fromFile : List (Value × Value)}
      (read : chosenEntries environment files path = .ok fromFile) :
      (load environment files path).outcome.1
        = loaded (choosePath environment path) environment fromFile := by
    rw [(load_gives environment files path).outcome_eq, bind_of_ok read]
  have distinct := distinctNames_chosenEntries read
  refine ⟨fun config ok => follows_of_loaded distinct ((outcome read).symm.trans ok),
    fun failure => ?_, fun source member value found silent free => ?_,
    fun environment' files' path' fromFile' read' same => ?_,
    fun environment' same => load_congr same files path⟩
  · rw [outcome read]
    exact loaded_eq_error_iff
  · have said : source.value environment fromFile = value := by
      rw [Source.value, free, found]
    rw [outcome read]
    exact exists_refusal member (said ▸ silent)
  · rw [outcome read, outcome read']
    exact loaded_settings_congr distinct (distinctNames_chosenEntries read') fun source member =>
      Source.value_congr (same source member).1 (same source member).2

/-- A file with a root, and with a switch that says nothing. -/
def brokenSwitch : String :=
  "\x7b\"snapshots\": \x7b\"root\": \"r\", \"store_full\": \"maybe\"\x7d\x7d"

theorem read_brokenSwitch : Yaml.Document.read brokenSwitch
    = .ok (.map [(.text "snapshots",
        .map [(.text "root", .text "r"), (.text "store_full", .text "maybe")])]) := by
  have tokens : Yaml.Token.ofText (String.ofList (Text.universal brokenSwitch.toList))
      = [.flowMapStart, .key, .scalar "snapshots" false, .value, .flowMapStart, .key,
          .scalar "root" false, .value, .scalar "r" false, .comma, .key,
          .scalar "store_full" false, .value, .scalar "maybe" false, .flowMapEnd,
          .flowMapEnd] := by
    decide +kernel
  rw [Yaml.Document.read, tokens]
  cbv

/-- A switch of the file that says nothing does not matter where the environment replaces it. -/
theorem broken_switch_replaced :
    let files : FileTree := .ofList [(.ofString "c.yaml", Utf8.encode brokenSwitch)]
    let environment : Environment :=
      [("DBSNAP_CONFIG", "c.yaml"), ("DBSNAP_FULL_SNAPS", " TRUE ")]
    let fromFile : List (Value × Value) :=
      [(.text "root", .text "r"), (.text "store_full", .text "maybe")]
    chosenEntries environment files none = .ok fromFile ∧
      (∃ config, (load environment files none).outcome.1 = .ok config ∧
        config.Follows environment fromFile ∧ config.entry rootKey = .text "r" ∧
        config.storeFull = true) ∧
      ∃ fault, (load [("DBSNAP_CONFIG", "c.yaml")] files none).outcome.1
        = .error (.config fault) := by
  intro files environment fromFile
  have content : files.readFile (.ofString "c.yaml") = .ok (Utf8.encode brokenSwitch) := rfl
  have entries : fileEntries files (.ofString "c.yaml") = .ok fromFile :=
    (fileEntries_of_readFile content).trans
      ((contentEntries_of_map ((Yaml.documentReader_encode _).trans read_brokenSwitch)).trans
        (by cbv))
  have read : chosenEntries environment files none = .ok fromFile := entries
  have readToo : chosenEntries [("DBSNAP_CONFIG", "c.yaml")] files none = .ok fromFile := entries
  have fullSays : Switch.Says (Source.full.value environment fromFile) true :=
    Switch.read?_eq_some_iff.1 (by decide)
  have updateSays : Switch.Says (Source.update.value environment fromFile) false :=
    .inl (by cbv)
  obtain ⟨follows, refused, -⟩ := load_precedence read
  refine ⟨read, ?_, ?_⟩
  · cases result : (load environment files none).outcome.1 with
    | error failure =>
        rcases (refused failure).1 result with ⟨silent, -⟩ | ⟨-, silent, -⟩
        · exact absurd ⟨_, fullSays⟩ silent
        · exact absurd ⟨_, updateSays⟩ silent
    | ok config =>
        have follows := follows config result
        exact ⟨config, rfl, follows, follows.root.trans (by cbv), follows.storeFull.unique fullSays⟩
  · obtain ⟨failure, failed, refused⟩ := (load_precedence readToo).2.2.1 Source.full (by simp)
      (.text "maybe") (by cbv) (Switch.read?_eq_none_iff.1 (by decide)) rfl
    obtain ⟨fault, rfl⟩ := refused
      (List.forall_mem_cons.2 ⟨by cbv, List.forall_mem_singleton.2 (by cbv)⟩)
    exact ⟨fault, failed⟩

/-- An integer of 4335 digits. -/
def longInteger : Int :=
  16 ^ 3600

/-- A file with that integer for a switch, in hexadecimal digits. -/
def longSwitch : String :=
  "\x7b\"snapshots\": \x7b\"store_full\": 0x1" ++ String.ofList (List.replicate 3600 '0')
    ++ "\x7d\x7d"

/-- The map that the file stands for. -/
def longSwitchEntries : List (Value × Value) :=
  [(.text "snapshots", .map [(.text "store_full", .int longInteger)])]

/-- A reader that reads it from every text. -/
abbrev longSwitchReader : Yaml.Reader where
  read stream :=
    match stream.flaw with
    | none => .ok (.map longSwitchEntries)
    | some flaw => .error (.notText flaw)

theorem lawful_longSwitchReader : @Yaml.LawfulReader longSwitchReader := by
  have read_cases {stream : TextStream} {value : Value}
      (read : longSwitchReader.read stream = .ok value) :
      stream.flaw = none ∧ value = .map longSwitchEntries := by
    obtain ⟨text, flaw⟩ := stream
    cases flaw with
    | none => exact ⟨rfl, (Except.ok.inj read).symm⟩
    | some flaw => cases read
  refine @Yaml.LawfulReader.mk longSwitchReader (fun read => (read_cases read).1) fun read => ?_
  cases (read_cases read).2
  refine ⟨List.pairwise_singleton _ _, fun key inner member => ?_⟩
  cases List.mem_singleton.1 member
  exact List.pairwise_singleton _ _

theorem isWritable_longInteger : ¬ (Value.int longInteger).isWritable = true := by
  rw [Value.isWritable, Value.integers, List.all_cons, List.all_nil, Bool.and_true,
    Text.isWritable_iff]
  decide +kernel

/-- **A switch that cannot be written is not refused as others are**: it is neither on nor off,
and the failure is not one of a configuration. -/
theorem long_switch_not_refused :
    let files : FileTree := .ofList [(.ofString "c.yaml", Utf8.encode longSwitch)]
    let environment : Environment := [("DBSNAP_CONFIG", "c.yaml")]
    @chosenEntries longSwitchReader environment files none
        = .ok [(.text "store_full", .int longInteger)] ∧
      (¬ ∃ b, Switch.Says (.int longInteger) b) ∧
      (@load longSwitchReader environment files none).outcome.1 = .error .tooManyDigits := by
  let reader := longSwitchReader
  have lawful := lawful_longSwitchReader
  intro files environment
  have document : reader.read (.ofBytes (Utf8.encode longSwitch))
      = .ok (.map longSwitchEntries) := by
    rw [TextStream.ofBytes_of_decode (Utf8.decode_encode longSwitch)]
    rfl
  have inside (n : Int) : sectionEntries
      [(.text "snapshots", .map [(.text "store_full", .int n)])]
        = .ok [(.text "store_full", .int n)] := by
    cbv
  have entries : chosenEntries environment files none
      = .ok [(.text "store_full", .int longInteger)] :=
    (fileEntries_of_readFile rfl).trans ((contentEntries_of_map document).trans (inside _))
  have said (n : Int) : Source.full.value [("DBSNAP_CONFIG", "c.yaml")]
      [(.text "store_full", .int n)] = .int n := by
    cbv
  have silent : ¬ ∃ b, Switch.Says (.int longInteger) b :=
    Switch.read?_eq_none_iff.1 rfl
  refine ⟨entries, silent, ?_⟩
  rw [(load_gives environment files none).outcome_eq, bind_of_ok entries, loaded_eq_error_iff, said]
  exact .inl ⟨silent, (Switch.refusal_of_not_isWritable _ isWritable_longInteger).symm⟩

end Config

end IndexSnapshot
