/-
# IndexSnapshot.Proofs.DocumentEntries -- the entries of a map that was read

The entries of a map are put in one after another, and an entry that is put takes the place of the
one with an equal key.  So a map that was read from a document has one entry at most under each
name, at every depth, and entries that are put over others are found before them.  Of readers in
general no more is relied on than that, and that they read to the end.

* `Value.lookup?_putEntry_self` and `Value.lookup?_putEntry_of_ne`: what is found after one entry.
* `Value.lookup?_putEntries`: what is found after several ones with different names.
* `Yaml.Document.read_map`: the maps of a document have different names.
* `Yaml.LawfulReader`: what is relied on of a reader of YAML.
-/
import IndexSnapshot.Proofs.Steps
import IndexSnapshot.Yaml.Reader

namespace IndexSnapshot

set_option autoImplicit false

namespace Value

variable {key value : Value} {name : String} {entries : List (Value × Value)}

/-! ## Names -/

/-- Nothing but a text equals a text. -/
theorem same_text_iff : same key (.text name) = true ↔ key = .text name := by
  cases key <;> simp [same, isNumber]

theorem text_same_iff : same (.text name) key = true ↔ key = .text name := by
  cases key <;> simp [same, isNumber]
  exact eq_comm

theorem lookup?_cons (entry : Value × Value) (rest : List (Value × Value)) :
    lookup? name (entry :: rest)
      = if same entry.1 (.text name) then some entry.2 else lookup? name rest := by
  unfold lookup?
  rw [List.find?_cons]
  dsimp only
  cases same entry.1 (.text name) <;> rfl

theorem lookup?_cons_self (value : Value) (rest : List (Value × Value)) :
    lookup? name ((.text name, value) :: rest) = some value := by
  rw [lookup?_cons, if_pos (same_text_iff.2 rfl)]

theorem lookup?_cons_of_ne (other : key ≠ .text name) (value : Value)
    (rest : List (Value × Value)) :
    lookup? name ((key, value) :: rest) = lookup? name rest := by
  rw [lookup?_cons, if_neg (mt same_text_iff.1 other)]

theorem lookup?_eq_none (missing : .text name ∉ entries.map Prod.fst) :
    lookup? name entries = Option.none := by
  induction entries with
  | nil => rfl
  | cons entry rest ih =>
      rw [List.map_cons, List.mem_cons, not_or] at missing
      rw [← ih missing.2]
      exact lookup?_cons_of_ne (Ne.symm missing.1) entry.2 rest

/-- What is found is the value of an entry. -/
theorem exists_mem_of_lookup? (found : lookup? name entries = some value) :
    ∃ entry ∈ entries, entry.2 = value := by
  obtain ⟨entry, first, same⟩ := Option.map_eq_some_iff.1 found
  exact ⟨entry, List.mem_of_find?_eq_some first, same⟩

/-! ## Entries that are put -/

theorem lookup?_putEntry_self (name : String) (value : Value) (entries : List (Value × Value)) :
    lookup? name (putEntry (.text name) value entries) = some value := by
  induction entries with
  | nil => exact lookup?_cons_self value []
  | cons entry rest ih =>
      obtain ⟨k, v⟩ := entry
      unfold putEntry
      split
      case isTrue here => rw [same_text_iff.1 here, lookup?_cons_self]
      case isFalse there => rw [lookup?_cons_of_ne (mt same_text_iff.2 there), ih]

theorem lookup?_putEntry_of_ne (other : key ≠ .text name) (value : Value)
    (entries : List (Value × Value)) :
    lookup? name (putEntry key value entries) = lookup? name entries := by
  induction entries with
  | nil => exact lookup?_cons_of_ne other value []
  | cons entry rest ih =>
      obtain ⟨k, v⟩ := entry
      unfold putEntry
      split
      case isTrue here =>
        have otherToo : k ≠ .text name := by
          rintro rfl
          exact other (text_same_iff.1 here)
        rw [lookup?_cons_of_ne otherToo, lookup?_cons_of_ne otherToo]
      case isFalse => rw [lookup?_cons, lookup?_cons, ih]

theorem lookup?_putEntry_text {other : String} (ne : other ≠ name) (value : Value)
    (entries : List (Value × Value)) :
    lookup? name (putEntry (.text other) value entries) = lookup? name entries :=
  lookup?_putEntry_of_ne (mt Value.text.inj ne) value entries

/-- No two entries have the same name. -/
def DistinctNames (entries : List (Value × Value)) : Prop :=
  (entries.map Prod.fst).Pairwise fun k l => ∀ name, k = .text name → l ≠ .text name

/-- **Entries with different names are put over others**: what they do not say is as before. -/
theorem lookup?_putEntries {newer : List (Value × Value)} (distinct : DistinctNames newer)
    (name : String) (entries : List (Value × Value)) :
    lookup? name (newer.foldl (fun entries (key, value) => putEntry key value entries) entries)
      = (lookup? name newer).or (lookup? name entries) := by
  induction newer generalizing entries with
  | nil => rfl
  | cons entry rest ih =>
      obtain ⟨key, value⟩ := entry
      obtain ⟨apart, distinct⟩ := List.pairwise_cons.1 distinct
      rw [List.foldl_cons, ih distinct]
      by_cases here : key = .text name
      · subst here
        have once : lookup? name rest = Option.none :=
          lookup?_eq_none fun again => apart _ again _ rfl rfl
        rw [once, Option.none_or, lookup?_putEntry_self, lookup?_cons_self, Option.some_or]
      · rw [lookup?_putEntry_of_ne here, lookup?_cons_of_ne here]

/-! ## Maps that are put together -/

/-- An entry takes the place of another one, or comes behind all that have other keys. -/
theorem putEntry_cases (key value : Value) (entries : List (Value × Value)) :
    (putEntry key value entries).map Prod.fst = entries.map Prod.fst ∨
      (∀ k ∈ entries.map Prod.fst, same k key = false) ∧
        (putEntry key value entries).map Prod.fst = entries.map Prod.fst ++ [key] := by
  induction entries with
  | nil => exact .inr ⟨List.forall_mem_nil _, rfl⟩
  | cons entry rest ih =>
      obtain ⟨k, v⟩ := entry
      unfold putEntry
      split
      case isTrue => exact .inl rfl
      case isFalse there =>
        rcases ih with same | ⟨apart, behind⟩
        · exact .inl (congrArg (k :: ·) same)
        · refine .inr ⟨List.forall_mem_cons.2 ⟨Bool.eq_false_iff.2 there, apart⟩, ?_⟩
          exact congrArg (k :: ·) behind

theorem DistinctNames.putEntry (distinct : DistinctNames entries) (key value : Value) :
    DistinctNames (putEntry key value entries) := by
  unfold DistinctNames at distinct ⊢
  rcases putEntry_cases key value entries with same | ⟨apart, behind⟩
  · rwa [same]
  · rw [behind, List.pairwise_append]
    refine ⟨distinct, List.pairwise_singleton _ _, fun k member l last name first second => ?_⟩
    have both : same k key = true := by
      rw [first, ← List.mem_singleton.1 last, second]
      exact same_text_iff.2 rfl
    rw [apart k member] at both
    cases both

theorem mem_putEntry {entry : Value × Value} (member : entry ∈ putEntry key value entries) :
    entry.2 = value ∨ ∃ old ∈ entries, entry.2 = old.2 := by
  induction entries with
  | nil => exact .inl (congrArg Prod.snd (List.mem_singleton.1 member))
  | cons first rest ih =>
      obtain ⟨k, v⟩ := first
      unfold putEntry at member
      split at member
      · rcases List.mem_cons.1 member with rfl | member
        · exact .inl rfl
        · exact .inr ⟨entry, List.mem_cons_of_mem _ member, rfl⟩
      · rcases List.mem_cons.1 member with rfl | member
        · exact .inr ⟨(k, v), List.mem_cons_self, rfl⟩
        · exact (ih member).imp_right fun ⟨old, among, same⟩ =>
            ⟨old, List.mem_cons_of_mem _ among, same⟩

end Value

/-! ## Documents -/

namespace Yaml

open Value (DistinctNames)

/-- No scalar is a map. -/
inductive Tree.Regular : Tree → Prop where
  | scalar {value : Value} (single : ∀ entries, value ≠ .map entries) : Regular (.scalar value)
  | faulty (fault : Fault) : Regular (.faulty fault)
  | list {items : List Tree} (each : ∀ item ∈ items, item.Regular) : Regular (.list items)
  | map {entries : List (Tree × Tree)} (each : ∀ entry ∈ entries, entry.2.Regular) :
      Regular (.map entries)
  | mergeFault : Regular .mergeFault

theorem ne_map_of_time? {chars : List Char} {value : Value} (timed : time? chars = some (.ok value))
    (entries : List (Value × Value)) : value ≠ .map entries := by
  simp only [time?, Option.bind_eq_bind, Option.bind_eq_some_iff] at timed
  obtain ⟨_, -, _, -, _, -, _, -, _, -, timed⟩ := timed
  rintro rfl
  split at timed
  · split at timed
    · simp [map_eq_ok_iff] at timed
    · cases timed
  · simp [Option.bind_eq_some_iff, map_eq_ok_iff] at timed

/-- What a plain scalar stands for is no map. -/
theorem ne_map_of_plainValue {text : String} {value : Value} (plain : plainValue text = .ok value)
    (entries : List (Value × Value)) : value ≠ .map entries := by
  rintro rfl
  unfold plainValue at plain
  split at plain
  · cases plain
  split at plain
  · cases plain
  split at plain
  · cases plain
  split at plain
  · simp [map_eq_ok_iff] at plain
  · simp [map_eq_ok_iff] at plain
  · rename_i timed
    rw [mapError_eq_ok_iff] at plain
    exact ne_map_of_time? (plain ▸ timed) entries rfl
  · cases plain

theorem regular_scalarTree (text : String) (isPlain : Bool) :
    (scalarTree text isPlain).Regular := by
  unfold scalarTree
  split
  · exact .scalar fun _ impossible => by cases impossible
  split
  · exact .faulty _
  split
  · rename_i value plain
    exact .scalar (ne_map_of_plainValue plain)
  · exact .faulty _

theorem Tree.Regular.entries? {tree : Tree} (regular : tree.Regular) {entries : List (Tree × Tree)}
    (own : tree.entries? = some entries) : ∀ entry ∈ entries, entry.2.Regular := by
  cases regular with
  | map each => exact Option.some.inj own ▸ each
  | _ => cases own

theorem Tree.regular_of_mapM_entries? {items : List Tree} (each : ∀ item ∈ items, item.Regular)
    {lists : List (List (Tree × Tree))} (all : items.mapM entries? = some lists) :
    ∀ list ∈ lists, ∀ entry ∈ list, entry.2.Regular := by
  induction items generalizing lists with
  | nil =>
      cases all
      exact List.forall_mem_nil _
  | cons item rest ih =>
      obtain ⟨here, each⟩ := List.forall_mem_cons.1 each
      simp only [List.mapM_cons, Option.bind_eq_bind, Option.bind_eq_some_iff, Option.pure_def,
        Option.some.injEq] at all
      obtain ⟨first, own, more, others, rfl⟩ := all
      exact List.forall_mem_cons.2 ⟨here.entries? own, ih each others⟩

/-- Entries that are taken over are those of maps. -/
theorem Tree.Regular.mergedEntries? {tree : Tree} (regular : tree.Regular)
    {entries : List (Tree × Tree)} (merged : tree.mergedEntries? = some entries) :
    ∀ entry ∈ entries, entry.2.Regular := by
  cases regular with
  | map each => exact Option.some.inj merged ▸ each
  | @list items each =>
      obtain ⟨lists, all, rfl⟩ := Option.map_eq_some_iff.1 merged
      have each : ∀ item ∈ items.reverse, item.Regular :=
        fun item member => each item (List.mem_reverse.1 member)
      intro entry member
      obtain ⟨list, among, member⟩ := List.mem_flatten.1 member
      exact regular_of_mapM_entries? each all list among entry member
  | _ => cases merged

mutual

theorem Node.regular_tree (node : Node) : node.tree.Regular :=
  match node with
  | .scalar text isPlain => regular_scalarTree text isPlain
  | .list items => .list (Node.regular_trees items)
  | .map entries => by
      have parts := Node.regular_entryTrees entries
      unfold Node.tree mapTree
      dsimp only
      split
      · rename_i merged known
        refine .map fun entry member => ?_
        exact (List.mem_append.1 member).elim (parts.1 merged known entry) (parts.2 entry)
      · exact .mergeFault

theorem Node.regular_trees (nodes : List Node) : ∀ tree ∈ Node.trees nodes, tree.Regular :=
  match nodes with
  | [] => List.forall_mem_nil _
  | node :: rest => List.forall_mem_cons.2 ⟨node.regular_tree, Node.regular_trees rest⟩

theorem Node.regular_entryTrees (entries : List (Node × Node)) :
    (∀ merged, (Node.entryTrees entries).1 = some merged → ∀ entry ∈ merged, entry.2.Regular) ∧
      ∀ entry ∈ (Node.entryTrees entries).2, entry.2.Regular :=
  match entries with
  | [] => ⟨fun merged none_ => Option.some.inj none_ ▸ List.forall_mem_nil _, List.forall_mem_nil _⟩
  | (key, value) :: rest => by
      obtain ⟨ofMerged, ofOwn⟩ := Node.regular_entryTrees rest
      have here := value.regular_tree
      unfold Node.entryTrees
      dsimp only
      split
      · refine ⟨fun merged known => ?_, ofOwn⟩
        simp only [Option.bind_eq_bind, Option.bind_eq_some_iff, Option.pure_def,
          Option.some.injEq] at known
        obtain ⟨taken, isTaken, more, isMore, rfl⟩ := known
        intro entry member
        exact (List.mem_append.1 member).elim (here.mergedEntries? isTaken entry)
          (ofMerged more isMore entry)
      · exact ⟨ofMerged, List.forall_mem_cons.2 ⟨here, ofOwn⟩⟩

end

/-! ## Maps -/

/-- Entries with different names, whose values come from trees. -/
structure Built (entries : List (Value × Value)) : Prop where
  distinct : DistinctNames entries
  values : ∀ entry ∈ entries, ∃ tree : Tree, tree.Regular ∧ tree.build = entry.2

/-- One more entry. -/
theorem Built.putEntry {entries : List (Value × Value)} (built : Built entries)
    {entry : Value × Value} (value : ∃ tree : Tree, tree.Regular ∧ tree.build = entry.2) :
    Built (Tree.putEntry entries entry) := by
  unfold Tree.putEntry
  split
  · constructor
    · have names : (entries.map fun (key, value) =>
          (key, if Tree.isNotANumber key then entry.2 else value)).map Prod.fst
            = entries.map Prod.fst := by
        rw [List.map_map]
        rfl
      rw [DistinctNames, names]
      exact built.distinct
    · intro other member
      obtain ⟨old, among, rfl⟩ := List.mem_map.1 member
      dsimp only
      split
      · exact value
      · exact built.values old among
  · refine ⟨built.distinct.putEntry _ _, fun other member => ?_⟩
    rcases Value.mem_putEntry member with same | ⟨old, among, same⟩
    · exact same ▸ value
    · exact same ▸ built.values old among

theorem Built.foldl {entries more : List (Value × Value)} (built : Built entries)
    (values : ∀ entry ∈ more, ∃ tree : Tree, tree.Regular ∧ tree.build = entry.2) :
    Built (more.foldl Tree.putEntry entries) := by
  induction more generalizing entries with
  | nil => exact built
  | cons entry rest ih =>
      obtain ⟨first, values⟩ := List.forall_mem_cons.1 values
      exact ih (built.putEntry first) values

theorem Tree.exists_of_mem_buildEntries {entries : List (Tree × Tree)} {entry : Value × Value}
    (member : entry ∈ buildEntries entries) : ∃ own ∈ entries, own.2.build = entry.2 := by
  induction entries with
  | nil => cases member
  | cons first rest ih =>
      rcases List.mem_cons.1 member with rfl | member
      · exact ⟨first, List.mem_cons_self, rfl⟩
      · obtain ⟨own, among, same⟩ := ih member
        exact ⟨own, List.mem_cons_of_mem _ among, same⟩

/-- **A map that is put together from a tree** has different names, and so have the maps in it. -/
theorem Tree.Regular.built {tree : Tree} (regular : tree.Regular) {entries : List (Value × Value)}
    (map : tree.build = .map entries) : Built entries := by
  cases regular with
  | scalar single => exact absurd map (single entries)
  | map each =>
      rw [build, Value.map.injEq] at map
      subst map
      refine Built.foldl ⟨List.Pairwise.nil, List.forall_mem_nil _⟩ fun entry member => ?_
      obtain ⟨own, among, same⟩ := exists_of_mem_buildEntries member
      exact ⟨own.2, each own among, same⟩
  | _ => cases map

/-- **The maps of a document have different names.** -/
theorem Document.read_map {text : String} {entries : List (Value × Value)}
    (read : Document.read text = .ok (.map entries)) : Built entries := by
  unfold Document.read at read
  obtain ⟨root, -, read⟩ := bind_eq_ok_iff.1 read
  cases root with
  | none => cases read
  | some node =>
      have value : node.tree.value = .ok (.map entries) := read
      unfold Tree.value at value
      split at value
      · cases value
      · exact node.regular_tree.built (Except.ok.inj value)

/-! ## Readers -/

/-- What is relied on of a reader of YAML. -/
class LawfulReader [Reader] : Prop where
  /-- A value has been read only once there is nothing more to read. -/
  whole {stream : TextStream} {value : Value} :
    Reader.read stream = .ok value → stream.flaw = none
  /-- A map has each name once, and so has a map in it. -/
  distinct {stream : TextStream} {entries : List (Value × Value)} :
    Reader.read stream = .ok (.map entries) → DistinctNames entries ∧
      ∀ key inner, (key, .map inner) ∈ entries → DistinctNames inner

theorem documentReader_whole {stream : TextStream} {value : Value}
    (read : documentReader.read stream = .ok value) :
    stream.flaw = none ∧ Document.read stream.text = .ok value := by
  obtain ⟨text, flaw⟩ := stream
  cases flaw with
  | none => exact ⟨rfl, read⟩
  | some flaw => cases read

instance lawful_documentReader : @LawfulReader documentReader where
  whole read := (documentReader_whole read).1
  distinct read := by
    have built := Document.read_map (documentReader_whole read).2
    refine ⟨built.distinct, fun key inner member => ?_⟩
    obtain ⟨tree, regular, value⟩ := built.values _ member
    exact (regular.built value).distinct

theorem documentReader_encode (text : String) :
    documentReader.read (.ofBytes (Utf8.encode text)) = Document.read text := by
  rw [TextStream.ofBytes_of_decode (Utf8.decode_encode text)]
  rfl

end Yaml

end IndexSnapshot
