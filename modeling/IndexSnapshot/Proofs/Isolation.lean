/-
# IndexSnapshot.Proofs.Isolation -- what a store changes no transaction reads

A store changes objects in place, so a transaction is safe from it only because it reads other
objects.  Those that the store can change are the ones that its fields consist of.  A new
transaction consists of new objects, but for the sets in the values of settings, so these must
not be among them either.  The store keeps apart what it makes itself.  What it is given may
be an object that a transaction reads already, and then the transaction is not safe.

* `World.Changes`, `World.Reads` and `World.Spares`: which objects are which, and what the
  events must not bring together.
* `World.Isolated`: nothing that is read can be changed.  `isolated_step` says that every event
  keeps this that spares what is read, and `isolated_run` that a history of them does.
* `opened_main_run`: a transaction reads the computed values of its beginning.
* `transaction_reads_its_beginning` puts everything together that holds of transactions.
-/
import IndexSnapshot.Proofs.StoreHistory

namespace IndexSnapshot

set_option autoImplicit false

namespace World

variable {world after : World} {place : Place}

/-! ## Who holds what -/

/-- The store can change an object, because one of its fields consists of it. -/
def Changes (world : World) (place : Place) : Prop :=
  ∃ field : MainField, place ∈ field.own world.heap world.main

/-- An object is in the value of a setting, or a transaction reads it. -/
def Reads (world : World) (place : Place) : Prop :=
  (∃ field : MainField, place ∈ field.kept world.heap world.main) ∨
    ∃ txn ∈ world.readers, ∃ field : MainField, place ∈ field.reach world.heap txn.main

/-- If the event hands over objects that exist already, then the store will neither be able to
change what is read, nor read in a setting what it can change. -/
def Spares (world : World) : StoreEvent → Prop
  | .share field slot =>
      (∀ place ∈ field.shape.reach world.heap slot, place.address < world.heap.next) ∧
      (∀ place ∈ field.shape.own world.heap slot, ¬ world.Reads place) ∧
      ∀ place ∈ field.shape.kept world.heap slot, ¬ world.Changes place
  | .shareSetting _ held =>
      ∀ set ∈ held.sets, set.address < world.heap.next ∧ ¬ world.Changes set.place
  | _ => True

/-- Nothing that is read can be changed. -/
structure Isolated (world : World) : Prop where
  changed : ∀ place, world.Changes place → place.address < world.heap.next
  read : ∀ place, world.Reads place → place.address < world.heap.next
  apart : ∀ place, world.Changes place → ¬ world.Reads place

/-- The store is still isolated, and its transactions read what they read before. -/
structure Undisturbed (world after : World) : Prop where
  isolated : after.Isolated
  readers : after.readers = world.readers
  contents : ∀ txn ∈ world.readers, ∀ field : MainField,
    ∀ place ∈ field.reach world.heap txn.main,
      after.heap.contents place = world.heap.contents place

theorem Undisturbed.trans {first second third : World} (one : first.Undisturbed second)
    (two : second.Undisturbed third) : first.Undisturbed third where
  isolated := two.isolated
  readers := two.readers.trans one.readers
  contents txn reader field place member := by
    have same : field.reach second.heap txn.main = field.reach first.heap txn.main :=
      FieldShape.reach_congr fun root named =>
        one.contents txn reader field root (FieldShape.mem_reach_of_mem_roots named)
    refine (two.contents txn (one.readers ▸ reader) field place (same ▸ member)).trans ?_
    exact one.contents txn reader field place member

/-! ## What an event does to the objects -/

/-- What the store can change depends on the objects that it can change. -/
theorem changes_of_same (changes : after.Changes place) (main : after.main = world.main)
    (same : ∀ place, world.Changes place → after.heap.contents place = world.heap.contents place) :
    world.Changes place := by
  obtain ⟨field, member⟩ := changes
  rw [main] at member
  have own : field.own after.heap world.main = field.own world.heap world.main :=
    FieldShape.own_congr fun root named => same root ⟨field, List.mem_append_left _ named⟩
  exact ⟨field, own ▸ member⟩

theorem reads_of_same (reads : after.Reads place) (main : after.main = world.main)
    (readers : after.readers = world.readers)
    (same : ∀ place, world.Changes place ∨ world.Reads place →
      after.heap.contents place = world.heap.contents place) : world.Reads place := by
  rcases reads with ⟨field, member⟩ | ⟨txn, reader, field, member⟩
  · rw [main] at member
    have kept : field.kept after.heap world.main = field.kept world.heap world.main :=
      FieldShape.kept_congr fun root named =>
        same root (.inl ⟨field, List.mem_append_left _ named⟩)
    exact .inl ⟨field, kept ▸ member⟩
  · rw [readers] at reader
    have reach : field.reach after.heap txn.main = field.reach world.heap txn.main :=
      FieldShape.reach_congr fun root named =>
        same root (.inr (.inr ⟨txn, reader, field, FieldShape.mem_reach_of_mem_roots named⟩))
    exact .inr ⟨txn, reader, field, reach ▸ member⟩

/-- **A store stays isolated** if what it comes to own is not read, and what comes to be read it
cannot change. -/
theorem Isolated.gained (isolated : world.Isolated) (owned taken : Place → Prop)
    (next : world.heap.next ≤ after.heap.next)
    (changes : ∀ place, after.Changes place → world.Changes place ∨ owned place)
    (reads : ∀ place, after.Reads place → world.Reads place ∨ taken place)
    (unread : ∀ place, owned place →
      place.address < after.heap.next ∧ ¬ world.Reads place ∧ ¬ taken place)
    (unchanged : ∀ place, taken place →
      place.address < after.heap.next ∧ ¬ world.Changes place) : after.Isolated := by
  refine ⟨fun place change => ?_, fun place read => ?_, fun place change read => ?_⟩
  · rcases changes place change with old | new
    · exact Nat.lt_of_lt_of_le (isolated.changed place old) next
    · exact (unread place new).1
  · rcases reads place read with old | new
    · exact Nat.lt_of_lt_of_le (isolated.read place old) next
    · exact (unchanged place new).1
  · rcases changes place change with old | new
    · rcases reads place read with read | new
      · exact isolated.apart place old read
      · exact (unchanged place new).2 old
    · rcases reads place read with read | again
      · exact (unread place new).2.1 read
      · exact (unread place new).2.2 again

/-- Changes elsewhere are not seen. -/
theorem Isolated.elsewhere (isolated : world.Isolated) (main : after.main = world.main)
    (readers : after.readers = world.readers) (next : world.heap.next ≤ after.heap.next)
    (same : ∀ place, world.Changes place ∨ world.Reads place →
      after.heap.contents place = world.heap.contents place) : world.Undisturbed after where
  isolated := by
    refine isolated.gained (fun _ => False) (fun _ => False) next (fun place change => .inl ?_)
      (fun place read => .inl ?_) (fun _ => nofun) fun _ => nofun
    · exact changes_of_same change main fun place change => same place (.inl change)
    · exact reads_of_same read main readers same
  readers := readers
  contents txn reader field place member := same place (.inr (.inr ⟨txn, reader, field, member⟩))

/-- Whatever is there has the same content in a heap with more objects. -/
theorem Isolated.same_of_extends (isolated : world.Isolated) {heap : Heap}
    (extended : world.heap.Extends heap) (place : Place)
    (held : world.Changes place ∨ world.Reads place) :
    heap.contents place = world.heap.contents place :=
  extended.contents place (held.elim (isolated.changed place) (isolated.read place))

/-- What is new is not seen. -/
theorem Isolated.extended (isolated : world.Isolated) {heap : Heap}
    (extended : world.heap.Extends heap) : world.Undisturbed { world with heap } :=
  isolated.elsewhere rfl rfl extended.next_le (isolated.same_of_extends extended)

/-- What is new is not held yet. -/
theorem Isolated.not_held_of_le (isolated : world.Isolated) {heap : Heap}
    (extended : world.heap.Extends heap) (new : world.heap.next ≤ place.address) :
    ¬ ({ world with heap } : World).Changes place ∧ ¬ ({ world with heap } : World).Reads place := by
  have same := isolated.same_of_extends extended
  refine ⟨fun change => ?_, fun read => ?_⟩
  · have old : world.Changes place :=
      changes_of_same change rfl fun place change => same place (.inl change)
    exact Nat.lt_irrefl _ (Nat.lt_of_lt_of_le (isolated.changed place old) new)
  · have old : world.Reads place := reads_of_same read rfl rfl same
    exact Nat.lt_irrefl _ (Nat.lt_of_lt_of_le (isolated.read place old) new)

/-- An object that the store can change gets another content, in which nothing is held that
would bring together what is read and what can be changed. -/
theorem Isolated.written (isolated : world.Isolated) {kind : Kind} {ref : Ref kind}
    (changes : world.Changes ref.place) (content : kind.Content)
    (held : ∀ place ∈ kind.members content, place.address < world.heap.next ∧
      (kind ≠ .settings → ¬ world.Reads place) ∧ (kind = .settings → ¬ world.Changes place)) :
    world.Undisturbed { world with heap := world.heap.write ref content } := by
  let after : World := { world with heap := world.heap.write ref content }
  have unread : ¬ world.Reads ref.place := isolated.apart ref.place changes
  have changed (place : Place) (changed : after.Changes place) :
      world.Changes place ∨ kind ≠ .settings ∧ place ∈ kind.members content := by
    obtain ⟨field, member⟩ := changed
    rcases FieldShape.mem_own member with root | ⟨notSettings, root, named, inside⟩
    · exact .inl ⟨field, List.mem_append_left _ root⟩
    · by_cases same : root = ref.place
      · subst same
        rw [Heap.members_write_self] at inside
        exact .inr ⟨fun settings => notSettings ((FieldShape.kind_of_mem_roots named).1.1 settings),
          inside⟩
      · rw [Heap.members_write_of_ne _ _ _ same] at inside
        refine .inl ⟨field, List.mem_append_right _ ?_⟩
        rw [if_neg notSettings]
        exact List.mem_flatMap.2 ⟨root, named, inside⟩
  have same (txn : TxnObject) (reader : txn ∈ world.readers) (field : MainField) (place : Place)
      (member : place ∈ field.reach world.heap txn.main) :
      after.heap.contents place = world.heap.contents place :=
    world.heap.contents_write_of_ne ref content fun same =>
      unread (same ▸ .inr ⟨txn, reader, field, member⟩)
  have reads (place : Place) (reads : after.Reads place) :
      world.Reads place ∨ kind = .settings ∧ place ∈ kind.members content := by
    rcases reads with ⟨field, member⟩ | ⟨txn, reader, field, member⟩
    · obtain ⟨settings, root, named, inside⟩ := FieldShape.mem_kept member
      by_cases same : root = ref.place
      · subst same
        rw [Heap.members_write_self] at inside
        exact .inr ⟨(FieldShape.kind_of_mem_roots named).1.2 settings, inside⟩
      · rw [Heap.members_write_of_ne _ _ _ same] at inside
        refine .inl (.inl ⟨field, ?_⟩)
        rw [MainField.kept, FieldShape.kept, if_pos settings]
        exact List.mem_flatMap.2 ⟨root, named, inside⟩
    · have reach : field.reach after.heap txn.main = field.reach world.heap txn.main :=
        FieldShape.reach_congr fun root named =>
          same txn reader field root (FieldShape.mem_reach_of_mem_roots named)
      exact .inl (.inr ⟨txn, reader, field, reach ▸ member⟩)
  refine ⟨isolated.gained _ _ (Nat.le_refl _) changed reads ?_ ?_, rfl, same⟩
  · rintro place ⟨notSettings, inside⟩
    exact ⟨(held place inside).1, (held place inside).2.1 notSettings,
      fun taken => notSettings taken.1⟩
  · rintro place ⟨settings, inside⟩
    exact ⟨(held place inside).1, (held place inside).2.2 settings⟩

/-- A field gets objects that are not read, and if they hold something then what cannot be
changed. -/
theorem Isolated.assigned (isolated : world.Isolated) {field : MainField}
    {slot : field.shape.Slot}
    (there : ∀ place ∈ field.shape.reach world.heap slot, place.address < world.heap.next)
    (unread : ∀ place ∈ field.shape.own world.heap slot, ¬ world.Reads place)
    (unchanged : ∀ place ∈ field.shape.kept world.heap slot, ¬ world.Changes place) :
    world.Undisturbed { world with main := world.main.set field slot } := by
  let after : World := { world with main := world.main.set field slot }
  have changed (place : Place) (changed : after.Changes place) :
      world.Changes place ∨ place ∈ field.shape.own world.heap slot := by
    obtain ⟨other, member⟩ := changed
    exact (MainField.mem_own_set member).imp_left fun old => ⟨other, old⟩
  have reads (place : Place) (reads : after.Reads place) :
      world.Reads place ∨ place ∈ field.shape.kept world.heap slot := by
    rcases reads with ⟨other, member⟩ | reader
    · exact (MainField.mem_kept_set member).imp_left fun old => .inl ⟨other, old⟩
    · exact .inl (.inr reader)
  refine ⟨isolated.gained _ _ (Nat.le_refl _) changed reads (fun place own => ?_)
    fun place kept => ?_, rfl, fun _ _ _ _ _ => rfl⟩
  · exact ⟨there place (FieldShape.mem_reach_of_mem_own own), unread place own,
      FieldShape.not_mem_kept_of_mem_own own⟩
  · exact ⟨there place (FieldShape.mem_reach_of_mem_kept kept), unchanged place kept⟩

/-- A field gets objects that have been made for it. -/
theorem Isolated.made (isolated : world.Isolated) {field : MainField} (new : field.Content) :
    world.Undisturbed (world.assign field (field.shape.make new world.heap)) := by
  have made := FieldShape.made_make new world.heap
  have kept := FieldShape.kept_make new world.heap
  have first := isolated.extended made.grows.toExtends
  refine first.trans (first.isolated.assigned (fun place member => ?_)
    (fun place own => (isolated.not_held_of_le made.grows.toExtends (made.new place own).1).2)
    fun place held => ?_)
  · rcases FieldShape.mem_reach_iff.1 member with own | held
    · exact (made.new place own).2
    · rw [kept] at held
      cases held
  · rw [kept] at held
    cases held

/-- A field is filled again. -/
theorem Isolated.refilled (isolated : world.Isolated) {field : MainField} (new : field.Content) :
    world.Undisturbed
      (world.assign field (field.shape.refill (world.main field) new world.heap)) := by
  rcases FieldShape.refill_cases (world.main field) new world.heap with
    same | ⟨kind, ref, filling, later, same, root, grows, members⟩ <;> rw [same]
  · exact isolated.made new
  · have slot : world.main.set field (world.main field) = world.main :=
      Function.update_eq_self field world.main
    have first := isolated.extended grows.toExtends
    have changes : ({ world with heap := later } : World).Changes ref.place :=
      ⟨field, List.mem_append_left _ root⟩
    have written := first.isolated.written changes filling fun place member =>
      have fresh := isolated.not_held_of_le grows.toExtends (members place member).1
      ⟨(members place member).2, fun _ => fresh.2, fun _ => fresh.1⟩
    rw [assign, slot]
    exact first.trans written

/-- The settings get one more value, in which nothing is held that can be changed. -/
theorem Isolated.set (isolated : world.Isolated) (name : String) {held : Held}
    (unchanged : ∀ set ∈ held.sets, set.address < world.heap.next ∧ ¬ world.Changes set.place) :
    world.Undisturbed (world.setSetting name held) := by
  let ref : Ref .settings := world.main .settings
  let settings : Entries String Held := world.heap.read ref
  have changes : world.Changes ref.place := ⟨.settings, List.mem_cons_self⟩
  refine isolated.written changes (settings.put name held) fun place member => ?_
  obtain ⟨⟨other, value⟩, among, inside⟩ := List.mem_flatMap.1 member
  rcases Entries.mem_put among with new | old
  · cases new
    obtain ⟨set, among, rfl⟩ := List.mem_map.1 inside
    exact ⟨(unchanged set among).1, fun settings => absurd rfl settings,
      fun _ => (unchanged set among).2⟩
  · have kept : place ∈ MainField.settings.kept world.heap world.main :=
      List.mem_flatMap.2 ⟨ref.place, List.mem_cons_self,
        List.mem_flatMap.2 ⟨(other, value), old, inside⟩⟩
    have read : world.Reads place := .inl ⟨.settings, kept⟩
    exact ⟨isolated.read place read, fun settings => absurd rfl settings,
      fun _ change => isolated.apart place change read⟩

/-- One of the sets gets more ids. -/
theorem Isolated.added (isolated : world.Isolated) (field : IdField) (ids : IdSet) :
    world.Undisturbed (world.addIds field ids) := by
  unfold addIds
  cases found : field.set? world.heap world.main with
  | none => exact isolated.elsewhere rfl rfl (Nat.le_refl _) fun _ _ => rfl
  | some ref =>
      exact isolated.written ⟨field.home, IdField.mem_own_of_set? found⟩ _ fun _ => nofun

/-- The computed values of a transaction that begins now. -/
theorem Isolated.built (isolated : world.Isolated) :
    MainObject.Built MainField.all (Heap.allocAll .rows world.store.tables world.heap).2
      (world.opened.main, world.begin.heap) (fun field => field.read world.heap world.main)
      fun field => field.kept world.heap world.main := by
  refine MainObject.built_copy (fun field place member => ?_)
    (Heap.extends_allocAll .rows world.store.tables world.heap)
  rcases FieldShape.mem_reach_iff.1 member with own | kept
  · exact isolated.changed place ⟨field, own⟩
  · exact isolated.read place (.inl ⟨field, kept⟩)

/-- **A transaction begins** with objects of its own, and reads what the store holds. -/
theorem Isolated.begun (isolated : world.Isolated) :
    world.begin.Isolated ∧
      world.opened.main.view world.begin.heap = world.main.view world.heap := by
  have built := isolated.built
  have before := (Heap.extends_allocAll .rows world.store.tables world.heap).next_le
  have first := isolated.extended world.extends_begin
  -- the new transaction reads new objects, and old ones that are in settings already
  have reads (place : Place) (read : world.begin.Reads place) :
      ({ world with heap := world.begin.heap } : World).Reads place ∨ world.Reads place ∨
        world.heap.next ≤ place.address ∧ place.address < world.begin.heap.next := by
    rcases read with kept | ⟨txn, reader, field, member⟩
    · exact .inl (.inl kept)
    · rcases List.mem_append.1 reader with old | new
      · exact .inl (.inr ⟨txn, old, field, member⟩)
      · cases List.mem_singleton.1 new
        rcases FieldShape.mem_reach_iff.1 member with own | held
        · have between := built.new field field.mem_all place own
          exact .inr (.inr ⟨Nat.le_trans before between.1, between.2⟩)
        · exact .inr (.inl (.inl ⟨field, built.kept field field.mem_all ▸ held⟩))
  have changed (place : Place) (change : world.begin.Changes place) : world.Changes place :=
    changes_of_same change rfl fun place change =>
      isolated.same_of_extends world.extends_begin place (.inl change)
  refine ⟨first.isolated.gained (fun _ => False) _ (Nat.le_refl _) (fun _ => .inl) reads
    (fun _ => nofun) fun place taken => ?_, ?_⟩
  · rcases taken with old | new
    · exact ⟨Nat.lt_of_lt_of_le (isolated.read place old) world.extends_begin.next_le,
        fun change => isolated.apart place (changed place change) old⟩
    · exact ⟨new.2, (isolated.not_held_of_le world.extends_begin new.1).1⟩
  · refine MainField.ext fun field => ?_
    rw [MainObject.get_view, MainObject.get_view]
    exact built.read field field.mem_all

/-! ## Runs -/

theorem Undisturbed.view (undisturbed : world.Undisturbed after) {txn : TxnObject}
    (reader : txn ∈ world.readers) : txn.main.view after.heap = txn.main.view world.heap :=
  MainObject.view_congr fun field => undisturbed.contents txn reader field

/-- No table is held by a field. -/
theorem ne_table_of_held (held : world.Changes place ∨ world.Reads place) {table : Place}
    (isTable : table.kind.isTable = true) : place ≠ table := by
  rcases held with ⟨field, member⟩ | ⟨field, member⟩ | ⟨txn, -, field, member⟩
  · exact FieldShape.ne_table_of_mem_reach isTable (FieldShape.mem_reach_of_mem_own member)
  · exact FieldShape.ne_table_of_mem_reach isTable (FieldShape.mem_reach_of_mem_kept member)
  · exact FieldShape.ne_table_of_mem_reach isTable member

/-- **One event** that spares what is read is not seen by the transactions. -/
theorem undisturbed_step (isolated : world.Isolated) {event : StoreEvent}
    (noBegin : event.isBegin = false) (spares : world.Spares event) :
    world.Undisturbed (world.step event) := by
  have still : world.Undisturbed world := isolated.elsewhere rfl rfl (Nat.le_refl _) fun _ _ => rfl
  cases event with
  | put table key value =>
      rcases step_put world table key value with same | ⟨ref, records, same⟩ <;> rw [same]
      · exact still
      · exact isolated.elsewhere rfl rfl (Nat.le_refl _) fun place held =>
          world.heap.contents_write_of_ne ref records (ne_table_of_held held rfl)
  | createTable table =>
      rcases step_createTable world table with same | same <;> rw [same]
      · exact still
      · exact isolated.elsewhere rfl rfl (Nat.le_succ _)
          (isolated.same_of_extends (.alloc world.heap .records []))
  | setSetting name value => exact isolated.set name fun _ => nofun
  | replace field new => exact isolated.made new
  | refill field new => exact isolated.refilled new
  | addIds field ids => exact isolated.added field ids
  | share field slot => exact isolated.assigned spares.1 spares.2.1 spares.2.2
  | shareSetting name held => exact isolated.set name spares
  | begin => cases noBegin
  | finish txn failure =>
      obtain ⟨_, _, same⟩ := step_finish world txn failure
      rw [same]
      exact isolated.elsewhere rfl rfl (Nat.le_refl _) fun _ _ => rfl

/-- **No event** that spares what is read changes what a transaction reads. -/
theorem view_step (isolated : world.Isolated) {event : StoreEvent} (spares : world.Spares event)
    {txn : TxnObject} (reader : txn ∈ world.readers) :
    txn.main.view (world.step event).heap = txn.main.view world.heap := by
  cases event with
  | begin =>
      exact MainObject.view_congr fun field place member =>
        isolated.same_of_extends world.extends_begin place (.inr (.inr ⟨txn, reader, field, member⟩))
  | _ => exact (undisturbed_step isolated rfl spares).view reader

theorem isolated_step (isolated : world.Isolated) {event : StoreEvent}
    (spares : world.Spares event) : (world.step event).Isolated := by
  cases event with
  | begin => exact isolated.begun.1
  | _ => exact (undisturbed_step isolated rfl spares).isolated

theorem isolated_start : start.Isolated := by
  have built := MainObject.built_ofData {} Heap.empty
  have unread (place : Place) : ¬ start.Reads place := by
    rintro (⟨field, member⟩ | ⟨_, reader, -⟩)
    · have kept : field.kept start.heap start.main = [] := built.kept field field.mem_all
      rw [kept] at member
      cases member
    · cases reader
  refine ⟨fun place change => ?_, fun place read => absurd read (unread place),
    fun place _ => unread place⟩
  obtain ⟨field, member⟩ := change
  exact (built.new field field.mem_all place member).2

theorem isolated_withTables (names : List String) : (withTables names).Isolated := by
  obtain ⟨heap, tables, extended, same⟩ := withTables_eq names
  rw [same]
  have undisturbed : start.Undisturbed { start with heap, tables } :=
    isolated_start.elsewhere rfl rfl extended.next_le (isolated_start.same_of_extends extended)
  exact undisturbed.isolated

/-- All events of a history spare what is read when they happen. -/
def SparesReads (names : List String) (history : List StoreEvent) : Prop :=
  ∀ past event future, history = past ++ event :: future → (run names past).Spares event

theorem sparesReads_concat {names : List String} {history : List StoreEvent}
    {event : StoreEvent} :
    SparesReads names (history ++ [event]) ↔
      SparesReads names history ∧ (run names history).Spares event := by
  constructor
  · intro spares
    refine ⟨fun past other future split => ?_, spares history event [] rfl⟩
    exact spares past other (future ++ [event]) (by simp [split])
  · rintro ⟨spares, last⟩ past other future split
    rcases split_concat split with ⟨rfl, rfl⟩ | ⟨between, -, split⟩
    · exact last
    · exact spares past other between split

/-- **A store stays isolated** from its transactions, as long as it is given nothing of
theirs. -/
theorem isolated_run {names : List String} {history : List StoreEvent}
    (spares : SparesReads names history) : (run names history).Isolated := by
  induction history using List.reverseRecOn with
  | nil => exact isolated_withTables names
  | append_singleton history event ih =>
      obtain ⟨before, last⟩ := sparesReads_concat.1 spares
      rw [run_concat]
      exact isolated_step (ih before) last

/-- **A transaction reads the computed values of its beginning**, whatever happens later. -/
theorem opened_main_run {names : List String} {before after : List StoreEvent}
    (spares : SparesReads names (before ++ .begin :: after)) :
    (run names before).opened.main.view (run names (before ++ .begin :: after)).heap
      = (run names before).store.main := by
  induction after using List.reverseRecOn with
  | nil =>
      rw [run_concat]
      exact (isolated_run (sparesReads_concat.1 spares).1).begun.2
  | append_singleton after event ih =>
      rw [← List.cons_append, ← List.append_assoc] at spares ⊢
      obtain ⟨earlier, last⟩ := sparesReads_concat.1 spares
      have reader := List.mem_of_getElem? (readers_run names before after)
      refine Eq.trans ?_ (ih earlier)
      rw [run_concat]
      exact view_step (isolated_run earlier) last reader

end World

end IndexSnapshot
