/-
# IndexSnapshot.Proofs.FieldHistory -- what has become of the computed values

As long as a store is given nothing that exists already, no two of its fields share an object,
and each field is what has been done to it: replaced, filled again, or given more ids.  What is
done to one field leaves the others alone, and what has happened can be said of the list of
events alone.

* `StoreEvent.change?` and `MainField.after`: what the events make of a field.
* `FieldShape.Altered`: a field has been changed, in its own objects or in new ones;
  `altered_make`, `altered_refill`, `altered_settings` and `altered_set`.
* `World.Unshared`: no object belongs to two fields.  `fields_step` is the invariant along a
  run, and `fields_run` says that every field is what has been made of it.
-/
import IndexSnapshot.Proofs.Isolation

namespace IndexSnapshot

set_option autoImplicit false

/-! ## Changes -/

/-- A change of one field. -/
structure MainChange where
  field : MainField
  update : field.Content → field.Content

/-- A field after a change, which may be to another one. -/
def MainChange.on (change : MainChange) (field : MainField) (content : field.Content) :
    field.Content :=
  if same : change.field = field then same ▸ change.update (same ▸ content) else content

theorem MainChange.on_self (field : MainField) (update : field.Content → field.Content)
    (content : field.Content) :
    MainChange.on ⟨field, update⟩ field content = update content :=
  dif_pos rfl

theorem MainChange.on_of_ne {field other : MainField} (update : field.Content → field.Content)
    (content : other.Content) (ne : other ≠ field) :
    MainChange.on ⟨field, update⟩ other content = content :=
  dif_neg (Ne.symm ne)

namespace StoreEvent

/-- The change of a computed value that an event is, if that can be told from the event. -/
def change? : StoreEvent → Option MainChange
  | .setSetting name value =>
      some ⟨.settings, fun (settings : Entries String Value) => settings.put name value⟩
  | .replace field new | .refill field new => some ⟨field, fun _ => new⟩
  | .addIds field ids => some ⟨field.home, field.add ids⟩
  | _ => none

/-- Whether the store is given objects that exist already. -/
def takesOver : StoreEvent → Bool
  | .share .. | .shareSetting .. => true
  | _ => false

end StoreEvent

/-- What the changes to a field have made of it. -/
def MainField.after (field : MainField) (history : List StoreEvent) : field.Content :=
  (history.filterMap StoreEvent.change?).foldl (fun content change => change.on field content)
    (field.get {})

theorem after_concat (field : MainField) (history : List StoreEvent) (event : StoreEvent) :
    field.after (history ++ [event]) = match event.change? with
      | none => field.after history
      | some change => change.on field (field.after history) := by
  rw [MainField.after, List.filterMap_append, List.foldl_append]
  cases changed : event.change? <;> simp [changed, MainField.after]

/-! ## One field -/

namespace FieldShape

variable {shape : FieldShape} {old : Heap} {slot : shape.Slot}

/-- A field has been given another content, in its own objects or in new ones. -/
structure Altered (shape : FieldShape) (old : Heap) (slot : shape.Slot)
    (made : shape.Slot × Heap) (content : shape.Content) : Prop where
  same : ∀ place, place.address < old.next → place ∉ shape.own old slot →
    made.2.contents place = old.contents place
  read : shape.read made.2 made.1 = content
  own : ∀ place ∈ shape.own made.2 made.1,
    place ∈ shape.own old slot ∨ old.next ≤ place.address
  nodup : (shape.own made.2 made.1).Nodup
  kept : shape.kept made.2 made.1 = []

theorem altered_make (content : shape.Content) :
    shape.Altered old slot (shape.make content old) content := by
  have made := made_make content old
  exact ⟨fun place there _ => made.grows.contents place there, made.read,
    fun place own => .inr (made.new place own).1, made.nodup, kept_make content old⟩

/-- The only object of a field gets another content. -/
theorem Altered.of_write {kind : Kind} (ref : Ref kind) (filling : kind.Content)
    {content : shape.Content} (before : shape.own old slot = [ref.place])
    (read : shape.read (old.write ref filling) slot = content)
    (own : shape.own (old.write ref filling) slot = [ref.place])
    (kept : shape.kept (old.write ref filling) slot = []) :
    shape.Altered old slot (slot, old.write ref filling) content where
  same _ _ outside := old.contents_write_of_ne ref filling fun same =>
    outside (before ▸ List.mem_singleton.2 same)
  read := read
  own _ member := .inl (before ▸ own ▸ member)
  nodup := own ▸ List.nodup_singleton _
  kept := kept

/-- **A field is filled again** with what it is given. -/
theorem altered_refill (content : shape.Content) :
    shape.Altered old slot (shape.refill slot content old) content := by
  cases shape with
  | settings =>
      exact .of_write (slot : Ref .settings) _ rfl
        ((read_settings _ _ _ (old.read_write_self _ _)).trans (map_read_plain _ content)) rfl
        ((kept_settings _ _ _ (old.read_write_self _ _)).trans (members_plain content))
  | fieldNames =>
      let ref : Ref .fieldNames := slot
      exact .of_write ref content rfl (old.read_write_self ref content) rfl rfl
  | fieldCounts =>
      let ref : Ref .fieldCounts := slot
      exact .of_write ref content rfl (old.read_write_self ref content) rfl rfl
  | ids =>
      let ref : Ref .ids := slot
      exact .of_write ref content rfl (old.read_write_self ref content) rfl rfl
  | groups =>
      let sets := Heap.allocAll .ids content old
      let ref : Ref .groups := slot
      have grows : old.Grows sets.2 := .allocAll .ids content old rfl
      have holds : (sets.2.write ref sets.1).read ref = sets.1 := sets.2.read_write_self ref sets.1
      have own := own_groups _ ref sets.1 holds
      refine ⟨fun place there outside => ?same, ?read, fun place member => ?own, ?nodup, rfl⟩
      case same =>
        refine (sets.2.contents_write_of_ne ref sets.1 fun same => ?_).trans
          (grows.contents place there)
        exact outside (same ▸ List.mem_cons_self)
      case read =>
        refine (read_groups _ ref sets.1 holds).trans ?_
        refine Eq.trans (List.map_congr_left fun (fieldId, set) _ => Prod.ext rfl ?_)
          (Heap.read_allocAll .ids content old)
        exact sets.2.read_write_of_kind ref sets.1 set nofun
      case own =>
        rcases List.mem_cons.1 (own ▸ member : place ∈ _ :: _) with rfl | inside
        · exact .inl List.mem_cons_self
        · obtain ⟨⟨fieldId, set⟩, among, rfl⟩ := List.mem_map.1 inside
          exact .inr (Heap.new_of_mem_allocAll .ids content old among).1
      case nodup =>
        show (groups.own (sets.2.write ref sets.1) ref).Nodup
        exact own ▸ (nodup_groups_iff ref sets.1).2 (Heap.nodup_allocAll .ids content old)
  | bytes => exact altered_make content
  | words =>
      cases slot with
      | none => exact altered_make content
      | some ref =>
          cases content with
          | none =>
              show words.Altered old (some ref) (words.make none old) none
              exact altered_make _
          | some list =>
              exact .of_write ref list rfl (congrArg some (old.read_write_self ref list)) rfl rfl

/-- **A setting gets a value.** -/
theorem altered_settings {ref : Ref .settings} (plain : settings.kept old ref = [])
    (name : String) (value : Value) :
    settings.Altered old ref
      (ref, old.write ref (Entries.put (old.read ref : Entries String Held) name (.plain value)))
      (Entries.put (settings.read old ref : Entries String Value) name value) := by
  let entries : Entries String Held := old.read ref
  have held (entry : String × Held) (member : entry ∈ entries) : entry.2.sets = [] :=
    List.map_eq_nil_iff.1 (List.flatMap_eq_nil_iff.1
      ((kept_settings old ref entries rfl).symm.trans plain) entry member)
  have holds := old.read_write_self ref (entries.put name (.plain value))
  refine .of_write ref _ rfl ?_ rfl ?_
  · refine (read_settings _ ref _ holds).trans ?_
    refine (Entries.map_put _ entries name _).trans ?_
    refine congrArg (Entries.put · name value) ?_
    refine List.map_congr_left fun entry member => Prod.ext rfl (Held.read_congr ?_)
    rw [held entry member]
    exact fun _ => nofun
  · refine (kept_settings _ ref _ holds).trans (List.flatMap_eq_nil_iff.2 fun entry member => ?_)
    rcases Entries.mem_put member with rfl | old
    · rfl
    · exact List.map_eq_nil_iff.2 (held entry old)

/-- One of several sets gets more ids. -/
theorem altered_groups {ref : Ref .groups} {fieldId : Int} {set : Ref .ids}
    (different : (groups.own old ref).Nodup)
    (found : Entries.get? (old.read ref : Entries Int (Ref .ids)) fieldId = some set)
    (ids : IdSet) :
    groups.Altered old ref (ref, old.write set ((old.read set).union ids))
      (IdField.addIn (groups.read old ref) fieldId ids) := by
  let sets : Entries Int (Ref .ids) := old.read ref
  have before := own_groups old ref sets rfl
  have holds : (old.write set ((old.read set).union ids)).read ref = sets :=
    old.read_write_of_kind set _ ref nofun
  have own := own_groups _ ref sets holds
  have there : set.place ∈ groups.own old ref :=
    before ▸ List.mem_cons_of_mem _ (List.mem_map.2 ⟨_, Entries.mem_of_get? found, rfl⟩)
  refine ⟨fun place _ outside => ?same, ?read, fun place member => ?own, ?nodup, rfl⟩
  case same =>
    exact old.contents_write_of_ne set _ fun same => outside (same ▸ there)
  case read =>
    have refs := (nodup_groups_iff ref sets).1 (before ▸ different)
    have was : Entries.get? (groups.read old ref) fieldId = some (old.read set) := by
      refine (Entries.get?_map_values (fun set : Ref .ids => old.read set) sets fieldId).trans ?_
      rw [found, Option.map_some]
    refine (read_groups _ ref sets holds).trans ?_
    refine (Entries.map_read_write old refs found _ id).trans ?_
    exact (IdField.addIn_of_get? was ids).symm
  case own => exact .inl (before ▸ own ▸ member)
  case nodup =>
    rw [own, ← before]
    exact different

end FieldShape

/-- **A set of ids gets more ids.** -/
theorem IdField.altered_set {heap : Heap} {main : MainObject} {field : IdField} {ref : Ref .ids}
    (different : (field.home.own heap main).Nodup) (found : field.set? heap main = some ref)
    (ids : IdSet) :
    field.home.shape.Altered heap (main field.home)
      (main field.home, heap.write ref ((heap.read ref).union ids))
      (field.add ids (field.home.read heap main)) := by
  cases field with
  | numberFacetedIn fieldId => exact FieldShape.altered_groups different found ids
  | stringFacetedIn fieldId => exact FieldShape.altered_groups different found ids
  | _ =>
      cases found
      exact .of_write _ _ rfl (heap.read_write_self _ _) rfl rfl

/-- Nothing is added to a set that is not there. -/
theorem IdField.add_of_none {heap : Heap} {main : MainObject} {field : IdField}
    (missing : field.set? heap main = none) (ids : IdSet) :
    field.add ids (field.home.read heap main) = field.home.read heap main := by
  have inGroups {ref : Ref .groups} {fieldId : Int}
      (missing : Entries.get? (heap.read ref : Entries Int (Ref .ids)) fieldId = none) :
      IdField.addIn (FieldShape.groups.read heap ref) fieldId ids
        = FieldShape.groups.read heap ref := by
    refine addIn_of_none ?_ ids
    refine (Entries.get?_map_values heap.read (heap.read ref : Entries Int (Ref .ids)) _).trans ?_
    exact Option.map_eq_none_iff.2 missing
  cases field with
  | numberFacetedIn fieldId => exact inGroups missing
  | stringFacetedIn fieldId => exact inGroups missing
  | _ => cases missing

/-! ## All fields -/

/-- What an event makes of the values that a store holds. -/
def Store.after (store : Store) (live : List Nat) : StoreEvent → Store
  | .put table key value => (store.put? table key value).getD store
  | .createTable table => store.createTable table
  | .setSetting name value => store.setSetting name value
  | .replace field new | .refill field new => store.setMain (field.set store.main new)
  | .addIds field ids =>
      store.setMain (field.home.set store.main (field.add ids (field.home.get store.main)))
  | .share .. | .shareSetting .. => store
  | .begin => store.begin.2
  | .finish txn _ => if txn ∈ live then store.finish else store

namespace World

variable {world after : World}

/-- No object belongs to two fields, or twice to one, and there are none in settings. -/
structure Unshared (world : World) : Prop where
  apart : ∀ field other : MainField, field ≠ other →
    ∀ place ∈ field.own world.heap world.main, place ∉ other.own world.heap world.main
  nodup : ∀ field : MainField, (field.own world.heap world.main).Nodup
  plain : ∀ field : MainField, field.kept world.heap world.main = []

/-- A field that nothing has become of reads the same. -/
theorem Unshared.read_congr (unshared : world.Unshared) (field : MainField) {heap : Heap}
    (same : ∀ place ∈ field.own world.heap world.main,
      heap.contents place = world.heap.contents place) :
    field.read heap world.main = field.read world.heap world.main ∧
      field.own heap world.main = field.own world.heap world.main ∧
      field.kept heap world.main = [] := by
  have named (root : Place) (member : root ∈ field.shape.roots (world.main field)) :
      heap.contents root = world.heap.contents root :=
    same root (List.mem_append_left _ member)
  refine ⟨FieldShape.read_congr fun place member => ?_, FieldShape.own_congr named,
    (FieldShape.kept_congr named).trans (unshared.plain field)⟩
  rcases FieldShape.mem_reach_iff.1 member with own | kept
  · exact same place own
  · have plain : field.shape.kept world.heap (world.main field) = [] := unshared.plain field
    rw [plain] at kept
    cases kept

/-- Changes elsewhere are not seen. -/
theorem Unshared.elsewhere (unshared : world.Unshared) (main : after.main = world.main)
    (same : ∀ place, world.Changes place →
      after.heap.contents place = world.heap.contents place) :
    after.Unshared ∧ ∀ field : MainField,
      field.read after.heap after.main = field.read world.heap world.main := by
  have field (field : MainField) := unshared.read_congr field fun place own =>
    same place ⟨field, own⟩
  rw [main]
  refine ⟨⟨?_, ?_, ?_⟩, fun other => (field other).1⟩ <;> rw [main]
  · intro one other ne
    rw [(field one).2.1, (field other).2.1]
    exact unshared.apart one other ne
  · intro one
    rw [(field one).2.1]
    exact unshared.nodup one
  · exact fun one => (field one).2.2

/-- **One field is changed**, and the others are not. -/
theorem Unshared.altered (isolated : world.Isolated) (unshared : world.Unshared)
    (field : MainField) (update : field.Content → field.Content)
    {made : field.shape.Slot × Heap} (altered : field.shape.Altered world.heap (world.main field) made
      (update (field.read world.heap world.main))) :
    (world.assign field made).Unshared ∧ ∀ other : MainField,
      other.read made.2 (world.main.set field made.1)
        = MainChange.on ⟨field, update⟩ other (other.read world.heap world.main) := by
  have there (other : MainField) (place : Place)
      (own : place ∈ other.own world.heap world.main) : place.address < world.heap.next :=
    isolated.changed place ⟨other, own⟩
  have still {other : MainField} (ne : other ≠ field) := unshared.read_congr other
    fun place own => altered.same place (there other place own)
      (unshared.apart other field ne place own)
  -- what a field consists of afterwards
  have ownOther {other : MainField} (ne : other ≠ field) :
      other.own made.2 (world.main.set field made.1) = other.own world.heap world.main :=
    (MainField.own_set_of_ne ne).trans (still ne).2.1
  have outside {other : MainField} (ne : other ≠ field) (place : Place)
      (own : place ∈ field.shape.own made.2 made.1) :
      place ∉ other.own world.heap world.main := fun again => by
    rcases altered.own place own with old | new
    · exact unshared.apart other field ne place again old
    · exact Nat.lt_irrefl _ (Nat.lt_of_lt_of_le (there other place again) new)
  refine ⟨⟨fun one other ne place => ?apart, fun one => ?nodup, fun one => ?plain⟩,
    fun other => ?read⟩
  case apart =>
    show place ∈ one.own made.2 (world.main.set field made.1) →
      place ∉ other.own made.2 (world.main.set field made.1)
    by_cases first : one = field
    · subst first
      rw [MainField.own_set_self, ownOther (Ne.symm ne)]
      exact outside (Ne.symm ne) place
    · rw [ownOther first]
      by_cases second : other = field
      · subst second
        rw [MainField.own_set_self]
        exact fun own again => outside first place again own
      · rw [ownOther second]
        exact unshared.apart one other ne place
  case nodup =>
    show (one.own made.2 (world.main.set field made.1)).Nodup
    by_cases same : one = field
    · subst same
      rw [MainField.own_set_self]
      exact altered.nodup
    · rw [ownOther same]
      exact unshared.nodup one
  case plain =>
    show one.kept made.2 (world.main.set field made.1) = []
    by_cases same : one = field
    · subst same
      exact MainField.kept_set_self.trans altered.kept
    · exact (MainField.kept_set_of_ne same).trans (still same).2.2
  case read =>
    by_cases same : other = field
    · subst same
      rw [MainChange.on_self]
      exact MainField.read_set_self.trans altered.read
    · rw [MainChange.on_of_ne _ _ same]
      exact (MainField.read_set_of_ne same).trans (still same).1

/-- One field is changed in its own objects. -/
theorem Unshared.alteredInPlace (isolated : world.Isolated) (unshared : world.Unshared)
    (field : MainField) (update : field.Content → field.Content) {heap : Heap}
    (altered : field.shape.Altered world.heap (world.main field) (world.main field, heap)
      (update (field.read world.heap world.main))) :
    ({ world with heap } : World).Unshared ∧ ∀ other : MainField,
      other.read heap world.main
        = MainChange.on ⟨field, update⟩ other (other.read world.heap world.main) := by
  have slot : world.main.set field (world.main field) = world.main :=
    Function.update_eq_self field world.main
  have changed := unshared.altered isolated field update altered
  simp only [assign, slot] at changed
  exact changed

/-- **One event**, if nothing is taken over, changes the field that it says, and nothing else
of the computed values. -/
theorem fields_step (isolated : world.Isolated) (unshared : world.Unshared) {event : StoreEvent}
    (given : event.takesOver = false) :
    (world.step event).Unshared ∧ ∀ field : MainField,
      field.read (world.step event).heap (world.step event).main = match event.change? with
        | none => field.read world.heap world.main
        | some change => change.on field (field.read world.heap world.main) := by
  cases event with
  | put table key value =>
      rcases step_put world table key value with same | ⟨ref, records, same⟩ <;> rw [same]
      · exact ⟨unshared, fun _ => rfl⟩
      · exact unshared.elsewhere rfl fun place changes =>
          world.heap.contents_write_of_ne ref records (ne_table_of_held (.inl changes) rfl)
  | createTable table =>
      rcases step_createTable world table with same | same <;> rw [same]
      · exact ⟨unshared, fun _ => rfl⟩
      · exact unshared.elsewhere rfl fun place changes =>
          isolated.same_of_extends (.alloc world.heap .records []) place (.inl changes)
  | setSetting name value =>
      exact unshared.alteredInPlace isolated .settings
        (fun (settings : Entries String Value) => settings.put name value)
        (FieldShape.altered_settings (unshared.plain .settings) name value)
  | replace field new => exact unshared.altered isolated field _ (FieldShape.altered_make new)
  | refill field new => exact unshared.altered isolated field _ (FieldShape.altered_refill new)
  | addIds field ids =>
      show (world.addIds field ids).Unshared ∧ ∀ other : MainField,
        other.read (world.addIds field ids).heap world.main
          = MainChange.on ⟨field.home, field.add ids⟩ other (other.read world.heap world.main)
      unfold addIds
      cases found : field.set? world.heap world.main with
      | none =>
          refine ⟨unshared, fun other => ?_⟩
          by_cases same : other = field.home
          · subst same
            rw [MainChange.on_self, IdField.add_of_none found]
          · rw [MainChange.on_of_ne _ _ same]
      | some ref =>
          exact unshared.alteredInPlace isolated field.home (field.add ids)
            (IdField.altered_set (unshared.nodup field.home) found ids)
  | share field slot => cases given
  | shareSetting name held => cases given
  | begin =>
      exact unshared.elsewhere rfl fun place changes =>
        isolated.same_of_extends world.extends_begin place (.inl changes)
  | finish txn failure =>
      obtain ⟨_, _, same⟩ := step_finish world txn failure
      rw [same]
      exact unshared.elsewhere rfl fun _ _ => rfl

/-! ## What a store reads -/

/-- A changed field, as it is read. -/
theorem view_of_changed {main : MainData} {field : MainField}
    {update : field.Content → field.Content}
    (changed : ∀ other : MainField, other.read after.heap after.main
      = MainChange.on ⟨field, update⟩ other (other.get main)) :
    after.store.main = field.set main (update (field.get main)) := by
  refine MainField.ext fun other => ?_
  show other.get (after.main.view after.heap) = _
  rw [MainObject.get_view, changed]
  by_cases same : other = field
  · subst same
    rw [MainChange.on_self, MainField.get_set_self]
  · rw [MainChange.on_of_ne _ _ same, MainField.get_set_of_ne _ _ (Ne.symm same)]

/-- **A store of objects reads like a store of values**, if nothing is taken over. -/
theorem store_step (apart : world.TablesApart) (isolated : world.Isolated)
    (unshared : world.Unshared) {event : StoreEvent} (given : event.takesOver = false) :
    (world.step event).store = world.store.after world.live event := by
  have fields := (fields_step isolated unshared given).2
  have get (field : MainField) :
      field.read world.heap world.main = field.get world.store.main :=
    (MainObject.get_view world.heap world.main field).symm
  simp only [get] at fields
  -- all that matters is what the tables and the computed values read
  have ext {after : Store} (tables : (world.step event).store.tables = after.tables)
      (main : (world.step event).store.main = after.main)
      (openReaders : (world.step event).openReaders = after.openReaders) :
      (world.step event).store = after := Store.mk.injEq .. ▸ ⟨tables, main, openReaders⟩
  cases event with
  | put table key value =>
      refine (Option.getD_map World.store world _).symm.trans ?_
      rw [store_put? apart]
      rfl
  | createTable table => exact store_createTable apart table
  | setSetting | replace | refill | addIds =>
      exact ext (store_tables_step apart nofun nofun) (view_of_changed fields) rfl
  | share field slot => cases given
  | shareSetting name held => cases given
  | begin =>
      refine ext (store_tables_step apart nofun nofun) (MainField.ext fun field => ?_) rfl
      exact (MainObject.get_view ..).trans (fields field)
  | finish txn failure =>
      show (world.close txn).store = if txn ∈ world.live then world.store.finish else world.store
      unfold close
      split <;> rfl

/-! ## Runs -/

/-- What is made new is never read already. -/
theorem sparesReads_of_given (names : List String) {history : List StoreEvent}
    (given : ∀ event ∈ history, event.takesOver = false) : SparesReads names history := by
  intro past event future split
  have new := given event (split ▸ List.mem_append_right _ List.mem_cons_self)
  cases event <;> trivial

/-- A new store has computed values of its own. -/
theorem unshared_withTables (names : List String) :
    (withTables names).Unshared ∧ ∀ field : MainField,
      field.read (withTables names).heap (withTables names).main = field.get {} := by
  have built := MainObject.built_ofData {} Heap.empty
  have first : start.Unshared :=
    ⟨fun field other => built.apart field field.mem_all other other.mem_all,
      fun field => built.nodup field field.mem_all, fun field => built.kept field field.mem_all⟩
  obtain ⟨heap, tables, extended, same⟩ := withTables_eq names
  rw [same]
  have later : ({ start with heap, tables } : World).Unshared ∧ ∀ field : MainField,
      field.read heap start.main = field.read start.heap start.main :=
    first.elsewhere rfl fun place changes =>
      isolated_start.same_of_extends extended place (.inl changes)
  exact ⟨later.1, fun field => (later.2 field).trans (built.read field field.mem_all)⟩

/-- **Every field is what has been made of it**, after any events in any order that give the store
nothing that exists already. -/
theorem fields_run (names : List String) {history : List StoreEvent}
    (given : ∀ event ∈ history, event.takesOver = false) :
    (run names history).Unshared ∧ ∀ field : MainField,
      field.read (run names history).heap (run names history).main = field.after history := by
  induction history using List.reverseRecOn with
  | nil => exact unshared_withTables names
  | append_singleton history event ih =>
      have earlier (other : StoreEvent) (member : other ∈ history) : other.takesOver = false :=
        given other (List.mem_append_left _ member)
      obtain ⟨unshared, before⟩ := ih earlier
      have last := given event (List.mem_append_right _ List.mem_cons_self)
      have isolated := isolated_run (sparesReads_of_given names earlier)
      obtain ⟨unshared, changed⟩ := fields_step isolated unshared last
      rw [run_concat]
      refine ⟨unshared, fun field => ?_⟩
      rw [changed, after_concat, before]

end World

end IndexSnapshot
