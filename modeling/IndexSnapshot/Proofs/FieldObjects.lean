/-
# IndexSnapshot.Proofs.FieldObjects -- new objects for the fields of the computed values

What is said of a field depends on the content of the objects that it reads, and on nothing
else.  When a field is given new objects it reads what it was given, and consists of objects
that were not there before; a copied field reads the same as before, and so does a copy of
all fields.

* `FieldShape.read_congr` and `reach_congr`: where nothing has changed, a field is the same.
* `FieldShape.Made`: what objects are good for; `made_make` and `made_copy`.
* `MainObject.Built`: the same of all fields together; `built_ofData` and `built_copy`.
-/
import IndexSnapshot.Store.Objects
import Mathlib.Data.List.Nodup

namespace IndexSnapshot

set_option autoImplicit false

/-- A value of a setting changes only with the sets in it. -/
theorem Held.read_congr {old new : Heap} {held : Held}
    (same : ∀ set ∈ held.sets, new.read set = old.read set) : held.read new = held.read old :=
  congrArg held.value (List.map_congr_left same)

@[simp] theorem Held.read_plain (heap : Heap) (value : Value) :
    (Held.plain value).read heap = value := rfl

theorem map_read_plain (heap : Heap) (entries : Entries String Value) :
    (entries.map fun (name, value) => (name, Held.plain value)).map
      (fun (name, held) => (name, held.read heap)) = entries :=
  (List.map_map ..).trans (List.map_id _)

/-- There are no objects in plain values. -/
theorem members_plain (entries : Entries String Value) :
    Kind.settings.members (entries.map fun (name, value) => (name, Held.plain value)) = [] := by
  refine List.flatMap_eq_nil_iff.2 fun entry member => ?_
  obtain ⟨_, -, rfl⟩ := List.mem_map.1 member
  rfl

namespace FieldShape

variable {shape : FieldShape} {old new : Heap} {slot : shape.Slot} {place : Place}

/-! ## The objects of a field -/

theorem mem_reach_of_mem_roots (member : place ∈ shape.roots slot) :
    place ∈ shape.reach old slot :=
  List.mem_append_left _ member

theorem mem_reach_iff :
    place ∈ shape.reach old slot ↔ place ∈ shape.own old slot ∨ place ∈ shape.kept old slot := by
  unfold reach own kept
  split <;> simp

theorem mem_reach_of_mem_own (member : place ∈ shape.own old slot) :
    place ∈ shape.reach old slot :=
  mem_reach_iff.2 (.inl member)

theorem mem_reach_of_mem_kept (member : place ∈ shape.kept old slot) :
    place ∈ shape.reach old slot :=
  mem_reach_iff.2 (.inr member)

/-- An object that a field consists of is named by it, or held in one that is. -/
theorem mem_own (member : place ∈ shape.own old slot) :
    place ∈ shape.roots slot ∨
      shape ≠ .settings ∧ ∃ root ∈ shape.roots slot, place ∈ old.members root := by
  rw [own, List.mem_append] at member
  refine member.imp_right fun inside => ?_
  split at inside
  · cases inside
  · exact ⟨‹_›, List.mem_flatMap.1 inside⟩

theorem mem_kept (member : place ∈ shape.kept old slot) :
    shape = .settings ∧ ∃ root ∈ shape.roots slot, place ∈ old.members root := by
  rw [kept] at member
  split at member
  · exact ⟨‹_›, List.mem_flatMap.1 member⟩
  · cases member

/-- A dictionary of settings is the object of a field of settings, and no table is the object
of a field. -/
theorem kind_of_mem_roots (member : place ∈ shape.roots slot) :
    (place.kind = .settings ↔ shape = .settings) ∧ place.kind.isTable = false := by
  cases shape with
  | settings =>
      cases List.mem_singleton.1 member
      exact ⟨iff_of_true rfl rfl, rfl⟩
  | bytes => cases member
  | words =>
      obtain ⟨list, -, rfl⟩ := Option.map_eq_some_iff.1 (Option.mem_toList.1 member)
      exact ⟨iff_of_false nofun nofun, rfl⟩
  | _ =>
      cases List.mem_singleton.1 member
      exact ⟨iff_of_false nofun nofun, rfl⟩

theorem kind_of_mem_members {root : Place} (member : place ∈ old.members root) :
    place.kind = .ids :=
  Kind.kind_of_mem_members member

theorem not_isTable_of_mem_reach (member : place ∈ shape.reach old slot) :
    place.kind.isTable = false := by
  rcases List.mem_append.1 member with root | inside
  · exact (kind_of_mem_roots root).2
  · obtain ⟨_, -, held⟩ := List.mem_flatMap.1 inside
    rw [kind_of_mem_members held]
    rfl

theorem ne_table_of_mem_reach {table : Place} (isTable : table.kind.isTable = true)
    (member : place ∈ shape.reach old slot) : place ≠ table := by
  rintro rfl
  exact absurd (isTable.symm.trans (not_isTable_of_mem_reach member)) nofun

/-- What is in a setting is no dictionary of settings. -/
theorem not_mem_kept_of_mem_own (member : place ∈ shape.own old slot) :
    place ∉ shape.kept old slot := by
  intro held
  obtain ⟨rfl, _, -, inside⟩ := mem_kept held
  rcases mem_own member with root | ⟨absurd, -⟩
  · have settings := (kind_of_mem_roots root).1.2 rfl
    rw [kind_of_mem_members inside] at settings
    cases settings
  · exact absurd rfl

/-! ## What does not change -/

theorem flatMap_members_congr {roots : List Place}
    (same : ∀ root ∈ roots, new.contents root = old.contents root) :
    roots.flatMap new.members = roots.flatMap old.members := by
  refine List.flatMap_congr fun root member => ?_
  rw [Heap.members, Heap.members, same root member]

variable (same : ∀ root ∈ shape.roots slot, new.contents root = old.contents root)
include same

/-- A field holds the same objects as long as those that it names have the same content. -/
theorem reach_congr : shape.reach new slot = shape.reach old slot := by
  rw [reach, reach, flatMap_members_congr same]

theorem own_congr : shape.own new slot = shape.own old slot := by
  rw [own, own, flatMap_members_congr same]

theorem kept_congr : shape.kept new slot = shape.kept old slot := by
  rw [kept, kept, flatMap_members_congr same]

omit same

/-- **A field reads the same** as long as the objects that it reads have the same content. -/
theorem read_congr (same : ∀ place ∈ shape.reach old slot, new.contents place = old.contents place) :
    shape.read new slot = shape.read old slot := by
  have named (root : Place) (member : root ∈ shape.roots slot) :
      new.contents root = old.contents root :=
    same root (mem_reach_of_mem_roots member)
  have inside (root : Place) (member : root ∈ shape.roots slot) (place : Place)
      (held : place ∈ old.members root) : new.contents place = old.contents place :=
    same place (List.mem_append_right _ (List.mem_flatMap.2 ⟨root, member, held⟩))
  cases shape with
  | settings =>
      have dictionary : new.read (slot : Ref .settings) = old.read (slot : Ref .settings) :=
        named _ List.mem_cons_self
      simp only [read, dictionary]
      refine List.map_congr_left fun (name, held) member => ?_
      refine Prod.ext rfl (Held.read_congr fun set among => ?_)
      refine inside _ List.mem_cons_self set.place (List.mem_flatMap.2 ⟨_, member, ?_⟩)
      exact List.mem_map_of_mem among
  | groups =>
      have dictionary : new.read (slot : Ref .groups) = old.read (slot : Ref .groups) :=
        named _ List.mem_cons_self
      simp only [read, dictionary]
      refine List.map_congr_left fun (fieldId, set) member => ?_
      have there := inside _ List.mem_cons_self set.place (List.mem_map_of_mem member)
      exact Prod.ext rfl there
  | bytes => rfl
  | words =>
      cases slot with
      | none => rfl
      | some list => exact congrArg some (named _ List.mem_cons_self)
  | _ => exact named _ List.mem_cons_self

/-! ## New objects for a field -/

/-- A field has been given objects of its own with a content. -/
structure Made (shape : FieldShape) (old : Heap) (made : shape.Slot × Heap)
    (content : shape.Content) : Prop where
  grows : old.Grows made.2
  read : shape.read made.2 made.1 = content
  new : ∀ place ∈ shape.own made.2 made.1,
    old.next ≤ place.address ∧ place.address < made.2.next
  nodup : (shape.own made.2 made.1).Nodup

/-- One new object, in which nothing is held that could be changed through the field. -/
theorem Made.of_alloc {kind : Kind} {filling : kind.Content} {content : shape.Content}
    {slot : shape.Slot} (notTable : kind.isTable = false)
    (read : shape.read (old.alloc kind filling).2 slot = content)
    (own : shape.own (old.alloc kind filling).2 slot = [(old.alloc kind filling).1.place]) :
    shape.Made old (slot, (old.alloc kind filling).2) content where
  grows := .alloc old kind filling notTable
  read := read
  new place member := by
    rw [own] at member
    cases List.mem_singleton.1 member
    exact ⟨Nat.le_refl _, Nat.lt_succ_self _⟩
  nodup := own ▸ List.nodup_singleton _

/-- The sets of ids of a new dictionary are the new ones. -/
theorem own_groups (heap : Heap) (ref : Ref .groups) (sets : Entries Int (Ref .ids))
    (holds : heap.read ref = sets) :
    groups.own heap ref = ref.place :: sets.map fun (_, set) => set.place := by
  subst holds
  exact congrArg (ref.place :: ·) (List.append_nil _)

theorem read_groups (heap : Heap) (ref : Ref .groups) (sets : Entries Int (Ref .ids))
    (holds : heap.read ref = sets) :
    groups.read heap ref = sets.map fun (fieldId, set) => (fieldId, heap.read set) := by
  subst holds
  rfl

theorem read_settings (heap : Heap) (ref : Ref .settings) (entries : Entries String Held)
    (holds : heap.read ref = entries) :
    settings.read heap ref = entries.map fun (name, held) => (name, held.read heap) := by
  subst holds
  rfl

theorem kept_settings (heap : Heap) (ref : Ref .settings) (entries : Entries String Held)
    (holds : heap.read ref = entries) :
    settings.kept heap ref = entries.flatMap fun (_, held) => held.sets.map Ref.place := by
  subst holds
  exact List.append_nil _

/-- A dictionary is none of the sets in it. -/
theorem nodup_groups_iff (ref : Ref .groups) (sets : Entries Int (Ref .ids)) :
    (ref.place :: sets.map fun (_, set) => set.place).Nodup
      ↔ (sets.map fun entry => entry.2).Nodup := by
  have places : (sets.map fun (_, set) => set.place)
      = (sets.map fun entry => entry.2).map Ref.place := by
    rw [List.map_map]
    rfl
  have outside : ref.place ∉ (sets.map fun entry => entry.2).map Ref.place := fun inside => by
    obtain ⟨_, -, same⟩ := List.mem_map.1 inside
    exact absurd (congrArg Place.kind same) nofun
  rw [places, List.nodup_cons, and_iff_right outside]
  exact List.nodup_map_iff fun _ _ => Ref.place_inj.1

/-- A new dictionary of new sets. -/
theorem made_groups (sets : Entries Int IdSet) (heap : Heap) :
    groups.Made heap (groups.make sets heap) sets := by
  let made := Heap.allocAll .ids sets heap
  let dictionary := made.2.alloc .groups made.1
  have later : made.2.Grows dictionary.2 := .alloc made.2 .groups made.1 rfl
  have holds : dictionary.2.read dictionary.1 = made.1 := made.2.read_alloc .groups made.1
  have own := own_groups dictionary.2 dictionary.1 made.1 holds
  have new (fieldId : Int) (set : Ref .ids) (member : (fieldId, set) ∈ made.1) :=
    Heap.new_of_mem_allocAll .ids sets heap member
  refine ⟨(Heap.Grows.allocAll .ids sets heap rfl).trans later, ?read,
    fun place member => ?new, ?nodup⟩
  case read =>
    refine (read_groups dictionary.2 dictionary.1 made.1 holds).trans ?_
    refine Eq.trans (List.map_congr_left fun (fieldId, set) member => ?_)
      (Heap.read_allocAll .ids sets heap)
    exact Prod.ext rfl (later.read (new fieldId set member).2)
  case new =>
    rcases List.mem_cons.1 (own ▸ member : place ∈ _ :: _) with rfl | inside
    · exact ⟨(Heap.extends_allocAll .ids sets heap).next_le, Nat.lt_succ_self _⟩
    · obtain ⟨⟨fieldId, set⟩, among, rfl⟩ := List.mem_map.1 inside
      have between := new fieldId set among
      exact ⟨between.1, Nat.lt_of_lt_of_le between.2 later.next_le⟩
  case nodup =>
    show (groups.own dictionary.2 dictionary.1).Nodup
    exact own ▸ (nodup_groups_iff dictionary.1 made.1).2 (Heap.nodup_allocAll .ids sets heap)

/-- **New objects for a field** read what they were made with. -/
theorem made_make (content : shape.Content) (heap : Heap) :
    shape.Made heap (shape.make content heap) content := by
  cases shape with
  | settings =>
      refine .of_alloc rfl ?_ rfl
      exact (read_settings _ _ _ (heap.read_alloc .settings _)).trans (map_read_plain _ content)
  | fieldNames => exact .of_alloc rfl (heap.read_alloc .fieldNames content) rfl
  | fieldCounts => exact .of_alloc rfl (heap.read_alloc .fieldCounts content) rfl
  | ids => exact .of_alloc rfl (heap.read_alloc .ids content) rfl
  | groups => exact made_groups content heap
  | bytes => exact ⟨.refl heap, rfl, fun _ => nofun, List.nodup_nil⟩
  | words =>
      cases content with
      | none => exact ⟨.refl heap, rfl, fun _ => nofun, List.nodup_nil⟩
      | some list => exact .of_alloc rfl (congrArg some (heap.read_alloc .words list)) rfl

/-- Nothing is kept in settings that are given plain values. -/
theorem kept_make (content : shape.Content) (heap : Heap) :
    shape.kept (shape.make content heap).2 (shape.make content heap).1 = [] := by
  cases shape with
  | settings =>
      exact (kept_settings _ _ _ (heap.read_alloc .settings _)).trans (members_plain content)
  | _ => rfl

theorem grows_copy (slot : shape.Slot) (heap : Heap) : heap.Grows (shape.copy heap slot).2 := by
  cases shape with
  | settings => exact .alloc heap .settings _ rfl
  | _ => exact (made_make _ heap).grows

/-- **A copied field** has objects of its own and reads the same. -/
theorem made_copy {slot : shape.Slot} {heap : Heap}
    (there : ∀ place ∈ shape.reach heap slot, place.address < heap.next) :
    shape.Made heap (shape.copy heap slot) (shape.read heap slot) := by
  cases shape with
  | settings =>
      let entries : Entries String Held := heap.read (slot : Ref .settings)
      refine .of_alloc rfl ?_ rfl
      refine (read_settings _ _ _ (heap.read_alloc .settings entries)).trans ?_
      refine List.map_congr_left fun (name, held) member => ?_
      refine Prod.ext rfl (Held.read_congr fun set among => ?_)
      refine (Heap.Extends.alloc heap .settings entries).read (there set.place ?_)
      refine List.mem_append_right _ (List.mem_flatMap.2 ⟨_, List.mem_cons_self, ?_⟩)
      exact List.mem_flatMap.2 ⟨_, member, List.mem_map_of_mem among⟩
  | _ => exact made_make _ heap

/-- What is kept in copied settings is what was kept in them. -/
theorem kept_copy (slot : shape.Slot) (heap : Heap) :
    shape.kept (shape.copy heap slot).2 (shape.copy heap slot).1 = shape.kept heap slot := by
  cases shape with
  | settings =>
      exact (kept_settings _ _ _ (heap.read_alloc .settings _)).trans (List.append_nil _).symm
  | _ => rfl

/-! ## New content for a field -/

/-- **A field is filled again** with new objects, or in its own object, which then holds nothing
but new ones. -/
theorem refill_cases (slot : shape.Slot) (content : shape.Content) (heap : Heap) :
    shape.refill slot content heap = shape.make content heap ∨
      ∃ (kind : Kind) (ref : Ref kind) (filling : kind.Content) (later : Heap),
        shape.refill slot content heap = (slot, later.write ref filling) ∧
          ref.place ∈ shape.roots slot ∧ heap.Grows later ∧
          ∀ place ∈ kind.members filling,
            heap.next ≤ place.address ∧ place.address < later.next := by
  cases shape with
  | settings =>
      have plain := List.eq_nil_iff_forall_not_mem.1 (members_plain content)
      exact .inr ⟨.settings, slot, _, heap, rfl, List.mem_cons_self, .refl heap,
        fun place member => absurd member (plain place)⟩
  | fieldNames =>
      exact .inr ⟨.fieldNames, slot, content, heap, rfl, List.mem_cons_self, .refl heap,
        fun _ => nofun⟩
  | fieldCounts =>
      exact .inr ⟨.fieldCounts, slot, content, heap, rfl, List.mem_cons_self, .refl heap,
        fun _ => nofun⟩
  | ids =>
      exact .inr ⟨.ids, slot, content, heap, rfl, List.mem_cons_self, .refl heap,
        fun _ => nofun⟩
  | groups =>
      refine .inr ⟨.groups, slot, _, _, rfl, List.mem_cons_self,
        .allocAll .ids content heap rfl, fun place member => ?_⟩
      obtain ⟨⟨fieldId, set⟩, among, rfl⟩ := List.mem_map.1 member
      exact Heap.new_of_mem_allocAll .ids content heap among
  | bytes => exact .inl rfl
  | words =>
      cases slot with
      | none => exact .inl rfl
      | some ref =>
          cases content with
          | none => exact .inl rfl
          | some list =>
              exact .inr ⟨.words, ref, list, heap, rfl, List.mem_cons_self, .refl heap,
                fun _ => nofun⟩

/-- What a field that was made reads, and what it holds, stays when other objects are made. -/
theorem Made.later {made : shape.Slot × Heap} {content : shape.Content} {heap : Heap}
    (spec : shape.Made old made content) (extended : made.2.Extends heap)
    (keptThere : ∀ place ∈ shape.kept made.2 made.1, place.address < old.next) :
    shape.read heap made.1 = content ∧ shape.own heap made.1 = shape.own made.2 made.1 ∧
      shape.kept heap made.1 = shape.kept made.2 made.1 := by
  have there (place : Place) (member : place ∈ shape.reach made.2 made.1) :
      heap.contents place = made.2.contents place := by
    refine extended.contents place ?_
    rcases mem_reach_iff.1 member with member | member
    · exact (spec.new place member).2
    · exact Nat.lt_of_lt_of_le (keptThere place member) spec.grows.next_le
  have named (root : Place) (member : root ∈ shape.roots made.1) :=
    there root (mem_reach_of_mem_roots member)
  exact ⟨(read_congr there).trans spec.read, own_congr named, kept_congr named⟩

end FieldShape

/-! ## All fields -/

section Set

variable {heap : Heap} {main : MainObject} {field other : MainField} {slot : field.shape.Slot}
  {place : Place}

namespace MainField

theorem read_set_self : field.read heap (main.set field slot) = field.shape.read heap slot := by
  rw [read, MainObject.set_self]

theorem own_set_self : field.own heap (main.set field slot) = field.shape.own heap slot := by
  rw [own, MainObject.set_self]

theorem kept_set_self : field.kept heap (main.set field slot) = field.shape.kept heap slot := by
  rw [kept, MainObject.set_self]

theorem read_set_of_ne (ne : other ≠ field) :
    other.read heap (main.set field slot) = other.read heap main := by
  rw [read, read, MainObject.set_of_ne _ _ ne]

theorem own_set_of_ne (ne : other ≠ field) :
    other.own heap (main.set field slot) = other.own heap main := by
  rw [own, own, MainObject.set_of_ne _ _ ne]

theorem kept_set_of_ne (ne : other ≠ field) :
    other.kept heap (main.set field slot) = other.kept heap main := by
  rw [kept, kept, MainObject.set_of_ne _ _ ne]

theorem mem_own_set (member : place ∈ other.own heap (main.set field slot)) :
    place ∈ other.own heap main ∨ place ∈ field.shape.own heap slot := by
  by_cases same : other = field
  · subst same
    exact .inr (own_set_self ▸ member)
  · exact .inl (own_set_of_ne same ▸ member)

theorem mem_kept_set (member : place ∈ other.kept heap (main.set field slot)) :
    place ∈ other.kept heap main ∨ place ∈ field.shape.kept heap slot := by
  by_cases same : other = field
  · subst same
    exact .inr (kept_set_self ▸ member)
  · exact .inl (kept_set_of_ne same ▸ member)

end MainField

end Set

/-- A set of ids is one of the objects that its field consists of. -/
theorem IdField.mem_own_of_set? {heap : Heap} {main : MainObject} {field : IdField}
    {ref : Ref .ids} (found : field.set? heap main = some ref) :
    ref.place ∈ field.home.own heap main := by
  have inGroups {home : Ref .groups} {fieldId : Int}
      (found : Entries.get? (heap.read home : Entries Int (Ref .ids)) fieldId = some ref) :
      ref.place ∈ FieldShape.groups.own heap home := by
    rw [FieldShape.own_groups heap home _ rfl]
    exact List.mem_cons_of_mem _
      (List.mem_map.2 ⟨(fieldId, ref), Entries.mem_of_get? found, rfl⟩)
  cases field with
  | numberFacetedIn fieldId => exact inGroups found
  | stringFacetedIn fieldId => exact inGroups found
  | _ =>
      cases found
      exact List.mem_cons_self

namespace MainObject

/-- Several fields have been given objects of their own, each with its content. -/
structure Built (fields : List MainField) (old : Heap) (built : MainObject × Heap)
    (content : (field : MainField) → field.Content) (kept : MainField → List Place) : Prop where
  grows : old.Grows built.2
  read : ∀ field ∈ fields, field.read built.2 built.1 = content field
  kept : ∀ field ∈ fields, field.kept built.2 built.1 = kept field
  new : ∀ field ∈ fields, ∀ place ∈ field.own built.2 built.1,
    old.next ≤ place.address ∧ place.address < built.2.next
  nodup : ∀ field ∈ fields, (field.own built.2 built.1).Nodup
  apart : ∀ field ∈ fields, ∀ other ∈ fields, field ≠ other →
    ∀ place ∈ field.own built.2 built.1, place ∉ other.own built.2 built.1

/-- If each field is made of new objects, then so are all of them. -/
theorem built_build {base : Heap} {make : (field : MainField) → Heap → field.shape.Slot × Heap}
    {content : (field : MainField) → field.Content} {kept : MainField → List Place}
    (keptThere : ∀ field, ∀ place ∈ kept field, place.address < base.next)
    (made : ∀ field heap, base.Extends heap →
      field.shape.Made heap (make field heap) (content field) ∧
        field.shape.kept (make field heap).2 (make field heap).1 = kept field)
    (fields : List MainField) {heap : Heap} (extended : base.Extends heap) :
    Built fields heap (build make fields heap) content kept := by
  induction fields generalizing heap with
  | nil => exact ⟨.refl heap, nofun, nofun, nofun, nofun, nofun⟩
  | cons field rest ih =>
      obtain ⟨spec, keeps⟩ := made field heap extended
      have others := ih (extended.trans spec.grows.toExtends)
      obtain ⟨read, own, held⟩ := spec.later others.grows.toExtends fun place member =>
        Nat.lt_of_lt_of_le (keptThere field place (keeps ▸ member)) extended.next_le
      have next := spec.grows.next_le
      -- the field made first is the one that is set, and all others are of the rest
      have split (other : MainField) (member : other ∈ field :: rest) :
          other = field ∨ other ≠ field ∧ other ∈ rest := by
        by_cases same : other = field
        · exact .inl same
        · exact .inr ⟨same, (List.mem_cons.1 member).resolve_left same⟩
      -- what a field consists of is what it was made of, the first one as all others
      have ownFirst : field.own (build make (field :: rest) heap).2
          (build make (field :: rest) heap).1
            = field.shape.own (make field heap).2 (make field heap).1 :=
        MainField.own_set_self.trans own
      have ownLater {other : MainField} (ne : other ≠ field) :
          other.own (build make (field :: rest) heap).2 (build make (field :: rest) heap).1
            = other.own (build make rest (make field heap).2).2
                (build make rest (make field heap).2).1 :=
        MainField.own_set_of_ne ne
      refine ⟨spec.grows.trans others.grows, fun other member => ?read, fun other member => ?kept,
        fun other member place => ?new, fun other member => ?nodup,
        fun one oneMember two twoMember different place => ?apart⟩
      case read =>
        obtain rfl | ⟨ne, later⟩ := split other member
        · exact MainField.read_set_self.trans read
        · exact (MainField.read_set_of_ne ne).trans (others.read other later)
      case kept =>
        obtain rfl | ⟨ne, later⟩ := split other member
        · exact MainField.kept_set_self.trans (held.trans keeps)
        · exact (MainField.kept_set_of_ne ne).trans (others.kept other later)
      case new =>
        obtain rfl | ⟨ne, later⟩ := split other member
        · rw [ownFirst]
          intro inside
          have between := spec.new place inside
          exact ⟨between.1, Nat.lt_of_lt_of_le between.2 others.grows.next_le⟩
        · rw [ownLater ne]
          intro inside
          have between := others.new other later place inside
          exact ⟨Nat.le_trans next between.1, between.2⟩
      case nodup =>
        obtain rfl | ⟨ne, later⟩ := split other member
        · rw [ownFirst]
          exact spec.nodup
        · rw [ownLater ne]
          exact others.nodup other later
      case apart =>
        obtain rfl | ⟨ne, oneLater⟩ := split one oneMember
        · obtain rfl | ⟨ne, twoLater⟩ := split two twoMember
          · exact absurd rfl different
          · rw [ownFirst, ownLater ne]
            intro inside again
            exact Nat.lt_irrefl _ (Nat.lt_of_lt_of_le (spec.new place inside).2
              (others.new two twoLater place again).1)
        · obtain rfl | ⟨ne', twoLater⟩ := split two twoMember
          · rw [ownFirst, ownLater ne]
            intro inside again
            exact Nat.lt_irrefl _ (Nat.lt_of_lt_of_le (spec.new place again).2
              (others.new one oneLater place inside).1)
          · rw [ownLater ne, ownLater ne']
            exact others.apart one oneLater two twoLater different place

/-- Nothing but new objects comes of it, whatever the fields hold. -/
theorem grows_build {make : (field : MainField) → Heap → field.shape.Slot × Heap}
    (grows : ∀ field (heap : Heap), heap.Grows (make field heap).2) (fields : List MainField)
    (heap : Heap) : heap.Grows (build make fields heap).2 := by
  induction fields generalizing heap with
  | nil => exact .refl heap
  | cons field rest ih => exact (grows field heap).trans (ih _)

theorem grows_copy (main : MainObject) (heap : Heap) : heap.Grows (main.copy heap).2 :=
  grows_build (fun field heap => FieldShape.grows_copy (main field) heap) _ heap

/-- **New computed values** read what they were made with. -/
theorem built_ofData (main : MainData) (heap : Heap) :
    Built MainField.all heap (ofData main heap) (fun field => field.get main) fun _ => [] :=
  built_build (fun _ _ member => absurd member List.not_mem_nil)
    (fun field heap _ => ⟨FieldShape.made_make (field.get main) heap,
      FieldShape.kept_make (field.get main) heap⟩) MainField.all (Heap.Extends.refl heap)

/-- **A copy of the computed values** reads the same, of objects of its own. -/
theorem built_copy {main : MainObject} {old : Heap}
    (there : ∀ field : MainField, ∀ place ∈ field.reach old main, place.address < old.next)
    {heap : Heap} (extended : old.Extends heap) :
    Built MainField.all heap (main.copy heap) (fun field => field.read old main)
      fun field => field.kept old main := by
  refine built_build (fun field place member => there field place
    (FieldShape.mem_reach_of_mem_kept member)) (fun field heap extended => ?_) _ extended
  have same (place : Place) (member : place ∈ field.reach old main) :
      heap.contents place = old.contents place :=
    extended.contents place (there field place member)
  have named (root : Place) (member : root ∈ field.shape.roots (main field)) :
      heap.contents root = old.contents root :=
    same root (FieldShape.mem_reach_of_mem_roots member)
  have read : field.shape.read heap (main field) = field.read old main :=
    FieldShape.read_congr same
  refine ⟨read ▸ FieldShape.made_copy fun place member => ?_,
    (FieldShape.kept_copy _ heap).trans (FieldShape.kept_congr named)⟩
  rw [FieldShape.reach_congr named] at member
  exact Nat.lt_of_lt_of_le (there field place member) extended.next_le

end MainObject

end IndexSnapshot
