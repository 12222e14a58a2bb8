/-
# IndexSnapshot.Store.Heap -- objects that several things can hold

A table, a dictionary of computed values and a set of ids are objects: they stay the same
object while their content changes, and two holders of one object see the same changes.
An object has a kind, which says what its content is, and an address, and a heap says what
the content of every object is.

* `read`, `write` and `alloc`: the content of an object, a new content for it, and an object
  that was not there before; `allocAll` makes one object for each of several names.
* `Extends`: a heap has every object of another one, with the same content.  New objects are
  all that `alloc` and `allocAll` add; `Grows` if none of them is a table.
* `members`: the objects that an object holds in its content.
-/
import IndexSnapshot.Store.Entries
import IndexSnapshot.Store.Table
import IndexSnapshot.Value.Basic
import Mathlib.Logic.Function.Basic

namespace IndexSnapshot

set_option autoImplicit false

/-! ## Objects -/

/-- What an object is. -/
inductive Kind where
  /-- The records of a table, in the order in which their keys were first put. -/
  | records
  /-- The records that a transaction reads from a table. -/
  | rows
  | settings
  | fieldNames
  | fieldCounts
  | ids
  /-- A set of ids for each of several fields. -/
  | groups
  | words
  deriving DecidableEq

/-- An object of a kind. -/
structure Ref (kind : Kind) where
  address : Nat
  deriving DecidableEq

/-- What a setting is set to: it may hold sets of ids, and all else in it never changes. -/
structure Held where
  sets : List (Ref .ids)
  value : List IdSet → Value

/-- A value in which nothing ever changes. -/
def Held.plain (value : Value) : Held :=
  ⟨[], fun _ => value⟩

/-- The content of an object. -/
def Kind.Content : Kind → Type
  | .records => Entries Bytes Bytes
  | .rows => Table
  | .settings => Entries String Held
  | .fieldNames => Entries Int String
  | .fieldCounts => Entries String Int
  | .ids => IdSet
  | .groups => Entries Int (Ref .ids)
  | .words => List String

/-- The content of an object that has just been made and not been filled. -/
def Kind.blank : (kind : Kind) → kind.Content
  | .records | .settings | .fieldNames | .fieldCounts | .groups | .words => []
  | .rows => Table.empty
  | .ids => IdSet.empty

/-- Whether objects of the kind are tables. -/
def Kind.isTable : Kind → Bool
  | .records | .rows => true
  | _ => false

/-- An object of any kind. -/
structure Place where
  kind : Kind
  address : Nat
  deriving DecidableEq

def Ref.place {kind : Kind} (ref : Ref kind) : Place :=
  ⟨kind, ref.address⟩

@[simp] theorem Ref.place_kind {kind : Kind} (ref : Ref kind) : ref.place.kind = kind := rfl

@[simp] theorem Ref.place_address {kind : Kind} (ref : Ref kind) :
    ref.place.address = ref.address := rfl

@[simp] theorem Ref.place_inj {kind : Kind} {ref other : Ref kind} :
    ref.place = other.place ↔ ref = other := by
  cases ref
  cases other
  simp [Ref.place]

/-- The objects that are held in a content, except for what never changes. -/
def Kind.members : (kind : Kind) → kind.Content → List Place
  | .settings, (entries : Entries String Held) =>
      entries.flatMap fun (_, held) => held.sets.map Ref.place
  | .groups, (sets : Entries Int (Ref .ids)) => sets.map fun (_, set) => set.place
  | _, _ => []

/-- Only sets of ids are held in other objects. -/
theorem Kind.kind_of_mem_members {kind : Kind} {content : kind.Content} {place : Place}
    (member : place ∈ kind.members content) : place.kind = .ids := by
  cases kind with
  | settings =>
      obtain ⟨_, -, inside⟩ := List.mem_flatMap.1 member
      obtain ⟨_, -, rfl⟩ := List.mem_map.1 inside
      rfl
  | groups =>
      obtain ⟨_, -, rfl⟩ := List.mem_map.1 member
      rfl
  | _ => cases member

/-! ## Heaps -/

/-- The content of every object, and the first address at which there is none yet. -/
structure Heap where
  contents : (place : Place) → place.kind.Content
  next : Nat

namespace Heap

/-- The heap without objects. -/
def empty : Heap :=
  ⟨fun place => place.kind.blank, 0⟩

def read (heap : Heap) {kind : Kind} (ref : Ref kind) : kind.Content :=
  heap.contents ref.place

/-- Gives an object another content. -/
def write (heap : Heap) {kind : Kind} (ref : Ref kind) (content : kind.Content) : Heap :=
  { heap with contents := Function.update heap.contents ref.place content }

/-- Makes an object with a content. -/
def alloc (heap : Heap) (kind : Kind) (content : kind.Content) : Ref kind × Heap :=
  (⟨heap.next⟩,
    { contents := Function.update heap.contents ⟨kind, heap.next⟩ content
      next := heap.next + 1 })

/-- Makes an object for each of several names. -/
def allocAll {K : Type} (kind : Kind) :
    Entries K kind.Content → Heap → Entries K (Ref kind) × Heap
  | [], heap => ([], heap)
  | (name, content) :: rest, heap =>
      let first := heap.alloc kind content
      let others := allocAll kind rest first.2
      ((name, first.1) :: others.1, others.2)

/-- The objects that an object holds. -/
def members (heap : Heap) (place : Place) : List Place :=
  place.kind.members (heap.contents place)

section Write

variable (heap : Heap) {kind : Kind} (ref : Ref kind) (content : kind.Content)

@[simp] theorem next_write : (heap.write ref content).next = heap.next := rfl

theorem contents_write_of_ne {place : Place} (ne : place ≠ ref.place) :
    (heap.write ref content).contents place = heap.contents place :=
  Function.update_of_ne ne ..

@[simp] theorem read_write_self : (heap.write ref content).read ref = content :=
  Function.update_self ..

theorem read_write_of_ne {other : Ref kind} (ne : other ≠ ref) :
    (heap.write ref content).read other = heap.read other :=
  heap.contents_write_of_ne ref content fun same => ne (Ref.place_inj.1 same)

theorem read_write_of_kind {other : Kind} (elsewhere : Ref other) (ne : other ≠ kind) :
    (heap.write ref content).read elsewhere = heap.read elsewhere :=
  heap.contents_write_of_ne ref content fun same => ne (congrArg Place.kind same)

@[simp] theorem members_write_self : (heap.write ref content).members ref.place
    = kind.members content :=
  congrArg (Kind.members _) (heap.read_write_self ref content)

theorem members_write_of_ne {place : Place} (ne : place ≠ ref.place) :
    (heap.write ref content).members place = heap.members place :=
  congrArg (Kind.members _) (heap.contents_write_of_ne ref content ne)

end Write

section Alloc

variable (heap : Heap) (kind : Kind) (content : kind.Content)

theorem contents_alloc_of_ne {place : Place} (ne : place ≠ ⟨kind, heap.next⟩) :
    (heap.alloc kind content).2.contents place = heap.contents place :=
  Function.update_of_ne ne ..

@[simp] theorem read_alloc :
    (heap.alloc kind content).2.read (heap.alloc kind content).1 = content :=
  Function.update_self ..

end Alloc

/-! ## More objects -/

/-- All objects of a heap are in another one, and unchanged. -/
structure Extends (old new : Heap) : Prop where
  next_le : old.next ≤ new.next
  contents : ∀ place, place.address < old.next → new.contents place = old.contents place

namespace Extends

theorem refl (heap : Heap) : heap.Extends heap :=
  ⟨Nat.le_refl _, fun _ _ => rfl⟩

theorem trans {first second third : Heap} (one : first.Extends second)
    (two : second.Extends third) : first.Extends third where
  next_le := Nat.le_trans one.next_le two.next_le
  contents place there :=
    (two.contents place (Nat.lt_of_lt_of_le there one.next_le)).trans (one.contents place there)

theorem alloc (heap : Heap) (kind : Kind) (content : kind.Content) :
    heap.Extends (heap.alloc kind content).2 where
  next_le := Nat.le_succ _
  contents _ there := heap.contents_alloc_of_ne kind content fun same =>
    absurd (same ▸ there) (Nat.lt_irrefl _)

theorem read {old new : Heap} (extended : old.Extends new) {kind : Kind} {ref : Ref kind}
    (there : ref.address < old.next) : new.read ref = old.read ref :=
  extended.contents ref.place there

end Extends

section AllocAll

variable {K : Type} (kind : Kind) (entries : Entries K kind.Content) (heap : Heap)

theorem extends_allocAll : heap.Extends (allocAll kind entries heap).2 := by
  induction entries generalizing heap with
  | nil => exact .refl heap
  | cons entry rest ih => exact (Extends.alloc heap kind entry.2).trans (ih _)

/-- The objects that are made are new. -/
theorem new_of_mem_allocAll {name : K} {ref : Ref kind}
    (member : (name, ref) ∈ (allocAll kind entries heap).1) :
    heap.next ≤ ref.address ∧ ref.address < (allocAll kind entries heap).2.next := by
  induction entries generalizing heap with
  | nil => cases member
  | cons entry rest ih =>
      have others := (extends_allocAll kind rest (heap.alloc kind entry.2).2).next_le
      rcases List.mem_cons.1 member with first | later
      · cases first
        exact ⟨Nat.le_refl _, others⟩
      · have between := ih _ later
        exact ⟨Nat.le_of_succ_le between.1, between.2⟩

/-- No two of the objects that are made are the same. -/
theorem nodup_allocAll : ((allocAll kind entries heap).1.map fun entry => entry.2).Nodup := by
  induction entries generalizing heap with
  | nil => exact List.nodup_nil
  | cons entry rest ih =>
      refine List.nodup_cons.2 ⟨fun again => ?_, ih _⟩
      obtain ⟨⟨name, ref⟩, member, same⟩ := List.mem_map.1 again
      have new := (new_of_mem_allocAll kind rest _ member).1
      rw [show ref = ⟨heap.next⟩ from same] at new
      exact Nat.lt_irrefl _ new

/-- Each object has the content it was made with. -/
theorem read_allocAll :
    (allocAll kind entries heap).1.map (fun (name, ref) =>
      (name, (allocAll kind entries heap).2.read ref)) = entries := by
  induction entries generalizing heap with
  | nil => rfl
  | cons entry rest ih =>
      obtain ⟨name, content⟩ := entry
      have there : (heap.alloc kind content).1.address < (heap.alloc kind content).2.next :=
        Nat.lt_succ_self heap.next
      have first := (extends_allocAll kind rest (heap.alloc kind content).2).read there
      rw [read_alloc] at first
      exact List.cons_eq_cons.2 ⟨Prod.ext rfl first, ih _⟩

/-- Objects of other kinds are as they were. -/
theorem contents_allocAll {place : Place} (other : place.kind ≠ kind) :
    (allocAll kind entries heap).2.contents place = heap.contents place := by
  induction entries generalizing heap with
  | nil => rfl
  | cons entry rest ih =>
      refine (ih _).trans (heap.contents_alloc_of_ne kind entry.2 fun same => ?_)
      exact other (congrArg Place.kind same)

end AllocAll

/-! ## More objects that are no tables -/

/-- All objects of a heap are in another one, and nothing has become of any table. -/
structure Grows (old new : Heap) : Prop extends Extends old new where
  tables : ∀ place, place.kind.isTable = true → new.contents place = old.contents place

namespace Grows

theorem refl (heap : Heap) : heap.Grows heap :=
  ⟨.refl heap, fun _ _ => rfl⟩

theorem trans {first second third : Heap} (one : first.Grows second) (two : second.Grows third) :
    first.Grows third where
  toExtends := one.toExtends.trans two.toExtends
  tables place isTable := (two.tables place isTable).trans (one.tables place isTable)

theorem kind_ne {kind : Kind} (notTable : kind.isTable = false) {place : Place}
    (isTable : place.kind.isTable = true) : place.kind ≠ kind := by
  rintro rfl
  exact absurd (isTable.symm.trans notTable) nofun

theorem alloc (heap : Heap) (kind : Kind) (content : kind.Content)
    (notTable : kind.isTable = false) : heap.Grows (heap.alloc kind content).2 where
  toExtends := .alloc heap kind content
  tables _ isTable := heap.contents_alloc_of_ne kind content fun same =>
    kind_ne notTable isTable (congrArg Place.kind same)

theorem allocAll {K : Type} (kind : Kind) (entries : Entries K kind.Content) (heap : Heap)
    (notTable : kind.isTable = false) : heap.Grows (Heap.allocAll kind entries heap).2 where
  toExtends := extends_allocAll kind entries heap
  tables _ isTable := contents_allocAll kind entries heap (kind_ne notTable isTable)

end Grows

end Heap

end IndexSnapshot
