/-
# IndexSnapshot.Store.Objects -- the computed values as objects

The computed values of a store, and those of a transaction, are objects of a heap.  A field
can get objects of its own, its objects can be filled again in place, and it can be copied.
A copy of a field has objects of its own, except for the sets in the values of settings:
the dictionary of settings is copied, and what is in it is not.

* `roots`, `reach`, `own` and `kept`: which objects a field holds.
* `make`, `refill` and `copy`: objects for a field, with what they contain.
* `MainObject.build` makes the objects of all fields, one field after another.
-/
import IndexSnapshot.Store.Fields
import IndexSnapshot.Store.Heap

namespace IndexSnapshot

set_option autoImplicit false

/-- What a setting is set to, as it stands now. -/
def Held.read (heap : Heap) (held : Held) : Value :=
  held.value (held.sets.map heap.read)

/-! ## One field -/

namespace FieldShape

/-- How a field holds what it consists of. -/
def Slot : FieldShape → Type
  | .settings => Ref .settings
  | .fieldNames => Ref .fieldNames
  | .fieldCounts => Ref .fieldCounts
  | .ids => Ref .ids
  | .groups => Ref .groups
  | .bytes => Bytes
  | .words => Option (Ref .words)

/-- What a field reads. -/
def read (heap : Heap) : (shape : FieldShape) → shape.Slot → shape.Content
  | .settings, (ref : Ref .settings) =>
      let entries : Entries String Held := heap.read ref
      entries.map fun (name, held) => (name, held.read heap)
  | .fieldNames, (ref : Ref .fieldNames) => heap.read ref
  | .fieldCounts, (ref : Ref .fieldCounts) => heap.read ref
  | .ids, (ref : Ref .ids) => heap.read ref
  | .groups, (ref : Ref .groups) =>
      let sets : Entries Int (Ref .ids) := heap.read ref
      sets.map fun (fieldId, set) => (fieldId, heap.read set)
  | .bytes, (content : Bytes) => content
  | .words, (list : Option (Ref .words)) => list.map heap.read

/-- The objects that a field names itself. -/
def roots : (shape : FieldShape) → shape.Slot → List Place
  | .settings, (ref : Ref .settings) => [ref.place]
  | .fieldNames, (ref : Ref .fieldNames) => [ref.place]
  | .fieldCounts, (ref : Ref .fieldCounts) => [ref.place]
  | .ids, (ref : Ref .ids) => [ref.place]
  | .groups, (ref : Ref .groups) => [ref.place]
  | .bytes, _ => []
  | .words, (list : Option (Ref .words)) => (list.map Ref.place).toList

/-- The objects that a field reads. -/
def reach (heap : Heap) (shape : FieldShape) (slot : shape.Slot) : List Place :=
  shape.roots slot ++ (shape.roots slot).flatMap heap.members

/-- The objects that a field consists of: those that can be changed through it. -/
def own (heap : Heap) (shape : FieldShape) (slot : shape.Slot) : List Place :=
  shape.roots slot ++ if shape = .settings then [] else (shape.roots slot).flatMap heap.members

/-- The objects that are in the values of settings. -/
def kept (heap : Heap) (shape : FieldShape) (slot : shape.Slot) : List Place :=
  if shape = .settings then (shape.roots slot).flatMap heap.members else []

/-- New objects for a field, and what they contain. -/
def make : (shape : FieldShape) → shape.Content → Heap → shape.Slot × Heap
  | .settings, (entries : Entries String Value), heap =>
      heap.alloc .settings (entries.map fun (name, value) => (name, Held.plain value))
  | .fieldNames, content, heap => heap.alloc .fieldNames content
  | .fieldCounts, content, heap => heap.alloc .fieldCounts content
  | .ids, content, heap => heap.alloc .ids content
  | .groups, sets, heap =>
      let made := Heap.allocAll .ids sets heap
      made.2.alloc .groups made.1
  | .bytes, content, heap => (content, heap)
  | .words, none, heap => (none, heap)
  | .words, some list, heap =>
      let made := heap.alloc .words list
      (some made.1, made.2)

/-- Another content for a field, in the same object where it has one. -/
def refill : (shape : FieldShape) → shape.Slot → shape.Content → Heap → shape.Slot × Heap
  | .settings, (ref : Ref .settings), (entries : Entries String Value), heap =>
      (ref, heap.write ref (entries.map fun (name, value) => (name, Held.plain value)))
  | .fieldNames, (ref : Ref .fieldNames), content, heap => (ref, heap.write ref content)
  | .fieldCounts, (ref : Ref .fieldCounts), content, heap => (ref, heap.write ref content)
  | .ids, (ref : Ref .ids), content, heap => (ref, heap.write ref content)
  | .groups, (ref : Ref .groups), sets, heap =>
      let made := Heap.allocAll .ids sets heap
      (ref, made.2.write ref made.1)
  | .bytes, _, content, heap => (content, heap)
  | .words, some (ref : Ref .words), some list, heap => (some ref, heap.write ref list)
  | .words, _, list, heap => make .words list heap

/-- Another field that reads the same.  Of settings, only the dictionary is a new object. -/
def copy (heap : Heap) : (shape : FieldShape) → shape.Slot → shape.Slot × Heap
  | .settings, (ref : Ref .settings) => heap.alloc .settings (heap.read ref)
  | shape, slot => shape.make (shape.read heap slot) heap

/-- What a field names before it has been given anything. -/
def blank : (shape : FieldShape) → shape.Slot
  | .settings => (⟨0⟩ : Ref .settings)
  | .fieldNames => (⟨0⟩ : Ref .fieldNames)
  | .fieldCounts => (⟨0⟩ : Ref .fieldCounts)
  | .ids => (⟨0⟩ : Ref .ids)
  | .groups => (⟨0⟩ : Ref .groups)
  | .bytes => ([] : Bytes)
  | .words => (none : Option (Ref .words))

end FieldShape

/-! ## All fields -/

/-- How the computed values are held: field by field. -/
abbrev MainObject : Type :=
  (field : MainField) → field.shape.Slot

namespace MainField

/-- What a field of the computed values reads. -/
def read (heap : Heap) (main : MainObject) (field : MainField) : field.Content :=
  field.shape.read heap (main field)

def reach (heap : Heap) (main : MainObject) (field : MainField) : List Place :=
  field.shape.reach heap (main field)

def own (heap : Heap) (main : MainObject) (field : MainField) : List Place :=
  field.shape.own heap (main field)

def kept (heap : Heap) (main : MainObject) (field : MainField) : List Place :=
  field.shape.kept heap (main field)

end MainField

namespace MainObject

/-- The computed values as they stand now. -/
def view (heap : Heap) (main : MainObject) : MainData where
  settings := MainField.settings.read heap main
  fieldsIds := MainField.fieldsIds.read heap main
  fieldDistribution := MainField.fieldDistribution.read heap main
  documents := MainField.documents.read heap main
  softDeleted := MainField.softDeleted.read heap main
  geoFaceted := MainField.geoFaceted.read heap main
  numberFaceted := MainField.numberFaceted.read heap main
  stringFaceted := MainField.stringFaceted.read heap main
  externalSoft := MainField.externalSoft.read heap main
  externalHard := MainField.externalHard.read heap main
  wordsFst := MainField.wordsFst.read heap main
  wordsPrefixesFst := MainField.wordsPrefixesFst.read heap main
  stopWords := MainField.stopWords.read heap main

theorem get_view (heap : Heap) (main : MainObject) (field : MainField) :
    field.get (main.view heap) = field.read heap main := by
  cases field <;> rfl

/-- Gives a field other objects. -/
def set (main : MainObject) (field : MainField) (slot : field.shape.Slot) : MainObject :=
  Function.update main field slot

@[simp] theorem set_self (main : MainObject) (field : MainField) (slot : field.shape.Slot) :
    main.set field slot field = slot :=
  Function.update_self ..

theorem set_of_ne (main : MainObject) {field other : MainField} (slot : field.shape.Slot)
    (ne : other ≠ field) : main.set field slot other = main other :=
  Function.update_of_ne ne ..

/-- Makes the objects of several fields. -/
def build (make : (field : MainField) → Heap → field.shape.Slot × Heap) :
    List MainField → Heap → MainObject × Heap
  | [], heap => (fun field => field.shape.blank, heap)
  | field :: rest, heap =>
      let made := make field heap
      let others := build make rest made.2
      (others.1.set field made.1, others.2)

/-- Objects for computed values. -/
def ofData (main : MainData) (heap : Heap) : MainObject × Heap :=
  build (fun field heap => field.shape.make (field.get main) heap) MainField.all heap

/-- A copy of every field. -/
def copy (main : MainObject) (heap : Heap) : MainObject × Heap :=
  build (fun field heap => field.shape.copy heap (main field)) MainField.all heap

end MainObject

/-! ## Sets of ids -/

/-- The object that a set of ids among the computed values is, if there is one. -/
def IdField.set? (heap : Heap) (main : MainObject) : IdField → Option (Ref .ids)
  | .documents => some (main .documents)
  | .softDeleted => some (main .softDeleted)
  | .geoFaceted => some (main .geoFaceted)
  | .numberFacetedIn fieldId =>
      let sets : Entries Int (Ref .ids) := heap.read (main .numberFaceted : Ref .groups)
      sets.get? fieldId
  | .stringFacetedIn fieldId =>
      let sets : Entries Int (Ref .ids) := heap.read (main .stringFaceted : Ref .groups)
      sets.get? fieldId

end IndexSnapshot
