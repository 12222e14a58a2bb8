/-
# IndexSnapshot.Store.Fields -- the computed values, field by field

The computed values of an index are a dozen fields that have nothing to do with each other.
They come in a few shapes, and what can be done with a field depends on its shape alone.

* `MainField.get_set_self` and `get_set_of_ne`: setting one field leaves the others alone.
* `IdField` are the sets of ids among the computed values; `IdField.add` adds ids to one.
-/
import IndexSnapshot.Store.Basic

namespace IndexSnapshot

set_option autoImplicit false

/-! ## Fields -/

/-- What a field consists of. -/
inductive FieldShape where
  | settings
  | fieldNames
  | fieldCounts
  | ids
  /-- A set of ids for each of several fields of documents. -/
  | groups
  | bytes
  | words
  deriving DecidableEq

/-- What a field of a shape holds. -/
def FieldShape.Content : FieldShape → Type
  | .settings => Entries String Value
  | .fieldNames => Entries Int String
  | .fieldCounts => Entries String Int
  | .ids => IdSet
  | .groups => Entries Int IdSet
  | .bytes => Bytes
  | .words => Option (List String)

/-- The fields of the computed values. -/
inductive MainField where
  | settings
  | fieldsIds
  | fieldDistribution
  | documents
  | softDeleted
  | geoFaceted
  | numberFaceted
  | stringFaceted
  | externalSoft
  | externalHard
  | wordsFst
  | wordsPrefixesFst
  | stopWords
  deriving DecidableEq

namespace MainField

/-- All fields, in the order in which they are made. -/
def all : List MainField :=
  [.settings, .fieldsIds, .fieldDistribution, .documents, .softDeleted, .geoFaceted,
    .numberFaceted, .stringFaceted, .externalSoft, .externalHard, .wordsFst, .wordsPrefixesFst,
    .stopWords]

theorem mem_all (field : MainField) : field ∈ all := by
  cases field <;> decide

def shape : MainField → FieldShape
  | .settings => .settings
  | .fieldsIds => .fieldNames
  | .fieldDistribution => .fieldCounts
  | .documents | .softDeleted | .geoFaceted => .ids
  | .numberFaceted | .stringFaceted => .groups
  | .externalSoft | .externalHard | .wordsFst | .wordsPrefixesFst => .bytes
  | .stopWords => .words

/-- What a field holds. -/
def Content (field : MainField) : Type :=
  field.shape.Content

def get (main : MainData) : (field : MainField) → field.Content
  | .settings => main.settings
  | .fieldsIds => main.fieldsIds
  | .fieldDistribution => main.fieldDistribution
  | .documents => main.documents
  | .softDeleted => main.softDeleted
  | .geoFaceted => main.geoFaceted
  | .numberFaceted => main.numberFaceted
  | .stringFaceted => main.stringFaceted
  | .externalSoft => main.externalSoft
  | .externalHard => main.externalHard
  | .wordsFst => main.wordsFst
  | .wordsPrefixesFst => main.wordsPrefixesFst
  | .stopWords => main.stopWords

def set (main : MainData) : (field : MainField) → field.Content → MainData
  | .settings, new => { main with settings := new }
  | .fieldsIds, new => { main with fieldsIds := new }
  | .fieldDistribution, new => { main with fieldDistribution := new }
  | .documents, new => { main with documents := new }
  | .softDeleted, new => { main with softDeleted := new }
  | .geoFaceted, new => { main with geoFaceted := new }
  | .numberFaceted, new => { main with numberFaceted := new }
  | .stringFaceted, new => { main with stringFaceted := new }
  | .externalSoft, new => { main with externalSoft := new }
  | .externalHard, new => { main with externalHard := new }
  | .wordsFst, new => { main with wordsFst := new }
  | .wordsPrefixesFst, new => { main with wordsPrefixesFst := new }
  | .stopWords, new => { main with stopWords := new }

theorem get_set_self (main : MainData) (field : MainField) (new : field.Content) :
    field.get (field.set main new) = new := by
  cases field <;> rfl

theorem get_set_of_ne (main : MainData) {field other : MainField} (new : field.Content)
    (ne : field ≠ other) : other.get (field.set main new) = other.get main := by
  cases field <;> cases other <;> first | rfl | exact absurd rfl ne

/-- The computed values are their fields. -/
theorem ext {main other : MainData} (same : ∀ field : MainField, field.get main = field.get other) :
    main = other := by
  cases main
  cases other
  simp only [MainData.mk.injEq]
  exact ⟨same .settings, same .fieldsIds, same .fieldDistribution, same .documents,
    same .softDeleted, same .geoFaceted, same .numberFaceted, same .stringFaceted,
    same .externalSoft, same .externalHard, same .wordsFst, same .wordsPrefixesFst,
    same .stopWords⟩

end MainField

/-! ## Sets of ids -/

/-- A set of ids among the computed values. -/
inductive IdField where
  | documents
  | softDeleted
  | geoFaceted
  | numberFacetedIn (fieldId : Int)
  | stringFacetedIn (fieldId : Int)

namespace IdField

/-- The field that the set is, or is in. -/
def home : IdField → MainField
  | .documents => .documents
  | .softDeleted => .softDeleted
  | .geoFaceted => .geoFaceted
  | .numberFacetedIn _ => .numberFaceted
  | .stringFacetedIn _ => .stringFaceted

/-- More ids for one of several sets, if it is there. -/
def addIn (sets : Entries Int IdSet) (fieldId : Int) (ids : IdSet) : Entries Int IdSet :=
  match sets.get? fieldId with
  | none => sets
  | some old => sets.put fieldId (old.union ids)

theorem addIn_of_get? {sets : Entries Int IdSet} {fieldId : Int} {old : IdSet}
    (found : sets.get? fieldId = some old) (ids : IdSet) :
    addIn sets fieldId ids = sets.put fieldId (old.union ids) := by
  rw [addIn, found]

theorem addIn_of_none {sets : Entries Int IdSet} {fieldId : Int}
    (missing : sets.get? fieldId = none) (ids : IdSet) : addIn sets fieldId ids = sets := by
  rw [addIn, missing]

/-- The field with more ids in the set. -/
def add (ids : IdSet) : (field : IdField) → field.home.Content → field.home.Content
  | .documents, (old : IdSet) => old.union ids
  | .softDeleted, (old : IdSet) => old.union ids
  | .geoFaceted, (old : IdSet) => old.union ids
  | .numberFacetedIn fieldId, (sets : Entries Int IdSet) => addIn sets fieldId ids
  | .stringFacetedIn fieldId, (sets : Entries Int IdSet) => addIn sets fieldId ids

end IdField

end IndexSnapshot
