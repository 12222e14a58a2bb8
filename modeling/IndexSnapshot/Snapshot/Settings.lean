/-
# IndexSnapshot.Snapshot.Settings -- the settings shown in a snapshot

Every setting of the catalogue has one line, in the order of the catalogue, whether it
is set or not; so a snapshot of settings never gains or loses a line.
-/
import IndexSnapshot.Value.Display

namespace IndexSnapshot

set_option autoImplicit false

/-- A setting of the catalogue: its name, and whether a value is shown as `Some`. -/
structure Setting where
  name : String
  optional : Bool
  deriving DecidableEq, Repr

namespace Setting

/-- The line of a setting, without the end of the line. -/
def line (setting : Setting) (value : Value) : String :=
  setting.name ++ ": " ++
    match value with
    | .none => "None"
    | value => if setting.optional then "Some(" ++ value.display ++ ")" else value.display

/-- All settings that are shown. -/
def catalogue : List Setting :=
  [ ⟨"primary_key", true⟩, ⟨"criteria", false⟩, ⟨"displayed_fields", true⟩,
    ⟨"distinct_field", true⟩, ⟨"filterable_fields", false⟩, ⟨"sortable_fields", false⟩,
    ⟨"synonyms", false⟩, ⟨"authorize_typos", false⟩, ⟨"min_word_len_one_typo", false⟩,
    ⟨"min_word_len_two_typos", false⟩, ⟨"exact_words", true⟩, ⟨"exact_attributes", false⟩,
    ⟨"max_values_per_facet", true⟩, ⟨"pagination_max_total_hits", true⟩,
    ⟨"searchable_fields", true⟩, ⟨"user_defined_searchable_fields", true⟩ ]

/-- The snapshot of the settings with the given values. -/
def snapshot (valueOf : String → Value) : String :=
  String.join (catalogue.map fun setting => setting.line (valueOf setting.name) ++ "\n")

end Setting

end IndexSnapshot
