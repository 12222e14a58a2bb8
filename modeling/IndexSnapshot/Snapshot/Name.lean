/-
# IndexSnapshot.Snapshot.Name -- the names that can be snapshotted

The index has twelve tables of raw records, and computed values besides.  Each of them
has one name under which it is snapshotted; the catalogue lists all names in the order
in which a whole index is gone through.
-/

namespace IndexSnapshot

set_option autoImplicit false

/-- The tables of raw records. -/
inductive TableName where
  | wordDocids
  | exactWordDocids
  | wordPrefixDocids
  | exactWordPrefixDocids
  | docidWordPositions
  | wordPairProximityDocids
  | wordPrefixPairProximityDocids
  | wordPositionDocids
  | fieldIdWordCountDocids
  | wordPrefixPositionDocids
  | facetIdF64Docids
  | facetIdStringDocids
  deriving DecidableEq, Repr

namespace TableName

def text : TableName → String
  | .wordDocids => "word_docids"
  | .exactWordDocids => "exact_word_docids"
  | .wordPrefixDocids => "word_prefix_docids"
  | .exactWordPrefixDocids => "exact_word_prefix_docids"
  | .docidWordPositions => "docid_word_positions"
  | .wordPairProximityDocids => "word_pair_proximity_docids"
  | .wordPrefixPairProximityDocids => "word_prefix_pair_proximity_docids"
  | .wordPositionDocids => "word_position_docids"
  | .fieldIdWordCountDocids => "field_id_word_count_docids"
  | .wordPrefixPositionDocids => "word_prefix_position_docids"
  | .facetIdF64Docids => "facet_id_f64_docids"
  | .facetIdStringDocids => "facet_id_string_docids"

/-- All tables, in the order of the catalogue. -/
def all : List TableName :=
  [ .wordDocids, .exactWordDocids, .wordPrefixDocids, .exactWordPrefixDocids,
    .docidWordPositions, .wordPairProximityDocids, .wordPrefixPairProximityDocids,
    .wordPositionDocids, .fieldIdWordCountDocids, .wordPrefixPositionDocids,
    .facetIdF64Docids, .facetIdStringDocids ]

end TableName

/-- Everything that can be snapshotted. -/
inductive SnapshotName where
  | settings
  | table (name : TableName)
  | documentsIds
  | stopWords
  | softDeletedDocumentsIds
  | fieldDistribution
  | fieldsIdsMap
  | geoFacetedDocumentsIds
  | externalDocumentsIds
  | numberFacetedDocumentsIds
  | stringFacetedDocumentsIds
  | wordsFst
  | wordsPrefixesFst
  deriving DecidableEq, Repr

namespace SnapshotName

def text : SnapshotName → String
  | .settings => "settings"
  | .table name => name.text
  | .documentsIds => "documents_ids"
  | .stopWords => "stop_words"
  | .softDeletedDocumentsIds => "soft_deleted_documents_ids"
  | .fieldDistribution => "field_distribution"
  | .fieldsIdsMap => "fields_ids_map"
  | .geoFacetedDocumentsIds => "geo_faceted_documents_ids"
  | .externalDocumentsIds => "external_documents_ids"
  | .numberFacetedDocumentsIds => "number_faceted_documents_ids"
  | .stringFacetedDocumentsIds => "string_faceted_documents_ids"
  | .wordsFst => "words_fst"
  | .wordsPrefixesFst => "words_prefixes_fst"

/-- All names, in the order in which a whole index is gone through. -/
def catalogue : List SnapshotName :=
  .settings :: TableName.all.map .table ++
    [ .documentsIds, .stopWords, .softDeletedDocumentsIds, .fieldDistribution, .fieldsIdsMap,
      .geoFacetedDocumentsIds, .externalDocumentsIds, .numberFacetedDocumentsIds,
      .stringFacetedDocumentsIds, .wordsFst, .wordsPrefixesFst ]

/-- The snapshot with the given name. -/
def ofText? (text : String) : Option SnapshotName :=
  catalogue.find? fun name => name.text == text

/-- The name in capitals, as identifiers of constants have it. -/
def label (name : SnapshotName) : String :=
  String.ofList (name.text.toList.map Char.toUpper)

end SnapshotName

end IndexSnapshot
