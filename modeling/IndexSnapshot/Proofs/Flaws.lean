/-
# IndexSnapshot.Proofs.Flaws -- with which flaws a reading can stop

Reading a key or a value stops at the first flaw, and which flaws are possible depends
only on what is read.  Nearly every flaw is damage to the bytes.  Besides, the two keys of
the string facet table tell each other's layout apart, and a portable bitmap that is read
from no bytes at all stops with a flaw of its own.

* `StopsWith` says with which flaws a reading can stop; `StopsWith.bind` and
  `StopsWith.map` follow the steps of a reading.
* `Row.read_eq_noBuffer_iff` says which records stop for want of a bitmap.
-/
import IndexSnapshot.Snapshot.Row

namespace IndexSnapshot

set_option autoImplicit false

/-! ## Readings that stop -/

/-- If the reading stops at a flaw, the flaw is one of these. -/
def StopsWith {α : Type} (flaws : Flaw → Prop) (reading : Except Flaw α) : Prop :=
  ∀ flaw, reading = .error flaw → flaws flaw

namespace StopsWith

variable {α β : Type} {flaws : Flaw → Prop} {reading : Except Flaw α}

theorem ok (a : α) : StopsWith flaws (.ok a : Except Flaw α) := by
  intro flaw impossible
  cases impossible

theorem error {flaw : Flaw} (h : flaws flaw) : StopsWith flaws (.error flaw : Except Flaw α) := by
  intro other same
  cases same
  exact h

theorem bind {next : α → Except Flaw β} (first : StopsWith flaws reading)
    (rest : ∀ a, StopsWith flaws (next a)) : StopsWith flaws (reading >>= next) := by
  intro flaw stopped
  cases h : reading with
  | error e =>
      rw [h] at stopped
      cases stopped
      exact first _ h
  | ok a =>
      rw [h] at stopped
      exact rest a flaw stopped

theorem map {f : α → β} (first : StopsWith flaws reading) :
    StopsWith flaws (reading.map f) := by
  intro flaw stopped
  cases h : reading with
  | error e =>
      rw [h] at stopped
      cases stopped
      exact first _ h
  | ok a =>
      rw [h] at stopped
      cases stopped

theorem mono {more : Flaw → Prop} (first : StopsWith flaws reading)
    (wider : ∀ flaw, flaws flaw → more flaw) : StopsWith more reading :=
  fun flaw stopped => wider flaw (first flaw stopped)

end StopsWith

/-- The bytes are damaged, and not just missing where a bitmap should be. -/
def Flaw.IsDamage (flaw : Flaw) : Prop :=
  flaw.shape = .damaged ∧ flaw ≠ .noBuffer

/-! ## Parts of records -/

namespace Reader

theorem splitAt_stops (part : String) (n : Nat) (bytes : Bytes) :
    StopsWith Flaw.IsDamage (splitAt part n bytes) := by
  unfold splitAt
  split
  · exact .error ⟨rfl, Flaw.noConfusion⟩
  · exact .ok _

theorem integer_stops (part : String) (n : Nat) (bytes : Bytes) :
    StopsWith Flaw.IsDamage (integer part n bytes) :=
  (splitAt_stops part n bytes).map

theorem text_stops (part : String) (bytes : Bytes) :
    StopsWith Flaw.IsDamage (text part bytes) := by
  unfold text
  cases Utf8.decode bytes with
  | error flaw => exact .error ⟨rfl, Flaw.noConfusion⟩
  | ok found => exact .ok found

theorem expectEmpty_stops (part : String) (bytes : Bytes) :
    StopsWith Flaw.IsDamage (expectEmpty part bytes) := by
  unfold expectEmpty
  split
  · exact .ok ()
  · exact .error ⟨rfl, Flaw.noConfusion⟩

end Reader

namespace DocidLayout

theorem readArray_stops (bytes : Bytes) : StopsWith Flaw.IsDamage (readArray bytes) := by
  unfold readArray
  split
  · exact .ok _
  · exact .error ⟨rfl, Flaw.noConfusion⟩

/-- A portable bitmap of some bytes is damaged or read. -/
theorem readPortable_stops {bytes : Bytes} (filled : bytes ≠ []) :
    StopsWith Flaw.IsDamage (readPortable bytes) := by
  unfold readPortable
  rw [if_neg (by simpa using filled)]
  cases Portable.read bytes with
  | error flaw => exact .error ⟨rfl, Flaw.noConfusion⟩
  | ok s => exact .ok s

/-- The compact layout never asks for a bitmap of no bytes: they are an empty array. -/
theorem compact_stops (bytes : Bytes) : StopsWith Flaw.IsDamage (compact.read bytes) := by
  show StopsWith _ (if bytes.length ≤ 4 * compactLimit then readArray bytes else readPortable bytes)
  split
  · exact readArray_stops bytes
  · rename_i long
    refine readPortable_stops fun absent => long ?_
    rw [absent]
    exact Nat.zero_le _

theorem portable_eq_noBuffer_iff (bytes : Bytes) :
    portable.read bytes = .error .noBuffer ↔ bytes = [] := by
  constructor
  · intro stopped
    by_cases absent : bytes = []
    · exact absent
    · exact absurd rfl (readPortable_stops absent _ stopped).2
  · rintro rfl
    rfl

end DocidLayout

/-! ## Keys -/

theorem Word.read_stops (bytes : Bytes) : StopsWith Flaw.IsDamage (Word.read bytes) :=
  (Reader.text_stops _ bytes).map

theorem DocumentWord.read_stops (bytes : Bytes) :
    StopsWith Flaw.IsDamage (DocumentWord.read bytes) := by
  refine (Reader.integer_stops _ _ bytes).bind fun ⟨docid, rest⟩ => ?_
  exact (Reader.text_stops _ rest).bind fun word => .ok _

theorem WordPair.read_stops (bytes : Bytes) : StopsWith Flaw.IsDamage (WordPair.read bytes) := by
  unfold WordPair.read
  split
  · exact .error ⟨rfl, Flaw.noConfusion⟩
  · split
    · exact .error ⟨rfl, Flaw.noConfusion⟩
    · refine (Reader.text_stops _ _).bind fun first => ?_
      exact (Reader.text_stops _ _).bind fun second => .ok _

theorem WordPosition.read_stops (bytes : Bytes) :
    StopsWith Flaw.IsDamage (WordPosition.read bytes) := by
  unfold WordPosition.read
  split
  · exact .error ⟨rfl, Flaw.noConfusion⟩
  · exact (Reader.text_stops _ _).bind fun word => .ok _

theorem FieldWordCount.read_stops (bytes : Bytes) :
    StopsWith Flaw.IsDamage (FieldWordCount.read bytes) := by
  refine (Reader.integer_stops _ _ bytes).bind fun ⟨fieldId, rest⟩ => ?_
  refine (Reader.integer_stops _ _ rest).bind fun ⟨count, rest⟩ => ?_
  exact (Reader.expectEmpty_stops _ rest).bind fun _ => .ok _

theorem FacetHeader.read_stops (bytes : Bytes) :
    StopsWith Flaw.IsDamage (FacetHeader.read bytes) :=
  (Reader.splitAt_stops _ _ bytes).map

theorem NumericFacet.read_stops (bytes : Bytes) :
    StopsWith Flaw.IsDamage (NumericFacet.read bytes) := by
  refine (FacetHeader.read_stops bytes).bind fun ⟨header, rest⟩ => ?_
  dsimp only
  split
  · split
    · exact .ok _
    · exact .error ⟨rfl, Flaw.noConfusion⟩
  · split
    · exact .ok _
    · exact .error ⟨rfl, Flaw.noConfusion⟩

/-- The key of a single facet text is damaged, or it has another layout. -/
theorem FacetString.read_stops (bytes : Bytes) :
    StopsWith (fun flaw => flaw = .notFacetString ∨ flaw.IsDamage) (FacetString.read bytes) := by
  unfold FacetString.read
  split
  · refine ((FacetHeader.read_stops bytes).mono fun _ => .inr).bind fun ⟨header, rest⟩ => ?_
    exact ((Reader.text_stops _ rest).mono fun _ => .inr).bind fun normalized => .ok _
  · exact .error (.inl rfl)

/-- The key of a group is damaged, or it has another layout. -/
theorem FacetGroup.read_stops (bytes : Bytes) :
    StopsWith (fun flaw => flaw = .notFacetGroup ∨ flaw.IsDamage) (FacetGroup.read bytes) := by
  unfold FacetGroup.read
  split
  · exact .error (.inl rfl)
  · split
    · refine ((FacetHeader.read_stops bytes).mono fun _ => .inr).bind fun ⟨header, rest⟩ => ?_
      refine ((Reader.integer_stops _ _ rest).mono fun _ => .inr).bind fun ⟨low, rest⟩ => ?_
      exact ((Reader.integer_stops _ _ rest).mono fun _ => .inr).bind fun ⟨high, _⟩ => .ok _
    · exact .error (.inr ⟨rfl, Flaw.noConfusion⟩)

/-! ## Values -/

theorem FacetStringValue.read_stops (bytes : Bytes) :
    StopsWith Flaw.IsDamage (FacetStringValue.read bytes) := by
  refine (Reader.integer_stops _ _ bytes).bind fun ⟨length, rest⟩ => ?_
  refine (Reader.splitAt_stops _ length rest).bind fun ⟨spelling, rest⟩ => ?_
  refine (Reader.text_stops _ spelling).bind fun spelling => ?_
  exact (DocidLayout.compact_stops rest).bind fun docids => .ok _

theorem FacetGroupValue.readBounded_stops (bytes : Bytes) :
    StopsWith Flaw.IsDamage (FacetGroupValue.readBounded bytes) := by
  refine (Reader.integer_stops _ _ bytes).bind fun ⟨lowLength, rest⟩ => ?_
  refine (Reader.integer_stops _ _ rest).bind fun ⟨highLength, rest⟩ => ?_
  refine (Reader.splitAt_stops _ lowLength rest).bind fun ⟨low, rest⟩ => ?_
  refine (Reader.splitAt_stops _ highLength rest).bind fun ⟨high, rest⟩ => ?_
  refine (Reader.text_stops _ low).bind fun low => ?_
  refine (Reader.text_stops _ high).bind fun high => ?_
  exact (DocidLayout.compact_stops rest).bind fun docids => .ok _

theorem FacetGroupValue.read_stops (bytes : Bytes) :
    StopsWith Flaw.IsDamage (FacetGroupValue.read bytes) := by
  unfold FacetGroupValue.read
  split
  · exact .error ⟨rfl, Flaw.noConfusion⟩
  · split
    · exact (DocidLayout.compact_stops _).map
    · split
      · exact FacetGroupValue.readBounded_stops _
      · exact .error ⟨rfl, Flaw.noConfusion⟩

/-! ## Records -/

/-- A record of the string facet table is damaged, or its key is of neither layout. -/
theorem StringFacet.read_stops (key value : Bytes) :
    StopsWith (fun flaw => flaw = .neitherFacetLayout ∨ flaw.IsDamage)
      (StringFacet.read key value) := by
  have group : StopsWith (fun flaw => flaw = .neitherFacetLayout ∨ flaw.IsDamage)
      (StringFacet.readGroup key value) := by
    unfold StringFacet.readGroup
    cases found : FacetGroup.read key with
    | ok k => exact ((FacetGroupValue.read_stops value).mono fun _ => .inr).map
    | error flaw =>
        refine .error ?_
        rcases FacetGroup.read_stops key flaw found with rfl | damage
        · exact .inl rfl
        · have : flaw.shape ≠ .other := by rw [damage.1]; exact Shape.noConfusion
          rw [if_neg this]
          exact .inr damage
  unfold StringFacet.read
  cases found : FacetString.read key with
  | ok k => exact ((FacetStringValue.read_stops value).mono fun _ => .inr).map
  | error flaw =>
      dsimp only
      split
      · exact group
      · rename_i sound
        rcases FacetString.read_stops key flaw found with rfl | damage
        · exact absurd rfl sound
        · exact .error (.inr damage)

/-- The tables of words and of prefixes, whose values are portable bitmaps. -/
def TableName.wordTables : List TableName :=
  [.wordDocids, .exactWordDocids, .wordPrefixDocids, .exactWordPrefixDocids]

namespace Row

theorem readParts_stops {K : Type} {row : K → IdSet → Row} {readKey : Bytes → Except Flaw K}
    {layout : DocidLayout} {key value : Bytes} (keys : StopsWith Flaw.IsDamage (readKey key))
    (values : StopsWith Flaw.IsDamage (layout.read value)) :
    StopsWith Flaw.IsDamage (readParts row readKey layout key value) :=
  keys.bind fun _ => values.bind fun _ => .ok _

/-- A word table stops for want of a bitmap where a sound key has no value. -/
theorem word_eq_noBuffer_iff (key value : Bytes) :
    readParts .word Word.read .portable key value = .error .noBuffer ↔
      (∃ word, Word.read key = .ok word) ∧ value = [] := by
  unfold readParts
  cases found : Word.read key with
  | error flaw =>
      refine iff_of_false (fun stopped => ?_) (by rintro ⟨⟨word, impossible⟩, -⟩; cases impossible)
      cases stopped
      exact (Word.read_stops key _ found).2 rfl
  | ok word =>
      rw [← DocidLayout.portable_eq_noBuffer_iff]
      simp only [bind, Except.bind]
      cases DocidLayout.portable.read value with
      | error flaw => simp
      | ok ids => simp [pure, Except.pure]

/-- A record that is no word record never stops for want of a bitmap. -/
theorem read_ne_noBuffer {table : TableName} (other : table ∉ TableName.wordTables)
    (key value : Bytes) : Row.read table key value ≠ .error .noBuffer := by
  have parts {K : Type} {row : K → IdSet → Row} {readKey : Bytes → Except Flaw K}
      {layout : DocidLayout} (keys : StopsWith Flaw.IsDamage (readKey key))
      (values : StopsWith Flaw.IsDamage (layout.read value)) :
      readParts row readKey layout key value ≠ .error .noBuffer :=
    fun stopped => (readParts_stops keys values _ stopped).2 rfl
  cases table with
  | wordDocids => exact absurd (by decide) other
  | exactWordDocids => exact absurd (by decide) other
  | wordPrefixDocids => exact absurd (by decide) other
  | exactWordPrefixDocids => exact absurd (by decide) other
  | docidWordPositions =>
      exact parts (DocumentWord.read_stops key) (DocidLayout.readArray_stops value)
  | wordPairProximityDocids =>
      exact parts (WordPair.read_stops key) (DocidLayout.compact_stops value)
  | wordPrefixPairProximityDocids =>
      exact parts (WordPair.read_stops key) (DocidLayout.compact_stops value)
  | wordPositionDocids =>
      exact parts (WordPosition.read_stops key) (DocidLayout.compact_stops value)
  | fieldIdWordCountDocids =>
      exact parts (FieldWordCount.read_stops key) (DocidLayout.compact_stops value)
  | wordPrefixPositionDocids =>
      exact parts (WordPosition.read_stops key) (DocidLayout.compact_stops value)
  | facetIdF64Docids =>
      exact parts (NumericFacet.read_stops key) (DocidLayout.compact_stops value)
  | facetIdStringDocids =>
      intro stopped
      rcases (StringFacet.read_stops key value).map _ stopped with impossible | damage
      · cases impossible
      · exact damage.2 rfl

/-- **Which records stop for want of a bitmap**: those of the word tables with a sound key
and no value. -/
theorem read_eq_noBuffer_iff (table : TableName) (key value : Bytes) :
    Row.read table key value = .error .noBuffer ↔
      table ∈ TableName.wordTables ∧ (∃ word, Word.read key = .ok word) ∧ value = [] := by
  by_cases member : table ∈ TableName.wordTables
  · have word : Row.read table key value = readParts .word Word.read .portable key value := by
      simp only [TableName.wordTables, List.mem_cons, List.not_mem_nil, or_false] at member
      rcases member with rfl | rfl | rfl | rfl <;> rfl
    rw [word, word_eq_noBuffer_iff]
    exact (and_iff_right member).symm
  · exact iff_of_false (read_ne_noBuffer member key value) fun h => member h.1

end Row

end IndexSnapshot
