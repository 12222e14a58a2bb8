/-
# IndexSnapshot.Proofs.NumericKeyOrder -- keys of numbers sort like numbers

A key of the numeric facet table holds each bound twice: first with its bits flipped, so that
bytes sort like numbers, then as it is.  Whenever the second copies would be compared the first
ones are the same, and then so are they.

* `NumericFacet.Before`: the order of the keys, by field, level, low and high bound.
* `numeric_keys_sort_like_numbers`.
-/
import IndexSnapshot.Proofs.KeyOrder
import IndexSnapshot.Proofs.NumberOrder

namespace IndexSnapshot

set_option autoImplicit false

namespace NumericFacet

/-- One key comes before another, part by part.  At level zero there is one bound only. -/
def Before (key other : NumericFacet) : Prop :=
  key.fieldId < other.fieldId ∨ key.fieldId = other.fieldId ∧
    (key.level < other.level ∨ key.level = other.level ∧
      (key.low.Before other.low ∨ key.low = other.low ∧
        key.level ≠ 0 ∧ key.high.Before other.high))

/-- What stands behind the header of a key. -/
def IsBounds (key : NumericFacet) (bytes : Bytes) : Prop :=
  ∃ low, key.low.ordered = .ok low ∧
    (key.level = 0 ∧ bytes = low ++ key.low.toBytes ∨
      key.level ≠ 0 ∧ ∃ high, key.high.ordered = .ok high ∧
        bytes = low ++ (high ++ (key.low.toBytes ++ key.high.toBytes)))

theorem write_eq_ok_iff {key : NumericFacet} {bytes : Bytes} :
    key.write = .ok bytes ↔ ∃ header bounds,
      FacetHeader.write ⟨key.fieldId, key.level⟩ = .ok header ∧ key.IsBounds bounds ∧
        bytes = header ++ bounds := by
  simp only [write, bind_eq_ok_iff, IsBounds]
  constructor
  · rintro ⟨header, written, low, lowest, rest⟩
    split at rest
    · rename_i zero
      rw [pure_eq_ok_iff] at rest
      exact ⟨header, _, written, ⟨low, lowest, .inl ⟨zero, rfl⟩⟩, by simp [← rest]⟩
    · rename_i above
      simp only [bind_eq_ok_iff, pure_eq_ok_iff] at rest
      obtain ⟨high, highest, rest⟩ := rest
      exact ⟨header, _, written, ⟨low, lowest, .inr ⟨above, high, highest, rfl⟩⟩,
        by simp [← rest]⟩
  · rintro ⟨header, _, written, ⟨low, lowest, ⟨zero, rfl⟩ | ⟨above, high, highest, rfl⟩⟩, rfl⟩
    · refine ⟨header, written, low, lowest, ?_⟩
      rw [if_pos zero, pure_eq_ok_iff, List.append_assoc]
    · refine ⟨header, written, low, lowest, ?_⟩
      rw [if_neg above, bind_eq_ok_iff]
      refine ⟨high, highest, ?_⟩
      simp [pure_eq_ok_iff]

/-- Bounds at one level are in order of their numbers. -/
theorem lt_iff_of_isBounds {key other : NumericFacet} {a b : Bytes} (bounds : key.IsBounds a)
    (others : other.IsBounds b) (same : key.level = other.level) :
    a < b ↔ key.low.Before other.low ∨ key.low = other.low ∧
      key.level ≠ 0 ∧ key.high.Before other.high := by
  obtain ⟨low, lowest, single | leveled⟩ := bounds
  · obtain ⟨zero, rfl⟩ := single
    obtain ⟨low', lowest', ⟨-, rfl⟩ | ⟨above, -⟩⟩ := others
    · rw [Double.append_lt_append_iff lowest lowest']
      constructor
      · rintro (less | ⟨equal, less⟩)
        · exact .inl less
        · exact absurd (equal ▸ less) (List.lt_irrefl _)
      · rintro (less | ⟨-, above, -⟩)
        · exact .inl less
        · exact absurd zero above
    · exact absurd (same ▸ zero) above
  · obtain ⟨above, high, highest, rfl⟩ := leveled
    obtain ⟨low', lowest', ⟨zero, -⟩ | ⟨-, high', highest', rfl⟩⟩ := others
    · exact absurd (same.trans zero) above
    · rw [Double.append_lt_append_iff lowest lowest', Double.append_lt_append_iff highest highest']
      constructor
      · rintro (less | ⟨equal, less | ⟨equal', less⟩⟩)
        · exact .inl less
        · exact .inr ⟨equal, above, less⟩
        · exact absurd (equal ▸ equal' ▸ less) (List.lt_irrefl _)
      · rintro (less | ⟨equal, -, less⟩)
        · exact .inl less
        · exact .inr ⟨equal, .inl less⟩

theorem lt_iff_of_write {key other : NumericFacet} {a b : Bytes} (first : key.write = .ok a)
    (second : other.write = .ok b) : a < b ↔ key.Before other := by
  obtain ⟨header, bounds, written, isBounds, rfl⟩ := write_eq_ok_iff.1 first
  obtain ⟨header', bounds', written', isBounds', rfl⟩ := write_eq_ok_iff.1 second
  rw [FacetHeader.append_lt_append_iff written written', Before, FacetHeader.tuple,
    FacetHeader.tuple, Prod.Lex.toLex_lt_toLex, FacetHeader.mk.injEq]
  constructor
  · rintro ((less | ⟨field, less⟩) | ⟨⟨field, level⟩, less⟩)
    · exact .inl less
    · exact .inr ⟨field, .inl less⟩
    · exact .inr ⟨field, .inr ⟨level, (lt_iff_of_isBounds isBounds isBounds' level).1 less⟩⟩
  · rintro (less | ⟨field, less | ⟨level, less⟩⟩)
    · exact .inl (.inl less)
    · exact .inl (.inr ⟨field, less⟩)
    · exact .inr ⟨⟨field, level⟩, (lt_iff_of_isBounds isBounds isBounds' level).2 less⟩

end NumericFacet

/-- **Keys of numbers sort like numbers.**  Every number is written to bytes that sort as it does,
and different patterns to different bytes, the negative zero below the other one.  So the keys
that are written sort by field, level, low bound and high bound. -/
theorem numeric_keys_sort_like_numbers :
    (∀ v w : Double, v.isNaN = false → w.isNaN = false →
      ∃ a b, v.ordered = .ok a ∧ w.ordered = .ok b ∧
        (v.number < w.number → a < b) ∧ (a = b ↔ v = w)) ∧
    (∃ a b, Double.ordered ⟨0x8000000000000000⟩ = .ok a ∧ Double.ordered ⟨0⟩ = .ok b ∧ a < b) ∧
    ∀ (x y : NumericFacet) (a b : Bytes), x.write = .ok a → y.write = .ok b →
      (a < b ↔ x.Before y) := by
  refine ⟨?numbers, ?zeros, ?keys⟩
  case numbers =>
    intro v w hv hw
    have first := Double.ordered_eq_ok_iff.2 ⟨hv, rfl⟩
    have second := Double.ordered_eq_ok_iff.2 ⟨hw, rfl⟩
    exact ⟨_, _, first, second, fun less => (Double.ordered_lt_iff first second).2 (.inl less),
      Double.ordered_inj first second⟩
  case zeros => exact ⟨_, _, rfl, rfl, by decide⟩
  case keys =>
    intro x y a b first second
    exact NumericFacet.lt_iff_of_write first second

/-- Negative infinity is below the negative number nearest to zero; and at level zero the key of
the negative zero is below that of the other zero, although their high bounds are no numbers. -/
theorem negative_keys_come_first :
    (Double.isNaN ⟨0xFFF0000000000000⟩ = false ∧ Double.isNaN ⟨0x8000000000000001⟩ = false ∧
      Double.number ⟨0xFFF0000000000000⟩ < Double.number ⟨0x8000000000000001⟩ ∧
      ∃ a b, Double.ordered ⟨0xFFF0000000000000⟩ = .ok a ∧
        Double.ordered ⟨0x8000000000000001⟩ = .ok b ∧ a < b) ∧
    ∃ a b, NumericFacet.write ⟨1, 0, ⟨0x8000000000000000⟩, Double.notANumber⟩ = .ok a ∧
      NumericFacet.write ⟨1, 0, ⟨0⟩, Double.notANumber⟩ = .ok b ∧
      NumericFacet.Before ⟨1, 0, ⟨0x8000000000000000⟩, Double.notANumber⟩
        ⟨1, 0, ⟨0⟩, Double.notANumber⟩ := by
  obtain ⟨numbers, -, keys⟩ := numeric_keys_sort_like_numbers
  constructor
  · have realV : Double.isNaN ⟨0xFFF0000000000000⟩ = false := by decide
    have realW : Double.isNaN ⟨0x8000000000000001⟩ = false := by decide
    have less : Double.number ⟨0xFFF0000000000000⟩ < Double.number ⟨0x8000000000000001⟩ := by
      have lowest : Double.number ⟨0xFFF0000000000000⟩ = ⊥ := by
        rw [Double.number, if_pos (by decide), if_pos (by decide)]
      rw [lowest, Double.number, if_neg (by decide)]
      exact EReal.bot_lt_coe _
    obtain ⟨a, b, first, second, sorted, -⟩ := numbers _ _ realV realW
    exact ⟨realV, realW, less, a, b, first, second, sorted less⟩
  · exact ⟨_, _, rfl, rfl, (keys _ _ _ _ rfl rfl).1 (by decide)⟩

end IndexSnapshot
