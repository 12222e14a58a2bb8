/-
# IndexSnapshot.Proofs.FacetLayouts -- the level byte decides the layout

The keys of the string facet table have two layouts, and the third byte of a key, its level,
decides which one it can have.  So a key is never taken by both, and it does not matter which
layout is tried first: `level_decides_layout`.  A key without a level has neither.  A key that
has one is read in its layout only, and where that fails, the failure is its own.

* `tryInOrder` tries two readings one after the other; if one of them stops at another layout,
  only the other one counts (`tryInOrder_eq_left`, `tryInOrder_eq_right`).
* `FacetString.read_stops_of_zero` and `FacetGroup.read_stops_of_leveled`: with its own level, a
  key is damaged or read.
-/
import IndexSnapshot.Failure
import IndexSnapshot.Proofs.Flaws

namespace IndexSnapshot

set_option autoImplicit false

/-! ## Two readings, one after the other -/

section Order

variable {A B R : Type} {first : Except Flaw A} {second : Except Flaw B}
  {a : A → Except Flaw R} {b : B → Except Flaw R}

/-- What follows a key that has been read; a key of another layout has none that is known. -/
def tryAlone (reading : Except Flaw A) (next : A → Except Flaw R) : Except Flaw R :=
  match reading with
  | .ok found => next found
  | .error flaw => .error (if flaw.shape = .other then .neitherFacetLayout else flaw)

/-- Tries the second reading only if the first one stops at another layout. -/
def tryInOrder (first : Except Flaw A) (second : Except Flaw B) (a : A → Except Flaw R)
    (b : B → Except Flaw R) : Except Flaw R :=
  match first with
  | .ok found => a found
  | .error flaw => if flaw.shape = .other then tryAlone second b else .error flaw

theorem tryInOrder_eq_right {flaw : Flaw} (stops : first = .error flaw)
    (other : flaw.shape = .other) : tryInOrder first second a b = tryAlone second b := by
  rw [stops]
  exact if_pos other

theorem tryInOrder_eq_left {flaw : Flaw} (stops : second = .error flaw)
    (other : flaw.shape = .other) : tryInOrder first second a b = tryAlone first a := by
  have neither : tryAlone second b = .error .neitherFacetLayout := by
    rw [stops]
    exact congrArg Except.error (if_pos other)
  cases first with
  | ok found => rfl
  | error stopped =>
      by_cases passed : stopped.shape = .other
      · rw [tryInOrder_eq_right rfl passed, neither]
        exact congrArg Except.error (if_pos passed).symm
      · exact (if_neg passed).trans (congrArg Except.error (if_neg passed).symm)

/-- The flaw of a key that is damaged stays as it is. -/
theorem tryAlone_eq_bind (stops : StopsWith Flaw.IsDamage first) :
    tryAlone first a = first >>= a := by
  cases found : first with
  | ok value => rfl
  | error flaw =>
      have damaged : flaw.shape ≠ .other := by
        rw [(stops flaw found).1]
        exact Shape.noConfusion
      exact congrArg Except.error (if_neg damaged)

end Order

/-! ## Keys by their level -/

theorem facetLevel?_eq_none_iff {bytes : Bytes} :
    facetLevel? bytes = none ↔ bytes.length < 3 := by
  rw [facetLevel?, List.getElem?_eq_none_iff]
  omega

namespace FacetString

theorem read_eq_error {bytes : Bytes} (other : facetLevel? bytes ≠ some 0) :
    read bytes = .error .notFacetString :=
  if_neg other

theorem read_stops_of_zero {bytes : Bytes} (zero : facetLevel? bytes = some 0) :
    StopsWith Flaw.IsDamage (read bytes) := by
  rw [read, if_pos zero]
  refine (FacetHeader.read_stops bytes).bind fun ⟨header, rest⟩ => ?_
  exact (Reader.text_stops _ rest).bind fun normalized => .ok _

end FacetString

namespace FacetGroup

theorem read_eq_error {bytes : Bytes}
    (other : facetLevel? bytes = none ∨ facetLevel? bytes = some 0) :
    read bytes = .error .notFacetGroup :=
  if_pos other

theorem read_stops_of_leveled {bytes : Bytes} {level : UInt8}
    (leveled : facetLevel? bytes = some level) (above : level ≠ 0) :
    StopsWith Flaw.IsDamage (read bytes) := by
  have own : ¬ (facetLevel? bytes = none ∨ facetLevel? bytes = some 0) := by
    rw [leveled, Option.some.injEq, not_or]
    exact ⟨Option.some_ne_none level, above⟩
  rw [read, if_neg own]
  split
  · refine (FacetHeader.read_stops bytes).bind fun ⟨header, rest⟩ => ?_
    refine (Reader.integer_stops _ _ rest).bind fun ⟨low, rest⟩ => ?_
    exact (Reader.integer_stops _ _ rest).bind fun ⟨high, _⟩ => .ok _
  · exact .error ⟨rfl, Flaw.noConfusion⟩

end FacetGroup

/-- No key is read in both layouts. -/
theorem FacetString.read_ne_ok_of_group {bytes : Bytes} {group : FacetGroup}
    (accepted : FacetGroup.read bytes = .ok group) (key : FacetString) :
    FacetString.read bytes ≠ .ok key := by
  intro other
  by_cases zero : facetLevel? bytes = some 0
  · rw [FacetGroup.read_eq_error (.inr zero)] at accepted
    cases accepted
  · rw [FacetString.read_eq_error zero] at other
    cases other

/-! ## Records by the level of their key -/

/-- Damage is reported as such, and not as another layout. -/
theorem Flaw.IsDamage.kind {flaw : Flaw} (damage : flaw.IsDamage) :
    (Failure.ofFlaw flaw).kind = .decode := by
  unfold Failure.ofFlaw
  split
  · exact absurd rfl damage.2
  · exact congrArg Shape.kind damage.1

namespace StringFacet

variable {key value : Bytes}

/-- The record of a single text, and nothing else. -/
def asSingle (key value : Bytes) : Except Flaw StringFacet := do
  let found ← FacetString.read key
  (FacetStringValue.read value).map (.single found)

/-- The record of a group, and nothing else. -/
def asGroup (key value : Bytes) : Except Flaw StringFacet := do
  let found ← FacetGroup.read key
  (FacetGroupValue.read value).map (.group found)

/-- The record with the given key and value, if the layout of groups is tried first. -/
def readGroupFirst (key value : Bytes) : Except Flaw StringFacet :=
  tryInOrder (FacetGroup.read key) (FacetString.read key)
    (fun found => (FacetGroupValue.read value).map (.group found))
    (fun found => (FacetStringValue.read value).map (.single found))

theorem read_eq_tryInOrder (key value : Bytes) :
    read key value = tryInOrder (FacetString.read key) (FacetGroup.read key)
      (fun found => (FacetStringValue.read value).map (.single found))
      (fun found => (FacetGroupValue.read value).map (.group found)) := by
  have group : readGroup key value = tryAlone (FacetGroup.read key)
      fun found => (FacetGroupValue.read value).map (.group found) := by
    unfold readGroup tryAlone
    cases FacetGroup.read key <;> rfl
  unfold read tryInOrder
  rw [group]
  cases FacetString.read key <;> rfl

/-- Whichever layout is tried first, a key without a level has neither. -/
theorem read_of_none (none : facetLevel? key = none) :
    read key value = .error .neitherFacetLayout ∧
      readGroupFirst key value = .error .neitherFacetLayout := by
  have single : FacetString.read key = .error .notFacetString :=
    FacetString.read_eq_error (none ▸ (Option.some_ne_none 0).symm)
  have group : FacetGroup.read key = .error .notFacetGroup := FacetGroup.read_eq_error (.inl none)
  rw [read_eq_tryInOrder, readGroupFirst, single, group]
  exact ⟨rfl, rfl⟩

/-- Whichever layout is tried first, a key at level zero is the one of a single text. -/
theorem read_of_zero (zero : facetLevel? key = some 0) :
    read key value = asSingle key value ∧ readGroupFirst key value = asSingle key value := by
  have stops : FacetGroup.read key = .error .notFacetGroup := FacetGroup.read_eq_error (.inr zero)
  rw [read_eq_tryInOrder, readGroupFirst, tryInOrder_eq_left stops rfl,
    tryInOrder_eq_right stops rfl, tryAlone_eq_bind (FacetString.read_stops_of_zero zero)]
  exact ⟨rfl, rfl⟩

/-- Whichever layout is tried first, a key at a higher level is the one of a group. -/
theorem read_of_leveled {level : UInt8} (leveled : facetLevel? key = some level)
    (above : level ≠ 0) :
    read key value = asGroup key value ∧ readGroupFirst key value = asGroup key value := by
  have stops : FacetString.read key = .error .notFacetString :=
    FacetString.read_eq_error (by rwa [leveled, ne_eq, Option.some.injEq])
  rw [read_eq_tryInOrder, readGroupFirst, tryInOrder_eq_left stops rfl,
    tryInOrder_eq_right stops rfl,
    tryAlone_eq_bind (FacetGroup.read_stops_of_leveled leveled above)]
  exact ⟨rfl, rfl⟩

theorem asSingle_stops (zero : facetLevel? key = some 0) :
    StopsWith Flaw.IsDamage (asSingle key value) :=
  (FacetString.read_stops_of_zero zero).bind fun _ => (FacetStringValue.read_stops value).map

theorem asGroup_stops {level : UInt8} (leveled : facetLevel? key = some level)
    (above : level ≠ 0) : StopsWith Flaw.IsDamage (asGroup key value) :=
  (FacetGroup.read_stops_of_leveled leveled above).bind fun _ =>
    (FacetGroupValue.read_stops value).map

theorem read_stops_of_level {level : UInt8} (leveled : facetLevel? key = some level) :
    StopsWith Flaw.IsDamage (read key value) := by
  by_cases zero : level = 0
  · rw [zero] at leveled
    rw [(read_of_zero leveled).1]
    exact asSingle_stops leveled
  · rw [(read_of_leveled leveled zero).1]
    exact asGroup_stops leveled zero

/-- A record is of no known layout exactly if its key has no level. -/
theorem read_unknown_iff :
    (∃ flaw, read key value = .error flaw ∧ (Failure.ofFlaw flaw).kind = .unknownShape) ↔
      key.length < 3 := by
  constructor
  · rintro ⟨flaw, stopped, unknown⟩
    rw [← facetLevel?_eq_none_iff, Option.eq_none_iff_forall_ne_some]
    intro level leveled
    rw [(read_stops_of_level leveled flaw stopped).kind] at unknown
    cases unknown
  · intro short
    exact ⟨_, (read_of_none (facetLevel?_eq_none_iff.2 short)).1, rfl⟩

/-- **The level of a key decides its layout**, so the order in which the two layouts are tried
decides nothing.  Only a key that is too short to have a level is of neither layout; every
other record is read in the one layout of its level, and if it is corrupt, that layout says so. -/
theorem level_decides_layout (key value : Bytes) :
    (∀ group, FacetGroup.read key = .ok group → ∀ single, FacetString.read key ≠ .ok single) ∧
    readGroupFirst key value = read key value ∧
    ((∃ flaw, read key value = .error flaw ∧ (Failure.ofFlaw flaw).kind = .unknownShape) ↔
      key.length < 3) ∧
    StopsWith (fun flaw => (Failure.ofFlaw flaw).kind ≠ .shapeMismatch) (read key value) ∧
    ∀ level, facetLevel? key = some level →
      read key value = (if level = 0 then asSingle key value else asGroup key value) ∧
      StopsWith (fun flaw => (Failure.ofFlaw flaw).kind = .decode) (read key value) := by
  -- by the level: without one both orders find neither layout, with one both find the same
  have order : readGroupFirst key value = read key value := by
    cases leveled : facetLevel? key with
    | none => exact (read_of_none leveled).2.trans (read_of_none leveled).1.symm
    | some level =>
        by_cases zero : level = 0
        · rw [zero] at leveled
          exact (read_of_zero leveled).2.trans (read_of_zero leveled).1.symm
        · exact (read_of_leveled leveled zero).2.trans (read_of_leveled leveled zero).1.symm
  refine ⟨fun group => FacetString.read_ne_ok_of_group, order, read_unknown_iff, ?_, ?_⟩
  · refine (read_stops key value).mono fun flaw stopped => ?_
    rcases stopped with rfl | damage
    · exact ErrorKind.noConfusion
    · rw [damage.kind]
      exact ErrorKind.noConfusion
  · intro level leveled
    refine ⟨?_, (read_stops_of_level leveled).mono fun flaw damage => damage.kind⟩
    split
    · rename_i zero
      rw [zero] at leveled
      exact (read_of_zero leveled).1
    · rename_i above
      exact (read_of_leveled leveled above).1

/-- The key of a group, and a value whose flag is neither zero nor one. -/
theorem flagged_group_stops :
    let key : Bytes := [0, 1, 3, 0, 0, 0, 0, 0, 0, 0, 5]
    let value : Bytes := [2]
    FacetGroup.read key = .ok ⟨1, 3, 0, 5⟩ ∧ (∀ single, FacetString.read key ≠ .ok single) ∧
      facetLevel? key = some 3 ∧ readGroupFirst key value = read key value ∧
      read key value = asGroup key value ∧ asGroup key value = .error (.boundsFlag 2) ∧
      (Failure.ofFlaw (.boundsFlag 2)).kind = .decode := by
  intro key value
  obtain ⟨one, order, -, -, fixed⟩ := level_decides_layout key value
  have accepted : FacetGroup.read key = .ok ⟨1, 3, 0, 5⟩ := rfl
  have flagged : asGroup key value = .error (.boundsFlag 2) := rfl
  obtain ⟨layout, stops⟩ := fixed 3 rfl
  rw [if_neg (by decide)] at layout
  exact ⟨accepted, one _ accepted, rfl, order, layout, flagged, stops _ (layout.trans flagged)⟩

end StringFacet

end IndexSnapshot
