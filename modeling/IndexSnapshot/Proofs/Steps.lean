/-
# IndexSnapshot.Proofs.Steps -- steps that succeed

A reading, a writing or a plan is made of steps, and it succeeds exactly if every step does,
one after another.

* `bind_eq_ok_iff`, `map_eq_ok_iff` and `pure_eq_ok_iff` say what the results of the steps are.
* `exists_bind_iff` and `exists_pure_iff` say only whether there are any.
* `mapM_eq_ok` does the same for one step on each member of a list.
-/

namespace IndexSnapshot

set_option autoImplicit false

section Results

variable {α β ε ε' : Type} {a : α} {b : β} {result : Except ε α}

theorem bind_eq_ok_iff {next : α → Except ε β} :
    result >>= next = .ok b ↔ ∃ a, result = .ok a ∧ next a = .ok b := by
  cases result with
  | error e => exact ⟨fun impossible => (by cases impossible), fun ⟨_, h, _⟩ => (by cases h)⟩
  | ok a => exact ⟨fun h => ⟨a, rfl, h⟩, fun ⟨_, rfl, h⟩ => h⟩

theorem bind_of_ok {next : α → Except ε β} (ok : result = .ok a) : result >>= next = next a := by
  rw [ok]
  rfl

theorem map_eq_ok_iff {f : α → β} : result.map f = .ok b ↔ ∃ a, result = .ok a ∧ f a = b := by
  cases result <;> simp [Except.map]

theorem mapError_eq_ok_iff {f : ε → ε'} : result.mapError f = .ok a ↔ result = .ok a := by
  constructor
  · intro ok
    cases result with
    | error e => cases ok
    | ok b => exact congrArg Except.ok (Except.ok.inj ok)
  · rintro rfl
    rfl

theorem pure_eq_ok_iff {a' : α} : (pure a : Except ε α) = .ok a' ↔ a = a' :=
  ⟨Except.ok.inj, congrArg Except.ok⟩

theorem exists_bind_iff {next : α → Except ε β} :
    (∃ b, result >>= next = .ok b) ↔ ∃ a, result = .ok a ∧ ∃ b, next a = .ok b := by
  simp only [bind_eq_ok_iff, ← exists_and_left]
  exact exists_comm

theorem exists_pure_iff : (∃ a', (pure a : Except ε α) = .ok a') ↔ True :=
  iff_true_intro ⟨a, rfl⟩

/-- A step that succeeds on each member of a list succeeds on the list. -/
theorem mapM_eq_ok {step : α → Except ε β} {value : α → β} {list : List α}
    (each : ∀ a ∈ list, step a = .ok (value a)) : list.mapM step = .ok (list.map value) := by
  induction list with
  | nil => rfl
  | cons a rest ih =>
      rw [List.forall_mem_cons] at each
      rw [List.mapM_cons, each.1, ih each.2]
      rfl

end Results

end IndexSnapshot
