/-
# IndexSnapshot.Store.Entries -- named values in insertion order

The names of a store -- tables, settings, fields -- are kept in the order in which they
first came, each with its latest value.

* `get?_put_self` and `get?_put_of_ne`: putting a value changes what its name has and
  nothing else; `get?_erase_self` and `get?_erase_of_ne` say the same of taking it away.
* `mem_of_get?`, `mem_put` and `nodup_put`: which entries there are.
* `get?_map_values` and `map_put`: entries whose values are changed one by one.
-/

namespace IndexSnapshot

set_option autoImplicit false

/-- Names with values, in the order in which the names first came. -/
abbrev Entries (K V : Type) := List (K × V)

namespace Entries

variable {K V : Type} [DecidableEq K]

/-- The value of a name. -/
def get? (entries : Entries K V) (name : K) : Option V :=
  match entries with
  | [] => none
  | (k, v) :: rest => if k = name then some v else get? rest name

/-- Gives a name a value: in the place of its old one, or behind all others. -/
def put (entries : Entries K V) (name : K) (value : V) : Entries K V :=
  match entries with
  | [] => [(name, value)]
  | (k, v) :: rest => if k = name then (k, value) :: rest else (k, v) :: put rest name value

/-- Takes a name and its value away. -/
def erase (entries : Entries K V) (name : K) : Entries K V :=
  List.filter (fun e => decide (e.1 ≠ name)) entries

/-- The entries of a list, put in one after another. -/
def ofList (pairs : List (K × V)) : Entries K V :=
  pairs.foldl (fun entries (name, value) => put entries name value) []

theorem get?_put_self (entries : Entries K V) (name : K) (value : V) :
    get? (put entries name value) name = some value := by
  induction entries with
  | nil => simp [put, get?]
  | cons e rest ih =>
      obtain ⟨k, v⟩ := e
      by_cases h : k = name <;> simp [put, get?, h, ih]

theorem get?_put_of_ne (entries : Entries K V) {name other : K} (value : V)
    (ne : other ≠ name) : get? (put entries name value) other = get? entries other := by
  induction entries with
  | nil => simp [put, get?, Ne.symm ne]
  | cons e rest ih =>
      obtain ⟨k, v⟩ := e
      by_cases h : k = name
      · have : name ≠ other := Ne.symm ne
        simp [put, get?, h, this]
      · by_cases h' : k = other <;> simp_all [put, get?]

theorem get?_erase_self (entries : Entries K V) (name : K) :
    get? (erase entries name) name = none := by
  induction entries with
  | nil => rfl
  | cons e rest ih =>
      obtain ⟨k, v⟩ := e
      by_cases h : k = name
      · simpa [erase, h] using ih
      · simpa [erase, get?, h] using ih

theorem get?_erase_of_ne (entries : Entries K V) {name other : K} (ne : other ≠ name) :
    get? (erase entries name) other = get? entries other := by
  induction entries with
  | nil => rfl
  | cons e rest ih =>
      obtain ⟨k, v⟩ := e
      by_cases h : k = name
      · have : name ≠ other := Ne.symm ne
        simpa [erase, get?, h, this] using ih
      · by_cases h' : k = other
        · subst h'
          simp [erase, get?, ne]
        · simpa [erase, get?, h, h'] using ih

/-! ## Entries one by one -/

theorem get?_map_values {W : Type} (f : V → W) (entries : Entries K V) (name : K) :
    get? (entries.map fun (k, v) => (k, f v)) name = (get? entries name).map f := by
  induction entries with
  | nil => rfl
  | cons entry rest ih =>
      obtain ⟨k, v⟩ := entry
      by_cases same : k = name <;> simp [get?, same, ih]

theorem map_put {W : Type} (f : V → W) (entries : Entries K V) (name : K) (value : V) :
    (put entries name value).map (fun (k, v) => (k, f v))
      = put (entries.map fun (k, v) => (k, f v)) name (f value) := by
  induction entries with
  | nil => rfl
  | cons entry rest ih =>
      obtain ⟨k, v⟩ := entry
      by_cases same : k = name <;> simp [put, same, ih]

theorem mem_of_get? {entries : Entries K V} {name : K} {value : V}
    (found : get? entries name = some value) : (name, value) ∈ entries := by
  induction entries with
  | nil => cases found
  | cons entry rest ih =>
      obtain ⟨k, v⟩ := entry
      by_cases same : k = name
      · subst same
        simp only [get?, if_pos, Option.some.injEq] at found
        subst found
        exact List.mem_cons_self
      · simp only [get?, if_neg same] at found
        exact List.mem_cons_of_mem _ (ih found)

theorem mem_put {entries : Entries K V} {name : K} {value : V} {entry : K × V}
    (member : entry ∈ put entries name value) : entry = (name, value) ∨ entry ∈ entries := by
  induction entries with
  | nil => exact .inl (List.mem_singleton.1 member)
  | cons first rest ih =>
      obtain ⟨k, v⟩ := first
      by_cases same : k = name
      · subst same
        simp only [put, if_pos] at member
        exact (List.mem_cons.1 member).imp_right (List.mem_cons_of_mem _)
      · simp only [put, if_neg same] at member
        rcases List.mem_cons.1 member with rfl | later
        · exact .inr List.mem_cons_self
        · exact (ih later).imp_right (List.mem_cons_of_mem _)

/-- What is put in the place of another value, or behind all others, is in one place only. -/
theorem nodup_put {entries : Entries K V} {name : K} {value : V}
    (different : (entries.map fun entry => entry.2).Nodup)
    (new : value ∉ entries.map fun entry => entry.2) :
    ((put entries name value).map fun entry => entry.2).Nodup := by
  induction entries with
  | nil => exact List.nodup_cons.2 ⟨List.not_mem_nil, List.nodup_nil⟩
  | cons first rest ih =>
      obtain ⟨k, v⟩ := first
      rw [List.map_cons, List.nodup_cons] at different
      rw [List.map_cons, List.mem_cons, not_or] at new
      by_cases same : k = name
      · simp only [put, if_pos same, List.map_cons]
        exact List.nodup_cons.2 ⟨new.2, different.2⟩
      · simp only [put, if_neg same, List.map_cons]
        refine List.nodup_cons.2 ⟨fun again => ?_, ih different.2 new.2⟩
        obtain ⟨entry, member, rfl⟩ := List.mem_map.1 again
        rcases mem_put member with rfl | old
        · exact new.1 rfl
        · exact different.1 (List.mem_map.2 ⟨entry, old, rfl⟩)

end Entries

end IndexSnapshot
