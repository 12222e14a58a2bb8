/-
# IndexSnapshot.Proofs.SnapshotRoot -- when fixtures lie below the snapshot root

The directory of a test goes on from the snapshot root by the names of its source file, of the
innermost segment of its id and of the label of its case.  It stays below the root, whatever that
is, exactly if neither segment nor label starts at the root of all files and these names, folded by
themselves, are some names that do not lead out.

The names of a source file lead out only if the file is accepted by its names alone, although it is
not under the source root once two dots are resolved.  A file without two dots is accepted only
under the source root.

* `Path.Below` and `Path.AtOrBelow`: paths behind a path.
* `Location.below_snapshotRoot_iff`: which locations stay below the snapshot root, and which source
  files are accepted.
* `Location.fixtures_outside_snapshot_root`: files, ids and labels that lead out.
-/
import IndexSnapshot.Proofs.TestDirectories

namespace IndexSnapshot

set_option autoImplicit false

/-! ## Paths below a path -/

namespace Path

/-- A path goes on from another one, and not back. -/
def AtOrBelow (root p : Path) : Prop :=
  ∃ names, ".." ∉ names ∧ p = root.along names

/-- A path goes on from another one by at least one name, and not back. -/
def Below (root p : Path) : Prop :=
  ∃ names, names ≠ [] ∧ ".." ∉ names ∧ p = root.along names

theorem below_along {root : Path} {names : List String} :
    Below root (root.along names) ↔ names ≠ [] ∧ ".." ∉ names := by
  constructor
  · rintro ⟨others, filled, forth, same⟩
    exact along_inj.1 same ▸ ⟨filled, forth⟩
  · rintro ⟨filled, forth⟩
    exact ⟨names, filled, forth, rfl⟩

theorem atOrBelow_iff_relativeTo? {root p : Path} :
    AtOrBelow root p ↔ ∃ way, p.relativeTo? root = some way ∧ ".." ∉ way.names := by
  constructor
  · rintro ⟨names, forth, same⟩
    exact ⟨⟨.here, names⟩, relativeTo?_eq_some_iff.2 ⟨rfl, same⟩, forth⟩
  · rintro ⟨way, leads, forth⟩
    exact ⟨way.names, forth, (relativeTo?_eq_some_iff.1 leads).2⟩

theorem relativeTo?_of_below {root p : Path} (below : Below root p) :
    ∃ way, p.relativeTo? root = some way := by
  obtain ⟨names, -, forth, same⟩ := below
  obtain ⟨way, leads, -⟩ := atOrBelow_iff_relativeTo?.1 ⟨names, forth, same⟩
  exact ⟨way, leads⟩

/-! ## Source files -/

variable {workingDirectory file root way : Path}

/-- A source file that is accepted is under the source root, or its names alone decide and lead
out again. -/
theorem atOrBelow_or_leads_out (rooted : workingDirectory.isAbsolute = true)
    (found : fromRoot workingDirectory file root = .ok way) :
    AtOrBelow (absolute workingDirectory root) (absolute workingDirectory file) ∨
      (file.relativeTo? root = some way ∧ ".." ∈ onward way.names) := by
  rcases fromRoot_eq_ok_iff.1 found with leads | ⟨-, leads⟩
  · by_cases out : ".." ∈ onward way.names
    · exact .inr ⟨leads, out⟩
    · obtain ⟨-, rfl⟩ := relativeTo?_eq_some_iff.1 leads
      refine .inl ⟨onward way.names, out, ?_⟩
      rw [absolute, absolute, join_along, folded_along _ out]
  · obtain ⟨-, same⟩ := relativeTo?_eq_some_iff.1 leads
    have forth := forth_absolute rooted file
    rw [same, along, List.mem_append, not_or] at forth
    exact .inl ⟨way.names, forth.2, same⟩

/-- A source file without two dots is refused exactly if it is not under the source root. -/
theorem fromRoot_eq_error_iff (rooted : workingDirectory.isAbsolute = true)
    (forth : ".." ∉ file.names) :
    fromRoot workingDirectory file root = .error (.outsideRoot file root) ↔
      ¬ AtOrBelow (absolute workingDirectory root) (absolute workingDirectory file) := by
  rw [fromRoot_of_forth _ _ forth, atOrBelow_iff_relativeTo?]
  cases leads : (absolute workingDirectory file).relativeTo? (absolute workingDirectory root) with
  | none => simp
  | some way =>
      obtain ⟨-, same⟩ := relativeTo?_eq_some_iff.1 leads
      have forth := forth_absolute rooted file
      rw [same, along, List.mem_append, not_or] at forth
      simp [forth.2]

/-! ## Names in texts that start at the root -/

theorem isAbsolute_ofString_iff {text : String} :
    (ofString text).isAbsolute = false ↔ StartsHere text := by
  refine ⟨fun here => ?_, isAbsolute_ofString⟩
  unfold StartsHere
  intro slash
  obtain ⟨rest, chars⟩ := List.head?_eq_some_iff.1 slash
  rw [isAbsolute, ofString, anchorOf, chars, List.takeWhile_cons_of_pos rfl, List.length_cons]
    at here
  generalize (rest.takeWhile (· == '/')).length = count at here
  -- However many further slashes there are, the text has an anchor.
  rcases count with _ | _ | count
  · cases here
  · cases here
  · cases here

/-- A path starts at the root from a text on that does. -/
theorem child_of_not_startsHere (p : Path) {text : String} (rooted : ¬ StartsHere text) :
    (p.child text).isAbsolute = true := by
  have absolute : (ofString text).isAbsolute = true := by
    rw [← Bool.not_eq_false]
    exact mt isAbsolute_ofString_iff.1 rooted
  rw [child, join_of_isAbsolute absolute]
  exact absolute

end Path

/-! ## Locations -/

namespace Location

open IndexSnapshot.Path (StartsHere)

variable {workingDirectory file sourceRoot source : Path} {testId name : String}
  {label : Option String}

/-- The directory that follows from a source file, the name of a test and a label. -/
def directoryOf (snapshotRoot source : Path) (name : String) (label : Option String) : Path :=
  label.elim ((snapshotRoot.join source).child name) ((snapshotRoot.join source).child name).child

/-- A location without a label, and then that of its case, is the location with the label. -/
theorem resolve_eq_forCase (workingDirectory file : Path) (testId : String)
    (label : Option String) (sourceRoot snapshotRoot : Path) :
    resolve workingDirectory file testId label sourceRoot snapshotRoot =
      (resolve workingDirectory file testId none sourceRoot snapshotRoot).bind
        (forCase · label) := by
  unfold resolve
  cases Path.fromRoot workingDirectory file sourceRoot with
  | error fault => rfl
  | ok source =>
      cases testNameOf testId with
      | error fault => rfl
      | ok name => rfl

theorem resolve_eq (named : testNameOf testId = .ok name)
    (found : Path.fromRoot workingDirectory file sourceRoot = .ok source) (snapshotRoot : Path) :
    resolve workingDirectory file testId label sourceRoot snapshotRoot = .ok
      { directory := directoryOf snapshotRoot source name label, sourcePath := source,
        testName := name, caseName := label } := by
  simp only [resolve, found, named, bind, Except.bind]
  cases label <;> rfl

theorem directoryOf_eq (snapshotRoot : Path) (relative : source.anchor = .here)
    (here : ∀ text ∈ name :: label.toList, StartsHere text) :
    directoryOf snapshotRoot source name label
      = snapshotRoot.along (source.names ++ way name label) := by
  have hereName := here name List.mem_cons_self
  have start : snapshotRoot.join source = snapshotRoot.along source.names :=
    Path.join_of_not_isAbsolute (by rw [Path.isAbsolute, relative]; rfl)
  rw [directoryOf, start, Path.child_eq _ hereName]
  cases label with
  | none => simp [way, Path.along]
  | some text =>
      have hereText := here text (List.mem_cons_of_mem _ List.mem_cons_self)
      rw [Option.elim_some, Path.child_eq _ hereText]
      simp [way, Path.along]

/-- A directory that does not start at the root comes from texts that do not. -/
theorem startsHere_of_directoryOf {snapshotRoot : Path}
    (here : (directoryOf snapshotRoot source name label).isAbsolute = false) :
    ∀ text ∈ name :: label.toList, StartsHere text := by
  have hereOf {p : Path} {text : String} (here : (p.child text).isAbsolute = false) :
      StartsHere text := by
    by_contra rooted
    rw [Path.child_of_not_startsHere p rooted] at here
    cases here
  cases label with
  | none =>
      rw [Option.toList_none, List.forall_mem_singleton]
      exact hereOf here
  | some text =>
      rw [Option.toList_some, List.forall_mem_cons, List.forall_mem_singleton]
      have hereText : StartsHere text := hereOf here
      rw [directoryOf, Option.elim_some, Path.child_eq _ hereText] at here
      exact ⟨hereOf (p := snapshotRoot.join source) here, hereText⟩

/-- A directory lies below every snapshot root exactly if its names do not lead out. -/
theorem below_directoryOf_iff (relative : source.anchor = .here) :
    (∀ snapshotRoot : Path,
        snapshotRoot.folded.Below (directoryOf snapshotRoot source name label).folded) ↔
      (∀ text ∈ name :: label.toList, StartsHere text) ∧
        Path.onward (source.names ++ way name label) ≠ [] ∧
        ".." ∉ Path.onward (source.names ++ way name label) := by
  constructor
  · intro below
    -- behind no names at all, everything shows that the names of the directory lead to
    obtain ⟨names, filled, forth, same⟩ := below ⟨.here, []⟩
    have here : (directoryOf ⟨.here, []⟩ source name label).anchor = .here :=
      congrArg Path.anchor same
    have starts := startsHere_of_directoryOf (by rw [Path.isAbsolute, here]; rfl)
    rw [directoryOf_eq _ relative starts] at same
    have names_eq : Path.onward (source.names ++ way name label) = names :=
      congrArg Path.names same
    exact ⟨starts, names_eq ▸ filled, names_eq ▸ forth⟩
  · rintro ⟨starts, filled, forth⟩ snapshotRoot
    rw [directoryOf_eq _ relative starts, Path.folded_along _ forth, Path.below_along]
    exact ⟨filled, forth⟩

/-- **Fixtures lie below the snapshot root**, whatever that is, exactly if neither segment nor
label starts at the root of all files, and the names from the source root on, folded by themselves,
are some names and do not lead out.  It makes no difference whether the label is given at once or
afterwards.  A source file that is accepted is under the source root once two dots are resolved, or
its names alone decide and lead out; one without two dots is refused exactly if it is not under the
source root. -/
theorem below_snapshotRoot_iff (rooted : workingDirectory.isAbsolute = true)
    (file sourceRoot : Path) (testId : String) (label : Option String) :
    (∀ source name, Path.fromRoot workingDirectory file sourceRoot = .ok source →
      testNameOf testId = .ok name →
        ((∀ snapshotRoot location,
            resolve workingDirectory file testId label sourceRoot snapshotRoot = .ok location →
              snapshotRoot.folded.Below location.directory.folded) ↔
          (∀ text ∈ name :: label.toList, StartsHere text) ∧
            Path.onward (source.names ++ way name label) ≠ [] ∧
            ".." ∉ Path.onward (source.names ++ way name label))) ∧
    (∀ snapshotRoot, resolve workingDirectory file testId label sourceRoot snapshotRoot =
      (resolve workingDirectory file testId none sourceRoot snapshotRoot).bind
        (forCase · label)) ∧
    (∀ source, Path.fromRoot workingDirectory file sourceRoot = .ok source →
      (Path.absolute workingDirectory sourceRoot).AtOrBelow
          (Path.absolute workingDirectory file) ∨
        (file.relativeTo? sourceRoot = some source ∧ ".." ∈ Path.onward source.names)) ∧
    (".." ∉ file.names →
      (Path.fromRoot workingDirectory file sourceRoot = .error (.outsideRoot file sourceRoot) ↔
        ¬ (Path.absolute workingDirectory sourceRoot).AtOrBelow
          (Path.absolute workingDirectory file))) := by
  refine ⟨fun source name found named => ?_,
    resolve_eq_forCase workingDirectory file testId label sourceRoot,
    fun source found => Path.atOrBelow_or_leads_out rooted found,
    Path.fromRoot_eq_error_iff rooted⟩
  rw [← below_directoryOf_iff (Path.anchor_of_fromRoot found)]
  constructor
  · exact fun below snapshotRoot => below snapshotRoot _ (resolve_eq named found snapshotRoot)
  · intro below snapshotRoot location resolved
    rw [resolve_eq named found] at resolved
    cases resolved
    exact below snapshotRoot

/-- A case of a test whose file is given by a way around lies below the snapshot root. -/
theorem detour_below_snapshot_root :
    let resolved := resolve ⟨.root, ["work"]⟩ ⟨.here, ["tests", "unit", "..", "test_x.py"]⟩
      "test_x.py::test_a" (some "b/../c") ⟨.here, ["tests"]⟩ ⟨.here, ["..", "snapshots"]⟩
    ∃ location, resolved = .ok location ∧
      Path.Below ⟨.here, ["..", "snapshots"]⟩ location.directory.folded := by
  have found : Path.fromRoot ⟨.root, ["work"]⟩ ⟨.here, ["tests", "unit", "..", "test_x.py"]⟩
      ⟨.here, ["tests"]⟩ = .ok ⟨.here, ["unit", "..", "test_x.py"]⟩ := rfl
  have rooted : Path.isAbsolute ⟨.root, ["work"]⟩ = true := rfl
  have inside := ((below_snapshotRoot_iff rooted _ _ "test_x.py::test_a"
    (some "b/../c")).1 _ "test_a" found rfl).2 ⟨by decide, by decide, by decide⟩
  exact ⟨_, rfl, inside ⟨.here, ["..", "snapshots"]⟩ _ rfl⟩

/-- A file that leads out behind the source root is accepted; a segment or a label that starts at
the root, or leads back, is followed. -/
theorem fixtures_outside_snapshot_root :
    let directory (file testId : String) (label : Option String) :=
      (resolve ⟨.root, ["work"]⟩ (.ofString file) testId label ⟨.here, ["tests"]⟩
        ⟨.here, ["snapshots"]⟩).map fun location => location.directory.folded
    ¬ Path.AtOrBelow ⟨.root, ["work", "tests"]⟩
        (Path.absolute ⟨.root, ["work"]⟩ (.ofString "tests/../other/test_x.py")) ∧
    ∀ outside ∈
      [("tests/../other/test_x.py", "test_a", none, "other/test_x.py/test_a"),
        ("tests/test_x.py", "test_a[x::/c]", none, "/c]"),
        ("tests/test_x.py", "test_a", some "/c", "/c"),
        ("tests/test_x.py", "test_a", some "../../../c", "c")],
      directory outside.1 outside.2.1 outside.2.2.1 = .ok (.ofString outside.2.2.2) ∧
        ¬ Path.Below ⟨.here, ["snapshots"]⟩ (.ofString outside.2.2.2) := by
  have outside {root p : Path} (apart : p.relativeTo? root = none) : ¬ Path.Below root p := by
    intro below
    obtain ⟨way, leads⟩ := Path.relativeTo?_of_below below
    rw [apart] at leads
    cases leads
  intro directory
  refine ⟨?accepted, ?outside⟩
  case accepted =>
    rw [Path.atOrBelow_iff_relativeTo?]
    rintro ⟨way, leads, -⟩
    cases leads
  case outside =>
    simp only [List.forall_mem_cons, List.not_mem_nil, false_implies, implies_true, and_true]
    refine ⟨?file, ?segment, ?label, ?labelBack⟩ <;> exact ⟨rfl, outside rfl⟩

end Location

end IndexSnapshot
