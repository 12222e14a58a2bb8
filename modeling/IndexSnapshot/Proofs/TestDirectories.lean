/-
# IndexSnapshot.Proofs.TestDirectories -- tests with different names have different directories

The directory of a test is that of its source file, followed by the names in the innermost segment
of its id and by those in the label of its case.  What stands before the innermost segment, such as
a class, is no part of it.  So two tests have different directories if these names differ, and for
tests and cases that are named plainly that is so if the segments or the labels differ.

* `InnermostSegment` and `testNameOf_eq_ok_iff`: where an id is cut.
* `Location.way`: the names from the source file on.
* `Location.directory_of_resolve`: the directory of a test.
* `Location.named_tests_have_own_directories`, and `Location.different_tests_in_one_directory`
  where the names do not differ.
-/
import IndexSnapshot.Proofs.PathFolding
import IndexSnapshot.Proofs.Steps

namespace IndexSnapshot

set_option autoImplicit false

/-! ## Test ids -/

/-- Two adjacent colons stand somewhere. -/
def Separated (chars : List Char) : Prop :=
  [':', ':'] <:+: chars

/-- A test id ends in a segment, behind the last two adjacent colons. -/
def InnermostSegment (testId segment : List Char) : Prop :=
  testId = segment ∧ ¬ Separated segment ∨
    ∃ outer, testId = outer ++ ':' :: ':' :: segment ∧ ¬ Separated (':' :: segment)

theorem separated_append (outer inner : List Char) :
    Separated (outer ++ ':' :: ':' :: inner) :=
  ⟨outer, inner, by simp⟩

theorem separated_cons_iff {c : Char} {rest : List Char} :
    Separated (c :: rest) ↔ (c = ':' ∧ ∃ more, rest = ':' :: more) ∨ Separated rest := by
  rw [Separated, List.infix_cons_iff, Separated]
  refine or_congr ?_ Iff.rfl
  constructor
  · rintro ⟨more, same⟩
    obtain ⟨first, rest⟩ := List.cons.inj same
    exact ⟨first.symm, more, rest.symm⟩
  · rintro ⟨rfl, more, rfl⟩
    exact ⟨more, rfl⟩

/-- An id has one innermost segment. -/
theorem InnermostSegment.unique {testId a b : List Char} (ha : InnermostSegment testId a)
    (hb : InnermostSegment testId b) : a = b := by
  -- of two cuts, the later one is within what the earlier one leaves
  have later {outer outer' a b : List Char} (inner : ¬ Separated (':' :: a))
      (same : outer ++ ':' :: ':' :: a = outer' ++ ':' :: ':' :: b) :
      outer'.length ≤ outer.length := by
    apply Nat.le_of_not_lt
    intro longer
    obtain ⟨between, rfl⟩ := List.prefix_of_prefix_length_le (List.prefix_append outer _)
      (same ▸ List.prefix_append outer' _) (Nat.le_of_lt longer)
    rw [List.append_assoc, List.append_cancel_left_eq] at same
    cases between with
    | nil => simp at longer
    | cons c between =>
        obtain ⟨-, same⟩ := List.cons.inj same
        exact inner (same ▸ separated_append between b)
  rcases ha with ⟨rfl, plain⟩ | ⟨outer, rfl, inner⟩
  · rcases hb with ⟨rfl, -⟩ | ⟨outer', rfl, -⟩
    · rfl
    · exact absurd (separated_append outer' b) plain
  · rcases hb with ⟨rfl, plain⟩ | ⟨outer', same, inner'⟩
    · exact absurd (separated_append outer a) plain
    · have lengths := Nat.le_antisymm (later inner' same.symm) (later inner same)
      have segments := (List.append_inj same lengths).2
      simpa using segments

theorem innermostSegment_getD (testId : List Char) :
    InnermostSegment testId ((afterColons? testId).getD testId) := by
  suffices spec : match afterColons? testId with
      | none => ¬ Separated testId
      | some name => ∃ outer, testId = outer ++ ':' :: ':' :: name ∧ ¬ Separated (':' :: name) by
    cases cut : afterColons? testId with
    | none =>
        rw [cut] at spec
        exact .inl ⟨rfl, spec⟩
    | some name =>
        rw [cut] at spec
        exact .inr spec
  fun_induction afterColons? testId with
  | case1 => simp [Separated]
  | case2 c rest name cut ih =>
      rw [cut] at ih
      obtain ⟨outer, rfl, inner⟩ := ih
      exact ⟨c :: outer, rfl, inner⟩
  | case3 name cut ih =>
      rw [cut] at ih
      exact ⟨[], rfl, ih⟩
  | case4 c rest cut other ih =>
      rw [cut] at ih
      rw [separated_cons_iff, not_or]
      exact ⟨fun ⟨colon, more, colons⟩ => other more colon colons, ih⟩

/-- The name of a test is the innermost segment of its id, and not empty. -/
theorem testNameOf_eq_ok_iff {testId name : String} :
    testNameOf testId = .ok name ↔
      InnermostSegment testId.toList name.toList ∧ name.toList ≠ [] := by
  have cut := innermostSegment_getD testId.toList
  unfold testNameOf
  generalize (afterColons? testId.toList).getD testId.toList = segment at cut
  constructor
  · intro ok
    split at ok
    · cases ok
    · rename_i filled
      cases ok
      rw [String.toList_ofList]
      exact ⟨cut, filled⟩
  · rintro ⟨innermost, filled⟩
    rw [cut.unique innermost]
    split
    · rename_i empty
      exact absurd empty filled
    · rw [String.ofList_toList]

/-! ## Names in texts -/

namespace Path

/-- A text that does not start at the root. -/
def StartsHere (text : String) : Prop :=
  text.toList.head? ≠ some '/'

instance (text : String) : Decidable (StartsHere text) :=
  inferInstanceAs (Decidable (¬ _))

/-- A text that is one name, and does not lead back. -/
structure PlainName (text : String) : Prop where
  noSlash : '/' ∉ text.toList
  named : isName text.toList = true
  forth : text ≠ ".."

instance (text : String) : Decidable (PlainName text) :=
  decidable_of_iff ('/' ∉ text.toList ∧ isName text.toList = true ∧ text ≠ "..")
    ⟨fun ⟨h, h', h''⟩ => ⟨h, h', h''⟩, fun ⟨h, h', h''⟩ => ⟨h, h', h''⟩⟩

theorem isAbsolute_ofString {text : String} (here : StartsHere text) :
    (ofString text).isAbsolute = false := by
  have start : text.toList.takeWhile (· == '/') = [] := by
    unfold StartsHere at here
    cases found : text.toList with
    | nil => rfl
    | cons c rest =>
        rw [found, List.head?_cons, Ne, Option.some.injEq] at here
        exact List.takeWhile_cons_of_neg (by simpa using here)
  rw [isAbsolute, ofString, anchorOf, start]
  rfl

/-- A path goes on by the names of a text. -/
theorem child_eq (p : Path) {text : String} (here : StartsHere text) :
    p.child text = { p with names := p.names ++ (ofString text).names } := by
  rw [child, join, isAbsolute_ofString here]
  rfl

end Path

/-! ## Directories of tests -/

namespace Location

open IndexSnapshot.Path (StartsHere PlainName)

/-- The names behind those of the source file: those in a segment of a test id, and then those
in a label. -/
def way (segment : String) (label : Option String) : List String :=
  (Path.ofString segment).names ++ label.elim [] fun text => (Path.ofString text).names

theorem way_of_plain {segment : String} {label : Option String}
    (plain : ∀ text ∈ segment :: label.toList, PlainName text) :
    way segment label = segment :: label.toList := by
  have single {text : String} (member : text ∈ segment :: label.toList) :
      (Path.ofString text).names = [text] := by
    rw [Path.ofString_eq (plain text member).noSlash (plain text member).named]
  rw [way, single List.mem_cons_self]
  cases label with
  | none => rfl
  | some text =>
      rw [Option.elim_some, single (List.mem_cons_of_mem _ List.mem_cons_self)]
      rfl

variable {workingDirectory file sourceRoot snapshotRoot : Path}
  {testId testId' segment segment' : String} {label label' : Option String}
  {location location' : Location}

/-- **The directory of a test** is behind that of its source file. -/
theorem directory_of_resolve
    (found : resolve workingDirectory file testId label sourceRoot snapshotRoot = .ok location)
    (innermost : InnermostSegment testId.toList segment.toList)
    (here : ∀ text ∈ segment :: label.toList, StartsHere text) :
    ∃ source, Path.fromRoot workingDirectory file sourceRoot = .ok source ∧
      location.directory = { snapshotRoot.join source with
        names := (snapshotRoot.join source).names ++ way segment label } := by
  simp only [resolve, bind_eq_ok_iff] at found
  obtain ⟨source, start, name, cut, resolved⟩ := found
  obtain ⟨cut, -⟩ := testNameOf_eq_ok_iff.1 cut
  obtain rfl : name = segment := String.toList_injective (cut.unique innermost)
  refine ⟨source, start, ?_⟩
  have hereName := here name List.mem_cons_self
  cases label with
  | none =>
      cases resolved
      simp [way, Path.child_eq _ hereName]
  | some text =>
      have hereText := here text (List.mem_cons_of_mem _ List.mem_cons_self)
      cases resolved
      simp [way, Path.child_eq _ hereName, Path.child_eq _ hereText]

/-- **Tests and cases of a source file that are named differently have different directories**,
as long as neither a segment nor a label starts at the root: if the names in them differ, and none
of these leads back, then also once two dots are resolved; and if all of them are plain names, it
is enough that the segments or the labels differ. -/
theorem named_tests_have_own_directories
    (found : resolve workingDirectory file testId label sourceRoot snapshotRoot = .ok location)
    (found' : resolve workingDirectory file testId' label' sourceRoot snapshotRoot = .ok location')
    (innermost : InnermostSegment testId.toList segment.toList)
    (innermost' : InnermostSegment testId'.toList segment'.toList)
    (here : ∀ text ∈ segment :: label.toList, StartsHere text)
    (here' : ∀ text ∈ segment' :: label'.toList, StartsHere text) :
    (way segment label ≠ way segment' label' →
      location.directory ≠ location'.directory ∧
        (".." ∉ way segment label → ".." ∉ way segment' label' →
          location.directory.folded ≠ location'.directory.folded)) ∧
    ((∀ text ∈ segment :: label.toList, PlainName text) →
      (∀ text ∈ segment' :: label'.toList, PlainName text) →
      (segment, label) ≠ (segment', label') →
        location.directory ≠ location'.directory ∧
          location.directory.folded ≠ location'.directory.folded) := by
  obtain ⟨source, start, directory⟩ := directory_of_resolve found innermost here
  obtain ⟨source', start', directory'⟩ := directory_of_resolve found' innermost' here'
  obtain rfl : source = source' := Except.ok.inj (start.symm.trans start')
  have differ (ways : way segment label ≠ way segment' label') :
      location.directory ≠ location'.directory ∧
        (".." ∉ way segment label → ".." ∉ way segment' label' →
          location.directory.folded ≠ location'.directory.folded) := by
    rw [directory, directory']
    refine ⟨?_, fun forth forth' => ?_⟩
    · intro same
      exact ways (List.append_cancel_left (Path.mk.inj same).2)
    · rw [Path.folded_append _ forth, Path.folded_append _ forth']
      intro same
      exact ways (List.append_cancel_left (Path.mk.inj same).2)
  refine ⟨differ, fun plain plain' pairs => ?_⟩
  have forth {segment : String} {label : Option String}
      (plain : ∀ text ∈ segment :: label.toList, PlainName text) : ".." ∉ way segment label := by
    rw [way_of_plain plain]
    intro member
    exact (plain _ member).forth rfl
  have ways : way segment label ≠ way segment' label' := by
    rw [way_of_plain plain, way_of_plain plain']
    intro same
    obtain ⟨rfl, labels⟩ := List.cons.inj same
    cases label <;> cases label' <;> simp at labels pairs
    exact pairs labels
  obtain ⟨directories, folded⟩ := differ ways
  exact ⟨directories, folded (forth plain) (forth plain')⟩

/-- A test with parameters in a class, and a case of it with a label. -/
theorem test_and_case_have_own_directories :
    let resolved (label : Option String) :=
      resolve ⟨.root, ["work"]⟩ ⟨.here, ["tests", "test_x.py"]⟩
        "tests/test_x.py::TestA::test_b[2-3]" label ⟨.here, ["tests"]⟩ ⟨.here, ["snapshots"]⟩
    ∃ location location', resolved none = .ok location ∧ resolved (some "first") = .ok location' ∧
      location.directory.folded ≠ location'.directory.folded := by
  intro resolved
  have found : resolved none = .ok
      { directory := ⟨.here, ["snapshots", "test_x.py", "test_b[2-3]"]⟩
        sourcePath := ⟨.here, ["test_x.py"]⟩, testName := "test_b[2-3]" } := rfl
  have found' : resolved (some "first") = .ok
      { directory := ⟨.here, ["snapshots", "test_x.py", "test_b[2-3]", "first"]⟩
        sourcePath := ⟨.here, ["test_x.py"]⟩, testName := "test_b[2-3]"
        caseName := some "first" } := rfl
  have innermost : InnermostSegment "tests/test_x.py::TestA::test_b[2-3]".toList
      "test_b[2-3]".toList := (testNameOf_eq_ok_iff.1 rfl).1
  have apart := (named_tests_have_own_directories found found' innermost innermost (by decide)
    (by decide)).2 (by decide) (by decide) (by decide)
  exact ⟨_, _, found, found', apart.2⟩

/-- Classes are no part of directories; neither is what stands before colons in parameters, an
empty name between slashes, an empty label, or anything before a label that starts at the root. -/
theorem different_tests_in_one_directory :
    let directory (test : String × Option String) :=
      (resolve ⟨.root, ["work"]⟩ ⟨.here, ["tests", "test_x.py"]⟩ ("tests/test_x.py::" ++ test.1)
        test.2 ⟨.here, ["tests"]⟩ ⟨.here, ["snapshots"]⟩).map Location.directory
    ∀ shared ∈
      [(("TestA::test_b", none), ("TestB::test_b", none), "snapshots/test_x.py/test_b"),
        (("test_a[x::y]", none), ("test_b[x::y]", none), "snapshots/test_x.py/y]"),
        (("test_a[x/y]", none), ("test_a[x//y]", none), "snapshots/test_x.py/test_a[x/y]"),
        (("test_a", none), ("test_a", some ""), "snapshots/test_x.py/test_a"),
        (("test_a", some "/c"), ("test_b", some "/c"), "/c")],
      shared.1 ≠ shared.2.1 ∧ directory shared.1 = .ok (Path.ofString shared.2.2) ∧
        directory shared.2.1 = .ok (Path.ofString shared.2.2) := by
  intro directory
  simp only [List.forall_mem_cons, List.not_mem_nil, false_implies, implies_true, and_true]
  refine ⟨?classes, ?colons, ?slashes, ?emptyLabel, ?rootLabel⟩ <;>
    exact ⟨by decide, rfl, rfl⟩

end Location

end IndexSnapshot
