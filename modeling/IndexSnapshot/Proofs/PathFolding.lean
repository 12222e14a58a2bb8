/-
# IndexSnapshot.Proofs.PathFolding -- paths that go on, and paths that lead back

Names go on from a path, and two dots among them take a name back.  Folded by themselves, names
either have no two dots left, and then they go on in the same way from every path, or they begin
with two dots, and lead out of wherever they start.

* `Path.along` and `Path.onward`: names behind a path, and names folded by themselves.
* `Path.folded_along`: names that do not lead out go on from every path.
* `Path.relativeTo?_eq_some_iff`: the way from one path to another.
* `Path.fromRoot_of_forth`: a source file without two dots is looked for in one way only.
* `Path.ofString_toString`: a path is read back as it was written.
-/
import IndexSnapshot.Fixture.Location
import IndexSnapshot.Proofs.FixturePaths
import Mathlib.Data.List.Induction

namespace IndexSnapshot

set_option autoImplicit false

namespace Path

/-! ## Names behind a path -/

/-- The path with more names behind it. -/
def along (p : Path) (names : List String) : Path :=
  { p with names := p.names ++ names }

/-- Names folded by themselves, where there is nothing to take back. -/
def onward (names : List String) : List String :=
  names.foldl (foldName .here) []

@[simp] theorem along_nil (p : Path) : p.along [] = p := by
  simp [along]

theorem along_along (p : Path) (names more : List String) :
    (p.along names).along more = p.along (names ++ more) := by
  simp [along]

theorem along_inj {p : Path} {a b : List String} : p.along a = p.along b ↔ a = b := by
  simp only [along, Path.mk.injEq, true_and, List.append_cancel_left_eq]

theorem join_of_isAbsolute {p q : Path} (absolute : q.isAbsolute = true) : p.join q = q :=
  if_pos absolute

theorem join_of_not_isAbsolute {p q : Path} (here : q.isAbsolute = false) :
    p.join q = p.along q.names := by
  rw [join, here]
  rfl

theorem join_along (p q : Path) (names : List String) :
    p.join (q.along names) = (p.join q).along names := by
  have same : (q.along names).isAbsolute = q.isAbsolute := rfl
  rw [join, join, same]
  cases q.isAbsolute with
  | true => rfl
  | false => exact (along_along p q.names names).symm

theorem isAbsolute_join {p : Path} (q : Path) (absolute : p.isAbsolute = true) :
    (p.join q).isAbsolute = true := by
  by_cases rooted : q.isAbsolute = true
  · rwa [join_of_isAbsolute rooted]
  · rw [join_of_not_isAbsolute (Bool.not_eq_true _ ▸ rooted)]
    exact absolute

theorem join_assoc (p q r : Path) : (p.join q).join r = p.join (q.join r) := by
  by_cases rooted : r.isAbsolute = true
  · rw [join_of_isAbsolute rooted, join_of_isAbsolute rooted, join_of_isAbsolute rooted]
  · have here : r.isAbsolute = false := Bool.not_eq_true _ ▸ rooted
    rw [join_of_not_isAbsolute here, join_of_not_isAbsolute here, join_along]

/-! ## Folding -/

theorem onward_concat (names : List String) (name : String) :
    onward (names ++ [name]) = foldName .here (onward names) name := by
  simp [onward, List.foldl_append]

theorem foldName_of_ne (anchor : Anchor) (folded : List String) {name : String}
    (forth : name ≠ "..") : foldName anchor folded name = folded ++ [name] :=
  if_neg forth

/-- Two dots are folded away only if a name is taken back. -/
theorem eq_concat_of_forth {names : List String} (forth : ".." ∉ foldName .here names "..") :
    ∃ before last, names = before ++ [last] ∧ last ≠ ".." ∧
      foldName .here names ".." = before := by
  rcases List.eq_nil_or_concat names with rfl | ⟨before, last, rfl⟩
  · simp [foldName] at forth
  · by_cases up : last = ".."
    · simp [foldName, up] at forth
    · exact ⟨before, last, by simp, up, by simp [foldName, up]⟩

/-- **Names that do not lead out go on from everywhere.** -/
theorem foldl_foldName_of_forth (anchor : Anchor) (start : List String) {names : List String}
    (forth : ".." ∉ onward names) :
    names.foldl (foldName anchor) start = start ++ onward names := by
  induction names using List.reverseRecOn with
  | nil => simp [onward]
  | append_singleton names name ih =>
      rw [onward_concat] at forth ⊢
      rw [List.foldl_append, List.foldl_cons, List.foldl_nil]
      by_cases up : name = ".."
      · subst up
        obtain ⟨before, last, whole, here, taken⟩ := eq_concat_of_forth forth
        rw [taken] at forth ⊢
        have goes : ".." ∉ onward names := by
          rw [whole, List.mem_append, List.mem_singleton, not_or]
          exact ⟨forth, Ne.symm here⟩
        rw [ih goes, whole, ← List.append_assoc]
        simp [foldName, here]
      · rw [foldName_of_ne _ _ up] at forth ⊢
        rw [List.mem_append, not_or] at forth
        rw [ih forth.1, foldName_of_ne _ _ up, List.append_assoc]

theorem folded_along (p : Path) {names : List String} (forth : ".." ∉ onward names) :
    (p.along names).folded = p.folded.along (onward names) := by
  have whole := foldl_foldName_of_forth p.anchor (p.names.foldl (foldName p.anchor) []) forth
  simp only [folded, along, List.foldl_append, whole]

theorem onward_eq_self {names : List String} (forth : ".." ∉ names) : onward names = names := by
  induction names using List.reverseRecOn with
  | nil => rfl
  | append_singleton names name ih =>
      rw [List.mem_append, List.mem_singleton, not_or] at forth
      rw [onward_concat, ih forth.1, foldName_of_ne _ _ (Ne.symm forth.2)]

/-- Names that do not lead back are not folded away. -/
theorem folded_append (p : Path) {names : List String} (forth : ".." ∉ names) :
    Path.folded { p with names := p.names ++ names }
      = { p.folded with names := p.folded.names ++ names } := by
  have same := onward_eq_self forth
  have goes : ".." ∉ onward names := by rwa [same]
  have whole := folded_along p goes
  rwa [same] at whole

theorem folded_eq_self {p : Path} (forth : ".." ∉ p.names) : p.folded = p :=
  folded_append ⟨p.anchor, []⟩ forth

/-- From the root, no two dots are left. -/
theorem forth_folded {p : Path} (absolute : p.isAbsolute = true) : ".." ∉ p.folded.names := by
  obtain ⟨anchor, names⟩ := p
  have root : anchor ≠ .here := by simpa [isAbsolute] using absolute
  clear absolute
  show ".." ∉ names.foldl (foldName anchor) []
  induction names using List.reverseRecOn with
  | nil => simp
  | append_singleton names name ih =>
      rw [List.foldl_append, List.foldl_cons, List.foldl_nil]
      generalize names.foldl (foldName anchor) [] = folded at ih
      by_cases up : name = ".."
      · rcases List.eq_nil_or_concat folded with rfl | ⟨before, last, rfl⟩
        · simp [foldName, up, root]
        · simp only [List.concat_eq_append, List.mem_append, List.mem_singleton, not_or] at ih
          simp [foldName, up, Ne.symm ih.2, ih.1]
      · rw [foldName_of_ne _ _ up, List.mem_append, List.mem_singleton, not_or]
        exact ⟨ih, Ne.symm up⟩

/-! ## Paths from the root -/

section Absolute

variable {workingDirectory : Path} (rooted : workingDirectory.isAbsolute = true)

include rooted

theorem forth_absolute (p : Path) : ".." ∉ (absolute workingDirectory p).names :=
  forth_folded (isAbsolute_join p rooted)

theorem absolute_join (p : Path) :
    absolute workingDirectory (workingDirectory.join p) = absolute workingDirectory p := by
  rw [absolute, join_of_isAbsolute (isAbsolute_join p rooted), absolute]

theorem absolute_absolute (p : Path) :
    absolute workingDirectory (absolute workingDirectory p) = absolute workingDirectory p := by
  have kept : (absolute workingDirectory p).isAbsolute = true := isAbsolute_join p rooted
  rw [absolute, join_of_isAbsolute kept, folded_eq_self (forth_absolute rooted p)]

end Absolute

/-! ## Ways -/

theorem stripNames?_eq_some_iff {names start rest : List String} :
    stripNames? names start = some rest ↔ names = start ++ rest := by
  fun_induction stripNames? names start with
  | case1 names => simp [eq_comm]
  | case2 name names start ih => simpa using ih
  | case3 name names other start differ => simp [differ]
  | case4 other start => simp

/-- The way from one path to another leads there. -/
theorem relativeTo?_eq_some_iff {p start way : Path} :
    p.relativeTo? start = some way ↔ way.anchor = .here ∧ p = start.along way.names := by
  obtain ⟨anchor, names⟩ := p
  obtain ⟨anchor', names'⟩ := start
  obtain ⟨wayAnchor, rest⟩ := way
  unfold relativeTo? along
  by_cases same : anchor = anchor'
  · subst same
    simp only [if_true, Option.map_eq_some_iff, stripNames?_eq_some_iff, Path.mk.injEq, true_and]
    constructor
    · rintro ⟨names, whole, rfl, rfl⟩
      exact ⟨rfl, whole⟩
    · rintro ⟨rfl, whole⟩
      exact ⟨rest, whole, rfl, rfl⟩
  · simp [same]

/-- Behind folded paths the way stays the same. -/
theorem relativeTo?_absolute {workingDirectory p start way : Path}
    (leads : p.relativeTo? start = some way) (forth : ".." ∉ way.names) :
    (absolute workingDirectory p).relativeTo? (absolute workingDirectory start) = some way := by
  obtain ⟨here, rfl⟩ := relativeTo?_eq_some_iff.1 leads
  have same := onward_eq_self forth
  rw [relativeTo?_eq_some_iff, absolute, absolute, join_along, folded_along _ (by rwa [same]), same]
  exact ⟨here, rfl⟩

/-- **A source file without two dots** is looked for from the working directory, whether its names
alone would decide or not. -/
theorem fromRoot_of_forth (workingDirectory : Path) {file : Path} (root : Path)
    (forth : ".." ∉ file.names) :
    fromRoot workingDirectory file root =
      match (absolute workingDirectory file).relativeTo? (absolute workingDirectory root) with
      | some way => .ok way
      | none => .error (.outsideRoot file root) := by
  unfold fromRoot
  cases leads : file.relativeTo? root with
  | none => rfl
  | some way =>
      obtain ⟨-, rfl⟩ := relativeTo?_eq_some_iff.1 leads
      rw [along, List.mem_append, not_or] at forth
      rw [relativeTo?_absolute leads forth.2]

/-- Source files without two dots that are the same from the working directory, and source roots
that are, have the same way. -/
theorem fromRoot_congr {workingDirectory file file' root root' way : Path}
    (forth : ".." ∉ file.names) (forth' : ".." ∉ file'.names)
    (files : absolute workingDirectory file = absolute workingDirectory file')
    (roots : absolute workingDirectory root = absolute workingDirectory root') :
    fromRoot workingDirectory file root = .ok way ↔
      fromRoot workingDirectory file' root' = .ok way := by
  rw [fromRoot_of_forth _ _ forth, fromRoot_of_forth _ _ forth', files, roots]
  cases (absolute workingDirectory file').relativeTo? (absolute workingDirectory root') <;> simp

/-- It makes no difference whether file and root are given from the working directory or from the
root of all files. -/
theorem fromRoot_absolute {workingDirectory file : Path}
    (rooted : workingDirectory.isAbsolute = true) (forth : ".." ∉ file.names) {file' root' : Path}
    (root : Path) (isFile : file' ∈ [file, absolute workingDirectory file])
    (isRoot : root' ∈ [root, absolute workingDirectory root]) (way : Path) :
    fromRoot workingDirectory file' root' = .ok way ↔
      fromRoot workingDirectory file root = .ok way := by
  have alike {p p' : Path} (member : p' ∈ [p, absolute workingDirectory p]) :
      absolute workingDirectory p' = absolute workingDirectory p := by
    simp only [List.mem_cons, List.not_mem_nil, or_false] at member
    rcases member with rfl | rfl
    · rfl
    · exact absolute_absolute rooted p
  refine fromRoot_congr ?_ forth (alike isFile) (alike isRoot)
  simp only [List.mem_cons, List.not_mem_nil, or_false] at isFile
  rcases isFile with rfl | rfl
  · exact forth
  · exact forth_absolute rooted file

/-- A way of a source file is found by the names alone, or else from the working directory. -/
theorem fromRoot_eq_ok_iff {workingDirectory file root way : Path} :
    fromRoot workingDirectory file root = .ok way ↔
      file.relativeTo? root = some way ∨
        (file.relativeTo? root = none ∧
          (absolute workingDirectory file).relativeTo? (absolute workingDirectory root)
            = some way) := by
  unfold fromRoot
  cases file.relativeTo? root with
  | some leads => simp
  | none =>
      cases (absolute workingDirectory file).relativeTo? (absolute workingDirectory root) <;> simp

/-- It does not start at the root. -/
theorem anchor_of_fromRoot {workingDirectory file root way : Path}
    (found : fromRoot workingDirectory file root = .ok way) : way.anchor = .here := by
  rcases fromRoot_eq_ok_iff.1 found with leads | ⟨-, leads⟩
  · exact (relativeTo?_eq_some_iff.1 leads).1
  · exact (relativeTo?_eq_some_iff.1 leads).1

/-! ## Reading what is written -/

/-- A text that a path can have as a name. -/
def IsPathName (name : String) : Prop :=
  '/' ∉ name.toList ∧ isName name.toList = true

/-- All names of a path can be written. -/
def Written (p : Path) : Prop :=
  ∀ name ∈ p.names, IsPathName name

theorem splitSlashes_ne_nil (chars : List Char) : splitSlashes chars ≠ [] := by
  cases chars with
  | nil => exact List.cons_ne_nil _ _
  | cons c rest =>
      have cut : splitSlashes (c :: rest) = consName c (splitSlashes rest) := rfl
      rw [cut]
      unfold consName
      split
      · exact List.cons_ne_nil _ _
      · split <;> exact List.cons_ne_nil _ _

theorem splitSlashes_slash (chars : List Char) :
    splitSlashes ('/' :: chars) = [] :: splitSlashes chars := by
  have cut : splitSlashes ('/' :: chars) = consName '/' (splitSlashes chars) := rfl
  rw [cut]
  cases found : splitSlashes chars with
  | nil => exact absurd found (splitSlashes_ne_nil chars)
  | cons name rest => rfl

theorem splitSlashes_cons_of_ne {c : Char} (other : c ≠ '/') {chars name : List Char}
    {rest : List (List Char)} (cut : splitSlashes chars = name :: rest) :
    splitSlashes (c :: chars) = (c :: name) :: rest := by
  have step : splitSlashes (c :: chars) = consName c (splitSlashes chars) := rfl
  rw [step, cut, consName, if_neg other]

theorem splitSlashes_append {name : List Char} (plain : '/' ∉ name) (chars : List Char) :
    splitSlashes (name ++ '/' :: chars) = name :: splitSlashes chars := by
  induction name with
  | nil => exact splitSlashes_slash chars
  | cons c rest ih =>
      rw [List.mem_cons, not_or] at plain
      exact splitSlashes_cons_of_ne (Ne.symm plain.1) (ih plain.2)

/-- Pieces between slashes have no slashes. -/
theorem slash_notMem_of_mem_splitSlashes {chars piece : List Char}
    (member : piece ∈ splitSlashes chars) : '/' ∉ piece := by
  induction chars generalizing piece with
  | nil =>
      rw [show splitSlashes [] = [[]] from rfl, List.mem_singleton] at member
      exact member ▸ List.not_mem_nil
  | cons c rest ih =>
      by_cases slash : c = '/'
      · rw [slash, splitSlashes_slash, List.mem_cons] at member
        rcases member with rfl | among
        · exact List.not_mem_nil
        · exact ih among
      · cases cut : splitSlashes rest with
        | nil => exact absurd cut (splitSlashes_ne_nil rest)
        | cons first others =>
            rw [splitSlashes_cons_of_ne slash cut, List.mem_cons] at member
            rcases member with rfl | among
            · rw [List.mem_cons, not_or]
              exact ⟨Ne.symm slash, ih (cut ▸ List.mem_cons_self)⟩
            · exact ih (cut ▸ List.mem_cons_of_mem _ among)

theorem written_ofString (text : String) : (ofString text).Written := by
  intro name member
  obtain ⟨piece, kept, rfl⟩ := List.mem_map.1 member
  obtain ⟨cut, named⟩ := List.mem_filter.1 kept
  rw [IsPathName, String.toList_ofList]
  exact ⟨slash_notMem_of_mem_splitSlashes cut, named⟩

theorem Written.along {p : Path} {names : List String} (written : p.Written)
    (more : ∀ name ∈ names, IsPathName name) : (p.along names).Written := by
  intro name member
  rcases List.mem_append.1 member with first | later
  · exact written name first
  · exact more name later

theorem Written.join {p q : Path} (hp : p.Written) (hq : q.Written) : (p.join q).Written := by
  unfold Path.join
  split
  · exact hq
  · exact hp.along hq

/-- Names with slashes between them are cut at these slashes. -/
theorem splitSlashes_intercalate {names : List String} (filled : names ≠ [])
    (plain : ∀ name ∈ names, '/' ∉ name.toList) :
    splitSlashes ("/".intercalate names).toList = names.map String.toList := by
  induction names with
  | nil => exact absurd rfl filled
  | cons name rest ih =>
      rw [List.forall_mem_cons] at plain
      cases rest with
      | nil =>
          rw [String.intercalate_singleton, splitSlashes_eq plain.1]
          rfl
      | cons next more =>
          rw [String.intercalate_cons_cons, String.toList_append, String.toList_append,
            show "/".toList = ['/'] from rfl, List.append_assoc, List.singleton_append,
            splitSlashes_append plain.1, ih (List.cons_ne_nil _ _) plain.2]
          rfl

/-- The text of names does not begin with a slash. -/
theorem takeWhile_intercalate {names : List String} (written : ∀ name ∈ names, IsPathName name) :
    (("/".intercalate names).toList).takeWhile (· == '/') = [] := by
  cases names with
  | nil => rfl
  | cons name rest =>
      obtain ⟨plain, named⟩ := written name List.mem_cons_self
      obtain ⟨more, shown⟩ : ∃ more, ("/".intercalate (name :: rest)).toList
          = name.toList ++ more := by
        cases rest with
        | nil => exact ⟨[], by simp [String.intercalate_singleton]⟩
        | cons next others =>
            refine ⟨"/".toList ++ ("/".intercalate (next :: others)).toList, ?_⟩
            rw [String.intercalate_cons_cons, String.toList_append, String.toList_append,
              List.append_assoc]
      rw [shown]
      cases chars : name.toList with
      | nil =>
          rw [chars] at named
          cases named
      | cons c others =>
          rw [chars, List.mem_cons, not_or] at plain
          exact List.takeWhile_cons_of_neg (by simpa using Ne.symm plain.1)

/-- **A path is read back as it was written.** -/
theorem ofString_toString {p : Path} (written : p.Written) : ofString p.toString = p := by
  obtain ⟨anchor, names⟩ := p
  by_cases filled : names = []
  · subst filled
    cases anchor <;> rfl
  · have shown : toString ⟨anchor, names⟩ = Anchor.text anchor ++ "/".intercalate names := by
      unfold toString
      split
      · rename_i empty
        exact absurd empty filled
      · rfl
    have cut := splitSlashes_intercalate filled fun name member => (written name member).1
    have start := takeWhile_intercalate written
    have kept : ((names.map String.toList).filter isName).map String.ofList = names := by
      rw [List.filter_eq_self.2]
      · simp
      · intro chars member
        obtain ⟨name, among, rfl⟩ := List.mem_map.1 member
        exact (written name among).2
    have empty (chars : List (List Char)) : ([] :: chars).filter isName = chars.filter isName :=
      List.filter_cons_of_neg (by decide)
    rw [shown, ofString, String.toList_append]
    generalize ("/".intercalate names).toList = chars at cut start
    cases anchor with
    | here =>
        simp only [Anchor.text, String.toList_empty, List.nil_append, anchorOf, start, cut, kept]
        rfl
    | root =>
        rw [show (Anchor.text .root).toList = ['/'] from rfl, List.singleton_append,
          splitSlashes_slash, empty, cut, kept, anchorOf, List.takeWhile_cons_of_pos rfl, start]
        rfl
    | doubleRoot =>
        rw [show (Anchor.text .doubleRoot).toList = ['/', '/'] from rfl, List.cons_append,
          List.singleton_append, splitSlashes_slash, splitSlashes_slash, empty, empty, cut, kept,
          anchorOf, List.takeWhile_cons_of_pos rfl, List.takeWhile_cons_of_pos rfl, start]
        rfl

end Path

end IndexSnapshot
