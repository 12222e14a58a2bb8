/-
# IndexSnapshot.Proofs.SoundFiles -- files that only comparisons have written

Where nothing but comparisons has changed the files, each file holds a text, and none of them is
where a directory is.  A comparison keeps this: it writes texts, and it makes directories only
where no file is.  So a fixture that is there and can be reached can be written, too, and after a
comparison in update mode it has the text that it was compared with.

* `FileTree.Sound` and `FileTree.Sound.checkAll`: what all comparisons keep.
* `FileTree.obstacle?_within_of_size`: a file whose name is as long as that of another one can be
  reached as it can.
* `FileTree.holds_compare_update_of_file`: a fixture that is there is brought up to date.
-/
import IndexSnapshot.Proofs.PendingFiles

namespace IndexSnapshot

set_option autoImplicit false

/-! ## Directories on the way -/

namespace Path

/-- A text without faults has none at its beginning. -/
theorem textFault?_of_append {text more : String} (possible : textFault? (text ++ more) = none) :
    textFault? text = none := by
  unfold textFault? at possible ⊢
  split at possible
  · cases possible
  · rename_i free
    split at possible
    · cases possible
    · rename_i short
      rw [String.toList_append, List.contains_iff_mem, List.mem_append, not_or] at free
      rw [if_neg (mt List.contains_iff_mem.1 free.1), if_neg]
      simp only [isTextTooLong, String.utf8ByteSize_append, decide_eq_true_eq] at short ⊢
      omega

/-- If a file of a directory has a possible path, so has the directory. -/
theorem textFault?_of_within {d : Path} {name : String}
    (possible : textFault? (d.within name).toString = none) : textFault? d.toString = none := by
  obtain ⟨anchor, names⟩ := d
  have shown : (within ⟨anchor, names⟩ name).toString
      = Anchor.text anchor ++ "/".intercalate (names ++ [name]) := by
    rw [toString]
    split
    · rename_i empty
      simp [within] at empty
    · rfl
  rw [shown] at possible
  by_cases top : names = []
  · subst top
    cases anchor <;> decide
  · rw [String.intercalate_append_of_ne_nil top (by simp), ← String.append_assoc,
      ← String.append_assoc] at possible
    have whole : toString ⟨anchor, names⟩ = Anchor.text anchor ++ "/".intercalate names := by
      rw [toString]
      split
      · rename_i empty
        exact absurd empty top
      · rfl
    rw [whole]
    exact textFault?_of_append (textFault?_of_append possible)

end Path

namespace FileTree

variable {t after : FileTree} {d p : Path}

/-- Where a file of a directory can be reached, the directory can. -/
theorem obstacle?_of_within {name : String} (clear : t.obstacle? (d.within name) = none) :
    t.obstacle? d = none ∧ t.isDirectory d.folded = true := by
  obtain ⟨possible, through⟩ := obstacle?_eq_none_iff.1 clear
  have length : (d.within name).names.length = d.names.length + 1 := by
    simp only [Path.within, List.length_append, List.length_singleton]
  rw [length] at through
  constructor
  · refine obstacle?_eq_none_iff.2 ⟨Path.textFault?_of_within possible, fun place inside => ?_⟩
    obtain ⟨reached, short⟩ := through place (Nat.lt_succ_of_lt inside)
    rw [Path.start_within d name (Nat.le_of_lt inside)] at reached
    rw [Path.within, List.getElem?_append_left inside] at short
    exact ⟨reached, short⟩
  · have reached := (through d.names.length (Nat.lt_succ_self _)).1
    rw [Path.start_within d name (Nat.le_refl _), Path.start, List.take_length] at reached
    exact reached

/-- Where one file of a directory can be reached, so can another one whose name is as long. -/
theorem obstacle?_within_of_size {a b : String} (clear : t.obstacle? (d.within a) = none)
    (plain : IsFileName b) (size : b.utf8ByteSize = a.utf8ByteSize) :
    t.obstacle? (d.within b) = none := by
  obtain ⟨possible, through⟩ := obstacle?_eq_none_iff.1 clear
  have length (name : String) : (d.within name).names.length = d.names.length + 1 := by
    simp only [Path.within, List.length_append, List.length_singleton]
  refine obstacle?_eq_none_iff.2 ⟨?_, fun place inside => ?_⟩
  · refine (textFault?_within possible plain).resolve_right fun long => ?_
    obtain ⟨start, shown⟩ := Path.toString_within d
    -- the null character is no fault of either path, and their texts are equally long
    have same : Path.isTextTooLong (d.within b).toString
        = Path.isTextTooLong (d.within a).toString := by
      simp only [Path.isTextTooLong, shown, String.utf8ByteSize_append, size]
    unfold Path.textFault? at long possible
    split at possible
    · cases possible
    · split at possible
      · cases possible
      · rename_i short
        split at long
        · cases long
        · rw [if_neg (same ▸ short)] at long
          cases long
  · rw [length] at inside
    obtain ⟨reached, short⟩ := through place (by rw [length]; exact inside)
    have upTo : place ≤ d.names.length := Nat.le_of_lt_succ inside
    rw [Path.start_within d a upTo] at reached
    rw [Path.start_within d b upTo]
    refine ⟨reached, ?_⟩
    rcases Nat.lt_or_eq_of_le upTo with before | rfl
    · rw [Path.within, List.getElem?_append_left before] at short ⊢
      exact short
    · simpa [Path.within, Path.isNameTooLong, size] using short

theorem isDirectory_of_mem_parents (clear : t.obstacle? p = none) {q : Path}
    (member : q ∈ p.parents) : t.isDirectory q = true := by
  obtain ⟨place, inside, rfl⟩ := List.mem_map.1 member
  exact ((obstacle?_eq_none_iff.1 clear).2 place (List.mem_range.1 inside)).1

/-- Where something is missing, and nothing else is at fault, there is neither a file nor a
directory. -/
theorem absent_of_find (clear : t.obstacle? p = none) (missing : t.find p = .error .missing) :
    t.content? p.folded = none ∧ t.isDirectory p.folded = false := by
  simp only [find, clear] at missing
  cases found : t.content? p.folded with
  | some bytes =>
      rw [found] at missing
      cases missing
  | none =>
      rw [found] at missing
      cases directory : t.isDirectory p.folded with
      | true =>
          rw [directory] at missing
          cases missing
      | false => exact ⟨rfl, rfl⟩

/-! ## Sound files -/

/-- Each file holds a text, and none is where a directory is. -/
structure Sound (t : FileTree) : Prop where
  text : ∀ q bytes, t.content? q = some bytes → ∃ text, bytes = Utf8.encode text
  apart : ∀ q bytes, t.content? q = some bytes → t.isDirectory q = false

theorem sound_empty : ({} : FileTree).Sound where
  text _ _ there := nomatch there
  apart _ _ there := nomatch there

namespace Sound

theorem makeDirectory (sound : t.Sound) (made : t.makeDirectory p = .ok after) : after.Sound := by
  unfold FileTree.makeDirectory at made
  split at made
  · cases made
  · rename_i missing
    split at made
    · rename_i clear
      cases made
      rw [Option.isNone_iff_eq_none] at clear
      refine ⟨sound.text, fun q bytes there => ?_⟩
      have nowhere := sound.apart q bytes there
      by_contra directory
      simp only [FileTree.withDirectory, isDirectory, Bool.not_eq_false, Bool.or_eq_true,
        List.contains_iff_mem, List.cons_append, List.mem_cons, List.mem_append] at directory
      rcases directory with top | rfl | parent | old
      · simp [isDirectory, top] at nowhere
      · cases (absent_of_find clear missing).1.symm.trans there
      · cases nowhere.symm.trans (isDirectory_of_mem_parents clear parent)
      · simp [isDirectory, old] at nowhere
    · cases made
  · cases made

theorem ensureDirectory (sound : t.Sound) (made : t.ensureDirectory p = .ok after) :
    after.Sound := by
  unfold FileTree.ensureDirectory at made
  split at made
  · cases made
    exact sound.makeDirectory ‹_›
  · split at made
    · cases made
      exact sound
    · cases made

theorem makeDirectoriesFrom (sound : t.Sound) (fuel : Nat) (p : Path) :
    (t.makeDirectoriesFrom fuel p).1.Sound := by
  induction fuel generalizing p with
  | zero =>
      unfold FileTree.makeDirectoriesFrom
      split
      · exact sound.ensureDirectory ‹_›
      · exact sound
      · exact sound
  | succ fuel ih =>
      have above := ih p.parent
      unfold FileTree.makeDirectoriesFrom
      split
      · exact sound.ensureDirectory ‹_›
      · dsimp only
        cases made : t.makeDirectoriesFrom fuel p.parent with
        | mk mid fault =>
            rw [made] at above
            cases fault with
            | some fault => exact above
            | none =>
                dsimp only
                split
                · exact above.ensureDirectory ‹_›
                · exact above
      · exact sound

/-- A text is written where no directory is. -/
theorem write (sound : t.Sound) (free : t.writeFault? p = none) (text : String) :
    (t.write p (Utf8.encode text)).Sound := by
  have clear := obstacle?_of_writeFault? free
  have nowhere : t.isDirectory p.folded = false := by
    unfold writeFault? at free
    split at free
    · rename_i bytes found
      simp only [find, clear] at found
      cases there : t.content? p.folded with
      | some bytes => exact sound.apart _ _ there
      | none =>
          rw [there] at found
          dsimp only at found
          split at found <;> cases found
    · cases free
    · exact (absent_of_find clear ‹_›).2
    · cases free
  have same (q : Path) : (t.write p (Utf8.encode text)).isDirectory q = t.isDirectory q := by
    rw [Bool.eq_iff_iff]
    constructor
    · intro found
      simp only [FileTree.write, isDirectory, Bool.or_eq_true, List.contains_iff_mem,
        List.mem_append] at found
      rcases found with top | parent | old
      · simp [isDirectory, top]
      · exact isDirectory_of_mem_parents clear parent
      · simp [isDirectory, old]
    · exact isDirectory_of_subset (List.subset_append_right _ _)
  constructor
  · intro q bytes there
    by_cases here : q = p.folded
    · rw [here, content?_write_self, Option.some.injEq] at there
      exact ⟨text, there.symm⟩
    · rw [content?_write_of_ne t _ here] at there
      exact sound.text q bytes there
  · intro q bytes there
    rw [same]
    by_cases here : q = p.folded
    · rw [here]
      exact nowhere
    · rw [content?_write_of_ne t _ here] at there
      exact sound.apart q bytes there

theorem writeText (sound : t.Sound) (p : Path) (text : String) :
    (t.writeText p text).1.Sound := by
  have made := sound.makeDirectoriesFrom p.parent.names.length p.parent
  unfold FileTree.writeText makeDirectories
  cases found : t.makeDirectoriesFrom p.parent.names.length p.parent with
  | mk mid fault =>
      rw [found] at made
      cases fault with
      | some fault => exact made
      | none =>
          dsimp only
          cases free : mid.writeFault? p with
          | some fault => exact made
          | none => exact made.write free text

theorem eraseIfThere (sound : t.Sound) (p : Path) : (t.eraseIfThere p).1.Sound := by
  have directories := (eraseIfThere_cases t p).1
  constructor
  · intro q bytes there
    exact sound.text q bytes (content?_of_eraseIfThere there)
  · intro q bytes there
    have apart := sound.apart q bytes (content?_of_eraseIfThere there)
    rwa [isDirectory, ← directories] at apart

/-- **Comparisons keep files sound.** -/
theorem compare (sound : t.Sound) (location : Location) (update : Bool) (record : Record) :
    (t.compare location update record).1.Sound := by
  rcases compare_forms t location update record with ⟨-, compared⟩ | ⟨-, how, compared⟩ |
    ⟨failure, compared⟩
  · rw [compared]
    exact sound.eraseIfThere _
  · rw [compared]
    exact sound.writeText _ _
  · rw [compared]
    exact sound

theorem checkAll (sound : t.Sound) (location : Location) (update : Bool)
    (records : List Record) : (t.checkAll location update none records).1.Sound := by
  induction records generalizing t with
  | nil => exact sound
  | cons record rest ih =>
      have first := sound.compare location update record
      cases compared : t.compare location update record with
      | mk mid result =>
          rw [compared] at first
          cases result with
          | error failure =>
              rw [checkAll_cons_of_error compared]
              exact first
          | ok _ =>
              rw [checkAll_cons_of_ok compared]
              exact ih first

/-! ## Writing a file that is there -/

/-- A directory with a file in it need not be made. -/
theorem makeDirectories_of_within (sound : t.Sound) {name : String}
    (clear : t.obstacle? (d.within name) = none) : t.makeDirectories d = (t, none) := by
  obtain ⟨reached, directory⟩ := obstacle?_of_within clear
  have found : t.find d = .ok .directory := by
    simp only [find, reached]
    cases there : t.content? d.folded with
    | some bytes => cases directory.symm.trans (sound.apart _ _ there)
    | none => simp only [directory, if_true]
  have ensured : t.ensureDirectory d = .ok t := by
    simp only [FileTree.ensureDirectory, FileTree.makeDirectory, found, hasDirectory, if_true]
  unfold makeDirectories
  cases d.names.length <;> simp only [FileTree.makeDirectoriesFrom, ensured]

/-- A file that is there and can be reached can be written. -/
theorem writeText_of_file (sound : t.Sound) {name : String} {bytes : Bytes}
    (clear : t.obstacle? (d.within name) = none)
    (there : t.content? (d.within name).folded = some bytes) (text : String) :
    (t.writeText (d.within name) text).2 = .ok () := by
  have parent : (d.within name).parent = d := by
    simp only [Path.parent, Path.within, List.dropLast_concat]
  have free : t.writeFault? (d.within name) = none := by
    simp only [writeFault?, find, clear, there]
  simp only [FileTree.writeText, parent, sound.makeDirectories_of_within clear, free]

end Sound

/-- A fixture that is there and can be reached is compared with the text that it holds. -/
theorem finding_of_file {path : Path} {stored : String} (clear : t.obstacle? path = none)
    (there : t.content? path.folded = some (Utf8.encode stored)) (text : String) :
    t.finding path text = if stored = text then .same else .different stored := by
  simp only [finding, has, readText, readFile, find, clear, there, Utf8.decode_encode,
    mapError_ok]

/-- **A fixture that is there and can be reached** has the text of a comparison in update mode
afterwards, whether the comparison passes or not. -/
theorem holds_compare_update_of_file (sound : t.Sound) {location : Location} {record : Record}
    {bytes : Bytes} (clear : t.obstacle? (location.fixturePath record.name) = none)
    (there : t.content? (location.fixturePath record.name).folded = some bytes) :
    (t.compare location true record).1.Holds (location.fixturePath record.name)
      record.content := by
  obtain ⟨stored, rfl⟩ := sound.text _ _ there
  have found := finding_of_file clear there record.content
  by_cases same : stored = record.content
  · rw [if_pos same] at found
    rw [compare_of_same found]
    have others := (eraseIfThere_cases t (location.fixturePath record.name).pending).2.2
    exact (finding_eq_same_iff.1 found).2.of_content?
      (others _ (location.fixture_ne_pending location _ _))
  · rw [if_neg same] at found
    obtain ⟨how, compared⟩ := compare_of_differs true (.inr ⟨stored, found⟩)
    rw [compared]
    obtain ⟨directory, stem, -, path⟩ := location.exists_within_fixturePath record.name
    rw [path] at clear there ⊢
    exact (holds_of_writeText (sound.writeText_of_file clear there record.content)).2

end FileTree

end IndexSnapshot
