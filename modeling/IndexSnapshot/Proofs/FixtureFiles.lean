/-
# IndexSnapshot.Proofs.FixtureFiles -- which files a comparison reads and changes

A comparison changes no other file than its fixture and its pending file, and the fixture
only in update mode.  Whether it passes in check mode depends on what its fixture holds,
and otherwise only on faults of paths.

* `obstacle?_within`: where one file of a directory can be reached, so can the others, but
  for the length of their names.
* `FileTree.Holds`: the text that a fixture keeps.
* `compare_forms`, `holds_of_update`, `passes_of_holds`: one comparison.
* `content?_checkAll`, `holds_of_checkAll_update`, `holds_of_checkAll_check` and
  `checkAll_of_holds`: the comparisons of all records of a snapshot.
-/
import IndexSnapshot.Proofs.Actions
import IndexSnapshot.Proofs.FixturePaths

namespace IndexSnapshot

set_option autoImplicit false

namespace FileTree

/-! ## Reaching a file -/

theorem isDirectory_of_subset {t after : FileTree} (grows : t.directories ⊆ after.directories)
    {p : Path} (found : t.isDirectory p = true) : after.isDirectory p = true := by
  simp only [isDirectory, Bool.or_eq_true, List.contains_iff_mem] at found ⊢
  exact found.imp_right fun member => grows member

/-- Nothing is in the way of a path if its text and names are possible and all that it goes
through is a directory. -/
theorem obstacle?_eq_none_iff {t : FileTree} {p : Path} :
    t.obstacle? p = none ↔ Path.textFault? p.toString = none ∧
      ∀ place < p.names.length, t.isDirectory (p.start place) = true ∧
        p.names[place]?.any Path.isNameTooLong = false := by
  have clear (place : Nat) : t.obstacleAt? p place = none ↔
      t.isDirectory (p.start place) = true ∧
        p.names[place]?.any Path.isNameTooLong = false := by
    unfold obstacleAt?
    cases t.isDirectory (p.start place) with
    | true => cases p.names[place]?.any Path.isNameTooLong <;> simp
    | false => cases (t.content? (p.start place)).isSome <;> simp
  cases fault : Path.textFault? p.toString with
  | some found => simp [obstacle?, fault]
  | none =>
      simp only [obstacle?, fault, List.findSome?_eq_none_iff, List.mem_range, clear, true_and]

/-- Directories that are made put nothing in the way. -/
theorem obstacle?_of_subset {t after : FileTree} (grows : t.directories ⊆ after.directories)
    {p : Path} (clear : t.obstacle? p = none) : after.obstacle? p = none := by
  rw [obstacle?_eq_none_iff] at clear ⊢
  exact ⟨clear.1, fun place h =>
    ⟨isDirectory_of_subset grows (clear.2 place h).1, (clear.2 place h).2⟩⟩

/-- If one file of a directory has a possible path, so do the others, but for its length. -/
theorem textFault?_within {d : Path} {a b : String}
    (possible : Path.textFault? (d.within a).toString = none) (plain : IsFileName b) :
    Path.textFault? (d.within b).toString = none ∨
      Path.textFault? (d.within b).toString = some .nameTooLong := by
  obtain ⟨start, shown⟩ := Path.toString_within d
  have free : Char.ofNat 0 ∉ (d.within a).toString.toList := by
    intro null
    rw [Path.textFault?, if_pos (List.contains_iff_mem.2 null)] at possible
    cases possible
  have noNull : Char.ofNat 0 ∉ (d.within b).toString.toList := by
    rw [shown, String.toList_append, List.mem_append, not_or] at free ⊢
    exact ⟨free.1, plain.2⟩
  rw [Path.textFault?, if_neg (mt List.contains_iff_mem.1 noNull)]
  by_cases long : Path.isTextTooLong (d.within b).toString = true
  · exact .inr (if_pos long)
  · exact .inl (if_neg long)

/-- Where one file of a directory can be reached, others can, if their names are not too
long. -/
theorem obstacle?_within {t : FileTree} {d : Path} {a b : String}
    (clear : t.obstacle? (d.within a) = none) (plain : IsFileName b) :
    t.obstacle? (d.within b) = none ∨ t.obstacle? (d.within b) = some .nameTooLong := by
  rw [obstacle?_eq_none_iff] at clear
  obtain ⟨possible, through⟩ := clear
  have length (name : String) : (d.within name).names.length = d.names.length + 1 := by
    simp only [Path.within, List.length_append, List.length_singleton]
  rcases textFault?_within possible plain with fine | fault
  · cases found : t.obstacle? (d.within b) with
    | none => exact .inl rfl
    | some fault =>
        right
        simp only [obstacle?, fine] at found
        obtain ⟨place, member, found⟩ := List.exists_of_findSome?_eq_some found
        rw [List.mem_range, length] at member
        have inside : place ≤ d.names.length := Nat.le_of_lt_succ member
        have reached := (through place (by rw [length]; exact member)).1
        -- both paths go through the same directories, so only the name can be at fault
        rw [Path.start_within d a inside] at reached
        rw [obstacleAt?, Path.start_within d b inside, if_pos reached] at found
        split at found
        · exact found.symm
        · cases found
  · right
    rw [obstacle?, fault]

/-! ## Writing a file -/

theorem ensureDirectory_grows {t after : FileTree} {p : Path}
    (made : t.ensureDirectory p = .ok after) :
    after.files = t.files ∧ t.directories ⊆ after.directories := by
  unfold ensureDirectory at made
  split at made
  · rename_i found
    unfold makeDirectory at found
    split at found
    · cases found
    · split at found
      · cases found
        cases made
        exact ⟨rfl, List.subset_append_right _ _⟩
      · cases found
    · cases found
  · split at made
    · cases made
      exact ⟨rfl, List.Subset.refl _⟩
    · cases made

theorem makeDirectoriesFrom_grows (t : FileTree) (fuel : Nat) (p : Path) :
    (t.makeDirectoriesFrom fuel p).1.files = t.files ∧
      t.directories ⊆ (t.makeDirectoriesFrom fuel p).1.directories := by
  induction fuel generalizing p with
  | zero =>
      unfold makeDirectoriesFrom
      split
      · exact ensureDirectory_grows ‹_›
      · exact ⟨rfl, List.Subset.refl _⟩
      · exact ⟨rfl, List.Subset.refl _⟩
  | succ fuel ih =>
      have above := ih p.parent
      unfold makeDirectoriesFrom
      split
      · exact ensureDirectory_grows ‹_›
      · dsimp only
        cases made : t.makeDirectoriesFrom fuel p.parent with
        | mk after fault =>
            rw [made] at above
            cases fault with
            | some fault => exact above
            | none =>
                dsimp only
                split
                · have last := ensureDirectory_grows ‹_›
                  exact ⟨last.1.trans above.1, List.Subset.trans above.2 last.2⟩
                · exact above
      · exact ⟨rfl, List.Subset.refl _⟩

/-- Making directories changes no file and takes no directory away. -/
theorem makeDirectories_grows (t : FileTree) (p : Path) :
    (t.makeDirectories p).1.files = t.files ∧
      t.directories ⊆ (t.makeDirectories p).1.directories :=
  makeDirectoriesFrom_grows t _ p

/-- A file that can be written can be reached. -/
theorem obstacle?_of_writeFault? {t : FileTree} {p : Path} (free : t.writeFault? p = none) :
    t.obstacle? p = none := by
  cases fault : t.obstacle? p with
  | none => rfl
  | some f =>
      simp only [writeFault?, find, fault] at free
      cases f <;> simp at free

/-- Writing a text either succeeds, and then the file can be reached and has the text; or it
is a path that is at fault, and no file changes. -/
theorem writeText_cases (t : FileTree) (p : Path) (text : String) :
    t.directories ⊆ (t.writeText p text).1.directories ∧
      (((t.writeText p text).2 = .ok () ∧ (t.writeText p text).1.obstacle? p = none ∧
          (t.writeText p text).1.files = t.files.put p.folded (Utf8.encode text)) ∨
        ((∃ fault path, (t.writeText p text).2 = .error (.file fault path)) ∧
          (t.writeText p text).1.files = t.files)) := by
  have grows := makeDirectories_grows t p.parent
  unfold writeText
  cases made : t.makeDirectories p.parent with
  | mk after fault =>
      rw [made] at grows
      cases fault with
      | some fault => exact ⟨grows.2, .inr ⟨⟨_, _, rfl⟩, grows.1⟩⟩
      | none =>
          dsimp only
          cases fault : after.writeFault? p with
          | some fault => exact ⟨grows.2, .inr ⟨⟨_, _, rfl⟩, grows.1⟩⟩
          | none =>
              have more : after.directories ⊆ (after.write p (Utf8.encode text)).directories :=
                List.subset_append_right _ _
              refine ⟨List.Subset.trans grows.2 more, .inl ⟨rfl, ?_, ?_⟩⟩
              · exact obstacle?_of_subset more (obstacle?_of_writeFault? fault)
              · exact congrArg (Entries.put · p.folded (Utf8.encode text)) grows.1

/-- Taking a file away changes no other file and no directory. -/
theorem eraseIfThere_cases (t : FileTree) (p : Path) :
    (t.eraseIfThere p).1.directories = t.directories ∧
      ((t.eraseIfThere p).2 = .ok () ∨
        ∃ fault path, (t.eraseIfThere p).2 = .error (.file fault path)) ∧
      ∀ q, q ≠ p.folded → (t.eraseIfThere p).1.content? q = t.content? q := by
  unfold eraseIfThere
  split
  · exact ⟨rfl, .inr ⟨_, _, rfl⟩, fun _ _ => rfl⟩
  · exact ⟨rfl, .inl rfl, fun _ _ => rfl⟩
  · split
    · exact ⟨rfl, .inr ⟨_, _, rfl⟩, fun _ _ => rfl⟩
    · exact ⟨rfl, .inl rfl, fun q ne => content?_erase_of_ne t ne⟩

/-! ## What a fixture keeps -/

/-- There is a file for a path, and this is its text. -/
def Holds (t : FileTree) (path : Path) (text : String) : Prop :=
  ∃ bytes, t.content? path.folded = some bytes ∧ Utf8.decode bytes = .ok text

theorem Holds.of_content? {t after : FileTree} {path : Path} {text : String}
    (holds : t.Holds path text)
    (same : after.content? path.folded = t.content? path.folded) : after.Holds path text := by
  obtain ⟨bytes, found, decoded⟩ := holds
  exact ⟨bytes, same.trans found, decoded⟩

theorem holds_iff_of_content? {t after : FileTree} {path : Path} {text : String}
    (same : after.content? path.folded = t.content? path.folded) :
    after.Holds path text ↔ t.Holds path text :=
  ⟨fun holds => holds.of_content? same.symm, fun holds => holds.of_content? same⟩

/-- A file has one text. -/
theorem Holds.unique {t : FileTree} {path : Path} {a b : String} (ha : t.Holds path a)
    (hb : t.Holds path b) : a = b := by
  obtain ⟨bytes, found, decoded⟩ := ha
  obtain ⟨other, found', decoded'⟩ := hb
  obtain rfl := Option.some.inj (found.symm.trans found')
  exact Except.ok.inj (decoded.symm.trans decoded')

theorem holds_of_content?_encode {t : FileTree} {path : Path} {text : String}
    (found : t.content? path.folded = some (Utf8.encode text)) : t.Holds path text :=
  ⟨_, found, Utf8.decode_encode text⟩

/-- Writing a text changes no other file. -/
theorem content?_writeText (t : FileTree) (p : Path) (text : String) (q : Path) :
    (t.writeText p text).1.content? q = t.content? q ∨
      (q = p.folded ∧ (t.writeText p text).1.content? q = some (Utf8.encode text)) := by
  obtain ⟨-, ⟨-, -, files⟩ | ⟨-, files⟩⟩ := writeText_cases t p text
  · simp only [content?, files]
    by_cases same : q = p.folded
    · exact .inr ⟨same, same ▸ Entries.get?_put_self ..⟩
    · exact .inl (Entries.get?_put_of_ne _ _ same)
  · exact .inl (congrArg (Entries.get? · q) files)

theorem holds_of_writeText {t : FileTree} {p : Path} {text : String}
    (written : (t.writeText p text).2 = .ok ()) :
    (t.writeText p text).1.obstacle? p = none ∧ (t.writeText p text).1.Holds p text := by
  obtain ⟨-, ⟨-, clear, files⟩ | ⟨⟨fault, path, failed⟩, -⟩⟩ := writeText_cases t p text
  · refine ⟨clear, holds_of_content?_encode ?_⟩
    rw [content?, files]
    exact Entries.get?_put_self ..
  · rw [failed] at written
    cases written

/-- A text is the same as its fixture if the fixture can be reached and keeps it. -/
theorem finding_eq_same_iff {t : FileTree} {path : Path} {text : String} :
    t.finding path text = .same ↔ t.obstacle? path = none ∧ t.Holds path text := by
  unfold finding has readText readFile find
  cases t.obstacle? path with
  | some fault => cases fault <;> simp
  | none =>
      cases found : t.content? path.folded with
      | none => cases directory : t.isDirectory path.folded <;> simp [Holds, found]
      | some bytes =>
          cases decoded : Utf8.decode bytes with
          | error flaw => simp [Holds, found, decoded]
          | ok stored =>
              simp only [mapError_ok, Holds, found, decoded, Option.some.injEq, true_and,
                exists_eq_left', Except.ok.injEq]
              split <;> simp_all

/-- A fixture that cannot be read is at fault, or holds no text. -/
theorem finding_unreadable {t : FileTree} {path : Path} {text : String} {failure : Failure}
    (unreadable : t.finding path text = .unreadable failure) :
    (∃ fault place, failure = .file fault place) ∨ ∃ flaw, failure = .notText flaw := by
  unfold finding at unreadable
  split at unreadable
  · cases unreadable
    exact .inl ⟨_, _, rfl⟩
  · cases unreadable
  · split at unreadable
    · rename_i stopped
      cases unreadable
      unfold readText at stopped
      split at stopped
      · cases stopped
        exact .inl ⟨_, _, rfl⟩
      · rename_i bytes _
        cases decoded : Utf8.decode bytes with
        | ok stored =>
            rw [decoded] at stopped
            cases stopped
        | error flaw =>
            rw [decoded] at stopped
            cases stopped
            exact .inr ⟨flaw, rfl⟩
    · split at unreadable <;> cases unreadable

/-- A path that is too long for its fixture is at fault. -/
theorem finding_of_nameTooLong {t : FileTree} {path : Path} {text : String}
    (long : t.obstacle? path = some .nameTooLong) :
    t.finding path text = .unreadable (.file .nameTooLong path.toString) := by
  simp only [finding, has, find, long]

/-! ## One comparison -/

variable {location : Location}

/-- A text that does not match is written, and then the comparison passes in update mode and no
other. -/
theorem compare_of_differs {t : FileTree} {record : Record} (update : Bool)
    (differs : t.finding (location.fixturePath record.name) record.content = .missing ∨
      ∃ stored, t.finding (location.fixturePath record.name) record.content
        = .different stored) :
    let target := if update then location.fixturePath record.name
      else (location.fixturePath record.name).pending
    ∃ how, t.compare location update record
      = ((t.writeText target record.content).1,
        (t.writeText target record.content).2.bind fun _ =>
          if update then .ok () else .error (.mismatch record.name how)) := by
  unfold compare
  dsimp only
  rcases differs with missing | ⟨stored, different⟩
  · rw [missing]
    exact ⟨_, rfl⟩
  · rw [different]
    exact ⟨_, rfl⟩

/-- A text that is the same takes the pending file away. -/
theorem compare_of_same {t : FileTree} {update : Bool} {record : Record}
    (same : t.finding (location.fixturePath record.name) record.content = .same) :
    t.compare location update record
      = t.eraseIfThere (location.fixturePath record.name).pending := by
  unfold compare
  dsimp only
  rw [same]
  dsimp only [Finding.settle, Finding.result]
  cases t.eraseIfThere (location.fixturePath record.name).pending with
  | mk after result => cases result <;> rfl

theorem compare_of_unreadable {t : FileTree} {update : Bool} {record : Record} {failure : Failure}
    (found : t.finding (location.fixturePath record.name) record.content = .unreadable failure) :
    t.compare location update record = (t, .error failure) := by
  unfold compare
  dsimp only
  rw [found]
  rfl

/-- How a comparison goes: the text is the same and the pending file is taken away, or it is
another one and is written, or the fixture cannot be read and nothing is changed. -/
theorem compare_forms (t : FileTree) (location : Location) (update : Bool) (record : Record) :
    (t.finding (location.fixturePath record.name) record.content = .same ∧
      t.compare location update record
        = t.eraseIfThere (location.fixturePath record.name).pending) ∨
    (t.finding (location.fixturePath record.name) record.content ≠ .same ∧
      ∃ how, t.compare location update record
        = ((t.writeText (if update then location.fixturePath record.name
              else (location.fixturePath record.name).pending) record.content).1,
          (t.writeText (if update then location.fixturePath record.name
              else (location.fixturePath record.name).pending) record.content).2.bind fun _ =>
            if update then .ok () else .error (.mismatch record.name how))) ∨
    ∃ failure, t.compare location update record = (t, .error failure) := by
  cases found : t.finding (location.fixturePath record.name) record.content with
  | same => exact .inl ⟨rfl, compare_of_same found⟩
  | missing => exact .inr (.inl ⟨nofun, compare_of_differs update (.inl found)⟩)
  | different stored => exact .inr (.inl ⟨nofun, compare_of_differs update (.inr ⟨stored, found⟩)⟩)
  | unreadable failure => exact .inr (.inr ⟨failure, compare_of_unreadable found⟩)

/-- A comparison changes only its pending file and, in update mode, its fixture, which then
has the text of the record. -/
theorem compare_cases (t : FileTree) (location : Location) (update : Bool) (record : Record) :
    t.directories ⊆ (t.compare location update record).1.directories ∧
      ∀ q, (t.compare location update record).1.content? q = t.content? q ∨
        q = (location.fixturePath record.name).pending.folded ∨
        (update = true ∧ q = (location.fixturePath record.name).folded ∧
          (t.compare location update record).1.content? q
            = some (Utf8.encode record.content)) := by
  unfold compare
  generalize location.fixturePath record.name = path
  have grows := (writeText_cases t (if update then path else path.pending) record.content).1
  have written (q : Path) :
      let after := (t.writeText (if update then path else path.pending) record.content).1
      after.content? q = t.content? q ∨ q = path.pending.folded ∨
        (update = true ∧ q = path.folded ∧
          after.content? q = some (Utf8.encode record.content)) := by
    rcases content?_writeText t (if update then path else path.pending) record.content q with
      kept | ⟨rfl, new⟩
    · exact .inl kept
    · cases update with
      | false => exact .inr (.inl rfl)
      | true => exact .inr (.inr ⟨rfl, rfl, new⟩)
  dsimp only
  cases t.finding path record.content with
  | missing => exact ⟨grows, written⟩
  | different stored => exact ⟨grows, written⟩
  | unreadable failure => exact ⟨List.Subset.refl _, fun q => .inl rfl⟩
  | same =>
      obtain ⟨directories, -, others⟩ := eraseIfThere_cases t path.pending
      refine ⟨fun p member => directories.symm ▸ member, fun q => ?_⟩
      by_cases pending : q = path.pending.folded
      · exact .inr (.inl pending)
      · exact .inl (others q pending)

/-- No fixture changes in check mode. -/
theorem content?_compare_check (t : FileTree) (location : Location) {record : Record}
    (plain : IsFileName record.name) {name : String} (named : IsFileName name) :
    (t.compare location false record).1.content? (location.fixturePath name).folded
      = t.content? (location.fixturePath name).folded := by
  rcases (compare_cases t location false record).2 (location.fixturePath name).folded with
    kept | pending | ⟨updating, -⟩
  · exact kept
  · exact absurd pending (location.folded_fixturePath_ne_pending named plain)
  · cases updating

/-- A record that passes in update mode is what its fixture keeps afterwards. -/
theorem holds_of_update {t : FileTree} {record : Record} (plain : IsFileName record.name)
    (passed : (t.compare location true record).2 = .ok ()) :
    (t.compare location true record).1.obstacle? (location.fixturePath record.name) = none ∧
      (t.compare location true record).1.Holds (location.fixturePath record.name)
        record.content := by
  have apart := location.folded_fixturePath_ne_pending plain plain
  unfold compare at passed ⊢
  generalize location.fixturePath record.name = path at passed apart ⊢
  have ok_of_bind {result : Except Failure Unit} {next : Unit → Except Failure Unit}
      (ok : result.bind next = .ok ()) : result = .ok () := by
    cases result with
    | ok _ => rfl
    | error failure => cases ok
  dsimp only at passed ⊢
  cases found : t.finding path record.content with
  | missing => exact holds_of_writeText (ok_of_bind (found ▸ passed))
  | different stored => exact holds_of_writeText (ok_of_bind (found ▸ passed))
  | unreadable failure =>
      rw [found] at passed
      cases passed
  | same =>
      obtain ⟨clear, holds⟩ := finding_eq_same_iff.1 found
      obtain ⟨directories, -, others⟩ := eraseIfThere_cases t path.pending
      refine ⟨obstacle?_of_subset (fun p member => directories.symm ▸ member) clear, ?_⟩
      exact holds.of_content? (others _ apart)

theorem bind_error_ne_ok {result : Except Failure Unit} {failure : Failure} :
    result.bind (fun _ => .error failure) ≠ .ok () := by
  cases result <;> exact fun ok => by cases ok

/-- A record that passes in check mode is what its fixture keeps. -/
theorem holds_of_check {t : FileTree} {record : Record}
    (passed : (t.compare location false record).2 = .ok ()) :
    t.Holds (location.fixturePath record.name) record.content := by
  unfold compare at passed
  dsimp only at passed
  cases found : t.finding (location.fixturePath record.name) record.content with
  | missing => exact absurd (found ▸ passed) bind_error_ne_ok
  | different stored => exact absurd (found ▸ passed) bind_error_ne_ok
  | unreadable failure => exact absurd (found ▸ passed) bind_error_ne_ok
  | same => exact (finding_eq_same_iff.1 found).2

/-- A record that its fixture keeps passes in check mode, unless a path is at fault. -/
theorem passes_of_holds {t : FileTree} {record : Record}
    (holds : t.Holds (location.fixturePath record.name) record.content)
    (reached : t.obstacle? (location.fixturePath record.name) = none ∨
      t.obstacle? (location.fixturePath record.name) = some .nameTooLong) :
    (t.compare location false record).2 = .ok () ∨
      ∃ fault path, (t.compare location false record).2 = .error (.file fault path) := by
  unfold compare
  dsimp only
  rcases reached with clear | long
  · rw [finding_eq_same_iff.2 ⟨clear, holds⟩]
    obtain ⟨-, erased | ⟨fault, path, failed⟩, -⟩ :=
      eraseIfThere_cases t (location.fixturePath record.name).pending
    · exact .inl (congrArg (Except.bind · fun _ => .ok ()) erased)
    · exact .inr ⟨fault, path, congrArg (Except.bind · fun _ => .ok ()) failed⟩
  · rw [finding_of_nameTooLong long]
    exact .inr ⟨_, _, rfl⟩

/-! ## All records of a snapshot -/

theorem checkAll_cons_of_ok {t mid : FileTree} {update : Bool} {record : Record}
    (compared : t.compare location update record = (mid, .ok ())) (rest : List Record) :
    t.checkAll location update none (record :: rest)
      = mid.checkAll location update none rest := by
  simp only [checkAll, check, compared]

theorem checkAll_cons_of_error {t mid : FileTree} {update : Bool} {record : Record}
    {failure : Failure} (compared : t.compare location update record = (mid, .error failure))
    (rest : List Record) :
    t.checkAll location update none (record :: rest) = (mid, .error failure) := by
  simp only [checkAll, check, compared]

/-- If all records pass, the first one does. -/
theorem compare_of_checkAll_cons {t : FileTree} {update : Bool} {record : Record}
    {rest : List Record}
    (passed : (t.checkAll location update none (record :: rest)).2 = .ok ()) :
    ∃ mid, t.compare location update record = (mid, .ok ()) := by
  cases compared : t.compare location update record with
  | mk mid result =>
      cases result with
      | ok _ => exact ⟨mid, rfl⟩
      | error failure =>
          rw [checkAll_cons_of_error compared] at passed
          cases passed

/-- Only pending files change and, in update mode, fixtures, which then have the text of
their record. -/
theorem checkAll_cases (t : FileTree) (update : Bool) (records : List Record) :
    t.directories ⊆ (t.checkAll location update none records).1.directories ∧
      ∀ q, (t.checkAll location update none records).1.content? q = t.content? q ∨
        (∃ record ∈ records, q = (location.fixturePath record.name).pending.folded) ∨
        (update = true ∧ ∃ record ∈ records, q = (location.fixturePath record.name).folded ∧
          (t.checkAll location update none records).1.content? q
            = some (Utf8.encode record.content)) := by
  induction records generalizing t with
  | nil => exact ⟨List.Subset.refl _, fun q => .inl rfl⟩
  | cons record rest ih =>
      obtain ⟨grows, changes⟩ := compare_cases t location update record
      have first (q : Path) (final : FileTree)
          (kept : final.content? q = (t.compare location update record).1.content? q) :
          final.content? q = t.content? q ∨
          (∃ other ∈ record :: rest, q = (location.fixturePath other.name).pending.folded) ∨
          (update = true ∧ ∃ other ∈ record :: rest,
            q = (location.fixturePath other.name).folded ∧
              final.content? q = some (Utf8.encode other.content)) := by
        rcases changes q with same | pending | ⟨updating, fixture, new⟩
        · exact .inl (kept.trans same)
        · exact .inr (.inl ⟨record, List.mem_cons_self, pending⟩)
        · exact .inr (.inr ⟨updating, record, List.mem_cons_self, fixture, kept.trans new⟩)
      cases compared : t.compare location update record with
      | mk mid result =>
          rw [compared] at grows first
          cases result with
          | error failure =>
              rw [checkAll_cons_of_error compared]
              exact ⟨grows, fun q => first q mid rfl⟩
          | ok _ =>
              rw [checkAll_cons_of_ok compared]
              refine ⟨List.Subset.trans grows (ih mid).1, fun q => ?_⟩
              rcases (ih mid).2 q with kept | ⟨other, member, pending⟩ |
                ⟨updating, other, member, fixture, new⟩
              · exact first q _ kept
              · exact .inr (.inl ⟨other, List.mem_cons_of_mem _ member, pending⟩)
              · exact .inr (.inr ⟨updating, other, List.mem_cons_of_mem _ member, fixture, new⟩)

/-- A fixture stays as it is in check mode, and in update mode if no record has its name. -/
theorem content?_checkAll {t : FileTree} {update : Bool} {records : List Record}
    (plain : ∀ record ∈ records, IsFileName record.name) {name : String}
    (named : IsFileName name)
    (other : update = true → name ∉ records.map Record.name) :
    (t.checkAll location update none records).1.content? (location.fixturePath name).folded
      = t.content? (location.fixturePath name).folded := by
  rcases (checkAll_cases t update records).2 (location.fixturePath name).folded with
    kept | ⟨record, member, pending⟩ | ⟨updating, record, member, fixture, -⟩
  · exact kept
  · exact absurd pending (location.folded_fixturePath_ne_pending named (plain record member))
  · rw [location.folded_fixturePath_inj named (plain record member)] at fixture
    exact absurd (fixture ▸ List.mem_map_of_mem member) (other updating)

/-- **Records that pass in update mode** are what their fixtures keep afterwards. -/
theorem holds_of_checkAll_update {t : FileTree} {records : List Record}
    (plain : ∀ record ∈ records, IsFileName record.name)
    (distinct : (records.map Record.name).Nodup)
    (passed : (t.checkAll location true none records).2 = .ok ()) :
    ∀ record ∈ records,
      (t.checkAll location true none records).1.obstacle?
          (location.fixturePath record.name) = none ∧
        (t.checkAll location true none records).1.Holds
          (location.fixturePath record.name) record.content := by
  induction records generalizing t with
  | nil => exact fun _ member => absurd member List.not_mem_nil
  | cons record rest ih =>
      rw [List.forall_mem_cons] at plain
      rw [List.map_cons, List.nodup_cons] at distinct
      obtain ⟨mid, compared⟩ := compare_of_checkAll_cons passed
      rw [checkAll_cons_of_ok compared] at passed ⊢
      obtain ⟨clear, holds⟩ := holds_of_update plain.1 (congrArg Prod.snd compared)
      rw [compared] at clear holds
      rw [List.forall_mem_cons]
      refine ⟨⟨obstacle?_of_subset (checkAll_cases mid true rest).1 clear, ?_⟩,
        ih plain.2 distinct.2 passed⟩
      exact holds.of_content? (content?_checkAll plain.2 plain.1 fun _ => distinct.1)

/-- **Records that pass in check mode** are what their fixtures kept all along. -/
theorem holds_of_checkAll_check {t : FileTree} {records : List Record}
    (plain : ∀ record ∈ records, IsFileName record.name)
    (passed : (t.checkAll location false none records).2 = .ok ()) :
    ∀ record ∈ records, t.Holds (location.fixturePath record.name) record.content := by
  induction records generalizing t with
  | nil => exact fun _ member => absurd member List.not_mem_nil
  | cons record rest ih =>
      rw [List.forall_mem_cons] at plain ⊢
      obtain ⟨mid, compared⟩ := compare_of_checkAll_cons passed
      rw [checkAll_cons_of_ok compared] at passed
      refine ⟨holds_of_check (congrArg Prod.snd compared), fun other member => ?_⟩
      have kept := content?_compare_check t location plain.1 (plain.2 other member)
      rw [compared] at kept
      exact (holds_iff_of_content? kept).1 (ih plain.2 passed other member)

/-- **Records that their fixtures keep pass in check mode**, unless a path is at fault. -/
theorem checkAll_of_holds {t : FileTree} {records : List Record}
    (plain : ∀ record ∈ records, IsFileName record.name)
    (holds : ∀ record ∈ records, t.Holds (location.fixturePath record.name) record.content)
    (reached : ∀ files : FileTree, t.directories ⊆ files.directories → ∀ record ∈ records,
      files.obstacle? (location.fixturePath record.name) = none ∨
        files.obstacle? (location.fixturePath record.name) = some .nameTooLong) :
    (t.checkAll location false none records).2 = .ok () ∨
      ∃ fault path, (t.checkAll location false none records).2 = .error (.file fault path) := by
  induction records generalizing t with
  | nil => exact .inl rfl
  | cons record rest ih =>
      rw [List.forall_mem_cons] at plain holds
      have grows := (compare_cases t location false record).1
      have kept {name : String} (named : IsFileName name) :=
        content?_compare_check t location plain.1 named
      rcases passes_of_holds holds.1 (reached t (List.Subset.refl _) record List.mem_cons_self)
        with passed | ⟨fault, path, failed⟩
      · cases compared : t.compare location false record with
        | mk mid result =>
            rw [compared] at passed grows kept
            cases passed
            rw [checkAll_cons_of_ok compared]
            refine ih plain.2 (fun other member => ?_) fun files more other member => ?_
            · exact (holds.2 other member).of_content? (kept (plain.2 other member))
            · exact reached files (List.Subset.trans grows more) other
                (List.mem_cons_of_mem _ member)
      · cases compared : t.compare location false record with
        | mk mid result =>
            rw [compared] at failed
            cases failed
            rw [checkAll_cons_of_error compared]
            exact .inr ⟨fault, path, rfl⟩

end FileTree

end IndexSnapshot
