/-
# IndexSnapshot.Proofs.RepairedFixtures -- which fixtures update mode repairs

In update mode a comparison is there to bring the fixture up to date: one that is missing is
made, and one that holds another text is rewritten.  But the file is read as a text before it is
compared, so a fixture whose bytes are no text at all is not rewritten.  It stops the comparison,
and stays as it is, until somebody takes it away.

* `FileTree.finding_of_read?` and `FileTree.finding_of_unread`: what is found of a file.
* `FileTree.compare_update_cases`: one comparison in update mode.
* `Comparison.repaired_iff_was_text`: the fixture is up to date afterwards exactly if it was
  missing or held a text.
* `Comparison.damaged_fixture_stays`: a fixture that is no text.
-/
import IndexSnapshot.Proofs.PendingFiles

namespace IndexSnapshot

set_option autoImplicit false

namespace FileTree

variable {t : FileTree} {location : Location} {record : Record}

/-! ## What is found of a file -/

/-- A file that can be read is compared once its bytes have been taken for a text. -/
theorem finding_of_read? {path : Path} {bytes : Bytes} (there : t.read? path = some bytes)
    (text : String) :
    t.finding path text = match Utf8.decode bytes with
      | .error flaw => .unreadable (.notText flaw)
      | .ok stored => if stored = text then .same else .different stored := by
  obtain ⟨clear, content⟩ := read?_eq_some_iff.1 there
  unfold finding has readText readFile find
  rw [clear, content]
  dsimp only
  cases Utf8.decode bytes <;> rfl

/-- Where no file can be read, there is none, or a path is at fault. -/
theorem finding_of_unread {path : Path} (absent : t.read? path = none) (text : String) :
    t.finding path text = .missing ∨
      ∃ fault place, t.finding path text = .unreadable (.file fault place) := by
  unfold read? at absent
  unfold finding has readText readFile
  cases found : t.find path with
  | error fault =>
      cases fault with
      | nameTooLong => exact .inr ⟨_, _, rfl⟩
      | _ => exact .inl rfl
  | ok what =>
      cases what with
      | directory => exact .inr ⟨_, _, rfl⟩
      | file content =>
          rw [found] at absent
          cases absent

/-! ## One comparison -/

/-- A text that has been written is what the fixture has. -/
theorem compare_update_of_differs
    (differs : t.finding (location.fixturePath record.name) record.content = .missing ∨
      ∃ stored, t.finding (location.fixturePath record.name) record.content = .different stored) :
    IsFault (t.compare location true record).2 ∨
      (t.compare location true record).2 = .ok () ∧
        (t.compare location true record).1.read? (location.fixturePath record.name)
          = some (Utf8.encode record.content) := by
  obtain ⟨how, compared⟩ := compare_of_differs true differs
  simp only [if_true] at compared
  rw [compared]
  generalize location.fixturePath record.name = path
  obtain ⟨-, ⟨written, -⟩ | ⟨⟨fault, place, failed⟩, -⟩⟩ := writeText_cases t path record.content
  · refine .inr ⟨?_, read?_writeText written⟩
    simp only [written, Except.bind]
  · refine .inl ⟨fault, place, ?_⟩
    simp only [failed, Except.bind]

/-- A text that is in the fixture already stays there. -/
theorem compare_update_of_same
    (same : t.finding (location.fixturePath record.name) record.content = .same) :
    IsFault (t.compare location true record).2 ∨
      (t.compare location true record).2 = .ok () ∧
        (t.compare location true record).1.read? (location.fixturePath record.name)
          = some (Utf8.encode record.content) := by
  obtain ⟨clear, content⟩ := read?_eq_some_iff.1 (finding_eq_same_iff_read?.1 same)
  have apart := location.fixture_ne_pending location record.name record.name
  rw [compare_of_same same]
  obtain ⟨directories, erased | failed, others⟩ :=
    eraseIfThere_cases t (location.fixturePath record.name).pending
  · refine .inr ⟨erased, read?_eq_some_iff.2 ⟨?_, (others _ apart).trans content⟩⟩
    exact obstacle?_of_subset (fun p member => directories.symm ▸ member) clear
  · exact .inl failed

/-- **What update mode makes of a fixture**, unless a path is at fault: the comparison passes and
the fixture has the bytes of the text; or the fixture is no text, and nothing has changed. -/
theorem compare_update_cases (t : FileTree) (location : Location) (record : Record) :
    IsFault (t.compare location true record).2 ∨
      ((t.compare location true record).2 = .ok () ∧
        (t.compare location true record).1.read? (location.fixturePath record.name)
          = some (Utf8.encode record.content) ∧
        ∀ bytes, t.read? (location.fixturePath record.name) = some bytes →
          ∃ stored, bytes = Utf8.encode stored) ∨
      ∃ bytes flaw, t.read? (location.fixturePath record.name) = some bytes ∧
        Utf8.decode bytes = .error flaw ∧
        t.compare location true record = (t, .error (.notText flaw)) := by
  cases there : t.read? (location.fixturePath record.name) with
  | none =>
      rcases finding_of_unread there record.content with missing | ⟨fault, place, unreadable⟩
      · rcases compare_update_of_differs (.inl missing) with fault | ⟨passed, written⟩
        · exact .inl fault
        · exact .inr (.inl ⟨passed, written, fun bytes impossible => by cases impossible⟩)
      · exact .inl ⟨fault, place, congrArg Prod.snd (compare_of_unreadable unreadable)⟩
  | some bytes =>
      have found := finding_of_read? there record.content
      cases decoded : Utf8.decode bytes with
      | error flaw =>
          rw [decoded] at found
          exact .inr (.inr ⟨bytes, flaw, rfl, decoded, compare_of_unreadable found⟩)
      | ok stored =>
          have text : ∀ other, some bytes = some other → ∃ stored, other = Utf8.encode stored := by
            rintro _ ⟨⟩
            exact ⟨stored, Utf8.decode_eq_ok_iff.1 decoded⟩
          rw [decoded] at found
          dsimp only at found
          by_cases same : stored = record.content
          · rw [if_pos same] at found
            rcases compare_update_of_same found with fault | ⟨passed, kept⟩
            · exact .inl fault
            · exact .inr (.inl ⟨passed, kept, text⟩)
          · rw [if_neg same] at found
            rcases compare_update_of_differs (.inr ⟨stored, found⟩) with fault | ⟨passed, written⟩
            · exact .inl fault
            · exact .inr (.inl ⟨passed, written, text⟩)

end FileTree

namespace Comparison

/-- **Update mode brings a fixture up to date exactly if it was missing or held a text**, unless
a path is at fault.  A fixture that is no text stops the comparison, and no file changes. -/
theorem repaired_iff_was_text {comparison : Comparison} {before after : Session}
    {result : Except Failure Unit} (updating : comparison.update = true)
    (compared : comparison.act before = (result, after)) (noFault : ¬ FileTree.IsFault result) :
    ((result = .ok () ∧ after.files.read? comparison.fixture
          = some (Utf8.encode comparison.record.content)) ↔
        ∀ bytes, before.files.read? comparison.fixture = some bytes →
          ∃ stored, bytes = Utf8.encode stored) ∧
      ∀ bytes flaw, before.files.read? comparison.fixture = some bytes →
        Utf8.decode bytes = .error flaw →
          result = .error (.notText flaw) ∧ after.files = before.files := by
  have outcome := act_result comparison before
  have files := act_files comparison before
  rw [compared, updating] at outcome files
  dsimp only at outcome files
  rw [outcome] at noFault
  rw [outcome, files]
  rcases (FileTree.compare_update_cases before.files comparison.location
      comparison.record).resolve_left noFault with
    ⟨passed, written, text⟩ | ⟨bytes, flaw, there, damaged, stopped⟩
  · refine ⟨iff_of_true ⟨passed, written⟩ text, fun bytes flaw there damaged => ?_⟩
    obtain ⟨stored, rfl⟩ := text bytes there
    rw [Utf8.decode_encode] at damaged
    cases damaged
  · rw [stopped]
    refine ⟨iff_of_false (fun repaired => by cases repaired.1) fun text => ?_,
      fun other found there' damaged' => ?_⟩
    · obtain ⟨stored, rfl⟩ := text bytes there
      rw [Utf8.decode_encode] at damaged
      cases damaged
    · obtain rfl := Option.some.inj (there.symm.trans there')
      cases damaged.symm.trans damaged'
      exact ⟨rfl, rfl⟩

/-- A test whose fixture of the documents is one byte that starts no character. -/
def damaged : Session where
  files := .ofList [((documents true).fixture, [255])]

/-- A fixture that is no text is not rewritten in update mode. -/
theorem damaged_fixture_stays : ∃ flaw after, Utf8.decode [255] = .error flaw ∧
    (documents true).act damaged = (.error (.notText flaw), after) ∧
    after.files.read? (documents true).fixture = some [255] := by
  obtain ⟨flaw, damage⟩ : ∃ flaw, Utf8.decode [255] = .error flaw := ⟨_, rfl⟩
  have there : damaged.files.read? (documents true).fixture = some [255] := rfl
  obtain ⟨result, after, compared⟩ : ∃ result after,
      (documents true).act damaged = (result, after) := ⟨_, _, rfl⟩
  have unreadable := FileTree.finding_of_read? there (documents true).record.content
  rw [damage] at unreadable
  have stopped := act_result (documents true) damaged
  rw [compared, FileTree.compare_of_unreadable unreadable] at stopped
  have noFault : ¬ FileTree.IsFault result := by
    rintro ⟨fault, place, failed⟩
    cases stopped.symm.trans failed
  obtain ⟨-, stays⟩ := repaired_iff_was_text rfl compared noFault
  obtain ⟨stopped, kept⟩ := stays _ flaw there damage
  refine ⟨flaw, after, damage, compared.trans (congrArg (·, after) stopped), ?_⟩
  exact (congrArg (FileTree.read? · _) kept).trans there

end Comparison

end IndexSnapshot
