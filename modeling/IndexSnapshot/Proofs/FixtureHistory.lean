/-
# IndexSnapshot.Proofs.FixtureHistory -- what a directory of fixtures accepts

A table is asserted again and again at one place, over different indexes, with or without
update mode.  After an assertion in update mode has passed, one in check mode passes for the
text that was accepted, and for a long text with the same hash if full texts are not kept.

It passes for one more text: a text at the other side of the threshold has its fixtures under
other names, and those of an earlier assertion stay where they are when a text crosses the
threshold.  `check_passes_after_update_iff` says exactly when an assertion passes, and where
the files come from that let a text pass that was not accepted last.

* `Renders` and `act_of_renders`: what one assertion does.
* `holds_run`: the fixtures after any number of assertions.
* `stale_fixture_passes`: a text passes that is not the accepted one.
-/
import IndexSnapshot.Proofs.FixtureFiles

namespace IndexSnapshot

set_option autoImplicit false

/-! ## Records -/

namespace Record

variable {text : String} {inlined full : Bool}

theorem ofSnapshot_short (name : String) (full : Bool)
    (short : text.length < threshold inlined) :
    ofSnapshot name text inlined full = [⟨name, text⟩] :=
  if_pos short

theorem ofSnapshot_long (name : String) (full : Bool)
    (long : threshold inlined ≤ text.length) :
    ofSnapshot name text inlined full = (if full then [⟨name ++ fullSuffix, text⟩] else [])
      ++ [⟨name ++ hashSuffix, contentHash text⟩] :=
  if_neg (Nat.not_lt.2 long)

theorem ofSnapshot_ne_nil (name : String) : ofSnapshot name text inlined full ≠ [] := by
  unfold ofSnapshot
  split
  · exact List.cons_ne_nil _ _
  · exact List.append_ne_nil_of_right_ne_nil _ (List.cons_ne_nil _ _)

/-- The records of a snapshot are kept under names of files. -/
theorem isFileName_of_mem_ofSnapshot {name : SnapshotName} {record : Record}
    (member : record ∈ ofSnapshot name.text text inlined full) : IsFileName record.name := by
  have plain := name.isFileName_text
  by_cases short : text.length < threshold inlined
  · rw [ofSnapshot_short _ full short, List.mem_singleton] at member
    exact member ▸ plain
  · rw [ofSnapshot_long _ full (Nat.le_of_not_lt short), List.mem_append,
      List.mem_singleton] at member
    rcases member with kept | rfl
    · cases full with
      | false => cases kept
      | true => exact List.mem_singleton.1 kept ▸ plain.append (by decide)
    · exact plain.append (by decide)

/-- The records of a snapshot have different names. -/
theorem nodup_ofSnapshot (name : String) :
    ((ofSnapshot name text inlined full).map Record.name).Nodup := by
  have apart : name ++ fullSuffix ≠ name ++ hashSuffix := by
    rw [Ne, String.append_right_inj]
    decide
  by_cases short : text.length < threshold inlined
  · rw [ofSnapshot_short _ full short]
    exact List.pairwise_singleton _ _
  · rw [ofSnapshot_long _ full (Nat.le_of_not_lt short)]
    cases full with
    | false => exact List.pairwise_singleton _ _
    | true => exact List.nodup_cons.2 ⟨by simpa using apart, List.pairwise_singleton _ _⟩

/-- A short text and a long one have no name of a record in common. -/
theorem name_ne_of_crossing {name short long : String} {fullShort fullLong : Bool}
    (below : short.length < threshold inlined) (above : threshold inlined ≤ long.length)
    {a b : Record} (ha : a ∈ ofSnapshot name short inlined fullShort)
    (hb : b ∈ ofSnapshot name long inlined fullLong) : a.name ≠ b.name := by
  have longer {suffix : String} (filled : 0 < suffix.length) : name ≠ name ++ suffix :=
    fun same => by
      have := congrArg String.length same
      rw [String.length_append] at this
      omega
  rw [ofSnapshot_short _ _ below, List.mem_singleton] at ha
  subst ha
  rw [ofSnapshot_long _ _ above, List.mem_append, List.mem_singleton] at hb
  rcases hb with kept | rfl
  · cases fullLong with
    | false => cases kept
    | true => exact List.mem_singleton.1 kept ▸ longer (by decide)
  · exact longer (by decide)

end Record

/-! ## Assertions at one place -/

/-- What all assertions of a run have in common. -/
structure TablePlace where
  location : Location
  table : String
  caseName : Option String

/-- What differs between them: the index and the environment that they find, whether they are
in update mode, and what is said about full texts. -/
structure TableCall where
  store : Store
  environment : Environment
  update : Bool
  storeFull : Option Bool

namespace TablePlace

/-- The session in which a call works. -/
def enter (session : Session) (call : TableCall) : Session :=
  { session with store := call.store, environment := call.environment }

section Calls

variable [Yaml.Reader]

/-- What a call gives, and the session afterwards. -/
def act (place : TablePlace) (call : TableCall) (session : Session) :
    Except Failure (List Record) × Session :=
  (Action.assertTable place.location call.update place.table place.caseName none
    call.storeFull).runIn (enter session call)

/-- The session after calls one after another, whether they pass or not. -/
def run (place : TablePlace) (calls : List TableCall) (session : Session) : Session :=
  calls.foldl (fun session call => (place.act call session).2) session

/-- A call finds this text under this name, compares it with the fixtures of this location,
and keeps full texts or does not. -/
structure Renders (place : TablePlace) (call : TableCall) (session : Session) (home : Location)
    (name : SnapshotName) (text : String) (full : Bool) : Prop where
  named : Action.resolve place.table = .ok name
  placed : place.location.forCase place.caseName = .ok home
  rendered : call.store.freeze.snapshot name = .ok text
  kept : (enter session call).keepsFull call.storeFull = .ok full

/-- A call of a run, in update mode, had the record to compare. -/
def Offered (place : TablePlace) (calls : List TableCall) (start : Session) (home : Location)
    (record : Record) : Prop :=
  ∃ past call future name text full,
    calls = past ++ call :: future ∧ call.update = true ∧
      place.Renders call (place.run past start) home name text full ∧
      record ∈ Record.ofSnapshot name.text text false full

variable {place : TablePlace} {call : TableCall} {session : Session} {home : Location}
  {name : SnapshotName} {text : String} {full : Bool}

/-! ## One call -/

/-- A call that finds a text compares its records. -/
theorem act_of_renders (renders : place.Renders call session home name text full) :
    (place.act call session).1
        = (session.files.checkAll home call.update none
            (Record.ofSnapshot name.text text false full)).2.map
          (fun _ => Record.ofSnapshot name.text text false full) ∧
      (place.act call session).2.files
        = (session.files.checkAll home call.update none
            (Record.ofSnapshot name.text text false full)).1 := by
  have planned : (enter session call).plan place.location place.table place.caseName
      (none : Option String).isSome call.storeFull
        = .ok (home, Record.ofSnapshot name.text text false full) :=
    Session.plan_eq_ok_iff.2
      ⟨name, text, full, renders.named, renders.placed, renders.rendered, renders.kept, rfl⟩
  have gives := Action.assertTable_gives planned call.update
  exact ⟨gives.result_eq, gives.files_eq⟩

/-- A call finds a text, or it fails and no file changes. -/
theorem renders_or_files_eq (place : TablePlace) (call : TableCall) (session : Session) :
    (∃ home name text full, place.Renders call session home name text full) ∨
      ((∃ failure, (place.act call session).1 = .error failure) ∧
        (place.act call session).2.files = session.files) := by
  cases planned : (enter session call).plan place.location place.table place.caseName
      (none : Option String).isSome call.storeFull with
  | error failure =>
      have gives := Action.assertTable_gives_error planned call.update
      exact .inr ⟨⟨failure, gives.result_eq⟩, gives.files_eq⟩
  | ok plan =>
      obtain ⟨name, text, full, named, placed, rendered, kept, -⟩ :=
        Session.plan_eq_ok_iff.1 planned
      exact .inl ⟨_, name, text, full, named, placed, rendered, kept⟩

/-- A call passes if all its records do. -/
theorem act_passes_iff (renders : place.Renders call session home name text full) :
    (∃ records, (place.act call session).1 = .ok records) ↔
      (session.files.checkAll home call.update none
        (Record.ofSnapshot name.text text false full)).2 = .ok () := by
  rw [(act_of_renders renders).1]
  cases (session.files.checkAll home call.update none
    (Record.ofSnapshot name.text text false full)).2 with
  | ok _ => exact ⟨fun _ => rfl, fun _ => ⟨_, rfl⟩⟩
  | error failure => exact ⟨fun ⟨_, ok⟩ => (by cases ok), fun ok => (by cases ok)⟩

/-! ## A run -/

/-- What one call leaves in a fixture was there before or is a record of the call. -/
theorem holds_act (placed : place.location.forCase place.caseName = .ok home) {record : Record}
    (plain : IsFileName record.name)
    (holds : (place.act call session).2.files.Holds (home.fixturePath record.name)
      record.content) :
    session.files.Holds (home.fixturePath record.name) record.content ∨
      (call.update = true ∧ ∃ name text full,
        place.Renders call session home name text full ∧
        record ∈ Record.ofSnapshot name.text text false full) := by
  rcases renders_or_files_eq place call session with
    ⟨home', name, text, full, renders⟩ | ⟨-, same⟩
  · obtain rfl : home = home' := Except.ok.inj (placed.symm.trans renders.placed)
    rw [(act_of_renders renders).2] at holds
    rcases (FileTree.checkAll_cases session.files call.update
        (Record.ofSnapshot name.text text false full)).2 (home.fixturePath record.name).folded
      with kept | ⟨other, member, pending⟩ | ⟨updating, other, member, fixture, new⟩
    · exact .inl (holds.of_content? kept.symm)
    · have plain' := Record.isFileName_of_mem_ofSnapshot member
      exact absurd pending (home.folded_fixturePath_ne_pending plain plain')
    · have plain' := Record.isFileName_of_mem_ofSnapshot member
      have sameName := (home.folded_fixturePath_inj plain plain').1 fixture
      have sameText := holds.unique (FileTree.holds_of_content?_encode new)
      have same : record = other := by
        cases record
        cases other
        exact congr (congrArg Record.mk sameName) sameText
      exact .inr ⟨updating, name, text, full, renders, same ▸ member⟩
  · exact .inl (same ▸ holds)

/-- **What a run leaves in a fixture** was there when it began, or a call of the run in update
mode had it to compare. -/
theorem holds_run (placed : place.location.forCase place.caseName = .ok home) {record : Record}
    (plain : IsFileName record.name) {calls : List TableCall} {start : Session}
    (holds : (place.run calls start).files.Holds (home.fixturePath record.name)
      record.content) :
    start.files.Holds (home.fixturePath record.name) record.content ∨
      place.Offered calls start home record := by
  induction calls generalizing start with
  | nil => exact .inl holds
  | cons call rest ih =>
      rcases ih holds with before | ⟨past, later, future, name, text, full, split, updating,
        renders, member⟩
      · rcases holds_act placed plain before with before | ⟨updating, name, text, full,
          renders, member⟩
        · exact .inl before
        · exact .inr ⟨[], call, rest, name, text, full, rfl, updating, renders, member⟩
      · exact .inr ⟨call :: past, later, future, name, text, full, congrArg (call :: ·) split,
          updating, renders, member⟩

end Calls

/-! ## After an accepted text -/

section Accepted

variable {home : Location} {name : SnapshotName} {text : String} {full : Bool}

section Files

variable {before after : FileTree} {text' : String}

/-- The fixtures of a short text keep no other short text. -/
theorem holds_short_iff (below : text.length < Record.threshold false)
    (below' : text'.length < Record.threshold false)
    (holds : ∀ record ∈ Record.ofSnapshot name.text text false full,
      after.Holds (home.fixturePath record.name) record.content) :
    (∀ record ∈ Record.ofSnapshot name.text text' false full,
      after.Holds (home.fixturePath record.name) record.content) ↔ text' = text := by
  rw [Record.ofSnapshot_short _ full below, List.forall_mem_singleton] at holds
  rw [Record.ofSnapshot_short _ full below', List.forall_mem_singleton]
  constructor
  · intro kept
    exact kept.unique holds
  · rintro rfl
    exact holds

/-- The fixtures of a long text keep another long text only if the hash cannot tell them apart
and the full text is not kept. -/
theorem holds_long_iff (above : Record.threshold false ≤ text.length)
    (above' : Record.threshold false ≤ text'.length)
    (holds : ∀ record ∈ Record.ofSnapshot name.text text false full,
      after.Holds (home.fixturePath record.name) record.content) :
    (∀ record ∈ Record.ofSnapshot name.text text' false full,
      after.Holds (home.fixturePath record.name) record.content) ↔
      text' = text ∨
        (full = false ∧ Record.contentHash text' = Record.contentHash text) := by
  constructor
  · intro kept
    rw [Record.ofSnapshot_long _ full above] at holds
    rw [Record.ofSnapshot_long _ full above'] at kept
    have hash := kept _ (List.mem_append_right _ (List.mem_singleton_self _))
    have stored := holds _ (List.mem_append_right _ (List.mem_singleton_self _))
    cases full with
    | false => exact .inr ⟨rfl, hash.unique stored⟩
    | true => exact .inl ((kept _ List.mem_cons_self).unique (holds _ List.mem_cons_self))
  · rintro (rfl | ⟨rfl, hash⟩)
    · exact holds
    · rw [Record.ofSnapshot_long _ false above']
      rw [Record.ofSnapshot_long _ false above] at holds
      rw [hash]
      exact holds

/-- The fixtures of texts at different sides of the threshold have nothing to do with each
other. -/
theorem holds_crossing_iff
    (cross : text.length < Record.threshold false ↔ Record.threshold false ≤ text'.length)
    (others : ∀ other, IsFileName other →
      other ∉ (Record.ofSnapshot name.text text false full).map Record.name →
        after.content? (home.fixturePath other).folded
          = before.content? (home.fixturePath other).folded) :
    (∀ record ∈ Record.ofSnapshot name.text text' false full,
      after.Holds (home.fixturePath record.name) record.content) ↔
    ∀ record ∈ Record.ofSnapshot name.text text' false full,
      before.Holds (home.fixturePath record.name) record.content := by
  refine forall₂_congr fun record member => FileTree.holds_iff_of_content? ?_
  refine others _ (Record.isFileName_of_mem_ofSnapshot member) ?_
  intro taken
  obtain ⟨other, member', same⟩ := List.mem_map.1 taken
  by_cases below : text.length < Record.threshold false
  · exact Record.name_ne_of_crossing below (cross.1 below) member' member same
  · have below' : text'.length < Record.threshold false := Nat.lt_of_not_le (mt cross.2 below)
    exact Record.name_ne_of_crossing below' (Nat.le_of_not_lt below) member member' same.symm

/-- Once the fixtures keep the records of one text and are otherwise as before, they keep those
of another one if the texts are the same, or have the same hash and nothing but that is kept,
or lie at different sides of the threshold and the others were kept before. -/
theorem holds_ofSnapshot_iff (text' : String)
    (holds : ∀ record ∈ Record.ofSnapshot name.text text false full,
      after.Holds (home.fixturePath record.name) record.content)
    (others : ∀ other, IsFileName other →
      other ∉ (Record.ofSnapshot name.text text false full).map Record.name →
        after.content? (home.fixturePath other).folded
          = before.content? (home.fixturePath other).folded) :
    (∀ record ∈ Record.ofSnapshot name.text text' false full,
        after.Holds (home.fixturePath record.name) record.content) ↔
      text' = text ∨
      (full = false ∧ Record.threshold false ≤ text.length ∧
        Record.threshold false ≤ text'.length ∧
        Record.contentHash text' = Record.contentHash text) ∨
      ((text.length < Record.threshold false ↔ Record.threshold false ≤ text'.length) ∧
        ∀ record ∈ Record.ofSnapshot name.text text' false full,
          before.Holds (home.fixturePath record.name) record.content) := by
  by_cases cross : text.length < Record.threshold false ↔
      Record.threshold false ≤ text'.length
  · rw [holds_crossing_iff cross others]
    constructor
    · exact fun kept => .inr (.inr ⟨cross, kept⟩)
    · rintro (rfl | ⟨-, above, above', -⟩ | ⟨-, kept⟩)
      · omega
      · omega
      · exact kept
  · by_cases below : text.length < Record.threshold false
    · have below' : text'.length < Record.threshold false := by omega
      have above : ¬ Record.threshold false ≤ text.length := by omega
      simp only [holds_short_iff below below' holds, cross, above, false_and, and_false, or_false]
    · have above : Record.threshold false ≤ text.length := by omega
      have above' : Record.threshold false ≤ text'.length := by omega
      simp only [holds_long_iff above above' holds, below, above, above', true_and, false_iff,
        not_true_eq_false, false_and, or_false]

end Files

/-- What is compared with the fixtures of an accepted text can be reached as they can. -/
theorem reachable {after : FileTree} {text' : String}
    (kept : ∀ record ∈ Record.ofSnapshot name.text text false full,
      after.obstacle? (home.fixturePath record.name) = none) :
    ∀ files : FileTree, after.directories ⊆ files.directories →
      ∀ record ∈ Record.ofSnapshot name.text text' false full,
        files.obstacle? (home.fixturePath record.name) = none ∨
          files.obstacle? (home.fixturePath record.name) = some .nameTooLong := by
  intro files grows record member
  obtain ⟨accepted, there⟩ : ∃ accepted, accepted ∈ Record.ofSnapshot name.text text false full :=
    List.exists_mem_of_ne_nil _ (Record.ofSnapshot_ne_nil _)
  have plain := Record.isFileName_of_mem_ofSnapshot member
  have clear := FileTree.obstacle?_of_subset grows (kept accepted there)
  rw [home.fixturePath_eq (Record.isFileName_of_mem_ofSnapshot there)] at clear
  rw [home.fixturePath_eq plain]
  exact FileTree.obstacle?_within clear (plain.append (by decide))

/-- **After an assertion in update mode has passed, one in check mode passes** exactly if no
path is at fault and the text is the accepted one, or both are long, have the same hash, and
full texts are not kept, or the texts lie at different sides of the threshold and the fixtures
of the new one were there before.  Such fixtures were there when the run began, or an earlier
call of the run in update mode had them to compare. -/
theorem check_passes_after_update_iff [Yaml.Reader] {place : TablePlace} {calls : List TableCall}
    {start before after : Session} {accept check : TableCall} {records : List Record}
    {text' : String} (reached : place.run calls start = before)
    (updating : accept.update = true)
    (accepted : place.Renders accept before home name text full)
    (passed : place.act accept before = (.ok records, after))
    (checking : check.update = false)
    (checked : place.Renders check after home name text' full) :
    ((∃ same, (place.act check after).1 = .ok same) ↔
      (∀ fault path, (place.act check after).1 ≠ .error (.file fault path)) ∧
        (text' = text ∨
          (full = false ∧ 2048 ≤ text.length ∧ 2048 ≤ text'.length ∧
            Record.contentHash text' = Record.contentHash text) ∨
          ((text.length < 2048 ↔ 2048 ≤ text'.length) ∧
            ∀ record ∈ Record.ofSnapshot name.text text' false full,
              before.files.Holds (home.fixturePath record.name) record.content))) ∧
      ∀ record ∈ Record.ofSnapshot name.text text' false full,
        before.files.Holds (home.fixturePath record.name) record.content →
          start.files.Holds (home.fixturePath record.name) record.content ∨
            place.Offered calls start home record := by
  have plain {text : String} : ∀ record ∈ Record.ofSnapshot name.text text false full,
      IsFileName record.name := fun _ => Record.isFileName_of_mem_ofSnapshot
  have files := (act_of_renders accepted).2
  have allPassed := (act_passes_iff accepted).1 ⟨records, congrArg Prod.fst passed⟩
  rw [updating] at files allPassed
  rw [passed] at files
  dsimp only at files
  have kept := FileTree.holds_of_checkAll_update plain (Record.nodup_ofSnapshot name.text)
    allPassed
  rw [← files] at kept
  have others (other : String) (named : IsFileName other)
      (free : other ∉ (Record.ofSnapshot name.text text false full).map Record.name) :
      after.files.content? (home.fixturePath other).folded
        = before.files.content? (home.fixturePath other).folded := by
    rw [files]
    exact FileTree.content?_checkAll plain named fun _ => free
  have same := holds_ofSnapshot_iff text'
    (fun record member => (kept record member).2) others
  refine ⟨?_, fun record member => reached ▸ holds_run accepted.placed (plain record member)⟩
  rw [act_passes_iff checked, checking]
  refine Iff.trans ?_ (and_congr_right fun _ => same)
  constructor
  · intro all
    refine ⟨fun fault path failed => ?_, FileTree.holds_of_checkAll_check plain all⟩
    obtain ⟨_, ok⟩ := (act_passes_iff checked).2 (checking ▸ all)
    rw [ok] at failed
    cases failed
  · rintro ⟨noFault, holds⟩
    have outcome := (act_of_renders checked).1
    rw [checking] at outcome
    rcases FileTree.checkAll_of_holds plain holds
      (reachable fun record member => (kept record member).1) with all |
      ⟨fault, path, failed⟩
    · exact all
    · exact absurd (outcome.trans (by rw [failed]; rfl)) (noFault fault path)

end Accepted

/-! ## A text that was not accepted last -/

/-- The words of an index, asserted in a test of its own. -/
def words : TablePlace where
  location := ⟨⟨.here, ["snapshots", "t"]⟩, ⟨.here, ["t.py"]⟩, "t", none⟩
  table := "words_fst"
  caseName := none

/-- An assertion over an index whose words are these bytes. -/
def wordsCall (bytes : Bytes) (update : Bool) : TableCall where
  store := Store.standard.setMain { wordsFst := bytes }
  environment := []
  update
  storeFull := some false

/-- The files once an index with one byte has been asserted in update mode. -/
def wordsFiles : FileTree where
  files := [(⟨.here, ["snapshots", "t", "words_fst.snap"]⟩, [48, 49])]
  directories :=
    [⟨.here, []⟩, ⟨.here, ["snapshots"]⟩, ⟨.here, ["snapshots", "t"]⟩,
      ⟨.here, ["snapshots", "t"]⟩, ⟨.here, []⟩, ⟨.here, ["snapshots"]⟩,
      ⟨.here, ["snapshots"]⟩, ⟨.here, []⟩]

/-- The files once one with a long text has been asserted, too. -/
def crossedFiles (hash : Bytes) : FileTree where
  files := wordsFiles.files.put ⟨.here, ["snapshots", "t", "words_fst.hash.snap"]⟩ hash
  directories :=
    ⟨.here, []⟩ :: ⟨.here, ["snapshots"]⟩ :: ⟨.here, ["snapshots", "t"]⟩ ::
      wordsFiles.directories

theorem wordsCall_renders (bytes : Bytes) (update : Bool) (session : Session) :
    words.Renders (wordsCall bytes update) session words.location .wordsFst (Bytes.hex bytes)
      false :=
  ⟨rfl, rfl, rfl, rfl⟩

theorem run_words : (words.run [wordsCall [1] true] {}).files = wordsFiles :=
  rfl

theorem length_hex (bytes : Bytes) : (Bytes.hex bytes).length = 2 * bytes.length := by
  rw [Bytes.hex, String.length_ofList, List.length_flatMap]
  induction bytes with
  | nil => rfl
  | cons b rest ih =>
      rw [List.map_cons, List.sum_cons, ih, List.length_cons, Bytes.hexPair, List.length_cons,
        List.length_singleton]
      omega

theorem checkAll_wordsFiles (hash : String) :
    wordsFiles.checkAll words.location true none [⟨"words_fst.hash", hash⟩]
      = (crossedFiles (Utf8.encode hash), .ok ()) := by
  have missing : wordsFiles.finding (words.location.fixturePath "words_fst.hash") hash
      = .missing := rfl
  have written : wordsFiles.writeText (words.location.fixturePath "words_fst.hash") hash
      = (crossedFiles (Utf8.encode hash), .ok ()) := rfl
  simp only [FileTree.checkAll, FileTree.check, FileTree.compare, missing, Finding.settle,
    if_true, written, Finding.result, Except.bind]

theorem checkAll_crossedFiles (hash : Bytes) :
    ((crossedFiles hash).checkAll words.location false none [⟨"words_fst", "01"⟩]).2
      = .ok () := by
  have same : (crossedFiles hash).finding (words.location.fixturePath "words_fst") "01"
      = .same := rfl
  have erased : (crossedFiles hash).eraseIfThere
      (words.location.fixturePath "words_fst").pending = (crossedFiles hash, .ok ()) := rfl
  simp only [FileTree.checkAll, FileTree.check, FileTree.compare, same, Finding.settle, erased,
    Finding.result, Except.bind]

/-- A long text leaves its hash, and the fixture of the short one stays. -/
theorem act_long_words {session : Session} (files : session.files = wordsFiles) {bytes : Bytes}
    (long : Record.threshold false ≤ (Bytes.hex bytes).length) :
    ∃ hash, (words.act (wordsCall bytes true) session).1 = .ok [⟨"words_fst.hash", hash⟩] ∧
      (words.act (wordsCall bytes true) session).2.files = crossedFiles (Utf8.encode hash) := by
  have records : Record.ofSnapshot SnapshotName.wordsFst.text (Bytes.hex bytes) false false
      = [⟨"words_fst.hash", Record.contentHash (Bytes.hex bytes)⟩] :=
    Record.ofSnapshot_long _ false long
  obtain ⟨result, after⟩ := act_of_renders (wordsCall_renders bytes true session)
  have updating : (wordsCall bytes true).update = true := rfl
  rw [files, records, updating, checkAll_wordsFiles] at result after
  exact ⟨_, result, after⟩

/-- A short text is accepted, then a long one, and the short one still passes. -/
theorem stale_fixture_passes :
    ∃ (bytes : Bytes) (before after : Session) (records same : List Record),
      words.run [wordsCall [1] true] {} = before ∧
      words.Renders (wordsCall bytes true) before words.location .wordsFst (Bytes.hex bytes)
        false ∧
      words.act (wordsCall bytes true) before = (.ok records, after) ∧
      (Bytes.hex bytes).length = 2048 ∧
      words.Renders (wordsCall [1] false) after words.location .wordsFst "01" false ∧
      (words.act (wordsCall [1] false) after).1 = .ok same := by
  obtain ⟨bytes, size⟩ : ∃ bytes : Bytes, bytes.length = 1024 :=
    ⟨List.replicate 1024 0, List.length_replicate⟩
  obtain ⟨before, reached⟩ : ∃ before, words.run [wordsCall [1] true] {} = before := ⟨_, rfl⟩
  have start : before.files = wordsFiles := reached ▸ run_words
  have length : (Bytes.hex bytes).length = 2048 := by rw [length_hex, size]
  obtain ⟨hash, passed, files⟩ := act_long_words start (Nat.le_of_eq length.symm)
  generalize ran : words.act (wordsCall bytes true) before = outcome at passed files
  obtain ⟨result, after⟩ := outcome
  dsimp only at passed files
  subst passed
  have accepted := wordsCall_renders bytes true before
  have checked : words.Renders (wordsCall [1] false) after words.location .wordsFst "01" false :=
    wordsCall_renders [1] false after
  have noFault (fault : FileFault) (path : String) :
      (words.act (wordsCall [1] false) after).1 ≠ .error (.file fault path) := by
    have result := (act_of_renders checked).1
    rw [files, Record.ofSnapshot_short _ false (by decide)] at result
    rw [result, show (wordsCall [1] false).update = false from rfl]
    rw [show SnapshotName.wordsFst.text = "words_fst" from rfl, checkAll_crossedFiles]
    exact fun failed => by cases failed
  have stale : before.files.Holds (words.location.fixturePath "words_fst") "01" :=
    start ▸ ⟨[48, 49], rfl, rfl⟩
  obtain ⟨same, passes⟩ :=
    (check_passes_after_update_iff reached rfl accepted ran rfl checked).1.2
      ⟨noFault, .inr (.inr ⟨by rw [length]; decide, fun record member => by
        rw [List.mem_singleton.1 member]
        exact stale⟩)⟩
  exact ⟨bytes, before, after, _, same, reached, accepted, ran, length, checked, passes⟩

end TablePlace

end IndexSnapshot
