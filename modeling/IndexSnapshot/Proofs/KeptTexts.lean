/-
# IndexSnapshot.Proofs.KeptTexts -- the full text of a snapshot beside its hash

Of a long text the hash is kept, and if wanted the text before it.  A comparison of both leaves
the fixtures of a text and of its hash: where the text can be written, so can the hash.  But an
assertion that does not keep full texts writes the hash alone, and the full text of an earlier
assertion stays beside the hash of another one.  Nothing else tears them apart.

* `FileTree.checkAll_effect`: what the comparison of a text does to a kept text and its hash.
* `Assertion.act_related_of_texts`: what the comparison of each text keeps, an assertion keeps.
* `Assertion.kept_text_has_hash`: assertions one after another, from no files at all.
* `Assertion.text_beside_other_hash`: a kept text beside the hash of another one.
-/
import IndexSnapshot.Proofs.Requests
import IndexSnapshot.Proofs.SoundFiles

namespace IndexSnapshot

set_option autoImplicit false

/-! ## Fixtures of texts and of hashes -/

theorem SnapshotName.text_injective : Function.Injective SnapshotName.text := by
  intro name other same
  have found := Action.resolve_text name
  rw [same, Action.resolve_text] at found
  exact (Except.ok.inj found).symm

/-- A name and what stands from the first dot on are told apart. -/
theorem SnapshotName.text_append_inj {name other : SnapshotName} {suffix otherSuffix : String}
    (dotted : suffix.toList.takeWhile (· != '.') = [])
    (otherDotted : otherSuffix.toList.takeWhile (· != '.') = [])
    (same : name.text ++ suffix = other.text ++ otherSuffix) :
    name = other ∧ suffix = otherSuffix := by
  have stems := name.stem_text_append dotted
  rw [same, other.stem_text_append otherDotted] at stems
  obtain rfl := text_injective (String.toList_injective stems)
  exact ⟨rfl, (String.append_right_inj _).1 same⟩

/-- The fixture of the full text of a name. -/
def Location.keptPath (home : Location) (name : SnapshotName) : Path :=
  home.fixturePath (name.text ++ Record.fullSuffix)

/-- The fixture of the hash of a name. -/
def Location.hashPath (home : Location) (name : SnapshotName) : Path :=
  home.fixturePath (name.text ++ Record.hashSuffix)

theorem Record.mem_ofText_iff {full : Bool} {name : SnapshotName} {text : String}
    {record : Record} :
    record ∈ ofText full (name, text) ↔
      (text.length < threshold false ∧ record = ⟨name.text, text⟩) ∨
      (threshold false ≤ text.length ∧
        ((full = true ∧ record = ⟨name.text ++ fullSuffix, text⟩) ∨
          record = ⟨name.text ++ hashSuffix, contentHash text⟩)) := by
  by_cases short : text.length < threshold false
  · rw [ofText, ofSnapshot_short _ full short, List.mem_singleton]
    simp [short, Nat.not_le.2 short]
  · rw [ofText, ofSnapshot_long _ full (Nat.le_of_not_lt short)]
    cases full <;> simp [short, Nat.le_of_not_lt short]

/-- The full text of a name is a record of no other text. -/
theorem Record.eq_of_kept_mem {full : Bool} {name other : SnapshotName} {text : String}
    {record : Record} (member : record ∈ ofText full (other, text))
    (named : record.name = name.text ++ fullSuffix) :
    other = name ∧ full = true ∧ threshold false ≤ text.length ∧ record.content = text := by
  rcases mem_ofText_iff.1 member with ⟨-, rfl⟩ | ⟨long, ⟨kept, rfl⟩ | rfl⟩
  · have whole : other.text ++ "" = name.text ++ fullSuffix := String.append_empty ▸ named
    exact absurd (SnapshotName.text_append_inj rfl (by decide) whole).2 (by decide)
  · exact ⟨(SnapshotName.text_append_inj (by decide) (by decide) named).1, kept, long, rfl⟩
  · exact absurd (SnapshotName.text_append_inj (by decide) (by decide) named).2 (by decide)

/-- Neither is its hash. -/
theorem Record.eq_of_hash_mem {full : Bool} {name other : SnapshotName} {text : String}
    {record : Record} (member : record ∈ ofText full (other, text))
    (named : record.name = name.text ++ hashSuffix) :
    other = name ∧ threshold false ≤ text.length ∧ record.content = contentHash text := by
  rcases mem_ofText_iff.1 member with ⟨-, rfl⟩ | ⟨long, ⟨-, rfl⟩ | rfl⟩
  · have whole : other.text ++ "" = name.text ++ hashSuffix := String.append_empty ▸ named
    exact absurd (SnapshotName.text_append_inj rfl (by decide) whole).2 (by decide)
  · exact absurd (SnapshotName.text_append_inj (by decide) (by decide) named).2 (by decide)
  · exact ⟨(SnapshotName.text_append_inj (by decide) (by decide) named).1, long, rfl⟩

theorem SnapshotName.isFileName_kept (name : SnapshotName) :
    IsFileName (name.text ++ Record.fullSuffix) :=
  name.isFileName_text.append (by decide)

theorem SnapshotName.isFileName_hash (name : SnapshotName) :
    IsFileName (name.text ++ Record.hashSuffix) :=
  name.isFileName_text.append (by decide)

theorem Path.within_eq_iff {d e : Path} {a b : String} :
    d.within a = e.within b ↔ d = e ∧ a = b := by
  constructor
  · intro same
    obtain ⟨anchors, names⟩ := Path.mk.inj same
    obtain ⟨before, last⟩ := List.append_inj' names rfl
    obtain ⟨anchor, names⟩ := d
    obtain ⟨anchor', names'⟩ := e
    exact ⟨congr (congrArg Path.mk anchors) before, (List.cons.inj last).1⟩
  · rintro ⟨rfl, rfl⟩
    rfl

/-- Fixtures are the same if their directories and their names are. -/
theorem Location.folded_fixturePath_eq_iff {home other : Location} {a b : String}
    (ha : IsFileName a) (hb : IsFileName b) :
    (home.fixturePath a).folded = (other.fixturePath b).folded ↔
      home.directory.folded = other.directory.folded ∧ a = b := by
  rw [folded_fixturePath home ha, folded_fixturePath other hb, Path.within_eq_iff,
    String.append_left_inj]

namespace FileTree

variable {t : FileTree}

/-! ## The comparison of one text -/

theorem Sound.content?_of_holds (sound : t.Sound) {path : Path} {text : String}
    (holds : t.Holds path text) : t.content? path.folded = some (Utf8.encode text) := by
  obtain ⟨bytes, found, decoded⟩ := holds
  obtain ⟨stored, rfl⟩ := sound.text _ _ found
  rw [Utf8.decode_encode] at decoded
  rw [found, Except.ok.inj decoded]

/-- A comparison in update mode that fails changes no fixture. -/
theorem content?_compare_update_of_error {location : Location} {record : Record}
    {failure : Failure} (failed : (t.compare location true record).2 = .error failure)
    {q : Path} (fixture : q.IsFixture) :
    (t.compare location true record).1.content? q = t.content? q := by
  rcases compare_forms t location true record with ⟨-, compared⟩ | ⟨-, how, compared⟩ |
    ⟨_, compared⟩
  · rw [compared]
    refine (eraseIfThere_cases t _).2.2 q ?_
    rintro rfl
    exact location.not_isFixture_folded_pending record.name fixture
  · simp only [if_true] at compared
    rw [compared] at failed ⊢
    dsimp only at failed ⊢
    obtain ⟨-, ⟨written, -⟩ | ⟨-, files⟩⟩ :=
      writeText_cases t (location.fixturePath record.name) record.content
    · rw [written] at failed
      cases failed
    · exact congrArg (Entries.get? · q) files
  · rw [compared]

theorem checkAll_singleton (t : FileTree) (location : Location) (update : Bool)
    (record : Record) :
    (t.checkAll location update none [record]).1 = (t.compare location update record).1 := by
  cases compared : t.compare location update record with
  | mk mid result =>
      cases result with
      | error failure => rw [checkAll_cons_of_error compared]
      | ok _ =>
          rw [checkAll_cons_of_ok compared]
          rfl

/-- The hash is compared once the full text is there: what there is of the hash then is the hash
of the text. -/
theorem hash_after_kept (sound : t.Sound) {home : Location} {name : SnapshotName} {text : String}
    (clear : t.obstacle? (home.keptPath name) = none)
    (kept : t.content? (home.keptPath name).folded = some (Utf8.encode text)) (hash : String) :
    let after := (t.compare home true ⟨name.text ++ Record.hashSuffix, hash⟩).1
    after.content? (home.keptPath name).folded = some (Utf8.encode text) ∧
      (after.content? (home.hashPath name).folded = none ∨
        after.content? (home.hashPath name).folded = some (Utf8.encode hash)) := by
  intro after
  have changes := (compare_cases t home true ⟨name.text ++ Record.hashSuffix, hash⟩).2
  constructor
  · rcases changes (home.keptPath name).folded with same | pending | ⟨-, fixture, -⟩
    · exact same.trans kept
    · exact absurd pending (home.fixture_ne_pending home _ _)
    · have names := (Location.folded_fixturePath_eq_iff name.isFileName_kept
        name.isFileName_hash).1 fixture
      exact absurd ((String.append_right_inj _).1 names.2) (by decide)
  · have reached : t.obstacle? (home.hashPath name) = none := by
      rw [Location.keptPath, home.fixturePath_eq name.isFileName_kept] at clear
      rw [Location.hashPath, home.fixturePath_eq name.isFileName_hash]
      refine obstacle?_within_of_size clear (name.isFileName_hash.append (by decide)) ?_
      simp only [String.utf8ByteSize_append]
      rfl
    cases there : t.content? (home.hashPath name).folded with
    | some bytes =>
        right
        exact (sound.compare home true _).content?_of_holds
          (holds_compare_update_of_file sound reached there)
    | none =>
        rcases changes (home.hashPath name).folded with same | pending | ⟨-, -, new⟩
        · exact .inl (same.trans there)
        · exact absurd pending (home.fixture_ne_pending home _ _)
        · exact .inr new

/-- A full text and its hash, compared in update mode, stay as they were, or the text is kept and
there is no other hash beside it. -/
theorem checkAll_kept_pair (sound : t.Sound) (home : Location) (name : SnapshotName)
    (text hash : String) :
    let after := (t.checkAll home true none
      [⟨name.text ++ Record.fullSuffix, text⟩, ⟨name.text ++ Record.hashSuffix, hash⟩]).1
    (after.content? (home.keptPath name).folded = t.content? (home.keptPath name).folded ∧
        after.content? (home.hashPath name).folded = t.content? (home.hashPath name).folded) ∨
      (after.content? (home.keptPath name).folded = some (Utf8.encode text) ∧
        (after.content? (home.hashPath name).folded = none ∨
          after.content? (home.hashPath name).folded = some (Utf8.encode hash))) := by
  have first := sound.compare home true ⟨name.text ++ Record.fullSuffix, text⟩
  cases compared : t.compare home true ⟨name.text ++ Record.fullSuffix, text⟩ with
  | mk mid result =>
      rw [compared] at first
      cases result with
      | error failure =>
          left
          have unchanged (path : Path) (fixture : path.IsFixture) :=
            content?_compare_update_of_error (congrArg Prod.snd compared) fixture
          rw [compared] at unchanged
          rw [checkAll_cons_of_error compared]
          exact ⟨unchanged _ (home.isFixture_folded_fixturePath _),
            unchanged _ (home.isFixture_folded_fixturePath _)⟩
      | ok _ =>
          right
          obtain ⟨clear, holds⟩ :=
            holds_of_update name.isFileName_kept (congrArg Prod.snd compared)
          rw [compared] at clear holds
          rw [checkAll_cons_of_ok compared, checkAll_singleton]
          exact hash_after_kept first clear (first.content?_of_holds holds) hash

/-- **What the comparison of a text does to the kept text of a name and to its hash**: nothing, or
it is in update mode and the text is long and of this name and this directory.  Then either full
texts are kept and there is no other hash beside the text, or they are not and the hash of the
text is written beside whatever is kept. -/
theorem checkAll_effect (sound : t.Sound) (home other : Location) (name shown : SnapshotName)
    (text : String) (update full : Bool) :
    let after := (t.checkAll other update none (Record.ofText full (shown, text))).1
    (after.content? (home.keptPath name).folded = t.content? (home.keptPath name).folded ∧
        after.content? (home.hashPath name).folded = t.content? (home.hashPath name).folded) ∨
      (update = true ∧ other.directory.folded = home.directory.folded ∧ shown = name ∧
        Record.threshold false ≤ text.length ∧
        ((full = true ∧
            after.content? (home.keptPath name).folded = some (Utf8.encode text) ∧
            (after.content? (home.hashPath name).folded = none ∨
              after.content? (home.hashPath name).folded
                = some (Utf8.encode (Record.contentHash text)))) ∨
          (full = false ∧
            after.content? (home.keptPath name).folded
              = t.content? (home.keptPath name).folded ∧
            after.content? (home.hashPath name).folded
              = some (Utf8.encode (Record.contentHash text))))) := by
  intro after
  have changes := (@checkAll_cases other t update (Record.ofText full (shown, text))).2
  have kept : after.content? (home.keptPath name).folded
        = t.content? (home.keptPath name).folded ∨
      (update = true ∧ other.directory.folded = home.directory.folded ∧ shown = name ∧
        Record.threshold false ≤ text.length ∧ full = true) := by
    rcases changes (home.keptPath name).folded with same | ⟨_, -, pending⟩ |
      ⟨updating, record, member, fixture, -⟩
    · exact .inl same
    · exact absurd pending (home.fixture_ne_pending other _ _)
    · obtain ⟨directories, names⟩ := (Location.folded_fixturePath_eq_iff name.isFileName_kept
        (Record.isFileName_of_mem_ofSnapshot member)).1 fixture
      obtain ⟨same, keeps, long, -⟩ := Record.eq_of_kept_mem member names.symm
      exact .inr ⟨updating, directories.symm, same, long, keeps⟩
  have hashed : after.content? (home.hashPath name).folded
        = t.content? (home.hashPath name).folded ∨
      (update = true ∧ other.directory.folded = home.directory.folded ∧ shown = name ∧
        Record.threshold false ≤ text.length ∧
        after.content? (home.hashPath name).folded
          = some (Utf8.encode (Record.contentHash text))) := by
    rcases changes (home.hashPath name).folded with same | ⟨_, -, pending⟩ |
      ⟨updating, record, member, fixture, new⟩
    · exact .inl same
    · exact absurd pending (home.fixture_ne_pending other _ _)
    · obtain ⟨directories, names⟩ := (Location.folded_fixturePath_eq_iff name.isFileName_hash
        (Record.isFileName_of_mem_ofSnapshot member)).1 fixture
      obtain ⟨same, long, content⟩ := Record.eq_of_hash_mem member names.symm
      exact .inr ⟨updating, directories.symm, same, long, content ▸ new⟩
  cases full with
  | false =>
      have kept := kept.resolve_right fun keeps => by cases keeps.2.2.2.2
      rcases hashed with same | ⟨updating, directories, shows, long, new⟩
      · exact .inl ⟨kept, same⟩
      · exact .inr ⟨updating, directories, shows, long, .inr ⟨rfl, kept, new⟩⟩
  | true =>
      by_cases concerned : update = true ∧ other.directory.folded = home.directory.folded ∧
          shown = name ∧ Record.threshold false ≤ text.length
      · obtain ⟨rfl, directories, rfl, long⟩ := concerned
        have keptSame : (home.keptPath shown).folded = (other.keptPath shown).folded :=
          (Location.folded_fixturePath_eq_iff shown.isFileName_kept shown.isFileName_kept).2
            ⟨directories.symm, rfl⟩
        have hashSame : (home.hashPath shown).folded = (other.hashPath shown).folded :=
          (Location.folded_fixturePath_eq_iff shown.isFileName_hash shown.isFileName_hash).2
            ⟨directories.symm, rfl⟩
        have records : Record.ofText true (shown, text)
            = [⟨shown.text ++ Record.fullSuffix, text⟩,
              ⟨shown.text ++ Record.hashSuffix, Record.contentHash text⟩] :=
          Record.ofSnapshot_long _ true long
        have pair := checkAll_kept_pair sound other shown text (Record.contentHash text)
        rw [← records, ← keptSame, ← hashSame] at pair
        exact pair.imp_right fun both => ⟨rfl, directories, rfl, long, .inl ⟨rfl, both⟩⟩
      · left
        exact ⟨kept.resolve_right fun ⟨updating, directories, shows, long, _⟩ =>
            concerned ⟨updating, directories, shows, long⟩,
          hashed.resolve_right fun ⟨updating, directories, shows, long, _⟩ =>
            concerned ⟨updating, directories, shows, long⟩⟩

end FileTree

/-! ## Assertions text by text -/

/-- The results of a step on each member of a list stand beside the members. -/
theorem eq_ok_of_mem_zip {α β ε : Type} {step : α → Except ε β} {list : List α}
    {results : List β} (ran : list.mapM step = .ok results) {a : α} {b : β}
    (member : (a, b) ∈ list.zip results) : step a = .ok b := by
  induction list generalizing results with
  | nil => cases member
  | cons first rest ih =>
      rw [List.mapM_cons] at ran
      obtain ⟨result, found, ran⟩ := bind_eq_ok_iff.1 ran
      obtain ⟨others, ranOn, same⟩ := bind_eq_ok_iff.1 ran
      obtain rfl := pure_eq_ok_iff.1 same
      rcases List.mem_cons.1 member with same | among
      · cases same
        exact found
      · exact ih ranOn among

section Related

variable [Yaml.Reader] {R : FileTree → FileTree → Prop} [IsPreorder FileTree R]
  {location : Location} {update : Bool} {storeFull : Option Bool} {session : Session}

/-- An assertion of one name compares the records that are planned, or changes no file. -/
theorem Action.assertTable_related {table : String} {caseName : Option String}
    (changes : ∀ home records,
      session.plan location table caseName (none : Option String).isSome storeFull
        = .ok (home, records) →
      R session.files (session.files.checkAll home update none records).1) :
    R session.files
      ((assertTable location update table caseName none storeFull).runIn session).2.files := by
  cases planned :
      session.plan location table caseName (none : Option String).isSome storeFull with
  | error failure =>
      rw [(assertTable_gives_error planned update).files_eq]
      exact refl_of R _
  | ok plan =>
      rw [(assertTable_gives planned update).files_eq]
      exact changes _ _ planned

/-- An assertion of the index compares the records of one text after another. -/
theorem Action.assertIndex_related [Pattern.Finder] {including excluding : Option String}
    (changes : ∀ names name text full files, selected including excluding = .ok names →
      name ∈ names → session.store.freeze.snapshot name = .ok text →
      Session.keepsFull { session with files } storeFull = .ok full →
      R files (files.checkAll location update none (Record.ofText full (name, text))).1) :
    R session.files
      ((assertIndex location update including excluding storeFull).runIn session).2.files := by
  cases texts_read : (do (← selected including excluding).mapM session.store.freeze.snapshot) with
  | error failure =>
      have gives : (assertIndex location update including excluding storeFull).Gives session
          (.error failure) session.files := assertIndex_gives_unread storeFull texts_read
      rw [gives.files_eq]
      exact refl_of R _
  | ok texts =>
      obtain ⟨names, chosen, read⟩ := bind_eq_ok_iff.1 texts_read
      have each : Agree R
          ((names.zip texts).mapM fun pair => assertText location update storeFull pair.1 pair.2)
          ((names.zip texts).mapM fun pair => assertText location update storeFull pair.1 pair.2)
          session := by
        apply Agree.mapM
        rintro ⟨name, text⟩ member files _
        have rendered := eq_ok_of_mem_zip read member
        cases asked : Session.keepsFull { session with files } storeFull with
        | error failure =>
            exact Agree.of_gives (refl_of R _) fun journal =>
              assertText_gives_error location update name text { session with files, journal }
                asked
        | ok full =>
            have related := changes names name text full files chosen (List.of_mem_zip member).1
              rendered asked
            let checked := files.checkAll location update none (Record.ofText full (name, text))
            have gives (journal : List Log.Entry) :
                (assertText location update storeFull name text).Gives
                  { session with files, journal }
                  (checked.2.map fun _ => Record.ofText full (name, text)) checked.1 :=
              assertText_gives_of_keepsFull location update name text
                { session with files, journal } asked
            exact Agree.of_gives related gives
      exact (assertIndex_agrees chosen read each).left.related

end Related

/-- No literal: all records have fixtures. -/
def Request.InFiles : Request → Prop
  | .name _ _ literal => literal = none
  | .index _ _ => True

/-- A name that is asked for, and the location of its fixtures. -/
inductive Request.Names [Pattern.Finder] (location : Location) :
    Request → Location → SnapshotName → Prop where
  | name {table : String} {caseName literal : Option String} {name : SnapshotName}
      {home : Location} (resolved : Action.resolve table = .ok name)
      (placed : location.forCase caseName = .ok home) :
      Names location (.name table caseName literal) home name
  | index {including excluding : Option String} {names : List SnapshotName}
      {name : SnapshotName} (chosen : Action.selected including excluding = .ok names)
      (among : name ∈ names) :
      Names location (.index including excluding) location name

namespace Assertion

section Runs

variable [Yaml.Reader] [Pattern.Finder]

/-- An assertion finds this text under this name, and looks for its fixtures at this location.
Full texts are kept or not as it is said, or as the configuration says over some files. -/
structure Shows (assertion : Assertion) (home : Location) (name : SnapshotName) (text : String)
    (full : Bool) : Prop where
  named : assertion.request.Names assertion.location home name
  rendered : assertion.store.freeze.snapshot name = .ok text
  kept : ∃ session : Session, session.environment = assertion.environment ∧
    session.keepsFull assertion.storeFull = .ok full

/-- **What the comparison of each text keeps, the assertion keeps.** -/
theorem act_related_of_texts {R : FileTree → FileTree → Prop} [IsPreorder FileTree R]
    {assertion : Assertion} (inFiles : assertion.request.InFiles)
    (changes : ∀ home name text full, assertion.Shows home name text full →
      ∀ files : FileTree,
        R files (files.checkAll home assertion.update none (Record.ofText full (name, text))).1)
    (session : Session) : R session.files (assertion.act session).2.files := by
  obtain ⟨store, environment, location, update, storeFull, request⟩ := assertion
  let inside : Session := { session with store, environment }
  cases request with
  | name table caseName literal =>
      obtain rfl : literal = none := inFiles
      change R inside.files _
      refine Action.assertTable_related fun home records planned => ?_
      obtain ⟨name, text, full, resolved, placed, rendered, kept, rfl⟩ :=
        Session.plan_eq_ok_iff.1 planned
      exact changes home name text full ⟨.name resolved placed, rendered, _, rfl, kept⟩ _
  | index including excluding =>
      change R inside.files _
      refine Action.assertIndex_related fun names name text full files chosen among rendered
        asked => ?_
      exact changes location name text full ⟨.index chosen among, rendered, _, rfl, asked⟩ files

/-! ## A kept text and its hash -/

/-- What an assertion does to the kept text of a name and to its hash, if files are sound: both
stay, or the text of the assertion is kept and there is no other hash beside it, or the text of
the assertion is not kept and its hash is written beside what is. -/
def Effect (assertion : Assertion) (home : Location) (name : SnapshotName)
    (before after : FileTree) : Prop :=
  before.Sound → after.Sound ∧
    ((after.content? (home.keptPath name).folded = before.content? (home.keptPath name).folded ∧
        after.content? (home.hashPath name).folded
          = before.content? (home.hashPath name).folded) ∨
      (∃ text, assertion.store.freeze.snapshot name = .ok text ∧
        after.content? (home.keptPath name).folded = some (Utf8.encode text) ∧
        (after.content? (home.hashPath name).folded = none ∨
          after.content? (home.hashPath name).folded
            = some (Utf8.encode (Record.contentHash text)))) ∨
      ∃ other text, assertion.update = true ∧ other.directory.folded = home.directory.folded ∧
        assertion.Shows other name text false ∧ Record.threshold false ≤ text.length ∧
        after.content? (home.keptPath name).folded
          = before.content? (home.keptPath name).folded ∧
        after.content? (home.hashPath name).folded
          = some (Utf8.encode (Record.contentHash text)))

instance (assertion : Assertion) (home : Location) (name : SnapshotName) :
    IsPreorder FileTree (assertion.Effect home name) where
  refl _ sound := ⟨sound, .inl ⟨rfl, rfl⟩⟩
  trans before mid after first second sound := by
    obtain ⟨soundMid, first⟩ := first sound
    obtain ⟨soundAfter, second⟩ := second soundMid
    refine ⟨soundAfter, ?_⟩
    rcases second with ⟨kept, hash⟩ | keeps | ⟨other, text, updating, place, shows, long, kept,
      hash⟩
    · rw [kept, hash]
      exact first
    · exact .inr (.inl keeps)
    · rcases first with ⟨keptBefore, -⟩ | ⟨shown, rendered, keptBefore, -⟩ |
        ⟨_, _, -, -, -, -, keptBefore, -⟩
      · exact .inr (.inr ⟨other, text, updating, place, shows, long, kept.trans keptBefore, hash⟩)
      · -- an assertion has one text under a name, so the hash is that of the text just kept
        obtain rfl := Except.ok.inj (rendered.symm.trans shows.rendered)
        exact .inr (.inl ⟨shown, rendered, kept.trans keptBefore, .inr hash⟩)
      · exact .inr (.inr ⟨other, text, updating, place, shows, long, kept.trans keptBefore, hash⟩)

/-- **What one assertion does** to a kept text and its hash. -/
theorem act_effect {assertion : Assertion} (inFiles : assertion.request.InFiles)
    (home : Location) (name : SnapshotName) (session : Session) :
    assertion.Effect home name session.files (assertion.act session).2.files := by
  refine act_related_of_texts inFiles (fun other shown text full shows files sound => ?_) session
  refine ⟨sound.checkAll _ _ _, ?_⟩
  rcases FileTree.checkAll_effect sound home other name shown text assertion.update full with
    unchanged | ⟨updating, place, rfl, long, ⟨-, kept, hash⟩ | ⟨rfl, kept, hash⟩⟩
  · exact .inl unchanged
  · exact .inr (.inl ⟨text, shows.rendered, kept, hash⟩)
  · exact .inr (.inr ⟨other, text, updating, place, shows, long, kept, hash⟩)

/-- An assertion of the run, in update mode, does not keep full texts.  It finds a long text with
this hash under the name, while the text is already kept. -/
def HashedAlone (assertions : List Assertion) (start : Session) (home : Location)
    (name : SnapshotName) (text hash : String) : Prop :=
  ∃ past last future other shown, assertions = past ++ last :: future ∧
    (run past start).files.Holds (home.keptPath name) text ∧ last.update = true ∧
    other.directory.folded = home.directory.folded ∧ last.Shows other name shown false ∧
    Record.threshold false ≤ shown.length ∧ hash = Record.contentHash shown

theorem run_append (past future : List Assertion) (start : Session) :
    run (past ++ future) start = run future (run past start) :=
  List.foldl_append

/-- Sound files stay so, and beside a kept text there is its hash, or one that was written
alone. -/
theorem run_kept {assertions : List Assertion}
    (inFiles : ∀ assertion ∈ assertions, assertion.request.InFiles) {start : Session}
    (sound : start.files.Sound) (home : Location) (name : SnapshotName)
    (matched : ∀ text hash, start.files.Holds (home.keptPath name) text →
      start.files.Holds (home.hashPath name) hash → hash = Record.contentHash text) :
    (run assertions start).files.Sound ∧
    ∀ text hash, (run assertions start).files.Holds (home.keptPath name) text →
      (run assertions start).files.Holds (home.hashPath name) hash →
        hash = Record.contentHash text ∨ HashedAlone assertions start home name text hash := by
  induction assertions using List.reverseRecOn with
  | nil => exact ⟨sound, fun text hash kept hashed => .inl (matched text hash kept hashed)⟩
  | append_singleton past last ih =>
      rw [List.forall_mem_append, List.forall_mem_singleton] at inFiles
      obtain ⟨soundPast, ih⟩ := ih inFiles.1
      have effect := act_effect inFiles.2 home name (run past start)
      rw [run_append]
      change (last.act (run past start)).2.files.Sound ∧ _
      obtain ⟨soundAfter, effect⟩ := effect soundPast
      refine ⟨soundAfter, fun text hash kept hashed => ?_⟩
      change (last.act (run past start)).2.files.Holds _ text at kept
      change (last.act (run past start)).2.files.Holds _ hash at hashed
      rcases effect with ⟨keptSame, hashSame⟩ | ⟨shown, -, keeps, gone | hash_eq⟩ |
        ⟨other, shown, updating, place, shows, long, keptSame, hash_eq⟩
      · rcases ih text hash (kept.of_content? keptSame.symm) (hashed.of_content? hashSame.symm)
          with same | ⟨before, alone, after, other, shown, rfl, rest⟩
        · exact .inl same
        · exact .inr ⟨before, alone, after ++ [last], other, shown, by simp, rest⟩
      · obtain ⟨bytes, there, -⟩ := hashed
        cases gone.symm.trans there
      · left
        rw [hashed.unique (FileTree.holds_of_content?_encode hash_eq),
          kept.unique (FileTree.holds_of_content?_encode keeps)]
      · right
        exact ⟨past, last, [], other, shown, rfl, kept.of_content? keptSame.symm, updating, place,
          shows, long, hashed.unique (FileTree.holds_of_content?_encode hash_eq)⟩

/-- **Beside a kept text there is its hash**, whatever has been asserted since there were no files,
or one that was written alone: an assertion in update mode that did not keep full texts found a
long text with this hash, when the other text was already kept. -/
theorem kept_text_has_hash {assertions : List Assertion}
    (inFiles : ∀ assertion ∈ assertions, assertion.request.InFiles) {start after : Session}
    (empty : start.files = {}) (reached : run assertions start = after) (home : Location)
    (name : SnapshotName) {kept hashed : Bytes}
    (keeps : after.files.content? (home.keptPath name).folded = some kept)
    (hashes : after.files.content? (home.hashPath name).folded = some hashed) :
    ∃ text hash, kept = Utf8.encode text ∧ hashed = Utf8.encode hash ∧
      (hash = Record.contentHash text ∨ HashedAlone assertions start home name text hash) := by
  have sound : start.files.Sound := empty ▸ FileTree.sound_empty
  have none (path : Path) (text : String) : ¬ start.files.Holds path text := by
    rintro ⟨bytes, there, -⟩
    rw [empty] at there
    cases there
  subst reached
  obtain ⟨soundAfter, matched⟩ :=
    run_kept inFiles sound home name fun text hash holds => absurd holds (none _ _)
  obtain ⟨text, rfl⟩ := soundAfter.text _ _ keeps
  obtain ⟨hash, rfl⟩ := soundAfter.text _ _ hashes
  exact ⟨text, hash, rfl, rfl, matched text hash (FileTree.holds_of_content?_encode keeps)
    (FileTree.holds_of_content?_encode hashes)⟩

end Runs

/-! ## A kept text beside the hash of another one -/

/-- The words of an index, asserted in update mode, with full texts kept or not. -/
def ofWords (bytes : Bytes) (full : Bool) : Assertion where
  store := Store.standard.setMain { wordsFst := bytes }
  environment := []
  location := TablePlace.words.location
  update := true
  storeFull := some full
  request := .name "words_fst" none none

theorem act_ofWords_files (bytes : Bytes) (full : Bool) (session : Session) :
    ((ofWords bytes full).act session).2.files
      = (session.files.checkAll TablePlace.words.location true none
          (Record.ofText full (.wordsFst, Bytes.hex bytes))).1 := by
  have planned : ((ofWords bytes full).enter session).plan TablePlace.words.location "words_fst"
      none (none : Option String).isSome (some full)
        = .ok (TablePlace.words.location, Record.ofText full (.wordsFst, Bytes.hex bytes)) :=
    Session.plan_eq_ok_iff.2 ⟨.wordsFst, _, full, rfl, rfl, rfl, rfl, rfl⟩
  exact (Action.assertTable_gives planned true).files_eq

/-- The files once a full text has been kept. -/
def keptFiles (text : Bytes) : FileTree where
  files := [(⟨.here, ["snapshots", "t", "words_fst.full.snap"]⟩, text)]
  directories := TablePlace.wordsFiles.directories

theorem checkAll_keptFiles (text hash : String) :
    (({} : FileTree).checkAll TablePlace.words.location true none
      [⟨"words_fst.full", text⟩, ⟨"words_fst.hash", hash⟩]).2 = .ok () := by
  have missing : ({} : FileTree).finding (TablePlace.words.location.fixturePath "words_fst.full")
      text = .missing := rfl
  have written : ({} : FileTree).writeText
      (TablePlace.words.location.fixturePath "words_fst.full") text
        = (keptFiles (Utf8.encode text), .ok ()) := rfl
  have missingHash (bytes : Bytes) : (keptFiles bytes).finding
      (TablePlace.words.location.fixturePath "words_fst.hash") hash = .missing := rfl
  have writtenHash (bytes : Bytes) : ((keptFiles bytes).writeText
      (TablePlace.words.location.fixturePath "words_fst.hash") hash).2 = .ok () := rfl
  simp only [FileTree.checkAll, FileTree.check, FileTree.compare, missing, Finding.settle,
    if_true, written, Finding.result, Except.bind, missingHash, writtenHash]

/-- A long text is kept, and then the hash of another one is written alone. -/
theorem run_ofWords {kept other : Bytes}
    (long : Record.threshold false ≤ (Bytes.hex kept).length)
    (otherLong : Record.threshold false ≤ (Bytes.hex other).length) {after : Session}
    (reached : run [ofWords kept true, ofWords other false] {} = after) :
    after.files.content? (TablePlace.words.location.keptPath .wordsFst).folded
        = some (Utf8.encode (Bytes.hex kept)) ∧
      after.files.content? (TablePlace.words.location.hashPath .wordsFst).folded
        = some (Utf8.encode (Record.contentHash (Bytes.hex other))) := by
  have files : (run [ofWords kept true, ofWords other false] {}).files = _ :=
    act_ofWords_files other false ((ofWords kept true).act {}).2
  rw [reached, act_ofWords_files] at files
  have records : Record.ofText true (.wordsFst, Bytes.hex kept)
      = [⟨"words_fst.full", Bytes.hex kept⟩,
        ⟨"words_fst.hash", Record.contentHash (Bytes.hex kept)⟩] :=
    Record.ofSnapshot_long _ true long
  have otherRecords : Record.ofText false (.wordsFst, Bytes.hex other)
      = [⟨"words_fst.hash", Record.contentHash (Bytes.hex other)⟩] :=
    Record.ofSnapshot_long _ false otherLong
  have sound := FileTree.sound_empty.checkAll TablePlace.words.location true
    (Record.ofText true (.wordsFst, Bytes.hex kept))
  have wellNamed := Record.wellNamed_ofText true (.wordsFst, Bytes.hex kept)
  have passed : (({} : FileTree).checkAll TablePlace.words.location true none
      (Record.ofText true (.wordsFst, Bytes.hex kept))).2 = .ok () := by
    rw [records]
    exact checkAll_keptFiles _ _
  have first := FileTree.holds_of_checkAll_update wellNamed.plain wellNamed.distinct passed
  rw [files]
  generalize (({} : FileTree).checkAll TablePlace.words.location true none
    (Record.ofText true (.wordsFst, Bytes.hex kept))).1 = mid at sound first ⊢
  rw [records, List.forall_mem_cons, List.forall_mem_singleton] at first
  obtain ⟨⟨-, keeps⟩, clear, bytes, there, -⟩ := first
  constructor
  · refine Eq.trans ?_ (sound.content?_of_holds keeps)
    rcases FileTree.checkAll_effect sound TablePlace.words.location TablePlace.words.location
      .wordsFst .wordsFst (Bytes.hex other) true false with
      ⟨same, -⟩ | ⟨-, -, -, -, ⟨impossible, -⟩ | ⟨-, same, -⟩⟩
    · exact same
    · cases impossible
    · exact same
  · rw [otherRecords, FileTree.checkAll_singleton]
    exact (sound.compare _ _ _).content?_of_holds
      (FileTree.holds_compare_update_of_file sound clear there)

theorem contentHash_hex_ne : Record.contentHash (Bytes.hex (List.replicate 1024 17))
    ≠ Record.contentHash (Bytes.hex (List.replicate 1024 0)) := by
  have encoded (bytes : Bytes) : Utf8.encode (Bytes.hex bytes)
      = Utf8.encodeChars (bytes.flatMap fun b => Bytes.hexPair b.toNat) := by
    rw [Utf8.encode, Bytes.hex, String.toList_ofList]
  rw [Record.contentHash, Record.contentHash, encoded, encoded, Md5.hexDigest, Md5.hexDigest,
    Bytes.hex, Bytes.hex, Ne, String.ofList_inj]
  decide +kernel

/-- The text of 1024 zeros is kept, and the hash beside it is that of another text. -/
theorem text_beside_other_hash : ∃ (kept other : Bytes) (after : Session),
    run [ofWords kept true, ofWords other false] {} = after ∧
    after.files.content? (TablePlace.words.location.keptPath .wordsFst).folded
      = some (Utf8.encode (Bytes.hex kept)) ∧
    after.files.content? (TablePlace.words.location.hashPath .wordsFst).folded
      = some (Utf8.encode (Record.contentHash (Bytes.hex other))) ∧
    Record.contentHash (Bytes.hex other) ≠ Record.contentHash (Bytes.hex kept) ∧
    HashedAlone [ofWords kept true, ofWords other false] {} TablePlace.words.location .wordsFst
      (Bytes.hex kept) (Record.contentHash (Bytes.hex other)) := by
  have long (b : UInt8) :
      Record.threshold false ≤ (Bytes.hex (List.replicate 1024 b)).length := by
    rw [TablePlace.length_hex, List.length_replicate]
    decide
  obtain ⟨after, reached⟩ :
      ∃ after, run [ofWords (List.replicate 1024 0) true, ofWords (List.replicate 1024 17) false]
        {} = after := ⟨_, rfl⟩
  obtain ⟨keeps, hashes⟩ := run_ofWords (long 0) (long 17) reached
  have inFiles : ∀ assertion ∈
      [ofWords (List.replicate 1024 0) true, ofWords (List.replicate 1024 17) false],
      assertion.request.InFiles :=
    List.forall_mem_cons.2 ⟨rfl, List.forall_mem_singleton.2 rfl⟩
  obtain ⟨text, hash, isText, isHash, alone⟩ :=
    kept_text_has_hash inFiles rfl reached TablePlace.words.location .wordsFst keeps hashes
  obtain rfl := Utf8.encode_injective isText
  obtain rfl := Utf8.encode_injective isHash
  exact ⟨_, _, after, reached, keeps, hashes, contentHash_hex_ne,
    alone.resolve_left contentHash_hex_ne⟩

end Assertion

end IndexSnapshot
