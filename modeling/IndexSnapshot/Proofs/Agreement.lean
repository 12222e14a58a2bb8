/-
# IndexSnapshot.Proofs.Agreement -- the index is asserted as its names are

An assertion of the index renders all selected names in one transaction and compares
afterwards; assertions of the names one by one render each name after the fixtures of the
names before it have been compared.  Comparing changes neither the store nor the
environment, so both find the same texts, ask the configuration over the same files, and
stop at the same record.

* `Action.Agree`: two actions that cannot be told apart by their result and the files, with
  `Agree.bind` and `Agree.mapM` to put agreeing actions together.
* `assertTable_agrees`: to assert a name is to assert its text.
* `assertIndex_eq_assertEach`: to assert the index is to assert its names, wherever it stops.
-/
import IndexSnapshot.Proofs.IndexAssertion

namespace IndexSnapshot

set_option autoImplicit false

namespace Action

variable {α β κ : Type}

/-! ## Actions that agree -/

/-- In a session, whatever has been logged before, both actions have one result and leave
the same files, and `R` relates these to the files before. -/
def Agree (R : FileTree → FileTree → Prop) (first second : Action α) (session : Session) :
    Prop :=
  ∃ result files, R session.files files ∧
    (∀ journal, first.Gives { session with journal } result files) ∧
    ∀ journal, second.Gives { session with journal } result files

namespace Agree

variable {R : FileTree → FileTree → Prop} {first second : Action α} {session : Session}

theorem result_eq (agree : Agree R first second session) :
    (first.runIn session).1 = (second.runIn session).1 := by
  obtain ⟨result, files, -, one, other⟩ := agree
  rw [(one session.journal).result_eq, (other session.journal).result_eq]

theorem files_eq (agree : Agree R first second session) :
    (first.runIn session).2.files = (second.runIn session).2.files := by
  obtain ⟨result, files, -, one, other⟩ := agree
  rw [(one session.journal).files_eq, (other session.journal).files_eq]

theorem related (agree : Agree R first second session) :
    R session.files (first.runIn session).2.files := by
  obtain ⟨result, files, related, one, -⟩ := agree
  rw [(one session.journal).files_eq]
  exact related

/-- Nothing but the files and what is logged is changed. -/
theorem store_eq (agree : Agree R first second session) :
    (first.runIn session).2.store = session.store := by
  obtain ⟨result, files, -, one, -⟩ := agree
  obtain ⟨journal, ran⟩ := one session.journal
  rw [ran]

/-- What an action does whatever has been logged, it does alike twice. -/
theorem of_gives {result : Except Failure α} {files : FileTree} (related : R session.files files)
    (gives : ∀ journal, first.Gives { session with journal } result files) :
    Agree R first first session :=
  ⟨result, files, related, gives, gives⟩

theorem left (agree : Agree R first second session) : Agree R first first session := by
  obtain ⟨result, files, related, one, -⟩ := agree
  exact of_gives related one

/-- A step that reads something and changes no file can be left out on one side. -/
theorem bind_left {next : β → Action α} {step : Action β} {b : β}
    (reads : ∀ journal, step.Gives { session with journal } (.ok b) session.files)
    (agree : Agree R (next b) second session) : Agree R (step >>= next) second session := by
  obtain ⟨result, files, related, one, two⟩ := agree
  exact ⟨result, files, related, fun journal => (reads journal).bind one, two⟩

section Preorder

variable [IsPreorder FileTree R]

theorem pure (a : α) (session : Session) :
    Agree R (Pure.pure a) (Pure.pure a) session :=
  of_gives (refl_of R _) fun _ => pure_gives a _

/-- Agreeing actions go on to agree if what follows them does, over all files that they can
leave. -/
theorem bind {next other : α → Action β} (agree : Agree R first second session)
    (rest : ∀ a files, R session.files files →
      Agree R (next a) (other a) { session with files }) :
    Agree R (first >>= next) (second >>= other) session := by
  obtain ⟨result, files, reached, one, two⟩ := agree
  cases result with
  | error failure =>
      exact ⟨.error failure, files, reached, fun journal => (one journal).bind_error,
        fun journal => (two journal).bind_error⟩
  | ok a =>
      obtain ⟨outcome, later, after, oneMore, twoMore⟩ := rest a files reached
      exact ⟨outcome, later, trans_of R reached after,
        fun journal => (one journal).bind fun journal => oneMore journal,
        fun journal => (two journal).bind fun journal => twoMore journal⟩

/-- Actions on the members of a list agree if each of them does. -/
theorem mapM {keys : List κ} {one other : κ → Action α}
    (each : ∀ key ∈ keys, ∀ files, R session.files files →
      Agree R (one key) (other key) { session with files }) :
    Agree R (keys.mapM one) (keys.mapM other) session := by
  induction keys generalizing session with
  | nil => exact pure [] session
  | cons key rest ih =>
      rw [List.forall_mem_cons] at each
      rw [List.mapM_cons, List.mapM_cons]
      refine bind (each.1 session.files (refl_of R _)) fun a files reached => ?_
      refine bind (ih fun key member later after => ?_) fun as later after => pure _ _
      exact each.2 key member later (trans_of R reached after)

end Preorder

end Agree

end Action

/-! ## Comparisons -/

/-- Nothing is said about how files change. -/
def FileTree.Anyhow (_ _ : FileTree) : Prop :=
  True

instance : IsPreorder FileTree FileTree.Anyhow where
  refl _ := trivial
  trans _ _ _ _ _ := trivial

/-- Whatever the files are, comparing any of the records changes them as `R` says. -/
def FileTree.Changes (R : FileTree → FileTree → Prop) (location : Location) (update : Bool)
    (literal : Option String) (records : List Record) : Prop :=
  ∀ record ∈ records, ∀ files, R files (files.check location update literal record).1

/-- What every comparison of records keeps, all of them one after another keep. -/
theorem FileTree.checkAll_related {R : FileTree → FileTree → Prop} [IsPreorder FileTree R]
    {location : Location} {update : Bool} {literal : Option String} {records : List Record}
    (changes : Changes R location update literal records) (t : FileTree) :
    R t (t.checkAll location update literal records).1 := by
  induction records generalizing t with
  | nil => exact refl_of R t
  | cons record rest ih =>
      have first := changes record List.mem_cons_self t
      rw [checkAll]
      cases checked : t.check location update literal record with
      | mk mid result =>
          rw [checked] at first
          cases result with
          | error failure => exact first
          | ok _ =>
              have rest := ih (fun other member => changes other (.tail _ member)) mid
              exact trans_of R first rest

namespace Action

/-! ## Texts -/

theorem resolve_text (name : SnapshotName) : resolve name.text = .ok name := by
  cases name with
  | table name => cases name <;> rfl
  | _ => rfl

section Texts

variable [Yaml.Reader] (location : Location) (update : Bool) (name : SnapshotName) (text : String)
  {full : Bool} {storeFull other : Option Bool}

/-- What asserting a text does, if it is known whether full texts are kept. -/
theorem assertText_gives_of_keepsFull (session : Session)
    (kept : session.keepsFull storeFull = .ok full) :
    (assertText location update storeFull name text).Gives session
      ((session.files.checkAll location update none (Record.ofText full (name, text))).2.map
        fun _ => Record.ofText full (name, text))
      (session.files.checkAll location update none (Record.ofText full (name, text))).1 := by
  have reduced := reduce_gives name.text text false storeFull session
  rw [kept] at reduced
  refine reduced.bind fun journal => ?_
  exact (forM_check_gives location update none (Record.ofText full (name, text)) _).map

/-- Without a configuration no text is compared. -/
theorem assertText_gives_error (session : Session) {failure : Failure}
    (failed : session.keepsFull storeFull = .error failure) :
    (assertText location update storeFull name text).Gives session (.error failure)
      session.files := by
  have reduced := reduce_gives name.text text false storeFull session
  rw [failed] at reduced
  exact reduced.bind_error

variable {R : FileTree → FileTree → Prop} [IsPreorder FileTree R] {location update name text}
  {session : Session}
  (changes : ∀ full, FileTree.Changes R location update none (Record.ofText full (name, text)))
include changes

/-- To assert a text, it matters only what is said about full texts at that moment. -/
theorem assertText_agrees (same : session.keepsFull storeFull = session.keepsFull other) :
    Agree R (assertText location update storeFull name text)
      (assertText location update other name text) session := by
  cases asked : session.keepsFull storeFull with
  | error failure =>
      have askedToo := same.symm.trans asked
      exact ⟨.error failure, session.files, refl_of R _,
        fun journal => assertText_gives_error location update name text
          { session with journal } asked,
        fun journal => assertText_gives_error location update name text
          { session with journal } askedToo⟩
  | ok full =>
      have askedToo := same.symm.trans asked
      let checked := session.files.checkAll location update none (Record.ofText full (name, text))
      exact ⟨checked.2.map fun _ => Record.ofText full (name, text), checked.1,
        FileTree.checkAll_related (changes full) session.files,
        fun journal => assertText_gives_of_keepsFull location update name text
          { session with journal } asked,
        fun journal => assertText_gives_of_keepsFull location update name text
          { session with journal } askedToo⟩

/-- **To assert a name is to assert its text**, without a case and without a literal. -/
theorem assertTable_agrees (rendered : session.store.freeze.snapshot name = .ok text) :
    Agree R (assertText location update storeFull name text)
      (assertTable location update name.text none none storeFull) session := by
  cases asked : session.keepsFull storeFull with
  | error failure =>
      have planned (journal : List Log.Entry) : Session.plan { session with journal } location
          name.text none (none : Option String).isSome storeFull = .error failure := by
        have asked : Session.keepsFull { session with journal } storeFull = .error failure := asked
        simp only [Session.plan, resolve_text, Location.forCase, rendered, asked, mapError_ok,
          bind, Except.bind]
      exact ⟨.error failure, session.files, refl_of R _,
        fun journal => assertText_gives_error location update name text
          { session with journal } asked,
        fun journal => assertTable_gives_error (planned journal) update⟩
  | ok full =>
      have planned (journal : List Log.Entry) : Session.plan { session with journal } location
          name.text none (none : Option String).isSome storeFull
            = .ok (location, Record.ofText full (name, text)) :=
        Session.plan_eq_ok_iff.2
          ⟨name, text, full, resolve_text name, rfl, rendered, asked, rfl⟩
      let checked := session.files.checkAll location update none (Record.ofText full (name, text))
      exact ⟨checked.2.map fun _ => Record.ofText full (name, text), checked.1,
        FileTree.checkAll_related (changes full) session.files,
        fun journal => assertText_gives_of_keepsFull location update name text
          { session with journal } asked,
        fun journal => assertTable_gives (planned journal) update⟩

end Texts

/-! ## The index -/

/-- Asserts names one after another, each in a transaction of its own, until one fails. -/
def assertEach [Yaml.Reader] (location : Location) (update : Bool) (storeFull : Option Bool)
    (names : List SnapshotName) : Action (List Record) := do
  let records ← names.mapM fun name =>
    assertTable location update name.text none none storeFull
  return records.flatten

section Index

variable [Yaml.Reader] [Pattern.Finder] {location : Location} {update : Bool}
  {storeFull : Option Bool} {including excluding : Option String} {names : List SnapshotName}
  {session : Session}

/-- Once the texts of the selected names have been read, an assertion of the index is what
is done with these texts. -/
theorem assertIndex_agrees {R : FileTree → FileTree → Prop} [IsPreorder FileTree R]
    {texts : List String} {second : Action (List (List Record))}
    (chosen : selected including excluding = .ok names)
    (read : names.mapM session.store.freeze.snapshot = .ok texts)
    (rest : Agree R ((names.zip texts).mapM fun (name, text) =>
      assertText location update storeFull name text) second session) :
    Agree R (assertIndex location update including excluding storeFull)
      (second >>= fun records => pure records.flatten) session := by
  have both : Agree R (((names.zip texts).mapM fun (name, text) =>
      assertText location update storeFull name text) >>= fun records =>
        say (comparedEntry records.flatten.length names.length location) >>= fun _ =>
          pure records.flatten)
      (second >>= fun records => pure records.flatten) session := by
    refine rest.bind fun records files _ => ?_
    exact (Agree.pure _ _).bind_left fun journal => say_gives _ _
  have texts_give (journal : List Log.Entry) := reading_texts_gives names { session with journal }
  unfold assertIndex
  rw [chosen]
  refine Agree.bind_left (fun journal => ofResult_gives _ _) ?_
  refine Agree.bind_left (fun journal => ?_) both
  exact read ▸ texts_give journal

/-- **To assert the index is to assert its names one by one**: if the selected names can be
rendered, the records are the same, or the first failure is, and the files are the same
afterwards, wherever the assertion stops.  The names come in the order of the catalogue. -/
theorem assertIndex_eq_assertEach (session : Session) (location : Location) (update : Bool)
    (storeFull : Option Bool) (chosen : selected including excluding = .ok names)
    (renders : ∀ name ∈ names, ∃ text, session.store.freeze.snapshot name = .ok text) :
    names.Sublist SnapshotName.catalogue ∧
      ((assertIndex location update including excluding storeFull).runIn session).1
        = ((assertEach location update storeFull names).runIn session).1 ∧
      ((assertIndex location update including excluding storeFull).runIn session).2.files
        = ((assertEach location update storeFull names).runIn session).2.files := by
  choose! textOf reads using renders
  have read : names.mapM session.store.freeze.snapshot = .ok (names.map textOf) :=
    mapM_eq_ok reads
  have paired : names.zip (names.map textOf) = names.map fun name => (name, textOf name) := by
    have both : (names.map id).zip (names.map textOf) = _ := List.zip_map'
    rwa [List.map_id] at both
  -- whatever comparisons do to the files, the store stays, and the next text is the same
  have each : Agree FileTree.Anyhow
      ((names.zip (names.map textOf)).mapM fun (name, text) =>
        assertText location update storeFull name text)
      (names.mapM fun name => assertTable location update name.text none none storeFull)
      session := by
    rw [paired, List.mapM_map]
    refine Agree.mapM fun name member files _ => ?_
    exact assertTable_agrees (fun _ _ _ _ => trivial) (reads name member)
  have agree := assertIndex_agrees chosen read each
  exact ⟨sublist_of_selected chosen, agree.result_eq, agree.files_eq⟩

end Index

/-- A test without fixtures asserts all names of an index without records. -/
theorem whole_index_asserted_each : ∃ names, selected none none = .ok names ∧
    (∀ name ∈ names, ∃ text, Store.standard.freeze.snapshot name = .ok text) ∧
    ((assertIndex TablePlace.words.location true none none none).runIn {}).1
      = ((assertEach TablePlace.words.location true none names).runIn {}).1 ∧
    ((assertIndex TablePlace.words.location true none none none).runIn {}).2.files
      = ((assertEach TablePlace.words.location true none names).runIn {}).2.files := by
  have chosen : selected none none = .ok SnapshotName.catalogue := rfl
  have renders : ∀ name ∈ SnapshotName.catalogue,
      ∃ text, Store.standard.freeze.snapshot name = .ok text := by
    intro name _
    cases name with
    | table name => cases name <;> exact ⟨_, rfl⟩
    | _ => exact ⟨_, rfl⟩
  obtain ⟨-, result, files⟩ :=
    assertIndex_eq_assertEach {} TablePlace.words.location true none chosen renders
  exact ⟨_, chosen, renders, result, files⟩

end Action

end IndexSnapshot
