/-
# IndexSnapshot.Proofs.Actions -- what the actions of a test do

An action of a test reads the store and the environment of its session, may change the
files, and logs; it leaves the store and the environment alone.  `Action.Gives` says so
for one action in one session, together with its result and the files afterwards, and
what it says is all that later steps can see.

* `Gives.bind` and `Gives.bind_error` put actions together.
* One `_gives` theorem for each action says what it does: `render_gives`,
  `compare_gives`, `assertTable_gives`.
-/
import IndexSnapshot.Session.Assertion

namespace IndexSnapshot

set_option autoImplicit false

section MapError

variable {α ε ε' : Type} (f : ε → ε')

@[simp] theorem mapError_ok (a : α) : Except.mapError f (.ok a : Except ε α) = .ok a :=
  rfl

@[simp] theorem mapError_error (e : ε) :
    Except.mapError f (.error e : Except ε α) = .error (f e) :=
  rfl

end MapError

/-! ## Comparing as a function of the files -/

namespace FileTree

/-- The files after comparing a record with its fixture, and whether that passes. -/
def compare (files : FileTree) (location : Location) (update : Bool) (record : Record) :
    FileTree × Except Failure Unit :=
  let path := location.fixturePath record.name
  let finding := files.finding path record.content
  let settled := finding.settle files update path record.content
  (settled.1, settled.2.bind fun _ => finding.result update path record)

/-- The same for a record that may have a literal instead of a fixture. -/
def check (files : FileTree) (location : Location) (update : Bool) (literal : Option String)
    (record : Record) : FileTree × Except Failure Unit :=
  match literal with
  | none => files.compare location update record
  | some text =>
      if record.isFull then files.compare location update record
      else (files, record.compareInline text)

/-- The same for records one after another, until one does not pass. -/
def checkAll (files : FileTree) (location : Location) (update : Bool)
    (literal : Option String) : List Record → FileTree × Except Failure Unit
  | [] => (files, .ok ())
  | record :: rest =>
      match files.check location update literal record with
      | (files, .ok ()) => files.checkAll location update literal rest
      | (files, .error failure) => (files, .error failure)

end FileTree

namespace Session

variable [Yaml.Reader]

/-- Whether full texts are kept: as it is said, or else as the configuration says. -/
def keepsFull (session : Session) : Option Bool → Except Failure Bool
  | some full => .ok full
  | none => (Config.load session.environment session.files none).outcome.1.map Config.storeFull

/-- Where an assertion of a table looks for fixtures, and the records it compares. -/
def plan (session : Session) (location : Location) (table : String) (caseName : Option String)
    (inlined : Bool) (storeFull : Option Bool) : Except Failure (Location × List Record) := do
  let name ← Action.resolve table
  let location ← (location.forCase caseName).mapError .location
  let text ← session.store.freeze.snapshot name
  let full ← session.keepsFull storeFull
  return (location, Record.ofSnapshot name.text text inlined full)

/-- A plan exists when the name, the location, the text and the configuration do. -/
theorem plan_eq_ok_iff {session : Session} {location : Location} {table : String}
    {caseName : Option String} {inlined : Bool} {storeFull : Option Bool} {place : Location}
    {records : List Record} :
    session.plan location table caseName inlined storeFull = .ok (place, records) ↔
      ∃ name text full, Action.resolve table = .ok name ∧ location.forCase caseName = .ok place ∧
        session.store.freeze.snapshot name = .ok text ∧ session.keepsFull storeFull = .ok full ∧
          records = Record.ofSnapshot name.text text inlined full := by
  unfold plan
  cases Action.resolve table with
  | error failure => simp [bind, Except.bind]
  | ok name =>
      cases location.forCase caseName with
      | error fault => simp [bind, Except.bind]
      | ok place' =>
          cases htext : session.store.freeze.snapshot name with
          | error failure => simp [bind, Except.bind, htext]
          | ok text =>
              cases session.keepsFull storeFull with
              | error failure => simp [bind, Except.bind, htext]
              | ok full =>
                  simp [bind, Except.bind, htext, pure, Except.pure, eq_comm]

end Session

namespace Action

variable {α β : Type}

/-! ## Running -/

theorem runIn_bind (first : Action α) (next : α → Action β) (session : Session) :
    (first >>= next).runIn session = match first.runIn session with
      | (.ok a, after) => (next a).runIn after
      | (.error failure, after) => (.error failure, after) := by
  simp only [runIn, ExceptT.run, bind, ExceptT.bind, ExceptT.mk, StateT.run, StateT.bind]
  cases first session with
  | mk result after => cases result <;> rfl

/-- In a session the action has this result, and afterwards the session has these files and
is otherwise as it was, but for what has been logged. -/
def Gives (action : Action α) (session : Session) (result : Except Failure α)
    (files : FileTree) : Prop :=
  ∃ journal, action.runIn session = (result, { session with files, journal })

namespace Gives

variable {action : Action α} {session : Session} {result : Except Failure α} {files : FileTree}

theorem result_eq (gives : action.Gives session result files) :
    (action.runIn session).1 = result := by
  obtain ⟨journal, ran⟩ := gives
  rw [ran]

theorem files_eq (gives : action.Gives session result files) :
    (action.runIn session).2.files = files := by
  obtain ⟨journal, ran⟩ := gives
  rw [ran]

theorem bind {next : α → Action β} {a : α} {later : FileTree} {outcome : Except Failure β}
    (gives : action.Gives session (.ok a) files)
    (rest : ∀ journal, (next a).Gives { session with files, journal } outcome later) :
    (action >>= next).Gives session outcome later := by
  obtain ⟨journal, ran⟩ := gives
  obtain ⟨more, ranOn⟩ := rest journal
  exact ⟨more, by rw [runIn_bind, ran]; exact ranOn⟩

theorem bind_error {next : α → Action β} {failure : Failure}
    (gives : action.Gives session (.error failure) files) :
    (action >>= next).Gives session (.error failure) files := by
  obtain ⟨journal, ran⟩ := gives
  exact ⟨journal, by rw [runIn_bind, ran]⟩

/-- An action whose value is passed on changed. -/
theorem map {f : α → β} (gives : action.Gives session result files) :
    (action >>= fun a => pure (f a)).Gives session (result.map f) files := by
  cases result with
  | error failure => exact gives.bind_error
  | ok a => exact gives.bind fun journal => ⟨journal, rfl⟩

end Gives

/-! ## Small actions -/

theorem pure_gives (a : α) (session : Session) :
    (pure a : Action α).Gives session (.ok a) session.files :=
  ⟨session.journal, rfl⟩

theorem ofResult_gives (result : Except Failure α) (session : Session) :
    (ofResult result).Gives session result session.files :=
  ⟨session.journal, rfl⟩

theorem say_gives (entry : Log.Entry) (session : Session) :
    (say entry).Gives session (.ok ()) session.files :=
  ⟨session.journal ++ [entry], rfl⟩

theorem sayAny_gives (entry : Option Log.Entry) (session : Session) :
    (sayAny entry).Gives session (.ok ()) session.files := by
  cases entry with
  | none => exact pure_gives () session
  | some entry => exact say_gives entry session

theorem ofLogged_gives (logged : Logged α) (session : Session) :
    (ofLogged logged).Gives session logged.outcome.1 session.files :=
  ⟨session.journal ++ logged.outcome.2, rfl⟩

/-! ## Rendering -/

/-- A read transaction is closed whatever becomes of the action in it. -/
theorem reading_gives {action : ReadTxn → Action α} {session : Session}
    {result : Except Failure α} {files : FileTree}
    (inside : ∀ journal, (action session.store.freeze).Gives
      { session with store := session.store.begin.2, journal } result files) :
    (reading action).Gives session result files := by
  obtain ⟨journal, ran⟩ := inside (session.journal ++ [session.store.begin.2.openedEntry])
  refine ⟨journal ++ [session.store.closedEntry], ?_⟩
  have caught : runIn (ExceptT.mk (Except.ok <$> ExceptT.run (action session.store.freeze)) :
      Action (Except Failure α))
        { session with
          store := session.store.begin.2
          journal := session.journal ++ [session.store.begin.2.openedEntry] }
      = (.ok result, { session with store := session.store.begin.2, files, journal }) :=
    congrArg (fun ran : Except Failure α × Session => (Except.ok ran.1, ran.2)) ran
  show runIn (openTxn >>= fun txn => _) session = _
  rw [runIn_bind]
  show runIn (_ >>= _) { session with
    store := session.store.begin.2
    journal := session.journal ++ [session.store.begin.2.openedEntry] } = _
  rw [runIn_bind, caught]
  rfl

theorem renderIn_gives (txn : ReadTxn) (name : SnapshotName) (session : Session) :
    (renderIn txn name).Gives session (txn.snapshot name) session.files := by
  unfold renderIn
  cases txn.snapshot name with
  | error failure => exact (ofResult_gives _ session).bind_error
  | ok text =>
      refine (ofResult_gives _ session).bind fun journal => ?_
      exact (sayAny_gives _ _).bind fun journal => pure_gives text _

/-- The text of a name is what a transaction of this moment reads. -/
theorem render_gives (name : SnapshotName) (session : Session) :
    (render name).Gives session (session.store.freeze.snapshot name) session.files := by
  have inside : (reading fun txn => renderIn txn name).Gives session
      (session.store.freeze.snapshot name) session.files :=
    reading_gives fun journal => renderIn_gives _ name _
  unfold render
  cases found : session.store.freeze.snapshot name with
  | error failure => exact (found ▸ inside).bind_error
  | ok text =>
      refine (found ▸ inside).bind fun journal => ?_
      exact (say_gives _ _).bind fun journal => pure_gives text _

/-! ## Asserting -/

theorem compare_gives (location : Location) (update : Bool) (record : Record)
    (session : Session) :
    (compare location update record).Gives session
      (session.files.compare location update record).2
      (session.files.compare location update record).1 := by
  have asked : (get : Action Session).Gives session (.ok session) session.files :=
    ⟨session.journal, rfl⟩
  have changed (files : FileTree) (journal : List Log.Entry) :
      (set { session with files } : Action PUnit).Gives { session with journal } (.ok ⟨⟩) files :=
    ⟨session.journal, rfl⟩
  unfold compare FileTree.compare
  refine asked.bind fun journal => ?_
  dsimp only
  generalize session.files.finding (location.fixturePath record.name) record.content = finding
  cases finding.settle session.files update (location.fixturePath record.name)
      record.content with
  | mk files settled =>
      refine (changed files journal).bind fun journal => ?_
      cases settled with
      | error failure => exact (ofResult_gives _ _).bind_error
      | ok _ =>
          refine (ofResult_gives _ _).bind fun journal => ?_
          refine (sayAny_gives _ _).bind fun journal => ?_
          exact ofResult_gives _ _

theorem check_gives (location : Location) (update : Bool) (literal : Option String)
    (record : Record) (session : Session) :
    (check location update literal record).Gives session
      (session.files.check location update literal record).2
      (session.files.check location update literal record).1 := by
  cases literal with
  | none => exact compare_gives location update record session
  | some text =>
      unfold check FileTree.check
      dsimp only
      by_cases full : record.isFull = true
      · rw [if_pos full, if_pos full]
        exact compare_gives location update record session
      · rw [if_neg full, if_neg full]
        dsimp only
        exact ofResult_gives _ session

/-- Records are compared one after another, each with the files that the one before left. -/
theorem forM_check_gives (location : Location) (update : Bool) (literal : Option String)
    (records : List Record) (session : Session) :
    (records.forM (check location update literal)).Gives session
      (session.files.checkAll location update literal records).2
      (session.files.checkAll location update literal records).1 := by
  induction records generalizing session with
  | nil => exact pure_gives () session
  | cons record rest ih =>
      have first := check_gives location update literal record session
      rw [List.forM, FileTree.checkAll]
      cases checked : session.files.check location update literal record with
      | mk files result =>
          rw [checked] at first
          cases result with
          | error failure => exact first.bind_error
          | ok _ => exact first.bind fun journal => ih _

variable [Yaml.Reader]

theorem keepsFull_gives (storeFull : Option Bool) (session : Session) :
    (keepsFull storeFull).Gives session (session.keepsFull storeFull) session.files := by
  cases storeFull with
  | some full => exact pure_gives full session
  | none =>
      have asked : (get : Action Session).Gives session (.ok session) session.files :=
        ⟨session.journal, rfl⟩
      refine asked.bind fun journal => ?_
      exact (ofLogged_gives (Config.load session.environment session.files none) _).map

theorem reduce_gives (name text : String) (inlined : Bool) (storeFull : Option Bool)
    (session : Session) :
    (reduce name text inlined storeFull).Gives session
      ((session.keepsFull storeFull).map (Record.ofSnapshot name text inlined))
      session.files := by
  have asked := keepsFull_gives storeFull session
  unfold reduce reduceAs
  cases found : session.keepsFull storeFull with
  | error failure => exact (found ▸ asked).bind_error
  | ok full =>
      refine (found ▸ asked).bind fun journal => ?_
      exact (sayAny_gives _ _).bind fun journal => pure_gives _ _

/-- **An assertion of a table** makes its plan and then compares the records of the plan. -/
theorem assertTable_gives {location : Location} {table : String} {caseName literal : Option String}
    {storeFull : Option Bool} {session : Session} {place : Location} {records : List Record}
    (planned : session.plan location table caseName literal.isSome storeFull = .ok (place, records))
    (update : Bool) :
    (assertTable location update table caseName literal storeFull).Gives session
      ((session.files.checkAll place update literal records).2.map fun _ => records)
      (session.files.checkAll place update literal records).1 := by
  obtain ⟨name, text, full, resolved, placed, rendered, kept, rfl⟩ :=
    Session.plan_eq_ok_iff.1 planned
  unfold assertTable
  rw [resolved, placed]
  refine (ofResult_gives _ session).bind fun journal => ?_
  refine (ofResult_gives _ _).bind fun journal => ?_
  have text_gives := render_gives name { session with journal }
  rw [rendered] at text_gives
  refine text_gives.bind fun journal => ?_
  have reduced := reduce_gives name.text text literal.isSome storeFull { session with journal }
  rw [show Session.keepsFull { session with journal } storeFull = .ok full from kept] at reduced
  refine reduced.bind fun journal => ?_
  exact (forM_check_gives place update literal _ _).map

/-- Without a plan no file changes. -/
theorem assertTable_gives_error {location : Location} {table : String}
    {caseName literal : Option String} {storeFull : Option Bool} {session : Session}
    {failure : Failure}
    (planned : session.plan location table caseName literal.isSome storeFull = .error failure)
    (update : Bool) :
    (assertTable location update table caseName literal storeFull).Gives session
      (.error failure) session.files := by
  unfold assertTable
  unfold Session.plan at planned
  cases resolved : resolve table with
  | error e =>
      rw [resolved] at planned
      cases planned
      exact (ofResult_gives _ session).bind_error
  | ok name =>
      refine (ofResult_gives _ session).bind fun journal => ?_
      rw [resolved] at planned
      simp only [bind, Except.bind] at planned
      cases placed : location.forCase caseName with
      | error fault =>
          rw [placed] at planned
          cases planned
          exact (ofResult_gives _ _).bind_error
      | ok place =>
          refine (ofResult_gives _ _).bind fun journal => ?_
          rw [placed] at planned
          simp only [mapError_ok] at planned
          have text_gives := render_gives name { session with journal }
          cases rendered : session.store.freeze.snapshot name with
          | error e =>
              rw [rendered] at planned text_gives
              cases planned
              exact text_gives.bind_error
          | ok text =>
              rw [rendered] at planned text_gives
              refine text_gives.bind fun journal => ?_
              have reduced :=
                reduce_gives name.text text literal.isSome storeFull { session with journal }
              cases kept : session.keepsFull storeFull with
              | ok full =>
                  simp only [kept, pure, Except.pure, reduceCtorEq] at planned
              | error e =>
                  simp only [kept, Except.error.injEq] at planned
                  subst planned
                  rw [show Session.keepsFull { session with journal } storeFull = .error e
                    from kept] at reduced
                  exact reduced.bind_error

end Action

end IndexSnapshot
