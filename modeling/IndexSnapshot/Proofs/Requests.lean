/-
# IndexSnapshot.Proofs.Requests -- whatever a test asserts

A test asserts names one at a time, perhaps in a case and with a literal, and it asserts the
index.  Either way files are changed by nothing but comparisons of records, and which records
these can be is known before the index has been read, but for their texts.  So what each such
comparison keeps, an assertion keeps, and so does a whole test.

* `Request.Compares`: the comparisons that an assertion can make.
* `Request.act_agrees`: what they keep, the assertion keeps; the store it leaves alone.
* `Assertion.run_related`: the same for assertions one after another.
-/
import IndexSnapshot.Proofs.Agreement

namespace IndexSnapshot

set_option autoImplicit false

/-! ## Requests -/

/-- What a test asks for: one name, perhaps in a case and with a literal, or the names of the
index that two patterns select. -/
inductive Request where
  | name (table : String) (caseName literal : Option String)
  | index (including excluding : Option String)

namespace Request

/-- The assertion that is asked for. -/
def act [Yaml.Reader] [Pattern.Finder] (request : Request) (location : Location) (update : Bool)
    (storeFull : Option Bool) : Action (List Record) :=
  match request with
  | .name table caseName literal =>
      Action.assertTable location update table caseName literal storeFull
  | .index including excluding =>
      Action.assertIndex location update including excluding storeFull

section Compares

variable [Pattern.Finder]

/-- A comparison that may be made for a request, whatever the index holds: where the fixtures
are, the literal if there is one, and the record. -/
inductive Compares (location : Location) :
    Request → Location → Option String → Record → Prop where
  | name {table text : String} {caseName literal : Option String} {name : SnapshotName}
      {home : Location} {full : Bool} {record : Record}
      (resolved : Action.resolve table = .ok name) (placed : location.forCase caseName = .ok home)
      (member : record ∈ Record.ofSnapshot name.text text literal.isSome full) :
      Compares location (.name table caseName literal) home literal record
  | index {including excluding : Option String} {names : List SnapshotName}
      {name : SnapshotName} {text : String} {full : Bool} {record : Record}
      (chosen : Action.selected including excluding = .ok names) (among : name ∈ names)
      (member : record ∈ Record.ofSnapshot name.text text false full) :
      Compares location (.index including excluding) location none record

/-- Each record that is compared has the name of a file. -/
theorem Compares.isFileName {location home : Location} {request : Request}
    {literal : Option String} {record : Record}
    (compares : request.Compares location home literal record) : IsFileName record.name := by
  cases compares with
  | name _ _ member => exact Record.isFileName_of_mem_ofSnapshot member
  | index _ _ member => exact Record.isFileName_of_mem_ofSnapshot member

/-- Whatever the files are, each comparison that may be made for a request changes them as `R`
says. -/
def Changes (R : FileTree → FileTree → Prop) (request : Request) (location : Location)
    (update : Bool) : Prop :=
  ∀ home literal record, request.Compares location home literal record →
    ∀ files : FileTree, R files (files.check home update literal record).1

end Compares

end Request

section Changes

variable [Yaml.Reader] [Pattern.Finder] {R : FileTree → FileTree → Prop}
  [IsPreorder FileTree R] {location : Location} {update : Bool} {storeFull : Option Bool}
  {session : Session}

namespace Action

theorem assertTable_agrees_self {table : String} {caseName literal : Option String}
    (changes : (Request.name table caseName literal).Changes R location update) :
    Agree R (assertTable location update table caseName literal storeFull)
      (assertTable location update table caseName literal storeFull) session := by
  cases planned : session.plan location table caseName literal.isSome storeFull with
  | error failure =>
      have gives (journal : List Log.Entry) :
          (assertTable location update table caseName literal storeFull).Gives
            { session with journal } (.error failure) session.files := by
        have planned : Session.plan { session with journal } location table caseName
            literal.isSome storeFull = .error failure := planned
        exact assertTable_gives_error planned update
      exact Agree.of_gives (refl_of R session.files) gives
  | ok plan =>
      obtain ⟨home, records⟩ := plan
      have gives (journal : List Log.Entry) :
          (assertTable location update table caseName literal storeFull).Gives
            { session with journal }
            ((session.files.checkAll home update literal records).2.map fun _ => records)
            (session.files.checkAll home update literal records).1 := by
        have planned : Session.plan { session with journal } location table caseName
            literal.isSome storeFull = .ok (home, records) := planned
        exact assertTable_gives planned update
      refine Agree.of_gives (FileTree.checkAll_related ?_ session.files) gives
      intro record member
      obtain ⟨name, text, full, resolved, placed, -, -, rfl⟩ := Session.plan_eq_ok_iff.1 planned
      exact changes home literal record (.name resolved placed member)

theorem assertIndex_agrees_self {including excluding : Option String}
    (changes : (Request.index including excluding).Changes R location update) :
    Agree R (assertIndex location update including excluding storeFull)
      (assertIndex location update including excluding storeFull) session := by
  cases texts_read : (do (← selected including excluding).mapM session.store.freeze.snapshot) with
  | error failure =>
      have gives (journal : List Log.Entry) :
          (assertIndex location update including excluding storeFull).Gives
            { session with journal } (.error failure) session.files := by
        have unread : (do
            (← selected including excluding).mapM
              (Session.store { session with journal }).freeze.snapshot) = .error failure :=
          texts_read
        exact assertIndex_gives_unread storeFull unread
      exact Agree.of_gives (refl_of R session.files) gives
  | ok texts =>
      obtain ⟨names, chosen, read⟩ := bind_eq_ok_iff.1 texts_read
      have each : Agree R
          ((names.zip texts).mapM fun pair => assertText location update storeFull pair.1 pair.2)
          ((names.zip texts).mapM fun pair => assertText location update storeFull pair.1 pair.2)
          session := by
        apply Agree.mapM
        intro pair member files _
        have among : pair.1 ∈ names := (List.of_mem_zip member).1
        refine assertText_agrees (fun full record compared => ?_) rfl
        exact changes location none record (.index chosen among compared)
      exact (assertIndex_agrees chosen read each).left

end Action

/-- **What every comparison keeps, the assertion keeps.**  It leaves the store alone, and what
it does does not depend on what has been logged. -/
theorem Request.act_agrees {request : Request} (changes : request.Changes R location update)
    (storeFull : Option Bool) (session : Session) :
    Action.Agree R (request.act location update storeFull)
      (request.act location update storeFull) session := by
  cases request with
  | name table caseName literal => exact Action.assertTable_agrees_self changes
  | index including excluding => exact Action.assertIndex_agrees_self changes

end Changes

/-! ## Assertions one after another -/

/-- An assertion with all that it works with but the files. -/
structure Assertion where
  store : Store
  environment : Environment
  location : Location
  update : Bool
  /-- Whether full texts are kept; nothing if the configuration is asked. -/
  storeFull : Option Bool
  request : Request

namespace Assertion

/-- The session in which an assertion works. -/
def enter (assertion : Assertion) (session : Session) : Session :=
  { session with store := assertion.store, environment := assertion.environment }

variable [Yaml.Reader] [Pattern.Finder]

/-- What an assertion gives, and the session afterwards. -/
def act (assertion : Assertion) (session : Session) : Except Failure (List Record) × Session :=
  (assertion.request.act assertion.location assertion.update assertion.storeFull).runIn
    (assertion.enter session)

/-- The session after assertions one after another, whether they pass or not. -/
def run (assertions : List Assertion) (session : Session) : Session :=
  assertions.foldl (fun session assertion => (assertion.act session).2) session

variable {R : FileTree → FileTree → Prop} [IsPreorder FileTree R]

/-- One assertion changes the files as each of its comparisons does. -/
theorem act_related {assertion : Assertion}
    (changes : assertion.request.Changes R assertion.location assertion.update)
    (session : Session) : R session.files (assertion.act session).2.files := by
  have agree := Request.act_agrees changes assertion.storeFull (assertion.enter session)
  exact agree.related

/-- Any number of assertions do. -/
theorem run_related {assertions : List Assertion}
    (changes : ∀ assertion ∈ assertions,
      assertion.request.Changes R assertion.location assertion.update)
    (session : Session) : R session.files (run assertions session).files := by
  induction assertions generalizing session with
  | nil => exact refl_of R session.files
  | cons assertion rest ih =>
      rw [List.forall_mem_cons] at changes
      have first := act_related changes.1 session
      exact trans_of R first (ih changes.2 (assertion.act session).2)

end Assertion

end IndexSnapshot
