import MoneyMachine.Orchestration.Operations

/-!
# DraftListingSuccessor — one completion and one draft job per product

`create_ready_draft_listing_job` records `ASSETS_COMPLETED` for a product and moves its one
`DraftListingJob` to `READY`.  The event is recorded under a key that names the product only; an
earlier release recorded it under a key that also names the workflow, and the dispatcher looks that
key up for the workflow of the call.  A product whose completion was recorded by another workflow
under the old key is therefore not recognised.

`one_completion_iff` says over all sequences of calls when the product keeps one completion.
-/

namespace MoneyMachine
namespace Assets

open MoneyMachine.Domain
open MoneyMachine.Library
open MoneyMachine.Persistence
open MoneyMachine.Orchestration

/-! ## The call -/

inductive DraftError
  /-- `prepare_etsy_draft` refused; nothing is written. -/
  | refused (message : String)
  /-- `RuntimeError("draft successor missing")`. -/
  | successorMissing
  | orchestration (error : OrchestrationError)
  deriving DecidableEq, Repr

/-- What one call depends on besides the product and the database. -/
structure DraftCall where
  specVersion : Int
  workflowId : Uuid
  occurredAt : Moment
  /-- The database's time at the insert. -/
  clock : Moment
  /-- `prepare_etsy_draft`: the listing id of its receipt, or its refusal. -/
  prepared : Except String Int

def draftJobType : String := "DraftListingJob"

/-- `derive_product_job_id(product_id, "DraftListingJob")`. -/
def draftJobId (digest : String → Uuid) (productId : Uuid) : Uuid :=
  digest (productIdInput productId draftJobType)

/-- The arguments `_record_ready_draft` dispatches with. -/
def DraftCall.args (productId : Uuid) (listingId : Int) (call : DraftCall) : DispatchArgs :=
  { eventName := .assetsCompleted
    aggregateType := "products"
    aggregateId := productId
    workflowId := some call.workflowId
    jobId := none
    payload := .obj [("spec_version", .int call.specVersion), ("listing_id", .int listingId)]
    occurredAt := call.occurredAt }

/-- The columns `_record_ready_draft` assigns. -/
def readyColumns (occurredAt : Moment) (job : Job) : Job :=
  { job.setStatus .ready with updatedAt := occurredAt }

/-- The loop over the target ids. -/
def readyEach (occurredAt : Moment) (db : Database) : List Uuid → Except DraftError Database
  | [] => .ok db
  | jobId :: rest =>
    match db.jobs.get? jobId with
    | none => .error .successorMissing
    | some job => do
        (requireJobTransition job.status .ready).mapError .orchestration
        let db₁ ← (db.updateJob jobId (readyColumns occurredAt)
          (fun _ => by simp [readyColumns])).mapError .orchestration
        readyEach occurredAt db₁ rest

section Call

variable (digest : String → Uuid) (productId : Uuid)

/-- `_record_ready_draft`. -/
def recordReadyDraft (db : Database) (listingId : Int) (call : DraftCall) :
    Except DraftError Database :=
  let existing := db.jobs.get? (draftJobId digest productId)
  if existing.any (fun job => decide (job.status = .ready)) then
    .ok db
  else do
    let (db₁, jobIds) ← (dispatch digest call.clock db (call.args productId listingId)).mapError
      .orchestration
    -- An existing event returns no ids; the job of the product is still moved.
    let targetIds := if jobIds.isEmpty then (existing.map Job.id).toList else jobIds
    readyEach call.occurredAt db₁ targetIds

def createReadyDraftListingJob (db : Database) (call : DraftCall) : Except DraftError Database :=
  match call.prepared with
  | .error message => .error (.refused message)
  | .ok listingId => recordReadyDraft digest productId db listingId call

/-- A call that raises is rolled back to its savepoint. -/
def draftCallStep (db : Database) (call : DraftCall) : Database :=
  match createReadyDraftListingJob digest productId db call with
  | .ok db' => db'
  | .error _ => db

end Call

/-! ## The law -/

/-- The completions of a product. -/
def completions (productId : Uuid) (db : Database) : List Event :=
  db.events.filter
    (fun event => decide (event.eventName = .assetsCompleted) &&
      decide (event.aggregateType = "products") && decide (event.aggregateId = productId))

def draftJobs (digest : String → Uuid) (productId : Uuid) (db : Database) : List Job :=
  db.jobs.rows.filter (fun job => decide (job.id = draftJobId digest productId))

/-- One completion and one draft job at most. -/
def OneCompletion (digest : String → Uuid) (productId : Uuid) (db : Database) : Prop :=
  (completions productId db).length ≤ 1 ∧ (draftJobs digest productId db).length ≤ 1

/-- The call does not fail on a primary key or an idempotency key. -/
def NoCollision (digest : String → Uuid) (productId : Uuid) (db : Database) (call : DraftCall) :
    Prop :=
  ∀ name, createReadyDraftListingJob digest productId db call ≠
    .error (.orchestration (.integrity name))

/-- The key of new rows. -/
def completionKey (productId : Uuid) : String :=
  EventName.assetsCompleted.value ++ ":" ++ uuidStr productId ++ ":product"

/-- The key of rows written by the earlier release. -/
def legacyKey (productId workflowId : Uuid) : String :=
  dedupeKey .assetsCompleted productId (some workflowId) none

/-- The dispatcher finds the completion: under its key, or under the old key with the workflow of
the call. -/
def completionRecorded (productId : Uuid) (db : Database) (call : DraftCall) : Bool :=
  eventRecorded db (legacyKey productId call.workflowId) ||
    eventRecorded db (completionKey productId)

/-- The draft job is `READY` already, or in a status that cannot become `READY`. -/
def DraftSettled (digest : String → Uuid) (productId : Uuid) (db : Database) : Prop :=
  ∃ job, db.jobs.get? (draftJobId digest productId) = some job ∧
    (job.status = .ready ∨ JobStatus.ready ∉ jobTransitions job.status)

/-- The call appends no completion beside another one: it is refused, there is none yet, the
dispatcher finds the one there is, or the draft job is settled. -/
def Recognises (digest : String → Uuid) (productId : Uuid) (db : Database) (call : DraftCall) :
    Prop :=
  (∃ message, call.prepared = .error message) ∨ completions productId db = [] ∨
    completionRecorded productId db call = true ∨ DraftSettled digest productId db

/-- The idempotency key of a product's draft job is used by that job only. -/
def KeyDerived (digest : String → Uuid) (productId : Uuid) (db : Database) : Prop :=
  ∀ job ∈ db.jobs, job.idempotencyKey = productKey productId draftJobType →
    job.id = draftJobId digest productId

/-! ## What a call does -/

section Spec

variable {digest : String → Uuid} {productId : Uuid} {db : Database} {call : DraftCall}
  {listingId : Int}

/-- The row a call appends. -/
def completionEvent (productId : Uuid) (listingId : Int) (call : DraftCall) : Event :=
  dispatchedEvent (call.args productId listingId) (completionKey productId)

theorem dispatchKey_product :
    dispatchKey db (call.args productId listingId) =
      .ok (completionKey productId, eventRecorded db (legacyKey productId call.workflowId)) := rfl

theorem dispatch_recorded (h : completionRecorded productId db call = true) :
    dispatch digest call.clock db (call.args productId listingId) = .ok (db, []) := by
  unfold dispatch
  rw [dispatchKey_product]
  exact if_pos h

/-- The database with the completion appended. -/
def withCompletion (db : Database) (productId : Uuid) (listingId : Int) (call : DraftCall) :
    Database :=
  { db with events := db.events ++ [completionEvent productId listingId call] }

theorem dispatch_unrecorded (h : completionRecorded productId db call = false) :
    dispatch digest call.clock db (call.args productId listingId) =
      createEach digest call.clock call.workflowId none (some productId) (some "products")
        call.occurredAt (withCompletion db productId listingId call) [draftJobType] := by
  have hfree := (Bool.or_eq_false_iff.1 h).2
  unfold dispatch
  rw [dispatchKey_product]
  have hinsert : db.insertEvent (completionEvent productId listingId call) =
      .ok (withCompletion db productId listingId call) := Database.insertEvent_ok hfree
  have hnot : ¬ (completionRecorded productId db call = true) := by simp [h]
  refine (if_neg hnot).trans ?_
  exact (congrArg (fun x => x >>= _) hinsert).trans rfl

/-- The configuration knows the draft job. -/
theorem findJobDefinition_draft : ∃ definition, findJobDefinition draftJobType = some definition :=
  Option.isSome_iff_exists.1 (by decide +kernel)

theorem createEach_existing {job : Job} {clock occurredAt : Moment} {workflowId : Uuid}
    (hget : db.jobs.get? (draftJobId digest productId) = some job) :
    createEach digest clock workflowId none (some productId) (some "products") occurredAt db
      [draftJobType] = .ok (db, [job.id]) := by
  rcases findJobDefinition_draft with ⟨definition, hdef⟩
  have hget' : db.jobs.get? (digest (productIdInput productId draftJobType)) = some job := hget
  have hcreate : createSuccessorJob digest clock db workflowId none (some productId) draftJobType
      occurredAt = .ok (db, job.id) := by
    unfold createSuccessorJob
    rw [hdef]
    dsimp only
    rw [if_pos (show draftJobType = "DraftListingJob" from rfl), hget']
  have hproduct : ¬ (draftJobType = "DraftListingJob" ∧ some "products" = some "Job") := by decide
  unfold createEach
  rw [if_neg hproduct]
  refine bind_eq_ok.2 ⟨(db, job.id), hcreate, ?_⟩
  exact bind_eq_ok.2 ⟨(db, []), rfl, rfl⟩

/-- Without a job of the product, its row is added. -/
theorem createEach_new (clock occurredAt : Moment) (workflowId : Uuid)
    (hget : db.jobs.get? (draftJobId digest productId) = none)
    (hkey : KeyDerived digest productId db) :
    ∃ (new : NewJob) (db' : Database),
      createEach digest clock workflowId none (some productId) (some "products") occurredAt db
        [draftJobType] = .ok (db', [draftJobId digest productId]) ∧
      new.id = draftJobId digest productId ∧ db'.events = db.events ∧
        db'.jobs.rows = db.jobs.rows ++ [new.row] := by
  rcases findJobDefinition_draft with ⟨definition, hdef⟩
  have hfree : ∀ job ∈ db.jobs, job.id ≠ draftJobId digest productId := by
    intro job hjob hid
    have hsome := Table.get?_eq_some_iff.2 ⟨hjob, hid⟩
    rw [hget] at hsome
    cases hsome
  have hunused : ∀ job ∈ db.jobs, job.idempotencyKey ≠ productKey productId draftJobType := by
    intro job hjob hsame
    exact hfree job hjob (hkey job hjob hsame)
  let new : NewJob := successorRow definition (draftJobId digest productId) workflowId none
    draftJobType (productKey productId draftJobType) occurredAt clock
  have hbudget : new.row.WithinBudget := by simp [new, successorRow, NewJob.row, Job.WithinBudget]
  rcases Database.insertJob_ok new hbudget hfree hunused with ⟨db', hins, hrows, hevents⟩
  refine ⟨new, db', ?_, rfl, hevents, hrows⟩
  have hcreate : createSuccessorJob digest clock db workflowId none (some productId) draftJobType
      occurredAt = .ok (db', draftJobId digest productId) := by
    unfold createSuccessorJob
    rw [hdef]
    dsimp only
    rw [if_pos (show draftJobType = "DraftListingJob" from rfl),
      show db.jobs.get? (digest (productIdInput productId draftJobType)) = none from hget]
    exact bind_eq_ok.2 ⟨db', hins, rfl⟩
  have hproduct : ¬ (draftJobType = "DraftListingJob" ∧ some "products" = some "Job") := by decide
  unfold createEach
  rw [if_neg hproduct]
  refine bind_eq_ok.2 ⟨(db', draftJobId digest productId), hcreate, ?_⟩
  exact bind_eq_ok.2 ⟨(db', []), rfl, rfl⟩

/-- Moving one job to `READY`: allowed by the table or refused by it. -/
theorem readyEach_singleton {job : Job} {jobId : Uuid} (occurredAt : Moment)
    (hget : db.jobs.get? jobId = some job) :
    (JobStatus.ready ∈ jobTransitions job.status ∧ ∃ db' hid,
      readyEach occurredAt db [jobId] = .ok db' ∧
        db.updateJob jobId (readyColumns occurredAt) hid = .ok db') ∨
    (JobStatus.ready ∉ jobTransitions job.status ∧ ∃ message,
      readyEach occurredAt db [jobId] = .error (.orchestration (.invalidTransition message))) := by
  by_cases hedge : JobStatus.ready ∈ jobTransitions job.status
  · have hbudget : ∀ row ∈ db.jobs, (readyColumns occurredAt row).WithinBudget := by
      intro row hrow
      simpa [readyColumns, Job.WithinBudget] using db.budget row hrow
    rcases Database.updateJob_ok jobId (fun _ => by simp [readyColumns]) hbudget with ⟨db', hupd⟩
    refine Or.inl ⟨hedge, db', _, ?_, hupd⟩
    simp [readyEach, hget, requireJobTransition, hedge, hupd, Except.mapError, bind, Except.bind]
  · refine Or.inr ⟨hedge, "invalid job transition: " ++ job.status.value ++ " -> " ++
      JobStatus.ready.value, ?_⟩
    simp only [readyEach, hget, requireJobTransition, hedge, if_false]
    rfl

theorem KeyDerived.of_update {db' : Database} {jobId : Uuid} {occurredAt : Moment}
    {hid : ∀ job, (readyColumns occurredAt job).id = job.id} (hkey : KeyDerived digest productId db)
    (hupd : db.updateJob jobId (readyColumns occurredAt) hid = .ok db') :
    KeyDerived digest productId db' := by
  intro job' hjob' hsame
  rcases (Database.updateJob_evolves hupd).exists_of_mem hjob' with hfalse | ⟨job, hjob, hid', hrow⟩
  · exact hfalse.elim
  rw [hid']
  refine hkey job hjob ?_
  rcases hrow with ⟨_, rfl⟩ | ⟨_, rfl⟩
  · simpa [readyColumns] using hsame
  · exact hsame

theorem updateJob_events {db' : Database} {jobId : Uuid} {f : Job → Job}
    {hid : ∀ job, (f job).id = job.id} (hupd : db.updateJob jobId f hid = .ok db') :
    db'.events = db.events := by
  rcases Database.flushJobs_eq_ok hupd with ⟨_, rfl⟩
  rfl

/-- The call records a completion. -/
def Appends (digest : String → Uuid) (productId : Uuid) (db : Database) (call : DraftCall) : Prop :=
  completionRecorded productId db call = false ∧ ¬ DraftSettled digest productId db

/-- Moving the product's job, once the dispatch has found or recorded the completion. -/
theorem readyEach_draft {db₁ : Database} {job : Job} (occurredAt : Moment)
    (hget : db₁.jobs.get? (draftJobId digest productId) = some job)
    (hnot : job.status ≠ .ready) (hkey : KeyDerived digest productId db₁) :
    (∃ db', readyEach occurredAt db₁ [draftJobId digest productId] = .ok db' ∧
      KeyDerived digest productId db' ∧ db'.events = db₁.events ∧
        ¬ DraftSettled digest productId db₁) ∨
    (∃ message, readyEach occurredAt db₁ [draftJobId digest productId] =
      .error (.orchestration (.invalidTransition message)) ∧ DraftSettled digest productId db₁) := by
  rcases readyEach_singleton occurredAt hget with
    ⟨hedge, db', _, hready, hupd⟩ | ⟨hedge, message, hraise⟩
  · refine Or.inl ⟨db', hready, hkey.of_update hupd, updateJob_events hupd, ?_⟩
    rintro ⟨job', hget', hsettled⟩
    rw [hget] at hget'
    cases hget'
    rcases hsettled with h | h
    · exact hnot h
    · exact h hedge
  · exact Or.inr ⟨message, hraise, job, hget, Or.inr hedge⟩

/-- Everything a prepared call can do: record what it has to and move the job, or be refused by the
transition table. -/
theorem recordReadyDraft_spec (listingId : Int) (call : DraftCall) (hkey : KeyDerived digest productId db) :
    (∃ db', recordReadyDraft digest productId db listingId call = .ok db' ∧
      KeyDerived digest productId db' ∧
        ((Appends digest productId db call ∧
          db'.events = db.events ++ [completionEvent productId listingId call]) ∨
        (¬ Appends digest productId db call ∧ db'.events = db.events))) ∨
    (∃ message, recordReadyDraft digest productId db listingId call =
      .error (.orchestration (.invalidTransition message)) ∧
        DraftSettled digest productId db) := by
  cases hget : db.jobs.get? (draftJobId digest productId) with
  | some job =>
    have hid : job.id = draftJobId digest productId := (Table.get?_eq_some_iff.1 hget).2
    by_cases hready : job.status = .ready
    · -- A second workflow finds the job ready and writes nothing.
      refine Or.inl ⟨db, by simp [recordReadyDraft, hget, hready], hkey, Or.inr ⟨?_, rfl⟩⟩
      exact fun happends => happends.2 ⟨job, hget, Or.inl hready⟩
    · cases hrecorded : completionRecorded productId db call with
      | true =>
        have hcall : recordReadyDraft digest productId db listingId call =
            readyEach call.occurredAt db [draftJobId digest productId] := by
          simp [recordReadyDraft, hget, hready, dispatch_recorded hrecorded, Except.mapError,
            bind, Except.bind, hid]
        rw [hcall]
        rcases readyEach_draft call.occurredAt hget hready hkey with
          ⟨db', hok, hkey', hevents, _⟩ | ⟨message, hraise, hsettled⟩
        · refine Or.inl ⟨db', hok, hkey', Or.inr ⟨?_, hevents⟩⟩
          simp [Appends, hrecorded]
        · exact Or.inr ⟨message, hraise, hsettled⟩
      | false =>
        have hget' : (withCompletion db productId listingId call).jobs.get?
            (draftJobId digest productId) = some job := hget
        have hcall : recordReadyDraft digest productId db listingId call =
            readyEach call.occurredAt (withCompletion db productId listingId call)
              [draftJobId digest productId] := by
          simp [recordReadyDraft, hget, hready, dispatch_unrecorded hrecorded,
            createEach_existing hget', Except.mapError, bind, Except.bind, hid]
        rw [hcall]
        rcases readyEach_draft call.occurredAt hget' hready hkey with
          ⟨db', hok, hkey', hevents, hnot⟩ | ⟨message, hraise, hsettled⟩
        · exact Or.inl ⟨db', hok, hkey', Or.inl ⟨⟨hrecorded, hnot⟩, hevents⟩⟩
        · exact Or.inr ⟨message, hraise, hsettled⟩
  | none =>
    have hopen : ¬ DraftSettled digest productId db := by
      rintro ⟨job, hget', _⟩
      rw [hget] at hget'
      cases hget'
    cases hrecorded : completionRecorded productId db call with
    | true =>
      -- The event is there and the job is not: the call leaves it so.
      have hcall : recordReadyDraft digest productId db listingId call = .ok db := by
        simp [recordReadyDraft, hget, dispatch_recorded hrecorded, Except.mapError, bind,
          Except.bind, readyEach]
      exact Or.inl ⟨db, hcall, hkey, Or.inr ⟨by simp [Appends, hrecorded], rfl⟩⟩
    | false =>
      have hget' : (withCompletion db productId listingId call).jobs.get?
          (draftJobId digest productId) = none := hget
      rcases createEach_new call.clock call.occurredAt call.workflowId hget' hkey with
        ⟨new, db₁, hcreate, hnewId, hevents₁, hrows⟩
      have hcall : recordReadyDraft digest productId db listingId call =
          readyEach call.occurredAt db₁ [draftJobId digest productId] := by
        simp [recordReadyDraft, hget, dispatch_unrecorded hrecorded, hcreate, Except.mapError,
          bind, Except.bind]
      have hmem : new.row ∈ db₁.jobs := by simp [Table.mem_def, hrows]
      have hget₁ : db₁.jobs.get? (draftJobId digest productId) = some new.row :=
        Table.get?_eq_some_iff.2 ⟨hmem, hnewId⟩
      have hkey₁ : KeyDerived digest productId db₁ := by
        intro row hrow hsame
        rw [Table.mem_def, hrows, List.mem_append, List.mem_singleton] at hrow
        rcases hrow with hold | rfl
        · exact hkey row hold hsame
        · exact hnewId
      rw [hcall]
      rcases readyEach_draft call.occurredAt hget₁ (by simp [NewJob.row]) hkey₁ with
        ⟨db', hok, hkey', hevents, _⟩ | ⟨_, _, job, hjob, hsettled⟩
      · exact Or.inl ⟨db', hok, hkey', Or.inl ⟨⟨hrecorded, hopen⟩, hevents.trans hevents₁⟩⟩
      · -- A new job is `PENDING` and may become `READY`.
        rw [hget₁] at hjob
        cases hjob
        simp [NewJob.row, jobTransitions] at hsettled

end Spec

/-! ## One call -/

section Step

variable {digest : String → Uuid} {productId : Uuid} {db : Database} {call : DraftCall}

theorem completions_append {listingId : Int} {db' : Database}
    (h : db'.events = db.events ++ [completionEvent productId listingId call]) :
    completions productId db' = completions productId db ++
      [completionEvent productId listingId call] := by
  unfold completions
  rw [h, List.filter_append]
  simp [completionEvent, dispatchedEvent, DraftCall.args]

theorem draftJobs_length (digest : String → Uuid) (productId : Uuid) (db : Database) : (draftJobs digest productId db).length ≤ 1 := by
  -- Two rows of one id would be two equal keys of the table.
  have hids : ((draftJobs digest productId db).map Job.id).Nodup :=
    (List.Sublist.map Job.id List.filter_sublist).nodup db.jobs.nodup
  have hall : ∀ id ∈ (draftJobs digest productId db).map Job.id, id = draftJobId digest productId := by
    intro id hid
    rcases List.mem_map.1 hid with ⟨job, hjob, rfl⟩
    simpa using (List.mem_filter.1 hjob).2
  rw [List.eq_replicate_of_mem hall, List.nodup_replicate, List.length_map] at hids
  exact hids

/-- With the draft job's key in order, no call collides, and the key stays in order. -/
theorem draftCallStep_keyDerived (hkey : KeyDerived digest productId db) :
    NoCollision digest productId db call ∧
      KeyDerived digest productId (draftCallStep digest productId db call) := by
  unfold NoCollision draftCallStep createReadyDraftListingJob
  cases call.prepared with
  | error message => simpa using hkey
  | ok listingId =>
    rcases recordReadyDraft_spec listingId call hkey with
      ⟨db', hok, hkey', _⟩ | ⟨message, hraise, _⟩
    · simpa [hok] using hkey'
    · simpa [hraise] using hkey

/-- A call keeps one completion exactly when it recognises the completion there is. -/
theorem draftCallStep_oneCompletion_iff (hkey : KeyDerived digest productId db)
    (hone : OneCompletion digest productId db) :
    OneCompletion digest productId (draftCallStep digest productId db call) ↔
      Recognises digest productId db call := by
  have hjobs := draftJobs_length digest productId (draftCallStep digest productId db call)
  cases hprepared : call.prepared with
  | error message =>
    have hsame : draftCallStep digest productId db call = db := by
      simp [draftCallStep, createReadyDraftListingJob, hprepared]
    rw [hsame]
    exact iff_of_true hone (Or.inl ⟨message, hprepared⟩)
  | ok listingId =>
    have hnot : ¬ ∃ message, call.prepared = .error message := by simp [hprepared]
    rcases recordReadyDraft_spec listingId call hkey with
      ⟨db', hok, _, hcases⟩ | ⟨message, hraise, hsettled⟩
    · have hstep : draftCallStep digest productId db call = db' := by
        simp [draftCallStep, createReadyDraftListingJob, hprepared, hok]
      rcases hcases with ⟨⟨hrecorded, hopen⟩, hevents⟩ | ⟨hstays, hevents⟩
      · -- A completion is appended; it must be the first.
        have happended := completions_append hevents
        constructor
        · rintro ⟨hlength, _⟩
          rw [hstep, happended, List.length_append, List.length_singleton] at hlength
          exact Or.inr (Or.inl (List.eq_nil_of_length_eq_zero (by omega)))
        · intro hrecognises
          refine ⟨?_, hjobs⟩
          rcases hrecognises with h | h | h | h
          · exact absurd h hnot
          · rw [hstep, happended, h]
            simp
          · simp [hrecorded] at h
          · exact absurd h hopen
      · have hkept : completions productId (draftCallStep digest productId db call) =
            completions productId db := by
          unfold completions
          rw [hstep, hevents]
        refine iff_of_true ⟨by rw [hkept]; exact hone.1, hjobs⟩ ?_
        by_cases hrecorded : completionRecorded productId db call = true
        · exact Or.inr (Or.inr (Or.inl hrecorded))
        · refine Or.inr (Or.inr (Or.inr ?_))
          by_contra hopen
          exact hstays ⟨by simpa using hrecorded, hopen⟩
    · have hsame : draftCallStep digest productId db call = db := by
        simp [draftCallStep, createReadyDraftListingJob, hprepared, hraise]
      rw [hsame]
      exact iff_of_true hone (Or.inr (Or.inr (Or.inr hsettled)))

end Step

/-! ## Sequences of calls -/

/-- From every state with one completion at most: every later state has one completion and one draft
job at most and no call collides, exactly when every call recognises the completion there is. -/
theorem one_completion_iff (digest : String → Uuid) {productId : Uuid} {db : Database}
    (hone : (completions productId db).length ≤ 1) (hkey : KeyDerived digest productId db)
    (calls : List DraftCall) :
    ((∀ n, OneCompletion digest productId
        (runFrom (draftCallStep digest productId) db (calls.take n))) ∧
      Along (draftCallStep digest productId) (NoCollision digest productId) db calls) ↔
      Along (draftCallStep digest productId) (Recognises digest productId) db calls := by
  have hkeys : ∀ calls, KeyDerived digest productId
      (runFrom (draftCallStep digest productId) db calls) :=
    fun calls => runFrom_invariant (I := KeyDerived digest productId)
      (fun _ _ h => (draftCallStep_keyDerived h).2) hkey calls
  have hany : Along (draftCallStep digest productId) (fun _ _ => True) db calls :=
    along_of_forall (fun _ _ => trivial)
  have hfree : Along (draftCallStep digest productId) (NoCollision digest productId) db calls :=
    along_of_invariant (I := KeyDerived digest productId)
      (fun _ _ h _ => (draftCallStep_keyDerived h).2)
      (fun _ _ h _ => (draftCallStep_keyDerived h).1) hkey hany
  have hstep : ∀ db call, OneCompletion digest productId db ∧ KeyDerived digest productId db →
      True → ((OneCompletion digest productId (draftCallStep digest productId db call) ∧
        KeyDerived digest productId (draftCallStep digest productId db call)) ↔
          Recognises digest productId db call) := by
    intro db call h _
    rw [← draftCallStep_oneCompletion_iff h.2 h.1]
    exact and_iff_left (draftCallStep_keyDerived h.2).2
  have hiff := along_iff_forall_take hstep ⟨⟨hone, draftJobs_length digest productId db⟩, hkey⟩
    (fun call (_ : call ∈ calls) => trivial)
  rw [← hiff]
  constructor
  · rintro ⟨hall, _⟩ n
    exact ⟨hall n, hkeys (calls.take n)⟩
  · intro hall
    exact ⟨fun n => (hall n).1, hfree⟩

/-- A call of the given workflow with a receipt. -/
def sampleCall (workflowId : Uuid) : DraftCall :=
  { specVersion := 1
    workflowId := workflowId
    occurredAt := minutes 5
    clock := minutes 5
    prepared := .ok 4001 }

theorem noJob_budget : ∀ job ∈ ([] : List Job), job.WithinBudget := by
  simp

/-- No job, and the completion of product 20 as the earlier release recorded it for workflow 7. -/
def legacyDatabase : Database :=
  { shops := []
    workflows := ⟨[sampleWorkflow, { sampleWorkflow with id := 8 }], by decide⟩
    jobs := ⟨[], List.nodup_nil⟩
    dependencies := []
    idempotencyRecords := ⟨[], List.nodup_nil⟩
    effectAttempts := []
    events := [dispatchedEvent ((sampleCall 7).args 20 4001) (legacyKey 20 7)]
    budget := noJob_budget }

/-- The workflow that recorded the completion announces it again. -/
theorem one_completion_same_workflow :
    (completions 20 legacyDatabase).length ≤ 1 ∧ KeyDerived sampleDigest 20 legacyDatabase ∧
      ∀ n, OneCompletion sampleDigest 20
        (runFrom (draftCallStep sampleDigest 20) legacyDatabase
          ([sampleCall 7, sampleCall 7].take n)) := by
  have hone : (completions 20 legacyDatabase).length ≤ 1 := by decide +kernel
  have hkey : KeyDerived sampleDigest 20 legacyDatabase := by
    intro job hjob
    simp [legacyDatabase, Table.mem_def] at hjob
  refine ⟨hone, hkey, ((one_completion_iff sampleDigest hone hkey
    [sampleCall 7, sampleCall 7]).2 ⟨?_, ?_, trivial⟩).1⟩
  · exact Or.inr (Or.inr (Or.inl (by decide +kernel)))
  · exact Or.inr (Or.inr (Or.inl (by decide +kernel)))

/-- Another workflow announces it: the product has two completions. -/
theorem two_completions_other_workflow :
    ¬ ∀ (digest : String → Uuid) (productId : Uuid) (db : Database) (calls : List DraftCall),
      (completions productId db).length ≤ 1 →
        (∀ event ∈ completions productId db, event.dedupeKey = completionKey productId ∨
          ∃ workflowId, event.dedupeKey = legacyKey productId workflowId) →
          KeyDerived digest productId db →
            OneCompletion digest productId
              (runFrom (draftCallStep digest productId) db calls) := by
  intro h
  have hone : (completions 20 legacyDatabase).length ≤ 1 := by decide +kernel
  have hlegacy : ∀ event ∈ completions 20 legacyDatabase, event.dedupeKey = completionKey 20 ∨
      ∃ workflowId, event.dedupeKey = legacyKey 20 workflowId := by
    intro event hevent
    have hmem : event ∈ legacyDatabase.events := List.mem_of_mem_filter hevent
    simp only [legacyDatabase, List.mem_singleton] at hmem
    exact Or.inr ⟨7, by rw [hmem]; rfl⟩
  have hkey : KeyDerived sampleDigest 20 legacyDatabase := by
    intro job hjob
    simp [legacyDatabase, Table.mem_def] at hjob
  have hrun := (h sampleDigest 20 legacyDatabase [sampleCall 8] hone hlegacy hkey).1
  have htwo : (completions 20 (runFrom (draftCallStep sampleDigest 20) legacyDatabase
      [sampleCall 8])).length = 2 := by
    decide +kernel
  omega

end Assets
end MoneyMachine
