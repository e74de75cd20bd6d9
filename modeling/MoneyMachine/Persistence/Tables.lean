import MoneyMachine.Domain.Basic
import MoneyMachine.Domain.Json
import MoneyMachine.Library.Runs
import MoneyMachine.Library.Table
import MoneyMachine.Orchestration.TransitionGuard

/-!
# Tables — the rows orchestration reads and writes

Only the columns that a modelled operation reads or writes are kept.  `Database` carries the
constraints the schema enforces on the job table: distinct primary keys (through `Table`) and the
two attempt-budget checks, so a database that violates one of them cannot be built.

`Job.statusWrites` is a history variable: the changes of the status column so far, oldest first.
No operation reads it; it is there to state what runs do to a job.
-/

namespace MoneyMachine
namespace Persistence

open MoneyMachine.Domain
open MoneyMachine.Library
open MoneyMachine.Orchestration

/-! ## Rows -/

structure Shop where
  id : Uuid
  name : String
  deriving DecidableEq, Repr

/-- One durable product workflow. -/
structure WorkflowRun where
  id : Uuid
  shopId : Uuid
  productState : ProductLifecycleState
  completedAt : Option Moment
  deriving DecidableEq, Repr

/-- One change of a job's status column. -/
structure StatusWrite where
  source : JobStatus
  target : JobStatus
  deriving DecidableEq, Repr

/-- A durable unit of work. -/
structure Job where
  id : Uuid
  workflowId : Uuid
  jobType : String
  objectType : String
  objectId : Uuid
  ownerAgentId : String
  status : JobStatus
  input : Json
  successContract : Json
  scheduledAt : Moment
  attempt : Int
  maxAttempts : Int
  idempotencyKey : String
  sideEffectClass : SideEffectClass
  retryClass : RetryClass
  allowedMode : AutonomyMode
  leaseOwner : Option String
  leaseExpiresAt : Option Moment
  heartbeatAt : Option Moment
  updatedAt : Moment
  statusWrites : List StatusWrite
  deriving Repr

/-- A predecessor that must succeed before a job becomes ready. -/
structure JobDependency where
  jobId : Uuid
  dependsOnJobId : Uuid
  satisfiedAt : Option Moment
  deriving DecidableEq, Repr

/-- The reservation that makes one external effect happen at most once. -/
structure IdempotencyRecord where
  idempotencyKey : String
  jobId : Uuid
  operation : String
  sideEffectClass : SideEffectClass
  reservedAt : Moment
  completedAt : Option Moment
  deriving DecidableEq, Repr

/-- One attempted external effect and its reconciliation outcome. -/
structure EffectAttempt where
  idempotencyKey : String
  jobId : Uuid
  agentRunId : Option Uuid
  provider : String
  operation : String
  effectState : EffectState
  providerObjectId : Option String
  reconciliationAttempt : Int
  observedAt : Moment
  recordedAt : Moment
  deriving DecidableEq, Repr

/-- Append-only durable domain event. -/
structure Event where
  eventName : EventName
  aggregateType : String
  aggregateId : Uuid
  workflowId : Option Uuid
  jobId : Option Uuid
  payload : Json
  dedupeKey : String
  occurredAt : Moment
  deriving Repr

/-- The columns a caller chooses when it adds a job; the others take the values of a job that has
not started. -/
structure NewJob where
  id : Uuid
  workflowId : Uuid
  jobType : String
  objectType : String
  objectId : Uuid
  ownerAgentId : String
  input : Json
  successContract : Json
  scheduledAt : Moment
  maxAttempts : Int
  idempotencyKey : String
  sideEffectClass : SideEffectClass
  retryClass : RetryClass
  allowedMode : AutonomyMode
  createdAt : Moment
  deriving Repr

def NewJob.row (new : NewJob) : Job :=
  { id := new.id
    workflowId := new.workflowId
    jobType := new.jobType
    objectType := new.objectType
    objectId := new.objectId
    ownerAgentId := new.ownerAgentId
    status := .pending
    input := new.input
    successContract := new.successContract
    scheduledAt := new.scheduledAt
    attempt := 0
    maxAttempts := new.maxAttempts
    idempotencyKey := new.idempotencyKey
    sideEffectClass := new.sideEffectClass
    retryClass := new.retryClass
    allowedMode := new.allowedMode
    leaseOwner := none
    leaseExpiresAt := none
    heartbeatAt := none
    updatedAt := new.createdAt
    statusWrites := [] }

/-! ## The job row -/

namespace Job

/-- Assign the status column; an assignment of the value the column holds changes nothing. -/
def setStatus (job : Job) (status : JobStatus) : Job :=
  if job.status = status then
    job
  else
    { job with
      status := status
      statusWrites := job.statusWrites ++ [⟨job.status, status⟩] }

def clearLease (job : Job) : Job :=
  { job with leaseOwner := none, leaseExpiresAt := none, heartbeatAt := none }

/-- The checks `attempt_within_budget` and `positive_attempt_budget`. -/
def WithinBudget (job : Job) : Prop :=
  job.attempt ≤ job.maxAttempts ∧ 0 < job.maxAttempts

instance (job : Job) : Decidable job.WithinBudget :=
  inferInstanceAs (Decidable (_ ∧ _))

/-- How often the job was claimed: the changes `READY → RUNNING` of its status. -/
def claims (job : Job) : Nat :=
  job.statusWrites.countP (fun w => decide (w = ⟨.ready, .running⟩))

@[simp] theorem setStatus_status (job : Job) (status : JobStatus) :
    (job.setStatus status).status = status := by
  unfold setStatus
  split <;> simp_all

theorem setStatus_statusWrites (job : Job) (status : JobStatus) :
    (job.setStatus status).statusWrites =
      job.statusWrites ++ if job.status = status then [] else [⟨job.status, status⟩] := by
  unfold setStatus
  split <;> simp

section Frame

variable (job : Job) (status : JobStatus)

@[simp] theorem setStatus_id : (job.setStatus status).id = job.id := by
  unfold setStatus; split <;> rfl

@[simp] theorem setStatus_workflowId : (job.setStatus status).workflowId = job.workflowId := by
  unfold setStatus; split <;> rfl

@[simp] theorem setStatus_ownerAgentId :
    (job.setStatus status).ownerAgentId = job.ownerAgentId := by
  unfold setStatus; split <;> rfl

@[simp] theorem setStatus_attempt : (job.setStatus status).attempt = job.attempt := by
  unfold setStatus; split <;> rfl

@[simp] theorem setStatus_maxAttempts : (job.setStatus status).maxAttempts = job.maxAttempts := by
  unfold setStatus; split <;> rfl

@[simp] theorem setStatus_retryClass : (job.setStatus status).retryClass = job.retryClass := by
  unfold setStatus; split <;> rfl

@[simp] theorem setStatus_leaseOwner : (job.setStatus status).leaseOwner = job.leaseOwner := by
  unfold setStatus; split <;> rfl

@[simp] theorem setStatus_leaseExpiresAt :
    (job.setStatus status).leaseExpiresAt = job.leaseExpiresAt := by
  unfold setStatus; split <;> rfl

@[simp] theorem setStatus_heartbeatAt : (job.setStatus status).heartbeatAt = job.heartbeatAt := by
  unfold setStatus; split <;> rfl

@[simp] theorem setStatus_idempotencyKey :
    (job.setStatus status).idempotencyKey = job.idempotencyKey := by
  unfold setStatus; split <;> rfl

end Frame

end Job

/-! ## The database -/

structure Database where
  shops : List Shop
  workflows : Table WorkflowRun WorkflowRun.id
  jobs : Table Job Job.id
  dependencies : List JobDependency
  idempotencyRecords : Table IdempotencyRecord IdempotencyRecord.idempotencyKey
  effectAttempts : List EffectAttempt
  events : List Event
  budget : ∀ job ∈ jobs.rows, job.WithinBudget

namespace Database

/-- Flush job rows: the attempt-budget checks either hold of every row or refuse the write. -/
def flushJobs (db : Database) (jobs : Table Job Job.id) : Except OrchestrationError Database :=
  if h : ∀ job ∈ jobs.rows, job.WithinBudget then
    .ok { db with jobs := jobs, budget := h }
  else
    .error (.integrity "attempt_within_budget")

/-- Assign columns of the job with the given id and flush. -/
def updateJob (db : Database) (jobId : Uuid) (f : Job → Job) (hf : ∀ job, (f job).id = job.id) :
    Except OrchestrationError Database :=
  db.flushJobs (db.jobs.modify (fun job => decide (job.id = jobId)) f hf)

/-- Assign columns of every job a query returned and flush once. -/
def updateJobs (db : Database) (picked : List Job) (f : Job → Job)
    (hf : ∀ job, (f job).id = job.id) : Except OrchestrationError Database :=
  db.flushJobs (db.jobs.modify (fun job => decide (job.id ∈ picked.map Job.id)) f hf)

/-- Add a job: the primary key, the unique idempotency key and the budget checks must hold. -/
def insertJob (db : Database) (new : NewJob) : Except OrchestrationError Database :=
  if db.jobs.rows.any (fun job => decide (job.idempotencyKey = new.idempotencyKey)) then
    .error (.integrity "jobs_idempotency_key")
  else
    match db.jobs.insert? new.row with
    | none => .error (.integrity "jobs_pkey")
    | some jobs => db.flushJobs jobs

/-- Add an event unless its dedupe key is taken. -/
def insertEvent (db : Database) (event : Event) : Except OrchestrationError Database :=
  if db.events.any (fun old => decide (old.dedupeKey = event.dedupeKey)) then
    .error (.integrity "events_dedupe_key")
  else
    .ok { db with events := db.events ++ [event] }

def insertEvents (db : Database) (events : List Event) : Except OrchestrationError Database :=
  events.foldlM insertEvent db

theorem flushJobs_eq_ok {db db' : Database} {jobs : Table Job Job.id}
    (h : db.flushJobs jobs = .ok db') :
    ∃ hbudget, db' = { db with jobs := jobs, budget := hbudget } := by
  unfold flushJobs at h
  split at h
  · rename_i hbudget
    cases h
    exact ⟨hbudget, rfl⟩
  · cases h

theorem flushJobs_ok (db : Database) {jobs : Table Job Job.id}
    (h : ∀ job ∈ jobs.rows, job.WithinBudget) :
    db.flushJobs jobs = .ok { db with jobs := jobs, budget := h } := by
  unfold flushJobs
  rw [dif_pos h]

/-- Updating picked jobs succeeds when their new rows stay within budget. -/
theorem updateJobs_ok {db : Database} {picked : List Job} {f : Job → Job}
    (hid : ∀ job, (f job).id = job.id) (hpicked : ∀ job ∈ picked, job ∈ db.jobs)
    (hrow : ∀ job ∈ picked, (f job).WithinBudget) :
    ∃ db', db.updateJobs picked f hid = .ok db' := by
  refine ⟨_, flushJobs_ok db ?_⟩
  intro job' hjob'
  rcases (Table.mem_modify hid).1 hjob' with ⟨job, hjob, rfl⟩
  by_cases hsel : job.id ∈ picked.map Job.id
  · rcases List.mem_map.1 hsel with ⟨picked', hin, hkey⟩
    have heq : picked' = job := Table.eq_of_key_eq (hpicked picked' hin) hjob hkey
    simpa [hsel] using hrow job (heq ▸ hin)
  · simpa [hsel] using db.budget job hjob

theorem updateJob_ok {db : Database} {f : Job → Job} (jobId : Uuid)
    (hid : ∀ job, (f job).id = job.id) (hrow : ∀ job ∈ db.jobs, (f job).WithinBudget) :
    ∃ db', db.updateJob jobId f hid = .ok db' := by
  refine ⟨_, flushJobs_ok db ?_⟩
  intro job' hjob'
  rcases (Table.mem_modify hid).1 hjob' with ⟨job, hjob, rfl⟩
  by_cases hsel : job.id = jobId
  · simpa [hsel] using hrow job hjob
  · simpa [hsel] using db.budget job hjob

section Evolution

variable {db db' : Database} {R : Job → Job → Prop} {N : Job → Prop} {f : Job → Job}
  {hid : ∀ job, (f job).id = job.id}

/-- Updating one job: the row with that id changes by `f`, the others stay. -/
theorem updateJob_evolves {jobId : Uuid} (h : db.updateJob jobId f hid = .ok db') :
    Table.Evolves
      (fun job job' => (job.id = jobId ∧ job' = f job) ∨ (job.id ≠ jobId ∧ job' = job))
      (fun _ => False) db.jobs db'.jobs := by
  rcases flushJobs_eq_ok h with ⟨_, rfl⟩
  refine Table.evolves_modify hid ?_ ?_
  · intro job _ hsel
    exact Or.inr ⟨by simpa using hsel, rfl⟩
  · intro job _ hsel
    exact Or.inl ⟨by simpa using hsel, rfl⟩

/-- The updated row, looked up again. -/
theorem get?_updateJob {jobId : Uuid} {job : Job} (h : db.updateJob jobId f hid = .ok db')
    (hget : db.jobs.get? jobId = some job) : db'.jobs.get? jobId = some (f job) := by
  rcases Table.get?_eq_some_iff.1 hget with ⟨hmem, hkey⟩
  rcases (updateJob_evolves h).exists_mem hmem with ⟨job', hmem', hkey', hrow⟩
  rcases hrow with ⟨_, rfl⟩ | ⟨hne, _⟩
  · exact Table.get?_eq_some_iff.2 ⟨hmem', hkey'.trans hkey⟩
  · exact absurd hkey hne

/-- Updating the jobs a query returned: exactly the picked rows change by `f`. -/
theorem updateJobs_evolves {picked : List Job} (h : db.updateJobs picked f hid = .ok db')
    (hpicked : ∀ job ∈ picked, job ∈ db.jobs) (hstay : ∀ job, R job job)
    (hrow : ∀ job ∈ picked, R job (f job)) : Table.Evolves R N db.jobs db'.jobs := by
  rcases flushJobs_eq_ok h with ⟨_, rfl⟩
  refine Table.evolves_modify hid (fun job _ _ => hstay job) ?_
  intro job hjob hsel
  have hmem : job.id ∈ picked.map Job.id := by simpa using hsel
  rcases List.mem_map.1 hmem with ⟨picked', hin, hkey⟩
  have heq : picked' = job := Table.eq_of_key_eq (hpicked picked' hin) hjob hkey
  exact hrow job (heq ▸ hin)

end Evolution

theorem insertJob_eq_ok {db db' : Database} {new : NewJob} (h : db.insertJob new = .ok db') :
    ∃ jobs hbudget, db.jobs.insert? new.row = some jobs ∧
      (∀ job ∈ db.jobs, job.idempotencyKey ≠ new.idempotencyKey) ∧
        db' = { db with jobs := jobs, budget := hbudget } := by
  unfold insertJob at h
  split at h
  · cases h
  · rename_i hkey
    cases hins : db.jobs.insert? new.row with
    | none => simp [hins] at h
    | some jobs =>
      simp only [hins] at h
      rcases flushJobs_eq_ok h with ⟨hbudget, rfl⟩
      refine ⟨jobs, hbudget, rfl, ?_, rfl⟩
      intro job hjob heq
      exact hkey (List.any_eq_true.2 ⟨job, hjob, by simpa using heq⟩)

theorem insertJob_mem {db db' : Database} {new : NewJob} (h : db.insertJob new = .ok db') :
    new.row ∈ db'.jobs := by
  rcases insertJob_eq_ok h with ⟨jobs, _, hins, _, rfl⟩
  rw [Table.mem_def, Table.insert?_eq_some hins]
  exact List.mem_append_right _ (List.mem_singleton_self _)

/-- A job whose id and idempotency key are free can be added. -/
theorem insertJob_ok {db : Database} (new : NewJob) (hbudget : new.row.WithinBudget)
    (hid : ∀ job ∈ db.jobs, job.id ≠ new.id)
    (hkey : ∀ job ∈ db.jobs, job.idempotencyKey ≠ new.idempotencyKey) :
    ∃ db', db.insertJob new = .ok db' ∧ db'.jobs.rows = db.jobs.rows ++ [new.row] ∧
      db'.events = db.events := by
  rcases Table.insert?_of_free (r := new.row) hid with ⟨jobs, hins, hrows⟩
  have hall : ∀ job ∈ jobs.rows, job.WithinBudget := by
    intro job hjob
    rw [hrows] at hjob
    rcases List.mem_append.1 hjob with hold | hnew
    · exact db.budget job hold
    · rw [List.mem_singleton] at hnew
      exact hnew ▸ hbudget
  have hunused : db.jobs.rows.any
      (fun job => decide (job.idempotencyKey = new.idempotencyKey)) = false := by
    rw [List.any_eq_false]
    intro job hjob hsame
    exact hkey job hjob (of_decide_eq_true hsame)
  refine ⟨{ db with jobs := jobs, budget := hall }, ?_, hrows, rfl⟩
  simp only [insertJob, hunused, hins, Bool.false_eq_true, if_false]
  exact flushJobs_ok db hall

theorem insertEvent_ok {db : Database} {event : Event}
    (h : db.events.any (fun old => decide (old.dedupeKey = event.dedupeKey)) = false) :
    db.insertEvent event = .ok { db with events := db.events ++ [event] } := by
  simp [insertEvent, h]

theorem insertEvent_eq_ok {db db' : Database} {event : Event} (h : db.insertEvent event = .ok db') :
    db' = { db with events := db.events ++ [event] } := by
  unfold insertEvent at h
  split at h
  · cases h
  · cases h
    rfl

theorem insertEvents_eq_ok {db db' : Database} {events : List Event}
    (h : db.insertEvents events = .ok db') :
    db' = { db with events := db.events ++ events } := by
  induction events generalizing db with
  | nil =>
    cases h
    simp
  | cons event events ih =>
    rcases bind_eq_ok.1 h with ⟨db₁, hfirst, hrest⟩
    have hdb₁ := insertEvent_eq_ok hfirst
    subst hdb₁
    simpa using ih hrest

theorem insertEvents_eq_error {db : Database} {events : List Event} {error : OrchestrationError}
    (h : db.insertEvents events = .error error) : error = .integrity "events_dedupe_key" := by
  induction events generalizing db with
  | nil => cases h
  | cons event events ih =>
    cases hfirst : db.insertEvent event with
    | ok db₁ =>
      have hrest : db₁.insertEvents events = .error error := by
        simpa [insertEvents, hfirst, bind, Except.bind] using h
      exact ih hrest
    | error e =>
      have he : e = error := by
        simpa [insertEvents, hfirst, bind, Except.bind] using h
      unfold insertEvent at hfirst
      split at hfirst
      · cases hfirst
        exact he.symm
      · cases hfirst

end Database

end Persistence
end MoneyMachine
