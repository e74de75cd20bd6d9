import MoneyMachine.Library.Runs
import MoneyMachine.Persistence.Tables

/-!
# DependencyResolver — when a pending job becomes ready

A `PENDING` job is promoted only when its predecessors have succeeded, its time has come, its
workflow is active, the product lifecycle is not terminal, and no other job reserved its key.
-/

namespace MoneyMachine
namespace Orchestration

open MoneyMachine.Domain
open MoneyMachine.Library
open MoneyMachine.Persistence

/-! ## The conditions -/

/-- A dependency blocks while `satisfied_at` is null or the predecessor has not succeeded.  A
missing predecessor compares as SQL `NULL` and does not block. -/
def dependencyUnsatisfied (db : Database) (dep : JobDependency) : Bool :=
  dep.satisfiedAt.isNone ||
    (db.jobs.get? dep.dependsOnJobId).any (fun job => decide (job.status ≠ .succeeded))

def checkDependenciesSatisfied (db : Database) (jobId : Uuid) : Bool :=
  !db.dependencies.any (fun dep => decide (dep.jobId = jobId) && dependencyUnsatisfied db dep)

/-- Missing workflows are not active. -/
def checkWorkflowActive (db : Database) (workflowId : Uuid) : Bool :=
  (db.workflows.get? workflowId).any (fun workflow => workflow.completedAt.isNone)

def checkIdempotencyCollision (db : Database) (jobId : Uuid) (idempotencyKey : String) : Bool :=
  db.idempotencyRecords.rows.any
    (fun record => decide (record.idempotencyKey = idempotencyKey) && decide (record.jobId ≠ jobId))

def checkProductLifecycleValid (db : Database) (workflowId : Uuid) : Bool :=
  (db.workflows.get? workflowId).any
    (fun workflow =>
      decide (workflow.productState ≠ .rejected) && decide (workflow.productState ≠ .deactivated))

def evaluateJobReadiness (db : Database) (jobId : Uuid) (now : Moment) : Bool × String :=
  match db.jobs.get? jobId with
  | none => (false, "Job " ++ uuidStr jobId ++ " not found")
  | some job =>
    if job.status ≠ .pending then
      (false, "Job is " ++ job.status.value ++ ", not PENDING")
    else if now < job.scheduledAt then
      (false, "Job scheduled for " ++ isoformat " " job.scheduledAt ++ ", now is " ++
        isoformat " " now)
    else if !checkDependenciesSatisfied db jobId then
      (false, "Dependencies not satisfied")
    else if !checkWorkflowActive db job.workflowId then
      (false, "Workflow is no longer active")
    else if !checkProductLifecycleValid db job.workflowId then
      (false, "Product lifecycle is terminal (REJECTED or DEACTIVATED)")
    else if job.idempotencyKey ≠ "" ∧ checkIdempotencyCollision db jobId job.idempotencyKey then
      (false, "Idempotency key " ++ job.idempotencyKey ++ " already reserved")
    else
      (true, "All conditions satisfied")

/-! ## Promotion -/

/-- The exception `promote_pending_to_ready` picks from the text of the reason. -/
def notReadyError (reason : String) : OrchestrationError :=
  -- The source looks for these words in the lower-cased reason, in this order.
  if mentions reason "dependencies" then .dependencyNotSatisfied reason
  else if mentions reason "workflow" then .workflowInactive reason
  else if mentions reason "idempotency" then .idempotencyCollision reason
  else .dependencyResolution reason

/-- The columns `promote_pending_to_ready` assigns. -/
def promoteColumns (now : Moment) (job : Job) : Job :=
  { job.setStatus .ready with updatedAt := now }

def promotePendingToReady (db : Database) (jobId : Uuid) (now : Moment) :
    Except OrchestrationError (Database × Job) :=
  match db.jobs.get? jobId with
  | none => .error (.dependencyResolution ("Job " ++ uuidStr jobId ++ " not found"))
  | some job =>
    if job.status ≠ .pending then
      .error (.dependencyResolution ("Job is " ++ job.status.value ++ ", not PENDING"))
    -- The lookup and the status test are repeated inside.
    else if !(evaluateJobReadiness db jobId now).1 then
      .error (notReadyError (evaluateJobReadiness db jobId now).2)
    else do
      requireJobTransition .pending .ready
      let db' ← db.updateJob jobId (promoteColumns now) (fun _ => by simp [promoteColumns])
      .ok (db', promoteColumns now job)

/-! ## Outcomes of predecessors -/

/-- The columns `propagate_dependency_failure` assigns. -/
def blockColumns (now : Moment) (job : Job) : Job :=
  { job.setStatus .blocked with updatedAt := now }

/-- `PENDING` jobs that depend directly on the failed job. -/
def pendingDependents (db : Database) (failedJobId : Uuid) : List Job :=
  db.jobs.rows.filter
    (fun job => decide (job.status = .pending) &&
      db.dependencies.any
        (fun dep => decide (dep.jobId = job.id) && decide (dep.dependsOnJobId = failedJobId)))

def propagateDependencyFailure (db : Database) (failedJobId : Uuid) (now : Moment) :
    Except OrchestrationError (Database × List Uuid) := do
  let dependents := pendingDependents db failedJobId
  requireJobTransition .pending .blocked
  let db' ← db.updateJobs dependents (blockColumns now) (fun _ => by simp [blockColumns])
  .ok (db', dependents.map Job.id)

def satisfyDependency (db : Database) (succeededJobId : Uuid) (now : Moment) : Database × Nat :=
  let waiting := fun dep : JobDependency =>
    decide (dep.dependsOnJobId = succeededJobId) && dep.satisfiedAt.isNone
  ({ db with
      dependencies := db.dependencies.map
        (fun dep => if waiting dep then { dep with satisfiedAt := some now } else dep) },
    (db.dependencies.filter waiting).length)

/-! ## What a successful call did -/

theorem evaluateJobReadiness_active {db : Database} {jobId : Uuid} {now : Moment} {job : Job}
    (hget : db.jobs.get? jobId = some job) (h : (evaluateJobReadiness db jobId now).1 = true) :
    checkWorkflowActive db job.workflowId = true := by
  by_contra hactive
  have hinactive : (!checkWorkflowActive db job.workflowId) = true := by simpa using hactive
  simp only [evaluateJobReadiness, hget, hinactive, if_true] at h
  -- Every way past the workflow check is closed, so each branch left answers `false`.
  split_ifs at h

theorem promotePendingToReady_eq_ok {db db' : Database} {jobId : Uuid} {now : Moment}
    {promoted : Job} (h : promotePendingToReady db jobId now = .ok (db', promoted)) :
    ∃ job hid, db.jobs.get? jobId = some job ∧ job.status = .pending ∧
      checkWorkflowActive db job.workflowId = true ∧
        db.updateJob jobId (promoteColumns now) hid = .ok db' ∧
          promoted = promoteColumns now job := by
  unfold promotePendingToReady at h
  cases hget : db.jobs.get? jobId with
  | none => simp [hget] at h
  | some job =>
    by_cases hpending : job.status = .pending
    · cases hready : (evaluateJobReadiness db jobId now).1 with
      | false => simp [hget, hpending, hready] at h
      | true =>
        have hactive := evaluateJobReadiness_active hget hready
        simp only [hget, hpending, hready, ne_eq, not_true_eq_false, if_false,
          Bool.not_true, Bool.false_eq_true] at h
        rcases bind_eq_ok.1 h with ⟨_, _, h⟩
        rcases bind_eq_ok.1 h with ⟨db₁, hupd, h⟩
        cases h
        exact ⟨job, _, rfl, hpending, hactive, hupd, rfl⟩
    · simp [hget, hpending] at h

theorem propagateDependencyFailure_eq_ok {db db' : Database} {failedJobId : Uuid} {now : Moment}
    {blocked : List Uuid} (h : propagateDependencyFailure db failedJobId now = .ok (db', blocked)) :
    ∃ hid, db.updateJobs (pendingDependents db failedJobId) (blockColumns now) hid = .ok db' := by
  unfold propagateDependencyFailure at h
  rcases bind_eq_ok.1 h with ⟨_, _, h⟩
  rcases bind_eq_ok.1 h with ⟨db₁, hupd, h⟩
  cases h
  exact ⟨_, hupd⟩

theorem mem_pendingDependents {db : Database} {failedJobId : Uuid} {job : Job}
    (h : job ∈ pendingDependents db failedJobId) : job ∈ db.jobs ∧ job.status = .pending := by
  rcases List.mem_filter.1 h with ⟨hmem, hp⟩
  simp only [Bool.and_eq_true, decide_eq_true_eq] at hp
  exact ⟨hmem, hp.1⟩

end Orchestration
end MoneyMachine
