import MoneyMachine.Orchestration.Idempotency
import MoneyMachine.Orchestration.Retry

/-!
# Engine — operator commands: retry, cancel, reconcile by hand

`retry_failed_job` and the manual `reconcile_uncertain_effect` look up the latest effect attempt by
job id, while the automatic reconciliation (`Reconciliation`) goes by idempotency key.
-/

namespace MoneyMachine
namespace Orchestration
namespace Engine

open MoneyMachine.Domain
open MoneyMachine.Library
open MoneyMachine.Persistence

/-- The latest effect attempt of a job, over all of its keys. -/
def latestEffectOfJob (db : Database) (jobId : Uuid) : Option EffectAttempt :=
  latestBy EffectAttempt.reconciliationAttempt
    (db.effectAttempts.filter (fun row => decide (row.jobId = jobId)))

/-- The latest effect attempt of a job is `CONFIRMED` or `ABSENT`. -/
def effectResolved (db : Database) (jobId : Uuid) : Bool :=
  (latestEffectOfJob db jobId).any
    (fun effect => decide (effect.effectState = .confirmed ∨ effect.effectState = .absent))

/-! ## Retry -/

/-- `reconciliation_resolved` as `retry_failed_job` computes it: consulted for `RECONCILE_FIRST`
only. -/
def reconciliationResolved (db : Database) (job : Job) : Bool :=
  decide (job.retryClass = .reconcileFirst) && effectResolved db job.id

/-- The columns `retry_failed_job` assigns; the attempt counter is not among them. -/
def retryColumns (now : Moment) (decision : RetryDecision) (job : Job) : Job :=
  { job.setStatus .ready with
    scheduledAt := decision.scheduledAt.getD job.scheduledAt
    updatedAt := now }

def retryFailedJob (db : Database) (jobId : Uuid) (now : Moment) :
    Except OrchestrationError (Database × Job) :=
  match db.jobs.get? jobId with
  | none => .error (.jobNotFound ("Job " ++ uuidStr jobId ++ " not found"))
  | some job =>
    if job.status ≠ .failed then
      .error (.invalidRetry ("Job is " ++ job.status.value ++ ", not FAILED"))
    else do
      let decision ← evaluateRetry job.retryClass job.attempt job.maxAttempts now
        (reconciliationResolved db job)
      if !decision.canRetry then
        .error (.invalidRetry ("Cannot retry: " ++ decision.reason))
      else do
        requireJobTransition .failed .ready
        -- `decision.nextAttempt` is not written.
        let db' ← db.updateJob jobId (retryColumns now decision)
          (fun _ => by simp [retryColumns])
        .ok (db', retryColumns now decision job)

/-! ## Cancellation -/

/-- The columns `cancel_workflow` assigns to a job. -/
def cancelColumns (now : Moment) (job : Job) : Job :=
  { job.setStatus .cancelled with updatedAt := now }

/-- The `PENDING` and `READY` jobs of a workflow. -/
def cancellableJobs (db : Database) (workflowId : Uuid) : List Job :=
  db.jobs.rows.filter
    (fun job => decide (job.workflowId = workflowId) &&
      (decide (job.status = .pending) || decide (job.status = .ready)))

/-- `workflow.completed_at = now`. -/
def completeWorkflow (db : Database) (workflowId : Uuid) (now : Moment) : Database :=
  { db with
    workflows := db.workflows.modify (fun workflow => decide (workflow.id = workflowId))
      (fun workflow => { workflow with completedAt := some now }) (fun _ => rfl) }

def cancelWorkflow (db : Database) (workflowId : Uuid) (now : Moment) :
    Except OrchestrationError (Database × Nat) :=
  match db.workflows.get? workflowId with
  | none => .error (.workflowNotFound ("Workflow " ++ uuidStr workflowId ++ " not found"))
  | some _ => do
      let jobs := cancellableJobs db workflowId
      jobs.forM (fun job => requireJobTransition job.status .cancelled)
      -- `RUNNING`, `FAILED`, `BLOCKED` and uncertain jobs keep their rows.
      let db' ← (completeWorkflow db workflowId now).updateJobs jobs (cancelColumns now)
        (fun _ => by simp [cancelColumns])
      .ok (db', jobs.length)

/-! ## Reconciliation by hand -/

/-- The columns `reconcile_uncertain_effect` assigns to the job. -/
def resolveColumns (now : Moment) (target : JobStatus) (job : Job) : Job :=
  { job.setStatus target with updatedAt := now }

/-- Rewrite the latest effect attempt of a job in place. -/
def rewriteEffect (effect : EffectAttempt) (effectState : EffectState)
    (providerObjectId : Option String) (now : Moment) (row : EffectAttempt) : EffectAttempt :=
  if row = effect then
    { row with
      effectState := effectState
      providerObjectId := providerObjectId
      observedAt := now }
  else
    row

def rewriteEffects (db : Database) (effect : EffectAttempt) (effectState : EffectState)
    (providerObjectId : Option String) (now : Moment) : Database :=
  { db with
    effectAttempts :=
      db.effectAttempts.map (rewriteEffect effect effectState providerObjectId now) }

/-- The two outcomes an operator may report. -/
def reportedOutcome (effectState : String) : Except OrchestrationError EffectState :=
  if effectState = "CONFIRMED" then
    .ok .confirmed
  else if effectState = "ABSENT" then
    .ok .absent
  else
    .error (.engine ("effect_state must be CONFIRMED or ABSENT, got " ++ effectState))

def reconcileUncertainEffect (db : Database) (jobId : Uuid) (effectState : String)
    (providerObjectId : Option String) (now : Moment) : Except OrchestrationError Database := do
  let state ← reportedOutcome effectState
  match db.jobs.get? jobId with
  | none => .error (.jobNotFound ("Job " ++ uuidStr jobId ++ " not found"))
  | some job =>
    if job.status ≠ .uncertainExternalEffect then
      .error (.engine ("Job " ++ uuidStr jobId ++ " is " ++ job.status.value ++
        ", expected UNCERTAIN_EXTERNAL_EFFECT"))
    else
      match latestEffectOfJob db jobId with
      | none => .error (.engine ("No effect attempt found for job " ++ uuidStr jobId))
      | some effect => do
          let target := if state = .confirmed then JobStatus.succeeded else .failed
          requireJobTransition job.status target
          if !effectStateEvidence state providerObjectId then
            -- The check of the table: an object id exactly when confirmed.
            .error (.integrity "effect_state_evidence")
          else
            (rewriteEffects db effect state providerObjectId now).updateJob jobId
              (resolveColumns now target) (fun _ => by simp [resolveColumns])

/-! ## What a successful call did -/

theorem retryFailedJob_eq_ok {db db' : Database} {jobId : Uuid} {now : Moment} {retried : Job}
    (h : retryFailedJob db jobId now = .ok (db', retried)) :
    ∃ job decision hid, db.jobs.get? jobId = some job ∧ job.status = .failed ∧
      evaluateRetry job.retryClass job.attempt job.maxAttempts now
        (reconciliationResolved db job) = .ok decision ∧ decision.canRetry = true ∧
        db.updateJob jobId (retryColumns now decision) hid = .ok db' := by
  unfold retryFailedJob at h
  cases hget : db.jobs.get? jobId with
  | none => simp [hget] at h
  | some job =>
    by_cases hfailed : job.status = .failed
    · simp only [hget, hfailed, ne_eq, not_true_eq_false, if_false] at h
      rcases bind_eq_ok.1 h with ⟨decision, hdecision, h⟩
      cases hcan : decision.canRetry with
      | false => simp [hcan] at h
      | true =>
        simp only [hcan, Bool.not_true, Bool.false_eq_true, if_false] at h
        rcases bind_eq_ok.1 h with ⟨_, _, h⟩
        rcases bind_eq_ok.1 h with ⟨db₁, hupd, h⟩
        cases h
        exact ⟨job, decision, _, rfl, hfailed, hdecision, hcan, hupd⟩
    · simp [hget, hfailed] at h

theorem mem_cancellableJobs {db : Database} {workflowId : Uuid} {job : Job} :
    job ∈ cancellableJobs db workflowId ↔
      job ∈ db.jobs ∧ job.workflowId = workflowId ∧
        (job.status = .pending ∨ job.status = .ready) := by
  simp [cancellableJobs, Table.mem_def]

theorem cancelWorkflow_eq_ok {db db' : Database} {workflowId : Uuid} {now : Moment} {count : Nat}
    (h : cancelWorkflow db workflowId now = .ok (db', count)) :
    ∃ workflow hid, db.workflows.get? workflowId = some workflow ∧
      (completeWorkflow db workflowId now).updateJobs (cancellableJobs db workflowId)
        (cancelColumns now) hid = .ok db' := by
  unfold cancelWorkflow at h
  cases hget : db.workflows.get? workflowId with
  | none => simp [hget] at h
  | some workflow =>
    simp only [hget] at h
    rcases bind_eq_ok.1 h with ⟨_, _, h⟩
    rcases bind_eq_ok.1 h with ⟨db₁, hupd, h⟩
    cases h
    exact ⟨workflow, _, rfl, hupd⟩

theorem reconcileUncertainEffect_eq_ok {db db' : Database} {jobId : Uuid} {effectState : String}
    {providerObjectId : Option String} {now : Moment}
    (h : reconcileUncertainEffect db jobId effectState providerObjectId now = .ok db') :
    ∃ job effect state target hid, db.jobs.get? jobId = some job ∧
      job.status = .uncertainExternalEffect ∧ latestEffectOfJob db jobId = some effect ∧
        ((state = .confirmed ∧ target = .succeeded) ∨ (state = .absent ∧ target = .failed)) ∧
          (rewriteEffects db effect state providerObjectId now).updateJob jobId
            (resolveColumns now target) hid = .ok db' := by
  unfold reconcileUncertainEffect at h
  rcases bind_eq_ok.1 h with ⟨state, hstate, h⟩
  have houtcome : state = .confirmed ∨ state = .absent := by
    unfold reportedOutcome at hstate
    split at hstate
    · cases hstate
      exact Or.inl rfl
    split at hstate
    · cases hstate
      exact Or.inr rfl
    · cases hstate
  cases hget : db.jobs.get? jobId with
  | none => simp [hget] at h
  | some job =>
    by_cases hstatus : job.status = .uncertainExternalEffect
    · cases heffect : latestEffectOfJob db jobId with
      | none => simp [hget, hstatus, heffect] at h
      | some effect =>
        simp only [hget, hstatus, heffect, ne_eq, not_true_eq_false, if_false] at h
        rcases bind_eq_ok.1 h with ⟨_, _, h⟩
        split at h
        · cases h
        · refine ⟨job, effect, state, _, _, rfl, hstatus, rfl, ?_, h⟩
          rcases houtcome with rfl | rfl
          · exact Or.inl ⟨rfl, rfl⟩
          · exact Or.inr ⟨rfl, rfl⟩
    · simp [hget, hstatus] at h

end Engine
end Orchestration
end MoneyMachine
