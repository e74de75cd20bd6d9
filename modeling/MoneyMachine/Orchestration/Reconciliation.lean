import MoneyMachine.Orchestration.Idempotency

/-!
# Reconciliation — asking the provider what happened to an uncertain effect

The provider is a parameter: a reconciler answers a query with an outcome or fails.  Each query is
recorded as one more row of the job's idempotency key, numbered one above the latest row.
-/

namespace MoneyMachine
namespace Orchestration
namespace Reconciliation

open MoneyMachine.Domain
open MoneyMachine.Library
open MoneyMachine.Persistence

/-- What one provider query found, or the error it raised. -/
abbrev Reconciler := String → String → Except OrchestrationError (EffectState × Option String)

/-- The answers the reconciler protocol allows: an object id exactly when confirmed. -/
def Reconciler.Conforms (reconciler : Reconciler) : Prop :=
  ∀ key operation, ∃ state objectId, reconciler key operation = .ok (state, objectId) ∧
    (state = .confirmed ↔ objectId.isSome = true)

structure ReconciliationResult where
  effectState : EffectState
  nextJobStatus : JobStatus
  reconciliationAttempt : Int
  providerObjectId : Option String
  reason : String
  deriving DecidableEq, Repr

/-- `_extract_provider`: the text before the first dot. -/
def extractProvider (operation : String) : String :=
  String.ofList (operation.toList.takeWhile (· ≠ '.'))

/-- The count of the latest row, or zero. -/
def currentReconciliation (db : Database) (idempotencyKey : String) : Int :=
  match getLatestEffectAttempt db idempotencyKey with
  | none => 0
  | some latest => latest.reconciliationAttempt

/-- The status and reason that follow from the outcome of query number `next`. -/
def nextStatus (effectState : EffectState) (next maxReconciliationAttempts : Int) :
    JobStatus × String :=
  match effectState with
  | .confirmed => (.succeeded, "reconciled as CONFIRMED (attempt " ++ toString next ++ ")")
  | .absent => (.failed, "reconciled as ABSENT (attempt " ++ toString next ++ ")")
  | .unknown =>
    if maxReconciliationAttempts ≤ next then
      (.blocked, "reconciliation budget exhausted after " ++ toString next ++ " attempts")
    else
      (.uncertainExternalEffect, "still UNKNOWN after " ++ toString next ++ " attempts")

/-- The row one query records. -/
def reconciliationRow (record : IdempotencyRecord) (idempotencyKey : String) (jobId : Uuid)
    (effectState : EffectState) (providerObjectId : Option String) (next : Int) (now : Moment) :
    EffectAttempt :=
  { idempotencyKey := idempotencyKey
    jobId := jobId
    agentRunId := none
    provider := extractProvider record.operation
    operation := record.operation
    effectState := effectState
    providerObjectId := providerObjectId
    reconciliationAttempt := next
    observedAt := now
    recordedAt := now }

def reconcileUncertainEffect (db : Database) (jobId : Uuid) (reconciler : Reconciler)
    (maxReconciliationAttempts : Int) (now : Moment) :
    Except OrchestrationError (Database × ReconciliationResult) :=
  match db.jobs.get? jobId with
  | none => .error (.valueError ("job " ++ uuidStr jobId ++ " not found"))
  | some job =>
    if job.status ≠ .uncertainExternalEffect then
      .error (.valueError ("job " ++ uuidStr jobId ++ " is " ++ job.status.value ++
        ", expected UNCERTAIN_EXTERNAL_EFFECT"))
    else
      match getIdempotencyRecord db job.idempotencyKey with
      | none =>
        .error (.valueError ("no idempotency record for job " ++ uuidStr jobId ++ " key '" ++
          job.idempotencyKey ++ "'"))
      | some record =>
        let next := currentReconciliation db job.idempotencyKey + 1
        -- Compared before the query: a count at the maximum is refused.
        if maxReconciliationAttempts < next then
          .error (.reconciliationBudgetExhausted
            ("job " ++ uuidStr jobId ++ " reconciliation budget exhausted (" ++
              toString next ++ "/" ++ toString maxReconciliationAttempts ++ ")"))
        else do
          let (effectState, providerObjectId) ←
            reconciler job.idempotencyKey record.operation
          let db' ← recordEffectAttempt db
            (reconciliationRow record job.idempotencyKey jobId effectState providerObjectId
              next now)
          .ok
            (db',
              { effectState := effectState
                nextJobStatus := (nextStatus effectState next maxReconciliationAttempts).1
                reconciliationAttempt := next
                providerObjectId := providerObjectId
                reason := (nextStatus effectState next maxReconciliationAttempts).2 })

/-! ## Applying a result -/

/-- The columns `apply_reconciliation_result` assigns. -/
def applyColumns (now : Moment) (target : JobStatus) (job : Job) : Job :=
  { job.setStatus target with updatedAt := now }

def applyReconciliationResult (db : Database) (jobId : Uuid) (result : ReconciliationResult)
    (now : Moment) : Except OrchestrationError Database :=
  match db.jobs.get? jobId with
  | none => .error (.valueError ("job " ++ uuidStr jobId ++ " not found"))
  | some job =>
    if job.status = .uncertainExternalEffect ∧
        result.nextJobStatus = .uncertainExternalEffect then
      -- Still unknown below the maximum: the row is not touched, not even `updated_at`.
      .ok db
    else do
      requireJobTransition job.status result.nextJobStatus
      db.updateJob jobId (applyColumns now result.nextJobStatus)
        (fun _ => by simp [applyColumns])

/-! ## What a successful call did -/

theorem reconcileUncertainEffect_eq_ok {db db' : Database} {jobId : Uuid} {reconciler : Reconciler}
    {maxAttempts : Int} {now : Moment} {result : ReconciliationResult}
    (h : reconcileUncertainEffect db jobId reconciler maxAttempts now = .ok (db', result)) :
    ∃ job record, db.jobs.get? jobId = some job ∧ job.status = .uncertainExternalEffect ∧
      getIdempotencyRecord db job.idempotencyKey = some record ∧
      currentReconciliation db job.idempotencyKey + 1 ≤ maxAttempts ∧
      result.reconciliationAttempt = currentReconciliation db job.idempotencyKey + 1 ∧
      result.nextJobStatus =
        (nextStatus result.effectState result.reconciliationAttempt maxAttempts).1 ∧
      0 ≤ result.reconciliationAttempt ∧
      db' = { db with
        effectAttempts := db.effectAttempts ++
          [reconciliationRow record job.idempotencyKey jobId result.effectState
            result.providerObjectId result.reconciliationAttempt now] } := by
  unfold reconcileUncertainEffect at h
  cases hget : db.jobs.get? jobId with
  | none => simp [hget] at h
  | some job =>
    by_cases hstatus : job.status = .uncertainExternalEffect
    · cases hrecord : getIdempotencyRecord db job.idempotencyKey with
      | none => simp [hget, hstatus, hrecord] at h
      | some record =>
        by_cases hbudget :
            maxAttempts < currentReconciliation db job.idempotencyKey + 1
        · simp [hget, hstatus, hrecord, hbudget] at h
        · simp only [hget, hstatus, hrecord, hbudget, ne_eq, not_true_eq_false,
            if_false] at h
          rcases bind_eq_ok.1 h with ⟨⟨effectState, providerObjectId⟩, _, h⟩
          rcases bind_eq_ok.1 h with ⟨db₁, hrow, h⟩
          cases h
          rcases recordEffectAttempt_eq_ok hrow with ⟨hnonneg, hdb⟩
          exact ⟨job, record, rfl, hstatus, hrecord, not_lt.1 hbudget, rfl, rfl, hnonneg, hdb⟩
    · simp [hget, hstatus] at h

theorem applyReconciliationResult_eq_ok {db db' : Database} {jobId : Uuid}
    {result : ReconciliationResult} {now : Moment}
    (h : applyReconciliationResult db jobId result now = .ok db') :
    ∃ job, db.jobs.get? jobId = some job ∧
      ((db' = db ∧ job.status = .uncertainExternalEffect ∧
          result.nextJobStatus = .uncertainExternalEffect) ∨
        (result.nextJobStatus ∈ jobTransitions job.status ∧
          ∃ hid, db.updateJob jobId (applyColumns now result.nextJobStatus) hid = .ok db')) := by
  unfold applyReconciliationResult at h
  cases hget : db.jobs.get? jobId with
  | none => simp [hget] at h
  | some job =>
    simp only [hget] at h
    refine ⟨job, rfl, ?_⟩
    split at h
    · rename_i hsame
      cases h
      exact Or.inl ⟨rfl, hsame⟩
    · rcases bind_eq_ok.1 h with ⟨_, hguard, h⟩
      exact Or.inr ⟨requireJobTransition_eq_ok_iff.1 hguard, _, h⟩

end Reconciliation
end Orchestration
end MoneyMachine
