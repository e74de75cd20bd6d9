import MoneyMachine.Library.Runs
import MoneyMachine.Persistence.Tables

/-!
# Leases — acquisition, heartbeat, release and expiry

Each operation is one transaction on the database.  `FOR UPDATE SKIP LOCKED` is modelled by a
predicate `locked` on job ids: the rows other transactions hold at that moment, which the query
passes over.  It also settles which of several rows with one sort key a `LIMIT` keeps.

Each operation comes with the columns it assigns to a row (`…Columns`) and an inversion lemma
(`…_eq_ok`) that says everything a successful call can have done.
-/

namespace MoneyMachine
namespace Orchestration

open MoneyMachine.Domain
open MoneyMachine.Library
open MoneyMachine.Persistence

/-- `f"{value}"` of an optional text. -/
def optionText : Option String → String
  | none => "None"
  | some text => text

/-! ## Claiming -/

/-- The columns `claim_ready_job` assigns. -/
def claimColumns (workerId : String) (now : Moment) (leaseDuration : Duration) (job : Job) : Job :=
  { job.setStatus .running with
    leaseOwner := some workerId
    leaseExpiresAt := some (now + leaseDuration)
    heartbeatAt := some now
    updatedAt := now }

/-- `READY` rows that are due and not locked, oldest first, at most one. -/
def readyCandidates (db : Database) (locked : Uuid → Bool) (now : Moment) : List Job :=
  db.jobs.select
    (fun job => decide (job.status = .ready) && decide (job.scheduledAt ≤ now) && !locked job.id)
    -- The source fixes the limit at one, whatever `limit` its caller passes.
    (fun a b => a.scheduledAt ≤ b.scheduledAt) 1

def claimReadyJob (db : Database) (locked : Uuid → Bool) (workerId : String) (now : Moment)
    (leaseDuration : Duration) : Except OrchestrationError (Database × Option Job) :=
  match readyCandidates db locked now with
  | [] => .ok (db, none)
  | job :: _ => do
      requireJobTransition .ready .running
      let db' ← db.updateJob job.id (claimColumns workerId now leaseDuration)
        (fun _ => by simp [claimColumns])
      .ok (db', some (claimColumns workerId now leaseDuration job))

/-! ## Heartbeat -/

/-- The columns `heartbeat` assigns. -/
def heartbeatColumns (now : Moment) (leaseExtension : Option Duration) (job : Job) : Job :=
  { job with
    heartbeatAt := some now
    updatedAt := now
    leaseExpiresAt :=
      match leaseExtension with
      | none => job.leaseExpiresAt
      | some extension => some (now + extension) }

def notOwnedError (job : Job) (workerId : String) : OrchestrationError :=
  .leaseNotHeld
    ("Job " ++ uuidStr job.id ++ " is owned by " ++ optionText job.leaseOwner ++ ", not " ++
      workerId)

def heartbeat (db : Database) (jobId : Uuid) (workerId : String) (now : Moment)
    (leaseExtension : Option Duration) : Except OrchestrationError Database :=
  match db.jobs.get? jobId with
  | none => .error (.leaseNotHeld ("Job " ++ uuidStr jobId ++ " not found"))
  | some job =>
    if job.leaseOwner ≠ some workerId then
      .error (notOwnedError job workerId)
    else
      -- A lease that expires at this very instant still counts, here but not in `reclaim_expired_leases`.
      match job.leaseExpiresAt.filter (· < now) with
      | some expired =>
        .error (.leaseExpired
          ("Lease for job " ++ uuidStr jobId ++ " expired at " ++ isoformat " " expired))
      | none => db.updateJob jobId (heartbeatColumns now leaseExtension) (fun _ => rfl)

/-! ## Release -/

/-- `_LEGAL_RELEASE_STATUSES`. -/
def legalReleaseStatuses : List JobStatus :=
  [.succeeded, .failed, .blocked, .uncertainExternalEffect]

/-- The columns `release_lease` assigns. -/
def releaseColumns (now : Moment) (finalStatus : JobStatus) (job : Job) : Job :=
  { (job.setStatus finalStatus).clearLease with updatedAt := now }

def releaseLease (db : Database) (jobId : Uuid) (workerId : String) (now : Moment)
    (finalStatus : JobStatus) : Except OrchestrationError Database :=
  if finalStatus ∉ legalReleaseStatuses then
    .error (.valueError
      ("Cannot release to " ++ finalStatus.value ++ "; legal from RUNNING: " ++
        String.intercalate ", " (legalReleaseStatuses.map JobStatus.value)))
  else
    match db.jobs.get? jobId with
    | none => .error (.leaseNotHeld ("Job " ++ uuidStr jobId ++ " not found"))
    | some job =>
      if job.leaseOwner ≠ some workerId then
        .error (notOwnedError job workerId)
      else do
        -- The guard checks the constant edge from RUNNING, not the status of the row.
        requireJobTransition .running finalStatus
        db.updateJob jobId (releaseColumns now finalStatus)
          (fun _ => by simp [releaseColumns, Job.clearLease])

/-! ## Expiry -/

/-- `RUNNING → FAILED`: a lost lease counts as a failed attempt. -/
def failAttemptColumns (now : Moment) (job : Job) : Job :=
  { (job.setStatus .failed).clearLease with attempt := job.attempt + 1, updatedAt := now }

/-- Where a job goes after an attempt that was lost to lease expiry. -/
def settleExpired (failed : Job) : Job :=
  match failed.retryClass with
  | .never => failed.setStatus .terminalFailure
  -- The counter is not compared with the maximum on this branch.
  | .manualResume => failed
  | .safe | .idempotent | .reconcileFirst =>
    if failed.maxAttempts ≤ failed.attempt then
      failed.setStatus .terminalFailure
    else
      failed.setStatus .ready

/-- The columns `reclaim_expired_leases` assigns to one expired job. -/
def reclaimColumns (now : Moment) (job : Job) : Job :=
  settleExpired (failAttemptColumns now job)

section FailAttempt

variable (now : Moment) (job : Job)

@[simp] theorem failAttemptColumns_id : (failAttemptColumns now job).id = job.id := by
  simp [failAttemptColumns, Job.clearLease]

@[simp] theorem failAttemptColumns_status : (failAttemptColumns now job).status = .failed := by
  simp [failAttemptColumns, Job.clearLease]

@[simp] theorem failAttemptColumns_attempt :
    (failAttemptColumns now job).attempt = job.attempt + 1 := rfl

@[simp] theorem failAttemptColumns_maxAttempts :
    (failAttemptColumns now job).maxAttempts = job.maxAttempts := by
  simp [failAttemptColumns, Job.clearLease]

@[simp] theorem failAttemptColumns_retryClass :
    (failAttemptColumns now job).retryClass = job.retryClass := by
  simp [failAttemptColumns, Job.clearLease]

@[simp] theorem failAttemptColumns_leaseOwner :
    (failAttemptColumns now job).leaseOwner = none := rfl

@[simp] theorem failAttemptColumns_leaseExpiresAt :
    (failAttemptColumns now job).leaseExpiresAt = none := rfl

@[simp] theorem failAttemptColumns_heartbeatAt :
    (failAttemptColumns now job).heartbeatAt = none := rfl

@[simp] theorem failAttemptColumns_statusWrites :
    (failAttemptColumns now job).statusWrites = (job.setStatus .failed).statusWrites := rfl

end FailAttempt

/-- An expired job ends in one of three statuses; only a retryable class within budget is `READY`
again. -/
theorem reclaimColumns_cases (now : Moment) (job : Job) :
    (reclaimColumns now job = (failAttemptColumns now job).setStatus .terminalFailure) ∨
      (job.retryClass = .manualResume ∧ reclaimColumns now job = failAttemptColumns now job) ∨
        (job.retryClass ≠ .never ∧ job.retryClass ≠ .manualResume ∧
          job.attempt + 1 < job.maxAttempts ∧
            reclaimColumns now job = (failAttemptColumns now job).setStatus .ready) := by
  have hclass := failAttemptColumns_retryClass now job
  unfold reclaimColumns settleExpired
  rw [hclass, failAttemptColumns_attempt, failAttemptColumns_maxAttempts]
  -- The class decides first, the budget only for the classes that retry.
  cases job.retryClass with
  | never => exact Or.inl rfl
  | manualResume => exact Or.inr (Or.inl ⟨rfl, rfl⟩)
  | safe | idempotent | reconcileFirst =>
    by_cases hbudget : job.maxAttempts ≤ job.attempt + 1
    · exact Or.inl (by simp [hbudget])
    · exact Or.inr (Or.inr ⟨by simp, by simp, lt_of_not_ge hbudget, by simp [hbudget]⟩)

@[simp] theorem reclaimColumns_id (now : Moment) (job : Job) :
    (reclaimColumns now job).id = job.id := by
  rcases reclaimColumns_cases now job with h | ⟨_, h⟩ | ⟨_, _, _, h⟩ <;> simp [h]

/-- `RUNNING` rows whose lease has expired, first expired first. -/
def expiredJobs (db : Database) (locked : Uuid → Bool) (now : Moment) (limit : Nat) : List Job :=
  db.jobs.select
    (fun job => decide (job.status = .running) && job.leaseExpiresAt.any (fun e => decide (e ≤ now))
      && !locked job.id)
    (fun a b => a.leaseExpiresAt.getD 0 ≤ b.leaseExpiresAt.getD 0) limit

def reclaimExpiredLeases (db : Database) (locked : Uuid → Bool) (now : Moment) (limit : Nat) :
    Except OrchestrationError (Database × List Job) := do
  let expired := expiredJobs db locked now limit
  -- The loop guards constant edges of the table; they are checked once here.
  requireJobTransition .running .failed
  requireJobTransition .failed .terminalFailure
  requireJobTransition .failed .ready
  let db' ← db.updateJobs expired (reclaimColumns now) (fun _ => by simp)
  .ok (db', expired.map (reclaimColumns now))

def deterministicWorkerId (workerIndex : Nat) : String :=
  "worker-" ++ toString workerIndex

/-! ## What a successful call did -/

theorem mem_readyCandidates {db : Database} {locked : Uuid → Bool} {now : Moment} {job : Job}
    (h : job ∈ readyCandidates db locked now) :
    job ∈ db.jobs ∧ job.status = .ready ∧ job.scheduledAt ≤ now := by
  rcases Table.mem_of_mem_select h with ⟨hmem, hp⟩
  simp only [Bool.and_eq_true, decide_eq_true_eq] at hp
  exact ⟨hmem, hp.1.1, hp.1.2⟩

theorem claimReadyJob_eq_ok {db db' : Database} {locked : Uuid → Bool} {workerId : String}
    {now : Moment} {leaseDuration : Duration} {claimed : Option Job}
    (h : claimReadyJob db locked workerId now leaseDuration = .ok (db', claimed)) :
    (db' = db ∧ claimed = none) ∨
      ∃ job hid, job ∈ readyCandidates db locked now ∧
        db.updateJob job.id (claimColumns workerId now leaseDuration) hid = .ok db' ∧
          claimed = some (claimColumns workerId now leaseDuration job) := by
  unfold claimReadyJob at h
  cases hcand : readyCandidates db locked now with
  | nil =>
    rw [hcand] at h
    cases h
    exact Or.inl ⟨rfl, rfl⟩
  | cons job rest =>
    have hmem : job ∈ readyCandidates db locked now := by simp [hcand]
    rw [hcand] at h
    -- The guard, the flush, the returned row.
    rcases bind_eq_ok.1 h with ⟨_, _, h⟩
    rcases bind_eq_ok.1 h with ⟨db₁, hupd, h⟩
    cases h
    exact Or.inr ⟨job, _, hcand ▸ hmem, hupd, rfl⟩

theorem heartbeat_eq_ok {db db' : Database} {jobId : Uuid} {workerId : String} {now : Moment}
    {leaseExtension : Option Duration}
    (h : heartbeat db jobId workerId now leaseExtension = .ok db') :
    ∃ job hid, db.jobs.get? jobId = some job ∧ job.leaseOwner = some workerId ∧
      db.updateJob jobId (heartbeatColumns now leaseExtension) hid = .ok db' := by
  unfold heartbeat at h
  cases hget : db.jobs.get? jobId with
  | none => simp [hget] at h
  | some job =>
    by_cases howner : job.leaseOwner = some workerId
    · cases hexp : job.leaseExpiresAt.filter (· < now) with
      | some expired => simp [hget, howner, hexp] at h
      | none =>
        simp only [hget, howner, hexp, ne_eq, not_true_eq_false, if_false] at h
        exact ⟨job, _, rfl, howner, h⟩
    · simp [hget, howner] at h

theorem releaseLease_eq_ok {db db' : Database} {jobId : Uuid} {workerId : String} {now : Moment}
    {finalStatus : JobStatus} (h : releaseLease db jobId workerId now finalStatus = .ok db') :
    ∃ job hid, db.jobs.get? jobId = some job ∧ job.leaseOwner = some workerId ∧
      finalStatus ∈ legalReleaseStatuses ∧
        db.updateJob jobId (releaseColumns now finalStatus) hid = .ok db' := by
  unfold releaseLease at h
  by_cases hlegal : finalStatus ∈ legalReleaseStatuses
  · cases hget : db.jobs.get? jobId with
    | none => simp [hlegal, hget] at h
    | some job =>
      by_cases howner : job.leaseOwner = some workerId
      · simp only [hlegal, hget, howner, ne_eq, not_true_eq_false, if_false] at h
        rcases bind_eq_ok.1 h with ⟨_, _, h⟩
        exact ⟨job, _, rfl, howner, hlegal, h⟩
      · simp [hlegal, hget, howner] at h
  · simp [hlegal] at h

/-- The owner of a lease that has not expired can always heartbeat. -/
theorem heartbeat_ok {db : Database} {jobId : Uuid} {workerId : String} {now : Moment} {job : Job}
    (leaseExtension : Option Duration) (hget : db.jobs.get? jobId = some job)
    (howner : job.leaseOwner = some workerId) (hlive : job.leaseExpiresAt.filter (· < now) = none) :
    ∃ db', heartbeat db jobId workerId now leaseExtension = .ok db' := by
  simp only [heartbeat, hget, howner, hlive, ne_eq, not_true_eq_false, if_false]
  exact Database.updateJob_ok jobId _ (fun row hrow => db.budget row hrow)

/-- The owner of a lease, expired or not, can always release it to a legal status. -/
theorem releaseLease_ok {db : Database} {jobId : Uuid} {workerId : String} {finalStatus : JobStatus}
    {job : Job} (now : Moment) (hlegal : finalStatus ∈ legalReleaseStatuses)
    (hget : db.jobs.get? jobId = some job) (howner : job.leaseOwner = some workerId) :
    ∃ db', releaseLease db jobId workerId now finalStatus = .ok db' := by
  have hbudget : ∀ row ∈ db.jobs, (releaseColumns now finalStatus row).WithinBudget := by
    intro row hrow
    simpa [releaseColumns, Job.clearLease, Job.WithinBudget] using db.budget row hrow
  rcases Database.updateJob_ok jobId (fun _ => by simp [releaseColumns, Job.clearLease])
    hbudget with ⟨db', hupd⟩
  have hedge : requireJobTransition .running finalStatus = .ok () := by
    have hcases := hlegal
    simp only [legalReleaseStatuses, List.mem_cons, List.not_mem_nil, or_false] at hcases
    rcases hcases with rfl | rfl | rfl | rfl <;> decide
  refine ⟨db', ?_⟩
  simp only [releaseLease, hget, howner, hlegal, ne_eq, not_true_eq_false, if_false]
  exact bind_eq_ok.2 ⟨(), hedge, hupd⟩

theorem mem_expiredJobs {db : Database} {locked : Uuid → Bool} {now : Moment} {limit : Nat}
    {job : Job} (h : job ∈ expiredJobs db locked now limit) :
    job ∈ db.jobs ∧ job.status = .running := by
  rcases Table.mem_of_mem_select h with ⟨hmem, hp⟩
  simp only [Bool.and_eq_true, decide_eq_true_eq] at hp
  exact ⟨hmem, hp.1.1⟩

theorem reclaimExpiredLeases_eq_ok {db db' : Database} {locked : Uuid → Bool} {now : Moment}
    {limit : Nat} {reclaimed : List Job}
    (h : reclaimExpiredLeases db locked now limit = .ok (db', reclaimed)) :
    ∃ hid, db.updateJobs (expiredJobs db locked now limit) (reclaimColumns now) hid = .ok db' ∧
      reclaimed = (expiredJobs db locked now limit).map (reclaimColumns now) := by
  unfold reclaimExpiredLeases at h
  rcases bind_eq_ok.1 h with ⟨_, _, h⟩
  rcases bind_eq_ok.1 h with ⟨_, _, h⟩
  rcases bind_eq_ok.1 h with ⟨_, _, h⟩
  rcases bind_eq_ok.1 h with ⟨db₁, hupd, h⟩
  cases h
  exact ⟨_, hupd, rfl⟩

end Orchestration
end MoneyMachine
