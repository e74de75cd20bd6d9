import MoneyMachine.Orchestration.JobChanges

/-!
# AttemptBudget — the attempt counter over whole runs

Two operations increment the counter without looking at it: the reclaim of expired leases and the
detection of stalled jobs.  Both pick `RUNNING` rows only, so it is enough that a running job, or any
job some worker still holds a lease on, is below its maximum.  `AttemptsBounded` says that; every
row change keeps it, hence every run does.
-/

namespace MoneyMachine
namespace Orchestration

open MoneyMachine.Domain
open MoneyMachine.Library
open MoneyMachine.Persistence

/-! ## The invariant of a row -/

/-- The statuses of a job that may run again without a change of its counter. -/
def liveStatuses : List JobStatus :=
  [.pending, .ready, .running, .blocked, .uncertainExternalEffect]

/-- The counter stays in its budget, strictly while the job is live or leased. -/
structure AttemptsBounded (job : Job) : Prop where
  nonneg : 0 ≤ job.attempt
  le_max : job.attempt ≤ job.maxAttempts
  live : job.status ∈ liveStatuses → job.attempt < job.maxAttempts
  leased : job.leaseOwner.isSome = true → job.attempt < job.maxAttempts

theorem AttemptsBounded.of_lt {job : Job} (hnonneg : 0 ≤ job.attempt)
    (hlt : job.attempt < job.maxAttempts) : AttemptsBounded job :=
  { nonneg := hnonneg
    le_max := le_of_lt hlt
    live := fun _ => hlt
    leased := fun _ => hlt }

/-- A job that was inserted with a zero counter starts inside its budget. -/
theorem AttemptsBounded.of_attempt_eq_zero {job : Job} (hbudget : job.WithinBudget)
    (hzero : job.attempt = 0) : AttemptsBounded job :=
  AttemptsBounded.of_lt (le_of_eq hzero.symm) (hzero ▸ hbudget.2)

theorem IsNew.attemptsBounded {job : Job} (h : IsNew job) : AttemptsBounded job := by
  rcases h with ⟨hbudget, new, rfl⟩
  exact AttemptsBounded.of_attempt_eq_zero hbudget rfl

/-- The statuses a reconciliation can decide. -/
theorem IssuedResult.status_cases (issued : IssuedResult) :
    issued.result.nextJobStatus ∈
      [JobStatus.succeeded, .failed, .blocked, .uncertainExternalEffect] := by
  rcases issued.issued with ⟨state, next, maxAttempts, h⟩
  rw [h]
  cases state with
  | confirmed => simp [Reconciliation.nextStatus]
  | absent => simp [Reconciliation.nextStatus]
  | unknown =>
    by_cases hbudget : maxAttempts ≤ next <;> simp [Reconciliation.nextStatus, hbudget]

/-- A retry is granted only to a job with another attempt to spare. -/
theorem lt_of_canRetry {retryClass : RetryClass} {attempt maxAttempts : Int} {now : Moment}
    {resolved : Bool} {decision : RetryDecision}
    (h : evaluateRetry retryClass attempt maxAttempts now resolved = .ok decision)
    (hcan : decision.canRetry = true) :
    attempt + 1 < maxAttempts ∧ Retryable retryClass resolved := by
  rcases evaluateRetry_cases retryClass attempt maxAttempts now resolved with
    ⟨_, _, he⟩ | ⟨_, _, _, d, hd, hno⟩ | ⟨hlt, hretry, _⟩ | ⟨hlt, hretry, _⟩
  · rw [he] at h
    cases h
  · rw [hd] at h
    cases h
    rw [hno] at hcan
    cases hcan
  · exact ⟨hlt, hretry⟩
  · exact ⟨hlt, hretry⟩

section RowChanges

variable {db : Database} {w : Write} {job job' : Job}

/-- Every row change keeps the counter in its budget. -/
theorem JobChange.attemptsBounded (h : JobChange db w job job') (hb : AttemptsBounded job) :
    AttemptsBounded job' := by
  cases h with
  | same => exact hb
  | claim hready =>
    have hlt := hb.live (by simp [hready, liveStatuses])
    exact AttemptsBounded.of_lt (by simpa [claimColumns] using hb.nonneg)
      (by simpa [claimColumns] using hlt)
  | heartbeat howner =>
    -- The owner is checked, the status is not: this is what the field `leased` is for.
    have hlt := hb.leased (by simp [howner])
    exact AttemptsBounded.of_lt hb.nonneg hlt
  | release howner _ =>
    have hlt := hb.leased (by simp [howner])
    exact AttemptsBounded.of_lt (by simpa [releaseColumns, Job.clearLease] using hb.nonneg)
      (by simpa [releaseColumns, Job.clearLease] using hlt)
  | @reclaim _ now _ _ hpicked =>
    have hrunning := (mem_expiredJobs hpicked).2
    have hlt := hb.live (by simp [hrunning, liveStatuses])
    have hnonneg := hb.nonneg
    -- The counter reaches at most the maximum; below it the job may be `READY` again.
    rcases reclaimColumns_cases now job with hterm | ⟨_, hfail⟩ | ⟨_, _, hless, hready⟩
    · rw [hterm]
      constructor <;> simp [liveStatuses] <;> omega
    · rw [hfail]
      constructor <;> simp [liveStatuses] <;> omega
    · rw [hready]
      constructor <;> simp [liveStatuses] <;> omega
  | @stall _ now _ _ _ hpicked =>
    have hrunning := (mem_stalledJobs hpicked).2
    have hlt := hb.live (by simp [hrunning, liveStatuses])
    have hnonneg := hb.nonneg
    constructor <;> simp [liveStatuses] <;> omega
  | promote hpending _ =>
    have hlt := hb.live (by simp [hpending, liveStatuses])
    exact AttemptsBounded.of_lt (by simpa [promoteColumns] using hb.nonneg)
      (by simpa [promoteColumns] using hlt)
  | block hpending =>
    have hlt := hb.live (by simp [hpending, liveStatuses])
    exact AttemptsBounded.of_lt (by simpa [blockColumns] using hb.nonneg)
      (by simpa [blockColumns] using hlt)
  | retry _ hdecision hcan =>
    have hlt := (lt_of_canRetry hdecision hcan).1
    exact AttemptsBounded.of_lt (by simpa [Engine.retryColumns] using hb.nonneg)
      (by simp only [Engine.retryColumns, Job.setStatus_attempt, Job.setStatus_maxAttempts]
          omega)
  | cancel hstatus =>
    have hlt := hb.live (by rcases hstatus with h | h <;> simp [h, liveStatuses])
    exact AttemptsBounded.of_lt (by simpa [Engine.cancelColumns] using hb.nonneg)
      (by simpa [Engine.cancelColumns] using hlt)
  | resolve huncertain _ =>
    have hlt := hb.live (by simp [huncertain, liveStatuses])
    exact AttemptsBounded.of_lt (by simpa [Engine.resolveColumns] using hb.nonneg)
      (by simpa [Engine.resolveColumns] using hlt)
  | @apply issued now _ hedge =>
    -- Each status a reconciliation decides is entered from live statuses only.
    have hlive : job.status ∈ liveStatuses := by
      have htarget := issued.status_cases
      revert hedge htarget
      cases job.status <;> cases issued.result.nextJobStatus <;>
        simp [jobTransitions, liveStatuses]
    have hlt := hb.live hlive
    exact AttemptsBounded.of_lt (by simpa [Reconciliation.applyColumns] using hb.nonneg)
      (by simpa [Reconciliation.applyColumns] using hlt)
  | @abandon now _ =>
    -- A `FAILED` row that keeps its lease stays strictly below the maximum.
    constructor
    · simpa [markFailedColumns] using hb.nonneg
    · simpa [markFailedColumns] using hb.le_max
    · simp [markFailedColumns, liveStatuses]
    · simpa [markFailedColumns] using hb.leased
  | failAndRelease howner =>
    have hlt := hb.leased (by simp [howner])
    exact AttemptsBounded.of_lt
      (by simpa [releaseColumns, markFailedColumns, Job.clearLease] using hb.nonneg)
      (by simpa [releaseColumns, markFailedColumns, Job.clearLease] using hlt)

end RowChanges

/-! ## Whole runs -/

section Runs

variable {digest : String → Uuid}

theorem step_attemptsBounded {db : Database} (op : Op) (h : ∀ job ∈ db.jobs, AttemptsBounded job) :
    ∀ job ∈ (step digest db op).jobs, AttemptsBounded job := by
  refine step_forall_jobs ?_ (fun _ hnew => hnew.attemptsBounded) h
  intro db₁ w job job' _ hjob hall hchange
  exact hchange.attemptsBounded (hall job hjob)

theorem run_attemptsBounded (digest : String → Uuid) {db : Database} (h : ∀ job ∈ db.jobs, AttemptsBounded job)
    (ops : List Op) : ∀ job ∈ (runFrom (step digest) db ops).jobs, AttemptsBounded job :=
  runFrom_invariant (I := fun db : Database => ∀ job ∈ db.jobs, AttemptsBounded job)
    (fun _ op h => step_attemptsBounded op h) h ops

end Runs

/-! ## No scheduler cycle trips the budget check

The check refuses a flush whose rows exceed their budget.  From bounded rows none of the three parts
of a cycle writes such a row. -/

section Cycle

variable {db : Database}

theorem reclaimExpiredLeases_ok (h : ∀ job ∈ db.jobs, AttemptsBounded job)
    (locked : Uuid → Bool) (now : Moment) (limit : Nat) :
    ∃ db' reclaimed, reclaimExpiredLeases db locked now limit = .ok (db', reclaimed) := by
  have hrow : ∀ job ∈ expiredJobs db locked now limit, (reclaimColumns now job).WithinBudget := by
    intro job hjob
    have hb : AttemptsBounded (reclaimColumns now job) :=
      (JobChange.reclaim hjob).attemptsBounded (h job (mem_expiredJobs hjob).1)
    -- The maximum itself is never written.
    have hpos := (db.budget job (mem_expiredJobs hjob).1).2
    refine ⟨hb.le_max, ?_⟩
    rcases reclaimColumns_cases now job with hc | ⟨_, hc⟩ | ⟨_, _, _, hc⟩ <;> simpa [hc] using hpos
  rcases Database.updateJobs_ok (fun job => reclaimColumns_id now job)
    (fun job hjob => (mem_expiredJobs hjob).1) hrow with ⟨db', hupd⟩
  refine ⟨db', (expiredJobs db locked now limit).map (reclaimColumns now), ?_⟩
  simp [reclaimExpiredLeases, requireJobTransition, jobTransitions, hupd, bind, Except.bind]

theorem detectStalledJobs_error (h : ∀ job ∈ db.jobs, AttemptsBounded job)
    {locked : Uuid → Bool} {now : Moment} {stallThreshold : Duration} {limit : Nat}
    {error : OrchestrationError}
    (herror : detectStalledJobs db locked now stallThreshold limit = .error error) :
    error = .integrity "events_dedupe_key" := by
  have hrow : ∀ job ∈ stalledJobs db locked now stallThreshold limit,
      (failAttemptColumns now job).WithinBudget := by
    intro job hjob
    have hb : AttemptsBounded (failAttemptColumns now job) :=
      (JobChange.stall hjob).attemptsBounded (h job (mem_stalledJobs hjob).1)
    refine ⟨hb.le_max, ?_⟩
    simpa using (db.budget job (mem_stalledJobs hjob).1).2
  -- The rows pass the check; what is left to fail is the event log.
  rcases Database.updateJobs_ok (fun job => failAttemptColumns_id now job)
    (fun job hjob => (mem_stalledJobs hjob).1) hrow with ⟨db₁, hupd⟩
  cases hevents : db₁.insertEvents
      ((stalledJobs db locked now stallThreshold limit).map (stallEvent now stallThreshold)) with
  | ok db₂ =>
    simp [detectStalledJobs, requireJobTransition, jobTransitions, hupd, hevents, bind,
      Except.bind] at herror
  | error e =>
    have he : e = error := by
      simpa [detectStalledJobs, requireJobTransition, jobTransitions, hupd, hevents, bind,
        Except.bind] using herror
    rw [← he]
    exact Database.insertEvents_eq_error hevents

/-- The reasons for which a promotion is refused are all dependency errors. -/
theorem notReadyError_isDependencyResolution (reason : String) :
    (notReadyError reason).isDependencyResolution = true := by
  unfold notReadyError
  split_ifs <;> rfl

/-- A promotion never fails for another reason: it leaves the counters alone. -/
theorem promotePendingToReady_error {jobId : Uuid} {now : Moment} {error : OrchestrationError}
    (herror : promotePendingToReady db jobId now = .error error) :
    error.isDependencyResolution = true := by
  unfold promotePendingToReady at herror
  cases hget : db.jobs.get? jobId with
  | none =>
    simp only [hget, Except.error.injEq] at herror
    rw [← herror]
    rfl
  | some job =>
    simp only [hget] at herror
    split_ifs at herror with hpending hready
    · cases herror
      rfl
    · cases herror
      exact notReadyError_isDependencyResolution _
    · have hrow : ∀ job ∈ db.jobs, (promoteColumns now job).WithinBudget := by
        intro job hjob
        simpa [promoteColumns, Job.WithinBudget] using db.budget job hjob
      have hid : ∀ job, (promoteColumns now job).id = job.id := by simp [promoteColumns]
      rcases Database.updateJob_ok jobId hid hrow with ⟨db', hupd⟩
      simp [requireJobTransition, jobTransitions, hupd, bind, Except.bind] at herror

theorem promoteEach_ok (db : Database) (now : Moment) (due : List Job) :
    ∃ db' promoted, promoteEach now db due = .ok (db', promoted) := by
  -- A refused promotion leaves the database, a granted one changes it: both go on.
  induction due generalizing db with
  | nil => exact ⟨db, [], rfl⟩
  | cons job rest ih =>
    simp only [promoteEach]
    cases hone : promotePendingToReady db job.id now with
    | ok result =>
      rcases result with ⟨db₁, first⟩
      rcases ih db₁ with ⟨db', more, hrest⟩
      exact ⟨db', first :: more, by simp [hrest, bind, Except.bind]⟩
    | error error =>
      rcases ih db with ⟨db', more, hrest⟩
      exact ⟨db', more, by simp [promotePendingToReady_error hone, hrest]⟩

/-- From bounded rows a scheduler cycle fails for one reason only: a stall event it emits has a
dedupe key that is taken. -/
theorem runSchedulerCycle_error (h : ∀ job ∈ db.jobs, AttemptsBounded job) {args : CycleArgs}
    {error : OrchestrationError} (herror : runSchedulerCycle db args = .error error) :
    error = .integrity "events_dedupe_key" := by
  rcases reclaimExpiredLeases_ok h args.lockedReclaim args.now args.reclaimLimit with
    ⟨db₁, reclaimed, hreclaim⟩
  -- The stall detection starts from the rows the reclaim left, which are bounded again.
  have hperform : args.reclaim.perform db = .ok db₁ := map_eq_ok.2 ⟨_, hreclaim, rfl⟩
  have h₁ : ∀ job ∈ db₁.jobs, AttemptsBounded job :=
    (perform_evolves hperform).forall_mem h
      (fun _ _ _ _ hchange hb => hchange.attemptsBounded hb) (fun _ hnew => hnew.attemptsBounded)
  cases hstall : detectStalledJobs db₁ args.lockedStall args.now defaultStallThreshold
      args.stallLimit with
  | error e =>
    have he : e = error := by
      simpa [runSchedulerCycle, hreclaim, hstall, bind, Except.bind] using herror
    rw [← he]
    exact detectStalledJobs_error h₁ hstall
  | ok result =>
    rcases result with ⟨db₂, stalled⟩
    rcases promoteEach_ok db₂ args.now (dueJobs db₂ args.now args.promoteLimit) with
      ⟨db₃, promoted, hpromote⟩
    simp [runSchedulerCycle, hreclaim, hstall, promoteDueJobs, hpromote, bind,
      Except.bind] at herror

end Cycle

/-! ## The budget over runs -/

/-- However the operations interleave, a job inserted with a zero counter keeps its counter within
budget, strictly while it is live, and no scheduler cycle trips the budget check. -/
theorem attempts_within_budget (digest : String → Uuid) {db : Database}
    (hstart : ∀ job ∈ db.jobs, job.attempt = 0) (ops : List Op) :
    (∀ job ∈ (runFrom (step digest) db ops).jobs,
      0 ≤ job.attempt ∧ job.attempt ≤ job.maxAttempts ∧
        (job.status ∈ liveStatuses → job.attempt < job.maxAttempts)) ∧
    ∀ args : CycleArgs, runSchedulerCycle (runFrom (step digest) db ops) args ≠
      .error (.integrity "attempt_within_budget") := by
  have hinit : ∀ job ∈ db.jobs, AttemptsBounded job := by
    intro job hjob
    exact AttemptsBounded.of_attempt_eq_zero (db.budget job hjob) (hstart job hjob)
  have hrun := run_attemptsBounded digest hinit ops
  constructor
  · intro job hjob
    have hb := hrun job hjob
    exact ⟨hb.nonneg, hb.le_max, hb.live⟩
  · intro args herror
    have hname := runSchedulerCycle_error hrun herror
    simp at hname

/-- A claim, an expired lease and a second claim. -/
def expiryRun : List Op :=
  [.call (.claimReadyJob unlocked "worker-1" 0 leaseDuration) sampleClaim_callable,
    .call (.reclaimExpiredLeases unlocked (minutes 6) 50) earlySweep_callable,
    .call (.claimReadyJob unlocked "worker-2" (minutes 7) leaseDuration) rfl]

theorem attempts_within_budget_expiryRun :
    (∀ job ∈ (sampleDatabase (sampleJob .ready .safe "A07" 3) (by decide)).jobs,
      job.attempt = 0) ∧
    ∀ args : CycleArgs,
      runSchedulerCycle
        (runFrom (step sampleDigest)
          (sampleDatabase (sampleJob .ready .safe "A07" 3) (by decide)) expiryRun) args ≠
        .error (.integrity "attempt_within_budget") := by
  have hzero : ∀ job ∈ (sampleDatabase (sampleJob .ready .safe "A07" 3) (by decide)).jobs,
      job.attempt = 0 := by
    intro job hjob
    have heq : job = sampleJob .ready .safe "A07" 3 := by
      simpa [sampleDatabase, Table.mem_def] using hjob
    rw [heq]
    rfl
  exact ⟨hzero, (attempts_within_budget sampleDigest hzero expiryRun).2⟩

end Orchestration
end MoneyMachine
