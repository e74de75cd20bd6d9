import MoneyMachine.Orchestration.AttemptBudget

/-!
# RetryBudget — what retrying does with the attempt counter

`retry_failed_job` reads the counter but never writes it.  Two consequences are worked out here.

* A `FAILED` job may sit at its maximum (stall detection leaves it there), and then the retry raises
  `ValueError` instead of refusing.  `retryFailedJob_contract_of_run` says which steps must not
  happen for the documented contract to hold in every reachable state.
* A job that is released as `FAILED` and retried was claimed without being counted.
  `claims_le_maxAttempts_of_run` bounds the claims of a job by its budget for the runs in which every
  retry finds the claims of the job counted.
-/

namespace MoneyMachine
namespace Orchestration

open MoneyMachine.Domain
open MoneyMachine.Library
open MoneyMachine.Persistence

/-! ## The contract of a retry -/

section Contract

variable {db : Database} {job : Job} {now : Moment}

theorem retryFailedJob_of_error {error : OrchestrationError} (hjob : job ∈ db.jobs)
    (hfailed : job.status = .failed)
    (h : evaluateRetry job.retryClass job.attempt job.maxAttempts now
      (Engine.reconciliationResolved db job) = .error error) :
    Engine.retryFailedJob db job.id now = .error error := by
  have hget : db.jobs.get? job.id = some job := Table.get?_eq_some_iff.2 ⟨hjob, rfl⟩
  simp [Engine.retryFailedJob, hget, hfailed, h, bind, Except.bind]

theorem retryFailedJob_of_refused {decision : RetryDecision} (hjob : job ∈ db.jobs)
    (hfailed : job.status = .failed)
    (h : evaluateRetry job.retryClass job.attempt job.maxAttempts now
      (Engine.reconciliationResolved db job) = .ok decision)
    (hcan : decision.canRetry = false) :
    Engine.retryFailedJob db job.id now =
      .error (.invalidRetry ("Cannot retry: " ++ decision.reason)) := by
  have hget : db.jobs.get? job.id = some job := Table.get?_eq_some_iff.2 ⟨hjob, rfl⟩
  simp [Engine.retryFailedJob, hget, hfailed, h, hcan, bind, Except.bind]

theorem retryFailedJob_of_granted {decision : RetryDecision} (hjob : job ∈ db.jobs)
    (hfailed : job.status = .failed)
    (h : evaluateRetry job.retryClass job.attempt job.maxAttempts now
      (Engine.reconciliationResolved db job) = .ok decision)
    (hcan : decision.canRetry = true) :
    ∃ db', Engine.retryFailedJob db job.id now =
        .ok (db', Engine.retryColumns now decision job) ∧
      Engine.retryColumns now decision job ∈ db'.jobs := by
  have hget : db.jobs.get? job.id = some job := Table.get?_eq_some_iff.2 ⟨hjob, rfl⟩
  have hid : ∀ row, (Engine.retryColumns now decision row).id = row.id := by
    simp [Engine.retryColumns]
  have hrow : ∀ row ∈ db.jobs, (Engine.retryColumns now decision row).WithinBudget := by
    intro row hmem
    simpa [Engine.retryColumns, Job.WithinBudget] using db.budget row hmem
  -- The counter is not written, so the flush cannot fail.
  rcases Database.updateJob_ok job.id hid hrow with ⟨db', hupd⟩
  refine ⟨db', ?_, ?_⟩
  · simp [Engine.retryFailedJob, hget, hfailed, h, hcan, requireJobTransition, jobTransitions,
      hupd, bind, Except.bind]
  · rcases Database.flushJobs_eq_ok hupd with ⟨_, rfl⟩
    exact (Table.mem_modify hid).2 ⟨job, hjob, by simp⟩

/-- The documented contract of `retry_failed_job` on a `FAILED` job: it is `READY` afterwards, or
the retry is refused with `InvalidRetryError` and nothing changes. -/
def RetryContract (digest : String → Uuid) (db : Database) (job : Job) (now : Moment) : Prop :=
  (∃ db' job', Engine.retryFailedJob db job.id now = .ok (db', job') ∧ job' ∈ db'.jobs ∧
    job'.id = job.id ∧ job'.status = .ready) ∨
  ((∃ message, Engine.retryFailedJob db job.id now = .error (.invalidRetry message)) ∧
    step digest db (.call (.retryFailedJob job.id now) rfl) = db)

/-- Any other error than `InvalidRetryError` breaks the contract. -/
theorem not_retryContract_of_error (digest : String → Uuid) {error : OrchestrationError}
    (hjob : job ∈ db.jobs) (hfailed : job.status = .failed)
    (h : evaluateRetry job.retryClass job.attempt job.maxAttempts now
      (Engine.reconciliationResolved db job) = .error error)
    (hother : ∀ message, error ≠ .invalidRetry message) : ¬ RetryContract digest db job now := by
  have hret := retryFailedJob_of_error hjob hfailed h
  rintro (⟨db', job', hok, _⟩ | ⟨⟨message, herr⟩, _⟩)
  · rw [hret] at hok
    cases hok
  · rw [hret] at herr
    exact hother message (Except.error.inj herr)

/-- The contract holds exactly below the maximum, except where the backoff overflows. -/
theorem retryContract_iff (digest : String → Uuid) (hjob : job ∈ db.jobs)
    (hfailed : job.status = .failed) :
    RetryContract digest db job now ↔
      job.attempt < job.maxAttempts ∧
        ¬ (Retryable job.retryClass (Engine.reconciliationResolved db job) ∧
          job.attempt + 1 < job.maxAttempts ∧ 1024 ≤ job.attempt) := by
  have hpos : 0 < job.maxAttempts := (db.budget job hjob).2
  rcases evaluateRetry_cases job.retryClass job.attempt job.maxAttempts now
      (Engine.reconciliationResolved db job) with
    ⟨hmax, message, he⟩ | ⟨_, hlt, hwhy, decision, hd, hno⟩ |
      ⟨hlt, _, hsmall, decision, due, hd, hcan, _⟩ | ⟨hlt, hretry, hbig, message, he⟩
  · -- At the maximum the retry raises `ValueError`.
    have hcontract := not_retryContract_of_error digest hjob hfailed he (by simp)
    refine ⟨fun h => absurd h hcontract, ?_⟩
    rintro ⟨hlt, _⟩
    rcases hmax with h | h <;> omega
  -- Refused: the last attempt, or a class that does not retry.
  · have hret := retryFailedJob_of_refused hjob hfailed hd hno
    have hcontract : RetryContract digest db job now := by
      refine Or.inr ⟨⟨_, hret⟩, ?_⟩
      simp [step, execute, Write.perform, hret, Except.map]
    refine ⟨fun _ => ⟨hlt, ?_⟩, fun _ => hcontract⟩
    rintro ⟨hretry, hnext, _⟩
    rcases hwhy with h | h
    · omega
    · exact h hretry
  -- Granted: the row is `READY` in the new state.
  · rcases retryFailedJob_of_granted hjob hfailed hd hcan with ⟨db', hret, hmem⟩
    have hcontract : RetryContract digest db job now :=
      Or.inl ⟨db', _, hret, hmem, by simp [Engine.retryColumns], by simp [Engine.retryColumns]⟩
    refine ⟨fun _ => ⟨by omega, ?_⟩, fun _ => hcontract⟩
    rintro ⟨_, _, hbig⟩
    omega
  · -- Doubling the delay leaves the range of a float: the retry raises `OverflowError`.
    have hcontract := not_retryContract_of_error digest hjob hfailed he (by simp)
    refine ⟨fun h => absurd h hcontract, ?_⟩
    rintro ⟨_, hnot⟩
    exact absurd ⟨hretry, hlt, hbig⟩ hnot

end Contract

/-! ## Which runs keep the contract -/

/-- A write that fails jobs leaves none of them at its maximum. -/
def FailsWithinBudget (db : Database) : Write → Prop
  | .detectStalledJobs locked now stallThreshold limit =>
    ∀ job ∈ stalledJobs db locked now stallThreshold limit, job.attempt + 1 < job.maxAttempts
  | .reclaimExpiredLeases locked now limit =>
    ∀ job ∈ expiredJobs db locked now limit,
      job.retryClass = .manualResume → job.attempt + 1 < job.maxAttempts
  | _ => True

/-- Only a worker iteration abandons a job, and only one it holds. -/
theorem Performs.claimed_of_abandon {db db₁ : Database} {op : Op} {jobId : Uuid} {now : Moment}
    (h : Performs db op db₁ (.abandon jobId now)) : ∃ workerId, Claimed db₁ jobId workerId := by
  cases h with
  | @call _ callable => simp [Write.workerOnly] at callable
  | @workerAbandon _ _ _ workerId _ _ _ _ _ hclaimed => exact ⟨workerId, hclaimed⟩

/-- A failed job has an attempt left. -/
structure FailedBelowMax (job : Job) : Prop where
  bounded : AttemptsBounded job
  failed : job.status = .failed → job.attempt < job.maxAttempts

theorem FailedBelowMax.of_ne {job : Job} (hb : AttemptsBounded job) (hne : job.status ≠ .failed) :
    FailedBelowMax job :=
  { bounded := hb
    failed := fun h => absurd h hne }

theorem JobChange.failedBelowMax {db db₁ : Database} {op : Op} {w : Write} {job job' : Job}
    (hperf : Performs db op db₁ w) (hok : FailsWithinBudget db₁ w) (hjob : job ∈ db₁.jobs)
    (h : JobChange db₁ w job job') (hf : FailedBelowMax job) : FailedBelowMax job' := by
  have hb' : AttemptsBounded job' := h.attemptsBounded hf.bounded
  refine ⟨hb', ?_⟩
  intro hfailed
  -- A change that leaves the counter alone and starts below the maximum stays below it.
  have hkeep : ∀ {row : Job}, row.attempt = job.attempt → row.maxAttempts = job.maxAttempts →
      job.attempt < job.maxAttempts → row.attempt < row.maxAttempts := by
    intro row ha hm hlt
    omega
  cases h with
  | same => exact hf.failed hfailed
  | claim => simp [claimColumns] at hfailed
  | heartbeat howner => exact hf.bounded.leased (by simp [howner])
  | release howner _ =>
    exact hkeep (by simp [releaseColumns, Job.clearLease])
      (by simp [releaseColumns, Job.clearLease]) (hf.bounded.leased (by simp [howner]))
  | @reclaim _ now _ _ hpicked =>
    rcases reclaimColumns_cases now job with hc | ⟨hclass, hc⟩ | ⟨_, _, _, hc⟩
    · simp [hc] at hfailed
    · have hlt := hok job hpicked hclass
      simpa [hc] using hlt
    · simp [hc] at hfailed
  | stall hpicked =>
    -- Here the counter goes up and nobody looks at the maximum: the side condition does.
    have hlt := hok job hpicked
    simpa using hlt
  | promote => simp [promoteColumns] at hfailed
  | block => simp [blockColumns] at hfailed
  | retry => simp [Engine.retryColumns] at hfailed
  | cancel => simp [Engine.cancelColumns] at hfailed
  | resolve huncertain _ =>
    exact hkeep (by simp [Engine.resolveColumns]) (by simp [Engine.resolveColumns])
      (hf.bounded.live (by simp [huncertain, liveStatuses]))
  | @apply issued now _ hedge =>
    have htarget : issued.result.nextJobStatus = .failed := by
      simpa [Reconciliation.applyColumns] using hfailed
    have hlive : job.status ∈ liveStatuses := by
      rw [htarget] at hedge
      revert hedge
      cases job.status <;> simp [jobTransitions, liveStatuses]
    exact hkeep (by simp [Reconciliation.applyColumns]) (by simp [Reconciliation.applyColumns])
      (hf.bounded.live hlive)
  | abandon =>
    rcases hperf.claimed_of_abandon with ⟨_, hclaimed⟩
    have hrunning := (hclaimed job hjob rfl).1
    exact hkeep (by simp [markFailedColumns]) (by simp [markFailedColumns])
      (hf.bounded.live (by simp [hrunning, liveStatuses]))
  | failAndRelease howner =>
    exact hkeep (by simp [releaseColumns, markFailedColumns, Job.clearLease])
      (by simp [releaseColumns, markFailedColumns, Job.clearLease])
      (hf.bounded.leased (by simp [howner]))

theorem step_failedBelowMax {digest : String → Uuid} {db : Database} {op : Op}
    (hok : op.Meets FailsWithinBudget db) (h : ∀ job ∈ db.jobs, FailedBelowMax job) :
    ∀ job ∈ (step digest db op).jobs, FailedBelowMax job := by
  refine step_forall_jobs ?_ ?_ h
  · intro db₁ w job job' hperf hjob hall hchange
    exact hchange.failedBelowMax hperf (hok db₁ w hperf) hjob (hall job hjob)
  · rintro job hnew
    refine FailedBelowMax.of_ne hnew.attemptsBounded ?_
    rcases hnew with ⟨_, new, rfl⟩
    simp [NewJob.row]

/-- In every run whose stall detections and `MANUAL_RESUME` reclaims leave no job at its maximum,
every reachable `FAILED` job is below its maximum, and retrying it keeps the contract (unless its
budget is so large that the backoff overflows).  The instants are taken to stay before `datetime.max`. -/
theorem retryFailedJob_contract_of_run (digest : String → Uuid) {db : Database}
    (hstart : ∀ job ∈ db.jobs, job.attempt = 0) {ops : List Op}
    (hok : Along (step digest) (Op.Meets FailsWithinBudget) db ops) :
    ∀ job ∈ (runFrom (step digest) db ops).jobs, job.status = .failed →
      job.attempt < job.maxAttempts ∧
        (job.maxAttempts ≤ 1025 →
          ∀ now, RetryContract digest (runFrom (step digest) db ops) job now) := by
  have hinit : ∀ job ∈ db.jobs, FailedBelowMax job := by
    intro job hjob
    have hbudget := db.budget job hjob
    have hzero := hstart job hjob
    exact ⟨AttemptsBounded.of_attempt_eq_zero hbudget hzero, fun _ => hzero ▸ hbudget.2⟩
  have hrun : ∀ job ∈ (runFrom (step digest) db ops).jobs, FailedBelowMax job :=
    runFrom_invariant_along (I := fun db : Database => ∀ job ∈ db.jobs, FailedBelowMax job)
      (fun _ _ h hmeets => step_failedBelowMax hmeets h) hinit hok
  intro job hjob hfailed
  have hlt := (hrun job hjob).failed hfailed
  refine ⟨hlt, ?_⟩
  intro hmax now
  refine (retryContract_iff digest hjob hfailed).2 ⟨hlt, ?_⟩
  rintro ⟨_, hnext, hbig⟩
  omega

/-- A claimed job whose worker sends no heartbeat for a minute is found stalled. -/
def stallRun : List Op :=
  [.call (.claimReadyJob unlocked "worker-1" 0 leaseDuration) sampleClaim_callable,
    .call (.detectStalledJobs unlocked (minutes 2) (minutes 1) 50) rfl]

theorem mem_sampleDatabase {job row : Job} {hbudget : job.WithinBudget}
    (h : row ∈ (sampleDatabase job hbudget).jobs) : row = job := by
  simpa [sampleDatabase, Table.mem_def] using h

theorem readyDatabase_attempt (retryClass : RetryClass) :
    ∀ job ∈ (readyDatabase retryClass).jobs, job.attempt = 0 := by
  intro job hjob
  rw [mem_sampleDatabase hjob]
  rfl

/-- With the default budget of three the stalled job can be retried. -/
theorem retryFailedJob_contract_stallRun :
    Along (step sampleDigest) (Op.Meets FailsWithinBudget) (readyDatabase .safe) stallRun ∧
    ∀ job ∈ (runFrom (step sampleDigest) (readyDatabase .safe) stallRun).jobs,
      job.status = .failed →
        job.attempt < job.maxAttempts ∧
          (job.maxAttempts ≤ 1025 → ∀ now, RetryContract sampleDigest
            (runFrom (step sampleDigest) (readyDatabase .safe) stallRun) job now) := by
  have hok : Along (step sampleDigest) (Op.Meets FailsWithinBudget) (readyDatabase .safe)
      stallRun := by
    refine ⟨meets_call.2 trivial, meets_call.2 ?_, trivial⟩
    intro job hjob
    have hall : (stalledJobs
        (step sampleDigest (readyDatabase .safe)
          (.call (.claimReadyJob unlocked "worker-1" 0 leaseDuration) sampleClaim_callable))
        unlocked (minutes 2) (minutes 1) 50).all
          (fun job => decide (job.attempt + 1 < job.maxAttempts)) = true := by
      decide +kernel
    simpa using List.all_eq_true.1 hall job hjob
  exact ⟨hok, retryFailedJob_contract_of_run sampleDigest (readyDatabase_attempt .safe) hok⟩

/-- Two expired leases and a stall use up the default budget of three. -/
def exhaustingRun : List Op :=
  expiryRun ++
    [.call (.reclaimExpiredLeases unlocked (minutes 13) 50) rfl,
      .call (.claimReadyJob unlocked "worker-1" (minutes 14) leaseDuration) rfl,
      .call (.detectStalledJobs unlocked (minutes 16) (minutes 1) 50) rfl]

/-- The stall leaves the job `FAILED` at its maximum.  Retrying it raises `ValueError`, so the
contract does not hold of every reachable job. -/
theorem retryFailedJob_contract_fails :
    ¬ ∀ (digest : String → Uuid) (db : Database) (ops : List Op),
      (∀ job ∈ db.jobs, job.attempt = 0) →
        ∀ job ∈ (runFrom (step digest) db ops).jobs, job.status = .failed →
          ∀ now, RetryContract digest (runFrom (step digest) db ops) job now := by
  intro h
  have hrow : ((runFrom (step sampleDigest) (readyDatabase .safe) exhaustingRun).jobs.get? 1).map
      (fun job => (job.status, job.attempt, job.maxAttempts)) = some (.failed, 3, 3) := by
    decide +kernel
  rcases Option.map_eq_some_iff.1 hrow with ⟨job, hget, hfields⟩
  rcases Table.get?_eq_some_iff.1 hget with ⟨hjob, _⟩
  simp only [Prod.mk.injEq] at hfields
  rcases hfields with ⟨hfailed, hattempt, hmax⟩
  have hcontract := h sampleDigest (readyDatabase .safe) exhaustingRun (readyDatabase_attempt .safe)
    job hjob hfailed 0
  have hlt := ((retryContract_iff sampleDigest hjob hfailed).1 hcontract).1
  omega

/-! ## Claims and the budget

A claim is counted when its lease is lost; a release is not counted.  So a waiting job has at most
`attempt` claims behind it exactly as long as nobody retries a job that was released as failed. -/

/-- A retry of the job in this state would be granted. -/
def RetryGranted (db : Database) (job : Job) (now : Moment) : Prop :=
  job.status = .failed ∧ ∃ decision, evaluateRetry job.retryClass job.attempt job.maxAttempts now
    (Engine.reconciliationResolved db job) = .ok decision ∧ decision.canRetry = true

/-- A granted retry of the job finds all of its claims counted. -/
def RetriesCounted (jobId : Uuid) (db : Database) : Write → Prop
  | .retryFailedJob target now =>
    ∀ job ∈ db.jobs, job.id = jobId → target = jobId → RetryGranted db job now →
      (job.claims : Int) ≤ job.attempt
  | _ => True

/-- The claims of a job against its counter. -/
structure ClaimsCounted (maxAttempts : Int) (job : Job) : Prop where
  bounded : AttemptsBounded job
  max_eq : job.maxAttempts = maxAttempts
  waiting : job.status = .pending ∨ job.status = .ready → (job.claims : Int) ≤ job.attempt
  le_succ : (job.claims : Int) ≤ job.attempt + 1
  le_max : (job.claims : Int) ≤ job.maxAttempts

/-- Only a change from `READY` to `RUNNING` is a claim. -/
theorem claims_setStatus (job : Job) (status : JobStatus) :
    (job.setStatus status).claims =
      job.claims + if job.status = .ready ∧ status = .running then 1 else 0 := by
  unfold Job.claims
  rw [Job.setStatus_statusWrites]
  by_cases hsame : job.status = status
  · subst hsame
    have hne : ¬ (job.status = .ready ∧ job.status = .running) := by
      rintro ⟨h₁, h₂⟩
      rw [h₁] at h₂
      cases h₂
    simp [hne]
  · simp [hsame]

/-- The shape of every change but three: claims and counter stay, and the job does not go back to
waiting. -/
theorem ClaimsCounted.of_settled {maxAttempts : Int} {job job' : Job}
    (hc : ClaimsCounted maxAttempts job) (hb : AttemptsBounded job')
    (hmax : job'.maxAttempts = job.maxAttempts) (hattempt : job'.attempt = job.attempt)
    (hclaims : job'.claims = job.claims)
    (hstatus : (job'.status = .pending ∨ job'.status = .ready) →
      (job.status = .pending ∨ job.status = .ready)) :
    ClaimsCounted maxAttempts job' := by
  refine ⟨hb, hmax.trans hc.max_eq, ?_, ?_, ?_⟩
  · intro h
    rw [hclaims, hattempt]
    exact hc.waiting (hstatus h)
  · rw [hclaims, hattempt]
    exact hc.le_succ
  · rw [hclaims, hmax]
    exact hc.le_max

theorem claims_setStatus_of_ne {job : Job} {status : JobStatus} (h : status ≠ .running) :
    (job.setStatus status).claims = job.claims := by
  simp [claims_setStatus, h]

/-- A lost lease counts the claim it ends. -/
theorem ClaimsCounted.of_lost {maxAttempts : Int} {job job' : Job}
    (hc : ClaimsCounted maxAttempts job) (hb : AttemptsBounded job')
    (hmax : job'.maxAttempts = job.maxAttempts) (hattempt : job'.attempt = job.attempt + 1)
    (hclaims : job'.claims = job.claims) : ClaimsCounted maxAttempts job' := by
  have hsucc := hc.le_succ
  refine ⟨hb, hmax.trans hc.max_eq, ?_, ?_, ?_⟩
  · intro _
    rw [hclaims, hattempt]
    exact hsucc
  · rw [hclaims, hattempt]
    omega
  · rw [hclaims, hmax]
    exact hc.le_max

theorem JobChange.claimsCounted {jobId : Uuid} {maxAttempts : Int} {db : Database} {w : Write}
    {job job' : Job} (hok : RetriesCounted jobId db w) (hjob : job ∈ db.jobs)
    (hid : job.id = jobId) (h : JobChange db w job job') (hc : ClaimsCounted maxAttempts job) :
    ClaimsCounted maxAttempts job' := by
  have hb' : AttemptsBounded job' := h.attemptsBounded hc.bounded
  have hmax : job'.maxAttempts = job.maxAttempts := h.frame.2.2.1
  cases h with
  | same => exact hc
  | @claim _ workerId now duration _ hready =>
    -- A `READY` job has all its claims counted, and a live one has an attempt left.
    have hwait := hc.waiting (Or.inr hready)
    have hlt := hc.bounded.live (by simp [hready, liveStatuses])
    have hclaims : (claimColumns workerId now duration job).claims = job.claims + 1 := by
      have hset : (job.setStatus .running).claims = job.claims + 1 := by
        simp [claims_setStatus, hready]
      exact hset
    have hattempt : (claimColumns workerId now duration job).attempt = job.attempt := by
      simp [claimColumns]
    refine ⟨hb', hmax.trans hc.max_eq, ?_, ?_, ?_⟩
    · simp [claimColumns]
    · rw [hclaims, hattempt]
      push_cast
      omega
    · rw [hclaims, hmax]
      push_cast
      omega
  | heartbeat =>
    exact hc.of_settled hb' hmax rfl rfl (fun h => h)
  | @release _ _ now finalStatus _ _ hlegal =>
    have hne : finalStatus ≠ .running := by
      rintro rfl
      simp [legalReleaseStatuses] at hlegal
    refine hc.of_settled hb' hmax (by simp [releaseColumns, Job.clearLease])
      (claims_setStatus_of_ne hne) ?_
    intro hstatus
    have hstatus' : finalStatus = .pending ∨ finalStatus = .ready := by
      simpa [releaseColumns, Job.clearLease] using hstatus
    rcases hstatus' with rfl | rfl <;> simp [legalReleaseStatuses] at hlegal
  | @reclaim _ now _ _ hpicked =>
    have hfail : (failAttemptColumns now job).claims = job.claims :=
      claims_setStatus_of_ne (by simp)
    rcases reclaimColumns_cases now job with hcols | ⟨_, hcols⟩ | ⟨_, _, _, hcols⟩
    · exact hc.of_lost hb' hmax (by simp [hcols])
        (by rw [hcols, claims_setStatus_of_ne (by simp), hfail])
    · exact hc.of_lost hb' hmax (by simp [hcols]) (by rw [hcols, hfail])
    · exact hc.of_lost hb' hmax (by simp [hcols])
        (by rw [hcols, claims_setStatus_of_ne (by simp), hfail])
  | stall =>
    exact hc.of_lost hb' hmax (by simp) (claims_setStatus_of_ne (by simp))
  | promote hpending _ =>
    exact hc.of_settled hb' hmax (by simp [promoteColumns]) (claims_setStatus_of_ne (by simp))
      (fun _ => Or.inl hpending)
  | block hpending =>
    exact hc.of_settled hb' hmax (by simp [blockColumns]) (claims_setStatus_of_ne (by simp))
      (fun _ => Or.inl hpending)
  | @retry now _ decision hfailed hdecision hcan =>
    -- The only way back to `READY` that counts nothing.
    have hcounted := hok job hjob hid hid ⟨hfailed, decision, hdecision, hcan⟩
    have hclaims : (Engine.retryColumns now decision job).claims = job.claims :=
      claims_setStatus_of_ne (by simp)
    have hattempt : (Engine.retryColumns now decision job).attempt = job.attempt := by
      simp [Engine.retryColumns]
    refine ⟨hb', hmax.trans hc.max_eq, ?_, ?_, ?_⟩
    · intro _
      rw [hclaims, hattempt]
      exact hcounted
    · rw [hclaims, hattempt]
      exact hc.le_succ
    · rw [hclaims, hmax]
      exact hc.le_max
  | cancel hstatus =>
    exact hc.of_settled hb' hmax (by simp [Engine.cancelColumns])
      (claims_setStatus_of_ne (by simp)) (fun _ => hstatus)
  | @resolve _ _ _ now target _ _ htarget =>
    refine hc.of_settled hb' hmax (by simp [Engine.resolveColumns])
      (claims_setStatus_of_ne (by rcases htarget with rfl | rfl <;> simp)) ?_
    rcases htarget with rfl | rfl <;> simp [Engine.resolveColumns]
  | @apply issued now _ hedge =>
    have htarget := issued.status_cases
    refine hc.of_settled hb' hmax (by simp [Reconciliation.applyColumns])
      (claims_setStatus_of_ne ?_) ?_
    · intro hrun
      simp [hrun] at htarget
    · intro hstatus
      have hstatus' : issued.result.nextJobStatus = .pending ∨
          issued.result.nextJobStatus = .ready := by
        simpa [Reconciliation.applyColumns] using hstatus
      rcases hstatus' with h | h <;> simp [h] at htarget
  | abandon =>
    exact hc.of_settled hb' hmax (by simp [markFailedColumns])
      (claims_setStatus_of_ne (by simp)) (by simp [markFailedColumns])
  | @failAndRelease workerId now _ _ =>
    have hmark : (markFailedColumns now job).claims = job.claims :=
      claims_setStatus_of_ne (by simp)
    refine hc.of_settled hb' hmax (by simp [releaseColumns, markFailedColumns, Job.clearLease])
      ?_ (by simp [releaseColumns, Job.clearLease])
    have hrel : (releaseColumns now .failed (markFailedColumns now job)).claims =
        (markFailedColumns now job).claims := claims_setStatus_of_ne (by simp)
    exact hrel.trans hmark

/-- In every run in which each granted retry of a job finds its claims counted, the job is claimed
at most `max_attempts` times. -/
theorem claims_le_maxAttempts_of_run (digest : String → Uuid) {db : Database} {job₀ : Job}
    (hjob : job₀ ∈ db.jobs) (hzero : job₀.attempt = 0) (hfresh : job₀.statusWrites = [])
    {ops : List Op} (hok : Along (step digest) (Op.Meets (RetriesCounted job₀.id)) db ops) :
    ∀ job ∈ (runFrom (step digest) db ops).jobs, job.id = job₀.id →
      (job.claims : Int) ≤ job₀.maxAttempts := by
  have hbudget := db.budget job₀ hjob
  have hclaims : job₀.claims = 0 := by simp [Job.claims, hfresh]
  have hinit : ∃ job ∈ db.jobs, job.id = job₀.id ∧ ClaimsCounted job₀.maxAttempts job := by
    refine ⟨job₀, hjob, rfl, AttemptsBounded.of_attempt_eq_zero hbudget hzero, rfl, ?_, ?_, ?_⟩
    · intro _
      simp [hclaims, hzero]
    · simp [hclaims, hzero]
    · have hpos := hbudget.2
      rw [hclaims]
      push_cast
      omega
  have hrun : ∃ job ∈ (runFrom (step digest) db ops).jobs, job.id = job₀.id ∧
      ClaimsCounted job₀.maxAttempts job := by
    refine runFrom_invariant_along
      (I := fun db : Database => ∃ job ∈ db.jobs, job.id = job₀.id ∧
        ClaimsCounted job₀.maxAttempts job) ?_ hinit hok
    intro db₁ op h hmeets
    refine step_exists_job ?_ h
    intro db₂ w job job' hperf hmem hid hc hchange
    exact hchange.claimsCounted (hmeets db₂ w hperf) hmem hid hc
  intro job hmem hid
  rcases hrun with ⟨row, hrow, hrowid, hc⟩
  have heq : job = row := Table.eq_of_key_eq hmem hrow (hid.trans hrowid.symm)
  rw [heq, ← hc.max_eq]
  exact hc.le_max

/-- A retry after a lost lease finds the claim counted. -/
def lostLeaseRetryRun : List Op :=
  stallRun ++ [.call (.retryFailedJob 1 (minutes 3)) rfl,
    .call (.claimReadyJob unlocked "worker-2" (minutes 4) leaseDuration) rfl]

theorem claims_le_maxAttempts_lostLeaseRetryRun :
    Along (step sampleDigest) (Op.Meets (RetriesCounted 1)) (readyDatabase .safe)
      lostLeaseRetryRun ∧
    ∀ job ∈ (runFrom (step sampleDigest) (readyDatabase .safe) lostLeaseRetryRun).jobs,
      job.id = 1 → (job.claims : Int) ≤ 3 := by
  have hok : Along (step sampleDigest) (Op.Meets (RetriesCounted 1)) (readyDatabase .safe)
      lostLeaseRetryRun := by
    refine ⟨meets_call.2 trivial, meets_call.2 trivial, meets_call.2 ?_, meets_call.2 trivial,
      trivial⟩
    intro job hjob _ _ _
    have hall : (runFrom (step sampleDigest) (readyDatabase .safe) stallRun).jobs.rows.all
        (fun job => decide ((job.claims : Int) ≤ job.attempt)) = true := by
      decide +kernel
    simpa using List.all_eq_true.1 hall job hjob
  have hjob : sampleJob .ready .safe "A07" 3 ∈ (readyDatabase .safe).jobs := by
    simp [readyDatabase, sampleDatabase, Table.mem_def]
  exact ⟨hok, claims_le_maxAttempts_of_run sampleDigest hjob rfl rfl hok⟩

/-- A claim, a release as failed and a retry, four times over. -/
def releaseRetryRun : List Op :=
  (List.range 4).flatMap (fun n =>
    [.call (.claimReadyJob unlocked "worker-1" (minutes (10 * n)) leaseDuration) rfl,
      .call (.releaseLease 1 "worker-1" (minutes (10 * n + 1)) .failed) rfl,
      .call (.retryFailedJob 1 (minutes (10 * n + 2))) rfl])

/-- Released and retried, a job with a budget of three is claimed a fourth time. -/
theorem claims_exceed_maxAttempts :
    ¬ ∀ (digest : String → Uuid) (db : Database) (job₀ : Job) (ops : List Op),
      job₀ ∈ db.jobs → job₀.attempt = 0 → job₀.statusWrites = [] →
        ∀ job ∈ (runFrom (step digest) db ops).jobs, job.id = job₀.id →
          (job.claims : Int) ≤ job₀.maxAttempts := by
  intro h
  have hrow : ((runFrom (step sampleDigest) (readyDatabase .safe) releaseRetryRun).jobs.get? 1).map
      Job.claims = some 4 := by
    decide +kernel
  rcases Option.map_eq_some_iff.1 hrow with ⟨job, hget, hclaims⟩
  rcases Table.get?_eq_some_iff.1 hget with ⟨hjob, hid⟩
  have hle := h sampleDigest (readyDatabase .safe) (sampleJob .ready .safe "A07" 3) releaseRetryRun
    (by simp [readyDatabase, sampleDatabase, Table.mem_def]) rfl rfl job hjob hid
  have hmax : (sampleJob .ready .safe "A07" 3).maxAttempts = 3 := rfl
  omega

end Orchestration
end MoneyMachine
