import MoneyMachine.Orchestration.RetryBudget

/-!
# RetrySafety — when a job may become ready again

Two operations return a job to `READY` after it ran: `retry_failed_job`, which consults the effect
attempts of a `RECONCILE_FIRST` job, and `reclaim_expired_leases`, which consults nothing.  Neither
looks at the workflow.  This module states what holds in the runs where that does not matter:

* `returns_resolved_of_run`  : a claimed `RECONCILE_FIRST` job returns to `READY` only when its
  latest effect attempt is settled;
* `never_claimed_after_cancel` : a job of a cancelled workflow is not claimed again.
-/

namespace MoneyMachine
namespace Orchestration

open MoneyMachine.Domain
open MoneyMachine.Library
open MoneyMachine.Persistence

/-- The reclaim of this job would make it `READY` again. -/
def ReclaimReadies (job : Job) : Prop :=
  job.retryClass ≠ .never ∧ job.retryClass ≠ .manualResume ∧ job.attempt + 1 < job.maxAttempts

/-! ## Row facts -/

section Rows

variable {db : Database} {w : Write} {job job' : Job}

theorem claims_le_setStatus (job : Job) (status : JobStatus) :
    job.claims ≤ (job.setStatus status).claims := by
  rw [claims_setStatus]
  exact Nat.le_add_right _ _

/-- No change forgets a claim. -/
theorem JobChange.claims_le (h : JobChange db w job job') : job.claims ≤ job'.claims := by
  cases h with
  | same | heartbeat => exact le_refl _
  | claim | release | stall | promote | block | retry | cancel | resolve | apply | abandon =>
    exact claims_le_setStatus job _
  | @reclaim _ now _ _ _ =>
    have hfail : job.claims ≤ (failAttemptColumns now job).claims := claims_le_setStatus job _
    rcases reclaimColumns_cases now job with hc | ⟨_, hc⟩ | ⟨_, _, _, hc⟩
    · rw [hc]
      exact le_trans hfail (claims_le_setStatus _ _)
    · rw [hc]
      exact hfail
    · rw [hc]
      exact le_trans hfail (claims_le_setStatus _ _)
  | @failAndRelease _ now _ _ =>
    have hmark : job.claims ≤ (markFailedColumns now job).claims := claims_le_setStatus job _
    exact le_trans hmark (claims_le_setStatus _ _)

/-- The changes after which a job is `READY`: it was before, or it was promoted, reclaimed or
retried. -/
theorem JobChange.ready_cases (h : JobChange db w job job') (hready : job'.status = .ready) :
    job.status = .ready ∨ job.status = .pending ∨
      (ReclaimReadies job ∧ ∃ locked now limit,
        w = .reclaimExpiredLeases locked now limit ∧ job ∈ expiredJobs db locked now limit) ∨
      (∃ now, w = .retryFailedJob job.id now ∧ RetryGranted db job now) := by
  cases h with
  | same | heartbeat => exact Or.inl hready
  | claim => simp [claimColumns] at hready
  | release _ hlegal =>
    simp only [releaseColumns, Job.clearLease, Job.setStatus_status] at hready
    simp [hready, legalReleaseStatuses] at hlegal
  | @reclaim locked now limit _ hpicked =>
    -- Of the three ends of a reclaim only the last one is `READY`.
    rcases reclaimColumns_cases now job with hc | ⟨_, hc⟩ | ⟨hnever, hmanual, hlt, _⟩
    · simp [hc] at hready
    · simp [hc] at hready
    · exact Or.inr (Or.inr (Or.inl
        ⟨⟨hnever, hmanual, hlt⟩, locked, now, limit, rfl, hpicked⟩))
  | stall => simp at hready
  | promote hpending _ => exact Or.inr (Or.inl hpending)
  | block => simp [blockColumns] at hready
  | @retry now _ decision hfailed hdecision hcan =>
    exact Or.inr (Or.inr (Or.inr ⟨now, rfl, hfailed, decision, hdecision, hcan⟩))
  | cancel => simp [Engine.cancelColumns] at hready
  | resolve _ htarget =>
    rcases htarget with rfl | rfl <;> simp [Engine.resolveColumns] at hready
  | @apply issued now _ hedge =>
    have htarget := issued.status_cases
    simp only [Reconciliation.applyColumns, Job.setStatus_status] at hready
    simp [hready] at htarget
  | abandon => simp [markFailedColumns] at hready
  | failAndRelease => simp [releaseColumns, Job.clearLease] at hready

/-- No job becomes `PENDING` again. -/
theorem JobChange.pending_of (h : JobChange db w job job') (hpending : job'.status = .pending) :
    job.status = .pending ∧ job'.claims = job.claims := by
  cases h with
  | same | heartbeat => exact ⟨hpending, rfl⟩
  | claim => simp [claimColumns] at hpending
  | release _ hlegal =>
    simp only [releaseColumns, Job.clearLease, Job.setStatus_status] at hpending
    simp [hpending, legalReleaseStatuses] at hlegal
  | @reclaim _ now _ _ _ =>
    rcases reclaimColumns_cases now job with hc | ⟨_, hc⟩ | ⟨_, _, _, hc⟩ <;>
      simp [hc] at hpending
  | stall => simp at hpending
  | promote => simp [promoteColumns] at hpending
  | block => simp [blockColumns] at hpending
  | retry => simp [Engine.retryColumns] at hpending
  | cancel => simp [Engine.cancelColumns] at hpending
  | resolve _ htarget =>
    rcases htarget with rfl | rfl <;> simp [Engine.resolveColumns] at hpending
  | @apply issued now _ hedge =>
    have htarget := issued.status_cases
    simp only [Reconciliation.applyColumns, Job.setStatus_status] at hpending
    simp [hpending] at htarget
  | abandon => simp [markFailedColumns] at hpending
  | failAndRelease => simp [releaseColumns, Job.clearLease] at hpending

/-- Only a `READY` job is claimed. -/
theorem JobChange.claims_eq_of_ne_ready (h : JobChange db w job job') (hne : job.status ≠ .ready) :
    job'.claims = job.claims := by
  have hset : ∀ {row : Job} {status : JobStatus}, row.status ≠ .ready →
      (row.setStatus status).claims = row.claims := by
    intro row status hrow
    simp [claims_setStatus, hrow]
  cases h with
  | same | heartbeat => rfl
  | claim hready => exact absurd hready hne
  -- One assignment of the status column, away from a status that is not `READY`.
  | release | stall | promote | block | retry | cancel | resolve | apply | abandon => exact hset hne
  | @reclaim _ now _ _ _ =>
    have hfail : (failAttemptColumns now job).claims = job.claims := hset hne
    rcases reclaimColumns_cases now job with hc | ⟨_, hc⟩ | ⟨_, _, _, hc⟩
    · rw [hc, hset (by simp), hfail]
    · rw [hc, hfail]
    · rw [hc, hset (by simp), hfail]
  | @failAndRelease _ now _ _ =>
    have hmark : (markFailedColumns now job).claims = job.claims := hset hne
    have hrel : (releaseColumns now .failed (markFailedColumns now job)).claims =
        (markFailedColumns now job).claims := hset (by simp [markFailedColumns])
    exact hrel.trans hmark

end Rows

/-- The reclaim of a cycle and every direct call happen in the state the operation starts from. -/
theorem Performs.eq_start_of_reclaim {db db₁ : Database} {op : Op} {locked : Uuid → Bool}
    {now : Moment} {limit : Nat} (h : Performs db op db₁ (.reclaimExpiredLeases locked now limit)) :
    db₁ = db := by
  generalize hw : Write.reclaimExpiredLeases locked now limit = w at h
  cases h with
  | call | cycleReclaim => rfl
  | cycleStall => simp [CycleArgs.stall] at hw
  | _ => cases hw

theorem Performs.eq_start_of_retry {db db₁ : Database} {op : Op} {jobId : Uuid} {now : Moment}
    (h : Performs db op db₁ (.retryFailedJob jobId now)) : db₁ = db := by
  generalize hw : Write.retryFailedJob jobId now = w at h
  cases h with
  | call => rfl
  | cycleReclaim => simp [CycleArgs.reclaim] at hw
  | cycleStall => simp [CycleArgs.stall] at hw
  | _ => cases hw

/-! ## Reconcile before retry -/

/-- A claimed `RECONCILE_FIRST` job that the operation moves back to `READY` has a settled latest
effect attempt in the state the operation starts from. -/
def ReturnsResolved (digest : String → Uuid) (db : Database) (op : Op) : Prop :=
  ∀ job ∈ db.jobs, ∀ job' ∈ (step digest db op).jobs, job'.id = job.id →
    job.retryClass = .reconcileFirst → 1 ≤ job.claims → job.status ≠ .ready →
      job'.status = .ready → Engine.effectResolved db job.id = true

/-- A reclaim returns no `RECONCILE_FIRST` job to `READY` whose latest effect is unsettled. -/
def ReclaimsResolved (db : Database) : Write → Prop
  | .reclaimExpiredLeases locked now limit =>
    ∀ job ∈ expiredJobs db locked now limit, job.retryClass = .reconcileFirst →
      job.attempt + 1 < job.maxAttempts → Engine.effectResolved db job.id = true
  | _ => True

/-- A `PENDING` job was never claimed. -/
def Unstarted (job : Job) : Prop :=
  job.status = .pending → job.claims = 0

theorem JobChange.unstarted {db : Database} {w : Write} {job job' : Job}
    (h : JobChange db w job job') (hu : Unstarted job) : Unstarted job' := by
  intro hpending
  rcases h.pending_of hpending with ⟨hbefore, hclaims⟩
  rw [hclaims]
  exact hu hbefore

theorem step_unstarted {digest : String → Uuid} {db : Database} (op : Op)
    (h : ∀ job ∈ db.jobs, Unstarted job) : ∀ job ∈ (step digest db op).jobs, Unstarted job := by
  refine step_forall_jobs ?_ ?_ h
  · intro db₁ w job job' _ hjob hall hchange
    exact hchange.unstarted (hall job hjob)
  · rintro job ⟨_, new, rfl⟩ _
    rfl

/-- What is kept inside one operation about the row of a job that was not `READY` before. -/
structure ResolvedIfReady (db : Database) (job job' : Job) : Prop where
  unstarted : Unstarted job'
  retryClass_eq : job'.retryClass = job.retryClass
  claims_le : job.claims ≤ job'.claims
  resolved : job'.status = .ready → job.retryClass = .reconcileFirst → 1 ≤ job.claims →
    Engine.effectResolved db job.id = true

theorem JobChange.resolvedIfReady {db db₁ : Database} {op : Op} {w : Write}
    {job job₁ job₂ : Job} (hperf : Performs db op db₁ w) (hok : ReclaimsResolved db₁ w)
    (hid : job₁.id = job.id) (h : JobChange db₁ w job₁ job₂) (hr : ResolvedIfReady db job job₁) :
    ResolvedIfReady db job job₂ := by
  refine ⟨h.unstarted hr.unstarted, h.frame.2.2.2.1.trans hr.retryClass_eq,
    le_trans hr.claims_le h.claims_le, ?_⟩
  intro hready hclass hclaimed
  have hclass₁ : job₁.retryClass = .reconcileFirst := hr.retryClass_eq.trans hclass
  rcases h.ready_cases hready with
    hbefore | hpending | ⟨⟨_, _, hlt⟩, locked, now, limit, rfl, hpicked⟩ |
      ⟨now, rfl, _, decision, hdecision, hcan⟩
  · exact hr.resolved hbefore hclass hclaimed
  · -- A pending job has no claims behind it.
    have hzero := hr.unstarted hpending
    have hle := hr.claims_le
    omega
  · have hstart : db₁ = db := hperf.eq_start_of_reclaim
    subst hstart
    rw [← hid]
    exact hok job₁ hpicked hclass₁ hlt
  · have hstart : db₁ = db := hperf.eq_start_of_retry
    subst hstart
    -- The policy grants a `RECONCILE_FIRST` retry only on a settled effect.
    have hretry := (lt_of_canRetry hdecision hcan).2
    have hresolved : Engine.reconciliationResolved db₁ job₁ = true := by
      rcases hretry with h | h | ⟨_, h⟩
      · rw [hclass₁] at h
        cases h
      · rw [hclass₁] at h
        cases h
      · exact h
    rw [← hid]
    simpa [Engine.reconciliationResolved, hclass₁] using hresolved

theorem returnsResolved_of_meets {digest : String → Uuid} {db : Database} {op : Op}
    (hu : ∀ job ∈ db.jobs, Unstarted job) (hok : op.Meets ReclaimsResolved db) :
    ReturnsResolved digest db op := by
  intro job hjob job' hjob' hid hclass hclaimed hne hready
  have hinit : ResolvedIfReady db job job :=
    { unstarted := hu job hjob
      retryClass_eq := rfl
      claims_le := le_refl _
      resolved := fun h => absurd h hne }
  -- Carried through the writes of the operation, of which a cycle has several.
  have hkept : ∃ row ∈ (step digest db op).jobs, row.id = job.id ∧ ResolvedIfReady db job row := by
    refine step_exists_job ?_ ⟨job, hjob, rfl, hinit⟩
    intro db₁ w job₁ job₂ hperf _ hid₁ hr hchange
    exact hchange.resolvedIfReady hperf (hok db₁ w hperf) hid₁ hr
  rcases hkept with ⟨row, hrow, hrowid, hr⟩
  have heq : row = job' := Table.eq_of_key_eq hrow hjob' (hrowid.trans hid.symm)
  subst heq
  exact hr.resolved hready hclass hclaimed

/-- In every run whose reclaims return only settled `RECONCILE_FIRST` jobs, every step returns a
claimed `RECONCILE_FIRST` job to `READY` only when its latest effect attempt is settled. -/
theorem returns_resolved_of_run (digest : String → Uuid) {db : Database}
    (hstart : ∀ job ∈ db.jobs, job.statusWrites = []) {ops : List Op}
    (hok : Along (step digest) (Op.Meets ReclaimsResolved) db ops) :
    Along (step digest) (ReturnsResolved digest) db ops := by
  have hinit : ∀ job ∈ db.jobs, Unstarted job := by
    intro job hjob _
    simp [Job.claims, hstart job hjob]
  exact along_of_invariant (I := fun db : Database => ∀ job ∈ db.jobs, Unstarted job)
    (fun _ op h _ => step_unstarted op h) (fun _ _ h hmeets => returnsResolved_of_meets h hmeets)
    hinit hok

/-- A row of the effect log of the sample job. -/
def sampleEffect (state : EffectState) : EffectAttempt :=
  { idempotencyKey := "ProductBuildJob:7:1"
    jobId := 1
    agentRunId := none
    provider := "notion"
    operation := "notion.product_write"
    effectState := state
    providerObjectId := none
    reconciliationAttempt := 0
    observedAt := minutes 1
    recordedAt := minutes 1 }

/-- A worker claims the job, records the effect it attempted, and loses its lease. -/
def lostEffectRun (state : EffectState) : List Op :=
  [.call (.claimReadyJob unlocked "worker-1" 0 leaseDuration) sampleClaim_callable,
    .call (.recordEffectAttempt (sampleEffect state)) rfl,
    .call (.reclaimExpiredLeases unlocked (minutes 6) 50) earlySweep_callable]

theorem statusWrites_readyDatabase {retryClass : RetryClass} :
    ∀ job ∈ (readyDatabase retryClass).jobs, job.statusWrites = [] := by
  intro job hjob
  rw [mem_sampleDatabase hjob]
  rfl

/-- With the effect known to be absent the reclaim may return the job. -/
theorem returns_resolved_absentEffect :
    Along (step sampleDigest) (Op.Meets ReclaimsResolved) (readyDatabase .reconcileFirst)
      (lostEffectRun .absent) ∧
    Along (step sampleDigest) (ReturnsResolved sampleDigest) (readyDatabase .reconcileFirst)
      (lostEffectRun .absent) := by
  have hok : Along (step sampleDigest) (Op.Meets ReclaimsResolved) (readyDatabase .reconcileFirst)
      (lostEffectRun .absent) := by
    refine ⟨meets_call.2 trivial, meets_call.2 trivial, meets_call.2 ?_, trivial⟩
    intro job hjob _ _
    have hall : (expiredJobs
        (runFrom (step sampleDigest) (readyDatabase .reconcileFirst)
          ((lostEffectRun .absent).take 2)) unlocked (minutes 6) 50).all
        (fun job => Engine.effectResolved
          (runFrom (step sampleDigest) (readyDatabase .reconcileFirst)
            ((lostEffectRun .absent).take 2)) job.id) = true := by
      decide +kernel
    exact List.all_eq_true.1 hall job hjob
  exact ⟨hok, returns_resolved_of_run sampleDigest statusWrites_readyDatabase hok⟩

/-- With the effect unknown it returns the job all the same. -/
theorem reclaim_returns_unresolved :
    ¬ ∀ (digest : String → Uuid) (db : Database) (ops : List Op),
      (∀ job ∈ db.jobs, job.statusWrites = []) →
        Along (step digest) (ReturnsResolved digest) db ops := by
  intro h
  rcases h sampleDigest (readyDatabase .reconcileFirst) (lostEffectRun .unknown)
    statusWrites_readyDatabase with ⟨_, _, hlast, _⟩
  have hbefore : ((runFrom (step sampleDigest) (readyDatabase .reconcileFirst)
      ((lostEffectRun .unknown).take 2)).jobs.get? 1).map
        (fun job => (job.retryClass, job.claims, job.status)) =
      some (.reconcileFirst, 1, .running) := by
    decide +kernel
  have hafter : ((runFrom (step sampleDigest) (readyDatabase .reconcileFirst)
      (lostEffectRun .unknown)).jobs.get? 1).map Job.status = some .ready := by
    decide +kernel
  have heffect : Engine.effectResolved (runFrom (step sampleDigest) (readyDatabase .reconcileFirst)
      ((lostEffectRun .unknown).take 2)) 1 = false := by
    decide +kernel
  rcases Option.map_eq_some_iff.1 hbefore with ⟨job, hget, hfields⟩
  rcases Option.map_eq_some_iff.1 hafter with ⟨job', hget', hready⟩
  rcases Table.get?_eq_some_iff.1 hget with ⟨hjob, hid⟩
  rcases Table.get?_eq_some_iff.1 hget' with ⟨hjob', hid'⟩
  simp only [Prod.mk.injEq] at hfields
  rcases hfields with ⟨hclass, hclaims, hstatus⟩
  have hresolved := hlast job hjob job' hjob' (hid'.trans hid.symm) hclass (by omega)
    (by simp [hstatus]) hready
  have hcontra : Engine.effectResolved (runFrom (step sampleDigest) (readyDatabase .reconcileFirst)
      ((lostEffectRun .unknown).take 2)) 1 = true := hid ▸ hresolved
  rw [heffect] at hcontra
  cases hcontra

/-! ## Cancellation -/

/-- The write returns no job of the workflow to `READY`. -/
def LeavesCancelled (workflowId : Uuid) (db : Database) : Write → Prop
  | .retryFailedJob target now =>
    ∀ job ∈ db.jobs, job.id = target → job.workflowId = workflowId → ¬ RetryGranted db job now
  | .reclaimExpiredLeases locked now limit =>
    ∀ job ∈ expiredJobs db locked now limit, job.workflowId = workflowId → ¬ ReclaimReadies job
  | _ => True

/-- Cancelling leaves no job of the workflow waiting. -/
theorem not_waiting_of_cancel {db db' : Database} {workflowId : Uuid} {now : Moment} {count : Nat}
    (h : Engine.cancelWorkflow db workflowId now = .ok (db', count)) :
    ∀ job ∈ db'.jobs, job.workflowId = workflowId →
      job.status ≠ .pending ∧ job.status ≠ .ready := by
  rcases Engine.cancelWorkflow_eq_ok h with ⟨_, hid, _, hupd⟩
  rcases Database.flushJobs_eq_ok hupd with ⟨_, rfl⟩
  intro job' hjob' hworkflow
  rcases (Table.mem_modify hid).1 hjob' with ⟨job, hjob, rfl⟩
  by_cases hsel : job.id ∈ (Engine.cancellableJobs db workflowId).map Job.id
  · simp [hsel, Engine.cancelColumns]
  · simp only [hsel, decide_false, Bool.false_eq_true, if_false] at hworkflow ⊢
    have hnot : ¬ (job.status = .pending ∨ job.status = .ready) := by
      intro hstatus
      exact hsel (List.mem_map_of_mem
        (Engine.mem_cancellableJobs.2 ⟨hjob, hworkflow, hstatus⟩))
    exact ⟨fun h => hnot (Or.inl h), fun h => hnot (Or.inr h)⟩

/-- A job of the cancelled workflow: not waiting, and claimed as often as before. -/
structure Settled (workflowId : Uuid) (claims : Nat) (job : Job) : Prop where
  workflow_eq : job.workflowId = workflowId
  not_pending : job.status ≠ .pending
  not_ready : job.status ≠ .ready
  claims_eq : job.claims = claims

theorem JobChange.settled {workflowId : Uuid} {claims : Nat} {db : Database} {w : Write}
    {job job' : Job} (hok : LeavesCancelled workflowId db w) (hjob : job ∈ db.jobs)
    (h : JobChange db w job job') (hs : Settled workflowId claims job) :
    Settled workflowId claims job' := by
  refine ⟨h.frame.2.1.trans hs.workflow_eq, ?_, ?_,
    (h.claims_eq_of_ne_ready hs.not_ready).trans hs.claims_eq⟩
  · intro hpending
    exact hs.not_pending (h.pending_of hpending).1
  · intro hready
    rcases h.ready_cases hready with
      hbefore | hpending | ⟨hreadies, locked, now, limit, rfl, hpicked⟩ | ⟨now, rfl, hgranted⟩
    · exact hs.not_ready hbefore
    · exact hs.not_pending hpending
    · exact hok job hpicked hs.workflow_eq hreadies
    · exact hok job hjob rfl hs.workflow_eq hgranted

/-- After a workflow is cancelled, in every continuation that returns none of its jobs to `READY`,
none of the jobs that belonged to it is claimed. -/
theorem never_claimed_after_cancel (digest : String → Uuid) {db db₁ : Database} {workflowId : Uuid}
    {now : Moment} {count : Nat}
    (hcancel : Engine.cancelWorkflow db workflowId now = .ok (db₁, count))
    {ops : List Op} (hok : Along (step digest) (Op.Meets (LeavesCancelled workflowId)) db₁ ops) :
    ∀ job ∈ db₁.jobs, job.workflowId = workflowId →
      ∀ job' ∈ (runFrom (step digest) db₁ ops).jobs, job'.id = job.id →
        job'.claims = job.claims := by
  intro job hjob hworkflow job' hjob' hid
  rcases not_waiting_of_cancel hcancel job hjob hworkflow with ⟨hpending, hready⟩
  have hrun : ∃ row ∈ (runFrom (step digest) db₁ ops).jobs, row.id = job.id ∧
      Settled workflowId job.claims row := by
    refine runFrom_invariant_along
      (I := fun db : Database => ∃ row ∈ db.jobs, row.id = job.id ∧
        Settled workflowId job.claims row) ?_
      ⟨job, hjob, rfl, hworkflow, hpending, hready, rfl⟩ hok
    intro db₂ op h hmeets
    refine step_exists_job ?_ h
    intro db₃ w row row' hperf hrow _ hs hchange
    exact hchange.settled (hmeets db₃ w hperf) hrow hs
  -- The row of that id in the last state is the one the invariant is about.
  rcases hrun with ⟨row, hrow, hrowid, hs⟩
  have heq : row = job' := Table.eq_of_key_eq hrow hjob' (hrowid.trans hid.symm)
  rw [← heq]
  exact hs.claims_eq

/-- The sample job is claimed, then its workflow is cancelled while it runs. -/
def claimedDatabase : Database :=
  step sampleDigest (readyDatabase .safe)
    (.call (.claimReadyJob unlocked "worker-1" 0 leaseDuration) sampleClaim_callable)

def cancelledDatabase : Database :=
  step sampleDigest claimedDatabase (.call (.cancelWorkflow 7 (minutes 1)) rfl)

theorem step_cancelWorkflow {digest : String → Uuid} {db : Database} {workflowId : Uuid}
    {now : Moment} {result : Database × Nat}
    (h : Engine.cancelWorkflow db workflowId now = .ok result) :
    step digest db (.call (.cancelWorkflow workflowId now) rfl) = result.1 := by
  simp [step, execute, Write.perform, h, Except.map]

theorem cancelledDatabase_eq :
    ∃ count, Engine.cancelWorkflow claimedDatabase 7 (minutes 1) = .ok (cancelledDatabase, count) := by
  have hisOk : (Engine.cancelWorkflow claimedDatabase 7 (minutes 1)).isOk = true := by
    decide +kernel
  cases h : Engine.cancelWorkflow claimedDatabase 7 (minutes 1) with
  | error error =>
    rw [h] at hisOk
    cases hisOk
  | ok result =>
    have hstep : cancelledDatabase = result.1 := step_cancelWorkflow h
    exact ⟨result.2, by rw [hstep]⟩

theorem cancelledDatabase_job :
    ∃ job ∈ cancelledDatabase.jobs, job.id = 1 ∧ job.workflowId = 7 ∧ job.claims = 1 := by
  have hfields : (cancelledDatabase.jobs.get? 1).map (fun job => (job.workflowId, job.claims)) =
      some (7, 1) := by
    decide +kernel
  rcases Option.map_eq_some_iff.1 hfields with ⟨job, hget, hjob⟩
  rcases Table.get?_eq_some_iff.1 hget with ⟨hmem, hid⟩
  simp only [Prod.mk.injEq] at hjob
  exact ⟨job, hmem, hid, hjob.1, hjob.2⟩

/-- The job is released after the cancellation, and a worker looks for work. -/
def releasedAfterCancel : List Op :=
  [.call (.releaseLease 1 "worker-1" (minutes 2) .failed) rfl,
    .call (.claimReadyJob unlocked "worker-2" (minutes 3) leaseDuration) rfl]

theorem never_claimed_after_cancel_release :
    ∃ job ∈ cancelledDatabase.jobs, job.workflowId = 7 ∧ job.claims = 1 ∧
      ∃ job' ∈ (runFrom (step sampleDigest) cancelledDatabase releasedAfterCancel).jobs,
        job'.id = job.id ∧ job'.claims = 1 := by
  rcases cancelledDatabase_eq with ⟨count, hcancel⟩
  rcases cancelledDatabase_job with ⟨job, hjob, hid, hworkflow, hclaims⟩
  have hstays : ((runFrom (step sampleDigest) cancelledDatabase releasedAfterCancel).jobs.get?
      1).isSome = true := by
    decide +kernel
  rcases Option.isSome_iff_exists.1 hstays with ⟨job', hget'⟩
  rcases Table.get?_eq_some_iff.1 hget' with ⟨hjob', hid'⟩
  have hok : Along (step sampleDigest) (Op.Meets (LeavesCancelled 7)) cancelledDatabase
      releasedAfterCancel :=
    ⟨meets_call.2 trivial, meets_call.2 trivial, trivial⟩
  have hsame : job'.claims = job.claims :=
    never_claimed_after_cancel sampleDigest hcancel hok job hjob hworkflow job' hjob'
      (hid'.trans hid.symm)
  exact ⟨job, hjob, hworkflow, hclaims, job', hjob', hid'.trans hid.symm, hsame.trans hclaims⟩

/-- A running job that loses its lease after the cancellation is claimed again. -/
theorem claimed_after_cancel :
    ¬ ∀ (digest : String → Uuid) (db db₁ : Database) (workflowId : Uuid) (now : Moment)
        (count : Nat) (ops : List Op),
      Engine.cancelWorkflow db workflowId now = .ok (db₁, count) →
        ∀ job ∈ db₁.jobs, job.workflowId = workflowId →
          ∀ job' ∈ (runFrom (step digest) db₁ ops).jobs, job'.id = job.id →
            job'.claims = job.claims := by
  intro h
  rcases cancelledDatabase_eq with ⟨count, hcancel⟩
  rcases cancelledDatabase_job with ⟨job, hjob, hid, hworkflow, hclaims⟩
  have hafter : ((runFrom (step sampleDigest) cancelledDatabase
      [.call (.reclaimExpiredLeases unlocked (minutes 6) 50) earlySweep_callable,
        .call (.claimReadyJob unlocked "worker-2" (minutes 7) leaseDuration) rfl]).jobs.get? 1).map
          Job.claims = some 2 := by
    decide +kernel
  rcases Option.map_eq_some_iff.1 hafter with ⟨job', hget', hclaims'⟩
  rcases Table.get?_eq_some_iff.1 hget' with ⟨hjob', hid'⟩
  have heq := h sampleDigest claimedDatabase cancelledDatabase 7 (minutes 1) count _ hcancel job
    hjob hworkflow job' hjob' (hid'.trans hid.symm)
  omega

end Orchestration
end MoneyMachine
