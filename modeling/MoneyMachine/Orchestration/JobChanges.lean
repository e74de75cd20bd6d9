import MoneyMachine.Orchestration.Operations

/-!
# JobChanges — what an operation can do to a job row

`perform_evolves` is the one place where the source functions are taken apart: every write moves
each job row along `JobChange` and adds only rows of jobs that have not started.  Invariants of runs
are proved from it, one case per constructor, without unfolding an operation again.
-/

namespace MoneyMachine
namespace Orchestration

open MoneyMachine.Domain
open MoneyMachine.Library
open MoneyMachine.Persistence

/-! ## Row changes -/

/-- The changes of one job row, each with the guard its write checked. -/
inductive JobChange (db : Database) : Write → Job → Job → Prop
  | same {write : Write} {job : Job} : JobChange db write job job
  | claim {locked : Uuid → Bool} {workerId : String} {now : Moment} {duration : Duration}
      {job : Job} (hready : job.status = .ready) :
      JobChange db (.claimReadyJob locked workerId now duration) job
        (claimColumns workerId now duration job)
  | heartbeat {jobId : Uuid} {workerId : String} {now : Moment} {extension : Option Duration}
      {job : Job} (howner : job.leaseOwner = some workerId) :
      JobChange db (.heartbeat jobId workerId now extension) job
        (heartbeatColumns now extension job)
  | release {jobId : Uuid} {workerId : String} {now : Moment} {finalStatus : JobStatus}
      {job : Job} (howner : job.leaseOwner = some workerId)
      (hlegal : finalStatus ∈ legalReleaseStatuses) :
      JobChange db (.releaseLease jobId workerId now finalStatus) job
        (releaseColumns now finalStatus job)
  | reclaim {locked : Uuid → Bool} {now : Moment} {limit : Nat} {job : Job}
      (hpicked : job ∈ expiredJobs db locked now limit) :
      JobChange db (.reclaimExpiredLeases locked now limit) job (reclaimColumns now job)
  | stall {locked : Uuid → Bool} {now : Moment} {stallThreshold : Duration} {limit : Nat}
      {job : Job} (hpicked : job ∈ stalledJobs db locked now stallThreshold limit) :
      JobChange db (.detectStalledJobs locked now stallThreshold limit) job
        (failAttemptColumns now job)
  | promote {jobId : Uuid} {now : Moment} {job : Job} (hpending : job.status = .pending)
      (hactive : checkWorkflowActive db job.workflowId = true) :
      JobChange db (.promotePendingToReady jobId now) job (promoteColumns now job)
  | block {jobId : Uuid} {now : Moment} {job : Job} (hpending : job.status = .pending) :
      JobChange db (.propagateDependencyFailure jobId now) job (blockColumns now job)
  | retry {now : Moment} {job : Job} {decision : RetryDecision} (hfailed : job.status = .failed)
      (hdecision : evaluateRetry job.retryClass job.attempt job.maxAttempts now
        (Engine.reconciliationResolved db job) = .ok decision)
      (hcan : decision.canRetry = true) :
      JobChange db (.retryFailedJob job.id now) job (Engine.retryColumns now decision job)
  | cancel {now : Moment} {job : Job} (hstatus : job.status = .pending ∨ job.status = .ready) :
      JobChange db (.cancelWorkflow job.workflowId now) job (Engine.cancelColumns now job)
  | resolve {jobId : Uuid} {effectState : String} {providerObjectId : Option String}
      {now : Moment} {target : JobStatus} {job : Job}
      (huncertain : job.status = .uncertainExternalEffect)
      (htarget : target = .succeeded ∨ target = .failed) :
      JobChange db (.resolveByHand jobId effectState providerObjectId now) job
        (Engine.resolveColumns now target job)
  | apply {issued : IssuedResult} {now : Moment} {job : Job}
      (hedge : issued.result.nextJobStatus ∈ jobTransitions job.status) :
      JobChange db (.applyReconciliationResult job.id issued now) job
        (Reconciliation.applyColumns now issued.result.nextJobStatus job)
  | abandon {now : Moment} {job : Job} :
      JobChange db (.abandon job.id now) job (markFailedColumns now job)
  | failAndRelease {workerId : String} {now : Moment} {job : Job}
      (howner : job.leaseOwner = some workerId) :
      JobChange db (.failAndRelease job.id workerId now) job
        (releaseColumns now .failed (markFailedColumns now job))

/-- The columns no operation writes. -/
theorem JobChange.frame {db : Database} {w : Write} {job job' : Job} (h : JobChange db w job job') :
    job'.id = job.id ∧ job'.workflowId = job.workflowId ∧ job'.maxAttempts = job.maxAttempts ∧
      job'.retryClass = job.retryClass ∧ job'.idempotencyKey = job.idempotencyKey := by
  cases h with
  | same => simp
  | claim => simp [claimColumns]
  | heartbeat => simp [heartbeatColumns]
  | release => simp [releaseColumns, Job.clearLease]
  | @reclaim _ now _ _ _ =>
    rcases reclaimColumns_cases now job with h | ⟨_, h⟩ | ⟨_, _, _, h⟩ <;>
      simp [h, failAttemptColumns, Job.clearLease]
  | stall => simp [failAttemptColumns, Job.clearLease]
  | promote => simp [promoteColumns]
  | block => simp [blockColumns]
  | retry => simp [Engine.retryColumns]
  | cancel => simp [Engine.cancelColumns]
  | resolve => simp [Engine.resolveColumns]
  | apply => simp [Reconciliation.applyColumns]
  | abandon => simp [markFailedColumns]
  | failAndRelease => simp [releaseColumns, markFailedColumns, Job.clearLease]

/-- A row as it is inserted. -/
def IsNew (job : Job) : Prop :=
  job.WithinBudget ∧ ∃ new : NewJob, job = new.row

/-! ## Every write is made of row changes -/

section Evolution

variable {db db' : Database}

/-- Updating the job a lookup found. -/
theorem evolves_of_update {w : Write} {jobId : Uuid} {job : Job} {f : Job → Job}
    {hid : ∀ job, (f job).id = job.id} (hget : db.jobs.get? jobId = some job)
    (hupd : db.updateJob jobId f hid = .ok db') (hchange : JobChange db w job (f job)) :
    Table.Evolves (JobChange db w) IsNew db.jobs db'.jobs := by
  -- Only the row with that id is rewritten, and a key determines its row.
  rcases Table.get?_eq_some_iff.1 hget with ⟨hmem, hkey⟩
  refine (Database.updateJob_evolves hupd).mono ?_ (fun _ hfalse => hfalse.elim)
  intro row hrow row' hstep
  rcases hstep with ⟨hid, rfl⟩ | ⟨_, rfl⟩
  · have heq : row = job := Table.eq_of_key_eq hrow hmem (hid.trans hkey.symm)
    exact heq ▸ hchange
  · exact JobChange.same

theorem evolves_of_jobs_eq {w : Write} (h : db'.jobs = db.jobs) :
    Table.Evolves (JobChange db w) IsNew db.jobs db'.jobs := by
  rw [h]
  exact Table.evolves_refl (fun _ _ => JobChange.same)

theorem abandon_evolves {jobId : Uuid} {now : Moment}
    (h : Write.perform db (.abandon jobId now) = .ok db') :
    Table.Evolves (JobChange db (.abandon jobId now)) IsNew db.jobs db'.jobs := by
  refine (Database.updateJob_evolves h).mono ?_ (fun _ hfalse => hfalse.elim)
  intro job _ job' hstep
  rcases hstep with ⟨rfl, rfl⟩ | ⟨_, rfl⟩
  · exact JobChange.abandon
  · exact JobChange.same

theorem failAndRelease_evolves {jobId : Uuid} {workerId : String} {now : Moment}
    (h : Write.perform db (.failAndRelease jobId workerId now) = .ok db') :
    Table.Evolves (JobChange db (.failAndRelease jobId workerId now)) IsNew db.jobs db'.jobs := by
  rcases bind_eq_ok.1 h with ⟨db₁, hmark, hrel⟩
  rcases releaseLease_eq_ok hrel with ⟨job₁, _, hget₁, howner, _, hupd⟩
  rcases Table.get?_eq_some_iff.1 hget₁ with ⟨hmem₁, hkey₁⟩
  have hmarked := Database.updateJob_evolves hmark
  -- The owner is read from the marked row; marking does not touch the lease.
  have hboth := hmarked.comp (N := IsNew) (Database.updateJob_evolves hupd)
    (fun _ hfalse => hfalse.elim) (fun _ hfalse => hfalse.elim)
  refine hboth.mono ?_ (fun _ hnew => hnew)
  intro job hjob job' hstep
  rcases hstep with ⟨m, hkey, hfirst, hsecond⟩
  by_cases hid : job.id = jobId
  · have hm : m = markFailedColumns now job := by
      rcases hfirst with ⟨_, hm⟩ | ⟨hne, _⟩
      · exact hm
      · exact absurd hid hne
    have hm' : m = job₁ := by
      rcases hmarked.exists_mem hjob with ⟨row, hrow, hrowkey, hrowstep⟩
      have hrow' : row = m := by
        rcases hrowstep with ⟨_, hr⟩ | ⟨hne, _⟩
        · exact hr.trans hm.symm
        · exact absurd hid hne
      exact Table.eq_of_key_eq (hrow' ▸ hrow) hmem₁ (hkey.trans (hid.trans hkey₁.symm))
    have howner' : job.leaseOwner = some workerId := by
      have hmo : m.leaseOwner = some workerId := hm' ▸ howner
      simpa [hm, markFailedColumns] using hmo
    rcases hsecond with ⟨_, hlast⟩ | ⟨hne, _⟩
    · rw [hlast, hm]
      subst hid
      exact JobChange.failAndRelease howner'
    · exact absurd (hkey.trans hid) hne
  · rcases hfirst with ⟨heq, _⟩ | ⟨_, hm⟩
    · exact absurd heq hid
    · rcases hsecond with ⟨heq, _⟩ | ⟨_, hlast⟩
      · exact absurd (hkey.symm.trans heq) hid
      · rw [hlast, hm]
        exact JobChange.same

/-- Everything a write can do to the job table. -/
theorem perform_evolves {w : Write} (h : w.perform db = .ok db') :
    Table.Evolves (JobChange db w) IsNew db.jobs db'.jobs := by
  cases w with
  | claimReadyJob locked workerId now duration =>
    rcases map_eq_ok.1 h with ⟨⟨_, claimed⟩, hclaim, rfl⟩
    rcases claimReadyJob_eq_ok hclaim with ⟨rfl, _⟩ | ⟨job, _, hcandidate, hupd, _⟩
    · exact evolves_of_jobs_eq rfl
    · rcases mem_readyCandidates hcandidate with ⟨hmem, hready, _⟩
      have hget : db.jobs.get? job.id = some job := Table.get?_eq_some_iff.2 ⟨hmem, rfl⟩
      exact evolves_of_update hget hupd (JobChange.claim hready)
  | heartbeat jobId workerId now extension =>
    rcases heartbeat_eq_ok h with ⟨job, _, hget, howner, hupd⟩
    exact evolves_of_update hget hupd (JobChange.heartbeat howner)
  | releaseLease jobId workerId now finalStatus =>
    rcases releaseLease_eq_ok h with ⟨job, _, hget, howner, hlegal, hupd⟩
    exact evolves_of_update hget hupd (JobChange.release howner hlegal)
  | reclaimExpiredLeases locked now limit =>
    rcases map_eq_ok.1 h with ⟨⟨_, reclaimed⟩, hreclaim, rfl⟩
    rcases reclaimExpiredLeases_eq_ok hreclaim with ⟨_, hupd, _⟩
    exact Database.updateJobs_evolves hupd (fun _ hjob => (mem_expiredJobs hjob).1)
      (fun _ => JobChange.same) (fun _ hjob => JobChange.reclaim hjob)
  | detectStalledJobs locked now stallThreshold limit =>
    rcases map_eq_ok.1 h with ⟨⟨_, stalled⟩, hstall, rfl⟩
    rcases detectStalledJobs_eq_ok hstall with ⟨_, db₁, hupd, rfl⟩
    have hrows : Table.Evolves (JobChange db (.detectStalledJobs locked now stallThreshold limit))
        IsNew db.jobs db₁.jobs :=
      Database.updateJobs_evolves hupd (fun _ hjob => (mem_stalledJobs hjob).1)
        (fun _ => JobChange.same) (fun _ hjob => JobChange.stall hjob)
    exact hrows
  | promotePendingToReady jobId now =>
    rcases map_eq_ok.1 h with ⟨⟨_, promoted⟩, hpromote, rfl⟩
    rcases promotePendingToReady_eq_ok hpromote with ⟨job, _, hget, hpending, hactive, hupd, _⟩
    exact evolves_of_update hget hupd (JobChange.promote hpending hactive)
  | propagateDependencyFailure jobId now =>
    rcases map_eq_ok.1 h with ⟨⟨_, blocked⟩, hblock, rfl⟩
    rcases propagateDependencyFailure_eq_ok hblock with ⟨_, hupd⟩
    exact Database.updateJobs_evolves hupd (fun _ hjob => (mem_pendingDependents hjob).1)
      (fun _ => JobChange.same) (fun _ hjob => JobChange.block (mem_pendingDependents hjob).2)
  | satisfyDependency jobId now =>
    cases h
    exact evolves_of_jobs_eq rfl
  | retryFailedJob jobId now =>
    rcases map_eq_ok.1 h with ⟨⟨_, retried⟩, hretry, rfl⟩
    rcases Engine.retryFailedJob_eq_ok hretry with
      ⟨job, decision, _, hget, hfailed, hdecision, hcan, hupd⟩
    rcases Table.get?_eq_some_iff.1 hget with ⟨_, rfl⟩
    exact evolves_of_update hget hupd (JobChange.retry hfailed hdecision hcan)
  | cancelWorkflow workflowId now =>
    rcases map_eq_ok.1 h with ⟨⟨_, count⟩, hcancel, rfl⟩
    -- Completing the workflow does not touch the job table.
    rcases Engine.cancelWorkflow_eq_ok hcancel with ⟨_, _, _, hupd⟩
    have hpicked : ∀ job ∈ Engine.cancellableJobs db workflowId,
        JobChange db (.cancelWorkflow workflowId now) job (Engine.cancelColumns now job) := by
      intro job hjob
      rcases Engine.mem_cancellableJobs.1 hjob with ⟨_, rfl, hstatus⟩
      exact JobChange.cancel hstatus
    have hrows : Table.Evolves (JobChange db (.cancelWorkflow workflowId now)) IsNew
        (Engine.completeWorkflow db workflowId now).jobs _ :=
      Database.updateJobs_evolves hupd (fun _ hjob => (Engine.mem_cancellableJobs.1 hjob).1)
        (fun _ => JobChange.same) hpicked
    exact hrows
  | resolveByHand jobId effectState providerObjectId now =>
    rcases Engine.reconcileUncertainEffect_eq_ok h with
      ⟨job, _, _, target, _, hget, huncertain, _, houtcome, hupd⟩
    have htarget : target = .succeeded ∨ target = .failed := by
      rcases houtcome with ⟨_, h⟩ | ⟨_, h⟩
      · exact Or.inl h
      · exact Or.inr h
    -- The effect log is rewritten first; the job table the update starts from is unchanged.
    refine (Database.updateJob_evolves hupd).mono ?_ (fun _ hfalse => hfalse.elim)
    intro row hrow row' hstep
    rcases Table.get?_eq_some_iff.1 hget with ⟨hmem, hkey⟩
    rcases hstep with ⟨hid, rfl⟩ | ⟨_, rfl⟩
    · have heq : row = job := Table.eq_of_key_eq hrow hmem (hid.trans hkey.symm)
      exact heq ▸ JobChange.resolve huncertain htarget
    · exact JobChange.same
  | reconcileUncertainEffect jobId reconciler maxAttempts now =>
    rcases map_eq_ok.1 h with ⟨⟨_, result⟩, hrec, rfl⟩
    rcases Reconciliation.reconcileUncertainEffect_eq_ok hrec with
      ⟨_, _, _, _, _, _, _, _, _, rfl⟩
    exact evolves_of_jobs_eq rfl
  | applyReconciliationResult jobId issued now =>
    rcases Reconciliation.applyReconciliationResult_eq_ok h with ⟨job, hget, happly⟩
    rcases Table.get?_eq_some_iff.1 hget with ⟨_, rfl⟩
    rcases happly with ⟨rfl, _⟩ | ⟨hedge, _, hupd⟩
    · exact evolves_of_jobs_eq rfl
    · exact evolves_of_update hget hupd (JobChange.apply hedge)
  | reserveIdempotencyKey idempotencyKey jobId operation sideEffectClass now =>
    rcases reserveIdempotencyKey_eq_ok h with ⟨_, _, _, _, _, _, _, rfl⟩
    exact evolves_of_jobs_eq rfl
  | markIdempotencyCompleted idempotencyKey now =>
    rcases markIdempotencyCompleted_eq_ok h with ⟨_, rfl⟩
    exact evolves_of_jobs_eq rfl
  | recordEffectAttempt row =>
    have hdb := (recordEffectAttempt_eq_ok h).2
    subst hdb
    exact evolves_of_jobs_eq rfl
  | insertJob new =>
    rcases Database.insertJob_eq_ok h with ⟨jobs, hbudget, hins, _, rfl⟩
    -- The flush checks every row, so the new one is within its budget.
    have hmem : new.row ∈ jobs.rows := by simp [Table.insert?_eq_some hins]
    exact Table.evolves_insert hins (fun _ _ => JobChange.same) ⟨hbudget _ hmem, new, rfl⟩
  | insertEvent event =>
    have hdb := Database.insertEvent_eq_ok h
    subst hdb
    exact evolves_of_jobs_eq rfl
  | abandon jobId now => exact abandon_evolves h
  | failAndRelease jobId workerId now => exact failAndRelease_evolves h

/-! ## The logs

Most writes leave both append-only logs alone; the exceptions are named here. -/

/-- The writes that touch `effect_attempts`. -/
def Write.writesEffects : Write → Bool
  | .resolveByHand .. => true
  | .reconcileUncertainEffect .. => true
  | .recordEffectAttempt .. => true
  | _ => false

/-- The writes that touch `events`. -/
def Write.writesEvents : Write → Bool
  | .detectStalledJobs .. => true
  | .insertEvent .. => true
  | _ => false

theorem flushJobs_logs {jobs : Table Job Job.id} (h : db.flushJobs jobs = .ok db') :
    db'.effectAttempts = db.effectAttempts ∧ db'.events = db.events := by
  rcases Database.flushJobs_eq_ok h with ⟨_, rfl⟩
  exact ⟨rfl, rfl⟩

theorem perform_logs {w : Write} (h : w.perform db = .ok db') :
    (w.writesEffects = false → db'.effectAttempts = db.effectAttempts) ∧
      (w.writesEvents = false → db'.events = db.events) := by
  have hflush : ∀ {db₁ : Database} {jobs : Table Job Job.id}, db₁.flushJobs jobs = .ok db' →
      db₁.effectAttempts = db.effectAttempts → db₁.events = db.events →
        (w.writesEffects = false → db'.effectAttempts = db.effectAttempts) ∧
          (w.writesEvents = false → db'.events = db.events) := by
    intro db₁ jobs hflush heffects hevents
    rcases flushJobs_logs hflush with ⟨heffects', hevents'⟩
    exact ⟨fun _ => heffects'.trans heffects, fun _ => hevents'.trans hevents⟩
  cases w with
  | claimReadyJob locked workerId now duration =>
    rcases map_eq_ok.1 h with ⟨⟨_, claimed⟩, hclaim, rfl⟩
    rcases claimReadyJob_eq_ok hclaim with ⟨rfl, _⟩ | ⟨_, _, _, hupd, _⟩
    · exact ⟨fun _ => rfl, fun _ => rfl⟩
    · exact hflush hupd rfl rfl
  | heartbeat jobId workerId now extension =>
    rcases heartbeat_eq_ok h with ⟨_, _, _, _, hupd⟩
    exact hflush hupd rfl rfl
  | releaseLease jobId workerId now finalStatus =>
    rcases releaseLease_eq_ok h with ⟨_, _, _, _, _, hupd⟩
    exact hflush hupd rfl rfl
  | reclaimExpiredLeases locked now limit =>
    rcases map_eq_ok.1 h with ⟨⟨_, reclaimed⟩, hreclaim, rfl⟩
    rcases reclaimExpiredLeases_eq_ok hreclaim with ⟨_, hupd, _⟩
    exact hflush hupd rfl rfl
  | detectStalledJobs locked now stallThreshold limit =>
    rcases map_eq_ok.1 h with ⟨⟨_, stalled⟩, hstall, rfl⟩
    rcases detectStalledJobs_eq_ok hstall with ⟨_, db₁, hupd, rfl⟩
    -- Here the events of the stalled jobs follow the flush.
    exact ⟨fun _ => (flushJobs_logs hupd).1, fun hevents => (by cases hevents)⟩
  | promotePendingToReady jobId now =>
    rcases map_eq_ok.1 h with ⟨⟨_, promoted⟩, hpromote, rfl⟩
    rcases promotePendingToReady_eq_ok hpromote with ⟨_, _, _, _, _, hupd, _⟩
    exact hflush hupd rfl rfl
  | propagateDependencyFailure jobId now =>
    rcases map_eq_ok.1 h with ⟨⟨_, blocked⟩, hblock, rfl⟩
    rcases propagateDependencyFailure_eq_ok hblock with ⟨_, hupd⟩
    exact hflush hupd rfl rfl
  | satisfyDependency jobId now =>
    cases h
    exact ⟨fun _ => rfl, fun _ => rfl⟩
  | retryFailedJob jobId now =>
    rcases map_eq_ok.1 h with ⟨⟨_, retried⟩, hretry, rfl⟩
    rcases Engine.retryFailedJob_eq_ok hretry with ⟨_, _, _, _, _, _, _, hupd⟩
    exact hflush hupd rfl rfl
  | cancelWorkflow workflowId now =>
    rcases map_eq_ok.1 h with ⟨⟨_, count⟩, hcancel, rfl⟩
    rcases Engine.cancelWorkflow_eq_ok hcancel with ⟨_, _, _, hupd⟩
    exact hflush hupd rfl rfl
  | resolveByHand jobId effectState providerObjectId now =>
    rcases Engine.reconcileUncertainEffect_eq_ok h with ⟨_, _, _, _, _, _, _, _, _, hupd⟩
    exact ⟨fun heffects => (by cases heffects), fun _ => (flushJobs_logs hupd).2⟩
  | reconcileUncertainEffect jobId reconciler maxAttempts now =>
    rcases map_eq_ok.1 h with ⟨⟨_, result⟩, hrec, rfl⟩
    rcases Reconciliation.reconcileUncertainEffect_eq_ok hrec with
      ⟨_, _, _, _, _, _, _, _, _, rfl⟩
    exact ⟨fun heffects => (by cases heffects), fun _ => rfl⟩
  | applyReconciliationResult jobId issued now =>
    rcases Reconciliation.applyReconciliationResult_eq_ok h with ⟨_, _, happly⟩
    rcases happly with ⟨rfl, _⟩ | ⟨_, _, hupd⟩
    · exact ⟨fun _ => rfl, fun _ => rfl⟩
    · exact hflush hupd rfl rfl
  | reserveIdempotencyKey idempotencyKey jobId operation sideEffectClass now =>
    rcases reserveIdempotencyKey_eq_ok h with ⟨_, _, _, _, _, _, _, rfl⟩
    exact ⟨fun _ => rfl, fun _ => rfl⟩
  | markIdempotencyCompleted idempotencyKey now =>
    rcases markIdempotencyCompleted_eq_ok h with ⟨_, rfl⟩
    exact ⟨fun _ => rfl, fun _ => rfl⟩
  | recordEffectAttempt row =>
    have hdb := (recordEffectAttempt_eq_ok h).2
    subst hdb
    exact ⟨fun heffects => (by cases heffects), fun _ => rfl⟩
  | insertJob new =>
    rcases Database.insertJob_eq_ok h with ⟨_, _, _, _, rfl⟩
    exact ⟨fun _ => rfl, fun _ => rfl⟩
  | insertEvent event =>
    have hdb := Database.insertEvent_eq_ok h
    subst hdb
    exact ⟨fun _ => rfl, fun hevents => (by cases hevents)⟩
  | abandon jobId now => exact hflush h rfl rfl
  | failAndRelease jobId workerId now =>
    rcases bind_eq_ok.1 h with ⟨db₁, hmark, hrel⟩
    rcases releaseLease_eq_ok hrel with ⟨_, _, _, _, _, hupd⟩
    rcases flushJobs_logs hmark with ⟨heffects, hevents⟩
    exact hflush hupd heffects hevents

/-- Events are only appended. -/
theorem perform_events {w : Write} (h : w.perform db = .ok db') :
    ∃ new, db'.events = db.events ++ new := by
  cases hw : w.writesEvents with
  | false => exact ⟨[], by simpa using (perform_logs h).2 hw⟩
  | true =>
    cases w with
    | detectStalledJobs locked now stallThreshold limit =>
      rcases map_eq_ok.1 h with ⟨⟨_, stalled⟩, hstall, rfl⟩
      rcases detectStalledJobs_eq_ok hstall with ⟨_, db₁, hupd, rfl⟩
      exact ⟨_, congrArg (· ++ _) (flushJobs_logs hupd).2⟩
    | insertEvent event =>
      have hdb := Database.insertEvent_eq_ok h
      subst hdb
      exact ⟨[event], rfl⟩
    | _ => cases hw

end Evolution

/-! ## Every operation is made of writes -/

section Induction

variable {digest : String → Uuid} {db db' : Database} {I : Database → Prop}

/-- After a claim the row of the claimed job is `RUNNING` and owned by the worker. -/
theorem claimed_of_update {jobId : Uuid} {workerId : String} {now : Moment} {duration : Duration}
    {hid : ∀ job, (claimColumns workerId now duration job).id = job.id}
    (hupd : db.updateJob jobId (claimColumns workerId now duration) hid = .ok db') :
    Claimed db' jobId workerId := by
  rcases Database.flushJobs_eq_ok hupd with ⟨_, rfl⟩
  intro job' hjob' hkey
  rcases (Table.mem_modify hid).1 hjob' with ⟨job, _, rfl⟩
  by_cases hsel : job.id = jobId
  · simp [hsel, claimColumns]
  · simp [hsel] at hkey

/-- What every write of an execution keeps, the execution keeps. -/
theorem executeJobWithRunner_induction {clock : Moment} {runner : AgentRunner}
    {locked : Uuid → Bool} {workerId : String} {now : Moment} {db₁ : Database} {job : Job}
    (hcandidate : job ∈ readyCandidates db locked now) (hclaimed : Claimed db₁ job.id workerId)
    (hwrite : ∀ {db₁ db₂ : Database} {w : Write},
      Performs db (.workerIteration clock runner locked workerId now) db₁ w → I db₁ →
        w.perform db₁ = .ok db₂ → I db₂)
    (hI : I db₁)
    (h : executeJobWithRunner digest clock runner db₁
      (claimColumns workerId now leaseDuration job) workerId now = .ok db') : I db' := by
  have hid : (claimColumns workerId now leaseDuration job).id = job.id := by simp [claimColumns]
  rcases executeJobWithRunner_eq_ok h with
    ⟨hagent, _, hmark⟩ | ⟨_, db₂, hmark, hrel⟩ | ⟨result, db₂, db₃, hbeat, hrel, hemit⟩
  · simp only [hid] at hmark
    exact hwrite (Performs.workerAbandon hcandidate hagent hclaimed) hI hmark
  · simp only [hid] at hmark hrel
    exact hwrite (Performs.workerFail hclaimed) hI (bind_eq_ok.2 ⟨db₂, hmark, hrel⟩)
  · have hI₂ : I db₂ := hwrite Performs.workerHeartbeat hI hbeat
    have hI₃ : I db₃ := hwrite Performs.workerRelease hI₂ hrel
    exact emitEvents_invariant (fun hI hins => hwrite Performs.workerJob hI hins)
      (fun hI hins => hwrite Performs.workerEvent hI hins) hI₃ hemit

/-- What every write of an operation keeps, the operation keeps. -/
theorem execute_induction {op : Op} (h : execute digest db op = .ok db')
    (hwrite : ∀ {db₁ db₂ : Database} {w : Write}, Performs db op db₁ w → I db₁ →
      w.perform db₁ = .ok db₂ → I db₂)
    (hI : I db) : I db' := by
  cases op with
  | call write callable => exact hwrite Performs.call hI h
  | promoteDueJobs now limit =>
    rcases map_eq_ok.1 h with ⟨⟨_, promoted⟩, hpromote, rfl⟩
    exact promoteEach_invariant
      (fun hI hone => hwrite Performs.promoteDue hI (map_eq_ok.2 ⟨_, hone, rfl⟩)) hI hpromote
  | runSchedulerCycle args =>
    rcases map_eq_ok.1 h with ⟨⟨_, counts⟩, hcycle, rfl⟩
    rcases runSchedulerCycle_eq_ok hcycle with
      ⟨db₁, _, db₂, _, _, hreclaim, hstall, hpromote⟩
    have hreclaim' : args.reclaim.perform db = .ok db₁ := map_eq_ok.2 ⟨_, hreclaim, rfl⟩
    have hI₁ : I db₁ := hwrite Performs.cycleReclaim hI hreclaim'
    have hI₂ : I db₂ :=
      hwrite (Performs.cycleStall hreclaim') hI₁ (map_eq_ok.2 ⟨_, hstall, rfl⟩)
    exact promoteEach_invariant
      (fun hI hone => hwrite Performs.cyclePromote hI (map_eq_ok.2 ⟨_, hone, rfl⟩)) hI₂ hpromote
  | dispatch clock args =>
    rcases map_eq_ok.1 h with ⟨⟨_, created⟩, hdispatch, rfl⟩
    exact dispatch_invariant (fun hI hins => hwrite Performs.dispatchJob hI hins)
      (fun hI hins => hwrite Performs.dispatchEvent hI hins) hI hdispatch
  | workerIteration clock runner locked workerId now =>
    rcases workerIteration_eq_ok h with ⟨db₁, claimed, hclaim, hrest⟩
    have hI₁ : I db₁ := hwrite Performs.workerClaim hI (map_eq_ok.2 ⟨_, hclaim, rfl⟩)
    rcases hrest with ⟨_, rfl⟩ | ⟨job', hjob', hexec⟩
    · exact hI₁
    · rcases claimReadyJob_eq_ok hclaim with ⟨_, hnone⟩ | ⟨job, _, hcandidate, hupd, hsome⟩
      · simp [hnone] at hjob'
      · have hrow : job' = claimColumns workerId now leaseDuration job := by
          simpa [hsome] using hjob'.symm
        subst hrow
        exact executeJobWithRunner_induction hcandidate (claimed_of_update hupd) hwrite hI₁ hexec

/-- The same for a step of the machine, which also keeps what a rolled back operation leaves. -/
theorem step_induction {op : Op}
    (hwrite : ∀ {db₁ db₂ : Database} {w : Write}, Performs db op db₁ w → I db₁ →
      w.perform db₁ = .ok db₂ → I db₂)
    (hI : I db) : I (step digest db op) := by
  unfold step
  cases h : execute digest db op with
  | ok db' => exact execute_induction h hwrite hI
  | error error => exact hI

/-- Row invariants: kept by the row changes of the writes an operation performs, they are kept by
the operation. -/
theorem step_forall_jobs {op : Op} {J : Job → Prop}
    (hchange : ∀ {db₁ : Database} {w : Write} {job job' : Job}, Performs db op db₁ w →
      job ∈ db₁.jobs → (∀ row ∈ db₁.jobs, J row) → JobChange db₁ w job job' → J job')
    (hnew : ∀ job, IsNew job → J job) (hJ : ∀ job ∈ db.jobs, J job) :
    ∀ job ∈ (step digest db op).jobs, J job := by
  refine step_induction (I := fun db => ∀ job ∈ db.jobs, J job) ?_ hJ
  intro db₁ db₂ w hperf hI hw
  refine (perform_evolves hw).forall_mem hI ?_ hnew
  intro job hjob job' _ hstep _
  exact hchange hperf hjob hI hstep

/-- The same for one job: it keeps its id and its invariant. -/
theorem step_exists_job {op : Op} {J : Job → Prop} {jobId : Uuid}
    (hchange : ∀ {db₁ : Database} {w : Write} {job job' : Job}, Performs db op db₁ w →
      job ∈ db₁.jobs → job.id = jobId → J job → JobChange db₁ w job job' → J job')
    (hJ : ∃ job ∈ db.jobs, job.id = jobId ∧ J job) :
    ∃ job ∈ (step digest db op).jobs, job.id = jobId ∧ J job := by
  refine step_induction (I := fun db => ∃ job ∈ db.jobs, job.id = jobId ∧ J job) ?_ hJ
  intro db₁ db₂ w hperf hI hw
  rcases hI with ⟨job, hjob, hid, hJob⟩
  rcases (perform_evolves hw).exists_mem hjob with ⟨job', hjob', hkey, hstep⟩
  exact ⟨job', hjob', hkey.trans hid, hchange hperf hjob hid hJob hstep⟩

/-- A call ends as its write does: in the state written, or where it started. -/
theorem step_call (digest : String → Uuid) (db : Database) {w : Write}
    (callable : w.workerOnly = false) :
    (∃ db', w.perform db = .ok db' ∧ step digest db (.call w callable) = db') ∨
      ((∀ db', w.perform db ≠ .ok db') ∧ step digest db (.call w callable) = db) := by
  unfold step execute
  cases h : w.perform db with
  | ok db' => exact Or.inl ⟨db', rfl, by simp [h]⟩
  | error e => exact Or.inr ⟨by simp, by simp [h]⟩

/-- A call performs one write, in the state it starts from. -/
theorem meets_call {ok : Database → Write → Prop} {w : Write} {callable : w.workerOnly = false} :
    (Op.call w callable).Meets ok db ↔ ok db w := by
  constructor
  · intro h
    exact h db w Performs.call
  · intro h db₁ w' hperf
    cases hperf
    exact h

end Induction

end Orchestration
end MoneyMachine
