import MoneyMachine.Orchestration.AttemptBudget
import MoneyMachine.Orchestration.FailurePropagation
import MoneyMachine.Orchestration.PromotionBlocking

/-!
# DependencyOrder — no job starts before its predecessors have succeeded

`evaluate_job_readiness` reads the predecessors of a job once, when the job is promoted.  Over whole
runs this orders the jobs of a workflow, because

* `JobChange.waiting`      : promotion is the only way out of waiting;
* `perform_tables`         : no operation adds or removes a dependency;
* `JobChange.hasSucceeded` : what has succeeded stays on the record of its row.

`started_after_predecessors` holds for every run, the worker's branches and late reconciliation
results included, and for predecessors of predecessors.
-/

namespace MoneyMachine
namespace Orchestration

open MoneyMachine.Domain
open MoneyMachine.Library
open MoneyMachine.Persistence

/-! ## Waiting and started -/

/-- The statuses of a job that was not let through, or was let through and stopped again. -/
def heldBack : List JobStatus :=
  [.pending, .blocked, .cancelled]

/-- The job is, or once was, in a status behind the gate. -/
def Started (job : Job) : Prop :=
  job.status ∉ heldBack ∨ ∃ write ∈ job.statusWrites, write.source ∉ heldBack

/-- The job is `SUCCEEDED`, or was before it was taken out of that status. -/
def HasSucceeded (job : Job) : Prop :=
  job.status = .succeeded ∨ ∃ write ∈ job.statusWrites, write.source = .succeeded

/-- Nobody has worked on the job. -/
structure Waiting (job : Job) : Prop where
  held : job.status ∈ heldBack
  free : job.leaseOwner = none
  history : ∀ write ∈ job.statusWrites, write.source ∈ heldBack

theorem Waiting.not_started {job : Job} (h : Waiting job) : ¬ Started job := by
  rintro (hstatus | ⟨write, hwrite, hsource⟩)
  · exact hstatus h.held
  · exact hsource (h.history write hwrite)

theorem HasSucceeded.started {job : Job} (h : HasSucceeded job) : Started job := by
  rcases h with hstatus | ⟨write, hwrite, hsource⟩
  · exact Or.inl (by simp [hstatus, heldBack])
  · exact Or.inr ⟨write, hwrite, by simp [hsource, heldBack]⟩

/-- Assigning the status keeps the record of a success. -/
theorem HasSucceeded.of_setStatus {job job' : Job} {status : JobStatus} (h : HasSucceeded job)
    (hstatus : job'.status = status)
    (hwrites : job'.statusWrites = (job.setStatus status).statusWrites) : HasSucceeded job' := by
  rw [Job.setStatus_statusWrites] at hwrites
  rcases h with hnow | ⟨write, hwrite, hsource⟩
  · by_cases hsame : job.status = status
    · exact Or.inl (hstatus.trans (hsame.symm.trans hnow))
    · -- The assignment itself is the record.
      exact Or.inr ⟨⟨job.status, status⟩, by simp [hwrites, hsame], hnow⟩
  · exact Or.inr ⟨write, by simp [hwrites, hwrite], hsource⟩

/-- Assigning a status from which no work follows keeps a waiting job waiting. -/
theorem Waiting.of_setStatus {job job' : Job} {status : JobStatus} (h : Waiting job)
    (hheld : status ∈ heldBack) (hstatus : job'.status = status)
    (hfree : job'.leaseOwner = job.leaseOwner)
    (hwrites : job'.statusWrites = (job.setStatus status).statusWrites) : Waiting job' := by
  refine ⟨hstatus ▸ hheld, hfree.trans h.free, ?_⟩
  intro write hwrite
  rw [hwrites, Job.setStatus_statusWrites] at hwrite
  rcases List.mem_append.1 hwrite with hold | hnew
  · exact h.history write hold
  · by_cases hsame : job.status = status
    · simp [hsame] at hnew
    · rw [if_neg hsame, List.mem_singleton] at hnew
      exact hnew ▸ h.held

theorem IsNew.waiting {job : Job} (h : IsNew job) : Waiting job := by
  rcases h with ⟨_, new, rfl⟩
  exact ⟨by simp [NewJob.row, heldBack], rfl, by simp [NewJob.row]⟩

/-! ## What a write does to one row -/

theorem JobChange.hasSucceeded {db : Database} {w : Write} {job job' : Job}
    (h : JobChange db w job job') (hs : HasSucceeded job) : HasSucceeded job' := by
  cases h with
  | same => exact hs
  | claim => exact hs.of_setStatus (Job.setStatus_status _ _) rfl
  | heartbeat => exact hs
  | release => exact hs.of_setStatus (Job.setStatus_status _ _) rfl
  | @reclaim _ now _ _ _ =>
    have hfail : HasSucceeded (failAttemptColumns now job) := hs.of_setStatus (by simp) rfl
    rcases reclaimColumns_cases now job with hc | ⟨_, hc⟩ | ⟨_, _, _, hc⟩
    · rw [hc]
      exact hfail.of_setStatus (Job.setStatus_status _ _) rfl
    · rw [hc]
      exact hfail
    · rw [hc]
      exact hfail.of_setStatus (Job.setStatus_status _ _) rfl
  | stall => exact hs.of_setStatus (by simp) rfl
  | promote => exact hs.of_setStatus (Job.setStatus_status _ _) rfl
  | block => exact hs.of_setStatus (Job.setStatus_status _ _) rfl
  | retry => exact hs.of_setStatus (Job.setStatus_status _ _) rfl
  | cancel => exact hs.of_setStatus (Job.setStatus_status _ _) rfl
  | resolve => exact hs.of_setStatus (Job.setStatus_status _ _) rfl
  | apply => exact hs.of_setStatus (Job.setStatus_status _ _) rfl
  | abandon => exact hs.of_setStatus (Job.setStatus_status _ _) rfl
  | @failAndRelease _ now _ _ =>
    have hmark : HasSucceeded (markFailedColumns now job) :=
      hs.of_setStatus (Job.setStatus_status _ _) rfl
    exact hmark.of_setStatus (Job.setStatus_status _ _) rfl

/-- Every other write finds a waiting job in the wrong status, or without the lease it asks for. -/
theorem JobChange.waiting {db : Database} {w : Write} {job job' : Job} (h : JobChange db w job job')
    (habandon : ∀ jobId now, w = .abandon jobId now → job.id = jobId → job.status = .running)
    (hpromote : ∀ jobId now, w ≠ .promotePendingToReady jobId now) (hw : Waiting job) :
    Waiting job' := by
  have hheld := hw.held
  simp only [heldBack, List.mem_cons, List.not_mem_nil, or_false] at hheld
  cases h with
  | same => exact hw
  | claim hready => simp [hready] at hheld
  | heartbeat howner => simp [hw.free] at howner
  | release howner _ => simp [hw.free] at howner
  | reclaim hpicked => simp [(mem_expiredJobs hpicked).2] at hheld
  | stall hpicked => simp [(mem_stalledJobs hpicked).2] at hheld
  | promote => exact absurd rfl (hpromote _ _)
  | block =>
    exact hw.of_setStatus (by simp [heldBack]) (Job.setStatus_status _ _) (by simp [blockColumns])
      rfl
  | retry hfailed _ _ => simp [hfailed] at hheld
  | cancel =>
    exact hw.of_setStatus (by simp [heldBack]) (Job.setStatus_status _ _)
      (by simp [Engine.cancelColumns]) rfl
  | resolve huncertain _ => simp [huncertain] at hheld
  | @apply issued _ _ hedge =>
    -- Of what a query answers only `BLOCKED` is an edge out of these statuses.
    have hblocked : issued.result.nextJobStatus = .blocked := by
      have htarget := issued.status_cases
      rcases hheld with h | h | h <;> rw [h] at hedge <;> revert hedge htarget <;>
        cases issued.result.nextJobStatus <;> simp [jobTransitions]
    rw [hblocked]
    exact hw.of_setStatus (by simp [heldBack]) (Job.setStatus_status _ _)
      (by simp [Reconciliation.applyColumns]) rfl
  | abandon => simp [habandon _ _ rfl rfl] at hheld
  | failAndRelease howner => simp [hw.free] at howner

/-! ## What a write does to the graph -/

section Graph

variable {db db' : Database}

/-- The writes that touch reservations or workflows. -/
def Write.writesOthers : Write → Bool
  | .cancelWorkflow .. => true
  | .reserveIdempotencyKey .. => true
  | .markIdempotencyCompleted .. => true
  | _ => false

/-- No operation adds or removes a dependency, and few touch the tables beside the jobs. -/
theorem perform_tables {w : Write} (h : w.perform db = .ok db') :
    db'.dependencies.map JobDependency.edge = db.dependencies.map JobDependency.edge ∧
      (w.writesOthers = false →
        db'.idempotencyRecords = db.idempotencyRecords ∧ db'.workflows = db.workflows) := by
  have hflush : ∀ {db₁ : Database} {jobs : Table Job Job.id}, db₁.flushJobs jobs = .ok db' →
      db₁.dependencies = db.dependencies →
        (w.writesOthers = false →
          db₁.idempotencyRecords = db.idempotencyRecords ∧ db₁.workflows = db.workflows) →
        db'.dependencies.map JobDependency.edge = db.dependencies.map JobDependency.edge ∧
          (w.writesOthers = false →
            db'.idempotencyRecords = db.idempotencyRecords ∧ db'.workflows = db.workflows) := by
    intro db₁ jobs hflush hdeps hothers
    rcases Database.flushJobs_eq_ok hflush with ⟨_, rfl⟩
    exact ⟨congrArg (List.map JobDependency.edge) hdeps, hothers⟩
  cases w with
  | claimReadyJob locked workerId now duration =>
    rcases map_eq_ok.1 h with ⟨⟨_, claimed⟩, hclaim, rfl⟩
    rcases claimReadyJob_eq_ok hclaim with ⟨rfl, _⟩ | ⟨_, _, _, hupd, _⟩
    · exact ⟨rfl, fun _ => ⟨rfl, rfl⟩⟩
    · exact hflush hupd rfl (fun _ => ⟨rfl, rfl⟩)
  | heartbeat jobId workerId now extension =>
    rcases heartbeat_eq_ok h with ⟨_, _, _, _, hupd⟩
    exact hflush hupd rfl (fun _ => ⟨rfl, rfl⟩)
  | releaseLease jobId workerId now finalStatus =>
    rcases releaseLease_eq_ok h with ⟨_, _, _, _, _, hupd⟩
    exact hflush hupd rfl (fun _ => ⟨rfl, rfl⟩)
  | reclaimExpiredLeases locked now limit =>
    rcases map_eq_ok.1 h with ⟨⟨_, reclaimed⟩, hreclaim, rfl⟩
    rcases reclaimExpiredLeases_eq_ok hreclaim with ⟨_, hupd, _⟩
    exact hflush hupd rfl (fun _ => ⟨rfl, rfl⟩)
  | detectStalledJobs locked now stallThreshold limit =>
    rcases map_eq_ok.1 h with ⟨⟨_, stalled⟩, hstall, rfl⟩
    rcases detectStalledJobs_eq_ok hstall with ⟨_, db₁, hupd, rfl⟩
    -- The events follow the flush.
    rcases Database.flushJobs_eq_ok hupd with ⟨_, rfl⟩
    exact ⟨rfl, fun _ => ⟨rfl, rfl⟩⟩
  | promotePendingToReady jobId now =>
    rcases map_eq_ok.1 h with ⟨⟨_, promoted⟩, hpromote, rfl⟩
    rcases promotePendingToReady_eq_ok hpromote with ⟨_, _, _, _, _, hupd, _⟩
    exact hflush hupd rfl (fun _ => ⟨rfl, rfl⟩)
  | propagateDependencyFailure jobId now =>
    rcases map_eq_ok.1 h with ⟨⟨_, blocked⟩, hblock, rfl⟩
    rcases propagateDependencyFailure_eq_ok hblock with ⟨_, hupd⟩
    exact hflush hupd rfl (fun _ => ⟨rfl, rfl⟩)
  | satisfyDependency jobId now =>
    cases h
    exact ⟨satisfyDependency_edges jobId now, fun _ => ⟨rfl, rfl⟩⟩
  | retryFailedJob jobId now =>
    rcases map_eq_ok.1 h with ⟨⟨_, retried⟩, hretry, rfl⟩
    rcases Engine.retryFailedJob_eq_ok hretry with ⟨_, _, _, _, _, _, _, hupd⟩
    exact hflush hupd rfl (fun _ => ⟨rfl, rfl⟩)
  | cancelWorkflow workflowId now =>
    rcases map_eq_ok.1 h with ⟨⟨_, count⟩, hcancel, rfl⟩
    rcases Engine.cancelWorkflow_eq_ok hcancel with ⟨_, _, _, hupd⟩
    exact hflush hupd rfl (fun hw => by cases hw)
  | resolveByHand jobId effectState providerObjectId now =>
    rcases Engine.reconcileUncertainEffect_eq_ok h with ⟨_, _, _, _, _, _, _, _, _, hupd⟩
    exact hflush hupd rfl (fun _ => ⟨rfl, rfl⟩)
  | reconcileUncertainEffect jobId reconciler maxAttempts now =>
    rcases map_eq_ok.1 h with ⟨⟨_, result⟩, hrec, rfl⟩
    rcases Reconciliation.reconcileUncertainEffect_eq_ok hrec with
      ⟨_, _, _, _, _, _, _, _, _, rfl⟩
    exact ⟨rfl, fun _ => ⟨rfl, rfl⟩⟩
  | applyReconciliationResult jobId issued now =>
    rcases Reconciliation.applyReconciliationResult_eq_ok h with ⟨_, _, happly⟩
    rcases happly with ⟨rfl, _⟩ | ⟨_, _, hupd⟩
    · exact ⟨rfl, fun _ => ⟨rfl, rfl⟩⟩
    · exact hflush hupd rfl (fun _ => ⟨rfl, rfl⟩)
  | reserveIdempotencyKey idempotencyKey jobId operation sideEffectClass now =>
    rcases reserveIdempotencyKey_eq_ok h with ⟨_, _, _, _, _, _, _, rfl⟩
    exact ⟨rfl, fun hw => by cases hw⟩
  | markIdempotencyCompleted idempotencyKey now =>
    rcases markIdempotencyCompleted_eq_ok h with ⟨_, rfl⟩
    exact ⟨rfl, fun hw => by cases hw⟩
  | recordEffectAttempt row =>
    have hdb := (recordEffectAttempt_eq_ok h).2
    subst hdb
    exact ⟨rfl, fun _ => ⟨rfl, rfl⟩⟩
  | insertJob new =>
    rcases Database.insertJob_eq_ok h with ⟨_, _, _, _, rfl⟩
    exact ⟨rfl, fun _ => ⟨rfl, rfl⟩⟩
  | insertEvent event =>
    have hdb := Database.insertEvent_eq_ok h
    subst hdb
    exact ⟨rfl, fun _ => ⟨rfl, rfl⟩⟩
  | abandon jobId now => exact hflush h rfl (fun _ => ⟨rfl, rfl⟩)
  | failAndRelease jobId workerId now =>
    rcases bind_eq_ok.1 h with ⟨db₁, hmark, hrel⟩
    rcases releaseLease_eq_ok hrel with ⟨_, _, _, _, _, hupd⟩
    rcases Database.flushJobs_eq_ok hmark with ⟨_, rfl⟩
    exact hflush hupd rfl (fun _ => ⟨rfl, rfl⟩)

theorem perform_dependsOn {w : Write} (h : w.perform db = .ok db') {jobId predecessorId : Uuid} :
    DependsOn db' jobId predecessorId ↔ DependsOn db jobId predecessorId := by
  rw [dependsOn_iff_mem, dependsOn_iff_mem, (perform_tables h).1]

/-- A job that is ready has no predecessor in another status than `SUCCEEDED`. -/
theorem succeeded_of_ready {jobId : Uuid} {now : Moment} {job : Job}
    (hget : db.jobs.get? jobId = some job) (h : (evaluateJobReadiness db jobId now).1 = true)
    {predecessor : Job} (hmem : predecessor ∈ db.jobs) (hdep : DependsOn db jobId predecessor.id) :
    predecessor.status = .succeeded := by
  have hsatisfied : checkDependenciesSatisfied db jobId = true := by
    by_contra hopen
    have hopen' : (!checkDependenciesSatisfied db jobId) = true := by simpa using hopen
    simp only [evaluateJobReadiness, hget, hopen', if_true] at h
    split_ifs at h
  rcases hdep with ⟨dep, hdep, hjob, hpredecessor⟩
  have hrow : db.jobs.get? dep.dependsOnJobId = some predecessor :=
    Table.get?_eq_some_iff.2 ⟨hmem, hpredecessor.symm⟩
  simp only [checkDependenciesSatisfied, Bool.not_eq_true', List.any_eq_false, Bool.and_eq_true,
    decide_eq_true_eq, not_and, dependencyUnsatisfied, Bool.or_eq_true] at hsatisfied
  have hclosed := hsatisfied dep hdep hjob
  rw [hrow] at hclosed
  simp only [Option.any_some, decide_eq_true_eq, not_or, ne_eq, not_not] at hclosed
  exact hclosed.2

end Graph

/-! ## Whole runs -/

/-- The predecessors of the job have succeeded. -/
def Cleared (db : Database) (jobId : Uuid) : Prop :=
  ∀ predecessorId, DependsOn db jobId predecessorId →
    ∃ predecessor ∈ db.jobs, predecessor.id = predecessorId ∧ HasSucceeded predecessor

/-- The invariant.  The schema has the ends of a dependency refer to jobs. -/
structure InOrder (db : Database) : Prop where
  linked : ∀ jobId predecessorId, DependsOn db jobId predecessorId →
    ∃ predecessor ∈ db.jobs, predecessor.id = predecessorId
  order : ∀ job ∈ db.jobs, Waiting job ∨ Cleared db job.id

section Runs

variable {db db' : Database}

theorem Cleared.perform {w : Write} (h : w.perform db = .ok db') {jobId : Uuid}
    (hc : Cleared db jobId) : Cleared db' jobId := by
  intro predecessorId hdep
  rcases hc predecessorId ((perform_dependsOn h).1 hdep) with ⟨row, hrow, hid, hs⟩
  rcases (perform_evolves h).exists_mem hrow with ⟨row', hrow', hkey, hchange⟩
  exact ⟨row', hrow', hkey.trans hid, hchange.hasSucceeded hs⟩

/-- A promoted job is cleared by the check it passed. -/
theorem cleared_of_promoted {jobId : Uuid} {now : Moment} (hdb : InOrder db)
    (h : (Write.promotePendingToReady jobId now).perform db = .ok db') : Cleared db jobId := by
  rcases map_eq_ok.1 h with ⟨⟨_, promoted⟩, hpromote, rfl⟩
  rcases promotePendingToReady_eq_ok hpromote with ⟨_, _, hget, _, _, _, _⟩
  have hready := ready_of_promoted hpromote
  intro predecessorId hdep
  rcases hdb.linked _ _ hdep with ⟨predecessor, hmem, rfl⟩
  exact ⟨predecessor, hmem, rfl, Or.inl (succeeded_of_ready hget hready hmem hdep)⟩

theorem perform_inOrder {w : Write} (hdb : InOrder db)
    (habandon : ∀ jobId now, w = .abandon jobId now →
      ∀ job ∈ db.jobs, job.id = jobId → job.status = .running)
    (h : w.perform db = .ok db') : InOrder db' := by
  have hrows : ∀ job ∈ db.jobs, Waiting job ∨ Cleared db' job.id := fun job hjob =>
    (hdb.order job hjob).imp_right (Cleared.perform h)
  constructor
  · intro jobId predecessorId hdep
    rcases hdb.linked _ _ ((perform_dependsOn h).1 hdep) with ⟨row, hrow, hid⟩
    rcases (perform_evolves h).exists_mem hrow with ⟨row', hrow', hkey, _⟩
    exact ⟨row', hrow', hkey.trans hid⟩
  · by_cases hpromote : ∃ jobId now, w = .promotePendingToReady jobId now
    · rcases hpromote with ⟨jobId, now, rfl⟩
      have hcleared : Cleared db' jobId := (cleared_of_promoted hdb h).perform h
      rcases map_eq_ok.1 h with ⟨⟨_, promoted⟩, hone, rfl⟩
      rcases promotePendingToReady_eq_ok hone with ⟨_, _, _, _, _, hupd, _⟩
      refine (Database.updateJob_evolves hupd).forall_mem hrows ?_ (fun _ hfalse => hfalse.elim)
      intro job _ job' hkey hstep hJ
      -- The row that is let through, and the rows that are left as they are.
      rcases hstep with ⟨hid, _⟩ | ⟨_, rfl⟩
      · exact Or.inr (hkey.trans hid ▸ hcleared)
      · exact hJ
    · rw [not_exists] at hpromote
      refine (perform_evolves h).forall_mem hrows ?_ (fun _ hnew => Or.inl hnew.waiting)
      intro job hjob job' hkey hchange hJ
      rcases hJ with hwaiting | hcleared
      · exact Or.inl (hchange.waiting (fun jobId now hw => habandon jobId now hw job hjob)
          (fun jobId now hw => hpromote jobId ⟨now, hw⟩) hwaiting)
      · exact Or.inr (hkey ▸ hcleared)

/-- A worker abandons only the job it has claimed. -/
theorem running_of_abandon {op : Op} {db₁ : Database} {jobId : Uuid} {now : Moment}
    (h : Performs db op db₁ (.abandon jobId now)) :
    ∀ job ∈ db₁.jobs, job.id = jobId → job.status = .running := by
  cases h with
  | @call _ callable => simp [Write.workerOnly] at callable
  | workerAbandon _ _ hclaimed => exact fun job hjob hid => (hclaimed job hjob hid).1

theorem step_inOrder {digest : String → Uuid} {op : Op} (h : InOrder db) :
    InOrder (step digest db op) := by
  refine step_induction ?_ h
  intro db₁ db₂ w hperf hdb₁ hw
  refine perform_inOrder hdb₁ ?_ hw
  rintro jobId now rfl
  exact running_of_abandon hperf

theorem step_dependsOn {digest : String → Uuid} {op : Op} {jobId predecessorId : Uuid} :
    DependsOn (step digest db op) jobId predecessorId ↔ DependsOn db jobId predecessorId :=
  step_induction
    (I := fun db₁ => DependsOn db₁ jobId predecessorId ↔ DependsOn db jobId predecessorId)
    (fun _ hdb₁ hw => (perform_dependsOn hw).trans hdb₁) Iff.rfl

theorem run_dependsOn {digest : String → Uuid} {ops : List Op} {jobId predecessorId : Uuid} :
    DependsOn (runFrom (step digest) db ops) jobId predecessorId ↔
      DependsOn db jobId predecessorId :=
  runFrom_invariant (I := fun db₁ => DependsOn db₁ jobId predecessorId ↔
    DependsOn db jobId predecessorId) (fun _ _ hdb₁ => step_dependsOn.trans hdb₁) Iff.rfl ops

/-- A job that has started has seen its direct predecessors succeed. -/
theorem InOrder.direct (h : InOrder db) {job : Job} (hjob : job ∈ db.jobs) (hstarted : Started job)
    {predecessorId : Uuid} (hdep : DependsOn db job.id predecessorId) :
    ∃ predecessor ∈ db.jobs, predecessor.id = predecessorId ∧ HasSucceeded predecessor := by
  rcases h.order job hjob with hwaiting | hcleared
  · exact absurd hstarted hwaiting.not_started
  · exact hcleared predecessorId hdep

end Runs

/-- In every run, a job that has ever been past the gate has predecessors, direct or not, that have
all succeeded. -/
theorem started_after_predecessors (digest : String → Uuid) {db : Database} (hstart : InOrder db)
    (ops : List Op) :
    ∀ job ∈ (runFrom (step digest) db ops).jobs, Started job →
      ∀ predecessorId, WaitsFor db job.id predecessorId →
        ∃ predecessor ∈ (runFrom (step digest) db ops).jobs,
          predecessor.id = predecessorId ∧ HasSucceeded predecessor := by
  have hend : InOrder (runFrom (step digest) db ops) :=
    runFrom_invariant (fun _ _ h => step_inOrder h) hstart ops
  intro job hjob hstarted predecessorId hwaits
  -- Along the chain: what has succeeded has started, and so on to its own predecessors.
  induction hwaits with
  | single hdep => exact hend.direct hjob hstarted (run_dependsOn.2 hdep)
  | tail _ hdep ih =>
    rcases ih with ⟨row, hrow, rfl, hs⟩
    exact hend.direct hrow hs.started (run_dependsOn.2 hdep)

/-- The job is claimed, succeeds, and lets its dependent through. -/
def predecessorFirst : List Op :=
  [.call (.claimReadyJob unlocked "worker-1" 0 leaseDuration) sampleClaim_callable,
    .call (.releaseLease 1 "worker-1" 1 .succeeded) rfl,
    .call (.satisfyDependency 1 1) rfl,
    .promoteDueJobs 1 10,
    .call (.claimReadyJob unlocked "worker-1" 2 leaseDuration) rfl]

theorem dependentDatabase_inOrder (retryClass : RetryClass) :
    InOrder (dependentDatabase retryClass) := by
  have hdep : ∀ jobId predecessorId, DependsOn (dependentDatabase retryClass) jobId predecessorId →
      jobId = 2 ∧ predecessorId = 1 := by
    intro jobId predecessorId hdep
    simpa [dependsOn_iff_mem, dependentDatabase, JobDependency.edge] using hdep
  constructor
  · intro jobId predecessorId h
    obtain ⟨rfl, rfl⟩ := hdep _ _ h
    exact ⟨sampleJob .ready retryClass "A07" 3, by simp [dependentDatabase, Table.mem_def], rfl⟩
  · intro job hjob
    simp only [dependentDatabase, Table.mem_def, List.mem_cons, List.not_mem_nil, or_false] at hjob
    rcases hjob with rfl | rfl
    · refine Or.inr ?_
      intro predecessorId h
      exact absurd (hdep _ _ h).1 (by simp [sampleJob])
    · exact Or.inl ⟨by simp [sampleJob, heldBack], rfl, by simp [sampleJob]⟩

theorem started_after_predecessors_dependentDatabase :
    (∃ job ∈ (runFrom (step sampleDigest) (dependentDatabase .safe) predecessorFirst).jobs,
      job.id = 2 ∧ job.status = .running) ∧
    ∀ job ∈ (runFrom (step sampleDigest) (dependentDatabase .safe) predecessorFirst).jobs,
      Started job → ∀ predecessorId, WaitsFor (dependentDatabase .safe) job.id predecessorId →
        ∃ predecessor ∈ (runFrom (step sampleDigest) (dependentDatabase .safe) predecessorFirst).jobs,
          predecessor.id = predecessorId ∧ HasSucceeded predecessor := by
  refine ⟨?_, started_after_predecessors sampleDigest (dependentDatabase_inOrder .safe) _⟩
  have hrow : ((runFrom (step sampleDigest) (dependentDatabase .safe) predecessorFirst).jobs.get?
      2).map (fun job => job.status) = some .running := by
    decide +kernel
  rcases Option.map_eq_some_iff.1 hrow with ⟨job, hget, hstatus⟩
  rcases Table.get?_eq_some_iff.1 hget with ⟨hjob, hid⟩
  exact ⟨job, hjob, hid, hstatus⟩

end Orchestration
end MoneyMachine
