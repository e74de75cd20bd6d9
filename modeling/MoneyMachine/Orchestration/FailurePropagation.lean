import Mathlib.Logic.Relation
import MoneyMachine.Orchestration.JobChanges

/-!
# FailurePropagation — terminal failures and the jobs that wait for them

The resolver's contract is that a terminal failure blocks the jobs that depend on it.
`propagate_dependency_failure` does so for the direct dependents of one job, when it is called;
`reclaim_expired_leases`, the one operation that writes `TERMINAL_FAILURE`, never calls it.

`failure_propagated_iff` says what follows over whole runs: no `PENDING` job waits for a terminally
failed one exactly as long as no reclaim exhausts a job that some `PENDING` job still waits for,
directly or through other jobs.
-/

namespace MoneyMachine
namespace Orchestration

open MoneyMachine.Domain
open MoneyMachine.Library
open MoneyMachine.Persistence

/-! ## The dependency graph -/

/-- Some row of `job_dependencies` makes the job wait for its predecessor, satisfied or not. -/
def DependsOn (db : Database) (jobId predecessorId : Uuid) : Prop :=
  ∃ dep ∈ db.dependencies, dep.jobId = jobId ∧ dep.dependsOnJobId = predecessorId

/-- The same, directly or through other jobs. -/
def WaitsFor (db : Database) : Uuid → Uuid → Prop :=
  Relation.TransGen (DependsOn db)

/-- No `PENDING` job waits for a job that failed terminally. -/
def FailurePropagated (db : Database) : Prop :=
  ∀ job ∈ db.jobs, job.status = .pending →
    ∀ failed ∈ db.jobs, failed.status = .terminalFailure → ¬ WaitsFor db job.id failed.id

/-! ## The operations -/

/-- The calls that move jobs after they are created: claim, release, reclaim, stall detection,
retry, and the two outcomes of a predecessor. -/
def Write.movesJobs : Write → Bool
  | .claimReadyJob .. => true
  | .releaseLease .. => true
  | .reclaimExpiredLeases .. => true
  | .detectStalledJobs .. => true
  | .retryFailedJob .. => true
  | .satisfyDependency .. => true
  | .propagateDependencyFailure .. => true
  | _ => false

def Op.MovesJobs : Op → Prop
  | .call write _ => write.movesJobs = true
  | _ => False

/-- The expired jobs that `reclaim_expired_leases` ends for good. -/
def EndsTerminally (job : Job) : Prop :=
  job.retryClass = .never ∨
    (job.retryClass ≠ .manualResume ∧ job.maxAttempts ≤ job.attempt + 1)

/-- A reclaim whose flush is refused: one of the rows it picked has no attempt left to count. -/
def Overdrawn (db : Database) (locked : Uuid → Bool) (now : Moment) (limit : Nat) : Prop :=
  ∃ job ∈ expiredJobs db locked now limit, job.maxAttempts ≤ job.attempt

/-- A reclaim, unless it is refused, ends no job that a `PENDING` job waits for. -/
def StrandsNoDependent (db : Database) : Op → Prop
  | .call (.reclaimExpiredLeases locked now limit) _ =>
    Overdrawn db locked now limit ∨
      ∀ failed ∈ expiredJobs db locked now limit, EndsTerminally failed →
        ∀ job ∈ db.jobs, job.status = .pending → ¬ WaitsFor db job.id failed.id
  | _ => True

/-! ## What the operations keep -/

section Frame

variable {db db' : Database}

/-- The two ends of a dependency. -/
def JobDependency.edge (dep : JobDependency) : Uuid × Uuid :=
  (dep.jobId, dep.dependsOnJobId)

theorem dependsOn_iff_mem {jobId predecessorId : Uuid} :
    DependsOn db jobId predecessorId ↔
      (jobId, predecessorId) ∈ db.dependencies.map JobDependency.edge := by
  simp [DependsOn, JobDependency.edge, Prod.ext_iff]

/-- The graph is read off the ends of the dependencies alone. -/
theorem waitsFor_congr
    (h : db'.dependencies.map JobDependency.edge = db.dependencies.map JobDependency.edge) :
    WaitsFor db' = WaitsFor db := by
  have hdirect : DependsOn db' = DependsOn db := by
    funext jobId predecessorId
    exact propext (by rw [dependsOn_iff_mem, dependsOn_iff_mem, h])
  unfold WaitsFor
  rw [hdirect]

theorem satisfyDependency_edges (jobId : Uuid) (now : Moment) :
    (satisfyDependency db jobId now).1.dependencies.map JobDependency.edge =
      db.dependencies.map JobDependency.edge := by
  simp only [satisfyDependency, List.map_map]
  refine List.map_congr_left ?_
  intro dep _
  simp only [Function.comp_apply]
  split <;> rfl

/-- A flush of rewritten rows adds none and leaves the graph alone. -/
theorem flushed_frame {sel : Job → Bool} {f : Job → Job} {hid : ∀ job, (f job).id = job.id}
    (h : db.flushJobs (db.jobs.modify sel f hid) = .ok db') :
    db'.jobs.rows.length = db.jobs.rows.length ∧ db'.dependencies = db.dependencies := by
  rcases Database.flushJobs_eq_ok h with ⟨_, rfl⟩
  simp [Table.modify_rows]

/-- None of these calls adds a job or an edge. -/
theorem movesJobs_frame {w : Write} (hw : w.movesJobs = true) (h : w.perform db = .ok db') :
    db'.jobs.rows.length = db.jobs.rows.length ∧
      db'.dependencies.map JobDependency.edge = db.dependencies.map JobDependency.edge := by
  have hflush : ∀ {sel : Job → Bool} {f : Job → Job} {hid : ∀ job, (f job).id = job.id},
      db.flushJobs (db.jobs.modify sel f hid) = .ok db' →
        db'.jobs.rows.length = db.jobs.rows.length ∧
          db'.dependencies.map JobDependency.edge = db.dependencies.map JobDependency.edge := by
    intro sel f hid hflush
    rcases flushed_frame hflush with ⟨hlength, hdeps⟩
    exact ⟨hlength, by rw [hdeps]⟩
  cases w with
  | claimReadyJob locked workerId now duration =>
    rcases map_eq_ok.1 h with ⟨⟨_, claimed⟩, hclaim, rfl⟩
    rcases claimReadyJob_eq_ok hclaim with ⟨rfl, _⟩ | ⟨job, _, _, hupd, _⟩
    · exact ⟨rfl, rfl⟩
    · exact hflush hupd
  | releaseLease jobId workerId now finalStatus =>
    rcases releaseLease_eq_ok h with ⟨_, _, _, _, _, hupd⟩
    exact hflush hupd
  | reclaimExpiredLeases locked now limit =>
    rcases map_eq_ok.1 h with ⟨⟨_, reclaimed⟩, hreclaim, rfl⟩
    rcases reclaimExpiredLeases_eq_ok hreclaim with ⟨_, hupd, _⟩
    exact hflush hupd
  | detectStalledJobs locked now stallThreshold limit =>
    rcases map_eq_ok.1 h with ⟨⟨_, stalled⟩, hstall, rfl⟩
    rcases detectStalledJobs_eq_ok hstall with ⟨_, db₁, hupd, rfl⟩
    -- The events of the stalled jobs are added after the flush.
    rcases flushed_frame hupd with ⟨hlength, hdeps⟩
    exact ⟨hlength, congrArg (List.map JobDependency.edge) hdeps⟩
  | propagateDependencyFailure jobId now =>
    rcases map_eq_ok.1 h with ⟨⟨_, blocked⟩, hblock, rfl⟩
    rcases propagateDependencyFailure_eq_ok hblock with ⟨_, hupd⟩
    exact hflush hupd
  | satisfyDependency jobId now =>
    cases h
    exact ⟨rfl, satisfyDependency_edges jobId now⟩
  | retryFailedJob jobId now =>
    rcases map_eq_ok.1 h with ⟨⟨_, retried⟩, hretry, rfl⟩
    rcases Engine.retryFailedJob_eq_ok hretry with ⟨_, _, _, _, _, _, _, hupd⟩
    exact hflush hupd
  | _ => cases hw

/-- So every row afterwards is a row from before, rewritten. -/
theorem movesJobs_exists_row {w : Write} (hw : w.movesJobs = true) (h : w.perform db = .ok db')
    {job' : Job} (hjob' : job' ∈ db'.jobs) :
    ∃ job ∈ db.jobs, job'.id = job.id ∧ JobChange db w job job' := by
  rcases perform_evolves h with ⟨g, new, hrows, hg, _⟩
  have hlength := (movesJobs_frame hw h).1
  have hnew : new = [] := by
    rw [hrows, List.length_append, List.length_map] at hlength
    exact List.eq_nil_of_length_eq_zero (by omega)
  rw [Table.mem_def, hrows, hnew, List.append_nil] at hjob'
  rcases List.mem_map.1 hjob' with ⟨job, hjob, rfl⟩
  exact ⟨job, hjob, hg job hjob⟩

end Frame

/-! ## What the operations write -/

theorem reclaimColumns_terminal_iff {now : Moment} {job : Job} :
    (reclaimColumns now job).status = .terminalFailure ↔ EndsTerminally job := by
  unfold reclaimColumns settleExpired EndsTerminally
  rw [failAttemptColumns_retryClass, failAttemptColumns_attempt, failAttemptColumns_maxAttempts]
  cases job.retryClass with
  | never => simp
  | manualResume => simp
  | safe | idempotent | reconcileFirst =>
    by_cases hbudget : job.maxAttempts ≤ job.attempt + 1 <;> simp [hbudget]

theorem reclaimColumns_withinBudget_iff {now : Moment} {job : Job} (hpositive : 0 < job.maxAttempts) :
    (reclaimColumns now job).WithinBudget ↔ job.attempt < job.maxAttempts := by
  have hcolumns : (reclaimColumns now job).attempt = job.attempt + 1 ∧
      (reclaimColumns now job).maxAttempts = job.maxAttempts := by
    rcases reclaimColumns_cases now job with h | ⟨_, h⟩ | ⟨_, _, _, h⟩ <;> simp [h]
  rw [Job.WithinBudget, hcolumns.1, hcolumns.2]
  omega

/-- No job becomes `PENDING`. -/
theorem JobChange.pending_of_pending {db : Database} {w : Write} {job job' : Job}
    (hw : w.movesJobs = true) (h : JobChange db w job job') (hpending : job'.status = .pending) :
    job.status = .pending := by
  cases h with
  | same => exact hpending
  | claim => simp [claimColumns] at hpending
  | release howner hlegal =>
    simp only [releaseColumns, Job.clearLease, Job.setStatus_status] at hpending
    simp [hpending, legalReleaseStatuses] at hlegal
  | @reclaim _ now _ _ _ =>
    rcases reclaimColumns_cases now job with hc | ⟨_, hc⟩ | ⟨_, _, _, hc⟩ <;>
      simp [hc] at hpending
  | stall => simp at hpending
  | block hbefore => exact hbefore
  | retry => simp [Engine.retryColumns] at hpending
  | _ => cases hw

/-- Only a reclaim makes a job fail terminally. -/
theorem JobChange.terminal_cases {db : Database} {w : Write} {job job' : Job}
    (hw : w.movesJobs = true) (h : JobChange db w job job')
    (hterminal : job'.status = .terminalFailure) :
    job.status = .terminalFailure ∨
      ∃ locked now limit, w = .reclaimExpiredLeases locked now limit ∧
        job ∈ expiredJobs db locked now limit ∧ EndsTerminally job := by
  cases h with
  | same => exact Or.inl hterminal
  | claim => simp [claimColumns] at hterminal
  | release howner hlegal =>
    simp only [releaseColumns, Job.clearLease, Job.setStatus_status] at hterminal
    simp [hterminal, legalReleaseStatuses] at hlegal
  | reclaim hpicked =>
    exact Or.inr ⟨_, _, _, rfl, hpicked, reclaimColumns_terminal_iff.1 hterminal⟩
  | stall => simp at hterminal
  | block => simp [blockColumns] at hterminal
  | retry => simp [Engine.retryColumns] at hterminal
  | _ => cases hw

/-! ## One step -/

section Step

variable {digest : String → Uuid} {db db' : Database}

theorem reclaim_row {locked : Uuid → Bool} {now : Moment} {limit : Nat}
    (h : Write.perform db (.reclaimExpiredLeases locked now limit) = .ok db') {job : Job}
    (hpicked : job ∈ expiredJobs db locked now limit) : reclaimColumns now job ∈ db'.jobs := by
  rcases map_eq_ok.1 h with ⟨⟨_, reclaimed⟩, hreclaim, rfl⟩
  rcases reclaimExpiredLeases_eq_ok hreclaim with ⟨hid, hupd, _⟩
  rcases Database.flushJobs_eq_ok hupd with ⟨_, rfl⟩
  refine (Table.mem_modify hid).2 ⟨job, (mem_expiredJobs hpicked).1, ?_⟩
  exact if_pos (by simpa using ⟨job, hpicked, rfl⟩)

theorem reclaim_row_pending {locked : Uuid → Bool} {now : Moment} {limit : Nat}
    (h : Write.perform db (.reclaimExpiredLeases locked now limit) = .ok db') {job : Job}
    (hjob : job ∈ db.jobs) (hpending : job.status = .pending) : job ∈ db'.jobs := by
  rcases (perform_evolves h).exists_mem hjob with ⟨job', hjob', _, hchange⟩
  cases hchange with
  | same => exact hjob'
  | reclaim hpicked =>
    have hrunning := (mem_expiredJobs hpicked).2
    simp [hpending] at hrunning

/-- A reclaim is refused exactly when it would count an attempt beyond the budget. -/
theorem reclaim_succeeds_iff {locked : Uuid → Bool} {now : Moment} {limit : Nat} :
    (∃ db', Write.perform db (.reclaimExpiredLeases locked now limit) = .ok db') ↔
      ¬ Overdrawn db locked now limit := by
  constructor
  · rintro ⟨db', h⟩ ⟨job, hpicked, hspent⟩
    have hpositive := (db.budget job (mem_expiredJobs hpicked).1).2
    have hwithin := db'.budget _ (reclaim_row h hpicked)
    have hleft := (reclaimColumns_withinBudget_iff hpositive).1 hwithin
    omega
  · intro hnot
    have hrows : ∀ job ∈ expiredJobs db locked now limit,
        (reclaimColumns now job).WithinBudget := by
      intro job hpicked
      have hpositive := (db.budget job (mem_expiredJobs hpicked).1).2
      refine (reclaimColumns_withinBudget_iff hpositive).2 ?_
      by_contra hspent
      exact hnot ⟨job, hpicked, not_lt.1 hspent⟩
    rcases Database.updateJobs_ok (fun _ => by simp) (fun _ hjob => (mem_expiredJobs hjob).1)
      hrows with ⟨db', hupd⟩
    refine ⟨db', map_eq_ok.2 ⟨(db', (expiredJobs db locked now limit).map (reclaimColumns now)),
      ?_, rfl⟩⟩
    refine bind_eq_ok.2 ⟨(), by decide, bind_eq_ok.2 ⟨(), by decide, ?_⟩⟩
    exact bind_eq_ok.2 ⟨(), by decide, bind_eq_ok.2 ⟨db', hupd, rfl⟩⟩

/-- A call that succeeds keeps the law when no job ends that a `PENDING` job waits for. -/
theorem perform_failurePropagated {w : Write} (hw : w.movesJobs = true)
    (h : w.perform db = .ok db') (hdb : FailurePropagated db)
    (hok : ∀ locked now limit, w = .reclaimExpiredLeases locked now limit →
      ∀ failed ∈ expiredJobs db locked now limit, EndsTerminally failed →
        ∀ job ∈ db.jobs, job.status = .pending → ¬ WaitsFor db job.id failed.id) :
    FailurePropagated db' := by
  intro job' hjob' hpending' failed' hfailed' hterminal'
  rcases movesJobs_exists_row hw h hjob' with ⟨job, hjob, hid, hchange⟩
  rcases movesJobs_exists_row hw h hfailed' with ⟨failed, hfailed, hfailedId, hfailedChange⟩
  have hpending := hchange.pending_of_pending hw hpending'
  rw [waitsFor_congr (movesJobs_frame hw h).2, hid, hfailedId]
  -- The predecessor was terminal before, or this very call ended it.
  rcases hfailedChange.terminal_cases hw hterminal' with
    hterminal | ⟨locked, now, limit, hreclaim, hpicked, hends⟩
  · exact hdb job hjob hpending failed hfailed hterminal
  · exact hok locked now limit hreclaim failed hpicked hends job hjob hpending

/-- One call keeps the law exactly when it strands no dependent. -/
theorem step_failurePropagated_iff {op : Op} (hop : op.MovesJobs) (hdb : FailurePropagated db) :
    FailurePropagated (step digest db op) ↔ StrandsNoDependent db op := by
  cases op with
  | call w callable =>
    rcases step_call digest db callable with
      ⟨db', hperform, hstep⟩ | ⟨hrefused, hstep⟩
    · rw [hstep]
      cases w with
      | reclaimExpiredLeases locked now limit =>
        have hpaid : ¬ Overdrawn db locked now limit := reclaim_succeeds_iff.1 ⟨db', hperform⟩
        constructor
        · intro hdb'
          refine Or.inr ?_
          intro failed hpicked hends job hjob hpending hwaits
          have hwaits' : WaitsFor db' job.id (reclaimColumns now failed).id := by
            rw [waitsFor_congr (movesJobs_frame hop hperform).2, reclaimColumns_id]
            exact hwaits
          exact hdb' job (reclaim_row_pending hperform hjob hpending) hpending _
            (reclaim_row hperform hpicked) (reclaimColumns_terminal_iff.2 hends) hwaits'
        · intro hok
          refine perform_failurePropagated hop hperform hdb ?_
          intro locked' now' limit' heq
          cases heq
          exact hok.resolve_left hpaid
      | _ =>
        refine iff_of_true (perform_failurePropagated hop hperform hdb ?_) trivial
        intro locked now limit heq
        cases heq
    · rw [hstep]
      cases w with
      | reclaimExpiredLeases locked now limit =>
        refine iff_of_true hdb (Or.inl ?_)
        by_contra hpaid
        rcases reclaim_succeeds_iff.2 hpaid with ⟨db', hperform⟩
        exact hrefused db' hperform
      | _ => exact iff_of_true hdb trivial
  | _ => exact hop.elim

end Step

/-! ## Whole runs -/

/-- Along every run of these calls, no `PENDING` job waits for a terminally failed one in any state
reached, exactly when no reclaim ends a job that a `PENDING` job waits for. -/
theorem failure_propagated_iff (digest : String → Uuid) {db : Database}
    (hstart : FailurePropagated db) {ops : List Op} (hops : ∀ op ∈ ops, op.MovesJobs) :
    (∀ n, FailurePropagated (runFrom (step digest) db (ops.take n))) ↔
      Along (step digest) StrandsNoDependent db ops := by
  refine along_iff_forall_take (p := Op.MovesJobs) ?_ hstart hops
  intro db₁ op hdb₁ hop
  exact step_failurePropagated_iff hop hdb₁

/-- A job of the given class, ready, and a second one that waits for it. -/
def dependentDatabase (retryClass : RetryClass) : Database :=
  { sampleDatabase (sampleJob .ready retryClass "A07" 3) (sampleJob_withinBudget retryClass) with
    jobs := ⟨[sampleJob .ready retryClass "A07" 3,
      { sampleJob .pending .safe "A07" 3 with
        id := 2
        idempotencyKey := "ProductBuildJob:7:2" }], by simp [sampleJob]⟩
    dependencies := [⟨2, 1, none⟩]
    budget := by simp [sampleJob, Job.WithinBudget] }

theorem dependentDatabase_failurePropagated (retryClass : RetryClass) :
    FailurePropagated (dependentDatabase retryClass) := by
  intro _ _ _ failed hfailed hterminal
  simp only [dependentDatabase, Table.mem_def, List.mem_cons, List.not_mem_nil, or_false] at hfailed
  rcases hfailed with rfl | rfl <;> simp [sampleJob] at hterminal

/-- Claimed by a worker whose lease runs out, and reclaimed. -/
def claimAndExpire : List Op :=
  [.call (.claimReadyJob unlocked "worker-1" 0 leaseDuration) sampleClaim_callable,
    .call (.reclaimExpiredLeases unlocked (minutes 10) 100) lateSweep_callable]

/-- A job with attempts left goes back to `READY`: its dependent waits for nothing that failed. -/
theorem failure_propagated_dependentDatabase :
    FailurePropagated (dependentDatabase .safe) ∧ (∀ op ∈ claimAndExpire, op.MovesJobs) ∧
      ∀ n, FailurePropagated
        (runFrom (step sampleDigest) (dependentDatabase .safe) (claimAndExpire.take n)) := by
  have hops : ∀ op ∈ claimAndExpire, op.MovesJobs := by
    intro op hop
    simp only [claimAndExpire, List.mem_cons, List.not_mem_nil, or_false] at hop
    rcases hop with rfl | rfl <;> rfl
  refine ⟨dependentDatabase_failurePropagated .safe, hops, ?_⟩
  refine (failure_propagated_iff sampleDigest (dependentDatabase_failurePropagated .safe) hops).2 ?_
  refine ⟨trivial, Or.inr ?_, trivial⟩
  intro failed hpicked hends
  have hpicked' : (expiredJobs (step sampleDigest (dependentDatabase .safe)
      (.call (.claimReadyJob unlocked "worker-1" 0 leaseDuration) sampleClaim_callable)) unlocked (minutes 10)
        100).all (fun job => decide (job.retryClass = .safe ∧ job.attempt = 0 ∧
          job.maxAttempts = 3)) = true := by
    decide +kernel
  have hrow := of_decide_eq_true (List.all_eq_true.1 hpicked' failed hpicked)
  rcases hends with hnever | ⟨_, hlast⟩
  · simp [hrow.1] at hnever
  · omega

/-- A job that is never retried is claimed, its lease expires, and the reclaim that ends it leaves
its dependent `PENDING`. -/
theorem failure_not_propagated_by_reclaim :
    ¬ ∀ (digest : String → Uuid) (db : Database) (ops : List Op), FailurePropagated db →
      (∀ op ∈ ops, op.MovesJobs) → FailurePropagated (runFrom (step digest) db ops) := by
  intro h
  have hops : ∀ op ∈ claimAndExpire, op.MovesJobs := by
    intro op hop
    simp only [claimAndExpire, List.mem_cons, List.not_mem_nil, or_false] at hop
    rcases hop with rfl | rfl <;> rfl
  have hrun := h sampleDigest (dependentDatabase .never) claimAndExpire
    (dependentDatabase_failurePropagated .never) hops
  have hfailed : ((runFrom (step sampleDigest) (dependentDatabase .never)
      claimAndExpire).jobs.get? 1).map Job.status = some .terminalFailure := by
    decide +kernel
  have hpending : ((runFrom (step sampleDigest) (dependentDatabase .never)
      claimAndExpire).jobs.get? 2).map Job.status = some .pending := by
    decide +kernel
  have hdeps : (runFrom (step sampleDigest) (dependentDatabase .never)
      claimAndExpire).dependencies = [⟨2, 1, none⟩] := by
    decide +kernel
  rcases Option.map_eq_some_iff.1 hfailed with ⟨failed, hgetFailed, hterminal⟩
  rcases Option.map_eq_some_iff.1 hpending with ⟨job, hgetJob, hstatus⟩
  rcases Table.get?_eq_some_iff.1 hgetFailed with ⟨hfailedMem, hfailedId⟩
  rcases Table.get?_eq_some_iff.1 hgetJob with ⟨hjobMem, hjobId⟩
  refine hrun job hjobMem hstatus failed hfailedMem hterminal (Relation.TransGen.single ?_)
  exact ⟨⟨2, 1, none⟩, by simp [hdeps], hjobId.symm, hfailedId.symm⟩

end Orchestration
end MoneyMachine
