import MoneyMachine.Orchestration.RetrySafety

/-!
# LeaseConsistency — leases and the status column

`release_lease` checks the owner of the lease and the constant edge `RUNNING → final`, not the
status of the row.  That its write is an edge of the transition table therefore rests on an
invariant of the whole layer: a row has its lease columns set exactly while it is `RUNNING`.

Two writers break it.  The worker marks a job whose agent has no implementation `FAILED` and keeps
the lease; and `apply_reconciliation_result` takes a `RUNNING` row out of that status without
clearing it, when a result is applied late.  `lease_consistent_of_run` proves the invariant, and the
legality of every status write, for all runs in which neither happens.
-/

namespace MoneyMachine
namespace Orchestration

open MoneyMachine.Domain
open MoneyMachine.Library
open MoneyMachine.Persistence

/-! ## The invariant of a row -/

/-- All three lease columns are set. -/
def Leased (job : Job) : Prop :=
  job.leaseOwner.isSome = true ∧ job.leaseExpiresAt.isSome = true ∧ job.heartbeatAt.isSome = true

/-- Every change of the status column so far was an edge of the transition table. -/
def LegalWrites (writes : List StatusWrite) : Prop :=
  ∀ write ∈ writes, write.target ∈ jobTransitions write.source

structure LeaseConsistent (job : Job) : Prop where
  held : job.status = .running → Leased job
  free : job.status ≠ .running →
    job.leaseOwner = none ∧ job.leaseExpiresAt = none ∧ job.heartbeatAt = none
  legal : LegalWrites job.statusWrites

theorem LeaseConsistent.leased_iff {job : Job} (h : LeaseConsistent job) :
    Leased job ↔ job.status = .running := by
  constructor
  · intro hleased
    by_contra hne
    have howner := (h.free hne).1
    simp [Leased, howner] at hleased
  · exact h.held

/-- Whoever holds a lease works on a `RUNNING` row. -/
theorem LeaseConsistent.running_of_owner {job : Job} (h : LeaseConsistent job) {workerId : String}
    (howner : job.leaseOwner = some workerId) : job.status = .running := by
  by_contra hne
  have hnone := (h.free hne).1
  rw [howner] at hnone
  cases hnone

/-- Assigning the status along an edge, or the status the row has, is a legal write. -/
theorem legalWrites_setStatus {job : Job} {status : JobStatus} (h : LegalWrites job.statusWrites)
    (hedge : job.status = status ∨ status ∈ jobTransitions job.status) :
    LegalWrites (job.setStatus status).statusWrites := by
  rw [Job.setStatus_statusWrites]
  intro write hwrite
  rcases List.mem_append.1 hwrite with hold | hnew
  · exact h write hold
  · by_cases hsame : job.status = status
    · simp [hsame] at hnew
    · rw [if_neg hsame, List.mem_singleton] at hnew
      rw [hnew]
      rcases hedge with heq | hmem
      · exact absurd heq hsame
      · exact hmem

/-- A row that leaves `RUNNING`, or was not there, with its lease cleared. -/
theorem LeaseConsistent.of_free {job : Job} (hstatus : job.status ≠ .running)
    (howner : job.leaseOwner = none) (hexpires : job.leaseExpiresAt = none)
    (hbeat : job.heartbeatAt = none) (hlegal : LegalWrites job.statusWrites) :
    LeaseConsistent job :=
  { held := fun h => absurd h hstatus
    free := fun _ => ⟨howner, hexpires, hbeat⟩
    legal := hlegal }

/-- A row that was not `RUNNING` moves along an edge to another status but `RUNNING`; its lease
columns are not written. -/
theorem LeaseConsistent.of_idle {job job' : Job} {status : JobStatus} (hl : LeaseConsistent job)
    (hidle : job.status ≠ .running) (hedge : status ∈ jobTransitions job.status)
    (htarget : status ≠ .running) (hstatus : job'.status = status)
    (hlease : job'.leaseOwner = job.leaseOwner ∧ job'.leaseExpiresAt = job.leaseExpiresAt ∧
      job'.heartbeatAt = job.heartbeatAt)
    (hwrites : job'.statusWrites = (job.setStatus status).statusWrites) : LeaseConsistent job' := by
  rcases hl.free hidle with ⟨howner, hexpires, hbeat⟩
  refine LeaseConsistent.of_free (hstatus ▸ htarget) (hlease.1.trans howner)
    (hlease.2.1.trans hexpires) (hlease.2.2.trans hbeat) ?_
  rw [hwrites]
  exact legalWrites_setStatus hl.legal (Or.inr hedge)

/-! ## Which steps keep it -/

/-- The worker claims no job whose agent lacks an implementation, and no reconciliation result is
applied to a `RUNNING` job. -/
def KeepsLeases (db : Database) : Op → Prop
  | .workerIteration _ runner locked workerId now =>
    ∀ job ∈ readyCandidates db locked now,
      ¬ NoImplementation runner (claimColumns workerId now leaseDuration job)
  | .call (.applyReconciliationResult jobId _ _) _ =>
    ∀ job ∈ db.jobs, job.id = jobId → job.status ≠ .running
  | _ => True

theorem KeepsLeases.not_abandon {db db₁ : Database} {op : Op} {jobId : Uuid} {now : Moment}
    (hok : KeepsLeases db op) (h : Performs db op db₁ (.abandon jobId now)) : False := by
  cases h with
  | @call _ callable => simp [Write.workerOnly] at callable
  | workerAbandon hcandidate hagent => exact hok _ hcandidate hagent

theorem KeepsLeases.not_running_of_apply {db db₁ : Database} {op : Op} {jobId : Uuid}
    {issued : IssuedResult} {now : Moment} (hok : KeepsLeases db op)
    (h : Performs db op db₁ (.applyReconciliationResult jobId issued now)) :
    ∀ job ∈ db₁.jobs, job.id = jobId → job.status ≠ .running := by
  cases h with
  | call => exact hok

theorem JobChange.leaseConsistent {db db₁ : Database} {op : Op} {w : Write} {job job' : Job}
    (hok : KeepsLeases db op) (hperf : Performs db op db₁ w) (hjob : job ∈ db₁.jobs)
    (h : JobChange db₁ w job job') (hl : LeaseConsistent job) : LeaseConsistent job' := by
  cases h with
  | same => exact hl
  | @claim _ workerId now duration _ hready =>
    refine ⟨?_, ?_, ?_⟩
    · intro _
      exact ⟨rfl, rfl, rfl⟩
    · intro hne
      simp [claimColumns] at hne
    · exact legalWrites_setStatus hl.legal (Or.inr (by simp [hready, jobTransitions]))
  | @heartbeat _ workerId now extension _ howner =>
    have hrunning := hl.running_of_owner howner
    have hleased := hl.held hrunning
    -- A heartbeat keeps the lease as it is, or extends it.
    refine ⟨?_, ?_, hl.legal⟩
    · intro _
      refine ⟨hleased.1, ?_, rfl⟩
      cases extension with
      | none => exact hleased.2.1
      | some extension => rfl
    · intro hne
      exact absurd hrunning hne
  | @release _ _ now finalStatus _ howner hlegal =>
    -- The owner check is what makes the constant edge the edge of this row.
    have hrunning := hl.running_of_owner howner
    refine LeaseConsistent.of_free ?_ rfl rfl rfl ?_
    · simp only [releaseColumns, Job.clearLease, Job.setStatus_status]
      rintro rfl
      simp [legalReleaseStatuses] at hlegal
    · refine legalWrites_setStatus hl.legal (Or.inr ?_)
      simpa [hrunning, jobTransitions, legalReleaseStatuses] using hlegal
  | @reclaim _ now _ _ hpicked =>
    have hrunning := (mem_expiredJobs hpicked).2
    have hfail : LegalWrites (failAttemptColumns now job).statusWrites :=
      legalWrites_setStatus hl.legal (Or.inr (by simp [hrunning, jobTransitions]))
    -- The lease is cleared with the first assignment; a second one may follow.
    rcases reclaimColumns_cases now job with hc | ⟨_, hc⟩ | ⟨_, _, _, hc⟩
    · rw [hc]
      exact LeaseConsistent.of_free (by simp) (by simp) (by simp) (by simp)
        (legalWrites_setStatus hfail (Or.inr (by simp [jobTransitions])))
    · rw [hc]
      exact LeaseConsistent.of_free (by simp) (by simp) (by simp) (by simp) hfail
    · rw [hc]
      exact LeaseConsistent.of_free (by simp) (by simp) (by simp) (by simp)
        (legalWrites_setStatus hfail (Or.inr (by simp [jobTransitions])))
  | stall hpicked =>
    have hrunning := (mem_stalledJobs hpicked).2
    exact LeaseConsistent.of_free (by simp) (by simp) (by simp) (by simp)
      (legalWrites_setStatus hl.legal (Or.inr (by simp [hrunning, jobTransitions])))
  | promote hpending _ =>
    exact hl.of_idle (by simp [hpending]) (by simp [hpending, jobTransitions]) (by simp)
      (Job.setStatus_status _ _) (by simp [promoteColumns]) rfl
  | block hpending =>
    exact hl.of_idle (by simp [hpending]) (by simp [hpending, jobTransitions]) (by simp)
      (Job.setStatus_status _ _) (by simp [blockColumns]) rfl
  | retry hfailed _ _ =>
    exact hl.of_idle (by simp [hfailed]) (by simp [hfailed, jobTransitions]) (by simp)
      (Job.setStatus_status _ _) (by simp [Engine.retryColumns]) rfl
  | cancel hstatus =>
    refine hl.of_idle ?_ ?_ (by simp) (Job.setStatus_status _ _) (by simp [Engine.cancelColumns]) rfl
    · rcases hstatus with h | h <;> simp [h]
    · rcases hstatus with h | h <;> simp [h, jobTransitions]
  | resolve huncertain htarget =>
    refine hl.of_idle (by simp [huncertain]) ?_ ?_ (Job.setStatus_status _ _)
      (by simp [Engine.resolveColumns]) rfl
    · rcases htarget with rfl | rfl <;> simp [huncertain, jobTransitions]
    · rcases htarget with rfl | rfl <;> simp
  | @apply issued now _ hedge =>
    -- `apply_reconciliation_result` follows an edge but clears no lease.
    have hidle := hok.not_running_of_apply hperf job hjob rfl
    refine hl.of_idle hidle hedge ?_ (Job.setStatus_status _ _)
      (by simp [Reconciliation.applyColumns]) rfl
    have htarget := issued.status_cases
    intro hrun
    simp [hrun] at htarget
  | abandon => exact (hok.not_abandon hperf).elim
  | @failAndRelease _ now _ howner =>
    have hrunning := hl.running_of_owner howner
    have hmark : LegalWrites (markFailedColumns now job).statusWrites :=
      legalWrites_setStatus hl.legal (Or.inr (by simp [hrunning, jobTransitions]))
    exact LeaseConsistent.of_free (by simp [releaseColumns, Job.clearLease]) rfl rfl rfl
      (legalWrites_setStatus hmark (Or.inl (by simp [markFailedColumns])))

theorem IsNew.leaseConsistent {job : Job} (h : IsNew job) : LeaseConsistent job := by
  rcases h with ⟨_, new, rfl⟩
  exact LeaseConsistent.of_free (by simp [NewJob.row]) rfl rfl rfl (by simp [NewJob.row, LegalWrites])

theorem step_leaseConsistent {digest : String → Uuid} {db : Database} {op : Op}
    (hok : KeepsLeases db op) (h : ∀ job ∈ db.jobs, LeaseConsistent job) :
    ∀ job ∈ (step digest db op).jobs, LeaseConsistent job := by
  refine step_forall_jobs ?_ (fun _ hnew => hnew.leaseConsistent) h
  intro db₁ w job job' hperf hjob hall hchange
  exact hchange.leaseConsistent hok hperf hjob (hall job hjob)

/-- A legal history never leaves a terminal status. -/
theorem LegalWrites.not_terminal {writes : List StatusWrite} (h : LegalWrites writes) :
    ∀ write ∈ writes,
      write.source ∉ [JobStatus.succeeded, .terminalFailure, .cancelled] := by
  intro write hwrite hterminal
  have hedge := h write hwrite
  simp only [List.mem_cons, List.not_mem_nil, or_false] at hterminal
  rcases hterminal with hs | hs | hs <;> simp [hs, jobTransitions] at hedge

/-- In every run whose steps keep leases, a job has its lease columns set exactly while it is
`RUNNING`, and every status write so far was an edge of the transition table; so no terminal status
was left. -/
theorem lease_consistent_of_run (digest : String → Uuid) {db : Database}
    (hstart : ∀ job ∈ db.jobs, LeaseConsistent job) {ops : List Op}
    (hok : Along (step digest) KeepsLeases db ops) :
    ∀ job ∈ (runFrom (step digest) db ops).jobs,
      (Leased job ↔ job.status = .running) ∧ LegalWrites job.statusWrites ∧
        ∀ write ∈ job.statusWrites,
          write.source ∉ [JobStatus.succeeded, .terminalFailure, .cancelled] := by
  have hrun : ∀ job ∈ (runFrom (step digest) db ops).jobs, LeaseConsistent job :=
    runFrom_invariant_along (I := fun db : Database => ∀ job ∈ db.jobs, LeaseConsistent job)
      (fun _ _ h hkeeps => step_leaseConsistent hkeeps h) hstart hok
  intro job hjob
  have hl := hrun job hjob
  exact ⟨hl.leased_iff, hl.legal, hl.legal.not_terminal⟩

/-- A runner that accepts every envelope and returns the same result. -/
def sampleRunner (status : AgentRunStatus) : AgentRunner :=
  { envelope := fun _ => .ok ()
    execute := fun _ => .returned
      { status := status
        emittedEvents := []
        output := .obj [] } }

/-- A job of an agent that has an implementation. -/
def implementedDatabase : Database :=
  sampleDatabase (sampleJob .ready .safe "A01" 3) (by simp [sampleJob, Job.WithinBudget])

theorem sampleDatabase_leaseConsistent {retryClass : RetryClass} {owner : String}
    {hbudget : (sampleJob .ready retryClass owner 3).WithinBudget} :
    ∀ job ∈ (sampleDatabase (sampleJob .ready retryClass owner 3) hbudget).jobs,
      LeaseConsistent job := by
  intro job hjob
  rw [mem_sampleDatabase hjob]
  exact LeaseConsistent.of_free (by simp [sampleJob]) rfl rfl rfl (by simp [sampleJob, LegalWrites])

/-- One worker iteration on that job. -/
theorem lease_consistent_implementedDatabase :
    Along (step sampleDigest) KeepsLeases implementedDatabase
      [.workerIteration 0 (sampleRunner .success) unlocked "worker-1" 0] ∧
    ∀ job ∈ (runFrom (step sampleDigest) implementedDatabase
        [.workerIteration 0 (sampleRunner .success) unlocked "worker-1" 0]).jobs,
      (Leased job ↔ job.status = .running) ∧ LegalWrites job.statusWrites ∧
        ∀ write ∈ job.statusWrites,
          write.source ∉ [JobStatus.succeeded, .terminalFailure, .cancelled] := by
  have hok : Along (step sampleDigest) KeepsLeases implementedDatabase
      [.workerIteration 0 (sampleRunner .success) unlocked "worker-1" 0] := by
    refine ⟨?_, trivial⟩
    intro job hjob hno
    have howner : job.ownerAgentId = "A01" := by
      rw [mem_sampleDatabase (mem_readyCandidates hjob).1]
      rfl
    have hmap : job.ownerAgentId ∈ agentMap := by simp [howner, agentMap]
    exact hno.2.2 (by simpa [claimColumns] using hmap)
  exact ⟨hok, lease_consistent_of_run sampleDigest sampleDatabase_leaseConsistent hok⟩

/-- The worker claims a job of agent A07, which has no implementation: the job is `FAILED` with its
lease set, and its former owner can still release it to `SUCCEEDED`. -/
theorem lease_inconsistent_unimplemented :
    ¬ ∀ (digest : String → Uuid) (db : Database) (ops : List Op),
      (∀ job ∈ db.jobs, LeaseConsistent job) →
        ∀ job ∈ (runFrom (step digest) db ops).jobs,
          (Leased job ↔ job.status = .running) ∧ LegalWrites job.statusWrites ∧
            ∀ write ∈ job.statusWrites,
              write.source ∉ [JobStatus.succeeded, .terminalFailure, .cancelled] := by
  intro h
  have hrow : ((runFrom (step sampleDigest) (readyDatabase .safe)
      [.workerIteration 0 (sampleRunner .success) unlocked "worker-1" 0,
        .call (.releaseLease 1 "worker-1" (minutes 1) .succeeded) rfl]).jobs.get? 1).map
          (fun job => job.statusWrites) =
      some [⟨.ready, .running⟩, ⟨.running, .failed⟩, ⟨.failed, .succeeded⟩] := by
    decide +kernel
  rcases Option.map_eq_some_iff.1 hrow with ⟨job, hget, hwrites⟩
  rcases Table.get?_eq_some_iff.1 hget with ⟨hjob, _⟩
  have hlegal := (h sampleDigest (readyDatabase .safe) _ sampleDatabase_leaseConsistent job hjob).2.1
  have hedge := hlegal ⟨.failed, .succeeded⟩ (by simp [hwrites])
  simp [jobTransitions] at hedge

end Orchestration
end MoneyMachine
