import MoneyMachine.Orchestration.LeaseConsistency

/-!
# WorkerFaults — worker iterations in which any call may raise

`workerIteration` runs the calls of an execution as they are written.  Here each of them may also
raise: `runner.execute`, the heartbeat, the release, each event dispatch, and the release of the
handler for uncommissioned agents.  Claim and execution share one transaction, and the handlers for
all other exceptions roll it back: the claim is undone with it, and the job is `READY` again with
its attempt counter unchanged.

`executions_settle_iff` says over whole sequences of iterations when a job that was executed is left
in another status, and that it is then executed once at most.
-/

namespace MoneyMachine
namespace Orchestration

open MoneyMachine.Domain
open MoneyMachine.Library
open MoneyMachine.Persistence

/-! ## The iteration -/

/-- An exception, as the handlers tell them apart: `AgentNotCommissionedError`, or one of those that
are rolled back. -/
inductive Raised
  | notCommissioned
  | other (error : OrchestrationError)

/-- The exceptions of one execution; a call without one runs as it is written. -/
structure Faults where
  heartbeat : Option Raised
  release : Option Raised
  /-- By the position of the event in `emitted_events`. -/
  dispatch : Nat → Option Raised
  /-- The `release_lease` of the handler for uncommissioned agents. -/
  handlerRelease : Option Raised

def Faults.absent : Faults :=
  { heartbeat := none
    release := none
    dispatch := fun _ => none
    handlerRelease := none }

/-- One call of the `try` block.  When it raises, a handler finds the session as the call found
it. -/
def guarded (fault : Option Raised) (db : Database) (call : Except OrchestrationError Database) :
    Except (Raised × Database) Database :=
  match fault, call with
  | some raised, _ => .error (raised, db)
  | none, .ok db' => .ok db'
  | none, .error error => .error (.other error, db)

/-- What one iteration depends on besides the database. -/
structure IterationArgs where
  clock : Moment
  runner : AgentRunner
  faults : Faults
  locked : Uuid → Bool
  workerId : String
  now : Moment

section Iteration

variable (digest : String → Uuid) (i : IterationArgs)

/-- `emitEvents`, each dispatch guarded. -/
def emitGuarded (job : Job) (output : Json) (n : Nat) (db : Database) :
    List EventName → Except (Raised × Database) Database
  | [] => .ok db
  | eventName :: rest => do
      let db₁ ← guarded (i.faults.dispatch n) db
        ((dispatch digest i.clock db
          { eventName := eventName
            aggregateType := "Job"
            aggregateId := job.id
            workflowId := some job.workflowId
            jobId := some job.id
            payload := output
            occurredAt := i.now }).map Prod.fst)
      emitGuarded job output (n + 1) db₁ rest

/-- The `try` block of `_execute_job_with_runner`, from `runner.execute` on. -/
def tryBlock (db : Database) (job : Job) : Except (Raised × Database) Database :=
  match i.runner.execute job with
  | .notCommissioned => .error (.notCommissioned, db)
  | .raised error => .error (.other error, db)
  | .returned result => do
      let db₁ ← guarded i.faults.heartbeat db (heartbeat db job.id i.workerId i.now none)
      let db₂ ← guarded i.faults.release db₁
        (releaseLease db₁ job.id i.workerId i.now (finalStatusOf result.status))
      emitGuarded digest i job result.output 0 db₂ result.emittedEvents

/-- The handlers: what they commit, if anything. -/
def handleRaised (job : Job) : Raised × Database → Option Database
  -- `InvalidTransitionError` and `Exception` differ in what they log.
  | (.other _, _) => none
  | (.notCommissioned, db) =>
    match db.updateJob job.id (markFailedColumns i.now) (fun _ => by simp [markFailedColumns]) with
    | .error _ => none
    | .ok db₁ =>
      -- An exception here leaves the handler, and the unit of work rolls back.
      match guarded i.faults.handlerRelease db₁
        (releaseLease db₁ job.id i.workerId i.now .failed) with
      | .ok db₂ => some db₂
      | .error _ => none

/-- The state an execution commits, if it does. -/
def settle (db : Database) (job : Job) : Option Database :=
  match tryBlock digest i db job with
  | .ok db' => some db'
  | .error raised => handleRaised i job raised

/-- A database, and the jobs for which `runner.execute` was started so far, in order. -/
structure WorkerLog where
  db : Database
  started : List Uuid

end Iteration

/-- One iteration of `_worker_loop`. -/
def iterate (digest : String → Uuid) (s : WorkerLog) (i : IterationArgs) : WorkerLog :=
  match claimReadyJob s.db i.locked i.workerId i.now leaseDuration with
  | .error _ => s
  | .ok (_, none) => s
  | .ok (db₁, some job) =>
    match i.runner.envelope job with
    | .error _ => s
    | .ok _ =>
      if job.ownerAgentId ∉ agentRoster then s
      else if job.ownerAgentId ∉ agentMap then
        match db₁.updateJob job.id (markFailedColumns i.now)
          (fun _ => by simp [markFailedColumns]) with
        | .ok db₂ => { s with db := db₂ }
        | .error _ => s
      else
        { db := (settle digest i db₁ job).getD s.db
          started := s.started ++ [job.id] }

/-- The iteration claims the job and starts `runner.execute` for it. -/
def Executes (i : IterationArgs) (db : Database) (db₁ : Database) (job : Job) : Prop :=
  claimReadyJob db i.locked i.workerId i.now leaseDuration = .ok (db₁, some job) ∧
    i.runner.envelope job = .ok () ∧ job.ownerAgentId ∈ agentMap

/-! ## When an execution is settled -/

/-- No call raises once `runner.execute` has started, except that `AgentNotCommissionedError` may
come before the lease is released, when the release of its handler does not raise. -/
def Completes (digest : String → Uuid) (i : IterationArgs) (db₁ : Database) (job : Job) : Prop :=
  match i.runner.execute job with
  | .raised _ => False
  | .notCommissioned => i.faults.handlerRelease = none
  | .returned result =>
    match i.faults.heartbeat.or i.faults.release with
    | some (.other _) => False
    | some .notCommissioned => i.faults.handlerRelease = none
    | none =>
      (∀ n < result.emittedEvents.length, i.faults.dispatch n = none) ∧
        ∀ db₂ db₃, heartbeat db₁ job.id i.workerId i.now none = .ok db₂ →
          releaseLease db₂ job.id i.workerId i.now (finalStatusOf result.status) = .ok db₃ →
            ∃ db₄, emitEvents digest i.clock job result.output i.now db₃
              result.emittedEvents = .ok db₄

/-! ## The plain iteration is the one without faults -/

section Absent

variable {digest : String → Uuid} {i : IterationArgs}

theorem guarded_none_eq_ok {db db' : Database} {call : Except OrchestrationError Database} :
    guarded none db call = .ok db' ↔ call = .ok db' := by
  cases call with
  | ok db₁ => simp [guarded]
  | error error => simp [guarded]

theorem guarded_eq_ok {fault : Option Raised} {db db' : Database}
    {call : Except OrchestrationError Database} :
    guarded fault db call = .ok db' ↔ fault = none ∧ call = .ok db' := by
  cases fault with
  | none => simp [guarded_none_eq_ok]
  | some raised => simp [guarded]

/-- A call that raises has written nothing. -/
theorem guarded_eq_error {fault : Option Raised} {db db' : Database}
    {call : Except OrchestrationError Database} {raised : Raised}
    (h : guarded fault db call = .error (raised, db')) : db' = db := by
  unfold guarded at h
  split at h <;> cases h <;> rfl

/-- The events are emitted exactly when no dispatch raises, of its own or by a fault. -/
theorem emitGuarded_eq_ok {job : Job} {output : Json} {events : List EventName} {n : Nat}
    {db db' : Database} :
    emitGuarded digest i job output n db events = .ok db' ↔
      (∀ k < events.length, i.faults.dispatch (n + k) = none) ∧
        emitEvents digest i.clock job output i.now db events = .ok db' := by
  induction events generalizing n db with
  | nil => simp [emitGuarded, emitEvents]
  | cons eventName rest ih =>
    simp only [emitGuarded, emitEvents, bind_eq_ok, guarded_eq_ok, ih, map_eq_ok]
    constructor
    · rintro ⟨db₁, ⟨hfirst, ⟨db₂, created⟩, hdispatch, rfl⟩, hrest, hemit⟩
      refine ⟨?_, ⟨db₂, created⟩, hdispatch, hemit⟩
      intro k hk
      cases k with
      | zero => exact hfirst
      | succ k =>
        have hshift : n + (k + 1) = n + 1 + k := by omega
        rw [hshift]
        exact hrest k (by simpa using hk)
    · rintro ⟨hfaults, ⟨db₂, created⟩, hdispatch, hemit⟩
      refine ⟨db₂, ⟨hfaults 0 (by simp), ⟨db₂, created⟩, hdispatch, rfl⟩, ?_, hemit⟩
      intro k hk
      have hshift : n + 1 + k = n + (k + 1) := by omega
      rw [hshift]
      exact hfaults (k + 1) (by simpa using hk)

end Absent

/-! ## What an execution writes -/

section Writes

variable {digest : String → Uuid} {i : IterationArgs} {db db' : Database}

/-- The writes of an iteration. -/
def Write.ofWorker : Write → Bool
  | .claimReadyJob .. => true
  | .heartbeat .. => true
  | .releaseLease .. => true
  | .abandon .. => true
  | .insertJob .. => true
  | .insertEvent .. => true
  | _ => false

/-- A predicate on databases that every write of an iteration keeps. -/
def KeptByWorker (I : Database → Prop) : Prop :=
  ∀ {db db' : Database} {w : Write}, w.ofWorker = true → w.perform db = .ok db' → I db → I db'

theorem emitEvents_kept {I : Database → Prop} (hI : KeptByWorker I) {job : Job} {output : Json}
    {events : List EventName} (h : emitEvents digest i.clock job output i.now db events = .ok db')
    (hdb : I db) : I db' :=
  emitEvents_invariant (fun {_ _ new} hdb hins => hI (w := .insertJob new) rfl hins hdb)
    (fun {_ _ event} hdb hins => hI (w := .insertEvent event) rfl hins hdb) hdb h

/-- The session a handler finds after a failed dispatch holds the events and jobs of the earlier
ones. -/
theorem emitGuarded_error_kept {I : Database → Prop} (hI : KeptByWorker I) {job : Job}
    {output : Json} {events : List EventName} {n : Nat} {raised : Raised}
    (h : emitGuarded digest i job output n db events = .error (raised, db')) (hdb : I db) :
    I db' := by
  induction events generalizing n db with
  | nil => cases h
  | cons eventName rest ih =>
    simp only [emitGuarded] at h
    cases hcall : guarded (i.faults.dispatch n) db
        ((dispatch digest i.clock db
          { eventName := eventName
            aggregateType := "Job"
            aggregateId := job.id
            workflowId := some job.workflowId
            jobId := some job.id
            payload := output
            occurredAt := i.now }).map Prod.fst) with
    | ok db₁ =>
      rw [hcall] at h
      rcases map_eq_ok.1 (guarded_eq_ok.1 hcall).2 with ⟨⟨_, created⟩, hdispatch, rfl⟩
      refine ih h (dispatch_invariant (I := I) ?_ ?_ hdb hdispatch)
      · intro _ _ new hdb hins
        exact hI (w := .insertJob new) rfl hins hdb
      · intro _ _ event hdb hins
        exact hI (w := .insertEvent event) rfl hins hdb
    | error e =>
      rw [hcall] at h
      cases h
      rw [guarded_eq_error hcall]
      exact hdb

theorem handleRaised_kept {I : Database → Prop} (hI : KeptByWorker I) {job : Job} {raised : Raised}
    (h : handleRaised i job (raised, db) = some db') (hdb : I db) : I db' := by
  cases raised with
  | other error => cases h
  | notCommissioned =>
    simp only [handleRaised] at h
    split at h
    · cases h
    rename_i db₁ hmark
    split at h
    · rename_i db₂ hrelease
      cases h
      have hdb₁ : I db₁ := hI (w := .abandon job.id i.now) rfl hmark hdb
      exact hI (w := .releaseLease job.id i.workerId i.now .failed) rfl
        (guarded_eq_ok.1 hrelease).2 hdb₁
    · cases h

/-- What the writes keep, an execution keeps, whatever raises. -/
theorem settle_kept {I : Database → Prop} (hI : KeptByWorker I) {job : Job}
    (h : settle digest i db job = some db') (hdb : I db) : I db' := by
  unfold settle at h
  cases hblock : tryBlock digest i db job with
  | ok db₁ =>
    simp only [hblock, Option.some.injEq] at h
    subst h
    unfold tryBlock at hblock
    split at hblock
    · cases hblock
    · cases hblock
    rcases bind_eq_ok.1 hblock with ⟨db₂, hbeat, hblock⟩
    rcases bind_eq_ok.1 hblock with ⟨db₃, hrelease, hemit⟩
    have hdb₂ : I db₂ := hI (w := .heartbeat job.id i.workerId i.now none) rfl
      (guarded_eq_ok.1 hbeat).2 hdb
    have hdb₃ : I db₃ := hI (w := .releaseLease job.id i.workerId i.now _) rfl
      (guarded_eq_ok.1 hrelease).2 hdb₂
    exact emitEvents_kept hI (emitGuarded_eq_ok.1 hemit).2 hdb₃
  | error e =>
    rcases e with ⟨raised, db₁⟩
    simp only [hblock] at h
    refine handleRaised_kept hI h ?_
    unfold tryBlock at hblock
    split at hblock
    · cases hblock
      exact hdb
    · cases hblock
      exact hdb
    -- The handler finds what the calls before the one that raised have written.
    cases hbeat : guarded i.faults.heartbeat db (heartbeat db job.id i.workerId i.now none) with
    | error e =>
      rw [hbeat] at hblock
      cases hblock
      rw [guarded_eq_error hbeat]
      exact hdb
    | ok db₂ =>
      have hdb₂ : I db₂ := hI (w := .heartbeat job.id i.workerId i.now none) rfl
        (guarded_eq_ok.1 hbeat).2 hdb
      rename_i result _
      cases hrelease : guarded i.faults.release db₂
          (releaseLease db₂ job.id i.workerId i.now (finalStatusOf result.status)) with
      | error e =>
        simp only [hbeat, hrelease, bind, Except.bind] at hblock
        cases hblock
        rw [guarded_eq_error hrelease]
        exact hdb₂
      | ok db₃ =>
        have hdb₃ : I db₃ := hI (w := .releaseLease job.id i.workerId i.now _) rfl
          (guarded_eq_ok.1 hrelease).2 hdb₂
        simp only [hbeat, hrelease, bind, Except.bind] at hblock
        exact emitGuarded_error_kept hI hblock hdb₃

end Writes

/-! ## Settled or handed back -/

/-- No row of the job is `READY`. -/
def NotReady (jobId : Uuid) (db : Database) : Prop :=
  ∀ job ∈ db.jobs, job.id = jobId → job.status ≠ .ready

/-- No write of an iteration makes a job `READY`. -/
theorem notReady_kept (jobId : Uuid) : KeptByWorker (NotReady jobId) := by
  intro db db' w hw h hdb
  refine (perform_evolves h).forall_mem (J := fun job : Job => job.id = jobId → job.status ≠ .ready)
    hdb ?_ ?_
  · intro job _ job' hkey hchange hold hid
    have hbefore := hold (hkey.symm.trans hid)
    cases hchange with
    | same => exact hbefore
    | claim => simp [claimColumns]
    | heartbeat => exact hbefore
    | release howner hlegal =>
      simp only [releaseColumns, Job.clearLease, Job.setStatus_status]
      rintro rfl
      simp [legalReleaseStatuses] at hlegal
    | abandon => simp [markFailedColumns]
    | _ => cases hw
  · rintro job ⟨_, new, rfl⟩ _
    simp [NewJob.row]

/-- No write of an iteration sets the owner of a job that is not claimed in it. -/
def Unowned (jobId : Uuid) (db : Database) : Prop :=
  ∀ job ∈ db.jobs, job.id = jobId → job.leaseOwner = none ∧ job.status ≠ .ready

theorem unowned_kept (jobId : Uuid) : KeptByWorker (Unowned jobId) := by
  intro db db' w hw h hdb
  refine (perform_evolves h).forall_mem
    (J := fun job : Job => job.id = jobId → job.leaseOwner = none ∧ job.status ≠ .ready) hdb ?_ ?_
  · intro job _ job' hkey hchange hold hid
    have hbefore := hold (hkey.symm.trans hid)
    cases hchange with
    | same => exact hbefore
    | claim hready => exact absurd hready hbefore.2
    | heartbeat => exact hbefore
    | release howner => simp [hbefore.1] at howner
    | abandon => exact ⟨by simpa [markFailedColumns] using hbefore.1, by simp [markFailedColumns]⟩
    | _ => cases hw
  · rintro job ⟨_, new, rfl⟩ _
    exact ⟨rfl, by simp [NewJob.row]⟩

section Settle

variable {digest : String → Uuid} {i : IterationArgs} {db db₁ : Database} {job row : Job}

/-- What a claim leaves: the row in force, and the `READY` row it came from. -/
theorem claimReadyJob_row {locked : Uuid → Bool} {workerId : String} {now : Moment}
    (h : claimReadyJob db locked workerId now leaseDuration = .ok (db₁, some job)) :
    db₁.jobs.get? job.id = some job ∧ job.status = .running ∧ job.leaseOwner = some workerId ∧
      job.leaseExpiresAt = some (now + leaseDuration) ∧
        ∃ old ∈ db.jobs, old.id = job.id ∧ old.status = .ready := by
  rcases claimReadyJob_eq_ok h with ⟨_, hnone⟩ | ⟨old, hid, hcandidate, hupd, hsome⟩
  · cases hnone
  cases hsome
  rcases mem_readyCandidates hcandidate with ⟨hmem, hready, _⟩
  have hget : db.jobs.get? old.id = some old := Table.get?_eq_some_iff.2 ⟨hmem, rfl⟩
  refine ⟨?_, by simp [claimColumns], rfl, rfl, old, hmem, (hid old).symm, hready⟩
  rw [hid old]
  exact Database.get?_updateJob hupd hget

/-- The handler for uncommissioned agents commits while the worker owns the job. -/
theorem handleRaised_notCommissioned (hget : db.jobs.get? job.id = some row)
    (howner : row.leaseOwner = some i.workerId) :
    (∃ db', handleRaised i job (.notCommissioned, db) = some db') ↔
      i.faults.handlerRelease = none := by
  have hbudget : ∀ row ∈ db.jobs, (markFailedColumns i.now row).WithinBudget := by
    intro row hrow
    simpa [markFailedColumns, Job.WithinBudget] using db.budget row hrow
  rcases Database.updateJob_ok job.id (fun _ => by simp [markFailedColumns]) hbudget with
    ⟨db₂, hmark⟩
  have hget₂ := Database.get?_updateJob hmark hget
  have howner₂ : (markFailedColumns i.now row).leaseOwner = some i.workerId := by
    simpa [markFailedColumns] using howner
  have hlegal : JobStatus.failed ∈ legalReleaseStatuses := by simp [legalReleaseStatuses]
  rcases releaseLease_ok i.now hlegal hget₂ howner₂ with ⟨db₃, hrelease⟩
  simp only [handleRaised, hmark, hrelease]
  cases i.faults.handlerRelease with
  | none => simp [guarded]
  | some raised => simp [guarded]

/-- After the release nobody owns the job, and the same handler fails. -/
theorem handleRaised_unowned (hunowned : Unowned job.id db) (raised : Raised) :
    handleRaised i job (raised, db) = none := by
  cases raised with
  | other error => rfl
  | notCommissioned =>
    cases hhandle : handleRaised i job (.notCommissioned, db) with
    | none => rfl
    | some db' =>
      simp only [handleRaised] at hhandle
      split at hhandle
      · cases hhandle
      rename_i db₂ hmark
      split at hhandle
      · rename_i db₃ hrelease
        rcases releaseLease_eq_ok (guarded_eq_ok.1 hrelease).2 with
          ⟨row, _, hget, howner, _, _⟩
        rcases Table.get?_eq_some_iff.1 hget with ⟨hrow, hid⟩
        have hfree := unowned_kept job.id (w := .abandon job.id i.now) rfl hmark hunowned row
          hrow hid
        simp [hfree.1] at howner
      · cases hhandle

theorem finalStatusOf_legal (status : AgentRunStatus) :
    finalStatusOf status ∈ legalReleaseStatuses := by
  cases status <;> simp [finalStatusOf, legalReleaseStatuses]

/-- Heartbeat and release of a job that was just claimed succeed, and leave it unowned. -/
theorem heartbeat_release_claimed
    (h : claimReadyJob db i.locked i.workerId i.now leaseDuration = .ok (db₁, some job))
    (status : AgentRunStatus) :
    ∃ db₂ row db₃, heartbeat db₁ job.id i.workerId i.now none = .ok db₂ ∧
      db₂.jobs.get? job.id = some row ∧ row.leaseOwner = some i.workerId ∧
        releaseLease db₂ job.id i.workerId i.now (finalStatusOf status) = .ok db₃ ∧
          Unowned job.id db₃ := by
  rcases claimReadyJob_row h with ⟨hget, _, howner, hexpires, _⟩
  have hlive : job.leaseExpiresAt.filter (· < i.now) = none := by
    have hlater : ¬ i.now + leaseDuration < i.now := by
      have hpositive : (0 : Int) ≤ leaseDuration := by decide
      exact not_lt.2 (le_add_of_nonneg_right hpositive)
    simp [hexpires, Option.filter, hlater]
  rcases heartbeat_ok none hget howner hlive with ⟨db₂, hbeat⟩
  rcases heartbeat_eq_ok hbeat with ⟨_, _, _, _, hupd⟩
  have hget₂ := Database.get?_updateJob hupd hget
  have howner₂ : (heartbeatColumns i.now none job).leaseOwner = some i.workerId := howner
  rcases releaseLease_ok i.now (finalStatusOf_legal status) hget₂ howner₂ with ⟨db₃, hrelease⟩
  refine ⟨db₂, _, db₃, hbeat, hget₂, howner₂, hrelease, ?_⟩
  rcases releaseLease_eq_ok hrelease with ⟨_, _, _, _, hlegal, hupd₃⟩
  have hget₃ := Database.get?_updateJob hupd₃ hget₂
  intro row hrow hid
  have heq : some row = some (releaseColumns i.now (finalStatusOf status)
      (heartbeatColumns i.now none job)) := by
    rw [← hget₃]
    exact (Table.get?_eq_some_iff.2 ⟨hrow, hid⟩).symm
  cases heq
  refine ⟨rfl, ?_⟩
  simp only [releaseColumns, Job.clearLease, Job.setStatus_status]
  intro hready
  simp [hready, legalReleaseStatuses] at hlegal

/-- An execution commits exactly when it completes. -/
theorem settle_iff_completes
    (h : claimReadyJob db i.locked i.workerId i.now leaseDuration = .ok (db₁, some job)) :
    (∃ db', settle digest i db₁ job = some db') ↔ Completes digest i db₁ job := by
  rcases claimReadyJob_row h with ⟨hget, _, howner, _, _⟩
  cases hexecute : i.runner.execute job with
  | raised error => simp [settle, tryBlock, Completes, hexecute, handleRaised]
  | notCommissioned =>
    simp only [settle, tryBlock, Completes, hexecute]
    exact handleRaised_notCommissioned hget howner
  | returned result =>
    rcases heartbeat_release_claimed h result.status with
      ⟨db₂, row, db₃, hbeat, hget₂, howner₂, hrelease, hunowned⟩
    cases hfault : i.faults.heartbeat with
    | some raised =>
      -- The heartbeat raises: the handler finds the claimed row.
      simp only [settle, tryBlock, Completes, hexecute, hfault, guarded, Option.some_or, bind,
        Except.bind]
      cases raised with
      | other error => simp [handleRaised]
      | notCommissioned => exact handleRaised_notCommissioned hget howner
    | none =>
      cases hfault' : i.faults.release with
      | some raised =>
        simp only [settle, tryBlock, Completes, hexecute, hfault, hfault', hbeat, guarded,
          Option.none_or, bind, Except.bind]
        cases raised with
        | other error => simp [handleRaised]
        | notCommissioned => exact handleRaised_notCommissioned hget₂ howner₂
      | none =>
        have hblock : tryBlock digest i db₁ job =
            emitGuarded digest i job result.output 0 db₃ result.emittedEvents := by
          simp only [tryBlock, hexecute, hfault, hfault', hbeat, hrelease, guarded, bind,
            Except.bind]
        have hcompletes : Completes digest i db₁ job ↔
            ∃ db', emitGuarded digest i job result.output 0 db₃ result.emittedEvents =
              .ok db' := by
          simp only [Completes, hexecute, hfault, hfault', Option.none_or, emitGuarded_eq_ok,
            Nat.zero_add]
          constructor
          · rintro ⟨hfaults, hemit⟩
            rcases hemit db₂ db₃ hbeat hrelease with ⟨db', hdb'⟩
            exact ⟨db', hfaults, hdb'⟩
          · rintro ⟨db', hfaults, hemit⟩
            refine ⟨hfaults, ?_⟩
            intro db₂' db₃' hbeat' hrelease'
            rw [hbeat] at hbeat'
            cases hbeat'
            rw [hrelease] at hrelease'
            cases hrelease'
            exact ⟨db', hemit⟩
        rw [hcompletes]
        cases hemit : emitGuarded digest i job result.output 0 db₃ result.emittedEvents with
        | ok db' => simp [settle, hblock, hemit]
        | error e =>
          rcases e with ⟨raised, db₄⟩
          have hunowned₄ := emitGuarded_error_kept (unowned_kept job.id) hemit hunowned
          simp [settle, hblock, hemit, handleRaised_unowned hunowned₄]

end Settle

/-! ## One iteration -/

section Iterate

variable {digest : String → Uuid} {i : IterationArgs} {s : WorkerLog}

/-- An iteration executes one job, or starts nothing and writes along the way at most. -/
theorem iterate_cases (digest : String → Uuid) (s : WorkerLog) (i : IterationArgs) :
    (∃ db₁ job, Executes i s.db db₁ job ∧
      iterate digest s i =
        { db := (settle digest i db₁ job).getD s.db, started := s.started ++ [job.id] }) ∨
    ((∀ db₁ job, ¬ Executes i s.db db₁ job) ∧ (iterate digest s i).started = s.started ∧
      ∀ I, KeptByWorker I → I s.db → I (iterate digest s i).db) := by
  cases hclaim : claimReadyJob s.db i.locked i.workerId i.now leaseDuration with
  | error e =>
    refine Or.inr ⟨?_, by simp [iterate, hclaim], fun I _ hdb => by simpa [iterate, hclaim]⟩
    rintro db₁ job ⟨hclaim', _⟩
    simp [hclaim] at hclaim'
  | ok result =>
    rcases result with ⟨db₁, _ | job⟩
    · refine Or.inr ⟨?_, by simp [iterate, hclaim], fun I _ hdb => by simpa [iterate, hclaim]⟩
      rintro db₁' job ⟨hclaim', _⟩
      simp [hclaim] at hclaim'
    have hsame : ∀ db₁' job', Executes i s.db db₁' job' → db₁' = db₁ ∧ job' = job := by
      rintro db₁' job' ⟨hclaim', _⟩
      rw [hclaim] at hclaim'
      cases hclaim'
      exact ⟨rfl, rfl⟩
    cases henvelope : i.runner.envelope job with
    | error e =>
      refine Or.inr ⟨?_, by simp [iterate, hclaim, henvelope],
        fun I _ hdb => by simpa [iterate, hclaim, henvelope]⟩
      intro db₁' job' hexec
      rcases hsame _ _ hexec with ⟨rfl, rfl⟩
      simpa [henvelope] using hexec.2.1
    | ok u =>
      by_cases hmap : job.ownerAgentId ∈ agentMap
      · have hroster : job.ownerAgentId ∈ agentRoster := by
          simp only [agentMap, List.mem_cons, List.not_mem_nil, or_false] at hmap
          rcases hmap with h | h <;> simp [h, agentRoster]
        refine Or.inl ⟨db₁, job, ⟨hclaim, henvelope, hmap⟩, ?_⟩
        simp [iterate, hclaim, henvelope, hmap, hroster]
      · refine Or.inr ⟨?_, ?_, ?_⟩
        · intro db₁' job' hexec
          rcases hsame _ _ hexec with ⟨rfl, rfl⟩
          exact hmap hexec.2.2
        · by_cases hroster : job.ownerAgentId ∈ agentRoster
          · simp only [iterate, hclaim, henvelope, hroster, hmap, not_true_eq_false,
              not_false_eq_true, if_true, if_false]
            split <;> rfl
          · simp [iterate, hclaim, henvelope, hroster]
        · intro I hI hdb
          by_cases hroster : job.ownerAgentId ∈ agentRoster
          · simp only [iterate, hclaim, henvelope, hroster, hmap, not_true_eq_false,
              not_false_eq_true, if_true, if_false]
            split
            · rename_i db₂ hmark
              have hdb₁ : I db₁ := hI
                (w := .claimReadyJob i.locked i.workerId i.now leaseDuration) rfl
                (map_eq_ok.2 ⟨_, hclaim, rfl⟩) hdb
              exact hI (w := .abandon job.id i.now) rfl hmark hdb₁
            · exact hdb
          · simpa [iterate, hclaim, henvelope, hroster] using hdb

/-- The job the iteration executes is determined by the database. -/
theorem Executes.unique {db db₁ db₁' : Database} {job job' : Job} (h : Executes i db db₁ job)
    (h' : Executes i db db₁' job') : db₁' = db₁ ∧ job' = job := by
  have heq := h.1.symm.trans h'.1
  cases heq
  exact ⟨rfl, rfl⟩

/-- The job is `READY` again, with its attempt counter as before. -/
def HandedBack (before after : Database) (jobId : Uuid) : Prop :=
  ∃ old ∈ before.jobs, old.id = jobId ∧
    ∃ job ∈ after.jobs, job.id = jobId ∧ job.status = .ready ∧ job.attempt = old.attempt

/-- If the iteration starts `runner.execute` for the job, it does not hand it back. -/
def SettlesJob (digest : String → Uuid) (jobId : Uuid) (s : WorkerLog) (i : IterationArgs) : Prop :=
  (iterate digest s i).started = s.started ++ [jobId] →
    ¬ HandedBack s.db (iterate digest s i).db jobId

/-- If the iteration starts `runner.execute` for the job, the execution completes. -/
def CompletesJob (digest : String → Uuid) (jobId : Uuid) (s : WorkerLog) (i : IterationArgs) :
    Prop :=
  ∀ db₁ job, Executes i s.db db₁ job → job.id = jobId → Completes digest i db₁ job

/-- An execution that commits leaves its job in another status. -/
theorem settle_notReady {db db₁ db' : Database} {job : Job} (hexec : Executes i db db₁ job)
    (h : settle digest i db₁ job = some db') : NotReady job.id db' := by
  refine settle_kept (notReady_kept job.id) h ?_
  rcases claimReadyJob_row hexec.1 with ⟨hget, hrunning, _⟩
  intro row hrow hid
  have heq : some row = some job := by
    rw [← hget]
    exact (Table.get?_eq_some_iff.2 ⟨hrow, hid⟩).symm
  cases heq
  simp [hrunning]

theorem settlesJob_iff_completesJob {jobId : Uuid} :
    SettlesJob digest jobId s i ↔ CompletesJob digest jobId s i := by
  rcases iterate_cases digest s i with ⟨db₁, job, hexec, hiterate⟩ | ⟨hnone, hstarted, _⟩
  · by_cases hid : job.id = jobId
    · subst hid
      have hcompletes : CompletesJob digest job.id s i ↔ Completes digest i db₁ job := by
        constructor
        · intro h
          exact h db₁ job hexec rfl
        · intro h db₁' job' hexec' _
          rcases hexec.unique hexec' with ⟨rfl, rfl⟩
          exact h
      rw [hcompletes, ← settle_iff_completes hexec.1]
      cases hsettle : settle digest i db₁ job with
      | some db' =>
        refine iff_of_true ?_ ⟨db', rfl⟩
        rintro _ ⟨old, _, _, row, hrow, hrowId, hready, _⟩
        rw [hiterate, hsettle] at hrow
        exact settle_notReady hexec hsettle row hrow hrowId hready
      | none =>
        -- Rolled back: the row is the one the claim found.
        refine iff_of_false ?_ (by simp)
        intro h
        rcases claimReadyJob_row hexec.1 with ⟨_, _, _, _, old, hold, holdId, hready⟩
        refine h (by rw [hiterate]) ⟨old, hold, holdId, old, ?_, holdId, hready, rfl⟩
        rw [hiterate, hsettle]
        exact hold
    · refine iff_of_true ?_ ?_
      · intro h
        rw [hiterate] at h
        exact absurd (by simpa using h) hid
      · intro db₁' job' hexec' hid'
        rcases hexec.unique hexec' with ⟨rfl, rfl⟩
        exact absurd hid' hid
  · refine iff_of_true ?_ ?_
    · intro h
      simp [hstarted] at h
    · intro db₁ job hexec
      exact absurd hexec (hnone db₁ job)

/-! ## Sequences of iterations -/

/-- The job was executed once at most, and is not `READY` once it was. -/
def ExecutedOnce (jobId : Uuid) (s : WorkerLog) : Prop :=
  s.started.count jobId ≤ 1 ∧ (jobId ∈ s.started → NotReady jobId s.db)

theorem iterate_executedOnce {jobId : Uuid} (hs : ExecutedOnce jobId s)
    (hcompletes : CompletesJob digest jobId s i) : ExecutedOnce jobId (iterate digest s i) := by
  rcases iterate_cases digest s i with ⟨db₁, job, hexec, hiterate⟩ | ⟨_, hstarted, hkept⟩
  · have hclaimed : KeptByWorker (NotReady jobId) := notReady_kept jobId
    by_cases hid : job.id = jobId
    · subst hid
      rcases (settle_iff_completes hexec.1).2 (hcompletes db₁ job hexec rfl) with ⟨db', hsettle⟩
      rcases claimReadyJob_row hexec.1 with ⟨_, _, _, _, old, hold, holdId, hready⟩
      -- It was `READY` until now, so it was not executed before.
      have hfresh : job.id ∉ s.started := fun hmem => hs.2 hmem old hold holdId hready
      rw [hiterate]
      refine ⟨?_, ?_⟩
      · simp [List.count_append, List.count_eq_zero_of_not_mem hfresh]
      · intro _
        simpa [hsettle] using settle_notReady hexec hsettle
    · rw [hiterate]
      refine ⟨?_, ?_⟩
      · simpa [List.count_append, List.count_singleton, hid] using hs.1
      · intro hmem
        have hmem' : jobId ∈ s.started := by
          simpa [List.mem_append, Ne.symm hid] using hmem
        have hdb₁ : NotReady jobId db₁ := hclaimed
          (w := .claimReadyJob i.locked i.workerId i.now leaseDuration) rfl
          (map_eq_ok.2 ⟨_, hexec.1, rfl⟩) (hs.2 hmem')
        cases hsettle : settle digest i db₁ job with
        | some db' => simpa using settle_kept hclaimed hsettle hdb₁
        | none => simpa using hs.2 hmem'
  · refine ⟨by simpa [hstarted] using hs.1, ?_⟩
    intro hmem
    exact hkept _ (notReady_kept jobId) (hs.2 (by simpa [hstarted] using hmem))

end Iterate

/-- The loop on a database, before any iteration. -/
def WorkerLog.start (db : Database) : WorkerLog :=
  { db := db
    started := [] }

/-- In every sequence of iterations: no iteration that starts `runner.execute` for the job hands it
back, it is executed at most `max_attempts` times, and once executed it is no longer claimed ahead
of others, exactly when every execution of the job completes. -/
theorem executions_settle_iff (digest : String → Uuid) {db : Database} {job : Job}
    (hjob : job ∈ db.jobs) (its : List IterationArgs) :
    (Along (iterate digest) (SettlesJob digest job.id) (WorkerLog.start db) its ∧
      (((runFrom (iterate digest) (WorkerLog.start db) its).started.count job.id : Nat) : Int) ≤
        job.maxAttempts ∧
      ∀ n, job.id ∈ (runFrom (iterate digest) (WorkerLog.start db) (its.take n)).started →
        ∀ locked now, ∀ candidate ∈ readyCandidates
          (runFrom (iterate digest) (WorkerLog.start db) (its.take n)).db locked now,
            candidate.id ≠ job.id) ↔
      Along (iterate digest) (CompletesJob digest job.id) (WorkerLog.start db) its := by
  rw [along_congr (fun _ _ => settlesJob_iff_completesJob)]
  refine ⟨fun h => h.1, fun hok => ⟨hok, ?_⟩⟩
  have hstart : ExecutedOnce job.id (WorkerLog.start db) := by simp [ExecutedOnce, WorkerLog.start]
  have hrun : ∀ {before : List IterationArgs},
      Along (iterate digest) (CompletesJob digest job.id) (WorkerLog.start db) before →
        ExecutedOnce job.id (runFrom (iterate digest) (WorkerLog.start db) before) := by
    intro before hbefore
    exact runFrom_invariant_along (fun _ _ hs hc => iterate_executedOnce hs hc) hstart hbefore
  refine ⟨?_, ?_⟩
  · have hpositive := (db.budget job hjob).2
    have honce := (hrun hok).1
    omega
  · intro n hmem locked now candidate hcandidate hid
    rw [← List.take_append_drop n its, along_append] at hok
    rcases mem_readyCandidates hcandidate with ⟨hrow, hready, _⟩
    exact (hrun hok.1).2 hmem candidate hrow hid hready

/-- One iteration at the given time, with the given runner and no other fault. -/
def plainIteration (runner : AgentRunner) (now : Moment) : IterationArgs :=
  { clock := now
    runner := runner
    faults := Faults.absent
    locked := unlocked
    workerId := deterministicWorkerId 1
    now := now }

/-- The worker finds its job locked, then claims it for an agent that is not commissioned, and goes on. -/
def uncommissionedIterations : List IterationArgs :=
  [{ plainIteration (sampleRunner .success) 0 with locked := fun _ => true },
    plainIteration { sampleRunner .success with execute := fun _ => .notCommissioned } (minutes 1),
    plainIteration (sampleRunner .success) (minutes 2)]

/-- The job is executed in the second iteration and settles as failed. -/
theorem executions_settle_uncommissioned :
    sampleJob .ready .safe "A01" 3 ∈ implementedDatabase.jobs ∧
      (runFrom (iterate sampleDigest) (WorkerLog.start implementedDatabase)
        uncommissionedIterations).started = [1] ∧
      Along (iterate sampleDigest) (SettlesJob sampleDigest 1) (WorkerLog.start implementedDatabase)
        uncommissionedIterations := by
  have hjob : sampleJob .ready .safe "A01" 3 ∈ implementedDatabase.jobs := by
    simp [implementedDatabase, sampleDatabase, Table.mem_def]
  refine ⟨hjob, by decide +kernel, ((executions_settle_iff sampleDigest hjob
    uncommissionedIterations).2 ⟨?_, ?_, ?_, trivial⟩).1⟩
  · intro db₁ job _ _
    simp [Completes, plainIteration, sampleRunner, Faults.absent, emitEvents]
  · intro db₁ job _ _
    rfl
  · intro db₁ job _ _
    simp [Completes, plainIteration, sampleRunner, Faults.absent, emitEvents]

/-- A runner whose agent always raises. -/
def raisingRunner : AgentRunner :=
  { envelope := fun _ => .ok ()
    execute := fun _ => .raised (.valueError "agent failed") }

/-- An agent that raises every time is executed four times on a budget of three, and could go on:
the job stays `READY` at attempt zero. -/
theorem executions_unbounded_when_raising :
    ¬ ∀ (digest : String → Uuid) (db : Database) (job : Job) (its : List IterationArgs),
      job ∈ db.jobs →
        Along (iterate digest) (SettlesJob digest job.id) (WorkerLog.start db) its ∧
          (((runFrom (iterate digest) (WorkerLog.start db) its).started.count job.id : Nat) : Int) ≤
            job.maxAttempts ∧
          ∀ n, job.id ∈ (runFrom (iterate digest) (WorkerLog.start db) (its.take n)).started →
            ∀ locked now, ∀ candidate ∈ readyCandidates
              (runFrom (iterate digest) (WorkerLog.start db) (its.take n)).db locked now,
                candidate.id ≠ job.id := by
  intro h
  have hbound := (h sampleDigest implementedDatabase (sampleJob .ready .safe "A01" 3)
    (List.replicate 4 (plainIteration raisingRunner 0))
    (by simp [implementedDatabase, sampleDatabase, Table.mem_def])).2.1
  have hcount : ((runFrom (iterate sampleDigest) (WorkerLog.start implementedDatabase)
      (List.replicate 4 (plainIteration raisingRunner 0))).started.count
        (sampleJob .ready .safe "A01" 3).id) = 4 := by
    decide +kernel
  rw [hcount] at hbound
  simp [sampleJob] at hbound

/-! ## The plain iteration

Without faults this is the iteration of the operations machine. -/

section Absent

variable {digest : String → Uuid} {i : IterationArgs}

theorem emitGuarded_absent_error (hfaults : i.faults = Faults.absent) {job : Job} {output : Json}
    {events : List EventName} {n : Nat} {db db' : Database} {raised : Raised}
    (h : emitGuarded digest i job output n db events = .error (raised, db')) :
    ∃ error, raised = .other error := by
  induction events generalizing n db with
  | nil => cases h
  | cons eventName rest ih =>
    have hnone : i.faults.dispatch n = none := by simp [hfaults, Faults.absent]
    simp only [emitGuarded, hnone] at h
    cases hcall : dispatch digest i.clock db
        { eventName := eventName
          aggregateType := "Job"
          aggregateId := job.id
          workflowId := some job.workflowId
          jobId := some job.id
          payload := output
          occurredAt := i.now } with
    | ok result =>
      simp only [hcall, Except.map, guarded, bind, Except.bind] at h
      exact ih h
    | error error =>
      simp only [hcall, Except.map, guarded, bind, Except.bind] at h
      cases h
      exact ⟨error, rfl⟩

/-- Without faults an execution commits what `executeJobWithRunner` returns. -/
theorem settle_absent (hfaults : i.faults = Faults.absent) {db db' : Database} {job : Job}
    (henvelope : i.runner.envelope job = .ok ()) (hroster : job.ownerAgentId ∈ agentRoster)
    (hmap : job.ownerAgentId ∈ agentMap) :
    settle digest i db job = some db' ↔
      executeJobWithRunner digest i.clock i.runner db job i.workerId i.now = .ok db' := by
  have hbeat : i.faults.heartbeat = none := by simp [hfaults, Faults.absent]
  have hrelease : i.faults.release = none := by simp [hfaults, Faults.absent]
  have hhandler : i.faults.handlerRelease = none := by simp [hfaults, Faults.absent]
  have hdispatch : ∀ n, i.faults.dispatch n = none := by simp [hfaults, Faults.absent]
  simp only [executeJobWithRunner, henvelope, hroster, hmap, not_true_eq_false, if_false, settle,
    tryBlock]
  cases i.runner.execute job with
  | raised error => simp [handleRaised, bind, Except.bind]
  | notCommissioned =>
    simp only [handleRaised, hhandler, bind, Except.bind]
    cases db.updateJob job.id (markFailedColumns i.now) (fun _ => by simp [markFailedColumns]) with
    | error error => simp
    | ok db₁ =>
      cases hcall : releaseLease db₁ job.id i.workerId i.now .failed with
      | ok db₂ => simp [guarded, hcall]
      | error error => simp [guarded, hcall]
  | returned result =>
    simp only [hbeat, hrelease, bind, Except.bind]
    cases hcall : heartbeat db job.id i.workerId i.now none with
    | error error => simp [guarded, handleRaised]
    | ok db₁ =>
      simp only [guarded]
      cases hcall' : releaseLease db₁ job.id i.workerId i.now (finalStatusOf result.status) with
      | error error => simp [handleRaised]
      | ok db₂ =>
        simp only
        cases hemit : emitGuarded digest i job result.output 0 db₂ result.emittedEvents with
        | ok db₃ =>
          have hplain := (emitGuarded_eq_ok.1 hemit).2
          simp [hplain]
        | error e =>
          rcases e with ⟨raised, db₃⟩
          rcases emitGuarded_absent_error hfaults hemit with ⟨error, rfl⟩
          refine iff_of_false (by simp [handleRaised]) ?_
          intro hplain
          have hok := emitGuarded_eq_ok.2 ⟨fun k _ => hdispatch (0 + k), hplain⟩
          rw [hemit] at hok
          cases hok

theorem iterate_absent (hfaults : i.faults = Faults.absent) (s : WorkerLog) :
    (iterate digest s i).db =
      step digest s.db (.workerIteration i.clock i.runner i.locked i.workerId i.now) := by
  simp only [step, execute, workerIteration, iterate]
  cases hclaim : claimReadyJob s.db i.locked i.workerId i.now leaseDuration with
  | error error => simp [bind, Except.bind]
  | ok result =>
    rcases result with ⟨db₁, _ | job⟩
    · rcases claimReadyJob_eq_ok hclaim with ⟨rfl, _⟩ | ⟨_, _, _, _, hsome⟩
      · simp [bind, Except.bind]
      · cases hsome
    cases henvelope : i.runner.envelope job with
    | error error => simp [executeJobWithRunner, henvelope, bind, Except.bind]
    | ok u =>
      by_cases hroster : job.ownerAgentId ∈ agentRoster
      · by_cases hmap : job.ownerAgentId ∈ agentMap
        · have hsettle : ∀ db', settle digest i db₁ job = some db' ↔
              executeJobWithRunner digest i.clock i.runner db₁ job i.workerId i.now =
                .ok db' :=
            fun _ => settle_absent hfaults henvelope hroster hmap
          simp only [bind, Except.bind, hroster, hmap, not_true_eq_false, if_false]
          cases hexec : executeJobWithRunner digest i.clock i.runner db₁ job i.workerId i.now with
          | ok db' => simp [henvelope, (hsettle db').2 hexec]
          | error error =>
            have hnone : settle digest i db₁ job = none := by
              rw [Option.eq_none_iff_forall_not_mem]
              intro db' hdb'
              have hok := (hsettle db').1 hdb'
              rw [hexec] at hok
              cases hok
            simp [henvelope, hnone]
        · simp only [executeJobWithRunner, henvelope, hroster, hmap, not_true_eq_false,
            not_false_eq_true, if_true, if_false, bind, Except.bind]
          cases db₁.updateJob job.id (markFailedColumns i.now)
            (fun _ => by simp [markFailedColumns]) <;> rfl
      · simp [executeJobWithRunner, henvelope, hroster, bind, Except.bind]

end Absent

end Orchestration
end MoneyMachine
