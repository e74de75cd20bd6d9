import MoneyMachine.Orchestration.Engine
import MoneyMachine.Orchestration.Reconciliation
import MoneyMachine.Orchestration.Scheduler
import MoneyMachine.Orchestration.Worker

/-!
# Operations — the orchestration layer as one machine

A state is a database, an input is one operation with its arguments, and an operation that fails
leaves the database as it was.  Times, worker ids, locked rows, agent results and provider answers
are arguments, so "every run" below ranges over all of them.

Three notions carry every result about runs:

* `Write`      : what one transaction does in a row, one source function each;
* `Performs`   : which writes an operation performs, and in which state;
* `JobChange`  : everything a write can do to one job row, with the guard it checked.

`perform_evolves` connects a write to its row changes, `execute_induction` an operation to its
writes.
-/

namespace MoneyMachine
namespace Orchestration

open MoneyMachine.Domain
open MoneyMachine.Library
open MoneyMachine.Persistence
open MoneyMachine.Orchestration.Reconciliation (Reconciler ReconciliationResult)

/-! ## Writes -/

/-- A result that some query returned. -/
structure IssuedResult where
  result : ReconciliationResult
  issued : ∃ state next maxAttempts,
    result.nextJobStatus = (Reconciliation.nextStatus state next maxAttempts).1

inductive Write
  | claimReadyJob (locked : Uuid → Bool) (workerId : String) (now : Moment)
      (leaseDuration : Duration)
  | heartbeat (jobId : Uuid) (workerId : String) (now : Moment) (leaseExtension : Option Duration)
  | releaseLease (jobId : Uuid) (workerId : String) (now : Moment) (finalStatus : JobStatus)
  | reclaimExpiredLeases (locked : Uuid → Bool) (now : Moment) (limit : Nat)
  | detectStalledJobs (locked : Uuid → Bool) (now : Moment) (stallThreshold : Duration)
      (limit : Nat)
  | promotePendingToReady (jobId : Uuid) (now : Moment)
  | propagateDependencyFailure (jobId : Uuid) (now : Moment)
  | satisfyDependency (jobId : Uuid) (now : Moment)
  | retryFailedJob (jobId : Uuid) (now : Moment)
  | cancelWorkflow (workflowId : Uuid) (now : Moment)
  | resolveByHand (jobId : Uuid) (effectState : String) (providerObjectId : Option String)
      (now : Moment)
  | reconcileUncertainEffect (jobId : Uuid) (reconciler : Reconciler) (maxAttempts : Int)
      (now : Moment)
  | applyReconciliationResult (jobId : Uuid) (issued : IssuedResult) (now : Moment)
  | reserveIdempotencyKey (idempotencyKey : String) (jobId : Uuid) (operation : String)
      (sideEffectClass : SideEffectClass) (now : Moment)
  | markIdempotencyCompleted (idempotencyKey : String) (now : Moment)
  | recordEffectAttempt (row : EffectAttempt)
  | insertJob (new : NewJob)
  | insertEvent (event : Event)
  /-- The worker's branch for an agent without an implementation: `FAILED`, the lease kept. -/
  | abandon (jobId : Uuid) (now : Moment)
  /-- The worker's branch for an uncommissioned agent. -/
  | failAndRelease (jobId : Uuid) (workerId : String) (now : Moment)

/-- The transaction of one write. -/
def Write.perform (db : Database) : Write → Except OrchestrationError Database
  | .claimReadyJob locked workerId now leaseDuration =>
    (Orchestration.claimReadyJob db locked workerId now leaseDuration).map Prod.fst
  | .heartbeat jobId workerId now leaseExtension =>
    Orchestration.heartbeat db jobId workerId now leaseExtension
  | .releaseLease jobId workerId now finalStatus =>
    Orchestration.releaseLease db jobId workerId now finalStatus
  | .reclaimExpiredLeases locked now limit =>
    (Orchestration.reclaimExpiredLeases db locked now limit).map Prod.fst
  | .detectStalledJobs locked now stallThreshold limit =>
    (Orchestration.detectStalledJobs db locked now stallThreshold limit).map Prod.fst
  | .promotePendingToReady jobId now =>
    (Orchestration.promotePendingToReady db jobId now).map Prod.fst
  | .propagateDependencyFailure jobId now =>
    (Orchestration.propagateDependencyFailure db jobId now).map Prod.fst
  | .satisfyDependency jobId now => .ok (Orchestration.satisfyDependency db jobId now).1
  | .retryFailedJob jobId now => (Engine.retryFailedJob db jobId now).map Prod.fst
  | .cancelWorkflow workflowId now => (Engine.cancelWorkflow db workflowId now).map Prod.fst
  | .resolveByHand jobId effectState providerObjectId now =>
    Engine.reconcileUncertainEffect db jobId effectState providerObjectId now
  | .reconcileUncertainEffect jobId reconciler maxAttempts now =>
    (Reconciliation.reconcileUncertainEffect db jobId reconciler maxAttempts now).map Prod.fst
  | .applyReconciliationResult jobId issued now =>
    Reconciliation.applyReconciliationResult db jobId issued.result now
  | .reserveIdempotencyKey idempotencyKey jobId operation sideEffectClass now =>
    Orchestration.reserveIdempotencyKey db idempotencyKey jobId operation sideEffectClass now
  | .markIdempotencyCompleted idempotencyKey now =>
    Orchestration.markIdempotencyCompleted db idempotencyKey now
  | .recordEffectAttempt row => Orchestration.recordEffectAttempt db row
  | .insertJob new => db.insertJob new
  | .insertEvent event => db.insertEvent event
  | .abandon jobId now =>
    db.updateJob jobId (markFailedColumns now) (id_markFailedColumns now)
  | .failAndRelease jobId workerId now => do
      let db₁ ← db.updateJob jobId (markFailedColumns now) (id_markFailedColumns now)
      Orchestration.releaseLease db₁ jobId workerId now .failed

/-- The writes that only happen inside a worker iteration. -/
def Write.workerOnly : Write → Bool
  | .abandon .. => true
  | .failAndRelease .. => true
  | _ => false

/-! ## Operations -/

inductive Op
  /-- A source function that is a transaction of its own. -/
  | call (write : Write) (callable : write.workerOnly = false)
  | promoteDueJobs (now : Moment) (limit : Nat)
  | runSchedulerCycle (args : CycleArgs)
  | dispatch (clock : Moment) (args : DispatchArgs)
  | workerIteration (clock : Moment) (runner : AgentRunner) (locked : Uuid → Bool)
      (workerId : String) (now : Moment)

section Machine

variable (digest : String → Uuid)

def execute (db : Database) : Op → Except OrchestrationError Database
  | .call write _ => write.perform db
  | .promoteDueJobs now limit => (Orchestration.promoteDueJobs db now limit).map Prod.fst
  | .runSchedulerCycle args => (Orchestration.runSchedulerCycle db args).map Prod.fst
  | .dispatch clock args => (Orchestration.dispatch digest clock db args).map Prod.fst
  | .workerIteration clock runner locked workerId now =>
    Orchestration.workerIteration digest clock runner db locked workerId now

/-- An operation that raises is rolled back. -/
def step (db : Database) (op : Op) : Database :=
  match execute digest db op with
  | .ok db' => db'
  | .error _ => db

end Machine

/-! ## The writes an operation performs -/

/-- The arguments of the reclaim a cycle starts with. -/
def CycleArgs.reclaim (args : CycleArgs) : Write :=
  .reclaimExpiredLeases args.lockedReclaim args.now args.reclaimLimit

def CycleArgs.stall (args : CycleArgs) : Write :=
  .detectStalledJobs args.lockedStall args.now defaultStallThreshold args.stallLimit

/-- The row a worker works on: claimed by it and not yet released. -/
def Claimed (db : Database) (jobId : Uuid) (workerId : String) : Prop :=
  ∀ job ∈ db.jobs, job.id = jobId → job.status = .running ∧ job.leaseOwner = some workerId

/-- `Performs db op db₁ w`: started in `db`, the operation performs the write `w` in `db₁`. -/
inductive Performs (db : Database) : Op → Database → Write → Prop
  | call {write : Write} {callable : write.workerOnly = false} :
      Performs db (.call write callable) db write
  | promoteDue {now : Moment} {limit : Nat} {db₁ : Database} {jobId : Uuid} :
      Performs db (.promoteDueJobs now limit) db₁ (.promotePendingToReady jobId now)
  | cycleReclaim {args : CycleArgs} : Performs db (.runSchedulerCycle args) db args.reclaim
  | cycleStall {args : CycleArgs} {db₁ : Database} (hreclaim : args.reclaim.perform db = .ok db₁) :
      Performs db (.runSchedulerCycle args) db₁ args.stall
  | cyclePromote {args : CycleArgs} {db₁ : Database} {jobId : Uuid} :
      Performs db (.runSchedulerCycle args) db₁ (.promotePendingToReady jobId args.now)
  | dispatchEvent {clock : Moment} {args : DispatchArgs} {db₁ : Database} {event : Event} :
      Performs db (.dispatch clock args) db₁ (.insertEvent event)
  | dispatchJob {clock : Moment} {args : DispatchArgs} {db₁ : Database} {new : NewJob} :
      Performs db (.dispatch clock args) db₁ (.insertJob new)
  | workerClaim {clock : Moment} {runner : AgentRunner} {locked : Uuid → Bool} {workerId : String}
      {now : Moment} :
      Performs db (.workerIteration clock runner locked workerId now) db
        (.claimReadyJob locked workerId now leaseDuration)
  | workerAbandon {clock : Moment} {runner : AgentRunner} {locked : Uuid → Bool}
      {workerId : String} {now : Moment} {db₁ : Database} {job : Job}
      (hcandidate : job ∈ readyCandidates db locked now)
      (hagent : NoImplementation runner (claimColumns workerId now leaseDuration job))
      (hclaimed : Claimed db₁ job.id workerId) :
      Performs db (.workerIteration clock runner locked workerId now) db₁ (.abandon job.id now)
  | workerFail {clock : Moment} {runner : AgentRunner} {locked : Uuid → Bool}
      {workerId : String} {now : Moment} {db₁ : Database} {jobId : Uuid}
      (hclaimed : Claimed db₁ jobId workerId) :
      Performs db (.workerIteration clock runner locked workerId now) db₁
        (.failAndRelease jobId workerId now)
  | workerHeartbeat {clock : Moment} {runner : AgentRunner} {locked : Uuid → Bool}
      {workerId : String} {now : Moment} {db₁ : Database} {jobId : Uuid} :
      Performs db (.workerIteration clock runner locked workerId now) db₁
        (.heartbeat jobId workerId now none)
  | workerRelease {clock : Moment} {runner : AgentRunner} {locked : Uuid → Bool}
      {workerId : String} {now : Moment} {db₁ : Database} {jobId : Uuid} {status : AgentRunStatus} :
      Performs db (.workerIteration clock runner locked workerId now) db₁
        (.releaseLease jobId workerId now (finalStatusOf status))
  | workerEvent {clock : Moment} {runner : AgentRunner} {locked : Uuid → Bool}
      {workerId : String} {now : Moment} {db₁ : Database} {event : Event} :
      Performs db (.workerIteration clock runner locked workerId now) db₁ (.insertEvent event)
  | workerJob {clock : Moment} {runner : AgentRunner} {locked : Uuid → Bool}
      {workerId : String} {now : Moment} {db₁ : Database} {new : NewJob} :
      Performs db (.workerIteration clock runner locked workerId now) db₁ (.insertJob new)

/-- Every write of the operation meets a condition in the state it is performed in. -/
def Op.Meets (ok : Database → Write → Prop) (db : Database) (op : Op) : Prop :=
  ∀ db₁ w, Performs db op db₁ w → ok db₁ w

/-! ## A small database

One active workflow with one job; concrete runs below start here. -/

def sampleWorkflow : WorkflowRun :=
  { id := 7
    shopId := 9
    productState := .building
    completedAt := none }

def sampleJob (status : JobStatus) (retryClass : RetryClass) (ownerAgentId : String)
    (maxAttempts : Int) : Job :=
  { id := 1
    workflowId := 7
    jobType := "ProductBuildJob"
    objectType := "products"
    objectId := 7
    ownerAgentId := ownerAgentId
    status := status
    input := .obj []
    successContract := .obj [("output_model", .str "BuildResult")]
    scheduledAt := 0
    attempt := 0
    maxAttempts := maxAttempts
    idempotencyKey := "ProductBuildJob:7:1"
    sideEffectClass := .externalWrite
    retryClass := retryClass
    allowedMode := .simulation
    leaseOwner := none
    leaseExpiresAt := none
    heartbeatAt := none
    updatedAt := 0
    statusWrites := [] }

theorem sampleWorkflow_nodup : ([sampleWorkflow].map WorkflowRun.id).Nodup := by
  simp

theorem sampleJob_withinBudget (retryClass : RetryClass) :
    (sampleJob .ready retryClass "A07" 3).WithinBudget := by
  simp [sampleJob, Job.WithinBudget]

def sampleDatabase (job : Job) (hbudget : job.WithinBudget) : Database :=
  { shops := []
    workflows := ⟨[sampleWorkflow], sampleWorkflow_nodup⟩
    jobs := ⟨[job], by simp⟩
    dependencies := []
    idempotencyRecords := ⟨[], List.nodup_nil⟩
    effectAttempts := []
    events := []
    budget := by simpa using hbudget }

/-- No other transaction holds a lock. -/
def unlocked : Uuid → Bool := fun _ => false

/-- The sample job alone, inserted as given. -/
def readyDatabase (retryClass : RetryClass) : Database :=
  sampleDatabase (sampleJob .ready retryClass "A07" 3) (sampleJob_withinBudget retryClass)

/-- `worker-1` claims at once, and every worker may call for it. -/
theorem sampleClaim_callable :
    (Write.claimReadyJob unlocked "worker-1" 0 leaseDuration).workerOnly = false :=
  rfl

theorem earlySweep_callable :
    (Write.reclaimExpiredLeases unlocked (minutes 6) 50).workerOnly = false :=
  rfl

theorem lateSweep_callable :
    (Write.reclaimExpiredLeases unlocked (minutes 10) 100).workerOnly = false :=
  rfl

/-- A stand-in for the hash in runs that derive no id. -/
def sampleDigest : String → Uuid := fun _ => 0

end Orchestration
end MoneyMachine
