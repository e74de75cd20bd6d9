import MoneyMachine.Orchestration.EventDispatcher
import MoneyMachine.Orchestration.Leases

/-!
# Worker — claim, execute, persist, emit events, create successors

One iteration of the worker loop is one transaction.  The agent runner is a parameter: it may reject
the job's envelope, refuse an uncommissioned agent, raise, or return a result.  An iteration whose
result is an error here is one the worker rolls back.
-/

namespace MoneyMachine
namespace Orchestration

open MoneyMachine.Domain
open MoneyMachine.Library
open MoneyMachine.Persistence

/-- `LEASE_DURATION`. -/
def leaseDuration : Duration := minutes 5

/-- The part of `AgentResult` the worker reads. -/
structure AgentResult where
  status : AgentRunStatus
  emittedEvents : List EventName
  output : Json

/-- How `runner.execute` ends. -/
inductive RunnerOutcome
  | notCommissioned
  | raised (error : OrchestrationError)
  | returned (result : AgentResult)

structure AgentRunner where
  /-- `_job_envelope(job)` validates the row. -/
  envelope : Job → Except OrchestrationError Unit
  execute : Job → RunnerOutcome

/-- The agents of the registry. -/
def agentRoster : List String :=
  ["A01", "A02", "A03", "A04", "A05", "A06", "A07", "A08", "A09", "A10", "A11", "A12", "A13", "A14",
    "A15", "A16"]

/-- The keys of `agent_map`. -/
def agentMap : List String :=
  ["A01", "A02"]

/-- `job.status = FAILED`, the lease columns left as they are. -/
def markFailedColumns (now : Moment) (job : Job) : Job :=
  { job.setStatus .failed with updatedAt := now }

theorem id_markFailedColumns (now : Moment) (job : Job) : (markFailedColumns now job).id = job.id := by
  simp [markFailedColumns]

def finalStatusOf : AgentRunStatus → JobStatus
  | .success => .succeeded
  | .failure => .failed
  | _ => .blocked

/-- The job reaches the branch for agents without an implementation. -/
def NoImplementation (runner : AgentRunner) (job : Job) : Prop :=
  runner.envelope job = .ok () ∧ job.ownerAgentId ∈ agentRoster ∧ job.ownerAgentId ∉ agentMap

section Worker

variable (digest : String → Uuid) (clock : Moment) (runner : AgentRunner)

/-- Dispatch the emitted events of a result, in order. -/
def emitEvents (job : Job) (output : Json) (now : Moment) (db : Database) :
    List EventName → Except OrchestrationError Database
  | [] => .ok db
  | eventName :: rest => do
      let (db₁, _) ← dispatch digest clock db
        { eventName := eventName
          aggregateType := "Job"
          aggregateId := job.id
          workflowId := some job.workflowId
          jobId := some job.id
          payload := output
          occurredAt := now }
      emitEvents job output now db₁ rest

/-- `_execute_job_with_runner` on a claimed job: the state it commits, or the error it rolls back
on. -/
def executeJobWithRunner (db : Database) (job : Job) (workerId : String) (now : Moment) :
    Except OrchestrationError Database := do
  runner.envelope job
  if job.ownerAgentId ∉ agentRoster then
    .error (.valueError ("unknown agent " ++ job.ownerAgentId))
  -- Committed as it is: the lease columns of the claim stay set.
  else if job.ownerAgentId ∉ agentMap then
    db.updateJob job.id (markFailedColumns now) (id_markFailedColumns now)
  else
    match runner.execute job with
    | .notCommissioned => do
        -- The row is `FAILED` already when the lease is released; only the owner is checked.
        let db₁ ← db.updateJob job.id (markFailedColumns now) (id_markFailedColumns now)
        releaseLease db₁ job.id workerId now .failed
    -- Rolled back, the claim with it.
    | .raised error => .error error
    | .returned result => do
        let db₁ ← heartbeat db job.id workerId now none
        let db₂ ← releaseLease db₁ job.id workerId now (finalStatusOf result.status)
        emitEvents digest clock job result.output now db₂ result.emittedEvents

/-- One iteration of `_worker_loop`. -/
def workerIteration (db : Database) (locked : Uuid → Bool) (workerId : String) (now : Moment) :
    Except OrchestrationError Database := do
  let (db₁, claimed) ← claimReadyJob db locked workerId now leaseDuration
  match claimed with
  | none => .ok db₁
  | some job => executeJobWithRunner digest clock runner db₁ job workerId now

end Worker

/-! ## What a committed iteration did -/

section Inversion

variable {digest : String → Uuid} {clock : Moment} {runner : AgentRunner}

theorem emitEvents_invariant {I : Database → Prop}
    (hjob : ∀ {db db' : Database} {new : NewJob}, I db → db.insertJob new = .ok db' → I db')
    (hevent : ∀ {db db' : Database} {event : Event}, I db → db.insertEvent event = .ok db' → I db')
    {job : Job} {output : Json} {now : Moment} {events : List EventName} {db db' : Database}
    (hI : I db) (h : emitEvents digest clock job output now db events = .ok db') : I db' := by
  -- One dispatch per event; the database of the next is what this one left.
  induction events generalizing db with
  | nil =>
    cases h
    exact hI
  | cons eventName rest ih =>
    rcases bind_eq_ok.1 h with ⟨⟨db₁, created⟩, hfirst, hrest⟩
    exact ih (dispatch_invariant hjob hevent hI hfirst) hrest

/-- The three ways an execution commits: the agent has no implementation, it is not commissioned,
or it returned a result. -/
theorem executeJobWithRunner_eq_ok {db db' : Database} {job : Job} {workerId : String}
    {now : Moment}
    (h : executeJobWithRunner digest clock runner db job workerId now = .ok db') :
    (NoImplementation runner job ∧ ∃ hid,
      db.updateJob job.id (markFailedColumns now) hid = .ok db') ∨
    (∃ hid db₁,
      db.updateJob job.id (markFailedColumns now) hid = .ok db₁ ∧
        releaseLease db₁ job.id workerId now .failed = .ok db') ∨
    (∃ (result : AgentResult) (db₁ db₂ : Database),
      heartbeat db job.id workerId now none = .ok db₁ ∧
        releaseLease db₁ job.id workerId now (finalStatusOf result.status) = .ok db₂ ∧
          emitEvents digest clock job result.output now db₂ result.emittedEvents = .ok db') := by
  unfold executeJobWithRunner at h
  rcases bind_eq_ok.1 h with ⟨_, henvelope, h⟩
  split at h
  · cases h
  rename_i hroster
  split at h
  · rename_i hmap
    exact Or.inl ⟨⟨henvelope, not_not.1 hroster, hmap⟩, _, h⟩
  · cases hrun : runner.execute job with
    | notCommissioned =>
      simp only [hrun] at h
      rcases bind_eq_ok.1 h with ⟨db₁, hupd, h⟩
      exact Or.inr (Or.inl ⟨_, db₁, hupd, h⟩)
    | raised error =>
      simp only [hrun] at h
      cases h
    | returned result =>
      simp only [hrun] at h
      rcases bind_eq_ok.1 h with ⟨db₁, hbeat, h⟩
      rcases bind_eq_ok.1 h with ⟨db₂, hrel, h⟩
      exact Or.inr (Or.inr ⟨result, db₁, db₂, hbeat, hrel, h⟩)

theorem workerIteration_eq_ok {db db' : Database} {locked : Uuid → Bool} {workerId : String}
    {now : Moment}
    (h : workerIteration digest clock runner db locked workerId now = .ok db') :
    ∃ db₁ claimed, claimReadyJob db locked workerId now leaseDuration = .ok (db₁, claimed) ∧
      ((claimed = none ∧ db' = db₁) ∨
        ∃ job, claimed = some job ∧
          executeJobWithRunner digest clock runner db₁ job workerId now = .ok db') := by
  unfold workerIteration at h
  rcases bind_eq_ok.1 h with ⟨⟨db₁, claimed⟩, hclaim, h⟩
  refine ⟨db₁, claimed, hclaim, ?_⟩
  cases claimed with
  | none =>
    cases h
    exact Or.inl ⟨rfl, rfl⟩
  | some job => exact Or.inr ⟨job, rfl, h⟩

end Inversion

end Orchestration
end MoneyMachine
