import MoneyMachine.Orchestration.DependencyResolver
import MoneyMachine.Orchestration.Leases

/-!
# Scheduler — promoting due jobs, detecting stalled ones, and the scheduler cycle

A cycle is one transaction: expired leases are reclaimed, jobs without a heartbeat are failed, due
jobs are promoted.  An error in any part rolls back the whole cycle; the only errors that are caught
are refused promotions.
-/

namespace MoneyMachine
namespace Orchestration

open MoneyMachine.Domain
open MoneyMachine.Library
open MoneyMachine.Persistence

/-- `DEFAULT_STALL_THRESHOLD`. -/
def defaultStallThreshold : Duration := minutes 5

/-! ## Promotion of due jobs -/

/-- `PENDING` rows whose time has come, oldest first. -/
def dueJobs (db : Database) (now : Moment) (limit : Nat) : List Job :=
  db.jobs.select
    (fun job => decide (job.status = .pending) && decide (job.scheduledAt ≤ now))
    (fun a b => a.scheduledAt ≤ b.scheduledAt) limit

/-- The loop of `promote_due_jobs`: a refused promotion is passed over, any other error ends it. -/
def promoteEach (now : Moment) (db : Database) :
    List Job → Except OrchestrationError (Database × List Job)
  | [] => .ok (db, [])
  | job :: rest =>
    match promotePendingToReady db job.id now with
    | .ok (db₁, promoted) => do
        let (db₂, more) ← promoteEach now db₁ rest
        .ok (db₂, promoted :: more)
    | .error error =>
      if error.isDependencyResolution then promoteEach now db rest else .error error

def promoteDueJobs (db : Database) (now : Moment) (limit : Nat) :
    Except OrchestrationError (Database × List Job) :=
  promoteEach now db (dueJobs db now limit)

/-! ## Stalled jobs -/

/-- `RUNNING` rows with an old heartbeat and a live lease, oldest heartbeat first. -/
def stalledJobs (db : Database) (locked : Uuid → Bool) (now : Moment) (stallThreshold : Duration)
    (limit : Nat) : List Job :=
  db.jobs.select
    (fun job => decide (job.status = .running) &&
      job.heartbeatAt.any (fun h => decide (h < now - stallThreshold)) &&
        job.leaseExpiresAt.any (fun e => decide (now < e)) && !locked job.id)
    (fun a b => a.heartbeatAt.getD 0 ≤ b.heartbeatAt.getD 0) limit

/-- The `JOB_STALLED` event; the heartbeat is read before the row is cleared. -/
def stallEvent (now : Moment) (stallThreshold : Duration) (job : Job) : Event :=
  { eventName := .jobStalled
    aggregateType := "Job"
    aggregateId := job.id
    workflowId := some job.workflowId
    jobId := some job.id
    payload := .obj
      [("job_type", .str job.jobType),
        ("stall_threshold_seconds", .int (stallThreshold.tdiv 1000000)),
        ("last_heartbeat_at",
          match job.heartbeatAt with
          | none => .null
          | some heartbeat => .str (isoformat "T" heartbeat))]
    dedupeKey := "job_stalled:" ++ uuidStr job.id ++ ":" ++ isoformat "T" now
    occurredAt := now }

def detectStalledJobs (db : Database) (locked : Uuid → Bool) (now : Moment)
    (stallThreshold : Duration) (limit : Nat) :
    Except OrchestrationError (Database × List Job) := do
  let stalled := stalledJobs db locked now stallThreshold limit
  requireJobTransition .running .failed
  -- Unlike the reclaim, nothing moves an exhausted job on to `TERMINAL_FAILURE`.
  let db₁ ← db.updateJobs stalled (failAttemptColumns now) (fun _ => by simp)
  let db₂ ← db₁.insertEvents (stalled.map (stallEvent now stallThreshold))
  .ok (db₂, stalled.map (failAttemptColumns now))

/-! ## The cycle -/

/-- The arguments of one scheduler cycle, with the rows locked while each query runs. -/
structure CycleArgs where
  now : Moment
  promoteLimit : Nat
  reclaimLimit : Nat
  stallLimit : Nat
  lockedReclaim : Uuid → Bool
  lockedStall : Uuid → Bool

/-- The counts `run_scheduler_cycle` returns. -/
structure CycleCounts where
  promoted : Nat
  reclaimed : Nat
  stalled : Nat
  deriving DecidableEq, Repr

def runSchedulerCycle (db : Database) (args : CycleArgs) :
    Except OrchestrationError (Database × CycleCounts) := do
  let (db₁, reclaimed) ← reclaimExpiredLeases db args.lockedReclaim args.now args.reclaimLimit
  -- The stall query sees the rows as the reclaim left them.
  let (db₂, stalled) ←
    detectStalledJobs db₁ args.lockedStall args.now defaultStallThreshold args.stallLimit
  let (db₃, promoted) ← promoteDueJobs db₂ args.now args.promoteLimit
  .ok
    (db₃,
      { promoted := promoted.length
        reclaimed := reclaimed.length
        stalled := stalled.length })

/-! ## What a successful call did -/

theorem mem_stalledJobs {db : Database} {locked : Uuid → Bool} {now : Moment}
    {stallThreshold : Duration} {limit : Nat} {job : Job}
    (h : job ∈ stalledJobs db locked now stallThreshold limit) :
    job ∈ db.jobs ∧ job.status = .running := by
  rcases Table.mem_of_mem_select h with ⟨hmem, hp⟩
  simp only [Bool.and_eq_true, decide_eq_true_eq] at hp
  exact ⟨hmem, hp.1.1.1⟩

theorem detectStalledJobs_eq_ok {db db' : Database} {locked : Uuid → Bool} {now : Moment}
    {stallThreshold : Duration} {limit : Nat} {stalled : List Job}
    (h : detectStalledJobs db locked now stallThreshold limit = .ok (db', stalled)) :
    ∃ hid db₁, db.updateJobs (stalledJobs db locked now stallThreshold limit)
        (failAttemptColumns now) hid = .ok db₁ ∧
      db' = { db₁ with
        events := db₁.events ++
          (stalledJobs db locked now stallThreshold limit).map (stallEvent now stallThreshold) } := by
  unfold detectStalledJobs at h
  rcases bind_eq_ok.1 h with ⟨_, _, h⟩
  rcases bind_eq_ok.1 h with ⟨db₁, hupd, h⟩
  rcases bind_eq_ok.1 h with ⟨db₂, hevents, h⟩
  cases h
  exact ⟨_, db₁, hupd, Database.insertEvents_eq_ok hevents⟩

/-- A cycle that commits reclaimed, then failed the stalled, then promoted. -/
theorem runSchedulerCycle_eq_ok {db db' : Database} {args : CycleArgs} {counts : CycleCounts}
    (h : runSchedulerCycle db args = .ok (db', counts)) :
    ∃ db₁ reclaimed db₂ stalled promoted,
      reclaimExpiredLeases db args.lockedReclaim args.now args.reclaimLimit =
        .ok (db₁, reclaimed) ∧
      detectStalledJobs db₁ args.lockedStall args.now defaultStallThreshold args.stallLimit =
        .ok (db₂, stalled) ∧
      promoteDueJobs db₂ args.now args.promoteLimit = .ok (db', promoted) := by
  unfold runSchedulerCycle at h
  rcases bind_eq_ok.1 h with ⟨⟨db₁, reclaimed⟩, hreclaim, h⟩
  rcases bind_eq_ok.1 h with ⟨⟨db₂, stalled⟩, hstall, h⟩
  rcases bind_eq_ok.1 h with ⟨⟨db₃, promoted⟩, hpromote, h⟩
  cases h
  exact ⟨db₁, reclaimed, db₂, stalled, promoted, hreclaim, hstall, hpromote⟩

/-- What each single promotion keeps, the promotion loop keeps. -/
theorem promoteEach_invariant {I : Database → Prop} {now : Moment}
    (hpromote : ∀ {db db' : Database} {jobId : Uuid} {promoted : Job}, I db →
      promotePendingToReady db jobId now = .ok (db', promoted) → I db')
    {db db' : Database} {due promoted : List Job} (hI : I db)
    (h : promoteEach now db due = .ok (db', promoted)) : I db' := by
  -- The list of due jobs is read once; the database changes along it.
  induction due generalizing db db' promoted with
  | nil =>
    cases h
    exact hI
  | cons job rest ih =>
    simp only [promoteEach] at h
    cases hone : promotePendingToReady db job.id now with
    | ok result =>
      rcases result with ⟨db₁, first⟩
      simp only [hone] at h
      rcases bind_eq_ok.1 h with ⟨⟨db₂, more⟩, hrest, h⟩
      cases h
      exact ih (hpromote hI hone) hrest
    | error error =>
      simp only [hone] at h
      split at h
      · exact ih hI h
      · cases h

end Orchestration
end MoneyMachine
