import MoneyMachine.Orchestration.AttemptBudget

/-!
# PromotionBlocking — when a pass over the due jobs promotes one

`promote_due_jobs` takes the oldest due rows first and asks of each whether it is ready; the limit counts
the rows that were taken, not those that were promoted.

* `promoteEach_promotes_iff` : a pass promotes a job exactly when one of its rows is ready;
* `promotes_due_iff` : a ready job leads to a promotion exactly when a ready job is among the rows taken.
-/

namespace MoneyMachine
namespace Orchestration

open MoneyMachine.Domain
open MoneyMachine.Library
open MoneyMachine.Persistence

/-- A `PENDING` row whose time has come and that satisfies every condition of
`evaluate_job_readiness`. -/
structure ReadyDue (db : Database) (now : Moment) (job : Job) : Prop where
  mem : job ∈ db.jobs
  pending : job.status = .pending
  due : job.scheduledAt ≤ now
  ready : (evaluateJobReadiness db job.id now).1 = true

/-- The pass returns and has promoted a job. -/
def PromotesOne (db : Database) (now : Moment) (limit : Nat) : Prop :=
  ∃ db' promoted, promoteDueJobs db now limit = .ok (db', promoted) ∧ promoted ≠ []

/-! ## One job -/

/-- A ready job is promoted: its row passes the checks of the table. -/
theorem promotePendingToReady_ok {db : Database} {now : Moment} {job : Job}
    (hget : db.jobs.get? job.id = some job) (hpending : job.status = .pending)
    (hready : (evaluateJobReadiness db job.id now).1 = true) :
    ∃ result, promotePendingToReady db job.id now = .ok result := by
  have hid : ∀ row, (promoteColumns now row).id = row.id := by simp [promoteColumns]
  have hrow : ∀ row ∈ db.jobs, (promoteColumns now row).WithinBudget := by
    intro row hmem
    simpa [promoteColumns, Job.WithinBudget] using db.budget row hmem
  rcases Database.updateJob_ok job.id hid hrow with ⟨db', hupdate⟩
  refine ⟨(db', promoteColumns now job), ?_⟩
  simp [promotePendingToReady, hget, hpending, hready, requireJobTransition, jobTransitions, hupdate,
    bind, Except.bind]

/-- A job that is promoted was ready. -/
theorem ready_of_promoted {db : Database} {now : Moment} {jobId : Uuid} {result : Database × Job}
    (h : promotePendingToReady db jobId now = .ok result) :
    (evaluateJobReadiness db jobId now).1 = true := by
  by_contra hready
  rw [Bool.not_eq_true] at hready
  unfold promotePendingToReady at h
  cases hget : db.jobs.get? jobId with
  | none => simp [hget] at h
  | some job =>
    by_cases hpending : job.status = .pending
    · simp [hget, hpending, hready] at h
    · simp [hget, hpending] at h

theorem promotes_iff_ready {db : Database} {now : Moment} {job : Job} (hmem : job ∈ db.jobs)
    (hpending : job.status = .pending) :
    (∃ result, promotePendingToReady db job.id now = .ok result) ↔
      (evaluateJobReadiness db job.id now).1 = true := by
  have hget : db.jobs.get? job.id = some job := Table.get?_eq_some_iff.2 ⟨hmem, rfl⟩
  constructor
  · rintro ⟨result, h⟩
    exact ready_of_promoted h
  · intro hready
    exact promotePendingToReady_ok hget hpending hready

/-! ## A pass -/

/-- A refused promotion leaves the database, so the rows are asked in the same one until the first of
them is promoted. -/
theorem promoteEach_promotes_iff {db : Database} {now : Moment} {due : List Job}
    (hdue : ∀ job ∈ due, job ∈ db.jobs ∧ job.status = .pending) :
    (∃ db' promoted, promoteEach now db due = .ok (db', promoted) ∧ promoted ≠ []) ↔
      ∃ job ∈ due, (evaluateJobReadiness db job.id now).1 = true := by
  induction due with
  | nil =>
    constructor
    · rintro ⟨db', promoted, h, hne⟩
      cases h
      exact absurd rfl hne
    · rintro ⟨job, hjob, _⟩
      cases hjob
  | cons job rest ih =>
    have hjob := hdue job (List.mem_cons_self ..)
    have hrest := ih (fun other hother => hdue other (List.mem_cons_of_mem _ hother))
    cases hone : promotePendingToReady db job.id now with
    | ok result =>
      rcases result with ⟨db₁, first⟩
      rcases promoteEach_ok db₁ now rest with ⟨db₂, more, hmore⟩
      have hready := (promotes_iff_ready hjob.1 hjob.2).1 ⟨_, hone⟩
      refine iff_of_true ?_ ⟨job, List.mem_cons_self .., hready⟩
      exact ⟨db₂, first :: more, by simp [promoteEach, hone, hmore, bind, Except.bind],
        List.cons_ne_nil _ _⟩
    | error error =>
      have hnot : ¬ (evaluateJobReadiness db job.id now).1 = true := by
        intro hready
        rcases (promotes_iff_ready hjob.1 hjob.2).2 hready with ⟨result, hresult⟩
        rw [hone] at hresult
        cases hresult
      have hpassed : promoteEach now db (job :: rest) = promoteEach now db rest := by
        simp [promoteEach, hone, promotePendingToReady_error hone]
      rw [hpassed, hrest]
      constructor
      · rintro ⟨other, hother, hready⟩
        exact ⟨other, List.mem_cons_of_mem _ hother, hready⟩
      · rintro ⟨other, hother, hready⟩
        rcases List.mem_cons.1 hother with rfl | hother
        · exact absurd hready hnot
        · exact ⟨other, hother, hready⟩

theorem mem_dueJobs {db : Database} {now : Moment} {limit : Nat} {job : Job}
    (h : job ∈ dueJobs db now limit) :
    job ∈ db.jobs ∧ job.status = .pending ∧ job.scheduledAt ≤ now := by
  rcases Table.mem_of_mem_select h with ⟨hmem, hp⟩
  simp only [Bool.and_eq_true, decide_eq_true_eq] at hp
  exact ⟨hmem, hp⟩

/-- A due job that is ready leads to a promotion exactly when one of the oldest `limit` due rows is
ready. -/
theorem promotes_due_iff (db : Database) (now : Moment) (limit : Nat) :
    ((∃ job, ReadyDue db now job) → PromotesOne db now limit) ↔
      ((∃ job, ReadyDue db now job) → ∃ job ∈ dueJobs db now limit, ReadyDue db now job) := by
  have hpass := @promoteEach_promotes_iff db now (dueJobs db now limit)
    (fun job hjob => ⟨(mem_dueJobs hjob).1, (mem_dueJobs hjob).2.1⟩)
  have htaken : PromotesOne db now limit ↔ ∃ job ∈ dueJobs db now limit, ReadyDue db now job := by
    unfold PromotesOne promoteDueJobs
    rw [hpass]
    constructor
    · rintro ⟨job, hjob, hready⟩
      have hmem := mem_dueJobs hjob
      exact ⟨job, hjob, hmem.1, hmem.2.1, hmem.2.2, hready⟩
    · rintro ⟨job, hjob, hready⟩
      exact ⟨job, hjob, hready.ready⟩
  rw [htaken]

/-- The older job waits for the younger one, which waits for nothing. -/
def blockedHeadDatabase : Database :=
  { sampleDatabase (sampleJob .pending .safe "A07" 3) (by simp [sampleJob, Job.WithinBudget]) with
    jobs := ⟨[sampleJob .pending .safe "A07" 3,
      { sampleJob .pending .safe "A07" 3 with
        id := 2
        scheduledAt := 1
        idempotencyKey := "ProductBuildJob:7:2" }], by simp [sampleJob]⟩
    dependencies := [⟨1, 2, none⟩]
    budget := by simp [sampleJob, Job.WithinBudget] }

/-- With a limit of one the pass takes the older row only, and the ready one stays `PENDING`. -/
theorem blocked_head_promotes_none :
    (∃ job, ReadyDue blockedHeadDatabase 1 job) ∧ ¬ PromotesOne blockedHeadDatabase 1 1 := by
  constructor
  · refine ⟨{ sampleJob .pending .safe "A07" 3 with
      id := 2
      scheduledAt := 1
      idempotencyKey := "ProductBuildJob:7:2" }, ?_, rfl, by decide, by decide +kernel⟩
    exact List.mem_cons_of_mem _ (List.mem_singleton_self _)
  · have hnone : ((promoteDueJobs blockedHeadDatabase 1 1).toOption.map
        (fun result => result.2.length)) = some 0 := by decide +kernel
    rintro ⟨db', promoted, h, hne⟩
    rw [h] at hnone
    have hlength : promoted.length = 0 := Option.some.inj hnone
    exact hne (List.length_eq_zero_iff.1 hlength)

end Orchestration
end MoneyMachine
