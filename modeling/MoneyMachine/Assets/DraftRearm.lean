import MoneyMachine.Assets.DraftListingSuccessor

/-!
# DraftRearm — announcing a product again

`_record_ready_draft` asks the general transition table whether the draft job may become `READY`.
The table has that edge for a new job, but also for a `FAILED` job that is retried and for a
`BLOCKED` one that is resolved; the retry and the reconciliation have preconditions of their own,
and an announcement has none.

`not_rearmed_iff` says over all runs of operations and announcements when no announcement puts a
draft job back to work.
-/

namespace MoneyMachine
namespace Assets

open MoneyMachine.Domain
open MoneyMachine.Library
open MoneyMachine.Persistence
open MoneyMachine.Orchestration

/-! ## The law -/

/-- The status of a product's draft job. -/
def draftStatus (digest : String → Uuid) (productId : Uuid) (db : Database) : Option JobStatus :=
  (db.jobs.get? (draftJobId digest productId)).map Job.status

/-- An announcement changes the status of the draft job only where there was no job, or from
`PENDING` to `READY`. -/
def NotRearmed (digest : String → Uuid) (productId : Uuid) (db : Database) (call : DraftCall) :
    Prop :=
  let before := draftStatus digest productId db
  let after := draftStatus digest productId (draftCallStep digest productId db call)
  after = before ∨ before = none ∨ (before = some .pending ∧ after = some .ready)

/-- The gate refuses the call, or the draft job neither failed nor is blocked. -/
def LeavesSpentJob (digest : String → Uuid) (productId : Uuid) (db : Database) (call : DraftCall) :
    Prop :=
  (∃ message, call.prepared = .error message) ∨
    (draftStatus digest productId db ≠ some .failed ∧
      draftStatus digest productId db ≠ some .blocked)

/-! ## One announcement -/

section Step

variable {digest : String → Uuid} {productId : Uuid} {db : Database} {call : DraftCall}

/-- A call on a draft job that is not `READY`, whatever the event log: the job is moved where the
table has the edge, and the call is refused otherwise. -/
theorem recordReadyDraft_existing {job : Job} (listingId : Int) (call : DraftCall)
    (hget : db.jobs.get? (draftJobId digest productId) = some job) (hnot : job.status ≠ .ready) :
    ∃ db₁, db₁.jobs = db.jobs ∧
      recordReadyDraft digest productId db listingId call =
        readyEach call.occurredAt db₁ [draftJobId digest productId] := by
  have hid : job.id = draftJobId digest productId := (Table.get?_eq_some_iff.1 hget).2
  cases hrecorded : completionRecorded productId db call with
  | true =>
    refine ⟨db, rfl, ?_⟩
    simp [recordReadyDraft, hget, hnot, dispatch_recorded hrecorded, Except.mapError, bind,
      Except.bind, hid]
  | false =>
    have hget' : (withCompletion db productId listingId call).jobs.get?
        (draftJobId digest productId) = some job := hget
    refine ⟨withCompletion db productId listingId call, rfl, ?_⟩
    simp [recordReadyDraft, hget, hnot, dispatch_unrecorded hrecorded,
      createEach_existing hget', Except.mapError, bind, Except.bind, hid]

/-- After a prepared call the job is `READY` exactly where the table has the edge. -/
theorem draftStatus_step {job : Job} {listingId : Int}
    (hget : db.jobs.get? (draftJobId digest productId) = some job)
    (hprepared : call.prepared = .ok listingId) :
    draftStatus digest productId (draftCallStep digest productId db call) =
      some (if JobStatus.ready ∈ jobTransitions job.status then .ready else job.status) := by
  by_cases hready : job.status = .ready
  · -- The call returns before it looks at the event log.
    have hsame : draftCallStep digest productId db call = db := by
      simp [draftCallStep, createReadyDraftListingJob, hprepared, recordReadyDraft, hget, hready]
    rw [hsame, draftStatus, hget]
    simp [hready]
  · rcases recordReadyDraft_existing listingId call hget hready with ⟨db₁, hjobs, hcall⟩
    have hget₁ : db₁.jobs.get? (draftJobId digest productId) = some job := by rw [hjobs, hget]
    rcases readyEach_singleton call.occurredAt hget₁ with
      ⟨hedge, db', hid, hmoved, hupd⟩ | ⟨hedge, message, hraise⟩
    · have hstep : draftCallStep digest productId db call = db' := by
        simp [draftCallStep, createReadyDraftListingJob, hprepared, hcall, hmoved]
      rw [hstep, draftStatus, Database.get?_updateJob hupd hget₁]
      simp [readyColumns, hedge]
    · have hsame : draftCallStep digest productId db call = db := by
        simp [draftCallStep, createReadyDraftListingJob, hprepared, hcall, hraise]
      rw [hsame, draftStatus, hget]
      simp [hedge]

/-- An announcement leaves a job that has run exactly when it is refused, or the job neither failed
nor is blocked. -/
theorem draftCallStep_notRearmed_iff :
    NotRearmed digest productId db call ↔ LeavesSpentJob digest productId db call := by
  cases hprepared : call.prepared with
  | error message =>
    have hsame : draftCallStep digest productId db call = db := by
      simp [draftCallStep, createReadyDraftListingJob, hprepared]
    refine iff_of_true ?_ (Or.inl ⟨message, hprepared⟩)
    simp [NotRearmed, hsame]
  | ok listingId =>
    cases hget : db.jobs.get? (draftJobId digest productId) with
    | none => simp [NotRearmed, LeavesSpentJob, draftStatus, hget]
    | some job =>
      have hbefore : draftStatus digest productId db = some job.status := by
        simp [draftStatus, hget]
      have hafter := draftStatus_step hget hprepared
      simp only [NotRearmed, LeavesSpentJob, hafter, hbefore, hprepared]
      cases job.status <;> simp [jobTransitions]

end Step

/-! ## Runs -/

/-- What happens to a database: an operation of the orchestration layer, or an announcement. -/
inductive ProductStep
  | op (op : Op)
  | announce (call : DraftCall)

section Runs

variable (digest : String → Uuid) (productId : Uuid)

def productStep (db : Database) : ProductStep → Database
  | .op op => step digest db op
  | .announce call => draftCallStep digest productId db call

/-- A condition on the announcements of a run. -/
def OnAnnouncement (ok : Database → DraftCall → Prop) (db : Database) : ProductStep → Prop
  | .op _ => True
  | .announce call => ok db call

/-- In every run from every state: no announcement puts the draft job back to work exactly when
none meets a job that failed or is blocked. -/
theorem not_rearmed_iff (db : Database) (steps : List ProductStep) :
    Along (productStep digest productId) (OnAnnouncement (NotRearmed digest productId)) db steps ↔
      Along (productStep digest productId) (OnAnnouncement (LeavesSpentJob digest productId)) db
        steps := by
  refine along_congr ?_
  intro db s
  cases s with
  | op op => exact Iff.rfl
  | announce call => exact draftCallStep_notRearmed_iff

end Runs

/-! ## A failed draft -/

/-- An active workflow with no job and no event. -/
def unannouncedDatabase : Database :=
  { shops := []
    workflows := ⟨[sampleWorkflow], sampleWorkflow_nodup⟩
    jobs := ⟨[], List.nodup_nil⟩
    dependencies := []
    idempotencyRecords := ⟨[], List.nodup_nil⟩
    effectAttempts := []
    events := []
    budget := noJob_budget }

/-- The write of a draft whose answer was lost. -/
def lostDraftEffect : EffectAttempt :=
  { idempotencyKey := productKey 20 draftJobType
    jobId := draftJobId sampleDigest 20
    agentRunId := none
    provider := "etsy"
    operation := "etsy.create_draft"
    effectState := .unknown
    providerObjectId := none
    reconciliationAttempt := 0
    observedAt := minutes 6
    recordedAt := minutes 6 }

/-- Product 20 is announced, a worker claims the draft job, loses the answer of its write and
releases the job as `FAILED`. -/
def failedDraftRun : List ProductStep :=
  [.announce (sampleCall 7),
    .op (.call (.claimReadyJob unlocked "worker-1" (minutes 5) leaseDuration) rfl),
    .op (.call (.recordEffectAttempt lostDraftEffect) rfl),
    .op (.call (.releaseLease (draftJobId sampleDigest 20) "worker-1" (minutes 7) .failed) rfl)]

def failedDraftDatabase : Database :=
  runFrom (productStep sampleDigest 20) unannouncedDatabase failedDraftRun

/-- Announced again, the failed job is `READY`, and its effect is as unknown as before. -/
theorem failed_draft_rearmed :
    draftStatus sampleDigest 20 failedDraftDatabase = some .failed ∧
      Engine.effectResolved failedDraftDatabase (draftJobId sampleDigest 20) = false ∧
      ¬ ∀ (digest : String → Uuid) (productId : Uuid) (db : Database) (steps : List ProductStep),
        Along (productStep digest productId) (OnAnnouncement (NotRearmed digest productId)) db
          steps := by
  have hbefore : draftStatus sampleDigest 20 failedDraftDatabase = some .failed := by
    decide +kernel
  have hafter : draftStatus sampleDigest 20
      (draftCallStep sampleDigest 20 failedDraftDatabase (sampleCall 7)) = some .ready := by
    decide +kernel
  refine ⟨hbefore, by decide +kernel, ?_⟩
  intro h
  have hrun := h sampleDigest 20 unannouncedDatabase (failedDraftRun ++ [.announce (sampleCall 7)])
  have hlast : NotRearmed sampleDigest 20 failedDraftDatabase (sampleCall 7) :=
    (along_append.1 hrun).2.1
  unfold NotRearmed at hlast
  rw [hbefore, hafter] at hlast
  revert hlast
  decide

end Assets
end MoneyMachine
