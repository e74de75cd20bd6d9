import MoneyMachine.Orchestration.JobChanges

/-!
# PortfolioDecisions — dispatching a decision and its `MULTIPLY` successor

The first dispatch of a `MULTIPLY` decision sends the winner back to `OBSERVING`, creates the
successor workflow with its entry job, and records the decision.  A repeated dispatch finds the
record and creates nothing.  What it returns is not the entry job but *some* job of the successor
workflow: the query has a `LIMIT 1` and no order.

`AnyRow` is such a query; `repeated_dispatch_iff` says when every one of them answers as the first
dispatch did.
-/

namespace MoneyMachine
namespace Orchestration

open MoneyMachine.Domain
open MoneyMachine.Library
open MoneyMachine.Persistence

/-! ## Decisions -/

/-- The part of `PortfolioDecision` that is dispatched, with what its validator promises. -/
structure PortfolioDecision where
  decisionId : Uuid
  workflowId : Uuid
  decision : DecisionType
  successorWorkflowId : Option Uuid
  successorSpecId : Option Uuid
  multiply_valid : decision = .multiply → successorWorkflowId.isSome = true ∧
    successorSpecId.isSome = true ∧ successorWorkflowId ≠ some workflowId
  other_valid : decision ≠ .multiply → successorWorkflowId = none ∧ successorSpecId = none

section Accessors

variable (d : PortfolioDecision) (h : d.decision = .multiply)

def PortfolioDecision.successorWorkflow : Uuid :=
  d.successorWorkflowId.get (d.multiply_valid h).1

def PortfolioDecision.successorSpec : Uuid :=
  d.successorSpecId.get (d.multiply_valid h).2.1

end Accessors

/-- `LIMIT 1` without an order: some row of the result, when it has one. -/
structure AnyRow where
  pick : List Job → Option Job
  mem : ∀ {rows : List Job} {job : Job}, pick rows = some job → job ∈ rows
  isSome : ∀ {rows : List Job}, rows ≠ [] → (pick rows).isSome = true

/-! ## Creating the successor -/

/-- The text `_derive_job_id` hashes. -/
def entryIdInput (workflowId specId : Uuid) (jobType : String) : String :=
  uuidStr workflowId ++ ":" ++ uuidStr specId ++ ":" ++ jobType

/-- The row of `_create_successor_entry_job`. -/
def entryJob (jobId successorWorkflowId successorSpecId : Uuid) (occurredAt clock : Moment) :
    NewJob :=
  { id := jobId
    workflowId := successorWorkflowId
    jobType := "DedupeJob"
    objectType := "product_specs"
    objectId := successorSpecId
    ownerAgentId := "A06"
    input := .obj [("successor_spec_id", .str (uuidStr successorSpecId))]
    successContract := .obj [("output_model", .str "DedupeResult")]
    scheduledAt := occurredAt
    maxAttempts := 3
    idempotencyKey := "DEDUPE:" ++ uuidStr successorSpecId
    sideEffectClass := .none
    retryClass := .safe
    allowedMode := .simulation
    createdAt := clock }

/-- Add a workflow unless its id is taken. -/
def insertWorkflow (db : Database) (workflow : WorkflowRun) : Except OrchestrationError Database :=
  match db.workflows.insert? workflow with
  | none => .error (.integrity "workflow_runs_pkey")
  | some workflows => .ok { db with workflows := workflows }

/-- `parent_workflow.product_state = OBSERVING`. -/
def observeWorkflow (db : Database) (workflowId : Uuid) : Database :=
  { db with
    workflows := db.workflows.modify (fun workflow => decide (workflow.id = workflowId))
      (fun workflow => { workflow with productState := .observing }) (fun _ => rfl) }

/-- `_create_successor_workflow`. -/
def createSuccessorWorkflow (db : Database) (parentState : ProductLifecycleState)
    (parentWorkflowId successorWorkflowId shopId : Uuid) : Except OrchestrationError Database := do
  -- The guard is repeated here, so that the helper cannot be called around it.
  let entryState ← requireSuccessorSpawn parentState parentWorkflowId successorWorkflowId
  insertWorkflow db
    { id := successorWorkflowId
      shopId := shopId
      productState := entryState
      completedAt := none }

section Dispatch

variable (digest : String → Uuid) (clock : Moment)

/-- `create_multiply_successor`. -/
def createMultiplySuccessor (db : Database) (d : PortfolioDecision) (occurredAt : Moment) :
    Except OrchestrationError (Database × List Uuid) :=
  if h : d.decision = .multiply then
    match db.workflows.get? d.workflowId with
    | none => .error (.valueError ("parent workflow " ++ uuidStr d.workflowId ++ " not found"))
    | some parent => do
        let _ ← requireSuccessorSpawn parent.productState d.workflowId (d.successorWorkflow h)
        requireProductTransition parent.productState .observing
        let db₁ ← createSuccessorWorkflow (observeWorkflow db d.workflowId) parent.productState
          d.workflowId (d.successorWorkflow h) parent.shopId
        let jobId := digest (entryIdInput (d.successorWorkflow h) (d.successorSpec h) "DedupeJob")
        let db₂ ← db₁.insertJob
          (entryJob jobId (d.successorWorkflow h) (d.successorSpec h) occurredAt clock)
        .ok (db₂, [jobId])
  else
    .ok (db, [])

/-- `events.append`, where a recorded key is taken as a repetition. -/
def appendOnce (db : Database) (event : Event) : Database :=
  if eventRecorded db event.dedupeKey then
    db
  else
    { db with events := db.events ++ [event] }

def winnerKey (d : PortfolioDecision) (parentJobId : Uuid) : String :=
  dedupeKey .winnerDetected d.decisionId (some d.workflowId) (some parentJobId)

def winnerEvent (d : PortfolioDecision) (parentJobId : Uuid) (occurredAt : Moment) : Event :=
  { eventName := .winnerDetected
    aggregateType := "decisions"
    aggregateId := d.decisionId
    workflowId := some d.workflowId
    jobId := some parentJobId
    payload := .obj [("decision", .str d.decision.value)]
    dedupeKey := winnerKey d parentJobId
    occurredAt := occurredAt }

def successorCreatedEvent (d : PortfolioDecision) (h : d.decision = .multiply) (jobId : Uuid)
    (occurredAt : Moment) : Event :=
  { eventName := .successorCreated
    aggregateType := "product_specs"
    aggregateId := d.successorSpec h
    workflowId := some (d.successorWorkflow h)
    jobId := some jobId
    payload := .obj
      [("parent_workflow_id", .str (uuidStr d.workflowId)),
        ("parent_decision_id", .str (uuidStr d.decisionId))]
    dedupeKey := "SUCCESSOR_CREATED:" ++ uuidStr d.decisionId ++ ":" ++
      uuidStr (d.successorWorkflow h) ++ ":" ++ uuidStr jobId
    occurredAt := occurredAt }

/-- The jobs of a workflow. -/
def jobsOfWorkflow (db : Database) (workflowId : Uuid) : List Job :=
  db.jobs.rows.filter (fun job => decide (job.workflowId = workflowId))

/-- `dispatch_decision`. -/
def dispatchDecision (anyRow : AnyRow) (db : Database) (d : PortfolioDecision) (parentJobId : Uuid)
    (occurredAt : Moment) : Except OrchestrationError (Database × List Uuid) :=
  if eventRecorded db (winnerKey d parentJobId) ∧ d.decision = .multiply then
    -- Dispatched before: look for the job it created.
    match d.successorWorkflowId with
    | none => .ok (db, [])
    | some successorWorkflowId =>
      .ok (db, ((anyRow.pick (jobsOfWorkflow db successorWorkflowId)).map Job.id).toList)
  else do
    let (db₁, jobIds) ← createMultiplySuccessor digest clock db d occurredAt
    let db₂ := appendOnce db₁ (winnerEvent d parentJobId occurredAt)
    if h : d.decision = .multiply then
      match jobIds with
      | [] => .ok (db₂, [])
      | jobId :: rest =>
        .ok (appendOnce db₂ (successorCreatedEvent d h jobId occurredAt), jobId :: rest)
    else
      .ok (db₂, jobIds)

end Dispatch

/-! ## The first dispatch -/

section First

variable {digest : String → Uuid} {clock : Moment} {anyRow : AnyRow} {db db' : Database}
  {d : PortfolioDecision} {parentJobId : Uuid} {occurredAt : Moment} {jobIds : List Uuid}

theorem eventRecorded_append {events : List Event} {key : String}
    (h : eventRecorded db key = true) :
    eventRecorded { db with events := db.events ++ events } key = true := by
  unfold eventRecorded at h ⊢
  rw [List.any_append, h, Bool.true_or]

theorem eventRecorded_appendOnce {event : Event} {key : String} (h : eventRecorded db key = true) :
    eventRecorded (appendOnce db event) key = true := by
  unfold appendOnce
  split
  · exact h
  · exact eventRecorded_append h

theorem appendOnce_recorded (db : Database) (event : Event) :
    eventRecorded (appendOnce db event) event.dedupeKey = true := by
  unfold appendOnce
  split
  · rename_i h
    exact h
  · simp [eventRecorded]

/-- A created successor has its entry job, and nothing else is returned. -/
theorem createMultiplySuccessor_entry (hmultiply : d.decision = .multiply)
    (h : createMultiplySuccessor digest clock db d occurredAt = .ok (db', jobIds)) :
    ∃ job ∈ db'.jobs, job.workflowId = d.successorWorkflow hmultiply ∧ jobIds = [job.id] := by
  unfold createMultiplySuccessor at h
  rw [dif_pos hmultiply] at h
  cases hget : db.workflows.get? d.workflowId with
  | none => simp [hget] at h
  | some parent =>
    rw [hget] at h
    rcases bind_eq_ok.1 h with ⟨_, _, h⟩
    rcases bind_eq_ok.1 h with ⟨_, _, h⟩
    rcases bind_eq_ok.1 h with ⟨db₁, _, h⟩
    rcases bind_eq_ok.1 h with ⟨db₂, hinsert, h⟩
    cases h
    exact ⟨_, Database.insertJob_mem hinsert, rfl, rfl⟩

theorem mem_jobsOfWorkflow {workflowId : Uuid} {job : Job} :
    job ∈ jobsOfWorkflow db workflowId ↔ job ∈ db.jobs ∧ job.workflowId = workflowId := by
  simp [jobsOfWorkflow, Table.mem_def]

theorem appendOnce_jobs (db : Database) (event : Event) : (appendOnce db event).jobs = db.jobs := by
  unfold appendOnce
  split <;> rfl

/-- Once a `MULTIPLY` decision was dispatched it is on record, and what was returned is one job of
the successor workflow, or nothing when it has none. -/
theorem dispatchDecision_recorded (hmultiply : d.decision = .multiply)
    (h : dispatchDecision digest clock anyRow db d parentJobId occurredAt = .ok (db', jobIds)) :
    eventRecorded db' (winnerKey d parentJobId) = true ∧
      ((jobsOfWorkflow db' (d.successorWorkflow hmultiply) = [] ∧ jobIds = []) ∨
        ∃ job ∈ jobsOfWorkflow db' (d.successorWorkflow hmultiply), jobIds = [job.id]) := by
  unfold dispatchDecision at h
  split at h
  · rename_i hrecorded
    have hsome : d.successorWorkflowId = some (d.successorWorkflow hmultiply) := by
      simp [PortfolioDecision.successorWorkflow]
    rw [hsome] at h
    cases h
    refine ⟨hrecorded.1, ?_⟩
    cases hpick : anyRow.pick (jobsOfWorkflow db (d.successorWorkflow hmultiply)) with
    | none =>
      refine Or.inl ⟨?_, rfl⟩
      by_contra hne
      simpa [hpick] using anyRow.isSome hne
    | some job => exact Or.inr ⟨job, anyRow.mem hpick, rfl⟩
  · rcases bind_eq_ok.1 h with ⟨⟨db₁, created⟩, hcreate, h⟩
    rcases createMultiplySuccessor_entry hmultiply hcreate with ⟨job, hjob, hworkflow, rfl⟩
    have hwinner := appendOnce_recorded db₁ (winnerEvent d parentJobId occurredAt)
    dsimp only at h
    cases h
    refine ⟨eventRecorded_appendOnce hwinner, Or.inr ⟨job, ?_, rfl⟩⟩
    rw [mem_jobsOfWorkflow, appendOnce_jobs, appendOnce_jobs]
    exact ⟨hjob, hworkflow⟩

/-- The decision stays on record in every later state. -/
theorem run_recorded (digest : String → Uuid) {key : String} (h : eventRecorded db key = true)
    (ops : List Op) :
    eventRecorded (runFrom (step digest) db ops) key = true := by
  refine runFrom_invariant (I := fun db => eventRecorded db key = true) ?_ h ops
  intro db₁ op hdb₁
  refine step_induction (I := fun db => eventRecorded db key = true) ?_ hdb₁
  intro db₂ db₃ w _ hdb₂ hw
  rcases perform_events hw with ⟨new, hevents⟩
  unfold eventRecorded at hdb₂ ⊢
  rw [hevents, List.any_append, hdb₂, Bool.true_or]

/-- A job stays in its workflow. -/
theorem run_keeps_job (digest : String → Uuid) {workflowId jobId : Uuid}
    (h : jobId ∈ (jobsOfWorkflow db workflowId).map Job.id) (ops : List Op) :
    jobId ∈ (jobsOfWorkflow (runFrom (step digest) db ops) workflowId).map Job.id := by
  have hjobs : ∀ db : Database, jobId ∈ (jobsOfWorkflow db workflowId).map Job.id ↔
      ∃ job ∈ db.jobs, job.id = jobId ∧ job.workflowId = workflowId := by
    intro db
    simp only [List.mem_map, mem_jobsOfWorkflow, and_assoc, and_comm]
  rw [hjobs] at h ⊢
  refine runFrom_invariant
    (I := fun db : Database =>
      ∃ job ∈ db.jobs, job.id = jobId ∧ job.workflowId = workflowId) ?_ h ops
  intro db₁ op hdb₁
  refine step_exists_job ?_ hdb₁
  intro _ _ job job' _ _ _ hworkflow hchange
  rw [hchange.frame.2.1, hworkflow]

end First

/-! ## The repetition -/

/-- The query in the order of the table, and in the opposite one. -/
def AnyRow.first : AnyRow :=
  { pick := List.head?
    mem := fun h => List.mem_of_head? h
    isSome := fun h => by simpa using h }

def AnyRow.last : AnyRow :=
  { pick := List.getLast?
    mem := fun h => List.mem_of_getLast? h
    isSome := fun h => by simpa using h }

section Repetition

variable {digest : String → Uuid} {db : Database} {d : PortfolioDecision} {parentJobId : Uuid}

theorem AnyRow.pick_nil (anyRow : AnyRow) : anyRow.pick [] = none := by
  cases h : anyRow.pick [] with
  | none => rfl
  | some job => simpa using anyRow.mem h

theorem AnyRow.pick_singleton (anyRow : AnyRow) (job : Job) : anyRow.pick [job] = some job := by
  rcases Option.isSome_iff_exists.1 (anyRow.isSome (List.cons_ne_nil job [])) with ⟨picked, h⟩
  have hsame : picked = job := by simpa using anyRow.mem h
  rw [h, hsame]

theorem jobsOfWorkflow_nodup (workflowId : Uuid) :
    ((jobsOfWorkflow db workflowId).map Job.id).Nodup :=
  (List.Sublist.map Job.id List.filter_sublist).nodup db.jobs.nodup

/-- Every query returns the same ids exactly when there is at most one row, and these are its ids. -/
theorem anyRow_iff {rows : List Job} (hnodup : (rows.map Job.id).Nodup) {ids : List Uuid}
    (hids : ids.length ≤ 1) :
    (∀ anyRow : AnyRow, ((anyRow.pick rows).map Job.id).toList = ids) ↔ rows.map Job.id = ids := by
  cases rows with
  | nil =>
    constructor
    · intro h
      simpa [AnyRow.pick_nil] using h AnyRow.first
    · intro h anyRow
      simpa [anyRow.pick_nil] using h
  | cons job rest =>
    cases rest with
    | nil =>
      constructor
      · intro h
        simpa [AnyRow.first] using h AnyRow.first
      · intro h anyRow
        simpa [anyRow.pick_singleton] using h
    | cons other rest =>
      constructor
      · intro h
        -- The first and the last row have different ids.
        have hfirst : [job.id] = ids := by simpa [AnyRow.first] using h AnyRow.first
        have hlast : [((other :: rest).getLast (by simp)).id] = ids := by
          simpa [AnyRow.last, List.getLast?_eq_some_getLast] using h AnyRow.last
        have hsame : job.id = ((other :: rest).getLast (by simp)).id := by
          simpa using hfirst.trans hlast.symm
        have hmem : job.id ∈ (other :: rest).map Job.id := by
          rw [hsame]
          exact List.mem_map_of_mem (List.getLast_mem _)
        exact absurd hmem (List.nodup_cons.1 hnodup).1
      · intro h
        have hlength := congrArg List.length h
        simp only [List.length_map, List.length_cons] at hlength
        omega

/-- A decision on record is answered from the jobs of the successor workflow. -/
theorem dispatchDecision_again (hmultiply : d.decision = .multiply)
    (hrecorded : eventRecorded db (winnerKey d parentJobId) = true) (clock : Moment)
    (anyRow : AnyRow) (occurredAt : Moment) :
    dispatchDecision digest clock anyRow db d parentJobId occurredAt =
      .ok (db, ((anyRow.pick (jobsOfWorkflow db (d.successorWorkflow hmultiply))).map
        Job.id).toList) := by
  have hsome : d.successorWorkflowId = some (d.successorWorkflow hmultiply) := by
    simp [PortfolioDecision.successorWorkflow]
  unfold dispatchDecision
  rw [if_pos ⟨hrecorded, hmultiply⟩, hsome]

end Repetition

/-- The workflow has one job at most, and as many as it had before. -/
def NoFurtherJob (before after : Database) (workflowId : Uuid) : Prop :=
  (jobsOfWorkflow after workflowId).length ≤ 1 ∧
    (jobsOfWorkflow after workflowId).length = (jobsOfWorkflow before workflowId).length

instance (before after : Database) (workflowId : Uuid) :
    Decidable (NoFurtherJob before after workflowId) :=
  inferInstanceAs (Decidable (_ ∧ _))

/-- Where jobs only came in, the ids are those returned exactly when none came in. -/
theorem noFurtherJob_iff {before after : Database} {workflowId : Uuid} {jobIds : List Uuid}
    (hreturned : (jobsOfWorkflow before workflowId = [] ∧ jobIds = []) ∨
      ∃ job ∈ jobsOfWorkflow before workflowId, jobIds = [job.id])
    (hkept : ∀ jobId ∈ (jobsOfWorkflow before workflowId).map Job.id,
      jobId ∈ (jobsOfWorkflow after workflowId).map Job.id) :
    (jobsOfWorkflow after workflowId).map Job.id = jobIds ↔
      NoFurtherJob before after workflowId := by
  have hle : (jobsOfWorkflow before workflowId).length ≤ (jobsOfWorkflow after workflowId).length := by
    simpa using ((jobsOfWorkflow_nodup workflowId).subperm hkept).length_le
  rcases hreturned with ⟨hnone, rfl⟩ | ⟨job, hjob, rfl⟩
  · constructor
    · intro h
      have hempty := List.map_eq_nil_iff.1 h
      simp [NoFurtherJob, hnone, hempty]
    · rintro ⟨-, hsame⟩
      rw [hnone, List.length_nil] at hsame
      simp [List.length_eq_zero_iff.1 hsame]
  · have hbefore : 0 < (jobsOfWorkflow before workflowId).length := List.length_pos_of_mem hjob
    have hafter := hkept job.id (List.mem_map_of_mem hjob)
    constructor
    · intro h
      have hlength := congrArg List.length h
      simp only [List.length_map, List.length_singleton] at hlength
      exact ⟨by omega, by omega⟩
    · rintro ⟨hone, -⟩
      have hlength : (jobsOfWorkflow after workflowId).length = 1 := by omega
      rcases List.length_eq_one_iff.1 hlength with ⟨row, hrow⟩
      rw [hrow, List.map_singleton, List.mem_singleton] at hafter
      rw [hrow, List.map_singleton, hafter]

/-- After the first dispatch of a `MULTIPLY` decision and any further operations, dispatching it
again never adds a row, and it returns what the first dispatch returned, whichever row the query
gives, exactly when the successor workflow got no other job. -/
theorem repeated_dispatch_iff (digest : String → Uuid) {d : PortfolioDecision}
    (hmultiply : d.decision = .multiply) {db db₁ : Database} {parentJobId : Uuid}
    {clock occurredAt : Moment} {anyRow : AnyRow} {jobIds : List Uuid}
    (hfirst : dispatchDecision digest clock anyRow db d parentJobId occurredAt = .ok (db₁, jobIds))
    (ops : List Op) :
    (∀ clock' anyRow' occurredAt', ∃ jobIds',
      dispatchDecision digest clock' anyRow' (runFrom (step digest) db₁ ops) d parentJobId
        occurredAt' = .ok (runFrom (step digest) db₁ ops, jobIds')) ∧
    ((∀ clock' anyRow' occurredAt',
      dispatchDecision digest clock' anyRow' (runFrom (step digest) db₁ ops) d parentJobId
        occurredAt' = .ok (runFrom (step digest) db₁ ops, jobIds)) ↔
      NoFurtherJob db₁ (runFrom (step digest) db₁ ops) (d.successorWorkflow hmultiply)) := by
  rcases dispatchDecision_recorded hmultiply hfirst with ⟨hrecorded, hreturned⟩
  have hlater := run_recorded digest hrecorded ops
  have hlength : jobIds.length ≤ 1 := by
    rcases hreturned with ⟨_, rfl⟩ | ⟨job, _, rfl⟩ <;> simp
  refine ⟨?_, ?_⟩
  · intro clock' anyRow' occurredAt'
    exact ⟨_, dispatchDecision_again hmultiply hlater clock' anyRow' occurredAt'⟩
  · rw [← noFurtherJob_iff hreturned (fun _ hjob => run_keeps_job digest hjob ops),
      ← anyRow_iff (jobsOfWorkflow_nodup _) hlength]
    constructor
    · intro h anyRow'
      have hagain := h clock anyRow' occurredAt
      rw [dispatchDecision_again hmultiply hlater] at hagain
      exact (Prod.mk.inj (Except.ok.inj hagain)).2
    · intro h clock' anyRow' occurredAt'
      rw [dispatchDecision_again hmultiply hlater, h anyRow']

/-! ## A winner with one successor -/

def winnerDecision : PortfolioDecision :=
  { decisionId := 7
    workflowId := sampleWorkflow.id
    decision := .multiply
    successorWorkflowId := some 20
    successorSpecId := some 30
    multiply_valid := fun _ => ⟨rfl, rfl, by decide⟩
    other_valid := fun h => absurd rfl h }

/-- The winner waits in `SUCCESSOR_SPEC` for its decision. -/
def winnerDatabase : Database :=
  { sampleDatabase (sampleJob .succeeded .safe "A17" 3) (by simp [sampleJob, Job.WithinBudget]) with
    workflows := ⟨[{ sampleWorkflow with productState := .successorSpec }], by simp⟩ }

/-- A hash that tells apart the texts of the runs below. -/
def lengthDigest : String → Uuid := fun text => BitVec.ofNat 128 text.length

/-- The state after the first dispatch. -/
def spawnedDatabase : Database :=
  match dispatchDecision lengthDigest 0 AnyRow.first winnerDatabase winnerDecision 1 0 with
  | .ok (db, _) => db
  | .error _ => winnerDatabase

theorem dispatchDecision_winner :
    dispatchDecision lengthDigest 0 AnyRow.first winnerDatabase winnerDecision 1 0 =
      .ok (spawnedDatabase, [83]) := by
  have hids : (dispatchDecision lengthDigest 0 AnyRow.first winnerDatabase winnerDecision 1 0).map
      Prod.snd = .ok [83] := by
    decide +kernel
  rcases map_eq_ok.1 hids with ⟨⟨db, jobIds⟩, hdispatch, hjobs⟩
  have hspawned : spawnedDatabase = db := by
    unfold spawnedDatabase
    rw [hdispatch]
  rw [hdispatch, hspawned, show jobIds = [83] from hjobs]

/-- The entry job of the successor is promoted and claimed. -/
def entryClaimed : List Op :=
  [.promoteDueJobs 0 100, .call (.claimReadyJob unlocked "worker-1" 0 leaseDuration) rfl]

theorem repeated_dispatch_after_claim :
    let later := runFrom (step lengthDigest) spawnedDatabase entryClaimed
    (later.jobs.get? 83).map Job.status = some .running ∧ NoFurtherJob spawnedDatabase later 20 ∧
      ∀ clock' anyRow' occurredAt',
        dispatchDecision lengthDigest clock' anyRow' later winnerDecision 1 occurredAt' =
          .ok (later, [83]) := by
  have hclaimed : ((runFrom (step lengthDigest) spawnedDatabase entryClaimed).jobs.get? 83).map
      Job.status = some .running := by
    decide +kernel
  have hcondition : NoFurtherJob spawnedDatabase
      (runFrom (step lengthDigest) spawnedDatabase entryClaimed) 20 := by
    decide +kernel
  exact ⟨hclaimed, hcondition,
    (repeated_dispatch_iff lengthDigest rfl dispatchDecision_winner entryClaimed).2.2 hcondition⟩

/-- The successor workflow went on: its entry job passed the check and a build job was added. -/
def dedupePassed : Op :=
  .dispatch 0
    { eventName := .dedupePassed
      aggregateType := "Job"
      aggregateId := 83
      workflowId := some 20
      jobId := some 83
      payload := .obj []
      occurredAt := 0 }

theorem repeated_dispatch_returns_later_job :
    ¬ ∀ (digest : String → Uuid) (d : PortfolioDecision), d.decision = .multiply →
      ∀ (db db₁ : Database) (parentJobId : Uuid) (clock occurredAt : Moment) (anyRow : AnyRow)
        (jobIds : List Uuid),
        dispatchDecision digest clock anyRow db d parentJobId occurredAt = .ok (db₁, jobIds) →
          ∀ (ops : List Op) (clock' : Moment) (anyRow' : AnyRow) (occurredAt' : Moment),
            dispatchDecision digest clock' anyRow' (runFrom (step digest) db₁ ops) d parentJobId
              occurredAt' = .ok (runFrom (step digest) db₁ ops, jobIds) := by
  intro h
  have hagain := h lengthDigest winnerDecision rfl _ _ 1 0 0 AnyRow.first _ dispatchDecision_winner
    [dedupePassed] 0 AnyRow.last 0
  have hids := congrArg (Except.map Prod.snd) hagain
  have hother : (dispatchDecision lengthDigest 0 AnyRow.last
      (runFrom (step lengthDigest) spawnedDatabase [dedupePassed]) winnerDecision 1 0).map Prod.snd =
        .ok [89] := by
    decide +kernel
  rw [hother] at hids
  exact absurd hids (by decide)

end Orchestration
end MoneyMachine
