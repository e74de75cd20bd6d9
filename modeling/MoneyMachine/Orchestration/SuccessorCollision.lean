import MoneyMachine.Orchestration.Operations
import Mathlib.Data.List.Forall2
import Mathlib.Data.Set.Function

/-!
# SuccessorCollision — the successors of one job

The id and the idempotency key of a successor are derived from the workflow, the parent job and the
job type.  Whether the events of one job collide is therefore decided by the configuration: two
events collide exactly when they map to a common job type.  A dispatch from the worker names the job
itself as aggregate, so `ASSETS_COMPLETED` leaves its `DraftListingJob` to the product's own event.
-/

namespace MoneyMachine
namespace Orchestration

open MoneyMachine.Domain
open MoneyMachine.Library
open MoneyMachine.Persistence

/-! ## Emissions of a job -/

/-- The successor types the configuration maps an event to. -/
def successorTypes (eventName : EventName) : List String :=
  (eventSuccessorMap.lookup eventName).getD []

/-- The types a worker's dispatch inserts: `DraftListingJob` belongs to the product aggregate. -/
def insertedTypes (eventName : EventName) : List String :=
  (successorTypes eventName).filter (fun jobType => decide (jobType ≠ "DraftListingJob"))

/-- What varies between the dispatches of one job. -/
structure Emission where
  eventName : EventName
  payload : Json
  occurredAt : Moment
  clock : Moment

/-- The worker dispatches with the job as aggregate and as parent. -/
def Emission.args (job : Job) (emission : Emission) : DispatchArgs :=
  { eventName := emission.eventName
    aggregateType := "Job"
    aggregateId := job.id
    workflowId := some job.workflowId
    jobId := some job.id
    payload := emission.payload
    occurredAt := emission.occurredAt }

/-- The key the worker's dispatch of an event is recorded under. -/
def emissionKey (job : Job) (eventName : EventName) : String :=
  if eventName = .assetsCompleted then
    eventName.value ++ ":" ++ uuidStr job.id ++ ":job:" ++ uuidStr job.id
  else
    dedupeKey eventName job.id (some job.workflowId) (some job.id)

def Recorded (db : Database) (job : Job) (eventName : EventName) : Prop :=
  eventRecorded db (emissionKey job eventName) = true

section Emit

variable (digest : String → Uuid)

/-- One dispatch; a dispatch that raises is rolled back. -/
def emit (job : Job) (db : Database) (emission : Emission) : Database :=
  match dispatch digest emission.clock db (emission.args job) with
  | .ok (db', _) => db'
  | .error _ => db

end Emit

/-! ## Derived identifiers -/

/-- The texts hashed for the successors of the given events. -/
def idTexts (job : Job) (names : List EventName) : Set String :=
  { text | ∃ name ∈ names, ∃ jobType ∈ successorTypes name,
      text = successorIdInput job.workflowId (some job.id) jobType }

/-- The row that a successor type of the job is inserted as. -/
structure SuccessorRow (digest : String → Uuid) (job : Job) (jobType : String) (row : Job) :
    Prop where
  jobType_eq : row.jobType = jobType
  id_eq : row.id = digest (successorIdInput job.workflowId (some job.id) jobType)
  key_eq : row.idempotencyKey = successorKey job.workflowId (some job.id) jobType

/-- The row stands in the way of a successor of that type. -/
def Blocks (digest : String → Uuid) (job : Job) (jobType : String) (row : Job) : Prop :=
  row.id = digest (successorIdInput job.workflowId (some job.id) jobType) ∨
    row.idempotencyKey = successorKey job.workflowId (some job.id) jobType

instance (digest : String → Uuid) (job : Job) (jobType : String) (row : Job) :
    Decidable (Blocks digest job jobType row) :=
  inferInstanceAs (Decidable (_ ∨ _))

section Identifiers

variable {digest : String → Uuid} {job : Job} {names : List EventName}

theorem successorIdInput_injective {workflowId : Uuid} {parentJobId : Option Uuid}
    {jobType jobType' : String}
    (h : successorIdInput workflowId parentJobId jobType =
      successorIdInput workflowId parentJobId jobType') : jobType = jobType' := by
  -- The job type is the last part of the text, after a common beginning.
  have hlist := congrArg String.toList h
  simp only [successorIdInput, String.toList_append] at hlist
  exact String.toList_inj.1 (List.append_cancel_left hlist)

theorem successorKey_injective {workflowId : Uuid} {parentJobId : Option Uuid}
    {jobType jobType' : String}
    (h : successorKey workflowId parentJobId jobType =
      successorKey workflowId parentJobId jobType') : jobType = jobType' := by
  -- Here it is the first part, before a common end.
  have hlist := congrArg String.toList h
  simp only [successorKey, String.toList_append, List.append_assoc] at hlist
  exact String.toList_inj.1 (List.append_cancel_right hlist)

/-- A successor's row stands only in the way of its own type. -/
theorem SuccessorRow.eq_of_blocks (hinj : Set.InjOn digest (idTexts job names))
    {name name' : EventName} (hname : name ∈ names) (hname' : name' ∈ names)
    {jobType jobType' : String} (htype : jobType ∈ successorTypes name)
    (htype' : jobType' ∈ successorTypes name') {row : Job}
    (hrow : SuccessorRow digest job jobType row) (hblocks : Blocks digest job jobType' row) :
    jobType = jobType' := by
  rcases hblocks with hid | hkey
  · have htext := hinj ⟨name, hname, jobType, htype, rfl⟩ ⟨name', hname', jobType', htype', rfl⟩
      (hrow.id_eq.symm.trans hid)
    exact successorIdInput_injective htext
  · exact successorKey_injective (hrow.key_eq.symm.trans hkey)

end Identifiers

/-! ## The configuration -/

/-- Every event is mapped, to distinct job types that are configured. -/
theorem successorTypes_configured (eventName : EventName) :
    eventSuccessorMap.lookup eventName = some (successorTypes eventName) ∧
      (successorTypes eventName).Nodup ∧
        ∀ jobType ∈ successorTypes eventName, (findJobDefinition jobType).isSome = true := by
  cases eventName <;> decide

/-- No two of the events map to a common successor type. -/
def NoSharedSuccessor (names : List EventName) : Prop :=
  ∀ name ∈ names, ∀ name' ∈ names, name ≠ name' →
    ∀ jobType ∈ successorTypes name, jobType ∉ successorTypes name'

instance (names : List EventName) : Decidable (NoSharedSuccessor names) :=
  inferInstanceAs (Decidable (∀ name ∈ names, ∀ name' ∈ names, name ≠ name' →
    ∀ jobType ∈ successorTypes name, jobType ∉ successorTypes name'))

theorem NoSharedSuccessor.subset {names names' : List EventName} (h : NoSharedSuccessor names)
    (hsub : names' ⊆ names) : NoSharedSuccessor names' :=
  fun name hname name' hname' => h name (hsub hname) name' (hsub hname')

/-- The configured jobs that admit two events with a common successor type. -/
def sharingJobTypes : List String := ["QualificationJob", "WeeklyReviewJob"]

theorem admitted_noSharedSuccessor :
    ∀ definition ∈ productLifecycleJobs, definition.jobType ∉ sharingJobTypes →
      NoSharedSuccessor definition.admittedEvents := by
  decide +kernel

/-! ## One dispatch -/

section Creation

variable {digest : String → Uuid} {clock : Moment} {job : Job}

/-- The row `_create_successor_job` adds is within its budget. -/
theorem successorRow_withinBudget {definition : JobDefinition} {jobId workflowId : Uuid}
    {parentJobId : Option Uuid} {jobType idempotencyKey : String} {occurredAt clock : Moment} :
    (successorRow definition jobId workflowId parentJobId jobType idempotencyKey occurredAt
      clock).row.WithinBudget := by
  simp [successorRow, NewJob.row, Job.WithinBudget]

/-- A type nothing stands in the way of is inserted. -/
theorem createSuccessorJob_ok {db : Database} {jobType : String} (aggregateId : Option Uuid)
    (clock occurredAt : Moment) (hdef : (findJobDefinition jobType).isSome = true)
    (hdraft : jobType ≠ "DraftListingJob") (hfree : ∀ row ∈ db.jobs, ¬ Blocks digest job jobType row) :
    ∃ db' row, createSuccessorJob digest clock db job.workflowId (some job.id) aggregateId jobType
        occurredAt = .ok (db', row.id) ∧
      SuccessorRow digest job jobType row ∧ db'.jobs.rows = db.jobs.rows ++ [row] ∧
        db'.events = db.events := by
  rcases Option.isSome_iff_exists.1 hdef with ⟨definition, hdef⟩
  have hid : ∀ row ∈ db.jobs,
      row.id ≠ digest (successorIdInput job.workflowId (some job.id) jobType) :=
    fun row hrow heq => hfree row hrow (Or.inl heq)
  have hkey : ∀ row ∈ db.jobs,
      row.idempotencyKey ≠ successorKey job.workflowId (some job.id) jobType :=
    fun row hrow heq => hfree row hrow (Or.inr heq)
  let new : NewJob := successorRow definition
    (digest (successorIdInput job.workflowId (some job.id) jobType)) job.workflowId (some job.id)
    jobType (successorKey job.workflowId (some job.id) jobType) occurredAt clock
  rcases Database.insertJob_ok new successorRow_withinBudget hid hkey with
    ⟨db', hins, hrows, hevents⟩
  refine ⟨db', new.row, ?_, ⟨rfl, rfl, rfl⟩, hrows, hevents⟩
  simp only [createSuccessorJob, hdef, if_neg hdraft]
  exact bind_eq_ok.2 ⟨db', hins, rfl⟩

/-- The loop inserts one row for each type it does not skip. -/
theorem createEach_ok {names : List EventName} {name : EventName} {occurredAt : Moment}
    (hinj : Set.InjOn digest (idTexts job names)) (hname : name ∈ names) {jobTypes : List String}
    (htypes : ∀ jobType ∈ jobTypes, jobType ∈ successorTypes name) (hnodup : jobTypes.Nodup)
    (db : Database) (hfree : ∀ jobType ∈ jobTypes, ∀ row ∈ db.jobs, ¬ Blocks digest job jobType row) :
    ∃ db' rows, createEach digest clock job.workflowId (some job.id) (some job.id) (some "Job")
        occurredAt db jobTypes = .ok (db', rows.map Job.id) ∧
      List.Forall₂ (SuccessorRow digest job)
        (jobTypes.filter (fun jobType => decide (jobType ≠ "DraftListingJob"))) rows ∧
      db'.jobs.rows = db.jobs.rows ++ rows ∧ db'.events = db.events := by
  -- The types of one event are distinct; the invariant is that the rest of them stay free.
  induction jobTypes generalizing db with
  | nil => exact ⟨db, [], rfl, List.Forall₂.nil, by simp, rfl⟩
  | cons jobType rest ih =>
    rcases List.nodup_cons.1 hnodup with ⟨hnew, hrest⟩
    have htypes' : ∀ t ∈ rest, t ∈ successorTypes name :=
      fun t ht => htypes t (List.mem_cons_of_mem _ ht)
    have htype : jobType ∈ successorTypes name := htypes jobType List.mem_cons_self
    by_cases hdraft : jobType = "DraftListingJob"
    · rcases ih htypes' hrest db (fun t ht => hfree t (List.mem_cons_of_mem _ ht)) with
        ⟨db', rows, hok, hrows, hjobs, hevents⟩
      refine ⟨db', rows, ?_, ?_, hjobs, hevents⟩
      · simpa [createEach, hdraft] using hok
      · simpa [hdraft] using hrows
    · rcases createSuccessorJob_ok (some job.id) clock occurredAt
          ((successorTypes_configured name).2.2 jobType htype) hdraft
          (hfree jobType List.mem_cons_self) with ⟨db₁, row, hfirst, hrow, hjobs₁, hevents₁⟩
      -- The row just added carries its own type's identifiers, so the rest stays free.
      have hfree₁ : ∀ t ∈ rest, ∀ other ∈ db₁.jobs, ¬ Blocks digest job t other := by
        intro t ht other hother hblocks
        rw [Table.mem_def, hjobs₁] at hother
        rcases List.mem_append.1 hother with hold | hadded
        · exact hfree t (List.mem_cons_of_mem _ ht) other hold hblocks
        · rw [List.mem_singleton.1 hadded] at hblocks
          have hsame := hrow.eq_of_blocks hinj hname hname htype (htypes' t ht) hblocks
          exact hnew (hsame ▸ ht)
      rcases ih htypes' hrest db₁ hfree₁ with ⟨db', rows, hok, hrows, hjobs, hevents⟩
      refine ⟨db', row :: rows, ?_, ?_, ?_, hevents.trans hevents₁⟩
      · simp only [createEach, hdraft, false_and, if_false]
        exact bind_eq_ok.2 ⟨(db₁, row.id), hfirst, bind_eq_ok.2 ⟨(db', rows.map Job.id), hok, rfl⟩⟩
      · simpa [hdraft] using List.Forall₂.cons hrow hrows
      · rw [hjobs, hjobs₁]
        simp

end Creation

/-! ## Sequences of dispatches -/

/-- One new row per inserted type, and their ids returned. -/
def CreatesSuccessors (digest : String → Uuid) (job : Job) (types : EventName → List String)
    (db : Database) (emission : Emission) : Prop :=
  ∃ db' rows, dispatch digest emission.clock db (emission.args job) = .ok (db', rows.map Job.id) ∧
    db'.jobs.rows = db.jobs.rows ++ rows ∧ rows.map Job.jobType = types emission.eventName

/-- The job is there, and whatever stands in the way of one of its successors was inserted for one
of the recorded events. -/
structure SuccessorsRecorded (digest : String → Uuid) (job : Job) (names : List EventName)
    (db : Database) : Prop where
  present : ∃ row ∈ db.jobs, row.id = job.id
  recorded : ∀ row ∈ db.jobs, ∀ name ∈ names, ∀ jobType ∈ successorTypes name,
    Blocks digest job jobType row →
      ∃ name' ∈ names, Recorded db job name' ∧ jobType ∈ successorTypes name'

section Dispatches

variable {digest : String → Uuid} {job : Job} {names : List EventName} {db : Database}
  {emission : Emission}

theorem dispatchKey_args (hpresent : ∃ row ∈ db.jobs, row.id = job.id) :
    dispatchKey db (emission.args job) = .ok (emissionKey job emission.eventName, false) := by
  rcases hpresent with ⟨row, hmem, hid⟩
  have hget : db.jobs.get? job.id = some row := Table.get?_eq_some_iff.2 ⟨hmem, hid⟩
  by_cases hassets : emission.eventName = .assetsCompleted
  · simp [dispatchKey, Emission.args, emissionKey, hassets, hget]
  · simp [dispatchKey, Emission.args, emissionKey, hassets]

/-- The event a dispatch of the worker appends. -/
def emittedEvent (job : Job) (emission : Emission) : Event :=
  dispatchedEvent (emission.args job) (emissionKey job emission.eventName)

/-- A new event is appended and handed to the factory. -/
theorem dispatch_eq_createEach (hpresent : ∃ row ∈ db.jobs, row.id = job.id)
    (hnew : ¬ Recorded db job emission.eventName) :
    dispatch digest emission.clock db (emission.args job) =
      createEach digest emission.clock job.workflowId (some job.id) (some job.id) (some "Job")
        emission.occurredAt { db with events := db.events ++ [emittedEvent job emission] }
        (successorTypes emission.eventName) := by
  have hunrecorded : eventRecorded db (emissionKey job emission.eventName) = false := by
    simpa [Recorded] using hnew
  have hevent : db.insertEvent (emittedEvent job emission) =
      .ok { db with events := db.events ++ [emittedEvent job emission] } :=
    Database.insertEvent_ok hunrecorded
  have hlookup := (successorTypes_configured emission.eventName).1
  have hstart : dispatch digest emission.clock db (emission.args job) =
      if emission.eventName = .successorCreated then
        .ok ({ db with events := db.events ++ [emittedEvent job emission] }, [])
      else
        createSuccessors digest emission.clock
          { db with events := db.events ++ [emittedEvent job emission] } emission.eventName
          job.workflowId (some job.id) (some job.id) (some "Job") emission.occurredAt := by
    simp only [dispatch, dispatchKey_args hpresent, bind, Except.bind, hunrecorded, Bool.or_self,
      Bool.false_eq_true, if_false]
    rw [show dispatchedEvent (emission.args job) (emissionKey job emission.eventName) =
      emittedEvent job emission from rfl, hevent]
    rfl
  rw [hstart]
  by_cases hcreated : emission.eventName = .successorCreated
  · -- `SUCCESSOR_CREATED` stops before the factory, and it maps to nothing.
    have hnil : successorTypes emission.eventName = [] := by
      rw [hcreated]
      decide
    rw [if_pos hcreated, hnil]
    rfl
  · rw [if_neg hcreated]
    simp only [createSuccessors, hlookup]

theorem jobTypes_of_successorRows {jobTypes : List String} {rows : List Job}
    (h : List.Forall₂ (SuccessorRow digest job) jobTypes rows) :
    rows.map Job.jobType = jobTypes := by
  induction h with
  | nil => rfl
  | cons hrow _ ih => simp [hrow.jobType_eq, ih]

theorem exists_type_of_mem {jobTypes : List String} {rows : List Job}
    (h : List.Forall₂ (SuccessorRow digest job) jobTypes rows) {row : Job} (hrow : row ∈ rows) :
    ∃ jobType ∈ jobTypes, SuccessorRow digest job jobType row := by
  induction h with
  | nil => cases hrow
  | cons hfirst _ ih =>
    rcases List.mem_cons.1 hrow with rfl | hrow
    · exact ⟨_, List.mem_cons_self, hfirst⟩
    · rcases ih hrow with ⟨jobType, hmem, hsucc⟩
      exact ⟨jobType, List.mem_cons_of_mem _ hmem, hsucc⟩

/-- Whatever is recorded stays recorded when an event is appended. -/
theorem recorded_append {db' : Database} {event : Event} {eventName : EventName}
    (hevents : db'.events = db.events ++ [event])
    (h : Recorded db job eventName ∨ event.dedupeKey = emissionKey job eventName) :
    Recorded db' job eventName := by
  unfold Recorded eventRecorded at *
  rw [hevents, List.any_append, Bool.or_eq_true]
  rcases h with hold | hnew
  · exact Or.inl hold
  · exact Or.inr (by simp [hnew])

/-- A new event of the job, in full: what it inserts and what it records. -/
theorem dispatch_new (hinj : Set.InjOn digest (idTexts job names)) (hshared : NoSharedSuccessor names)
    (h : SuccessorsRecorded digest job names db) (hname : emission.eventName ∈ names)
    (hnew : ¬ Recorded db job emission.eventName) :
    ∃ db' rows,
      dispatch digest emission.clock db (emission.args job) = .ok (db', rows.map Job.id) ∧
      List.Forall₂ (SuccessorRow digest job) (insertedTypes emission.eventName) rows ∧
      db'.jobs.rows = db.jobs.rows ++ rows ∧
      db'.events = db.events ++ [emittedEvent job emission] := by
  have hfree : ∀ jobType ∈ successorTypes emission.eventName, ∀ row ∈ db.jobs,
      ¬ Blocks digest job jobType row := by
    intro jobType htype row hrow hblocks
    rcases h.recorded row hrow emission.eventName hname jobType htype hblocks with
      ⟨name', hname', hrecorded, htype'⟩
    -- What stands in the way was recorded, so it belongs to another event.
    have hne : emission.eventName ≠ name' := by
      intro heq
      exact hnew (heq ▸ hrecorded)
    exact hshared _ hname _ hname' hne jobType htype htype'
  rcases createEach_ok hinj hname (fun _ ht => ht)
      (successorTypes_configured emission.eventName).2.1
      { db with events := db.events ++ [emittedEvent job emission] } hfree with
    ⟨db', rows, hok, hrows, hjobs, hevents⟩
  exact ⟨db', rows, (dispatch_eq_createEach h.present hnew).trans hok, hrows, hjobs, hevents⟩

/-- A recorded event is not dispatched again. -/
theorem emit_recorded (hpresent : ∃ row ∈ db.jobs, row.id = job.id)
    (hrecorded : Recorded db job emission.eventName) : emit digest job db emission = db := by
  have hkey : eventRecorded db (emissionKey job emission.eventName) = true := hrecorded
  simp [emit, dispatch, dispatchKey_args hpresent, bind, Except.bind, hkey]

theorem emit_successorsRecorded (hinj : Set.InjOn digest (idTexts job names))
    (hshared : NoSharedSuccessor names) (db : Database) (emission : Emission)
    (h : SuccessorsRecorded digest job names db) (hname : emission.eventName ∈ names) :
    SuccessorsRecorded digest job names (emit digest job db emission) := by
  by_cases hrecorded : Recorded db job emission.eventName
  · rw [emit_recorded h.present hrecorded]
    exact h
  · rcases dispatch_new hinj hshared h hname hrecorded with ⟨db', rows, hok, hrows, hjobs, hevents⟩
    have hemit : emit digest job db emission = db' := by simp [emit, hok]
    rw [hemit]
    refine ⟨?_, ?_⟩
    · rcases h.present with ⟨row, hrow, hid⟩
      refine ⟨row, ?_, hid⟩
      rw [Table.mem_def, hjobs]
      exact List.mem_append_left _ hrow
    · intro row hrow name hname₁ jobType htype hblocks
      rw [Table.mem_def, hjobs] at hrow
      rcases List.mem_append.1 hrow with hold | hadded
      · rcases h.recorded row hold name hname₁ jobType htype hblocks with
          ⟨name', hname', hrec, htype'⟩
        exact ⟨name', hname', recorded_append hevents (Or.inl hrec), htype'⟩
      · -- A row of this dispatch stands only in the way of its own type.
        rcases exists_type_of_mem hrows hadded with ⟨jobType₁, hinserted, hsucc⟩
        have htype₁ : jobType₁ ∈ successorTypes emission.eventName := List.mem_of_mem_filter hinserted
        have hsame : jobType₁ = jobType := hsucc.eq_of_blocks hinj hname hname₁ htype₁ htype hblocks
        exact ⟨emission.eventName, hname, recorded_append hevents (Or.inr rfl), hsame ▸ htype₁⟩

/-- For a configured job and any sequence of its admitted events of which no two map to a common
successor type, every dispatch of a new event inserts one row for each mapped type other than
`DraftListingJob`; neither the primary key nor the idempotency key is violated.  Only the events of
`QualificationJob` and `WeeklyReviewJob` can share a type. -/
theorem dispatch_creates_successors {definition : JobDefinition}
    (hconfigured : definition ∈ productLifecycleJobs) {emissions : List Emission}
    (hadmitted : ∀ emission ∈ emissions, emission.eventName ∈ definition.admittedEvents)
    (hshared : definition.jobType ∈ sharingJobTypes →
      NoSharedSuccessor (emissions.map Emission.eventName))
    (hinj : Set.InjOn digest (idTexts job (emissions.map Emission.eventName)))
    (hpresent : ∃ row ∈ db.jobs, row.id = job.id)
    (hfirst : ∀ row ∈ db.jobs, ∀ emission ∈ emissions,
      ∀ jobType ∈ successorTypes emission.eventName, ¬ Blocks digest job jobType row) :
    Along (emit digest job)
      (fun db emission => ¬ Recorded db job emission.eventName →
        CreatesSuccessors digest job insertedTypes db emission) db emissions := by
  have hmem : ∀ emission ∈ emissions, emission.eventName ∈ emissions.map Emission.eventName :=
    fun _ h => List.mem_map_of_mem h
  have hnames : NoSharedSuccessor (emissions.map Emission.eventName) := by
    by_cases hsharing : definition.jobType ∈ sharingJobTypes
    · exact hshared hsharing
    · refine (admitted_noSharedSuccessor definition hconfigured hsharing).subset ?_
      intro name hname
      rcases List.mem_map.1 hname with ⟨emission, hemission, rfl⟩
      exact hadmitted emission hemission
  have hstart : SuccessorsRecorded digest job (emissions.map Emission.eventName) db := by
    refine ⟨hpresent, ?_⟩
    intro row hrow name hname jobType htype hblocks
    rcases List.mem_map.1 hname with ⟨emission, hemission, rfl⟩
    exact absurd hblocks (hfirst row hrow emission hemission jobType htype)
  -- Every emission is one of the sequence, which is what the step lemma asks of it.
  refine along_of_invariant (emit_successorsRecorded hinj hnames) ?_ hstart (along_of_forall hmem)
  intro db emission h hname hnew
  rcases dispatch_new hinj hnames h hname hnew with ⟨db', rows, hok, hrows, hjobs, _⟩
  exact ⟨db', rows, hok, hjobs, jobTypes_of_successorRows hrows⟩

end Dispatches

/-! ## Two jobs of the configuration -/

/-- The sample job under another configured type. -/
def typedJob (jobType ownerAgentId : String) : Job :=
  { sampleJob .succeeded .safe ownerAgentId 3 with jobType := jobType }

def typedDatabase (jobType ownerAgentId : String) : Database :=
  sampleDatabase (typedJob jobType ownerAgentId)
    (by simp [typedJob, sampleJob, Job.WithinBudget])

def emissionOf (eventName : EventName) : Emission :=
  { eventName := eventName
    payload := .obj []
    occurredAt := minutes 1
    clock := minutes 1 }

/-- The texts of `idTexts`, as a list. -/
def idTextList (job : Job) (names : List EventName) : List String :=
  names.flatMap (fun name =>
    (successorTypes name).map (successorIdInput job.workflowId (some job.id)))

theorem injOn_idTexts {digest : String → Uuid} {job : Job} {names : List EventName}
    (h : ∀ text ∈ idTextList job names, ∀ text' ∈ idTextList job names,
      digest text = digest text' → text = text') : Set.InjOn digest (idTexts job names) := by
  have hmem : ∀ text ∈ idTexts job names, text ∈ idTextList job names := by
    rintro text ⟨name, hname, jobType, htype, rfl⟩
    exact List.mem_flatMap.2 ⟨name, hname, List.mem_map_of_mem htype⟩
  intro text htext text' htext' heq
  exact h text (hmem text htext) text' (hmem text' htext') heq

/-- SHA-256 cut to sixteen bytes, at the two texts a `DedupeJob` of the sample workflow hashes. -/
def dedupeDigest (text : String) : Uuid :=
  if text = successorIdInput 7 (some 1) "ProductBuildJob" then
    0x0623f705451912d72e9eaa8dafc6c116
  else if text = successorIdInput 7 (some 1) "ReconceptProductJob" then
    0x1a524b76e8932d80664e2471bd797f81
  else
    0

def dedupeEmissions : List Emission :=
  [emissionOf .dedupePassed, emissionOf .dedupeFailed]

theorem dispatch_creates_successors_dedupe :
    Along (emit dedupeDigest (typedJob "DedupeJob" "A06"))
      (fun db emission => ¬ Recorded db (typedJob "DedupeJob" "A06") emission.eventName →
        CreatesSuccessors dedupeDigest (typedJob "DedupeJob" "A06") insertedTypes db emission)
      (typedDatabase "DedupeJob" "A06") dedupeEmissions := by
  have hconfigured : ∃ definition ∈ productLifecycleJobs, definition.jobType ∉ sharingJobTypes ∧
      ∀ emission ∈ dedupeEmissions, emission.eventName ∈ definition.admittedEvents := by
    decide +kernel
  rcases hconfigured with ⟨definition, hmem, hsharing, hadmitted⟩
  have hinj : Set.InjOn dedupeDigest
      (idTexts (typedJob "DedupeJob" "A06") (dedupeEmissions.map Emission.eventName)) :=
    injOn_idTexts (by decide +kernel)
  have hfirst : ∀ row ∈ (typedDatabase "DedupeJob" "A06").jobs.rows,
      ∀ emission ∈ dedupeEmissions, ∀ jobType ∈ successorTypes emission.eventName,
        ¬ Blocks dedupeDigest (typedJob "DedupeJob" "A06") jobType row := by
    decide +kernel
  exact dispatch_creates_successors hmem hadmitted (fun h => absurd h hsharing) hinj
    ⟨typedJob "DedupeJob" "A06", by simp [typedDatabase, sampleDatabase, Table.mem_def], rfl⟩ hfirst

/-- A finished `AssetFactoryJob` inserts no `DraftListingJob`, although its event maps to one. -/
theorem assets_completed_creates_no_draft :
    ¬ ∀ (digest : String → Uuid) (definition : JobDefinition) (job : Job) (db : Database)
        (emissions : List Emission), definition ∈ productLifecycleJobs →
      job.jobType = definition.jobType →
      (∀ emission ∈ emissions, emission.eventName ∈ definition.admittedEvents) →
      (emissions.map Emission.eventName).Nodup →
      Set.InjOn digest (idTexts job (emissions.map Emission.eventName)) →
      (∃ row ∈ db.jobs, row.id = job.id) →
      (∀ row ∈ db.jobs, ∀ emission ∈ emissions, ∀ jobType ∈ successorTypes emission.eventName,
        ¬ Blocks digest job jobType row) →
      Along (emit digest job)
        (fun db emission => ¬ Recorded db job emission.eventName →
          CreatesSuccessors digest job successorTypes db emission) db emissions := by
  intro h
  have hconfigured : ∃ definition ∈ productLifecycleJobs,
      definition.jobType = "AssetFactoryJob" ∧ .assetsCompleted ∈ definition.admittedEvents := by
    decide +kernel
  rcases hconfigured with ⟨definition, hmem, htype, hadmitted⟩
  have hpresent : ∃ row ∈ (typedDatabase "AssetFactoryJob" "A11").jobs,
      row.id = (typedJob "AssetFactoryJob" "A11").id :=
    ⟨typedJob "AssetFactoryJob" "A11", by simp [typedDatabase, sampleDatabase, Table.mem_def], rfl⟩
  have hfirst : ∀ row ∈ (typedDatabase "AssetFactoryJob" "A11").jobs.rows,
      ∀ emission ∈ [emissionOf .assetsCompleted],
        ∀ jobType ∈ successorTypes emission.eventName,
          ¬ Blocks sampleDigest (typedJob "AssetFactoryJob" "A11") jobType row := by
    decide +kernel
  have hnew : ¬ Recorded (typedDatabase "AssetFactoryJob" "A11")
      (typedJob "AssetFactoryJob" "A11") (emissionOf .assetsCompleted).eventName := by
    simp [Recorded, eventRecorded, typedDatabase, sampleDatabase]
  have halong := h sampleDigest definition (typedJob "AssetFactoryJob" "A11")
    (typedDatabase "AssetFactoryJob" "A11") [emissionOf .assetsCompleted] hmem htype.symm
    (by simpa [emissionOf] using hadmitted) (by simp) (injOn_idTexts (by decide +kernel)) hpresent
    hfirst
  rcases halong.1 hnew with ⟨db', rows, hok, _, htypes⟩
  rw [dispatch_eq_createEach hpresent hnew] at hok
  have htype : successorTypes (emissionOf .assetsCompleted).eventName = ["DraftListingJob"] := by
    decide +kernel
  rw [htype] at hok htypes
  -- The loop skips the only type, so no id is returned and no row was added.
  simp only [createEach, and_self, if_true, Except.ok.injEq, Prod.mk.injEq] at hok
  have hrows : rows = [] := List.map_eq_nil_iff.1 hok.2.symm
  rw [hrows] at htypes
  cases htypes

end Orchestration
end MoneyMachine
