import MoneyMachine.Orchestration.SuccessorFactory

/-!
# EventDispatcher — one event, at most once, with its successors

An event is appended under a dedupe key.  Successors are created only when this call appended the
event; a repeated dispatch is a no-op.
-/

namespace MoneyMachine
namespace Orchestration

open MoneyMachine.Domain
open MoneyMachine.Library
open MoneyMachine.Persistence

/-- `EventRepository.by_dedupe_key`. -/
def eventRecorded (db : Database) (dedupeKey : String) : Bool :=
  db.events.any (fun event => decide (event.dedupeKey = dedupeKey))

/-- `_dedupe_key`. -/
def dedupeKey (eventName : EventName) (aggregateId : Uuid) (workflowId jobId : Option Uuid) :
    String :=
  eventName.value ++ ":" ++ uuidStr aggregateId ++ ":" ++ uuidText "null" workflowId ++ ":" ++
    uuidText "null" jobId

/-- The arguments of `dispatch`. -/
structure DispatchArgs where
  eventName : EventName
  aggregateType : String
  aggregateId : Uuid
  workflowId : Option Uuid
  jobId : Option Uuid
  payload : Json
  occurredAt : Moment

/-- The key an event is recorded under, and whether an older spelling of it is recorded already.
`ASSETS_COMPLETED` has a key of its own per job and per product. -/
def dispatchKey (db : Database) (args : DispatchArgs) :
    Except OrchestrationError (String × Bool) :=
  let key := dedupeKey args.eventName args.aggregateId args.workflowId args.jobId
  if args.eventName = .assetsCompleted ∧ args.aggregateType = "Job" then
    match args.jobId.bind db.jobs.get?, args.jobId with
    | some _, some jobId =>
      .ok (args.eventName.value ++ ":" ++ uuidStr args.aggregateId ++ ":job:" ++ uuidStr jobId,
        false)
    | _, _ => .error (.valueError "worker ASSETS_COMPLETED requires a job")
  else if args.eventName = .assetsCompleted ∧ args.aggregateType = "products" then
    .ok (args.eventName.value ++ ":" ++ uuidStr args.aggregateId ++ ":product",
      -- Rows written before the key was shortened carry the workflow.
      eventRecorded db (dedupeKey args.eventName args.aggregateId args.workflowId none))
  else
    .ok (key, false)

/-- The row `dispatch` appends. -/
def dispatchedEvent (args : DispatchArgs) (key : String) : Event :=
  { eventName := args.eventName
    aggregateType := args.aggregateType
    aggregateId := args.aggregateId
    workflowId := args.workflowId
    jobId := args.jobId
    payload := args.payload
    dedupeKey := key
    occurredAt := args.occurredAt }

section Dispatch

variable (digest : String → Uuid) (clock : Moment)

def dispatch (db : Database) (args : DispatchArgs) :
    Except OrchestrationError (Database × List Uuid) := do
  let (key, legacyRecorded) ← dispatchKey db args
  -- `EventRepository.append` refuses a recorded key; the dispatcher takes that as a repetition.
  if legacyRecorded || eventRecorded db key then
    .ok (db, [])
  else do
    let db₁ ← db.insertEvent (dispatchedEvent args key)
    -- Without a workflow the event is recorded and creates nothing.
    match args.workflowId with
    | none => .ok (db₁, [])
    | some workflowId =>
      if args.eventName = .successorCreated then
        .ok (db₁, [])
      else
        createSuccessors digest clock db₁ args.eventName workflowId args.jobId
          (some args.aggregateId) (some args.aggregateType) args.occurredAt

end Dispatch

/-! ## What a successful call did

Dispatching appends at most one event and adds jobs; it touches nothing else.  Both are packed into
one rule: what an insert of a job keeps and what an appended event keeps, a dispatch keeps. -/

section Invariant

variable {digest : String → Uuid} {clock : Moment} {I : Database → Prop}

theorem createSuccessorJob_invariant
    (hjob : ∀ {db db' : Database} {new : NewJob}, I db → db.insertJob new = .ok db' → I db')
    {db db' : Database} {workflowId : Uuid} {parentJobId aggregateId : Option Uuid}
    {jobType : String} {occurredAt : Moment} {jobId : Uuid} (hI : I db)
    (h : createSuccessorJob digest clock db workflowId parentJobId aggregateId jobType occurredAt =
      .ok (db', jobId)) : I db' := by
  unfold createSuccessorJob at h
  cases hdef : findJobDefinition jobType with
  | none => simp [hdef] at h
  | some definition =>
    simp only [hdef] at h
    split at h
    · cases hagg : aggregateId with
      | none => simp [hagg] at h
      | some productId =>
        simp only [hagg] at h
        split at h
        · cases h
          exact hI
        · rcases bind_eq_ok.1 h with ⟨db₁, hins, h⟩
          cases h
          exact hjob hI hins
    · rcases bind_eq_ok.1 h with ⟨db₁, hins, h⟩
      cases h
      exact hjob hI hins

theorem createEach_invariant
    (hjob : ∀ {db db' : Database} {new : NewJob}, I db → db.insertJob new = .ok db' → I db')
    {db db' : Database} {workflowId : Uuid} {parentJobId aggregateId : Option Uuid}
    {aggregateType : Option String} {occurredAt : Moment} {jobTypes : List String}
    {created : List Uuid} (hI : I db)
    (h : createEach digest clock workflowId parentJobId aggregateId aggregateType occurredAt db
      jobTypes = .ok (db', created)) : I db' := by
  induction jobTypes generalizing db db' created with
  | nil =>
    cases h
    exact hI
  | cons jobType rest ih =>
    simp only [createEach] at h
    split at h
    · exact ih hI h
    · rcases bind_eq_ok.1 h with ⟨⟨db₁, first⟩, hfirst, h⟩
      rcases bind_eq_ok.1 h with ⟨⟨db₂, more⟩, hrest, h⟩
      cases h
      exact ih (createSuccessorJob_invariant hjob hI hfirst) hrest

theorem dispatch_invariant
    (hjob : ∀ {db db' : Database} {new : NewJob}, I db → db.insertJob new = .ok db' → I db')
    (hevent : ∀ {db db' : Database} {event : Event}, I db → db.insertEvent event = .ok db' → I db')
    {db db' : Database} {args : DispatchArgs} {created : List Uuid} (hI : I db)
    (h : dispatch digest clock db args = .ok (db', created)) : I db' := by
  unfold dispatch at h
  rcases bind_eq_ok.1 h with ⟨⟨key, legacyRecorded⟩, _, h⟩
  dsimp only at h
  split at h
  · cases h
    exact hI
  · rcases bind_eq_ok.1 h with ⟨db₁, hins, h⟩
    have hI₁ : I db₁ := hevent hI hins
    split at h
    · cases h
      exact hI₁
    · split at h
      · cases h
        exact hI₁
      · unfold createSuccessors at h
        split at h
        · cases h
        · exact createEach_invariant hjob hI₁ h

end Invariant

end Orchestration
end MoneyMachine
