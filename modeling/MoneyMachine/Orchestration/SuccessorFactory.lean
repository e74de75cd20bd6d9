import MoneyMachine.Orchestration.WorkflowConfig
import MoneyMachine.Persistence.Tables

/-!
# SuccessorFactory — jobs created in response to events

Job ids are derived by hashing a text; the hash, SHA-256 cut to sixteen bytes, is the parameter
`digest`.  The id and the idempotency key of a successor depend on the workflow, the parent job and
the job type, not on the event.
-/

namespace MoneyMachine
namespace Orchestration

open MoneyMachine.Domain
open MoneyMachine.Library
open MoneyMachine.Persistence

/-- `str(value) if value else other`. -/
def uuidText (other : String) : Option Uuid → String
  | none => other
  | some u => uuidStr u

/-- `_infer_object_type`. -/
def inferObjectType (jobType : String) : String :=
  if mentions jobType "dedupe" || mentions jobType "spec" || mentions jobType "niche" then
    "product_specs"
  else if mentions jobType "build" || mentions jobType "qa" || mentions jobType "variant" then
    "products"
  else if mentions jobType "decision" || mentions jobType "evaluation" ||
      mentions jobType "slot" then
    "decisions"
  else if mentions jobType "research" || mentions jobType "collection" then
    "research_runs"
  else if mentions jobType "listing" || mentions jobType "copy" || mentions jobType "asset" then
    "listing_versions"
  else if mentions jobType "incident" || mentions jobType "repair" then
    "incidents"
  else if mentions jobType "metric" || mentions jobType "review" then
    "metrics_snapshots"
  else
    "workflow_runs"

/-- The text `_derive_successor_job_id` hashes. -/
def successorIdInput (workflowId : Uuid) (parentJobId : Option Uuid) (jobType : String) : String :=
  uuidStr workflowId ++ ":" ++ uuidText "none" parentJobId ++ ":" ++ jobType

/-- The text `derive_product_job_id` hashes. -/
def productIdInput (productId : Uuid) (jobType : String) : String :=
  uuidStr productId ++ ":" ++ jobType

def successorKey (workflowId : Uuid) (parentJobId : Option Uuid) (jobType : String) : String :=
  jobType ++ ":" ++ uuidStr workflowId ++ ":" ++ uuidText "none" parentJobId

def productKey (productId : Uuid) (jobType : String) : String :=
  jobType ++ ":" ++ uuidStr productId

/-- The first configured job of a type, over all workflows. -/
def findJobDefinition (jobType : String) : Option JobDefinition :=
  (configuredWorkflows.flatMap WorkflowDefinition.jobs).find?
    (fun definition => decide (definition.jobType = jobType))

/-- The row `_create_successor_job` adds; `clock` is the database's time at the insert. -/
def successorRow (definition : JobDefinition) (jobId workflowId : Uuid)
    (parentJobId : Option Uuid) (jobType idempotencyKey : String) (occurredAt clock : Moment) :
    NewJob :=
  { id := jobId
    workflowId := workflowId
    jobType := jobType
    objectType := inferObjectType jobType
    objectId := workflowId
    ownerAgentId := definition.ownerAgentId
    input := .obj
      [("parent_job_id",
        match parentJobId with
        | none => .null
        | some parent => .str (uuidStr parent))]
    successContract := .obj [("output_model", .str (definition.outputContracts.headD "AgentResult"))]
    scheduledAt := occurredAt
    maxAttempts := 3
    idempotencyKey := idempotencyKey
    sideEffectClass := definition.sideEffectClass
    retryClass := definition.retryClass
    allowedMode := definition.allowedModes.headD .simulation
    createdAt := clock }

section Factory

variable (digest : String → Uuid) (clock : Moment)

/-- `_create_successor_job`. -/
def createSuccessorJob (db : Database) (workflowId : Uuid) (parentJobId aggregateId : Option Uuid)
    (jobType : String) (occurredAt : Moment) : Except OrchestrationError (Database × Uuid) :=
  match findJobDefinition jobType with
  | none =>
    .error (.valueError ("Job type '" ++ jobType ++ "' not found in workflow configuration"))
  | some definition =>
    if jobType = "DraftListingJob" then
      match aggregateId with
      | none => .error (.valueError "DraftListingJob requires the product aggregate")
      | some productId =>
        let jobId := digest (productIdInput productId jobType)
        -- One row per product: a second event finds the first one's job.
        match db.jobs.get? jobId with
        | some existing => .ok (db, existing.id)
        | none => do
            let db' ← db.insertJob
              (successorRow definition jobId workflowId parentJobId jobType
                (productKey productId jobType) occurredAt clock)
            .ok (db', jobId)
    else do
      let jobId := digest (successorIdInput workflowId parentJobId jobType)
      let db' ← db.insertJob
        (successorRow definition jobId workflowId parentJobId jobType
          (successorKey workflowId parentJobId jobType) occurredAt clock)
      .ok (db', jobId)

/-- The loop of `create_successors`; a `Job` aggregate does not insert `DraftListingJob`. -/
def createEach (workflowId : Uuid) (parentJobId aggregateId : Option Uuid)
    (aggregateType : Option String) (occurredAt : Moment) (db : Database) :
    List String → Except OrchestrationError (Database × List Uuid)
  | [] => .ok (db, [])
  | jobType :: rest =>
    if jobType = "DraftListingJob" ∧ aggregateType = some "Job" then
      createEach workflowId parentJobId aggregateId aggregateType occurredAt db rest
    else do
      let (db₁, jobId) ← createSuccessorJob digest clock db workflowId parentJobId aggregateId
        jobType occurredAt
      let (db₂, more) ← createEach workflowId parentJobId aggregateId aggregateType occurredAt
        db₁ rest
      .ok (db₂, jobId :: more)

/-- `sorted(names)` of distinct texts, as Python prints the list. -/
def sortedNames (names : List String) : String :=
  "[" ++ String.intercalate ", "
    ((names.insertionSort (fun a b => a ≤ b)).map (fun name => "'" ++ name ++ "'")) ++ "]"

def createSuccessors (db : Database) (eventName : EventName) (workflowId : Uuid)
    (parentJobId aggregateId : Option Uuid) (aggregateType : Option String) (occurredAt : Moment) :
    Except OrchestrationError (Database × List Uuid) :=
  match eventSuccessorMap.lookup eventName with
  | none =>
    .error (.valueError
      ("Unknown event '" ++ eventName.value ++
        "' not found in event_successor_map. Cannot determine successors. Known events: " ++
          sortedNames (eventSuccessorMap.map (fun entry => entry.1.value))))
  | some successorJobTypes =>
    createEach digest clock workflowId parentJobId aggregateId aggregateType occurredAt db
      successorJobTypes

end Factory

end Orchestration
end MoneyMachine
