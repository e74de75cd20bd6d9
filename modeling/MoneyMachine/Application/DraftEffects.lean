import Mathlib.Logic.Function.Basic
import MoneyMachine.Orchestration.Idempotency

/-!
# DraftEffects — one provider write, reserved, claimed and confirmed in SQL

`SqlDraftEffects.execute` wraps a provider write.  No lock spans the provider request: the function
is a sequence of transactions on the canonical tables with calls of the injected callables in
between, and a call may fail or die anywhere.  The model is a machine of any number of such calls.

* one definition for each transaction, under the words of the source;
* `Call` : the locals of one running `execute` and where it stands;
* `callStep` : what one event does to the call and to the store.

The callables are not modelled: an event carries whatever they answered.
-/

namespace MoneyMachine
namespace Application

open MoneyMachine.Domain
open MoneyMachine.Library
open MoneyMachine.Persistence
open MoneyMachine.Orchestration

/-! ## Authority -/

/-- What an `execute` call raises. -/
inductive DraftEffectError
  /-- `DraftRunRefused`. -/
  | refused (reason : String)
  /-- `DraftEffectUncertain`. -/
  | uncertain (reason : String)
  /-- Any other exception. -/
  | other
  deriving DecidableEq, Repr

def DraftEffectError.isRefused : DraftEffectError → Bool
  | .refused _ => true
  | _ => false

/-- An error of the tables is neither a refusal nor an uncertainty. -/
def liftError {α : Type} : Except OrchestrationError α → Except DraftEffectError α
  | .ok a => .ok a
  | .error _ => .error .other

/-- The run, product and shop a draft run is confined to. -/
structure DraftRunAuthority where
  runId : String
  productId : Uuid
  verifiedShopId : Option Int
  verifiedNotionParentId : Option Uuid
  deriving DecidableEq, Repr

/-- The one shop the authority admits. -/
def DraftRunAuthority.shopName (_ : DraftRunAuthority) : String := "QuietlyBuiltStudio"

def allowedOperations : List String :=
  ["local.render", "local.qa", "notion.private_product.read", "notion.private_product.write",
    "notion.private_variant.read", "notion.private_variant.write", "etsy.create_draft",
    "etsy.upload_image", "etsy.upload_video", "etsy.upload_file", "etsy.read_draft"]

/-- `authorize`, with the cost, the price and the listing state at their defaults. -/
def DraftRunAuthority.authorize (authority : DraftRunAuthority) (operation runId : String)
    (productId : Uuid) (shopName : Option String) (shopId : Option Int)
    (notionParentId : Option Uuid) : Except DraftEffectError Unit :=
  if operation ∉ allowedOperations then
    .error (.refused "operation_not_authorized")
  else if runId ≠ authority.runId ∨ productId ≠ authority.productId then
    .error (.refused "run_product_scope")
  else if shopName.isSome ∧ shopName ≠ some authority.shopName then
    .error (.refused "shop_scope")
  else if shopId.isSome ∧ shopId ≠ authority.verifiedShopId then
    .error (.refused "shop_scope")
  else if startsWith operation "notion." ∧
      (authority.verifiedNotionParentId = none ∨
        notionParentId ≠ authority.verifiedNotionParentId) then
    .error (.refused "verified_notion_parent_required")
  else if startsWith operation "etsy." ∧
      (authority.verifiedShopId = none ∨ shopId ≠ authority.verifiedShopId ∨
        shopName ≠ some authority.shopName) then
    .error (.refused "verified_shop_required")
  else
    .ok ()

/-! ## Requests and scope -/

/-- The arguments of `execute` and of the object it is called on. -/
structure EffectRequest where
  authority : DraftRunAuthority
  jobId : Uuid
  leaseOwner : String
  operationKey : String
  provider : String
  operation : String
  notionParentId : Option Uuid
  shopId : Option Int
  deriving DecidableEq, Repr

/-- `job.input.get("run_id") == run_id`. -/
def namesRun (job : Job) (runId : String) : Bool :=
  match job.input.get? "run_id" with
  | some (.str name) => decide (name = runId)
  | _ => false

/-- The name of the shop of a job's workflow. -/
def workflowShopName (db : Database) (job : Job) : Option String :=
  (db.workflows.get? job.workflowId).bind (fun workflow =>
    (db.shops.find? (fun shop => decide (shop.id = workflow.shopId))).map Shop.name)

/-- `_scoped_job`. -/
def scopedJob (db : Database) (request : EffectRequest) : Except DraftEffectError Job :=
  match db.jobs.get? request.jobId with
  | none => .error (.refused "durable_job_scope_or_lease")
  | some job =>
    if job.objectId ≠ request.authority.productId ∨
        namesRun job request.authority.runId = false ∨ job.allowedMode ≠ .draft ∨
        job.sideEffectClass ≠ .externalWrite then
      .error (.refused "durable_job_scope_or_lease")
    else if workflowShopName db job ≠ some request.authority.shopName then
      .error (.refused "durable_workflow_shop_scope")
    else
      .ok job

/-- `_job`: the scoped job, held under an unexpired lease of this worker. -/
def leasedJob (db : Database) (request : EffectRequest) (now : Moment) :
    Except DraftEffectError Job := do
  let job ← scopedJob db request
  if job.status ≠ .running ∨ job.leaseOwner ≠ some request.leaseOwner ∨
      job.leaseExpiresAt.all (fun expires => decide (expires ≤ now)) = true then
    .error (.refused "durable_job_scope_or_lease")
  else
    .ok job

/-! ## Transactions -/

/-- The number of the row after the latest one. -/
def nextNumber : Option EffectAttempt → Int
  | none => 0
  | some latest => latest.reconciliationAttempt + 1

/-- The row a call records next under a key. -/
def nextAttempt (db : Database) (request : EffectRequest) (key : String) (effectState : EffectState)
    (providerObjectId : Option String) (now : Moment) : EffectAttempt :=
  { idempotencyKey := key
    jobId := request.jobId
    agentRunId := none
    provider := request.provider
    operation := request.operation
    effectState := effectState
    providerObjectId := providerObjectId
    reconciliationAttempt := nextNumber (getLatestEffectAttempt db key)
    observedAt := now
    recordedAt := now }

/-- `record_effect_attempt` with the next number. -/
def recordNext (db : Database) (request : EffectRequest) (key : String) (effectState : EffectState)
    (providerObjectId : Option String) (now : Moment) : Except DraftEffectError Database :=
  liftError (recordEffectAttempt db (nextAttempt db request key effectState providerObjectId now))

/-- What the first transaction hands to the rest of the call. -/
structure Claim where
  key : String
  knownId : Option String
  mayCreate : Bool
  deriving DecidableEq, Repr

/-- The reservation belongs to another job or another operation. -/
def foreignReservation (request : EffectRequest) : Option IdempotencyRecord → Bool
  | none => false
  | some record => decide (record.jobId ≠ request.jobId ∨ record.operation ≠ request.operation)

/-- `fresh or bool(latest and latest.effect_state == "ABSENT" and existing and ...)`. -/
def mayCreateAfter (existing : Option IdempotencyRecord) (latest : Option EffectAttempt) : Bool :=
  match existing with
  | none => true
  | some record =>
    latest.any (fun attempt => decide (attempt.effectState = .absent)) &&
      record.completedAt.isNone

def reserveIfFresh (db : Database) (request : EffectRequest) (key : String) (now : Moment) :
    Option IdempotencyRecord → Except DraftEffectError Database
  | some _ => .ok db
  | none =>
    liftError (reserveIdempotencyKey db key request.jobId request.operation .externalWrite now)

/-- Reserve the key if it is new, and claim the write if the call may make it. -/
def claimEffect (db : Database) (request : EffectRequest) (now : Moment) :
    Except DraftEffectError (Database × Claim) := do
  let job ← leasedJob db request now
  let key := deriveIdempotencyKey job.jobType job.workflowId job.objectId request.operationKey
  let existing := getIdempotencyRecord db key
  if 200 < key.length then
    .error (.refused "effect_key_too_long")
  else if foreignReservation request existing then
    .error (.refused "reservation_scope")
  else do
    let db₁ ← reserveIfFresh db request key now existing
    -- Read after the reservation; a fresh key has no rows.
    let latest := getLatestEffectAttempt db₁ key
    let claim : Claim :=
      { key := key
        knownId := latest.bind EffectAttempt.providerObjectId
        mayCreate := mayCreateAfter existing latest }
    if claim.mayCreate then do
      -- A durable in-flight claim prevents two ABSENT retries from writing.
      let db₂ ← recordNext db₁ request key .unknown claim.knownId now
      .ok (db₂, claim)
    else
      .ok (db₁, claim)

/-- The checks before the first transaction, and the transaction. -/
def beginEffect (db : Database) (request : EffectRequest) (now : Moment) :
    Except DraftEffectError (Database × Claim) :=
  if request.provider ∉ ["notion", "etsy"] ∨
      startsWith request.operation (request.provider ++ ".") = false then
    .error (.refused "provider_scope")
  else do
    request.authority.authorize request.operation request.authority.runId
      request.authority.productId
      (if request.provider = "etsy" then some request.authority.shopName else none)
      request.shopId request.notionParentId
    claimEffect db request now

/-- The check under the job lock, immediately before the write. -/
def recheckReservation (db : Database) (request : EffectRequest) (key : String) (now : Moment) :
    Except DraftEffectError Unit := do
  let _ ← leasedJob db request now
  match getIdempotencyRecord db key with
  | none => .error (.uncertain "effect_already_reconciled_before_write")
  | some record =>
    if record.completedAt.isSome then
      .error (.uncertain "effect_already_reconciled_before_write")
    else
      .ok ()

/-- Preserve an accepted object's identity before any fallible readback. -/
def preserveIdentity (db : Database) (request : EffectRequest) (key createdId : String)
    (now : Moment) : Except DraftEffectError Database := do
  let _ ← scopedJob db request
  match getIdempotencyRecord db key with
  | none => .error (.uncertain "accepted_effect_reservation_missing")
  | some record =>
    if record.jobId ≠ request.jobId ∨ record.operation ≠ request.operation then
      .error (.uncertain "accepted_effect_reservation_missing")
    else if record.completedAt.isSome then
      if (getLatestEffectAttempt db key).any (fun prior =>
          decide (prior.effectState = .confirmed ∧ prior.providerObjectId = some createdId)) then
        .ok db
      else
        .error (.uncertain "concurrent_confirmation_identity_mismatch")
    else
      recordNext db request key .unknown (some createdId) now

/-- The transaction of the exception handler. -/
def recordFailure (db : Database) (request : EffectRequest) (key : String)
    (definiteAbsence : Bool) (knownId : Option String) (now : Moment) :
    Except DraftEffectError Database := do
  let _ ← leasedJob db request now
  match getIdempotencyRecord db key with
  | none => .ok db
  | some record =>
    if record.completedAt.isSome then
      .ok db
    else if definiteAbsence then
      recordNext db request key .absent none now
    else
      recordNext db request key .unknown knownId now

/-- A committed effect, in the append-only ledger. -/
structure Receipt where
  jobId : Uuid
  idempotencyKey : String
  provider : String
  operation : String
  sideEffectClass : SideEffectClass
  autonomyMode : AutonomyMode
  effectState : EffectState
  providerObjectId : Option String
  safeDetail : List (String × String)
  recordedAt : Moment
  deriving DecidableEq, Repr

/-- The row `record_receipt` adds for a confirmed draft effect. -/
def draftReceipt (request : EffectRequest) (key objectId : String) (now : Moment) : Receipt :=
  { jobId := request.jobId
    idempotencyKey := key
    provider := request.provider
    operation := request.operation
    sideEffectClass := .externalWrite
    autonomyMode := .draft
    effectState := .confirmed
    providerObjectId := some objectId
    safeDetail :=
      [("run_id", request.authority.runId), ("product_id", uuidStr request.authority.productId),
        ("provenance", "real_provider_readback"), ("scope", "one_private_product_etsy_draft")]
    recordedAt := now }

/-- The tables the calls share. -/
structure Store where
  db : Database
  receipts : List Receipt

/-- Add a receipt; a key has at most one of an operation and an instant. -/
def recordReceipt (receipts : List Receipt) (receipt : Receipt) :
    Except DraftEffectError (List Receipt) :=
  if receipts.any (fun old => decide (old.idempotencyKey = receipt.idempotencyKey ∧
      old.operation = receipt.operation ∧ old.recordedAt = receipt.recordedAt)) then
    .error .other
  else
    .ok (receipts ++ [receipt])

/-- The last transaction: confirm, receipt and complete at once. -/
def confirmEffect (store : Store) (request : EffectRequest) (key objectId : String)
    (now : Moment) : Except DraftEffectError Store := do
  let _ ← leasedJob store.db request now
  match getIdempotencyRecord store.db key with
  | none => .error (.refused "reservation_missing")
  | some record =>
    if record.completedAt.isSome then
      .ok store
    else do
      let db₁ ← recordNext store.db request key .confirmed (some objectId) now
      let receipts ← recordReceipt store.receipts (draftReceipt request key objectId now)
      let db₂ ← liftError (markIdempotencyCompleted db₁ key now)
      .ok { db := db₂, receipts := receipts }

/-! ## One call -/

/-- Where a call of `execute` stands: what it awaits, or how it ended. -/
inductive Phase
  | idle
  /-- Awaiting `reconcile(known_id)`. -/
  | reconciling
  | rechecking
  /-- Awaiting `create()`. -/
  | creating
  | preserving (createdId : String)
  | relocking (createdId : String)
  /-- Awaiting `reconcile(created_id)`. -/
  | readingBack (createdId : String)
  /-- In the exception handler. -/
  | failing (error : DraftEffectError)
  | confirming (objectId : String)
  | returned (objectId : String)
  | raised (error : DraftEffectError)
  | crashed
  deriving DecidableEq, Repr

/-- The locals of a call.  The last two are not variables of the source: they remember how the
awaited `create()` ended and whether the call recorded the absence of its effect. -/
structure Call where
  phase : Phase
  key : Option String
  knownId : Option String
  mayCreate : Bool
  mutationStarted : Bool
  createReturned : Bool
  createRefused : Bool
  released : Bool
  deriving DecidableEq, Repr

def Call.initial : Call :=
  { phase := .idle
    key := none
    knownId := none
    mayCreate := false
    mutationStarted := false
    createReturned := false
    createRefused := false
    released := false }

/-- What an awaited callable did. -/
inductive Answer
  | none
  /-- An object; `id` is `str(object.get("id", ""))`. -/
  | object (id : String)
  /-- Something whose `get` raises. -/
  | malformed
  | raised (error : DraftEffectError)
  deriving DecidableEq, Repr

/-- How a transaction that ran to its end came out: committed, committed with the confirmation
lost, or rolled back by the database. -/
inductive Commit
  | committed
  | lost
  | aborted
  deriving DecidableEq, Repr

inductive CallEvent
  | transaction (now : Moment) (commit : Commit)
  | answered (answer : Answer)
  | crash
  deriving DecidableEq, Repr

/-- `definite_absence`. -/
def Call.definiteAbsence (call : Call) (error : DraftEffectError) : Bool :=
  call.mayCreate && (!call.mutationStarted || (error.isRefused && !call.createReturned))

/-- The exception that leaves the handler. -/
def handledError : DraftEffectError → DraftEffectError
  | .other => .uncertain "provider_effect_requires_read_reconciliation"
  | error => error

/-- The end of the `try` block: the observed object must be the known one. -/
def Call.observe (call : Call) (objectId : String) : Call :=
  if objectId = "" ∨ (call.knownId.isSome ∧ call.knownId ≠ some objectId) then
    { call with phase := .failing (.uncertain "provider_object_identity_mismatch") }
  else
    { call with phase := .confirming objectId }

/-- A transaction inside the `try` block: it changes the store when it commits, and the call goes on
only when it learns so. -/
def inTry (store : Store) (call next : Call) (commit : Commit) :
    Except DraftEffectError Store → Store × Call
  | .error error => (store, { call with phase := .failing error })
  | .ok store' =>
    match commit with
    | .committed => (store', next)
    -- The database has the rows, the call has an exception.
    | .lost => (store', { call with phase := .failing .other })
    | .aborted => (store, { call with phase := .failing .other })

/-- A transaction outside it: an exception ends the call. -/
def outsideTry (store : Store) (call next : Call) (commit : Commit) :
    Except DraftEffectError Store → Store × Call
  | .error error => (store, { call with phase := .raised error })
  | .ok store' =>
    match commit with
    | .committed => (store', next)
    | .lost => (store', { next with phase := .raised .other })
    | .aborted => (store, { call with phase := .raised .other })

/-- The locals after the first transaction. -/
def Call.claimed (call : Call) (claim : Claim) : Call :=
  { call with
    phase := .reconciling
    key := some claim.key
    knownId := claim.knownId
    mayCreate := claim.mayCreate }

section CallStep

variable (request : EffectRequest) (store : Store)

/-- The database transaction a call is about to run. -/
def Call.transact (call : Call) (now : Moment) (commit : Commit) : Store × Call :=
  match call.phase with
  | .idle =>
    match beginEffect store.db request now with
    | .error error => outsideTry store call call commit (.error error)
    | .ok (db, claim) =>
      outsideTry store call (call.claimed claim) commit (.ok { store with db := db })
  | .rechecking =>
    inTry store call { call with phase := .creating, mutationStarted := true } commit
      ((recheckReservation store.db request (call.key.getD "") now).map (fun _ => store))
  | .preserving createdId =>
    inTry store call { call with phase := .relocking createdId } commit
      ((preserveIdentity store.db request (call.key.getD "") createdId now).map
        (fun db => { store with db := db }))
  -- The lock is taken again and nothing is written.
  | .relocking createdId =>
    inTry store call { call with phase := .readingBack createdId } commit
      ((leasedJob store.db request now).map (fun _ => store))
  -- The handler's own transaction is outside the `try` block it handles.
  | .failing error =>
    outsideTry store call
      { call with
        phase := .raised (handledError error)
        released := call.definiteAbsence error }
      commit
      ((recordFailure store.db request (call.key.getD "") (call.definiteAbsence error)
        call.knownId now).map (fun db => { store with db := db }))
  | .confirming objectId =>
    outsideTry store call { call with phase := .returned objectId } commit
      (confirmEffect store request (call.key.getD "") objectId now)
  | _ => (store, call)

/-- The awaited callable comes back. -/
def Call.receive (call : Call) (answer : Answer) : Call :=
  match call.phase with
  | .reconciling =>
    match answer with
    | .none =>
      if call.mayCreate then
        { call with phase := .rechecking }
      else
        { call with phase := .failing (.uncertain "pending_effect_not_yet_reconciled") }
    | .object id => call.observe id
    | .malformed => { call with phase := .failing .other }
    | .raised error => { call with phase := .failing error }
  | .creating =>
    match answer with
    | .object id =>
      if id = "" then
        { call with
          phase := .failing (.uncertain "provider_object_id_missing")
          createReturned := true }
      else
        { call with phase := .preserving id, knownId := some id, createReturned := true }
    -- `create_returned` stays false: the exception left `create()` itself.
    | .raised error =>
      { call with phase := .failing error, createRefused := error.isRefused }
    -- The call returned, and what it returned has no `get`.
    | .none => { call with phase := .failing .other, createReturned := true }
    | .malformed => { call with phase := .failing .other, createReturned := true }
  | .readingBack createdId =>
    match answer with
    | .none => { call with phase := .failing (.uncertain "fresh_provider_readback_missing") }
    | .object id =>
      if id = createdId then
        call.observe id
      else
        { call with phase := .failing (.uncertain "fresh_provider_readback_missing") }
    | .malformed => { call with phase := .failing .other }
    | .raised error => { call with phase := .failing error }
  | _ => call

/-- The call has ended. -/
def Phase.finished : Phase → Bool
  | .returned _ => true
  | .raised _ => true
  | .crashed => true
  | _ => false

def callStep (call : Call) : CallEvent → Store × Call
  | .transaction now commit => call.transact request store now commit
  | .answered answer => (store, call.receive answer)
  | .crash => (store, if call.phase.finished then call else { call with phase := .crashed })

end CallStep

/-! ## Any number of calls -/

/-- The columns an effect's key is derived from; no operation writes them. -/
def sameIdentity (job job' : Job) : Prop :=
  job'.id = job.id ∧ job'.jobType = job.jobType ∧ job'.workflowId = job.workflowId ∧
    job'.objectId = job.objectId

instance (job job' : Job) : Decidable (sameIdentity job job') :=
  inferInstanceAs (Decidable (_ ∧ _))

/-- Whatever else happens to the jobs, workflows and shops meanwhile. -/
structure Environment where
  shops : List Shop
  workflows : Table WorkflowRun WorkflowRun.id
  jobs : Table Job Job.id
  budget : ∀ job ∈ jobs.rows, job.WithinBudget

/-- The environment keeps every job and its identity. -/
def Environment.Keeps (environment : Environment) (db : Database) : Prop :=
  ∀ job ∈ db.jobs.rows, ∃ job' ∈ environment.jobs.rows, sameIdentity job job'

instance (environment : Environment) (db : Database) : Decidable (environment.Keeps db) :=
  inferInstanceAs (Decidable (∀ job ∈ db.jobs.rows, ∃ job' ∈ environment.jobs.rows, _))

def Environment.write (environment : Environment) (db : Database) : Database :=
  { db with
    shops := environment.shops
    workflows := environment.workflows
    jobs := environment.jobs
    budget := environment.budget }

/-- The shared tables and the calls; a call is named by an index. -/
structure DraftSystem (ι : Type) where
  store : Store
  calls : ι → Call

inductive DraftEvent (ι : Type)
  | call (c : ι) (event : CallEvent)
  | environment (environment : Environment)

section System

variable {ι : Type} [DecidableEq ι] (requests : ι → EffectRequest)

/-- No call has begun. -/
def DraftSystem.start (store : Store) : DraftSystem ι :=
  { store := store
    calls := fun _ => Call.initial }

def draftStep (system : DraftSystem ι) : DraftEvent ι → DraftSystem ι
  | .call c event =>
    let stepped := callStep (requests c) system.store (system.calls c) event
    { store := stepped.1
      calls := Function.update system.calls c stepped.2 }
  | .environment environment =>
    if environment.Keeps system.store.db then
      { system with
        store := { system.store with db := environment.write system.store.db } }
    else
      system

end System

end Application
end MoneyMachine
