import MoneyMachine.Domain.Basic
import MoneyMachine.Domain.Enums

/-!
# TransitionGuard — errors of the orchestration layer and the transition tables

`jobTransitions` and `productTransitions` are the immutable tables `JOB_TRANSITIONS` and
`PRODUCT_TRANSITIONS`; the guards reject any edge that is absent from them.
-/

namespace MoneyMachine
namespace Orchestration

open MoneyMachine.Domain

/-! ## Errors -/

/-- The exceptions the orchestration operations raise, with their messages. -/
inductive OrchestrationError
  | valueError (message : String)
  | invalidTransition (message : String)
  | overflow (message : String)
  | leaseNotHeld (message : String)
  | leaseExpired (message : String)
  | jobNotFound (message : String)
  | workflowNotFound (message : String)
  | invalidRetry (message : String)
  | engine (message : String)
  | dependencyNotSatisfied (message : String)
  | workflowInactive (message : String)
  | idempotencyCollision (message : String)
  | dependencyResolution (message : String)
  | idempotencyKeyReserved (message : String)
  | reconciliationBudgetExhausted (message : String)
  | eventAppend (message : String)
  /-- A constraint of the database refused the flush; the constraint is named. -/
  | integrity (name : String)
  deriving DecidableEq, Repr

/-- The subclasses of `DependencyResolutionError`, which `promote_due_jobs` skips over. -/
def OrchestrationError.isDependencyResolution : OrchestrationError → Bool
  | .dependencyNotSatisfied _ => true
  | .workflowInactive _ => true
  | .idempotencyCollision _ => true
  | .dependencyResolution _ => true
  | _ => false

/-! ## Job transitions -/

/-- `JOB_TRANSITIONS`. -/
def jobTransitions : JobStatus → List JobStatus
  | .pending => [.blocked, .ready, .cancelled]
  | .blocked => [.ready, .cancelled]
  | .ready => [.running, .cancelled]
  | .running => [.succeeded, .failed, .blocked, .uncertainExternalEffect]
  | .failed => [.ready, .terminalFailure]
  | .uncertainExternalEffect => [.succeeded, .failed, .blocked]
  | .succeeded => []
  | .terminalFailure => []
  | .cancelled => []

def requireJobTransition (source target : JobStatus) : Except OrchestrationError Unit :=
  if target ∈ jobTransitions source then
    .ok ()
  else
    .error (.invalidTransition
      ("invalid job transition: " ++ source.value ++ " -> " ++ target.value))

theorem requireJobTransition_eq_ok_iff {source target : JobStatus} :
    requireJobTransition source target = .ok () ↔ target ∈ jobTransitions source := by
  unfold requireJobTransition
  split <;> simp_all

/-! ## Product transitions -/

/-- `PRODUCT_TRANSITIONS`. -/
def productTransitions : ProductLifecycleState → List ProductLifecycleState
  | .discovered => [.researching]
  | .researching => [.researchComplete]
  | .researchComplete => [.qualifying]
  | .qualifying => [.qualified, .rejected]
  | .qualified => [.teardownPending]
  | .rejected => []
  | .teardownPending => [.teardownComplete]
  | .teardownComplete => [.specReady]
  | .specReady => [.dedupeCheck]
  | .dedupeCheck => [.reconcepting, .building]
  | .reconcepting => [.specReady]
  | .building => [.buildQa]
  | .buildQa => [.buildRepair, .variantBuild]
  | .buildRepair => [.buildQa]
  | .variantBuild => [.variantQa]
  | .variantQa => [.variantBuild, .merchandising]
  | .merchandising => [.assetBuild]
  | .assetBuild => [.assetQa]
  | .assetQa => [.assetBuild, .drafting]
  | .drafting => [.draftReady]
  | .draftReady => [.preflight]
  | .preflight => [.listingRepair, .readyToPublish]
  | .listingRepair => [.preflight]
  | .readyToPublish => [.published]
  | .published => [.postPublishQa]
  | .postPublishQa => [.incidentRepair, .observing]
  | .incidentRepair => [.postPublishQa]
  | .observing => [.mature]
  | .mature => [.evaluating]
  | .evaluating => [.observing, .repairing, .deactivating, .successorSpec]
  | .repairing => [.observing]
  | .deactivating => [.deactivated]
  | .deactivated => []
  -- The winner goes back to OBSERVING; its successor is another workflow.
  | .successorSpec => [.observing]

def requireProductTransition (source target : ProductLifecycleState) :
    Except OrchestrationError Unit :=
  if target ∈ productTransitions source then
    .ok ()
  else
    .error (.invalidTransition
      ("invalid product transition: " ++ source.value ++ " -> " ++ target.value))

/-- `require_successor_spawn`: the entry state of the successor. -/
def requireSuccessorSpawn (parentState : ProductLifecycleState)
    (parentWorkflowId successorWorkflowId : Uuid) :
    Except OrchestrationError ProductLifecycleState :=
  if parentState ≠ .successorSpec then
    .error (.invalidTransition
      ("successor workflows spawn only from SUCCESSOR_SPEC, not " ++ parentState.value))
  else if parentWorkflowId = successorWorkflowId then
    .error (.invalidTransition
      ("successor workflow must differ from the parent workflow; " ++
        "SUCCESSOR_SPEC -> DEDUPE_CHECK is not a same-workflow transition"))
  else
    .ok .dedupeCheck

end Orchestration
end MoneyMachine
