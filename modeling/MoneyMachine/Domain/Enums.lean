/-!
# Enums — the closed taxonomies of the domain

Each enumeration lists the members of the source's `StrEnum` in order, and `value` is the text the
database and the messages carry.
-/

namespace MoneyMachine
namespace Domain

/-! ## JobStatus -/

/-- Durable orchestration job states. -/
inductive JobStatus
  | pending
  | blocked
  | ready
  | running
  | succeeded
  | failed
  | terminalFailure
  | cancelled
  | uncertainExternalEffect
  deriving DecidableEq, Repr

def JobStatus.value : JobStatus → String
  | .pending => "PENDING"
  | .blocked => "BLOCKED"
  | .ready => "READY"
  | .running => "RUNNING"
  | .succeeded => "SUCCEEDED"
  | .failed => "FAILED"
  | .terminalFailure => "TERMINAL_FAILURE"
  | .cancelled => "CANCELLED"
  | .uncertainExternalEffect => "UNCERTAIN_EXTERNAL_EFFECT"

/-! ## RetryClass -/

/-- Retry safety contract for a job. -/
inductive RetryClass
  | safe
  | idempotent
  | reconcileFirst
  | manualResume
  | never
  deriving DecidableEq, Repr

/-! ## SideEffectClass -/

/-- External-effect classification for a job. -/
inductive SideEffectClass
  | none
  | externalRead
  | externalWrite
  | externalSpend
  | externalMessage
  deriving DecidableEq, Repr

/-! ## AgentRunStatus -/

/-- Terminal statuses returned by one agent run. -/
inductive AgentRunStatus
  | success
  | failure
  | blocked
  | uncertainExternalEffect
  deriving DecidableEq, Repr

/-! ## AutonomyMode -/

/-- Standing-authority operating modes. -/
inductive AutonomyMode
  | simulation
  | draft
  | live
  deriving DecidableEq, Repr

/-! ## ProductLifecycleState -/

/-- Durable product experiment lifecycle states. -/
inductive ProductLifecycleState
  | discovered
  | researching
  | researchComplete
  | qualifying
  | qualified
  | rejected
  | teardownPending
  | teardownComplete
  | specReady
  | dedupeCheck
  | reconcepting
  | building
  | buildQa
  | buildRepair
  | variantBuild
  | variantQa
  | merchandising
  | assetBuild
  | assetQa
  | drafting
  | draftReady
  | preflight
  | listingRepair
  | readyToPublish
  | published
  | postPublishQa
  | incidentRepair
  | observing
  | mature
  | evaluating
  | repairing
  | deactivating
  | deactivated
  | successorSpec
  deriving DecidableEq, Repr

def ProductLifecycleState.value : ProductLifecycleState → String
  | .discovered => "DISCOVERED"
  | .researching => "RESEARCHING"
  | .researchComplete => "RESEARCH_COMPLETE"
  | .qualifying => "QUALIFYING"
  | .qualified => "QUALIFIED"
  | .rejected => "REJECTED"
  | .teardownPending => "TEARDOWN_PENDING"
  | .teardownComplete => "TEARDOWN_COMPLETE"
  | .specReady => "SPEC_READY"
  | .dedupeCheck => "DEDUPE_CHECK"
  | .reconcepting => "RECONCEPTING"
  | .building => "BUILDING"
  | .buildQa => "BUILD_QA"
  | .buildRepair => "BUILD_REPAIR"
  | .variantBuild => "VARIANT_BUILD"
  | .variantQa => "VARIANT_QA"
  | .merchandising => "MERCHANDISING"
  | .assetBuild => "ASSET_BUILD"
  | .assetQa => "ASSET_QA"
  | .drafting => "DRAFTING"
  | .draftReady => "DRAFT_READY"
  | .preflight => "PREFLIGHT"
  | .listingRepair => "LISTING_REPAIR"
  | .readyToPublish => "READY_TO_PUBLISH"
  | .published => "PUBLISHED"
  | .postPublishQa => "POST_PUBLISH_QA"
  | .incidentRepair => "INCIDENT_REPAIR"
  | .observing => "OBSERVING"
  | .mature => "MATURE"
  | .evaluating => "EVALUATING"
  | .repairing => "REPAIRING"
  | .deactivating => "DEACTIVATING"
  | .deactivated => "DEACTIVATED"
  | .successorSpec => "SUCCESSOR_SPEC"

/-! ## EventName -/

/-- Portfolio decisions available after evaluation. -/
inductive DecisionType
  | hold
  | repair
  | cull
  | multiply
  deriving DecidableEq, Repr

def DecisionType.value : DecisionType → String
  | .hold => "HOLD"
  | .repair => "REPAIR"
  | .cull => "CULL"
  | .multiply => "MULTIPLY"

/-- Events that may unlock transactional workflow successors. -/
inductive EventName
  | accountConnected
  | researchCompleted
  | nicheShortlisted
  | productQualified
  | productRejected
  | teardownCompleted
  | productSpecCreated
  | dedupePassed
  | dedupeFailed
  | buildCompleted
  | buildQaPassed
  | buildQaFailed
  | variantsCompleted
  | assetsCompleted
  | draftCreated
  | preflightPassed
  | preflightFailed
  | listingPublished
  | postPublishVerified
  | metricsCaptured
  | listingMatured
  | listingHeld
  | listingRepairRequested
  | listingCulled
  | winnerDetected
  | successorCreated
  | customerIssueReceived
  | brokenLinkDetected
  | repairCompleted
  | jobFailed
  | jobStalled
  | credentialRequired
  | environmentAudited
  | shopBootstrapped
  | nicheSelected
  | competitorPurchased
  | variantLinksVerified
  | screenshotsCaptured
  | listingCopyCompleted
  | deliveryFilesCompleted
  | pricingCompleted
  | proofFeedbackCaptured
  | scheduleConfigured
  | buildSlotDeferred
  | monthlyReviewCompleted
  | scaleDecided
  | listingCullRequested
  | repairApplied
  deriving DecidableEq, Repr

def EventName.value : EventName → String
  | .accountConnected => "ACCOUNT_CONNECTED"
  | .researchCompleted => "RESEARCH_COMPLETED"
  | .nicheShortlisted => "NICHE_SHORTLISTED"
  | .productQualified => "PRODUCT_QUALIFIED"
  | .productRejected => "PRODUCT_REJECTED"
  | .teardownCompleted => "TEARDOWN_COMPLETED"
  | .productSpecCreated => "PRODUCT_SPEC_CREATED"
  | .dedupePassed => "DEDUPE_PASSED"
  | .dedupeFailed => "DEDUPE_FAILED"
  | .buildCompleted => "BUILD_COMPLETED"
  | .buildQaPassed => "BUILD_QA_PASSED"
  | .buildQaFailed => "BUILD_QA_FAILED"
  | .variantsCompleted => "VARIANTS_COMPLETED"
  | .assetsCompleted => "ASSETS_COMPLETED"
  | .draftCreated => "DRAFT_CREATED"
  | .preflightPassed => "PREFLIGHT_PASSED"
  | .preflightFailed => "PREFLIGHT_FAILED"
  | .listingPublished => "LISTING_PUBLISHED"
  | .postPublishVerified => "POST_PUBLISH_VERIFIED"
  | .metricsCaptured => "METRICS_CAPTURED"
  | .listingMatured => "LISTING_MATURED"
  | .listingHeld => "LISTING_HELD"
  | .listingRepairRequested => "LISTING_REPAIR_REQUESTED"
  | .listingCulled => "LISTING_CULLED"
  | .winnerDetected => "WINNER_DETECTED"
  | .successorCreated => "SUCCESSOR_CREATED"
  | .customerIssueReceived => "CUSTOMER_ISSUE_RECEIVED"
  | .brokenLinkDetected => "BROKEN_LINK_DETECTED"
  | .repairCompleted => "REPAIR_COMPLETED"
  | .jobFailed => "JOB_FAILED"
  | .jobStalled => "JOB_STALLED"
  | .credentialRequired => "CREDENTIAL_REQUIRED"
  | .environmentAudited => "ENVIRONMENT_AUDITED"
  | .shopBootstrapped => "SHOP_BOOTSTRAPPED"
  | .nicheSelected => "NICHE_SELECTED"
  | .competitorPurchased => "COMPETITOR_PURCHASED"
  | .variantLinksVerified => "VARIANT_LINKS_VERIFIED"
  | .screenshotsCaptured => "SCREENSHOTS_CAPTURED"
  | .listingCopyCompleted => "LISTING_COPY_COMPLETED"
  | .deliveryFilesCompleted => "DELIVERY_FILES_COMPLETED"
  | .pricingCompleted => "PRICING_COMPLETED"
  | .proofFeedbackCaptured => "PROOF_FEEDBACK_CAPTURED"
  | .scheduleConfigured => "SCHEDULE_CONFIGURED"
  | .buildSlotDeferred => "BUILD_SLOT_DEFERRED"
  | .monthlyReviewCompleted => "MONTHLY_REVIEW_COMPLETED"
  | .scaleDecided => "SCALE_DECIDED"
  | .listingCullRequested => "LISTING_CULL_REQUESTED"
  | .repairApplied => "REPAIR_APPLIED"

/-! ## EffectState -/

/-- Reconciliation outcome for one attempted external effect. -/
inductive EffectState
  | confirmed
  | absent
  | unknown
  deriving DecidableEq, Repr

def EffectState.value : EffectState → String
  | .confirmed => "CONFIRMED"
  | .absent => "ABSENT"
  | .unknown => "UNKNOWN"

end Domain
end MoneyMachine
