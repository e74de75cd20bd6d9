import MoneyMachine.Domain.Enums

/-!
# WorkflowConfig — the configured events and jobs

The content of `config/workflows.yaml`: which successor jobs an event creates, and what each job of
the one configured workflow is.  The keys `successor_job_types`, `capability_operation` and
`capability_channel` of a job are not read by the functions modelled here.
-/

namespace MoneyMachine
namespace Orchestration

open MoneyMachine.Domain

/-- `WorkflowJobDefinition`. -/
structure JobDefinition where
  jobType : String
  ownerAgentId : String
  sideEffectClass : SideEffectClass
  retryClass : RetryClass
  allowedModes : List AutonomyMode
  outputContracts : List String
  admittedEvents : List EventName
  deriving DecidableEq, Repr

/-- `WorkflowDefinition`. -/
structure WorkflowDefinition where
  workflowType : String
  entryJobTypes : List String
  jobs : List JobDefinition
  deriving DecidableEq, Repr

/-- `event_successor_map`. -/
def eventSuccessorMap : List (EventName × List String) :=
  [(.accountConnected, ["EnvironmentAuditJob"]),
    (.environmentAudited, ["WorkspaceProvisioningJob"]),
    (.shopBootstrapped, ["ResearchCollectionJob"]),
    (.researchCompleted, ["ShortlistJob"]),
    (.nicheShortlisted, ["QualificationJob"]),
    (.productQualified, ["NicheSelectionJob"]),
    (.productRejected, ["NicheSelectionJob"]),
    (.nicheSelected, ["CompetitorPurchaseJob"]),
    (.competitorPurchased, ["TeardownJob"]),
    (.teardownCompleted, ["ProductSpecJob"]),
    (.productSpecCreated, ["DedupeJob"]),
    (.dedupePassed, ["ProductBuildJob"]),
    (.dedupeFailed, ["ReconceptProductJob"]),
    (.buildCompleted, ["ProductQAJob"]),
    (.buildQaPassed, ["VariantBuildJob"]),
    (.buildQaFailed, ["BuildRepairJob"]),
    (.variantsCompleted, ["VariantPublishJob"]),
    (.variantLinksVerified, ["ScreenshotJob"]),
    (.screenshotsCaptured, ["ListingCopyJob", "AssetFactoryJob", "DeliveryBuildJob"]),
    (.listingCopyCompleted, ["PricingJob"]),
    (.assetsCompleted, ["DraftListingJob"]),
    (.deliveryFilesCompleted, ["PreflightJob"]),
    (.pricingCompleted, []),
    (.draftCreated, ["PreflightJob"]),
    (.preflightPassed, ["PublishListingJob"]),
    (.preflightFailed, ["ListingRepairJob"]),
    (.listingPublished, ["PostPublishVerificationJob"]),
    (.postPublishVerified, ["ProofDistributionJob"]),
    (.scheduleConfigured, ["WeeklyReviewJob", "MonthlyDeepPassJob"]),
    (.metricsCaptured, ["PortfolioDecisionJob"]),
    (.listingMatured, ["PortfolioDecisionJob"]),
    (.listingHeld, ["WeeklyReviewJob"]),
    (.listingRepairRequested, ["IncidentRepairJob"]),
    (.listingCullRequested, ["DeactivateListingJob"]),
    (.listingCulled, ["BuildSlotJob"]),
    (.successorCreated, []),
    (.buildSlotDeferred, ["ResearchCollectionJob"]),
    (.monthlyReviewCompleted, ["ResearchCollectionJob", "BuildSlotJob", "ScaleEvaluationJob"]),
    (.scaleDecided, ["BuildSlotJob", "MonthlyDeepPassJob"]),
    (.repairApplied, ["ProductQAJob"]),
    (.repairCompleted, ["PreflightJob"]),
    (.proofFeedbackCaptured, ["WeeklyReviewJob"]),
    (.customerIssueReceived, ["IncidentRepairJob"]),
    (.brokenLinkDetected, ["IncidentRepairJob"]),
    (.jobFailed, ["IncidentRepairJob"]),
    (.credentialRequired, []),
    (.winnerDetected, []),
    (.jobStalled, [])]

/-- The jobs of `ProductLifecycleWorkflow`. -/
def productLifecycleJobs : List JobDefinition :=
  [ { jobType := "ProvisioningCheckJob"
      ownerAgentId := "A02"
      sideEffectClass := .externalWrite
      retryClass := .manualResume
      allowedModes := [.simulation, .live]
      outputContracts := ["AgentResult", "IncidentResult"]
      admittedEvents := [.accountConnected, .credentialRequired] },
    { jobType := "EnvironmentAuditJob"
      ownerAgentId := "A02"
      sideEffectClass := .none
      retryClass := .safe
      allowedModes := [.simulation, .draft, .live]
      outputContracts := ["AgentResult", "IncidentResult"]
      admittedEvents := [.environmentAudited, .credentialRequired] },
    { jobType := "WorkspaceProvisioningJob"
      ownerAgentId := "A02"
      sideEffectClass := .externalWrite
      retryClass := .manualResume
      allowedModes := [.simulation, .live]
      outputContracts := ["AgentResult", "IncidentResult"]
      admittedEvents := [.accountConnected, .credentialRequired] },
    { jobType := "ShopProvisioningJob"
      ownerAgentId := "A02"
      sideEffectClass := .externalWrite
      retryClass := .manualResume
      allowedModes := [.simulation, .live]
      outputContracts := ["AgentResult", "IncidentResult"]
      admittedEvents := [.accountConnected, .credentialRequired] },
    { jobType := "BootstrapRecordsJob"
      ownerAgentId := "A01"
      sideEffectClass := .externalWrite
      retryClass := .idempotent
      allowedModes := [.simulation, .draft, .live]
      outputContracts := ["AgentResult"]
      admittedEvents := [.shopBootstrapped] },
    { jobType := "ResearchCollectionJob"
      ownerAgentId := "A03"
      sideEffectClass := .externalRead
      retryClass := .safe
      allowedModes := [.simulation, .draft, .live]
      outputContracts := ["AgentResult", "ResearchReport"]
      admittedEvents := [.researchCompleted] },
    { jobType := "ShortlistJob"
      ownerAgentId := "A03"
      sideEffectClass := .none
      retryClass := .safe
      allowedModes := [.simulation, .draft, .live]
      outputContracts := ["AgentResult"]
      admittedEvents := [.nicheShortlisted] },
    { jobType := "QualificationJob"
      ownerAgentId := "A05"
      sideEffectClass := .none
      retryClass := .safe
      allowedModes := [.simulation, .draft, .live]
      outputContracts := ["AgentResult"]
      admittedEvents := [.productQualified, .productRejected] },
    { jobType := "NicheSelectionJob"
      ownerAgentId := "A05"
      sideEffectClass := .none
      retryClass := .safe
      allowedModes := [.simulation, .draft, .live]
      outputContracts := ["AgentResult"]
      admittedEvents := [.nicheSelected] },
    { jobType := "CompetitorPurchaseJob"
      ownerAgentId := "A04"
      sideEffectClass := .externalSpend
      retryClass := .reconcileFirst
      allowedModes := [.simulation, .live]
      outputContracts := ["AgentResult"]
      admittedEvents := [.competitorPurchased, .credentialRequired] },
    { jobType := "TeardownJob"
      ownerAgentId := "A04"
      sideEffectClass := .none
      retryClass := .safe
      allowedModes := [.simulation, .draft, .live]
      outputContracts := ["AgentResult", "TeardownReport"]
      admittedEvents := [.teardownCompleted] },
    { jobType := "ProductSpecJob"
      ownerAgentId := "A05"
      sideEffectClass := .none
      retryClass := .safe
      allowedModes := [.simulation, .draft, .live]
      outputContracts := ["AgentResult", "ProductSpec"]
      admittedEvents := [.productSpecCreated] },
    { jobType := "DedupeJob"
      ownerAgentId := "A06"
      sideEffectClass := .none
      retryClass := .safe
      allowedModes := [.simulation, .draft, .live]
      outputContracts := ["AgentResult", "DedupeResult"]
      admittedEvents := [.dedupePassed, .dedupeFailed] },
    { jobType := "ReconceptProductJob"
      ownerAgentId := "A05"
      sideEffectClass := .none
      retryClass := .safe
      allowedModes := [.simulation, .draft, .live]
      outputContracts := ["AgentResult", "ProductSpec"]
      admittedEvents := [.productSpecCreated] },
    { jobType := "ProductBuildJob"
      ownerAgentId := "A07"
      sideEffectClass := .externalWrite
      retryClass := .idempotent
      allowedModes := [.simulation, .draft, .live]
      outputContracts := ["AgentResult", "BuildResult"]
      admittedEvents := [.buildCompleted] },
    { jobType := "ProductQAJob"
      ownerAgentId := "A09"
      sideEffectClass := .externalRead
      retryClass := .safe
      allowedModes := [.simulation, .draft, .live]
      outputContracts := ["AgentResult", "ProductQAResult"]
      admittedEvents := [.buildQaPassed, .buildQaFailed, .repairCompleted] },
    { jobType := "BuildRepairJob"
      ownerAgentId := "A07"
      sideEffectClass := .externalWrite
      retryClass := .reconcileFirst
      allowedModes := [.simulation, .draft, .live]
      outputContracts := ["AgentResult", "BuildResult"]
      admittedEvents := [.repairApplied] },
    { jobType := "VariantBuildJob"
      ownerAgentId := "A08"
      sideEffectClass := .externalWrite
      retryClass := .idempotent
      allowedModes := [.simulation, .draft, .live]
      outputContracts := ["AgentResult", "BuildResult"]
      admittedEvents := [.variantsCompleted] },
    { jobType := "VariantPublishJob"
      ownerAgentId := "A08"
      sideEffectClass := .externalWrite
      retryClass := .reconcileFirst
      allowedModes := [.simulation, .draft, .live]
      outputContracts := ["AgentResult", "BuildResult"]
      admittedEvents := [.variantLinksVerified] },
    { jobType := "ScreenshotJob"
      ownerAgentId := "A11"
      sideEffectClass := .externalRead
      retryClass := .safe
      allowedModes := [.simulation, .draft, .live]
      outputContracts := ["AgentResult", "BuildResult", "ArtifactReference"]
      admittedEvents := [.screenshotsCaptured] },
    { jobType := "ListingCopyJob"
      ownerAgentId := "A10"
      sideEffectClass := .none
      retryClass := .safe
      allowedModes := [.simulation, .draft, .live]
      outputContracts := ["AgentResult", "ListingPackage"]
      admittedEvents := [.listingCopyCompleted] },
    { jobType := "AssetFactoryJob"
      ownerAgentId := "A11"
      sideEffectClass := .none
      retryClass := .safe
      allowedModes := [.simulation, .draft, .live]
      outputContracts := ["AgentResult", "BuildResult", "ArtifactReference"]
      admittedEvents := [.assetsCompleted] },
    { jobType := "DeliveryBuildJob"
      ownerAgentId := "A11"
      sideEffectClass := .none
      retryClass := .safe
      allowedModes := [.simulation, .draft, .live]
      outputContracts := ["AgentResult", "BuildResult", "ArtifactReference"]
      admittedEvents := [.deliveryFilesCompleted] },
    { jobType := "PricingJob"
      ownerAgentId := "A10"
      sideEffectClass := .none
      retryClass := .safe
      allowedModes := [.simulation, .draft, .live]
      outputContracts := ["AgentResult", "ListingPackage"]
      admittedEvents := [.pricingCompleted] },
    { jobType := "DraftListingJob"
      ownerAgentId := "A13"
      sideEffectClass := .externalWrite
      retryClass := .reconcileFirst
      allowedModes := [.simulation, .draft, .live]
      outputContracts := ["AgentResult", "ListingPackage"]
      admittedEvents := [.draftCreated] },
    { jobType := "PreflightJob"
      ownerAgentId := "A12"
      sideEffectClass := .externalRead
      retryClass := .safe
      allowedModes := [.simulation, .draft, .live]
      outputContracts := ["AgentResult", "PreflightResult"]
      admittedEvents := [.preflightPassed, .preflightFailed, .repairCompleted] },
    { jobType := "ListingRepairJob"
      ownerAgentId := "A13"
      sideEffectClass := .externalWrite
      retryClass := .reconcileFirst
      allowedModes := [.simulation, .draft, .live]
      outputContracts := ["AgentResult", "ListingPackage"]
      admittedEvents := [.repairApplied] },
    { jobType := "PublishListingJob"
      ownerAgentId := "A13"
      sideEffectClass := .externalWrite
      retryClass := .reconcileFirst
      allowedModes := [.simulation, .live]
      outputContracts := ["AgentResult"]
      admittedEvents := [.listingPublished] },
    { jobType := "PostPublishVerificationJob"
      ownerAgentId := "A13"
      sideEffectClass := .externalSpend
      retryClass := .reconcileFirst
      allowedModes := [.simulation, .live]
      outputContracts := ["AgentResult", "IncidentResult"]
      admittedEvents := [.postPublishVerified, .jobFailed] },
    { jobType := "ProofDistributionJob"
      ownerAgentId := "A16"
      sideEffectClass := .externalMessage
      retryClass := .reconcileFirst
      allowedModes := [.simulation, .live]
      outputContracts := ["AgentResult", "IncidentResult"]
      admittedEvents := [.proofFeedbackCaptured, .customerIssueReceived] },
    { jobType := "IncidentRepairJob"
      ownerAgentId := "A16"
      sideEffectClass := .none
      retryClass := .safe
      allowedModes := [.simulation, .draft, .live]
      outputContracts := ["AgentResult", "IncidentResult"]
      admittedEvents := [.repairCompleted, .jobFailed] },
    { jobType := "NotionRepairJob"
      ownerAgentId := "A07"
      sideEffectClass := .externalWrite
      retryClass := .reconcileFirst
      allowedModes := [.simulation, .draft, .live]
      outputContracts := ["AgentResult", "BuildResult"]
      admittedEvents := [.repairApplied] },
    { jobType := "LinkVerificationJob"
      ownerAgentId := "A09"
      sideEffectClass := .externalRead
      retryClass := .safe
      allowedModes := [.simulation, .draft, .live]
      outputContracts := ["AgentResult", "ProductQAResult", "IncidentResult"]
      admittedEvents := [.variantLinksVerified, .brokenLinkDetected, .repairCompleted] },
    { jobType := "ScheduleConfigurationJob"
      ownerAgentId := "A01"
      sideEffectClass := .none
      retryClass := .idempotent
      allowedModes := [.simulation, .draft, .live]
      outputContracts := ["AgentResult"]
      admittedEvents := [.scheduleConfigured] },
    { jobType := "WeeklyReviewJob"
      ownerAgentId := "A14"
      sideEffectClass := .externalRead
      retryClass := .safe
      allowedModes := [.simulation, .draft, .live]
      outputContracts := ["AgentResult", "MetricsSnapshot"]
      admittedEvents := [.metricsCaptured, .listingMatured] },
    { jobType := "PortfolioDecisionJob"
      ownerAgentId := "A15"
      sideEffectClass := .none
      retryClass := .safe
      allowedModes := [.simulation, .draft, .live]
      outputContracts := ["AgentResult", "PortfolioDecision"]
      admittedEvents :=
        [.listingHeld, .listingRepairRequested, .listingCullRequested, .winnerDetected] },
    { jobType := "DeactivateListingJob"
      ownerAgentId := "A13"
      sideEffectClass := .externalWrite
      retryClass := .reconcileFirst
      allowedModes := [.simulation, .live]
      outputContracts := ["AgentResult"]
      admittedEvents := [.listingCulled] },
    { jobType := "SuccessorProductJob"
      ownerAgentId := "A15"
      sideEffectClass := .none
      retryClass := .safe
      allowedModes := [.simulation, .draft, .live]
      outputContracts := ["AgentResult", "ProductSpec", "PortfolioDecision"]
      admittedEvents := [.winnerDetected] },
    { jobType := "BuildSlotJob"
      ownerAgentId := "A01"
      sideEffectClass := .none
      retryClass := .idempotent
      allowedModes := [.simulation, .draft, .live]
      outputContracts := ["AgentResult", "ProductSpec"]
      admittedEvents := [.successorCreated, .buildSlotDeferred] },
    { jobType := "MonthlyDeepPassJob"
      ownerAgentId := "A14"
      sideEffectClass := .externalRead
      retryClass := .idempotent
      allowedModes := [.simulation, .draft, .live]
      outputContracts := ["AgentResult", "MetricsSnapshot"]
      admittedEvents := [.monthlyReviewCompleted] },
    { jobType := "ScaleEvaluationJob"
      ownerAgentId := "A15"
      sideEffectClass := .none
      retryClass := .safe
      allowedModes := [.simulation, .draft, .live]
      outputContracts := ["AgentResult", "PortfolioDecision"]
      admittedEvents := [.scaleDecided] }]

def productLifecycleWorkflow : WorkflowDefinition :=
  { workflowType := "ProductLifecycleWorkflow"
    entryJobTypes := ["ProvisioningCheckJob", "ScheduleConfigurationJob"]
    jobs := productLifecycleJobs }

/-- `workflows_config.workflows`. -/
def configuredWorkflows : List WorkflowDefinition :=
  [productLifecycleWorkflow]

end Orchestration
end MoneyMachine
