import MoneyMachine.Library.Equality
import MoneyMachine.Library.Runs
import MoneyMachine.Library.Lines
import MoneyMachine.Library.Table
import MoneyMachine.Domain.Basic
import MoneyMachine.Domain.Enums
import MoneyMachine.Domain.Json
import MoneyMachine.Orchestration.TransitionGuard
import MoneyMachine.Persistence.Tables
import MoneyMachine.Orchestration.Leases
import MoneyMachine.Orchestration.Retry
import MoneyMachine.Orchestration.Idempotency
import MoneyMachine.Orchestration.DependencyResolver
import MoneyMachine.Orchestration.Scheduler
import MoneyMachine.Orchestration.Engine
import MoneyMachine.Orchestration.Reconciliation
import MoneyMachine.Orchestration.SuccessorFactory
import MoneyMachine.Orchestration.WorkflowConfig
import MoneyMachine.Orchestration.EventDispatcher
import MoneyMachine.Orchestration.Worker
import MoneyMachine.Orchestration.Operations
import MoneyMachine.Orchestration.JobChanges
import MoneyMachine.Orchestration.AttemptBudget
import MoneyMachine.Orchestration.RetryBudget
import MoneyMachine.Orchestration.RetrySafety
import MoneyMachine.Orchestration.LeaseConsistency
import MoneyMachine.Orchestration.DependencyOrder
import MoneyMachine.Orchestration.DurableRecord
import MoneyMachine.Orchestration.EffectLog
import MoneyMachine.Orchestration.ReconciliationBudget
import MoneyMachine.Orchestration.SuccessorCollision
import MoneyMachine.Application.DraftEffects
import MoneyMachine.Application.SingleWrite
import MoneyMachine.Integrations.DraftListing
import MoneyMachine.Integrations.DraftLedger
import MoneyMachine.Integrations.SinglePost
import MoneyMachine.Orchestration.FailurePropagation
import MoneyMachine.Orchestration.Fencing
import MoneyMachine.Orchestration.WorkerFaults
import MoneyMachine.Assets.DraftListingSuccessor
import MoneyMachine.Orchestration.PortfolioDecisions
import MoneyMachine.Application.ProviderIdentity
import MoneyMachine.Application.ConfirmedEffects
import MoneyMachine.Assets.MutationReceipt
import MoneyMachine.Assets.PdfReader
import MoneyMachine.Assets.PdfTermination
import MoneyMachine.Library.Regex
import MoneyMachine.Agents.MerchandisingContract
import MoneyMachine.Domain.ClaimValidation
import MoneyMachine.Domain.ClaimSoundness
import MoneyMachine.Library.RegexWindow
import MoneyMachine.Agents.Merchandising
import MoneyMachine.Assets.DraftRearm
import MoneyMachine.Control.State
import MoneyMachine.Control.StateRuns
import MoneyMachine.Integrations.BrowserSession
import MoneyMachine.Integrations.BrowserMutations
import MoneyMachine.Integrations.BrowserRuns
import MoneyMachine.Library.Json
import MoneyMachine.Observability.Receipts
import MoneyMachine.Observability.ReceiptLog
import MoneyMachine.Agents.NotionCheckpoints
import MoneyMachine.Agents.CheckpointRuns
import MoneyMachine.Agents.CheckpointWriters
import MoneyMachine.Agents.ReviewSubagent
import MoneyMachine.Library.Interference
import MoneyMachine.Integrations.AssetStorage
import MoneyMachine.Integrations.LocalAssetStore
import MoneyMachine.Integrations.AssetStorePlacement
import MoneyMachine.Integrations.AssetStoreRuns
import MoneyMachine.Integrations.AssetObjects
import MoneyMachine.Integrations.LocalAssetObjects
import MoneyMachine.Integrations.SimS3AssetStore
import MoneyMachine.Cli.SandboxAccounting
import MoneyMachine.Assets.FixtureBundle
import MoneyMachine.Assets.BundlePainting
import MoneyMachine.Assets.BundleManifest
import MoneyMachine.Assets.BundleCrashes
import MoneyMachine.Assets.BundleAgreement
import MoneyMachine.Assets.PdfPrinting
import MoneyMachine.Assets.PdfRoundTrip
import MoneyMachine.Assets.PdfObjects
import MoneyMachine.Assets.PdfWalk
import MoneyMachine.Assets.PdfActions
import MoneyMachine.Assets.PdfRoles
import MoneyMachine.Assets.PdfPredictor
import MoneyMachine.Orchestration.PromotionBlocking
import MoneyMachine.Assets.WeeklyIdentity
import MoneyMachine.Integrations.LlmProvider
import MoneyMachine.Integrations.StructuredOutput
import MoneyMachine.Integrations.StrictSchemas
import MoneyMachine.Library.Url
import MoneyMachine.Integrations.Publishing
import MoneyMachine.Integrations.PageIds
import MoneyMachine.Library.Percent
import MoneyMachine.Config.Runtime
import MoneyMachine.Config.Dsn
import MoneyMachine.Config.DatabaseCredentials
import MoneyMachine.Agents.FactEncodings
import MoneyMachine.Domain.Dedupe
import MoneyMachine.Domain.DedupeExactness
import MoneyMachine.Integrations.DraftRecovery
import MoneyMachine.Integrations.DraftCrash
import MoneyMachine.Integrations.NotionAdapter
import MoneyMachine.Integrations.NotionScope
import MoneyMachine.Integrations.NotionWrites
import MoneyMachine.Cli.MountPoints
import MoneyMachine.Assets.LinkMatching
import MoneyMachine.Assets.LinkValidation
import MoneyMachine.Assets.MaturityClock
import MoneyMachine.Assets.PortfolioEligibility
import MoneyMachine.Library.Ranks
import MoneyMachine.Assets.PortfolioCulls
import MoneyMachine.Assets.PortfolioOrder
import MoneyMachine.Assets.AssetLineage
import MoneyMachine.Integrations.Formulas
import MoneyMachine.Integrations.FormulaSpelling
import MoneyMachine.Integrations.SchemaBuilder
import MoneyMachine.Library.InPlace
import MoneyMachine.Library.PngFile
import MoneyMachine.Assets.VideoPaint
import MoneyMachine.Cli.Redaction
import MoneyMachine.Cli.Evidence
import MoneyMachine.Assets.DefangTlds
import MoneyMachine.Library.RegexOutcomes
import MoneyMachine.Library.RegexScan
import MoneyMachine.Assets.DefangNormalizer
import MoneyMachine.Assets.DefangPatterns
import MoneyMachine.Assets.DefangPasses
import MoneyMachine.Assets.DefangHosts
import MoneyMachine.Integrations.DraftKeys
import MoneyMachine.Application.NotionBuild
import MoneyMachine.Application.NotionBuilds
