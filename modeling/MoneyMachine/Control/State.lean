import Mathlib.Data.Finmap
import Mathlib.Data.Finset.Sort
import Mathlib.Data.String.Basic

/-!
# State — validation of implementation-state transitions

The control state is a JSON object with fixed fields.  A session is completed by
`validate_completion_transition` and the next one activated by `validate_activation_transition`; each
compares a candidate with the state before it, and refuses with a message.

Fields the contract does not name stay in the object.  `ν` is the type of their values, as `==` tells
them apart.
-/

namespace MoneyMachine
namespace Control

/-! ## The state -/

/-- A dictionary with string keys; its order plays no role. -/
abbrev Dict (α : Type) := Finmap (fun _ : String => α)

structure Blocker where
  code : String
  scope : String
  detail : String
  deriving DecidableEq

/-- The fields of `ControlState`. -/
inductive Field
  | programme
  | version
  | repoRoot
  | windowsRepoRoot
  | branch
  | headSha
  | bootstrapCommitSha
  | evidenceClosureCommitSha
  | lastVerifiedCommit
  | stateRevision
  | sessionStatus
  | currentSession
  | completedSessions
  | services
  | commissionedAgents
  | tests
  | environmentVersions
  | blockers
  | nextSession
  | nextPrompt
  | requiredCompletionEvidence
  | transitionContract
  | updatedAt
  deriving DecidableEq, Repr

def Field.name : Field → String
  | .programme => "programme"
  | .version => "version"
  | .repoRoot => "repo_root"
  | .windowsRepoRoot => "windows_repo_root"
  | .branch => "branch"
  | .headSha => "head_sha"
  | .bootstrapCommitSha => "bootstrap_commit_sha"
  | .evidenceClosureCommitSha => "evidence_closure_commit_sha"
  | .lastVerifiedCommit => "last_verified_commit"
  | .stateRevision => "state_revision"
  | .sessionStatus => "session_status"
  | .currentSession => "current_session"
  | .completedSessions => "completed_sessions"
  | .services => "services"
  | .commissionedAgents => "commissioned_agents"
  | .tests => "tests"
  | .environmentVersions => "environment_versions"
  | .blockers => "blockers"
  | .nextSession => "next_session"
  | .nextPrompt => "next_prompt"
  | .requiredCompletionEvidence => "required_completion_evidence"
  | .transitionContract => "transition_contract"
  | .updatedAt => "updated_at"

/-- `_REQUIRED_FIELDS`. -/
def requiredFields : List Field :=
  [.programme, .version, .repoRoot, .windowsRepoRoot, .branch, .headSha, .bootstrapCommitSha,
    .evidenceClosureCommitSha, .lastVerifiedCommit, .stateRevision, .sessionStatus,
    .currentSession, .completedSessions, .services, .commissionedAgents, .tests,
    .environmentVersions, .blockers, .nextSession, .nextPrompt, .requiredCompletionEvidence,
    .transitionContract, .updatedAt]

theorem mem_requiredFields (field : Field) : field ∈ requiredFields := by
  cases field <;> decide

/-- `ControlState`, as `_parse_state` types it. -/
structure ControlState (ν : Type) where
  programme : String
  version : String
  repoRoot : String
  windowsRepoRoot : String
  branch : String
  headSha : Option String
  bootstrapCommitSha : Option String
  evidenceClosureCommitSha : Option String
  lastVerifiedCommit : Option String
  stateRevision : Int
  sessionStatus : String
  currentSession : Int
  completedSessions : List Int
  services : Dict String
  commissionedAgents : List String
  tests : Dict String
  environmentVersions : Dict String
  blockers : List Blocker
  nextSession : Option Int
  nextPrompt : String
  requiredCompletionEvidence : Dict Bool
  /-- A Boolean of the contract is the integer it equals. -/
  transitionContract : Dict Int
  updatedAt : String
  extra : Dict ν
  extraNames : ∀ field : Field, field.name ∉ extra
  deriving DecidableEq

/-- What a field of the state holds. -/
inductive FieldValue
  | text (value : String)
  | optionalText (value : Option String)
  | number (value : Int)
  | optionalNumber (value : Option Int)
  | numbers (value : List Int)
  | texts (value : List String)
  | textMap (value : Dict String)
  | flags (value : Dict Bool)
  | contract (value : Dict Int)
  | blockers (value : List Blocker)
  deriving DecidableEq

variable {ν : Type}

/-- `state[field]`. -/
def ControlState.value (state : ControlState ν) : Field → FieldValue
  | .programme => .text state.programme
  | .version => .text state.version
  | .repoRoot => .text state.repoRoot
  | .windowsRepoRoot => .text state.windowsRepoRoot
  | .branch => .text state.branch
  | .headSha => .optionalText state.headSha
  | .bootstrapCommitSha => .optionalText state.bootstrapCommitSha
  | .evidenceClosureCommitSha => .optionalText state.evidenceClosureCommitSha
  | .lastVerifiedCommit => .optionalText state.lastVerifiedCommit
  | .stateRevision => .number state.stateRevision
  | .sessionStatus => .text state.sessionStatus
  | .currentSession => .number state.currentSession
  | .completedSessions => .numbers state.completedSessions
  | .services => .textMap state.services
  | .commissionedAgents => .texts state.commissionedAgents
  | .tests => .textMap state.tests
  | .environmentVersions => .textMap state.environmentVersions
  | .blockers => .blockers state.blockers
  | .nextSession => .optionalNumber state.nextSession
  | .nextPrompt => .text state.nextPrompt
  | .requiredCompletionEvidence => .flags state.requiredCompletionEvidence
  | .transitionContract => .contract state.transitionContract
  | .updatedAt => .text state.updatedAt

/-- `_IDENTITY_FIELDS`. -/
def identityFields : List Field :=
  [.programme, .version, .repoRoot, .branch, .currentSession]

/-- `_ACTIVATION_MUTABLE_FIELDS`. -/
def activationMutableFields : List Field :=
  [.stateRevision, .sessionStatus, .currentSession, .updatedAt, .requiredCompletionEvidence]

/-- `_COMPLETION_MUTABLE_FIELDS`. -/
def completionMutableFields : List Field :=
  [.stateRevision, .sessionStatus, .completedSessions, .nextSession, .nextPrompt, .headSha,
    .evidenceClosureCommitSha, .updatedAt, .requiredCompletionEvidence, .blockers,
    .transitionContract]

/-! ## Sessions -/

/-- `SESSION_PROMPTS`, in the order of the sessions. -/
def sessionPrompts : List String :=
  ["03_SESSION_00_DISCOVERY_AND_REPO_BOOTSTRAP.md",
    "04_SESSION_01_PLAYBOOK_MAPPING_AND_ARCHITECTURE.md",
    "05_SESSION_02_ENGINEERING_FOUNDATION_AND_DATABASE.md",
    "06_SESSION_03_DURABLE_ORCHESTRATOR.md",
    "07_SESSION_04_AGENT_RUNTIME_AND_ROSTER.md",
    "08_SESSION_05_MARKET_RESEARCH_TO_PRODUCT_SPEC.md",
    "09_SESSION_06_NOTION_INTEGRATION_FOUNDATION.md",
    "10_SESSION_07_PRODUCT_BUILD_VARIANTS_AND_QA.md",
    "11_SESSION_08_MERCHANDISING_AND_ASSET_FACTORY.md",
    "12_SESSION_09_ETSY_DRAFT_PUBLISH_AND_PREFLIGHT.md",
    "13_SESSION_10_ANALYTICS_CULL_MULTIPLY_CLOSED_LOOP.md",
    "14_SESSION_11_CUSTOMER_SUPPORT_AND_REPAIR.md",
    "15_SESSION_12_OPERATOR_CONSOLE_AND_POSTHOG.md",
    "16_SESSION_13_E2E_HARDENING_AND_FAILURE_RECOVERY.md",
    "17_SESSION_14_DEPLOYMENT.md",
    "18_SESSION_15_LIVE_COMMISSIONING_AND_HANDOVER.md"]

/-- `SESSION_EVIDENCE_KEYS`, in the order of the sessions that have an entry. -/
def sessionEvidenceKeys : List (List String) :=
  [["canonical_root_verified", "canonical_scaffold_verified", "sources_byte_identical",
      "pdf_pages_1_through_82_mapped", "required_playbook_items_mapped", "prompt_pack_verified",
      "git_ignore_audit_passed", "environment_versions_recorded",
      "git_evidence_semantics_verified", "python_checks_passed", "web_checks_passed",
      "compose_postgres_healthy", "api_health_live", "scripts_parse", "clean_bootstrap_passed",
      "implementation_review_approved", "adversarial_review_clear", "bootstrap_commit_recorded",
      "evidence_closure_commit_recorded"],
    ["playbook_steps_mapped", "architecture_and_adrs_complete", "state_event_job_enums_in_code",
      "typed_contracts_pass_validation", "configuration_encodes_playbook_defaults",
      "integration_strategy_explicit", "adversarial_review_resolved",
      "control_files_and_checkpoint_current", "evidence_closure_commit_recorded"],
    ["fresh_bootstrap_path_documented", "database_schema_and_migrations_work",
      "seeds_are_idempotent", "runtime_containers_start", "ci_configuration_complete",
      "foundation_tests_pass", "control_files_and_checkpoint_current",
      "evidence_closure_commit_recorded"],
    ["orchestration_state_machine_implemented", "lease_and_worker_claiming_implemented",
      "retry_and_reconciliation_implemented", "event_driven_successors_transactional",
      "scheduler_timers_durable", "worker_scheduler_fail_closed",
      "concurrency_recovery_tests_pass", "control_files_and_checkpoint_current",
      "evidence_closure_commit_recorded"],
    ["provider_abstraction_implemented", "prompt_registry_and_hashes_implemented",
      "agent_runner_integrated_with_jobs", "sixteen_agents_registered",
      "uncommissioned_agents_documented", "contract_and_runtime_tests_pass",
      "control_files_and_checkpoint_current", "evidence_closure_commit_recorded"],
    ["etsy_adapters_implemented", "research_agent_implemented", "shortlist_analysis_implemented",
      "scoring_agent_implemented", "teardown_workflow_implemented",
      "product_spec_generation_implemented", "dedupe_agent_implemented",
      "workflow_linking_complete", "control_files_and_checkpoint_current",
      "evidence_closure_commit_recorded"],
    ["notion_capability_inspected", "platform_compatibility_documented",
      "notion_adapter_interface_defined", "fixture_adapter_implemented",
      "adapter_router_implemented", "adapter_unit_tests_pass",
      "control_files_and_checkpoint_current", "evidence_closure_commit_recorded"],
    ["notion_product_builder_implemented", "shared_databases_built", "home_dashboard_built",
      "notification_dashboard_built", "identity_hubs_built", "variant_builder_implemented",
      "product_qa_implemented", "product_fact_ledger_persisted", "build_workflow_linked",
      "product_build_tests_pass", "control_files_and_checkpoint_current",
      "evidence_closure_commit_recorded"],
    ["merchandising_agent_implemented", "claim_validation_implemented",
      "design_tokens_implemented", "creative_asset_agent_implemented",
      "screenshot_acquisition_implemented", "link_validation_implemented",
      "asset_lineage_recorded", "asset_storage_implemented", "merchandising_workflow_linked",
      "merchandising_asset_tests_pass", "control_files_and_checkpoint_current",
      "evidence_closure_commit_recorded"]]

/-- The entry of a session in a table that starts with session 0. -/
def entryOf {α : Type} (table : List α) (session : Int) : Option α :=
  if 0 ≤ session then table[session.toNat]? else none

/-- `SESSION_PROMPTS.get(session)`. -/
def sessionPrompt (session : Int) : Option String :=
  entryOf sessionPrompts session

/-- `SESSION_EVIDENCE_KEYS.get(session)`. -/
def evidenceKeys (session : Int) : Option (Finset String) :=
  (entryOf sessionEvidenceKeys session).map List.toFinset

/-- `_CLOSURE_EVIDENCE_KEY`. -/
def closureEvidenceKey : String := "evidence_closure_commit_recorded"

/-- `_OUTER_GATES_BLOCKER`. -/
def outerGatesBlocker : String := "SESSION_00_OUTER_GATES_PENDING"

/-- `_NEXT_SESSION_CONTRACT_KEY`. -/
def nextSessionContractKey : String := "completion_requires_next_session"

/-- `list(range(stop))`. -/
def rangeList (stop : Int) : List Int :=
  (List.range stop.toNat).map Int.ofNat

/-- `f"{session:02d}"`. -/
def twoDigits (session : Int) : String :=
  if 0 ≤ session ∧ session < 10 then "0" ++ toString session else toString session

/-- `SHA_PATTERN.fullmatch(commit or "")`. -/
def isCommitHash (commit : Option String) : Bool :=
  let chars := (commit.getD "").toList
  decide (chars.length = 40) &&
    chars.all (fun c => decide (('0' ≤ c ∧ c ≤ '9') ∨ ('a' ≤ c ∧ c ≤ 'f')))

/-! ## Checks -/

/-- A check that raises `ControlStateError`. -/
def ensure (condition : Prop) [Decidable condition] (message : String) : Except String Unit :=
  if condition then .ok () else .error message

/-- The fields that changed though they may not. -/
def changedFields [DecidableEq ν] (previous current : ControlState ν)
    (mutableFields : List Field) : Finset String :=
  ((requiredFields.filter (fun field =>
      decide (field ∉ mutableFields ∧ previous.value field ≠ current.value field))).map
        Field.name).toFinset ∪
    previous.extra.keys.filter (fun key => previous.extra.lookup key ≠ current.extra.lookup key)

/-- `_require_same_fields`. -/
def requireSameFields [DecidableEq ν] (previous current : ControlState ν)
    (mutableFields : List Field) (label : String) : Except String Unit := do
  ensure (current.extra.keys = previous.extra.keys)
    ("unsupported " ++ label ++ ": state fields cannot be added or removed")
  match (changedFields previous current mutableFields).sort with
  | [] => .ok ()
  | field :: _ => .error ("unsupported " ++ label ++ ": " ++ field ++ " cannot change")

/-- The evidence keys that are not true, sorted. -/
def missingEvidence (evidence : Dict Bool) : List String :=
  (evidence.keys.filter (fun key => evidence.lookup key = some false)).sort

/-- `_require_completed_session_evidence`. -/
def requireCompletedSessionEvidence (previous : ControlState ν) : Except String Unit := do
  let session := previous.currentSession
  match evidenceKeys session with
  | none =>
    .error ("unsupported activation: no completion evidence contract for session " ++
      toString session)
  | some keys => do
      ensure (previous.requiredCompletionEvidence.keys = keys)
        ("activation requires exactly the session " ++ twoDigits session ++
          " completion evidence keys")
      ensure (missingEvidence previous.requiredCompletionEvidence = [])
        ("activation requires every prior-session evidence key to be true: " ++
          ", ".intercalate (missingEvidence previous.requiredCompletionEvidence))

/-! ## Activation -/

/-- What an activation checks of the recorded next session. -/
def requireInstalledEvidence (nextSession : Int) (current : ControlState ν) :
    Except String Unit :=
  match evidenceKeys nextSession with
  | none =>
    .error ("unsupported activation: no completion evidence contract for session " ++
      toString nextSession)
  | some keys => do
      ensure (current.requiredCompletionEvidence.keys = keys)
        ("activation must install exactly the session " ++ twoDigits nextSession ++
          " completion evidence keys")
      ensure (∀ key ∈ current.requiredCompletionEvidence.keys,
          current.requiredCompletionEvidence.lookup key = some false)
        "activation cannot claim any completion evidence"

/-- `validate_activation_transition`. -/
def validateActivationTransition [DecidableEq ν] (previous current : ControlState ν) :
    Except String Unit := do
  ensure (previous.sessionStatus = "complete")
    "unsupported activation: the previous session must be complete before activation"
  match previous.nextSession with
  | none => .error "unsupported activation: no next session is recorded"
  | some nextSession =>
    match sessionPrompt nextSession with
    | none =>
      .error ("unsupported activation: no canonical prompt for " ++ toString nextSession)
    | some prompt => do
        ensure (nextSession = previous.currentSession + 1)
          "unsupported activation: next_session must follow current_session"
        ensure (current.currentSession = nextSession)
          "unsupported activation: current_session must equal next_session"
        ensure (current.sessionStatus = "incomplete")
          "unsupported activation: activated session must be incomplete"
        requireSameFields previous current activationMutableFields "activation"
        ensure (current.stateRevision = previous.stateRevision + 1)
          "state revision must advance exactly once"
        ensure (current.updatedAt ≠ previous.updatedAt)
          "updated_at must change for the activation transition"
        ensure (previous.completedSessions = rangeList nextSession)
          "previous completed_sessions are not contiguous"
        ensure (previous.nextPrompt = prompt)
          "recorded next_prompt does not identify the canonical prompt"
        requireCompletedSessionEvidence previous
        requireInstalledEvidence nextSession current

/-! ## Completion -/

/-- The sessions and the prompt of a completion. -/
def requireNextSession (previous current : ControlState ν) (prompt : String) :
    Except String Unit := do
  let session := previous.currentSession
  ensure (current.stateRevision = previous.stateRevision + 1)
    "state revision must advance exactly once"
  ensure (previous.completedSessions = rangeList session)
    "previous completed_sessions are not contiguous"
  ensure (current.completedSessions = rangeList session ++ [session])
    "completed_sessions must append the current session exactly once"
  ensure (current.nextSession = some (current.currentSession + 1))
    "next session must advance exactly once"
  ensure (current.nextPrompt = prompt)
    ("next prompt must identify the canonical Session " ++ twoDigits (session + 1) ++ " prompt")
  ensure (current.updatedAt ≠ previous.updatedAt)
    "updated_at must change for the completion transition"

/-- The transition contract of a completion. -/
def requireContract (previous current : ControlState ν) : Except String Unit := do
  ensure (previous.transitionContract.erase nextSessionContractKey =
      current.transitionContract.erase nextSessionContractKey)
    "unsupported completion: transition_contract cannot change"
  ensure (nextSessionContractKey ∉ previous.transitionContract ∨
      current.transitionContract.lookup nextSessionContractKey = current.nextSession)
    ("transition_contract." ++ nextSessionContractKey ++ " must equal the new next_session")

/-- The evidence of a completion: only the closure commit was missing. -/
def requireEvidence (previous current : ControlState ν) : Except String Unit := do
  let session := previous.currentSession
  let previousEvidence := previous.requiredCompletionEvidence
  let currentEvidence := current.requiredCompletionEvidence
  match evidenceKeys session with
  | none =>
    .error ("unsupported completion: no completion evidence contract for session " ++
      toString session)
  | some keys => do
      ensure (previousEvidence.keys = keys ∧ currentEvidence.keys = previousEvidence.keys)
        "completion evidence keys are missing or unsupported"
      ensure (missingEvidence previousEvidence = [closureEvidenceKey])
        "pre-transition evidence must be complete except for the evidence-closure commit"
      ensure (∀ key ∈ previousEvidence.keys, currentEvidence.lookup key =
          if key = closureEvidenceKey then some true else previousEvidence.lookup key)
        "completion evidence cannot change except for the evidence-closure commit"
      ensure (missingEvidence currentEvidence = [])
        ("completion evidence is incomplete: " ++
          ", ".intercalate (missingEvidence currentEvidence))

/-- The blockers of a completion: session 0 removes one, later sessions only drop some. -/
def requireBlockers (previous current : ControlState ν) : Except String Unit :=
  if previous.currentSession = 0 then do
    ensure ((previous.blockers.filter (fun b => decide (b.code = outerGatesBlocker))).length = 1)
      "pre-transition blockers must contain exactly one Session 00 outer-gates blocker"
    ensure (current.blockers = previous.blockers.filter (fun b => decide (b.code ≠ outerGatesBlocker)))
      "completion may remove only the Session 00 outer-gates blocker"
  else
    ensure (current.blockers = previous.blockers.filter (fun b => decide (b ∈ current.blockers)))
      "completion may only remove existing blockers, never add or edit"

/-- The head and the closure before a completion. -/
def requirePriorClosure (previous current : ControlState ν) : Except String Unit :=
  if previous.currentSession = 0 then do
    ensure (previous.headSha = previous.bootstrapCommitSha)
      "pre-transition head_sha must identify the bootstrap commit"
    ensure (previous.evidenceClosureCommitSha = none)
      "pre-transition evidence_closure_commit_sha must be null"
  else do
    ensure (isCommitHash previous.evidenceClosureCommitSha = true)
      "pre-transition evidence_closure_commit_sha must identify the prior closure commit"
    ensure (previous.headSha = previous.evidenceClosureCommitSha)
      "pre-transition head_sha must identify the prior closure commit"
    ensure (current.evidenceClosureCommitSha ≠ previous.evidenceClosureCommitSha)
      "each session requires a new evidence-closure commit"

/-- The commits of a completion. -/
def requireCommits (previous current : ControlState ν) : Except String Unit := do
  let bootstrap := previous.bootstrapCommitSha
  let closure := current.evidenceClosureCommitSha
  ensure (isCommitHash bootstrap = true)
    "pre-transition bootstrap_commit_sha must be a lowercase 40-character hash"
  ensure (previous.lastVerifiedCommit = bootstrap)
    "pre-transition last_verified_commit must identify the bootstrap commit"
  ensure (isCommitHash closure = true)
    "evidence_closure_commit_sha must be a lowercase 40-character hash"
  requirePriorClosure previous current
  ensure (bootstrap ≠ closure) "bootstrap and evidence-closure commit SHAs must be distinct"
  ensure (current.headSha = closure)
    "head_sha must identify the pre-transition evidence-closure commit"

/-- The first identity field that changed. -/
def requireIdentity (previous current : ControlState ν) : Except String Unit :=
  match identityFields.find? (fun field => decide (previous.value field ≠ current.value field)) with
  | none => .ok ()
  | some field => .error ("unsupported completion: " ++ field.name ++ " cannot change")

/-- `validate_completion_transition`. -/
def validateCompletionTransition [DecidableEq ν] (previous current : ControlState ν) :
    Except String Unit := do
  let session := previous.currentSession
  match sessionPrompt session, sessionPrompt (session + 1) with
  | some _, some prompt => do
      ensure (previous.sessionStatus = "incomplete" ∧ current.sessionStatus = "complete")
        "unsupported completion: expected incomplete-to-complete"
      requireIdentity previous current
      requireSameFields previous current completionMutableFields "completion"
      requireNextSession previous current prompt
      requireContract previous current
      requireEvidence previous current
      requireBlockers previous current
      requireCommits previous current
  | _, _ =>
    .error ("unsupported completion: no canonical prompt after session " ++ toString session)

/-! ## Git evidence -/

/-- The state file of a commit. -/
inductive ClosureDocument (ν : Type)
  | undecodable
  | notObject
  | state (state : ControlState ν)
  /-- An object that is no control state, with the two commits it may name. -/
  | other (headSha evidenceClosureCommitSha : Option String)

/-- What Git and the file system answer while a transition is verified; a command that fails answers
with its error. -/
structure Repository (ν : Type) where
  rootIsDirectory : Bool
  statePathIsCanonical : Bool
  rootIsToplevel : Except String Bool
  branch : Except String String
  head : Except String String
  /-- `git rev-parse --verify <commit>^{commit}`. -/
  resolve : String → Except String String
  subject : String → Except String String
  /-- `git merge-base --is-ancestor`. -/
  isAncestor : String → String → Except String Bool
  /-- `git status --porcelain=v1 --untracked-files=no`. -/
  status : Except String String
  stateAt : String → Except String (ClosureDocument ν)

/-- `BOOTSTRAP_COMMIT_SUBJECT`. -/
def bootstrapCommitSubject : String :=
  "chore(bootstrap): initialise money machine autonomous monorepo"

/-- `_resolve_commit`. -/
def resolveCommit (repository : Repository ν) (commit label : String) : Except String Unit := do
  let resolved ← repository.resolve commit
  ensure (resolved = commit) (label ++ " must be a full commit object ID")

/-- `_validate_repo_identity`. -/
def validateRepoIdentity (repository : Repository ν) (current : ControlState ν) :
    Except String Unit := do
  ensure (repository.rootIsDirectory = true)
    "repo_root must identify an existing Git repository"
  ensure (repository.statePathIsCanonical = true)
    "state path must be repo_root/docs/control/IMPLEMENTATION_STATE.json"
  let rootIsToplevel ← repository.rootIsToplevel
  ensure (rootIsToplevel = true) "repo_root must identify the Git worktree root"
  let branch ← repository.branch
  ensure (branch = current.branch) "recorded branch must equal the current Git branch"

/-- `_assert_repo_at_closure`. -/
def assertRepoAtClosure (repository : Repository ν) (closure branch : String) :
    Except String Unit := do
  let head ← repository.head
  ensure (head = closure) "repository HEAD must equal the evidence-closure commit"
  let attached ← repository.branch
  ensure (attached = branch) "repository HEAD must be attached to the recorded branch"
  let status ← repository.status
  ensure (status = "") "all tracked repository files must be clean before transition"

/-- The closure commit holds the state before the transition. -/
def requireClosureState [DecidableEq ν] (repository : Repository ν) (previous : ControlState ν)
    (closure : String) : Except String Unit := do
  let document ← repository.stateAt closure
  match document with
  | .undecodable => .error "evidence-closure commit contains invalid implementation state"
  | .notObject => .error "evidence-closure commit contains invalid implementation state"
  | .other headSha evidenceClosureCommitSha => do
      ensure (headSha ≠ some closure ∧ evidenceClosureCommitSha ≠ some closure)
        "evidence-closure commit must not claim its own object ID"
      .error "evidence-closure commit must contain the exact pre-transition state"
  | .state state => do
      ensure (state.headSha ≠ some closure ∧ state.evidenceClosureCommitSha ≠ some closure)
        "evidence-closure commit must not claim its own object ID"
      ensure (state = previous)
        "evidence-closure commit must contain the exact pre-transition state"

/-- `ancestry_base`. -/
def ancestryBase (previous current : ControlState ν) : Option String :=
  if previous.currentSession = 0 then current.bootstrapCommitSha else previous.headSha

/-- The prior closure, or the bootstrap commit, is an ancestor of the new closure. -/
def requireAncestry (repository : Repository ν) (previous current : ControlState ν)
    (closure : String) : Except String Unit :=
  match ancestryBase previous current with
  | none => .error "pre-transition head_sha is required for ancestry verification"
  | some base => do
      resolveCommit repository base "pre-transition head_sha"
      let ancestor ← repository.isAncestor base closure
      ensure (ancestor = true)
        ("the prior closure (or bootstrap) commit must be an ancestor of the new closure " ++
          "commit")

/-- `_validate_git_evidence`. -/
def validateGitEvidence [DecidableEq ν] (repository : Repository ν)
    (previous current : ControlState ν) : Except String Unit := do
  validateRepoIdentity repository current
  match current.bootstrapCommitSha, current.evidenceClosureCommitSha with
  | some bootstrap, some closure => do
      resolveCommit repository bootstrap "bootstrap_commit_sha"
      resolveCommit repository closure "evidence_closure_commit_sha"
      let subject ← repository.subject bootstrap
      ensure (subject = bootstrapCommitSubject)
        ("bootstrap commit subject must be exactly '" ++ bootstrapCommitSubject ++ "'")
      requireAncestry repository previous current closure
      assertRepoAtClosure repository closure current.branch
      requireClosureState repository previous closure
  | _, _ => .error "both commit SHAs are required"

end Control
end MoneyMachine
