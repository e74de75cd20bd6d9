import MoneyMachine.Library.Action
import MoneyMachine.Library.Json
import MoneyMachine.Library.Runs

/-!
# NotionProgress — the progress record of a product build

A checkpoint is one JSON object with a progress record and a digest over the whole payload.  It is
written to a temporary file and moved into place; a repair job is appended by writing the checkpoint
again, and a temporary that a dead process left behind is adopted when it only adds jobs.

The disk decides the fate of each file operation: it succeeds, it raises an `OSError`, or the process
crashes there, after any number of characters where it was writing.
-/

namespace MoneyMachine
namespace Agents
namespace Progress

open MoneyMachine.Library
open MoneyMachine.Library.Json

/-! ## Dictionaries -/

/-- A dictionary with text keys, its members in the order of their names. -/
abbrev Dict := List (Text × Value)

/-- `{key: value for key, value in d.items() if key != name}`. -/
def without (name : Text) (d : Dict) : Dict :=
  d.filter (fun member => decide (member.1 ≠ name))

/-- `_exact_keys`. -/
def exactKeys (d : Dict) (expected : List String) : Bool :=
  d.all (fun member => decide (member.1 ∈ expected.map lit)) &&
    expected.all (fun name => decide (lit name ∈ d.map Prod.fst))

def isAscii (t : Text) : Bool :=
  t.all (fun p => decide (p.val < 128))

/-- A text of ASCII characters. -/
def asciiText : Value → Option Text
  | .str t => if isAscii t then some t else none
  | _ => none

/-! ## Constants -/

/-- `PHASES`. -/
def phases : List Text :=
  [lit "top_level_page_and_design_shell",
    lit "shared_databases",
    lit "dashboard_and_navigation",
    lit "identity_specific_hubs",
    lit "notification_dashboard",
    lit "aesthetics_and_content_completion"]

def phasesComplete : Text := lit "build_phases_complete"

def progressKey : Text := lit "progress"

def recordDigest : Text := lit "record_digest"

def opRebuild : Text := lit "top_level_page_and_design_shell.rebuild"

def rebuildRefused : Text := lit "rebuild_refused"

def qaRepairKind : Text := lit "qa_repair"

def qaRepairOperation : Text := lit "qa.repair"

def qaRepairPhase : Text := lit "qa"

/-- `_QA_REPAIR_RESPONSES`. -/
def qaRepairResponses : List Text :=
  [lit "published", lit "duplicate_button", lit "search_indexing"]

/-- `_ACCEPTED_JOB_KINDS`. -/
def acceptedJobKinds : List Text :=
  [lit "provider_response", rebuildRefused, qaRepairKind]

/-- `_RECOVERIES`. -/
def recoveries : List Text :=
  [lit "recoverable", lit "unrecoverable"]

/-- `_PROGRESS_FIELDS`. -/
def progressFields : List String :=
  ["completed_operations", "deferred_operations", "created_notion_ids", "property_mappings",
    "page_counts", "formula_state", "repair_jobs", "recovery", "next_phase"]

/-- `_PROGRESS_KEYS`. -/
def progressKeys : List String :=
  progressFields ++ ["record_digest"]

def countKeys : List String := ["blocks", "databases", "pages"]

def jobKeys : List String := ["kind", "operation", "phase", "response"]

def formulaKeys : List String := ["kind", "name", "property_id"]

def createdKeys : List String :=
  ["aesthetics", "dashboard", "databases", "design_shell_block_id", "hubs", "notification",
    "top_level_page_id", "variants", "workspace_id"]

/-- `ProductBuildError`. -/
structure ProductBuildError where
  message : String
  deriving DecidableEq, Repr

def tampered : ProductBuildError := ⟨"progress record is tampered"⟩

def forged : ProductBuildError := ⟨"progress record is forged"⟩

def recoveryRule : String :=
  "Never rebuild the whole product unless the progress record is unrecoverable. " ++
    "A recoverable provider failure stores a repair job and resumes from the failed " ++
    "operation. A missing prior record is an error and writes nothing. " ++
    "A refused rebuild appends one rebuild_refused job and does not mutate the fixture. " ++
    "The fixture has no screenshots; captured evidence kind is provider_response."

/-! ## The shape of a record -/

def ensure (ok : Bool) (error : ProductBuildError) : Except ProductBuildError Unit :=
  if ok then .ok () else .error error

/-- A list of ASCII texts. -/
def textList : Option Value → Option (List Text)
  | some (.arr items) => items.mapM asciiText
  | _ => none

/-- `_is_prefix`. -/
def isPrefixOfPhases (completed : List Text) : Bool :=
  decide (completed = phases.take completed.length)

/-- `_deferred`. -/
def deferredAfter (completed : List Text) : List Text :=
  if completed = phases then [] else phases.drop completed.length

/-- The members named by `names` are ASCII texts. -/
def asciiMembers (names : List String) (d : Dict) : Bool :=
  names.all (fun name => ((d.lookup (lit name)).bind asciiText).isSome)

def isList : Option Value → Bool
  | some (.arr _) => true
  | _ => false

def isDict : Option Value → Bool
  | some (.obj _) => true
  | _ => false

def isNull : Option Value → Bool
  | some .null => true
  | _ => false

/-- `_require_created`.  What `json.dumps` writes is always ASCII. -/
def createdOk : Option Value → Bool
  | some (.obj d) =>
    exactKeys d createdKeys &&
      asciiMembers ["design_shell_block_id", "top_level_page_id", "workspace_id"] d &&
      isList (d.lookup (lit "databases")) && isList (d.lookup (lit "dashboard")) &&
      isList (d.lookup (lit "hubs")) &&
      (isNull (d.lookup (lit "notification")) || isDict (d.lookup (lit "notification"))) &&
      (isNull (d.lookup (lit "aesthetics")) || isDict (d.lookup (lit "aesthetics"))) &&
      (isNull (d.lookup (lit "variants")) || isList (d.lookup (lit "variants")))
  | _ => false

/-- `_require_string_map`. -/
def stringMapOk : Option Value → Bool
  | some (.obj d) => d.all (fun member => isAscii member.1 && (asciiText member.2).isSome)
  | _ => false

/-- `_require_counts`. -/
def countsOk : Option Value → Bool
  | some (.obj d) =>
    exactKeys d countKeys && countKeys.all (fun name =>
      match d.lookup (lit name) with
      | some (.int n) => decide (0 ≤ n)
      | _ => false)
  | _ => false

/-- `_require_formulas`. -/
def formulasOk : Option Value → Bool
  | some (.arr items) => items.all (fun item =>
    match item with
    | .obj d => exactKeys d formulaKeys && asciiMembers formulaKeys d
    | _ => false)
  | _ => false

/-- A text that is ASCII and not empty. -/
def filledText (v : Option Value) : Bool :=
  match v.bind asciiText with
  | some t => decide (t ≠ [])
  | none => false

/-- A job: four texts. -/
def jobOk : Value → Bool
  | .obj d => exactKeys d jobKeys && jobKeys.all (fun name => filledText (d.lookup (lit name)))
  | _ => false

/-- `_require_jobs`. -/
def jobsOk : Option Value → Bool
  | some (.arr items) => items.all jobOk
  | _ => false

/-- `text.strip()`. -/
def strip (t : Text) : Text :=
  ((t.dropWhile isSpace).reverse.dropWhile isSpace).reverse

/-- The check of the next phase. -/
def nextPhaseOk (v : Option Value) : Bool :=
  match v.bind asciiText with
  | some t => decide (t ≠ [] ∧ strip t = t)
  | none => false

/-- The check of the recovery. -/
def requireRecovery : Option Value → Except ProductBuildError Unit
  | some (.str recovery) => ensure (decide (recovery ∈ recoveries)) forged
  | _ => .error tampered

/-- `_require_shape`. -/
def requireShape (body : Dict) : Except ProductBuildError Unit :=
  match textList (body.lookup (lit "completed_operations")),
      textList (body.lookup (lit "deferred_operations")) with
  | some completed, some deferred => do
      ensure (isPrefixOfPhases completed) tampered
      ensure (decide (deferred = deferredAfter completed)) tampered
      ensure (createdOk (body.lookup (lit "created_notion_ids"))) tampered
      ensure (stringMapOk (body.lookup (lit "property_mappings"))) tampered
      ensure (countsOk (body.lookup (lit "page_counts"))) tampered
      ensure (formulasOk (body.lookup (lit "formula_state"))) tampered
      ensure (jobsOk (body.lookup (lit "repair_jobs"))) tampered
      requireRecovery (body.lookup (lit "recovery"))
      ensure (nextPhaseOk (body.lookup (lit "next_phase"))) tampered
  | _, _ => .error tampered

/-- `_unsigned_body`; a dictionary with exactly these keys is rebuilt as it is. -/
def unsignedBody (body : Dict) : Except ProductBuildError Dict :=
  if exactKeys body progressFields then .ok body else .error tampered

/-- A job whose kind is accepted. -/
def acceptedKind : Value → Bool
  | .obj d =>
    match d.lookup (lit "kind") with
    | some (.str kind) => decide (kind ∈ acceptedJobKinds)
    | _ => false
  | _ => false

/-- `_reject_non_provider_evidence`. -/
def rejectNonProviderEvidence (body : Dict) : Except ProductBuildError Unit :=
  match body.lookup (lit "repair_jobs") with
  | some (.arr items) => ensure (items.all acceptedKind) forged
  | _ => .error tampered

/-- The items are exactly these texts. -/
def sameTexts : List Value → List Text → Bool
  | [], [] => true
  | .str t :: items, t' :: texts => decide (t = t') && sameTexts items texts
  | _, _ => false

/-- `_require_alignment`; names that are no list are not compared. -/
def aligned (body : Dict) (checkpointNames : Option Value) : Bool :=
  match checkpointNames, textList (body.lookup (lit "completed_operations")) with
  | some (.arr names), some completed => sameTexts names completed
  | _, _ => true

section Digest

variable (sha256 : List Char → List Char)

/-- `_digest`. -/
def digest (d : Dict) : Text :=
  (sha256 (dumps .compact (.obj d))).map CodePoint.ofChar

/-- The check of the digest. -/
def requireDigest (value : Option Value) (covered : Dict) : Except ProductBuildError Unit :=
  match value with
  | some (.str stored) => ensure (decide (stored = digest sha256 covered)) forged
  | _ => .error forged

/-- `_validate_progress`. -/
def validateProgress (value : Value) (checkpointNames : Option Value) (document : Dict) :
    Except ProductBuildError Dict :=
  match value with
  | .obj found => do
      ensure (exactKeys found progressKeys) tampered
      let unsigned := without recordDigest found
      requireShape unsigned
      rejectNonProviderEvidence unsigned
      let covered := insertMember progressKey (.obj unsigned) (without progressKey document)
      requireDigest sha256 (found.lookup recordDigest) covered
      ensure (aligned unsigned checkpointNames) tampered
      .ok found
  | _ => .error tampered

/-! ## Loading -/

/-- `CheckpointEnvelope`. -/
structure CheckpointEnvelope where
  payload : Option Dict
  recovery : Text
  repairJobs : List Value
  createdNotionIds : Option Dict

/-- `_load_object`. -/
def loadObject (text : List Char) : Except ProductBuildError Dict :=
  if text.getLast? ≠ some '\n' then
    .error ⟨"checkpoint is incomplete"⟩
  else
    match loads text with
    | none => .error ⟨"checkpoint is not JSON"⟩
    | some (.obj raw) => .ok raw
    | some _ => .error ⟨"checkpoint must be an object"⟩

/-- The progress record of a checkpoint, checked. -/
def checkedProgress (raw : Dict) : Except ProductBuildError Dict :=
  match raw.lookup progressKey with
  | none => .error ⟨"progress record is missing"⟩
  | some .null => .error ⟨"progress record is missing"⟩
  | some value => validateProgress sha256 value (raw.lookup (lit "checkpoint_names")) raw

/-- `load_payload`. -/
def loadPayload (file : Option (List Char)) (allowUnrecoverable : Bool) :
    Except ProductBuildError CheckpointEnvelope :=
  match file with
  | none =>
    .ok { payload := none, recovery := lit "absent", repairJobs := [], createdNotionIds := none }
  | some text => do
      let raw ← loadObject text
      let progress ← checkedProgress sha256 raw
      match progress.lookup (lit "recovery"), progress.lookup (lit "repair_jobs"),
          progress.lookup (lit "created_notion_ids") with
      | some (.str recovery), some (.arr jobs), some (.obj created) => do
          ensure (decide (recovery ≠ lit "unrecoverable") || allowUnrecoverable) ⟨recoveryRule⟩
          .ok { payload := some (without progressKey raw), recovery := recovery, repairJobs := jobs
                createdNotionIds := some created }
      | _, _, _ => .error tampered

end Digest

end Progress
end Agents
end MoneyMachine
