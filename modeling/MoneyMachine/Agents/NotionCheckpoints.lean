import MoneyMachine.Agents.NotionProgress
import Mathlib.Data.List.Sort
import Mathlib.Algebra.GroupWithZero.Nat

/-!
# NotionCheckpoints — how a checkpoint is written, extended and adopted

The directory is one live file and the temporaries of this checkpoint, each named by the pid of the
process that wrote it.  A call is a program over that directory, and the disk decides the fate of each
of its operations; a crash ends the call without its handlers.

The order of a directory listing, the clock and the answers about other pids are arbitrary.
-/

namespace MoneyMachine
namespace Agents
namespace Progress

open MoneyMachine.Library
open MoneyMachine.Library.Json

/-! ## Python equality -/

/-- A Boolean is an integer for `==`. -/
def asInteger : Value → Option Int
  | .bool true => some 1
  | .bool false => some 0
  | .int n => some n
  | _ => none

section PyEq

-- `floatEq` is `==` of two numbers, one of them a float.
variable (floatEq : Value → Value → Bool)

/-- `==` of two values that are neither texts nor containers. -/
def scalarEq : Value → Value → Bool
  | .null, .null => true
  | .float x, .float y => floatEq (.float x) (.float y)
  | .float x, other => (asInteger other).isSome && floatEq (.float x) other
  | other, .float x => (asInteger other).isSome && floatEq other (.float x)
  | a, b =>
    match asInteger a, asInteger b with
    | some m, some n => decide (m = n)
    | _, _ => false

mutual

/-- `==`. -/
def pyEq : Value → Value → Bool
  | .str t, .str t' => decide (t = t')
  | .arr items, .arr others => pyEqItems items others
  | .obj members, .obj others => pyEqMembers members others
  | .str _, _ => false
  | .arr _, _ => false
  | .obj _, _ => false
  | a, b => scalarEq floatEq a b

def pyEqItems : List Value → List Value → Bool
  | [], [] => true
  | value :: rest, other :: others => pyEq value other && pyEqItems rest others
  | _, _ => false

/-- Two dictionaries in the order of their names. -/
def pyEqMembers : List (Text × Value) → List (Text × Value) → Bool
  | [], [] => true
  | (name, value) :: rest, (name', other) :: others =>
    decide (name = name') && pyEq value other && pyEqMembers rest others
  | _, _ => false

end

/-! ## Extension -/

/-- `_decoded_object`. -/
def decodedObject (text : List Char) : Option Dict :=
  match loads text with
  | some (.obj raw) => some raw
  | _ => none

def progressOf (raw : Dict) : Option Dict :=
  match raw.lookup progressKey with
  | some (.obj body) => some body
  | _ => none

/-- `_job_list`. -/
def jobList (progress : Dict) : Option (List Value) :=
  match progress.lookup (lit "repair_jobs") with
  | some (.arr jobs) => some jobs
  | _ => none

/-- `body["repair_jobs"] = jobs`. -/
def withJobs (jobs : List Value) (body : Dict) : Dict :=
  insertMember (lit "repair_jobs") (.arr jobs) body

/-- Everything but the jobs and the digest. -/
def restOf (raw body : Dict) : Dict :=
  insertMember progressKey (.obj (withJobs [] (without recordDigest body))) raw

/-- `_strictly_extends` of what was read. -/
def strictlyExtends (candidate live : List Char) : Bool :=
  match decodedObject live, decodedObject candidate with
  | some liveRaw, some tempRaw =>
    match progressOf liveRaw, progressOf tempRaw with
    | some liveBody, some tempBody =>
      match jobList liveBody, jobList tempBody with
      | some liveJobs, some tempJobs =>
        decide (liveJobs.length < tempJobs.length) &&
          pyEqItems floatEq (tempJobs.take liveJobs.length) liveJobs &&
          pyEqMembers floatEq (restOf liveRaw liveBody) (restOf tempRaw tempBody)
      | _, _ => false
    | _, _ => false
  | _, _ => false

end PyEq

/-! ## Documents -/

/-- What one write installs: a payload and an unsigned progress body. -/
structure Document where
  payload : Dict
  progress : Dict

namespace Document

variable (sha256 : List Char → List Char) (d : Document)

/-- What the digest covers. -/
def covered : Dict :=
  insertMember progressKey (.obj d.progress) d.payload

/-- The progress body with its digest. -/
def stored : Dict :=
  insertMember recordDigest (.str (digest sha256 d.covered)) d.progress

def body : Dict :=
  insertMember progressKey (.obj (d.stored sha256)) d.payload

/-- The text of the file. -/
def text : List Char :=
  dumps .compact (.obj (d.body sha256)) ++ ['\n']

def jobs : List Value :=
  (jobList d.progress).getD []

/-- The document without its jobs and its digest. -/
def rest : Dict :=
  insertMember progressKey (.obj (withJobs [] d.progress)) d.payload

end Document

/-! ## The directory -/

/-- A temporary.  The document is the one its writer was writing. -/
structure Temp where
  pid : Nat
  text : List Char
  mtime : Nat
  document : Document

/-- The directory of one checkpoint, with the documents that were installed, the last one first. -/
structure Store where
  live : Option (List Char)
  temps : List Temp
  moment : Nat
  installs : List Document

def Store.empty : Store :=
  { live := none, temps := [], moment := 0, installs := [] }

def Store.find (s : Store) (pid : Nat) : Option Temp :=
  s.temps.find? (fun t => decide (t.pid = pid))

/-- Remove the temporary of `pid`. -/
def Store.drop (s : Store) (pid : Nat) : Store :=
  { s with temps := s.temps.filter (fun t => decide (t.pid ≠ pid)) }

/-- Write a temporary, in place of one of the same name. -/
def Store.put (s : Store) (t : Temp) : Store :=
  { s.drop t.pid with temps := t :: (s.drop t.pid).temps }

/-- `os.replace(temporary, path)`. -/
def Store.install (s : Store) (t : Temp) : Store :=
  { s.drop t.pid with live := some t.text, installs := t.document :: s.installs }

/-- How a file operation ends. -/
inductive Fate
  | done
  | error
  | interrupted
  | crashed
  deriving DecidableEq, Repr

/-- What the code meets outside itself, by the moment it asks. -/
structure Env where
  sha256 : List Char → List Char
  /-- `==` of two numbers, one of them a float. -/
  floatEq : Value → Value → Bool
  fate : Nat → Fate
  /-- How many characters a write that did not finish had put into the file. -/
  reached : Nat → Nat
  /-- Whether a process owns the pid. -/
  alive : Nat → Nat → Bool
  clock : Nat → Nat
  /-- The place of an entry in a directory listing. -/
  place : Nat → Nat → Nat

/-- How a call ends other than by returning. -/
inductive Fault
  | osError
  | interrupted
  | crashed
  | typeError (message : String)
  | build (error : ProductBuildError)
  deriving DecidableEq, Repr

abbrev Program := Action Store Fault

/-- A check that reads nothing but its arguments. -/
def checked {α : Type} (x : Except ProductBuildError α) : Program α :=
  match x with
  | .ok a => Action.ret a
  | .error e => Action.raise (.build e)

/-- `except OSError`. -/
def onOSError {α : Type} (x handler : Program α) : Program α :=
  Action.handle x (fun e => if e = .osError then handler else Action.raise e)

/-- `except BaseException: ...; raise`.  A crash runs no handler. -/
def onAnyError (x cleanup : Program Unit) : Program Unit :=
  Action.handle x (fun e =>
    if e = .crashed then Action.raise e else Action.andThen cleanup (fun _ => Action.raise e))

section Programs

variable (env : Env)

/-- One file operation. -/
def operation : Program Unit :=
  fun s =>
    match env.fate s.moment with
    | .done => (.ok (), { s with moment := s.moment + 1 })
    | .error => (.error .osError, { s with moment := s.moment + 1 })
    | .interrupted => (.error .interrupted, { s with moment := s.moment + 1 })
    | .crashed => (.error .crashed, { s with moment := s.moment + 1 })

/-- `unlink(missing_ok=True)`. -/
def unlink (pid : Nat) : Program Unit := do
  operation env
  Action.change (fun s => s.drop pid)

/-- Put the text into the opened file.  A write that does not finish leaves its beginning. -/
def fill (pid : Nat) (d : Document) : Program Unit :=
  fun s =>
    match operation env s with
    | (.ok (), s') =>
      (.ok (), s'.put ⟨pid, d.text env.sha256, env.clock s.moment, d⟩)
    | (.error e, s') =>
      (.error e,
        s'.put ⟨pid, (d.text env.sha256).take (env.reached s.moment), env.clock s.moment, d⟩)

/-- `temporary.write_text(text)`: the file is emptied, then filled. -/
def writeText (pid : Nat) (d : Document) : Program Unit := do
  operation env
  let now ← Action.inspect (fun s => env.clock s.moment)
  Action.change (fun s => s.put ⟨pid, [], now, d⟩)
  fill env pid d

/-- `os.replace(temporary, path)`. -/
def replace (pid : Nat) : Program Unit := do
  operation env
  match ← Action.inspect (fun s => s.find pid) with
  | some t => Action.change (fun s => s.install t)
  | none => Action.raise .osError

/-- `parent.iterdir()`, by the pids of the temporaries. -/
def iterdir : Program (List Nat) := do
  operation env
  Action.inspect (fun s =>
    (s.temps.map Temp.pid).insertionSort (fun a b => env.place s.moment a ≤ env.place s.moment b))

/-- `_pid_alive`. -/
def pidAlive (pid : Nat) : Program Bool :=
  Action.inspect (fun s => decide (0 < pid) && env.alive s.moment pid)

/-- The loop of `_remove_dead_temps`. -/
def removeDead : List Nat → Program Unit
  | [] => pure ()
  | pid :: rest => do
      if ← pidAlive env pid then
        removeDead rest
      else do
        onOSError (unlink env pid) (pure ())
        removeDead rest

/-- `_remove_dead_temps`. -/
def removeDeadTemps : Program Unit := do
  let entries ← iterdir env
  removeDead env entries

/-- `_complete_checkpoint_file` of a temporary. -/
def completeCheckpointFile (pid : Nat) : Program Bool := do
  match ← Action.inspect (fun s => s.find pid) with
  | none => pure false
  | some t =>
    onOSError
      (do
        operation env
        pure (loadPayload env.sha256 (some t.text) false).toOption.isSome)
      (pure false)

/-- `write_document`. -/
def writeDocument (pid : Nat) (payload progress : Dict) : Program Unit := do
  let unsigned ← checked (unsignedBody progress)
  checked (requireShape unsigned)
  removeDeadTemps env
  onAnyError (writeText env pid ⟨payload, unsigned⟩) (onOSError (unlink env pid) (pure ()))
  onAnyError (replace env pid) (do
    if ← completeCheckpointFile env pid then
      pure ()
    else
      onOSError (unlink env pid) (pure ()))

/-- `_strictly_extends` of a temporary and the live file. -/
def extendsLive (pid : Nat) : Program Bool := do
  match ← Action.inspect (fun s => (s.live, s.find pid)) with
  | (some live, some t) =>
    onOSError
      (do
        operation env
        operation env
        pure (strictlyExtends env.floatEq t.text live))
      (pure false)
  | _ => pure false

/-- The entries that `adopt_checkpoint_temps` takes up. -/
def adoptable : List Nat → Program (List Nat)
  | [] => pure []
  | pid :: rest => do
      if ← pidAlive env pid then
        adoptable rest
      else if ← completeCheckpointFile env pid then
        if ← extendsLive env pid then do
          let found ← adoptable rest
          pure (pid :: found)
        else
          adoptable rest
      else
        adoptable rest

/-- `_newest_mtime` of each. -/
def modified : List Nat → Program (List (Nat × Nat))
  | [] => pure []
  | pid :: rest => do
      operation env
      let mtime ← Action.inspect (fun s => ((s.find pid).map Temp.mtime).getD 0)
      let others ← modified rest
      pure ((mtime, pid) :: others)

/-- The last loop of `adopt_checkpoint_temps`. -/
def installFirst : List Nat → Program Unit
  | [] => pure ()
  | pid :: rest => do
      if ← extendsLive env pid then do
        let installed ← onOSError (do replace env pid; pure true) (pure false)
        if installed then pure () else installFirst rest
      else
        installFirst rest

/-- `adopt_checkpoint_temps`. -/
def adoptCheckpointTemps : Program Unit := do
  if ← Action.inspect (fun s => s.live.isSome) then do
    let entries ← iterdir env
    let found ← adoptable env entries
    let stamped ← modified env found
    installFirst env ((stamped.insertionSort (fun a b => b.1 ≤ a.1)).map Prod.snd)
  else
    pure ()

end Programs

/-! ## The record of a checkpoint -/

/-- A dictionary literal. -/
def dictOf (fields : List (String × Value)) : Dict :=
  ofPairs (fields.map (fun field => (lit field.1, field.2)))

/-- `d[name] = value`. -/
def setItem (d : Dict) (name : String) (value : Value) : Dict :=
  insertMember (lit name) value d

/-- A list of dictionaries with two texts, one for each pair. -/
def pairRecords (first second : String) (pairs : List (Text × Text)) : Value :=
  .arr (pairs.map (fun pair => .obj (dictOf [(first, .str pair.1), (second, .str pair.2)])))

/-- `_Hub`. -/
structure Hub where
  name : Text
  pageId : Text
  sections : List (Text × Text)
  navigationBlockId : Text
  views : List (Text × Text)

/-- `_Notification`. -/
structure Notification where
  databaseId : Text
  rowPageId : Text
  formulas : List (Text × Text × Text)
  relations : List (Text × Text)
  rollups : List (Text × Text)
  samples : List (Text × Text)

/-- `_Aesthetics`. -/
structure Aesthetics where
  accents : List (Text × Text)
  samples : List (Text × Text)

/-- `_Variant`. -/
structure Variant where
  name : Text
  tokenName : Text
  pageId : Text
  accentBlockId : Text
  vocabularyBlockId : Text
  secretLink : Text

/-- `CheckpointView`.  `recordedAt` is what `isoformat` returns, where there is one to call. -/
structure CheckpointView where
  checkpointNames : List Text
  nextPhase : Text
  buildKind : Text
  buildVersion : Int
  paletteName : Text
  paletteTokens : List (Text × Text)
  productId : Text
  specId : Text
  recordedAt : Option Text
  pageId : Text
  workspaceId : Text
  shellBlockId : Text
  databaseIds : List (Text × Text)
  dashboardPieces : List (Text × Text)
  identityHubs : List Hub
  notificationDashboard : Option Notification
  aesthetics : Option Aesthetics
  variants : List Variant

/-- `empty_created_ids`. -/
def emptyCreatedIds : Dict :=
  dictOf
    [("aesthetics", .null),
      ("dashboard", .arr []),
      ("databases", .arr []),
      ("design_shell_block_id", .str []),
      ("hubs", .arr []),
      ("notification", .null),
      ("top_level_page_id", .str []),
      ("variants", .null),
      ("workspace_id", .str [])]

def hubRecord (hub : Hub) : Value :=
  .obj (dictOf
    [("name", .str hub.name),
      ("navigation_block_id", .str hub.navigationBlockId),
      ("page_id", .str hub.pageId),
      ("sections", pairRecords "role" "block_id" hub.sections),
      ("views", pairRecords "slug" "view_id" hub.views)])

def formulaRecords (formulas : List (Text × Text × Text)) : Value :=
  .arr (formulas.map (fun formula => .obj (dictOf
    [("kind", .str formula.1), ("name", .str formula.2.1), ("property_id", .str formula.2.2)])))

def notificationRecord (notice : Notification) : Value :=
  .obj (dictOf
    [("database_id", .str notice.databaseId),
      ("formulas", formulaRecords notice.formulas),
      ("relations", pairRecords "data_type" "property_id" notice.relations),
      ("rollups", pairRecords "name" "property_id" notice.rollups),
      ("row_page_id", .str notice.rowPageId),
      ("samples", pairRecords "kind" "page_id" notice.samples)])

def aestheticsRecord (record : Aesthetics) : Value :=
  .obj (dictOf
    [("accents", pairRecords "token" "block_id" record.accents),
      ("samples", pairRecords "hub" "block_id" record.samples)])

def variantRecord (variant : Variant) : Value :=
  .obj (dictOf
    [("accent_block_id", .str variant.accentBlockId),
      ("name", .str variant.name),
      ("page_id", .str variant.pageId),
      ("secret_link", .str variant.secretLink),
      ("token", .str variant.tokenName),
      ("vocabulary_block_id", .str variant.vocabularyBlockId)])

section View

variable (view : CheckpointView)

/-- The created ids that every checkpoint has. -/
def firstCreatedIds : Dict :=
  let created := setItem emptyCreatedIds "design_shell_block_id" (.str view.shellBlockId)
  let created := setItem created "top_level_page_id" (.str view.pageId)
  let created := setItem created "workspace_id" (.str view.workspaceId)
  let created := setItem created "databases" (pairRecords "kind" "database_id" view.databaseIds)
  let created := setItem created "dashboard" (pairRecords "kind" "value" view.dashboardPieces)
  setItem created "hubs" (.arr (view.identityHubs.map hubRecord))

/-- The variants of a checkpoint, where it has any. -/
def variantRecords : Option Value :=
  if view.variants = [] then none else some (.arr (view.variants.map variantRecord))

/-- Set an item where there is a value. -/
def setSome (d : Dict) (name : String) (value : Option Value) : Dict :=
  match value with
  | some v => setItem d name v
  | none => d

/-- `_created_ids`. -/
def createdIds : Dict :=
  let created := setSome (firstCreatedIds view) "notification"
    (view.notificationDashboard.map notificationRecord)
  let created := setSome created "aesthetics" (view.aesthetics.map aestheticsRecord)
  setSome created "variants" (variantRecords view)

/-- `_mappings`. -/
def mappings : Dict :=
  let mappings := dictOf
    [("design_shell_block_id", .str (lit "design_shell_block_id")),
      ("product_id", .str (lit "product_id")),
      ("product_spec_id", .str (lit "product_spec_id"))]
  if view.notificationDashboard.isSome then
    setItem (setItem mappings "buyer_name" (.str (lit "Buyer name"))) "sample_marker"
      (.str (lit "sample_marker"))
  else
    mappings

/-- The `blocks` of `_counts`. -/
def blockCount : Nat :=
  1 + (view.dashboardPieces.filter (fun piece =>
        decide (piece.1 ∈ [lit "callout", lit "greeting", lit "hub_navigation"]))).length +
    (view.identityHubs.map (fun hub => hub.sections.length + 1)).sum +
    (match view.aesthetics with
      | some record => record.accents.length + record.samples.length
      | none => 0) +
    2 * view.variants.length

/-- The `pages` of `_counts`. -/
def pageCount : Nat :=
  1 + view.identityHubs.length +
    (match view.notificationDashboard with
      | some notice => 1 + notice.samples.length
      | none => 0) +
    view.variants.length

/-- The `databases` of `_counts`. -/
def databaseCount : Nat :=
  view.databaseIds.length + (if view.notificationDashboard.isSome then 1 else 0)

/-- `_counts`. -/
def counts : Dict :=
  dictOf
    [("blocks", .int (blockCount view)),
      ("databases", .int (databaseCount view)),
      ("pages", .int (pageCount view))]

/-- `_formulas`. -/
def formulas : Value :=
  match view.notificationDashboard with
  | none => .arr []
  | some notice => formulaRecords notice.formulas

def textArray (texts : List Text) : Value :=
  .arr (texts.map Value.str)

/-- The operations that `progress_from_checkpoint` defers. -/
def deferredOf : List Text :=
  if view.nextPhase = phasesComplete ∨ view.checkpointNames = phases then
    []
  else
    phases.filter (fun phase => decide (phase ∉ view.checkpointNames))

/-- `progress_from_checkpoint`. -/
def progressFromCheckpoint : Dict :=
  dictOf
    [("completed_operations", textArray view.checkpointNames),
      ("deferred_operations", textArray (deferredOf view)),
      ("created_notion_ids", .obj (createdIds view)),
      ("property_mappings", .obj (mappings view)),
      ("page_counts", .obj (counts view)),
      ("formula_state", formulas view),
      ("repair_jobs", .arr []),
      ("recovery", .str (lit "recoverable")),
      ("next_phase", .str view.nextPhase)]

/-- The payload of `write_checkpoint`. -/
def payloadOf (references : Dict) (recordedAt : Text) : Dict :=
  dictOf
    [("build_kind", .str view.buildKind),
      ("build_version", .int view.buildVersion),
      ("checkpoint_names", textArray view.checkpointNames),
      ("palette_name", .str view.paletteName),
      ("palette_tokens", .arr (view.paletteTokens.map (fun token => textArray [token.1, token.2]))),
      ("product_id", .str view.productId),
      ("provider_object_references", .obj references),
      ("recorded_at", .str recordedAt),
      ("spec_id", .str view.specId)]

/-- The created ids of an earlier record, with the fresh variants. -/
def keptCreatedIds (retained : Dict) : Dict :=
  match (createdIds view).lookup (lit "variants") with
  | none => retained
  | some .null => retained
  | some variants => setItem retained "variants" variants

/-- The progress body of `write_checkpoint`, with the jobs of the file. -/
def bodyOf (retained : Option Dict) (jobs : List Value) : Dict :=
  let body := withJobs jobs (progressFromCheckpoint view)
  match retained with
  | none => body
  | some kept => setItem body "created_notion_ids" (.obj (keptCreatedIds view kept))

end View

/-! ## The calls -/

/-- The arguments of `write_checkpoint`. -/
structure WriteArgs where
  checkpoint : Option CheckpointView
  references : Option Dict
  preservedPayload : Option Dict
  progress : Option Dict
  retainedCreatedIds : Option Dict

/-- `_repair_job`. -/
def repairJob (operation response phase kind : Text) : Except ProductBuildError Dict := do
  ensure (decide (kind ∈ acceptedJobKinds)) forged
  ensure (decide (operation ≠ [] ∧ response ≠ [] ∧ phase ≠ [])) tampered
  ensure (isAscii operation && isAscii response && isAscii phase) tampered
  .ok (dictOf
    [("kind", .str kind), ("operation", .str operation), ("phase", .str phase),
      ("response", .str response)])

/-- `item.get(name)` of both is the same text. -/
def sameText (name : String) (item fresh : Dict) : Bool :=
  match item.lookup (lit name), fresh.lookup (lit name) with
  | some (.str t), some (.str t') => decide (t = t')
  | _, _ => false

/-- `_same_provider_job`. -/
def sameProviderJob (jobs : List Value) (fresh : Dict) : Bool :=
  (match fresh.lookup (lit "kind") with
    | some (.str kind) => decide (kind = lit "provider_response")
    | _ => false) &&
    jobs.any (fun item =>
      match item with
      | .obj d => ["kind", "operation", "phase", "response"].all (fun name => sameText name d fresh)
      | _ => false)

/-- One step of `stored_qa_repair_names`. -/
def qaRepairName (names : List Text) (job : Value) : List Text :=
  match job with
  | .obj d =>
    match d.lookup (lit "kind"), d.lookup (lit "operation"), d.lookup (lit "response") with
    | some (.str kind), some (.str operation), some (.str response) =>
      if kind = qaRepairKind ∧ operation = qaRepairOperation ∧ response ∈ qaRepairResponses ∧
          response ∉ names then
        names ++ [response]
      else
        names
    | _, _, _ => names
  | _ => names

section Calls

variable (env : Env)

/-- `write_checkpoint`. -/
def writeCheckpoint (pid : Nat) (args : WriteArgs) : Program Unit :=
  match args.preservedPayload with
  | some payload =>
    match args.progress with
    | none => Action.raise (.build ⟨"progress record is missing"⟩)
    | some body => writeDocument env pid payload body
  | none =>
    match args.checkpoint, args.references with
    | some view, some references =>
      match view.recordedAt with
      | none => Action.raise (.typeError "checkpoint recorded_at must be a datetime")
      | some recordedAt => do
          match ← Action.inspect (fun s => s.live) with
          | none =>
            writeDocument env pid (payloadOf view references recordedAt)
              (bodyOf view args.retainedCreatedIds [])
          | some text => do
              operation env
              let prior ← checked (loadPayload env.sha256 (some text) true)
              writeDocument env pid (payloadOf view references recordedAt)
                (bodyOf view args.retainedCreatedIds prior.repairJobs)
    | _, _ => Action.raise (.build ⟨"checkpoint is incomplete"⟩)

/-- `_append_job`. -/
def appendJob (pid : Nat) (fresh : Dict) : Program Unit := do
  match ← Action.inspect (fun s => s.live) with
  | none => Action.raise (.build ⟨"a provider failure with no prior record writes nothing"⟩)
  | some text => do
      operation env
      let raw ← checked (loadObject text)
      let found ← checked (checkedProgress env.sha256 raw)
      let progress := without recordDigest found
      match jobList progress with
      | none => Action.raise (.build tampered)
      | some jobs =>
        if sameProviderJob jobs fresh then
          pure ()
        else
          writeCheckpoint env pid
            { checkpoint := none, references := none
              preservedPayload := some (without progressKey raw)
              progress := some (withJobs (jobs ++ [.obj fresh]) progress)
              retainedCreatedIds := none }

/-- `record_provider_failure`. -/
def recordProviderFailure (pid : Nat) (operation response phase : Text) : Program Unit := do
  let job ← checked (repairJob operation response phase (lit "provider_response"))
  appendJob env pid job

/-- `append_refused_rebuild`. -/
def appendRefusedRebuild (pid : Nat) (reason : Text) : Program Unit := do
  let job ← checked (repairJob opRebuild reason (lit "top_level_page_and_design_shell") rebuildRefused)
  appendJob env pid job

/-- The loop of `record_applied_repairs`. -/
def appendRepairs (pid : Nat) : List Text → List Text → Program Unit
  | [], _ => pure ()
  | name :: rest, present =>
    if name ∈ qaRepairResponses ∧ name ∉ present then do
      let job ← checked (repairJob qaRepairOperation name qaRepairPhase qaRepairKind)
      appendJob env pid job
      appendRepairs pid rest (name :: present)
    else
      appendRepairs pid rest present

/-- `record_applied_repairs`, with `stored_qa_repair_names`. -/
def recordAppliedRepairs (pid : Nat) (names : List Text) : Program Unit := do
  match ← Action.inspect (fun s => s.live) with
  | none => pure ()
  | some text => do
      operation env
      let envelope ← checked (loadPayload env.sha256 (some text) false)
      appendRepairs env pid names (envelope.repairJobs.foldl qaRepairName [])

/-- Dictionaries are kept in the order of their names. -/
structure WriteArgs.Ordered (args : WriteArgs) : Prop where
  references : ∀ d, args.references = some d → (Value.obj d).Sorted
  preservedPayload : ∀ d, args.preservedPayload = some d → (Value.obj d).Sorted
  progress : ∀ d, args.progress = some d → (Value.obj d).Sorted
  retainedCreatedIds : ∀ d, args.retainedCreatedIds = some d → (Value.obj d).Sorted

/-- A call on the checkpoint. -/
inductive Call
  | write (args : WriteArgs) (ordered : args.Ordered)
  | providerFailure (operation response phase : Text)
  | refusedRebuild (reason : Text)
  | appliedRepairs (names : List Text)
  | adopt

def Call.program (pid : Nat) : Call → Program Unit
  | .write args _ => writeCheckpoint env pid args
  | .providerFailure operation response phase =>
    recordProviderFailure env pid operation response phase
  | .refusedRebuild reason => appendRefusedRebuild env pid reason
  | .appliedRepairs names => recordAppliedRepairs env pid names
  | .adopt => adoptCheckpointTemps env

/-- A process makes a call; what it leaves is the directory, however the call ends. -/
def step (s : Store) (call : Nat × Call) : Store :=
  (call.2.program env call.1 s).2

end Calls

end Progress
end Agents
end MoneyMachine
