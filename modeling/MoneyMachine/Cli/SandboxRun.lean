import MoneyMachine.Library.Action
import MoneyMachine.Library.Equality
import Mathlib.Data.List.Basic

/-!
# SandboxRun — creating child pages under one parent

`create_under` and what it keeps of the pages it created, flagged, rejected or may have lost.  A client
answers each request with a page or an exception, in any way: the answers are a sequence fixed beforehand,
one for each request of the run.

The live client publishes a page into the lists of the run before it returns it.  Every exchange with the
client is logged for the reader of a theorem; the program never reads the log.
-/

namespace MoneyMachine
namespace Cli

open MoneyMachine.Library

abbrev Text := List Char

/-! ## Identifiers -/

/-- `"0123456789abcdef"`. -/
def isHex (c : Char) : Bool :=
  c.isDigit || decide ('a' ≤ c ∧ c ≤ 'f')

/-- `canonical_id`.  Lowering a letter outside ASCII never gives a hexadecimal digit, so it is left as
it is. -/
def canonicalId (value : Text) : Text :=
  let compact := (value.filter (fun c => decide (c ≠ '-'))).map Char.toLower
  if compact.length ≠ 32 then
    []
  else if compact.any (fun c => !isHex c) then
    []
  else
    compact.take 8 ++ '-' :: ((compact.drop 8).take 4 ++ '-' :: ((compact.drop 12).take 4 ++
      '-' :: ((compact.drop 16).take 4 ++ '-' :: (compact.drop 20).take 12)))

/-- `SANDBOX_SPACE_ID`. -/
def sandboxSpaceId : Text := "89282fb0-af94-8106-809e-0003c027fa07".toList

/-- `SANDBOX_PARENT_PAGE_ID`. -/
def sandboxParentPageId : Text := "3ed82fb0-af94-80dc-8272-f40b16376b81".toList

def parentIsAllowed (parentId : Text) (allowed : List Text) : Bool :=
  if canonicalId parentId = [] then
    false
  else
    allowed.any (fun item => decide (canonicalId item = canonicalId parentId))

def spaceConflicts (spaceId : Text) : Bool :=
  decide (canonicalId spaceId ≠ [] ∧ canonicalId spaceId ≠ sandboxSpaceId)

/-! ## Pages -/

/-- A `datetime`, in microseconds when it has a time zone. -/
inductive CreatedTime
  | naive
  | aware (instant : Int)
  deriving DecidableEq, Repr

structure PageView where
  pageId : Text
  parentId : Text
  spaceId : Text
  url : Text
  archived : Bool
  createdBy : Text
  createdTime : Option CreatedTime
  deriving DecidableEq, Repr

/-- A `SandboxError`, or any other exception of the client. -/
inductive Raised
  | sandbox (message : String)
  | other (description : Text)
  deriving DecidableEq, Repr

/-! ## The run -/

/-- A row of `created`. -/
structure CreatedRow where
  id : Text
  parentId : Text
  url : Text
  deriving DecidableEq, Repr

/-- A row of `flagged_pages` or `rejected_pages`. -/
structure ReasonRow where
  id : Text
  reason : String
  deriving DecidableEq, Repr

/-- A row of `possible_orphans`. -/
structure Marker where
  fingerprint : Text
  parentId : Text
  deriving DecidableEq, Repr

/-- `SandboxRun`, as far as `create_under` reads and writes it. -/
structure SandboxRun where
  moment : Int
  botUserId : Text
  botSpaceId : Text
  createdIds : List Text
  created : List CreatedRow
  rejectedPages : List ReasonRow
  flaggedPages : List ReasonRow
  possibleOrphans : List Marker
  createChildPageCount : Nat
  deriving DecidableEq, Repr

namespace SandboxRun

/-- `_drop_recorded`. -/
def dropRecorded (run : SandboxRun) (pageId : Text) : SandboxRun :=
  if pageId = [] ∨ pageId ∉ run.createdIds then
    run
  else
    { run with
      createdIds := run.createdIds.erase pageId
      created := run.created.filter (fun row => decide (row.id ≠ pageId)) }

/-- `_drop_tail`. -/
def dropTail (run : SandboxRun) (pageId : Text) (before : Nat) : SandboxRun :=
  if pageId ∉ run.createdIds then
    run
  else if run.createdIds.idxOf pageId < before then
    run
  else
    run.dropRecorded pageId

/-- `_flag`. -/
def flag (run : SandboxRun) (pageId : Text) (reason : String) : SandboxRun :=
  if pageId = [] then
    run
  else if ⟨pageId, reason⟩ ∈ run.flaggedPages then
    run
  else
    { run with flaggedPages := run.flaggedPages ++ [⟨pageId, reason⟩] }

def rowOf (page : PageView) (pageId : Text) : CreatedRow :=
  ⟨pageId, canonicalId page.parentId, page.url⟩

/-- `created_ids.append(page_id)`, `created.append({...})`. -/
def append (run : SandboxRun) (page : PageView) (pageId : Text) : SandboxRun :=
  { run with
    createdIds := run.createdIds ++ [pageId]
    created := run.created ++ [rowOf page pageId] }

/-- `_remember`. -/
def remember (run : SandboxRun) (page : PageView) (pageId : Text) : SandboxRun :=
  if pageId = [] ∨ pageId ∈ run.createdIds then
    run
  else
    run.append page pageId

/-- What `_reject_unfresh` does before it raises. -/
def rejectUnfresh (run : SandboxRun) (pageId : Text) : SandboxRun :=
  { run with
    createdIds := run.createdIds.erase pageId
    created := run.created.filter (fun row => decide (row.id ≠ pageId))
    rejectedPages :=
      if pageId ≠ [] ∧ run.rejectedPages.all (fun row => decide (row.id ≠ pageId)) then
        run.rejectedPages ++ [⟨pageId, "not_new"⟩]
      else
        run.rejectedPages }

/-- Two minutes. -/
def freshSkew : Int := 120000000

/-- `_earliest`: the minute of the moment, less the skew. -/
def earliest (moment : Int) : Int :=
  moment / 60000000 * 60000000 - freshSkew

/-- `_latest`. -/
def latest (moment : Int) : Int :=
  moment + freshSkew

/-- The checks of `_fresh`. -/
def isFresh (run : SandboxRun) (page : PageView) : Bool :=
  decide (page.createdBy = run.botUserId) &&
    match page.createdTime with
    | none => false
    | some .naive => false
    | some (.aware instant) =>
      decide (earliest run.moment ≤ instant ∧ instant ≤ latest run.moment)

end SandboxRun

/-! ## The client -/

/-- The live client has its own list of pages, and a run's lists once they are bound to it. -/
inductive Client
  | plain
  | live (createdIds : List Text) (bound : Bool)
  deriving DecidableEq, Repr

/-- One call of the client, with what it answered. -/
inductive Exchange
  | create (parentId title : Text) (answer : Except Raised PageView)
  | read (pageId : Text) (answer : Except Raised PageView)

structure World where
  run : SandboxRun
  client : Client
  log : List Exchange

/-- Nothing is created yet. -/
def World.start (client : Client) (moment : Int) (botUserId botSpaceId : Text) : World where
  run := ⟨moment, botUserId, botSpaceId, [], [], [], [], [], 0⟩
  client := client
  log := []

abbrev Sandbox (α : Type) : Type :=
  Action World Raised α

namespace World

def withRun (w : World) (run : SandboxRun) : World :=
  { w with run := run }

/-- `_publish`. -/
def publish (w : World) (page : PageView) : World :=
  match w.client with
  | .plain => w
  | .live createdIds bound =>
    if canonicalId page.pageId = [] || spaceConflicts page.spaceId then
      w
    else
      { w with
        client := .live (if canonicalId page.pageId ∈ createdIds then createdIds
          else createdIds ++ [canonicalId page.pageId]) bound
        run := if bound && decide (canonicalId page.pageId ∉ w.run.createdIds) then
            w.run.append page (canonicalId page.pageId)
          else
            w.run }

end World

section Program

variable (sha256 : Text → Text) (answers : Nat → Except Raised PageView)

/-- What the next request is answered. -/
def answered (w : World) : Except Raised PageView :=
  answers w.log.length

/-- What `create_child_page` answers.  The live client refuses a parent that it did not create itself. -/
def createAnswer (parentId : Text) (w : World) : Except Raised PageView :=
  match w.client with
  | .plain => answered answers w
  | .live createdIds _ =>
    if !parentIsAllowed (canonicalId parentId) (sandboxParentPageId :: createdIds) then
      .error (.sandbox "parent is not the sandbox parent")
    else if canonicalId (canonicalId parentId) ≠ canonicalId parentId then
      .error (.sandbox "parent is not the sandbox parent")
    else
      answered answers w

/-- `client.create_child_page`. -/
def createChildPage (parentId title : Text) : Sandbox PageView :=
  fun w =>
    match createAnswer answers parentId w with
    | .ok page =>
      (.ok page, { w.publish page with log := w.log ++ [.create parentId title (.ok page)] })
    | .error e => (.error e, { w with log := w.log ++ [.create parentId title (.error e)] })

/-- `client.read_page`. -/
def readPage (pageId : Text) : Sandbox PageView :=
  fun w => (answered answers w, { w with log := w.log ++ [.read pageId (answered answers w)] })

def modifyRun (f : SandboxRun → SandboxRun) : Sandbox Unit :=
  Action.change (fun w => w.withRun (f w.run))

def notNew : Raised := .sandbox "created page is not new"

def notUnder : Raised := .sandbox "created page is not under the requested parent"

/-- `raise SandboxError(...)` unless the condition holds. -/
def require (condition : Bool) (e : Raised) : Sandbox Unit :=
  if condition then pure () else Action.raise e

/-- The loop of `_align`, with its `else` branch. -/
def shrink (pageId : Text) (before : Nat) : Nat → Sandbox Unit
  | 0 => do
      let run ← Action.inspect World.run
      require (decide (run.createdIds.length ≤ before)) (.sandbox "created id list did not shrink")
  | steps + 1 => do
      let run ← Action.inspect World.run
      match run.createdIds.getLast? with
      | none => pure ()
      | some tail =>
        if run.createdIds.length ≤ before then
          pure ()
        else if tail = pageId then
          pure ()
        else do
          modifyRun (fun run => run.dropTail tail before)
          let after ← Action.inspect World.run
          require (decide (after.createdIds.length < run.createdIds.length))
            (.sandbox "created id list did not shrink")
          shrink pageId before steps

/-- What `_align` does with the page after the loop. -/
def SandboxRun.record (run : SandboxRun) (page : PageView) (pageId : Text) (before : Nat) :
    SandboxRun :=
  if spaceConflicts page.spaceId then
    if pageId ∈ run.createdIds.take before then
      run.dropRecorded pageId
    else
      (run.remember page pageId).flag pageId "space_conflict"
  else
    run.remember page pageId

/-- `_align`. -/
def align (page : PageView) (before : Nat) : Sandbox Text := do
  let run ← Action.inspect World.run
  shrink (canonicalId page.pageId) before (run.createdIds.length - before + 1)
  modifyRun (fun run => run.record page (canonicalId page.pageId) before)
  pure (canonicalId page.pageId)

/-- `_fresh`. -/
def fresh (page : PageView) : Sandbox Unit := do
  let run ← Action.inspect World.run
  if run.isFresh page then
    pure ()
  else do
    modifyRun (fun run => run.rejectUnfresh (canonicalId page.pageId))
    Action.raise notNew

/-- `_flag`, then the refusal. -/
def refuseFlagged {α : Type} (pageId : Text) (reason : String) (e : Raised) : Sandbox α := do
  modifyRun (fun run => run.flag pageId reason)
  Action.raise e

/-- The loop of `chain_reaches_sandbox`. -/
def chainFrom (createdId : Text) : Nat → PageView → List Text → Sandbox Unit
  | 0, _, _ => Action.raise notUnder
  | steps + 1, current, seen =>
    if canonicalId current.pageId = sandboxParentPageId then
      if spaceConflicts current.spaceId || current.archived then
        refuseFlagged createdId "chain" notUnder
      else
        pure ()
    else if canonicalId current.parentId = [] ∨ canonicalId current.pageId = [] ∨
        canonicalId current.pageId ∈ seen then
      Action.raise notUnder
    else do
      let next ← readPage answers (canonicalId current.parentId)
      if canonicalId next.pageId ≠ canonicalId current.parentId then
        refuseFlagged createdId "chain_id" notUnder
      else if spaceConflicts next.spaceId || next.archived then
        refuseFlagged createdId "chain" notUnder
      else
        chainFrom createdId steps next (seen ++ [canonicalId current.pageId])

/-- `chain_reaches_sandbox`. -/
def chainReachesSandbox (page : PageView) : Sandbox Unit :=
  chainFrom answers (canonicalId page.pageId) 4 page []

/-- `created[-1]` is written again with what was confirmed. -/
def SandboxRun.confirm (run : SandboxRun) (page : PageView) (pageId : Text) : SandboxRun :=
  match run.created.getLast? with
  | none => run
  | some row =>
    if row.id = pageId then
      { run with created := run.created.dropLast ++ [SandboxRun.rowOf page pageId] }
    else
      run

def markerOf (parentId title : Text) : Marker :=
  ⟨sha256 (canonicalId parentId ++ '\n' :: title), canonicalId parentId⟩

/-- What `create_under` refuses of the page that was created. -/
def checkCreated (page : PageView) (pageId requested : Text) (before : Nat) : Sandbox Unit := do
  if pageId = [] ∨ pageId = sandboxParentPageId ∨ pageId = requested then
    if pageId ≠ [] ∧ pageId ≠ sandboxParentPageId then
      refuseFlagged pageId "not_new" notNew
    else do
      modifyRun (fun run => run.dropRecorded pageId)
      Action.raise notNew
  else
    pure ()
  let run ← Action.inspect World.run
  require (decide (pageId ∉ run.createdIds.take before)) notNew
  if spaceConflicts page.spaceId then
    refuseFlagged pageId "space_conflict" notUnder
  else
    pure ()
  require (decide (canonicalId page.parentId = requested)) notUnder
  fresh page

/-- What `create_under` refuses of the page that was read again. -/
def checkConfirmed (confirmed : PageView) (pageId requested : Text) : Sandbox Unit := do
  require (decide (canonicalId confirmed.pageId = pageId)) notUnder
  require (decide (canonicalId confirmed.parentId = requested)) notUnder
  if spaceConflicts confirmed.spaceId || confirmed.archived then
    refuseFlagged pageId (if confirmed.archived then "archived" else "space_conflict") notUnder
  else
    pure ()
  fresh confirmed

/-- The request of `create_under`, between its marker and the removal of the marker. -/
def createMarked (parentId title : Text) : Sandbox PageView := do
  modifyRun (fun run =>
    { run with possibleOrphans := run.possibleOrphans ++ [markerOf sha256 parentId title] })
  let page ← createChildPage answers parentId title
  modifyRun (fun run =>
    { run with
      possibleOrphans := run.possibleOrphans.erase (markerOf sha256 parentId title)
      createChildPageCount := run.createChildPageCount + 1 })
  pure page

/-- `create_under`. -/
def createUnder (parentId title : Text) : Sandbox PageView := do
  let run ← Action.inspect World.run
  require (parentIsAllowed (canonicalId parentId) (sandboxParentPageId :: run.createdIds))
    (.sandbox "parent is not the sandbox parent")
  require (decide (canonicalId run.botSpaceId = sandboxSpaceId)) notUnder
  let page ← createMarked sha256 answers parentId title
  let pageId ← align page run.createdIds.length
  checkCreated page pageId (canonicalId parentId) run.createdIds.length
  let confirmed ← readPage answers pageId
  checkConfirmed confirmed pageId (canonicalId parentId)
  chainReachesSandbox answers confirmed
  modifyRun (fun run => run.confirm confirmed pageId)
  pure confirmed

/-- Calls of `create_under`, one after the other, whatever they raised. -/
def afterCalls (w : World) (calls : List (Text × Text)) : World :=
  calls.foldl (fun w call => (createUnder sha256 answers call.1 call.2 w).2) w

end Program

end Cli
end MoneyMachine
