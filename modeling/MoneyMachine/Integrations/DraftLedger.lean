import Mathlib.Logic.Function.Basic
import MoneyMachine.Integrations.DraftListing

/-!
# DraftLedger — the durable ledger and the calls of `create_draft` that share it

The ledger is a directory with one small file for each spec version and fixture hash.  A call probes
and reads the file, walks the shop's drafts twice, claims the key by creating the file exclusively,
sends its `POST` and replaces the file by the recorded listing.  Every access to the directory is a
step of its own here, so that calls interleave between any two of them; a call may also fail at an
access or crash anywhere.

`put_pending` is modelled as the source has it: it reads the ledger once more and returns silently
when it finds a row.
-/

namespace MoneyMachine
namespace Integrations

open MoneyMachine.Domain

/-! ## Rows -/

/-- A readable row of the ledger. -/
inductive LedgerEntry
  | pending
  | recorded (listingId : Nat)
  deriving DecidableEq, Repr

/-- The value of a decimal text. -/
def decimalValue (digits : List Char) : Nat :=
  digits.foldl (fun n c => 10 * n + (c.toNat - '0'.toNat)) 0

/-- The text of a file as `get` reads it; the ledger itself only writes ASCII digits. -/
def parseRow (text : String) : Except DraftError LedgerEntry :=
  if text = "pending\n" then
    .ok .pending
  else if startsWith text "recorded\n" then
    match text.toList.splitOn '\n' with
    | _ :: digits :: _ =>
      if digits ≠ [] ∧ digits.all Char.isDigit ∧ 1 ≤ decimalValue digits then
        .ok (.recorded (decimalValue digits))
      else
        .error (.refused "ledger_corrupt")
    | _ => .error (.refused "ledger_corrupt")
  else
    .error (.refused "ledger_corrupt")

/-- The text `record` writes. -/
def recordedText (listingId : Int) : String :=
  "recorded\n" ++ toString listingId ++ "\n"

/-- `_path`. -/
def ledgerPath (specVersion : Int) (fixtureHash : String) : String :=
  toString specVersion ++ "-" ++ fixtureHash

/-- The name `record` writes under before it replaces the row. -/
def nextPath (path : String) : String := path ++ ".next"

/-! ## The directory -/

/-- Names refer to files, and files have contents.  A descriptor is a file: it stays valid when its
name is unlinked or moved. -/
structure Directory where
  names : String → Option Nat
  contents : Nat → String
  next : Nat

namespace Directory

/-- `os.open` with `O_CREAT | O_EXCL`: a new empty file, unless the name is taken. -/
def createExclusive (directory : Directory) (path : String) : Option (Directory × Nat) :=
  match directory.names path with
  | some _ => none
  | none =>
    some
      ({ names := Function.update directory.names path (some directory.next)
         contents := Function.update directory.contents directory.next ""
         next := directory.next + 1 },
        directory.next)

/-- `os.write` of a whole payload to a file that was just created. -/
def write (directory : Directory) (descriptor : Nat) (text : String) : Directory :=
  { directory with contents := Function.update directory.contents descriptor text }

/-- `os.unlink`; a missing name is ignored. -/
def unlink (directory : Directory) (path : String) : Directory :=
  { directory with names := Function.update directory.names path none }

/-- `os.replace`. -/
def replace (directory : Directory) (source target : String) : Option Directory :=
  (directory.names source).map (fun file =>
    { directory with
      names := Function.update (Function.update directory.names source none) target (some file) })

end Directory

/-! ## One call -/

/-- Where a call of `create_draft` stands: what it is about to do, or how it ended. -/
inductive Phase
  /-- `get` is about to look for the file. -/
  | idle
  | opening
  | reading (descriptor : Nat)
  /-- About to walk the pages; the row that was read. -/
  | walking (existing : Option LedgerEntry)
  | confirming (existing : Option LedgerEntry) (first : Walk)
  /-- `put_pending` is about to look for the file. -/
  | claiming
  | reopening
  | rereading (descriptor : Nat)
  /-- About to create the pending file exclusively. -/
  | creating
  | writing (descriptor : Nat)
  | syncing
  /-- About to send the `POST`. -/
  | posting
  | posted
  /-- `record`, step by step. -/
  | unlinkingNext (listingId : Int)
  | creatingNext (listingId : Int)
  | writingNext (listingId : Int) (descriptor : Nat)
  | syncingNext (listingId : Int)
  | replacing (listingId : Int)
  | syncingRow (listingId : Int)
  | returned (listingId : Int)
  | raised (error : DraftError)
  | crashed
  deriving DecidableEq, Repr

inductive ClientEvent
  /-- The next access to the directory succeeds, or the `POST` is sent. -/
  | proceed
  /-- The replies of a whole walk. -/
  | pages (replies : Nat → Reply)
  /-- The reply to the `POST`. -/
  | reply (reply : Reply)
  /-- The access fails. -/
  | fault
  | crash

section Client

variable (path marker : String)

/-- The end of `_adopt`: record what was found, refuse a pending key, or claim the key. -/
def afterWalks (existing : Option LedgerEntry) (first second : Walk) : Phase :=
  match adoptOf first second with
  | .error error => .raised error
  | .ok (some listingId) => .unlinkingNext listingId
  | .ok none =>
    match existing with
    | none => .claiming
    -- The row that was read at the beginning, not the row as it is now.
    | some _ => .raised (.refused "pending")

/-- Open a file that was there a moment ago. -/
def openRow (directory : Directory) (next : Nat → Phase) : Phase :=
  match directory.names path with
  | none => .raised (.refused "ledger")
  | some descriptor => next descriptor

/-- The next thing a call does on its own: the directory afterwards and where the call stands. -/
def advance (directory : Directory) : Phase → Directory × Phase
  | .idle =>
    match directory.names path with
    | none => (directory, .walking none)
    | some _ => (directory, .opening)
  | .opening => (directory, openRow path directory .reading)
  | .reading descriptor =>
    match parseRow (directory.contents descriptor) with
    | .error error => (directory, .raised error)
    | .ok (.recorded listingId) => (directory, .returned listingId)
    | .ok .pending => (directory, .walking (some .pending))
  | .claiming =>
    match directory.names path with
    | none => (directory, .creating)
    | some _ => (directory, .reopening)
  | .reopening => (directory, openRow path directory .rereading)
  | .rereading descriptor =>
    match parseRow (directory.contents descriptor) with
    | .error error => (directory, .raised error)
    -- `put_pending` returns without having created anything.
    | .ok _ => (directory, .posting)
  | .creating =>
    match directory.createExclusive path with
    -- Losing the race here is `FileExistsError`, which `create_draft` does not catch.
    | none => (directory, .raised .other)
    | some (directory', descriptor) => (directory', .writing descriptor)
  -- Until this write the file is empty, and a reader finds it corrupt.
  | .writing descriptor => (directory.write descriptor "pending\n", .syncing)
  | .syncing => (directory, .posting)
  | .posting => (directory, .posted)
  | .unlinkingNext listingId => (directory.unlink (nextPath path), .creatingNext listingId)
  | .creatingNext listingId =>
    match directory.createExclusive (nextPath path) with
    | none => (directory, .raised .other)
    | some (directory', descriptor) => (directory', .writingNext listingId descriptor)
  | .writingNext listingId descriptor =>
    (directory.write descriptor (recordedText listingId), .syncingNext listingId)
  | .syncingNext listingId => (directory, .replacing listingId)
  | .replacing listingId =>
    match directory.replace (nextPath path) path with
    | none => (directory, .raised .other)
    | some directory' => (directory', .syncingRow listingId)
  | .syncingRow listingId => (directory, .returned listingId)
  | phase => (directory, phase)

/-- The call has ended. -/
def Phase.finished : Phase → Bool
  | .returned _ => true
  | .raised _ => true
  | .crashed => true
  | _ => false

/-- What an error of the file system becomes: `get` turns it into a refusal. -/
def Phase.fault : Phase → Phase
  | .opening | .reading _ | .reopening | .rereading _ => .raised (.refused "ledger")
  | .creating | .writing _ | .syncing | .unlinkingNext _ | .creatingNext _ | .writingNext _ _
  | .syncingNext _ | .replacing _ | .syncingRow _ => .raised .other
  | phase => phase

def clientStep (directory : Directory) (phase : Phase) : ClientEvent → Directory × Phase
  | .proceed => advance path directory phase
  | .pages replies =>
    match phase with
    | .walking existing =>
      match readPages marker replies with
      | .error error => (directory, .raised error)
      | .ok first => (directory, .confirming existing first)
    | .confirming existing first =>
      match readPages marker replies with
      | .error error => (directory, .raised error)
      | .ok second => (directory, afterWalks existing first second)
    | phase => (directory, phase)
  | .reply reply =>
    match phase with
    | .posted =>
      match reply >>= fun payload => draftListingId payload (some marker) with
      | .error error => (directory, .raised error)
      | .ok listingId => (directory, .unlinkingNext listingId)
    | phase => (directory, phase)
  | .fault => (directory, phase.fault)
  | .crash => (directory, if phase.finished then phase else .crashed)

end Client

/-! ## Any number of calls -/

/-- The directory, the calls, and the `POST`s in the order they were sent. -/
structure DraftClients (ι : Type) where
  directory : Directory
  phases : ι → Phase
  posts : List ι

section System

variable {ι : Type} [DecidableEq ι] (sha256 : String → String) (specs : ι → DraftSpec)

/-- `fixture_hash`. -/
def fixtureHash (spec : DraftSpec) : String :=
  sha256 (fixtureHashText spec)

/-- No call has begun; a spec that is not admitted raises at once. -/
def DraftClients.start (directory : Directory) : DraftClients ι :=
  { directory := directory
    phases := fun i =>
      match requireSpec (specs i) with
      | .ok () => .idle
      | .error error => .raised error
    posts := [] }

/-- The file of a call's ledger row. -/
def pathOf (i : ι) : String :=
  ledgerPath (specs i).specVersion (fixtureHash sha256 (specs i))

def markerOf (i : ι) : String :=
  draftMarker (specs i).specVersion (fixtureHash sha256 (specs i))

def clientsStep (clients : DraftClients ι) (input : ι × ClientEvent) : DraftClients ι :=
  let stepped := clientStep (pathOf sha256 specs input.1) (markerOf sha256 specs input.1)
    clients.directory (clients.phases input.1) input.2
  { directory := stepped.1
    phases := Function.update clients.phases input.1 stepped.2
    posts :=
      if clients.phases input.1 = .posting ∧ stepped.2 = .posted then
        clients.posts ++ [input.1]
      else
        clients.posts }

end System

end Integrations
end MoneyMachine
