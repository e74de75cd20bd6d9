import MoneyMachine.Domain.Basic
import MoneyMachine.Domain.Text
import MoneyMachine.Library.Action
import MoneyMachine.Library.Runs
import MoneyMachine.Library.Table

/-!
# BrowserSession — one session policy over an injected driver

The driver is a function of everything that happened so far, so it may answer each call with any value
and raise any fault.  `Fault.interrupt` stands for the `BaseException`s that are no `Exception`:
`except Exception` does not catch them.

The trace holds every driver call with its answer, and marks where the manager stored a receipt, opened
or restarted a session and gave up a read.
-/

namespace MoneyMachine
namespace Integrations
namespace Browser

open MoneyMachine.Domain
open MoneyMachine.Library

/-! ## Values and faults -/

/-- A value that is no `str`.  A class decides with which texts its values compare equal, and whose hash
they have; `json.dumps` may take them. -/
structure Foreign where
  equals : List String
  sameHash : List String
  hashable : Bool
  serialisable : Bool
  deriving DecidableEq, Repr

/-- A value of the driver or of a caller. -/
inductive Answer
  | text (value : String)
  | other (value : Foreign)
  deriving DecidableEq, Repr

/-- `value == text`. -/
def Answer.equals (text : String) : Answer → Bool
  | .text value => decide (value = text)
  | .other value => decide (text ∈ value.equals)

/-- `value in {...}`, of a value with a hash: a set finds what has the same hash and is equal. -/
def Answer.isIn (texts : List String) : Answer → Bool
  | .text value => decide (value ∈ texts)
  | .other value => texts.any (fun text => decide (text ∈ value.sameHash ∧ text ∈ value.equals))

def Answer.hashable : Answer → Bool
  | .text _ => true
  | .other value => value.hashable

def Answer.serialisable : Answer → Bool
  | .text _ => true
  | .other value => value.serialisable

inductive Fault
  | timeout
  | connection
  /-- Any other `Exception`. -/
  | exception
  /-- `KeyboardInterrupt`, `SystemExit` or `GeneratorExit`. -/
  | interrupt
  deriving DecidableEq, Repr

/-- What a call of the manager raises. -/
inductive Raised
  | driver (fault : Fault)
  /-- `BrowserSessionError`. -/
  | session (message : String)
  | typeError
  | valueError
  deriving DecidableEq, Repr

/-- `except Exception` catches it. -/
def Raised.isException : Raised → Bool
  | .driver .interrupt => false
  | _ => true

/-- `ReceiptStatus`. -/
inductive ReceiptStatus
  | success
  | unknown
  | failure
  deriving DecidableEq, Repr

/-- `ProfileStatus`. -/
inductive ProfileStatus
  | absent
  | unauthenticated
  | authenticated
  deriving DecidableEq, Repr

/-- `_SCREENSHOT_REASONS`. -/
inductive Reason
  | captcha
  | verification
  | unknownPage
  | timeout
  | connection
  | uncertain
  | error
  deriving DecidableEq, Repr

def Reason.text : Reason → String
  | .captcha => "captcha"
  | .verification => "verification"
  | .unknownPage => "unknown-page"
  | .timeout => "timeout"
  | .connection => "connection"
  | .uncertain => "uncertain"
  | .error => "error"

/-! ## The manager -/

/-- `_OpenSession`. -/
structure OpenSession where
  profileName : String
  sessionId : String
  healthy : Bool
  locked : Bool
  deriving DecidableEq, Repr

/-- `NotionOperationReceipt`, as `_record` fills it: the profile and the session are the state before,
the click, the observation and the page kind the state after. -/
structure Receipt where
  jobId : String
  operation : String
  workspace : String
  target : String
  profileName : String
  sessionId : String
  click : String
  observed : Answer
  pageKind : Answer
  evidence : String
  timestamp : Moment
  idempotencyKey : String
  status : ReceiptStatus
  deriving DecidableEq, Repr

inductive DriverCall
  | open (profileName : String)
  | pageKind (sessionId : String)
  | click (sessionId selector : String)
  | read (sessionId selector : String)
  | screenshot (sessionId path : String)
  | close (session : Answer)
  | observe (sessionId : String)
  deriving DecidableEq, Repr

inductive Event
  /-- A driver call, for a profile and inside the mutation of a key. -/
  | call (profileName : String) (key : Option String) (call : DriverCall)
      (answer : Except Fault Answer)
  | stored (receipt : Receipt)
  | opened (profileName : String)
  | restarted (profileName : String)
  | readFailed (profileName : String)

/-- `BrowserDriver`: an answer to every call, whatever happened before. -/
abbrev Driver := List Event → DriverCall → Except Fault Answer

/-- `BrowserSessionManager`. -/
structure Manager where
  sessions : String → Option OpenSession
  seen : Table Receipt Receipt.idempotencyKey
  trace : List Event

namespace Manager

/-- `BrowserSessionManager(driver)`. -/
def initial : Manager :=
  { sessions := fun _ => none, seen := ⟨[], by simp⟩, trace := [] }

def log (event : Event) (m : Manager) : Manager :=
  { m with trace := m.trace ++ [event] }

def setSession (profileName : String) (session : Option OpenSession) (m : Manager) : Manager :=
  { m with sessions := Function.update m.sessions profileName session }

/-- `session.healthy = False`. -/
def taint (profileName : String) (m : Manager) : Manager :=
  m.setSession profileName
    ((m.sessions profileName).map (fun session => { session with healthy := false }))

/-- `current.locked = True`. -/
def lock (profileName : String) (m : Manager) : Manager :=
  m.setSession profileName
    ((m.sessions profileName).map (fun session => { session with locked := true }))

/-- `self._seen[key] = receipt`. -/
def store (receipt : Receipt) (m : Manager) : Manager :=
  { m with seen := m.seen.put receipt, trace := m.trace ++ [.stored receipt] }

end Manager

abbrev Session := Action Manager Raised

/-- One call of the driver. -/
def ask (driver : Driver) (profileName : String) (key : Option String) (call : DriverCall) :
    Session Answer :=
  fun m =>
    let answer := driver m.trace call
    let m' := m.log (.call profileName key call answer)
    match answer with
    | .ok value => (.ok value, m')
    | .error fault => (.error (.driver fault), m')

/-! ## Names -/

def screenshotRoot : String := "runtime/screenshots"

/-- `_FORBIDDEN_NAME_CATEGORIES`. -/
def forbiddenNameCategories : List String := ["Cc", "Cf", "Zl", "Zp", "Zs"]

/-- `_slug_char`. -/
def slugChar (c : Char) : Bool :=
  decide (('a' ≤ c ∧ c ≤ 'z') ∨ ('0' ≤ c ∧ c ≤ '9') ∨ c = '-')

/-- `_slug`. -/
def slug (value label : String) : Session Unit :=
  let chars := value.toList
  if 64 < chars.length then
    .raise (.session (label ++ " is too long"))
  else if chars.head? = some '-' ∨ chars.getLast? = some '-' then
    .raise (.session (label ++ " must not start or end with a hyphen"))
  else if chars.all slugChar = false then
    .raise (.session (label ++ " must be a lowercase slug"))
  else
    pure ()

/-- `profile_path`, with `unicodedata.category`. -/
def profilePath (category : Char → String) (name : String) : Session Unit :=
  if name = "" ∨ name ≠ stripBy isSpace name then
    .raise (.session "profile name must be present")
  else if name.toList.any (fun c => decide (category c ∈ forbiddenNameCategories)) = true then
    .raise (.session "profile name must not contain a control character")
  else
    slug name "profile name"

/-- `_SELECTORS`, of the operations. -/
def mutationSelectors : List (String × String) :=
  [("publish_page", "[data-testid=\"publish-to-web\"]"),
    ("unpublish_page", "[data-testid=\"unpublish\"]"),
    ("set_duplicate_as_template", "[data-testid=\"duplicate-as-template\"]"),
    ("set_search_indexing", "[data-testid=\"search-indexing\"]")]

/-- `_READ_SELECTORS`, with their selectors. -/
def readSelectors : List (String × String) :=
  [("public_url", "[data-testid=\"public-url-display\"]"),
    ("share_menu", "[data-testid=\"share-menu\"]")]

/-- `_require_token`. -/
def requireToken (label : String) : Answer → Session String
  | .text value =>
    if value = "" ∨ value ≠ stripBy isSpace value then
      .raise (.session (label ++ " must be present"))
    else
      pure value
  | .other _ => .raise (.session (label ++ " must be present"))

/-- `_require_timestamp`; a value that is no aware `datetime` is `none`. -/
def requireTimestamp : Option Moment → Session Moment
  | some moment => pure moment
  | none => .raise (.session "timestamp must be timezone-aware")

/-- `_mutation_selector`, with the name of the operation. -/
def mutationSelector : Answer → Session (String × String)
  | .text operation =>
    match mutationSelectors.lookup operation with
    | some selector => pure (operation, selector)
    | none => .raise (.session "operation is not a browser mutation")
  | .other _ => .raise (.session "operation is not a browser mutation")

/-- `_require_session_id`. -/
def requireSessionId : Answer → Session String
  | .text value =>
    if value = "" then
      .raise (.session "session id must be present")
    else do
      slug value "session id"
      pure value
  | .other _ => .raise (.session "session id must be present")

/-- `_require_open`. -/
def requireOpen (profileName : String) : Session OpenSession := do
  let current ← Action.inspect (fun m : Manager => m.sessions profileName)
  match current with
  | none => .raise (.session "session is not open")
  | some session =>
    if session.locked then
      .raise (.session "profile is locked")
    else if !session.healthy then
      .raise (.session "session must be restarted")
    else
      pure session

/-! ## Sessions -/

/-- The close of a session id that was rejected.  A fault that is no interrupt locks the profile. -/
def closeRejected (driver : Driver) (profileName : String) (opened : Answer) : Session Unit :=
  .handle
    (do
      let _ ← ask driver profileName none (.close opened)
      pure ())
    (fun raised =>
      if raised.isException then
        let sessionId :=
          match opened with
          | .text value => if value = "" then "unusable" else value
          | .other _ => "unusable"
        .change (Manager.setSession profileName
          (some { profileName := profileName
                  sessionId := sessionId
                  healthy := false
                  locked := true }))
      else
        .raise raised)

/-- `open_session`. -/
def openSession (category : Char → String) (driver : Driver) (profileName : String)
    (status : ProfileStatus) : Session String := do
  profilePath category profileName
  if status ≠ .authenticated then
    .raise (.session "profile is not authenticated")
  else do
    let current ← Action.inspect (fun m : Manager => m.sessions profileName)
    match current with
    | some session =>
      if session.locked then
        .raise (.session "profile is locked")
      else if !session.healthy then
        .raise (.session "session must be restarted")
      else
        pure session.sessionId
    | none => do
        let opened ← ask driver profileName none (.open profileName)
        let sessionId ← Action.handle (requireSessionId opened) (fun raised => do
          closeRejected driver profileName opened
          .raise raised)
        Action.change (Manager.setSession profileName
          (some { profileName := profileName
                  sessionId := sessionId
                  healthy := true
                  locked := false }))
        Action.change (Manager.log (.opened profileName))
        pure sessionId

/-- `restart`. -/
def restart (category : Char → String) (driver : Driver) (profileName : String) :
    Session Unit := do
  profilePath category profileName
  let current ← Action.inspect (fun m : Manager => m.sessions profileName)
  match current with
  | none => .raise (.session "no session to restart")
  | some session =>
    if session.locked then
      .raise (.session "profile is locked")
    else do
      let _ ← Action.handle
        (ask driver profileName none (.close (.text session.sessionId)))
        (fun raised =>
          if raised.isException then do
            Action.change (Manager.lock profileName)
            .raise (.session "restart failed")
          else
            -- An interrupt passes by: the session stays as it is.
            .raise raised)
      Action.change (Manager.setSession profileName none)
      Action.change (Manager.log (.restarted profileName))

/-! ## Screenshots -/

def screenshotPath (sessionId : String) (reason : Reason) : String :=
  screenshotRoot ++ "/" ++ sessionId ++ "-" ++ reason.text ++ ".png"

/-- `_capture`. -/
def capture (driver : Driver) (session : OpenSession) (key : Option String) (reason : Reason)
    (raiseErrors : Bool) : Session String :=
  .handle
    (do
      let _ ← ask driver session.profileName key
        (.screenshot session.sessionId (screenshotPath session.sessionId reason))
      pure (screenshotPath session.sessionId reason))
    (fun raised =>
      if raised.isException ∧ raiseErrors = false then
        pure "screenshot-failed"
      else
        .raise raised)

/-! ## Reads -/

/-- `_note_error`. -/
def noteError (driver : Driver) (session : OpenSession) (reason : Reason) : Session Unit := do
  Action.change (Manager.taint session.profileName)
  Action.change (Manager.log (.readFailed session.profileName))
  let _ ← capture driver session none reason false
  pure ()

/-- The attempts of `read` that are left. -/
def readAttempts (driver : Driver) (session : OpenSession) (selector : String) :
    Nat → Session Answer
  | 0 => do
      noteError driver session .timeout
      .raise (.session "read timed out")
  | left + 1 =>
    .handle (ask driver session.profileName none (.read session.sessionId selector))
      (fun raised =>
        match raised with
        | .driver .timeout => readAttempts driver session selector left
        | .driver .connection => do
            noteError driver session .connection
            .raise (.session "connection failed")
        | .driver .interrupt => do
            -- An interrupt is not noted, so the session stays healthy.
            Action.change (Manager.log (.readFailed session.profileName))
            .raise raised
        | _ => do
            noteError driver session .error
            .raise (.session "read failed"))

/-- `_MAX_READ_ATTEMPTS`. -/
def maxReadAttempts : Nat := 3

/-- `read`. -/
def read (driver : Driver) (profileName selectorName : String) : Session Answer :=
  match readSelectors.lookup selectorName with
  | none => .raise (.session "selector is not readable")
  | some selector => do
      let session ← requireOpen profileName
      readAttempts driver session selector maxReadAttempts

/-! ## Mutations -/

/-- The arguments of `mutate`. -/
structure MutateCall where
  profileName : String
  operation : Answer
  jobId : Answer
  workspace : Answer
  target : Answer
  idempotencyKey : Answer
  timestamp : Option Moment

/-- The arguments once they passed their checks. -/
structure Mutation where
  operation : String
  selector : String
  jobId : String
  workspace : String
  target : String
  key : String
  timestamp : Moment

/-- The checks `mutate` starts with. -/
def checkArguments (call : MutateCall) : Session Mutation := do
  let jobId ← requireToken "job id" call.jobId
  let workspace ← requireToken "workspace" call.workspace
  let target ← requireToken "target" call.target
  let key ← requireToken "idempotency key" call.idempotencyKey
  let timestamp ← requireTimestamp call.timestamp
  let (operation, selector) ← mutationSelector call.operation
  pure { operation, selector, jobId, workspace, target, key, timestamp }

/-- `_matches_idempotency_call`. -/
def matchesIdempotencyCall (existing : Receipt) (profileName : String) (mutation : Mutation) :
    Bool :=
  decide (existing.profileName = profileName ∧ existing.operation = mutation.operation ∧
    existing.workspace = mutation.workspace ∧ existing.target = mutation.target ∧
      existing.jobId = mutation.jobId)

/-- What a receipt says beside the call it is for. -/
structure Verdict where
  status : ReceiptStatus
  evidence : String
  click : String
  observed : Answer
  pageKind : Answer
  taint : Bool

/-- The receipt of a verdict. -/
def receiptOf (session : OpenSession) (mutation : Mutation) (verdict : Verdict) : Receipt :=
  { jobId := mutation.jobId
    operation := mutation.operation
    workspace := mutation.workspace
    target := mutation.target
    profileName := session.profileName
    sessionId := session.sessionId
    click := verdict.click
    observed := verdict.observed
    pageKind := verdict.pageKind
    evidence := verdict.evidence
    timestamp := mutation.timestamp
    idempotencyKey := mutation.key
    status := verdict.status }

/-- `json.dumps` takes what the driver said. -/
def Verdict.storable (verdict : Verdict) : Bool :=
  verdict.pageKind.serialisable && verdict.observed.serialisable

/-- `_record`.  A value that `json.dumps` does not take is refused by the receipt. -/
def record (session : OpenSession) (mutation : Mutation) (verdict : Verdict) : Session Receipt := do
  Action.change (fun m => if verdict.taint then m.taint session.profileName else m)
  if verdict.storable then do
    Action.change (Manager.store (receiptOf session mutation verdict))
    pure (receiptOf session mutation verdict)
  else
    .raise .valueError

section Mutate

variable (driver : Driver) (session : OpenSession) (mutation : Mutation)

/-- The verdict of `_record_unknown`. -/
def unknownVerdict (kind : Answer) (observed evidence : String) : Verdict :=
  { status := .unknown
    evidence := evidence
    click := "uncertain"
    observed := .text observed
    pageKind := kind
    taint := true }

/-- `_record_unknown`. -/
def recordUnknown (kind : Answer) (observed : String) : Session Receipt := do
  let evidence ← Action.handle (capture driver session (some mutation.key) .uncertain true)
    (fun raised =>
      if raised.isException then
        pure "screenshot-failed"
      else do
        let _ ← record session mutation (unknownVerdict kind observed "screenshot-failed")
        .raise raised)
  record session mutation (unknownVerdict kind observed evidence)

/-- The observations of a raised click that are recorded as they are. -/
def whitelisted : Answer → String
  | .text value => if value ∈ ["applied", "absent", "unknown"] then value else "unknown"
  | .other _ => "unknown"

/-- `_record_raised_click`. -/
def recordRaisedClick (kind : Answer) : Session Receipt := do
  let raw ← Action.handle
    (ask driver session.profileName (some mutation.key) (.observe session.sessionId))
    (fun raised => if raised.isException then pure (.text "unknown") else .raise raised)
  recordUnknown driver session mutation kind (whitelisted raw)

/-- What `_reconcile` records of an observation that is not `applied`.  The test for the two known
texts hashes the observation, and keeps one that is found as it is. -/
def reconcileAbsent (kind observed : Answer) : Session Receipt := do
  let evidence ← capture driver session (some mutation.key) .uncertain false
  if observed.hashable then
    record session mutation
      { status := if observed.equals "absent" then .failure else .unknown
        evidence := evidence
        click := "uncertain"
        observed := if observed.isIn ["absent", "unknown"] then observed else .text "unknown"
        pageKind := kind
        taint := true }
  else
    .raise .typeError

/-- `_reconcile`. -/
def reconcile (kind : Answer) : Session Receipt := do
  let observed ← Action.handle
    (ask driver session.profileName (some mutation.key) (.observe session.sessionId))
    (fun raised => if raised.isException then pure (.text "unknown") else .raise raised)
  if observed.equals "applied" then
    record session mutation
      { status := .success
        evidence := "reconciled"
        click := "uncertain"
        observed := .text "applied"
        pageKind := kind
        taint := false }
  else
    reconcileAbsent driver session mutation kind observed

/-- `_block`. -/
def block (kind : Answer) (reason : Reason) : Session Receipt := do
  let evidence ← capture driver session (some mutation.key) reason false
  let click := if reason ∈ [Reason.captcha, .verification, .unknownPage] then "not-clicked"
    else reason.text
  record session mutation
    { status := .failure
      evidence := evidence
      click := click
      observed := .text "not-observed"
      pageKind := kind
      taint := true }

/-- What `_click` returns. -/
inductive ClickOutcome
  | applied
  | uncertain
  | raised
  | error
  deriving DecidableEq, Repr

/-- `_click`.  The test for the two known texts hashes the answer. -/
def click : Session ClickOutcome :=
  .handle
    (do
      let outcome ← ask driver session.profileName (some mutation.key)
        (.click session.sessionId mutation.selector)
      if outcome.hashable then
        pure (if outcome.isIn ["applied", "uncertain"] = false then .error
          else if outcome.equals "applied" then .applied else .uncertain)
      else
        .raise .typeError)
    (fun raised =>
      match raised with
      | .driver .timeout => pure .uncertain
      | .driver .connection => pure .raised
      | .driver .exception => pure .raised
      | raised => .raise raised)

/-- The body of the `try` of `mutate`. -/
def clickAndRecord (kind : Answer) : Session Receipt := do
  let outcome ← click driver session mutation
  match outcome with
  | .applied =>
    record session mutation
      { status := .success
        evidence := "applied"
        click := "applied"
        observed := .text "not-observed"
        pageKind := kind
        taint := false }
  | .uncertain => reconcile driver session mutation kind
  | .raised => recordRaisedClick driver session mutation kind
  | .error => block driver session mutation kind .error

/-- The `finally` of `mutate`. -/
def recordIfUnseen (kind : Answer) : Session Unit := do
  let seen ← Action.inspect (fun m : Manager => m.seen.get? mutation.key)
  match seen with
  | some _ => pure ()
  | none => do
      let _ ← recordUnknown driver session mutation kind "unknown"
      pure ()

/-- The page kind, or the reason a fault blocks the mutation for. -/
def pageKind : Session (Except Reason Answer) :=
  .handle
    (do
      let kind ← ask driver session.profileName (some mutation.key)
        (.pageKind session.sessionId)
      pure (.ok kind))
    (fun raised =>
      match raised with
      | .driver .timeout => pure (.error .timeout)
      | .driver .connection => pure (.error .connection)
      | .driver .exception => pure (.error .error)
      | raised => .raise raised)

/-- `mutate` with a new key and an open session. -/
def mutatePage : Session Receipt := do
  let page ← pageKind driver session mutation
  match page with
  | .error reason => block driver session mutation (.text "unknown") reason
  | .ok kind =>
    if kind.equals "captcha" then
      block driver session mutation kind .captcha
    else if kind.equals "verification" then
      block driver session mutation kind .verification
    else if kind.equals "normal" = false then
      block driver session mutation kind .unknownPage
    else
      .lastly (clickAndRecord driver session mutation kind)
        (recordIfUnseen driver session mutation kind)

end Mutate

/-- `mutate`. -/
def mutate (driver : Driver) (call : MutateCall) : Session Receipt := do
  let mutation ← checkArguments call
  let existing ← Action.inspect (fun m : Manager => m.seen.get? mutation.key)
  match existing with
  | some receipt =>
    if matchesIdempotencyCall receipt call.profileName mutation then
      pure receipt
    else
      .raise (.session "idempotency key does not match")
  | none => do
      let session ← requireOpen call.profileName
      mutatePage driver session mutation

/-! ## Runs -/

inductive ManagerOp
  | openSession (profileName : String) (status : ProfileStatus)
  | restart (profileName : String)
  | read (profileName selectorName : String)
  | mutate (call : MutateCall)

section Machine

variable (category : Char → String) (driver : Driver)

def perform : ManagerOp → Session Unit
  | .openSession profileName status => do
      let _ ← openSession category driver profileName status
      pure ()
  | .restart profileName => restart category driver profileName
  | .read profileName selectorName => do
      let _ ← read driver profileName selectorName
      pure ()
  | .mutate call => do
      let _ ← mutate driver call
      pure ()

/-- A call of the manager; what it raised is for its caller. -/
def managerStep (m : Manager) (op : ManagerOp) : Manager :=
  (perform category driver op m).2

def managerRun (ops : List ManagerOp) : Manager :=
  runFrom (managerStep category driver) Manager.initial ops

end Machine

end Browser
end Integrations
end MoneyMachine
