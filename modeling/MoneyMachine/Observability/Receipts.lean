import MoneyMachine.Library.Bytes
import MoneyMachine.Library.Json
import MoneyMachine.Library.Runs

/-!
# Receipts — typed operation receipts and their log

A receipt is one line of JSON.  The log reads its file before every append, so that instances of one
process see each other's receipts, and repairs a tail that a crash left behind.

A `Datetime` holds the local fields and the offset of an aware `datetime`.  `fromisoformat` reads the
texts that `isoformat` writes and no others.
-/

namespace MoneyMachine
namespace Observability

open MoneyMachine.Library
open MoneyMachine.Library.Json

/-! ## Timestamps -/

/-- The last `width` decimal digits. -/
def padded : Nat → Nat → List Char
  | 0, _ => []
  | width + 1, n => padded width (n / 10) ++ [Nat.digitChar (n % 10)]

def isLeap (year : Nat) : Bool :=
  decide (year % 4 = 0 ∧ (year % 100 ≠ 0 ∨ year % 400 = 0))

def daysInMonth (year month : Nat) : Nat :=
  if month = 2 then
    if isLeap year then 29 else 28
  else if month ∈ [4, 6, 9, 11] then
    30
  else
    31

def validDate (year month day : Nat) : Bool :=
  decide (1 ≤ year ∧ 1 ≤ month ∧ month ≤ 12 ∧ 1 ≤ day ∧ day ≤ daysInMonth year month)

/-- An aware `datetime`.  The offset is in microseconds, below a day in both directions. -/
structure Datetime where
  year : Fin 10000
  month : Fin 13
  day : Fin 32
  hour : Fin 24
  minute : Fin 60
  second : Fin 60
  microsecond : Fin 1000000
  negative : Bool
  offset : Fin 86400000000
  date : validDate year month day = true
  /-- No offset is minus zero. -/
  signed : negative = true → offset.val ≠ 0

/-- Microseconds behind a point, left out when they are zero. -/
def fractionText (micros : Nat) : List Char :=
  if micros = 0 then [] else '.' :: padded 6 micros

/-- `_format_offset`. -/
def offsetText (negative : Bool) (offset : Nat) : List Char :=
  (if negative then '-' else '+') ::
    padded 2 (offset / 3600000000) ++ ':' :: padded 2 (offset / 60000000 % 60) ++
      (if offset % 60000000 = 0 then []
        else ':' :: padded 2 (offset / 1000000 % 60) ++ fractionText (offset % 1000000))

/-- `datetime.isoformat()`. -/
def isoformat (t : Datetime) : List Char :=
  padded 4 t.year ++ '-' :: padded 2 t.month ++ '-' :: padded 2 t.day ++ 'T' ::
    padded 2 t.hour ++ ':' :: padded 2 t.minute ++ ':' :: padded 2 t.second ++
      fractionText t.microsecond ++ offsetText t.negative t.offset

def takeChar (c : Char) : List Char → Option (List Char)
  | [] => none
  | d :: rest => if d = c then some rest else none

/-- A number of exactly `width` digits. -/
def takeNumber (width : Nat) (text : List Char) : Option (Nat × List Char) :=
  if width ≤ text.length ∧ (text.take width).all Char.isDigit = true then
    some (Nat.ofDigitChars 10 (text.take width) 0, text.drop width)
  else
    none

/-- A fraction of six digits, if there is a point. -/
def takeFraction (text : List Char) : Option (Nat × List Char) :=
  match takeChar '.' text with
  | none => some (0, text)
  | some rest => takeNumber 6 rest

/-- Seconds and their fraction in an offset, if there is a colon. -/
def takeSeconds (text : List Char) : Option (Nat × List Char) :=
  match takeChar ':' text with
  | none => some (0, text)
  | some rest => do
      let (seconds, rest) ← takeNumber 2 rest
      let (micros, rest) ← takeFraction rest
      some (seconds * 1000000 + micros, rest)

def takeSign : List Char → Option (Bool × List Char)
  | [] => none
  | c :: rest => if c = '-' then some (true, rest) else if c = '+' then some (false, rest) else none

def takeOffset (text : List Char) : Option (Bool × Nat × List Char) := do
  let (negative, rest) ← takeSign text
  let (hours, rest) ← takeNumber 2 rest
  let rest ← takeChar ':' rest
  let (minutes, rest) ← takeNumber 2 rest
  let (micros, rest) ← takeSeconds rest
  some (negative, hours * 3600000000 + minutes * 60000000 + micros, rest)

/-- The `datetime` constructor: a field out of its range is refused. -/
def Datetime.make (year month day hour minute second microsecond : Nat) (negative : Bool)
    (offset : Nat) : Option Datetime :=
  if h : year < 10000 ∧ month < 13 ∧ day < 32 ∧ hour < 24 ∧ minute < 60 ∧ second < 60 ∧
      microsecond < 1000000 ∧ offset < 86400000000 ∧ validDate year month day = true then
    some
      { year := ⟨year, h.1⟩
        month := ⟨month, h.2.1⟩
        day := ⟨day, h.2.2.1⟩
        hour := ⟨hour, h.2.2.2.1⟩
        minute := ⟨minute, h.2.2.2.2.1⟩
        second := ⟨second, h.2.2.2.2.2.1⟩
        microsecond := ⟨microsecond, h.2.2.2.2.2.2.1⟩
        negative := negative && decide (offset ≠ 0)
        offset := ⟨offset, h.2.2.2.2.2.2.2.1⟩
        date := h.2.2.2.2.2.2.2.2
        signed := by
          intro hnegative
          simp only [Bool.and_eq_true, decide_eq_true_eq] at hnegative
          exact hnegative.2 }
  else
    none

/-- `datetime.fromisoformat`, on the texts of `isoformat`. -/
def fromisoformat (text : List Char) : Option Datetime := do
  let (year, rest) ← takeNumber 4 text
  let rest ← takeChar '-' rest
  let (month, rest) ← takeNumber 2 rest
  let rest ← takeChar '-' rest
  let (day, rest) ← takeNumber 2 rest
  let rest ← takeChar 'T' rest
  let (hour, rest) ← takeNumber 2 rest
  let rest ← takeChar ':' rest
  let (minute, rest) ← takeNumber 2 rest
  let rest ← takeChar ':' rest
  let (second, rest) ← takeNumber 2 rest
  let (microsecond, rest) ← takeFraction rest
  let (negative, offset, rest) ← takeOffset rest
  if rest = [] then
    Datetime.make year month day hour minute second microsecond negative offset
  else
    none

/-! ## Files -/

/-- The bytes of a text that is ASCII. -/
def asciiBytes (text : List Char) : Bytes :=
  text.map (fun c => c.toNat.toUInt8)

/-- A continuation byte. -/
def continuation (b : UInt8) : Option Nat :=
  if 0x80 ≤ b.toNat ∧ b.toNat < 0xC0 then some (b.toNat - 0x80) else none

/-- A code point that its encoding may stand for. -/
def charIn (low high n : Nat) : Option Char :=
  if low ≤ n ∧ n ≤ high ∧ ¬ (0xD800 ≤ n ∧ n < 0xE000) then some (Char.ofNat n) else none

/-- `data.decode("utf-8")`. -/
def utf8Decode : Bytes → Option (List Char)
  | [] => some []
  | a :: rest =>
    if a.toNat < 0x80 then
      (utf8Decode rest).map (Char.ofNat a.toNat :: ·)
    else if 0xC0 ≤ a.toNat ∧ a.toNat < 0xE0 then
      match rest with
      | b :: rest => do
          let b ← continuation b
          let c ← charIn 0x80 0x7FF ((a.toNat - 0xC0) * 64 + b)
          (utf8Decode rest).map (c :: ·)
      | _ => none
    else if 0xE0 ≤ a.toNat ∧ a.toNat < 0xF0 then
      match rest with
      | b :: d :: rest => do
          let b ← continuation b
          let d ← continuation d
          let c ← charIn 0x800 0xFFFF ((a.toNat - 0xE0) * 4096 + b * 64 + d)
          (utf8Decode rest).map (c :: ·)
      | _ => none
    else if 0xF0 ≤ a.toNat ∧ a.toNat < 0xF8 then
      match rest with
      | b :: d :: e :: rest => do
          let b ← continuation b
          let d ← continuation d
          let e ← continuation e
          let c ← charIn 0x10000 0x10FFFF
            ((a.toNat - 0xF0) * 262144 + b * 4096 + d * 64 + e)
          (utf8Decode rest).map (c :: ·)
      | _ => none
    else
      none

/-- The line boundaries of `str.splitlines`. -/
def isBoundary (c : Char) : Bool :=
  decide (c.toNat ∈ [0x0A, 0x0B, 0x0C, 0x0D, 0x1C, 0x1D, 0x1E, 0x85, 0x2028, 0x2029])

/-- The lines, given the one that was begun. -/
def splitlinesAux : List Char → List Char → List (List Char)
  | line, [] => if line = [] then [] else [line]
  | line, '\r' :: '\n' :: rest => line :: splitlinesAux [] rest
  | line, c :: rest =>
    if isBoundary c then
      line :: splitlinesAux [] rest
    else
      splitlinesAux (line ++ [c]) rest

/-- `text.splitlines()`. -/
def splitlines (text : List Char) : List (List Char) :=
  splitlinesAux [] text

/-! ## Receipts -/

/-- `not value.strip()`. -/
def isBlank (t : Text) : Bool :=
  t.all isSpace

inductive ReceiptStatus
  | success
  | unknown
  | failure
  deriving DecidableEq, Repr

def ReceiptStatus.text : ReceiptStatus → Text
  | .success => lit "Success"
  | .unknown => lit "Unknown"
  | .failure => lit "Failure"

inductive ReceiptError
  /-- `ValueError`. -/
  | value (message : String)
  /-- `DuplicateReceiptError`. -/
  | duplicate (key : Text)
  deriving DecidableEq

/-- `_MAX_RECEIPT_DEPTH`. -/
def maxReceiptDepth : Nat := 32

mutual

/-- `_freeze_value` accepts it at this depth. -/
def freezes (depth : Nat) : Value → Bool
  | .arr items => decide (depth ≤ maxReceiptDepth) && freezesItems (depth + 1) items
  | .obj members => decide (depth ≤ maxReceiptDepth) && freezesMembers (depth + 1) members
  | _ => true

def freezesItems (depth : Nat) : List Value → Bool
  | [] => true
  | value :: rest => freezes depth value && freezesItems depth rest

def freezesMembers (depth : Nat) : List (Text × Value) → Bool
  | [] => true
  | (_, value) :: rest => freezes depth value && freezesMembers depth rest

end

mutual

/-- `json.dumps(value, allow_nan=False)` takes it. -/
def strict : Value → Bool
  | .float (.infinity _) => false
  | .float .nan => false
  | .arr items => strictItems items
  | .obj members => strictMembers members
  | _ => true

def strictItems : List Value → Bool
  | [] => true
  | value :: rest => strict value && strictItems rest

def strictMembers : List (Text × Value) → Bool
  | [] => true
  | (_, value) :: rest => strict value && strictMembers rest

end

/-- The arguments of `NotionOperationReceipt`; a mapping is a dictionary in order. -/
structure ReceiptFields where
  jobId : Text
  operation : Text
  workspace : Text
  target : Text
  preState : Option (List (Text × Value))
  postState : List (Text × Value)
  providerResponse : List (Text × Value)
  evidence : Text
  timestamp : Datetime
  idempotencyKey : Text
  status : ReceiptStatus

/-- `_json_payload`, before it is tried. -/
def jsonPayload (r : ReceiptFields) : List (Text × Value) :=
  ofPairs
    [(lit "job_id", .str r.jobId),
      (lit "operation", .str r.operation),
      (lit "workspace", .str r.workspace),
      (lit "target", .str r.target),
      (lit "pre_state", match r.preState with | none => .null | some members => .obj members),
      (lit "post_state", .obj r.postState),
      (lit "provider_response", .obj r.providerResponse),
      (lit "evidence", .str r.evidence),
      (lit "timestamp", .str ((isoformat r.timestamp).map CodePoint.ofChar)),
      (lit "idempotency_key", .str r.idempotencyKey),
      (lit "status", .str r.status.text)]

/-- `_require_text`. -/
def requireText (field : String) (value : Text) : Except ReceiptError Unit :=
  if isBlank value then .error (.value (field ++ " must be a non-empty string")) else .ok ()

/-- `_snapshot_mapping`, of a mapping with text keys. -/
def snapshotMapping (members : List (Text × Value)) : Except ReceiptError Unit :=
  if freezes 0 (.obj members) then .ok ()
  else .error (.value "more than 32 levels below the field mapping is rejected")

/-- `__post_init__`. -/
def postInit (r : ReceiptFields) : Except ReceiptError Unit := do
  requireText "job_id" r.jobId
  requireText "operation" r.operation
  requireText "workspace" r.workspace
  requireText "target" r.target
  requireText "evidence" r.evidence
  requireText "idempotency_key" r.idempotencyKey
  match r.preState with
  | none => pure ()
  | some members => snapshotMapping members
  snapshotMapping r.postState
  snapshotMapping r.providerResponse
  if strict (.obj (jsonPayload r)) then
    pure ()
  else
    .error (.value "receipt fields must be JSON-serializable")

/-- `NotionOperationReceipt`. -/
structure NotionOperationReceipt where
  fields : ReceiptFields
  sorted : (Value.obj (jsonPayload fields)).Sorted
  checked : postInit fields = .ok ()

/-- `_text_field`. -/
def textField (payload : List (Text × Value)) (key : String) : Except ReceiptError Text :=
  match payload.lookup (lit key) with
  | some (.str t) => .ok t
  | _ => .error (.value (key ++ " must be a string"))

/-- `_mapping_field`. -/
def mappingField (payload : List (Text × Value)) (key : String) :
    Except ReceiptError (List (Text × Value)) :=
  match payload.lookup (lit key) with
  | some (.obj members) => .ok members
  | _ => .error (.value (key ++ " must be a JSON object"))

/-- `_status_field`. -/
def statusField (payload : List (Text × Value)) : Except ReceiptError ReceiptStatus := do
  let status ← textField payload "status"
  if status = lit "Success" then .ok .success
  else if status = lit "Unknown" then .ok .unknown
  else if status = lit "Failure" then .ok .failure
  else .error (.value "status must be Success, Unknown, or Failure")

/-- The characters of a text without surrogates. -/
def textChars : Text → Option (List Char)
  | [] => some []
  | p :: rest =>
    if p.val.isValidChar then (textChars rest).map (Char.ofNat p.val :: ·) else none

/-- `datetime.fromisoformat(timestamp)`. -/
def timestampField (t : Text) : Except ReceiptError Datetime :=
  match (textChars t).bind fromisoformat with
  | some timestamp => .ok timestamp
  | none => .error (.value "Invalid isoformat string")

/-- The check of `_receipt_from_payload` on the timestamp. -/
def timestampText (payload : List (Text × Value)) : Except ReceiptError Text :=
  match payload.lookup (lit "timestamp") with
  | some (.str t) => .ok t
  | _ => .error (.value "receipt timestamp must be a string")

/-- The check of `_receipt_from_payload` on the state before. -/
def preStateField (payload : List (Text × Value)) :
    Except ReceiptError (Option (List (Text × Value))) :=
  match payload.lookup (lit "pre_state") with
  | none => .ok none
  | some .null => .ok none
  | some (.obj members) => .ok (some members)
  | _ => .error (.value "pre_state must be a JSON object or null")

/-- The arguments `_receipt_from_payload` gives to the receipt. -/
def fieldsFromPayload : Value → Except ReceiptError ReceiptFields
  | .obj payload => do
      let timestamp ← timestampText payload
      let preState ← preStateField payload
      let jobId ← textField payload "job_id"
      let operation ← textField payload "operation"
      let workspace ← textField payload "workspace"
      let target ← textField payload "target"
      let postState ← mappingField payload "post_state"
      let providerResponse ← mappingField payload "provider_response"
      let evidence ← textField payload "evidence"
      let timestamp ← timestampField timestamp
      let idempotencyKey ← textField payload "idempotency_key"
      let status ← statusField payload
      .ok { jobId, operation, workspace, target, preState, postState, providerResponse, evidence,
            timestamp, idempotencyKey, status }
  | _ => .error (.value "receipt record must be a JSON object")

/-- `_receipt_from_payload`. -/
def receiptFromPayload (payload : Value) : Except ReceiptError ReceiptFields := do
  let fields ← fieldsFromPayload payload
  postInit fields
  .ok fields

/-! ## Lines -/

/-- `_complete_json`. -/
def completeJson (line : List Char) : Bool :=
  (loads line).isSome

def newline : UInt8 := 0x0A

/-- `data.endswith(b"\n")`. -/
def endsWithNewline (data : Bytes) : Bool :=
  decide (data.getLast? = some newline)

/-- `_log_text`; a prefix that is no UTF-8 raises. -/
def logText (data : Bytes) : Option (List Char) :=
  if endsWithNewline data then
    utf8Decode data
  else
    let cut := data.rfind [newline] + 1
    match utf8Decode (data.sliceFrom cut) with
    | none => utf8Decode (data.slice 0 cut)
    | some tail => (utf8Decode (data.slice 0 cut)).map (· ++ tail)

/-- `_logical_lines`. -/
def logicalLines (text : List Char) : List (List Char) :=
  if text = [] then
    []
  else
    let lines := splitlines text
    if text.getLast? = some '\n' ∨ lines = [] then
      lines
    else if completeJson (lines.getLastD []) then
      lines
    else
      lines.dropLast

/-- `_repair_tail`, of a file that exists. -/
def repairTail (data : Bytes) : Bytes :=
  if data = [] then
    data
  else if endsWithNewline data then
    data
  else
    let cut := data.rfind [newline] + 1
    match (utf8Decode (data.sliceFrom cut)).bind loads with
    | none => data.take cut.toNat
    | some _ => data ++ [newline]

/-- The bytes an append goes on from; a file that is not there has none. -/
def repaired : Option Bytes → Bytes
  | none => []
  | some data => repairTail data

/-! ## The log -/

/-- The lines of `_load_new_keys`, with the keys seen in the file.  What was stored before an error
stays stored. -/
def loadLines : List (List Char) → List Text → List ReceiptFields →
    Option ReceiptError × List ReceiptFields
  | [], _, byKey => (none, byKey)
  | line :: rest, seen, byKey =>
    if line.all (fun c => isSpace (CodePoint.ofChar c)) then
      loadLines rest seen byKey
    else
      match loads line with
      | none => (some (.value "is not a receipt"), byKey)
      | some payload =>
        match receiptFromPayload payload with
        | .error e => (some e, byKey)
        | .ok receipt =>
          if receipt.idempotencyKey ∈ seen then
            (some (.duplicate receipt.idempotencyKey), byKey)
          else
            loadLines rest (receipt.idempotencyKey :: seen)
              (if receipt.idempotencyKey ∈ byKey.map ReceiptFields.idempotencyKey then byKey
                else byKey ++ [receipt])

/-- `_load_new_keys`. -/
def loadNewKeys (file : Option Bytes) (byKey : List ReceiptFields) :
    Option ReceiptError × List ReceiptFields :=
  match file with
  | none => (none, byKey)
  | some data =>
    match logText data with
    | none => (some (.value "is not UTF-8"), byKey)
    | some text => loadLines (logicalLines text) [] byKey

/-- The line `_append` writes, without its newline. -/
def lineOf (r : ReceiptFields) : List Char :=
  dumps .spaced (.obj (jsonPayload r))

/-- The file, the logs of the process that works on it, and every append with the number of its bytes
that reached the file. -/
structure World where
  file : Option Bytes
  logs : List (List ReceiptFields)
  appends : List (ReceiptFields × Nat)

inductive LogOp
  /-- `NotionOperationReceiptLog(path)`. -/
  | create
  /-- `record` on one of the logs.  With a cut, the process crashes once that many bytes of the line
  and its newline are in the file. -/
  | record (log : Nat) (receipt : NotionOperationReceipt) (cut : Option Nat)

/-- `_append`, cut or whole. -/
def append (w : World) (log : Nat) (byKey : List ReceiptFields) (receipt : ReceiptFields)
    (cut : Option Nat) : World :=
  let bytes := asciiBytes (lineOf receipt) ++ [newline]
  match cut with
  | none =>
    { file := some (repaired w.file ++ bytes)
      logs := w.logs.set log (byKey ++ [receipt])
      appends := w.appends ++ [(receipt, bytes.length)] }
  | some n =>
    { file := some (repaired w.file ++ bytes.take n)
      logs := []
      appends := w.appends ++ [(receipt, min n bytes.length)] }

def logStep (w : World) : LogOp → World
  | .create =>
    match loadNewKeys w.file [] with
    | (none, byKey) => { w with logs := w.logs ++ [byKey] }
    | (some _, _) => w
  | .record log receipt cut =>
    match w.logs[log]? with
    | none => w
    | some byKey =>
      match loadNewKeys w.file byKey with
      | (some _, byKey) => { w with logs := w.logs.set log byKey }
      | (none, byKey) =>
        if receipt.fields.idempotencyKey ∈ byKey.map ReceiptFields.idempotencyKey then
          { w with logs := w.logs.set log byKey }
        else
          append w log byKey receipt.fields cut

def World.initial : World :=
  { file := none, logs := [], appends := [] }

def logRun (ops : List LogOp) : World :=
  runFrom logStep World.initial ops

end Observability
end MoneyMachine
