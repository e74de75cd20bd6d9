import MoneyMachine.Domain.Basic
import MoneyMachine.Observability.Receipts

/-!
# WeeklyPlan — the weekly plan and the triggers it leaves

A plan names one collection for each active listing of a window, then a shop review.  Persisting it
stores one trigger for each record whose key the ledger does not hold.

A `Datetime` carries its zone as well as its offset, because `==` and `<=` compare the local fields of
two values of one zone object and instants otherwise.
-/

namespace MoneyMachine
namespace Assets

open MoneyMachine.Domain

/-! ## Datetimes -/

/-- A `datetime`, aware or naive.  `fields` holds the offset too: none is written as zero. -/
structure Datetime (Zone : Type) where
  fields : Observability.Datetime
  /-- `tzinfo`, up to `is`. -/
  zone : Option Zone
  /-- Whether `utcoffset()` is not `None`. -/
  aware : Bool
  /-- Whether `utcoffset()` is another one with the other `fold`. -/
  folds : Bool
  naive : zone = none → aware = false
  unshifted : aware = false → fields.offset.val = 0

namespace Datetime

variable {Zone : Type}

/-- The local fields, in the order in which they are compared. -/
def clock (t : Datetime Zone) : List Nat :=
  [t.fields.year, t.fields.month, t.fields.day, t.fields.hour, t.fields.minute, t.fields.second,
    t.fields.microsecond]

def utcoffset (t : Datetime Zone) : Option Int :=
  if t.aware then
    some (if t.fields.negative then -(t.fields.offset.val : Int) else t.fields.offset.val)
  else
    none

/-- `toordinal()`. -/
def ordinal (t : Datetime Zone) : Nat :=
  let before := t.fields.year.val - 1
  before * 365 + before / 4 - before / 100 + before / 400 +
    ((List.range' 1 (t.fields.month.val - 1)).map
      (Observability.daysInMonth t.fields.year)).sum + t.fields.day

/-- The local fields in microseconds. -/
def wall (t : Datetime Zone) : Int :=
  ((((t.ordinal : Int) * 24 + t.fields.hour) * 60 + t.fields.minute) * 60 + t.fields.second) *
    1000000 + t.fields.microsecond

variable [DecidableEq Zone]

/-- `t == u`.  Values of different zones differ where the offset of one depends on its fold. -/
def eq (t u : Datetime Zone) : Bool :=
  if t.zone = u.zone then
    decide (t.clock = u.clock)
  else if t.folds || u.folds then
    false
  else if t.utcoffset = u.utcoffset then
    decide (t.clock = u.clock)
  else
    match t.utcoffset, u.utcoffset with
    | some a, some b => decide (t.wall - a = u.wall - b)
    | _, _ => false

/-- `t <= u`, or no answer for a naive and an aware value (a `TypeError`). -/
def le (t u : Datetime Zone) : Option Bool :=
  if t.zone = u.zone ∨ t.utcoffset = u.utcoffset then
    some (decide (t.clock ≤ u.clock))
  else
    match t.utcoffset, u.utcoffset with
    | some a, some b => some (decide (t.wall - a ≤ u.wall - b))
    | _, _ => none

omit [DecidableEq Zone] in
/-- `isoformat()` in front of its offset. -/
def localText (t : Observability.Datetime) : List Char :=
  Observability.padded 4 t.year ++ '-' :: Observability.padded 2 t.month ++
    '-' :: Observability.padded 2 t.day ++ 'T' :: Observability.padded 2 t.hour ++
      ':' :: Observability.padded 2 t.minute ++ ':' :: Observability.padded 2 t.second ++
        Observability.fractionText t.microsecond

omit [DecidableEq Zone] in
/-- `isoformat()`. -/
def isoformat (t : Datetime Zone) : List Char :=
  if t.aware then Observability.isoformat t.fields else localText t.fields

end Datetime

/-! ## Planning -/

structure ActiveListing where
  listingId : Uuid
  listingVersion : Int
  active : Bool

inductive RecordKind where
  | collection
  | shopReview
  deriving DecidableEq

structure CollectionRecord (Zone : Type) where
  kind : RecordKind
  windowStart : Datetime Zone
  windowEnd : Datetime Zone
  listingId : Option Uuid
  listingVersion : Option Int

structure WeeklyPlan (Zone Snapshot : Type) where
  records : List (CollectionRecord Zone)
  priorSnapshots : List Snapshot

/-- What leaves `plan_weekly`. -/
inductive PlanError where
  /-- `MetricsFixtureRefusal`. -/
  | refusal (code : String)
  /-- The window has a naive end and an aware one. -/
  | typeError
  deriving DecidableEq

section Planning

variable {Zone Snapshot : Type} [DecidableEq Zone]

/-- `_window`: the ends are kept as they were given. -/
def window (windowStart windowEnd : Datetime Zone) :
    Except PlanError (Datetime Zone × Datetime Zone) :=
  match windowEnd.le windowStart with
  | none => .error .typeError
  | some true => .error (.refusal "window")
  | some false => .ok (windowStart, windowEnd)

def collection (windowStart windowEnd : Datetime Zone) (listing : ActiveListing) :
    CollectionRecord Zone :=
  { kind := .collection
    windowStart := windowStart
    windowEnd := windowEnd
    listingId := some listing.listingId
    listingVersion := some listing.listingVersion }

def shopReview (windowStart windowEnd : Datetime Zone) : CollectionRecord Zone :=
  { kind := .shopReview
    windowStart := windowStart
    windowEnd := windowEnd
    listingId := none
    listingVersion := none }

/-- `record.window_start == start and record.window_end == end`. -/
def CollectionRecord.covers (record : CollectionRecord Zone) (windowStart windowEnd : Datetime Zone) :
    Bool :=
  record.windowStart.eq windowStart && record.windowEnd.eq windowEnd

/-- `plan_weekly`. -/
def planWeekly (listings : List ActiveListing) (windowStart windowEnd : Datetime Zone)
    (priorSnapshots : List Snapshot) (existingRecords : List (CollectionRecord Zone)) :
    Except PlanError (WeeklyPlan Zone Snapshot) := do
  let (start, finish) ← window windowStart windowEnd
  if existingRecords.any (·.covers start finish) then
    .ok { records := [], priorSnapshots := priorSnapshots }
  else
    let records := (listings.filter (·.active)).map (collection start finish)
    .ok
      { records := records ++ [shopReview start finish]
        priorSnapshots := priorSnapshots }

end Planning

/-! ## Stored triggers -/

inductive TriggerKind where
  | weeklyReview
  | monthlyDeepPass
  | buildSlot
  deriving DecidableEq

structure StoredTrigger (Zone : Type) where
  shopId : Uuid
  triggerKind : TriggerKind
  triggerKey : List Char
  cronExpression : String
  nextFireAt : Datetime Zone
  active : Bool

/-- The rows of a ledger, in the order in which they came.  The key of a row is its own. -/
structure TriggerLedger (Zone : Type) where
  rows : List (StoredTrigger Zone)
  keyed : (rows.map StoredTrigger.triggerKey).Nodup

namespace TriggerLedger

variable {Zone : Type}

def empty : TriggerLedger Zone :=
  { rows := [], keyed := List.nodup_nil }

def keys (ledger : TriggerLedger Zone) : List (List Char) :=
  ledger.rows.map StoredTrigger.triggerKey

/-- `TriggerLedger.insert`: a row whose key is there already is dropped. -/
def insert (ledger : TriggerLedger Zone) (row : StoredTrigger Zone) :
    TriggerLedger Zone × Option (StoredTrigger Zone) :=
  if h : row.triggerKey ∈ ledger.keys then
    (ledger, none)
  else
    ({ rows := ledger.rows ++ [row]
       keyed := by
        rw [List.map_append, List.map_singleton]
        exact List.Nodup.append ledger.keyed (List.nodup_singleton _)
          (List.disjoint_singleton.mpr h) },
      some row)

theorem keys_insert (ledger : TriggerLedger Zone) (row : StoredTrigger Zone) (key : List Char) :
    key ∈ (ledger.insert row).1.keys ↔ key ∈ ledger.keys ∨ key = row.triggerKey := by
  unfold insert
  split_ifs with h
  · constructor
    · exact Or.inl
    · rintro (hold | rfl)
      · exact hold
      · exact h
  · simp [keys]

theorem insert_snd (ledger : TriggerLedger Zone) (row : StoredTrigger Zone) :
    (ledger.insert row).2 = if row.triggerKey ∈ ledger.keys then none else some row := by
  unfold insert
  split_ifs <;> rfl

end TriggerLedger

section Persisting

variable {Zone : Type}

/-- The key under which `persist_weekly_plan` stores a record: it names the start of the window, and
neither its end nor the version of the listing. -/
def triggerKey (shopId : Uuid) (record : CollectionRecord Zone) : Except String (List Char) :=
  match record.kind, record.listingId with
  | .collection, none => .error "collection_listing"
  | .collection, some listingId =>
    .ok ("weekly:".toList ++ (uuidChars shopId ++ (":collection:".toList ++
      (uuidChars listingId ++ ':' :: record.windowStart.isoformat))))
  | .shopReview, _ =>
    .ok ("weekly:".toList ++ (uuidChars shopId ++ (":shop-review:".toList ++
      record.windowStart.isoformat)))

def weeklyTrigger (shopId : Uuid) (nextFireAt : Datetime Zone) (key : List Char) :
    StoredTrigger Zone :=
  { shopId := shopId
    triggerKind := .weeklyReview
    triggerKey := key
    cronExpression := "0 9 * * 1"
    nextFireAt := nextFireAt
    active := true }

@[simp] theorem weeklyTrigger_triggerKey (shopId : Uuid) (nextFireAt : Datetime Zone)
    (key : List Char) : (weeklyTrigger shopId nextFireAt key).triggerKey = key :=
  rfl

/-- The loop of `persist_weekly_plan`.  The rows before a refusal stay in the ledger. -/
def persistRecords (shopId : Uuid) (nextFireAt : Datetime Zone) :
    TriggerLedger Zone → List (StoredTrigger Zone) → List (CollectionRecord Zone) →
      TriggerLedger Zone × Except String (List (StoredTrigger Zone))
  | ledger, inserted, [] => (ledger, .ok inserted)
  | ledger, inserted, record :: rest =>
    match triggerKey shopId record with
    | .error code => (ledger, .error code)
    | .ok key =>
      let stored := ledger.insert (weeklyTrigger shopId nextFireAt key)
      persistRecords shopId nextFireAt stored.1 (inserted ++ stored.2.toList) rest

/-- `persist_weekly_plan`. -/
def persistWeeklyPlan {Snapshot : Type} (ledger : TriggerLedger Zone) (shopId : Uuid)
    (plan : WeeklyPlan Zone Snapshot) (nextFireAt : Datetime Zone) :
    TriggerLedger Zone × Except String (List (StoredTrigger Zone)) :=
  persistRecords shopId nextFireAt ledger [] plan.records

end Persisting

end Assets
end MoneyMachine
