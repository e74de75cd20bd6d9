import MoneyMachine.Library.Runs
import MoneyMachine.Persistence.Tables

/-!
# Idempotency — reservations and the effect-attempt log

`idempotency_records` answers whether an effect may run, `effect_attempts` what happened.  The
latest row of a key is the one with the highest `reconciliation_attempt`; the recorded numbers of
one key are distinct by a unique constraint, and a number one above the latest is always free.
-/

namespace MoneyMachine
namespace Orchestration

open MoneyMachine.Domain
open MoneyMachine.Library
open MoneyMachine.Persistence

/-! ## Reservations -/

def getIdempotencyRecord (db : Database) (idempotencyKey : String) : Option IdempotencyRecord :=
  db.idempotencyRecords.get? idempotencyKey

def reserveIdempotencyKey (db : Database) (idempotencyKey : String) (jobId : Uuid)
    (operation : String) (sideEffectClass : SideEffectClass) (now : Moment) :
    Except OrchestrationError Database :=
  match db.idempotencyRecords.insert?
      { idempotencyKey := idempotencyKey
        jobId := jobId
        operation := operation
        sideEffectClass := sideEffectClass
        reservedAt := now
        completedAt := none } with
  | none =>
    .error (.idempotencyKeyReserved
      ("idempotency key '" ++ idempotencyKey ++ "' already reserved"))
  | some records => .ok { db with idempotencyRecords := records }

def markIdempotencyCompleted (db : Database) (idempotencyKey : String) (now : Moment) :
    Except OrchestrationError Database :=
  match getIdempotencyRecord db idempotencyKey with
  | none => .error (.valueError ("idempotency key '" ++ idempotencyKey ++ "' not found"))
  | some _ =>
    .ok
      { db with
        idempotencyRecords :=
          db.idempotencyRecords.modify
            (fun record => decide (record.idempotencyKey = idempotencyKey))
            (fun record => { record with completedAt := some now }) (fun _ => rfl) }

/-! ## Attempts -/

/-- The rows of one key. -/
def attemptsOfKey (db : Database) (idempotencyKey : String) : List EffectAttempt :=
  db.effectAttempts.filter (fun row => decide (row.idempotencyKey = idempotencyKey))

def getLatestEffectAttempt (db : Database) (idempotencyKey : String) : Option EffectAttempt :=
  latestBy EffectAttempt.reconciliationAttempt (attemptsOfKey db idempotencyKey)

/-- The check `effect_state_evidence`. -/
def effectStateEvidence (effectState : EffectState) (providerObjectId : Option String) : Bool :=
  match effectState with
  | .confirmed => providerObjectId.isSome
  | .absent => providerObjectId.isNone
  | .unknown => true

def recordEffectAttempt (db : Database) (row : EffectAttempt) :
    Except OrchestrationError Database :=
  -- The constraints of the table, in the order the insert would trip them.
  if (attemptsOfKey db row.idempotencyKey).any
      (fun old => decide (old.reconciliationAttempt = row.reconciliationAttempt)) then
    .error (.integrity "effect_attempts_idempotency_key_reconciliation_attempt")
  else if !effectStateEvidence row.effectState row.providerObjectId then
    .error (.integrity "effect_state_evidence")
  else if row.reconciliationAttempt < 0 then
    .error (.integrity "nonnegative_reconciliation_attempt")
  else
    .ok { db with effectAttempts := db.effectAttempts ++ [row] }

def deriveIdempotencyKey (jobType : String) (workflowId objectId : Uuid) (operation : String) :
    String :=
  jobType ++ ":" ++ uuidStr workflowId ++ ":" ++ uuidStr objectId ++ ":" ++ operation

/-! ## What recording does to the log -/

theorem reserveIdempotencyKey_eq_ok {db db' : Database} {key : String} {jobId : Uuid}
    {operation : String} {sideEffectClass : SideEffectClass} {now : Moment}
    (h : reserveIdempotencyKey db key jobId operation sideEffectClass now = .ok db') :
    ∃ record records, db.idempotencyRecords.insert? record = some records ∧
      record.idempotencyKey = key ∧ record.jobId = jobId ∧ record.operation = operation ∧
        record.completedAt = none ∧ db' = { db with idempotencyRecords := records } := by
  unfold reserveIdempotencyKey at h
  split at h
  · cases h
  · rename_i records hins
    cases h
    exact ⟨_, records, hins, rfl, rfl, rfl, rfl, rfl⟩

theorem markIdempotencyCompleted_eq_ok {db db' : Database} {key : String} {now : Moment}
    (h : markIdempotencyCompleted db key now = .ok db') :
    ∃ hid, db' =
      { db with
        idempotencyRecords :=
          db.idempotencyRecords.modify (fun record => decide (record.idempotencyKey = key))
            (fun record => { record with completedAt := some now }) hid } := by
  unfold markIdempotencyCompleted at h
  split at h
  · cases h
  · cases h
    exact ⟨_, rfl⟩

theorem recordEffectAttempt_eq_ok {db db' : Database} {row : EffectAttempt}
    (h : recordEffectAttempt db row = .ok db') :
    0 ≤ row.reconciliationAttempt ∧
      db' = { db with effectAttempts := db.effectAttempts ++ [row] } := by
  unfold recordEffectAttempt at h
  split at h
  · cases h
  split at h
  · cases h
  split at h
  · cases h
  · rename_i hnonneg
    cases h
    exact ⟨not_lt.1 hnonneg, rfl⟩

theorem attemptsOfKey_append {db : Database} {row : EffectAttempt} {key : String} :
    attemptsOfKey { db with effectAttempts := db.effectAttempts ++ [row] } key =
      attemptsOfKey db key ++ if row.idempotencyKey = key then [row] else [] := by
  by_cases h : row.idempotencyKey = key <;> simp [attemptsOfKey, List.filter_append, h]

/-- Recording under another key does not move the latest row of this one. -/
theorem latest_append_of_ne {db : Database} {row : EffectAttempt} {key : String}
    (h : row.idempotencyKey ≠ key) :
    getLatestEffectAttempt { db with effectAttempts := db.effectAttempts ++ [row] } key =
      getLatestEffectAttempt db key := by
  simp [getLatestEffectAttempt, attemptsOfKey_append, h]

/-- A row numbered above the latest one becomes the latest one. -/
theorem latest_append_of_lt {db : Database} {row : EffectAttempt}
    (h : ∀ latest, getLatestEffectAttempt db row.idempotencyKey = some latest →
      latest.reconciliationAttempt < row.reconciliationAttempt) :
    getLatestEffectAttempt { db with effectAttempts := db.effectAttempts ++ [row] }
      row.idempotencyKey = some row := by
  unfold getLatestEffectAttempt at h ⊢
  rw [attemptsOfKey_append, if_pos rfl]
  refine latestBy_append_singleton ?_
  intro old hold
  cases hlatest : latestBy EffectAttempt.reconciliationAttempt
      (attemptsOfKey db row.idempotencyKey) with
  | none =>
    -- No latest row means no rows at all.
    have hnil := latestBy_eq_none_iff.1 hlatest
    simp [hnil] at hold
  | some latest =>
    exact lt_of_le_of_lt (rank_le_latestBy hlatest old hold) (h latest hlatest)

end Orchestration
end MoneyMachine
