import MoneyMachine.Application.SingleWrite

/-!
# ProviderIdentity — what the calls of one key remember of an accepted object

A call that created an object stores its identity before it reads anything back.  Every later row of
the key is written by some call from its own locals: a failing call repeats the identity it *knew*
when it began, a confirming call the object it *observed*.  A call that began before the identity was
stored knows nothing, and its row replaces the identity.

* `recordedIdentity` : what the transaction a call is about to run writes under a key;
* `Background`       : what holds from the stored identity on, whatever the other calls do;
* `Remembered`       : the identity is in the latest row and in the one receipt there may be.

`identity_remembered_iff` says that the identity is remembered exactly as long as every row repeats
it.
-/

namespace MoneyMachine
namespace Application

open MoneyMachine.Domain
open MoneyMachine.Library
open MoneyMachine.Persistence
open MoneyMachine.Orchestration

/-! ## The entry of a key -/

/-- The receipts of one key. -/
def receiptsOfKey (store : Store) (key : String) : List Receipt :=
  store.receipts.filter (fun receipt => decide (receipt.idempotencyKey = key))

/-- Nothing about a key changed. -/
structure SameEntry (key : String) (store store' : Store) : Prop where
  latest : getLatestEffectAttempt store'.db key = getLatestEffectAttempt store.db key
  record : getIdempotencyRecord store'.db key = getIdempotencyRecord store.db key
  receipts : receiptsOfKey store' key = receiptsOfKey store key

theorem SameEntry.refl (key : String) (store : Store) : SameEntry key store store :=
  ⟨rfl, rfl, rfl⟩

section Entry

variable {db db' : Database} {request : EffectRequest} {key other : String} {now : Moment}

/-- The row recorded is the latest one of its key, and is numbered from zero on. -/
theorem recordNext_latest {effectState : EffectState} {providerObjectId : Option String}
    (h : recordNext db request key effectState providerObjectId now = .ok db') :
    ∃ attempt, getLatestEffectAttempt db' key = some attempt ∧
      attempt.providerObjectId = providerObjectId ∧ 0 ≤ attempt.reconciliationAttempt := by
  rcases recordEffectAttempt_eq_ok (liftError_eq_ok.1 h) with ⟨hnumber, rfl⟩
  let row := nextAttempt db request key effectState providerObjectId now
  have habove : ∀ latest, getLatestEffectAttempt db row.idempotencyKey = some latest →
      latest.reconciliationAttempt < row.reconciliationAttempt := by
    intro latest hlatest
    have hlatest' : getLatestEffectAttempt db key = some latest := hlatest
    simp [row, nextAttempt, nextNumber, hlatest']
  exact ⟨row, latest_append_of_lt habove, rfl, hnumber⟩

/-- The next number is free, so the only thing to check is the evidence. -/
theorem recordNext_ok (request : EffectRequest) (now : Moment) {effectState : EffectState}
    {providerObjectId : Option String}
    (hevidence : effectStateEvidence effectState providerObjectId = true)
    (hnumber : ∀ latest, getLatestEffectAttempt db key = some latest →
      0 ≤ latest.reconciliationAttempt) :
    ∃ db', recordNext db request key effectState providerObjectId now = .ok db' := by
  let row := nextAttempt db request key effectState providerObjectId now
  have hfree : (attemptsOfKey db row.idempotencyKey).any
      (fun old => decide (old.reconciliationAttempt = row.reconciliationAttempt)) = false := by
    rw [List.any_eq_false]
    intro old hold
    have hold' : old ∈ attemptsOfKey db key := hold
    cases hlatest : getLatestEffectAttempt db key with
    | none =>
      have hnil := latestBy_eq_none_iff.1 hlatest
      simp [hnil] at hold'
    | some latest =>
      have hle := rank_le_latestBy hlatest old hold'
      have hrow : row.reconciliationAttempt = latest.reconciliationAttempt + 1 := by
        simp [row, nextAttempt, nextNumber, hlatest]
      simp only [decide_eq_true_eq]
      omega
  have hnonneg : ¬ row.reconciliationAttempt < 0 := by
    cases hlatest : getLatestEffectAttempt db key with
    | none => simp [row, nextAttempt, nextNumber, hlatest]
    | some latest =>
      have := hnumber latest hlatest
      simp only [row, nextAttempt, nextNumber, hlatest]
      omega
  have hrowEvidence : effectStateEvidence row.effectState row.providerObjectId = true := hevidence
  refine ⟨{ db with effectAttempts := db.effectAttempts ++ [row] }, ?_⟩
  rw [recordNext, liftError_eq_ok]
  unfold recordEffectAttempt
  rw [if_neg (by simpa using hfree), if_neg (by simpa using hrowEvidence), if_neg hnonneg]

theorem recordNext_other {effectState : EffectState} {providerObjectId : Option String}
    (h : recordNext db request other effectState providerObjectId now = .ok db')
    (hne : key ≠ other) :
    getLatestEffectAttempt db' key = getLatestEffectAttempt db key ∧
      getIdempotencyRecord db' key = getIdempotencyRecord db key := by
  rcases recordNext_eq_ok h with ⟨_, hothers, hrecords, _⟩
  refine ⟨hothers key hne, ?_⟩
  rw [getIdempotencyRecord, getIdempotencyRecord, hrecords]

theorem recordNext_record {effectState : EffectState} {providerObjectId : Option String}
    (h : recordNext db request other effectState providerObjectId now = .ok db') :
    getIdempotencyRecord db' key = getIdempotencyRecord db key := by
  rcases recordNext_eq_ok h with ⟨_, _, hrecords, _⟩
  rw [getIdempotencyRecord, getIdempotencyRecord, hrecords]

/-- A held key is left alone by the first transaction of another call. -/
theorem beginEffect_entry {claim : Claim} (hheld : Held db key)
    (h : beginEffect db request now = .ok (db', claim)) :
    getLatestEffectAttempt db' key = getLatestEffectAttempt db key ∧
      getIdempotencyRecord db' key = getIdempotencyRecord db key := by
  unfold beginEffect at h
  split at h
  · cases h
  rcases bind_eq_ok.1 h with ⟨_, _, h⟩
  rcases bind_eq_ok.1 h with ⟨job, hjob, h⟩
  dsimp only at h
  split at h
  · cases h
  split at h
  · cases h
  rcases bind_eq_ok.1 h with ⟨db₁, hreserve, h⟩
  by_cases hsame : key = deriveIdempotencyKey job.jobType job.workflowId job.objectId
      request.operationKey
  · rw [← hsame] at hreserve h
    rcases hheld.reserved with ⟨record, hrecord, hkey⟩
    rcases hheld.latest with ⟨attempt, hattempt, hstate⟩
    have hexisting : getIdempotencyRecord db key = some record :=
      Table.get?_eq_some_iff.2 ⟨hrecord, hkey⟩
    rw [hexisting] at hreserve h
    cases hreserve
    -- The latest row is not `ABSENT`: the call may only read.
    split at h
    · rename_i hmay
      simp [mayCreateAfter, hattempt, hstate] at hmay
    · cases h
      exact ⟨rfl, rfl⟩
  · have hreserved : getLatestEffectAttempt db₁ key = getLatestEffectAttempt db key ∧
        getIdempotencyRecord db₁ key = getIdempotencyRecord db key := by
      cases hexisting : getIdempotencyRecord db (deriveIdempotencyKey job.jobType job.workflowId
          job.objectId request.operationKey) with
      | some record =>
        rw [hexisting] at hreserve
        cases hreserve
        exact ⟨rfl, rfl⟩
      | none =>
        rw [hexisting] at hreserve
        rcases reserveIdempotencyKey_eq_ok (liftError_eq_ok.1 hreserve) with
          ⟨record, records, hins, hkey, _, _, _, rfl⟩
        refine ⟨rfl, Table.get?_insert_of_ne hins ?_⟩
        rw [hkey]
        exact fun heq => hsame heq.symm
    split at h
    · rcases bind_eq_ok.1 h with ⟨db₂, hrecord, h⟩
      cases h
      rcases recordNext_other hrecord hsame with ⟨hlatest, hrecords⟩
      exact ⟨hlatest.trans hreserved.1, hrecords.trans hreserved.2⟩
    · cases h
      exact hreserved

theorem preserveIdentity_other {createdId : String}
    (h : preserveIdentity db request other createdId now = .ok db') (hne : key ≠ other) :
    getLatestEffectAttempt db' key = getLatestEffectAttempt db key ∧
      getIdempotencyRecord db' key = getIdempotencyRecord db key := by
  rcases bind_eq_ok.1 h with ⟨_, _, h⟩
  split at h
  · cases h
  split at h
  · cases h
  split at h
  · split at h
    · cases h
      exact ⟨rfl, rfl⟩
    · cases h
  · exact recordNext_other h hne

/-! ### The handler -/

/-- The key is reserved and its effect is not confirmed. -/
def openRecord (db : Database) (key : String) : Bool :=
  (getIdempotencyRecord db key).any (fun record => record.completedAt.isNone)

/-- The worker still holds the job. -/
def leased (db : Database) (request : EffectRequest) (now : Moment) : Bool :=
  (leasedJob db request now).toOption.isSome

theorem leased_of_ok {job : Job} (h : leasedJob db request now = .ok job) :
    leased db request now = true := by
  simp [leased, h, Except.toOption]

theorem leased_eq_true (h : leased db request now = true) :
    ∃ job, leasedJob db request now = .ok job := by
  unfold leased at h
  cases hjob : leasedJob db request now with
  | error error => simp [hjob, Except.toOption] at h
  | ok job => exact ⟨job, rfl⟩

theorem openRecord_eq_true (h : openRecord db key = true) :
    ∃ record, getIdempotencyRecord db key = some record ∧ record.completedAt = none := by
  unfold openRecord at h
  cases hrecord : getIdempotencyRecord db key with
  | none => simp [hrecord] at h
  | some record =>
    refine ⟨record, rfl, ?_⟩
    simpa [hrecord] using h

/-- Without a lease and an open reservation the handler writes nothing. -/
theorem recordFailure_closed {definiteAbsence : Bool} {knownId : Option String}
    (h : recordFailure db request key definiteAbsence knownId now = .ok db')
    (hclosed : ¬ (leased db request now = true ∧ openRecord db key = true)) : db' = db := by
  rcases bind_eq_ok.1 h with ⟨job, hjob, h⟩
  have hnot : ¬ openRecord db key = true := fun hopen => hclosed ⟨leased_of_ok hjob, hopen⟩
  cases hrecord : getIdempotencyRecord db key with
  | none =>
    rw [hrecord] at h
    cases h
    rfl
  | some record =>
    rw [hrecord] at h
    have hdone : record.completedAt.isSome = true := by
      simpa [openRecord, hrecord, Option.isSome_iff_ne_none] using hnot
    dsimp only at h
    rw [if_pos hdone] at h
    cases h
    rfl

theorem recordFailure_other {definiteAbsence : Bool} {knownId : Option String}
    (h : recordFailure db request other definiteAbsence knownId now = .ok db')
    (hne : key ≠ other) :
    getLatestEffectAttempt db' key = getLatestEffectAttempt db key ∧
      getIdempotencyRecord db' key = getIdempotencyRecord db key := by
  rcases bind_eq_ok.1 h with ⟨_, _, h⟩
  split at h
  · cases h
    exact ⟨rfl, rfl⟩
  split at h
  · cases h
    exact ⟨rfl, rfl⟩
  split at h
  · exact recordNext_other h hne
  · exact recordNext_other h hne

/-- With both it repeats the identity the call knows. -/
theorem recordFailure_open (knownId : Option String) (hleased : leased db request now = true)
    (hopen : openRecord db key = true)
    (hnumber : ∀ latest, getLatestEffectAttempt db key = some latest →
      0 ≤ latest.reconciliationAttempt) :
    ∃ db', recordFailure db request key false knownId now = .ok db' ∧
      recordNext db request key .unknown knownId now = .ok db' := by
  rcases leased_eq_true hleased with ⟨job, hjob⟩
  rcases openRecord_eq_true hopen with ⟨record, hrecord, hnone⟩
  have hevidence : effectStateEvidence .unknown knownId = true := rfl
  rcases recordNext_ok request now hevidence hnumber with ⟨db', hnext⟩
  refine ⟨db', bind_eq_ok.2 ⟨job, hjob, ?_⟩, hnext⟩
  simpa [hrecord, hnone] using hnext

/-! ### The confirmation -/

theorem markIdempotencyCompleted_record (key : String)
    (h : markIdempotencyCompleted db other now = .ok db') :
    getLatestEffectAttempt db' key = getLatestEffectAttempt db key ∧
      getIdempotencyRecord db' key = (getIdempotencyRecord db key).map (fun record =>
        if record.idempotencyKey = other then { record with completedAt := some now }
        else record) := by
  rcases markIdempotencyCompleted_eq_ok h with ⟨hid, rfl⟩
  refine ⟨rfl, ?_⟩
  simp [getIdempotencyRecord, Table.get?_modify hid]

theorem getIdempotencyRecord_key {record : IdempotencyRecord}
    (h : getIdempotencyRecord db key = some record) : record.idempotencyKey = key :=
  (Table.get?_eq_some_iff.1 h).2

theorem recordReceipt_eq_ok {receipts receipts' : List Receipt} {receipt : Receipt}
    (h : recordReceipt receipts receipt = .ok receipts') : receipts' = receipts ++ [receipt] := by
  unfold recordReceipt at h
  split at h
  · cases h
  · cases h
    rfl

/-- Without a lease and an open reservation the confirmation writes nothing. -/
theorem confirmEffect_closed {store store' : Store} {objectId : String}
    (h : confirmEffect store request key objectId now = .ok store')
    (hclosed : ¬ (leased store.db request now = true ∧ openRecord store.db key = true)) :
    store' = store := by
  rcases bind_eq_ok.1 h with ⟨job, hjob, h⟩
  have hnot : ¬ openRecord store.db key = true := fun hopen => hclosed ⟨leased_of_ok hjob, hopen⟩
  cases hrecord : getIdempotencyRecord store.db key with
  | none =>
    rw [hrecord] at h
    cases h
  | some record =>
    rw [hrecord] at h
    have hdone : record.completedAt.isSome = true := by
      simpa [openRecord, hrecord, Option.isSome_iff_ne_none] using hnot
    dsimp only at h
    rw [if_pos hdone] at h
    cases h
    rfl

/-- What a confirmation that writes did: the row, the receipt and the completion. -/
theorem confirmEffect_cases {store store' : Store} {objectId : String}
    (h : confirmEffect store request other objectId now = .ok store') :
    store' = store ∨
      ∃ db₁, recordNext store.db request other .confirmed (some objectId) now = .ok db₁ ∧
        store'.receipts = store.receipts ++ [draftReceipt request other objectId now] ∧
          markIdempotencyCompleted db₁ other now = .ok store'.db := by
  rcases bind_eq_ok.1 h with ⟨_, _, h⟩
  split at h
  · cases h
  split at h
  · cases h
    exact Or.inl rfl
  · rcases bind_eq_ok.1 h with ⟨db₁, hnext, h⟩
    rcases bind_eq_ok.1 h with ⟨receipts, hreceipt, h⟩
    rcases bind_eq_ok.1 h with ⟨db₂, hmark, h⟩
    cases h
    exact Or.inr ⟨db₁, hnext, recordReceipt_eq_ok hreceipt, liftError_eq_ok.1 hmark⟩

theorem receiptsOfKey_append {store store' : Store} {receipt : Receipt}
    (h : store'.receipts = store.receipts ++ [receipt]) :
    receiptsOfKey store' key =
      receiptsOfKey store key ++ if receipt.idempotencyKey = key then [receipt] else [] := by
  by_cases hkey : receipt.idempotencyKey = key <;>
    simp [receiptsOfKey, h, List.filter_append, hkey]

theorem confirmEffect_other {store store' : Store} {objectId : String}
    (h : confirmEffect store request other objectId now = .ok store') (hne : key ≠ other) :
    SameEntry key store store' := by
  rcases confirmEffect_cases h with rfl | ⟨db₁, hnext, hreceipts, hmark⟩
  · exact SameEntry.refl key store'
  · rcases recordNext_other hnext hne with ⟨hlatest, hrecord⟩
    rcases markIdempotencyCompleted_record key hmark with ⟨hlatest', hrecord'⟩
    refine ⟨hlatest'.trans hlatest, ?_, ?_⟩
    · rw [hrecord', hrecord]
      cases hget : getIdempotencyRecord store.db key with
      | none => rfl
      | some record =>
        have hkey : ¬ record.idempotencyKey = other := by
          rw [getIdempotencyRecord_key hget]
          exact hne
        simp [hkey]
    · rw [receiptsOfKey_append hreceipts]
      have hother : ¬ (draftReceipt request other objectId now).idempotencyKey = key := by
        intro heq
        exact hne heq.symm
      simp [hother]

/-- With a lease, an open reservation and no receipt yet, the observed object is confirmed. -/
theorem confirmEffect_open {store : Store} (objectId : String)
    (hleased : leased store.db request now = true) (hopen : openRecord store.db key = true)
    (hreceipts : receiptsOfKey store key = [])
    (hnumber : ∀ latest, getLatestEffectAttempt store.db key = some latest →
      0 ≤ latest.reconciliationAttempt) :
    ∃ db₁ store', confirmEffect store request key objectId now = .ok store' ∧
      recordNext store.db request key .confirmed (some objectId) now = .ok db₁ ∧
        store'.receipts = store.receipts ++ [draftReceipt request key objectId now] ∧
          markIdempotencyCompleted db₁ key now = .ok store'.db := by
  rcases leased_eq_true hleased with ⟨job, hjob⟩
  rcases openRecord_eq_true hopen with ⟨record, hrecord, hnone⟩
  have hevidence : effectStateEvidence .confirmed (some objectId) = true := rfl
  rcases recordNext_ok request now hevidence hnumber with ⟨db₁, hnext⟩
  have hfree : recordReceipt store.receipts (draftReceipt request key objectId now) =
      .ok (store.receipts ++ [draftReceipt request key objectId now]) := by
    refine if_neg ?_
    intro hany
    rcases List.any_eq_true.1 hany with ⟨old, hold, hsame⟩
    have hkey : old.idempotencyKey = key := (of_decide_eq_true hsame).1
    have hmem : old ∈ receiptsOfKey store key := List.mem_filter.2 ⟨hold, by simpa using hkey⟩
    rw [hreceipts] at hmem
    cases hmem
  have hrecord₁ : getIdempotencyRecord db₁ key = some record := by
    rw [recordNext_record hnext, hrecord]
  have hmark : ∃ db₂, markIdempotencyCompleted db₁ key now = .ok db₂ := by
    unfold markIdempotencyCompleted
    rw [hrecord₁]
    exact ⟨_, rfl⟩
  rcases hmark with ⟨db₂, hmark⟩
  refine ⟨db₁, { db := db₂, receipts := _ }, bind_eq_ok.2 ⟨job, hjob, ?_⟩, hnext, rfl, hmark⟩
  rw [hrecord]
  simp only [hnone, Option.isSome_none, Bool.false_eq_true, if_false]
  refine bind_eq_ok.2 ⟨db₁, hnext, bind_eq_ok.2 ⟨_, hfree, bind_eq_ok.2 ⟨db₂, ?_, rfl⟩⟩⟩
  exact liftError_eq_ok.2 hmark

end Entry

/-! ## One call -/

/-- What the call knows of its key and its object at each place of the function. -/
def LocalsOk (call : Call) : Prop :=
  match call.phase with
  | .reconciling => call.key.isSome = true
  | .rechecking => call.key.isSome = true
  | .creating => call.key.isSome = true ∧ call.mutationStarted = true
  | .preserving createdId =>
    call.key.isSome = true ∧ call.mutationStarted = true ∧ call.knownId = some createdId
  | .relocking createdId =>
    call.key.isSome = true ∧ call.mutationStarted = true ∧ call.knownId = some createdId
  | .readingBack createdId =>
    call.key.isSome = true ∧ call.mutationStarted = true ∧ call.knownId = some createdId
  | .failing _ => call.key.isSome = true
  | .confirming objectId =>
    call.key.isSome = true ∧ (call.knownId.isSome = true → call.knownId = some objectId)
  | _ => True

/-- The phases after the identity was stored. -/
def Phase.accepted : Phase → Bool
  | .relocking _ => true
  | .readingBack _ => true
  | .failing _ => true
  | .confirming _ => true
  | .returned _ => true
  | .raised _ => true
  | .crashed => true
  | _ => false

/-- The call created the object `createdId` under the key and keeps its permission. -/
structure Accepted (key createdId : String) (call : Call) : Prop where
  phase : call.phase.accepted = true
  key : call.key = some key
  known : call.knownId = some createdId
  started : call.mutationStarted = true
  returned : call.createReturned = true
  kept : call.released = false

section Calls

variable {request : EffectRequest} {store : Store} {call : Call}

/-- A transaction inside the `try` block leaves the call where it went on, or in the handler. -/
theorem inTry_call {P : Call → Prop} {next : Call} {result : Except DraftEffectError Store}
    (hnext : P next) (hfails : ∀ error, P { call with phase := .failing error })
    (commit : Commit) : P (inTry store call next commit result).2 := by
  cases result with
  | error error => exact hfails error
  | ok store' =>
    cases commit with
    | committed => exact hnext
    | lost => exact hfails .other
    | aborted => exact hfails .other

/-- One outside of it leaves the call where it went on, or ended. -/
theorem outsideTry_call {P : Call → Prop} {next : Call} {result : Except DraftEffectError Store}
    (hnext : P next) (hlost : P { next with phase := .raised .other })
    (hraised : ∀ error, P { call with phase := .raised error })
    (commit : Commit) : P (outsideTry store call next commit result).2 := by
  cases result with
  | error error => exact hraised error
  | ok store' =>
    cases commit with
    | committed => exact hnext
    | lost => exact hlost
    | aborted => exact hraised .other

theorem observe_locals (hkey : call.key.isSome = true) (objectId : String) :
    LocalsOk (call.observe objectId) := by
  unfold Call.observe
  split
  · exact hkey
  · rename_i hsame
    refine ⟨hkey, ?_⟩
    intro hknown
    by_contra hne
    exact hsame (Or.inr ⟨hknown, hne⟩)

theorem transact_locals (h : LocalsOk call) (now : Moment) (commit : Commit) :
    LocalsOk (call.transact request store now commit).2 := by
  cases hat : call.phase with
  | idle =>
    simp only [Call.transact, hat]
    cases beginEffect store.db request now with
    | error error => exact trivial
    | ok begun =>
      have hclaimed : LocalsOk (call.claimed begun.2) := rfl
      exact outsideTry_call hclaimed trivial (fun _ => trivial) commit
  | rechecking =>
    simp only [LocalsOk, hat] at h
    simp only [Call.transact, hat]
    exact inTry_call ⟨h, rfl⟩ (fun _ => h) commit
  | preserving createdId =>
    simp only [LocalsOk, hat] at h
    simp only [Call.transact, hat]
    exact inTry_call h (fun _ => h.1) commit
  | relocking createdId =>
    simp only [LocalsOk, hat] at h
    simp only [Call.transact, hat]
    exact inTry_call h (fun _ => h.1) commit
  | failing error =>
    simp only [Call.transact, hat]
    exact outsideTry_call trivial trivial (fun _ => trivial) commit
  | confirming objectId =>
    simp only [Call.transact, hat]
    exact outsideTry_call trivial trivial (fun _ => trivial) commit
  | reconciling | creating | readingBack createdId | returned objectId | raised error | crashed =>
    simpa only [Call.transact, hat] using h

theorem receive_locals (h : LocalsOk call) (answer : Answer) : LocalsOk (call.receive answer) := by
  cases hat : call.phase with
  | reconciling =>
    simp only [LocalsOk, hat] at h
    simp only [Call.receive, hat]
    cases answer with
    | none =>
      by_cases hmay : call.mayCreate = true
      · simpa [hmay, LocalsOk] using h
      · simpa [hmay, LocalsOk] using h
    | object id => exact observe_locals h id
    | malformed => exact h
    | raised error => exact h
  | creating =>
    simp only [LocalsOk, hat] at h
    simp only [Call.receive, hat]
    cases answer with
    | none => exact h.1
    | object id =>
      by_cases hempty : id = ""
      · simpa [hempty, LocalsOk] using h.1
      · simpa [hempty, LocalsOk] using h
    | malformed => exact h.1
    | raised error => exact h.1
  | readingBack createdId =>
    simp only [LocalsOk, hat] at h
    simp only [Call.receive, hat]
    cases answer with
    | none => exact h.1
    | object id =>
      by_cases hsame : id = createdId
      · simpa only [hsame, if_true] using observe_locals h.1 createdId
      · simpa [hsame, LocalsOk] using h.1
    | malformed => exact h.1
    | raised error => exact h.1
  | idle | rechecking | preserving createdId | relocking createdId | failing error
  | confirming objectId | returned objectId | raised error | crashed =>
    simpa only [Call.receive, hat] using h

theorem callStep_locals (request : EffectRequest) (store : Store) (h : LocalsOk call)
    (event : CallEvent) : LocalsOk (callStep request store call event).2 := by
  cases event with
  | transaction now commit => exact transact_locals h now commit
  | answered answer => exact receive_locals h answer
  | crash =>
    by_cases hfinished : call.phase.finished = true
    · simpa [callStep, hfinished] using h
    · simp [callStep, hfinished, LocalsOk]

/-! ### The call that created the object -/

theorem Accepted.goto {key createdId : String} (h : Accepted key createdId call) {phase : Phase}
    (hphase : phase.accepted = true) : Accepted key createdId { call with phase := phase } :=
  { h with phase := hphase }

/-- Its write was made and answered: it never records an absence. -/
theorem Accepted.no_absence {key createdId : String} (h : Accepted key createdId call)
    (error : DraftEffectError) : call.definiteAbsence error = false := by
  simp [Call.definiteAbsence, h.started, h.returned]

theorem observe_accepted {key createdId : String} (h : Accepted key createdId call)
    (objectId : String) : Accepted key createdId (call.observe objectId) := by
  unfold Call.observe
  split
  · exact h.goto rfl
  · exact h.goto rfl

theorem transact_accepted {key createdId : String} (h : Accepted key createdId call)
    (now : Moment) (commit : Commit) :
    Accepted key createdId (call.transact request store now commit).2 := by
  have hphase := h.phase
  cases hat : call.phase with
  | relocking objectId =>
    simp only [Call.transact, hat]
    exact inTry_call (h.goto rfl) (fun _ => h.goto rfl) commit
  | failing error =>
    have hreleased : ∀ phase : Phase, phase.accepted = true → Accepted key createdId
        { call with phase := phase, released := call.definiteAbsence error } :=
      fun phase hphase => { h.goto hphase with kept := h.no_absence error }
    simp only [Call.transact, hat]
    exact outsideTry_call (hreleased _ rfl) (hreleased _ rfl) (fun _ => h.goto rfl) commit
  | confirming objectId =>
    have hreturned : Accepted key createdId { call with phase := .returned objectId } :=
      h.goto rfl
    simp only [Call.transact, hat]
    exact outsideTry_call hreturned (h.goto rfl) (fun _ => h.goto rfl) commit
  | idle | rechecking | preserving objectId | reconciling | creating =>
    rw [hat] at hphase
    cases hphase
  | readingBack objectId | returned objectId | raised error | crashed =>
    simpa only [Call.transact, hat] using h

theorem receive_accepted {key createdId : String} (h : Accepted key createdId call)
    (answer : Answer) : Accepted key createdId (call.receive answer) := by
  have hphase := h.phase
  cases hat : call.phase with
  | readingBack objectId =>
    simp only [Call.receive, hat]
    cases answer with
    | none => exact h.goto rfl
    | object id =>
      by_cases hsame : id = objectId
      · simpa only [hsame, if_true] using observe_accepted h objectId
      · simp only [hsame, if_false]
        exact h.goto rfl
    | malformed => exact h.goto rfl
    | raised error => exact h.goto rfl
  | idle | rechecking | preserving objectId | reconciling | creating =>
    rw [hat] at hphase
    cases hphase
  | relocking objectId | failing error | confirming objectId | returned objectId | raised error
  | crashed => simpa only [Call.receive, hat] using h

theorem callStep_accepted {key createdId : String} (request : EffectRequest) (store : Store)
    (h : Accepted key createdId call) (event : CallEvent) :
    Accepted key createdId (callStep request store call event).2 := by
  cases event with
  | transaction now commit => exact transact_accepted h now commit
  | answered answer => exact receive_accepted h answer
  | crash =>
    by_cases hfinished : call.phase.finished = true
    · simpa [callStep, hfinished] using h
    · have hcrashed : Accepted key createdId { call with phase := .crashed } := h.goto rfl
      simpa [callStep, hfinished] using hcrashed

/-! ### What a transaction writes under a key -/

/-- What the transaction a call is about to run records as the identity of the key: a failing call
what it knew when it began, a confirming one what it observed.  A transaction that is rolled back,
lost its lease or finds the effect confirmed records nothing. -/
def recordedIdentity (request : EffectRequest) (store : Store) (call : Call) (key : String) :
    CallEvent → Option (Option String)
  | .transaction now commit =>
    if commit ≠ .aborted ∧ call.key = some key ∧ leased store.db request now = true ∧
        openRecord store.db key = true then
      match call.phase with
      | .failing _ => some call.knownId
      | .confirming objectId => some (some objectId)
      | _ => none
    else
      none
  | _ => none

theorem recordedIdentity_eq_some {key : String} {now : Moment} {commit : Commit}
    {identity : Option String}
    (h : recordedIdentity request store call key (.transaction now commit) = some identity) :
    (commit ≠ .aborted ∧ call.key = some key ∧ leased store.db request now = true ∧
      openRecord store.db key = true) ∧
    ((∃ error, call.phase = .failing error ∧ identity = call.knownId) ∨
      ∃ objectId, call.phase = .confirming objectId ∧ identity = some objectId) := by
  by_cases hconditions : commit ≠ .aborted ∧ call.key = some key ∧
      leased store.db request now = true ∧ openRecord store.db key = true
  · simp only [recordedIdentity, if_pos hconditions] at h
    refine ⟨hconditions, ?_⟩
    cases hat : call.phase with
    | failing error =>
      simp only [hat, Option.some.injEq] at h
      exact Or.inl ⟨error, rfl, h.symm⟩
    | confirming objectId =>
      simp only [hat, Option.some.injEq] at h
      exact Or.inr ⟨objectId, rfl, h.symm⟩
    | idle | reconciling | rechecking | creating | preserving objectId | relocking objectId
    | readingBack objectId | returned objectId | raised error | crashed => simp [hat] at h
  · simp only [recordedIdentity, if_neg hconditions] at h
    cases h

/-- The entry after a transaction that recorded an identity. -/
structure Recorded (key : String) (identity : Option String) (store store' : Store) : Prop where
  latest : ∃ attempt, getLatestEffectAttempt store'.db key = some attempt ∧
    attempt.providerObjectId = identity ∧ 0 ≤ attempt.reconciliationAttempt
  receipts : receiptsOfKey store' key = receiptsOfKey store key ∨
    ∃ receipt, receipt.providerObjectId = identity ∧
      receiptsOfKey store' key = receiptsOfKey store key ++ [receipt]

/-- A transaction leaves the store as it was or as its result. -/
theorem inTry_store {P : Store → Prop} {next : Call} {result : Except DraftEffectError Store}
    (hsame : P store) (hresult : ∀ store', result = .ok store' → P store') (commit : Commit) :
    P (inTry store call next commit result).1 := by
  cases result with
  | error error => exact hsame
  | ok store' =>
    cases commit with
    | committed => exact hresult store' rfl
    | lost => exact hresult store' rfl
    | aborted => exact hsame

theorem outsideTry_store {P : Store → Prop} {next : Call} {result : Except DraftEffectError Store}
    {commit : Commit} (hsame : P store)
    (hresult : ∀ store', commit ≠ .aborted → result = .ok store' → P store') :
    P (outsideTry store call next commit result).1 := by
  cases result with
  | error error => exact hsame
  | ok store' =>
    cases commit with
    | committed => exact hresult store' (by decide) rfl
    | lost => exact hresult store' (by decide) rfl
    | aborted => exact hsame

theorem outsideTry_written {next : Call} {store' : Store} {commit : Commit}
    (hcommit : commit ≠ .aborted) : (outsideTry store call next commit (.ok store')).1 = store' := by
  cases commit with
  | committed => rfl
  | lost => rfl
  | aborted => exact absurd rfl hcommit

theorem inTry_written {next : Call} {store' : Store} {commit : Commit}
    (hcommit : commit ≠ .aborted) : (inTry store call next commit (.ok store')).1 = store' := by
  cases commit with
  | committed => rfl
  | lost => rfl
  | aborted => exact absurd rfl hcommit

/-- What the lemmas below assume of a call and a key that holds an identity: nobody may be given the
permission, and the call itself neither stores an identity nor gives a permission back. -/
structure Bystander (store : Store) (call : Call) (key : String) : Prop where
  held : Held store.db key
  locals : LocalsOk call
  storesOther : ∀ createdId, call.phase = .preserving createdId → call.key ≠ some key
  noAbsence : ∀ error, call.phase = .failing error → call.key = some key →
    call.definiteAbsence error = false

theorem sameEntry_of_db {key : String} {db : Database}
    (h : getLatestEffectAttempt db key = getLatestEffectAttempt store.db key ∧
      getIdempotencyRecord db key = getIdempotencyRecord store.db key) :
    SameEntry key store { store with db := db } :=
  ⟨h.1, h.2, rfl⟩

/-- A transaction that records no identity under the key leaves its entry alone. -/
theorem transact_same {key : String} (h : Bystander store call key) {now : Moment} {commit : Commit}
    (hnone : recordedIdentity request store call key (.transaction now commit) = none) :
    SameEntry key store (call.transact request store now commit).1 := by
  have hrefl := SameEntry.refl key store
  have hlocals := h.locals
  cases hat : call.phase with
  | idle =>
    simp only [Call.transact, hat]
    cases hbegin : beginEffect store.db request now with
    | error error => exact hrefl
    | ok begun =>
      refine outsideTry_store hrefl ?_
      intro store' _ hresult
      cases hresult
      exact sameEntry_of_db (beginEffect_entry h.held hbegin)
  | rechecking =>
    simp only [Call.transact, hat]
    refine inTry_store hrefl ?_ commit
    intro store' hresult
    rcases map_eq_ok.1 hresult with ⟨_, _, rfl⟩
    exact hrefl
  | preserving createdId =>
    simp only [LocalsOk, hat] at hlocals
    rcases Option.isSome_iff_exists.1 hlocals.1 with ⟨own, hown⟩
    have hne : key ≠ own := by
      intro heq
      exact h.storesOther createdId hat (heq ▸ hown)
    simp only [Call.transact, hat, hown, Option.getD_some]
    refine inTry_store hrefl ?_ commit
    intro store' hresult
    rcases map_eq_ok.1 hresult with ⟨db, hpreserve, rfl⟩
    exact sameEntry_of_db (preserveIdentity_other hpreserve hne)
  | relocking createdId =>
    simp only [Call.transact, hat]
    refine inTry_store hrefl ?_ commit
    intro store' hresult
    rcases map_eq_ok.1 hresult with ⟨_, _, rfl⟩
    exact hrefl
  | failing error =>
    simp only [LocalsOk, hat] at hlocals
    rcases Option.isSome_iff_exists.1 hlocals with ⟨own, hown⟩
    simp only [Call.transact, hat, hown, Option.getD_some]
    refine outsideTry_store hrefl ?_
    intro store' hcommit hresult
    rcases map_eq_ok.1 hresult with ⟨db, hfail, rfl⟩
    by_cases heq : key = own
    · subst heq
      have hclosed : ¬ (leased store.db request now = true ∧ openRecord store.db key = true) := by
        intro hboth
        simp [recordedIdentity, hcommit, hown, hboth, hat] at hnone
      rw [recordFailure_closed hfail hclosed]
      exact hrefl
    · exact sameEntry_of_db (recordFailure_other hfail heq)
  | confirming objectId =>
    simp only [LocalsOk, hat] at hlocals
    rcases Option.isSome_iff_exists.1 hlocals.1 with ⟨own, hown⟩
    simp only [Call.transact, hat, hown, Option.getD_some]
    refine outsideTry_store hrefl ?_
    intro store' hcommit hresult
    by_cases heq : key = own
    · subst heq
      have hclosed : ¬ (leased store.db request now = true ∧ openRecord store.db key = true) := by
        intro hboth
        simp [recordedIdentity, hcommit, hown, hboth, hat] at hnone
      rw [confirmEffect_closed hresult hclosed]
      exact hrefl
    · exact confirmEffect_other hresult heq
  | reconciling | creating | readingBack createdId | returned objectId | raised error | crashed =>
    simpa only [Call.transact, hat] using hrefl

/-- A transaction that records an identity goes through. -/
theorem transact_records {key : String} (h : Bystander store call key)
    (hnumber : ∀ latest, getLatestEffectAttempt store.db key = some latest →
      0 ≤ latest.reconciliationAttempt)
    (hreceipts : openRecord store.db key = true → receiptsOfKey store key = [])
    {now : Moment} {commit : Commit} {identity : Option String}
    (hsome : recordedIdentity request store call key (.transaction now commit) = some identity) :
    Recorded key identity store (call.transact request store now commit).1 := by
  rcases recordedIdentity_eq_some hsome with ⟨⟨hcommit, hkey, hleased, hopen⟩, hwrites⟩
  rcases hwrites with ⟨error, hat, rfl⟩ | ⟨objectId, hat, rfl⟩
  · rcases recordFailure_open call.knownId hleased hopen hnumber with ⟨db, hfail, hnext⟩
    have hstore : (call.transact request store now commit).1 = { store with db := db } := by
      simp only [Call.transact, hat, hkey, Option.getD_some, h.noAbsence error hat hkey, hfail]
      exact outsideTry_written hcommit
    rw [hstore]
    exact ⟨recordNext_latest hnext, Or.inl rfl⟩
  · rcases confirmEffect_open objectId hleased hopen (hreceipts hopen) hnumber with
      ⟨db₁, store', hconfirm, hnext, happended, hmark⟩
    have hstore : (call.transact request store now commit).1 = store' := by
      simp only [Call.transact, hat, hkey, Option.getD_some, hconfirm]
      exact outsideTry_written hcommit
    rw [hstore]
    have hlatest := (markIdempotencyCompleted_record key hmark).1
    refine ⟨?_, Or.inr ⟨draftReceipt request key objectId now, rfl, ?_⟩⟩
    · rcases recordNext_latest hnext with ⟨attempt, hattempt, hidentity, hnonneg⟩
      exact ⟨attempt, hlatest.trans hattempt, hidentity, hnonneg⟩
    · rw [receiptsOfKey_append happended]
      simp [draftReceipt]

/-! ### Receipts -/

/-- The effect of the key is not confirmed. -/
def unconfirmed (db : Database) (key : String) : Bool :=
  (getIdempotencyRecord db key).all (fun record => record.completedAt.isNone)

/-- A key has receipts only when its effect is confirmed. -/
def ReceiptsConfirmed (key : String) (store : Store) : Prop :=
  unconfirmed store.db key = true → receiptsOfKey store key = []

theorem unconfirmed_of_open {db : Database} {key : String} (h : openRecord db key = true) :
    unconfirmed db key = true := by
  rcases openRecord_eq_true h with ⟨record, hrecord, hnone⟩
  simp [unconfirmed, hrecord, hnone]

theorem ReceiptsConfirmed.of_db {key : String} {db : Database} (h : ReceiptsConfirmed key store)
    (hdb : unconfirmed db key = true → unconfirmed store.db key = true) :
    ReceiptsConfirmed key { store with db := db } :=
  fun hopen => h (hdb hopen)

/-- Reserving a key does not confirm it. -/
theorem beginEffect_unconfirmed {db db' : Database} {key : String} {now : Moment} {claim : Claim}
    (h : beginEffect db request now = .ok (db', claim)) (hopen : unconfirmed db' key = true) :
    unconfirmed db key = true := by
  unfold beginEffect at h
  split at h
  · cases h
  rcases bind_eq_ok.1 h with ⟨_, _, h⟩
  rcases bind_eq_ok.1 h with ⟨job, hjob, h⟩
  dsimp only at h
  split at h
  · cases h
  split at h
  · cases h
  rcases bind_eq_ok.1 h with ⟨db₁, hreserve, h⟩
  have hopen₁ : unconfirmed db₁ key = true := by
    split at h
    · rcases bind_eq_ok.1 h with ⟨db₂, hrecord, h⟩
      cases h
      simpa only [unconfirmed, recordNext_record hrecord] using hopen
    · cases h
      exact hopen
  -- What is in the table stays there.
  cases hrecord : getIdempotencyRecord db key with
  | none => simp [unconfirmed, hrecord]
  | some record =>
    rcases Table.get?_eq_some_iff.1 hrecord with ⟨hmem, hkey⟩
    have hkept := (reserveIfFresh_eq_ok hreserve).2.1 record hmem
    have hrecord₁ : getIdempotencyRecord db₁ key = some record :=
      Table.get?_eq_some_iff.2 ⟨hkept, hkey⟩
    simpa [unconfirmed, hrecord, hrecord₁] using hopen₁

theorem preserveIdentity_record {db db' : Database} {key other createdId : String} {now : Moment}
    (h : preserveIdentity db request other createdId now = .ok db') :
    getIdempotencyRecord db' key = getIdempotencyRecord db key := by
  rcases bind_eq_ok.1 h with ⟨_, _, h⟩
  split at h
  · cases h
  split at h
  · cases h
  split at h
  · split at h
    · cases h
      rfl
    · cases h
  · exact recordNext_record h

theorem recordFailure_record {db db' : Database} {key other : String} {now : Moment}
    {definiteAbsence : Bool} {knownId : Option String}
    (h : recordFailure db request other definiteAbsence knownId now = .ok db') :
    getIdempotencyRecord db' key = getIdempotencyRecord db key := by
  rcases bind_eq_ok.1 h with ⟨_, _, h⟩
  split at h
  · cases h
    rfl
  split at h
  · cases h
    rfl
  split at h
  · exact recordNext_record h
  · exact recordNext_record h

theorem confirmEffect_receipts {key other objectId : String} {now : Moment} {store' : Store}
    (hreceipts : ReceiptsConfirmed key store)
    (h : confirmEffect store request other objectId now = .ok store') :
    ReceiptsConfirmed key store' := by
  by_cases hsame : key = other
  · subst hsame
    rcases confirmEffect_cases h with rfl | ⟨db₁, hnext, _, hmark⟩
    · exact hreceipts
    · -- The key is confirmed now.
      rcases markIdempotencyCompleted_eq_ok hmark with ⟨hid, hdb⟩
      rcases markIdempotencyCompleted_record key hmark with ⟨_, hmarked⟩
      intro hopen
      cases hrecord : getIdempotencyRecord db₁ key with
      | none =>
        unfold markIdempotencyCompleted at hmark
        rw [hrecord] at hmark
        cases hmark
      | some record =>
        rw [hrecord] at hmarked
        simp [unconfirmed, hmarked, getIdempotencyRecord_key hrecord] at hopen
  · have hentry := confirmEffect_other h hsame
    intro hopen
    rw [hentry.receipts]
    refine hreceipts ?_
    simpa only [unconfirmed, hentry.record] using hopen

theorem callStep_receipts {key : String} (request : EffectRequest) (h : ReceiptsConfirmed key store)
    (event : CallEvent) : ReceiptsConfirmed key (callStep request store call event).1 := by
  cases event with
  | transaction now commit =>
    simp only [callStep]
    cases hat : call.phase with
    | idle =>
      simp only [Call.transact, hat]
      cases hbegin : beginEffect store.db request now with
      | error error => exact h
      | ok begun =>
        refine outsideTry_store h ?_
        intro store' _ hresult
        cases hresult
        exact h.of_db (beginEffect_unconfirmed hbegin)
    | preserving createdId =>
      simp only [Call.transact, hat]
      refine inTry_store h ?_ commit
      intro store' hresult
      rcases map_eq_ok.1 hresult with ⟨db, hpreserve, rfl⟩
      refine h.of_db ?_
      simp only [unconfirmed, preserveIdentity_record hpreserve, imp_self]
    | failing error =>
      simp only [Call.transact, hat]
      refine outsideTry_store h ?_
      intro store' _ hresult
      rcases map_eq_ok.1 hresult with ⟨db, hfail, rfl⟩
      refine h.of_db ?_
      simp only [unconfirmed, recordFailure_record hfail, imp_self]
    | confirming objectId =>
      simp only [Call.transact, hat]
      refine outsideTry_store h ?_
      intro store' _ hresult
      exact confirmEffect_receipts h hresult
    | rechecking | relocking createdId =>
      simp only [Call.transact, hat]
      refine inTry_store h ?_ commit
      intro store' hresult
      rcases map_eq_ok.1 hresult with ⟨_, _, rfl⟩
      exact h
    | reconciling | creating | readingBack createdId | returned objectId | raised error
    | crashed => simpa only [Call.transact, hat] using h
  | answered answer => exact h
  | crash => exact h

/-! ### Storing the identity -/

/-- The transaction stores a new row with the identity of the object the call created. -/
structure StoresIdentity (request : EffectRequest) (store : Store) (call : Call)
    (key createdId : String) (now : Moment) (commit : Commit) : Prop where
  created : call.phase = .preserving createdId
  keyed : call.key = some key
  commits : commit ≠ .aborted
  stored : ∃ db, preserveIdentity store.db request key createdId now = .ok db ∧
    db.effectAttempts ≠ store.db.effectAttempts

/-- It does so while the effect is not confirmed. -/
theorem preserveIdentity_stored {db db' : Database} {key createdId : String} {now : Moment}
    (h : preserveIdentity db request key createdId now = .ok db')
    (hnew : db'.effectAttempts ≠ db.effectAttempts) :
    recordNext db request key .unknown (some createdId) now = .ok db' ∧
      openRecord db key = true := by
  rcases bind_eq_ok.1 h with ⟨_, _, h⟩
  split at h
  · cases h
  · rename_i record hrecord
    split at h
    · cases h
    split at h
    · split at h
      · cases h
        exact absurd rfl hnew
      · cases h
    · rename_i hnone
      refine ⟨h, ?_⟩
      simpa [openRecord, hrecord] using hnone

end Calls

/-! ## Any number of calls -/

/-- The identity is in the latest row of the key, and in the one receipt there may be. -/
structure Remembered {ι : Type} (key createdId : String) (system : DraftSystem ι) : Prop where
  latest : ∃ attempt, getLatestEffectAttempt system.store.db key = some attempt ∧
    attempt.providerObjectId = some createdId
  single : (receiptsOfKey system.store key).length ≤ 1
  receipts : ∀ receipt ∈ receiptsOfKey system.store key, receipt.providerObjectId = some createdId

/-- What holds once call `c` has stored the identity. -/
structure Background {ι : Type} (requests : ι → EffectRequest) (c : ι) (key createdId : String)
    (system : DraftSystem ι) : Prop where
  owner : SingleOwner requests system
  locals : ∀ c', LocalsOk (system.calls c')
  creator : Accepted key createdId (system.calls c)
  numbered : ∃ attempt, getLatestEffectAttempt system.store.db key = some attempt ∧
    0 ≤ attempt.reconciliationAttempt
  confirmed : ReceiptsConfirmed key system.store

/-- Whatever the step records under the key, it is this identity. -/
def RepeatsIdentity {ι : Type} (requests : ι → EffectRequest) (key createdId : String)
    (system : DraftSystem ι) : DraftEvent ι → Prop
  | .call c event =>
    ∀ identity, recordedIdentity (requests c) system.store (system.calls c) key event =
      some identity → identity = some createdId
  | .environment _ => True

instance {ι : Type} (requests : ι → EffectRequest) (key createdId : String)
    (system : DraftSystem ι) (event : DraftEvent ι) :
    Decidable (RepeatsIdentity requests key createdId system event) :=
  match event with
  | .call c event =>
    inferInstanceAs (Decidable (∀ identity ∈ recordedIdentity (requests c) system.store
      (system.calls c) key event, identity = some createdId))
  | .environment _ => isTrue trivial

section System

variable {ι : Type} [DecidableEq ι] {requests : ι → EffectRequest} {system : DraftSystem ι} {c : ι}
  {key createdId : String}

omit [DecidableEq ι] in
theorem Background.owns (h : Background requests c key createdId system) :
    Owns (system.calls c) key :=
  ⟨(h.owner.ok c).started h.creator.started, h.creator.key, h.creator.kept⟩

omit [DecidableEq ι] in
/-- The other calls hold no permission for the key, and the creator neither stores again nor gives
its permission back. -/
theorem Background.bystander (h : Background requests c key createdId system) (c' : ι) :
    Bystander system.store (system.calls c') key := by
  have honly : (system.calls c').mayCreate = true → (system.calls c').key = some key →
      (system.calls c').phase.finished = false → c' = c := by
    intro hmay hkey hrunning
    exact h.owner.unique c' c key ⟨hmay, hkey, (h.owner.ok c').not_released hrunning⟩ h.owns
  refine ⟨h.owner.held c key h.owns, h.locals c', ?_, ?_⟩
  · intro storedId hat hkey
    have hlocals := h.locals c'
    simp only [LocalsOk, hat] at hlocals
    have hmay := (h.owner.ok c').started hlocals.2.1
    have hsame := honly hmay hkey (by simp [hat, Phase.finished])
    have hphase := h.creator.phase
    rw [← hsame, hat] at hphase
    cases hphase
  · intro error hat hkey
    cases habsence : (system.calls c').definiteAbsence error with
    | false => rfl
    | true =>
      have hmay : (system.calls c').mayCreate = true := by
        simp only [Call.definiteAbsence, Bool.and_eq_true] at habsence
        exact habsence.1
      have hsame := honly hmay hkey (by simp [hat, Phase.finished])
      rw [hsame, h.creator.no_absence error] at habsence
      cases habsence

omit [DecidableEq ι] in
/-- A step of a call either leaves the entry of the key alone or records an identity. -/
theorem Background.entry (h : Background requests c key createdId system) (c' : ι)
    (event : CallEvent) :
    (recordedIdentity (requests c') system.store (system.calls c') key event = none ∧
      SameEntry key system.store
        (callStep (requests c') system.store (system.calls c') event).1) ∨
    ∃ identity, recordedIdentity (requests c') system.store (system.calls c') key event =
        some identity ∧ openRecord system.store.db key = true ∧
      Recorded key identity system.store
        (callStep (requests c') system.store (system.calls c') event).1 := by
  cases event with
  | transaction now commit =>
    cases hrecorded : recordedIdentity (requests c') system.store (system.calls c') key
        (.transaction now commit) with
    | none => exact Or.inl ⟨rfl, transact_same (h.bystander c') hrecorded⟩
    | some identity =>
      have hopen := (recordedIdentity_eq_some hrecorded).1.2.2.2
      refine Or.inr ⟨identity, rfl, hopen, transact_records (h.bystander c') ?_ ?_ hrecorded⟩
      · intro latest hlatest
        rcases h.numbered with ⟨attempt, hattempt, hnonneg⟩
        rw [hattempt] at hlatest
        cases hlatest
        exact hnonneg
      · intro hopen
        exact h.confirmed (unconfirmed_of_open hopen)
  | answered answer => exact Or.inl ⟨rfl, SameEntry.refl key system.store⟩
  | crash => exact Or.inl ⟨rfl, SameEntry.refl key system.store⟩

theorem draftStep_locals (requests : ι → EffectRequest) (h : ∀ c', LocalsOk (system.calls c'))
    (event : DraftEvent ι) (c' : ι) :
    LocalsOk ((draftStep requests system event).calls c') := by
  cases event with
  | environment environment =>
    by_cases hkeeps : environment.Keeps system.store.db
    · simpa only [draftStep, hkeeps, if_true] using h c'
    · simpa only [draftStep, hkeeps, if_false] using h c'
  | call mover event =>
    by_cases hsame : c' = mover
    · subst hsame
      simp only [draftStep, Function.update_self]
      exact callStep_locals (requests c') system.store (h c') event
    · simp only [draftStep, Function.update_of_ne hsame]
      exact h c'

theorem draftStep_receipts (requests : ι → EffectRequest) (h : ReceiptsConfirmed key system.store)
    (event : DraftEvent ι) :
    ReceiptsConfirmed key (draftStep requests system event).store := by
  cases event with
  | environment environment =>
    by_cases hkeeps : environment.Keeps system.store.db
    · simp only [draftStep, hkeeps, if_true]
      exact h
    · simpa only [draftStep, hkeeps, if_false] using h
  | call mover event => exact callStep_receipts (requests mover) h event

/-- The background stays, whichever call moves. -/
theorem draftStep_background (system : DraftSystem ι) (event : DraftEvent ι)
    (h : Background requests c key createdId system) :
    Background requests c key createdId (draftStep requests system event) := by
  have howner := draftStep_singleOwner system event h.owner
  have hlocals := draftStep_locals requests h.locals event
  have hconfirmed := draftStep_receipts requests h.confirmed event
  cases event with
  | environment environment =>
    by_cases hkeeps : environment.Keeps system.store.db
    · simp only [draftStep, hkeeps, if_true] at howner ⊢
      exact ⟨howner, h.locals, h.creator, h.numbered, h.confirmed⟩
    · simpa only [draftStep, hkeeps, if_false] using h
  | call c' event =>
    refine ⟨howner, hlocals, ?_, ?_, hconfirmed⟩
    · by_cases hsame : c = c'
      · subst hsame
        simp only [draftStep, Function.update_self]
        exact callStep_accepted (requests c) system.store h.creator event
      · simp only [draftStep, Function.update_of_ne hsame]
        exact h.creator
    · rcases h.entry c' event with ⟨_, hentry⟩ | ⟨identity, _, _, hrecorded⟩
      · rcases h.numbered with ⟨attempt, hattempt, hnonneg⟩
        exact ⟨attempt, hentry.latest.trans hattempt, hnonneg⟩
      · rcases hrecorded.latest with ⟨attempt, hattempt, _, hnonneg⟩
        exact ⟨attempt, hattempt, hnonneg⟩

/-- A step keeps the identity exactly when what it records repeats it. -/
theorem draftStep_remembered_iff (h : Background requests c key createdId system)
    (hremembered : Remembered key createdId system) (event : DraftEvent ι) :
    Remembered key createdId (draftStep requests system event) ↔
      RepeatsIdentity requests key createdId system event := by
  cases event with
  | environment environment =>
    have hstays : Remembered key createdId
        (draftStep requests system (.environment environment)) := by
      by_cases hkeeps : environment.Keeps system.store.db
      · simp only [draftStep, hkeeps, if_true]
        exact ⟨hremembered.latest, hremembered.single, hremembered.receipts⟩
      · simpa only [draftStep, hkeeps, if_false] using hremembered
    exact ⟨fun _ => trivial, fun _ => hstays⟩
  | call c' event =>
    rcases h.entry c' event with ⟨hnone, hentry⟩ | ⟨identity, hsome, hopen, hrecorded⟩
    · have hstays : Remembered key createdId (draftStep requests system (.call c' event)) := by
        rcases hremembered.latest with ⟨attempt, hattempt, hidentity⟩
        refine ⟨⟨attempt, hentry.latest.trans hattempt, hidentity⟩, ?_, ?_⟩
        · exact hentry.receipts ▸ hremembered.single
        · exact hentry.receipts ▸ hremembered.receipts
      refine ⟨fun _ => ?_, fun _ => hstays⟩
      intro identity hsome
      rw [hnone] at hsome
      cases hsome
    · have hnone := h.confirmed (unconfirmed_of_open hopen)
      rcases hrecorded.latest with ⟨attempt, hattempt, hidentity, _⟩
      constructor
      · intro hafter identity' hsome'
        rcases hafter.latest with ⟨attempt', hattempt', hcreated⟩
        rw [hsome] at hsome'
        cases hsome'
        have hsame : attempt' = attempt := Option.some.inj (hattempt'.symm.trans hattempt)
        rw [← hidentity, ← hsame, hcreated]
      · intro hrepeats
        have hcreated : identity = some createdId := hrepeats identity hsome
        have hlatest : ∃ attempt, getLatestEffectAttempt
            (draftStep requests system (.call c' event)).store.db key = some attempt ∧
              attempt.providerObjectId = some createdId :=
          ⟨attempt, hattempt, hidentity.trans hcreated⟩
        -- Before the confirmation there is no receipt, after it there is the one.
        rcases hrecorded.receipts with hreceipts | ⟨receipt, hreceipt, hreceipts⟩
        · refine ⟨hlatest, ?_, ?_⟩
          · exact hreceipts ▸ hremembered.single
          · exact hreceipts ▸ hremembered.receipts
        · rw [hnone, List.nil_append] at hreceipts
          have hone : receiptsOfKey (draftStep requests system (.call c' event)).store key =
              [receipt] := hreceipts
          refine ⟨hlatest, by simp [hone], ?_⟩
          intro receipt' hmem
          rw [hone, List.mem_singleton] at hmem
          rw [hmem, hreceipt, hcreated]

/-! ## The result -/

/-- Storing the identity sets the background. -/
theorem stored_background (howner : SingleOwner requests system)
    (hlocals : ∀ c', LocalsOk (system.calls c')) (hconfirmed : ReceiptsConfirmed key system.store)
    {now : Moment} {commit : Commit}
    (hstores : StoresIdentity (requests c) system.store (system.calls c) key createdId now commit) :
    Background requests c key createdId
        (draftStep requests system (.call c (.transaction now commit))) ∧
      Remembered key createdId (draftStep requests system (.call c (.transaction now commit))) := by
  rcases hstores.stored with ⟨db, hpreserve, hnew⟩
  rcases preserveIdentity_stored hpreserve hnew with ⟨hnext, hopen⟩
  rcases recordNext_latest hnext with ⟨attempt, hattempt, hidentity, hnonneg⟩
  have hnone : receiptsOfKey system.store key = [] := hconfirmed (unconfirmed_of_open hopen)
  have hstore : (draftStep requests system (.call c (.transaction now commit))).store =
      { system.store with db := db } := by
    simp only [draftStep, callStep, Call.transact, hstores.created, hstores.keyed,
      Option.getD_some, hpreserve]
    exact inTry_written hstores.commits
  have hat := hlocals c
  simp only [LocalsOk, hstores.created] at hat
  have hphase := (howner.ok c).phase
  simp only [PhaseOk, hstores.created] at hphase
  have hrunning : (system.calls c).phase.finished = false := by simp [hstores.created, Phase.finished]
  have haccepted : ∀ phase : Phase, phase.accepted = true →
      Accepted key createdId { system.calls c with phase := phase } :=
    fun phase haccepts =>
      { phase := haccepts
        key := hstores.keyed
        known := hat.2.2
        started := hat.2.1
        returned := hphase
        kept := (howner.ok c).not_released hrunning }
  refine ⟨⟨draftStep_singleOwner system _ howner, draftStep_locals requests hlocals _, ?_, ?_,
    draftStep_receipts requests hconfirmed _⟩, ?_, ?_, ?_⟩
  · simp only [draftStep, callStep, Call.transact, hstores.created, Function.update_self]
    exact inTry_call (haccepted (.relocking createdId) rfl) (fun _ => haccepted (.failing _) rfl)
      commit
  · exact ⟨attempt, hstore ▸ hattempt, hnonneg⟩
  · exact ⟨attempt, hstore ▸ hattempt, hidentity⟩
  · have hlength : (receiptsOfKey system.store key).length ≤ 1 := by simp [hnone]
    exact hstore ▸ hlength
  · have hall : ∀ receipt ∈ receiptsOfKey system.store key,
        receipt.providerObjectId = some createdId := by simp [hnone]
    exact hstore ▸ hall

/-- Once a call has stored the identity of the object it created, the latest row of the key has this
identity and the key has one receipt at most, of this object, in every later state exactly when every
failing or confirming call that records a row under the key repeats the identity. -/
theorem identity_remembered_iff (requests : ι → EffectRequest) (store : Store) (c : ι)
    {key createdId : String} (hreceipts : ReceiptsConfirmed key store) {now : Moment}
    {commit : Commit} (before after : List (DraftEvent ι))
    (hstores : StoresIdentity (requests c)
      (runFrom (draftStep requests) (DraftSystem.start store) before).store
      ((runFrom (draftStep requests) (DraftSystem.start store) before).calls c) key createdId now
      commit) :
    let system := draftStep requests (runFrom (draftStep requests) (DraftSystem.start store) before)
      (.call c (.transaction now commit))
    (∀ n, Remembered key createdId (runFrom (draftStep requests) system (after.take n))) ↔
      Along (draftStep requests) (RepeatsIdentity requests key createdId) system after := by
  intro system
  have howner : SingleOwner requests
      (runFrom (draftStep requests) (DraftSystem.start store) before) :=
    runFrom_invariant draftStep_singleOwner (start_singleOwner store) before
  have hinitial : ∀ c', LocalsOk ((DraftSystem.start store : DraftSystem ι).calls c') :=
    fun _ => trivial
  have hlocals : ∀ c',
      LocalsOk ((runFrom (draftStep requests) (DraftSystem.start store) before).calls c') :=
    runFrom_invariant (I := fun system : DraftSystem ι => ∀ c', LocalsOk (system.calls c'))
      (fun _ event h => draftStep_locals requests h event) hinitial before
  have hconfirmed : ReceiptsConfirmed key
      (runFrom (draftStep requests) (DraftSystem.start store) before).store :=
    runFrom_invariant (I := fun system : DraftSystem ι => ReceiptsConfirmed key system.store)
      (fun _ event h => draftStep_receipts requests h event) hreceipts before
  rcases stored_background howner hlocals hconfirmed hstores with ⟨hbackground, hremembered⟩
  have hstep : ∀ (system : DraftSystem ι) (event : DraftEvent ι),
      Background requests c key createdId system ∧ Remembered key createdId system → True →
        ((Background requests c key createdId (draftStep requests system event) ∧
          Remembered key createdId (draftStep requests system event)) ↔
            RepeatsIdentity requests key createdId system event) := by
    intro system event hsystem _
    rw [← draftStep_remembered_iff hsystem.1 hsystem.2 event]
    exact ⟨And.right, fun h => ⟨draftStep_background system event hsystem.1, h⟩⟩
  rw [← along_iff_forall_take hstep ⟨hbackground, hremembered⟩ (fun _ _ => trivial)]
  constructor
  · intro hall n
    exact ⟨runFrom_invariant draftStep_background hbackground (after.take n), hall n⟩
  · intro hall n
    exact (hall n).2

end System

/-! ## Two calls of one job -/

/-- The key of the sample request. -/
def notionKey : String :=
  deriveIdempotencyKey draftJob.jobType draftJob.workflowId draftJob.objectId
    notionRequest.operationKey

/-- Both calls begin; the first one may write, and its write is accepted as `page-1`. -/
def acceptedWrite : List (DraftEvent Bool) :=
  [.call false (.transaction (minutes 1) .committed),
    .call true (.transaction (minutes 1) .committed),
    .call false (.answered .none),
    .call false (.transaction (minutes 2) .committed),
    .call false (.answered (.object "page-1"))]

def acceptedSystem : DraftSystem Bool :=
  runFrom (draftStep (fun _ : Bool => notionRequest)) (DraftSystem.start draftStore) acceptedWrite

theorem storesIdentity_acceptedWrite :
    StoresIdentity notionRequest acceptedSystem.store (acceptedSystem.calls false) notionKey "page-1"
      (minutes 3) .committed := by
  have hattempts : (preserveIdentity acceptedSystem.store.db notionRequest notionKey "page-1"
      (minutes 3)).map (fun db =>
        decide (db.effectAttempts = acceptedSystem.store.db.effectAttempts)) = .ok false := by
    decide +kernel
  rcases map_eq_ok.1 hattempts with ⟨db, hpreserve, hnew⟩
  have hne : db.effectAttempts ≠ acceptedSystem.store.db.effectAttempts := by
    simpa only [decide_eq_false_iff_not] using hnew
  exact
    { created := by decide +kernel
      keyed := by decide +kernel
      commits := by decide
      stored := ⟨db, hpreserve, hne⟩ }

/-- The state with the identity stored. -/
def storedSystem : DraftSystem Bool :=
  draftStep (fun _ : Bool => notionRequest) acceptedSystem
    (.call false (.transaction (minutes 3) .committed))

/-- The creator keeps the identity and takes the lock again. -/
def confirmedWrite : List (DraftEvent Bool) :=
  [.call false (.transaction (minutes 3) .committed),
    .call false (.answered (.object "page-1")),
    .call false (.transaction (minutes 4) .committed)]

theorem identity_remembered_confirmedWrite :
    Along (draftStep (fun _ : Bool => notionRequest))
        (RepeatsIdentity (fun _ : Bool => notionRequest) notionKey "page-1") storedSystem
        confirmedWrite ∧
      ∀ n, Remembered notionKey "page-1"
        (runFrom (draftStep (fun _ : Bool => notionRequest)) storedSystem
          (confirmedWrite.take n)) := by
  have hreceipts : ReceiptsConfirmed notionKey draftStore := fun _ => rfl
  have hrepeats : Along (draftStep (fun _ : Bool => notionRequest))
      (RepeatsIdentity (fun _ : Bool => notionRequest) notionKey "page-1") storedSystem
      confirmedWrite := by
    decide +kernel
  exact ⟨hrepeats, (identity_remembered_iff (fun _ : Bool => notionRequest) draftStore false
    hreceipts acceptedWrite confirmedWrite storesIdentity_acceptedWrite).2 hrepeats⟩

/-- The other call finds nothing and records what it knew when it began: nothing. -/
def staleFailure : List (DraftEvent Bool) :=
  [.call true (.answered .none),
    .call true (.transaction (minutes 4) .committed)]

theorem identity_forgotten_by_reader :
    ¬ ∀ (requests : Bool → EffectRequest) (store : Store) (c : Bool) (key createdId : String)
      (now : Moment) (commit : Commit) (before after : List (DraftEvent Bool)),
      ReceiptsConfirmed key store →
      StoresIdentity (requests c)
        (runFrom (draftStep requests) (DraftSystem.start store) before).store
        ((runFrom (draftStep requests) (DraftSystem.start store) before).calls c) key createdId now
        commit →
      Remembered key createdId
        (runFrom (draftStep requests)
          (draftStep requests (runFrom (draftStep requests) (DraftSystem.start store) before)
            (.call c (.transaction now commit))) after) := by
  intro h
  have hremembered : Remembered notionKey "page-1"
      (runFrom (draftStep (fun _ : Bool => notionRequest)) storedSystem staleFailure) :=
    h (fun _ => notionRequest) draftStore false notionKey "page-1" (minutes 3) .committed
      acceptedWrite staleFailure (fun _ => rfl) storesIdentity_acceptedWrite
  rcases hremembered.latest with ⟨attempt, hattempt, hidentity⟩
  have hlatest : (getLatestEffectAttempt (runFrom (draftStep (fun _ : Bool => notionRequest))
      storedSystem staleFailure).store.db notionKey).map EffectAttempt.providerObjectId =
        some none := by
    decide +kernel
  have hsame := congrArg (Option.map EffectAttempt.providerObjectId) hattempt
  rw [Option.map_some, hidentity] at hsame
  exact absurd (hlatest.symm.trans hsame) (by decide)

end Application
end MoneyMachine
