import MoneyMachine.Application.ProviderIdentity

/-!
# ConfirmedEffects — a confirmed effect is final and has one receipt

The last transaction of `execute` writes a `CONFIRMED` row, a receipt and the completion of the
reservation, or none of them.  From there on no transaction of any call touches the entry of the key:
the handler and the preserving transaction look at `completed_at` first, and a new call of the key may
not create.

* `Confirmed` : the three writes, with the receipt and the row named;
* `Accounted` : the key is unconfirmed and has no receipt, or is confirmed;
* `confirmed_once` : every run keeps the accounts, and no continuation changes a confirmed entry.
-/

namespace MoneyMachine
namespace Application

open MoneyMachine.Domain
open MoneyMachine.Library
open MoneyMachine.Persistence
open MoneyMachine.Orchestration

/-- The reservation is completed, and the one receipt names the object of the last row. -/
structure Confirmed (key : String) (receipt : Receipt) (attempt : EffectAttempt) (store : Store) :
    Prop where
  completed : unconfirmed store.db key = false
  latest : getLatestEffectAttempt store.db key = some attempt
  state : attempt.effectState = .confirmed
  object : attempt.providerObjectId = receipt.providerObjectId
  receipts : receiptsOfKey store key = [receipt]

/-- The receipts of the key say what its reservation says. -/
def Accounted (key : String) (store : Store) : Prop :=
  ReceiptsConfirmed key store ∧
    (unconfirmed store.db key = false → ∃ receipt attempt, Confirmed key receipt attempt store)

section Entry

variable {key : String} {receipt : Receipt} {attempt : EffectAttempt} {store store' : Store}
  {request : EffectRequest}

theorem Confirmed.of_same (h : Confirmed key receipt attempt store)
    (hsame : SameEntry key store store') : Confirmed key receipt attempt store' where
  completed := by rw [unconfirmed, hsame.record]; exact h.completed
  latest := hsame.latest.trans h.latest
  state := h.state
  object := h.object
  receipts := hsame.receipts.trans h.receipts

/-- A completed reservation is not open, and nobody may create under it. -/
theorem Confirmed.not_open (h : Confirmed key receipt attempt store) :
    ¬ openRecord store.db key = true := by
  intro hopen
  have hunconfirmed := unconfirmed_of_open hopen
  rw [h.completed] at hunconfirmed
  cases hunconfirmed

theorem Confirmed.record (h : Confirmed key receipt attempt store) :
    ∃ record, getIdempotencyRecord store.db key = some record ∧ record.completedAt.isSome = true := by
  have hcompleted := h.completed
  cases hrecord : getIdempotencyRecord store.db key with
  | none => simp [unconfirmed, hrecord] at hcompleted
  | some record =>
    refine ⟨record, rfl, ?_⟩
    simpa [unconfirmed, hrecord, Option.isSome_iff_ne_none] using hcompleted

theorem Confirmed.held (h : Confirmed key receipt attempt store) : Held store.db key := by
  rcases h.record with ⟨record, hrecord, _⟩
  rcases Table.get?_eq_some_iff.1 hrecord with ⟨hmem, hkey⟩
  exact ⟨⟨record, hmem, hkey⟩, attempt, h.latest, by simp [h.state]⟩

/-- An object accepted after the confirmation adds no row. -/
theorem Confirmed.preserveIdentity {createdId : String} {now : Moment} {db : Database}
    (h : Confirmed key receipt attempt store)
    (hpreserve : preserveIdentity store.db request key createdId now = .ok db) : db = store.db := by
  rcases h.record with ⟨record, hrecord, hdone⟩
  rcases bind_eq_ok.1 hpreserve with ⟨_, _, hrest⟩
  rw [hrecord] at hrest
  dsimp only at hrest
  split at hrest
  · cases hrest
  split at hrest
  · cases hrest
    rfl
  · cases hrest

/-- The confirmation that completes the reservation. -/
theorem confirmed_of_confirmEffect {objectId : String} {now : Moment}
    (hbefore : unconfirmed store.db key = true) (hreceipts : ReceiptsConfirmed key store)
    (h : confirmEffect store request key objectId now = .ok store')
    (hafter : unconfirmed store'.db key = false) :
    ∃ receipt attempt, Confirmed key receipt attempt store' := by
  rcases confirmEffect_cases h with rfl | ⟨db₁, hnext, happended, hmark⟩
  · rw [hbefore] at hafter
    cases hafter
  · rcases recordNext_eq_ok hnext with ⟨⟨attempt, hlatest, hstate, hobject⟩, _⟩
    refine ⟨draftReceipt request key objectId now, attempt, hafter, ?_, hstate, hobject, ?_⟩
    · exact (markIdempotencyCompleted_record key hmark).1.trans hlatest
    · rw [receiptsOfKey_append happended, hreceipts hbefore]
      simp [draftReceipt]

end Entry

/-! ## One step -/

section Step

variable {key : String} {receipt : Receipt} {attempt : EffectAttempt} {store : Store} {call : Call}

theorem transact_confirmed (request : EffectRequest) (h : Confirmed key receipt attempt store)
    (now : Moment) (commit : Commit) :
    Confirmed key receipt attempt (call.transact request store now commit).1 := by
  cases hat : call.phase with
  | idle =>
    simp only [Call.transact, hat]
    cases hbegin : beginEffect store.db request now with
    | error error => exact h
    | ok begun =>
      refine outsideTry_store h ?_
      intro store' _ hresult
      cases hresult
      exact h.of_same (sameEntry_of_db (beginEffect_entry h.held hbegin))
  | preserving createdId =>
    simp only [Call.transact, hat]
    refine inTry_store h ?_ commit
    intro store' hresult
    rcases map_eq_ok.1 hresult with ⟨db, hpreserve, rfl⟩
    by_cases hsame : key = call.key.getD ""
    · rw [← hsame] at hpreserve
      rw [h.preserveIdentity hpreserve]
      exact h
    · exact h.of_same (sameEntry_of_db (preserveIdentity_other hpreserve hsame))
  | failing error =>
    simp only [Call.transact, hat]
    refine outsideTry_store h ?_
    intro store' _ hresult
    rcases map_eq_ok.1 hresult with ⟨db, hfail, rfl⟩
    by_cases hsame : key = call.key.getD ""
    · rw [← hsame] at hfail
      rw [recordFailure_closed hfail (fun hboth => h.not_open hboth.2)]
      exact h
    · exact h.of_same (sameEntry_of_db (recordFailure_other hfail hsame))
  | confirming objectId =>
    simp only [Call.transact, hat]
    refine outsideTry_store h ?_
    intro store' _ hresult
    by_cases hsame : key = call.key.getD ""
    · rw [← hsame] at hresult
      rw [confirmEffect_closed hresult (fun hboth => h.not_open hboth.2)]
      exact h
    · exact h.of_same (confirmEffect_other hresult hsame)
  | rechecking | relocking createdId =>
    simp only [Call.transact, hat]
    refine inTry_store h ?_ commit
    intro store' hresult
    rcases map_eq_ok.1 hresult with ⟨_, _, rfl⟩
    exact h
  | reconciling | creating | readingBack createdId | returned objectId | raised error | crashed =>
    simpa only [Call.transact, hat] using h

/-- Reserving a key leaves every effect unconfirmed that was. -/
theorem beginEffect_leaves_open {request : EffectRequest} {now : Moment}
    {begun : Database × Claim} (h : beginEffect store.db request now = .ok begun)
    (hopen : unconfirmed store.db key = true) : unconfirmed begun.1 key = true := by
  unfold beginEffect at h
  split at h
  · cases h
  rcases bind_eq_ok.1 h with ⟨_, _, h⟩
  rcases bind_eq_ok.1 h with ⟨job, _, h⟩
  dsimp only at h
  split at h
  · cases h
  split at h
  · cases h
  rcases bind_eq_ok.1 h with ⟨db₁, hreserve, h⟩
  have hopen₁ : unconfirmed db₁ key = true := by
    unfold reserveIfFresh at hreserve
    split at hreserve
    · cases hreserve
      exact hopen
    · rcases reserveIdempotencyKey_eq_ok (liftError_eq_ok.1 hreserve) with
        ⟨record, records, hins, _, _, _, hfresh, rfl⟩
      -- A new reservation is not completed either.
      simp only [unconfirmed, getIdempotencyRecord, Table.get?_insert hins] at hopen ⊢
      split
      · simp [hfresh]
      · exact hopen
  split at h
  · rcases bind_eq_ok.1 h with ⟨db₂, hrecord, h⟩
    cases h
    simpa only [unconfirmed, recordNext_record hrecord] using hopen₁
  · cases h
    exact hopen₁

/-- Only the last transaction of a call of the key confirms it, with row and receipt. -/
theorem transact_accounts (request : EffectRequest) (hbefore : unconfirmed store.db key = true)
    (hreceipts : ReceiptsConfirmed key store) (now : Moment) (commit : Commit) :
    unconfirmed (call.transact request store now commit).1.db key = true ∨
      ∃ receipt attempt,
        Confirmed key receipt attempt (call.transact request store now commit).1 := by
  cases hat : call.phase with
  | idle =>
    simp only [Call.transact, hat]
    cases hbegin : beginEffect store.db request now with
    | error error => exact Or.inl hbefore
    | ok begun =>
      refine Or.inl (outsideTry_store (P := fun store => unconfirmed store.db key = true)
        hbefore ?_)
      intro store' _ hresult
      cases hresult
      exact beginEffect_leaves_open hbegin hbefore
  | preserving createdId =>
    simp only [Call.transact, hat]
    refine Or.inl (inTry_store (P := fun store => unconfirmed store.db key = true) hbefore ?_
      commit)
    intro store' hresult
    rcases map_eq_ok.1 hresult with ⟨db, hpreserve, rfl⟩
    simpa only [unconfirmed, preserveIdentity_record hpreserve] using hbefore
  | failing error =>
    simp only [Call.transact, hat]
    refine Or.inl (outsideTry_store (P := fun store => unconfirmed store.db key = true) hbefore ?_)
    intro store' _ hresult
    rcases map_eq_ok.1 hresult with ⟨db, hfail, rfl⟩
    simpa only [unconfirmed, recordFailure_record hfail] using hbefore
  | confirming objectId =>
    simp only [Call.transact, hat]
    refine outsideTry_store (P := fun store => unconfirmed store.db key = true ∨
      ∃ receipt attempt, Confirmed key receipt attempt store) (Or.inl hbefore) ?_
    intro store' _ hresult
    cases hafter : unconfirmed store'.db key with
    | true => exact Or.inl rfl
    | false =>
      by_cases hsame : key = call.key.getD ""
      · rw [← hsame] at hresult
        exact Or.inr (confirmed_of_confirmEffect hbefore hreceipts hresult hafter)
      · -- The confirmation of another key.
        have hrecord := (confirmEffect_other hresult hsame).record
        simp only [unconfirmed, hrecord] at hafter hbefore
        rw [hbefore] at hafter
        cases hafter
  | rechecking | relocking createdId =>
    simp only [Call.transact, hat]
    refine Or.inl (inTry_store (P := fun store => unconfirmed store.db key = true) hbefore ?_
      commit)
    intro store' hresult
    rcases map_eq_ok.1 hresult with ⟨_, _, rfl⟩
    exact hbefore
  | reconciling | creating | readingBack createdId | returned objectId | raised error | crashed =>
    simpa only [Call.transact, hat] using Or.inl hbefore

end Step

/-! ## Whole runs -/

section Runs

variable {ι : Type} [DecidableEq ι] {key : String} {system : DraftSystem ι}

theorem draftStep_confirmed (requests : ι → EffectRequest) {receipt : Receipt}
    {attempt : EffectAttempt} (h : Confirmed key receipt attempt system.store)
    (event : DraftEvent ι) :
    Confirmed key receipt attempt (draftStep requests system event).store := by
  cases event with
  | environment environment =>
    by_cases hkeeps : environment.Keeps system.store.db
    · simp only [draftStep, hkeeps, if_true]
      exact h.of_same ⟨rfl, rfl, rfl⟩
    · simpa only [draftStep, hkeeps, if_false] using h
  | call c event =>
    cases event with
    | transaction now commit => exact transact_confirmed (requests c) h now commit
    | answered answer => exact h
    | crash => exact h

/-- What another process does, an answer and a crash leave the key open. -/
theorem draftStep_accounts (requests : ι → EffectRequest)
    (hbefore : unconfirmed system.store.db key = true)
    (hreceipts : ReceiptsConfirmed key system.store) (event : DraftEvent ι) :
    unconfirmed (draftStep requests system event).store.db key = true ∨
      ∃ receipt attempt, Confirmed key receipt attempt (draftStep requests system event).store := by
  cases event with
  | environment environment =>
    refine Or.inl ?_
    by_cases hkeeps : environment.Keeps system.store.db
    · -- Another process writes no reservation and no effect row.
      simp only [draftStep, hkeeps, if_true]
      exact hbefore
    · simpa only [draftStep, hkeeps, if_false] using hbefore
  | call c event =>
    cases event with
    | transaction now commit => exact transact_accounts (requests c) hbefore hreceipts now commit
    | answered answer => exact Or.inl hbefore
    | crash => exact Or.inl hbefore

theorem draftStep_accounted (requests : ι → EffectRequest) (h : Accounted key system.store)
    (event : DraftEvent ι) : Accounted key (draftStep requests system event).store := by
  refine ⟨draftStep_receipts requests h.1 event, ?_⟩
  intro hafter
  cases hbefore : unconfirmed system.store.db key with
  | false =>
    rcases h.2 hbefore with ⟨receipt, attempt, hconfirmed⟩
    exact ⟨receipt, attempt, draftStep_confirmed requests hconfirmed event⟩
  | true =>
    rcases draftStep_accounts requests hbefore h.1 event with hopen | hconfirmed
    · rw [hopen] at hafter
      cases hafter
    · exact hconfirmed

/-- In every state of every run a key is unconfirmed and without a receipt, or has one receipt, for
the object of its `CONFIRMED` row; and from there on no call changes receipt, row or completion. -/
theorem confirmed_once (requests : ι → EffectRequest) {store : Store}
    (hstart : Accounted key store) (events later : List (DraftEvent ι)) :
    Accounted key (runFrom (draftStep requests) (DraftSystem.start store) events).store ∧
      ∀ receipt ∈ receiptsOfKey
          (runFrom (draftStep requests) (DraftSystem.start store) events).store key,
        ∃ attempt, ∀ n, Confirmed key receipt attempt
          (runFrom (draftStep requests) (DraftSystem.start store) (events ++ later.take n)).store := by
  have hrun : Accounted key (runFrom (draftStep requests) (DraftSystem.start store) events).store :=
    runFrom_invariant (I := fun system : DraftSystem ι => Accounted key system.store)
      (fun _ event h => draftStep_accounted requests h event) hstart events
  refine ⟨hrun, ?_⟩
  intro receipt hreceipt
  cases hopen : unconfirmed
      (runFrom (draftStep requests) (DraftSystem.start store) events).store.db key with
  | true =>
    rw [hrun.1 hopen] at hreceipt
    cases hreceipt
  | false =>
    rcases hrun.2 hopen with ⟨only, attempt, hconfirmed⟩
    rw [hconfirmed.receipts, List.mem_singleton] at hreceipt
    subst hreceipt
    refine ⟨attempt, fun n => ?_⟩
    rw [runFrom, List.foldl_append]
    exact runFrom_invariant (I := fun system : DraftSystem ι =>
      Confirmed key receipt attempt system.store)
      (fun _ event h => draftStep_confirmed requests h event) hconfirmed _

end Runs

/-- The accepted write is kept, read back and confirmed. -/
def completedWrite : List (DraftEvent Bool) :=
  acceptedWrite ++
    [.call false (.transaction (minutes 3) .committed),
      .call false (.transaction (minutes 3) .committed),
      .call false (.answered (.object "page-1")),
      .call false (.transaction (minutes 4) .committed)]

def completedSystem : DraftSystem Bool :=
  runFrom (draftStep (fun _ : Bool => notionRequest)) (DraftSystem.start draftStore) completedWrite

/-- There is a receipt then, and the failure of the other call does not touch it. -/
theorem confirmed_once_notionKey :
    (receiptsOfKey completedSystem.store notionKey).length = 1 ∧
      Accounted notionKey completedSystem.store ∧
      ∀ receipt ∈ receiptsOfKey completedSystem.store notionKey,
        ∃ attempt, ∀ n, Confirmed notionKey receipt attempt
          (runFrom (draftStep (fun _ : Bool => notionRequest)) (DraftSystem.start draftStore)
            (completedWrite ++ staleFailure.take n)).store := by
  have hstart : Accounted notionKey draftStore := by
    refine ⟨fun _ => rfl, ?_⟩
    intro hclosed
    cases hclosed
  exact ⟨by decide +kernel,
    confirmed_once (fun _ : Bool => notionRequest) hstart completedWrite staleFailure⟩

end Application
end MoneyMachine
