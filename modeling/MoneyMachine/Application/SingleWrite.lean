import MoneyMachine.Application.DraftEffects
import MoneyMachine.Orchestration.Operations

/-!
# SingleWrite — at most one uncertain provider write for each key

The permission to write is read off the latest row of a log that every racing call appends to.  What
makes this safe is that only the call that holds the permission ever records an `ABSENT` row: as long
as it has not done so, the key is reserved and its latest row says something else, so no other call
is given the permission.

* `Held`  : the key is reserved and its latest row is not `ABSENT`;
* `Owns`  : the call was given the permission and has not given it back;
* `CallMove` : what one step of a call can do to the tables and to its own permission.

`single_uncertain_write` follows by induction over runs from the uniqueness of the owner.
-/

namespace MoneyMachine
namespace Application

open MoneyMachine.Domain
open MoneyMachine.Library
open MoneyMachine.Persistence
open MoneyMachine.Orchestration

/-! ## Held keys -/

/-- Nobody else may be given the permission to write under this key. -/
structure Held (db : Database) (key : String) : Prop where
  reserved : ∃ record ∈ db.idempotencyRecords, record.idempotencyKey = key
  latest : ∃ attempt, getLatestEffectAttempt db key = some attempt ∧ attempt.effectState ≠ .absent

section Transactions

variable {db db' : Database} {request : EffectRequest} {key : String} {now : Moment}

theorem liftError_eq_ok {α : Type} {x : Except OrchestrationError α} {a : α} :
    liftError x = .ok a ↔ x = .ok a := by
  cases x with
  | error e => simp [liftError]
  | ok b => simp [liftError]

/-- The next row of a key is its new latest one, and the only thing that changes. -/
theorem recordNext_eq_ok {effectState : EffectState} {providerObjectId : Option String}
    (h : recordNext db request key effectState providerObjectId now = .ok db') :
    (∃ attempt, getLatestEffectAttempt db' key = some attempt ∧
      attempt.effectState = effectState ∧ attempt.providerObjectId = providerObjectId) ∧
    (∀ other, other ≠ key → getLatestEffectAttempt db' other = getLatestEffectAttempt db other) ∧
    db'.idempotencyRecords = db.idempotencyRecords ∧ db'.jobs = db.jobs := by
  rcases recordEffectAttempt_eq_ok (liftError_eq_ok.1 h) with ⟨_, rfl⟩
  let row := nextAttempt db request key effectState providerObjectId now
  have habove : ∀ latest, getLatestEffectAttempt db row.idempotencyKey = some latest →
      latest.reconciliationAttempt < row.reconciliationAttempt := by
    intro latest hlatest
    have hlatest' : getLatestEffectAttempt db key = some latest := hlatest
    simp [row, nextAttempt, nextNumber, hlatest']
  refine ⟨⟨row, latest_append_of_lt habove, rfl, rfl⟩, ?_, rfl, rfl⟩
  intro other hother
  have hne : row.idempotencyKey ≠ other := hother.symm
  exact latest_append_of_ne hne

/-- Recording keeps every held key, unless it records the absence under that very key. -/
theorem Held.recordNext {effectState : EffectState} {providerObjectId : Option String}
    {other : String} (hheld : Held db other)
    (h : recordNext db request key effectState providerObjectId now = .ok db')
    (hstate : other ≠ key ∨ effectState ≠ .absent) : Held db' other := by
  rcases recordNext_eq_ok h with ⟨⟨attempt, hlatest, heffect, _⟩, hothers, hrecords, _⟩
  refine ⟨?_, ?_⟩
  · rw [hrecords]
    exact hheld.reserved
  · by_cases hsame : other = key
    · subst hsame
      refine ⟨attempt, hlatest, ?_⟩
      rw [heffect]
      rcases hstate with hne | hstate
      · exact absurd rfl hne
      · exact hstate
    · rw [hothers other hsame]
      exact hheld.latest

/-- A reserved key is held after anything but an absence was recorded under it. -/
theorem held_of_recordNext {effectState : EffectState} {providerObjectId : Option String}
    (hreserved : ∃ record ∈ db.idempotencyRecords, record.idempotencyKey = key)
    (h : recordNext db request key effectState providerObjectId now = .ok db')
    (hstate : effectState ≠ .absent) : Held db' key := by
  rcases recordNext_eq_ok h with ⟨⟨attempt, hlatest, heffect, _⟩, _, hrecords, _⟩
  refine ⟨?_, attempt, hlatest, ?_⟩
  · rw [hrecords]
    exact hreserved
  · rw [heffect]
    exact hstate

theorem scopedJob_eq_ok {job : Job} (h : scopedJob db request = .ok job) :
    db.jobs.get? request.jobId = some job := by
  unfold scopedJob at h
  cases hget : db.jobs.get? request.jobId with
  | none => simp [hget] at h
  | some row =>
    simp only [hget] at h
    split at h
    · cases h
    split at h
    · cases h
    · cases h
      rfl

theorem leasedJob_eq_ok {job : Job} (h : leasedJob db request now = .ok job) :
    db.jobs.get? request.jobId = some job := by
  rcases bind_eq_ok.1 h with ⟨row, hrow, h⟩
  split at h
  · cases h
  · cases h
    exact scopedJob_eq_ok hrow

/-- Reserving keeps what is there and leaves the key reserved. -/
theorem reserveIfFresh_eq_ok
    (h : reserveIfFresh db request key now (getIdempotencyRecord db key) = .ok db') :
    (∃ record ∈ db'.idempotencyRecords, record.idempotencyKey = key) ∧
      (∀ record ∈ db.idempotencyRecords, record ∈ db'.idempotencyRecords) ∧
        db'.effectAttempts = db.effectAttempts ∧ db'.jobs = db.jobs := by
  -- A reserved key is left alone; a fresh one is inserted.
  cases hexisting : getIdempotencyRecord db key with
  | some record =>
    rw [hexisting] at h
    cases h
    exact ⟨⟨record, Table.get?_eq_some_iff.1 hexisting⟩, fun _ h => h, rfl, rfl⟩
  | none =>
    rw [hexisting] at h
    rcases reserveIdempotencyKey_eq_ok (liftError_eq_ok.1 h) with
      ⟨record, records, hins, hkey, _, _, _, rfl⟩
    have hrows := Table.insert?_eq_some hins
    refine ⟨⟨record, ?_, hkey⟩, ?_, rfl, rfl⟩
    · rw [Table.mem_def, hrows]
      exact List.mem_append_right _ List.mem_cons_self
    · intro old hold
      rw [Table.mem_def, hrows]
      exact List.mem_append_left _ hold

/-- The key a request derives from its job's identity. -/
def DerivedKey (db : Database) (request : EffectRequest) (key : String) : Prop :=
  ∃ job ∈ db.jobs, job.id = request.jobId ∧
    key = deriveIdempotencyKey job.jobType job.workflowId job.objectId request.operationKey

/-- The first transaction: the permission is given only for a key that is not held, and giving it
makes the key held. -/
theorem beginEffect_eq_ok {claim : Claim} (h : beginEffect db request now = .ok (db', claim)) :
    DerivedKey db request claim.key ∧
      (claim.mayCreate = true → ¬ Held db claim.key ∧ Held db' claim.key) ∧
        (∀ key, Held db key → Held db' key) ∧ db'.jobs = db.jobs := by
  unfold beginEffect at h
  split at h
  · cases h
  rcases bind_eq_ok.1 h with ⟨_, _, h⟩
  rcases bind_eq_ok.1 h with ⟨job, hjob, h⟩
  rcases Table.get?_eq_some_iff.1 (leasedJob_eq_ok hjob) with ⟨hmem, hid⟩
  dsimp only at h
  split at h
  · cases h
  split at h
  · cases h
  rcases bind_eq_ok.1 h with ⟨db₁, hreserve, h⟩
  rcases reserveIfFresh_eq_ok hreserve with ⟨hreserved, hrecords, hattempts, hjobs⟩
  have hlatest : ∀ key, getLatestEffectAttempt db₁ key = getLatestEffectAttempt db key := by
    intro key
    simp [getLatestEffectAttempt, attemptsOfKey, hattempts]
  have hkeep : ∀ key, Held db key → Held db₁ key := by
    intro key hheld
    refine ⟨?_, ?_⟩
    · rcases hheld.reserved with ⟨record, hrecord, hkey⟩
      exact ⟨record, hrecords record hrecord, hkey⟩
    · rw [hlatest]
      exact hheld.latest
  split at h
  · rename_i hmay
    rcases bind_eq_ok.1 h with ⟨db₂, hrecord, h⟩
    cases h
    refine ⟨⟨job, hmem, hid, rfl⟩, fun _ => ⟨?_, ?_⟩, ?_, (recordNext_eq_ok hrecord).2.2.2.trans hjobs⟩
    · -- A held key is neither fresh nor last seen absent.
      intro hheld
      rcases hheld.reserved with ⟨record, hrecord, hkey⟩
      rcases hheld.latest with ⟨attempt, hattempt, hstate⟩
      have hexisting := Table.get?_eq_some_iff.2 ⟨hrecord, hkey⟩
      rw [hlatest] at hmay
      simp [mayCreateAfter, getIdempotencyRecord, hexisting, hattempt, hstate] at hmay
    · exact held_of_recordNext hreserved hrecord (by decide)
    · intro key hheld
      exact (hkeep key hheld).recordNext hrecord (Or.inr (by decide))
  · rename_i hmay
    cases h
    refine ⟨⟨job, hmem, hid, rfl⟩, fun hmay' => absurd hmay' hmay, hkeep, hjobs⟩

theorem preserveIdentity_eq_ok {createdId : String}
    (h : preserveIdentity db request key createdId now = .ok db') :
    (∀ other, Held db other → Held db' other) ∧ db'.jobs = db.jobs := by
  rcases bind_eq_ok.1 h with ⟨_, _, h⟩
  split at h
  · cases h
  split at h
  · cases h
  split at h
  · split at h
    · cases h
      exact ⟨fun _ hheld => hheld, rfl⟩
    · cases h
  · refine ⟨?_, (recordNext_eq_ok h).2.2.2⟩
    intro other hheld
    exact hheld.recordNext h (Or.inr (by decide))

/-- The handler's transaction keeps every held key but the one whose absence it records. -/
theorem recordFailure_eq_ok {definiteAbsence : Bool} {knownId : Option String}
    (h : recordFailure db request key definiteAbsence knownId now = .ok db') :
    (∀ other, Held db other → other ≠ key ∨ definiteAbsence = false → Held db' other) ∧
      db'.jobs = db.jobs := by
  rcases bind_eq_ok.1 h with ⟨_, _, h⟩
  split at h
  · cases h
    exact ⟨fun _ hheld _ => hheld, rfl⟩
  split at h
  · cases h
    exact ⟨fun _ hheld _ => hheld, rfl⟩
  cases definiteAbsence with
  | true =>
    refine ⟨?_, (recordNext_eq_ok h).2.2.2⟩
    intro other hheld hother
    refine hheld.recordNext h ?_
    rcases hother with hne | hfalse
    · exact Or.inl hne
    · cases hfalse
  | false =>
    refine ⟨?_, (recordNext_eq_ok h).2.2.2⟩
    intro other hheld _
    exact hheld.recordNext h (Or.inr (by decide))

theorem markIdempotencyCompleted_held
    (h : markIdempotencyCompleted db key now = .ok db') :
    (∀ other, Held db other → Held db' other) ∧ db'.jobs = db.jobs := by
  rcases markIdempotencyCompleted_eq_ok h with ⟨hid, rfl⟩
  refine ⟨?_, rfl⟩
  intro other hheld
  rcases hheld.reserved with ⟨record, hrecord, hkey⟩
  rcases Table.exists_mem_modify hid hrecord with ⟨record', hrecord', hkey'⟩
  exact ⟨⟨record', hrecord', hkey'.trans hkey⟩, hheld.latest⟩

theorem confirmEffect_eq_ok {store store' : Store} {objectId : String}
    (h : confirmEffect store request key objectId now = .ok store') :
    (∀ other, Held store.db other → Held store'.db other) ∧ store'.db.jobs = store.db.jobs := by
  rcases bind_eq_ok.1 h with ⟨_, _, h⟩
  split at h
  · cases h
  split at h
  · cases h
    exact ⟨fun _ hheld => hheld, rfl⟩
  · rcases bind_eq_ok.1 h with ⟨db₁, hrecord, h⟩
    rcases bind_eq_ok.1 h with ⟨receipts, _, h⟩
    rcases bind_eq_ok.1 h with ⟨db₂, hmark, h⟩
    cases h
    rcases markIdempotencyCompleted_held (liftError_eq_ok.1 hmark) with ⟨hheld₂, hjobs₂⟩
    refine ⟨?_, hjobs₂.trans (recordNext_eq_ok hrecord).2.2.2⟩
    intro other hheld
    exact hheld₂ other (hheld.recordNext hrecord (Or.inr (by decide)))

end Transactions

/-! ## One call -/

/-- The call was given the permission to write and has not given it back. -/
def Owns (call : Call) (key : String) : Prop :=
  call.mayCreate = true ∧ call.key = some key ∧ call.released = false

/-- A `create()` of this call was started, and it did not end in a `DraftRunRefused`. -/
def UncertainWrite (call : Call) : Prop :=
  call.mutationStarted = true ∧ call.createRefused = false

/-- What holds of the locals at each place of the function. -/
def PhaseOk (call : Call) : Prop :=
  match call.phase with
  | .idle => call = Call.initial
  | .reconciling => call.mutationStarted = false ∧ call.createReturned = false
  | .rechecking =>
    call.mutationStarted = false ∧ call.createReturned = false ∧ call.mayCreate = true
  | .creating => call.createReturned = false
  | .preserving _ => call.createReturned = true
  | .relocking _ => call.createReturned = true
  | .readingBack _ => call.createReturned = true
  | .failing error =>
    call.mutationStarted = true → error.isRefused = true → call.createReturned = false →
      call.createRefused = true
  | _ => True

structure CallOk (call : Call) : Prop where
  /-- Only a call with the permission starts the write. -/
  started : call.mutationStarted = true → call.mayCreate = true
  keyed : call.mayCreate = true → call.key.isSome = true
  /-- The permission is given back at the end, and never after an uncertain write. -/
  released : call.released = true → call.phase.finished = true ∧ ¬ UncertainWrite call
  phase : PhaseOk call

theorem initial_ok : CallOk Call.initial :=
  { started := by simp [Call.initial]
    keyed := by simp [Call.initial]
    released := by simp [Call.initial]
    phase := rfl }

/-- An uncertain write is one whose call still holds the permission. -/
theorem CallOk.owns {call : Call} (h : CallOk call) (hwrite : UncertainWrite call) {key : String}
    (hkey : call.key = some key) : Owns call key := by
  refine ⟨h.started hwrite.1, hkey, ?_⟩
  cases hreleased : call.released with
  | false => rfl
  | true => exact absurd hwrite (h.released hreleased).2

/-- Everything a step of a call can do: leave its permission as it is, be given it, or give it
back.  The jobs are not written. -/
inductive CallMove (request : EffectRequest) (store : Store) (call : Call) :
    Store → Call → Prop
  | keeps {store' : Store} {call' : Call} (hkey : call'.key = call.key)
      (hmay : call'.mayCreate = call.mayCreate) (hreleased : call'.released = call.released)
      (hheld : ∀ key, Held store.db key → Held store'.db key)
      (hjobs : store'.db.jobs = store.db.jobs) : CallMove request store call store' call'
  | claims {store' : Store} {call' : Call} {claim : Claim} (hkey : call'.key = some claim.key)
      (hmay : call'.mayCreate = claim.mayCreate)
      (hderived : DerivedKey store.db request claim.key)
      (hgiven : claim.mayCreate = true →
        ¬ Held store.db claim.key ∧ Held store'.db claim.key)
      (hheld : ∀ key, Held store.db key → Held store'.db key)
      (hjobs : store'.db.jobs = store.db.jobs) : CallMove request store call store' call'
  | releases {store' : Store} {call' : Call} (hmay : call.mayCreate = true)
      (hbefore : call.released = false) (hkey : call'.key = call.key)
      (hreleased : call'.released = true)
      (hheld : ∀ key, Held store.db key → call.key ≠ some key → Held store'.db key)
      (hjobs : store'.db.jobs = store.db.jobs) : CallMove request store call store' call'

section Calls

variable {request : EffectRequest} {store : Store} {call : Call}

theorem CallOk.not_released (h : CallOk call) (hrunning : call.phase.finished = false) :
    call.released = false := by
  cases hreleased : call.released with
  | false => rfl
  | true =>
    have hfinished := (h.released hreleased).1
    rw [hrunning] at hfinished
    cases hfinished

/-- Going to another place with the same locals. -/
theorem CallOk.goto (h : CallOk call) (hrunning : call.phase.finished = false) {phase : Phase}
    (hphase : PhaseOk { call with phase := phase }) : CallOk { call with phase := phase } :=
  { started := h.started
    keyed := h.keyed
    released := by
      intro hreleased
      have hfalse : call.released = true := hreleased
      rw [h.not_released hrunning] at hfalse
      cases hfalse
    phase := hphase }

/-- Before the write nothing was started, and after it `create()` has returned: an error there is
not a refusal of the write. -/
theorem CallOk.fails (h : CallOk call) (hrunning : call.phase.finished = false)
    (hlate : call.mutationStarted = true → call.createReturned = true) (error : DraftEffectError) :
    CallOk { call with phase := .failing error } := by
  refine h.goto hrunning ?_
  intro hstarted _ hreturned
  exact absurd (hlate hstarted) (by simpa using hreturned)

/-- The call moved and its permission did not. -/
theorem CallMove.of_locals {store' : Store} {call' : Call} (hkey : call'.key = call.key)
    (hmay : call'.mayCreate = call.mayCreate) (hreleased : call'.released = call.released)
    (h : store' = store) : CallMove request store call store' call' := by
  subst h
  exact CallMove.keeps hkey hmay hreleased (fun _ hheld => hheld) rfl

/-- A transaction inside the `try` block that keeps every held key. -/
theorem inTry_spec (h : CallOk call) (hrunning : call.phase.finished = false)
    (hlate : call.mutationStarted = true → call.createReturned = true) {next : Call}
    (hnext : CallOk next) (hkey : next.key = call.key) (hmay : next.mayCreate = call.mayCreate)
    (hreleased : next.released = call.released) {result : Except DraftEffectError Store}
    (hresult : ∀ store', result = .ok store' →
      (∀ key, Held store.db key → Held store'.db key) ∧ store'.db.jobs = store.db.jobs)
    (commit : Commit) :
    CallOk (inTry store call next commit result).2 ∧
      CallMove request store call (inTry store call next commit result).1
        (inTry store call next commit result).2 := by
  have hfails := h.fails hrunning hlate
  cases result with
  | error error => exact ⟨hfails error, CallMove.of_locals rfl rfl rfl rfl⟩
  | ok store' =>
    rcases hresult store' rfl with ⟨hheld, hjobs⟩
    cases commit with
    | committed => exact ⟨hnext, CallMove.keeps hkey hmay hreleased hheld hjobs⟩
    | lost => exact ⟨hfails .other, CallMove.keeps rfl rfl rfl hheld hjobs⟩
    | aborted => exact ⟨hfails .other, CallMove.of_locals rfl rfl rfl rfl⟩

/-! ### One case per place -/

theorem begin_spec (h : CallOk call) (hidle : call.phase = .idle) (now : Moment)
    (commit : Commit) :
    CallOk (call.transact request store now commit).2 ∧
      CallMove request store call (call.transact request store now commit).1
        (call.transact request store now commit).2 := by
  have hinitial : call = Call.initial := by
    have hphase := h.phase
    simpa [PhaseOk, hidle] using hphase
  subst hinitial
  have hraised : ∀ error, CallOk { Call.initial with phase := .raised error } :=
    fun error => h.goto rfl trivial
  simp only [Call.transact, hidle]
  cases hbegin : beginEffect store.db request now with
  | error error => exact ⟨hraised error, CallMove.of_locals rfl rfl rfl rfl⟩
  | ok begun =>
    rcases begun with ⟨db, claim⟩
    rcases beginEffect_eq_ok hbegin with ⟨hderived, hgiven, hheld, hjobs⟩
    have hclaimed : ∀ phase, phase = .reconciling ∨ phase = .raised .other →
        CallOk { Call.initial.claimed claim with phase := phase } := by
      intro phase hphase
      refine ⟨by simp [Call.claimed, Call.initial], by simp [Call.claimed],
        by simp [Call.claimed, Call.initial], ?_⟩
      rcases hphase with rfl | rfl
      · exact ⟨rfl, rfl⟩
      · exact trivial
    cases commit with
    | committed =>
      exact ⟨hclaimed .reconciling (Or.inl rfl),
        CallMove.claims rfl rfl hderived hgiven hheld hjobs⟩
    | lost =>
      exact ⟨hclaimed (.raised .other) (Or.inr rfl),
        CallMove.claims rfl rfl hderived hgiven hheld hjobs⟩
    | aborted => exact ⟨hraised .other, CallMove.of_locals rfl rfl rfl rfl⟩

/-- The handler: it gives the permission back only when the write was not started or was refused. -/
theorem fail_spec (h : CallOk call) {error : DraftEffectError} (hfailing : call.phase = .failing error)
    (now : Moment) (commit : Commit) :
    CallOk (call.transact request store now commit).2 ∧
      CallMove request store call (call.transact request store now commit).1
        (call.transact request store now commit).2 := by
  have hrunning : call.phase.finished = false := by simp [hfailing, Phase.finished]
  have hbefore : call.released = false := h.not_released hrunning
  have hraised : ∀ error', CallOk { call with phase := .raised error' } :=
    fun error' => h.goto hrunning trivial
  have hreleases : ∀ error', CallOk
      { call with phase := .raised error', released := call.definiteAbsence error } := by
    intro error'
    refine ⟨h.started, h.keyed, ?_, trivial⟩
    intro habsence
    refine ⟨rfl, ?_⟩
    rintro ⟨hstarted, hrefused⟩
    have hphase := h.phase
    simp only [PhaseOk, hfailing] at hphase
    simp only [Call.definiteAbsence, Bool.and_eq_true, Bool.or_eq_true, Bool.not_eq_true'] at habsence
    -- Either nothing was started, or `create()` itself raised the refusal.
    rcases habsence with ⟨_, hnot | ⟨hisRefused, hreturned⟩⟩
    · have hnot' : call.mutationStarted = false := hnot
      have hstarted' : call.mutationStarted = true := hstarted
      simp [hnot'] at hstarted'
    · have hcreateRefused := hphase hstarted hisRefused hreturned
      have hrefused' : call.createRefused = false := hrefused
      simp [hcreateRefused] at hrefused'
  simp only [Call.transact, hfailing]
  cases hfail : recordFailure store.db request (call.key.getD "") (call.definiteAbsence error)
      call.knownId now with
  | error error' => exact ⟨hraised error', CallMove.of_locals rfl rfl rfl rfl⟩
  | ok db =>
    rcases recordFailure_eq_ok hfail with ⟨hheld, hjobs⟩
    have hmove : ∀ error', CallMove request store call { store with db := db }
        { call with phase := .raised error', released := call.definiteAbsence error } := by
      intro error'
      cases habsence : call.definiteAbsence error with
      | false =>
        exact CallMove.keeps rfl rfl hbefore.symm
          (fun key hkey => hheld key hkey (Or.inr habsence)) hjobs
      | true =>
        have hmay : call.mayCreate = true := by
          simp only [Call.definiteAbsence, Bool.and_eq_true] at habsence
          exact habsence.1
        rcases Option.isSome_iff_exists.1 (h.keyed hmay) with ⟨own, hown⟩
        -- The absence is recorded under the call's own key and no other.
        refine CallMove.releases hmay hbefore rfl rfl ?_ hjobs
        intro key hkey hne
        refine hheld key hkey (Or.inl ?_)
        intro heq
        exact hne (by simp [hown, heq])
    cases commit with
    | committed => exact ⟨hreleases _, hmove _⟩
    -- Recorded without the call knowing: the permission is gone all the same.
    | lost => exact ⟨hreleases _, hmove _⟩
    | aborted => exact ⟨hraised .other, CallMove.of_locals rfl rfl rfl rfl⟩

theorem confirm_spec (h : CallOk call) {objectId : String}
    (hconfirming : call.phase = .confirming objectId) (now : Moment) (commit : Commit) :
    CallOk (call.transact request store now commit).2 ∧
      CallMove request store call (call.transact request store now commit).1
        (call.transact request store now commit).2 := by
  have hrunning : call.phase.finished = false := by simp [hconfirming, Phase.finished]
  have hraised : ∀ error, CallOk { call with phase := .raised error } :=
    fun error => h.goto hrunning trivial
  have hreturned : CallOk { call with phase := .returned objectId } := h.goto hrunning trivial
  simp only [Call.transact, hconfirming]
  cases hconfirm : confirmEffect store request (call.key.getD "") objectId now with
  | error error => exact ⟨hraised error, CallMove.of_locals rfl rfl rfl rfl⟩
  | ok store' =>
    rcases confirmEffect_eq_ok hconfirm with ⟨hheld, hjobs⟩
    cases commit with
    | committed => exact ⟨hreturned, CallMove.keeps rfl rfl rfl hheld hjobs⟩
    | lost => exact ⟨hraised .other, CallMove.keeps rfl rfl rfl hheld hjobs⟩
    | aborted => exact ⟨hraised .other, CallMove.of_locals rfl rfl rfl rfl⟩

/-- A read inside the `try` block changes nothing. -/
theorem kept_of_map {α : Type} {x : Except DraftEffectError α} {store' : Store}
    (h : x.map (fun _ => store) = .ok store') :
    (∀ key, Held store.db key → Held store'.db key) ∧ store'.db.jobs = store.db.jobs := by
  rcases map_eq_ok.1 h with ⟨_, _, rfl⟩
  exact ⟨fun _ hheld => hheld, rfl⟩

theorem transact_spec (h : CallOk call) (now : Moment) (commit : Commit) :
    CallOk (call.transact request store now commit).2 ∧
      CallMove request store call (call.transact request store now commit).1
        (call.transact request store now commit).2 := by
  have hstays : call.transact request store now commit = (store, call) →
      CallOk (call.transact request store now commit).2 ∧
        CallMove request store call (call.transact request store now commit).1
          (call.transact request store now commit).2 := by
    intro hsame
    rw [hsame]
    exact ⟨h, CallMove.of_locals rfl rfl rfl rfl⟩
  have hphase := h.phase
  cases hat : call.phase with
  | idle => exact begin_spec h hat now commit
  | rechecking =>
    simp only [PhaseOk, hat] at hphase
    rcases hphase with ⟨hstarted, hreturned, hmay⟩
    have hrunning : call.phase.finished = false := by simp [hat, Phase.finished]
    have hnext : CallOk { call with phase := .creating, mutationStarted := true } :=
      { started := fun _ => hmay
        keyed := h.keyed
        released := by
          intro hreleased
          have hfalse : call.released = true := hreleased
          rw [h.not_released hrunning] at hfalse
          cases hfalse
        phase := hreturned }
    simp only [Call.transact, hat]
    exact inTry_spec h hrunning (fun hs => absurd hs (by simp [hstarted])) hnext rfl rfl rfl
      (fun _ hok => kept_of_map hok) commit
  | preserving createdId =>
    simp only [PhaseOk, hat] at hphase
    have hrunning : call.phase.finished = false := by simp [hat, Phase.finished]
    have hnext : CallOk { call with phase := .relocking createdId } := h.goto hrunning hphase
    simp only [Call.transact, hat]
    refine inTry_spec h hrunning (fun _ => hphase) hnext rfl rfl rfl ?_ commit
    intro store' hok
    rcases map_eq_ok.1 hok with ⟨db, hpreserve, rfl⟩
    exact preserveIdentity_eq_ok hpreserve
  | relocking createdId =>
    simp only [PhaseOk, hat] at hphase
    have hrunning : call.phase.finished = false := by simp [hat, Phase.finished]
    have hnext : CallOk { call with phase := .readingBack createdId } := h.goto hrunning hphase
    simp only [Call.transact, hat]
    exact inTry_spec h hrunning (fun _ => hphase) hnext rfl rfl rfl
      (fun _ hok => kept_of_map hok) commit
  | failing error => exact fail_spec h hat now commit
  | confirming objectId => exact confirm_spec h hat now commit
  | reconciling => exact hstays (by simp [Call.transact, hat])
  | creating => exact hstays (by simp [Call.transact, hat])
  | readingBack createdId => exact hstays (by simp [Call.transact, hat])
  | returned objectId => exact hstays (by simp [Call.transact, hat])
  | raised error => exact hstays (by simp [Call.transact, hat])
  | crashed => exact hstays (by simp [Call.transact, hat])

/-- Observing an object ends the `try` block one way or the other. -/
theorem observe_ok (h : CallOk call) (hrunning : call.phase.finished = false)
    (hlate : call.mutationStarted = true → call.createReturned = true) (objectId : String) :
    CallOk (call.observe objectId) := by
  unfold Call.observe
  split
  · exact h.fails hrunning hlate _
  · exact h.goto hrunning trivial

theorem observe_frame (call : Call) (objectId : String) :
    (call.observe objectId).key = call.key ∧ (call.observe objectId).mayCreate = call.mayCreate ∧
      (call.observe objectId).released = call.released := by
  unfold Call.observe
  split <;> exact ⟨rfl, rfl, rfl⟩

theorem receive_ok (h : CallOk call) (answer : Answer) : CallOk (call.receive answer) := by
  have hphase := h.phase
  cases hat : call.phase with
  | reconciling =>
    simp only [PhaseOk, hat] at hphase
    rcases hphase with ⟨hstarted, hreturned⟩
    have hrunning : call.phase.finished = false := by simp [hat, Phase.finished]
    have hlate : call.mutationStarted = true → call.createReturned = true := by simp [hstarted]
    have hfails := h.fails hrunning hlate
    cases answer with
    | none =>
      simp only [Call.receive, hat]
      by_cases hmay : call.mayCreate = true
      · have hnext : CallOk { call with phase := .rechecking } :=
          h.goto hrunning ⟨hstarted, hreturned, hmay⟩
        rw [if_pos hmay]
        exact hnext
      · rw [if_neg hmay]
        exact hfails _
    | object id =>
      simp only [Call.receive, hat]
      exact observe_ok h hrunning hlate id
    | malformed =>
      simp only [Call.receive, hat]
      exact hfails _
    | raised error =>
      simp only [Call.receive, hat]
      exact hfails _
  | creating =>
    simp only [PhaseOk, hat] at hphase
    have hrunning : call.phase.finished = false := by simp [hat, Phase.finished]
    have hreleased : ¬ call.released = true := by simp [h.not_released hrunning]
    cases answer with
    | none =>
      simp only [Call.receive, hat]
      exact ⟨h.started, h.keyed, fun hr => absurd hr hreleased, by simp [PhaseOk]⟩
    | object id =>
      by_cases hempty : id = ""
      · simp only [Call.receive, hat, hempty, if_true]
        exact ⟨h.started, h.keyed, fun hr => absurd hr hreleased, by simp [PhaseOk]⟩
      · simp only [Call.receive, hat, hempty, if_false]
        exact ⟨h.started, h.keyed, fun hr => absurd hr hreleased, by simp [PhaseOk]⟩
    | malformed =>
      simp only [Call.receive, hat]
      exact ⟨h.started, h.keyed, fun hr => absurd hr hreleased, by simp [PhaseOk]⟩
    | raised error =>
      simp only [Call.receive, hat]
      refine ⟨h.started, h.keyed, fun hr => absurd hr hreleased, ?_⟩
      intro _ hrefused _
      exact hrefused
  | readingBack createdId =>
    simp only [PhaseOk, hat] at hphase
    have hrunning : call.phase.finished = false := by simp [hat, Phase.finished]
    have hfails := h.fails hrunning (fun _ => hphase)
    cases answer with
    | none =>
      simp only [Call.receive, hat]
      exact hfails _
    | object id =>
      by_cases hsame : id = createdId
      · simp only [Call.receive, hat, hsame, if_true]
        exact observe_ok h hrunning (fun _ => hphase) createdId
      · simp only [Call.receive, hat, hsame, if_false]
        exact hfails _
    | malformed =>
      simp only [Call.receive, hat]
      exact hfails _
    | raised error =>
      simp only [Call.receive, hat]
      exact hfails _
  | idle | rechecking | preserving createdId | relocking createdId | failing error
  | confirming objectId | returned objectId | raised error | crashed =>
    simpa [Call.receive, hat] using h

/-- An answer does not touch the permission. -/
theorem receive_frame (call : Call) (answer : Answer) :
    (call.receive answer).key = call.key ∧ (call.receive answer).mayCreate = call.mayCreate ∧
      (call.receive answer).released = call.released := by
  unfold Call.receive
  cases call.phase with
  | reconciling =>
    cases answer with
    | none => by_cases hmay : call.mayCreate = true <;> simp [hmay]
    | object id => exact observe_frame call id
    | malformed => exact ⟨rfl, rfl, rfl⟩
    | raised error => exact ⟨rfl, rfl, rfl⟩
  | creating =>
    cases answer with
    | object id => by_cases hempty : id = "" <;> simp [hempty]
    | none => exact ⟨rfl, rfl, rfl⟩
    | malformed => exact ⟨rfl, rfl, rfl⟩
    | raised error => exact ⟨rfl, rfl, rfl⟩
  | readingBack createdId =>
    cases answer with
    | object id =>
      by_cases hsame : id = createdId
      · simpa [hsame] using observe_frame call createdId
      · simp [hsame]
    | none => exact ⟨rfl, rfl, rfl⟩
    | malformed => exact ⟨rfl, rfl, rfl⟩
    | raised error => exact ⟨rfl, rfl, rfl⟩
  | idle | rechecking | preserving createdId | relocking createdId | failing error
  | confirming objectId | returned objectId | raised error | crashed => exact ⟨rfl, rfl, rfl⟩

/-- Every step of a call is a move, and keeps what holds of its locals. -/
theorem callStep_spec (request : EffectRequest) (store : Store) (h : CallOk call)
    (event : CallEvent) :
    CallOk (callStep request store call event).2 ∧
      CallMove request store call (callStep request store call event).1
        (callStep request store call event).2 := by
  cases event with
  | transaction now commit => exact transact_spec h now commit
  | answered answer =>
    rcases receive_frame call answer with ⟨hkey, hmay, hreleased⟩
    exact ⟨receive_ok h answer, CallMove.of_locals hkey hmay hreleased rfl⟩
  | crash =>
    by_cases hfinished : call.phase.finished = true
    · simpa [callStep, hfinished] using
        (⟨h, CallMove.of_locals rfl rfl rfl rfl⟩ :
          CallOk call ∧ CallMove request store call store call)
    · have hrunning : call.phase.finished = false := by simpa using hfinished
      have hcrashed : CallOk { call with phase := .crashed } := h.goto hrunning trivial
      simp only [callStep, hrunning]
      exact ⟨hcrashed, CallMove.of_locals rfl rfl rfl rfl⟩

end Calls

/-! ## Any number of calls -/

/-- Every key has at most one owner, and an owned key is held. -/
structure SingleOwner {ι : Type} (requests : ι → EffectRequest) (system : DraftSystem ι) :
    Prop where
  ok : ∀ c, CallOk (system.calls c)
  held : ∀ c key, Owns (system.calls c) key → Held system.store.db key
  unique : ∀ c c' key, Owns (system.calls c) key → Owns (system.calls c') key → c = c'
  derived : ∀ c key, (system.calls c).key = some key →
    DerivedKey system.store.db (requests c) key

theorem DerivedKey.of_jobs_eq {db db' : Database} {request : EffectRequest} {key : String}
    (h : DerivedKey db request key) (hjobs : db'.jobs = db.jobs) : DerivedKey db' request key := by
  rcases h with ⟨job, hmem, hid, hkey⟩
  exact ⟨job, hjobs ▸ hmem, hid, hkey⟩

section System

variable {ι : Type} [DecidableEq ι] {requests : ι → EffectRequest} {system : DraftSystem ι}

omit [DecidableEq ι] in
theorem start_singleOwner (store : Store) :
    SingleOwner requests (DraftSystem.start store : DraftSystem ι) :=
  { ok := fun _ => initial_ok
    held := by
      intro c key howns
      cases howns.1
    unique := by
      intro c c' key howns
      cases howns.1
    derived := by
      intro c key hkey
      cases hkey }

omit [DecidableEq ι] in
/-- The environment does not touch the reservations and the log, and keeps the jobs' identity. -/
theorem environment_singleOwner (h : SingleOwner requests system) {environment : Environment}
    (hkeeps : environment.Keeps system.store.db) :
    SingleOwner requests
      { system with
        store := { system.store with db := environment.write system.store.db } } :=
  { ok := h.ok
    held := by
      intro c key howns
      rcases h.held c key howns with ⟨hreserved, hlatest⟩
      exact ⟨hreserved, hlatest⟩
    unique := h.unique
    derived := by
      intro c key hkey
      rcases h.derived c key hkey with ⟨job, hmem, hid, hderived⟩
      rcases hkeeps job hmem with ⟨job', hmem', hid', htype, hworkflow, hobject⟩
      exact ⟨job', hmem', hid'.trans hid, by rw [htype, hworkflow, hobject, hderived]⟩ }

/-- One call moves: the owners of the other calls stay, and its own permission follows the move. -/
theorem move_singleOwner (h : SingleOwner requests system) {c : ι} {store : Store} {call : Call}
    (hok : CallOk call) (hmove : CallMove (requests c) system.store (system.calls c) store call) :
    SingleOwner requests { store := store, calls := Function.update system.calls c call } := by
  let moved : DraftSystem ι := { store := store, calls := Function.update system.calls c call }
  have hothers : ∀ c', c' ≠ c → moved.calls c' = system.calls c' :=
    fun c' hne => Function.update_of_ne hne call system.calls
  have hself : moved.calls c = call := Function.update_self c call system.calls
  -- What the moving call owns afterwards nobody else owns, and it is held.
  have hmine : ∀ key, Owns call key → Held store.db key ∧
      ∀ c', c' ≠ c → ¬ Owns (system.calls c') key := by
    intro key howns
    cases hmove with
    | keeps hkey hmay hreleased hheld hjobs =>
      have hbefore : Owns (system.calls c) key :=
        ⟨hmay ▸ howns.1, hkey ▸ howns.2.1, hreleased ▸ howns.2.2⟩
      refine ⟨hheld key (h.held c key hbefore), ?_⟩
      intro c' hne howns'
      exact hne (h.unique c' c key howns' hbefore)
    | claims hkey hmay hderived hgiven hheld hjobs =>
      have hclaim := Option.some.inj (hkey.symm.trans howns.2.1)
      rcases hgiven (hmay ▸ howns.1) with ⟨hfree, hnow⟩
      rw [hclaim] at hfree hnow
      refine ⟨hnow, ?_⟩
      intro c' _ howns'
      exact hfree (h.held c' key howns')
    | releases hmay hbefore hkey hreleased hheld hjobs =>
      have hkept := howns.2.2
      rw [hreleased] at hkept
      cases hkept
  -- What the others own stays held: an absence is recorded only under the mover's own key.
  have htheirs : ∀ c' key, c' ≠ c → Owns (system.calls c') key → Held store.db key := by
    intro c' key hne howns
    have hbefore := h.held c' key howns
    cases hmove with
    | keeps hkey hmay hreleased hheld hjobs => exact hheld key hbefore
    | claims hkey hmay hderived hgiven hheld hjobs => exact hheld key hbefore
    | releases hmay hnot hkey hreleased hheld hjobs =>
      refine hheld key hbefore ?_
      intro hown
      exact hne (h.unique c' c key howns ⟨hmay, hown, hnot⟩)
  have hjobs : store.db.jobs = system.store.db.jobs := by
    cases hmove with
    | keeps hkey hmay hreleased hheld hjobs => exact hjobs
    | claims hkey hmay hderived hgiven hheld hjobs => exact hjobs
    | releases hmay hnot hkey hreleased hheld hjobs => exact hjobs
  show SingleOwner requests moved
  refine ⟨?_, ?_, ?_, ?_⟩
  · intro c'
    by_cases hc : c' = c
    · rw [hc, hself]
      exact hok
    · rw [hothers c' hc]
      exact h.ok c'
  · intro c' key howns
    by_cases hc : c' = c
    · rw [hc, hself] at howns
      exact (hmine key howns).1
    · rw [hothers c' hc] at howns
      exact htheirs c' key hc howns
  · intro c₁ c₂ key howns₁ howns₂
    by_cases hc₁ : c₁ = c
    · by_cases hc₂ : c₂ = c
      · exact hc₁.trans hc₂.symm
      · rw [hc₁, hself] at howns₁
        rw [hothers c₂ hc₂] at howns₂
        exact absurd howns₂ ((hmine key howns₁).2 c₂ hc₂)
    · rw [hothers c₁ hc₁] at howns₁
      by_cases hc₂ : c₂ = c
      · rw [hc₂, hself] at howns₂
        exact absurd howns₁ ((hmine key howns₂).2 c₁ hc₁)
      · rw [hothers c₂ hc₂] at howns₂
        exact h.unique c₁ c₂ key howns₁ howns₂
  · intro c' key hkey'
    by_cases hc : c' = c
    · subst hc
      rw [hself] at hkey'
      cases hmove with
      | keeps hkey hmay hreleased hheld hjobs =>
        exact (h.derived c' key (hkey.symm.trans hkey')).of_jobs_eq hjobs
      | claims hkey hmay hderived hgiven hheld hjobs =>
        have hclaim := Option.some.inj (hkey.symm.trans hkey')
        exact hclaim ▸ hderived.of_jobs_eq hjobs
      | releases hmay hnot hkey hreleased hheld hjobs =>
        exact (h.derived c' key (hkey.symm.trans hkey')).of_jobs_eq hjobs
    · rw [hothers c' hc] at hkey'
      exact (h.derived c' key hkey').of_jobs_eq hjobs

theorem draftStep_singleOwner (system : DraftSystem ι) (event : DraftEvent ι)
    (h : SingleOwner requests system) : SingleOwner requests (draftStep requests system event) := by
  cases event with
  | call c event =>
    rcases callStep_spec (requests c) system.store (h.ok c) event with ⟨hok, hmove⟩
    exact move_singleOwner h hok hmove
  | environment environment =>
    by_cases hkeeps : environment.Keeps system.store.db
    · simpa [draftStep, hkeeps] using environment_singleOwner h hkeeps
    · simpa [draftStep, hkeeps] using h

/-! ## The result -/

/-- The two calls are for one operation key of one job. -/
def SameOperation (request request' : EffectRequest) : Prop :=
  request.jobId = request'.jobId ∧ request.operationKey = request'.operationKey

/-- One operation key of one job has one derived key. -/
theorem DerivedKey.unique {db : Database} {request request' : EffectRequest} {key key' : String}
    (h : DerivedKey db request key) (h' : DerivedKey db request' key')
    (hsame : SameOperation request request') : key = key' := by
  rcases h with ⟨job, hmem, hid, rfl⟩
  rcases h' with ⟨job', hmem', hid', rfl⟩
  have hjob : job = job' :=
    Table.eq_of_key_eq hmem hmem' (hid.trans (hsame.1.trans hid'.symm))
  rw [hjob, hsame.2]

omit [DecidableEq ι] in
/-- An uncertain write holds the derived key of its operation. -/
theorem SingleOwner.owned (h : SingleOwner requests system) {c : ι}
    (hwrite : UncertainWrite (system.calls c)) :
    ∃ key, Owns (system.calls c) key ∧ DerivedKey system.store.db (requests c) key := by
  have hmay : (system.calls c).mayCreate = true := (h.ok c).started hwrite.1
  rcases Option.isSome_iff_exists.1 ((h.ok c).keyed hmay) with ⟨key, hkey⟩
  exact ⟨key, (h.ok c).owns hwrite hkey, h.derived c key hkey⟩

/-- In every run of any number of calls, at most one call for an operation key of a job has started
a `create()` that was not refused, and from then on no call for it is given the permission. -/
theorem single_uncertain_write (requests : ι → EffectRequest) (store : Store)
    (events : List (DraftEvent ι)) :
    let system := runFrom (draftStep requests) (DraftSystem.start store) events
    (∀ c c', SameOperation (requests c) (requests c') → UncertainWrite (system.calls c) →
      UncertainWrite (system.calls c') → c = c') ∧
    ∀ c c', SameOperation (requests c) (requests c') → UncertainWrite (system.calls c) →
      (system.calls c').phase = .idle → ∀ event,
        ((draftStep requests system (.call c' event)).calls c').mayCreate = false := by
  intro system
  have h : SingleOwner requests system :=
    runFrom_invariant draftStep_singleOwner (start_singleOwner store) events
  constructor
  · intro c c' hsame hwrite hwrite'
    rcases h.owned hwrite with ⟨key, howns, hderived⟩
    rcases h.owned hwrite' with ⟨key', howns', hderived'⟩
    have hkey : key = key' := hderived.unique hderived' hsame
    exact h.unique c c' key howns (hkey ▸ howns')
  · intro c c' hsame hwrite hidle event
    rcases h.owned hwrite with ⟨key, howns, hderived⟩
    have hinitial : system.calls c' = Call.initial := by
      have hphase := (h.ok c').phase
      simpa [PhaseOk, hidle] using hphase
    have hmove := (callStep_spec (requests c') system.store (h.ok c') event).2
    have hcall : (draftStep requests system (.call c' event)).calls c' =
        (callStep (requests c') system.store (system.calls c') event).2 :=
      Function.update_self c' _ _
    rw [hcall]
    -- The permission would be given for a key that an uncertain write holds.
    cases hmay : (callStep (requests c') system.store (system.calls c') event).2.mayCreate with
    | false => rfl
    | true =>
      cases hmove with
      | keeps hkey hsameMay hreleased hheld hjobs =>
        rw [hsameMay, hinitial] at hmay
        cases hmay
      | claims hkey hclaimMay hderived' hgiven hheld hjobs =>
        have hkey' := hderived.unique hderived' hsame
        have hfree := (hgiven (hclaimMay ▸ hmay)).1
        exact absurd (h.held c key howns) (hkey' ▸ hfree)
      | releases hbefore hnot hkey hreleased hheld hjobs =>
        rw [hinitial] at hbefore
        cases hbefore

end System

/-! ## Two calls of one job -/

def notionRequest : EffectRequest :=
  { authority :=
      { runId := "run-1"
        productId := 7
        verifiedShopId := none
        verifiedNotionParentId := some 5 }
    jobId := 1
    leaseOwner := "worker-1"
    operationKey := "page"
    provider := "notion"
    operation := "notion.private_product.write"
    notionParentId := some 5
    shopId := none }

/-- The sample job, leased and scoped to the run. -/
def draftJob : Job :=
  { sampleJob .running .reconcileFirst "A07" 3 with
    input := .obj [("run_id", .str "run-1")]
    allowedMode := .draft
    leaseOwner := some "worker-1"
    leaseExpiresAt := some (minutes 5)
    heartbeatAt := some 0 }

def draftStore : Store :=
  { db :=
      { sampleDatabase draftJob (by simp [draftJob, sampleJob, Job.WithinBudget]) with
        shops := [⟨9, "QuietlyBuiltStudio"⟩] }
    receipts := [] }

/-- The first call claims the effect, finds nothing and starts its write. -/
def startedWrite : List (DraftEvent Bool) :=
  [.call false (.transaction (minutes 1) .committed),
    .call false (.answered .none),
    .call false (.transaction (minutes 2) .committed)]

/-- While the write is on its way, a second call may only read. -/
theorem single_uncertain_write_startedWrite :
    let system := runFrom (draftStep (fun _ : Bool => notionRequest))
      (DraftSystem.start draftStore) startedWrite
    UncertainWrite (system.calls false) ∧
      ((draftStep (fun _ : Bool => notionRequest) system
        (.call true (.transaction (minutes 3) .committed))).calls true).mayCreate = false := by
  have hstarted : ((runFrom (draftStep (fun _ : Bool => notionRequest))
      (DraftSystem.start draftStore) startedWrite).calls false).mutationStarted = true := by
    decide +kernel
  have hrefused : ((runFrom (draftStep (fun _ : Bool => notionRequest))
      (DraftSystem.start draftStore) startedWrite).calls false).createRefused = false := by
    decide +kernel
  have hidle : ((runFrom (draftStep (fun _ : Bool => notionRequest))
      (DraftSystem.start draftStore) startedWrite).calls true).phase = .idle := by
    decide +kernel
  have hall := (single_uncertain_write (fun _ : Bool => notionRequest) draftStore startedWrite).2
  exact ⟨⟨hstarted, hrefused⟩,
    hall false true ⟨rfl, rfl⟩ ⟨hstarted, hrefused⟩ hidle (.transaction (minutes 3) .committed)⟩

end Application
end MoneyMachine
