import MoneyMachine.Domain.Basic
import MoneyMachine.Domain.Enums
import MoneyMachine.Domain.Text
import MoneyMachine.Library.Runs
import MoneyMachine.Library.Table
import MoneyMachine.Library.Traces

/-!
# MutationReceipt — listing writes with a receipt book and a fixture

`commit_listing_mutation` creates a listing once for each idempotency key.  A create that timed out
may have gone through, so the fixture is read before the next one.  All the memory there is between
two calls is the receipt book, and several ways out of a call leave no receipt behind.

* `FixtureAnswers` : what the fixture answers during one call, whatever it is;
* `Ledger`         : the book, and every create and read so far;
* `SettlesTimeout` : the call leaves no timed-out create behind that a later call could repeat.

`read_before_create_iff` says that a sequence of calls reads before it creates again exactly when
every call but the last settles its timeout.
-/

namespace MoneyMachine
namespace Assets

open MoneyMachine.Domain
open MoneyMachine.Library

/-! ## Receipts -/

inductive MutationError
  /-- `ReceiptRejected`. -/
  | rejected (code : String)
  /-- `ReconciliationError`. -/
  | reconciliation (code : String)
  /-- `WriteTimeout`. -/
  | timeout (idempotencyKey : String)
  /-- A contract refused a field. -/
  | validation
  deriving DecidableEq, Repr

/-- Reconcilable identity of one attempted external effect. -/
structure EffectReference where
  idempotencyKey : NonEmptyStr
  provider : NonEmptyStr
  operation : NonEmptyStr
  providerObjectId : Option NonEmptyStr
  effectState : EffectState
  observedAt : Moment
  confirmed_identifies : effectState = .confirmed → providerObjectId.isSome = true
  absent_identifies_nothing : effectState = .absent → providerObjectId = none

/-- `NonEmptyStr | None`. -/
def parseOptional : Option String → Option (Option NonEmptyStr)
  | none => some none
  | some text => (NonEmptyStr.parse text).map some

def EffectReference.validate (idempotencyKey provider operation : String)
    (providerObjectId : Option String) (effectState : EffectState) (observedAt : Moment) :
    Except MutationError EffectReference :=
  match NonEmptyStr.parse idempotencyKey, NonEmptyStr.parse provider,
      NonEmptyStr.parse operation, parseOptional providerObjectId with
  | some key, some provider, some operation, some objectId =>
    if h : (effectState = .confirmed → objectId.isSome = true) ∧
        (effectState = .absent → objectId = none) then
      .ok
        { idempotencyKey := key
          provider := provider
          operation := operation
          providerObjectId := objectId
          effectState := effectState
          observedAt := observedAt
          confirmed_identifies := h.1
          absent_identifies_nothing := h.2 }
    else
      .error .validation
  | _, _, _, _ => .error .validation

/-- One fixture read.  `observed` is false when no read happened. -/
structure ReadObservation where
  observed : Bool
  providerId : Option String
  unknown : Bool
  deriving DecidableEq, Repr

/-- The listing write the receipt describes. -/
structure ListingMutation where
  operation : String
  listingTarget : String
  preState : String
  expectedPostState : String
  idempotencyKey : String
  deriving DecidableEq, Repr

/-- Redacted record of one listing mutation. -/
structure MutationReceipt where
  operation : String
  listingTarget : String
  preState : String
  expectedPostState : String
  providerId : Option String
  responseHash : String
  idempotencyKey : String
  effectState : EffectState
  effect : EffectReference

/-- In-memory receipts keyed by the idempotency key they name. -/
abbrev ReceiptBook := Table MutationReceipt MutationReceipt.idempotencyKey

/-- 2026-10-16, in UTC. -/
def observedAt : Moment := 1792108800000000

def rawBodyFields : List String :=
  ["body", "provider_response", "raw_body", "raw_response", "response", "response_body"]

/-- `_reject_forbidden`, on the names of the fields. -/
def rejectForbidden : List String → Except MutationError Unit
  | [] => .ok ()
  | key :: rest =>
    if key ∈ rawBodyFields then
      .error (.rejected "raw response body")
    else if "screenshot".toList <:+: key.toList then
      .error (.rejected "screenshot")
    else
      rejectForbidden rest

/-- `build_receipt`: one redacted receipt. -/
def buildReceipt (mutation : ListingMutation) (providerId responseHash : Option String)
    (effectState : EffectState) (forbidden : List String) :
    Except MutationError MutationReceipt := do
  rejectForbidden forbidden
  match responseHash with
  | none => .error (.rejected "response hash is required")
  | some responseHash =>
    if stripBy isSpace responseHash = "" then
      .error (.rejected "response hash is required")
    else if effectState = .confirmed ∧ providerId = none then
      .error (.rejected "confirmed effect requires a provider id")
    else do
      let effect ← EffectReference.validate mutation.idempotencyKey "etsy" mutation.operation
        providerId effectState observedAt
      .ok
        { operation := mutation.operation
          listingTarget := mutation.listingTarget
          preState := mutation.preState
          expectedPostState := mutation.expectedPostState
          providerId := effect.providerObjectId.map NonEmptyStr.text
          responseHash := responseHash
          idempotencyKey := effect.idempotencyKey.text
          effectState := effect.effectState
          effect := effect }

/-- The text `_redacted_hash` hashes. -/
def redactedMaterial (mutation : ListingMutation) (providerId : Option String)
    (effectState : EffectState) : String :=
  String.intercalate "|"
    [mutation.operation, mutation.listingTarget, mutation.preState, mutation.expectedPostState,
      mutation.idempotencyKey, effectState.value, providerId.getD ""]

/-! ## One call -/

/-- `create` returns a provider id or raises `WriteTimeout`. -/
inductive CreateAnswer
  | returned (providerId : String)
  | timedOut
  deriving DecidableEq, Repr

/-- What the fixture answers during one call, as far as it is asked. -/
structure FixtureAnswers where
  create : CreateAnswer
  read : ReadObservation
  /-- The create after the read. -/
  createAgain : CreateAnswer
  deriving DecidableEq, Repr

inductive FixtureEvent
  | create (idempotencyKey : String) (answer : CreateAnswer)
  | read (idempotencyKey : String) (observation : ReadObservation)
  deriving DecidableEq, Repr

/-- How a call ended: the book it left, what it asked of the fixture, and its result. -/
structure Outcome where
  book : ReceiptBook
  events : List FixtureEvent
  result : Except MutationError MutationReceipt

section Commit

variable (digest : String → Sha256Hex)

/-- `_remember`. -/
def remember (book : ReceiptBook) (mutation : ListingMutation) (providerId : Option String)
    (effectState : EffectState) (events : List FixtureEvent) : Outcome :=
  match buildReceipt mutation providerId
      (some (digest (redactedMaterial mutation providerId effectState)).text) effectState [] with
  | .error error => ⟨book, events, .error error⟩
  | .ok receipt => ⟨book.put receipt, events, .ok receipt⟩

/-- `_reconcile_timeout`, after the create that timed out. -/
def reconcileTimeout (book : ReceiptBook) (mutation : ListingMutation) (answers : FixtureAnswers)
    (events : List FixtureEvent) : Outcome :=
  let events := events ++ [.read mutation.idempotencyKey answers.read]
  if answers.read.observed = false then
    ⟨book, events, .error (.reconciliation "reconciled status requires a read")⟩
  else if answers.read.unknown then
    remember digest book mutation none .unknown events
  else
    match answers.read.providerId with
    | some providerId => remember digest book mutation (some providerId) .confirmed events
    | none =>
      let events := events ++ [.create mutation.idempotencyKey answers.createAgain]
      match answers.createAgain with
      -- Nothing catches the second timeout.
      | .timedOut => ⟨book, events, .error (.timeout mutation.idempotencyKey)⟩
      | .returned providerId =>
        remember digest book mutation (some providerId) .confirmed events

/-- A receipt that ends the call before it creates anything. -/
def settled (book : ReceiptBook) (idempotencyKey : String) : Option MutationReceipt :=
  (book.get? idempotencyKey).filter (fun receipt =>
    decide (receipt.effectState = .unknown ∨ receipt.effectState = .confirmed))

/-- `commit_listing_mutation`. -/
def commitListingMutation (book : ReceiptBook) (mutation : ListingMutation)
    (answers : FixtureAnswers) : Outcome :=
  match settled book mutation.idempotencyKey with
  | some receipt => ⟨book, [], .ok receipt⟩
  | none =>
    let events := [FixtureEvent.create mutation.idempotencyKey answers.create]
    match answers.create with
    | .timedOut => reconcileTimeout digest book mutation answers events
    | .returned providerId =>
      remember digest book mutation (some providerId) .confirmed events

end Commit

/-! ## What a receipt needs to be found again -/

/-- A receipt for this write can be built, and is filed under the key the next call asks for: a
padded key is stripped. -/
def Storable (mutation : ListingMutation) (providerId : Option String) : Prop :=
  mutation.idempotencyKey ≠ "" ∧
    stripBy isWhiteSpace mutation.idempotencyKey = mutation.idempotencyKey ∧
      stripBy isWhiteSpace mutation.operation ≠ "" ∧
        ∀ text ∈ providerId, stripBy isWhiteSpace text ≠ ""

instance (mutation : ListingMutation) (providerId : Option String) :
    Decidable (Storable mutation providerId) :=
  inferInstanceAs (Decidable (_ ∧ _ ∧ _ ∧ ∀ text ∈ providerId, _))

section Receipts

variable {digest : String → Sha256Hex} {book : ReceiptBook} {mutation : ListingMutation}
  {providerId : Option String} {effectState : EffectState}

theorem parseOptional_eq_some {objectId : Option NonEmptyStr}
    (h : parseOptional providerId = some objectId) :
    ∀ text ∈ providerId, stripBy isWhiteSpace text ≠ "" := by
  intro text htext
  rw [Option.mem_def] at htext
  subst htext
  rcases Option.map_eq_some_iff.1 h with ⟨parsed, hparsed, _⟩
  exact NonEmptyStr.parse_isSome_iff.1 (by simp [hparsed])

theorem parseOptional_of_forall (h : ∀ text ∈ providerId, stripBy isWhiteSpace text ≠ "") :
    ∃ objectId, parseOptional providerId = some objectId ∧
      objectId.isSome = providerId.isSome := by
  cases providerId with
  | none => exact ⟨none, rfl, rfl⟩
  | some text =>
    rcases Option.isSome_iff_exists.1 (NonEmptyStr.parse_isSome_iff.2 (h text rfl)) with
      ⟨parsed, hparsed⟩
    exact ⟨some parsed, by simp [parseOptional, hparsed], rfl⟩

/-- What a validated effect says about the fields it was built from. -/
theorem validate_eq_ok {key provider operation : String} {at' : Moment} {effect : EffectReference}
    (h : EffectReference.validate key provider operation providerId effectState at' = .ok effect) :
    effect.idempotencyKey.text = stripBy isWhiteSpace key ∧ effect.effectState = effectState ∧
      stripBy isWhiteSpace operation ≠ "" ∧
        ∀ text ∈ providerId, stripBy isWhiteSpace text ≠ "" := by
  unfold EffectReference.validate at h
  split at h
  · rename_i key' provider' operation' objectId hkey hprovider hoperation hobject
    split at h
    · cases h
      refine ⟨NonEmptyStr.parse_eq_some hkey, rfl, ?_, parseOptional_eq_some hobject⟩
      exact NonEmptyStr.parse_isSome_iff.1 (by simp [hoperation])
    · cases h
  · cases h

theorem validate_ok {key provider operation : String} (at' : Moment)
    (hkey : stripBy isWhiteSpace key ≠ "") (hprovider : stripBy isWhiteSpace provider ≠ "")
    (hoperation : stripBy isWhiteSpace operation ≠ "")
    (hobject : ∀ text ∈ providerId, stripBy isWhiteSpace text ≠ "")
    (hconfirmed : effectState = .confirmed → providerId.isSome = true)
    (habsent : effectState ≠ .absent) :
    ∃ effect, EffectReference.validate key provider operation providerId effectState at' =
      .ok effect := by
  rcases Option.isSome_iff_exists.1 (NonEmptyStr.parse_isSome_iff.2 hkey) with ⟨key', hkey'⟩
  rcases Option.isSome_iff_exists.1 (NonEmptyStr.parse_isSome_iff.2 hprovider) with
    ⟨provider', hprovider'⟩
  rcases Option.isSome_iff_exists.1 (NonEmptyStr.parse_isSome_iff.2 hoperation) with
    ⟨operation', hoperation'⟩
  rcases parseOptional_of_forall hobject with ⟨objectId, hobjectId, hsome⟩
  have hvalid : (effectState = .confirmed → objectId.isSome = true) ∧
      (effectState = .absent → objectId = none) := by
    refine ⟨?_, fun h => absurd h habsent⟩
    intro h
    rw [hsome]
    exact hconfirmed h
  unfold EffectReference.validate
  rw [hkey', hprovider', hoperation', hobjectId]
  simp only [dif_pos hvalid]
  exact ⟨_, rfl⟩

/-- The receipt of `_remember`: the hash and the provider id are there, the rest is validation. -/
theorem buildReceipt_digest (hconfirmed : effectState = .confirmed → providerId.isSome = true)
    (hash : Sha256Hex) :
    buildReceipt mutation providerId (some hash.text) effectState [] =
      (EffectReference.validate mutation.idempotencyKey "etsy" mutation.operation providerId
        effectState observedAt).map (fun effect =>
          { operation := mutation.operation
            listingTarget := mutation.listingTarget
            preState := mutation.preState
            expectedPostState := mutation.expectedPostState
            providerId := effect.providerObjectId.map NonEmptyStr.text
            responseHash := hash.text
            idempotencyKey := effect.idempotencyKey.text
            effectState := effect.effectState
            effect := effect }) := by
  have hidentified : ¬ (effectState = .confirmed ∧ providerId = none) := by
    rintro ⟨hstate, rfl⟩
    cases hconfirmed hstate
  unfold buildReceipt
  simp only [rejectForbidden, hash.strip_ne_empty, hidentified, if_false]
  cases EffectReference.validate mutation.idempotencyKey "etsy" mutation.operation providerId
    effectState observedAt with
  | error error => rfl
  | ok effect => rfl

@[simp] theorem remember_events (events : List FixtureEvent) :
    (remember digest book mutation providerId effectState events).events = events := by
  unfold remember
  split <;> rfl

/-- A call for the same key finds the receipt exactly when it could be stored under it. -/
theorem settled_remember_iff (digest : String → Sha256Hex) (providerId : Option String)
    (effectState : EffectState) (hfree : settled book mutation.idempotencyKey = none)
    (hconfirmed : effectState = .confirmed → providerId.isSome = true)
    (habsent : effectState ≠ .absent) (events : List FixtureEvent) :
    (settled (remember digest book mutation providerId effectState events).book
      mutation.idempotencyKey).isSome = true ↔ Storable mutation providerId := by
  have hetsy : stripBy isWhiteSpace "etsy" ≠ "" := by decide
  unfold remember
  rw [buildReceipt_digest hconfirmed]
  cases hvalidate : EffectReference.validate mutation.idempotencyKey "etsy" mutation.operation
      providerId effectState observedAt with
  | error error =>
    simp only [Except.map, hfree, Option.isSome_none, Bool.false_eq_true, false_iff]
    rintro ⟨hkey, hstrip, hoperation, hobject⟩
    rcases validate_ok observedAt (hstrip.symm ▸ hkey) hetsy hoperation hobject hconfirmed
      habsent with ⟨effect, heffect⟩
    rw [heffect] at hvalidate
    cases hvalidate
  | ok effect =>
    rcases validate_eq_ok hvalidate with ⟨hkey, hstate, hoperation, hobject⟩
    simp only [Except.map, settled, Table.get?_put]
    by_cases hsame : effect.idempotencyKey.text = mutation.idempotencyKey
    · have hstored : Storable mutation providerId :=
        ⟨hsame ▸ effect.idempotencyKey.nonempty, hkey.symm.trans hsame, hoperation, hobject⟩
      have hkept : effectState = .unknown ∨ effectState = .confirmed := by
        cases effectState with
        | absent => exact absurd rfl habsent
        | unknown => exact Or.inl rfl
        | confirmed => exact Or.inr rfl
      simp [hsame, hstate, hkept, hstored]
    · -- Filed under the stripped key, where the next call does not look.
      have hnone : ¬ Storable mutation providerId := by
        rintro ⟨_, hstrip, _⟩
        exact hsame (hkey.trans hstrip)
      rw [settled] at hfree
      simp only [hsame, if_false, hfree, Option.isSome_none, Bool.false_eq_true, false_iff]
      exact hnone

end Receipts

/-! ## Sequences of calls -/

structure MutationCall where
  mutation : ListingMutation
  answers : FixtureAnswers
  deriving DecidableEq, Repr

/-- The book, and every create and read so far. -/
structure Ledger where
  book : ReceiptBook
  trace : List FixtureEvent

/-- A call that raises leaves its book and its trace as well. -/
def commitStep (digest : String → Sha256Hex) (ledger : Ledger) (call : MutationCall) : Ledger :=
  let outcome := commitListingMutation digest ledger.book call.mutation call.answers
  { book := outcome.book
    trace := ledger.trace ++ outcome.events }

/-- The read saw that there is no listing. -/
def ReadObservation.absent (observation : ReadObservation) : Bool :=
  observation.observed && !observation.unknown && observation.providerId.isNone

/-- A create that timed out is owed a read that saw no listing, before the next create of the key. -/
def readOwed (key : String) : Obligation FixtureEvent :=
  { guarded := fun event =>
      match event with
      | .create idempotencyKey _ => decide (idempotencyKey = key)
      | .read _ _ => false
    opens := fun event =>
      match event with
      | .create _ answer => decide (answer = .timedOut)
      | .read _ _ => false
    clears := fun event =>
      match event with
      | .create _ _ => false
      | .read idempotencyKey observation => decide (idempotencyKey = key) && observation.absent }

/-- The call creates nothing, its create returned, or its timeout was settled: the read happened, and
either a receipt of what it saw is on file, or it saw no listing and the second create returned. -/
def SettlesTimeout (ledger : Ledger) (call : MutationCall) : Prop :=
  (settled ledger.book call.mutation.idempotencyKey).isSome = true ∨
    call.answers.create ≠ .timedOut ∨
      (call.answers.read.observed = true ∧
        if call.answers.read.unknown then
          Storable call.mutation none
        else
          match call.answers.read.providerId with
          | some providerId => Storable call.mutation (some providerId)
          | none => call.answers.createAgain ≠ .timedOut)

instance (ledger : Ledger) (call : MutationCall) : Decidable (SettlesTimeout ledger call) := by
  unfold SettlesTimeout
  cases call.answers.read.providerId <;> infer_instance

/-- No later call can repeat a create that is owed a read. -/
def Safe (key : String) (ledger : Ledger) : Prop :=
  (readOwed key).owes ledger.trace = true → (settled ledger.book key).isSome = true

section Runs

variable {digest : String → Sha256Hex} {ledger : Ledger} {call : MutationCall} {key : String}

theorem readOwed_guarded_create (answer : CreateAnswer) :
    (readOwed key).guarded (.create key answer) = true := by
  simp [readOwed]

theorem next_create (owed : Bool) (answer : CreateAnswer) :
    (readOwed key).next owed (.create key answer) = decide (answer = .timedOut) := by
  simp [Obligation.next, readOwed]

theorem next_read (owed : Bool) (observation : ReadObservation) :
    (readOwed key).next owed (.read key observation) = (owed && !observation.absent) := by
  simp [Obligation.next, readOwed]

/-- A read may always happen. -/
theorem met_read {trace : List FixtureEvent} (h : (readOwed key).Met trace)
    (observation : ReadObservation) : (readOwed key).Met (trace ++ [.read key observation]) := by
  refine (readOwed key).met_concat_iff.2 ⟨h, ?_⟩
  intro hguarded
  simp [readOwed] at hguarded

/-- A create may happen when nothing is owed. -/
theorem met_create {trace : List FixtureEvent} (h : (readOwed key).Met trace)
    (howes : (readOwed key).owes trace = false) (answer : CreateAnswer) :
    (readOwed key).Met (trace ++ [.create key answer]) :=
  (readOwed key).met_concat_iff.2 ⟨h, fun _ => howes⟩

theorem reconcileTimeout_events (digest : String → Sha256Hex) (book : ReceiptBook)
    (mutation : ListingMutation) (answers : FixtureAnswers) (events : List FixtureEvent) :
    ∃ more, (reconcileTimeout digest book mutation answers events).events = events ++ more := by
  unfold reconcileTimeout
  dsimp only
  split
  · exact ⟨_, rfl⟩
  split
  · exact ⟨_, remember_events _⟩
  split
  · exact ⟨_, remember_events _⟩
  split
  · exact ⟨_, List.append_assoc _ _ _⟩
  · exact ⟨_, (remember_events _).trans (List.append_assoc _ _ _)⟩

/-- A call that finds no receipt begins with a create. -/
theorem commit_creates (digest : String → Sha256Hex) {book : ReceiptBook}
    {mutation : ListingMutation} (hfree : settled book mutation.idempotencyKey = none)
    (answers : FixtureAnswers) :
    ∃ more, (commitListingMutation digest book mutation answers).events =
      [.create mutation.idempotencyKey answers.create] ++ more := by
  unfold commitListingMutation
  rw [hfree]
  cases answers.create with
  | returned providerId => exact ⟨[], remember_events _⟩
  | timedOut => exact reconcileTimeout_events digest book mutation answers _

/-- Once the create has timed out, the rest of the call ends safe exactly when it settles the
timeout. -/
theorem reconcileTimeout_safe (digest : String → Sha256Hex) (answers : FixtureAnswers)
    {book : ReceiptBook} {mutation : ListingMutation} {trace : List FixtureEvent}
    (hfree : settled book mutation.idempotencyKey = none)
    (hmet : (readOwed mutation.idempotencyKey).Met
      (trace ++ [.create mutation.idempotencyKey .timedOut])) :
    let outcome := reconcileTimeout digest book mutation answers
      [.create mutation.idempotencyKey .timedOut]
    (readOwed mutation.idempotencyKey).Met (trace ++ outcome.events) ∧
      (Safe mutation.idempotencyKey { book := outcome.book, trace := trace ++ outcome.events } ↔
        answers.read.observed = true ∧
          if answers.read.unknown then
            Storable mutation none
          else
            match answers.read.providerId with
            | some providerId => Storable mutation (some providerId)
            | none => answers.createAgain ≠ .timedOut) := by
  let key := mutation.idempotencyKey
  have hread : (readOwed key).Met
      (trace ++ [.create key .timedOut, .read key answers.read]) := by
    simpa using met_read hmet answers.read
  have howes : (readOwed key).owes (trace ++ [.create key .timedOut, .read key answers.read]) =
      !answers.read.absent := by
    have hsplit : trace ++ [FixtureEvent.create key .timedOut, .read key answers.read] =
        (trace ++ [.create key .timedOut]) ++ [.read key answers.read] := by simp
    rw [hsplit, Obligation.owes_concat, Obligation.owes_concat, next_create, next_read]
    simp
  -- A read that saw something, or nothing at all, leaves the obligation open.
  have hopen : answers.read.absent = false → ∀ book' : ReceiptBook,
      (Safe key { book := book', trace := trace ++ [.create key .timedOut, .read key answers.read] } ↔
        (settled book' key).isSome = true) := by
    intro habsent book'
    rw [Safe, howes, habsent]
    simp
  have hfree' : settled book key = none := hfree
  unfold reconcileTimeout
  cases hobserved : answers.read.observed with
  | false =>
    have habsent : answers.read.absent = false := by simp [ReadObservation.absent, hobserved]
    refine ⟨hread, (hopen habsent book).trans ?_⟩
    simp [hfree']
  | true =>
    cases hunknown : answers.read.unknown with
    | true =>
      have habsent : answers.read.absent = false := by simp [ReadObservation.absent, hunknown]
      have hiff := settled_remember_iff digest none .unknown hfree (by decide) (by decide)
        [.create key .timedOut, .read key answers.read]
      simp only [Bool.true_eq_false, if_false, if_true, remember_events]
      refine ⟨hread, (hopen habsent _).trans ?_⟩
      simpa using hiff
    | false =>
      cases hprovider : answers.read.providerId with
      | some providerId =>
        have habsent : answers.read.absent = false := by
          simp [ReadObservation.absent, hprovider]
        have hiff := settled_remember_iff digest (some providerId) .confirmed hfree
          (fun _ => rfl) (by decide) [.create key .timedOut, .read key answers.read]
        simp only [Bool.true_eq_false, Bool.false_eq_true, if_false, remember_events]
        refine ⟨hread, (hopen habsent _).trans ?_⟩
        simpa using hiff
      | none =>
        have habsent : answers.read.absent = true := by
          simp [ReadObservation.absent, hobserved, hunknown, hprovider]
        rw [habsent] at howes
        have hagain := met_create hread howes answers.createAgain
        have howes' := Obligation.owes_concat (readOwed key)
          (trace ++ [.create key .timedOut, .read key answers.read])
          (.create key answers.createAgain)
        rw [next_create] at howes'
        cases hcreate : answers.createAgain with
        | timedOut =>
          rw [hcreate] at hagain howes'
          refine ⟨by simpa using hagain, ?_⟩
          have hlost : ¬ Safe key { book := book, trace := trace ++
              [.create key .timedOut, .read key answers.read, .create key .timedOut] } := by
            intro hsafe
            have hsome := hsafe (by simpa using howes')
            simp [hfree'] at hsome
          simpa using hlost
        | returned providerId =>
          rw [hcreate] at hagain howes'
          simp only [Bool.true_eq_false, Bool.false_eq_true, if_false, remember_events]
          refine ⟨by simpa using hagain, ?_⟩
          have hsafe : ∀ book', Safe key { book := book', trace := trace ++
              [.create key .timedOut, .read key answers.read,
                .create key (.returned providerId)] } := by
            intro book' howed
            have hclosed : (readOwed key).owes (trace ++ [.create key .timedOut,
                .read key answers.read, .create key (.returned providerId)]) = false := by
              simpa using howes'
            rw [hclosed] at howed
            cases howed
          simpa using hsafe _

/-- From a safe ledger a call keeps the order of reads and creates, and it leaves a safe ledger
exactly when it settles its timeout. -/
theorem commitStep_safe (digest : String → Sha256Hex) (hkey : call.mutation.idempotencyKey = key)
    (hsafe : Safe key ledger) (hmet : (readOwed key).Met ledger.trace) :
    (readOwed key).Met (commitStep digest ledger call).trace ∧
      (Safe key (commitStep digest ledger call) ↔ SettlesTimeout ledger call) := by
  subst hkey
  unfold commitStep commitListingMutation SettlesTimeout
  cases hsettled : settled ledger.book call.mutation.idempotencyKey with
  | some receipt =>
    have hsame : Safe call.mutation.idempotencyKey
        { book := ledger.book, trace := ledger.trace ++ [] } := by
      simpa using hsafe
    simpa [hmet] using hsame
  | none =>
    have howes : (readOwed call.mutation.idempotencyKey).owes ledger.trace = false := by
      cases howes : (readOwed call.mutation.idempotencyKey).owes ledger.trace with
      | false => rfl
      | true => simpa [hsettled] using hsafe howes
    have hcreate := met_create hmet howes call.answers.create
    cases hanswer : call.answers.create with
    | returned providerId =>
      rw [hanswer] at hcreate
      simp only [remember_events]
      refine ⟨hcreate, ?_⟩
      have hclosed := Obligation.owes_concat (readOwed call.mutation.idempotencyKey)
        ledger.trace (.create call.mutation.idempotencyKey (.returned providerId))
      rw [next_create] at hclosed
      simp [Safe, hclosed]
    | timedOut =>
      rw [hanswer] at hcreate
      have hrest := reconcileTimeout_safe digest call.answers hsettled hcreate
      simpa using hrest

/-- From a ledger that is not safe every call creates, and too early. -/
theorem commitStep_notSafe (digest : String → Sha256Hex) (hkey : call.mutation.idempotencyKey = key)
    (hlost : ¬ Safe key ledger) :
    ¬ (readOwed key).Met (commitStep digest ledger call).trace := by
  subst hkey
  have howes : (readOwed call.mutation.idempotencyKey).owes ledger.trace = true := by
    by_contra hclosed
    exact hlost (fun h => absurd h hclosed)
  have hfree : settled ledger.book call.mutation.idempotencyKey = none := by
    by_contra hsome
    exact hlost (fun _ => Option.isSome_iff_ne_none.2 hsome)
  have hearly : ∀ answer, ¬ (readOwed call.mutation.idempotencyKey).Met
      (ledger.trace ++ [.create call.mutation.idempotencyKey answer]) := by
    intro answer hmet
    have hclosed := ((readOwed call.mutation.idempotencyKey).met_concat_iff.1 hmet).2
      (readOwed_guarded_create answer)
    rw [howes] at hclosed
    cases hclosed
  rcases commit_creates digest hfree call.answers with ⟨more, hevents⟩
  intro hmet
  rw [commitStep, hevents, ← List.append_assoc] at hmet
  exact hearly _ hmet.of_append

theorem run_trace (digest : String → Sha256Hex) (ledger : Ledger) (calls : List MutationCall) :
    ∃ more, (runFrom (commitStep digest) ledger calls).trace = ledger.trace ++ more := by
  induction calls generalizing ledger with
  | nil => exact ⟨[], by simp⟩
  | cons call calls ih =>
    rcases ih (commitStep digest ledger call) with ⟨more, hmore⟩
    refine ⟨(commitListingMutation digest ledger.book call.mutation call.answers).events ++ more, ?_⟩
    rw [runFrom_cons, hmore]
    simp [commitStep]

theorem run_met_iff {calls : List MutationCall}
    (hkeys : ∀ call ∈ calls, call.mutation.idempotencyKey = key) (hsafe : Safe key ledger)
    (hmet : (readOwed key).Met ledger.trace) :
    (readOwed key).Met (runFrom (commitStep digest) ledger calls).trace ↔
      Along (commitStep digest) SettlesTimeout ledger calls.dropLast := by
  induction calls generalizing ledger with
  | nil => simp [Along, hmet]
  | cons call calls ih =>
    have hkey := hkeys call List.mem_cons_self
    have hkeys' : ∀ call ∈ calls, call.mutation.idempotencyKey = key :=
      fun call' hcall' => hkeys call' (List.mem_cons_of_mem call hcall')
    rcases commitStep_safe digest hkey hsafe hmet with ⟨hmet', hsettles⟩
    cases calls with
    | nil => simpa [Along] using hmet'
    | cons call' calls =>
      rw [runFrom_cons, List.dropLast_cons_cons]
      simp only [Along]
      by_cases hthis : SettlesTimeout ledger call
      · rw [ih hkeys' (hsettles.2 hthis) hmet']
        exact ⟨fun h => ⟨hthis, h⟩, fun h => h.2⟩
      · -- The next call creates before the read that is owed.
        have hlost : ¬ Safe key (commitStep digest ledger call) :=
          fun h => hthis (hsettles.1 h)
        have hbroken := commitStep_notSafe digest (hkeys' call' List.mem_cons_self) hlost
        rcases run_trace digest (commitStep digest (commitStep digest ledger call) call') calls
          with ⟨more, hmore⟩
        rw [runFrom_cons, hmore]
        constructor
        · intro h
          exact absurd h.of_append hbroken
        · intro h
          exact absurd h.1 hthis

end Runs

/-- In a sequence of calls with one key, on any book and with any answers of the fixture, there is a
read that saw no listing between every create that timed out and the next create, exactly when every
call but the last settles its timeout. -/
theorem read_before_create_iff (digest : String → Sha256Hex) (key : String) (book : ReceiptBook)
    (calls : List MutationCall) (hkeys : ∀ call ∈ calls, call.mutation.idempotencyKey = key) :
    (readOwed key).Met (runFrom (commitStep digest) { book := book, trace := [] } calls).trace ↔
      Along (commitStep digest) SettlesTimeout { book := book, trace := [] } calls.dropLast :=
  run_met_iff hkeys (fun howes => by cases howes) (readOwed key).met_nil

/-! ## Two calls with one key -/

theorem zeroText_length :
    "0000000000000000000000000000000000000000000000000000000000000000".toList.length = 64 := by
  decide +kernel

theorem zeroText_digits :
    "0000000000000000000000000000000000000000000000000000000000000000".toList.all isHexDigit = true := by
  decide +kernel

def zeroDigest : String → Sha256Hex :=
  fun _ =>
    { text := "0000000000000000000000000000000000000000000000000000000000000000"
      length := zeroText_length
      digits := zeroText_digits }

def draftMutation : ListingMutation :=
  { operation := "etsy.create_draft"
    listingTarget := "shop:1/listing"
    preState := "absent"
    expectedPostState := "draft"
    idempotencyKey := "key-a" }

/-- The first create times out, the read answers as given, and later creates return. -/
def timeoutCall (observation : ReadObservation) : MutationCall :=
  { mutation := draftMutation
    answers :=
      { create := .timedOut
        read := observation
        createAgain := .returned "listing-1" } }

def emptyLedger : Ledger :=
  { book := ⟨[], by simp⟩, trace := [] }

/-- The read saw that there is no listing, and the second call finds the receipt. -/
theorem read_before_create_absent :
    Along (commitStep zeroDigest) SettlesTimeout emptyLedger
        [timeoutCall ⟨true, none, false⟩] ∧
      (readOwed "key-a").Met (runFrom (commitStep zeroDigest) emptyLedger
        [timeoutCall ⟨true, none, false⟩, timeoutCall ⟨true, none, false⟩]).trace := by
  have hsettles : Along (commitStep zeroDigest) SettlesTimeout emptyLedger
      [timeoutCall ⟨true, none, false⟩] := by
    decide +kernel
  have hkeys : ∀ call ∈ [timeoutCall ⟨true, none, false⟩, timeoutCall ⟨true, none, false⟩],
      call.mutation.idempotencyKey = "key-a" := by
    decide
  exact ⟨hsettles, (read_before_create_iff zeroDigest "key-a" emptyLedger.book _ hkeys).2 hsettles⟩

/-- The read was disabled: the call raises, and the next one creates again. -/
theorem create_repeated_without_read :
    ¬ ∀ (digest : String → Sha256Hex) (key : String) (book : ReceiptBook)
      (calls : List MutationCall), (∀ call ∈ calls, call.mutation.idempotencyKey = key) →
        (readOwed key).Met
          (runFrom (commitStep digest) { book := book, trace := [] } calls).trace := by
  intro h
  have hkeys : ∀ call ∈ [timeoutCall ⟨false, none, false⟩, timeoutCall ⟨false, none, false⟩],
      call.mutation.idempotencyKey = "key-a" := by
    decide
  have hmet := h zeroDigest "key-a" emptyLedger.book _ hkeys
  have htrace : (runFrom (commitStep zeroDigest) emptyLedger
      [timeoutCall ⟨false, none, false⟩, timeoutCall ⟨false, none, false⟩]).trace =
        [] ++ .create "key-a" .timedOut :: ([.read "key-a" ⟨false, none, false⟩] ++
          .create "key-a" .timedOut :: [.read "key-a" ⟨false, none, false⟩]) := by
    decide +kernel
  rcases hmet _ _ _ _ _ htrace (by decide) (by decide) (by decide) (by decide) with
    ⟨event, hevent, hclears⟩
  rw [List.mem_singleton.1 hevent] at hclears
  exact absurd hclears (by decide)

end Assets
end MoneyMachine
