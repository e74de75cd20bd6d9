import MoneyMachine.Integrations.BrowserSession

/-!
# BrowserMutations — one click, one receipt

A mutation asks the page kind, clicks once, perhaps observes, takes screenshots, and stores a receipt.
Whatever the driver answers, what it leaves behind has one of two shapes: `Settled`, a stored receipt,
or `Dropped`, driver calls and perhaps a taint.  The final block of `mutate` turns the second into the
first, but it covers the click and what follows it, and not the screenshot of a blocked page.

* `lastly_ends`       : with its final block a click always ends in a stored receipt;
* `leavesReceipt_iff` : a mutation on an open session leaves one receipt exactly when the screenshot of
  a blocked page is not interrupted.
-/

namespace MoneyMachine
namespace Integrations
namespace Browser

open MoneyMachine.Domain
open MoneyMachine.Library

variable {driver : Driver} {session : OpenSession} {mutation : Mutation} {m m' : Manager}

/-! ## What the parts of a mutation do -/

namespace Manager

@[simp] theorem log_trace (m : Manager) (e : Event) : (m.log e).trace = m.trace ++ [e] := rfl

@[simp] theorem log_sessions (m : Manager) (e : Event) : (m.log e).sessions = m.sessions := rfl

@[simp] theorem log_seen (m : Manager) (e : Event) : (m.log e).seen = m.seen := rfl

@[simp] theorem setSession_trace (m : Manager) (p : String) (s : Option OpenSession) :
    (m.setSession p s).trace = m.trace := rfl

@[simp] theorem setSession_seen (m : Manager) (p : String) (s : Option OpenSession) :
    (m.setSession p s).seen = m.seen := rfl

@[simp] theorem taint_trace (m : Manager) (p : String) : (m.taint p).trace = m.trace := rfl

@[simp] theorem taint_seen (m : Manager) (p : String) : (m.taint p).seen = m.seen := rfl

@[simp] theorem store_trace (m : Manager) (r : Receipt) :
    (m.store r).trace = m.trace ++ [.stored r] := rfl

@[simp] theorem store_sessions (m : Manager) (r : Receipt) : (m.store r).sessions = m.sessions := rfl

@[simp] theorem store_seen (m : Manager) (r : Receipt) : (m.store r).seen = m.seen.put r := rfl

end Manager

/-- The driver call, and the value or the fault it answers with. -/
theorem ask_run (driver : Driver) (p : String) (key : Option String) (c : DriverCall) (m : Manager) :
    ask driver p key c m =
      (match driver m.trace c with
        | .ok value => .ok value
        | .error fault => .error (.driver fault), m.log (.call p key c (driver m.trace c))) := by
  unfold ask
  cases driver m.trace c <;> rfl

def screenshotCall (session : OpenSession) (reason : Reason) : DriverCall :=
  .screenshot session.sessionId (screenshotPath session.sessionId reason)

/-- The events of a mutation that are neither its page kind nor its click. -/
def Aside (p key : String) : Event → Prop
  | .call p' key' (.screenshot _ _) _ => p' = p ∧ key' = some key
  | .call p' key' (.observe _) _ => p' = p ∧ key' = some key
  | _ => False

/-- An observation found the click applied. -/
def ObservedApplied : Event → Prop
  | .call _ _ (.observe _) (.ok answer) => answer.equals "applied" = true
  | _ => False

/-- Driver calls were made, and nothing else happened. -/
structure Passed (p key : String) (m m' : Manager) (events : List Event) : Prop where
  trace : m'.trace = m.trace ++ events
  aside : ∀ e ∈ events, Aside p key e
  sessions : m'.sessions = m.sessions
  seen : m'.seen = m.seen

/-- Driver calls were made; the session may be tainted, and nothing is stored. -/
structure Dropped (p key : String) (m m' : Manager) (events : List Event) : Prop where
  trace : m'.trace = m.trace ++ events
  aside : ∀ e ∈ events, Aside p key e
  sessions : m'.sessions = m.sessions ∨ m'.sessions = (m.taint p).sessions
  seen : m'.seen = m.seen

/-- A receipt was stored last; the session is tainted unless the click was applied. -/
structure Settled (session : OpenSession) (mutation : Mutation) (applied : Prop) (m m' : Manager)
    (events : List Event) (receipt : Receipt) : Prop where
  trace : m'.trace = m.trace ++ events ++ [.stored receipt]
  aside : ∀ e ∈ events, Aside session.profileName mutation.key e
  seen : m'.seen = m.seen.put receipt
  verdict : ∃ verdict, receipt = receiptOf session mutation verdict
  outcome : (receipt.status ≠ .success ∧ m'.sessions = (m.taint session.profileName).sessions) ∨
    (receipt.status = .success ∧ m'.sessions = m.sessions ∧
      (applied ∨ ∃ e ∈ events, ObservedApplied e))

/-- A part of a mutation stores a receipt, or raises with none stored. -/
def Recording (session : OpenSession) (mutation : Mutation) (applied : Prop) (m : Manager)
    (r : Except Raised Receipt) (m' : Manager) : Prop :=
  (∃ events receipt, Settled session mutation applied m m' events receipt) ∨
    (∃ events raised, Dropped session.profileName mutation.key m m' events ∧ r = .error raised)

theorem Passed.dropped {p key : String} {events : List Event} (h : Passed p key m m' events) :
    Dropped p key m m' events :=
  ⟨h.trace, h.aside, Or.inl h.sessions, h.seen⟩

/-- A taint after driver calls. -/
theorem Passed.tainted {p key : String} {events : List Event} (h : Passed p key m m' events) :
    Dropped p key m (m'.taint p) events := by
  refine ⟨h.trace, h.aside, Or.inr ?_, h.seen⟩
  simp [Manager.taint, Manager.setSession, h.sessions]

theorem Passed.trans {p key : String} {m₁ : Manager} {events events' : List Event}
    (h : Passed p key m m₁ events) (h' : Passed p key m₁ m' events') :
    Passed p key m m' (events ++ events') := by
  refine ⟨by rw [h'.trace, h.trace]; simp, ?_, h'.sessions.trans h.sessions, h'.seen.trans h.seen⟩
  intro e he
  rcases List.mem_append.1 he with he | he
  · exact h.aside e he
  · exact h'.aside e he

theorem passed_refl (p key : String) (m : Manager) : Passed p key m m [] :=
  ⟨by simp, by simp, rfl, rfl⟩

theorem passed_log {p key : String} {e : Event} (he : Aside p key e) :
    Passed p key m (m.log e) [e] :=
  ⟨rfl, by simpa using he, rfl, rfl⟩

/-- A receipt stored after driver calls. -/
theorem Passed.settled {applied : Prop} {events : List Event}
    (h : Passed session.profileName mutation.key m m' events) (verdict : Verdict)
    (htaint : verdict.status ≠ .success ∧ verdict.taint = true ∨
      verdict.status = .success ∧ verdict.taint = false ∧
        (applied ∨ ∃ e ∈ events, ObservedApplied e)) :
    Settled session mutation applied m
      ((if verdict.taint then m'.taint session.profileName else m').store
        (receiptOf session mutation verdict))
      events (receiptOf session mutation verdict) := by
  rcases htaint with ⟨hstatus, htaint⟩ | ⟨hstatus, htaint, happlied⟩
  · refine ⟨by simp [htaint, h.trace], h.aside, by simp [htaint, h.seen], ⟨verdict, rfl⟩, ?_⟩
    refine Or.inl ⟨hstatus, ?_⟩
    simp [htaint, Manager.taint, Manager.setSession, h.sessions]
  · refine ⟨by simp [htaint, h.trace], h.aside, by simp [htaint, h.seen], ⟨verdict, rfl⟩, ?_⟩
    exact Or.inr ⟨hstatus, by simp [htaint, h.sessions], happlied⟩

/-- More driver calls before a receipt. -/
theorem Settled.after {applied : Prop} {m₁ : Manager} {before events : List Event}
    {receipt : Receipt} (hsettled : Settled session mutation applied m₁ m' events receipt)
    (h : Passed session.profileName mutation.key m m₁ before) :
    Settled session mutation applied m m' (before ++ events) receipt := by
  refine ⟨by rw [hsettled.trace, h.trace]; simp, ?_, by rw [hsettled.seen, h.seen],
    hsettled.verdict, ?_⟩
  · intro e he
    rcases List.mem_append.1 he with he | he
    · exact h.aside e he
    · exact hsettled.aside e he
  · rcases hsettled.outcome with ⟨hstatus, hsessions⟩ | ⟨hstatus, hsessions, happlied⟩
    · refine Or.inl ⟨hstatus, ?_⟩
      rw [hsessions]
      simp [Manager.taint, Manager.setSession, h.sessions]
    · refine Or.inr ⟨hstatus, hsessions.trans h.sessions, ?_⟩
      rcases happlied with happlied | ⟨e, he, happlied⟩
      · exact Or.inl happlied
      · exact Or.inr ⟨e, List.mem_append_right _ he, happlied⟩

/-- A failure recorded after a part that stored nothing. -/
theorem Settled.after_dropped {applied : Prop} {m₁ : Manager} {before events : List Event}
    {receipt : Receipt} (hsettled : Settled session mutation applied m₁ m' events receipt)
    (hstatus : receipt.status ≠ .success)
    (h : Dropped session.profileName mutation.key m m₁ before) :
    Settled session mutation applied m m' (before ++ events) receipt := by
  refine ⟨by rw [hsettled.trace, h.trace]; simp, ?_, by rw [hsettled.seen, h.seen],
    hsettled.verdict, Or.inl ⟨hstatus, ?_⟩⟩
  · intro e he
    rcases List.mem_append.1 he with he | he
    · exact h.aside e he
    · exact hsettled.aside e he
  · rcases hsettled.outcome with ⟨_, hsessions⟩ | ⟨hsuccess, _⟩
    · rw [hsessions]
      -- Tainting twice is tainting once.
      rcases h.sessions with hkept | htainted
      · simp [Manager.taint, Manager.setSession, hkept]
      · simp [Manager.taint, Manager.setSession, htainted, Function.comp_def]
    · exact absurd hsuccess hstatus

/-- A screenshot is one more driver call; without `raise_errors` only an interrupt gets through. -/
theorem capture_run (driver : Driver) (session : OpenSession) (key : Option String)
    (reason : Reason) (raiseErrors : Bool) (m : Manager) :
    capture driver session key reason raiseErrors m =
      (match driver m.trace (screenshotCall session reason) with
        | .ok _ => .ok (screenshotPath session.sessionId reason)
        | .error fault =>
          if fault ≠ .interrupt ∧ raiseErrors = false then
            .ok "screenshot-failed"
          else
            .error (.driver fault),
        m.log (.call session.profileName key (screenshotCall session reason)
          (driver m.trace (screenshotCall session reason)))) := by
  unfold capture
  simp only [Action.handle, Action.bind_run, ask_run]
  rw [show DriverCall.screenshot session.sessionId (screenshotPath session.sessionId reason) =
    screenshotCall session reason from rfl]
  cases driver m.trace (screenshotCall session reason) with
  | ok value => rfl
  | error fault => cases fault <;> cases raiseErrors <;> rfl

theorem record_run (session : OpenSession) (mutation : Mutation) (verdict : Verdict) (m : Manager) :
    record session mutation verdict m =
      if verdict.storable then
        (.ok (receiptOf session mutation verdict),
          (if verdict.taint then m.taint session.profileName else m).store
            (receiptOf session mutation verdict))
      else
        (.error .valueError, if verdict.taint then m.taint session.profileName else m) := by
  cases hstorable : verdict.storable <;> simp [record, Action.bind_run, hstorable]

/-- The receipt of a verdict is stored where `json.dumps` takes what the driver said. -/
theorem record_ends (applied : Prop) {events : List Event} {m₁ : Manager} (verdict : Verdict)
    (hstorable : verdict.storable = true)
    (h : Passed session.profileName mutation.key m m₁ events)
    (htaint : verdict.status ≠ .success ∧ verdict.taint = true ∨
      verdict.status = .success ∧ verdict.taint = false ∧
        (applied ∨ ∃ e ∈ events, ObservedApplied e)) :
    (record session mutation verdict).Ends m₁ (fun _ m' => ∃ events,
      Settled session mutation applied m m' events (receiptOf session mutation verdict)) := by
  unfold Action.Ends
  rw [record_run, if_pos hstorable]
  exact ⟨events, h.settled verdict htaint⟩

/-- A failure is stored, or taints the session where `json.dumps` does not take what the driver said. -/
theorem record_failure (applied : Prop) {events : List Event} {m₁ : Manager} (verdict : Verdict)
    (hfailed : verdict.status ≠ .success) (htaint : verdict.taint = true)
    (h : Passed session.profileName mutation.key m m₁ events) :
    (record session mutation verdict).Ends m₁ (Recording session mutation applied m) := by
  cases hstorable : verdict.storable with
  | true =>
    refine (record_ends applied verdict hstorable h (Or.inl ⟨hfailed, htaint⟩)).mono ?_
    rintro r m' ⟨events', hsettled⟩
    exact Or.inl ⟨events', _, hsettled⟩
  | false =>
    unfold Action.Ends
    rw [record_run, hstorable, htaint]
    exact Or.inr ⟨events, _, h.tainted, rfl⟩

theorem storable_text {verdict : Verdict} {observed : String}
    (hkind : verdict.pageKind.serialisable = true) (hobserved : verdict.observed = .text observed) :
    verdict.storable = true := by
  rw [Verdict.storable, hkind, hobserved]
  rfl

/-- The events of a screenshot and of an observation. -/
def screenshotEvent (driver : Driver) (session : OpenSession) (mutation : Mutation)
    (reason : Reason) (m : Manager) : Event :=
  .call session.profileName (some mutation.key) (screenshotCall session reason)
    (driver m.trace (screenshotCall session reason))

def observeEvent (driver : Driver) (session : OpenSession) (mutation : Mutation) (m : Manager) :
    Event :=
  .call session.profileName (some mutation.key) (.observe session.sessionId)
    (driver m.trace (.observe session.sessionId))

def clickEvent (driver : Driver) (session : OpenSession) (mutation : Mutation) (m : Manager) :
    Event :=
  .call session.profileName (some mutation.key) (.click session.sessionId mutation.selector)
    (driver m.trace (.click session.sessionId mutation.selector))

/-- The driver applied the click. -/
def ClickApplied (driver : Driver) (session : OpenSession) (mutation : Mutation) (m : Manager) :
    Prop :=
  ∃ answer, driver m.trace (.click session.sessionId mutation.selector) = .ok answer ∧
    answer.equals "applied" = true

theorem passed_screenshot (driver : Driver) (session : OpenSession) (mutation : Mutation)
    (reason : Reason) (m : Manager) :
    Passed session.profileName mutation.key m
      (m.log (screenshotEvent driver session mutation reason m))
      [screenshotEvent driver session mutation reason m] :=
  passed_log ⟨rfl, rfl⟩

theorem passed_observe (driver : Driver) (session : OpenSession) (mutation : Mutation)
    (m : Manager) :
    Passed session.profileName mutation.key m (m.log (observeEvent driver session mutation m))
      [observeEvent driver session mutation m] :=
  passed_log ⟨rfl, rfl⟩

section Parts

variable {kind : Answer} (applied : Prop)

/-- A screenshot of a mutation. -/
theorem capture_ends (driver : Driver) (session : OpenSession) (mutation : Mutation)
    (reason : Reason) (raiseErrors : Bool) (m : Manager) :
    (capture driver session (some mutation.key) reason raiseErrors).Ends m (fun r m' =>
      Passed session.profileName mutation.key m m'
        [screenshotEvent driver session mutation reason m] ∧
      ∀ raised, r = .error raised → raiseErrors = false →
        driver m.trace (screenshotCall session reason) = .error .interrupt) := by
  unfold Action.Ends
  rw [capture_run]
  refine ⟨passed_screenshot driver session mutation reason m, ?_⟩
  intro raised hraised hquiet
  cases hanswer : driver m.trace (screenshotCall session reason) with
  | ok value => simp [hanswer] at hraised
  | error fault =>
    by_cases hfault : fault = .interrupt
    · rw [hfault]
    · simp [hanswer, hfault, hquiet] at hraised

/-- An observation whose exceptions are read as `unknown`. -/
theorem observe_ends (driver : Driver) (session : OpenSession) (mutation : Mutation) (m : Manager) :
    (Action.handle
      (ask driver session.profileName (some mutation.key) (.observe session.sessionId))
      (fun raised => if raised.isException then pure (.text "unknown") else .raise raised)).Ends m
      (fun r m' =>
        Passed session.profileName mutation.key m m' [observeEvent driver session mutation m] ∧
        ∀ observed, r = .ok observed → observed.equals "applied" = true →
          ObservedApplied (observeEvent driver session mutation m)) := by
  unfold Action.Ends
  simp only [Action.handle, ask_run]
  cases hanswer : driver m.trace (.observe session.sessionId) with
  | ok value =>
    refine ⟨by simpa [observeEvent, hanswer] using passed_observe driver session mutation m, ?_⟩
    intro observed hobserved happlied
    have hvalue : value = observed := by simpa using hobserved
    simpa [observeEvent, hanswer, hvalue, ObservedApplied] using happlied
  | error fault =>
    have hpassed := passed_observe driver session mutation m
    rw [observeEvent, hanswer] at hpassed
    cases fault <;> simp [Raised.isException, observeEvent, hanswer, hpassed, Answer.equals]

/-- `_record_unknown` stores its receipt whatever the screenshot does. -/
theorem recordUnknown_ends (hkind : kind.serialisable = true) (observed : String) :
    (recordUnknown driver session mutation kind observed).Ends m (fun _ m' =>
      ∃ events receipt, Settled session mutation applied m m' events receipt ∧
        receipt.status = .unknown) := by
  have hrecord : ∀ evidence m₁ events, Passed session.profileName mutation.key m m₁ events →
      (record session mutation (unknownVerdict kind observed evidence)).Ends m₁ (fun _ m' =>
        ∃ events receipt, Settled session mutation applied m m' events receipt ∧
          receipt.status = .unknown) := by
    intro evidence m₁ events hpassed
    refine (record_ends applied _ (storable_text hkind rfl) hpassed
      (Or.inl ⟨by simp [unknownVerdict], rfl⟩)).mono ?_
    rintro r m' ⟨events', hsettled⟩
    exact ⟨events', _, hsettled, rfl⟩
  unfold recordUnknown
  refine Action.ends_bind (R := fun r m₁ =>
    match r with
    | .ok _ => ∃ events, Passed session.profileName mutation.key m m₁ events
    | .error _ => ∃ events receipt, Settled session mutation applied m m₁ events receipt ∧
        receipt.status = .unknown) ?_ ?_ ?_
  · refine Action.ends_handle (capture_ends driver session mutation .uncertain true m) ?_ ?_
    · rintro evidence m₁ ⟨hpassed, _⟩
      exact ⟨_, hpassed⟩
    · rintro raised m₁ ⟨hpassed, _⟩
      -- An interrupt stores the receipt before it goes on.
      by_cases hexception : raised.isException = true
      · rw [if_pos hexception]
        exact ⟨_, hpassed⟩
      · rw [if_neg hexception]
        exact Action.ends_bind (hrecord _ m₁ _ hpassed) (fun _ _ h => h) (fun _ _ h => h)
  · rintro evidence m₁ ⟨events, hpassed⟩
    exact hrecord evidence m₁ events hpassed
  · rintro raised m₁ h
    exact h

theorem recordRaisedClick_ends (hkind : kind.serialisable = true) :
    (recordRaisedClick driver session mutation kind).Ends m
      (Recording session mutation applied m) := by
  unfold recordRaisedClick
  refine Action.ends_bind (observe_ends driver session mutation m) ?_ ?_
  · rintro raw m₁ ⟨hpassed, _⟩
    refine (recordUnknown_ends applied hkind _).mono ?_
    rintro r m' ⟨events, receipt, hsettled, _⟩
    exact Or.inl ⟨_, receipt, hsettled.after hpassed⟩
  · rintro raised m₁ ⟨hpassed, _⟩
    exact Or.inr ⟨_, raised, hpassed.dropped, rfl⟩

theorem reconcile_ends (hkind : kind.serialisable = true) :
    (reconcile driver session mutation kind).Ends m (Recording session mutation applied m) := by
  unfold reconcile
  refine Action.ends_bind (observe_ends driver session mutation m) ?_ ?_
  · rintro observed m₁ ⟨hpassed, happlied⟩
    by_cases hobserved : observed.equals "applied" = true
    · rw [if_pos hobserved]
      refine (record_ends applied _ (storable_text hkind rfl) hpassed ?_).mono
        (fun _ _ ⟨events', hsettled⟩ => Or.inl ⟨events', _, hsettled⟩)
      refine Or.inr ⟨rfl, rfl, Or.inr ⟨_, List.mem_singleton_self _, ?_⟩⟩
      exact happlied observed rfl hobserved
    · rw [if_neg hobserved]
      unfold reconcileAbsent
      refine Action.ends_bind (capture_ends driver session mutation .uncertain false m₁) ?_ ?_
      · rintro evidence m₂ ⟨hcaptured, _⟩
        have hboth := hpassed.trans hcaptured
        by_cases hhash : observed.hashable = true
        · rw [if_pos hhash]
          -- A set may find an observation that `json.dumps` does not take.
          refine record_failure applied _ ?_ rfl hboth
          by_cases habsent : observed.equals "absent" = true <;> simp [habsent]
        · rw [if_neg hhash]
          exact Or.inr ⟨_, _, hboth.dropped, rfl⟩
      · rintro raised m₂ ⟨hcaptured, _⟩
        exact Or.inr ⟨_, raised, (hpassed.trans hcaptured).dropped, rfl⟩
  · rintro raised m₁ ⟨hpassed, _⟩
    exact Or.inr ⟨_, raised, hpassed.dropped, rfl⟩

/-- `_block` stores its receipt unless the screenshot is interrupted. -/
theorem block_ends (hkind : kind.serialisable = true) (reason : Reason) :
    (block driver session mutation kind reason).Ends m (fun r m' =>
      (∃ events receipt, Settled session mutation applied m m' events receipt) ∨
      (∃ events raised, Passed session.profileName mutation.key m m' events ∧
        r = .error raised ∧
          driver m.trace (screenshotCall session reason) = .error .interrupt)) := by
  unfold block
  refine Action.ends_bind (capture_ends driver session mutation reason false m) ?_ ?_
  · rintro evidence m₁ ⟨hpassed, _⟩
    exact (record_ends applied _ (storable_text hkind rfl) hpassed (Or.inl ⟨by simp, rfl⟩)).mono
      (fun _ _ ⟨events', hsettled⟩ => Or.inl ⟨events', _, hsettled⟩)
  · rintro raised m₁ ⟨hpassed, hinterrupt⟩
    exact Or.inr ⟨_, raised, hpassed, rfl, hinterrupt raised rfl rfl⟩

omit applied in
/-- The click is one driver call; it is taken as applied only when the driver says so. -/
theorem click_ends (driver : Driver) (session : OpenSession) (mutation : Mutation) (m : Manager) :
    (click driver session mutation).Ends m (fun r m' =>
      m' = m.log (clickEvent driver session mutation m) ∧
      (r = .ok .applied → ClickApplied driver session mutation m)) := by
  unfold Action.Ends click
  simp only [Action.handle, Action.bind_run, ask_run]
  cases hanswer : driver m.trace (.click session.sessionId mutation.selector) with
  | ok outcome =>
    by_cases hhash : outcome.hashable = true
    · simp only [hhash, if_true, Action.pure_run]
      refine ⟨by simp [clickEvent, hanswer], ?_⟩
      intro hr
      by_cases happlied : outcome.equals "applied" = true
      · exact ⟨outcome, hanswer, happlied⟩
      · rw [if_neg happlied] at hr
        split at hr <;> simp at hr
    · simp [hhash, clickEvent, hanswer]
  | error fault => cases fault <;> simp [clickEvent, hanswer]

/-- Behind the click, a receipt is stored or only driver calls were made. -/
theorem clickAndRecord_ends (hkind : kind.serialisable = true) :
    (clickAndRecord driver session mutation kind).Ends m
      (Recording session mutation (ClickApplied driver session mutation m)
        (m.log (clickEvent driver session mutation m))) := by
  unfold clickAndRecord
  refine Action.ends_bind (click_ends driver session mutation m) ?_ ?_
  · rintro outcome m₁ ⟨rfl, happlied⟩
    cases outcome with
    | applied =>
      refine (record_ends _ _ (storable_text hkind rfl) (passed_refl _ _ _) ?_).mono
        (fun _ _ ⟨events', hsettled⟩ => Or.inl ⟨events', _, hsettled⟩)
      exact Or.inr ⟨rfl, rfl, Or.inl (happlied rfl)⟩
    | uncertain => exact reconcile_ends _ hkind
    | raised => exact recordRaisedClick_ends _ hkind
    | error =>
      refine (block_ends (ClickApplied driver session mutation m) hkind .error).mono ?_
      rintro r m' (hsettled | ⟨events, raised, hpassed, hr, _⟩)
      · exact Or.inl hsettled
      · exact Or.inr ⟨events, raised, hpassed.dropped, hr⟩
  · rintro raised m₁ ⟨rfl, _⟩
    exact Or.inr ⟨[], raised, (passed_refl _ _ _).dropped, rfl⟩

omit applied in
theorem Settled.get? {applied : Prop} {events : List Event} {receipt : Receipt}
    (h : Settled session mutation applied m m' events receipt) :
    m'.seen.get? mutation.key = some receipt := by
  rcases h.verdict with ⟨verdict, rfl⟩
  rw [h.seen, Table.get?_put]
  exact if_pos rfl

theorem recordIfUnseen_ends (hkind : kind.serialisable = true)
    (hunseen : m.seen.get? mutation.key = none) :
    (recordIfUnseen driver session mutation kind).Ends m (fun _ m' =>
      ∃ events receipt, Settled session mutation applied m m' events receipt ∧
        receipt.status = .unknown) := by
  unfold recordIfUnseen
  refine Action.ends_bind (R := fun r m₁ => r = .ok none ∧ m₁ = m) ⟨?_, rfl⟩ ?_ ?_
  · simp [hunseen]
  · rintro found m₁ ⟨hfound, rfl⟩
    cases hfound
    exact Action.ends_bind (recordUnknown_ends applied hkind "unknown") (fun _ _ h => h)
      (fun _ _ h => h)
  · rintro raised m₁ ⟨hraised, _⟩
    cases hraised

/-- With its final block, a click always ends in a stored receipt. -/
theorem lastly_ends (hkind : kind.serialisable = true)
    (hnew : m.seen.get? mutation.key = none) :
    (Action.lastly (clickAndRecord driver session mutation kind)
      (recordIfUnseen driver session mutation kind)).Ends m (fun _ m' =>
        ∃ events receipt, Settled session mutation (ClickApplied driver session mutation m)
          (m.log (clickEvent driver session mutation m)) m' events receipt) := by
  refine Action.ends_lastly (clickAndRecord_ends hkind) ?_
  rintro r m₁ (⟨events, receipt, hsettled⟩ | ⟨events, raised, hdropped, _⟩)
  · -- The key is seen, so the final block does nothing.
    have hrun : recordIfUnseen driver session mutation kind m₁ = (.ok (), m₁) := by
      simp [recordIfUnseen, Action.bind_run, hsettled.get?]
    unfold Action.Ends
    rw [hrun]
    exact ⟨events, receipt, hsettled⟩
  · have hunseen : m₁.seen.get? mutation.key = none := by
      rw [hdropped.seen]
      exact hnew
    refine (recordIfUnseen_ends (ClickApplied driver session mutation m) hkind hunseen).mono ?_
    rintro last m₂ ⟨events', receipt, hsettled, hstatus⟩
    have hfailed : receipt.status ≠ .success := by
      rw [hstatus]
      decide
    cases last with
    | ok u => exact ⟨_, receipt, hsettled.after_dropped hfailed hdropped⟩
    | error e => exact ⟨_, receipt, hsettled.after_dropped hfailed hdropped⟩

end Parts

/-! ## One mutation -/

def pageEvent (driver : Driver) (session : OpenSession) (mutation : Mutation) (m : Manager) :
    Event :=
  .call session.profileName (some mutation.key) (.pageKind session.sessionId)
    (driver m.trace (.pageKind session.sessionId))

/-- What the answer to `page_kind` blocks a mutation for. -/
def blockReason : Except Fault Answer → Option Reason
  | .ok kind =>
    if kind.equals "captcha" then some .captcha
    else if kind.equals "verification" then some .verification
    else if kind.equals "normal" then none
    else some .unknownPage
  | .error .timeout => some .timeout
  | .error .connection => some .connection
  | .error _ => some .error

/-- The page kind that is recorded for an answer. -/
def recordedKind : Except Fault Answer → Answer
  | .ok kind => kind
  | .error _ => .text "unknown"

/-- `mutate` with a new key and an open session, behind the answer to `page_kind`. -/
theorem mutatePage_run (hanswer : driver m.trace (.pageKind session.sessionId) ≠ .error .interrupt) :
    mutatePage driver session mutation m =
      (match blockReason (driver m.trace (.pageKind session.sessionId)) with
        | some reason =>
          block driver session mutation
            (recordedKind (driver m.trace (.pageKind session.sessionId))) reason
        | none =>
          Action.lastly
            (clickAndRecord driver session mutation
              (recordedKind (driver m.trace (.pageKind session.sessionId))))
            (recordIfUnseen driver session mutation
              (recordedKind (driver m.trace (.pageKind session.sessionId)))))
        (m.log (pageEvent driver session mutation m)) := by
  unfold mutatePage pageKind pageEvent
  simp only [Action.bind_run, Action.handle, ask_run]
  cases h : driver m.trace (.pageKind session.sessionId) with
  | error fault =>
    cases fault with
    | interrupt => exact absurd h hanswer
    | timeout => rfl
    | connection => rfl
    | exception => rfl
  | ok kind =>
    simp only [Action.pure_run, recordedKind, blockReason]
    by_cases hcaptcha : kind.equals "captcha" = true
    · simp [hcaptcha]
    by_cases hverification : kind.equals "verification" = true
    · simp [hcaptcha, hverification]
    by_cases hnormal : kind.equals "normal" = true
    · simp [hcaptcha, hverification, hnormal]
    · simp [hcaptcha, hverification, hnormal]

def Event.isStored : Event → Bool
  | .stored _ => true
  | _ => false

/-- The driver applied a click, or observed it applied. -/
def Event.Applied : Event → Prop
  | .call _ _ (.click _ _) (.ok answer) => answer.equals "applied" = true
  | .call _ _ (.observe _) (.ok answer) => answer.equals "applied" = true
  | _ => False

/-- The call is a new mutation on an open and healthy session: its arguments pass, its key is new, and
the page kind is a text or an exception. -/
structure Admitted (driver : Driver) (call : MutateCall) (m : Manager) (session : OpenSession)
    (mutation : Mutation) : Prop where
  arguments : checkArguments call m = (.ok mutation, m)
  new : m.seen.get? mutation.key = none
  opened : m.sessions call.profileName = some session
  unlocked : session.locked = false
  healthy : session.healthy = true
  page : (∃ kind, driver m.trace (.pageKind session.sessionId) = .ok (.text kind)) ∨
    ∃ fault, fault ≠ .interrupt ∧ driver m.trace (.pageKind session.sessionId) = .error fault

/-- One receipt is stored for the key, and the session is tainted unless the click was applied. -/
def LeavesReceipt (driver : Driver) (call : MutateCall) (m : Manager) (mutation : Mutation) : Prop :=
  let m' := (mutate driver call m).2
  ∃ events receipt, m'.trace = m.trace ++ events ∧
    events.filter Event.isStored = [.stored receipt] ∧
    m'.seen.get? mutation.key = some receipt ∧
    ((receipt.status ≠ .success ∧
        ∃ session', m'.sessions call.profileName = some session' ∧ session'.healthy = false) ∨
      ∃ e ∈ events, e.Applied)

/-- The screenshot of a blocked page is not interrupted. -/
def BlockedPageShown (driver : Driver) (m : Manager) (session : OpenSession) (mutation : Mutation) :
    Prop :=
  ∀ reason, blockReason (driver m.trace (.pageKind session.sessionId)) = some reason →
    driver (m.trace ++ [pageEvent driver session mutation m]) (screenshotCall session reason) ≠
      .error .interrupt

theorem Aside.not_stored {p key : String} {e : Event} (h : Aside p key e) : e.isStored = false := by
  cases e with
  | call p' key' c answer => rfl
  | stored receipt => exact h.elim
  | opened p' => rfl
  | restarted p' => rfl
  | readFailed p' => rfl

theorem ObservedApplied.applied {e : Event} (h : ObservedApplied e) : e.Applied := by
  unfold ObservedApplied at h
  split at h
  · exact h
  · exact h.elim

/-- A stored receipt behind the first calls of a mutation. -/
theorem Settled.leavesReceipt {call : MutateCall} {applied : Prop} {m₁ : Manager}
    {events : List Event} {receipt : Receipt}
    (h : Settled session mutation applied m₁ (mutate driver call m).2 events receipt)
    (first : List Event) (htrace : m₁.trace = m.trace ++ first) (hfirst : ∀ e ∈ first, e.isStored = false)
    (hsessions : m₁.sessions = m.sessions) (happlied : applied → ∃ e ∈ first, e.Applied)
    (hnamed : session.profileName = call.profileName)
    (hopened : m.sessions call.profileName = some session) :
    LeavesReceipt driver call m mutation := by
  refine ⟨first ++ events ++ [.stored receipt], receipt, ?_, ?_, h.get?, ?_⟩
  · rw [h.trace, htrace]
    simp
  · have hnone : (first ++ events).filter Event.isStored = [] := by
      rw [List.filter_eq_nil_iff]
      intro e he
      rcases List.mem_append.1 he with he | he
      · simp [hfirst e he]
      · simp [(h.aside e he).not_stored]
    rw [List.filter_append, hnone]
    rfl
  · rcases h.outcome with ⟨hstatus, hkept⟩ | ⟨_, _, hclick | ⟨e, he, hobserved⟩⟩
    · refine Or.inl ⟨hstatus, { session with healthy := false }, ?_, rfl⟩
      rw [hkept]
      simp [Manager.taint, Manager.setSession, hnamed, hsessions, hopened]
    · rcases happlied hclick with ⟨e, he, happ⟩
      exact Or.inr ⟨e, by simp [he], happ⟩
    · exact Or.inr ⟨e, by simp [he], hobserved.applied⟩

theorem mutate_admitted {call : MutateCall} (h : Admitted driver call m session mutation) :
    mutate driver call m = mutatePage driver session mutation m := by
  simp [mutate, Action.bind_run, h.arguments, h.new, requireOpen, h.opened, h.unlocked, h.healthy]

/-- A blocked mutation whose screenshot is interrupted stores nothing. -/
theorem block_interrupted {kind : Answer} {reason : Reason}
    (h : driver m.trace (screenshotCall session reason) = .error .interrupt) :
    (block driver session mutation kind reason m).2.seen = m.seen := by
  simp [block, Action.bind_run, capture_run, h]

/-- An admitted mutation leaves its receipt exactly when the screenshot of a blocked page is not
interrupted. -/
theorem leavesReceipt_iff {call : MutateCall} (h : Admitted driver call m session mutation)
    (hnamed : session.profileName = call.profileName) :
    LeavesReceipt driver call m mutation ↔ BlockedPageShown driver m session mutation := by
  have hanswer : driver m.trace (.pageKind session.sessionId) ≠ .error .interrupt := by
    rcases h.page with ⟨kind, hkind⟩ | ⟨fault, hfault, hkind⟩
    · simp [hkind]
    · rw [hkind]
      exact fun heq => hfault (Except.error.inj heq)
  have hkind : (recordedKind (driver m.trace (.pageKind session.sessionId))).serialisable =
      true := by
    rcases h.page with ⟨kind, hpage⟩ | ⟨fault, _, hpage⟩ <;> simp [hpage, recordedKind,
      Answer.serialisable]
  have hrun := (mutate_admitted h).trans (mutatePage_run hanswer)
  have hnew : (m.log (pageEvent driver session mutation m)).seen.get? mutation.key = none := h.new
  cases hreason : blockReason (driver m.trace (.pageKind session.sessionId)) with
  | none =>
    -- The page is normal; the click and its final block store a receipt.
    rw [hreason] at hrun
    refine iff_of_true ?_ (fun reason hsome => by rw [hreason] at hsome; cases hsome)
    have hends : (Action.lastly
        (clickAndRecord driver session mutation
          (recordedKind (driver m.trace (.pageKind session.sessionId))))
        (recordIfUnseen driver session mutation
          (recordedKind (driver m.trace (.pageKind session.sessionId))))).Ends
          (m.log (pageEvent driver session mutation m)) _ := lastly_ends hkind hnew
    unfold Action.Ends at hends
    dsimp only at hrun
    rw [← hrun] at hends
    rcases hends with ⟨events, receipt, hsettled⟩
    refine hsettled.leavesReceipt [pageEvent driver session mutation m,
      clickEvent driver session mutation (m.log (pageEvent driver session mutation m))]
      (by simp) ?_ rfl ?_ hnamed h.opened
    · simp [pageEvent, clickEvent, Event.isStored]
    · intro happlied
      refine ⟨_, List.mem_cons_of_mem _ (List.mem_singleton_self _), ?_⟩
      rcases happlied with ⟨answer, hanswer', hequals⟩
      rw [clickEvent, hanswer']
      exact hequals
  | some reason =>
    rw [hreason] at hrun
    dsimp only at hrun
    constructor
    · rintro ⟨events, receipt, _, _, hseen, _⟩ reason' hsome
      rw [hreason] at hsome
      cases hsome
      intro hinterrupt
      rw [hrun, block_interrupted hinterrupt, hnew] at hseen
      cases hseen
    · intro hshown
      have hends : (block driver session mutation _ reason).Ends
          (m.log (pageEvent driver session mutation m)) _ := block_ends False hkind reason
      unfold Action.Ends at hends
      rw [← hrun] at hends
      rcases hends with ⟨events, receipt, hsettled⟩ | ⟨_, _, _, _, hinterrupt⟩
      · exact hsettled.leavesReceipt [pageEvent driver session mutation m] (by simp)
          (by simp [pageEvent, Event.isStored]) rfl (fun hfalse => hfalse.elim) hnamed h.opened
      · exact absurd hinterrupt (hshown reason hreason)

end Browser
end Integrations
end MoneyMachine
