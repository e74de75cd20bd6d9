import MoneyMachine.Integrations.BrowserMutations
import MoneyMachine.Library.Traces
import Mathlib.Logic.Relation

/-!
# BrowserRuns — a manager over all its calls

`Move` is everything the manager can do to its state, one constructor a place of the source, each with
the guard that place checked.  `Move.lawful` derives every invariant from it; the operations are
sequences of moves.

* `never_clicked_twice` : over all runs, for every driver;
* `one_receipt_iff`     : for every admitted mutation of a reachable manager.
-/

namespace MoneyMachine
namespace Integrations
namespace Browser

open MoneyMachine.Domain
open MoneyMachine.Library
open Relation

/-! ## Moves -/

/-- The clicks made for a key. -/
def clicks (key : String) (trace : List Event) : Nat :=
  trace.countP (fun e =>
    match e with
    | .call _ key' (.click _ _) _ => decide (key' = some key)
    | _ => false)

/-- A token that `_require_token` accepts. -/
def ValidToken (value : String) : Prop :=
  value ≠ "" ∧ value = stripBy isSpace value

/-- A receipt of arguments that passed their checks. -/
structure ValidReceipt (receipt : Receipt) : Prop where
  jobId : ValidToken receipt.jobId
  workspace : ValidToken receipt.workspace
  target : ValidToken receipt.target
  key : ValidToken receipt.idempotencyKey
  operation : ∃ selector, mutationSelectors.lookup receipt.operation = some selector

/-- Driver calls that say nothing about a session. -/
def Event.Neutral : Event → Prop
  | .call _ _ (.screenshot _ _) _ => True
  | .call _ _ (.observe _) _ => True
  | .call _ _ (.close _) (.ok _) => True
  | _ => False

/-- A read ended by an interrupt. -/
def Event.isInterruptedRead : Event → Bool
  | .call _ _ (.read _ _) (.error .interrupt) => true
  | _ => false

/-- A close ended by an interrupt. -/
def Event.isInterruptedClose : Event → Bool
  | .call _ _ (.close _) (.error .interrupt) => true
  | _ => false

/-- A page kind that passes for a normal page and that `json.dumps` does not take. -/
def Event.isUnstorablePage : Event → Bool
  | .call _ _ (.pageKind _) (.ok kind) =>
    decide (blockReason (.ok kind) = none) && !kind.serialisable
  | _ => false

/-- The session of a profile is open, healthy and not locked. -/
def Usable (p : String) (m : Manager) : Prop :=
  ∃ session, m.sessions p = some session ∧ session.healthy = true ∧ session.locked = false

/-- Everything the manager does to its state. -/
inductive Move : Manager → Manager → Prop
  | neutral {m : Manager} {e : Event} (h : e.Neutral) : Move m (m.log e)
  | pageKind {m : Manager} {p sid : String} {key : Option String} {answer : Except Fault Answer}
      (h : Usable p m) : Move m (m.log (.call p key (.pageKind sid) answer))
  | read {m : Manager} {p sid selector : String} {answer : Except Fault Answer}
      (h : Usable p m) : Move m (m.log (.call p none (.read sid selector) answer))
  | click {m : Manager} {p key sid selector : String} {answer : Except Fault Answer}
      (h : Usable p m)
      (hnew : clicks key m.trace = 0 ∨ ∃ e ∈ m.trace, e.isUnstorablePage = true) :
      Move m (m.log (.call p (some key) (.click sid selector) answer))
  | opening {m : Manager} {p : String} {answer : Except Fault Answer} (h : m.sessions p = none) :
      Move m (m.log (.call p none (.open p) answer))
  | opened {m : Manager} {p sid : String} (h : m.sessions p = none) :
      Move m ((m.setSession p (some ⟨p, sid, true, false⟩)).log (.opened p))
  | closeFailed {m : Manager} {p : String} {value : Answer} {fault : Fault}
      {session : OpenSession} (hfault : fault ≠ .interrupt) (hname : session.profileName = p)
      (hlocked : session.locked = true) :
      Move m ((m.log (.call p none (.close value) (.error fault))).setSession p (some session))
  | closeInterrupted {m : Manager} {p : String} {value : Answer} :
      Move m (m.log (.call p none (.close value) (.error .interrupt)))
  | restarted {m : Manager} {p : String} {session : OpenSession}
      (h : m.sessions p = some session) (hlocked : session.locked = false) :
      Move m ((m.setSession p none).log (.restarted p))
  | taint {m : Manager} {p : String} : Move m (m.taint p)
  | readFailed {m : Manager} {p : String} {session : OpenSession}
      (h : m.sessions p = some session) (htainted : session.healthy = false) :
      Move m (m.log (.readFailed p))
  | readInterrupted {m : Manager} {p : String} (h : ∃ e ∈ m.trace, e.isInterruptedRead = true) :
      Move m (m.log (.readFailed p))
  | store {m : Manager} {receipt : Receipt} (hnew : m.seen.get? receipt.idempotencyKey = none)
      (hvalid : ValidReceipt receipt)
      (hstatus : receipt.status = .success ∨ ∃ session,
        m.sessions receipt.profileName = some session ∧ session.healthy = false) :
      Move m (m.store receipt)

/-- A sequence of moves. -/
def Moves : Manager → Manager → Prop :=
  ReflTransGen Move

/-! ## Laws of a trace -/

/-- A receipt or a read after which the session must be restarted. -/
def Event.Fails (p : String) : Event → Prop
  | .stored receipt => receipt.profileName = p ∧ receipt.status ≠ .success
  | .readFailed p' => p' = p
  | _ => False

/-- A call that needs a healthy session. -/
def Event.Uses (p : String) : Event → Prop
  | .call p' _ (.pageKind _) _ => p' = p
  | .call p' _ (.click _ _) _ => p' = p
  | .call p' _ (.read _ _) _ => p' = p
  | _ => False

/-- A close that raised. -/
def Event.FailedClose (p : String) : Event → Prop
  | .call p' _ (.close _) (.error _) => p' = p
  | _ => False

/-- The profile is opened, read or clicked. -/
def Event.Touches (p : String) : Event → Prop
  | .call p' _ (.open _) _ => p' = p
  | .call p' _ (.click _ _) _ => p' = p
  | .call p' _ (.read _ _) _ => p' = p
  | _ => False

/-- Between a failure and the next use of a profile, it was restarted and opened again. -/
def RestartedBeforeUse (p : String) (trace : List Event) : Prop :=
  ∀ before failure between use after,
    trace = before ++ failure :: (between ++ use :: after) → failure.Fails p → use.Uses p →
      [Event.restarted p, .opened p].Sublist between

/-- After a failed close the profile is not touched. -/
def ClosedForGood (p : String) (trace : List Event) : Prop :=
  ∀ before failure between use after,
    trace = before ++ failure :: (between ++ use :: after) → failure.FailedClose p → ¬ use.Touches p

/-- Every failure was followed by a restart and a new session. -/
def Reopened (p : String) (trace : List Event) : Prop :=
  ∀ before failure between, trace = before ++ failure :: between → failure.Fails p →
    [Event.restarted p, .opened p].Sublist between

/-- Every failure was followed by a restart. -/
def Restarted (p : String) (trace : List Event) : Prop :=
  ∀ before failure between, trace = before ++ failure :: between → failure.Fails p →
    Event.restarted p ∈ between

section Traces

variable {p : String} {trace : List Event} {e : Event}

theorem RestartedBeforeUse.concat (h : RestartedBeforeUse p trace)
    (hlast : e.Uses p → Reopened p trace) : RestartedBeforeUse p (trace ++ [e]) := by
  intro before failure between use after htrace hfails huses
  have hcut : trace ++ [e] = (before ++ failure :: between) ++ use :: after := by
    simpa using htrace
  rcases cut_of_concat hcut with ⟨_, hrest, rfl⟩ | ⟨rest, _, hrest⟩
  · exact hlast huses before failure between hrest hfails
  · exact h before failure between use rest (by simpa using hrest) hfails huses

theorem Reopened.concat (h : Reopened p trace) (hlast : ¬ e.Fails p) :
    Reopened p (trace ++ [e]) := by
  intro before failure between htrace hfails
  rcases cut_of_concat htrace with ⟨_, _, rfl⟩ | ⟨rest, rfl, hrest⟩
  · exact absurd hfails hlast
  · exact (h before failure rest hrest hfails).trans (List.sublist_append_left _ _)

theorem Restarted.concat (h : Restarted p trace) (hlast : ¬ e.Fails p) :
    Restarted p (trace ++ [e]) := by
  intro before failure between htrace hfails
  rcases cut_of_concat htrace with ⟨_, _, rfl⟩ | ⟨rest, rfl, hrest⟩
  · exact absurd hfails hlast
  · exact List.mem_append_left _ (h before failure rest hrest hfails)

theorem restarted_concat : Restarted p (trace ++ [.restarted p]) := by
  intro before failure between htrace hfails
  rcases cut_of_concat htrace with ⟨_, _, rfl⟩ | ⟨rest, rfl, _⟩
  · exact hfails.elim
  · simp

theorem Restarted.reopened (h : Restarted p trace) : Reopened p (trace ++ [.opened p]) := by
  intro before failure between htrace hfails
  rcases cut_of_concat htrace with ⟨_, _, rfl⟩ | ⟨rest, rfl, hrest⟩
  · exact hfails.elim
  · have hmem := h before failure rest hrest hfails
    exact (List.singleton_sublist.2 hmem).append (List.Sublist.refl [Event.opened p])

theorem ClosedForGood.concat (h : ClosedForGood p trace)
    (hlast : e.Touches p → ∀ e' ∈ trace, ¬ e'.FailedClose p) : ClosedForGood p (trace ++ [e]) := by
  intro before failure between use after htrace hfailed htouches
  have hcut : trace ++ [e] = (before ++ failure :: between) ++ use :: after := by
    simpa using htrace
  rcases cut_of_concat hcut with ⟨_, hrest, rfl⟩ | ⟨rest, _, hrest⟩
  · exact hlast htouches failure (by simp [hrest]) hfailed
  · exact h before failure between use rest (by simpa using hrest) hfailed htouches

end Traces

/-! ## Invariants -/

section Invariants

variable {m m' : Manager} {p : String} {e : Event}

/-- What the trace and the session of a profile say about failures. -/
structure Guarded (p : String) (m : Manager) : Prop where
  respected : RestartedBeforeUse p m.trace
  usable : Usable p m → Reopened p m.trace
  closed : m.sessions p = none → Restarted p m.trace

/-- What the trace and the session of a profile say about failed closes. -/
structure LockedUp (p : String) (m : Manager) : Prop where
  locked : ∀ e ∈ m.trace, e.FailedClose p →
    ∃ session, m.sessions p = some session ∧ session.locked = true
  untouched : ClosedForGood p m.trace

theorem Guarded.log (h : Guarded p m) (huses : e.Uses p → Usable p m) (hfails : ¬ e.Fails p) :
    Guarded p (m.log e) where
  respected := h.respected.concat (fun he => h.usable (huses he))
  usable := fun husable => (h.usable husable).concat hfails
  closed := fun hclosed => (h.closed hclosed).concat hfails

/-- A failure of a session that is not usable any more. -/
theorem Guarded.log_failure (h : Guarded p m) (huses : ¬ e.Uses p) (hunusable : ¬ Usable p m)
    (hopen : m.sessions p ≠ none) : Guarded p (m.log e) where
  respected := h.respected.concat (fun he => absurd he huses)
  usable := fun husable => absurd husable hunusable
  closed := fun hclosed => absurd hclosed hopen

theorem not_usable_of_tainted {session : OpenSession} (h : m.sessions p = some session)
    (htainted : session.healthy = false) : ¬ Usable p m := by
  rintro ⟨session', hsession', hhealthy, _⟩
  rw [h] at hsession'
  cases hsession'
  rw [htainted] at hhealthy
  cases hhealthy

/-- A move of another profile's session. -/
theorem Guarded.setSession_of_ne {p' : String} {session : Option OpenSession} (h : Guarded p m)
    (hne : p ≠ p') : Guarded p (m.setSession p' session) where
  respected := h.respected
  usable := by
    rintro ⟨found, hfound, husable⟩
    refine h.usable ⟨found, ?_, husable⟩
    simpa [Manager.setSession, Function.update_of_ne hne] using hfound
  closed := by
    intro hclosed
    refine h.closed ?_
    simpa [Manager.setSession, Function.update_of_ne hne] using hclosed

theorem Guarded.setSession {session : OpenSession} (h : Guarded p m)
    (husable : session.healthy = true → session.locked = false → Reopened p m.trace) :
    Guarded p (m.setSession p (some session)) where
  respected := h.respected
  usable := by
    rintro ⟨found, hfound, hhealthy, hlocked⟩
    simp only [Manager.setSession, Function.update_self, Option.some.injEq] at hfound
    subst hfound
    exact husable hhealthy hlocked
  closed := by
    intro hclosed
    simp [Manager.setSession] at hclosed

theorem LockedUp.log (h : LockedUp p m) (hclose : ¬ e.FailedClose p)
    (htouches : e.Touches p → Usable p m ∨ m.sessions p = none) : LockedUp p (m.log e) where
  locked := by
    intro e' he' hfailed
    rcases List.mem_append.1 he' with he' | he'
    · exact h.locked e' he' hfailed
    · rw [List.mem_singleton.1 he'] at hfailed
      exact absurd hfailed hclose
  untouched := by
    refine h.untouched.concat ?_
    intro hlast e' he' hfailed
    rcases h.locked e' he' hfailed with ⟨session, hsession, hlocked⟩
    rcases htouches hlast with ⟨found, hfound, _, hunlocked⟩ | hnone
    · rw [hsession] at hfound
      cases hfound
      rw [hlocked] at hunlocked
      cases hunlocked
    · rw [hsession] at hnone
      cases hnone

/-- A session that stays locked, or was not. -/
theorem LockedUp.setSession {p' : String} {session : Option OpenSession} (h : LockedUp p m)
    (hlocked : p = p' → ∀ found, m.sessions p = some found → found.locked = true →
      ∃ session', session = some session' ∧ session'.locked = true) :
    LockedUp p (m.setSession p' session) where
  locked := by
    intro e he hfailed
    rcases h.locked e he hfailed with ⟨found, hfound, hflag⟩
    by_cases hp : p = p'
    · rcases hlocked hp found hfound hflag with ⟨session', rfl, hflag'⟩
      exact ⟨session', by simp [Manager.setSession, hp], hflag'⟩
    · exact ⟨found, by simpa [Manager.setSession, Function.update_of_ne hp] using hfound, hflag⟩
  untouched := h.untouched

/-- A failed close locks the profile. -/
theorem LockedUp.closeFailed {p' : String} {value : Answer} {fault : Fault} {session : OpenSession}
    (h : LockedUp p m) (hlocked : session.locked = true) :
    LockedUp p ((m.log (.call p' none (.close value) (.error fault))).setSession p'
      (some session)) where
  locked := by
    intro e he hfailed
    by_cases hp : p = p'
    · exact ⟨session, by simp [Manager.setSession, hp], hlocked⟩
    · have hlast : ¬ (Event.call p' none (.close value) (.error fault)).FailedClose p :=
        fun heq => hp (Eq.symm heq)
      have hold : e ∈ m.trace := by
        rcases List.mem_append.1 he with he | he
        · exact he
        · rw [List.mem_singleton.1 he] at hfailed
          exact absurd hfailed hlast
      rcases h.locked e hold hfailed with ⟨found, hfound, hflag⟩
      exact ⟨found, by simpa [Manager.setSession, Function.update_of_ne hp] using hfound, hflag⟩
  untouched := h.untouched.concat (fun htouches => htouches.elim)

/-- The invariants of a manager. -/
structure Lawful (m : Manager) : Prop where
  named : ∀ p session, m.sessions p = some session → session.profileName = p
  valid : ∀ key receipt, m.seen.get? key = some receipt → ValidReceipt receipt
  once : (∀ e ∈ m.trace, e.isUnstorablePage = false) → ∀ key, clicks key m.trace ≤ 1
  guarded : (∀ e ∈ m.trace, e.isInterruptedRead = false) → ∀ p, Guarded p m
  lockedUp : (∀ e ∈ m.trace, e.isInterruptedClose = false) → ∀ p, LockedUp p m

theorem Move.extends (h : Move m m') : m.trace <+: m'.trace := by
  cases h with
  | taint => exact List.prefix_refl _
  | _ => exact List.prefix_append _ _

theorem Move.named (h : Move m m')
    (hnamed : ∀ p session, m.sessions p = some session → session.profileName = p) :
    ∀ p session, m'.sessions p = some session → session.profileName = p := by
  have hset : ∀ (m₁ : Manager) (p' : String) (found : Option OpenSession),
      m₁.sessions = m.sessions → (∀ session, found = some session → session.profileName = p') →
        ∀ p session, (m₁.setSession p' found).sessions p = some session →
          session.profileName = p := by
    intro m₁ p' found hm₁ hfound p session hsession
    by_cases hp : p = p'
    · subst hp
      exact hfound session (by simpa [Manager.setSession] using hsession)
    · refine hnamed p session ?_
      simpa [Manager.setSession, Function.update_of_ne hp, hm₁] using hsession
  cases h with
  | opened => exact hset _ _ _ rfl (by rintro session ⟨⟩; rfl)
  | closeFailed _ hname _ => exact hset _ _ _ rfl (by rintro session ⟨⟩; exact hname)
  | restarted => exact hset _ _ _ rfl (by rintro session ⟨⟩)
  | @taint p' =>
    refine hset _ _ _ rfl ?_
    intro session hsession
    rcases Option.map_eq_some_iff.1 hsession with ⟨found, hfound, rfl⟩
    exact hnamed p' found hfound
  | _ => exact hnamed

/-- Recorded receipts stay. -/
theorem Move.kept (h : Move m m') {key : String} {receipt : Receipt}
    (hseen : m.seen.get? key = some receipt) : m'.seen.get? key = some receipt := by
  cases h with
  | @store new hnew _ _ =>
    rw [Manager.store_seen, Table.get?_put]
    split
    · rename_i heq
      rw [heq, hseen] at hnew
      cases hnew
    · exact hseen
  | _ => exact hseen

theorem Move.valid (h : Move m m')
    (hvalid : ∀ key receipt, m.seen.get? key = some receipt → ValidReceipt receipt) :
    ∀ key receipt, m'.seen.get? key = some receipt → ValidReceipt receipt := by
  cases h with
  | store _ hnew _ =>
    intro key receipt hseen
    rw [Manager.store_seen, Table.get?_put] at hseen
    split at hseen
    · cases hseen
      exact hnew
    · exact hvalid key receipt hseen
  | _ => exact hvalid

theorem clicks_concat (key : String) (trace : List Event) (e : Event) :
    clicks key (trace ++ [e]) = clicks key trace + clicks key [e] := by
  simp [clicks]

/-- Only a click moves the count, and only from zero. -/
theorem Move.once (h : Move m m') (hpages : ∀ e ∈ m.trace, e.isUnstorablePage = false)
    (honce : ∀ key, clicks key m.trace ≤ 1) (key : String) : clicks key m'.trace ≤ 1 := by
  have hother : ∀ e, clicks key [e] = 0 → clicks key (m.trace ++ [e]) ≤ 1 := by
    intro e he
    rw [clicks_concat, he]
    exact honce key
  cases h with
  | @click p key' sid selector answer _ hnew =>
    rw [Manager.log_trace, clicks_concat]
    by_cases hkey : key' = key
    · have hfirst : clicks key m.trace = 0 := by
        rcases hnew with hnew | ⟨e, he, hpage⟩
        · rw [← hkey]
          exact hnew
        · rw [hpages e he] at hpage
          cases hpage
      rw [hfirst]
      simp [clicks, hkey]
    · have hzero : clicks key [Event.call p (some key') (.click sid selector) answer] = 0 := by
        simp [clicks, hkey]
      rw [hzero]
      exact honce key
  | @neutral e hneutral =>
    refine hother e ?_
    unfold Event.Neutral at hneutral
    split at hneutral <;> first | rfl | exact hneutral.elim
  | taint => exact honce key
  | pageKind => exact hother _ rfl
  | read => exact hother _ rfl
  | opening => exact hother _ rfl
  | opened => exact hother _ rfl
  | closeFailed => exact hother _ rfl
  | closeInterrupted => exact hother _ rfl
  | restarted => exact hother _ rfl
  | readFailed => exact hother _ rfl
  | readInterrupted => exact hother _ rfl
  | store => exact hother _ rfl

theorem Event.Neutral.quiet (h : e.Neutral) :
    ¬ e.Uses p ∧ ¬ e.Fails p ∧ ¬ e.Touches p ∧ ¬ e.FailedClose p := by
  unfold Event.Neutral at h
  split at h <;> first
    | exact ⟨fun h => h, fun h => h, fun h => h, fun h => h⟩
    | exact h.elim

theorem Move.guarded (h : Move m m') (hreads : ∀ e ∈ m'.trace, e.isInterruptedRead = false)
    (hguarded : Guarded p m) : Guarded p m' := by
  cases h with
  | neutral hneutral =>
    exact hguarded.log (fun huses => absurd huses hneutral.quiet.1) hneutral.quiet.2.1
  | pageKind husable => exact hguarded.log (fun huses => huses ▸ husable) (fun h => h)
  | read husable => exact hguarded.log (fun huses => huses ▸ husable) (fun h => h)
  | click husable _ => exact hguarded.log (fun huses => huses ▸ husable) (fun h => h)
  | opening => exact hguarded.log (fun huses => huses.elim) (fun h => h)
  | closeInterrupted => exact hguarded.log (fun huses => huses.elim) (fun h => h)
  | @opened p' sid hnone =>
    by_cases hp : p = p'
    · subst hp
      -- The restart before is what the new session needs.
      have hreopened := (hguarded.closed hnone).reopened
      exact
        { respected := hguarded.respected.concat (fun huses => huses.elim)
          usable := fun _ => hreopened
          closed := fun hclosed => by simp [Manager.setSession] at hclosed }
    · exact (hguarded.setSession_of_ne hp).log (fun huses => huses.elim) (fun h => h)
  | @closeFailed p' value fault session _ _ hlocked =>
    have hlogged : Guarded p (m.log (.call p' none (.close value) (.error fault))) :=
      hguarded.log (fun huses => huses.elim) (fun h => h)
    by_cases hp : p = p'
    · subst hp
      refine hlogged.setSession ?_
      intro _ hunlocked
      rw [hlocked] at hunlocked
      cases hunlocked
    · exact hlogged.setSession_of_ne hp
  | @restarted p' session _ _ =>
    by_cases hp : p = p'
    · subst hp
      refine
        { respected := hguarded.respected.concat (fun huses => huses.elim)
          usable := ?_
          closed := fun _ => restarted_concat }
      rintro ⟨found, hfound, _⟩
      simp [Manager.setSession] at hfound
    · exact (hguarded.setSession_of_ne hp).log (fun huses => huses.elim) (fun h => h)
  | @taint p' =>
    by_cases hp : p = p'
    · subst hp
      unfold Manager.taint
      cases hsession : m.sessions p with
      | none =>
        exact
          { respected := hguarded.respected
            usable := by
              rintro ⟨found, hfound, _⟩
              simp [Manager.setSession] at hfound
            closed := fun _ => hguarded.closed hsession }
      | some session => exact hguarded.setSession (fun hhealthy => by simp at hhealthy)
    · exact hguarded.setSession_of_ne hp
  | @readFailed p' session hsession htainted =>
    by_cases hp : p = p'
    · subst hp
      exact hguarded.log_failure (fun huses => huses) (not_usable_of_tainted hsession htainted)
        (by simp [hsession])
    · exact hguarded.log (fun huses => huses.elim) (fun heq => hp heq.symm)
  | readInterrupted hinterrupted =>
    rcases hinterrupted with ⟨e, he, hread⟩
    rw [hreads e (List.mem_append_left _ he)] at hread
    cases hread
  | @store receipt _ _ hstatus =>
    have hstored : Guarded p (m.log (.stored receipt)) := by
      by_cases hfails : (Event.stored receipt).Fails p
      · rcases hfails with ⟨hp, hnot⟩
        rcases hstatus with hsuccess | ⟨session, hsession, htainted⟩
        · exact absurd hsuccess hnot
        · rw [hp] at hsession
          exact hguarded.log_failure (fun huses => huses)
            (not_usable_of_tainted hsession htainted) (by simp [hsession])
      · exact hguarded.log (fun huses => huses.elim) hfails
    exact ⟨hstored.respected, hstored.usable, hstored.closed⟩

theorem Move.lockedUp (h : Move m m') (hcloses : ∀ e ∈ m'.trace, e.isInterruptedClose = false)
    (hlocked : LockedUp p m) : LockedUp p m' := by
  cases h with
  | neutral hneutral =>
    exact hlocked.log hneutral.quiet.2.2.2 (fun htouches => absurd htouches hneutral.quiet.2.2.1)
  | pageKind => exact hlocked.log (fun h => h) (fun htouches => htouches.elim)
  | read husable => exact hlocked.log (fun h => h) (fun htouches => Or.inl (htouches ▸ husable))
  | click husable _ =>
    exact hlocked.log (fun h => h) (fun htouches => Or.inl (htouches ▸ husable))
  | opening hnone => exact hlocked.log (fun h => h) (fun htouches => Or.inr (htouches ▸ hnone))
  | @opened p' sid hnone =>
    refine LockedUp.log ?_ (fun h => h) (fun htouches => htouches.elim)
    refine hlocked.setSession ?_
    intro hp found hfound
    rw [hp, hnone] at hfound
    cases hfound
  | closeFailed _ _ hflag => exact hlocked.closeFailed hflag
  | closeInterrupted =>
    have := hcloses _ (List.mem_append_right _ (List.mem_singleton_self _))
    cases this
  | @restarted p' session hsession hunlocked =>
    refine LockedUp.log ?_ (fun h => h) (fun htouches => htouches.elim)
    refine hlocked.setSession ?_
    intro hp found hfound hflag
    rw [hp, hsession] at hfound
    cases hfound
    rw [hunlocked] at hflag
    cases hflag
  | taint =>
    refine hlocked.setSession ?_
    rintro rfl found hfound hflag
    exact ⟨{ found with healthy := false }, by rw [hfound]; rfl, hflag⟩
  | readFailed => exact hlocked.log (fun h => h) (fun htouches => htouches.elim)
  | readInterrupted => exact hlocked.log (fun h => h) (fun htouches => htouches.elim)
  | @store receipt _ _ _ =>
    have hstored : LockedUp p (m.log (.stored receipt)) :=
      hlocked.log (fun h => h) (fun htouches => htouches.elim)
    exact ⟨hstored.locked, hstored.untouched⟩

theorem Move.lawful (h : Move m m') (hlawful : Lawful m) : Lawful m' where
  named := h.named hlawful.named
  valid := h.valid hlawful.valid
  once := fun hpages =>
    have hbefore := fun e he => hpages e (h.extends.subset he)
    h.once hbefore (hlawful.once hbefore)
  guarded := fun hreads p =>
    h.guarded hreads (hlawful.guarded (fun e he => hreads e (h.extends.subset he)) p)
  lockedUp := fun hcloses p =>
    h.lockedUp hcloses (hlawful.lockedUp (fun e he => hcloses e (h.extends.subset he)) p)

theorem Moves.lawful (h : Moves m m') (hlawful : Lawful m) : Lawful m' := by
  induction h with
  | refl => exact hlawful
  | tail _ hmove ih => exact hmove.lawful ih

theorem Moves.extends (h : Moves m m') : m.trace <+: m'.trace := by
  induction h with
  | refl => exact List.prefix_refl _
  | tail _ hmove ih => exact ih.trans hmove.extends

theorem Moves.kept (h : Moves m m') {key : String} {receipt : Receipt}
    (hseen : m.seen.get? key = some receipt) : m'.seen.get? key = some receipt := by
  induction h with
  | refl => exact hseen
  | tail _ hmove ih => exact hmove.kept ih

/-- Moves without a click. -/
def Calm (m m' : Manager) : Prop :=
  Moves m m' ∧ ∀ key, clicks key m'.trace = clicks key m.trace

theorem Calm.refl (m : Manager) : Calm m m :=
  ⟨ReflTransGen.refl, fun _ => rfl⟩

theorem Calm.trans {m₁ : Manager} (h : Calm m m₁) (h' : Calm m₁ m') : Calm m m' :=
  ⟨h.1.trans h'.1, fun key => (h'.2 key).trans (h.2 key)⟩

theorem calm_of_log {e : Event} (h : Move m (m.log e)) (hclicks : ∀ key, clicks key [e] = 0) :
    Calm m (m.log e) :=
  ⟨ReflTransGen.single h, fun key => by rw [Manager.log_trace, clicks_concat, hclicks key]; rfl⟩

end Invariants

/-! ## Operations -/

section Operations

variable {driver : Driver} {session : OpenSession} {mutation : Mutation} {m m' : Manager}
  {p : String}

theorem slug_state (value label : String) (m : Manager) : (slug value label m).2 = m := by
  unfold slug
  repeat' split
  all_goals rfl

theorem profilePath_state (category : Char → String) (name : String) (m : Manager) :
    (profilePath category name m).2 = m := by
  unfold profilePath
  repeat' split
  all_goals first | rfl | exact slug_state _ _ _

theorem requireSessionId_state (value : Answer) (m : Manager) :
    (requireSessionId value m).2 = m := by
  cases value with
  | other value => rfl
  | text value =>
    by_cases hempty : value = ""
    · simp [requireSessionId, hempty]
    · have hstate := slug_state value "session id" m
      rcases hrun : slug value "session id" m with ⟨r, m₁⟩
      rw [hrun] at hstate
      cases r <;> simpa [requireSessionId, hempty, Action.bind_run, hrun] using hstate

theorem requireOpen_ends (p : String) (m : Manager) :
    (requireOpen p).Ends m (fun r m' => m' = m ∧ ∀ session, r = .ok session →
      m.sessions p = some session ∧ session.healthy = true ∧ session.locked = false) := by
  unfold Action.Ends requireOpen
  simp only [Action.bind_run, Action.inspect_run]
  cases hsession : m.sessions p with
  | none => simp
  | some session =>
    cases hlocked : session.locked with
    | true => simp [hlocked]
    | false =>
      cases hhealthy : session.healthy with
      | false => simp [hlocked, hhealthy]
      | true =>
        simp only [hlocked, hhealthy, Bool.false_eq_true, Bool.not_true, if_false,
          Action.pure_run]
        refine ⟨trivial, ?_⟩
        rintro found hfound
        cases hfound
        exact ⟨rfl, hhealthy, hlocked⟩

/-- Closing a rejected session id: at worst it locks the profile. -/
theorem closeRejected_calm (opened : Answer) :
    (closeRejected driver p opened).Ends m (fun _ m' => Calm m m') := by
  unfold Action.Ends closeRejected
  simp only [Action.handle, Action.bind_run, ask_run]
  cases driver m.trace (.close opened) with
  | ok value => exact calm_of_log (Move.neutral trivial) (fun _ => rfl)
  | error fault =>
    have hlock : ∀ (fault : Fault) (sessionId : String), fault ≠ .interrupt →
        Calm m ((m.log (.call p none (.close opened) (.error fault))).setSession p
          (some ⟨p, sessionId, false, true⟩)) := by
      intro fault sessionId hfault
      refine ⟨ReflTransGen.single (Move.closeFailed hfault rfl rfl), ?_⟩
      intro key
      rw [Manager.setSession_trace, Manager.log_trace, clicks_concat]
      rfl
    cases fault with
    | interrupt => exact calm_of_log Move.closeInterrupted (fun _ => rfl)
    | timeout => exact hlock .timeout _ (by decide)
    | connection => exact hlock .connection _ (by decide)
    | exception => exact hlock .exception _ (by decide)

/-- A new session of a profile that has none. -/
theorem opened_calm (sessionId : String) (h : m.sessions p = none) :
    Calm m ((m.setSession p (some ⟨p, sessionId, true, false⟩)).log (.opened p)) := by
  refine ⟨ReflTransGen.single (Move.opened h), ?_⟩
  intro key
  rw [Manager.log_trace, clicks_concat, Manager.setSession_trace]
  rfl

theorem openSession_calm (category : Char → String) (driver : Driver) (p : String)
    (status : ProfileStatus) (m : Manager) :
    (openSession category driver p status).Ends m (fun _ m' => Calm m m') := by
  unfold openSession
  refine Action.ends_bind (R := fun _ m₁ => m₁ = m) (profilePath_state category p m) ?_ ?_
  · rintro _ m₁ rfl
    split
    · exact Calm.refl _
    · refine Action.ends_bind (R := fun r m₂ => m₂ = m₁ ∧ r = .ok (m₁.sessions p)) ⟨rfl, rfl⟩ ?_ ?_
      · rintro current m₂ ⟨rfl, hcurrent⟩
        cases hcurrent
        cases hsession : m₂.sessions p with
        | some session =>
          dsimp only
          repeat' split
          all_goals exact Calm.refl _
        | none =>
          refine Action.ends_bind
            (R := fun _ m₃ => Calm m₂ m₃ ∧ m₃.sessions p = none) ?_ ?_ ?_
          · unfold Action.Ends
            rw [ask_run]
            exact ⟨calm_of_log (Move.opening hsession) (fun _ => rfl), hsession⟩
          · rintro opened m₃ ⟨hcalm, hnone⟩
            refine Action.ends_bind (R := fun r m₄ => Calm m₂ m₄ ∧
              ∀ sessionId, r = .ok sessionId → m₄.sessions p = none) ?_ ?_ ?_
            · refine Action.ends_handle (R := fun _ m₄ => m₄ = m₃)
                (requireSessionId_state opened m₃) ?_ ?_
              · rintro sessionId m₄ rfl
                exact ⟨hcalm, fun _ _ => hnone⟩
              · rintro raised m₄ rfl
                refine Action.ends_bind (closeRejected_calm opened) ?_ ?_
                · rintro _ m₅ hclosed
                  exact ⟨hcalm.trans hclosed, fun _ hfalse => by cases hfalse⟩
                · rintro raised' m₅ hclosed
                  exact ⟨hcalm.trans hclosed, fun _ hfalse => by cases hfalse⟩
            · rintro sessionId m₄ ⟨hcalm', hnone'⟩
              exact hcalm'.trans (opened_calm sessionId (hnone' sessionId rfl))
            · rintro raised m₄ ⟨hcalm', _⟩
              exact hcalm'
          · rintro raised m₃ ⟨hcalm, _⟩
            exact hcalm
      · rintro raised m₂ ⟨_, hfalse⟩
        cases hfalse
  · rintro raised m₁ rfl
    exact Calm.refl _

theorem restarted_calm (hsession : m.sessions p = some session) (hlocked : session.locked = false) :
    Calm m ((m.setSession p none).log (.restarted p)) := by
  refine ⟨ReflTransGen.single (Move.restarted hsession hlocked), ?_⟩
  intro key
  rw [Manager.log_trace, clicks_concat, Manager.setSession_trace]
  rfl

/-- The close of a restart. -/
theorem close_calm (hsession : m.sessions p = some session) (hname : session.profileName = p)
    (hlocked : session.locked = false) :
    (do
      let _ ← Action.handle
        (ask driver p none (.close (.text session.sessionId)))
        (fun raised =>
          if raised.isException then do
            Action.change (Manager.lock p)
            .raise (.session "restart failed")
          else
            .raise raised)
      Action.change (Manager.setSession p none)
      Action.change (Manager.log (.restarted p)) : Session Unit).Ends m
      (fun _ m' => Calm m m') := by
  unfold Action.Ends
  simp only [Action.handle, Action.bind_run, ask_run]
  cases driver m.trace (.close (.text session.sessionId)) with
  | ok value =>
    have hclosed : Calm m (m.log (.call p none (.close (.text session.sessionId)) (.ok value))) :=
      calm_of_log (Move.neutral trivial) (fun _ => rfl)
    exact hclosed.trans (restarted_calm hsession hlocked)
  | error fault =>
    have hlock : ∀ fault : Fault, fault ≠ .interrupt →
        Calm m ((m.log (.call p none (.close (.text session.sessionId)) (.error fault))).lock
          p) := by
      intro fault hfault
      unfold Manager.lock
      rw [Manager.log_sessions, hsession]
      refine ⟨ReflTransGen.single (Move.closeFailed hfault hname rfl), ?_⟩
      intro key
      rw [Manager.setSession_trace, Manager.log_trace, clicks_concat]
      rfl
    cases fault with
    | interrupt => exact calm_of_log Move.closeInterrupted (fun _ => rfl)
    | timeout => exact hlock .timeout (by decide)
    | connection => exact hlock .connection (by decide)
    | exception => exact hlock .exception (by decide)

/-- A restart that closed its session, or a failed close that locked it. -/
theorem restart_calm (category : Char → String) (driver : Driver) (p : String) (m : Manager)
    (hnamed : ∀ p session, m.sessions p = some session → session.profileName = p) :
    (restart category driver p).Ends m (fun _ m' => Calm m m') := by
  unfold restart
  refine Action.ends_bind (R := fun _ m₁ => m₁ = m) (profilePath_state category p m) ?_ ?_
  · rintro _ m₁ rfl
    refine Action.ends_bind (R := fun r m₂ => m₂ = m₁ ∧ r = .ok (m₁.sessions p)) ⟨rfl, rfl⟩ ?_ ?_
    · rintro current m₂ ⟨rfl, hcurrent⟩
      cases hcurrent
      cases hsession : m₂.sessions p with
      | none => exact Calm.refl _
      | some session =>
        cases hlocked : session.locked with
        | true =>
          simp only [hlocked, if_true]
          exact Calm.refl _
        | false =>
          simp only [hlocked, Bool.false_eq_true, if_false]
          exact close_calm hsession (hnamed p session hsession) hlocked
    · rintro raised m₂ ⟨_, hfalse⟩
      cases hfalse
  · rintro raised m₁ rfl
    exact Calm.refl _

/-! ### Reads -/

theorem taint_calm (p : String) (m : Manager) : Calm m (m.taint p) :=
  ⟨ReflTransGen.single Move.taint, fun _ => rfl⟩

theorem capture_calm (driver : Driver) (session : OpenSession) (key : Option String)
    (reason : Reason) (raiseErrors : Bool) (m : Manager) :
    (capture driver session key reason raiseErrors).Ends m (fun _ m' => Calm m m') := by
  unfold Action.Ends
  rw [capture_run]
  exact calm_of_log (Move.neutral trivial) (fun _ => rfl)

/-- A read that failed taints its session before anything else. -/
theorem noteError_calm (driver : Driver) (reason : Reason)
    (h : m.sessions session.profileName = some session) :
    (noteError driver session reason).Ends m (fun _ m' => Calm m m') := by
  unfold noteError
  refine Action.ends_bind (R := fun _ m₁ => m₁ = m.taint session.profileName) rfl ?_ ?_
  · rintro _ m₁ rfl
    have htainted : (m.taint session.profileName).sessions session.profileName =
        some { session with healthy := false } := by
      simp [Manager.taint, Manager.setSession, h]
    have hfailed : Calm (m.taint session.profileName)
        ((m.taint session.profileName).log (.readFailed session.profileName)) :=
      calm_of_log (Move.readFailed htainted rfl) (fun _ => rfl)
    refine Action.ends_bind (R := fun _ m₂ => m₂ =
      (m.taint session.profileName).log (.readFailed session.profileName)) rfl ?_ ?_
    · rintro _ m₂ rfl
      have hcalm := (taint_calm session.profileName m).trans hfailed
      refine Action.ends_bind (capture_calm driver session none reason false _) ?_ ?_
      · rintro _ m₃ hcaptured
        exact hcalm.trans hcaptured
      · rintro raised m₃ hcaptured
        exact hcalm.trans hcaptured
    · rintro raised m₂ rfl
      exact (taint_calm session.profileName m).trans hfailed
  · rintro raised m₁ rfl
    exact taint_calm session.profileName m

/-- The attempts of a read use the session while it is as it was opened. -/
theorem readAttempts_calm (driver : Driver) (selector : String) (left : Nat) (m : Manager)
    (h : m.sessions session.profileName = some session) (hhealthy : session.healthy = true)
    (hunlocked : session.locked = false) :
    (readAttempts driver session selector left).Ends m (fun _ m' => Calm m m') := by
  induction left generalizing m with
  | zero =>
    unfold readAttempts
    exact Action.ends_bind (noteError_calm driver .timeout h) (fun _ _ hcalm => hcalm)
      (fun _ _ hcalm => hcalm)
  | succ left ih =>
    have hread : ∀ answer, Calm m (m.log (.call session.profileName none
        (.read session.sessionId selector) answer)) :=
      fun answer => calm_of_log (Move.read ⟨session, h, hhealthy, hunlocked⟩) (fun _ => rfl)
    unfold readAttempts
    refine Action.ends_handle (R := fun r m₁ => ∃ answer,
      m₁ = m.log (.call session.profileName none (.read session.sessionId selector) answer) ∧
        ∀ fault, r = .error (.driver fault) → answer = .error fault) ?_ ?_ ?_
    · unfold Action.Ends
      rw [ask_run]
      refine ⟨_, rfl, ?_⟩
      intro fault hfault
      cases hanswer : driver m.trace (.read session.sessionId selector) with
      | ok value => simp [hanswer] at hfault
      | error fault' =>
        simp only [hanswer, Except.error.injEq, Raised.driver.injEq] at hfault
        rw [hfault]
    · rintro value m₁ ⟨answer, rfl, _⟩
      exact hread answer
    · rintro raised m₁ ⟨answer, rfl, hfault⟩
      have hnote : ∀ (reason : Reason) (message : String),
          (noteError driver session reason >>= fun _ =>
            (.raise (.session message) : Session Answer)).Ends
              (m.log (.call session.profileName none (.read session.sessionId selector) answer))
              (fun _ m' => Calm m m') := by
        intro reason message
        exact Action.ends_bind (noteError_calm driver reason h)
          (fun _ _ hcalm => (hread answer).trans hcalm)
          (fun _ _ hcalm => (hread answer).trans hcalm)
      cases raised with
      | session message => exact hnote .error _
      | typeError => exact hnote .error _
      | valueError => exact hnote .error _
      | driver fault =>
        cases fault with
        | timeout =>
          have hagain := ih (m.log (.call session.profileName none
            (.read session.sessionId selector) answer)) h
          exact hagain.mono (fun _ _ hcalm => (hread answer).trans hcalm)
        | connection => exact hnote .connection _
        | exception => exact hnote .error _
        | interrupt =>
          refine (hread answer).trans (calm_of_log (Move.readInterrupted ?_) (fun _ => rfl))
          refine ⟨_, List.mem_append_right _ (List.mem_singleton_self _), ?_⟩
          rw [hfault .interrupt rfl]
          rfl

theorem read_calm (driver : Driver) (p selectorName : String) (m : Manager)
    (hnamed : ∀ p session, m.sessions p = some session → session.profileName = p) :
    (read driver p selectorName).Ends m (fun _ m' => Calm m m') := by
  unfold read
  split
  · exact Calm.refl _
  · refine Action.ends_bind (requireOpen_ends p m) ?_ ?_
    · rintro session m₁ ⟨rfl, hopen⟩
      rcases hopen session rfl with ⟨hsession, hhealthy, hunlocked⟩
      have hname := hnamed p session hsession
      rw [← hname] at hsession
      exact readAttempts_calm driver _ maxReadAttempts m₁ hsession hhealthy hunlocked
    · rintro raised m₁ ⟨rfl, _⟩
      exact Calm.refl _

/-! ### Mutations -/

/-- The arguments of a call, once they passed their checks. -/
structure Checked (call : MutateCall) (mutation : Mutation) : Prop where
  jobId : call.jobId = .text mutation.jobId ∧ ValidToken mutation.jobId
  workspace : call.workspace = .text mutation.workspace ∧ ValidToken mutation.workspace
  target : call.target = .text mutation.target ∧ ValidToken mutation.target
  key : call.idempotencyKey = .text mutation.key ∧ ValidToken mutation.key
  operation : call.operation = .text mutation.operation ∧
    mutationSelectors.lookup mutation.operation = some mutation.selector

theorem requireToken_ends (label : String) (value : Answer) (m : Manager) :
    (requireToken label value).Ends m (fun r m' => m' = m ∧
      ∀ token, r = .ok token → value = .text token ∧ ValidToken token) := by
  unfold Action.Ends
  cases value with
  | other value => simp [requireToken]
  | text value =>
    by_cases hvalue : value = "" ∨ value ≠ stripBy isSpace value
    · simp [requireToken, hvalue]
    · simp only [requireToken, hvalue, if_false, Action.pure_run]
      refine ⟨trivial, ?_⟩
      rintro token htoken
      cases htoken
      rw [not_or, not_not] at hvalue
      exact ⟨rfl, hvalue⟩

theorem mutationSelector_ends (value : Answer) (m : Manager) :
    (mutationSelector value).Ends m (fun r m' => m' = m ∧
      ∀ found, r = .ok found → value = .text found.1 ∧
        mutationSelectors.lookup found.1 = some found.2) := by
  unfold Action.Ends
  cases value with
  | other value => simp [mutationSelector]
  | text operation =>
    cases hlookup : mutationSelectors.lookup operation with
    | none => simp [mutationSelector, hlookup]
    | some selector =>
      simp only [mutationSelector, hlookup, Action.pure_run]
      refine ⟨trivial, ?_⟩
      rintro found hfound
      cases hfound
      exact ⟨rfl, hlookup⟩

/-- The checks change nothing, and what they return is what the caller gave. -/
theorem checkArguments_ends (call : MutateCall) (m : Manager) :
    (checkArguments call).Ends m (fun r m' => m' = m ∧
      ∀ mutation, r = .ok mutation → Checked call mutation) := by
  unfold checkArguments
  refine Action.ends_bind (requireToken_ends _ call.jobId m) ?_ ?_
  · rintro jobId m₁ ⟨rfl, hjob⟩
    refine Action.ends_bind (requireToken_ends _ call.workspace m₁) ?_ ?_
    · rintro workspace m₂ ⟨rfl, hworkspace⟩
      refine Action.ends_bind (requireToken_ends _ call.target m₂) ?_ ?_
      · rintro target m₃ ⟨rfl, htarget⟩
        refine Action.ends_bind (requireToken_ends _ call.idempotencyKey m₃) ?_ ?_
        · rintro key m₄ ⟨rfl, hkey⟩
          refine Action.ends_bind (R := fun _ m₅ => m₅ = m₄) ?_ ?_ ?_
          · unfold Action.Ends requireTimestamp
            cases call.timestamp <;> rfl
          · rintro timestamp m₅ rfl
            refine Action.ends_bind (mutationSelector_ends call.operation m₅) ?_ ?_
            · rintro ⟨operation, selector⟩ m₆ ⟨rfl, hoperation⟩
              refine ⟨rfl, ?_⟩
              rintro mutation hmutation
              cases hmutation
              exact ⟨hjob jobId rfl, hworkspace workspace rfl, htarget target rfl, hkey key rfl,
                hoperation (operation, selector) rfl⟩
            · rintro raised m₆ ⟨rfl, _⟩
              exact ⟨rfl, fun _ hfalse => by cases hfalse⟩
          · rintro raised m₅ rfl
            exact ⟨rfl, fun _ hfalse => by cases hfalse⟩
        · rintro raised m₄ ⟨rfl, _⟩
          exact ⟨rfl, fun _ hfalse => by cases hfalse⟩
      · rintro raised m₃ ⟨rfl, _⟩
        exact ⟨rfl, fun _ hfalse => by cases hfalse⟩
    · rintro raised m₂ ⟨rfl, _⟩
      exact ⟨rfl, fun _ hfalse => by cases hfalse⟩
  · rintro raised m₁ ⟨rfl, _⟩
    exact ⟨rfl, fun _ hfalse => by cases hfalse⟩

theorem requireToken_run {label value : String} (h : ValidToken value) (m : Manager) :
    requireToken label (.text value) m = (.ok value, m) := by
  simp [requireToken, h.1, ← h.2]

/-- The arguments of a receipt pass again. -/
theorem checkArguments_run {receipt : Receipt} (h : ValidReceipt receipt) (p : String)
    (timestamp : Moment) (m : Manager) :
    ∃ mutation, checkArguments ⟨p, .text receipt.operation, .text receipt.jobId,
        .text receipt.workspace, .text receipt.target, .text receipt.idempotencyKey,
        some timestamp⟩ m = (.ok mutation, m) := by
  rcases h.operation with ⟨selector, hselector⟩
  refine ⟨⟨receipt.operation, selector, receipt.jobId, receipt.workspace, receipt.target,
    receipt.idempotencyKey, timestamp⟩, ?_⟩
  simp [checkArguments, Action.bind_run, requireToken_run h.jobId, requireToken_run h.workspace,
    requireToken_run h.target, requireToken_run h.key, requireTimestamp, mutationSelector, hselector]

/-- Every clicked key has its receipt, where every normal page could be recorded. -/
def Covered (m : Manager) : Prop :=
  (∀ e ∈ m.trace, e.isUnstorablePage = false) →
    ∀ key, clicks key m.trace ≠ 0 → ∃ receipt, m.seen.get? key = some receipt

theorem Calm.covered (h : Calm m m') (hcovered : Covered m) : Covered m' := by
  intro hpages key hclicked
  rw [h.2 key] at hclicked
  rcases hcovered (fun e he => hpages e (h.1.extends.subset he)) key hclicked with
    ⟨receipt, hreceipt⟩
  exact ⟨receipt, h.1.kept hreceipt⟩

theorem Aside.neutral {key : String} {e : Event} (h : Aside p key e) : e.Neutral := by
  unfold Aside at h
  split at h
  · trivial
  · trivial
  · exact h.elim

theorem calm_asides {key : String} (events : List Event) (m : Manager)
    (h : ∀ e ∈ events, Aside p key e) : Calm m { m with trace := m.trace ++ events } := by
  induction events generalizing m with
  | nil =>
    rw [List.append_nil]
    exact Calm.refl m
  | cons e rest ih =>
    have haside : Aside p key e := h e (List.mem_cons_self ..)
    have hzero : ∀ key', clicks key' [e] = 0 := by
      intro key'
      unfold Aside at haside
      split at haside
      · rfl
      · rfl
      · exact haside.elim
    have hfirst : Calm m (m.log e) := calm_of_log (Move.neutral haside.neutral) hzero
    have hrest := ih (m.log e) (fun e' he' => h e' (List.mem_cons_of_mem _ he'))
    rw [Manager.log_trace, List.append_assoc] at hrest
    exact hfirst.trans hrest

theorem Passed.calm {key : String} {events : List Event} (h : Passed p key m m' events) :
    Calm m m' := by
  have heq : m' = { m with trace := m.trace ++ events } := by
    cases m'
    simp only [Manager.mk.injEq]
    exact ⟨h.sessions, h.seen, h.trace⟩
  rw [heq]
  exact calm_asides events m h.aside

/-- The receipt of a mutation whose arguments passed. -/
theorem Checked.validReceipt {call : MutateCall} (h : Checked call mutation) (verdict : Verdict) :
    ValidReceipt (receiptOf session mutation verdict) where
  jobId := h.jobId.2
  workspace := h.workspace.2
  target := h.target.2
  key := h.key.2
  operation := ⟨mutation.selector, h.operation.2⟩

/-- A receipt stored behind driver calls: the key is covered from then on. -/
theorem Settled.moves {call : MutateCall} {applied : Prop} {events : List Event}
    {receipt : Receipt} (h : Settled session mutation applied m m' events receipt)
    (hchecked : Checked call mutation) (hnew : m.seen.get? mutation.key = none)
    (hopen : m.sessions session.profileName = some session) :
    Moves m m' ∧ ∀ key, clicks key m'.trace = clicks key m.trace := by
  rcases h.verdict with ⟨verdict, rfl⟩
  have hasides := calm_asides events m h.aside
  rcases h.outcome with ⟨hstatus, hsessions⟩ | ⟨hstatus, hsessions, _⟩
  · have heq : m' = (({ m with trace := m.trace ++ events } : Manager).taint
        session.profileName).store (receiptOf session mutation verdict) := by
      cases m'
      simp only [Manager.store, Manager.mk.injEq]
      exact ⟨hsessions, h.seen, h.trace⟩
    have hstore : Move (({ m with trace := m.trace ++ events } : Manager).taint
        session.profileName) m' := by
      rw [heq]
      refine Move.store hnew (hchecked.validReceipt verdict) (Or.inr ?_)
      refine ⟨{ session with healthy := false }, ?_, rfl⟩
      simp [Manager.taint, Manager.setSession, hopen, receiptOf]
    refine ⟨(hasides.1.tail Move.taint).tail hstore, ?_⟩
    intro key
    rw [heq, Manager.store_trace, clicks_concat, Manager.taint_trace]
    exact hasides.2 key
  · have heq : m' = ({ m with trace := m.trace ++ events } : Manager).store
        (receiptOf session mutation verdict) := by
      cases m'
      simp only [Manager.store, Manager.mk.injEq]
      exact ⟨hsessions, h.seen, h.trace⟩
    have hstore : Move { m with trace := m.trace ++ events } m' := by
      rw [heq]
      exact Move.store hnew (hchecked.validReceipt verdict) (Or.inl hstatus)
    refine ⟨hasides.1.tail hstore, ?_⟩
    intro key
    rw [heq, Manager.store_trace, clicks_concat]
    exact hasides.2 key

/-! A page kind that is not taken: what follows it stores nothing. -/

/-- From every state, without a click. -/
def AlwaysCalm {α : Type} (x : Session α) : Prop :=
  ∀ m, x.Ends m (fun _ m' => Calm m m')

theorem alwaysCalm_bind {α β : Type} {x : Session β} {f : β → Session α} (hx : AlwaysCalm x)
    (hf : ∀ b, AlwaysCalm (f b)) : AlwaysCalm (x >>= f) := by
  intro m
  refine Action.ends_bind (hx m) ?_ (fun _ _ h => h)
  intro b m₁ hcalm
  exact (hf b m₁).mono (fun _ _ h => hcalm.trans h)

theorem alwaysCalm_handle {α : Type} {x : Session α} {handler : Raised → Session α}
    (hx : AlwaysCalm x) (hhandler : ∀ raised, AlwaysCalm (handler raised)) :
    AlwaysCalm (Action.handle x handler) := by
  intro m
  refine Action.ends_handle (hx m) (fun _ _ h => h) ?_
  intro raised m₁ hcalm
  exact (hhandler raised m₁).mono (fun _ _ h => hcalm.trans h)

theorem alwaysCalm_pure {α : Type} (a : α) : AlwaysCalm (pure a : Session α) :=
  fun m => Calm.refl m

theorem alwaysCalm_raise {α : Type} (raised : Raised) : AlwaysCalm (.raise raised : Session α) :=
  fun m => Calm.refl m

theorem alwaysCalm_capture (reason : Reason) (raiseErrors : Bool) :
    AlwaysCalm (capture driver session (some mutation.key) reason raiseErrors) :=
  fun m => capture_calm driver session _ reason raiseErrors m

theorem alwaysCalm_observe : AlwaysCalm
    (Action.handle
      (ask driver session.profileName (some mutation.key) (.observe session.sessionId))
      (fun raised => if raised.isException then pure (.text "unknown") else .raise raised)) := by
  intro m
  exact (observe_ends driver session mutation m).mono (fun _ _ h => h.1.calm)

theorem alwaysCalm_record {verdict : Verdict} (h : verdict.storable = false) :
    AlwaysCalm (record session mutation verdict) := by
  intro m
  unfold Action.Ends
  rw [record_run, h]
  cases verdict.taint with
  | true => exact taint_calm _ _
  | false => exact Calm.refl _

section Refused

variable {kind : Answer} (hkind : kind.serialisable = false)
include hkind

theorem not_storable {verdict : Verdict} (h : verdict.pageKind = kind) :
    verdict.storable = false := by
  rw [Verdict.storable, h, hkind]
  rfl

theorem alwaysCalm_recordUnknown (observed : String) :
    AlwaysCalm (recordUnknown driver session mutation kind observed) := by
  have hrecord : ∀ evidence,
      AlwaysCalm (record session mutation (unknownVerdict kind observed evidence)) :=
    fun evidence => alwaysCalm_record (not_storable hkind rfl)
  refine alwaysCalm_bind (alwaysCalm_handle (alwaysCalm_capture _ _) ?_) hrecord
  intro raised
  split
  · exact alwaysCalm_pure _
  · exact alwaysCalm_bind (hrecord _) (fun _ => alwaysCalm_raise _)

theorem alwaysCalm_reconcile : AlwaysCalm (reconcile driver session mutation kind) := by
  refine alwaysCalm_bind alwaysCalm_observe ?_
  intro observed
  split
  · exact alwaysCalm_record (not_storable hkind rfl)
  · refine alwaysCalm_bind (alwaysCalm_capture _ _) ?_
    intro evidence
    split
    · exact alwaysCalm_record (not_storable hkind rfl)
    · exact alwaysCalm_raise _

theorem alwaysCalm_block (reason : Reason) :
    AlwaysCalm (block driver session mutation kind reason) :=
  alwaysCalm_bind (alwaysCalm_capture _ _)
    (fun _ => alwaysCalm_record (not_storable hkind rfl))

theorem alwaysCalm_recordIfUnseen : AlwaysCalm (recordIfUnseen driver session mutation kind) := by
  refine alwaysCalm_bind (fun m => Calm.refl m) ?_
  intro seen
  cases seen with
  | some receipt => exact alwaysCalm_pure _
  | none => exact alwaysCalm_bind (alwaysCalm_recordUnknown hkind _) (fun _ => alwaysCalm_pure _)

/-- Behind the click. -/
theorem alwaysCalm_outcome (outcome : ClickOutcome) : AlwaysCalm
    (match outcome with
      | .applied =>
        record session mutation
          { status := .success
            evidence := "applied"
            click := "applied"
            observed := .text "not-observed"
            pageKind := kind
            taint := false }
      | .uncertain => reconcile driver session mutation kind
      | .raised => recordRaisedClick driver session mutation kind
      | .error => block driver session mutation kind .error) := by
  cases outcome with
  | applied => exact alwaysCalm_record (not_storable hkind rfl)
  | uncertain => exact alwaysCalm_reconcile hkind
  | raised =>
    exact alwaysCalm_bind alwaysCalm_observe (fun _ => alwaysCalm_recordUnknown hkind _)
  | error => exact alwaysCalm_block hkind _

end Refused

/-- A blocked mutation.  A page kind that is not taken leaves the session tainted and no receipt. -/
theorem block_calm {call : MutateCall} (hchecked : Checked call mutation) (kind : Answer)
    (reason : Reason) (hnew : m.seen.get? mutation.key = none)
    (hopen : m.sessions session.profileName = some session) :
    (block driver session mutation kind reason).Ends m (fun _ m' => Calm m m') := by
  cases hkind : kind.serialisable with
  | true =>
    refine (block_ends False hkind reason).mono ?_
    rintro r m' (⟨events, receipt, hsettled⟩ | ⟨events, raised, hpassed, _⟩)
    · exact hsettled.moves hchecked hnew hopen
    · exact hpassed.calm
  | false => exact alwaysCalm_block hkind reason m

/-- The click of a new key, and the receipt that covers it. -/
theorem click_moves {call : MutateCall} (hchecked : Checked call mutation) (hcovered : Covered m)
    (hnew : m.seen.get? mutation.key = none)
    (hopen : m.sessions session.profileName = some session)
    (husable : Usable session.profileName m) {kind : Answer} (hkind : kind.serialisable = true)
    (hclick : clicks mutation.key m.trace = 0 ∨ ∃ e ∈ m.trace, e.isUnstorablePage = true) :
    (Action.lastly (clickAndRecord driver session mutation kind)
      (recordIfUnseen driver session mutation kind)).Ends m
        (fun _ m' => Moves m m' ∧ Covered m') := by
  refine (lastly_ends hkind hnew).mono ?_
  rintro r m' ⟨events, receipt, hsettled⟩
  rcases hsettled.moves hchecked hnew hopen with ⟨hmoves, hclicks⟩
  have hall : Moves m m' := (ReflTransGen.single (Move.click husable hclick)).trans hmoves
  refine ⟨hall, ?_⟩
  intro hpages key hclicked
  by_cases hkey : key = mutation.key
  · rw [hkey]
    exact ⟨receipt, hsettled.get?⟩
  · have hother : clicks key [clickEvent driver session mutation m] = 0 := by
      simp [clicks, clickEvent, Ne.symm hkey]
    rw [hclicks key, Manager.log_trace, clicks_concat, hother, Nat.add_zero] at hclicked
    rcases hcovered (fun e he => hpages e (hall.extends.subset he)) key hclicked with
      ⟨receipt', hreceipt⟩
    exact ⟨receipt', hall.kept hreceipt⟩

/-- The click behind a page kind that is not taken: no receipt is stored, and the trace shows why. -/
theorem click_refused {kind : Answer} (hkind : kind.serialisable = false)
    (husable : Usable session.profileName m) (hpage : ∃ e ∈ m.trace, e.isUnstorablePage = true) :
    (Action.lastly (clickAndRecord driver session mutation kind)
      (recordIfUnseen driver session mutation kind)).Ends m
        (fun _ m' => Moves m m' ∧ Covered m') := by
  have hclick : Moves m (m.log (clickEvent driver session mutation m)) :=
    ReflTransGen.single (Move.click husable (Or.inr hpage))
  have hend : ∀ {m₁ m' : Manager}, Moves m m₁ → Calm m₁ m' → Moves m m' ∧ Covered m' := by
    intro m₁ m' hmoves hcalm
    have hall := hmoves.trans hcalm.1
    refine ⟨hall, ?_⟩
    intro hpages
    rcases hpage with ⟨e, he, hunstorable⟩
    rw [hpages e (Moves.extends hall |>.subset he)] at hunstorable
    cases hunstorable
  refine Action.ends_lastly (R := fun _ m₁ => Moves m m₁) ?_ ?_
  · refine Action.ends_bind (click_ends driver session mutation m) ?_ ?_
    · rintro outcome m₁ ⟨rfl, _⟩
      exact (alwaysCalm_outcome hkind outcome _).mono (fun _ _ hcalm => hclick.trans hcalm.1)
    · rintro raised m₁ ⟨rfl, _⟩
      exact hclick
  · intro r m₁ hmoves
    refine (alwaysCalm_recordIfUnseen hkind m₁).mono ?_
    intro last m₂ hcalm
    cases last <;> exact hend hmoves hcalm

/-- A new key was never clicked, unless a normal page could not be recorded. -/
theorem unclicked_of_new (hcovered : Covered m) {key : String} (hnew : m.seen.get? key = none) :
    clicks key m.trace = 0 ∨ ∃ e ∈ m.trace, e.isUnstorablePage = true := by
  by_cases hpage : ∃ e ∈ m.trace, e.isUnstorablePage = true
  · exact Or.inr hpage
  · left
    by_contra hclicked
    have hpages : ∀ e ∈ m.trace, e.isUnstorablePage = false := by
      intro e he
      rw [← Bool.not_eq_true]
      exact fun hunstorable => hpage ⟨e, he, hunstorable⟩
    rcases hcovered hpages key hclicked with ⟨receipt, hreceipt⟩
    rw [hnew] at hreceipt
    cases hreceipt

theorem pageEvent_unstorable
    (hreason : blockReason (driver m.trace (.pageKind session.sessionId)) = none)
    (hkind : (recordedKind (driver m.trace (.pageKind session.sessionId))).serialisable = false) :
    (pageEvent driver session mutation m).isUnstorablePage = true := by
  unfold pageEvent
  cases hanswer : driver m.trace (.pageKind session.sessionId) with
  | ok kind =>
    rw [hanswer] at hreason hkind
    simp [Event.isUnstorablePage, hreason, show kind.serialisable = false from hkind]
  | error fault =>
    rw [hanswer] at hkind
    cases hkind

/-- A mutation on a usable session with a new key. -/
theorem mutatePage_moves {call : MutateCall} (hchecked : Checked call mutation)
    (hcovered : Covered m) (hnew : m.seen.get? mutation.key = none)
    (hopen : m.sessions session.profileName = some session) (hhealthy : session.healthy = true)
    (hunlocked : session.locked = false) :
    (mutatePage driver session mutation).Ends m (fun _ m' => Moves m m' ∧ Covered m') := by
  have husable : Usable session.profileName m := ⟨session, hopen, hhealthy, hunlocked⟩
  have hpage : Calm m (m.log (pageEvent driver session mutation m)) :=
    calm_of_log (Move.pageKind husable) (fun _ => rfl)
  by_cases hanswer : driver m.trace (.pageKind session.sessionId) = .error .interrupt
  · have hrun : (mutatePage driver session mutation m).2 =
        m.log (pageEvent driver session mutation m) := by
      simp [mutatePage, pageKind, Action.bind_run, Action.handle, ask_run, hanswer, pageEvent]
    unfold Action.Ends
    rw [hrun]
    exact ⟨hpage.1, hpage.covered hcovered⟩
  · unfold Action.Ends
    rw [mutatePage_run hanswer]
    cases hreason : blockReason (driver m.trace (.pageKind session.sessionId)) with
    | some reason =>
      have hblocked : (block driver session mutation
          (recordedKind (driver m.trace (.pageKind session.sessionId))) reason).Ends
          (m.log (pageEvent driver session mutation m))
          (fun _ m' => Calm (m.log (pageEvent driver session mutation m)) m') :=
        block_calm hchecked _ reason hnew hopen
      have hcalm := hpage.trans hblocked
      exact ⟨hcalm.1, hcalm.covered hcovered⟩
    | none =>
      have hafter : Covered (m.log (pageEvent driver session mutation m)) :=
        hpage.covered hcovered
      have hends : (Action.lastly
          (clickAndRecord driver session mutation
            (recordedKind (driver m.trace (.pageKind session.sessionId))))
          (recordIfUnseen driver session mutation
            (recordedKind (driver m.trace (.pageKind session.sessionId))))).Ends
          (m.log (pageEvent driver session mutation m)) (fun _ m' =>
            Moves (m.log (pageEvent driver session mutation m)) m' ∧ Covered m') := by
        cases hkind : (recordedKind (driver m.trace (.pageKind session.sessionId))).serialisable with
        | true =>
          exact click_moves hchecked hafter hnew hopen husable hkind
            (unclicked_of_new hafter hnew)
        | false =>
          refine click_refused hkind husable
            ⟨_, List.mem_append_right _ (List.mem_singleton_self _), ?_⟩
          exact pageEvent_unstorable hreason hkind
      unfold Action.Ends at hends
      exact ⟨hpage.1.trans hends.1, hends.2⟩

/-- The calls of the manager. -/
theorem mutate_moves (driver : Driver) (call : MutateCall) (hlawful : Lawful m)
    (hcovered : Covered m) : (mutate driver call).Ends m (fun _ m' => Moves m m' ∧ Covered m') := by
  have hstay : Moves m m ∧ Covered m := ⟨ReflTransGen.refl, hcovered⟩
  unfold mutate
  refine Action.ends_bind (checkArguments_ends call m) ?_ ?_
  · rintro mutation m₁ ⟨rfl, hchecked⟩
    refine Action.ends_bind (R := fun r m₂ => m₂ = m₁ ∧ r = .ok (m₁.seen.get? mutation.key))
      ⟨rfl, rfl⟩ ?_ ?_
    · rintro existing m₂ ⟨rfl, hexisting⟩
      cases hexisting
      cases hseen : m₂.seen.get? mutation.key with
      | some receipt =>
        dsimp only
        split
        · exact hstay
        · exact hstay
      | none =>
        refine Action.ends_bind (requireOpen_ends call.profileName m₂) ?_ ?_
        · rintro session m₃ ⟨rfl, hopen⟩
          rcases hopen session rfl with ⟨hsession, hhealthy, hunlocked⟩
          have hname := hlawful.named _ session hsession
          rw [← hname] at hsession
          exact mutatePage_moves (hchecked mutation rfl) hcovered hseen hsession hhealthy
            hunlocked
        · rintro raised m₃ ⟨rfl, _⟩
          exact hstay
    · rintro raised m₂ ⟨_, hfalse⟩
      cases hfalse
  · rintro raised m₁ ⟨rfl, _⟩
    exact hstay

/-- Every call of the manager is a sequence of moves, and covers the keys it clicked. -/
theorem managerStep_moves (category : Char → String) (driver : Driver) (op : ManagerOp)
    (hlawful : Lawful m) (hcovered : Covered m) :
    Moves m (managerStep category driver m op) ∧ Covered (managerStep category driver m op) := by
  have hcalm : ∀ {α : Type} {x : Session α}, x.Ends m (fun _ m' => Calm m m') →
      (x >>= fun _ => (pure () : Session Unit)).Ends m (fun _ m' => Moves m m' ∧ Covered m') := by
    intro α x hx
    exact Action.ends_bind hx (fun _ _ h => ⟨h.1, h.covered hcovered⟩)
      (fun _ _ h => ⟨h.1, h.covered hcovered⟩)
  cases op with
  | openSession p status => exact hcalm (openSession_calm category driver p status m)
  | restart p =>
    have h := restart_calm category driver p m hlawful.named
    exact ⟨h.1, Calm.covered h hcovered⟩
  | read p selectorName => exact hcalm (read_calm driver p selectorName m hlawful.named)
  | mutate call =>
    have h : (mutate driver call >>= fun _ => (pure () : Session Unit)).Ends m
        (fun _ m' => Moves m m' ∧ Covered m') :=
      Action.ends_bind (mutate_moves driver call hlawful hcovered) (fun _ _ h => h)
        (fun _ _ h => h)
    exact h

end Operations

/-! ## Whole runs -/

section Managers

variable (category : Char → String) (driver : Driver)

theorem initial_lawful : Lawful Manager.initial where
  named := by
    rintro p session ⟨⟩
  valid := by
    rintro key receipt ⟨⟩
  once := fun _ _ => Nat.zero_le 1
  guarded := by
    intro _ p
    refine ⟨?_, ?_, ?_⟩
    · intro before failure between use after htrace
      simp [Manager.initial] at htrace
    · rintro ⟨session, hsession, _⟩
      cases hsession
    · intro _ before failure between htrace
      simp [Manager.initial] at htrace
  lockedUp := by
    intro _ p
    refine ⟨?_, ?_⟩
    · intro e he
      cases he
    · intro before failure between use after htrace
      simp [Manager.initial] at htrace

theorem managerRun_lawful (ops : List ManagerOp) :
    Lawful (managerRun category driver ops) ∧ Covered (managerRun category driver ops) := by
  refine runFrom_invariant (I := fun m => Lawful m ∧ Covered m) ?_ ?_ ops
  · rintro m op ⟨hlawful, hcovered⟩
    rcases managerStep_moves category driver op hlawful hcovered with ⟨hmoves, hcovered'⟩
    exact ⟨hmoves.lawful hlawful, hcovered'⟩
  · refine ⟨initial_lawful, ?_⟩
    intro _ key hclicked
    exact absurd rfl hclicked

/-- Later calls are moves from where the earlier ones ended. -/
theorem managerRun_append (ops later : List ManagerOp) :
    Moves (managerRun category driver ops) (managerRun category driver (ops ++ later)) := by
  induction later using List.reverseRecOn with
  | nil =>
    rw [List.append_nil]
    exact ReflTransGen.refl
  | append_singleton later op ih =>
    rcases managerRun_lawful category driver (ops ++ later) with ⟨hlawful, hcovered⟩
    have hstep := (managerStep_moves category driver op hlawful hcovered).1
    have hrun : managerRun category driver (ops ++ (later ++ [op])) =
        managerStep category driver (managerRun category driver (ops ++ later)) op := by
      simp [managerRun, runFrom, ← List.append_assoc]
    rw [hrun]
    exact ih.trans hstep

/-- A call for the mutation a receipt was recorded for. -/
def SameCall (receipt : Receipt) (call : MutateCall) : Prop :=
  call.profileName = receipt.profileName ∧ call.operation = .text receipt.operation ∧
    call.workspace = .text receipt.workspace ∧ call.target = .text receipt.target ∧
      call.jobId = .text receipt.jobId

/-- The key of a receipt answers with it to the same call and refuses every other. -/
def KeyBound (receipt : Receipt) (m : Manager) : Prop :=
  ∀ call : MutateCall, call.idempotencyKey = .text receipt.idempotencyKey →
    (SameCall receipt call → call.timestamp.isSome = true → mutate driver call m = (.ok receipt, m)) ∧
    (¬ SameCall receipt call → ∃ raised, mutate driver call m = (.error raised, m))

variable {category driver}

theorem matchesIdempotencyCall_iff {receipt : Receipt} {call : MutateCall} {mutation : Mutation}
    (h : Checked call mutation) :
    matchesIdempotencyCall receipt call.profileName mutation = true ↔ SameCall receipt call := by
  unfold matchesIdempotencyCall SameCall
  rw [h.operation.1, h.workspace.1, h.target.1, h.jobId.1]
  simp only [decide_eq_true_eq, Answer.text.injEq]
  constructor
  · rintro ⟨h1, h2, h3, h4, h5⟩
    exact ⟨h1.symm, h2.symm, h3.symm, h4.symm, h5.symm⟩
  · rintro ⟨h1, h2, h3, h4, h5⟩
    exact ⟨h1.symm, h2.symm, h3.symm, h4.symm, h5.symm⟩

theorem keyBound_of_seen {m : Manager} {receipt : Receipt} (hlawful : Lawful m)
    (hseen : m.seen.get? receipt.idempotencyKey = some receipt) : KeyBound driver receipt m := by
  intro call hkey
  have hends := checkArguments_ends call m
  unfold Action.Ends at hends
  rcases hrun : checkArguments call m with ⟨r, m₁⟩
  rw [hrun] at hends
  rcases hends with ⟨rfl, hchecked⟩
  cases r with
  | error raised =>
    refine ⟨?_, fun _ => ⟨raised, by simp [mutate, Action.bind_run, hrun]⟩⟩
    rintro ⟨hprofile, hoperation, hworkspace, htarget, hjob⟩ htimestamp
    rcases Option.isSome_iff_exists.1 htimestamp with ⟨moment, hmoment⟩
    -- The arguments of a recorded receipt pass, so the checks did not raise.
    have hvalid := hlawful.valid _ receipt hseen
    rcases checkArguments_run hvalid call.profileName moment m₁ with ⟨mutation, hpass⟩
    cases call
    simp only at hoperation hworkspace htarget hjob hmoment hkey hpass
    subst hoperation hworkspace htarget hjob hmoment hkey
    rw [hpass] at hrun
    cases hrun
  | ok mutation =>
    have hchecked := hchecked mutation rfl
    have hmutation : mutation.key = receipt.idempotencyKey := by
      have := hchecked.key.1
      rw [hkey] at this
      exact (Answer.text.inj this).symm
    have hfound : m₁.seen.get? mutation.key = some receipt := by
      rw [hmutation]
      exact hseen
    constructor
    · intro hsame _
      have hmatch := (matchesIdempotencyCall_iff hchecked).2 hsame
      simp [mutate, Action.bind_run, hrun, hfound, hmatch]
    · intro hother
      have hmatch : matchesIdempotencyCall receipt call.profileName mutation = false := by
        rw [← Bool.not_eq_true]
        exact fun heq => hother ((matchesIdempotencyCall_iff hchecked).1 heq)
      exact ⟨_, by simp [mutate, Action.bind_run, hrun, hfound, hmatch]; rfl⟩

variable (category driver)

/-- A mutation is not clicked twice as long as every page kind that passed for a normal page could be
recorded, and a recorded key stays bound to its receipt.  A failed receipt or read makes the session
unusable until it is restarted and opened again as long as no read was interrupted, and a failed close
ends the profile as long as no close was. -/
theorem never_clicked_twice (ops later : List ManagerOp) :
    ((∀ e ∈ (managerRun category driver ops).trace, e.isUnstorablePage = false) →
      ∀ key, clicks key (managerRun category driver ops).trace ≤ 1) ∧
    (∀ key receipt, (managerRun category driver ops).seen.get? key = some receipt →
      receipt.idempotencyKey = key ∧
        KeyBound driver receipt (managerRun category driver (ops ++ later))) ∧
    ((∀ e ∈ (managerRun category driver ops).trace, e.isInterruptedRead = false) →
      ∀ p, RestartedBeforeUse p (managerRun category driver ops).trace) ∧
    ((∀ e ∈ (managerRun category driver ops).trace, e.isInterruptedClose = false) →
      ∀ p, ClosedForGood p (managerRun category driver ops).trace) := by
  have hlawful := (managerRun_lawful category driver ops).1
  refine ⟨hlawful.once, ?_, ?_, ?_⟩
  · intro key receipt hseen
    have hkey : receipt.idempotencyKey = key := (Table.get?_eq_some_iff.1 hseen).2
    refine ⟨hkey, ?_⟩
    have hkept := (managerRun_append category driver ops later).kept hseen
    rw [← hkey] at hkept
    exact keyBound_of_seen (managerRun_lawful category driver (ops ++ later)).1 hkept
  · intro hreads p
    exact (hlawful.guarded hreads p).respected
  · intro hcloses p
    exact (hlawful.lockedUp hcloses p).untouched

/-- A driver whose close is interrupted. -/
def interruptedClose : Driver :=
  fun _ call =>
    match call with
    | .open _ => .ok (.text "s1")
    | .pageKind _ => .ok (.text "normal")
    | .click _ _ => .ok (.text "applied")
    | .close _ => .error .interrupt
    | _ => .ok (.text "unknown")

def publishCall : MutateCall :=
  { profileName := "main"
    operation := .text "publish_page"
    jobId := .text "job-1"
    workspace := .text "space"
    target := .text "page"
    idempotencyKey := .text "key-1"
    timestamp := some 0 }

/-- The restart fails, and the session is clicked all the same. -/
theorem clicked_after_failed_close :
    ¬ ClosedForGood "main" (managerRun (fun _ => "Ll") interruptedClose
      [.openSession "main" .authenticated, .restart "main", .mutate publishCall]).trace := by
  intro hclosed
  have htrace : ∃ before between after,
      (managerRun (fun _ => "Ll") interruptedClose
        [.openSession "main" .authenticated, .restart "main", .mutate publishCall]).trace =
      before ++ .call "main" none (.close (.text "s1")) (.error .interrupt) ::
        (between ++ .call "main" (some "key-1")
          (.click "s1" "[data-testid=\"publish-to-web\"]") (.ok (.text "applied")) :: after) := by
    refine ⟨[.call "main" none (.open "main") (.ok (.text "s1")), .opened "main"],
      [.call "main" (some "key-1") (.pageKind "s1") (.ok (.text "normal"))], _, rfl⟩
  rcases htrace with ⟨before, between, after, htrace⟩
  exact hclosed before _ between _ after htrace rfl rfl

/-- A driver whose page kind is equal to `"normal"` and nothing that `json.dumps` takes. -/
def forgedPage : Driver :=
  fun _ call =>
    match call with
    | .open _ => .ok (.text "s1")
    | .pageKind _ => .ok (.other ⟨["normal"], ["normal"], true, false⟩)
    | .click _ _ => .ok (.text "applied")
    | _ => .ok (.text "unknown")

/-- Neither receipt is stored, so the key is clicked again once the profile is restarted. -/
example : clicks "key-1" (managerRun (fun _ => "Ll") forgedPage
    [.openSession "main" .authenticated, .mutate publishCall, .restart "main",
      .openSession "main" .authenticated, .mutate publishCall]).trace = 2 := by
  decide

/-! ## Every admitted mutation -/

variable {session : OpenSession} {mutation : Mutation} {call : MutateCall}

/-- In every run, an admitted mutation leaves one receipt exactly when the screenshot of a blocked page
is not interrupted. -/
theorem one_receipt_iff (ops : List ManagerOp)
    (h : Admitted driver call (managerRun category driver ops) session mutation) :
    LeavesReceipt driver call (managerRun category driver ops) mutation ↔
      BlockedPageShown driver (managerRun category driver ops) session mutation :=
  leavesReceipt_iff h ((managerRun_lawful category driver ops).1.named _ session h.opened)

/-- The arguments of `publishCall`, and the session it runs on. -/
def publishMutation : Mutation :=
  { operation := "publish_page"
    selector := "[data-testid=\"publish-to-web\"]"
    jobId := "job-1"
    workspace := "space"
    target := "page"
    key := "key-1"
    timestamp := 0 }

def publishSession : OpenSession :=
  { profileName := "main", sessionId := "s1", healthy := true, locked := false }

theorem one_receipt_iff_sample :
    LeavesReceipt interruptedClose publishCall
      (managerRun (fun _ => "Ll") interruptedClose [.openSession "main" .authenticated])
      publishMutation := by
  have hadmitted : Admitted interruptedClose publishCall
      (managerRun (fun _ => "Ll") interruptedClose [.openSession "main" .authenticated])
      publishSession publishMutation :=
    { arguments := rfl, new := rfl, opened := rfl, unlocked := rfl, healthy := rfl
      page := Or.inl ⟨"normal", rfl⟩ }
  refine (one_receipt_iff _ _ _ hadmitted).2 ?_
  intro reason hreason
  cases hreason

/-- A driver that shows a captcha and is interrupted while it takes a screenshot. -/
def interruptedScreenshot : Driver :=
  fun _ call =>
    match call with
    | .open _ => .ok (.text "s1")
    | .pageKind _ => .ok (.text "captcha")
    | .screenshot _ _ => .error .interrupt
    | _ => .ok (.text "unknown")

/-- The mutation is admitted, the interrupt passes by, and no receipt is left. -/
theorem interrupted_block_unrecorded :
    Admitted interruptedScreenshot publishCall
      (managerRun (fun _ => "Ll") interruptedScreenshot [.openSession "main" .authenticated])
      publishSession publishMutation ∧
    ¬ LeavesReceipt interruptedScreenshot publishCall
      (managerRun (fun _ => "Ll") interruptedScreenshot [.openSession "main" .authenticated])
      publishMutation := by
  have hadmitted : Admitted interruptedScreenshot publishCall
      (managerRun (fun _ => "Ll") interruptedScreenshot [.openSession "main" .authenticated])
      publishSession publishMutation :=
    { arguments := rfl, new := rfl, opened := rfl, unlocked := rfl, healthy := rfl
      page := Or.inl ⟨"captcha", rfl⟩ }
  refine ⟨hadmitted, ?_⟩
  rintro ⟨events, receipt, _, _, hseen, _⟩
  have hnone : ((mutate interruptedScreenshot publishCall
      (managerRun (fun _ => "Ll") interruptedScreenshot
        [.openSession "main" .authenticated])).2.seen.get? publishMutation.key) = none := rfl
  rw [hnone] at hseen
  cases hseen

end Managers

end Browser
end Integrations
end MoneyMachine
