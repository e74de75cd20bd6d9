import Mathlib.Data.Rat.Defs
import Mathlib.Algebra.Order.Field.Basic
import Mathlib.Algebra.Order.Ring.Unbundled.Rat
import Mathlib.Tactic.NormNum
import MoneyMachine.Domain.Basic
import MoneyMachine.Library.Runs
import MoneyMachine.Orchestration.TransitionGuard

/-!
# Retry — backoff and retry eligibility

`evaluate_retry` is called with its default delays only: two seconds, doubled per attempt, capped at
five minutes.  Powers of two and the cap are exact in binary floating point, so delays are rational
numbers here; the one place where a float differs is the power itself, which raises
`OverflowError` from `2.0 ** 1024` on.
-/

namespace MoneyMachine
namespace Orchestration

open MoneyMachine.Domain
open MoneyMachine.Library

/-! ## Backoff -/

def baseDelaySeconds : Rat := 2

def backoffMultiplier : Rat := 2

def maxDelaySeconds : Rat := 300

/-- Round to the nearest integer, ties to the even one. -/
def roundHalfEven (q : Rat) : Int :=
  let low := q.floor
  let rest := q - low
  if rest < 1 / 2 then low
  else if 1 / 2 < rest then low + 1
  else if low % 2 = 0 then low
  else low + 1

/-- `timedelta(seconds=delay)`. -/
def timedeltaSeconds (delay : Rat) : Duration :=
  roundHalfEven (delay * 1000000)

/-- `f"{delay:.1f}"` of a non-negative delay. -/
def oneDecimal (delay : Rat) : String :=
  let tenths := roundHalfEven (delay * 10)
  toString (tenths / 10) ++ "." ++ toString (tenths % 10)

/-- `_calculate_backoff`: `min(base * multiplier ** attempt, max)`. -/
def calculateBackoff (attempt : Int) (baseDelay multiplier maxDelay : Rat) :
    Except OrchestrationError Rat :=
  let power := multiplier ^ attempt
  -- `2.0 ** n` raises; it does not become infinite.
  if (2 : Rat) ^ (1024 : Int) ≤ power then
    .error (.overflow "(34, 'Numerical result out of range')")
  else
    .ok (min (baseDelay * power) maxDelay)

/-! ## Eligibility -/

/-- Whether and when a failed job may retry. -/
structure RetryDecision where
  canRetry : Bool
  nextAttempt : Int
  scheduledAt : Option Moment
  reason : String
  deriving DecidableEq, Repr

def refuseRetry (nextAttempt : Int) (reason : String) : RetryDecision :=
  { canRetry := false
    nextAttempt := nextAttempt
    scheduledAt := none
    reason := reason }

/-- The retrying branches of `evaluate_retry`; they differ in their label only. -/
def grantRetry (label : String) (currentAttempt : Int) (now : Moment) :
    Except OrchestrationError RetryDecision := do
  let delay ← calculateBackoff currentAttempt baseDelaySeconds backoffMultiplier maxDelaySeconds
  .ok
    { canRetry := true
      nextAttempt := currentAttempt + 1
      scheduledAt := some (now + timedeltaSeconds delay)
      reason := label ++ " retry after " ++ oneDecimal delay ++ "s backoff" }

def evaluateRetry (retryClass : RetryClass) (currentAttempt maxAttempts : Int) (now : Moment)
    (reconciliationResolved : Bool) : Except OrchestrationError RetryDecision :=
  if maxAttempts ≤ 0 then
    .error (.valueError ("max_attempts must be positive, got " ++ toString maxAttempts))
  -- An exhausted job is the caller's mistake here, not a refusal.
  else if maxAttempts ≤ currentAttempt then
    .error (.valueError
      ("current_attempt " ++ toString currentAttempt ++ " >= max_attempts " ++
        toString maxAttempts ++ "; job should already be TERMINAL_FAILURE"))
  else
    let nextAttempt := currentAttempt + 1
    if maxAttempts ≤ nextAttempt then
      .ok (refuseRetry nextAttempt
        ("retry budget exhausted (" ++ toString nextAttempt ++ "/" ++ toString maxAttempts ++ ")"))
    else
      match retryClass with
      | .safe => grantRetry "SAFE" currentAttempt now
      | .idempotent => grantRetry "IDEMPOTENT" currentAttempt now
      | .reconcileFirst =>
        if reconciliationResolved then
          grantRetry "RECONCILE_FIRST resolved," currentAttempt now
        else
          .ok (refuseRetry nextAttempt "RECONCILE_FIRST: reconciliation required before retry")
      | .manualResume =>
        .ok (refuseRetry nextAttempt "MANUAL_RESUME: operator intervention required")
      | .never => .ok (refuseRetry nextAttempt "NEVER: non-retryable failure")

/-! ## What a decision says -/

/-- The classes that retry without an operator, given what reconciliation found. -/
def Retryable (retryClass : RetryClass) (reconciliationResolved : Bool) : Prop :=
  retryClass = .safe ∨ retryClass = .idempotent ∨
    (retryClass = .reconcileFirst ∧ reconciliationResolved = true)

instance (retryClass : RetryClass) (reconciliationResolved : Bool) :
    Decidable (Retryable retryClass reconciliationResolved) :=
  inferInstanceAs (Decidable (_ ∨ _ ∨ _))

theorem two_zpow_le_iff {attempt : Int} :
    (2 : Rat) ^ (1024 : Int) ≤ backoffMultiplier ^ attempt ↔ 1024 ≤ attempt :=
  zpow_le_zpow_iff_right₀ (by norm_num)

/-- Doubling overflows a float exactly from the 1024th attempt on. -/
theorem grantRetry_of_le {label : String} {attempt : Int} {now : Moment} (h : 1024 ≤ attempt) :
    grantRetry label attempt now = .error (.overflow "(34, 'Numerical result out of range')") := by
  have hback : calculateBackoff attempt baseDelaySeconds backoffMultiplier maxDelaySeconds =
      .error (.overflow "(34, 'Numerical result out of range')") := by
    unfold calculateBackoff
    exact if_pos (two_zpow_le_iff.2 h)
  simp [grantRetry, hback, bind, Except.bind]

theorem grantRetry_of_lt {label : String} {attempt : Int} {now : Moment} (h : attempt < 1024) :
    ∃ decision due, grantRetry label attempt now = .ok decision ∧ decision.canRetry = true ∧
      decision.scheduledAt = some due := by
  have hback : calculateBackoff attempt baseDelaySeconds backoffMultiplier maxDelaySeconds =
      .ok (min (baseDelaySeconds * backoffMultiplier ^ attempt) maxDelaySeconds) := by
    unfold calculateBackoff
    exact if_neg (fun hle => absurd (two_zpow_le_iff.1 hle) (not_le.2 h))
  simp only [grantRetry, hback, bind, Except.bind]
  exact ⟨_, _, rfl, rfl, rfl⟩

/-- Everything `evaluate_retry` can answer: it rejects an exhausted job with `ValueError`, refuses
the last attempt and the classes that do not retry, and otherwise grants a retry unless the
backoff overflows. -/
theorem evaluateRetry_cases (retryClass : RetryClass) (currentAttempt maxAttempts : Int)
    (now : Moment) (resolved : Bool) :
    ((maxAttempts ≤ 0 ∨ maxAttempts ≤ currentAttempt) ∧
      ∃ message, evaluateRetry retryClass currentAttempt maxAttempts now resolved =
        .error (.valueError message)) ∨
    (0 < maxAttempts ∧ currentAttempt < maxAttempts ∧
      (maxAttempts ≤ currentAttempt + 1 ∨ ¬ Retryable retryClass resolved) ∧
        ∃ decision, evaluateRetry retryClass currentAttempt maxAttempts now resolved =
          .ok decision ∧ decision.canRetry = false) ∨
    (currentAttempt + 1 < maxAttempts ∧ Retryable retryClass resolved ∧ currentAttempt < 1024 ∧
      ∃ decision due, evaluateRetry retryClass currentAttempt maxAttempts now resolved =
        .ok decision ∧ decision.canRetry = true ∧ decision.scheduledAt = some due) ∨
    (currentAttempt + 1 < maxAttempts ∧ Retryable retryClass resolved ∧ 1024 ≤ currentAttempt ∧
      ∃ message, evaluateRetry retryClass currentAttempt maxAttempts now resolved =
        .error (.overflow message)) := by
  by_cases hpos : maxAttempts ≤ 0
  · refine Or.inl ⟨Or.inl hpos, ?_⟩
    simp only [evaluateRetry, hpos, if_true]
    exact ⟨_, rfl⟩
  by_cases hcur : maxAttempts ≤ currentAttempt
  · refine Or.inl ⟨Or.inr hcur, ?_⟩
    simp only [evaluateRetry, hpos, hcur, if_true, if_false]
    exact ⟨_, rfl⟩
  have hpos' : 0 < maxAttempts := not_le.1 hpos
  have hcur' : currentAttempt < maxAttempts := not_le.1 hcur
  by_cases hlast : maxAttempts ≤ currentAttempt + 1
  · refine Or.inr (Or.inl ⟨hpos', hcur', Or.inl hlast, ?_⟩)
    simp only [evaluateRetry, hpos, hcur, hlast, if_true, if_false]
    exact ⟨_, rfl, rfl⟩
  have hlast' : currentAttempt + 1 < maxAttempts := not_le.1 hlast
  by_cases hretry : Retryable retryClass resolved
  · -- Each retryable class reaches `grantRetry` with its own label.
    have hgrant : ∃ label, evaluateRetry retryClass currentAttempt maxAttempts now resolved =
        grantRetry label currentAttempt now := by
      rcases hretry with rfl | rfl | ⟨rfl, rfl⟩ <;>
        simp only [evaluateRetry, hpos, hcur, hlast, if_true, if_false] <;>
          exact ⟨_, rfl⟩
    rcases hgrant with ⟨label, hgrant⟩
    rw [hgrant]
    by_cases hover : (1024 : Int) ≤ currentAttempt
    · exact Or.inr (Or.inr (Or.inr ⟨hlast', hretry, hover, _, grantRetry_of_le hover⟩))
    · have hunder : currentAttempt < 1024 := not_le.1 hover
      exact Or.inr (Or.inr (Or.inl ⟨hlast', hretry, hunder, grantRetry_of_lt hunder⟩))
  · refine Or.inr (Or.inl ⟨hpos', hcur', Or.inr hretry, ?_⟩)
    cases retryClass with
    | safe => exact absurd (Or.inl rfl) hretry
    | idempotent => exact absurd (Or.inr (Or.inl rfl)) hretry
    | reconcileFirst =>
      have hres : resolved = false := by
        cases resolved with
        | false => rfl
        | true => exact absurd (Or.inr (Or.inr ⟨rfl, rfl⟩)) hretry
      subst hres
      simp only [evaluateRetry, hpos, hcur, hlast, if_false]
      exact ⟨_, rfl, rfl⟩
    | manualResume | never =>
      simp only [evaluateRetry, hpos, hcur, hlast, if_false]
      exact ⟨_, rfl, rfl⟩

end Orchestration
end MoneyMachine
