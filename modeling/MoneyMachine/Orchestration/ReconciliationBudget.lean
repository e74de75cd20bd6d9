import MoneyMachine.Orchestration.EffectLog

/-!
# ReconciliationBudget — visits to the uncertain status

`reconcile_uncertain_effect` counts its queries in the effect attempts of the job's idempotency key.
The count belongs to the key and is never reset: a job that fails, is retried and becomes uncertain
again continues where it stopped, and an exhausted key is refused by the guard at the top of the
function.  Within one visit that began below the maximum, exhaustion always surfaces as `BLOCKED`.

A `Visit` is the database together with what an observer of one job remembers: the result that has
not been applied yet, the provider queries since the job entered the status, and whether the visit
still has the budget it began with.
-/

namespace MoneyMachine
namespace Orchestration

open MoneyMachine.Domain
open MoneyMachine.Library
open MoneyMachine.Persistence
open MoneyMachine.Orchestration.Reconciliation

/-! ## One query -/

/-- The count of the job's key, while the job is in the uncertain status. -/
def uncertainCount (db : Database) (jobId : Uuid) : Option Int :=
  match db.jobs.get? jobId with
  | none => none
  | some job =>
    if job.status = .uncertainExternalEffect then
      some (currentReconciliation db job.idempotencyKey)
    else
      none

/-- The call passes its guards and reaches the provider. -/
def queriesProvider (db : Database) (jobId : Uuid) (maxAttempts : Int) : Bool :=
  match db.jobs.get? jobId with
  | none => false
  | some job =>
    decide (job.status = .uncertainExternalEffect) &&
      (getIdempotencyRecord db job.idempotencyKey).isSome &&
        decide (currentReconciliation db job.idempotencyKey + 1 ≤ maxAttempts)

section Query

variable {db db' : Database} {jobId : Uuid} {reconciler : Reconciler} {maxAttempts : Int}
  {now : Moment}

theorem uncertainCount_eq_some_iff {count : Int} :
    uncertainCount db jobId = some count ↔
      ∃ job, db.jobs.get? jobId = some job ∧ job.status = .uncertainExternalEffect ∧
        currentReconciliation db job.idempotencyKey = count := by
  unfold uncertainCount
  cases db.jobs.get? jobId with
  | none => simp
  | some job => by_cases hstatus : job.status = .uncertainExternalEffect <;> simp [hstatus]

/-- A conforming answer, numbered one above the count of its key, passes every check of the log. -/
theorem recordEffectAttempt_ok (row : EffectAttempt)
    (hnumber : row.reconciliationAttempt = currentReconciliation db row.idempotencyKey + 1)
    (hevidence : row.effectState = .confirmed ↔ row.providerObjectId.isSome = true)
    (hlog : LogNonnegative db.effectAttempts) :
    recordEffectAttempt db row =
      .ok { db with effectAttempts := db.effectAttempts ++ [row] } := by
  -- A number above the count of the key is not taken: the count bounds every row.
  have hfree : (attemptsOfKey db row.idempotencyKey).any
      (fun old => decide (old.reconciliationAttempt = row.reconciliationAttempt)) = false := by
    rw [List.any_eq_false]
    intro old hold heq
    rcases List.mem_filter.1 hold with ⟨hmem, hkey⟩
    have hle := number_le_currentReconciliation hmem
    rw [of_decide_eq_true hkey, of_decide_eq_true heq] at hle
    omega
  have hchecked : effectStateEvidence row.effectState row.providerObjectId = true := by
    cases hstate : row.effectState <;> cases hobject : row.providerObjectId <;>
      simp_all [effectStateEvidence]
  have hnonneg : ¬ row.reconciliationAttempt < 0 := by
    have := currentReconciliation_nonneg hlog row.idempotencyKey
    omega
  unfold recordEffectAttempt
  rw [if_neg (by simp [hfree]), if_neg (by simp [hchecked]), if_neg hnonneg]

/-- A call that reaches a conforming provider returns a result. -/
theorem reconcileUncertainEffect_ok (hquery : queriesProvider db jobId maxAttempts = true)
    (hconforms : reconciler.Conforms) (hlog : LogNonnegative db.effectAttempts) (now : Moment) :
    ∃ db' result,
      reconcileUncertainEffect db jobId reconciler maxAttempts now = .ok (db', result) := by
  unfold queriesProvider at hquery
  unfold reconcileUncertainEffect
  cases hget : db.jobs.get? jobId with
  | none => simp [hget] at hquery
  | some job =>
    simp only [hget, Bool.and_eq_true, decide_eq_true_eq] at hquery
    rcases hquery with ⟨⟨hstatus, hrecord⟩, hbudget⟩
    rcases Option.isSome_iff_exists.1 hrecord with ⟨record, hrecord⟩
    rcases hconforms job.idempotencyKey record.operation with
      ⟨state, objectId, hanswer, hevidence⟩
    have hrow := recordEffectAttempt_ok
      (reconciliationRow record job.idempotencyKey jobId state objectId
        (currentReconciliation db job.idempotencyKey + 1) now) rfl hevidence hlog
    simp [hstatus, hrecord, not_lt.2 hbudget, hanswer, hrow, bind, Except.bind]

theorem reconcileUncertainEffect_error (hquery : queriesProvider db jobId maxAttempts = false)
    (reconciler : Reconciler) (now : Moment) :
    ∃ error, reconcileUncertainEffect db jobId reconciler maxAttempts now = .error error := by
  cases hcall : reconcileUncertainEffect db jobId reconciler maxAttempts now with
  | error error => exact ⟨error, rfl⟩
  | ok returned =>
    rcases returned with ⟨db', result⟩
    rcases reconcileUncertainEffect_eq_ok hcall with
      ⟨job, record, hget, hstatus, hrecord, hbudget, _⟩
    simp [queriesProvider, hget, hstatus, hrecord, hbudget] at hquery

/-- A key that has its maximum recorded is refused, whatever the provider would say. -/
theorem refused_of_exhausted {job : Job} {record : IdempotencyRecord}
    (hget : db.jobs.get? jobId = some job) (hstatus : job.status = .uncertainExternalEffect)
    (hrecord : getIdempotencyRecord db job.idempotencyKey = some record)
    (hspent : maxAttempts ≤ currentReconciliation db job.idempotencyKey) :
    ∃ message, reconcileUncertainEffect db jobId reconciler maxAttempts now =
      .error (.reconciliationBudgetExhausted message) := by
  have hover : maxAttempts < currentReconciliation db job.idempotencyKey + 1 := by omega
  simp [reconcileUncertainEffect, hget, hstatus, hrecord, hover]

/-- The guard at the top of the function: the budget of the key is spent. -/
theorem count_of_exhausted (hconforms : reconciler.Conforms)
    (hlog : LogNonnegative db.effectAttempts) {message : String}
    (h : reconcileUncertainEffect db jobId reconciler maxAttempts now =
      .error (.reconciliationBudgetExhausted message)) :
    ∃ count, uncertainCount db jobId = some count ∧ maxAttempts ≤ count := by
  cases hget : db.jobs.get? jobId with
  | none => simp [reconcileUncertainEffect, hget] at h
  | some job =>
    by_cases hstatus : job.status = .uncertainExternalEffect
    · refine ⟨currentReconciliation db job.idempotencyKey,
        uncertainCount_eq_some_iff.2 ⟨job, hget, hstatus, rfl⟩, ?_⟩
      -- Below the maximum a conforming provider is reached and its answer recorded.
      by_contra hbudget
      cases hrecord : getIdempotencyRecord db job.idempotencyKey with
      | none => simp [reconcileUncertainEffect, hget, hstatus, hrecord] at h
      | some record =>
        have hquery : queriesProvider db jobId maxAttempts = true := by
          simp only [queriesProvider, hget, hstatus, hrecord, Option.isSome_some, decide_true,
            Bool.and_self, Bool.true_and, decide_eq_true_eq]
          omega
        rcases reconcileUncertainEffect_ok hquery hconforms hlog now with
          ⟨db', result, hok⟩
        rw [hok] at h
        cases h
    · simp [reconcileUncertainEffect, hget, hstatus] at h

end Query

/-! ## Visits -/

structure Visit where
  db : Database
  /-- The result that was returned and not applied yet. -/
  pending : Option ReconciliationResult
  /-- Provider queries since the job entered the status. -/
  queries : Nat
  /-- The job entered with budget left, and no other writer has raised the count since. -/
  funded : Bool

/-- Observing starts with no result outstanding. -/
def Visit.start (db : Database) (jobId : Uuid) (maxAttempts : Int) : Visit :=
  { db := db
    pending := none
    queries := 0
    funded := (uncertainCount db jobId).all (fun count => decide (count < maxAttempts)) }

/-- The database moved on: entering the status begins a visit, and inside one another writer may
have raised the count. -/
def Visit.moveTo (jobId : Uuid) (maxAttempts : Int) (visit : Visit) (db : Database) : Visit :=
  match uncertainCount visit.db jobId, uncertainCount db jobId with
  | none, some count => { visit with db := db, queries := 0, funded := decide (count < maxAttempts) }
  | some before, some after =>
    { visit with db := db, funded := visit.funded && decide (after = before) }
  | _, none => { visit with db := db }

inductive VisitAction
  | reconcile (reconciler : Reconciler) (now : Moment)
  | apply (now : Moment)
  | other (op : Op)

section Machine

variable (digest : String → Uuid) (jobId : Uuid) (maxAttempts : Int)

def visitStep (visit : Visit) : VisitAction → Visit
  | .reconcile reconciler now =>
    -- A query is counted when the provider is asked, also if recording its answer failed.
    let queries :=
      if queriesProvider visit.db jobId maxAttempts then visit.queries + 1 else visit.queries
    match reconcileUncertainEffect visit.db jobId reconciler maxAttempts now with
    | .ok (db, result) => { visit with db := db, pending := some result, queries := queries }
    | .error _ => { visit with queries := queries }
  | .apply now =>
    match visit.pending with
    | none => visit
    | some result =>
      match applyReconciliationResult visit.db jobId result now with
      | .ok db => { visit.moveTo jobId maxAttempts db with pending := none }
      -- A result that cannot be applied is dropped with its transaction.
      | .error _ => { visit with pending := none }
  | .other op => visit.moveTo jobId maxAttempts (step digest visit.db op)

end Machine

/-- The writes a run of visits makes through its own actions. -/
def Write.reconciles (jobId : Uuid) : Write → Bool
  | .reconcileUncertainEffect target _ _ _ => decide (target = jobId)
  | .applyReconciliationResult target _ _ => decide (target = jobId)
  | _ => false

/-- Every result is applied before the next query, and the provider answers as its protocol says. -/
def AppliesEachResult (jobId : Uuid) (visit : Visit) : VisitAction → Prop
  | .reconcile reconciler _ => visit.pending = none ∧ reconciler.Conforms
  | .apply _ => True
  | .other op => op.Meets (fun _ w => w.reconciles jobId = false) visit.db

/-! ## The invariant -/

/-- Applying the result keeps an uncertain job where it is or takes it out of the status. -/
def Issued (result : ReconciliationResult) : Prop :=
  result.nextJobStatus = .uncertainExternalEffect ∨
    result.nextJobStatus ∈ jobTransitions .uncertainExternalEffect

structure WithinVisit (jobId : Uuid) (maxAttempts : Int) (visit : Visit) : Prop where
  numbers : LogNonnegative visit.db.effectAttempts
  bounded : (visit.queries : Int) ≤ maxAttempts
  /-- Every query of the visit is counted. -/
  counted : ∀ count, uncertainCount visit.db jobId = some count → (visit.queries : Int) ≤ count
  issued : ∀ result, visit.pending = some result → Issued result
  /-- Budget is left unless the outstanding result takes the job out of the status. -/
  left : visit.funded = true →
    (∀ result, visit.pending = some result → result.nextJobStatus = .uncertainExternalEffect) →
      ∀ count, uncertainCount visit.db jobId = some count → count < maxAttempts

section Invariant

variable {digest : String → Uuid} {jobId : Uuid} {maxAttempts : Int} {visit : Visit}

theorem start_withinVisit {db : Database} (hmax : 1 ≤ maxAttempts)
    (hlog : LogNonnegative db.effectAttempts) :
    WithinVisit jobId maxAttempts (Visit.start db jobId maxAttempts) :=
  { numbers := hlog
    bounded := by
      show (0 : Int) ≤ maxAttempts
      exact le_trans (by decide) hmax
    counted := by
      intro count hcount
      rcases uncertainCount_eq_some_iff.1 hcount with ⟨job, _, _, rfl⟩
      exact currentReconciliation_nonneg hlog job.idempotencyKey
    issued := by
      intro result hresult
      cases hresult
    left := by
      intro hfunded _ count hcount
      have hall : (uncertainCount db jobId).all (fun count => decide (count < maxAttempts)) = true :=
        hfunded
      have hcount' : uncertainCount db jobId = some count := hcount
      simpa [hcount'] using hall }

/-- What moving on does, read off its three cases. -/
theorem moveTo_cases (jobId : Uuid) (maxAttempts : Int) (visit : Visit) (db : Database) :
    (uncertainCount visit.db jobId = none ∧ ∃ count, uncertainCount db jobId = some count ∧
      visit.moveTo jobId maxAttempts db =
        { visit with db := db, queries := 0, funded := decide (count < maxAttempts) }) ∨
    (∃ before after, uncertainCount visit.db jobId = some before ∧
      uncertainCount db jobId = some after ∧ visit.moveTo jobId maxAttempts db =
        { visit with db := db, funded := visit.funded && decide (after = before) }) ∨
    (uncertainCount db jobId = none ∧
      visit.moveTo jobId maxAttempts db = { visit with db := db }) := by
  unfold Visit.moveTo
  cases hbefore : uncertainCount visit.db jobId with
  | none =>
    cases hafter : uncertainCount db jobId with
    | none => exact Or.inr (Or.inr ⟨rfl, rfl⟩)
    | some count => exact Or.inl ⟨rfl, count, rfl, rfl⟩
  | some before =>
    cases hafter : uncertainCount db jobId with
    | none => exact Or.inr (Or.inr ⟨rfl, rfl⟩)
    | some after => exact Or.inr (Or.inl ⟨before, after, rfl, rfl, rfl⟩)

/-- Moving on keeps the invariant when the log only grew and a job that stays in the status leaves
no result outstanding that would take it out. -/
theorem moveTo_withinVisit (h : WithinVisit jobId maxAttempts visit) (hmax : 1 ≤ maxAttempts)
    {db : Database} {pending : Option ReconciliationResult}
    (hlog : LogNonnegative db.effectAttempts)
    (hmono : ∀ before after, uncertainCount visit.db jobId = some before →
      uncertainCount db jobId = some after → before ≤ after)
    (hissued : ∀ result, pending = some result → Issued result)
    (hstays : ∀ before after, uncertainCount visit.db jobId = some before →
      uncertainCount db jobId = some after →
        (∀ result, pending = some result → result.nextJobStatus = .uncertainExternalEffect) →
          ∀ result, visit.pending = some result →
            result.nextJobStatus = .uncertainExternalEffect) :
    WithinVisit jobId maxAttempts { visit.moveTo jobId maxAttempts db with pending := pending } := by
  have hzero : ((0 : Nat) : Int) ≤ maxAttempts := le_trans (by decide) hmax
  rcases moveTo_cases jobId maxAttempts visit db with
    ⟨_, count, hafter, heq⟩ | ⟨before, after, hbefore, hafter, heq⟩ | ⟨hafter, heq⟩
  · -- A visit begins: nothing has been asked yet.
    rw [heq]
    refine ⟨hlog, hzero, ?_, hissued, ?_⟩
    · intro count' hcount'
      rcases uncertainCount_eq_some_iff.1 hcount' with ⟨job, _, _, rfl⟩
      exact currentReconciliation_nonneg hlog job.idempotencyKey
    · intro hfunded _ count' hcount'
      have hsame : count = count' := Option.some.inj (hafter.symm.trans hcount')
      exact hsame ▸ of_decide_eq_true hfunded
  · -- Inside a visit: what was counted stays counted.
    rw [heq]
    refine ⟨hlog, h.bounded, ?_, hissued, ?_⟩
    · intro count hcount
      have hle : before ≤ count := hmono before count hbefore hcount
      exact le_trans (h.counted before hbefore) hle
    · intro hfunded hpending count hcount
      rcases Bool.and_eq_true_iff.1 hfunded with ⟨hfunded, hsame⟩
      have hcount' : count = before :=
        (Option.some.inj (hcount.symm.trans hafter)).trans (of_decide_eq_true hsame)
      rw [hcount']
      exact h.left hfunded (hstays before after hbefore hafter hpending) before hbefore
  · -- Outside the status there is nothing to count.
    rw [heq]
    refine ⟨hlog, h.bounded, ?_, hissued, ?_⟩
    · intro count hcount
      exact absurd (hafter.symm.trans hcount) (by simp)
    · intro _ _ count hcount
      exact absurd (hafter.symm.trans hcount) (by simp)

/-! ### One case per action -/

/-- No operation changes the key of a job. -/
theorem step_idempotencyKey (digest : String → Uuid) {db : Database} {job : Job} (op : Op)
    (hget : db.jobs.get? jobId = some job) :
    ∃ job', (step digest db op).jobs.get? jobId = some job' ∧
      job'.idempotencyKey = job.idempotencyKey := by
  rcases Table.get?_eq_some_iff.1 hget with ⟨hmem, hid⟩
  have hrow : ∃ job' ∈ (step digest db op).jobs, job'.id = jobId ∧
      job'.idempotencyKey = job.idempotencyKey := by
    refine step_exists_job (J := fun row => row.idempotencyKey = job.idempotencyKey) ?_
      ⟨job, hmem, hid, rfl⟩
    intro _ _ _ _ _ _ _ hkey hchange
    exact hchange.frame.2.2.2.2.trans hkey
  rcases hrow with ⟨job', hmem', hid', hkey⟩
  exact ⟨job', Table.get?_eq_some_iff.2 ⟨hmem', hid'⟩, hkey⟩

theorem other_withinVisit (h : WithinVisit jobId maxAttempts visit) (hmax : 1 ≤ maxAttempts)
    (op : Op) : WithinVisit jobId maxAttempts (visitStep digest jobId maxAttempts visit (.other op)) := by
  have hext : LogExtends visit.db.effectAttempts (step digest visit.db op).effectAttempts :=
    step_extends op
  have hkeep : visitStep digest jobId maxAttempts visit (.other op) =
      { visit.moveTo jobId maxAttempts (step digest visit.db op) with
        pending := visit.pending } := by
    rcases moveTo_cases jobId maxAttempts visit
        (step digest visit.db op) with
      ⟨_, _, _, heq⟩ | ⟨_, _, _, _, heq⟩ | ⟨_, heq⟩ <;> simp [visitStep, heq]
  rw [hkeep]
  refine moveTo_withinVisit h hmax (hext.nonnegative h.numbers) ?_ h.issued
    (fun _ _ _ _ hpending => hpending)
  intro before after hbefore hafter
  rcases uncertainCount_eq_some_iff.1 hbefore with ⟨job, hget, _, rfl⟩
  rcases uncertainCount_eq_some_iff.1 hafter with ⟨job', hget', _, rfl⟩
  rcases step_idempotencyKey digest op hget with ⟨job₁, hget₁, hkey⟩
  have hjob : job' = job₁ := Option.some.inj (hget'.symm.trans hget₁)
  rw [hjob, hkey]
  exact currentReconciliation_mono hext h.numbers job.idempotencyKey

/-- An issued result can be applied to an uncertain job. -/
theorem applyReconciliationResult_ok {db : Database} {result : ReconciliationResult} {count : Int}
    (hcount : uncertainCount db jobId = some count) (hissued : Issued result) (now : Moment) :
    ∃ db', applyReconciliationResult db jobId result now = .ok db' := by
  rcases uncertainCount_eq_some_iff.1 hcount with ⟨job, hget, hstatus, _⟩
  by_cases hsame : result.nextJobStatus = .uncertainExternalEffect
  · exact ⟨db, by simp [applyReconciliationResult, hget, hstatus, hsame]⟩
  · have hedge : result.nextJobStatus ∈ jobTransitions .uncertainExternalEffect := by
      rcases hissued with hstay | hedge
      · exact absurd hstay hsame
      · exact hedge
    have hguard : requireJobTransition .uncertainExternalEffect result.nextJobStatus = .ok () :=
      requireJobTransition_eq_ok_iff.2 hedge
    have hid : ∀ job, (applyColumns now result.nextJobStatus job).id = job.id := by
      intro job
      simp [applyColumns]
    have hbudget : ∀ job ∈ db.jobs, (applyColumns now result.nextJobStatus job).WithinBudget := by
      intro job hjob
      simpa [applyColumns, Job.WithinBudget] using db.budget job hjob
    rcases Database.updateJob_ok jobId hid hbudget with ⟨db', hupd⟩
    exact ⟨db', by
      simp [applyReconciliationResult, hget, hstatus, hsame, hguard, hupd, bind, Except.bind]⟩

/-- A job that is uncertain before and after keeps its count, and the result said so. -/
theorem applyReconciliationResult_stays {db db' : Database} {result : ReconciliationResult}
    {now : Moment} {before after : Int}
    (h : applyReconciliationResult db jobId result now = .ok db')
    (hbefore : uncertainCount db jobId = some before)
    (hafter : uncertainCount db' jobId = some after) :
    after = before ∧ result.nextJobStatus = .uncertainExternalEffect := by
  rcases uncertainCount_eq_some_iff.1 hbefore with ⟨job, hget, hstatus, _⟩
  rcases applyReconciliationResult_eq_ok h with ⟨job₁, hget₁, happly⟩
  have hjob : job₁ = job := Option.some.inj (hget₁.symm.trans hget)
  subst hjob
  rcases happly with ⟨rfl, _, hnext⟩ | ⟨hedge, hid, hupd⟩
  · exact ⟨Option.some.inj (hafter.symm.trans hbefore), hnext⟩
  · -- A real transition leaves the status, so the job cannot be uncertain afterwards.
    rcases uncertainCount_eq_some_iff.1 hafter with ⟨job', hget', hstatus', _⟩
    have hrow := Database.get?_updateJob hupd hget
    have hjob' : job' = applyColumns now result.nextJobStatus job₁ :=
      Option.some.inj (hget'.symm.trans hrow)
    have hnext : result.nextJobStatus = .uncertainExternalEffect := by
      simpa [hjob', applyColumns] using hstatus'
    rw [hstatus, hnext] at hedge
    simp [jobTransitions] at hedge

theorem apply_effectAttempts {db db' : Database} {result : ReconciliationResult} {now : Moment}
    (h : applyReconciliationResult db jobId result now = .ok db') :
    db'.effectAttempts = db.effectAttempts := by
  rcases applyReconciliationResult_eq_ok h with ⟨_, _, happly⟩
  rcases happly with ⟨rfl, _⟩ | ⟨_, _, hupd⟩
  · rfl
  · exact (flushJobs_logs hupd).1

theorem apply_withinVisit (h : WithinVisit jobId maxAttempts visit) (hmax : 1 ≤ maxAttempts)
    (now : Moment) :
    WithinVisit jobId maxAttempts (visitStep digest jobId maxAttempts visit (.apply now)) := by
  cases hpending : visit.pending with
  | none => simpa [visitStep, hpending] using h
  | some result =>
    have hissued : Issued result := h.issued result hpending
    cases happly : applyReconciliationResult visit.db jobId result now with
    | error error =>
      -- The job left the status before its result was applied.
      have hgone : ∀ count, uncertainCount visit.db jobId ≠ some count := by
        intro count hcount
        rcases applyReconciliationResult_ok hcount hissued now with ⟨db', hok⟩
        rw [happly] at hok
        cases hok
      simp only [visitStep, hpending, happly]
      exact
        { numbers := h.numbers
          bounded := h.bounded
          counted := h.counted
          issued := by
            intro result' hresult'
            cases hresult'
          left := by
            intro _ _ count hcount
            exact absurd hcount (hgone count) }
    | ok db =>
      have hlog : db.effectAttempts = visit.db.effectAttempts := apply_effectAttempts happly
      simp only [visitStep, hpending, happly]
      refine moveTo_withinVisit h hmax (hlog ▸ h.numbers) ?_ (by simp) ?_
      · intro before after hbefore hafter
        exact (applyReconciliationResult_stays happly hbefore hafter).1.ge
      · intro before after hbefore hafter _ result' hresult'
        have hsame : result' = result := Option.some.inj (hresult'.symm.trans hpending)
        rw [hsame]
        exact (applyReconciliationResult_stays happly hbefore hafter).2

/-- Query number `next` of a conforming provider: its result is issued, and it keeps the job
uncertain only below the maximum. -/
theorem nextStatus_issued (state : EffectState) (next maxAttempts : Int) :
    ((nextStatus state next maxAttempts).1 = .uncertainExternalEffect → next < maxAttempts) ∧
      ((nextStatus state next maxAttempts).1 = .uncertainExternalEffect ∨
        (nextStatus state next maxAttempts).1 ∈ jobTransitions .uncertainExternalEffect) := by
  cases state with
  | confirmed => simp [nextStatus, jobTransitions]
  | absent => simp [nextStatus, jobTransitions]
  | unknown =>
    by_cases hlast : maxAttempts ≤ next
    · simp [nextStatus, jobTransitions, hlast]
    · simp [nextStatus, hlast, lt_of_not_ge hlast]

theorem reconcile_withinVisit (h : WithinVisit jobId maxAttempts visit) {reconciler : Reconciler}
    {now : Moment} (hconforms : reconciler.Conforms) :
    WithinVisit jobId maxAttempts
      (visitStep digest jobId maxAttempts visit (.reconcile reconciler now)) := by
  cases hquery : queriesProvider visit.db jobId maxAttempts with
  | false =>
    -- The guards refuse the call: nothing is asked and nothing changes.
    rcases reconcileUncertainEffect_error hquery reconciler now with
      ⟨error, herror⟩
    simpa [visitStep, hquery, herror] using h
  | true =>
    rcases reconcileUncertainEffect_ok hquery hconforms h.numbers now with ⟨db, result, hok⟩
    rcases reconcileUncertainEffect_eq_ok hok with
      ⟨job, record, hget, hstatus, _, hbudget, hnumber, hnext, hnonneg, rfl⟩
    have hbefore : uncertainCount visit.db jobId =
        some (currentReconciliation visit.db job.idempotencyKey) :=
      uncertainCount_eq_some_iff.2 ⟨job, hget, hstatus, rfl⟩
    -- The row carries the next number, so the count goes up with the queries.
    have hcounted := h.counted _ hbefore
    have hafter : currentReconciliation
        { visit.db with
          effectAttempts := visit.db.effectAttempts ++
            [reconciliationRow record job.idempotencyKey jobId result.effectState
              result.providerObjectId result.reconciliationAttempt now] }
        job.idempotencyKey = result.reconciliationAttempt :=
      currentReconciliation_append hnumber
    rcases nextStatus_issued result.effectState result.reconciliationAttempt maxAttempts with ⟨hbelow, hissued⟩
    simp only [visitStep, hquery, hok, if_true]
    refine ⟨(LogExtends.append hnonneg).nonnegative h.numbers, ?_, ?_, ?_, ?_⟩
    · push_cast
      omega
    · intro count hcount
      rcases uncertainCount_eq_some_iff.1 hcount with ⟨job', hget', _, rfl⟩
      have hjob : job' = job := Option.some.inj (hget'.symm.trans hget)
      rw [hjob, hafter]
      push_cast
      omega
    · intro result' hresult'
      have hsame : result = result' := Option.some.inj hresult'
      rw [← hsame, Issued, hnext]
      exact hissued
    · intro _ hpending count hcount
      rcases uncertainCount_eq_some_iff.1 hcount with ⟨job', hget', _, rfl⟩
      have hjob : job' = job := Option.some.inj (hget'.symm.trans hget)
      rw [hjob, hafter]
      exact hbelow (hnext ▸ hpending result rfl)

theorem visitStep_withinVisit (hmax : 1 ≤ maxAttempts) (visit : Visit) (action : VisitAction)
    (h : WithinVisit jobId maxAttempts visit) (hok : AppliesEachResult jobId visit action) :
    WithinVisit jobId maxAttempts (visitStep digest jobId maxAttempts visit action) := by
  cases action with
  | reconcile reconciler now => exact reconcile_withinVisit h hok.2
  | apply now => exact apply_withinVisit h hmax now
  | other op => exact other_withinVisit h hmax op

/-- An exhausted key is refused.  A visit that began with budget left is never refused: as long as every
result is applied before the next query, the last query of the budget takes the job to `BLOCKED`, and the
provider is asked at most `maxAttempts` times. -/
theorem exhaustion_surfaces_as_blocked {db : Database} (hmax : 1 ≤ maxAttempts)
    (hlog : LogNonnegative db.effectAttempts) {actions : List VisitAction}
    (hrun : Along (visitStep digest jobId maxAttempts) (AppliesEachResult jobId)
      (Visit.start db jobId maxAttempts) actions) :
    let visit := runFrom (visitStep digest jobId maxAttempts)
      (Visit.start db jobId maxAttempts) actions
    (∀ (reconciler : Reconciler) (now : Moment) (job : Job) (record : IdempotencyRecord),
      visit.db.jobs.get? jobId = some job → job.status = .uncertainExternalEffect →
        getIdempotencyRecord visit.db job.idempotencyKey = some record →
          maxAttempts ≤ currentReconciliation visit.db job.idempotencyKey →
            ∃ message, reconcileUncertainEffect visit.db jobId reconciler maxAttempts now =
              .error (.reconciliationBudgetExhausted message)) ∧
    (visit.queries : Int) ≤ maxAttempts ∧
      ∀ (reconciler : Reconciler) (now : Moment), reconciler.Conforms →
        visit.pending = none → visit.funded = true →
        (∀ message, reconcileUncertainEffect visit.db jobId reconciler maxAttempts now ≠
          .error (.reconciliationBudgetExhausted message)) ∧
        ∀ db' result,
          reconcileUncertainEffect visit.db jobId reconciler maxAttempts now = .ok (db', result) →
            result.effectState = .unknown → result.reconciliationAttempt = maxAttempts →
              result.nextJobStatus = .blocked := by
  intro visit
  have h : WithinVisit jobId maxAttempts visit :=
    runFrom_invariant_along (visitStep_withinVisit hmax) (start_withinVisit hmax hlog) hrun
  refine ⟨fun _ _ _ _ => refused_of_exhausted, h.bounded, ?_⟩
  intro reconciler now hconforms hpending hfunded
  constructor
  · intro message herror
    rcases count_of_exhausted hconforms h.numbers herror with ⟨count, hcount, hspent⟩
    -- With nothing outstanding, a funded visit has budget left.
    have hleft : count < maxAttempts := by
      refine h.left hfunded ?_ count hcount
      intro result hresult
      rw [hpending] at hresult
      cases hresult
    exact absurd hspent (not_le.2 hleft)
  · intro db' result hok hunknown hlast
    rcases reconcileUncertainEffect_eq_ok hok with ⟨_, _, _, _, _, _, _, hnext, _⟩
    simpa [hunknown, hlast, nextStatus] using hnext

end Invariant

/-! ## Two visits of one job -/

/-- A provider that always gives the same answer. -/
def answers (state : EffectState) (objectId : Option String) : Reconciler :=
  fun _ _ => .ok (state, objectId)

theorem answers_conforms {state : EffectState} {objectId : Option String}
    (h : state = .confirmed ↔ objectId.isSome = true) : (answers state objectId).Conforms :=
  fun _ _ => ⟨state, objectId, rfl, h⟩

section Pending

variable {digest : String → Uuid} {jobId : Uuid} {maxAttempts : Int} {visit : Visit}

@[simp] theorem apply_pending {now : Moment} :
    (visitStep digest jobId maxAttempts visit (.apply now)).pending = none := by
  cases hpending : visit.pending with
  | none => simp [visitStep, hpending]
  | some result =>
    cases happly : applyReconciliationResult visit.db jobId result now <;>
      simp [visitStep, hpending, happly]

@[simp] theorem other_pending {op : Op} :
    (visitStep digest jobId maxAttempts visit (.other op)).pending = visit.pending := by
  rcases moveTo_cases jobId maxAttempts visit (step digest visit.db op) with
    ⟨_, _, _, heq⟩ | ⟨_, _, _, _, heq⟩ | ⟨_, heq⟩ <;> simp [visitStep, heq]

end Pending

/-- The job is claimed, its effect ends uncertain, and two queries find nothing. -/
def firstVisit : List VisitAction :=
  [.other (.call (.claimReadyJob unlocked "worker-1" 0 leaseDuration) sampleClaim_callable),
    .other (.call (.reserveIdempotencyKey "ProductBuildJob:7:1" 1 "notion.build" .externalWrite
      (minutes 1)) rfl),
    .other (.call (.releaseLease 1 "worker-1" (minutes 1) .uncertainExternalEffect) rfl),
    .reconcile (answers .unknown none) (minutes 2),
    .apply (minutes 2),
    .reconcile (answers .unknown none) (minutes 3),
    .apply (minutes 3)]

/-- The third query finds the effect absent; the job is retried and ends uncertain again. -/
def secondVisit : List VisitAction :=
  firstVisit ++
    [.reconcile (answers .absent none) (minutes 4),
      .apply (minutes 4),
      .other (.call (.retryFailedJob 1 (minutes 5)) rfl),
      .other (.call (.claimReadyJob unlocked "worker-1" (minutes 20) leaseDuration) rfl),
      .other (.call (.releaseLease 1 "worker-1" (minutes 21) .uncertainExternalEffect) rfl)]

/-- The database both visits start from. -/
def visitStart : Visit :=
  Visit.start (readyDatabase .reconcileFirst) 1 3

theorem firstVisit_disciplined :
    Along (visitStep sampleDigest 1 3) (AppliesEachResult 1) visitStart firstVisit := by
  have hunknown : (answers .unknown none).Conforms := answers_conforms (by simp)
  refine ⟨meets_call.2 rfl, meets_call.2 rfl, meets_call.2 rfl, ⟨?_, hunknown⟩, trivial,
    ⟨apply_pending, hunknown⟩, trivial, trivial⟩
  simp [visitStart, Visit.start]

theorem secondVisit_disciplined :
    Along (visitStep sampleDigest 1 3) (AppliesEachResult 1) visitStart secondVisit := by
  refine along_append.2 ⟨firstVisit_disciplined, ⟨?_, answers_conforms (by simp)⟩, trivial,
    meets_call.2 rfl, meets_call.2 rfl, meets_call.2 rfl, trivial⟩
  simp [firstVisit]

/-- After two unanswered queries the visit still has its budget, and the third one is not refused.  The
first query of the second visit is: the count is that of the key. -/
theorem exhaustion_surfaces_as_blocked_firstVisit :
    (∃ message, reconcileUncertainEffect
      (runFrom (visitStep sampleDigest 1 3) visitStart secondVisit).db 1 (answers .unknown none) 3
        (minutes 22) = .error (.reconciliationBudgetExhausted message)) ∧
    let visit := runFrom (visitStep sampleDigest 1 3) visitStart firstVisit
    uncertainCount visit.db 1 = some 2 ∧ visit.queries ≤ 3 ∧
      ∀ message, reconcileUncertainEffect visit.db 1 (answers .unknown none) 3 (minutes 4) ≠
        .error (.reconciliationBudgetExhausted message) := by
  have hstart : LogNonnegative (readyDatabase .reconcileFirst).effectAttempts := by
    intro row hrow
    cases hrow
  constructor
  · have hrefused := (exhaustion_surfaces_as_blocked (by decide) hstart secondVisit_disciplined).1
      (answers .unknown none) (minutes 22)
    have hspent : ((runFrom (visitStep sampleDigest 1 3) visitStart secondVisit).db.jobs.get? 1).any
        (fun job => decide (job.status = .uncertainExternalEffect) &&
          ((getIdempotencyRecord (runFrom (visitStep sampleDigest 1 3) visitStart secondVisit).db
            job.idempotencyKey).isSome &&
          decide (3 ≤ currentReconciliation
            (runFrom (visitStep sampleDigest 1 3) visitStart secondVisit).db
              job.idempotencyKey))) = true := by
      decide +kernel
    unfold visitStart at hspent ⊢
    obtain ⟨job, hget, hjob⟩ := (Option.any_eq_true _ _).1 hspent
    rw [Bool.and_eq_true, Bool.and_eq_true, decide_eq_true_eq, decide_eq_true_eq,
      Option.isSome_iff_exists] at hjob
    obtain ⟨hstatus, ⟨record, hrecord⟩, hcount⟩ := hjob
    exact hrefused job record hget hstatus hrecord hcount
  · have hvisit := (exhaustion_surfaces_as_blocked (by decide) hstart firstVisit_disciplined).2
    have hcount : uncertainCount (runFrom (visitStep sampleDigest 1 3) visitStart firstVisit).db 1 =
        some 2 := by decide +kernel
    have hfunded : (runFrom (visitStep sampleDigest 1 3) visitStart firstVisit).funded = true := by
      decide +kernel
    refine ⟨hcount, by exact_mod_cast hvisit.1, ?_⟩
    have hpending : (runFrom (visitStep sampleDigest 1 3) visitStart firstVisit).pending = none := by
      simp [firstVisit]
    exact (hvisit.2 _ (minutes 4) (answers_conforms (by simp)) hpending hfunded).1

/-- The count of the key outlives the visit: with the default maximum of three, the first query of
the second visit is refused although every result was applied. -/
theorem exhausted_on_second_visit :
    ¬ ∀ (digest : String → Uuid) (db : Database) (jobId : Uuid) (maxAttempts : Int)
        (actions : List VisitAction), 1 ≤ maxAttempts → LogNonnegative db.effectAttempts →
      Along (visitStep digest jobId maxAttempts) (AppliesEachResult jobId)
        (Visit.start db jobId maxAttempts) actions →
      let visit := runFrom (visitStep digest jobId maxAttempts)
        (Visit.start db jobId maxAttempts) actions
      visit.pending = none → ∀ (reconciler : Reconciler) (now : Moment), reconciler.Conforms →
        ∀ message, reconcileUncertainEffect visit.db jobId reconciler maxAttempts now ≠
          .error (.reconciliationBudgetExhausted message) := by
  intro h
  have hnever := h sampleDigest (readyDatabase .reconcileFirst) 1 3 secondVisit (by decide)
    (by intro row hrow; cases hrow) secondVisit_disciplined (by simp [secondVisit, firstVisit])
    (answers .unknown none) (minutes 22) (answers_conforms (by simp))
  have hraised : ((reconcileUncertainEffect
      (runFrom (visitStep sampleDigest 1 3) visitStart secondVisit).db 1 (answers .unknown none) 3
        (minutes 22)).map (fun _ => ())) =
      .error (.reconciliationBudgetExhausted
        ("job " ++ uuidStr 1 ++ " reconciliation budget exhausted (4/3)")) := by
    decide +kernel
  exact hnever _ (map_eq_error.1 hraised)

end Orchestration
end MoneyMachine
