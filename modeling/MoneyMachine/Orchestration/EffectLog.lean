import MoneyMachine.Orchestration.JobChanges

/-!
# EffectLog — what an operation can do to the effect attempts

`effect_attempts` has no delete: a write appends rows, and the operator's resolution rewrites the
state of one row in place.  No write moves a row to another key or changes its number, so the count
of a key never falls.
-/

namespace MoneyMachine
namespace Orchestration

open MoneyMachine.Domain
open MoneyMachine.Library
open MoneyMachine.Persistence
open MoneyMachine.Orchestration.Reconciliation (currentReconciliation)

/-- The log was rewritten without touching keys or numbers, and rows were appended that meet the
check on the number. -/
def LogExtends (log log' : List EffectAttempt) : Prop :=
  ∃ (g : EffectAttempt → EffectAttempt) (new : List EffectAttempt), log' = log.map g ++ new ∧
    (∀ row, (g row).idempotencyKey = row.idempotencyKey ∧
      (g row).reconciliationAttempt = row.reconciliationAttempt) ∧
    ∀ row ∈ new, 0 ≤ row.reconciliationAttempt

/-- The check `nonnegative_reconciliation_attempt`, of every row. -/
def LogNonnegative (log : List EffectAttempt) : Prop :=
  ∀ row ∈ log, 0 ≤ row.reconciliationAttempt

namespace LogExtends

theorem refl (log : List EffectAttempt) : LogExtends log log :=
  ⟨id, [], by simp, fun _ => ⟨rfl, rfl⟩, by simp⟩

theorem of_eq {log log' : List EffectAttempt} (h : log' = log) : LogExtends log log' :=
  h ▸ refl log

theorem append {log : List EffectAttempt} {row : EffectAttempt}
    (hrow : 0 ≤ row.reconciliationAttempt) : LogExtends log (log ++ [row]) :=
  ⟨id, [row], by simp, fun _ => ⟨rfl, rfl⟩, by simpa using hrow⟩

theorem trans {log log₁ log₂ : List EffectAttempt} (h₁ : LogExtends log log₁)
    (h₂ : LogExtends log₁ log₂) : LogExtends log log₂ := by
  rcases h₁ with ⟨g₁, new₁, hlog₁, hg₁, hnew₁⟩
  rcases h₂ with ⟨g₂, new₂, hlog₂, hg₂, hnew₂⟩
  refine ⟨g₂ ∘ g₁, new₁.map g₂ ++ new₂, by simp [hlog₂, hlog₁], ?_, ?_⟩
  · intro row
    exact ⟨(hg₂ (g₁ row)).1.trans (hg₁ row).1, (hg₂ (g₁ row)).2.trans (hg₁ row).2⟩
  · intro row hrow
    rcases List.mem_append.1 hrow with hrow | hrow
    · rcases List.mem_map.1 hrow with ⟨old, hold, rfl⟩
      have hnumber : (g₂ old).reconciliationAttempt = old.reconciliationAttempt := (hg₂ old).2
      exact hnumber ▸ hnew₁ old hold
    · exact hnew₂ row hrow

theorem nonnegative {log log' : List EffectAttempt} (h : LogExtends log log')
    (hlog : LogNonnegative log) : LogNonnegative log' := by
  rcases h with ⟨g, new, rfl, hg, hnew⟩
  intro row hrow
  rcases List.mem_append.1 hrow with hrow | hrow
  · rcases List.mem_map.1 hrow with ⟨old, hold, rfl⟩
    have hnumber : (g old).reconciliationAttempt = old.reconciliationAttempt := (hg old).2
    exact hnumber ▸ hlog old hold
  · exact hnew row hrow

end LogExtends

/-! ## The count of a key -/

section Count

variable {db db' : Database}

theorem currentReconciliation_nonneg (hlog : LogNonnegative db.effectAttempts) (key : String) :
    0 ≤ currentReconciliation db key := by
  unfold currentReconciliation
  cases hlatest : getLatestEffectAttempt db key with
  | none => exact le_refl 0
  | some latest => exact hlog latest (List.mem_of_mem_filter (latestBy_mem hlatest))

/-- The count is at least the number of every row of the key. -/
theorem number_le_currentReconciliation {row : EffectAttempt} (hrow : row ∈ db.effectAttempts) :
    row.reconciliationAttempt ≤ currentReconciliation db row.idempotencyKey := by
  have hmem : row ∈ attemptsOfKey db row.idempotencyKey :=
    List.mem_filter.2 ⟨hrow, decide_eq_true rfl⟩
  unfold currentReconciliation
  cases hlatest : getLatestEffectAttempt db row.idempotencyKey with
  | none =>
    have hnil : attemptsOfKey db row.idempotencyKey = [] := latestBy_eq_none_iff.1 hlatest
    rw [hnil] at hmem
    cases hmem
  | some latest => exact rank_le_latestBy hlatest row hmem

/-- The count of a key never falls. -/
theorem currentReconciliation_mono (h : LogExtends db.effectAttempts db'.effectAttempts)
    (hlog : LogNonnegative db.effectAttempts) (key : String) :
    currentReconciliation db key ≤ currentReconciliation db' key := by
  have hlog' : LogNonnegative db'.effectAttempts := h.nonnegative hlog
  cases hlatest : getLatestEffectAttempt db key with
  | none =>
    have hzero : currentReconciliation db key = 0 := by simp [currentReconciliation, hlatest]
    rw [hzero]
    exact currentReconciliation_nonneg hlog' key
  | some latest =>
    have hcount : currentReconciliation db key = latest.reconciliationAttempt := by
      simp [currentReconciliation, hlatest]
    rcases List.mem_filter.1 (latestBy_mem hlatest) with ⟨hmem, hkey⟩
    rcases h with ⟨g, new, hrows, hg, _⟩
    rcases hg latest with ⟨hgkey, hgnumber⟩
    have hmem' : g latest ∈ db'.effectAttempts := by
      rw [hrows]
      exact List.mem_append_left _ (List.mem_map_of_mem hmem)
    have hkey' : (g latest).idempotencyKey = key := hgkey.trans (of_decide_eq_true hkey)
    calc
      currentReconciliation db key = (g latest).reconciliationAttempt := hcount.trans hgnumber.symm
      _ ≤ currentReconciliation db' (g latest).idempotencyKey :=
          number_le_currentReconciliation hmem'
      _ = currentReconciliation db' key := by rw [hkey']

/-- A query's row is the new latest one, so the count goes up by one. -/
theorem currentReconciliation_append {row : EffectAttempt}
    (h : row.reconciliationAttempt = currentReconciliation db row.idempotencyKey + 1) :
    currentReconciliation { db with effectAttempts := db.effectAttempts ++ [row] }
      row.idempotencyKey = row.reconciliationAttempt := by
  have habove : ∀ latest, getLatestEffectAttempt db row.idempotencyKey = some latest →
      latest.reconciliationAttempt < row.reconciliationAttempt := by
    intro latest hlatest
    have hcount : currentReconciliation db row.idempotencyKey = latest.reconciliationAttempt := by
      simp [currentReconciliation, hlatest]
    rw [h, hcount]
    exact Int.lt_succ _
  have hlatest := latest_append_of_lt habove
  simp [currentReconciliation, hlatest]

end Count

/-! ## Every write extends the log -/

/-- The operator's resolution rewrites one row in place. -/
theorem rewriteEffects_extends {db : Database} {effect : EffectAttempt} {state : EffectState}
    {providerObjectId : Option String} {now : Moment} :
    LogExtends db.effectAttempts
      (Engine.rewriteEffects db effect state providerObjectId now).effectAttempts := by
  refine ⟨Engine.rewriteEffect effect state providerObjectId now, [], ?_, ?_, by simp⟩
  · simp [Engine.rewriteEffects]
  · intro row
    unfold Engine.rewriteEffect
    split <;> exact ⟨rfl, rfl⟩

theorem perform_extends {db db' : Database} {w : Write} (h : w.perform db = .ok db') :
    LogExtends db.effectAttempts db'.effectAttempts := by
  cases hw : w.writesEffects with
  | false => exact LogExtends.of_eq ((perform_logs h).1 hw)
  | true =>
    cases w with
    | resolveByHand jobId effectState providerObjectId now =>
      rcases Engine.reconcileUncertainEffect_eq_ok h with ⟨_, _, _, _, _, _, _, _, _, hupd⟩
      exact rewriteEffects_extends.trans (LogExtends.of_eq (flushJobs_logs hupd).1)
    | reconcileUncertainEffect jobId reconciler maxAttempts now =>
      rcases map_eq_ok.1 h with ⟨⟨_, result⟩, hrec, rfl⟩
      rcases Reconciliation.reconcileUncertainEffect_eq_ok hrec with
        ⟨_, _, _, _, _, _, _, _, hnonneg, rfl⟩
      exact LogExtends.append hnonneg
    | recordEffectAttempt row =>
      rcases recordEffectAttempt_eq_ok h with ⟨hnonneg, rfl⟩
      exact LogExtends.append hnonneg
    | _ => cases hw

/-- Every operation extends the log. -/
theorem step_extends {digest : String → Uuid} {db : Database} (op : Op) :
    LogExtends db.effectAttempts (step digest db op).effectAttempts := by
  refine step_induction (I := fun db' => LogExtends db.effectAttempts db'.effectAttempts) ?_
    (LogExtends.refl _)
  intro db₁ db₂ w _ hI hw
  exact hI.trans (perform_extends hw)

end Orchestration
end MoneyMachine
