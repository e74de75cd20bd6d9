import MoneyMachine.Orchestration.DependencyOrder

/-!
# DurableRecord — what every later state still shows of an earlier one

No operation deletes a row.  `Kept` says, table by table, what a later state keeps of an earlier one:
the event log and the status histories grow at their ends, effect rows keep everything but the
outcome an operator reports, a reservation keeps its owner and a completion stays, and so on.

`Kept` is a preorder, so what a write keeps (`perform_kept`) a run keeps (`record_kept`).
-/

namespace MoneyMachine
namespace Orchestration

open MoneyMachine.Domain
open MoneyMachine.Library
open MoneyMachine.Persistence

/-! ## What is kept -/

structure SameJob (job job' : Job) : Prop where
  id : job'.id = job.id
  workflowId : job'.workflowId = job.workflowId
  maxAttempts : job'.maxAttempts = job.maxAttempts
  retryClass : job'.retryClass = job.retryClass
  idempotencyKey : job'.idempotencyKey = job.idempotencyKey
  attempt : job.attempt ≤ job'.attempt
  history : job.statusWrites <+: job'.statusWrites

/-- The same reservation; what is completed stays so. -/
structure SameReservation (record record' : IdempotencyRecord) : Prop where
  key : record'.idempotencyKey = record.idempotencyKey
  jobId : record'.jobId = record.jobId
  operation : record'.operation = record.operation
  sideEffectClass : record'.sideEffectClass = record.sideEffectClass
  reservedAt : record'.reservedAt = record.reservedAt
  completed : record.completedAt.isSome = true → record'.completedAt.isSome = true

structure SameWorkflow (workflow workflow' : WorkflowRun) : Prop where
  id : workflow'.id = workflow.id
  shopId : workflow'.shopId = workflow.shopId
  productState : workflow'.productState = workflow.productState
  completed : workflow.completedAt.isSome = true → workflow'.completedAt.isSome = true

/-- An effect row without the columns `reconcile_uncertain_effect` of the engine rewrites. -/
def effectIdentity (row : EffectAttempt) : EffectAttempt :=
  { row with effectState := .unknown, providerObjectId := none, observedAt := 0 }

def dedupeKeys (db : Database) : List String :=
  db.events.map Event.dedupeKey

structure Kept (db db' : Database) : Prop where
  events : db.events <+: db'.events
  keys : (dedupeKeys db).Nodup → (dedupeKeys db').Nodup
  jobs : ∀ job ∈ db.jobs, ∃ job' ∈ db'.jobs, SameJob job job'
  reservations : ∀ record ∈ db.idempotencyRecords,
    ∃ record' ∈ db'.idempotencyRecords, SameReservation record record'
  workflows : ∀ workflow ∈ db.workflows, ∃ workflow' ∈ db'.workflows, SameWorkflow workflow workflow'
  effects : db.effectAttempts.map effectIdentity <+: db'.effectAttempts.map effectIdentity
  dependencies : db'.dependencies.map JobDependency.edge = db.dependencies.map JobDependency.edge

theorem SameJob.refl (job : Job) : SameJob job job :=
  ⟨rfl, rfl, rfl, rfl, rfl, le_refl _, List.prefix_refl _⟩

theorem SameJob.trans {job job' job'' : Job} (h : SameJob job job') (h' : SameJob job' job'') :
    SameJob job job'' where
  id := h'.id.trans h.id
  workflowId := h'.workflowId.trans h.workflowId
  maxAttempts := h'.maxAttempts.trans h.maxAttempts
  retryClass := h'.retryClass.trans h.retryClass
  idempotencyKey := h'.idempotencyKey.trans h.idempotencyKey
  attempt := h.attempt.trans h'.attempt
  history := h.history.trans h'.history

theorem SameReservation.refl (record : IdempotencyRecord) : SameReservation record record :=
  ⟨rfl, rfl, rfl, rfl, rfl, fun h => h⟩

theorem SameReservation.trans {record record' record'' : IdempotencyRecord}
    (h : SameReservation record record') (h' : SameReservation record' record'') :
    SameReservation record record'' where
  key := h'.key.trans h.key
  jobId := h'.jobId.trans h.jobId
  operation := h'.operation.trans h.operation
  sideEffectClass := h'.sideEffectClass.trans h.sideEffectClass
  reservedAt := h'.reservedAt.trans h.reservedAt
  completed := fun hdone => h'.completed (h.completed hdone)

theorem SameWorkflow.refl (workflow : WorkflowRun) : SameWorkflow workflow workflow :=
  ⟨rfl, rfl, rfl, fun h => h⟩

theorem SameWorkflow.trans {workflow workflow' workflow'' : WorkflowRun}
    (h : SameWorkflow workflow workflow') (h' : SameWorkflow workflow' workflow'') :
    SameWorkflow workflow workflow'' where
  id := h'.id.trans h.id
  shopId := h'.shopId.trans h.shopId
  productState := h'.productState.trans h.productState
  completed := fun hdone => h'.completed (h.completed hdone)

theorem Kept.refl (db : Database) : Kept db db where
  events := List.prefix_refl _
  keys := fun h => h
  jobs := fun job hjob => ⟨job, hjob, SameJob.refl job⟩
  reservations := fun record hrecord => ⟨record, hrecord, SameReservation.refl record⟩
  workflows := fun workflow hworkflow => ⟨workflow, hworkflow, SameWorkflow.refl workflow⟩
  effects := List.prefix_refl _
  dependencies := rfl

theorem Kept.trans {db db' db'' : Database} (h : Kept db db') (h' : Kept db' db'') :
    Kept db db'' where
  events := h.events.trans h'.events
  keys := fun hkeys => h'.keys (h.keys hkeys)
  jobs := by
    intro job hjob
    rcases h.jobs job hjob with ⟨job', hjob', hsame⟩
    rcases h'.jobs job' hjob' with ⟨job'', hjob'', hsame'⟩
    exact ⟨job'', hjob'', hsame.trans hsame'⟩
  reservations := by
    intro record hrecord
    rcases h.reservations record hrecord with ⟨record', hrecord', hsame⟩
    rcases h'.reservations record' hrecord' with ⟨record'', hrecord'', hsame'⟩
    exact ⟨record'', hrecord'', hsame.trans hsame'⟩
  workflows := by
    intro workflow hworkflow
    rcases h.workflows workflow hworkflow with ⟨workflow', hworkflow', hsame⟩
    rcases h'.workflows workflow' hworkflow' with ⟨workflow'', hworkflow'', hsame'⟩
    exact ⟨workflow'', hworkflow'', hsame.trans hsame'⟩
  effects := h.effects.trans h'.effects
  dependencies := h'.dependencies.trans h.dependencies

/-! ## Job rows -/

theorem prefix_setStatus (job : Job) (status : JobStatus) :
    job.statusWrites <+: (job.setStatus status).statusWrites := by
  rw [Job.setStatus_statusWrites]
  exact List.prefix_append _ _

/-- The counter never goes down, and the history is only added to. -/
theorem JobChange.grows {db : Database} {w : Write} {job job' : Job} (h : JobChange db w job job') :
    job.attempt ≤ job'.attempt ∧ job.statusWrites <+: job'.statusWrites := by
  cases h with
  | same => exact ⟨le_refl _, List.prefix_refl _⟩
  | claim => exact ⟨by simp [claimColumns], prefix_setStatus _ _⟩
  | heartbeat => exact ⟨le_refl _, List.prefix_refl _⟩
  | release => exact ⟨by simp [releaseColumns, Job.clearLease], prefix_setStatus _ _⟩
  | @reclaim _ now _ _ _ =>
    have hfail := prefix_setStatus job .failed
    rcases reclaimColumns_cases now job with hc | ⟨_, hc⟩ | ⟨_, _, _, hc⟩
    · rw [hc]
      exact ⟨by simp, hfail.trans (prefix_setStatus (failAttemptColumns now job) _)⟩
    · rw [hc]
      exact ⟨by simp, hfail⟩
    · rw [hc]
      exact ⟨by simp, hfail.trans (prefix_setStatus (failAttemptColumns now job) _)⟩
  | stall => exact ⟨by simp, prefix_setStatus _ _⟩
  | promote => exact ⟨by simp [promoteColumns], prefix_setStatus _ _⟩
  | block => exact ⟨by simp [blockColumns], prefix_setStatus _ _⟩
  | retry => exact ⟨by simp [Engine.retryColumns], prefix_setStatus _ _⟩
  | cancel => exact ⟨by simp [Engine.cancelColumns], prefix_setStatus _ _⟩
  | resolve => exact ⟨by simp [Engine.resolveColumns], prefix_setStatus _ _⟩
  | apply => exact ⟨by simp [Reconciliation.applyColumns], prefix_setStatus _ _⟩
  | abandon => exact ⟨by simp [markFailedColumns], prefix_setStatus _ _⟩
  | @failAndRelease _ now _ _ =>
    exact ⟨by simp [releaseColumns, markFailedColumns, Job.clearLease],
      (prefix_setStatus job .failed).trans (prefix_setStatus (markFailedColumns now job) _)⟩

theorem JobChange.sameJob {db : Database} {w : Write} {job job' : Job} (h : JobChange db w job job') :
    SameJob job job' := by
  rcases h.frame with ⟨hid, hworkflow, hmax, hclass, hkey⟩
  rcases h.grows with ⟨hattempt, hhistory⟩
  exact ⟨hid, hworkflow, hmax, hclass, hkey, hattempt, hhistory⟩

/-! ## The other tables -/

section Tables

variable {db db' : Database}

/-- Where a rewritten row is as the row was, so is every row of the table. -/
theorem modify_keeps {ρ κ : Type} {key : ρ → κ} {t : Table ρ key} {sel : ρ → Bool} {f : ρ → ρ}
    (hf : ∀ row, key (f row) = key row) {Same : ρ → ρ → Prop} (hrefl : ∀ row, Same row row)
    (hwritten : ∀ row, Same row (f row)) {row : ρ} (h : row ∈ t) :
    ∃ row' ∈ t.modify sel f hf, Same row row' := by
  refine ⟨if sel row then f row else row, (Table.mem_modify hf).2 ⟨row, h, rfl⟩, ?_⟩
  cases sel row with
  | true => exact hwritten row
  | false => exact hrefl row

/-- An event is refused when its key is taken. -/
theorem insertEvent_keys {event : Event} (h : db.insertEvent event = .ok db')
    (hkeys : (dedupeKeys db).Nodup) : (dedupeKeys db').Nodup := by
  unfold Database.insertEvent at h
  split at h
  · cases h
  · rename_i hfree
    cases h
    have hnew : event.dedupeKey ∉ dedupeKeys db := by
      simpa [dedupeKeys] using hfree
    rw [dedupeKeys, List.map_append]
    exact hkeys.append (List.nodup_singleton _) (List.disjoint_singleton.2 hnew)

theorem insertEvents_keys {events : List Event} (h : db.insertEvents events = .ok db')
    (hkeys : (dedupeKeys db).Nodup) : (dedupeKeys db').Nodup := by
  induction events generalizing db with
  | nil =>
    cases h
    exact hkeys
  | cons event events ih =>
    rcases bind_eq_ok.1 h with ⟨db₁, hfirst, hrest⟩
    exact ih hrest (insertEvent_keys hfirst hkeys)

theorem perform_keys {w : Write} (h : w.perform db = .ok db') (hkeys : (dedupeKeys db).Nodup) :
    (dedupeKeys db').Nodup := by
  cases hw : w.writesEvents with
  | false =>
    rw [dedupeKeys, (perform_logs h).2 hw]
    exact hkeys
  | true =>
    cases w with
    | detectStalledJobs locked now stallThreshold limit =>
      rcases map_eq_ok.1 h with ⟨⟨_, stalled⟩, hstall, rfl⟩
      unfold detectStalledJobs at hstall
      rcases bind_eq_ok.1 hstall with ⟨_, _, hstall⟩
      rcases bind_eq_ok.1 hstall with ⟨db₁, hupd, hstall⟩
      rcases bind_eq_ok.1 hstall with ⟨db₂, hevents, hstall⟩
      cases hstall
      refine insertEvents_keys hevents ?_
      rw [dedupeKeys, (flushJobs_logs hupd).2]
      exact hkeys
    | insertEvent event => exact insertEvent_keys h hkeys
    | _ => cases hw

/-- Only the operator's report rewrites effect rows, and it keeps what they are about. -/
theorem perform_effects {w : Write} (h : w.perform db = .ok db') :
    db.effectAttempts.map effectIdentity <+: db'.effectAttempts.map effectIdentity := by
  cases hw : w.writesEffects with
  | false => rw [(perform_logs h).1 hw]
  | true =>
    cases w with
    | resolveByHand jobId effectState providerObjectId now =>
      rcases Engine.reconcileUncertainEffect_eq_ok h with
        ⟨_, effect, state, _, _, _, _, _, _, hupd⟩
      rw [(flushJobs_logs hupd).1]
      have hsame : (Engine.rewriteEffects db effect state providerObjectId now).effectAttempts.map
          effectIdentity = db.effectAttempts.map effectIdentity := by
        simp only [Engine.rewriteEffects, List.map_map]
        refine List.map_congr_left ?_
        intro row _
        simp only [Function.comp_apply, Engine.rewriteEffect]
        split <;> rfl
      rw [hsame]
    | reconcileUncertainEffect jobId reconciler maxAttempts now =>
      rcases map_eq_ok.1 h with ⟨⟨_, result⟩, hrec, rfl⟩
      rcases Reconciliation.reconcileUncertainEffect_eq_ok hrec with
        ⟨_, _, _, _, _, _, _, _, _, rfl⟩
      rw [List.map_append]
      exact List.prefix_append _ _
    | recordEffectAttempt row =>
      have hdb := (recordEffectAttempt_eq_ok h).2
      subst hdb
      rw [List.map_append]
      exact List.prefix_append _ _
    | _ => cases hw

theorem perform_reservations {w : Write} (h : w.perform db = .ok db') :
    ∀ record ∈ db.idempotencyRecords,
      ∃ record' ∈ db'.idempotencyRecords, SameReservation record record' := by
  intro record hrecord
  cases hw : w.writesOthers with
  | false => exact ⟨record, ((perform_tables h).2 hw).1 ▸ hrecord, SameReservation.refl record⟩
  | true =>
    cases w with
    | cancelWorkflow workflowId now =>
      rcases map_eq_ok.1 h with ⟨⟨_, count⟩, hcancel, rfl⟩
      rcases Engine.cancelWorkflow_eq_ok hcancel with ⟨_, _, _, hupd⟩
      rcases Database.flushJobs_eq_ok hupd with ⟨_, rfl⟩
      exact ⟨record, hrecord, SameReservation.refl record⟩
    | reserveIdempotencyKey idempotencyKey jobId operation sideEffectClass now =>
      rcases reserveIdempotencyKey_eq_ok h with ⟨_, records, hins, _, _, _, _, rfl⟩
      refine ⟨record, ?_, SameReservation.refl record⟩
      rw [Table.mem_def, Table.insert?_eq_some hins]
      exact List.mem_append_left _ hrecord
    | markIdempotencyCompleted idempotencyKey now =>
      rcases markIdempotencyCompleted_eq_ok h with ⟨hid, rfl⟩
      -- Marking it again changes the time and nothing else.
      exact modify_keeps hid SameReservation.refl
        (fun record => ⟨rfl, rfl, rfl, rfl, rfl, fun _ => rfl⟩) hrecord
    | _ => cases hw

theorem completeWorkflow_keeps {workflowId : Uuid} {now : Moment} {workflow : WorkflowRun}
    (h : workflow ∈ db.workflows) :
    ∃ workflow' ∈ (Engine.completeWorkflow db workflowId now).workflows,
      SameWorkflow workflow workflow' := by
  have hid : ∀ row : WorkflowRun, { row with completedAt := some now }.id = row.id := fun _ => rfl
  exact modify_keeps hid SameWorkflow.refl (fun workflow => ⟨rfl, rfl, rfl, fun _ => rfl⟩) h

theorem perform_workflows {w : Write} (h : w.perform db = .ok db') :
    ∀ workflow ∈ db.workflows, ∃ workflow' ∈ db'.workflows, SameWorkflow workflow workflow' := by
  intro workflow hworkflow
  cases hw : w.writesOthers with
  | false =>
    exact ⟨workflow, ((perform_tables h).2 hw).2 ▸ hworkflow, SameWorkflow.refl workflow⟩
  | true =>
    cases w with
    | cancelWorkflow workflowId now =>
      rcases map_eq_ok.1 h with ⟨⟨_, count⟩, hcancel, rfl⟩
      rcases Engine.cancelWorkflow_eq_ok hcancel with ⟨_, _, _, hupd⟩
      rcases Database.flushJobs_eq_ok hupd with ⟨_, rfl⟩
      exact completeWorkflow_keeps hworkflow
    | reserveIdempotencyKey idempotencyKey jobId operation sideEffectClass now =>
      rcases reserveIdempotencyKey_eq_ok h with ⟨_, _, _, _, _, _, _, rfl⟩
      exact ⟨workflow, hworkflow, SameWorkflow.refl workflow⟩
    | markIdempotencyCompleted idempotencyKey now =>
      rcases markIdempotencyCompleted_eq_ok h with ⟨_, rfl⟩
      exact ⟨workflow, hworkflow, SameWorkflow.refl workflow⟩
    | _ => cases hw

theorem perform_kept {w : Write} (h : w.perform db = .ok db') : Kept db db' where
  events := by
    rcases perform_events h with ⟨new, hnew⟩
    rw [hnew]
    exact List.prefix_append _ _
  keys := perform_keys h
  jobs := by
    intro job hjob
    rcases (perform_evolves h).exists_mem hjob with ⟨job', hjob', _, hchange⟩
    exact ⟨job', hjob', hchange.sameJob⟩
  reservations := perform_reservations h
  workflows := perform_workflows h
  effects := perform_effects h
  dependencies := (perform_tables h).1

end Tables

/-! ## Whole runs -/

theorem step_kept (digest : String → Uuid) (db : Database) (op : Op) :
    Kept db (step digest db op) :=
  step_induction (I := fun db₁ => Kept db db₁) (fun _ hkept hw => hkept.trans (perform_kept hw))
    (Kept.refl db)

/-- In every run a later state keeps the record of an earlier one: no row is lost, no event or effect
row is reordered, no counter goes back, no completion is taken back, and no dedupe key is used
twice. -/
theorem record_kept (digest : String → Uuid) (db : Database) (ops : List Op) :
    ∀ n, Kept (runFrom (step digest) db (ops.take n)) (runFrom (step digest) db ops) := by
  intro n
  have hsplit : runFrom (step digest) (runFrom (step digest) db (ops.take n)) (ops.drop n) =
      runFrom (step digest) db ops := by
    rw [runFrom, runFrom, runFrom, ← List.foldl_append, List.take_append_drop]
  rw [← hsplit]
  exact runFrom_invariant (I := fun db₁ => Kept (runFrom (step digest) db (ops.take n)) db₁)
    (fun db₁ op hkept => hkept.trans (step_kept digest db₁ op)) (Kept.refl _) _

end Orchestration
end MoneyMachine
