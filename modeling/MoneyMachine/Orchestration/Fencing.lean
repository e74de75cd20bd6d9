import MoneyMachine.Orchestration.JobChanges

/-!
# Fencing — calls made for a claim that is over

`heartbeat` and `release_lease` identify the caller by its worker id.  A claim has no token of its
own, so after `expire, reclaim, claim again` a late call of the first execution is told apart from
the second one only by the id, and the worker loop uses the same id for both.

The machine below runs the lease operations and records, for one job, the workers that claimed it:
the claims of the job are the positions of that record.  `stale_call_refused_iff` says for every run
exactly which late calls are refused.
-/

namespace MoneyMachine
namespace Orchestration

open MoneyMachine.Domain
open MoneyMachine.Library
open MoneyMachine.Persistence

/-! ## Runs with a record of claims -/

/-- The transactions of the lease protocol. -/
def Write.leaseProtocol : Write → Bool
  | .claimReadyJob .. => true
  | .heartbeat .. => true
  | .releaseLease .. => true
  | .reclaimExpiredLeases .. => true
  | .detectStalledJobs .. => true
  | .retryFailedJob .. => true
  | _ => false

def Op.LeaseProtocol : Op → Prop
  | .call write _ => write.leaseProtocol = true
  | _ => False

/-- A database, and the workers that claimed the job so far, first claim first. -/
structure ClaimLog where
  db : Database
  claimants : List String

/-- The worker that claims the job by this operation, if one does. -/
def newClaimant (db : Database) (jobId : Uuid) : Op → List String
  | .call (.claimReadyJob locked workerId now duration) _ =>
    match claimReadyJob db locked workerId now duration with
    | .ok (_, some job) => if job.id = jobId then [workerId] else []
    | _ => []
  | _ => []

def logStep (digest : String → Uuid) (jobId : Uuid) (s : ClaimLog) (op : Op) : ClaimLog :=
  { db := step digest s.db op
    claimants := s.claimants ++ newClaimant s.db jobId op }

/-- Claim `n` is the job's current claim: no other followed, and the job still runs under it. -/
def CurrentClaim (jobId : Uuid) (s : ClaimLog) (n : Nat) : Prop :=
  n + 1 = s.claimants.length ∧ ∃ job ∈ s.db.jobs, job.id = jobId ∧ job.status = .running

/-- What an execution calls on its claim while it works, and when it is done. -/
inductive ExecutionCall
  | heartbeat (now : Moment) (leaseExtension : Option Duration)
  | release (now : Moment) (finalStatus : JobStatus)

def ExecutionCall.write (jobId : Uuid) (workerId : String) : ExecutionCall → Write
  | .heartbeat now leaseExtension => .heartbeat jobId workerId now leaseExtension
  | .release now finalStatus => .releaseLease jobId workerId now finalStatus

theorem ExecutionCall.callable (jobId : Uuid) (workerId : String) (c : ExecutionCall) :
    (c.write jobId workerId).workerOnly = false := by
  cases c <;> rfl

/-- The call raises `LeaseNotHeldError` or `LeaseExpiredError`. -/
def Refused (db : Database) (w : Write) : Prop :=
  ∃ message, w.perform db = .error (.leaseNotHeld message) ∨
    w.perform db = .error (.leaseExpired message)

/-- The call is refused and changes nothing. -/
def FencedOff (digest : String → Uuid) (s : ClaimLog) (jobId : Uuid) (workerId : String)
    (c : ExecutionCall) : Prop :=
  Refused s.db (c.write jobId workerId) ∧
    step digest s.db (.call (c.write jobId workerId) (c.callable jobId workerId)) = s.db

/-! ## When the code can tell -/

/-- `release_lease` looks at the status first; a call for a status it cannot release to is a
`ValueError` for whoever makes it. -/
def ExecutionCall.Legal : ExecutionCall → Prop
  | .heartbeat .. => True
  | .release _ finalStatus => finalStatus ∈ legalReleaseStatuses

/-- Whether the expiry of a lease stops the call: `heartbeat` looks at it, `release_lease` does
not. -/
def ExecutionCall.StoppedByExpiry (job : Job) : ExecutionCall → Prop
  | .heartbeat now _ => ∃ expires, job.leaseExpiresAt = some expires ∧ expires < now
  | .release .. => False

/-- The job runs under a later claim by a worker of the same id, and the expiry of that claim's
lease does not stop the call. -/
def Impersonates (jobId : Uuid) (s : ClaimLog) (n : Nat) (c : ExecutionCall) : Prop :=
  ∃ m, n < m ∧ s.claimants[m]? = s.claimants[n]? ∧ CurrentClaim jobId s m ∧
    ∀ job ∈ s.db.jobs, job.id = jobId → ¬ c.StoppedByExpiry job

/-! ## The invariant -/

/-- The row's owner is the last claimant while the job runs, and nobody otherwise. -/
def OwnedByLast (claimants : List String) (job : Job) : Prop :=
  (job.status = .running → ∃ workerId, claimants.getLast? = some workerId ∧
    job.leaseOwner = some workerId) ∧
  (job.status ≠ .running → job.leaseOwner = none)

structure ClaimsKept (jobId : Uuid) (s : ClaimLog) : Prop where
  owned : ∀ job ∈ s.db.jobs, job.id = jobId → OwnedByLast s.claimants job
  exists_job : s.claimants ≠ [] → ∃ job ∈ s.db.jobs, job.id = jobId

theorem OwnedByLast.of_free {claimants : List String} {job : Job} (hstatus : job.status ≠ .running)
    (howner : job.leaseOwner = none) : OwnedByLast claimants job :=
  ⟨fun hrunning => absurd hrunning hstatus, fun _ => howner⟩

section Step

variable {digest : String → Uuid} {jobId : Uuid} {s : ClaimLog} {db db' : Database}

/-- No lease operation but a claim hands a lease over. -/
theorem JobChange.ownedByLast {w : Write} {claimants : List String} {job job' : Job}
    (hw : w.leaseProtocol = true)
    (hclaim : ∀ locked workerId now duration, w ≠ .claimReadyJob locked workerId now duration)
    (h : JobChange db w job job') (ho : OwnedByLast claimants job) :
    OwnedByLast claimants job' := by
  cases h with
  | same => exact ho
  | claim => exact absurd rfl (hclaim _ _ _ _)
  | heartbeat => exact ho
  | release howner hlegal =>
    refine OwnedByLast.of_free ?_ rfl
    simp only [releaseColumns, Job.clearLease, Job.setStatus_status]
    rintro rfl
    simp [legalReleaseStatuses] at hlegal
  | @reclaim _ now _ _ _ =>
    rcases reclaimColumns_cases now job with hc | ⟨_, hc⟩ | ⟨_, _, _, hc⟩ <;>
      exact hc ▸ OwnedByLast.of_free (by simp) (by simp)
  | stall => exact OwnedByLast.of_free (by simp) (by simp)
  | retry hfailed =>
    refine OwnedByLast.of_free (by simp [Engine.retryColumns]) ?_
    simpa [Engine.retryColumns] using ho.2 (by simp [hfailed])
  | _ => cases hw

section Claim

variable {locked : Uuid → Bool} {workerId : String} {now : Moment} {duration : Duration}
  {callable : (Write.claimReadyJob locked workerId now duration).workerOnly = false}

/-- A claim that fails, or finds no job, leaves everything as it was. -/
theorem logStep_claim_none (h : ∀ db' job,
    claimReadyJob s.db locked workerId now duration ≠ .ok (db', some job)) :
    logStep digest jobId s (.call (.claimReadyJob locked workerId now duration) callable) = s := by
  cases hclaim : claimReadyJob s.db locked workerId now duration with
  | error e => simp [logStep, step, execute, Write.perform, newClaimant, hclaim, Except.map]
  | ok result =>
    rcases result with ⟨db₁, claimed⟩
    rcases claimReadyJob_eq_ok hclaim with ⟨rfl, rfl⟩ | ⟨job, _, _, _, rfl⟩
    · simp [logStep, step, execute, Write.perform, newClaimant, hclaim, Except.map]
    · exact absurd hclaim (h _ _)

theorem logStep_claim_some {job : Job}
    (h : claimReadyJob s.db locked workerId now duration = .ok (db', some job)) :
    logStep digest jobId s (.call (.claimReadyJob locked workerId now duration) callable) =
      { db := db'
        claimants := s.claimants ++ if job.id = jobId then [workerId] else [] } := by
  simp [logStep, step, execute, Write.perform, newClaimant, h, Except.map]

/-- A claim hands the lease of the job it picks to the worker and touches no other row. -/
theorem logStep_claim_claimsKept (hs : ClaimsKept jobId s) :
    ClaimsKept jobId
      (logStep digest jobId s (.call (.claimReadyJob locked workerId now duration) callable)) := by
  by_cases hnone : ∀ db' job, claimReadyJob s.db locked workerId now duration ≠ .ok (db', some job)
  · rw [logStep_claim_none hnone]
    exact hs
  push Not at hnone
  rcases hnone with ⟨db₁, claimed, hclaim⟩
  rw [logStep_claim_some hclaim]
  rcases claimReadyJob_eq_ok hclaim with ⟨_, hempty⟩ | ⟨job, hid, hcandidate, hupd, hclaimed⟩
  · cases hempty
  cases hclaimed
  have hevolves := Database.updateJob_evolves hupd
  have hmem := (mem_readyCandidates hcandidate).1
  rw [hid job]
  refine ⟨?_, ?_⟩
  · intro row' hrow' hrowId
    rcases hevolves.exists_of_mem hrow' with hfalse | ⟨row, hrow, hkey, hchange⟩
    · exact hfalse.elim
    rcases hchange with ⟨hpicked, rfl⟩ | ⟨hother, rfl⟩
    · -- The claimed row: the worker is the last claimant now.
      have hours : job.id = jobId := hpicked.symm.trans (hkey.symm.trans hrowId)
      refine ⟨?_, fun hne => absurd (by simp [claimColumns]) hne⟩
      intro _
      exact ⟨workerId, by simp [hours], rfl⟩
    · have hnot : job.id ≠ jobId := fun heq => hother (hrowId.trans heq.symm)
      simpa [hnot] using hs.owned row' hrow hrowId
  · intro hsome
    by_cases hours : job.id = jobId
    · rcases hevolves.exists_mem hmem with ⟨job', hjob', hkey, _⟩
      exact ⟨job', hjob', hkey.trans hours⟩
    · have hold : s.claimants ≠ [] := by simpa [hours] using hsome
      rcases hs.exists_job hold with ⟨row, hrow, hrowId⟩
      rcases hevolves.exists_mem hrow with ⟨row', hrow', hkey, _⟩
      exact ⟨row', hrow', hkey.trans hrowId⟩

end Claim

theorem logStep_claimsKept {op : Op} (hop : op.LeaseProtocol) (hs : ClaimsKept jobId s) :
    ClaimsKept jobId (logStep digest jobId s op) := by
  cases op with
  | call w callable =>
    by_cases hclaim : ∃ locked workerId now duration,
        w = .claimReadyJob locked workerId now duration
    · rcases hclaim with ⟨locked, workerId, now, duration, rfl⟩
      exact logStep_claim_claimsKept hs
    · push Not at hclaim
      have hnone : newClaimant s.db jobId (.call w callable) = [] := by
        cases w <;> first | rfl | exact absurd rfl (hclaim _ _ _ _)
      unfold logStep
      rw [hnone, List.append_nil]
      rcases step_call digest s.db callable with
        ⟨db', hperform, hstep⟩ | ⟨_, hstep⟩
      · rw [hstep]
        have hevolves := perform_evolves hperform
        refine ⟨?_, ?_⟩
        · refine hevolves.forall_mem (J := fun row => row.id = jobId → OwnedByLast _ row) hs.owned
            ?_ ?_
          · intro row hrow row' hkey hchange hold hrowId
            exact hchange.ownedByLast hop hclaim (hold (hkey.symm.trans hrowId))
          · rintro row ⟨_, new, rfl⟩ _
            exact OwnedByLast.of_free (by simp [NewJob.row]) rfl
        · intro hsome
          rcases hs.exists_job hsome with ⟨row, hrow, hrowId⟩
          rcases hevolves.exists_mem hrow with ⟨row', hrow', hkey, _⟩
          exact ⟨row', hrow', hkey.trans hrowId⟩
      · rw [hstep]
        exact hs
  | _ => exact hop.elim

end Step

/-! ## What a late call does -/

section Call

variable {digest : String → Uuid} {jobId : Uuid} {workerId : String} {db : Database} {job : Job}

/-- A call by somebody else than the owner is refused. -/
theorem refused_of_not_owner {c : ExecutionCall} (hlegal : c.Legal)
    (hget : db.jobs.get? jobId = some job) (howner : job.leaseOwner ≠ some workerId) :
    Refused db (c.write jobId workerId) := by
  cases c with
  | heartbeat now extension =>
    have hraise : Write.perform db (.heartbeat jobId workerId now extension) =
        .error (notOwnedError job workerId) := by
      simp only [Write.perform, heartbeat, hget, if_pos howner]
    exact ⟨_, Or.inl hraise⟩
  | release now finalStatus =>
    have hlegal' : finalStatus ∈ legalReleaseStatuses := hlegal
    have hraise : Write.perform db (.releaseLease jobId workerId now finalStatus) =
        .error (notOwnedError job workerId) := by
      simp only [Write.perform, releaseLease, hget, if_pos howner, hlegal', not_true_eq_false,
        if_false]
    exact ⟨_, Or.inl hraise⟩

/-- For the owner, expiry alone decides, and it decides heartbeats only. -/
theorem owner_call_cases {c : ExecutionCall} (hlegal : c.Legal)
    (hget : db.jobs.get? jobId = some job) (howner : job.leaseOwner = some workerId) :
    (c.StoppedByExpiry job ∧ Refused db (c.write jobId workerId)) ∨
      (¬ c.StoppedByExpiry job ∧ ∃ db', (c.write jobId workerId).perform db = .ok db') := by
  cases c with
  | heartbeat now extension =>
    cases hexpired : job.leaseExpiresAt.filter (· < now) with
    | some expired =>
      rcases Option.filter_eq_some_iff.1 hexpired with ⟨hexpires, hpast⟩
      have hraise : Write.perform db (.heartbeat jobId workerId now extension) =
          .error (.leaseExpired ("Lease for job " ++ uuidStr jobId ++ " expired at " ++
            isoformat " " expired)) := by
        simp only [Write.perform, heartbeat, hget, howner, hexpired, ne_eq, not_true_eq_false,
          if_false]
      exact Or.inl ⟨⟨expired, hexpires, by simpa using hpast⟩, _, Or.inr hraise⟩
    | none =>
      refine Or.inr ⟨?_, ?_⟩
      · rintro ⟨expires, hexpires, hpast⟩
        simp [hexpires, Option.filter, hpast] at hexpired
      · exact heartbeat_ok extension hget howner hexpired
  | release now finalStatus =>
    exact Or.inr ⟨fun hfalse => hfalse, releaseLease_ok now hlegal hget howner⟩

theorem not_refused_of_illegal {c : ExecutionCall} (hillegal : ¬ c.Legal) :
    ¬ Refused db (c.write jobId workerId) := by
  cases c with
  | heartbeat now extension => exact absurd trivial hillegal
  | release now finalStatus =>
    have hillegal' : finalStatus ∉ legalReleaseStatuses := hillegal
    rintro ⟨message, h | h⟩ <;>
      simp [ExecutionCall.write, Write.perform, releaseLease, hillegal'] at h

/-- A refused call is rolled back. -/
theorem fencedOff_iff_refused {s : ClaimLog} {c : ExecutionCall} :
    FencedOff digest s jobId workerId c ↔ Refused s.db (c.write jobId workerId) := by
  constructor
  · rintro ⟨hrefused, _⟩
    exact hrefused
  · intro hrefused
    refine ⟨hrefused, ?_⟩
    rcases hrefused with ⟨message, h | h⟩ <;> simp [step, execute, h]

end Call

/-! ## Whole runs -/

/-- The job has not been claimed, or no longer is. -/
def Unclaimed (db : Database) (jobId : Uuid) : Prop :=
  ∀ job ∈ db.jobs, job.id = jobId → job.status ≠ .running ∧ job.leaseOwner = none

/-- The run of lease operations from a database in which the job is not claimed. -/
def claimRun (digest : String → Uuid) (jobId : Uuid) (db : Database) (ops : List Op) : ClaimLog :=
  runFrom (logStep digest jobId) { db := db, claimants := [] } ops

theorem claimRun_claimsKept (digest : String → Uuid) {jobId : Uuid} {db : Database}
    (hstart : Unclaimed db jobId) {ops : List Op} (hops : ∀ op ∈ ops, op.LeaseProtocol) :
    ClaimsKept jobId (claimRun digest jobId db ops) := by
  have hok : Along (logStep digest jobId) (fun _ op => op.LeaseProtocol)
      { db := db, claimants := [] } ops := along_of_forall hops
  refine runFrom_invariant_along (fun _ _ hs hop => logStep_claimsKept hop hs) ?_ hok
  refine ⟨?_, fun hsome => absurd rfl hsome⟩
  intro job hjob hid
  exact OwnedByLast.of_free (hstart job hjob hid).1 (hstart job hjob hid).2

/-- After every run, a call made for a claim that is over is refused and changes nothing, exactly
when it asks for a legal status and the job does not run under a later claim of the same worker id
that is still in force for this call. -/
theorem stale_call_refused_iff (digest : String → Uuid) {jobId : Uuid} {db : Database}
    (hstart : Unclaimed db jobId) {ops : List Op} (hops : ∀ op ∈ ops, op.LeaseProtocol) {n : Nat}
    {workerId : String} (hclaim : (claimRun digest jobId db ops).claimants[n]? = some workerId)
    (hstale : ¬ CurrentClaim jobId (claimRun digest jobId db ops) n) (c : ExecutionCall) :
    FencedOff digest (claimRun digest jobId db ops) jobId workerId c ↔
      c.Legal ∧ ¬ Impersonates jobId (claimRun digest jobId db ops) n c := by
  have hkept := claimRun_claimsKept digest hstart hops
  generalize claimRun digest jobId db ops = s at hclaim hstale hkept
  rw [fencedOff_iff_refused]
  by_cases hlegal : c.Legal
  · have hsome : s.claimants ≠ [] := by
      rintro hnil
      simp [hnil] at hclaim
    rcases hkept.exists_job hsome with ⟨job, hjob, hid⟩
    have hget : s.db.jobs.get? jobId = some job := Table.get?_eq_some_iff.2 ⟨hjob, hid⟩
    have howned := hkept.owned job hjob hid
    by_cases hrunning : job.status = .running
    · rcases howned.1 hrunning with ⟨last, hlast, howner⟩
      -- The current claim is the last one; claim `n` is an earlier one.
      have hlength : n < s.claimants.length := (List.getElem?_eq_some_iff.1 hclaim).1
      have hcurrent : CurrentClaim jobId s (s.claimants.length - 1) :=
        ⟨by omega, job, hjob, hid, hrunning⟩
      have hearlier : n < s.claimants.length - 1 := by
        by_contra hnot
        exact hstale ((show n = s.claimants.length - 1 by omega) ▸ hcurrent)
      have hlast' : s.claimants[s.claimants.length - 1]? = some last := by
        rw [← List.getLast?_eq_getElem?, hlast]
      by_cases hsame : last = workerId
      · subst hsame
        rcases owner_call_cases hlegal hget howner with ⟨hstopped, hrefused⟩ | ⟨hopen, db', hok⟩
        · refine iff_of_true hrefused ⟨hlegal, ?_⟩
          rintro ⟨m, _, _, _, hnot⟩
          exact hnot job hjob hid hstopped
        · refine iff_of_false ?_ ?_
          · rintro ⟨message, h | h⟩ <;> simp [hok] at h
          · rintro ⟨_, hnot⟩
            refine hnot ⟨s.claimants.length - 1, hearlier, hlast'.trans hclaim.symm, hcurrent, ?_⟩
            intro row hrow hrowId
            have heq : row = job := Table.eq_of_key_eq hrow hjob (hrowId.trans hid.symm)
            exact heq ▸ hopen
      · have hother : job.leaseOwner ≠ some workerId := by simp [howner, hsame]
        refine iff_of_true (refused_of_not_owner hlegal hget hother) ⟨hlegal, ?_⟩
        rintro ⟨m, _, hworker, ⟨hm, _⟩, _⟩
        have hmlast : m = s.claimants.length - 1 := by omega
        rw [hmlast, hlast', hclaim] at hworker
        exact hsame (Option.some.inj hworker)
    · -- A job that does not run has no owner.
      have hfree : job.leaseOwner ≠ some workerId := by simp [howned.2 hrunning]
      refine iff_of_true (refused_of_not_owner hlegal hget hfree) ⟨hlegal, ?_⟩
      rintro ⟨m, _, _, ⟨_, row, hrow, hrowId, hrowRunning⟩, _⟩
      have heq : row = job := Table.eq_of_key_eq hrow hjob (hrowId.trans hid.symm)
      exact hrunning (heq ▸ hrowRunning)
  · exact iff_of_false (not_refused_of_illegal hlegal) (fun h => hlegal h.1)

/-- Workers that never reuse an id cannot be taken for one another. -/
theorem not_impersonates_of_nodup {jobId : Uuid} {s : ClaimLog} {n : Nat} {c : ExecutionCall}
    (hn : n < s.claimants.length) (hnodup : s.claimants.Nodup) : ¬ Impersonates jobId s n c := by
  rintro ⟨m, hlater, hworker, ⟨hm, _⟩, _⟩
  have hmlt : m < s.claimants.length := by omega
  rw [List.getElem?_eq_getElem hmlt, List.getElem?_eq_getElem hn] at hworker
  have hsame : m = n := (List.Nodup.getElem_inj_iff hnodup).1 (Option.some.inj hworker)
  omega

/-- Claimed, left to expire, reclaimed, and claimed again by another worker or the same one. -/
def claimTwice (first second : String) : List Op :=
  [.call (.claimReadyJob unlocked first 0 leaseDuration) rfl,
    .call (.reclaimExpiredLeases unlocked (minutes 10) 100) lateSweep_callable,
    .call (.claimReadyJob unlocked second (minutes 10) leaseDuration) rfl]

theorem claimTwice_leaseProtocol (first second : String) :
    ∀ op ∈ claimTwice first second, op.LeaseProtocol := by
  intro op hop
  simp only [claimTwice, List.mem_cons, List.not_mem_nil, or_false] at hop
  rcases hop with rfl | rfl | rfl <;> rfl

theorem readyDatabase_unclaimed (retryClass : RetryClass) :
    Unclaimed (readyDatabase retryClass) 1 := by
  intro job hjob _
  simp only [readyDatabase, sampleDatabase, Table.mem_def, List.mem_singleton] at hjob
  exact hjob ▸ ⟨by simp [sampleJob], rfl⟩

/-- With two ids the late release of the first worker is refused. -/
theorem stale_call_refused_two_workers :
    (claimRun sampleDigest 1 (readyDatabase .safe) (claimTwice "worker-1" "worker-2")).claimants =
        ["worker-1", "worker-2"] ∧
      FencedOff sampleDigest
        (claimRun sampleDigest 1 (readyDatabase .safe) (claimTwice "worker-1" "worker-2")) 1
        "worker-1" (.release (minutes 11) .succeeded) := by
  have hclaimants : (claimRun sampleDigest 1 (readyDatabase .safe)
      (claimTwice "worker-1" "worker-2")).claimants = ["worker-1", "worker-2"] := by
    decide +kernel
  have hfirst : (claimRun sampleDigest 1 (readyDatabase .safe)
      (claimTwice "worker-1" "worker-2")).claimants[0]? = some "worker-1" := by
    rw [hclaimants]
    rfl
  have hstale : ¬ CurrentClaim 1 (claimRun sampleDigest 1 (readyDatabase .safe)
      (claimTwice "worker-1" "worker-2")) 0 := by
    rintro ⟨hlast, _⟩
    rw [hclaimants] at hlast
    cases hlast
  refine ⟨hclaimants, ?_⟩
  refine (stale_call_refused_iff sampleDigest (readyDatabase_unclaimed .safe)
    (claimTwice_leaseProtocol _ _) hfirst hstale _).2 ⟨?_, ?_⟩
  · simp [ExecutionCall.Legal, legalReleaseStatuses]
  · refine not_impersonates_of_nodup ?_ ?_
    · rw [hclaimants]
      decide
    · rw [hclaimants]
      decide

/-- With the one id the worker loop uses, the late release of the first execution marks the job
`SUCCEEDED` while the second one works on it. -/
theorem stale_release_accepted :
    ¬ ∀ (digest : String → Uuid) (jobId : Uuid) (db : Database) (ops : List Op) (n : Nat)
      (workerId : String) (c : ExecutionCall), Unclaimed db jobId →
        (∀ op ∈ ops, op.LeaseProtocol) →
          (claimRun digest jobId db ops).claimants[n]? = some workerId →
            ¬ CurrentClaim jobId (claimRun digest jobId db ops) n →
              FencedOff digest (claimRun digest jobId db ops) jobId workerId c := by
  intro h
  have hclaimants : (claimRun sampleDigest 1 (readyDatabase .safe)
      (claimTwice (deterministicWorkerId 1) (deterministicWorkerId 1))).claimants =
        [deterministicWorkerId 1, deterministicWorkerId 1] := by
    decide +kernel
  have hfenced := h sampleDigest 1 (readyDatabase .safe)
    (claimTwice (deterministicWorkerId 1) (deterministicWorkerId 1)) 0 (deterministicWorkerId 1)
    (.release (minutes 11) .succeeded) (readyDatabase_unclaimed .safe)
    (claimTwice_leaseProtocol _ _) (by rw [hclaimants]; rfl)
    (by rintro ⟨hlast, _⟩; rw [hclaimants] at hlast; cases hlast)
  have haccepted : ((step sampleDigest (claimRun sampleDigest 1 (readyDatabase .safe)
      (claimTwice (deterministicWorkerId 1) (deterministicWorkerId 1))).db
        (.call (.releaseLease 1 (deterministicWorkerId 1) (minutes 11) .succeeded)
          rfl)).jobs.get? 1).map Job.status = some .succeeded := by
    decide +kernel
  have hbefore : ((claimRun sampleDigest 1 (readyDatabase .safe)
      (claimTwice (deterministicWorkerId 1) (deterministicWorkerId 1))).db.jobs.get? 1).map
        Job.status = some .running := by
    decide +kernel
  -- Refused calls change nothing; this one moved the job.
  have hsame := hfenced.2
  simp only [ExecutionCall.write] at hsame
  rw [hsame, hbefore] at haccepted
  cases haccepted

end Orchestration
end MoneyMachine
