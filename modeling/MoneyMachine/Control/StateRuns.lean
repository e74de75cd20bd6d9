import MoneyMachine.Control.State

/-!
# StateRuns — runs of completions and activations

A validator compares a candidate with the state before it only.  `Completes` and `Activates` say what
an accepted step establishes; what holds along a whole run is put together from both, because the
facts one of them asks for were established by the other.

* `control_runs_well_formed`  : sessions, evidence, revisions, blockers and fixed fields of a run;
* `closure_commits_distinct`  : every completed session has a closure commit of its own.
-/

namespace MoneyMachine
namespace Control

variable {ν : Type} {previous current : ControlState ν}

/-! ## Checks that passed -/

theorem ensure_eq_ok {condition : Prop} [Decidable condition] {message : String} :
    ensure condition message = .ok () ↔ condition := by
  unfold ensure
  split <;> simp_all

/-- Two checks in a row pass exactly when both do. -/
theorem checks_eq_ok {x : Except String Unit} {next : Unit → Except String Unit} :
    (x >>= next) = .ok () ↔ x = .ok () ∧ next () = .ok () := by
  cases x with
  | error e => simp [bind, Except.bind]
  | ok u => simp [bind, Except.bind]

/-- A check of something that was read first. -/
theorem read_eq_ok {α : Type} {x : Except String α} {next : α → Except String Unit} :
    (x >>= next) = .ok () ↔ ∃ a, x = .ok a ∧ next a = .ok () := by
  cases x with
  | error e => simp [bind, Except.bind]
  | ok a => simp [bind, Except.bind]

theorem sort_eq_nil {names : Finset String} : names.sort = [] ↔ names = ∅ := by
  constructor
  · intro h
    rw [← Finset.sort_toFinset names (· ≤ ·), h]
    rfl
  · rintro rfl
    exact Finset.sort_empty _

/-- The fields outside a list, and all fields the contract does not name, are as they were. -/
structure SameOutside (mutableFields : List Field) (previous current : ControlState ν) : Prop where
  fields : ∀ field, field ∉ mutableFields → current.value field = previous.value field
  extra : current.extra = previous.extra

theorem requireSameFields_ok [DecidableEq ν] {mutableFields : List Field} {label : String}
    (h : requireSameFields previous current mutableFields label = .ok ()) :
    SameOutside mutableFields previous current := by
  rcases checks_eq_ok.1 h with ⟨hkeys, hchanged⟩
  have hkeys := ensure_eq_ok.1 hkeys
  have hempty : changedFields previous current mutableFields = ∅ := by
    split at hchanged
    · rename_i hsort
      exact sort_eq_nil.1 hsort
    · cases hchanged
  rcases Finset.union_eq_empty.1 hempty with ⟨hfields, hextra⟩
  constructor
  · intro field hfield
    by_contra hne
    have hmem : field.name ∈ ((requiredFields.filter (fun field => decide
        (field ∉ mutableFields ∧ previous.value field ≠ current.value field))).map
          Field.name).toFinset := by
      rw [List.mem_toFinset]
      refine List.mem_map_of_mem (List.mem_filter.2 ⟨mem_requiredFields field, ?_⟩)
      exact decide_eq_true ⟨hfield, Ne.symm hne⟩
    rw [hfields] at hmem
    exact Finset.notMem_empty _ hmem
  · refine Finmap.ext_lookup ?_
    intro key
    by_cases hkey : key ∈ previous.extra.keys
    · by_contra hne
      have hmem : key ∈ previous.extra.keys.filter
          (fun key => previous.extra.lookup key ≠ current.extra.lookup key) :=
        Finset.mem_filter.2 ⟨hkey, Ne.symm hne⟩
      rw [hextra] at hmem
      exact Finset.notMem_empty _ hmem
    · have hkey' : key ∉ current.extra.keys := by rwa [hkeys]
      rw [Finmap.mem_keys] at hkey hkey'
      rw [Finmap.lookup_eq_none.2 hkey, Finmap.lookup_eq_none.2 hkey']

/-- Every evidence key is true. -/
def EvidenceComplete (state : ControlState ν) : Prop :=
  ∀ key value, state.requiredCompletionEvidence.lookup key = some value → value = true

theorem evidenceComplete_of_missing {state : ControlState ν}
    (h : missingEvidence state.requiredCompletionEvidence = []) : EvidenceComplete state := by
  intro key value hlookup
  by_contra hvalue
  have hfalse : value = false := by simpa using hvalue
  have hmem : key ∈ state.requiredCompletionEvidence.keys.filter
      (fun key => state.requiredCompletionEvidence.lookup key = some false) := by
    refine Finset.mem_filter.2 ⟨?_, by rw [hlookup, hfalse]⟩
    rw [Finmap.mem_keys, ← Finmap.lookup_isSome, hlookup]
    rfl
  rw [sort_eq_nil.1 h] at hmem
  exact Finset.notMem_empty _ hmem

/-! ## Accepted steps -/

/-- What an accepted completion establishes. -/
structure Completes (previous current : ControlState ν) : Prop where
  before : previous.sessionStatus = "incomplete"
  after : current.sessionStatus = "complete"
  session : current.currentSession = previous.currentSession
  revision : current.stateRevision = previous.stateRevision + 1
  sessions : current.completedSessions = rangeList previous.currentSession ++
    [previous.currentSession]
  known : 0 ≤ previous.currentSession
  next : current.nextSession = some (current.currentSession + 1)
  evidence : EvidenceComplete current
  blockers : current.blockers.Sublist previous.blockers
  fixed : SameOutside completionMutableFields previous current
  bootstrapDistinct : previous.bootstrapCommitSha ≠ current.evidenceClosureCommitSha
  head : current.headSha = current.evidenceClosureCommitSha
  closure : ∃ commit, current.evidenceClosureCommitSha = some commit
  firstHead : previous.currentSession = 0 → previous.headSha = previous.bootstrapCommitSha
  laterHead : previous.currentSession ≠ 0 →
    previous.headSha = previous.evidenceClosureCommitSha ∧
      current.evidenceClosureCommitSha ≠ previous.evidenceClosureCommitSha

/-- What an accepted activation establishes. -/
structure Activates (previous current : ControlState ν) : Prop where
  before : previous.sessionStatus = "complete"
  after : current.sessionStatus = "incomplete"
  session : current.currentSession = previous.currentSession + 1
  revision : current.stateRevision = previous.stateRevision + 1
  sessions : current.completedSessions = rangeList current.currentSession
  blockers : current.blockers = previous.blockers
  head : current.headSha = previous.headSha
  closure : current.evidenceClosureCommitSha = previous.evidenceClosureCommitSha
  fixed : SameOutside activationMutableFields previous current

theorem requireIdentity_ok (h : requireIdentity previous current = .ok ()) {field : Field}
    (hfield : field ∈ identityFields) : current.value field = previous.value field := by
  unfold requireIdentity at h
  split at h
  · rename_i hfind
    by_contra hne
    exact List.find?_eq_none.1 hfind field hfield (decide_eq_true (Ne.symm hne))
  · cases h

theorem requireBlockers_ok (h : requireBlockers previous current = .ok ()) :
    current.blockers.Sublist previous.blockers := by
  unfold requireBlockers at h
  split at h
  · rcases checks_eq_ok.1 h with ⟨_, hblockers⟩
    rw [ensure_eq_ok.1 hblockers]
    exact List.filter_sublist
  · rw [ensure_eq_ok.1 h]
    exact List.filter_sublist

theorem requireEvidence_ok (h : requireEvidence previous current = .ok ()) :
    EvidenceComplete current := by
  unfold requireEvidence at h
  dsimp only at h
  split at h
  · cases h
  · rcases checks_eq_ok.1 h with ⟨_, h⟩
    rcases checks_eq_ok.1 h with ⟨_, h⟩
    rcases checks_eq_ok.1 h with ⟨_, h⟩
    exact evidenceComplete_of_missing (ensure_eq_ok.1 h)

theorem exists_of_isCommitHash {commit : Option String} (h : isCommitHash commit = true) :
    ∃ hash, commit = some hash := by
  cases commit with
  | none => simp [isCommitHash] at h
  | some hash => exact ⟨hash, rfl⟩

theorem entryOf_eq_some {α : Type} {table : List α} {session : Int} {entry : α}
    (h : entryOf table session = some entry) : 0 ≤ session := by
  unfold entryOf at h
  split at h
  · assumption
  · cases h

theorem validateCompletionTransition_ok [DecidableEq ν]
    (h : validateCompletionTransition previous current = .ok ()) : Completes previous current := by
  unfold validateCompletionTransition at h
  dsimp only at h
  split at h
  · rename_i hknown _
    simp only [checks_eq_ok, requireNextSession, requireCommits, ensure_eq_ok] at h
    obtain ⟨⟨hbefore, hafter⟩, hidentity, hsame, ⟨hrevision, _, hsessions, hnext, _, _⟩, _,
      hevidence, hblockers, _, _, hclosure, hprior, hdistinct, hhead⟩ := h
    have hsession : current.currentSession = previous.currentSession := by
      have hvalue := requireIdentity_ok hidentity
        (show Field.currentSession ∈ identityFields by decide)
      simpa [ControlState.value] using hvalue
    refine
      { before := hbefore
        after := hafter
        session := hsession
        revision := hrevision
        sessions := hsessions
        known := entryOf_eq_some hknown
        next := hnext
        evidence := requireEvidence_ok hevidence
        blockers := requireBlockers_ok hblockers
        fixed := requireSameFields_ok hsame
        bootstrapDistinct := hdistinct
        head := hhead
        closure := exists_of_isCommitHash hclosure
        firstHead := ?_
        laterHead := ?_ }
    · intro hzero
      rw [requirePriorClosure, if_pos hzero] at hprior
      exact ensure_eq_ok.1 (checks_eq_ok.1 hprior).1
    · intro hlater
      rw [requirePriorClosure, if_neg hlater] at hprior
      simp only [checks_eq_ok, ensure_eq_ok] at hprior
      exact hprior.2
  · cases h

theorem validateActivationTransition_ok [DecidableEq ν]
    (h : validateActivationTransition previous current = .ok ()) : Activates previous current := by
  unfold validateActivationTransition at h
  rcases checks_eq_ok.1 h with ⟨hbefore, h⟩
  split at h
  · cases h
  · split at h
    · cases h
    · simp only [checks_eq_ok, ensure_eq_ok] at h
      obtain ⟨hfollows, hcurrent, hafter, hsame, hrevision, _, hsessions, _, _, _⟩ := h
      have hfixed := requireSameFields_ok hsame
      have hkept : ∀ field, field ∉ activationMutableFields →
          current.value field = previous.value field := hfixed.fields
      refine
        { before := ensure_eq_ok.1 hbefore
          after := hafter
          session := hcurrent.trans hfollows
          revision := hrevision
          sessions := ?_
          blockers := ?_
          head := ?_
          closure := ?_
          fixed := hfixed }
      · have hvalue := hkept .completedSessions (by decide)
        simp only [ControlState.value, FieldValue.numbers.injEq] at hvalue
        rw [hvalue, hsessions, hcurrent]
      · simpa [ControlState.value] using hkept .blockers (by decide)
      · simpa [ControlState.value] using hkept .headSha (by decide)
      · simpa [ControlState.value] using hkept .evidenceClosureCommitSha (by decide)

/-! ## Runs -/

section Runs

variable [DecidableEq ν]

/-- A state was completed into the next one. -/
def CompletionAccepted (previous current : ControlState ν) : Prop :=
  validateCompletionTransition previous current = .ok ()

/-- A state was activated into the next one. -/
def ActivationAccepted (previous current : ControlState ν) : Prop :=
  validateActivationTransition previous current = .ok ()

/-- The first steps of a sequence of states are accepted. -/
def IsRun (states : ℕ → ControlState ν) (length : ℕ) : Prop :=
  ∀ i < length, CompletionAccepted (states i) (states (i + 1)) ∨
    ActivationAccepted (states i) (states (i + 1))

/-- Where the sessions of a state stand. -/
structure WellFormed (state : ControlState ν) : Prop where
  status : state.sessionStatus = "incomplete" ∨ state.sessionStatus = "complete"
  incomplete : state.sessionStatus = "incomplete" →
    state.completedSessions = rangeList state.currentSession
  complete : state.sessionStatus = "complete" →
    state.completedSessions = rangeList (state.currentSession + 1) ∧
      state.nextSession = some (state.currentSession + 1) ∧ EvidenceComplete state

/-- The fields that neither kind of step may change. -/
def FixedFieldsKept (first state : ControlState ν) : Prop :=
  SameOutside (activationMutableFields ++ completionMutableFields) first state

/-- What holds along a run: the sessions are contiguous, the two kinds of step take turns, the
revision counts the steps, blockers only go, and the fixed fields stay. -/
structure RunWellFormed (states : ℕ → ControlState ν) (length : ℕ) : Prop where
  wellFormed : ∀ i ≤ length, WellFormed (states i)
  exclusive : ∀ i < length, ¬ (CompletionAccepted (states i) (states (i + 1)) ∧
    ActivationAccepted (states i) (states (i + 1)))
  alternate : ∀ i, i + 1 < length → (CompletionAccepted (states i) (states (i + 1)) ↔
    ActivationAccepted (states (i + 1)) (states (i + 2)))
  revision : ∀ i ≤ length, (states i).stateRevision = (states 0).stateRevision + i
  blockers : ∀ i j, i ≤ j → j ≤ length → (states j).blockers.Sublist (states i).blockers
  fixed : ∀ i ≤ length, FixedFieldsKept (states 0) (states i)

omit [DecidableEq ν] in
theorem rangeList_succ {session : Int} (h : 0 ≤ session) :
    rangeList (session + 1) = rangeList session ++ [session] := by
  obtain ⟨n, rfl⟩ := Int.eq_ofNat_of_zero_le h
  have hsucc : ((n : Int) + 1).toNat = n + 1 := by omega
  simp [rangeList, hsucc, List.range_succ]

/-! ### One step -/

theorem CompletionAccepted.wellFormed (h : CompletionAccepted previous current) :
    WellFormed current := by
  have hstep := validateCompletionTransition_ok h
  refine ⟨Or.inr hstep.after, ?_, ?_⟩
  · intro hincomplete
    rw [hstep.after] at hincomplete
    exact absurd hincomplete (by decide)
  · intro _
    refine ⟨?_, hstep.next, hstep.evidence⟩
    rw [hstep.sessions, hstep.session, rangeList_succ hstep.known]

theorem ActivationAccepted.wellFormed (h : ActivationAccepted previous current) :
    WellFormed current := by
  have hstep := validateActivationTransition_ok h
  refine ⟨Or.inl hstep.after, fun _ => hstep.sessions, ?_⟩
  intro hcomplete
  rw [hstep.after] at hcomplete
  exact absurd hcomplete (by decide)

/-- A state that was completed is not completed, and one that was activated not activated. -/
theorem not_both_accepted {next : ControlState ν} :
    ¬ (CompletionAccepted previous current ∧ ActivationAccepted previous next) := by
  rintro ⟨hcompletion, hactivation⟩
  have hbefore := (validateCompletionTransition_ok hcompletion).before
  rw [(validateActivationTransition_ok hactivation).before] at hbefore
  exact absurd hbefore (by decide)

omit [DecidableEq ν] in
theorem SameOutside.mono {fields fields' : List Field} (h : SameOutside fields previous current)
    (hsub : fields ⊆ fields') : SameOutside fields' previous current :=
  ⟨fun field hfield => h.fields field (fun hmem => hfield (hsub hmem)), h.extra⟩

omit [DecidableEq ν] in
theorem SameOutside.trans {fields : List Field} {first : ControlState ν}
    (h : SameOutside fields first previous) (h' : SameOutside fields previous current) :
    SameOutside fields first current :=
  ⟨fun field hfield => (h'.fields field hfield).trans (h.fields field hfield),
    h'.extra.trans h.extra⟩

/-- What both kinds of step do. -/
theorem step_frame (h : CompletionAccepted previous current ∨ ActivationAccepted previous current) :
    current.stateRevision = previous.stateRevision + 1 ∧
      current.blockers.Sublist previous.blockers ∧ FixedFieldsKept previous current := by
  rcases h with hcompletion | hactivation
  · have hstep := validateCompletionTransition_ok hcompletion
    exact ⟨hstep.revision, hstep.blockers,
      hstep.fixed.mono (List.subset_append_right _ _)⟩
  · have hstep := validateActivationTransition_ok hactivation
    refine ⟨hstep.revision, ?_, hstep.fixed.mono (List.subset_append_left _ _)⟩
    rw [hstep.blockers]

/-! ### Whole runs -/

variable {states : ℕ → ControlState ν} {length : ℕ}

theorem IsRun.wellFormed (h : IsRun states length) (hstart : WellFormed (states 0)) {i : ℕ}
    (hi : i ≤ length) : WellFormed (states i) := by
  -- A later state was accepted by a step, and a step decides how its sessions stand.
  cases i with
  | zero => exact hstart
  | succ i =>
    rcases h i hi with hcompletion | hactivation
    · exact hcompletion.wellFormed
    · exact hactivation.wellFormed

theorem IsRun.revision (h : IsRun states length) {i : ℕ} (hi : i ≤ length) :
    (states i).stateRevision = (states 0).stateRevision + i := by
  induction i with
  | zero => simp
  | succ i ih =>
    rw [(step_frame (h i hi)).1, ih (Nat.le_of_succ_le hi)]
    push_cast
    omega

theorem IsRun.blockers (h : IsRun states length) {i j : ℕ} (hij : i ≤ j) (hj : j ≤ length) :
    (states j).blockers.Sublist (states i).blockers := by
  induction j, hij using Nat.le_induction with
  | base => exact List.Sublist.refl _
  | succ j _ ih => exact (step_frame (h j hj)).2.1.trans (ih (Nat.le_of_succ_le hj))

theorem IsRun.fixed (h : IsRun states length) {i : ℕ} (hi : i ≤ length) :
    FixedFieldsKept (states 0) (states i) := by
  induction i with
  | zero => exact ⟨fun _ _ => rfl, rfl⟩
  | succ i ih => exact (ih (Nat.le_of_succ_le hi)).trans (step_frame (h i hi)).2.2

theorem IsRun.alternate (h : IsRun states length) {i : ℕ} (hi : i + 1 < length) :
    CompletionAccepted (states i) (states (i + 1)) ↔
      ActivationAccepted (states (i + 1)) (states (i + 2)) := by
  constructor
  · intro hcompletion
    rcases h (i + 1) hi with hagain | hactivation
    · have hafter := (validateCompletionTransition_ok hcompletion).after
      rw [(validateCompletionTransition_ok hagain).before] at hafter
      exact absurd hafter (by decide)
    · exact hactivation
  · intro hactivation
    rcases h i (Nat.lt_of_succ_lt hi) with hcompletion | hagain
    · exact hcompletion
    · have hafter := (validateActivationTransition_ok hagain).after
      rw [(validateActivationTransition_ok hactivation).before] at hafter
      exact absurd hafter (by decide)

/-- Control-state runs stay well formed. -/
theorem control_runs_well_formed (states : ℕ → ControlState ν) (length : ℕ)
    (hrun : IsRun states length) (hincomplete : (states 0).sessionStatus = "incomplete")
    (hsessions : (states 0).completedSessions = rangeList (states 0).currentSession) :
    RunWellFormed states length := by
  have hstart : WellFormed (states 0) := by
    refine ⟨Or.inl hincomplete, fun _ => hsessions, ?_⟩
    intro hcomplete
    rw [hincomplete] at hcomplete
    exact absurd hcomplete (by decide)
  exact
    { wellFormed := fun i hi => hrun.wellFormed hstart hi
      exclusive := fun i _ => not_both_accepted
      alternate := fun i hi => hrun.alternate hi
      revision := fun i hi => hrun.revision hi
      blockers := fun i j hij hj => hrun.blockers hij hj
      fixed := fun i hi => hrun.fixed hi }

end Runs

/-- The evidence of a session, with one value for the closure commit and one for the rest. -/
def sampleEvidence (keys : List String) (closure others : Bool) : Dict Bool :=
  (keys.map (fun key => (⟨key, if key = closureEvidenceKey then closure else others⟩ :
    Sigma (fun _ : String => Bool)))).toFinmap

/-- Session 0 with only its closure commit missing. -/
def bootstrapState : ControlState Unit :=
  { programme := "money-machine"
    version := "1"
    repoRoot := "/srv/money-machine"
    windowsRepoRoot := ""
    branch := "main"
    headSha := some "aaaaaaaaaaaaaaaaaaaaaaaaaaaaaaaaaaaaaaaa"
    bootstrapCommitSha := some "aaaaaaaaaaaaaaaaaaaaaaaaaaaaaaaaaaaaaaaa"
    evidenceClosureCommitSha := none
    lastVerifiedCommit := some "aaaaaaaaaaaaaaaaaaaaaaaaaaaaaaaaaaaaaaaa"
    stateRevision := 4
    sessionStatus := "incomplete"
    currentSession := 0
    completedSessions := []
    services := ∅
    commissionedAgents := []
    tests := ∅
    environmentVersions := ∅
    blockers := [⟨outerGatesBlocker, "programme", "gates"⟩, ⟨"LIVE", "etsy", "no key"⟩]
    nextSession := none
    nextPrompt := ""
    requiredCompletionEvidence := sampleEvidence (sessionEvidenceKeys.headD []) false true
    transitionContract := ∅
    updatedAt := "monday"
    extra := ∅
    extraNames := fun _ => Finmap.notMem_empty }

/-- Session 0 completed. -/
def completedState : ControlState Unit :=
  { bootstrapState with
    headSha := some "bbbbbbbbbbbbbbbbbbbbbbbbbbbbbbbbbbbbbbbb"
    evidenceClosureCommitSha := some "bbbbbbbbbbbbbbbbbbbbbbbbbbbbbbbbbbbbbbbb"
    stateRevision := 5
    sessionStatus := "complete"
    completedSessions := [0]
    blockers := [⟨"LIVE", "etsy", "no key"⟩]
    nextSession := some 1
    nextPrompt := "04_SESSION_01_PLAYBOOK_MAPPING_AND_ARCHITECTURE.md"
    requiredCompletionEvidence := sampleEvidence (sessionEvidenceKeys.headD []) true true
    updatedAt := "tuesday" }

/-- Session 1 activated. -/
def activatedState : ControlState Unit :=
  { completedState with
    stateRevision := 6
    sessionStatus := "incomplete"
    currentSession := 1
    requiredCompletionEvidence := sampleEvidence (sessionEvidenceKeys.getD 1 []) false false
    updatedAt := "wednesday" }

def sampleStates : ℕ → ControlState Unit
  | 0 => bootstrapState
  | 1 => completedState
  | _ => activatedState

theorem sampleStates_isRun : IsRun sampleStates 2 := by
  intro i hi
  match i with
  | 0 =>
    refine Or.inl ?_
    unfold CompletionAccepted
    decide +kernel
  | 1 =>
    refine Or.inr ?_
    unfold ActivationAccepted
    decide +kernel

theorem control_runs_well_formed_sample : RunWellFormed sampleStates 2 :=
  control_runs_well_formed sampleStates 2 sampleStates_isRun rfl rfl

/-! ## Closure commits -/

section Closures

variable [DecidableEq ν] {repository : Repository ν}

/-- The commit before a completion is an ancestor of the closure it records. -/
theorem validateGitEvidence_ok (h : validateGitEvidence repository previous current = .ok ()) :
    ∃ base closure, ancestryBase previous current = some base ∧
      current.evidenceClosureCommitSha = some closure ∧
        repository.isAncestor base closure = .ok true := by
  rcases checks_eq_ok.1 h with ⟨_, h⟩
  split at h
  · rename_i bootstrap closure _ hclosure
    rcases checks_eq_ok.1 h with ⟨_, h⟩
    rcases checks_eq_ok.1 h with ⟨_, h⟩
    rcases read_eq_ok.1 h with ⟨_, _, h⟩
    rcases checks_eq_ok.1 h with ⟨_, h⟩
    rcases checks_eq_ok.1 h with ⟨hancestry, _⟩
    unfold requireAncestry at hancestry
    split at hancestry
    · cases hancestry
    · rename_i base hbase
      rcases checks_eq_ok.1 hancestry with ⟨_, hancestry⟩
      rcases read_eq_ok.1 hancestry with ⟨ancestor, hanswer, hcheck⟩
      have htrue : ancestor = true := ensure_eq_ok.1 hcheck
      rw [htrue] at hanswer
      exact ⟨base, closure, hbase, hclosure, hanswer⟩
  · cases h

/-- A completion whose Git evidence was verified as well. -/
def CompletionVerified (repository : Repository ν) (previous current : ControlState ν) : Prop :=
  CompletionAccepted previous current ∧ validateGitEvidence repository previous current = .ok ()

/-- The first steps of a sequence of states are verified completions or activations. -/
def IsVerifiedRun (repositories : ℕ → Repository ν) (states : ℕ → ControlState ν) (length : ℕ) :
    Prop :=
  ∀ i < length, CompletionVerified (repositories i) (states i) (states (i + 1)) ∨
    ActivationAccepted (states i) (states (i + 1))

/-- The closure recorded last before a state, or the bootstrap commit. -/
def latestClosure (bootstrap : String) (states : ℕ → ControlState ν) : ℕ → String
  | 0 => bootstrap
  | i + 1 =>
    if validateCompletionTransition (states i) (states (i + 1)) = .ok () then
      (states (i + 1)).evidenceClosureCommitSha.getD bootstrap
    else
      latestClosure bootstrap states i

/-- Every completion records a commit of its own behind all earlier ones, and the head is the latest
of them. -/
structure ClosuresDistinct (ancestor : String → String → Prop) (bootstrap : String)
    (states : ℕ → ControlState ν) (length : ℕ) : Prop where
  recorded : ∀ i < length, CompletionAccepted (states i) (states (i + 1)) →
    ∃ closure, (states (i + 1)).evidenceClosureCommitSha = some closure ∧
      closure ≠ bootstrap ∧ ancestor bootstrap closure
  distinct : ∀ i j, i < j → j < length → CompletionAccepted (states i) (states (i + 1)) →
    CompletionAccepted (states j) (states (j + 1)) →
      ∀ earlier later, (states (i + 1)).evidenceClosureCommitSha = some earlier →
        (states (j + 1)).evidenceClosureCommitSha = some later →
          earlier ≠ later ∧ ancestor earlier later
  head : 0 < length → ∀ i ≤ length,
    (states i).headSha = some (latestClosure bootstrap states i)

/-- A verified completion moves the head to a new commit behind it. -/
theorem CompletionVerified.head {ancestor : String → String → Prop}
    (hgit : ∀ a b, repository.isAncestor a b = .ok true → ancestor a b)
    (h : CompletionVerified repository previous current) :
    ∃ before closure, previous.headSha = some before ∧ current.headSha = some closure ∧
      current.evidenceClosureCommitSha = some closure ∧ before ≠ closure ∧
        ancestor before closure := by
  rcases h with ⟨haccepted, hevidence⟩
  have hstep := validateCompletionTransition_ok haccepted
  rcases validateGitEvidence_ok hevidence with ⟨base, closure, hbase, hclosure, hanswer⟩
  have hbootstrap : current.bootstrapCommitSha = previous.bootstrapCommitSha := by
    simpa [ControlState.value] using hstep.fixed.fields .bootstrapCommitSha (by decide)
  -- For session 0 the head is the bootstrap commit, so the base is the head in both cases.
  have hhead : previous.headSha = some base := by
    by_cases hzero : previous.currentSession = 0
    · rw [hstep.firstHead hzero, ← hbootstrap]
      simpa [ancestryBase, hzero] using hbase
    · simpa [ancestryBase, hzero] using hbase
  have hne : some base ≠ some closure := by
    rw [← hclosure, ← hhead]
    by_cases hzero : previous.currentSession = 0
    · rw [hstep.firstHead hzero]
      exact hstep.bootstrapDistinct
    · rw [(hstep.laterHead hzero).1]
      exact (hstep.laterHead hzero).2.symm
  refine ⟨base, closure, hhead, ?_, hclosure, ?_, hgit base closure hanswer⟩
  · rw [hstep.head, hclosure]
  · exact fun heq => hne (congrArg some heq)

theorem ActivationAccepted.head (h : ActivationAccepted previous current) :
    current.headSha = previous.headSha :=
  (validateActivationTransition_ok h).head

section Order

variable {ancestor : String → String → Prop} [IsPartialOrder String ancestor]
  {repositories : ℕ → Repository ν} {states : ℕ → ControlState ν} {length : ℕ}

theorem IsVerifiedRun.isRun (h : IsVerifiedRun repositories states length) :
    IsRun states length := by
  intro i hi
  rcases h i hi with hcompletion | hactivation
  · exact Or.inl hcompletion.1
  · exact Or.inr hactivation

/-- The heads of a run are ordered by ancestry. -/
theorem IsVerifiedRun.heads_ordered
    (hgit : ∀ i a b, (repositories i).isAncestor a b = .ok true → ancestor a b)
    (h : IsVerifiedRun repositories states length) {i j : ℕ} (hij : i ≤ j) (hj : j ≤ length)
    {earlier : String} (hearlier : (states i).headSha = some earlier) :
    ∃ later, (states j).headSha = some later ∧ ancestor earlier later := by
  induction j, hij using Nat.le_induction with
  | base => exact ⟨earlier, hearlier, refl_of ancestor earlier⟩
  | succ j _ ih =>
    rcases ih (Nat.le_of_succ_le hj) with ⟨middle, hmiddle, hbefore⟩
    rcases h j hj with hcompletion | hactivation
    · rcases hcompletion.head (hgit j) with ⟨before, closure, hhead, hnext, _, _, hafter⟩
      rw [hmiddle] at hhead
      cases hhead
      exact ⟨closure, hnext, trans_of ancestor hbefore hafter⟩
    · exact ⟨middle, by rw [hactivation.head, hmiddle], hbefore⟩

/-- A run that starts at session 0 starts with a completion, so at the bootstrap commit. -/
theorem IsVerifiedRun.first_head (h : IsVerifiedRun repositories states length)
    (hincomplete : (states 0).sessionStatus = "incomplete") (hsession : (states 0).currentSession = 0)
    (hlength : 0 < length) : (states 0).headSha = (states 0).bootstrapCommitSha := by
  rcases h 0 hlength with hcompletion | hactivation
  · exact (validateCompletionTransition_ok hcompletion.1).firstHead hsession
  · have hbefore := (validateActivationTransition_ok hactivation).before
    rw [hincomplete] at hbefore
    exact absurd hbefore (by decide)

omit [IsPartialOrder String ancestor] in
theorem IsVerifiedRun.head_latest
    (hgit : ∀ i a b, (repositories i).isAncestor a b = .ok true → ancestor a b)
    (h : IsVerifiedRun repositories states length) {bootstrap : String}
    (hfirst : (states 0).headSha = some bootstrap) {i : ℕ} (hi : i ≤ length) :
    (states i).headSha = some (latestClosure bootstrap states i) := by
  induction i with
  | zero => exact hfirst
  | succ i ih =>
    rcases h i hi with hcompletion | hactivation
    · rcases hcompletion.head (hgit i) with ⟨_, closure, _, hnext, hclosure, _, _⟩
      have hok : validateCompletionTransition (states i) (states (i + 1)) = .ok () :=
        hcompletion.1
      rw [hnext, latestClosure, if_pos hok, hclosure, Option.getD_some]
    · have hnot : ¬ validateCompletionTransition (states i) (states (i + 1)) = .ok () :=
        fun hok => not_both_accepted ⟨hok, hactivation⟩
      rw [hactivation.head, latestClosure, if_neg hnot, ih (Nat.le_of_succ_le hi)]

/-- Every completed session has a closure commit of its own. -/
theorem closure_commits_distinct (ancestor : String → String → Prop)
    [IsPartialOrder String ancestor] (repositories : ℕ → Repository ν)
    (hgit : ∀ i a b, (repositories i).isAncestor a b = .ok true → ancestor a b)
    (states : ℕ → ControlState ν) (length : ℕ) (hrun : IsVerifiedRun repositories states length)
    (hincomplete : (states 0).sessionStatus = "incomplete")
    (hsession : (states 0).currentSession = 0) (bootstrap : String)
    (hbootstrap : (states 0).bootstrapCommitSha = some bootstrap) :
    ClosuresDistinct ancestor bootstrap states length := by
  have hfirst : 0 < length → (states 0).headSha = some bootstrap := by
    intro hlength
    rw [hrun.first_head hincomplete hsession hlength, hbootstrap]
  have hverified : ∀ i < length, CompletionAccepted (states i) (states (i + 1)) →
      CompletionVerified (repositories i) (states i) (states (i + 1)) := by
    intro i hi haccepted
    rcases hrun i hi with hcompletion | hactivation
    · exact hcompletion
    · exact absurd ⟨haccepted, hactivation⟩ not_both_accepted
  refine ⟨?_, ?_, ?_⟩
  · intro i hi haccepted
    rcases (hverified i hi haccepted).head (hgit i) with ⟨_, closure, _, hnext, hclosure, _, _⟩
    refine ⟨closure, hclosure, ?_, ?_⟩
    · rintro rfl
      have hdistinct := (validateCompletionTransition_ok haccepted).bootstrapDistinct
      have hkept : (states i).bootstrapCommitSha = (states 0).bootstrapCommitSha := by
        have hfixed := hrun.isRun.fixed (Nat.le_of_lt hi)
        simpa [ControlState.value] using hfixed.fields .bootstrapCommitSha (by decide)
      rw [hkept, hbootstrap, hclosure] at hdistinct
      exact hdistinct rfl
    · rcases hrun.heads_ordered hgit (Nat.zero_le _) hi (hfirst (Nat.zero_lt_of_lt hi)) with
        ⟨later, hlater, hancestor⟩
      rw [hnext] at hlater
      cases hlater
      exact hancestor
  · intro i j hij hj haccepted haccepted' earlier later hearlier hlater
    rcases (hverified i (hij.trans hj) haccepted).head (hgit i) with
      ⟨_, closure, _, hnext, hclosure, _, _⟩
    rw [hearlier] at hclosure
    cases hclosure
    rcases (hverified j hj haccepted').head (hgit j) with
      ⟨before, closure', hhead', _, hclosure', hne, hafter⟩
    rw [hlater] at hclosure'
    cases hclosure'
    rcases hrun.heads_ordered hgit hij (Nat.le_of_lt hj) hnext with ⟨middle, hmiddle, hbetween⟩
    rw [hhead'] at hmiddle
    cases hmiddle
    refine ⟨?_, trans_of ancestor hbetween hafter⟩
    -- A repeated closure would sit on both sides of the head between.
    rintro rfl
    exact hne (antisymm_of ancestor hafter hbetween)
  · intro hlength i hi
    exact hrun.head_latest hgit (hfirst hlength) hi

end Order

end Closures

/-- A history of two commits. -/
def SampleAncestor (a b : String) : Prop :=
  a = b ∨ (a = "aaaaaaaaaaaaaaaaaaaaaaaaaaaaaaaaaaaaaaaa" ∧
    b = "bbbbbbbbbbbbbbbbbbbbbbbbbbbbbbbbbbbbbbbb")

instance sampleAncestorDecidable (a b : String) : Decidable (SampleAncestor a b) :=
  inferInstanceAs (Decidable (a = b ∨ (_ ∧ _)))

instance sampleAncestorOrder : IsPartialOrder String SampleAncestor where
  refl a := Or.inl rfl
  trans a b c hab hbc := by
    rcases hab with rfl | ⟨rfl, rfl⟩
    · exact hbc
    · rcases hbc with rfl | ⟨hfalse, _⟩
      · exact Or.inr ⟨rfl, rfl⟩
      · exact absurd hfalse (by decide)
  antisymm a b hab hba := by
    rcases hab with rfl | ⟨rfl, rfl⟩
    · rfl
    · rcases hba with h | ⟨hfalse, _⟩
      · exact h.symm
      · exact absurd hfalse (by decide)

/-- A clean worktree at the second commit, which holds the state before the completion. -/
def sampleRepository : Repository Unit :=
  { rootIsDirectory := true
    statePathIsCanonical := true
    rootIsToplevel := .ok true
    branch := .ok "main"
    head := .ok "bbbbbbbbbbbbbbbbbbbbbbbbbbbbbbbbbbbbbbbb"
    resolve := fun commit => .ok commit
    subject := fun _ => .ok bootstrapCommitSubject
    isAncestor := fun a b => .ok (decide (SampleAncestor a b))
    status := .ok ""
    stateAt := fun _ => .ok (.state bootstrapState) }

theorem sampleStates_isVerifiedRun : IsVerifiedRun (fun _ => sampleRepository) sampleStates 2 := by
  intro i hi
  match i with
  | 0 =>
    refine Or.inl ⟨?_, by decide +kernel⟩
    unfold CompletionAccepted
    decide +kernel
  | 1 =>
    refine Or.inr ?_
    unfold ActivationAccepted
    decide +kernel

theorem closure_commits_distinct_sample :
    ClosuresDistinct SampleAncestor "aaaaaaaaaaaaaaaaaaaaaaaaaaaaaaaaaaaaaaaa" sampleStates 2 :=
  closure_commits_distinct SampleAncestor (fun _ => sampleRepository)
    (fun _ a b h => by
      have hdecide : decide (SampleAncestor a b) = true := by
        simpa [sampleRepository] using h
      exact of_decide_eq_true hdecide)
    sampleStates 2 sampleStates_isVerifiedRun rfl rfl _ rfl

end Control
end MoneyMachine
