import MoneyMachine.Integrations.DraftLedger
import MoneyMachine.Library.Runs

/-!
# SinglePost — how many `POST`s a ledger key can see

Creating the pending file exclusively is an atomic claim: of all calls that share a key, one succeeds.
But `put_pending` looks for the file first and returns silently when it finds a readable row, and its
caller then sends the `POST` as if it had made the claim.  `posts_at_most_once` proves that this is
the only way to a second `POST`; `two_posts` runs into it with two calls.
-/

namespace MoneyMachine
namespace Integrations

open MoneyMachine.Domain
open MoneyMachine.Library

/-! ## Phases -/

/-- The call has created the pending file, or believes so, and has not sent its `POST`. -/
def Phase.holdsClaim : Phase → Bool
  | .writing _ => true
  | .syncing => true
  | .posting => true
  | _ => false

/-- The call has sent its `POST`, or will not send one any more. -/
def Phase.late : Phase → Bool
  | .posted | .unlinkingNext _ | .creatingNext _ | .writingNext _ _ | .syncingNext _ | .replacing _
  | .syncingRow _ | .returned _ | .raised _ | .crashed => true
  | _ => false

theorem not_holdsClaim_of_late {phase : Phase} (h : phase.late = true) :
    phase.holdsClaim = false := by
  cases phase <;> simp_all [Phase.late, Phase.holdsClaim]

/-- `put_pending` is about to read a row that is there. -/
def FindsRow (directory : Directory) (phase : Phase) : Prop :=
  ∃ descriptor entry, phase = .rereading descriptor ∧
    parseRow (directory.contents descriptor) = .ok entry

instance (directory : Directory) (phase : Phase) : Decidable (FindsRow directory phase) :=
  match phase with
  | .rereading descriptor =>
    match hrow : parseRow (directory.contents descriptor) with
    | .ok entry => isTrue ⟨descriptor, entry, rfl, hrow⟩
    | .error _ => isFalse (by
        rintro ⟨_, _, hphase, hok⟩
        cases hphase
        rw [hrow] at hok
        cases hok)
  | .idle | .opening | .reading _ | .walking _ | .confirming _ _ | .claiming | .reopening
  | .creating | .writing _ | .syncing | .posting | .posted | .unlinkingNext _ | .creatingNext _
  | .writingNext _ _ | .syncingNext _ | .replacing _ | .syncingRow _ | .returned _ | .raised _
  | .crashed => isFalse (by
      rintro ⟨_, _, hphase, _⟩
      cases hphase)

/-! ## The directory -/

theorem nextPath_ne (path : String) : nextPath path ≠ path := by
  intro h
  have hlist := congrArg String.toList h
  simp [nextPath] at hlist

section Names

variable {directory directory' : Directory} {path other : String} {descriptor : Nat}

theorem createExclusive_eq_some
    (h : directory.createExclusive path = some (directory', descriptor)) :
    directory.names path = none ∧ directory'.names path = some descriptor ∧
      ∀ name, name ≠ path → directory'.names name = directory.names name := by
  unfold Directory.createExclusive at h
  cases hname : directory.names path with
  | some file => simp [hname] at h
  | none =>
    simp only [hname, Option.some.injEq, Prod.mk.injEq] at h
    rcases h with ⟨rfl, rfl⟩
    refine ⟨rfl, by simp, ?_⟩
    intro name hne
    simp [hne]

theorem replace_eq_some (h : directory.replace other path = some directory') :
    (directory'.names path).isSome = true := by
  unfold Directory.replace at h
  rcases Option.map_eq_some_iff.1 h with ⟨file, _, rfl⟩
  simp

end Names

/-! ## One step of a call -/

/-- What a step can do to the row's name and to the call's claim. -/
structure ClientMove (path : String) (event : ClientEvent) (directory : Directory) (phase : Phase)
    (directory' : Directory) (phase' : Phase) : Prop where
  /-- A row is never taken away. -/
  keeps : (directory.names path).isSome = true → (directory'.names path).isSome = true
  /-- A claim is one made before, one made by this exclusive creation, or no claim at all. -/
  claims : phase'.holdsClaim = true →
    phase.holdsClaim = true ∨
      (directory.names path = none ∧ (directory'.names path).isSome = true) ∨
      (event = .proceed ∧ FindsRow directory phase)
  late : phase.late = true → phase'.late = true

section Client

variable {path marker : String} {event : ClientEvent} {directory : Directory} {phase : Phase}

/-- A step that leaves the directory alone and makes no claim. -/
theorem ClientMove.of_quiet {phase' : Phase} (hquiet : phase'.holdsClaim = false)
    (hlate : phase.late = true → phase'.late = true) :
    ClientMove path event directory phase directory phase' :=
  { keeps := fun h => h
    claims := by
      intro hclaim
      rw [hquiet] at hclaim
      cases hclaim
    late := hlate }

/-- A step of `record`: it touches the name beside the row, or puts a file under the row's name. -/
theorem ClientMove.of_record {directory' : Directory} {phase' : Phase}
    (hkeeps : (directory.names path).isSome = true → (directory'.names path).isSome = true)
    (hlate : phase'.late = true) : ClientMove path event directory phase directory' phase' :=
  { keeps := hkeeps
    claims := by
      intro hclaim
      rw [not_holdsClaim_of_late hlate] at hclaim
      cases hclaim
    late := fun _ => hlate }

theorem openRow_quiet {next : Nat → Phase} (hnext : ∀ descriptor, (next descriptor).holdsClaim = false) :
    (openRow path directory next).holdsClaim = false := by
  unfold openRow
  cases directory.names path with
  | none => rfl
  | some descriptor => exact hnext descriptor

theorem advance_move (path : String) (directory : Directory) (phase : Phase) :
    ClientMove path .proceed directory phase (advance path directory phase).1
      (advance path directory phase).2 := by
  -- One case per place; only three of them touch the row's name or make a claim.
  cases phase with
  | idle =>
    cases hname : directory.names path <;> simp only [advance, hname] <;>
      exact ClientMove.of_quiet rfl (by simp [Phase.late])
  | opening => exact ClientMove.of_quiet (openRow_quiet fun _ => rfl) (by simp [Phase.late])
  | reading descriptor =>
    simp only [advance]
    split <;> exact ClientMove.of_quiet rfl (by simp [Phase.late])
  | walking existing => exact ClientMove.of_quiet rfl (fun h => h)
  | confirming existing first => exact ClientMove.of_quiet rfl (fun h => h)
  | claiming =>
    cases hname : directory.names path <;> simp only [advance, hname] <;>
      exact ClientMove.of_quiet rfl (by simp [Phase.late])
  | reopening => exact ClientMove.of_quiet (openRow_quiet fun _ => rfl) (by simp [Phase.late])
  | rereading descriptor =>
    cases hrow : parseRow (directory.contents descriptor) with
    | error error =>
      simp only [advance, hrow]
      exact ClientMove.of_quiet rfl (by simp [Phase.late])
    | ok entry =>
      simp only [advance, hrow]
      exact
        { keeps := fun h => h
          claims := fun _ => Or.inr (Or.inr ⟨rfl, descriptor, entry, rfl, hrow⟩)
          late := by simp [Phase.late] }
  | creating =>
    cases hcreate : directory.createExclusive path with
    | none =>
      simp only [advance, hcreate]
      exact ClientMove.of_quiet rfl (by simp [Phase.late])
    | some created =>
      rcases created with ⟨directory', descriptor⟩
      rcases createExclusive_eq_some hcreate with ⟨hfree, htaken, _⟩
      simp only [advance, hcreate]
      exact
        { keeps := by simp [hfree]
          claims := fun _ => Or.inr (Or.inl ⟨hfree, by simp [htaken]⟩)
          late := by simp [Phase.late] }
  | writing descriptor =>
    exact
      { keeps := fun h => h
        claims := fun _ => Or.inl rfl
        late := by simp [Phase.late] }
  | syncing =>
    exact
      { keeps := fun h => h
        claims := fun _ => Or.inl rfl
        late := by simp [Phase.late] }
  | posting => exact ClientMove.of_quiet rfl (by simp [Phase.late])
  | posted => exact ClientMove.of_quiet rfl (fun h => h)
  | unlinkingNext listingId =>
    refine ClientMove.of_record ?_ rfl
    intro htaken
    simpa [advance, Directory.unlink, (nextPath_ne path).symm] using htaken
  | creatingNext listingId =>
    cases hcreate : directory.createExclusive (nextPath path) with
    | none =>
      simp only [advance, hcreate]
      exact ClientMove.of_record (fun h => h) rfl
    | some created =>
      rcases created with ⟨directory', descriptor⟩
      rcases createExclusive_eq_some hcreate with ⟨_, _, hothers⟩
      simp only [advance, hcreate]
      refine ClientMove.of_record ?_ rfl
      intro htaken
      rw [hothers path (nextPath_ne path).symm]
      exact htaken
  | writingNext listingId descriptor => exact ClientMove.of_record (fun h => h) rfl
  | syncingNext listingId => exact ClientMove.of_record (fun h => h) rfl
  | replacing listingId =>
    cases hreplace : directory.replace (nextPath path) path with
    | none =>
      simp only [advance, hreplace]
      exact ClientMove.of_record (fun h => h) rfl
    | some directory' =>
      simp only [advance, hreplace]
      exact ClientMove.of_record (fun _ => replace_eq_some hreplace) rfl
  | syncingRow listingId => exact ClientMove.of_record (fun h => h) rfl
  | returned listingId => exact ClientMove.of_quiet rfl (fun h => h)
  | raised error => exact ClientMove.of_quiet rfl (fun h => h)
  | crashed => exact ClientMove.of_quiet rfl (fun h => h)

theorem afterWalks_quiet (existing : Option LedgerEntry) (first second : Walk) :
    (afterWalks existing first second).holdsClaim = false := by
  unfold afterWalks
  split
  · rfl
  · rfl
  · split <;> rfl

theorem stay_move : ClientMove path event directory phase directory phase :=
  { keeps := fun h => h
    claims := fun h => Or.inl h
    late := fun h => h }

/-- Every step of a call, whatever the transport and the file system answer. -/
theorem clientStep_move (path marker : String) (directory : Directory) (phase : Phase)
    (event : ClientEvent) :
    ClientMove path event directory phase (clientStep path marker directory phase event).1
      (clientStep path marker directory phase event).2 := by
  cases event with
  | proceed => exact advance_move path directory phase
  | pages replies =>
    cases phase with
    | walking existing =>
      cases hwalk : readPages marker replies <;> simp only [clientStep, hwalk] <;>
        exact ClientMove.of_quiet rfl (by simp [Phase.late])
    | confirming existing first =>
      cases hwalk : readPages marker replies with
      | error error =>
        simp only [clientStep, hwalk]
        exact ClientMove.of_quiet rfl (by simp [Phase.late])
      | ok second =>
        simp only [clientStep, hwalk]
        exact ClientMove.of_quiet (afterWalks_quiet existing first second)
          (by simp [Phase.late])
    | _ => exact stay_move
  | reply reply =>
    cases phase with
    | posted =>
      simp only [clientStep]
      split <;> exact ClientMove.of_record (fun h => h) rfl
    | _ => exact stay_move
  | fault =>
    simp only [clientStep]
    cases phase <;> first
      | exact stay_move
      | exact ClientMove.of_record (fun h => h) rfl
  | crash =>
    simp only [clientStep]
    split
    · exact stay_move
    · exact ClientMove.of_record (fun h => h) rfl

end Client

/-! ## Any number of calls -/

section System

variable {ι : Type} [DecidableEq ι] {sha256 : String → String} {specs : ι → DraftSpec}
variable {path : String} {clients : DraftClients ι}

/-- All calls are for one row of the ledger. -/
def OneKey (sha256 : String → String) (specs : ι → DraftSpec) : Prop :=
  ∀ i j, (specs i).specVersion = (specs j).specVersion ∧
    fixtureHash sha256 (specs i) = fixtureHash sha256 (specs j)

omit [DecidableEq ι] in
theorem OneKey.pathOf_eq (h : OneKey sha256 specs) (i j : ι) :
    pathOf sha256 specs i = pathOf sha256 specs j := by
  rcases h i j with ⟨hversion, hhash⟩
  unfold pathOf
  rw [hversion, hhash]

/-- No call of `put_pending` reads a row. -/
def NoRowReread (clients : DraftClients ι) (input : ι × ClientEvent) : Prop :=
  input.2 = .proceed → ¬ FindsRow clients.directory (clients.phases input.1)

instance (clients : DraftClients ι) (input : ι × ClientEvent) :
    Decidable (NoRowReread clients input) :=
  match input with
  | (i, .proceed) => decidable_of_iff (¬ FindsRow clients.directory (clients.phases i))
      ⟨fun h _ => h, fun h => h rfl⟩
  | (_, .pages _) | (_, .reply _) | (_, .fault) | (_, .crash) => isTrue nofun

/-- The call holds the claim to the key, or has used it. -/
def Claimant (clients : DraftClients ι) (i : ι) : Prop :=
  (clients.phases i).holdsClaim = true ∨ i ∈ clients.posts

/-- The key is claimed at most once, under a name that is taken since. -/
structure KeyClaimed (path : String) (clients : DraftClients ι) : Prop where
  taken : ∀ i, Claimant clients i → (clients.directory.names path).isSome = true
  unique : ∀ i j, Claimant clients i → Claimant clients j → i = j
  once : clients.posts.Nodup
  spent : ∀ i ∈ clients.posts, (clients.phases i).late = true

omit [DecidableEq ι] in
theorem start_keyClaimed (specs : ι → DraftSpec) (directory : Directory) (path : String) :
    KeyClaimed path (DraftClients.start specs directory) := by
  have hnone : ∀ i, ¬ Claimant (DraftClients.start specs directory) i := by
    intro i hclaim
    rcases hclaim with hholds | hposted
    · simp only [DraftClients.start] at hholds
      split at hholds <;> cases hholds
    · cases hposted
  exact
    { taken := fun i hclaim => absurd hclaim (hnone i)
      unique := fun i _ hclaim _ => absurd hclaim (hnone i)
      once := List.nodup_nil
      spent := by
        intro i hposted
        cases hposted }

/-- The `POST`s after a step: those before, and perhaps one of a call that held the claim. -/
theorem clientsStep_posts (sha256 : String → String) (specs : ι → DraftSpec)
    (clients : DraftClients ι) (i : ι) (event : ClientEvent) :
    (clientsStep sha256 specs clients (i, event)).posts = clients.posts ∨
      (clients.phases i = .posting ∧
        (clientsStep sha256 specs clients (i, event)).phases i = .posted ∧
        (clientsStep sha256 specs clients (i, event)).posts = clients.posts ++ [i]) := by
  simp only [clientsStep, Function.update_self]
  split
  · rename_i hsent
    exact Or.inr ⟨hsent.1, hsent.2, rfl⟩
  · exact Or.inl rfl

section Step

variable {i : ι} {event : ClientEvent}

/-- What the step of one call does, read off the system. -/
theorem clientsStep_move (sha256 : String → String) (specs : ι → DraftSpec)
    (clients : DraftClients ι) (event : ClientEvent) (hpath : pathOf sha256 specs i = path) :
    ClientMove path event clients.directory (clients.phases i)
      (clientsStep sha256 specs clients (i, event)).directory
      ((clientsStep sha256 specs clients (i, event)).phases i) := by
  subst hpath
  simpa only [clientsStep, Function.update_self] using
    clientStep_move (pathOf sha256 specs i) (markerOf sha256 specs i) clients.directory
      (clients.phases i) event

theorem clientsStep_phases_of_ne {j : ι} (hj : j ≠ i) :
    (clientsStep sha256 specs clients (i, event)).phases j = clients.phases j :=
  Function.update_of_ne hj _ _

/-- A claimant was one before, or has just created the row. -/
theorem claimant_of_step (hpath : pathOf sha256 specs i = path)
    (hrow : NoRowReread clients (i, event)) {j : ι}
    (hclaim : Claimant (clientsStep sha256 specs clients (i, event)) j) :
    Claimant clients j ∨
      (j = i ∧ clients.directory.names path = none ∧
        ((clientsStep sha256 specs clients (i, event)).directory.names path).isSome = true) := by
  rcases hclaim with hholds | hposted
  · by_cases hj : j = i
    · subst hj
      rcases (clientsStep_move sha256 specs clients event hpath).claims hholds with
        hheld | ⟨hfree, htaken⟩ | ⟨rfl, hfinds⟩
      · exact Or.inl (Or.inl hheld)
      · exact Or.inr ⟨rfl, hfree, htaken⟩
      · exact absurd hfinds (hrow rfl)
    · rw [clientsStep_phases_of_ne hj] at hholds
      exact Or.inl (Or.inl hholds)
  · rcases clientsStep_posts sha256 specs clients i event with
      hsame | ⟨hposting, _, hadded⟩
    · rw [hsame] at hposted
      exact Or.inl (Or.inr hposted)
    · rw [hadded, List.mem_append, List.mem_singleton] at hposted
      rcases hposted with hposted | rfl
      · exact Or.inl (Or.inr hposted)
      · exact Or.inl (Or.inl (by rw [hposting]; rfl))

theorem clientsStep_keyClaimed (hpath : pathOf sha256 specs i = path)
    (h : KeyClaimed path clients) (hrow : NoRowReread clients (i, event)) :
    KeyClaimed path (clientsStep sha256 specs clients (i, event)) := by
  have hmove := clientsStep_move sha256 specs clients event hpath
  -- Whoever creates the row finds the name free, so nobody had claimed it.
  have hfirst : clients.directory.names path = none → ∀ j, ¬ Claimant clients j := by
    intro hfree j hclaim
    have htaken := h.taken j hclaim
    rw [hfree] at htaken
    cases htaken
  refine ⟨?_, ?_, ?_, ?_⟩
  · intro j hclaim
    rcases claimant_of_step hpath hrow hclaim with hclaimed | ⟨_, _, htaken⟩
    · exact hmove.keeps (h.taken j hclaimed)
    · exact htaken
  · intro j k hj hk
    rcases claimant_of_step hpath hrow hj with hj' | ⟨rfl, hfree, _⟩
    · rcases claimant_of_step hpath hrow hk with hk' | ⟨_, hfree, _⟩
      · exact h.unique j k hj' hk'
      · exact absurd hj' (hfirst hfree j)
    · rcases claimant_of_step hpath hrow hk with hk' | ⟨rfl, _, _⟩
      · exact absurd hk' (hfirst hfree k)
      · rfl
  · rcases clientsStep_posts sha256 specs clients i event with
      hsame | ⟨hposting, _, hadded⟩
    · rw [hsame]
      exact h.once
    · -- A call that is about to send has not sent.
      have hunsent : i ∉ clients.posts := by
        intro hsent
        have hlate := h.spent i hsent
        rw [hposting] at hlate
        cases hlate
      rw [hadded]
      exact List.nodup_append.2 ⟨h.once, List.nodup_singleton i, by
        intro j hj k hk hjk
        rw [List.mem_singleton] at hk
        subst hk
        subst hjk
        exact hunsent hj⟩
  · intro j hposted
    by_cases hj : j = i
    · subst hj
      rcases clientsStep_posts sha256 specs clients j event with
        hsame | ⟨_, hsent, _⟩
      · rw [hsame] at hposted
        exact hmove.late (h.spent j hposted)
      · rw [hsent]
        rfl
    · rw [clientsStep_phases_of_ne hj]
      rcases clientsStep_posts sha256 specs clients i event with
        hsame | ⟨_, _, hadded⟩
      · rw [hsame] at hposted
        exact h.spent j hposted
      · rw [hadded, List.mem_append, List.mem_singleton] at hposted
        rcases hposted with hposted | rfl
        · exact h.spent j hposted
        · exact absurd rfl hj

end Step

omit [DecidableEq ι] in
theorem KeyClaimed.posts_length_le (h : KeyClaimed path clients) : clients.posts.length ≤ 1 := by
  have hall : ∀ i ∈ clients.posts, ∀ j ∈ clients.posts, i = j := by
    intro i hi j hj
    exact h.unique i j (Or.inr hi) (Or.inr hj)
  have honce := h.once
  match hposts : clients.posts with
  | [] => simp
  | [i] => simp
  | i :: j :: rest =>
    rw [hposts] at hall honce
    -- Two posts would be of one call, which posts once.
    have heq : i = j := hall i (by simp) j (by simp)
    subst heq
    simp at honce

/-- In every run of any number of calls for one key in which no `put_pending` reads a row, at most
one `POST` is sent. -/
theorem posts_at_most_once (sha256 : String → String) (specs : ι → DraftSpec)
    (hkey : OneKey sha256 specs) (directory : Directory) (inputs : List (ι × ClientEvent))
    (hrun : Along (clientsStep sha256 specs) NoRowReread (DraftClients.start specs directory)
      inputs) :
    (runFrom (clientsStep sha256 specs) (DraftClients.start specs directory) inputs).posts.length ≤
      1 := by
  cases inputs with
  | nil => simp [DraftClients.start]
  | cons input inputs =>
    -- Any call names the row.
    have hstep : ∀ clients next, KeyClaimed (pathOf sha256 specs input.1) clients →
        NoRowReread clients next →
          KeyClaimed (pathOf sha256 specs input.1) (clientsStep sha256 specs clients next) := by
      intro clients next h hrow
      exact clientsStep_keyClaimed (hkey.pathOf_eq next.1 input.1) h hrow
    have hstart := start_keyClaimed specs directory (pathOf sha256 specs input.1)
    exact (runFrom_invariant_along hstep hstart hrun).posts_length_le

end System

/-! ## Two calls -/

/-- The shop has no drafts. -/
def noDrafts : Nat → Reply :=
  fun _ => .ok (.obj [("results", .arr []), ("count", .int 0)])

def plannerSpec : DraftSpec :=
  { productId := 1
    specVersion := 1
    shopId := 9
    title := "Weekly planner"
    description := "A printable planner."
    price := "4.00"
    quantity := 1
    whoMade := "i_did"
    whenMade := "2020_2026"
    taxonomyId := 1 }

/-- `sha256` at the one text that is hashed below. -/
def plannerSha256 : String → String :=
  fun _ => "3fc5ceb2cccf50d74f99a75ba95f9248d15b6634093d3f4ba2ded5aaaec507fa"

def emptyDirectory : Directory :=
  { names := fun _ => none
    contents := fun _ => ""
    next := 0 }

/-- Both calls find no row and walk the empty shop twice. -/
def bothLookedUp : List (Bool × ClientEvent) :=
  [(false, .proceed), (true, .proceed),
    (false, .pages noDrafts), (true, .pages noDrafts),
    (false, .pages noDrafts), (true, .pages noDrafts)]

/-- The first call creates the pending file and sends its `POST`; the second finds the file. -/
def secondRereads : List (Bool × ClientEvent) :=
  bothLookedUp ++
    [(false, .proceed), (false, .proceed), (false, .proceed), (false, .proceed), (false, .proceed),
      (true, .proceed), (true, .proceed), (true, .proceed), (true, .proceed)]

/-- Two calls for one key, each past its first look at the ledger, send two `POST`s. -/
theorem two_posts :
    ¬ ∀ (sha256 : String → String) (specs : Bool → DraftSpec), OneKey sha256 specs →
      ∀ (directory : Directory) (inputs : List (Bool × ClientEvent)),
        (runFrom (clientsStep sha256 specs) (DraftClients.start specs directory)
          inputs).posts.length ≤ 1 := by
  intro hall
  have hlength := hall plannerSha256 (fun _ => plannerSpec) (fun _ _ => ⟨rfl, rfl⟩) emptyDirectory
    secondRereads
  revert hlength
  decide +kernel

/-- The second call looks for the file before the first one creates it, and loses the race. -/
def secondLosesRace : List (Bool × ClientEvent) :=
  bothLookedUp ++
    [(false, .proceed), (true, .proceed), (false, .proceed), (true, .proceed), (false, .proceed),
      (false, .proceed), (false, .proceed)]

theorem posts_at_most_once_secondLosesRace :
    (runFrom (clientsStep plannerSha256 (fun _ : Bool => plannerSpec))
      (DraftClients.start (fun _ => plannerSpec) emptyDirectory) secondLosesRace).posts = [false] ∧
    (runFrom (clientsStep plannerSha256 (fun _ : Bool => plannerSpec))
      (DraftClients.start (fun _ => plannerSpec) emptyDirectory) secondLosesRace).posts.length ≤
        1 := by
  refine ⟨by decide +kernel, ?_⟩
  refine posts_at_most_once plannerSha256 (fun _ => plannerSpec) (fun _ _ => ⟨rfl, rfl⟩)
    emptyDirectory secondLosesRace ?_
  decide +kernel

end Integrations
end MoneyMachine
