import MoneyMachine.Domain.Basic
import MoneyMachine.Library.Runs

/-!
# ReviewSubagent — the review budget of one agent run

`ReviewSubagentCoordinator.request_review` tests the count of recorded reviews, awaits the provider,
and charges the count afterwards.  Between two awaits nothing else runs, so a call is cut in two:

* `requestReview` : up to the await, a refusal or the call of `complete_structured`;
* `resumeReview`  : what the answer does.

`reviewStep` interleaves any number of calls.  A review in flight is not charged yet, and one that
ended by an exception or by its token limit never is; `reviews_within_budget` says that these are the
only ways past the budget.
-/

namespace MoneyMachine
namespace Agents
namespace Review

open MoneyMachine.Domain
open MoneyMachine.Library

/-! ## Requests and artifacts -/

def defaultMaxReviewsPerJob : Int := 3

def defaultMaxTokensPerReview : Int := 4096

structure ReviewSubagentBounds where
  maxReviewsPerJob : Int := defaultMaxReviewsPerJob
  maxTokensPerReview : Int := defaultMaxTokensPerReview
  deriving DecidableEq, Repr

structure ReviewSubagentRequest where
  specialistRole : String
  subjectSummary : String
  reviewPrompt : String
  deriving DecidableEq, Repr

/-- What `request_review` passes to `complete_structured`, the messages as role and content. -/
structure CompletionCall where
  messages : List (String × String)
  promptVersion : String
  deriving DecidableEq, Repr

structure LLMCallMetadata where
  modelName : String
  totalTokens : Option Nat
  deriving DecidableEq, Repr

structure StructuredLLMResponse (Result : Type) where
  content : Result
  metadata : LLMCallMetadata
  deriving DecidableEq, Repr

structure ReviewSubagentArtifact (Result : Type) where
  reviewNumber : Nat
  specialistRole : String
  result : Result
  model : Option String
  tokenCount : Option Nat
  deriving DecidableEq, Repr

/-- A `ReviewSubagentBudgetError`, or what the provider raised. -/
inductive ReviewError (ε : Type)
  | budget (message : String)
  | provider (error : ε)
  deriving DecidableEq, Repr

structure ReviewSubagentCoordinator (Result : Type) where
  jobId : Uuid
  bounds : ReviewSubagentBounds
  reviewCount : Nat := 0
  artifacts : List (ReviewSubagentArtifact Result) := []

variable {Result ε : Type}

/-! ## One call -/

def reviewMessages (request : ReviewSubagentRequest) : List (String × String) :=
  [("system",
      "You are a bounded internal review specialist. " ++
      "Return structured findings and a verdict only. " ++
      "Do not mutate external providers."),
    ("user",
      "Specialist role: " ++ request.specialistRole ++ "\n" ++
      "Subject: " ++ request.subjectSummary ++ "\n" ++
      "Review focus:\n" ++ request.reviewPrompt)]

/-- `request_review` up to its await. -/
def requestReview (c : ReviewSubagentCoordinator Result) (request : ReviewSubagentRequest) :
    Except (ReviewError ε) CompletionCall :=
  if c.bounds.maxReviewsPerJob ≤ c.reviewCount then
    .error (.budget
      ("review budget exhausted for job " ++ uuidStr c.jobId ++ ": max " ++
        toString c.bounds.maxReviewsPerJob ++ " reviews per job"))
  else
    .ok
      { messages := reviewMessages request
        promptVersion := "review:" ++ request.specialistRole }

/-- `token_count is not None and token_count > max_tokens_per_review`. -/
def overTokens (bounds : ReviewSubagentBounds) : Option Nat → Option Nat
  | none => none
  | some tokens => if bounds.maxTokensPerReview < tokens then some tokens else none

/-- `request_review` from its await on. -/
def resumeReview (c : ReviewSubagentCoordinator Result) (request : ReviewSubagentRequest) :
    Except ε (StructuredLLMResponse Result) →
      Except (ReviewError ε) (ReviewSubagentArtifact Result) × ReviewSubagentCoordinator Result
  | .error error => (.error (.provider error), c)
  | .ok response =>
    match overTokens c.bounds response.metadata.totalTokens with
    | some tokens =>
      -- The provider was called, the count was not.
      (.error (.budget
        ("review token budget exceeded for job " ++ uuidStr c.jobId ++ ": " ++
          toString tokens ++ " > " ++ toString c.bounds.maxTokensPerReview)), c)
    | none =>
      let artifact : ReviewSubagentArtifact Result :=
        { reviewNumber := c.reviewCount + 1
          specialistRole := request.specialistRole
          result := response.content
          model := some response.metadata.modelName
          tokenCount := response.metadata.totalTokens }
      (.ok artifact,
        { c with
          reviewCount := c.reviewCount + 1
          artifacts := c.artifacts ++ [artifact] })

section Calls

variable (c : ReviewSubagentCoordinator Result) (request : ReviewSubagentRequest)
  (outcome : Except ε (StructuredLLMResponse Result))

theorem requestReview_isOk_iff :
    (∃ call, requestReview (ε := ε) c request = .ok call) ↔
      (c.reviewCount : Int) < c.bounds.maxReviewsPerJob := by
  unfold requestReview
  split_ifs with hspent
  · simp [not_lt.2 hspent]
  · simp [not_le.1 hspent]

/-- A call that raises leaves the coordinator as it was; one that returns charges one review and
appends its artifact, numbered by the new count. -/
theorem resumeReview_cases :
    (∃ error, resumeReview c request outcome = (.error error, c)) ∨
      ∃ artifact, artifact.reviewNumber = c.reviewCount + 1 ∧
        overTokens c.bounds artifact.tokenCount = none ∧
        resumeReview c request outcome =
          (.ok artifact,
            { c with
              reviewCount := c.reviewCount + 1
              artifacts := c.artifacts ++ [artifact] }) := by
  cases outcome with
  | error error => exact Or.inl ⟨_, rfl⟩
  | ok response =>
    simp only [resumeReview]
    cases htokens : overTokens c.bounds response.metadata.totalTokens with
    | some tokens => exact Or.inl ⟨_, rfl⟩
    | none => exact Or.inr ⟨_, rfl, htokens, rfl⟩

end Calls

/-! ## Interleaved calls -/

/-- Where one call of `request_review` stands. -/
inductive ReviewCall (Result ε : Type)
  | refused (error : ReviewError ε)
  | awaiting (request : ReviewSubagentRequest)
  | raised (error : ReviewError ε)
  | returned (artifact : ReviewSubagentArtifact Result)

namespace ReviewCall

def isAwaiting : ReviewCall Result ε → Bool
  | .awaiting _ => true
  | _ => false

def isRaised : ReviewCall Result ε → Bool
  | .raised _ => true
  | _ => false

/-- How a call ends after its await. -/
def ended : Except (ReviewError ε) (ReviewSubagentArtifact Result) → ReviewCall Result ε
  | .error error => .raised error
  | .ok artifact => .returned artifact

end ReviewCall

/-- One coordinator, its calls in the order they were made, and what the provider was called with. -/
structure Reviews (Result ε : Type) where
  coordinator : ReviewSubagentCoordinator Result
  calls : List (ReviewCall Result ε) := []
  completions : List CompletionCall := []

/-- A new call runs to its await, or an awaiting call goes on with what its provider call became. -/
inductive ReviewEvent (Result ε : Type)
  | request (request : ReviewSubagentRequest)
  | resume (call : Nat) (outcome : Except ε (StructuredLLMResponse Result))

def reviewStep (s : Reviews Result ε) : ReviewEvent Result ε → Reviews Result ε
  | .request request =>
    match requestReview s.coordinator request with
    | .error error => { s with calls := s.calls ++ [.refused error] }
    | .ok completion =>
      { s with
        calls := s.calls ++ [.awaiting request]
        completions := s.completions ++ [completion] }
  | .resume call outcome =>
    match s.calls[call]? with
    | some (.awaiting request) =>
      { s with
        coordinator := (resumeReview s.coordinator request outcome).2
        calls := s.calls.set call (.ended (resumeReview s.coordinator request outcome).1) }
    | _ => s

namespace Reviews

def start (jobId : Uuid) (bounds : ReviewSubagentBounds) : Reviews Result ε :=
  { coordinator := { jobId := jobId, bounds := bounds } }

/-- Reviews that wait for the provider. -/
def inFlight (s : Reviews Result ε) : Nat :=
  s.calls.countP ReviewCall.isAwaiting

/-- Reviews that reached the provider and ended without an artifact. -/
def uncharged (s : Reviews Result ε) : Nat :=
  s.calls.countP ReviewCall.isRaised

/-- No more reviews than the limit, as none is let through when the limit is negative. -/
def limit (s : Reviews Result ε) : Nat :=
  s.coordinator.bounds.maxReviewsPerJob.toNat

/-- The provider was called at most as often as the limit says, and the artifacts are numbered
`1, …, n` with `n` within the limit. -/
def WithinBudget (s : Reviews Result ε) : Prop :=
  s.completions.length ≤ s.limit ∧
    ∃ n ≤ s.limit, s.coordinator.artifacts.map ReviewSubagentArtifact.reviewNumber = List.range' 1 n

/-- A review that the count lets through finds room for those in flight and those never charged. -/
def LeavesBudget (s : Reviews Result ε) : ReviewEvent Result ε → Prop
  | .request _ =>
    s.coordinator.reviewCount < s.coordinator.bounds.maxReviewsPerJob →
      s.coordinator.reviewCount + s.inFlight + s.uncharged < s.limit
  | .resume _ _ => True

/-! ## What the count counts -/

/-- Every call of the provider is recorded, in flight or uncharged, and the artifacts are numbered by
the count. -/
structure Accounted (s : Reviews Result ε) : Prop where
  completions : s.completions.length = s.coordinator.reviewCount + s.inFlight + s.uncharged
  numbers : s.coordinator.artifacts.map ReviewSubagentArtifact.reviewNumber =
    List.range' 1 s.coordinator.reviewCount
  tokens : ∀ artifact ∈ s.coordinator.artifacts,
    overTokens s.coordinator.bounds artifact.tokenCount = none

theorem accounted_start (jobId : Uuid) (bounds : ReviewSubagentBounds) :
    (start jobId bounds : Reviews Result ε).Accounted := by
  refine ⟨rfl, rfl, ?_⟩
  intro artifact hmem
  cases hmem

end Reviews

section Step

variable {s : Reviews Result ε}

/-- The bounds are never changed. -/
theorem reviewStep_bounds (s : Reviews Result ε) (event : ReviewEvent Result ε) :
    (reviewStep s event).coordinator.bounds = s.coordinator.bounds := by
  cases event with
  | request request =>
    cases hcall : requestReview (ε := ε) s.coordinator request <;> simp [reviewStep, hcall]
  | resume call outcome =>
    simp only [reviewStep]
    split
    · rename_i request hget
      rcases resumeReview_cases s.coordinator request outcome with
        ⟨error, hresume⟩ | ⟨artifact, _, _, hresume⟩ <;> simp [hresume]
    · rfl

theorem reviewStep_accounted (h : s.Accounted) (event : ReviewEvent Result ε) :
    (reviewStep s event).Accounted := by
  cases event with
  | request request =>
    cases hcall : requestReview (ε := ε) s.coordinator request with
    | error error =>
      refine ⟨?_, ?_, ?_⟩
      · simpa [reviewStep, hcall, Reviews.inFlight, Reviews.uncharged, ReviewCall.isAwaiting,
          ReviewCall.isRaised] using h.completions
      · simpa [reviewStep, hcall] using h.numbers
      · simpa [reviewStep, hcall] using h.tokens
    | ok completion =>
      refine ⟨?_, ?_, ?_⟩
      · have hlength := h.completions
        simp only [reviewStep, hcall, Reviews.inFlight, Reviews.uncharged, List.length_append,
          List.length_singleton, List.countP_append, List.countP_singleton,
          ReviewCall.isAwaiting, ReviewCall.isRaised] at hlength ⊢
        simp only [if_true, Bool.false_eq_true, if_false]
        omega
      · simpa [reviewStep, hcall] using h.numbers
      · simpa [reviewStep, hcall] using h.tokens
  | resume call outcome =>
    simp only [reviewStep]
    split
    · rename_i request hget
      -- The call in flight becomes a recorded or an uncharged one.
      rcases List.getElem?_eq_some_iff.1 hget with ⟨hlt, hcall⟩
      have hflight : 0 < s.calls.countP ReviewCall.isAwaiting := by
        apply List.countP_pos_iff.2
        exact ⟨_, List.mem_of_getElem? hget, rfl⟩
      have hlength := h.completions
      simp only [Reviews.inFlight, Reviews.uncharged] at hlength
      rcases resumeReview_cases s.coordinator request outcome with
        ⟨error, hresume⟩ | ⟨artifact, hnumber, htokens, hresume⟩
      · rw [hresume]
        refine ⟨?_, h.numbers, h.tokens⟩
        simp only [Reviews.inFlight, Reviews.uncharged, List.countP_set hlt, hcall,
          ReviewCall.isAwaiting, ReviewCall.isRaised, ReviewCall.ended]
        simp only [if_true, Bool.false_eq_true, if_false]
        omega
      · rw [hresume]
        refine ⟨?_, ?_, ?_⟩
        · simp only [Reviews.inFlight, Reviews.uncharged, List.countP_set hlt, hcall,
            ReviewCall.isAwaiting, ReviewCall.isRaised, ReviewCall.ended]
          simp only [if_true, Bool.false_eq_true, if_false]
          omega
        · simp only [List.map_append, List.map_cons, List.map_nil, h.numbers, hnumber,
            List.range'_1_concat]
          rw [Nat.add_comm]
        · intro old hold
          rcases List.mem_append.1 hold with hold | hold
          · exact h.tokens old hold
          · cases List.mem_singleton.1 hold
            exact htokens
    · exact h

/-- A step keeps the budget exactly when it is not a review let through past it. -/
theorem reviewStep_withinBudget_iff (h : s.Accounted) (hbudget : s.WithinBudget)
    (event : ReviewEvent Result ε) :
    (reviewStep s event).WithinBudget ↔ s.LeavesBudget event := by
  have hlimit : (reviewStep s event).limit = s.limit := by
    simp only [Reviews.limit, reviewStep_bounds]
  have hnext := reviewStep_accounted h event
  have hnumbers : (reviewStep s event).WithinBudget ↔
      (reviewStep s event).completions.length ≤ s.limit := by
    rw [Reviews.WithinBudget, hlimit]
    constructor
    · exact fun hw => hw.1
    · intro hle
      have hcount := hnext.completions
      exact ⟨hle, _, by omega, hnext.numbers⟩
  rw [hnumbers]
  have hle : s.completions.length ≤ s.limit := hbudget.1
  have hcount := h.completions
  cases event with
  | resume call outcome =>
    simp only [reviewStep, Reviews.LeavesBudget, iff_true]
    split <;> exact hle
  | request request =>
    simp only [Reviews.LeavesBudget]
    by_cases hroom : (s.coordinator.reviewCount : Int) < s.coordinator.bounds.maxReviewsPerJob
    · rcases (requestReview_isOk_iff (ε := ε) s.coordinator request).2 hroom with
        ⟨completion, hcall⟩
      simp only [reviewStep, hcall, List.length_append, List.length_singleton, hroom,
        forall_const]
      omega
    · have hrefused : ∃ error, requestReview (ε := ε) s.coordinator request = .error error := by
        cases hcall : requestReview (ε := ε) s.coordinator request with
        | error error => exact ⟨error, rfl⟩
        | ok completion => exact absurd ((requestReview_isOk_iff s.coordinator request).1 ⟨completion, hcall⟩) hroom
      rcases hrefused with ⟨error, hcall⟩
      simp only [reviewStep, hcall, hroom, false_implies, iff_true]
      exact hle

end Step

/-! ## Runs -/

/-- The provider is called within the limit in every state of a run, and the artifacts are numbered
`1, …, n` within it, exactly when every review the count lets through finds room for the reviews in
flight and those that were never charged. -/
theorem reviews_within_budget (jobId : Uuid) (bounds : ReviewSubagentBounds)
    (events : List (ReviewEvent Result ε)) :
    (∀ n, (runFrom reviewStep (Reviews.start jobId bounds) (events.take n)).WithinBudget) ↔
      Along reviewStep Reviews.LeavesBudget (Reviews.start jobId bounds) events := by
  have hstart : (Reviews.start jobId bounds : Reviews Result ε).WithinBudget :=
    ⟨Nat.zero_le _, 0, Nat.zero_le _, rfl⟩
  -- The accounting is kept by every step, so it can be carried along with the budget.
  have hstep : ∀ (s : Reviews Result ε) (event : ReviewEvent Result ε),
      s.WithinBudget ∧ s.Accounted → True →
        ((reviewStep s event).WithinBudget ∧ (reviewStep s event).Accounted ↔
          s.LeavesBudget event) := by
    rintro s event ⟨hbudget, haccounted⟩ -
    have hkeeps := reviewStep_withinBudget_iff haccounted hbudget event
    exact ⟨fun hnext => hkeeps.1 hnext.1,
      fun hleaves => ⟨hkeeps.2 hleaves, reviewStep_accounted haccounted event⟩⟩
  have hboth : (∀ n, (runFrom reviewStep (Reviews.start jobId bounds) (events.take n)).WithinBudget ∧
      (runFrom reviewStep (Reviews.start jobId bounds) (events.take n)).Accounted) ↔
        Along reviewStep Reviews.LeavesBudget (Reviews.start jobId bounds) events :=
    along_iff_forall_take (p := fun _ => True)
      (I := fun s : Reviews Result ε => s.WithinBudget ∧ s.Accounted) hstep
      ⟨hstart, Reviews.accounted_start jobId bounds⟩ (fun event _ => trivial)
  rw [← hboth]
  constructor
  · intro hall n
    exact ⟨hall n, runFrom_invariant (I := Reviews.Accounted)
      (fun s event hs => reviewStep_accounted hs event) (Reviews.accounted_start jobId bounds) _⟩
  · intro hall n
    exact (hall n).1

/-- Four reviews requested before the first answer, and four reviews one after the other whose provider
call raises: with a limit of three the provider is called four times. -/
theorem fourth_review_started :
    (¬ (runFrom reviewStep (Reviews.start 7 {} : Reviews Unit Unit)
        (List.replicate 4 (.request ⟨"editor", "copy", "tone"⟩))).WithinBudget) ∧
      ¬ (runFrom reviewStep (Reviews.start 7 {} : Reviews Unit Unit)
        ((List.range 4).flatMap (fun call =>
          [.request ⟨"editor", "copy", "tone"⟩, .resume call (.error ())]))).WithinBudget := by
  constructor
  · intro h
    exact absurd h.1 (by decide)
  · intro h
    exact absurd h.1 (by decide)

end Review
end Agents
end MoneyMachine
