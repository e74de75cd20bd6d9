import MoneyMachine.Library.Bytes
import MoneyMachine.Library.Json

/-!
# LlmProvider — what a structured completion may raise

`complete_structured` sends a request again after a timeout or a transport error, and reads the first
answer with a status of success.  Reading it takes five steps: the body, the content of its first
choice, the text of that content, the response model, and the counts of its usage.  Each step raises
exceptions of its own, and only some of them become errors of the provider.

Decoders are parameters: a `Reader` gives the value or the exception of `response.json()` and of
`json.loads`, and `validate` that of `model_validate`.

* `attempts_requests`  : no request follows an answer, and no more are sent than the retries allow;
* `keepsContract_iff`  : over all sequences of outcomes, exactly when the error contract is kept.
-/

namespace MoneyMachine
namespace Integrations
namespace Llm

open MoneyMachine.Library
open MoneyMachine.Library.Json

/-! ## Exceptions -/

/-- Classes of exceptions; `other` is one that no handler below names. -/
inductive ErrorClass
  | llmProviderError
  | llmTimeoutError
  | llmValidationError
  | keyError
  | indexError
  | typeError
  | attributeError
  | overflowError
  | jsonDecodeError
  | validationError
  | other
  deriving DecidableEq

/-- What `json.loads` raises; a number with too many digits, for one, is no `JSONDecodeError`. -/
inductive DecodeError
  | jsonDecodeError (text : String)
  | other (text : String)

/-- What `model_validate` raises; a validator of the model may raise something else.  That is taken to be
no exception of a request: the handlers around the request would catch a `TimeoutError` of a validator
and send it again. -/
inductive ModelError
  | validationError (text : String)
  | other (text : String)

structure Raised where
  cls : ErrorClass
  message : String

/-- `LLMProviderError` or one of its subclasses. -/
def ErrorClass.isProviderError : ErrorClass → Bool
  | .llmProviderError | .llmTimeoutError | .llmValidationError => true
  | _ => false

def DecodeError.raised : DecodeError → Raised
  | .jsonDecodeError text => ⟨.jsonDecodeError, text⟩
  | .other text => ⟨.other, text⟩

/-- What stands outside: `response.json()`, and `json.loads` of a text. -/
structure Reader where
  body : Bytes → Except DecodeError Value
  text : Text → Except DecodeError Value

/-! ## Reading values -/

/-- `type(value).__name__`. -/
def typeName : Value → String
  | .null => "NoneType"
  | .bool _ => "bool"
  | .int _ => "int"
  | .float _ => "float"
  | .str _ => "str"
  | .arr _ => "list"
  | .obj _ => "dict"

/-- `value[key]` for a text. -/
def getItem (key : String) : Value → Except Raised Value
  | .obj members =>
    match members.lookup (lit key) with
    | some value => .ok value
    | none => .error ⟨.keyError, "'" ++ key ++ "'"⟩
  | .arr _ => .error ⟨.typeError, "list indices must be integers or slices, not str"⟩
  | .str _ => .error ⟨.typeError, "string indices must be integers, not 'str'"⟩
  | value => .error ⟨.typeError, "'" ++ typeName value ++ "' object is not subscriptable"⟩

/-- `value[0]`. -/
def getFirst : Value → Except Raised Value
  | .arr (value :: _) => .ok value
  | .arr [] => .error ⟨.indexError, "list index out of range"⟩
  | .str (c :: _) => .ok (.str [c])
  | .str [] => .error ⟨.indexError, "string index out of range"⟩
  | .obj _ => .error ⟨.keyError, "0"⟩
  | value => .error ⟨.typeError, "'" ++ typeName value ++ "' object is not subscriptable"⟩

/-- `value.get(key)`. -/
def getMember (key : String) : Value → Except Raised (Option Value)
  | .obj members => .ok (members.lookup (lit key))
  | value => .error ⟨.attributeError, "'" ++ typeName value ++ "' object has no attribute 'get'"⟩

/-- `response_data["choices"][0]["message"]["content"]`. -/
def messageContent (data : Value) : Except Raised Value := do
  let choices ← getItem "choices" data
  let choice ← getFirst choices
  let message ← getItem "message" choice
  getItem "content" message

/-- The content, or the provider error that stands for its absence. -/
def extractContent (data : Value) : Except Raised Value :=
  match messageContent data with
  | .ok content => .ok content
  | .error e =>
    if e.cls ∈ [.keyError, .indexError, .typeError] then
      .error ⟨.llmProviderError, "Unexpected API response structure: " ++ e.message⟩
    else
      .error e

section Provider

variable {T : Type} (reader : Reader) (validate : Value → Except ModelError T)

/-- `validate_structured_output`. -/
def validateStructuredOutput : Value → Except Raised T
  | .str text =>
    match reader.text text with
    | .error (.jsonDecodeError e) =>
      .error ⟨.llmValidationError, "Failed to parse LLM response as JSON: " ++ e⟩
    | .error (.other e) => .error ⟨.other, e⟩
    | .ok data =>
      match validate data with
      | .error (.validationError e) =>
        .error ⟨.llmValidationError, "LLM response failed schema validation: " ++ e⟩
      | .error (.other e) => .error ⟨.other, e⟩
      | .ok content => .ok content
  | value =>
    .error ⟨.typeError, "the JSON object must be str, bytes or bytearray, not " ++ typeName value⟩

/-! ## Metadata -/

structure LLMCallMetadata where
  modelName : String
  promptVersion : Option String
  promptTokens : Option Nat
  completionTokens : Option Nat
  totalTokens : Option Nat

/-- A count as a strict, non-negative `int | None`; a member left out is `None`. -/
def tokenCount : Option Value → Except Raised (Option Nat)
  | none => .ok none
  | some .null => .ok none
  | some (.int n) =>
    if 0 ≤ n then
      .ok (some n.toNat)
    else
      .error ⟨.validationError, "Input should be greater than or equal to 0"⟩
  | some _ => .error ⟨.validationError, "Input should be a valid integer"⟩

structure StructuredLLMResponse (T : Type) where
  content : T
  metadata : LLMCallMetadata

/-- What a call passes on unread, with the text of its timeout. -/
structure CallSettings where
  modelName : String
  promptVersion : Option String
  timeoutSeconds : String

variable (settings : CallSettings)

/-- `LLMCallMetadata(..)` from the usage of an answer. -/
def readMetadata (data : Value) : Except Raised LLMCallMetadata := do
  let usage := (← getMember "usage" data).getD (.obj [])
  let promptTokens ← getMember "prompt_tokens" usage
  let completionTokens ← getMember "completion_tokens" usage
  let totalTokens ← getMember "total_tokens" usage
  let promptTokens ← tokenCount promptTokens
  let completionTokens ← tokenCount completionTokens
  let totalTokens ← tokenCount totalTokens
  .ok
    { modelName := settings.modelName
      promptVersion := settings.promptVersion
      promptTokens := promptTokens
      completionTokens := completionTokens
      totalTokens := totalTokens }

/-- The body of the `try` block, behind the request. -/
def readReply (body : Bytes) : Except Raised (StructuredLLMResponse T) := do
  let data ← (reader.body body).mapError DecodeError.raised
  let rawContent ← extractContent data
  let content ← validateStructuredOutput reader validate rawContent
  let metadata ← readMetadata settings data
  .ok { content := content, metadata := metadata }

/-! ## Attempts -/

/-- What a request ends with. -/
inductive HttpOutcome
  | timeout
  /-- `HTTPStatusError` or `RequestError`, with its text. -/
  | failure (text : String)
  /-- An answer with a status of success. -/
  | response (body : Bytes)

def HttpOutcome.isResponse : HttpOutcome → Bool
  | .response _ => true
  | _ => false

/-- The requests that were sent, by their outcomes, and what the call ended with. -/
structure Call (T : Type) where
  requests : List HttpOutcome
  result : Except Raised (StructuredLLMResponse T)

/-- The last attempt whose delay is a float. -/
def sleepLimit : Nat := 1023

/-- What goes on after a failed attempt that is not the last: a sleep of `2 ** attempt` seconds, which
no float can hold from attempt 1024 on. -/
def retryAfter (outcome : HttpOutcome) (attempt : Nat) (rest : Call T) : Call T :=
  if sleepLimit < attempt then
    { requests := [outcome], result := .error ⟨.overflowError, "int too large to convert to float"⟩ }
  else
    { rest with requests := outcome :: rest.requests }

variable (outcomes : Nat → HttpOutcome) (retries : Nat)

/-- `for attempt in range(retries + 1)`, with the attempts that remain. -/
def attempts : Nat → Nat → Call T
  | 0, _ =>
    { requests := []
      result := .error ⟨.llmProviderError, "Failed after " ++ toString (retries + 1) ++ " attempts"⟩ }
  | remaining + 1, attempt =>
    match outcomes attempt with
    | .response body =>
      { requests := [.response body], result := readReply reader validate settings body }
    | .timeout =>
      if attempt = retries then
        { requests := [.timeout]
          result := .error ⟨.llmTimeoutError, "Request timed out after " ++
            settings.timeoutSeconds ++ "s (attempt " ++ toString (attempt + 1) ++ "/" ++
              toString (retries + 1) ++ ")"⟩ }
      else
        retryAfter .timeout attempt (attempts remaining (attempt + 1))
    | .failure text =>
      if attempt = retries then
        { requests := [.failure text]
          result := .error ⟨.llmProviderError, "HTTP request failed after " ++
            toString (retries + 1) ++ " attempts: " ++ text⟩ }
      else
        retryAfter (.failure text) attempt (attempts remaining (attempt + 1))

/-- `DEFAULT_MAX_RETRIES`. -/
def defaultMaxRetries : Nat := 3

/-- `complete_structured`. -/
def completeStructured (maxRetries : Option Nat) : Call T :=
  let retries := maxRetries.getD defaultMaxRetries
  attempts reader validate settings outcomes retries (retries + 1) 0

end Provider

/-! ## Requests -/

section Requests

variable {T : Type} {reader : Reader} {validate : Value → Except ModelError T} {settings : CallSettings}
  {outcomes : Nat → HttpOutcome} {retries : Nat}

/-- No more requests than allowed, and none behind an answer. -/
def RequestsEnd (limit : Nat) (requests : List HttpOutcome) : Prop :=
  requests.length ≤ limit ∧ ∀ earlier outcome later, requests = earlier ++ outcome :: later →
    outcome.isResponse = true → later = []

theorem requestsEnd_single (outcome : HttpOutcome) (limit : Nat) :
    RequestsEnd (limit + 1) [outcome] := by
  refine ⟨by simp, ?_⟩
  intro earlier other later h _
  have hlength := congrArg List.length h
  simp only [List.length_append, List.length_cons, List.length_nil] at hlength
  apply List.eq_nil_of_length_eq_zero
  omega

theorem requestsEnd_cons {outcome : HttpOutcome} {limit : Nat} {requests : List HttpOutcome}
    (hfailed : outcome.isResponse = false) (h : RequestsEnd limit requests) :
    RequestsEnd (limit + 1) (outcome :: requests) := by
  refine ⟨Nat.succ_le_succ h.1, ?_⟩
  intro earlier other later hsplit hresponse
  cases earlier with
  | nil =>
    obtain ⟨rfl, -⟩ := List.cons.inj hsplit
    rw [hfailed] at hresponse
    exact absurd hresponse Bool.false_ne_true
  | cons first earlier => exact h.2 earlier other later (List.cons.inj hsplit).2 hresponse

theorem requestsEnd_retryAfter {outcome : HttpOutcome} {attempt limit : Nat} {rest : Call T}
    (hfailed : outcome.isResponse = false) (h : RequestsEnd limit rest.requests) :
    RequestsEnd (limit + 1) (retryAfter outcome attempt rest).requests := by
  unfold retryAfter
  split_ifs
  · exact requestsEnd_single outcome limit
  · exact requestsEnd_cons hfailed h

/-- Over the attempts that remain: each sends one request, and an answer is the last of them. -/
theorem attempts_requests (remaining attempt : Nat) :
    RequestsEnd remaining
      (attempts reader validate settings outcomes retries remaining attempt).requests := by
  induction remaining generalizing attempt with
  | zero => exact ⟨Nat.le_refl 0, by simp [attempts]⟩
  | succ remaining ih =>
    rw [attempts]
    cases outcomes attempt with
    | response body => exact requestsEnd_single _ remaining
    | timeout =>
      dsimp only
      split_ifs
      · exact requestsEnd_single _ remaining
      · exact requestsEnd_retryAfter rfl (ih (attempt + 1))
    | failure text =>
      dsimp only
      split_ifs
      · exact requestsEnd_single _ remaining
      · exact requestsEnd_retryAfter rfl (ih (attempt + 1))

end Requests

/-! ## Reading an answer -/

section Reading

/-- `data["choices"][0]["message"]["content"]`, where there is one. -/
def contentAt : Value → Option Value
  | .obj members =>
    match members.lookup (lit "choices") with
    | some (.arr (.obj choice :: _)) =>
      match choice.lookup (lit "message") with
      | some (.obj message) => message.lookup (lit "content")
      | _ => none
    | _ => none
  | _ => none

/-- A count that is left out, null, or an integer from zero. -/
def Counted : Option Value → Prop
  | none => True
  | some .null => True
  | some (.int n) => 0 ≤ n
  | some _ => False

/-- No usage, or an object whose three counts are counts. -/
def UsageCounted : Value → Prop
  | .obj members =>
    match members.lookup (lit "usage") with
    | none => True
    | some (.obj usage) =>
      Counted (usage.lookup (lit "prompt_tokens")) ∧
        Counted (usage.lookup (lit "completion_tokens")) ∧
          Counted (usage.lookup (lit "total_tokens"))
    | some _ => False
  | _ => True

variable {T : Type} (reader : Reader) (validate : Value → Except ModelError T)

/-- An answer that is JSON, and whose content, if it has one, is a text that the decoder and the model
either accept or refuse with their own exceptions; with an accepted content, the usage is counted. -/
def Readable (body : Bytes) : Prop :=
  ∃ data, reader.body body = .ok data ∧ ∀ content, contentAt data = some content →
    ∃ text, content = .str text ∧ (∀ e, reader.text text ≠ .error (.other e)) ∧
      ∀ value, reader.text text = .ok value → (∀ e, validate value ≠ .error (.other e)) ∧
        ∀ accepted, validate value = .ok accepted → UsageCounted data

variable {reader validate} {settings : CallSettings}

/-- A result is within the contract if it is no exception but those of the provider. -/
def Contained {R : Type} (result : Except Raised R) : Prop :=
  ∀ e, result = .error e → e.cls.isProviderError = true

theorem contained_ok {R : Type} (r : R) : Contained (.ok r : Except Raised R) := by
  intro e he
  cases he

theorem contained_error {R : Type} {e : Raised} :
    Contained (.error e : Except Raised R) ↔ e.cls.isProviderError = true := by
  constructor
  · intro h
    exact h e rfl
  · intro h e' he
    cases he
    exact h

theorem contained_bind_ok {R S : Type} {a : R} {f : R → Except Raised S} :
    Contained (Except.ok a >>= f) ↔ Contained (f a) :=
  Iff.rfl

/-- An exception of a place that is not there. -/
def Raised.Missing (e : Raised) : Prop :=
  e.cls ∈ [ErrorClass.keyError, .indexError, .typeError]

theorem getItem_cases (key : String) (value : Value) :
    (∃ members found, value = .obj members ∧ members.lookup (lit key) = some found ∧
        getItem key value = .ok found) ∨
      (∀ members, value = .obj members → members.lookup (lit key) = none) ∧
        ∃ e : Raised, getItem key value = .error e ∧ e.Missing := by
  cases value with
  | obj members =>
    cases hfound : members.lookup (lit key) with
    | some found =>
      left
      exact ⟨members, found, rfl, hfound, by rw [getItem, hfound]⟩
    | none =>
      right
      refine ⟨?_, ⟨.keyError, _⟩, by rw [getItem, hfound], by simp [Raised.Missing]⟩
      rintro other ⟨rfl⟩
      exact hfound
  | str t => exact Or.inr ⟨by simp, _, rfl, by simp [Raised.Missing]⟩
  | arr items => exact Or.inr ⟨by simp, _, rfl, by simp [Raised.Missing]⟩
  | null => exact Or.inr ⟨by simp, _, rfl, by simp [Raised.Missing]⟩
  | bool b => exact Or.inr ⟨by simp, _, rfl, by simp [Raised.Missing]⟩
  | int n => exact Or.inr ⟨by simp, _, rfl, by simp [Raised.Missing]⟩
  | float x => exact Or.inr ⟨by simp, _, rfl, by simp [Raised.Missing]⟩

/-- The first item of a list, or a text of one character, or nothing. -/
theorem getFirst_cases (value : Value) :
    (∃ first rest, value = .arr (first :: rest) ∧ getFirst value = .ok first) ∨
      (∃ t c, value = .str t ∧ getFirst value = .ok (.str [c])) ∨
        (∀ first rest, value ≠ .arr (first :: rest)) ∧
          ∃ e : Raised, getFirst value = .error e ∧ e.Missing := by
  cases value with
  | arr items =>
    cases items with
    | cons first rest => exact Or.inl ⟨first, rest, rfl, rfl⟩
    | nil => exact Or.inr (Or.inr ⟨by simp, _, rfl, by simp [Raised.Missing]⟩)
  | str t =>
    cases t with
    | cons c t => exact Or.inr (Or.inl ⟨c :: t, c, rfl, rfl⟩)
    | nil => exact Or.inr (Or.inr ⟨by simp, _, rfl, by simp [Raised.Missing]⟩)
  | obj members => exact Or.inr (Or.inr ⟨by simp, _, rfl, by simp [Raised.Missing]⟩)
  | null => exact Or.inr (Or.inr ⟨by simp, _, rfl, by simp [Raised.Missing]⟩)
  | bool b => exact Or.inr (Or.inr ⟨by simp, _, rfl, by simp [Raised.Missing]⟩)
  | int n => exact Or.inr (Or.inr ⟨by simp, _, rfl, by simp [Raised.Missing]⟩)
  | float x => exact Or.inr (Or.inr ⟨by simp, _, rfl, by simp [Raised.Missing]⟩)

/-- The four lookups find the content where it stands, and miss it everywhere else. -/
theorem messageContent_cases (data : Value) :
    (∃ content, contentAt data = some content ∧ messageContent data = .ok content) ∨
      contentAt data = none ∧ ∃ e : Raised, messageContent data = .error e ∧ e.Missing := by
  unfold messageContent
  rcases getItem_cases "choices" data with
    ⟨members, choices, rfl, hchoices, hget⟩ | ⟨hnone, e, hget, hmissing⟩
  · rw [hget]
    rcases getFirst_cases choices with
      ⟨choice, rest, rfl, hfirst⟩ | ⟨t, c, rfl, hfirst⟩ | ⟨hnone, e, hfirst, hmissing⟩
    · rcases getItem_cases "message" choice with
        ⟨fields, message, rfl, hmessage, hget'⟩ | ⟨hnone, e, hget', hmissing⟩
      · rcases getItem_cases "content" message with
          ⟨inner, content, rfl, hcontent, hget''⟩ | ⟨hnone, e, hget'', hmissing⟩
        · left
          refine ⟨content, by simp only [contentAt, hchoices, hmessage, hcontent], ?_⟩
          simp only [bind, Except.bind, hfirst, hget', hget'']
        · right
          refine ⟨?_, e, by simp only [bind, Except.bind, hfirst, hget', hget''], hmissing⟩
          simp only [contentAt, hchoices, hmessage]
          cases message with
          | obj inner => exact hnone inner rfl
          | _ => rfl
      · right
        refine ⟨?_, e, by simp only [bind, Except.bind, hfirst, hget'], hmissing⟩
        simp only [contentAt, hchoices]
        cases choice with
        | obj fields => simp only [hnone fields rfl]
        | _ => rfl
    · -- A text has a first character, but that has no message.
      right
      exact ⟨by simp only [contentAt, hchoices], _,
        by simp only [bind, Except.bind, hfirst, getItem]; rfl, by simp [Raised.Missing]⟩
    · right
      refine ⟨?_, e, by simp only [bind, Except.bind, hfirst], hmissing⟩
      simp only [contentAt, hchoices]
      cases choices with
      | arr items =>
        cases items with
        | nil => rfl
        | cons first rest => exact absurd rfl (hnone first rest)
      | _ => rfl
  · right
    refine ⟨?_, e, by simp only [bind, Except.bind, hget], hmissing⟩
    cases data with
    | obj members => simp only [contentAt, hnone members rfl]
    | _ => rfl

theorem extractContent_cases (data : Value) :
    (∃ content, contentAt data = some content ∧ extractContent data = .ok content) ∨
      contentAt data = none ∧
        ∃ e : Raised, extractContent data = .error e ∧ e.cls.isProviderError = true := by
  rcases messageContent_cases data with ⟨content, hat, hget⟩ | ⟨hat, e, hget, hmissing⟩
  · exact Or.inl ⟨content, hat, by rw [extractContent, hget]⟩
  · right
    have hwrapped : extractContent data = .error
        ⟨.llmProviderError, "Unexpected API response structure: " ++ e.message⟩ := by
      rw [extractContent, hget]
      exact if_pos hmissing
    exact ⟨hat, _, hwrapped, rfl⟩

/-- A count is read without an exception exactly if it is one. -/
theorem tokenCount_cases (count : Option Value) :
    Counted count ∧ (∃ n, tokenCount count = .ok n) ∨
      ¬ Counted count ∧ ∃ e : Raised, tokenCount count = .error e ∧ e.cls = .validationError := by
  cases count with
  | none => exact Or.inl ⟨trivial, _, rfl⟩
  | some value =>
    cases value with
    | null => exact Or.inl ⟨trivial, _, rfl⟩
    | int n =>
      by_cases hn : 0 ≤ n
      · exact Or.inl ⟨hn, _, by rw [tokenCount, if_pos hn]⟩
      · exact Or.inr ⟨hn, _, by rw [tokenCount, if_neg hn], rfl⟩
    | bool b => exact Or.inr ⟨id, _, rfl, rfl⟩
    | float x => exact Or.inr ⟨id, _, rfl, rfl⟩
    | str t => exact Or.inr ⟨id, _, rfl, rfl⟩
    | arr items => exact Or.inr ⟨id, _, rfl, rfl⟩
    | obj members => exact Or.inr ⟨id, _, rfl, rfl⟩

/-- The counts of a usage, once it is known to be an object. -/
theorem tokenCounts_contained {R : Type} (a b c : Option Value)
    (f : Option Nat → Option Nat → Option Nat → R) :
    Contained (do
      let x ← tokenCount a
      let y ← tokenCount b
      let z ← tokenCount c
      Except.ok (f x y z)) ↔ Counted a ∧ Counted b ∧ Counted c := by
  rcases tokenCount_cases a with ⟨ha, x, hx⟩ | ⟨ha, e, hx, hcls⟩
  · rcases tokenCount_cases b with ⟨hb, y, hy⟩ | ⟨hb, e, hy, hcls⟩
    · rcases tokenCount_cases c with ⟨hc, z, hz⟩ | ⟨hc, e, hz, hcls⟩
      · simp only [hx, hy, hz, bind, Except.bind, ha, hb, hc, and_self, iff_true]
        exact contained_ok _
      · simp [hx, hy, hz, bind, Except.bind, contained_error, hcls, hc,
          ErrorClass.isProviderError]
    · simp [hx, hy, bind, Except.bind, contained_error, hcls, hb, ErrorClass.isProviderError]
  · simp [hx, bind, Except.bind, contained_error, hcls, ha, ErrorClass.isProviderError]

/-- The metadata of an object are read exactly if its usage is counted. -/
theorem readMetadata_contained (members : List (Text × Value)) :
    Contained (readMetadata settings (.obj members)) ↔ UsageCounted (.obj members) := by
  unfold readMetadata UsageCounted
  cases husage : members.lookup (lit "usage") with
  | none =>
    have hcounts := tokenCounts_contained none none none
      (fun x y z => LLMCallMetadata.mk settings.modelName settings.promptVersion x y z)
    simpa [getMember, husage, bind, Except.bind, Counted] using hcounts
  | some usage =>
    have hnone : Contained (Except.error ⟨.attributeError, "'" ++ typeName usage ++
        "' object has no attribute 'get'"⟩ : Except Raised LLMCallMetadata) ↔ False := by
      rw [contained_error]
      exact iff_of_false Bool.false_ne_true id
    cases usage with
    | obj counts =>
      have hcounts := tokenCounts_contained (counts.lookup (lit "prompt_tokens"))
        (counts.lookup (lit "completion_tokens")) (counts.lookup (lit "total_tokens"))
        (fun x y z => LLMCallMetadata.mk settings.modelName settings.promptVersion x y z)
      simpa [getMember, husage, bind, Except.bind] using hcounts
    | null => simpa [getMember, husage, bind, Except.bind] using hnone
    | bool b => simpa [getMember, husage, bind, Except.bind] using hnone
    | int n => simpa [getMember, husage, bind, Except.bind] using hnone
    | float x => simpa [getMember, husage, bind, Except.bind] using hnone
    | str t => simpa [getMember, husage, bind, Except.bind] using hnone
    | arr items => simpa [getMember, husage, bind, Except.bind] using hnone

/-- A content is checked without an exception that escapes exactly if it is a text that decoder and
model accept or refuse with their own. -/
theorem validateStructuredOutput_bind {R : Type} (content : Value) (f : T → Except Raised R) :
    Contained (validateStructuredOutput reader validate content >>= f) ↔
      ∃ text, content = .str text ∧ (∀ e, reader.text text ≠ .error (.other e)) ∧
        ∀ value, reader.text text = .ok value → (∀ e, validate value ≠ .error (.other e)) ∧
          ∀ accepted, validate value = .ok accepted → Contained (f accepted) := by
  have hescapes : ∀ {e : Raised}, e.cls.isProviderError = false →
      ¬ Contained (Except.error e : Except Raised R) := by
    intro e he h
    rw [contained_error, he] at h
    exact Bool.false_ne_true h
  cases content with
  | str text =>
    simp only [Value.str.injEq, exists_eq_left', validateStructuredOutput]
    cases hread : reader.text text with
    | error raised =>
      cases raised with
      | jsonDecodeError e =>
        have hkept : Contained (Except.error ⟨.llmValidationError,
            "Failed to parse LLM response as JSON: " ++ e⟩ : Except Raised R) :=
          contained_error.mpr rfl
        simpa [bind, Except.bind] using hkept
      | other e =>
        have hlost : ¬ Contained (Except.error ⟨.other, e⟩ : Except Raised R) := hescapes rfl
        simpa [bind, Except.bind] using hlost
    | ok value =>
      cases hmodel : validate value with
      | error raised =>
        cases raised with
        | validationError e =>
          have hkept : Contained (Except.error ⟨.llmValidationError,
              "LLM response failed schema validation: " ++ e⟩ : Except Raised R) :=
            contained_error.mpr rfl
          simpa [bind, Except.bind, hmodel] using hkept
        | other e =>
          have hlost : ¬ Contained (Except.error ⟨.other, e⟩ : Except Raised R) :=
            hescapes rfl
          simpa [bind, Except.bind, hmodel] using hlost
      | ok accepted => simp [bind, Except.bind, hmodel]
  | null => exact iff_of_false (hescapes rfl) (by simp)
  | bool b => exact iff_of_false (hescapes rfl) (by simp)
  | int n => exact iff_of_false (hescapes rfl) (by simp)
  | float x => exact iff_of_false (hescapes rfl) (by simp)
  | arr items => exact iff_of_false (hescapes rfl) (by simp)
  | obj members => exact iff_of_false (hescapes rfl) (by simp)

/-- An answer raises nothing that escapes exactly if it is readable. -/
theorem readReply_contained (body : Bytes) :
    Contained (readReply reader validate settings body) ↔ Readable reader validate body := by
  unfold readReply Readable
  cases hbody : reader.body body with
  | error raised =>
    have hlost : ¬ Contained (Except.error raised.raised :
        Except Raised (StructuredLLMResponse T)) := by
      rw [contained_error]
      cases raised <;> exact Bool.false_ne_true
    simpa [bind, Except.bind, Except.mapError] using hlost
  | ok data =>
    simp only [Except.ok.injEq, exists_eq_left', Except.mapError]
    rcases extractContent_cases data with ⟨content, hat, hextract⟩ | ⟨hat, e, hextract, hcls⟩
    · rw [hat]
      simp only [Option.some.injEq, forall_eq']
      -- A content stands in an object only.
      obtain ⟨members, rfl⟩ : ∃ members, data = .obj members := by
        cases data with
        | obj members => exact ⟨members, rfl⟩
        | _ => cases hat
      have hmetadata : ∀ accepted : T, Contained (do
          let metadata ← readMetadata settings (.obj members)
          .ok ({ content := accepted, metadata := metadata } : StructuredLLMResponse T)) ↔
            UsageCounted (.obj members) := by
        intro accepted
        rw [← readMetadata_contained]
        cases readMetadata settings (.obj members) with
        | ok metadata => exact iff_of_true (contained_ok _) (contained_ok _)
        | error e =>
          simp only [bind, Except.bind]
          rw [contained_error, contained_error]
      have hvalidated := @validateStructuredOutput_bind T reader validate
        (StructuredLLMResponse T) content (fun accepted => do
          let metadata ← readMetadata settings (.obj members)
          .ok { content := accepted, metadata := metadata })
      simp only [hmetadata] at hvalidated
      rw [contained_bind_ok, hextract, contained_bind_ok]
      exact hvalidated
    · rw [hat]
      simp only [bind, Except.bind, hextract]
      exact iff_of_true (contained_error.mpr hcls) (by simp)

theorem validateStructuredOutput_ok {content : Value} {accepted : T}
    (h : validateStructuredOutput reader validate content = .ok accepted) :
    ∃ value, validate value = .ok accepted := by
  cases content with
  | str text =>
    rw [validateStructuredOutput] at h
    cases hread : reader.text text with
    | error raised => cases raised <;> simp [hread] at h
    | ok value =>
      cases hmodel : validate value with
      | error raised => cases raised <;> simp [hread, hmodel] at h
      | ok found =>
        simp only [hread, hmodel, Except.ok.injEq] at h
        exact ⟨value, by rw [hmodel, h]⟩
  | _ => cases h

/-- What is returned was accepted by the model. -/
theorem readReply_accepted {body : Bytes} {r : StructuredLLMResponse T}
    (h : readReply reader validate settings body = .ok r) :
    ∃ value, validate value = .ok r.content := by
  unfold readReply at h
  cases hbody : (reader.body body).mapError DecodeError.raised with
  | error raised => simp [hbody, bind, Except.bind] at h
  | ok data =>
    cases hextract : extractContent data with
    | error e => simp [hbody, hextract, bind, Except.bind] at h
    | ok content =>
      cases hvalidated : validateStructuredOutput reader validate content with
      | error e => simp [hbody, hextract, hvalidated, bind, Except.bind] at h
      | ok accepted =>
        cases hmetadata : readMetadata settings data with
        | error e =>
          simp [hbody, hextract, hvalidated, hmetadata, bind, Except.bind] at h
        | ok metadata =>
          simp only [hbody, hextract, hvalidated, hmetadata, bind, Except.bind,
            Except.ok.injEq] at h
          rw [← h]
          exact validateStructuredOutput_ok hvalidated

end Reading

/-! ## The contract -/

section Contract

variable {T : Type} {reader : Reader} {validate : Value → Except ModelError T}
  {settings : CallSettings} {outcomes : Nat → HttpOutcome} {retries : Nat}

/-- A response holds what the model accepts, nothing is raised but errors of the provider, and the
requests end where they should. -/
structure KeepsContract (validate : Value → Except ModelError T) (retries : Nat) (call : Call T) :
    Prop where
  content : ∀ r, call.result = .ok r → ∃ value, validate value = .ok r.content
  errors : ∀ e, call.result = .error e → e.cls.isProviderError = true
  requests : RequestsEnd (retries + 1) call.requests

/-- From an attempt on: the first answer is readable, and no sleep is too long for a float. -/
structure ClearFrom (reader : Reader) (validate : Value → Except ModelError T)
    (outcomes : Nat → HttpOutcome) (retries attempt : Nat) : Prop where
  answer : ∀ n, attempt ≤ n → n ≤ retries →
    (∀ m, attempt ≤ m → m < n → (outcomes m).isResponse = false) →
      ∀ body, outcomes n = .response body → Readable reader validate body
  sleeps : ∀ n, attempt ≤ n → sleepLimit < n → n < retries →
    ∃ m, attempt ≤ m ∧ m ≤ n ∧ (outcomes m).isResponse = true

theorem clearFrom_response {attempt : Nat} {body : Bytes} (hle : attempt ≤ retries)
    (h : outcomes attempt = .response body) :
    ClearFrom reader validate outcomes retries attempt ↔ Readable reader validate body := by
  have hresponse : (outcomes attempt).isResponse = true := by
    rw [h]
    rfl
  constructor
  · intro hclear
    exact hclear.answer attempt (Nat.le_refl _) hle (fun m hm hlt => absurd hlt (Nat.not_lt.mpr hm))
      body h
  · intro hreadable
    constructor
    · intro n hn _ hbefore body' hbody'
      -- An answer at a later attempt is not the first.
      rcases Nat.eq_or_lt_of_le hn with rfl | hlt
      · rw [h] at hbody'
        cases hbody'
        exact hreadable
      · have hfailed := hbefore attempt (Nat.le_refl _) hlt
        rw [hresponse] at hfailed
        exact absurd hfailed.symm Bool.false_ne_true
    · intro n hn _ _
      exact ⟨attempt, Nat.le_refl _, hn, hresponse⟩

theorem clearFrom_last {attempt : Nat} (hlast : attempt = retries)
    (h : (outcomes attempt).isResponse = false) :
    ClearFrom reader validate outcomes retries attempt := by
  constructor
  · intro n hn hle _ body hbody
    have hsame : n = attempt := Nat.le_antisymm (hlast ▸ hle) hn
    rw [hsame] at hbody
    rw [hbody] at h
    exact absurd h.symm Bool.false_ne_true
  · intro n hn _ hlt
    exact absurd hlt (Nat.not_lt.mpr (hlast ▸ hn))

theorem not_clearFrom_long {attempt : Nat} (hlong : sleepLimit < attempt) (hlt : attempt < retries)
    (h : (outcomes attempt).isResponse = false) :
    ¬ ClearFrom reader validate outcomes retries attempt := by
  intro hclear
  obtain ⟨m, hm, hle, hresponse⟩ := hclear.sleeps attempt (Nat.le_refl _) hlong hlt
  have hsame : m = attempt := Nat.le_antisymm hle hm
  rw [hsame, h] at hresponse
  exact Bool.false_ne_true hresponse

theorem clearFrom_failed {attempt : Nat} (hshort : ¬ sleepLimit < attempt)
    (h : (outcomes attempt).isResponse = false) :
    ClearFrom reader validate outcomes retries attempt ↔
      ClearFrom reader validate outcomes retries (attempt + 1) := by
  constructor
  · intro hclear
    constructor
    · intro n hn hle hbefore body hbody
      apply hclear.answer n (Nat.le_of_succ_le hn) hle _ body hbody
      intro m hm hlt
      rcases Nat.eq_or_lt_of_le hm with rfl | hnext
      · exact h
      · exact hbefore m hnext hlt
    · intro n hn hlong hlt
      obtain ⟨m, hm, hle, hresponse⟩ := hclear.sleeps n (Nat.le_of_succ_le hn) hlong hlt
      rcases Nat.eq_or_lt_of_le hm with rfl | hnext
      · rw [h] at hresponse
        exact absurd hresponse Bool.false_ne_true
      · exact ⟨m, hnext, hle, hresponse⟩
  · intro hclear
    constructor
    · intro n hn hle hbefore body hbody
      rcases Nat.eq_or_lt_of_le hn with rfl | hnext
      · rw [hbody] at h
        exact absurd h.symm Bool.false_ne_true
      · exact hclear.answer n hnext hle (fun m hm hlt => hbefore m (Nat.le_of_succ_le hm) hlt)
          body hbody
    · intro n hn hlong hlt
      have hnext : attempt < n := by omega
      obtain ⟨m, hm, hle, hresponse⟩ := hclear.sleeps n hnext hlong hlt
      exact ⟨m, Nat.le_of_succ_le hm, hle, hresponse⟩

/-- A failed attempt: it is the last, its sleep is too long, or the next attempt decides. -/
theorem retry_contained {remaining attempt : Nat} {outcome : HttpOutcome} {last : Raised}
    (hfailed : outcome.isResponse = false) (houtcome : outcomes attempt = outcome)
    (hcount : attempt + (remaining + 1) = retries + 1) (hlast : last.cls.isProviderError = true)
    {rest : Call T} (hrest : attempt ≠ retries → (Contained rest.result ↔
      ClearFrom reader validate outcomes retries (attempt + 1))) :
    Contained (if attempt = retries then
        ({ requests := [outcome], result := .error last } : Call T)
      else
        retryAfter outcome attempt rest).result ↔
      ClearFrom reader validate outcomes retries attempt := by
  rw [← houtcome] at hfailed
  split_ifs with hend
  · exact iff_of_true (contained_error.mpr hlast) (clearFrom_last hend hfailed)
  · have hlt : attempt < retries := by omega
    unfold retryAfter
    split_ifs with hlong
    · apply iff_of_false _ (not_clearFrom_long hlong hlt hfailed)
      rw [contained_error]
      exact Bool.false_ne_true
    · rw [clearFrom_failed hlong hfailed]
      exact hrest hend

/-- Over the attempts that remain: nothing escapes exactly if they are clear. -/
theorem attempts_contained (remaining attempt : Nat) (hcount : attempt + remaining = retries + 1) :
    Contained (attempts reader validate settings outcomes retries remaining attempt).result ↔
      ClearFrom reader validate outcomes retries attempt := by
  induction remaining generalizing attempt with
  | zero =>
    apply iff_of_true (contained_error.mpr rfl)
    constructor
    · intro n hn hle
      omega
    · intro n hn _ hlt
      omega
  | succ remaining ih =>
    have hnext : attempt ≠ retries →
        (Contained (attempts reader validate settings outcomes retries remaining
          (attempt + 1)).result ↔ ClearFrom reader validate outcomes retries (attempt + 1)) :=
      fun _ => ih (attempt + 1) (by omega)
    rw [attempts]
    cases houtcome : outcomes attempt with
    | response body =>
      rw [clearFrom_response (by omega) houtcome]
      exact readReply_contained body
    | timeout => exact retry_contained rfl houtcome hcount rfl hnext
    | failure text => exact retry_contained rfl houtcome hcount rfl hnext

theorem retryAfter_ok {outcome : HttpOutcome} {attempt : Nat} {rest : Call T}
    {r : StructuredLLMResponse T} (h : (retryAfter outcome attempt rest).result = .ok r) :
    rest.result = .ok r := by
  unfold retryAfter at h
  split_ifs at h
  exact h

/-- What a response holds was accepted by the model, whatever came before it. -/
theorem attempts_accepted {remaining attempt : Nat} {r : StructuredLLMResponse T}
    (h : (attempts reader validate settings outcomes retries remaining attempt).result = .ok r) :
    ∃ value, validate value = .ok r.content := by
  induction remaining generalizing attempt with
  | zero => cases h
  | succ remaining ih =>
    rw [attempts] at h
    cases houtcome : outcomes attempt with
    | response body =>
      rw [houtcome] at h
      exact readReply_accepted h
    | timeout =>
      rw [houtcome] at h
      dsimp only at h
      split_ifs at h
      exact ih (retryAfter_ok h)
    | failure text =>
      rw [houtcome] at h
      dsimp only at h
      split_ifs at h
      exact ih (retryAfter_ok h)

theorem clearFrom_zero :
    ClearFrom reader validate outcomes retries 0 ↔
      (∀ n ≤ retries, (∀ m < n, (outcomes m).isResponse = false) →
        ∀ body, outcomes n = .response body → Readable reader validate body) ∧
      (retries ≤ 1024 ∨ ∃ m ≤ 1024, (outcomes m).isResponse = true) := by
  constructor
  · intro hclear
    refine ⟨fun n hle hbefore => hclear.answer n (Nat.zero_le n) hle (fun m _ => hbefore m), ?_⟩
    rcases Nat.lt_or_ge 1024 retries with hlt | hge
    · obtain ⟨m, -, hle, hresponse⟩ := hclear.sleeps 1024 (Nat.zero_le _) (by decide) hlt
      exact Or.inr ⟨m, hle, hresponse⟩
    · exact Or.inl hge
  · rintro ⟨hanswer, hfew⟩
    constructor
    · intro n _ hle hbefore
      exact hanswer n hle (fun m => hbefore m (Nat.zero_le m))
    · intro n _ hlong hlt
      have hn : 1024 ≤ n := hlong
      rcases hfew with hfew | ⟨m, hm, hresponse⟩
      · omega
      · exact ⟨m, Nat.zero_le m, Nat.le_trans hm hn, hresponse⟩

/-- Over all sequences of outcomes: the error contract is kept exactly if the first answer, should one
come in time, is readable, and the failures before it are fewer than 1025 where more retries are
allowed. -/
theorem keepsContract_iff (reader : Reader) (validate : Value → Except ModelError T)
    (settings : CallSettings) (outcomes : Nat → HttpOutcome) (maxRetries : Option Nat) :
    KeepsContract validate (maxRetries.getD defaultMaxRetries)
        (completeStructured reader validate settings outcomes maxRetries) ↔
      (∀ n ≤ maxRetries.getD defaultMaxRetries, (∀ m < n, (outcomes m).isResponse = false) →
        ∀ body, outcomes n = .response body → Readable reader validate body) ∧
      (maxRetries.getD defaultMaxRetries ≤ 1024 ∨ ∃ m ≤ 1024, (outcomes m).isResponse = true) := by
  have hcontained := @attempts_contained T reader validate settings outcomes
    (maxRetries.getD defaultMaxRetries) (maxRetries.getD defaultMaxRetries + 1) 0 (Nat.zero_add _)
  rw [clearFrom_zero] at hcontained
  constructor
  · intro hkeeps
    exact hcontained.mp hkeeps.errors
  · intro hclear
    exact
      { content := fun r hr => attempts_accepted hr
        errors := hcontained.mpr hclear
        requests := attempts_requests _ 0 }

end Contract

/-! ## A page instead of an answer -/

/-- The decoders on ASCII: `loads` of what was sent. -/
def asciiReader : Reader :=
  { body := fun data =>
      match loads (data.map (fun b => Char.ofNat b.toNat)) with
      | some value => .ok value
      | none => .error (.jsonDecodeError "Expecting value")
    text := fun text =>
      match loads (text.map (fun c => Char.ofNat c.val)) with
      | some value => .ok value
      | none => .error (.jsonDecodeError "Expecting value") }

/-- A gateway answers with status 200 and `<html>`: the `JSONDecodeError` leaves the call. -/
theorem html_answer_escapes :
    ¬ KeepsContract (fun _ => .ok ()) 0
      (completeStructured asciiReader (fun _ => .ok ()) ⟨"gpt-4o", none, "60.0"⟩
        (fun _ => .response [60, 104, 116, 109, 108, 62]) (some 0)) := by
  intro h
  have hresult : (completeStructured asciiReader (fun _ => .ok ()) ⟨"gpt-4o", none, "60.0"⟩
      (fun _ => .response [60, 104, 116, 109, 108, 62]) (some 0)).result =
        .error ⟨.jsonDecodeError, "Expecting value"⟩ := by
    rfl
  exact absurd (h.errors _ hresult) Bool.false_ne_true

end Llm
end Integrations
end MoneyMachine
