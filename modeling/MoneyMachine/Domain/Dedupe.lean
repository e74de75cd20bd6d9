import MoneyMachine.Domain.Basic
import MoneyMachine.Domain.ListingText
import MoneyMachine.Library.Binary64
import MoneyMachine.Library.Table
import Mathlib.Data.Finset.Card

/-!
# Dedupe — a product concept against the catalogue

A concept collides with one of the catalogue when identity and category are the same, when the titles
share enough words, or when the fingerprints are equal.  The words are those of the title without its
punctuation, and their similarity is a double.

The tables of Unicode and the clock are parameters.
-/

namespace MoneyMachine
namespace Domain
namespace Dedupe

open MoneyMachine.Library

/-- `unicodedata.normalize("NFKD", …)`, `str.casefold` and `str.isalnum`. -/
structure TitleTables where
  nfkd : Text → Text
  casefold : Text → Text
  isAlnum : Char → Bool

/-! ## Titles -/

section Titles

variable (tables : TitleTables)

/-- `\w`. -/
def isWord (c : Char) : Bool :=
  tables.isAlnum c || decide (c = '_')

/-- `re.sub(r"\s+", " ", text)`. -/
def collapseSpaces : Text → Text
  | [] => []
  | c :: rest =>
    if isSpace c then
      if rest.head?.any isSpace then collapseSpaces rest else ' ' :: collapseSpaces rest
    else
      c :: collapseSpaces rest

/-- `normalize_title`. -/
def normalizeTitle (title : Text) : Text :=
  let normalized := tables.nfkd title
  let normalized := tables.casefold normalized
  let normalized := normalized.filter (fun c => isWord tables c || isSpace c)
  let normalized := collapseSpaces normalized
  strip normalized

/-- `tokenize_title`. -/
def tokenizeTitle (normalizedTitle : Text) : Finset Text :=
  if normalizedTitle = [] then ∅ else (words normalizedTitle).toFinset

/-- `calculate_jaccard_similarity`: a double. -/
def jaccardSimilarity (a b : Finset Text) : ℚ :=
  if a = ∅ ∧ b = ∅ then
    1
  else if a = ∅ ∨ b = ∅ then
    0
  else if a ∪ b = ∅ then
    0
  else
    Binary64.round ((a ∩ b).card / (a ∪ b).card)

/-- `JACCARD_THRESHOLD`: the double of the literal. -/
def jaccardThreshold : ℚ :=
  Binary64.round (7 / 10)

/-- `value.casefold().strip()`. -/
def normalForm (value : Text) : Text :=
  strip (tables.casefold value)

end Titles

/-! ## Contracts -/

/-- `NonEmptyStr`. -/
def nonEmpty (text : Text) : Except Text TrimmedText :=
  match TrimmedText.parse text with
  | none => .error (lit "String should have at least 1 character")
  | some text => .ok text

/-- `ProductSpec`, by the fields that are compared or copied. -/
structure ProductSpec where
  specId : Uuid
  workflowId : Uuid
  identity : TrimmedText
  baseCategory : TrimmedText
  buyerProblem : TrimmedText
  title : TrimmedText
  hubs : List TrimmedText
  features : List TrimmedText
  conceptFingerprint : Sha256Hex
  createdAt : Nat

/-- The reason of a collision. -/
inductive Reason
  | exactIdentityCategory
  | titleSimilarity
  | conceptFingerprint
  deriving DecidableEq, Repr

/-- `EvidenceReference`, by the fields that are set. -/
structure EvidenceReference where
  evidenceId : Uuid
  evidenceType : TrimmedText
  sourceReference : TrimmedText
  observedAt : Nat
  safeSummary : TrimmedText

def EvidenceReference.parse (evidenceId : Uuid) (evidenceType sourceReference : Text)
    (observedAt : Nat) (safeSummary : Text) : Except Text EvidenceReference := do
  let evidenceType ← nonEmpty evidenceType
  let sourceReference ← nonEmpty sourceReference
  let safeSummary ← nonEmpty safeSummary
  .ok ⟨evidenceId, evidenceType, sourceReference, observedAt, safeSummary⟩

/-- `DedupeCollision`: its similarity is a `UnitDecimal`, and it is cited. -/
structure DedupeCollision where
  otherSpecId : Uuid
  reason : Reason
  similarity : ℚ
  evidence : List EvidenceReference
  unit : 0 ≤ similarity ∧ similarity ≤ 1
  cited : evidence ≠ []

def DedupeCollision.parse (otherSpecId : Uuid) (reason : Reason) (similarity : ℚ)
    (evidence : List EvidenceReference) : Except Text DedupeCollision :=
  if hunit : 0 ≤ similarity ∧ similarity ≤ 1 then
    if hcited : evidence ≠ [] then
      .ok ⟨otherSpecId, reason, similarity, evidence, hunit, hcited⟩
    else
      .error (lit "Tuple should have at least 1 item after validation")
  else
    .error (lit "Input should be between 0 and 1")

/-- `BranchOutcome`, by the outcomes of this branch. -/
inductive Outcome
  | pass
  | tooClose
  deriving DecidableEq, Repr

/-- The fields of `DedupeResult`. -/
structure DedupeFields where
  resultId : Uuid
  workflowId : Uuid
  specId : Uuid
  outcome : Outcome
  ruleVersion : TrimmedText
  normalizedTitle : TrimmedText
  conceptFingerprint : Sha256Hex
  titleSimilarityThreshold : ℚ
  comparedSpecIds : List Uuid
  collisions : List DedupeCollision
  differentiationEvidence : List TrimmedText
  completedAt : Nat

/-- The loop over the collisions in `validate_outcome`. -/
def validateCollisions (comparedSpecIds : List Uuid) (threshold : ℚ) :
    List DedupeCollision → Except Text Unit
  | [] => .ok ()
  | collision :: rest =>
    if collision.otherSpecId ∉ comparedSpecIds then
      .error (lit "every collision must cite a compared spec")
    else if collision.reason = .titleSimilarity ∧ collision.similarity < threshold then
      .error (lit "a TITLE_SIMILARITY collision must meet the configured threshold")
    else
      validateCollisions comparedSpecIds threshold rest

/-- `validate_outcome`, with the range of the threshold. -/
def validateOutcome (r : DedupeFields) : Except Text Unit :=
  if ¬ (0 ≤ r.titleSimilarityThreshold ∧ r.titleSimilarityThreshold ≤ 1) then
    .error (lit "Input should be between 0 and 1")
  else if r.titleSimilarityThreshold ≤ 0 then
    .error (lit "title_similarity_threshold must be positive")
  else if ¬ r.comparedSpecIds.Nodup then
    .error (lit "compared_spec_ids must be unique")
  else if r.specId ∈ r.comparedSpecIds then
    .error (lit "a spec is not compared with itself")
  else do
    validateCollisions r.comparedSpecIds r.titleSimilarityThreshold r.collisions
    match r.outcome with
    | .pass =>
      if r.collisions ≠ [] then
        .error (lit "PASS forbids collisions")
      else if r.comparedSpecIds ≠ [] ∧ r.differentiationEvidence = [] then
        .error (lit "PASS against an existing catalogue requires differentiation")
      else
        .ok ()
    | .tooClose =>
      if r.collisions = [] then
        .error (lit "TOO_CLOSE requires collision evidence")
      else if r.differentiationEvidence ≠ [] then
        .error (lit "TOO_CLOSE cannot claim differentiation; reconcept instead")
      else
        .ok ()

/-- `DedupeResult`. -/
structure DedupeResult extends DedupeFields where
  valid : validateOutcome toDedupeFields = .ok ()

def DedupeResult.parse (r : DedupeFields) : Except Text DedupeResult :=
  match h : validateOutcome r with
  | .ok () => .ok ⟨r, h⟩
  | .error message => .error message

/-! ## The check -/

section Check

variable (tables : TitleTables) (clock : Uuid → Reason → Nat)

/-- `f"{similarity:.3f}"`. -/
def threeDecimals (similarity : ℚ) : Text :=
  let thousandths := (Binary64.halfEven (similarity * 1000)).toNat
  decimal (thousandths / 1000) ++ '.' :: (List.replicate (3 - (decimal (thousandths % 1000)).length) '0' ++
    decimal (thousandths % 1000))

/-- The words of a title. -/
def titleTokens (spec : ProductSpec) : Finset Text :=
  tokenizeTitle (normalizeTitle tables spec.title.chars)

/-- Rule 1. -/
def sameIdentity (candidate existing : ProductSpec) : Bool :=
  decide (normalForm tables candidate.identity.chars = normalForm tables existing.identity.chars ∧
    normalForm tables candidate.baseCategory.chars = normalForm tables existing.baseCategory.chars)

/-- The similarity of two titles. -/
def similarity (candidate existing : ProductSpec) : ℚ :=
  jaccardSimilarity (titleTokens tables candidate) (titleTokens tables existing)

/-- Rule 2. -/
def similarTitle (candidate existing : ProductSpec) : Bool :=
  decide (jaccardThreshold ≤ similarity tables candidate existing)

/-- Rule 3. -/
def sameConcept (candidate existing : ProductSpec) : Bool :=
  decide (candidate.conceptFingerprint.text = existing.conceptFingerprint.text)

/-- One collision with its evidence. -/
def collision (candidate existing : ProductSpec) (reason : Reason) (similarity : ℚ)
    (sourceReference summary : Text) : Except Text DedupeCollision := do
  let evidence ← EvidenceReference.parse candidate.specId (lit "DEDUPE_CHECK") sourceReference
    (clock existing.specId reason) summary
  DedupeCollision.parse existing.specId reason similarity [evidence]

def identityCollision (candidate existing : ProductSpec) : Except Text DedupeCollision :=
  collision clock candidate existing .exactIdentityCategory 1 (lit "SPEC_IDENTITY_CATEGORY")
    (lit "identity=" ++ candidate.identity.chars ++ lit ", category=" ++ candidate.baseCategory.chars)

def titleCollision (candidate existing : ProductSpec) : Except Text DedupeCollision :=
  collision clock candidate existing .titleSimilarity
    (Binary64.shortest (similarity tables candidate existing)) (lit "TITLE_TOKENS")
    (lit "candidate=" ++ normalizeTitle tables candidate.title.chars ++
      lit ", existing=" ++ normalizeTitle tables existing.title.chars ++
      lit ", jaccard=" ++ threeDecimals (similarity tables candidate existing))

def conceptCollision (candidate existing : ProductSpec) : Except Text DedupeCollision :=
  collision clock candidate existing .conceptFingerprint 1 (lit "CONCEPT_FINGERPRINT")
    (lit "fingerprint=" ++ candidate.conceptFingerprint.text.toList)

/-- A collision where its rule applies. -/
def collisionIf (applies : Bool) (found : Except Text DedupeCollision) :
    Except Text (List DedupeCollision) :=
  if applies then do
    let collision ← found
    .ok [collision]
  else
    .ok []

/-- The three rules for one spec of the catalogue. -/
def collisionsWith (candidate existing : ProductSpec) : Except Text (List DedupeCollision) := do
  let identity ← collisionIf (sameIdentity tables candidate existing)
    (identityCollision clock candidate existing)
  let title ← collisionIf (similarTitle tables candidate existing)
    (titleCollision tables clock candidate existing)
  let concept ← collisionIf (sameConcept candidate existing)
    (conceptCollision clock candidate existing)
  .ok (identity ++ title ++ concept)

/-- The loop of `check_dedupe`: the compared specs and their collisions. -/
def compareAll (candidate : ProductSpec) :
    List ProductSpec → Except Text (List Uuid × List DedupeCollision)
  | [] => .ok ([], [])
  | existing :: rest =>
    if existing.specId = candidate.specId then
      compareAll candidate rest
    else do
      let found ← collisionsWith tables clock candidate existing
      let (compared, more) ← compareAll candidate rest
      .ok (existing.specId :: compared, found ++ more)

/-- The evidence for a concept that is new in a catalogue. -/
def differentiation (candidate : ProductSpec) : List Text :=
  [lit "Identity: " ++ candidate.identity.chars,
    lit "Category: " ++ candidate.baseCategory.chars,
    lit "Buyer problem: " ++ candidate.buyerProblem.chars,
    lit "Features: " ++ decimal candidate.features.length ++ lit " unique features",
    lit "Hubs: " ++ decimal candidate.hubs.length ++ lit " unique hubs"]

/-- The result that `check_dedupe` builds. -/
def resultFields (candidate : ProductSpec) (ruleVersion normalizedTitle : TrimmedText)
    (compared : List Uuid) (collisions : List DedupeCollision) (evidence : List TrimmedText) :
    DedupeFields where
  resultId := candidate.specId
  workflowId := candidate.workflowId
  specId := candidate.specId
  outcome := if collisions ≠ [] then .tooClose else .pass
  ruleVersion := ruleVersion
  normalizedTitle := normalizedTitle
  conceptFingerprint := candidate.conceptFingerprint
  titleSimilarityThreshold := Binary64.shortest jaccardThreshold
  comparedSpecIds := compared
  collisions := collisions
  differentiationEvidence := evidence
  completedAt := candidate.createdAt

/-- `check_dedupe`. -/
def checkDedupe (candidate : ProductSpec) (existingSpecs : List ProductSpec) (ruleVersion : Text) :
    Except Text DedupeResult := do
  let (compared, collisions) ← compareAll tables clock candidate existingSpecs
  let evidence := if collisions ≠ [] ∨ existingSpecs = [] then [] else differentiation candidate
  let ruleVersion ← nonEmpty ruleVersion
  let normalizedTitle ← nonEmpty (normalizeTitle tables candidate.title.chars)
  let evidence ← evidence.mapM nonEmpty
  DedupeResult.parse
    (resultFields candidate ruleVersion normalizedTitle compared collisions evidence)

end Check

end Dedupe
end Domain
end MoneyMachine
