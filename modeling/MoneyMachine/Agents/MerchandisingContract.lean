import MoneyMachine.Domain.Basic
import MoneyMachine.Domain.ListingText

/-!
# MerchandisingContract — listing copy, product facts and the built product

The contracts of the listing agent.  What a contract refuses cannot be built here: the checks of a
model are fields of its structure.  Fields that no modelled function reads are left out.
-/

namespace MoneyMachine
namespace Agents

open MoneyMachine.Domain

/-! ## Amounts -/

/-- A `PositiveDecimal`: its digits as a number, and the exponent of ten. -/
structure Amount where
  coefficient : Nat
  exponent : Int
  positive : 0 < coefficient
  deriving DecidableEq, Repr

namespace Amount

/-- The number of units of ten to the `exponent`, for an exponent that is not larger. -/
def scaled (amount : Amount) (exponent : Int) : Nat :=
  amount.coefficient * 10 ^ (amount.exponent - exponent).toNat

/-- `==`: the numbers are equal, however they are written. -/
def same (a b : Amount) : Bool :=
  let exponent := min a.exponent b.exponent
  decide (a.scaled exponent = b.scaled exponent)

/-- `a < b`. -/
def lt (a b : Amount) : Bool :=
  let exponent := min a.exponent b.exponent
  decide (a.scaled exponent < b.scaled exponent)

/-- The digits with a point after the first `place` of them; zeros fill what is missing. -/
def withPoint (digits : Text) (place : Int) : Text :=
  if place ≤ 0 then
    lit "0." ++ List.replicate (-place).toNat '0' ++ digits
  else if (digits.length : Int) ≤ place then
    digits ++ List.replicate (place - digits.length).toNat '0'
  else
    digits.take place.toNat ++ lit "." ++ digits.drop place.toNat

/-- `str(amount)`: large and small exponents are written out. -/
def text (amount : Amount) : Text :=
  let digits := decimal amount.coefficient
  let place : Int := amount.exponent + digits.length
  if amount.exponent ≤ 0 ∧ -6 < place then
    withPoint digits place
  else
    let shift := place - 1
    withPoint digits 1 ++
      (if shift = 0 then
        []
      else
        lit (if 0 ≤ shift then "E+" else "E-") ++ decimal shift.natAbs)

end Amount

/-- `CurrencyCode`. -/
structure Currency where
  chars : Text
  length : chars.length = 3
  letters : chars.all (fun c => decide ('A' ≤ c ∧ c ≤ 'Z')) = true
  deriving DecidableEq

/-! ## Facts and claims -/

/-- `FactKey`. -/
inductive FactKey
  | pageCount
  | hubs
  | databases
  | variants
  | colourNames
  | dashboardOutputs
  | supportedDevices
  | secretLinks
  | freeUpdatePolicy
  | buildVersion
  | features
  | shopName
  | price
  | anchorPrice
  | currency
  | support
  | freeGift
  | identity
  | baseCategory
  | buyerProblem
  | automation
  | reviews
  | salesCount
  | trustBar
  | socialProof
  deriving DecidableEq, Repr

def FactKey.text : FactKey → Text
  | .pageCount => lit "page_count"
  | .hubs => lit "hubs"
  | .databases => lit "databases"
  | .variants => lit "variants"
  | .colourNames => lit "colour_names"
  | .dashboardOutputs => lit "dashboard_outputs"
  | .supportedDevices => lit "supported_devices"
  | .secretLinks => lit "secret_links"
  | .freeUpdatePolicy => lit "free_update_policy"
  | .buildVersion => lit "build_version"
  | .features => lit "features"
  | .shopName => lit "shop_name"
  | .price => lit "price"
  | .anchorPrice => lit "anchor_price"
  | .currency => lit "currency"
  | .support => lit "support"
  | .freeGift => lit "free_gift"
  | .identity => lit "identity"
  | .baseCategory => lit "base_category"
  | .buyerProblem => lit "buyer_problem"
  | .automation => lit "automation"
  | .reviews => lit "reviews"
  | .salesCount => lit "sales_count"
  | .trustBar => lit "trust_bar"
  | .socialProof => lit "social_proof"

/-- `RejectionClass`. -/
inductive RejectionClass
  | inventedPageCount
  | nonexistentFeature
  | variantNotBuilt
  | unsupportedAutomation
  | inventedReview
  | inventedSales
  | inventedTrustBar
  | unsupportedSocialProof
  | unknownFact
  | unboundText
  | tagCount
  | sectionCount
  deriving DecidableEq, Repr

def RejectionClass.text : RejectionClass → Text
  | .inventedPageCount => lit "invented_page_count"
  | .nonexistentFeature => lit "nonexistent_feature"
  | .variantNotBuilt => lit "variant_not_built"
  | .unsupportedAutomation => lit "unsupported_automation"
  | .inventedReview => lit "invented_review"
  | .inventedSales => lit "invented_sales"
  | .inventedTrustBar => lit "invented_trust_bar"
  | .unsupportedSocialProof => lit "unsupported_social_proof"
  | .unknownFact => lit "unknown_fact"
  | .unboundText => lit "unbound_text"
  | .tagCount => lit "tag_count"
  | .sectionCount => lit "section_count"

/-- One verified fact a listing claim may cite. -/
structure ProductFact where
  factId : Uuid
  productId : Uuid
  specId : Uuid
  factKey : FactKey
  factValue : TrimmedText
  deriving DecidableEq

/-- One statement of the listing copy, bound to one fact. -/
structure ListingClaim where
  claimId : Uuid
  kind : ClaimKind
  factId : Uuid
  statedValue : TrimmedText
  deriving DecidableEq

def ListingClaim.slot (claim : ListingClaim) : TextSlot :=
  { kind := claim.kind, value := claim.statedValue.chars }

structure ClaimCorrection where
  claimId : Uuid
  rejectionClass : RejectionClass
  factId : Option Uuid
  correction : Text
  deriving DecidableEq

/-- `fact_items`: a value with no pipe is one item. -/
def factItems (value : Text) : List Text :=
  value.splitOn '|'

/-! ## Configuration of the product -/

/-- `SupportConfig`. -/
structure SupportConfig where
  offered : Bool
  channel : Option TrimmedText
  channelMatchesOffer : channel.isSome = offered
  noPipe : ∀ value, channel = some value → '|' ∉ value.chars

/-- `FreeGiftConfig`. -/
structure FreeGiftConfig (unicode : Unicode) where
  offered : Bool
  name : Option TrimmedText
  community : Option TrimmedText
  nameMatchesOffer : name.isSome = offered
  communityNeedsOffer : offered = false → community = none
  noPipe : ∀ value, (name = some value ∨ community = some value) → '|' ∉ value.chars
  noLink : ∀ value, (name = some value ∨ community = some value) →
    ∀ mark ∈ [lit "http://", lit "https://", lit "checkout"],
      ¬ mark <:+: unicode.casefold value.chars

/-- `NotificationDashboardBehaviour`. -/
structure NotificationDashboard where
  present : Bool
  outputs : List TrimmedText
  outputsMatchPresence : present = true ↔ outputs ≠ []
  noPipe : ∀ output ∈ outputs, '|' ∉ output.chars

/-- `encode_support`. -/
def encodeSupport (config : SupportConfig) : Text :=
  match config.channel with
  | none => lit "not_offered"
  | some channel => lit "offered|" ++ channel.chars

/-- `encode_free_gift`. -/
def encodeFreeGift {unicode : Unicode} (config : FreeGiftConfig unicode) : Text :=
  match config.name, config.community with
  | none, _ => lit "not_offered"
  | some gift, none => lit "offered|" ++ gift.chars
  | some gift, some community => lit "offered|" ++ gift.chars ++ lit "|" ++ community.chars

/-- `encode_dashboard`. -/
def encodeDashboard (behaviour : NotificationDashboard) : Text :=
  if behaviour.present then
    join ['|'] (behaviour.outputs.map TrimmedText.chars)
  else
    lit "absent"

/-- `ListingRules`. -/
structure ListingRules where
  ruleVersion : TrimmedText
  tags : Nat
  images : Nat
  videos : Nat
  descriptionSections : Nat
  quantity : Nat
  imageRole : TrimmedText
  videoRole : TrimmedText
  deriving DecidableEq

/-- The fields of a `ProductSpec` that the listing reads. -/
structure ProductSpec where
  specId : Uuid
  productId : Uuid
  identity : TrimmedText
  baseCategory : TrimmedText
  buyerProblem : TrimmedText
  realPrice : Amount
  anchorPrice : Amount
  currency : Currency
  features : List TrimmedText

/-- A variant that was built. -/
structure BuiltVariant where
  name : TrimmedText

/-- `MerchandisingInput`: what the agent may read. -/
structure MerchandisingInput (unicode : Unicode) where
  spec : ProductSpec
  facts : List ProductFact
  hubs : List TrimmedText
  pageCount : Nat
  variants : List BuiltVariant
  notificationDashboard : NotificationDashboard
  shopName : TrimmedText
  price : Amount
  anchorPrice : Amount
  support : SupportConfig
  freeGift : FreeGiftConfig unicode
  rules : ListingRules
  someFact : facts ≠ []
  someVariant : variants ≠ []
  somePage : 0 < pageCount
  anchorAtLeastPrice : anchorPrice.lt price = false
  factIdsUnique : (facts.map ProductFact.factId).Nodup
  factKeysUnique : (facts.map ProductFact.factKey).Nodup
  factsBelongToSpec : ∀ fact ∈ facts, fact.productId = spec.productId ∧ fact.specId = spec.specId

/-! ## Copy -/

/-- `DescriptionRole`. -/
inductive DescriptionRole
  | hook
  | included
  | audience
  | howItWorks
  | features
  | variants
  | support
  | offer
  deriving DecidableEq, Repr

/-- `ImageRole`. -/
inductive ImageRole
  | hero
  | overview
  | hub1
  | hub2
  | hub3
  | hub4
  | hub5
  | colourOptions
  | devices
  | howItWorks
  deriving DecidableEq, Repr

/-- `VideoRole`. -/
inductive VideoRole
  | dashboard
  | notificationPanel
  | strongestHubs
  | colourOptions
  | duplicationAccess
  deriving DecidableEq, Repr

def DescriptionRole.text : DescriptionRole → Text
  | .hook => lit "hook"
  | .included => lit "included"
  | .audience => lit "audience"
  | .howItWorks => lit "how_it_works"
  | .features => lit "features"
  | .variants => lit "variants"
  | .support => lit "support"
  | .offer => lit "offer"

/-- `DESCRIPTION_ROLES`. -/
def descriptionRoles : List DescriptionRole :=
  [.hook, .included, .audience, .howItWorks, .features, .variants, .support, .offer]

/-- `IMAGE_ROLES`. -/
def imageRoles : List ImageRole :=
  [.hero, .overview, .hub1, .hub2, .hub3, .hub4, .hub5, .colourOptions, .devices, .howItWorks]

/-- `VIDEO_BEATS`. -/
def videoBeats : List VideoRole :=
  [.dashboard, .notificationPanel, .strongestHubs, .colourOptions, .duplicationAccess]

/-- `ETSY_TAG_MAX`. -/
def etsyTagMax : Nat := 20

/-- `CitedText`: text that may only be the named template of its claims. -/
structure CitedText where
  templateId : TrimmedText
  text : TrimmedText
  claimIds : List Uuid
  cites : claimIds ≠ []
  deriving DecidableEq

/-- A text in a role: `DescriptionSection`, `ImageStripLine` and `VideoBeat`. -/
structure PlacedText (ρ : Type) extends CitedText where
  role : ρ

abbrev DescriptionSection := PlacedText DescriptionRole

abbrev ImageStripLine := PlacedText ImageRole

abbrev VideoBeat := PlacedText VideoRole

/-- `PriceSaleData`. -/
structure PriceSaleData where
  currency : Currency
  price : Amount
  anchorPrice : Amount
  quantity : Nat
  saleConfigured : Bool
  anchorMatchesFlag : saleConfigured = price.lt anchorPrice
  anchorAtLeastPrice : anchorPrice.lt price = false

/-- Every claim that a text of the copy cites. -/
def citedIds (title heroCopy : CitedText) (sections : List DescriptionSection)
    (tags : List CitedText) (strip : List ImageStripLine) (video : List VideoBeat)
    (pdfBlocks : List CitedText) : List Uuid :=
  title.claimIds ++ heroCopy.claimIds ++ tags.flatMap CitedText.claimIds ++
    sections.flatMap (fun item => item.claimIds) ++ strip.flatMap (fun item => item.claimIds) ++
      video.flatMap (fun item => item.claimIds) ++ pdfBlocks.flatMap CitedText.claimIds

/-- `ListingDraft`: copy before claim validation. -/
structure ListingDraft where
  title : CitedText
  descriptionSections : List DescriptionSection
  tags : List CitedText
  heroCopy : CitedText
  imageStrip : List ImageStripLine
  videoSequence : List VideoBeat
  priceSale : PriceSaleData
  claims : List ListingClaim
  pdfBlocks : List CitedText
  someClaim : claims ≠ []
  playbookFrames : imageStrip.map PlacedText.role = imageRoles
  playbookBeats : videoSequence.map PlacedText.role = videoBeats
  claimIdsUnique : (claims.map ListingClaim.claimId).Nodup
  citesOwnClaims : ∀ claimId ∈ citedIds title heroCopy descriptionSections tags imageStrip
    videoSequence pdfBlocks, claimId ∈ claims.map ListingClaim.claimId

end Agents
end MoneyMachine
