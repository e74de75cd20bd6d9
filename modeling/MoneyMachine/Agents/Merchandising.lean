import MoneyMachine.Domain.ClaimValidation

/-!
# Merchandising — listing copy from product facts

`draftFromFacts` joins the facts into sentences; each of them states claims, and each claim cites a fact.

`uuid5` is a parameter: the identifier of a claim is the hash of its kind, its fact and its statement.
-/

namespace MoneyMachine
namespace Agents

open MoneyMachine.Domain

/-! ## Errors -/

inductive MerchandisingError
  /-- `MerchandisingInputError`, with its text. -/
  | input (text : Text)
  /-- A `ValueError` of a template. -/
  | template (text : Text)
  /-- A contract refused its fields. -/
  | validation
  | key (key : FactKey)
  deriving DecidableEq

abbrev Outcome := Except MerchandisingError

/-! ## Input -/

variable {unicode : Unicode}

/-- `configured_listing_rules`, from `config/product_rules.yaml`. -/
def configuredListingRules : ListingRules :=
  { ruleVersion := ⟨lit "product-rules-v1", by decide +kernel, by decide +kernel⟩
    tags := 13
    images := 10
    videos := 1
    descriptionSections := 8
    quantity := 999
    imageRole := ⟨lit "listing_image", by decide +kernel, by decide +kernel⟩
    videoRole := ⟨lit "listing_video", by decide +kernel, by decide +kernel⟩ }

/-- A refusal of the input. -/
def inputError {α : Type} (text : Text) : Outcome α :=
  .error (.input text)

/-- `facts[key]`. -/
def factAt (request : MerchandisingInput unicode) (key : FactKey) : Outcome ProductFact :=
  match byKey request key with
  | some fact => .ok fact
  | none => .error (.key key)

/-! ## Claims from facts -/

/-- The name `uuid5` hashes for a claim. -/
def claimName (kind : ClaimKind) (factId : Uuid) (stated : Text) : Text :=
  kind.text ++ lit ":" ++ uuidChars factId ++ lit ":" ++ stated

section Generator

variable (uuid5 : Text → Uuid)

/-- `add`: the contract strips the statement, the name does not. -/
def makeClaim (kind : ClaimKind) (fact : ProductFact) (stated : Text) : Outcome ListingClaim :=
  match TrimmedText.parse stated with
  | none => .error .validation
  | some value =>
    .ok { claimId := uuid5 (claimName kind fact.factId stated)
          kind := kind
          factId := fact.factId
          statedValue := value }

/-- The claim that states a fact as a whole. -/
def factClaim (request : MerchandisingInput unicode) (kind : ClaimKind) (key : FactKey) :
    Outcome ListingClaim := do
  let fact ← factAt request key
  makeClaim uuid5 kind fact fact.factValue.chars

/-- One claim for each item of a fact. -/
def itemClaims (request : MerchandisingInput unicode) (kind : ClaimKind) (key : FactKey) :
    Outcome (List ListingClaim) := do
  let fact ← factAt request key
  (factItems fact.factValue.chars).mapM (makeClaim uuid5 kind fact)

/-- The claims of a draft, under the names the generator has for them. -/
structure ClaimGroups where
  identity : ListingClaim
  category : ListingClaim
  problem : ListingClaim
  page : ListingClaim
  hubs : List ListingClaim
  features : List ListingClaim
  variants : List ListingClaim
  devices : List ListingClaim
  dashboard : ListingClaim
  access : ListingClaim
  price : ListingClaim
  anchor : ListingClaim
  shop : ListingClaim
  support : ListingClaim
  gift : ListingClaim
  currency : ListingClaim

/-- The claims in the order they were added. -/
def ClaimGroups.all (groups : ClaimGroups) : List ListingClaim :=
  [groups.identity, groups.category, groups.problem, groups.page] ++ groups.hubs ++
    groups.features ++ groups.variants ++ groups.devices ++
      [groups.dashboard, groups.access, groups.price, groups.anchor, groups.shop, groups.support,
        groups.gift, groups.currency]

def claimGroups (request : MerchandisingInput unicode) : Outcome ClaimGroups := do
  let identity ← factClaim uuid5 request .identity .identity
  let category ← factClaim uuid5 request .category .baseCategory
  let problem ← factClaim uuid5 request .buyerProblem .buyerProblem
  let page ← factClaim uuid5 request .pageCount .pageCount
  let hubs ← itemClaims uuid5 request .hub .hubs
  let features ← itemClaims uuid5 request .feature .features
  let variants ← itemClaims uuid5 request .variant .colourNames
  let devices ← itemClaims uuid5 request .device .supportedDevices
  let dashboard ← factClaim uuid5 request .dashboard .dashboardOutputs
  let access ← factClaim uuid5 request .access .secretLinks
  let price ← factClaim uuid5 request .price .price
  let anchor ← factClaim uuid5 request .anchor .anchorPrice
  let shop ← factClaim uuid5 request .shop .shopName
  let support ← factClaim uuid5 request .support .support
  let gift ← factClaim uuid5 request .freeGift .freeGift
  let currency ← factClaim uuid5 request .currency .currency
  .ok { identity, category, problem, page, hubs, features, variants, devices, dashboard, access,
        price, anchor, shop, support, gift, currency }

/-- `claims[claim.claim_id] = claim`. -/
def insertClaim (claims : List ListingClaim) (claim : ListingClaim) : List ListingClaim :=
  if claims.any (fun other => decide (other.claimId = claim.claimId)) then
    claims.map (fun other => if other.claimId = claim.claimId then claim else other)
  else
    claims ++ [claim]

/-! ## Sentences -/

/-- `CitedText(...)` of a rendered text. -/
def citedText (templateId : Text) (text : Text) (claimIds : List Uuid) : Outcome CitedText :=
  match TrimmedText.parse templateId, TrimmedText.parse text with
  | some templateId, some text =>
    if h : claimIds = [] then
      .error .validation
    else
      .ok { templateId := templateId, text := text, claimIds := claimIds, cites := h }
  | _, _ => .error .validation

/-- `_rendered`. -/
def rendered (unicode : Unicode) (templateId : Text) (claims : List ListingClaim)
    (quantity : Nat) : Outcome Text :=
  match render unicode templateId (claims.map ListingClaim.slot) quantity with
  | .ok text => .ok text
  | .error e => .error (.template e)

/-- `_cite`. -/
def cite (unicode : Unicode) (templateId : Text) (claims : List ListingClaim) (quantity : Nat) :
    Outcome CitedText := do
  let text ← rendered unicode templateId claims quantity
  citedText templateId text (claims.map ListingClaim.claimId)

/-- `_section`, `_image` and `_beat`. -/
def place {ρ : Type} (unicode : Unicode) (quantity : Nat) (role : ρ) (templateId : Text)
    (claims : List ListingClaim) : Outcome (PlacedText ρ) := do
  let item ← cite unicode templateId claims quantity
  .ok { toCitedText := item, role := role }

/-- The roles, templates and claims of the description. -/
def sectionRows (groups : ClaimGroups) :
    List (DescriptionRole × Text × List ListingClaim) :=
  [(.hook, lit "hook", [groups.identity, groups.category, groups.problem]),
    (.included, lit "included", groups.page :: groups.hubs),
    (.audience, lit "audience", [groups.identity, groups.shop]),
    (.howItWorks, lit "access_line", [groups.access]),
    (.features, lit "features", groups.features ++ [groups.dashboard]),
    (.variants, lit "variant_devices", groups.variants ++ groups.devices),
    (.support, lit "support", [groups.support, groups.gift]),
    (.offer, lit "offer", [groups.price, groups.currency, groups.anchor])]

/-- `_sections`. -/
def sections (unicode : Unicode) (quantity : Nat) (groups : ClaimGroups) :
    Outcome (List DescriptionSection) :=
  (sectionRows groups).mapM (fun row => place unicode quantity row.1 row.2.1 row.2.2)

/-- `_image_strip`. -/
def imageStrip (unicode : Unicode) (quantity : Nat) (groups : ClaimGroups) :
    Outcome (List ImageStripLine) := do
  let hero ← place unicode quantity .hero (lit "hero") [groups.identity, groups.problem]
  let overview ← place unicode quantity .overview (lit "overview") [groups.page, groups.identity]
  let colourOptions ← place unicode quantity .colourOptions (lit "variant_line") groups.variants
  let devices ← place unicode quantity .devices (lit "device_line") groups.devices
  let howItWorks ← place unicode quantity .howItWorks (lit "access_line") [groups.access]
  match groups.hubs with
  | first :: second :: third :: fourth :: fifth :: _ => do
      let hub1 ← place unicode quantity .hub1 (lit "hub_frame") [first]
      let hub2 ← place unicode quantity .hub2 (lit "hub_frame") [second]
      let hub3 ← place unicode quantity .hub3 (lit "hub_frame") [third]
      let hub4 ← place unicode quantity .hub4 (lit "hub_frame") [fourth]
      let hub5 ← place unicode quantity .hub5 (lit "hub_frame") [fifth]
      .ok [hero, overview, hub1, hub2, hub3, hub4, hub5, colourOptions, devices, howItWorks]
  -- `zip(..., strict=True)` with fewer than five hubs.
  | _ => .error .validation

/-- The roles, templates and claims of the video. -/
def videoRows (groups : ClaimGroups) : List (VideoRole × Text × List ListingClaim) :=
  [(.dashboard, lit "video_dashboard", [groups.dashboard]),
    (.notificationPanel, lit "video_notification", [groups.dashboard]),
    (.strongestHubs, lit "video_hubs", groups.hubs.take 3),
    (.colourOptions, lit "variant_line", groups.variants),
    (.duplicationAccess, lit "access_line", [groups.access])]

/-- `_video`. -/
def video (unicode : Unicode) (quantity : Nat) (groups : ClaimGroups) :
    Outcome (List VideoBeat) :=
  (videoRows groups).mapM (fun row => place unicode quantity row.1 row.2.1 row.2.2)

/-- The claims a tag may be made of. -/
def tagSources (groups : ClaimGroups) : List ListingClaim :=
  [groups.identity, groups.category] ++ groups.features ++ groups.variants ++ [groups.shop] ++
    groups.hubs ++ groups.devices

/-- `_tags`, with the tags and the texts so far. -/
def tagsFrom (unicode : Unicode) (rules : ListingRules) :
    List ListingClaim → List CitedText → List Text → Outcome (List CitedText)
  | [], tags, _ =>
    inputError (lit "facts do not yield " ++ decimal rules.tags ++ lit " grounded tags, got " ++
      decimal tags.length)
  | claim :: rest, tags, seen =>
    if claim.kind ∈ tagKinds then do
      let text ← rendered unicode (lit "tag") [claim] rules.quantity
      if text = [] ∨ text ∈ seen then
        tagsFrom unicode rules rest tags seen
      else do
        let tag ← citedText (lit "tag") text [claim.claimId]
        let tags := tags ++ [tag]
        if tags.length = rules.tags then
          .ok tags
        else
          tagsFrom unicode rules rest tags (seen ++ [text])
    else
      tagsFrom unicode rules rest tags seen

/-! ## The draft -/

def Currency.parse (text : Text) : Option Currency :=
  if h : text.length = 3 ∧ text.all (fun c => decide ('A' ≤ c ∧ c ≤ 'Z')) = true then
    some { chars := text, length := h.1, letters := h.2 }
  else
    none

/-- `PriceSaleData(...)` of the input. -/
def priceSaleData (request : MerchandisingInput unicode) (currency : Text) :
    Outcome PriceSaleData :=
  match Currency.parse currency with
  | none => .error .validation
  | some currency =>
    .ok { currency := currency
          price := request.price
          anchorPrice := request.anchorPrice
          quantity := request.rules.quantity
          saleConfigured := request.price.lt request.anchorPrice
          anchorMatchesFlag := rfl
          anchorAtLeastPrice := request.anchorAtLeastPrice }

/-- `ListingDraft(...)`: the contract checks the frames, the beats and the claims. -/
def listingDraft (title heroCopy : CitedText) (sections : List DescriptionSection)
    (tags : List CitedText) (strip : List ImageStripLine) (video : List VideoBeat)
    (priceSale : PriceSaleData) (claims : List ListingClaim) : Outcome ListingDraft :=
  if h : claims ≠ [] ∧ strip.map PlacedText.role = imageRoles ∧
      video.map PlacedText.role = videoBeats ∧ (claims.map ListingClaim.claimId).Nodup ∧
        (citedIds title heroCopy sections tags strip video []).all
          (fun claimId => decide (claimId ∈ claims.map ListingClaim.claimId)) = true then
    .ok { title := title
          descriptionSections := sections
          tags := tags
          heroCopy := heroCopy
          imageStrip := strip
          videoSequence := video
          priceSale := priceSale
          claims := claims
          pdfBlocks := []
          someClaim := h.1
          playbookFrames := h.2.1
          playbookBeats := h.2.2.1
          claimIdsUnique := h.2.2.2.1
          citesOwnClaims := fun claimId hid =>
            of_decide_eq_true (List.all_eq_true.1 h.2.2.2.2 claimId hid) }
  else
    .error .validation

/-- `_draft_from_facts`. -/
def draftFromFacts (request : MerchandisingInput unicode) : Outcome ListingDraft := do
  let quantity := request.rules.quantity
  let groups ← claimGroups uuid5 request
  let described ← sections unicode quantity groups
  if described.map PlacedText.role ≠ descriptionRoles then
    inputError (lit "generator did not emit the eight description roles")
  else do
    let tags ← tagsFrom unicode request.rules (tagSources groups) [] []
    let hero ← cite unicode (lit "hero") [groups.identity, groups.problem] quantity
    let strip ← imageStrip unicode quantity groups
    let beats ← video unicode quantity groups
    let priceSale ← priceSaleData request groups.currency.statedValue.chars
    let title ← cite unicode (lit "title") [groups.identity, groups.category] quantity
    listingDraft title hero described tags strip beats priceSale
      (groups.all.foldl insertClaim [])

end Generator

/-! ## A sample product -/

/-- `uuid5` on the names of the sample's claims. -/
def sampleUuid5 (name : Text) : Uuid :=
  let table : List (Text × Uuid) :=
    [(claimName .identity 9 (lit "Ann"), 0x3824DDDFE80D5076B03833AFD7BB3365),
      (claimName .category 10 (lit "Log"), 0xB42636F6E30C585FABB7CE8167ACC61E),
      (claimName .buyerProblem 11 (lit "Lost"), 0x911FD198DC02594A8CF7A86CD4FC5A18),
      (claimName .pageCount 1 (lit "7"), 0xE90AB678EB0A5FAB8EA46E5BF96CC9BA),
      (claimName .hub 2 (lit "A"), 0x09EFFEB41F0B54D8A89B90640ED8343C),
      (claimName .hub 2 (lit "B"), 0xEA040539E38B57668440E55AA4A8AB80),
      (claimName .hub 2 (lit "C"), 0x04237C910DCA5307AD59E07387C735C8),
      (claimName .hub 2 (lit "D"), 0x48FA9132830F5DDCB5DD3180D34D5589),
      (claimName .hub 2 (lit "E"), 0xD3B633C9395D5F4597B34C7E26FD3A61),
      (claimName .feature 4 (lit "F"), 0x761D58357B1B543F90C1ACEC343D7112),
      (claimName .feature 4 (lit "G"), 0xCCCF772FBDCC5CAD930A656EFB6E6F37),
      (claimName .feature 4 (lit "H"), 0xEAF5E1C271765F2DA7243C08A0E74228),
      (claimName .variant 3 (lit "I"), 0x61080170B5275C11B8601971F2D12174),
      (claimName .device 15 (lit "K "), 0x0460E8C7C1065C87BC0331E3D9CEC777),
      (claimName .device 15 (lit "L"), 0x316887F393AF5797A56797C2C455B04D),
      (claimName .device 15 (lit "K"), 0x90494B9C6C8B55DCA7FDADE527E1A8DF),
      (claimName .dashboard 14 (lit "absent"), 0xF742E734F1A95F78B5AAA45D21D8B964),
      (claimName .access 16 (lit "https://notion.so/x"), 0xD13C461CA75D54CC88C80493209C6AC7),
      (claimName .price 6 (lit "1"), 0xF070BD96E8405DD2AB49D41A74BF7FDA),
      (claimName .anchor 7 (lit "1"), 0x767603F4A7EB59E7AB54E768A34D696B),
      (claimName .shop 5 (lit "J"), 0xFE32B88DBD9B54D29D89F8A7932EB83B),
      (claimName .support 12 (lit "not_offered"), 0x873C4573BABE53A8B773BE416AC069FB),
      (claimName .freeGift 13 (lit "not_offered"), 0xCFB26FCAB16B5FE69DE3F796595DA7CC),
      (claimName .currency 8 (lit "EUR"), 0xBB296004FD115E1FA757F35781B5AD98)]
  (table.lookup name).getD 0

def sampleText (text : String)
    (h : trim (lit text) = lit text ∧ lit text ≠ [] := by decide +kernel) : TrimmedText :=
  { chars := lit text, nonempty := h.2, trimmed := h.1 }

def sampleFact (n : Nat) (key : FactKey) (value : TrimmedText) : ProductFact :=
  { factId := BitVec.ofNat 128 n, productId := 1, specId := 1, factKey := key, factValue := value }

def sampleFacts (devices : TrimmedText) : List ProductFact :=
  [sampleFact 1 .pageCount (sampleText "7"), sampleFact 2 .hubs (sampleText "A|B|C|D|E"),
    sampleFact 3 .colourNames (sampleText "I"), sampleFact 4 .features (sampleText "F|G|H"),
    sampleFact 5 .shopName (sampleText "J"), sampleFact 6 .price (sampleText "1"),
    sampleFact 7 .anchorPrice (sampleText "1"), sampleFact 8 .currency (sampleText "EUR"),
    sampleFact 9 .identity (sampleText "Ann"), sampleFact 10 .baseCategory (sampleText "Log"),
    sampleFact 11 .buyerProblem (sampleText "Lost"), sampleFact 12 .support (sampleText "not_offered"),
    sampleFact 13 .freeGift (sampleText "not_offered"),
    sampleFact 14 .dashboardOutputs (sampleText "absent"), sampleFact 15 .supportedDevices devices,
    sampleFact 16 .secretLinks (sampleText "https://notion.so/x")]

def samplePrice : Amount :=
  { coefficient := 1, exponent := 0, positive := by decide }

def sampleSpec : ProductSpec :=
  { specId := 1
    productId := 1
    identity := sampleText "Ann"
    baseCategory := sampleText "Log"
    buyerProblem := sampleText "Lost"
    realPrice := samplePrice
    anchorPrice := samplePrice
    currency :=
      { chars := lit "EUR", length := by decide +kernel, letters := by decide +kernel }
    features := [sampleText "F", sampleText "G", sampleText "H"] }

/-- A small planner, under some rules and with the devices its fact names. -/
def sampleRequest (rules : ListingRules) (devices : TrimmedText) :
    MerchandisingInput Unicode.ascii :=
  { spec := sampleSpec
    facts := sampleFacts devices
    hubs := [sampleText "A", sampleText "B", sampleText "C", sampleText "D", sampleText "E"]
    pageCount := 7
    variants := [⟨sampleText "I"⟩]
    notificationDashboard :=
      { present := false, outputs := [], outputsMatchPresence := by decide, noPipe := by simp }
    shopName := sampleText "J"
    price := samplePrice
    anchorPrice := samplePrice
    support :=
      { offered := false, channel := none, channelMatchesOffer := rfl, noPipe := by simp }
    freeGift :=
      { offered := false
        name := none
        community := none
        nameMatchesOffer := rfl
        communityNeedsOffer := by simp
        noPipe := by simp
        noLink := by simp }
    rules := rules
    someFact := by simp [sampleFacts]
    someVariant := by simp
    somePage := by decide
    anchorAtLeastPrice := by decide
    factIdsUnique := by simp [sampleFacts, sampleFact]
    factKeysUnique := by simp [sampleFacts, sampleFact]
    factsBelongToSpec := by simp [sampleFacts, sampleFact, sampleSpec] }

end Agents
end MoneyMachine
