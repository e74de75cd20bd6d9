import MoneyMachine.Agents.MerchandisingContract

/-!
# ClaimValidation — listing copy against the product facts

`validateClaims` runs fifteen rules and passes when none of them has a correction.  A claim is matched
with its fact in two places: each rule of a class matches the claims of its kind, and `holds` decides
which claims a sentence may rest on.  A sentence that rests on a claim which does not hold is skipped
by `rejectUnboundText`; that the copy is refused nevertheless rests on the other rules.
-/

namespace MoneyMachine
namespace Domain

open MoneyMachine.Agents
open MoneyMachine.Library

/-! ## Patterns -/

/-- `_NUMBER_WORDS`. -/
def numberWords : List String :=
  ["one|two|three|four|five|six|seven|", "eight|nine|ten|eleven|twelve|", "thirteen|fourteen|fifteen|",
    "sixteen|seventeen|eighteen|", "nineteen|twenty|thirty|forty|", "fifty|sixty|seventy|eighty|",
    "ninety|hundred|thousand"]

/-- `_PAGE_UNIT`. -/
def pageUnit : List String :=
  [r"(?:(?:printable|bonus)[\s\-]+)?", r"(?:pp|pages?)\b"]

/-- `_PAGE_NUMBERS`. -/
def pageNumbers : Re :=
  Re.compile ([r"(?<!\d)(\d+)\s*[+\-]?\s*"] ++ pageUnit ++ [r"|\b((?:(?:over|plus)\s+)?(?:"] ++
    numberWords ++ [r")(?:[\s\-]+(?:"] ++ numberWords ++ [r"))*)", r"[\s\-]+"] ++ pageUnit)

/-- `_LAYOUT_TAIL`. -/
def layoutTail : Re :=
  Re.compile [r"[\s\-]+(?:(?:daily|weekly|", r"monthly|yearly|annual)\s+)?",
    r"(?:per|layouts?|spreads?|summary|", r"summaries|views?|overviews?)\b"]

/-- `(\d+)[\s\-]+page`. -/
def layoutDigits : Re :=
  Re.compile [r"(\d+)[\s\-]+page"]

def layoutWord : Re :=
  Re.compile (["("] ++ numberWords ++ [r")[\s\-]+page"])

/-- `_LAYOUT_WORD_VALUE`. -/
def layoutWordValue : List (String × Nat) :=
  [("one", 1), ("two", 2), ("three", 3), ("four", 4), ("five", 5), ("six", 6), ("seven", 7),
    ("eight", 8), ("nine", 9), ("ten", 10), ("eleven", 11), ("twelve", 12)]

/-- `_EXACT_SAVINGS`. -/
def exactSavings : Re :=
  Re.compile [r"\bautomatic savings planner\b"]

/-- `_REVIEW_BEFORE`. -/
def reviewBefore : List String :=
  [r"\d[\d,]*(?:\.\d+)?\s*k?\+?\s*", r"(?:(?:average|avg\.?|customer|", r"buyer|verified)\s+)?",
    r"(?:reviews?|ratings?)(?![^\W_])"]

/-- `_REVIEW_AFTER`. -/
def reviewAfter : List String :=
  [r"(?<![^\W_])(?:reviews?|ratings?)", r"\s*[:=]?\s*\d[\d,]*"]

/-- The patterns of the five classes that prose may not state. -/
inductive ProsePattern
  | automation
  | review
  | sales
  | trust
  | social
  deriving DecidableEq, Repr

/-- `_AUTOMATION`, `_REVIEW`, `_SALES`, `_TRUST` and `_SOCIAL`. -/
def ProsePattern.re : ProsePattern → Re
  | .automation =>
    Re.compile [r"automat\w*|\bauto-[\w-]+|", r"\bunattended|\bhands[-\s]free\b|", r"autofill\w*"]
  | .review =>
    Re.compile ([r"top[-\s_.]?rated|\bhighly reviewed\b|", r"testimonials?|\brated\b|\bfive-star\b",
      r"|\brav(?:ing|es|ed|e)(?:reviews?|(?!\w))", r"|\b(?:\d[\d,]*|five|four|three|two|one)",
      r"[\s-]*stars?(?!ry\b)", r"|\bstars?[\s-]+reviews?\b", "|"] ++ reviewBefore ++ ["|"] ++
        reviewAfter ++ [r"|\baverage\s+(?:reviews?|ratings?)\b"])
  | .sales =>
    Re.compile [r"best[-\s_.]?sell(?:ers?|ing)", r"|\bunits sold\b|",
      r"\d[\d,]*(?:\.\d+)?\s*k?\+?\s+sold\b", r"|\d[\d,]*\+?\s+downloads\b", r"|\d+\s*k\s+downloads\b",
      r"|(?<!\b(?:room|goal|step|part|week|book)\s)", r"(?<!\blevel\s)(?<!\bchapter\s)",
      r"(?<!\b(?:day|lap)\s)#\s*0*1(?!\d)", r"|#\s*0*1(?!\d)[\s\-,]+", r"(?:on|in|pick|seller)\b",
      r"|\d[\d,]*(?:\.\d+)?\s*k?\+?\s+orders\b", r"|(?<![^\W_])(?:sold|orders)\s+\d",
      r"|\borders on file\b"]
  | .trust =>
    Re.compile [r"\btrust bars?\b|\btrusted by\b|", r"\bas seen (?:in|on)\b|", r"\bmoney[-\s]back\b|",
      r"\bfeatured in\b|", r"\bsatisfaction guaranteed\b"]
  | .social =>
    Re.compile [r"\bcustomers love\b|\busers say\b|", r"\bthousands of\b|", r"\bcommunity of\s+\d+|",
      r"\bloved by\b|", r"\d[\d,]*\+?\s+happy customers\b|", r"\bjoin\s+\d[\d,]*(?![\d,])\+?",
      r"(?![+\s-]*(?:days?|weeks?|", r"months?|minutes?|hours?)\b)"]

/-- `_PUNCT`. -/
def punct : String := r"[._/\-+;:=(,)]"

/-- `_SEPARATOR_RUN`. -/
def separatorRun : List String :=
  [r"(?:\s|", punct, ")*", punct, r"(?:\s|", punct, ")*"]

/-- `_COUNT_WORD`. -/
def countWord : String := r"(?:reviews?|ratings?|sold|orders)(?![^\W_])"

/-- `_COLLAPSE_BEFORE`. -/
def collapseBefore : Re :=
  Re.compile ([r"(?<=[\dk+])"] ++ separatorRun ++ ["(?=", countWord, ")"])

/-- `_COLLAPSE_AFTER`. -/
def collapseAfter : Re :=
  Re.compile ([r"(?<![^\W_])(reviews?|ratings?|", "sold|orders)"] ++ separatorRun ++ [r"(?=\d)"])

/-! ## Kinds and keys -/

/-- `_SPECIAL_KINDS`. -/
def specialKinds : List ClaimKind :=
  [.pageCount, .feature, .variant, .automation, .review, .salesPerformance, .trustBar, .socialProof]

/-- `_LIST_KINDS`. -/
def listKinds : List ClaimKind :=
  [.feature, .variant, .hub, .device, .database]

/-- `TAG_KINDS`. -/
def tagKinds : List ClaimKind :=
  [.identity, .category, .feature, .variant, .shop, .hub, .device]

/-- `_KIND_KEY`. -/
def kindKey : ClaimKind → FactKey
  | .pageCount => .pageCount
  | .feature => .features
  | .variant => .colourNames
  | .automation => .automation
  | .review => .reviews
  | .salesPerformance => .salesCount
  | .trustBar => .trustBar
  | .socialProof => .socialProof
  | .hub => .hubs
  | .dashboard => .dashboardOutputs
  | .device => .supportedDevices
  | .price => .price
  | .anchor => .anchorPrice
  | .currency => .currency
  | .support => .support
  | .freeGift => .freeGift
  | .shop => .shopName
  | .identity => .identity
  | .category => .baseCategory
  | .buyerProblem => .buyerProblem
  | .database => .databases
  | .access => .secretLinks

/-- `_ROLE_TEMPLATE`, for the sections. -/
def sectionTemplate : DescriptionRole → Text
  | .hook => lit "hook"
  | .included => lit "included"
  | .audience => lit "audience"
  | .howItWorks => lit "access_line"
  | .features => lit "features"
  | .variants => lit "variant_devices"
  | .support => lit "support"
  | .offer => lit "offer"

/-- `_ROLE_TEMPLATE`, for the image strip. -/
def imageTemplate : ImageRole → Text
  | .hero => lit "hero"
  | .overview => lit "overview"
  | .hub1 => lit "hub_frame"
  | .hub2 => lit "hub_frame"
  | .hub3 => lit "hub_frame"
  | .hub4 => lit "hub_frame"
  | .hub5 => lit "hub_frame"
  | .colourOptions => lit "variant_line"
  | .devices => lit "device_line"
  | .howItWorks => lit "access_line"

/-- `_ROLE_TEMPLATE`, for the video. -/
def videoTemplate : VideoRole → Text
  | .dashboard => lit "video_dashboard"
  | .notificationPanel => lit "video_notification"
  | .strongestHubs => lit "video_hubs"
  | .colourOptions => lit "variant_line"
  | .duplicationAccess => lit "access_line"

section Rules

variable (unicode : Unicode)

/-! ## Counts and classes in a text -/

/-- `int(digits)`. -/
def digitsValue (digits : Text) : Nat :=
  digits.foldl (fun value c => 10 * value + unicode.decimalValue c) 0

/-- `_layout_number`. -/
def layoutNumber (text : Text) : Option Nat :=
  match fullmatch unicode.alphabet true layoutDigits text with
  | some m => some (digitsValue unicode ((m.group 1).getD []))
  | none =>
    match fullmatch unicode.alphabet true layoutWord text with
    | some m =>
      let word := unicode.casefold ((m.group 1).getD [])
      (layoutWordValue.find? (fun entry => decide (lit entry.1 = word))).map Prod.snd
    | none => none

/-- `_layout_span`. -/
def layoutSpan (m : Match) (builtCount : Option Nat) : Bool :=
  match matchFrom unicode.alphabet false layoutTail m.last with
  | none => false
  | some _ =>
    match layoutNumber unicode m.text with
    | none => false
    | some number => decide (number = 1 ∨ some number = builtCount)

/-- `page_counts`. -/
def pageCounts (folded : Text) (builtCount : Option Nat) : List Match :=
  (finditer unicode.alphabet true pageNumbers folded).filter
    (fun m => !layoutSpan unicode m builtCount)

/-- `_prose_automation_text`. -/
def proseAutomationText (folded : Text) : Text :=
  sub unicode.alphabet false exactSavings (fun _ => [' ']) folded

/-- `_count_scan`. -/
def countScan (text : Text) : Text :=
  sub unicode.alphabet false collapseAfter (fun m => (m.group 1).getD [] ++ [' '])
    (sub unicode.alphabet false collapseBefore (fun _ => [' ']) text)

/-- `_count_patterns`. -/
def countPatterns (pattern : ProsePattern) : Bool :=
  decide (pattern = .review ∨ pattern = .sales)

/-! ## Claims and their facts -/

variable {unicode}

/-- `_by_id`. -/
def byId (request : MerchandisingInput unicode) (factId : Uuid) : Option ProductFact :=
  request.facts.find? (fun fact => decide (fact.factId = factId))

/-- `_by_key`. -/
def byKey (request : MerchandisingInput unicode) (key : FactKey) : Option ProductFact :=
  request.facts.find? (fun fact => decide (fact.factKey = key))

/-- `_first`. -/
def firstOf (copy : ListingDraft) (kind : ClaimKind) : Option ListingClaim :=
  copy.claims.find? (fun claim => decide (claim.kind = kind))

/-- `{claim.claim_id: claim for claim in copy.claims}`. -/
def claimById (copy : ListingDraft) (claimId : Uuid) : Option ListingClaim :=
  copy.claims.find? (fun claim => decide (claim.claimId = claimId))

/-- `_fact_sourced`. -/
def factSourced (kind : ClaimKind) (cited : ProductFact) : Option (List Text) → Bool
  | none => true
  | some actual =>
    if kind ∈ listKinds then
      decide (factItems cited.factValue.chars = actual)
    else
      decide (cited.factValue.chars ∈ actual)

/-- `_kind_matches`. -/
def kindMatches (claim : ListingClaim) (cited : ProductFact) (listValued : Bool)
    (actual : Option (List Text)) : Bool :=
  decide (cited.factKey = kindKey claim.kind) && factSourced claim.kind cited actual &&
    (if listValued then
      decide (claim.statedValue.chars ∈ factItems cited.factValue.chars)
    else
      decide (claim.statedValue.chars = cited.factValue.chars))

/-- `_statement_matches`. -/
def statementMatches (claim : ListingClaim) (cited : ProductFact) : Bool :=
  decide (cited.factKey = kindKey claim.kind) &&
    (if claim.kind ∈ listKinds then
      decide (claim.statedValue.chars ∈ factItems cited.factValue.chars)
    else
      decide (claim.statedValue.chars = cited.factValue.chars))

def variantNames (request : MerchandisingInput unicode) : List Text :=
  request.variants.map (fun variant => variant.name.chars)

def featureNames (request : MerchandisingInput unicode) : List Text :=
  request.spec.features.map TrimmedText.chars

/-- `_actual_for`. -/
def actualFor (kind : ClaimKind) (request : MerchandisingInput unicode) : Option (List Text) :=
  match kind with
  | .pageCount => some [decimal request.pageCount]
  | .variant => some (variantNames request)
  | .feature => some (featureNames request)
  | _ => none

/-- `_holds`. -/
def holds (claim : ListingClaim) (request : MerchandisingInput unicode) : Bool :=
  match byId request claim.factId with
  | none => false
  | some cited =>
    if claim.kind ∈ specialKinds then
      kindMatches claim cited (decide (claim.kind ∈ listKinds)) (actualFor claim.kind request)
    else
      statementMatches claim cited

/-- `_holding_values`. -/
def holdingValues (copy : ListingDraft) (request : MerchandisingInput unicode)
    (claimIds : List Uuid) (kind : ClaimKind) : List Text :=
  claimIds.filterMap (fun claimId =>
    (claimById copy claimId).bind (fun claim =>
      if claim.kind = kind ∧ holds claim request = true then
        some claim.statedValue.chars
      else
        none))

/-! ## Surfaces -/

/-- One row of `_bound_surfaces`. -/
structure Surface where
  text : Text
  claimIds : List Uuid
  templateId : Text
  required : Text
  deriving DecidableEq

def CitedText.surface (item : CitedText) (required : Text) : Surface :=
  { text := item.text.chars
    claimIds := item.claimIds
    templateId := item.templateId.chars
    required := required }

/-- `_bound_surfaces`. -/
def boundSurfaces (copy : ListingDraft) : List Surface :=
  [CitedText.surface copy.title (lit "title"), CitedText.surface copy.heroCopy (lit "hero")] ++
    copy.descriptionSections.map (fun item =>
      CitedText.surface item.toCitedText (sectionTemplate item.role)) ++
    copy.imageStrip.map (fun item =>
      CitedText.surface item.toCitedText (imageTemplate item.role)) ++
    copy.videoSequence.map (fun item =>
      CitedText.surface item.toCitedText (videoTemplate item.role)) ++
    copy.tags.map (fun item => CitedText.surface item (lit "tag")) ++
    copy.pdfBlocks.map (fun item => CitedText.surface item item.templateId.chars)

/-- `_resolve`. -/
def resolve (copy : ListingDraft) : List Uuid → Option (List ListingClaim)
  | [] => none
  | claimIds => claimIds.mapM (claimById copy)

/-! ## Corrections -/

/-- `_issue`. -/
def issue (claim : ListingClaim) (rejectionClass : RejectionClass) (factId : Option Uuid)
    (correction : Text) : ClaimCorrection :=
  { claimId := claim.claimId
    rejectionClass := rejectionClass
    factId := factId
    correction := correction }

/-- `_surface_issue`. -/
def surfaceIssue (copy : ListingDraft) (claimIds : List Uuid) (correction : Text) :
    ClaimCorrection :=
  let anchor := (claimIds.head?.bind (claimById copy)).or copy.claims.head?
  { claimId := anchor.elim 0 ListingClaim.claimId
    rejectionClass := .unboundText
    factId := anchor.map ListingClaim.factId
    correction := correction }

/-- The first claim of the copy. -/
def anchorClaim (copy : ListingDraft) : ListingClaim :=
  copy.claims.head copy.someClaim

/-- One character in the `repr` of a text. -/
def reprChar (unicode : Unicode) (quote c : Char) : Text :=
  let code := c.toNat
  if c = quote ∨ c = '\\' then
    ['\\', c]
  else if c = '\t' then
    ['\\', 't']
  else if c = '\n' then
    ['\\', 'n']
  else if c = '\r' then
    ['\\', 'r']
  else if 32 ≤ code ∧ code < 127 then
    [c]
  else if 127 < code ∧ unicode.isPrintable c = true then
    [c]
  else if code < 256 then
    ['\\', 'x'] ++ hexDigits 2 code
  else if code < 65536 then
    ['\\', 'u'] ++ hexDigits 4 code
  else
    ['\\', 'U'] ++ hexDigits 8 code

/-- `repr(text)`. -/
def pyRepr (unicode : Unicode) (text : Text) : Text :=
  let quote := if '\'' ∈ text ∧ '"' ∉ text then '"' else '\''
  [quote] ++ text.flatMap (reprChar unicode quote) ++ [quote]

/-! ## Rules -/

variable (copy : ListingDraft) (request : MerchandisingInput unicode)

/-- `reject_unknown_fact`. -/
def rejectUnknownFact : List ClaimCorrection :=
  copy.claims.filterMap (fun claim =>
    if claim.factId ∈ request.facts.map ProductFact.factId then
      none
    else
      some (issue claim .unknownFact (some claim.factId)
        (lit "unknown_fact: claim " ++ uuidChars claim.claimId ++ lit " cites " ++
          uuidChars claim.factId ++ lit " which is not a ProductFact on this product")))

/-- The claims of a kind that do not match their fact. -/
def rejectKind (kind : ClaimKind) (rejectionClass : RejectionClass) (listValued : Bool)
    (actual : Option (List Text)) : List ClaimCorrection :=
  copy.claims.filterMap (fun claim =>
    if claim.kind ≠ kind then
      none
    else
      (byId request claim.factId).bind (fun cited =>
        if kindMatches claim cited listValued actual then
          none
        else
          some (issue claim rejectionClass (some cited.factId)
            (rejectionClass.text ++ lit ": claim " ++ uuidChars claim.claimId ++ lit " states " ++
              pyRepr unicode claim.statedValue.chars ++ lit "; fact " ++ uuidChars cited.factId ++
                lit " (" ++ cited.factKey.text ++ lit ") is " ++
                  pyRepr unicode cited.factValue.chars))))

/-- `_span_inside`. -/
def spanInside (unicode : Unicode) (span : Text) (values : List Text) : Bool :=
  let needle := normalizeText unicode span
  decide (needle ≠ []) && values.any (fun value => decide (needle <:+: normalizeText unicode value))

/-- The text that a pattern scans. -/
def scannedText (unicode : Unicode) (pattern : ProsePattern) (text : Text) : Text :=
  let folded := normalizeText unicode text
  let scanned := if pattern = .automation then proseAutomationText unicode folded else folded
  if countPatterns pattern then countScan unicode scanned else scanned

/-- The statements a scan may find: those of the cited claims of the kind. -/
def scannedValues (pattern : ProsePattern) (copy : ListingDraft)
    (request : MerchandisingInput unicode) (claimIds : List Uuid) (kind : ClaimKind) : List Text :=
  let cited := holdingValues copy request claimIds kind
  if countPatterns pattern then
    cited.map (fun value => countScan unicode (normalizeText unicode value))
  else
    cited

/-- A surface states a class that no claim it cites states. -/
def statesClass (kind : ClaimKind) (pattern : ProsePattern) (surface : Surface) : Bool :=
  let values := scannedValues pattern copy request surface.claimIds kind
  (finditer unicode.alphabet true pattern.re (scannedText unicode pattern surface.text)).any
    (fun m => !spanInside unicode m.text values)

/-- The surfaces that state a class without a claim of it. -/
def rejectProse (kind : ClaimKind) (rejectionClass : RejectionClass) (pattern : ProsePattern) :
    List ClaimCorrection :=
  (boundSurfaces copy).filterMap (fun surface =>
    if statesClass copy request kind pattern surface then
      let anchor := firstOf copy kind
      some { claimId := anchor.elim 0 ListingClaim.claimId
             rejectionClass := rejectionClass
             factId := anchor.map ListingClaim.factId
             correction := rejectionClass.text ++
               lit ": prose makes that claim without a matching ProductFact" }
    else
      none)

/-- `_reject_special`. -/
def rejectSpecial (kind : ClaimKind) (rejectionClass : RejectionClass) (listValued : Bool)
    (actual : Option (List Text)) (pattern : Option ProsePattern) : List ClaimCorrection :=
  rejectKind copy request kind rejectionClass listValued actual ++
    pattern.elim [] (rejectProse copy request kind rejectionClass)

/-- The first page count of a surface that no page-count claim states. -/
def inventedCount (surface : Surface) : Option Text :=
  let folded := normalizeText unicode surface.text
  let holders := holdingValues copy request surface.claimIds .pageCount
  let numbers := (pageCounts unicode folded (some request.pageCount)).map
    (fun m => (m.group 1).getD m.text)
  numbers.find? (fun number =>
    !holders.any (fun item => decide (normalizeText unicode item = number)))

/-- `reject_invented_page_count`. -/
def rejectInventedPageCount : List ClaimCorrection :=
  let actual := decimal request.pageCount
  rejectSpecial copy request .pageCount .inventedPageCount false (some [actual]) none ++
    (boundSurfaces copy).filterMap (fun surface =>
      (inventedCount copy request surface).map (fun number =>
        { claimId := (firstOf copy .pageCount).elim 0 ListingClaim.claimId
          rejectionClass := .inventedPageCount
          factId := (byKey request .pageCount).map ProductFact.factId
          correction := lit "invented_page_count: prose states " ++ number ++
            lit " pages; built page count is " ++ actual }))

/-- `reject_nonexistent_feature`. -/
def rejectNonexistentFeature : List ClaimCorrection :=
  rejectSpecial copy request .feature .nonexistentFeature true (some (featureNames request)) none

/-- `reject_variant_not_built`. -/
def rejectVariantNotBuilt : List ClaimCorrection :=
  rejectSpecial copy request .variant .variantNotBuilt true (some (variantNames request)) none

/-- `reject_unsupported_automation`. -/
def rejectUnsupportedAutomation : List ClaimCorrection :=
  rejectSpecial copy request .automation .unsupportedAutomation false none (some .automation)

/-- `reject_invented_review`. -/
def rejectInventedReview : List ClaimCorrection :=
  rejectSpecial copy request .review .inventedReview false none (some .review)

/-- `reject_invented_sales`. -/
def rejectInventedSales : List ClaimCorrection :=
  rejectSpecial copy request .salesPerformance .inventedSales false none (some .sales)

/-- `reject_invented_trust_bar`. -/
def rejectInventedTrustBar : List ClaimCorrection :=
  rejectSpecial copy request .trustBar .inventedTrustBar false none (some .trust)

/-- `reject_unsupported_social_proof`. -/
def rejectUnsupportedSocialProof : List ClaimCorrection :=
  rejectSpecial copy request .socialProof .unsupportedSocialProof false none (some .social)

/-- `reject_unmatched_statement`: the kinds that have no rule of their own. -/
def rejectUnmatchedStatement : List ClaimCorrection :=
  copy.claims.filterMap (fun claim =>
    if claim.kind ∈ specialKinds then
      none
    else
      (byId request claim.factId).bind (fun cited =>
        if statementMatches claim cited then
          none
        else
          some (issue claim .unknownFact (some cited.factId)
            (lit "unknown_fact: claim " ++ uuidChars claim.claimId ++ lit " states " ++
              pyRepr unicode claim.statedValue.chars ++ lit " which is not fact " ++
                uuidChars cited.factId ++ lit " (" ++ cited.factKey.text ++ lit ")"))))

/-- `_tag_kind_allowed`. -/
def tagKindAllowed : List ListingClaim → Bool
  | [claim] => decide (claim.kind ∈ tagKinds)
  | _ => false

/-- The text is the template of the claims it cites. -/
def isBound (request : MerchandisingInput unicode) (surface : Surface)
    (cited : List ListingClaim) : Bool :=
  decide (surface.templateId = surface.required) &&
    match render unicode surface.templateId (cited.map ListingClaim.slot) request.rules.quantity with
    | .ok expected => decide (normalizeText unicode surface.text = normalizeText unicode expected)
    | .error _ => false

/-- What `reject_unbound_text` has against one surface. -/
def unboundText (surface : Surface) : Option Text :=
  if hasConcealment unicode surface.text then
    some (lit "unbound_text: " ++ surface.templateId ++
      lit " hides characters in the cited facts")
  else
    let refusal :=
      lit "unbound_text: " ++ surface.templateId ++ lit " is not the cited fact template"
    match resolve copy surface.claimIds with
    | none => some refusal
    | some cited =>
      -- A claim that does not hold is left to the other rules.
      if cited.any (fun claim => !holds claim request) then
        none
      else if surface.required = lit "tag" ∧ tagKindAllowed cited = false then
        some (lit "unbound_text: tag kind is not a tag fact")
      else if isBound request surface cited then
        none
      else
        some refusal

/-- `reject_unbound_text`. -/
def rejectUnboundText : List ClaimCorrection :=
  (boundSurfaces copy).filterMap (fun surface =>
    (unboundText copy request surface).map (surfaceIssue copy surface.claimIds))

/-- `reject_mixed_script`. -/
def rejectMixedScript (unicode : Unicode) (copy : ListingDraft) : List ClaimCorrection :=
  (boundSurfaces copy).filterMap (fun surface =>
    if scriptRejected unicode surface.text then
      some (surfaceIssue copy surface.claimIds (lit "unbound_text: " ++ surface.templateId ++
        lit " mixes a non-Latin letter into Latin text"))
    else
      none)

/-- The tags are as many as the rules say, and each is short, not empty and there once. -/
def tagsFit : Bool :=
  let normalized := copy.tags.map (fun tag => normalizeTag unicode tag.text.chars)
  decide (copy.tags.length = request.rules.tags) && decide normalized.Nodup &&
    normalized.all (fun tag => decide (tag.length ≤ etsyTagMax ∧ tag ≠ []))

/-- `reject_tag_count`. -/
def rejectTagCount : List ClaimCorrection :=
  if tagsFit copy request then
    []
  else
    [issue (anchorClaim copy) .tagCount none
      (lit "tag_count: listing requires exactly " ++ decimal request.rules.tags ++
        lit " unique tags of at most " ++ decimal etsyTagMax ++ lit " characters, got " ++
          decimal copy.tags.length)]

/-- `reject_section_count`. -/
def rejectSectionCount (copy : ListingDraft) : List ClaimCorrection :=
  if copy.descriptionSections.map PlacedText.role = descriptionRoles then
    []
  else
    [issue (anchorClaim copy) .sectionCount none
      (lit "section_count: description requires exactly " ++
        lit "these eight sections in order: " ++
          join (lit ", ") (descriptionRoles.map DescriptionRole.text))]

/-- The price of the copy is that of the product. -/
def priceFits : Bool :=
  let data := copy.priceSale
  decide (data.currency = request.spec.currency) && data.price.same request.price &&
    data.anchorPrice.same request.anchorPrice

/-- `reject_price_mismatch`. -/
def rejectPriceMismatch : List ClaimCorrection :=
  if priceFits copy request then
    []
  else
    let data := copy.priceSale
    [issue ((firstOf copy .price).getD (anchorClaim copy)) .unknownFact
      ((byKey request .price).map ProductFact.factId)
      (lit "unknown_fact: price_sale is " ++ data.price.text ++ lit " / " ++
        data.anchorPrice.text ++ lit " " ++ data.currency.chars ++ lit "; facts are " ++
          request.price.text ++ lit " / " ++ request.anchorPrice.text ++ lit " " ++
            request.spec.currency.chars)]

/-- `ClaimValidation`. -/
structure ClaimValidation where
  passed : Bool
  corrections : List ClaimCorrection

/-- `validate_claims`. -/
def validateClaims : ClaimValidation :=
  let corrections :=
    rejectUnknownFact copy request ++ rejectInventedPageCount copy request ++
      rejectNonexistentFeature copy request ++ rejectVariantNotBuilt copy request ++
        rejectUnsupportedAutomation copy request ++ rejectInventedReview copy request ++
          rejectInventedSales copy request ++ rejectInventedTrustBar copy request ++
            rejectUnsupportedSocialProof copy request ++ rejectUnmatchedStatement copy request ++
              rejectUnboundText copy request ++ rejectMixedScript unicode copy ++
                rejectTagCount copy request ++ rejectSectionCount copy ++
                  rejectPriceMismatch copy request
  { passed := decide (corrections.length = 0), corrections := corrections }

end Rules

end Domain
end MoneyMachine
