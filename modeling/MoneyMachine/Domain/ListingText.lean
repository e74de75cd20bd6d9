import MoneyMachine.Domain.Text
import MoneyMachine.Library.Ascii
import MoneyMachine.Library.Regex
import Mathlib.Data.List.Infix

/-!
# ListingText — listing sentences and the folding of texts

Buyer-facing text is a template of cited fact values.  The generator and the validator both call
`render`; comparison goes through `normalizeText`.

The tables of Unicode and of HTML entities are not part of the program.  They are a parameter,
`Unicode`, and everything here holds for any of them.
-/

namespace MoneyMachine
namespace Domain

open MoneyMachine.Library

/-! ## Texts -/

abbrev Text := List Char

def lit (text : String) : Text := text.toList

/-- `str(n)`. -/
def decimal (n : Nat) : Text := Nat.toDigits 10 n

/-- `sep.join(parts)`. -/
def join (sep : Text) (parts : List Text) : Text :=
  sep.intercalate parts

/-- `text.split()`. -/
def words (text : Text) : List Text :=
  (text.splitOnP isSpace).filter (fun word => decide (word ≠ []))

/-- `text.rstrip()`. -/
def rstrip (text : Text) : Text :=
  text.rdropWhile isSpace

/-- `text.strip()`. -/
def strip (text : Text) : Text :=
  rstrip (text.dropWhile isSpace)

theorem isSpace_visible {c : Char} (h : Visible c) : isSpace c = false := by
  obtain ⟨hlow, hhigh⟩ := h
  simp only [isSpace, isWhiteSpace, Bool.or_eq_false_iff, decide_eq_false_iff_not]
  omega

theorem strip_of_ends {text : Text} (hhead : ∀ c ∈ text.head?, isSpace c = false)
    (hlast : ∀ c ∈ text.getLast?, isSpace c = false) : text = strip text := by
  have hfront : text.dropWhile isSpace = text := by
    cases text with
    | nil => rfl
    | cons c rest => simp [hhead c rfl]
  rw [strip, rstrip, hfront]
  cases hreverse : text.reverse with
  | nil =>
    rw [List.reverse_eq_nil_iff] at hreverse
    rw [hreverse]
    rfl
  | cons c rest =>
    have hc := hlast c (by rw [List.getLast?_eq_head?_reverse, hreverse]; rfl)
    rw [List.rdropWhile, hreverse, List.dropWhile_cons_of_neg (by simp [hc]), ← hreverse,
      List.reverse_reverse]

/-- `unicodedata`, the case mappings and predicates of `str`, and `html.unescape`. -/
structure Unicode where
  nfkc : Text → Text
  casefold : Text → Text
  lower : Text → Text
  unescape : Text → Text
  /-- Category `Cf`. -/
  isFormat : Char → Bool
  /-- A category that starts with `L`. -/
  isLetter : Char → Bool
  /-- `str.isalnum`. -/
  isAlnum : Char → Bool
  /-- Category `Nd`. -/
  isDecimal : Char → Bool
  /-- `int` of one digit. -/
  decimalValue : Char → Nat
  /-- `str.isprintable`. -/
  isPrintable : Char → Bool

/-- What the tables say of ASCII texts without entities. -/
def Unicode.ascii : Unicode :=
  { nfkc := id
    casefold := fun text => text.map Char.toLower
    lower := fun text => text.map Char.toLower
    unescape := id
    isFormat := fun _ => false
    isLetter := Char.isAlpha
    isAlnum := Char.isAlphanum
    isDecimal := Char.isDigit
    decimalValue := fun c => c.toNat - 48
    isPrintable := fun c => decide (32 ≤ c.toNat ∧ c.toNat < 127) }

/-- The classes of a pattern on `str`. -/
def Unicode.alphabet (unicode : Unicode) : Alphabet :=
  { digit := unicode.isDecimal
    space := isSpace
    word := fun c => unicode.isAlnum c || decide (c = '_') }

/-! ## Folding -/

/-- `_HYPHENS`. -/
def hyphens : Text :=
  ['\u2010', '\u2011', '\u2012', '\u2013', '\u2014', '\u2015', '\u2212', '\uFE63', '\uFF0D']

/-- `_SPACES`. -/
def spaces : Text :=
  ['\u00A0', '\u2007', '\u202F']

/-- `_CONFUSABLES`. -/
def confusables : List (Char × Char) :=
  [('\u0430', 'a'), ('\u0435', 'e'), ('\u043E', 'o'), ('\u0440', 'p'), ('\u0441', 'c'),
    ('\u0443', 'y'), ('\u0445', 'x'), ('\u0456', 'i'), ('\u0458', 'j'), ('\u0455', 's'),
    ('\u04BB', 'h'), ('\u0501', 'd'), ('\u051B', 'q'), ('\u051D', 'w'), ('\u043C', 'm'),
    ('\u043D', 'h'), ('\u0432', 'b'), ('\u0442', 't'), ('\u043A', 'k'), ('\u04CF', 'i'),
    ('\u03B1', 'a'), ('\u03BF', 'o'), ('\u03C1', 'p'), ('\u03B9', 'i'), ('\u03B5', 'e'),
    ('\u03BD', 'v'), ('\u03C4', 't'), ('\u03BA', 'k')] ++
  hyphens.map (fun c => (c, '-')) ++ spaces.map (fun c => (c, ' '))

/-- `_IGNORABLE`. -/
def ignorable : List (Nat × Nat) :=
  [(0x00AD, 0x00AD), (0x034F, 0x034F), (0x061C, 0x061C), (0x115F, 0x1160), (0x17B4, 0x17B5),
    (0x180B, 0x180F), (0x200B, 0x200F), (0x202A, 0x202E), (0x2060, 0x206F), (0x3164, 0x3164),
    (0xFE00, 0xFE0F), (0xFEFF, 0xFEFF), (0xFFA0, 0xFFA0), (0xFFF0, 0xFFF8), (0x1BCA0, 0x1BCA3),
    (0x1D173, 0x1D17A), (0xE0000, 0xE0FFF)]

/-- `_TITLE_LIMIT`. -/
def titleLimit : Nat := 140

/-- `_MARKUP`. -/
def markup : Re := Re.compile ["<[^>]*>"]

/-- `_TAG_SEPARATORS`. -/
def tagSeparators : Text := lit "&/+-|"

section Folding

variable (unicode : Unicode)

/-- `invisible_char`. -/
def invisibleChar (c : Char) : Bool :=
  unicode.isFormat c ||
    ignorable.any (fun range => decide (range.1 ≤ c.toNat ∧ c.toNat ≤ range.2))

/-- `_visible`. -/
def visible (value : Text) : Text :=
  let text := sub unicode.alphabet false markup (fun _ => [' ']) (unicode.unescape value)
  (text.filter (fun c => !invisibleChar unicode c)).filter (fun c => decide (c ≠ '*'))

/-- `normalize_text`. -/
def normalizeText (value : Text) : Text :=
  let text := unicode.casefold (unicode.nfkc (visible unicode value))
  let folded := text.map (fun c => (confusables.lookup c).getD c)
  join [' '] (words folded)

/-- `normalize_tag`. -/
def normalizeTag (value : Text) : Text :=
  normalizeText unicode value

/-- `has_concealment`. -/
def hasConcealment (value : Text) : Bool :=
  value.any (invisibleChar unicode) ||
    ((search unicode.alphabet false markup value).isSome ||
      (search unicode.alphabet false markup (unicode.unescape value)).isSome)

/-- `_latin_letter`. -/
def latinLetter (c : Char) : Bool :=
  let code := c.toNat
  decide ((0x0041 ≤ code ∧ code ≤ 0x005A) ∨ (0x0061 ≤ code ∧ code ≤ 0x007A) ∨
    (0x00C0 ≤ code ∧ code ≤ 0x024F) ∨ (0x1E00 ≤ code ∧ code ≤ 0x1EFF))

/-- `_token_mixes_scripts`. -/
def tokenMixesScripts (token : Text) : Bool :=
  let letters := token.filter unicode.isLetter
  letters.any latinLetter && letters.any (fun c => !latinLetter c)

/-- `_token_rejected`. -/
def tokenRejected (token : Text) : Bool :=
  let letters := token.filter unicode.isLetter
  if tokenMixesScripts unicode token then
    true
  else if letters = [] ∨ letters.any latinLetter = true then
    false
  else
    letters.all (fun c => confusables.any (fun pair => decide (unicode.casefold [c] = [pair.1])))

/-- `script_rejected`. -/
def scriptRejected (value : Text) : Bool :=
  (words (unicode.nfkc value)).any (tokenRejected unicode)

/-- The words of a tag, given the one that was begun; a symbol refuses the whole tag. -/
def tagWords : Text → Text → Option (List Text)
  | current, [] => some (if current = [] then [] else [current])
  | current, c :: rest =>
    if isSpace c || decide (c ∈ tagSeparators) then
      if current = [] then
        tagWords [] rest
      else
        (tagWords [] rest).map (current :: ·)
    else if unicode.isAlnum c then
      tagWords (current ++ [c]) rest
    else
      none

/-- `etsy_tag`. -/
def etsyTag (value : Text) : Text :=
  let stripped := strip value
  if stripped = [] ∨ stripped.head?.any (fun c => decide (c ∈ tagSeparators)) = true ∨
      stripped.getLast?.any (fun c => decide (c ∈ tagSeparators)) = true then
    []
  else
    match tagWords unicode [] (unicode.casefold value) with
    | none => []
    | some found =>
      let tag := join [' '] found
      if 20 < tag.length then [] else tag

end Folding

/-! ## Claims a sentence cites -/

/-- `ClaimKind`. -/
inductive ClaimKind
  | pageCount
  | feature
  | variant
  | automation
  | review
  | salesPerformance
  | trustBar
  | socialProof
  | hub
  | dashboard
  | device
  | price
  | anchor
  | currency
  | support
  | freeGift
  | shop
  | identity
  | category
  | buyerProblem
  | database
  | access
  deriving DecidableEq, Repr

/-- The text of a kind. -/
def ClaimKind.text : ClaimKind → Text
  | .pageCount => lit "page_count"
  | .feature => lit "feature"
  | .variant => lit "variant"
  | .automation => lit "automation"
  | .review => lit "review"
  | .salesPerformance => lit "sales_performance"
  | .trustBar => lit "trust_bar"
  | .socialProof => lit "social_proof"
  | .hub => lit "hub"
  | .dashboard => lit "dashboard"
  | .device => lit "device"
  | .price => lit "price"
  | .anchor => lit "anchor"
  | .currency => lit "currency"
  | .support => lit "support"
  | .freeGift => lit "free_gift"
  | .shop => lit "shop"
  | .identity => lit "identity"
  | .category => lit "category"
  | .buyerProblem => lit "buyer_problem"
  | .database => lit "database"
  | .access => lit "access"

/-- One cited claim, in the order the template reads it. -/
structure TextSlot where
  kind : ClaimKind
  value : Text
  deriving DecidableEq, Repr

/-- A `ValueError` of a template, with its text. -/
abbrev Rendered := Except Text Text

/-! ## Parts of the templates -/

/-- `_named`. -/
def named (slots : List TextSlot) (kinds : List ClaimKind) : Except Text (List Text) :=
  if slots.map TextSlot.kind = kinds then
    .ok (slots.map TextSlot.value)
  else
    .error (lit "template slots are not in citation order")

/-- The value of a template that cites one claim. -/
def namedOne (slots : List TextSlot) (kind : ClaimKind) : Rendered := do
  let values ← named slots [kind]
  .ok (values.getD 0 [])

/-- `_pair`. -/
def pair (slots : List TextSlot) (left right : ClaimKind) (sep : Text) : Rendered := do
  let values ← named slots [left, right]
  .ok (values.getD 0 [] ++ sep ++ values.getD 1 [])

/-- `_all`. -/
def allOf (slots : List TextSlot) (kind : ClaimKind) : Except Text (List Text) :=
  if slots = [] ∨ slots.any (fun slot => decide (slot.kind ≠ kind)) = true then
    .error (lit "template expected only " ++ kind.text ++ lit " claims")
  else
    .ok (slots.map TextSlot.value)

/-- `_head`. -/
def headOf (slots : List TextSlot) (head tail : ClaimKind) :
    Except Text (Text × List Text) :=
  match slots with
  | first :: second :: rest =>
    if first.kind = head then do
      let values ← allOf (second :: rest) tail
      .ok (first.value, values)
    else
      .error (lit "template is missing its first claim")
  | _ => .error (lit "template is missing its first claim")

/-- `_fit`. -/
def fit (title : Text) : Text :=
  if title.length ≤ titleLimit then title else rstrip (title.take titleLimit)

/-- `encoded.split("|")`. -/
def pipeItems (encoded : Text) : List Text :=
  encoded.splitOn '|'

/-- The outputs of an encoded dashboard, none of them empty. -/
def dashboardOutputs (encoded : Text) : Except Text (List Text) :=
  if encoded = [] ∨ encoded.head? = some '|' ∨ encoded.getLast? = some '|' ∨
      ['|', '|'] <:+: encoded then
    .error (lit "dashboard fact is not a list of outputs")
  else
    .ok (pipeItems encoded)

/-- `_caption_outputs`. -/
def captionOutputs (encoded : Text) : Rendered :=
  if encoded = lit "absent" then
    .ok (lit "not in this build")
  else do
    let outputs ← dashboardOutputs encoded
    .ok (join (lit ", ") outputs)

/-- `_dashboard_sentence`. -/
def dashboardSentence (encoded : Text) : Rendered :=
  if encoded = lit "absent" then
    .ok (lit "Notification dashboard is not in this build.")
  else do
    let outputs ← dashboardOutputs encoded
    .ok (lit "Notification dashboard: " ++ join (lit ", ") outputs ++ lit ".")

/-- `_widget_sentence`. -/
def widgetSentence (encoded : Text) : Rendered :=
  if encoded = lit "absent" then
    .ok (lit "Widgets are not in this build.")
  else do
    let outputs ← dashboardOutputs encoded
    .ok (lit "Widgets: " ++ join (lit ", ") outputs ++ lit ".")

/-- `_offered`. -/
def offered (encoded : Text) (label : Text) : Rendered :=
  let marker := lit "offered|"
  if marker.isPrefixOf encoded = false ∨ encoded = marker then
    .error (label ++ lit " fact is not an offered value")
  else
    .ok (encoded.drop marker.length)

/-- `_support_clause`. -/
def supportClause (encoded : Text) : Rendered :=
  if encoded = lit "not_offered" then
    .ok (lit "Support is not offered.")
  else do
    let channel ← offered encoded (lit "support")
    if '|' ∈ channel then
      .error (lit "support channel is one value")
    else
      .ok (lit "Support channel: " ++ channel ++ lit ".")

/-- `_gift_parts`: the name, and the community when there is one. -/
def giftParts (encoded : Text) : Except Text (Text × Option Text) := do
  let rest ← offered encoded (lit "free gift")
  match pipeItems rest with
  | [gift] => .ok (gift, none)
  | [gift, community] => .ok (gift, some community)
  | _ => .error (lit "free gift fact is a name and an optional community")

/-- `_gift_clause`. -/
def giftClause (encoded : Text) : Rendered :=
  if encoded = lit "not_offered" then
    .ok (lit "No free gift is configured.")
  else do
    let (gift, community) ← giftParts encoded
    let sentence := lit "Free gift: " ++ gift ++ lit "."
    match community with
    | none => .ok sentence
    | some community => .ok (sentence ++ lit " Free community: " ++ community ++ lit ".")

/-- `_gift_name`. -/
def giftName (encoded : Text) : Rendered := do
  let (gift, _) ← giftParts encoded
  .ok gift

/-- `_gift_community`. -/
def giftCommunity (encoded : Text) : Rendered := do
  let (_, community) ← giftParts encoded
  match community with
  | none => .error (lit "free gift fact has no community")
  | some community => .ok community

/-- `_audience`. -/
def audience (slots : List TextSlot) : Rendered := do
  let values ← named slots [.identity, .shop]
  .ok (lit "Made for " ++ values.getD 0 [] ++ lit ". Shop " ++ values.getD 1 [] ++ lit ".")

/-- The values of the slots of a kind. -/
def valuesOf (slots : List TextSlot) (kind : ClaimKind) : List Text :=
  (slots.filter (fun slot => decide (slot.kind = kind))).map TextSlot.value

/-- `_features`. -/
def featuresText (slots : List TextSlot) : Rendered :=
  let features := valuesOf slots .feature
  match valuesOf slots .dashboard with
  | [encoded] =>
    if features = [] ∨ features.length + 1 ≠ slots.length then
      .error (lit "features template cites features and one dashboard")
    else do
      let sentence ← dashboardSentence encoded
      .ok (join (lit "; ") features ++ lit ". " ++ sentence)
  | _ => .error (lit "features template cites features and one dashboard")

/-- `_variant_devices`. -/
def variantDevices (slots : List TextSlot) : Rendered :=
  let variants := valuesOf slots .variant
  let devices := valuesOf slots .device
  if variants = [] ∨ devices = [] ∨ variants.length + devices.length ≠ slots.length then
    .error (lit "variant template cites variants and devices")
  else
    .ok (lit "Variants: " ++ join (lit ", ") variants ++ lit ". Devices: " ++
      join (lit ", ") devices ++ lit ".")

/-- `_support`. -/
def supportText (slots : List TextSlot) : Rendered := do
  let values ← named slots [.support, .freeGift]
  let support := values.getD 0 []
  let gift := values.getD 1 []
  let supportSentence ← supportClause support
  let giftSentence ← giftClause gift
  .ok (supportSentence ++ lit " " ++ giftSentence ++ lit " Fact support " ++ support ++
    lit ". Fact gift " ++ gift ++ lit ".")

/-! ## Templates -/

inductive Template
  | title
  | hook
  | included
  | audience
  | accessLine
  | features
  | variantDevices
  | support
  | offer
  | hero
  | overview
  | hubFrame
  | variantLine
  | deviceLine
  | videoDashboard
  | videoNotification
  | videoHubs
  | videoDashboardCaption
  | videoNotificationCaption
  | videoHubsCaption
  | videoVariantsCaption
  | videoDuplicationCaption
  | pdfSetupOpen
  | pdfSetupDuplicate
  | pdfSetupResources
  | pdfWidgets
  | pdfVariantLink
  | pdfDuplication
  | pdfSupport
  | pdfReviewRequest
  | pdfGift
  | pdfCommunity
  | tag
  deriving DecidableEq, Repr

/-- The templates under their ids. -/
def templates : List (String × Template) :=
  [("title", .title), ("hook", .hook), ("included", .included), ("audience", .audience),
    ("access_line", .accessLine), ("features", .features), ("variant_devices", .variantDevices),
    ("support", .support), ("offer", .offer), ("hero", .hero), ("overview", .overview),
    ("hub_frame", .hubFrame), ("variant_line", .variantLine), ("device_line", .deviceLine),
    ("video_dashboard", .videoDashboard), ("video_notification", .videoNotification),
    ("video_hubs", .videoHubs), ("video_dashboard_caption", .videoDashboardCaption),
    ("video_notification_caption", .videoNotificationCaption),
    ("video_hubs_caption", .videoHubsCaption),
    ("video_variants_caption", .videoVariantsCaption),
    ("video_duplication_caption", .videoDuplicationCaption), ("pdf_setup_open", .pdfSetupOpen),
    ("pdf_setup_duplicate", .pdfSetupDuplicate), ("pdf_setup_resources", .pdfSetupResources),
    ("pdf_widgets", .pdfWidgets), ("pdf_variant_link", .pdfVariantLink),
    ("pdf_duplication", .pdfDuplication), ("pdf_support", .pdfSupport),
    ("pdf_review_request", .pdfReviewRequest), ("pdf_gift", .pdfGift),
    ("pdf_community", .pdfCommunity), ("tag", .tag)]

def Template.parse (templateId : Text) : Option Template :=
  (templates.find? (fun entry => decide (lit entry.1 = templateId))).map Prod.snd

/-- The sentence of a template. -/
def renderTemplate (unicode : Unicode) (template : Template) (slots : List TextSlot)
    (quantity : Nat) : Rendered :=
  match template with
  | .title => do
      let title ← pair slots .identity .category (lit " ")
      .ok (fit title)
  | .hook => do
      let values ← named slots [.identity, .category, .buyerProblem]
      .ok (values.getD 0 [] ++ lit " " ++ values.getD 1 [] ++ lit ". " ++ values.getD 2 [])
  | .included => do
      let (page, hubs) ← headOf slots .pageCount .hub
      .ok (page ++ lit " pages. Hubs: " ++ join (lit ", ") hubs ++ lit ".")
  | .audience => audience slots
  | .accessLine => do
      let access ← namedOne slots .access
      .ok (lit "Duplicate the template. Access link: " ++ access ++ lit ".")
  | .features => featuresText slots
  | .variantDevices => variantDevices slots
  | .support => supportText slots
  | .offer => do
      let values ← named slots [.price, .currency, .anchor]
      let currency := values.getD 1 []
      .ok (lit "Price " ++ values.getD 0 [] ++ lit " " ++ currency ++ lit ". Anchor " ++
        values.getD 2 [] ++ lit " " ++ currency ++ lit ". Quantity " ++ decimal quantity ++
          lit ". Digital delivery.")
  | .hero => pair slots .identity .buyerProblem (lit ". ")
  | .overview => do
      let text ← pair slots .pageCount .identity (lit " pages in ")
      .ok (text ++ lit ".")
  | .hubFrame => do
      let hub ← namedOne slots .hub
      .ok (lit "Hub: " ++ hub ++ lit ".")
  | .variantLine => do
      let names ← allOf slots .variant
      .ok (lit "Variants: " ++ join (lit ", ") names ++ lit ".")
  | .deviceLine => do
      let names ← allOf slots .device
      .ok (lit "Devices: " ++ join (lit ", ") names ++ lit ".")
  | .videoDashboard => do
      let encoded ← namedOne slots .dashboard
      .ok (lit "Dashboard output: " ++ encoded ++ lit ".")
  | .videoNotification => do
      let encoded ← namedOne slots .dashboard
      .ok (lit "Notification panel: " ++ encoded ++ lit ".")
  | .videoHubs => do
      let names ← allOf slots .hub
      .ok (lit "Hubs: " ++ join (lit ", ") names ++ lit ".")
  | .videoDashboardCaption => do
      let encoded ← namedOne slots .dashboard
      let outputs ← captionOutputs encoded
      .ok (lit "Dashboard " ++ outputs ++ lit ".")
  | .videoNotificationCaption => do
      let encoded ← namedOne slots .dashboard
      let outputs ← captionOutputs encoded
      .ok (lit "Notification panel " ++ outputs ++ lit ".")
  | .videoHubsCaption => do
      let names ← allOf slots .hub
      .ok (lit "Hubs " ++ join (lit ", ") names ++ lit ".")
  | .videoVariantsCaption => do
      let names ← allOf slots .variant
      .ok (lit "Variants " ++ join (lit ", ") names ++ lit ".")
  | .videoDuplicationCaption => do
      let access ← namedOne slots .access
      if access = [] then .error (lit "access") else .ok (lit "Duplicate the template.")
  | .pdfSetupOpen => do
      let access ← namedOne slots .access
      .ok (lit "Step 1. Open your template at " ++ access ++ lit ".")
  | .pdfSetupDuplicate => do
      let access ← namedOne slots .access
      .ok (lit "Step 2. Duplicate the template at " ++ access ++ lit ".")
  | .pdfSetupResources => do
      let features ← allOf slots .feature
      .ok (lit "Step 3. Use the included resources: " ++ join (lit "; ") features ++ lit ".")
  | .pdfWidgets => do
      let encoded ← namedOne slots .dashboard
      widgetSentence encoded
  | .pdfVariantLink => do
      let values ← named slots [.variant, .access]
      .ok (lit "Variant " ++ values.getD 0 [] ++ lit ". Access link: " ++ values.getD 1 [] ++
        lit ".")
  | .pdfDuplication => do
      let access ← namedOne slots .access
      .ok (lit "Duplicate the template. Access link: " ++ access ++ lit ".")
  | .pdfSupport => do
      let encoded ← namedOne slots .support
      supportClause encoded
  | .pdfReviewRequest => do
      let shop ← namedOne slots .shop
      .ok (lit "Please leave a review for " ++ shop ++ lit ".")
  | .pdfGift => do
      let encoded ← namedOne slots .freeGift
      if encoded = lit "not_offered" then
        .ok (lit "No free gift is configured.")
      else do
        let gift ← giftName encoded
        .ok (lit "Free gift: " ++ gift ++ lit ".")
  | .pdfCommunity => do
      let encoded ← namedOne slots .freeGift
      let community ← giftCommunity encoded
      .ok (lit "Free community: " ++ community ++ lit ".")
  | .tag =>
    match slots with
    | [slot] => .ok (etsyTag unicode slot.value)
    | _ => .error (lit "tag template cites one claim")

/-- `render`. -/
def render (unicode : Unicode) (templateId : Text) (slots : List TextSlot) (quantity : Nat) :
    Rendered :=
  match Template.parse templateId with
  | some template => renderTemplate unicode template slots quantity
  | none => .error (lit "unknown listing template " ++ templateId)

end Domain
end MoneyMachine
