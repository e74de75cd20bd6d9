import MoneyMachine.Domain.ListingText
import MoneyMachine.Library.Url

/-!
# Publishing — page ids and the isolation of catalogues

A page id is 32 hexadecimal digits, and it has many spellings: any letter case, five groups with dashes,
or the end of the last segment of a Notion URL.  `canonicalPageId` maps them to one text, so that a page
and the pages of other catalogues can be compared.

The Unicode tables of `str` and the shared normaliser of hosts are parameters.
-/

namespace MoneyMachine
namespace Integrations
namespace Publishing

open MoneyMachine.Domain
open MoneyMachine.Library
open MoneyMachine.Library.Url (SplitResult urlsplit lastPart before)

/-- `"0123456789abcdef"`. -/
def isHex (c : Char) : Bool :=
  c.isDigit || decide ('a' ≤ c ∧ c ≤ 'f')

/-- What `str`, `unicodedata` and `normalize_defanged` say. -/
structure Tables where
  hosts : Url.Hosts
  casefold : Text → Text
  normalizeDefanged : Text → Text
  /-- A category of `Cc`, `Cf`, `Zl`, `Zp` and `Zs`. -/
  forbidden : Char → Bool
  /-- No character outside ASCII becomes a hexadecimal digit in lower case. -/
  lower_hex : ∀ text : Text, (∀ c ∈ hosts.lower text, isHex c = true) → ∀ c ∈ text, c.toNat < 128
  forbidden_visible : ∀ c : Char, 0x21 ≤ c.toNat → c.toNat ≤ 0x7E → forbidden c = false

/-- An argument of any type. -/
inductive Argument
  | text (t : Text)
  | bool (b : Bool)
  | sequence (items : List Argument)
  | other

def ensure (holds : Bool) (message : String) : Except String Unit :=
  if holds then .ok () else .error message

section Canonical

variable (tables : Tables)

/-- `str.lower`. -/
def lower (text : Text) : Text :=
  tables.hosts.lower text

/-- `_page_id_error`. -/
def pageIdError (label : String) : String :=
  label ++ " must be a 32-hex page id"

def pageIdLength : Nat := 32

/-- `_plain_page_id`. -/
def plainPageId (value : Text) : Option Text :=
  let accept := fun compact : Text =>
    if compact.length = pageIdLength ∧ compact.all isHex = true then some compact else none
  if '-' ∈ value then
    let parts := value.splitOn '-'
    if parts.map List.length = [8, 4, 4, 4, 12] then accept (lower tables parts.flatten) else none
  else
    accept (lower tables value)

/-- `_exact_undashed`. -/
def exactUndashed (segment : Text) : Option Text :=
  let compact := lower tables segment
  if compact.length > pageIdLength then
    none
  else if compact.length < pageIdLength then
    none
  else if compact.any (fun c => !isHex c) then
    none
  else
    some compact

/-- `"0123456789abcdefABCDEF"`. -/
def isHexAny (c : Char) : Bool :=
  isHex c || decide ('A' ≤ c ∧ c ≤ 'F')

/-- `_trailing_uuid`. -/
def trailingUuid (segment : Text) : Option Text :=
  let parts := segment.splitOn '-'
  if parts.length < 5 then
    none
  else
    let tail := parts.drop (parts.length - 5)
    if tail.map List.length ≠ [8, 4, 4, 4, 12] then
      none
    else if tail.any (fun part => part.any (fun c => !isHexAny c)) then
      none
    else
      some (lower tables tail.flatten)

/-- `_hex_from_segment`. -/
def hexFromSegment (segment : Text) : Option Text :=
  match exactUndashed tables segment with
  | some plain => some plain
  | none =>
    if '-' ∈ segment ∧ (exactUndashed tables (lastPart '-' segment)).isSome then
      exactUndashed tables (lastPart '-' segment)
    else
      trailingUuid tables segment

/-- `netloc.endswith(":")` fails and the port is none or 443. -/
def portAllowed (parsed : SplitResult) : Bool :=
  decide (parsed.netloc.getLast? ≠ some ':') &&
    decide (parsed.port = some none ∨ parsed.port = some (some 443))

/-- `_PAGE_URL_HOSTS`. -/
def pageUrlHosts : List Text := [lit "notion.so", lit "www.notion.so"]

/-- `parsed.path.rstrip("/").split("/")[-1]`. -/
def lastSegment (path : Text) : Text :=
  lastPart '/' (path.rdropWhile (fun c => decide (c = '/')))

/-- `_page_id_from_url`. -/
def pageIdFromUrl (value : Text) (label : String) : Except String Text := do
  match urlsplit tables.hosts value with
  | none => .error (pageIdError label)
  | some parsed => do
      ensure (parsed.username.isNone && parsed.password.isNone) (pageIdError label)
      ensure (portAllowed parsed) (pageIdError label)
      ensure (decide ('#' ∉ value)) (pageIdError label)
      ensure (decide (';' ∉ value)) (pageIdError label)
      ensure (decide (¬ ('?' ∈ value ∧ parsed.query = []))) (pageIdError label)
      ensure (decide (parsed.query = [])) (pageIdError label)
      ensure (decide (parsed.scheme = lit "https") &&
        (parsed.hostname tables.hosts).any (fun host => decide (host ∈ pageUrlHosts)))
          (pageIdError label)
      match hexFromSegment tables (lastSegment parsed.path) with
      | none => .error (pageIdError label)
      | some pageId => .ok pageId

/-- `_canonical_page_id`. -/
def canonicalPageId (value : Argument) (label : String) : Except String Text :=
  match value with
  | .text value => do
      ensure (decide (value ≠ [])) (pageIdError label)
      ensure (!value.any tables.forbidden) (label ++ " must not contain a control character")
      ensure (decide (value = strip value)) (pageIdError label)
      if lit "://" <:+: value then
        pageIdFromUrl tables value label
      else
        match plainPageId tables value with
        | none => .error (pageIdError label)
        | some pageId => .ok pageId
  | _ => .error (pageIdError label)

end Canonical

/-! ## Published pages -/

section Pages

variable (tables : Tables)

/-- `_copy_page_ids`. -/
def copyPageIds (value : Argument) (plural singular : String) : Except String (List Text) :=
  match value with
  | .sequence items => items.mapM (fun item => canonicalPageId tables item singular)
  | _ => .error (plural ++ " must be a sequence")

/-- The loop of `_dedupe_page_ids`. -/
def dedupeFrom : List Text → List Text → List Text
  | _, [] => []
  | seen, pageId :: rest =>
    if pageId ∈ seen then dedupeFrom seen rest else pageId :: dedupeFrom (pageId :: seen) rest

/-- `_dedupe_page_ids`. -/
def dedupePageIds (pageIds : List Text) : List Text :=
  dedupeFrom [] pageIds

/-- `repr` of a page id. -/
def reprId (pageId : Text) : String :=
  "'" ++ String.ofList pageId ++ "'"

/-- The loop of `_reject_other_catalogue_links`. -/
def rejectLinks (blocked : List Text) : List Text → Except String Unit
  | [] => .ok ()
  | destination :: rest =>
    if destination ∈ blocked then
      .error ("link " ++ reprId destination ++ " reaches another catalogue")
    else
      rejectLinks blocked rest

/-- `_reject_other_catalogue_links`. -/
def rejectOtherCatalogueLinks (pageId : Text) (links other : List Text) : Except String Unit := do
  ensure (decide (pageId ∉ other)) ("page " ++ reprId pageId ++ " lists itself as another catalogue")
  rejectLinks other links

/-- `_EXACT_SECRET_HOSTS`. -/
def exactSecretHosts : List Text := [lit "notion.so", lit "www.notion.so", lit "notion.site"]

def isAscii (text : Text) : Bool :=
  text.all (fun c => decide (c.toNat < 128))

/-- `_secret_host_is_ascii`. -/
def secretHostIsAscii (host : Text) : Bool :=
  isAscii host && isAscii (tables.normalizeDefanged host)

/-- `_allowed_secret_host`. -/
def allowedSecretHost (host : Text) : Bool :=
  if !secretHostIsAscii tables host then
    false
  else if lit "xn--" <:+: tables.casefold host then
    false
  else if host ∈ exactSecretHosts then
    true
  else if !(lit ".notion.site").isSuffixOf host then
    false
  else
    let front := host.take (host.length - (lit ".notion.site").length)
    decide (front ≠ [] ∧ '.' ∉ front)

/-- The path without the parameters of its last segment, as `urlparse` has it. -/
def pathWithoutParams (path : Text) : Text :=
  path.take (path.length - (lastPart '/' path).length) ++ before ';' (lastPart '/' path)

/-- `_capture_secret_link`. -/
def captureSecretLink (value : Argument) : Except String Text :=
  match value with
  | .text value => do
      ensure (decide (strip value ≠ [] ∧ value = strip value)) "secret link must be present"
      ensure (!value.any tables.forbidden) "secret link must not contain a control character"
      match urlsplit tables.hosts value with
      | none => .error "secret link must be a valid url"
      | some parsed => do
          ensure (decide (parsed.scheme = lit "https")) "secret link must use https"
          ensure (parsed.username.isNone && parsed.password.isNone)
            "secret link must not contain userinfo"
          ensure (portAllowed parsed) "secret link port is not allowed"
          ensure ((parsed.hostname tables.hosts).any (fun host =>
            secretHostIsAscii tables host && allowedSecretHost tables host))
              "secret link host is not allowed"
          ensure ((pathWithoutParams parsed.path).any (fun c => decide (c ≠ '/')))
            "secret link must name a page"
          .ok value
  | _ => .error "secret link must be a string"

/-- What a page is built from. -/
structure PageArguments where
  pageId : Argument
  parentType : Argument
  publishedToWeb : Argument
  duplicateAsTemplate : Argument
  searchIndexing : Argument
  secretLink : Argument
  publicAccess : Argument
  links : Argument
  otherCataloguePages : Argument

/-- A page that was built, by the ids it keeps. -/
structure PublishedPage where
  pageId : Text
  secretLink : Text
  links : List Text
  otherCataloguePages : List Text

/-- `value is b`. -/
def isBool (b : Bool) : Argument → Bool
  | .bool found => decide (found = b)
  | _ => false

/-- `value == "workspace"`. -/
def isTopLevel : Argument → Bool
  | .text value => decide (value = lit "workspace")
  | _ => false

/-- `build_published_page`. -/
def buildPublishedPage (a : PageArguments) : Except String PublishedPage := do
  let pageId ← canonicalPageId tables a.pageId "page id"
  ensure (isTopLevel a.parentType) "page must be top level"
  ensure (isBool true a.publishedToWeb) "page must be published to web"
  ensure (isBool true a.duplicateAsTemplate) "duplicate as template must be on"
  ensure (isBool false a.searchIndexing) "search indexing must be off"
  let secretLink ← captureSecretLink tables a.secretLink
  ensure (isBool true a.publicAccess) "public access is not verified"
  let links ← copyPageIds tables a.links "links" "link"
  let links := dedupePageIds links
  let other ← copyPageIds tables a.otherCataloguePages "other catalogue pages" "other catalogue page"
  rejectOtherCatalogueLinks pageId links other
  .ok
    { pageId := pageId
      secretLink := secretLink
      links := links
      otherCataloguePages := other }

end Pages

end Publishing
end Integrations
end MoneyMachine
