import Mathlib.Data.List.DropRight
import Mathlib.Data.List.Sort
import MoneyMachine.Domain.Basic
import MoneyMachine.Domain.Json

/-!
# DraftListing — draft specs, their markers, and the walk over a shop's drafts

The pure part of the Etsy draft client.  A draft carries one line of its description as a marker; a
retry walks the pages of the shop's drafts, twice, and adopts the one row with that line.  The
transport is a parameter: a walk is given the answer of each page.
-/

namespace MoneyMachine
namespace Integrations

open MoneyMachine.Domain

/-- What `create_draft` raises: a refusal with its code, or any other exception. -/
inductive DraftError
  | refused (code : String)
  | other
  deriving DecidableEq, Repr

/-- The fields hashed into the ledger key and sent on creation. -/
structure DraftSpec where
  productId : Uuid
  specVersion : Int
  shopId : Int
  title : String
  description : String
  price : String
  quantity : Int
  whoMade : String
  whenMade : String
  taxonomyId : Int
  deriving DecidableEq, Repr

/-- The text `fixture_hash` hashes. -/
def fixtureHashText (spec : DraftSpec) : String :=
  String.intercalate "\n"
    ["product_id=" ++ uuidStr spec.productId,
      "spec_version=" ++ toString spec.specVersion,
      "shop_id=" ++ toString spec.shopId,
      "title=" ++ spec.title,
      "description=" ++ spec.description,
      "price=" ++ spec.price,
      "quantity=" ++ toString spec.quantity,
      "who_made=" ++ spec.whoMade,
      "when_made=" ++ spec.whenMade,
      "taxonomy_id=" ++ toString spec.taxonomyId]

/-- The description line a retry looks up. -/
def draftMarker (specVersion : Int) (fixtureHash : String) : String :=
  "mm-draft:" ++ toString specVersion ++ ":" ++ fixtureHash

/-! ## Lines of a description -/

/-- `text.replace("\r\n", "\n")`. -/
def foldCrLf : List Char → List Char
  | '\r' :: '\n' :: rest => '\n' :: foldCrLf rest
  | c :: rest => c :: foldCrLf rest
  | [] => []

/-- CR, CRLF and LF are one break. -/
def foldBreaks (text : List Char) : List Char :=
  (foldCrLf text).map (fun c => if c = '\r' then '\n' else c)

def isBlank (c : Char) : Bool :=
  decide (c = ' ' ∨ c = '\t')

/-- `_description_lines`. -/
def descriptionLines (description : String) : List String :=
  ((foldBreaks description.toList).splitOn '\n').map
    (fun line => String.ofList (line.rdropWhile isBlank))

/-- `_row_text`: the description compared across the two walks. -/
def rowText : Option Json → String
  | some (.str description) => String.ofList (foldBreaks description.toList)
  | _ => ""

/-- `_line_marker`: one whole line is the marker, and no second line claims to be one. -/
def lineMarker (description : Option Json) (marker : String) : Except DraftError Bool :=
  match description with
  | some (.str text) =>
    let lines := (descriptionLines text).filter (fun line => startsWith line "mm-draft:")
    if marker ∈ lines ∧ 1 < lines.length then
      .error (.refused "duplicate_marker")
    else
      .ok (decide (lines = [marker]))
  | _ => .ok false

/-- `_with_marker`. -/
def withMarker (description marker : String) : String :=
  if description = "" then
    marker
  else if description.toList.getLast? = some '\n' then
    description ++ marker
  else
    description ++ "\n" ++ marker

/-- `_require_spec`. -/
def requireSpec (spec : DraftSpec) : Except DraftError Unit :=
  if spec.specVersion < 1 then
    .error (.refused "spec_version")
  else if spec.shopId < 1 then
    .error (.refused "shop_id")
  else if spec.quantity < 1 then
    .error (.refused "quantity")
  else if spec.taxonomyId < 1 then
    .error (.refused "taxonomy_id")
  else if spec.title = "" ∨ '\n' ∈ spec.title.toList ∨ '\r' ∈ spec.title.toList then
    .error (.refused "title")
  else if spec.price = "" then
    .error (.refused "price")
  else if (descriptionLines spec.description).any (fun line => startsWith line "mm-draft:") then
    .error (.refused "marker_injection")
  else
    .ok ()

/-! ## Listings -/

/-- `_draft_listing_id`; a row of the walk has been matched already, a created one has not. -/
def draftListingId (row : Json) (marker : Option String) : Except DraftError Int := do
  match row.get? "state" with
  | some (.str "draft") =>
    let matched ← match marker with
      | none => .ok true
      | some marker => lineMarker (row.get? "description") marker
    if matched then
      match row.get? "listing_id" with
      | some (.int listingId) =>
        if listingId < 1 then .error (.refused "malformed") else .ok listingId
      | _ => .error (.refused "malformed")
    else
      .error (.refused "marker")
  | _ => .error (.refused "active")

/-- What a walk has collected. -/
structure Walk where
  found : Option Int
  seen : Nat
  ids : List Int
  texts : List String
  deriving DecidableEq, Repr

def Walk.empty : Walk :=
  { found := none
    seen := 0
    ids := []
    texts := [] }

/-- The body of the loop over the rows of a page. -/
def readRow (marker : String) (walk : Walk) (row : Json) : Except DraftError Walk :=
  match row with
  | .obj _ =>
    match row.get? "listing_id" with
    | some (.int listingId) =>
      -- `seen_ids` holds exactly the ids collected so far.
      if listingId ∈ walk.ids then
        .error (.refused "count")
      else do
        let walk' : Walk :=
          { walk with
            ids := walk.ids ++ [listingId]
            texts := walk.texts ++ [rowText (row.get? "description")] }
        let matched ← lineMarker (row.get? "description") marker
        if matched then do
          let found ← draftListingId row none
          if walk'.found.isSome then
            .error (.refused "duplicate_marker")
          else
            .ok { walk' with found := some found }
        else
          .ok walk'
    | _ => .error (.refused "malformed")
  | _ => .error (.refused "malformed")

/-- The answer to one request: a payload, or an exception of the transport. -/
abbrev Reply := Except DraftError Json

def pageLimit : Nat := 100

def pageCap : Nat := 10

/-- `_read_pages` from page `page` on: `expected` is the total the first page announced. -/
def readPagesFrom (marker : String) (replies : Nat → Reply) (expected : Option Int) (walk : Walk)
    (page : Nat) : Nat → Except DraftError Walk
  | 0 => .error (.refused "page_cap")
  | remaining + 1 =>
    match replies page with
    | .error (.refused code) => .error (.refused code)
    | .error .other => .error (.refused "transport")
    | .ok payload =>
      match payload.get? "results", payload.get? "count" with
      | some (.arr results), some (.int count) =>
        if count < 0 then
          .error (.refused "malformed")
        -- The first page announces the total; every page must repeat it.
        else if expected.any (fun total => decide (count ≠ total)) then
          .error (.refused "count")
        else if pageLimit < results.length then
          .error (.refused "malformed")
        else do
          let walk' ← results.foldlM (readRow marker) walk
          let walk'' : Walk := { walk' with seen := walk'.seen + results.length }
          -- A short page is the last one.
          if results.length < pageLimit then
            if (walk''.seen : Int) ≠ expected.getD count then
              .error (.refused "count")
            else
              .ok
                { walk'' with
                  ids := walk''.ids.insertionSort (· ≤ ·)
                  texts := walk''.texts.insertionSort (· ≤ ·) }
          else
            readPagesFrom marker replies (some (expected.getD count)) walk'' (page + 1)
              remaining
      | _, _ => .error (.refused "malformed")

def readPages (marker : String) (replies : Nat → Reply) : Except DraftError Walk :=
  readPagesFrom marker replies none Walk.empty 0 pageCap

/-- `_adopt`, given both walks. -/
def adoptOf (first second : Walk) : Except DraftError (Option Int) :=
  if first.ids ≠ second.ids ∨ first.found ≠ second.found ∨ first.texts ≠ second.texts then
    .error (.refused "count")
  else
    .ok first.found

end Integrations
end MoneyMachine
