import MoneyMachine.Domain.Text
import MoneyMachine.Integrations.DraftListing
import MoneyMachine.Library.Json

/-!
# DraftTransport — the calls the draft client lets through

Two calls reach the transport: the listing of a shop's drafts and the creation of one.  Everything else
is refused before it is sent.

* `exchange`       : the path, the query and the body are checked first;
* `exchange_list`  : the client's own lookup passes the checks, at any offset;
* `exchange_create`: and so does its creation.

The keys of a query and of a body are ASCII here, where case folding is lowering.
-/

namespace MoneyMachine
namespace Integrations

open MoneyMachine.Domain
open MoneyMachine.Library

/-- One request that the transport is allowed to see. -/
structure FixtureCall where
  method : String
  path : String
  query : List (String × String)
  body : Option (List (String × String))
  deriving DecidableEq, Repr

/-- `FixtureTransport.exchange`. -/
abbrev FixtureTransport := FixtureCall → Reply

/-! ## Paths -/

def pathFront : List Char := "/v3/application/shops/".toList

def pathEnd : List Char := "/listings".toList

/-- `_LISTINGS_PATH`. -/
def listingsTemplate : String := "/v3/application/shops/{shop_id}/listings"

/-- `_listings_path`. -/
def listingsPath (shopId : Int) : String :=
  String.ofList (pathFront ++ (toString shopId).toList ++ pathEnd)

/-- `_LISTINGS_RE.fullmatch`: a positive number stands between the two texts. -/
def isListingsPath (path : String) : Bool :=
  let rest := path.toList.drop pathFront.length
  let digits := rest.takeWhile Char.isDigit
  pathFront.isPrefixOf path.toList && digits.head?.any (fun c => decide (c ≠ '0')) &&
    decide (rest.dropWhile Char.isDigit = pathEnd)

/-- `_measured_pair`. -/
def measuredPair (method path : String) : Except DraftError (String × String) :=
  if isListingsPath path then
    .ok (method, listingsTemplate)
  else
    .error (.refused "off_list")

/-- `MEASURED_ALLOWLIST`. -/
def measuredAllowlist : List (String × String) :=
  [("GET", listingsTemplate), ("POST", listingsTemplate)]

/-! ## Keys -/

def lowered (key : String) : String :=
  String.ofList (key.toList.map Char.toLower)

/-- The loop of `_query_keys` and `_body_keys`, with the keys it has seen. -/
def foldKeys (kind : String) (normalized : List (String × String)) :
    List (String × String) → Except DraftError (List (String × String))
  | [] => .ok normalized
  | (raw, value) :: rest =>
    if raw ≠ lowered raw then
      .error (.refused (kind ++ "_case"))
    else if lowered raw ≠ stripBy isSpace (lowered raw) then
      .error (.refused (kind ++ "_space"))
    else if (normalized.map Prod.fst).contains (stripBy isSpace (lowered raw)) then
      .error (.refused (kind ++ "_duplicate"))
    else
      foldKeys kind (normalized ++ [(stripBy isSpace (lowered raw), value)]) rest

/-- `_query_keys`. -/
def queryKeys (pairs : List (String × String)) : Except DraftError (List (String × String)) :=
  foldKeys "query" [] pairs

/-- `_body_keys`. -/
def bodyKeys (pairs : List (String × String)) : Except DraftError (List (String × String)) :=
  foldKeys "body" [] pairs

/-- `_canonical_int`. -/
def canonicalInt (value : String) (low : Nat) (high : Option Nat) : Bool :=
  if value.toList = [] ∨ ¬ value.toList.all Char.isDigit then
    false
  else if value ≠ "0" ∧ value.toList.head? = some '0' then
    false
  else if Nat.ofDigitChars 10 value.toList 0 < low then
    false
  else
    high.all (fun bound => decide (Nat.ofDigitChars 10 value.toList 0 ≤ bound))

/-- `_GET_KEYS`. -/
def getKeys : List String := ["state", "limit", "offset"]

/-- `_BODY_KEYS`. -/
def bodyKeyNames : List String :=
  ["quantity", "title", "description", "price", "who_made", "when_made", "taxonomy_id", "type"]

/-- `_refuse_get`. -/
def refuseGet (query : List (String × String)) (body : Option (List (String × String))) :
    Except DraftError Unit :=
  if body.isSome then
    .error (.refused "query_key")
  else
    match queryKeys query with
    | .error error => .error error
    | .ok fields =>
      if ¬ (fields.map Prod.fst).all getKeys.contains then
        .error (.refused "query_key")
      else if fields.lookup "state" ≠ some "draft" then
        .error (.refused "lookup_state")
      else if (fields.lookup "limit").any (fun value => !canonicalInt value 1 (some pageLimit)) then
        .error (.refused "query_limit")
      else if (fields.lookup "offset").any (fun value => !canonicalInt value 0 none) then
        .error (.refused "query_offset")
      else
        .ok ()

/-- `_refuse_post`. -/
def refusePost (query : List (String × String)) (body : Option (List (String × String))) :
    Except DraftError Unit :=
  match queryKeys query with
  | .error error => .error error
  | .ok _ =>
    if query ≠ [] then
      .error (.refused "post_query")
    else
      match body with
      | none => .error (.refused "body_missing")
      | some pairs =>
        match bodyKeys pairs with
        | .error error => .error error
        | .ok fields =>
          if ¬ (fields.map Prod.fst).all bodyKeyNames.contains then
            .error (.refused "body_extra")
          else if ¬ bodyKeyNames.all (fields.map Prod.fst).contains then
            .error (.refused "body_missing")
          else
            .ok ()

/-! ## The exchange -/

/-- `exchange`. -/
def exchange (transport : Option FixtureTransport) (method path : String)
    (query : List (String × String)) (body : Option (List (String × String))) : Reply :=
  match transport with
  | none => .error (.refused "fixture_transport")
  | some send => do
      let pair ← measuredPair method path
      if pair ∉ measuredAllowlist then
        .error (.refused "off_list")
      else do
        if method = "GET" then
          refuseGet query body
        else if method = "POST" then
          refusePost query body
        else
          .ok ()
        send ⟨method, path, query, body⟩

/-- `_draft_query`. -/
def draftQuery (offset : Nat) : List (String × String) :=
  [("state", "draft"), ("limit", toString pageLimit), ("offset", toString offset)]

/-- The body of the creation. -/
def createBody (spec : DraftSpec) (marker : String) : List (String × String) :=
  [("quantity", toString spec.quantity), ("title", spec.title),
    ("description", withMarker spec.description marker), ("price", spec.price),
    ("who_made", spec.whoMade), ("when_made", spec.whenMade),
    ("taxonomy_id", toString spec.taxonomyId), ("type", "download")]

/-- The lookup of `_read_pages` at an offset. -/
def listCall (shopId : Int) (offset : Nat) : FixtureCall :=
  ⟨"GET", listingsPath shopId, draftQuery offset, none⟩

/-- The creation of `_create`. -/
def createCall (spec : DraftSpec) (marker : String) : FixtureCall :=
  ⟨"POST", listingsPath spec.shopId, [], some (createBody spec marker)⟩

/-- The replies to the lookups of one walk, page by page. -/
def pageReplies (transport : Option FixtureTransport) (shopId : Int) (page : Nat) : Reply :=
  exchange transport "GET" (listingsPath shopId) (draftQuery (pageLimit * page)) none

/-- The reply to the creation. -/
def createReply (transport : Option FixtureTransport) (spec : DraftSpec) (marker : String) : Reply :=
  exchange transport "POST" (listingsPath spec.shopId) [] (some (createBody spec marker))

/-! ## The client's own calls -/

theorem toString_toList (n : Nat) : (toString n).toList = Nat.toDigits 10 n :=
  Nat.toList_repr

theorem toString_int_toList {n : Int} (h : 0 ≤ n) : (toString n).toList = Nat.toDigits 10 n.toNat := by
  obtain ⟨m, rfl⟩ := Int.eq_ofNat_of_zero_le h
  exact toString_toList m

theorem toDigits_all (n : Nat) : (Nat.toDigits 10 n).all Char.isDigit = true := by
  rw [List.all_eq_true]
  intro c hc
  exact Nat.isDigit_of_mem_toDigits (by decide) (by decide) hc

/-- The path of a positive shop is on the list. -/
theorem isListingsPath_listingsPath {shopId : Int} (h : 1 ≤ shopId) :
    isListingsPath (listingsPath shopId) = true := by
  obtain ⟨c, cs, hdigits, hdigit, hzero⟩ := Json.toDigits_cons shopId.toNat
  have hall := toDigits_all shopId.toNat
  have hnonzero : c ≠ '0' := by
    intro hc
    have hnat := (hzero hc).1
    omega
  rw [hdigits] at hall
  have hstop : pathEnd.takeWhile Char.isDigit = [] := by decide
  have hkeep : pathEnd.dropWhile Char.isDigit = pathEnd := by decide
  have hall' : ∀ d ∈ c :: cs, d.isDigit = true := List.all_eq_true.mp hall
  have htake : (c :: cs ++ pathEnd).takeWhile Char.isDigit = c :: cs := by
    rw [List.takeWhile_append_of_pos hall', hstop, List.append_nil]
  have hdrop : (c :: cs ++ pathEnd).dropWhile Char.isDigit = pathEnd := by
    rw [List.dropWhile_append_of_pos hall', hkeep]
  simp only [isListingsPath, listingsPath, toString_int_toList (Int.le_of_lt h), hdigits,
    String.toList_ofList, List.append_assoc, List.drop_left', htake, hdrop]
  simp [hnonzero]

theorem canonicalInt_toString (n : Nat) : canonicalInt (toString n) 0 none = true := by
  obtain ⟨c, cs, hdigits, -, hzero⟩ := Json.toDigits_cons n
  have hall := toDigits_all n
  have hne : ¬ ((toString n).toList = [] ∨ ¬ (toString n).toList.all Char.isDigit = true) := by
    rw [toString_toList, hall, hdigits]
    simp
  have hlead : ¬ (toString n ≠ "0" ∧ (toString n).toList.head? = some '0') := by
    rw [toString_toList, hdigits]
    rintro ⟨hnot, hhead⟩
    obtain ⟨rfl, -⟩ := hzero (Option.some.inj hhead)
    exact hnot rfl
  rw [canonicalInt, if_neg hne, if_neg hlead, if_neg (Nat.not_lt_zero _)]
  rfl

/-- Keys that are lower case, trimmed and distinct are kept as they are. -/
theorem foldKeys_ok {kind : String} {pairs normalized : List (String × String)}
    (hplain : ∀ key ∈ pairs.map Prod.fst, lowered key = key ∧ stripBy isSpace key = key)
    (hnodup : ((normalized ++ pairs).map Prod.fst).Nodup) :
    foldKeys kind normalized pairs = .ok (normalized ++ pairs) := by
  induction pairs generalizing normalized with
  | nil => rw [foldKeys, List.append_nil]
  | cons pair rest ih =>
    obtain ⟨raw, value⟩ := pair
    obtain ⟨hlower, hstrip⟩ := hplain raw List.mem_cons_self
    have hfresh : ¬ (normalized.map Prod.fst).contains raw = true := by
      intro hmem
      rw [List.contains_iff_mem] at hmem
      rw [List.map_append, List.nodup_append] at hnodup
      exact hnodup.2.2 raw hmem raw List.mem_cons_self rfl
    have hsplit : normalized ++ (raw, value) :: rest = (normalized ++ [(raw, value)]) ++ rest := by
      rw [List.append_assoc, List.singleton_append]
    simp only [foldKeys, hlower, hstrip, ne_eq, not_true_eq_false, if_false]
    rw [if_neg hfresh, hsplit]
    apply ih
    · intro key hmem
      exact hplain key (List.mem_cons_of_mem raw hmem)
    · rwa [← hsplit]

theorem queryKeys_draftQuery (offset : Nat) : queryKeys (draftQuery offset) = .ok (draftQuery offset) := by
  apply foldKeys_ok
  · change ∀ key ∈ getKeys, lowered key = key ∧ stripBy isSpace key = key
    decide
  · change getKeys.Nodup
    decide

theorem refuseGet_draftQuery (offset : Nat) : refuseGet (draftQuery offset) none = .ok () := by
  have hnames : (draftQuery offset).map Prod.fst = getKeys := rfl
  have hkeys : getKeys.all getKeys.contains = true := by decide
  have hstate : (draftQuery offset).lookup "state" = some "draft" := rfl
  have hlimit : (draftQuery offset).lookup "limit" = some (toString pageLimit) := rfl
  have hoffset : (draftQuery offset).lookup "offset" = some (toString offset) := rfl
  have hbound : canonicalInt (toString pageLimit) 1 (some pageLimit) = true := by decide
  simp only [refuseGet, queryKeys_draftQuery, hnames, hkeys, hstate, hlimit, hoffset, Option.any_some,
    hbound, canonicalInt_toString]
  rfl

theorem refusePost_createBody (spec : DraftSpec) (marker : String) :
    refusePost [] (some (createBody spec marker)) = .ok () := by
  have hbody : bodyKeys (createBody spec marker) = .ok (createBody spec marker) := by
    apply foldKeys_ok
    · change ∀ key ∈ bodyKeyNames, lowered key = key ∧ stripBy isSpace key = key
      decide
    · change bodyKeyNames.Nodup
      decide
  have hnames : (createBody spec marker).map Prod.fst = bodyKeyNames := rfl
  have hall : bodyKeyNames.all bodyKeyNames.contains = true := by decide
  simp only [refusePost, queryKeys, foldKeys, hbody, hnames, hall]
  rfl

/-- The client's lookup reaches the transport. -/
theorem exchange_list (send : FixtureTransport) {shopId : Int} (h : 1 ≤ shopId) (page : Nat) :
    pageReplies (some send) shopId page = send (listCall shopId (pageLimit * page)) := by
  have hlisted : ("GET", listingsTemplate) ∈ measuredAllowlist := List.mem_cons_self
  simp only [pageReplies, exchange, measuredPair, isListingsPath_listingsPath h, if_true,
    refuseGet_draftQuery, bind, Except.bind, if_neg (not_not_intro hlisted)]
  rfl

/-- The client's creation reaches the transport. -/
theorem exchange_create (send : FixtureTransport) {spec : DraftSpec} (h : 1 ≤ spec.shopId)
    (marker : String) : createReply (some send) spec marker = send (createCall spec marker) := by
  have hlisted : ("POST", listingsTemplate) ∈ measuredAllowlist := by
    apply List.mem_cons_of_mem
    exact List.mem_cons_self
  have hmethod : ¬ ("POST" : String) = "GET" := by decide
  simp only [createReply, exchange, measuredPair, isListingsPath_listingsPath h, if_true,
    refusePost_createBody, bind, Except.bind, if_neg (not_not_intro hlisted), if_neg hmethod]
  rfl

end Integrations
end MoneyMachine
