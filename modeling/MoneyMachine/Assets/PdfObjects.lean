import MoneyMachine.Assets.PdfReader
import MoneyMachine.Library.Stateful

/-!
# PdfObjects — the links of a delivery PDF

`delivery_link_uris` walks the whole object graph first and refuses what a delivery PDF must not hold,
and then reads the URI of each link annotation from the pages.

* `pages`       : the page dictionaries reached through `/Kids`;
* `scan`        : the walk over the graph, with the references it has followed and their roles;
* `uriAction`   : the URI of one link annotation;
* `deliveryLinkUris` : both, in this order.

The rules a URI is checked by are a parameter: `_refuse_link` with an empty variant.
-/

namespace MoneyMachine
namespace Assets

open MoneyMachine.Library

/-! ## Comparison -/

mutual

/-- The comparison of two objects. -/
def PdfObject.same : PdfObject → PdfObject → Bool
  | .null, .null => true
  | .bool a, .bool b => decide (a = b)
  | .int a, .int b => decide (a = b)
  | .real a, .real b => decide (a = b)
  | .name a, .name b => decide (a = b)
  | .ref a c, .ref b d => decide (a = b) && decide (c = d)
  | .text a, .text b => decide (a = b)
  | .array a, .array b => PdfObject.sameItems a b
  | .dict a, .dict b => PdfObject.sameFields a b
  | .stream a c, .stream b d => PdfObject.sameFields a b && decide (c = d)
  | _, _ => false

def PdfObject.sameItems : List PdfObject → List PdfObject → Bool
  | [], [] => true
  | a :: as, b :: bs => PdfObject.same a b && PdfObject.sameItems as bs
  | _, _ => false

def PdfObject.sameFields : Fields → Fields → Bool
  | [], [] => true
  | (k, a) :: as, (l, b) :: bs => decide (k = l) && PdfObject.same a b && PdfObject.sameFields as bs
  | _, _ => false

end

mutual

theorem PdfObject.same_iff (a b : PdfObject) : a.same b = true ↔ a = b := by
  cases a with
  | array as =>
    cases b with
    | array bs => simp [PdfObject.same, PdfObject.sameItems_iff as bs]
    | _ => simp [PdfObject.same]
  | dict as =>
    cases b with
    | dict bs => simp [PdfObject.same, PdfObject.sameFields_iff as bs]
    | _ => simp [PdfObject.same]
  | stream as c =>
    cases b with
    | stream bs d => simp [PdfObject.same, PdfObject.sameFields_iff as bs]
    | _ => simp [PdfObject.same]
  | _ => cases b <;> simp [PdfObject.same]

theorem PdfObject.sameItems_iff (as bs : List PdfObject) :
    PdfObject.sameItems as bs = true ↔ as = bs := by
  cases as with
  | nil => cases bs <;> simp [PdfObject.sameItems]
  | cons a as =>
    cases bs with
    | nil => simp [PdfObject.sameItems]
    | cons b bs =>
      simp [PdfObject.sameItems, PdfObject.same_iff a b, PdfObject.sameItems_iff as bs]

theorem PdfObject.sameFields_iff (as bs : Fields) :
    PdfObject.sameFields as bs = true ↔ as = bs := by
  cases as with
  | nil => cases bs <;> simp [PdfObject.sameFields]
  | cons a as =>
    cases a with
    | mk k a =>
      cases bs with
      | nil => simp [PdfObject.sameFields]
      | cons b bs =>
        rcases b with ⟨l, b⟩
        simp [PdfObject.sameFields, PdfObject.same_iff a b, PdfObject.sameFields_iff as bs]

end

instance : DecidableEq PdfObject :=
  fun a b => decidable_of_iff (a.same b = true) (PdfObject.same_iff a b)

deriving instance DecidableEq for PdfDocument

/-! ## The document -/

/-- The exceptions of the walk. -/
inductive LinkError
  | pdf (e : PdfError)
  /-- `EmbeddedUriRefusal`. -/
  | embedded (code : String) (uri : List Char)
  deriving DecidableEq, Repr

/-- A call that shares the caches of the document. -/
abbrev Walk (α : Type) := Stateful Caches LinkError α

/-- `raise ValueError(text)`. -/
def refuse {α : Type} (text : String) : Walk α :=
  Stateful.ofExcept (.error (.pdf (.value text)))

/-- A call of the reader; its error ends the walk. -/
def lift {α : Type} (call : Caches → Comp Empty (Cached α)) : Walk α :=
  fun caches => do
    let answer ← Comp.attempt (call caches)
    match answer with
    | .ok (.ok a, caches) => pure (a, caches)
    | .ok (.error e, _) => Comp.ofExcept (.error (.pdf e))

/-- `fields.get(name)`; what is absent is `None`, as `null` is. -/
def Fields.field (fields : Fields) (name : String) : PdfObject :=
  (fields.get? name).getD .null

/-- `frozenset(fields) == names`. -/
def Fields.hasKeys (fields : Fields) (names : List String) : Bool :=
  fields.all (fun field => decide (field.1 ∈ names.map String.toList)) &&
    names.all (fun name => (fields.get? name).isSome)

/-- `fields.items()`, but for the keys that came before. -/
def Fields.itemsAfter (before : List (List Char)) : Fields → Fields
  | [] => []
  | (key, value) :: rest =>
    if key ∈ before then
      Fields.itemsAfter before rest
    else
      (key, value) :: Fields.itemsAfter (key :: before) rest

/-- `fields.items()`: a key has one value, as `fields.get` has it. -/
def Fields.items (fields : Fields) : Fields :=
  fields.itemsAfter []

/-- `_name_is`. -/
def nameIs (value : PdfObject) (expected : String) : Bool :=
  match value with
  | .name value => decide (value = expected.toList)
  | _ => false

/-- `_dict`. -/
def asDict : PdfObject → Fields
  | .dict fields => fields
  | _ => []

/-- `_text_of`. -/
def textOf : PdfObject → Option (List Char)
  | .text text => some text.text
  | _ => none

section Document

variable (zlib : Zlib) (doc : PdfDocument)

def getObject (number : Int) : Walk PdfObject :=
  lift (fun caches => get zlib doc caches number)

def derefObject (object : PdfObject) : Walk PdfObject :=
  lift (fun caches => deref zlib doc caches object)

/-- `_once`: a second hop stays a reference. -/
def once : PdfObject → Walk PdfObject
  | .ref number _ => getObject zlib doc number
  | value => pure value

/-! ## Pages -/

/-- The page node is not one of the nodes above it. -/
def enterNode (seen : List Int) : PdfObject → Walk (Option Int × List Int)
  | .ref number _ => if number ∈ seen then refuse "pdf page" else pure (some number, number :: seen)
  | _ => pure (none, seen)

/-- `_pages`, with the number of levels that are left: each page with the number of its object, when it
has one. -/
def pages : Nat → List Int → PdfObject → Walk (List (Option Int × Fields))
  | 0, _, _ => refuse "pdf kids depth"
  | levels + 1, seen, node => do
      let (number, seen) ← enterNode seen node
      let found ← derefObject zlib doc node
      let page := asDict found
      if nameIs (page.field "Type") "Page" then
        pure [(number, page)]
      else do
        let kids ← derefObject zlib doc (page.field "Kids")
        match kids with
        | .array kids =>
          kids.foldlM (fun found kid => do
            let more ← pages levels seen kid
            pure (found ++ more)) []
        | _ => refuse "pdf page"

/-- `_dict(doc.deref(doc.trailer.get("Root")))`. -/
def rootFields : Walk Fields := do
  let root ← derefObject zlib doc (doc.trailer.field "Root")
  pure (asDict root)

/-- `_pages(doc, root.get("Pages"))`. -/
def documentPages : Walk (List (Option Int × Fields)) := do
  let root ← rootFields zlib doc
  pages zlib doc (maxDepth + 1) [] (root.field "Pages")

/-! ## Checks -/

/-- `_LINK_KEYS`. -/
def linkKeys : List String := ["Type", "Subtype", "Rect", "Border", "F", "A"]

/-- `_ACTION_BARE`. -/
def actionBare : List String := ["S", "URI"]

/-- `_ACTION_WITH_TYPE`. -/
def actionWithType : List String := ["Type", "S", "URI"]

/-- `_CATALOG_KEYS`. -/
def catalogKeys : List String := ["Pages", "Type"]

/-- `_PAGE_KEYS`. -/
def pageKeys : List String := ["Contents", "MediaBox", "Parent", "Resources", "Tabs", "Type"]

/-- `_PAGE_WITH_ANNOTS`. -/
def pageWithAnnots : List String := pageKeys ++ ["Annots"]

/-- `_RESOURCE_KEYS`. -/
def resourceKeys : List String := ["ExtGState", "Font", "ProcSet"]

/-- `_refuse_root_names`. -/
def refuseRootNames (fields : Fields) : Walk Unit := do
  let names ← once zlib doc (fields.field "Names")
  match names with
  | .dict names =>
    if (Fields.get? names "JavaScript").isSome || (Fields.get? names "EmbeddedFiles").isSome then
      refuse "pdf names entry"
    else
      pure ()
  | _ => pure ()

/-- `_refuse_trailer_root`. -/
def refuseTrailerRoot : Walk Unit := do
  let root ← derefObject zlib doc (doc.trailer.field "Root")
  match root with
  | .dict fields =>
    if Fields.hasKeys fields catalogKeys then
      refuseRootNames zlib doc fields
    else
      refuse "pdf catalog keys"
  | _ => refuse "pdf catalog keys"

/-- The keyword arguments of `scan`. -/
structure Context where
  inLinkAction : Bool
  underPageAnnots : Bool
  actionOfAnnot : Bool
  deriving DecidableEq, Repr

def Context.plain : Context :=
  { inLinkAction := false, underPageAnnots := false, actionOfAnnot := false }

/-- The key a value stands under. -/
abbrev Role := Option (List Char)

/-- `role == name`. -/
def roleIs (role : Role) (name : String) : Bool :=
  decide (role = some name.toList)

/-- `_refuse_annot_role`. -/
def refuseAnnotRole (fields : Fields) : Except LinkError Unit :=
  if !fields.hasKeys linkKeys then
    .error (.pdf (.value "pdf link keys"))
  else if !nameIs (fields.field "Subtype") "Link" then
    .error (.pdf (.value "pdf annot subtype"))
  else
    .ok ()

/-- `_refuse_resolved_role`. -/
def refuseResolvedRole (fields : Fields) (role : Role) (context : Context) : Except LinkError Unit :=
  if roleIs role "Annots" then
    refuseAnnotRole fields
  else if roleIs role "Resources" then
    if fields.hasKeys resourceKeys then .ok () else .error (.pdf (.value "pdf resource keys"))
  else if roleIs role "AA" then
    .error (.pdf (.value "pdf additional action"))
  else if roleIs role "A" && !context.inLinkAction && !context.actionOfAnnot then
    .error (.pdf (.value "pdf action role"))
  else if nameIs (fields.field "Subtype") "Link" then
    .error (.pdf (.value "pdf link lookalike"))
  else
    .ok ()

/-- `_refuse_page`. -/
def refusePage (fields : Fields) : Except LinkError Unit :=
  if !nameIs (fields.field "Type") "Page" then
    .ok ()
  else if (fields.get? "AA").isSome then
    .error (.pdf (.value "pdf page additional action"))
  else if fields.hasKeys pageKeys || fields.hasKeys pageWithAnnots then
    .ok ()
  else
    .error (.pdf (.value "pdf page keys"))

/-- The accepted links, and the rules of `_refuse_link` with an empty variant. -/
structure LinkRules where
  refuseLink : List Char → Except LinkError (Option String)
  accepted : List (List Char)

/-- `refuse_graph_uri`. -/
def LinkRules.refuseGraphUri (rules : LinkRules) (uri : List Char) : Except LinkError (Option String) := do
  let reason ← rules.refuseLink uri
  match reason with
  | some reason => .ok (some reason)
  | none => .ok (if uri ∈ rules.accepted then none else some "link_mismatch")

variable (rules : LinkRules)

/-- `_refuse_action_uri`, behind its two guards. -/
def refuseUri (fields : Fields) : Walk Unit := do
  let resolved ← once zlib doc (fields.field "URI")
  -- A stream is no text either: the link path refuses it.
  match textOf resolved with
  | none => pure ()
  | some uri => do
      let reason ← Stateful.ofExcept (rules.refuseGraphUri uri)
      match reason with
      | none => pure ()
      | some reason => Stateful.ofExcept (.error (.embedded reason uri))

/-- `_refuse_action_uri`. -/
def refuseActionUri (fields : Fields) (inLinkAction : Bool) : Walk Unit :=
  if inLinkAction || (fields.get? "URI").isNone then
    pure ()
  else
    refuseUri zlib doc rules fields

/-- `_refuse_dict`: only a name that stands in the dictionary itself is an `/S`. -/
def refuseDict (fields : Fields) (inLinkAction : Bool) : Walk Unit := do
  Stateful.ofExcept (refusePage fields)
  match fields.field "S" with
  | .name action =>
    if action = "URI".toList then
      refuseActionUri zlib doc rules fields inLinkAction
    else
      refuse "pdf action s"
  | _ => pure ()

/-- `_defer_page_annots`. -/
def deferPageAnnots (realPages : List Int) (number : Option Int) (fields : Fields) : Bool :=
  nameIs (fields.field "Type") "Page" && number.any (fun number => decide (number ∈ realPages))

/-! ## The walk over the graph -/

/-- The references followed so far, each with the role it had. -/
abbrev Seen := List (Int × Role)

abbrev Scan := PdfObject → Role → Context → Seen → Walk Seen

/-- What holds of the value under a key of a dictionary. -/
def childContext (realPages : List Int) (number : Option Int) (context : Context) (fields : Fields)
    (key : List Char) : Context :=
  let annot := nameIs (fields.field "Type") "Annot"
  let link := annot && nameIs (fields.field "Subtype") "Link"
  { inLinkAction := context.underPageAnnots && link && decide (key = "A".toList)
    underPageAnnots := deferPageAnnots realPages number fields && decide (key = "Annots".toList)
    actionOfAnnot := annot && decide (key = "A".toList) }

/-- The rest of `scan`, once a reference is resolved. -/
def visit (realPages : List Int) (scan : Scan) (number : Option Int) (value : PdfObject) (role : Role)
    (context : Context) (seen : Seen) : Walk Seen :=
  match value with
  | .dict fields => do
      Stateful.ofExcept (refuseResolvedRole fields role context)
      refuseDict zlib doc rules fields context.inLinkAction
      (Fields.items fields).foldlM (fun seen field =>
        scan field.2 (some field.1) (childContext realPages number context fields field.1) seen) seen
  | .array items => items.foldlM (fun seen item => scan item role context seen) seen
  | .stream fields _ => scan (.dict fields) role context seen
  | _ => pure seen

/-- `scan`, with the number of levels that are left. -/
def scan (realPages : List Int) : Nat → Scan
  | 0 => fun _ _ _ _ => refuse "pdf depth"
  | levels + 1 => fun value role context seen =>
    match value with
    | .ref number _ =>
      if (number, role) ∈ seen then
        pure seen
      else do
        let value ← getObject zlib doc number
        visit zlib doc rules realPages (scan realPages levels) (some number) value role context
          ((number, role) :: seen)
    | value => visit zlib doc rules realPages (scan realPages levels) none value role context seen

/-- The numbers of `doc.entries`, in the order they were first read. -/
def PdfDocument.numbers (doc : PdfDocument) : List Int :=
  (doc.entries.reverse.map Prod.fst).eraseDups

/-- What nothing references is walked without a role. -/
def scanRest (realPages reached : List Int) (seen : Seen) : Walk Seen :=
  doc.numbers.foldlM (fun seen number =>
    if number ∈ reached then
      pure seen
    else
      scan zlib doc rules realPages (maxDepth + 1) (.ref number 0) none Context.plain seen) seen

/-- `_refuse_graph`. -/
def refuseGraph : Walk Seen := do
  refuseTrailerRoot zlib doc
  let found ← documentPages zlib doc
  let realPages := found.filterMap Prod.fst
  let seen ← scan zlib doc rules realPages (maxDepth + 1) (.dict doc.trailer) none Context.plain []
  scanRest zlib doc rules realPages (seen.map Prod.fst) seen

/-! ## The links -/

/-- `_uri_action`. -/
def uriAction (annot : Fields) : Walk (List Char) := do
  if !annot.hasKeys linkKeys then
    refuse "pdf link keys"
  else if !nameIs (annot.field "Type") "Annot" then
    refuse "pdf link type"
  else do
    let found ← once zlib doc (annot.field "A")
    let action := asDict found
    if action.hasKeys actionWithType && !nameIs (action.field "Type") "Action" then
      refuse "pdf action type"
    else if !action.hasKeys actionWithType && !action.hasKeys actionBare then
      refuse "pdf action keys"
    else do
      let resolved ← once zlib doc (action.field "URI")
      match resolved with
      | .stream _ _ => refuse "pdf uri stream"
      | resolved =>
        match textOf resolved with
        | none => refuse "pdf uri"
        | some uri => pure uri

/-- The URIs of one page. -/
def pageUris (page : Fields) : Walk (List (List Char)) := do
  let annots ← derefObject zlib doc (page.field "Annots")
  match annots with
  | .array items =>
    items.foldlM (fun uris item => do
      let annot ← derefObject zlib doc item
      let uri ← uriAction zlib doc (asDict annot)
      pure (uris ++ [uri])) []
  | _ => pure []

/-- The body of `delivery_link_uris`, once the document is open. -/
def documentLinkUris : Walk (List (List Char)) := do
  let _ ← refuseGraph zlib doc rules
  let found ← documentPages zlib doc
  found.foldlM (fun uris page => do
    let more ← pageUris zlib doc page.2
    pure (uris ++ more)) []

end Document

/-- `delivery_link_uris`. -/
def deliveryLinkUris (zlib : Zlib) (rules : LinkRules) (pdf : Bytes) :
    Comp LinkError (List (List Char)) := do
  let opened ← Comp.attempt (openDocument zlib pdf)
  match opened with
  | .error e => Comp.ofExcept (.error (.pdf e))
  | .ok doc => do
      let (uris, _) ← documentLinkUris zlib doc rules Caches.empty
      pure uris

end Assets
end MoneyMachine
