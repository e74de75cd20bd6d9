import MoneyMachine.Assets.LinkMatching
import MoneyMachine.Assets.PdfObjects

/-!
# LinkValidation — the links of an exported PDF, checked one by one

`validatePdfLinks` reads the links of a PDF, pairs them with the accepted ones, asks a checker about each
and stamps the records with a clock.  It returns a report or raises; what it raises is its own refusal,
an error of the reader that its handlers do not catch, or the `ValueError` of a malformed hop.

* `report_exact`         : a report is returned only for the accepted links, in their order;
* `link_matching_exact`  : that, and what the matching says of equal and of shorter lists.

The rules for a single link, the parser of URLs and the two digests are parameters.
-/

namespace MoneyMachine
namespace Assets
namespace LinkValidation

open MoneyMachine.Library
open LinkMatching

abbrev Text := List Char

/-! ## Records -/

/-- `AssetRepair`. -/
structure AssetRepair where
  asset : Text
  link : Text
  reason : String
  index : Int
  deriving DecidableEq, Repr

/-- `LinkObservation`. -/
structure LinkObservation where
  variant : Text
  isPublic : Bool
  duplicateButton : Bool
  chain : List Text
  deriving DecidableEq, Repr

/-- `LinkRecord`. -/
structure LinkRecord where
  link : Text
  variant : Text
  resolves : Bool
  isPublic : Bool
  duplicateButton : Bool
  checkedAt : Text
  pdfSha256 : Text
  linkSha256 : Text
  deriving DecidableEq, Repr

/-- `LinkReport`. -/
structure LinkReport where
  records : List LinkRecord
  repairs : List AssetRepair
  deriving DecidableEq, Repr

/-- `LinkValidationRefusal`. -/
structure LinkRefusal where
  code : String
  records : List LinkRecord
  repairs : List AssetRepair
  deriving DecidableEq, Repr

/-- What `validate_pdf_links` raises. -/
inductive ValidationError
  | refusal (refusal : LinkRefusal)
  /-- An exception of the reader that is no `ValueError`. -/
  | reader (e : PdfError)
  /-- The `ValueError` of `urlparse`, from `_redirects`. -/
  | malformedHop
  deriving DecidableEq, Repr

/-- The exceptions of the reader that are `ValueError`s. -/
def isValueError : PdfError → Bool
  | .value _ => true
  | .token _ => true
  | .object _ => true
  | .literal => true
  | .index => false
  | .key _ => false
  | .zlib => false
  | .overflow => false

/-- What is asked of the code around the validation. -/
structure Outside where
  /-- `urlparse`: the scheme and the hostname. -/
  urlparse : Text → Option (Text × Option Text)
  /-- `_refuse_link`, with the known variants. -/
  refuseLink : Text → Text → Option String
  /-- `refuse_paid_checkout` refuses. -/
  refusePaidCheckout : Text → Bool
  /-- `decode("utf-8", errors="replace")`. -/
  decode : Bytes → Text
  pdfSha256 : Bytes → Text
  linkSha256 : Text → Text
  /-- The checker, at the link of an index: it may answer two equal links differently. -/
  checker : Nat → Text → Text → Except LinkRefusal LinkObservation
  clock : Except LinkRefusal Text

section Validate

variable (zlib : Zlib) (outside : Outside) (pdf : Bytes) (asset : Text)

/-- `_repair`. -/
def repair (link : Text) (reason : String) : ValidationError :=
  .refusal ⟨reason, [], [⟨asset, link, reason, -1⟩]⟩

/-! ## Reading -/

/-- A call of the reader: a `ValueError` becomes a repair. -/
def readOr {α : Type} (call : Comp PdfError α) (refused : ValidationError) : Comp ValidationError α := do
  let answer ← Comp.attempt call
  match answer with
  | .ok a => pure a
  | .error e => Comp.ofExcept (.error (if isValueError e then refused else .reader e))

/-- `PdfDocument(pdf)` and the catalog. -/
def openCatalog : Comp PdfError Unit := do
  let doc ← openDocument zlib pdf
  let answer ← Comp.attempt (deref zlib doc Caches.empty (doc.trailer.field "Root"))
  match answer with
  | .ok (.ok _, _) => pure ()
  | .ok (.error e, _) => Comp.ofExcept (.error e)

/-- The strings of the information dictionary. -/
def infoStrings (doc : PdfDocument) (info : Fields) : Walk (List Text) :=
  (Fields.items info).foldlM (fun found field => do
    let value ← derefObject zlib doc field.2
    match textOf value with
    | some text => pure (found ++ [text])
    | none => pure found) []

/-- The body of `document_strings`, once the document is open. -/
def stringsOf (doc : PdfDocument) : Walk (List Text) := do
  let info ← derefObject zlib doc (doc.trailer.field "Info")
  let found ← infoStrings zlib doc (asDict info)
  let root ← derefObject zlib doc (doc.trailer.field "Root")
  let metadata ← derefObject zlib doc ((asDict root).field "Metadata")
  match metadata with
  | .stream _ data => pure (found ++ [outside.decode data])
  | _ => pure found

/-- `document_strings`. -/
def documentStrings : Comp LinkError (List Text) := do
  let opened ← Comp.attempt (openDocument zlib pdf)
  match opened with
  | .error e => Comp.ofExcept (.error (.pdf e))
  | .ok doc => do
      let (found, _) ← stringsOf zlib outside doc Caches.empty
      pure found

/-- `_info_refusal`: the offending text is named, where it can be read. -/
def refuseInfo : Comp ValidationError Unit := do
  let answer ← Comp.attempt (documentStrings zlib outside pdf)
  match answer with
  | .ok values =>
    match values.find? outside.refusePaidCheckout with
    | some value => Comp.ofExcept (.error (repair asset value "paid_checkout"))
    | none => pure ()
  | .error (.pdf e) =>
    Comp.ofExcept (.error (if isValueError e then repair asset [] "paid_checkout" else .reader e))
  | .error (.embedded _ _) => Comp.ofExcept (.error (repair asset [] "paid_checkout"))

/-- The rules of `refuse_graph_uri`. -/
def graphRules (accepted : List (Text × Text)) : LinkRules :=
  { refuseLink := fun uri => .ok (outside.refuseLink uri [])
    accepted := accepted.map Prod.snd }

/-- The links of the PDF. -/
def readLinks (accepted : List (Text × Text)) : Comp ValidationError (List Text) := do
  let answer ← Comp.attempt (deliveryLinkUris zlib (graphRules outside accepted) pdf)
  match answer with
  | .ok uris => pure uris
  | .error (.pdf e) =>
    Comp.ofExcept (.error (if isValueError e then repair asset [] "malformed" else .reader e))
  | .error (.embedded code uri) => Comp.ofExcept (.error (repair asset uri code))

/-! ## Checking -/

/-- `any(... for hop in chain)`, which stops at the first. -/
def anyHop (chain : List Text) (holds : Text × Option Text → Bool) : Option Bool :=
  match chain with
  | [] => some false
  | hop :: rest => do
      let parsed ← outside.urlparse hop
      if holds parsed then some true else anyHop rest holds

/-- `_redirects`; `none` is a `ValueError`. -/
def redirects (uri : Text) (chain : List Text) : Option Bool := do
  let (_, origin) ← outside.urlparse uri
  if chain.head? ≠ some uri ∨ origin = none then
    some true
  else do
    let insecure ← anyHop outside chain (fun parsed => decide (parsed.1 ≠ "https".toList))
    if insecure then some true else anyHop outside chain (fun parsed => decide (parsed.2 ≠ origin))

/-- `_refuse_observation`. -/
def refuseObservation (uri variant : Text) (observed : LinkObservation) : Option (Option String) := do
  let redirected ← redirects outside uri observed.chain
  if redirected then
    some (some "redirect_host")
  else if observed.variant ≠ variant then
    some (some "wrong_variant")
  else if observed.isPublic ≠ true then
    some (some "auth_wall")
  else if observed.duplicateButton ≠ true then
    some (some "duplicate_button")
  else
    some none

/-- `_record`. -/
def record (uri variant : Text) (observation : Option LinkObservation) (checkedAt : Text) : LinkRecord :=
  { link := uri
    variant := variant
    resolves := observation.any (fun seen =>
      decide (seen.variant = variant) && decide (redirects outside uri seen.chain = some false))
    isPublic := observation.any (fun seen => seen.isPublic)
    duplicateButton := observation.any (fun seen => seen.duplicateButton)
    checkedAt := checkedAt
    pdfSha256 := outside.pdfSha256 pdf
    linkSha256 := outside.linkSha256 uri }

/-- What becomes of one link: its record, and why it is refused. -/
def checkLink (index : Nat) (uri variant : Text) (paired : Bool) :
    Except ValidationError (LinkRecord × Option String) :=
  match outside.refuseLink uri variant with
  | some reason => .ok (record outside pdf uri variant none [], some reason)
  | none =>
    if paired then
      match outside.checker index uri variant with
      | .error refusal => .error (.refusal refusal)
      | .ok observation =>
        match refuseObservation outside uri variant observation with
        | none => .error .malformedHop
        | some reason => .ok (record outside pdf uri variant (some observation) [], reason)
    else
      .ok (record outside pdf uri variant none [], some "link_mismatch")

/-- The variant of a link: that of its accepted link, or of the accepted link in its place. -/
def variantOf (accepted : List (Text × Text)) (found : Matching) (index : Nat) : Text :=
  match found.pairs.lookup index with
  | some acceptedIndex => (accepted[acceptedIndex]?.map Prod.fst).getD []
  | none => (accepted[index]?.map Prod.fst).getD []

/-- The loop over the links, from an index on. -/
def checkLinks (accepted : List (Text × Text)) (found : Matching) :
    Nat → List Text → Except ValidationError (List LinkRecord × List AssetRepair)
  | _, [] => .ok ([], [])
  | index, uri :: uris => do
      let (record, reason) ← checkLink outside pdf index uri (variantOf accepted found index)
        (found.pairs.lookup index).isSome
      let (records, repairs) ← checkLinks accepted found (index + 1) uris
      .ok (record :: records, (reason.map (fun reason => ⟨asset, uri, reason, index⟩)).toList ++ repairs)

/-- The accepted links that nothing was paired with. -/
def missingRepairs (expected : List Text) (missing : List Nat) : List AssetRepair :=
  missing.map (fun (index : Nat) => ⟨asset, expected[index]?.getD [], "link_mismatch", index⟩)

/-- `validate_pdf_links`. -/
def validatePdfLinks (accepted : List (Text × Text)) : Comp ValidationError LinkReport := do
  readOr (openCatalog zlib pdf) (repair asset [] "malformed")
  refuseInfo zlib outside pdf asset
  let uris ← readLinks zlib outside pdf asset accepted
  if uris = [] then
    Comp.ofExcept (.error (repair asset [] "missing_links"))
  else do
    let expected := accepted.map Prod.snd
    let found := matchUris uris expected
    let (records, repairs) ← Comp.ofExcept (checkLinks outside pdf asset accepted found 0 uris)
    match repairs ++ missingRepairs asset expected found.missing with
    | first :: rest => Comp.ofExcept (.error (.refusal ⟨first.reason, records, first :: rest⟩))
    | [] =>
      match outside.clock with
      | .error refusal => Comp.ofExcept (.error (.refusal refusal))
      | .ok checkedAt =>
        pure ⟨records.map (fun record => { record with checkedAt := checkedAt }), []⟩

end Validate

/-! ## Reports -/

section Reports

variable {zlib : Zlib} {outside : Outside} {pdf : Bytes} {asset : Text} {accepted : List (Text × Text)}

/-- A link that needs no repair is paired. -/
theorem checkLink_paired {index : Nat} {uri variant : Text} {paired : Bool} {record : LinkRecord}
    (h : checkLink outside pdf index uri variant paired = .ok (record, none)) : paired = true := by
  unfold checkLink at h
  cases hrefused : outside.refuseLink uri variant with
  | some reason => simp [hrefused] at h
  | none =>
    cases paired with
    | true => rfl
    | false => simp [hrefused] at h

/-- Links that need no repair are all paired. -/
theorem checkLinks_paired {found : Matching} {index : Nat} {uris : List Text}
    {records : List LinkRecord} (h : checkLinks outside pdf asset accepted found index uris = .ok (records, [])) :
    ∀ i < uris.length, (found.pairs.lookup (index + i)).isSome = true := by
  induction uris generalizing index records with
  | nil => exact fun i hi => absurd hi (Nat.not_lt_zero i)
  | cons uri uris ih =>
    rw [checkLinks] at h
    cases hlink : checkLink outside pdf index uri (variantOf accepted found index)
        (found.pairs.lookup index).isSome with
    | error e => simp [hlink, bind, Except.bind] at h
    | ok answer =>
      obtain ⟨record, reason⟩ := answer
      cases hrest : checkLinks outside pdf asset accepted found (index + 1) uris with
      | error e => simp [hlink, hrest, bind, Except.bind] at h
      | ok rest =>
        obtain ⟨records', repairs⟩ := rest
        simp only [hlink, hrest, bind, Except.bind, Except.ok.injEq, Prod.mk.injEq,
          List.append_eq_nil_iff] at h
        obtain ⟨-, hreason, hrepairs⟩ := h
        cases reason with
        | some reason => cases hreason
        | none =>
          subst hrepairs
          intro i hi
          cases i with
          | zero => exact checkLink_paired hlink
          | succ i =>
            have hlater := ih hrest i (Nat.lt_of_succ_lt_succ hi)
            rwa [Nat.add_right_comm] at hlater

theorem exists_of_lookup {pairs : List (Nat × Nat)} {i : Nat} (h : (pairs.lookup i).isSome = true) :
    ∃ j, (i, j) ∈ pairs := by
  obtain ⟨j, hj⟩ := Option.isSome_iff_exists.mp h
  obtain ⟨before, after, hpairs, -⟩ := List.lookup_eq_some_iff.mp hj
  exact ⟨j, by rw [hpairs]; simp⟩

/-- A report is returned only for the accepted links, in their order. -/
theorem report_exact {report : LinkReport}
    (h : (validatePdfLinks zlib outside pdf asset accepted).Returns (.ok report)) :
    (readLinks zlib outside pdf asset accepted).Returns (.ok (accepted.map Prod.snd)) := by
  unfold validatePdfLinks at h
  obtain ⟨_, -, h⟩ := Comp.returns_ok_bind.mp h
  obtain ⟨_, -, h⟩ := Comp.returns_ok_bind.mp h
  obtain ⟨uris, huris, h⟩ := Comp.returns_ok_bind.mp h
  split at h
  · cases Comp.returns_ofExcept.mp h
  obtain ⟨⟨records, repairs⟩, hlinks, h⟩ := Comp.returns_ok_bind.mp h
  have hlinks := (Comp.returns_ofExcept.mp hlinks).symm
  dsimp only at h
  split at h
  · cases Comp.returns_ofExcept.mp h
  · rename_i hnone
    obtain ⟨hrepairs, hmissing⟩ := List.append_eq_nil_iff.mp hnone
    subst hrepairs
    have hmissing : (matchUris uris (accepted.map Prod.snd)).missing = [] := List.map_eq_nil_iff.mp hmissing
    -- Nothing was repaired, so every link was paired and nothing is missing.
    have hpaired : Paired uris (matchUris uris (accepted.map Prod.snd)) := by
      intro i hi
      have hlookup := checkLinks_paired hlinks i hi
      rw [Nat.zero_add] at hlookup
      exact exists_of_lookup hlookup
    have hmatched := matched_iff.mp ⟨hmissing, hpaired⟩
    rw [← hmatched]
    exact huris

/-- The links that were read are those of `delivery_link_uris`. -/
theorem readLinks_ok {uris : List Text}
    (h : (readLinks zlib outside pdf asset accepted).Returns (.ok uris)) :
    (deliveryLinkUris zlib (graphRules outside accepted) pdf).Returns (.ok uris) := by
  unfold readLinks at h
  obtain ⟨answer, hanswer, h⟩ := Comp.returns_ok_bind.mp h
  obtain ⟨result, hresult, hok⟩ := Comp.returns_attempt.mp hanswer
  cases hok
  cases answer with
  | ok found =>
    cases Comp.returns_pure.mp h
    exact hresult
  | error e =>
    cases e with
    | pdf e => cases Comp.returns_ofExcept.mp h
    | embedded code uri => cases Comp.returns_ofExcept.mp h

/-- Every link is paired with an equal accepted link, further right each time, and what is missing is
what was left out. -/
structure Aligned (uris expected : List Text) (found : Matching) : Prop where
  paired : found.pairs.map Prod.fst = List.range uris.length
  increasing : found.pairs.Pairwise (fun p q => p.1 < q.1 ∧ p.2 < q.2)
  equal : ∀ p ∈ found.pairs, ∃ uri, uris[p.1]? = some uri ∧ expected[p.2]? = some uri
  missing : found.missing =
    (List.range expected.length).filter (fun j => decide (j ∉ found.pairs.map Prod.snd))

theorem aligned_of_sublist {uris expected : List Text} (h : uris.Sublist expected) (hne : uris ≠ expected) :
    Aligned uris expected (matchUris uris expected) := by
  have hshort : uris.length < expected.length := by
    rcases Nat.lt_or_eq_of_le h.length_le with hlt | heq
    · exact hlt
    · exact absurd (h.eq_of_length heq) hne
  unfold matchUris
  rw [if_pos hshort]
  refine ⟨?_, align_increasing 0 0, align_equal [] [], ?_⟩
  · rw [align_complete 0 0 h, List.range_eq_range']
  · rw [align_missing 0 0, List.range_eq_range']

/-- Equal lists and only they are matched whole, a shorter list is blamed only for what it leaves out,
and a report means that the lists were equal. -/
theorem link_matching_exact :
    (∀ uris expected : List Text,
      ((matchUris uris expected).missing = [] ∧ Paired uris (matchUris uris expected)) ↔
        uris = expected) ∧
    (∀ uris expected : List Text, uris.Sublist expected → uris ≠ expected →
      Aligned uris expected (matchUris uris expected)) ∧
    ∀ (zlib : Zlib) (outside : Outside) (pdf : Bytes) (asset : Text) (accepted : List (Text × Text))
      (report : LinkReport),
      (validatePdfLinks zlib outside pdf asset accepted).Returns (.ok report) →
        (deliveryLinkUris zlib (graphRules outside accepted) pdf).Returns
          (.ok (accepted.map Prod.snd)) := by
  refine ⟨fun uris expected => matched_iff, fun uris expected => aligned_of_sublist, ?_⟩
  intro zlib outside pdf asset accepted report h
  exact readLinks_ok (report_exact h)

/-- One page with one link. -/
def linkedPdf : Bytes :=
  ascii ("1 0 obj<</Type/Page/Contents 0/MediaBox 0/Parent 0/Resources 0/Tabs/S/Annots[" ++
    "<</Type/Annot/Subtype/Link/Rect 0/Border 0/F 0/A<</S/URI/URI(a)>>>>]>>\n" ++
    "xref\n1 1\n0000000000 00000 n \n" ++
    "trailer<</Root<</Type 0/Pages<</Kids[1 0 R]>>>>>>\nstartxref\n148\n")

/-- Every link opens without a redirect. -/
def openOutside : Outside :=
  { urlparse := fun _ => some ("https".toList, some "host".toList)
    refuseLink := fun _ _ => none
    refusePaidCheckout := fun _ => false
    decode := latin1
    pdfSha256 := fun _ => []
    linkSha256 := fun uri => uri
    checker := fun _ uri variant => .ok ⟨variant, true, true, [uri]⟩
    clock := .ok "now".toList }

/-- A dropped middle is the one link that is missing; the link of the page is reported, and is the accepted
one. -/
theorem link_matching_dropped :
    Aligned ["a".toList, "c".toList] ["a".toList, "b".toList, "c".toList]
      (matchUris ["a".toList, "c".toList] ["a".toList, "b".toList, "c".toList]) ∧
    (matchUris ["a".toList, "c".toList] ["a".toList, "b".toList, "c".toList]).missing = [1] ∧
    ∃ zlib, (deliveryLinkUris zlib (graphRules openOutside [("left".toList, "a".toList)])
      linkedPdf).Returns (.ok ["a".toList]) := by
  refine ⟨link_matching_exact.2.1 _ _ (by decide) (by decide), by decide,
    { decompress := fun _ => none, decompressRaw := fun _ => none }, ?_⟩
  have hreport : (validatePdfLinks { decompress := fun _ => none, decompressRaw := fun _ => none }
      openOutside linkedPdf [] [("left".toList, "a".toList)]).Returns
        (.ok ⟨[⟨"a".toList, "left".toList, true, true, true, "now".toList, [], "a".toList⟩], []⟩) :=
    ⟨17, by decide +kernel⟩
  exact link_matching_exact.2.2 _ _ _ _ _ _ hreport

end Reports

end LinkValidation
end Assets
end MoneyMachine
