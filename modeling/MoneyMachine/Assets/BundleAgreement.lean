import MoneyMachine.Assets.BundleCrashes

/-!
# BundleAgreement — a later call and an uninterrupted one

* `later_call_agrees_iff` : after any crashes, what a later call returns is what an uninterrupted call
  returns, unless the manifest ends with the row of `free_gift.pdf`;
* `torn_manifest_returned` : such a manifest is returned as complete.
-/

namespace MoneyMachine
namespace Assets

open MoneyMachine.Library
open MoneyMachine.Library.Json
open MoneyMachine.Observability (asciiBytes)

/-- The manifest ends with the row of `free_gift.pdf`. -/
def EndsAtGift (files : Files) : Prop :=
  ∃ bytes rows row, files manifestName = some bytes ∧ readManifest bytes = some (rows ++ [row]) ∧
    relativePath row = .ok (lit "free_gift.pdf")

section Runs

variable {inp : BundleInputs}

theorem rowsOf_ne_nil {done : List Artifact} (h : done ≠ []) : rowsOf inp done ≠ [] := by
  simpa [rowsOf] using h

/-- A manifest whose rows are placed is verified. -/
theorem run_verifyBundle {files : Files} {bytes : Bytes} {done : List Artifact}
    (hmanifest : files manifestName = some bytes)
    (hread : readManifest bytes = some (rowsOf inp done)) (hne : done ≠ [])
    (hplaced : Placed done files) :
    (verifyBundle inp).run Files.perform () files = (.ok (rowsOf inp done), files) := by
  rw [verifyBundle, Script.run_bind, Script.run_request, Files.perform, hmanifest]
  simp only [hread]
  cases hrows : rowsOf inp done with
  | nil => exact absurd hrows (rowsOf_ne_nil hne)
  | cons row rows =>
    have hverify := @run_verifyRows inp done files hplaced
    rw [hrows] at hverify
    simp only [Script.run_bind, hverify]
    rfl

theorem run_writeJson (files : Files) (value : Value) :
    (writeJson assetsName assetsNextName value).run Files.perform () files =
      (.ok (), withAssets files (jsonFile value)) := by
  rw [writeJson, Script.run_bind, Script.run_request, Files.perform]
  simp [Script.run_request, Files.perform, withAssets]

theorem placed_withAssets {done : List Artifact} {files : Files} (h : Placed done files)
    (value text : Bytes) : Placed done ((withAssets files value).set manifestName text) := by
  apply placed_of_same h
  intro name hname
  have hne : name ≠ manifestName := by
    rintro rfl
    exact hname (by decide)
  rw [Files.set_of_ne _ _ hne]
  exact withAssets_same files value hname

theorem run_finishBundle {done : List Artifact} {files : Files} (hplaced : Placed done files)
    (hne : done ≠ []) :
    ((finishBundle inp done).run Files.perform () files).1 =
      .ok (rowsOf inp done, assetsOf inp done) := by
  have hread := @readManifest_whole inp done (fun a ha => (hplaced a ha).1)
  have hverify := run_verifyBundle (Files.set_self _ manifestName _) hread hne
    (placed_withAssets hplaced (jsonFile (assetsValue (assetsOf inp done))) _)
  rw [finishBundle, Script.run_bind, run_writeJson]
  simp only [Script.run_bind, Script.run_request, Files.perform, hverify]
  rfl

theorem painted_ne_nil {done : List Artifact} (h : Painted inp done) : done ≠ [] := by
  rcases h.ends with ⟨front, pdf, gift, readme, rfl, -⟩
  simp

/-- An uninterrupted call in an empty directory. -/
theorem renderedBy_empty {done : List Artifact} (hdone : (freshPainting inp).1 = .ok done) :
    renderedBy inp Files.empty = .ok (rowsOf inp done, assetsOf inp done) := by
  rcases freshPainting_records hdone with ⟨hpainted, hplaced⟩
  have hrun : (painting inp).run Files.paint () Files.empty = (.ok done, (freshPainting inp).2) := by
    rw [← hdone]
    rfl
  rw [renderedBy, renderBundle, Script.run_bind, Script.run_request, Files.perform]
  simp only [Files.empty, Option.isSome_none, Bool.false_eq_true, if_false]
  rw [paintedBundle, Script.run_bind, Script.run_expand run_onDisk painting_strict]
  rw [hrun]
  exact run_finishBundle hplaced (painted_ne_nil hpainted)

/-! ## Where the manifest exists -/

theorem run_validateDeliveryPdfs {files : Files} {readme gift : Bytes} {links : List Text}
    (hreadme : files (lit "readme.pdf") = some readme)
    (hgift : files (lit "free_gift.pdf") = some gift)
    (hadmitted : admitDeliveryPdf inp readme links = .ok ())
    (hempty : admitDeliveryPdf inp gift [] = .ok ()) :
    (validateDeliveryPdfs inp links).run Files.perform () files = (.ok (), files) := by
  simp only [validateDeliveryPdfs, Script.run_bind, Script.run_request, Files.perform, hreadme, hgift,
    Script.run_ofExcept, hadmitted, hempty]

/-- What is returned where the manifest is read as a part of the rows. -/
theorem renderedBy_written {done part : List Artifact} {k : Nat} {files : Files}
    (hpainted : Painted inp done) (hwritten : Written inp done k files)
    (hsaved : inp.validateAssets (jsonFile (assetsValue (assetsOf inp done))) =
      .ok (assetsOf inp done))
    (hread : readManifest ((asciiBytes (manifestText (rowsOf inp done))).take k) =
      some (rowsOf inp part)) (hne : part ≠ []) (hpart : ∀ a ∈ part, a ∈ done) :
    renderedBy inp files =
      (checkAssets inp (rowsOf inp part) (assetsOf inp done)).map
        (fun _ => (rowsOf inp part, assetsOf inp done)) := by
  rcases hpainted.ends with ⟨front, pdf, gift, readme, hdone, hpdf, hgift, -⟩
  rcases hpdf.admitted with ⟨links, hlinks, hadmitted⟩
  rcases hgift.admitted with ⟨none, ⟨⟩, hempty⟩
  have hfile : ∀ a ∈ done, files a.name = some a.value := fun a ha => (hwritten.placed a ha).2
  have hpdfFile := hfile pdf (by rw [hdone]; simp)
  have hgiftFile := hfile gift (by rw [hdone]; simp)
  rw [hpdf.name] at hpdfFile
  rw [hgift.name] at hgiftFile
  have hverify := run_verifyBundle hwritten.manifest hread hne
    (fun a ha => hwritten.placed a (hpart a ha))
  have hvalidate := run_validateDeliveryPdfs hpdfFile hgiftFile hadmitted hempty
  rw [renderedBy, renderBundle, Script.run_bind, Script.run_request, Files.perform]
  simp only [hwritten.manifest, Option.isSome_some, if_true]
  simp only [verifiedBundle, Script.run_bind, hverify, hlinks, Script.run_ofExcept, hvalidate,
    loadVerifiedAssets, Script.run_request, Files.perform, hwritten.assets, hsaved]
  cases checkAssets inp (rowsOf inp part) (assetsOf inp done) with
  | ok u => rfl
  | error e => rfl

/-- A manifest that cannot be read, or that is empty, is refused. -/
theorem renderedBy_unread {files : Files} {bytes : Bytes} (hmanifest : files manifestName = some bytes)
    (h : readManifest bytes = none ∨ readManifest bytes = some []) :
    ∀ result, renderedBy inp files ≠ .ok result := by
  intro result
  rw [renderedBy, renderBundle, Script.run_bind, Script.run_request, Files.perform]
  simp only [hmanifest, Option.isSome_some, if_true]
  rw [verifiedBundle, Script.run_bind, verifyBundle, Script.run_bind, Script.run_request,
    Files.perform, hmanifest]
  rcases h with hread | hread
  · simp [hread]
  · simp [hread]

theorem mem_assetsOf {done : List Artifact} {asset : BoundAsset} :
    asset ∈ assetsOf inp done ↔ ∃ a ∈ done, a.asset inp = some asset :=
  List.mem_filterMap

/-- The bindings are confirmed by rows that hold every artifact with a binding. -/
theorem checkAssets_part {done part : List Artifact} (hnamed : ∀ a ∈ part, a.WellNamed)
    (hnodup : (namesOf part).Nodup) (hbound : ∀ a ∈ done, a.bound = none ∨ a ∈ part) :
    checkAssets inp (rowsOf inp part) (assetsOf inp done) = .ok () := by
  apply checkAssets_ok
  intro asset hasset
  rcases mem_assetsOf.1 hasset with ⟨a, ha, heq⟩
  rcases hbound a ha with hnone | hpart
  · rw [Artifact.asset, hnone] at heq
    cases heq
  · exact checkAsset_ok hnamed hnodup hpart heq

/-- They are refused where the row of one is missing. -/
theorem checkAssets_missing {done part : List Artifact} (hnamed : ∀ a ∈ done, a.WellNamed)
    (hpart : ∀ a ∈ part, a ∈ done) {a : Artifact} (ha : a ∈ done) {bound : BoundAsset}
    (hbound : a.bound = some bound) (hmissing : ∀ b ∈ part, b.name ≠ a.name) :
    checkAssets inp (rowsOf inp part) (assetsOf inp done) ≠ .ok () := by
  have hasset : a.asset inp = some
      { bound with outputSha256 := sha inp a.value, storageUri := inp.place.under a.name } := by
    rw [Artifact.asset, hbound]
    rfl
  refine checkAssets_error (mem_assetsOf.2 ⟨a, ha, hasset⟩) (checkAsset_missing ?_)
  intro b hb hunder
  have hname := under_injective (hnamed b (hpart b hb)).name.plain (hnamed a ha).name.plain hunder
  exact hmissing b hb hname

end Runs

/-- What is returned is what an uninterrupted call in an empty directory returns. -/
def Agrees (inp : BundleInputs) (files : Files) : Prop :=
  ∀ result, renderedBy inp files = .ok result → renderedBy inp Files.empty = .ok result

/-! ## Agreement -/

section Agreement

variable {inp : BundleInputs}

theorem nodup_painted {done : List Artifact} (h : Painted inp done) : (namesOf done).Nodup := by
  rcases h.names with ⟨m, hm⟩
  rw [hm]
  exact nodup_artifactNames _ _

/-- The rows before the row of `free_gift.pdf` have other names. -/
theorem names_before {front : List Artifact} {pdf gift readme : Artifact}
    (hnodup : (namesOf (front ++ [pdf, gift, readme])).Nodup) :
    ∀ b ∈ front ++ [pdf], b.name ≠ gift.name := by
  have hsplit : front ++ [pdf, gift, readme] = (front ++ [pdf]) ++ [gift, readme] := by simp
  rw [hsplit, namesOf_append, List.nodup_append] at hnodup
  intro b hb
  exact hnodup.2.2 b.name (List.mem_map.2 ⟨b, hb, rfl⟩) gift.name (List.mem_cons_self ..)

/-- The row of `README.txt` has another name than those before it. -/
theorem names_last {front : List Artifact} {pdf gift readme : Artifact}
    (hnodup : (namesOf (front ++ [pdf, gift, readme])).Nodup) :
    (namesOf (front ++ [pdf, gift])).Nodup ∧ readme.name ≠ gift.name := by
  have hsplit : front ++ [pdf, gift, readme] = (front ++ [pdf, gift]) ++ [readme] := by simp
  rw [hsplit, namesOf_append, List.nodup_append] at hnodup
  refine ⟨hnodup.1, ?_⟩
  intro hname
  exact hnodup.2.2 gift.name (List.mem_map.2 ⟨gift, by simp, rfl⟩) readme.name
    (List.mem_cons_self ..) hname.symm

theorem relativePath_last {rows : List Value} {row : Value} {part : List Artifact} {a : Artifact}
    (h : rowsOf inp (part ++ [a]) = rows ++ [row]) : relativePath row = .ok a.name := by
  rw [rowsOf, List.map_append, List.map_singleton] at h
  have hlast := (List.append_inj' h rfl).2
  rw [← List.head_eq_of_cons_eq hlast]
  exact relativePath_row a

/-- How far a manifest was cut: it is whole, it lacks the last row, or the row of `free_gift.pdf` is
missing too. -/
theorem take_cases {front : List Artifact} {pdf gift readme : Artifact} {j : Nat}
    (h : j ≤ (front ++ [pdf, gift, readme]).length) :
    (front ++ [pdf, gift, readme]).take j = front ++ [pdf, gift, readme] ∨
      (front ++ [pdf, gift, readme]).take j = front ++ [pdf, gift] ∨
      (front ++ [pdf, gift, readme]).take j = (front ++ [pdf]).take j := by
  simp only [List.length_append, List.length_cons, List.length_nil] at h
  have hwhole : front ++ [pdf, gift, readme] = (front ++ [pdf, gift]) ++ [readme] := by simp
  have hfirst : front ++ [pdf, gift, readme] = (front ++ [pdf]) ++ [gift, readme] := by simp
  by_cases hall : j = front.length + 3
  · left
    exact List.take_of_length_le (by simp [hall])
  · by_cases hlast : j = front.length + 2
    · right
      left
      rw [hwhole]
      exact List.take_left' (by simp [hlast])
    · right
      right
      rw [hfirst, List.take_append_of_le_length]
      simp only [List.length_append, List.length_singleton]
      omega

/-- Without a manifest the bundle is painted again. -/
theorem agrees_leftover {files : Files} (h : Leftover (freshPainting inp).2 files) :
    Agrees inp files ∧ ¬ EndsAtGift files := by
  constructor
  · intro result hresult
    have hcall := Script.post_of_holds (c := ()) (holds_renderBundle (Or.inl h))
    rcases hcall.2 h.manifest result hresult with ⟨done, hfresh, rfl⟩
    exact renderedBy_empty hfresh
  · rintro ⟨bytes, rows, row, hmanifest, -⟩
    rw [h.manifest] at hmanifest
    cases hmanifest

/-- A manifest that is not read, or read as no rows. -/
theorem agrees_unread {files : Files} {bytes : Bytes} (hmanifest : files manifestName = some bytes)
    (h : readManifest bytes = none ∨ readManifest bytes = some []) :
    Agrees inp files ∧ ¬ EndsAtGift files := by
  constructor
  · intro result hresult
    exact absurd hresult (renderedBy_unread hmanifest h result)
  · rintro ⟨bytes', rows, row, hmanifest', hrows, -⟩
    rw [hmanifest, Option.some.injEq] at hmanifest'
    rw [← hmanifest'] at hrows
    rcases h with h | h
    · rw [h] at hrows
      cases hrows
    · rw [h, Option.some.injEq] at hrows
      simp at hrows

/-- The last row that is read decides whether the manifest ends at `free_gift.pdf`. -/
theorem endsAtGift_iff {files : Files} {bytes : Bytes} {part : List Artifact} {a : Artifact}
    (hmanifest : files manifestName = some bytes)
    (hread : readManifest bytes = some (rowsOf inp (part ++ [a]))) :
    EndsAtGift files ↔ a.name = lit "free_gift.pdf" := by
  constructor
  · rintro ⟨bytes', rows, row, hmanifest', hrows, hpath⟩
    rw [hmanifest, Option.some.injEq] at hmanifest'
    rw [← hmanifest', hread] at hrows
    rw [relativePath_last (Option.some.inj hrows)] at hpath
    exact Except.ok.inj hpath
  · intro hname
    refine ⟨bytes, rowsOf inp part, a.row inp, hmanifest, ?_, ?_⟩
    · rw [hread, rowsOf, rowsOf, List.map_append, List.map_singleton]
    · rw [relativePath_row, hname]

/-- A manifest that is read as a part of the rows, with every artifact in its file. -/
theorem agrees_written_iff {done : List Artifact} (hdone : (freshPainting inp).1 = .ok done)
    (hsaved : inp.validateAssets (jsonFile (assetsValue (assetsOf inp done))) =
      .ok (assetsOf inp done)) {k : Nat} {files : Files} (hwritten : Written inp done k files) {j : Nat}
    (hj : j ≤ done.length)
    (hread : readManifest ((asciiBytes (manifestText (rowsOf inp done))).take k) =
      some (rowsOf inp (done.take j))) (hne : done.take j ≠ []) :
    Agrees inp files ↔ ¬ EndsAtGift files := by
  rcases freshPainting_records hdone with ⟨hpainted, -⟩
  have hnamed : ∀ a ∈ done, a.WellNamed := fun a ha => (hwritten.placed a ha).1
  have hpart : ∀ a ∈ done.take j, a ∈ done := fun a ha => List.mem_of_mem_take ha
  have hcall := renderedBy_written hpainted hwritten hsaved hread hne hpart
  have hfresh := renderedBy_empty hdone
  have hnodup := nodup_painted hpainted
  rcases hpainted.ends with ⟨front, pdf, gift, readme, rfl, hpdf, hgift, hreadme⟩
  rcases hgift.bound with ⟨bound, hbound⟩
  rcases names_last hnodup with ⟨hnodupLast, hlastName⟩
  rcases take_cases hj with hwhole | hgiftLast | hless
  · -- The whole manifest: what is read and checked is what was returned.
    have hsplit : front ++ [pdf, gift, readme] = (front ++ [pdf, gift]) ++ [readme] := by simp
    have hchecked : checkAssets inp (rowsOf inp (front ++ [pdf, gift, readme]))
        (assetsOf inp (front ++ [pdf, gift, readme])) = .ok () :=
      checkAssets_part hnamed hnodup (fun a ha => Or.inr ha)
    refine iff_of_true ?_ ?_
    · intro result hresult
      rw [hcall, hwhole, hchecked] at hresult
      rw [hfresh]
      exact hresult
    · have hrows : readManifest ((asciiBytes (manifestText (rowsOf inp
          (front ++ [pdf, gift, readme])))).take k) =
            some (rowsOf inp ((front ++ [pdf, gift]) ++ [readme])) := by
        rw [← hsplit, hread, hwhole]
      rw [endsAtGift_iff hwritten.manifest hrows, ← hgift.name]
      exact hlastName
  · -- Only the last row is missing, and it has no binding.
    have hsplit : front ++ [pdf, gift] = (front ++ [pdf]) ++ [gift] := by simp
    have hboundPart : ∀ a ∈ front ++ [pdf, gift, readme], a.bound = none ∨ a ∈ front ++ [pdf, gift] := by
      intro a ha
      simp only [List.mem_append, List.mem_cons, List.not_mem_nil, or_false] at ha ⊢
      rcases ha with h | h | h | rfl
      · exact Or.inr (Or.inl h)
      · exact Or.inr (Or.inr (Or.inl h))
      · exact Or.inr (Or.inr (Or.inr h))
      · exact Or.inl hreadme
    rw [hgiftLast] at hpart hcall
    have hchecked : checkAssets inp (rowsOf inp (front ++ [pdf, gift]))
        (assetsOf inp (front ++ [pdf, gift, readme])) = .ok () :=
      checkAssets_part (fun a ha => hnamed a (hpart a ha)) hnodupLast hboundPart
    refine iff_of_false ?_ ?_
    · intro hagrees
      rw [hchecked] at hcall
      have hsame := hagrees _ hcall
      rw [hfresh] at hsame
      have hlength := congrArg List.length (Prod.mk.inj (Except.ok.inj hsame)).1
      simp [rowsOf] at hlength
    · rw [hgiftLast, hsplit] at hread
      rw [not_not, endsAtGift_iff hwritten.manifest hread]
      exact hgift.name
  · -- The row of a binding is missing.
    rw [hless] at hpart hcall hne hread
    have hbefore : ∀ b ∈ (front ++ [pdf]).take j, b.name ≠ gift.name :=
      fun b hb => names_before hnodup b (List.mem_of_mem_take hb)
    have hgiftMem : gift ∈ front ++ [pdf, gift, readme] := by simp
    have hmissing := @checkAssets_missing inp _ _ hnamed hpart gift hgiftMem bound hbound hbefore
    refine iff_of_true ?_ ?_
    · intro result hresult
      rw [hcall] at hresult
      cases hcheck : checkAssets inp (rowsOf inp ((front ++ [pdf]).take j))
          (assetsOf inp (front ++ [pdf, gift, readme])) with
      | ok u => exact absurd hcheck hmissing
      | error e =>
        rw [hcheck] at hresult
        cases hresult
    · rcases List.eq_nil_or_concat ((front ++ [pdf]).take j) with hnil | ⟨part, a, hconcat⟩
      · exact absurd hnil hne
      · rw [List.concat_eq_append] at hconcat
        rw [hconcat] at hread hbefore
        rw [endsAtGift_iff hwritten.manifest hread, ← hgift.name]
        exact hbefore a (by simp)

/-- After any crashes, a later call returns what an uninterrupted call returns, unless the manifest ends
with the row of `free_gift.pdf`. -/
theorem later_call_agrees_iff (inp : BundleInputs)
    (hsaved : ∀ rows assets, renderedBy inp Files.empty = .ok (rows, assets) →
      inp.validateAssets (jsonFile (assetsValue assets)) = .ok assets)
    (crashes : List BundleCrash) :
    Agrees inp (leftBy inp crashes) ↔ ¬ EndsAtGift (leftBy inp crashes) := by
  rcases @left_leftBy inp crashes with hleftover | ⟨done, k, hdone, hwritten⟩
  · rcases agrees_leftover hleftover with ⟨hagrees, hends⟩
    exact iff_of_true hagrees hends
  · have hnamed : ∀ a ∈ done, a.WellNamed := fun a ha => (hwritten.placed a ha).1
    rcases @readManifest_take inp done hnamed k with hunread | ⟨j, hj, hread⟩
    · rcases @agrees_unread inp _ _ hwritten.manifest (Or.inl hunread) with ⟨hagrees, hends⟩
      exact iff_of_true hagrees hends
    · by_cases hempty : done.take j = []
      · rw [hempty] at hread
        rcases @agrees_unread inp _ _ hwritten.manifest (Or.inr hread) with ⟨hagrees, hends⟩
        exact iff_of_true hagrees hends
      · exact agrees_written_iff hdone (hsaved _ _ (renderedBy_empty hdone)) hwritten hj hread hempty

end Agreement

/-! ## A torn manifest -/

/-- A binding of a renderer. -/
def sampleBound (kind : AssetKind) : BoundAsset where
  productId := lit "p"
  specVersion := 1
  buildVersion := 1
  sourceScreenshotSha256 := []
  merchandisingVersion := []
  templateVersion := lit "t"
  outputSha256 := []
  widthPx := none
  heightPx := none
  pageCount := none
  qaStatus := .passed
  storageUri := []
  kind := kind

/-- A product of one variant, without listing images; the adapter reads back these bindings. -/
def samplePainting (saved : List BoundAsset) : BundleInputs where
  place :=
    { home := lit "b", runId := ['r'], elsewhere := id, outside := fun _ => .error .pathEscaped }
  sha256 := fun value => Nat.toDigits 10 value.length
  artifactId := fun _ => ['a']
  productId := ['p']
  specVersion := 1
  buildVersion := 1
  variants := [⟨lit "Sage", lit "u"⟩]
  secretLinks := [lit "u"]
  requestVariants := 1
  structureBytes := [1]
  document := .ok [2]
  launch := .ok ()
  screenshot := fun _ => .ok [3]
  listingImages := fun _ => .ok []
  walkthrough := fun _ => .ok ⟨[4], sampleBound .walkthrough⟩
  encode := fun source => .ok (5 :: source)
  probeVideo := fun _ => .ok [6]
  observed := fun _ => .ok (lit "mov,mp4", lit "h264")
  readmePdf := .ok ⟨[7], sampleBound .deliveryPdf⟩
  giftPdf := .ok ⟨[8], sampleBound .deliveryPdf⟩
  deliveryLinkUris := fun pdf _ => .ok (if pdf = [7] then [lit "u", lit "u"] else [])
  readmeText := [9]
  validateAssets := fun bytes =>
    if bytes = jsonFile (assetsValue saved) then .ok saved else .error .malformed
  floatIs := fun _ _ => false

theorem samplePainting_reads (saved : List BoundAsset) :
    (samplePainting saved).validateAssets (jsonFile (assetsValue saved)) = .ok saved := by
  simp [samplePainting]

/-- A saved binding, with its hash and its place. -/
def savedBound (kind : AssetKind) (length : Nat) (name : String) : BoundAsset :=
  { sampleBound kind with
    outputSha256 := decimal length
    storageUri := lit "b/" ++ lit name }

def sampleAssets : List BoundAsset :=
  [screenshotBound (samplePainting []) (lit "1") (lit "screenshot-0.png"),
    savedBound .walkthrough 2 "walkthrough.mp4", savedBound .deliveryPdf 1 "readme.pdf",
    savedBound .deliveryPdf 1 "free_gift.pdf"]

def sampleBundle : BundleInputs :=
  samplePainting sampleAssets

/-- The first call dies in the manifest, with 1717 of its 1926 bytes written: eight rows of nine. -/
def tornManifest : List BundleCrash :=
  [⟨39, some 1717⟩]

theorem exists_of_any {ε α : Type} {result : Except ε α} {check : α → Bool}
    (h : result.toOption.any check = true) : ∃ a, result = .ok a ∧ check a = true := by
  cases result with
  | error e => cases h
  | ok a => exact ⟨a, rfl, h⟩

/-- Nine artifacts, and 1717 bytes of manifest for the first eight, in which the bindings of all are found. -/
theorem sampleBundle_painted :
    ∃ done, (freshPainting sampleBundle).1 = .ok done ∧ done.length = 9 ∧
      assetsOf sampleBundle done = sampleAssets ∧
      (manifestText (rowsOf sampleBundle (done.take 8))).length = 1717 ∧
      (checkAssets sampleBundle (rowsOf sampleBundle (done.take 8))
        (assetsOf sampleBundle done)).toOption = some () := by
  have hcheck : (freshPainting sampleBundle).1.toOption.any (fun done =>
      decide (done.length = 9 ∧ assetsOf sampleBundle done = sampleAssets ∧
        (manifestText (rowsOf sampleBundle (done.take 8))).length = 1717 ∧
        (checkAssets sampleBundle (rowsOf sampleBundle (done.take 8))
          (assetsOf sampleBundle done)).toOption = some ())) = true := by
    decide +kernel
  obtain ⟨done, hdone, hall⟩ := exists_of_any hcheck
  exact ⟨done, hdone, of_decide_eq_true hall⟩

theorem tornManifest_length :
    (leftBy sampleBundle tornManifest manifestName).map List.length = some 1717 := by
  decide +kernel

theorem manifestText_split (rows : List Value) (j : Nat) :
    manifestText rows = manifestText (rows.take j) ++ manifestText (rows.drop j) := by
  rw [manifestText, manifestText, manifestText, ← List.flatMap_append, List.take_append_drop]

/-- Nine rows are returned by an uninterrupted call, eight behind the torn manifest. -/
theorem sampleBundle_rows :
    (renderedBy sampleBundle Files.empty).toOption.map (fun r => (r.1.length, r.2)) =
        some (9, sampleAssets) ∧
      (renderedBy sampleBundle (leftBy sampleBundle tornManifest)).toOption.map
        (fun r => r.1.length) = some 8 := by
  obtain ⟨done, hdone, hnine, hassets, hcut, hchecked⟩ := sampleBundle_painted
  refine ⟨by rw [renderedBy_empty hdone, hassets]; simp [Except.toOption, length_rowsOf, hnine], ?_⟩
  have htorn := tornManifest_length
  rcases @left_leftBy sampleBundle tornManifest with hleftover | ⟨done', k, hdone', hwritten⟩
  · rw [hleftover.manifest] at htorn
    cases htorn
  · obtain rfl := Except.ok.inj (hdone.symm.trans hdone')
    have hnamed : ∀ a ∈ done.take 8, a.WellNamed :=
      fun a ha => (hwritten.placed a (List.mem_of_mem_take ha)).1
    have hpart : ∀ a ∈ done.take 8, a ∈ done := fun a ha => List.mem_of_mem_take ha
    rw [hwritten.manifest, Option.map_some, Option.some.injEq] at htorn
    -- The cut is right behind the eighth row.
    have hbytes : (asciiBytes (manifestText (rowsOf sampleBundle done))).take k =
        asciiBytes (manifestText (rowsOf sampleBundle (done.take 8))) := by
      rw [List.length_take] at htorn
      rw [List.take_eq_take_min, htorn, asciiBytes_take, manifestText_split _ 8, ← rowsOf_take,
        List.take_left' hcut]
    have hread := hbytes ▸ readManifest_whole hnamed
    have hne : done.take 8 ≠ [] := by
      intro hnil
      rw [hnil] at hcut
      cases hcut
    rw [renderedBy_written (freshPainting_records hdone).1 hwritten
      (hassets ▸ samplePainting_reads sampleAssets) hread hne hpart]
    cases hcheck : checkAssets sampleBundle (rowsOf sampleBundle (done.take 8))
        (assetsOf sampleBundle done) with
    | error e =>
      rw [hcheck] at hchecked
      cases hchecked
    | ok u => simp [Except.map, Except.toOption, length_rowsOf, hnine]

/-- The torn manifest is returned as complete. -/
theorem torn_manifest_returned : ¬ Agrees sampleBundle (leftBy sampleBundle tornManifest) := by
  intro hagrees
  rcases sampleBundle_rows with ⟨hwhole, htorn⟩
  cases hcall : renderedBy sampleBundle (leftBy sampleBundle tornManifest) with
  | error e =>
    rw [hcall] at htorn
    cases htorn
  | ok result =>
    rw [hagrees result hcall] at hwhole
    rw [hcall] at htorn
    have hlength : result.1.length = 9 := (Prod.mk.inj (Option.some.inj hwhole)).1
    have hlength' : result.1.length = 8 := Option.some.inj htorn
    omega

theorem later_call_agrees_iff_torn :
    Agrees sampleBundle (leftBy sampleBundle tornManifest) ↔
      ¬ EndsAtGift (leftBy sampleBundle tornManifest) := by
  refine later_call_agrees_iff sampleBundle ?_ tornManifest
  intro rows assets h
  have hwhole := sampleBundle_rows.1
  rw [h] at hwhole
  have hassets : assets = sampleAssets := (Prod.mk.inj (Option.some.inj hwhole)).2
  rw [hassets]
  exact samplePainting_reads sampleAssets

end Assets
end MoneyMachine
