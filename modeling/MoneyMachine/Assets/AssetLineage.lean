import MoneyMachine.Assets.FixtureBundle
import MoneyMachine.Library.Saturation

/-!
# AssetLineage — current and stale assets of one product and spec

After a product change the assets of a product are split: an asset of another spec, one that did not pass,
one whose source is unknown or no screenshot, and one whose source is stale are stale.  The walk over the
assets repeats until it marks nothing, since a dependent can be listed before its source.

* `isStale`, `splitCurrent`  : the rule and the walk;
* `staleIds_isLeast`         : what is marked is the least set of identities closed under the rule;
* `IsSplit`                  : what a split is to be;
* `splitCurrent_closure`     : the walk makes it, whatever the order of the assets.
-/

namespace MoneyMachine
namespace Assets
namespace AssetLineage

open MoneyMachine.Library
open MoneyMachine.Library.Json

/-- Two specs can share one output hash, so an identity names both. -/
abbrev Identity := Int × Text

def identity (asset : BoundAsset) : Identity := (asset.specVersion, asset.outputSha256)

/-- The first screenshot of a spec with a hash, else `found` or the first other asset with it. -/
def resolveFrom (specVersion : Int) (src : Text) : List BoundAsset → Option BoundAsset → Option BoundAsset
  | [], found => found
  | candidate :: owned, found =>
    if candidate.specVersion ≠ specVersion ∨ candidate.outputSha256 ≠ src then
      resolveFrom specVersion src owned found
    else if candidate.kind = .screenshot then some candidate
    else if found = none then resolveFrom specVersion src owned (some candidate)
    else resolveFrom specVersion src owned found

def resolveSource (owned : List BoundAsset) (specVersion : Int) (src : Text) : Option BoundAsset :=
  resolveFrom specVersion src owned none

/-- True when this source exists and is not a screenshot. -/
def sourceBlocked (src : Text) (specVersion : Int) (owned : List BoundAsset) : Bool :=
  match resolveSource owned specVersion src with
  | none => false
  | some resolved => decide (resolved.kind ≠ .screenshot)

/-- A source is stale when this spec has no such asset, or that asset is stale. -/
def sourceStale (src : Text) (specVersion : Int) (staleIds known : Finset Identity) : Bool :=
  if (specVersion, src) ∉ known then true else decide ((specVersion, src) ∈ staleIds)

def isStale (specVersion : Int) (known : Finset Identity) (owned : List BoundAsset)
    (staleIds : Finset Identity) (asset : BoundAsset) : Bool :=
  if asset.specVersion ≠ specVersion then true
  else if asset.qaStatus ≠ .passed then true
  else if asset.sourceScreenshotSha256.any (fun src => sourceBlocked src asset.specVersion owned) then true
  else asset.sourceScreenshotSha256.any (fun src => sourceStale src asset.specVersion staleIds known)

/-- The assets of the product; other products are omitted. -/
def ownedBy (assets : List BoundAsset) (productId : Text) : List BoundAsset :=
  assets.filter (fun asset => decide (asset.productId = productId))

def knownIds (owned : List BoundAsset) : Finset Identity := (owned.map identity).toFinset

/-- The `while progressed` loop: each pass marks stale identities and keeps the other assets pending. -/
def staleIdsOf (owned : List BoundAsset) (specVersion : Int) : Finset Identity :=
  Saturation.saturate (isStale specVersion (knownIds owned) owned) identity owned ∅

def markStale (asset : BoundAsset) : BoundAsset := { asset with qaStatus := .stale }

/-- Current assets, then stale ones, for this product and spec. -/
def splitCurrent (assets : List BoundAsset) (productId : Text) (specVersion : Int) :
    List BoundAsset × List BoundAsset :=
  let owned := ownedBy assets productId
  let staleIds := staleIdsOf owned specVersion
  (owned.filter (fun asset => decide (identity asset ∉ staleIds)),
    (owned.filter (fun asset => decide (identity asset ∈ staleIds))).map markStale)

/-! ## Sources -/

section Sources

variable {owned owned' : List BoundAsset} {specVersion : Int} {src : Text}

theorem mem_knownIds {id : Identity} : id ∈ knownIds owned ↔ ∃ asset ∈ owned, identity asset = id := by
  simp only [knownIds, List.mem_toFinset, List.mem_map]

theorem identity_eq {asset : BoundAsset}
    (h : ¬(asset.specVersion ≠ specVersion ∨ asset.outputSha256 ≠ src)) :
    identity asset = (specVersion, src) := by
  obtain ⟨hspec, hsrc⟩ := not_or.mp h
  exact Prod.ext (not_not.mp hspec) (not_not.mp hsrc)

/-- What is resolved was found before or is an asset with that identity. -/
theorem resolveFrom_mem {found : Option BoundAsset} {resolved : BoundAsset}
    (h : resolveFrom specVersion src owned found = some resolved) :
    found = some resolved ∨ resolved ∈ owned ∧ identity resolved = (specVersion, src) := by
  fun_induction resolveFrom specVersion src owned found with
  | case1 found => exact Or.inl h
  | case2 candidate owned found _ ih =>
    exact (ih h).imp id (And.imp_left (List.mem_cons_of_mem _))
  | case3 candidate owned found hmatch _ =>
    cases h
    exact Or.inr ⟨List.mem_cons_self, identity_eq hmatch⟩
  | case4 candidate owned hmatch _ ih =>
    rcases ih h with hfound | hlater
    · cases hfound
      exact Or.inr ⟨List.mem_cons_self, identity_eq hmatch⟩
    · exact Or.inr (And.imp_left (List.mem_cons_of_mem _) hlater)
  | case5 candidate owned found _ _ _ ih =>
    exact (ih h).imp id (And.imp_left (List.mem_cons_of_mem _))

/-- Nothing is resolved only when there is no asset with that identity. -/
theorem resolveFrom_none {found : Option BoundAsset}
    (h : resolveFrom specVersion src owned found = none) :
    found = none ∧ ∀ asset ∈ owned, identity asset ≠ (specVersion, src) := by
  fun_induction resolveFrom specVersion src owned found with
  | case1 found => exact ⟨h, fun _ hmem => absurd hmem List.not_mem_nil⟩
  | case2 candidate owned found hmatch ih =>
    refine ⟨(ih h).1, ?_⟩
    intro asset hasset hid
    rcases List.mem_cons.mp hasset with rfl | hlater
    · cases hid
      simp at hmatch
    · exact (ih h).2 asset hlater hid
  | case3 => cases h
  | case4 candidate owned _ _ ih => exact absurd (ih h).1 (Option.some_ne_none _)
  | case5 candidate owned found _ _ hfound ih => exact absurd (ih h).1 hfound

/-- A screenshot with that identity is preferred. -/
theorem resolveFrom_screenshot (found : Option BoundAsset) {asset : BoundAsset} (hasset : asset ∈ owned)
    (hid : identity asset = (specVersion, src)) (hkind : asset.kind = .screenshot) :
    ∃ resolved, resolveFrom specVersion src owned found = some resolved ∧
      resolved.kind = .screenshot := by
  fun_induction resolveFrom specVersion src owned found with
  | case1 => exact absurd hasset List.not_mem_nil
  | case2 candidate owned found hmatch ih =>
    rcases List.mem_cons.mp hasset with rfl | hlater
    · cases hid
      simp at hmatch
    · exact ih hlater
  | case3 candidate _ _ _ hscreenshot => exact ⟨candidate, rfl, hscreenshot⟩
  | case4 candidate owned _ hother ih =>
    rcases List.mem_cons.mp hasset with rfl | hlater
    · exact absurd hkind hother
    · exact ih hlater
  | case5 candidate owned found _ hother _ ih =>
    rcases List.mem_cons.mp hasset with rfl | hlater
    · exact absurd hkind hother
    · exact ih hlater

/-- A source is blocked when it is known and no asset with its identity is a screenshot. -/
theorem sourceBlocked_iff :
    sourceBlocked src specVersion owned = true ↔
      (specVersion, src) ∈ knownIds owned ∧
        ∀ asset ∈ owned, identity asset = (specVersion, src) → asset.kind ≠ .screenshot := by
  unfold sourceBlocked resolveSource
  cases hresolve : resolveFrom specVersion src owned none with
  | none =>
    have hnone := (resolveFrom_none hresolve).2
    constructor
    · intro h
      cases h
    · rintro ⟨hknown, -⟩
      obtain ⟨asset, hasset, hid⟩ := mem_knownIds.mp hknown
      exact absurd hid (hnone asset hasset)
  | some resolved =>
    obtain ⟨hmem, hid⟩ := (resolveFrom_mem hresolve).resolve_left (by simp)
    rw [decide_eq_true_eq]
    constructor
    · intro hkind
      refine ⟨mem_knownIds.mpr ⟨resolved, hmem, hid⟩, ?_⟩
      intro asset hasset hassetId hscreenshot
      obtain ⟨found, hfound, hfoundKind⟩ :=
        resolveFrom_screenshot none hasset hassetId hscreenshot
      rw [hresolve] at hfound
      cases hfound
      exact hkind hfoundKind
    · rintro ⟨-, hall⟩
      exact hall resolved hmem hid

/-- A known source that is not blocked resolves to a screenshot with its identity. -/
theorem resolveSource_screenshot (hknown : (specVersion, src) ∈ knownIds owned)
    (hfree : sourceBlocked src specVersion owned = false) :
    ∃ resolved ∈ owned, resolveSource owned specVersion src = some resolved ∧
      identity resolved = (specVersion, src) ∧ resolved.kind = .screenshot := by
  unfold sourceBlocked at hfree
  cases hresolve : resolveSource owned specVersion src with
  | none =>
    obtain ⟨asset, hasset, hid⟩ := mem_knownIds.mp hknown
    exact absurd hid ((resolveFrom_none hresolve).2 asset hasset)
  | some resolved =>
    obtain ⟨hmem, hid⟩ := (resolveFrom_mem hresolve).resolve_left (by simp)
    rw [hresolve] at hfree
    exact ⟨resolved, hmem, rfl, hid, by simpa using hfree⟩

/-! ### The order of the assets -/

theorem knownIds_perm (hperm : owned.Perm owned') : knownIds owned = knownIds owned' := by
  ext id
  simp only [mem_knownIds, hperm.mem_iff]

theorem sourceBlocked_perm (hperm : owned.Perm owned') :
    sourceBlocked src specVersion owned = sourceBlocked src specVersion owned' := by
  rw [Bool.eq_iff_iff, sourceBlocked_iff, sourceBlocked_iff, knownIds_perm hperm]
  simp only [hperm.mem_iff]

theorem isStale_perm (hperm : owned.Perm owned') :
    isStale specVersion (knownIds owned) owned = isStale specVersion (knownIds owned') owned' := by
  funext staleIds asset
  unfold isStale
  simp only [knownIds_perm hperm, sourceBlocked_perm hperm]

end Sources

/-! ## The rule -/

section Rule

variable {assets assets' owned : List BoundAsset} {productId : Text} {specVersion : Int}
  {staleIds known : Finset Identity} {asset : BoundAsset}

/-- More stale identities only make more assets stale. -/
theorem isStale_growing : Saturation.Growing (isStale specVersion known owned) := by
  intro staleIds staleIds' asset hsubset h
  unfold isStale at h ⊢
  split
  · rfl
  · rename_i hspec
    rw [if_neg hspec] at h
    split
    · rfl
    · rename_i hqa
      rw [if_neg hqa] at h
      split
      · rfl
      · rename_i hblocked
        rw [if_neg hblocked] at h
        obtain ⟨src, hsrc, hstale⟩ := List.any_eq_true.mp h
        refine List.any_eq_true.mpr ⟨src, hsrc, ?_⟩
        unfold sourceStale at hstale ⊢
        split
        · rfl
        · rename_i hknown
          rw [if_neg hknown] at hstale
          exact decide_eq_true (hsubset (of_decide_eq_true hstale))

/-- An asset that is not stale is of the spec, passed, and has known, unblocked and unmarked sources. -/
theorem isStale_eq_false (h : isStale specVersion known owned staleIds asset = false) :
    asset.specVersion = specVersion ∧ asset.qaStatus = .passed ∧
      ∀ src ∈ asset.sourceScreenshotSha256, sourceBlocked src asset.specVersion owned = false ∧
        (asset.specVersion, src) ∈ known ∧ (asset.specVersion, src) ∉ staleIds := by
  unfold isStale at h
  split at h
  · cases h
  · rename_i hspec
    split at h
    · cases h
    · rename_i hqa
      split at h
      · cases h
      · rename_i hblocked
        refine ⟨not_not.mp hspec, not_not.mp hqa, ?_⟩
        intro src hsrc
        have hstale := List.any_eq_false.mp h src hsrc
        unfold sourceStale at hstale
        refine ⟨?_, ?_, ?_⟩
        · exact Bool.eq_false_iff.mpr (fun hb => hblocked (List.any_eq_true.mpr ⟨src, hsrc, hb⟩))
        · by_contra hknown
          exact hstale (if_pos hknown)
        · intro hmarked
          apply hstale
          split
          · rfl
          · exact decide_eq_true hmarked

/-- What the walk marks is the least set of identities closed under the rule. -/
theorem staleIds_isLeast :
    IsLeast {ids : Set Identity | Saturation.Closed (isStale specVersion (knownIds owned) owned) identity
      owned ids} ↑(staleIdsOf owned specVersion) :=
  Saturation.saturate_isLeast isStale_growing owned

/-- An owned asset whose identity is not marked is not stale by the rule. -/
theorem not_isStale (hasset : asset ∈ owned) (hid : identity asset ∉ staleIdsOf owned specVersion) :
    isStale specVersion (knownIds owned) owned (staleIdsOf owned specVersion) asset = false := by
  have hclosed := (@staleIds_isLeast owned specVersion).1
  apply Bool.eq_false_iff.mpr
  intro hstale
  exact hid (hclosed asset hasset _ (Set.Subset.refl _) hstale)

theorem staleIdsOf_perm {owned' : List BoundAsset} (hperm : owned.Perm owned') :
    staleIdsOf owned specVersion = staleIdsOf owned' specVersion := by
  unfold staleIdsOf
  rw [isStale_perm hperm]
  exact Saturation.saturate_perm isStale_growing hperm

end Rule

/-! ## The split -/

/-- A split of the assets of a product: each is current or stale, and nothing current depends on
anything that is not. -/
structure IsSplit (owned : List BoundAsset) (specVersion : Int) (current stale : List BoundAsset) :
    Prop where
  /-- A current asset is unchanged and a stale one differs in its status only. -/
  partition : ∃ left, (current ++ left).Perm owned ∧ stale = left.map markStale
  closed : ∀ asset ∈ current, asset.specVersion = specVersion ∧ asset.qaStatus = .passed ∧
    ∀ src ∈ asset.sourceScreenshotSha256, ∃ source ∈ current,
      resolveSource owned specVersion src = some source ∧
        identity source = (specVersion, src) ∧ source.kind = .screenshot
  disjoint : ∀ asset ∈ current, ∀ other ∈ stale, identity asset ≠ identity other
  /-- What is stale is so by the rule: its identity is in every set closed under it. -/
  least : ∀ asset ∈ stale, ∀ ids : Set Identity,
    Saturation.Closed (isStale specVersion (knownIds owned) owned) identity owned ids →
      identity asset ∈ ids

section Split

variable {assets assets' : List BoundAsset} {productId : Text} {specVersion : Int} {asset : BoundAsset}

theorem mem_current :
    asset ∈ (splitCurrent assets productId specVersion).1 ↔ asset ∈ ownedBy assets productId ∧
      identity asset ∉ staleIdsOf (ownedBy assets productId) specVersion := by
  simp only [splitCurrent, List.mem_filter, decide_eq_true_eq]

/-- Marking an asset stale keeps its identity. -/
@[simp]
theorem identity_markStale : identity (markStale asset) = identity asset := rfl

theorem identity_of_mem_stale (h : asset ∈ (splitCurrent assets productId specVersion).2) :
    identity asset ∈ staleIdsOf (ownedBy assets productId) specVersion := by
  obtain ⟨original, horiginal, rfl⟩ := List.mem_map.mp h
  have hid := (List.mem_filter.mp horiginal).2
  rw [identity_markStale]
  exact of_decide_eq_true hid

theorem splitCurrent_isSplit (assets : List BoundAsset) (productId : Text) (specVersion : Int) :
    IsSplit (ownedBy assets productId) specVersion (splitCurrent assets productId specVersion).1
      (splitCurrent assets productId specVersion).2 where
  partition := by
    refine ⟨_, ?_, rfl⟩
    have hperm := List.filter_append_perm
      (fun asset => decide (identity asset ∉ staleIdsOf (ownedBy assets productId) specVersion))
      (ownedBy assets productId)
    simpa only [splitCurrent, decide_not, Bool.not_not] using hperm
  closed := by
    intro asset hasset
    obtain ⟨howned, hid⟩ := mem_current.mp hasset
    obtain ⟨hspec, hqa, hsources⟩ := isStale_eq_false (not_isStale howned hid)
    refine ⟨hspec, hqa, ?_⟩
    intro src hsrc
    obtain ⟨hfree, hknown, hunmarked⟩ := hsources src hsrc
    rw [hspec] at hfree hknown hunmarked
    obtain ⟨source, hsource, hresolve, hsourceId, hkind⟩ := resolveSource_screenshot hknown hfree
    refine ⟨source, mem_current.mpr ⟨hsource, ?_⟩, hresolve, hsourceId, hkind⟩
    rw [hsourceId]
    exact hunmarked
  disjoint := by
    intro asset hasset other hother hsame
    apply (mem_current.mp hasset).2
    rw [hsame]
    exact identity_of_mem_stale hother
  least := by
    intro asset hasset ids hclosed
    exact staleIds_isLeast.2 hclosed (identity_of_mem_stale hasset)

/-- Both parts of the split of permuted assets are permuted. -/
theorem splitCurrent_perm (hperm : assets.Perm assets') :
    (splitCurrent assets productId specVersion).1.Perm (splitCurrent assets' productId specVersion).1 ∧
      (splitCurrent assets productId specVersion).2.Perm
        (splitCurrent assets' productId specVersion).2 := by
  have howned : (ownedBy assets productId).Perm (ownedBy assets' productId) := hperm.filter _
  simp only [splitCurrent, staleIdsOf_perm howned]
  exact ⟨howned.filter _, (howned.filter _).map _⟩

end Split

/-- The walk splits the assets of a product, and their order changes neither part. -/
theorem splitCurrent_closure (assets : List BoundAsset) (productId : Text) (specVersion : Int) :
    IsSplit (ownedBy assets productId) specVersion (splitCurrent assets productId specVersion).1
        (splitCurrent assets productId specVersion).2 ∧
      ∀ assets', assets.Perm assets' →
        (splitCurrent assets productId specVersion).1.Perm
            (splitCurrent assets' productId specVersion).1 ∧
          (splitCurrent assets productId specVersion).2.Perm
            (splitCurrent assets' productId specVersion).2 :=
  ⟨splitCurrent_isSplit assets productId specVersion, fun _ hperm => splitCurrent_perm hperm⟩

/-! ### A dependent listed before its source -/

/-- An asset of the first product and spec. -/
def plainAsset (kind : AssetKind) (output : String) (sources : List String) : BoundAsset where
  productId := lit "1"
  specVersion := 1
  buildVersion := 1
  sourceScreenshotSha256 := sources.map lit
  merchandisingVersion := []
  templateVersion := lit "t1"
  outputSha256 := lit output
  widthPx := some 100
  heightPx := some 100
  pageCount := none
  qaStatus := .passed
  storageUri := lit "fixture://1/1/x"
  kind := kind

example :
    splitCurrent [plainAsset .listingImage "b" ["a"], plainAsset .walkthrough "c" ["s"],
      plainAsset .screenshot "a" ["gone"], plainAsset .screenshot "s" []] (lit "1") 1 =
      ([plainAsset .walkthrough "c" ["s"], plainAsset .screenshot "s" []],
        [markStale (plainAsset .listingImage "b" ["a"]), markStale (plainAsset .screenshot "a" ["gone"])]) := by
  decide +kernel

end AssetLineage
end Assets
end MoneyMachine
