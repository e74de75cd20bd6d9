import MoneyMachine.Assets.PortfolioEligibility
import MoneyMachine.Library.Ranks

/-!
# PortfolioCulls — exactly what scores below the pool is culled

In a cohort of five or more the pool holds a share of the lowest listings, and a listing is culled when it
scores strictly below the last one of the pool.  With an empty pool nothing is culled.

* `cullGroup_ok`       : the culled listings of one cohort;
* `mem_culled_iff`     : a listing of a cohort is culled by its own cohort;
* `cull_characterised` : the listings below the pool, and what follows for ties, survivors and winners.
-/

namespace MoneyMachine
namespace Assets
namespace PortfolioEligibility

open MoneyMachine.Domain
open MoneyMachine.Library

/-! ## One cohort -/

section Group

variable {group : List ListingCandidate} {percent : Int}

theorem poolSize_le (h : percent ≤ 100) : poolSize percent group ≤ group.length := by
  unfold poolSize
  have hmul : (group.length : Int) * percent ≤ group.length * 100 :=
    Int.mul_le_mul_of_nonneg_left h (Int.natCast_nonneg _)
  calc (group.length : Int) * percent / 100 ≤ group.length * 100 / 100 :=
        Int.ediv_le_ediv (by decide) hmul
    _ = group.length := Int.mul_ediv_cancel _ (by decide)

theorem ordered_perm (group : List ListingCandidate) : (ordered group).Perm group :=
  List.perm_insertionSort _ _

/-- The scores of an ordered cohort are in order. -/
theorem ordered_scores (group : List ListingCandidate) :
    ((ordered group).map score).Pairwise (· ≤ ·) := by
  rw [List.pairwise_map]
  have hsorted := List.pairwise_insertionSort
    (fun a b : ListingCandidate => sortKey a ≤ sortKey b) group
  apply hsorted.imp
  intro a b hab
  exact Prod.Lex.monotone_fst _ _ hab

/-- What is culled in a cohort: with a pool, the listings below its last score; otherwise nothing. -/
structure CullsGroup (percent : Int) (group : List ListingCandidate) (culled : List Uuid) : Prop where
  small : (group.length < minCohort ∨ poolSize percent group ≤ 0) → culled = []
  pooled : minCohort ≤ group.length → 0 < poolSize percent group →
    ∃ last, IsLowest (group.map score) (poolSize percent group).toNat last ∧
      ∀ id, id ∈ culled ↔ ∃ item ∈ group, item.listingId = id ∧ score item < last

theorem cullGroup_ok (h : percent ≤ 100) :
    ∃ culled, cullGroup percent group = .ok culled ∧ CullsGroup percent group culled := by
  unfold cullGroup
  by_cases hsmall : group.length < minCohort
  · rw [if_pos hsmall]
    exact ⟨[], rfl, fun _ => rfl, fun hlarge => absurd hsmall (Nat.not_lt.mpr hlarge)⟩
  rw [if_neg hsmall]
  by_cases hpool : poolSize percent group ≤ 0
  · rw [if_pos hpool]
    exact ⟨[], rfl, fun _ => rfl, fun _ hpositive => absurd hpool (not_le.mpr hpositive)⟩
  rw [if_neg hpool]
  -- The last listing of the pool is there, since the pool is no larger than the cohort.
  have hle := @poolSize_le group percent h
  have hindex : (poolSize percent group - 1).toNat < (ordered group).length := by
    rw [(ordered_perm group).length_eq]
    omega
  rw [List.getElem?_eq_getElem hindex]
  refine ⟨_, rfl, fun hnone => ?_, fun _ _ => ?_⟩
  · rcases hnone with hlt | hle
    · exact absurd hlt hsmall
    · exact absurd hle hpool
  refine ⟨score (ordered group)[(poolSize percent group - 1).toNat], ?_, ?_⟩
  · have hlast : ((ordered group).map score)[(poolSize percent group - 1).toNat]? =
        some (score (ordered group)[(poolSize percent group - 1).toNat]) := by
      rw [List.getElem?_map, List.getElem?_eq_getElem hindex]
      rfl
    have hlowest := isLowest_of_sorted (ordered_scores group) hlast
    have hk : (poolSize percent group - 1).toNat + 1 = (poolSize percent group).toNat := by omega
    rw [hk] at hlowest
    exact hlowest.perm ((ordered_perm group).map score)
  · intro id
    simp only [List.mem_map, List.mem_filter, decide_eq_true_eq, (ordered_perm group).mem_iff]
    constructor
    · rintro ⟨item, ⟨hitem, hlt⟩, hid⟩
      exact ⟨item, hitem, hid, hlt⟩
    · rintro ⟨item, hitem, hid, hlt⟩
      exact ⟨item, ⟨hitem, hlt⟩, hid⟩

end Group

/-! ## All cohorts -/

section Cohorts

variable {listings : List ListingCandidate} {percent : Int}

theorem mem_cohort {shopId : Uuid} {listing : ListingCandidate} :
    listing ∈ cohort listings shopId ↔
      listing ∈ listings ∧ inPercentileCohort listing = true ∧ listing.shopId = shopId := by
  simp [cohort, List.mem_filter]

theorem mem_shops {shopId : Uuid} :
    shopId ∈ shops listings ↔ ∃ listing, listing ∈ cohort listings shopId := by
  simp only [shops, List.mem_eraseDups, List.mem_map, List.mem_filter, mem_cohort]
  constructor
  · rintro ⟨listing, ⟨hmem, hin⟩, hshop⟩
    exact ⟨listing, hmem, hin, hshop⟩
  · rintro ⟨listing, hmem, hin, hshop⟩
    exact ⟨listing, ⟨hmem, hin⟩, hshop⟩

/-- A cohort that culls something is that of a shop that was met. -/
theorem CullsGroup.exists_item {group : List ListingCandidate} {culled : List Uuid}
    (h : CullsGroup percent group culled) {id : Uuid} (hid : id ∈ culled) :
    minCohort ≤ group.length ∧ 0 < poolSize percent group ∧
      ∃ item ∈ group, item.listingId = id := by
  by_cases hsmall : group.length < minCohort ∨ poolSize percent group ≤ 0
  · rw [h.small hsmall] at hid
    exact absurd hid List.not_mem_nil
  · obtain ⟨hlarge, hpool⟩ := not_or.mp hsmall
    obtain ⟨last, -, hmem⟩ := h.pooled (Nat.not_lt.mp hlarge) (not_le.mp hpool)
    obtain ⟨item, hitem, hlisting, -⟩ := (hmem id).mp hid
    exact ⟨Nat.not_lt.mp hlarge, not_le.mp hpool, item, hitem, hlisting⟩

theorem mapM_cullGroup (h : percent ≤ 100) (shopIds : List Uuid) :
    ∃ chosen : List (List Uuid),
      shopIds.mapM (fun shopId => cullGroup percent (cohort listings shopId)) = .ok chosen ∧
      ∀ id, id ∈ chosen.flatten ↔ ∃ shopId ∈ shopIds, ∃ culled,
        CullsGroup percent (cohort listings shopId) culled ∧ id ∈ culled ∧
          cullGroup percent (cohort listings shopId) = .ok culled := by
  induction shopIds with
  | nil => exact ⟨[], rfl, fun id => by simp⟩
  | cons shopId shopIds ih =>
    obtain ⟨culled, hok, hculls⟩ := @cullGroup_ok (cohort listings shopId) percent h
    obtain ⟨chosen, hrest, hmem⟩ := ih
    refine ⟨culled :: chosen, ?_, ?_⟩
    · rw [List.mapM_cons, hok, hrest]
      rfl
    · intro id
      rw [List.flatten_cons, List.mem_append, hmem, List.exists_mem_cons_iff]
      constructor
      · rintro (hid | hid)
        · exact .inl ⟨culled, hculls, hid, hok⟩
        · exact .inr hid
      · rintro (⟨culled', -, hid, hok'⟩ | hid)
        · rw [hok] at hok'
          cases hok'
          exact .inl hid
        · exact .inr hid

/-- The ids that are culled, each by the cohort of its shop. -/
theorem cullIds_ok (h : percent ≤ 100) :
    ∃ culled, cullIds listings percent = .ok culled ∧
      ∀ id, id ∈ culled ↔ ∃ shopId ids, CullsGroup percent (cohort listings shopId) ids ∧ id ∈ ids := by
  obtain ⟨chosen, hchosen, hmem⟩ := @mapM_cullGroup listings percent h (shops listings)
  refine ⟨chosen.flatten, ?_, ?_⟩
  · unfold cullIds
    rw [hchosen]
    rfl
  · intro id
    rw [hmem]
    constructor
    · rintro ⟨shopId, -, ids, hculls, hid, -⟩
      exact ⟨shopId, ids, hculls, hid⟩
    · rintro ⟨shopId, ids, hculls, hid⟩
      obtain ⟨hlarge, hpool, item, hitem, -⟩ := hculls.exists_item hid
      obtain ⟨ids', hok, hculls'⟩ := @cullGroup_ok (cohort listings shopId) percent h
      refine ⟨shopId, mem_shops.mpr ⟨item, hitem⟩, ids', hculls', ?_, hok⟩
      -- Both lists hold what scores below the same last listing.
      obtain ⟨last, hlast, hids⟩ := hculls.pooled hlarge hpool
      obtain ⟨last', hlast', hids'⟩ := hculls'.pooled hlarge hpool
      rw [hids', ← hlast.unique hlast', ← hids]
      exact hid

/-- A listing is known by its id. -/
theorem eq_of_listingId (hdistinct : (listings.map ListingCandidate.listingId).Nodup)
    {a b : ListingCandidate} (ha : a ∈ listings) (hb : b ∈ listings) (h : a.listingId = b.listingId) :
    a = b :=
  List.inj_on_of_nodup_map hdistinct ha hb h

/-- A listing of a cohort is culled by its own cohort. -/
theorem mem_culled_iff (hdistinct : (listings.map ListingCandidate.listingId).Nodup)
    {culled : List Uuid}
    (hculled : ∀ id, id ∈ culled ↔
      ∃ shopId ids, CullsGroup percent (cohort listings shopId) ids ∧ id ∈ ids)
    {shopId : Uuid} {item : ListingCandidate} (hitem : item ∈ cohort listings shopId) :
    item.listingId ∈ culled ↔
      minCohort ≤ (cohort listings shopId).length ∧ 0 < poolSize percent (cohort listings shopId) ∧
        ∃ last, IsLowest ((cohort listings shopId).map score)
          (poolSize percent (cohort listings shopId)).toNat last ∧ score item < last := by
  rw [hculled]
  constructor
  · rintro ⟨shopId', ids, hculls, hid⟩
    obtain ⟨hlarge, hpool, other, hother, heq⟩ := hculls.exists_item hid
    -- The other cohort's listing is this one, so the cohorts are the same.
    have hsame := eq_of_listingId hdistinct (mem_cohort.mp hother).1 (mem_cohort.mp hitem).1 heq
    have hshop : shopId' = shopId := by
      rw [← (mem_cohort.mp hother).2.2, hsame, (mem_cohort.mp hitem).2.2]
    subst hshop
    obtain ⟨last, hlast, hids⟩ := hculls.pooled hlarge hpool
    obtain ⟨found, hfound, hfoundId, hlt⟩ := (hids _).mp hid
    have hfoundItem := eq_of_listingId hdistinct (mem_cohort.mp hfound).1 (mem_cohort.mp hitem).1 hfoundId
    rw [hfoundItem] at hlt
    exact ⟨hlarge, hpool, last, hlast, hlt⟩
  · rintro ⟨hlarge, hpool, last, hlast, hlt⟩
    have hids : CullsGroup percent (cohort listings shopId)
        (((cohort listings shopId).filter (fun x => decide (score x < last))).map
          ListingCandidate.listingId) := by
      refine ⟨fun hnone => ?_, fun _ _ => ⟨last, hlast, fun id => ?_⟩⟩
      · rcases hnone with hsmall | hempty
        · exact absurd hlarge (Nat.not_le.mpr hsmall)
        · exact absurd hpool (not_lt.mpr hempty)
      · simp only [List.mem_map, List.mem_filter, decide_eq_true_eq]
        constructor
        · rintro ⟨x, ⟨hx, hbelow⟩, hid⟩
          exact ⟨x, hx, hid, hbelow⟩
        · rintro ⟨x, hx, hid, hbelow⟩
          exact ⟨x, ⟨hx, hbelow⟩, hid⟩
    exact ⟨shopId, _, hids, List.mem_map.mpr ⟨item, List.mem_filter.mpr ⟨hitem, by simpa using hlt⟩, rfl⟩⟩

/-! ## Winners -/

/-- The winner of a cohort scores at least as well as every listing of it. -/
theorem uniqueWinner_best {group : List ListingCandidate} {winner : Uuid}
    (h : uniqueWinner group = some winner) :
    ∃ best ∈ group, best.listingId = winner ∧ ∀ item ∈ group, score item ≤ score best := by
  have hperm := List.perm_insertionSort (fun a b : ListingCandidate => sortKey b ≤ sortKey a) group
  have hsorted := List.pairwise_insertionSort
    (fun a b : ListingCandidate => sortKey b ≤ sortKey a) group
  unfold uniqueWinner at h
  cases hranked : group.insertionSort (fun a b => sortKey b ≤ sortKey a) with
  | nil =>
    rw [hranked] at h
    cases h
  | cons best rest =>
    rw [hranked] at h hperm hsorted
    have hwinner : best.listingId = winner := by
      dsimp only at h
      split at h
      · cases h
      · split at h
        · cases h
        · split at h
          · split at h
            · cases h
            · exact Option.some.inj h
          · exact Option.some.inj h
    refine ⟨best, hperm.mem_iff.mp List.mem_cons_self, hwinner, ?_⟩
    intro item hitem
    rcases List.mem_cons.mp (hperm.mem_iff.mpr hitem) with rfl | hrest
    · exact le_refl _
    · exact Prod.Lex.monotone_fst _ _ ((List.pairwise_cons.mp hsorted).1 item hrest)

end Cohorts

/-! ## The law -/

/-- What is culled in a cohort is what scores strictly below the last listing of its pool, fewer listings
than the pool has; an empty pool culls nothing. -/
structure CohortCulled (percent : Int) (group : List ListingCandidate) (culled : List Uuid) : Prop where
  below : minCohort ≤ group.length → 0 < poolSize percent group →
    ∃ last, IsLowest (group.map score) (poolSize percent group).toNat last ∧
      ∀ item ∈ group, (item.listingId ∈ culled ↔ score item < last)
  fewer : minCohort ≤ group.length → 0 < poolSize percent group →
    (group.countP (fun item => decide (item.listingId ∈ culled)) : Int) < poolSize percent group
  nothing : group.length < minCohort ∨ poolSize percent group ≤ 0 →
    ∀ item ∈ group, item.listingId ∉ culled
  ties : ∀ item ∈ group, ∀ other ∈ group, score item = score other →
    (item.listingId ∈ culled ↔ other.listingId ∈ culled)
  survivors : ∀ item ∈ group, ∀ other ∈ group, other.listingId ∉ culled → score other ≤ score item →
    item.listingId ∉ culled
  winner : ∀ id, uniqueWinner group = some id → id ∉ culled

theorem cohortCulled_of_mem {group : List ListingCandidate} {percent : Int} {culled : List Uuid}
    (h : ∀ item ∈ group, item.listingId ∈ culled ↔
      minCohort ≤ group.length ∧ 0 < poolSize percent group ∧
        ∃ last, IsLowest (group.map score) (poolSize percent group).toNat last ∧ score item < last)
    (hpooled : minCohort ≤ group.length → 0 < poolSize percent group →
      ∃ last, IsLowest (group.map score) (poolSize percent group).toNat last) :
    CohortCulled percent group culled := by
  have hbelow : minCohort ≤ group.length → 0 < poolSize percent group →
      ∃ last, IsLowest (group.map score) (poolSize percent group).toNat last ∧
        ∀ item ∈ group, (item.listingId ∈ culled ↔ score item < last) := by
    intro hlarge hpool
    obtain ⟨last, hlast⟩ := hpooled hlarge hpool
    refine ⟨last, hlast, ?_⟩
    intro item hitem
    rw [h item hitem]
    constructor
    · rintro ⟨-, -, last', hlast', hlt⟩
      rw [hlast.unique hlast']
      exact hlt
    · intro hlt
      exact ⟨hlarge, hpool, last, hlast, hlt⟩
  have hlower : ∀ item ∈ group, ∀ other ∈ group, item.listingId ∈ culled → score other ≤ score item →
      other.listingId ∈ culled := by
    intro item hitem other hother hculled hle
    obtain ⟨hlarge, hpool, last, hlast, hlt⟩ := (h item hitem).mp hculled
    exact (h other hother).mpr ⟨hlarge, hpool, last, hlast, lt_of_le_of_lt hle hlt⟩
  refine ⟨hbelow, ?_, ?_, ?_, ?_, ?_⟩
  · intro hlarge hpool
    obtain ⟨last, hlast, hmem⟩ := hbelow hlarge hpool
    have hcount : group.countP (fun item => decide (item.listingId ∈ culled)) =
        (group.map score).countP (fun s => decide (s < last)) := by
      rw [List.countP_map]
      apply List.countP_congr
      intro item hitem
      simp [hmem item hitem]
    have hlt := hlast.below
    rw [← hcount] at hlt
    omega
  · intro hnone item hitem hculled
    obtain ⟨hlarge, hpool, -⟩ := (h item hitem).mp hculled
    rcases hnone with hsmall | hempty
    · exact absurd hlarge (Nat.not_le.mpr hsmall)
    · exact absurd hpool (not_lt.mpr hempty)
  · intro item hitem other hother heq
    exact ⟨fun hculled => hlower item hitem other hother hculled heq.ge,
      fun hculled => hlower other hother item hitem hculled heq.le⟩
  · intro item hitem other hother hsurvives hle hculled
    exact hsurvives (hlower item hitem other hother hculled hle)
  · -- The winner scores best, so it is not below a listing of the pool.
    intro id hwinner hculled
    obtain ⟨best, hbest, rfl, hall⟩ := uniqueWinner_best hwinner
    obtain ⟨-, -, last, hlast, hlt⟩ := (h best hbest).mp hculled
    obtain ⟨item, hitem, rfl⟩ := List.mem_map.mp hlast.mem
    exact absurd hlt (not_lt.mpr (hall item hitem))

/-- For any percentage up to 100, with distinct listings: only listings of cohorts are culled, and in each
cohort exactly those below the pool. -/
theorem cull_characterised (listings : List ListingCandidate) (percent : Int)
    (hdistinct : (listings.map ListingCandidate.listingId).Nodup) (h100 : percent ≤ 100) :
    ∃ culled, cullIds listings percent = .ok culled ∧
      (∀ id ∈ culled, ∃ item ∈ listings, item.listingId = id ∧ inPercentileCohort item = true) ∧
      ∀ shopId, CohortCulled percent (cohort listings shopId) culled := by
  obtain ⟨culled, hok, hmem⟩ := @cullIds_ok listings percent h100
  refine ⟨culled, hok, ?_, ?_⟩
  · intro id hid
    obtain ⟨shopId, ids, hculls, hin⟩ := (hmem id).mp hid
    obtain ⟨-, -, item, hitem, heq⟩ := hculls.exists_item hin
    obtain ⟨hlisting, hcohort, -⟩ := mem_cohort.mp hitem
    exact ⟨item, hlisting, heq, hcohort⟩
  · intro shopId
    apply cohortCulled_of_mem
    · intro item hitem
      exact mem_culled_iff hdistinct hmem hitem
    · intro hlarge hpool
      obtain ⟨ids, -, hculls⟩ := @cullGroup_ok (cohort listings shopId) percent h100
      obtain ⟨last, hlast, -⟩ := hculls.pooled hlarge hpool
      exact ⟨last, hlast⟩

/-- Five listings of one shop with different orders. -/
def fiveListings : List ListingCandidate :=
  [1, 2, 3, 4, 5].map (fun (n : Nat) =>
    { listingId := BitVec.ofNat 128 n, productId := 1, specId := 1, workflowId := 1, shopId := 9
      liveDays := 30, inWindow := true, hasDefect := false
      snapshot := some ⟨1, 0, 0, n, 0, true⟩ })

/-- At 80 percent the pool has four listings, and the three below the fourth are culled. -/
theorem cull_characterised_five :
    ∃ culled, cullIds fiveListings 80 = .ok culled ∧
      (∀ id ∈ culled, ∃ item ∈ fiveListings, item.listingId = id ∧ inPercentileCohort item = true) ∧
      ∀ shopId, CohortCulled 80 (cohort fiveListings shopId) culled :=
  cull_characterised fiveListings 80 (by decide) (by decide)

/-- At 0 percent no listing is culled, which is not fewer than none. -/
theorem empty_pool_not_fewer :
    ¬ ∀ (listings : List ListingCandidate) (percent : Int),
      (listings.map ListingCandidate.listingId).Nodup → 0 ≤ percent → percent ≤ 100 →
        ∀ (culled : List Uuid) (shopId : Uuid), cullIds listings percent = .ok culled →
          minCohort ≤ (cohort listings shopId).length →
            ((cohort listings shopId).countP (fun item => decide (item.listingId ∈ culled)) : Int) <
              (cohort listings shopId).length * percent / 100 := by
  intro h
  have hlt := h fiveListings 0 (by decide) (by decide) (by decide) [] 9 (by decide) (by decide)
  exact absurd hlt (by decide)

end PortfolioEligibility
end Assets
end MoneyMachine
