import MoneyMachine.Assets.PortfolioCulls

/-!
# PortfolioOrder — the order of the input does not matter

Every step of the evaluation looks at its listings through something that a permutation keeps: the scores
of a cohort, its listings sorted by a key that no two of them share, and the prior of a listing.

* `CullsGroup.perm`       : a permuted cohort culls the same listings;
* `uniqueWinner_perm`     : a permuted cohort has the same winner;
* `priorOf_perm`          : permuted priors give a listing the same prior;
* `evaluate_order_independent` : the results are a permutation of one another.
-/

namespace MoneyMachine
namespace Assets
namespace PortfolioEligibility

open MoneyMachine.Domain
open MoneyMachine.Library

section Groups

variable {group group' : List ListingCandidate} {percent : Int} {culled : List Uuid}

theorem CullsGroup.perm (hperm : group.Perm group') (h : CullsGroup percent group culled) :
    CullsGroup percent group' culled := by
  have hlength := hperm.length_eq
  have hpool : poolSize percent group' = poolSize percent group := by
    rw [poolSize, poolSize, hlength]
  refine ⟨?_, ?_⟩
  · rw [hpool, ← hlength]
    exact h.small
  · rw [hpool, ← hlength]
    intro hlarge hpositive
    obtain ⟨last, hlast, hids⟩ := h.pooled hlarge hpositive
    refine ⟨last, hlast.perm (hperm.map score), ?_⟩
    intro id
    rw [hids]
    simp only [hperm.mem_iff]

/-- Listings with different ids have different keys. -/
theorem eq_of_sortKey {a b : ListingCandidate} (hinj : a.listingId = b.listingId → a = b)
    (hle : sortKey b ≤ sortKey a) (hge : sortKey a ≤ sortKey b) : a = b := by
  have hkey : sortKey a = sortKey b := le_antisymm hge hle
  have hid : a.listingId.toNat = b.listingId.toNat := congrArg (fun k => (ofLex k).2) hkey
  exact hinj (BitVec.eq_of_toNat_eq hid)

/-- A permuted cohort of distinct listings is sorted into the same list. -/
theorem ranked_perm (hperm : group.Perm group')
    (hdistinct : ∀ a ∈ group, ∀ b ∈ group, a.listingId = b.listingId → a = b) :
    group.insertionSort (fun a b => sortKey b ≤ sortKey a) =
      group'.insertionSort (fun a b => sortKey b ≤ sortKey a) := by
  have hsorted := List.perm_insertionSort (fun a b : ListingCandidate => sortKey b ≤ sortKey a) group
  have hsorted' := List.perm_insertionSort (fun a b : ListingCandidate => sortKey b ≤ sortKey a) group'
  apply List.Perm.eq_of_pairwise
  · intro a b ha hb hle hge
    have ha' := hsorted.mem_iff.mp ha
    have hb' := hperm.mem_iff.mpr (hsorted'.mem_iff.mp hb)
    exact eq_of_sortKey (hdistinct a ha' b hb') hle hge
  · exact List.pairwise_insertionSort _ _
  · exact List.pairwise_insertionSort _ _
  · exact (hsorted.trans hperm).trans hsorted'.symm

theorem uniqueWinner_perm (hperm : group.Perm group')
    (hdistinct : ∀ a ∈ group, ∀ b ∈ group, a.listingId = b.listingId → a = b) :
    uniqueWinner group = uniqueWinner group' := by
  unfold uniqueWinner
  rw [ranked_perm hperm hdistinct]

end Groups

section Listings

variable {listings listings' : List ListingCandidate} {percent : Int}

theorem cohort_perm (hperm : listings.Perm listings') (shopId : Uuid) :
    (cohort listings shopId).Perm (cohort listings' shopId) :=
  hperm.filter _

/-- The same listings are culled. -/
theorem cullIds_perm (hperm : listings.Perm listings') (h : percent ≤ 100) :
    ∃ culled culled', cullIds listings percent = .ok culled ∧ cullIds listings' percent = .ok culled' ∧
      ∀ id, id ∈ culled ↔ id ∈ culled' := by
  obtain ⟨culled, hok, hmem⟩ := @cullIds_ok listings percent h
  obtain ⟨culled', hok', hmem'⟩ := @cullIds_ok listings' percent h
  refine ⟨culled, culled', hok, hok', ?_⟩
  intro id
  rw [hmem, hmem']
  constructor
  · rintro ⟨shopId, ids, hculls, hid⟩
    exact ⟨shopId, ids, hculls.perm (cohort_perm hperm shopId), hid⟩
  · rintro ⟨shopId, ids, hculls, hid⟩
    exact ⟨shopId, ids, hculls.perm (cohort_perm hperm shopId).symm, hid⟩

/-- What is multiplied is the winner of a cohort that was not culled. -/
theorem mem_multiplyIds {culled : List Uuid} {id : Uuid} :
    id ∈ multiplyIds listings culled ↔
      ∃ shopId, uniqueWinner (cohort listings shopId) = some id ∧ id ∉ culled := by
  unfold multiplyIds
  rw [List.mem_filterMap]
  constructor
  · rintro ⟨shopId, -, h⟩
    split at h
    · rename_i winner hwinner
      split at h
      · cases h
      · rename_i hculled
        cases h
        exact ⟨shopId, hwinner, hculled⟩
    · cases h
  · rintro ⟨shopId, hwinner, hculled⟩
    obtain ⟨best, hbest, -, -⟩ := uniqueWinner_best hwinner
    refine ⟨shopId, mem_shops.mpr ⟨best, hbest⟩, ?_⟩
    rw [hwinner]
    exact if_neg hculled

theorem multiplyIds_perm (hperm : listings.Perm listings')
    (hdistinct : (listings.map ListingCandidate.listingId).Nodup) {culled culled' : List Uuid}
    (hculled : ∀ id, id ∈ culled ↔ id ∈ culled') (id : Uuid) :
    id ∈ multiplyIds listings culled ↔ id ∈ multiplyIds listings' culled' := by
  have hwinner : ∀ shopId, uniqueWinner (cohort listings shopId) =
      uniqueWinner (cohort listings' shopId) := by
    intro shopId
    apply uniqueWinner_perm (cohort_perm hperm shopId)
    intro a ha b hb heq
    exact eq_of_listingId hdistinct (mem_cohort.mp ha).1 (mem_cohort.mp hb).1 heq
  rw [mem_multiplyIds, mem_multiplyIds]
  simp only [hwinner, hculled]

end Listings

section Priors

variable {priors priors' : List PortfolioResult}

theorem priorOf_eq_some (hdistinct : (priors.map PortfolioResult.listingId).Nodup) {id : Uuid}
    {prior : PortfolioResult} :
    priorOf priors id = some prior ↔ prior ∈ priors ∧ prior.listingId = id := by
  unfold priorOf
  constructor
  · intro h
    exact ⟨List.mem_reverse.mp (List.mem_of_find?_eq_some h), by simpa using List.find?_some h⟩
  · rintro ⟨hmem, hid⟩
    cases hfind : priors.reverse.find? (fun other => decide (other.listingId = id)) with
    | none =>
      have hnone := List.find?_eq_none.mp hfind prior (List.mem_reverse.mpr hmem)
      exact absurd hid (by simpa using hnone)
    | some other =>
      have hother : other.listingId = id := by simpa using List.find?_some hfind
      have hmem' := List.mem_reverse.mp (List.mem_of_find?_eq_some hfind)
      rw [List.inj_on_of_nodup_map hdistinct hmem' hmem (hother.trans hid.symm)]

theorem priorOf_perm (hperm : priors.Perm priors')
    (hdistinct : (priors.map PortfolioResult.listingId).Nodup) (id : Uuid) :
    priorOf priors id = priorOf priors' id := by
  have hdistinct' : (priors'.map PortfolioResult.listingId).Nodup :=
    (hperm.map _).nodup_iff.mp hdistinct
  apply Option.ext
  intro prior
  rw [priorOf_eq_some hdistinct, priorOf_eq_some hdistinct', hperm.mem_iff]

end Priors

/-! ## The evaluation -/

section Evaluate

variable {uuid5 : String → Uuid} {priors priors' : List PortfolioResult} {decidedAt : Moment}
  {culled culled' multiply multiply' : List Uuid}

theorem classify_congr (hculled : ∀ id, id ∈ culled ↔ id ∈ culled')
    (hmultiply : ∀ id, id ∈ multiply ↔ id ∈ multiply') (listing : ListingCandidate)
    (snapshot : SnapshotView) :
    classify listing snapshot culled multiply = classify listing snapshot culled' multiply' := by
  simp only [classify, hculled, hmultiply]

theorem decisionFor_congr (hpriors : ∀ id, priorOf priors id = priorOf priors' id)
    (hculled : ∀ id, id ∈ culled ↔ id ∈ culled') (hmultiply : ∀ id, id ∈ multiply ↔ id ∈ multiply')
    (listing : ListingCandidate) :
    decisionFor uuid5 priors decidedAt culled multiply listing =
      decisionFor uuid5 priors' decidedAt culled' multiply' listing := by
  unfold decisionFor
  simp only [hpriors, classify_congr hculled hmultiply]

/-- The record of a decision names its listing. -/
theorem decisionFor_listingId {listing : ListingCandidate} {result : PortfolioResult}
    (h : decisionFor uuid5 priors decidedAt culled multiply listing = some result) :
    result.listingId = listing.listingId := by
  unfold decisionFor at h
  split at h
  · cases h
  · split at h
    · split at h
      · cases h
      · obtain ⟨decision, -, rfl⟩ := Option.map_eq_some_iff.mp h
        cases decision <;> rfl
    · cases h

/-- One result for each listing at most. -/
theorem results_nodup {listings : List ListingCandidate}
    (hdistinct : (listings.map ListingCandidate.listingId).Nodup) :
    ((listings.filterMap (decisionFor uuid5 priors decidedAt culled multiply)).map
      PortfolioResult.listingId).Nodup := by
  induction listings with
  | nil => exact List.nodup_nil
  | cons listing listings ih =>
    obtain ⟨hfirst, hrest⟩ := List.nodup_cons.mp hdistinct
    cases hdecision : decisionFor uuid5 priors decidedAt culled multiply listing with
    | none =>
      rw [List.filterMap_cons_none hdecision]
      exact ih hrest
    | some result =>
      rw [List.filterMap_cons_some hdecision, List.map_cons, List.nodup_cons]
      refine ⟨?_, ih hrest⟩
      rw [decisionFor_listingId hdecision]
      intro hmem
      obtain ⟨other, hother, hid⟩ := List.mem_map.mp hmem
      obtain ⟨found, hfound, hsome⟩ := List.mem_filterMap.mp hother
      rw [decisionFor_listingId hsome] at hid
      exact hfirst (List.mem_map.mpr ⟨found, hfound, hid⟩)

end Evaluate

/-- Two evaluations with the same records, one for each decided listing, or with the same error. -/
def SameOutcome : Except PortfolioError (List PortfolioResult) →
    Except PortfolioError (List PortfolioResult) → Prop
  | .ok results, .ok results' =>
    results.Perm results' ∧ (results.map PortfolioResult.listingId).Nodup
  | .error e, .error e' => e = e'
  | _, _ => False

/-- Permuted listings and priors are given the same decisions. -/
theorem evaluate_order_independent (uuid5 : String → Uuid) (readInt : String → Option Int)
    (listings listings' : List ListingCandidate) (priors priors' : List PortfolioResult)
    (decidedAt : Option Moment) (cullBottomPercent : String)
    (hlistings : listings.Perm listings') (hpriors : priors.Perm priors')
    (hdistinct : (listings.map ListingCandidate.listingId).Nodup)
    (hpriorsDistinct : (priors.map PortfolioResult.listingId).Nodup)
    (hpercent : ∀ percent, readInt cullBottomPercent = some percent → 0 ≤ percent ∧ percent ≤ 100) :
    SameOutcome (evaluatePortfolio uuid5 readInt listings decidedAt priors cullBottomPercent)
      (evaluatePortfolio uuid5 readInt listings' decidedAt priors' cullBottomPercent) := by
  unfold evaluatePortfolio
  cases decidedAt with
  | none => exact rfl
  | some decidedAt =>
    cases hread : readInt cullBottomPercent with
    | none => exact rfl
    | some percent =>
      obtain ⟨culled, culled', hok, hok', hculled⟩ := cullIds_perm hlistings (hpercent percent hread).2
      have hmultiply := multiplyIds_perm hlistings hdistinct hculled
      have hcongr : decisionFor uuid5 priors decidedAt culled (multiplyIds listings culled) =
          decisionFor uuid5 priors' decidedAt culled' (multiplyIds listings' culled') := by
        funext listing
        exact decisionFor_congr (priorOf_perm hpriors hpriorsDistinct) hculled hmultiply listing
      simp only [hok, hok', bind, Except.bind]
      refine ⟨?_, results_nodup hdistinct⟩
      rw [hcongr]
      exact hlistings.filterMap _

/-- What an earlier evaluation decided on two of the listings. -/
def twoPriors : List PortfolioResult :=
  (fiveListings.take 2).filterMap (decisionFor (fun _ => 0) [] 0 [] [])

/-- Five listings and two priors in either order. -/
theorem evaluate_order_independent_two :
    twoPriors.map PortfolioResult.listingId = [1, 2] ∧
      SameOutcome
        (evaluatePortfolio (fun _ => 0) (fun _ => some 80) fiveListings (some 1) twoPriors "80")
        (evaluatePortfolio (fun _ => 0) (fun _ => some 80) fiveListings.reverse (some 1)
          twoPriors.reverse "80") :=
  ⟨by decide, evaluate_order_independent (fun _ => 0) (fun _ => some 80) fiveListings
    fiveListings.reverse twoPriors twoPriors.reverse (some 1) "80" (List.reverse_perm _).symm
    (List.reverse_perm _).symm (by decide) (by decide) (fun percent h => by cases h; decide)⟩

end PortfolioEligibility
end Assets
end MoneyMachine
