import MoneyMachine.Domain.ClaimValidation
import MoneyMachine.Agents.Merchandising
import MoneyMachine.Library.RegexWindow

/-!
# ClaimSoundness — what a copy that passed says

* `holds_iff_rules` : the ten rules about claims refuse exactly the claims that do not hold, kind by
  kind with the same arguments as `holds`;
* `passed_iff`      : a copy passes exactly when its claims hold, its surfaces are bound and clean,
  and its tags, sections and prices fit;
* `passed_bound`    : so every surface of it is the template of claims that state facts.
-/

namespace MoneyMachine
namespace Domain

open MoneyMachine.Agents
open MoneyMachine.Library

variable {unicode : Unicode} {copy : ListingDraft} {request : MerchandisingInput unicode}

/-! ## Facts -/

theorem byId_eq_some {factId : Uuid} {fact : ProductFact} (h : byId request factId = some fact) :
    fact ∈ request.facts ∧ fact.factId = factId := by
  refine ⟨List.mem_of_find?_eq_some h, ?_⟩
  simpa using List.find?_some h

theorem exists_byId {factId : Uuid} (h : factId ∈ request.facts.map ProductFact.factId) :
    ∃ fact, byId request factId = some fact := by
  rcases List.mem_map.1 h with ⟨fact, hfact, rfl⟩
  have hsome : (byId request fact.factId).isSome = true := by
    rw [byId, List.find?_isSome]
    exact ⟨fact, hfact, by simp⟩
  exact Option.isSome_iff_exists.1 hsome

theorem rejectUnknownFact_eq_nil :
    rejectUnknownFact copy request = [] ↔
      ∀ claim ∈ copy.claims, ∃ fact, byId request claim.factId = some fact := by
  rw [rejectUnknownFact, List.filterMap_eq_nil_iff]
  refine forall₂_congr ?_
  intro claim _
  constructor
  · intro h
    refine exists_byId ?_
    by_contra hunknown
    simp [hunknown] at h
  · rintro ⟨fact, hfact⟩
    have hknown : claim.factId ∈ request.facts.map ProductFact.factId := by
      rw [← (byId_eq_some hfact).2]
      exact List.mem_map.2 ⟨fact, (byId_eq_some hfact).1, rfl⟩
    simp [hknown]

/-- A rule about one kind has nothing to say when its claims match their facts. -/
theorem rejectKind_eq_nil {kind : ClaimKind} {rejectionClass : RejectionClass} {listValued : Bool}
    {actual : Option (List Text)} :
    rejectKind copy request kind rejectionClass listValued actual = [] ↔
      ∀ claim ∈ copy.claims, claim.kind = kind → ∀ fact, byId request claim.factId = some fact →
        kindMatches claim fact listValued actual = true := by
  rw [rejectKind, List.filterMap_eq_nil_iff]
  refine forall₂_congr ?_
  intro claim _
  by_cases hkind : claim.kind = kind
  · simp only [hkind, ne_eq, not_true_eq_false, if_false, forall_const]
    cases hfact : byId request claim.factId with
    | none => simp
    | some fact => simp
  · simp [hkind]

theorem rejectUnmatchedStatement_eq_nil :
    rejectUnmatchedStatement copy request = [] ↔
      ∀ claim ∈ copy.claims, claim.kind ∉ specialKinds → ∀ fact,
        byId request claim.factId = some fact → statementMatches claim fact = true := by
  rw [rejectUnmatchedStatement, List.filterMap_eq_nil_iff]
  refine forall₂_congr ?_
  intro claim _
  by_cases hkind : claim.kind ∈ specialKinds
  · simp [hkind]
  · simp only [hkind, if_false, not_false_eq_true, forall_const]
    cases hfact : byId request claim.factId with
    | none => simp
    | some fact => simp

/-! ## The two ways a claim is matched -/

/-- The rules about the claims of the special kinds. -/
def kindRules (copy : ListingDraft) (request : MerchandisingInput unicode) :
    List (List ClaimCorrection) :=
  [rejectKind copy request .pageCount .inventedPageCount false (some [decimal request.pageCount]),
    rejectKind copy request .feature .nonexistentFeature true (some (featureNames request)),
    rejectKind copy request .variant .variantNotBuilt true (some (variantNames request)),
    rejectKind copy request .automation .unsupportedAutomation false none,
    rejectKind copy request .review .inventedReview false none,
    rejectKind copy request .salesPerformance .inventedSales false none,
    rejectKind copy request .trustBar .inventedTrustBar false none,
    rejectKind copy request .socialProof .unsupportedSocialProof false none]

/-- Each rule matches the claims of its kind as `holds` does. -/
theorem kindRules_eq_nil :
    (∀ rule ∈ kindRules copy request, rule = []) ↔
      ∀ claim ∈ copy.claims, claim.kind ∈ specialKinds → ∀ fact,
        byId request claim.factId = some fact →
          kindMatches claim fact (decide (claim.kind ∈ listKinds))
            (actualFor claim.kind request) = true := by
  simp only [kindRules, List.forall_mem_cons, List.not_mem_nil, false_imp_iff, implies_true,
    and_true, rejectKind_eq_nil]
  constructor
  · rintro ⟨hpage, hfeature, hvariant, hautomation, hreview, hsales, htrust, hsocial⟩
    intro claim hclaim hspecial fact hfact
    -- One case a kind: the arguments of its rule are those that `holds` computes from the kind.
    cases hkind : claim.kind with
    | pageCount => exact hpage claim hclaim hkind fact hfact
    | feature => exact hfeature claim hclaim hkind fact hfact
    | variant => exact hvariant claim hclaim hkind fact hfact
    | automation => exact hautomation claim hclaim hkind fact hfact
    | review => exact hreview claim hclaim hkind fact hfact
    | salesPerformance => exact hsales claim hclaim hkind fact hfact
    | trustBar => exact htrust claim hclaim hkind fact hfact
    | socialProof => exact hsocial claim hclaim hkind fact hfact
    | _ => simp [hkind, specialKinds] at hspecial
  · intro h
    have hrule : ∀ kind ∈ specialKinds, ∀ claim ∈ copy.claims, claim.kind = kind → ∀ fact,
        byId request claim.factId = some fact →
          kindMatches claim fact (decide (kind ∈ listKinds)) (actualFor kind request) = true := by
      rintro kind hspecial claim hclaim rfl
      exact h claim hclaim hspecial
    exact ⟨hrule .pageCount (by decide), hrule .feature (by decide), hrule .variant (by decide),
      hrule .automation (by decide), hrule .review (by decide),
      hrule .salesPerformance (by decide), hrule .trustBar (by decide),
      hrule .socialProof (by decide)⟩

/-- The ten rules about claims refuse exactly the claims that do not hold. -/
theorem holds_iff_rules :
    (∀ claim ∈ copy.claims, holds claim request = true) ↔
      rejectUnknownFact copy request = [] ∧ (∀ rule ∈ kindRules copy request, rule = []) ∧
        rejectUnmatchedStatement copy request = [] := by
  rw [rejectUnknownFact_eq_nil, kindRules_eq_nil, rejectUnmatchedStatement_eq_nil]
  constructor
  · intro h
    refine ⟨?_, ?_, ?_⟩
    · intro claim hclaim
      have hholds := h claim hclaim
      unfold holds at hholds
      cases hfact : byId request claim.factId with
      | none => simp [hfact] at hholds
      | some fact => exact ⟨fact, rfl⟩
    · intro claim hclaim hspecial fact hfact
      have hholds := h claim hclaim
      unfold holds at hholds
      simpa only [hfact, hspecial, if_true] using hholds
    · intro claim hclaim hordinary fact hfact
      have hholds := h claim hclaim
      unfold holds at hholds
      simpa only [hfact, hordinary, if_false] using hholds
  · rintro ⟨hknown, hspecial, hordinary⟩ claim hclaim
    rcases hknown claim hclaim with ⟨fact, hfact⟩
    unfold holds
    by_cases hkind : claim.kind ∈ specialKinds
    · simpa only [hfact, hkind, if_true] using hspecial claim hclaim hkind fact hfact
    · simpa only [hfact, hkind, if_false] using hordinary claim hclaim hkind fact hfact

/-! ## Surfaces -/

/-- A surface without an invented count, a class no claim states, or a hidden letter. -/
structure Clean (copy : ListingDraft) (request : MerchandisingInput unicode) (surface : Surface) :
    Prop where
  counts : inventedCount copy request surface = none
  automation : statesClass copy request .automation .automation surface = false
  review : statesClass copy request .review .review surface = false
  sales : statesClass copy request .salesPerformance .sales surface = false
  trust : statesClass copy request .trustBar .trust surface = false
  social : statesClass copy request .socialProof .social surface = false
  script : scriptRejected unicode surface.text = false

theorem rejectProse_eq_nil {kind : ClaimKind} {rejectionClass : RejectionClass}
    {pattern : ProsePattern} :
    rejectProse copy request kind rejectionClass pattern = [] ↔
      ∀ surface ∈ boundSurfaces copy, statesClass copy request kind pattern surface = false := by
  rw [rejectProse, List.filterMap_eq_nil_iff]
  refine forall₂_congr ?_
  intro surface _
  cases statesClass copy request kind pattern surface <;> simp

theorem rejectMixedScript_eq_nil :
    rejectMixedScript unicode copy = [] ↔
      ∀ surface ∈ boundSurfaces copy, scriptRejected unicode surface.text = false := by
  rw [rejectMixedScript, List.filterMap_eq_nil_iff]
  refine forall₂_congr ?_
  intro surface _
  cases scriptRejected unicode surface.text <;> simp

theorem rejectUnboundText_eq_nil :
    rejectUnboundText copy request = [] ↔
      ∀ surface ∈ boundSurfaces copy, unboundText copy request surface = none := by
  rw [rejectUnboundText, List.filterMap_eq_nil_iff]
  refine forall₂_congr ?_
  intro surface _
  exact Option.map_eq_none_iff

theorem rejectInventedPageCount_eq_nil :
    rejectInventedPageCount copy request = [] ↔
      rejectKind copy request .pageCount .inventedPageCount false
          (some [decimal request.pageCount]) = [] ∧
        ∀ surface ∈ boundSurfaces copy, inventedCount copy request surface = none := by
  simp only [rejectInventedPageCount, rejectSpecial, Option.elim_none, List.append_nil,
    List.append_eq_nil_iff, List.filterMap_eq_nil_iff, Option.map_eq_none_iff]

/-- The rules about surfaces. -/
theorem clean_iff_rules :
    (∀ surface ∈ boundSurfaces copy, Clean copy request surface) ↔
      (∀ surface ∈ boundSurfaces copy, inventedCount copy request surface = none) ∧
        rejectProse copy request .automation .unsupportedAutomation .automation = [] ∧
          rejectProse copy request .review .inventedReview .review = [] ∧
            rejectProse copy request .salesPerformance .inventedSales .sales = [] ∧
              rejectProse copy request .trustBar .inventedTrustBar .trust = [] ∧
                rejectProse copy request .socialProof .unsupportedSocialProof .social = [] ∧
                  rejectMixedScript unicode copy = [] := by
  simp only [rejectProse_eq_nil, rejectMixedScript_eq_nil]
  constructor
  · intro h
    exact ⟨fun s hs => (h s hs).counts, fun s hs => (h s hs).automation,
      fun s hs => (h s hs).review, fun s hs => (h s hs).sales, fun s hs => (h s hs).trust,
      fun s hs => (h s hs).social, fun s hs => (h s hs).script⟩
  · rintro ⟨hcounts, hautomation, hreview, hsales, htrust, hsocial, hscript⟩ surface hsurface
    exact
      { counts := hcounts surface hsurface
        automation := hautomation surface hsurface
        review := hreview surface hsurface
        sales := hsales surface hsurface
        trust := htrust surface hsurface
        social := hsocial surface hsurface
        script := hscript surface hsurface }

/-- What a copy needs to pass. -/
structure Passes (copy : ListingDraft) (request : MerchandisingInput unicode) : Prop where
  claims : ∀ claim ∈ copy.claims, holds claim request = true
  bound : ∀ surface ∈ boundSurfaces copy, unboundText copy request surface = none
  clean : ∀ surface ∈ boundSurfaces copy, Clean copy request surface
  tags : tagsFit copy request = true
  sections : copy.descriptionSections.map PlacedText.role = descriptionRoles
  price : priceFits copy request = true

theorem rejectTagCount_eq_nil :
    rejectTagCount copy request = [] ↔ tagsFit copy request = true := by
  unfold rejectTagCount
  split <;> simp_all

theorem rejectSectionCount_eq_nil :
    rejectSectionCount copy = [] ↔
      copy.descriptionSections.map PlacedText.role = descriptionRoles := by
  unfold rejectSectionCount
  split <;> simp_all

theorem rejectPriceMismatch_eq_nil :
    rejectPriceMismatch copy request = [] ↔ priceFits copy request = true := by
  unfold rejectPriceMismatch
  split <;> simp_all

theorem passed_iff : (validateClaims copy request).passed = true ↔ Passes copy request := by
  have hrules : (validateClaims copy request).passed = true ↔
      (rejectUnknownFact copy request = [] ∧ (∀ rule ∈ kindRules copy request, rule = []) ∧
        rejectUnmatchedStatement copy request = []) ∧
      rejectUnboundText copy request = [] ∧
      ((∀ surface ∈ boundSurfaces copy, inventedCount copy request surface = none) ∧
        rejectProse copy request .automation .unsupportedAutomation .automation = [] ∧
          rejectProse copy request .review .inventedReview .review = [] ∧
            rejectProse copy request .salesPerformance .inventedSales .sales = [] ∧
              rejectProse copy request .trustBar .inventedTrustBar .trust = [] ∧
                rejectProse copy request .socialProof .unsupportedSocialProof .social = [] ∧
                  rejectMixedScript unicode copy = []) ∧
      rejectTagCount copy request = [] ∧ rejectSectionCount copy = [] ∧
        rejectPriceMismatch copy request = [] := by
    simp only [validateClaims, decide_eq_true_eq, List.length_eq_zero_iff, List.append_eq_nil_iff,
      rejectInventedPageCount_eq_nil, rejectNonexistentFeature, rejectVariantNotBuilt,
      rejectUnsupportedAutomation, rejectInventedReview, rejectInventedSales,
      rejectInventedTrustBar, rejectUnsupportedSocialProof, rejectSpecial, Option.elim_none,
      Option.elim_some, List.append_nil, kindRules, List.forall_mem_cons, List.not_mem_nil,
      false_imp_iff, implies_true, and_true, and_assoc]
    constructor
    · rintro ⟨hknown, hpage, hcounts, hfeature, hvariant, hautomation, hautomation', hreview,
        hreview', hsales, hsales', htrust, htrust', hsocial, hsocial', hstatement, hbound, hscript,
        hshape⟩
      exact ⟨hknown, hpage, hfeature, hvariant, hautomation, hreview, hsales, htrust, hsocial,
        hstatement, hbound, hcounts, hautomation', hreview', hsales', htrust', hsocial', hscript,
        hshape⟩
    · rintro ⟨hknown, hpage, hfeature, hvariant, hautomation, hreview, hsales, htrust, hsocial,
        hstatement, hbound, hcounts, hautomation', hreview', hsales', htrust', hsocial', hscript,
        hshape⟩
      exact ⟨hknown, hpage, hcounts, hfeature, hvariant, hautomation, hautomation', hreview,
        hreview', hsales, hsales', htrust, htrust', hsocial, hsocial', hstatement, hbound, hscript,
        hshape⟩
  rw [hrules, ← holds_iff_rules, ← clean_iff_rules, rejectUnboundText_eq_nil,
    rejectTagCount_eq_nil, rejectSectionCount_eq_nil, rejectPriceMismatch_eq_nil]
  constructor
  · rintro ⟨hclaims, hbound, hclean, htags, hsections, hprice⟩
    exact
      { claims := hclaims
        bound := hbound
        clean := hclean
        tags := htags
        sections := hsections
        price := hprice }
  · intro h
    exact ⟨h.claims, h.bound, h.clean, h.tags, h.sections, h.price⟩

/-! ## Bound text -/

theorem claimById_eq_some {claimId : Uuid} {claim : ListingClaim}
    (h : claimById copy claimId = some claim) : claim ∈ copy.claims ∧ claim.claimId = claimId := by
  refine ⟨List.mem_of_find?_eq_some h, ?_⟩
  simpa using List.find?_some h

theorem mapM_claimById {claimIds : List Uuid} {cited : List ListingClaim}
    (h : claimIds.mapM (claimById copy) = some cited) :
    cited.map ListingClaim.claimId = claimIds ∧ ∀ claim ∈ cited, claim ∈ copy.claims := by
  induction claimIds generalizing cited with
  | nil =>
    simp only [List.mapM_nil, Option.pure_def, Option.some.injEq] at h
    subst h
    simp
  | cons claimId rest ih =>
    simp only [List.mapM_cons, Option.bind_eq_bind, Option.bind_eq_some_iff, Option.pure_def,
      Option.some.injEq] at h
    rcases h with ⟨claim, hclaim, more, hmore, rfl⟩
    rcases claimById_eq_some hclaim with ⟨hmem, hid⟩
    rcases ih hmore with ⟨hids, hmems⟩
    refine ⟨by simp [hid, hids], ?_⟩
    intro other hother
    rcases List.mem_cons.1 hother with rfl | hrest
    · exact hmem
    · exact hmems other hrest

theorem resolve_eq_some {claimIds : List Uuid} {cited : List ListingClaim}
    (h : resolve copy claimIds = some cited) :
    cited.map ListingClaim.claimId = claimIds ∧ ∀ claim ∈ cited, claim ∈ copy.claims := by
  cases claimIds with
  | nil => cases h
  | cons claimId rest => exact mapM_claimById h

/-- The claim states what a fact of the product says. -/
structure StatesFact (request : MerchandisingInput unicode) (claim : ListingClaim)
    (fact : ProductFact) : Prop where
  given : fact ∈ request.facts
  cited : fact.factId = claim.factId
  key : fact.factKey = kindKey claim.kind
  value : if claim.kind ∈ listKinds then
      claim.statedValue.chars ∈ factItems fact.factValue.chars
    else
      claim.statedValue.chars = fact.factValue.chars
  pageCount : claim.kind = .pageCount → fact.factValue.chars = decimal request.pageCount
  features : claim.kind = .feature → factItems fact.factValue.chars = featureNames request
  variants : claim.kind = .variant → factItems fact.factValue.chars = variantNames request

theorem statesFact_of_holds {claim : ListingClaim} (h : holds claim request = true) :
    ∃ fact, StatesFact request claim fact := by
  unfold holds at h
  cases hfact : byId request claim.factId with
  | none => simp [hfact] at h
  | some fact =>
    rcases byId_eq_some hfact with ⟨hgiven, hcited⟩
    refine ⟨fact, ?_⟩
    by_cases hspecial : claim.kind ∈ specialKinds
    · simp only [hfact, hspecial, if_true, kindMatches, Bool.and_eq_true,
        decide_eq_true_eq] at h
      rcases h with ⟨⟨hkey, hsource⟩, hvalue⟩
      refine { given := hgiven, cited := hcited, key := hkey, value := ?_, pageCount := ?_,
               features := ?_, variants := ?_ }
      · split at hvalue <;> simp_all
      · intro hkind
        simpa [hkind, actualFor, factSourced, listKinds] using hsource
      · intro hkind
        simpa [hkind, actualFor, factSourced, listKinds] using hsource
      · intro hkind
        simpa [hkind, actualFor, factSourced, listKinds] using hsource
    · simp only [hfact, hspecial, if_false, statementMatches, Bool.and_eq_true,
        decide_eq_true_eq] at h
      rcases h with ⟨hkey, hvalue⟩
      refine { given := hgiven, cited := hcited, key := hkey, value := ?_, pageCount := ?_,
               features := ?_, variants := ?_ }
      · split at hvalue <;> simp_all
      · intro hkind
        simp [hkind, specialKinds] at hspecial
      · intro hkind
        simp [hkind, specialKinds] at hspecial
      · intro hkind
        simp [hkind, specialKinds] at hspecial

/-- The surface is the sentence its template makes of claims that state facts. -/
structure Bound (copy : ListingDraft) (request : MerchandisingInput unicode) (surface : Surface)
    (cited : List ListingClaim) : Prop where
  visible : hasConcealment unicode surface.text = false
  cites : cited.map ListingClaim.claimId = surface.claimIds
  claims : ∀ claim ∈ cited, claim ∈ copy.claims
  facts : ∀ claim ∈ cited, ∃ fact, StatesFact request claim fact
  template : surface.templateId = surface.required
  sentence : ∃ sentence,
    render unicode surface.required (cited.map ListingClaim.slot) request.rules.quantity =
        .ok sentence ∧
      normalizeText unicode surface.text = normalizeText unicode sentence

/-- A text that is the template of its claims, read off `isBound`. -/
theorem isBound_eq_true {surface : Surface} {cited : List ListingClaim}
    (h : isBound request surface cited = true) :
    surface.templateId = surface.required ∧ ∃ sentence,
      render unicode surface.required (cited.map ListingClaim.slot) request.rules.quantity =
          .ok sentence ∧
        normalizeText unicode surface.text = normalizeText unicode sentence := by
  rw [isBound, Bool.and_eq_true, decide_eq_true_eq] at h
  rcases h with ⟨htemplate, hsentence⟩
  refine ⟨htemplate, ?_⟩
  rw [htemplate] at hsentence
  cases hrender : render unicode surface.required (cited.map ListingClaim.slot)
      request.rules.quantity with
  | error e => simp [hrender] at hsentence
  | ok sentence => exact ⟨sentence, rfl, by simpa [hrender] using hsentence⟩

/-- A surface with no correction whose claims hold is bound: the branch that skips a claim which does
not hold is not taken. -/
theorem bound_of_unboundText (hclaims : ∀ claim ∈ copy.claims, holds claim request = true)
    {surface : Surface} (h : unboundText copy request surface = none) :
    ∃ cited, Bound copy request surface cited := by
  unfold unboundText at h
  by_cases hconceal : hasConcealment unicode surface.text = true
  · simp [hconceal] at h
  · rw [if_neg hconceal] at h
    cases hresolve : resolve copy surface.claimIds with
    | none => simp [hresolve] at h
    | some cited =>
      rcases resolve_eq_some hresolve with ⟨hids, hmems⟩
      have hholds : cited.any (fun claim => !holds claim request) = false := by
        rw [List.any_eq_false]
        intro claim hclaim
        simp [hclaims claim (hmems claim hclaim)]
      simp only [hresolve, hholds, Bool.false_eq_true, if_false] at h
      split at h
      · cases h
      · split at h
        · rename_i hisBound
          rcases isBound_eq_true hisBound with ⟨htemplate, hsentence⟩
          exact
            ⟨cited,
              { visible := by simpa using hconceal
                cites := hids
                claims := hmems
                facts := fun claim hclaim =>
                  statesFact_of_holds (hclaims claim (hmems claim hclaim))
                template := htemplate
                sentence := hsentence }⟩
        · cases h

/-- Every text of a copy that passed is the template of claims that state facts of the product. -/
theorem passed_bound (copy : ListingDraft) (request : MerchandisingInput unicode)
    (hpassed : (validateClaims copy request).passed = true) :
    ∀ surface ∈ boundSurfaces copy, ∃ cited, Bound copy request surface cited := by
  intro surface hsurface
  have hpasses := passed_iff.1 hpassed
  exact bound_of_unboundText hpasses.claims (hpasses.bound surface hsurface)

/-! ## Checking a copy -/

/-- Nothing in a folded text is rewritten or found by a pattern. -/
def calm (unicode : Unicode) (pattern : ProsePattern) (folded : Text) : Bool :=
  (decide (pattern ≠ .automation) || quiet unicode.alphabet false exactSavings folded) &&
    (!countPatterns pattern || (quiet unicode.alphabet false collapseBefore folded &&
      quiet unicode.alphabet false collapseAfter folded)) &&
    quiet unicode.alphabet true pattern.re folded

theorem scannedText_of_calm {pattern : ProsePattern} {text : Text}
    (h : calm unicode pattern (normalizeText unicode text) = true) :
    scannedText unicode pattern text = normalizeText unicode text := by
  simp only [calm, Bool.and_eq_true, Bool.or_eq_true, decide_eq_true_eq, Bool.not_eq_true'] at h
  rcases h with ⟨⟨hsavings, hcollapse⟩, -⟩
  have hprose : (if pattern = .automation then
      proseAutomationText unicode (normalizeText unicode text) else normalizeText unicode text) =
        normalizeText unicode text := by
    split
    · next hautomation =>
        exact sub_of_quiet (hsavings.resolve_left (fun hne => hne hautomation))
    · rfl
  simp only [scannedText, hprose]
  split
  · next hcount =>
      obtain ⟨hbefore, hafter⟩ := hcollapse.resolve_left (by simp [hcount])
      rw [countScan, sub_of_quiet hbefore, sub_of_quiet hafter]
  · rfl

theorem statesClass_of_calm {kind : ClaimKind} {pattern : ProsePattern} {surface : Surface}
    (h : calm unicode pattern (normalizeText unicode surface.text) = true) :
    statesClass copy request kind pattern surface = false := by
  have hquiet := (Bool.and_eq_true_iff.mp h).2
  rw [statesClass, scannedText_of_calm h, finditer_of_quiet hquiet]
  rfl

theorem inventedCount_of_quiet {surface : Surface}
    (h : quiet unicode.alphabet true pageNumbers (normalizeText unicode surface.text) = true) :
    inventedCount copy request surface = none := by
  simp only [inventedCount, pageCounts, finditer_of_quiet h]
  rfl

/-- A surface that is its template word for word. -/
def rendersAsIs (copy : ListingDraft) (request : MerchandisingInput unicode) (surface : Surface) : Bool :=
  decide (surface.templateId = surface.required) &&
    (resolve copy surface.claimIds).any (fun cited =>
      (decide (surface.required ≠ lit "tag") || tagKindAllowed cited) &&
        decide (render unicode surface.templateId (cited.map ListingClaim.slot)
          request.rules.quantity = .ok surface.text))

theorem unboundText_of_rendersAsIs {surface : Surface}
    (hvisible : hasConcealment unicode surface.text = false)
    (h : rendersAsIs copy request surface = true) : unboundText copy request surface = none := by
  simp only [rendersAsIs, Bool.and_eq_true, Option.any_eq_true, Bool.or_eq_true,
    decide_eq_true_eq] at h
  rcases h with ⟨htemplate, cited, hresolve, hkind, hrender⟩
  have hbound : isBound request surface cited = true := by
    rw [isBound, decide_eq_true htemplate, hrender]
    exact decide_eq_true rfl
  have htag : ¬ (surface.required = lit "tag" ∧ tagKindAllowed cited = false) := by
    rintro ⟨htag, hrefused⟩
    rcases hkind with hother | hallowed
    · exact hother htag
    · rw [hallowed] at hrefused
      cases hrefused
  simp only [unboundText, hvisible, hresolve, if_neg htag, hbound, Bool.false_eq_true, if_true,
    if_false, ite_self]

/-- What is checked of a copy apart from the scans of its folded texts. -/
def shapeChecks (copy : ListingDraft) (request : MerchandisingInput unicode) : Bool :=
  copy.claims.all (fun claim => holds claim request) && tagsFit copy request &&
    decide (copy.descriptionSections.map PlacedText.role = descriptionRoles) &&
      priceFits copy request && (boundSurfaces copy).all (fun surface =>
        rendersAsIs copy request surface && forced surface.text (fun text =>
          !hasConcealment unicode text && !scriptRejected unicode text))

/-- A check of the folded text of each surface. -/
def onFolded (unicode : Unicode) (copy : ListingDraft) (check : Surface → Text → Bool) : Bool :=
  (boundSurfaces copy).all (fun surface => forced surface.text (fun text =>
    forced (normalizeText unicode text) (check { surface with text := text })))

theorem onFolded_iff {check : Surface → Text → Bool} :
    onFolded unicode copy check = true ↔
      ∀ surface ∈ boundSurfaces copy, check surface (normalizeText unicode surface.text) = true := by
  simp only [onFolded, List.all_eq_true, forced_eq]

def countsFit (copy : ListingDraft) (request : MerchandisingInput unicode) (surface : Surface)
    (folded : Text) : Bool :=
  quiet unicode.alphabet true pageNumbers folded || (inventedCount copy request surface).isNone

theorem passes_of_checks (hshape : shapeChecks copy request = true)
    (hcounts : onFolded unicode copy (countsFit copy request) = true)
    (hcalm : ∀ pattern, onFolded unicode copy (fun _ => calm unicode pattern) = true) :
    Passes copy request := by
  simp only [shapeChecks, Bool.and_eq_true, List.all_eq_true, forced_eq, decide_eq_true_eq,
    Bool.not_eq_true'] at hshape
  rcases hshape with ⟨⟨⟨⟨hclaims, htags⟩, hsections⟩, hprice⟩, hsurfaces⟩
  have hquiet : ∀ pattern kind, ∀ surface ∈ boundSurfaces copy,
      statesClass copy request kind pattern surface = false := by
    intro pattern kind surface hsurface
    exact statesClass_of_calm (onFolded_iff.mp (hcalm pattern) surface hsurface)
  exact
    { claims := hclaims
      bound := by
        intro surface hsurface
        obtain ⟨hrendered, hvisible, -⟩ := hsurfaces surface hsurface
        exact unboundText_of_rendersAsIs hvisible hrendered
      clean := by
        intro surface hsurface
        have hcount := onFolded_iff.mp hcounts surface hsurface
        rw [countsFit, Bool.or_eq_true, Option.isNone_iff_eq_none] at hcount
        exact
          { counts := hcount.elim inventedCount_of_quiet id
            automation := hquiet _ _ surface hsurface
            review := hquiet _ _ surface hsurface
            sales := hquiet _ _ surface hsurface
            trust := hquiet _ _ surface hsurface
            social := hquiet _ _ surface hsurface
            script := (hsurfaces surface hsurface).2.2 }
      tags := htags
      sections := hsections
      price := hprice }

/-- A draft of the generator in whose folded texts the patterns find nothing. -/
structure CalmDraft (uuid5 : Text → Uuid) (request : MerchandisingInput unicode) where
  copy : ListingDraft
  made : draftFromFacts uuid5 request = .ok copy
  calm : ∀ pattern, onFolded unicode copy (fun _ => calm unicode pattern) = true

/-- A calm draft with the checks that show it passes. -/
structure CheckedDraft (uuid5 : Text → Uuid) (request : MerchandisingInput unicode)
    extends CalmDraft uuid5 request where
  shape : shapeChecks copy request = true
  counts : onFolded unicode copy (countsFit copy request) = true

theorem CheckedDraft.passed {uuid5 : Text → Uuid} {request : MerchandisingInput unicode}
    (checked : CheckedDraft uuid5 request) : (validateClaims checked.copy request).passed = true :=
  passed_iff.mpr (passes_of_checks checked.shape checked.counts checked.calm)

/-- What an outcome that is no refusal has made. -/
def madeOf : (outcome : Outcome ListingDraft) → outcome.toOption.isSome = true →
    {draft : ListingDraft // outcome = .ok draft}
  | .ok draft, _ => ⟨draft, rfl⟩

/-- The planner of one tag. -/
def oneTagRequest : MerchandisingInput Unicode.ascii :=
  sampleRequest { configuredListingRules with tags := 1 } (sampleText "K|L")

/-- The draft that the generator makes of it. -/
def oneTagDraft : {draft : ListingDraft // draftFromFacts sampleUuid5 oneTagRequest = .ok draft} :=
  madeOf (draftFromFacts sampleUuid5 oneTagRequest) (by decide +kernel)

-- The scans come one after the other: all at once they are too much to keep in memory.
def calmSample : CalmDraft sampleUuid5 oneTagRequest where
  copy := oneTagDraft.val
  made := oneTagDraft.property
  calm := by
    have hrest : onFolded Unicode.ascii oneTagDraft.val (fun _ folded =>
        calm Unicode.ascii .automation folded && calm Unicode.ascii .trust folded &&
          calm Unicode.ascii .social folded) = true := by
      decide +kernel
    simp only [onFolded_iff, Bool.and_eq_true] at hrest
    intro pattern
    cases pattern with
    | review => decide +kernel
    | sales => decide +kernel
    | automation => exact onFolded_iff.mpr (fun surface hsurface => (hrest surface hsurface).1.1)
    | trust => exact onFolded_iff.mpr (fun surface hsurface => (hrest surface hsurface).1.2)
    | social => exact onFolded_iff.mpr (fun surface hsurface => (hrest surface hsurface).2)

def checkedSample : CheckedDraft sampleUuid5 oneTagRequest where
  toCalmDraft := calmSample
  shape := by decide +kernel
  counts := by decide +kernel

theorem passed_bound_sample :
    ∃ draft, draftFromFacts sampleUuid5 oneTagRequest = .ok draft ∧
      ∀ surface ∈ boundSurfaces draft, ∃ cited, Bound draft oneTagRequest surface cited :=
  ⟨checkedSample.copy, checkedSample.made,
    passed_bound checkedSample.copy oneTagRequest checkedSample.passed⟩

end Domain
end MoneyMachine
