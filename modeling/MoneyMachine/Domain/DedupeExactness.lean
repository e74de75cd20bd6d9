import MoneyMachine.Domain.Dedupe
import Mathlib.Tactic.Positivity

/-!
# DedupeExactness — when the check is total and exact

Every collision passes its own contract: a similarity is between 0 and 1 and is not written below the
threshold.  What fails is the result itself when the candidate's title has nothing but punctuation, since
a normalized title may not be empty.

* `collisionsWith_ok`   : one spec of the catalogue;
* `compareAll_ok`       : the whole catalogue;
* `checkDedupe_ok`      : the outcome for a title that leaves something;
* `dedupeExact_iff`     : when all of it holds.
-/

namespace MoneyMachine
namespace Domain
namespace Dedupe

open MoneyMachine.Library

/-! ## Texts -/

theorem trim_cons_ne {c : Char} (h : isWhiteSpace c = false) (rest : Text) : trim (c :: rest) ≠ [] := by
  intro hnil
  rw [trim, List.dropWhile_cons_of_neg (by simp [h]), List.rdropWhile_eq_nil_iff] at hnil
  have hc := hnil c List.mem_cons_self
  rw [h] at hc
  cases hc

theorem nonEmpty_of_ne {text : Text} (h : trim text ≠ []) :
    nonEmpty text = .ok ⟨trim text, h, trim_trim text⟩ := by
  simp only [nonEmpty, TrimmedText.parse, dif_neg h]

theorem nonEmpty_blank {text : Text} (h : trim text = []) :
    nonEmpty text = .error (lit "String should have at least 1 character") := by
  simp only [nonEmpty, TrimmedText.parse, dif_pos h]

/-- A text that starts with a visible character is accepted. -/
theorem nonEmpty_cons {c : Char} (h : isWhiteSpace c = false) (rest : Text) :
    ∃ text, nonEmpty (c :: rest) = .ok text :=
  ⟨_, nonEmpty_of_ne (trim_cons_ne h rest)⟩

/-- A normalized title that is not empty does not start with a space. -/
theorem trim_strip {text : Text} (h : strip text ≠ []) : trim (strip text) ≠ [] := by
  cases hstrip : strip text with
  | nil => exact absurd hstrip h
  | cons c rest =>
    apply trim_cons_ne
    have hfront : ∃ more, text.dropWhile isSpace = c :: more := by
      rw [strip, rstrip] at hstrip
      obtain ⟨tail, htail⟩ := List.rdropWhile_prefix isSpace (l := text.dropWhile isSpace)
      rw [hstrip] at htail
      exact ⟨rest ++ tail, htail.symm⟩
    obtain ⟨more, hmore⟩ := hfront
    have hne : text.dropWhile isSpace ≠ [] := by
      rw [hmore]
      exact List.cons_ne_nil c more
    have hhead := List.head_dropWhile_not isSpace hne
    simp only [hmore, List.head_cons] at hhead
    rw [isSpace, Bool.or_eq_false_iff] at hhead
    exact hhead.1

/-! ## Similarity -/

/-- The Jaccard index as a rational number. -/
def jaccardIndex (a b : Finset Text) : ℚ :=
  if a = ∅ ∧ b = ∅ then 1 else (a ∩ b).card / (a ∪ b).card

theorem jaccardIndex_bounds (a b : Finset Text) : 0 ≤ jaccardIndex a b ∧ jaccardIndex a b ≤ 1 := by
  unfold jaccardIndex
  split_ifs
  · norm_num
  · refine ⟨by positivity, ?_⟩
    apply div_le_one_of_le₀ _ (by positivity)
    exact_mod_cast Finset.card_le_card (Finset.inter_subset_union)

/-- The doubles that the rules meet. -/
structure Doubles : Prop where
  zero : 0 = Binary64.round 0
  one : 1 = Binary64.round 1
  shortestZero : Binary64.shortest (Binary64.round 0) = 0
  shortestOne : Binary64.shortest (Binary64.round 1) = 1
  shortestThreshold : Binary64.shortest (Binary64.round (7 / 10)) = 7 / 10

theorem doubles : Doubles where
  zero := by decide +kernel
  one := by decide +kernel
  shortestZero := by decide +kernel
  shortestOne := by decide +kernel
  shortestThreshold := by decide +kernel

/-- The similarity is the double of the index. -/
theorem jaccardSimilarity_eq (a b : Finset Text) :
    jaccardSimilarity a b = Binary64.round (jaccardIndex a b) := by
  unfold jaccardSimilarity jaccardIndex
  split_ifs with hboth hone hunion
  · exact doubles.one
  · have hinter : a ∩ b = ∅ := by
      rcases hone with rfl | rfl
      · exact Finset.empty_inter b
      · exact Finset.inter_empty a
    rw [hinter, Finset.card_empty, Nat.cast_zero, zero_div]
    exact doubles.zero
  · rw [Finset.union_eq_empty] at hunion
    exact absurd hunion hboth
  · rfl

theorem jaccardIndex_comm (a b : Finset Text) : jaccardIndex a b = jaccardIndex b a := by
  unfold jaccardIndex
  rw [Finset.inter_comm, Finset.union_comm]
  exact if_congr and_comm rfl rfl

theorem shortest_threshold : Binary64.shortest jaccardThreshold = 7 / 10 :=
  doubles.shortestThreshold

section Pairs

variable (tables : TitleTables)

/-- The exact similarity of two titles. -/
def titleIndex (candidate existing : ProductSpec) : ℚ :=
  jaccardIndex (titleTokens tables candidate) (titleTokens tables existing)

theorem similarity_eq (candidate existing : ProductSpec) :
    similarity tables candidate existing = Binary64.round (titleIndex tables candidate existing) :=
  jaccardSimilarity_eq _ _

/-- A similarity is written between 0 and 1. -/
theorem shortest_similarity (candidate existing : ProductSpec) :
    0 ≤ Binary64.shortest (similarity tables candidate existing) ∧
      Binary64.shortest (similarity tables candidate existing) ≤ 1 := by
  obtain ⟨hlow, hhigh⟩ := jaccardIndex_bounds (titleTokens tables candidate)
    (titleTokens tables existing)
  rw [similarity_eq]
  have hself : Binary64.round (Binary64.round (titleIndex tables candidate existing)) =
      Binary64.round (titleIndex tables candidate existing) := Binary64.round_round hlow
  refine ⟨?_, ?_⟩
  · apply Binary64.le_shortest hself doubles.shortestZero le_rfl
    exact Binary64.round_mono hlow hlow
  · apply Binary64.shortest_le hself doubles.shortestOne zero_le_one
    exact Binary64.round_mono hhigh zero_le_one

/-- A similarity that meets the threshold is not written below it. -/
theorem shortest_similarTitle {candidate existing : ProductSpec}
    (h : similarTitle tables candidate existing = true) :
    7 / 10 ≤ Binary64.shortest (similarity tables candidate existing) := by
  have hthreshold := of_decide_eq_true h
  obtain ⟨hlow, -⟩ := jaccardIndex_bounds (titleTokens tables candidate) (titleTokens tables existing)
  rw [similarity_eq] at hthreshold ⊢
  apply Binary64.le_shortest (Binary64.round_round hlow) doubles.shortestThreshold (by norm_num) hthreshold

/-- One of the three rules applies. -/
def Collides (candidate existing : ProductSpec) : Prop :=
  sameIdentity tables candidate existing = true ∨ similarTitle tables candidate existing = true ∨
    sameConcept candidate existing = true

theorem Collides.symm {a b : ProductSpec} (h : Collides tables a b) : Collides tables b a := by
  rcases h with hidentity | htitle | hconcept
  · obtain ⟨hidentity, hcategory⟩ := of_decide_eq_true hidentity
    exact Or.inl (decide_eq_true ⟨hidentity.symm, hcategory.symm⟩)
  · have hthreshold := of_decide_eq_true htitle
    rw [similarity_eq, titleIndex, jaccardIndex_comm] at hthreshold
    right
    left
    apply decide_eq_true
    rw [similarity_eq]
    exact hthreshold
  · exact Or.inr (Or.inr (decide_eq_true (of_decide_eq_true hconcept).symm))

end Pairs

/-! ## Collisions -/

section Collisions

variable (tables : TitleTables) (clock : Uuid → Reason → Nat)

/-- A collision that `validate_outcome` accepts for a spec. -/
def Accepted (existing : Uuid) (collision : DedupeCollision) : Prop :=
  collision.otherSpecId = existing ∧
    (collision.reason = .titleSimilarity → 7 / 10 ≤ collision.similarity)

/-- A collision with a visible source and summary is built. -/
theorem collision_ok (candidate existing : ProductSpec) (reason : Reason) {similarity : ℚ}
    {sourceReference summary : Text} (hunit : 0 ≤ similarity ∧ similarity ≤ 1)
    (hsource : ∃ text, nonEmpty sourceReference = .ok text)
    (hsummary : ∃ text, nonEmpty summary = .ok text)
    (hreason : reason = .titleSimilarity → 7 / 10 ≤ similarity) :
    ∃ found, collision clock candidate existing reason similarity sourceReference summary = .ok found ∧
      Accepted existing.specId found := by
  obtain ⟨source, hsource⟩ := hsource
  obtain ⟨text, hsummary⟩ := hsummary
  obtain ⟨kind, hkind⟩ := nonEmpty_cons (c := 'D') (by decide) (lit "EDUPE_CHECK")
  have hkind' : nonEmpty (lit "DEDUPE_CHECK") = .ok kind := hkind
  refine ⟨⟨existing.specId, reason, similarity,
    [⟨candidate.specId, kind, source, clock existing.specId reason, text⟩], hunit,
    List.cons_ne_nil _ _⟩, ?_, rfl, hreason⟩
  simp only [collision, EvidenceReference.parse, hkind', hsource, hsummary, bind, Except.bind,
    DedupeCollision.parse, dif_pos hunit]
  rfl

theorem identityCollision_ok (candidate existing : ProductSpec) :
    ∃ found, identityCollision clock candidate existing = .ok found ∧ Accepted existing.specId found := by
  apply collision_ok
  · norm_num
  · exact nonEmpty_cons (c := 'S') (by decide) (lit "PEC_IDENTITY_CATEGORY")
  · exact nonEmpty_cons (c := 'i') (by decide) _
  · intro h
    cases h

theorem conceptCollision_ok (candidate existing : ProductSpec) :
    ∃ found, conceptCollision clock candidate existing = .ok found ∧ Accepted existing.specId found := by
  apply collision_ok
  · norm_num
  · exact nonEmpty_cons (c := 'C') (by decide) (lit "ONCEPT_FINGERPRINT")
  · exact nonEmpty_cons (c := 'f') (by decide) _
  · intro h
    cases h

theorem titleCollision_ok {candidate existing : ProductSpec}
    (h : similarTitle tables candidate existing = true) :
    ∃ found, titleCollision tables clock candidate existing = .ok found ∧
      Accepted existing.specId found := by
  apply collision_ok
  · exact shortest_similarity tables candidate existing
  · exact nonEmpty_cons (c := 'T') (by decide) (lit "ITLE_TOKENS")
  · exact nonEmpty_cons (c := 'c') (by decide) _
  · intro _
    exact shortest_similarTitle tables h

/-- Where its rule applies there is one collision, elsewhere there is none. -/
theorem collisionIf_ok {applies : Bool} {found : Except Text DedupeCollision} {existing : Uuid}
    (h : applies = true → ∃ collision, found = .ok collision ∧ Accepted existing collision) :
    ∃ collisions, collisionIf applies found = .ok collisions ∧
      (collisions = [] ↔ applies = false) ∧ ∀ collision ∈ collisions, Accepted existing collision := by
  cases happlies : applies with
  | false => exact ⟨[], rfl, by simp, by simp⟩
  | true =>
    obtain ⟨collision, hfound, haccepted⟩ := h happlies
    refine ⟨[collision], ?_, by simp, by simpa using haccepted⟩
    rw [collisionIf, if_pos rfl, hfound]
    rfl

/-- What one spec of the catalogue contributes. -/
theorem collisionsWith_ok (candidate existing : ProductSpec) :
    ∃ found, collisionsWith tables clock candidate existing = .ok found ∧
      (found = [] ↔ ¬ Collides tables candidate existing) ∧
        ∀ collision ∈ found, Accepted existing.specId collision := by
  obtain ⟨identity, hidentity, hidentityNil, hidentityAll⟩ :=
    @collisionIf_ok (sameIdentity tables candidate existing) _ _
      (fun _ => identityCollision_ok clock candidate existing)
  obtain ⟨title, htitle, htitleNil, htitleAll⟩ :=
    @collisionIf_ok (similarTitle tables candidate existing) _ _
      (fun happlies => titleCollision_ok tables clock happlies)
  obtain ⟨concept, hconcept, hconceptNil, hconceptAll⟩ :=
    @collisionIf_ok (sameConcept candidate existing) _ _
      (fun _ => conceptCollision_ok clock candidate existing)
  refine ⟨identity ++ title ++ concept, ?_, ?_, ?_⟩
  · simp only [collisionsWith, hidentity, htitle, hconcept, bind, Except.bind]
  · rw [List.append_eq_nil_iff, List.append_eq_nil_iff, hidentityNil, htitleNil, hconceptNil, Collides]
    simp [and_assoc]
  · intro collision hmem
    rcases List.mem_append.mp hmem with hin | hin
    · rcases List.mem_append.mp hin with hin | hin
      · exact hidentityAll collision hin
      · exact htitleAll collision hin
    · exact hconceptAll collision hin

/-- The specs that are compared: all but the candidate itself. -/
def compared (candidate : ProductSpec) (specs : List ProductSpec) : List Uuid :=
  (specs.filter (fun existing => decide (existing.specId ≠ candidate.specId))).map ProductSpec.specId

/-- Some spec other than the candidate collides with it. -/
def CollidesIn (candidate : ProductSpec) (specs : List ProductSpec) : Prop :=
  ∃ existing ∈ specs, existing.specId ≠ candidate.specId ∧ Collides tables candidate existing

/-- What the whole catalogue contributes. -/
theorem compareAll_ok (candidate : ProductSpec) (specs : List ProductSpec) :
    ∃ collisions, compareAll tables clock candidate specs = .ok (compared candidate specs, collisions) ∧
      (collisions = [] ↔ ¬ CollidesIn tables candidate specs) ∧
        ∀ collision ∈ collisions, ∃ existing ∈ compared candidate specs, Accepted existing collision := by
  induction specs with
  | nil => exact ⟨[], rfl, by simp [CollidesIn], by simp⟩
  | cons existing rest ih =>
    obtain ⟨more, hmore, hmoreNil, hmoreAll⟩ := ih
    by_cases hself : existing.specId = candidate.specId
    · refine ⟨more, ?_, ?_, ?_⟩
      · rw [compareAll, if_pos hself, hmore]
        simp [compared, hself]
      · rw [hmoreNil]
        simp [CollidesIn, hself]
      · simpa [compared, hself] using hmoreAll
    · obtain ⟨found, hfound, hfoundNil, hfoundAll⟩ :=
        collisionsWith_ok tables clock candidate existing
      have hcompared : compared candidate (existing :: rest) =
          existing.specId :: compared candidate rest := by
        simp [compared, hself]
      refine ⟨found ++ more, ?_, ?_, ?_⟩
      · rw [compareAll, if_neg hself, hcompared]
        simp only [hfound, hmore, bind, Except.bind]
      · rw [List.append_eq_nil_iff, hfoundNil, hmoreNil]
        simp [CollidesIn, hself]
      · intro collision hmem
        rw [hcompared]
        rcases List.mem_append.mp hmem with hin | hin
        · exact ⟨existing.specId, List.mem_cons_self, hfoundAll collision hin⟩
        · obtain ⟨other, hother, haccepted⟩ := hmoreAll collision hin
          exact ⟨other, List.mem_cons_of_mem _ hother, haccepted⟩

end Collisions

/-! ## The result -/

theorem validateCollisions_ok {comparedSpecIds : List Uuid} {collisions : List DedupeCollision}
    (h : ∀ collision ∈ collisions, ∃ existing ∈ comparedSpecIds, Accepted existing collision) :
    validateCollisions comparedSpecIds (7 / 10) collisions = .ok () := by
  induction collisions with
  | nil => rfl
  | cons collision rest ih =>
    obtain ⟨existing, hexisting, hother, hsimilar⟩ := h collision List.mem_cons_self
    have hcited : ¬ collision.otherSpecId ∉ comparedSpecIds := by
      rw [hother]
      exact not_not_intro hexisting
    have hmeets : ¬ (collision.reason = .titleSimilarity ∧ collision.similarity < 7 / 10) := by
      rintro ⟨hreason, hbelow⟩
      exact absurd (hsimilar hreason) (not_le.mpr hbelow)
    rw [validateCollisions, if_neg hcited, if_neg hmeets]
    exact ih (fun other hmem => h other (List.mem_cons_of_mem collision hmem))

theorem mapM_nonEmpty {texts : List Text}
    (h : ∀ text ∈ texts, ∃ accepted, nonEmpty text = .ok accepted) :
    ∃ accepted, texts.mapM nonEmpty = .ok accepted ∧ (accepted = [] ↔ texts = []) := by
  induction texts with
  | nil => exact ⟨[], rfl, by simp⟩
  | cons text rest ih =>
    obtain ⟨first, hfirst⟩ := h text List.mem_cons_self
    obtain ⟨others, hothers, -⟩ := ih (fun other hmem => h other (List.mem_cons_of_mem text hmem))
    refine ⟨first :: others, ?_, by simp⟩
    simp only [List.mapM_cons, hfirst, hothers, bind, Except.bind, pure, Except.pure]

theorem differentiation_ok (candidate : ProductSpec) :
    ∀ text ∈ differentiation candidate, ∃ accepted, nonEmpty text = .ok accepted := by
  intro text htext
  simp only [differentiation, List.mem_cons, List.not_mem_nil, or_false] at htext
  rcases htext with rfl | rfl | rfl | rfl | rfl
  · exact nonEmpty_cons (c := 'I') (by decide) _
  · exact nonEmpty_cons (c := 'C') (by decide) _
  · exact nonEmpty_cons (c := 'B') (by decide) _
  · exact nonEmpty_cons (c := 'F') (by decide) _
  · exact nonEmpty_cons (c := 'H') (by decide) _

theorem parse_ok {r : DedupeFields} (h : validateOutcome r = .ok ()) :
    DedupeResult.parse r = .ok ⟨r, h⟩ := by
  unfold DedupeResult.parse
  split
  · rfl
  · next message herror =>
      rw [h] at herror
      cases herror

theorem compared_sublist (candidate : ProductSpec) (specs : List ProductSpec) :
    (compared candidate specs).Sublist (specs.map ProductSpec.specId) :=
  List.filter_sublist.map _

theorem not_mem_compared (candidate : ProductSpec) (specs : List ProductSpec) :
    candidate.specId ∉ compared candidate specs := by
  intro hmem
  obtain ⟨existing, hexisting, heq⟩ := List.mem_map.mp hmem
  have hne := (List.mem_filter.mp hexisting).2
  exact of_decide_eq_true hne heq

/-- The fields of the result pass `validate_outcome`. -/
theorem validateOutcome_ok (candidate : ProductSpec) (ruleVersion normalizedTitle : TrimmedText)
    {comparedSpecIds : List Uuid} {collisions : List DedupeCollision} {evidence : List TrimmedText}
    (hnodup : comparedSpecIds.Nodup) (hself : candidate.specId ∉ comparedSpecIds)
    (hall : ∀ collision ∈ collisions, ∃ existing ∈ comparedSpecIds, Accepted existing collision)
    (hpass : collisions = [] → comparedSpecIds ≠ [] → evidence ≠ [])
    (hclose : collisions ≠ [] → evidence = []) :
    validateOutcome
      (resultFields candidate ruleVersion normalizedTitle comparedSpecIds collisions evidence) =
        .ok () := by
  have hunit : ¬ ¬ ((0 : ℚ) ≤ 7 / 10 ∧ (7 : ℚ) / 10 ≤ 1) := by norm_num
  have hpositive : ¬ (7 : ℚ) / 10 ≤ 0 := by norm_num
  have hcollisions := validateCollisions_ok hall
  simp only [validateOutcome, resultFields, shortest_threshold, if_neg hunit, if_neg hpositive,
    if_neg (not_not_intro hnodup), if_neg hself, hcollisions, bind, Except.bind]
  by_cases hempty : collisions = []
  · have hevidence : ¬ (comparedSpecIds ≠ [] ∧ evidence = []) := by
      rintro ⟨hcompared, hnone⟩
      exact hpass hempty hcompared hnone
    simp [hempty, hevidence]
  · simp [hempty, hclose hempty]

section Results

variable (tables : TitleTables) (clock : Uuid → Reason → Nat)

/-- The check against a catalogue calls the candidate too close. -/
def TooClose (candidate : ProductSpec) (specs : List ProductSpec) (ruleVersion : Text) : Prop :=
  ∃ r, checkDedupe tables clock candidate specs ruleVersion = .ok r ∧ r.outcome = .tooClose

/-- The outcome for a title that leaves something, against specs with distinct ids. -/
theorem checkDedupe_ok {candidate : ProductSpec} {specs : List ProductSpec} {ruleVersion : Text}
    (hnodup : (specs.map ProductSpec.specId).Nodup) (hversion : trim ruleVersion ≠ [])
    (htitle : normalizeTitle tables candidate.title.chars ≠ []) :
    ∃ r, checkDedupe tables clock candidate specs ruleVersion = .ok r ∧
      (r.outcome = .tooClose ↔ CollidesIn tables candidate specs) := by
  obtain ⟨collisions, hcompare, hnil, hall⟩ := compareAll_ok tables clock candidate specs
  have hversion' := nonEmpty_of_ne hversion
  have htitle' : ∃ normalizedTitle,
      nonEmpty (normalizeTitle tables candidate.title.chars) = .ok normalizedTitle :=
    ⟨_, nonEmpty_of_ne (trim_strip htitle)⟩
  obtain ⟨normalizedTitle, htitle'⟩ := htitle'
  have hevidence : ∃ accepted,
      (if collisions ≠ [] ∨ specs = [] then [] else differentiation candidate).mapM nonEmpty =
        .ok accepted ∧ (accepted = [] ↔ collisions ≠ [] ∨ specs = []) := by
    by_cases hempty : collisions ≠ [] ∨ specs = []
    · rw [if_pos hempty]
      exact ⟨[], rfl, by simpa using hempty⟩
    · rw [if_neg hempty]
      obtain ⟨accepted, haccepted, hiff⟩ := mapM_nonEmpty (differentiation_ok candidate)
      refine ⟨accepted, haccepted, ?_⟩
      rw [hiff]
      simpa [differentiation] using hempty
  obtain ⟨evidence, hmapM, hevidenceNil⟩ := hevidence
  have hvalid := validateOutcome_ok candidate ⟨trim ruleVersion, hversion, trim_trim ruleVersion⟩
    normalizedTitle (hnodup.sublist (compared_sublist candidate specs))
    (not_mem_compared candidate specs) hall
    (by
      intro hempty hcompared hnone
      rcases hevidenceNil.mp hnone with hne | hspecs
      · exact hne hempty
      · rw [hspecs] at hcompared
        exact hcompared rfl)
    (fun hclose => hevidenceNil.mpr (Or.inl hclose))
  refine ⟨⟨_, hvalid⟩, ?_, ?_⟩
  · simp only [checkDedupe, hcompare, hversion', htitle', hmapM, bind, Except.bind]
    exact parse_ok hvalid
  · by_cases hempty : collisions = []
    · simp [resultFields, hempty, hnil.mp hempty]
    · have hcollides := (not_iff_not.mpr hnil).mp hempty
      simp [resultFields, hempty, not_not.mp hcollides]

/-- A blank version or a title of punctuation is refused. -/
theorem checkDedupe_error {candidate : ProductSpec} {specs : List ProductSpec} {ruleVersion : Text}
    (h : trim ruleVersion = [] ∨ normalizeTitle tables candidate.title.chars = []) :
    checkDedupe tables clock candidate specs ruleVersion =
      .error (lit "String should have at least 1 character") := by
  obtain ⟨collisions, hcompare, -, -⟩ := compareAll_ok tables clock candidate specs
  by_cases hversion : trim ruleVersion = []
  · simp only [checkDedupe, hcompare, nonEmpty_blank hversion, bind, Except.bind]
  · have htitle : trim (normalizeTitle tables candidate.title.chars) = [] := by
      rw [h.resolve_left hversion]
      rfl
    simp only [checkDedupe, hcompare, nonEmpty_of_ne hversion, nonEmpty_blank htitle, bind, Except.bind]

/-- When a candidate is too close. -/
theorem tooClose_iff {candidate : ProductSpec} {specs : List ProductSpec} {ruleVersion : Text}
    (hnodup : (specs.map ProductSpec.specId).Nodup) :
    TooClose tables clock candidate specs ruleVersion ↔
      trim ruleVersion ≠ [] ∧ normalizeTitle tables candidate.title.chars ≠ [] ∧
        CollidesIn tables candidate specs := by
  by_cases hrefused : trim ruleVersion = [] ∨ normalizeTitle tables candidate.title.chars = []
  · constructor
    · rintro ⟨r, hcheck, -⟩
      rw [checkDedupe_error tables clock hrefused] at hcheck
      cases hcheck
    · rintro ⟨hversion, htitle, -⟩
      rcases hrefused with hblank | hempty
      · exact absurd hblank hversion
      · exact absurd hempty htitle
  · rw [not_or] at hrefused
    obtain ⟨r, hcheck, houtcome⟩ := checkDedupe_ok tables clock hnodup hrefused.1 hrefused.2
    constructor
    · rintro ⟨r', hcheck', houtcome'⟩
      rw [hcheck] at hcheck'
      cases hcheck'
      exact ⟨hrefused.1, hrefused.2, houtcome.mp houtcome'⟩
    · rintro ⟨-, -, hcollides⟩
      exact ⟨r, hcheck, houtcome.mpr hcollides⟩

end Results

/-! ## Exactness -/

section Exactness

variable (tables : TitleTables) (clock : Uuid → Reason → Nat)

/-- Specs with distinct ids. -/
abbrev Catalogue := Table ProductSpec ProductSpec.specId

/-- Identity and category are the same up to case, the titles share seven tenths of their words, or the
fingerprint is the same. -/
def Matches (candidate existing : ProductSpec) : Prop :=
  (tables.casefold candidate.identity.chars = tables.casefold existing.identity.chars ∧
    tables.casefold candidate.baseCategory.chars = tables.casefold existing.baseCategory.chars) ∨
  7 / 10 ≤ titleIndex tables candidate existing ∨
  candidate.conceptFingerprint.text = existing.conceptFingerprint.text

/-- Some spec other than the candidate matches it. -/
def MatchesIn (candidate : ProductSpec) (specs : List ProductSpec) : Prop :=
  ∃ existing ∈ specs, existing.specId ≠ candidate.specId ∧ Matches tables candidate existing

/-- What only looks like a match: texts that differ in the separators at their ends, or an index that is
rounded up to the threshold. -/
def NearlyMatches (candidate existing : ProductSpec) : Prop :=
  (normalForm tables candidate.identity.chars = normalForm tables existing.identity.chars ∧
    normalForm tables candidate.baseCategory.chars = normalForm tables existing.baseCategory.chars ∧
      ¬ (tables.casefold candidate.identity.chars = tables.casefold existing.identity.chars ∧
        tables.casefold candidate.baseCategory.chars = tables.casefold existing.baseCategory.chars)) ∨
  titleIndex tables candidate existing < 7 / 10 ∧
    Binary64.round (7 / 10) ≤ Binary64.round (titleIndex tables candidate existing)

/-- A collision is a match, or nearly one. -/
theorem collides_iff (candidate existing : ProductSpec) :
    Collides tables candidate existing ↔
      Matches tables candidate existing ∨ NearlyMatches tables candidate existing := by
  have hindex := (jaccardIndex_bounds (titleTokens tables candidate) (titleTokens tables existing)).1
  constructor
  · rintro (hidentity | htitle | hconcept)
    · obtain ⟨hidentity, hcategory⟩ := of_decide_eq_true hidentity
      by_cases hsame :
          tables.casefold candidate.identity.chars = tables.casefold existing.identity.chars ∧
            tables.casefold candidate.baseCategory.chars = tables.casefold existing.baseCategory.chars
      · exact Or.inl (Or.inl hsame)
      · exact Or.inr (Or.inl ⟨hidentity, hcategory, hsame⟩)
    · have hthreshold := of_decide_eq_true htitle
      rw [similarity_eq] at hthreshold
      rcases le_or_gt (7 / 10) (titleIndex tables candidate existing) with hexact | hbelow
      · exact Or.inl (Or.inr (Or.inl hexact))
      · exact Or.inr (Or.inr ⟨hbelow, hthreshold⟩)
    · exact Or.inl (Or.inr (Or.inr (of_decide_eq_true hconcept)))
  · rintro ((⟨hidentity, hcategory⟩ | hexact | hconcept) | ⟨hidentity, hcategory, -⟩ | ⟨-, hrounded⟩)
    · left
      apply decide_eq_true
      unfold normalForm
      exact ⟨congrArg strip hidentity, congrArg strip hcategory⟩
    · right
      left
      apply decide_eq_true
      rw [similarity_eq]
      exact Binary64.round_mono hexact hindex
    · exact Or.inr (Or.inr (decide_eq_true hconcept))
    · exact Or.inl (decide_eq_true ⟨hidentity, hcategory⟩)
    · right
      left
      apply decide_eq_true
      rw [similarity_eq]
      exact hrounded

/-- The outcome, when there is one. -/
def outcomeOf (candidate : ProductSpec) (specs : List ProductSpec) (ruleVersion : Text) :
    Option Outcome :=
  match checkDedupe tables clock candidate specs ruleVersion with
  | .ok r => some r.outcome
  | .error _ => none

/-- The check is total and exact: it returns a result, the outcome says whether there is a match, and it
depends neither on the order of the catalogue nor on who is compared with whom, and stays with more. -/
structure DedupeExact (candidate : ProductSpec) (catalogue : Catalogue) (ruleVersion : Text) :
    Prop where
  exact : ∃ r, checkDedupe tables clock candidate catalogue.rows ruleVersion = .ok r ∧
    (r.outcome = .tooClose ↔ MatchesIn tables candidate catalogue.rows)
  permuted : ∀ other : Catalogue, other.rows.Perm catalogue.rows →
    outcomeOf tables clock candidate other.rows ruleVersion =
      outcomeOf tables clock candidate catalogue.rows ruleVersion
  monotone : ∀ larger : Catalogue, catalogue.rows ⊆ larger.rows →
    TooClose tables clock candidate catalogue.rows ruleVersion →
      TooClose tables clock candidate larger.rows ruleVersion
  symmetric : ∀ existing ∈ catalogue.rows,
    (TooClose tables clock candidate [existing] ruleVersion ↔
      TooClose tables clock existing [candidate] ruleVersion)

/-- When it is: the candidate's title leaves something besides punctuation, the version is not blank, and
no spec only looks like a match or collides with a title of punctuation. -/
structure DedupeWhen (candidate : ProductSpec) (catalogue : Catalogue) (ruleVersion : Text) :
    Prop where
  version : trim ruleVersion ≠ []
  title : normalizeTitle tables candidate.title.chars ≠ []
  matched : ∀ existing ∈ catalogue.rows, existing.specId ≠ candidate.specId →
    NearlyMatches tables candidate existing → MatchesIn tables candidate catalogue.rows
  titles : ∀ existing ∈ catalogue.rows, existing.specId ≠ candidate.specId →
    Collides tables candidate existing → normalizeTitle tables existing.title.chars ≠ []

theorem collidesIn_singleton (candidate existing : ProductSpec) :
    CollidesIn tables candidate [existing] ↔
      existing.specId ≠ candidate.specId ∧ Collides tables candidate existing := by
  simp [CollidesIn]

/-- A collision is found in any order and in any larger catalogue. -/
theorem CollidesIn.mono {candidate : ProductSpec} {specs more : List ProductSpec}
    (h : CollidesIn tables candidate specs) (hsub : specs ⊆ more) :
    CollidesIn tables candidate more := by
  obtain ⟨existing, hexisting, hne, hcollides⟩ := h
  exact ⟨existing, hsub hexisting, hne, hcollides⟩

theorem outcomeOf_perm {candidate : ProductSpec} {catalogue other : Catalogue} (ruleVersion : Text)
    (hperm : other.rows.Perm catalogue.rows) :
    outcomeOf tables clock candidate other.rows ruleVersion =
      outcomeOf tables clock candidate catalogue.rows ruleVersion := by
  by_cases hrefused : trim ruleVersion = [] ∨ normalizeTitle tables candidate.title.chars = []
  · simp only [outcomeOf, checkDedupe_error tables clock hrefused]
  · rw [not_or] at hrefused
    obtain ⟨r, hcheck, houtcome⟩ :=
      checkDedupe_ok tables clock catalogue.nodup hrefused.1 hrefused.2
    obtain ⟨r', hcheck', houtcome'⟩ := checkDedupe_ok tables clock other.nodup hrefused.1 hrefused.2
    have hsame : CollidesIn tables candidate other.rows ↔ CollidesIn tables candidate catalogue.rows :=
      ⟨fun h => h.mono tables (List.Perm.subset hperm),
        fun h => h.mono tables (List.Perm.subset hperm.symm)⟩
    simp only [outcomeOf, hcheck, hcheck', Option.some.injEq]
    -- There are two outcomes, and they agree on one of them.
    rw [← houtcome, ← houtcome'] at hsame
    cases hr : r.outcome with
    | pass =>
      cases hr' : r'.outcome with
      | pass => rfl
      | tooClose => exact absurd (hsame.mp hr') (by rw [hr]; decide)
    | tooClose => exact hsame.mpr hr

theorem symmetric_iff {candidate existing : ProductSpec} {ruleVersion : Text}
    (hversion : trim ruleVersion ≠ []) (htitle : normalizeTitle tables candidate.title.chars ≠ []) :
    (TooClose tables clock candidate [existing] ruleVersion ↔
        TooClose tables clock existing [candidate] ruleVersion) ↔
      (existing.specId ≠ candidate.specId → Collides tables candidate existing →
        normalizeTitle tables existing.title.chars ≠ []) := by
  have hsingle : ∀ spec : ProductSpec, ([spec].map ProductSpec.specId).Nodup := by
    intro spec
    simp
  rw [tooClose_iff tables clock (hsingle existing), tooClose_iff tables clock (hsingle candidate),
    collidesIn_singleton, collidesIn_singleton]
  have hcollides : Collides tables existing candidate ↔ Collides tables candidate existing :=
    ⟨fun h => h.symm, fun h => h.symm⟩
  rw [hcollides, ne_comm]
  tauto

/-- The check is total and exact exactly in these cases. -/
theorem dedupeExact_iff (candidate : ProductSpec) (catalogue : Catalogue) (ruleVersion : Text) :
    DedupeExact tables clock candidate catalogue ruleVersion ↔
      DedupeWhen tables candidate catalogue ruleVersion := by
  have hmatches : MatchesIn tables candidate catalogue.rows → CollidesIn tables candidate catalogue.rows := by
    rintro ⟨existing, hexisting, hne, hmatch⟩
    exact ⟨existing, hexisting, hne, (collides_iff tables candidate existing).mpr (Or.inl hmatch)⟩
  constructor
  · intro h
    obtain ⟨r, hcheck, houtcome⟩ := h.exact
    have haccepted : ¬ (trim ruleVersion = [] ∨ normalizeTitle tables candidate.title.chars = []) := by
      intro hrefused
      rw [checkDedupe_error tables clock hrefused] at hcheck
      cases hcheck
    rw [not_or] at haccepted
    obtain ⟨hversion, htitle⟩ := haccepted
    obtain ⟨r', hcheck', houtcome'⟩ := checkDedupe_ok tables clock catalogue.nodup hversion htitle
    rw [hcheck] at hcheck'
    cases hcheck'
    refine ⟨hversion, htitle, ?_, ?_⟩
    · intro existing hexisting hne hnearly
      rw [← houtcome, houtcome']
      exact ⟨existing, hexisting, hne, (collides_iff tables candidate existing).mpr (Or.inr hnearly)⟩
    · intro existing hexisting
      exact (symmetric_iff tables clock hversion htitle).mp (h.symmetric existing hexisting)
  · intro h
    refine ⟨?_, ?_, ?_, ?_⟩
    · obtain ⟨r, hcheck, houtcome⟩ := checkDedupe_ok tables clock catalogue.nodup h.version h.title
      refine ⟨r, hcheck, houtcome.trans ⟨?_, hmatches⟩⟩
      rintro ⟨existing, hexisting, hne, hcollides⟩
      rcases (collides_iff tables candidate existing).mp hcollides with hmatch | hnearly
      · exact ⟨existing, hexisting, hne, hmatch⟩
      · exact h.matched existing hexisting hne hnearly
    · intro other hperm
      exact outcomeOf_perm tables clock ruleVersion hperm
    · intro larger hsub hclose
      obtain ⟨hversion, htitle, hcollides⟩ := (tooClose_iff tables clock catalogue.nodup).mp hclose
      exact (tooClose_iff tables clock larger.nodup).mpr
        ⟨hversion, htitle, hcollides.mono tables hsub⟩
    · intro existing hexisting
      exact (symmetric_iff tables clock h.version h.title).mpr (h.titles existing hexisting)

/-! ## A title of punctuation -/

/-- The tables over ASCII. -/
def TitleTables.ascii : TitleTables where
  nfkd := id
  casefold := List.map Char.toLower
  isAlnum := Char.isAlphanum

/-- A concept whose title has nothing but punctuation. -/
def punctuationSpec : ProductSpec where
  specId := 1
  workflowId := 2
  identity := ⟨lit "nurse", by decide, by decide⟩
  baseCategory := ⟨lit "planner", by decide, by decide⟩
  buyerProblem := ⟨lit "shifts", by decide, by decide⟩
  title := ⟨lit "!!!", by decide, by decide⟩
  hubs := [⟨lit "home", by decide, by decide⟩, ⟨lit "rota", by decide, by decide⟩,
    ⟨lit "notes", by decide, by decide⟩, ⟨lit "meals", by decide, by decide⟩,
    ⟨lit "money", by decide, by decide⟩]
  features := [⟨lit "tracker", by decide, by decide⟩]
  conceptFingerprint :=
    ⟨"0000000000000000000000000000000000000000000000000000000000000000", by decide, by decide⟩
  createdAt := 0

/-- It is refused even when there is no catalogue. -/
theorem punctuationSpec_refused :
    checkDedupe TitleTables.ascii (fun _ _ => 0) punctuationSpec [] (lit "1.0.0") =
        .error (lit "String should have at least 1 character") ∧
      ¬ DedupeExact TitleTables.ascii (fun _ _ => 0) punctuationSpec ⟨[], List.nodup_nil⟩
        (lit "1.0.0") := by
  have hcheck : checkDedupe TitleTables.ascii (fun _ _ => 0) punctuationSpec [] (lit "1.0.0") =
      .error (lit "String should have at least 1 character") :=
    checkDedupe_error TitleTables.ascii (fun _ _ => 0) (Or.inr (by decide))
  refine ⟨hcheck, fun hexact => ?_⟩
  obtain ⟨r, hok, -⟩ := hexact.exact
  rw [hcheck] at hok
  cases hok

end Exactness

end Dedupe
end Domain
end MoneyMachine
