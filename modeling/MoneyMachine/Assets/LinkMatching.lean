import Mathlib.Data.List.Basic
import Mathlib.Data.List.Range

/-!
# LinkMatching — the links of a PDF against the accepted links

As many links as were accepted, or more, are compared by position; fewer are aligned from the left with
the accepted ones, and an accepted link that nothing was paired with is missing.

* `align_missing`  : the missing indices are those without a pair;
* `align_complete` : a subsequence of the accepted links is paired whole;
* `matched_iff`    : nothing is missing and every link is paired exactly when the two lists are equal.
-/

namespace MoneyMachine
namespace Assets
namespace LinkMatching

variable {α : Type} [DecidableEq α]

/-- The pairs, each a link and an accepted link, and the missing accepted links, by index. -/
structure Matching where
  pairs : List (Nat × Nat)
  missing : List Nat
  deriving DecidableEq, Repr

/-- The loop over the accepted links: `cursor` and `index` are the places of the two lists. -/
@[simp]
def align (cursor index : Nat) : List α → List α → Matching
  | _, [] => ⟨[], []⟩
  | [], _ :: expected =>
    let rest := align cursor (index + 1) [] expected
    ⟨rest.pairs, index :: rest.missing⟩
  | uri :: uris, accepted :: expected =>
    if uri = accepted then
      let rest := align (cursor + 1) (index + 1) uris expected
      ⟨(cursor, index) :: rest.pairs, rest.missing⟩
    else
      let rest := align cursor (index + 1) (uri :: uris) expected
      ⟨rest.pairs, index :: rest.missing⟩

/-- The places where two lists agree. -/
def positional (uris expected : List α) : List (Nat × Nat) :=
  ((List.range (min uris.length expected.length)).filter (fun i => uris[i]? = expected[i]?)).map
    (fun i => (i, i))

/-- `_match`. -/
def matchUris (uris expected : List α) : Matching :=
  if uris.length < expected.length then align 0 0 uris expected else ⟨positional uris expected, []⟩

/-! ## The alignment -/

section Align

variable {uris expected : List α}

/-- The pairs lie behind the two places, in the order of both lists. -/
theorem align_bounds (cursor index : Nat) :
    ∀ p ∈ (align cursor index uris expected).pairs, cursor ≤ p.1 ∧ index ≤ p.2 := by
  induction expected generalizing cursor index uris with
  | nil => cases uris <;> simp
  | cons accepted expected ih =>
    cases uris with
    | nil =>
      intro p hp
      obtain ⟨hcursor, hindex⟩ := @ih [] cursor (index + 1) p hp
      exact ⟨hcursor, Nat.le_of_succ_le hindex⟩
    | cons uri uris =>
      rw [align]
      split
      · intro p hp
        rcases List.mem_cons.mp hp with rfl | hp
        · exact ⟨Nat.le_refl _, Nat.le_refl _⟩
        · obtain ⟨hcursor, hindex⟩ := ih (cursor + 1) (index + 1) p hp
          exact ⟨Nat.le_of_succ_le hcursor, Nat.le_of_succ_le hindex⟩
      · intro p hp
        obtain ⟨hcursor, hindex⟩ := ih cursor (index + 1) p hp
        exact ⟨hcursor, Nat.le_of_succ_le hindex⟩

theorem align_increasing (cursor index : Nat) :
    (align cursor index uris expected).pairs.Pairwise (fun p q => p.1 < q.1 ∧ p.2 < q.2) := by
  induction expected generalizing cursor index uris with
  | nil => cases uris <;> simp
  | cons accepted expected ih =>
    cases uris with
    | nil => exact @ih [] cursor (index + 1)
    | cons uri uris =>
      rw [align]
      split
      · rw [List.pairwise_cons]
        refine ⟨?_, ih (cursor + 1) (index + 1)⟩
        intro p hp
        obtain ⟨hcursor, hindex⟩ := align_bounds (cursor + 1) (index + 1) p hp
        exact ⟨hcursor, hindex⟩
      · exact ih cursor (index + 1)

/-- A pair is of equal links. -/
theorem align_equal (before before' : List α) :
    ∀ p ∈ (align before.length before'.length uris expected).pairs,
      ∃ uri, (before ++ uris)[p.1]? = some uri ∧ (before' ++ expected)[p.2]? = some uri := by
  induction expected generalizing before before' uris with
  | nil => cases uris <;> simp
  | cons accepted expected ih =>
    have hstep' : before' ++ accepted :: expected = (before' ++ [accepted]) ++ expected := by simp
    have hlength' : (before' ++ [accepted]).length = before'.length + 1 := by simp
    cases uris with
    | nil =>
      rw [align, hstep', ← hlength']
      exact @ih [] before (before' ++ [accepted])
    | cons uri uris =>
      rw [align]
      split
      · rename_i heq
        intro p hp
        rcases List.mem_cons.mp hp with rfl | hp
        · exact ⟨uri, by simp, by simp [heq]⟩
        · have hstep : before ++ uri :: uris = (before ++ [uri]) ++ uris := by simp
          have hlength : (before ++ [uri]).length = before.length + 1 := by simp
          rw [hstep, hstep']
          rw [← hlength, ← hlength'] at hp
          exact ih (before ++ [uri]) (before' ++ [accepted]) p hp
      · intro p hp
        rw [← hlength'] at hp
        rw [hstep']
        exact ih before (before' ++ [accepted]) p hp

/-- The missing indices are those without a pair, in order. -/
theorem align_missing (cursor index : Nat) :
    (align cursor index uris expected).missing =
      (List.range' index expected.length).filter
        (fun j => decide (j ∉ (align cursor index uris expected).pairs.map Prod.snd)) := by
  induction expected generalizing cursor index uris with
  | nil => cases uris <;> rfl
  | cons accepted expected ih =>
    -- The pairs of the rest lie behind this index.
    have hlater : ∀ (cursor : Nat) (uris : List α),
        index ∉ (align cursor (index + 1) uris expected).pairs.map Prod.snd := by
      intro cursor uris hmem
      obtain ⟨p, hp, hindex⟩ := List.mem_map.mp hmem
      have hbound := (align_bounds cursor (index + 1) p hp).2
      rw [hindex] at hbound
      exact absurd hbound (Nat.not_succ_le_self index)
    rw [List.length_cons, List.range'_succ, List.filter_cons]
    cases uris with
    | nil =>
      rw [align]
      simp only [hlater, not_false_eq_true, decide_true, if_true]
      rw [@ih [] cursor (index + 1)]
    | cons uri uris =>
      rw [align]
      split
      · rw [ih (cursor + 1) (index + 1)]
        simp only [List.map_cons, List.mem_cons, true_or, not_true, decide_false,
          Bool.false_eq_true, if_false]
        apply List.filter_congr
        intro j hj
        have hne : j ≠ index := by
          have hbound := (List.mem_range'_1.mp hj).1
          exact Nat.ne_of_gt hbound
        simp [hne]
      · simp only [hlater, not_false_eq_true, decide_true, if_true]
        rw [ih cursor (index + 1)]

/-- A subsequence is paired whole. -/
theorem align_complete (cursor index : Nat) (h : uris.Sublist expected) :
    (align cursor index uris expected).pairs.map Prod.fst = List.range' cursor uris.length := by
  induction expected generalizing cursor index uris with
  | nil =>
    rw [List.sublist_nil.mp h]
    rfl
  | cons accepted expected ih =>
    cases uris with
    | nil =>
      have hrest := @ih [] cursor (index + 1) (List.nil_sublist _)
      exact hrest
    | cons uri uris =>
      rw [align]
      split
      · rename_i heq
        subst heq
        rw [List.map_cons, ih (cursor + 1) (index + 1) (List.cons_sublist_cons.mp h),
          List.length_cons, List.range'_succ]
      · rename_i hne
        exact ih cursor (index + 1) (h.of_cons_of_ne hne)

end Align

/-! ## The matching -/

section Match

variable {uris expected : List α}

/-- Every link is paired. -/
def Paired (uris : List α) (found : Matching) : Prop :=
  ∀ i < uris.length, ∃ j, (i, j) ∈ found.pairs

theorem mem_positional {p : Nat × Nat} :
    p ∈ positional uris expected ↔
      p.1 = p.2 ∧ p.1 < uris.length ∧ p.1 < expected.length ∧ uris[p.1]? = expected[p.1]? := by
  obtain ⟨i, j⟩ := p
  simp only [positional, List.mem_map, List.mem_filter, List.mem_range, Nat.lt_min,
    decide_eq_true_eq, Prod.mk.injEq]
  constructor
  · rintro ⟨k, ⟨⟨hu, he⟩, heq⟩, rfl, rfl⟩
    exact ⟨rfl, hu, he, heq⟩
  · rintro ⟨rfl, hu, he, heq⟩
    exact ⟨i, ⟨⟨hu, he⟩, heq⟩, rfl, rfl⟩

/-- A shorter list leaves something missing. -/
theorem align_missing_ne_nil (cursor index : Nat) (h : uris.length < expected.length) :
    (align cursor index uris expected).missing ≠ [] := by
  induction expected generalizing cursor index uris with
  | nil => exact absurd h (Nat.not_lt_zero _)
  | cons accepted expected ih =>
    cases uris with
    | nil => exact List.cons_ne_nil _ _
    | cons uri uris =>
      rw [align]
      split
      · exact ih (cursor + 1) (index + 1) (Nat.lt_of_succ_lt_succ h)
      · exact List.cons_ne_nil _ _

/-- Nothing is missing and every link is paired exactly when the lists are equal. -/
theorem matched_iff :
    ((matchUris uris expected).missing = [] ∧ Paired uris (matchUris uris expected)) ↔
      uris = expected := by
  constructor
  · rintro ⟨hmissing, hpaired⟩
    unfold matchUris at hmissing hpaired
    split at hmissing
    · rename_i hshort
      exact absurd hmissing (align_missing_ne_nil 0 0 hshort)
    · rename_i hlong
      rw [if_neg hlong] at hpaired
      -- Every link has its own index for a partner, so no list is longer.
      have hpair : ∀ i < uris.length, i < expected.length ∧ uris[i]? = expected[i]? := by
        intro i hi
        obtain ⟨j, hj⟩ := hpaired i hi
        obtain ⟨-, -, hlt, heq⟩ := mem_positional.mp hj
        exact ⟨hlt, heq⟩
      have hlength : uris.length = expected.length := by
        apply Nat.le_antisymm _ (Nat.not_lt.mp hlong)
        by_contra hgt
        have hlast := (hpair expected.length (Nat.not_le.mp hgt)).1
        exact absurd hlast (Nat.lt_irrefl _)
      apply List.ext_getElem?
      intro i
      by_cases hi : i < uris.length
      · exact (hpair i hi).2
      · rw [List.getElem?_eq_none (Nat.not_lt.mp hi),
          List.getElem?_eq_none (by rw [← hlength]; exact Nat.not_lt.mp hi)]
  · rintro rfl
    unfold matchUris
    rw [if_neg (Nat.lt_irrefl _)]
    exact ⟨rfl, fun i hi => ⟨i, mem_positional.mpr ⟨rfl, hi, hi, rfl⟩⟩⟩

end Match

end LinkMatching
end Assets
end MoneyMachine
