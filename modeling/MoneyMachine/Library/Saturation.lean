import Mathlib.Data.Finset.Insert
import Mathlib.Order.Bounds.Basic

/-!
# Saturation — marking keys in sweeps until a sweep marks nothing

A sweep goes over pending items, marks the key of each item that fires and keeps the others for the next
sweep.  What an item fires on are the keys marked so far, the ones of the running sweep included, so the
sweeps depend on the order of the items; what they end with does not: it is the least set of keys closed
under the rule.

* `sweep`, `saturate`  : one sweep, and the sweeps until one marks nothing;
* `Closed`             : no item fires on keys of the set without its own key being in it;
* `saturate_isLeast`   : the sweeps end with the least closed set.
-/

namespace MoneyMachine
namespace Library
namespace Saturation

variable {α κ : Type} [DecidableEq κ]

/-- What one sweep leaves. -/
structure Sweep (α κ : Type) where
  rest : List α
  marked : Finset κ
  progressed : Bool

section Sweeps

variable (fires : Finset κ → α → Bool) (key : α → κ)

/-- One sweep over the pending items; a mark is seen by the items after it. -/
def sweep : List α → Finset κ → Sweep α κ
  | [], marked => ⟨[], marked, false⟩
  | item :: pending, marked =>
    if fires marked item then
      { sweep pending (insert (key item) marked) with progressed := true }
    else
      let later := sweep pending marked
      { later with rest := item :: later.rest }

end Sweeps

variable {fires : Finset κ → α → Bool} {key : α → κ}

theorem sweep_fires {item : α} {pending : List α} {marked : Finset κ} (h : fires marked item = true) :
    sweep fires key (item :: pending) marked =
      { sweep fires key pending (insert (key item) marked) with progressed := true } := by
  simp only [sweep, h, if_true]

theorem sweep_keeps {item : α} {pending : List α} {marked : Finset κ} (h : fires marked item = false) :
    sweep fires key (item :: pending) marked =
      { sweep fires key pending marked with rest := item :: (sweep fires key pending marked).rest } := by
  simp [sweep, h]

theorem sweep_rest_le (pending : List α) (marked : Finset κ) :
    (sweep fires key pending marked).rest.length ≤ pending.length := by
  induction pending generalizing marked with
  | nil => exact Nat.le_refl 0
  | cons item pending ih =>
    cases h : fires marked item with
    | true =>
      rw [sweep_fires h]
      exact Nat.le_succ_of_le (ih _)
    | false =>
      rw [sweep_keeps h]
      exact Nat.succ_le_succ (ih _)

/-- A sweep that marked something has fewer items left. -/
theorem sweep_rest_lt (pending : List α) (marked : Finset κ)
    (h : (sweep fires key pending marked).progressed = true) :
    (sweep fires key pending marked).rest.length < pending.length := by
  induction pending generalizing marked with
  | nil => cases h
  | cons item pending ih =>
    cases hfires : fires marked item with
    | true =>
      rw [sweep_fires hfires]
      exact Nat.lt_succ_of_le (sweep_rest_le pending _)
    | false =>
      rw [sweep_keeps hfires] at h ⊢
      exact Nat.succ_lt_succ (ih marked h)

section Sweeps

variable (fires : Finset κ → α → Bool) (key : α → κ)

/-- Sweeps until one marks nothing; the keys marked then. -/
def saturate (pending : List α) (marked : Finset κ) : Finset κ :=
  let swept := sweep fires key pending marked
  if _h : swept.progressed = true then saturate swept.rest swept.marked else swept.marked
termination_by pending.length
decreasing_by exact sweep_rest_lt pending marked _h

/-- More marks only make more items fire. -/
def Growing (fires : Finset κ → α → Bool) : Prop :=
  ∀ (marked marked' : Finset κ) (item : α), marked ⊆ marked' →
    fires marked item = true → fires marked' item = true

/-- No item fires on keys of the set without having its own key in the set. -/
def Closed (items : List α) (keys : Set κ) : Prop :=
  ∀ item ∈ items, ∀ marked : Finset κ, ↑marked ⊆ keys → fires marked item = true → key item ∈ keys

end Sweeps

omit [DecidableEq κ] in
/-- What is closed does not depend on the order of the items. -/
theorem Closed.perm {items items' : List α} {keys : Set κ} (hperm : items.Perm items')
    (h : Closed fires key items keys) : Closed fires key items' keys := by
  intro item hitem
  exact h item (hperm.mem_iff.mpr hitem)

/-! ## One sweep -/

section OneSweep

variable {items pending : List α} {marked : Finset κ}

/-- A sweep only adds marks. -/
theorem marked_subset_sweep : marked ⊆ (sweep fires key pending marked).marked := by
  induction pending generalizing marked with
  | nil => exact Finset.Subset.refl _
  | cons item pending ih =>
    cases h : fires marked item with
    | true =>
      rw [sweep_fires h]
      exact (Finset.subset_insert _ _).trans ih
    | false =>
      rw [sweep_keeps h]
      exact ih

/-- A sweep stays inside every closed set. -/
theorem sweep_sound {keys : Set κ} (hclosed : Closed fires key items keys)
    (hpending : ∀ item ∈ pending, item ∈ items) (hmarked : ↑marked ⊆ keys) :
    ↑(sweep fires key pending marked).marked ⊆ keys := by
  induction pending generalizing marked with
  | nil => exact hmarked
  | cons item pending ih =>
    have hitem := hpending item List.mem_cons_self
    have hrest : ∀ other ∈ pending, other ∈ items := by
      intro other hother
      exact hpending other (List.mem_cons_of_mem _ hother)
    cases h : fires marked item with
    | true =>
      rw [sweep_fires h]
      apply ih hrest
      rw [Finset.coe_insert]
      exact Set.insert_subset (hclosed item hitem marked hmarked h) hmarked
    | false =>
      rw [sweep_keeps h]
      exact ih hrest hmarked

/-- Every pending item is kept or has its key marked, and only pending items are kept. -/
theorem sweep_accounts :
    (∀ item ∈ pending, item ∈ (sweep fires key pending marked).rest ∨
      key item ∈ (sweep fires key pending marked).marked) ∧
    ∀ item ∈ (sweep fires key pending marked).rest, item ∈ pending := by
  induction pending generalizing marked with
  | nil => exact ⟨fun _ h => absurd h List.not_mem_nil, fun _ h => h⟩
  | cons first pending ih =>
    cases h : fires marked first with
    | true =>
      rw [sweep_fires h]
      refine ⟨?_, fun item hitem => List.mem_cons_of_mem _ (ih.2 item hitem)⟩
      intro item hitem
      rcases List.mem_cons.mp hitem with rfl | hlater
      · exact Or.inr (marked_subset_sweep (Finset.mem_insert_self _ _))
      · exact ih.1 item hlater
    | false =>
      rw [sweep_keeps h]
      constructor
      · intro item hitem
        rcases List.mem_cons.mp hitem with rfl | hlater
        · exact Or.inl List.mem_cons_self
        · exact (ih.1 item hlater).imp (List.mem_cons_of_mem _) id
      · intro item hitem
        rcases List.mem_cons.mp hitem with rfl | hlater
        · exact List.mem_cons_self
        · exact List.mem_cons_of_mem _ (ih.2 item hlater)

/-- A sweep that made no progress marked nothing, and nothing pending fires on the marks. -/
theorem sweep_idle (h : (sweep fires key pending marked).progressed = false) :
    (sweep fires key pending marked).marked = marked ∧ ∀ item ∈ pending, fires marked item = false := by
  induction pending with
  | nil => exact ⟨rfl, fun _ h => absurd h List.not_mem_nil⟩
  | cons first pending ih =>
    cases hfires : fires marked first with
    | true =>
      rw [sweep_fires hfires] at h
      cases h
    | false =>
      rw [sweep_keeps hfires] at h ⊢
      obtain ⟨hmarked, hnone⟩ := ih h
      refine ⟨hmarked, ?_⟩
      intro item hitem
      rcases List.mem_cons.mp hitem with rfl | hlater
      · exact hfires
      · exact hnone item hlater

end OneSweep

/-! ## All sweeps -/

/-- The sweeps stay inside every closed set. -/
theorem saturate_sound {items pending : List α} {marked : Finset κ} {keys : Set κ}
    (hclosed : Closed fires key items keys) (hpending : ∀ item ∈ pending, item ∈ items)
    (hmarked : ↑marked ⊆ keys) : ↑(saturate fires key pending marked) ⊆ keys := by
  induction pending, marked using saturate.induct fires key with
  | case1 pending marked swept h ih =>
    rw [saturate, dif_pos h]
    apply ih
    · intro item hitem
      exact hpending item (sweep_accounts.2 item hitem)
    · exact sweep_sound hclosed hpending hmarked
  | case2 pending marked swept h =>
    rw [saturate, dif_neg h]
    exact sweep_sound hclosed hpending hmarked

/-- The sweeps end closed when marks only make more items fire: an item is pending as long as its key is not
marked, and in the last sweep nothing pending fired. -/
theorem saturate_closed (hmono : Growing fires) {items pending : List α} {marked : Finset κ}
    (hcovers : ∀ item ∈ items, item ∈ pending ∨ key item ∈ marked) :
    Closed fires key items ↑(saturate fires key pending marked) := by
  induction pending, marked using saturate.induct fires key with
  | case1 pending marked swept h ih =>
    rw [saturate, dif_pos h]
    apply ih
    intro item hitem
    rcases hcovers item hitem with hpending | hmarked
    · exact sweep_accounts.1 item hpending
    · exact Or.inr (marked_subset_sweep hmarked)
  | case2 pending marked swept h =>
    rw [saturate, dif_neg h]
    obtain ⟨hmarked, hnone⟩ := sweep_idle (Bool.eq_false_iff.mpr h)
    rw [hmarked]
    intro item hitem others hothers hfires
    rcases hcovers item hitem with hpending | hkey
    · have htrue := hmono others marked item (Finset.coe_subset.mp hothers) hfires
      rw [hnone item hpending] at htrue
      cases htrue
    · exact hkey

/-- From no marks, the sweeps end with the least closed set. -/
theorem saturate_isLeast (hmono : Growing fires) (items : List α) :
    IsLeast {keys : Set κ | Closed fires key items keys} ↑(saturate fires key items ∅) := by
  constructor
  · exact saturate_closed hmono (fun item hitem => Or.inl hitem)
  · intro keys hclosed
    apply saturate_sound hclosed (fun item hitem => hitem)
    rw [Finset.coe_empty]
    exact Set.empty_subset _

/-- The sweeps over permuted items mark the same keys. -/
theorem saturate_perm (hmono : Growing fires) {items items' : List α}
    (hperm : items.Perm items') : saturate fires key items ∅ = saturate fires key items' ∅ := by
  have hleast := @saturate_isLeast _ _ _ fires key hmono items
  have hleast' := @saturate_isLeast _ _ _ fires key hmono items'
  have hsame : {keys : Set κ | Closed fires key items keys} =
      {keys : Set κ | Closed fires key items' keys} := by
    ext keys
    exact ⟨Closed.perm hperm, Closed.perm hperm.symm⟩
  rw [hsame] at hleast
  exact Finset.coe_injective (hleast.unique hleast')

end Saturation
end Library
end MoneyMachine
