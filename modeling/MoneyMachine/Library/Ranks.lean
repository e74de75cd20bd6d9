import Mathlib.Data.List.Sort
import Mathlib.Order.Lattice
import Mathlib.Data.List.Count

/-!
# Ranks — the lowest of several values

A value is the `k`-th lowest of a list when fewer than `k` values are below it and at least `k` are at or
below it.  There is one such value for each `k` up to the length, and a sorted list has it at its place.

* `isLowest_of_sorted` : a sorted list has the `k`-th lowest at index `k - 1`;
* `IsLowest.unique`    : there is only one;
* `IsLowest.below`     : fewer than `k` values are strictly below it.
-/

namespace MoneyMachine
namespace Library

variable {α : Type} [LinearOrder α]

/-- `s` is the `k`-th lowest of several values, counted from one. -/
structure IsLowest (values : List α) (k : Nat) (s : α) : Prop where
  mem : s ∈ values
  below : values.countP (fun v => decide (v < s)) < k
  upTo : k ≤ values.countP (fun v => decide (v ≤ s))

namespace IsLowest

variable {values others : List α} {k : Nat} {s t : α}

theorem perm (hperm : values.Perm others) (h : IsLowest values k s) : IsLowest others k s where
  mem := hperm.mem_iff.mp h.mem
  below := by
    rw [← hperm.countP_eq]
    exact h.below
  upTo := by
    rw [← hperm.countP_eq]
    exact h.upTo

/-- Of two candidates neither is below the other. -/
theorem unique (hs : IsLowest values k s) (ht : IsLowest values k t) : s = t := by
  have hnot : ∀ {s t : α}, IsLowest values k s → IsLowest values k t → ¬ s < t := by
    intro s t hs ht hlt
    -- Everything up to `s` is below `t`.
    have hle : values.countP (fun v => decide (v ≤ s)) ≤ values.countP (fun v => decide (v < t)) := by
      apply List.countP_mono_left
      intro v _ hv
      simp only [decide_eq_true_eq] at hv ⊢
      exact lt_of_le_of_lt hv hlt
    exact absurd (lt_of_le_of_lt (le_trans hs.upTo hle) ht.below) (lt_irrefl k)
  exact le_antisymm (not_lt.mp (hnot ht hs)) (not_lt.mp (hnot hs ht))

end IsLowest

/-- A sorted list has its lowest values in front. -/
theorem isLowest_of_sorted {values : List α} (hsorted : values.Pairwise (· ≤ ·)) {i : Nat} {s : α}
    (h : values[i]? = some s) : IsLowest values (i + 1) s := by
  obtain ⟨hi, hs⟩ := List.getElem?_eq_some_iff.mp h
  have hpair := List.pairwise_iff_getElem.mp hsorted
  have hcount : ∀ p : α → Bool, values.countP p = (values.take i).countP p + (values.drop i).countP p := by
    intro p
    rw [← List.countP_append, List.take_append_drop]
  refine ⟨hs ▸ List.getElem_mem hi, ?_, ?_⟩
  · -- From the place on nothing is below.
    have hnone : (values.drop i).countP (fun v => decide (v < s)) = 0 := by
      rw [List.countP_eq_zero]
      intro v hv
      obtain ⟨j, hj, rfl⟩ := List.getElem_of_mem hv
      rw [List.getElem_drop, decide_eq_true_eq, not_lt, ← hs]
      rcases Nat.eq_zero_or_pos j with rfl | hpos
      · exact le_refl _
      · exact hpair i (i + j) hi (by rw [List.length_drop] at hj; omega) (Nat.lt_add_of_pos_right hpos)
    rw [hcount, hnone, Nat.add_zero]
    have hle := List.countP_le_length (l := values.take i) (p := fun v => decide (v < s))
    rw [List.length_take] at hle
    omega
  · -- Up to the place everything is at or below.
    have hall : ∀ v ∈ values.take (i + 1), decide (v ≤ s) = true := by
      intro v hv
      obtain ⟨j, hj, rfl⟩ := List.getElem_of_mem hv
      rw [List.length_take] at hj
      rw [List.getElem_take, decide_eq_true_eq, ← hs]
      rcases Nat.lt_or_ge j i with hlt | hge
      · exact hpair j i (by omega) hi hlt
      · have hji : j = i := by omega
        subst hji
        exact le_refl _
    have hlength : (values.take (i + 1)).countP (fun v => decide (v ≤ s)) = i + 1 := by
      rw [List.countP_eq_length.mpr hall, List.length_take]
      omega
    calc i + 1 = (values.take (i + 1)).countP (fun v => decide (v ≤ s)) := hlength.symm
      _ ≤ values.countP (fun v => decide (v ≤ s)) := (List.take_sublist (i + 1) values).countP_le

end Library
end MoneyMachine
