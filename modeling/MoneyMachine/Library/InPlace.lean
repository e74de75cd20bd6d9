import Mathlib.Data.List.Range
import Mathlib.Data.List.GetD

/-!
# InPlace — a list that is rewritten from left to right

Each position is set in turn to a value that may depend on the whole list as it is then: on the positions
already rewritten and on the ones that are still to come.

* `rewrite`    : the loop;
* `rewrite_eq` : it makes a list when at each position, the ones before being those of that list already,
  it sets the value of that list.
-/

namespace MoneyMachine
namespace Library

variable {α : Type}

/-- Set the positions of a list from left to right. -/
def rewrite (value : List α → Nat → α) (row : List α) : List α :=
  (List.range row.length).foldl (fun row i => row.set i (value row i)) row

/-- The list when the positions before `i` are rewritten. -/
def rewritten (source target : List α) (i : Nat) : List α := target.take i ++ source.drop i

section Positions

variable {source target : List α} {i : Nat} {default : α}

/-- A position before is the one of the target. -/
theorem getD_rewritten_before {j : Nat} (hj : j < i) (hi : i ≤ target.length) :
    (rewritten source target i).getD j default = target.getD j default := by
  have hlength : j < (target.take i).length := by
    rw [List.length_take]
    exact Nat.lt_of_lt_of_le hj (le_min (Nat.le_refl i) hi)
  have hj' : j < target.length := Nat.lt_of_lt_of_le hj hi
  rw [rewritten, List.getD_append _ _ _ _ hlength, List.getD_eq_getElem _ _ hlength, List.getElem_take,
    List.getD_eq_getElem _ _ hj']

/-- The position itself is still the one of the source. -/
theorem getD_rewritten_self (hi : i ≤ target.length) :
    (rewritten source target i).getD i default = source.getD i default := by
  have hlength : (target.take i).length = i := by
    rw [List.length_take, min_eq_left hi]
  rw [rewritten, List.getD_append_right _ _ _ _ (by rw [hlength]), hlength, Nat.sub_self]
  simp only [List.getD_eq_getElem?_getD, List.getElem?_drop, Nat.add_zero]

/-- Setting the next position rewrites one more. -/
theorem set_rewritten (h : source.length = target.length) (hi : i < target.length) :
    (rewritten source target i).set i target[i] = rewritten source target (i + 1) := by
  have hlength : (target.take i).length = i := by
    rw [List.length_take, min_eq_left hi.le]
  have hsource : i < source.length := by rwa [h]
  rw [rewritten, rewritten, List.set_append_right _ _ (by rw [hlength]), hlength, Nat.sub_self,
    List.drop_eq_getElem_cons hsource, List.set_cons_zero, List.take_succ_eq_append_getElem hi,
    List.append_assoc]
  rfl

end Positions

/-- The loop makes the target, position by position. -/
theorem rewrite_eq {value : List α → Nat → α} {source target : List α}
    (hlength : source.length = target.length)
    (hvalue : ∀ (i : Nat) (hi : i < target.length), value (rewritten source target i) i = target[i]) :
    rewrite value source = target := by
  have hloop : ∀ n ≤ target.length,
      (List.range n).foldl (fun row i => row.set i (value row i)) source = rewritten source target n := by
    intro n hn
    induction n with
    | zero => rfl
    | succ n ih =>
      rw [List.range_succ, List.foldl_append, ih (Nat.le_of_succ_le hn), List.foldl_cons, List.foldl_nil,
        hvalue n hn, set_rewritten hlength hn]
  rw [rewrite, hlength, hloop target.length (Nat.le_refl _), rewritten, List.take_length, ← hlength,
    List.drop_length, List.append_nil]

end Library
end MoneyMachine
