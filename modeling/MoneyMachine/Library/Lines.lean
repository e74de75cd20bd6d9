import Mathlib.Data.List.Basic

/-!
# Lines — lists cut at a separator

A list and its pieces between the separators determine one another.  Two ways to cut one list at a
marked element are the same, or one mark stands in a piece of the other cut.

* `splitOn_append_of_not_mem`      : a front without separators belongs to the first piece;
* `intercalate_append`             : the pieces of two lists, joined;
* `append_cons_cases`              : two cuts of one list.
-/

namespace MoneyMachine
namespace Library

variable {α : Type}

/-! ## Pieces -/

section Pieces

variable [BEq α] [LawfulBEq α] {sep : α}

omit [LawfulBEq α] in
theorem exists_splitOn_eq_cons (sep : α) (list : List α) :
    ∃ first rest, list.splitOn sep = first :: rest :=
  List.exists_cons_of_ne_nil (List.splitOn_ne_nil sep list)

theorem splitOn_append_of_not_mem {front list first : List α} {rest : List (List α)}
    (hfront : sep ∉ front) (h : list.splitOn sep = first :: rest) :
    (front ++ list).splitOn sep = (front ++ first) :: rest := by
  induction front with
  | nil => exact h
  | cons a front ih =>
    obtain ⟨hne, hrest⟩ := not_or.mp (fun h => hfront (List.mem_cons.mpr h))
    rw [List.cons_append, List.splitOn_cons_eq_if_modifyHead, ih hrest, List.modifyHead_cons,
      if_neg (fun heq => hne (eq_of_beq heq).symm)]
    rfl

end Pieces

theorem intercalate_append {sep : α} {x y : List (List α)} (hx : x ≠ []) (hy : y ≠ []) :
    [sep].intercalate (x ++ y) = [sep].intercalate x ++ sep :: [sep].intercalate y := by
  induction x with
  | nil => exact absurd rfl hx
  | cons a x ih =>
    cases x with
    | nil =>
      rw [List.singleton_append, List.intercalate_cons_of_ne_nil hy, List.intercalate_singleton,
        List.append_assoc]
      rfl
    | cons b x =>
      rw [List.cons_append, List.cons_append, List.intercalate_cons_cons, ← List.cons_append,
        ih (List.cons_ne_nil b x), List.intercalate_cons_cons]
      simp only [List.append_assoc]

theorem intercalate_front {sep : α} (front first : List α) (rest : List (List α)) :
    [sep].intercalate ((front ++ first) :: rest) = front ++ [sep].intercalate (first :: rest) := by
  cases rest with
  | nil => rw [List.intercalate_singleton, List.intercalate_singleton]
  | cons a rest =>
    rw [List.intercalate_cons_cons, List.intercalate_cons_cons]
    simp only [List.append_assoc]

/-! ## Cuts -/

/-- Of two cuts of one list at an element, each is within a piece of the other, or they are the same. -/
theorem append_cons_cases {x x' y y' : List α} {a a' : α} (h : x ++ a :: y = x' ++ a' :: y') :
    (x = x' ∧ a = a' ∧ y = y') ∨ (∃ between, x' = x ++ a :: between ∧ y = between ++ a' :: y') ∨
      ∃ between, x = x' ++ a' :: between ∧ y' = between ++ a :: y := by
  rcases List.append_eq_append_iff.mp h with ⟨front, hx, hy⟩ | ⟨front, hx, hy⟩
  · cases front with
    | nil =>
      obtain ⟨ha, hrest⟩ := List.cons.inj hy
      exact Or.inl ⟨by rw [hx, List.append_nil], ha, hrest⟩
    | cons b between =>
      obtain ⟨rfl, hrest⟩ := List.cons.inj hy
      exact Or.inr (Or.inl ⟨between, hx, hrest⟩)
  · cases front with
    | nil =>
      obtain ⟨ha, hrest⟩ := List.cons.inj hy
      exact Or.inl ⟨by rw [hx, List.append_nil], ha.symm, hrest.symm⟩
    | cons b between =>
      obtain ⟨rfl, hrest⟩ := List.cons.inj hy
      exact Or.inr (Or.inr ⟨between, hx, hrest⟩)

end Library
end MoneyMachine
