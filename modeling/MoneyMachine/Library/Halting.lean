import Mathlib.Dynamics.FixedPoints.Basic

/-!
# Halting — a deterministic machine left to itself

A machine that is its own step function runs by iteration, and has halted where a step changes nothing.

* `halted_unique`  : there is one place to halt;
* `iterate_rank`   : a rank that each step lowers is used up in as many steps;
* `Leads`          : one state leads to another, whatever the number of steps.
-/

namespace MoneyMachine
namespace Library

universe u

variable {σ : Type u} {step : σ → σ}

/-- Two halting states of one run are the same. -/
theorem halted_unique {s a b : σ} {m n : ℕ} (ha : step^[m] s = a) (hb : step^[n] s = b)
    (hhalta : Function.IsFixedPt step a) (hhaltb : Function.IsFixedPt step b) : a = b := by
  rcases le_total m n with hle | hle
  · obtain ⟨k, rfl⟩ := Nat.exists_eq_add_of_le' hle
    rw [Function.iterate_add_apply, ha, hhalta.iterate k] at hb
    exact hb
  · obtain ⟨k, rfl⟩ := Nat.exists_eq_add_of_le' hle
    rw [Function.iterate_add_apply, hb, hhaltb.iterate k] at ha
    exact ha.symm

/-- After `n` steps a rank that each step lowers is lower by `n`. -/
theorem iterate_rank {rank : σ → ℕ} (hstep : ∀ s, rank (step s) ≤ rank s - 1) (s : σ) (n : ℕ) :
    rank (step^[n] s) ≤ rank s - n := by
  induction n with
  | zero => exact le_rfl
  | succ n ih =>
    rw [Function.iterate_succ_apply']
    calc rank (step (step^[n] s)) ≤ rank (step^[n] s) - 1 := hstep _
      _ ≤ rank s - n - 1 := Nat.sub_le_sub_right ih 1
      _ = rank s - (n + 1) := Nat.sub_sub _ _ _

/-- A predicate that every step keeps holds after any number of steps. -/
theorem iterate_invariant {I : σ → Prop} (hstep : ∀ s, I s → I (step s)) {s : σ} (h : I s) (n : ℕ) :
    I (step^[n] s) := by
  induction n with
  | zero => exact h
  | succ n ih =>
    rw [Function.iterate_succ_apply']
    exact hstep _ ih

/-- The machine gets from one state to another. -/
def Leads (step : σ → σ) (s t : σ) : Prop :=
  ∃ n, step^[n] s = t

theorem Leads.refl (s : σ) : Leads step s s :=
  ⟨0, rfl⟩

theorem Leads.trans {s t r : σ} (h : Leads step s t) (h' : Leads step t r) : Leads step s r := by
  obtain ⟨m, rfl⟩ := h
  obtain ⟨n, rfl⟩ := h'
  exact ⟨n + m, Function.iterate_add_apply step n m s⟩

/-- One step, and then the others. -/
theorem Leads.head {s t r : σ} (h : step s = t) (h' : Leads step t r) : Leads step s r :=
  Leads.trans ⟨1, h⟩ h'

end Library
end MoneyMachine
