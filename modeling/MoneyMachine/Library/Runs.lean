import Mathlib.Data.List.Basic

/-!
# Runs — total machines driven by a list of inputs

A machine is a total step function `step : σ → α → σ`; an input that is not applicable leaves the
state as it is, so a run is a left fold over a list of inputs.  Nondeterminism (schedules, answers
of an environment, failures) is carried by the inputs, and a statement about every run is a
statement about every input list.

The rules below are the only ways the rest of the development reasons about whole runs:

* `runFrom_invariant`       : a predicate kept by every step holds at the end of every run;
* `runFrom_invariant_along` : the same, when only the steps that meet a side condition keep it;
* `along_of_invariant`      : what such steps do, every step of the run does;
* `along_append`            : side conditions split where runs split;
* `along_iff_forall_take`   : where the side condition is exactly what a step needs to keep the
  predicate, it holds along a run exactly when every state of the run satisfies the predicate.

One step is usually a fallible computation; `bind_eq_ok`, `map_eq_ok` and `map_eq_error` take one
apart.
-/

namespace MoneyMachine
namespace Library

variable {σ α : Type*} {step : σ → α → σ}

/-! ## Running -/

/-- The state a machine reaches from `s` on the inputs `as`. -/
def runFrom (step : σ → α → σ) (s : σ) (as : List α) : σ :=
  as.foldl step s

@[simp] theorem runFrom_nil (s : σ) : runFrom step s [] = s := rfl

@[simp] theorem runFrom_cons (s : σ) (a : α) (as : List α) :
    runFrom step s (a :: as) = runFrom step (step s a) as := rfl

/-! ## Invariants -/

/-- A predicate that every step keeps holds at the end of every run. -/
theorem runFrom_invariant {I : σ → Prop} (hstep : ∀ s a, I s → I (step s a))
    {s : σ} (h : I s) (as : List α) : I (runFrom step s as) := by
  induction as generalizing s with
  | nil => exact h
  | cons a as ih => exact ih (hstep s a h)

/-- Every step of the run from `s` on the inputs meets `ok` in the state it starts from. -/
def Along (step : σ → α → σ) (ok : σ → α → Prop) : σ → List α → Prop
  | _, [] => True
  | s, a :: as => ok s a ∧ Along step ok (step s a) as

/-- A decidable side condition can be checked along a run. -/
instance decidableAlong {ok : σ → α → Prop} [∀ s a, Decidable (ok s a)] :
    ∀ (s : σ) (as : List α), Decidable (Along step ok s as)
  | _, [] => isTrue trivial
  | s, a :: as =>
    letI : Decidable (Along step ok (step s a) as) := decidableAlong (step s a) as
    inferInstanceAs (Decidable (ok s a ∧ Along step ok (step s a) as))

/-- A predicate kept by the steps that meet `ok` holds at the end of every run along `ok`. -/
theorem runFrom_invariant_along {I : σ → Prop} {ok : σ → α → Prop}
    (hstep : ∀ s a, I s → ok s a → I (step s a))
    {s : σ} (h : I s) {as : List α} (hok : Along step ok s as) : I (runFrom step s as) := by
  induction as generalizing s with
  | nil => exact h
  | cons a as ih =>
    rcases hok with ⟨ha, hrest⟩
    exact ih (hstep s a h ha) hrest

/-- What the steps that meet `ok` do from states of an invariant, they do along the whole run. -/
theorem along_of_invariant {I : σ → Prop} {ok P : σ → α → Prop}
    (hstep : ∀ s a, I s → ok s a → I (step s a)) (hP : ∀ s a, I s → ok s a → P s a)
    {s : σ} (h : I s) {as : List α} (hok : Along step ok s as) : Along step P s as := by
  induction as generalizing s with
  | nil => exact trivial
  | cons a as ih =>
    rcases hok with ⟨ha, hrest⟩
    exact ⟨hP s a h ha, ih (hstep s a h ha) hrest⟩

/-- A condition on the inputs alone. -/
theorem along_of_forall {p : α → Prop} {s : σ} {as : List α} (h : ∀ a ∈ as, p a) :
    Along step (fun _ a => p a) s as := by
  induction as generalizing s with
  | nil => exact trivial
  | cons a as ih =>
    refine ⟨h a List.mem_cons_self, ih ?_⟩
    intro b hb
    exact h b (List.mem_cons_of_mem a hb)

theorem along_and {ok ok' : σ → α → Prop} {s : σ} {as : List α} (h : Along step ok s as)
    (h' : Along step ok' s as) : Along step (fun s a => ok s a ∧ ok' s a) s as := by
  induction as generalizing s with
  | nil => exact trivial
  | cons a as ih => exact ⟨⟨h.1, h'.1⟩, ih h.2 h'.2⟩

/-- Side conditions that agree at every step agree along every run. -/
theorem along_congr {ok ok' : σ → α → Prop} (h : ∀ s a, ok s a ↔ ok' s a) {s : σ} {as : List α} :
    Along step ok s as ↔ Along step ok' s as := by
  induction as generalizing s with
  | nil => exact Iff.rfl
  | cons a as ih => exact and_congr (h s a) ih

theorem along_append {ok : σ → α → Prop} {s : σ} {as bs : List α} :
    Along step ok s (as ++ bs) ↔ Along step ok s as ∧ Along step ok (runFrom step s as) bs := by
  induction as generalizing s with
  | nil => simp [Along]
  | cons a as ih =>
    simp only [List.cons_append, Along, runFrom_cons, ih, and_assoc]

/-- A side condition that says exactly when a step keeps the predicate: it holds along a run exactly
when the predicate holds in every state reached. -/
theorem along_iff_forall_take {I : σ → Prop} {ok : σ → α → Prop} {p : α → Prop}
    (hstep : ∀ s a, I s → p a → (I (step s a) ↔ ok s a))
    {s : σ} (h : I s) {as : List α} (hp : ∀ a ∈ as, p a) :
    (∀ n, I (runFrom step s (as.take n))) ↔ Along step ok s as := by
  induction as generalizing s with
  | nil => simp [Along, h]
  | cons a as ih =>
    have ha : p a := hp a List.mem_cons_self
    have htail : ∀ b ∈ as, p b := fun b hb => hp b (List.mem_cons_of_mem a hb)
    constructor
    · intro hall
      have hnext : I (step s a) := hall 1
      refine ⟨(hstep s a h ha).1 hnext, (ih hnext htail).1 ?_⟩
      intro n
      exact hall (n + 1)
    · rintro ⟨hok, hrest⟩ n
      have hnext : I (step s a) := (hstep s a h ha).2 hok
      cases n with
      | zero => exact h
      | succ n => exact (ih hnext htail).2 hrest n

/-! ## Fallible computations -/

/-- A sequence of fallible computations succeeds exactly when both parts do. -/
theorem bind_eq_ok {ε : Type*} {β γ : Type} {x : Except ε β} {f : β → Except ε γ} {c : γ} :
    (x >>= f) = .ok c ↔ ∃ b, x = .ok b ∧ f b = .ok c := by
  cases x with
  | error e => simp [bind, Except.bind]
  | ok b => simp [bind, Except.bind]

/-- Projecting the result of a fallible computation does not change whether it succeeds. -/
theorem map_eq_ok {ε : Type*} {β γ : Type} {x : Except ε β} {f : β → γ} {c : γ} :
    x.map f = .ok c ↔ ∃ b, x = .ok b ∧ f b = c := by
  cases x with
  | error e => simp [Except.map]
  | ok b => simp [Except.map]

theorem map_eq_error {ε : Type*} {β γ : Type} {x : Except ε β} {f : β → γ} {e : ε} :
    x.map f = .error e ↔ x = .error e := by
  cases x with
  | error e' => simp [Except.map]
  | ok b => simp [Except.map]

end Library
end MoneyMachine
