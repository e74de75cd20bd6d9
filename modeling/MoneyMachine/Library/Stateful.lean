import MoneyMachine.Library.Comp

/-!
# Stateful — computations over a state, and what their answers satisfy

A `Stateful σ ε α` is a computation that carries a state; an error ends it and its state is dropped.

* `Gives I m Q` : from a state with the invariant `I`, every answer of `m` leaves a state with `I`, and
  its value satisfies `Q`;
* `Folds step xs b b'` : what a fold over a list makes of `b`, one step for each element.
-/

namespace MoneyMachine
namespace Library

/-- A computation over a state. -/
abbrev Stateful (σ ε α : Type) := StateT σ (Comp ε) α

namespace Stateful

variable {σ ε α β : Type}

/-- An answer that needs no state. -/
def ofExcept (r : Except ε α) : Stateful σ ε α :=
  fun s => Comp.ofExcept (r.map (fun a => (a, s)))

/-- Every answer keeps the invariant, and its value satisfies `Q`. -/
def Gives (I : σ → Prop) (m : Stateful σ ε α) (Q : α → Prop) : Prop :=
  ∀ ⦃s : σ⦄, I s → ∀ ⦃a : α⦄ ⦃s' : σ⦄, (m s).Returns (.ok (a, s')) → I s' ∧ Q a

variable {I : σ → Prop} {m : Stateful σ ε α} {Q : α → Prop}

theorem Gives.mono {Q' : α → Prop} (h : Gives I m Q) (hle : ∀ a, Q a → Q' a) : Gives I m Q' := by
  intro s hs a s' hm
  exact ⟨(h hs hm).1, hle a (h hs hm).2⟩

theorem gives_pure {a : α} (h : Q a) : Gives I (pure a : Stateful σ ε α) Q := by
  intro s hs b s' hm
  have hsame := Except.ok.inj (Comp.returns_pure.1 hm)
  cases hsame
  exact ⟨hs, h⟩

theorem gives_ofExcept {r : Except ε α} (h : ∀ a, r = .ok a → Q a) :
    Gives I (ofExcept r : Stateful σ ε α) Q := by
  intro s hs a s' hm
  have hr := Comp.returns_ofExcept.1 hm
  cases r with
  | error e => cases hr
  | ok b =>
    cases hr
    exact ⟨hs, h a rfl⟩

/-- An error gives nothing. -/
theorem gives_error {e : ε} : Gives I (ofExcept (.error e) : Stateful σ ε α) Q :=
  gives_ofExcept (fun _ h => by cases h)

theorem Gives.bind {f : α → Stateful σ ε β} {R : β → Prop} (h : Gives I m Q)
    (hf : ∀ a, Q a → Gives I (f a) R) : Gives I (m >>= f) R := by
  intro s hs b s'' hm
  have hbind : (m s >>= fun answer => f answer.1 answer.2).Returns (.ok (b, s'')) := hm
  rcases Comp.returns_ok_bind.1 hbind with ⟨⟨a, s'⟩, hfirst, hsecond⟩
  have hmid := h hs hfirst
  exact hf a hmid.2 hmid.1 hsecond

/-- The state with the invariant that a run begins in. -/
theorem Gives.returns (h : Gives I m Q) {s s' : σ} {a : α} (hs : I s)
    (hm : (m s).Returns (.ok (a, s'))) : Q a :=
  (h hs hm).2

/-! ## Folds -/

/-- What a fold makes of `b`, one step for each element. -/
inductive Folds {γ : Type} (step : γ → β → β → Prop) : List γ → β → β → Prop
  | nil {b : β} : Folds step [] b b
  | cons {x : γ} {xs : List γ} {b b' b'' : β} (h : step x b b') (hrest : Folds step xs b' b'') :
      Folds step (x :: xs) b b''

theorem gives_foldlM {γ : Type} {f : β → γ → Stateful σ ε β} {step : γ → β → β → Prop}
    {xs : List γ} (h : ∀ x ∈ xs, ∀ b, Gives I (f b x) (step x b)) (b : β) :
    Gives I (xs.foldlM f b) (Folds step xs b) := by
  induction xs generalizing b with
  | nil => exact gives_pure .nil
  | cons x xs ih =>
    rw [List.foldlM_cons]
    apply (h x (List.mem_cons_self ..) b).bind
    intro b' hstep
    apply (ih (fun y hy => h y (List.mem_cons_of_mem x hy)) b').mono
    intro b'' hrest
    exact .cons hstep hrest

theorem Folds.imp {γ : Type} {step step' : γ → β → β → Prop} {xs : List γ} {b b' : β}
    (hle : ∀ x b b', step x b b' → step' x b b') (h : Folds step xs b b') : Folds step' xs b b' := by
  induction h with
  | nil => exact .nil
  | cons hstep _ ih => exact .cons (hle _ _ _ hstep) ih

/-- Every element had its step. -/
theorem Folds.step_of_mem {γ : Type} {step : γ → β → β → Prop} {xs : List γ} {b b' : β}
    (h : Folds step xs b b') {x : γ} (hx : x ∈ xs) : ∃ c c', step x c c' := by
  induction h with
  | nil => cases hx
  | cons hstep _ ih =>
    rcases List.mem_cons.1 hx with rfl | hx
    · exact ⟨_, _, hstep⟩
    · exact ih hx

/-- A reflexive and transitive relation that each step keeps. -/
theorem Folds.trans_of {γ : Type} {step : γ → β → β → Prop} {le : β → β → Prop}
    (hrefl : ∀ b, le b b) (htrans : ∀ {b c d}, le b c → le c d → le b d) {xs : List γ} {b b' : β}
    (hstep : ∀ x ∈ xs, ∀ b b', step x b b' → le b b') (h : Folds step xs b b') : le b b' := by
  induction h with
  | nil => exact hrefl _
  | cons hx _ ih =>
    apply htrans (hstep _ (List.mem_cons_self ..) _ _ hx)
    exact ih (fun y hy => hstep y (List.mem_cons_of_mem _ hy))

end Stateful

end Library
end MoneyMachine
