import MoneyMachine.Library.Runs
import Mathlib.Logic.Function.Basic

/-!
# Script — programs that take turns

A script is a program cut at its operations: it returns, raises, or asks for one operation and goes on
with the answer.  Several scripts that share a state take turns in any order, one operation a turn.

* `Only`       : whatever is answered, as far as an answer is possible, each operation satisfies `P` and
  the result satisfies `Q`; the rules compose it along sequences and handlers;
* `along_only` : in every interleaving every operation satisfies what was shown of its script alone.
-/

namespace MoneyMachine
namespace Library

/-- A program that asks for its operations one at a time.  An operation may raise. -/
inductive Script (Op : Type) (Ans : Op → Type) (ε α : Type)
  | ret (a : α)
  | raise (e : ε)
  | ask (op : Op) (next : Except ε (Ans op) → Script Op Ans ε α)

namespace Script

variable {Op : Type} {Ans : Op → Type} {ε α β : Type}

/-! ## Programs -/

def andThen : Script Op Ans ε α → (α → Script Op Ans ε β) → Script Op Ans ε β
  | .ret a, f => f a
  | .raise e, _ => .raise e
  | .ask op next, f => .ask op (fun r => (next r).andThen f)

instance : Monad (Script Op Ans ε) where
  pure := ret
  bind := andThen

theorem bind_bind {γ : Type} (x : Script Op Ans ε α) (f : α → Script Op Ans ε β)
    (g : β → Script Op Ans ε γ) : x >>= f >>= g = x >>= fun a => f a >>= g := by
  show (x.andThen f).andThen g = x.andThen (fun a => (f a).andThen g)
  induction x with
  | ret a => rfl
  | raise e => rfl
  | ask op next ih =>
    simp only [andThen]
    congr 1
    funext r
    exact ih r

/-- One operation. -/
def request (op : Op) : Script Op Ans ε (Ans op) :=
  .ask op (fun r =>
    match r with
    | .ok a => .ret a
    | .error e => .raise e)

/-- A program that raised goes on in its handler. -/
def handle : Script Op Ans ε α → (ε → Script Op Ans ε α) → Script Op Ans ε α
  | .ret a, _ => .ret a
  | .raise e, handler => handler e
  | .ask op next, handler => .ask op (fun r => (next r).handle handler)

/-! ## What a script asks for -/

/-- Each operation satisfies `P` and the result satisfies `Q`, whatever possible answers are given. -/
def Only (P : Op → Prop) (possible : (op : Op) → Except ε (Ans op) → Prop)
    (Q : Except ε α → Prop) : Script Op Ans ε α → Prop
  | .ret a => Q (.ok a)
  | .raise e => Q (.error e)
  | .ask op next => P op ∧ ∀ r, possible op r → (next r).Only P possible Q

variable {P : Op → Prop} {possible : (op : Op) → Except ε (Ans op) → Prop}

theorem Only.mono {Q R : Except ε α → Prop} {x : Script Op Ans ε α} (h : x.Only P possible R)
    (hQ : ∀ r, R r → Q r) : x.Only P possible Q := by
  induction x with
  | ret a => exact hQ _ h
  | raise e => exact hQ _ h
  | ask op next ih => exact ⟨h.1, fun r hr => ih r (h.2 r hr)⟩

/-- An operation may satisfy more than is asked. -/
theorem Only.mono_op {P' : Op → Prop} {Q : Except ε α → Prop} {x : Script Op Ans ε α}
    (h : x.Only P possible Q) (hP : ∀ op, P op → P' op) : x.Only P' possible Q := by
  induction x with
  | ret a => exact h
  | raise e => exact h
  | ask op next ih => exact ⟨hP op h.1, fun r hr => ih r (h.2 r hr)⟩

theorem only_bind {Q : Except ε β → Prop} {R : Except ε α → Prop} {x : Script Op Ans ε α}
    {f : α → Script Op Ans ε β} (h : x.Only P possible R)
    (hok : ∀ a, R (.ok a) → (f a).Only P possible Q) (herror : ∀ e, R (.error e) → Q (.error e)) :
    (x >>= f).Only P possible Q := by
  show (x.andThen f).Only P possible Q
  induction x with
  | ret a => exact hok a h
  | raise e => exact herror e h
  | ask op next ih => exact ⟨h.1, fun r hr => ih r (h.2 r hr)⟩

theorem only_handle {Q R : Except ε α → Prop} {x : Script Op Ans ε α}
    {handler : ε → Script Op Ans ε α} (h : x.Only P possible R) (hok : ∀ a, R (.ok a) → Q (.ok a))
    (herror : ∀ e, R (.error e) → (handler e).Only P possible Q) :
    (x.handle handler).Only P possible Q := by
  induction x with
  | ret a => exact hok a h
  | raise e => exact herror e h
  | ask op next ih => exact ⟨h.1, fun r hr => ih r (h.2 r hr)⟩

theorem only_request {op : Op} (h : P op) : (request op : Script Op Ans ε (Ans op)).Only P possible
    (possible op) := by
  refine ⟨h, ?_⟩
  intro r hr
  cases r with
  | ok a => exact hr
  | error e => exact hr

end Script

/-! ## Turns -/

/-- A shared state and what is left of each script. -/
structure World (Op : Type) (Ans : Op → Type) (ε α ι σ : Type) where
  shared : σ
  scripts : ι → Script Op Ans ε α

namespace World

variable {Op : Type} {Ans : Op → Type} {ε α ι σ τ : Type}

/-- The operation that a script asks for next. -/
def asks (w : World Op Ans ε α ι σ) (i : ι) : Option Op :=
  match w.scripts i with
  | .ask op _ => some op
  | _ => none

section Step

variable [DecidableEq ι]
variable (perform : σ → τ → (op : Op) → Except ε (Ans op) × σ)

/-- One operation of the script whose turn it is. -/
def step (w : World Op Ans ε α ι σ) (turn : ι × τ) : World Op Ans ε α ι σ :=
  match w.scripts turn.1 with
  | .ask op next =>
    { shared := (perform w.shared turn.2 op).2
      scripts := Function.update w.scripts turn.1 (next (perform w.shared turn.2 op).1) }
  | _ => w

variable {perform} {possible : (op : Op) → Except ε (Ans op) → Prop} {P : ι → Op → Prop}

theorem step_only (hpossible : ∀ s c op, possible op (perform s c op).1)
    {w : World Op Ans ε α ι σ} (h : ∀ i, (w.scripts i).Only (P i) possible (fun _ => True))
    (turn : ι × τ) (i : ι) :
    ((step perform w turn).scripts i).Only (P i) possible (fun _ => True) := by
  unfold step
  split
  · rename_i op next hscript
    dsimp only
    by_cases hi : i = turn.1
    · subst hi
      rw [Function.update_self]
      have hask := h turn.1
      rw [hscript] at hask
      exact hask.2 _ (hpossible w.shared turn.2 op)
    · rw [Function.update_of_ne hi]
      exact h i
  · exact h i

/-- In every interleaving, each operation satisfies what was shown of its script alone. -/
theorem along_only (hpossible : ∀ s c op, possible op (perform s c op).1)
    {w : World Op Ans ε α ι σ} (h : ∀ i, (w.scripts i).Only (P i) possible (fun _ => True))
    (turns : List (ι × τ)) :
    Along (step perform) (fun w turn => ∀ op, w.asks turn.1 = some op → P turn.1 op) w turns := by
  induction turns generalizing w with
  | nil => exact trivial
  | cons turn turns ih =>
    refine ⟨?_, ih (step_only hpossible h turn)⟩
    intro op hop
    have hask := h turn.1
    unfold asks at hop
    cases hscript : w.scripts turn.1 with
    | ret a => simp [hscript] at hop
    | raise e => simp [hscript] at hop
    | ask op' next =>
      rw [hscript] at hop hask
      cases hop
      exact hask.1

end Step

end World

end Library
end MoneyMachine
