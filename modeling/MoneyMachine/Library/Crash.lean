import MoneyMachine.Library.Interference

/-!
# Crash — scripts that die on the way

* `Script.expand` : every operation of a script by a script of smaller operations;
* `Script.Strict` : nothing handles what an operation raises;
* `Script.cut`    : the state that is left when a script dies before an operation or inside one;
* `cut_of_holds`  : a property that each operation finds, and that a torn one leaves, survives every cut.
-/

namespace MoneyMachine
namespace Library
namespace Script

variable {Op Op' : Type} {Ans : Op → Type} {Ans' : Op' → Type} {ε α β σ τ κ : Type}

/-! ## Smaller operations -/

/-- Each operation by a script; what one of them raises ends the whole. -/
def expand (f : (op : Op) → Script Op' Ans' ε (Ans op)) :
    Script Op Ans ε α → Script Op' Ans' ε α
  | .ret a => .ret a
  | .raise e => .raise e
  | .ask op next => (f op).andThen (fun a => (next (.ok a)).expand f)

/-- An operation that raises ends the script. -/
def Strict : Script Op Ans ε α → Prop
  | .ret _ => True
  | .raise _ => True
  | .ask _ next => (∀ e, next (.error e) = .raise e) ∧ ∀ a, (next (.ok a)).Strict

theorem strict_request (op : Op) : (request op : Script Op Ans ε (Ans op)).Strict :=
  ⟨fun _ => rfl, fun _ => trivial⟩

theorem strict_ofExcept (r : Except ε α) : (ofExcept r : Script Op Ans ε α).Strict := by
  cases r with
  | ok a => exact trivial
  | error e => exact trivial

theorem strict_bind {x : Script Op Ans ε α} {f : α → Script Op Ans ε β} (hx : x.Strict)
    (hf : ∀ a, (f a).Strict) : (x >>= f).Strict := by
  show (x.andThen f).Strict
  induction x with
  | ret a => exact hf a
  | raise e => exact trivial
  | ask op next ih =>
    refine ⟨?_, fun a => ih _ (hx.2 a)⟩
    intro e
    show (next (.error e)).andThen f = .raise e
    rw [hx.1 e]
    rfl

/-- Where each script does what its operation does, the expanded script does what the script does. -/
theorem run_expand {perform : σ → τ → (op : Op) → Except ε (Ans op) × σ}
    {perform' : σ → τ → (op : Op') → Except ε (Ans' op) × σ} {c : τ}
    {f : (op : Op) → Script Op' Ans' ε (Ans op)}
    (hf : ∀ op s, (f op).run perform' c s = perform s c op) {x : Script Op Ans ε α} (hx : x.Strict)
    (s : σ) : (x.expand f).run perform' c s = x.run perform c s := by
  induction x generalizing s with
  | ret a => rfl
  | raise e => rfl
  | ask op next ih =>
    rw [expand, run_andThen, hf, run]
    rcases perform s c op with ⟨r, s'⟩
    cases r with
    | ok a => exact ih _ (hx.2 a) s'
    | error e =>
      rw [hx.1 e]
      rfl

/-! ## Crashes -/

variable (perform : σ → τ → (op : Op) → Except ε (Ans op) × σ)

/-- After `n` operations, before the next one or, when a tear is given, inside it. -/
def cut (c : τ) (torn : σ → Op → κ → σ) : Script Op Ans ε α → σ → Nat → Option κ → σ
  | .ret _, s, _, _ => s
  | .raise _, s, _, _ => s
  | .ask _ _, s, 0, none => s
  | .ask op _, s, 0, some k => torn s op k
  | .ask op next, s, n + 1, k =>
    (next (perform s c op).1).cut c torn (perform s c op).2 n k

variable {perform} {c : τ} {torn : σ → Op → κ → σ}

theorem cut_of_holds {P : σ → Prop} {post : Except ε α → σ → Prop} {x : Script Op Ans ε α} {s : σ}
    (h : x.Holds perform Eq (fun s op => P s ∧ ∀ k, P (torn s op k)) post s)
    (hpost : ∀ r s, post r s → P s) (n : Nat) (k : Option κ) : P (x.cut perform c torn s n k) := by
  induction x generalizing s n with
  | ret a => exact hpost _ s (h s rfl)
  | raise e => exact hpost _ s (h s rfl)
  | ask op next ih =>
    rcases h s rfl with ⟨hmay, hnext⟩
    cases n with
    | zero =>
      cases k with
      | none => exact hmay.1
      | some k => exact hmay.2 k
    | succ n => exact ih _ (hnext c) n

/-- What a script ends with, alone. -/
theorem post_of_holds {may : σ → Op → Prop} {post : Except ε α → σ → Prop}
    {x : Script Op Ans ε α} {s : σ} (h : x.Holds perform Eq may post s) :
    post (x.run perform c s).1 (x.run perform c s).2 := by
  induction x generalizing s with
  | ret a => exact h s rfl
  | raise e => exact h s rfl
  | ask op next ih => exact ih _ ((h s rfl).2 c)

end Script
end Library
end MoneyMachine
