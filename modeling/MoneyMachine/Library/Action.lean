import Mathlib.Init

/-!
# Action — programs that change a state and may raise

A program returns or raises, and what it did to the state stays either way: there is no rollback, and
a handler sees the state as the raise left it.

`Ends` is the postcondition of a program from one state.  It speaks about both ways out, and the rules
below compose it along sequences, handlers and final blocks.
-/

namespace MoneyMachine
namespace Library

/-- A program over states `σ` that returns an `α` or raises an `ε`. -/
def Action (σ ε α : Type) : Type :=
  σ → Except ε α × σ

namespace Action

variable {σ ε α β : Type}

/-! ## Programs -/

/-- Return a value. -/
def ret (a : α) : Action σ ε α :=
  fun s => (.ok a, s)

/-- Go on with the value of a program, unless it raised. -/
def andThen (x : Action σ ε α) (f : α → Action σ ε β) : Action σ ε β :=
  fun s =>
    match x s with
    | (.ok a, s') => f a s'
    | (.error e, s') => (.error e, s')

instance : Monad (Action σ ε) where
  pure := ret
  bind := andThen

def raise (e : ε) : Action σ ε α :=
  fun s => (.error e, s)

/-- Look at the state. -/
def inspect (f : σ → α) : Action σ ε α :=
  fun s => (.ok (f s), s)

def change (f : σ → σ) : Action σ ε Unit :=
  fun s => (.ok (), f s)

/-- A program that raised goes on in its handler. -/
def handle (x : Action σ ε α) (handler : ε → Action σ ε α) : Action σ ε α :=
  fun s =>
    match x s with
    | (.ok a, s') => (.ok a, s')
    | (.error e, s') => handler e s'

/-- A final block runs after both ways out; what it raises replaces the result. -/
def lastly (x : Action σ ε α) (block : Action σ ε Unit) : Action σ ε α :=
  fun s =>
    match x s with
    | (r, s') =>
      match block s' with
      | (.ok _, s'') => (r, s'')
      | (.error e, s'') => (.error e, s'')

/-! ## Running -/

@[simp] theorem pure_run (a : α) (s : σ) : (pure a : Action σ ε α) s = (.ok a, s) := rfl

@[simp] theorem raise_run (e : ε) (s : σ) : (raise e : Action σ ε α) s = (.error e, s) := rfl

@[simp] theorem inspect_run (f : σ → α) (s : σ) :
    (inspect f : Action σ ε α) s = (.ok (f s), s) := rfl

@[simp] theorem change_run (f : σ → σ) (s : σ) :
    (change f : Action σ ε Unit) s = (.ok (), f s) := rfl

theorem bind_run (x : Action σ ε α) (f : α → Action σ ε β) (s : σ) :
    (x >>= f) s =
      match x s with
      | (.ok a, s') => f a s'
      | (.error e, s') => (.error e, s') := rfl

/-! ## Postconditions -/

/-- The program ends, by returning or raising, in a result and a state that satisfy `Q`. -/
def Ends (x : Action σ ε α) (s : σ) (Q : Except ε α → σ → Prop) : Prop :=
  Q (x s).1 (x s).2

variable {s : σ} {Q R : Except ε α → σ → Prop}

theorem Ends.mono {x : Action σ ε α} (h : x.Ends s R) (hQ : ∀ r s', R r s' → Q r s') : x.Ends s Q :=
  hQ _ _ h

theorem ends_bind {x : Action σ ε β} {f : β → Action σ ε α} {R : Except ε β → σ → Prop}
    (h : x.Ends s R) (hok : ∀ b s', R (.ok b) s' → (f b).Ends s' Q)
    (herror : ∀ e s', R (.error e) s' → Q (.error e) s') : (x >>= f).Ends s Q := by
  unfold Ends at h ⊢
  rw [bind_run]
  rcases hx : x s with ⟨r, s'⟩
  rw [hx] at h
  cases r with
  | ok b => exact hok b s' h
  | error e => exact herror e s' h

/-- Looking at the state leaves it as it is. -/
theorem ends_inspect {f : σ → β} {g : β → Action σ ε α} (h : (g (f s)).Ends s Q) :
    (inspect f >>= g).Ends s Q :=
  h

theorem ends_change {f : σ → σ} {g : Unit → Action σ ε α} (h : (g ()).Ends (f s) Q) :
    (change f >>= g).Ends s Q :=
  h

theorem ends_handle {x : Action σ ε α} {handler : ε → Action σ ε α} (h : x.Ends s R)
    (hok : ∀ a s', R (.ok a) s' → Q (.ok a) s')
    (herror : ∀ e s', R (.error e) s' → (handler e).Ends s' Q) : (handle x handler).Ends s Q := by
  unfold Ends at h ⊢
  unfold handle
  rcases hx : x s with ⟨r, s'⟩
  rw [hx] at h
  cases r with
  | ok a => exact hok a s' h
  | error e => exact herror e s' h

theorem ends_lastly {x : Action σ ε α} {block : Action σ ε Unit} (h : x.Ends s R)
    (hblock : ∀ r s', R r s' → block.Ends s' (fun last s'' =>
      match last with
      | .ok _ => Q r s''
      | .error e => Q (.error e) s'')) : (lastly x block).Ends s Q := by
  unfold Ends at h ⊢
  unfold lastly
  rcases hx : x s with ⟨r, s'⟩
  rw [hx] at h
  have hlast := hblock r s' h
  unfold Ends at hlast
  rcases hb : block s' with ⟨last, s''⟩
  simp only [hb] at hlast ⊢
  cases last with
  | ok u => exact hlast
  | error e => exact hlast

end Action

end Library
end MoneyMachine
