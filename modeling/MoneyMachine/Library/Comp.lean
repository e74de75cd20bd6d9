import Mathlib.Data.Set.Finite.Basic
import Mathlib.Data.Fintype.EquivFin
import Mathlib.Logic.Relation
import Mathlib.Order.WellFounded

/-!
# Comp — computations that may fail and may not return

A `Comp ε α` is run with a budget; it answers with a value or an error, or the budget was too small.
A larger budget never changes an answer.  `Halts` says that some budget is enough.

* `bind`  : halts when the first part halts and the second does on its value;
* `loop`  : repeats a step until it leaves; `Next` is one more round;
* `halts_loop_iff` : a loop halts exactly when every step it comes to halts and its rounds end;
* `acc_iff_no_cycle` : rounds that are decided by finitely many positions end exactly when they do
  not come back to a position.
-/

namespace MoneyMachine
namespace Library

open Relation

/-- A computation with a budget.  `none` is a budget that was too small. -/
structure Comp (ε α : Type) where
  run : Nat → Option (Except ε α)
  mono : ∀ {n m : Nat} {r : Except ε α}, n ≤ m → run n = some r → run m = some r

namespace Comp

variable {ε α β σ : Type}

/-! ## Answers -/

/-- Some budget is enough for the answer `r`. -/
def Returns (c : Comp ε α) (r : Except ε α) : Prop :=
  ∃ n, c.run n = some r

def Halts (c : Comp ε α) : Prop :=
  ∃ r, c.Returns r

theorem Returns.halts {c : Comp ε α} {r : Except ε α} (h : c.Returns r) : c.Halts :=
  ⟨r, h⟩

theorem Returns.unique {c : Comp ε α} {r r' : Except ε α} (h : c.Returns r) (h' : c.Returns r') :
    r = r' := by
  rcases h with ⟨n, hn⟩
  rcases h' with ⟨m, hm⟩
  have hmax := c.mono (Nat.le_max_left n m) hn
  have hmax' := c.mono (Nat.le_max_right n m) hm
  exact Option.some.inj (hmax.symm.trans hmax')

/-- An answer that needs no budget. -/
def ofExcept (r : Except ε α) : Comp ε α :=
  { run := fun _ => some r
    mono := fun _ h => h }

@[simp] theorem returns_ofExcept {r r' : Except ε α} : (ofExcept r).Returns r' ↔ r' = r := by
  constructor
  · rintro ⟨_, h⟩
    exact (Option.some.inj h).symm
  · rintro rfl
    exact ⟨0, rfl⟩

@[simp] theorem halts_ofExcept (r : Except ε α) : (ofExcept r).Halts :=
  ⟨r, returns_ofExcept.2 rfl⟩

/-- No budget is enough. -/
def diverge : Comp ε α :=
  { run := fun _ => none
    mono := fun _ h => h }

@[simp] theorem not_returns_diverge {r : Except ε α} : ¬ (diverge : Comp ε α).Returns r := by
  rintro ⟨_, h⟩
  cases h

/-! ## One after the other -/

def bindRun (x : Comp ε α) (f : α → Comp ε β) (n : Nat) : Option (Except ε β) :=
  match x.run n with
  | none => none
  | some (.error e) => some (.error e)
  | some (.ok a) => (f a).run n

def bind (x : Comp ε α) (f : α → Comp ε β) : Comp ε β :=
  { run := bindRun x f
    mono := by
      intro n m r hle h
      unfold bindRun at h ⊢
      cases hx : x.run n with
      | none => simp [hx] at h
      | some result =>
        rw [x.mono hle hx]
        rw [hx] at h
        cases result with
        | error e => exact h
        | ok a => exact (f a).mono hle h }

instance : Monad (Comp ε) where
  pure a := ofExcept (.ok a)
  bind := bind

/-- The answer of a sequence: the first error, or the answer of the second part. -/
theorem returns_bind {x : Comp ε α} {f : α → Comp ε β} {r : Except ε β} :
    (x >>= f).Returns r ↔
      (∃ e, x.Returns (.error e) ∧ r = .error e) ∨ ∃ a, x.Returns (.ok a) ∧ (f a).Returns r := by
  constructor
  · rintro ⟨n, h⟩
    have hrun : bindRun x f n = some r := h
    unfold bindRun at hrun
    cases hx : x.run n with
    | none => simp [hx] at hrun
    | some result =>
      rw [hx] at hrun
      cases result with
      | error e => exact Or.inl ⟨e, ⟨n, hx⟩, (Option.some.inj hrun).symm⟩
      | ok a => exact Or.inr ⟨a, ⟨n, hx⟩, ⟨n, hrun⟩⟩
  · rintro (⟨e, ⟨n, hx⟩, rfl⟩ | ⟨a, ⟨n, hx⟩, ⟨m, hf⟩⟩)
    · refine ⟨n, ?_⟩
      show bindRun x f n = _
      simp [bindRun, hx]
    · refine ⟨max n m, ?_⟩
      show bindRun x f (max n m) = _
      rw [bindRun, x.mono (Nat.le_max_left n m) hx]
      exact (f a).mono (Nat.le_max_right n m) hf

/-- A first part that answers as one of a family does. -/
theorem Returns.exists_bind {ι : Type*} {x : Comp ε α} {y : ι → Comp ε α} {f : α → Comp ε β}
    (hxy : ∀ r, x.Returns r → ∃ d, (y d).Returns r) {r : Except ε β} (h : (x >>= f).Returns r) :
    ∃ d, (y d >>= f).Returns r := by
  rcases returns_bind.1 h with ⟨e, hx, rfl⟩ | ⟨a, hx, hf⟩
  · rcases hxy _ hx with ⟨d, hy⟩
    exact ⟨d, returns_bind.2 (Or.inl ⟨e, hy, rfl⟩)⟩
  · rcases hxy _ hx with ⟨d, hy⟩
    exact ⟨d, returns_bind.2 (Or.inr ⟨a, hy, hf⟩)⟩

theorem halts_bind {x : Comp ε α} {f : α → Comp ε β} :
    (x >>= f).Halts ↔ x.Halts ∧ ∀ a, x.Returns (.ok a) → (f a).Halts := by
  constructor
  · rintro ⟨r, h⟩
    rcases returns_bind.1 h with ⟨e, hx, _⟩ | ⟨a, hx, hf⟩
    · refine ⟨hx.halts, ?_⟩
      intro a ha
      cases hx.unique ha
    · refine ⟨hx.halts, ?_⟩
      intro a' ha'
      cases hx.unique ha'
      exact hf.halts
  · rintro ⟨⟨result, hx⟩, hf⟩
    cases result with
    | error e => exact ⟨.error e, returns_bind.2 (Or.inl ⟨e, hx, rfl⟩)⟩
    | ok a =>
      rcases hf a hx with ⟨r, hr⟩
      exact ⟨r, returns_bind.2 (Or.inr ⟨a, hx, hr⟩)⟩

@[simp] theorem halts_pure (a : α) : (pure a : Comp ε α).Halts :=
  halts_ofExcept _

@[simp] theorem returns_pure {a : α} {r : Except ε α} :
    (pure a : Comp ε α).Returns r ↔ r = .ok a :=
  returns_ofExcept

/-- A first part that needs no budget. -/
theorem halts_ofExcept_bind {x : Except ε α} {f : α → Comp ε β} :
    (ofExcept x >>= f).Halts ↔ ∀ a, x = .ok a → (f a).Halts := by
  rw [halts_bind]
  constructor
  · rintro ⟨_, h⟩ a ha
    exact h a (returns_ofExcept.2 ha.symm)
  · intro h
    refine ⟨halts_ofExcept x, ?_⟩
    intro a ha
    exact h a (returns_ofExcept.1 ha).symm

theorem halts_ok_bind {x : Except ε α} {f : α → Comp ε β} {a : α} (h : x = .ok a) :
    (ofExcept x >>= f).Halts ↔ (f a).Halts := by
  subst h
  rw [halts_ofExcept_bind]
  constructor
  · intro hall
    exact hall a rfl
  · intro ha b hb
    cases hb
    exact ha

theorem returns_ok_bind {x : Comp ε α} {f : α → Comp ε β} {b : β} :
    (x >>= f).Returns (.ok b) ↔ ∃ a, x.Returns (.ok a) ∧ (f a).Returns (.ok b) := by
  rw [returns_bind]
  constructor
  · rintro (⟨e, _, h⟩ | h)
    · cases h
    · exact h
  · exact Or.inr

/-- The computation with its error as a value. -/
def attempt {ε' : Type} (x : Comp ε α) : Comp ε' (Except ε α) :=
  { run := fun n => (x.run n).map .ok
    mono := by
      intro n m r hle h
      rcases Option.map_eq_some_iff.1 h with ⟨result, hx, rfl⟩
      rw [x.mono hle hx]
      rfl }

@[simp] theorem returns_attempt {ε' : Type} {x : Comp ε α} {r : Except ε' (Except ε α)} :
    x.attempt.Returns r ↔ ∃ result, x.Returns result ∧ r = .ok result := by
  constructor
  · rintro ⟨n, h⟩
    rcases Option.map_eq_some_iff.1 h with ⟨result, hx, rfl⟩
    exact ⟨result, ⟨n, hx⟩, rfl⟩
  · rintro ⟨result, ⟨n, hx⟩, rfl⟩
    exact ⟨n, by simp [attempt, hx]⟩

@[simp] theorem halts_attempt {ε' : Type} {x : Comp ε α} :
    (x.attempt : Comp ε' (Except ε α)).Halts ↔ x.Halts := by
  constructor
  · rintro ⟨r, h⟩
    rcases returns_attempt.1 h with ⟨result, hx, _⟩
    exact hx.halts
  · rintro ⟨result, hx⟩
    exact ⟨.ok result, returns_attempt.2 ⟨result, hx, rfl⟩⟩

/-! ## Loops -/

def loopRun (step : σ → Comp ε (σ ⊕ α)) : Nat → σ → Option (Except ε α)
  | 0, _ => none
  | n + 1, s =>
    match (step s).run n with
    | none => none
    | some (.error e) => some (.error e)
    | some (.ok (.inl s')) => loopRun step n s'
    | some (.ok (.inr a)) => some (.ok a)

theorem loopRun_mono {step : σ → Comp ε (σ ⊕ α)} {n m : Nat} {s : σ} {r : Except ε α}
    (hle : n ≤ m) (h : loopRun step n s = some r) : loopRun step m s = some r := by
  induction n generalizing m s with
  | zero => cases h
  | succ n ih =>
    cases m with
    | zero => cases hle
    | succ m =>
      have hle' : n ≤ m := Nat.le_of_succ_le_succ hle
      simp only [loopRun] at h ⊢
      cases hstep : (step s).run n with
      | none => simp [hstep] at h
      | some result =>
        rw [hstep] at h
        rw [(step s).mono hle' hstep]
        cases result with
        | error e => exact h
        | ok out =>
          cases out with
          | inl s' => exact ih hle' h
          | inr a => exact h

/-- Repeat the step until it leaves with a value. -/
def loop (step : σ → Comp ε (σ ⊕ α)) (s : σ) : Comp ε α :=
  { run := fun n => loopRun step n s
    mono := loopRun_mono }

/-- The step goes on with `s'`. -/
def Next (step : σ → Comp ε (σ ⊕ α)) (s s' : σ) : Prop :=
  (step s).Returns (.ok (.inl s'))

variable {step : σ → Comp ε (σ ⊕ α)}

theorem Next.unique {s s₁ s₂ : σ} (h₁ : Next step s s₁) (h₂ : Next step s s₂) : s₁ = s₂ :=
  Sum.inl.inj (Except.ok.inj (Returns.unique h₁ h₂))

/-- One round of a loop. -/
theorem returns_loop {s : σ} {r : Except ε α} :
    (loop step s).Returns r ↔
      (∃ e, (step s).Returns (.error e) ∧ r = .error e) ∨
        (∃ a, (step s).Returns (.ok (.inr a)) ∧ r = .ok a) ∨
          ∃ s', Next step s s' ∧ (loop step s').Returns r := by
  constructor
  · rintro ⟨n, h⟩
    cases n with
    | zero => cases h
    | succ n =>
      have hrun : loopRun step (n + 1) s = some r := h
      simp only [loopRun] at hrun
      cases hstep : (step s).run n with
      | none => simp [hstep] at hrun
      | some result =>
        rw [hstep] at hrun
        cases result with
        | error e => exact Or.inl ⟨e, ⟨n, hstep⟩, (Option.some.inj hrun).symm⟩
        | ok out =>
          cases out with
          | inl s' => exact Or.inr (Or.inr ⟨s', ⟨n, hstep⟩, ⟨n, hrun⟩⟩)
          | inr a => exact Or.inr (Or.inl ⟨a, ⟨n, hstep⟩, (Option.some.inj hrun).symm⟩)
  · rintro (⟨e, ⟨n, hstep⟩, rfl⟩ | ⟨a, ⟨n, hstep⟩, rfl⟩ | ⟨s', ⟨n, hstep⟩, ⟨m, hrun⟩⟩)
    · exact ⟨n + 1, by simp [loop, loopRun, hstep]⟩
    · exact ⟨n + 1, by simp [loop, loopRun, hstep]⟩
    · refine ⟨max n m + 1, ?_⟩
      have hstep' := (step s).mono (Nat.le_max_left n m) hstep
      have hrun' : loopRun step (max n m) s' = some r :=
        loopRun_mono (Nat.le_max_right n m) hrun
      simpa [loop, loopRun, hstep'] using hrun'

theorem halts_loop_next {s s' : σ} (hnext : Next step s s') :
    (loop step s).Halts ↔ (loop step s').Halts := by
  constructor
  · rintro ⟨r, h⟩
    rcases returns_loop.1 h with ⟨e, hstep, _⟩ | ⟨a, hstep, _⟩ | ⟨s'', hnext', hrest⟩
    · cases Returns.unique hnext hstep
    · cases Returns.unique hnext hstep
    · exact ⟨r, hnext.unique hnext' ▸ hrest⟩
  · rintro ⟨r, h⟩
    exact ⟨r, returns_loop.2 (Or.inr (Or.inr ⟨s', hnext, h⟩))⟩

theorem Halts.of_step {s : σ} (h : (loop step s).Halts) : (step s).Halts := by
  rcases h with ⟨r, h⟩
  rcases returns_loop.1 h with ⟨e, hstep, _⟩ | ⟨a, hstep, _⟩ | ⟨s', hnext, _⟩
  · exact hstep.halts
  · exact hstep.halts
  · exact Returns.halts hnext

/-- A loop that halts has finitely many rounds. -/
theorem Halts.acc {s : σ} (h : (loop step s).Halts) : Acc (flip (Next step)) s := by
  rcases h with ⟨r, n, hrun⟩
  have hrun' : loopRun step n s = some r := hrun
  clear hrun
  induction n generalizing s with
  | zero => cases hrun'
  | succ n ih =>
    refine Acc.intro s ?_
    intro s' hnext
    simp only [loopRun] at hrun'
    cases hstep : (step s).run n with
    | none => simp [hstep] at hrun'
    | some result =>
      have hsame := Returns.unique hnext ⟨n, hstep⟩
      rw [hstep, ← hsame] at hrun'
      exact ih hrun'

/-- A loop halts exactly when its rounds end and every step it comes to halts. -/
theorem halts_loop_iff {s : σ} :
    (loop step s).Halts ↔
      Acc (flip (Next step)) s ∧ ∀ s', ReflTransGen (Next step) s s' → (step s').Halts := by
  constructor
  · intro h
    refine ⟨h.acc, ?_⟩
    intro s' hreach
    have hthere : (loop step s').Halts := by
      induction hreach with
      | refl => exact h
      | tail _ hnext ih => exact (halts_loop_next hnext).1 ih
    exact hthere.of_step
  · rintro ⟨hacc, hall⟩
    induction hacc with
    | intro s _ ih =>
      rcases hall s ReflTransGen.refl with ⟨result, hstep⟩
      cases result with
      | error e => exact ⟨.error e, returns_loop.2 (Or.inl ⟨e, hstep, rfl⟩)⟩
      | ok out =>
        cases out with
        | inr a => exact ⟨.ok a, returns_loop.2 (Or.inr (Or.inl ⟨a, hstep, rfl⟩))⟩
        | inl s' =>
          refine (halts_loop_next (show Next step s s' from hstep)).2 (ih s' hstep ?_)
          intro s'' hreach
          exact hall s'' (hreach.head hstep)

/-! ## Recursion -/

/-- What `x` answers, `y` answers with the same budget. -/
def Le (x y : Comp ε α) : Prop :=
  ∀ {n : Nat} {r : Except ε α}, x.run n = some r → y.run n = some r

theorem Le.refl (x : Comp ε α) : Le x x :=
  fun h => h

theorem Le.diverge (x : Comp ε α) : Le Comp.diverge x :=
  fun h => by cases h

theorem Le.bind {x y : Comp ε α} {f g : α → Comp ε β} (hxy : Le x y) (hfg : ∀ a, Le (f a) (g a)) :
    Le (x >>= f) (y >>= g) := by
  intro n r h
  have hrun : bindRun x f n = some r := h
  show bindRun y g n = some r
  unfold bindRun at hrun ⊢
  cases hx : x.run n with
  | none => simp [hx] at hrun
  | some result =>
    rw [hx] at hrun
    rw [hxy hx]
    cases result with
    | error e => exact hrun
    | ok a => exact hfg a hrun

/-- A recursive computation, as the limit of what it does within a depth of calls. -/
def limit (f : Nat → Comp ε α) (h : ∀ d, Le (f d) (f (d + 1))) : Comp ε α :=
  { run := fun n => (f n).run n
    mono := by
      intro n m r hle hrun
      have hdeeper : (f m).run n = some r := by
        induction hle with
        | refl => exact hrun
        | step _ ih => exact h _ ih
      exact (f m).mono hle hdeeper }

theorem returns_limit {f : Nat → Comp ε α} {h : ∀ d, Le (f d) (f (d + 1))} {r : Except ε α} :
    (limit f h).Returns r ↔ ∃ d, (f d).Returns r := by
  constructor
  · rintro ⟨n, hn⟩
    exact ⟨n, n, hn⟩
  · rintro ⟨d, n, hn⟩
    have hdeeper : ∀ k, (f (d + k)).run n = some r := by
      intro k
      induction k with
      | zero => exact hn
      | succ k ih => exact h _ ih
    refine ⟨d + n, ?_⟩
    exact (f (d + n)).mono (Nat.le_add_left n d) (hdeeper n)

end Comp

/-! ## Rounds that end -/

section Rounds

variable {σ β : Type*} {R : β → β → Prop}

/-- Rounds that end do not come back. -/
theorem not_cycle_of_acc {b : β} (h : Acc (flip R) b) : ¬ TransGen R b b := by
  have hacc : Acc (TransGen (flip R)) b := h.transGen
  induction hacc with
  | intro b _ ih =>
    intro hcycle
    exact ih b (transGen_swap.2 hcycle) h hcycle

theorem acc_of_reach {b c : β} (h : Acc (flip R) b) (hreach : ReflTransGen R b c) :
    Acc (flip R) c := by
  induction hreach with
  | refl => exact h
  | tail _ hstep ih => exact ih.inv hstep

/-- An endless run comes to some position twice. -/
theorem exists_repeat_of_not_acc {S : σ → σ → Prop} {pos : σ → β}
    (hfinite : Set.Finite {b | ∃ s s', S s s' ∧ pos s = b}) {s : σ} (hacc : ¬ Acc (flip S) s) :
    ∃ s₁ s₂ s₃, ReflTransGen S s s₁ ∧ TransGen S s₁ s₂ ∧ S s₂ s₃ ∧ pos s₁ = pos s₂ := by
  rcases not_acc_iff_exists_descending_chain.1 hacc with ⟨f, hstart, hstep⟩
  have hreach : ∀ n m, n ≤ m → ReflTransGen S (f n) (f m) := by
    intro n m hle
    induction hle with
    | refl => exact ReflTransGen.refl
    | step _ ih => exact ih.tail (hstep _)
  have hnot : ¬ Function.Injective (pos ∘ f) := by
    intro hinjective
    have hrange : Set.range (pos ∘ f) ⊆ {b | ∃ s s', S s s' ∧ pos s = b} := by
      rintro _ ⟨n, rfl⟩
      exact ⟨f n, f (n + 1), hstep n, rfl⟩
    exact Set.infinite_range_of_injective hinjective (hfinite.subset hrange)
  have htwice : ∃ n m, n < m ∧ pos (f n) = pos (f m) := by
    by_contra hnone
    refine hnot ?_
    intro n m hsame
    rcases lt_trichotomy n m with hlt | heq | hgt
    · exact absurd ⟨n, m, hlt, hsame⟩ hnone
    · exact heq
    · exact absurd ⟨m, n, hgt, hsame.symm⟩ hnone
  rcases htwice with ⟨n, m, hlt, hsame⟩
  refine ⟨f n, f m, f (m + 1), hstart ▸ hreach 0 n (Nat.zero_le n), ?_, hstep m, hsame⟩
  exact TransGen.head' (hstep n) (hreach (n + 1) m hlt)

/-- Where only finitely many positions have a next one, the rounds end exactly when they do not come
back to a position. -/
theorem acc_iff_no_cycle (hfinite : Set.Finite {b | ∃ b', R b b'}) {b : β} :
    Acc (flip R) b ↔ ∀ c, ReflTransGen R b c → ¬ TransGen R c c := by
  constructor
  · intro h c hreach
    exact not_cycle_of_acc (acc_of_reach h hreach)
  · intro h
    by_contra hacc
    have hfinite' : Set.Finite {b | ∃ s s', R s s' ∧ id s = b} := by
      refine hfinite.subset ?_
      rintro _ ⟨c, c', hstep, rfl⟩
      exact ⟨c', hstep⟩
    rcases exists_repeat_of_not_acc hfinite' hacc with ⟨c, c', _, hreach, hcycle, _, hsame⟩
    have hback : TransGen R c c := by
      rw [id, id] at hsame
      exact hsame ▸ hcycle
    exact h c hreach hback

/-- Rounds on states that follow the rounds on their positions. -/
theorem acc_iff_of_position {S : σ → σ → Prop} {pos : σ → β}
    (hstep : ∀ s s', S s s' → R (pos s) (pos s'))
    (hlift : ∀ s b, R (pos s) b → ∃ s', S s s' ∧ pos s' = b) {s : σ} :
    Acc (flip S) s ↔ Acc (flip R) (pos s) := by
  constructor
  · intro h
    induction h with
    | intro s _ ih =>
      refine Acc.intro _ ?_
      intro b hb
      rcases hlift s b hb with ⟨s', hs', rfl⟩
      exact ih s' hs'
  · intro h
    generalize hpos : pos s = b at h
    induction h generalizing s with
    | intro b _ ih =>
      subst hpos
      refine Acc.intro s ?_
      intro s' hs'
      exact ih (pos s') (hstep s s' hs') rfl

theorem reach_of_position {S : σ → σ → Prop} {pos : σ → β}
    (hlift : ∀ s b, R (pos s) b → ∃ s', S s s' ∧ pos s' = b) {s : σ} {b : β}
    (h : ReflTransGen R (pos s) b) : ∃ s', ReflTransGen S s s' ∧ pos s' = b := by
  induction h with
  | refl => exact ⟨s, ReflTransGen.refl, rfl⟩
  | tail _ hstep ih =>
    rcases ih with ⟨s', hreach, rfl⟩
    rcases hlift s' _ hstep with ⟨s'', hnext, hpos⟩
    exact ⟨s'', hreach.tail hnext, hpos⟩

/-- A loop whose rounds are decided by finitely many positions: it halts exactly when, at every
position it comes to, the step halts and the positions do not come back. -/
theorem Comp.halts_loop_iff_of_position {ε α τ : Type} {step : τ → Comp ε (τ ⊕ α)} {pos : τ → β}
    {P : β → Prop} (hstep : ∀ s s', Comp.Next step s s' → R (pos s) (pos s'))
    (hlift : ∀ s b, R (pos s) b → ∃ s', Comp.Next step s s' ∧ pos s' = b)
    (hhalts : ∀ s, (step s).Halts ↔ P (pos s)) (hfinite : Set.Finite {b | ∃ b', R b b'}) {s : τ} :
    (Comp.loop step s).Halts ↔ ∀ b, ReflTransGen R (pos s) b → P b ∧ ¬ TransGen R b b := by
  have hacc : Acc (flip (Comp.Next step)) s ↔ Acc (flip R) (pos s) :=
    acc_iff_of_position hstep hlift
  rw [Comp.halts_loop_iff, hacc, acc_iff_no_cycle hfinite]
  constructor
  · rintro ⟨hcycle, hall⟩ b hreach
    refine ⟨?_, hcycle b hreach⟩
    rcases reach_of_position hlift hreach with ⟨s', hreach', rfl⟩
    exact (hhalts s').1 (hall s' hreach')
  · intro h
    refine ⟨fun b hreach => (h b hreach).2, ?_⟩
    intro s' hreach
    exact (hhalts s').2 (h (pos s') (hreach.lift pos hstep)).1

end Rounds

end Library
end MoneyMachine
