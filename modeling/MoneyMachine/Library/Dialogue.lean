import MoneyMachine.Library.Script

/-!
# Dialogue — what a script asks, and the log of the answers

A script that talks to one partner leaves a log of its operations with their answers.

* `Script.Asks`  : whatever is answered, each operation is one that may be asked after the log so far, and
  the result fits the log it leaves;
* `Script.Reach` : what a script can come to, with its log;
* `Asks.reach`   : what was promised of a script is kept wherever it comes to;
* `gives_bind`   : facts of a log that later answers cannot undo add up along a sequence;
* `manages_bind` : answers that lead through each part of a sequence lead through it.
-/

namespace MoneyMachine
namespace Library

/-- An operation and its answer. -/
structure Exchange (Op : Type) (Ans : Op → Type) where
  op : Op
  answer : Ans op

namespace Script

variable {Op : Type} {Ans : Op → Type} {ε α β : Type}

/-- Whatever is answered: each operation may be asked where it is asked, and the result fits the log. -/
def Asks (may : List (Exchange Op Ans) → Op → Prop) (post : Except ε α → List (Exchange Op Ans) → Prop) :
    Script Op Ans ε α → List (Exchange Op Ans) → Prop
  | .ret a, log => post (.ok a) log
  | .raise e, log => post (.error e) log
  | .ask op next, log =>
    may log op ∧ ∀ answer, (next (.ok answer)).Asks may post (log ++ [⟨op, answer⟩])

/-- A script comes to another, with a longer log. -/
inductive Reach : Script Op Ans ε α → List (Exchange Op Ans) → Script Op Ans ε α →
    List (Exchange Op Ans) → Prop
  | refl (x : Script Op Ans ε α) (log : List (Exchange Op Ans)) : Reach x log x log
  | answered {op : Op} {next : Except ε (Ans op) → Script Op Ans ε α} {log log' : List (Exchange Op Ans)}
      {y : Script Op Ans ε α} (answer : Ans op)
      (rest : Reach (next (.ok answer)) (log ++ [⟨op, answer⟩]) y log') : Reach (.ask op next) log y log'

section Rules

variable {may may' : List (Exchange Op Ans) → Op → Prop}
  {post post' : Except ε α → List (Exchange Op Ans) → Prop} {log log' : List (Exchange Op Ans)}

theorem Asks.mono {x : Script Op Ans ε α} (h : x.Asks may post log)
    (hmay : ∀ log op, may log op → may' log op) (hpost : ∀ r log, post r log → post' r log) :
    x.Asks may' post' log := by
  induction x generalizing log with
  | ret a => exact hpost _ _ h
  | raise e => exact hpost _ _ h
  | ask op next ih => exact ⟨hmay log op h.1, fun answer => ih _ (h.2 answer)⟩

theorem asks_bind {mid : Except ε α → List (Exchange Op Ans) → Prop}
    {post : Except ε β → List (Exchange Op Ans) → Prop} {x : Script Op Ans ε α}
    {f : α → Script Op Ans ε β} (h : x.Asks may mid log)
    (hok : ∀ a log, mid (.ok a) log → (f a).Asks may post log)
    (herror : ∀ e log, mid (.error e) log → post (.error e) log) :
    (x >>= f).Asks may post log := by
  show (x.andThen f).Asks may post log
  induction x generalizing log with
  | ret a => exact hok a log h
  | raise e => exact herror e log h
  | ask op next ih => exact ⟨h.1, fun answer => ih _ (h.2 answer)⟩

theorem asks_request {op : Op} {post : Except ε (Ans op) → List (Exchange Op Ans) → Prop}
    (hmay : may log op) (hpost : ∀ answer, post (.ok answer) (log ++ [⟨op, answer⟩])) :
    (request op : Script Op Ans ε (Ans op)).Asks may post log :=
  ⟨hmay, hpost⟩

/-- What no operation undoes is kept along with the rest. -/
theorem Asks.keeps {I : List (Exchange Op Ans) → Prop} {x : Script Op Ans ε α} (h : x.Asks may post log)
    (hI : I log) (hstep : ∀ log op answer, I log → may log op → I (log ++ [⟨op, answer⟩])) :
    x.Asks (fun log op => may log op ∧ I log) (fun r log => post r log ∧ I log) log := by
  induction x generalizing log with
  | ret a => exact ⟨h, hI⟩
  | raise e => exact ⟨h, hI⟩
  | ask op next ih =>
    exact ⟨⟨h.1, hI⟩, fun answer => ih _ (h.2 answer) (hstep log op answer hI h.1)⟩

/-- What was promised of a script is kept wherever it comes to. -/
theorem Asks.reach {x y : Script Op Ans ε α} (h : x.Asks may post log) (hreach : Reach x log y log') :
    y.Asks may post log' := by
  induction hreach with
  | refl x log => exact h
  | answered answer rest ih => exact ih (h.2 answer)

theorem Reach.trans {x y z : Script Op Ans ε α} {log'' : List (Exchange Op Ans)}
    (h : Reach x log y log') (h' : Reach y log' z log'') : Reach x log z log'' := by
  induction h with
  | refl x log => exact h'
  | answered answer rest ih => exact .answered answer (ih h')

/-- What the first part comes to, the whole comes to. -/
theorem Reach.bind {x : Script Op Ans ε α} {a : α} (h : Reach x log (.ret a) log')
    (f : α → Script Op Ans ε β) : Reach (x >>= f) log (f a) log' := by
  show Reach (x.andThen f) log (f a) log'
  generalize hy : (Script.ret a : Script Op Ans ε α) = y at h
  induction h with
  | refl x log =>
    subst hy
    exact .refl _ _
  | answered answer rest ih => exact .answered answer (ih hy)

end Rules

/-! ## Facts that grow -/

/-- A fact of a log that further answers cannot undo. -/
def Lasting (P : List (Exchange Op Ans) → Prop) : Prop :=
  ∀ log more, P log → P (log ++ more)

theorem lasting_const (p : Prop) : Lasting (fun _ : List (Exchange Op Ans) => p) :=
  fun _ _ h => h

theorem Lasting.and {P P' : List (Exchange Op Ans) → Prop} (h : Lasting P) (h' : Lasting P') :
    Lasting (fun log => P log ∧ P' log) :=
  fun log more hboth => ⟨h log more hboth.1, h' log more hboth.2⟩

/-- Each operation is of a kind, and a result comes with a lasting fact. -/
def Gives (kind : Op → Prop) (Q : α → List (Exchange Op Ans) → Prop) (x : Script Op Ans ε α) : Prop :=
  ∀ log, x.Asks (fun _ op => kind op)
    (fun r log' => (∃ more, log' = log ++ more) ∧ ∀ a, r = .ok a → Q a log') log

section Gives

variable {kind : Op → Prop} {Q : α → List (Exchange Op Ans) → Prop}

theorem gives_ret {a : α} (h : ∀ log, Q a log) : Gives kind Q (.ret a : Script Op Ans ε α) := by
  intro log
  refine ⟨⟨[], (List.append_nil log).symm⟩, ?_⟩
  intro b hb
  cases hb
  exact h log

theorem gives_raise {e : ε} : Gives kind Q (.raise e : Script Op Ans ε α) := by
  intro log
  refine ⟨⟨[], (List.append_nil log).symm⟩, ?_⟩
  intro b hb
  cases hb

theorem Gives.mono {Q' : α → List (Exchange Op Ans) → Prop} {x : Script Op Ans ε α}
    (h : Gives kind Q x) (hQ : ∀ a log, Q a log → Q' a log) : Gives kind Q' x := by
  intro log
  apply (h log).mono (fun _ _ hkind => hkind)
  rintro r log' ⟨hmore, hresult⟩
  exact ⟨hmore, fun a ha => hQ a log' (hresult a ha)⟩

/-- Facts add up: what the first part left still holds when the second part is done. -/
theorem gives_bind {R : β → List (Exchange Op Ans) → Prop} {x : Script Op Ans ε α}
    {f : α → Script Op Ans ε β} (h : Gives kind Q x) (hlasting : ∀ a, Lasting (Q a))
    (hf : ∀ a, Gives kind (fun b log => Q a log → R b log) (f a)) : Gives kind R (x >>= f) := by
  intro log
  apply asks_bind (h log)
  · rintro a log₁ ⟨⟨more, rfl⟩, hresult⟩
    apply (hf a _).mono (fun _ _ hkind => hkind)
    rintro r log₂ ⟨⟨more', rfl⟩, hresult'⟩
    refine ⟨⟨more ++ more', List.append_assoc _ _ _⟩, ?_⟩
    intro b hb
    exact hresult' b hb (hlasting a _ more' (hresult a rfl))
  · rintro e log₁ ⟨hmore, -⟩
    exact ⟨hmore, fun b hb => by cases hb⟩

theorem gives_request {op : Op} (h : kind op) {Q : Ans op → List (Exchange Op Ans) → Prop}
    (hQ : ∀ log answer, Q answer (log ++ [⟨op, answer⟩])) :
    Gives kind Q (request op : Script Op Ans ε (Ans op)) := by
  intro log
  apply asks_request h
  intro answer
  refine ⟨⟨_, rfl⟩, ?_⟩
  intro b hb
  cases hb
  exact hQ log answer

end Gives

/-! ## Answers that lead to a result -/

/-- Some answers lead to a result, with operations of a kind only. -/
def Manages (kind : Op → Prop) (Q : α → Prop) (x : Script Op Ans ε α) : Prop :=
  ∀ log, ∃ a more, Q a ∧ Reach x log (.ret a) (log ++ more) ∧ ∀ exchange ∈ more, kind exchange.op

section Manages

variable {kind : Op → Prop} {Q : α → Prop}

theorem manages_ret {a : α} (h : Q a) : Manages kind Q (.ret a : Script Op Ans ε α) := by
  intro log
  refine ⟨a, [], h, ?_, by simp⟩
  rw [List.append_nil]
  exact .refl _ _

theorem manages_bind {R : β → Prop} {x : Script Op Ans ε α} {f : α → Script Op Ans ε β}
    (h : Manages kind Q x) (hf : ∀ a, Q a → Manages kind R (f a)) : Manages kind R (x >>= f) := by
  intro log
  obtain ⟨a, more, ha, hreach, hkind⟩ := h log
  obtain ⟨b, more', hb, hreach', hkind'⟩ := hf a ha (log ++ more)
  refine ⟨b, more ++ more', hb, ?_, ?_⟩
  · rw [← List.append_assoc]
    exact (hreach.bind f).trans hreach'
  · intro exchange hmem
    rcases List.mem_append.mp hmem with hmem | hmem
    · exact hkind exchange hmem
    · exact hkind' exchange hmem

theorem manages_request {op : Op} (h : kind op) {Q : Ans op → Prop} (answer : Ans op) (hQ : Q answer) :
    Manages kind Q (request op : Script Op Ans ε (Ans op)) := by
  intro log
  refine ⟨answer, [⟨op, answer⟩], hQ, .answered answer (.refl _ _), ?_⟩
  intro exchange hmem
  rw [List.mem_singleton] at hmem
  subst hmem
  exact h

end Manages

end Script

end Library
end MoneyMachine
