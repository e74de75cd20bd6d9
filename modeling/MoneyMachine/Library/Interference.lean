import MoneyMachine.Library.Script

/-!
# Interference — scripts that share a state they change

`Script.Only` speaks of the operations of one script whatever is answered.  Here the answers come from a
state that other scripts change between any two operations:

* `Script.Holds`   : as long as the others change the state along `rely`, each operation is one that
  `may` be asked in the state it finds, and the result satisfies `post`;
* `Script.run`     : a script alone;
* `World.turn`     : one operation of the script whose turn it is, told whose it is;
* `holds_turn`     : scripts whose operations respect what the others rely on keep all these promises.
-/

namespace MoneyMachine
namespace Library

namespace Script

variable {Op : Type} {Ans : Op → Type} {ε α β σ τ : Type}

/-- What a script ends with, as a value. -/
def attempt (x : Script Op Ans ε α) : Script Op Ans ε (Except ε α) :=
  (x.andThen (fun a => .ret (.ok a))).handle (fun e => .ret (.error e))

def ofExcept : Except ε α → Script Op Ans ε α
  | .ok a => .ret a
  | .error e => .raise e

/-- `try: x finally: cleanup`. -/
def lastly (x : Script Op Ans ε α) (cleanup : Script Op Ans ε Unit) : Script Op Ans ε α :=
  x.attempt.andThen (fun r => cleanup.andThen (fun _ => ofExcept r))

theorem ofExcept_ok_bind (a : α) (f : α → Script Op Ans ε β) : (ofExcept (.ok a) >>= f) = f a :=
  rfl

theorem ofExcept_error_bind (e : ε) (f : α → Script Op Ans ε β) :
    (ofExcept (.error e) >>= f) = raise e :=
  rfl

variable (perform : σ → τ → (op : Op) → Except ε (Ans op) × σ)

/-- The script alone, each operation performed with the choice `c`. -/
def run (c : τ) : Script Op Ans ε α → σ → Except ε α × σ
  | .ret a, s => (.ok a, s)
  | .raise e, s => (.error e, s)
  | .ask op next, s => (next (perform s c op).1).run c (perform s c op).2

/-- While the others change the state along `rely`: each operation `may` be asked where it is asked, and
what the script ends with satisfies `post`. -/
def Holds (rely : σ → σ → Prop) (may : σ → Op → Prop) (post : Except ε α → σ → Prop) :
    Script Op Ans ε α → σ → Prop
  | .ret a, s => ∀ s', rely s s' → post (.ok a) s'
  | .raise e, s => ∀ s', rely s s' → post (.error e) s'
  | .ask op next, s =>
    ∀ s', rely s s' →
      may s' op ∧ ∀ c, (next (perform s' c op).1).Holds rely may post (perform s' c op).2

section Run

variable {perform} {c : τ} {s : σ}

@[simp] theorem run_ret (a : α) : (ret a : Script Op Ans ε α).run perform c s = (.ok a, s) := rfl

@[simp] theorem run_raise (e : ε) :
    (raise e : Script Op Ans ε α).run perform c s = (.error e, s) := rfl

theorem run_andThen (x : Script Op Ans ε α) (f : α → Script Op Ans ε β) :
    (x.andThen f).run perform c s =
      match x.run perform c s with
      | (.ok a, s') => (f a).run perform c s'
      | (.error e, s') => (.error e, s') := by
  induction x generalizing s with
  | ret a => rfl
  | raise e => rfl
  | ask op next ih => exact ih _

theorem run_bind (x : Script Op Ans ε α) (f : α → Script Op Ans ε β) :
    (x >>= f).run perform c s =
      match x.run perform c s with
      | (.ok a, s') => (f a).run perform c s'
      | (.error e, s') => (.error e, s') :=
  run_andThen x f

theorem run_handle (x : Script Op Ans ε α) (handler : ε → Script Op Ans ε α) :
    (x.handle handler).run perform c s =
      match x.run perform c s with
      | (.ok a, s') => (.ok a, s')
      | (.error e, s') => (handler e).run perform c s' := by
  induction x generalizing s with
  | ret a => rfl
  | raise e => rfl
  | ask op next ih => exact ih _

@[simp] theorem run_request (op : Op) :
    (request op : Script Op Ans ε (Ans op)).run perform c s = perform s c op := by
  simp only [request, run]
  rcases perform s c op with ⟨r, s'⟩
  cases r with
  | ok a => rfl
  | error e => rfl

@[simp] theorem run_ofExcept (r : Except ε α) :
    (ofExcept r : Script Op Ans ε α).run perform c s = (r, s) := by
  cases r with
  | ok a => rfl
  | error e => rfl

theorem run_attempt (x : Script Op Ans ε α) :
    x.attempt.run perform c s = (.ok (x.run perform c s).1, (x.run perform c s).2) := by
  induction x generalizing s with
  | ret a => rfl
  | raise e => rfl
  | ask op next ih => exact ih _

theorem run_lastly (x : Script Op Ans ε α) (cleanup : Script Op Ans ε Unit) :
    (x.lastly cleanup).run perform c s =
      match cleanup.run perform c (x.run perform c s).2 with
      | (.ok _, s') => ((x.run perform c s).1, s')
      | (.error e, s') => (.error e, s') := by
  rw [lastly, run_andThen, run_attempt]
  simp only [run_andThen]
  rcases cleanup.run perform c (x.run perform c s).2 with ⟨done, s'⟩
  cases done with
  | ok _ => simp
  | error e => rfl

end Run

/-- It holds, however the others go on. -/
def Stays (rely : σ → σ → Prop) (P : σ → Prop) (s : σ) : Prop :=
  ∀ s', rely s s' → P s'

variable {perform} {rely : σ → σ → Prop} {may : σ → Op → Prop}

/-! ## Rules -/

/-- What the others do before the next operation is covered. -/
theorem Holds.stable (htrans : ∀ s s' s'', rely s s' → rely s' s'' → rely s s'')
    {post : Except ε α → σ → Prop} {x : Script Op Ans ε α} {s s' : σ}
    (h : x.Holds perform rely may post s) (hs : rely s s') :
    x.Holds perform rely may post s' := by
  cases x with
  | ret a => exact fun s'' hs' => h s'' (htrans s s' s'' hs hs')
  | raise e => exact fun s'' hs' => h s'' (htrans s s' s'' hs hs')
  | ask op next => exact fun s'' hs' => h s'' (htrans s s' s'' hs hs')

theorem Holds.mono {post post' : Except ε α → σ → Prop} {x : Script Op Ans ε α} {s : σ}
    (h : x.Holds perform rely may post s) (hpost : ∀ r s, post r s → post' r s) :
    x.Holds perform rely may post' s := by
  induction x generalizing s with
  | ret a => exact fun s' hs => hpost _ s' (h s' hs)
  | raise e => exact fun s' hs => hpost _ s' (h s' hs)
  | ask op next ih =>
    intro s' hs
    rcases h s' hs with ⟨hmay, hnext⟩
    exact ⟨hmay, fun c => ih _ (hnext c)⟩

/-- What was shown of a script alone holds of it among others, together with anything that the others and
its own operations keep. -/
theorem holds_of_only {P : Op → Prop} {Q : Except ε α → Prop} {pre : σ → Prop}
    {x : Script Op Ans ε α} {s : σ} (h : x.Only P (fun _ _ => True) Q)
    (hmay : ∀ s op, P op → may s op) (hrely : ∀ s s', rely s s' → pre s → pre s')
    (hperform : ∀ s c op, P op → pre s → pre (perform s c op).2) (hs : pre s) :
    x.Holds perform rely may (fun r s => Q r ∧ pre s) s := by
  induction x generalizing s with
  | ret a => exact fun s' hs' => ⟨h, hrely s s' hs' hs⟩
  | raise e => exact fun s' hs' => ⟨h, hrely s s' hs' hs⟩
  | ask op next ih =>
    intro s' hs'
    have hpre : pre s' := hrely s s' hs' hs
    exact ⟨hmay s' op h.1, fun c => ih _ (h.2 _ trivial) (hperform s' c op h.1 hpre)⟩

theorem holds_ofExcept {post : Except ε α → σ → Prop} {r : Except ε α} {s : σ}
    (h : Stays rely (post r) s) :
    (ofExcept r : Script Op Ans ε α).Holds perform rely may post s := by
  cases r with
  | ok a => exact h
  | error e => exact h

/-- The next operation, from a state where `pre` holds however the others go on. -/
theorem holds_ask (pre : σ → Prop) {post : Except ε α → σ → Prop} {op : Op}
    {next : Except ε (Ans op) → Script Op Ans ε α} {s : σ} (hpre : Stays rely pre s)
    (hmay : ∀ s, pre s → may s op)
    (hnext : ∀ s c, pre s →
      (next (perform s c op).1).Holds perform rely may post (perform s c op).2) :
    (ask op next).Holds perform rely may post s :=
  fun s' hs => ⟨hmay s' (hpre s' hs), fun c => hnext s' c (hpre s' hs)⟩

/-- One operation. -/
theorem holds_request (pre : σ → Prop) {op : Op} {post : Except ε (Ans op) → σ → Prop} {s : σ}
    (hpre : Stays rely pre s) (hmay : ∀ s, pre s → may s op)
    (hnext : ∀ s c, pre s → Stays rely (post (perform s c op).1) (perform s c op).2) :
    (request op : Script Op Ans ε (Ans op)).Holds perform rely may post s := by
  apply holds_ask pre hpre hmay
  intro s c hs
  have hafter := hnext s c hs
  cases hanswer : (perform s c op).1 with
  | ok a =>
    rw [hanswer] at hafter
    exact hafter
  | error e =>
    rw [hanswer] at hafter
    exact hafter

theorem holds_andThen (mid : Except ε α → σ → Prop) {post : Except ε β → σ → Prop}
    {x : Script Op Ans ε α} {f : α → Script Op Ans ε β} {s : σ}
    (h : x.Holds perform rely may mid s)
    (hok : ∀ a s, Stays rely (mid (.ok a)) s → (f a).Holds perform rely may post s)
    (herror : ∀ e s, mid (.error e) s → post (.error e) s) :
    (x.andThen f).Holds perform rely may post s := by
  induction x generalizing s with
  | ret a => exact hok a s h
  | raise e => exact fun s' hs => herror e s' (h s' hs)
  | ask op next ih =>
    intro s' hs
    rcases h s' hs with ⟨hmay, hnext⟩
    exact ⟨hmay, fun c => ih _ (hnext c)⟩

theorem holds_bind (mid : Except ε α → σ → Prop) {post : Except ε β → σ → Prop}
    {x : Script Op Ans ε α} {f : α → Script Op Ans ε β} {s : σ}
    (h : x.Holds perform rely may mid s)
    (hok : ∀ a s, Stays rely (mid (.ok a)) s → (f a).Holds perform rely may post s)
    (herror : ∀ e s, mid (.error e) s → post (.error e) s) :
    (x >>= f).Holds perform rely may post s :=
  holds_andThen mid h hok herror

theorem holds_handle (mid : Except ε α → σ → Prop) {post : Except ε α → σ → Prop} {x : Script Op Ans ε α}
    {handler : ε → Script Op Ans ε α} {s : σ} (h : x.Holds perform rely may mid s)
    (hok : ∀ a s, mid (.ok a) s → post (.ok a) s)
    (herror : ∀ e s, Stays rely (mid (.error e)) s →
      (handler e).Holds perform rely may post s) :
    (x.handle handler).Holds perform rely may post s := by
  induction x generalizing s with
  | ret a => exact fun s' hs => hok a s' (h s' hs)
  | raise e => exact herror e s h
  | ask op next ih =>
    intro s' hs
    rcases h s' hs with ⟨hmay, hnext⟩
    exact ⟨hmay, fun c => ih _ (hnext c)⟩

theorem holds_attempt {post : Except ε α → σ → Prop} {x : Script Op Ans ε α} {s : σ}
    (h : x.Holds perform rely may post s) :
    x.attempt.Holds perform rely may
      (fun r s => match r with
        | .ok r => post r s
        | .error _ => False) s := by
  induction x generalizing s with
  | ret a => exact h
  | raise e => exact h
  | ask op next ih =>
    intro s' hs
    rcases h s' hs with ⟨hmay, hnext⟩
    exact ⟨hmay, fun c => ih _ (hnext c)⟩

/-- The cleanup starts from what the body leaves, whichever way it ended. -/
theorem holds_lastly (mid : Except ε α → σ → Prop) {post : Except ε α → σ → Prop} {x : Script Op Ans ε α}
    {cleanup : Script Op Ans ε Unit} {s : σ} (h : x.Holds perform rely may mid s)
    (hcleanup : ∀ r s, Stays rely (mid r) s →
      cleanup.Holds perform rely may
        (fun done s => match done with
          | .ok _ => post r s
          | .error e => post (.error e) s) s) :
    (x.lastly cleanup).Holds perform rely may post s := by
  apply holds_andThen _ (holds_attempt h)
  · intro r s hr
    apply holds_andThen _ (hcleanup r s hr)
    · intro _ s hpost
      exact holds_ofExcept hpost
    · intro e s hpost
      exact hpost
  · intro e s hfalse
    exact hfalse.elim

end Script

namespace Script

/-- What a script ended with, when it has ended. -/
def result? {Op : Type} {Ans : Op → Type} {ε α : Type} : Script Op Ans ε α → Option (Except ε α)
  | .ret a => some (.ok a)
  | .raise e => some (.error e)
  | .ask _ _ => none

theorem post_of_result? {Op : Type} {Ans : Op → Type} {ε α σ τ : Type}
    {perform : σ → τ → (op : Op) → Except ε (Ans op) × σ} {rely : σ → σ → Prop}
    {may : σ → Op → Prop} {post : Except ε α → σ → Prop} {x : Script Op Ans ε α} {s : σ}
    (h : x.Holds perform rely may post s) (hrefl : rely s s) {r : Except ε α}
    (hr : x.result? = some r) : post r s := by
  cases x with
  | ret a =>
    cases hr
    exact h s hrefl
  | raise e =>
    cases hr
    exact h s hrefl
  | ask op next => cases hr

end Script

/-! ## Turns -/

namespace World

variable {Op : Type} {Ans : Op → Type} {ε α ι σ τ : Type} [DecidableEq ι]

/-- One operation of the script whose turn it is. -/
def turn (perform : ι → σ → τ → (op : Op) → Except ε (Ans op) × σ) (w : World Op Ans ε α ι σ)
    (t : ι × τ) : World Op Ans ε α ι σ :=
  match w.scripts t.1 with
  | .ask op next =>
    { shared := (perform t.1 w.shared t.2 op).2
      scripts := Function.update w.scripts t.1 (next (perform t.1 w.shared t.2 op).1) }
  | _ => w

/-- What a script may do is what every other script relies on. -/
structure Respects (perform : ι → σ → τ → (op : Op) → Except ε (Ans op) × σ)
    (rely : ι → σ → σ → Prop) (may : ι → σ → Op → Prop) : Prop where
  refl : ∀ i s, rely i s s
  trans : ∀ i s s' s'', rely i s s' → rely i s' s'' → rely i s s''
  others : ∀ {i j s op}, j ≠ i → may i s op → ∀ c, rely j s (perform i s c op).2

variable {perform : ι → σ → τ → (op : Op) → Except ε (Ans op) × σ} {rely : ι → σ → σ → Prop}
  {may : ι → σ → Op → Prop} {post : ι → Except ε α → σ → Prop} {w : World Op Ans ε α ι σ}

/-- What is left of the script `i` keeps its promises. -/
def Keeps (perform : ι → σ → τ → (op : Op) → Except ε (Ans op) × σ) (rely : ι → σ → σ → Prop)
    (may : ι → σ → Op → Prop) (post : ι → Except ε α → σ → Prop) (w : World Op Ans ε α ι σ)
    (i : ι) : Prop :=
  (w.scripts i).Holds (perform i) (rely i) (may i) (post i) w.shared

/-- The operation whose turn it is may be asked. -/
def MayTurn (may : ι → σ → Op → Prop) (w : World Op Ans ε α ι σ) (t : ι × τ) : Prop :=
  ∀ op, w.asks t.1 = some op → may t.1 w.shared op

omit [DecidableEq ι] in
theorem mayTurn_of_keeps (hrefl : ∀ i s, rely i s s) {t : ι × τ}
    (h : Keeps perform rely may post w t.1) : MayTurn may w t := by
  intro op hop
  unfold Keeps at h
  unfold asks at hop
  cases hscript : w.scripts t.1 with
  | ret a => simp [hscript] at hop
  | raise e => simp [hscript] at hop
  | ask op' next =>
    rw [hscript] at hop h
    cases hop
    exact (h w.shared (hrefl t.1 w.shared)).1

/-- The script whose turn it is goes on keeping its promises. -/
theorem keeps_own (hrefl : ∀ i s, rely i s s) {t : ι × τ} (h : Keeps perform rely may post w t.1) :
    Keeps perform rely may post (turn perform w t) t.1 := by
  unfold Keeps turn at *
  cases hscript : w.scripts t.1 with
  | ret a => simpa [hscript] using h
  | raise e => simpa [hscript] using h
  | ask op next =>
    rw [hscript] at h
    simpa using (h w.shared (hrefl t.1 w.shared)).2 t.2

/-- A script keeps its promises through a turn of another one that it can rely on. -/
theorem keeps_other (htrans : ∀ i s s' s'', rely i s s' → rely i s' s'' → rely i s s'') {i : ι}
    {t : ι × τ} (hi : i ≠ t.1) (h : Keeps perform rely may post w i)
    (hrely : rely i w.shared (turn perform w t).shared) :
    Keeps perform rely may post (turn perform w t) i := by
  have hscripts : (turn perform w t).scripts i = w.scripts i := by
    unfold turn
    split
    · exact Function.update_of_ne hi _ _
    · rfl
  unfold Keeps at *
  rw [hscripts]
  exact h.stable (htrans i) hrely

/-- The shared state after a turn that may be taken. -/
theorem rely_turn (hrespects : Respects perform rely may) {i : ι} {t : ι × τ} (hi : i ≠ t.1)
    (hmay : MayTurn may w t) : rely i w.shared (turn perform w t).shared := by
  unfold MayTurn asks at hmay
  unfold turn
  split
  · rename_i op next hscript
    rw [hscript] at hmay
    exact hrespects.others hi (hmay op rfl) t.2
  · exact hrespects.refl i w.shared

/-- All scripts keep their promises through every turn. -/
theorem keeps_turn (hrespects : Respects perform rely may)
    (h : ∀ i, Keeps perform rely may post w i) (t : ι × τ) (i : ι) :
    Keeps perform rely may post (turn perform w t) i := by
  by_cases hi : i = t.1
  · subst hi
    exact keeps_own hrespects.refl (h t.1)
  · have hmay : MayTurn may w t := mayTurn_of_keeps hrespects.refl (h t.1)
    exact keeps_other hrespects.trans hi (h i) (rely_turn hrespects hi hmay)

/-- Along every run, each operation is one that may be asked. -/
theorem along_mayTurn (hrespects : Respects perform rely may)
    (h : ∀ i, Keeps perform rely may post w i) (turns : List (ι × τ)) :
    Along (turn perform) (MayTurn may) w turns := by
  induction turns generalizing w with
  | nil => exact trivial
  | cons t turns ih =>
    exact ⟨mayTurn_of_keeps hrespects.refl (h t.1), ih (keeps_turn hrespects h t)⟩

theorem turn_shared (w : World Op Ans ε α ι σ) (t : ι × τ) :
    (turn perform w t).shared = w.shared ∨
      ∃ op, w.asks t.1 = some op ∧
        (turn perform w t).shared = (perform t.1 w.shared t.2 op).2 := by
  unfold turn asks
  cases hscript : w.scripts t.1 with
  | ret a => exact Or.inl rfl
  | raise e => exact Or.inl rfl
  | ask op next => exact Or.inr ⟨op, rfl, rfl⟩

/-- A script that takes no turn is where it was. -/
theorem scripts_of_no_turn {i : ι} {turns : List (ι × τ)} (h : ∀ t ∈ turns, t.1 ≠ i) :
    (runFrom (turn perform) w turns).scripts i = w.scripts i := by
  induction turns generalizing w with
  | nil => rfl
  | cons t turns ih =>
    have hother : (turn perform w t).scripts i = w.scripts i := by
      unfold turn
      split
      · exact Function.update_of_ne (h t List.mem_cons_self).symm _ _
      · rfl
    rw [runFrom_cons, ih (fun u hu => h u (List.mem_cons_of_mem t hu)), hother]

/-- One script keeps its promises along a run on which it can rely. -/
theorem keeps_run (hrefl : ∀ i s, rely i s s)
    (htrans : ∀ i s s' s'', rely i s s' → rely i s' s'' → rely i s s'') {i : ι}
    {turns : List (ι × τ)}
    (hrely : Along (turn perform)
      (fun w t => i ≠ t.1 → rely i w.shared (turn perform w t).shared) w turns)
    (h : Keeps perform rely may post w i) :
    Keeps perform rely may post (runFrom (turn perform) w turns) i := by
  apply runFrom_invariant_along (I := fun w => Keeps perform rely may post w i) _ h hrely
  intro w t hw ht
  by_cases hi : i = t.1
  · subst hi
    exact keeps_own hrefl hw
  · exact keeps_other htrans hi hw (ht hi)

end World

end Library
end MoneyMachine
