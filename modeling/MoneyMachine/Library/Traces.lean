import Mathlib.Data.List.Basic
import Mathlib.Data.List.Induction

/-!
# Traces — obligations that an event leaves open

Some events may leave an obligation behind, and certain *guarded* events must not happen before it
was cleared: a write that may have been lost, and the next write.

* `Obligation.Met`  : between an event that opens the obligation and the next guarded one, something
  cleared it;
* `Obligation.owes` : the obligation is open at the end of the trace, computed along it.

`met_concat_iff` reduces the first to the second, one event at a time.
-/

namespace MoneyMachine
namespace Library

/-- The events that must not happen while the obligation is open, those among them that open it, and
the events that clear it. -/
structure Obligation (α : Type*) where
  guarded : α → Bool
  opens : α → Bool
  clears : α → Bool

/-- Where a trace is cut at an event, its last event is that one or comes after it. -/
theorem cut_of_concat {α : Type*} {trace before after : List α} {e cut : α}
    (h : trace ++ [e] = before ++ cut :: after) :
    (after = [] ∧ trace = before ∧ e = cut) ∨
      ∃ rest, after = rest ++ [e] ∧ trace = before ++ cut :: rest := by
  rcases List.eq_nil_or_concat after with rfl | ⟨rest, last, rfl⟩
  · rcases List.append_inj' h rfl with ⟨htrace, hlast⟩
    exact Or.inl ⟨rfl, htrace, List.singleton_inj.1 hlast⟩
  · have hconcat : trace ++ [e] = (before ++ cut :: rest) ++ [last] := by simpa using h
    rcases List.append_inj' hconcat rfl with ⟨htrace, hlast⟩
    have hsame : e = last := List.singleton_inj.1 hlast
    exact Or.inr ⟨rest, by simp [hsame], htrace⟩

namespace Obligation

variable {α : Type*} (o : Obligation α)

/-- Between a guarded event that opens the obligation and the next guarded event it is cleared. -/
def Met (trace : List α) : Prop :=
  ∀ before first between next after,
    trace = before ++ first :: (between ++ next :: after) →
      o.guarded first = true → o.opens first = true → o.guarded next = true →
        (∀ e ∈ between, o.guarded e = false) → ∃ e ∈ between, o.clears e = true

/-- The obligation after one more event. -/
def next (owed : Bool) (e : α) : Bool :=
  if o.guarded e then o.opens e else owed && !o.clears e

/-- The obligation is open at the end. -/
def owes (trace : List α) : Bool :=
  trace.foldl o.next false

@[simp] theorem owes_nil : o.owes [] = false := rfl

@[simp] theorem owes_concat (trace : List α) (e : α) :
    o.owes (trace ++ [e]) = o.next (o.owes trace) e := by
  simp [owes]

/-- It is open when the last guarded event opened it and nothing cleared it since. -/
theorem owes_iff {trace : List α} :
    o.owes trace = true ↔ ∃ before first between, trace = before ++ first :: between ∧
      o.guarded first = true ∧ o.opens first = true ∧
        ∀ e ∈ between, o.guarded e = false ∧ o.clears e = false := by
  induction trace using List.reverseRecOn with
  | nil => simp
  | append_singleton trace e ih =>
    rw [owes_concat, next]
    by_cases hguarded : o.guarded e = true
    · rw [if_pos hguarded]
      constructor
      · intro hopens
        exact ⟨trace, e, [], by simp, hguarded, hopens, by simp⟩
      · rintro ⟨before, first, between, htrace, _, hopens, hbetween⟩
        -- A guarded last event is the opening one itself.
        rcases cut_of_concat htrace with ⟨_, _, rfl⟩ | ⟨rest, rfl, _⟩
        · exact hopens
        · have hfalse := (hbetween e (by simp)).1
          rw [hguarded] at hfalse
          cases hfalse
    · have hfree : o.guarded e = false := by simpa using hguarded
      rw [if_neg hguarded, Bool.and_eq_true, ih]
      constructor
      · rintro ⟨⟨before, first, between, rfl, hfirst, hopens, hbetween⟩, hclears⟩
        refine ⟨before, first, between ++ [e], by simp, hfirst, hopens, ?_⟩
        intro e' he'
        rcases List.mem_append.1 he' with he' | he'
        · exact hbetween e' he'
        · rw [List.mem_singleton.1 he']
          exact ⟨hfree, by simpa using hclears⟩
      · rintro ⟨before, first, between, htrace, hfirst, hopens, hbetween⟩
        rcases cut_of_concat htrace with ⟨_, _, rfl⟩ | ⟨rest, rfl, hrest⟩
        · rw [hfirst] at hfree
          cases hfree
        · refine ⟨⟨before, first, rest, hrest, hfirst, hopens, ?_⟩, ?_⟩
          · intro e' he'
            exact hbetween e' (by simp [he'])
          · simpa using (hbetween e (by simp)).2

@[simp] theorem met_nil : o.Met [] := by
  intro before first between next after htrace
  simp at htrace

/-- One more event: a guarded one needs the obligation closed. -/
theorem met_concat_iff {trace : List α} {e : α} :
    o.Met (trace ++ [e]) ↔ o.Met trace ∧ (o.guarded e = true → o.owes trace = false) := by
  constructor
  · intro h
    refine ⟨?_, ?_⟩
    · intro before first between next after htrace
      refine h before first between next (after ++ [e]) ?_
      rw [htrace]
      simp
    · intro hguarded
      cases howes : o.owes trace with
      | false => rfl
      | true =>
        rcases o.owes_iff.1 howes with ⟨before, first, between, rfl, hfirst, hopens, hbetween⟩
        rcases h before first between e [] (by simp) hfirst hopens hguarded
          (fun e' he' => (hbetween e' he').1) with ⟨e', he', hclears⟩
        rw [(hbetween e' he').2] at hclears
        cases hclears
  · rintro ⟨hmet, hlast⟩ before first between next after htrace hfirst hopens hnext hbetween
    have hcut : trace ++ [e] = (before ++ first :: between) ++ next :: after := by
      simpa using htrace
    rcases cut_of_concat hcut with ⟨_, hrest, rfl⟩ | ⟨rest, _, hrest⟩
    · have hnot := hlast hnext
      -- Otherwise the obligation would be open.
      by_contra hnone
      have howes : o.owes trace = true := by
        refine o.owes_iff.2 ⟨before, first, between, hrest, hfirst, hopens, ?_⟩
        intro e' he'
        refine ⟨hbetween e' he', ?_⟩
        by_contra hclears
        exact hnone ⟨e', he', by simpa using hclears⟩
      rw [hnot] at howes
      cases howes
    · exact hmet before first between next rest (by simpa using hrest) hfirst hopens hnext hbetween

/-- An obligation not met is not met later. -/
theorem Met.of_append {trace more : List α} (h : o.Met (trace ++ more)) : o.Met trace := by
  induction more using List.reverseRecOn with
  | nil => simpa using h
  | append_singleton more e ih =>
    rw [← List.append_assoc] at h
    exact ih (o.met_concat_iff.1 h).1

end Obligation

end Library
end MoneyMachine
