import Mathlib.Data.Finset.Card
import Mathlib.Data.List.Nodup
import Mathlib.Logic.Relation

/-!
# DepthFirst — finding a cycle by depth-first search

The search visits keys and the keys they refer to.  A name that is on the path to itself is a cycle; a name
that was finished before, or that is no key, is passed over.  The finished names are shared by all visits.

* `visit`, `visitAll` : the search; a cycle is returned as the path to it;
* `Edge`              : the references between keys;
* `EvaluationOrder`   : each key after the keys it refers to;
* `search_ok`         : a search without a cycle finishes the keys in an evaluation order;
* `search_error`      : a cycle that is found is one;
* `search_exact`      : so it finds one exactly when there is one.
-/

namespace MoneyMachine
namespace Library
namespace DepthFirst

open Relation

/-! ## References -/

section Names

variable {α : Type}

section References

variable (keys : List α) (targets : α → List α)

/-- A key refers to a key. -/
def Edge (name target : α) : Prop := name ∈ keys ∧ target ∈ targets name ∧ target ∈ keys

/-- The keys in an order in which each comes after the keys it refers to. -/
structure EvaluationOrder (order : List α) : Prop where
  nodup : order.Nodup
  covers : ∀ name, name ∈ order ↔ name ∈ keys
  earlier : ∀ before name after, order = before ++ name :: after →
    ∀ target ∈ targets name, target ∈ keys → target ∈ before

/-- Finished names, the latest first: each is a key whose own targets were finished before it. -/
def Finished : List α → Prop
  | [] => True
  | name :: done =>
    name ∈ keys ∧ name ∉ done ∧ (∀ target ∈ targets name, target ∈ keys → target ∈ done) ∧ Finished done

/-- A path that leads to a name through keys. -/
def LeadsTo (path : List α) (name : α) : Prop :=
  ∀ earlier ∈ path, earlier ∈ keys ∧ (name ∈ keys → TransGen (Edge keys targets) earlier name)

/-- The reported path ends where it has been before, and that name is on a cycle. -/
def IsCycle (cycle : List α) : Prop :=
  ∃ front name, cycle = front ++ [name] ∧ name ∈ front ∧ TransGen (Edge keys targets) name name

/-- What a visit of several names makes of the finished ones. -/
def Visited (names path done : List α) : Except (List α) (List α) → Prop
  | .error cycle => IsCycle keys targets cycle
  | .ok finished =>
    Finished keys targets finished ∧ (∀ other ∈ done, other ∈ finished) ∧
      (∀ name ∈ names, name ∈ keys → name ∈ finished) ∧ ∀ earlier ∈ path, earlier ∉ finished

end References

variable {keys : List α} {targets : α → List α}

/-! ## What a visit does -/

/-- A path to a key leads on to what the key refers to. -/
theorem LeadsTo.snoc {path : List α} {name target : α} (h : LeadsTo keys targets path name)
    (hkey : name ∈ keys) (htarget : target ∈ targets name) :
    LeadsTo keys targets (path ++ [name]) target := by
  intro earlier hearlier
  rcases List.mem_append.mp hearlier with hpath | hname
  · refine ⟨(h earlier hpath).1, ?_⟩
    intro htargetKey
    exact TransGen.tail ((h earlier hpath).2 hkey) ⟨hkey, htarget, htargetKey⟩
  · rw [List.mem_singleton.mp hname]
    exact ⟨hkey, fun htargetKey => TransGen.single ⟨hkey, htarget, htargetKey⟩⟩

/-- What a visit of several names on a path starts from. -/
structure Ready (keys : List α) (targets : α → List α) (names path done : List α) : Prop where
  finished : Finished keys targets done
  free : ∀ earlier ∈ path, earlier ∉ done
  leads : ∀ name ∈ names, LeadsTo keys targets path name

theorem ready_start : Ready keys targets keys [] [] where
  finished := trivial
  free := fun _ h => absurd h List.not_mem_nil
  leads := fun _ _ _ h => absurd h List.not_mem_nil

/-- Below a name that is neither on the path nor finished, its targets can be visited. -/
theorem Ready.below {name : α} {path done : List α} (h : Ready keys targets [name] path done)
    (hkey : name ∈ keys) (hdone : name ∉ done) :
    Ready keys targets (targets name) (path ++ [name]) done where
  finished := h.finished
  free := by
    intro earlier hearlier
    rcases List.mem_append.mp hearlier with hpath | hname
    · exact h.free earlier hpath
    · rw [List.mem_singleton.mp hname]
      exact hdone
  leads := by
    intro target htarget
    exact (h.leads name (List.mem_singleton_self name)).snoc hkey htarget

/-- A name on its own path is a cycle, since every name on a path is a key. -/
theorem Ready.cycle {name : α} {path done : List α} (h : Ready keys targets [name] path done)
    (hpath : name ∈ path) : IsCycle keys targets (path ++ [name]) := by
  obtain ⟨hkey, hreach⟩ := h.leads name (List.mem_singleton_self name) name hpath
  exact ⟨path, name, rfl, hpath, hreach hkey⟩

/-- A name that is finished or no key is passed over. -/
theorem Ready.skipped {name : α} {path done : List α} (h : Ready keys targets [name] path done)
    (hskip : name ∈ done ∨ name ∉ keys) : Visited keys targets [name] path done (.ok done) := by
  refine ⟨h.finished, fun _ hother => hother, ?_, h.free⟩
  intro other hother hkey
  rw [List.mem_singleton.mp hother] at hkey ⊢
  exact hskip.resolve_right (not_not.mpr hkey)

/-- After its targets a name is finished. -/
theorem Visited.finish {name : α} {path done finished : List α}
    (h : Visited keys targets (targets name) (path ++ [name]) done (.ok finished))
    (hkey : name ∈ keys) (hpath : name ∉ path) :
    Visited keys targets [name] path done (.ok (name :: finished)) := by
  obtain ⟨hfinished, hgrows, hcovers, hfree⟩ := h
  have hname : name ∉ finished := hfree name (List.mem_append_right _ (List.mem_singleton_self name))
  refine ⟨⟨hkey, hname, hcovers, hfinished⟩, ?_, ?_, ?_⟩
  · intro other hother
    exact List.mem_cons_of_mem _ (hgrows other hother)
  · intro other hother _
    rw [List.mem_singleton.mp hother]
    exact List.mem_cons_self
  · intro earlier hearlier hmem
    rcases List.mem_cons.mp hmem with rfl | hlater
    · exact hpath hearlier
    · exact hfree earlier (List.mem_append_left _ hearlier) hlater

/-- Between two names of a list the second is ready. -/
theorem Ready.next {name : α} {names path done finished : List α}
    (h : Ready keys targets (name :: names) path done)
    (hvisited : Visited keys targets [name] path done (.ok finished)) :
    Ready keys targets names path finished where
  finished := hvisited.1
  free := hvisited.2.2.2
  leads := fun other hother => h.leads other (List.mem_cons_of_mem _ hother)

theorem Ready.head {name : α} {names path done : List α}
    (h : Ready keys targets (name :: names) path done) : Ready keys targets [name] path done where
  finished := h.finished
  free := h.free
  leads := by
    intro other hother
    rw [List.mem_singleton.mp hother]
    exact h.leads name List.mem_cons_self

theorem Visited.cons {name : α} {names path done finished : List α} {result : Except (List α) (List α)}
    (hfirst : Visited keys targets [name] path done (.ok finished))
    (hrest : Visited keys targets names path finished result) :
    Visited keys targets (name :: names) path done result := by
  cases result with
  | error cycle => exact hrest
  | ok last =>
    obtain ⟨-, hgrows, hcovers, -⟩ := hfirst
    obtain ⟨hfinished, hgrows', hcovers', hfree⟩ := hrest
    refine ⟨hfinished, fun other hother => hgrows' other (hgrows other hother), ?_, hfree⟩
    intro other hother hkey
    rcases List.mem_cons.mp hother with rfl | hlater
    · exact hgrows' other (hcovers other (List.mem_singleton_self other) hkey)
    · exact hcovers' other hlater hkey

/-- What is finished was finished after its targets. -/
theorem Finished.later {done front back : List α} {name : α} (h : Finished keys targets done)
    (hdone : done = front ++ name :: back) :
    ∀ target ∈ targets name, target ∈ keys → target ∈ back := by
  induction front generalizing done with
  | nil =>
    subst hdone
    exact h.2.2.1
  | cons other front ih =>
    subst hdone
    exact ih h.2.2.2 rfl

theorem Finished.nodup {done : List α} (h : Finished keys targets done) :
    done.Nodup ∧ ∀ name ∈ done, name ∈ keys := by
  induction done with
  | nil => exact ⟨List.nodup_nil, fun _ hname => absurd hname List.not_mem_nil⟩
  | cons first done ih =>
    obtain ⟨hkey, hfirst, -, hrest⟩ := h
    obtain ⟨hnodup, hkeys⟩ := ih hrest
    refine ⟨List.nodup_cons.mpr ⟨hfirst, hnodup⟩, ?_⟩
    intro name hname
    rcases List.mem_cons.mp hname with rfl | hlater
    · exact hkey
    · exact hkeys name hlater

end Names

/-! ## The search -/

variable {α : Type} [DecidableEq α]

/-- The keys that are not on a path. -/
def fresh (keys path : List α) : Finset α := keys.toFinset \ path.toFinset

theorem fresh_snoc_lt {keys path : List α} {name : α} (hkey : name ∈ keys) (hpath : name ∉ path) :
    (fresh keys (path ++ [name])).card < (fresh keys path).card := by
  apply Finset.card_lt_card
  constructor
  · intro other hother
    simp only [fresh, Finset.mem_sdiff, List.mem_toFinset, List.mem_append, not_or] at hother ⊢
    exact ⟨hother.1, hother.2.1⟩
  · intro hsubset
    have hname : name ∈ fresh keys path := by
      simp only [fresh, Finset.mem_sdiff, List.mem_toFinset]
      exact ⟨hkey, hpath⟩
    have hsnoc := hsubset hname
    simp [fresh] at hsnoc

section Search

variable (keys : List α) (targets : α → List α)

mutual

/-- Visit a name; the names finished so far are threaded through, the latest first. -/
def visit (name : α) (path done : List α) : Except (List α) (List α) :=
  if _hpath : name ∈ path then .error (path ++ [name])
  else if _hskip : name ∈ done ∨ name ∉ keys then .ok done
  else
    match visitAll (targets name) (path ++ [name]) done with
    | .error cycle => .error cycle
    | .ok finished => .ok (name :: finished)
termination_by ((fresh keys path).card, 0)
decreasing_by
  apply Prod.Lex.left
  exact fresh_snoc_lt (not_not.mp (not_or.mp _hskip).2) _hpath

def visitAll (names : List α) (path done : List α) : Except (List α) (List α) :=
  match names with
  | [] => .ok done
  | name :: names =>
    match visit name path done with
    | .error cycle => .error cycle
    | .ok finished => visitAll names path finished
termination_by ((fresh keys path).card, names.length + 1)

end

/-- All keys, from nothing finished. -/
def search : Except (List α) (List α) := visitAll keys targets keys [] []

end Search

variable {keys : List α} {targets : α → List α}

/-- The visit of several names, by the recursion of the two visits. -/
theorem visitAll_visited {names path done : List α} (h : Ready keys targets names path done) :
    Visited keys targets names path done (visitAll keys targets names path done) := by
  revert h
  apply visitAll.induct keys targets
    (fun name path done => Ready keys targets [name] path done →
      Visited keys targets [name] path done (visit keys targets name path done))
    (fun names path done => Ready keys targets names path done →
      Visited keys targets names path done (visitAll keys targets names path done))
  case case1 =>
    intro name path done hpath h
    rw [visit, dif_pos hpath]
    exact h.cycle hpath
  case case2 =>
    intro name path done hpath hskip h
    rw [visit, dif_neg hpath, dif_pos hskip]
    exact h.skipped hskip
  case case3 =>
    intro name path done hpath hskip cycle hcycle ih h
    obtain ⟨hdone, hkey⟩ := not_or.mp hskip
    have hbelow := ih (h.below (not_not.mp hkey) hdone)
    rw [hcycle] at hbelow
    rw [visit, dif_neg hpath, dif_neg hskip, hcycle]
    exact hbelow
  case case4 =>
    intro name path done hpath hskip finished hfinished ih h
    obtain ⟨hdone, hkey⟩ := not_or.mp hskip
    have hbelow := ih (h.below (not_not.mp hkey) hdone)
    rw [hfinished] at hbelow
    rw [visit, dif_neg hpath, dif_neg hskip, hfinished]
    exact hbelow.finish (not_not.mp hkey) hpath
  case case5 =>
    intro path done h
    rw [visitAll]
    exact ⟨h.finished, fun _ hother => hother, fun _ hname => absurd hname List.not_mem_nil, h.free⟩
  case case6 =>
    intro path done name names cycle hcycle ih h
    have hfirst := ih h.head
    rw [hcycle] at hfirst
    rw [visitAll, hcycle]
    exact hfirst
  case case7 =>
    intro path done name names finished hfinished ih ihrest h
    have hfirst := ih h.head
    rw [hfinished] at hfirst
    rw [visitAll, hfinished]
    exact hfirst.cons (ihrest (h.next hfirst))

/-- A cycle that is found is one. -/
theorem search_error {cycle : List α} (h : search keys targets = .error cycle) :
    IsCycle keys targets cycle := by
  have hvisited := @visitAll_visited _ _ keys targets keys [] [] ready_start
  rw [search] at h
  rw [h] at hvisited
  exact hvisited

/-- A search that finds no cycle has finished all keys, each after its targets. -/
theorem search_ok {done : List α} (h : search keys targets = .ok done) :
    EvaluationOrder keys targets done.reverse := by
  have hvisited := @visitAll_visited _ _ keys targets keys [] [] ready_start
  rw [search] at h
  rw [h] at hvisited
  obtain ⟨hfinished, -, hcovers, -⟩ := hvisited
  refine ⟨List.nodup_reverse.mpr hfinished.nodup.1, ?_, ?_⟩
  · intro name
    rw [List.mem_reverse]
    exact ⟨hfinished.nodup.2 name, fun hkey => hcovers name hkey hkey⟩
  · intro before name after hsplit target htarget hkey
    have hdone : done = after.reverse ++ name :: before.reverse := by
      have hreverse := congrArg List.reverse hsplit
      simpa using hreverse
    exact List.mem_reverse.mp (hfinished.later hdone target htarget hkey)

/-- In an evaluation order a key comes after every key it leads to. -/
theorem EvaluationOrder.descends {order : List α} (h : EvaluationOrder keys targets order) {a b : α}
    (hpath : TransGen (Edge keys targets) a b) : order.idxOf b < order.idxOf a := by
  have hedge : ∀ {a b : α}, Edge keys targets a b → order.idxOf b < order.idxOf a := by
    intro a b hab
    obtain ⟨ha, htarget, hb⟩ := hab
    obtain ⟨before, after, hsplit⟩ := List.append_of_mem ((h.covers a).mpr ha)
    have hbefore := h.earlier before a after hsplit b htarget hb
    have hnot : a ∉ before := by
      intro hmem
      have hnodup := h.nodup
      rw [hsplit] at hnodup
      exact (List.nodup_append.mp hnodup).2.2 a hmem a List.mem_cons_self rfl
    rw [hsplit, List.idxOf_append_of_mem hbefore, List.idxOf_append_of_notMem hnot, List.idxOf_cons_self]
    exact List.idxOf_lt_length_of_mem hbefore
  induction hpath with
  | single hstep => exact hedge hstep
  | tail _ hstep ih => exact lt_trans (hedge hstep) ih

/-- With an evaluation order no key is on a cycle. -/
theorem EvaluationOrder.acyclic {order : List α} (h : EvaluationOrder keys targets order) (name : α) :
    ¬TransGen (Edge keys targets) name name :=
  fun hcycle => lt_irrefl _ (h.descends hcycle)

/-- The search is exact: it ends with an evaluation order, or with a cycle when there is one. -/
theorem search_exact :
    ((∃ cycle, search keys targets = .error cycle) ↔ ∃ name, TransGen (Edge keys targets) name name) ∧
      ((∃ done, search keys targets = .ok done) ↔ ∃ order, EvaluationOrder keys targets order) := by
  cases hsearch : search keys targets with
  | error cycle =>
    obtain ⟨_, name, _, _, hcycle⟩ := search_error hsearch
    refine ⟨⟨fun _ => ⟨name, hcycle⟩, fun _ => ⟨cycle, rfl⟩⟩, ?_⟩
    constructor
    · rintro ⟨_, hok⟩
      cases hok
    · rintro ⟨order, horder⟩
      exact absurd hcycle (horder.acyclic name)
  | ok done =>
    have horder := search_ok hsearch
    refine ⟨?_, ⟨fun _ => ⟨done.reverse, horder⟩, fun _ => ⟨done, rfl⟩⟩⟩
    constructor
    · rintro ⟨_, herror⟩
      cases herror
    · rintro ⟨name, hcycle⟩
      exact absurd hcycle (horder.acyclic name)

/-- A diamond is no cycle. -/
example : search [1, 2, 3, 4] (fun n => if n = 1 then [2, 3] else if n = 4 then [] else [4]) =
    .ok [1, 3, 2, 4] := by
  simp [search, visitAll, visit]

end DepthFirst
end Library
end MoneyMachine
