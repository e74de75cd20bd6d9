import MoneyMachine.Library.Regex

/-!
# RegexOutcomes — the places at which a match can end

The matcher of `Regex` calls what follows with one end after the other until one of them succeeds.
Here the ends are a list, the preferred one first.

* `Re.outcomes`, `run_eq_findSome?` : the matcher tries the outcomes in order;
* `Re.Word`, `exists_word`          : what is read between a place and an outcome;
* `Prefers`, `Fails`                : the first outcome, and that there is none.
-/

namespace MoneyMachine
namespace Library

abbrev Outcome := Cursor × Groups

/-- The rounds of a repetition, the longest first. -/
def starOutcomes (body : Cursor → Groups → List Outcome) : Nat → Cursor → Groups → List Outcome
  | 0, place, groups => [(place, groups)]
  | rounds + 1, place, groups =>
    ((body place groups).filter (fun o => o.1.after.length < place.after.length)).flatMap
      (fun o => starOutcomes body rounds o.1 o.2) ++ [(place, groups)]

section Outcomes

variable (alphabet : Alphabet) (ignoreCase : Bool)

def Re.outcomes : Re → Cursor → Groups → List Outcome
  | .empty, place, groups => [(place, groups)]
  | .one set, place, groups =>
    match place.after with
    | [] => []
    | c :: rest =>
      if set.has alphabet ignoreCase c then
        [({ before := c :: place.before, after := rest }, groups)]
      else
        []
  | .seq a b, place, groups =>
    (Re.outcomes a place groups).flatMap (fun o => Re.outcomes b o.1 o.2)
  | .alt a b, place, groups => Re.outcomes a place groups ++ Re.outcomes b place groups
  | .star body, place, groups =>
    starOutcomes (fun place groups => Re.outcomes body place groups) place.after.length place
      groups
  | .group n body, place, groups =>
    (Re.outcomes body place groups).map (fun o => (o.1, (n, place.upTo o.1) :: o.2))
  | .ahead positive body, place, groups =>
    match (Re.outcomes body place groups).head?, positive with
    | some o, true => [(place, o.2)]
    | none, false => [(place, groups)]
    | _, _ => []
  | .behind positive body, place, groups =>
    let n := body.width.getD 0
    let found : Option Outcome :=
      if place.before.length < n then
        none
      else
        (Re.outcomes body (place.back n) groups).find?
          (fun o => o.1.after.length = place.after.length)
    match found, positive with
    | some o, true => [(place, o.2)]
    | none, false => [(place, groups)]
    | _, _ => []
  | .boundary, place, groups => if atBoundary alphabet place then [(place, groups)] else []

end Outcomes

/-! ## The matcher tries the outcomes in order -/

section Lists

variable {α β γ : Type}

theorem findSome?_flatMap (f : α → List β) (g : β → Option γ) (l : List α) :
    (l.flatMap f).findSome? g = l.findSome? (fun a => (f a).findSome? g) := by
  induction l with
  | nil =>
    rfl
  | cons a l ih =>
    rw [List.flatMap_cons, List.findSome?_append, ih, List.findSome?_cons]
    cases (f a).findSome? g <;> rfl

theorem findSome?_some (f : α → β) (l : List α) :
    l.findSome? (fun a => some (f a)) = l.head?.map f := by
  cases l <;> rfl

theorem findSome?_filter (p : α → Bool) (f : α → Option β) (l : List α) :
    (l.filter p).findSome? f = l.findSome? (fun a => if p a then f a else none) := by
  induction l with
  | nil =>
    rfl
  | cons a l ih =>
    rw [List.filter_cons, List.findSome?_cons]
    split
    · rw [List.findSome?_cons, ih]
    · exact ih

theorem findSome?_if_some (p : α → Bool) (f : α → β) (l : List α) :
    l.findSome? (fun a => if p a then some (f a) else none) = (l.find? p).map f := by
  induction l with
  | nil =>
    rfl
  | cons a l ih =>
    rw [List.findSome?_cons, List.find?_cons]
    cases hp : p a
    · simpa using ih
    · simp

end Lists

section Matching

variable {alphabet : Alphabet} {ignoreCase : Bool}

theorem starRun_eq_findSome? {β : Type} {body : Cursor → Groups → Continue β → Option β}
    {outcomes : Cursor → Groups → List Outcome}
    (hbody : ∀ place groups next,
      body place groups next = (outcomes place groups).findSome? (fun o => next o.1 o.2)) :
    ∀ (rounds : Nat) (place : Cursor) (groups : Groups) (next : Continue β),
      starRun body rounds place groups next =
        (starOutcomes outcomes rounds place groups).findSome? (fun o => next o.1 o.2) := by
  intro rounds
  induction rounds with
  | zero =>
    intro place groups next
    simp [starRun, starOutcomes]
  | succ rounds ih =>
    intro place groups next
    have hmore : body place groups (fun place' groups' =>
        if place'.after.length < place.after.length then
          starRun body rounds place' groups' next
        else
          none) =
        (((outcomes place groups).filter
          (fun o => o.1.after.length < place.after.length)).flatMap
            (fun o => starOutcomes outcomes rounds o.1 o.2)).findSome?
              (fun o => next o.1 o.2) := by
      rw [hbody, findSome?_flatMap, findSome?_filter]
      simp only [ih, decide_eq_true_eq]
    rw [starRun, starOutcomes, List.findSome?_append, ← hmore]
    simp only [List.findSome?_singleton]
    cases body place groups _ <;> rfl

theorem run_eq_findSome? (re : Re) :
    ∀ {β : Type} (place : Cursor) (groups : Groups) (next : Continue β),
      re.run alphabet ignoreCase place groups next =
        (re.outcomes alphabet ignoreCase place groups).findSome? (fun o => next o.1 o.2) := by
  induction re with
  | empty =>
    intro β place groups next
    simp [Re.run, Re.outcomes]
  | one set =>
    intro β place groups next
    rw [Re.run, Re.outcomes]
    cases place.after with
    | nil => rfl
    | cons c rest => dsimp only; split <;> simp
  | seq a b iha ihb =>
    intro β place groups next
    rw [Re.run, Re.outcomes, iha, findSome?_flatMap]
    simp only [ihb]
  | alt a b iha ihb =>
    intro β place groups next
    rw [Re.run, Re.outcomes, List.findSome?_append, iha, ihb]
    cases (a.outcomes alphabet ignoreCase place groups).findSome? _ <;> rfl
  | star body ih =>
    intro β place groups next
    rw [Re.run, Re.outcomes]
    exact starRun_eq_findSome? (fun place groups next => ih place groups next) _ _ _ _
  | group n body ih =>
    intro β place groups next
    rw [Re.run, Re.outcomes, ih, List.findSome?_map]
    rfl
  | ahead positive body ih =>
    intro β place groups next
    cases positive <;> simp only [Re.run, Re.outcomes, ih, findSome?_some] <;>
      cases (body.outcomes alphabet ignoreCase place groups).head? <;> simp
  | behind positive body ih =>
    intro β place groups next
    by_cases hlen : place.before.length < body.width.getD 0
    · cases positive <;> simp [Re.run, Re.outcomes, hlen]
    · have hfind := findSome?_if_some
        (fun o : Outcome => decide (o.1.after.length = place.after.length)) (fun o => o.2)
        (body.outcomes alphabet ignoreCase (place.back (body.width.getD 0)) groups)
      simp only [decide_eq_true_eq] at hfind
      cases positive <;> simp only [Re.run, Re.outcomes, ih, hfind, if_neg hlen] <;>
        cases List.find? _ (body.outcomes alphabet ignoreCase _ groups) <;> simp
  | boundary =>
    intro β place groups next
    rw [Re.run, Re.outcomes]
    split <;> simp

end Matching

/-! ## What is read -/

section Words

variable (alphabet : Alphabet) (ignoreCase : Bool)

/-- The words a pattern can read, whatever its look-around asks for. -/
def Re.Word : Re → List Char → Prop
  | .empty, w => w = []
  | .one set, w => ∃ c, w = [c] ∧ set.has alphabet ignoreCase c = true
  | .seq a b, w => ∃ u v, w = u ++ v ∧ Re.Word a u ∧ Re.Word b v
  | .alt a b, w => Re.Word a w ∨ Re.Word b w
  | .star body, w => ∃ parts : List (List Char), w = parts.flatten ∧ ∀ part ∈ parts, Re.Word body part
  | .group _ body, w => Re.Word body w
  | .ahead _ _, w => w = []
  | .behind _ _, w => w = []
  | .boundary, w => w = []

end Words

/-- One place is reached from another by reading a word. -/
structure Reads (place : Cursor) (w : List Char) (last : Cursor) : Prop where
  after : place.after = w ++ last.after
  before : last.before = w.reverse ++ place.before

namespace Reads

theorem nil (place : Cursor) : Reads place [] place :=
  ⟨rfl, rfl⟩

theorem append {a b c : Cursor} {u v : List Char} (hu : Reads a u b) (hv : Reads b v c) :
    Reads a (u ++ v) c := by
  constructor
  · simp [hu.after, hv.after]
  · simp [hu.before, hv.before]

end Reads

section Sound

variable {alphabet : Alphabet} {ignoreCase : Bool}

theorem star_reads {body : Cursor → Groups → List Outcome} {P : List Char → Prop}
    (hbody : ∀ place groups o, o ∈ body place groups → ∃ w, P w ∧ Reads place w o.1) :
    ∀ (rounds : Nat) (place : Cursor) (groups : Groups) (o : Outcome),
      o ∈ starOutcomes body rounds place groups →
        ∃ parts : List (List Char), (∀ part ∈ parts, P part) ∧ Reads place parts.flatten o.1 := by
  intro rounds
  induction rounds with
  | zero =>
    intro place groups o ho
    rw [starOutcomes, List.mem_singleton] at ho
    subst ho
    exact ⟨[], by simp, Reads.nil _⟩
  | succ rounds ih =>
    intro place groups o ho
    rw [starOutcomes, List.mem_append, List.mem_flatMap, List.mem_singleton] at ho
    rcases ho with ⟨o', ho', hrest⟩ | rfl
    · obtain ⟨w, hw, hread⟩ := hbody place groups o' (List.mem_filter.1 ho').1
      obtain ⟨parts, hparts, hreads⟩ := ih o'.1 o'.2 o hrest
      refine ⟨w :: parts, ?_, ?_⟩
      · simpa using ⟨hw, hparts⟩
      · simpa using hread.append hreads
    · exact ⟨[], by simp, Reads.nil _⟩

/-- What stands between a place and an outcome is a word of the pattern. -/
theorem exists_word (re : Re) :
    ∀ {place : Cursor} {groups : Groups} {o : Outcome},
      o ∈ re.outcomes alphabet ignoreCase place groups →
        ∃ w, re.Word alphabet ignoreCase w ∧ Reads place w o.1 := by
  induction re with
  | empty =>
    intro place groups o ho
    rw [Re.outcomes, List.mem_singleton] at ho
    subst ho
    exact ⟨[], rfl, Reads.nil _⟩
  | one set =>
    intro place groups o ho
    rw [Re.outcomes] at ho
    cases hafter : place.after with
    | nil => simp [hafter] at ho
    | cons c rest =>
      simp only [hafter] at ho
      split at ho
      · rw [List.mem_singleton] at ho
        subst ho
        exact ⟨[c], ⟨c, rfl, by assumption⟩, ⟨by simp [hafter], by simp⟩⟩
      · cases ho
  | seq a b iha ihb =>
    intro place groups o ho
    rw [Re.outcomes, List.mem_flatMap] at ho
    obtain ⟨o', ho', hrest⟩ := ho
    obtain ⟨u, hu, hreadu⟩ := iha ho'
    obtain ⟨v, hv, hreadv⟩ := ihb hrest
    exact ⟨u ++ v, ⟨u, v, rfl, hu, hv⟩, hreadu.append hreadv⟩
  | alt a b iha ihb =>
    intro place groups o ho
    rw [Re.outcomes, List.mem_append] at ho
    rcases ho with ho | ho
    · obtain ⟨w, hw, hread⟩ := iha ho
      exact ⟨w, Or.inl hw, hread⟩
    · obtain ⟨w, hw, hread⟩ := ihb ho
      exact ⟨w, Or.inr hw, hread⟩
  | star body ih =>
    intro place groups o ho
    rw [Re.outcomes] at ho
    obtain ⟨parts, hparts, hread⟩ := star_reads (fun _ _ _ ho => ih ho) _ _ _ _ ho
    exact ⟨parts.flatten, ⟨parts, rfl, hparts⟩, hread⟩
  | group n body ih =>
    intro place groups o ho
    rw [Re.outcomes, List.mem_map] at ho
    obtain ⟨o', ho', rfl⟩ := ho
    obtain ⟨w, hw, hread⟩ := ih ho'
    exact ⟨w, hw, hread⟩
  | ahead positive body _ =>
    intro place groups o ho
    refine ⟨[], rfl, ?_⟩
    cases positive <;> simp only [Re.outcomes] at ho <;> split at ho <;>
      simp only [List.mem_singleton, List.not_mem_nil] at ho <;> subst ho <;> exact Reads.nil _
  | behind positive body _ =>
    intro place groups o ho
    refine ⟨[], rfl, ?_⟩
    cases positive <;> simp only [Re.outcomes] at ho <;> split at ho <;>
      simp only [List.mem_singleton, List.not_mem_nil] at ho <;> subst ho <;> exact Reads.nil _
  | boundary =>
    intro place groups o ho
    rw [Re.outcomes] at ho
    split at ho
    · rw [List.mem_singleton] at ho
      subst ho
      exact ⟨[], rfl, Reads.nil _⟩
    · cases ho

end Sound

/-! ## The preferred outcome -/

section Preferred

variable {alphabet : Alphabet} {ignoreCase : Bool} {a b body : Re} {set : CharSet}
variable {place middle last : Cursor}

variable (alphabet ignoreCase) in
/-- The matcher tries this end first. -/
def Prefers (re : Re) (place last : Cursor) : Prop :=
  ∀ groups, ∃ groups', (re.outcomes alphabet ignoreCase place groups).head? = some (last, groups')

variable (alphabet ignoreCase) in
/-- There is no match at the place. -/
def Fails (re : Re) (place : Cursor) : Prop :=
  ∀ groups, re.outcomes alphabet ignoreCase place groups = []

theorem prefers_empty : Prefers alphabet ignoreCase .empty place place :=
  fun groups => ⟨groups, rfl⟩

theorem prefers_one {c : Char} {rest : List Char} (hafter : place.after = c :: rest)
    (hset : set.has alphabet ignoreCase c = true) :
    Prefers alphabet ignoreCase (.one set) place { before := c :: place.before, after := rest } :=
  fun groups => ⟨groups, by simp [Re.outcomes, hafter, hset]⟩

theorem fails_one (h : ∀ c ∈ place.after.head?, set.has alphabet ignoreCase c = false) :
    Fails alphabet ignoreCase (.one set) place := by
  intro groups
  rw [Re.outcomes]
  cases hafter : place.after with
  | nil => rfl
  | cons c rest => simp [h c (by simp [hafter])]

theorem prefers_seq (ha : Prefers alphabet ignoreCase a place middle)
    (hb : Prefers alphabet ignoreCase b middle last) :
    Prefers alphabet ignoreCase (.seq a b) place last := by
  intro groups
  obtain ⟨groups', ha⟩ := ha groups
  obtain ⟨groups'', hb⟩ := hb groups'
  obtain ⟨rest, hrest⟩ := List.head?_eq_some_iff.1 ha
  obtain ⟨rest', hrest'⟩ := List.head?_eq_some_iff.1 hb
  exact ⟨groups'', by simp [Re.outcomes, hrest, hrest']⟩

theorem fails_seq (ha : Fails alphabet ignoreCase a place) :
    Fails alphabet ignoreCase (.seq a b) place := by
  intro groups
  simp [Re.outcomes, ha groups]

/-- After one character there is only one place to go on from. -/
theorem fails_seq_one {c : Char} {rest : List Char} (hafter : place.after = c :: rest)
    (hb : Fails alphabet ignoreCase b { before := c :: place.before, after := rest }) :
    Fails alphabet ignoreCase (.seq (.one set) b) place := by
  intro groups
  rw [Re.outcomes, Re.outcomes]
  simp only [hafter]
  split
  · simp [hb groups]
  · rfl

theorem prefers_alt_left (ha : Prefers alphabet ignoreCase a place last) :
    Prefers alphabet ignoreCase (.alt a b) place last := by
  intro groups
  obtain ⟨groups', ha⟩ := ha groups
  exact ⟨groups', by simp [Re.outcomes, ha]⟩

theorem prefers_alt_right (ha : Fails alphabet ignoreCase a place)
    (hb : Prefers alphabet ignoreCase b place last) :
    Prefers alphabet ignoreCase (.alt a b) place last := by
  intro groups
  obtain ⟨groups', hb⟩ := hb groups
  exact ⟨groups', by simp [Re.outcomes, ha groups, hb]⟩

theorem prefers_ahead_not (h : Fails alphabet ignoreCase body place) :
    Prefers alphabet ignoreCase (.ahead false body) place place := by
  intro groups
  exact ⟨groups, by simp [Re.outcomes, h groups]⟩

/-- Not behind a character of a set. -/
theorem prefers_behind_not
    (h : ∀ c ∈ place.before.head?, set.has alphabet ignoreCase c = false) :
    Prefers alphabet ignoreCase (.behind false (.seq (.one set) .empty)) place place := by
  intro groups
  refine ⟨groups, ?_⟩
  simp only [Re.outcomes, Re.width]
  cases hbefore : place.before with
  | nil => simp
  | cons c before =>
    have hc := h c (by simp [hbefore])
    simp [Cursor.back, hbefore, hc]

/-! ### Repetition -/

/-- Rounds that read nothing are not taken, so that more rounds than characters make no difference. -/
theorem starOutcomes_rounds {step : Cursor → Groups → List Outcome} :
    ∀ (m n : Nat) (place : Cursor) (groups : Groups),
      place.after.length ≤ m → place.after.length ≤ n →
        starOutcomes step m place groups = starOutcomes step n place groups := by
  have hzero : ∀ (n : Nat) (place : Cursor) (groups : Groups), place.after.length = 0 →
      starOutcomes step n place groups = [(place, groups)] := by
    intro n place groups hlen
    cases n with
    | zero => rfl
    | succ n =>
      rw [starOutcomes, List.filter_eq_nil_iff.2]
      · rfl
      · intro o _
        simp [hlen]
  intro m
  induction m with
  | zero =>
    intro n place groups hm _
    rw [hzero n place groups (by omega), hzero 0 place groups (by omega)]
  | succ m ih =>
    intro n place groups hm hn
    cases n with
    | zero =>
      rw [hzero (m + 1) place groups (by omega), hzero 0 place groups (by omega)]
    | succ n =>
      rw [starOutcomes, starOutcomes]
      congr 1
      apply List.flatMap_congr
      intro o ho
      have hshort := (List.mem_filter.1 ho).2
      simp only [decide_eq_true_eq] at hshort
      exact ih n o.1 o.2 (by omega) (by omega)

theorem star_outcomes_eq (place : Cursor) (groups : Groups) :
    (Re.star body).outcomes alphabet ignoreCase place groups =
      ((body.outcomes alphabet ignoreCase place groups).filter
        (fun o => o.1.after.length < place.after.length)).flatMap
          (fun o => (Re.star body).outcomes alphabet ignoreCase o.1 o.2) ++ [(place, groups)] := by
  have hunfold : (Re.star body).outcomes alphabet ignoreCase place groups =
      starOutcomes (fun place groups => body.outcomes alphabet ignoreCase place groups)
        (place.after.length + 1) place groups :=
    starOutcomes_rounds _ _ _ _ (Nat.le_refl _) (Nat.le_succ _)
  rw [hunfold, starOutcomes]
  congr 1
  apply List.flatMap_congr
  intro o ho
  have hshort := (List.mem_filter.1 ho).2
  simp only [decide_eq_true_eq] at hshort
  exact starOutcomes_rounds _ _ _ _ (by omega) (Nat.le_refl _)

theorem prefers_star_stop (h : Fails alphabet ignoreCase body place) :
    Prefers alphabet ignoreCase (.star body) place place := by
  intro groups
  exact ⟨groups, by rw [star_outcomes_eq, h groups]; rfl⟩

theorem prefers_star_more (hbody : Prefers alphabet ignoreCase body place middle)
    (hshort : middle.after.length < place.after.length)
    (hrest : Prefers alphabet ignoreCase (.star body) middle last) :
    Prefers alphabet ignoreCase (.star body) place last := by
  intro groups
  obtain ⟨groups', hbody⟩ := hbody groups
  obtain ⟨groups'', hrest⟩ := hrest groups'
  obtain ⟨more, hmore⟩ := List.head?_eq_some_iff.1 hbody
  obtain ⟨more', hmore'⟩ := List.head?_eq_some_iff.1 hrest
  refine ⟨groups'', ?_⟩
  rw [star_outcomes_eq, hmore]
  simp [hshort, hmore']

/-- A class is repeated up to the first character outside it. -/
theorem prefers_run {w : List Char} (hw : ∀ c ∈ w, set.has alphabet ignoreCase c = true) :
    ∀ {before rest : List Char}, (∀ c ∈ rest.head?, set.has alphabet ignoreCase c = false) →
      Prefers alphabet ignoreCase (.star (.one set)) { before := before, after := w ++ rest }
        { before := w.reverse ++ before, after := rest } := by
  induction w with
  | nil =>
    intro before rest hrest
    exact prefers_star_stop (fails_one hrest)
  | cons c w ih =>
    intro before rest hrest
    have hmore := @ih (fun c hc => hw c (List.mem_cons_of_mem _ hc)) (c :: before) rest hrest
    rw [List.reverse_cons, List.append_assoc]
    exact prefers_star_more (prefers_one rfl (hw c (List.mem_cons_self ..))) (by simp) hmore

/-! ### Any outcome -/

variable (alphabet ignoreCase) in
/-- The matcher can come to this end. -/
def Reaches (re : Re) (place last : Cursor) : Prop :=
  ∀ groups, ∃ groups', (last, groups') ∈ re.outcomes alphabet ignoreCase place groups

theorem Prefers.reaches {re : Re} (h : Prefers alphabet ignoreCase re place last) :
    Reaches alphabet ignoreCase re place last := by
  intro groups
  obtain ⟨groups', hhead⟩ := h groups
  exact ⟨groups', List.mem_of_mem_head? hhead⟩

theorem reaches_seq (ha : Reaches alphabet ignoreCase a place middle)
    (hb : Reaches alphabet ignoreCase b middle last) :
    Reaches alphabet ignoreCase (.seq a b) place last := by
  intro groups
  obtain ⟨groups', ha⟩ := ha groups
  obtain ⟨groups'', hb⟩ := hb groups'
  exact ⟨groups'', List.mem_flatMap.2 ⟨_, ha, hb⟩⟩

theorem reaches_alt_right (hb : Reaches alphabet ignoreCase b place last) :
    Reaches alphabet ignoreCase (.alt a b) place last := by
  intro groups
  obtain ⟨groups', hb⟩ := hb groups
  exact ⟨groups', List.mem_append_right _ hb⟩

/-- A repeated class can be left early. -/
theorem reaches_run {w : List Char} (hw : ∀ c ∈ w, set.has alphabet ignoreCase c = true) :
    ∀ (before rest : List Char),
      Reaches alphabet ignoreCase (.star (.one set)) { before := before, after := w ++ rest }
        { before := w.reverse ++ before, after := rest } := by
  induction w with
  | nil =>
    intro before rest groups
    rw [star_outcomes_eq]
    exact ⟨groups, List.mem_append_right _ (List.mem_singleton.2 rfl)⟩
  | cons c w ih =>
    intro before rest groups
    obtain ⟨groups', hmore⟩ :=
      ih (fun c hc => hw c (List.mem_cons_of_mem _ hc)) (c :: before) rest groups
    refine ⟨groups', ?_⟩
    rw [star_outcomes_eq, List.mem_append, List.mem_flatMap]
    refine Or.inl ⟨({ before := c :: before, after := w ++ rest }, groups), ?_, ?_⟩
    · simp [Re.outcomes, hw c (List.mem_cons_self ..)]
    · simpa using hmore

end Preferred

end Library
end MoneyMachine
