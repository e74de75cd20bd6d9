import MoneyMachine.Library.RegexOutcomes

/-!
# RegexScan — the matches that a scan of a text finds

`finditer` goes through a text from the left and never reads a character twice.

* `finditer_reads`   : what a match of the scan has read;
* `finditer_ordered` : each match begins where the one before it ends, or later;
* `mem_finditer`     : a place with a match is one of the scan's, unless a match runs over it.
-/

namespace MoneyMachine
namespace Library

variable {alphabet : Alphabet} {ignoreCase : Bool} {re : Re}

theorem Reads.upTo {place last : Cursor} {w : List Char} (h : Reads place w last) :
    place.upTo last = w := by
  simp [Cursor.upTo, h.after]

/-- A match of a pattern, with what it has read. -/
structure Match.Good (re : Re) (alphabet : Alphabet) (ignoreCase : Bool) (m : Match)
    (w : List Char) : Prop where
  word : re.Word alphabet ignoreCase w
  reads : Reads m.first w m.last

/-! ## A match at a place -/

section Single

variable {place last : Cursor} {mustAdvance : Bool} {m : Match}

theorem matchAt_good (h : matchAt alphabet ignoreCase re mustAdvance place = some m) :
    m.first = place ∧
      ∃ w, m.Good re alphabet ignoreCase w ∧ (mustAdvance = true → w ≠ []) := by
  rw [matchAt, run_eq_findSome?] at h
  obtain ⟨o, ho, hm⟩ := List.exists_of_findSome?_eq_some h
  obtain ⟨w, hword, hread⟩ := exists_word re ho
  split at hm
  · cases hm
  · next hadvance =>
      obtain rfl := Option.some.inj hm
      refine ⟨rfl, w, ⟨hword, hread⟩, ?_⟩
      rintro rfl rfl
      simp [hread.after] at hadvance

theorem matchAt_of_prefers (h : Prefers alphabet ignoreCase re place last)
    (hshort : last.after.length < place.after.length) :
    ∃ m, (∀ mustAdvance, matchAt alphabet ignoreCase re mustAdvance place = some m) ∧
      m.first = place ∧ m.last = last := by
  obtain ⟨groups, hhead⟩ := h []
  obtain ⟨rest, hrest⟩ := List.head?_eq_some_iff.1 hhead
  refine ⟨{ first := place, last := last, groups := groups }, ?_, rfl, rfl⟩
  intro mustAdvance
  have hne : last.after.length ≠ place.after.length := by omega
  rw [matchAt, run_eq_findSome?, hrest, List.findSome?_cons]
  simp [hne]

theorem matchAt_isSome_of_reaches (h : Reaches alphabet ignoreCase re place last) :
    (matchAt alphabet ignoreCase re false place).isSome = true := by
  obtain ⟨groups, hmem⟩ := h []
  rw [matchAt, run_eq_findSome?, List.findSome?_isSome_iff]
  exact ⟨_, hmem, rfl⟩

end Single

/-! ## The first match -/

section Search

variable {mustAdvance : Bool} {m : Match}

/-- Where the search stops. -/
theorem searchAfter_good :
    ∀ {after before : List Char} {mustAdvance : Bool},
      searchAfter alphabet ignoreCase re mustAdvance before after = some m →
        ∃ skipped rest, after = skipped ++ rest ∧
          matchAt alphabet ignoreCase re (mustAdvance && skipped.isEmpty)
            { before := skipped.reverse ++ before, after := rest } = some m := by
  intro after
  induction after with
  | nil =>
    intro before mustAdvance h
    exact ⟨[], [], rfl, by simpa [searchAfter] using h⟩
  | cons c after ih =>
    intro before mustAdvance h
    rw [searchAfter] at h
    split at h
    · next m' hm' =>
        obtain rfl := Option.some.inj h
        exact ⟨[], c :: after, rfl, by simpa using hm'⟩
    · obtain ⟨skipped, rest, rfl, hm⟩ := ih h
      exact ⟨c :: skipped, rest, rfl, by simpa using hm⟩

/-- The search does not go past a place with a match. -/
theorem searchAfter_stops {skipped rest : List Char} :
    ∀ (before : List Char) (mustAdvance : Bool),
      (∀ mustAdvance, matchAt alphabet ignoreCase re mustAdvance
        { before := skipped.reverse ++ before, after := rest } = some m) →
      searchAfter alphabet ignoreCase re mustAdvance before (skipped ++ rest) = some m ∨
        ∃ m' front back, skipped = front ++ back ∧ back ≠ [] ∧
          searchAfter alphabet ignoreCase re mustAdvance before (skipped ++ rest) = some m' ∧
          matchAt alphabet ignoreCase re (mustAdvance && front.isEmpty)
            { before := front.reverse ++ before, after := back ++ rest } = some m' := by
  induction skipped with
  | nil =>
    intro before mustAdvance h
    have hm := h mustAdvance
    rw [List.reverse_nil, List.nil_append] at hm
    left
    cases rest <;> simp [searchAfter, hm]
  | cons c skipped ih =>
    intro before mustAdvance h
    rw [List.cons_append, searchAfter]
    cases hm' : matchAt alphabet ignoreCase re mustAdvance
        { before := before, after := c :: (skipped ++ rest) } with
    | some m' =>
      right
      exact ⟨m', [], c :: skipped, rfl, by simp, rfl, by simpa using hm'⟩
    | none =>
      have hplace : ∀ mustAdvance, matchAt alphabet ignoreCase re mustAdvance
          { before := skipped.reverse ++ c :: before, after := rest } = some m := by
        simpa using h
      rcases ih (c :: before) false hplace with hfound | ⟨m', front, back, rfl, hback, hs, hm⟩
      · exact Or.inl hfound
      · exact Or.inr ⟨m', c :: front, back, rfl, hback, hs, by simpa using hm⟩

theorem search_isSome_of_matchAt {text skipped rest : List Char} (htext : text = skipped ++ rest)
    (h : (matchAt alphabet ignoreCase re false
      { before := skipped.reverse, after := rest }).isSome = true) :
    (search alphabet ignoreCase re text).isSome = true := by
  have hgeneral : ∀ (skipped rest before : List Char),
      (matchAt alphabet ignoreCase re false
        { before := skipped.reverse ++ before, after := rest }).isSome = true →
      (searchAfter alphabet ignoreCase re false before (skipped ++ rest)).isSome = true := by
    intro skipped
    induction skipped with
    | nil =>
      intro rest before h
      cases rest with
      | nil => simpa [searchAfter] using h
      | cons c rest =>
        rw [List.nil_append, searchAfter]
        cases hm : matchAt alphabet ignoreCase re false
            { before := before, after := c :: rest } with
        | none => simp [hm] at h
        | some m => rfl
    | cons c skipped ih =>
      intro rest before h
      rw [List.cons_append, searchAfter]
      cases matchAt alphabet ignoreCase re false
          { before := before, after := c :: (skipped ++ rest) } with
      | none => exact ih rest (c :: before) (by simpa using h)
      | some m => rfl
  rw [htext]
  exact hgeneral skipped rest [] (by simpa using h)

end Search

/-! ## All matches -/

section Scan

variable {place : Cursor} {m : Match}

theorem matchesAfter_good :
    ∀ {count : Nat} {mustAdvance : Bool} {place : Cursor},
      m ∈ matchesAfter alphabet ignoreCase re count mustAdvance place →
        ∃ skipped w, Reads place skipped m.first ∧ m.Good re alphabet ignoreCase w := by
  intro count
  induction count with
  | zero =>
    intro mustAdvance place hm
    cases hm
  | succ count ih =>
    intro mustAdvance place hm
    rw [matchesAfter] at hm
    split at hm
    · cases hm
    · next m' hsearch =>
        obtain ⟨skipped, rest, hafter, hat⟩ := searchAfter_good hsearch
        obtain ⟨hfirst, w, hgood, _⟩ := matchAt_good hat
        have hreads : Reads place skipped m'.first := by
          rw [hfirst]
          exact ⟨hafter, rfl⟩
        rcases List.mem_cons.1 hm with rfl | hm
        · exact ⟨skipped, w, hreads, hgood⟩
        · obtain ⟨skipped', w', hreads', hgood'⟩ := ih hm
          exact ⟨skipped ++ w ++ skipped', w', (hreads.append hgood.reads).append hreads', hgood'⟩

theorem finditer_reads {text : List Char} (hm : m ∈ finditer alphabet ignoreCase re text) :
    ∃ skipped w, Reads (Cursor.start text) skipped m.first ∧ m.Good re alphabet ignoreCase w :=
  matchesAfter_good hm

theorem matchesAfter_ordered :
    ∀ {count : Nat} {mustAdvance : Bool} {place : Cursor},
      (matchesAfter alphabet ignoreCase re count mustAdvance place).Pairwise
        (fun m m' => ∃ skipped, Reads m.last skipped m'.first) := by
  intro count
  induction count with
  | zero =>
    intro mustAdvance place
    exact List.Pairwise.nil
  | succ count ih =>
    intro mustAdvance place
    rw [matchesAfter]
    split
    · exact List.Pairwise.nil
    · refine List.Pairwise.cons ?_ ih
      intro m' hm'
      obtain ⟨skipped, _, hreads, _⟩ := matchesAfter_good hm'
      exact ⟨skipped, hreads⟩

theorem finditer_ordered (text : List Char) :
    (finditer alphabet ignoreCase re text).Pairwise
      (fun m m' => ∃ skipped, Reads m.last skipped m'.first) :=
  matchesAfter_ordered

/-- A match begins before a place and ends behind it. -/
def Match.RunsOver (m : Match) (place : Cursor) : Prop :=
  place.after.length < m.first.after.length ∧ m.last.after.length < place.after.length

/-- The fuel: two rounds for each character that stands before the place. -/
theorem mem_matchesAfter (target : Match) {wanted : Cursor}
    (hat : ∀ mustAdvance, matchAt alphabet ignoreCase re mustAdvance wanted = some target) :
    ∀ {count : Nat} {mustAdvance : Bool} {place : Cursor} {skipped : List Char},
      Reads place skipped wanted →
      2 * skipped.length + (if mustAdvance then 0 else 1) < count →
      (∀ m ∈ matchesAfter alphabet ignoreCase re count mustAdvance place, ¬ m.RunsOver wanted) →
        target ∈ matchesAfter alphabet ignoreCase re count mustAdvance place := by
  intro count
  induction count with
  | zero =>
    intro mustAdvance place skipped _ hfuel
    omega
  | succ count ih =>
    intro mustAdvance place skipped hreads hfuel hover
    obtain ⟨before, after⟩ := wanted
    obtain ⟨hafter, hbefore⟩ := hreads
    dsimp only at hafter hbefore
    subst hbefore
    rcases searchAfter_stops place.before mustAdvance hat with hfound |
      ⟨m', front, back, rfl, hback, hfound, hm'⟩
    · rw [matchesAfter, hafter, hfound]
      exact List.mem_cons_self ..
    · rw [matchesAfter, hafter, hfound] at hover ⊢
      obtain ⟨hfirst, w, hgood, hadvance⟩ := matchAt_good hm'
      have hw := hgood.reads
      rw [hfirst] at hw
      -- The match ends at the wanted place or before it.
      have hnot := hover m' (List.mem_cons_self ..)
      have hlen : w.length ≤ back.length := by
        have hreadlen := congrArg List.length hw.after
        simp only [Match.RunsOver, hfirst, List.length_append] at hnot hreadlen
        have : 0 < back.length := List.length_pos_iff.2 hback
        omega
      obtain ⟨rest, rfl⟩ : w <+: back :=
        List.prefix_of_prefix_length_le ⟨m'.last.after, hw.after.symm⟩
          (List.prefix_append back after) hlen
      have hlast : m'.last.after = rest ++ after := by
        simpa [List.append_assoc] using hw.after.symm
      have htext : m'.text = w := hgood.reads.upTo
      refine List.mem_cons_of_mem _ (ih ⟨hlast, ?_⟩ ?_
        (fun m hm => hover m (List.mem_cons_of_mem _ hm)))
      · rw [hw.before]
        simp
      · rw [htext]
        simp only [List.length_append] at hfuel
        cases hempty : decide (w = []) with
        | false =>
          have : 0 < w.length := List.length_pos_iff.2 (by simpa using hempty)
          simp only [Bool.false_eq_true, if_false]
          omega
        | true =>
          have hwnil : w = [] := by simpa using hempty
          -- An empty match was either found behind the place or allowed there.
          cases mustAdvance with
          | false =>
            simp only [Bool.false_eq_true, if_false] at hfuel
            simp only [if_true]
            omega
          | true =>
            have hfront : front ≠ [] := by
              rintro rfl
              exact hadvance rfl hwnil
            have : 0 < front.length := List.length_pos_iff.2 hfront
            simp only [if_true]
            omega

/-- A place with a match belongs to the scan unless a match of the scan runs over it. -/
theorem mem_finditer {text : List Char} {wanted last : Cursor} {skipped : List Char}
    (hwanted : Reads (Cursor.start text) skipped wanted)
    (hprefers : Prefers alphabet ignoreCase re wanted last)
    (hshort : last.after.length < wanted.after.length)
    (hover : ∀ m ∈ finditer alphabet ignoreCase re text, ¬ m.RunsOver wanted) :
    ∃ m ∈ finditer alphabet ignoreCase re text, m.first = wanted ∧ m.last = last := by
  obtain ⟨m, hat, hfirst, hlast⟩ := matchAt_of_prefers hprefers hshort
  refine ⟨m, mem_matchesAfter m hat hwanted ?_ hover, hfirst, hlast⟩
  have hlen := congrArg List.length hwanted.after
  simp only [Cursor.start, List.length_append] at hlen
  simp only [Bool.false_eq_true, if_false]
  omega

end Scan

end Library
end MoneyMachine
