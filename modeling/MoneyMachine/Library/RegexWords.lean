import MoneyMachine.Library.RegexOutcomes

/-!
# RegexWords — what the words of a pattern look like

Computed from the syntax of a pattern alone:

* `Re.sets`                : the classes its characters come from;
* `Re.least`               : a length that no word is shorter than;
* `Re.firsts`, `Re.lasts`  : the classes its first and its last character can come from.
-/

namespace MoneyMachine
namespace Library

namespace Re

/-- Every class of the pattern outside its look-around. -/
def sets : Re → List CharSet
  | .empty => []
  | .one set => [set]
  | .seq a b => sets a ++ sets b
  | .alt a b => sets a ++ sets b
  | .star body => sets body
  | .group _ body => sets body
  | .ahead _ _ => []
  | .behind _ _ => []
  | .boundary => []

def least : Re → Nat
  | .empty => 0
  | .one _ => 1
  | .seq a b => least a + least b
  | .alt a b => min (least a) (least b)
  | .star _ => 0
  | .group _ body => least body
  | .ahead _ _ => 0
  | .behind _ _ => 0
  | .boundary => 0

def firsts : Re → List CharSet
  | .empty => []
  | .one set => [set]
  | .seq a b => firsts a ++ (if least a = 0 then firsts b else [])
  | .alt a b => firsts a ++ firsts b
  | .star body => firsts body
  | .group _ body => firsts body
  | .ahead _ _ => []
  | .behind _ _ => []
  | .boundary => []

def lasts : Re → List CharSet
  | .empty => []
  | .one set => [set]
  | .seq a b => (if least b = 0 then lasts a else []) ++ lasts b
  | .alt a b => lasts a ++ lasts b
  | .star body => lasts body
  | .group _ body => lasts body
  | .ahead _ _ => []
  | .behind _ _ => []
  | .boundary => []

section Words

variable {alphabet : Alphabet} {ignoreCase : Bool}

theorem Word.sets {re : Re} :
    ∀ {w : List Char}, re.Word alphabet ignoreCase w →
      ∀ c ∈ w, ∃ set ∈ re.sets, set.has alphabet ignoreCase c = true := by
  induction re with
  | empty =>
    rintro w rfl c hc
    cases hc
  | one set =>
    rintro w ⟨d, rfl, hset⟩ c hc
    obtain rfl := List.mem_singleton.1 hc
    exact ⟨set, List.mem_singleton.2 rfl, hset⟩
  | seq a b iha ihb =>
    rintro w ⟨u, v, rfl, hu, hv⟩ c hc
    rcases List.mem_append.1 hc with hc | hc
    · obtain ⟨set, hmem, hset⟩ := iha hu c hc
      exact ⟨set, List.mem_append_left _ hmem, hset⟩
    · obtain ⟨set, hmem, hset⟩ := ihb hv c hc
      exact ⟨set, List.mem_append_right _ hmem, hset⟩
  | alt a b iha ihb =>
    rintro w (hw | hw) c hc
    · obtain ⟨set, hmem, hset⟩ := iha hw c hc
      exact ⟨set, List.mem_append_left _ hmem, hset⟩
    · obtain ⟨set, hmem, hset⟩ := ihb hw c hc
      exact ⟨set, List.mem_append_right _ hmem, hset⟩
  | star body ih =>
    rintro w ⟨parts, rfl, hparts⟩ c hc
    obtain ⟨part, hpart, hc⟩ := List.mem_flatten.1 hc
    exact ih (hparts part hpart) c hc
  | group n body ih =>
    intro w hw c hc
    exact ih hw c hc
  | ahead positive body _ =>
    rintro w rfl c hc
    cases hc
  | behind positive body _ =>
    rintro w rfl c hc
    cases hc
  | boundary =>
    rintro w rfl c hc
    cases hc

theorem Word.least_le {re : Re} :
    ∀ {w : List Char}, re.Word alphabet ignoreCase w → re.least ≤ w.length := by
  induction re with
  | one set =>
    rintro w ⟨c, rfl, _⟩
    exact Nat.le_refl 1
  | seq a b iha ihb =>
    rintro w ⟨u, v, rfl, hu, hv⟩
    rw [List.length_append]
    exact Nat.add_le_add (iha hu) (ihb hv)
  | alt a b iha ihb =>
    rintro w (hw | hw)
    · exact Nat.le_trans (Nat.min_le_left _ _) (iha hw)
    · exact Nat.le_trans (Nat.min_le_right _ _) (ihb hw)
  | group n body ih =>
    intro w hw
    exact ih hw
  | _ =>
    intro w _
    exact Nat.zero_le _

theorem Word.firsts {re : Re} :
    ∀ {c : Char} {w : List Char}, re.Word alphabet ignoreCase (c :: w) →
      ∃ set ∈ re.firsts, set.has alphabet ignoreCase c = true := by
  induction re with
  | one set =>
    rintro c w ⟨d, h, hset⟩
    obtain ⟨rfl, _⟩ := List.cons.inj h
    exact ⟨set, List.mem_singleton.2 rfl, hset⟩
  | seq a b iha ihb =>
    rintro c w ⟨u, v, h, hu, hv⟩
    cases u with
    | nil =>
      have hleast : a.least = 0 := Nat.le_zero.1 (Word.least_le hu)
      rw [List.nil_append] at h
      obtain ⟨set, hmem, hset⟩ := ihb (h ▸ hv)
      exact ⟨set, by simp [Re.firsts, hleast, hmem], hset⟩
    | cons d u =>
      obtain ⟨rfl, _⟩ := List.cons.inj h
      obtain ⟨set, hmem, hset⟩ := iha hu
      exact ⟨set, List.mem_append_left _ hmem, hset⟩
  | alt a b iha ihb =>
    rintro c w (hw | hw)
    · obtain ⟨set, hmem, hset⟩ := iha hw
      exact ⟨set, List.mem_append_left _ hmem, hset⟩
    · obtain ⟨set, hmem, hset⟩ := ihb hw
      exact ⟨set, List.mem_append_right _ hmem, hset⟩
  | star body ih =>
    rintro c w ⟨parts, h, hparts⟩
    induction parts with
    | nil => cases h
    | cons part parts ihparts =>
      cases part with
      | nil => exact ihparts h (fun p hp => hparts p (List.mem_cons_of_mem _ hp))
      | cons d part =>
        obtain ⟨rfl, _⟩ := List.cons.inj h
        exact ih (hparts _ (List.mem_cons_self ..))
  | group n body ih =>
    intro c w hw
    exact ih hw
  | _ =>
    intro c w hw
    cases hw

theorem Word.lasts {re : Re} :
    ∀ {c : Char} {w : List Char}, re.Word alphabet ignoreCase w → w.getLast? = some c →
      ∃ set ∈ re.lasts, set.has alphabet ignoreCase c = true := by
  induction re with
  | one set =>
    rintro c w ⟨d, rfl, hset⟩ hlast
    obtain rfl := Option.some.inj hlast
    exact ⟨set, List.mem_singleton.2 rfl, hset⟩
  | seq a b iha ihb =>
    rintro c w ⟨u, v, rfl, hu, hv⟩ hlast
    rw [List.getLast?_append] at hlast
    cases hlastv : v.getLast? with
    | none =>
      obtain rfl := List.getLast?_eq_none_iff.1 hlastv
      have hleast : b.least = 0 := Nat.le_zero.1 (Word.least_le hv)
      obtain ⟨set, hmem, hset⟩ := iha hu (by simpa using hlast)
      exact ⟨set, by simp [Re.lasts, hleast, hmem], hset⟩
    | some d =>
      rw [hlastv] at hlast
      obtain ⟨set, hmem, hset⟩ := ihb hv (hlastv.trans hlast)
      exact ⟨set, List.mem_append_right _ hmem, hset⟩
  | alt a b iha ihb =>
    rintro c w (hw | hw) hlast
    · obtain ⟨set, hmem, hset⟩ := iha hw hlast
      exact ⟨set, List.mem_append_left _ hmem, hset⟩
    · obtain ⟨set, hmem, hset⟩ := ihb hw hlast
      exact ⟨set, List.mem_append_right _ hmem, hset⟩
  | star body ih =>
    rintro c w ⟨parts, rfl, hparts⟩ hlast
    induction parts with
    | nil => cases hlast
    | cons part parts ihparts =>
      rw [List.flatten_cons, List.getLast?_append] at hlast
      cases hlastp : parts.flatten.getLast? with
      | none =>
        rw [hlastp] at hlast
        exact ih (hparts part (List.mem_cons_self ..)) hlast
      | some d =>
        rw [hlastp] at hlast
        exact ihparts (fun p hp => hparts p (List.mem_cons_of_mem _ hp))
          (hlastp.trans hlast)
  | group n body ih =>
    intro c w hw hlast
    exact ih hw hlast
  | _ =>
    intro c w hw hlast
    obtain rfl := hw
    cases hlast

end Words

end Re

end Library
end MoneyMachine
