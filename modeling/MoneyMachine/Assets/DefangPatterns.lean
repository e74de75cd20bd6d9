import MoneyMachine.Library.Ascii
import Mathlib.Data.Bool.AllAny
import MoneyMachine.Assets.DefangNormalizer
import MoneyMachine.Library.RegexScan
import MoneyMachine.Library.RegexWords

/-!
# DefangPatterns — what the patterns of the defang normalizer match

* `CharSet.Apart`, `Loose`  : separators that neither begin nor end with a letter or digit;
* `bracketDot_prefers`      : the bracketed dot is read as a whole;
* `hostCandidate_prefers`   : a label, a bracketed dot and a top-level domain are one candidate;
* `exactHost_search`        : a dot between letters or digits is found.
-/

namespace MoneyMachine
namespace Assets
namespace DefangNormalizer

open Library

/-! ## Characters -/

/-- `[A-Za-z0-9]`. -/
def hostSet : CharSet :=
  { negated := false, items := [.range 'A' 'Z', .range 'a' 'z', .range '0' '9'] }

/-- `[A-Za-z0-9-]`. -/
def hostTailSet : CharSet :=
  { negated := false, items := [.range 'A' 'Z', .range 'a' 'z', .range '0' '9', .range '-' '-'] }

/-- `[ \t]`. -/
def blankSet : CharSet :=
  { negated := false, items := [.range ' ' ' ', .range '\t' '\t'] }

def single (c : Char) : CharSet :=
  { negated := false, items := [.range c c] }

/-- A character of a host, as the patterns read it without regard to case. -/
def hostChar (c : Char) : Bool :=
  hostSet.has ascii true c

theorem inRange_iff {low high c : Char} :
    inRange low high c = true ↔ low.toNat ≤ c.toNat ∧ c.toNat ≤ high.toNat := by
  simp [inRange]

theorem inRange_self {c d : Char} (h : inRange c c d = true) : d = c := by
  rw [inRange_iff] at h
  exact Char.toNat_inj.1 (by omega)

theorem isAlphanum_iff {c : Char} :
    c.isAlphanum = true ↔
      inRange 'A' 'Z' c = true ∨ inRange 'a' 'z' c = true ∨ inRange '0' '9' c = true := by
  simp only [Char.isAlphanum, isAlpha_eq, isUpper_eq, isLower_eq, Char.isDigit, inRange_iff,
    Bool.or_eq_true, Bool.and_eq_true, decide_eq_true_eq, ge_iff_le, UInt32.le_iff_toNat_le,
    or_assoc]
  rfl

theorem hostChar_of_isAlphanum {c : Char} (h : c.isAlphanum = true) : hostChar c = true := by
  rcases isAlphanum_iff.1 h with h | h | h <;>
    simp [hostChar, CharSet.has, hostSet, SetItem.has, h]

theorem toUpper_host {c : Char} (h : inRange 'a' 'z' c = true) :
    inRange 'A' 'Z' c.toUpper = true := by
  have hall : ∀ i : Fin 26, inRange 'A' 'Z' (Char.ofNat (97 + i)).toUpper = true := by
    decide
  obtain ⟨hlow, hhigh⟩ := inRange_iff.1 h
  change 97 ≤ c.toNat at hlow
  change c.toNat ≤ 122 at hhigh
  have hc := hall ⟨c.toNat - 97, by omega⟩
  rwa [Nat.add_sub_cancel' hlow, Char.ofNat_toNat] at hc

theorem toLower_host {c : Char} (h : inRange 'A' 'Z' c = true) :
    inRange 'a' 'z' c.toLower = true := by
  have hall : ∀ i : Fin 26, inRange 'a' 'z' (Char.ofNat (65 + i)).toLower = true := by
    decide
  obtain ⟨hlow, hhigh⟩ := inRange_iff.1 h
  change 65 ≤ c.toNat at hlow
  change c.toNat ≤ 90 at hhigh
  have hc := hall ⟨c.toNat - 65, by omega⟩
  rwa [Nat.add_sub_cancel' hlow, Char.ofNat_toNat] at hc

theorem otherCases_host {c d : Char} (h : d ∈ otherCases c) : d.isAlphanum = true := by
  unfold otherCases at h
  split at h
  · obtain rfl := List.mem_singleton.1 h
    exact isAlphanum_iff.2 (Or.inl (toUpper_host (by assumption)))
  split at h
  · obtain rfl := List.mem_singleton.1 h
    exact isAlphanum_iff.2 (Or.inr (Or.inl (toLower_host (by assumption))))
  split at h
  · simp only [List.mem_cons, List.not_mem_nil, or_false] at h
    rcases h with rfl | rfl <;> rfl
  split at h
  · simp only [List.mem_cons, List.not_mem_nil, or_false] at h
    rcases h with rfl | rfl <;> rfl
  split at h
  · simp only [List.mem_cons, List.not_mem_nil, or_false] at h
    rcases h with rfl | rfl <;> rfl
  · cases h

/-- A class that lists characters, none of them of a host. -/
def Apart (set : CharSet) : Bool :=
  !set.negated && set.items.all (fun item =>
    match item with
    | .range low high => decide (low = high) && !hostChar low
    | _ => false)

theorem single_has {ignoreCase : Bool} {c d : Char} (hc : hostChar c = false)
    (h : (SetItem.range c c).has ascii ignoreCase d = true) : d = c := by
  simp only [SetItem.has, Bool.or_eq_true, Bool.and_eq_true, List.any_eq_true] at h
  rcases h with h | ⟨_, other, hother, h⟩
  · exact inRange_self h
  · -- Only letters have another case.
    obtain rfl := inRange_self h
    rw [hostChar_of_isAlphanum (otherCases_host hother)] at hc
    cases hc

theorem hostChar_of_apart {set : CharSet} {ignoreCase : Bool} {c : Char} (hset : Apart set = true)
    (h : set.has ascii ignoreCase c = true) : hostChar c = false := by
  obtain ⟨negated, items⟩ := set
  simp only [Apart, Bool.and_eq_true, Bool.not_eq_true', List.all_eq_true] at hset
  obtain ⟨rfl, hitems⟩ := hset
  simp only [CharSet.has, bne_iff_ne, ne_eq, Bool.not_eq_false, List.any_eq_true] at h
  obtain ⟨item, hitem, hc⟩ := h
  have happart := hitems item hitem
  cases item with
  | range low high =>
    simp only [Bool.and_eq_true, decide_eq_true_eq, Bool.not_eq_true'] at happart
    obtain ⟨rfl, hlow⟩ := happart
    obtain rfl := single_has hlow hc
    exact hlow
  | _ => cases happart

theorem blankSet_has {ignoreCase : Bool} {c : Char} :
    blankSet.has ascii ignoreCase c = true ↔ blank c = true := by
  constructor
  · intro h
    simp only [CharSet.has, blankSet, bne_iff_ne, ne_eq, Bool.not_eq_false, List.any_cons,
      List.any_nil, Bool.or_false, Bool.or_eq_true] at h
    rcases h with h | h
    · obtain rfl := single_has (by decide) h
      rfl
    · obtain rfl := single_has (by decide) h
      rfl
  · intro h
    simp only [blank, Bool.or_eq_true, decide_eq_true_eq] at h
    rcases h with rfl | rfl <;> cases ignoreCase <;> rfl

theorem single_set_has {ignoreCase : Bool} {c d : Char} (hc : hostChar c = false)
    (h : (single c).has ascii ignoreCase d = true) : d = c := by
  simp only [CharSet.has, single, bne_iff_ne, ne_eq, Bool.not_eq_false, List.any_cons,
    List.any_nil, Bool.or_false] at h
  exact single_has hc h

theorem not_blank_of_host {c : Char} (h : hostChar c = true) : blank c = false := by
  by_contra hblank
  have hset : blankSet.has ascii true c = true := blankSet_has.2 (by simpa using hblank)
  have hapart : hostChar c = false := hostChar_of_apart (by decide) hset
  simp [h] at hapart

theorem isAlphanum_of_hostChar {c : Char} (hascii : c.toNat < 128) (h : hostChar c = true) :
    c.isAlphanum = true := by
  have hall : ∀ i : Fin 128, hostChar (Char.ofNat i) = true → (Char.ofNat i).isAlphanum = true := by
    decide +kernel
  have hc := hall ⟨c.toNat, hascii⟩
  rw [Char.ofNat_toNat] at hc
  exact hc h

/-! ## The patterns in full -/

def plus (body : Re) : Re :=
  .seq body (.star body)

/-- `[ \t]*`. -/
def blanks : Re :=
  .star (.one blankSet)

/-- `(?:-+[A-Za-z0-9]+)*`. -/
def hyphenRuns : Re :=
  .star (.seq (plus (Re.lit '-')) (.seq (plus (.one hostSet)) .empty))

/-- A label, and what follows it in the pattern. -/
def labelThen (next : Re) : Re :=
  .seq (plus (.one hostSet)) (.seq hyphenRuns next)

def spacedTld : Re :=
  .seq (.one hostSet)
    (.seq (plus (.seq (plus (.one blankSet))
      (.seq (.ahead false (.seq (.one hostSet) (.seq (.one hostSet) .empty)))
        (.seq (.one hostSet) .empty)))) .empty)

def dotWord : Re :=
  .seq (Re.lit 'd') (.seq (Re.lit 'o') (.seq (Re.lit 't') .empty))

def bracketed (opener closer : Char) : Re :=
  .seq (Re.lit opener)
    (.seq blanks
      (.seq (.alt (.seq (Re.lit '.') .empty) dotWord)
        (.seq blanks (.seq (Re.lit closer) .empty))))

def anyBracketed : Re :=
  .alt (bracketed '[' ']') (.alt (bracketed '(' ')') (bracketed '\x7b' '\x7d'))

/-- The patterns as they are read. -/
structure ReadPatterns : Prop where
  bracketDot : bracketDotRe = .seq blanks (.seq anyBracketed (.seq blanks .empty))
  hostCandidate :
    hostCandidate =
      .seq (.behind false (.seq (.one hostSet) .empty))
        (labelThen
          (.seq (.alt bracketDotRe (.alt bareDotRe spacedDotRe))
            (.seq (.alt spacedTld (labelThen .empty)) .empty)))
  exactHost :
    exactHost =
      .seq (.behind false (.seq (.one hostSet) .empty))
        (.seq
          (.alt (.seq (.one hostSet) .empty)
            (.seq (.one hostSet) (.seq (.star (.one hostTailSet)) (.seq (.one hostSet) .empty))))
          (.seq (Re.lit '.')
            (.seq (.one hostSet) (.seq (.one hostSet) (.seq (.star (.one hostSet))
              (.seq (.ahead false (.seq (.one hostSet) .empty)) .empty))))))
  hxxp :
    hxxp =
      .seq (Re.lit 'h') (.seq (Re.lit 'x') (.seq (Re.lit 'x') (.seq (Re.lit 'p')
        (.seq (.group 1 (.seq (.alt (Re.lit 's') .empty) .empty))
          (.seq
            (.alt (.seq (Re.lit '[') (.seq (Re.lit ':') (.seq (Re.lit ']') .empty)))
              (.seq (Re.lit ':') .empty))
            (.seq (.group 2 (.seq (Re.lit '/') (.seq (Re.lit '/') .empty))) .empty))))))

theorem readPatterns : ReadPatterns where
  bracketDot := by decide +kernel
  hostCandidate := by decide +kernel
  exactHost := by decide +kernel
  hxxp := by decide +kernel

/-! ## Separators -/

/-- The words begin and end outside a host, and a dot in them has a neighbour outside a host. -/
def Loose (re : Re) (ignoreCase : Bool) : Bool :=
  re.firsts.all Apart && re.lasts.all Apart && decide (0 < re.least) &&
    (re.sets.all (fun set => !set.has ascii ignoreCase '.') ||
      re.sets.all Apart && decide (2 ≤ re.least))

theorem loose_patterns :
    Loose bareDotRe true = true ∧ Loose spacedDotRe false = true ∧ Loose bracketAtRe true = true ∧
      Loose bareAtRe true = true ∧ Loose spacedAtSign false = true := by
  decide +kernel

/-- A separator as it stands in a text. -/
structure LooseWord (w : Text) : Prop where
  ne_nil : w ≠ []
  first : ∀ c, w.head? = some c → hostChar c = false
  last : ∀ c, w.getLast? = some c → hostChar c = false
  dot : ∀ front back, w = front ++ '.' :: back →
    (∃ c, front.getLast? = some c ∧ hostChar c = false) ∨
      (∃ c, back.head? = some c ∧ hostChar c = false)

theorem looseWord_of_word {re : Re} {ignoreCase : Bool} (hre : Loose re ignoreCase = true) {w : Text}
    (hw : re.Word ascii ignoreCase w) : LooseWord w := by
  simp only [Loose, Bool.and_eq_true, Bool.or_eq_true, List.all_eq_true, decide_eq_true_eq] at hre
  obtain ⟨⟨⟨hfirsts, hlasts⟩, hleast⟩, hdot⟩ := hre
  have hlen := hw.least_le
  constructor
  · rintro rfl
    simp only [List.length_nil] at hlen
    omega
  · intro c hc
    obtain ⟨w, rfl⟩ := List.head?_eq_some_iff.1 hc
    obtain ⟨set, hmem, hset⟩ := hw.firsts
    exact hostChar_of_apart (hfirsts set hmem) hset
  · intro c hc
    obtain ⟨set, hmem, hset⟩ := hw.lasts hc
    exact hostChar_of_apart (hlasts set hmem) hset
  · rintro front back rfl
    rcases hdot with hdot | ⟨hapart, htwo⟩
    · -- No class of the pattern has the dot.
      obtain ⟨set, hmem, hset⟩ := hw.sets '.' (by simp)
      have := hdot set hmem
      simp [hset] at this
    · -- Every character is outside a host, and the dot is not alone.
      have hall : ∀ c ∈ front ++ '.' :: back, hostChar c = false := by
        intro c hc
        obtain ⟨set, hmem, hset⟩ := hw.sets c hc
        exact hostChar_of_apart (hapart set hmem) hset
      cases back with
      | cons c back => exact Or.inr ⟨c, rfl, hall c (by simp)⟩
      | nil =>
        rcases List.eq_nil_or_concat front with rfl | ⟨front, c, rfl⟩
        · simp at hlen
          omega
        · exact Or.inl ⟨c, by simp, hall c (by simp)⟩

/-! ## The bracketed dot -/

/-- A dot in brackets, with blanks around it and inside. -/
structure BracketDot where
  outerBefore : Text
  opener : Char
  innerBefore : Text
  dot : Text
  innerAfter : Text
  closer : Char
  outerAfter : Text
  blanks : ∀ c ∈ outerBefore ++ innerBefore ++ innerAfter ++ outerAfter, blank c = true
  brackets : (opener, closer) ∈ [('[', ']'), ('(', ')'), ('\x7b', '\x7d')]
  dotted : dot = ['.'] ∨ casefold dot = ['d', 'o', 't']

def BracketDot.text (d : BracketDot) : Text :=
  d.outerBefore ++ d.opener ::
    (d.innerBefore ++ (d.dot ++ (d.innerAfter ++ d.closer :: d.outerAfter)))

theorem toLower_of_not_upper {c : Char} (h : inRange 'A' 'Z' c = false) : c.toLower = c := by
  have hnot : ¬ ('A'.toNat ≤ c.toNat ∧ c.toNat ≤ 'Z'.toNat) := by
    rw [← inRange_iff, h]
    exact Bool.false_ne_true
  unfold Char.toLower
  split
  · next hupper =>
      exact absurd ⟨UInt32.le_iff_toNat_le.1 hupper.1, UInt32.le_iff_toNat_le.1 hupper.2⟩ hnot
  · rfl

theorem single_has_of_toLower {c d : Char} (h : c.toLower = d) :
    (single d).has ascii true c = true := by
  simp only [CharSet.has, single, List.any_cons, List.any_nil, Bool.or_false, SetItem.has,
    Bool.true_and, bne_iff_ne, ne_eq, Bool.not_eq_false, Bool.or_eq_true]
  cases hupper : inRange 'A' 'Z' c with
  | false =>
    rw [toLower_of_not_upper hupper] at h
    subst h
    exact Or.inl (inRange_iff.2 ⟨Nat.le_refl _, Nat.le_refl _⟩)
  | true =>
    have hlower : inRange 'a' 'z' c = false := by
      rw [inRange_iff] at hupper
      rw [Bool.eq_false_iff, ne_eq, inRange_iff]
      have hZ : 'Z'.toNat < 'a'.toNat := by decide
      omega
    subst h
    right
    simp [otherCases, hupper, hlower, inRange_iff]

theorem plus_prefers {set : CharSet} {w before rest : Text} (hne : w ≠ [])
    (hw : ∀ c ∈ w, set.has ascii true c = true)
    (hrest : ∀ c ∈ rest.head?, set.has ascii true c = false) :
    Prefers ascii true (plus (.one set)) { before := before, after := w ++ rest }
      { before := w.reverse ++ before, after := rest } := by
  cases w with
  | nil => exact absurd rfl hne
  | cons c w =>
    have hrun := @prefers_run ascii true set w (fun c hc => hw c (List.mem_cons_of_mem _ hc))
      (c :: before) rest hrest
    rw [List.reverse_cons, List.append_assoc]
    exact prefers_seq (prefers_one rfl (hw c (List.mem_cons_self ..))) hrun

theorem blanks_prefers {w before rest : Text} (hw : ∀ c ∈ w, blank c = true)
    (hrest : ∀ c ∈ rest.head?, blank c = false) :
    Prefers ascii true blanks { before := before, after := w ++ rest }
      { before := w.reverse ++ before, after := rest } := by
  refine prefers_run (fun c hc => blankSet_has.2 (hw c hc)) (fun c hc => ?_)
  rw [Bool.eq_false_iff, ne_eq, blankSet_has, hrest c hc]
  exact Bool.false_ne_true

theorem casefold_dot {dot : Text} (h : casefold dot = ['d', 'o', 't']) :
    ∃ a b c, dot = [a, b, c] ∧ a.toLower = 'd' ∧ b.toLower = 'o' ∧ c.toLower = 't' := by
  simp only [casefold, List.map_eq_cons_iff, List.map_eq_nil_iff] at h
  obtain ⟨a, _, rfl, ha, b, _, rfl, hb, c, _, rfl, hc, rfl⟩ := h
  exact ⟨a, b, c, rfl, ha, hb, hc⟩

theorem dotWord_prefers {dot before rest : Text} (h : casefold dot = ['d', 'o', 't']) :
    Prefers ascii true dotWord { before := before, after := dot ++ rest }
      { before := dot.reverse ++ before, after := rest } := by
  obtain ⟨a, b, c, rfl, ha, hb, hc⟩ := casefold_dot h
  exact prefers_seq (prefers_one rfl (single_has_of_toLower ha))
    (prefers_seq (prefers_one rfl (single_has_of_toLower hb))
      (prefers_seq (prefers_one rfl (single_has_of_toLower hc)) prefers_empty))

/-- A letter is not the dot, so that the second alternative is taken. -/
theorem dotted_prefers {dot before rest : Text}
    (h : dot = ['.'] ∨ casefold dot = ['d', 'o', 't']) :
    Prefers ascii true (.alt (.seq (Re.lit '.') .empty) dotWord)
      { before := before, after := dot ++ rest }
      { before := dot.reverse ++ before, after := rest } := by
  rcases h with rfl | h
  · exact prefers_alt_left (prefers_seq (prefers_one rfl rfl) prefers_empty)
  · refine prefers_alt_right (fails_seq (fails_one ?_)) (dotWord_prefers h)
    intro c hc
    rw [Bool.eq_false_iff]
    intro hdot
    obtain rfl := single_set_has (by decide) hdot
    obtain ⟨a, _, _, rfl, ha, _⟩ := casefold_dot h
    obtain rfl := Option.some.inj hc
    exact absurd ha (by decide)

/-- The first character of the word in the brackets. -/
theorem dotted_first {dot rest : Text} (h : dot = ['.'] ∨ casefold dot = ['d', 'o', 't']) :
    ∀ c ∈ (dot ++ rest).head?, blank c = false := by
  intro c hc
  rcases h with rfl | h
  · obtain rfl := Option.some.inj hc
    rfl
  · obtain ⟨a, _, _, rfl, ha, _⟩ := casefold_dot h
    obtain rfl := Option.some.inj hc
    simp only [blank, Bool.or_eq_false_iff, decide_eq_false_iff_not]
    constructor <;> rintro rfl <;> exact absurd ha (by decide)

theorem bracketed_prefers {opener closer : Char} (hcloser : blank closer = false)
    (hclosed : (single closer).has ascii true closer = true)
    (hopened : (single opener).has ascii true opener = true)
    {innerBefore dot innerAfter before rest : Text} (hbefore : ∀ c ∈ innerBefore, blank c = true)
    (hdot : dot = ['.'] ∨ casefold dot = ['d', 'o', 't'])
    (hafter : ∀ c ∈ innerAfter, blank c = true) :
    Prefers ascii true (bracketed opener closer)
      { before := before,
        after := opener :: (innerBefore ++ (dot ++ (innerAfter ++ closer :: rest))) }
      { before := closer ::
          (innerAfter.reverse ++ (dot.reverse ++ (innerBefore.reverse ++ opener :: before))),
        after := rest } := by
  refine prefers_seq (prefers_one rfl hopened)
    (prefers_seq (blanks_prefers hbefore (dotted_first hdot))
      (prefers_seq (dotted_prefers hdot)
        (prefers_seq (blanks_prefers hafter ?_)
          (prefers_seq (prefers_one rfl hclosed) prefers_empty))))
  intro c hc
  obtain rfl := Option.some.inj hc
  exact hcloser

theorem bracketDot_prefers (d : BracketDot) {before rest : Text}
    (hrest : ∀ c ∈ rest.head?, blank c = false) :
    Prefers ascii true bracketDotRe { before := before, after := d.text ++ rest }
      { before := d.text.reverse ++ before, after := rest } := by
  obtain ⟨outerBefore, opener, innerBefore, dot, innerAfter, closer, outerAfter, hblanks, hbrackets,
    hdot⟩ := d
  simp only [List.mem_append] at hblanks
  have hbefore : ∀ c ∈ innerBefore, blank c = true := fun c hc => hblanks c (by simp [hc])
  have hafter : ∀ c ∈ innerAfter, blank c = true := fun c hc => hblanks c (by simp [hc])
  have hany : Prefers ascii true anyBracketed
      { before := outerBefore.reverse ++ before,
        after := opener ::
          (innerBefore ++ (dot ++ (innerAfter ++ closer :: (outerAfter ++ rest)))) }
      { before := closer :: (innerAfter.reverse ++ (dot.reverse ++ (innerBefore.reverse ++
          opener :: (outerBefore.reverse ++ before)))),
        after := outerAfter ++ rest } := by
    simp only [List.mem_cons, Prod.mk.injEq, List.not_mem_nil, or_false] at hbrackets
    rcases hbrackets with ⟨rfl, rfl⟩ | ⟨rfl, rfl⟩ | ⟨rfl, rfl⟩
    · exact prefers_alt_left (bracketed_prefers rfl rfl rfl hbefore hdot hafter)
    · exact prefers_alt_right (fails_seq (fails_one (by simp; decide)))
        (prefers_alt_left (bracketed_prefers rfl rfl rfl hbefore hdot hafter))
    · exact prefers_alt_right (fails_seq (fails_one (by simp; decide)))
        (prefers_alt_right (fails_seq (fails_one (by simp; decide)))
          (bracketed_prefers rfl rfl rfl hbefore hdot hafter))
  have hopener : ∀ c ∈ (opener ::
      (innerBefore ++ (dot ++ (innerAfter ++ closer :: (outerAfter ++ rest))))).head?,
      blank c = false := by
    intro c hc
    obtain rfl := Option.some.inj hc
    simp only [List.mem_cons, Prod.mk.injEq, List.not_mem_nil, or_false] at hbrackets
    rcases hbrackets with ⟨rfl, _⟩ | ⟨rfl, _⟩ | ⟨rfl, _⟩ <;> rfl
  have hall := prefers_seq (blanks_prefers (fun c hc => hblanks c (by simp [hc])) hopener)
    (prefers_seq hany
      (prefers_seq (blanks_prefers (fun c hc => hblanks c (by simp [hc])) hrest) prefers_empty))
  rw [readPatterns.bracketDot]
  simpa [BracketDot.text] using hall

def isOpener (c : Char) : Bool :=
  decide (c ∈ ['[', '(', '\x7b'])

/-- A word of the bracketed dot, without its two ends' blanks taken apart. -/
structure BracketWord (w : Text) : Prop where
  shape : ∃ front opener inner closer back,
    w = front ++ opener :: (inner ++ closer :: back) ∧
      (∀ c ∈ front, hostChar c = false) ∧ hostChar opener = false ∧
      (∀ c ∈ inner, isOpener c = false) ∧
      isOpener closer = false ∧ blank closer = false ∧ hostChar closer = false ∧
      (∀ c ∈ back, hostChar c = false)

theorem blanks_word {ignoreCase : Bool} {w : Text} (h : blanks.Word ascii ignoreCase w) :
    ∀ c ∈ w, blank c = true := by
  intro c hc
  obtain ⟨set, hmem, hset⟩ := h.sets c hc
  obtain rfl := List.mem_singleton.1 hmem
  exact blankSet_has.1 hset

theorem host_of_blank {c : Char} (h : blank c = true) : hostChar c = false := by
  cases hc : hostChar c with
  | false => rfl
  | true => rw [not_blank_of_host hc] at h; cases h

theorem opener_of_blank {c : Char} (h : blank c = true) : isOpener c = false := by
  simp only [blank, Bool.or_eq_true, decide_eq_true_eq] at h
  rcases h with rfl | rfl <;> rfl

theorem dotted_word_opener {w : Text}
    (h : (Re.alt (.seq (Re.lit '.') .empty) dotWord).Word ascii true w) :
    ∀ c ∈ w, isOpener c = false := by
  intro c hc
  obtain ⟨set, hmem, hset⟩ := h.sets c hc
  rw [Bool.eq_false_iff]
  intro hopener
  have hnone : ∀ c ∈ ['[', '(', '\x7b'],
      ∀ set ∈ (Re.alt (.seq (Re.lit '.') .empty) dotWord).sets, set.has ascii true c = false :=
    List.all_iff_forall_prop.1 (by decide +kernel)
  rw [hnone c (by simpa [isOpener] using hopener) set hmem] at hset
  cases hset

theorem bracketed_word {opener closer : Char} {w : Text}
    (h : (bracketed opener closer).Word ascii true w) (hopener : hostChar opener = false)
    (hcloser : hostChar closer = false) :
    ∃ inner, w = opener :: (inner ++ [closer]) ∧ ∀ c ∈ inner, isOpener c = false := by
  obtain ⟨_, _, rfl, ⟨o, rfl, ho⟩, b₁, _, rfl, hb₁, m, _, rfl, hm, b₂, _, rfl, hb₂, _, _, rfl,
    ⟨c, rfl, hc⟩, rfl⟩ := h
  obtain rfl := single_set_has hopener ho
  obtain rfl := single_set_has hcloser hc
  refine ⟨b₁ ++ (m ++ b₂), by simp, ?_⟩
  intro c hc
  rw [List.mem_append, List.mem_append] at hc
  rcases hc with hc | hc | hc
  · exact opener_of_blank (blanks_word hb₁ c hc)
  · exact dotted_word_opener hm c hc
  · exact opener_of_blank (blanks_word hb₂ c hc)

theorem bracketWord_of_word {w : Text} (h : bracketDotRe.Word ascii true w) : BracketWord w := by
  rw [readPatterns.bracketDot] at h
  obtain ⟨front, _, rfl, hfront, middle, _, rfl, hmiddle, back, _, rfl, hback, rfl⟩ := h
  have hb : ∀ c ∈ back, hostChar c = false := fun c hc => host_of_blank (blanks_word hback c hc)
  have hf : ∀ c ∈ front, hostChar c = false := fun c hc => host_of_blank (blanks_word hfront c hc)
  rcases hmiddle with h | h | h
  · obtain ⟨inner, rfl, hinner⟩ := bracketed_word h (by decide) (by decide)
    exact ⟨front, '[', inner, ']', back, by simp, hf, by decide, hinner, rfl, rfl, by decide, hb⟩
  · obtain ⟨inner, rfl, hinner⟩ := bracketed_word h (by decide) (by decide)
    exact ⟨front, '(', inner, ')', back, by simp, hf, by decide, hinner, rfl, rfl, by decide, hb⟩
  · obtain ⟨inner, rfl, hinner⟩ := bracketed_word h (by decide) (by decide)
    exact ⟨front, '\x7b', inner, '\x7d', back, by simp, hf, by decide, hinner, rfl, rfl, by decide, hb⟩

/-! ## The scheme -/

/-- A word of `hxxp`. -/
structure HxxpWord (w : Text) : Prop where
  shape : ∃ h x x' p plural separator,
    w = h :: x :: x' :: p :: (plural ++ (separator ++ ['/', '/'])) ∧
      (single 'h').has ascii true h = true ∧ (single 'x').has ascii true x = true ∧
      (single 'x').has ascii true x' = true ∧ (single 'p').has ascii true p = true ∧
      (plural = [] ∨ ∃ s, plural = [s] ∧ (single 's').has ascii true s = true) ∧
      (separator = [':'] ∨ separator = ['[', ':', ']'])

theorem hxxpWord_of_word {w : Text} (hw : hxxp.Word ascii true w) : HxxpWord w := by
  rw [readPatterns.hxxp] at hw
  obtain ⟨_, _, rfl, ⟨h, rfl, hh⟩, _, _, rfl, ⟨x, rfl, hx⟩, _, _, rfl, ⟨x', rfl, hx'⟩, _, _, rfl,
    ⟨p, rfl, hp⟩, _, _, rfl, ⟨plural, _, rfl, hplural, rfl⟩, separator, _, rfl, hseparator, _, _,
    rfl, ⟨_, _, rfl, ⟨s₁, rfl, hs₁⟩, _, _, rfl, ⟨s₂, rfl, hs₂⟩, rfl⟩, rfl⟩ := hw
  obtain rfl := single_set_has (by decide) hs₁
  obtain rfl := single_set_has (by decide) hs₂
  refine ⟨h, x, x', p, plural, separator, by simp, hh, hx, hx', hp, ?_, ?_⟩
  · rcases hplural with ⟨s, rfl, hs⟩ | rfl
    · exact Or.inr ⟨s, rfl, hs⟩
    · exact Or.inl rfl
  · rcases hseparator with ⟨_, _, rfl, ⟨a, rfl, ha⟩, _, _, rfl, ⟨b, rfl, hb⟩, _, _, rfl,
      ⟨c, rfl, hc⟩, rfl⟩ | ⟨_, _, rfl, ⟨b, rfl, hb⟩, rfl⟩
    · obtain rfl := single_set_has (by decide) ha
      obtain rfl := single_set_has (by decide) hb
      obtain rfl := single_set_has (by decide) hc
      exact Or.inr rfl
    · obtain rfl := single_set_has (by decide) hb
      exact Or.inl rfl

/-! ## Labels and top-level domains -/

/-- Letters and digits. -/
structure HostRun (run : Text) : Prop where
  ne_nil : run ≠ []
  chars : ∀ c ∈ run, c.isAlphanum = true

/-- More runs, each behind hyphens. -/
inductive LabelTail : Text → Prop
  | nil : LabelTail []
  | joined {hyphens run tail : Text} : hyphens ≠ [] → (∀ c ∈ hyphens, c = '-') → HostRun run →
      LabelTail tail → LabelTail (hyphens ++ (run ++ tail))

/-- Runs of letters and digits, joined by hyphens. -/
structure HostLabel (label : Text) : Prop where
  runs : ∃ run tail, label = run ++ tail ∧ HostRun run ∧ LabelTail tail

/-- What follows does not go on with a label. -/
def NoLabel (rest : Text) : Prop :=
  ∀ c, rest.head? = some c → hostChar c = false ∧ c ≠ '-'

theorem BracketDot.opener_apart (d : BracketDot) :
    hostChar d.opener = false ∧ d.opener ≠ '-' ∧ isOpener d.opener = true ∧
      blank d.opener = false := by
  have hbrackets := d.brackets
  simp only [List.mem_cons, Prod.mk.injEq, List.not_mem_nil, or_false] at hbrackets
  rcases hbrackets with ⟨h, _⟩ | ⟨h, _⟩ | ⟨h, _⟩ <;> rw [h] <;> decide

theorem BracketDot.opener_label (d : BracketDot) : labelChar d.opener = false ∧ d.opener ≠ ' ' := by
  have hbrackets := d.brackets
  simp only [List.mem_cons, Prod.mk.injEq, List.not_mem_nil, or_false] at hbrackets
  rcases hbrackets with ⟨h, _⟩ | ⟨h, _⟩ | ⟨h, _⟩ <;> rw [h] <;> decide

theorem BracketDot.outerBefore_blank (d : BracketDot) : ∀ c ∈ d.outerBefore, blank c = true :=
  fun c hc => d.blanks c (by simp [hc])

theorem BracketDot.noLabel (d : BracketDot) (rest : Text) : NoLabel (d.text ++ rest) := by
  intro c hc
  cases houter : d.outerBefore with
  | nil =>
    rw [BracketDot.text, houter] at hc
    obtain rfl := Option.some.inj hc
    exact ⟨d.opener_apart.1, d.opener_apart.2.1⟩
  | cons b outer =>
    have hb : blank b = true := d.outerBefore_blank b (houter ▸ List.mem_cons_self ..)
    rw [BracketDot.text, houter] at hc
    obtain rfl := Option.some.inj hc
    refine ⟨host_of_blank hb, ?_⟩
    rintro rfl
    exact absurd hb (by decide)

theorem not_hyphen {c : Char} (h : c ≠ '-') : (single '-').has ascii true c = false := by
  rw [Bool.eq_false_iff]
  intro hc
  exact h (single_set_has (by decide) hc)

theorem run_prefers {run before rest : Text} (hrun : HostRun run)
    (hrest : ∀ c, rest.head? = some c → hostChar c = false) :
    Prefers ascii true (plus (.one hostSet)) { before := before, after := run ++ rest }
      { before := run.reverse ++ before, after := rest } :=
  plus_prefers hrun.ne_nil (fun c hc => hostChar_of_isAlphanum (hrun.chars c hc)) hrest

theorem LabelTail.head_host {tail rest : Text} (htail : LabelTail tail) (hrest : NoLabel rest) :
    ∀ c, (tail ++ rest).head? = some c → hostChar c = false := by
  intro c hc
  cases htail with
  | nil => exact (hrest c hc).1
  | joined hne hhyphens _ _ =>
    rename_i hyphens run tail
    obtain ⟨d, hyphens', rfl⟩ := List.exists_cons_of_ne_nil hne
    obtain rfl := Option.some.inj hc
    rw [hhyphens d (List.mem_cons_self ..)]
    decide

theorem hyphenRuns_prefers {tail : Text} (htail : LabelTail tail) :
    ∀ {before rest : Text}, NoLabel rest →
      Prefers ascii true hyphenRuns { before := before, after := tail ++ rest }
        { before := tail.reverse ++ before, after := rest } := by
  induction htail with
  | nil =>
    intro before rest hrest
    refine prefers_star_stop (fails_seq (fails_seq (fails_one ?_)))
    intro c hc
    exact not_hyphen (hrest c hc).2
  | joined hne hhyphens hrun htail ih =>
    rename_i hyphens run tail
    intro before rest hrest
    obtain ⟨d, run', hrunc⟩ := List.exists_cons_of_ne_nil hrun.ne_nil
    have hnext : ∀ c ∈ (run ++ (tail ++ rest)).head?, (single '-').has ascii true c = false := by
      intro c hc
      have hd := hrun.chars d (hrunc ▸ List.mem_cons_self ..)
      rw [hrunc] at hc
      obtain rfl := Option.some.inj hc
      refine not_hyphen ?_
      rintro rfl
      exact absurd hd (by decide)
    have hround := prefers_seq
      (@plus_prefers (single '-') hyphens before _ hne (fun c hc => by rw [hhyphens c hc]; rfl) hnext)
      (prefers_seq (run_prefers hrun (htail.head_host hrest)) prefers_empty)
    have hall : Prefers ascii true hyphenRuns _ _ :=
      prefers_star_more hround (by simp [hrunc]; omega) (ih hrest)
    simpa using hall

/-- A label is read as a whole. -/
theorem labelThen_prefers {label before rest : Text} {last : Cursor} {next : Re}
    (hlabel : HostLabel label) (hrest : NoLabel rest)
    (hnext : Prefers ascii true next { before := label.reverse ++ before, after := rest } last) :
    Prefers ascii true (labelThen next) { before := before, after := label ++ rest } last := by
  obtain ⟨run, tail, rfl, hrun, htail⟩ := hlabel.runs
  rw [List.append_assoc]
  refine prefers_seq (run_prefers hrun (htail.head_host hrest))
    (prefers_seq (hyphenRuns_prefers htail hrest) ?_)
  simpa using hnext

/-- Two letters or digits in a row are not spaced. -/
theorem spacedTld_fails {c d : Char} {before rest : Text} (hd : hostChar d = true) :
    Fails ascii true spacedTld { before := before, after := c :: d :: rest } := by
  refine fails_seq_one rfl (fails_seq (fails_seq (fails_seq (fails_seq (fails_one ?_)))))
  intro e he
  obtain rfl := Option.some.inj he
  rw [Bool.eq_false_iff, ne_eq, blankSet_has, not_blank_of_host hd]
  exact Bool.false_ne_true

/-- A candidate is found where a label, a bracketed dot and a top-level domain stand. -/
theorem hostCandidate_prefers {label tld before rest : Text} (d : BracketDot)
    (hlabel : HostLabel label) (htld : ∀ c ∈ tld, c.isAlphanum = true) (hlen : 2 ≤ tld.length)
    (hbefore : ∀ c, before.head? = some c → hostChar c = false) (hrest : NoLabel rest) :
    Prefers ascii true hostCandidate
      { before := before, after := label ++ (d.text ++ (tld ++ rest)) }
      { before := tld.reverse ++ (d.text.reverse ++ (label.reverse ++ before)), after := rest } := by
  obtain ⟨c₁, c₂, more, rfl⟩ : ∃ c₁ c₂ more, tld = c₁ :: c₂ :: more := by
    match tld, hlen with
    | c₁ :: c₂ :: more, _ => exact ⟨c₁, c₂, more, rfl⟩
  have hhost : ∀ c ∈ c₁ :: c₂ :: more, hostChar c = true :=
    fun c hc => hostChar_of_isAlphanum (htld c hc)
  have htldLabel : HostLabel (c₁ :: c₂ :: more) :=
    ⟨c₁ :: c₂ :: more, [], by simp, ⟨by simp, htld⟩, LabelTail.nil⟩
  rw [readPatterns.hostCandidate]
  refine prefers_seq (prefers_behind_not hbefore)
    (labelThen_prefers hlabel (d.noLabel _)
      (prefers_seq (prefers_alt_left (bracketDot_prefers d ?_))
        (prefers_seq
          (prefers_alt_right (spacedTld_fails (hhost c₂ (by simp)))
            (labelThen_prefers htldLabel hrest prefers_empty))
          prefers_empty)))
  intro c hc
  obtain rfl := Option.some.inj hc
  exact not_blank_of_host (hhost _ (List.mem_cons_self ..))

/-! ## The exact host -/

/-- The longest run of host characters at the end of a text. -/
theorem exists_host_run (front : Text) :
    ∃ rest run, front = rest ++ run ∧ (∀ c ∈ run, hostChar c = true) ∧
      ∀ c, rest.getLast? = some c → hostChar c = false := by
  refine ⟨(front.reverse.dropWhile hostChar).reverse, (front.reverse.takeWhile hostChar).reverse,
    ?_, ?_, ?_⟩
  · rw [← List.reverse_append, List.takeWhile_append_dropWhile, List.reverse_reverse]
  · intro c hc
    have hall := List.all_takeWhile (p := hostChar) (l := front.reverse)
    exact List.all_eq_true.1 hall c (List.mem_reverse.1 hc)
  · intro c hc
    rw [List.getLast?_reverse] at hc
    have hnot := List.head?_dropWhile_not hostChar front.reverse
    rw [hc] at hnot
    simpa using hnot

theorem hostTail_of_host {c : Char} (h : hostChar c = true) :
    hostTailSet.has ascii true c = true := by
  simp only [hostChar, CharSet.has, hostSet, hostTailSet, bne_iff_ne, ne_eq, Bool.not_eq_false,
    List.any_cons, List.any_nil, Bool.or_false, Bool.or_eq_true] at *
  rcases h with h | h | h <;> simp [h]

/-- A dot between a host character and at least two of them, with nothing more behind. -/
theorem exactHost_search {front tld rest : Text} {c : Char} (hc : hostChar c = true)
    (htld : ∀ c ∈ tld, hostChar c = true) (hlen : 2 ≤ tld.length)
    (hrest : ∀ c, rest.head? = some c → hostChar c = false) :
    (search ascii true exactHost (front ++ c :: '.' :: (tld ++ rest))).isSome = true := by
  obtain ⟨before, run, rfl, hrun, hbefore⟩ := exists_host_run front
  obtain ⟨c₁, c₂, more, rfl⟩ : ∃ c₁ c₂ more, tld = c₁ :: c₂ :: more := by
    match tld, hlen with
    | c₁ :: c₂ :: more, _ => exact ⟨c₁, c₂, more, rfl⟩
  have hplace : ∀ c ∈ before.reverse.head?, hostSet.has ascii true c = false := by
    intro c hc
    rw [List.head?_reverse] at hc
    exact hbefore c hc
  have hlabel : Reaches ascii true
      (.alt (.seq (.one hostSet) .empty)
        (.seq (.one hostSet) (.seq (.star (.one hostTailSet)) (.seq (.one hostSet) .empty))))
      { before := before.reverse, after := run ++ c :: '.' :: (c₁ :: c₂ :: more ++ rest) }
      { before := c :: (run.reverse ++ before.reverse),
        after := '.' :: (c₁ :: c₂ :: more ++ rest) } := by
    cases run with
    | nil => exact (prefers_alt_left (prefers_seq (prefers_one rfl hc) prefers_empty)).reaches
    | cons r run =>
      -- The repetition gives back the last character.
      have hmiddle := @reaches_run ascii true hostTailSet run
        (fun c hc => hostTail_of_host (hrun c (List.mem_cons_of_mem _ hc))) (r :: before.reverse)
        (c :: '.' :: (c₁ :: c₂ :: more ++ rest))
      have hlast := reaches_seq hmiddle (prefers_seq (prefers_one rfl hc) prefers_empty).reaches
      have hfirst : Prefers ascii true (.one hostSet)
          { before := before.reverse,
            after := r :: (run ++ c :: '.' :: (c₁ :: c₂ :: more ++ rest)) } _ :=
        prefers_one rfl (hrun r (List.mem_cons_self ..))
      simpa using reaches_alt_right (reaches_seq hfirst.reaches hlast)
  have htail : Prefers ascii true
      (.seq (Re.lit '.')
        (.seq (.one hostSet) (.seq (.one hostSet) (.seq (.star (.one hostSet))
          (.seq (.ahead false (.seq (.one hostSet) .empty)) .empty)))))
      { before := c :: (run.reverse ++ before.reverse),
        after := '.' :: (c₁ :: c₂ :: more ++ rest) } _ :=
    prefers_seq (prefers_one rfl rfl)
      (prefers_seq (prefers_one rfl (htld c₁ (by simp)))
        (prefers_seq (prefers_one rfl (htld c₂ (by simp)))
          (prefers_seq
            (prefers_run (fun c hc => htld c (by simp [hc])) hrest)
            (prefers_seq (prefers_ahead_not (fails_seq (fails_one hrest))) prefers_empty))))
  have hmatch : (matchAt ascii true exactHost false
      { before := before.reverse,
        after := run ++ c :: '.' :: (c₁ :: c₂ :: more ++ rest) }).isSome = true := by
    rw [readPatterns.exactHost]
    exact matchAt_isSome_of_reaches
      (reaches_seq (prefers_behind_not hplace).reaches (reaches_seq hlabel htail.reaches))
  exact search_isSome_of_matchAt (by simp) hmatch

end DefangNormalizer
end Assets
end MoneyMachine
