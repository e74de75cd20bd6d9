import MoneyMachine.Assets.DefangPasses

/-!
# DefangHosts — where a bracketed host is found

The scan for hosts never reads a character twice, so that a label is not tried again once an earlier
candidate has taken it as a top-level domain.

* `merge_covers`, `merge_apart` : the merged spans;
* `undoFrom_span`               : each of them is undone, and what stands behind it is kept;
* `bracketed_host_matches`      : the host is found unless its label is taken.
-/

namespace MoneyMachine
namespace Assets
namespace DefangNormalizer

open Library

/-! ## Merging -/

theorem spanLe_trans (a b c : Span) : spanLe a b = true → spanLe b c = true → spanLe a c = true := by
  simp only [spanLe, Bool.or_eq_true, Bool.and_eq_true, decide_eq_true_eq]
  omega

theorem spanLe_total (a b : Span) : (spanLe a b || spanLe b a) = true := by
  simp only [spanLe, Bool.or_eq_true, Bool.and_eq_true, decide_eq_true_eq]
  omega

theorem spanLe_start {a b : Span} (h : spanLe a b = true) : a.1 ≤ b.1 := by
  simp only [spanLe, Bool.or_eq_true, Bool.and_eq_true, decide_eq_true_eq] at h
  omega

/-- Spans in the order of their starts, inside a text of so many characters. -/
structure Ordered (limit : Nat) (last : Span) (rest : List Span) : Prop where
  sorted : (last :: rest).Pairwise (fun a b => a.1 ≤ b.1)
  inside : ∀ s ∈ last :: rest, s.1 ≤ s.2 ∧ s.2 ≤ limit

theorem Ordered.merged {limit : Nat} {last span : Span} {rest : List Span}
    (h : Ordered limit last (span :: rest)) :
    Ordered limit (last.1, max last.2 span.2) rest := by
  obtain ⟨hlast, htail⟩ := List.pairwise_cons.1 h.sorted
  constructor
  · refine List.pairwise_cons.2 ⟨fun s hs => hlast s (List.mem_cons_of_mem _ hs),
      (List.pairwise_cons.1 htail).2⟩
  · intro s hs
    rcases List.mem_cons.1 hs with rfl | hs
    · have hl := h.inside last (by simp)
      have hspan := h.inside span (by simp)
      dsimp only
      omega
    · exact h.inside s (by simp [hs])

theorem Ordered.tail {limit : Nat} {last span : Span} {rest : List Span}
    (h : Ordered limit last (span :: rest)) : Ordered limit span rest :=
  ⟨(List.pairwise_cons.1 h.sorted).2, fun s hs => h.inside s (List.mem_cons_of_mem _ hs)⟩

theorem mergeInto_inside {limit : Nat} :
    ∀ {rest : List Span} {last : Span}, Ordered limit last rest →
      ∀ m ∈ mergeInto last rest, last.1 ≤ m.1 ∧ m.1 ≤ m.2 ∧ m.2 ≤ limit := by
  intro rest
  induction rest with
  | nil =>
    intro last h m hm
    obtain rfl := List.mem_singleton.1 hm
    exact ⟨Nat.le_refl _, h.inside m (by simp)⟩
  | cons span rest ih =>
    intro last h m hm
    rw [mergeInto] at hm
    split at hm
    · exact ih h.merged m hm
    · rcases List.mem_cons.1 hm with rfl | hm
      · exact ⟨Nat.le_refl _, h.inside m (by simp)⟩
      · obtain ⟨hstart, hrest⟩ := ih h.tail m hm
        have hle := (List.pairwise_cons.1 h.sorted).1 span (by simp)
        exact ⟨Nat.le_trans hle hstart, hrest⟩

theorem mergeInto_covers {limit : Nat} :
    ∀ {rest : List Span} {last : Span}, Ordered limit last rest →
      ∀ s ∈ last :: rest, ∃ m ∈ mergeInto last rest, m.1 ≤ s.1 ∧ s.2 ≤ m.2 := by
  intro rest
  induction rest with
  | nil =>
    intro last _ s hs
    obtain rfl := List.mem_singleton.1 hs
    exact ⟨s, List.mem_singleton.2 rfl, Nat.le_refl _, Nat.le_refl _⟩
  | cons span rest ih =>
    intro last h s hs
    rw [mergeInto]
    have hle := (List.pairwise_cons.1 h.sorted).1 span (by simp)
    split
    · -- The merged span holds the last one and the next.
      rcases List.mem_cons.1 hs with rfl | hs
      · obtain ⟨m, hm, hstart, hstop⟩ := ih h.merged _ (List.mem_cons_self ..)
        exact ⟨m, hm, hstart, Nat.le_trans (Nat.le_max_left _ _) hstop⟩
      rcases List.mem_cons.1 hs with rfl | hs
      · obtain ⟨m, hm, hstart, hstop⟩ := ih h.merged _ (List.mem_cons_self ..)
        exact ⟨m, hm, Nat.le_trans hstart hle, Nat.le_trans (Nat.le_max_right _ _) hstop⟩
      · exact ih h.merged s (List.mem_cons_of_mem _ hs)
    · rcases List.mem_cons.1 hs with rfl | hs
      · exact ⟨s, List.mem_cons_self .., Nat.le_refl _, Nat.le_refl _⟩
      · obtain ⟨m, hm, hcovers⟩ := ih h.tail s hs
        exact ⟨m, List.mem_cons_of_mem _ hm, hcovers⟩

theorem mergeInto_apart {limit : Nat} :
    ∀ {rest : List Span} {last : Span}, Ordered limit last rest →
      (mergeInto last rest).Pairwise (fun a b => a.2 < b.1) := by
  intro rest
  induction rest with
  | nil =>
    intro last _
    exact List.pairwise_singleton _ _
  | cons span rest ih =>
    intro last h
    rw [mergeInto]
    split
    · exact ih h.merged
    · next hgap =>
        refine List.pairwise_cons.2 ⟨fun m hm => ?_, ih h.tail⟩
        have hstart := (mergeInto_inside h.tail m hm).1
        omega

theorem merge_ordered {limit : Nat} {spans : List Span} (h : ∀ s ∈ spans, s.1 ≤ s.2 ∧ s.2 ≤ limit)
    {first : Span} {rest : List Span} (hsort : spans.mergeSort spanLe = first :: rest) :
    Ordered limit first rest := by
  constructor
  · rw [← hsort]
    exact (List.pairwise_mergeSort spanLe_trans spanLe_total spans).imp spanLe_start
  · intro s hs
    rw [← hsort, List.mem_mergeSort] at hs
    exact h s hs

theorem merge_covers {limit : Nat} {spans : List Span} (h : ∀ s ∈ spans, s.1 ≤ s.2 ∧ s.2 ≤ limit)
    {s : Span} (hs : s ∈ spans) : ∃ m ∈ merge spans, m.1 ≤ s.1 ∧ s.2 ≤ m.2 := by
  have hsorted : s ∈ spans.mergeSort spanLe := List.mem_mergeSort.2 hs
  unfold merge
  split
  · next hnil =>
      rw [hnil] at hsorted
      cases hsorted
  · next first rest hsort =>
      rw [hsort] at hsorted
      exact mergeInto_covers (merge_ordered h hsort) s hsorted

theorem merge_inside {limit : Nat} {spans : List Span} (h : ∀ s ∈ spans, s.1 ≤ s.2 ∧ s.2 ≤ limit) :
    (∀ m ∈ merge spans, m.1 ≤ m.2 ∧ m.2 ≤ limit) ∧
      (merge spans).Pairwise (fun a b => a.2 < b.1) := by
  unfold merge
  split
  · exact ⟨fun m hm => absurd hm List.not_mem_nil, List.Pairwise.nil⟩
  · next first rest hsort =>
      have hordered := merge_ordered h hsort
      exact ⟨fun m hm => (mergeInto_inside hordered m hm).2, mergeInto_apart hordered⟩

/-! ## Undoing -/

/-- A merged span is undone, and the character behind it is the text's own. -/
theorem undoFrom_span {text : Text} {span : Span} :
    ∀ {spans : List Span} {cursor : Nat}, span ∈ spans →
      (∀ m ∈ spans, m.1 ≤ m.2 ∧ m.2 ≤ text.length) → spans.Pairwise (fun a b => a.2 < b.1) →
      ∃ front behind, undoFrom text cursor spans = front ++ undoSpan text span.1 span.2 ++ behind ∧
        behind.head? = (text.drop span.2).head? := by
  intro spans
  induction spans with
  | nil =>
    intro cursor hspan
    cases hspan
  | cons m spans ih =>
    intro cursor hspan hinside hapart
    obtain ⟨hnext, hapart'⟩ := List.pairwise_cons.1 hapart
    obtain ⟨start, stop⟩ := m
    rw [undoFrom]
    rcases List.mem_cons.1 hspan with rfl | hspan
    · refine ⟨(text.take start).drop cursor, undoFrom text stop spans, rfl, ?_⟩
      cases spans with
      | nil => rfl
      | cons m' spans =>
        obtain ⟨start', stop'⟩ := m'
        have hgap : stop < start' := hnext (start', stop') (by simp)
        obtain ⟨hle, hlimit⟩ := hinside (start', stop') (by simp)
        have hlt : stop < text.length := by
          dsimp only at hle hlimit
          omega
        rw [undoFrom, List.append_assoc, List.head?_append, List.head?_drop, List.head?_drop,
          List.getElem?_take_of_lt hgap, List.getElem?_eq_getElem hlt]
        rfl
    · obtain ⟨front, behind, heq, hbehind⟩ := @ih stop hspan
        (fun m hm => hinside m (List.mem_cons_of_mem _ hm)) hapart'
      exact ⟨(text.take start).drop cursor ++ undoSpan text start stop ++ front, behind,
        by rw [heq]; simp only [List.append_assoc], hbehind⟩

/-! ## The candidates of a text -/

theorem candidate_reads {text : Text} {m : Match} (hm : m ∈ candidates text) :
    ∃ skipped w, Reads (Cursor.start text) skipped m.first ∧ Reads m.first w m.last := by
  obtain ⟨pattern, _, hm⟩ := List.mem_flatMap.1 hm
  obtain ⟨skipped, w, hskipped, hgood⟩ := finditer_reads hm
  exact ⟨skipped, w, hskipped, hgood.reads⟩

theorem reads_lengths {place last : Cursor} {w : Text} (h : Reads place w last) :
    last.before.length = place.before.length + w.length ∧
      place.after.length = w.length + last.after.length := by
  have hbefore := congrArg List.length h.before
  have hafter := congrArg List.length h.after
  simp only [List.length_append, List.length_reverse] at hbefore hafter
  omega

theorem candidate_inside (text : Text) :
    ∀ s ∈ (candidates text).map Span.of, s.1 ≤ s.2 ∧ s.2 ≤ text.length := by
  intro s hs
  obtain ⟨m, hm, rfl⟩ := List.mem_map.1 hs
  obtain ⟨skipped, w, hskipped, hread⟩ := candidate_reads hm
  obtain ⟨hfirst, hstart⟩ := reads_lengths hskipped
  obtain ⟨hlast, hrest⟩ := reads_lengths hread
  simp only [Cursor.start, List.length_nil, Nat.zero_add] at hfirst hstart
  simp only [Span.of]
  omega

/-- A host whose last label character, dot and top-level domain lie in one candidate is found. -/
theorem search_of_candidate {text front tld behind : Text} (d : BracketDot) {m : Match}
    (htext : text = front ++ (d.text ++ (tld ++ behind))) (hfront : EndsHost front)
    (htld : BracketTld tld) (hbehind : NoLabel behind) (hm : m ∈ candidates text)
    (hstart : m.first.before.length < front.length)
    (hstop : (front ++ (d.text ++ tld)).length ≤ m.last.before.length) :
    (search ascii true exactHost (undoDefanging text (candidateSpans text))).isSome = true := by
  have hinside := candidate_inside text
  obtain ⟨span, hspan, hspanStart, hspanStop⟩ :=
    merge_covers hinside (List.mem_map_of_mem hm : Span.of m ∈ _)
  obtain ⟨hbounds, hapart⟩ := merge_inside hinside
  obtain ⟨hle, hlimit⟩ := hbounds span hspan
  have hspanStart' : span.1 < front.length := Nat.lt_of_le_of_lt hspanStart hstart
  have hspanStop' : (front ++ (d.text ++ tld)).length ≤ span.2 := Nat.le_trans hstop hspanStop
  obtain ⟨before, after, hundo, hafter⟩ := @undoFrom_span text span _ 0 hspan hbounds hapart
  let reach := span.2 - (front ++ (d.text ++ tld)).length
  have hassoc : text = (front ++ (d.text ++ tld)) ++ behind := by
    rw [htext]
    simp only [List.append_assoc]
  have hchunk : (text.take span.2).drop span.1 =
      front.drop span.1 ++ (d.text ++ (tld ++ behind.take reach)) := by
    rw [hassoc, List.take_append, List.take_of_length_le hspanStop', List.append_assoc,
      List.drop_append_of_le_length (Nat.le_of_lt hspanStart')]
    simp only [List.append_assoc, reach]
  have hrest : text.drop span.2 = behind.drop reach := by
    rw [hassoc, List.drop_append, List.drop_of_length_le hspanStop', List.nil_append]
  have hclosed : Closed (behind.take reach = []) (behind.take reach) := by
    refine ⟨fun c hc => ?_, id⟩
    obtain ⟨more, hmore⟩ := List.head?_eq_some_iff.1 hc
    refine hbehind c ?_
    rw [← List.take_append_drop reach behind, hmore]
    rfl
  have hchunkFront : EndsHost (front.drop span.1) := by
    refine EndsHost.of_append (a := front.take span.1) ?_ ?_
    · rwa [List.take_append_drop]
    · rw [ne_eq, List.drop_eq_nil_iff]
      omega
  obtain ⟨front', behind', hundone, ⟨c, hc, hhost⟩, hclosed'⟩ :=
    undoSpan_hostIn d hchunk hchunkFront htld hclosed
  obtain ⟨front'', rfl⟩ := List.getLast?_eq_some_iff.1 hc
  -- Nothing that goes on with a label stands behind the host.
  have hnext : ∀ c, (behind' ++ after).head? = some c → hostChar c = false := by
    intro c hc
    cases behind' with
    | cons e more => exact (hclosed'.noLabel c hc).1
    | nil =>
      have hnone := hclosed'.empty rfl
      rw [List.nil_append, hafter, hrest] at hc
      refine (hbehind c ?_).1
      rw [← List.take_append_drop reach behind, hnone, List.nil_append]
      exact hc
  unfold undoDefanging
  have hwhole : undoFrom text 0 (candidateSpans text) =
      (before ++ front'') ++ c :: '.' :: (tld ++ (behind' ++ after)) := by
    unfold candidateSpans
    rw [hundo, hundone]
    simp
  rw [hwhole]
  exact exactHost_search hhost htld.host htld.length hnext

/-! ## The bracketed host -/

/-- The scan for hosts takes nothing of the label for an earlier candidate, or one of the scans holds the
end of the label, the dot and the top-level domain. -/
def LabelFree (u l d t v : Text) : Prop :=
  (∀ m ∈ finditer ascii true hostCandidate (u ++ (l ++ (d ++ (t ++ v)))),
    ¬ ((Span.of m).1 < u.length ∧ u.length < (Span.of m).2)) ∨
  ∃ m ∈ candidates (u ++ (l ++ (d ++ (t ++ v)))),
    (Span.of m).1 < (u ++ l).length ∧ (u ++ (l ++ (d ++ t))).length ≤ (Span.of m).2

def Ascii (text : Text) : Prop :=
  ∀ c ∈ text, c.toNat < 128

theorem ascii_of_isAlphanum {c : Char} (h : c.isAlphanum = true) : c.toNat < 128 := by
  have hz : 'z'.toNat = 122 := rfl
  have hZ : 'Z'.toNat = 90 := rfl
  have h9 : '9'.toNat = 57 := rfl
  rcases isAlphanum_iff.1 h with h | h | h <;> rw [inRange_iff] at h <;> omega

theorem ascii_of_blank {c : Char} (h : blank c = true) : c.toNat < 128 := by
  simp only [blank, Bool.or_eq_true, decide_eq_true_eq] at h
  rcases h with rfl | rfl <;> decide

theorem LabelTail.ascii {tail : Text} (h : LabelTail tail) : Ascii tail := by
  induction h with
  | nil =>
    intro c hc
    cases hc
  | joined _ hhyphens hrun _ ih =>
    intro c hc
    rcases List.mem_append.1 hc with hc | hc
    · rw [hhyphens c hc]
      decide
    rcases List.mem_append.1 hc with hc | hc
    · exact ascii_of_isAlphanum (hrun.chars c hc)
    · exact ih c hc

theorem HostLabel.ascii {l : Text} (h : HostLabel l) : Ascii l := by
  obtain ⟨run, tail, rfl, hrun, htail⟩ := h.runs
  intro c hc
  rcases List.mem_append.1 hc with hc | hc
  · exact ascii_of_isAlphanum (hrun.chars c hc)
  · exact htail.ascii c hc

theorem HostRun.endsHost {run : Text} (h : HostRun run) : EndsHost run :=
  ⟨run.getLast h.ne_nil, List.getLast?_eq_some_getLast h.ne_nil,
    hostChar_of_isAlphanum (h.chars _ (List.getLast_mem h.ne_nil))⟩

theorem LabelTail.endsHost {tail : Text} (h : LabelTail tail) : tail = [] ∨ EndsHost tail := by
  induction h with
  | nil => exact Or.inl rfl
  | joined _ _ hrun _ ih =>
    right
    rcases ih with rfl | ih
    · rw [List.append_nil]
      exact hrun.endsHost.append
    · exact ih.append.append

theorem HostLabel.endsHost {l : Text} (h : HostLabel l) : EndsHost l := by
  obtain ⟨run, tail, rfl, hrun, htail⟩ := h.runs
  rcases htail.endsHost with rfl | hends
  · rw [List.append_nil]
    exact hrun.endsHost
  · exact hends.append

theorem BracketDot.ascii (d : BracketDot) : Ascii d.text := by
  obtain ⟨outerBefore, opener, innerBefore, dot, innerAfter, closer, outerAfter, hblanks, hbrackets,
    hdot⟩ := d
  have hword : ∀ x ∈ dot, x.toNat < 128 := by
    intro x hx
    rcases hdot with hdot | hdot
    · rw [hdot] at hx
      rw [List.mem_singleton.1 hx]
      decide
    · have hmem : x.toLower ∈ casefold dot := List.mem_map_of_mem hx
      rw [hdot] at hmem
      cases hupper : inRange 'A' 'Z' x with
      | true =>
        exact ascii_of_isAlphanum (isAlphanum_iff.2 (Or.inl hupper))
      | false =>
        rw [toLower_of_not_upper hupper] at hmem
        have hall : ∀ y ∈ ['d', 'o', 't'], y.toNat < 128 := List.all_iff_forall_prop.1 (by decide)
        exact hall x hmem
  simp only [List.mem_append] at hblanks
  simp only [List.mem_cons, Prod.mk.injEq, List.not_mem_nil, or_false] at hbrackets
  intro c hc
  simp only [BracketDot.text, List.mem_append, List.mem_cons] at hc
  rcases hc with hc | hc | hc | hc | hc | hc | hc
  · exact ascii_of_blank (hblanks c (by simp [hc]))
  · rcases hbrackets with ⟨h, _⟩ | ⟨h, _⟩ | ⟨h, _⟩ <;> rw [hc, h] <;> decide
  · exact ascii_of_blank (hblanks c (by simp [hc]))
  · exact hword c hc
  · exact ascii_of_blank (hblanks c (by simp [hc]))
  · rcases hbrackets with ⟨_, h⟩ | ⟨_, h⟩ | ⟨_, h⟩ <;> rw [hc, h] <;> decide
  · exact ascii_of_blank (hblanks c (by simp [hc]))

theorem Ascii.append {a b : Text} (ha : Ascii a) (hb : Ascii b) : Ascii (a ++ b) := by
  intro c hc
  rcases List.mem_append.1 hc with hc | hc
  · exact ha c hc
  · exact hb c hc

/-- An ASCII character that is no letter, digit or hyphen. -/
theorem apart_of_labelChar {c : Char} (hascii : c.toNat < 128) (h : labelChar c = false) :
    hostChar c = false ∧ c ≠ '-' := by
  simp only [labelChar, Bool.or_eq_false_iff, decide_eq_false_iff_not] at h
  refine ⟨?_, h.2⟩
  rw [Bool.eq_false_iff]
  intro hhost
  rw [isAlphanum_of_hostChar hascii hhost] at h
  exact absurd h.1 (by decide)

/-- The host candidate that begins with the label. -/
theorem label_candidate {u l t v : Text} (d : BracketDot) (hl : HostLabel l) (ht : BracketTld t)
    (hu : ∀ c, u.getLast? = some c → hostChar c = false) (hv : NoLabel v)
    (hfree : ∀ m ∈ finditer ascii true hostCandidate (u ++ (l ++ (d.text ++ (t ++ v)))),
      ¬ ((Span.of m).1 < u.length ∧ u.length < (Span.of m).2)) :
    ∃ m ∈ finditer ascii true hostCandidate (u ++ (l ++ (d.text ++ (t ++ v)))),
      (Span.of m).1 = u.length ∧ (Span.of m).2 = (u ++ (l ++ (d.text ++ t))).length := by
  have hwanted : Reads (Cursor.start (u ++ (l ++ (d.text ++ (t ++ v))))) u
      { before := u.reverse, after := l ++ (d.text ++ (t ++ v)) } :=
    ⟨rfl, by simp [Cursor.start]⟩
  have hbefore : ∀ c, u.reverse.head? = some c → hostChar c = false := by
    intro c hc
    rw [List.head?_reverse] at hc
    exact hu c hc
  have hprefers := hostCandidate_prefers d hl ht.chars ht.length hbefore hv
  obtain ⟨m, hm, hfirst, hlast⟩ := mem_finditer hwanted hprefers
    (by
      have := List.length_pos_iff.2 ht.ne_nil
      simp only [List.length_append]
      omega)
    (by
      rintro m hm ⟨hstart, hstop⟩
      obtain ⟨skipped, w, hskipped, hgood⟩ := finditer_reads hm
      obtain ⟨hfirst, hrest⟩ := reads_lengths hskipped
      obtain ⟨hlast, hrest'⟩ := reads_lengths hgood.reads
      simp only [Cursor.start, List.length_nil, List.length_append] at hfirst hrest hstart hstop
      refine hfree m hm ?_
      simp only [Span.of]
      omega)
  refine ⟨m, hm, ?_, ?_⟩
  · simp [Span.of, hfirst]
  · simp [Span.of, hlast]
    omega

/-- A table of characters that are not ASCII. -/
theorem translate_ascii {table : List (Char × Char)} (htable : ∀ pair ∈ table, 128 ≤ pair.1.toNat)
    {text : Text} (htext : Ascii text) : translate table text = text := by
  unfold translate
  conv_rhs => rw [← List.map_id text]
  refine List.map_congr_left ?_
  intro c hc
  have hnone : table.lookup c = none := by
    rw [List.lookup_eq_none_iff]
    intro pair hpair
    have hle := htable pair hpair
    have hlt := htext c hc
    rw [bne_iff_ne]
    rintro rfl
    omega
  rw [hnone, Option.getD_none, id]

/-- Folding leaves ASCII as it is, where `unicodedata` does. -/
theorem foldConfusables_ascii {unicode : UnicodeData}
    (hnfkc : ∀ text, Ascii text → unicode.nfkc text = text)
    (hformat : ∀ c : Char, c.toNat < 128 → unicode.isFormat c = false) {text : Text}
    (htext : Ascii text) : foldConfusables unicode text = text := by
  unfold foldConfusables
  dsimp only
  rw [translate_ascii (by decide) htext, hnfkc text htext, translate_ascii (by decide) htext]
  refine List.filter_eq_self.2 ?_
  intro c hc
  rw [hformat c (htext c hc)]
  rfl

/-- The bracketed host is found, whatever stands around it, unless the label is taken. -/
theorem bracketed_host_matches (unicode : UnicodeData)
    (hnfkc : ∀ text, Ascii text → unicode.nfkc text = text)
    (hformat : ∀ c : Char, c.toNat < 128 → unicode.isFormat c = false) (u l t v : Text) (d : BracketDot)
    (hu : Ascii u) (hv : Ascii v) (hl : HostLabel l) (ht : BracketTld t)
    (huEnd : ∀ c, u.getLast? = some c → labelChar c = false)
    (hvStart : ∀ c, v.head? = some c → labelChar c = false)
    (hfree : LabelFree u l d.text t v) :
    hostMatches unicode (u ++ (l ++ (d.text ++ (t ++ v)))) = true := by
  have htAscii : Ascii t := fun c hc => ascii_of_isAlphanum (ht.chars c hc)
  have hascii : Ascii (u ++ (l ++ (d.text ++ (t ++ v)))) :=
    hu.append (hl.ascii.append (d.ascii.append (htAscii.append hv)))
  have hvApart : NoLabel v := fun c hc =>
    apart_of_labelChar (hv c (List.mem_of_mem_head? hc)) (hvStart c hc)
  -- One candidate holds the end of the label, the dot and the top-level domain.
  obtain ⟨m, hm, hstart, hstop⟩ : ∃ m ∈ candidates (u ++ (l ++ (d.text ++ (t ++ v)))),
      (Span.of m).1 < (u ++ l).length ∧
        (u ++ (l ++ (d.text ++ t))).length ≤ (Span.of m).2 := by
    rcases hfree with hfree | hheld
    · obtain ⟨m, hm, hstart, hstop⟩ := label_candidate d hl ht
        (fun c hc => (apart_of_labelChar (hu c (List.mem_of_getLast? hc)) (huEnd c hc)).1)
        hvApart hfree
      obtain ⟨c, hc, _⟩ := hl.endsHost
      have hlen : 0 < l.length := List.length_pos_iff.2 (by rintro rfl; cases hc)
      refine ⟨m, List.mem_flatMap.2 ⟨hostCandidate, by simp, hm⟩, ?_, Nat.le_of_eq hstop.symm⟩
      rw [hstart, List.length_append]
      omega
    · exact hheld
  unfold hostMatches normalizeDefanged
  dsimp only
  rw [foldConfusables_ascii hnfkc hformat hascii]
  refine search_of_candidate d (List.append_assoc u l _).symm hl.endsHost.append ht hvApart hm
    hstart ?_
  rw [List.append_assoc]
  exact hstop

/-- `[.]`. -/
def squareDot : BracketDot where
  outerBefore := []
  opener := '['
  innerBefore := []
  dot := ['.']
  innerAfter := []
  closer := ']'
  outerAfter := []
  blanks := fun _ hc => absurd hc List.not_mem_nil
  brackets := by decide
  dotted := Or.inl rfl

theorem com_bracketTld : BracketTld ['c', 'o', 'm'] :=
  ⟨List.all_iff_forall_prop.1 (by decide), by decide, by decide +kernel⟩

theorem hostLabel_of_run {run : Text} (h : HostRun run) : HostLabel run :=
  ⟨run, [], (List.append_nil run).symm, h, LabelTail.nil⟩

/-- What `unicodedata` says of ASCII. -/
def asciiData : UnicodeData :=
  { nfkc := id
    isFormat := fun _ => false }

/-- `see evil[.]com`. -/
theorem bracketed_host_matches_phrase :
    hostMatches asciiData (['s', 'e', 'e', ' '] ++ (['e', 'v', 'i', 'l'] ++
      (squareDot.text ++ (['c', 'o', 'm'] ++ [])))) = true :=
  bracketed_host_matches asciiData (fun _ _ => rfl) (fun _ _ => rfl) ['s', 'e', 'e', ' '] ['e', 'v', 'i', 'l']
    ['c', 'o', 'm'] [] squareDot (List.all_iff_forall_prop.1 (by decide))
    (List.all_iff_forall_prop.1 (by decide))
    (hostLabel_of_run ⟨by decide, List.all_iff_forall_prop.1 (by decide)⟩) com_bracketTld
    (by rintro c ⟨⟩; decide) (by rintro c ⟨⟩)
    (Or.inl (by decide +kernel))

/-- In `www[.]example[.]com` the first candidate takes the second label, and nothing is undone. -/
theorem bracketed_host_missed :
    ¬ ∀ (u l t v : Text) (d : BracketDot), Ascii u → Ascii v → HostLabel l → BracketTld t →
      (∀ c, u.getLast? = some c → labelChar c = false) →
      (∀ c, v.head? = some c → labelChar c = false) →
      hostMatches asciiData (u ++ (l ++ (d.text ++ (t ++ v)))) = true := by
  intro h
  have hfound := h (['w', 'w', 'w'] ++ squareDot.text) ['e', 'x', 'a', 'm', 'p', 'l', 'e']
    ['c', 'o', 'm'] [] squareDot (List.all_iff_forall_prop.1 (by decide))
    (List.all_iff_forall_prop.1 (by decide))
    (hostLabel_of_run ⟨by decide, List.all_iff_forall_prop.1 (by decide)⟩) com_bracketTld
    (by rintro c ⟨⟩; decide) (by rintro c ⟨⟩)
  have hmissed : hostMatches asciiData ((['w', 'w', 'w'] ++ squareDot.text) ++
      (['e', 'x', 'a', 'm', 'p', 'l', 'e'] ++ (squareDot.text ++ (['c', 'o', 'm'] ++ [])))) =
        false := by
    decide +kernel
  rw [hmissed] at hfound
  cases hfound

end DefangNormalizer
end Assets
end MoneyMachine
