import Mathlib.Data.List.Infix

/-!
# Replace — every match of a text replaced, from the left

`str.replace` and a `re.sub` with a fixed marker walk the text once: a match at the place where they stand
is replaced by the marker and skipped, any other character is kept.

* `infix_of_replaceAll`     : what holds no bracket of the marker stands in the result only where it stood
  in the text, at a place without a match;
* `replaceAll_eq_self_iff`  : nothing changes exactly when nothing matches;
* `length_replaceFrom_le`   : a marker that is shorter than its matches makes the text shorter.
-/

namespace MoneyMachine
namespace Library
namespace Replace

variable {α : Type}

/-- The text from a place on, its matches replaced: `find` gives the length of a match at the start of a
text, and the first `skip` characters belong to a match already replaced. -/
@[simp]
def replaceFrom (find : List α → Option Nat) (marker : List α) : Nat → List α → List α
  | _, [] => []
  | skip + 1, _ :: rest => replaceFrom find marker skip rest
  | 0, c :: rest =>
    match find (c :: rest) with
    | some (n + 1) => marker ++ replaceFrom find marker n rest
    | _ => c :: replaceFrom find marker 0 rest

def replaceAll (find : List α → Option Nat) (marker text : List α) : List α :=
  replaceFrom find marker 0 text

/-- A text starts with a match. -/
def Hits (find : List α → Option Nat) (text : List α) : Prop :=
  ∃ n, find text = some (n + 1)

section Walk

variable {find : List α → Option Nat} {marker : List α}

theorem replaceFrom_hit {c : α} {rest : List α} {n : Nat} (h : find (c :: rest) = some (n + 1)) :
    replaceFrom find marker 0 (c :: rest) = marker ++ replaceFrom find marker n rest := by
  rw [replaceFrom, h]

theorem replaceFrom_keep {c : α} {rest : List α} (h : ¬ Hits find (c :: rest)) :
    replaceFrom find marker 0 (c :: rest) = c :: replaceFrom find marker 0 rest := by
  rw [replaceFrom]
  split
  · rename_i n hn
    exact absurd ⟨n, hn⟩ h
  · rfl

theorem replaceFrom_skip (n : Nat) (c : α) (rest : List α) :
    replaceFrom find marker (n + 1) (c :: rest) = replaceFrom find marker n rest := by
  rw [replaceFrom]

theorem replaceFrom_eq_drop (skip : Nat) (text : List α) :
    replaceFrom find marker skip text = replaceFrom find marker 0 (text.drop skip) := by
  induction text generalizing skip with
  | nil => simp
  | cons c rest ih =>
    cases skip with
    | zero => rfl
    | succ n =>
      rw [replaceFrom_skip, List.drop_succ_cons]
      exact ih n

/-- Nothing changes where nothing matches. -/
theorem replaceAll_eq_self {text : List α} (h : ∀ s, s <:+ text → ¬ Hits find s) :
    replaceAll find marker text = text := by
  unfold replaceAll
  induction text with
  | nil => rfl
  | cons c rest ih =>
    rw [replaceFrom_keep (h _ (List.suffix_refl _))]
    congr 1
    apply ih
    intro s hs
    exact h s (hs.trans (List.suffix_cons c rest))

end Walk

/-! ## What stands in the result -/

section Brackets

variable {find : List α → Option Nat}

/-- What has no separator in it stands on one side of it. -/
theorem infix_of_append_cons {form before after : List α} {c : α} (hc : c ∉ form)
    (h : form <:+: before ++ c :: after) : form <:+: before ∨ form <:+: after := by
  obtain ⟨s, t, hst⟩ := h
  rw [List.append_assoc] at hst
  rcases List.append_eq_append_iff.mp hst with ⟨a, hbefore, hrest⟩ | ⟨a, hs, hrest⟩
  · -- The form starts in front of the separator, so it ends there.
    rcases List.append_eq_append_iff.mp hrest with ⟨b, ha, -⟩ | ⟨b, hform, hb⟩
    · left
      exact ⟨s, b, by rw [hbefore, ha, List.append_assoc]⟩
    · cases b with
      | nil =>
        left
        refine ⟨s, [], ?_⟩
        rw [hbefore, hform, List.append_nil, List.append_nil]
      | cons d b =>
        have hd : c = d := (List.cons.inj hb).1
        exact absurd (by rw [hform, hd]; simp) hc
  · cases a with
    | nil =>
      rw [List.nil_append] at hrest
      cases form with
      | nil => exact .inl List.nil_infix
      | cons d form =>
        have hd : c = d := (List.cons.inj hrest).1
        exact absurd (by rw [hd]; exact List.mem_cons_self) hc
    | cons d a =>
      right
      rw [List.cons_append] at hrest
      have hafter := (List.cons.inj hrest).2
      exact ⟨a, t, by rw [hafter, List.append_assoc]⟩

/-- A start of the result without the opening bracket is a start of the text. -/
theorem prefix_of_replaceFrom {start body : List α} {left : α} (hleft : left ∉ start) {text : List α}
    (h : start <+: replaceFrom find (left :: body) 0 text) : start <+: text := by
  induction text generalizing start with
  | nil => exact h
  | cons c rest ih =>
    by_cases hhit : Hits find (c :: rest)
    · obtain ⟨n, hn⟩ := hhit
      rw [replaceFrom_hit hn] at h
      cases start with
      | nil => exact List.nil_prefix
      | cons d start =>
        have hd := (List.cons_prefix_cons.mp h).1
        exact absurd (by rw [hd]; exact List.mem_cons_self) hleft
    · rw [replaceFrom_keep hhit] at h
      cases start with
      | nil => exact List.nil_prefix
      | cons d start =>
        obtain ⟨hd, hrest⟩ := List.cons_prefix_cons.mp h
        apply List.cons_prefix_cons.mpr
        exact ⟨hd, ih (fun hmem => hleft (List.mem_cons_of_mem d hmem)) hrest⟩

/-- What has no bracket of the marker and does not stand between them stands in the result only where it
stood in the text, at a place without a match. -/
theorem infix_of_replaceFrom {form body text : List α} {left right : α} (hform : form ≠ [])
    (hleft : left ∉ form) (hright : right ∉ form) (hbody : ¬ form <:+: body) {skip : Nat}
    (h : form <:+: replaceFrom find (left :: (body ++ [right])) skip text) :
    ∃ s, s <:+ text ∧ form <+: s ∧ ¬ Hits find s := by
  induction text generalizing skip with
  | nil =>
    rw [replaceFrom] at h
    exact absurd (List.infix_nil.mp h) hform
  | cons c rest ih =>
    -- What was found in the rest is found in the text.
    have hlater : ∀ {skip}, form <:+: replaceFrom find (left :: (body ++ [right])) skip rest →
        ∃ s, s <:+ c :: rest ∧ form <+: s ∧ ¬ Hits find s := by
      intro skip hin
      obtain ⟨s, hs, hform⟩ := ih hin
      exact ⟨s, hs.trans (List.suffix_cons c rest), hform⟩
    cases skip with
    | succ n =>
      rw [replaceFrom_skip] at h
      exact hlater h
    | zero =>
      by_cases hhit : Hits find (c :: rest)
      · obtain ⟨n, hn⟩ := hhit
        rw [replaceFrom_hit hn, List.cons_append, List.append_assoc, List.singleton_append] at h
        rcases infix_of_append_cons hleft (List.nil_append _ ▸ h : form <:+: [] ++ left :: _) with hnil | hin
        · exact absurd (List.infix_nil.mp hnil) hform
        rcases infix_of_append_cons hright hin with hin | hin
        · exact absurd hin hbody
        · exact hlater hin
      · rw [replaceFrom_keep hhit] at h
        rcases List.infix_cons_iff.mp h with hstart | hin
        · refine ⟨c :: rest, List.suffix_refl _, ?_, hhit⟩
          cases form with
          | nil => exact absurd rfl hform
          | cons d form =>
            obtain ⟨hd, hrest⟩ := List.cons_prefix_cons.mp hstart
            apply List.cons_prefix_cons.mpr
            exact ⟨hd, prefix_of_replaceFrom (fun hmem => hleft (List.mem_cons_of_mem d hmem)) hrest⟩
        · exact hlater hin

end Brackets

/-! ## Lengths -/

section Lengths

variable {find : List α → Option Nat} {marker : List α}

/-- Matches are longer than the marker, and lie in the text. -/
def Shortens (find : List α → Option Nat) (marker : List α) : Prop :=
  ∀ s n, find s = some (n + 1) → marker.length < n + 1 ∧ n + 1 ≤ s.length

theorem length_replaceFrom_le (h : Shortens find marker) (skip : Nat) (text : List α) :
    (replaceFrom find marker skip text).length ≤ text.length - skip := by
  induction text generalizing skip with
  | nil => simp [replaceFrom]
  | cons c rest ih =>
    cases skip with
    | succ n =>
      rw [replaceFrom_skip, List.length_cons]
      have hrest := ih n
      omega
    | zero =>
      by_cases hhit : Hits find (c :: rest)
      · obtain ⟨n, hn⟩ := hhit
        have hshort := h _ n hn
        have hrest := ih n
        rw [replaceFrom_hit hn, List.length_append]
        rw [List.length_cons] at hshort ⊢
        omega
      · have hrest := ih 0
        rw [replaceFrom_keep hhit, List.length_cons, List.length_cons]
        omega

theorem length_replaceAll_le (h : Shortens find marker) (text : List α) :
    (replaceAll find marker text).length ≤ text.length :=
  length_replaceFrom_le h 0 text

/-- With a match the result is shorter. -/
theorem length_replaceAll_lt (h : Shortens find marker) {s text : List α} (hs : s <:+ text)
    (hhit : Hits find s) : (replaceAll find marker text).length < text.length := by
  unfold replaceAll
  induction text with
  | nil =>
    obtain ⟨n, hn⟩ := hhit
    have hshort := h s n hn
    rw [List.suffix_nil.mp hs, List.length_nil] at hshort
    omega
  | cons c rest ih =>
    by_cases hfirst : Hits find (c :: rest)
    · obtain ⟨n, hn⟩ := hfirst
      have hshort := h _ n hn
      have hrest := length_replaceFrom_le h n rest
      rw [replaceFrom_hit hn, List.length_append]
      rw [List.length_cons] at hshort ⊢
      omega
    · rw [replaceFrom_keep hfirst, List.length_cons, List.length_cons]
      rcases List.suffix_cons_iff.mp hs with rfl | hs
      · exact absurd hhit hfirst
      · have hrest := ih hs
        omega

/-- Nothing changes exactly when nothing matches. -/
theorem replaceAll_eq_self_iff (h : Shortens find marker) (text : List α) :
    replaceAll find marker text = text ↔ ∀ s, s <:+ text → ¬ Hits find s := by
  constructor
  · intro heq s hs hhit
    have hlt := length_replaceAll_lt h hs hhit
    rw [heq] at hlt
    exact absurd hlt (Nat.lt_irrefl _)
  · exact replaceAll_eq_self

end Lengths

/-! ## Replacing one text -/

section Word

variable [DecidableEq α]

/-- A word is found where a text starts with it. -/
def word (old : List α) (text : List α) : Option Nat :=
  if old.isPrefixOf text then some old.length else none

theorem hits_word_iff {old text : List α} (h : old ≠ []) : Hits (word old) text ↔ old <+: text := by
  unfold Hits word
  rw [← List.isPrefixOf_iff_prefix]
  cases old with
  | nil => exact absurd rfl h
  | cons c old => by_cases hstart : (c :: old).isPrefixOf text = true <;> simp [hstart]

theorem word_eq_some {old text : List α} {n : Nat} (h : word old text = some (n + 1)) :
    old <+: text ∧ n + 1 = old.length := by
  unfold word at h
  split at h
  · rename_i hstart
    exact ⟨List.isPrefixOf_iff_prefix.mp hstart, (Option.some.inj h).symm⟩
  · cases h

theorem shortens_word {old marker : List α} (h : marker.length < old.length) :
    Shortens (word old) marker := by
  intro s n hn
  obtain ⟨hstart, hlength⟩ := word_eq_some hn
  rw [hlength]
  exact ⟨h, hstart.length_le⟩

/-- A word is found somewhere exactly when it occurs. -/
theorem forall_not_hits_word_iff {old text : List α} (h : old ≠ []) :
    (∀ s, s <:+ text → ¬ Hits (word old) s) ↔ ¬ old <:+: text := by
  constructor
  · rintro hnone ⟨a, b, rfl⟩
    apply hnone (old ++ b)
    · exact ⟨a, by rw [List.append_assoc]⟩
    · exact (hits_word_iff h).mpr (List.prefix_append old b)
  · rintro hnone s ⟨a, rfl⟩ hhit
    obtain ⟨b, rfl⟩ := (hits_word_iff h).mp hhit
    exact hnone ⟨a, b, by rw [List.append_assoc]⟩

end Word

end Replace
end Library
end MoneyMachine
