import MoneyMachine.Domain.ListingText
import MoneyMachine.Library.Base64
import MoneyMachine.Library.Percent
import MoneyMachine.Library.Replace
import MoneyMachine.Cli.SandboxRun

/-!
# Redaction — secrets of an evidence text

What counts as a secret is a text of the shape of a token, the token itself and its url-encoded and base64
forms.  Each replacement puts a marker in brackets where a secret stood; since no secret holds a bracket,
no replacement makes a secret that was not there.

A token of hexadecimal digits is found in any letter case and with dashes anywhere, and is removed by a scan
of its own.

* `redactText`, `leaks`    : the redaction and the check;
* `absent_of_replaceAll`   : what a replacement leaves;
* `leaks_eq_false_iff`     : what the check of a shaped token or none says;
* `redactText_clean`       : the redaction passes that check, changes a text only where the check fails, and
  a second time changes nothing.
-/

namespace MoneyMachine
namespace Cli
namespace Redaction

open MoneyMachine.Domain
open MoneyMachine.Library
open MoneyMachine.Library.Replace

/-- `SandboxError("redaction did not advance")`. -/
inductive RedactionError where
  | didNotAdvance
deriving DecidableEq

/-! ## Shaped secrets -/

/-- The alternatives in front of `_TOKEN_RE`. -/
def tokenStarts : List Text := [lit "secret_", lit "ntn_"]

/-- The letters and digits behind a start. -/
def runBehind (text start : Text) : Text := (text.drop start.length).takeWhile Char.isAlphanum

/-- A start and `[A-Za-z0-9]{43,}`: the length of the match. -/
def shapeFrom (text start : Text) : Option Nat :=
  if start <+: text ∧ 43 ≤ (runBehind text start).length then
    some (start.length + (runBehind text start).length)
  else none

/-- `_TOKEN_RE` at the start of a text: the length of its match. -/
def shapeLength (text : Text) : Option Nat := tokenStarts.findSome? (shapeFrom text)

def tokenShapeOk (token : Text) : Bool := decide (shapeLength token = some token.length)

def marker : Text := '[' :: (lit "REDACTED" ++ [']'])

def redactSecretShapes (text : Text) : Text := replaceAll shapeLength marker text

def containsSecretShape (text : Text) : Bool := text.tails.any (fun s => (shapeLength s).isSome)

/-! ## The guard -/

/-- Whitespace and JSON literals would rewrite the evidence document. -/
def unsafeExact (token : Text) : Bool :=
  decide (strip token = [] ∨ token ∈ [lit "true", lit "false", lit "null"])

/-- `text.replace("_", "%5F")`. -/
def escapeUnderscore (text : Text) : Text := text.flatMap (fun c => if c = '_' then lit "%5F" else [c])

/-- Url-encoding and base64 of a shaped token. Other tokens have none. -/
def encodedForms : Option Text → List Text
  | none => []
  | some token =>
    if tokenShapeOk token then
      [escapeUnderscore (Percent.quote token),
        Base64.encode (Percent.encode token)]
    else []

/-- `text.replace("-", "")`. -/
def removeDashes (text : Text) : Text := text.filter (fun c => decide (c ≠ '-'))

/-- A character of `"0123456789abcdefABCDEF"`. -/
def isHexCharacter (c : Char) : Bool := decide (c ∈ "0123456789abcdefABCDEF".toList)

section Guard

variable (lower : Text → Text)

/-- Lowercase hex of a long hex token, or empty when it is not one. -/
def foldedHex (token : Text) : Text :=
  let compact := removeDashes token
  if compact.length < 32 then []
  else if compact.any (fun c => !isHexCharacter c) then []
  else lower compact

/-- `text.find(form, index)`. -/
def findAt (form text : Text) (index : Nat) : Option Nat :=
  (List.range (text.length + 1)).find? (fun i => decide (index ≤ i) && form.isPrefixOf (text.drop i))

/-- The loop of `_scrub_hex`, with the steps that remain. -/
def scrubFrom (text lowered folded : Text) : Nat → Nat → Except RedactionError Text
  | 0, _ => .error .didNotAdvance
  | steps + 1, index =>
    match findAt folded lowered index with
    | none => .ok (text.drop index)
    | some found =>
      let next := found + folded.length
      if next ≤ index then .error .didNotAdvance
      else do
        let rest ← scrubFrom text lowered folded steps next
        .ok ((text.take found).drop index ++ marker ++ rest)

def scrubHex (text folded : Text) : Except RedactionError Text :=
  if folded = [] then .ok text else scrubFrom text (lower text) folded (text.length + 1) 0

/-- The exact token and its hexadecimal copies. -/
def scrubToken (cleaned : Text) : Option Text → Except RedactionError Text
  | none => .ok cleaned
  | some token =>
    if unsafeExact token then .ok cleaned
    else scrubHex lower (replaceAll (word token) marker cleaned) (foldedHex lower token)

/-- The encoded forms, one after the other. -/
def replaceForms : List Text → Text → Text
  | [], cleaned => cleaned
  | form :: forms, cleaned =>
    replaceForms forms (if form <:+: cleaned then replaceAll (word form) marker cleaned else cleaned)

/-- Replace shaped secrets, the exact token, and its base64 and url-encoded copies. -/
def redactText (text : Text) (token : Option Text) : Except RedactionError Text := do
  let cleaned ← scrubToken lower (redactSecretShapes text) token
  .ok (replaceForms (encodedForms token) cleaned)

/-- The check of the exact token and its hexadecimal copies. -/
def leaksToken (text : Text) : Option Text → Bool
  | none => false
  | some token =>
    let folded := foldedHex lower token
    !unsafeExact token &&
      (decide (token <:+: text) || (decide (folded ≠ []) && decide (folded <:+: removeDashes (lower text))))

/-- True when the text still contains a secret, including encoded copies. -/
def leaks (text : Text) (token : Option Text) : Bool :=
  leaksToken lower text token || (encodedForms token).any (fun form => decide (form <:+: text)) ||
    containsSecretShape text

end Guard

/-! ## What a replacement leaves -/

/-- No part of the marker: without its brackets, and longer than what stands between them.  Nor is it
written over two lines. -/
structure Foreign (form : Text) : Prop where
  left : '[' ∉ form
  right : ']' ∉ form
  line : '\n' ∉ form
  long : 8 < form.length

section Absent

variable {form text : Text} {find : Text → Option Nat}

theorem Foreign.ne_nil (h : Foreign form) : form ≠ [] :=
  List.ne_nil_of_length_pos (Nat.lt_of_le_of_lt (Nat.zero_le 8) h.long)

/-- A replacement leaves no text that is foreign to the marker and at each of its places is matched. -/
theorem absent_of_replaceAll (hform : Foreign form)
    (h : ∀ s, s <:+ text → form <+: s → Hits find s) : ¬ form <:+: replaceAll find marker text := by
  intro hin
  have hbody : ¬ form <:+: lit "REDACTED" :=
    fun hbody => absurd hbody.length_le (Nat.not_le.mpr hform.long)
  obtain ⟨s, hs, hstart, hmiss⟩ := infix_of_replaceFrom hform.ne_nil hform.left hform.right hbody hin
  exact hmiss (h s hs hstart)

/-- A replacement makes nothing of its kind that was not there. -/
theorem absent_kept (hform : Foreign form) (h : ¬ form <:+: text) :
    ¬ form <:+: replaceAll find marker text := by
  apply absent_of_replaceAll hform
  intro s hs hstart
  exact absurd (hstart.isInfix.trans hs.isInfix) h

/-- Replacing a word leaves none. -/
theorem absent_word (hform : Foreign form) : ¬ form <:+: replaceAll (word form) marker text := by
  apply absent_of_replaceAll hform
  intro s _ hstart
  exact (hits_word_iff hform.ne_nil).mpr hstart

theorem replaceAll_word_eq_self (hform : form ≠ []) (h : ¬ form <:+: text) :
    replaceAll (word form) marker text = text :=
  replaceAll_eq_self ((forall_not_hits_word_iff hform).mpr h)

/-- Of several words, each foreign to the marker, none is left. -/
theorem absent_replaceForms {forms : List Text} (hforms : ∀ other ∈ forms, Foreign other)
    (hform : Foreign form) (h : form ∈ forms ∨ ¬ form <:+: text) :
    ¬ form <:+: replaceForms forms text := by
  induction forms generalizing text with
  | nil => exact h.resolve_left List.not_mem_nil
  | cons first forms ih =>
    unfold replaceForms
    apply ih (fun other hother => hforms other (List.mem_cons_of_mem _ hother))
    by_cases hin : first <:+: text
    · rw [if_pos hin]
      rcases h with hmem | habsent
      · rcases List.mem_cons.mp hmem with rfl | hlater
        · exact Or.inr (absent_word hform)
        · exact Or.inl hlater
      · exact Or.inr (absent_kept hform habsent)
    · rw [if_neg hin]
      rcases h with hmem | habsent
      · rcases List.mem_cons.mp hmem with rfl | hlater
        · exact Or.inr hin
        · exact Or.inl hlater
      · exact Or.inr habsent

theorem replaceForms_eq_self {forms : List Text} (h : ∀ other ∈ forms, ¬ other <:+: text) :
    replaceForms forms text = text := by
  induction forms with
  | nil => rfl
  | cons first forms ih =>
    unfold replaceForms
    rw [if_neg (h first List.mem_cons_self)]
    exact ih (fun other hother => h other (List.mem_cons_of_mem _ hother))

end Absent

/-! ## Texts of the shape of a token -/

/-- What `_TOKEN_RE` matches as a whole. -/
def IsShaped (form : Text) : Prop :=
  ∃ start ∈ tokenStarts, ∃ body, form = start ++ body ∧ (∀ c ∈ body, c.isAlphanum = true) ∧ 43 ≤ body.length

section Shapes

variable {form text token start body : Text}

/-- Behind a start stand the letters and digits of the match, and more of them can follow. -/
theorem shapeFrom_append (hbody : ∀ c ∈ body, c.isAlphanum = true) (hlong : 43 ≤ body.length)
    (rest : Text) : shapeFrom (start ++ (body ++ rest)) start =
      some (start.length + (body.length + (rest.takeWhile Char.isAlphanum).length)) := by
  have hrun : runBehind (start ++ (body ++ rest)) start = body ++ rest.takeWhile Char.isAlphanum := by
    rw [runBehind, List.drop_left, List.takeWhile_append_of_pos hbody]
  have hlength : 43 ≤ (body ++ rest.takeWhile Char.isAlphanum).length := by
    rw [List.length_append]
    exact Nat.le_trans hlong (Nat.le_add_right _ _)
  rw [shapeFrom, hrun, if_pos ⟨List.prefix_append _ _, hlength⟩, List.length_append]

theorem shapeFrom_eq_some {n : Nat} (h : shapeFrom text start = some n) :
    ∃ body, start ++ body <+: text ∧ (∀ c ∈ body, c.isAlphanum = true) ∧ 43 ≤ body.length ∧
      n = (start ++ body).length := by
  unfold shapeFrom at h
  split at h
  · rename_i hmatch
    obtain ⟨⟨rest, rfl⟩, hlong⟩ := hmatch
    refine ⟨runBehind (start ++ rest) start, ?_, fun c hc => List.mem_takeWhile_imp hc, hlong, ?_⟩
    · apply (List.prefix_append_right_inj start).mpr
      rw [runBehind, List.drop_left]
      exact List.takeWhile_prefix _
    · rw [List.length_append]
      exact (Option.some.inj h).symm
  · cases h

/-- The two starts differ in their first letter, so no text has both. -/
theorem start_unique {other : Text} (hstart : start ∈ tokenStarts) (hother : other ∈ tokenStarts)
    (h : start <+: text) (h' : other <+: text) : other = start := by
  have hhead : other.head? = start.head? := by
    obtain ⟨rest, rfl⟩ := h
    obtain ⟨rest', hrest⟩ := h'
    have hfirst := congrArg List.head? hrest
    rcases List.mem_pair.mp hother with rfl | rfl <;> rcases List.mem_pair.mp hstart with rfl | rfl <;>
      exact hfirst
  rcases List.mem_pair.mp hother with rfl | rfl <;> rcases List.mem_pair.mp hstart with rfl | rfl
  · rfl
  · exact absurd hhead (by decide)
  · exact absurd hhead (by decide)
  · rfl

/-- So the match is the one of that start. -/
theorem shapeLength_of_start (hstart : start ∈ tokenStarts) (h : start <+: text) :
    shapeLength text = shapeFrom text start := by
  have hnone : ∀ other ∈ tokenStarts, other ≠ start → shapeFrom text other = none := by
    intro other hother hne
    apply if_neg
    intro hmatch
    exact hne (start_unique hstart hother h hmatch.1)
  rw [shapeLength, tokenStarts, List.findSome?_cons, List.findSome?_cons, List.findSome?_nil]
  rcases List.mem_pair.mp hstart with rfl | rfl
  · rw [hnone (lit "ntn_") (by decide) (by decide)]
    cases shapeFrom text (lit "secret_") <;> rfl
  · rw [hnone (lit "secret_") (by decide) (by decide)]
    cases shapeFrom text (lit "ntn_") <;> rfl

theorem exists_shaped {n : Nat} (h : shapeLength text = some n) :
    ∃ form, IsShaped form ∧ form <+: text ∧ n = form.length := by
  obtain ⟨start, hstart, hn⟩ := List.exists_of_findSome?_eq_some h
  obtain ⟨body, hfront, hbody, hlong, rfl⟩ := shapeFrom_eq_some hn
  exact ⟨start ++ body, ⟨start, hstart, body, rfl, hbody, hlong⟩, hfront, rfl⟩

theorem IsShaped.length_pos {form : Text} (h : IsShaped form) : 43 ≤ form.length := by
  obtain ⟨start, -, body, rfl, -, hlong⟩ := h
  rw [List.length_append]
  exact Nat.le_trans hlong (Nat.le_add_left _ _)

/-- A shaped text in front is matched, with what follows it of letters and digits. -/
theorem IsShaped.matched {form : Text} (h : IsShaped form) (rest : Text) :
    shapeLength (form ++ rest) = some (form.length + (rest.takeWhile Char.isAlphanum).length) := by
  obtain ⟨start, hstart, body, rfl, hbody, hlong⟩ := h
  rw [List.append_assoc, shapeLength_of_start hstart (List.prefix_append _ _),
    shapeFrom_append hbody hlong, List.length_append, Nat.add_assoc]

theorem tokenShapeOk_iff : tokenShapeOk token = true ↔ IsShaped token := by
  rw [tokenShapeOk, decide_eq_true_eq]
  constructor
  · intro h
    obtain ⟨form, hform, hfront, hlength⟩ := exists_shaped h
    rw [← hfront.eq_of_length hlength.symm]
    exact hform
  · intro h
    have hmatched := h.matched []
    rwa [List.append_nil, List.takeWhile_nil, List.length_nil, Nat.add_zero] at hmatched

theorem hits_shape_iff : Hits shapeLength text ↔ ∃ form, IsShaped form ∧ form <+: text := by
  constructor
  · rintro ⟨n, hn⟩
    obtain ⟨form, hform, hfront, -⟩ := exists_shaped hn
    exact ⟨form, hform, hfront⟩
  · rintro ⟨form, hform, rest, rfl⟩
    have hlong := hform.length_pos
    obtain ⟨n, hn⟩ := Nat.exists_eq_succ_of_ne_zero (n := form.length) (by omega)
    refine ⟨n + (rest.takeWhile Char.isAlphanum).length, ?_⟩
    rw [hform.matched, hn, Nat.succ_add]

theorem containsSecretShape_iff :
    containsSecretShape text = true ↔ ∃ form, IsShaped form ∧ form <:+: text := by
  rw [containsSecretShape, List.any_eq_true]
  constructor
  · rintro ⟨s, hs, hsome⟩
    obtain ⟨n, hn⟩ := Option.isSome_iff_exists.mp hsome
    obtain ⟨form, hform, hfront, -⟩ := exists_shaped hn
    exact ⟨form, hform, hfront.isInfix.trans ((List.mem_tails s text).mp hs).isInfix⟩
  · rintro ⟨form, hform, before, after, rfl⟩
    refine ⟨form ++ after, (List.mem_tails _ _).mpr ⟨before, (List.append_assoc _ _ _).symm⟩, ?_⟩
    rw [hform.matched]
    rfl

end Shapes

/-! ## Secrets of a shaped token, or of none -/

/-- What must not stand in a text. -/
def Secret (token : Option Text) (form : Text) : Prop := IsShaped form ∨ form ∈ encodedForms token

section Secrets

variable {lower : Text → Text} {text form token : Text}

/-- Letters, digits and underscores are no part of the marker's brackets and no line break. -/
theorem word_plain {c : Char} (h : c.isAlphanum = true ∨ c ∈ "_%=+/".toList) :
    c ≠ '[' ∧ c ≠ ']' ∧ c ≠ '\n' ∧ c ≠ '-' := by
  refine ⟨?_, ?_, ?_, ?_⟩ <;> (rintro rfl; revert h; decide)

theorem foreign_of_plain (h : ∀ c ∈ form, c ≠ '[' ∧ c ≠ ']' ∧ c ≠ '\n') (hlong : 8 < form.length) :
    Foreign form where
  left := fun hmem => (h _ hmem).1 rfl
  right := fun hmem => (h _ hmem).2.1 rfl
  line := fun hmem => (h _ hmem).2.2 rfl
  long := hlong

/-- A shaped text is of letters, digits and underscores. -/
theorem IsShaped.plain (h : IsShaped form) : ∀ c ∈ form, c.isAlphanum = true ∨ c = '_' := by
  obtain ⟨start, hstart, body, rfl, hbody, -⟩ := h
  intro c hc
  rcases List.mem_append.mp hc with hc | hc
  · have hstarts : ∀ start ∈ tokenStarts,
        start.all (fun c => decide (c.isAlphanum = true ∨ c = '_')) = true := by decide
    exact List.all_iff_forall_prop.1 (hstarts start hstart) c hc
  · exact Or.inl (hbody c hc)

theorem IsShaped.underscore (h : IsShaped form) : '_' ∈ form := by
  obtain ⟨start, hstart, body, rfl, -, -⟩ := h
  have hstarts : ∀ start ∈ tokenStarts, '_' ∈ start := by decide
  exact List.mem_append_left _ (hstarts start hstart)

theorem IsShaped.foreign (h : IsShaped form) : Foreign form := by
  apply foreign_of_plain
  · intro c hc
    have hplain : c.isAlphanum = true ∨ c ∈ "_%=+/".toList := by
      rcases h.plain c hc with halnum | rfl
      · exact Or.inl halnum
      · exact Or.inr (by decide)
    exact ⟨(word_plain hplain).1, (word_plain hplain).2.1, (word_plain hplain).2.2.1⟩
  · exact Nat.lt_of_lt_of_le (by decide) h.length_pos

theorem ascii_of_isAlphanum {c : Char} (h : c.isAlphanum = true) : c.toNat < 128 := by
  simp only [Char.isAlphanum, isAlpha_eq, isUpper_eq, isLower_eq, Char.isDigit, Bool.or_eq_true,
    Bool.and_eq_true, decide_eq_true_eq, UInt32.le_iff_toNat_le] at h
  have hval : c.toNat = c.val.toNat := rfl
  rw [hval]
  rcases h with (⟨-, h⟩ | ⟨-, h⟩) | ⟨-, h⟩
  · exact Nat.lt_of_le_of_lt h (by decide)
  · exact Nat.lt_of_le_of_lt h (by decide)
  · exact Nat.lt_of_le_of_lt h (by decide)

theorem IsShaped.ascii (h : IsShaped form) : ∀ c ∈ form, c.toNat < 128 := by
  intro c hc
  rcases h.plain c hc with halnum | rfl
  · exact ascii_of_isAlphanum halnum
  · decide

/-- Where each item becomes something, the result is at least as long. -/
theorem length_le_length_flatMap {α β : Type} {f : α → List β} (hf : ∀ a, 1 ≤ (f a).length)
    (items : List α) : items.length ≤ (items.flatMap f).length := by
  induction items with
  | nil => exact Nat.le_refl 0
  | cons a items ih =>
    rw [List.length_cons, List.flatMap_cons, List.length_append, Nat.add_comm]
    exact Nat.add_le_add (hf a) ih

/-- The bytes of a shaped text are as many as its characters. -/
theorem IsShaped.long_encode (h : IsShaped token) :
    8 < (Percent.encode token).length := by
  rw [Percent.encode_ascii h.ascii, List.length_map]
  exact Nat.lt_of_lt_of_le (by decide) h.length_pos

theorem foreign_quoted (h : IsShaped token) :
    Foreign (escapeUnderscore (Percent.quote token)) := by
  apply foreign_of_plain
  · intro c hc
    obtain ⟨d, hd, hc⟩ := List.mem_flatMap.mp hc
    split at hc
    · have hescape : ∀ c ∈ lit "%5F", c ≠ '[' ∧ c ≠ ']' ∧ c ≠ '\n' :=
        List.all_iff_forall_prop.1 (by decide)
      exact hescape c hc
    · rw [List.mem_singleton.mp hc]
      have hnot := fun c hc => @Percent.not_mem_quote c hc token
      refine ⟨?_, ?_, ?_⟩
      · rintro rfl
        exact hnot _ (by decide) hd
      · rintro rfl
        exact hnot _ (by decide) hd
      · rintro rfl
        exact absurd (Percent.quoted_quote token _ hd).visible (by decide)
  · have hquoted : (Percent.encode token).length ≤
        (Percent.quote token).length := by
      apply length_le_length_flatMap
      intro b
      unfold Percent.quoteByte
      split
      · exact Nat.le_refl 1
      · simp
    have hescaped : (Percent.quote token).length ≤
        (escapeUnderscore (Percent.quote token)).length := by
      apply length_le_length_flatMap
      intro c
      split
      · decide
      · exact Nat.le_refl 1
    exact Nat.lt_of_lt_of_le h.long_encode (hquoted.trans hescaped)

theorem foreign_digest (h : IsShaped token) :
    Foreign (Base64.encode (Percent.encode token)) := by
  apply foreign_of_plain
  · intro c hc
    have hdigits : ∀ c ∈ '=' :: Base64.alphabet, c ≠ '[' ∧ c ≠ ']' ∧ c ≠ '\n' :=
      List.all_iff_forall_prop.1 (by decide)
    exact hdigits c (Base64.mem_encode hc)
  · exact Nat.lt_of_lt_of_le h.long_encode (Base64.length_le_length_encode _)

/-- The encoded forms of a token are foreign to the marker. -/
theorem foreign_encodedForms {token : Option Text} : ∀ form ∈ encodedForms token, Foreign form := by
  intro form hform
  cases token with
  | none => exact absurd hform List.not_mem_nil
  | some token =>
    by_cases hshape : tokenShapeOk token = true
    · rw [encodedForms, if_pos hshape] at hform
      have hshaped := tokenShapeOk_iff.mp hshape
      rcases List.mem_pair.mp hform with rfl | rfl
      · exact foreign_quoted hshaped
      · exact foreign_digest hshaped
    · rw [encodedForms, if_neg hshape] at hform
      exact absurd hform List.not_mem_nil

theorem Secret.foreign {token : Option Text} (h : Secret token form) : Foreign form := by
  rcases h with h | h
  · exact h.foreign
  · exact foreign_encodedForms form h

/-- A character that is no space survives stripping. -/
theorem strip_ne_nil {c : Char} (hc : c ∈ text) (hspace : isSpace c = false) : strip text ≠ [] := by
  intro hstrip
  have hall : ∀ x ∈ text.dropWhile isSpace, isSpace x = true := List.rdropWhile_eq_nil_iff.mp hstrip
  rw [← List.takeWhile_append_dropWhile (p := isSpace) (l := text)] at hc
  have htrue : isSpace c = true := by
    rcases List.mem_append.mp hc with hc | hc
    · exact List.mem_takeWhile_imp hc
    · exact hall c hc
  rw [hspace] at htrue
  cases htrue

/-- A long text with such a character is not held back. -/
theorem unsafeExact_eq_false {c : Char} (hc : c ∈ token) (hspace : isSpace c = false)
    (hlong : 8 < token.length) : unsafeExact token = false := by
  apply decide_eq_false
  rintro (hstrip | hliteral)
  · exact strip_ne_nil hc hspace hstrip
  · have hshort : ∀ literal ∈ [lit "true", lit "false", lit "null"], literal.length ≤ 8 := by decide
    exact absurd (hshort token hliteral) (Nat.not_le.mpr hlong)

/-- An underscore is no hexadecimal digit. -/
theorem foldedHex_shaped (h : IsShaped token) : foldedHex lower token = [] := by
  have hmem : '_' ∈ removeDashes token := List.mem_filter.mpr ⟨h.underscore, by decide⟩
  have hany : (removeDashes token).any (fun c => !isHexCharacter c) = true :=
    List.any_eq_true.mpr ⟨'_', hmem, by decide⟩
  simp only [foldedHex, hany, if_true]
  split <;> rfl

/-- The token of a run: none, or a shaped one. -/
def ShapedOrNone (token : Option Text) : Prop := ∀ t ∈ token, tokenShapeOk t = true

/-- The check of a shaped token, or of none, says that no secret stands in the text. -/
theorem leaks_eq_false_iff {token : Option Text} (htoken : ShapedOrNone token) :
    leaks lower text token = false ↔ ∀ form, Secret token form → ¬ form <:+: text := by
  have hforms : ((encodedForms token).any (fun form => decide (form <:+: text)) = false) ↔
      ∀ form ∈ encodedForms token, ¬ form <:+: text := by
    simp only [List.any_eq_false, decide_eq_true_eq]
  have hshape : containsSecretShape text = false ↔ ∀ form, IsShaped form → ¬ form <:+: text := by
    rw [← Bool.not_eq_true, containsSecretShape_iff]
    simp only [not_exists, not_and]
  have htokenAbsent : (∀ form, IsShaped form → ¬ form <:+: text) → leaksToken lower text token = false := by
    intro habsent
    cases token with
    | none => rfl
    | some t =>
      have hshaped := tokenShapeOk_iff.mp (htoken t rfl)
      simp [leaksToken, foldedHex_shaped hshaped, habsent t hshaped]
  rw [leaks, Bool.or_eq_false_iff, Bool.or_eq_false_iff, hforms, hshape]
  constructor
  · rintro ⟨⟨-, hencoded⟩, hshaped⟩ form (hform | hform)
    · exact hshaped form hform
    · exact hencoded form hform
  · intro h
    refine ⟨⟨?_, fun form hform => h form (Or.inr hform)⟩, fun form hform => h form (Or.inl hform)⟩
    exact htokenAbsent (fun form hform => h form (Or.inl hform))

/-- For a shaped token, or none, the redaction is a chain of replacements. -/
theorem redactText_eq {token : Option Text} (htoken : ShapedOrNone token) :
    redactText lower text token = .ok (replaceForms (encodedForms token)
      (token.elim (redactSecretShapes text) (fun t => replaceAll (word t) marker (redactSecretShapes text)))) := by
  cases token with
  | none => rfl
  | some t =>
    have hshaped := tokenShapeOk_iff.mp (htoken t rfl)
    have hsafe : unsafeExact t = false :=
      unsafeExact_eq_false hshaped.underscore (by decide) hshaped.foreign.long
    simp only [redactText, scrubToken, hsafe, Bool.false_eq_true, if_false, scrubHex,
      foldedHex_shaped hshaped, if_true, Option.elim_some]
    rfl

/-- The redaction of a shaped token, or of none, leaves no secret. -/
theorem redacted_clean {token : Option Text} :
    ∀ form, Secret token form → ¬ form <:+: replaceForms (encodedForms token)
      (token.elim (redactSecretShapes text) (fun t => replaceAll (word t) marker (redactSecretShapes text))) := by
  intro form hsecret
  apply absent_replaceForms foreign_encodedForms hsecret.foreign
  rcases hsecret with hshaped | hencoded
  · right
    have hshapes : ¬ form <:+: redactSecretShapes text := by
      apply absent_of_replaceAll hshaped.foreign
      intro s _ hstart
      exact hits_shape_iff.mpr ⟨form, hshaped, hstart⟩
    cases token with
    | none => exact hshapes
    | some t => exact absent_kept hshaped.foreign hshapes
  · exact Or.inl hencoded

/-- A text without secrets is not changed. -/
theorem redactText_of_clean {token : Option Text} (htoken : ShapedOrNone token)
    (h : ∀ form, Secret token form → ¬ form <:+: text) : redactText lower text token = .ok text := by
  have hshapes : redactSecretShapes text = text := by
    apply replaceAll_eq_self
    intro s hs hhit
    obtain ⟨form, hform, hfront⟩ := hits_shape_iff.mp hhit
    exact h form (Or.inl hform) (hfront.isInfix.trans hs.isInfix)
  have htokenKept : token.elim text (fun t => replaceAll (word t) marker text) = text := by
    cases token with
    | none => rfl
    | some t =>
      have hshaped := tokenShapeOk_iff.mp (htoken t rfl)
      exact replaceAll_word_eq_self hshaped.foreign.ne_nil (h t (Or.inl hshaped))
  rw [redactText_eq htoken, hshapes, htokenKept]
  rw [replaceForms_eq_self (fun other hother => h other (Or.inr hother))]

/-- The redaction passes the check, changes a text only where the check fails, and a second time changes
nothing. -/
theorem redactText_clean {token : Option Text} (htoken : ShapedOrNone token) (text : Text) :
    ∃ cleaned, redactText lower text token = .ok cleaned ∧ leaks lower cleaned token = false ∧
      (cleaned = text ↔ leaks lower text token = false) ∧ redactText lower cleaned token = .ok cleaned := by
  have hclean := @redacted_clean text token
  have hcheck : leaks lower _ token = false := (leaks_eq_false_iff htoken).mpr hclean
  refine ⟨_, redactText_eq htoken, hcheck, ?_, redactText_of_clean htoken hclean⟩
  constructor
  · intro heq
    rw [heq] at hcheck
    exact hcheck
  · intro hpassed
    have hself := @redactText_of_clean lower text token htoken ((leaks_eq_false_iff htoken).mp hpassed)
    rw [redactText_eq htoken] at hself
    exact Except.ok.inj hself

end Secrets

end Redaction
end Cli
end MoneyMachine
