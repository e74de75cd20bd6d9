import MoneyMachine.Assets.FixtureBundle
import MoneyMachine.Cli.Redaction

/-!
# Evidence — the evidence document of a sandbox run

The document is written as JSON and checked; when it holds a secret it is redacted and checked again, and
when that does not help a document that says so is written in its place.  A token of hexadecimal digits can
survive the redaction, with dashes between its digits; then the last document stands.

* `renderEvidence`      : the rendering;
* `redactText_hex`      : the scan for a hexadecimal token ends on every text of ASCII characters;
* `error_clean`         : the last document holds no secret;
* `evidence_clean`      : what is rendered holds no secret, and what the redaction of other texts leaves.
-/

namespace MoneyMachine
namespace Cli
namespace Evidence

open MoneyMachine.Assets (dumpsIndented dumpsIndentedItems dumpsIndentedMembers indentation)
open MoneyMachine.Domain
open MoneyMachine.Library
open MoneyMachine.Library.Replace
open MoneyMachine.Cli.Redaction

/-! ## The document -/

mutual

/-- `sort_keys=True`: each dictionary in the order of its names. -/
def sortKeys : Json.Value → Json.Value
  | .arr items => .arr (sortItems items)
  | .obj members => .obj (Json.ofPairs (sortMembers members))
  | value => value

def sortItems : List Json.Value → List Json.Value
  | [] => []
  | value :: rest => sortKeys value :: sortItems rest

def sortMembers : List (Json.Text × Json.Value) → List (Json.Text × Json.Value)
  | [] => []
  | (name, value) :: rest => (name, sortKeys value) :: sortMembers rest

end

/-- `_dump`. -/
def dump (payload : List (Json.Text × Json.Value)) : Text := dumpsIndented 0 (sortKeys (.obj payload))

/-- `document["redaction_self_check"] = result`. -/
def withResult (document : List (Json.Text × Json.Value)) (result : String) :
    List (Json.Text × Json.Value) :=
  Json.insertMember (Json.lit "redaction_self_check") (.str (Json.lit result)) document

def errorDocument : List (Json.Text × Json.Value) :=
  [(Json.lit "error", .str (Json.lit "redaction self-check failed")),
    (Json.lit "redaction_self_check", .str (Json.lit "FAIL"))]

section Render

variable (lower : Text → Text)

/-- The text of a document that failed its check. -/
def renderFailed (document : List (Json.Text × Json.Value)) (token : Option Text) :
    Except RedactionError Text := do
  let text ← redactText lower (dump (withResult document "FAIL")) token
  if leaks lower text token then redactText lower (dump errorDocument) token else .ok text

/-- Return the JSON text and `PASS` or `FAIL`. -/
def renderEvidence (payload : List (Json.Text × Json.Value)) (token : Option Text) :
    Except RedactionError (Text × String) :=
  let document := withResult (Json.ofPairs payload) "PASS"
  if leaks lower (dump document) token then do
    let text ← renderFailed lower document token
    .ok (text ++ ['\n'], "FAIL")
  else .ok (dump document ++ ['\n'], "PASS")

end Render

/-! ## ASCII texts -/

/-- A text of ASCII characters. -/
def Ascii (text : Text) : Prop := ∀ c ∈ text, c.toNat < 128

/-- `str.lower` on ASCII texts; what it makes of other characters is not said. -/
def LowersAscii (lower : Text → Text) : Prop := ∀ text, Ascii text → lower text = text.map Char.toLower

section AsciiTexts

variable {text more : Text}

theorem ascii_append (h : Ascii text) (h' : Ascii more) : Ascii (text ++ more) := by
  intro c hc
  rcases List.mem_append.mp hc with hc | hc
  · exact h c hc
  · exact h' c hc

theorem ascii_cons {c : Char} (hc : c.toNat < 128) (h : Ascii text) : Ascii (c :: text) :=
  @ascii_append [c] text (fun d hd => by rwa [List.mem_singleton.mp hd]) h

theorem ascii_of_printable (h : Json.Printable text) : Ascii text :=
  fun c hc => Nat.lt_of_le_of_lt (h c hc).2 (by decide)

theorem ascii_indentation (depth : Nat) : Ascii (indentation depth) := by
  apply ascii_cons (by decide)
  intro c hc
  rw [(List.mem_replicate.mp hc).2]
  decide

theorem ascii_quote (name : Json.Text) : Ascii (Json.quote name) := ascii_of_printable (Json.printable_quote name)

mutual

theorem ascii_dumpsIndented (depth : Nat) : ∀ value, Ascii (dumpsIndented depth value)
  | .arr (value :: rest) => by
      rw [dumpsIndented]
      refine ascii_append (ascii_append (ascii_cons (by decide) (ascii_indentation _)) ?_) ?_
      · exact ascii_dumpsIndented (depth + 1) value
      · exact ascii_dumpsIndentedItems depth rest
  | .obj ((name, value) :: rest) => by
      rw [dumpsIndented]
      refine ascii_append (ascii_append (ascii_append (ascii_cons (by decide) ?_) ?_) ?_) ?_
      · exact ascii_indentation _
      · exact ascii_quote name
      · exact ascii_cons (by decide) (ascii_cons (by decide) (ascii_dumpsIndented (depth + 1) value))
      · exact ascii_dumpsIndentedMembers depth rest
  | .arr [] => ascii_of_printable (Json.dumps_printable _ _)
  | .obj [] => ascii_of_printable (Json.dumps_printable _ _)
  | .null => ascii_of_printable (Json.dumps_printable _ _)
  | .bool _ => ascii_of_printable (Json.dumps_printable _ _)
  | .int _ => ascii_of_printable (Json.dumps_printable _ _)
  | .float _ => ascii_of_printable (Json.dumps_printable _ _)
  | .str _ => ascii_of_printable (Json.dumps_printable _ _)

theorem ascii_dumpsIndentedItems (depth : Nat) : ∀ items, Ascii (dumpsIndentedItems depth items)
  | [] => by
      rw [dumpsIndentedItems]
      exact ascii_append (ascii_indentation depth) (ascii_cons (by decide) (by intro c hc; cases hc))
  | value :: rest => by
      rw [dumpsIndentedItems]
      refine ascii_append (ascii_append (ascii_cons (by decide) (ascii_indentation _)) ?_) ?_
      · exact ascii_dumpsIndented (depth + 1) value
      · exact ascii_dumpsIndentedItems depth rest

theorem ascii_dumpsIndentedMembers (depth : Nat) : ∀ members, Ascii (dumpsIndentedMembers depth members)
  | [] => by
      rw [dumpsIndentedMembers]
      exact ascii_append (ascii_indentation depth) (ascii_cons (by decide) (by intro c hc; cases hc))
  | (name, value) :: rest => by
      rw [dumpsIndentedMembers]
      refine ascii_append (ascii_append (ascii_append (ascii_cons (by decide) ?_) ?_) ?_) ?_
      · exact ascii_indentation _
      · exact ascii_quote name
      · exact ascii_cons (by decide) (ascii_cons (by decide) (ascii_dumpsIndented (depth + 1) value))
      · exact ascii_dumpsIndentedMembers depth rest

end

/-- The document is written in ASCII. -/
theorem ascii_dump (payload : List (Json.Text × Json.Value)) : Ascii (dump payload) :=
  ascii_dumpsIndented 0 _

end AsciiTexts

/-! ## The scan for a hexadecimal token -/

/-- A token of hexadecimal digits and dashes with at least 32 digits. -/
structure HexToken (token : Text) : Prop where
  digits : ∀ c ∈ token, isHexCharacter c = true ∨ c = '-'
  long : 32 ≤ (removeDashes token).length

/-- What the scan looks for. -/
def foldedOf (token : Text) : Text := (removeDashes token).map Char.toLower

/-- What the check looks in. -/
def folded (text : Text) : Text := removeDashes (text.map Char.toLower)

section Hex

variable {lower : Text → Text} {token text : Text}

theorem hexDigit_of_mem_removeDashes (h : HexToken token) :
    ∀ c ∈ removeDashes token, isHexCharacter c = true := by
  intro c hc
  obtain ⟨hmem, hdash⟩ := List.mem_filter.mp hc
  exact (h.digits c hmem).resolve_right (of_decide_eq_true hdash)

/-- A hexadecimal digit is ASCII, no space, and a lower-case one when lowered. -/
theorem hexDigit_spec {c : Char} (h : isHexCharacter c = true) :
    c.toNat < 128 ∧ isSpace c = false ∧ c ≠ '\n' ∧ c ≠ '_' ∧ c.toLower ∈ "0123456789abcdef".toList := by
  have hall : ∀ c ∈ "0123456789abcdefABCDEF".toList,
      c.toNat < 128 ∧ isSpace c = false ∧ c ≠ '\n' ∧ c ≠ '_' ∧ c.toLower ∈ "0123456789abcdef".toList :=
    List.all_iff_forall_prop.1 (by decide)
  exact hall c (of_decide_eq_true h)

theorem HexToken.long_token (h : HexToken token) : 8 < token.length :=
  Nat.lt_of_lt_of_le (by decide) (h.long.trans (List.length_filter_le _ _))

theorem HexToken.not_unsafe (h : HexToken token) : unsafeExact token = false := by
  obtain ⟨c, hc⟩ := List.exists_mem_of_length_pos (Nat.lt_of_lt_of_le (by decide : 0 < 32) h.long)
  exact unsafeExact_eq_false (List.mem_filter.mp hc).1
    (hexDigit_spec (hexDigit_of_mem_removeDashes h c hc)).2.1 h.long_token

/-- A hexadecimal token has no underscore, so it has no encoded forms. -/
theorem HexToken.no_forms (h : HexToken token) : encodedForms (some token) = [] := by
  apply if_neg
  intro hshape
  rcases h.digits '_' (tokenShapeOk_iff.mp hshape).underscore with hdigit | hdash
  · exact (hexDigit_spec hdigit).2.2.2.1 rfl
  · exact absurd hdash (by decide)

theorem HexToken.folded_eq (h : HexToken token) (hlower : LowersAscii lower) :
    foldedHex lower token = foldedOf token := by
  have hdigits := hexDigit_of_mem_removeDashes h
  have hall : (removeDashes token).any (fun c => !isHexCharacter c) = false := by
    rw [List.any_eq_false]
    intro c hc
    rw [hdigits c hc]
    decide
  simp only [foldedHex, if_neg (Nat.not_lt.mpr h.long), hall, Bool.false_eq_true, if_false]
  exact hlower _ (fun c hc => (hexDigit_spec (hdigits c hc)).1)

theorem HexToken.folded_digits (h : HexToken token) :
    ∀ c ∈ foldedOf token, c ∈ "0123456789abcdef".toList := by
  intro c hc
  obtain ⟨d, hd, rfl⟩ := List.mem_map.mp hc
  exact (hexDigit_spec (hexDigit_of_mem_removeDashes h d hd)).2.2.2.2

theorem HexToken.folded_long (h : HexToken token) : 32 ≤ (foldedOf token).length := by
  rw [foldedOf, List.length_map]
  exact h.long

theorem HexToken.folded_ne_nil (h : HexToken token) : foldedOf token ≠ [] :=
  List.ne_nil_of_length_pos (Nat.lt_of_lt_of_le (by decide) h.folded_long)

/-- The check of a hexadecimal token on an ASCII text. -/
theorem leaks_hex_iff (h : HexToken token) (hlower : LowersAscii lower) (hascii : Ascii text) :
    leaks lower text (some token) = false ↔
      (¬ token <:+: text ∧ ¬ foldedOf token <:+: folded text) ∧ containsSecretShape text = false := by
  simp only [leaks, leaksToken, h.not_unsafe, h.no_forms, h.folded_eq hlower, hlower text hascii, folded,
    Bool.not_false, Bool.true_and, List.any_nil, Bool.or_false, Bool.or_eq_false_iff,
    Bool.and_eq_false_iff, decide_eq_false_iff_not, h.folded_ne_nil, ne_eq, not_true_eq_false,
    not_false_eq_true, false_or]

/-! ### The scan ends -/

/-- What is found lies in the text, at the index or behind it. -/
theorem findAt_spec {form : Text} {index found : Nat} (h : findAt form text index = some found) :
    index ≤ found ∧ form <+: text.drop found := by
  have hfound := List.find?_some h
  simp only [Bool.and_eq_true, decide_eq_true_eq, List.isPrefixOf_iff_prefix] at hfound
  exact hfound

/-- Where nothing is found, nothing stands from the index on. -/
theorem findAt_zero_none {form : Text} (h : ¬ form <:+: text) : findAt form text 0 = none := by
  rw [findAt, List.find?_eq_none]
  intro i _ hmatch
  simp only [Bool.and_eq_true, decide_eq_true_eq, List.isPrefixOf_iff_prefix] at hmatch
  exact h (hmatch.2.isInfix.trans (List.drop_suffix i text).isInfix)

/-- Each step of the scan passes what it found, so the steps suffice. -/
theorem scrubFrom_ends (lowered : Text) {form : Text} (hlength : lowered.length = text.length) (hform : form ≠ [])
    (hascii : Ascii text) (steps index : Nat) (hsteps : text.length - index < steps) :
    ∃ scrubbed, scrubFrom text lowered form steps index = .ok scrubbed ∧ Ascii scrubbed := by
  induction steps generalizing index with
  | zero => exact absurd hsteps (Nat.not_lt_zero _)
  | succ steps ih =>
    unfold scrubFrom
    cases hfind : findAt form lowered index with
    | none => exact ⟨text.drop index, rfl, fun c hc => hascii c (List.mem_of_mem_drop hc)⟩
    | some found =>
      obtain ⟨hindex, hfront⟩ := findAt_spec hfind
      have hpositive : 0 < form.length := List.length_pos_of_ne_nil hform
      -- What was found ends inside the text.
      have hinside : found + form.length ≤ text.length := by
        have hle := hfront.length_le
        rw [List.length_drop, hlength] at hle
        omega
      have hadvance : ¬ found + form.length ≤ index := by omega
      obtain ⟨rest, hrest, hrestAscii⟩ := ih (found + form.length) (by omega)
      refine ⟨(text.take found).drop index ++ marker ++ rest, ?_, ?_⟩
      · simp only [if_neg hadvance, hrest]
        rfl
      · refine ascii_append (ascii_append ?_ (List.all_iff_forall_prop.1 (by decide))) hrestAscii
        intro c hc
        exact hascii c (List.mem_of_mem_take (List.mem_of_mem_drop hc))

/-- A replacement writes characters of the text and of the marker. -/
theorem ascii_replaceAll {find : Text → Option Nat} (hascii : Ascii text) :
    Ascii (replaceAll find marker text) := by
  have hfrom : ∀ skip, Ascii (replaceFrom find marker skip text) := by
    induction text with
    | nil =>
      intro skip c hc
      rw [replaceFrom] at hc
      cases hc
    | cons first rest ih =>
      have hrest := ih (fun c hc => hascii c (List.mem_cons_of_mem _ hc))
      intro skip
      cases skip with
      | succ n =>
        rw [replaceFrom_skip]
        exact hrest n
      | zero =>
        by_cases hhit : Hits find (first :: rest)
        · obtain ⟨n, hn⟩ := hhit
          rw [replaceFrom_hit hn]
          exact ascii_append (List.all_iff_forall_prop.1 (by decide)) (hrest n)
        · rw [replaceFrom_keep hhit]
          exact ascii_cons (hascii first List.mem_cons_self) (hrest 0)
  exact hfrom 0

/-- The redaction of a hexadecimal token ends on ASCII texts, and leaves an ASCII text. -/
theorem redactText_hex (h : HexToken token) (hlower : LowersAscii lower) (hascii : Ascii text) :
    ∃ cleaned, redactText lower text (some token) = .ok cleaned ∧ Ascii cleaned := by
  have hcleaned : Ascii (replaceAll (word token) marker (redactSecretShapes text)) :=
    ascii_replaceAll (ascii_replaceAll hascii)
  obtain ⟨scrubbed, hscrub, hresult⟩ := scrubFrom_ends
    ((replaceAll (word token) marker (redactSecretShapes text)).map Char.toLower)
    (List.length_map _) h.folded_ne_nil hcleaned
    ((replaceAll (word token) marker (redactSecretShapes text)).length + 1) 0 (Nat.lt_succ_self _)
  refine ⟨scrubbed, ?_, hresult⟩
  simp only [redactText, scrubToken, h.not_unsafe, Bool.false_eq_true, if_false, scrubHex,
    h.folded_eq hlower, if_neg h.folded_ne_nil, hlower _ hcleaned, hscrub, h.no_forms]
  rfl

/-! ### The last document -/

/-- An ASCII text without the token is not changed. -/
theorem redactText_hex_of_clean (h : HexToken token) (hlower : LowersAscii lower) (hascii : Ascii text)
    (hclean : leaks lower text (some token) = false) :
    redactText lower text (some token) = .ok text := by
  obtain ⟨⟨htoken, hfolded⟩, hshape⟩ := (leaks_hex_iff h hlower hascii).mp hclean
  have hshapes : redactSecretShapes text = text := by
    apply replaceAll_eq_self
    intro s hs hhit
    obtain ⟨form, hform, hfront⟩ := hits_shape_iff.mp hhit
    have hin := containsSecretShape_iff.mpr ⟨form, hform, hfront.isInfix.trans hs.isInfix⟩
    rw [hshape] at hin
    cases hin
  have hne : token ≠ [] := List.ne_nil_of_length_pos (Nat.lt_of_le_of_lt (Nat.zero_le 8) h.long_token)
  -- Without dashes the lowered text holds what it holds with them.
  have hlowered : ¬ foldedOf token <:+: text.map Char.toLower := by
    intro hin
    have hfilter := hin.filter (fun c => decide (c ≠ '-'))
    have hsame : (foldedOf token).filter (fun c => decide (c ≠ '-')) = foldedOf token := by
      apply List.filter_eq_self.mpr
      intro c hc
      have hdash : ∀ c ∈ "0123456789abcdef".toList, decide (c ≠ '-') = true :=
        List.all_eq_true.1 (by decide)
      exact hdash c (h.folded_digits c hc)
    rw [hsame] at hfilter
    exact hfolded hfilter
  simp only [redactText, scrubToken, h.not_unsafe, Bool.false_eq_true, if_false, scrubHex,
    h.folded_eq hlower, if_neg h.folded_ne_nil, h.no_forms, hshapes, replaceAll_word_eq_self hne htoken,
    hlower text hascii, scrubFrom, findAt_zero_none hlowered]
  rfl

/-- Without dashes and lowered, a token that stands in a text stands there as what the scan looks for. -/
theorem folded_of_token (h : token <:+: text) : foldedOf token <:+: folded text := by
  have hsame : foldedOf token = folded token := by
    have hdash : ∀ c : Char, decide (c.toLower ≠ '-') = decide (c ≠ '-') := by
      intro c
      by_cases hc : c.toNat < 128
      · have hall := ascii_cases (p := fun c => decide (c.toLower ≠ '-') == decide (c ≠ '-')) (by decide) hc
        exact eq_of_beq hall
      · rw [toLower_of_not_ascii hc]
    unfold foldedOf folded removeDashes
    rw [List.filter_map]
    congr 1
    apply List.filter_congr
    intro c _
    exact (hdash c).symm
  rw [hsame]
  exact (h.map Char.toLower).filter _

/-- A run of 32 characters that are all hexadecimal. -/
def hasRun (text : Text) : Bool :=
  text.tails.any (fun s => decide (32 ≤ s.length) && (s.take 32).all (fun c => decide (c ∈ "0123456789abcdef".toList)))

theorem hasRun_of_folded (h : HexToken token) (hin : foldedOf token <:+: text) : hasRun text = true := by
  obtain ⟨before, after, rfl⟩ := hin
  apply List.any_eq_true.mpr
  refine ⟨foldedOf token ++ after, (List.mem_tails _ _).mpr ⟨before, (List.append_assoc _ _ _).symm⟩, ?_⟩
  have hlong := h.folded_long
  rw [Bool.and_eq_true, decide_eq_true_eq, List.length_append, List.take_append_of_le_length hlong]
  refine ⟨Nat.le_trans hlong (Nat.le_add_right _ _), ?_⟩
  rw [List.all_eq_true]
  intro c hc
  exact decide_eq_true (h.folded_digits c (List.mem_of_mem_take hc))

/-- The last document holds no hexadecimal token. -/
theorem error_clean (h : HexToken token) (hlower : LowersAscii lower) :
    leaks lower (dump errorDocument) (some token) = false := by
  have hrun : hasRun (folded (dump errorDocument)) = false := by decide +kernel
  have hfolded : ¬ foldedOf token <:+: folded (dump errorDocument) := by
    intro hin
    rw [hasRun_of_folded h hin] at hrun
    cases hrun
  apply (leaks_hex_iff h hlower (ascii_dump errorDocument)).mpr
  exact ⟨⟨fun hin => hfolded (folded_of_token hin), hfolded⟩, by decide +kernel⟩

/-! ### The line break at the end -/

end Hex

/-- What does not hold a line break stands in a text with one behind it only where it stands in the text. -/
theorem not_infix_line {form text : Text} (hne : form ≠ []) (hline : '\n' ∉ form) (h : ¬ form <:+: text) :
    ¬ form <:+: text ++ ['\n'] := by
  intro hin
  rcases infix_of_append_cons hline hin with hbefore | hafter
  · exact h hbefore
  · exact hne (List.infix_nil.mp hafter)

section Line

variable {lower : Text → Text} {text : Text}

theorem containsSecretShape_line (h : containsSecretShape text = false) :
    containsSecretShape (text ++ ['\n']) = false := by
  rw [Bool.eq_false_iff, ne_eq, containsSecretShape_iff] at h ⊢
  rintro ⟨form, hform, hin⟩
  apply h
  by_contra hnone
  have habsent : ¬ form <:+: text := fun hform' => hnone ⟨form, hform, hform'⟩
  exact not_infix_line hform.foreign.ne_nil hform.foreign.line habsent hin

/-- The line break adds no secret of a shaped token, or of none. -/
theorem leaks_line_shaped {token : Option Text} (htoken : ShapedOrNone token)
    (h : leaks lower text token = false) : leaks lower (text ++ ['\n']) token = false := by
  rw [leaks_eq_false_iff htoken] at h ⊢
  intro form hsecret
  exact not_infix_line hsecret.foreign.ne_nil hsecret.foreign.line (h form hsecret)

/-- Nor one of a hexadecimal token. -/
theorem leaks_line_hex {token : Text} (h : HexToken token) (hlower : LowersAscii lower)
    (hascii : Ascii text) (hclean : leaks lower text (some token) = false) :
    leaks lower (text ++ ['\n']) (some token) = false := by
  have hascii' : Ascii (text ++ ['\n']) := ascii_append hascii (List.all_iff_forall_prop.1 (by decide))
  obtain ⟨⟨htoken, hfolded⟩, hshape⟩ := (leaks_hex_iff h hlower hascii).mp hclean
  have hne : token ≠ [] := List.ne_nil_of_length_pos (Nat.lt_of_le_of_lt (Nat.zero_le 8) h.long_token)
  have hline : '\n' ∉ token := by
    intro hmem
    rcases h.digits _ hmem with hdigit | hdash
    · exact (hexDigit_spec hdigit).2.2.1 rfl
    · exact absurd hdash (by decide)
  have hline' : '\n' ∉ foldedOf token := by
    intro hmem
    exact absurd (h.folded_digits _ hmem) (by decide)
  have hsplit : folded (text ++ ['\n']) = folded text ++ ['\n'] := by
    simp only [folded, removeDashes, List.map_append, List.filter_append]
    rfl
  apply (leaks_hex_iff h hlower hascii').mpr
  refine ⟨⟨not_infix_line hne hline htoken, ?_⟩, containsSecretShape_line hshape⟩
  rw [hsplit]
  exact not_infix_line h.folded_ne_nil hline' hfolded

end Line

/-! ## The rendering -/

section Rendering

variable {lower : Text → Text} (payload : List (Json.Text × Json.Value))

/-- For a shaped token, or none, the first redaction is enough. -/
theorem render_shaped {token : Option Text} (htoken : ShapedOrNone token) :
    ∃ text result, renderEvidence lower payload token = .ok (text, result) ∧
      leaks lower text token = false := by
  unfold renderEvidence
  cases hpassed : leaks lower (dump (withResult (Json.ofPairs payload) "PASS")) token with
  | false =>
    refine ⟨_, "PASS", ?_, leaks_line_shaped htoken hpassed⟩
    simp only [hpassed, Bool.false_eq_true, if_false]
  | true =>
    obtain ⟨cleaned, hcleaned, hclean, -, -⟩ := @redactText_clean lower token htoken
      (dump (withResult (withResult (Json.ofPairs payload) "PASS") "FAIL"))
    refine ⟨cleaned ++ ['\n'], "FAIL", ?_, leaks_line_shaped htoken hclean⟩
    simp only [hpassed, if_true, renderFailed, hcleaned, bind, Except.bind, hclean, Bool.false_eq_true,
      if_false]

/-- For a hexadecimal token the second check decides between the redaction and the last document. -/
theorem render_hex (hlower : LowersAscii lower) {token : Text} (h : HexToken token) :
    ∃ text result, renderEvidence lower payload (some token) = .ok (text, result) ∧
      leaks lower text (some token) = false := by
  unfold renderEvidence
  cases hpassed : leaks lower (dump (withResult (Json.ofPairs payload) "PASS")) (some token) with
  | false =>
    refine ⟨_, "PASS", ?_, leaks_line_hex h hlower (ascii_dump _) hpassed⟩
    simp only [hpassed, Bool.false_eq_true, if_false]
  | true =>
    obtain ⟨cleaned, hcleaned, hascii⟩ := redactText_hex h hlower
      (ascii_dump (withResult (withResult (Json.ofPairs payload) "PASS") "FAIL"))
    cases hfailed : leaks lower cleaned (some token) with
    | false =>
      refine ⟨cleaned ++ ['\n'], "FAIL", ?_, leaks_line_hex h hlower hascii hfailed⟩
      simp only [hpassed, if_true, renderFailed, hcleaned, bind, Except.bind, hfailed,
        Bool.false_eq_true, if_false]
    | true =>
      have herror := error_clean h hlower
      have hkept := redactText_hex_of_clean h hlower (ascii_dump errorDocument) herror
      refine ⟨dump errorDocument ++ ['\n'], "FAIL", ?_,
        leaks_line_hex h hlower (ascii_dump errorDocument) herror⟩
      simp only [hpassed, if_true, renderFailed, hcleaned, bind, Except.bind, hfailed, hkept]

end Rendering

/-- The redaction of any text for a shaped token or none leaves no secret, changes the text only where the
check fails, and a second time changes nothing; and what is rendered as evidence holds no secret of a token
that is shaped, absent, or hexadecimal. -/
theorem evidence_clean (lower : Text → Text) (hlower : LowersAscii lower) :
    (∀ text token, ShapedOrNone token →
      ∃ cleaned, redactText lower text token = .ok cleaned ∧ leaks lower cleaned token = false ∧
        (cleaned = text ↔ leaks lower text token = false) ∧
          redactText lower cleaned token = .ok cleaned) ∧
      ∀ payload token, (ShapedOrNone token ∨ ∃ t, token = some t ∧ HexToken t) →
        ∃ text result, renderEvidence lower payload token = .ok (text, result) ∧
          leaks lower text token = false := by
  constructor
  · intro text token htoken
    exact redactText_clean htoken text
  · rintro payload token (htoken | ⟨t, rfl, ht⟩)
    · exact render_shaped payload htoken
    · exact render_hex payload hlower ht

/-- A page id as a token, in a payload that holds it without its dashes. -/
theorem evidence_clean_page :
    ∃ text result, renderEvidence (fun text => text.map Char.toLower)
        [(Json.lit "page", .str (Json.lit "3ED82FB0AF9480DC8272F40B16376B81"))]
        (some (lit "3ed82fb0-af94-80dc-8272-f40b16376b81")) = .ok (text, result) ∧
      leaks (fun text => text.map Char.toLower) text (some (lit "3ed82fb0-af94-80dc-8272-f40b16376b81")) =
        false :=
  (evidence_clean (fun text => text.map Char.toLower) (fun _ _ => rfl)).2 _ _
    (Or.inr ⟨_, rfl, ⟨List.all_iff_forall_prop.1 (by decide), by decide⟩⟩)

end Evidence
end Cli
end MoneyMachine
