import MoneyMachine.Library.Ascii
import MoneyMachine.Library.Url
import Mathlib.Data.List.SplitBy

/-!
# Percent — percent-encoding and query strings

`quote` writes a text as unreserved ASCII characters and `%XX`, `unquote` reads it back, and `parseQsl`
reads the parameters of a query that was joined from quoted parts.

The decoder of UTF-8 replaces what is not UTF-8; where and how often is a parameter, `Utf8`.

* `unquote_quote`     : a quoted text is read back;
* `parseQsl_joinQuery` : the parameters of a joined query are read back.
-/

namespace MoneyMachine
namespace Library
namespace Percent

open MoneyMachine.Library.Url (Text before after behind before_append behind_marked)

/-- `text.encode()`. -/
def encode (text : Text) : List UInt8 :=
  text.flatMap String.utf8EncodeChar

/-- `bytes.decode("utf-8", "replace")`. -/
structure Utf8 where
  decode : List UInt8 → Text
  decode_encode : ∀ text : Text, decode (encode text) = text

/-- The decoder that replaces bytes that are not UTF-8 by one character. -/
def Utf8.replacing : Utf8 where
  decode bytes :=
    match bytes.toByteArray.utf8Decode? with
    | some text => text.toList
    | none => [Char.ofNat 0xFFFD]
  decode_encode := by
    intro text
    have hdecode := @List.utf8Decode?_utf8Encode text
    unfold List.utf8Encode at hdecode
    rw [encode, hdecode]

/-- The byte of an ASCII character. -/
def asciiByte (c : Char) : UInt8 :=
  UInt8.ofNat c.toNat

/-! ## Bytes -/

/-- `_ALWAYS_SAFE`. -/
def isUnreserved (c : Char) : Bool :=
  decide (c.toNat < 128) && (c.isAlphanum || decide (c ∈ ['_', '.', '-', '~']))

def hexDigit (n : Nat) : Char :=
  if n < 10 then Char.ofNat (48 + n) else Char.ofNat (55 + n)

/-- One byte of `quote_from_bytes`. -/
def quoteByte (b : UInt8) : Text :=
  if isUnreserved (Char.ofNat b.toNat) then [Char.ofNat b.toNat]
  else ['%', hexDigit (b.toNat / 16), hexDigit (b.toNat % 16)]

/-- The value of a hexadecimal digit in any letter case. -/
def hexValue (c : Char) : Option Nat :=
  if c.isDigit then some (c.toNat - 48)
  else if 'A' ≤ c ∧ c ≤ 'F' then some (c.toNat - 55)
  else if 'a' ≤ c ∧ c ≤ 'f' then some (c.toNat - 87)
  else none

/-- `unquote_to_bytes` of an ASCII text. -/
def unquoteToBytes : Text → List UInt8
  | '%' :: a :: b :: rest =>
    match hexValue a, hexValue b with
    | some high, some low => UInt8.ofNat (16 * high + low) :: unquoteToBytes rest
    | _, _ => asciiByte '%' :: unquoteToBytes (a :: b :: rest)
  | c :: rest => asciiByte c :: unquoteToBytes rest
  | [] => []

/-- `quote(text, safe="")`. -/
def quote (text : Text) : Text :=
  (encode text).flatMap quoteByte

section Decoding

variable (utf8 : Utf8)

/-- One run of `_generate_unquoted_parts`: characters that are all ASCII or all not. -/
def unquoteRun (run : Text) : Text :=
  if run.all (fun c => decide (c.toNat < 128)) then utf8.decode (unquoteToBytes run) else run

/-- `unquote`. -/
def unquote (text : Text) : Text :=
  if '%' ∈ text then
    (text.splitBy (fun c d => decide (c.toNat < 128) == decide (d.toNat < 128))).flatMap
      (unquoteRun utf8)
  else
    text

/-- `text.replace("+", " ")`. -/
def plusToSpace (text : Text) : Text :=
  text.map (fun c => if c = '+' then ' ' else c)

/-- `parse_qsl(query, keep_blank_values=True)`. -/
def parseQsl (query : Text) : List (Text × Text) :=
  ((query.splitOn '&').filter (fun piece => decide (piece ≠ []))).map (fun piece =>
    (unquote utf8 (plusToSpace (before '=' piece)), unquote utf8 (plusToSpace (behind '=' piece))))

end Decoding

/-- `"&".join(f"{quote(key)}={quote(value)}")`. -/
def joinQuery (params : List (Text × Text)) : Text :=
  ['&'].intercalate (params.map (fun param => quote param.1 ++ '=' :: quote param.2))

/-! ## Quoted characters -/

/-- A character that `quote` writes. -/
def Quoted (c : Char) : Prop :=
  isUnreserved c = true ∨ c = '%'

theorem Quoted.visible {c : Char} (h : Quoted c) : Visible c := by
  rcases h with h | rfl
  · have hascii : c.toNat < 128 := by
      simp only [isUnreserved, Bool.and_eq_true, decide_eq_true_eq] at h
      exact h.1
    have hall : (!isUnreserved c || decide (Visible c)) = true :=
      ascii_cases (p := fun c => !isUnreserved c || decide (Visible c)) (by decide) hascii
    rw [h] at hall
    simpa using hall
  · decide

/-- No separator of a URL or of a query is written. -/
theorem Quoted.not_separator {c : Char} (h : Quoted c) : c ∉ "/?#@[]:&=+".toList := by
  rcases h with h | rfl
  · intro hmem
    have hnone : ∀ d ∈ "/?#@[]:&=+".toList, isUnreserved d = false := List.all_iff_forall_prop.1 (by decide)
    rw [hnone c hmem] at h
    cases h
  · decide

theorem quoted_quoteByte (b : UInt8) : ∀ c ∈ quoteByte b, Quoted c := by
  have hhex : ∀ n < 16, isUnreserved (hexDigit n) = true := by decide
  have hbyte : b.toNat < 256 := b.toNat_lt_size
  intro c hc
  unfold quoteByte at hc
  split_ifs at hc with hsafe
  · rw [List.mem_singleton.mp hc]
    exact Or.inl hsafe
  · simp only [List.mem_cons, List.not_mem_nil, or_false] at hc
    rcases hc with rfl | rfl | rfl
    · exact Or.inr rfl
    · exact Or.inl (hhex _ (by omega))
    · exact Or.inl (hhex _ (by omega))

theorem quoted_quote (text : Text) : ∀ c ∈ quote text, Quoted c := by
  intro c hc
  obtain ⟨b, -, hb⟩ := List.mem_flatMap.mp hc
  exact quoted_quoteByte b c hb

theorem not_mem_quote {c : Char} (h : c ∈ "/?#@[]:&=+".toList) (text : Text) : c ∉ quote text := by
  intro hmem
  exact (quoted_quote text c hmem).not_separator h

/-! ## Reading back -/

theorem unquoteToBytes_cons {c : Char} (h : c ≠ '%') (rest : Text) :
    unquoteToBytes (c :: rest) = asciiByte c :: unquoteToBytes rest := by
  rw [unquoteToBytes]
  intro a b more heq
  exact absurd heq h

/-- A byte that was quoted is read back. -/
theorem unquoteToBytes_quoteByte (b : UInt8) (rest : Text) :
    unquoteToBytes (quoteByte b ++ rest) = b :: unquoteToBytes rest := by
  have hbyte : b.toNat < 256 := b.toNat_lt_size
  unfold quoteByte
  split_ifs with hsafe
  · have hpercent : Char.ofNat b.toNat ≠ '%' := by
      intro heq
      rw [heq] at hsafe
      exact absurd hsafe (by decide)
    have hvalid : b.toNat.isValidChar := Or.inl (by omega)
    have hnat : (Char.ofNat b.toNat).toNat = b.toNat := by
      rw [Char.ofNat, dif_pos hvalid]
      rfl
    have hself : asciiByte (Char.ofNat b.toNat) = b := by
      rw [asciiByte, hnat, UInt8.ofNat_toNat]
    rw [List.singleton_append, unquoteToBytes_cons hpercent, hself]
  · have hhex : ∀ n < 16, hexValue (hexDigit n) = some n := by decide
    have hdigits : 16 * (b.toNat / 16) + b.toNat % 16 = b.toNat := by omega
    simp only [List.cons_append, List.nil_append, unquoteToBytes,
      hhex (b.toNat / 16) (by omega), hhex (b.toNat % 16) (by omega), hdigits, UInt8.ofNat_toNat]

theorem unquoteToBytes_quoteBytes (bytes : List UInt8) :
    unquoteToBytes (bytes.flatMap quoteByte) = bytes := by
  induction bytes with
  | nil => rfl
  | cons b rest ih => rw [List.flatMap_cons, unquoteToBytes_quoteByte, ih]

/-- The bytes of a text without a percent sign are those of its characters. -/
theorem unquoteToBytes_plain {text : Text} (h : '%' ∉ text) :
    unquoteToBytes text = text.map asciiByte := by
  induction text with
  | nil => rfl
  | cons c rest ih =>
    have hc : c ≠ '%' := by
      rintro rfl
      exact h List.mem_cons_self
    have hrest : '%' ∉ rest := by
      intro hmem
      exact h (List.mem_cons_of_mem c hmem)
    rw [unquoteToBytes_cons hc, List.map_cons, ih hrest]

theorem encode_ascii {text : Text} (h : ∀ c ∈ text, c.toNat < 128) :
    encode text = text.map asciiByte := by
  induction text with
  | nil => rfl
  | cons c rest ih =>
    have hc : c.val.toNat ≤ 0x7f := Nat.le_of_lt_succ (h c (by simp))
    have hchar : String.utf8EncodeChar c = [asciiByte c] := by
      simp only [String.utf8EncodeChar, if_pos hc]
      rfl
    rw [encode, List.flatMap_cons, hchar, List.map_cons, List.singleton_append, ← ih (by
      intro d hd
      exact h d (List.mem_cons_of_mem c hd))]
    rfl

section Reading

variable {utf8 : Utf8}

/-- An ASCII text is one run. -/
theorem unquote_ascii {text : Text} (h : ∀ c ∈ text, c.toNat < 128) :
    unquote utf8 text = utf8.decode (unquoteToBytes text) := by
  unfold unquote
  split_ifs with hpercent
  · have hne : text ≠ [] := by
      rintro rfl
      exact absurd hpercent List.not_mem_nil
    have hchain : text.IsChain (fun c d => (decide (c.toNat < 128) == decide (d.toNat < 128)) = true) := by
      apply List.Pairwise.isChain
      apply List.pairwise_of_forall_mem_list
      intro c hc d hd
      simp [h c hc, h d hd]
    have hrun : text.all (fun c => decide (c.toNat < 128)) = true := by
      rw [List.all_eq_true]
      intro c hc
      exact decide_eq_true (h c hc)
    rw [List.splitBy_of_isChain hne hchain, List.flatMap_cons, List.flatMap_nil, List.append_nil,
      unquoteRun, if_pos hrun]
  · rw [unquoteToBytes_plain hpercent, ← encode_ascii h, utf8.decode_encode]

/-- A quoted text is read back. -/
theorem unquote_quote (text : Text) : unquote utf8 (quote text) = text := by
  rw [unquote_ascii (fun c hc => (quoted_quote text c hc).visible.ascii), quote,
    unquoteToBytes_quoteBytes, utf8.decode_encode]

theorem quote_eq_nil {text : Text} : quote text = [] ↔ text = [] := by
  constructor
  · intro h
    cases text with
    | nil => rfl
    | cons c rest =>
      -- A character has a byte, and a byte is written with at least one character.
      have hbytes : encode (c :: rest) = [] := by
        rw [List.eq_nil_iff_forall_not_mem]
        intro b hb
        have hempty : quoteByte b = [] := List.flatMap_eq_nil_iff.mp h b hb
        unfold quoteByte at hempty
        split_ifs at hempty
      rw [encode, List.flatMap_cons, List.append_eq_nil_iff] at hbytes
      exact absurd hbytes.1 String.utf8EncodeChar_ne_nil
  · rintro rfl
    rfl

theorem plusToSpace_quote (text : Text) : plusToSpace (quote text) = quote text := by
  have hself : (quote text).map (fun c => if c = '+' then ' ' else c) = (quote text).map id := by
    apply List.map_congr_left
    intro c hc
    rw [if_neg]
    · rfl
    · rintro rfl
      exact not_mem_quote (by decide) text hc
  rw [plusToSpace, hself, List.map_id]

/-- The parameters of a joined query are read back. -/
theorem parseQsl_joinQuery (params : List (Text × Text)) :
    parseQsl utf8 (joinQuery params) = params := by
  have hpiece : ∀ param : Text × Text,
      (unquote utf8 (plusToSpace (before '=' (quote param.1 ++ '=' :: quote param.2))),
        unquote utf8 (plusToSpace (behind '=' (quote param.1 ++ '=' :: quote param.2)))) = param := by
    intro param
    have heq : '=' ∉ quote param.1 := not_mem_quote (by decide) param.1
    rw [before_append heq, behind_marked heq (Or.inr rfl), plusToSpace_quote, plusToSpace_quote,
      unquote_quote, unquote_quote]
  cases params with
  | nil => rfl
  | cons first rest =>
    have hsplit : (joinQuery (first :: rest)).splitOn '&' =
        (first :: rest).map (fun param => quote param.1 ++ '=' :: quote param.2) := by
      apply List.splitOn_intercalate
      · intro piece hpieceMem
        obtain ⟨param, -, rfl⟩ := List.mem_map.mp hpieceMem
        intro hamp
        rcases List.mem_append.mp hamp with hin | hin
        · exact not_mem_quote (by decide) param.1 hin
        · rcases List.mem_cons.mp hin with heq | hin
          · exact absurd heq (by decide)
          · exact not_mem_quote (by decide) param.2 hin
      · simp
    have hfilter : ((first :: rest).map (fun param => quote param.1 ++ '=' :: quote param.2)).filter
        (fun piece => decide (piece ≠ [])) =
          (first :: rest).map (fun param => quote param.1 ++ '=' :: quote param.2) := by
      rw [List.filter_eq_self]
      intro piece hpieceMem
      obtain ⟨param, -, rfl⟩ := List.mem_map.mp hpieceMem
      simp
    rw [parseQsl, hsplit, hfilter, List.map_map]
    calc
      (first :: rest).map _ = (first :: rest).map id := by
        apply List.map_congr_left
        intro param _
        exact hpiece param
      _ = first :: rest := List.map_id _

end Reading

end Percent
end Library
end MoneyMachine
