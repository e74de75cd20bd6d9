import Mathlib.Data.Bool.AllAny
import Mathlib.Data.List.Basic
import Mathlib.Data.List.Lex
import Mathlib.Data.List.TakeDrop
import Mathlib.Data.List.TakeWhile
import Mathlib.Order.Fin.Basic

/-!
# Json — `json.dumps` and `json.loads`

A text of Python is a list of code points, surrogates included; what `dumps` writes and `loads` reads is
a list of characters, since a decoded file holds no surrogates.  `dumps` escapes everything outside
printable ASCII, and a code point beyond the basic plane as two surrogates; `loads` joins any two
escaped surrogates, so it reads back every text except those where a high surrogate stands directly
before a low one.

Objects keep their members sorted by name, so that two dictionaries are equal exactly when their values
are.  A float is kept as `repr` writes it.

* `loads_dumps` : what was written is read back;
* `loads_cut`   : no proper cut of an object's text is read.
-/

namespace MoneyMachine
namespace Library
namespace Json

/-! ## Texts -/

/-- A code point of Python; surrogates are code points. -/
abbrev CodePoint := Fin 0x110000

-- With the zero of core, which the numerals of `Fin` use.
instance neZeroCodePoints : @NeZero Nat Zero.ofOfNat0 0x110000 :=
  inferInstance

abbrev Text := List CodePoint

instance lawfulText : LawfulBEq Text :=
  inferInstance

def CodePoint.ofChar (c : Char) : CodePoint :=
  ⟨c.toNat, by
    have h : c.toNat.isValidChar := c.valid
    rcases h with h | ⟨_, h⟩
    · exact Nat.lt_trans h (by decide)
    · exact h⟩

/-- A text of a program. -/
def lit (s : String) : Text :=
  s.toList.map CodePoint.ofChar

/-- `str.isspace` of one code point. -/
def isSpace (p : CodePoint) : Bool :=
  let n := p.val
  decide ((9 ≤ n ∧ n ≤ 13) ∨ (0x1C ≤ n ∧ n ≤ 0x20) ∨ n = 0x85 ∨ n = 0xA0 ∨ n = 0x1680 ∨
    (0x2000 ≤ n ∧ n ≤ 0x200A) ∨ n = 0x2028 ∨ n = 0x2029 ∨ n = 0x202F ∨ n = 0x205F ∨ n = 0x3000)

def isHigh (u : CodePoint) : Bool :=
  decide (0xD800 ≤ u.val ∧ u.val < 0xDC00)

def isLow (u : CodePoint) : Bool :=
  decide (0xDC00 ≤ u.val ∧ u.val < 0xE000)

/-- No high surrogate stands directly before a low one. -/
def Unpaired : Text → Prop
  | [] => True
  | [_] => True
  | a :: b :: rest => ¬ (isHigh a = true ∧ isLow b = true) ∧ Unpaired (b :: rest)

instance : DecidablePred Unpaired := by
  intro t
  induction t with
  | nil => exact isTrue trivial
  | cons a rest ih =>
    cases rest with
    | nil => exact isTrue trivial
    | cons b rest => exact @instDecidableAnd _ _ _ ih

/-! ## Escapes -/

/-- The code units of a code point. -/
def units (p : CodePoint) : List CodePoint :=
  if p.val < 0x10000 then
    [p]
  else
    [⟨0xD800 + (p.val - 0x10000) / 0x400, by omega⟩, ⟨0xDC00 + (p.val - 0x10000) % 0x400, by omega⟩]

/-- Two surrogates as one code point. -/
def join (high low : CodePoint) : CodePoint :=
  ⟨0x10000 + (high.val - 0xD800) % 0x400 * 0x400 + (low.val - 0xDC00) % 0x400, by omega⟩

/-- Code units as the scanner joins them. -/
def joinUnits : List CodePoint → Text
  | [] => []
  | [u] => [u]
  | u :: u' :: rest =>
    if isHigh u = true ∧ isLow u' = true then
      join u u' :: joinUnits rest
    else
      u :: joinUnits (u' :: rest)

theorem joinUnits_single {u : CodePoint} {rest : List CodePoint}
    (h : ∀ u', rest.head? = some u' → ¬ (isHigh u = true ∧ isLow u' = true)) :
    joinUnits (u :: rest) = u :: joinUnits rest := by
  cases rest with
  | nil => rfl
  | cons u' rest => rw [joinUnits, if_neg (h u' rfl)]

theorem units_head (p : CodePoint) :
    ∃ u rest, units p = u :: rest ∧ (isLow u = true → isLow p = true) := by
  unfold units
  split
  · exact ⟨p, [], rfl, id⟩
  · refine ⟨_, _, rfl, ?_⟩
    intro hlow
    simp only [isLow, decide_eq_true_eq] at hlow
    omega

/-- A code point beyond the basic plane comes back from its surrogates. -/
theorem joinUnits_pair {p : CodePoint} (h : ¬ p.val < 0x10000) (rest : List CodePoint) :
    joinUnits (units p ++ rest) = p :: joinUnits rest := by
  have hp := p.isLt
  have hhigh : isHigh ⟨0xD800 + (p.val - 0x10000) / 0x400, by omega⟩ = true := by
    simp only [isHigh, decide_eq_true_eq]
    omega
  have hlow : isLow ⟨0xDC00 + (p.val - 0x10000) % 0x400, by omega⟩ = true := by
    simp only [isLow, decide_eq_true_eq]
    omega
  have hjoin : join ⟨0xD800 + (p.val - 0x10000) / 0x400, by omega⟩
      ⟨0xDC00 + (p.val - 0x10000) % 0x400, by omega⟩ = p := by
    apply Fin.ext
    simp only [join]
    omega
  rw [units, if_neg h, List.cons_append, List.cons_append, List.nil_append, joinUnits,
    if_pos ⟨hhigh, hlow⟩, hjoin]

theorem Unpaired.tail {a : CodePoint} {t : Text} (h : Unpaired (a :: t)) : Unpaired t := by
  cases t with
  | nil => trivial
  | cons b rest => exact h.2

theorem Unpaired.head {a b : CodePoint} {t : Text} (h : Unpaired (a :: b :: t)) :
    ¬ (isHigh a = true ∧ isLow b = true) :=
  h.1

theorem isHigh_ofChar (c : Char) : isHigh (CodePoint.ofChar c) = false := by
  have h : c.toNat.isValidChar := c.valid
  unfold isHigh
  rw [decide_eq_false_iff_not]
  show ¬ (0xD800 ≤ c.toNat ∧ c.toNat < 0xDC00)
  rcases h with h | ⟨h, _⟩
  · omega
  · omega

/-- Characters are no surrogates. -/
theorem unpaired_ofChar (text : List Char) : Unpaired (text.map CodePoint.ofChar) := by
  induction text with
  | nil => trivial
  | cons c text ih =>
    cases text with
    | nil => trivial
    | cons d text =>
      refine ⟨?_, ih⟩
      rw [isHigh_ofChar]
      rintro ⟨⟨⟩, _⟩

/-- The units of a text are joined back to it, unless it holds a pair of surrogates itself. -/
theorem joinUnits_units {t : Text} (h : Unpaired t) : joinUnits (t.flatMap units) = t := by
  induction t with
  | nil => rfl
  | cons p t ih =>
    rw [List.flatMap_cons]
    by_cases hp : p.val < 0x10000
    · have hunits : units p = [p] := if_pos hp
      rw [hunits, List.singleton_append, joinUnits_single, ih h.tail]
      intro u' hu'
      cases t with
      | nil => simp at hu'
      | cons b rest =>
        rcases units_head b with ⟨u, us, hb, hlow⟩
        rw [List.flatMap_cons, hb, List.cons_append, List.head?_cons, Option.some.injEq] at hu'
        rintro ⟨hhigh, hlow'⟩
        rw [← hu'] at hlow'
        exact h.head ⟨hhigh, hlow hlow'⟩
    · rw [joinUnits_pair hp, ih h.tail]

def hex4 (n : Nat) : List Char :=
  [Nat.digitChar (n / 4096 % 16), Nat.digitChar (n / 256 % 16), Nat.digitChar (n / 16 % 16),
    Nat.digitChar (n % 16)]

/-- The escapes of one character. -/
def shortEscape (c : Char) : Option CodePoint :=
  if c = '"' then some 0x22
  else if c = '\\' then some 0x5C
  else if c = '/' then some 0x2F
  else if c = 'b' then some 0x08
  else if c = 'f' then some 0x0C
  else if c = 'n' then some 0x0A
  else if c = 'r' then some 0x0D
  else if c = 't' then some 0x09
  else none

/-- `ESCAPE_ASCII` of one code unit. -/
def escapeUnit (u : CodePoint) : List Char :=
  if u.val = 0x22 then ['\\', '"']
  else if u.val = 0x5C then ['\\', '\\']
  else if u.val = 0x0A then ['\\', 'n']
  else if u.val = 0x0D then ['\\', 'r']
  else if u.val = 0x09 then ['\\', 't']
  else if u.val = 0x0C then ['\\', 'f']
  else if u.val = 0x08 then ['\\', 'b']
  else if 0x20 ≤ u.val ∧ u.val ≤ 0x7E then [Char.ofNat u.val]
  else '\\' :: 'u' :: hex4 u.val

def escape (t : Text) : List Char :=
  (t.flatMap units).flatMap escapeUnit

def hexValue (c : Char) : Option Nat :=
  if '0' ≤ c ∧ c ≤ '9' then some (c.toNat - '0'.toNat)
  else if 'a' ≤ c ∧ c ≤ 'f' then some (c.toNat - 'a'.toNat + 10)
  else if 'A' ≤ c ∧ c ≤ 'F' then some (c.toNat - 'A'.toNat + 10)
  else none

/-- The code unit of four hexadecimal digits. -/
def readHex (a b c d : Char) : Option CodePoint :=
  match hexValue a, hexValue b, hexValue c, hexValue d with
  | some a, some b, some c, some d => some (Fin.ofNat _ (a * 4096 + b * 256 + c * 16 + d))
  | _, _, _, _ => none

/-- The code units of a string, behind its opening quote. -/
@[simp]
def scanUnits : List Char → Option (List CodePoint × List Char)
  | [] => none
  | c :: rest =>
    if c = '"' then
      some ([], rest)
    else if c = '\\' then
      match rest with
      | 'u' :: a :: b :: c :: d :: rest =>
        match readHex a b c d with
        | some u => (scanUnits rest).map (fun r => (u :: r.1, r.2))
        | none => none
      | e :: rest =>
        match shortEscape e with
        | some u => (scanUnits rest).map (fun r => (u :: r.1, r.2))
        | none => none
      | [] => none
    else if c.toNat < 0x20 then
      none
    else
      (scanUnits rest).map (fun r => (CodePoint.ofChar c :: r.1, r.2))

/-- `scanstring`. -/
def scanString (text : List Char) : Option (Text × List Char) :=
  (scanUnits text).map (fun r => (joinUnits r.1, r.2))

theorem hexValue_digitChar {d : Nat} (h : d < 16) : hexValue (Nat.digitChar d) = some d := by
  revert d
  decide

theorem readHex_hex4 {u : CodePoint} (h : u.val < 0x10000) :
    readHex (Nat.digitChar (u.val / 4096 % 16)) (Nat.digitChar (u.val / 256 % 16))
      (Nat.digitChar (u.val / 16 % 16)) (Nat.digitChar (u.val % 16)) = some u := by
  have hmod : ∀ n, n % 16 < 16 := fun n => Nat.mod_lt n (by decide)
  simp only [readHex, hexValue_digitChar (hmod _), Option.some.injEq]
  apply Fin.ext
  simp only [Fin.ofNat]
  omega

@[simp] theorem scanUnits_quote (rest : List Char) : scanUnits ('"' :: rest) = some ([], rest) := by
  rw [scanUnits.eq_def]
  simp

theorem scanUnits_plain {c : Char} (hquote : c ≠ '"') (hslash : c ≠ '\\') (rest : List Char) :
    scanUnits (c :: rest) =
      if c.toNat < 0x20 then none
      else (scanUnits rest).map (fun r => (CodePoint.ofChar c :: r.1, r.2)) := by
  rw [scanUnits.eq_def]
  simp [hquote, hslash]

theorem toNat_ofNat_ascii {n : Nat} (h : n < 0x80) : (Char.ofNat n).toNat = n := by
  have hvalid : n.isValidChar := Or.inl (by omega)
  rw [Char.ofNat, dif_pos hvalid]
  rfl

/-- A printable character stands for itself. -/
theorem scanUnits_printable {u : CodePoint} (hlow : 0x20 ≤ u.val) (hhigh : u.val ≤ 0x7E)
    (hquote : u.val ≠ 0x22) (hslash : u.val ≠ 0x5C) (rest : List Char) :
    scanUnits (Char.ofNat u.val :: rest) =
      (scanUnits rest).map (fun r => (u :: r.1, r.2)) := by
  have htoNat : (Char.ofNat u.val).toNat = u.val := toNat_ofNat_ascii (by omega)
  have hne : ∀ c : Char, u.val ≠ c.toNat → Char.ofNat u.val ≠ c := by
    intro c hc heq
    rw [← heq, htoNat] at hc
    exact hc rfl
  have hcode : CodePoint.ofChar (Char.ofNat u.val) = u := Fin.ext htoNat
  rw [scanUnits_plain (hne '"' hquote) (hne '\\' hslash), htoNat, if_neg (by omega), hcode]

theorem scanUnits_short {e : Char} {u : CodePoint} (h : shortEscape e = some u) (rest : List Char) :
    scanUnits ('\\' :: e :: rest) = (scanUnits rest).map (fun r => (u :: r.1, r.2)) := by
  have he : e ≠ 'u' := by
    rintro rfl
    cases h
  rw [scanUnits.eq_def]
  simp only [Char.reduceEq, if_false, if_true]
  split
  · rename_i heq
    exact absurd (List.cons.inj heq).1 he
  · rename_i heq
    cases heq
    rw [h]
  · rename_i heq
    cases heq

theorem scanUnits_hex {a b c d : Char} {u : CodePoint} (h : readHex a b c d = some u)
    (rest : List Char) :
    scanUnits ('\\' :: 'u' :: a :: b :: c :: d :: rest) =
      (scanUnits rest).map (fun r => (u :: r.1, r.2)) := by
  simp [h]

theorem scanUnits_escapeUnit {u : CodePoint} (h : u.val < 0x10000) (rest : List Char) :
    scanUnits (escapeUnit u ++ rest) =
      (scanUnits rest).map (fun r => (u :: r.1, r.2)) := by
  have hval : ∀ n : CodePoint, u.val = n.val → u = n := fun n heq => Fin.ext heq
  unfold escapeUnit
  split_ifs with h1 h2 h3 h4 h5 h6 h7 h8
  · rw [hval 0x22 h1]
    exact scanUnits_short rfl rest
  · rw [hval 0x5C h2]
    exact scanUnits_short rfl rest
  · rw [hval 0x0A h3]
    exact scanUnits_short rfl rest
  · rw [hval 0x0D h4]
    exact scanUnits_short rfl rest
  · rw [hval 0x09 h5]
    exact scanUnits_short rfl rest
  · rw [hval 0x0C h6]
    exact scanUnits_short rfl rest
  · rw [hval 0x08 h7]
    exact scanUnits_short rfl rest
  · exact scanUnits_printable h8.1 h8.2 h1 h2 rest
  · exact scanUnits_hex (readHex_hex4 h) rest

theorem units_lt (p : CodePoint) : ∀ u ∈ units p, u.val < 0x10000 := by
  have hp := p.isLt
  unfold units
  split_ifs with h
  · simpa using h
  · intro u hu
    simp only [List.mem_cons, List.not_mem_nil, or_false] at hu
    rcases hu with rfl | rfl
    · simp only
      omega
    · simp only
      omega

/-- A written string is read back. -/
theorem scanString_escape {t : Text} (h : Unpaired t) (rest : List Char) :
    scanString (escape t ++ '"' :: rest) = some (t, rest) := by
  have hunits : ∀ us : List CodePoint, (∀ u ∈ us, u.val < 0x10000) →
      scanUnits (us.flatMap escapeUnit ++ '"' :: rest) = some (us, rest) := by
    intro us
    induction us with
    | nil =>
      intro _
      simp
    | cons u us ih =>
      intro hus
      have hrest := ih (fun u' hu' => hus u' (List.mem_cons_of_mem _ hu'))
      rw [List.flatMap_cons, List.append_assoc, scanUnits_escapeUnit (hus u (List.mem_cons_self ..)),
        hrest]
      rfl
  have hscan := hunits (t.flatMap units) (by
    intro u hu
    rcases List.mem_flatMap.1 hu with ⟨p, _, hp⟩
    exact units_lt p u hp)
  rw [scanString, escape, hscan, Option.map_some, joinUnits_units h]

/-- More text behind a string changes nothing. -/
theorem scanUnits_append {text rest : List Char} {us : List CodePoint}
    (h : scanUnits text = some (us, rest)) (more : List Char) :
    scanUnits (text ++ more) = some (us, rest ++ more) := by
  fun_induction scanUnits text generalizing us rest with
  | case1 => cases h
  | case2 rest' =>
    cases h
    simp
  | case3 a b c d rest' u hu hslash ih =>
    rcases Option.map_eq_some_iff.1 h with ⟨⟨us', rest''⟩, hscan, heq⟩
    cases heq
    simp only [List.cons_append]
    rw [scanUnits_hex hu, ih hscan]
    rfl
  | case4 => cases h
  | case5 e rest' hu u hshort _ ih =>
    rcases Option.map_eq_some_iff.1 h with ⟨⟨us', rest''⟩, hscan, heq⟩
    cases heq
    simp only [List.cons_append]
    rw [scanUnits_short hshort, ih hscan]
    rfl
  | case6 => cases h
  | case7 => cases h
  | case8 => cases h
  | case9 c rest' hquote hslash hcontrol ih =>
    rcases Option.map_eq_some_iff.1 h with ⟨⟨us', rest''⟩, hscan, heq⟩
    cases heq
    rw [List.cons_append, scanUnits_plain hquote hslash, if_neg hcontrol, ih hscan]
    rfl

theorem scanString_append {text rest : List Char} {t : Text} (h : scanString text = some (t, rest))
    (more : List Char) : scanString (text ++ more) = some (t, rest ++ more) := by
  rcases Option.map_eq_some_iff.1 h with ⟨⟨us, rest'⟩, hscan, heq⟩
  cases heq
  rw [scanString, scanUnits_append hscan]
  rfl

/-! ## Numbers -/

/-- `0`, or digits that do not start with one. -/
def matchWhole : List Char → Option (List Char × List Char)
  | [] => none
  | c :: rest =>
    if c = '0' then
      some (['0'], rest)
    else if c.isDigit then
      some (c :: rest.takeWhile Char.isDigit, rest.dropWhile Char.isDigit)
    else
      none

/-- A point with digits behind it. -/
def matchFraction : List Char → List Char × List Char
  | [] => ([], [])
  | c :: rest =>
    if c = '.' ∧ rest.takeWhile Char.isDigit ≠ [] then
      (c :: rest.takeWhile Char.isDigit, rest.dropWhile Char.isDigit)
    else
      ([], c :: rest)

def matchSign : List Char → List Char × List Char
  | [] => ([], [])
  | c :: rest => if c = '+' ∨ c = '-' then ([c], rest) else ([], c :: rest)

/-- An exponent with digits behind its sign. -/
def matchExponent : List Char → List Char × List Char
  | [] => ([], [])
  | c :: rest =>
    if (c = 'e' ∨ c = 'E') ∧ (matchSign rest).2.takeWhile Char.isDigit ≠ [] then
      (c :: (matchSign rest).1 ++ (matchSign rest).2.takeWhile Char.isDigit,
        (matchSign rest).2.dropWhile Char.isDigit)
    else
      ([], c :: rest)

def matchMinus : List Char → List Char × List Char
  | [] => ([], [])
  | c :: rest => if c = '-' then ([c], rest) else ([], c :: rest)

/-- The longest number at the start of a text, and whether it is a float. -/
def matchNumber (text : List Char) : Option (List Char × Bool × List Char) :=
  match matchWhole (matchMinus text).2 with
  | none => none
  | some (digits, rest) =>
    let fraction := matchFraction rest
    let exponent := matchExponent fraction.2
    some ((matchMinus text).1 ++ digits ++ fraction.1 ++ exponent.1,
      !(fraction.1.isEmpty && exponent.1.isEmpty), exponent.2)

/-- A character that no number goes on with. -/
def isStop (c : Char) : Bool :=
  !(c.isDigit || decide (c ∈ ['.', 'e', 'E', '+', '-']))

/-- A text that starts with no digit, no point and no exponent. -/
def Stops (text : List Char) : Prop :=
  ∀ c, text.head? = some c → isStop c = true

section Numbers

variable {text rest more : List Char}

theorem span_append {p : Char → Bool} (text more : List Char)
    (h : ∀ c, (text.dropWhile p ++ more).head? = some c → p c = false) :
    (text ++ more).takeWhile p = text.takeWhile p ∧
      (text ++ more).dropWhile p = text.dropWhile p ++ more := by
  induction text with
  | nil =>
    cases more with
    | nil => simp
    | cons c more =>
      have hc := h c rfl
      simp [hc]
  | cons c text ih =>
    by_cases hc : p c = true
    · rw [List.dropWhile_cons_of_pos hc] at h
      have hrest := ih h
      simp [hc, hrest.1, hrest.2]
    · simp [hc]

theorem isStop_iff {c : Char} :
    isStop c = true ↔
      c.isDigit = false ∧ c ≠ '.' ∧ c ≠ 'e' ∧ c ≠ 'E' ∧ c ≠ '+' ∧ c ≠ '-' := by
  simp [isStop]

theorem matchSign_append (h : text ≠ []) (more : List Char) :
    matchSign (text ++ more) = ((matchSign text).1, (matchSign text).2 ++ more) := by
  cases text with
  | nil => exact absurd rfl h
  | cons c rest =>
    by_cases hc : c = '+' ∨ c = '-'
    · simp [matchSign, hc]
    · simp [matchSign, hc]

theorem matchExponent_of_stop {c : Char} (h : isStop c = true) (rest : List Char) :
    matchExponent (c :: rest) = ([], c :: rest) := by
  have hstop := isStop_iff.1 h
  simp [matchExponent, hstop.2.2.1, hstop.2.2.2.1]

theorem matchExponent_append (h : Stops ((matchExponent text).2 ++ more)) :
    matchExponent (text ++ more) = ((matchExponent text).1, (matchExponent text).2 ++ more) ∧
      ∀ c, (text ++ more).head? = some c → c.isDigit = false ∧ c ≠ '.' := by
  have hstop : ∀ c rest, Stops (c :: rest) →
      matchExponent (c :: rest) = ([], c :: rest) ∧ c.isDigit = false ∧ c ≠ '.' := by
    intro c rest hstops
    have hc := hstops c rfl
    exact ⟨matchExponent_of_stop hc rest, (isStop_iff.1 hc).1, (isStop_iff.1 hc).2.1⟩
  cases text with
  | nil =>
    cases more with
    | nil => simp [matchExponent]
    | cons c more =>
      have hc := hstop c more h
      exact ⟨hc.1, fun c' hc' => by cases hc'; exact hc.2⟩
  | cons c rest =>
    by_cases hcond : (c = 'e' ∨ c = 'E') ∧ (matchSign rest).2.takeWhile Char.isDigit ≠ []
    · have hrun : matchExponent (c :: rest) =
          (c :: (matchSign rest).1 ++ (matchSign rest).2.takeWhile Char.isDigit,
            (matchSign rest).2.dropWhile Char.isDigit) := if_pos hcond
      rw [hrun] at h ⊢
      have hne : rest ≠ [] := by
        rintro rfl
        exact hcond.2 rfl
      have hspan := span_append (matchSign rest).2 more (fun c' hc' => (isStop_iff.1 (h c' hc')).1)
      constructor
      · simp only [List.cons_append, matchExponent, matchSign_append hne, hspan.1, hspan.2]
        rw [if_pos hcond]
      · intro c' hc'
        cases hc'
        rcases hcond.1 with rfl | rfl
        · decide
        · decide
    · have hrun : matchExponent (c :: rest) = ([], c :: rest) := if_neg hcond
      rw [hrun] at h ⊢
      have hc := hstop c (rest ++ more) h
      exact ⟨hc.1, fun c' hc' => by cases hc'; exact hc.2⟩

theorem matchFraction_append
    (h : ∀ c, ((matchFraction text).2 ++ more).head? = some c → c.isDigit = false ∧ c ≠ '.') :
    matchFraction (text ++ more) = ((matchFraction text).1, (matchFraction text).2 ++ more) ∧
      ∀ c, (text ++ more).head? = some c → c.isDigit = false := by
  have hstop : ∀ c rest, (∀ c', (c :: rest).head? = some c' → c'.isDigit = false ∧ c' ≠ '.') →
      matchFraction (c :: rest) = ([], c :: rest) ∧ c.isDigit = false := by
    intro c rest hstops
    have hc := hstops c rfl
    simp [matchFraction, hc.1, hc.2]
  cases text with
  | nil =>
    cases more with
    | nil => simp [matchFraction]
    | cons c more =>
      have hc := hstop c more h
      exact ⟨hc.1, fun c' hc' => by cases hc'; exact hc.2⟩
  | cons c rest =>
    by_cases hcond : c = '.' ∧ rest.takeWhile Char.isDigit ≠ []
    · have hrun : matchFraction (c :: rest) =
          (c :: rest.takeWhile Char.isDigit, rest.dropWhile Char.isDigit) := if_pos hcond
      rw [hrun] at h ⊢
      have hspan := span_append rest more (fun c' hc' => (h c' hc').1)
      constructor
      · simp only [List.cons_append, matchFraction, hspan.1, hspan.2]
        rw [if_pos hcond]
      · intro c' hc'
        cases hc'
        rw [hcond.1]
        decide
    · have hrun : matchFraction (c :: rest) = ([], c :: rest) := if_neg hcond
      rw [hrun] at h ⊢
      have hc := hstop c (rest ++ more) h
      exact ⟨hc.1, fun c' hc' => by cases hc'; exact hc.2⟩

theorem matchWhole_append {digits : List Char} (h : matchWhole text = some (digits, rest))
    (hmore : ∀ c, (rest ++ more).head? = some c → c.isDigit = false) :
    matchWhole (text ++ more) = some (digits, rest ++ more) := by
  cases text with
  | nil => cases h
  | cons c text =>
    rw [matchWhole] at h
    split_ifs at h with hzero hdigit
    · cases h
      simp [matchWhole, hzero]
    · cases h
      have hspan := span_append text more hmore
      simp [matchWhole, hzero, hdigit, hspan.1, hspan.2]

/-- A number is matched with the same end where no text goes on with it. -/
theorem matchNumber_append {number : List Char} {float : Bool}
    (h : matchNumber text = some (number, float, rest)) (hstops : Stops (rest ++ more)) :
    matchNumber (text ++ more) = some (number, float, rest ++ more) := by
  unfold matchNumber at h
  cases hwhole : matchWhole (matchMinus text).2 with
  | none => simp [hwhole] at h
  | some whole =>
    rcases whole with ⟨digits, rest'⟩
    simp only [hwhole, Option.some.injEq, Prod.mk.injEq] at h
    rcases h with ⟨rfl, rfl, rfl⟩
    have hexponent := matchExponent_append hstops
    have hfraction := matchFraction_append hexponent.2
    have hdigits := matchWhole_append hwhole hfraction.2
    have hminus : matchMinus (text ++ more) =
        ((matchMinus text).1, (matchMinus text).2 ++ more) := by
      cases text with
      | nil => cases hwhole
      | cons c text =>
        by_cases hc : c = '-'
        · simp [matchMinus, hc]
        · simp [matchMinus, hc]
    simp only [matchNumber, hminus, hdigits, hfraction.1, hexponent.1]

/-- The decimal text of a number starts with a digit, and with no zero unless it is the number zero. -/
theorem toDigits_cons (n : Nat) :
    ∃ c cs, Nat.toDigits 10 n = c :: cs ∧ c.isDigit = true ∧ (c = '0' → n = 0 ∧ cs = []) := by
  induction n using Nat.strongRecOn with
  | ind n ih =>
    by_cases hn : n < 10
    · refine ⟨Nat.digitChar n, [], Nat.toDigits_of_lt_base hn, ?_, ?_⟩
      · clear ih
        revert n
        decide
      · intro hzero
        refine ⟨?_, rfl⟩
        clear ih
        revert n
        decide
    · rcases ih (n / 10) (by omega) with ⟨c, cs, heq, hdigit, hzero⟩
      refine ⟨c, cs ++ [Nat.digitChar (n % 10)], ?_, hdigit, ?_⟩
      · rw [Nat.toDigits_of_base_le (by decide) (by omega), heq]
        rfl
      · intro hc
        have := (hzero hc).1
        omega

theorem matchWhole_toDigits (n : Nat) :
    matchWhole (Nat.toDigits 10 n) = some (Nat.toDigits 10 n, []) := by
  rcases toDigits_cons n with ⟨c, cs, heq, hdigit, hzero⟩
  have hall : ∀ c' ∈ cs, c'.isDigit = true := by
    intro c' hc'
    refine Nat.isDigit_of_mem_toDigits (b := 10) (n := n) (by decide) (by decide) ?_
    rw [heq]
    exact List.mem_cons_of_mem _ hc'
  rw [heq, matchWhole]
  by_cases hc : c = '0'
  · rw [if_pos hc, hc, (hzero hc).2]
  · rw [if_neg hc, if_pos hdigit, List.takeWhile_eq_self_iff.2 hall, List.dropWhile_eq_nil_iff.2 hall]

end Numbers

/-- `int.__repr__`. -/
def intText (n : Int) : List Char :=
  if n < 0 then '-' :: Nat.toDigits 10 n.natAbs else Nat.toDigits 10 n.natAbs

/-- `int(text)` of digits with a sign. -/
def readInt (text : List Char) : Int :=
  if (matchMinus text).1 = [] then
    Nat.ofDigitChars 10 (matchMinus text).2 0
  else
    -Nat.ofDigitChars 10 (matchMinus text).2 0

theorem matchMinus_toDigits (n : Nat) :
    matchMinus (Nat.toDigits 10 n) = ([], Nat.toDigits 10 n) := by
  rcases toDigits_cons n with ⟨c, cs, heq, hdigit, _⟩
  have hc : c ≠ '-' := by
    rintro rfl
    cases hdigit
  simp [heq, matchMinus, hc]

theorem matchNumber_intText (n : Int) : matchNumber (intText n) = some (intText n, false, []) := by
  unfold intText
  split_ifs with h
  · simp [matchNumber, matchMinus, matchWhole_toDigits, matchFraction, matchExponent]
  · simp [matchNumber, matchMinus_toDigits, matchWhole_toDigits, matchFraction, matchExponent]

theorem readInt_intText (n : Int) : readInt (intText n) = n := by
  unfold intText
  split_ifs with h
  · simp only [readInt, matchMinus, if_true, Nat.ofDigitChars_ten_toDigits, List.cons_ne_nil, if_false]
    omega
  · simp only [readInt, matchMinus_toDigits, if_true, Nat.ofDigitChars_ten_toDigits]
    omega

/-- A float, as `repr` writes it. -/
inductive FloatText
  | finite (text : List Char) (h : matchNumber text = some (text, true, []))
  | infinity (negative : Bool)
  | nan

def FloatText.text : FloatText → List Char
  | .finite text _ => text
  | .infinity false => ['I', 'n', 'f', 'i', 'n', 'i', 't', 'y']
  | .infinity true => ['-', 'I', 'n', 'f', 'i', 'n', 'i', 't', 'y']
  | .nan => ['N', 'a', 'N']

/-! ## Values -/

/-- A value of `json`.  A dictionary is the list of its members. -/
inductive Value
  | null
  | bool (b : Bool)
  | int (n : Int)
  | float (x : FloatText)
  | str (t : Text)
  | arr (items : List Value)
  | obj (members : List (Text × Value))

/-- `members[name] = value`, in the order of the names. -/
def insertMember (name : Text) (value : Value) : List (Text × Value) → List (Text × Value)
  | [] => [(name, value)]
  | member :: rest =>
    if name < member.1 then
      (name, value) :: member :: rest
    else if name = member.1 then
      (name, value) :: rest
    else
      member :: insertMember name value rest

/-- `dict(pairs)`: a later pair of the same name wins. -/
def ofPairs (pairs : List (Text × Value)) : List (Text × Value) :=
  pairs.foldl (fun members pair => insertMember pair.1 pair.2 members) []

/-- The names are in order, each of them once. -/
def SortedNames : List (Text × Value) → Prop
  | [] => True
  | member :: rest => (∀ other ∈ rest, member.1 < other.1) ∧ SortedNames rest

mutual

/-- A value whose dictionaries are in order. -/
def Value.Sorted : Value → Prop
  | .arr items => SortedItems items
  | .obj members => SortedNames members ∧ SortedMembers members
  | _ => True

def SortedItems : List Value → Prop
  | [] => True
  | value :: rest => value.Sorted ∧ SortedItems rest

def SortedMembers : List (Text × Value) → Prop
  | [] => True
  | (_, value) :: rest => value.Sorted ∧ SortedMembers rest

end

mutual

/-- No text in the value holds a high surrogate directly before a low one. -/
def Value.Unpaired : Value → Prop
  | .str t => Json.Unpaired t
  | .arr items => UnpairedItems items
  | .obj members => UnpairedMembers members
  | _ => True

def UnpairedItems : List Value → Prop
  | [] => True
  | value :: rest => value.Unpaired ∧ UnpairedItems rest

def UnpairedMembers : List (Text × Value) → Prop
  | [] => True
  | (name, value) :: rest => Json.Unpaired name ∧ value.Unpaired ∧ UnpairedMembers rest

end

/-! ## Writing -/

/-- The separators of `dumps`. -/
inductive Separators
  /-- The default, `", "` and `": "`. -/
  | spaced
  /-- `separators=(",", ":")`. -/
  | compact

def Separators.gap : Separators → List Char
  | .spaced => [' ']
  | .compact => []

def quote (t : Text) : List Char :=
  '"' :: escape t ++ ['"']

section Dumps

variable (sep : Separators)

mutual

/-- `json.dumps(value, sort_keys=True, ensure_ascii=True)`. -/
def dumps : Value → List Char
  | .null => ['n', 'u', 'l', 'l']
  | .bool true => ['t', 'r', 'u', 'e']
  | .bool false => ['f', 'a', 'l', 's', 'e']
  | .int n => intText n
  | .float x => x.text
  | .str t => quote t
  | .arr [] => ['[', ']']
  | .arr (value :: rest) => '[' :: dumps value ++ dumpsItems rest
  | .obj [] => ['{', '}']
  | .obj ((name, value) :: rest) =>
    '{' :: quote name ++ ':' :: sep.gap ++ dumps value ++ dumpsMembers rest

/-- The items behind the first, and the bracket. -/
def dumpsItems : List Value → List Char
  | [] => [']']
  | value :: rest => ',' :: sep.gap ++ dumps value ++ dumpsItems rest

/-- The members behind the first, and the brace. -/
def dumpsMembers : List (Text × Value) → List Char
  | [] => ['}']
  | (name, value) :: rest =>
    ',' :: sep.gap ++ quote name ++ ':' :: sep.gap ++ dumps value ++ dumpsMembers rest

end

end Dumps

/-! ## Reading -/

def isWhitespace (c : Char) : Bool :=
  decide (c ∈ [' ', '\t', '\n', '\r'])

def skip (text : List Char) : List Char :=
  text.dropWhile isWhitespace

/-- A word that stands for a value. -/
def scanWord (word : List Char) (value : Value) (text : List Char) : Option (Value × List Char) :=
  if word.isPrefixOf text then some (value, text.drop word.length) else none

def scanNumber (text : List Char) : Option (Value × List Char) :=
  match matchNumber text with
  | none => none
  | some (number, false, rest) => some (.int (readInt number), rest)
  | some (number, true, rest) =>
    if hfloat : matchNumber number = some (number, true, []) then
      some (.float (.finite number hfloat), rest)
    else
      none

/-- What the first character says about a value. -/
inductive Start
  | string
  | object
  | array
  | word (word : List Char) (value : Value)
  | number

def startOf (c : Char) : Start :=
  if c = '"' then .string
  else if c = '{' then .object
  else if c = '[' then .array
  else if c = 'n' then .word ['n', 'u', 'l', 'l'] .null
  else if c = 't' then .word ['t', 'r', 'u', 'e'] (.bool true)
  else if c = 'f' then .word ['f', 'a', 'l', 's', 'e'] (.bool false)
  else if c = 'N' then .word FloatText.nan.text (.float .nan)
  else if c = 'I' then .word (FloatText.infinity false).text (.float (.infinity false))
  else .number

/-- A number, or minus infinity. -/
def scanMinus (text : List Char) : Option (Value × List Char) :=
  match scanWord (FloatText.infinity true).text (.float (.infinity true)) text with
  | some r => some r
  | none => scanNumber text

mutual

/-- `scan_once`.  Every call below reads a character first, so fuel as long as the text is enough. -/
def scanOnce : Nat → List Char → Option (Value × List Char)
  | 0, _ => none
  | _ + 1, [] => none
  | fuel + 1, c :: rest =>
    match startOf c with
    | .string => (scanString rest).map (fun r => (.str r.1, r.2))
    | .object =>
      match skip rest with
      | '}' :: rest => some (.obj [], rest)
      | rest => (scanMembers fuel rest).map (fun r => (.obj (ofPairs r.1), r.2))
    | .array =>
      match skip rest with
      | ']' :: rest => some (.arr [], rest)
      | rest => (scanItems fuel rest).map (fun r => (.arr r.1, r.2))
    | .word word value => scanWord word value (c :: rest)
    | .number => scanMinus (c :: rest)

/-- The members of an object and its closing brace. -/
def scanMembers : Nat → List Char → Option (List (Text × Value) × List Char)
  | 0, _ => none
  | fuel + 1, text =>
    match text with
    | '"' :: rest =>
      match scanString rest with
      | none => none
      | some (name, rest) =>
        match skip rest with
        | ':' :: rest =>
          match scanOnce fuel (skip rest) with
          | none => none
          | some (value, rest) =>
            match skip rest with
            | '}' :: rest => some ([(name, value)], rest)
            | ',' :: rest =>
              (scanMembers fuel (skip rest)).map
                (fun r => ((name, value) :: r.1, r.2))
            | _ => none
        | _ => none
    | _ => none

/-- The items of an array and its closing bracket. -/
def scanItems : Nat → List Char → Option (List Value × List Char)
  | 0, _ => none
  | fuel + 1, text =>
    match scanOnce fuel text with
    | none => none
    | some (value, rest) =>
      match skip rest with
      | ']' :: rest => some ([value], rest)
      | ',' :: rest => (scanItems fuel (skip rest)).map (fun r => (value :: r.1, r.2))
      | _ => none

end

/-- `json.loads`. -/
def loads (text : List Char) : Option Value :=
  match scanOnce (text.length + 1) (skip text) with
  | none => none
  | some (value, rest) => if skip rest = [] then some value else none

/-! ## What was written is read back -/

theorem skip_cons {c : Char} (h : isWhitespace c = false) (rest : List Char) :
    skip (c :: rest) = c :: rest := by
  simp [skip, h]

theorem skip_gap (sep : Separators) (text : List Char) : skip (sep.gap ++ text) = skip text := by
  cases sep with
  | spaced => rfl
  | compact => rfl

theorem matchNumber_cons {text : List Char} {r : List Char × Bool × List Char}
    (h : matchNumber text = some r) :
    ∃ c rest, text = c :: rest ∧ (c.isDigit = true ∨ c = '-' ∧
      ∃ d rest', rest = d :: rest' ∧ d.isDigit = true) := by
  have hdigit : ∀ {text} {r : List Char × List Char}, matchWhole text = some r →
      ∃ d rest, text = d :: rest ∧ d.isDigit = true := by
    intro text r hwhole
    cases text with
    | nil => cases hwhole
    | cons c rest =>
      refine ⟨c, rest, rfl, ?_⟩
      rw [matchWhole] at hwhole
      split_ifs at hwhole with hzero hdigit
      · rw [hzero]
        rfl
      · exact hdigit
  unfold matchNumber at h
  cases hwhole : matchWhole (matchMinus text).2 with
  | none => simp [hwhole] at h
  | some whole =>
    rcases hdigit hwhole with ⟨d, rest, heq, hd⟩
    cases text with
    | nil => cases heq
    | cons c rest' =>
      by_cases hc : c = '-'
      · rw [matchMinus, if_pos hc] at heq
        exact ⟨c, rest', rfl, Or.inr ⟨hc, d, rest, heq, hd⟩⟩
      · rw [matchMinus, if_neg hc] at heq
        cases heq
        exact ⟨d, rest, rfl, Or.inl hd⟩

/-- The first characters of numbers. -/
theorem start_of_number {c : Char} (h : c.isDigit = true ∨ c = '-') :
    startOf c = .number ∧ isWhitespace c = false ∧ c ≠ ']' := by
  have hne : ∀ c' : Char, c'.isDigit = false → c' ≠ '-' → c ≠ c' := by
    rintro c' hdigit hminus rfl
    rcases h with h | h
    · rw [hdigit] at h
      cases h
    · exact hminus h
  refine ⟨?_, ?_, hne ']' rfl (by decide)⟩
  · simp [startOf, hne '"' rfl (by decide), hne '{' rfl (by decide), hne '[' rfl (by decide),
      hne 'n' rfl (by decide), hne 't' rfl (by decide), hne 'f' rfl (by decide),
      hne 'N' rfl (by decide), hne 'I' rfl (by decide)]
  · simp [isWhitespace, hne ' ' rfl (by decide), hne '\t' rfl (by decide),
      hne '\n' rfl (by decide), hne '\r' rfl (by decide)]

theorem scanMinus_of_number {text : List Char} {r : List Char × Bool × List Char}
    (h : matchNumber text = some r) : scanMinus text = scanNumber text := by
  have hword : scanWord (FloatText.infinity true).text (.float (.infinity true)) text = none := by
    rcases matchNumber_cons h with ⟨c, rest, rfl, hc | ⟨rfl, d, rest', rfl, hd⟩⟩
    · have hne : '-' ≠ c := by
        rintro rfl
        cases hc
      simp [scanWord, FloatText.text, hne]
    · have hne : 'I' ≠ d := by
        rintro rfl
        cases hd
      simp [scanWord, FloatText.text, hne]
  rw [scanMinus, hword]

theorem scanOnce_number {text rest : List Char} {r : List Char × Bool × List Char} (fuel : Nat)
    (h : matchNumber (text ++ rest) = some r) :
    scanOnce (fuel + 1) (text ++ rest) = scanNumber (text ++ rest) := by
  rcases matchNumber_cons h with ⟨c, rest', heq, hc⟩
  have hstart := (start_of_number (hc.imp id And.left)).1
  rw [← scanMinus_of_number h, heq, scanOnce, hstart]

/-- Every value starts with a character that is no white space and closes no array. -/
theorem dumps_cons (sep : Separators) (v : Value) :
    ∃ c rest, dumps sep v = c :: rest ∧ isWhitespace c = false ∧ c ≠ ']' := by
  have hnumber : ∀ {text : List Char} {r : List Char × Bool × List Char},
      matchNumber text = some r → ∃ c rest, text = c :: rest ∧ isWhitespace c = false ∧ c ≠ ']' := by
    intro text r h
    rcases matchNumber_cons h with ⟨c, rest, heq, hc⟩
    exact ⟨c, rest, heq, (start_of_number (hc.imp id And.left)).2⟩
  cases v with
  | null => exact ⟨_, _, rfl, by decide⟩
  | bool b => cases b <;> exact ⟨_, _, rfl, by decide⟩
  | int n => exact hnumber (matchNumber_intText n)
  | float x =>
    cases x with
    | finite text h => exact hnumber h
    | infinity negative => cases negative <;> exact ⟨_, _, rfl, by decide⟩
    | nan => exact ⟨_, _, rfl, by decide⟩
  | str t => exact ⟨_, _, rfl, by decide⟩
  | arr items => cases items <;> exact ⟨_, _, rfl, by decide⟩
  | obj members => cases members <;> exact ⟨_, _, rfl, by decide⟩

theorem dumpsItems_cons (sep : Separators) (items : List Value) :
    ∃ c rest, dumpsItems sep items = c :: rest ∧ isStop c = true := by
  cases items with
  | nil => exact ⟨_, _, rfl, by decide⟩
  | cons value rest => exact ⟨_, _, rfl, by decide⟩

theorem dumpsMembers_cons (sep : Separators) (members : List (Text × Value)) :
    ∃ c rest, dumpsMembers sep members = c :: rest ∧ isStop c = true := by
  cases members with
  | nil => exact ⟨_, _, rfl, by decide⟩
  | cons member rest => exact ⟨_, _, rfl, by decide⟩

/-- A name larger than all others goes to the end. -/
theorem insertMember_last {name : Text} {value : Value} {members : List (Text × Value)}
    (h : ∀ member ∈ members, member.1 < name) :
    insertMember name value members = members ++ [(name, value)] := by
  induction members with
  | nil => rfl
  | cons member rest ih =>
    have hlt := h member (List.mem_cons_self ..)
    have hrest := ih (fun other hother => h other (List.mem_cons_of_mem _ hother))
    rw [insertMember, if_neg (lt_asymm hlt), if_neg (ne_of_gt hlt), hrest]
    rfl

theorem mem_insertMember {name : Text} {value : Value} {members : List (Text × Value)}
    {member : Text × Value} (h : member ∈ insertMember name value members) :
    member = (name, value) ∨ member ∈ members := by
  induction members with
  | nil => exact Or.inl (List.mem_singleton.1 h)
  | cons first rest ih =>
    rw [insertMember] at h
    split_ifs at h with hlt heq
    · exact (List.mem_cons.1 h)
    · exact (List.mem_cons.1 h).imp id (List.mem_cons_of_mem _)
    · rcases List.mem_cons.1 h with rfl | h
      · exact Or.inr (List.mem_cons_self ..)
      · exact (ih h).imp id (List.mem_cons_of_mem _)

theorem sortedNames_insertMember (name : Text) (value : Value) {members : List (Text × Value)}
    (h : SortedNames members) : SortedNames (insertMember name value members) := by
  induction members with
  | nil => exact ⟨fun _ hother => absurd hother List.not_mem_nil, trivial⟩
  | cons first rest ih =>
    rw [insertMember]
    split_ifs with hlt heq
    · refine ⟨?_, h⟩
      intro other hother
      rcases List.mem_cons.1 hother with rfl | hother
      · exact hlt
      · exact lt_trans hlt (h.1 other hother)
    · refine ⟨?_, h.2⟩
      intro other hother
      rw [heq]
      exact h.1 other hother
    · refine ⟨?_, ih h.2⟩
      intro other hother
      rcases mem_insertMember hother with rfl | hother
      · exact lt_of_le_of_ne (not_lt.1 hlt) (Ne.symm heq)
      · exact h.1 other hother

/-- A dictionary is in order, whatever it was made from. -/
theorem sortedNames_ofPairs (pairs : List (Text × Value)) : SortedNames (ofPairs pairs) := by
  have hfold : ∀ (pairs members : List (Text × Value)), SortedNames members →
      SortedNames (pairs.foldl (fun members pair => insertMember pair.1 pair.2 members) members) := by
    intro pairs
    induction pairs with
    | nil => exact fun _ h => h
    | cons pair pairs ih =>
      intro members h
      exact ih _ (sortedNames_insertMember pair.1 pair.2 h)
  exact hfold pairs [] trivial

/-- A member is found under its name. -/
theorem lookup_of_mem {members : List (Text × Value)} (h : SortedNames members) {name : Text}
    {value : Value} (hmem : (name, value) ∈ members) : members.lookup name = some value := by
  induction members with
  | nil => cases hmem
  | cons first rest ih =>
    rcases List.mem_cons.1 hmem with rfl | hmem
    · simp
    · have hne : name ≠ first.1 := ne_of_gt (h.1 (name, value) hmem)
      rw [List.lookup_cons, beq_false_of_ne hne]
      exact ih h.2 hmem

/-- Members that are in order stay as they are. -/
theorem ofPairs_sorted {members : List (Text × Value)} (h : SortedNames members) :
    ofPairs members = members := by
  have hfold : ∀ (rest before : List (Text × Value)), SortedNames rest →
      (∀ member ∈ before, ∀ other ∈ rest, member.1 < other.1) →
      rest.foldl (fun members pair => insertMember pair.1 pair.2 members) before =
        before ++ rest := by
    intro rest
    induction rest with
    | nil => simp
    | cons member rest ih =>
      intro before hsorted hbefore
      have hlast : insertMember member.1 member.2 before = before ++ [member] :=
        insertMember_last (fun other hother => hbefore other hother member (List.mem_cons_self ..))
      rw [List.foldl_cons, hlast, ih (before ++ [member]) hsorted.2]
      · simp
      · intro other hother later hlater
        rcases List.mem_append.1 hother with hother | hother
        · exact hbefore other hother later (List.mem_cons_of_mem _ hlater)
        · rw [List.mem_singleton.1 hother]
          exact hsorted.1 later hlater
  exact hfold members [] h (by simp)

section RoundTrip

variable {sep : Separators}

theorem stops_cons {c : Char} (h : isStop c = true) (rest : List Char) : Stops (c :: rest) := by
  rintro c' hc'
  cases hc'
  exact h

theorem scanOnce_int (n : Int) (fuel : Nat) {rest : List Char} (h : Stops rest) :
    scanOnce (fuel + 1) (intText n ++ rest) = some (.int n, rest) := by
  have hnumber : matchNumber (intText n ++ rest) = some (intText n, false, rest) :=
    matchNumber_append (matchNumber_intText n) h
  rw [scanOnce_number fuel hnumber]
  simp [scanNumber, hnumber, readInt_intText]

theorem scanOnce_float (x : FloatText) (fuel : Nat) {rest : List Char} (h : Stops rest) :
    scanOnce (fuel + 1) (x.text ++ rest) = some (.float x, rest) := by
  cases x with
  | finite text hfloat =>
    have hnumber : matchNumber (text ++ rest) = some (text, true, rest) :=
      matchNumber_append hfloat h
    rw [FloatText.text, scanOnce_number fuel hnumber]
    simp [scanNumber, hnumber, hfloat]
  | infinity negative =>
    cases negative with
    | false => simp [scanOnce, FloatText.text, startOf, scanWord]
    | true => simp [scanOnce, FloatText.text, startOf, scanMinus, scanWord]
  | nan => simp [scanOnce, FloatText.text, startOf, scanWord]

theorem scanString_quote {t : Text} (h : Unpaired t) (rest : List Char) :
    ∃ text, quote t ++ rest = '"' :: text ∧ scanString text = some (t, rest) := by
  refine ⟨escape t ++ '"' :: rest, ?_, scanString_escape h rest⟩
  simp [quote]

theorem scanOnce_array {c : Char} (hspace : isWhitespace c = false) (hc : c ≠ ']') (fuel : Nat)
    (rest : List Char) :
    scanOnce (fuel + 1) ('[' :: c :: rest) =
      (scanItems fuel (c :: rest)).map (fun r => (.arr r.1, r.2)) := by
  have hstart : startOf '[' = .array := rfl
  rw [scanOnce, hstart]
  simp only [skip_cons hspace]
  split
  · rename_i heq
    exact absurd (List.cons.inj heq).1 hc
  · rfl

theorem scanOnce_object (fuel : Nat) (rest : List Char) :
    scanOnce (fuel + 1) ('{' :: '"' :: rest) =
      (scanMembers fuel ('"' :: rest)).map (fun r => (.obj (ofPairs r.1), r.2)) := by
  simp [scanOnce, startOf, skip_cons (show isWhitespace '"' = false from by decide)]

/-- The text of a value, wherever it stands. -/
def Reads (sep : Separators) (value : Value) : Prop :=
  ∀ fuel rest, Stops rest → (dumps sep value).length ≤ fuel →
    scanOnce fuel (dumps sep value ++ rest) = some (value, rest)

theorem skip_gap_dumps (value : Value) (rest : List Char) :
    skip (sep.gap ++ (dumps sep value ++ rest)) = dumps sep value ++ rest := by
  rcases dumps_cons sep value with ⟨c, text, heq, hspace, _⟩
  rw [skip_gap, heq, List.cons_append, skip_cons hspace]

theorem stops_dumpsItems (items : List Value) (rest : List Char) :
    Stops (dumpsItems sep items ++ rest) := by
  rcases dumpsItems_cons sep items with ⟨c, text, heq, hstop⟩
  rw [heq]
  exact stops_cons hstop _

theorem stops_dumpsMembers (members : List (Text × Value)) (rest : List Char) :
    Stops (dumpsMembers sep members ++ rest) := by
  rcases dumpsMembers_cons sep members with ⟨c, text, heq, hstop⟩
  rw [heq]
  exact stops_cons hstop _

/-- The last item of an array. -/
theorem scanItems_last {value : Value} (h : Reads sep value) {fuel : Nat} (rest : List Char)
    (hfuel : (dumps sep value).length ≤ fuel) :
    scanItems (fuel + 1) (dumps sep value ++ (dumpsItems sep [] ++ rest)) =
      some ([value], rest) := by
  have hread := h fuel (dumpsItems sep [] ++ rest) (stops_dumpsItems [] rest) hfuel
  rw [scanItems, hread]
  simp [dumpsItems, skip_cons (show isWhitespace ']' = false from by decide)]

/-- An item with another behind it. -/
theorem scanItems_next {value next : Value} (h : Reads sep value) {fuel : Nat}
    (items : List Value) (rest : List Char) (hfuel : (dumps sep value).length ≤ fuel) :
    scanItems (fuel + 1) (dumps sep value ++ (dumpsItems sep (next :: items) ++ rest)) =
      (scanItems fuel (dumps sep next ++ (dumpsItems sep items ++ rest))).map
        (fun r => (value :: r.1, r.2)) := by
  have hread := h fuel (dumpsItems sep (next :: items) ++ rest)
    (stops_dumpsItems (next :: items) rest) hfuel
  rw [scanItems, hread]
  simp [dumpsItems, skip_cons (show isWhitespace ',' = false from by decide), skip_gap_dumps]

/-- The first member of an object, up to what follows its value. -/
theorem scanMembers_value {name : Text} {value : Value} (hname : Unpaired name)
    (h : Reads sep value) {fuel : Nat} {rest : List Char} (hrest : Stops rest)
    (hfuel : (dumps sep value).length ≤ fuel) :
    scanMembers (fuel + 1) (quote name ++ (':' :: sep.gap ++ (dumps sep value ++ rest))) =
      match skip rest with
      | '}' :: rest => some ([(name, value)], rest)
      | ',' :: rest => (scanMembers fuel (skip rest)).map (fun r => ((name, value) :: r.1, r.2))
      | _ => none := by
  rcases scanString_quote hname (':' :: sep.gap ++ (dumps sep value ++ rest)) with
    ⟨text, hquote, hscan⟩
  have hread := h fuel rest hrest hfuel
  rw [hquote, scanMembers]
  simp only [hscan, List.cons_append, skip_cons (show isWhitespace ':' = false from by decide),
    skip_gap_dumps, hread]

theorem skip_quote (name : Text) (rest : List Char) :
    skip (sep.gap ++ (quote name ++ rest)) = quote name ++ rest := by
  rw [skip_gap]
  rfl

mutual

theorem dumps_reads : ∀ value : Value, value.Sorted → value.Unpaired → Reads sep value
  | .null, _, _ => by
      rintro (_ | fuel) rest _ hfuel
      · cases hfuel
      · simp [dumps, scanOnce, startOf, scanWord]
  | .bool b, _, _ => by
      rintro (_ | fuel) rest _ hfuel
      · cases b <;> cases hfuel
      · cases b <;> simp [dumps, scanOnce, startOf, scanWord]
  | .int n, _, _ => by
      rintro (_ | fuel) rest hrest hfuel
      · rcases dumps_cons sep (.int n) with ⟨c, text, heq, _⟩
        rw [heq] at hfuel
        cases hfuel
      · exact scanOnce_int n fuel hrest
  | .float x, _, _ => by
      rintro (_ | fuel) rest hrest hfuel
      · rcases dumps_cons sep (.float x) with ⟨c, text, heq, _⟩
        rw [heq] at hfuel
        cases hfuel
      · exact scanOnce_float x fuel hrest
  | .str t, _, hunpaired => by
      rintro (_ | fuel) rest _ hfuel
      · cases hfuel
      · rcases scanString_quote hunpaired rest with ⟨text, hquote, hscan⟩
        rw [dumps, hquote]
        simp [scanOnce, startOf, hscan]
  | .arr [], _, _ => by
      rintro (_ | fuel) rest _ hfuel
      · cases hfuel
      · simp [dumps, scanOnce, startOf, skip_cons (show isWhitespace ']' = false from by decide)]
  | .arr (value :: items), hsorted, hunpaired => by
      have hvalue := dumps_reads value hsorted.1 hunpaired.1
      rintro (_ | fuel) rest _ hfuel
      · cases hfuel
      · have hitems := dumpsItems_reads items hsorted.2 hunpaired.2 value fuel rest hvalue
          (by simp only [dumps, List.length_append, List.length_cons] at hfuel; omega)
        rcases dumps_cons sep value with ⟨c, text, heq, hspace, hc⟩
        rw [heq, List.cons_append] at hitems
        rw [dumps, heq, List.append_assoc, List.cons_append, List.cons_append,
          scanOnce_array hspace hc, hitems]
        rfl
  | .obj [], _, _ => by
      rintro (_ | fuel) rest _ hfuel
      · cases hfuel
      · simp [dumps, scanOnce, startOf, skip_cons (show isWhitespace '}' = false from by decide)]
  | .obj ((name, value) :: members), hsorted, hunpaired => by
      have hvalue := dumps_reads value hsorted.2.1 hunpaired.2.1
      rintro (_ | fuel) rest _ hfuel
      · cases hfuel
      · have hmembers := dumpsMembers_reads members hsorted.2.2 hunpaired.2.2 name value fuel rest
          hunpaired.1 hvalue
          (by simp only [dumps, List.length_append, List.length_cons] at hfuel; omega)
        have htext : dumps sep (.obj ((name, value) :: members)) ++ rest =
            '{' :: (quote name ++ (':' :: sep.gap ++
              (dumps sep value ++ (dumpsMembers sep members ++ rest)))) := by
          simp [dumps]
        rcases scanString_quote hunpaired.1 (':' :: sep.gap ++
          (dumps sep value ++ (dumpsMembers sep members ++ rest))) with ⟨text, hquote, _⟩
        rw [hquote] at hmembers
        rw [htext, hquote, scanOnce_object, hmembers]
        simp [ofPairs_sorted hsorted.1]

theorem dumpsItems_reads : ∀ items : List Value, SortedItems items → UnpairedItems items →
    ∀ value fuel rest, Reads sep value →
      (dumps sep value).length + (dumpsItems sep items).length ≤ fuel →
      scanItems fuel (dumps sep value ++ (dumpsItems sep items ++ rest)) = some (value :: items, rest)
  | [], _, _, value, fuel, rest, hvalue, hfuel => by
      cases fuel with
      | zero => simp [dumpsItems] at hfuel
      | succ fuel =>
        exact scanItems_last hvalue rest (by simp [dumpsItems] at hfuel; omega)
  | next :: items, hsorted, hunpaired, value, fuel, rest, hvalue, hfuel => by
      have hnext := dumps_reads next hsorted.1 hunpaired.1
      simp only [dumpsItems, List.length_append, List.length_cons] at hfuel
      cases fuel with
      | zero => omega
      | succ fuel =>
        rw [scanItems_next hvalue items rest (by omega),
          dumpsItems_reads items hsorted.2 hunpaired.2 next fuel rest hnext (by omega)]
        rfl

theorem dumpsMembers_reads : ∀ members : List (Text × Value), SortedMembers members →
    UnpairedMembers members → ∀ name value fuel rest, Unpaired name → Reads sep value →
      (quote name).length + (dumps sep value).length + (dumpsMembers sep members).length ≤ fuel →
      scanMembers fuel (quote name ++ (':' :: sep.gap ++
        (dumps sep value ++ (dumpsMembers sep members ++ rest)))) =
        some ((name, value) :: members, rest)
  | [], _, _, name, value, fuel, rest, hname, hvalue, hfuel => by
      cases fuel with
      | zero => simp [dumpsMembers] at hfuel
      | succ fuel =>
        rw [scanMembers_value hname hvalue (stops_dumpsMembers [] rest)
          (by simp [dumpsMembers] at hfuel; omega)]
        simp [dumpsMembers, skip_cons (show isWhitespace '}' = false from by decide)]
  | (next, nextValue) :: members, hsorted, hunpaired, name, value, fuel, rest, hname, hvalue,
      hfuel => by
      have hnext := dumps_reads nextValue hsorted.1 hunpaired.2.1
      simp only [dumpsMembers, List.length_append, List.length_cons] at hfuel
      cases fuel with
      | zero => omega
      | succ fuel =>
        have hrest := dumpsMembers_reads members hsorted.2 hunpaired.2.2 next nextValue fuel rest
          hunpaired.1 hnext (by omega)
        rw [scanMembers_value hname hvalue (stops_dumpsMembers _ rest) (by omega)]
        simp only [dumpsMembers, List.cons_append, List.append_assoc,
          skip_cons (show isWhitespace ',' = false from by decide), skip_quote]
        simp only [List.cons_append] at hrest
        rw [hrest]
        rfl

end

/-- What was written is read back. -/
theorem loads_dumps {value : Value} (hsorted : value.Sorted) (hunpaired : value.Unpaired) :
    loads (dumps sep value) = some value := by
  have hreads : Reads sep value := dumps_reads value hsorted hunpaired
  have hread := hreads ((dumps sep value).length + 1) [] (by rintro c ⟨⟩) (Nat.le_succ _)
  rcases dumps_cons sep value with ⟨c, text, heq, hspace, _⟩
  rw [List.append_nil] at hread
  have hskip : skip (dumps sep value) = dumps sep value := by
    rw [heq, skip_cons hspace]
  rw [loads, hskip, hread]
  rfl

end RoundTrip

/-! ## Dictionaries -/

theorem ofChar_injective : Function.Injective CodePoint.ofChar := by
  intro a b h
  exact Char.toNat_inj.1 (Fin.mk.inj h)

@[simp] theorem lit_inj {a b : String} : lit a = lit b ↔ a = b := by
  constructor
  · intro h
    exact String.ext (List.map_injective_iff.2 ofChar_injective h)
  · intro h
    rw [h]

theorem lookup_first (member : Text × Value) (rest : List (Text × Value)) :
    (member :: rest).lookup member.1 = some member.2 := by
  rw [List.lookup_cons, beq_self_eq_true]

theorem lookup_later {name : Text} {member : Text × Value} (h : name ≠ member.1)
    (rest : List (Text × Value)) : (member :: rest).lookup name = rest.lookup name := by
  rw [List.lookup_cons, beq_false_of_ne h]

/-- What is found after an assignment. -/
theorem lookup_insertMember (name : Text) (value : Value) (members : List (Text × Value))
    (other : Text) :
    (insertMember name value members).lookup other =
      if other = name then some value else members.lookup other := by
  split_ifs with hother
  · subst hother
    induction members with
    | nil => exact lookup_first (other, value) []
    | cons first rest ih =>
      rw [insertMember]
      split_ifs with hlt heq
      · exact lookup_first (other, value) _
      · exact lookup_first (other, value) _
      · rw [lookup_later heq, ih]
  · induction members with
    | nil => exact lookup_later hother []
    | cons first rest ih =>
      rw [insertMember]
      split_ifs with hlt heq
      · exact lookup_later hother _
      · rw [lookup_later hother, lookup_later (heq ▸ hother)]
      · by_cases hfirst : other = first.1
        · rw [hfirst, lookup_first, lookup_first]
        · rw [lookup_later hfirst, lookup_later hfirst, ih]

theorem lookup_isSome_iff {members : List (Text × Value)} {name : Text} :
    (members.lookup name).isSome = true ↔ name ∈ members.map Prod.fst := by
  induction members with
  | nil => simp
  | cons first rest ih =>
    by_cases h : name = first.1
    · rw [h, lookup_first]
      simp
    · rw [lookup_later h, ih]
      simp [h]

theorem mem_of_lookup {members : List (Text × Value)} {name : Text} {value : Value}
    (h : members.lookup name = some value) : (name, value) ∈ members := by
  induction members with
  | nil => simp at h
  | cons first rest ih =>
    by_cases hname : name = first.1
    · rw [hname, lookup_first] at h
      rw [hname, ← Option.some.inj h]
      exact List.mem_cons_self
    · rw [lookup_later hname] at h
      exact List.mem_cons_of_mem _ (ih h)

/-- Two dictionaries in order that hold the same are the same. -/
theorem sorted_ext {members others : List (Text × Value)} (h : SortedNames members)
    (h' : SortedNames others) (hsame : ∀ name, members.lookup name = others.lookup name) :
    members = others := by
  induction members generalizing others with
  | nil =>
    cases others with
    | nil => rfl
    | cons other others =>
      have hnone := hsame other.1
      rw [lookup_first] at hnone
      cases hnone
  | cons member members ih =>
    cases others with
    | nil =>
      have hnone := hsame member.1
      rw [lookup_first] at hnone
      cases hnone
    | cons other others =>
      -- The first name of each stands in the other, so neither is the smaller one.
      have hmember : member ∈ other :: others :=
        mem_of_lookup ((hsame member.1).symm.trans (lookup_first member members))
      have hother : other ∈ member :: members :=
        mem_of_lookup ((hsame other.1).trans (lookup_first other others))
      have heq : member = other := by
        rcases List.mem_cons.1 hmember with heq | hmember
        · exact heq
        · rcases List.mem_cons.1 hother with heq | hother
          · exact heq.symm
          · exact absurd (h.1 other hother) (lt_asymm (h'.1 member hmember))
      subst heq
      congr 1
      refine ih h.2 h'.2 ?_
      intro name
      by_cases hfirst : name = member.1
      · have hleft : members.lookup name = none := by
          cases hlookup : members.lookup name with
          | none => rfl
          | some value =>
            have hlt := h.1 _ (mem_of_lookup hlookup)
            exact absurd hlt (by rw [hfirst]; exact lt_irrefl _)
        have hright : others.lookup name = none := by
          cases hlookup : others.lookup name with
          | none => rfl
          | some value =>
            have hlt := h'.1 _ (mem_of_lookup hlookup)
            exact absurd hlt (by rw [hfirst]; exact lt_irrefl _)
        rw [hleft, hright]
      · rw [← lookup_later hfirst members, ← lookup_later hfirst others, hsame name]

theorem sortedItems_iff {items : List Value} :
    SortedItems items ↔ ∀ value ∈ items, value.Sorted := by
  induction items with
  | nil => simp [SortedItems]
  | cons value items ih => simp [SortedItems, ih]

theorem sortedMembers_iff {members : List (Text × Value)} :
    SortedMembers members ↔ ∀ member ∈ members, member.2.Sorted := by
  induction members with
  | nil => simp [SortedMembers]
  | cons member members ih => simp [SortedMembers, ih]

theorem unpairedItems_iff {items : List Value} :
    UnpairedItems items ↔ ∀ value ∈ items, value.Unpaired := by
  induction items with
  | nil => simp [UnpairedItems]
  | cons value items ih => simp [UnpairedItems, ih]

theorem unpairedMembers_iff {members : List (Text × Value)} :
    UnpairedMembers members ↔
      ∀ member ∈ members, Json.Unpaired member.1 ∧ member.2.Unpaired := by
  induction members with
  | nil => simp [UnpairedMembers]
  | cons member members ih => simp [UnpairedMembers, ih, and_assoc]

/-- An assignment keeps a dictionary in order. -/
theorem sorted_insertMember {members : List (Text × Value)} (h : (Value.obj members).Sorted)
    (name : Text) {value : Value} (hvalue : value.Sorted) :
    (Value.obj (insertMember name value members)).Sorted := by
  refine ⟨sortedNames_insertMember name value h.1, sortedMembers_iff.2 ?_⟩
  intro member hmember
  rcases mem_insertMember hmember with rfl | hmember
  · exact hvalue
  · exact sortedMembers_iff.1 h.2 member hmember

theorem unpaired_insertMember {members : List (Text × Value)} (h : (Value.obj members).Unpaired)
    {name : Text} (hname : Json.Unpaired name) {value : Value} (hvalue : value.Unpaired) :
    (Value.obj (insertMember name value members)).Unpaired := by
  refine unpairedMembers_iff.2 ?_
  intro member hmember
  rcases mem_insertMember hmember with rfl | hmember
  · exact ⟨hname, hvalue⟩
  · exact unpairedMembers_iff.1 h member hmember

/-- What was written is read back, with white space behind it. -/
theorem loads_dumps_space {sep : Separators} {value : Value} (hsorted : value.Sorted)
    (hunpaired : value.Unpaired) : loads (dumps sep value ++ ['\n']) = some value := by
  have hreads : Reads sep value := dumps_reads value hsorted hunpaired
  have hread := hreads ((dumps sep value ++ ['\n']).length + 1) ['\n'] (stops_cons (by decide) [])
    (by rw [List.length_append]; omega)
  rcases dumps_cons sep value with ⟨c, text, heq, hspace, _⟩
  have hskip : skip (dumps sep value ++ ['\n']) = dumps sep value ++ ['\n'] := by
    rw [heq, List.cons_append, skip_cons hspace]
  rw [loads, hskip, hread]
  rfl

/-! ## A cut text is not read -/

def Value.isNumber : Value → Bool
  | .int _ => true
  | .float _ => true
  | _ => false

section Cuts

theorem skip_append {text : List Char} (h : skip text ≠ []) (more : List Char) :
    skip (text ++ more) = skip text ++ more := by
  induction text with
  | nil => exact absurd rfl h
  | cons c text ih =>
    by_cases hc : isWhitespace c = true
    · have hskip : ∀ rest, skip (c :: rest) = skip rest := by
        intro rest
        simp [skip, hc]
      rw [hskip] at h
      rw [List.cons_append, hskip, hskip, ih h]
    · rw [Bool.not_eq_true] at hc
      rw [List.cons_append, skip_cons hc, skip_cons hc]
      rfl

theorem skip_append_cons {text rest : List Char} {c : Char} (h : skip text = c :: rest)
    (more : List Char) : skip (text ++ more) = c :: (rest ++ more) := by
  rw [skip_append (by simp [h]), h]
  rfl

/-- Behind a value that is followed by a comma or a bracket no number goes on. -/
theorem stops_of_skip {text rest : List Char} {c : Char} (h : skip text = c :: rest)
    (hc : isStop c = true) (more : List Char) : Stops (text ++ more) := by
  cases text with
  | nil => cases h
  | cons d text =>
    refine stops_cons ?_ _
    by_cases hd : isWhitespace d = true
    · simp only [isWhitespace, decide_eq_true_eq, List.mem_cons, List.not_mem_nil, or_false] at hd
      rcases hd with rfl | rfl | rfl | rfl <;> decide
    · rw [Bool.not_eq_true] at hd
      rw [skip_cons hd] at h
      cases h
      exact hc

theorem scanWord_append {word text rest : List Char} {value v : Value}
    (h : scanWord word value text = some (v, rest)) (more : List Char) :
    scanWord word value (text ++ more) = some (v, rest ++ more) := by
  unfold scanWord at h
  split_ifs at h with hword
  cases h
  rcases List.isPrefixOf_iff_prefix.1 hword with ⟨tail, rfl⟩
  simp [scanWord]

/-- A number, unless the text behind it may go on with it. -/
theorem scanNumber_append {text rest : List Char} {v : Value}
    (h : scanNumber text = some (v, rest)) {more : List Char} (hstops : Stops (rest ++ more)) :
    scanNumber (text ++ more) = some (v, rest ++ more) ∧ v.isNumber = true ∧
      ∃ r, matchNumber (text ++ more) = some r := by
  unfold scanNumber at h
  split at h
  · cases h
  · rename_i number rest' hnumber
    cases h
    have happend := matchNumber_append hnumber hstops
    exact ⟨by simp [scanNumber, happend], rfl, _, happend⟩
  · rename_i number rest' hnumber
    split_ifs at h with hfloat
    cases h
    have happend := matchNumber_append hnumber hstops
    exact ⟨by simp [scanNumber, happend, hfloat], rfl, _, happend⟩

/-- What each scanner does with more fuel and more text. -/
structure Extends (fuel : Nat) : Prop where
  once : ∀ {text rest v}, scanOnce fuel text = some (v, rest) → ∀ extra more,
    (v.isNumber = true → Stops (rest ++ more)) →
      scanOnce (fuel + extra) (text ++ more) = some (v, rest ++ more)
  members : ∀ {text rest ms}, scanMembers fuel text = some (ms, rest) → ∀ extra more,
    scanMembers (fuel + extra) (text ++ more) = some (ms, rest ++ more)
  items : ∀ {text rest vs}, scanItems fuel text = some (vs, rest) → ∀ extra more,
    scanItems (fuel + extra) (text ++ more) = some (vs, rest ++ more)

theorem scanOnce_nil (fuel : Nat) : scanOnce fuel [] = none := by
  cases fuel <;> rfl

theorem scanItems_append {fuel : Nat} (ih : Extends fuel) {text rest : List Char}
    {vs : List Value} (h : scanItems (fuel + 1) text = some (vs, rest)) (extra : Nat)
    (more : List Char) :
    scanItems (fuel + extra + 1) (text ++ more) = some (vs, rest ++ more) := by
  rw [scanItems] at h
  split at h
  · cases h
  · rename_i v rest' hscan
    have honce : ∀ {c r}, skip rest' = c :: r → isStop c = true →
        scanOnce (fuel + extra) (text ++ more) = some (v, rest' ++ more) :=
      fun hskip hc => ih.once hscan extra more (fun _ => stops_of_skip hskip hc more)
    split at h
    · rename_i r hskip
      cases h
      rw [scanItems, honce hskip (by decide)]
      simp only [skip_append_cons hskip]
    · rename_i r hskip
      rcases Option.map_eq_some_iff.1 h with ⟨⟨vs', rest''⟩, hrest, heq⟩
      cases heq
      have hne : skip r ≠ [] := by
        intro hnil
        rw [hnil] at hrest
        cases fuel with
        | zero => cases hrest
        | succ fuel => simp [scanItems, scanOnce_nil] at hrest
      rw [scanItems, honce hskip (by decide)]
      simp only [skip_append_cons hskip]
      rw [skip_append hne, ih.items hrest extra more]
      rfl
    · cases h

/-- Members start with a quote. -/
theorem scanMembers_quote {fuel : Nat} {text : List Char} {r : List (Text × Value) × List Char}
    (h : scanMembers fuel text = some r) : ∃ text', text = '"' :: text' := by
  cases fuel with
  | zero => cases h
  | succ fuel =>
    cases text with
    | nil => simp [scanMembers] at h
    | cons c text' =>
      by_cases hc : c = '"'
      · exact ⟨text', by rw [hc]⟩
      · simp [scanMembers, hc] at h

theorem scanMembers_append {fuel : Nat} (ih : Extends fuel) {text rest : List Char}
    {ms : List (Text × Value)} (h : scanMembers (fuel + 1) text = some (ms, rest)) (extra : Nat)
    (more : List Char) :
    scanMembers (fuel + extra + 1) (text ++ more) = some (ms, rest ++ more) := by
  rcases scanMembers_quote h with ⟨text', rfl⟩
  rw [scanMembers] at h
  split at h
  · cases h
  · rename_i name rest₁ hname
    have hname' := scanString_append hname more
    split at h
    · rename_i rest₂ hcolon
      split at h
      · cases h
      · rename_i v rest₃ hvalue
        have hne : skip rest₂ ≠ [] := by
          intro hnil
          rw [hnil, scanOnce_nil] at hvalue
          cases hvalue
        have honce : ∀ {c r}, skip rest₃ = c :: r → isStop c = true →
            scanOnce (fuel + extra) (skip (rest₂ ++ more)) = some (v, rest₃ ++ more) := by
          intro c r hskip hc
          rw [skip_append hne]
          exact ih.once hvalue extra more (fun _ => stops_of_skip hskip hc more)
        split at h
        · rename_i r hskip
          cases h
          simp only [List.cons_append, scanMembers, hname', skip_append_cons hcolon,
            honce hskip (by decide), skip_append_cons hskip]
        · rename_i r hskip
          rcases Option.map_eq_some_iff.1 h with ⟨⟨ms', rest''⟩, hrest, heq⟩
          cases heq
          rcases scanMembers_quote hrest with ⟨r', hr⟩
          have hne' : skip r ≠ [] := by simp [hr]
          simp only [List.cons_append, scanMembers, hname', skip_append_cons hcolon,
            honce hskip (by decide), skip_append_cons hskip, skip_append hne',
            ih.members hrest extra more]
          rfl
        · cases h
    · cases h

theorem scanOnce_append {fuel : Nat} (ih : Extends fuel) {text rest : List Char}
    {v : Value} (h : scanOnce (fuel + 1) text = some (v, rest)) (extra : Nat) (more : List Char)
    (hstops : v.isNumber = true → Stops (rest ++ more)) :
    scanOnce (fuel + extra + 1) (text ++ more) = some (v, rest ++ more) := by
  cases text with
  | nil => cases h
  | cons c text =>
    rw [scanOnce] at h
    rw [List.cons_append, scanOnce]
    cases hstart : startOf c with
    | string =>
      rw [hstart] at h
      rcases Option.map_eq_some_iff.1 h with ⟨⟨t, rest'⟩, hscan, heq⟩
      cases heq
      simp only [scanString_append hscan more]
      rfl
    | object =>
      rw [hstart] at h
      dsimp only at h ⊢
      split at h
      · rename_i r hskip
        cases h
        simp only [skip_append_cons hskip]
      · rcases Option.map_eq_some_iff.1 h with ⟨⟨ms, rest'⟩, hscan, heq⟩
        cases heq
        rcases scanMembers_quote hscan with ⟨r, hskip⟩
        have hmembers := ih.members hscan extra more
        rw [hskip] at hmembers
        rw [List.cons_append] at hmembers
        rw [skip_append_cons hskip]
        simp [hmembers]
    | array =>
      rw [hstart] at h
      dsimp only at h ⊢
      split at h
      · rename_i r hskip
        cases h
        simp only [skip_append_cons hskip]
      · rename_i hopen
        rcases Option.map_eq_some_iff.1 h with ⟨⟨vs, rest'⟩, hscan, heq⟩
        cases heq
        have hitems := ih.items hscan extra more
        cases hskip : skip text with
        | nil =>
          rw [hskip] at hscan
          cases fuel with
          | zero => cases hscan
          | succ fuel => simp [scanItems, scanOnce_nil] at hscan
        | cons d r =>
          have hd : d ≠ ']' := fun hd => hopen r (by rw [hskip, hd])
          rw [skip_append_cons hskip]
          rw [hskip, List.cons_append] at hitems
          simp [hd, hitems]
    | word word value =>
      rw [hstart] at h
      exact scanWord_append h more
    | number =>
      rw [hstart] at h
      dsimp only at h ⊢
      unfold scanMinus at h
      split at h
      · rename_i r hword
        cases h
        have hword' := scanWord_append hword more
        rw [List.cons_append] at hword'
        rw [scanMinus, hword']
      · have hnumber : ∃ r, matchNumber (c :: text) = some r := by
          unfold scanNumber at h
          split at h
          · cases h
          · exact ⟨_, ‹_›⟩
          · exact ⟨_, ‹_›⟩
        have hisNumber : v.isNumber = true := by
          unfold scanNumber at h
          split at h
          · cases h
          · cases h
            rfl
          · split_ifs at h
            cases h
            rfl
        rcases scanNumber_append h (hstops hisNumber) with ⟨happend, _, r, hmatch⟩
        rw [List.cons_append] at happend hmatch
        rw [scanMinus_of_number hmatch, happend]

theorem scan_extends (fuel : Nat) : Extends fuel := by
  induction fuel with
  | zero =>
    refine ⟨?_, ?_, ?_⟩
    · rintro text rest v ⟨⟩
    · rintro text rest ms ⟨⟩
    · rintro text rest vs ⟨⟩
  | succ fuel ih =>
    refine ⟨?_, ?_, ?_⟩
    · intro text rest v h extra more hstops
      rw [Nat.add_right_comm]
      exact scanOnce_append ih h extra more hstops
    · intro text rest ms h extra more
      rw [Nat.add_right_comm]
      exact scanMembers_append ih h extra more
    · intro text rest vs h extra more
      rw [Nat.add_right_comm]
      exact scanItems_append ih h extra more

/-- No proper cut of the text of an object is read. -/
theorem loads_cut {sep : Separators} {members : List (Text × Value)} {text more : List Char}
    (hsorted : (Value.obj members).Sorted) (hunpaired : (Value.obj members).Unpaired)
    (h : dumps sep (.obj members) = text ++ more) (hmore : more ≠ []) : loads text = none := by
  cases text with
  | nil => rfl
  | cons c text =>
    have hc : c = '{' := by
      cases members with
      | nil => exact (List.cons.inj h).1.symm
      | cons member members => exact (List.cons.inj h).1.symm
    subst hc
    have hskip : skip ('{' :: text) = '{' :: text :=
      skip_cons (by decide) text
    rw [loads, hskip]
    cases hscan : scanOnce (('{' :: text).length + 1) ('{' :: text) with
    | none => rfl
    | some r =>
      rcases r with ⟨v, rest⟩
      -- The whole text is read as the same value, with the cut part left over.
      have hnumber : v.isNumber = false := by
        rw [scanOnce, show startOf '{' = .object from rfl] at hscan
        dsimp only at hscan
        split at hscan
        · cases hscan
          rfl
        · rcases Option.map_eq_some_iff.1 hscan with ⟨r, _, heq⟩
          cases heq
          rfl
      have hextended := (scan_extends _).once hscan more.length more
        (fun hfalse => by rw [hnumber] at hfalse; cases hfalse)
      have hreads : Reads sep (.obj members) := dumps_reads _ hsorted hunpaired
      have hwhole := hreads (('{' :: text).length + 1 + more.length) [] (by rintro c ⟨⟩)
        (by simp only [h, List.length_cons, List.length_append]; omega)
      rw [List.append_nil, h, hextended] at hwhole
      have hrest : rest ++ more = [] := by simpa using (Prod.mk.inj (Option.some.inj hwhole)).2
      exact absurd (List.append_eq_nil_iff.1 hrest).2 hmore

end Cuts

/-! ## What is written is printable ASCII -/

def Printable (text : List Char) : Prop :=
  ∀ c ∈ text, 0x20 ≤ c.toNat ∧ c.toNat ≤ 0x7E

/-- A closed text is checked character by character. -/
theorem printable_of_all {text : List Char}
    (h : text.all (fun c => decide (0x20 ≤ c.toNat ∧ c.toNat ≤ 0x7E)) = true) : Printable text :=
  List.all_iff_forall_prop.1 h

theorem printable_append {text more : List Char} (h : Printable text) (h' : Printable more) :
    Printable (text ++ more) := by
  intro c hc
  rcases List.mem_append.1 hc with hc | hc
  · exact h c hc
  · exact h' c hc

theorem printable_cons {c : Char} {text : List Char} (hc : 0x20 ≤ c.toNat ∧ c.toNat ≤ 0x7E)
    (h : Printable text) : Printable (c :: text) := by
  intro d hd
  rcases List.mem_cons.1 hd with rfl | hd
  · exact hc
  · exact h d hd

theorem printable_digit {c : Char} (h : c.isDigit = true) : 0x20 ≤ c.toNat ∧ c.toNat ≤ 0x7E := by
  simp only [Char.isDigit, Bool.and_eq_true, decide_eq_true_eq, ge_iff_le] at h
  have hlow : '0'.toNat ≤ c.toNat := h.1
  have hhigh : c.toNat ≤ '9'.toNat := h.2
  constructor
  · exact le_trans (by decide) hlow
  · exact le_trans hhigh (by decide)

theorem printable_digits (text : List Char) : Printable (text.takeWhile Char.isDigit) :=
  fun _ hc => printable_digit (List.mem_takeWhile_imp hc)

theorem printable_matchMinus (text : List Char) : Printable (matchMinus text).1 := by
  cases text with
  | nil => exact fun _ hc => by cases hc
  | cons c rest =>
    by_cases h : c = '-'
    · rw [matchMinus, if_pos h, h]
      exact printable_cons (by decide) (fun _ hc => by cases hc)
    · rw [matchMinus, if_neg h]
      exact fun _ hc => by cases hc

theorem printable_matchWhole {text : List Char} {r : List Char × List Char}
    (h : matchWhole text = some r) : Printable r.1 := by
  cases text with
  | nil => cases h
  | cons c rest =>
    rw [matchWhole] at h
    split_ifs at h with hzero hdigit
    · cases h
      exact printable_cons (by decide) (fun _ hc => by cases hc)
    · cases h
      exact printable_cons (printable_digit hdigit) (printable_digits rest)

theorem printable_matchFraction (text : List Char) : Printable (matchFraction text).1 := by
  cases text with
  | nil => exact fun _ hc => by cases hc
  | cons c rest =>
    by_cases h : c = '.' ∧ rest.takeWhile Char.isDigit ≠ []
    · rw [matchFraction, if_pos h, h.1]
      exact printable_cons (by decide) (printable_digits rest)
    · rw [matchFraction, if_neg h]
      exact fun _ hc => by cases hc

theorem printable_matchSign (text : List Char) : Printable (matchSign text).1 := by
  cases text with
  | nil => exact fun _ hc => by cases hc
  | cons c rest =>
    by_cases h : c = '+' ∨ c = '-'
    · rw [matchSign, if_pos h]
      refine printable_cons ?_ (fun _ hc => by cases hc)
      rcases h with rfl | rfl <;> decide
    · rw [matchSign, if_neg h]
      exact fun _ hc => by cases hc

theorem printable_matchExponent (text : List Char) : Printable (matchExponent text).1 := by
  cases text with
  | nil => exact fun _ hc => by cases hc
  | cons c rest =>
    by_cases h : (c = 'e' ∨ c = 'E') ∧ (matchSign rest).2.takeWhile Char.isDigit ≠ []
    · rw [matchExponent, if_pos h]
      refine printable_cons ?_ (printable_append (printable_matchSign rest) (printable_digits _))
      rcases h.1 with rfl | rfl <;> decide
    · rw [matchExponent, if_neg h]
      exact fun _ hc => by cases hc

theorem printable_matchNumber {text rest number : List Char} {float : Bool}
    (h : matchNumber text = some (number, float, rest)) : Printable number := by
  unfold matchNumber at h
  cases hwhole : matchWhole (matchMinus text).2 with
  | none => simp [hwhole] at h
  | some whole =>
    simp only [hwhole, Option.some.injEq, Prod.mk.injEq] at h
    rw [← h.1]
    exact printable_append (printable_append (printable_append (printable_matchMinus text)
      (printable_matchWhole hwhole)) (printable_matchFraction _)) (printable_matchExponent _)

theorem printable_float (x : FloatText) : Printable x.text := by
  cases x with
  | finite text h => exact printable_matchNumber h
  | infinity negative => cases negative <;> exact printable_of_all (by decide)
  | nan => exact printable_of_all (by decide)

theorem printable_escapeUnit (u : CodePoint) : Printable (escapeUnit u) := by
  have hhex : ∀ d, d < 16 → 0x20 ≤ (Nat.digitChar d).toNat ∧ (Nat.digitChar d).toNat ≤ 0x7E := by
    decide
  have hmod : ∀ n, n % 16 < 16 := fun n => Nat.mod_lt n (by decide)
  unfold escapeUnit
  split_ifs with h1 h2 h3 h4 h5 h6 h7 h8
  all_goals first
    | exact printable_of_all (by decide)
    | skip
  · intro c hc
    rw [List.mem_singleton.1 hc, toNat_ofNat_ascii (by omega)]
    exact h8
  · refine printable_cons (by decide) (printable_cons (by decide) ?_)
    intro c hc
    simp only [hex4, List.mem_cons, List.not_mem_nil, or_false] at hc
    rcases hc with rfl | rfl | rfl | rfl <;> exact hhex _ (hmod _)

theorem printable_quote (t : Text) : Printable (quote t) := by
  refine printable_append (printable_cons (by decide) ?_) (printable_of_all (by decide))
  intro c hc
  rcases List.mem_flatMap.1 hc with ⟨u, _, hu⟩
  exact printable_escapeUnit u c hu

theorem printable_gap (sep : Separators) : Printable sep.gap := by
  cases sep <;> exact printable_of_all (by decide)

mutual

theorem dumps_printable (sep : Separators) : ∀ value, Printable (dumps sep value)
  | .null => printable_of_all (by rw [dumps]; decide)
  | .bool true => printable_of_all (by rw [dumps]; decide)
  | .bool false => printable_of_all (by rw [dumps]; decide)
  | .int n => printable_matchNumber (matchNumber_intText n)
  | .float x => printable_float x
  | .str t => printable_quote t
  | .arr [] => printable_of_all (by rw [dumps]; decide)
  | .arr (value :: items) =>
    printable_append (printable_cons (by decide) (dumps_printable sep value))
      (dumpsItems_printable sep items)
  | .obj [] => printable_of_all (by rw [dumps]; decide)
  | .obj ((name, value) :: members) => by
      have hvalue := dumps_printable sep value
      have hmembers := dumpsMembers_printable sep members
      rw [dumps]
      refine printable_append (printable_append (printable_append ?_ ?_) hvalue) hmembers
      · exact printable_cons (by decide) (printable_quote name)
      · exact printable_cons (by decide) (printable_gap sep)

theorem dumpsItems_printable (sep : Separators) : ∀ items, Printable (dumpsItems sep items)
  | [] => printable_of_all (by rw [dumpsItems]; decide)
  | value :: items => by
      have hvalue := dumps_printable sep value
      have hitems := dumpsItems_printable sep items
      rw [dumpsItems]
      exact printable_append (printable_append (printable_cons (by decide) (printable_gap sep))
        hvalue) hitems

theorem dumpsMembers_printable (sep : Separators) : ∀ members, Printable (dumpsMembers sep members)
  | [] => printable_of_all (by rw [dumpsMembers]; decide)
  | (name, value) :: members => by
      have hvalue := dumps_printable sep value
      have hmembers := dumpsMembers_printable sep members
      rw [dumpsMembers]
      refine printable_append (printable_append (printable_append (printable_append ?_ ?_) ?_)
        hvalue) hmembers
      · exact printable_cons (by decide) (printable_gap sep)
      · exact printable_quote name
      · exact printable_cons (by decide) (printable_gap sep)

end

end Json
end Library
end MoneyMachine
