import MoneyMachine.Assets.PdfReader

/-!
# PdfPrinting — the spellings of a PDF object

What a file may write for an object, independent of the reader:

* `Gap`     : white space and comments between tokens;
* `Atom`    : keywords, integers, references, names and strings;
* `Spells`  : an object of at most so many nested levels, and the bytes that spell it.

A text that is spelled in hexadecimal is the object that keeps its digits.
-/

namespace MoneyMachine
namespace Assets

open MoneyMachine.Library

/-! ## Between tokens -/

/-- White space and comments; a comment ends with its line. -/
inductive Gap : Bytes → Prop
  | nil : Gap []
  | blank {b : UInt8} {rest : Bytes} (hb : isWs b = true) (h : Gap rest) : Gap (b :: rest)
  | comment {body rest : Bytes} {eol : UInt8} (hbody : ∀ b ∈ body, b ≠ 10 ∧ b ≠ 13)
      (heol : eol = 10 ∨ eol = 13) (h : Gap rest) : Gap (37 :: (body ++ eol :: rest))

/-- What is left behind a gap; `true` inside a comment. -/
@[simp]
def dropGap : Bool → Bytes → Bytes
  | _, [] => []
  | true, b :: rest => if b = 10 ∨ b = 13 then dropGap false rest else dropGap true rest
  | false, b :: rest =>
    if isWs b then dropGap false rest else if b = 37 then dropGap true rest else b :: rest

/-- The bytes from the next token on. -/
def nextToken (rest : Bytes) : Bytes :=
  dropGap false rest

/-- A token that ends here: the next byte is a delimiter, or there is none. -/
def EndsToken (rest : Bytes) : Prop :=
  ∀ b, rest.head? = some b → isDelim b = true

@[simp] theorem nextToken_nil : nextToken [] = [] := rfl

/-- A byte that begins a token. -/
def isLead (b : UInt8) : Bool :=
  !isWs b && decide (b ≠ 37)

theorem nextToken_lead {b : UInt8} (h : isLead b = true) (rest : Bytes) :
    nextToken (b :: rest) = b :: rest := by
  simp only [isLead, Bool.and_eq_true, Bool.not_eq_true', decide_eq_true_eq] at h
  simp [nextToken, h.1, h.2]

theorem dropGap_comment (body : Bytes) (hbody : ∀ b ∈ body, b ≠ 10 ∧ b ≠ 13) (rest : Bytes) :
    dropGap true (body ++ rest) = dropGap true rest := by
  induction body with
  | nil => rfl
  | cons b body ih =>
    have hb := hbody b (List.mem_cons_self ..)
    rw [List.cons_append, dropGap, if_neg (by simp [hb.1, hb.2])]
    exact ih (fun c hc => hbody c (List.mem_cons_of_mem _ hc))

/-- A gap is dropped. -/
theorem nextToken_gap {gap : Bytes} (h : Gap gap) (rest : Bytes) :
    nextToken (gap ++ rest) = nextToken rest := by
  induction h with
  | nil => rfl
  | blank hb _ ih =>
    rw [List.cons_append, nextToken, dropGap, if_pos hb]
    exact ih
  | comment hbody heol _ ih =>
    rename_i body rest' eol _
    have hpercent : isWs 37 = false := by decide
    rw [List.cons_append, nextToken, dropGap, if_neg (by simp [hpercent]), if_pos rfl,
      List.append_assoc, dropGap_comment body hbody, List.cons_append, dropGap, if_pos heol]
    exact ih

/-- Dropping twice is dropping once. -/
theorem dropGap_dropGap (inside : Bool) (rest : Bytes) :
    nextToken (dropGap inside rest) = dropGap inside rest := by
  induction rest generalizing inside with
  | nil => cases inside <;> rfl
  | cons b rest ih =>
    cases inside with
    | true =>
      rw [dropGap]
      split_ifs
      · exact ih false
      · exact ih true
    | false =>
      rw [dropGap]
      split_ifs with hb hpercent
      · exact ih false
      · exact ih true
      · apply nextToken_lead
        simp [isLead, hb, hpercent]

theorem nextToken_nextToken (rest : Bytes) : nextToken (nextToken rest) = nextToken rest :=
  dropGap_dropGap false rest

/-! ## Numbers -/

/-- Digits that `int` reads: at least one, and not more than its limit. -/
structure Digits (digits : Bytes) : Prop where
  nonempty : digits ≠ []
  digit : ∀ b ∈ digits, Bytes.isDigit b = true
  short : digits.length ≤ Bytes.maxDigits

/-- The number that digits write. -/
def decimalOf (digits : Bytes) : Nat :=
  digits.foldl (fun value b => 10 * value + (b.toNat - 48)) 0

/-- An integer with or without a sign. -/
inductive IntText : Int → Bytes → Prop
  | plain {digits : Bytes} (h : Digits digits) : IntText (decimalOf digits) digits
  | plus {digits : Bytes} (h : Digits digits) : IntText (decimalOf digits) (43 :: digits)
  | minus {digits : Bytes} (h : Digits digits) : IntText (-(decimalOf digits : Int)) (45 :: digits)

/-- A number with a point, and digits on one side of it at least. -/
structure RealText (text : Bytes) : Prop where
  spelled : ∃ sign whole fraction, text = sign ++ whole ++ 46 :: fraction ∧
    (sign = [] ∨ sign = [43] ∨ sign = [45]) ∧ (∀ b ∈ whole, Bytes.isDigit b = true) ∧
      (∀ b ∈ fraction, Bytes.isDigit b = true) ∧ (whole ≠ [] ∨ fraction ≠ [])

/-- A well-formed number that is no generation: a number with a point, or an integer whose next token
does not begin with `R`. -/
inductive NumberAhead : Bytes → Prop
  | int {n : Int} {text rest : Bytes} (h : IntText n text) (hend : EndsToken rest)
      (hr : (nextToken rest).head? ≠ some 82) : NumberAhead (text ++ rest)
  | real {text rest : Bytes} (h : RealText text) (hend : EndsToken rest) : NumberAhead (text ++ rest)

/-- A byte that begins a number for the reader. -/
def isNumberLead (b : UInt8) : Bool :=
  isDigitChr b || decide (b ∈ ascii "+-")

/-- Behind an integer: where a number seems to begin, there is one, and the two begin no reference. -/
def IntFollow (rest : Bytes) : Prop :=
  ∀ b, (nextToken rest).head? = some b → isNumberLead b = true → NumberAhead (nextToken rest)

/-! ## Names -/

/-- The characters of a name, each as its byte or as `#hh`. -/
inductive NameText : List Char → Bytes → Prop
  | nil : NameText [] []
  | plain {b : UInt8} {value : List Char} {raw : Bytes} (hb : isDelim b = false) (hhash : b ≠ 35)
      (h : NameText value raw) : NameText (Char.ofNat b.toNat :: value) (b :: raw)
  | escaped {x y : Nat} {c d : UInt8} {value : List Char} {raw : Bytes}
      (hc : hexValue (Char.ofNat c.toNat) = some x) (hd : hexValue (Char.ofNat d.toNat) = some y)
      (h : NameText value raw) :
      NameText (Char.ofNat (16 * x + y) :: value) (35 :: c :: d :: raw)

/-! ## Strings -/

/-- The code units of a character. -/
def charUnits (c : Char) : List Nat :=
  if c.toNat < 0x10000 then
    [c.toNat]
  else
    [0xD800 + (c.toNat - 0x10000) / 0x400, 0xDC00 + (c.toNat - 0x10000) % 0x400]

/-- A code unit in two bytes. -/
def unitBytes (bigEndian : Bool) (unit : Nat) : Bytes :=
  if bigEndian then
    [UInt8.ofNat (unit / 256), UInt8.ofNat (unit % 256)]
  else
    [UInt8.ofNat (unit % 256), UInt8.ofNat (unit / 256)]

def utf16 (bigEndian : Bool) (text : List Char) : Bytes :=
  (text.flatMap charUnits).flatMap (unitBytes bigEndian)

/-- The bytes of a text: Latin-1 without a byte order mark, or UTF-16 behind one. -/
inductive TextBytes : List Char → Bytes → Prop
  | latin {raw : Bytes} (hbig : raw.take 2 ≠ [0xFE, 0xFF]) (hlittle : raw.take 2 ≠ [0xFF, 0xFE]) :
      TextBytes (latin1 raw) raw
  | big (text : List Char) : TextBytes text (0xFE :: 0xFF :: utf16 true text)
  | little (text : List Char) : TextBytes text (0xFF :: 0xFE :: utf16 false text)

/-- The value of octal digits. -/
def octalOf (digits : Bytes) : Nat :=
  digits.foldl (fun value b => 8 * value + (b.toNat - 48)) 0

/-- The bytes of a literal inside so many parentheses, and how they are written up to the closing one.
An unescaped carriage return writes a line feed, which the reader does not know: it is left out. -/
inductive LiteralBody : Nat → Bytes → Bytes → Prop
  | close : LiteralBody 0 [] [41]
  | openParen {depth : Nat} {raw more : Bytes} (h : LiteralBody (depth + 1) raw more) :
      LiteralBody depth (40 :: raw) (40 :: more)
  | closeParen {depth : Nat} {raw more : Bytes} (h : LiteralBody depth raw more) :
      LiteralBody (depth + 1) (41 :: raw) (41 :: more)
  | plain {depth : Nat} {b : UInt8} {raw more : Bytes} (hb : b ∉ ([92, 40, 41, 13] : Bytes))
      (h : LiteralBody depth raw more) : LiteralBody depth (b :: raw) (b :: more)
  | letter {depth : Nat} {esc b : UInt8} {raw more : Bytes} (hesc : escapeLetter esc = some b)
      (h : LiteralBody depth raw more) : LiteralBody depth (b :: raw) (92 :: esc :: more)
  | octal {depth : Nat} {digits raw more : Bytes} (hdigits : ∀ b ∈ digits, isOctal b = true)
      (hnonempty : digits ≠ []) (hshort : digits.length ≤ 3)
      (hnext : digits.length < 3 → ∀ b, more.head? = some b → isOctal b = false)
      (h : LiteralBody depth raw more) :
      LiteralBody depth (UInt8.ofNat (octalOf digits % 256) :: raw) (92 :: (digits ++ more))
  | escaped {depth : Nat} {b : UInt8} {raw more : Bytes} (hletter : escapeLetter b = none)
      (hoctal : isOctal b = false) (heol : b ≠ 10 ∧ b ≠ 13) (h : LiteralBody depth raw more) :
      LiteralBody depth (b :: raw) (92 :: b :: more)
  | continued {depth : Nat} {raw more eol : Bytes}
      (heol : eol = [10] ∨ eol = [13, 10] ∨ (eol = [13] ∧ more.head? ≠ some 10))
      (h : LiteralBody depth raw more) : LiteralBody depth raw (92 :: (eol ++ more))

/-- Pairs of hexadecimal digits. -/
inductive HexDigits : Bytes → List Char → Prop
  | nil : HexDigits [] []
  | pair {x y : Nat} {c d : Char} {raw : Bytes} {digits : List Char} (hc : hexValue c = some x)
      (hd : hexValue d = some y) (h : HexDigits raw digits) :
      HexDigits (UInt8.ofNat (16 * x + y) :: raw) (c :: d :: digits)

/-- The digits between the brackets, without the white space among them. -/
def hexDigitsOf (body : Bytes) : List Char :=
  latin1 (body.filter (fun b => !isWs b))

/-- How hexadecimal digits are written: an odd one stands for itself and a zero. -/
structure HexBody (digits : List Char) (body : Bytes) : Prop where
  hex : ∀ b ∈ body, isWs b = true ∨ (hexValue (Char.ofNat b.toNat)).isSome = true
  digits : digits = hexDigitsOf body ∨ digits = hexDigitsOf body ++ ['0']

/-! ## Objects -/

/-- An object without parts, and its spelling. -/
inductive Atom : PdfObject → Bytes → Prop
  | null : Atom .null (ascii "null")
  | isTrue : Atom (.bool true) (ascii "true")
  | isFalse : Atom (.bool false) (ascii "false")
  | int {n : Int} {text : Bytes} (h : IntText n text) : Atom (.int n) text
  | ref {number generation : Bytes} {gap gap' : Bytes} (hnumber : Digits number) (hgap : Gap gap)
      (hne : gap ≠ []) (hgeneration : Digits generation) (hgap' : Gap gap') (hne' : gap' ≠ []) :
      Atom (.ref (decimalOf number) (decimalOf generation))
        (number ++ gap ++ generation ++ gap' ++ [82])
  | name {value : List Char} {raw : Bytes} (h : NameText value raw) : Atom (.name value) (47 :: raw)
  | literal {text : List Char} {raw body : Bytes} (htext : TextBytes text raw)
      (h : LiteralBody 0 raw body) : Atom (.text ⟨text, none⟩) (40 :: body)
  | hex {text digits : List Char} {raw body : Bytes} (htext : TextBytes text raw)
      (hdigits : HexDigits raw digits) (h : HexBody digits body) :
      Atom (.text ⟨text, some digits⟩) (60 :: (body ++ [62]))

/-- An object whose last byte is no delimiter. -/
def PdfObject.endsRegular : PdfObject → Bool
  | .text _ => false
  | .array _ => false
  | .dict _ => false
  | .stream _ _ => false
  | _ => true

/-- What may follow an object: a token of its own. -/
def Apart (o : PdfObject) (rest : Bytes) : Prop :=
  o.endsRegular = true → EndsToken rest

/-- The items of an array and its closing bracket. -/
inductive Items (R : PdfObject → Bytes → Prop) : List PdfObject → Bytes → Prop
  | nil {gap : Bytes} (hgap : Gap gap) : Items R [] (gap ++ [93])
  | cons {o : PdfObject} {items : List PdfObject} {gap text more : Bytes} (hgap : Gap gap)
      (ho : R o text) (hmore : Items R items more) (hapart : Apart o more) :
      Items R (o :: items) (gap ++ text ++ more)

/-- The entries of a dictionary and its closing brackets. -/
inductive Members (R : PdfObject → Bytes → Prop) : Fields → Bytes → Prop
  | nil {gap : Bytes} (hgap : Gap gap) : Members R [] (gap ++ [62, 62])
  | cons {key : List Char} {o : PdfObject} {fields : Fields} {gap raw gap' text more : Bytes}
      (hgap : Gap gap) (hkey : NameText key raw) (hgap' : Gap gap') (ho : R o text)
      (hend : EndsToken (gap' ++ text)) (hmore : Members R fields more) (hapart : Apart o more) :
      Members R ((key, o) :: fields) (gap ++ 47 :: raw ++ gap' ++ text ++ more)

/-- An object whose parts are spelled by `R`. -/
inductive SpellsOver (R : PdfObject → Bytes → Prop) : PdfObject → Bytes → Prop
  | atom {o : PdfObject} {text : Bytes} (h : Atom o text) : SpellsOver R o text
  | array {items : List PdfObject} {body : Bytes} (h : Items R items body) :
      SpellsOver R (.array items) (91 :: body)
  | dict {fields : Fields} {body : Bytes} (hkeys : (fields.map Prod.fst).Nodup)
      (h : Members R fields body) : SpellsOver R (.dict fields) (60 :: 60 :: body)

/-- An object of at most so many nested arrays and dictionaries, and its spelling. -/
def Spells : Nat → PdfObject → Bytes → Prop
  | 0 => Atom
  | levels + 1 => SpellsOver (Spells levels)

/-- What may follow an object for the reader: an integer begins no reference with it, and a dictionary
no stream. -/
def Follows : PdfObject → Bytes → Prop
  | .int _, rest => IntFollow rest
  | .dict _, rest => ¬ ascii "stream" <+: nextToken rest
  | _, _ => True

/-- What the reader leaves: behind a dictionary it looks for the next token. -/
def leftOver : PdfObject → Bytes → Bytes
  | .dict _, rest => nextToken rest
  | _, rest => rest

end Assets
end MoneyMachine
