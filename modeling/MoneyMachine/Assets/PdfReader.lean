import MoneyMachine.Domain.Text
import MoneyMachine.Library.Bytes
import MoneyMachine.Library.Comp
import Mathlib.Algebra.Group.Int.Defs

/-!
# PdfReader — PDF objects from a cross-reference

`_Reader` is a cursor over bytes.  The cursor is an integer, and nothing keeps it inside the file: a
stream dictionary moves it by its `/Length`, which may be negative, and Python indexes with a
negative position from the end.  So the model carries the cursor as an `Int` and reads through
`Bytes.at?` and `Bytes.slice`.

Reading a token always ends and is an `Except`.  Arrays, dictionaries, the sections of a
cross-reference table and the objects of a document are `Comp`: whether they end is a question.
-/

namespace MoneyMachine
namespace Assets

open MoneyMachine.Domain (isWhiteSpace)
open MoneyMachine.Library

/-! ## Objects and errors -/

/-- The exceptions of the reader. -/
inductive PdfError
  /-- A `ValueError` of this module, with its text. -/
  | value (text : String)
  /-- `pdf token`, with the word. -/
  | token (word : Bytes)
  /-- `pdf object`, with the number. -/
  | object (number : Int)
  /-- A `ValueError` of `int`, `float`, `bytes.fromhex`, `bytearray`, `zip` or an unpacking. -/
  | literal
  | index
  | key (number : Int)
  | zlib
  | overflow
  deriving DecidableEq, Repr

/-- A decoded string.  Hex strings also keep their digits. -/
structure PdfText where
  text : List Char
  hexDigits : Option (List Char)
  deriving DecidableEq, Repr

inductive PdfObject
  | null
  | bool (b : Bool)
  | int (n : Int)
  /-- A number with a point, as it is written. -/
  | real (digits : Bytes)
  | name (value : List Char)
  | ref (number generation : Int)
  | text (text : PdfText)
  | array (items : List PdfObject)
  | dict (fields : List (List Char × PdfObject))
  | stream (fields : List (List Char × PdfObject)) (data : Bytes)

/-- The fields of a dictionary, in the order they were read. -/
abbrev Fields := List (List Char × PdfObject)

/-- `fields.get(name)`. -/
def Fields.get? (fields : Fields) (name : String) : Option PdfObject :=
  fields.lookup name.toList

/-- The object as an `int`; a `bool` is one. -/
def PdfObject.asInt : PdfObject → Option Int
  | .int n => some n
  | .bool b => some (if b then 1 else 0)
  | _ => none

/-- The bytes of an ASCII text. -/
def ascii (text : String) : Bytes :=
  text.toList.map (fun c => UInt8.ofNat c.toNat)

/-! ## Characters -/

/-- `_WS`. -/
def isWs (b : UInt8) : Bool :=
  decide (b ∈ ([0, 9, 10, 12, 13, 32] : List UInt8))

/-- `_DELIM`. -/
def isDelim (b : UInt8) : Bool :=
  isWs b || decide (b ∈ ascii "()<>[]\x7b\x7d/%")

/-- `chr(byte).isdigit()`: the superscripts of Latin-1 are digits too. -/
def isDigitChr (b : UInt8) : Bool :=
  Bytes.isDigit b || decide (b ∈ ([0xB2, 0xB3, 0xB9] : List UInt8))

def latin1 (raw : Bytes) : List Char :=
  raw.map (fun b => Char.ofNat b.toNat)

def hexValue (c : Char) : Option Nat :=
  if '0' ≤ c ∧ c ≤ '9' then
    some (c.toNat - 48)
  else if 'a' ≤ c ∧ c ≤ 'f' then
    some (c.toNat - 87)
  else if 'A' ≤ c ∧ c ≤ 'F' then
    some (c.toNat - 55)
  else
    none

/-- `chr(int(a + b, 16))`; `int` skips white space and reads a sign.  A separator of ASCII is no white
space to it. -/
def hexPair (a b : Char) : Option Char :=
  match hexValue a, hexValue b with
  | some x, some y => some (Char.ofNat (16 * x + y))
  | some x, none => if isWhiteSpace b then some (Char.ofNat x) else none
  | none, some y =>
    if isWhiteSpace a ∨ a = '+' then
      some (Char.ofNat y)
    else if a = '-' ∧ y = 0 then
      some (Char.ofNat 0)
    else
      none
  | none, none => none

/-- `decode_pdf_name`. -/
def decodePdfName : List Char → List Char
  | '#' :: a :: b :: rest =>
    match hexPair a b with
    | some c => c :: decodePdfName rest
    | none => '#' :: decodePdfName (a :: b :: rest)
  | c :: rest => c :: decodePdfName rest
  | [] => []

/-- The code units of UTF-16 bytes, and whether a byte is left over. -/
def utf16Units (bigEndian : Bool) : Bytes → List Nat × Bool
  | a :: b :: rest =>
    let (units, odd) := utf16Units bigEndian rest
    ((if bigEndian then 256 * a.toNat + b.toNat else 256 * b.toNat + a.toNat) :: units, odd)
  | [_] => ([], true)
  | [] => ([], false)

def isHighSurrogate (unit : Nat) : Bool := decide (0xD800 ≤ unit ∧ unit ≤ 0xDBFF)

def isLowSurrogate (unit : Nat) : Bool := decide (0xDC00 ≤ unit ∧ unit ≤ 0xDFFF)

/-- `decode("utf-16", errors="replace")`. -/
def decodeUnits : List Nat → Bool → List Char
  | [], odd => if odd then ['\uFFFD'] else []
  -- A high surrogate at the end is replaced together with what is left.
  | [u], odd =>
    if isHighSurrogate u then
      ['\uFFFD']
    else if isLowSurrogate u then
      '\uFFFD' :: decodeUnits [] odd
    else
      Char.ofNat u :: decodeUnits [] odd
  | u :: v :: rest, odd =>
    if isHighSurrogate u then
      if isLowSurrogate v then
        Char.ofNat (0x10000 + (u - 0xD800) * 0x400 + (v - 0xDC00)) :: decodeUnits rest odd
      else
        '\uFFFD' :: decodeUnits (v :: rest) odd
    else if isLowSurrogate u then
      '\uFFFD' :: decodeUnits (v :: rest) odd
    else
      Char.ofNat u :: decodeUnits (v :: rest) odd

/-- `_decode_text`. -/
def decodeText : Bytes → List Char
  | 0xFE :: 0xFF :: rest =>
    let (units, odd) := utf16Units true rest
    decodeUnits units odd
  | 0xFF :: 0xFE :: rest =>
    let (units, odd) := utf16Units false rest
    decodeUnits units odd
  | raw => latin1 raw

/-- `bytes.fromhex`. -/
def fromHex : List Char → Option Bytes
  | [] => some []
  | c :: rest =>
    if c = ' ' ∨ ('\t' ≤ c ∧ c ≤ '\r') then
      fromHex rest
    else
      match rest with
      | [] => none
      | d :: rest =>
        match hexValue c, hexValue d with
        | some x, some y => (fromHex rest).map (UInt8.ofNat (16 * x + y) :: ·)
        | _, _ => none

/-! ## Tokens -/

section Tokens

variable (data : Bytes)

/-- `data[i]`. -/
def byteAt (i : Int) : Except PdfError UInt8 :=
  match data.at? i with
  | none => .error .index
  | some b => .ok b

/-- `while self.i < self.n and p(self.data[self.i]): self.i += 1`, for at most that many rounds. -/
def advance (p : UInt8 → Bool) : Nat → Int → Except PdfError Int
  | 0, i => .ok i
  | rounds + 1, i =>
    if i < data.length then do
      let b ← byteAt data i
      if p b then advance p rounds (i + 1) else .ok i
    else
      .ok i

/-- As many rounds as there are bytes up to the end. -/
def advanceWhile (p : UInt8 → Bool) (i : Int) : Except PdfError Int :=
  advance data p (data.length - i).toNat i

/-- `_skip`: white space and comments. -/
def skipRounds : Nat → Int → Except PdfError Int
  | 0, i => .ok i
  | rounds + 1, i =>
    if i < data.length then do
      let b ← byteAt data i
      if isWs b then
        skipRounds rounds (i + 1)
      else if b = 37 then do
        let j ← advanceWhile data (fun b => decide (b ≠ 10 ∧ b ≠ 13)) (i + 1)
        skipRounds rounds j
      else
        .ok i
    else
      .ok i

def skip (i : Int) : Except PdfError Int :=
  skipRounds data (data.length - i).toNat i

/-- `_word`. -/
def word (i : Int) : Except PdfError (Bytes × Int) := do
  let j ← advanceWhile data (fun b => !isDelim b) i
  .ok (data.slice i j, j)

/-- `_name`: whatever the first byte is, it is stepped over. -/
def name (i : Int) : Except PdfError (List Char × Int) := do
  let j ← advanceWhile data (fun b => !isDelim b) (i + 1)
  .ok (decodePdfName (latin1 (data.slice (i + 1) j)), j)

/-- A number is an `int` or a `float`. -/
def PdfObject.ofInt (digits : Bytes) : Except PdfError PdfObject :=
  match Bytes.parseInt digits with
  | none => .error .literal
  | some n => .ok (.int n)

/-- A number without its sign. -/
def unsigned : Bytes → Bytes
  | 43 :: rest => rest
  | 45 :: rest => rest
  | rest => rest

/-- What follows a point. -/
def afterPoint : Bytes → Bytes
  | 46 :: rest => rest
  | rest => rest

/-- `float(digits)`: a sign, digits and a point, with a digit at least; a superscript is none. -/
def PdfObject.ofReal (digits : Bytes) : Except PdfError PdfObject :=
  let whole := (unsigned digits).takeWhile Bytes.isDigit
  let fraction := afterPoint ((unsigned digits).dropWhile Bytes.isDigit)
  if fraction.all Bytes.isDigit ∧ (whole ≠ [] ∨ fraction ≠ []) then
    .ok (.real digits)
  else
    .error .literal

/-- `_number`. -/
def number (i : Int) : Except PdfError (PdfObject × Int) := do
  let first ← byteAt data i
  let digits := if first ∈ ascii "+-" then i + 1 else i
  let j ← advanceWhile data isDigitChr digits
  if data.startsWith (ascii ".") j && decide (j < data.length) then do
    let k ← advanceWhile data isDigitChr (j + 1)
    if j = digits ∧ k = j + 1 then
      .error (.value "pdf number")
    else do
      let n ← PdfObject.ofReal (data.slice i k)
      .ok (n, k)
  else if j = digits then
    .error (.value "pdf number")
  else do
    let n ← PdfObject.ofInt (data.slice i j)
    .ok (n, j)

/-- The byte an escape stands for, when it is a letter. -/
def escapeLetter (esc : UInt8) : Option UInt8 :=
  (List.zip (ascii "nrtbf") [10, 13, 9, 8, 12]).lookup esc

def isOctal (b : UInt8) : Bool :=
  decide (48 ≤ b.toNat ∧ b.toNat ≤ 55)

/-- At most `count` octal digits more. -/
def octalDigits : Nat → Int → Nat → Except PdfError (Nat × Int)
  | 0, i, value => .ok (value, i)
  | count + 1, i, value =>
    if i < data.length then do
      let b ← byteAt data i
      if isOctal b then
        octalDigits count (i + 1) (8 * value + (b.toNat - 48))
      else
        octalDigits count i value
    else
      octalDigits count i value

/-- What follows a backslash. -/
def escape (i : Int) : Except PdfError (Bytes × Int) := do
  let esc ← byteAt data i
  match escapeLetter esc with
  | some b => .ok ([b], i + 1)
  | none =>
    if isOctal esc then do
      let (value, j) ← octalDigits data 2 (i + 1) (esc.toNat - 48)
      .ok ([UInt8.ofNat (value % 256)], j)
    else if esc = 10 ∨ esc = 13 then
      -- A line break after a backslash is no text.
      if esc = 13 ∧ i + 1 < data.length ∧ data.at? (i + 1) = some 10 then
        .ok ([], i + 2)
      else
        .ok ([], i + 1)
    else
      .ok ([esc], i + 1)

/-- The body of a literal string, inside `depth` parentheses. -/
def literalRounds : Nat → Int → Nat → Bytes → Except PdfError (Bytes × Int)
  | 0, i, _, raw => .ok (raw, i)
  | rounds + 1, i, depth, raw =>
    if i < data.length ∧ depth ≠ 0 then do
      let b ← byteAt data i
      if b = 92 then do
        let (more, j) ← escape data (i + 1)
        literalRounds rounds j depth (raw ++ more)
      else if b = 40 then
        literalRounds rounds (i + 1) (depth + 1) (raw ++ [b])
      else if b = 41 then
        literalRounds rounds (i + 1) (depth - 1) (if depth = 1 then raw else raw ++ [b])
      else
        literalRounds rounds (i + 1) depth (raw ++ [b])
    else
      .ok (raw, i)

/-- `_literal`. -/
def literal (i : Int) : Except PdfError (PdfText × Int) := do
  let (raw, j) ← literalRounds data (data.length - (i + 1)).toNat (i + 1) 1 []
  .ok ({ text := decodeText raw, hexDigits := none }, j)

/-- `_hex`. -/
def hex (i : Int) : Except PdfError (PdfText × Int) := do
  let j ← advanceWhile data (fun b => decide (b ≠ 62)) (i + 1)
  -- The scan passes every byte between, white space or not.
  let between ← digitsBetween (j - (i + 1)).toNat (i + 1)
  let digits := latin1 (between.filter (fun b => !isWs b))
  let digits := if digits.length % 2 = 1 then digits ++ ['0'] else digits
  match fromHex digits with
  | none => .error .literal
  | some raw => .ok ({ text := decodeText raw, hexDigits := some digits }, j + 1)
where
  digitsBetween : Nat → Int → Except PdfError Bytes
    | 0, _ => .ok []
    | count + 1, i => do
        let b ← byteAt data i
        let rest ← digitsBetween count (i + 1)
        .ok (b :: rest)

end Tokens

/-! ## Streams -/

/-- `zlib.decompress`, with a zlib header or without (`wbits=-15`). -/
structure Zlib where
  decompress : Bytes → Option Bytes
  decompressRaw : Bytes → Option Bytes

/-- `_filter_names`. -/
def filterNames (fields : Fields) : List (List Char) :=
  match fields.get? "Filter" with
  | some (.name value) => [value]
  | some (.array items) =>
    items.filterMap (fun item =>
      match item with
      | .name value => some value
      | _ => none)
  | _ => []

/-- `_paeth`. -/
def paeth (left up upperLeft : Nat) : Nat :=
  let estimate : Int := left + up - upperLeft
  let toLeft := (estimate - left).natAbs
  let toUp := (estimate - up).natAbs
  let toUpperLeft := (estimate - upperLeft).natAbs
  if toLeft ≤ toUp ∧ toLeft ≤ toUpperLeft then
    left
  else if toUp ≤ toUpperLeft then
    up
  else
    upperLeft

/-- One byte of a row, from its neighbours. -/
def unfilterByte (kind x : UInt8) (left up upperLeft : UInt8) : UInt8 :=
  if kind = 1 then
    x + left
  else if kind = 2 then
    x + up
  else if kind = 3 then
    UInt8.ofNat (x.toNat + (left.toNat + up.toNat) / 2)
  else if kind = 4 then
    UInt8.ofNat (x.toNat + paeth left.toNat up.toNat upperLeft.toNat)
  else
    x

/-- One row, over the row before it. -/
def unfilterRow (kind left upperLeft : UInt8) : Bytes → Bytes → Bytes
  | x :: xs, up :: ups =>
    let y := unfilterByte kind x left up upperLeft
    y :: unfilterRow kind y up xs ups
  | _, _ => []

/-- The rows of `columns` bytes behind their filter types, for at most that many rows. -/
def unpredictRows (columns : Nat) : Nat → Bytes → Bytes → Bytes
  | 0, _, _ => []
  | rows + 1, previous, data =>
    match data with
    | [] => []
    | kind :: rest =>
      if columns ≤ rest.length then
        let row := unfilterRow kind 0 0 (rest.take columns) previous
        row ++ unpredictRows columns rows row (rest.drop columns)
      else
        []

/-- The largest size of a `bytearray`. -/
def maxSize : Int := 2 ^ 63 - 1

/-- `_unpredict`. -/
def unpredict (data : Bytes) (params : Option PdfObject) : Except PdfError Bytes :=
  match params with
  | some (.dict fields) =>
    match (Fields.get? fields "Predictor").elim (some 1) PdfObject.asInt,
        (Fields.get? fields "Columns").elim (some 1) PdfObject.asInt with
    | some predictor, some columns =>
      if predictor ≤ 1 then
        .ok data
      else if columns < 0 then
        .error .literal
      else if maxSize < columns then
        .error .overflow
      else
        .ok (unpredictRows columns.toNat data.length
          (List.replicate columns.toNat 0) data)
    | _, _ => .ok data
  | _ => .ok data

section Streams

variable (zlib : Zlib)

/-- The filters, one after the other; only `FlateDecode` does anything. -/
def inflateAll : List (List Char) → Bytes → Except PdfError Bytes
  | [], data => .ok data
  | name :: rest, data =>
    if name = "FlateDecode".toList then
      match zlib.decompress data with
      | some data => inflateAll rest data
      | none =>
        match zlib.decompressRaw data with
        | some data => inflateAll rest data
        | none => .error .zlib
    else
      inflateAll rest data

/-- `_inflate`. -/
def inflate (fields : Fields) (payload : Bytes) : Except PdfError Bytes := do
  let data ← inflateAll zlib (filterNames fields) payload
  unpredict data (fields.get? "DecodeParms")

/-! ## Values -/

/-- Where the payload of a stream begins: after one line break. -/
def payloadStart (data : Bytes) (i : Int) : Int :=
  if data.startsWith [13, 10] i then
    i + 2
  else if i < data.length ∧ (data.at? i = some 13 ∨ data.at? i = some 10) then
    i + 1
  else
    i

/-- What follows the fields of a dictionary: nothing, or the payload of a stream.  The cursor moves
by the length, whatever its sign. -/
def finishDict (data : Bytes) (fields : Fields) (i : Int) : Except PdfError (PdfObject × Int) := do
  let i ← skip data i
  if data.startsWith (ascii "stream") i then
    let i := payloadStart data (i + 6)
    match fields.get? "Length" with
    | some (.int length) => do
        let inflated ← inflate zlib fields (data.slice i (i + length))
        .ok (.stream fields inflated, i + length)
    | _ => .error (.value "pdf stream length")
  else
    .ok (.dict fields, i)

abbrev ReadValue := Int → Comp PdfError (PdfObject × Int)

/-- One round of the array loop: the cursor and the items so far. -/
def arrayStep (data : Bytes) (item : ReadValue) (s : Int × List PdfObject) :
    Comp PdfError ((Int × List PdfObject) ⊕ (PdfObject × Int)) := do
  let i ← Comp.ofExcept (skip data s.1)
  if data.startsWith (ascii "]") i then
    pure (.inr (.array s.2, i + 1))
  else do
    let (value, j) ← item i
    pure (.inl (j, s.2 ++ [value]))

/-- `_array`, with the reader of its items. -/
def array (data : Bytes) (item : ReadValue) (i : Int) : Comp PdfError (PdfObject × Int) :=
  Comp.loop (arrayStep data item) (i + 1, [])

/-- One round of the dictionary loop. -/
def dictStep (data : Bytes) (item : ReadValue) (s : Int × Fields) :
    Comp PdfError ((Int × Fields) ⊕ (Fields × Int)) := do
  let i ← Comp.ofExcept (skip data s.1)
  if data.startsWith (ascii ">>") i then
    pure (.inr (s.2, i + 2))
  else do
    let (key, j) ← Comp.ofExcept (name data i)
    if s.2.any (fun field => decide (field.1 = key)) then
      Comp.ofExcept (.error (.value "pdf duplicate name"))
    else do
      let (value, k) ← item j
      pure (.inl (k, s.2 ++ [(key, value)]))

/-- `_dict`, with the reader of its values. -/
def dict (data : Bytes) (item : ReadValue) (i : Int) : Comp PdfError (PdfObject × Int) := do
  let (fields, j) ← Comp.loop (dictStep data item) (i + 2, [])
  Comp.ofExcept (finishDict zlib data fields j)

/-- A number, or the reference it begins. -/
def numberOrRef (data : Bytes) (i : Int) : Except PdfError (PdfObject × Int) := do
  let (first, mark) ← number data i
  let j ← skip data mark
  let more : Bool := decide (j < data.length) &&
    (data.at? j).any (fun b => isDigitChr b || decide (b ∈ ascii "+-"))
  if more then do
    let (second, k) ← number data j
    let k ← skip data k
    match first, second with
    | .int number, .int generation =>
      if data.startsWith (ascii "R") k then
        .ok (.ref number generation, k + 1)
      else
        .ok (first, mark)
    | _, _ => .ok (first, mark)
  else
    .ok (first, mark)

/-- `true`, `false` or `null`. -/
def keyword (data : Bytes) (i : Int) : Except PdfError (PdfObject × Int) := do
  let (w, j) ← word data i
  if w = ascii "true" then
    .ok (.bool true, j)
  else if w = ascii "false" then
    .ok (.bool false, j)
  else if w = ascii "null" then
    .ok (.null, j)
  else
    .error (.token w)

/-- A value that is neither an array nor a dictionary. -/
def atom (data : Bytes) (i : Int) : Except PdfError (PdfObject × Int) :=
  if data.startsWith (ascii "(") i then do
    let (text, j) ← literal data i
    .ok (.text text, j)
  else if data.startsWith (ascii "<") i then do
    let (text, j) ← hex data i
    .ok (.text text, j)
  else if data.startsWith (ascii "/") i then do
    let (value, j) ← name data i
    .ok (.name value, j)
  else do
    let b ← byteAt data i
    if b ∈ ascii "+-." ∨ isDigitChr b = true then
      numberOrRef data i
    else
      keyword data i

/-- `_MAX_DEPTH`. -/
def maxDepth : Nat := 64

/-- `value`, with the number of levels that are left. -/
def value (data : Bytes) : Nat → ReadValue
  | 0, _ => Comp.ofExcept (.error (.value "pdf depth"))
  | levels + 1, i => do
      let i ← Comp.ofExcept (skip data i)
      if (data.length : Int) ≤ i then
        Comp.ofExcept (.error (.value "pdf value"))
      else if data.startsWith (ascii "<<") i then
        dict zlib data (value data levels) i
      else if data.startsWith (ascii "[") i then
        array data (value data levels) i
      else
        Comp.ofExcept (atom data i)

/-- `value()` of a fresh reader whose cursor was set. -/
def readValue (data : Bytes) (i : Int) : Comp PdfError (PdfObject × Int) :=
  value zlib data (maxDepth + 1) i

/-! ## The cross-reference -/

inductive XRef
  | plain (offset generation : Int)
  | compressed (stream index : Int)
  deriving DecidableEq, Repr

/-- The entries read so far; a later one for a number stands before an earlier one. -/
abbrev Entries := List (Int × XRef)

/-- The cursor after `obj` of the object at an offset. -/
def objectStart (pdf : Bytes) (offset : Int) : Except PdfError Int := do
  let i ← skip pdf offset
  let (_, i) ← number pdf i
  let i ← skip pdf i
  let (_, i) ← number pdf i
  let i ← skip pdf i
  let (w, i) ← word pdf i
  if w = ascii "obj" then .ok i else .error (.value "pdf object")

/-- `_parse_at`. -/
def parseAt (pdf : Bytes) (offset : Int) : Comp PdfError PdfObject := do
  let i ← Comp.ofExcept (objectStart pdf offset)
  let (found, _) ← readValue zlib pdf i
  pure found

/-- `_startxref`. -/
def startxref (pdf : Bytes) : Except PdfError Int :=
  let marker := pdf.rfind (ascii "startxref")
  if marker < 0 then
    .error (.value "pdf startxref")
  else
    match (pdf.sliceFrom marker).splitLines with
    | _ :: line :: _ =>
      match Bytes.parseInt line with
      | some offset => .ok offset
      | none => .error .literal
    | _ => .error .index

/-- The cursor after `trailer`. -/
def trailerStart (pdf : Bytes) (index : Int) : Except PdfError Int := do
  let i ← skip pdf index
  let (w, i) ← word pdf i
  if w = ascii "trailer" then .ok i else .error (.value "pdf trailer")

/-- `_trailer_dict`. -/
def trailerDict (pdf : Bytes) (index : Int) : Comp PdfError Fields := do
  let i ← Comp.ofExcept (trailerStart pdf index)
  let (found, _) ← readValue zlib pdf i
  match found with
  | .dict fields => pure fields
  | _ => Comp.ofExcept (.error (.value "pdf trailer"))

/-- `int(digits)`. -/
def readInt (digits : Bytes) : Except PdfError Int :=
  match Bytes.parseInt digits with
  | some n => .ok n
  | none => .error .literal

/-- The rows of a section, twenty bytes each. -/
def readRows (pdf : Bytes) : Nat → Int → Nat → Entries → Except PdfError (Nat × Entries)
  | 0, _, index, entries => .ok (index, entries)
  | count + 1, number, index, entries =>
    let row := pdf.slice index (index + 20)
    if row.slice 17 18 = ascii "n" then do
      let offset ← readInt (row.slice 0 10)
      let generation ← readInt (row.slice 11 16)
      readRows pdf count (number + 1) (index + 20)
        ((number, .plain offset generation) :: entries)
    else
      readRows pdf count (number + 1) (index + 20) entries

/-- The index behind white space. -/
def skipBlank (pdf : Bytes) (index : Nat) : Nat :=
  let rest := pdf.sliceFrom index
  index + (rest.length - (rest.dropWhile isWs).length)

/-- One section: its header line and its rows.  `find` is at least `-1`, so the index stays a natural
number. -/
def readSection (pdf : Bytes) (index : Nat) (entries : Entries) :
    Except PdfError (Nat × Entries) :=
  -- Without a line break the header reaches to the last byte but one, and the next index is 0.
  let lineEnd := pdf.find [10] index
  match (pdf.slice index lineEnd).split with
  | [startText, countText] => do
      let start ← readInt startText
      let count ← readInt countText
      readRows pdf count.toNat start (lineEnd + 1).toNat entries
  | _ => .error .literal

/-- One round of the section loop: the index and the entries so far. -/
def sectionStep (pdf : Bytes) (s : Nat × Entries) :
    Comp PdfError ((Nat × Entries) ⊕ (Entries × Fields)) :=
  let index := skipBlank pdf s.1
  if pdf.startsWith (ascii "trailer") index then do
    let trailer ← trailerDict zlib pdf index
    pure (.inr (s.2, trailer))
  else do
    let next ← Comp.ofExcept (readSection pdf index s.2)
    pure (.inl next)

/-- The index behind the `xref` line. -/
def firstSection (pdf : Bytes) (offset : Int) : Nat :=
  (pdf.find [10] offset + 1).toNat

/-- `_xref_table`. -/
def xrefTable (pdf : Bytes) (offset : Int) : Comp PdfError (Entries × Fields) :=
  if pdf.startsWith (ascii "xref") offset then
    Comp.loop (sectionStep zlib pdf) (firstSection pdf offset, [])
  else
    Comp.ofExcept (.error (.value "pdf xref"))

/-- `_field`. -/
def field (chunk : Bytes) (width : Int) : Int :=
  if width = 0 then 0 else Bytes.fromBigEndian (chunk.slice 0 width)

/-- The entries of one run of numbers, from a position of the data on. -/
def streamEntries (data : Bytes) (w0 w1 w2 : Int) :
    Nat → Int → Int → Entries → Int × Entries
  | 0, _, pos, entries => (pos, entries)
  | count + 1, number, pos, entries =>
    let width := w0 + w1 + w2
    let chunk := data.slice pos (pos + width)
    let kind := if w0 = 0 then 1 else field chunk w0
    let second := field (chunk.sliceFrom w0) w1
    let third := field (chunk.sliceFrom (w0 + w1)) w2
    let entries :=
      if kind = 1 then
        (number, .plain second third) :: entries
      else if kind = 2 then
        (number, .compressed second third) :: entries
      else
        entries
    streamEntries data w0 w1 w2 count (number + 1) (pos + width) entries

/-- Pairs of an index; a last number without a partner is an error. -/
def pairUp : List Int → Except PdfError (List (Int × Int))
  | [] => .ok []
  | [_] => .error .index
  | a :: b :: rest => do
      let pairs ← pairUp rest
      .ok ((a, b) :: pairs)

/-- `_xref_stream`. -/
def xrefStream (fields : Fields) (data : Bytes) : Except PdfError (Entries × Fields) :=
  match fields.get? "W" with
  | some (.array [a, b, c]) => do
      let w0 := a.asInt.getD 0
      let w1 := b.asInt.getD 0
      let w2 := c.asInt.getD 0
      let size := ((fields.get? "Size").bind PdfObject.asInt).getD 0
      match (fields.get? "Index").getD (.array [.int 0, .int size]) with
      | .array items => do
          let pairs ← pairUp (items.filterMap PdfObject.asInt)
          let (_, entries) := pairs.foldl
            (fun (state : Int × Entries) pair =>
              streamEntries data w0 w1 w2 pair.2.toNat pair.1 state.1 state.2) (0, [])
          .ok (entries, fields)
      | _ => .error (.value "pdf xref index")
  | _ => .error (.value "pdf xref width")

/-! ## The document -/

/-- One parsed file. -/
structure PdfDocument where
  pdf : Bytes
  entries : Entries
  trailer : Fields

/-- The cross-reference and the trailer, from a table or from a stream. -/
def crossReference (pdf : Bytes) (offset : Int) : Comp PdfError (Entries × Fields) :=
  if pdf.startsWith (ascii "xref") offset then
    xrefTable zlib pdf offset
  else do
    let found ← parseAt zlib pdf offset
    match found with
    | .stream fields data => Comp.ofExcept (xrefStream fields data)
    | _ => Comp.ofExcept (.error (.value "pdf xref stream"))

/-- `PdfDocument(pdf)`. -/
def openDocument (pdf : Bytes) : Comp PdfError PdfDocument := do
  let offset ← Comp.ofExcept (startxref pdf)
  let (entries, trailer) ← crossReference zlib pdf offset
  if (trailer.get? "Prev").isSome then
    Comp.ofExcept (.error (.value "pdf prev"))
  else
    pure { pdf := pdf, entries := entries, trailer := trailer }

/-- `_cache` and `_streams`. -/
structure Caches where
  objects : List (Int × PdfObject)
  streams : List (Int × List (Int × PdfObject))

def Caches.empty : Caches :=
  { objects := [], streams := [] }

/-- A call that raises keeps what it cached before. -/
abbrev Cached (α : Type) := Except PdfError α × Caches

/-- The objects of a stream's data: each reaches to the next one's offset. -/
def readObjects (data : Bytes) (first : Int) :
    List (Int × Int) → Comp PdfError (List (Int × PdfObject))
  | [] => pure []
  | (number, rel) :: rest => do
      let last : Int :=
        match rest with
        | (_, next) :: _ => first + next
        | [] => data.length
      let (object, _) ← readValue zlib (data.slice (first + rel) last) 0
      let objects ← readObjects data first rest
      -- A number that comes again replaces the object before.
      pure (objects ++ [(number, object)])

/-- `zip(numbers[0::2], numbers[1::2], strict=True)`. -/
def zipStrict : List Int → Except PdfError (List (Int × Int))
  | [] => .ok []
  | [_] => .error .literal
  | a :: b :: rest => do
      let pairs ← zipStrict rest
      .ok ((a, b) :: pairs)

def readInts : List Bytes → Except PdfError (List Int)
  | [] => .ok []
  | digits :: rest => do
      let n ← readInt digits
      let ns ← readInts rest
      .ok (n :: ns)

/-- The header of an object stream: where its objects begin, and their numbers and offsets. -/
def streamHeader (fields : Fields) (data : Bytes) :
    Except PdfError (Int × List (Int × Int)) :=
  match (fields.get? "N").bind PdfObject.asInt, (fields.get? "First").bind PdfObject.asInt with
  | some _, some first => do
      let numbers ← readInts (data.slice 0 first).split
      let pairs ← zipStrict numbers
      .ok (first, pairs)
  | _, _ => .error (.value "pdf object stream")

/-- The body of `_object_stream`, once the stream was found. -/
def streamObjects (found : PdfObject) : Comp PdfError (List (Int × PdfObject)) :=
  match found with
  | .stream fields data => do
      let (first, pairs) ← Comp.ofExcept (streamHeader fields data)
      readObjects zlib data first pairs
  | _ => Comp.ofExcept (.error (.value "pdf object stream"))

/-- What `_object_stream` does with the object `get` found. -/
def cacheStream (number : Int) : Cached PdfObject → Comp Empty (Cached (List (Int × PdfObject)))
  | (.error e, caches) => pure (.error e, caches)
  | (.ok found, caches) => do
      let objects ← Comp.attempt (streamObjects zlib found)
      match objects with
      | .error e => pure (.error e, caches)
      | .ok objects =>
        pure (.ok objects, { caches with streams := (number, objects) :: caches.streams })

/-- `_object_stream`, with `get`. -/
def objectStream (get : Caches → Int → Comp Empty (Cached PdfObject)) (caches : Caches)
    (number : Int) : Comp Empty (Cached (List (Int × PdfObject))) :=
  match caches.streams.lookup number with
  | some objects => pure (.ok objects, caches)
  | none => do
      let found ← get caches number
      cacheStream zlib number found

/-- What `get` does with the value it found. -/
def cacheObject (caches : Caches) (number : Int) :
    Except PdfError PdfObject → Cached PdfObject
  | .error e => (.error e, caches)
  | .ok object => (.ok object, { caches with objects := (number, object) :: caches.objects })

/-- `self._object_stream(entry.a)[number]`. -/
def pickObject (number : Int) :
    Except PdfError (List (Int × PdfObject)) → Except PdfError PdfObject
  | .error e => .error e
  | .ok objects =>
    match objects.lookup number with
    | some object => .ok object
    | none => .error (.key number)

/-- The body of `get`, over the calls it makes. -/
def getStep (doc : PdfDocument) (get : Caches → Int → Comp Empty (Cached PdfObject))
    (caches : Caches) (number : Int) : Comp Empty (Cached PdfObject) :=
  match caches.objects.lookup number with
  | some object => pure (.ok object, caches)
  | none =>
    match doc.entries.lookup number with
    | none => pure (.error (.object number), caches)
    | some (.compressed stream _) => do
        let (objects, caches) ← objectStream zlib get caches stream
        pure (cacheObject caches number (pickObject number objects))
    | some (.plain offset _) => do
        let found ← Comp.attempt (parseAt zlib doc.pdf offset)
        pure (cacheObject caches number found)

/-- `get`, down to a depth of calls. -/
def getWithin (doc : PdfDocument) : Nat → Caches → Int → Comp Empty (Cached PdfObject)
  | 0, _, _ => Comp.diverge
  | depth + 1, caches, number => getStep zlib doc (getWithin doc depth) caches number

/-- More calls do not change an answer. -/
theorem objectStream_le {get get' : Caches → Int → Comp Empty (Cached PdfObject)}
    (h : ∀ caches number, Comp.Le (get caches number) (get' caches number)) (caches : Caches)
    (number : Int) :
    Comp.Le (objectStream zlib get caches number) (objectStream zlib get' caches number) := by
  unfold objectStream
  cases caches.streams.lookup number with
  | some objects => exact Comp.Le.refl _
  | none => exact Comp.Le.bind (h caches number) (fun _ => Comp.Le.refl _)

theorem getStep_le {get get' : Caches → Int → Comp Empty (Cached PdfObject)}
    (h : ∀ caches number, Comp.Le (get caches number) (get' caches number)) (doc : PdfDocument)
    (caches : Caches) (number : Int) :
    Comp.Le (getStep zlib doc get caches number) (getStep zlib doc get' caches number) := by
  unfold getStep
  cases caches.objects.lookup number with
  | some object => exact Comp.Le.refl _
  | none =>
    cases doc.entries.lookup number with
    | none => exact Comp.Le.refl _
    | some entry =>
      cases entry with
      | plain offset generation => exact Comp.Le.refl _
      | compressed stream index =>
        exact Comp.Le.bind (objectStream_le zlib h caches stream) (fun _ => Comp.Le.refl _)

theorem getWithin_le (doc : PdfDocument) (depth : Nat) (caches : Caches) (number : Int) :
    Comp.Le (getWithin zlib doc depth caches number)
      (getWithin zlib doc (depth + 1) caches number) := by
  induction depth generalizing caches number with
  | zero => exact Comp.Le.diverge _
  | succ depth ih => exact getStep_le zlib ih doc caches number

/-- `get`. -/
def get (doc : PdfDocument) (caches : Caches) (number : Int) : Comp Empty (Cached PdfObject) :=
  Comp.limit (fun depth => getWithin zlib doc depth caches number)
    (fun depth => getWithin_le zlib doc depth caches number)

/-- `deref`, with the number of references it may still follow. -/
def derefWithin (doc : PdfDocument) : Nat → Caches → PdfObject → Comp Empty (Cached PdfObject)
  | 0, caches, .ref _ _ => pure (.error (.value "pdf reference"), caches)
  | hops + 1, caches, .ref number _ => do
      let (found, caches) ← get zlib doc caches number
      match found with
      | .error e => pure (.error e, caches)
      | .ok object => derefWithin doc hops caches object
  | _, caches, object => pure (.ok object, caches)

def deref (doc : PdfDocument) (caches : Caches) (object : PdfObject) :
    Comp Empty (Cached PdfObject) :=
  derefWithin zlib doc 8 caches object

end Streams

end Assets
end MoneyMachine
