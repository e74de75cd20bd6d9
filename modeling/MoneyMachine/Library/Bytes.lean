import Mathlib.Data.Bool.AllAny
import Mathlib.Data.List.Basic
import Mathlib.Data.List.DropRight

/-!
# Bytes — byte strings as Python reads them

Positions are integers: a negative one counts from the end, and slices clamp instead of failing.
Searching, splitting and reading a decimal number follow the methods of `bytes`.
-/

namespace MoneyMachine
namespace Library

abbrev Bytes := List UInt8

namespace Bytes

/-! ## Positions -/

/-- `data[i]`, unless `i` is out of range. -/
def at? (data : Bytes) (i : Int) : Option UInt8 :=
  if 0 ≤ i then
    data[i.toNat]?
  else if 0 ≤ i + data.length then
    data[(i + data.length).toNat]?
  else
    none

theorem at?_eq_none_of_lt {data : Bytes} {i : Int} (h : i < -data.length) : data.at? i = none := by
  unfold at?
  rw [if_neg (by omega), if_neg (by omega)]

/-- A bound of a slice. -/
def bound (length : Nat) (i : Int) : Nat :=
  if 0 ≤ i then min i.toNat length else (i + length).toNat

/-- `data[first:last]`. -/
def slice (data : Bytes) (first last : Int) : Bytes :=
  (data.take (bound data.length last)).drop (bound data.length first)

/-- `data[first:]`. -/
def sliceFrom (data : Bytes) (first : Int) : Bytes :=
  data.drop (bound data.length first)

/-- Where a search from `start` begins: `start` itself may lie behind the end. -/
def searchStart (length : Nat) (start : Int) : Nat :=
  if 0 ≤ start then start.toNat else (start + length).toNat

/-- `data.startswith(token, start)`. -/
def startsWith (data token : Bytes) (start : Int) : Bool :=
  decide (searchStart data.length start ≤ data.length) &&
    token.isPrefixOf (data.drop (searchStart data.length start))

/-- The first place of the token in the bytes, counted from `k`. -/
def findFrom (token : Bytes) : Bytes → Nat → Option Nat
  | [], k => if token = [] then some k else none
  | b :: rest, k => if token.isPrefixOf (b :: rest) then some k else findFrom token rest (k + 1)

/-- `data.find(token, start)`. -/
def find (data token : Bytes) (start : Int) : Int :=
  let start := searchStart data.length start
  if start ≤ data.length then
    match findFrom token (data.drop start) start with
    | some k => k
    | none => -1
  else
    -1

/-- The last place of the token, counted from `k`. -/
def rfindFrom (token : Bytes) : Bytes → Nat → Option Nat
  | [], k => if token = [] then some k else none
  | b :: rest, k =>
    match rfindFrom token rest (k + 1) with
    | some found => some found
    | none => if token.isPrefixOf (b :: rest) then some k else none

/-- `data.rfind(token)`. -/
def rfind (data token : Bytes) : Int :=
  match rfindFrom token data 0 with
  | some k => k
  | none => -1

/-! ## Words and lines -/

/-- White space of `split()` and `int()`. -/
def isSpace (b : UInt8) : Bool :=
  decide ((9 ≤ b.toNat ∧ b.toNat ≤ 13) ∨ b.toNat = 32)

/-- The words, given the one that was begun. -/
def splitAux : Bytes → Bytes → List Bytes
  | word, [] => if word = [] then [] else [word]
  | word, b :: rest =>
    if isSpace b then
      if word = [] then splitAux [] rest else word :: splitAux [] rest
    else
      splitAux (word ++ [b]) rest

/-- `data.split()`. -/
def split (data : Bytes) : List Bytes :=
  splitAux [] data

/-- The lines, given the one that was begun. -/
def splitLinesAux : Bytes → Bytes → List Bytes
  | line, [] => if line = [] then [] else [line]
  | line, 13 :: 10 :: rest => line :: splitLinesAux [] rest
  | line, b :: rest =>
    if b = 10 ∨ b = 13 then
      line :: splitLinesAux [] rest
    else
      splitLinesAux (line ++ [b]) rest

/-- `data.splitlines()`. -/
def splitLines (data : Bytes) : List Bytes :=
  splitLinesAux [] data

/-! ## Numbers -/

def isDigit (b : UInt8) : Bool :=
  decide (48 ≤ b.toNat ∧ b.toNat ≤ 57)

/-- The value and the number of digits of a text with single underscores between its digits. -/
def digitsAux : Nat → Nat → Bool → Bytes → Option (Nat × Nat)
  | value, count, needsDigit, [] => if needsDigit then none else some (value, count)
  | value, count, needsDigit, b :: rest =>
    if isDigit b then
      digitsAux (10 * value + (b.toNat - 48)) (count + 1) false rest
    else if b = 95 ∧ needsDigit = false then
      digitsAux value count true rest
    else
      none

/-- The most digits `int()` reads. -/
def maxDigits : Nat := 4300

def parseNat (data : Bytes) : Option Nat :=
  match digitsAux 0 0 true data with
  | none => none
  | some (value, count) => if count ≤ maxDigits then some value else none

/-- `int(data)`. -/
def parseInt (data : Bytes) : Option Int :=
  match (data.dropWhile isSpace).rdropWhile isSpace with
  | 43 :: digits => (parseNat digits).map Int.ofNat
  | 45 :: digits => (parseNat digits).map (fun n => -(n : Int))
  | digits => (parseNat digits).map Int.ofNat

example : parseInt [32, 45, 49, 95, 50, 10] = some (-12) := by decide

/-- `int.from_bytes(data, "big")`. -/
def fromBigEndian (data : Bytes) : Nat :=
  data.foldl (fun value b => 256 * value + b.toNat) 0

end Bytes

end Library
end MoneyMachine
