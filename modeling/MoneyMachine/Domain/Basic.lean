import MoneyMachine.Library.Equality
import Mathlib.Data.BitVec
import Mathlib.Data.List.Basic

/-!
# Basic — identifiers and instants

* `Uuid` is a 128-bit identifier with the canonical dashed text `str(uuid)`.
* `Moment` and `Duration` count microseconds, the resolution of `datetime` and `timedelta`; every
  instant of the program is UTC, so a moment is one integer.
-/

namespace MoneyMachine
namespace Domain

/-! ## Identifiers -/

abbrev Uuid := BitVec 128

instance lawfulUuid : LawfulBEq Uuid :=
  inferInstance

def hexDigit (n : Nat) : Char :=
  if n < 10 then Char.ofNat (48 + n) else Char.ofNat (87 + n)

/-- The last `width` hexadecimal digits of `n`, most significant first. -/
def hexDigits : Nat → Nat → List Char
  | 0, _ => []
  | width + 1, n => hexDigits width (n / 16) ++ [hexDigit (n % 16)]

/-- The five dash-separated groups of `str(uuid)`. -/
def uuidChars (u : Uuid) : List Char :=
  hexDigits 8 (u.toNat / 16 ^ 24) ++ '-' :: hexDigits 4 (u.toNat / 16 ^ 20) ++
    '-' :: hexDigits 4 (u.toNat / 16 ^ 16) ++ '-' :: hexDigits 4 (u.toNat / 16 ^ 12) ++
      '-' :: hexDigits 12 u.toNat

/-- `str(uuid)`. -/
def uuidStr (u : Uuid) : String :=
  String.ofList (uuidChars u)

@[simp]
theorem length_hexDigits (width n : Nat) : (hexDigits width n).length = width := by
  induction width generalizing n with
  | zero => rfl
  | succ width ih => simp [hexDigits, ih]

theorem hexDigit_of_mem_hexDigits {width n : Nat} {c : Char} (h : c ∈ hexDigits width n) :
    ∃ m < 16, c = hexDigit m := by
  induction width generalizing n with
  | zero => cases h
  | succ width ih =>
    rcases List.mem_append.mp h with h | h
    · exact ih h
    · exact ⟨n % 16, Nat.mod_lt n (by decide), List.mem_singleton.mp h⟩

theorem hexDigit_injective {m n : Nat} (hm : m < 16) (hn : n < 16) (h : hexDigit m = hexDigit n) :
    m = n := by
  have hall : ∀ m < 16, ∀ n < 16, hexDigit m = hexDigit n → m = n := by decide
  exact hall m hm n hn h

/-- The digits determine the number up to their width. -/
theorem hexDigits_injective {width m n : Nat} (h : hexDigits width m = hexDigits width n) :
    m % 16 ^ width = n % 16 ^ width := by
  induction width generalizing m n with
  | zero => rw [Nat.pow_zero, Nat.mod_one, Nat.mod_one]
  | succ width ih =>
    obtain ⟨hfront, hlast⟩ := List.append_inj h (by simp)
    have hdigit := hexDigit_injective (Nat.mod_lt m (by decide)) (Nat.mod_lt n (by decide))
      (List.cons.inj hlast).1
    rw [Nat.pow_succ', Nat.mod_mul, Nat.mod_mul, ih hfront, hdigit]

theorem uuidChars_injective {u v : Uuid} (h : uuidChars u = uuidChars v) : u = v := by
  have hgroups := h
  simp only [uuidChars, List.append_assoc, List.cons_append] at hgroups
  obtain ⟨ha, hgroups⟩ := List.append_inj hgroups (by simp)
  obtain ⟨hb, hgroups⟩ := List.append_inj (List.cons.inj hgroups).2 (by simp)
  obtain ⟨hc, hgroups⟩ := List.append_inj (List.cons.inj hgroups).2 (by simp)
  obtain ⟨hd, hgroups⟩ := List.append_inj (List.cons.inj hgroups).2 (by simp)
  have he := hexDigits_injective (List.cons.inj hgroups).2
  replace ha := hexDigits_injective ha
  replace hb := hexDigits_injective hb
  replace hc := hexDigits_injective hc
  replace hd := hexDigits_injective hd
  have hu := u.isLt
  have hv := v.isLt
  apply BitVec.eq_of_toNat_eq
  omega

theorem not_mem_uuidChars (u : Uuid) {c : Char} (hdash : c ≠ '-') (hdigit : ∀ m < 16, c ≠ hexDigit m) :
    c ∉ uuidChars u := by
  have hnone : ∀ width n, c ∉ hexDigits width n := by
    intro width n h
    obtain ⟨m, hm, heq⟩ := hexDigit_of_mem_hexDigits h
    exact hdigit m hm heq
  simp [uuidChars, hnone, hdash]

/-- `needle in text.lower()`, for ASCII texts. -/
def mentions (text needle : String) : Bool :=
  decide (needle.toList <:+: text.toList.map Char.toLower)

/-- `text.startswith(start)`. -/
def startsWith (text start : String) : Bool :=
  start.toList.isPrefixOf text.toList

/-! ## Instants -/

/-- A UTC instant, in microseconds since 1970-01-01; `datetime.max` is no limit here. -/
abbrev Moment := Int

/-- A `timedelta`, in microseconds. -/
abbrev Duration := Int

def seconds (n : Int) : Duration := n * 1000000

def minutes (n : Int) : Duration := seconds (60 * n)

/-- Decimal text padded with zeros to `width`. -/
def padded (width : Nat) (n : Int) : String :=
  let digits := toString n.toNat
  String.ofList (List.replicate (width - digits.length) '0') ++ digits

/-- Year, month and day of a day number counted from 1970-01-01, in the Gregorian calendar. -/
def civilFromDays (days : Int) : Int × Int × Int :=
  -- Days are counted from 0000-03-01 so that the leap day closes a year.
  let z := days + 719468
  let era := z / 146097
  let doe := z % 146097
  let yoe := (doe - doe / 1460 + doe / 36524 - doe / 146096) / 365
  let doy := doe - (365 * yoe + yoe / 4 - yoe / 100)
  let mp := (5 * doy + 2) / 153
  let d := doy - (153 * mp + 2) / 5 + 1
  let m := if mp < 10 then mp + 3 else mp - 9
  let y := yoe + era * 400 + (if m ≤ 2 then 1 else 0)
  (y, m, d)

/-- `datetime.isoformat(sep)` of a UTC instant: the fraction is left out when it is zero. -/
def isoformat (sep : String) (t : Moment) : String :=
  let (y, m, d) := civilFromDays (t / 86400000000)
  let rest := t % 86400000000
  let micros := rest % 1000000
  let secs := rest / 1000000
  let fraction := if micros = 0 then "" else "." ++ padded 6 micros
  padded 4 y ++ "-" ++ padded 2 m ++ "-" ++ padded 2 d ++ sep ++
    padded 2 (secs / 3600) ++ ":" ++ padded 2 (secs / 60 % 60) ++ ":" ++ padded 2 (secs % 60) ++
      fraction ++ "+00:00"

end Domain
end MoneyMachine
