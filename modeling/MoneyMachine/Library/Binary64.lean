import Mathlib.Algebra.Order.Field.Rat
import Mathlib.Data.Int.Log
import Mathlib.Data.Rat.Floor
import Mathlib.Tactic.Linarith
import Mathlib.Tactic.NormNum

/-!
# Binary64 — doubles as rational numbers

A rational number is rounded to the nearest double, ties to even, and a double is written with the fewest
decimal digits that are read back as itself.  Overflow is left out: the numbers here are not large.

* `round_mono`     : rounding keeps the order;
* `round_shortest` : what is written is read back;
* `le_shortest`, `shortest_le` : comparisons survive writing.
-/

namespace MoneyMachine
namespace Library
namespace Binary64

/-! ## Integers -/

/-- The nearest integer, ties to even. -/
def halfEven (q : ℚ) : ℤ :=
  if q - ⌊q⌋ < 1 / 2 then ⌊q⌋
  else if 1 / 2 < q - ⌊q⌋ then ⌊q⌋ + 1
  else if ⌊q⌋ % 2 = 0 then ⌊q⌋
  else ⌊q⌋ + 1

theorem halfEven_bounds (q : ℚ) : ⌊q⌋ ≤ halfEven q ∧ halfEven q ≤ ⌊q⌋ + 1 := by
  unfold halfEven
  split_ifs
  · omega
  · omega
  · omega
  · omega

theorem halfEven_intCast (n : ℤ) : halfEven (n : ℚ) = n := by
  unfold halfEven
  rw [Int.floor_intCast, sub_self, if_pos (by norm_num)]

theorem halfEven_mono {p q : ℚ} (h : p ≤ q) : halfEven p ≤ halfEven q := by
  rcases lt_or_eq_of_le (Int.floor_le_floor h) with hlt | heq
  · have hp := (halfEven_bounds p).2
    have hq := (halfEven_bounds q).1
    omega
  · -- In one unit interval the fraction decides, and it is larger for the larger number.
    unfold halfEven
    rw [heq]
    split_ifs
    all_goals first | omega | (exfalso; linarith)

theorem le_halfEven {n : ℤ} {q : ℚ} (h : (n : ℚ) ≤ q) : n ≤ halfEven q := by
  have hmono := halfEven_mono h
  rwa [halfEven_intCast] at hmono

theorem halfEven_le {n : ℤ} {q : ℚ} (h : q ≤ (n : ℚ)) : halfEven q ≤ n := by
  have hmono := halfEven_mono h
  rwa [halfEven_intCast] at hmono

/-! ## Doubles -/

/-- The exponent of the leading bit; below it numbers are subnormal. -/
def exponent (q : ℚ) : ℤ :=
  max (Int.log 2 q) (-1022)

/-- The distance of the doubles around a number. -/
def ulp (q : ℚ) : ℚ :=
  2 ^ (exponent q - 52)

/-- The nearest double. -/
def round (q : ℚ) : ℚ :=
  halfEven (q / ulp q) * ulp q

theorem ulp_pos (q : ℚ) : 0 < ulp q :=
  zpow_pos (by norm_num) _

theorem round_nonneg {q : ℚ} (h : 0 ≤ q) : 0 ≤ round q := by
  have hzero : (0 : ℤ) ≤ halfEven (q / ulp q) := by
    apply le_halfEven
    rw [Int.cast_zero]
    exact div_nonneg h (ulp_pos q).le
  have hcast : (0 : ℚ) ≤ (halfEven (q / ulp q) : ℚ) := by exact_mod_cast hzero
  exact mul_nonneg hcast (ulp_pos q).le

theorem round_nonpos {q : ℚ} (h : q ≤ 0) : round q ≤ 0 := by
  have hzero : halfEven (q / ulp q) ≤ 0 := by
    apply halfEven_le
    rw [Int.cast_zero]
    exact div_nonpos_of_nonpos_of_nonneg h (ulp_pos q).le
  have hcast : (halfEven (q / ulp q) : ℚ) ≤ 0 := by exact_mod_cast hzero
  exact mul_nonpos_of_nonpos_of_nonneg hcast (ulp_pos q).le

/-- A number below a power of two is rounded to at most that power. -/
theorem round_le_pow (q : ℚ) : round q ≤ 2 ^ (exponent q + 1) := by
  have hlog : q < 2 ^ (exponent q + 1) := by
    have hself := Int.lt_zpow_succ_log_self (by decide : 1 < 2) q
    have hle : Int.log 2 q + 1 ≤ exponent q + 1 := by
      unfold exponent
      omega
    have hpow := zpow_le_zpow_right₀ (by norm_num : (1 : ℚ) ≤ 2) hle
    push_cast at hself
    linarith
  have hsplit : (2 : ℚ) ^ (exponent q + 1) = 2 ^ (53 : ℤ) * ulp q := by
    rw [ulp, ← zpow_add₀ (by norm_num)]
    congr 1
    omega
  have hmantissa : halfEven (q / ulp q) ≤ 2 ^ 53 := by
    apply halfEven_le
    rw [div_le_iff₀ (ulp_pos q)]
    rw [hsplit] at hlog
    push_cast
    exact_mod_cast hlog.le
  have hcast : (halfEven (q / ulp q) : ℚ) ≤ 2 ^ (53 : ℤ) := by exact_mod_cast hmantissa
  rw [hsplit, round]
  exact mul_le_mul_of_nonneg_right hcast (ulp_pos q).le

/-- A normal number is rounded to at least the power of two below it. -/
theorem pow_le_round {q : ℚ} (h : 0 < q) (hnormal : exponent q = Int.log 2 q) :
    2 ^ exponent q ≤ round q := by
  have hlog : (2 : ℚ) ^ exponent q ≤ q := by
    rw [hnormal]
    have hself := Int.zpow_log_le_self (by decide : 1 < 2) h
    push_cast at hself
    exact hself
  have hsplit : (2 : ℚ) ^ exponent q = 2 ^ (52 : ℤ) * ulp q := by
    rw [ulp, ← zpow_add₀ (by norm_num)]
    congr 1
    omega
  have hmantissa : 2 ^ 52 ≤ halfEven (q / ulp q) := by
    apply le_halfEven
    rw [le_div_iff₀ (ulp_pos q)]
    rw [hsplit] at hlog
    push_cast
    exact_mod_cast hlog
  have hcast : (2 : ℚ) ^ (52 : ℤ) ≤ (halfEven (q / ulp q) : ℚ) := by exact_mod_cast hmantissa
  rw [hsplit, round]
  exact mul_le_mul_of_nonneg_right hcast (ulp_pos q).le

/-- Rounding keeps the order. -/
theorem round_mono {p q : ℚ} (h : p ≤ q) (hq : 0 ≤ q) : round p ≤ round q := by
  rcases le_or_gt p 0 with hp | hp
  · exact (round_nonpos hp).trans (round_nonneg hq)
  · have hqpos : 0 < q := lt_of_lt_of_le hp h
    have hlog := Int.log_mono_right (b := 2) hp h
    have hexponent : exponent p ≤ exponent q := by
      unfold exponent
      omega
    rcases lt_or_eq_of_le hexponent with hlt | heq
    · -- The power of two between the numbers is between their doubles.
      have hnormal : exponent q = Int.log 2 q := by
        unfold exponent at hlt ⊢
        omega
      have hpow : (2 : ℚ) ^ (exponent p + 1) ≤ 2 ^ exponent q :=
        zpow_le_zpow_right₀ (by norm_num) (by omega)
      calc
        round p ≤ 2 ^ (exponent p + 1) := round_le_pow p
        _ ≤ 2 ^ exponent q := hpow
        _ ≤ round q := pow_le_round hqpos hnormal
    · have hulp : ulp p = ulp q := by
        unfold ulp
        rw [heq]
      have hmantissa : halfEven (p / ulp q) ≤ halfEven (q / ulp q) := by
        apply halfEven_mono
        exact div_le_div_of_nonneg_right h (ulp_pos q).le
      have hcast : (halfEven (p / ulp q) : ℚ) ≤ (halfEven (q / ulp q) : ℚ) := by
        exact_mod_cast hmantissa
      rw [round, round, hulp]
      exact mul_le_mul_of_nonneg_right hcast (ulp_pos q).le

/-- A whole number of units is a double. -/
theorem round_of_units {x : ℚ} {n : ℤ} (h : x = n * ulp x) : round x = x := by
  have hunits : x / ulp x = n := by
    rw [div_eq_iff (ulp_pos x).ne']
    exact h
  rw [round, hunits, halfEven_intCast]
  exact h.symm

/-- Rounding a double changes nothing. -/
theorem round_round {q : ℚ} (hq : 0 ≤ q) : round (round q) = round q := by
  rcases lt_or_eq_of_le (round_nonneg hq) with hpos | hzero
  · rcases le_or_gt (exponent (round q)) (exponent q) with hle | hlt
    · -- The units of the double are not larger than those of the number.
      apply round_of_units (n := halfEven (q / ulp q) * 2 ^ (exponent q - exponent (round q)).toNat)
      have hpow : ulp q = (2 : ℚ) ^ (exponent q - exponent (round q)).toNat * ulp (round q) := by
        rw [ulp, ulp, ← zpow_natCast, ← zpow_add₀ (by norm_num), Int.toNat_of_nonneg (by omega)]
        congr 1
        omega
      calc
        round q = halfEven (q / ulp q) * ulp q := rfl
        _ = halfEven (q / ulp q) * ((2 : ℚ) ^ (exponent q - exponent (round q)).toNat *
              ulp (round q)) := congrArg (_ * ·) hpow
        _ = _ := by
              push_cast
              ring
    · -- The number was rounded up to the next power of two.
      have hpow : (2 : ℚ) ^ exponent (round q) ≤ round q := by
        have hnormal : exponent (round q) = Int.log 2 (round q) := by
          unfold exponent at hlt ⊢
          omega
        rw [hnormal]
        have hself := Int.zpow_log_le_self (by decide : 1 < 2) hpos
        push_cast at hself
        exact hself
      have hstep : (2 : ℚ) ^ (exponent q + 1) ≤ 2 ^ exponent (round q) :=
        zpow_le_zpow_right₀ (by norm_num) (by omega)
      have heq : round q = 2 ^ exponent (round q) :=
        le_antisymm ((round_le_pow q).trans hstep) hpow
      have hunits : (2 : ℚ) ^ exponent (round q) = 2 ^ (52 : ℤ) * ulp (round q) := by
        rw [ulp, ← zpow_add₀ (by norm_num)]
        congr 1
        omega
      apply round_of_units (n := 2 ^ 52)
      calc
        round q = 2 ^ exponent (round q) := heq
        _ = 2 ^ (52 : ℤ) * ulp (round q) := hunits
        _ = ((2 ^ 52 : ℤ) : ℚ) * ulp (round q) := by norm_num
  · apply round_of_units (n := 0)
    rw [← hzero, Int.cast_zero, zero_mul]

/-! ## Written doubles -/

/-- The nearest decimal with so many significant digits. -/
def nearestDecimal (digits : Nat) (x : ℚ) : ℚ :=
  let unit : ℚ := 10 ^ (Int.log 10 x + 1 - digits)
  halfEven (x / unit) * unit

/-- The number that `repr` writes: with the fewest digits that are read back; seventeen are enough. -/
def shortest (x : ℚ) : ℚ :=
  (((List.range 17).map (fun k => nearestDecimal (k + 1) x)).find?
    (fun d => decide (round d = x))).getD x

/-- What is written is read back. -/
theorem round_shortest {x : ℚ} (h : round x = x) : round (shortest x) = x := by
  unfold shortest
  cases hfind : ((List.range 17).map (fun k => nearestDecimal (k + 1) x)).find?
      (fun d => decide (round d = x)) with
  | none => exact h
  | some d =>
    have hd := List.find?_some hfind
    exact of_decide_eq_true hd

/-- A double that is not below a written one is not written below it. -/
theorem le_shortest {x d : ℚ} (hx : round x = x) (hd : shortest (round d) = d) (hpos : 0 ≤ d)
    (h : round d ≤ x) : d ≤ shortest x := by
  by_contra hlt
  rw [not_le] at hlt
  have hread := round_mono hlt.le hpos
  rw [round_shortest hx] at hread
  have heq : x = round d := le_antisymm hread h
  rw [heq, hd] at hlt
  exact lt_irrefl d hlt

/-- A double that is not above a written one is not written above it. -/
theorem shortest_le {x d : ℚ} (hx : round x = x) (hd : shortest (round d) = d) (hpos : 0 ≤ d)
    (h : x ≤ round d) : shortest x ≤ d := by
  by_contra hlt
  rw [not_le] at hlt
  have hread := round_mono hlt.le (hpos.trans hlt.le)
  rw [round_shortest hx] at hread
  have heq : x = round d := le_antisymm h hread
  rw [heq, hd] at hlt
  exact lt_irrefl d hlt

example : round (7 / 10) = 6305039478318694 / 9007199254740992 := by decide +kernel

example : shortest (round (7 / 10)) = 7 / 10 := by decide +kernel

end Binary64
end Library
end MoneyMachine
