import Mathlib.Data.Bool.AllAny
import Mathlib.Data.List.Basic

/-!
# Ascii — characters below 128

A statement about ASCII characters is checked character by character, and lowering a character neither
brings it into ASCII nor takes it out.

* `ascii_cases`      : what holds of the first 128 characters holds of every ASCII character;
* `ascii_of_toLower` : a character whose lower case is ASCII is ASCII itself.
-/

namespace MoneyMachine
namespace Library

/-- A property of ASCII characters, checked one by one. -/
theorem ascii_cases {p : Char → Bool} (h : ∀ n < 128, p (Char.ofNat n) = true) {c : Char}
    (hc : c.toNat < 128) : p c = true := by
  have hself := h c.toNat hc
  rwa [Char.ofNat_toNat] at hself

theorem isUpper_eq (c : Char) : c.isUpper = decide (c.val ≥ 'A'.val ∧ c.val ≤ 'Z'.val) :=
  rfl

theorem isLower_eq (c : Char) : c.isLower = (decide (c.val ≥ 'a'.val) && decide (c.val ≤ 'z'.val)) :=
  rfl

theorem isAlpha_eq (c : Char) : c.isAlpha = (c.isUpper || c.isLower) :=
  rfl

theorem toLower_of_not_ascii {c : Char} (h : ¬ c.toNat < 128) : c.toLower = c := by
  unfold Char.toLower
  rw [dif_neg]
  intro hupper
  have hle : c.val ≤ 90 := hupper.2
  have hnat : c.toNat ≤ 90 := UInt32.le_iff_toNat_le.mp hle
  omega

theorem ascii_of_toLower {c : Char} (h : c.toLower.toNat < 128) : c.toNat < 128 := by
  by_contra hc
  rw [toLower_of_not_ascii hc] at h
  exact hc h

/-- Lowering a character twice is lowering it once. -/
theorem toLower_toLower (c : Char) : c.toLower.toLower = c.toLower := by
  by_cases hc : c.toNat < 128
  · have hall : decide (c.toLower.toLower = c.toLower) = true :=
      ascii_cases (p := fun c => decide (c.toLower.toLower = c.toLower)) (by decide) hc
    exact of_decide_eq_true hall
  · rw [toLower_of_not_ascii hc, toLower_of_not_ascii hc]

/-- A visible character of ASCII: no control character and no space. -/
def Visible (c : Char) : Prop :=
  0x21 ≤ c.toNat ∧ c.toNat ≤ 0x7E

instance (c : Char) : Decidable (Visible c) :=
  inferInstanceAs (Decidable (_ ∧ _))

theorem Visible.ascii {c : Char} (h : Visible c) : c.toNat < 128 := by
  have hhigh := h.2
  omega

/-- A visible character stays visible in lower case, and a mark stays what it is. -/
theorem Visible.toLower {c : Char} (h : Visible c) :
    Visible c.toLower ∧ (c.toLower.isAlphanum = false → c.toLower = c) := by
  have hall : (!decide (Visible c) || (decide (Visible c.toLower) &&
      (c.toLower.isAlphanum || decide (c.toLower = c)))) = true :=
    ascii_cases (p := fun c => !decide (Visible c) || (decide (Visible c.toLower) &&
      (c.toLower.isAlphanum || decide (c.toLower = c)))) (by decide) h.ascii
  rw [decide_eq_true h] at hall
  simp only [Bool.not_true, Bool.false_or, Bool.and_eq_true, Bool.or_eq_true, decide_eq_true_eq] at hall
  refine ⟨hall.1, ?_⟩
  intro hmark
  rw [hmark] at hall
  simpa using hall.2

end Library
end MoneyMachine
