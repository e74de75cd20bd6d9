import MoneyMachine.Library.Bytes
import Mathlib.Data.List.GetD

/-!
# Base64 — bytes as letters

Three bytes are four digits of six bits each; a shorter rest is filled up with `=`.

* `encode`      : `base64.b64encode`;
* `mem_encode`  : what it writes are the digits and `=`;
* `length_le_length_encode` : it writes at least one character a byte.
-/

namespace MoneyMachine
namespace Library
namespace Base64

def alphabet : List Char :=
  "ABCDEFGHIJKLMNOPQRSTUVWXYZabcdefghijklmnopqrstuvwxyz0123456789+/".toList

/-- The lowest six bits of a number. -/
def digit (n : Nat) : Char := alphabet.getD (n % 64) 'A'

/-- `base64.b64encode(data)`, as text. -/
def encode : Bytes → List Char
  | a :: b :: c :: rest =>
    let n := a.toNat * 65536 + b.toNat * 256 + c.toNat
    [digit (n / 262144), digit (n / 4096), digit (n / 64), digit n] ++ encode rest
  | [a, b] =>
    let n := a.toNat * 65536 + b.toNat * 256
    [digit (n / 262144), digit (n / 4096), digit (n / 64), '=']
  | [a] =>
    let n := a.toNat * 65536
    [digit (n / 262144), digit (n / 4096), '=', '=']
  | [] => []

example : encode [77, 97, 110, 77] = "TWFuTQ==".toList := by decide

theorem digit_mem (n : Nat) : digit n ∈ alphabet := by
  have hlength : n % 64 < alphabet.length := Nat.mod_lt n (by decide)
  rw [digit, List.getD_eq_getElem _ _ hlength]
  exact List.getElem_mem hlength

theorem mem_encode {data : Bytes} {c : Char} (h : c ∈ encode data) : c ∈ '=' :: alphabet := by
  fun_induction encode data with
  | case1 a b e rest n ih =>
    rcases List.mem_append.mp h with hfirst | hrest
    · simp only [List.mem_cons, List.not_mem_nil, or_false] at hfirst
      rcases hfirst with rfl | rfl | rfl | rfl <;> exact List.mem_cons_of_mem _ (digit_mem _)
    · exact ih hrest
  | case2 a b n =>
    simp only [List.mem_cons, List.not_mem_nil, or_false] at h
    rcases h with rfl | rfl | rfl | rfl
    · exact List.mem_cons_of_mem _ (digit_mem _)
    · exact List.mem_cons_of_mem _ (digit_mem _)
    · exact List.mem_cons_of_mem _ (digit_mem _)
    · exact List.mem_cons_self
  | case3 a n =>
    simp only [List.mem_cons, List.not_mem_nil, or_false] at h
    rcases h with rfl | rfl | rfl | rfl
    · exact List.mem_cons_of_mem _ (digit_mem _)
    · exact List.mem_cons_of_mem _ (digit_mem _)
    · exact List.mem_cons_self
    · exact List.mem_cons_self
  | case4 => exact absurd h List.not_mem_nil

theorem length_le_length_encode (data : Bytes) : data.length ≤ (encode data).length := by
  fun_induction encode data with
  | case1 a b e rest n ih =>
    simp only [List.length_append, List.length_cons, List.length_nil]
    omega
  | case2 a b n => simp
  | case3 a n => simp
  | case4 => exact Nat.le_refl 0

end Base64
end Library
end MoneyMachine
