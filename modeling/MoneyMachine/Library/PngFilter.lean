import Mathlib.Data.List.GetD
import Mathlib.Data.List.Range
import Mathlib.Tactic

/-!
# PngFilter — the row filters of a PNG image

A row of bytes is written as a filter type and, for each byte, its difference from a prediction: from
the byte to the left, the byte above and the byte above to the left, all of them unfiltered.

* `predict`    : the prediction of one byte, for the filter types None, Sub, Up, Average and Paeth;
* `filterRow`  : a row against the row above it, by positions;
* `encodeRows` : rows one below the other, each behind its filter type;
* `filterRow_eq_from` : the same row from left to right;
* `paethPredictor_eq_ite` : the nearest neighbour as a chain of comparisons;
* `filterPixels`, `encodePixelRows` : rows whose pixels have several bytes.
-/

namespace MoneyMachine
namespace Library
namespace PngFilter

/-- The neighbour that is nearest to `left + up - upperLeft`; of equally near ones the first, in this
order. -/
def paethPredictor (left up upperLeft : Nat) : Nat :=
  let distance (x : Nat) : Nat := ((left : Int) + up - upperLeft - x).natAbs
  ([left, up, upperLeft].find? (fun x =>
    decide (∀ y ∈ [left, up, upperLeft], distance x ≤ distance y))).getD 0

/-- The prediction of a byte from its neighbours. -/
def predict (kind left up upperLeft : UInt8) : UInt8 :=
  if kind = 1 then
    left
  else if kind = 2 then
    up
  else if kind = 3 then
    UInt8.ofNat ((left.toNat + up.toNat) / 2)
  else if kind = 4 then
    UInt8.ofNat (paethPredictor left.toNat up.toNat upperLeft.toNat)
  else
    0

/-- The byte at a position; left of the row there is a zero. -/
def byteBefore (row : List UInt8) (i : Nat) : UInt8 :=
  if i = 0 then 0 else row.getD (i - 1) 0

/-- A row against the row above it. -/
def filterRow (kind : UInt8) (above row : List UInt8) : List UInt8 :=
  (List.range row.length).map (fun i =>
    row.getD i 0 - predict kind (byteBefore row i) (above.getD i 0) (byteBefore above i))

/-- Rows one below the other, each behind its filter type. -/
def encodeRows : List UInt8 → List (UInt8 × List UInt8) → List UInt8
  | _, [] => []
  | above, (kind, row) :: rest => kind :: (filterRow kind above row ++ encodeRows row rest)

/-- A row from left to right, behind two bytes. -/
def filterFrom (kind left upperLeft : UInt8) : List UInt8 → List UInt8 → List UInt8
  | x :: xs, up :: ups => (x - predict kind left up upperLeft) :: filterFrom kind x up xs ups
  | _, _ => []

theorem length_filterRow (kind : UInt8) (above row : List UInt8) :
    (filterRow kind above row).length = row.length := by
  simp [filterRow]

/-- The positions of a row, counted behind two bytes. -/
theorem filterFrom_eq (kind left upperLeft : UInt8) (row above : List UInt8)
    (h : row.length = above.length) :
    filterFrom kind left upperLeft row above =
      (List.range row.length).map (fun i =>
        row.getD i 0 - predict kind ((left :: row).getD i 0) (above.getD i 0)
          ((upperLeft :: above).getD i 0)) := by
  induction row generalizing left upperLeft above with
  | nil => rfl
  | cons x xs ih =>
    cases above with
    | nil => cases h
    | cons up ups =>
      rw [filterFrom, ih x up ups (Nat.succ.inj h), List.length_cons, List.range_succ_eq_map,
        List.map_cons, List.map_map]
      rfl

theorem byteBefore_eq (row : List UInt8) (i : Nat) : byteBefore row i = ((0 : UInt8) :: row).getD i 0 := by
  cases i with
  | zero => rfl
  | succ i => simp [byteBefore]

/-- A row by positions is the row from left to right. -/
theorem filterRow_eq_from (kind : UInt8) (above row : List UInt8) (h : row.length = above.length) :
    filterRow kind above row = filterFrom kind 0 0 row above := by
  rw [filterFrom_eq kind 0 0 row above h, filterRow]
  apply List.map_congr_left
  intro i _
  rw [byteBefore_eq, byteBefore_eq]

/-- Whether `x` is as near to the estimate as `y`. -/
abbrev nearer (left up upperLeft x y : Nat) : Prop :=
  ((left : Int) + up - upperLeft - x).natAbs ≤ ((left : Int) + up - upperLeft - y).natAbs

/-- The nearest neighbour by comparisons: the left one if it is as near as both others, else the upper one
if it is as near as the last. -/
theorem paethPredictor_eq_ite (left up upperLeft : Nat) :
    paethPredictor left up upperLeft =
      if nearer left up upperLeft left up ∧ nearer left up upperLeft left upperLeft then left
      else if nearer left up upperLeft up upperLeft then up
      else upperLeft := by
  unfold paethPredictor nearer
  simp only [List.mem_cons, List.not_mem_nil, or_false, forall_eq_or_imp, forall_eq]
  split
  · rename_i hleft
    rw [List.find?_cons_of_pos (by simpa using hleft)]
    rfl
  · rename_i hleft
    rw [List.find?_cons_of_neg (by simpa using hleft)]
    split
    · rename_i hup
      have hnear : ((left : Int) + up - upperLeft - up).natAbs ≤
          ((left : Int) + up - upperLeft - left).natAbs := by omega
      rw [List.find?_cons_of_pos (by simpa using ⟨hnear, hup⟩)]
      rfl
    · rename_i hup
      have hnear : ((left : Int) + up - upperLeft - upperLeft).natAbs ≤
          ((left : Int) + up - upperLeft - left).natAbs ∧
            ((left : Int) + up - upperLeft - upperLeft).natAbs ≤
              ((left : Int) + up - upperLeft - up).natAbs := by omega
      have hfar : ¬ (((left : Int) + up - upperLeft - up).natAbs ≤
          ((left : Int) + up - upperLeft - left).natAbs ∧
            ((left : Int) + up - upperLeft - up).natAbs ≤
              ((left : Int) + up - upperLeft - upperLeft).natAbs) := fun h => hup h.2
      rw [List.find?_cons_of_neg (by simpa using hfar), List.find?_cons_of_pos (by simpa using hnear)]
      rfl

/-! ## Pixels of several bytes -/

/-- The byte at the same place of the pixel to the left; left of the row there are zeros. -/
def pixelBefore (size : Nat) (row : List UInt8) (i : Nat) : UInt8 :=
  if i < size then 0 else row.getD (i - size) 0

/-- A row of pixels of `size` bytes against the row above it. -/
def filterPixels (size : Nat) (kind : UInt8) (above row : List UInt8) : List UInt8 :=
  (List.range row.length).map (fun i =>
    row.getD i 0 - predict kind (pixelBefore size row i) (above.getD i 0) (pixelBefore size above i))

/-- Rows of pixels one below the other, each behind its filter type. -/
def encodePixelRows (size : Nat) : List UInt8 → List (UInt8 × List UInt8) → List UInt8
  | _, [] => []
  | above, (kind, row) :: rest => kind :: (filterPixels size kind above row ++ encodePixelRows size row rest)

@[simp]
theorem length_filterPixels (size : Nat) (kind : UInt8) (above row : List UInt8) :
    (filterPixels size kind above row).length = row.length := by
  simp [filterPixels]

theorem getD_filterPixels {size : Nat} {kind : UInt8} {above row : List UInt8} {i : Nat}
    (h : i < row.length) : (filterPixels size kind above row).getD i 0 =
      row.getD i 0 - predict kind (pixelBefore size row i) (above.getD i 0) (pixelBefore size above i) := by
  have hi : i < (filterPixels size kind above row).length := by rwa [length_filterPixels]
  rw [List.getD_eq_getElem _ _ hi]
  simp only [filterPixels, List.getElem_map, List.getElem_range]

/-- Rows of one length take one byte more each. -/
theorem length_encodePixelRows {size stride : Nat} (above : List UInt8) (rows : List (UInt8 × List UInt8))
    (hrows : ∀ row ∈ rows, row.2.length = stride) :
    (encodePixelRows size above rows).length = rows.length * (stride + 1) := by
  induction rows generalizing above with
  | nil => simp [encodePixelRows]
  | cons row rest ih =>
    rcases row with ⟨kind, row⟩
    have hrow : row.length = stride := hrows (kind, row) List.mem_cons_self
    have hrest := ih row (fun other hother => hrows other (List.mem_cons_of_mem _ hother))
    rw [encodePixelRows, List.length_cons, List.length_append, length_filterPixels, hrest, hrow,
      List.length_cons]
    ring

end PngFilter
end Library
end MoneyMachine
