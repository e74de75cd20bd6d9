import MoneyMachine.Assets.PdfReader
import MoneyMachine.Library.PngFilter

/-!
# PdfPredictor — the PNG predictor of a stream is inverted

`_unpredict` undoes the filter of each row over the row it has just restored.  One byte is restored
when its neighbours are (`unfilterByte_predict`), a row from left to right, and the rows from top to
bottom.

* `predictor_inverted` : the restored bytes are the rows that were filtered.
-/

namespace MoneyMachine
namespace Assets

open MoneyMachine.Library
open MoneyMachine.Library.PngFilter

/-! ## One byte -/

/-- The code's choice among the three scores is the nearest neighbour. -/
theorem paeth_eq (left up upperLeft : Nat) : paeth left up upperLeft = paethPredictor left up upperLeft := by
  rw [paethPredictor_eq_ite]
  rfl

/-- A byte is restored by adding its prediction. -/
theorem unfilterByte_eq (kind x left up upperLeft : UInt8) :
    unfilterByte kind x left up upperLeft = x + predict kind left up upperLeft := by
  have hsum : ∀ n : Nat, UInt8.ofNat (x.toNat + n) = x + UInt8.ofNat n := by
    intro n
    rw [UInt8.ofNat_add, UInt8.ofNat_toNat]
  unfold unfilterByte predict
  split_ifs
  · rfl
  · rfl
  · exact hsum _
  · rw [paeth_eq]
    exact hsum _
  · rw [UInt8.add_zero]

theorem unfilterByte_predict (kind x left up upperLeft : UInt8) :
    unfilterByte kind (x - predict kind left up upperLeft) left up upperLeft = x := by
  rw [unfilterByte_eq, UInt8.sub_add_cancel]

/-! ## Rows -/

/-- A row is restored from left to right, each byte over the one before it. -/
theorem unfilterRow_filterFrom (kind left upperLeft : UInt8) (row above : Bytes)
    (h : row.length = above.length) :
    unfilterRow kind left upperLeft (filterFrom kind left upperLeft row above) above = row := by
  induction row generalizing left upperLeft above with
  | nil =>
    cases above with
    | nil => rfl
    | cons up ups => cases h
  | cons x xs ih =>
    cases above with
    | nil => cases h
    | cons up ups =>
      rw [filterFrom, unfilterRow]
      simp only [unfilterByte_predict]
      rw [ih x up ups (Nat.succ.inj h)]

theorem unfilterRow_filterRow (kind : UInt8) (row above : Bytes) (h : row.length = above.length) :
    unfilterRow kind 0 0 (filterRow kind above row) above = row := by
  rw [filterRow_eq_from kind above row h]
  exact unfilterRow_filterFrom kind 0 0 row above h

/-- Rows are restored from top to bottom, each over the one above it. -/
theorem unpredictRows_encodeRows {columns : Nat} (above : Bytes) (habove : above.length = columns)
    (rows : List (UInt8 × Bytes)) (hrows : ∀ row ∈ rows, row.2.length = columns) (count : Nat)
    (hcount : rows.length ≤ count) :
    unpredictRows columns count above (encodeRows above rows) = rows.flatMap Prod.snd := by
  induction rows generalizing above count with
  | nil =>
    cases count with
    | zero => rfl
    | succ count => rfl
  | cons row rest ih =>
    rcases row with ⟨kind, row⟩
    have hlength : row.length = columns := hrows (kind, row) (List.mem_cons_self ..)
    cases count with
    | zero => cases hcount
    | succ count =>
      have hfiltered : (filterRow kind above row).length = columns := by
        rw [length_filterRow, hlength]
      have hinside : columns ≤ (filterRow kind above row ++ encodeRows row rest).length := by
        rw [List.length_append]
        omega
      have hrestored := unfilterRow_filterRow kind row above (hlength.trans habove.symm)
      rw [encodeRows, unpredictRows]
      simp only [if_pos hinside]
      rw [List.take_left' hfiltered, List.drop_left' hfiltered, hrestored]
      rw [ih row hlength (fun r hr => hrows r (List.mem_cons_of_mem _ hr)) count
        (Nat.le_of_succ_le_succ hcount)]
      rfl

theorem length_le_encodeRows (above : Bytes) (rows : List (UInt8 × Bytes)) :
    rows.length ≤ (encodeRows above rows).length := by
  induction rows generalizing above with
  | nil => exact Nat.le_refl _
  | cons row rest ih =>
    rcases row with ⟨kind, row⟩
    have hrest := ih row
    simp only [encodeRows, List.length_cons, List.length_append]
    omega

/-! ## The predictor -/

/-- The parameters of a PNG predictor. -/
structure PngParams (fields : Fields) (predictor columns : Int) : Prop where
  predictor : fields.get? "Predictor" = some (.int predictor)
  columns : fields.get? "Columns" = some (.int columns)

/-- Undoing the predictor gives the rows that were filtered, for every width that a `bytearray` has. -/
theorem predictor_inverted (columns : Nat) (rows : List (UInt8 × Bytes)) (fields : Fields)
    (predictor : Int) (hcolumns : 1 ≤ columns) (hsize : (columns : Int) ≤ maxSize)
    (hrows : ∀ row ∈ rows, row.1 ≤ 4 ∧ row.2.length = columns) (hpredictor : 10 ≤ predictor)
    (hparams : PngParams fields predictor columns) :
    unpredict (encodeRows (List.replicate columns 0) rows) (some (.dict fields)) =
      .ok (rows.flatMap Prod.snd) := by
  have hrestored := unpredictRows_encodeRows (List.replicate columns 0) List.length_replicate rows
    (fun row hrow => (hrows row hrow).2) _ (length_le_encodeRows (List.replicate columns 0) rows)
  rw [unpredict]
  simp only [hparams.predictor, hparams.columns, Option.elim_some, PdfObject.asInt]
  rw [if_neg (by omega), if_neg (by omega), if_neg (by omega), Int.toNat_natCast, hrestored]

/-- Two rows of two bytes, the second one by the Paeth filter. -/
theorem predictor_inverted_rows :
    unpredict (encodeRows (List.replicate 2 0) [(1, [7, 250]), (4, [9, 3])])
      (some (.dict [("Predictor".toList, .int 12), ("Columns".toList, .int 2)])) =
        .ok [7, 250, 9, 3] :=
  predictor_inverted 2 [(1, [7, 250]), (4, [9, 3])]
    [("Predictor".toList, .int 12), ("Columns".toList, .int 2)] 12 (by decide) (by decide) (by decide)
    (by decide) ⟨rfl, rfl⟩

/-- No rows of more bytes than a `bytearray` can have: the row above the first one cannot be made. -/
theorem predictor_overflow :
    unpredict (encodeRows (List.replicate (2 ^ 63) 0) [])
      (some (.dict [("Predictor".toList, .int 12), ("Columns".toList, .int (2 ^ 63))])) =
        .error .overflow := by
  have hdata : encodeRows (List.replicate (2 ^ 63) 0) [] = [] := rfl
  rw [hdata]
  decide +kernel

end Assets
end MoneyMachine
