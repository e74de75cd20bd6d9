import MoneyMachine.Observability.Receipts
import Mathlib.Data.List.Nodup
import Mathlib.Algebra.Group.Nat.Defs

/-!
# ReceiptLog — what a crash leaves in the log

The file always holds complete lines and a tail: nothing, a whole line without its newline, or a proper
cut of one.  The loader and the repair agree on which of the three it is, because no proper cut of an
object is JSON.

* `receipt_log_survives` : over all runs, with a crash at any byte.
-/

namespace MoneyMachine
namespace Observability

open MoneyMachine.Library
open MoneyMachine.Library.Json

/-! ## Timestamps -/

theorem padded_length (width n : Nat) : (padded width n).length = width := by
  induction width generalizing n with
  | zero => rfl
  | succ width ih => simp [padded, ih]

theorem isDigit_digitChar {d : Nat} (h : d < 10) : (Nat.digitChar d).isDigit = true := by
  revert d
  decide

theorem padded_digits (width n : Nat) : (padded width n).all Char.isDigit = true := by
  induction width generalizing n with
  | zero => rfl
  | succ width ih =>
    simp [padded, ih, isDigit_digitChar (Nat.mod_lt n (by decide : 0 < 10))]

theorem ofDigitChars_padded {width n : Nat} (h : n < 10 ^ width) :
    Nat.ofDigitChars 10 (padded width n) 0 = n := by
  induction width generalizing n with
  | zero =>
    have hn : n = 0 := by simpa using h
    simp [padded, hn]
  | succ width ih =>
    have hlt : n / 10 < 10 ^ width := by
      rw [Nat.pow_succ] at h
      omega
    rw [padded, Nat.ofDigitChars_append, ih hlt,
      Nat.ofDigitChars_cons_digitChar_of_lt_ten (Nat.mod_lt n (by decide)), Nat.ofDigitChars_nil]
    omega

/-- A number written with its width is read back. -/
theorem takeNumber_padded {width n : Nat} (h : n < 10 ^ width) (rest : List Char) :
    takeNumber width (padded width n ++ rest) = some (n, rest) := by
  have htake : (padded width n ++ rest).take width = padded width n := by
    rw [List.take_append_of_le_length (by rw [padded_length]), List.take_of_length_le
      (by rw [padded_length])]
  have hdrop : (padded width n ++ rest).drop width = rest := by
    rw [List.drop_append_of_le_length (by rw [padded_length]), List.drop_of_length_le
      (by rw [padded_length]), List.nil_append]
  rw [takeNumber, if_pos, htake, hdrop, ofDigitChars_padded h]
  rw [htake, List.length_append, padded_length]
  exact ⟨Nat.le_add_right _ _, padded_digits width n⟩

@[simp] theorem takeChar_self (c : Char) (rest : List Char) : takeChar c (c :: rest) = some rest := by
  simp [takeChar]

/-- A fraction is read back where no point follows it. -/
theorem takeFraction_text {micros : Nat} (h : micros < 1000000) {rest : List Char}
    (hrest : takeChar '.' rest = none) :
    takeFraction (fractionText micros ++ rest) = some (micros, rest) := by
  unfold fractionText
  split_ifs with hzero
  · simp [takeFraction, hrest, hzero]
  · simp [takeFraction, takeNumber_padded (show micros < 10 ^ 6 from h)]

theorem takeSeconds_text (offset : Nat) :
    takeSeconds (if offset % 60000000 = 0 then []
        else ':' :: (padded 2 (offset / 1000000 % 60) ++ fractionText (offset % 1000000))) =
      some (offset % 60000000, []) := by
  split_ifs with hzero
  · simp [takeSeconds, takeChar, hzero]
  · have hseconds : offset / 1000000 % 60 < 10 ^ 2 := by omega
    have hfraction := takeFraction_text (show offset % 1000000 < 1000000 by omega)
      (show takeChar '.' [] = none from rfl)
    rw [List.append_nil] at hfraction
    simp [takeSeconds, takeNumber_padded hseconds, hfraction]
    omega

theorem takeOffset_text (negative : Bool) {offset : Nat} (h : offset < 86400000000) :
    takeOffset (offsetText negative offset) = some (negative, offset, []) := by
  have hhours : offset / 3600000000 < 10 ^ 2 := by omega
  have hminutes : offset / 60000000 % 60 < 10 ^ 2 := by omega
  have hsign : ∀ rest, takeSign ((if negative then '-' else '+') :: rest) =
      some (negative, rest) := by
    intro rest
    cases negative <;> rfl
  unfold offsetText takeOffset
  simp only [List.append_assoc, List.cons_append, hsign, Option.bind_eq_bind, Option.bind_some,
    takeNumber_padded hhours, takeChar_self, takeNumber_padded hminutes, takeSeconds_text]
  have htotal : offset / 3600000000 * 3600000000 + offset / 60000000 % 60 * 60000000 +
      offset % 60000000 = offset := by omega
  rw [htotal]

/-- A timestamp that was written is read back. -/
theorem fromisoformat_isoformat (t : Datetime) : fromisoformat (isoformat t) = some t := by
  have hpoint : takeChar '.' (offsetText t.negative t.offset) = none := by
    unfold offsetText
    cases t.negative <;> rfl
  have hfields : Datetime.make t.year t.month t.day t.hour t.minute t.second t.microsecond
      t.negative t.offset = some t := by
    have hsign : (t.negative && decide (t.offset.val ≠ 0)) = t.negative := by
      cases hnegative : t.negative with
      | false => rfl
      | true => simpa using t.signed hnegative
    rw [Datetime.make, dif_pos ⟨t.year.isLt, t.month.isLt, t.day.isLt, t.hour.isLt, t.minute.isLt,
      t.second.isLt, t.microsecond.isLt, t.offset.isLt, t.date⟩]
    simp only [hsign]
  have hyear := takeNumber_padded (show t.year.val < 10 ^ 4 from t.year.isLt)
  have htwo : ∀ {n : Nat}, n < 100 → ∀ rest, takeNumber 2 (padded 2 n ++ rest) = some (n, rest) :=
    fun h => takeNumber_padded h
  have hmonth := htwo (Nat.lt_trans t.month.isLt (by decide))
  have hday := htwo (Nat.lt_trans t.day.isLt (by decide))
  have hhour := htwo (Nat.lt_trans t.hour.isLt (by decide))
  have hminute := htwo (Nat.lt_trans t.minute.isLt (by decide))
  have hsecond := htwo (Nat.lt_trans t.second.isLt (by decide))
  have hfraction := takeFraction_text t.microsecond.isLt hpoint
  have hoffset := takeOffset_text t.negative t.offset.isLt
  unfold fromisoformat isoformat
  simp only [List.append_assoc, List.cons_append, bind, Option.bind, hyear, takeChar_self, hmonth,
    hday, hhour, hminute, hsecond, hfraction, hoffset, if_true]
  exact hfields

/-! ## Payloads -/

theorem textChars_ofChar (text : List Char) : textChars (text.map CodePoint.ofChar) = some text := by
  induction text with
  | nil => rfl
  | cons c text ih =>
    have hvalid : (CodePoint.ofChar c).val.isValidChar := c.valid
    have hchar : Char.ofNat (CodePoint.ofChar c).val = c := Char.ofNat_toNat c
    rw [List.map_cons, textChars, if_pos hvalid, ih, hchar]
    rfl

/-- The payload of a receipt, in the order of its names. -/
theorem jsonPayload_eq (r : ReceiptFields) :
    jsonPayload r =
      [(lit "evidence", .str r.evidence),
        (lit "idempotency_key", .str r.idempotencyKey),
        (lit "job_id", .str r.jobId),
        (lit "operation", .str r.operation),
        (lit "post_state", .obj r.postState),
        (lit "pre_state", match r.preState with | none => .null | some members => .obj members),
        (lit "provider_response", .obj r.providerResponse),
        (lit "status", .str r.status.text),
        (lit "target", .str r.target),
        (lit "timestamp", .str ((isoformat r.timestamp).map CodePoint.ofChar)),
        (lit "workspace", .str r.workspace)] := by
  rfl

theorem statusField_text {payload : List (Text × Value)} {status : ReceiptStatus}
    (h : payload.lookup (lit "status") = some (.str status.text)) :
    statusField payload = .ok status := by
  have htext : textField payload "status" = .ok status.text := by
    rw [textField, h]
  unfold statusField
  rw [htext]
  cases status with
  | success => rfl
  | unknown => rfl
  | failure => rfl

theorem timestampField_isoformat (t : Datetime) :
    timestampField ((isoformat t).map CodePoint.ofChar) = .ok t := by
  rw [timestampField, textChars_ofChar, Option.bind_some, fromisoformat_isoformat]

theorem lookup_jsonPayload {r : ReceiptFields} {name : Text} {value : Value} {i : Nat}
    (h : (jsonPayload r)[i]? = some (name, value)) : (jsonPayload r).lookup name = some value :=
  lookup_of_mem (sortedNames_ofPairs _) (List.mem_of_getElem? h)

theorem textField_of_getElem {r : ReceiptFields} {key : String} {t : Text} {i : Nat}
    (h : (jsonPayload r)[i]? = some (lit key, .str t)) : textField (jsonPayload r) key = .ok t := by
  rw [textField, lookup_jsonPayload h]

theorem mappingField_of_getElem {r : ReceiptFields} {key : String} {members : List (Text × Value)}
    {i : Nat} (h : (jsonPayload r)[i]? = some (lit key, .obj members)) :
    mappingField (jsonPayload r) key = .ok members := by
  rw [mappingField, lookup_jsonPayload h]

/-- The fields of a receipt come back from its payload. -/
theorem fieldsFromPayload_jsonPayload (r : ReceiptFields) :
    fieldsFromPayload (.obj (jsonPayload r)) = .ok r := by
  -- The members, by their places in the sorted payload.
  have hget := fun i : Nat => congrArg (fun l : List (Text × Value) => l[i]?) (jsonPayload_eq r)
  have hevidence : textField (jsonPayload r) "evidence" = .ok r.evidence :=
    textField_of_getElem (hget 0)
  have hkey : textField (jsonPayload r) "idempotency_key" = .ok r.idempotencyKey :=
    textField_of_getElem (hget 1)
  have hjob : textField (jsonPayload r) "job_id" = .ok r.jobId :=
    textField_of_getElem (hget 2)
  have hoperation : textField (jsonPayload r) "operation" = .ok r.operation :=
    textField_of_getElem (hget 3)
  have hpost : mappingField (jsonPayload r) "post_state" = .ok r.postState :=
    mappingField_of_getElem (hget 4)
  have hpre : preStateField (jsonPayload r) = .ok r.preState := by
    have hlookup : (jsonPayload r).lookup (lit "pre_state") =
        some (match r.preState with | none => .null | some members => .obj members) :=
      lookup_jsonPayload (hget 5)
    rw [preStateField, hlookup]
    cases r.preState with
    | none => rfl
    | some members => rfl
  have hprovider : mappingField (jsonPayload r) "provider_response" = .ok r.providerResponse :=
    mappingField_of_getElem (hget 6)
  have hstatus : statusField (jsonPayload r) = .ok r.status :=
    statusField_text (lookup_jsonPayload (hget 7))
  have htarget : textField (jsonPayload r) "target" = .ok r.target :=
    textField_of_getElem (hget 8)
  have htimestamp : timestampText (jsonPayload r) =
      .ok ((isoformat r.timestamp).map CodePoint.ofChar) := by
    rw [timestampText, lookup_jsonPayload (hget 9)]
  have hworkspace : textField (jsonPayload r) "workspace" = .ok r.workspace :=
    textField_of_getElem (hget 10)
  unfold fieldsFromPayload
  simp only [bind, Except.bind, htimestamp, hpre, hjob, hoperation, hworkspace, htarget, hpost,
    hprovider, hevidence, timestampField_isoformat, hkey, hstatus]

/-- A receipt that a log can read back: it is one, and none of its texts holds a high surrogate directly
before a low one. -/
structure Recordable (r : ReceiptFields) : Prop where
  sorted : (Value.obj (jsonPayload r)).Sorted
  checked : postInit r = .ok ()
  unpaired : (Value.obj (jsonPayload r)).Unpaired

theorem receiptFromPayload_jsonPayload {r : ReceiptFields} (h : Recordable r) :
    receiptFromPayload (.obj (jsonPayload r)) = .ok r := by
  unfold receiptFromPayload
  rw [fieldsFromPayload_jsonPayload]
  show (postInit r >>= fun _ => (Except.ok r : Except ReceiptError ReceiptFields)) = .ok r
  rw [h.checked]
  rfl

theorem loads_lineOf {r : ReceiptFields} (h : Recordable r) :
    loads (lineOf r) = some (.obj (jsonPayload r)) :=
  loads_dumps h.sorted h.unpaired

/-- No proper cut of a line is JSON. -/
theorem loads_lineOf_cut {r : ReceiptFields} (h : Recordable r) {tail more : List Char}
    (hline : lineOf r = tail ++ more) (hmore : more ≠ []) : loads tail = none :=
  loads_cut h.sorted h.unpaired hline hmore

theorem lineOf_printable (r : ReceiptFields) : Printable (lineOf r) :=
  dumps_printable .spaced _

theorem lineOf_cons (r : ReceiptFields) : ∃ text, lineOf r = '{' :: text := by
  unfold lineOf
  rw [jsonPayload_eq]
  exact ⟨_, rfl⟩

/-! ## Files -/

theorem utf8Decode_asciiBytes {text : List Char} (h : ∀ c ∈ text, c.toNat < 0x80) :
    utf8Decode (asciiBytes text) = some text := by
  induction text with
  | nil => rfl
  | cons c text ih =>
    have hc := h c (List.mem_cons_self ..)
    have hbyte : c.toNat.toUInt8.toNat = c.toNat := by
      simp
      omega
    have hrest := ih (fun d hd => h d (List.mem_cons_of_mem _ hd))
    rw [asciiBytes, List.map_cons, utf8Decode.eq_def]
    simp only [hbyte, if_pos hc, Char.ofNat_toNat]
    rw [show text.map (fun c => c.toNat.toUInt8) = asciiBytes text from rfl, hrest]
    rfl

theorem ascii_of_printable {text : List Char} (h : Printable text) :
    ∀ c ∈ text, c.toNat < 0x80 :=
  fun c hc => Nat.lt_of_le_of_lt (h c hc).2 (by decide)

theorem no_newline_of_printable {text : List Char} (h : Printable text) :
    newline ∉ asciiBytes text := by
  intro hmem
  rcases List.mem_map.1 hmem with ⟨c, hc, heq⟩
  have hprintable := h c hc
  have hnat : c.toNat.toUInt8.toNat = 10 := by
    rw [heq]
    rfl
  have hbyte : c.toNat.toUInt8.toNat = c.toNat := by
    simp
    omega
  omega

theorem rfindFrom_none {data : Bytes} (h : newline ∉ data) (k : Nat) :
    Bytes.rfindFrom [newline] data k = none := by
  induction data generalizing k with
  | nil => rfl
  | cons b data ih =>
    rw [List.mem_cons, not_or] at h
    rw [Bytes.rfindFrom, ih h.2]
    simp [List.isPrefixOf, h.1]

theorem rfindFrom_last {kept tail : Bytes} (h : newline ∉ tail) (k : Nat) :
    Bytes.rfindFrom [newline] (kept ++ newline :: tail) k = some (k + kept.length) := by
  induction kept generalizing k with
  | nil =>
    rw [List.nil_append, Bytes.rfindFrom, rfindFrom_none h]
    simp [List.isPrefixOf]
  | cons b kept ih =>
    rw [List.cons_append, Bytes.rfindFrom, ih]
    simp
    omega

/-- Whole lines: nothing, or bytes that end with a newline. -/
def WholeLines (kept : Bytes) : Prop :=
  kept = [] ∨ ∃ before, kept = before ++ [newline]

/-- The last newline of whole lines and a tail. -/
theorem rfind_tail {kept tail : Bytes} (hkept : WholeLines kept) (h : newline ∉ tail) :
    (kept ++ tail).rfind [newline] + 1 = kept.length := by
  rcases hkept with rfl | ⟨before, rfl⟩
  · simp [Bytes.rfind, rfindFrom_none h]
  · have hfind : Bytes.rfindFrom [newline] (before ++ newline :: tail) 0 = some before.length := by
      rw [rfindFrom_last h, Nat.zero_add]
    simp [Bytes.rfind, hfind]

theorem slice_kept (kept tail : Bytes) : (kept ++ tail).slice 0 kept.length = kept := by
  simp [Bytes.slice, Bytes.bound]

theorem sliceFrom_kept (kept tail : Bytes) : (kept ++ tail).sliceFrom kept.length = tail := by
  simp [Bytes.sliceFrom, Bytes.bound]

/-- The lines of receipts, each with its newline. -/
def joined (rs : List ReceiptFields) : List Char :=
  rs.flatMap (fun r => lineOf r ++ ['\n'])

theorem asciiBytes_append (text more : List Char) :
    asciiBytes (text ++ more) = asciiBytes text ++ asciiBytes more :=
  List.map_append ..

theorem joined_concat (rs : List ReceiptFields) (r : ReceiptFields) :
    joined (rs ++ [r]) = joined rs ++ (lineOf r ++ ['\n']) := by
  simp [joined]

theorem wholeLines_joined (rs : List ReceiptFields) : WholeLines (asciiBytes (joined rs)) := by
  rcases List.eq_nil_or_concat rs with rfl | ⟨before, r, rfl⟩
  · exact Or.inl rfl
  · refine Or.inr ⟨asciiBytes (joined before ++ lineOf r), ?_⟩
    rw [List.concat_eq_append, joined_concat, ← List.append_assoc, asciiBytes_append]
    rfl

theorem joined_ascii (rs : List ReceiptFields) : ∀ c ∈ joined rs, c.toNat < 0x80 := by
  intro c hc
  rcases List.mem_flatMap.1 hc with ⟨r, _, hr⟩
  rcases List.mem_append.1 hr with hr | hr
  · exact ascii_of_printable (lineOf_printable r) c hr
  · rw [List.mem_singleton.1 hr]
    decide

/-! ## Splitting lines -/

theorem isBoundary_printable {c : Char} (h : 0x20 ≤ c.toNat ∧ c.toNat ≤ 0x7E) :
    isBoundary c = false ∧ c ≠ '\r' := by
  constructor
  · simp only [isBoundary, decide_eq_false_iff_not, List.mem_cons, List.not_mem_nil, or_false]
    omega
  · rintro rfl
    revert h
    decide

theorem splitlinesAux_line {text : List Char} (h : Printable text) (line rest : List Char) :
    splitlinesAux line (text ++ rest) = splitlinesAux (line ++ text) rest := by
  induction text generalizing line with
  | nil => simp
  | cons c text ih =>
    have hc := isBoundary_printable (h c (List.mem_cons_self ..))
    have hrest := ih (fun d hd => h d (List.mem_cons_of_mem _ hd)) (line ++ [c])
    rw [List.cons_append, splitlinesAux.eq_def]
    simp [hc.1, hc.2, hrest]

theorem splitlinesAux_newline (line rest : List Char) :
    splitlinesAux line ('\n' :: rest) = line :: splitlinesAux [] rest := by
  rw [splitlinesAux.eq_def]
  simp [isBoundary]

/-- The lines of a file with its tail. -/
theorem splitlines_joined (rs : List ReceiptFields) {tail : List Char} (h : Printable tail) :
    splitlines (joined rs ++ tail) = rs.map lineOf ++ (if tail = [] then [] else [tail]) := by
  unfold splitlines
  induction rs with
  | nil =>
    have htail := splitlinesAux_line h [] []
    rw [List.append_nil, List.nil_append] at htail
    rw [joined, List.flatMap_nil, List.nil_append, htail]
    rfl
  | cons r rs ih =>
    have hline : joined (r :: rs) ++ tail = lineOf r ++ '\n' :: (joined rs ++ tail) := by
      simp [joined]
    rw [hline, splitlinesAux_line (lineOf_printable r), splitlinesAux_newline, ih]
    rfl

/-! ## Loading -/

/-- What is behind the whole lines of the file: nothing, a whole line, or a cut of one. -/
inductive Tail : List ReceiptFields → List Char → List ReceiptFields → Prop
  | clean {rs : List ReceiptFields} : Tail rs [] rs
  | whole {rs : List ReceiptFields} {r : ReceiptFields} (h : Recordable r) :
      Tail rs (lineOf r) (rs ++ [r])
  | torn {rs : List ReceiptFields} {r : ReceiptFields} {tail more : List Char} (h : Recordable r)
      (hline : lineOf r = tail ++ more) (hmore : more ≠ []) (htail : tail ≠ []) : Tail rs tail rs

/-- The file holds exactly these receipts. -/
inductive Holds : Option Bytes → List ReceiptFields → Prop
  | absent : Holds none []
  | present {done rs : List ReceiptFields} {tail : List Char} (h : Tail done tail rs) :
      Holds (some (asciiBytes (joined done ++ tail))) rs

theorem Tail.printable {done rs : List ReceiptFields} {tail : List Char} (h : Tail done tail rs) :
    Printable tail := by
  cases h with
  | clean => exact fun _ hc => by cases hc
  | @whole r _ => exact lineOf_printable r
  | @torn r tail more _ hline _ _ =>
    intro c hc
    refine lineOf_printable r c ?_
    rw [hline]
    exact List.mem_append_left _ hc

theorem Tail.kept {done rs : List ReceiptFields} {tail : List Char} (h : Tail done tail rs) :
    asciiBytes (joined done) <+: asciiBytes (joined rs) := by
  cases h with
  | clean => exact List.prefix_refl _
  | whole hr =>
    rw [joined_concat, asciiBytes_append]
    exact List.prefix_append _ _
  | torn _ _ _ _ => exact List.prefix_refl _

/-- The text of the file is read whole. -/
theorem logText_joined (done : List ReceiptFields) {tail : List Char} (h : Printable tail) :
    logText (asciiBytes (joined done ++ tail)) = some (joined done ++ tail) := by
  have hdone := utf8Decode_asciiBytes (joined_ascii done)
  have htail := utf8Decode_asciiBytes (ascii_of_printable h)
  have hcut := rfind_tail (wholeLines_joined done) (no_newline_of_printable h)
  unfold logText
  split_ifs with hend
  · refine utf8Decode_asciiBytes ?_
    intro c hc
    rcases List.mem_append.1 hc with hc | hc
    · exact joined_ascii done c hc
    · exact ascii_of_printable h c hc
  · simp only [asciiBytes_append, hcut, slice_kept, sliceFrom_kept, hdone, htail, Option.map_some]

theorem getLast?_joined {rs : List ReceiptFields} (h : joined rs ≠ []) :
    (joined rs).getLast? = some '\n' := by
  rcases List.eq_nil_or_concat rs with rfl | ⟨before, r, rfl⟩
  · exact absurd rfl h
  · rw [List.concat_eq_append, joined_concat, ← List.append_assoc, List.getLast?_concat]

theorem getLast?_tail {tail : List Char} (h : Printable tail) (hne : tail ≠ []) (kept : List Char) :
    (kept ++ tail).getLast? ≠ some '\n' := by
  rcases List.eq_nil_or_concat tail with rfl | ⟨before, c, rfl⟩
  · exact absurd rfl hne
  · rw [List.concat_eq_append, ← List.append_assoc, List.getLast?_concat]
    have hc := h c (by simp)
    intro heq
    rw [Option.some.inj heq] at hc
    revert hc
    decide

/-- The lines a load goes through are those of the receipts the file holds. -/
theorem logicalLines_joined {done rs : List ReceiptFields} {tail : List Char}
    (h : Tail done tail rs) : logicalLines (joined done ++ tail) = rs.map lineOf := by
  have hsplit := splitlines_joined done h.printable
  unfold logicalLines
  by_cases hempty : joined done ++ tail = []
  · rw [if_pos hempty]
    rw [hempty] at hsplit
    cases h with
    | clean =>
      rw [if_pos rfl, List.append_nil] at hsplit
      exact hsplit
    | @whole r _ =>
      rcases lineOf_cons r with ⟨text, heq⟩
      rw [heq] at hempty
      simp at hempty
    | torn _ _ _ htail => exact absurd (List.append_eq_nil_iff.1 hempty).2 htail
  · rw [if_neg hempty]
    simp only [hsplit]
    cases h with
    | clean =>
      have hnewline : (joined done ++ []).getLast? = some '\n' := by
        rw [List.append_nil] at hempty ⊢
        exact getLast?_joined hempty
      rw [if_pos (Or.inl hnewline), if_pos rfl, List.append_nil]
    | @whole r hr =>
      have hne : lineOf r ≠ [] := by
        rcases lineOf_cons r with ⟨text, heq⟩
        simp [heq]
      have hcomplete : completeJson (lineOf r) = true := by
        rw [completeJson, loads_lineOf hr]
        rfl
      rw [if_neg hne, if_neg]
      · simp [hcomplete]
      · rintro (hnewline | hnone)
        · exact getLast?_tail (lineOf_printable r) hne _ hnewline
        · simp at hnone
    | @torn r tail more hr hline hmore htail =>
      have htorn : Tail done tail done := Tail.torn hr hline hmore htail
      have hprintable := htorn.printable
      have hcomplete : completeJson tail = false := by
        rw [completeJson, loads_lineOf_cut hr hline hmore]
        rfl
      rw [if_neg htail, if_neg]
      · simp [hcomplete]
      · rintro (hnewline | hnone)
        · exact getLast?_tail hprintable htail _ hnewline
        · simp at hnone

/-- The receipts a load adds. -/
def added (rs byKey : List ReceiptFields) : List ReceiptFields :=
  rs.filter (fun r => decide (r.idempotencyKey ∉ byKey.map ReceiptFields.idempotencyKey))

theorem added_cons (r : ReceiptFields) (rs byKey : List ReceiptFields) :
    added (r :: rs) byKey =
      if r.idempotencyKey ∈ byKey.map ReceiptFields.idempotencyKey then added rs byKey
      else r :: added rs byKey := by
  unfold added
  rw [List.filter_cons]
  split_ifs with h1 h2 h2
  · exact absurd h2 (of_decide_eq_true h1)
  · rfl
  · rfl
  · exact absurd (decide_eq_true h2) h1

theorem loadLines_map {rs : List ReceiptFields} (hrs : ∀ r ∈ rs, Recordable r)
    (hkeys : (rs.map ReceiptFields.idempotencyKey).Nodup) (seen : List Text)
    (hseen : ∀ r ∈ rs, r.idempotencyKey ∉ seen) (byKey : List ReceiptFields) :
    loadLines (rs.map lineOf) seen byKey = (none, byKey ++ added rs byKey) := by
  induction rs generalizing seen byKey with
  | nil => simp [loadLines, added]
  | cons r rs ih =>
    have hr := hrs r (List.mem_cons_self ..)
    rw [List.map_cons, List.nodup_cons] at hkeys
    have hblank : (lineOf r).all (fun c => isSpace (CodePoint.ofChar c)) = false := by
      rcases lineOf_cons r with ⟨text, heq⟩
      rw [heq, List.all_cons, show isSpace (CodePoint.ofChar '{') = false from by decide]
      rfl
    have hother : ∀ r' ∈ rs, r'.idempotencyKey ≠ r.idempotencyKey := by
      intro r' hr' heq
      exact hkeys.1 (List.mem_map.2 ⟨r', hr', heq⟩)
    have hrest := ih (fun r' hr' => hrs r' (List.mem_cons_of_mem _ hr')) hkeys.2
      (r.idempotencyKey :: seen) (by
        intro r' hr'
        rw [List.mem_cons, not_or]
        exact ⟨hother r' hr', hseen r' (List.mem_cons_of_mem _ hr')⟩)
    rw [List.map_cons, loadLines, hblank]
    simp only [Bool.false_eq_true, if_false, loads_lineOf hr, receiptFromPayload_jsonPayload hr,
      if_neg (hseen r (List.mem_cons_self ..))]
    rw [hrest]
    rw [added_cons]
    by_cases hknown : r.idempotencyKey ∈ byKey.map ReceiptFields.idempotencyKey
    · rw [if_pos hknown, if_pos hknown]
    · have hadded : added rs (byKey ++ [r]) = added rs byKey := by
        unfold added
        refine List.filter_congr ?_
        intro r' hr'
        simp [hother r' hr']
      rw [if_neg hknown, if_neg hknown, hadded, List.append_assoc]
      rfl

theorem loadNewKeys_holds {file : Option Bytes} {rs : List ReceiptFields} (h : Holds file rs)
    (hrs : ∀ r ∈ rs, Recordable r) (hkeys : (rs.map ReceiptFields.idempotencyKey).Nodup)
    (byKey : List ReceiptFields) :
    loadNewKeys file byKey = (none, byKey ++ added rs byKey) := by
  cases h with
  | absent => simp [loadNewKeys, added]
  | @present done _ tail htail =>
    rw [loadNewKeys]
    simp only [logText_joined done htail.printable, logicalLines_joined htail]
    exact loadLines_map hrs hkeys [] (fun r _ => List.not_mem_nil) byKey

theorem endsWithNewline_joined {rs : List ReceiptFields} (h : joined rs ≠ []) :
    endsWithNewline (asciiBytes (joined rs)) = true := by
  rw [endsWithNewline, asciiBytes, List.getLast?_map, getLast?_joined h]
  rfl

theorem endsWithNewline_tail {tail : List Char} (h : Printable tail) (hne : tail ≠ [])
    (kept : Bytes) : endsWithNewline (kept ++ asciiBytes tail) = false := by
  have hbytes : asciiBytes tail ≠ [] := by simpa [asciiBytes] using hne
  simp only [endsWithNewline, decide_eq_false_iff_not]
  intro hlast
  rw [List.getLast?_append_of_ne_nil _ hbytes] at hlast
  exact no_newline_of_printable h (List.mem_of_getLast? hlast)

/-- The repair leaves exactly the whole lines of the receipts the file holds. -/
theorem repairTail_joined {done rs : List ReceiptFields} {tail : List Char} (h : Tail done tail rs) :
    repairTail (asciiBytes (joined done ++ tail)) = asciiBytes (joined rs) := by
  have hcut := rfind_tail (wholeLines_joined done) (no_newline_of_printable h.printable)
  have hdecode := utf8Decode_asciiBytes (ascii_of_printable h.printable)
  rw [asciiBytes_append]
  unfold repairTail
  cases h with
  | clean =>
    rw [show asciiBytes [] = [] from rfl, List.append_nil]
    by_cases hempty : joined done = []
    · rw [hempty]
      rfl
    · have hbytes : asciiBytes (joined done) ≠ [] := by simpa [asciiBytes] using hempty
      rw [if_neg hbytes, if_pos (endsWithNewline_joined hempty)]
  | @whole r hr =>
    have hne : lineOf r ≠ [] := by
      rcases lineOf_cons r with ⟨text, heq⟩
      simp [heq]
    rw [if_neg (by simpa [asciiBytes] using fun _ => hne),
      endsWithNewline_tail (lineOf_printable r) hne]
    simp only [hcut, sliceFrom_kept, hdecode, Option.bind_some, loads_lineOf hr]
    rw [joined_concat, asciiBytes_append, asciiBytes_append, List.append_assoc]
    rfl
  | @torn r tail more hr hline hmore htail =>
    have htorn : Tail done tail done := Tail.torn hr hline hmore htail
    rw [if_neg (by simpa [asciiBytes] using fun _ => htail),
      endsWithNewline_tail htorn.printable htail]
    simp only [hcut, sliceFrom_kept, hdecode, Option.bind_some, loads_lineOf_cut hr hline hmore]
    simp

/-! ## Whole runs -/

/-- The receipts whose complete line reached the file. -/
def reached (appends : List (ReceiptFields × Nat)) : List ReceiptFields :=
  (appends.filter (fun a => decide ((lineOf a.1).length ≤ a.2))).map Prod.fst

theorem reached_concat (appends : List (ReceiptFields × Nat)) (r : ReceiptFields) (n : Nat) :
    reached (appends ++ [(r, n)]) =
      if (lineOf r).length ≤ n then reached appends ++ [r] else reached appends := by
  unfold reached
  rw [List.filter_append, List.map_append]
  split_ifs with h
  · simp [h]
  · simp [h]

/-- What holds between the file, the logs and the appends. -/
structure Sound (w : World) : Prop where
  holds : Holds w.file (reached w.appends)
  recordable : ∀ r ∈ reached w.appends, Recordable r
  distinct : ((reached w.appends).map ReceiptFields.idempotencyKey).Nodup
  known : ∀ log ∈ w.logs, ∀ r ∈ log, r ∈ reached w.appends

/-- The bytes a repaired file goes on from. -/
theorem Holds.repaired {file : Option Bytes} {rs : List ReceiptFields} (h : Holds file rs) :
    repaired file = asciiBytes (joined rs) := by
  cases h with
  | absent => rfl
  | present htail => exact repairTail_joined htail

theorem holds_clean (rs : List ReceiptFields) : Holds (some (asciiBytes (joined rs))) rs := by
  have h : Holds (some (asciiBytes (joined rs ++ []))) rs := Holds.present Tail.clean
  rwa [List.append_nil] at h

/-- A line that is cut after any number of its bytes. -/
theorem holds_cut {rs : List ReceiptFields} {r : ReceiptFields} (hr : Recordable r) (n : Nat) :
    Holds (some (asciiBytes (joined rs) ++ (asciiBytes (lineOf r) ++ [newline]).take n))
      (if (lineOf r).length ≤ n then rs ++ [r] else rs) := by
  have hlength : (asciiBytes (lineOf r)).length = (lineOf r).length := List.length_map ..
  split_ifs with hn
  · rcases Nat.lt_or_ge (lineOf r).length n with hlt | hge
    · -- The newline reached the file too.
      have htake : (asciiBytes (lineOf r) ++ [newline]).take n = asciiBytes (lineOf r ++ ['\n']) := by
        rw [List.take_of_length_le (by simp [hlength]; omega), asciiBytes_append]
        rfl
      rw [htake, ← asciiBytes_append, ← joined_concat]
      exact holds_clean _
    · have htake : (asciiBytes (lineOf r) ++ [newline]).take n = asciiBytes (lineOf r) := by
        rw [List.take_append_of_le_length (by omega), List.take_of_length_le (by omega)]
      rw [htake, ← asciiBytes_append]
      exact Holds.present (Tail.whole hr)
  · have htake : (asciiBytes (lineOf r) ++ [newline]).take n = asciiBytes ((lineOf r).take n) := by
      rw [List.take_append_of_le_length (by omega), asciiBytes, asciiBytes, List.map_take]
    rw [htake, ← asciiBytes_append]
    rcases Nat.eq_zero_or_pos n with rfl | hpos
    · rw [List.take_zero, List.append_nil]
      exact holds_clean rs
    · refine Holds.present (Tail.torn hr (List.take_append_drop n (lineOf r)).symm ?_ ?_)
      · rw [ne_eq, List.drop_eq_nil_iff]
        omega
      · rw [ne_eq, List.take_eq_nil_iff]
        rintro (h | h)
        · omega
        · rw [h] at hn
          simp at hn

/-- A load adds what is missing. -/
theorem mem_loaded {rs byKey : List ReceiptFields} (hknown : ∀ r ∈ byKey, r ∈ rs)
    (hkeys : (rs.map ReceiptFields.idempotencyKey).Nodup) (r : ReceiptFields) :
    r ∈ byKey ++ added rs byKey ↔ r ∈ rs := by
  rw [List.mem_append]
  constructor
  · rintro (h | h)
    · exact hknown r h
    · exact (List.mem_filter.1 h).1
  · intro h
    by_cases hkey : r.idempotencyKey ∈ byKey.map ReceiptFields.idempotencyKey
    · rcases List.mem_map.1 hkey with ⟨r', hr', heq⟩
      have hsame : r' = r := List.inj_on_of_nodup_map hkeys (hknown r' hr') h heq
      rw [hsame] at hr'
      exact Or.inl hr'
    · exact Or.inr (List.mem_filter.2 ⟨h, decide_eq_true hkey⟩)

/-- No text of the receipt of an operation holds a high surrogate directly before a low one. -/
def LogOp.Unpaired : LogOp → Prop
  | .create => True
  | .record _ receipt _ => (Value.obj (jsonPayload receipt.fields)).Unpaired

theorem append_sound {w : World} (h : Sound w) {log : Nat} {byKey : List ReceiptFields}
    (hbyKey : ∀ r, r ∈ byKey ↔ r ∈ reached w.appends) {r : ReceiptFields} (hr : Recordable r)
    (hnew : r.idempotencyKey ∉ byKey.map ReceiptFields.idempotencyKey) (cut : Option Nat) :
    Sound (append w log byKey r cut) := by
  have hfresh : ((reached w.appends ++ [r]).map ReceiptFields.idempotencyKey).Nodup := by
    rw [List.map_append, List.nodup_append]
    refine ⟨h.distinct, List.nodup_singleton _, ?_⟩
    intro key hkey key' hkey' heq
    rw [List.map_singleton, List.mem_singleton] at hkey'
    rcases List.mem_map.1 hkey with ⟨r', hr', heq'⟩
    refine hnew (List.mem_map.2 ⟨r', (hbyKey r').2 hr', ?_⟩)
    rw [heq', heq, hkey']
  have hrecordable : ∀ r' ∈ reached w.appends ++ [r], Recordable r' := by
    intro r' hr'
    rcases List.mem_append.1 hr' with hr' | hr'
    · exact h.recordable r' hr'
    · rw [List.mem_singleton.1 hr']
      exact hr
  have hlength : (asciiBytes (lineOf r) ++ [newline]).length = (lineOf r).length + 1 := by
    simp [asciiBytes]
  have hcut : ∀ n, Holds (some (asciiBytes (joined (reached w.appends)) ++
      (asciiBytes (lineOf r) ++ [newline]).take n))
      (reached (w.appends ++ [(r, min n (asciiBytes (lineOf r) ++ [newline]).length)])) := by
    intro n
    have hmin : (lineOf r).length ≤ min n ((lineOf r).length + 1) ↔ (lineOf r).length ≤ n := by omega
    rw [reached_concat, hlength]
    simp only [hmin]
    exact holds_cut hr n
  have hreached : ∀ n, reached (w.appends ++ [(r, n)]) = reached w.appends ++ [r] ∨
      reached (w.appends ++ [(r, n)]) = reached w.appends := by
    intro n
    rw [reached_concat]
    split_ifs
    · exact Or.inl rfl
    · exact Or.inr rfl
  unfold append
  simp only [h.holds.repaired]
  cases cut with
  | none =>
    have hwhole := hcut (asciiBytes (lineOf r) ++ [newline]).length
    rw [List.take_length, min_self] at hwhole
    have hlast : reached (w.appends ++ [(r, (asciiBytes (lineOf r) ++ [newline]).length)]) =
        reached w.appends ++ [r] := by
      rw [reached_concat, if_pos (by rw [hlength]; omega)]
    refine ⟨hwhole, ?_, ?_, ?_⟩
    · rw [hlast]
      exact hrecordable
    · rw [hlast]
      exact hfresh
    · rw [hlast]
      intro log' hlog' r' hr'
      rcases List.mem_or_eq_of_mem_set hlog' with hlog' | rfl
      · exact List.mem_append_left _ (h.known log' hlog' r' hr')
      · rcases List.mem_append.1 hr' with hr' | hr'
        · exact List.mem_append_left _ ((hbyKey r').1 hr')
        · exact List.mem_append_right _ hr'
  | some n =>
    refine ⟨hcut n, ?_, ?_, ?_⟩
    · rcases hreached (min n (asciiBytes (lineOf r) ++ [newline]).length) with heq | heq
      · rw [heq]
        exact hrecordable
      · rw [heq]
        exact h.recordable
    · rcases hreached (min n (asciiBytes (lineOf r) ++ [newline]).length) with heq | heq
      · rw [heq]
        exact hfresh
      · rw [heq]
        exact h.distinct
    · -- The crash took the logs with it.
      intro log' hlog'
      cases hlog'

theorem logStep_sound {w : World} (h : Sound w) {op : LogOp} (hop : op.Unpaired) :
    Sound (logStep w op) := by
  have hload := loadNewKeys_holds h.holds h.recordable h.distinct
  cases op with
  | create =>
    rw [logStep, hload]
    refine ⟨h.holds, h.recordable, h.distinct, ?_⟩
    intro log hlog r hr
    rcases List.mem_append.1 hlog with hlog | hlog
    · exact h.known log hlog r hr
    · rw [List.mem_singleton.1 hlog] at hr
      exact (mem_loaded (fun _ hmem => by cases hmem) h.distinct r).1 hr
  | record log receipt cut =>
    simp only [logStep]
    cases hlog : w.logs[log]? with
    | none => exact h
    | some byKey =>
      have hknown := h.known byKey (List.mem_of_getElem? hlog)
      have hloaded := mem_loaded hknown h.distinct
      simp only [hload]
      split_ifs with hkey
      · refine ⟨h.holds, h.recordable, h.distinct, ?_⟩
        intro log' hlog' r hr
        rcases List.mem_or_eq_of_mem_set hlog' with hlog' | rfl
        · exact h.known log' hlog' r hr
        · exact (hloaded r).1 hr
      · exact append_sound h hloaded ⟨receipt.sorted, receipt.checked, hop⟩ hkey cut

theorem initial_sound : Sound World.initial where
  holds := Holds.absent
  recordable := by
    rintro r ⟨⟩
  distinct := List.nodup_nil
  known := by
    rintro log ⟨⟩

theorem logRun_sound {ops : List LogOp} (h : ∀ op ∈ ops, op.Unpaired) : Sound (logRun ops) := by
  refine runFrom_invariant_along ?_ initial_sound (along_of_forall h)
  intro w op hsound hop
  exact logStep_sound hsound hop

/-- Over all runs of the log, whatever was cut: no load raises, each yields exactly the receipts whose
line reached the file, and the repair leaves their lines as they are. -/
theorem receipt_log_survives (ops : List LogOp) (h : ∀ op ∈ ops, op.Unpaired) :
    loadNewKeys (logRun ops).file [] = (none, reached (logRun ops).appends) ∧
    ((reached (logRun ops).appends).map ReceiptFields.idempotencyKey).Nodup ∧
    (∀ byKey ∈ (logRun ops).logs, ∃ loaded,
      loadNewKeys (logRun ops).file byKey = (none, loaded) ∧
        ∀ r, r ∈ loaded ↔ r ∈ reached (logRun ops).appends) ∧
    (∀ data, (logRun ops).file = some data →
      repairTail data = asciiBytes (joined (reached (logRun ops).appends)) ∧
        ∃ kept tail, data = kept ++ tail ∧ WholeLines kept ∧ newline ∉ tail ∧
          kept <+: repairTail data) := by
  have hsound := logRun_sound h
  have hload := loadNewKeys_holds hsound.holds hsound.recordable hsound.distinct
  refine ⟨?_, hsound.distinct, ?_, ?_⟩
  · have hall : added (reached (logRun ops).appends) [] = reached (logRun ops).appends := by
      simp [added]
    rw [hload, hall, List.nil_append]
  · intro byKey hbyKey
    exact ⟨_, hload byKey, mem_loaded (hsound.known byKey hbyKey) hsound.distinct⟩
  · intro data hdata
    have hholds := hsound.holds
    rw [hdata] at hholds
    cases hholds with
    | @present done _ tail htail =>
      have hrepair := repairTail_joined htail
      refine ⟨hrepair, asciiBytes (joined done), asciiBytes tail, asciiBytes_append _ _,
        wholeLines_joined done, no_newline_of_printable htail.printable, ?_⟩
      rw [hrepair]
      exact htail.kept

/-! ## Samples -/

/-- A receipt without mappings. -/
def plainReceipt (key : Text) (h : isBlank key = false) : NotionOperationReceipt where
  fields :=
    { jobId := lit "job-1"
      operation := lit "publish_page"
      workspace := lit "space"
      target := lit "page"
      preState := none
      postState := []
      providerResponse := []
      evidence := lit "applied"
      timestamp :=
        { year := 2026, month := 1, day := 2, hour := 3, minute := 4, second := 5, microsecond := 0
          negative := false, offset := 0, date := by decide, signed := by decide }
      idempotencyKey := key
      status := .success }
  sorted := by
    refine ⟨sortedNames_ofPairs _, ?_⟩
    rw [jsonPayload_eq]
    simp [SortedMembers, Value.Sorted, SortedNames]
  checked := by
    have hkey : requireText "idempotency_key" key = .ok () := by
      rw [requireText, h]
      rfl
    have hstrict : ∀ r : ReceiptFields, r.preState = none → r.postState = [] →
        r.providerResponse = [] → strict (.obj (jsonPayload r)) = true := by
      intro r hpre hpost hprovider
      rw [jsonPayload_eq, hpre, hpost, hprovider]
      rfl
    unfold postInit
    simp only [hkey]
    rw [hstrict _ rfl rfl rfl]
    rfl

theorem unpaired_plainReceipt {key : Text} {h : isBlank key = false} (hkey : Json.Unpaired key) :
    (Value.obj (jsonPayload (plainReceipt key h).fields)).Unpaired := by
  have hlit : ∀ s : String, Json.Unpaired (lit s) := fun s => unpaired_ofChar s.toList
  rw [jsonPayload_eq]
  refine ⟨hlit _, hlit _, hlit _, hkey, hlit _, hlit _, hlit _, hlit _, hlit _, trivial, ?_⟩
  refine ⟨hlit _, trivial, hlit _, trivial, hlit _, hlit "Success", hlit _, hlit _, hlit _, ?_⟩
  exact ⟨unpaired_ofChar _, hlit _, hlit _, trivial⟩

/-- A log that loses half a line and goes on. -/
theorem receipt_log_survives_sample :
    let ops : List LogOp :=
      [.create, .record 0 (plainReceipt (lit "k1") rfl) none,
        .record 0 (plainReceipt (lit "k2") rfl) (some 9), .create,
        .record 0 (plainReceipt (lit "k3") rfl) none]
    (∀ op ∈ ops, op.Unpaired) ∧
      loadNewKeys (logRun ops).file [] = (none, reached (logRun ops).appends) := by
  intro ops
  have hunpaired : ∀ op ∈ ops, op.Unpaired := by
    intro op hop
    simp only [ops, List.mem_cons, List.not_mem_nil, or_false] at hop
    rcases hop with rfl | rfl | rfl | rfl | rfl
    · trivial
    · exact unpaired_plainReceipt (by decide)
    · exact unpaired_plainReceipt (by decide)
    · trivial
    · exact unpaired_plainReceipt (by decide)
  exact ⟨hunpaired, (receipt_log_survives ops hunpaired).1⟩

/-- A key of two surrogates. -/
def pairKey : Text := [0xD83D, 0xDE00]

/-- Two logs record a receipt under the key, and from then on no load gets through. -/
def pairOps : List LogOp :=
  [.create, .record 0 (plainReceipt pairKey rfl) none, .create,
    .record 1 (plainReceipt pairKey rfl) none]

theorem pair_recorded_twice :
    (logRun pairOps).appends.map (fun a => a.1.idempotencyKey) = [pairKey, pairKey] ∧
      (loadNewKeys (logRun pairOps).file []).1 = some (.duplicate [0x1F600]) := by
  decide +kernel

end Observability
end MoneyMachine
