import MoneyMachine.Assets.PdfPrinting

/-!
# PdfRoundTrip — reading what was printed

The cursor stands before the bytes that are left.  Every token moves it behind the bytes that spell it,
arrays and dictionaries by induction on their parts, and the levels of nesting by induction.

* `value_reads` : every spelling of an object is read as that object.
-/

namespace MoneyMachine
namespace Assets

open MoneyMachine.Library

/-! ## The cursor -/

/-- The cursor stands before these bytes. -/
def Stands (data : Bytes) (i : Int) (rest : Bytes) : Prop :=
  ∃ before : Bytes, data = before ++ rest ∧ i = before.length

section Cursor

variable {data : Bytes} {i : Int} {rest : Bytes}

theorem Stands.nonneg (h : Stands data i rest) : 0 ≤ i := by
  rcases h with ⟨before, _, rfl⟩
  omega

theorem Stands.length (h : Stands data i rest) : (data.length : Int) = i + rest.length := by
  rcases h with ⟨before, rfl, rfl⟩
  simp

theorem Stands.drop (h : Stands data i rest) : data.drop i.toNat = rest := by
  rcases h with ⟨before, rfl, rfl⟩
  simp

theorem Stands.append {mid : Bytes} (h : Stands data i (mid ++ rest)) :
    Stands data (i + mid.length) rest := by
  rcases h with ⟨before, rfl, rfl⟩
  exact ⟨before ++ mid, by simp, by simp⟩

theorem Stands.next {b : UInt8} (h : Stands data i (b :: rest)) : Stands data (i + 1) rest :=
  @Stands.append data i rest [b] h

theorem Stands.unique {rest' : Bytes} (h : Stands data i rest) (h' : Stands data i rest') :
    rest = rest' := by
  rw [← h.drop, ← h'.drop]

theorem Stands.at? {b : UInt8} (h : Stands data i (b :: rest)) : data.at? i = some b := by
  rcases h with ⟨before, rfl, rfl⟩
  rw [Bytes.at?, if_pos (by omega)]
  simp

theorem Stands.byteAt {b : UInt8} (h : Stands data i (b :: rest)) : byteAt data i = .ok b := by
  rw [Assets.byteAt, h.at?]

theorem Stands.lt {b : UInt8} (h : Stands data i (b :: rest)) : i < data.length := by
  have hlength := h.length
  simp only [List.length_cons] at hlength
  omega

theorem Stands.startsWith (h : Stands data i rest) (token : Bytes) :
    data.startsWith token i = token.isPrefixOf rest := by
  have hlength := h.length
  have hnonneg := h.nonneg
  rw [Bytes.startsWith, Bytes.searchStart, if_pos hnonneg, h.drop, decide_eq_true (by omega),
    Bool.true_and]

theorem Stands.slice {mid : Bytes} (h : Stands data i (mid ++ rest)) :
    data.slice i (i + mid.length) = mid := by
  rcases h with ⟨before, rfl, rfl⟩
  have hfirst : Bytes.bound (before ++ (mid ++ rest)).length (before.length : Int) = before.length := by
    rw [Bytes.bound, if_pos (by omega)]
    simp
  have hlast : Bytes.bound (before ++ (mid ++ rest)).length ((before.length : Int) + mid.length) =
      (before ++ mid).length := by
    rw [Bytes.bound, if_pos (by omega)]
    simp
    omega
  rw [Bytes.slice, hfirst, hlast, ← List.append_assoc, List.take_left', List.drop_left']
  · rfl
  · rfl

/-- A loop over the bytes that satisfy `p` stops behind them. -/
theorem Stands.advance {p : UInt8 → Bool} {mid : Bytes} (h : Stands data i (mid ++ rest))
    (hmid : ∀ b ∈ mid, p b = true) (hrest : ∀ b, rest.head? = some b → p b = false) (rounds : Nat)
    (hrounds : mid.length ≤ rounds) : advance data p rounds i = .ok (i + mid.length) := by
  induction mid generalizing i rounds with
  | nil =>
    cases rounds with
    | zero => simp [Assets.advance]
    | succ rounds =>
      cases rest with
      | nil =>
        have hend := h.length
        rw [Assets.advance, if_neg (by simpa using (le_of_eq hend))]
        simp
      | cons b rest =>
        have hstop := hrest b rfl
        rw [Assets.advance, if_pos h.lt, h.byteAt]
        simp [bind, Except.bind, hstop]
  | cons b mid ih =>
    cases rounds with
    | zero => simp at hrounds
    | succ rounds =>
      have hb := hmid b (List.mem_cons_self ..)
      have hnext := ih h.next (fun c hc => hmid c (List.mem_cons_of_mem _ hc)) rounds
        (by simpa using hrounds)
      have hmove : i + 1 + (mid.length : Int) = i + ((b :: mid).length : Int) := by
        simp only [List.length_cons]
        omega
      rw [Assets.advance, if_pos h.lt, h.byteAt]
      simp only [bind, Except.bind, hb, if_true]
      rw [hnext, hmove]

theorem Stands.advanceWhile {p : UInt8 → Bool} {mid : Bytes} (h : Stands data i (mid ++ rest))
    (hmid : ∀ b ∈ mid, p b = true) (hrest : ∀ b, rest.head? = some b → p b = false) :
    advanceWhile data p i = .ok (i + mid.length) := by
  apply h.advance hmid hrest
  have hlength := h.length
  rw [List.length_append] at hlength
  omega

/-- A loop that runs to where `p` fails. -/
theorem Stands.advance_until (h : Stands data i rest) (p : UInt8 → Bool) :
    ∃ j, Assets.advanceWhile data p i = .ok j ∧ Stands data j (rest.dropWhile p) := by
  have hsplit : rest = rest.takeWhile p ++ rest.dropWhile p := List.takeWhile_append_dropWhile.symm
  rw [hsplit] at h
  refine ⟨i + (rest.takeWhile p).length, h.advanceWhile ?_ ?_, h.append⟩
  · intro b hb
    exact List.mem_takeWhile_imp hb
  · intro b hb
    cases hdrop : rest.dropWhile p with
    | nil =>
      rw [hdrop] at hb
      cases hb
    | cons c tail =>
      rw [hdrop] at hb
      cases hb
      have hnot := List.head_dropWhile_not (l := rest) p (by rw [hdrop]; exact List.cons_ne_nil _ _)
      simpa [hdrop] using hnot

theorem dropGap_comment_eq (rest : Bytes) :
    dropGap true rest = dropGap false (rest.dropWhile (fun b => decide (b ≠ 10 ∧ b ≠ 13))) := by
  induction rest with
  | nil => rfl
  | cons b rest ih =>
    by_cases heol : b = 10 ∨ b = 13
    · have hws : isWs b = true := by
        rcases heol with rfl | rfl <;> decide
      have hstop : decide (b ≠ 10 ∧ b ≠ 13) = false := by
        rw [decide_eq_false_iff_not]
        tauto
      rw [dropGap, if_pos heol, List.dropWhile_cons, if_neg (by simp [hstop]), dropGap, if_pos hws]
    · have hgo : decide (b ≠ 10 ∧ b ≠ 13) = true := by
        rw [decide_eq_true_eq]
        tauto
      rw [dropGap, if_neg heol, List.dropWhile_cons, if_pos hgo]
      exact ih

theorem skipRounds_stands (rounds : Nat) (h : Stands data i rest) (hrounds : rest.length ≤ rounds) :
    ∃ j, skipRounds data rounds i = .ok j ∧ Stands data j (nextToken rest) := by
  induction rounds generalizing i rest with
  | zero =>
    have hnil : rest = [] := List.length_eq_zero_iff.1 (Nat.le_zero.1 hrounds)
    subst hnil
    exact ⟨i, rfl, h⟩
  | succ rounds ih =>
    cases rest with
    | nil =>
      have hlength := h.length
      refine ⟨i, ?_, h⟩
      rw [skipRounds, if_neg (by simpa using le_of_eq hlength)]
    | cons b rest =>
      have hlt : rest.length ≤ rounds := by simpa using hrounds
      rw [skipRounds, if_pos h.lt, h.byteAt]
      simp only [bind, Except.bind]
      by_cases hws : isWs b = true
      · rcases ih h.next hlt with ⟨j, hj, hstands⟩
        refine ⟨j, by simpa [hws] using hj, ?_⟩
        rw [nextToken, dropGap, if_pos hws]
        exact hstands
      · by_cases hpercent : b = 37
        · -- A comment: up to the end of its line.
          rcases h.next.advance_until (fun b => decide (b ≠ 10 ∧ b ≠ 13)) with ⟨k, hk, hline⟩
          have hshort : (rest.dropWhile (fun b => decide (b ≠ 10 ∧ b ≠ 13))).length ≤ rounds :=
            Nat.le_trans (List.dropWhile_suffix _).length_le hlt
          rcases ih hline hshort with ⟨j, hj, hstands⟩
          refine ⟨j, ?_, ?_⟩
          · simp only [hpercent, if_true]
            rw [hk]
            exact hj
          · rw [nextToken, dropGap, if_neg hws, if_pos hpercent, dropGap_comment_eq]
            exact hstands
        · refine ⟨i, by simp [hws, hpercent], ?_⟩
          rw [nextToken, dropGap, if_neg hws, if_neg hpercent]
          exact h

theorem Stands.skip (h : Stands data i rest) :
    ∃ j, Assets.skip data i = .ok j ∧ Stands data j (nextToken rest) := by
  apply skipRounds_stands _ h
  have hlength := h.length
  omega

end Cursor

/-! ## Bytes -/

theorem isDelim_iff {b : UInt8} :
    isDelim b = true ↔
      b ∈ ([0, 9, 10, 12, 13, 32, 40, 41, 60, 62, 91, 93, 123, 125, 47, 37] : List UInt8) := by
  simp only [isDelim, isWs, Bool.or_eq_true, decide_eq_true_eq]
  rw [← List.mem_append]
  rfl

theorem delim_not_number {b : UInt8} (h : isDelim b = true) :
    isDigitChr b = false ∧ b ≠ 46 := by
  have hall : ∀ b ∈ ([0, 9, 10, 12, 13, 32, 40, 41, 60, 62, 91, 93, 123, 125, 47, 37] : List UInt8),
      isDigitChr b = false ∧ b ≠ 46 := List.all_iff_forall_prop.1 (by decide)
  exact hall b (isDelim_iff.1 h)

theorem digit_not_special {b : UInt8} (h : Bytes.isDigit b = true) :
    b ∉ ascii "+-" ∧ Bytes.isSpace b = false ∧ isLead b = true ∧ b ≠ 82 ∧ b ≠ 43 ∧ b ≠ 45 := by
  simp only [Bytes.isDigit, decide_eq_true_eq] at h
  have hne : ∀ c : UInt8, (c.toNat < 48 ∨ 57 < c.toNat) → b ≠ c := by
    rintro c hc rfl
    omega
  refine ⟨?_, ?_, ?_, hne 82 (by decide), hne 43 (by decide), hne 45 (by decide)⟩
  · intro hmem
    have hall : ∀ c ∈ ascii "+-", c.toNat < 48 ∨ 57 < c.toNat := List.all_iff_forall_prop.1 (by decide)
    exact hne b (hall b hmem) rfl
  · rw [Bytes.isSpace, decide_eq_false_iff_not]
    omega
  · have hws : isWs b = false := by
      rw [isWs, decide_eq_false_iff_not]
      intro hmem
      have hall : ∀ c ∈ ([0, 9, 10, 12, 13, 32] : List UInt8), c.toNat < 48 ∨ 57 < c.toNat :=
        List.all_iff_forall_prop.1 (by decide)
      exact hne b (hall b hmem) rfl
    simp [isLead, hws, hne 37 (by decide)]

theorem isDigitChr_of_digit {b : UInt8} (h : Bytes.isDigit b = true) : isDigitChr b = true := by
  simp [isDigitChr, h]

theorem EndsToken.no_digit {rest : Bytes} (h : EndsToken rest) :
    ∀ b, rest.head? = some b → isDigitChr b = false :=
  fun b hb => (delim_not_number (h b hb)).1

/-- Behind a token no point follows. -/
theorem EndsToken.no_point {rest : Bytes} (h : EndsToken rest) : (ascii ".").isPrefixOf rest = false := by
  cases rest with
  | nil => rfl
  | cons b rest =>
    have hb := (delim_not_number (h b rfl)).2
    simp [ascii, List.isPrefixOf]
    exact fun heq => hb heq.symm

/-! ## Numbers -/

theorem digitsAux_digits {digits : Bytes} (h : ∀ b ∈ digits, Bytes.isDigit b = true)
    (value count : Nat) (needsDigit : Bool) (hne : digits ≠ [] ∨ needsDigit = false) :
    Bytes.digitsAux value count needsDigit digits =
      some (digits.foldl (fun value b => 10 * value + (b.toNat - 48)) value, count + digits.length) := by
  induction digits generalizing value count needsDigit with
  | nil =>
    rcases hne with hne | rfl
    · exact absurd rfl hne
    · rfl
  | cons b digits ih =>
    have hb := h b (List.mem_cons_self ..)
    have hrest := ih (fun c hc => h c (List.mem_cons_of_mem _ hc)) (10 * value + (b.toNat - 48))
      (count + 1) false (Or.inr rfl)
    rw [Bytes.digitsAux, if_pos hb, hrest, List.foldl_cons, List.length_cons]
    congr 2
    omega

theorem parseNat_digits {digits : Bytes} (h : Digits digits) :
    Bytes.parseNat digits = some (decimalOf digits) := by
  have haux := digitsAux_digits h.digit 0 0 true (Or.inl h.nonempty)
  rw [Bytes.parseNat, haux]
  simp only [Nat.zero_add, if_pos h.short]
  rfl

theorem strip_digits {text : Bytes} (h : ∀ b ∈ text, Bytes.isSpace b = false) :
    (text.dropWhile Bytes.isSpace).rdropWhile Bytes.isSpace = text := by
  have hdrop : text.dropWhile Bytes.isSpace = text := by
    cases text with
    | nil => rfl
    | cons b text =>
      rw [List.dropWhile_cons, if_neg (by simp [h b (List.mem_cons_self ..)])]
  rw [hdrop, List.rdropWhile_eq_self_iff]
  intro hne
  simp [h _ (List.getLast_mem hne)]

theorem parseInt_intText {n : Int} {text : Bytes} (h : IntText n text) :
    Bytes.parseInt text = some n := by
  have hspaces : ∀ {digits : Bytes}, Digits digits → ∀ b ∈ digits, Bytes.isSpace b = false :=
    fun hdigits b hb => (digit_not_special (hdigits.digit b hb)).2.1
  cases h with
  | plain hdigits =>
    rw [Bytes.parseInt, strip_digits (hspaces hdigits)]
    -- The first digit is no sign.
    split
    · have hsign := digit_not_special (hdigits.digit 43 (List.mem_cons_self ..))
      exact absurd rfl hsign.2.2.2.2.1
    · have hsign := digit_not_special (hdigits.digit 45 (List.mem_cons_self ..))
      exact absurd rfl hsign.2.2.2.2.2
    · rw [parseNat_digits hdigits]
      rfl
  | plus hdigits =>
    rename_i digits
    have hall : ∀ b ∈ 43 :: digits, Bytes.isSpace b = false := by
      intro b hb
      rcases List.mem_cons.1 hb with rfl | hb
      · decide
      · exact hspaces hdigits b hb
    rw [Bytes.parseInt, strip_digits hall]
    simp [parseNat_digits hdigits]
  | minus hdigits =>
    rename_i digits
    have hall : ∀ b ∈ 45 :: digits, Bytes.isSpace b = false := by
      intro b hb
      rcases List.mem_cons.1 hb with rfl | hb
      · decide
      · exact hspaces hdigits b hb
    rw [Bytes.parseInt, strip_digits hall]
    simp [parseNat_digits hdigits]

/-- A sign and digits. -/
theorem IntText.split {n : Int} {text : Bytes} (h : IntText n text) :
    ∃ sign digits, text = sign ++ digits ∧ (sign = [] ∨ sign = [43] ∨ sign = [45]) ∧ Digits digits := by
  cases h with
  | plain hdigits => exact ⟨[], _, rfl, Or.inl rfl, hdigits⟩
  | plus hdigits => exact ⟨[43], _, rfl, Or.inr (Or.inl rfl), hdigits⟩
  | minus hdigits => exact ⟨[45], _, rfl, Or.inr (Or.inr rfl), hdigits⟩

section Numbers

variable {data : Bytes} {i : Int} {rest : Bytes}

/-- The sign of a number: the first byte, and where the digits begin. -/
theorem number_sign {sign tail : Bytes} (hsign : sign = [] ∨ sign = [43] ∨ sign = [45])
    (htail : ∃ b more, tail = b :: more ∧ b ∉ ascii "+-") (h : Stands data i (sign ++ tail)) :
    ∃ first, byteAt data i = .ok first ∧
      (if first ∈ ascii "+-" then i + 1 else i) = i + sign.length := by
  rcases hsign with rfl | rfl | rfl
  · rcases htail with ⟨b, more, rfl, hb⟩
    refine ⟨b, h.byteAt, ?_⟩
    rw [if_neg hb]
    simp
  · refine ⟨43, h.byteAt, ?_⟩
    rw [if_pos (by decide)]
    simp
  · refine ⟨45, h.byteAt, ?_⟩
    rw [if_pos (by decide)]
    simp

theorem number_intText {n : Int} {text : Bytes} (htext : IntText n text) (hend : EndsToken rest)
    (h : Stands data i (text ++ rest)) :
    number data i = .ok (.int n, i + text.length) := by
  have hparse := parseInt_intText htext
  rcases htext.split with ⟨sign, digits, rfl, hsign, hdigits⟩
  have hslice := h.slice
  have hstands := h
  rw [List.append_assoc] at h
  have htail : ∃ b more, digits ++ rest = b :: more ∧ b ∉ ascii "+-" := by
    rcases List.exists_cons_of_ne_nil hdigits.nonempty with ⟨b, more, rfl⟩
    exact ⟨b, more ++ rest, rfl, (digit_not_special (hdigits.digit b (List.mem_cons_self ..))).1⟩
  rcases number_sign hsign htail h with ⟨first, hfirst, hstart⟩
  have hscan := h.append.advanceWhile (fun b hb => isDigitChr_of_digit (hdigits.digit b hb))
    hend.no_digit
  have hpoint := hstands.append.startsWith (ascii ".")
  rw [hend.no_point] at hpoint
  have hlength : i + (sign.length : Int) + (digits.length : Int) = i + ((sign ++ digits).length : Int) := by
    rw [List.length_append]
    omega
  have hmoved : ¬ i + ((sign ++ digits).length : Int) = i + (sign.length : Int) := by
    have hpos := List.length_pos_iff.2 hdigits.nonempty
    rw [List.length_append]
    omega
  rw [number, hfirst]
  simp only [bind, Except.bind, hstart]
  rw [hscan]
  simp only [hlength, hpoint, Bool.false_and, Bool.false_eq_true, if_false, hmoved]
  rw [hslice, PdfObject.ofInt, hparse]

theorem ofReal_text {sign whole fraction : Bytes} (hsign : sign = [] ∨ sign = [43] ∨ sign = [45])
    (hwhole : ∀ b ∈ whole, Bytes.isDigit b = true)
    (hfraction : ∀ b ∈ fraction, Bytes.isDigit b = true) (hne : whole ≠ [] ∨ fraction ≠ []) :
    PdfObject.ofReal (sign ++ whole ++ 46 :: fraction) =
      .ok (.real (sign ++ whole ++ 46 :: fraction)) := by
  have hunsigned : unsigned (sign ++ whole ++ 46 :: fraction) = whole ++ 46 :: fraction := by
    rcases hsign with rfl | rfl | rfl
    · cases whole with
      | nil => rfl
      | cons b rest =>
        have hdigit := hwhole b List.mem_cons_self
        have hplus : b ≠ 43 := by
          rintro rfl
          exact absurd hdigit (by decide)
        have hminus : b ≠ 45 := by
          rintro rfl
          exact absurd hdigit (by decide)
        simp [unsigned, hplus, hminus]
    · rfl
    · rfl
  have hpoint : Bytes.isDigit 46 = false := by decide
  have htake : (whole ++ 46 :: fraction).takeWhile Bytes.isDigit = whole := by
    rw [List.takeWhile_append_of_pos hwhole, List.takeWhile_cons_of_neg (by simp [hpoint]),
      List.append_nil]
  have hdrop : (whole ++ 46 :: fraction).dropWhile Bytes.isDigit = 46 :: fraction := by
    rw [List.dropWhile_append_of_pos hwhole, List.dropWhile_cons_of_neg (by simp [hpoint])]
  rw [PdfObject.ofReal, hunsigned, htake, hdrop]
  exact if_pos ⟨List.all_eq_true.mpr hfraction, hne⟩

theorem number_realText {text : Bytes} (htext : RealText text) (hend : EndsToken rest)
    (h : Stands data i (text ++ rest)) :
    number data i = .ok (.real text, i + text.length) := by
  rcases htext.spelled with ⟨sign, whole, fraction, rfl, hsign, hwhole, hfraction, hne⟩
  have hslice := h.slice
  have htotal : i + ((sign ++ whole ++ 46 :: fraction).length : Int) =
      i + (sign.length : Int) + (whole.length : Int) + 1 + (fraction.length : Int) := by
    simp only [List.length_append, List.length_cons]
    omega
  have hsplit : sign ++ whole ++ 46 :: fraction ++ rest =
      sign ++ (whole ++ (46 :: (fraction ++ rest))) := by simp
  rw [hsplit] at h
  have htail : ∃ b more, whole ++ (46 :: (fraction ++ rest)) = b :: more ∧ b ∉ ascii "+-" := by
    cases whole with
    | nil => exact ⟨46, _, rfl, by decide⟩
    | cons b more =>
      exact ⟨b, _, rfl, (digit_not_special (hwhole b (List.mem_cons_self ..))).1⟩
  rcases number_sign hsign htail h with ⟨first, hfirst, hstart⟩
  have hscan := h.append.advanceWhile (fun b hb => isDigitChr_of_digit (hwhole b hb))
    (by rintro b ⟨⟩; decide)
  have hpoint := h.append.append
  have hstarts := hpoint.startsWith (ascii ".")
  have hfrac := hpoint.next.advanceWhile (fun b hb => isDigitChr_of_digit (hfraction b hb))
    hend.no_digit
  have hstarted : (ascii ".").isPrefixOf (46 :: (fraction ++ rest)) = true := by
    simp [ascii, List.isPrefixOf]
  rw [hstarted] at hstarts
  have hmoved : ¬ (i + (sign.length : Int) + (whole.length : Int) = i + (sign.length : Int) ∧
      i + (sign.length : Int) + (whole.length : Int) + 1 + (fraction.length : Int) =
        i + (sign.length : Int) + (whole.length : Int) + 1) := by
    rintro ⟨hw, hf⟩
    rcases hne with hne | hne
    · have hpos := List.length_pos_iff.2 hne
      omega
    · have hpos := List.length_pos_iff.2 hne
      omega
  rw [htotal] at hslice ⊢
  rw [number, hfirst]
  simp only [bind, Except.bind, hstart]
  rw [hscan]
  simp only [hstarts, decide_eq_true hpoint.lt, Bool.and_self, if_true]
  rw [hfrac]
  simp only [hmoved, if_false]
  rw [hslice, ofReal_text hsign hwhole hfraction hne]

end Numbers

/-! ## References -/

theorem gap_endsToken {gap : Bytes} (h : Gap gap) (hne : gap ≠ []) (rest : Bytes) :
    EndsToken (gap ++ rest) := by
  intro b hb
  cases h with
  | nil => exact absurd rfl hne
  | blank hws _ =>
    cases hb
    simp [isDelim, hws]
  | comment _ _ _ =>
    cases hb
    decide

section References

variable {data : Bytes} {i : Int} {rest : Bytes}

/-- An integer with nothing behind it that makes it a reference. -/
theorem numberOrRef_int {n : Int} {text : Bytes} (htext : IntText n text) (hend : EndsToken rest)
    (hfollow : IntFollow rest) (h : Stands data i (text ++ rest)) :
    numberOrRef data i = .ok (.int n, i + text.length) := by
  have hfirst := number_intText htext hend h
  rcases h.append.skip with ⟨j, hskip, hnext⟩
  rw [numberOrRef, hfirst]
  simp only [bind, Except.bind]
  rw [hskip]
  cases htoken : nextToken rest with
  | nil =>
    rw [htoken] at hnext
    have hlength := hnext.length
    have hnot : ¬ j < data.length := by simpa using le_of_eq hlength
    simp [hnot]
  | cons b more =>
    rw [htoken] at hnext
    by_cases hlead : isNumberLead b = true
    · -- A second number, which is well formed and no generation.
      have hmore : (decide (j < data.length) && (data.at? j).any (fun b =>
          isDigitChr b || decide (b ∈ ascii "+-"))) = true := by
        rw [decide_eq_true hnext.lt, hnext.at?]
        exact hlead
      have hahead := hfollow b (by rw [htoken]; rfl) hlead
      rw [htoken] at hahead
      simp only [hmore, if_true]
      generalize b :: more = tail at hahead hnext
      cases hahead with
      | int hsecond hend' hr =>
        rename_i m second behind
        have hnumber := number_intText hsecond hend' hnext
        rcases hnext.append.skip with ⟨k, hskip', hlast⟩
        have hnotR : (ascii "R").isPrefixOf (nextToken behind) = false := by
          cases hlastToken : nextToken behind with
          | nil => rfl
          | cons c tail =>
            rw [hlastToken] at hr
            have hc : c ≠ 82 := by simpa using hr
            simp [ascii, List.isPrefixOf]
            exact fun heq => hc heq.symm
        have hstarts := hlast.startsWith (ascii "R")
        rw [hnotR] at hstarts
        rw [hnumber]
        simp only
        rw [hskip']
        simp [hstarts]
      | real hsecond hend' =>
        have hnumber := number_realText hsecond hend' hnext
        rcases hnext.append.skip with ⟨k, hskip', _⟩
        rw [hnumber]
        simp only
        rw [hskip']
    · have hmore : (decide (j < data.length) && (data.at? j).any (fun b =>
          isDigitChr b || decide (b ∈ ascii "+-"))) = false := by
        rw [decide_eq_true hnext.lt, hnext.at?]
        simpa [isNumberLead] using hlead
      simp [hmore]

theorem numberOrRef_ref {number generation gap gap' : Bytes} (hnumber : Digits number)
    (hgap : Gap gap) (hne : gap ≠ []) (hgeneration : Digits generation) (hgap' : Gap gap')
    (hne' : gap' ≠ [])
    (h : Stands data i (number ++ gap ++ generation ++ gap' ++ [82] ++ rest)) :
    numberOrRef data i = .ok (.ref (decimalOf number) (decimalOf generation),
      i + ((number ++ gap ++ generation ++ gap' ++ [82]).length : Int)) := by
  have hsplit : number ++ gap ++ generation ++ gap' ++ [82] ++ rest =
      number ++ (gap ++ (generation ++ (gap' ++ 82 :: rest))) := by simp
  have hend := h
  rw [hsplit] at h
  have hfirst := number_intText (.plain hnumber) (gap_endsToken hgap hne _) h
  rcases h.append.skip with ⟨j, hskip, hnext⟩
  have hlead : ∀ (tail : Bytes), nextToken (generation ++ tail) = generation ++ tail := by
    intro tail
    rcases List.exists_cons_of_ne_nil hgeneration.nonempty with ⟨b, more, rfl⟩
    exact nextToken_lead
      (digit_not_special (hgeneration.digit b (List.mem_cons_self ..))).2.2.1 _
  rw [nextToken_gap hgap, hlead] at hnext
  have hmore : (decide (j < data.length) && (data.at? j).any (fun b =>
      isDigitChr b || decide (b ∈ ascii "+-"))) = true := by
    rcases List.exists_cons_of_ne_nil hgeneration.nonempty with ⟨b, more, rfl⟩
    rw [decide_eq_true hnext.lt, hnext.at?]
    simp [isDigitChr_of_digit (hgeneration.digit b (List.mem_cons_self ..))]
  have hsecond := number_intText (.plain hgeneration) (gap_endsToken hgap' hne' _) hnext
  rcases hnext.append.skip with ⟨k, hskip', hlast⟩
  rw [nextToken_gap hgap', nextToken_lead (by decide)] at hlast
  have hstarts := hlast.startsWith (ascii "R")
  rw [show (ascii "R").isPrefixOf (82 :: rest) = true by simp [ascii, List.isPrefixOf]] at hstarts
  -- The cursor behind `R` is the end of the whole spelling.
  have hstop : k + 1 = i + ((number ++ gap ++ generation ++ gap' ++ [82]).length : Int) := by
    have hlength := hlast.length
    have htotal := hend.length
    simp only [List.length_append, List.length_cons, List.length_nil] at hlength htotal ⊢
    omega
  rw [numberOrRef, hfirst]
  simp only [bind, Except.bind]
  rw [hskip]
  simp only [hmore, if_true]
  rw [hsecond]
  simp only
  rw [hskip']
  simp only [hstarts, if_true]
  rw [hstop]

end References

/-! ## Names -/

theorem decodePdfName_cons {c : Char} (h : c ≠ '#') (rest : List Char) :
    decodePdfName (c :: rest) = c :: decodePdfName rest := by
  rw [decodePdfName.eq_def]
  split
  · rename_i heq
    exact absurd (List.cons.inj heq).1 h
  · rename_i heq
    rcases List.cons.inj heq with ⟨rfl, rfl⟩
    rfl
  · rename_i heq
    cases heq

theorem ofNat_byte_injective {b c : UInt8} (h : Char.ofNat b.toNat = Char.ofNat c.toNat) : b = c := by
  have hvalid : ∀ b : UInt8, (Char.ofNat b.toNat).toNat = b.toNat := by
    intro b
    have hlt := b.toNat_lt
    have hvalid : b.toNat.isValidChar := Or.inl (by omega)
    rw [Char.ofNat, dif_pos hvalid]
    rfl
  have hnat := congrArg Char.toNat h
  rw [hvalid, hvalid] at hnat
  exact UInt8.toNat_inj.1 hnat

/-- A name is decoded once, byte by byte. -/
theorem decodePdfName_nameText {value : List Char} {raw : Bytes} (h : NameText value raw) :
    decodePdfName (latin1 raw) = value := by
  induction h with
  | nil => rfl
  | plain _ hhash _ ih =>
    rename_i b value raw _ _
    have hc : Char.ofNat b.toNat ≠ '#' := by
      intro heq
      exact hhash (ofNat_byte_injective (b := b) (c := 35) heq)
    rw [latin1, List.map_cons, decodePdfName_cons hc]
    exact congrArg _ ih
  | escaped hc hd _ ih =>
    rename_i x y c d value raw _
    have hpair : hexPair (Char.ofNat c.toNat) (Char.ofNat d.toNat) =
        some (Char.ofNat (16 * x + y)) := by
      simp [hexPair, hc, hd]
    have hhash : Char.ofNat (35 : UInt8).toNat = '#' := by decide
    rw [latin1, List.map_cons, List.map_cons, List.map_cons, hhash, decodePdfName, hpair]
    exact congrArg _ ih

theorem hexByte_not_delim {b : UInt8} (h : (hexValue (Char.ofNat b.toNat)).isSome = true) :
    isDelim b = false ∧ b ≠ 62 ∧ isWs b = false := by
  have hall : ∀ b ∈ ([0, 9, 10, 12, 13, 32, 40, 41, 60, 62, 91, 93, 123, 125, 47, 37] : List UInt8),
      hexValue (Char.ofNat b.toNat) = none := List.all_iff_forall_prop.1 (by decide)
  have hdelim : isDelim b = false := by
    rw [← Bool.not_eq_true]
    intro hd
    rw [hall b (isDelim_iff.1 hd)] at h
    cases h
  refine ⟨hdelim, ?_, ?_⟩
  · rintro rfl
    rw [hall 62 (by decide)] at h
    cases h
  · rw [isDelim, Bool.or_eq_false_iff] at hdelim
    exact hdelim.1

theorem NameText.not_delim {value : List Char} {raw : Bytes} (h : NameText value raw) :
    ∀ b ∈ raw, isDelim b = false := by
  induction h with
  | nil => rintro b ⟨⟩
  | plain hb _ _ ih =>
    intro c hmem
    rcases List.mem_cons.1 hmem with rfl | hmem
    · exact hb
    · exact ih c hmem
  | escaped hc hd _ ih =>
    intro e hmem
    simp only [List.mem_cons] at hmem
    rcases hmem with rfl | rfl | rfl | hmem
    · decide
    · exact (hexByte_not_delim (by rw [hc]; rfl)).1
    · exact (hexByte_not_delim (by rw [hd]; rfl)).1
    · exact ih e hmem

theorem name_nameText {data : Bytes} {i : Int} {rest raw : Bytes} {value : List Char}
    (hraw : NameText value raw) (hend : EndsToken rest) (h : Stands data i (47 :: (raw ++ rest))) :
    name data i = .ok (value, i + 1 + raw.length) := by
  have hscan := h.next.advanceWhile
    (fun b hb => by rw [hraw.not_delim b hb]; rfl) (p := fun b => !isDelim b)
    (fun b hb => by rw [hend b hb]; rfl)
  rw [name, hscan]
  simp only [bind, Except.bind]
  rw [h.next.slice, decodePdfName_nameText hraw]

/-! ## Texts -/

theorem charUnits_lt (c : Char) : ∀ u ∈ charUnits c, u < 0x10000 := by
  have hvalid : c.toNat.isValidChar := c.valid
  unfold charUnits
  intro u hu
  split_ifs at hu with hc
  · rw [List.mem_singleton.1 hu]
    exact hc
  · simp only [List.mem_cons, List.not_mem_nil, or_false] at hu
    rcases hvalid with h | h
    · omega
    · rcases hu with hu | hu
      · omega
      · omega

theorem utf16Units_units (bigEndian : Bool) (units : List Nat) (h : ∀ u ∈ units, u < 0x10000) :
    utf16Units bigEndian (units.flatMap (unitBytes bigEndian)) = (units, false) := by
  induction units with
  | nil => rfl
  | cons u units ih =>
    have hu := h u (List.mem_cons_self ..)
    have hrest := ih (fun v hv => h v (List.mem_cons_of_mem _ hv))
    have hhigh : (UInt8.ofNat (u / 256)).toNat = u / 256 := by
      rw [UInt8.toNat_ofNat']
      omega
    have hlow : (UInt8.ofNat (u % 256)).toNat = u % 256 := by
      rw [UInt8.toNat_ofNat']
      omega
    cases bigEndian with
    | true =>
      rw [List.flatMap_cons, unitBytes, if_pos rfl, List.cons_append, List.cons_append,
        List.nil_append, utf16Units, hrest, hhigh, hlow]
      simp only [if_true, Prod.mk.injEq, List.cons.injEq, and_true]
      omega
    | false =>
      rw [List.flatMap_cons, unitBytes, if_neg Bool.false_ne_true, List.cons_append,
        List.cons_append, List.nil_append, utf16Units, hrest, hhigh, hlow]
      simp only [Bool.false_eq_true, if_false, Prod.mk.injEq, List.cons.injEq, and_true]
      omega

/-- A code unit that is no surrogate. -/
theorem decodeUnits_plain {u : Nat} (hhigh : isHighSurrogate u = false)
    (hlow : isLowSurrogate u = false) (units : List Nat) :
    decodeUnits (u :: units) false = Char.ofNat u :: decodeUnits units false := by
  cases units with
  | nil => simp [decodeUnits, hhigh, hlow]
  | cons v units => simp [decodeUnits, hhigh, hlow]

theorem decodeUnits_charUnits (text : List Char) :
    decodeUnits (text.flatMap charUnits) false = text := by
  induction text with
  | nil => rfl
  | cons c text ih =>
    have hvalid : c.toNat.isValidChar := c.valid
    rw [List.flatMap_cons]
    unfold charUnits
    split_ifs with hc
    · have hhigh : isHighSurrogate c.toNat = false := by
        rw [isHighSurrogate, decide_eq_false_iff_not]
        rcases hvalid with h | h
        · omega
        · omega
      have hlow : isLowSurrogate c.toNat = false := by
        rw [isLowSurrogate, decide_eq_false_iff_not]
        rcases hvalid with h | h
        · omega
        · omega
      rw [List.singleton_append, decodeUnits_plain hhigh hlow, Char.ofNat_toNat]
      exact congrArg _ ih
    · have hlimit : c.toNat < 0x110000 := by
        rcases hvalid with h | h
        · omega
        · omega
      have hhigh : isHighSurrogate (0xD800 + (c.toNat - 0x10000) / 0x400) = true := by
        rw [isHighSurrogate, decide_eq_true_eq]
        omega
      have hlow : isLowSurrogate (0xDC00 + (c.toNat - 0x10000) % 0x400) = true := by
        rw [isLowSurrogate, decide_eq_true_eq]
        omega
      have hjoined : 0x10000 + (0xD800 + (c.toNat - 0x10000) / 0x400 - 0xD800) * 0x400 +
          (0xDC00 + (c.toNat - 0x10000) % 0x400 - 0xDC00) = c.toNat := by omega
      rw [List.cons_append, List.cons_append, List.nil_append, decodeUnits]
      simp only [hhigh, hlow, if_true, hjoined, Char.ofNat_toNat]
      exact congrArg _ ih

/-- The bytes of a text are decoded as it. -/
theorem decodeText_textBytes {text : List Char} {raw : Bytes} (h : TextBytes text raw) :
    decodeText raw = text := by
  have hunits : ∀ (bigEndian : Bool) (text : List Char),
      utf16Units bigEndian (utf16 bigEndian text) = (text.flatMap charUnits, false) := by
    intro bigEndian text
    apply utf16Units_units
    intro u hu
    rcases List.mem_flatMap.1 hu with ⟨c, _, hc⟩
    exact charUnits_lt c u hc
  cases h with
  | latin hbig hlittle =>
    rw [decodeText.eq_def]
    split
    · exact absurd rfl hbig
    · exact absurd rfl hlittle
    · rfl
  | big text =>
    rw [decodeText, hunits]
    exact decodeUnits_charUnits text
  | little text =>
    rw [decodeText, hunits]
    exact decodeUnits_charUnits text

/-! ## Literal strings -/

section Literals

variable {data : Bytes} {i : Int} {rest : Bytes}

theorem octalDigits_digits {digits : Bytes} (hdigits : ∀ b ∈ digits, isOctal b = true)
    (count value : Nat) (hcount : digits.length ≤ count)
    (hnext : digits.length < count → ∀ b, rest.head? = some b → isOctal b = false)
    (h : Stands data i (digits ++ rest)) :
    octalDigits data count i value =
      .ok (digits.foldl (fun value b => 8 * value + (b.toNat - 48)) value, i + digits.length) := by
  induction count generalizing digits i value with
  | zero =>
    have hnil : digits = [] := List.length_eq_zero_iff.1 (Nat.le_zero.1 hcount)
    subst hnil
    simp [octalDigits]
  | succ count ih =>
    cases digits with
    | cons b digits =>
      have hb := hdigits b (List.mem_cons_self ..)
      have hrest := ih (fun c hc => hdigits c (List.mem_cons_of_mem _ hc))
        (8 * value + (b.toNat - 48)) (by simpa using hcount)
        (fun hlt => hnext (by simpa using hlt)) h.next
      have hmove : i + 1 + (digits.length : Int) = i + ((b :: digits).length : Int) := by
        simp only [List.length_cons]
        omega
      rw [octalDigits, if_pos h.lt, h.byteAt]
      simp only [bind, Except.bind, hb, if_true]
      rw [hrest, hmove, List.foldl_cons]
    | nil =>
      -- The byte that follows is no digit, for every round that is left.
      have hstop := @ih i [] (fun b hb => by cases hb) value (Nat.zero_le _)
        (fun _ => hnext (by simp)) h
      cases rest with
      | nil =>
        have hlength := h.length
        have hnot : ¬ i < data.length := by simpa using le_of_eq hlength
        rw [octalDigits, if_neg hnot]
        exact hstop
      | cons b rest =>
        have hb := hnext (by simp) b rfl
        rw [octalDigits, if_pos (Stands.lt h), Stands.byteAt h]
        simp only [bind, Except.bind, hb, Bool.false_eq_true, if_false]
        exact hstop

theorem octal_not_letter {b : UInt8} (h : isOctal b = true) : escapeLetter b = none := by
  have hall : ∀ c ∈ ascii "nrtbf", isOctal c = false := List.all_iff_forall_prop.1 (by decide)
  have hne : ∀ c ∈ ascii "nrtbf", b ≠ c := by
    rintro c hc rfl
    rw [hall b hc] at h
    cases h
  have hkeys : (List.zip (ascii "nrtbf") [10, 13, 9, 8, 12] : List (UInt8 × UInt8)).lookup b = none := by
    rw [List.lookup_eq_none_iff]
    intro pair hpair
    have hmem : pair.1 ∈ ascii "nrtbf" := (List.of_mem_zip hpair).1
    simpa using hne pair.1 hmem
  exact hkeys

/-- One to three octal digits behind a backslash. -/
theorem escape_octal {digits : Bytes} (hdigits : ∀ b ∈ digits, isOctal b = true)
    (hnonempty : digits ≠ []) (hshort : digits.length ≤ 3)
    (hnext : digits.length < 3 → ∀ b, rest.head? = some b → isOctal b = false)
    (h : Stands data i (digits ++ rest)) :
    escape data i = .ok ([UInt8.ofNat (octalOf digits % 256)], i + digits.length) := by
  rcases List.exists_cons_of_ne_nil hnonempty with ⟨b, more, rfl⟩
  have hb := hdigits b (List.mem_cons_self ..)
  have hrest := octalDigits_digits (fun c hc => hdigits c (List.mem_cons_of_mem _ hc)) 2
    (b.toNat - 48) (by rw [List.length_cons] at hshort; omega)
    (fun hlt => hnext (by simp only [List.length_cons]; omega))
    (h.next : Stands data (i + 1) (more ++ rest))
  have hmove : i + 1 + (more.length : Int) = i + ((b :: more).length : Int) := by
    simp only [List.length_cons]
    omega
  have hvalue : more.foldl (fun value b => 8 * value + (b.toNat - 48)) (b.toNat - 48) =
      octalOf (b :: more) := by
    simp [octalOf]
  rw [escape, Stands.byteAt h]
  simp only [bind, Except.bind, octal_not_letter hb, hb, if_true]
  rw [hrest, hmove, hvalue]

theorem escape_letter {esc b : UInt8} (hesc : escapeLetter esc = some b)
    (h : Stands data i (esc :: rest)) : escape data i = .ok ([b], i + 1) := by
  rw [escape, h.byteAt]
  simp only [bind, Except.bind, hesc]

/-- A byte behind a backslash that has no meaning stands for itself. -/
theorem escape_self {b : UInt8} (hletter : escapeLetter b = none) (hoctal : isOctal b = false)
    (heol : b ≠ 10 ∧ b ≠ 13) (h : Stands data i (b :: rest)) : escape data i = .ok ([b], i + 1) := by
  rw [escape, h.byteAt]
  simp only [bind, Except.bind, hletter, hoctal, Bool.false_eq_true, if_false, heol.1, heol.2,
    or_self]

/-- A line break behind a backslash is no text. -/
theorem escape_eol {eol : Bytes}
    (heol : eol = [10] ∨ eol = [13, 10] ∨ (eol = [13] ∧ rest.head? ≠ some 10))
    (h : Stands data i (eol ++ rest)) : escape data i = .ok ([], i + eol.length) := by
  have hletter : escapeLetter 10 = none ∧ escapeLetter 13 = none := by decide
  have hoctal : isOctal 10 = false ∧ isOctal 13 = false := by decide
  rcases heol with rfl | rfl | ⟨rfl, hnot⟩
  · rw [escape, Stands.byteAt h]
    simp [bind, Except.bind, hletter.1, hoctal.1]
  · have hnext : Stands data (i + 1) (10 :: rest) := Stands.next h
    rw [escape, Stands.byteAt h]
    simp [bind, Except.bind, hletter.2, hoctal.2, hnext.lt, hnext.at?]
  · have hnext : Stands data (i + 1) rest := Stands.next h
    have hcr : ¬ (i + 1 < data.length ∧ data.at? (i + 1) = some 10) := by
      rintro ⟨hlt, hat⟩
      cases rest with
      | nil =>
        have hlength := hnext.length
        simp only [List.length_nil] at hlength
        omega
      | cons c rest =>
        rw [hnext.at?] at hat
        exact hnot (by simpa using hat)
    rw [escape, Stands.byteAt h]
    simp [bind, Except.bind, hletter.2, hoctal.2, hcr]

theorem literalRounds_done (rounds : Nat) (raw : Bytes) :
    literalRounds data rounds i 0 raw = .ok (raw, i) := by
  cases rounds with
  | zero => rfl
  | succ rounds => simp [literalRounds]

/-- A byte that is read as it is, inside parentheses. -/
theorem literalRounds_plain {b : UInt8} (hb : b ≠ 92 ∧ b ≠ 40 ∧ b ≠ 41) (rounds depth : Nat) (raw : Bytes)
    (h : Stands data i (b :: rest)) :
    literalRounds data (rounds + 1) i (depth + 1) raw =
      literalRounds data rounds (i + 1) (depth + 1) (raw ++ [b]) := by
  rw [literalRounds, if_pos ⟨h.lt, Nat.succ_ne_zero _⟩, h.byteAt]
  simp only [bind, Except.bind, hb.1, hb.2.1, hb.2.2, if_false]

/-- A backslash and what it stands for. -/
theorem literalRounds_escape {more : Bytes} {j : Int} (rounds depth : Nat) (raw : Bytes)
    (h : Stands data i (92 :: rest)) (hescape : escape data (i + 1) = .ok (more, j)) :
    literalRounds data (rounds + 1) i (depth + 1) raw =
      literalRounds data rounds j (depth + 1) (raw ++ more) := by
  rw [literalRounds, if_pos ⟨h.lt, Nat.succ_ne_zero _⟩, h.byteAt]
  simp only [bind, Except.bind, if_true]
  rw [hescape]

/-- The body of a literal, from inside so many parentheses to behind the closing one. -/
theorem literalRounds_body {depth : Nat} {raw body : Bytes} (hbody : LiteralBody depth raw body)
    (rounds : Nat) (read : Bytes) (hrounds : body.length ≤ rounds)
    (h : Stands data i (body ++ rest)) :
    literalRounds data rounds i (depth + 1) read = .ok (read ++ raw, i + body.length) := by
  induction hbody generalizing rounds i read with
  | close =>
    cases rounds with
    | zero => simp at hrounds
    | succ rounds =>
      rw [literalRounds, if_pos ⟨Stands.lt h, Nat.succ_ne_zero _⟩, Stands.byteAt h]
      simp [bind, Except.bind, literalRounds_done]
  | openParen _ ih =>
    cases rounds with
    | zero => simp at hrounds
    | succ rounds =>
      rename_i raw more _
      have hrest := ih rounds (read ++ [40]) (by simpa using hrounds) (Stands.next h)
      rw [literalRounds, if_pos ⟨Stands.lt h, Nat.succ_ne_zero _⟩, Stands.byteAt h]
      simp only [bind, Except.bind, show ¬ (40 : UInt8) = 92 by decide, if_true, if_false]
      rw [hrest]
      simp only [List.append_assoc, List.singleton_append, List.length_cons, Except.ok.injEq,
        Prod.mk.injEq, true_and]
      omega
  | closeParen _ ih =>
    cases rounds with
    | zero => simp at hrounds
    | succ rounds =>
      rename_i depth raw more _
      have hrest := ih rounds (read ++ [41]) (by simpa using hrounds) (Stands.next h)
      rw [literalRounds, if_pos ⟨Stands.lt h, Nat.succ_ne_zero _⟩, Stands.byteAt h]
      simp only [bind, Except.bind, show ¬ (41 : UInt8) = 92 by decide,
        show ¬ (41 : UInt8) = 40 by decide, if_true, if_false, Nat.add_sub_cancel,
        show ¬ depth + 1 + 1 = 1 by omega]
      rw [hrest]
      simp only [List.append_assoc, List.singleton_append, List.length_cons, Except.ok.injEq,
        Prod.mk.injEq, true_and]
      omega
  | plain hb _ ih =>
    cases rounds with
    | zero => simp at hrounds
    | succ rounds =>
      rename_i b raw more _
      simp only [List.mem_cons, List.not_mem_nil, or_false, not_or] at hb
      have hrest := ih rounds (read ++ [b]) (by simpa using hrounds) (Stands.next h)
      rw [literalRounds_plain ⟨hb.1, hb.2.1, hb.2.2.1⟩ rounds _ read h, hrest]
      simp only [List.append_assoc, List.singleton_append, List.length_cons, Except.ok.injEq,
        Prod.mk.injEq, true_and]
      omega
  | letter hesc _ ih =>
    cases rounds with
    | zero => simp at hrounds
    | succ rounds =>
      rename_i esc b raw more _
      have hnext := Stands.next h
      have hrest := ih rounds (read ++ [b]) (by simp at hrounds; omega) (Stands.next hnext)
      rw [literalRounds_escape rounds _ read h (escape_letter hesc hnext), hrest]
      simp only [List.append_assoc, List.singleton_append, List.length_cons, Except.ok.injEq,
        Prod.mk.injEq, true_and]
      omega
  | octal hdigits hnonempty hshort hnext _ ih =>
    cases rounds with
    | zero => simp at hrounds
    | succ rounds =>
      rename_i digits raw more hmore
      have hone : Stands data (i + 1) (digits ++ (more ++ rest)) := by
        simpa using Stands.next h
      have hhead : digits.length < 3 → ∀ b, (more ++ rest).head? = some b → isOctal b = false := by
        intro hlt b hb
        cases more with
        | nil => cases hmore
        | cons c more => exact hnext hlt b hb
      have hescape := escape_octal hdigits hnonempty hshort hhead hone
      have hrest := ih rounds (read ++ [UInt8.ofNat (octalOf digits % 256)])
        (by simp at hrounds; omega) hone.append
      rw [literalRounds_escape rounds _ read h hescape, hrest]
      simp only [List.append_assoc, List.singleton_append, List.length_cons, List.length_append,
        Except.ok.injEq, Prod.mk.injEq, true_and]
      omega
  | escaped hletter hoctal heol _ ih =>
    cases rounds with
    | zero => simp at hrounds
    | succ rounds =>
      rename_i b raw more _
      have hnext := Stands.next h
      have hrest := ih rounds (read ++ [b]) (by simp at hrounds; omega) (Stands.next hnext)
      rw [literalRounds_escape rounds _ read h (escape_self hletter hoctal heol hnext), hrest]
      simp only [List.append_assoc, List.singleton_append, List.length_cons, Except.ok.injEq,
        Prod.mk.injEq, true_and]
      omega
  | continued heol _ ih =>
    cases rounds with
    | zero => simp at hrounds
    | succ rounds =>
      rename_i raw more eol hmore
      have hone : Stands data (i + 1) (eol ++ (more ++ rest)) := by
        simpa using Stands.next h
      have heol' : eol = [10] ∨ eol = [13, 10] ∨ (eol = [13] ∧ (more ++ rest).head? ≠ some 10) := by
        cases more with
        | nil => cases hmore
        | cons c more => exact heol
      have hrest := ih rounds (read ++ []) (by simp at hrounds; omega) hone.append
      rw [literalRounds_escape rounds _ read h (escape_eol heol' hone), hrest]
      simp only [List.append_assoc, List.nil_append, List.length_cons, List.length_append,
        Except.ok.injEq, Prod.mk.injEq, true_and]
      omega

theorem literal_body {text : List Char} {raw body : Bytes} (htext : TextBytes text raw)
    (hbody : LiteralBody 0 raw body) (h : Stands data i (40 :: (body ++ rest))) :
    literal data i = .ok (⟨text, none⟩, i + 1 + body.length) := by
  have hnext := h.next
  have hlength := hnext.length
  rw [List.length_append] at hlength
  have hrounds := literalRounds_body hbody (data.length - (i + 1)).toNat [] (by omega) hnext
  rw [literal, hrounds]
  simp only [bind, Except.bind, List.nil_append]
  rw [decodeText_textBytes htext]

end Literals

/-! ## Hexadecimal strings -/

section Hex

variable {data : Bytes} {i : Int} {rest : Bytes}

theorem digitsBetween_stands {mid : Bytes} (h : Stands data i (mid ++ rest)) :
    hex.digitsBetween data mid.length i = .ok mid := by
  induction mid generalizing i with
  | nil => rfl
  | cons b mid ih =>
    rw [List.length_cons, hex.digitsBetween, Stands.byteAt h]
    simp only [bind, Except.bind]
    rw [ih (Stands.next h)]

theorem hexValue_not_space {c : Char} {x : Nat} (h : hexValue c = some x) :
    ¬ (c = ' ' ∨ ('\t' ≤ c ∧ c ≤ '\r')) := by
  rintro hspace
  have hlow : c.toNat ≤ 32 := by
    rcases hspace with rfl | ⟨_, hle⟩
    · decide
    · have hr : c.toNat ≤ '\r'.toNat := hle
      exact Nat.le_trans hr (by decide)
  unfold hexValue at h
  split_ifs at h with h₁ h₂ h₃
  · have hge : '0'.toNat ≤ c.toNat := h₁.1
    exact absurd (Nat.le_trans hge hlow) (by decide)
  · have hge : 'a'.toNat ≤ c.toNat := h₂.1
    exact absurd (Nat.le_trans hge hlow) (by decide)
  · have hge : 'A'.toNat ≤ c.toNat := h₃.1
    exact absurd (Nat.le_trans hge hlow) (by decide)

theorem fromHex_hexDigits {raw : Bytes} {digits : List Char} (h : HexDigits raw digits) :
    fromHex digits = some raw := by
  induction h with
  | nil => rfl
  | pair hc hd _ ih =>
    rw [fromHex, if_neg (hexValue_not_space hc)]
    simp only [hc, hd, ih, Option.map_some]

theorem HexDigits.even {raw : Bytes} {digits : List Char} (h : HexDigits raw digits) :
    digits.length % 2 = 0 := by
  induction h with
  | nil => rfl
  | pair _ _ _ ih =>
    simp only [List.length_cons]
    omega

/-- The digits the reader keeps: a last one that is alone gets a zero. -/
theorem HexBody.kept {raw : Bytes} {digits : List Char} {body : Bytes} (hdigits : HexDigits raw digits)
    (h : HexBody digits body) :
    (if (hexDigitsOf body).length % 2 = 1 then hexDigitsOf body ++ ['0'] else hexDigitsOf body) =
      digits := by
  have heven := hdigits.even
  rcases h.digits with rfl | rfl
  · rw [if_neg (by omega)]
  · rw [List.length_append, List.length_singleton] at heven
    rw [if_pos (by omega)]

theorem hex_body {text digits : List Char} {raw body : Bytes} (htext : TextBytes text raw)
    (hdigits : HexDigits raw digits) (hbody : HexBody digits body)
    (h : Stands data i (60 :: (body ++ 62 :: rest))) :
    hex data i = .ok (⟨text, some digits⟩, i + 1 + body.length + 1) := by
  have hscan := h.next.advanceWhile (p := fun b => decide (b ≠ 62))
    (fun b hb => by
      rcases hbody.hex b hb with hws | hhex
      · rw [decide_eq_true_eq]
        rintro rfl
        cases hws
      · rw [decide_eq_true_eq]
        exact (hexByte_not_delim hhex).2.1)
    (by rintro b ⟨⟩; rfl)
  have hcount : (i + 1 + (body.length : Int) - (i + 1)).toNat = body.length := by omega
  have hbetween := digitsBetween_stands h.next
  have hkept := hbody.kept hdigits
  unfold hexDigitsOf at hkept
  rw [hex, hscan]
  simp only [bind, Except.bind]
  rw [hcount, hbetween]
  simp only [hkept]
  rw [fromHex_hexDigits hdigits]
  simp only [decodeText_textBytes htext]

end Hex

/-! ## Objects without parts -/

/-- A byte that begins an object: not white space, and none of `%`, `)`, `>`, `R`, `]`, `s`. -/
def beginsObject (b : UInt8) : Bool :=
  isLead b && decide (b ∉ ([41, 62, 82, 93, 115] : Bytes))

theorem beginsObject_digit {b : UInt8} (h : Bytes.isDigit b = true) : beginsObject b = true := by
  have hspecial := digit_not_special h
  have hne : ∀ c ∈ ([41, 62, 82, 93, 115] : Bytes), b ≠ c := by
    rintro c hc rfl
    have hall : ∀ c ∈ ([41, 62, 82, 93, 115] : Bytes), Bytes.isDigit c = false :=
      List.all_iff_forall_prop.1 (by decide)
    rw [hall b hc] at h
    cases h
  rw [beginsObject, hspecial.2.2.1, Bool.true_and, decide_eq_true_eq]
  intro hmem
  exact hne b hmem rfl

theorem IntText.begins {n : Int} {text : Bytes} (h : IntText n text) :
    ∃ b more, text = b :: more ∧ beginsObject b = true ∧ isNumberLead b = true ∧
      b ∉ ([40, 60, 47, 91] : Bytes) := by
  rcases h.split with ⟨sign, digits, rfl, hsign, hdigits⟩
  rcases hsign with rfl | rfl | rfl
  · rcases List.exists_cons_of_ne_nil hdigits.nonempty with ⟨b, more, rfl⟩
    have hb := hdigits.digit b (List.mem_cons_self ..)
    refine ⟨b, more, rfl, beginsObject_digit hb, by simp [isNumberLead, isDigitChr_of_digit hb], ?_⟩
    intro hmem
    have hall : ∀ c ∈ ([40, 60, 47, 91] : Bytes), Bytes.isDigit c = false := List.all_iff_forall_prop.1 (by decide)
    rw [hall b hmem] at hb
    cases hb
  · exact ⟨43, digits, rfl, by decide, by decide, by decide⟩
  · exact ⟨45, digits, rfl, by decide, by decide, by decide⟩

theorem Atom.begins {o : PdfObject} {text : Bytes} (h : Atom o text) :
    ∃ b more, text = b :: more ∧ beginsObject b = true := by
  cases h with
  | null => exact ⟨110, _, rfl, by decide⟩
  | isTrue => exact ⟨116, _, rfl, by decide⟩
  | isFalse => exact ⟨102, _, rfl, by decide⟩
  | int htext =>
    rcases htext.begins with ⟨b, more, rfl, hb, _⟩
    exact ⟨b, more, rfl, hb⟩
  | ref hnumber =>
    rcases (IntText.plain hnumber).begins with ⟨b, more, heq, hb, _⟩
    subst heq
    exact ⟨b, _, rfl, hb⟩
  | name => exact ⟨47, _, rfl, by decide⟩
  | literal => exact ⟨40, _, rfl, by decide⟩
  | hex => exact ⟨60, _, rfl, by decide⟩

section Atoms

variable {data : Bytes} {i : Int} {rest : Bytes}

theorem Stands.not_startsWith {b c : UInt8} (h : Stands data i (b :: rest)) (hne : b ≠ c) :
    data.startsWith [c] i = false := by
  rw [h.startsWith]
  simpa [List.isPrefixOf] using fun heq => hne heq.symm

theorem Stands.startsWith_self {b : UInt8} (h : Stands data i (b :: rest)) :
    data.startsWith [b] i = true := by
  rw [h.startsWith]
  simp [List.isPrefixOf]

theorem atom_number {b : UInt8} (hlead : isNumberLead b = true) (hb : b ∉ ([40, 60, 47, 91] : Bytes))
    (h : Stands data i (b :: rest)) : atom data i = numberOrRef data i := by
  simp only [List.mem_cons, List.not_mem_nil, or_false, not_or] at hb
  have hparen : data.startsWith (ascii "(") i = false := h.not_startsWith hb.1
  have hangle : data.startsWith (ascii "<") i = false := h.not_startsWith hb.2.1
  have hslash : data.startsWith (ascii "/") i = false := h.not_startsWith hb.2.2.1
  have hnumber : b ∈ ascii "+-." ∨ isDigitChr b = true := by
    simp only [isNumberLead, Bool.or_eq_true, decide_eq_true_eq] at hlead
    rcases hlead with hdigit | hsign
    · exact Or.inr hdigit
    · have hall : ∀ c ∈ ascii "+-", c ∈ ascii "+-." := List.all_iff_forall_prop.1 (by decide)
      exact Or.inl (hall b hsign)
  rw [atom]
  simp only [hparen, hangle, hslash, Bool.false_eq_true, if_false, h.byteAt, bind, Except.bind,
    if_pos hnumber]

/-- A keyword. -/
theorem atom_keyword {w : Bytes} {o : PdfObject}
    (hw : (w = ascii "null" ∧ o = .null) ∨ (w = ascii "true" ∧ o = .bool true) ∨
      (w = ascii "false" ∧ o = .bool false))
    (hend : EndsToken rest) (h : Stands data i (w ++ rest)) :
    atom data i = .ok (o, i + w.length) := by
  have hregular : ∀ b ∈ w, isDelim b = false := by
    rcases hw with ⟨rfl, _⟩ | ⟨rfl, _⟩ | ⟨rfl, _⟩ <;> exact List.all_iff_forall_prop.1 (by decide)
  have hfirst : ∃ b more, w = b :: more ∧ b ∈ ascii "ntf" := by
    rcases hw with ⟨rfl, _⟩ | ⟨rfl, _⟩ | ⟨rfl, _⟩
    · exact ⟨110, _, rfl, by decide⟩
    · exact ⟨116, _, rfl, by decide⟩
    · exact ⟨102, _, rfl, by decide⟩
  have hscan := h.advanceWhile (p := fun b => !isDelim b)
    (fun b hb => by rw [hregular b hb]; rfl) (fun b hb => by rw [hend b hb]; rfl)
  have hkeyword : keyword data i = .ok (o, i + w.length) := by
    rw [keyword, word, hscan]
    simp only [bind, Except.bind, h.slice]
    rcases hw with ⟨rfl, rfl⟩ | ⟨rfl, rfl⟩ | ⟨rfl, rfl⟩ <;> rfl
  rcases hfirst with ⟨b, more, rfl, hb⟩
  have hall : ∀ c ∈ ascii "ntf", c ≠ 40 ∧ c ≠ 60 ∧ c ≠ 47 ∧
      ¬ (c ∈ ascii "+-." ∨ isDigitChr c = true) := List.all_iff_forall_prop.1 (by decide)
  have hne := hall b hb
  have hparen : data.startsWith (ascii "(") i = false := Stands.not_startsWith h hne.1
  have hangle : data.startsWith (ascii "<") i = false := Stands.not_startsWith h hne.2.1
  have hslash : data.startsWith (ascii "/") i = false := Stands.not_startsWith h hne.2.2.1
  rw [atom]
  simp only [hparen, hangle, hslash, Bool.false_eq_true, if_false, Stands.byteAt h, bind, Except.bind,
    if_neg hne.2.2.2]
  exact hkeyword

/-- What may follow an atom is what the reader needs to stop right behind it. -/
theorem atom_reads {o : PdfObject} {text : Bytes} (hatom : Atom o text) (hapart : Apart o rest)
    (hfollows : Follows o rest) (h : Stands data i (text ++ rest)) :
    atom data i = .ok (o, i + text.length) := by
  cases hatom with
  | null => exact atom_keyword (Or.inl ⟨rfl, rfl⟩) (hapart rfl) h
  | isTrue => exact atom_keyword (Or.inr (Or.inl ⟨rfl, rfl⟩)) (hapart rfl) h
  | isFalse => exact atom_keyword (Or.inr (Or.inr ⟨rfl, rfl⟩)) (hapart rfl) h
  | int htext =>
    have hread := numberOrRef_int htext (hapart rfl) hfollows h
    rcases htext.begins with ⟨b, more, rfl, _, hlead, hb⟩
    rw [atom_number hlead hb h]
    exact hread
  | ref hnumber hgap hne hgeneration hgap' hne' =>
    have hread := numberOrRef_ref hnumber hgap hne hgeneration hgap' hne' h
    rcases (IntText.plain hnumber).begins with ⟨b, more, heq, _, hlead, hb⟩
    subst heq
    rw [atom_number hlead hb h]
    exact hread
  | name hname =>
    rename_i value raw
    have hparen : data.startsWith (ascii "(") i = false := Stands.not_startsWith h (by decide)
    have hangle : data.startsWith (ascii "<") i = false := Stands.not_startsWith h (by decide)
    have hslash : data.startsWith (ascii "/") i = true := Stands.startsWith_self h
    have hlength : i + 1 + (raw.length : Int) = i + ((47 :: raw : Bytes).length : Int) := by
      rw [List.length_cons]
      omega
    rw [atom]
    simp only [hparen, hangle, hslash, Bool.false_eq_true, if_true, if_false]
    rw [name_nameText hname (hapart rfl) h]
    simp only [bind, Except.bind, hlength]
  | literal htext hbody =>
    rename_i text raw body
    have hparen : data.startsWith (ascii "(") i = true := Stands.startsWith_self h
    have hlength : i + 1 + (body.length : Int) = i + ((40 :: body : Bytes).length : Int) := by
      rw [List.length_cons]
      omega
    rw [atom, if_pos hparen, literal_body htext hbody h]
    simp only [bind, Except.bind, hlength]
  | hex htext hdigits hbody =>
    rename_i text digits raw body
    have hparen : data.startsWith (ascii "(") i = false := Stands.not_startsWith h (by decide)
    have hangle : data.startsWith (ascii "<") i = true := Stands.startsWith_self h
    have hstands : Stands data i (60 :: (body ++ 62 :: rest)) := by simpa using h
    have hlength : i + 1 + (body.length : Int) + 1 = i + ((60 :: (body ++ [62]) : Bytes).length : Int) := by
      rw [List.length_cons, List.length_append, List.length_singleton]
      omega
    rw [atom]
    simp only [hparen, hangle, Bool.false_eq_true, if_true, if_false]
    rw [hex_body htext hdigits hbody hstands]
    simp only [bind, Except.bind, hlength]

end Atoms

/-! ## What follows a part -/

/-- The next token is no `R`, begins no `stream`, and is a number where it seems to be one. -/
def NextApart (rest : Bytes) : Prop :=
  ∀ b, (nextToken rest).head? = some b →
    b ≠ 82 ∧ b ≠ 115 ∧ (isNumberLead b = true → NumberAhead (nextToken rest))

theorem NextApart.follows {rest : Bytes} (h : NextApart rest) (o : PdfObject) : Follows o rest := by
  cases o with
  | int n =>
    intro b hb hlead
    exact (h b hb).2.2 hlead
  | dict fields =>
    rintro ⟨tail, hstream⟩
    have hhead : (nextToken rest).head? = some 115 := by
      rw [← hstream]
      rfl
    exact (h 115 hhead).2.1 rfl
  | _ => trivial

theorem spells_begins {levels : Nat} {o : PdfObject} {text : Bytes} (h : Spells levels o text) :
    ∃ b more, text = b :: more ∧ beginsObject b = true := by
  cases levels with
  | zero => exact Atom.begins h
  | succ levels =>
    cases h with
    | atom h => exact h.begins
    | array h => exact ⟨91, _, rfl, by decide⟩
    | dict _ h => exact ⟨60, _, rfl, by decide⟩

theorem beginsObject_iff {b : UInt8} :
    beginsObject b = true ↔ isLead b = true ∧ b ∉ ([41, 62, 82, 93, 115] : Bytes) := by
  rw [beginsObject, Bool.and_eq_true, decide_eq_true_eq]

theorem spells_next {levels : Nat} {o : PdfObject} {text : Bytes} (h : Spells levels o text)
    (rest : Bytes) : nextToken (text ++ rest) = text ++ rest := by
  rcases spells_begins h with ⟨b, more, rfl, hb⟩
  exact nextToken_lead (beginsObject_iff.1 hb).1 _

/-- A reference begins with a number that no `R` follows. -/
theorem ref_numberAhead {number generation gap gap' : Bytes} (hnumber : Digits number)
    (hgap : Gap gap) (hne : gap ≠ []) (hgeneration : Digits generation) (rest : Bytes) :
    NumberAhead (number ++ gap ++ generation ++ gap' ++ [82] ++ rest) := by
  have hsplit : number ++ gap ++ generation ++ gap' ++ [82] ++ rest =
      number ++ (gap ++ (generation ++ (gap' ++ 82 :: rest))) := by simp
  rw [hsplit]
  apply NumberAhead.int (.plain hnumber) (gap_endsToken hgap hne _)
  rcases List.exists_cons_of_ne_nil hgeneration.nonempty with ⟨b, more, rfl⟩
  have hspecial := digit_not_special (hgeneration.digit b (List.mem_cons_self ..))
  rw [nextToken_gap hgap, List.cons_append, nextToken_lead hspecial.2.2.1]
  simpa using hspecial.2.2.2.1

theorem Atom.numberAhead {o : PdfObject} {text rest : Bytes} (h : Atom o text) (hapart : Apart o rest)
    (hnext : (nextToken rest).head? ≠ some 82) {b : UInt8} (hb : text.head? = some b)
    (hlead : isNumberLead b = true) : NumberAhead (text ++ rest) := by
  cases h with
  | int htext => exact NumberAhead.int htext (hapart rfl) hnext
  | ref hnumber hgap hne hgeneration _ _ => exact ref_numberAhead hnumber hgap hne hgeneration rest
  | null =>
    cases hb
    cases hlead
  | isTrue =>
    cases hb
    cases hlead
  | isFalse =>
    cases hb
    cases hlead
  | name _ =>
    cases hb
    cases hlead
  | literal _ _ =>
    cases hb
    cases hlead
  | hex _ _ _ =>
    cases hb
    cases hlead

theorem spells_numberAhead {levels : Nat} {o : PdfObject} {text rest : Bytes}
    (h : Spells levels o text) (hapart : Apart o rest)
    (hnext : (nextToken rest).head? ≠ some 82) {b : UInt8} (hb : text.head? = some b)
    (hlead : isNumberLead b = true) : NumberAhead (text ++ rest) := by
  cases levels with
  | zero => exact Atom.numberAhead h hapart hnext hb hlead
  | succ levels =>
    cases h with
    | atom h => exact h.numberAhead hapart hnext hb hlead
    | array _ =>
      cases hb
      cases hlead
    | dict _ _ =>
      cases hb
      cases hlead

theorem Apart.append {o : PdfObject} {more : Bytes} (h : Apart o more) (hne : more ≠ [])
    (rest : Bytes) : Apart o (more ++ rest) := by
  intro hregular b hb
  rcases List.exists_cons_of_ne_nil hne with ⟨c, tail, rfl⟩
  exact h hregular b hb

theorem items_nonempty {R : PdfObject → Bytes → Prop} {items : List PdfObject} {body : Bytes}
    (h : Items R items body) : body ≠ [] := by
  induction h with
  | nil _ => simp
  | cons _ _ _ _ ih => simp [ih]

theorem members_nonempty {R : PdfObject → Bytes → Prop} {fields : Fields} {body : Bytes}
    (h : Members R fields body) : body ≠ [] := by
  cases h <;> simp

/-- Behind an item stand the other items and the closing bracket. -/
theorem items_next {levels : Nat} {items : List PdfObject} {body : Bytes}
    (h : Items (Spells levels) items body) (rest : Bytes) : NextApart (body ++ rest) := by
  induction h with
  | nil hgap =>
    intro b hb
    rw [List.append_assoc, nextToken_gap hgap, List.singleton_append,
      nextToken_lead (by decide)] at hb
    cases hb
    exact ⟨by decide, by decide, by rintro ⟨⟩⟩
  | cons hgap ho hmore hapart ih =>
    rename_i o items gap text more
    intro b hb
    have htoken : nextToken (gap ++ text ++ more ++ rest) = text ++ (more ++ rest) := by
      rw [List.append_assoc, List.append_assoc, nextToken_gap hgap, spells_next ho]
    rw [htoken] at hb ⊢
    rcases spells_begins ho with ⟨c, tail, rfl, hc⟩
    cases hb
    have hbegins := (beginsObject_iff.1 hc).2
    simp only [List.mem_cons, List.not_mem_nil, or_false, not_or] at hbegins
    refine ⟨hbegins.2.2.1, hbegins.2.2.2.2, ?_⟩
    intro hlead
    apply spells_numberAhead ho _ _ rfl hlead
    · exact hapart.append (items_nonempty hmore) rest
    · intro hR
      exact (ih 82 hR).1 rfl

/-- Behind a value stand the other entries and the closing brackets. -/
theorem members_next {R : PdfObject → Bytes → Prop} {fields : Fields} {body : Bytes}
    (h : Members R fields body) (rest : Bytes) : NextApart (body ++ rest) := by
  intro b hb
  cases h with
  | nil hgap =>
    rw [List.append_assoc, nextToken_gap hgap, List.cons_append, nextToken_lead (by decide)] at hb
    cases hb
    exact ⟨by decide, by decide, by rintro ⟨⟩⟩
  | cons hgap _ _ _ _ _ _ =>
    simp only [List.append_assoc] at hb
    rw [nextToken_gap hgap, List.cons_append, nextToken_lead (by decide)] at hb
    cases hb
    exact ⟨by decide, by decide, by rintro ⟨⟩⟩

/-! ## Arrays and dictionaries -/

/-- The reader reads this spelling of the object, wherever it stands. -/
def ReadsAs (data : Bytes) (item : ReadValue) (o : PdfObject) (text : Bytes) : Prop :=
  ∀ i gap rest, Gap gap → Apart o rest → Follows o rest → Stands data i (gap ++ text ++ rest) →
    ∃ j, (item i).Returns (.ok (o, j)) ∧ Stands data j (leftOver o rest)

theorem nextToken_leftOver (o : PdfObject) (rest : Bytes) :
    nextToken (leftOver o rest) = nextToken rest := by
  cases o <;> first | rfl | exact nextToken_nextToken rest

section Containers

variable {data : Bytes} {item : ReadValue} {levels : Nat} {rest : Bytes}

/-- The loop of an array, from before one of its items on. -/
theorem array_loop {items : List PdfObject} {body : Bytes}
    (hread : ∀ o text, Spells levels o text → ReadsAs data item o text)
    (hitems : Items (Spells levels) items body) (read : List PdfObject) {i : Int} {left : Bytes}
    (hleft : nextToken left = nextToken (body ++ rest)) (h : Stands data i left) :
    ∃ j, (Comp.loop (arrayStep data item) (i, read)).Returns (.ok (.array (read ++ items), j)) ∧
      Stands data j rest := by
  induction hitems generalizing i read left with
  | nil hgap =>
    rcases h.skip with ⟨j, hskip, hnext⟩
    rw [hleft, List.append_assoc, nextToken_gap hgap, List.singleton_append,
      nextToken_lead (by decide)] at hnext
    have hclose : data.startsWith (ascii "]") j = true := hnext.startsWith_self
    refine ⟨j + 1, ?_, hnext.next⟩
    apply Comp.returns_loop.2 (Or.inr (Or.inl ⟨_, _, rfl⟩))
    rw [arrayStep, Comp.returns_ok_bind]
    refine ⟨j, Comp.returns_ofExcept.2 hskip.symm, ?_⟩
    rw [if_pos hclose, List.append_nil]
    exact Comp.returns_pure.2 rfl
  | cons hgap ho hmore hapart ih =>
    rename_i o items gap text more
    rcases h.skip with ⟨j, hskip, hnext⟩
    have htoken : nextToken (gap ++ text ++ more ++ rest) = [] ++ text ++ (more ++ rest) := by
      rw [List.append_assoc, List.append_assoc, nextToken_gap hgap, spells_next ho,
        List.nil_append]
    rw [hleft, htoken] at hnext
    have hopen : data.startsWith (ascii "]") j = false := by
      rcases spells_begins ho with ⟨b, tail, rfl, hb⟩
      have hbegins := (beginsObject_iff.1 hb).2
      simp only [List.mem_cons, List.not_mem_nil, or_false, not_or] at hbegins
      exact Stands.not_startsWith hnext hbegins.2.2.2.1
    rcases hread o text ho j [] (more ++ rest) .nil (hapart.append (items_nonempty hmore) rest)
      ((items_next hmore rest).follows o) hnext with ⟨k, hitem, hstands⟩
    rcases ih (read ++ [o]) (nextToken_leftOver o _) hstands with ⟨l, hloop, hend⟩
    refine ⟨l, ?_, hend⟩
    rw [List.append_assoc, List.singleton_append] at hloop
    apply Comp.returns_loop.2 (Or.inr (Or.inr ⟨(k, read ++ [o]), _, hloop⟩))
    rw [Comp.Next, arrayStep, Comp.returns_ok_bind]
    refine ⟨j, Comp.returns_ofExcept.2 hskip.symm, ?_⟩
    rw [hopen, if_neg Bool.false_ne_true, Comp.returns_ok_bind]
    exact ⟨(o, k), hitem, Comp.returns_pure.2 rfl⟩

/-- The loop of a dictionary; the keys read before are none of those to come. -/
theorem dict_loop {fields : Fields} {body : Bytes}
    (hread : ∀ o text, Spells levels o text → ReadsAs data item o text)
    (hmembers : Members (Spells levels) fields body) (read : Fields)
    (hkeys : ((read ++ fields).map Prod.fst).Nodup) {i : Int} {left : Bytes}
    (hleft : nextToken left = nextToken (body ++ rest)) (h : Stands data i left) :
    ∃ j, (Comp.loop (dictStep data item) (i, read)).Returns (.ok (read ++ fields, j)) ∧
      Stands data j rest := by
  induction hmembers generalizing i read left with
  | nil hgap =>
    rcases h.skip with ⟨j, hskip, hnext⟩
    rw [hleft, List.append_assoc, nextToken_gap hgap, List.cons_append,
      nextToken_lead (by decide)] at hnext
    have hclose : data.startsWith (ascii ">>") j = true := by
      rw [hnext.startsWith]
      simp [ascii, List.isPrefixOf]
    refine ⟨j + 2, ?_, @Stands.append data j rest [62, 62] hnext⟩
    apply Comp.returns_loop.2 (Or.inr (Or.inl ⟨_, _, rfl⟩))
    rw [dictStep, Comp.returns_ok_bind]
    refine ⟨j, Comp.returns_ofExcept.2 hskip.symm, ?_⟩
    rw [if_pos hclose, List.append_nil]
    exact Comp.returns_pure.2 rfl
  | cons hgap hkey hgap' ho hend hmore hapart ih =>
    rename_i key o fields gap raw gap' text more
    rcases h.skip with ⟨j, hskip, hnext⟩
    have htoken : nextToken (gap ++ 47 :: raw ++ gap' ++ text ++ more ++ rest) =
        47 :: (raw ++ (gap' ++ text ++ (more ++ rest))) := by
      simp only [List.append_assoc]
      rw [nextToken_gap hgap, List.cons_append, nextToken_lead (by decide)]
    rw [hleft, htoken] at hnext
    have hopen : data.startsWith (ascii ">>") j = false := by
      rw [hnext.startsWith]
      simp [ascii, List.isPrefixOf]
    have htext : gap' ++ text ≠ [] := by
      rcases spells_begins ho with ⟨b, tail, rfl, _⟩
      simp
    have hends : EndsToken (gap' ++ text ++ (more ++ rest)) := by
      intro b hb
      rcases List.exists_cons_of_ne_nil htext with ⟨c, tail, htail⟩
      rw [htail] at hb hend
      exact hend b hb
    have hname := name_nameText hkey hends hnext
    have hfresh : read.any (fun field => decide (field.1 = key)) = false := by
      rw [List.any_eq_false]
      intro field hfield
      rw [decide_eq_true_eq]
      rintro rfl
      rw [List.map_append, List.map_cons] at hkeys
      exact (List.nodup_append.1 hkeys).2.2 _ (List.mem_map_of_mem hfield) _
        (List.mem_cons_self ..) rfl
    rcases hread o text ho _ gap' (more ++ rest) hgap'
      (hapart.append (members_nonempty hmore) rest) ((members_next hmore rest).follows o)
      hnext.next.append with ⟨k, hitem, hstands⟩
    rcases ih (read ++ [(key, o)]) (by simpa using hkeys) (nextToken_leftOver o _) hstands with
      ⟨l, hloop, hlast⟩
    refine ⟨l, ?_, hlast⟩
    rw [List.append_assoc, List.singleton_append] at hloop
    apply Comp.returns_loop.2 (Or.inr (Or.inr ⟨(k, read ++ [(key, o)]), _, hloop⟩))
    rw [Comp.Next, dictStep, Comp.returns_ok_bind]
    refine ⟨j, Comp.returns_ofExcept.2 hskip.symm, ?_⟩
    rw [hopen, if_neg Bool.false_ne_true, Comp.returns_ok_bind]
    refine ⟨(key, j + 1 + raw.length), Comp.returns_ofExcept.2 hname.symm, ?_⟩
    simp only [hfresh, Bool.false_eq_true, if_false]
    rw [Comp.returns_ok_bind]
    exact ⟨(o, k), hitem, Comp.returns_pure.2 rfl⟩

end Containers

/-! ## Values -/

section Values

variable {zlib : Zlib} {data : Bytes} {rest : Bytes}

/-- An atom opens no dictionary and no array. -/
theorem Atom.closed {o : PdfObject} {text : Bytes} (h : Atom o text) {i : Int}
    (hstands : Stands data i (text ++ rest)) :
    data.startsWith (ascii "<<") i = false ∧ data.startsWith (ascii "[") i = false := by
  have hall : ∀ {b : UInt8} {more : Bytes}, text = b :: more → b ≠ 60 → b ≠ 91 →
      data.startsWith (ascii "<<") i = false ∧ data.startsWith (ascii "[") i = false := by
    rintro b more rfl hangle hbracket
    constructor
    · rw [hstands.startsWith]
      simpa [ascii, List.isPrefixOf] using fun heq => absurd heq.symm hangle
    · exact Stands.not_startsWith hstands hbracket
  have hnumber : ∀ {n : Int} {digits more : Bytes}, IntText n digits → text = digits ++ more →
      data.startsWith (ascii "<<") i = false ∧ data.startsWith (ascii "[") i = false := by
    intro n digits more hdigits htext
    rcases hdigits.begins with ⟨b, tail, rfl, _, _, hb⟩
    simp only [List.mem_cons, List.not_mem_nil, or_false, not_or] at hb
    exact hall htext hb.2.1 hb.2.2.2
  cases h with
  | null => exact hall rfl (by decide) (by decide)
  | isTrue => exact hall rfl (by decide) (by decide)
  | isFalse => exact hall rfl (by decide) (by decide)
  | int htext => exact hnumber htext (List.append_nil _).symm
  | ref hn _ _ _ _ _ =>
    apply hnumber (.plain hn)
    rw [List.append_assoc, List.append_assoc, List.append_assoc]
  | name _ => exact hall rfl (by decide) (by decide)
  | literal _ _ => exact hall rfl (by decide) (by decide)
  | hex _ _ hbody =>
    rename_i text digits raw body _ _
    refine ⟨?_, Stands.not_startsWith hstands (by decide)⟩
    -- The byte behind the bracket is white space, a digit or the closing bracket.
    rw [hstands.startsWith]
    cases body with
    | nil => simp [ascii, List.isPrefixOf]
    | cons b body =>
      have hb : b ≠ 60 := by
        rintro rfl
        rcases hbody.hex 60 (List.mem_cons_self ..) with hws | hhex
        · cases hws
        · cases hhex
      simpa [ascii, List.isPrefixOf] using fun heq => absurd heq.symm hb

theorem finishDict_leaves {fields : Fields} {i : Int} (hstream : ¬ ascii "stream" <+: nextToken rest)
    (h : Stands data i rest) :
    ∃ j, finishDict zlib data fields i = .ok (.dict fields, j) ∧ Stands data j (nextToken rest) := by
  rcases h.skip with ⟨j, hskip, hnext⟩
  have hnot : data.startsWith (ascii "stream") j = false := by
    rw [hnext.startsWith, ← Bool.not_eq_true, List.isPrefixOf_iff_prefix]
    exact hstream
  refine ⟨j, ?_, hnext⟩
  rw [finishDict, hskip]
  simp only [bind, Except.bind, hnot, Bool.false_eq_true, if_false]

theorem value_atom {o : PdfObject} {text : Bytes} (hatom : Atom o text) (levels : Nat) :
    ReadsAs data (value zlib data (levels + 1)) o text := by
  intro i gap rest hgap hapart hfollows h
  rcases h with ⟨before, hdata, hi⟩
  have hstands : Stands data i (gap ++ (text ++ rest)) := ⟨before, by simpa using hdata, hi⟩
  rcases hstands.skip with ⟨j, hskip, hnext⟩
  rcases hatom.begins with ⟨b, more, htext, hb⟩
  have htoken : nextToken (text ++ rest) = text ++ rest := by
    rw [htext]
    exact nextToken_lead (beginsObject_iff.1 hb).1 _
  rw [nextToken_gap hgap, htoken] at hnext
  have hinside : ¬ (data.length : Int) ≤ j := by
    rw [htext] at hnext
    exact Int.not_le.2 (Stands.lt hnext)
  have hclosed := hatom.closed hnext
  have hleft : leftOver o rest = rest := by
    cases hatom <;> rfl
  refine ⟨j + text.length, ?_, by rw [hleft]; exact hnext.append⟩
  rw [value, Comp.returns_ok_bind]
  refine ⟨j, Comp.returns_ofExcept.2 hskip.symm, ?_⟩
  rw [if_neg hinside, hclosed.1, if_neg Bool.false_ne_true, hclosed.2, if_neg Bool.false_ne_true]
  exact Comp.returns_ofExcept.2 (atom_reads hatom hapart hfollows hnext).symm

/-- A spelling that opens with these bytes is where the reader stops skipping. -/
theorem value_opens {i : Int} {gap body : Bytes} {b : UInt8} (hgap : Gap gap)
    (hb : isLead b = true) (h : Stands data i (gap ++ (b :: body) ++ rest)) :
    ∃ j, skip data i = .ok j ∧ Stands data j (b :: (body ++ rest)) ∧
      ¬ (data.length : Int) ≤ j := by
  rcases h with ⟨before, hdata, hi⟩
  have hstands : Stands data i (gap ++ (b :: (body ++ rest))) := ⟨before, by simpa using hdata, hi⟩
  rcases hstands.skip with ⟨j, hskip, hnext⟩
  rw [nextToken_gap hgap, nextToken_lead hb] at hnext
  exact ⟨j, hskip, hnext, Int.not_le.2 hnext.lt⟩

theorem value_array {levels : Nat} {items : List PdfObject} {body : Bytes}
    (hread : ∀ o text, Spells levels o text → ReadsAs data (value zlib data (levels + 1)) o text)
    (hitems : Items (Spells levels) items body) :
    ReadsAs data (value zlib data (levels + 2)) (.array items) (91 :: body) := by
  intro i gap rest hgap _ _ h
  rcases value_opens hgap (by decide) h with ⟨j, hskip, hnext, hinside⟩
  have hdict : data.startsWith (ascii "<<") j = false := by
    rw [hnext.startsWith]
    simp [ascii, List.isPrefixOf]
  have harray : data.startsWith (ascii "[") j = true := hnext.startsWith_self
  rcases array_loop hread hitems [] rfl hnext.next with ⟨k, hloop, hend⟩
  refine ⟨k, ?_, hend⟩
  rw [value, Comp.returns_ok_bind]
  refine ⟨j, Comp.returns_ofExcept.2 hskip.symm, ?_⟩
  rw [if_neg hinside, hdict, if_neg Bool.false_ne_true, if_pos harray]
  exact hloop

theorem value_dict {levels : Nat} {fields : Fields} {body : Bytes}
    (hread : ∀ o text, Spells levels o text → ReadsAs data (value zlib data (levels + 1)) o text)
    (hkeys : (fields.map Prod.fst).Nodup) (hmembers : Members (Spells levels) fields body) :
    ReadsAs data (value zlib data (levels + 2)) (.dict fields) (60 :: 60 :: body) := by
  intro i gap rest hgap _ hfollows h
  rcases value_opens hgap (by decide) h with ⟨j, hskip, hnext, hinside⟩
  have hdict : data.startsWith (ascii "<<") j = true := by
    rw [hnext.startsWith]
    simp [ascii, List.isPrefixOf]
  have hinner : Stands data (j + 2) (body ++ rest) := @Stands.append data j (body ++ rest) [60, 60] hnext
  rcases dict_loop hread hmembers [] hkeys rfl hinner with ⟨k, hloop, hend⟩
  rcases @finishDict_leaves zlib data rest fields k hfollows hend with ⟨l, hfinish, hlast⟩
  refine ⟨l, ?_, hlast⟩
  rw [value, Comp.returns_ok_bind]
  refine ⟨j, Comp.returns_ofExcept.2 hskip.symm, ?_⟩
  rw [if_neg hinside, if_pos hdict, dict, Comp.returns_ok_bind]
  exact ⟨(fields, k), hloop, Comp.returns_ofExcept.2 hfinish.symm⟩

/-- Every spelling of at most so many levels is read with one level more. -/
theorem value_spells (levels : Nat) (o : PdfObject) (text : Bytes) (h : Spells levels o text) :
    ReadsAs data (value zlib data (levels + 1)) o text := by
  induction levels generalizing o text with
  | zero => exact value_atom h 0
  | succ levels ih =>
    cases h with
    | atom h => exact value_atom h (levels + 1)
    | array h => exact value_array ih h
    | dict hkeys h => exact value_dict ih hkeys h

end Values

/-! ## The reader -/

/-- What the reader of a value does on a spelling that stands behind these bytes: the object, and the
cursor behind it. -/
def ReadsBack (zlib : Zlib) (before gap text rest : Bytes) (o : PdfObject) (left : Bytes) : Prop :=
  ∃ j, (readValue zlib (before ++ gap ++ text ++ rest) before.length).Returns (.ok (o, j)) ∧
    Stands (before ++ gap ++ text ++ rest) j left

/-- The cursor stops at one place only. -/
theorem ReadsBack.unique {zlib : Zlib} {before gap text rest left left' : Bytes} {o o' : PdfObject}
    (h : ReadsBack zlib before gap text rest o left)
    (h' : ReadsBack zlib before gap text rest o' left') : left = left' := by
  rcases h with ⟨j, hread, hstands⟩
  rcases h' with ⟨j', hread', hstands'⟩
  have hsame := Except.ok.inj (hread.unique hread')
  rw [(Prod.mk.inj hsame).2] at hstands
  exact hstands.unique hstands'

/-- Reading inverts printing: the object, and the cursor right behind it or, behind a dictionary, before
the next token. -/
theorem spelling_reads_back (zlib : Zlib) {before gap text rest : Bytes} {o : PdfObject}
    (hgap : Gap gap) (htext : Spells maxDepth o text) (hapart : Apart o rest)
    (hfollows : Follows o rest) :
    ReadsBack zlib before gap text rest o (leftOver o rest) :=
  value_spells maxDepth o text htext _ gap rest hgap hapart hfollows ⟨before, by simp, rfl⟩

/-- No stream is inflated here. -/
def noZlib : Zlib :=
  { decompress := fun _ => none
    decompressRaw := fun _ => none }

/-- `<</K [1 (\101)]>>`, behind a space and before `endobj`. -/
theorem spelling_reads_back_dictionary :
    ReadsBack noZlib (ascii "obj") (ascii " ") (ascii "<</K [1 (\\101)]>>") (ascii " endobj")
      (.dict [(['K'], .array [.int 1, .text ⟨['A'], none⟩])]) (ascii "endobj") := by
  have hdigits : Digits (ascii "1") := ⟨by decide, List.all_iff_forall_prop.1 (by decide), by decide⟩
  have hone : Spells 62 (.int (decimalOf (ascii "1"))) (ascii "1") := .atom (.int (.plain hdigits))
  have hlatin : TextBytes (latin1 (ascii "A")) (ascii "A") := .latin (by decide) (by decide)
  have hbody : LiteralBody 0 (ascii "A") (ascii "\\101)") :=
    @LiteralBody.octal 0 (ascii "101") [] [41] (List.all_iff_forall_prop.1 (by decide)) (by decide)
      (by decide) (fun hlt => absurd hlt (by decide)) .close
  have htext : Spells 62 (.text ⟨latin1 (ascii "A"), none⟩) (ascii "(\\101)") :=
    .atom (.literal hlatin hbody)
  have hlast : Items (Spells 62) [.text ⟨latin1 (ascii "A"), none⟩] (ascii " (\\101)]") :=
    @Items.cons _ _ _ (ascii " ") (ascii "(\\101)") (ascii "]") (.blank (by decide) .nil) htext (.nil .nil) (by rintro ⟨⟩)
  have hitems : Items (Spells 62) [.int 1, .text ⟨['A'], none⟩] (ascii "1 (\\101)]") :=
    @Items.cons _ _ _ [] (ascii "1") (ascii " (\\101)]") .nil hone hlast (by rintro - b ⟨⟩; decide)
  have hkey : NameText ['K'] (ascii "K") := @NameText.plain 75 _ _ (by decide) (by decide) .nil
  have hmembers : Members (Spells 63) [(['K'], .array [.int 1, .text ⟨['A'], none⟩])]
      (ascii "/K [1 (\\101)]>>") :=
    @Members.cons _ _ _ _ [] (ascii "K") (ascii " ") (ascii "[1 (\\101)]") (ascii ">>") .nil hkey
      (.blank (by decide) .nil) (.array hitems) (by rintro b ⟨⟩; decide) (.nil .nil) (by rintro ⟨⟩)
  apply spelling_reads_back noZlib
  · exact .blank (by decide) .nil
  · exact .dict (by decide) hmembers
  · rintro ⟨⟩
  · show ¬ _ <+: _
    decide

/-- Behind an empty dictionary the reader passes the white space too: it looks for a stream. -/
theorem dictionary_read_to_next_token :
    Gap [] ∧ Spells maxDepth (.dict []) (ascii "<<>>") ∧ Apart (.dict []) (ascii " 0") ∧
      ¬ ReadsBack noZlib [] [] (ascii "<<>>") (ascii " 0") (.dict []) (ascii " 0") := by
  have htext : Spells maxDepth (.dict []) (ascii "<<>>") := .dict (by decide) (.nil .nil)
  refine ⟨.nil, htext, by rintro ⟨⟩, ?_⟩
  intro hstops
  have hreads : ReadsBack noZlib [] [] (ascii "<<>>") (ascii " 0") (.dict []) (ascii "0") :=
    value_spells maxDepth (.dict []) _ htext _ [] (ascii " 0") .nil (by rintro ⟨⟩)
      (by show ¬ _ <+: _; decide) ⟨[], rfl, rfl⟩
  exact absurd (hstops.unique hreads) (by decide)

end Assets
end MoneyMachine
