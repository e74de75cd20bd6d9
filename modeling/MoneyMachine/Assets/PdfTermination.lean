import Mathlib.Data.Int.Interval
import MoneyMachine.Assets.PdfReader

/-!
# PdfTermination — when opening a PDF comes to an end

The loops of the reader are decided by the position of the cursor, so one that comes back to a
position never ends:

* `ItemMove`    : an array goes from one item to the next; a stream among them moves the cursor by
  its `/Length`, which may be negative;
* a dictionary refuses a key that it has, and a position it comes back to gives the same key, so its
  loop always ends;
* `SectionMove` : a cross-reference table goes to the next section; without a line break `find`
  answers `-1` and the next section is read from the beginning of the file;
* `Contained`   : `get` looks for a compressed object in the stream that holds it, which is itself an
  object of the document.

`NeverComesBack` says that none of them comes back, and `opening_terminates_iff` that this is exactly
when opening a document, `get` and `deref` terminate.
-/

namespace MoneyMachine
namespace Assets

open MoneyMachine.Library
open Relation

/-! ## The cursor -/

section Cursor

variable {data : Bytes}

theorem skip_of_length_le {i : Int} (h : (data.length : Int) ≤ i) : skip data i = .ok i := by
  have hrounds : ((data.length : Int) - i).toNat = 0 := by omega
  unfold skip
  rw [hrounds]
  rfl

/-- Before the first byte there is nothing to index. -/
theorem skip_low {i j : Int} (h : skip data i = .ok j) : -(data.length : Int) ≤ i := by
  by_contra hlow
  have hat : data.at? i = none := Bytes.at?_eq_none_of_lt (by omega)
  have hrounds : ∃ rounds, ((data.length : Int) - i).toNat = rounds + 1 := by
    refine ⟨((data.length : Int) - i).toNat - 1, ?_⟩
    omega
  rcases hrounds with ⟨rounds, hrounds⟩
  have hbyte : byteAt data i = .error .index := by simp [byteAt, hat]
  have herror : skip data i = .error .index := by
    unfold skip
    rw [hrounds, skipRounds, if_pos (by omega), hbyte]
    rfl
  rw [herror] at h
  cases h

/-- A loop over the bytes goes only forward. -/
theorem advance_le {p : UInt8 → Bool} {rounds : Nat} {i j : Int}
    (h : advance data p rounds i = .ok j) : i ≤ j := by
  induction rounds generalizing i with
  | zero => exact le_of_eq (Except.ok.inj h)
  | succ rounds ih =>
    rw [advance] at h
    by_cases hlt : i < data.length
    · rw [if_pos hlt] at h
      cases hbyte : byteAt data i with
      | error e =>
        rw [hbyte] at h
        cases h
      | ok b =>
        rw [hbyte] at h
        by_cases hp : p b
        · have hrest : advance data p rounds (i + 1) = .ok j := by
            simpa [Except.bind, bind, hp] using h
          have hle := ih hrest
          omega
        · have hsame : i = j := by
            simpa [Except.bind, bind, hp] using h
          omega
    · rw [if_neg hlt] at h
      exact le_of_eq (Except.ok.inj h)

theorem name_le {i j : Int} {key : List Char} (h : name data i = .ok (key, j)) : i < j := by
  unfold name advanceWhile at h
  cases hscan : advance data (fun b => !isDelim b) (data.length - (i + 1)).toNat (i + 1) with
  | error e =>
    rw [hscan] at h
    cases h
  | ok k =>
    rw [hscan] at h
    have hle := advance_le hscan
    have hsame : k = j := (Prod.mk.inj (Except.ok.inj h)).2
    omega

end Cursor

/-! ## Arrays -/

section Arrays

variable {data : Bytes} {item : ReadValue}

/-- Where the next item of an array is read. -/
def ItemAt (data : Bytes) (i j : Int) : Prop :=
  skip data i = .ok j ∧ data.startsWith (ascii "]") j = false

/-- The cursor goes from one item of an array to the next. -/
def ItemMove (data : Bytes) (item : ReadValue) (i k : Int) : Prop :=
  ∃ j v, ItemAt data i j ∧ (item j).Returns (.ok (v, k))

/-- An array comes back to an item, or reads one that does not end. -/
def ArrayComesBack (data : Bytes) (item : ReadValue) (back : Int → Prop) (i : Int) : Prop :=
  ∃ j, ReflTransGen (ItemMove data item) (i + 1) j ∧
    (TransGen (ItemMove data item) j j ∨ ∃ k, ItemAt data j k ∧ back k)

theorem arrayStep_next {s s' : Int × List PdfObject} :
    Comp.Next (arrayStep data item) s s' ↔
      ∃ j v, ItemAt data s.1 j ∧ (item j).Returns (.ok (v, s'.1)) ∧ s'.2 = s.2 ++ [v] := by
  unfold Comp.Next arrayStep
  rw [Comp.returns_ok_bind]
  constructor
  · rintro ⟨j, hskip, hrest⟩
    have hskip' : skip data s.1 = .ok j := (Comp.returns_ofExcept.1 hskip).symm
    by_cases hend : data.startsWith (ascii "]") j = true
    · rw [if_pos hend] at hrest
      cases Comp.returns_pure.1 hrest
    · rw [if_neg hend, Comp.returns_ok_bind] at hrest
      rcases hrest with ⟨⟨v, k⟩, hitem, hpure⟩
      have hsame := Sum.inl.inj (Except.ok.inj (Comp.returns_pure.1 hpure))
      subst hsame
      exact ⟨j, v, ⟨hskip', by simpa using hend⟩, hitem, rfl⟩
  · rintro ⟨j, v, ⟨hskip, hend⟩, hitem, hitems⟩
    refine ⟨j, Comp.returns_ofExcept.2 hskip.symm, ?_⟩
    rw [if_neg (by simp [hend]), Comp.returns_ok_bind]
    refine ⟨(v, s'.1), hitem, Comp.returns_pure.2 ?_⟩
    rw [← hitems]

theorem arrayStep_halts {s : Int × List PdfObject} :
    (arrayStep data item s).Halts ↔ ∀ j, ItemAt data s.1 j → (item j).Halts := by
  unfold arrayStep
  rw [Comp.halts_ofExcept_bind]
  constructor
  · intro h j hitem
    have hhalts := h j hitem.1
    rw [if_neg (by simp [hitem.2]), Comp.halts_bind] at hhalts
    exact hhalts.1
  · intro h j hskip
    by_cases hend : data.startsWith (ascii "]") j = true
    · rw [if_pos hend]
      exact Comp.halts_pure _
    · rw [if_neg hend, Comp.halts_bind]
      refine ⟨h j ⟨hskip, by simpa using hend⟩, ?_⟩
      intro a _
      exact Comp.halts_pure _

/-- A reader that refuses to read behind the end. -/
def Bounded (data : Bytes) (item : ReadValue) : Prop :=
  ∀ {i v j}, (item i).Returns (.ok (v, j)) → i < data.length

theorem ItemMove.bounds (hitem : Bounded data item) {i k : Int} (h : ItemMove data item i k) :
    -(data.length : Int) ≤ i ∧ i < data.length := by
  rcases h with ⟨j, v, hat, hreturns⟩
  refine ⟨skip_low hat.1, ?_⟩
  by_contra hge
  have hsame : skip data i = .ok i := skip_of_length_le (by omega)
  rw [hat.1] at hsame
  cases hsame
  exact hge (hitem hreturns)

theorem finite_itemMove (hitem : Bounded data item) :
    Set.Finite {i | ∃ j, ItemMove data item i j} := by
  refine (Set.finite_Ico (-(data.length : Int)) data.length).subset ?_
  rintro i ⟨j, hmove⟩
  exact hmove.bounds hitem

/-- An array ends exactly when its cursor does not come back. -/
theorem array_halts {back : Int → Prop} (hitem : Bounded data item)
    (hback : ∀ i, (item i).Halts ↔ ¬ back i) {i : Int} :
    (array data item i).Halts ↔ ¬ ArrayComesBack data item back i := by
  have hstep : ∀ s s', Comp.Next (arrayStep data item) s s' → ItemMove data item s.1 s'.1 := by
    intro s s' hnext
    rcases arrayStep_next.1 hnext with ⟨j, v, hat, hreturns, _⟩
    exact ⟨j, v, hat, hreturns⟩
  have hlift : ∀ (s : Int × List PdfObject) k, ItemMove data item s.1 k →
      ∃ s', Comp.Next (arrayStep data item) s s' ∧ s'.1 = k := by
    rintro s k ⟨j, v, hat, hreturns⟩
    exact ⟨(k, s.2 ++ [v]), arrayStep_next.2 ⟨j, v, hat, hreturns, rfl⟩, rfl⟩
  have hhalts : ∀ s, (arrayStep data item s).Halts ↔ ∀ j, ItemAt data s.1 j → ¬ back j := by
    intro s
    rw [arrayStep_halts]
    exact forall₂_congr (fun j _ => hback j)
  unfold array
  rw [Comp.halts_loop_iff_of_position (P := fun i => ∀ j, ItemAt data i j → ¬ back j)
    hstep hlift hhalts (finite_itemMove hitem)]
  constructor
  · rintro h ⟨j, hreach, hcycle | ⟨k, hat, hk⟩⟩
    · exact (h j hreach).2 hcycle
    · exact (h j hreach).1 k hat hk
  · intro h j hreach
    refine ⟨?_, ?_⟩
    · intro k hat hk
      exact h ⟨j, hreach, Or.inr ⟨k, hat, hk⟩⟩
    · intro hcycle
      exact h ⟨j, hreach, Or.inl hcycle⟩

end Arrays

/-! ## Dictionaries -/

section Dictionaries

variable {data : Bytes} {item : ReadValue}

/-- Where the value of the next key of a dictionary is read. -/
def ValueAt (data : Bytes) (s : Int × Fields) (key : List Char) (j : Int) : Prop :=
  ∃ i, skip data s.1 = .ok i ∧ data.startsWith (ascii ">>") i = false ∧
    name data i = .ok (key, j) ∧ ∀ v, (key, v) ∉ s.2

/-- A dictionary reads a value that does not end. -/
def DictComesBack (data : Bytes) (item : ReadValue) (back : Int → Prop) (i : Int) : Prop :=
  ∃ s, ReflTransGen (Comp.Next (dictStep data item)) (i + 2, []) s ∧
    ∃ key j, ValueAt data s key j ∧ back j

theorem any_key_iff {fields : Fields} {key : List Char} :
    fields.any (fun field => decide (field.1 = key)) = true ↔ ∃ v, (key, v) ∈ fields := by
  rw [List.any_eq_true]
  constructor
  · rintro ⟨⟨key', v⟩, hmem, hkey⟩
    have hsame : key' = key := of_decide_eq_true hkey
    exact ⟨v, hsame ▸ hmem⟩
  · rintro ⟨v, hmem⟩
    exact ⟨(key, v), hmem, decide_eq_true rfl⟩

theorem dictStep_next {s s' : Int × Fields} :
    Comp.Next (dictStep data item) s s' ↔
      ∃ key j v, ValueAt data s key j ∧ (item j).Returns (.ok (v, s'.1)) ∧
        s'.2 = s.2 ++ [(key, v)] := by
  unfold Comp.Next dictStep
  rw [Comp.returns_ok_bind]
  constructor
  · rintro ⟨i, hskip, hrest⟩
    have hskip' : skip data s.1 = .ok i := (Comp.returns_ofExcept.1 hskip).symm
    by_cases hend : data.startsWith (ascii ">>") i = true
    · rw [if_pos hend] at hrest
      cases Comp.returns_pure.1 hrest
    · rw [if_neg hend, Comp.returns_ok_bind] at hrest
      rcases hrest with ⟨⟨key, j⟩, hname, hrest⟩
      have hname' : name data i = .ok (key, j) := (Comp.returns_ofExcept.1 hname).symm
      dsimp only at hrest
      by_cases hany : s.2.any (fun field => decide (field.1 = key)) = true
      · rw [if_pos hany] at hrest
        cases Comp.returns_ofExcept.1 hrest
      · rw [if_neg hany, Comp.returns_ok_bind] at hrest
        rcases hrest with ⟨⟨v, k⟩, hitem, hpure⟩
        have hsame := Sum.inl.inj (Except.ok.inj (Comp.returns_pure.1 hpure))
        subst hsame
        have hnew : ∀ v, (key, v) ∉ s.2 := fun v hmem => hany (any_key_iff.2 ⟨v, hmem⟩)
        exact ⟨key, j, v, ⟨i, hskip', by simpa using hend, hname', hnew⟩, hitem, rfl⟩
  · rintro ⟨key, j, v, ⟨i, hskip, hend, hname, hnew⟩, hitem, hfields⟩
    refine ⟨i, Comp.returns_ofExcept.2 hskip.symm, ?_⟩
    rw [if_neg (by simp [hend]), Comp.returns_ok_bind]
    refine ⟨(key, j), Comp.returns_ofExcept.2 hname.symm, ?_⟩
    have hany : ¬ s.2.any (fun field => decide (field.1 = key)) = true := by
      intro hany
      rcases any_key_iff.1 hany with ⟨v, hmem⟩
      exact hnew v hmem
    dsimp only
    rw [if_neg hany, Comp.returns_ok_bind]
    refine ⟨(v, s'.1), hitem, Comp.returns_pure.2 ?_⟩
    rw [← hfields]

theorem dictStep_halts {s : Int × Fields} :
    (dictStep data item s).Halts ↔ ∀ key j, ValueAt data s key j → (item j).Halts := by
  unfold dictStep
  rw [Comp.halts_ofExcept_bind]
  constructor
  · rintro h key j ⟨i, hskip, hend, hname, hnew⟩
    have hhalts := h i hskip
    rw [if_neg (by simp [hend]), Comp.halts_ofExcept_bind] at hhalts
    have hvalue := hhalts (key, j) hname
    dsimp only at hvalue
    have hany : ¬ s.2.any (fun field => decide (field.1 = key)) = true := by
      intro hany
      rcases any_key_iff.1 hany with ⟨v, hmem⟩
      exact hnew v hmem
    rw [if_neg hany, Comp.halts_bind] at hvalue
    exact hvalue.1
  · intro h i hskip
    by_cases hend : data.startsWith (ascii ">>") i = true
    · rw [if_pos hend]
      exact Comp.halts_pure _
    · rw [if_neg hend, Comp.halts_ofExcept_bind]
      rintro ⟨key, j⟩ hname
      dsimp only
      by_cases hany : s.2.any (fun field => decide (field.1 = key)) = true
      · rw [if_pos hany]
        exact Comp.halts_ofExcept _
      · have hnew : ∀ v, (key, v) ∉ s.2 := fun v hmem => hany (any_key_iff.2 ⟨v, hmem⟩)
        rw [if_neg hany, Comp.halts_bind]
        refine ⟨h key j ⟨i, hskip, by simpa using hend, hname, hnew⟩, ?_⟩
        intro a _
        exact Comp.halts_pure _

theorem dictStep_bounds (hitem : Bounded data item) {s s' : Int × Fields}
    (h : Comp.Next (dictStep data item) s s') :
    -(data.length : Int) ≤ s.1 ∧ s.1 < data.length := by
  rcases dictStep_next.1 h with ⟨key, j, v, ⟨i, hskip, _, hname, _⟩, hreturns, _⟩
  refine ⟨skip_low hskip, ?_⟩
  by_contra hge
  have hsame : skip data s.1 = .ok s.1 := skip_of_length_le (by omega)
  rw [hskip] at hsame
  cases hsame
  have hlt := name_le hname
  have hend := hitem hreturns
  omega

/-- The fields that were read stay. -/
theorem mem_of_reach {s s' : Int × Fields} (h : ReflTransGen (Comp.Next (dictStep data item)) s s')
    {field : List Char × PdfObject} (hmem : field ∈ s.2) : field ∈ s'.2 := by
  induction h with
  | refl => exact hmem
  | tail _ hnext ih =>
    rcases dictStep_next.1 hnext with ⟨key, j, v, _, _, hfields⟩
    rw [hfields]
    exact List.mem_append_left _ ih

/-- The loop of a dictionary ends: the same position gives the same key, and a key that is there is
refused. -/
theorem dict_acc (hitem : Bounded data item) (s : Int × Fields) :
    Acc (flip (Comp.Next (dictStep data item))) s := by
  by_contra hacc
  have hfinite : Set.Finite
      {b | ∃ s s', Comp.Next (dictStep data item) s s' ∧ (Prod.fst : Int × Fields → Int) s = b} := by
    refine (Set.finite_Ico (-(data.length : Int)) data.length).subset ?_
    rintro _ ⟨s, s', hnext, rfl⟩
    exact dictStep_bounds hitem hnext
  rcases exists_repeat_of_not_acc hfinite hacc with ⟨s₁, s₂, s₃, _, hcycle, hlast, hpos⟩
  rcases TransGen.head'_iff.1 hcycle with ⟨s₁', hfirst, hreach⟩
  rcases dictStep_next.1 hfirst with ⟨key, j, v, ⟨i, hskip, _, hname, _⟩, _, hfields⟩
  rcases dictStep_next.1 hlast with ⟨key', j', v', ⟨i', hskip', _, hname', hnew⟩, _, _⟩
  rw [← hpos, hskip] at hskip'
  cases hskip'
  rw [hname] at hname'
  cases hname'
  have hthere : (key, v) ∈ s₁'.2 := by
    rw [hfields]
    exact List.mem_append_right _ (List.mem_singleton.2 rfl)
  exact hnew v (mem_of_reach hreach hthere)

/-- A dictionary ends exactly when no value of it comes back. -/
theorem dict_halts {zlib : Zlib} {back : Int → Prop} (hitem : Bounded data item)
    (hback : ∀ i, (item i).Halts ↔ ¬ back i) {i : Int} :
    (dict zlib data item i).Halts ↔ ¬ DictComesBack data item back i := by
  have hloop : (dict zlib data item i).Halts ↔
      (Comp.loop (dictStep data item) (i + 2, [])).Halts := by
    unfold dict
    rw [Comp.halts_bind]
    refine ⟨And.left, ?_⟩
    intro h
    refine ⟨h, ?_⟩
    intro a _
    exact Comp.halts_ofExcept _
  rw [hloop, Comp.halts_loop_iff]
  constructor
  · rintro ⟨_, hall⟩ ⟨s, hreach, key, j, hvalue, hj⟩
    exact (hback j).1 (dictStep_halts.1 (hall s hreach) key j hvalue) hj
  · intro h
    refine ⟨dict_acc hitem _, ?_⟩
    intro s hreach
    refine dictStep_halts.2 ?_
    intro key j hvalue
    refine (hback j).2 ?_
    intro hj
    exact h ⟨s, hreach, key, j, hvalue, hj⟩

end Dictionaries

/-! ## Values -/

section Values

variable {zlib : Zlib} {data : Bytes}

theorem value_bounded (levels : Nat) : Bounded data (value zlib data levels) := by
  intro i v j h
  by_contra hge
  cases levels with
  | zero => cases Comp.returns_ofExcept.1 h
  | succ levels =>
    rw [value, Comp.returns_ok_bind] at h
    rcases h with ⟨k, hskip, hrest⟩
    have hsame : skip data i = .ok i := skip_of_length_le (by omega)
    rw [Comp.returns_ofExcept, hsame] at hskip
    cases hskip
    rw [if_pos (by omega)] at hrest
    cases Comp.returns_ofExcept.1 hrest

/-- The value at a position comes back: an array in it goes to an item it was at. -/
def ComesBack (zlib : Zlib) (data : Bytes) : Nat → Int → Prop
  | 0, _ => False
  | levels + 1, i =>
    ∃ j, skip data i = .ok j ∧ j < data.length ∧
      if data.startsWith (ascii "<<") j then
        DictComesBack data (value zlib data levels) (ComesBack zlib data levels) j
      else if data.startsWith (ascii "[") j then
        ArrayComesBack data (value zlib data levels) (ComesBack zlib data levels) j
      else
        False

/-- One level of a value, over the level below. -/
theorem value_halts_succ {levels : Nat} {i j : Int} (hskip : skip data i = .ok j)
    (hlt : j < data.length) (ih : ∀ i, (value zlib data levels i).Halts ↔
      ¬ ComesBack zlib data levels i) :
    (value zlib data (levels + 1) i).Halts ↔ ¬ ComesBack zlib data (levels + 1) i := by
  have hback : ComesBack zlib data (levels + 1) i ↔
      (if data.startsWith (ascii "<<") j then
        DictComesBack data (value zlib data levels) (ComesBack zlib data levels) j
      else if data.startsWith (ascii "[") j then
        ArrayComesBack data (value zlib data levels) (ComesBack zlib data levels) j
      else
        False) := by
    rw [ComesBack]
    constructor
    · rintro ⟨j', hskip', _, h⟩
      rw [hskip] at hskip'
      cases hskip'
      exact h
    · intro h
      exact ⟨j, hskip, hlt, h⟩
  rw [hback, value, Comp.halts_ok_bind hskip, if_neg (by omega)]
  by_cases hdict : data.startsWith (ascii "<<") j = true
  · rw [if_pos hdict, if_pos hdict]
    exact dict_halts (value_bounded levels) ih
  · rw [if_neg hdict, if_neg hdict]
    by_cases harray : data.startsWith (ascii "[") j = true
    · rw [if_pos harray, if_pos harray]
      exact array_halts (value_bounded levels) ih
    · rw [if_neg harray, if_neg harray]
      simp

/-- A value is read to its end exactly when it does not come back. -/
theorem value_halts (levels : Nat) (i : Int) :
    (value zlib data levels i).Halts ↔ ¬ ComesBack zlib data levels i := by
  induction levels generalizing i with
  | zero => simp [value, ComesBack]
  | succ levels ih =>
    by_cases hat : ∃ j, skip data i = .ok j ∧ j < data.length
    · rcases hat with ⟨j, hskip, hlt⟩
      exact value_halts_succ hskip hlt ih
    · have hback : ¬ ComesBack zlib data (levels + 1) i := by
        rintro ⟨j, hskip, hlt, _⟩
        exact hat ⟨j, hskip, hlt⟩
      refine iff_of_true ?_ hback
      rw [value, Comp.halts_ofExcept_bind]
      intro j hskip
      have hge : (data.length : Int) ≤ j := by
        by_contra hlt
        exact hat ⟨j, hskip, by omega⟩
      rw [if_pos hge]
      exact Comp.halts_ofExcept _

/-- `value()` from a position comes back. -/
def ReadComesBack (zlib : Zlib) (data : Bytes) (i : Int) : Prop :=
  ComesBack zlib data (maxDepth + 1) i

theorem readValue_halts {i : Int} : (readValue zlib data i).Halts ↔ ¬ ReadComesBack zlib data i :=
  value_halts _ i

/-- The object at an offset comes back. -/
def ObjectComesBack (zlib : Zlib) (pdf : Bytes) (offset : Int) : Prop :=
  ∃ i, objectStart pdf offset = .ok i ∧ ReadComesBack zlib pdf i

theorem parseAt_halts {offset : Int} :
    (parseAt zlib data offset).Halts ↔ ¬ ObjectComesBack zlib data offset := by
  unfold parseAt
  rw [Comp.halts_ofExcept_bind]
  constructor
  · rintro h ⟨i, hstart, hback⟩
    have hread := (Comp.halts_bind.1 (h i hstart)).1
    exact readValue_halts.1 hread hback
  · intro h i hstart
    rw [Comp.halts_bind]
    refine ⟨readValue_halts.2 (fun hback => h ⟨i, hstart, hback⟩), ?_⟩
    intro a _
    exact Comp.halts_pure _

end Values

/-! ## Sections of a cross-reference table -/

section Sections

variable {zlib : Zlib} {pdf : Bytes}

/-- The table goes from one section to the next. -/
def SectionMove (pdf : Bytes) (i j : Nat) : Prop :=
  pdf.startsWith (ascii "trailer") (skipBlank pdf i) = false ∧
    ∃ entries, readSection pdf (skipBlank pdf i) [] = .ok (j, entries)

/-- The trailer at an index comes back. -/
def TrailerComesBack (zlib : Zlib) (pdf : Bytes) (i : Nat) : Prop :=
  pdf.startsWith (ascii "trailer") (skipBlank pdf i) = true ∧
    ∃ j, trailerStart pdf (skipBlank pdf i) = .ok j ∧ ReadComesBack zlib pdf j

/-- Where the rows end does not depend on the entries before. -/
theorem readRows_index {count : Nat} {number : Int} {index j : Nat} {entries entries' : Entries}
    {found : Entries} (h : readRows pdf count number index entries = .ok (j, found)) :
    ∃ found', readRows pdf count number index entries' = .ok (j, found') := by
  induction count generalizing number index entries entries' with
  | zero =>
    cases h
    exact ⟨entries', rfl⟩
  | succ count ih =>
    rw [readRows] at h ⊢
    by_cases hrow : (pdf.slice index (index + 20)).slice 17 18 = ascii "n"
    · rw [if_pos hrow] at h
      rw [if_pos hrow]
      cases hoffset : readInt ((pdf.slice index (index + 20)).slice 0 10) with
      | error e =>
        rw [hoffset] at h
        cases h
      | ok offset =>
        rw [hoffset] at h
        cases hgeneration : readInt ((pdf.slice index (index + 20)).slice 11 16) with
        | error e =>
          rw [hgeneration] at h
          cases h
        | ok generation =>
          rw [hgeneration] at h
          exact ih h
    · rw [if_neg hrow] at h
      rw [if_neg hrow]
      exact ih h

theorem readSection_index {index j : Nat} {entries entries' found : Entries}
    (h : readSection pdf index entries = .ok (j, found)) :
    ∃ found', readSection pdf index entries' = .ok (j, found') := by
  unfold readSection at h ⊢
  dsimp only at h ⊢
  split at h
  · rename_i startText countText hsplit
    cases hstart : readInt startText with
    | error e =>
      rw [hstart] at h
      cases h
    | ok start =>
      rw [hstart] at h
      cases hcount : readInt countText with
      | error e =>
        rw [hcount] at h
        cases h
      | ok count =>
        rw [hcount] at h
        exact readRows_index h
  · cases h

/-- Behind the end there is no section. -/
theorem readSection_of_length_le {index : Nat} (h : pdf.length ≤ index) (entries : Entries) :
    readSection pdf index entries = .error .literal := by
  have hbound : Bytes.bound pdf.length (index : Int) = pdf.length := by
    unfold Bytes.bound
    rw [if_pos (by omega)]
    omega
  have hslice : pdf.slice index (pdf.find [10] index) = [] := by
    unfold Bytes.slice
    rw [hbound]
    exact List.drop_eq_nil_of_le (List.length_take_le' _ _)
  unfold readSection
  dsimp only
  rw [hslice]
  rfl

theorem le_skipBlank (index : Nat) : index ≤ skipBlank pdf index :=
  Nat.le_add_right _ _

theorem SectionMove.lt_length {i j : Nat} (h : SectionMove pdf i j) : i < pdf.length := by
  rcases h with ⟨_, entries, hread⟩
  by_contra hge
  have hle : i ≤ skipBlank pdf i := le_skipBlank i
  have herror := readSection_of_length_le (by omega : pdf.length ≤ skipBlank pdf i) []
  rw [herror] at hread
  cases hread

theorem finite_sectionMove : Set.Finite {i | ∃ j, SectionMove pdf i j} := by
  refine (Set.finite_lt_nat pdf.length).subset ?_
  rintro i ⟨j, hmove⟩
  exact hmove.lt_length

theorem trailerDict_halts {index : Int} :
    (trailerDict zlib pdf index).Halts ↔
      ∀ i, trailerStart pdf index = .ok i → ¬ ReadComesBack zlib pdf i := by
  unfold trailerDict
  rw [Comp.halts_ofExcept_bind]
  refine forall₂_congr ?_
  intro i _
  rw [Comp.halts_bind, readValue_halts]
  refine ⟨And.left, ?_⟩
  intro h
  refine ⟨h, ?_⟩
  rintro ⟨found, j⟩ _
  cases found <;> simp

theorem sectionStep_next {s s' : Nat × Entries} :
    Comp.Next (sectionStep zlib pdf) s s' ↔
      pdf.startsWith (ascii "trailer") (skipBlank pdf s.1) = false ∧
        readSection pdf (skipBlank pdf s.1) s.2 = .ok s' := by
  unfold Comp.Next sectionStep
  dsimp only
  by_cases htrailer : pdf.startsWith (ascii "trailer") (skipBlank pdf s.1) = true
  · rw [if_pos htrailer, Comp.returns_ok_bind]
    constructor
    · rintro ⟨trailer, _, hpure⟩
      cases Comp.returns_pure.1 hpure
    · rintro ⟨hno, _⟩
      rw [htrailer] at hno
      cases hno
  · rw [if_neg htrailer, Comp.returns_ok_bind]
    constructor
    · rintro ⟨next, hread, hpure⟩
      have hsame := Sum.inl.inj (Except.ok.inj (Comp.returns_pure.1 hpure))
      refine ⟨by simpa using htrailer, ?_⟩
      rw [hsame]
      exact (Comp.returns_ofExcept.1 hread).symm
    · rintro ⟨_, hread⟩
      exact ⟨s', Comp.returns_ofExcept.2 hread.symm, Comp.returns_pure.2 rfl⟩

theorem sectionStep_halts {s : Nat × Entries} :
    (sectionStep zlib pdf s).Halts ↔ ¬ TrailerComesBack zlib pdf s.1 := by
  unfold sectionStep TrailerComesBack
  dsimp only
  by_cases htrailer : pdf.startsWith (ascii "trailer") (skipBlank pdf s.1) = true
  · rw [if_pos htrailer, Comp.halts_bind, trailerDict_halts]
    constructor
    · rintro ⟨h, _⟩ ⟨_, j, hstart, hback⟩
      exact h j hstart hback
    · intro h
      refine ⟨fun j hstart hback => h ⟨htrailer, j, hstart, hback⟩, ?_⟩
      intro a _
      exact Comp.halts_pure _
  · rw [if_neg htrailer]
    refine iff_of_true ?_ (fun h => htrailer h.1)
    rw [Comp.halts_ofExcept_bind]
    intro a _
    exact Comp.halts_pure _

/-- A section that is read for one list of entries is read for every one. -/
theorem sectionMove_lift (s : Nat × Entries) (j : Nat) (h : SectionMove pdf s.1 j) :
    ∃ s', Comp.Next (sectionStep zlib pdf) s s' ∧ s'.1 = j := by
  rcases h with ⟨hno, entries, hread⟩
  have hindex : ∃ found, readSection pdf (skipBlank pdf s.1) s.2 = .ok (j, found) :=
    readSection_index hread
  rcases hindex with ⟨found, hread'⟩
  exact ⟨(j, found), sectionStep_next.2 ⟨hno, hread'⟩, rfl⟩

theorem sectionMove_of_next (s s' : Nat × Entries) (h : Comp.Next (sectionStep zlib pdf) s s') :
    SectionMove pdf s.1 s'.1 := by
  rcases sectionStep_next.1 h with ⟨hno, hread⟩
  have hread' : readSection pdf (skipBlank pdf s.1) s.2 = .ok (s'.1, s'.2) := hread
  exact ⟨hno, readSection_index hread'⟩

/-- The sections from an index on come back, or the trailer behind them does. -/
def SectionsComeBack (zlib : Zlib) (pdf : Bytes) (first : Nat) : Prop :=
  ∃ i, ReflTransGen (SectionMove pdf) first i ∧
    (TransGen (SectionMove pdf) i i ∨ TrailerComesBack zlib pdf i)

theorem sections_halts {first : Nat} {entries : Entries} :
    (Comp.loop (sectionStep zlib pdf) (first, entries)).Halts ↔
      ¬ SectionsComeBack zlib pdf first := by
  rw [Comp.halts_loop_iff_of_position (P := fun i => ¬ TrailerComesBack zlib pdf i)
    sectionMove_of_next sectionMove_lift (fun _ => sectionStep_halts) finite_sectionMove]
  constructor
  · rintro h ⟨i, hreach, hcycle | htrailer⟩
    · exact (h i hreach).2 hcycle
    · exact (h i hreach).1 htrailer
  · intro h i hreach
    refine ⟨?_, ?_⟩
    · intro htrailer
      exact h ⟨i, hreach, Or.inr htrailer⟩
    · intro hcycle
      exact h ⟨i, hreach, Or.inl hcycle⟩

/-- The cross-reference at an offset comes back. -/
def CrossReferenceComesBack (zlib : Zlib) (pdf : Bytes) (offset : Int) : Prop :=
  if pdf.startsWith (ascii "xref") offset then
    SectionsComeBack zlib pdf (firstSection pdf offset)
  else
    ObjectComesBack zlib pdf offset

theorem crossReference_halts {offset : Int} :
    (crossReference zlib pdf offset).Halts ↔ ¬ CrossReferenceComesBack zlib pdf offset := by
  unfold crossReference CrossReferenceComesBack xrefTable
  by_cases htable : pdf.startsWith (ascii "xref") offset = true
  · simp only [htable, if_true]
    exact sections_halts
  · rw [if_neg htable, if_neg htable, Comp.halts_bind, parseAt_halts]
    refine ⟨And.left, ?_⟩
    intro h
    refine ⟨h, ?_⟩
    intro found _
    cases found <;> simp

theorem openDocument_halts :
    (openDocument zlib pdf).Halts ↔
      ∀ offset, startxref pdf = .ok offset → ¬ CrossReferenceComesBack zlib pdf offset := by
  unfold openDocument
  rw [Comp.halts_ofExcept_bind]
  refine forall₂_congr ?_
  intro offset _
  rw [Comp.halts_bind, crossReference_halts]
  refine ⟨And.left, ?_⟩
  intro h
  refine ⟨h, ?_⟩
  rintro ⟨entries, trailer⟩ _
  dsimp only
  by_cases hprev : (trailer.get? "Prev").isSome = true
  · rw [if_pos hprev]
    exact Comp.halts_ofExcept _
  · rw [if_neg hprev]
    exact Comp.halts_pure _

end Sections

/-! ## Objects of a stream -/

section ObjectStreams

variable {zlib : Zlib} {data : Bytes}

/-- The bytes of the first object of the pairs that are left. -/
def objectBytes (data : Bytes) (first rel : Int) (rest : List (Int × Int)) : Bytes :=
  data.slice (first + rel)
    (match rest with
    | (_, next) :: _ => first + next
    | [] => data.length)

/-- An object comes back, and those before it could be read. -/
def ObjectsComeBack (zlib : Zlib) (data : Bytes) (first : Int) : List (Int × Int) → Prop
  | [] => False
  | (_, rel) :: rest =>
    ReadComesBack zlib (objectBytes data first rel rest) 0 ∨
      (∃ read, (readValue zlib (objectBytes data first rel rest) 0).Returns (.ok read)) ∧
        ObjectsComeBack zlib data first rest

theorem readObjects_halts {first : Int} {pairs : List (Int × Int)} :
    (readObjects zlib data first pairs).Halts ↔ ¬ ObjectsComeBack zlib data first pairs := by
  induction pairs with
  | nil => simp [readObjects, ObjectsComeBack]
  | cons pair rest ih =>
    rcases pair with ⟨number, rel⟩
    have hrest : ∀ read : PdfObject × Int,
        (readObjects zlib data first rest >>=
          fun objects => pure (objects ++ [(number, read.1)])).Halts ↔
            ¬ ObjectsComeBack zlib data first rest := by
      intro read
      rw [Comp.halts_bind, ih]
      refine ⟨And.left, ?_⟩
      intro h
      exact ⟨h, fun _ _ => Comp.halts_pure _⟩
    have hfirst : (readObjects zlib data first ((number, rel) :: rest)).Halts ↔
        (readValue zlib (objectBytes data first rel rest) 0).Halts ∧
          ∀ read, (readValue zlib (objectBytes data first rel rest) 0).Returns (.ok read) →
            (readObjects zlib data first rest >>=
              fun objects => pure (objects ++ [(number, read.1)])).Halts := by
      exact Comp.halts_bind
    rw [hfirst, readValue_halts, ObjectsComeBack]
    constructor
    · rintro ⟨hread, hall⟩ (hback | ⟨⟨read, hreturns⟩, hback⟩)
      · exact hread hback
      · exact (hrest read).1 (hall read hreturns) hback
    · intro h
      refine ⟨fun hback => h (Or.inl hback), ?_⟩
      intro read hreturns
      refine (hrest read).2 ?_
      intro hback
      exact h (Or.inr ⟨⟨read, hreturns⟩, hback⟩)

/-- The objects of a stream come back. -/
def StreamComesBack (zlib : Zlib) : PdfObject → Prop
  | .stream fields data =>
    ∃ first pairs, streamHeader fields data = .ok (first, pairs) ∧
      ObjectsComeBack zlib data first pairs
  | _ => False

theorem streamObjects_halts {found : PdfObject} :
    (streamObjects zlib found).Halts ↔ ¬ StreamComesBack zlib found := by
  cases found with
  | stream fields data =>
    rw [streamObjects, StreamComesBack, Comp.halts_ofExcept_bind]
    constructor
    · rintro h ⟨first, pairs, hheader, hback⟩
      exact readObjects_halts.1 (h (first, pairs) hheader) hback
    · rintro h ⟨first, pairs⟩ hheader
      refine readObjects_halts.2 ?_
      intro hback
      exact h ⟨first, pairs, hheader, hback⟩
  | _ => simp [streamObjects, StreamComesBack]

end ObjectStreams

/-! ## Objects of a document -/

section Documents

variable {zlib : Zlib} {doc : PdfDocument}

/-- The object `s` is the stream that holds the object `n`. -/
def Contained (doc : PdfDocument) (n s : Int) : Prop :=
  ∃ index, doc.entries.lookup n = some (.compressed s index)

/-- What the cross-reference says an object is. -/
inductive Denotes (zlib : Zlib) (doc : PdfDocument) : Int → PdfObject → Prop
  | plain {n offset generation : Int} {object : PdfObject} :
      doc.entries.lookup n = some (.plain offset generation) →
      (parseAt zlib doc.pdf offset).Returns (.ok object) →
      Denotes zlib doc n object
  | compressed {n s index : Int} {found object : PdfObject} {objects : List (Int × PdfObject)} :
      doc.entries.lookup n = some (.compressed s index) →
      Denotes zlib doc s found →
      (streamObjects zlib found).Returns (.ok objects) →
      objects.lookup n = some object →
      Denotes zlib doc n object

/-- The caches hold what the cross-reference says. -/
structure Correct (zlib : Zlib) (doc : PdfDocument) (caches : Caches) : Prop where
  objects : ∀ {n object}, caches.objects.lookup n = some object → Denotes zlib doc n object
  streams : ∀ {s objects}, caches.streams.lookup s = some objects →
    ∃ found, Denotes zlib doc s found ∧ (streamObjects zlib found).Returns (.ok objects)

theorem Correct.empty : Correct zlib doc Caches.empty :=
  { objects := fun h => by cases h
    streams := fun h => by cases h }

theorem Correct.cacheObject {caches : Caches} (h : Correct zlib doc caches) {n : Int}
    {found : Except PdfError PdfObject} (hfound : ∀ object, found = .ok object →
      Denotes zlib doc n object) :
    Correct zlib doc (cacheObject caches n found).2 := by
  cases found with
  | error e => exact h
  | ok object =>
    refine { objects := ?_, streams := h.streams }
    intro m object' hlookup
    by_cases hsame : m = n
    · subst hsame
      have hobject : object = object' := by
        simpa [Assets.cacheObject] using hlookup
      exact hobject ▸ hfound object rfl
    · have hold : caches.objects.lookup m = some object' := by
        have hne : (m == n) = false := by simpa using hsame
        simpa [Assets.cacheObject, List.lookup_cons, hne] using hlookup
      exact h.objects hold

theorem cacheObject_fst {caches : Caches} {n : Int} {found : Except PdfError PdfObject} :
    (cacheObject caches n found).1 = found := by
  cases found <;> rfl

theorem pickObject_ok {n : Int} {objects : Except PdfError (List (Int × PdfObject))}
    {object : PdfObject} (h : pickObject n objects = .ok object) :
    ∃ all, objects = .ok all ∧ all.lookup n = some object := by
  cases objects with
  | error e => cases h
  | ok all =>
    refine ⟨all, rfl, ?_⟩
    rw [pickObject] at h
    cases hlookup : all.lookup n with
    | none => simp [hlookup] at h
    | some found =>
      have hsame : found = object := by simpa [hlookup] using h
      rw [hsame]

theorem Correct.cacheStream {caches : Caches} (h : Correct zlib doc caches) {s : Int}
    {found : PdfObject} {objects : List (Int × PdfObject)} (hfound : Denotes zlib doc s found)
    (hobjects : (streamObjects zlib found).Returns (.ok objects)) :
    Correct zlib doc { caches with streams := (s, objects) :: caches.streams } := by
  refine { objects := h.objects, streams := ?_ }
  intro m objects' hlookup
  by_cases hsame : m = s
  · subst hsame
    have hsame' : objects = objects' := by simpa using hlookup
    exact hsame' ▸ ⟨found, hfound, hobjects⟩
  · have hold : caches.streams.lookup m = some objects' := by
      have hne : (m == s) = false := by simpa using hsame
      simpa [List.lookup_cons, hne] using hlookup
    exact h.streams hold

/-! ### The body of `get` -/

variable {getObject : Caches → Int → Comp Empty (Cached PdfObject)} {caches : Caches} {n s : Int}

theorem getStep_cached {object : PdfObject} (h : caches.objects.lookup n = some object) :
    getStep zlib doc getObject caches n = pure (.ok object, caches) := by
  unfold getStep
  rw [h]

theorem getStep_missing (h : caches.objects.lookup n = none) (hentry : doc.entries.lookup n = none) :
    getStep zlib doc getObject caches n = pure (.error (.object n), caches) := by
  unfold getStep
  rw [h, hentry]

theorem getStep_plain {offset generation : Int} (h : caches.objects.lookup n = none)
    (hentry : doc.entries.lookup n = some (.plain offset generation)) :
    getStep zlib doc getObject caches n =
      (Comp.attempt (parseAt zlib doc.pdf offset) >>=
        fun found => pure (cacheObject caches n found)) := by
  unfold getStep
  rw [h, hentry]

theorem getStep_compressed {index : Int} (h : caches.objects.lookup n = none)
    (hentry : doc.entries.lookup n = some (.compressed s index)) :
    getStep zlib doc getObject caches n =
      (objectStream zlib getObject caches s >>=
        fun answer => pure (cacheObject answer.2 n (pickObject n answer.1))) := by
  unfold getStep
  rw [h, hentry]

theorem objectStream_cached {objects : List (Int × PdfObject)}
    (h : caches.streams.lookup s = some objects) :
    objectStream zlib getObject caches s = pure (.ok objects, caches) := by
  unfold objectStream
  rw [h]

theorem objectStream_missing (h : caches.streams.lookup s = none) :
    objectStream zlib getObject caches s = (getObject caches s >>= cacheStream zlib s) := by
  unfold objectStream
  rw [h]

/-- An answer about an object that is right: its caches are, and its value is the object. -/
def Answers (zlib : Zlib) (doc : PdfDocument) (n : Int) (answer : Cached PdfObject) : Prop :=
  Correct zlib doc answer.2 ∧ ∀ object, answer.1 = .ok object → Denotes zlib doc n object

/-- An answer about the objects of a stream that is right. -/
def StreamAnswers (zlib : Zlib) (doc : PdfDocument) (s : Int)
    (answer : Cached (List (Int × PdfObject))) : Prop :=
  Correct zlib doc answer.2 ∧ ∀ objects, answer.1 = .ok objects →
    ∃ found, Denotes zlib doc s found ∧ (streamObjects zlib found).Returns (.ok objects)

theorem cacheStream_answers {found : Cached PdfObject} (hfound : Answers zlib doc s found)
    {answer : Cached (List (Int × PdfObject))}
    (h : (cacheStream zlib s found).Returns (.ok answer)) : StreamAnswers zlib doc s answer := by
  rcases found with ⟨result, caches⟩
  cases result with
  | error e =>
    have hsame := Except.ok.inj (Comp.returns_pure.1 h)
    subst hsame
    refine ⟨hfound.1, ?_⟩
    rintro objects ⟨⟩
  | ok object =>
    rw [cacheStream, Comp.returns_ok_bind] at h
    rcases h with ⟨result, hattempt, hpure⟩
    rcases Comp.returns_attempt.1 hattempt with ⟨result', hobjects, hresult⟩
    cases hresult
    cases result with
    | error e =>
      have hsame := Except.ok.inj (Comp.returns_pure.1 hpure)
      subst hsame
      refine ⟨hfound.1, ?_⟩
      rintro objects ⟨⟩
    | ok objects =>
      have hsame := Except.ok.inj (Comp.returns_pure.1 hpure)
      subst hsame
      have hdenotes : Denotes zlib doc s object := hfound.2 object rfl
      refine ⟨hfound.1.cacheStream hdenotes hobjects, ?_⟩
      rintro _ ⟨⟩
      exact ⟨object, hdenotes, hobjects⟩

theorem objectStream_answers (hcaches : Correct zlib doc caches)
    (hget : ∀ answer, (getObject caches s).Returns (.ok answer) → Answers zlib doc s answer)
    {answer : Cached (List (Int × PdfObject))}
    (h : (objectStream zlib getObject caches s).Returns (.ok answer)) :
    StreamAnswers zlib doc s answer := by
  cases hlookup : caches.streams.lookup s with
  | some objects =>
    rw [objectStream_cached hlookup] at h
    have hsame := Except.ok.inj (Comp.returns_pure.1 h)
    subst hsame
    refine ⟨hcaches, ?_⟩
    rintro _ ⟨⟩
    exact hcaches.streams hlookup
  | none =>
    rw [objectStream_missing hlookup, Comp.returns_ok_bind] at h
    rcases h with ⟨found, hfound, hrest⟩
    exact cacheStream_answers (hget found hfound) hrest

/-- The body of `get` answers right when the calls it makes do. -/
theorem getStep_answers (hcaches : Correct zlib doc caches)
    (hget : ∀ s answer, (getObject caches s).Returns (.ok answer) → Answers zlib doc s answer)
    {answer : Cached PdfObject} (h : (getStep zlib doc getObject caches n).Returns (.ok answer)) :
    Answers zlib doc n answer := by
  cases hlookup : caches.objects.lookup n with
  | some object =>
    rw [getStep_cached hlookup] at h
    have hsame := Except.ok.inj (Comp.returns_pure.1 h)
    subst hsame
    refine ⟨hcaches, ?_⟩
    rintro _ ⟨⟩
    exact hcaches.objects hlookup
  | none =>
    cases hentry : doc.entries.lookup n with
    | none =>
      rw [getStep_missing hlookup hentry] at h
      have hsame := Except.ok.inj (Comp.returns_pure.1 h)
      subst hsame
      refine ⟨hcaches, ?_⟩
      rintro _ ⟨⟩
    | some entry =>
      cases entry with
      | plain offset generation =>
        rw [getStep_plain hlookup hentry, Comp.returns_ok_bind] at h
        rcases h with ⟨found, hattempt, hpure⟩
        rcases Comp.returns_attempt.1 hattempt with ⟨found', hparse, hresult⟩
        cases hresult
        have hsame := Except.ok.inj (Comp.returns_pure.1 hpure)
        subst hsame
        have hdenotes : ∀ object, found = .ok object → Denotes zlib doc n object := by
          rintro object rfl
          exact Denotes.plain hentry hparse
        refine ⟨hcaches.cacheObject hdenotes, ?_⟩
        intro object hobject
        exact hdenotes object (cacheObject_fst.symm.trans hobject)
      | compressed s index =>
        rw [getStep_compressed hlookup hentry, Comp.returns_ok_bind] at h
        rcases h with ⟨⟨objects, caches'⟩, hstream, hpure⟩
        have hanswers := objectStream_answers hcaches (hget s) hstream
        have hsame := Except.ok.inj (Comp.returns_pure.1 hpure)
        subst hsame
        have hdenotes : ∀ object, pickObject n objects = .ok object →
            Denotes zlib doc n object := by
          intro object hpick
          rcases pickObject_ok hpick with ⟨all, rfl, hobject⟩
          rcases hanswers.2 all rfl with ⟨found, hfound, hall⟩
          exact Denotes.compressed hentry hfound hall hobject
        refine ⟨hanswers.1.cacheObject hdenotes, ?_⟩
        intro object hobject
        exact hdenotes object (cacheObject_fst.symm.trans hobject)

theorem getWithin_answers (depth : Nat) (hcaches : Correct zlib doc caches)
    {answer : Cached PdfObject} (h : (getWithin zlib doc depth caches n).Returns (.ok answer)) :
    Answers zlib doc n answer := by
  induction depth generalizing n answer with
  | zero => exact absurd h Comp.not_returns_diverge
  | succ depth ih => exact getStep_answers hcaches (fun s answer hs => ih hs) h

theorem get_answers (hcaches : Correct zlib doc caches) {answer : Cached PdfObject}
    (h : (get zlib doc caches n).Returns (.ok answer)) : Answers zlib doc n answer := by
  rcases Comp.returns_limit.1 h with ⟨depth, hdepth⟩
  exact getWithin_answers depth hcaches hdepth

/-! ### `get` as a recursion -/

/-- The body of `get` makes one call, so it answers with a family of calls as with one of them. -/
theorem getStep_exists {ι : Type} [Nonempty ι]
    (getObjects : ι → Caches → Int → Comp Empty (Cached PdfObject))
    (hcalls : ∀ s r, (getObject caches s).Returns r → ∃ d, (getObjects d caches s).Returns r)
    {r : Except Empty (Cached PdfObject)}
    (h : (getStep zlib doc getObject caches n).Returns r) :
    ∃ d, (getStep zlib doc (getObjects d) caches n).Returns r := by
  have hany : Nonempty ι := inferInstance
  rcases hany with ⟨d⟩
  cases hlookup : caches.objects.lookup n with
  | some object =>
    rw [getStep_cached hlookup] at h
    exact ⟨d, by rwa [getStep_cached hlookup]⟩
  | none =>
    cases hentry : doc.entries.lookup n with
    | none =>
      rw [getStep_missing hlookup hentry] at h
      exact ⟨d, by rwa [getStep_missing hlookup hentry]⟩
    | some entry =>
      cases entry with
      | plain offset generation =>
        rw [getStep_plain hlookup hentry] at h
        exact ⟨d, by rwa [getStep_plain hlookup hentry]⟩
      | compressed s index =>
        simp only [getStep_compressed hlookup hentry] at h ⊢
        refine h.exists_bind ?_
        intro r' hstream
        cases hcached : caches.streams.lookup s with
        | some objects =>
          rw [objectStream_cached hcached] at hstream
          exact ⟨d, by rwa [objectStream_cached hcached]⟩
        | none =>
          simp only [objectStream_missing hcached] at hstream ⊢
          exact hstream.exists_bind (hcalls s)

/-- `get` is its body over `get`. -/
theorem get_returns {r : Except Empty (Cached PdfObject)} :
    (get zlib doc caches n).Returns r ↔
      (getStep zlib doc (get zlib doc) caches n).Returns r := by
  constructor
  · intro h
    rcases Comp.returns_limit.1 h with ⟨depth, hdepth⟩
    cases depth with
    | zero => exact absurd hdepth Comp.not_returns_diverge
    | succ depth =>
      have hcalls : ∀ s r, (getWithin zlib doc depth caches s).Returns r →
          ∃ _ : Unit, (get zlib doc caches s).Returns r :=
        fun s r hs => ⟨(), Comp.returns_limit.2 ⟨depth, hs⟩⟩
      rcases getStep_exists (fun _ : Unit => get zlib doc) hcalls hdepth with ⟨_, hstep⟩
      exact hstep
  · intro h
    have hcalls : ∀ s r, (get zlib doc caches s).Returns r →
        ∃ depth, (getWithin zlib doc depth caches s).Returns r :=
      fun s r hs => Comp.returns_limit.1 hs
    rcases getStep_exists (getWithin zlib doc) hcalls h with ⟨depth, hdepth⟩
    exact Comp.returns_limit.2 ⟨depth + 1, hdepth⟩

theorem get_halts_iff :
    (get zlib doc caches n).Halts ↔ (getStep zlib doc (get zlib doc) caches n).Halts :=
  exists_congr (fun _ => get_returns)

theorem cacheStream_halts {found : Cached PdfObject} :
    (cacheStream zlib s found).Halts ↔
      ∀ object, found.1 = .ok object → ¬ StreamComesBack zlib object := by
  rcases found with ⟨result, caches⟩
  cases result with
  | error e =>
    refine iff_of_true (Comp.halts_pure _) ?_
    rintro object ⟨⟩
  | ok found =>
    rw [cacheStream, Comp.halts_bind, Comp.halts_attempt, streamObjects_halts]
    constructor
    · rintro ⟨h, _⟩ object ⟨⟩
      exact h
    · intro h
      refine ⟨h found rfl, ?_⟩
      rintro (e | objects) _
      · exact Comp.halts_pure _
      · exact Comp.halts_pure _

/-- The objects of a document never come back: no stream is held by itself, directly or through
others, and neither a plain object nor a stream of objects comes back. -/
structure ObjectsEnd (zlib : Zlib) (doc : PdfDocument) : Prop where
  contained : ∀ n, ¬ TransGen (Contained doc) n n
  plain : ∀ {n offset generation}, doc.entries.lookup n = some (.plain offset generation) →
    ¬ ObjectComesBack zlib doc.pdf offset
  streams : ∀ {n s found}, Contained doc n s → Denotes zlib doc s found →
    ¬ StreamComesBack zlib found

theorem finite_contained : Set.Finite {n | ∃ s, Contained doc n s} := by
  refine (List.finite_toSet (doc.entries.map Prod.fst)).subset ?_
  rintro n ⟨s, index, hentry⟩
  rw [List.lookup_eq_some_iff] at hentry
  rcases hentry with ⟨before, after, hentries, _⟩
  have hmem : (n, XRef.compressed s index) ∈ doc.entries := by
    rw [hentries]
    exact List.mem_append_right _ (List.mem_cons_self)
  exact List.mem_map.2 ⟨_, hmem, rfl⟩

/-- `get` ends on an object whose chain of streams ends. -/
theorem get_halts_of_acc (hdoc : ObjectsEnd zlib doc) (hcaches : Correct zlib doc caches)
    (hacc : Acc (flip (Contained doc)) n) : (get zlib doc caches n).Halts := by
  induction hacc with
  | intro n _ ih =>
    rw [get_halts_iff]
    cases hlookup : caches.objects.lookup n with
    | some object =>
      rw [getStep_cached hlookup]
      exact Comp.halts_pure _
    | none =>
      cases hentry : doc.entries.lookup n with
      | none =>
        rw [getStep_missing hlookup hentry]
        exact Comp.halts_pure _
      | some entry =>
        cases entry with
        | plain offset generation =>
          rw [getStep_plain hlookup hentry, Comp.halts_bind, Comp.halts_attempt,
            parseAt_halts]
          exact ⟨hdoc.plain hentry, fun _ _ => Comp.halts_pure _⟩
        | compressed s index =>
          have hcontained : Contained doc n s := ⟨index, hentry⟩
          rw [getStep_compressed hlookup hentry, Comp.halts_bind]
          refine ⟨?_, fun _ _ => Comp.halts_pure _⟩
          cases hcached : caches.streams.lookup s with
          | some objects =>
            rw [objectStream_cached hcached]
            exact Comp.halts_pure _
          | none =>
            rw [objectStream_missing hcached, Comp.halts_bind]
            refine ⟨ih s hcontained, ?_⟩
            intro found hfound
            refine cacheStream_halts.2 ?_
            intro object hobject
            exact hdoc.streams hcontained ((get_answers hcaches hfound).2 object hobject)

theorem ObjectsEnd.acc (hdoc : ObjectsEnd zlib doc) (n : Int) : Acc (flip (Contained doc)) n :=
  (acc_iff_no_cycle finite_contained).2 (fun m _ => hdoc.contained m)

theorem get_halts (hdoc : ObjectsEnd zlib doc) (hcaches : Correct zlib doc caches) (n : Int) :
    (get zlib doc caches n).Halts :=
  get_halts_of_acc hdoc hcaches (hdoc.acc n)

/-- `deref` follows at most eight references, each with one `get`. -/
theorem derefWithin_halts (hdoc : ObjectsEnd zlib doc) (hops : Nat)
    (hcaches : Correct zlib doc caches) (object : PdfObject) :
    (derefWithin zlib doc hops caches object).Halts := by
  induction hops generalizing caches object with
  | zero => cases object <;> exact Comp.halts_pure _
  | succ hops ih =>
    cases object with
    | ref number generation =>
      rw [derefWithin, Comp.halts_bind]
      refine ⟨get_halts hdoc hcaches number, ?_⟩
      rintro ⟨result, caches'⟩ hget
      have hanswers := get_answers hcaches hget
      cases result with
      | error e => exact Comp.halts_pure _
      | ok found => exact ih hanswers.1 found
    | _ => exact Comp.halts_pure _

theorem derefWithin_correct (hops : Nat) (hcaches : Correct zlib doc caches) {object : PdfObject}
    {answer : Cached PdfObject}
    (h : (derefWithin zlib doc hops caches object).Returns (.ok answer)) :
    Correct zlib doc answer.2 := by
  induction hops generalizing caches object with
  | zero =>
    cases object <;>
      (have hsame := Except.ok.inj (Comp.returns_pure.1 h)
       subst hsame
       exact hcaches)
  | succ hops ih =>
    cases object with
    | ref number generation =>
      rw [derefWithin, Comp.returns_ok_bind] at h
      rcases h with ⟨⟨result, caches'⟩, hget, hrest⟩
      have hanswers := get_answers hcaches hget
      cases result with
      | error e =>
        have hsame := Except.ok.inj (Comp.returns_pure.1 hrest)
        subst hsame
        exact hanswers.1
      | ok found => exact ih hanswers.1 hrest
    | _ =>
      have hsame := Except.ok.inj (Comp.returns_pure.1 h)
      subst hsame
      exact hcaches

/-! ### What follows from a `get` that ends -/

/-- With empty caches the calls of `get` follow the chain of streams, so it is as long as they are
deep. -/
theorem acc_of_getWithin_halts (depth : Nat)
    (h : (getWithin zlib doc depth Caches.empty n).Halts) : Acc (flip (Contained doc)) n := by
  induction depth generalizing n with
  | zero =>
    rcases h with ⟨r, hr⟩
    exact absurd hr Comp.not_returns_diverge
  | succ depth ih =>
    refine Acc.intro n ?_
    rintro s ⟨index, hentry⟩
    rw [getWithin, getStep_compressed rfl hentry, objectStream_missing rfl, Comp.halts_bind,
      Comp.halts_bind] at h
    exact ih h.1.1

theorem acc_of_get_halts (h : (get zlib doc Caches.empty n).Halts) :
    Acc (flip (Contained doc)) n := by
  rcases h with ⟨r, hr⟩
  rcases Comp.returns_limit.1 hr with ⟨depth, hdepth⟩
  exact acc_of_getWithin_halts depth hdepth.halts

/-- What the cross-reference says an object is, `get` finds in empty caches. -/
theorem Denotes.get {object : PdfObject} (h : Denotes zlib doc n object) :
    ∃ caches, (Assets.get zlib doc Caches.empty n).Returns (.ok (.ok object, caches)) := by
  induction h with
  | @plain n offset generation object hentry hparse =>
    refine ⟨(cacheObject Caches.empty n (.ok object)).2, get_returns.2 ?_⟩
    rw [getStep_plain rfl hentry, Comp.returns_ok_bind]
    exact ⟨_, Comp.returns_attempt.2 ⟨_, hparse, rfl⟩, Comp.returns_pure.2 rfl⟩
  | @compressed n s index found object objects hentry _ hobjects hlookup ih =>
    rcases ih with ⟨caches, hget⟩
    have hpick : pickObject n (.ok objects) = .ok object := by
      simp [pickObject, hlookup]
    let caches' := { caches with streams := (s, objects) :: caches.streams }
    have hstream : (cacheStream zlib s (.ok found, caches)).Returns
        (.ok (.ok objects, caches')) := by
      rw [cacheStream, Comp.returns_ok_bind]
      exact ⟨_, Comp.returns_attempt.2 ⟨_, hobjects, rfl⟩, Comp.returns_pure.2 rfl⟩
    refine ⟨(cacheObject caches' n (.ok object)).2, get_returns.2 ?_⟩
    rw [getStep_compressed rfl hentry, Comp.returns_ok_bind]
    refine ⟨(.ok objects, caches'), ?_, Comp.returns_pure.2 ?_⟩
    · rw [objectStream_missing rfl, Comp.returns_ok_bind]
      exact ⟨_, hget, hstream⟩
    · rw [hpick]
      rfl

/-- A document on which every `get` in empty caches ends. -/
theorem ObjectsEnd.of_get_halts (h : ∀ n, (get zlib doc Caches.empty n).Halts) :
    ObjectsEnd zlib doc := by
  refine { contained := ?_, plain := ?_, streams := ?_ }
  · intro n
    exact not_cycle_of_acc (acc_of_get_halts (h n))
  · intro n offset generation hentry
    have hstep := get_halts_iff.1 (h n)
    rw [getStep_plain rfl hentry, Comp.halts_bind, Comp.halts_attempt, parseAt_halts] at hstep
    exact hstep.1
  · rintro n s found ⟨index, hentry⟩ hdenotes
    have hstep := get_halts_iff.1 (h n)
    rw [getStep_compressed rfl hentry, Comp.halts_bind, objectStream_missing rfl,
      Comp.halts_bind] at hstep
    rcases hdenotes.get with ⟨caches, hget⟩
    exact cacheStream_halts.1 (hstep.1.2 _ hget) found rfl

/-! ### Every run of calls -/

/-- The caches of a document after any calls of `get` and `deref`. -/
inductive Reached (zlib : Zlib) (doc : PdfDocument) : Caches → Prop
  | opened : Reached zlib doc Caches.empty
  | get {caches : Caches} {number : Int} {answer : Cached PdfObject} :
      Reached zlib doc caches → (Assets.get zlib doc caches number).Returns (.ok answer) →
      Reached zlib doc answer.2
  | deref {caches : Caches} {object : PdfObject} {answer : Cached PdfObject} :
      Reached zlib doc caches → (Assets.deref zlib doc caches object).Returns (.ok answer) →
      Reached zlib doc answer.2

theorem Reached.correct (h : Reached zlib doc caches) : Correct zlib doc caches := by
  induction h with
  | opened => exact Correct.empty
  | get _ hget ih => exact (get_answers ih hget).1
  | deref _ hderef ih => exact derefWithin_correct 8 ih hderef

end Documents

/-! ## Opening a PDF -/

/-- Opening the bytes ends, and so does every later `get` and `deref`. -/
def OpeningTerminates (zlib : Zlib) (pdf : Bytes) : Prop :=
  (openDocument zlib pdf).Halts ∧
    ∀ doc, (openDocument zlib pdf).Returns (.ok doc) →
      ∀ caches, Reached zlib doc caches →
        (∀ number, (get zlib doc caches number).Halts) ∧
          ∀ object, (deref zlib doc caches object).Halts

/-- Nothing in the bytes comes back: neither the sections and the trailer of the cross-reference, or
the object it is in, nor the objects of the document. -/
structure NeverComesBack (zlib : Zlib) (pdf : Bytes) : Prop where
  crossReference : ∀ offset, startxref pdf = .ok offset →
    ¬ CrossReferenceComesBack zlib pdf offset
  objects : ∀ doc, (openDocument zlib pdf).Returns (.ok doc) → ObjectsEnd zlib doc

/-- Opening a PDF terminates exactly when no cursor comes back to a position and no stream of objects
is held by itself. -/
theorem opening_terminates_iff (zlib : Zlib) (pdf : Bytes) :
    OpeningTerminates zlib pdf ↔ NeverComesBack zlib pdf := by
  constructor
  · rintro ⟨hopen, hcalls⟩
    refine { crossReference := openDocument_halts.1 hopen, objects := ?_ }
    intro doc hdoc
    exact ObjectsEnd.of_get_halts (hcalls doc hdoc Caches.empty Reached.opened).1
  · intro h
    refine ⟨openDocument_halts.2 h.crossReference, ?_⟩
    intro doc hdoc caches hreached
    have hcorrect := hreached.correct
    have hend := h.objects doc hdoc
    refine ⟨fun number => get_halts hend hcorrect number, ?_⟩
    intro object
    exact derefWithin_halts hend 8 hcorrect object

/-- A file of 28 bytes whose last section header has no line break. -/
def unendingPdf : Bytes :=
  ascii "0 1\nstartxref\r9\r        0 0 "

theorem unendingPdf_first : SectionMove unendingPdf 0 24 :=
  ⟨by decide +kernel, [], by decide +kernel⟩

theorem unendingPdf_back : SectionMove unendingPdf 24 0 :=
  ⟨by decide +kernel, [], by decide +kernel⟩

/-- The section at 24 has no line break behind it, so the table goes on at 0, from where it comes
back to 24. -/
theorem sections_come_back : ¬ ∃ zlib, OpeningTerminates zlib unendingPdf := by
  rintro ⟨zlib, hopen, _⟩
  have hoffset : startxref unendingPdf = .ok 9 := by decide +kernel
  have htable : unendingPdf.startsWith (ascii "xref") 9 = true := by decide +kernel
  have hfirst : firstSection unendingPdf 9 = 0 := by decide +kernel
  refine openDocument_halts.1 hopen 9 hoffset ?_
  rw [CrossReferenceComesBack, if_pos htable, hfirst]
  refine ⟨0, ReflTransGen.refl, Or.inl ?_⟩
  exact TransGen.tail (TransGen.single unendingPdf_first) unendingPdf_back

end Assets
end MoneyMachine
