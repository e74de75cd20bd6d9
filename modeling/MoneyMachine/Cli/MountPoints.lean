import MoneyMachine.Library.Replace
import Mathlib.Data.Bool.AllAny

/-!
# MountPoints — mount points as mountinfo writes them

The kernel writes a space, a tab, a newline and a backslash of a mount point as three octal digits behind
a backslash.  The guard decodes them with four replacements, one after the other, the backslash first; a
decoded backslash can then begin one of the other escapes.

* `unescape_escape`     : what the four replacements make of an escaped path;
* `unescape_escape_iff` : they give the path back exactly when it holds none of the other three escapes.
-/

namespace MoneyMachine
namespace Cli
namespace MountPoints

open MoneyMachine.Library.Replace

/-- `_MOUNT_ESCAPES`. -/
def mountEscapes : List (List Char × Char) :=
  [(['\\', '1', '3', '4'], '\\'), (['\\', '0', '4', '0'], ' '), (['\\', '0', '1', '1'], '\t'),
    (['\\', '0', '1', '2'], '\n')]

/-- `decoded.replace(escaped, raw)`. -/
def decode (decoded : List Char) (entry : List Char × Char) : List Char :=
  replaceAll (word entry.1) [entry.2] decoded

/-- `_unescape_mount_field`. -/
def unescapeMountField (field : List Char) : List Char :=
  mountEscapes.foldl decode field

/-- A character as the kernel writes it, with those of a table escaped. -/
def escapeChar (table : List (List Char × Char)) (c : Char) : List Char :=
  match table.find? (fun entry => entry.2 = c) with
  | some entry => entry.1
  | none => [c]

/-- The kernel's escaping of a path. -/
def escapeMountField (path : List Char) : List Char :=
  path.flatMap (escapeChar mountEscapes)

/-! ## Tables of escapes -/

/-- Each escape is a backslash and three digits, and stands for a character of another kind. -/
def IsTable (table : List (List Char × Char)) : Prop :=
  ∀ entry ∈ table, (∃ w, entry.1 = '\\' :: w ∧ w.length = 3 ∧ ∀ d ∈ w, d.isDigit = true) ∧
    entry.2.isDigit = false

section Tables

variable {table : List (List Char × Char)}

/-- A character that no entry stands for is written as it is. -/
theorem escapeChar_plain {c : Char} (h : ∀ entry ∈ table, entry.2 ≠ c) : escapeChar table c = [c] := by
  have hfind : table.find? (fun entry => entry.2 = c) = none := by
    rw [List.find?_eq_none]
    intro entry hentry
    simpa using h entry hentry
  rw [escapeChar, hfind]

/-- A character is written as it is, or as the escape of an entry. -/
theorem escapeChar_cases (table : List (List Char × Char)) (c : Char) :
    escapeChar table c = [c] ∨ ∃ entry ∈ table, entry.2 = c ∧ escapeChar table c = entry.1 := by
  unfold escapeChar
  cases hfind : table.find? (fun entry => entry.2 = c) with
  | none => exact .inl rfl
  | some entry =>
    have hraw : entry.2 = c := by simpa using List.find?_some hfind
    exact .inr ⟨entry, List.mem_of_find?_eq_some hfind, hraw, rfl⟩

theorem escapeChar_first {escaped : List Char} {raw : Char} :
    escapeChar ((escaped, raw) :: table) raw = escaped := by
  simp [escapeChar]

theorem escapeChar_later {entry : List Char × Char} {c : Char} (h : entry.2 ≠ c) :
    escapeChar (entry :: table) c = escapeChar table c := by
  simp [escapeChar, h]

theorem escapeChar_digit (h : IsTable table) {d : Char} (hd : d.isDigit = true) :
    escapeChar table d = [d] := by
  apply escapeChar_plain
  intro entry hentry heq
  have hraw := (h entry hentry).2
  rw [heq, hd] at hraw
  cases hraw

/-- Digits at the start of an escaped path are digits of the path. -/
theorem digits_of_escaped (h : IsTable table) {w path : List Char} (hw : ∀ d ∈ w, d.isDigit = true)
    (hstart : w <+: path.flatMap (escapeChar table)) : ∃ rest, path = w ++ rest := by
  induction w generalizing path with
  | nil => exact ⟨path, rfl⟩
  | cons d w ih =>
    cases path with
    | nil => exact absurd (List.prefix_nil.mp hstart) (List.cons_ne_nil d w)
    | cons c path =>
      rw [List.flatMap_cons] at hstart
      have hdigit := hw d List.mem_cons_self
      rcases escapeChar_cases table c with hplain | ⟨entry, hentry, -, hescape⟩
      · rw [hplain, List.singleton_append, List.cons_prefix_cons] at hstart
        obtain ⟨rfl, hstart⟩ := hstart
        obtain ⟨rest, rfl⟩ := ih (fun d hd => hw d (List.mem_cons_of_mem _ hd)) hstart
        exact ⟨rest, rfl⟩
      · -- An escape starts with a backslash, which is no digit.
        obtain ⟨⟨w', hshape, -, -⟩, -⟩ := h entry hentry
        rw [hescape, hshape, List.cons_append, List.cons_prefix_cons] at hstart
        rw [hstart.1] at hdigit
        exact absurd hdigit (by decide)

theorem flatMap_digits (h : IsTable table) {w : List Char} (hw : ∀ d ∈ w, d.isDigit = true)
    (rest : List Char) :
    (w ++ rest).flatMap (escapeChar table) = w ++ rest.flatMap (escapeChar table) := by
  induction w with
  | nil => rfl
  | cons d w ih =>
    rw [List.cons_append, List.flatMap_cons, escapeChar_digit h (hw d List.mem_cons_self),
      ih (fun d hd => hw d (List.mem_cons_of_mem _ hd))]
    rfl

end Tables

/-! ## One replacement -/

section Decode

variable {w rest : List Char} {raw : Char}

theorem not_hits_of_ne {c : Char} (h : c ≠ '\\') : ¬ Hits (word ('\\' :: w)) (c :: rest) := by
  rw [hits_word_iff (List.cons_ne_nil _ _), List.cons_prefix_cons]
  exact fun hstart => h hstart.1.symm

theorem decode_keep {c : Char} (h : c ≠ '\\') :
    decode (c :: rest) ('\\' :: w, raw) = c :: decode rest ('\\' :: w, raw) :=
  replaceFrom_keep (not_hits_of_ne h)

/-- Characters without a backslash are kept. -/
theorem decode_append {kept : List Char} (h : ∀ c ∈ kept, c ≠ '\\') :
    decode (kept ++ rest) ('\\' :: w, raw) = kept ++ decode rest ('\\' :: w, raw) := by
  induction kept with
  | nil => rfl
  | cons c kept ih =>
    rw [List.cons_append, decode_keep (h c List.mem_cons_self),
      ih (fun c hc => h c (List.mem_cons_of_mem _ hc))]
    rfl

theorem decode_escape (rest : List Char) :
    decode ('\\' :: w ++ rest) ('\\' :: w, raw) = raw :: decode rest ('\\' :: w, raw) := by
  have hfind : word ('\\' :: w) ('\\' :: (w ++ rest)) = some (w.length + 1) := by
    have hstart : ('\\' :: w).isPrefixOf ('\\' :: (w ++ rest)) = true :=
      List.isPrefixOf_iff_prefix.mpr (List.prefix_append ('\\' :: w) rest)
    rw [word, if_pos hstart]
    rfl
  calc decode ('\\' :: w ++ rest) ('\\' :: w, raw)
      = [raw] ++ replaceFrom (word ('\\' :: w)) [raw] w.length (w ++ rest) := replaceFrom_hit hfind
    _ = [raw] ++ decode rest ('\\' :: w, raw) := by
        rw [replaceFrom_eq_drop, List.drop_left]
        rfl

theorem decode_backslash (h : ¬ w <+: rest) :
    decode ('\\' :: rest) ('\\' :: w, raw) = '\\' :: decode rest ('\\' :: w, raw) := by
  apply replaceFrom_keep
  rw [hits_word_iff (List.cons_ne_nil _ _), List.cons_prefix_cons]
  exact fun hstart => h hstart.2

/-- Another escape is kept. -/
theorem decode_other {w' : List Char} (hw' : ∀ d ∈ w', d.isDigit = true) (hlength : w.length = w'.length)
    (hne : w ≠ w') (rest : List Char) :
    decode ('\\' :: w' ++ rest) ('\\' :: w, raw) =
      '\\' :: w' ++ decode rest ('\\' :: w, raw) := by
  have hstart : ¬ w <+: w' ++ rest := by
    intro hstart
    have hboth := List.prefix_of_prefix_length_le hstart (List.prefix_append w' rest) hlength.le
    exact hne (hboth.eq_of_length hlength)
  have hkept : ∀ d ∈ w', d ≠ '\\' := by
    intro d hd heq
    have hdigit := hw' d hd
    rw [heq] at hdigit
    exact absurd hdigit (by decide)
  rw [List.cons_append, decode_backslash hstart, decode_append hkept]
  rfl

end Decode

/-! ## An escaped path -/

section Path

variable {w : List Char} {raw : Char} {table : List (List Char × Char)}

/-- An entry differs from those of a table in both columns. -/
def Apart (w : List Char) (raw : Char) (table : List (List Char × Char)) : Prop :=
  ∀ entry ∈ table, entry.2 ≠ raw ∧ entry.1 ≠ '\\' :: w

/-- A character other than the entry's is kept as it was written. -/
theorem decode_escapeChar (htable : IsTable (('\\' :: w, raw) :: table)) (hapart : Apart w raw table)
    {c : Char} (hc : c ≠ raw) (hslash : c ≠ '\\') (rest : List Char) :
    decode (escapeChar (('\\' :: w, raw) :: table) c ++ rest) ('\\' :: w, raw) =
      escapeChar table c ++ decode rest ('\\' :: w, raw) := by
  obtain ⟨⟨w₁, hw₁, hlength, -⟩, -⟩ := htable _ List.mem_cons_self
  rw [escapeChar_later hc.symm]
  rcases escapeChar_cases table c with hplain | ⟨entry, hentry, -, hescape⟩
  · rw [hplain]
    exact decode_keep hslash
  · obtain ⟨⟨w', hshape, hlength', hdigits⟩, -⟩ := htable entry (List.mem_cons_of_mem _ hentry)
    rw [hescape, hshape]
    apply decode_other hdigits
    · rw [← (List.cons.inj hw₁).2] at hlength
      rw [hlength, hlength']
    · intro heq
      exact (hapart entry hentry).2 (by rw [hshape, heq])

/-- The first replacement undoes the escaping of the backslash. -/
theorem decode_slashes (htable : IsTable (('\\' :: w, '\\') :: table)) (hapart : Apart w '\\' table)
    (path : List Char) :
    decode (path.flatMap (escapeChar (('\\' :: w, '\\') :: table))) ('\\' :: w, '\\') =
      path.flatMap (escapeChar table) := by
  induction path with
  | nil => rfl
  | cons c path ih =>
    rw [List.flatMap_cons, List.flatMap_cons]
    by_cases hc : c = '\\'
    · subst hc
      rw [escapeChar_first, decode_escape, ih,
        escapeChar_plain (fun entry hentry => (hapart entry hentry).1)]
      rfl
    · rw [decode_escapeChar htable hapart hc hc, ih]

/-- A later one does to an escaped path what it does to the path. -/
theorem decode_flatMap (htable : IsTable (('\\' :: w, raw) :: table)) (hapart : Apart w raw table)
    (hraw : raw ≠ '\\') (hslash : ∀ entry ∈ table, entry.2 ≠ '\\') (path : List Char) :
    decode (path.flatMap (escapeChar (('\\' :: w, raw) :: table))) ('\\' :: w, raw) =
      (decode path ('\\' :: w, raw)).flatMap (escapeChar table) := by
  obtain ⟨⟨w₁, hw₁, -, hdigits⟩, -⟩ := htable _ List.mem_cons_self
  obtain rfl : w = w₁ := (List.cons.inj hw₁).2
  have hplain : escapeChar table raw = [raw] :=
    escapeChar_plain (fun entry hentry => (hapart entry hentry).1)
  have hplain' : escapeChar table '\\' = ['\\'] := escapeChar_plain hslash
  -- A match may take four characters of the path at once.
  induction hlength : path.length using Nat.strong_induction_on generalizing path with
  | _ n ih =>
    cases path with
    | nil => rfl
    | cons c path =>
      have hshorter : path.length < n := by
        rw [← hlength]
        exact Nat.lt_succ_self _
      rw [List.flatMap_cons]
      by_cases hc : c = '\\'
      · subst hc
        rw [escapeChar_later hraw, hplain', List.singleton_append]
        by_cases hstart : w <+: path.flatMap (escapeChar (('\\' :: w, raw) :: table))
        · -- The backslash and the digits of the path itself are taken for an escape.
          obtain ⟨rest, rfl⟩ := digits_of_escaped htable hdigits hstart
          have hrest : rest.length < n := by
            rw [List.length_append] at hshorter
            exact lt_of_le_of_lt (Nat.le_add_left _ _) hshorter
          rw [flatMap_digits htable hdigits]
          have hleft := @decode_escape w raw (rest.flatMap (escapeChar (('\\' :: w, raw) :: table)))
          have hright := @decode_escape w raw rest
          rw [List.cons_append] at hleft hright
          rw [hleft, hright, List.flatMap_cons, hplain, ih _ hrest rest rfl]
          rfl
        · have hstart' : ¬ w <+: path := by
            rintro ⟨rest, rfl⟩
            rw [flatMap_digits htable hdigits] at hstart
            exact hstart (List.prefix_append _ _)
          rw [decode_backslash hstart, decode_backslash hstart', List.flatMap_cons, hplain',
            ih _ hshorter path rfl]
          rfl
      · by_cases hcraw : c = raw
        · subst hcraw
          rw [escapeChar_first, decode_escape, decode_keep hraw, List.flatMap_cons, hplain,
            ih _ hshorter path rfl]
          rfl
        · rw [decode_escapeChar htable hapart hcraw hc, decode_keep hc, List.flatMap_cons,
            ih _ hshorter path rfl]

end Path

/-! ## The field -/

/-- The digits of the escapes of a space, a tab and a newline. -/
def blankEscapes : List (List Char) :=
  [['0', '4', '0'], ['0', '1', '1'], ['0', '1', '2']]

theorem isTable_mountEscapes : IsTable mountEscapes := by
  intro entry hentry
  simp only [mountEscapes, List.mem_cons, List.not_mem_nil, or_false] at hentry
  rcases hentry with rfl | rfl | rfl | rfl
  all_goals exact ⟨⟨_, rfl, rfl, List.all_iff_forall_prop.1 (by decide)⟩, by decide⟩

theorem IsTable.tail {entry : List Char × Char} {table : List (List Char × Char)}
    (h : IsTable (entry :: table)) : IsTable table :=
  fun other hother => h other (List.mem_cons_of_mem _ hother)

/-- The escapes of the kernel are undone, and then those that stand in the path itself. -/
theorem unescape_escape (path : List Char) :
    unescapeMountField (escapeMountField path) = (mountEscapes.tail).foldl decode path := by
  have hslashes := isTable_mountEscapes
  have hspaces := hslashes.tail
  have htabs := hspaces.tail
  have hbreaks := htabs.tail
  have hnone : ∀ text : List Char, text.flatMap (escapeChar []) = text := by
    intro text
    exact List.flatMap_singleton' text
  unfold unescapeMountField escapeMountField mountEscapes
  simp only [List.foldl_cons, List.foldl_nil, List.tail_cons]
  rw [decode_slashes hslashes (by unfold Apart; decide),
    decode_flatMap hspaces (by unfold Apart; decide) (by decide) (by decide),
    decode_flatMap htabs (by unfold Apart; decide) (by decide) (by decide),
    decode_flatMap hbreaks (by unfold Apart; decide) (by decide) (by decide), hnone]

theorem shortens_entry {entry : List Char × Char} (h : entry ∈ mountEscapes) :
    Shortens (word entry.1) [entry.2] := by
  apply shortens_word
  obtain ⟨⟨w, hshape, hlength, -⟩, -⟩ := isTable_mountEscapes entry h
  rw [hshape]
  simp [hlength]

/-- Replacements that shorten give a path back exactly when none of them finds anything. -/
theorem foldl_decode_eq_self_iff {table : List (List Char × Char)}
    (h : ∀ entry ∈ table, Shortens (word entry.1) [entry.2] ∧ entry.1 ≠ []) (path : List Char) :
    table.foldl decode path = path ↔ ∀ entry ∈ table, ¬ entry.1 <:+: path := by
  have hle : ∀ table : List (List Char × Char),
      (∀ entry ∈ table, Shortens (word entry.1) [entry.2] ∧ entry.1 ≠ []) → ∀ text : List Char,
        (table.foldl decode text).length ≤ text.length := by
    intro table htable
    induction table with
    | nil => exact fun text => Nat.le_refl _
    | cons entry table ih =>
      intro text
      have hrest := ih (fun other hother => htable other (List.mem_cons_of_mem _ hother))
        (decode text entry)
      exact hrest.trans (length_replaceAll_le (htable entry List.mem_cons_self).1 text)
  induction table with
  | nil => simp
  | cons entry table ih =>
    obtain ⟨hshort, hne⟩ := h entry List.mem_cons_self
    have htable := fun other hother => h other (List.mem_cons_of_mem entry hother)
    have hself : decode path entry = path ↔ ¬ entry.1 <:+: path :=
      (replaceAll_eq_self_iff hshort path).trans (forall_not_hits_word_iff hne)
    rw [List.foldl_cons, List.forall_mem_cons]
    constructor
    · intro heq
      have hnone : ¬ entry.1 <:+: path := by
        intro hin
        -- A replacement that finds something loses length, which no later one gives back.
        obtain ⟨a, b, hab⟩ := hin
        have hsuffix : entry.1 ++ b <:+ path := ⟨a, by rw [← List.append_assoc, hab]⟩
        have hlt := length_replaceAll_lt hshort hsuffix
          ((hits_word_iff hne).mpr (List.prefix_append _ _))
        have hlater := hle table htable (decode path entry)
        rw [heq] at hlater
        exact absurd (lt_of_le_of_lt hlater hlt) (Nat.lt_irrefl _)
      rw [hself.mpr hnone] at heq
      exact ⟨hnone, (ih htable).mp heq⟩
    · rintro ⟨hnone, hrest⟩
      rw [hself.mpr hnone]
      exact (ih htable).mpr hrest

/-- Decoding gives a path back exactly when no backslash in it stands before 040, 011 or 012. -/
theorem unescape_escape_iff (path : List Char) :
    unescapeMountField (escapeMountField path) = path ↔
      ∀ digits ∈ blankEscapes, ¬ '\\' :: digits <:+: path := by
  rw [unescape_escape, foldl_decode_eq_self_iff]
  · simp [mountEscapes, blankEscapes]
  · intro entry hentry
    have hmem := List.mem_of_mem_tail hentry
    obtain ⟨⟨w, hshape, -, -⟩, -⟩ := isTable_mountEscapes entry hmem
    exact ⟨shortens_entry hmem, by rw [hshape]; exact List.cons_ne_nil _ _⟩

/-- A path of a backslash and the digits 040 comes back as a space. -/
theorem slash_digits_decoded :
    ¬ ∀ path : List Char, unescapeMountField (escapeMountField path) = path := by
  intro h
  have heq := h ['\\', '0', '4', '0']
  exact absurd heq (by decide)

end MountPoints
end Cli
end MoneyMachine
