import MoneyMachine.Library.Equality
import Mathlib.Data.List.DropRight

/-!
# Text — stripped texts and digests

The contracts of the program are strict about texts: a `NonEmptyStr` is stripped and not empty, a
`Sha256Hex` has 64 lower-case hexadecimal digits.  Both are types here, so that a blank one cannot be
built.
-/

namespace MoneyMachine
namespace Domain

/-- Unicode `White_Space`, which `strip_whitespace` strips. -/
def isWhiteSpace (c : Char) : Bool :=
  let n := c.toNat
  decide ((9 ≤ n ∧ n ≤ 13) ∨ n = 0x20 ∨ n = 0x85 ∨ n = 0xA0 ∨ n = 0x1680 ∨
    (0x2000 ≤ n ∧ n ≤ 0x200A) ∨ n = 0x2028 ∨ n = 0x2029 ∨ n = 0x202F ∨ n = 0x205F ∨ n = 0x3000)

/-- `str.isspace` of one character: four separators more. -/
def isSpace (c : Char) : Bool :=
  isWhiteSpace c || decide (0x1C ≤ c.toNat ∧ c.toNat ≤ 0x1F)

/-- The text without the characters of a class at its ends. -/
def stripBy (space : Char → Bool) (text : String) : String :=
  String.ofList ((text.toList.dropWhile space).rdropWhile space)

/-- `StringConstraints(strip_whitespace=True, min_length=1)`. -/
structure NonEmptyStr where
  text : String
  nonempty : text ≠ ""
  deriving DecidableEq, Repr

def NonEmptyStr.parse (text : String) : Option NonEmptyStr :=
  if h : stripBy isWhiteSpace text = "" then
    none
  else
    some ⟨stripBy isWhiteSpace text, h⟩

theorem NonEmptyStr.parse_eq_some {text : String} {parsed : NonEmptyStr}
    (h : NonEmptyStr.parse text = some parsed) : parsed.text = stripBy isWhiteSpace text := by
  unfold NonEmptyStr.parse at h
  split at h
  · cases h
  · cases h
    rfl

theorem NonEmptyStr.parse_isSome_iff {text : String} :
    (NonEmptyStr.parse text).isSome = true ↔ stripBy isWhiteSpace text ≠ "" := by
  unfold NonEmptyStr.parse
  split <;> simp_all

/-! ## Texts as characters -/

/-- What `strip_whitespace` leaves of a text. -/
def trim (text : List Char) : List Char :=
  (text.dropWhile isWhiteSpace).rdropWhile isWhiteSpace

theorem trim_trim (text : List Char) : trim (trim text) = trim text := by
  unfold trim
  cases hdrop : text.dropWhile isWhiteSpace with
  | nil => rfl
  | cons c rest =>
    have hc : isWhiteSpace c = false := by
      have hne : text.dropWhile isWhiteSpace ≠ [] := by simp [hdrop]
      have hhead := List.head_dropWhile_not isWhiteSpace hne
      simpa only [hdrop, List.head_cons] using hhead
    have hfirst : ∃ more, (c :: rest).rdropWhile isWhiteSpace = c :: more := by
      rcases List.rdropWhile_prefix isWhiteSpace (l := c :: rest) with ⟨tail, htail⟩
      cases hfound : (c :: rest).rdropWhile isWhiteSpace with
      | nil =>
        have hblank := List.rdropWhile_eq_nil_iff.1 hfound c (List.mem_cons_self)
        rw [hc] at hblank
        cases hblank
      | cons d more =>
        rw [hfound] at htail
        cases htail
        exact ⟨more, rfl⟩
    rcases hfirst with ⟨more, hmore⟩
    have hkeep : (c :: more).dropWhile isWhiteSpace = c :: more :=
      List.dropWhile_cons_of_neg (by simp [hc])
    rw [hmore, hkeep, ← hmore]
    exact List.rdropWhile_idempotent _ _

/-- A `NonEmptyStr` as its characters: stripped and not empty. -/
structure TrimmedText where
  chars : List Char
  nonempty : chars ≠ []
  trimmed : trim chars = chars
  deriving DecidableEq

def TrimmedText.parse (text : List Char) : Option TrimmedText :=
  if h : trim text = [] then
    none
  else
    some ⟨trim text, h, trim_trim text⟩

/-! ## Digests -/

def isHexDigit (c : Char) : Bool :=
  ('0' ≤ c && c ≤ '9') || ('a' ≤ c && c ≤ 'f')

/-- A SHA-256 digest as `hexdigest()` writes it. -/
structure Sha256Hex where
  text : String
  length : text.toList.length = 64
  digits : text.toList.all isHexDigit = true

theorem isSpace_of_isHexDigit {c : Char} (h : isHexDigit c = true) : isSpace c = false := by
  have hrange : (48 ≤ c.toNat ∧ c.toNat ≤ 57) ∨ (97 ≤ c.toNat ∧ c.toNat ≤ 102) := by
    simpa [isHexDigit, Char.le_def, UInt32.le_iff_toNat_le] using h
  simp only [isSpace, isWhiteSpace, Bool.or_eq_false_iff, decide_eq_false_iff_not]
  omega

/-- A digest is not blank. -/
theorem Sha256Hex.strip_ne_empty (digest : Sha256Hex) : stripBy isSpace digest.text ≠ "" := by
  intro hblank
  have hlist : (digest.text.toList.dropWhile isSpace).rdropWhile isSpace = [] := by
    simpa [stripBy] using congrArg String.toList hblank
  have hlength := digest.length
  have hdigits := digest.digits
  cases hchars : digest.text.toList with
  | nil => simp [hchars] at hlength
  | cons c rest =>
    rw [hchars, List.all_cons, Bool.and_eq_true] at hdigits
    have hc : isSpace c = false := isSpace_of_isHexDigit hdigits.1
    rw [hchars, List.dropWhile_cons_of_neg (by simp [hc]), List.rdropWhile_eq_nil_iff] at hlist
    simpa [hc] using hlist c (by simp)

end Domain
end MoneyMachine
