import MoneyMachine.Integrations.Publishing
import MoneyMachine.Library.Ascii

/-!
# PageSegments — one id, many spellings

The three recognisers of a segment do not get in each other's way: an undashed id has no hyphen, the part
behind the last hyphen has 32 characters for one spelling and 12 for the other, and the five groups are
the last five parts.

* `trailingUuid_dashed`  : what stands in front of a dashed id decides whether it is one;
* `hexFromSegment_names` : a segment that names an id is read as it;
* `hexFromSegment_ends`  : a segment that ends in an id is never read as another one.
-/

namespace MoneyMachine
namespace Integrations
namespace Publishing

open MoneyMachine.Domain
open MoneyMachine.Library
open MoneyMachine.Library.Url (urlsplit lastPart)

/-! ## Ids and their spellings -/

/-- A page id as it is compared: 32 digits in lower case. -/
structure PageId where
  text : Text
  length_eq : text.length = 32
  hex : ∀ c ∈ text, isHex c = true

/-- The digits of an id, in any letter case. -/
def Digits (h : PageId) (key : Text) : Prop :=
  key.map Char.toLower = h.text

/-- The digits in groups of 8, 4, 4, 4 and 12, with dashes. -/
def Dashed (h : PageId) (key : Text) : Prop :=
  ∃ a b c d e : Text, a.length = 8 ∧ b.length = 4 ∧ c.length = 4 ∧ d.length = 4 ∧ e.length = 12 ∧
    Digits h (a ++ (b ++ (c ++ (d ++ e)))) ∧
      key = a ++ '-' :: (b ++ '-' :: (c ++ '-' :: (d ++ '-' :: e)))

/-- A segment is the id or ends in it, behind a hyphen. -/
def NamesId (h : PageId) (segment : Text) : Prop :=
  ∃ key, (Digits h key ∨ Dashed h key) ∧
    (segment = key ∨ ∃ slug, segment = slug ++ '-' :: key)

/-- A segment is the id, or ends in `-` and the id, or ends in its dashed form. -/
def EndsInId (h : PageId) (segment : Text) : Prop :=
  Digits h segment ∨ (∃ slug key, Digits h key ∧ segment = slug ++ '-' :: key) ∨
    ∃ slug key, Dashed h key ∧ segment = slug ++ key

/-- A character that a folder or a slug may hold. -/
def PathChar (tables : Tables) (c : Char) : Prop :=
  tables.forbidden c = false ∧ c ∉ ['?', '#', ';']

/-- The text of the port in a spelling. -/
def portTexts : List Text := [lit "", lit ":443"]

/-- The spellings of an id: the digits, the groups, and the Notion URLs that name it. -/
inductive Spelling (tables : Tables) (h : PageId) : Text → Prop
  | digits {key : Text} : Digits h key → Spelling tables h key
  | dashed {key : Text} : Dashed h key → Spelling tables h key
  | url {scheme host port folders segment slashes : Text} :
      scheme.map Char.toLower = lit "https" → host.map Char.toLower ∈ pageUrlHosts →
        port ∈ [lit "", lit ":443"] → (∀ c ∈ folders.head?, c = '/') →
          (∀ c ∈ folders ++ segment, PathChar tables c) → '/' ∉ segment → NamesId h segment →
            (∀ c ∈ slashes, c = '/') →
              Spelling tables h (scheme ++ ':' :: '/' :: '/' :: ((host ++ port) ++
                (folders ++ '/' :: (segment ++ slashes))))

/-- A text spells an id: it is its digits, its groups, or a URL whose last segment ends in it. -/
def SpelledAs (tables : Tables) (h : PageId) (text : Text) : Prop :=
  Digits h text ∨ Dashed h text ∨
    lit "://" <:+: text ∧ ∃ parsed, urlsplit tables.hosts text = some parsed ∧
      EndsInId h (lastSegment parsed.path)

/-! ## Characters -/

theorem isHex_ascii {c : Char} (h : isHex c = true) : c.toNat < 128 := by
  simp only [isHex, Char.isDigit, Bool.or_eq_true, Bool.and_eq_true, decide_eq_true_eq] at h
  rcases h with ⟨-, h⟩ | ⟨-, h⟩
  · have hnat : c.toNat ≤ 57 := UInt32.le_iff_toNat_le.mp h
    omega
  · have hnat : c.toNat ≤ 102 := UInt32.le_iff_toNat_le.mp h
    omega

/-- What a digit in any letter case is. -/
theorem digit_cases {c : Char} (h : isHex c.toLower = true) :
    c.toNat < 128 ∧ isHexAny c = true ∧ 0x21 ≤ c.toNat ∧ c.toNat ≤ 0x7E ∧ c ≠ '-' ∧ c ≠ ':' ∧
      c ≠ '/' := by
  have hascii := ascii_of_toLower (isHex_ascii h)
  have hall : (!isHex c.toLower || (isHexAny c && decide (0x21 ≤ c.toNat ∧ c.toNat ≤ 0x7E ∧ c ≠ '-' ∧
      c ≠ ':' ∧ c ≠ '/'))) = true :=
    ascii_cases (p := fun c => !isHex c.toLower || (isHexAny c && decide (0x21 ≤ c.toNat ∧
      c.toNat ≤ 0x7E ∧ c ≠ '-' ∧ c ≠ ':' ∧ c ≠ '/'))) (by decide) hascii
  rw [h] at hall
  simp only [Bool.not_true, Bool.false_or, Bool.and_eq_true, decide_eq_true_eq] at hall
  exact ⟨hascii, hall⟩

theorem isHex_toLower_of_isHexAny {c : Char} (h : isHexAny c = true) : isHex c.toLower = true := by
  have hascii : c.toNat < 128 := by
    simp only [isHexAny, Bool.or_eq_true, decide_eq_true_eq] at h
    rcases h with h | ⟨-, h⟩
    · exact isHex_ascii h
    · have hnat : c.toNat ≤ 70 := UInt32.le_iff_toNat_le.mp h
      omega
  have hall : (!isHexAny c || isHex c.toLower) = true :=
    ascii_cases (p := fun c => !isHexAny c || isHex c.toLower) (by decide) hascii
  rw [h] at hall
  simpa using hall

theorem toLower_of_isHex {c : Char} (h : isHex c = true) : c.toLower = c := by
  have hall : (!isHex c || decide (c.toLower = c)) = true :=
    ascii_cases (p := fun c => !isHex c || decide (c.toLower = c)) (by decide) (isHex_ascii h)
  rw [h] at hall
  simpa using hall

theorem Digits.isHex {h : PageId} {key : Text} (hkey : Digits h key) :
    ∀ c ∈ key, isHex c.toLower = true := by
  intro c hc
  apply h.hex
  rw [← hkey]
  exact List.mem_map_of_mem hc

theorem Digits.length {h : PageId} {key : Text} (hkey : Digits h key) : key.length = 32 := by
  rw [← h.length_eq, ← hkey, List.length_map]

theorem Digits.not_mem {h : PageId} {key : Text} (hkey : Digits h key) :
    '-' ∉ key ∧ ':' ∉ key ∧ '/' ∉ key := by
  have hall := fun c hc => digit_cases (hkey.isHex c hc)
  refine ⟨?_, ?_, ?_⟩
  · intro hmem
    exact (hall _ hmem).2.2.2.2.1 rfl
  · intro hmem
    exact (hall _ hmem).2.2.2.2.2.1 rfl
  · intro hmem
    exact (hall _ hmem).2.2.2.2.2.2 rfl

/-! ## Recognisers -/

section Recognisers

variable {tables : Tables}

theorem lower_ascii {text : Text} (h : ∀ c ∈ text, c.toNat < 128) :
    lower tables text = text.map Char.toLower :=
  tables.hosts.lower_ascii text h

theorem Digits.lower {h : PageId} {key : Text} (hkey : Digits h key) :
    lower tables key = h.text := by
  rw [lower_ascii (fun c hc => (digit_cases (hkey.isHex c hc)).1)]
  exact hkey

theorem exactUndashed_digits {h : PageId} {key : Text} (hkey : Digits h key) :
    exactUndashed tables key = some h.text := by
  have hall : h.text.any (fun c => !Publishing.isHex c) = false := by
    rw [List.any_eq_false]
    intro c hc
    simp [h.hex c hc]
  rw [exactUndashed, hkey.lower]
  simp [h.length_eq, pageIdLength, hall]

/-- A canonical text is 32 digits in lower case. -/
def Canonical (text : Text) : Prop :=
  text.length = 32 ∧ ∀ c ∈ text, isHex c = true

theorem exactUndashed_some {segment compact : Text} (h : exactUndashed tables segment = some compact) :
    Canonical compact ∧ '-' ∉ segment := by
  simp only [exactUndashed] at h
  split_ifs at h with hlong hshort hhex
  cases h
  have hall : ∀ c ∈ Publishing.lower tables segment, Publishing.isHex c = true := by
    intro c hc
    rw [List.any_eq_true] at hhex
    by_contra hc'
    exact hhex ⟨c, hc, by simpa using hc'⟩
  refine ⟨⟨?_, hall⟩, ?_⟩
  · have hlength : (Publishing.lower tables segment).length = pageIdLength := by omega
    exact hlength
  · -- A hyphen would still be there in lower case, and it is no digit.
    intro hmem
    have hascii := tables.lower_hex segment hall
    rw [lower_ascii hascii] at hall
    exact absurd (hall _ (List.mem_map_of_mem hmem)) (by decide)

theorem exactUndashed_hyphen {segment : Text} (h : '-' ∈ segment) :
    exactUndashed tables segment = none := by
  cases hexact : exactUndashed tables segment with
  | none => rfl
  | some compact => exact absurd h (exactUndashed_some hexact).2

theorem exactUndashed_short {segment : Text} (hascii : ∀ c ∈ segment, c.toNat < 128)
    (h : segment.length < 32) : exactUndashed tables segment = none := by
  unfold exactUndashed
  rw [lower_ascii hascii]
  simp [pageIdLength, h, Nat.not_lt.mpr (Nat.le_of_lt h)]

/-- The groups of a dashed id are digits, and have no hyphen. -/
theorem group_digits {h : PageId} {text : Text} (hdigits : Digits h text) (group : Text)
    (hgroup : group ⊆ text) : (∀ c ∈ group, isHexAny c = true) ∧ (∀ c ∈ group, c.toNat < 128) ∧
      '-' ∉ group := by
  refine ⟨?_, ?_, ?_⟩
  · intro c hc
    exact (digit_cases (hdigits.isHex c (hgroup hc))).2.1
  · intro c hc
    exact (digit_cases (hdigits.isHex c (hgroup hc))).1
  · intro hmem
    exact hdigits.not_mem.1 (hgroup hmem)

theorem splitOn_groups {a b c d e : Text} (ha : '-' ∉ a) (hb : '-' ∉ b) (hc : '-' ∉ c) (hd : '-' ∉ d)
    (he : '-' ∉ e) :
    (a ++ '-' :: (b ++ '-' :: (c ++ '-' :: (d ++ '-' :: e)))).splitOn '-' = [a, b, c, d, e] := by
  simp only [List.splitOn_append_cons_self, List.splitOn_eq_singleton ha,
    List.splitOn_eq_singleton hb, List.splitOn_eq_singleton hc, List.splitOn_eq_singleton hd,
    List.splitOn_eq_singleton he]
  rfl

/-- The last piece of a split is the last part. -/
theorem splitOn_lastPart (text : Text) :
    ∃ pieces, text.splitOn '-' = pieces ++ [lastPart '-' text] := by
  by_cases hmem : '-' ∈ text
  · obtain ⟨front, back, rfl, hback⟩ : ∃ front back, text = front ++ '-' :: back ∧ '-' ∉ back := by
      have hreverse := List.eq_append_cons_of_mem (List.mem_reverse.mpr hmem)
      obtain ⟨back, front, heq, hback⟩ := hreverse
      refine ⟨front.reverse, back.reverse, ?_, by simpa using hback⟩
      rw [← List.reverse_reverse text, heq]
      simp
    exact ⟨front.splitOn '-', by
      rw [List.splitOn_append_cons_self, List.splitOn_eq_singleton hback,
        Url.lastPart_append hback]⟩
  · exact ⟨[], by rw [List.splitOn_eq_singleton hmem, Url.lastPart_of_not_mem hmem]; rfl⟩

theorem lastPart_append_of_not_mem {tail : Text} (h : '-' ∉ tail) (text : Text) :
    lastPart '-' (text ++ tail) = lastPart '-' text ++ tail := by
  unfold Url.lastPart
  rw [List.reverse_append, List.takeWhile_append_of_pos, List.reverse_append, List.reverse_reverse]
  intro c hc
  simp only [decide_eq_true_eq]
  rintro rfl
  exact h (List.mem_reverse.mp hc)

/-- What stands in front of a dashed id, behind its last hyphen, decides whether it is one. -/
theorem trailingUuid_dashed {h : PageId} {key : Text} (hkey : Dashed h key) (slug : Text) :
    trailingUuid tables (slug ++ key) = if lastPart '-' slug = [] then some h.text else none := by
  obtain ⟨a, b, c, d, e, ha, hb, hc, hd, he, hdigits, rfl⟩ := hkey
  have hga := group_digits hdigits a (by intro x hx; simp [hx])
  have hgb := group_digits hdigits b (by intro x hx; simp [hx])
  have hgc := group_digits hdigits c (by intro x hx; simp [hx])
  have hgd := group_digits hdigits d (by intro x hx; simp [hx])
  have hge := group_digits hdigits e (by intro x hx; simp [hx])
  obtain ⟨pieces, hpieces⟩ := splitOn_lastPart (slug ++ a)
  rw [lastPart_append_of_not_mem hga.2.2] at hpieces
  have hsplit : (slug ++ (a ++ '-' :: (b ++ '-' :: (c ++ '-' :: (d ++ '-' :: e))))).splitOn '-' =
      pieces ++ [lastPart '-' slug ++ a, b, c, d, e] := by
    rw [← List.append_assoc, List.splitOn_append_cons_self, hpieces]
    simp only [List.splitOn_append_cons_self, List.splitOn_eq_singleton hgb.2.2,
      List.splitOn_eq_singleton hgc.2.2, List.splitOn_eq_singleton hgd.2.2,
      List.splitOn_eq_singleton hge.2.2, List.append_assoc]
    rfl
  have hdrop : (pieces ++ [lastPart '-' slug ++ a, b, c, d, e]).drop
      ((pieces ++ [lastPart '-' slug ++ a, b, c, d, e]).length - 5) =
        [lastPart '-' slug ++ a, b, c, d, e] := by
    rw [List.length_append]
    exact List.drop_left' (by simp)
  unfold trailingUuid
  simp only [hsplit, hdrop]
  rw [if_neg (by simp)]
  by_cases hslug : lastPart '-' slug = []
  · have hlower : lower tables ([a, b, c, d, e] : List Text).flatten = h.text := by
      have hflat : ([a, b, c, d, e] : List Text).flatten = a ++ (b ++ (c ++ (d ++ e))) := by simp
      rw [hflat]
      exact hdigits.lower
    have hany : ([a, b, c, d, e] : List Text).any (fun part => part.any (fun c => !isHexAny c)) =
        false := by
      rw [List.any_eq_false]
      intro part hpart
      rw [Bool.not_eq_true, List.any_eq_false]
      intro x hx
      have hall : isHexAny x = true := by
        simp only [List.mem_cons, List.not_mem_nil, or_false] at hpart
        rcases hpart with rfl | rfl | rfl | rfl | rfl
        · exact hga.1 x hx
        · exact hgb.1 x hx
        · exact hgc.1 x hx
        · exact hgd.1 x hx
        · exact hge.1 x hx
      simp [hall]
    rw [if_pos hslug, hslug, List.nil_append, if_neg (by simp [ha, hb, hc, hd, he]), hany,
      if_neg Bool.false_ne_true, hlower]
  · rw [if_neg hslug, if_pos]
    simp [ha, hslug]

/-- The part behind the last hyphen of a dashed id is too short to be one. -/
theorem exactUndashed_lastGroup {h : PageId} {key : Text} (hkey : Dashed h key) (slug : Text) :
    '-' ∈ slug ++ key ∧ exactUndashed tables (lastPart '-' (slug ++ key)) = none := by
  obtain ⟨a, b, c, d, e, ha, hb, hc, hd, he, hdigits, rfl⟩ := hkey
  have hge := group_digits hdigits e (by intro x hx; simp [hx])
  have hregroup : slug ++ (a ++ '-' :: (b ++ '-' :: (c ++ '-' :: (d ++ '-' :: e)))) =
      (slug ++ (a ++ '-' :: (b ++ '-' :: (c ++ '-' :: d)))) ++ '-' :: e := by simp
  refine ⟨by simp, ?_⟩
  rw [hregroup, Url.lastPart_append hge.2.2]
  apply exactUndashed_short hge.2.1
  omega

/-- Behind a slug a dashed id is read by its groups or not at all. -/
theorem hexFromSegment_dashed {h : PageId} {key : Text} (hkey : Dashed h key) (slug : Text) :
    hexFromSegment tables (slug ++ key) = if lastPart '-' slug = [] then some h.text else none := by
  obtain ⟨hmem, hlast⟩ := @exactUndashed_lastGroup tables h key hkey slug
  unfold hexFromSegment
  rw [exactUndashed_hyphen hmem]
  simp only [hlast, Option.isSome_none, Bool.false_eq_true, and_false, if_false]
  exact trailingUuid_dashed hkey slug

theorem hexFromSegment_slug {h : PageId} {key : Text} (hkey : Digits h key) (slug : Text) :
    hexFromSegment tables (slug ++ '-' :: key) = some h.text := by
  unfold hexFromSegment
  rw [exactUndashed_hyphen (by simp), Url.lastPart_append hkey.not_mem.1]
  simp [exactUndashed_digits hkey]

theorem hexFromSegment_digits {h : PageId} {key : Text} (hkey : Digits h key) :
    hexFromSegment tables key = some h.text := by
  unfold hexFromSegment
  rw [exactUndashed_digits hkey]

/-- A segment that names an id is read as that id, whatever its slug looks like. -/
theorem hexFromSegment_names {h : PageId} {segment : Text} (hsegment : NamesId h segment) :
    hexFromSegment tables segment = some h.text := by
  obtain ⟨key, hdigits | hdashed, rfl | ⟨slug, rfl⟩⟩ := hsegment
  · exact hexFromSegment_digits hdigits
  · exact hexFromSegment_slug hdigits slug
  · have hread := @hexFromSegment_dashed tables h segment hdashed []
    rwa [List.nil_append, Url.lastPart_of_not_mem (by simp), if_pos rfl] at hread
  · -- The hyphen in front of the groups ends the slug.
    have hread := @hexFromSegment_dashed tables h key hdashed (slug ++ ['-'])
    rwa [Url.lastPart_append List.not_mem_nil, if_pos rfl, List.append_assoc] at hread

/-- A segment that ends in an id is never read as another one. -/
theorem hexFromSegment_ends {h : PageId} {segment pageId : Text} (hsegment : EndsInId h segment)
    (hread : hexFromSegment tables segment = some pageId) : pageId = h.text := by
  rcases hsegment with hdigits | ⟨slug, key, hdigits, rfl⟩ | ⟨slug, key, hdashed, rfl⟩
  · rw [hexFromSegment_digits hdigits] at hread
    exact (Option.some.inj hread).symm
  · rw [hexFromSegment_slug hdigits] at hread
    exact (Option.some.inj hread).symm
  · rw [hexFromSegment_dashed hdashed] at hread
    split_ifs at hread
    exact (Option.some.inj hread).symm

theorem trailingUuid_canonical {segment pageId : Text}
    (hread : trailingUuid tables segment = some pageId) : Canonical pageId := by
  simp only [trailingUuid] at hread
  split_ifs at hread with hshort hlengths hhex
  cases hread
  rw [not_ne_iff] at hlengths
  have hdigits : ∀ c ∈ (List.drop ((segment.splitOn '-').length - 5) (segment.splitOn '-')).flatten,
      isHexAny c = true := by
    intro c hc
    obtain ⟨part, hpart, hcpart⟩ := List.mem_flatten.mp hc
    by_contra hc'
    apply hhex
    rw [List.any_eq_true]
    exact ⟨part, hpart, List.any_eq_true.mpr ⟨c, hcpart, by simpa using hc'⟩⟩
  have hascii : ∀ c ∈ (List.drop ((segment.splitOn '-').length - 5) (segment.splitOn '-')).flatten,
      c.toNat < 128 := by
    intro c hc
    exact (digit_cases (isHex_toLower_of_isHexAny (hdigits c hc))).1
  rw [lower_ascii hascii]
  refine ⟨?_, ?_⟩
  · rw [List.length_map, List.length_flatten, hlengths]
    rfl
  · intro c hc
    obtain ⟨d, hd, rfl⟩ := List.mem_map.mp hc
    exact isHex_toLower_of_isHexAny (hdigits d hd)

theorem hexFromSegment_canonical {segment pageId : Text}
    (hread : hexFromSegment tables segment = some pageId) : Canonical pageId := by
  unfold hexFromSegment at hread
  cases hexact : exactUndashed tables segment with
  | some plain =>
    rw [hexact] at hread
    cases hread
    exact (exactUndashed_some hexact).1
  | none =>
    rw [hexact] at hread
    dsimp only at hread
    split_ifs at hread
    · exact (exactUndashed_some hread).1
    · exact trailingUuid_canonical hread

theorem plainPageId_digits {h : PageId} {key : Text} (hkey : Digits h key) :
    plainPageId tables key = some h.text := by
  have hall : h.text.all Publishing.isHex = true := List.all_eq_true.mpr h.hex
  unfold plainPageId
  simp only [if_neg hkey.not_mem.1, hkey.lower]
  rw [if_pos ⟨h.length_eq, hall⟩]

theorem plainPageId_dashed {h : PageId} {key : Text} (hkey : Dashed h key) :
    plainPageId tables key = some h.text := by
  obtain ⟨a, b, c, d, e, ha, hb, hc, hd, he, hdigits, rfl⟩ := hkey
  have hall : h.text.all Publishing.isHex = true := List.all_eq_true.mpr h.hex
  have hmem : '-' ∈ a ++ '-' :: (b ++ '-' :: (c ++ '-' :: (d ++ '-' :: e))) := by simp
  have hsplit : (a ++ '-' :: (b ++ '-' :: (c ++ '-' :: (d ++ '-' :: e)))).splitOn '-' =
      [a, b, c, d, e] := by
    apply splitOn_groups
    · exact (group_digits hdigits a (by intro x hx; simp [hx])).2.2
    · exact (group_digits hdigits b (by intro x hx; simp [hx])).2.2
    · exact (group_digits hdigits c (by intro x hx; simp [hx])).2.2
    · exact (group_digits hdigits d (by intro x hx; simp [hx])).2.2
    · exact (group_digits hdigits e (by intro x hx; simp [hx])).2.2
  have hflat : ([a, b, c, d, e] : List Text).flatten = a ++ (b ++ (c ++ (d ++ e))) := by simp
  unfold plainPageId
  simp only [if_pos hmem, hsplit, hflat, hdigits.lower]
  rw [if_pos (by simp [ha, hb, hc, hd, he]), if_pos ⟨h.length_eq, hall⟩]

theorem plainPageId_canonical {value pageId : Text} (hread : plainPageId tables value = some pageId) :
    Canonical pageId := by
  simp only [plainPageId] at hread
  split_ifs at hread with hmem hparts haccept haccept
  · cases hread
    exact ⟨haccept.1, List.all_eq_true.mp haccept.2⟩
  · cases hread
    exact ⟨haccept.1, List.all_eq_true.mp haccept.2⟩

end Recognisers

end Publishing
end Integrations
end MoneyMachine
