import MoneyMachine.Integrations.PageSegments

/-!
# PageIds — canonical ids and isolated pages

A value is read as a URL or as a plain id, and both come to the same 32 digits.  What is compared between
catalogues is always such a text, so that no spelling hides a page.

* `canonicalPageId_of_spelling`  : every spelling is mapped to the id;
* `canonicalPageId_spelledAs`    : nothing that spells it is mapped to another one;
* `buildPublishedPage_isolated`  : a page that was built does not reach another catalogue.
-/

namespace MoneyMachine
namespace Integrations
namespace Publishing

open MoneyMachine.Domain
open MoneyMachine.Library
open MoneyMachine.Library.Url (SplitResult urlsplit lastPart before after isDelimiter isScheme schemeChar)

/-! ## Values -/

theorem Digits.visible {h : PageId} {key : Text} (hkey : Digits h key) : ∀ c ∈ key, Visible c := by
  intro c hc
  have hdigit := digit_cases (hkey.isHex c hc)
  exact ⟨hdigit.2.2.1, hdigit.2.2.2.1⟩

theorem Dashed.visible {h : PageId} {key : Text} (hkey : Dashed h key) :
    key ≠ [] ∧ ':' ∉ key ∧ ∀ c ∈ key, Visible c := by
  obtain ⟨a, b, c, d, e, -, -, -, -, -, hdigits, rfl⟩ := hkey
  have hmem : ∀ x ∈ a ++ '-' :: (b ++ '-' :: (c ++ '-' :: (d ++ '-' :: e))),
      x = '-' ∨ x ∈ a ++ (b ++ (c ++ (d ++ e))) := by
    intro x hx
    simp only [List.mem_append, List.mem_cons] at hx ⊢
    tauto
  refine ⟨by simp, ?_, ?_⟩
  · intro hcolon
    rcases hmem _ hcolon with heq | hin
    · exact absurd heq (by decide)
    · exact hdigits.not_mem.2.1 hin
  · intro x hx
    rcases hmem x hx with rfl | hin
    · exact ⟨by decide, by decide⟩
    · exact hdigits.visible x hin

/-- The last character of a text that ends in visible ones is visible. -/
theorem last_visible {text tail : Text} (hne : tail ≠ []) (htail : ∀ c ∈ tail, Visible c) :
    ∀ c ∈ (text ++ tail).getLast?, Visible c := by
  intro c hc
  rw [List.getLast?_append_of_ne_nil _ hne] at hc
  exact htail c (List.mem_of_mem_getLast? hc)

section Values

variable {tables : Tables} {label : String}

/-- A text that passes the character checks is a URL or a plain id. -/
theorem canonicalPageId_visible {value : Text} (hne : value ≠ [])
    (hallowed : ∀ c ∈ value, tables.forbidden c = false) (hhead : ∀ c ∈ value.head?, Visible c)
    (hlast : ∀ c ∈ value.getLast?, Visible c) :
    canonicalPageId tables (.text value) label =
      if lit "://" <:+: value then pageIdFromUrl tables value label
      else match plainPageId tables value with
        | none => .error (pageIdError label)
        | some pageId => .ok pageId := by
  have hstrip : value = strip value := by
    apply strip_of_ends
    · intro c hc
      exact isSpace_visible (hhead c hc)
    · intro c hc
      exact isSpace_visible (hlast c hc)
  have hany : value.any tables.forbidden = false := by
    rw [List.any_eq_false]
    intro c hc
    simp [hallowed c hc]
  have hgiven : ensure (decide (value ≠ [])) (pageIdError label) = .ok () := by
    simp [ensure, hne]
  have hfree : ensure (!value.any tables.forbidden)
      (label ++ " must not contain a control character") = .ok () := by
    simp [ensure, hany]
  have htrimmed : ensure (decide (value = strip value)) (pageIdError label) = .ok () := by
    simp [ensure, ← hstrip]
  rw [canonicalPageId, hgiven, hfree, htrimmed]
  rfl

theorem canonicalPageId_plain {value pageId : Text} (hne : value ≠ [])
    (hvisible : ∀ c ∈ value, Visible c) (hcolon : ':' ∉ value)
    (hplain : plainPageId tables value = some pageId) :
    canonicalPageId tables (.text value) label = .ok pageId := by
  rw [canonicalPageId_visible hne, if_neg, hplain]
  · intro hinfix
    exact hcolon (List.IsInfix.subset hinfix (by decide))
  · intro c hc
    exact tables.forbidden_visible c (hvisible c hc).1 (hvisible c hc).2
  · intro c hc
    exact hvisible c (List.mem_of_mem_head? hc)
  · intro c hc
    exact hvisible c (List.mem_of_mem_getLast? hc)

theorem canonicalPageId_digits {h : PageId} {key : Text} (hkey : Digits h key) :
    canonicalPageId tables (.text key) label = .ok h.text := by
  apply canonicalPageId_plain _ hkey.visible hkey.not_mem.2.1 (plainPageId_digits hkey)
  intro hnil
  have hlength := hkey.length
  rw [hnil] at hlength
  exact absurd hlength (by decide)

theorem canonicalPageId_dashed {h : PageId} {key : Text} (hkey : Dashed h key) :
    canonicalPageId tables (.text key) label = .ok h.text := by
  obtain ⟨hne, hcolon, hvisible⟩ := hkey.visible
  exact canonicalPageId_plain hne hvisible hcolon (plainPageId_dashed hkey)

end Values

/-! ## Notion URLs -/

theorem https_char {c : Char} (h : c.toLower ∈ lit "https") :
    c.isAlpha = true ∧ 0x21 ≤ c.toNat ∧ c.toNat ≤ 0x7E := by
  have hascii : c.toNat < 128 := by
    apply ascii_of_toLower
    have hall : ∀ d ∈ lit "https", d.toNat < 128 := List.all_iff_forall_prop.1 (by decide)
    exact hall _ h
  have hall : (!decide (c.toLower ∈ lit "https") ||
      decide (c.isAlpha = true ∧ 0x21 ≤ c.toNat ∧ c.toNat ≤ 0x7E)) = true :=
    ascii_cases (p := fun c => !decide (c.toLower ∈ lit "https") ||
      decide (c.isAlpha = true ∧ 0x21 ≤ c.toNat ∧ c.toNat ≤ 0x7E)) (by decide) hascii
  rw [decide_eq_true h] at hall
  simpa using hall

theorem isScheme_https {scheme : Text} (h : scheme.map Char.toLower = lit "https") :
    scheme ≠ [] ∧ isScheme scheme = true ∧ ∀ c ∈ scheme, Visible c := by
  have hchar : ∀ c ∈ scheme, c.toLower ∈ lit "https" := by
    intro c hc
    rw [← h]
    exact List.mem_map_of_mem hc
  cases scheme with
  | nil => exact absurd h (by decide)
  | cons c rest =>
    refine ⟨List.cons_ne_nil c rest, ?_, ?_⟩
    · rw [isScheme, Bool.and_eq_true, List.all_eq_true]
      refine ⟨(https_char (hchar c (by simp))).1, ?_⟩
      intro d hd
      have halpha := (https_char (hchar d (by simp [hd]))).1
      simp [schemeChar, Char.isAlphanum, halpha]
    · intro d hd
      exact (https_char (hchar d hd)).2

/-- The characters that separate the parts of a URL. -/
def separators : Text := lit "/?#@[]:%;"

theorem host_char {c : Char} (h : c.toLower ∈ lit "www.notion.so") :
    c ∉ separators ∧ 0x21 ≤ c.toNat ∧ c.toNat ≤ 0x7E := by
  have hascii : c.toNat < 128 := by
    apply ascii_of_toLower
    have hall : ∀ d ∈ lit "www.notion.so", d.toNat < 128 := List.all_iff_forall_prop.1 (by decide)
    exact hall _ h
  have hall : (!decide (c.toLower ∈ lit "www.notion.so") ||
      decide (c ∉ separators ∧ 0x21 ≤ c.toNat ∧ c.toNat ≤ 0x7E)) = true :=
    ascii_cases (p := fun c => !decide (c.toLower ∈ lit "www.notion.so") ||
      decide (c ∉ separators ∧ 0x21 ≤ c.toNat ∧ c.toNat ≤ 0x7E)) (by decide +kernel) hascii
  rw [decide_eq_true h] at hall
  simpa using hall

theorem pageHost_chars {host : Text} (h : host.map Char.toLower ∈ pageUrlHosts) :
    host ≠ [] ∧ ∀ c ∈ host, c ∉ separators ∧ Visible c := by
  refine ⟨?_, ?_⟩
  · rintro rfl
    exact absurd h (by decide)
  · intro c hc
    have hin : c.toLower ∈ host.map Char.toLower := List.mem_map_of_mem hc
    have hsub : ∀ name ∈ pageUrlHosts, name.all (fun d => decide (d ∈ lit "www.notion.so")) = true := by
      decide
    exact host_char (List.all_iff_forall_prop.1 (hsub _ h) _ hin)

section PageUrls

variable {tables : Tables} {label : String}

/-- The characters of an authority that a page id is read from. -/
theorem netloc_chars {host port : Text} (hhost : host.map Char.toLower ∈ pageUrlHosts)
    (hport : port ∈ portTexts) :
    ∀ c ∈ host ++ port, Visible c ∧ (c ∈ separators → c = ':') := by
  intro c hc
  rcases List.mem_append.mp hc with hin | hin
  · have hplain := (pageHost_chars hhost).2 c hin
    exact ⟨hplain.2, fun hsep => absurd hsep hplain.1⟩
  · have hall : ∀ text ∈ portTexts, text.all (fun d =>
        decide ((0x21 ≤ d.toNat ∧ d.toNat ≤ 0x7E) ∧ (d ∈ separators → d = ':'))) = true := by decide
    exact List.all_iff_forall_prop.1 (hall port hport) c hin

/-- The authority of a spelling has its host, and no port but 443. -/
theorem authority_of_spelling {host port : Text} (hhost : host.map Char.toLower ∈ pageUrlHosts)
    (hport : port ∈ portTexts) (parts : SplitResult) (hnetloc : parts.netloc = host ++ port) :
    parts.username = none ∧ parts.password = none ∧ portAllowed parts = true ∧
      parts.hostname tables.hosts = some (host.map Char.toLower) := by
  have hchars := netloc_chars hhost hport
  obtain ⟨hne, hhostChars⟩ := pageHost_chars hhost
  have habsent : ∀ d ∈ separators, d ≠ ':' → d ∉ host ++ port := by
    intro d hd hcolon hin
    exact hcolon ((hchars d hin).2 hd)
  have hat : '@' ∉ parts.netloc := by
    rw [hnetloc]
    exact habsent '@' (by decide) (by decide)
  have hbracket : '[' ∉ parts.netloc := by
    rw [hnetloc]
    exact habsent '[' (by decide) (by decide)
  have huserinfo : parts.userinfo = none := if_neg hat
  have hhostinfo : parts.hostinfo = host ++ port := by
    rw [SplitResult.hostinfo, Url.lastPart_of_not_mem hat, hnetloc]
  have hcolonHost : ':' ∉ host := by
    intro hin
    exact (hhostChars _ hin).1 (by decide)
  have hhostport : parts.hostport = (host, after ':' (host ++ port)) := by
    rw [SplitResult.hostport, hhostinfo, Url.after_of_not_mem (hnetloc ▸ hbracket)]
    simp only [portTexts, List.mem_cons, List.not_mem_nil, or_false] at hport
    rcases hport with rfl | rfl
    · have hnil : host ++ lit "" = host := List.append_nil host
      rw [hnil, Url.before_of_not_mem hcolonHost]
    · have hcons : host ++ lit ":443" = host ++ ':' :: lit "443" := rfl
      rw [hcons, Url.before_append hcolonHost]
  have hpercent : '%' ∉ host := by
    intro hin
    exact (hhostChars _ hin).1 (by decide)
  have hlower : tables.hosts.lower host = host.map Char.toLower := by
    apply tables.hosts.lower_ascii
    intro c hc
    have hvisible := (hhostChars c hc).2.2
    omega
  refine ⟨?_, ?_, ?_, ?_⟩
  · rw [SplitResult.username, huserinfo]
    rfl
  · rw [SplitResult.password, huserinfo]
    rfl
  · rw [portAllowed, SplitResult.port, hhostport, hnetloc]
    simp only [portTexts, List.mem_cons, List.not_mem_nil, or_false] at hport
    rcases hport with rfl | rfl
    · have hnil : host ++ lit "" = host := List.append_nil host
      have hlast : host.getLast? ≠ some ':' := by
        intro hsome
        exact hcolonHost (List.mem_of_mem_getLast? hsome)
      rw [hnil, Url.after_of_not_mem hcolonHost]
      simp [hlast]
    · have hcons : host ++ lit ":443" = host ++ ':' :: lit "443" := rfl
      have hlast : (host ++ ':' :: lit "443").getLast? ≠ some ':' := by
        rw [List.getLast?_append_of_ne_nil _ (List.cons_ne_nil _ _)]
        decide
      rw [hcons, Url.after_append hcolonHost]
      rw [decide_eq_true hlast, Bool.true_and]
      exact decide_eq_true (Or.inr rfl)
  · rw [SplitResult.hostname, hhostport]
    simp only [if_neg hne, Url.foldHost, Url.before_of_not_mem hpercent, hlower, List.drop_length,
      List.append_nil]

/-- The last segment of a path, whatever slashes follow it. -/
theorem lastSegment_of_path (folders : Text) {segment slashes : Text} (hne : segment ≠ [])
    (hslash : '/' ∉ segment) (hslashes : ∀ c ∈ slashes, c = '/') :
    lastSegment (folders ++ '/' :: (segment ++ slashes)) = segment := by
  have hregroup : folders ++ '/' :: (segment ++ slashes) =
      (folders ++ '/' :: segment) ++ slashes := by simp
  have hstripped : ((folders ++ '/' :: segment) ++ slashes).rdropWhile (fun c => decide (c = '/')) =
      folders ++ '/' :: segment := by
    rw [List.rdropWhile, List.reverse_append, List.dropWhile_append_of_pos]
    · cases hreverse : segment.reverse with
      | nil => exact absurd (List.reverse_eq_nil_iff.mp hreverse) hne
      | cons c rest =>
        have hc : c ≠ '/' := by
          rintro rfl
          apply hslash
          rw [← List.mem_reverse, hreverse]
          simp
        have hfront : (folders ++ '/' :: segment).reverse = c :: (rest ++ '/' :: folders.reverse) := by
          rw [List.reverse_append, List.reverse_cons, hreverse]
          simp
        rw [hfront, List.dropWhile_cons_of_neg (by simpa using hc), ← hfront, List.reverse_reverse]
    · intro c hc
      simpa using hslashes c (List.mem_reverse.mp hc)
  rw [lastSegment, hregroup, hstripped, Url.lastPart_append hslash]

/-- A segment that names an id ends in visible characters. -/
theorem NamesId.suffix {h : PageId} {segment : Text} (hsegment : NamesId h segment) :
    ∃ front tail, segment = front ++ tail ∧ tail ≠ [] ∧ ∀ c ∈ tail, Visible c := by
  obtain ⟨key, hkey, hplace⟩ := hsegment
  have hvisible : key ≠ [] ∧ ∀ c ∈ key, Visible c := by
    rcases hkey with hdigits | hdashed
    · refine ⟨?_, hdigits.visible⟩
      intro hnil
      have hlength := hdigits.length
      rw [hnil] at hlength
      exact absurd hlength (by decide)
    · exact ⟨hdashed.visible.1, hdashed.visible.2.2⟩
  rcases hplace with rfl | ⟨slug, rfl⟩
  · exact ⟨[], segment, rfl, hvisible⟩
  · exact ⟨slug ++ ['-'], key, by simp, hvisible⟩

theorem pathChar_of_visible {c : Char} (h : Visible c) (hmark : c ∉ ['?', '#', ';']) :
    PathChar tables c :=
  ⟨tables.forbidden_visible c h.1 h.2, hmark⟩

theorem pathChar_slash : PathChar tables '/' := by
  apply pathChar_of_visible _ (by decide)
  exact ⟨by decide, by decide⟩

/-- Every character of a spelling is allowed, and none of the marks occurs. -/
theorem pageUrl_chars {scheme host port folders segment slashes : Text}
    (hscheme : scheme.map Char.toLower = lit "https") (hhost : host.map Char.toLower ∈ pageUrlHosts)
    (hport : port ∈ portTexts) (hpath : ∀ c ∈ folders ++ segment, PathChar tables c)
    (hslashes : ∀ c ∈ slashes, c = '/') :
    ∀ c ∈ scheme ++ ':' :: '/' :: '/' :: ((host ++ port) ++ (folders ++ '/' :: (segment ++ slashes))),
      PathChar tables c := by
  intro c hc
  simp only [List.mem_append, List.mem_cons] at hc
  have hnetloc := netloc_chars hhost hport
  rcases hc with hc | rfl | rfl | rfl | hc | hc | rfl | hc | hc
  · apply pathChar_of_visible ((isScheme_https hscheme).2.2 c hc)
    intro hmark
    have halpha : c.isAlpha = true := by
      apply (https_char _).1
      rw [← hscheme]
      exact List.mem_map_of_mem hc
    have hmarks : ∀ d ∈ ['?', '#', ';'], d.isAlpha = false :=
      List.all_iff_forall_prop.1 (by decide)
    rw [hmarks c hmark] at halpha
    cases halpha
  · exact pathChar_of_visible ⟨by decide, by decide⟩ (by decide)
  · exact pathChar_slash
  · exact pathChar_slash
  · have hchar := hnetloc c (List.mem_append.mpr hc)
    apply pathChar_of_visible hchar.1
    intro hmark
    have hmarks : ∀ d ∈ ['?', '#', ';'], d ∈ separators ∧ d ≠ ':' :=
      List.all_iff_forall_prop.1 (by decide)
    exact (hmarks c hmark).2 (hchar.2 (hmarks c hmark).1)
  · exact hpath c (List.mem_append_left _ hc)
  · exact pathChar_slash
  · exact hpath c (List.mem_append_right _ hc)
  · rw [hslashes c hc]
    exact pathChar_slash

/-- The parts of a Notion URL that spells an id. -/
theorem urlsplit_pageUrl {scheme host port folders segment slashes : Text}
    (hscheme : scheme.map Char.toLower = lit "https") (hhost : host.map Char.toLower ∈ pageUrlHosts)
    (hport : port ∈ portTexts) (hroot : ∀ c ∈ folders.head?, c = '/')
    (hpath : ∀ c ∈ folders ++ segment, PathChar tables c) (hslashes : ∀ c ∈ slashes, c = '/') :
    urlsplit tables.hosts (scheme ++ ':' :: '/' :: '/' :: ((host ++ port) ++
        (folders ++ '/' :: (segment ++ slashes)))) =
      some ⟨lit "https", host ++ port, folders ++ '/' :: (segment ++ slashes), [], []⟩ := by
  have hnetloc := netloc_chars hhost hport
  have habsent : ∀ mark ∈ ['?', '#'], mark ∉ folders ++ '/' :: (segment ++ slashes) := by
    intro mark hmark hin
    have hchars := pageUrl_chars hscheme hhost hport hpath hslashes
    have hpathChar := hchars mark (by simp only [List.mem_append, List.mem_cons] at hin ⊢; tauto)
    apply hpathChar.2
    simp only [List.mem_cons, List.not_mem_nil, or_false] at hmark ⊢
    tauto
  have hplain : ∀ c ∈ host ++ port, c.toNat < 128 ∧ c ≠ '[' ∧ c ≠ ']' := by
    intro c hc
    have hchar := hnetloc c hc
    refine ⟨by have hhigh := hchar.1.2; omega, ?_, ?_⟩
    · rintro rfl
      exact absurd (hchar.2 (by decide)) (by decide)
    · rintro rfl
      exact absurd (hchar.2 (by decide)) (by decide)
  have hdelimiter : ∀ c ∈ host ++ port, isDelimiter c = false := by
    intro c hc
    rw [isDelimiter, decide_eq_false_iff_not]
    intro hin
    have hmarks : ∀ d ∈ ['/', '?', '#'], d ∈ separators ∧ d ≠ ':' :=
      List.all_iff_forall_prop.1 (by decide)
    exact (hmarks c hin).2 ((hnetloc c hc).2 (hmarks c hin).1)
  have hhead : ∀ c ∈ (folders ++ '/' :: (segment ++ slashes)).head?, c = '/' := by
    intro c hc
    cases folders with
    | nil => exact (Option.some.inj hc).symm
    | cons d folders => exact hroot c hc
  have hquery : '#' ∉ ([] : Text) := List.not_mem_nil
  have hsplit := Url.urlsplit_compose (isScheme_https hscheme).2.1 hdelimiter
    (tables.hosts.refused_plain hplain) hhead ⟨habsent '?' (by simp), habsent '#' (by simp)⟩
    hquery (Url.Marked.none '?') (Url.Marked.none '#')
  rw [List.append_nil, List.append_nil, hscheme] at hsplit
  exact hsplit

/-- A Notion URL that names an id is mapped to it. -/
theorem canonicalPageId_url {h : PageId} {scheme host port folders segment slashes : Text}
    (hscheme : scheme.map Char.toLower = lit "https") (hhost : host.map Char.toLower ∈ pageUrlHosts)
    (hport : port ∈ portTexts) (hroot : ∀ c ∈ folders.head?, c = '/')
    (hpath : ∀ c ∈ folders ++ segment, PathChar tables c) (hslash : '/' ∉ segment)
    (hsegment : NamesId h segment) (hslashes : ∀ c ∈ slashes, c = '/') :
    canonicalPageId tables (.text (scheme ++ ':' :: '/' :: '/' :: ((host ++ port) ++
      (folders ++ '/' :: (segment ++ slashes))))) label = .ok h.text := by
  have hchars := pageUrl_chars hscheme hhost hport hpath hslashes
  have hsplit := urlsplit_pageUrl hscheme hhost hport hroot hpath hslashes
  have hauthority := @authority_of_spelling tables host port hhost hport
    ⟨lit "https", host ++ port, folders ++ '/' :: (segment ++ slashes), [], []⟩ rfl
  have hread := @hexFromSegment_names tables h segment hsegment
  obtain ⟨front, tail, rfl, htailNe, htail⟩ := hsegment.suffix
  have hlastSegment := lastSegment_of_path folders (by simp [htailNe]) hslash hslashes
  obtain ⟨hschemeNe, -, hschemeVisible⟩ := isScheme_https hscheme
  generalize hvalue : scheme ++ ':' :: '/' :: '/' :: ((host ++ port) ++
    (folders ++ '/' :: ((front ++ tail) ++ slashes))) = value at hchars hsplit ⊢
  have habsent : ∀ mark ∈ ['?', '#', ';'], mark ∉ value := by
    intro mark hmark hin
    exact (hchars mark hin).2 hmark
  have hinfix : lit "://" <:+: value := by
    refine ⟨scheme, (host ++ port) ++ (folders ++ '/' :: ((front ++ tail) ++ slashes)), ?_⟩
    rw [← hvalue, List.append_assoc]
    rfl
  have hvisible : canonicalPageId tables (.text value) label = pageIdFromUrl tables value label := by
    rw [canonicalPageId_visible _ (fun c hc => (hchars c hc).1), if_pos hinfix]
    · intro c hc
      cases scheme with
      | nil => exact absurd rfl hschemeNe
      | cons d rest =>
        rw [← hvalue] at hc
        exact hschemeVisible c (List.mem_of_mem_head? hc)
    · have hregroup : value = (scheme ++ ':' :: '/' :: '/' :: ((host ++ port) ++
          (folders ++ '/' :: front))) ++ (tail ++ slashes) := by
        rw [← hvalue]
        simp
      rw [hregroup]
      apply last_visible (by simp [htailNe])
      intro c hc
      rcases List.mem_append.mp hc with hin | hin
      · exact htail c hin
      · rw [hslashes c hin]
        exact ⟨by decide, by decide⟩
    · rw [← hvalue]
      simp
  rw [hvisible]
  simp only [pageIdFromUrl, hsplit, hauthority, ensure, habsent '#' (by simp), habsent ';' (by simp),
    habsent '?' (by simp), hlastSegment, hread, bind, Except.bind]
  simp [hhost]

end PageUrls

/-! ## What the canonical id is -/

section CanonicalIds

variable {tables : Tables}

theorem canonicalPageId_of_spelling {h : PageId} {value : Text} (hvalue : Spelling tables h value)
    (label : String) : canonicalPageId tables (.text value) label = .ok h.text := by
  cases hvalue with
  | digits hkey => exact canonicalPageId_digits hkey
  | dashed hkey => exact canonicalPageId_dashed hkey
  | url hscheme hhost hport hroot hpath hslash hsegment hslashes =>
    exact canonicalPageId_url hscheme hhost hport hroot hpath hslash hsegment hslashes

theorem ensure_bind_ok {α : Type} {holds : Bool} {message : String} {next : Except String α} {a : α}
    (h : (ensure holds message >>= fun _ => next) = .ok a) : holds = true ∧ next = .ok a := by
  unfold ensure at h
  split_ifs at h with hholds
  · exact ⟨hholds, h⟩
  · cases h

theorem pageIdFromUrl_ok {value pageId : Text} {label : String}
    (h : pageIdFromUrl tables value label = .ok pageId) :
    ∃ parsed, urlsplit tables.hosts value = some parsed ∧
      hexFromSegment tables (lastSegment parsed.path) = some pageId := by
  unfold pageIdFromUrl at h
  cases hsplit : urlsplit tables.hosts value with
  | none =>
    rw [hsplit] at h
    cases h
  | some parsed =>
    rw [hsplit] at h
    dsimp only at h
    have hread := (ensure_bind_ok (ensure_bind_ok (ensure_bind_ok (ensure_bind_ok (ensure_bind_ok
      (ensure_bind_ok (ensure_bind_ok h).2).2).2).2).2).2).2
    cases hhex : hexFromSegment tables (lastSegment parsed.path) with
    | none =>
      rw [hhex] at hread
      cases hread
    | some found =>
      rw [hhex] at hread
      cases hread
      exact ⟨parsed, rfl, hhex⟩

/-- What an accepted value was read as: a URL by its last segment, any other text as a plain id. -/
theorem canonicalPageId_ok {value : Argument} {label : String} {pageId : Text}
    (h : canonicalPageId tables value label = .ok pageId) :
    ∃ text, value = .text text ∧
      ((lit "://" <:+: text ∧ ∃ parsed, urlsplit tables.hosts text = some parsed ∧
          hexFromSegment tables (lastSegment parsed.path) = some pageId) ∨
        ¬ lit "://" <:+: text ∧ plainPageId tables text = some pageId) := by
  cases value with
  | text text =>
    refine ⟨text, rfl, ?_⟩
    unfold canonicalPageId at h
    have hread := (ensure_bind_ok (ensure_bind_ok (ensure_bind_ok h).2).2).2
    split_ifs at hread with hurl
    · exact Or.inl ⟨hurl, pageIdFromUrl_ok hread⟩
    · cases hplain : plainPageId tables text with
      | none =>
        rw [hplain] at hread
        cases hread
      | some found =>
        rw [hplain] at hread
        cases hread
        exact Or.inr ⟨hurl, rfl⟩
  | bool b => cases h
  | sequence items => cases h
  | other => cases h

theorem canonicalPageId_canonical {value : Argument} {label : String} {pageId : Text}
    (h : canonicalPageId tables value label = .ok pageId) : Canonical pageId := by
  obtain ⟨text, -, ⟨-, parsed, -, hread⟩ | ⟨-, hread⟩⟩ := canonicalPageId_ok h
  · exact hexFromSegment_canonical hread
  · exact plainPageId_canonical hread

/-- Whatever is accepted as a spelling of an id is mapped to it. -/
theorem canonicalPageId_spelledAs {h : PageId} {value pageId : Text} {label : String}
    (hvalue : SpelledAs tables h value)
    (hread : canonicalPageId tables (.text value) label = .ok pageId) : pageId = h.text := by
  rcases hvalue with hdigits | hdashed | ⟨hurl, parsed, hsplit, hsegment⟩
  · rw [canonicalPageId_digits hdigits] at hread
    exact (Except.ok.inj hread).symm
  · rw [canonicalPageId_dashed hdashed] at hread
    exact (Except.ok.inj hread).symm
  · obtain ⟨text, htext, ⟨-, parsed', hsplit', hhex⟩ | ⟨hplain, -⟩⟩ := canonicalPageId_ok hread
    · cases htext
      rw [hsplit] at hsplit'
      cases hsplit'
      exact hexFromSegment_ends hsegment hhex
    · cases htext
      exact absurd hurl hplain

/-- A canonical text is the id whose digits it has. -/
def Canonical.pageId {text : Text} (h : Canonical text) : PageId :=
  ⟨text, h.1, h.2⟩

theorem Canonical.digits {text : Text} (h : Canonical text) : Digits h.pageId text := by
  unfold Digits
  have hself : text.map Char.toLower = text.map id := by
    apply List.map_congr_left
    intro c hc
    exact toLower_of_isHex (h.2 c hc)
  rw [hself, List.map_id]
  rfl

/-- Reading an id again changes nothing. -/
theorem canonicalPageId_again {value : Argument} {label : String} {pageId : Text}
    (h : canonicalPageId tables value label = .ok pageId) (label' : String) :
    canonicalPageId tables (.text pageId) label' = .ok pageId :=
  canonicalPageId_digits (canonicalPageId_canonical h).digits

end CanonicalIds

/-! ## Isolation -/

section Isolation

variable {tables : Tables}

theorem rejectLinks_ok {blocked links : List Text} (h : rejectLinks blocked links = .ok ()) :
    ∀ link ∈ links, link ∉ blocked := by
  induction links with
  | nil =>
    intro link hlink
    exact absurd hlink List.not_mem_nil
  | cons destination rest ih =>
    unfold rejectLinks at h
    split_ifs at h with hblocked
    intro link hlink
    rcases List.mem_cons.mp hlink with rfl | hrest
    · exact hblocked
    · exact ih h link hrest

theorem mem_dedupeFrom {pageIds : List Text} {pageId : Text} (seen : List Text) :
    pageId ∈ dedupeFrom seen pageIds ↔ pageId ∈ pageIds ∧ pageId ∉ seen := by
  induction pageIds generalizing seen with
  | nil => simp [dedupeFrom]
  | cons first rest ih =>
    unfold dedupeFrom
    split_ifs with hseen
    · rw [ih]
      constructor
      · rintro ⟨hrest, hnew⟩
        exact ⟨List.mem_cons_of_mem first hrest, hnew⟩
      · rintro ⟨hmem, hnew⟩
        rcases List.mem_cons.mp hmem with rfl | hrest
        · exact absurd hseen hnew
        · exact ⟨hrest, hnew⟩
    · rw [List.mem_cons, ih, List.mem_cons, List.mem_cons]
      by_cases hfirst : pageId = first
      · subst hfirst
        simp [hseen]
      · simp [hfirst]

theorem mem_dedupePageIds {pageIds : List Text} {pageId : Text} :
    pageId ∈ dedupePageIds pageIds ↔ pageId ∈ pageIds := by
  rw [dedupePageIds, mem_dedupeFrom]
  simp

theorem bind_ok {α β : Type} {first : Except String α} {next : α → Except String β} {b : β}
    (h : (first >>= next) = .ok b) : ∃ a, first = .ok a ∧ next a = .ok b := by
  cases first with
  | error e => cases h
  | ok a => exact ⟨a, rfl, h⟩

/-- Every item of a list that was mapped has its image there. -/
theorem mapM_mem {α β : Type} {f : α → Except String β} {items : List α} {images : List β}
    (h : items.mapM f = .ok images) {item : α} (hitem : item ∈ items) :
    ∃ image ∈ images, f item = .ok image := by
  induction items generalizing images with
  | nil => exact absurd hitem List.not_mem_nil
  | cons first rest ih =>
    rw [List.mapM_cons] at h
    obtain ⟨image, hfirst, h⟩ := bind_ok h
    obtain ⟨others, hrest, h⟩ := bind_ok h
    cases h
    rcases List.mem_cons.mp hitem with rfl | hin
    · exact ⟨image, by simp, hfirst⟩
    · obtain ⟨found, hfound, hread⟩ := ih hrest hin
      exact ⟨found, List.mem_cons_of_mem image hfound, hread⟩

theorem copyPageIds_mem {items : List Argument} {plural singular : String} {pageIds : List Text}
    (h : copyPageIds tables (.sequence items) plural singular = .ok pageIds) {item : Argument}
    (hitem : item ∈ items) :
    ∃ pageId ∈ pageIds, canonicalPageId tables item singular = .ok pageId :=
  mapM_mem h hitem

/-- What a page that was built has read and checked. -/
theorem buildPublishedPage_ok {a : PageArguments} {page : PublishedPage}
    (h : buildPublishedPage tables a = .ok page) :
    ∃ links, canonicalPageId tables a.pageId "page id" = .ok page.pageId ∧
      copyPageIds tables a.links "links" "link" = .ok links ∧
        copyPageIds tables a.otherCataloguePages "other catalogue pages" "other catalogue page" =
          .ok page.otherCataloguePages ∧
            page.links = dedupePageIds links ∧ page.pageId ∉ page.otherCataloguePages ∧
              ∀ link ∈ page.links, link ∉ page.otherCataloguePages := by
  unfold buildPublishedPage at h
  obtain ⟨pageId, hpageId, h⟩ := bind_ok h
  have h := (ensure_bind_ok (ensure_bind_ok (ensure_bind_ok (ensure_bind_ok h).2).2).2).2
  obtain ⟨secretLink, -, h⟩ := bind_ok h
  have h := (ensure_bind_ok h).2
  obtain ⟨links, hlinks, h⟩ := bind_ok h
  obtain ⟨other, hother, h⟩ := bind_ok h
  obtain ⟨⟨⟩, hreject, h⟩ := bind_ok h
  cases h
  unfold rejectOtherCatalogueLinks at hreject
  obtain ⟨hself, hreject⟩ := ensure_bind_ok hreject
  exact ⟨links, hpageId, hlinks, hother, rfl, of_decide_eq_true hself, rejectLinks_ok hreject⟩

/-- The texts of a sequence. -/
def Argument.texts : Argument → List Text
  | .sequence items => items.filterMap (fun item => match item with
      | .text found => some found
      | _ => none)
  | _ => []

theorem copyPageIds_texts {value : Argument} {plural singular : String} {pageIds : List Text}
    (h : copyPageIds tables value plural singular = .ok pageIds) {text : Text}
    (htext : text ∈ value.texts) :
    ∃ pageId ∈ pageIds, canonicalPageId tables (.text text) singular = .ok pageId := by
  cases value with
  | sequence items =>
    obtain ⟨item, hitem, hmatch⟩ := List.mem_filterMap.mp htext
    cases item with
    | text found =>
      cases hmatch
      exact copyPageIds_mem h hitem
    | bool b => cases hmatch
    | sequence items => cases hmatch
    | other => cases hmatch
  | text text => cases h
  | bool b => cases h
  | other => cases h

/-- A page that was built neither is nor links to a page of another catalogue, however they are spelled. -/
theorem buildPublishedPage_isolated {a : PageArguments} {page : PublishedPage} {h h' : PageId}
    {text other : Text} (hbuild : buildPublishedPage tables a = .ok page)
    (htext : a.pageId = .text text ∨ text ∈ a.links.texts) (hspelled : SpelledAs tables h text)
    (hother : other ∈ a.otherCataloguePages.texts) (hspelled' : SpelledAs tables h' other) :
    h.text ≠ h'.text := by
  obtain ⟨links, hpageId, hlinks, hothers, hkept, hself, hdisjoint⟩ := buildPublishedPage_ok hbuild
  obtain ⟨blocked, hblocked, hread'⟩ := copyPageIds_texts hothers hother
  have hblockedText := canonicalPageId_spelledAs hspelled' hread'
  subst hblockedText
  rcases htext with htext | htext
  · rw [htext] at hpageId
    have htextId := canonicalPageId_spelledAs hspelled hpageId
    intro heq
    apply hself
    rw [htextId, heq]
    exact hblocked
  · obtain ⟨link, hlink, hread⟩ := copyPageIds_texts hlinks htext
    have htextId := canonicalPageId_spelledAs hspelled hread
    intro heq
    apply hdisjoint link
    · rw [hkept, mem_dedupePageIds]
      exact hlink
    · rw [htextId, heq]
      exact hblocked

end Isolation

/-! ## Page ids are canonical -/

/-- Every spelling of an id is mapped to it, and pages are compared by it. -/
structure PageIdsCanonical (tables : Tables) : Prop where
  spellings : ∀ (h : PageId) (value : Text) (label : String), Spelling tables h value →
    canonicalPageId tables (.text value) label = .ok h.text
  accepted : ∀ (h : PageId) (value pageId : Text) (label : String), SpelledAs tables h value →
    canonicalPageId tables (.text value) label = .ok pageId → pageId = h.text
  apart : ∀ (h h' : PageId) (value value' pageId pageId' : Text) (label label' : String),
    SpelledAs tables h value → SpelledAs tables h' value' → h.text ≠ h'.text →
      canonicalPageId tables (.text value) label = .ok pageId →
        canonicalPageId tables (.text value') label' = .ok pageId' → pageId ≠ pageId'
  canonical : ∀ (value : Argument) (label : String) (pageId : Text),
    canonicalPageId tables value label = .ok pageId → Canonical pageId
  idempotent : ∀ (value : Argument) (label label' : String) (pageId : Text),
    canonicalPageId tables value label = .ok pageId →
      canonicalPageId tables (.text pageId) label' = .ok pageId
  isolated : ∀ (a : PageArguments) (page : PublishedPage), buildPublishedPage tables a = .ok page →
    page.pageId ∉ page.otherCataloguePages ∧
      ∀ link ∈ page.links, link ∉ page.otherCataloguePages
  isolatedIds : ∀ (a : PageArguments) (page : PublishedPage) (h h' : PageId) (text other : Text),
    buildPublishedPage tables a = .ok page → (a.pageId = .text text ∨ text ∈ a.links.texts) →
      SpelledAs tables h text → other ∈ a.otherCataloguePages.texts → SpelledAs tables h' other →
        h.text ≠ h'.text

theorem page_ids_canonical (tables : Tables) : PageIdsCanonical tables where
  spellings _ _ label hvalue := canonicalPageId_of_spelling hvalue label
  accepted _ _ _ _ hvalue hread := canonicalPageId_spelledAs hvalue hread
  apart := by
    intro h h' value value' pageId pageId' label label' hvalue hvalue' hne hread hread'
    rw [canonicalPageId_spelledAs hvalue hread, canonicalPageId_spelledAs hvalue' hread']
    exact hne
  canonical _ _ _ hread := canonicalPageId_canonical hread
  idempotent _ _ label' _ hread := canonicalPageId_again hread label'
  isolated := by
    intro a page hbuild
    obtain ⟨-, -, -, -, -, hself, hdisjoint⟩ := buildPublishedPage_ok hbuild
    exact ⟨hself, hdisjoint⟩
  isolatedIds _ _ _ _ _ _ hbuild htext hspelled hother hspelled' :=
    buildPublishedPage_isolated hbuild htext hspelled hother hspelled'

/-- The tables within ASCII. -/
def asciiTables : Tables where
  hosts := Url.Hosts.ascii
  casefold := List.map Char.toLower
  normalizeDefanged := id
  forbidden c := decide (c.toNat ≤ 0x20 ∨ c.toNat = 0x7F)
  lower_hex := by
    intro text h c hc
    apply ascii_of_toLower
    exact isHex_ascii (h _ (List.mem_map_of_mem hc))
  forbidden_visible := by
    intro c hlow hhigh
    rw [decide_eq_false_iff_not]
    omega

-- A slug of the same digits does not get in the way of the id.
example :
    hexFromSegment asciiTables (lit "ABCDEF0123456789abcdef0123456789-0123456789ABCDEF0123456789abcdef") =
      some (lit "0123456789abcdef0123456789abcdef") := by
  decide

end Publishing
end Integrations
end MoneyMachine
