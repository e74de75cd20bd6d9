import MoneyMachine.Library.Ascii
import Mathlib.Data.List.Basic
import Mathlib.Data.List.TakeWhile

/-!
# Url — `urlsplit` and the parts of an authority

A URL is split as `urllib.parse` does it, along the components of RFC 3986: the scheme before the first
colon, the authority behind two slashes, the path, the query and the fragment.

The case mapping of `str`, the literals that may stand in brackets and the characters that normalise to a
separator are a parameter, `Hosts`.

* `urlsplit_compose` : the components of a composed URL are read back;
* `urlunsplit_eq`    : `urlunsplit` composes them.
-/

namespace MoneyMachine
namespace Library
namespace Url

abbrev Text := List Char

/-! ## Cutting texts -/

/-- `text.partition(c)[0]`. -/
def before (c : Char) (text : Text) : Text :=
  text.takeWhile (fun d => decide (d ≠ c))

/-- `text.partition(c)[2]`, or nothing where there is no `c`. -/
def after (c : Char) (text : Text) : Option Text :=
  if c ∈ text then some (text.dropWhile (fun d => decide (d ≠ c))).tail else none

/-- `text.split(c)[-1]`. -/
def lastPart (c : Char) (text : Text) : Text :=
  (text.reverse.takeWhile (fun d => decide (d ≠ c))).reverse

section Cutting

variable {c : Char} {text : Text}

theorem takeWhile_ne_of_not_mem (h : c ∉ text) :
    text.takeWhile (fun d => decide (d ≠ c)) = text := by
  rw [List.takeWhile_eq_self_iff]
  intro d hd
  simp only [decide_eq_true_eq]
  rintro rfl
  exact h hd

theorem takeWhile_ne_append (h : c ∉ text) (rest : Text) :
    (text ++ c :: rest).takeWhile (fun d => decide (d ≠ c)) = text := by
  rw [List.takeWhile_append_of_pos (by
    intro d hd
    simp only [decide_eq_true_eq]
    rintro rfl
    exact h hd)]
  simp

theorem dropWhile_ne_append (h : c ∉ text) (rest : Text) :
    (text ++ c :: rest).dropWhile (fun d => decide (d ≠ c)) = c :: rest := by
  rw [List.dropWhile_append_of_pos (by
    intro d hd
    simp only [decide_eq_true_eq]
    rintro rfl
    exact h hd)]
  simp

theorem before_of_not_mem (h : c ∉ text) : before c text = text :=
  takeWhile_ne_of_not_mem h

theorem before_append (h : c ∉ text) (rest : Text) : before c (text ++ c :: rest) = text :=
  takeWhile_ne_append h rest

theorem after_of_not_mem (h : c ∉ text) : after c text = none :=
  if_neg h

theorem after_append (h : c ∉ text) (rest : Text) : after c (text ++ c :: rest) = some rest := by
  rw [after, if_pos (by simp), dropWhile_ne_append h]
  rfl

theorem lastPart_of_not_mem (h : c ∉ text) : lastPart c text = text := by
  rw [lastPart, takeWhile_ne_of_not_mem (by simpa using h), List.reverse_reverse]

theorem lastPart_append (h : c ∉ text) (rest : Text) : lastPart c (rest ++ c :: text) = text := by
  rw [lastPart, List.reverse_append, List.reverse_cons, List.append_assoc, List.singleton_append,
    takeWhile_ne_append (by simpa using h), List.reverse_reverse]

/-- A text is what stands in front of its first `c`, and the rest from there. -/
theorem before_append_rest (c : Char) (text : Text) :
    ∃ rest, text = before c text ++ rest ∧ (rest = [] ∨ ∃ more, rest = c :: more) := by
  refine ⟨text.dropWhile (fun d => decide (d ≠ c)), (List.takeWhile_append_dropWhile).symm, ?_⟩
  cases hrest : text.dropWhile (fun d => decide (d ≠ c)) with
  | nil => exact Or.inl rfl
  | cons d more =>
    have hd : d = c := by
      have hne : text.dropWhile (fun d => decide (d ≠ c)) ≠ [] := by
        rw [hrest]
        exact List.cons_ne_nil d more
      have hhead := List.head_dropWhile_not (fun d => decide (d ≠ c)) hne
      simp only [hrest, List.head_cons] at hhead
      simpa using hhead
    rw [hd]
    exact Or.inr ⟨more, rfl⟩

theorem not_mem_before (c : Char) (text : Text) : c ∉ before c text := by
  intro h
  have hmem := List.mem_takeWhile_imp h
  simp at hmem

end Cutting

/-- The host of an authority in lower case; a zone behind `%` keeps its case. -/
def foldHost (lower : Text → Text) (host : Text) : Text :=
  lower (before '%' host) ++ host.drop (before '%' host).length

/-- Folding the case of a host twice is folding it once. -/
theorem foldHost_foldHost {host : Text} (h : ∀ c ∈ host, Visible c) :
    foldHost (List.map Char.toLower) (foldHost (List.map Char.toLower) host) =
      foldHost (List.map Char.toLower) host := by
  obtain ⟨rest, heq, hrest⟩ := before_append_rest '%' host
  have hlower : '%' ∉ (before '%' host).map Char.toLower := by
    intro hmem
    obtain ⟨c, hc, hpercent⟩ := List.mem_map.mp hmem
    have hin : c ∈ host := by
      rw [heq]
      exact List.mem_append_left rest hc
    have hself := (h c hin).toLower.2 (by rw [hpercent]; decide)
    rw [hpercent] at hself
    rw [← hself] at hc
    exact not_mem_before '%' host hc
  have hdrop : host.drop (before '%' host).length = rest := by
    calc
      host.drop (before '%' host).length
          = (before '%' host ++ rest).drop (before '%' host).length := congrArg (List.drop _) heq
      _ = rest := List.drop_left
  have hfold : foldHost (List.map Char.toLower) host =
      (before '%' host).map Char.toLower ++ rest := by
    rw [foldHost, hdrop]
  have hbefore : before '%' ((before '%' host).map Char.toLower ++ rest) =
      (before '%' host).map Char.toLower := by
    rcases hrest with rfl | ⟨more, rfl⟩
    · rw [List.append_nil, before_of_not_mem hlower]
    · exact before_append hlower more
  have htwice : ((before '%' host).map Char.toLower).map Char.toLower =
      (before '%' host).map Char.toLower := by
    rw [List.map_map]
    apply List.map_congr_left
    intro c _
    exact toLower_toLower c
  rw [hfold, foldHost, hbefore, htwice, List.drop_left]

/-! ## Components -/

/-- What lies outside ASCII, and which literals may stand in brackets. -/
structure Hosts where
  lower : Text → Text
  ipLiteral : Text → Bool
  /-- `_checknetloc`: a character that normalises to a separator. -/
  normalizes : Text → Bool
  lower_ascii : ∀ text : Text, (∀ c ∈ text, c.toNat < 128) → lower text = text.map Char.toLower
  ipLiteral_lower : ∀ host : Text, ipLiteral host = true →
    ipLiteral (foldHost (List.map Char.toLower) host) = true
  normalizes_ascii : ∀ text : Text, (∀ c ∈ text, c.toNat < 128) → normalizes text = false

/-- The part behind the first `c`, empty where there is none. -/
def behind (c : Char) (text : Text) : Text :=
  (after c text).getD []

/-- An authority that is refused with a `ValueError`. -/
def Hosts.refused (hosts : Hosts) (netloc : Text) : Bool :=
  decide ('[' ∈ netloc) != decide (']' ∈ netloc) ||
    (decide ('[' ∈ netloc) && !hosts.ipLiteral (before ']' (behind '[' netloc))) ||
      hosts.normalizes netloc

/-- The hosts within ASCII, without literals. -/
def Hosts.ascii : Hosts where
  lower := List.map Char.toLower
  ipLiteral _ := false
  normalizes _ := false
  lower_ascii _ _ := rfl
  ipLiteral_lower := by
    intro host h
    cases h
  normalizes_ascii _ _ := rfl

/-- `SplitResult`. -/
structure SplitResult where
  scheme : Text
  netloc : Text
  path : Text
  query : Text
  fragment : Text

/-- `scheme_chars`. -/
def schemeChar (c : Char) : Bool :=
  c.isAlphanum || decide (c ∈ ['+', '-', '.'])

def isScheme : Text → Bool
  | [] => false
  | c :: rest => c.isAlpha && rest.all schemeChar

/-- The scheme in lower case, and what follows it. -/
def splitScheme (url : Text) : Text × Text :=
  match after ':' url with
  | some rest =>
    if isScheme (before ':' url) then ((before ':' url).map Char.toLower, rest) else ([], url)
  | none => ([], url)

/-- A character that ends the authority. -/
def isDelimiter (c : Char) : Bool :=
  decide (c ∈ ['/', '?', '#'])

/-- The authority behind two slashes, and what follows it. -/
def splitNetloc (url : Text) : Text × Text :=
  match url with
  | '/' :: '/' :: rest =>
    (rest.takeWhile (fun c => !isDelimiter c), rest.dropWhile (fun c => !isDelimiter c))
  | _ => ([], url)

/-- `urlsplit`, or nothing for a `ValueError`. -/
def urlsplit (hosts : Hosts) (url : Text) : Option SplitResult :=
  let (scheme, rest) := splitScheme url
  let (netloc, rest) := splitNetloc rest
  if hosts.refused netloc then
    none
  else
    let fragment := behind '#' rest
    let rest := before '#' rest
    some
      { scheme := scheme
        netloc := netloc
        path := before '?' rest
        query := behind '?' rest
        fragment := fragment }

/-- The digits that `int` reads. -/
def maxDigits : Nat := 4300

/-- The number of a port, or nothing for a `ValueError`. -/
def portNumber (digits : Text) : Option Nat :=
  if digits.all Char.isDigit ∧ digits.length ≤ maxDigits ∧ Nat.ofDigitChars 10 digits 0 ≤ 65535 then
    some (Nat.ofDigitChars 10 digits 0)
  else
    none

namespace SplitResult

variable (parts : SplitResult)

/-- What stands behind the last `@` of the authority. -/
def hostinfo : Text :=
  lastPart '@' parts.netloc

/-- What stands in front of the last `@`. -/
def userinfo : Option Text :=
  if '@' ∈ parts.netloc then
    some (parts.netloc.take (parts.netloc.length - (parts.hostinfo.length + 1)))
  else
    none

def username : Option Text :=
  parts.userinfo.map (before ':')

def password : Option Text :=
  parts.userinfo.bind (after ':')

/-- `_hostinfo`: the host and the text of the port. -/
def hostport : Text × Option Text :=
  match after '[' parts.hostinfo with
  | some bracketed => (before ']' bracketed, (after ']' bracketed).bind (after ':'))
  | none => (before ':' parts.hostinfo, after ':' parts.hostinfo)

/-- `hostname`: a zone behind `%` keeps its case. -/
def hostname (hosts : Hosts) : Option Text :=
  let host := parts.hostport.1
  if host = [] then
    none
  else
    some (foldHost hosts.lower host)

/-- `port`, or nothing for a `ValueError`. -/
def port : Option (Option Nat) :=
  match parts.hostport.2 with
  | none => some none
  | some [] => some none
  | some digits => (portNumber digits).map some

end SplitResult

/-- `urlunsplit`, for a scheme outside `uses_netloc`. -/
def urlunsplit (parts : SplitResult) : Text :=
  let rooted := if parts.path ≠ [] ∧ parts.path.head? ≠ some '/' then '/' :: parts.path else parts.path
  let url := if parts.netloc ≠ [] then '/' :: '/' :: (parts.netloc ++ rooted) else parts.path
  let url := if parts.scheme ≠ [] then parts.scheme ++ ':' :: url else url
  let url := if parts.query ≠ [] then url ++ '?' :: parts.query else url
  if parts.fragment ≠ [] then url ++ '#' :: parts.fragment else url

/-! ## Composed URLs -/

section Composed

variable {hosts : Hosts}

theorem not_isScheme_colon {scheme : Text} (h : isScheme scheme = true) : ':' ∉ scheme := by
  cases scheme with
  | nil => cases h
  | cons c rest =>
    rw [isScheme, Bool.and_eq_true] at h
    intro hmem
    rcases List.mem_cons.mp hmem with rfl | hrest
    · exact absurd h.1 (by decide)
    · have hchar := List.all_eq_true.mp h.2 ':' hrest
      exact absurd hchar (by decide)

theorem splitScheme_compose {scheme : Text} (h : isScheme scheme = true) (rest : Text) :
    splitScheme (scheme ++ ':' :: rest) = (scheme.map Char.toLower, rest) := by
  have hcolon := not_isScheme_colon h
  rw [splitScheme, after_append hcolon, before_append hcolon]
  exact if_pos h

/-- A text that is empty or starts with a delimiter. -/
def Delimited (text : Text) : Prop :=
  ∀ c ∈ text.head?, isDelimiter c = true

theorem splitNetloc_compose {netloc rest : Text} (hnetloc : ∀ c ∈ netloc, isDelimiter c = false)
    (hrest : Delimited rest) : splitNetloc ('/' :: '/' :: (netloc ++ rest)) = (netloc, rest) := by
  rw [splitNetloc, List.takeWhile_append_of_pos (by intro c hc; simp [hnetloc c hc]),
    List.dropWhile_append_of_pos (by intro c hc; simp [hnetloc c hc])]
  cases rest with
  | nil => simp
  | cons c rest =>
    have hc := hrest c rfl
    simp [hc]

/-- A query or a fragment behind its mark, which may be left out where there is none. -/
def Marked (c : Char) (text part : Text) : Prop :=
  (text = [] ∧ part = []) ∨ part = c :: text

theorem Marked.none (c : Char) : Marked c [] [] :=
  Or.inl ⟨rfl, rfl⟩

theorem before_marked {c : Char} {text more part : Text} (h : c ∉ text) (hpart : Marked c more part) :
    before c (text ++ part) = text := by
  rcases hpart with ⟨-, rfl⟩ | rfl
  · rw [List.append_nil, before_of_not_mem h]
  · exact before_append h more

theorem behind_marked {c : Char} {text more part : Text} (h : c ∉ text) (hpart : Marked c more part) :
    behind c (text ++ part) = more := by
  unfold behind
  rcases hpart with ⟨rfl, rfl⟩ | rfl
  · rw [List.append_nil, after_of_not_mem h]
    rfl
  · rw [after_append h]
    rfl

theorem Marked.delimited {c : Char} {text part : Text} (hc : isDelimiter c = true)
    (hpart : Marked c text part) {rest : Text} (hrest : Delimited rest) : Delimited (part ++ rest) := by
  rcases hpart with ⟨-, rfl⟩ | rfl
  · exact hrest
  · intro d hd
    cases hd
    exact hc

/-- The components of a composed URL are read back. -/
theorem urlsplit_compose {scheme netloc path query fragment queryPart fragmentPart : Text}
    (hscheme : isScheme scheme = true) (hnetloc : ∀ c ∈ netloc, isDelimiter c = false)
    (hrefused : hosts.refused netloc = false) (hroot : ∀ c ∈ path.head?, c = '/')
    (hpath : '?' ∉ path ∧ '#' ∉ path) (hquery : '#' ∉ query) (hqueryPart : Marked '?' query queryPart)
    (hfragmentPart : Marked '#' fragment fragmentPart) :
    urlsplit hosts (scheme ++ ':' :: '/' :: '/' :: (netloc ++ ((path ++ queryPart) ++ fragmentPart))) =
      some ⟨scheme.map Char.toLower, netloc, path, query, fragment⟩ := by
  have hdelimited : Delimited ((path ++ queryPart) ++ fragmentPart) := by
    rw [List.append_assoc]
    cases path with
    | cons d path =>
      intro c hc
      cases hc
      rw [hroot d rfl]
      rfl
    | nil =>
      have hlast : Delimited (fragmentPart ++ []) := by
        apply hfragmentPart.delimited rfl
        intro c hc
        cases hc
      rw [List.append_nil] at hlast
      exact hqueryPart.delimited rfl hlast
  have hhash : '#' ∉ path ++ queryPart := by
    intro hmem
    rcases List.mem_append.mp hmem with hin | hin
    · exact hpath.2 hin
    · rcases hqueryPart with ⟨-, rfl⟩ | rfl
      · exact absurd hin List.not_mem_nil
      · rcases List.mem_cons.mp hin with heq | hin
        · exact absurd heq (by decide)
        · exact hquery hin
  unfold urlsplit
  rw [splitScheme_compose hscheme]
  simp only [splitNetloc_compose hnetloc hdelimited, hrefused, Bool.false_eq_true, if_false,
    before_marked hhash hfragmentPart, behind_marked hhash hfragmentPart,
    before_marked hpath.1 hqueryPart, behind_marked hpath.1 hqueryPart]

/-- An ASCII authority without brackets is not refused. -/
theorem Hosts.refused_plain {netloc : Text} (h : ∀ c ∈ netloc, c.toNat < 128 ∧ c ≠ '[' ∧ c ≠ ']') :
    hosts.refused netloc = false := by
  have hopen : '[' ∉ netloc := by
    intro hmem
    exact (h _ hmem).2.1 rfl
  have hclose : ']' ∉ netloc := by
    intro hmem
    exact (h _ hmem).2.2 rfl
  have hascii := hosts.normalizes_ascii netloc (fun c hc => (h c hc).1)
  simp [Hosts.refused, hopen, hclose, hascii]

/-- An ASCII authority with a literal in brackets is not refused. -/
theorem Hosts.refused_literal {front host rest : Text} (hfront : '[' ∉ front) (hhost : ']' ∉ host)
    (hliteral : hosts.ipLiteral host = true)
    (hascii : ∀ c ∈ front ++ '[' :: (host ++ ']' :: rest), c.toNat < 128) :
    hosts.refused (front ++ '[' :: (host ++ ']' :: rest)) = false := by
  have hbehind : behind '[' (front ++ '[' :: (host ++ ']' :: rest)) = host ++ ']' :: rest := by
    rw [behind, after_append hfront]
    rfl
  have hplain := hosts.normalizes_ascii _ hascii
  simp only [Hosts.refused, hbehind, before_append hhost, hliteral, hplain]
  simp

/-- The mark and what stands behind it, left out where there is nothing. -/
def mark (c : Char) (text : Text) : Text :=
  if text = [] then [] else c :: text

theorem marked_mark (c : Char) (text : Text) : Marked c text (mark c text) := by
  unfold mark
  split_ifs with h
  · exact Or.inl ⟨h, rfl⟩
  · exact Or.inr rfl

/-- `urlunsplit` composes the parts. -/
theorem urlunsplit_eq {parts : SplitResult} (hscheme : parts.scheme ≠ []) (hnetloc : parts.netloc ≠ [])
    (hroot : ∀ c ∈ parts.path.head?, c = '/') (hfragment : parts.fragment = []) :
    urlunsplit parts =
      parts.scheme ++ ':' :: '/' :: '/' :: (parts.netloc ++ ((parts.path ++ mark '?' parts.query) ++ [])) := by
  have hrooted : ¬ (parts.path ≠ [] ∧ parts.path.head? ≠ some '/') := by
    rintro ⟨hne, hhead⟩
    cases hpath : parts.path with
    | nil => exact hne hpath
    | cons c path =>
      rw [hpath] at hroot hhead
      rw [hroot c rfl] at hhead
      exact hhead rfl
  simp only [urlunsplit, mark, if_neg hrooted, if_pos hscheme, if_pos hnetloc, hfragment, ne_eq,
    not_true_eq_false, if_false]
  by_cases hquery : parts.query = []
  · simp [hquery]
  · simp [hquery]

end Composed

end Url
end Library
end MoneyMachine
