import MoneyMachine.Config.Runtime

/-!
# Dsn — URLs of a database, part by part

A `Dsn` is a URL of the asynchronous driver with its parts as they are written: the characters of each
part are visible and hold none of the marks that would end it.  `urlsplit` reads the parts back, and
`_rebuild_url` writes a `Dsn` again.

* `Dsn.urlsplit_text`  : the parts of the text;
* `Dsn.rebuildUrl_eq`  : what is rebuilt is the text of `Dsn.rebuilt`.
-/

namespace MoneyMachine
namespace Config

open MoneyMachine.Domain
open MoneyMachine.Library
open MoneyMachine.Library.Url hiding Text
open MoneyMachine.Library.Percent (Utf8 quote unquote parseQsl joinQuery quoted_quote not_mem_quote
  quote_eq_nil unquote_quote)

/-- Visible characters, and none of the marks. -/
def Plain (marks : Text) (text : Text) : Prop :=
  ∀ c ∈ text, Visible c ∧ c ∉ marks

theorem Plain.not_mem {marks text : Text} (h : Plain marks text) {c : Char} (hc : c ∈ marks) :
    c ∉ text := by
  intro hmem
  exact (h c hmem).2 hc

theorem Plain.mono {marks marks' text : Text} (h : Plain marks text) (hsub : marks' ⊆ marks) :
    Plain marks' text := by
  intro c hc
  exact ⟨(h c hc).1, fun hmark => (h c hc).2 (hsub hmark)⟩

theorem Plain.append {marks text more : Text} (h : Plain marks text) (hmore : Plain marks more) :
    Plain marks (text ++ more) := by
  intro c hc
  rcases List.mem_append.mp hc with hin | hin
  · exact h c hin
  · exact hmore c hin

theorem Plain.cons {marks text : Text} {c : Char} (hc : Visible c ∧ c ∉ marks)
    (h : Plain marks text) : Plain marks (c :: text) := by
  intro d hd
  rcases List.mem_cons.mp hd with rfl | hin
  · exact hc
  · exact h d hin

theorem plain_quote {marks : Text} (hmarks : marks ⊆ lit "/?#@[]:&=+") (text : Text) :
    Plain marks (quote text) := by
  intro c hc
  refine ⟨(quoted_quote text c hc).visible, ?_⟩
  intro hmark
  exact (quoted_quote text c hc).not_separator (hmarks hmark)

/-- The marks around a user name, a password and a host. -/
def userMarks : Text := lit "/?#@[]:"

def hostMarks : Text := lit "/?#@[]"

section Dsns

variable (hosts : Hosts)

/-- A URL of the driver, by its parts as they are written. -/
structure Dsn where
  scheme : Text
  userinfo : Option (Text × Option Text)
  host : Text
  bracketed : Bool
  port : Option Text
  path : Text
  query : Text
  queryPart : Text
  scheme_driver : scheme.map Char.toLower = asyncDriver
  user_plain : ∀ info ∈ userinfo, Plain userMarks info.1
  password_plain : ∀ info ∈ userinfo, ∀ password ∈ info.2, Plain hostMarks password
  host_ne : host ≠ []
  host_plain : Plain hostMarks host
  host_literal : bracketed = true → hosts.ipLiteral host = true
  host_name : bracketed = false → ':' ∉ host
  port_number : ∀ digits ∈ port, ∃ n, portNumber digits = some n ∧ n ≠ 0
  path_root : ∀ c ∈ path.head?, c = '/'
  path_plain : Plain (lit "?#") path
  query_plain : Plain (lit "#") query
  query_marked : Marked '?' query queryPart

end Dsns

namespace Dsn

variable {hosts : Hosts} (d : Dsn hosts)

/-! ## The text -/

def userinfoPart : Text :=
  match d.userinfo with
  | none => []
  | some (user, none) => user ++ ['@']
  | some (user, some password) => user ++ ':' :: (password ++ ['@'])

def hostPart : Text :=
  if d.bracketed then '[' :: (d.host ++ [']']) else d.host

def portPart : Text :=
  match d.port with
  | none => []
  | some digits => ':' :: digits

def netloc : Text :=
  d.userinfoPart ++ (d.hostPart ++ d.portPart)

def text : Text :=
  d.scheme ++ ':' :: '/' :: '/' :: (d.netloc ++ ((d.path ++ d.queryPart) ++ []))

/-- What `urlsplit` reads. -/
def parts : SplitResult :=
  ⟨asyncDriver, d.netloc, d.path, d.query, []⟩

/-- The host in lower case, as it is compared. -/
def name : Text :=
  foldHost (List.map Char.toLower) d.host

def portValue : Option Nat :=
  d.port.bind portNumber

/-! ## Characters -/

theorem portNumber_some {digits : Text} {n : Nat} (h : portNumber digits = some n) :
    (∀ c ∈ digits, c.isDigit = true) ∧ Nat.ofDigitChars 10 digits 0 = n ∧ n ≤ 65535 := by
  unfold portNumber at h
  split_ifs at h with hdigits
  cases h
  exact ⟨List.all_eq_true.mp hdigits.1, rfl, hdigits.2.2⟩

theorem digit_plain {c : Char} (h : c.isDigit = true) : Visible c ∧ c ∉ userMarks := by
  have hascii : c.toNat < 128 := by
    simp only [Char.isDigit, Bool.and_eq_true, decide_eq_true_eq] at h
    have hnat : c.toNat ≤ 57 := UInt32.le_iff_toNat_le.mp h.2
    omega
  have hall : (!c.isDigit || decide (Visible c ∧ c ∉ userMarks)) = true :=
    ascii_cases (p := fun c => !c.isDigit || decide (Visible c ∧ c ∉ userMarks)) (by decide) hascii
  rw [h] at hall
  simpa using hall

theorem port_plain {digits : Text} (h : digits ∈ d.port) : Plain userMarks digits := by
  obtain ⟨n, hn, -⟩ := d.port_number digits h
  intro c hc
  exact digit_plain ((portNumber_some hn).1 c hc)

theorem scheme_char {c : Char} (h : c.toLower ∈ asyncDriver) :
    schemeChar c = true ∧ Visible c ∧ (c.toLower.isAlpha = true → c.isAlpha = true) := by
  have hascii : c.toNat < 128 := by
    apply ascii_of_toLower
    have hall : ∀ e ∈ asyncDriver, e.toNat < 128 := List.all_iff_forall_prop.1 (by decide)
    exact hall _ h
  have hall : (!decide (c.toLower ∈ asyncDriver) || decide (schemeChar c = true ∧ Visible c ∧
      (c.toLower.isAlpha = true → c.isAlpha = true))) = true :=
    ascii_cases (p := fun c => !decide (c.toLower ∈ asyncDriver) || decide (schemeChar c = true ∧
      Visible c ∧ (c.toLower.isAlpha = true → c.isAlpha = true))) (by decide +kernel) hascii
  rw [decide_eq_true h] at hall
  simp only [Bool.not_true, Bool.false_or, decide_eq_true_eq] at hall
  exact hall

theorem scheme_valid : d.scheme ≠ [] ∧ isScheme d.scheme = true ∧ ∀ c ∈ d.scheme, Visible c := by
  have hdriver := d.scheme_driver
  have hchar : ∀ c ∈ d.scheme, c.toLower ∈ asyncDriver := by
    intro c hc
    rw [← hdriver]
    exact List.mem_map_of_mem hc
  cases hscheme : d.scheme with
  | nil =>
    rw [hscheme] at hdriver
    exact absurd hdriver (by decide)
  | cons c rest =>
    rw [hscheme] at hdriver hchar
    refine ⟨List.cons_ne_nil c rest, ?_, ?_⟩
    · rw [isScheme, Bool.and_eq_true, List.all_eq_true]
      refine ⟨?_, ?_⟩
      · -- The first character is the letter of the driver's name.
        have hfirst : c.toLower = 'p' := by
          have hhead := congrArg List.head? hdriver
          exact Option.some.inj hhead
        apply (scheme_char (hchar c (by simp))).2.2
        rw [hfirst]
        decide
      · intro e he
        exact (scheme_char (hchar e (by simp [he]))).1
    · intro e he
      exact (scheme_char (hchar e he)).2.1

theorem userinfoPart_chars : ∀ c ∈ d.userinfoPart, Visible c ∧ c ∉ lit "/?#[]" := by
  have huser := d.user_plain
  have hpassword := d.password_plain
  have hat : Plain (lit "/?#[]") ['@'] := by
    intro c hc
    rw [List.mem_singleton.mp hc]
    decide
  unfold userinfoPart
  match hinfo : d.userinfo with
  | none =>
    intro c hc
    exact absurd hc List.not_mem_nil
  | some (user, none) =>
    rw [hinfo] at huser
    exact Plain.append ((huser _ rfl).mono (by decide)) hat
  | some (user, some password) =>
    rw [hinfo] at huser hpassword
    apply Plain.append ((huser _ rfl).mono (by decide))
    apply Plain.cons (by decide)
    exact Plain.append ((hpassword _ rfl password rfl).mono (by decide)) hat

theorem hostPart_chars : ∀ c ∈ d.hostPart, Visible c ∧ c ∉ lit "/?#@" := by
  unfold hostPart
  split_ifs
  · apply Plain.cons (by decide)
    apply Plain.append (d.host_plain.mono (by decide))
    intro c hc
    rw [List.mem_singleton.mp hc]
    decide
  · exact d.host_plain.mono (by decide)

theorem portPart_chars : ∀ c ∈ d.portPart, Visible c ∧ c ∉ lit "/?#@[]" := by
  unfold portPart
  cases hport : d.port with
  | none =>
    intro c hc
    exact absurd hc List.not_mem_nil
  | some digits =>
    apply Plain.cons (by decide)
    exact (d.port_plain hport).mono (by decide)

theorem netloc_chars : ∀ c ∈ d.netloc, Visible c ∧ c ∉ lit "/?#" := by
  apply Plain.append
  · exact Plain.mono d.userinfoPart_chars (by decide)
  · exact Plain.append (Plain.mono d.hostPart_chars (by decide)) (Plain.mono d.portPart_chars (by decide))

theorem text_visible : ∀ c ∈ d.text, Visible c := by
  have hquery : Plain [] d.queryPart := by
    rcases d.query_marked with ⟨-, hnil⟩ | hcons
    · rw [hnil]
      intro c hc
      exact absurd hc List.not_mem_nil
    · rw [hcons]
      exact Plain.cons (by decide) (d.query_plain.mono (by decide))
  have htext : Plain [] d.text := by
    apply Plain.append
    · intro c hc
      exact ⟨d.scheme_valid.2.2 c hc, List.not_mem_nil⟩
    · apply Plain.cons (by decide)
      apply Plain.cons (by decide)
      apply Plain.cons (by decide)
      apply Plain.append (Plain.mono d.netloc_chars (by decide))
      rw [List.append_nil]
      exact Plain.append (d.path_plain.mono (by decide)) hquery
  intro c hc
  exact (htext c hc).1

/-! ## Reading -/

theorem hostPart_literal (h : d.bracketed = true) : d.hostPart = '[' :: (d.host ++ [']']) := by
  rw [hostPart, if_pos h]

theorem hostPart_name (h : d.bracketed = false) : d.hostPart = d.host := by
  rw [hostPart, if_neg (by simp [h])]

theorem refused_netloc : hosts.refused d.netloc = false := by
  have hascii : ∀ c ∈ d.netloc, c.toNat < 128 := by
    intro c hc
    exact (d.netloc_chars c hc).1.ascii
  cases hbracketed : d.bracketed with
  | true =>
    have hopen : '[' ∉ d.userinfoPart := Plain.not_mem d.userinfoPart_chars (by decide)
    have hclose : ']' ∉ d.host := d.host_plain.not_mem (by decide)
    have hnetloc : d.netloc = d.userinfoPart ++ '[' :: (d.host ++ ']' :: d.portPart) := by
      rw [netloc, d.hostPart_literal hbracketed]
      simp
    rw [hnetloc] at hascii ⊢
    exact Hosts.refused_literal hopen hclose (d.host_literal hbracketed) hascii
  | false =>
    apply Hosts.refused_plain
    intro c hc
    have hnone : c ∉ lit "[]" := by
      rw [netloc, d.hostPart_name hbracketed] at hc
      rcases List.mem_append.mp hc with hin | hin
      · exact (Plain.mono d.userinfoPart_chars (by decide) c hin).2
      · rcases List.mem_append.mp hin with hin | hin
        · exact (d.host_plain.mono (by decide) c hin).2
        · exact (Plain.mono d.portPart_chars (by decide) c hin).2
    refine ⟨hascii c hc, ?_, ?_⟩
    · rintro rfl
      exact hnone (by decide)
    · rintro rfl
      exact hnone (by decide)

/-- The parts of the text. -/
theorem urlsplit_text : urlsplit hosts d.text = some d.parts := by
  have hdelimiter : ∀ c ∈ d.netloc, isDelimiter c = false := by
    intro c hc
    rw [isDelimiter, decide_eq_false_iff_not]
    exact (d.netloc_chars c hc).2
  have hsplit := urlsplit_compose d.scheme_valid.2.1 hdelimiter d.refused_netloc d.path_root
    ⟨d.path_plain.not_mem (by decide), d.path_plain.not_mem (by decide)⟩
    (d.query_plain.not_mem (by decide)) d.query_marked (Marked.none '#')
  rw [d.scheme_driver] at hsplit
  exact hsplit

theorem hostinfo_eq : d.parts.hostinfo = d.hostPart ++ d.portPart := by
  have hat : '@' ∉ d.hostPart ++ d.portPart := by
    intro hmem
    rcases List.mem_append.mp hmem with hin | hin
    · exact Plain.not_mem d.hostPart_chars (by decide) hin
    · exact Plain.not_mem d.portPart_chars (by decide) hin
  unfold SplitResult.hostinfo
  match hinfo : d.userinfo with
  | none =>
    have hnetloc : d.parts.netloc = d.hostPart ++ d.portPart := by
      simp [parts, netloc, userinfoPart, hinfo]
    rw [hnetloc, lastPart_of_not_mem hat]
  | some (user, none) =>
    have hnetloc : d.parts.netloc = user ++ '@' :: (d.hostPart ++ d.portPart) := by
      simp [parts, netloc, userinfoPart, hinfo]
    rw [hnetloc, lastPart_append hat]
  | some (user, some password) =>
    have hnetloc : d.parts.netloc =
        (user ++ ':' :: password) ++ '@' :: (d.hostPart ++ d.portPart) := by
      simp [parts, netloc, userinfoPart, hinfo]
    rw [hnetloc, lastPart_append hat]

theorem userinfo_eq :
    d.parts.userinfo = d.userinfo.map (fun info => match info.2 with
      | none => info.1
      | some password => info.1 ++ ':' :: password) := by
  have htake : ∀ front back : Text, (front ++ '@' :: back).take
      ((front ++ '@' :: back).length - (back.length + 1)) = front := by
    intro front back
    rw [List.length_append, List.length_cons, Nat.add_sub_cancel, List.take_left]
  unfold SplitResult.userinfo
  rw [d.hostinfo_eq]
  match hinfo : d.userinfo with
  | none =>
    have hnetloc : d.parts.netloc = d.hostPart ++ d.portPart := by
      simp [parts, netloc, userinfoPart, hinfo]
    rw [hnetloc, if_neg]
    · rfl
    · intro hmem
      rcases List.mem_append.mp hmem with hin | hin
      · exact Plain.not_mem d.hostPart_chars (by decide) hin
      · exact Plain.not_mem d.portPart_chars (by decide) hin
  | some (user, none) =>
    have hnetloc : d.parts.netloc = user ++ '@' :: (d.hostPart ++ d.portPart) := by
      simp [parts, netloc, userinfoPart, hinfo]
    rw [hnetloc, if_pos (by simp), htake]
    rfl
  | some (user, some password) =>
    have hnetloc : d.parts.netloc =
        (user ++ ':' :: password) ++ '@' :: (d.hostPart ++ d.portPart) := by
      simp [parts, netloc, userinfoPart, hinfo]
    rw [hnetloc, if_pos (by simp), htake]
    rfl

theorem username_eq : d.parts.username = d.userinfo.map Prod.fst := by
  rw [SplitResult.username, d.userinfo_eq]
  have huser := d.user_plain
  match hinfo : d.userinfo with
  | none => rfl
  | some (user, none) =>
    rw [hinfo] at huser
    have hcolon : ':' ∉ user := (huser _ rfl).not_mem (by decide)
    simp [before_of_not_mem hcolon]
  | some (user, some password) =>
    rw [hinfo] at huser
    have hcolon : ':' ∉ user := (huser _ rfl).not_mem (by decide)
    simp [before_append hcolon]

theorem password_eq : d.parts.password = d.userinfo.bind Prod.snd := by
  rw [SplitResult.password, d.userinfo_eq]
  have huser := d.user_plain
  match hinfo : d.userinfo with
  | none => rfl
  | some (user, none) =>
    rw [hinfo] at huser
    have hcolon : ':' ∉ user := (huser _ rfl).not_mem (by decide)
    simp [after_of_not_mem hcolon]
  | some (user, some password) =>
    rw [hinfo] at huser
    have hcolon : ':' ∉ user := (huser _ rfl).not_mem (by decide)
    simp [after_append hcolon]

theorem hostport_eq : d.parts.hostport = (d.host, d.port) := by
  rw [SplitResult.hostport, d.hostinfo_eq]
  cases hbracketed : d.bracketed with
  | true =>
    have hclose : ']' ∉ d.host := d.host_plain.not_mem (by decide)
    have hopen : d.hostPart ++ d.portPart = [] ++ '[' :: (d.host ++ ']' :: d.portPart) := by
      rw [d.hostPart_literal hbracketed]
      simp
    rw [hopen, after_append List.not_mem_nil]
    simp only [before_append hclose, after_append hclose, Option.bind_some, portPart]
    cases hport : d.port with
    | none => rfl
    | some digits =>
      have hcolon := @after_append ':' [] List.not_mem_nil digits
      rw [List.nil_append] at hcolon
      rw [hcolon]
  | false =>
    have hopen : '[' ∉ d.hostPart ++ d.portPart := by
      rw [d.hostPart_name hbracketed]
      intro hmem
      rcases List.mem_append.mp hmem with hin | hin
      · exact d.host_plain.not_mem (by decide) hin
      · exact Plain.not_mem d.portPart_chars (by decide) hin
    have hcolon := d.host_name hbracketed
    rw [after_of_not_mem hopen, d.hostPart_name hbracketed, portPart]
    cases hport : d.port with
    | none =>
      simp only [List.append_nil, before_of_not_mem hcolon, after_of_not_mem hcolon]
    | some digits => simp only [before_append hcolon, after_append hcolon]

theorem hostname_eq : d.parts.hostname hosts = some d.name := by
  have hlower : hosts.lower (before '%' d.host) = (before '%' d.host).map Char.toLower := by
    apply hosts.lower_ascii
    intro c hc
    exact (d.host_plain c (List.takeWhile_subset _ hc)).1.ascii
  rw [SplitResult.hostname, d.hostport_eq]
  simp only [if_neg d.host_ne, foldHost, hlower, name]

theorem port_eq : d.parts.port = some d.portValue := by
  rw [SplitResult.port, d.hostport_eq, portValue]
  have hnumber := d.port_number
  cases hport : d.port with
  | none => rfl
  | some digits =>
    rw [hport] at hnumber
    obtain ⟨n, hn, hzero⟩ := hnumber digits rfl
    cases digits with
    | nil =>
      cases hn
      exact absurd rfl hzero
    | cons c rest => simp [hn]

/-! ## Rebuilding -/

section Rebuilding

variable (utf8 : Utf8)

/-- The user of the URL, empty where there is none. -/
def user : Text :=
  unquote utf8 ((d.userinfo.map Prod.fst).getD [])

/-- The password of the authority. -/
def password : Option Text :=
  (d.userinfo.bind Prod.snd).map (unquote utf8)

theorem name_char {c : Char} (h : c ∈ d.name) : c ∈ d.host ∨ ∃ e ∈ d.host, e.toLower = c := by
  rcases List.mem_append.mp h with hin | hin
  · obtain ⟨e, he, heq⟩ := List.mem_map.mp hin
    exact Or.inr ⟨e, List.takeWhile_subset _ he, heq⟩
  · exact Or.inl (List.mem_of_mem_drop hin)

/-- Folding the case of a host neither adds a mark nor takes one away. -/
theorem name_plain {marks : Text} (hmarks : ∀ c ∈ marks, c.isAlphanum = false)
    (h : Plain marks d.host) : Plain marks d.name := by
  intro c hc
  rcases d.name_char hc with hin | ⟨e, he, rfl⟩
  · exact h c hin
  · obtain ⟨hvisible, hself⟩ := (h e he).1.toLower
    refine ⟨hvisible, ?_⟩
    intro hmark
    have heq := hself (hmarks _ hmark)
    rw [heq] at hmark
    exact (h e he).2 hmark

theorem name_ne : d.name ≠ [] := by
  intro h
  obtain ⟨rest, heq, -⟩ := before_append_rest '%' d.host
  rw [name, foldHost, List.append_eq_nil_iff, List.map_eq_nil_iff] at h
  rw [h.1, List.length_nil, List.drop_zero] at h
  exact d.host_ne h.2

theorem portNumber_decimal {n : Nat} (h : n ≤ 65535) : portNumber (decimal n) = some n := by
  have hvalue : Nat.ofDigitChars 10 (decimal n) 0 = n := Nat.ofDigitChars_ten_toDigits
  have hlength : (decimal n).length ≤ maxDigits := by
    have hfive : (Nat.toDigits 10 n).length ≤ 5 := by
      rw [Nat.length_toDigits_le_iff (by decide) (by decide)]
      omega
    exact hfive.trans (by decide)
  have hdigits : (decimal n).all Char.isDigit = true := by
    rw [List.all_eq_true]
    intro c hc
    exact Nat.isDigit_of_mem_toDigits (by decide) (by decide) hc
  rw [portNumber, if_pos ⟨hdigits, hlength, by rw [hvalue]; exact h⟩, hvalue]

theorem portValue_some {n : Nat} (h : d.portValue = some n) : n ≠ 0 ∧ n ≤ 65535 := by
  obtain ⟨digits, hport, hn⟩ := Option.bind_eq_some_iff.mp h
  obtain ⟨k, hk, hzero⟩ := d.port_number digits hport
  rw [hk] at hn
  cases hn
  exact ⟨hzero, (portNumber_some hk).2.2⟩

theorem asyncDriver_lower : asyncDriver.map Char.toLower = asyncDriver := by
  decide

/-- The URL that is rebuilt with a password, or deliberately without. -/
def rebuilt (credential : Option Text) (query : Text) (hquery : Plain (lit "#") query) :
    Dsn hosts where
  scheme := asyncDriver
  userinfo := if d.user utf8 = [] then none else some (quote (d.user utf8), credential.map quote)
  host := d.name
  bracketed := decide (':' ∈ d.name)
  port := d.portValue.map decimal
  path := d.path
  query := query
  queryPart := mark '?' query
  scheme_driver := asyncDriver_lower
  user_plain := by
    intro info hinfo
    split_ifs at hinfo
    · cases hinfo
    · cases hinfo
      exact plain_quote (by decide) _
  password_plain := by
    intro info hinfo password hpassword
    split_ifs at hinfo
    · cases hinfo
    · cases hinfo
      obtain ⟨value, -, rfl⟩ := Option.map_eq_some_iff.mp hpassword
      exact plain_quote (by decide) _
  host_ne := d.name_ne
  host_plain := d.name_plain (List.all_iff_forall_prop.1 (by decide)) d.host_plain
  host_literal := by
    intro hcolon
    cases hbracketed : d.bracketed with
    | true => exact hosts.ipLiteral_lower d.host (d.host_literal hbracketed)
    | false =>
      -- A host without brackets has no colon, and folding its case adds none.
      have hplain : Plain [':'] d.host := by
        intro c hc
        refine ⟨(d.host_plain c hc).1, ?_⟩
        intro heq
        rw [List.mem_singleton.mp heq] at hc
        exact d.host_name hbracketed hc
      have hname := d.name_plain (List.all_iff_forall_prop.1 (by decide)) hplain
      exact absurd (of_decide_eq_true hcolon) (hname.not_mem (by decide))
  host_name := of_decide_eq_false
  port_number := by
    intro digits hdigits
    obtain ⟨n, hn, rfl⟩ := Option.map_eq_some_iff.mp hdigits
    obtain ⟨hzero, hmax⟩ := d.portValue_some hn
    exact ⟨n, portNumber_decimal hmax, hzero⟩
  path_root := d.path_root
  path_plain := d.path_plain
  query_plain := hquery
  query_marked := marked_mark '?' query

/-- The authority of the rebuilt URL. -/
theorem rebuildAuthority_eq (credential : Option Text) (query : Text)
    (hquery : Plain (lit "#") query) :
    rebuildAuthority (quote (d.user utf8)) d.name d.portValue credential =
      (d.rebuilt utf8 credential query hquery).netloc := by
  have hport : (if d.portValue.getD 0 ≠ 0 then ':' :: decimal (d.portValue.getD 0) else []) =
      (d.rebuilt utf8 credential query hquery).portPart := by
    change _ = match d.portValue.map decimal with
      | none => []
      | some digits => ':' :: digits
    cases hvalue : d.portValue with
    | none => rfl
    | some n =>
      have hzero := (d.portValue_some hvalue).1
      simp [hzero]
  have hhost : (if ':' ∈ d.name then '[' :: (d.name ++ [']']) else d.name) =
      (d.rebuilt utf8 credential query hquery).hostPart := by
    simp [hostPart, rebuilt]
  simp only [rebuildAuthority, hport, hhost, netloc]
  by_cases huser : d.user utf8 = []
  · simp [userinfoPart, rebuilt, huser, quote_eq_nil]
  · cases credential with
    | none => simp [userinfoPart, rebuilt, huser, quote_eq_nil]
    | some credential => simp [userinfoPart, rebuilt, huser, quote_eq_nil]

theorem netloc_ne : d.netloc ≠ [] := by
  intro hnil
  have hparts := (List.append_eq_nil_iff.mp (List.append_eq_nil_iff.mp hnil).2).1
  unfold hostPart at hparts
  split_ifs at hparts
  exact d.host_ne hparts

/-- `_rebuild_url` writes the rebuilt URL. -/
theorem rebuildUrl_eq (credential query : Option Text)
    (hquery : Plain (lit "#") (query.getD d.query)) :
    rebuildUrl hosts utf8 d.parts credential query =
      some (d.rebuilt utf8 credential (query.getD d.query) hquery).text := by
  have hauthority := d.rebuildAuthority_eq utf8 credential (query.getD d.query) hquery
  have hne := (d.rebuilt utf8 credential (query.getD d.query) hquery).netloc_ne
  simp only [rebuildUrl, d.username_eq, d.hostname_eq, d.port_eq, Option.getD_some, bind, Option.bind]
  have hdriver : asyncDriver ≠ [] := by decide
  unfold user at hauthority
  rw [hauthority, urlunsplit_eq hdriver hne d.path_root rfl]
  rfl

/-! ## What a rebuilt URL says -/

variable {credential : Option Text} {query : Text} {hquery : Plain (lit "#") query}

theorem user_rebuilt : (d.rebuilt utf8 credential query hquery).user utf8 = d.user utf8 := by
  change unquote utf8 (((if d.user utf8 = [] then none
    else some (quote (d.user utf8), credential.map quote)).map Prod.fst).getD []) = d.user utf8
  split_ifs with huser
  · rw [huser]
    rfl
  · exact unquote_quote (d.user utf8)

theorem password_rebuilt :
    (d.rebuilt utf8 credential query hquery).password utf8 =
      if d.user utf8 = [] then none else credential := by
  change ((if d.user utf8 = [] then none
    else some (quote (d.user utf8), credential.map quote)).bind Prod.snd).map (unquote utf8) = _
  split_ifs
  · rfl
  · cases credential with
    | none => rfl
    | some credential => exact congrArg some (unquote_quote credential)

theorem name_rebuilt : (d.rebuilt utf8 credential query hquery).name = d.name :=
  foldHost_foldHost (fun c hc => (d.host_plain c hc).1)

theorem portValue_rebuilt :
    (d.rebuilt utf8 credential query hquery).portValue = d.portValue := by
  unfold portValue rebuilt
  change (d.portValue.map decimal).bind portNumber = d.portValue
  cases hport : d.portValue with
  | none => rfl
  | some n => exact portNumber_decimal (d.portValue_some hport).2

end Rebuilding

end Dsn

end Config
end MoneyMachine
