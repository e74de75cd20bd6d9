import MoneyMachine.Config.Dsn

/-!
# DatabaseCredentials — where the password of a DSN goes

Validation takes every credential out of the URL, and the rest of it survives quoting.  The password that
comes back in `dsn` is another matter: without a user there is no place for it, a blank one is refused, and
of the credentials in the query the first one is taken, whatever its key.

* `head?_foldl_assign`    : the first entry of the dictionary;
* `validate_safe`         : a URL without credentials is kept with its password;
* `keepsCredential_iff`   : when the password of the input comes back.
-/

namespace MoneyMachine
namespace Config

open MoneyMachine.Domain
open MoneyMachine.Library
open MoneyMachine.Library.Url hiding Text
open MoneyMachine.Library.Percent (Utf8 quote unquote parseQsl joinQuery parseQsl_joinQuery)

/-! ## Credentials of a query -/

/-- The last value that is given under a key. -/
def lastValue (key : Text) (params : List (Text × Text)) : Text :=
  ((params.filter (fun param => decide (param.1 = key))).getLast?.map Prod.snd).getD []

theorem lastValue_cons (key : Text) (param : Text × Text) (rest : List (Text × Text)) :
    lastValue key (param :: rest) =
      if rest.filter (fun param => decide (param.1 = key)) = [] ∧ param.1 = key then param.2
      else lastValue key rest := by
  unfold lastValue
  by_cases hkey : param.1 = key
  · cases hrest : rest.filter (fun param => decide (param.1 = key)) with
    | nil => simp [hkey, hrest]
    | cons next more => simp [hkey, hrest, List.getLast?_cons_cons]
  · simp [hkey]

/-- The first entry of the dictionary keeps its place, and has the last value under its key. -/
theorem head?_foldl_assign (rest : List (Text × Text)) (key value : Text)
    (tail : List (Text × Text)) :
    (rest.foldl assign ((key, value) :: tail)).head? =
      some (key, lastValue key ((key, value) :: rest)) := by
  induction rest generalizing value tail with
  | nil => simp [lastValue]
  | cons param rest ih =>
    rw [List.foldl_cons]
    by_cases hkey : param.1 = key
    · -- The entry is overwritten in its place.
      have hassign : ∃ tail', assign ((key, value) :: tail) param = (key, param.2) :: tail' := by
        refine ⟨tail.map (fun entry => if entry.1 = param.1 then param else entry), ?_⟩
        have hpair : param = (key, param.2) := by rw [← hkey]
        simp [assign, hkey, ← hpair]
      obtain ⟨tail', hassign⟩ := hassign
      rw [hassign, ih]
      have hpair : (key, param.2) = param := by rw [← hkey]
      rw [hpair, lastValue_cons key (key, value) (param :: rest)]
      simp [hkey]
    · have hassign : ∃ tail', assign ((key, value) :: tail) param = (key, value) :: tail' := by
        unfold assign
        split_ifs with hmem
        · exact ⟨_, by rw [List.map_cons, if_neg (fun heq => hkey heq.symm)]⟩
        · exact ⟨tail ++ [param], rfl⟩
      obtain ⟨tail', hassign⟩ := hassign
      rw [hassign, ih]
      simp [lastValue, hkey]

section Credentials

variable (hosts : Hosts) (utf8 : Utf8)

/-- The parameters that are credentials. -/
def credentialParams (params : List (Text × Text)) : List (Text × Text) :=
  params.filter (fun param => isSecretKey hosts param.1)

theorem queryCredentials_nil {params : List (Text × Text)} (h : credentialParams hosts params = []) :
    queryCredentials hosts params = [] := by
  unfold credentialParams at h
  rw [queryCredentials, h]
  rfl

/-- What is taken from the query: the last value under the key that comes first, unless it is empty. -/
theorem firstCredential_cons {params rest : List (Text × Text)} {first : Text × Text}
    (h : credentialParams hosts params = first :: rest) :
    queryCredentials hosts params ≠ [] ∧ firstCredential (queryCredentials hosts params) =
      if lastValue first.1 (first :: rest) = [] then none
      else some (lastValue first.1 (first :: rest)) := by
  unfold credentialParams at h
  have hhead : (queryCredentials hosts params).head? =
      some (first.1, lastValue first.1 (first :: rest)) := by
    rw [queryCredentials, h, List.foldl_cons]
    exact head?_foldl_assign rest first.1 first.2 []
  refine ⟨?_, ?_⟩
  · intro hnil
    rw [hnil] at hhead
    cases hhead
  · rw [firstCredential, hhead]
    by_cases hvalue : lastValue first.1 (first :: rest) = []
    · simp [hvalue]
    · simp [hvalue]

theorem credentialParams_safeParams (params : List (Text × Text)) :
    credentialParams hosts (safeParams hosts params) = [] := by
  rw [credentialParams, safeParams, List.filter_filter, List.filter_eq_nil_iff]
  intro param _
  simp

theorem safeParams_eq_self {params : List (Text × Text)} (h : credentialParams hosts params = []) :
    safeParams hosts params = params := by
  rw [safeParams, List.filter_eq_self]
  intro param hparam
  have hnone := List.filter_eq_nil_iff.mp h param hparam
  simpa using hnone

/-! ## What a URL says -/

/-- The decoded user, empty where there is none. -/
def userOf (parts : SplitResult) : Text :=
  unquote utf8 (parts.username.getD [])

/-- The decoded password of the authority. -/
def passwordOf (parts : SplitResult) : Option Text :=
  parts.password.map (unquote utf8)

/-- The values of the `password` parameter, in any letter case. -/
def passwordParams (params : List (Text × Text)) : List Text :=
  (params.filter (fun param => decide (hosts.lower param.1 = lit "password"))).map Prod.snd

/-- The password of the authority, else the value of the query parameter, else none. -/
def effectivePassword (parts : SplitResult) : Option Text :=
  match passwordOf utf8 parts with
  | some password => some password
  | none => (passwordParams hosts (parseQsl utf8 parts.query)).getLast?

/-- A URL without any credential. -/
def LeakFree (text : Text) : Prop :=
  ∃ parts, urlsplit hosts text = some parts ∧ parts.password = none ∧
    ∀ param ∈ parseQsl utf8 parts.query, isSecretKey hosts param.1 = false

/-- The same database for the same user, with the effective password. -/
structure SameConnection (input parts : SplitResult) : Prop where
  scheme : parts.scheme = input.scheme
  user : userOf utf8 parts = userOf utf8 input
  host : parts.hostname hosts = input.hostname hosts
  port : parts.port = input.port
  path : parts.path = input.path
  params : parseQsl utf8 parts.query = safeParams hosts (parseQsl utf8 input.query)
  password : passwordOf utf8 parts = effectivePassword hosts utf8 input

/-- The credentials of a URL are extracted without loss and without a leak. -/
structure KeepsCredential (url : Text) (settings : DatabaseSettings hosts) : Prop where
  validated : validate hosts utf8 url none = .ok settings
  leakFree : LeakFree hosts utf8 settings.url.text
  lossless : ∃ input text parts, urlsplit hosts url = some input ∧
    settings.dsn hosts utf8 = some text ∧ urlsplit hosts text = some parts ∧
      SameConnection hosts utf8 input parts
  fixed : validate hosts utf8 settings.url.text (settings.password.map Secret.value) = .ok settings

/-- When the password comes back: there is a user for it, it is not blank, and in the query it is under
the credential key that comes first. -/
def Kept (parts : SplitResult) : Prop :=
  match passwordOf utf8 parts with
  | some password => strip password ≠ [] ∧ userOf utf8 parts ≠ []
  | none =>
    match credentialParams hosts (parseQsl utf8 parts.query) with
    | [] => True
    | first :: rest =>
      (lastValue first.1 (first :: rest) = [] ∨ strip (lastValue first.1 (first :: rest)) ≠ []) ∧
        (passwordParams hosts (parseQsl utf8 parts.query)).getLast? =
          if lastValue first.1 (first :: rest) = [] ∨ userOf utf8 parts = [] then none
          else some (lastValue first.1 (first :: rest))

end Credentials

/-! ## Validation -/

theorem trim_visible {text : Text} (h : ∀ c ∈ text, Visible c) :
    trim text = text := by
  have hwhite : ∀ c ∈ text, isWhiteSpace c = false := by
    intro c hc
    have hspace := isSpace_visible (h c hc)
    rw [isSpace, Bool.or_eq_false_iff] at hspace
    exact hspace.1
  have hfront : text.dropWhile isWhiteSpace = text := by
    cases text with
    | nil => rfl
    | cons c rest => simp [hwhite c (by simp)]
  rw [trim, hfront, List.rdropWhile_eq_self_iff]
  intro hne
  simp [hwhite _ (List.getLast_mem hne)]

namespace Dsn

variable {hosts : Hosts} (d : Dsn hosts)

/-- The URL as it is stored. -/
def databaseUrl : DatabaseUrl hosts :=
  ⟨d.text, d.parts, d.urlsplit_text, rfl⟩

theorem text_ne : d.text ≠ [] := by
  intro h
  exact d.scheme_valid.1 (List.append_eq_nil_iff.mp h).1

theorem parse_text : DatabaseUrl.parse hosts d.text = .ok d.databaseUrl := by
  have hstrip := trim_visible d.text_visible
  unfold DatabaseUrl.parse
  rw [if_neg (by rw [hstrip]; exact d.text_ne)]
  split
  · next hnone =>
      rw [hstrip, d.urlsplit_text] at hnone
      cases hnone
  · next parts hsome =>
      have hparts : d.parts = parts := by
        rw [hstrip, d.urlsplit_text] at hsome
        exact Option.some.inj hsome
      have hdriver : parts.scheme = asyncDriver := by
        rw [← hparts]
        rfl
      rw [dif_pos hdriver]
      simp only [databaseUrl, hstrip]

section Validation

variable (utf8 : Utf8)

theorem userOf_parts : userOf utf8 d.parts = d.user utf8 := by
  rw [userOf, d.username_eq]
  rfl

theorem passwordOf_parts : passwordOf utf8 d.parts = d.password utf8 := by
  rw [passwordOf, d.password_eq]
  rfl

/-- What is validated when nothing has to be taken out of the URL. -/
theorem extract_safe (hpassword : d.password utf8 = none)
    (hparams : credentialParams hosts (parseQsl utf8 d.query) = []) (password : Option Text) :
    extractEmbeddedCredentials hosts utf8 d.text password = .ok (d.text, password) := by
  have hembedded : d.parts.password.map (unquote utf8) = none := by
    rw [d.password_eq]
    exact hpassword
  have hnone : queryCredentials hosts (parseQsl utf8 d.parts.query) = [] :=
    queryCredentials_nil hosts hparams
  simp only [extractEmbeddedCredentials, d.urlsplit_text, splitQuery, hembedded, hnone, and_self, if_true]

theorem safeQuery_plain (query : Text) :
    Plain (lit "#") (joinQuery (safeParams hosts (parseQsl utf8 query))) := by
  have hpiece : ∀ param : Text × Text, Plain (lit "#") (quote param.1 ++ '=' :: quote param.2) := by
    intro param
    apply Plain.append (plain_quote (by decide) _)
    exact Plain.cons (by decide) (plain_quote (by decide) _)
  unfold joinQuery
  induction safeParams hosts (parseQsl utf8 query) with
  | nil =>
    intro c hc
    exact absurd hc List.not_mem_nil
  | cons param rest ih =>
    cases rest with
    | nil =>
      rw [List.map_cons, List.map_nil, List.intercalate_singleton]
      exact hpiece param
    | cons next more =>
      rw [List.map_cons, List.intercalate_cons_of_ne_nil (by simp)]
      apply Plain.append _ ih
      apply Plain.append (hpiece param)
      intro c hc
      rw [List.mem_singleton.mp hc]
      decide

/-- The URL without its credentials. -/
def safe : Dsn hosts :=
  d.rebuilt utf8 none (joinQuery (safeParams hosts (parseQsl utf8 d.query))) (safeQuery_plain utf8 d.query)

theorem safe_password : (d.safe utf8).password utf8 = none := by
  rw [safe, password_rebuilt]
  split_ifs
  · rfl
  · rfl

theorem safe_params : parseQsl utf8 (d.safe utf8).query = safeParams hosts (parseQsl utf8 d.query) :=
  parseQsl_joinQuery _

/-- What is taken out of the URL. -/
def candidate : Option Text :=
  candidatePassword (d.password utf8) (queryCredentials hosts (parseQsl utf8 d.query))

/-- What is validated when there is a credential in the URL. -/
theorem extract_credential
    (h : ¬ (d.password utf8 = none ∧ queryCredentials hosts (parseQsl utf8 d.query) = [])) :
    extractEmbeddedCredentials hosts utf8 d.text none = .ok ((d.safe utf8).text, d.candidate utf8) := by
  have hembedded : d.parts.password.map (unquote utf8) = d.password utf8 := by
    rw [d.password_eq]
    rfl
  have hagreed : agreedPassword (d.candidate utf8) none = .ok (d.candidate utf8) := by
    cases d.candidate utf8 with
    | none => rfl
    | some candidate => rfl
  have hrebuilt : rebuildUrl hosts utf8 d.parts none
      (some (joinQuery (safeParams hosts (parseQsl utf8 d.query)))) = some (d.safe utf8).text :=
    d.rebuildUrl_eq utf8 none (some _) (safeQuery_plain utf8 d.query)
  have hquery : d.parts.query = d.query := rfl
  unfold candidate at hagreed ⊢
  simp only [extractEmbeddedCredentials, d.urlsplit_text, splitQuery, hembedded, hquery]
  refine (if_neg h).trans ?_
  rw [hagreed]
  simp only [hrebuilt]

/-- The settings of a URL that was extracted. -/
theorem validate_extracted {url : Text} {supplied password : Option Text}
    (h : extractEmbeddedCredentials hosts utf8 url supplied = .ok (d.text, password)) :
    validate hosts utf8 url supplied = withPassword hosts d.databaseUrl password := by
  simp only [validate, h, d.parse_text, bind, Except.bind]

theorem withPassword_secret (url : DatabaseUrl hosts) (secret : Secret) :
    withPassword hosts url (some secret.value) = .ok ⟨url, some secret⟩ := by
  simp only [withPassword, Secret.parse, dif_neg secret.not_blank]

theorem withPassword_blank (url : DatabaseUrl hosts) {value : Text} (h : strip value = []) :
    withPassword hosts url (some value) = .error "secret must not be blank" := by
  simp only [withPassword, Secret.parse, dif_pos h]

/-- A URL without credentials is kept with its password. -/
theorem validate_safe (hpassword : d.password utf8 = none)
    (hparams : credentialParams hosts (parseQsl utf8 d.query) = []) (password : Option Secret) :
    validate hosts utf8 d.text (password.map Secret.value) = .ok ⟨d.databaseUrl, password⟩ := by
  rw [d.validate_extracted utf8 (d.extract_safe utf8 hpassword hparams _)]
  cases password with
  | none => rfl
  | some secret => exact withPassword_secret d.databaseUrl secret

theorem leakFree_text (hpassword : d.password utf8 = none)
    (hparams : credentialParams hosts (parseQsl utf8 d.query) = []) :
    LeakFree hosts utf8 d.text := by
  refine ⟨d.parts, d.urlsplit_text, ?_, ?_⟩
  · rw [d.password_eq]
    exact Option.map_eq_none_iff.mp hpassword
  · intro param hparam
    have hnone := List.filter_eq_nil_iff.mp hparams param hparam
    simpa using hnone

/-! ## The connection -/

/-- A URL that was rebuilt from another one says the same, up to the password. -/
theorem sameConnection_iff (input : Dsn hosts) (huser : d.user utf8 = input.user utf8)
    (hname : d.name = input.name) (hport : d.portValue = input.portValue) (hpath : d.path = input.path)
    (hparams : parseQsl utf8 d.query = safeParams hosts (parseQsl utf8 input.query)) :
    SameConnection hosts utf8 input.parts d.parts ↔
      d.password utf8 = effectivePassword hosts utf8 input.parts := by
  rw [← passwordOf_parts]
  constructor
  · intro h
    exact h.password
  · intro hpassword
    refine ⟨rfl, ?_, ?_, ?_, hpath, hparams, hpassword⟩
    · rw [userOf_parts, userOf_parts, huser]
    · rw [hostname_eq, hostname_eq, hname]
    · rw [port_eq, port_eq, hport]

/-- The settings that hold a safe URL keep the credential when the password that `dsn` can write is the
effective one. -/
theorem keeps_safe_iff (input : Dsn hosts) (password : Option Secret)
    (hvalidated : validate hosts utf8 input.text none = .ok ⟨(input.safe utf8).databaseUrl, password⟩) :
    (∃ settings, KeepsCredential hosts utf8 input.text settings) ↔
      (if input.user utf8 = [] then none else password.map Secret.value) =
        effectivePassword hosts utf8 input.parts := by
  have hsafePassword := input.safe_password utf8
  have hsafeParams : credentialParams hosts (parseQsl utf8 (input.safe utf8).query) = [] := by
    rw [safe_params]
    exact credentialParams_safeParams hosts _
  -- The URL that `dsn` writes.
  have hwritten : ∃ written : Dsn hosts,
      (⟨(input.safe utf8).databaseUrl, password⟩ : DatabaseSettings hosts).dsn hosts utf8 =
        some written.text ∧
      written.password utf8 = (if input.user utf8 = [] then none else password.map Secret.value) ∧
      (SameConnection hosts utf8 input.parts written.parts ↔
        written.password utf8 = effectivePassword hosts utf8 input.parts) := by
    cases password with
    | none =>
      refine ⟨input.safe utf8, rfl, ?_, ?_⟩
      · rw [hsafePassword]
        split_ifs
        · rfl
        · rfl
      · exact sameConnection_iff _ utf8 input (user_rebuilt _ utf8) (name_rebuilt _ utf8)
          (portValue_rebuilt _ utf8) rfl (input.safe_params utf8)
    | some secret =>
      refine ⟨(input.safe utf8).rebuilt utf8 (some secret.value) (input.safe utf8).query
        (input.safe utf8).query_plain, ?_, ?_, ?_⟩
      · simp only [DatabaseSettings.dsn, databaseUrl, (input.safe utf8).urlsplit_text]
        exact (input.safe utf8).rebuildUrl_eq utf8 (some secret.value) none _
      · rw [password_rebuilt, safe, user_rebuilt]
        rfl
      · apply sameConnection_iff
        · rw [user_rebuilt, safe, user_rebuilt]
        · rw [name_rebuilt, safe, name_rebuilt]
        · rw [portValue_rebuilt, safe, portValue_rebuilt]
        · rfl
        · exact input.safe_params utf8
  obtain ⟨written, hdsn, hpassword, hsame⟩ := hwritten
  rw [← hpassword]
  constructor
  · rintro ⟨settings, hkeeps⟩
    have hsettings := hkeeps.validated
    rw [hvalidated] at hsettings
    cases hsettings
    obtain ⟨parts, text, read, hinput, htext, hread, hconnection⟩ := hkeeps.lossless
    rw [input.urlsplit_text] at hinput
    cases hinput
    rw [hdsn] at htext
    cases htext
    rw [written.urlsplit_text] at hread
    cases hread
    exact hsame.mp hconnection
  · intro heffective
    refine ⟨⟨(input.safe utf8).databaseUrl, password⟩, hvalidated, ?_, ?_, ?_⟩
    · exact (input.safe utf8).leakFree_text utf8 hsafePassword hsafeParams
    · exact ⟨input.parts, written.text, written.parts, input.urlsplit_text, hdsn,
        written.urlsplit_text, hsame.mpr heffective⟩
    · exact (input.safe utf8).validate_safe utf8 hsafePassword hsafeParams password

/-- A URL without credentials comes back as it is. -/
theorem keeps_plain (hpassword : d.password utf8 = none)
    (hparams : credentialParams hosts (parseQsl utf8 d.query) = []) :
    KeepsCredential hosts utf8 d.text ⟨d.databaseUrl, none⟩ := by
  have hvalidated := d.validate_safe utf8 hpassword hparams none
  refine ⟨hvalidated, d.leakFree_text utf8 hpassword hparams, ?_, hvalidated⟩
  refine ⟨d.parts, d.text, d.parts, d.urlsplit_text, rfl, d.urlsplit_text, ?_⟩
  rw [sameConnection_iff d utf8 d rfl rfl rfl rfl (safeParams_eq_self hosts hparams).symm]
  have hnone : passwordParams hosts (parseQsl utf8 d.query) = [] := by
    rw [passwordParams, List.map_eq_nil_iff, List.filter_eq_nil_iff]
    intro param hparam hkey
    have hsecret := List.filter_eq_nil_iff.mp hparams param hparam
    rw [isSecretKey, of_decide_eq_true hkey] at hsecret
    exact hsecret (by decide)
  rw [effectivePassword, passwordOf_parts, hpassword]
  change none = (passwordParams hosts (parseQsl utf8 d.query)).getLast?
  rw [hnone]
  rfl

/-- What comes back is the candidate, where there is a user, and it has to be the effective password. -/
theorem keeps_credential_iff
    (h : ¬ (d.password utf8 = none ∧ queryCredentials hosts (parseQsl utf8 d.query) = [])) :
    (∃ settings, KeepsCredential hosts utf8 d.text settings) ↔
      (∀ value ∈ d.candidate utf8, strip value ≠ []) ∧
        (if d.user utf8 = [] then none else d.candidate utf8) =
          effectivePassword hosts utf8 d.parts := by
  have hvalidate : validate hosts utf8 d.text none =
      withPassword hosts (d.safe utf8).databaseUrl (d.candidate utf8) :=
    (d.safe utf8).validate_extracted utf8 (d.extract_credential utf8 h)
  cases hcandidate : d.candidate utf8 with
  | none =>
    rw [hcandidate] at hvalidate
    rw [d.keeps_safe_iff utf8 none hvalidate, Option.map_none]
    constructor
    · intro heffective
      refine ⟨?_, heffective⟩
      intro value hvalue
      cases hvalue
    · intro hboth
      exact hboth.2
  | some value =>
    rw [hcandidate] at hvalidate
    by_cases hblank : strip value = []
    · rw [withPassword_blank _ hblank] at hvalidate
      constructor
      · rintro ⟨settings, hkeeps⟩
        have hsettings := hkeeps.validated
        rw [hvalidate] at hsettings
        cases hsettings
      · intro hboth
        exact absurd hblank (hboth.1 value rfl)
    · rw [withPassword_secret _ ⟨value, hblank⟩] at hvalidate
      rw [d.keeps_safe_iff utf8 (some ⟨value, hblank⟩) hvalidate]
      constructor
      · intro heffective
        refine ⟨?_, heffective⟩
        intro value' hvalue
        cases hvalue
        exact hblank
      · intro hboth
        exact hboth.2

end Validation

end Dsn

/-! ## The credential of a DSN -/

/-- A URL of the driver keeps its credential exactly when there is a place for it in the URL and it is the
one that is taken. -/
theorem keepsCredential_iff (hosts : Hosts) (utf8 : Utf8) (d : Dsn hosts) :
    (∃ settings, KeepsCredential hosts utf8 d.text settings) ↔ Kept hosts utf8 d.parts := by
  have hquery : d.parts.query = d.query := rfl
  unfold Kept
  rw [d.passwordOf_parts, d.userOf_parts, hquery]
  cases hpassword : d.password utf8 with
  | some password =>
    have hcandidate : d.candidate utf8 = some password := by
      rw [Dsn.candidate, hpassword]
      rfl
    have heffective : effectivePassword hosts utf8 d.parts = some password := by
      rw [effectivePassword, d.passwordOf_parts, hpassword]
    rw [d.keeps_credential_iff utf8 (by simp [hpassword]), hcandidate, heffective]
    by_cases huser : d.user utf8 = []
    · simp [huser]
    · simp [huser]
  | none =>
    have heffective : effectivePassword hosts utf8 d.parts =
        (passwordParams hosts (parseQsl utf8 d.query)).getLast? := by
      rw [effectivePassword, d.passwordOf_parts, hpassword, hquery]
    cases hparams : credentialParams hosts (parseQsl utf8 d.query) with
    | nil =>
      constructor
      · intro _
        trivial
      · intro _
        exact ⟨_, d.keeps_plain utf8 hpassword hparams⟩
    | cons first rest =>
      obtain ⟨hne, hfirst⟩ := firstCredential_cons hosts hparams
      have hcandidate : d.candidate utf8 =
          if lastValue first.1 (first :: rest) = [] then none
          else some (lastValue first.1 (first :: rest)) := by
        rw [Dsn.candidate, hpassword]
        exact hfirst
      rw [d.keeps_credential_iff utf8 (by simp [hne]), hcandidate, heffective]
      dsimp only
      generalize lastValue first.1 (first :: rest) = value
      rw [@eq_comm _ (passwordParams hosts (parseQsl utf8 d.query)).getLast?]
      by_cases hvalue : value = []
      · simp [hvalue]
      · by_cases huser : d.user utf8 = []
        · simp [hvalue, huser]
        · simp [hvalue, huser]

/-- A URL with a key file and a password in its query. -/
def keyFileDsn : Dsn Hosts.ascii where
  scheme := asyncDriver
  userinfo := some (lit "u", none)
  host := lit "h"
  bracketed := false
  port := none
  path := lit "/db"
  query := lit "sslkey=k&password=p"
  queryPart := '?' :: lit "sslkey=k&password=p"
  scheme_driver := Dsn.asyncDriver_lower
  user_plain := by
    intro info hinfo
    cases hinfo
    exact List.all_iff_forall_prop.1 (by decide)
  password_plain := by
    intro info hinfo
    cases hinfo
    intro password hpassword
    cases hpassword
  host_ne := by decide
  host_plain := List.all_iff_forall_prop.1 (by decide)
  host_literal := by decide
  host_name := by decide
  port_number := by
    intro digits hdigits
    cases hdigits
  path_root := by
    rintro c ⟨⟩
    rfl
  path_plain := List.all_iff_forall_prop.1 (by decide)
  query_plain := List.all_iff_forall_prop.1 (by decide)
  query_marked := Or.inr rfl

/-- The key file of the query is taken for the password. -/
theorem key_file_taken :
    ¬ ∃ settings, KeepsCredential Hosts.ascii Utf8.replacing
      (lit "postgresql+asyncpg://u@h/db?sslkey=k&password=p") settings := by
  intro hkeeps
  have htext : keyFileDsn.text = lit "postgresql+asyncpg://u@h/db?sslkey=k&password=p" := by decide
  rw [← htext] at hkeeps
  have hkept := (keepsCredential_iff Hosts.ascii Utf8.replacing keyFileDsn).mp hkeeps
  have hparams : parseQsl Utf8.replacing (lit "sslkey=k&password=p") =
      [(lit "sslkey", lit "k"), (lit "password", lit "p")] := by decide
  have hquery : keyFileDsn.parts.query = lit "sslkey=k&password=p" := rfl
  have hpassword : passwordOf Utf8.replacing keyFileDsn.parts = none := by
    rw [Dsn.passwordOf_parts]
    rfl
  unfold Kept at hkept
  rw [hpassword, hquery, hparams] at hkept
  have heffective : some (lit "p") = some (lit "k") := hkept.2
  exact absurd heffective (by decide)

end Config
end MoneyMachine
