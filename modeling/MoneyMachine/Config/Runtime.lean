import MoneyMachine.Domain.ListingText
import MoneyMachine.Library.Percent

/-!
# Runtime — the database settings

A DSN may carry its password in the authority or in the query.  Validation moves it into a secret and
stores a URL without it; `dsn` puts the two together again.

`str.lower`, the hosts and the decoder of UTF-8 are parameters.
-/

namespace MoneyMachine
namespace Config

open MoneyMachine.Domain
open MoneyMachine.Library
open MoneyMachine.Library.Url (Hosts SplitResult urlsplit urlunsplit)
open MoneyMachine.Library.Percent (Utf8 quote unquote parseQsl joinQuery)

/-- A secret that is not blank. -/
structure Secret where
  value : Text
  not_blank : strip value ≠ []

/-- `SecretValue`. -/
def Secret.parse (value : Text) : Except String Secret :=
  if h : strip value = [] then .error "secret must not be blank" else .ok ⟨value, h⟩

def asyncDriver : Text := lit "postgresql+asyncpg"

/-- `SECRET_QUERY_KEYS`. -/
def secretQueryKeys : List Text :=
  [lit "password", lit "sslpassword", lit "sslkey", lit "passfile"]

section Settings

variable (hosts : Hosts) (utf8 : Utf8)

/-- A URL of the asynchronous driver. -/
structure DatabaseUrl where
  text : Text
  driver : ∃ parts, urlsplit hosts text = some parts ∧ parts.scheme = asyncDriver

/-- `DatabaseUrl`: stripped, not empty, and of the driver. -/
def DatabaseUrl.parse (value : Text) : Except String (DatabaseUrl hosts) :=
  if trim value = [] then
    .error "String should have at least 1 character"
  else
    match h : urlsplit hosts (trim value) with
    | none => .error "Invalid URL"
    | some parts =>
      if hdriver : parts.scheme = asyncDriver then
        .ok ⟨trim value, parts, h, hdriver⟩
      else
        .error "database URL must use the postgresql+asyncpg driver"

/-- `key.lower() in SECRET_QUERY_KEYS`. -/
def isSecretKey (key : Text) : Bool :=
  decide (hosts.lower key ∈ secretQueryKeys)

/-- `secrets[key] = value`. -/
def assign (secrets : List (Text × Text)) (param : Text × Text) : List (Text × Text) :=
  if param.1 ∈ secrets.map Prod.fst then
    secrets.map (fun entry => if entry.1 = param.1 then param else entry)
  else
    secrets ++ [param]

/-- The credentials of a list of parameters, as the dictionary that `_split_query` fills. -/
def queryCredentials (params : List (Text × Text)) : List (Text × Text) :=
  (params.filter (fun param => isSecretKey hosts param.1)).foldl assign []

/-- The other parameters. -/
def safeParams (params : List (Text × Text)) : List (Text × Text) :=
  params.filter (fun param => !isSecretKey hosts param.1)

/-- `_split_query`. -/
def splitQuery (query : Text) : Text × List (Text × Text) :=
  let params := parseQsl utf8 query
  (joinQuery (safeParams hosts params), queryCredentials hosts params)

/-- The authority that `_rebuild_url` puts together. -/
def rebuildAuthority (user host : Text) (port : Option Nat) (credential : Option Text) : Text :=
  let host := if ':' ∈ host then '[' :: (host ++ [']']) else host
  let port := if port.getD 0 ≠ 0 then ':' :: decimal (port.getD 0) else []
  if user = [] then
    host ++ port
  else
    match credential with
    | none => user ++ '@' :: (host ++ port)
    | some credential => user ++ ':' :: (quote credential ++ '@' :: (host ++ port))

/-- `_rebuild_url`, or nothing for the `ValueError` of a port. -/
def rebuildUrl (parts : SplitResult) (credential query : Option Text) : Option Text := do
  let user := quote (unquote utf8 (parts.username.getD []))
  let host := (parts.hostname hosts).getD []
  let port ← parts.port
  some (urlunsplit
    { scheme := parts.scheme
      netloc := rebuildAuthority user host port credential
      path := parts.path
      query := query.getD parts.query
      fragment := parts.fragment })

/-- `DatabaseSettings`, by its URL and its password. -/
structure DatabaseSettings where
  url : DatabaseUrl hosts
  password : Option Secret

/-- `next(iter(query_secrets.values())) or None`. -/
def firstCredential (credentials : List (Text × Text)) : Option Text :=
  (credentials.head?.map Prod.snd).filter (fun value => decide (value ≠ []))

/-- The password of the authority, else what is taken from the query. -/
def candidatePassword (embedded : Option Text) (credentials : List (Text × Text)) : Option Text :=
  match embedded with
  | some embedded => some embedded
  | none => firstCredential credentials

/-- The password to keep beside the one that was supplied. -/
def agreedPassword (candidate password : Option Text) : Except String (Option Text) :=
  match candidate, password with
  | none, password => .ok password
  | some candidate, none => .ok (some candidate)
  | some candidate, some existing =>
    if existing ≠ candidate then
      .error "database password is supplied twice with different values"
    else
      .ok (some candidate)

/-- `extract_embedded_credentials`: the URL and the password that are validated. -/
def extractEmbeddedCredentials (url : Text) (password : Option Text) :
    Except String (Text × Option Text) :=
  match urlsplit hosts url with
  | none => .error "Invalid URL"
  | some parts =>
    let (safeQuery, querySecrets) := splitQuery hosts utf8 parts.query
    let embedded := parts.password.map (unquote utf8)
    if embedded = none ∧ querySecrets = [] then
      .ok (url, password)
    else
      match agreedPassword (candidatePassword embedded querySecrets) password with
      | .error message => .error message
      | .ok password =>
        match rebuildUrl hosts utf8 parts none (some safeQuery) with
        | none => .error "Port could not be cast to integer value"
        | some url => .ok (url, password)

/-- The settings of a URL, with its password as a secret. -/
def withPassword (url : DatabaseUrl hosts) (password : Option Text) :
    Except String (DatabaseSettings hosts) :=
  match password with
  | none => .ok ⟨url, none⟩
  | some value =>
    match Secret.parse value with
    | .error message => .error message
    | .ok secret => .ok ⟨url, some secret⟩

/-- The validation of `DatabaseSettings(url=…, password=…)`. -/
def validate (url : Text) (password : Option Text) : Except String (DatabaseSettings hosts) := do
  let (url, password) ← extractEmbeddedCredentials hosts utf8 url password
  let url ← DatabaseUrl.parse hosts url
  withPassword hosts url password

/-- `dsn`, or nothing for a `ValueError`. -/
def DatabaseSettings.dsn (settings : DatabaseSettings hosts) : Option Text :=
  match settings.password with
  | none => some settings.url.text
  | some secret =>
    match urlsplit hosts settings.url.text with
    | none => none
    | some parts => rebuildUrl hosts utf8 parts (some secret.value) none

end Settings

end Config
end MoneyMachine
