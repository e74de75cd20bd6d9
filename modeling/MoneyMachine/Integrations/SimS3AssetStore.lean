import Mathlib.Algebra.Order.BigOperators.Group.List
import Mathlib.Algebra.Order.Group.Nat
import MoneyMachine.Integrations.LocalAssetObjects
import MoneyMachine.Library.Action

/-!
# SimS3AssetStore — the same objects under another scheme

The simulated S3 store keeps a dictionary of bytes and one of roles, both keyed by the URI text.  Call
after call it answers what the local store answers, up to the scheme of the URIs:

* `Stores`         : the dictionaries hold these objects;
* `sim_s3_serves`  : every call answers as `Serves` says;
* `sim_s3_refines_local` : any sequence of calls, on two empty stores.
-/

namespace MoneyMachine
namespace Integrations
namespace Storage

open MoneyMachine.Domain
open MoneyMachine.Library
open MoneyMachine.Library.Disk

/-! ## The store -/

/-- What a check raises, or the `KeyError` of a `del`. -/
inductive SimRaised
  | raised (e : Raised)
  | keyError
  deriving DecidableEq, Repr

abbrev Dict (α : Type) : Type :=
  Table (Text × α) Prod.fst

namespace Dict

variable {α : Type}

def lookup (dict : Dict α) (uri : Text) : Option α :=
  (dict.get? uri).map Prod.snd

/-- `del dict[uri]`. -/
def delete (dict : Dict α) (uri : Text) : Except SimRaised (Dict α) :=
  match dict.lookup uri with
  | none => .error .keyError
  | some _ => .ok (dict.erase uri)

theorem lookup_put (dict : Dict α) (uri other : Text) (a : α) :
    lookup (dict.put (uri, a)) other = if uri = other then some a else dict.lookup other := by
  simp only [lookup, Table.get?_put]
  by_cases h : uri = other <;> simp [h]

theorem lookup_erase (dict : Dict α) (uri other : Text) :
    lookup (dict.erase uri) other = if uri = other then none else dict.lookup other := by
  simp only [lookup, Table.get?_erase]
  by_cases h : uri = other <;> simp [h]

theorem mem_keys_iff {dict : Dict α} {uri : Text} :
    uri ∈ dict.rows.map Prod.fst ↔ ∃ a, dict.lookup uri = some a := by
  simp only [lookup, Option.map_eq_some_iff, List.mem_map]
  constructor
  · rintro ⟨row, hmem, rfl⟩
    exact ⟨row.2, row, Table.get?_eq_some_iff.2 ⟨hmem, rfl⟩, rfl⟩
  · rintro ⟨a, row, hget, -⟩
    exact ⟨row, (Table.get?_eq_some_iff.1 hget).1, (Table.get?_eq_some_iff.1 hget).2⟩

end Dict

/-- `_objects` and `_roles`. -/
structure SimS3 where
  objects : Dict Bytes
  roles : Dict StorageRole

def SimS3.empty : SimS3 where
  objects := ⟨[], List.nodup_nil⟩
  roles := ⟨[], List.nodup_nil⟩

namespace SimS3AssetStore

abbrev Call (α : Type) : Type :=
  Action SimS3 SimRaised α

def checked {α : Type} : Except Raised α → Call α
  | .ok a => pure a
  | .error e => Action.raise (.raised e)

/-- `self._objects[uri] = data`, `self._roles[uri] = role`. -/
def assign (uri : Text) (role : StorageRole) (data : Bytes) : Call Unit :=
  Action.change (fun s => ⟨s.objects.put (uri, data), s.roles.put (uri, role)⟩)

/-- `del self._objects[uri]`, `del self._roles[uri]`. -/
def delete (uri : Text) : Call Unit :=
  fun s =>
    match s.objects.delete uri with
    | .error e => (.error e, s)
    | .ok objects =>
      match s.roles.delete uri with
      | .error e => (.error e, { s with objects := objects })
      | .ok roles => (.ok (), ⟨objects, roles⟩)

/-- `_put`. -/
def put (sha256 : Bytes → Text) (role : StorageRole) (scheme : Scheme) (product : Uuid)
    (spec : SpecVersion) (digest : Text) (data : Bytes) : Call StoreAnswer := do
  checked (requireDigest sha256 data digest)
  let uri ← checked (objectUri scheme product spec digest)
  let existing ← Action.inspect (fun s => s.objects.lookup uri)
  match existing with
  | some bytes =>
    if bytes = data then
      pure (.stored ⟨uri, digest, data.length, role⟩)
    else do
      checked (refuseCollision bytes data)
      assign uri role data
      pure (.stored ⟨uri, digest, data.length, role⟩)
  | none => do
      assign uri role data
      pure (.stored ⟨uri, digest, data.length, role⟩)

/-- `read`. -/
def read (uri : Text) : Call StoreAnswer := do
  let data ← Action.inspect (fun s => s.objects.lookup uri)
  match data with
  | none => Action.raise (.raised (.value "storage missing"))
  | some data => pure (.bytes data)

/-- `discard`. -/
def discard (uri : Text) : Call StoreAnswer := do
  checked (refusePublished uri)
  if !Scheme.s3temp.text.isPrefixOf uri then
    Action.raise (.raised (.value "storage role"))
  else do
    let data ← Action.inspect (fun s => s.objects.lookup uri)
    if data.isNone then
      Action.raise (.raised (.value "storage missing"))
    else do
      delete uri
      pure .none

/-- `uri.rsplit("/", 1)[-1]`. -/
def lastPart (uri : Text) : Text :=
  (uri.reverse.takeWhile (fun c => decide (c ≠ '/'))).reverse

/-- `f"s3://temporary/{product_id}/{spec_version}/"`. -/
def temporaryStart (product : Uuid) (spec : SpecVersion) : Text :=
  Scheme.s3temp.text ++ (uuidChars product ++ '/' :: (spec.str ++ ['/']))

/-- The loop of `cleanup_temporary`. -/
def removeUris (start keep : Text) : List Text → List Text → Call (List Text)
  | [], removed => pure removed
  | uri :: rest, removed =>
    if !start.isPrefixOf uri then
      removeUris start keep rest removed
    else if lastPart uri = keep then
      removeUris start keep rest removed
    else do
      let _ ← discard uri
      removeUris start keep rest (removed ++ [lastPart uri])

/-- `cleanup_temporary`. -/
def cleanupTemporary (product : Uuid) (spec : SpecVersion) (keep : Text) : Call StoreAnswer :=
  if decide (keep.length ≠ 64) || keep.any (fun c => !isHexDigit c) then
    Action.raise (.raised (.value "storage hash"))
  else do
    let uris ← Action.inspect (fun s =>
      (s.objects.rows.map Prod.fst).mergeSort (fun a b => decide (a ≤ b)))
    let removed ← removeUris (temporaryStart product spec) keep uris []
    pure (.removed removed)

/-- One call of the store. -/
def script (sha256 : Bytes → Text) : StoreCall → Call StoreAnswer
  | .publish product spec digest data => put sha256 .published .s3 product spec digest data
  | .putTemporary product spec digest data => put sha256 .temporary .s3temp product spec digest data
  | .read uri => read uri
  | .discard uri => discard uri
  | .cleanupTemporary product spec keep => cleanupTemporary product spec keep

end SimS3AssetStore

/-! ## Translated URIs -/

/-- `fixture://` for `s3://simulation/` and `temp://` for `s3://temporary/`, both ways. -/
def translateUri (uri : Text) : Text :=
  if Scheme.fixture.text.isPrefixOf uri then
    Scheme.s3.text ++ uri.drop Scheme.fixture.text.length
  else if Scheme.temp.text.isPrefixOf uri then
    Scheme.s3temp.text ++ uri.drop Scheme.temp.text.length
  else if Scheme.s3.text.isPrefixOf uri then
    Scheme.fixture.text ++ uri.drop Scheme.s3.text.length
  else if Scheme.s3temp.text.isPrefixOf uri then
    Scheme.temp.text ++ uri.drop Scheme.s3temp.text.length
  else
    uri

def StoredObject.translate (object : StoredObject) : StoredObject :=
  { object with storageUri := translateUri object.storageUri }

def StoreCall.translate : StoreCall → StoreCall
  | .read uri => .read (translateUri uri)
  | .discard uri => .discard (translateUri uri)
  | call => call

def StoreAnswer.translate : StoreAnswer → StoreAnswer
  | .stored object => .stored object.translate
  | answer => answer

theorem isPrefixOf_append (start rest : Text) : start.isPrefixOf (start ++ rest) = true :=
  List.isPrefixOf_iff_prefix.2 (List.prefix_append start rest)

theorem eq_append_of_isPrefixOf {start uri : Text} (h : start.isPrefixOf uri = true) :
    uri = start ++ uri.drop start.length :=
  (List.prefix_iff_eq_append.1 (List.isPrefixOf_iff_prefix.1 h)).symm

theorem translateUri_fixture (rest : Text) :
    translateUri (Scheme.fixture.text ++ rest) = Scheme.s3.text ++ rest := by
  simp [translateUri, isPrefixOf_append]

theorem translateUri_temp (rest : Text) :
    translateUri (Scheme.temp.text ++ rest) = Scheme.s3temp.text ++ rest := by
  have hfixture : Scheme.fixture.text.isPrefixOf (Scheme.temp.text ++ rest) = false := rfl
  simp [translateUri, isPrefixOf_append, hfixture]

theorem translateUri_s3 (rest : Text) :
    translateUri (Scheme.s3.text ++ rest) = Scheme.fixture.text ++ rest := by
  have hfixture : Scheme.fixture.text.isPrefixOf (Scheme.s3.text ++ rest) = false := rfl
  have htemp : Scheme.temp.text.isPrefixOf (Scheme.s3.text ++ rest) = false := rfl
  simp [translateUri, isPrefixOf_append, hfixture, htemp]

theorem translateUri_s3temp (rest : Text) :
    translateUri (Scheme.s3temp.text ++ rest) = Scheme.temp.text ++ rest := by
  have hfixture : Scheme.fixture.text.isPrefixOf (Scheme.s3temp.text ++ rest) = false := rfl
  have htemp : Scheme.temp.text.isPrefixOf (Scheme.s3temp.text ++ rest) = false := rfl
  have hs3 : Scheme.s3.text.isPrefixOf (Scheme.s3temp.text ++ rest) = false := rfl
  simp [translateUri, isPrefixOf_append, hfixture, htemp, hs3]

/-- The translation is its own inverse. -/
theorem translateUri_translateUri (uri : Text) : translateUri (translateUri uri) = uri := by
  by_cases hfixture : Scheme.fixture.text.isPrefixOf uri = true
  · rw [eq_append_of_isPrefixOf hfixture, translateUri_fixture, translateUri_s3]
  by_cases htemp : Scheme.temp.text.isPrefixOf uri = true
  · rw [eq_append_of_isPrefixOf htemp, translateUri_temp, translateUri_s3temp]
  by_cases hs3 : Scheme.s3.text.isPrefixOf uri = true
  · rw [eq_append_of_isPrefixOf hs3, translateUri_s3, translateUri_fixture]
  by_cases hs3temp : Scheme.s3temp.text.isPrefixOf uri = true
  · rw [eq_append_of_isPrefixOf hs3temp, translateUri_s3temp, translateUri_temp]
  have hsame : translateUri uri = uri := by
    simp [translateUri, hfixture, htemp, hs3, hs3temp]
  rw [hsame, hsame]

/-- What follows a common beginning is ordered as the whole. -/
theorem le_of_append_le_append {start a b : Text} (h : start ++ a ≤ start ++ b) : a ≤ b := by
  rw [← not_lt] at h ⊢
  exact fun hlt => h (List.Lex.append_left _ hlt start)

/-- The scheme of the simulated store's URIs. -/
def Key.s3Scheme (k : Key) : Scheme :=
  match k.role with
  | .published => .s3
  | .temporary => .s3temp

def Key.s3Uri (k : Key) : Text :=
  k.s3Scheme.text ++ k.rest

theorem translateUri_key (k : Key) : translateUri (k.scheme.text ++ k.rest) = k.s3Uri := by
  unfold Key.scheme Key.s3Uri Key.s3Scheme
  cases k.role with
  | published => exact translateUri_fixture k.rest
  | temporary => exact translateUri_temp k.rest

/-- A URI names a key exactly when its translation is the other URI of the key. -/
theorem key_eq_ok_iff_s3Uri {uri : Text} {k : Key} :
    key uri = .ok k ↔ k.Valid ∧ translateUri uri = k.s3Uri := by
  rw [key_eq_ok_iff]
  apply and_congr_right
  intro _
  constructor
  · rintro rfl
    exact translateUri_key k
  · intro huri
    rw [← translateUri_translateUri uri, huri, ← translateUri_key, translateUri_translateUri]

theorem s3Uri_injective {k k' : Key} (hk : k.Valid) (hk' : k'.Valid) (h : k.s3Uri = k'.s3Uri) :
    k = k' := by
  have huri : translateUri (k.scheme.text ++ k.rest) = k'.s3Uri := (translateUri_key k).trans h
  have hkey : key (k.scheme.text ++ k.rest) = .ok k := key_eq_ok_iff.2 ⟨hk, rfl⟩
  rw [key_eq_ok_iff_s3Uri.2 ⟨hk', huri⟩] at hkey
  cases hkey
  rfl

/-! ## Every call serves -/

/-- The dictionaries hold these objects. -/
structure Stores (sha256 : Bytes → Text) (s : SimS3) (m : Objects) : Prop where
  objects : ∀ uri data, s.objects.lookup uri = some data ↔ ∃ k : Key, uri = k.s3Uri ∧ m k = some data
  roles : ∀ uri, (s.roles.lookup uri).isSome = (s.objects.lookup uri).isSome
  named : m.Named sha256

section Serving

open SimS3AssetStore

variable {sha256 : Bytes → Text} {s : SimS3} {m : Objects}

namespace Stores

theorem empty : Stores sha256 SimS3.empty (fun _ => none) := by
  refine ⟨?_, fun uri => rfl, Objects.named_empty sha256⟩
  intro uri data
  constructor
  · intro h
    cases h
  · rintro ⟨k, -, h⟩
    cases h

theorem lookup (h : Stores sha256 s m) {k : Key} (hk : k.Valid) :
    s.objects.lookup k.s3Uri = m k := by
  apply Option.ext
  intro data
  rw [h.objects]
  constructor
  · rintro ⟨k', huri, hdata⟩
    rw [s3Uri_injective hk (h.named.valid k' data hdata) huri]
    exact hdata
  · exact fun hdata => ⟨k, rfl, hdata⟩

theorem assign (h : Stores sha256 s m) {k : Key} {data : Bytes} (hk : k.Valid)
    (hsha : sha256 data = k.digest) (role : StorageRole) :
    Stores sha256 ⟨s.objects.put (k.s3Uri, data), s.roles.put (k.s3Uri, role)⟩ (m.put k data) := by
  refine ⟨?_, ?_, h.named.put hk hsha⟩
  · intro uri data'
    simp only [Dict.lookup_put]
    by_cases huri : k.s3Uri = uri
    · rw [if_pos huri]
      constructor
      · intro hdata
        cases hdata
        exact ⟨k, huri.symm, by simp [Objects.put]⟩
      · rintro ⟨k', huri', hdata⟩
        have hk' := (h.named.put hk hsha).valid k' data' hdata
        have hsame := s3Uri_injective hk' hk (huri'.symm.trans huri.symm)
        rw [hsame] at hdata
        simpa [Objects.put] using hdata
    · rw [if_neg huri, h.objects]
      apply exists_congr
      intro k'
      apply and_congr_right
      rintro rfl
      have hne : k' ≠ k := fun heq => huri (by rw [heq])
      simp [Objects.put, hne]
  · intro uri
    simp only [Dict.lookup_put]
    split_ifs
    · rfl
    · exact h.roles uri

/-- Deleting an object that is there deletes it and its role. -/
theorem delete (h : Stores sha256 s m) {k : Key} {data : Bytes} (hdata : m k = some data) :
    SimS3AssetStore.delete k.s3Uri s =
        (.ok (), ⟨s.objects.erase k.s3Uri, s.roles.erase k.s3Uri⟩) ∧
      Stores sha256 ⟨s.objects.erase k.s3Uri, s.roles.erase k.s3Uri⟩ (m.erase [k]) := by
  have hk := h.named.valid k data hdata
  have hlookup : s.objects.lookup k.s3Uri = some data := by
    rw [h.lookup hk, hdata]
  have hrole : ∃ role, s.roles.lookup k.s3Uri = some role := by
    have hsome := h.roles k.s3Uri
    rw [hlookup] at hsome
    exact Option.isSome_iff_exists.1 hsome
  rcases hrole with ⟨role, hrole⟩
  refine ⟨by simp [SimS3AssetStore.delete, Dict.delete, hlookup, hrole], ?_, ?_,
    h.named.erase [k]⟩
  · intro uri data'
    simp only [Dict.lookup_erase]
    by_cases huri : k.s3Uri = uri
    · rw [if_pos huri]
      constructor
      · intro hnone
        cases hnone
      · rintro ⟨k', huri', hdata'⟩
        have hk' := (h.named.erase [k]).valid k' data' hdata'
        have hsame := s3Uri_injective hk' hk (huri'.symm.trans huri.symm)
        rw [hsame] at hdata'
        simp [Objects.erase] at hdata'
    · rw [if_neg huri, h.objects]
      apply exists_congr
      intro k'
      apply and_congr_right
      rintro rfl
      have hne : k' ≠ k := fun heq => huri (by rw [heq])
      simp [Objects.erase, hne]
  · intro uri
    simp only [Dict.lookup_erase]
    split_ifs
    · rfl
    · exact h.roles uri

end Stores

@[simp] theorem checked_ok {α : Type} (a : α) (s : SimS3) : checked (.ok a) s = (.ok a, s) := rfl

@[simp] theorem checked_error {α : Type} (e : Raised) (s : SimS3) :
    (checked (.error e) : Call α) s = (.error (.raised e), s) := rfl

/-- The scheme of a put is that of its role. -/
theorem scheme_of_put? {call : StoreCall} {p : Put} (h : call.put? = some p) :
    p.scheme = p.key.scheme := by
  cases call with
  | publish product spec digest data =>
    cases h
    rfl
  | putTemporary product spec digest data =>
    cases h
    rfl
  | read uri => cases h
  | discard uri => cases h
  | cleanupTemporary product spec keep => cases h

theorem translate_object {call : StoreCall} {p : Put} (h : call.put? = some p) :
    p.object.translate = ⟨p.key.s3Uri, p.digest, p.data.length, p.role⟩ := by
  have huri : p.uri = p.key.scheme.text ++ p.key.rest := by
    rw [← scheme_of_put? h]
    rfl
  simp only [StoredObject.translate, Put.object, huri, translateUri_key]

theorem sim_s3_put (h : Stores sha256 s m) {call : StoreCall} {p : Put}
    (hput : call.put? = some p) :
    ∃ r s' answer m', put sha256 p.role p.key.s3Scheme p.product p.spec p.digest p.data s = (r, s') ∧
      r.toOption = answer.map StoreAnswer.translate ∧ Serves sha256 m call answer m' ∧
        Stores sha256 s' m' := by
  have hobject := translate_object hput
  by_cases haccepted : p.Accepted sha256
  · have hrequire := requireDigest_eq_ok_iff.2 ⟨haccepted.hex, haccepted.sha⟩
    have huri : objectUri p.key.s3Scheme p.product p.spec p.digest = .ok p.key.s3Uri := by
      simp only [objectUri, haccepted.spec]
      rfl
    have hlookup := h.lookup haccepted.valid
    cases hdata : m p.key with
    | none =>
      rw [hdata] at hlookup
      refine ⟨.ok (.stored ⟨p.key.s3Uri, p.digest, p.data.length, p.role⟩), _,
        some (.stored p.object), _, ?_, ?_, .stored hput haccepted (Or.inl hdata),
        h.assign haccepted.valid haccepted.sha p.role⟩
      · simp only [put, hrequire, checked_ok, huri, Action.bind_run, Action.inspect_run, hlookup,
          SimS3AssetStore.assign, Action.change_run, Action.pure_run]
      · rw [← hobject]
        rfl
    | some bytes =>
      rw [hdata] at hlookup
      by_cases hsame : bytes = p.data
      · subst hsame
        refine ⟨.ok (.stored ⟨p.key.s3Uri, p.digest, p.data.length, p.role⟩), s,
          some (.stored p.object), m.put p.key p.data, ?_, ?_,
          .stored hput haccepted (Or.inr hdata), ?_⟩
        · simp only [put, hrequire, checked_ok, huri, Action.bind_run, Action.inspect_run,
            hlookup, if_true, Action.pure_run]
        · rw [← hobject]
          rfl
        · rw [Objects.put_same hdata]
          exact h
      · have hcollision : refuseCollision bytes p.data =
            .error (.value "storage collision") := by
          simp [refuseCollision, hsame]
        refine ⟨.error (.raised (.value "storage collision")), s, none, m, ?_, rfl,
          .putRefused hput ?_, h⟩
        · simp only [put, hrequire, checked_ok, huri, Action.bind_run, Action.inspect_run,
            hlookup, if_neg hsame, hcollision, checked_error]
        · rintro ⟨-, hfree | hother⟩
          · rw [hdata] at hfree
            cases hfree
          · rw [hdata] at hother
            exact hsame (Option.some.inj hother)
  · -- One of the two checks refuses the arguments.
    have hrefused : ∃ e, put sha256 p.role p.key.s3Scheme p.product p.spec p.digest p.data s =
        (.error e, s) := by
      cases hrequire : requireDigest sha256 p.data p.digest with
      | error e => exact ⟨.raised e, by simp only [put, hrequire, checked_error, Action.bind_run]⟩
      | ok _ =>
        rcases requireDigest_eq_ok_iff.1 hrequire with ⟨hhex, hsha⟩
        cases hspec : refuseSpec p.spec with
        | ok _ => exact absurd ⟨hhex, hsha, hspec⟩ haccepted
        | error e =>
          have huri : objectUri p.key.s3Scheme p.product p.spec p.digest = .error e := by
            simp only [objectUri, hspec]
          exact ⟨.raised e, by
            simp only [put, hrequire, checked_ok, huri, checked_error, Action.bind_run]⟩
    rcases hrefused with ⟨e, hrun⟩
    exact ⟨.error e, s, none, m, hrun, rfl, .putRefused hput (fun hboth => haccepted hboth.1), h⟩

theorem sim_s3_read (h : Stores sha256 s m) (uri : Text) :
    ∃ r s' answer m', SimS3AssetStore.read (translateUri uri) s = (r, s') ∧
      r.toOption = answer.map StoreAnswer.translate ∧ Serves sha256 m (.read uri) answer m' ∧
        Stores sha256 s' m' := by
  cases hlookup : s.objects.lookup (translateUri uri) with
  | some data =>
    rcases (h.objects _ data).1 hlookup with ⟨k, huri, hdata⟩
    have hkey := key_eq_ok_iff_s3Uri.2 ⟨h.named.valid k data hdata, huri⟩
    refine ⟨.ok (.bytes data), s, some (.bytes data), m, ?_, rfl, .bytes hkey hdata, h⟩
    simp only [SimS3AssetStore.read, Action.bind_run, Action.inspect_run, hlookup, Action.pure_run]
  | none =>
    refine ⟨.error (.raised (.value "storage missing")), s, none, m, ?_, rfl, .readRefused ?_, h⟩
    · simp only [SimS3AssetStore.read, Action.bind_run, Action.inspect_run, hlookup, Action.raise_run]
    · intro k hkey
      rcases key_eq_ok_iff_s3Uri.1 hkey with ⟨hk, huri⟩
      rw [huri, h.lookup hk] at hlookup
      exact hlookup

/-- What is discarded is an object under a temporary URI. -/
theorem discard_present (h : Stores sha256 s m) {k : Key} {data : Bytes}
    (hrole : k.role = .temporary) (hdata : m k = some data) :
    ∃ s', SimS3AssetStore.discard k.s3Uri s = (.ok .none, s') ∧ Stores sha256 s' (m.erase [k]) := by
  have hk := h.named.valid k data hdata
  have huri : k.s3Uri = Scheme.s3temp.text ++ k.rest := by
    rw [Key.s3Uri, Key.s3Scheme, hrole]
  have hpublished : refusePublished k.s3Uri = .ok () := by
    rw [huri]
    rfl
  have hstart : Scheme.s3temp.text.isPrefixOf k.s3Uri = true := by
    rw [huri]
    exact isPrefixOf_append _ _
  have hlookup : s.objects.lookup k.s3Uri = some data := by
    rw [h.lookup hk, hdata]
  rcases h.delete hdata with ⟨hdelete, hstores⟩
  refine ⟨_, ?_, hstores⟩
  simp only [SimS3AssetStore.discard, hpublished, checked_ok, hstart, Bool.not_true, Bool.false_eq_true, if_false,
    Action.bind_run, Action.inspect_run, hlookup, Option.isNone_some, hdelete, Action.pure_run]

theorem sim_s3_discard (h : Stores sha256 s m) (uri : Text) :
    ∃ r s' answer m', SimS3AssetStore.discard (translateUri uri) s = (r, s') ∧
      r.toOption = answer.map StoreAnswer.translate ∧ Serves sha256 m (.discard uri) answer m' ∧
        Stores sha256 s' m' := by
  by_cases hpresent : ∃ k data, key uri = .ok k ∧ k.role = .temporary ∧ m k = some data
  · rcases hpresent with ⟨k, data, hkey, hrole, hdata⟩
    rcases discard_present h hrole hdata with ⟨s', hrun, hstores⟩
    rw [← (key_eq_ok_iff_s3Uri.1 hkey).2] at hrun
    exact ⟨.ok .none, s', some .none, m.erase [k], hrun, rfl, .discarded hkey hrole hdata, hstores⟩
  · have hmissing : ∀ k, key uri = .ok k → k.role = .temporary → m k = none := by
      intro k hkey hrole
      cases hdata : m k with
      | none => rfl
      | some data => exact absurd ⟨k, data, hkey, hrole, hdata⟩ hpresent
    have hrefused : ∃ e, SimS3AssetStore.discard (translateUri uri) s = (.error e, s) := by
      cases hpublished : refusePublished (translateUri uri) with
      | error e => exact ⟨.raised e, by
          simp only [SimS3AssetStore.discard, hpublished, checked_error, Action.bind_run]⟩
      | ok _ =>
        by_cases hstart : Scheme.s3temp.text.isPrefixOf (translateUri uri) = true
        · have hlookup : s.objects.lookup (translateUri uri) = none := by
            cases hlookup : s.objects.lookup (translateUri uri) with
            | none => rfl
            | some data =>
              rcases (h.objects _ data).1 hlookup with ⟨k, huri, hdata⟩
              have hkey := key_eq_ok_iff_s3Uri.2 ⟨h.named.valid k data hdata, huri⟩
              have hrole : k.role = .temporary := by
                cases hrole : k.role with
                | temporary => rfl
                | published =>
                  rw [huri, Key.s3Uri, Key.s3Scheme, hrole] at hpublished
                  cases hpublished
              rw [hmissing k hkey hrole] at hdata
              cases hdata
          exact ⟨.raised (.value "storage missing"), by
            simp only [SimS3AssetStore.discard, hpublished, checked_ok, hstart, Bool.not_true, Bool.false_eq_true,
              if_false, Action.bind_run, Action.inspect_run, hlookup, Option.isNone_none, if_true,
              Action.raise_run]⟩
        · exact ⟨.raised (.value "storage role"), by
            simp only [SimS3AssetStore.discard, hpublished, checked_ok, hstart, Bool.not_false, if_true,
              Action.bind_run, Action.raise_run]⟩
    rcases hrefused with ⟨e, hrun⟩
    exact ⟨.error e, s, none, m, hrun, rfl, .discardRefused hmissing, h⟩

/-! ### Cleaning up -/

theorem slash_not_mem_str (spec : SpecVersion) : '/' ∉ spec.str := by
  have hdigits : ∀ n, '/' ∉ Nat.toDigits 10 n := by
    intro n
    rcases Nat.eq_zero_or_pos n with rfl | hpos
    · decide
    · exact not_mem_of_all (all_of_isSpec (isSpec_toDigits n hpos)) (by decide)
  match spec with
  | .int (.ofNat n) => exact hdigits n
  | .int (.negSucc n) => simp [SpecVersion.str, hdigits]
  | .bool true => decide
  | .bool false => decide

/-- Texts are cut alike at their first slash. -/
theorem slash_cut {part part' rest rest' : Text} (hpart : '/' ∉ part) (hpart' : '/' ∉ part')
    (h : part ++ '/' :: rest = part' ++ '/' :: rest') : part = part' ∧ rest = rest' := by
  have hsplit := congrArg (fun text => text.splitOn '/') h
  simp only [List.splitOn_append_cons_self_of_not_mem hpart,
    List.splitOn_append_cons_self_of_not_mem hpart', List.cons.injEq] at hsplit
  have hsame := hsplit.1
  subst hsame
  exact ⟨rfl, (List.cons.inj (List.append_cancel_left h)).2⟩

/-- A URI in the directory of the renders is that of one of them. -/
theorem temporaryStart_iff {product : Uuid} {spec : SpecVersion} {k : Key} (hk : k.Valid) :
    (temporaryStart product spec).isPrefixOf k.s3Uri = true ↔
      k = temporaryKey product spec k.digest := by
  rcases k with ⟨role, parts, text, digest⟩
  cases role with
  | published =>
    constructor
    · intro hstart
      have hother : (temporaryStart product spec).isPrefixOf
          (Key.s3Uri ⟨.published, parts, text, digest⟩) = false := rfl
      rw [hother] at hstart
      cases hstart
    · intro hkey
      cases hkey
  | temporary =>
    have huri : Key.s3Uri ⟨.temporary, parts, text, digest⟩ =
        Scheme.s3temp.text ++ (parts ++ '/' :: (text ++ '/' :: digest)) := rfl
    constructor
    · intro hstart
      have hproduct : '/' ∉ uuidChars product :=
        not_mem_of_isUuid (isUuid_uuidChars product) (by decide) (by decide)
      have hparts : '/' ∉ parts := not_mem_of_isUuid hk.product (by decide) (by decide)
      have htext : '/' ∉ text := not_mem_of_all (all_of_isSpec hk.spec) (by decide)
      rcases List.isPrefixOf_iff_prefix.1 hstart with ⟨rest, hrest⟩
      have hcut : uuidChars product ++ '/' :: (spec.str ++ '/' :: rest) =
          parts ++ '/' :: (text ++ '/' :: digest) := by
        rw [huri, temporaryStart, List.append_assoc] at hrest
        simpa using List.append_cancel_left hrest
      rcases slash_cut hproduct hparts hcut with ⟨hsame, hcut⟩
      rw [temporaryKey, hsame, (slash_cut (slash_not_mem_str spec) htext hcut).1]
    · intro hkey
      cases hkey
      rw [huri, temporaryStart]
      apply List.isPrefixOf_iff_prefix.2
      exact ⟨digest, by simp⟩

/-- The digest is what follows the last slash. -/
theorem lastPart_s3Uri {k : Key} (hk : k.Valid) : lastPart k.s3Uri = k.digest := by
  have hchars : ∀ c ∈ k.digest.reverse, decide (c ≠ '/') = true := by
    intro c hmem
    simp only [decide_eq_true_eq]
    rintro rfl
    exact not_mem_of_all (isHex64_iff.1 hk.digest).2 (by decide) (List.mem_reverse.1 hmem)
  have hreverse : k.s3Uri.reverse =
      k.digest.reverse ++ '/' :: (k.s3Scheme.text ++ (k.product ++ '/' :: k.spec)).reverse := by
    simp [Key.s3Uri, Key.rest]
  rw [lastPart, hreverse, List.takeWhile_append_of_pos hchars]
  simp

/-- The digests the loop removes. -/
def picked (product : Uuid) (spec : SpecVersion) (keep : Text) (uris : List Text) : List Text :=
  others keep ((uris.filter (fun uri => (temporaryStart product spec).isPrefixOf uri)).map lastPart)

theorem sim_s3_removeUris {product : Uuid} {spec : SpecVersion} {keep : Text} {uris : List Text}
    (removed : List Text) (h : Stores sha256 s m) (hnodup : uris.Nodup)
    (huris : ∀ uri ∈ uris, ∃ k data, uri = Key.s3Uri k ∧ m k = some data) :
    ∃ s', removeUris (temporaryStart product spec) keep uris removed s =
        (.ok (removed ++ picked product spec keep uris), s') ∧
      Stores sha256 s' (m.erase ((picked product spec keep uris).map (temporaryKey product spec))) := by
  induction uris generalizing removed s m with
  | nil => exact ⟨s, by simp [removeUris, picked, others], by simpa [picked, others] using h⟩
  | cons uri rest ih =>
    have hrest : ∀ other ∈ rest, ∃ k data, other = Key.s3Uri k ∧ m k = some data :=
      fun other hmem => huris other (List.mem_cons_of_mem uri hmem)
    rcases huris uri List.mem_cons_self with ⟨k, data, rfl, hdata⟩
    have hk := h.named.valid k data hdata
    have hpart := lastPart_s3Uri hk
    by_cases hstart : (temporaryStart product spec).isPrefixOf k.s3Uri = true
    · have hkey := (temporaryStart_iff hk).1 hstart
      by_cases hkeep : k.digest = keep
      · rcases ih removed h hnodup.of_cons hrest with ⟨s', hrun, hstores⟩
        refine ⟨s', ?_, ?_⟩
        · simp only [removeUris, hstart, Bool.not_true, Bool.false_eq_true, if_false, hpart, hkeep,
            if_true]
          simpa [picked, others, hstart, hpart, hkeep] using hrun
        · simpa [picked, others, hstart, hpart, hkeep] using hstores
      · have hrole : k.role = .temporary := by
          rw [hkey]
          rfl
        rcases discard_present h hrole hdata with ⟨s₁, hdiscard, h₁⟩
        -- The other objects are still there.
        have hstays : ∀ other ∈ rest, ∃ k' data, other = Key.s3Uri k' ∧
            (m.erase [k]) k' = some data := by
          intro other hmem
          rcases hrest other hmem with ⟨k', data', rfl, hdata'⟩
          refine ⟨k', data', rfl, ?_⟩
          have hne : k' ≠ k := by
            rintro rfl
            exact (List.nodup_cons.1 hnodup).1 hmem
          simpa [Objects.erase, hne] using hdata'
        rcases ih (removed ++ [k.digest]) h₁ hnodup.of_cons hstays with ⟨s', hrun, hstores⟩
        refine ⟨s', ?_, ?_⟩
        · simp only [removeUris, hstart, Bool.not_true, Bool.false_eq_true, if_false, hpart, hkeep,
            Action.bind_run, hdiscard]
          simpa [picked, others, hstart, hpart, hkeep] using hrun
        · have hpicked : (picked product spec keep (k.s3Uri :: rest)).map
              (temporaryKey product spec) =
                [k] ++ (picked product spec keep rest).map (temporaryKey product spec) := by
            simp [picked, others, hstart, hpart, hkeep, ← hkey]
          rw [Objects.erase_erase] at hstores
          rw [hpicked]
          exact hstores
    · rcases ih removed h hnodup.of_cons hrest with ⟨s', hrun, hstores⟩
      refine ⟨s', ?_, ?_⟩
      · simp only [removeUris, hstart, Bool.not_false, if_true]
        simpa [picked, hstart] using hrun
      · simpa [picked, hstart] using hstores

/-- The temporary objects are found in order, because their URIs begin alike. -/
theorem Stores.superseded (h : Stores sha256 s m) (product : Uuid) (spec : SpecVersion) (keep : Text)
    {uris : List Text} (hsorted : uris.Pairwise (fun a b => a ≤ b)) (hnodup : uris.Nodup)
    (hmem : ∀ uri, uri ∈ uris ↔ ∃ k data, uri = Key.s3Uri k ∧ m k = some data) :
    Superseded m product spec keep (picked product spec keep uris) := by
  have hfound : ∀ uri ∈ uris.filter (fun uri => (temporaryStart product spec).isPrefixOf uri),
      ∃ data, m (temporaryKey product spec (lastPart uri)) = some data ∧
        uri = temporaryStart product spec ++ lastPart uri := by
    intro uri hfilter
    rcases List.mem_filter.1 hfilter with ⟨huri, hstart⟩
    rcases (hmem uri).1 huri with ⟨k, data, rfl, hdata⟩
    have hk := h.named.valid k data hdata
    have hkey := (temporaryStart_iff hk).1 hstart
    rw [lastPart_s3Uri hk]
    refine ⟨data, hkey ▸ hdata, ?_⟩
    calc
      k.s3Uri = (temporaryKey product spec k.digest).s3Uri := congrArg Key.s3Uri hkey
      _ = temporaryStart product spec ++ k.digest := by
        simp [Key.s3Uri, Key.s3Scheme, Key.rest, temporaryKey, temporaryStart]
  refine ⟨?_, ?_, ?_⟩
  · apply List.Pairwise.filter
    rw [List.pairwise_map]
    apply (hsorted.filter _).imp_of_mem
    intro uri uri' huri huri' hle
    rcases hfound uri huri with ⟨-, -, hparts⟩
    rcases hfound uri' huri' with ⟨-, -, hparts'⟩
    rw [hparts, hparts'] at hle
    exact le_of_append_le_append hle
  · apply List.Nodup.filter
    apply (hnodup.filter _).map_on
    intro uri huri uri' huri' hpart
    rcases hfound uri huri with ⟨-, -, hparts⟩
    rcases hfound uri' huri' with ⟨-, -, hparts'⟩
    rw [hparts, hparts', hpart]
  · intro digest
    simp only [picked, others, List.mem_filter, List.mem_map, decide_eq_true_eq]
    constructor
    · rintro ⟨⟨uri, hfilter, rfl⟩, hne⟩
      rcases hfound uri (List.mem_filter.2 hfilter) with ⟨data, hdata, -⟩
      exact ⟨hne, data, hdata⟩
    · rintro ⟨hne, data, hdata⟩
      have hk := h.named.valid _ data hdata
      refine ⟨⟨Key.s3Uri (temporaryKey product spec digest),
        ⟨(hmem _).2 ⟨_, data, rfl, hdata⟩, (temporaryStart_iff hk).2 rfl⟩, lastPart_s3Uri hk⟩, hne⟩

theorem sim_s3_cleanup (h : Stores sha256 s m) (product : Uuid) (spec : SpecVersion) (keep : Text) :
    ∃ r s' answer m', SimS3AssetStore.cleanupTemporary product spec keep s = (r, s') ∧
      r.toOption = answer.map StoreAnswer.translate ∧
        Serves sha256 m (.cleanupTemporary product spec keep) answer m' ∧ Stores sha256 s' m' := by
  have hcheck : (decide (keep.length ≠ 64) || keep.any (fun c => !isHexDigit c)) = !isHex64 keep := by
    simp [isHex64, Bool.not_and, List.not_all_eq_any_not]
  by_cases hhex : isHex64 keep = true
  · let uris := (s.objects.rows.map Prod.fst).mergeSort (fun a b => decide (a ≤ b))
    have hsorted : uris.Pairwise (fun a b => a ≤ b) := sorted_mergeSort _
    have hnodup : uris.Nodup := (List.mergeSort_perm _ _).nodup_iff.2 s.objects.nodup
    have hmem : ∀ uri, uri ∈ uris ↔ ∃ k data, uri = Key.s3Uri k ∧ m k = some data := by
      intro uri
      rw [List.mem_mergeSort, Dict.mem_keys_iff]
      simp only [h.objects]
      exact exists_comm
    have hloop : ∃ s', removeUris (temporaryStart product spec) keep uris [] s =
        (.ok ([] ++ picked product spec keep uris), s') ∧
          Stores sha256 s' (m.erase ((picked product spec keep uris).map
            (temporaryKey product spec))) :=
      sim_s3_removeUris [] h hnodup (fun uri huri => (hmem uri).1 huri)
    rcases hloop with ⟨s', hrun, hstores⟩
    refine ⟨.ok (.removed (picked product spec keep uris)), s',
      some (.removed (picked product spec keep uris)), _, ?_, rfl,
      .removed hhex (h.superseded product spec keep hsorted hnodup hmem), hstores⟩
    simp only [SimS3AssetStore.cleanupTemporary, hcheck, hhex, Bool.not_true, Bool.false_eq_true,
      if_false, Action.bind_run, Action.inspect_run]
    rw [hrun]
    simp
  · refine ⟨.error (.raised (.value "storage hash")), s, none, m, ?_, rfl,
      .cleanupRefused (by simpa using hhex), h⟩
    simp only [SimS3AssetStore.cleanupTemporary, hcheck, hhex, Bool.not_false, if_true,
      Action.raise_run]

/-- The simulated store serves every call, on translated URIs. -/
theorem sim_s3_serves (h : Stores sha256 s m) (call : StoreCall) :
    ∃ r s' answer m', SimS3AssetStore.script sha256 call.translate s = (r, s') ∧
      r.toOption = answer.map StoreAnswer.translate ∧ Serves sha256 m call answer m' ∧
        Stores sha256 s' m' := by
  cases call with
  | publish product spec digest data =>
    have hput : (StoreCall.publish product spec digest data).put? =
        some ⟨.published, .fixture, product, spec, digest, data⟩ := rfl
    exact sim_s3_put h hput
  | putTemporary product spec digest data =>
    have hput : (StoreCall.putTemporary product spec digest data).put? =
        some ⟨.temporary, .temp, product, spec, digest, data⟩ := rfl
    exact sim_s3_put h hput
  | read uri => exact sim_s3_read h uri
  | discard uri => exact sim_s3_discard h uri
  | cleanupTemporary product spec keep => exact sim_s3_cleanup h product spec keep

end Serving

/-! ## Sequences of calls -/

section Runs

/-- What the local store answers, call after call; `none` is a refusal.  Each call comes with the
`uuid4` of its temporary. -/
def localAnswers (sha256 : Bytes → Text) (patience : Nat) :
    Disk Unit → List (StoreCall × Uuid) → List (Option StoreAnswer)
  | _, [] => []
  | d, (call, uuid4) :: rest =>
    (alone () (LocalAssetStore.script sha256 patience uuid4 call) d).1.toOption ::
      localAnswers sha256 patience
        (alone () (LocalAssetStore.script sha256 patience uuid4 call) d).2 rest

/-- What the simulated store answers. -/
def simS3Answers (sha256 : Bytes → Text) : SimS3 → List StoreCall → List (Option StoreAnswer)
  | _, [] => []
  | s, call :: rest =>
    (SimS3AssetStore.script sha256 call s).1.toOption ::
      simS3Answers sha256 (SimS3AssetStore.script sha256 call s).2 rest

variable {sha256 : Bytes → Text} {patience : Nat}

/-- From a disk and dictionaries that hold the same objects. -/
theorem answers_agree {d : Disk Unit} {s : SimS3} {m : Objects} (hd : Shows sha256 patience d m)
    (hs : Stores sha256 s m) {calls : List (StoreCall × Uuid)}
    (hfits : ∀ c ∈ calls, c.1.Fits patience) :
    simS3Answers sha256 s (calls.map (fun c => c.1.translate)) =
      (localAnswers sha256 patience d calls).map (Option.map StoreAnswer.translate) := by
  induction calls generalizing d s m with
  | nil => rfl
  | cons c rest ih =>
    rcases c with ⟨call, uuid4⟩
    rcases local_serves (i := ()) hd (hfits _ List.mem_cons_self) uuid4 with
      ⟨r, d', m', hlocal, hserves, hd'⟩
    rcases sim_s3_serves hs call with ⟨r', s', answer, m'', hsim, hanswer, hserves', hs'⟩
    -- The objects determine both answers and what is left.
    rcases serves_unique hserves hserves' with ⟨rfl, rfl⟩
    have hrest := ih hd' hs' (fun c hmem => hfits c (List.mem_cons_of_mem _ hmem))
    simp only [List.map_cons, simS3Answers, localAnswers, hsim, hlocal, hanswer, hrest]

/-- How many bytes a call puts. -/
def StoreCall.size (call : StoreCall) : Nat :=
  (call.put?.map (fun p => p.data.length)).getD 0

theorem fits_of_size {call : StoreCall}
    (hspec : ∀ spec, call.spec? = some spec → spec.str.length ≤ nameMax)
    (hsize : call.size < patience) : call.Fits patience := by
  refine ⟨hspec, fun p hput => ?_⟩
  rw [StoreCall.size, hput] at hsize
  exact hsize

/-- Any sequence of calls whose specs fit a file name, on two empty stores: the simulated store answers
as the local one does, up to the scheme of the URIs. -/
theorem sim_s3_refines_local (sha256 : Bytes → Text) (calls : List (StoreCall × Uuid))
    (hspec : ∀ c ∈ calls, ∀ spec, c.1.spec? = some spec → spec.str.length ≤ nameMax) :
    ∃ enough, ∀ patience, enough ≤ patience →
      simS3Answers sha256 SimS3.empty (calls.map (fun c => c.1.translate)) =
        (localAnswers sha256 patience Disk.empty calls).map (Option.map StoreAnswer.translate) := by
  refine ⟨(calls.map (fun c => c.1.size)).sum + 1, fun patience henough => ?_⟩
  apply answers_agree (Shows.empty patience) Stores.empty
  intro c hmem
  apply fits_of_size (hspec c hmem)
  have hle : c.1.size ≤ (calls.map (fun c => c.1.size)).sum :=
    List.single_le_sum (fun _ _ => Nat.zero_le _) _ (List.mem_map_of_mem hmem)
  exact Nat.lt_of_lt_of_le (Nat.lt_succ_of_le hle) henough

/-- A render is stored, kept by the cleanup of another spec, read and discarded. -/
def renderCalls : List (StoreCall × Uuid) :=
  [(.putTemporary 7 (.int 1) emptyDigest [], 1), (.cleanupTemporary 7 (.int 2) emptyDigest, 2),
    (.read emptyPut.uri, 3), (.discard emptyPut.uri, 4)]

theorem sim_s3_refines_local_renders : ∃ enough, ∀ patience, enough ≤ patience →
    simS3Answers (fun _ => emptyDigest) SimS3.empty (renderCalls.map (fun c => c.1.translate)) =
      (localAnswers (fun _ => emptyDigest) patience Disk.empty renderCalls).map
        (Option.map StoreAnswer.translate) := by
  apply sim_s3_refines_local
  intro c hmem spec hspec
  simp only [renderCalls, List.mem_cons, List.not_mem_nil, or_false] at hmem
  rcases hmem with rfl | rfl | rfl | rfl
  · cases hspec
    decide
  · cases hspec
    decide
  · cases hspec
  · cases hspec

end Runs

end Storage
end Integrations
end MoneyMachine
