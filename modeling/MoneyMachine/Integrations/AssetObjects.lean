import MoneyMachine.Integrations.AssetStoreRuns

/-!
# AssetObjects — what a store is for

A store keeps bytes under keys.  `Serves` says what each call answers and what it leaves behind, without
a word about directories or URIs of a scheme; `Shows` is the relation of a disk to what it stores.  The
local store, alone on its disk, serves.
-/

namespace MoneyMachine
namespace Integrations
namespace Storage

open MoneyMachine.Domain
open MoneyMachine.Library
open MoneyMachine.Library.Disk
open Scripts

/-- The bytes under each key. -/
abbrev Objects := Key → Option Bytes

namespace Objects

def put (m : Objects) (k : Key) (data : Bytes) : Objects :=
  fun other => if other = k then some data else m other

def erase (m : Objects) (keys : List Key) : Objects :=
  fun k => if k ∈ keys then none else m k

theorem put_same {m : Objects} {k : Key} {data : Bytes} (h : m k = some data) : m.put k data = m := by
  funext other
  unfold put
  split_ifs with hkey
  · rw [hkey, h]
  · rfl

@[simp] theorem erase_nil (m : Objects) : m.erase [] = m := by
  funext k
  simp [erase]

theorem erase_erase (m : Objects) (keys keys' : List Key) :
    (m.erase keys).erase keys' = m.erase (keys ++ keys') := by
  funext k
  by_cases h : k ∈ keys <;> by_cases h' : k ∈ keys' <;> simp [erase, h, h']

/-- Objects lie under keys that can be built, named by their bytes. -/
structure Named (sha256 : Bytes → Text) (m : Objects) : Prop where
  valid : ∀ k data, m k = some data → k.Valid
  digest : ∀ k data, m k = some data → sha256 data = k.digest

theorem named_empty (sha256 : Bytes → Text) : Named sha256 (fun _ => none) :=
  ⟨fun k data h => (by cases h), fun k data h => (by cases h)⟩

theorem Named.put {sha256 : Bytes → Text} {m : Objects} (h : m.Named sha256) {k : Key}
    {data : Bytes} (hvalid : k.Valid) (hsha : sha256 data = k.digest) :
    (m.put k data).Named sha256 := by
  constructor
  · intro other data' hother
    unfold Objects.put at hother
    split_ifs at hother with hkey
    · exact hkey ▸ hvalid
    · exact h.valid other data' hother
  · intro other data' hother
    unfold Objects.put at hother
    split_ifs at hother with hkey
    · cases hother
      exact hkey ▸ hsha
    · exact h.digest other data' hother

theorem Named.erase {sha256 : Bytes → Text} {m : Objects} (h : m.Named sha256) (keys : List Key) :
    (m.erase keys).Named sha256 := by
  have hold : ∀ k data, m.erase keys k = some data → m k = some data := by
    intro k data hk
    unfold Objects.erase at hk
    split_ifs at hk
    exact hk
  exact ⟨fun k data hk => h.valid k data (hold k data hk),
    fun k data hk => h.digest k data (hold k data hk)⟩

end Objects

/-! ## Calls -/

namespace Put

def key (p : Put) : Key :=
  ⟨p.role, uuidChars p.product, p.spec.str, p.digest⟩

/-- What a put checks of its arguments. -/
structure Accepted (sha256 : Bytes → Text) (p : Put) : Prop where
  hex : isHex64 p.digest = true
  sha : sha256 p.data = p.digest
  spec : refuseSpec p.spec = .ok ()

theorem Accepted.valid {sha256 : Bytes → Text} {p : Put} (h : p.Accepted sha256) : p.key.Valid :=
  ⟨isUuid_uuidChars p.product, isSpec_str h.spec, h.hex⟩

/-- The place is free, or holds the same bytes. -/
def Fresh (m : Objects) (p : Put) : Prop :=
  m p.key = none ∨ m p.key = some p.data

end Put

/-- The key of a temporary render. -/
def temporaryKey (product : Uuid) (spec : SpecVersion) (digest : Text) : Key :=
  ⟨.temporary, uuidChars product, spec.str, digest⟩

/-- What a cleanup removes: the digests of the other renders, each once and in order. -/
structure Superseded (m : Objects) (product : Uuid) (spec : SpecVersion) (keep : Text)
    (removed : List Text) : Prop where
  sorted : removed.Pairwise (fun a b => a ≤ b)
  nodup : removed.Nodup
  mem : ∀ digest, digest ∈ removed ↔
    digest ≠ keep ∧ ∃ data, m (temporaryKey product spec digest) = some data

/-- What a call answers, `none` for a refusal, and the objects it leaves. -/
inductive Serves (sha256 : Bytes → Text) (m : Objects) :
    StoreCall → Option StoreAnswer → Objects → Prop
  | stored {call : StoreCall} {p : Put} (hput : call.put? = some p) (haccepted : p.Accepted sha256)
      (hfresh : p.Fresh m) : Serves sha256 m call (some (.stored p.object)) (m.put p.key p.data)
  | putRefused {call : StoreCall} {p : Put} (hput : call.put? = some p)
      (hrefused : ¬ (p.Accepted sha256 ∧ p.Fresh m)) : Serves sha256 m call none m
  | bytes {uri : Text} {k : Key} {data : Bytes} (hkey : key uri = .ok k) (hdata : m k = some data) :
      Serves sha256 m (.read uri) (some (.bytes data)) m
  | readRefused {uri : Text} (hmissing : ∀ k, key uri = .ok k → m k = none) :
      Serves sha256 m (.read uri) none m
  | discarded {uri : Text} {k : Key} {data : Bytes} (hkey : key uri = .ok k)
      (hrole : k.role = .temporary) (hdata : m k = some data) :
      Serves sha256 m (.discard uri) (some .none) (m.erase [k])
  | discardRefused {uri : Text}
      (hmissing : ∀ k, key uri = .ok k → k.role = .temporary → m k = none) :
      Serves sha256 m (.discard uri) none m
  | removed {product : Uuid} {spec : SpecVersion} {keep : Text} {digests : List Text}
      (hhex : isHex64 keep = true) (hdigests : Superseded m product spec keep digests) :
      Serves sha256 m (.cleanupTemporary product spec keep) (some (.removed digests))
        (m.erase (digests.map (temporaryKey product spec)))
  | cleanupRefused {product : Uuid} {spec : SpecVersion} {keep : Text}
      (hhex : isHex64 keep = false) :
      Serves sha256 m (.cleanupTemporary product spec keep) none m

theorem superseded_unique {m : Objects} {product : Uuid} {spec : SpecVersion} {keep : Text}
    {digests digests' : List Text} (h : Superseded m product spec keep digests)
    (h' : Superseded m product spec keep digests') : digests = digests' := by
  have hperm : digests.Perm digests' :=
    (List.perm_ext_iff_of_nodup h.nodup h'.nodup).2
      (fun digest => (h.mem digest).trans (h'.mem digest).symm)
  exact hperm.eq_of_pairwise (fun _ _ _ _ hle hge => le_antisymm hle hge) h.sorted h'.sorted

/-- The objects determine the answer. -/
theorem serves_unique {sha256 : Bytes → Text} {m m' m'' : Objects} {call : StoreCall}
    {answer answer' : Option StoreAnswer} (h : Serves sha256 m call answer m')
    (h' : Serves sha256 m call answer' m'') : answer = answer' ∧ m' = m'' := by
  cases h with
  | stored hput haccepted hfresh =>
    cases h' with
    | stored hput' =>
      rw [hput] at hput'
      cases hput'
      exact ⟨rfl, rfl⟩
    | putRefused hput' hrefused =>
      rw [hput] at hput'
      cases hput'
      exact absurd ⟨haccepted, hfresh⟩ hrefused
    | _ => cases hput
  | putRefused hput hrefused =>
    cases h' with
    | stored hput' haccepted hfresh =>
      rw [hput] at hput'
      cases hput'
      exact absurd ⟨haccepted, hfresh⟩ hrefused
    | putRefused => exact ⟨rfl, rfl⟩
    | _ => cases hput
  | bytes hkey hdata =>
    cases h' with
    | stored hput' => cases hput'
    | putRefused hput' => cases hput'
    | bytes hkey' hdata' =>
      rw [hkey] at hkey'
      cases hkey'
      rw [hdata] at hdata'
      cases hdata'
      exact ⟨rfl, rfl⟩
    | readRefused hmissing =>
      rw [hmissing _ hkey] at hdata
      cases hdata
  | readRefused hmissing =>
    cases h' with
    | stored hput' => cases hput'
    | putRefused hput' => cases hput'
    | bytes hkey' hdata' =>
      rw [hmissing _ hkey'] at hdata'
      cases hdata'
    | readRefused => exact ⟨rfl, rfl⟩
  | discarded hkey hrole hdata =>
    cases h' with
    | stored hput' => cases hput'
    | putRefused hput' => cases hput'
    | discarded hkey' =>
      rw [hkey] at hkey'
      cases hkey'
      exact ⟨rfl, rfl⟩
    | discardRefused hmissing =>
      rw [hmissing _ hkey hrole] at hdata
      cases hdata
  | discardRefused hmissing =>
    cases h' with
    | stored hput' => cases hput'
    | putRefused hput' => cases hput'
    | discarded hkey' hrole' hdata' =>
      rw [hmissing _ hkey' hrole'] at hdata'
      cases hdata'
    | discardRefused => exact ⟨rfl, rfl⟩
  | removed hhex hdigests =>
    cases h' with
    | stored hput' => cases hput'
    | putRefused hput' => cases hput'
    | removed hhex' hdigests' =>
      rw [superseded_unique hdigests hdigests']
      exact ⟨rfl, rfl⟩
    | cleanupRefused hhex' =>
      rw [hhex] at hhex'
      cases hhex'
  | cleanupRefused hhex =>
    cases h' with
    | stored hput' => cases hput'
    | putRefused hput' => cases hput'
    | removed hhex' =>
      rw [hhex] at hhex'
      cases hhex'
    | cleanupRefused => exact ⟨rfl, rfl⟩

end Storage
end Integrations
end MoneyMachine
