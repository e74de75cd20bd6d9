import MoneyMachine.Integrations.AssetStorePlacement
import MoneyMachine.Integrations.AssetStoreAlone

/-!
# AssetStoreRuns — any number of calls on one root

Every call of the store is shown among the others, and from that what holds of any interleaving of their
system calls, starting from an empty root:

* `Whole`    : an object holds bytes whose digest is its name;
* `stored_assets_whole` : the promises of the store.
-/

namespace MoneyMachine
namespace Integrations
namespace Storage

open MoneyMachine.Domain
open MoneyMachine.Library
open MoneyMachine.Library.Disk
open Scripts

/-! ## Puts -/

/-- What a call that puts an object is about. -/
structure Put where
  role : StorageRole
  scheme : Scheme
  product : Uuid
  spec : SpecVersion
  digest : Text
  data : Bytes
  deriving DecidableEq, Repr

def StoreCall.put? : StoreCall → Option Put
  | .publish product spec digest data => some ⟨.published, .fixture, product, spec, digest, data⟩
  | .putTemporary product spec digest data => some ⟨.temporary, .temp, product, spec, digest, data⟩
  | _ => none

namespace Put

def uri (p : Put) : Text :=
  p.scheme.text ++ versionedKey p.product p.spec p.digest

def parent (p : Put) : Path :=
  [p.role.text, uuidChars p.product, p.spec.str]

def object (p : Put) : StoredObject :=
  ⟨p.uri, p.digest, p.data.length, p.role⟩

/-- The scheme is that of the role. -/
def Matched (p : Put) : Prop :=
  splitUri p.uri = .ok (p.role, versionedKey p.product p.spec p.digest)

end Put

theorem splitUri_fixture (rest : Text) :
    splitUri (Scheme.fixture.text ++ rest) = .ok (.published, rest) := by
  have hstart : Scheme.fixture.text.isPrefixOf (Scheme.fixture.text ++ rest) = true :=
    List.isPrefixOf_iff_prefix.2 (List.prefix_append _ _)
  simp [splitUri, hstart]

theorem splitUri_temp (rest : Text) :
    splitUri (Scheme.temp.text ++ rest) = .ok (.temporary, rest) := by
  have hother : Scheme.fixture.text.isPrefixOf (Scheme.temp.text ++ rest) = false := rfl
  have hstart : Scheme.temp.text.isPrefixOf (Scheme.temp.text ++ rest) = true :=
    List.isPrefixOf_iff_prefix.2 (List.prefix_append _ _)
  simp [splitUri, hother, hstart]

theorem matched_of_put? {call : StoreCall} {p : Put} (h : call.put? = some p) : p.Matched := by
  cases call with
  | publish product spec digest data =>
    cases h
    exact splitUri_fixture _
  | putTemporary product spec digest data =>
    cases h
    exact splitUri_temp _
  | read uri => cases h
  | discard uri => cases h
  | cleanupTemporary product spec keep => cases h

theorem directory_of_put? {call : StoreCall} {p : Put} (h : call.put? = some p) :
    call.directory p.parent := by
  cases call with
  | publish product spec digest data =>
    cases h
    rfl
  | putTemporary product spec digest data =>
    cases h
    rfl
  | read uri => cases h
  | discard uri => cases h
  | cleanupTemporary product spec keep => cases h

/-- The URI of an object is read as its key. -/
theorem key_uri {p : Put} (hp : p.Matched) (hspec : refuseSpec p.spec = .ok ())
    (hhex : isHex64 p.digest = true) :
    key p.uri = .ok ⟨p.role, uuidChars p.product, p.spec.str, p.digest⟩ := by
  unfold key
  rw [hp]
  exact keyOf_versionedKey p.role p.product hspec hhex

/-- A put that passes its checks is about an object with the digest of its bytes. -/
theorem putKey_eq_ok {sha256 : Bytes → Text} {p : Put} (hp : p.Matched) {uri : Text} {parsed : Key}
    (h : LocalAssetStore.putKey sha256 p.role p.scheme p.product p.spec p.digest p.data =
      .ok (uri, parsed)) :
    uri = p.uri ∧ parsed = ⟨p.role, uuidChars p.product, p.spec.str, p.digest⟩ ∧
      isHex64 p.digest = true ∧ sha256 p.data = p.digest ∧ refuseSpec p.spec = .ok () := by
  unfold LocalAssetStore.putKey at h
  rcases bind_eq_ok.1 h with ⟨_, hrequire, h⟩
  rcases bind_eq_ok.1 h with ⟨uri', huri, h⟩
  rcases bind_eq_ok.1 h with ⟨parsed', hkey, h⟩
  rcases requireDigest_eq_ok_iff.1 hrequire with ⟨hhex, hsha⟩
  have hspec : refuseSpec p.spec = .ok () := by
    unfold objectUri at huri
    cases hrefuse : refuseSpec p.spec with
    | error e => simp [hrefuse] at huri
    | ok _ => rfl
  have hbuilt : uri' = p.uri := by
    simp only [objectUri, hspec, Except.ok.injEq] at huri
    exact huri.symm
  have hparsed : parsed' = ⟨p.role, uuidChars p.product, p.spec.str, p.digest⟩ := by
    rw [hbuilt, key_uri hp hspec hhex] at hkey
    cases hkey
    rfl
  split_ifs at h with hrole
  · cases h
    exact ⟨hbuilt, hparsed, hhex, hsha, hspec⟩

/-- A put that passes its checks. -/
theorem putKey_of_valid {sha256 : Bytes → Text} {p : Put} (hp : p.Matched)
    (hhex : isHex64 p.digest = true) (hsha : sha256 p.data = p.digest)
    (hspec : refuseSpec p.spec = .ok ()) :
    LocalAssetStore.putKey sha256 p.role p.scheme p.product p.spec p.digest p.data =
      .ok (p.uri, ⟨p.role, uuidChars p.product, p.spec.str, p.digest⟩) := by
  have hrequire := requireDigest_eq_ok_iff.2 ⟨hhex, hsha⟩
  have huri : objectUri p.scheme p.product p.spec p.digest = .ok p.uri := by
    simp only [objectUri, hspec]
    rfl
  simp [LocalAssetStore.putKey, hrequire, huri, key_uri hp hspec hhex, bind, Except.bind]

/-! ## Each call among the others -/

section Calls

variable {ι : Type} {sha256 : Bytes → Text} {calls : ι → LocalCall} {i : ι}
  {kept : Path → Name → Prop}

/-- A put that returns has passed its checks and has its object in its place. -/
def Promise (sha256 : Bytes → Text) (kept : Path → Name → Prop) (call : StoreCall)
    (r : Except Raised StoreAnswer) (d : Disk ι) : Prop :=
  ∀ p, call.put? = some p → ∀ answer, r = .ok answer →
    answer = .stored p.object ∧ isHex64 p.digest = true ∧ sha256 p.data = p.digest ∧
      refuseSpec p.spec = .ok () ∧ (kept p.parent p.digest → Present p.parent p.digest p.data d)

theorem promise_error (call : StoreCall) (e : Raised) (d : Disk ι) :
    Promise sha256 kept call (.error e) d :=
  fun p _ answer h => by cases h

/-- Only a put promises anything. -/
theorem promise_of_put?_eq_none {call : StoreCall} (h : call.put? = none)
    (r : Except Raised StoreAnswer) (d : Disk ι) : Promise sha256 kept call r d := by
  intro p hp
  rw [h] at hp
  cases hp

theorem isHex64_tempName (u : Uuid) : isHex64 (tempName u) = false := by
  simp [isHex64, tempName]

/-- The directory that is opened is the one that was asked for. -/
theorem among_openDir (parts : List Name) {d : Disk ι} (hd : d.Wired) :
    Among sha256 calls i kept (fun r d => (∀ path, r = .ok path → path = parts) ∧ d.Wired)
      (openDir parts) d := by
  have hmay : ∀ d op, Harmless op → May sha256 calls i d op := by
    intro d op hop
    cases op <;> first | exact hop.elim | exact trivial
  have hwired : Steady i kept (fun d : Disk ι => d.Wired) := steady_wired
  exact Script.holds_of_only (openDir_returns parts) hmay hwired.relies
    (fun d c op hop => hwired.harmless d op _ hop (change_perform fail i d c op)) hd

theorem among_put {p : Put} (hput : (calls i).call.put? = some p) (patience : Nat) (uuid4 : Uuid)
    {d : Disk ι} (hd : d.Wired) :
    Among sha256 calls i kept (Promise sha256 kept (calls i).call)
      (LocalAssetStore.put sha256 patience uuid4 p.role p.scheme p.product p.spec p.digest p.data)
      d := by
  have hmatched := matched_of_put? hput
  unfold LocalAssetStore.put
  cases hkey : LocalAssetStore.putKey sha256 p.role p.scheme p.product p.spec p.digest p.data with
  | error e => exact fun d' _ => promise_error _ e d'
  | ok checked =>
    rcases checked with ⟨uri, parsed⟩
    rcases putKey_eq_ok hmatched hkey with ⟨rfl, rfl, hhex, hsha, hspec⟩
    -- The checks passed; the directories are made and the last of them opened.
    rw [Script.ofExcept_ok_bind]
    apply Script.holds_bind (fun _ d => d.Wired)
      (among_of_looks steady_wired (looks_ensureDirs _) hd)
    · intro _ d hmid
      apply Script.holds_bind _ (among_openDir _ (hmid d (relies_refl i kept d)))
      · intro parent d hmid
        rcases hmid d (relies_refl i kept d) with ⟨hparent, hd⟩
        have hparent : parent = p.parent := hparent parent rfl
        subst hparent
        have hplace : Among sha256 calls i kept
            (Returned kept p.parent p.digest p.data p.object)
            (placeIn patience p.parent (tempName uuid4) p.digest p.data p.object) d :=
          among_placeIn (isHex64_tempName uuid4) hhex hsha (directory_of_put? hput) patience hd
        apply Script.holds_bind _ (among_lastly (fun r => steady_returned r)
          (fun r e d _ => returned_error e d) hplace (looks_close _))
        · intro object d hmid d' hd' p' hp' answer hanswer
          rw [hput] at hp'
          cases hp'
          cases hanswer
          rcases hmid d' hd' object rfl with ⟨hobject, hpresent⟩
          exact ⟨by rw [hobject], hhex, hsha, hspec, hpresent⟩
        · exact fun e d _ => promise_error _ e d
      · exact fun e d _ => promise_error _ e d
    · exact fun e d _ => promise_error _ e d

/-- An object is unlinked in the directory of the call, when the call is asked to delete it. -/
theorem among_unlinkObject {parent : Path} {name : Name}
    (hdirectory : (calls i).call.directory parent)
    (hdeletes : isHex64 name = true → (calls i).call.deletes parent name) {d : Disk ι}
    (hd : d.Wired) :
    Among sha256 calls i kept (fun _ d => d.Wired) (unlinkObject parent name) d := by
  unfold unlinkObject
  by_cases hhex : isHex64 name = true
  · rw [if_neg (by simp [hhex])]
    apply Script.holds_bind (fun _ d => d.Wired)
      (among_of_looks steady_wired (looks_lstat parent name) hd)
    · intro regular d hmid
      have hd := hmid d (relies_refl i kept d)
      split_ifs
      · apply Script.holds_request Wired (fun d' hd' => hd'.wired hd)
        · intro d _
          refine ⟨hdirectory, hdeletes, ?_⟩
          intro hname
          rw [hhex] at hname
          cases hname
        · intro d c hd d' hd'
          exact hd'.wired ((change_perform fail i d c (.unlink parent name)).wired hd)
      · exact fun d' hd' => hd'.wired hd
    · exact fun e d h => h
  · rw [if_pos (by simp [hhex])]
    exact fun d' hd' => hd'.wired hd

/-- A key that is not refused as a published one is a temporary one. -/
theorem role_of_refusePublished {uri : Text} {parsed : Key} (h : refusePublished uri = .ok ())
    (hkey : key uri = .ok parsed) : parsed.role = .temporary := by
  have hfixture : ¬ Scheme.fixture.text.isPrefixOf uri = true := by
    intro hstart
    simp [refusePublished, hstart] at h
  unfold key splitUri at hkey
  rw [if_neg hfixture] at hkey
  by_cases htemp : Scheme.temp.text.isPrefixOf uri = true
  · rw [if_pos htemp] at hkey
    exact keyOf_role hkey
  · rw [if_neg htemp] at hkey
    cases hkey

theorem among_discard {uri : Text} (hcall : (calls i).call = .discard uri) {d : Disk ι}
    (hd : d.Wired) :
    Among sha256 calls i kept (fun _ d => d.Wired) (LocalAssetStore.discard uri) d := by
  unfold LocalAssetStore.discard
  cases hpublished : refusePublished uri with
  | error e => exact fun d' hd' => hd'.wired hd
  | ok _ =>
    cases hkey : key uri with
    | error e => exact fun d' hd' => hd'.wired hd
    | ok parsed =>
      have htemporary := role_of_refusePublished hpublished hkey
      rw [Script.ofExcept_ok_bind, Script.ofExcept_ok_bind]
      apply Script.holds_bind _ (among_openDir _ hd)
      · intro parent d hmid
        rcases hmid d (relies_refl i kept d) with ⟨hparent, hd⟩
        have hparent : parent = parsed.directory := hparent parent rfl
        subst hparent
        have hdirectory : (calls i).call.directory parsed.directory := by
          rw [hcall]
          exact ⟨parsed, hkey, rfl⟩
        have hdeletes : (calls i).call.deletes parsed.directory parsed.digest := by
          rw [hcall]
          exact ⟨parsed, hkey, htemporary, rfl, rfl⟩
        apply Script.holds_bind (fun _ d => d.Wired)
          (among_lastly (fun _ => steady_wired) (fun _ _ _ h => h)
            (among_unlinkObject hdirectory (fun _ => hdeletes) hd) (looks_close _))
        · exact fun _ d hmid => hmid
        · exact fun e d h => h
      · exact fun e d h => h.2

theorem among_removeNames {product : Uuid} {spec : SpecVersion} {keep : Text}
    (hcall : (calls i).call = .cleanupTemporary product spec keep) (names : List Name)
    (removed : List Text) {d : Disk ι} (hd : d.Wired) :
    Among sha256 calls i kept (fun _ d => d.Wired)
      (LocalAssetStore.removeNames [StorageRole.temporary.text, uuidChars product, spec.str] keep
        names removed) d := by
  induction names generalizing removed d with
  | nil => exact fun d' hd' => hd'.wired hd
  | cons name rest ih =>
    unfold LocalAssetStore.removeNames
    split_ifs with hskip
    · exact ih removed hd
    · have hne : name ≠ keep := by
        rintro rfl
        simp at hskip
      apply Script.holds_bind (fun _ d => d.Wired)
      · apply among_unlinkObject _ _ hd
        · rw [hcall]
          rfl
        · intro _
          rw [hcall]
          exact ⟨rfl, hne⟩
      · exact fun _ d hmid => ih _ (hmid d (relies_refl i kept d))
      · exact fun e d h => h

theorem among_cleanupTemporary {product : Uuid} {spec : SpecVersion} {keep : Text}
    (hcall : (calls i).call = .cleanupTemporary product spec keep) {d : Disk ι} (hd : d.Wired) :
    Among sha256 calls i kept (fun _ d => d.Wired)
      (LocalAssetStore.cleanupTemporary product spec keep) d := by
  have hopen : Among sha256 calls i kept
      (fun r d => (∀ path, r = .ok (some path) →
        path = [StorageRole.temporary.text, uuidChars product, spec.str]) ∧ d.Wired)
      (LocalAssetStore.openTemporary product spec) d := by
    apply Script.holds_handle (fun r d => (∀ path, r = .ok (some path) →
      path = [StorageRole.temporary.text, uuidChars product, spec.str]) ∧ d.Wired)
    · apply Script.holds_andThen _ (among_openDir _ hd)
      · intro path d hmid d' hd'
        refine ⟨?_, (hmid d' hd').2⟩
        intro path' hpath
        cases hpath
        exact (hmid d' hd').1 path rfl
      · exact fun e d hmid => ⟨fun path h => (by cases h), hmid.2⟩
    · exact fun _ d h => h
    · intro e d hmid
      have hd := (hmid d (relies_refl i kept d)).2
      split_ifs
      · exact fun d' hd' => ⟨fun path h => (by cases h), hd'.wired hd⟩
      · exact fun d' hd' => ⟨fun path h => (by cases h), hd'.wired hd⟩
  unfold LocalAssetStore.cleanupTemporary
  split_ifs
  · exact fun d' hd' => hd'.wired hd
  · apply Script.holds_bind _ hopen
    · intro opened d hmid
      rcases hmid d (relies_refl i kept d) with ⟨hpath, hd⟩
      cases opened with
      | none => exact fun d' hd' => hd'.wired hd
      | some parent =>
        have hparent := hpath parent rfl
        subst hparent
        apply Script.holds_bind (fun _ d => d.Wired)
        · apply among_lastly (fun _ => steady_wired) (fun _ _ _ h => h) _ (looks_close _)
          apply Script.holds_bind (fun _ d => d.Wired)
            (among_of_looks steady_wired (looks_names _) hd)
          · exact fun listed d hmid =>
              among_removeNames hcall listed [] (hmid d (relies_refl i kept d))
          · exact fun e d h => h
        · exact fun _ d hmid => hmid
        · exact fun e d h => h
    · exact fun e d h => h.2

/-- Every call does only what it may do, and a put that returns keeps its promise. -/
theorem among_call {d : Disk ι} (hd : d.Wired) :
    Among sha256 calls i kept (Promise sha256 kept (calls i).call) ((calls i).script sha256) d := by
  unfold LocalCall.script
  have hputs : ∀ p, (calls i).call.put? = some p →
      Among sha256 calls i kept (Promise sha256 kept (calls i).call)
        (LocalAssetStore.put sha256 (calls i).patience (calls i).uuid4 p.role p.scheme p.product
          p.spec p.digest p.data) d :=
    fun p hput => among_put hput (calls i).patience (calls i).uuid4 hd
  have hother : ∀ (call : StoreCall) (x : DiskScript StoreAnswer), call.put? = none →
      Among sha256 calls i kept (fun _ d => d.Wired) x d →
        Among sha256 calls i kept (Promise sha256 kept call) x d :=
    fun call x hput hx => hx.mono (fun r d _ => promise_of_put?_eq_none hput r d)
  cases hcall : (calls i).call with
  | publish product spec digest data =>
    rw [hcall] at hputs
    exact hputs ⟨.published, .fixture, product, spec, digest, data⟩ rfl
  | putTemporary product spec digest data =>
    rw [hcall] at hputs
    exact hputs ⟨.temporary, .temp, product, spec, digest, data⟩ rfl
  | read uri =>
    exact hother _ _ rfl
      (among_of_looks steady_wired (looks_read sha256 (calls i).patience uri) hd)
  | discard uri => exact hother _ _ rfl (among_discard hcall hd)
  | cleanupTemporary product spec keep => exact hother _ _ rfl (among_cleanupTemporary hcall hd)

end Calls

/-! ## Runs -/

/-- An object holds bytes whose digest is its name. -/
def Whole {ι : Type} (sha256 : Bytes → Text) (d : Disk ι) : Prop :=
  ∀ parent name inode, d.node? (parent ++ [name]) = some (.file inode) → isHex64 name = true →
    ∃ file, d.inodes[inode]? = some file ∧ sha256 file.bytes = name

/-- Nothing that a call may do leaves an object that is not whole. -/
theorem whole_change {ι : Type} {sha256 : Bytes → Text} {calls : ι → LocalCall} {i : ι}
    {d d' : Disk ι} {op : DiskOp} (hwhole : Whole sha256 d) (hmay : May sha256 calls i d op)
    (h : Change i d op d') : Whole sha256 d' := by
  cases h with
  | none => exact hwhole
  | mkdir parent name hdir hfree =>
    intro parent' name' inode hnode hhex
    rw [node?_add _ hfree] at hnode
    split_ifs at hnode
    · cases hnode
    · simpa using hwhole parent' name' inode hnode hhex
  | create parent name hdir hfree =>
    intro parent' name' inode hnode hhex
    have hnode' : (d.add (parent ++ [name]) (.file d.inodes.length)).node? (parent' ++ [name']) =
        some (.file inode) := hnode
    rw [node?_add _ hfree] at hnode'
    split_ifs at hnode' with hpath
    · -- A new file is not an object yet.
      have hname : isHex64 name = false := hmay
      rw [← (path_inj hpath).2, hname] at hhex
      cases hhex
    · rcases hwhole parent' name' inode hnode' hhex with ⟨file, hfile, hsha⟩
      exact ⟨file, getElem?_of_create _ hfile, hsha⟩
  | write inode' view chunk =>
    intro parent' name' inode hnode hhex
    rcases hwhole parent' name' inode hnode hhex with ⟨file, hfile, hsha⟩
    have hne : inode' ≠ inode := by
      rintro rfl
      have := hmay.2 parent' name' hnode
      rw [hhex] at this
      cases this
    exact ⟨file, by simp [append, hne, hfile], hsha⟩
  | link parent source target inode' hdir hsource hfree =>
    intro parent' name' inode hnode hhex
    rw [node?_add _ hfree] at hnode
    split_ifs at hnode with hpath
    · cases hnode
      rcases hmay inode' hsource with ⟨file, hfile, -, hsha⟩
      exact ⟨file, by simpa using hfile, by rw [hsha, (path_inj hpath).2]⟩
    · simpa using hwhole parent' name' inode hnode hhex
  | unlink parent name inode' hnode' =>
    intro parent' name' inode hnode hhex
    rw [node?_remove] at hnode
    split_ifs at hnode
    exact hwhole parent' name' inode hnode hhex

/-- A store on its disk, with what is left of every call. -/
abbrev Store (ι : Type) : Type :=
  World DiskOp DiskOp.Ans Raised StoreAnswer ι (Disk ι)

section Runs

variable {ι : Type} [DecidableEq ι] (sha256 : Bytes → Text) (calls : ι → LocalCall)
  (turns : List (ι × Choice))

/-- An empty root, and no call has begun. -/
def Store.start : Store ι where
  shared := Disk.empty
  scripts := fun i => (calls i).script sha256

def Store.turn : Store ι → ι × Choice → Store ι :=
  World.turn (Disk.perform fail)

/-- The store after `n` turns. -/
def Store.after (n : Nat) : Store ι :=
  runFrom Store.turn (Store.start sha256 calls) (turns.take n)

variable {sha256 calls turns}

omit [DecidableEq ι] in
theorem respects : World.Respects (ι := ι) (Disk.perform fail) (fun i => Relies i (fun _ _ => False))
    (May sha256 calls) where
  refl := fun i d => relies_refl i _ d
  trans := fun i d d' d'' => relies_trans i _ d d' d''
  others := fun {i _ d op} hij hmay c =>
    relies_of_may hij (fun _ _ h => h.elim) (fun _ _ h => h.elim) hmay
      (change_perform fail i d c op)

/-- Along every run, each operation is one that its call may ask for. -/
theorem along_may (turns : List (ι × Choice)) :
    Along Store.turn (World.MayTurn (May sha256 calls)) (Store.start sha256 calls) turns := by
  have hkeeps : ∀ i, World.Keeps (Disk.perform fail) (fun i => Relies i (fun _ _ => False))
      (May sha256 calls) (fun i => Promise sha256 (fun _ _ => False) (calls i).call)
      (Store.start sha256 calls) i :=
    fun i => among_call wired_empty
  exact World.along_mayTurn respects hkeeps turns

/-- What a turn did to the disk. -/
theorem turn_change {w : Store ι} {t : ι × Choice} (h : World.MayTurn (May sha256 calls) w t) :
    ∃ op, May sha256 calls t.1 w.shared op ∧ Change t.1 w.shared op (Store.turn w t).shared := by
  have hturn : (Store.turn w t).shared = w.shared ∨ ∃ op, w.asks t.1 = some op ∧
      (Store.turn w t).shared = (w.shared.perform fail t.1 t.2 op).2 :=
    World.turn_shared w t
  rcases hturn with hsame | ⟨op, hop, hshared⟩
  · exact ⟨.openRoot, trivial, by rw [hsame]; exact .none _⟩
  · refine ⟨op, h op hop, ?_⟩
    rw [hshared]
    exact change_perform fail t.1 w.shared t.2 op

theorem sound_run {w : Store ι} (hd : w.shared.Wired) (hwhole : Whole sha256 w.shared)
    {turns : List (ι × Choice)} (hmay : Along Store.turn (World.MayTurn (May sha256 calls)) w turns) :
    (runFrom Store.turn w turns).shared.Wired ∧ Whole sha256 (runFrom Store.turn w turns).shared := by
  apply runFrom_invariant_along (I := fun w : Store ι => w.shared.Wired ∧ Whole sha256 w.shared) _
    ⟨hd, hwhole⟩ hmay
  rintro w t ⟨hd, hwhole⟩ ht
  rcases turn_change ht with ⟨op, hop, hchange⟩
  exact ⟨hchange.wired hd, whole_change hwhole hop hchange⟩

/-- An object stays in its place as long as no call that is asked to delete it takes a turn. -/
theorem present_run {w : Store ι} {parent : Path} {name : Name} {data : Bytes}
    (hhex : isHex64 name = true) (hpresent : Present parent name data w.shared)
    {turns : List (ι × Choice)} (hmay : Along Store.turn (World.MayTurn (May sha256 calls)) w turns)
    (hdeletes : ∀ t ∈ turns, ¬ (calls t.1).call.deletes parent name) :
    Present parent name data (runFrom Store.turn w turns).shared := by
  apply runFrom_invariant_along (I := fun w : Store ι => Present parent name data w.shared) _
    hpresent (along_and hmay (along_of_forall hdeletes))
  rintro w t ⟨inode, file, hnode, hfile, hbytes⟩ ⟨ht, hnot⟩
  rcases turn_change ht with ⟨op, hop, hchange⟩
  rcases object_kept hop hchange hhex hnot hnode hfile with ⟨hnode', hfile'⟩
  exact ⟨inode, file, hnode', hfile', hbytes⟩

/-- No call deletes a published object. -/
theorem not_deletes_published (call : StoreCall) (product spec name : Text) :
    ¬ call.deletes [StorageRole.published.text, product, spec] name := by
  have hne : StorageRole.published.text ≠ StorageRole.temporary.text := by decide
  cases call with
  | publish product spec digest data => exact fun h => h
  | putTemporary product spec digest data => exact fun h => h
  | read uri => exact fun h => h
  | discard uri =>
    rintro ⟨parsed, -, hrole, hparent, -⟩
    simp only [Key.directory, hrole, List.cons.injEq] at hparent
    exact hne hparent.1
  | cleanupTemporary product spec keep =>
    rintro ⟨hparent, -⟩
    simp only [List.cons.injEq] at hparent
    exact hne hparent.1

/-- The run from one state of a run to a later one. -/
theorem after_eq {n m : Nat} (h : n ≤ m) :
    Store.after sha256 calls turns m =
      runFrom Store.turn (Store.after sha256 calls turns n) ((turns.take m).drop n) := by
  have htake : (turns.take m).take n = turns.take n := by
    rw [List.take_take, Nat.min_eq_left h]
  calc
    Store.after sha256 calls turns m =
        runFrom Store.turn (Store.start sha256 calls)
          ((turns.take m).take n ++ (turns.take m).drop n) := by
      rw [List.take_append_drop]
      rfl
    _ = runFrom Store.turn (Store.after sha256 calls turns n) ((turns.take m).drop n) := by
      rw [htake]
      exact List.foldl_append

theorem along_after {n m : Nat} (h : n ≤ m) :
    Along Store.turn (World.MayTurn (May sha256 calls)) (Store.after sha256 calls turns n)
      ((turns.take m).drop n) := by
  have hall : Along Store.turn (World.MayTurn (May sha256 calls)) (Store.start sha256 calls)
      ((turns.take m).take n ++ (turns.take m).drop n) :=
    along_may _
  rw [along_append, List.take_take, Nat.min_eq_left h] at hall
  exact hall.2

theorem sound_after (n : Nat) :
    (Store.after sha256 calls turns n).shared.Wired ∧
      Whole sha256 (Store.after sha256 calls turns n).shared :=
  sound_run wired_empty (fun parent name inode hnode _ => by cases hnode) (along_may _)

/-- A put that returned has left its object in its place. -/
theorem put_after {n m : Nat} (h : n ≤ m) {i : ι} {p : Put} (hput : (calls i).call.put? = some p)
    (hfresh : ∀ t ∈ turns.take n, t.1 ≠ i)
    (hdeletes : ∀ t ∈ (turns.take m).drop n, ¬ (calls t.1).call.deletes p.parent p.digest)
    {answer : StoreAnswer}
    (hresult : ((Store.after sha256 calls turns m).scripts i).result? = some (.ok answer)) :
    answer = .stored p.object ∧ isHex64 p.digest = true ∧ sha256 p.data = p.digest ∧
      refuseSpec p.spec = .ok () ∧
        Present p.parent p.digest p.data (Store.after sha256 calls turns m).shared := by
  -- Among the calls that take turns, this object is one that stays.
  have hkeeps : World.Keeps (Disk.perform fail)
      (fun j => Relies j (fun parent name => parent = p.parent ∧ name = p.digest ∧
        isHex64 name = true)) (May sha256 calls)
      (fun j => Promise sha256 (fun parent name => parent = p.parent ∧ name = p.digest ∧
        isHex64 name = true) (calls j).call) (Store.after sha256 calls turns n) i := by
    have hscript : (Store.after sha256 calls turns n).scripts i = (calls i).script sha256 :=
      World.scripts_of_no_turn hfresh
    unfold World.Keeps
    rw [hscript]
    exact among_call (sound_after n).1
  have hrely : Along Store.turn
      (fun w t => i ≠ t.1 → Relies i (fun parent name => parent = p.parent ∧ name = p.digest ∧
        isHex64 name = true) w.shared (Store.turn w t).shared)
      (Store.after sha256 calls turns n) ((turns.take m).drop n) := by
    apply along_of_invariant (I := fun _ => True) (fun _ _ _ _ => trivial) _ trivial
      (along_and (along_after h) (along_of_forall hdeletes))
    rintro w t - ⟨ht, hnot⟩ hi
    rcases turn_change ht with ⟨op, hop, hchange⟩
    apply relies_of_may hi (fun _ _ hkept => hkept.2.2) _ hop hchange
    rintro parent name ⟨rfl, rfl, -⟩
    exact hnot
  have hend := World.keeps_run (fun j d => relies_refl j _ d)
    (fun j d d' d'' => relies_trans j _ d d' d'') hrely hkeeps
  rw [after_eq h] at hresult ⊢
  have hpromise := Script.post_of_result? hend (relies_refl i _ _) hresult p hput answer rfl
  rcases hpromise with ⟨hanswer, hhex, hsha, hspec, hpresent⟩
  exact ⟨hanswer, hhex, hsha, hspec, hpresent ⟨rfl, rfl, hhex⟩⟩

theorem isDots_role (role : StorageRole) : isDots role.text = false := by
  cases role <;> decide

omit [DecidableEq ι] in
theorem readable_of_present {d : Disk ι} (hd : d.Wired) {p : Put} (hp : p.Matched)
    (hhex : isHex64 p.digest = true) (hsha : sha256 p.data = p.digest)
    (hspec : refuseSpec p.spec = .ok ()) (h : Present p.parent p.digest p.data d) (i : ι) :
    Readable sha256 i p.uri p.data d := by
  rcases h with ⟨inode, file, hnode, hfile, hbytes⟩
  have hwalk : Walkable d [] p.parent :=
    walkable_of_wired hd hnode (isDots_role p.role)
      (isDots_of_isUuid (isUuid_uuidChars p.product)) (isDots_of_isSpec (isSpec_str hspec))
  rw [← hbytes]
  exact readable_of_node (key_uri hp hspec hhex) hwalk hnode hfile (by rw [hbytes, hsha])

/-- Only `unlink` removes an entry, and a call unlinks in its own directory. -/
theorem turn_removes {w : Store ι} {t : ι × Choice} (h : World.MayTurn (May sha256 calls) w t)
    {parent : Path} {name : Name} (hbefore : w.shared.node? (parent ++ [name]) ≠ none)
    (hafter : (Store.turn w t).shared.node? (parent ++ [name]) = none) :
    (calls t.1).call.directory parent := by
  rcases turn_change h with ⟨op, hop, hchange⟩
  generalize (Store.turn w t).shared = d' at hchange hafter
  have hadd : ∀ path node, w.shared.node? path = none →
      (w.shared.add path node).node? (parent ++ [name]) ≠ none := by
    intro path node hfree hnone
    rw [node?_add _ hfree] at hnone
    split_ifs at hnone
    exact hbefore hnone
  cases hchange with
  | none => exact absurd hafter hbefore
  | mkdir parent' name' hdir hfree => exact absurd hafter (hadd _ _ hfree)
  | create parent' name' hdir hfree => exact absurd hafter (hadd _ _ hfree)
  | write inode view chunk => exact absurd hafter hbefore
  | link parent' source target inode hdir hsource hfree =>
    exact absurd hafter (hadd _ _ hfree)
  | unlink parent' name' inode hnode =>
    rw [node?_remove] at hafter
    split_ifs at hafter with hpath
    · rw [← (path_inj hpath).1]
      exact hop.1
    · exact absurd hafter hbefore

/-- In every interleaving of the system calls of any number of calls on an empty root: every object
holds bytes of its digest; a published object stays as it is; a put that returned left its object
readable, as long as no call that is asked to delete this object takes a turn from the first turn of the
put on; and a call removes entries of its own directory only. -/
theorem stored_assets_whole (sha256 : Bytes → Text) (calls : ι → LocalCall)
    (turns : List (ι × Choice)) :
    (∀ n, Whole sha256 (Store.after sha256 calls turns n).shared) ∧
    (∀ n m product spec digest data, n ≤ m → isHex64 digest = true →
      Present [StorageRole.published.text, product, spec] digest data
        (Store.after sha256 calls turns n).shared →
      Present [StorageRole.published.text, product, spec] digest data
        (Store.after sha256 calls turns m).shared) ∧
    (∀ n m i p answer, n ≤ m → (calls i).call.put? = some p → (∀ t ∈ turns.take n, t.1 ≠ i) →
      (∀ t ∈ (turns.take m).drop n, ¬ (calls t.1).call.deletes p.parent p.digest) →
      ((Store.after sha256 calls turns m).scripts i).result? = some (.ok answer) →
      answer = .stored p.object ∧
        Readable sha256 i p.uri p.data (Store.after sha256 calls turns m).shared) ∧
    (∀ n t parent name, turns[n]? = some t →
      (Store.after sha256 calls turns n).shared.node? (parent ++ [name]) ≠ none →
      (Store.after sha256 calls turns (n + 1)).shared.node? (parent ++ [name]) = none →
      (calls t.1).call.directory parent) := by
  refine ⟨fun n => (sound_after n).2, ?_, ?_, ?_⟩
  · intro n m product spec digest data h hhex hpresent
    rw [after_eq h]
    exact present_run hhex hpresent (along_after h) (fun t _ => not_deletes_published _ _ _ _)
  · intro n m i p answer h hput hfresh hdeletes hresult
    rcases put_after h hput hfresh hdeletes hresult with ⟨hanswer, hhex, hsha, hspec, hpresent⟩
    exact ⟨hanswer, readable_of_present (sound_after m).1 (matched_of_put? hput) hhex hsha hspec
      hpresent i⟩
  · intro n t parent name ht hbefore hafter
    have hsegment : (turns.take (n + 1)).drop n = [t] := by
      rcases List.getElem?_eq_some_iff.1 ht with ⟨hlt, hget⟩
      rw [List.take_add_one, ht, Option.toList_some,
        List.drop_append_of_le_length (by rw [List.length_take]; omega),
        List.drop_eq_nil_of_le (by rw [List.length_take]; omega), List.nil_append]
    have hmay : Along Store.turn (World.MayTurn (May sha256 calls))
        (Store.after sha256 calls turns n) [t] := by
      rw [← hsegment]
      exact along_after (Nat.le_succ n)
    rw [after_eq (Nat.le_succ n), hsegment] at hafter
    exact turn_removes hmay.1 hbefore hafter

end Runs

/-! ### An overlapping discard -/

/-- The digest of no bytes. -/
def emptyDigest : Text :=
  "e3b0c44298fc1c149afbf4c8996fb92427ae41e4649b934ca495991b7852b855".toList

def emptyPut : Put :=
  ⟨.temporary, .temp, 7, .int 1, emptyDigest, []⟩

/-- A put, a discard of its object, and the same put again. -/
def overlappingCalls : Fin 3 → LocalCall
  | 0 => ⟨.putTemporary 7 (.int 1) emptyDigest [], 1, 1⟩
  | 1 => ⟨.discard emptyPut.uri, 1, 2⟩
  | 2 => ⟨.putTemporary 7 (.int 1) emptyDigest [], 1, 3⟩

/-- The first put, the discard up to its `unlink`, the second put, the `unlink`. -/
def overlappingTurns : List (Fin 3 × Choice) :=
  (List.replicate 30 (0 : Fin 3) ++ List.replicate 8 1 ++ List.replicate 30 2 ++ [1]).map
    (fun i => (i, quiet))

theorem second_put_returned :
    ((Store.after (fun _ => emptyDigest) overlappingCalls overlappingTurns 68).scripts 2).result? =
      some (.ok (.stored emptyPut.object)) := by
  decide +kernel

theorem second_put_unreadable :
    (alone (2 : Fin 3) (LocalAssetStore.read (fun _ => emptyDigest) 1 emptyPut.uri)
      (Store.after (fun _ => emptyDigest) overlappingCalls overlappingTurns 69).shared).1 ≠
        .ok (.bytes []) := by
  decide +kernel

/-- No call begins after the second put returned, and yet its object does not stay readable: the discard
had looked at the object before. -/
theorem returned_object_removed :
    ¬ ∀ n m i p answer, n ≤ m → (overlappingCalls i).call.put? = some p →
      ((Store.after (fun _ => emptyDigest) overlappingCalls overlappingTurns n).scripts i).result? =
        some (.ok answer) →
      (∀ t ∈ (overlappingTurns.take m).drop n, ∃ u ∈ overlappingTurns.take n, u.1 = t.1) →
      Readable (fun _ => emptyDigest) i p.uri p.data
        (Store.after (fun _ => emptyDigest) overlappingCalls overlappingTurns m).shared := by
  intro h
  have hreadable := h 68 69 2 emptyPut _ (by decide) rfl second_put_returned (by decide) 1
    (by decide)
  exact second_put_unreadable (by rw [hreadable]; rfl)

end Storage
end Integrations
end MoneyMachine
