import MoneyMachine.Integrations.AssetStorage
import MoneyMachine.Library.Interference

/-!
# LocalAssetStore — the store as file-system calls

Each call of `LocalAssetStore` is a script of system calls.  A call that puts an object writes a
temporary file and links it under the digest; the temporary is unlinked whichever way the call ends.

A file is read in blocks until an empty one comes.  A script is finite, so a call has a `patience`: one
that is still reading after so many blocks is interrupted.
-/

namespace MoneyMachine
namespace Integrations
namespace Storage

open MoneyMachine.Domain
open MoneyMachine.Library
open MoneyMachine.Library.Disk

/-! ## Keys -/

def isDots (part : Text) : Bool :=
  decide (part = [] ∨ part = ['.'] ∨ part = ['.', '.'])

/-- `[0-9a-f]{8}-[0-9a-f]{4}-[0-9a-f]{4}-[0-9a-f]{4}-[0-9a-f]{12}`. -/
def isUuid (text : Text) : Bool :=
  decide ((text.splitOn '-').map List.length = [8, 4, 4, 4, 12]) &&
    (text.splitOn '-').all (fun group => group.all isHexDigit)

/-- `[1-9][0-9]*`. -/
def isSpec : Text → Bool
  | [] => false
  | c :: rest => c.isDigit && decide (c ≠ '0') && rest.all Char.isDigit

structure Key where
  role : StorageRole
  product : Text
  spec : Text
  digest : Text
  deriving DecidableEq, Repr

def Key.directory (k : Key) : Path :=
  [k.role.text, k.product, k.spec]

def Key.path (k : Key) : Path :=
  k.directory ++ [k.digest]

/-- `product/spec/digest`. -/
def Key.rest (k : Key) : Text :=
  k.product ++ '/' :: (k.spec ++ '/' :: k.digest)

/-- What `_key` checks of the parts. -/
structure Key.Valid (k : Key) : Prop where
  product : isUuid k.product = true
  spec : isSpec k.spec = true
  digest : isHex64 k.digest = true

/-- `_split`. -/
def splitUri (uri : Text) : Except Raised (StorageRole × Text) :=
  if Scheme.fixture.text.isPrefixOf uri then
    .ok (.published, uri.drop Scheme.fixture.text.length)
  else if Scheme.temp.text.isPrefixOf uri then
    .ok (.temporary, uri.drop Scheme.temp.text.length)
  else
    .error (.value "storage role")

/-- `_key`, after `_split`. -/
def keyOf (role : StorageRole) (rest : Text) : Except Raised Key :=
  if rest.head? = some '/' then
    .error (.value "storage path slash")
  else if rest.contains '\\' then
    .error (.value "storage path backslash")
  else
    match rest.splitOn '/' with
    | [product, spec, digest] =>
      if isDots product || isDots spec || isDots digest then
        .error (.value "storage path dots")
      else if !isUuid product then
        .error (.value "storage path")
      else if !isSpec spec then
        .error (.value "storage path")
      else if !isHex64 digest then
        .error (.value "storage path")
      else
        .ok ⟨role, product, spec, digest⟩
    | _ => .error (.value "storage path length")

/-- `_key`. -/
def key (uri : Text) : Except Raised Key :=
  match splitUri uri with
  | .error e => .error e
  | .ok (role, rest) => keyOf role rest

/-! ### The keys that are built are the keys that are read -/

theorem isHexDigit_hexDigit {n : Nat} (h : n < 16) : isHexDigit (hexDigit n) = true := by
  have hall : ∀ m < 16, isHexDigit (hexDigit m) = true := by decide
  exact hall n h

theorem all_hexDigits (width n : Nat) : (hexDigits width n).all isHexDigit = true := by
  induction width generalizing n with
  | zero => rfl
  | succ width ih =>
    simp [hexDigits, ih, isHexDigit_hexDigit (Nat.mod_lt n (by decide : 0 < 16))]

theorem not_mem_of_all {p : Char → Bool} {text : Text} {c : Char} (h : text.all p = true)
    (hc : p c = false) : c ∉ text := by
  intro hmem
  have hp := List.all_eq_true.1 h c hmem
  rw [hc] at hp
  cases hp

/-- The dashes of a UUID cut it into its groups. -/
theorem splitOn_uuidChars (u : Uuid) :
    (uuidChars u).splitOn '-' =
      [hexDigits 8 (u.toNat / 16 ^ 24), hexDigits 4 (u.toNat / 16 ^ 20),
        hexDigits 4 (u.toNat / 16 ^ 16), hexDigits 4 (u.toNat / 16 ^ 12), hexDigits 12 u.toNat] := by
  have hdash : ∀ width n, '-' ∉ hexDigits width n :=
    fun width n => not_mem_of_all (all_hexDigits width n) (by decide)
  simp only [uuidChars, List.append_assoc, List.cons_append]
  rw [List.splitOn_append_cons_self_of_not_mem (hdash _ _),
    List.splitOn_append_cons_self_of_not_mem (hdash _ _),
    List.splitOn_append_cons_self_of_not_mem (hdash _ _),
    List.splitOn_append_cons_self_of_not_mem (hdash _ _), List.splitOn_eq_singleton (hdash _ _)]

theorem isUuid_uuidChars (u : Uuid) : isUuid (uuidChars u) = true := by
  simp [isUuid, splitOn_uuidChars, all_hexDigits]

/-- The decimal text of a positive number begins with another digit than zero. -/
theorem isSpec_toDigits (n : Nat) (hn : 0 < n) : isSpec (Nat.toDigits 10 n) = true := by
  have hsmall : ∀ m < 10, (Nat.digitChar m).isDigit = true ∧ (0 < m → Nat.digitChar m ≠ '0') := by
    decide
  induction n using Nat.strong_induction_on with
  | _ n ih =>
    by_cases hlt : n < 10
    · rw [Nat.toDigits_of_lt_base hlt]
      simp [isSpec, (hsmall n hlt).1, (hsmall n hlt).2 hn]
    · have hmod : n % 10 < 10 := Nat.mod_lt n (by decide)
      have hdigits : Nat.toDigits 10 n = Nat.toDigits 10 (n / 10) ++ [Nat.digitChar (n % 10)] := by
        calc
          Nat.toDigits 10 n = Nat.toDigits 10 (10 * (n / 10) + n % 10) := by
            rw [Nat.div_add_mod]
          _ = Nat.toDigits 10 (n / 10) ++ Nat.toDigits 10 (n % 10) :=
            (Nat.toDigits_append_toDigits (by decide) (by omega) hmod).symm
          _ = Nat.toDigits 10 (n / 10) ++ [Nat.digitChar (n % 10)] := by
            rw [Nat.toDigits_of_lt_base hmod]
      have hhead := ih (n / 10) (by omega) (by omega)
      rw [hdigits]
      cases hparts : Nat.toDigits 10 (n / 10) with
      | nil => simp [hparts, isSpec] at hhead
      | cons c rest =>
        rw [hparts] at hhead
        simp only [isSpec, Bool.and_eq_true] at hhead
        simp [isSpec, hhead, (hsmall _ hmod).1]

theorem all_of_isSpec {text : Text} (h : isSpec text = true) : text.all Char.isDigit = true := by
  cases text with
  | nil => rfl
  | cons c rest =>
    simp only [isSpec, Bool.and_eq_true] at h
    simp [h]

theorem isSpec_str {spec : SpecVersion} (h : refuseSpec spec = .ok ()) :
    isSpec spec.str = true := by
  match spec, h with
  | .int (.ofNat n), h =>
    apply isSpec_toDigits
    by_contra hzero
    simp [refuseSpec, Nat.eq_zero_of_not_pos hzero] at h
  | .int (.negSucc n), h =>
    have hneg : Int.negSucc n < 1 := by omega
    simp [refuseSpec, hneg] at h

theorem isHex64_iff {text : Text} :
    isHex64 text = true ↔ text.length = 64 ∧ text.all isHexDigit = true := by
  simp [isHex64]

theorem isDots_of_isHex64 {text : Text} (h : isHex64 text = true) : isDots text = false := by
  have hlength := (isHex64_iff.1 h).1
  simp only [isDots, decide_eq_false_iff_not]
  rintro (rfl | rfl | rfl) <;> simp at hlength

theorem isDots_of_isSpec {text : Text} (h : isSpec text = true) : isDots text = false := by
  simp only [isDots, decide_eq_false_iff_not]
  rintro (rfl | rfl | rfl) <;> simp [isSpec] at h

theorem isDots_of_isUuid {text : Text} (h : isUuid text = true) : isDots text = false := by
  simp only [isDots, decide_eq_false_iff_not]
  rintro (rfl | rfl | rfl) <;> exact absurd h (by decide)

theorem mem_of_mem_intercalate {sep : Text} {groups : List Text} {c : Char}
    (h : c ∈ sep.intercalate groups) : c ∈ sep ∨ ∃ group ∈ groups, c ∈ group := by
  induction groups with
  | nil => simp at h
  | cons group rest ih =>
    cases rest with
    | nil => exact Or.inr ⟨group, List.mem_cons_self, by simpa using h⟩
    | cons next rest =>
      rw [List.intercalate_cons_cons, List.mem_append, List.mem_append] at h
      rcases h with (hmem | hsep) | hrest
      · exact Or.inr ⟨group, List.mem_cons_self, hmem⟩
      · exact Or.inl hsep
      · rcases ih hrest with hsep | ⟨group', hgroup, hmem⟩
        · exact Or.inl hsep
        · exact Or.inr ⟨group', List.mem_cons_of_mem group hgroup, hmem⟩

/-- A UUID has digits and dashes only. -/
theorem not_mem_of_isUuid {text : Text} (h : isUuid text = true) {c : Char}
    (hhex : isHexDigit c = false) (hdash : c ≠ '-') : c ∉ text := by
  intro hmem
  simp only [isUuid, Bool.and_eq_true] at h
  have htext : ['-'].intercalate (text.splitOn '-') = text := List.intercalate_splitOn '-'
  rw [← htext] at hmem
  rcases mem_of_mem_intercalate hmem with hsep | ⟨group, hgroup, hmem⟩
  · exact hdash (List.mem_singleton.1 hsep)
  · exact not_mem_of_all (List.all_eq_true.1 h.2 group hgroup) hhex hmem

/-- The parts of a key hold no slash. -/
theorem splitOn_rest {k : Key} (h : k.Valid) : k.rest.splitOn '/' = [k.product, k.spec, k.digest] := by
  unfold Key.rest
  rw [List.splitOn_append_cons_self_of_not_mem
      (not_mem_of_isUuid h.product (by decide) (by decide)),
    List.splitOn_append_cons_self_of_not_mem (not_mem_of_all (all_of_isSpec h.spec) (by decide)),
    List.splitOn_eq_singleton (not_mem_of_all (isHex64_iff.1 h.digest).2 (by decide))]

/-- `_key` accepts exactly the texts of valid keys. -/
theorem keyOf_eq_ok_iff {role : StorageRole} {rest : Text} {k : Key} :
    keyOf role rest = .ok k ↔ k.role = role ∧ k.Valid ∧ rest = k.rest := by
  constructor
  · intro h
    unfold keyOf at h
    split_ifs at h
    split at h
    · rename_i product spec digest hparts
      split_ifs at h with hdots huuid hspec hdigest
      cases h
      refine ⟨rfl, ⟨by simpa using huuid, by simpa using hspec, by simpa using hdigest⟩, ?_⟩
      calc
        rest = ['/'].intercalate (rest.splitOn '/') := (List.intercalate_splitOn '/').symm
        _ = ['/'].intercalate [product, spec, digest] := by rw [hparts]
        _ = product ++ '/' :: (spec ++ '/' :: digest) := by simp [List.intercalate]
    · cases h
  · rintro ⟨rfl, h, rfl⟩
    have hslash : ¬ k.rest.head? = some '/' := by
      intro hhead
      cases hchars : k.product with
      | nil => exact absurd h.product (by rw [hchars]; decide)
      | cons c rest =>
        simp only [Key.rest, hchars, List.cons_append, List.head?_cons, Option.some.injEq]
          at hhead
        apply not_mem_of_isUuid (c := '/') h.product (by decide) (by decide)
        rw [hchars, hhead]
        exact List.mem_cons_self
    have hback : '\\' ∉ k.rest := by
      have hproduct := not_mem_of_isUuid (c := '\\') h.product (by decide) (by decide)
      have hspec := not_mem_of_all (c := '\\') (all_of_isSpec h.spec) (by decide)
      have hdigest := not_mem_of_all (c := '\\') (isHex64_iff.1 h.digest).2 (by decide)
      simp [Key.rest, hproduct, hspec, hdigest]
    simp [keyOf, hslash, hback, splitOn_rest h, isDots_of_isUuid h.product,
      isDots_of_isSpec h.spec, isDots_of_isHex64 h.digest, h.product, h.spec, h.digest]

/-- The key of an object's URI. -/
theorem keyOf_versionedKey (role : StorageRole) (product : Uuid) {spec : SpecVersion} {digest : Text}
    (hspec : refuseSpec spec = .ok ()) (hdigest : isHex64 digest = true) :
    keyOf role (versionedKey product spec digest) =
      .ok ⟨role, uuidChars product, spec.str, digest⟩ :=
  keyOf_eq_ok_iff.2 ⟨rfl, ⟨isUuid_uuidChars product, isSpec_str hspec, hdigest⟩, rfl⟩

theorem keyOf_role {role : StorageRole} {rest : Text} {parsed : Key}
    (h : keyOf role rest = .ok parsed) : parsed.role = role :=
  (keyOf_eq_ok_iff.1 h).1

/-! ## Directories -/

abbrev DiskScript := Script DiskOp DiskOp.Ans Raised

namespace Scripts

def request (op : DiskOp) : DiskScript op.Ans :=
  Script.request op

/-- How a program sees a fault of the system. -/
def fail : Fault → Raised
  | .os errno => .os errno
  | .interrupted => .interrupted

/-- `except OSError`. -/
def onOSError {α : Type} (x : DiskScript α) (handler : Errno → DiskScript α) : DiskScript α :=
  x.handle (fun e =>
    match e with
    | .os errno => handler errno
    | e => .raise e)

/-- `except (OSError, ValueError): ...; raise`. -/
def onError {α : Type} (x : DiskScript α) (cleanup : DiskScript Unit) : DiskScript α :=
  x.handle (fun e =>
    match e with
    | .interrupted => .raise .interrupted
    | e => cleanup.andThen (fun _ => .raise e))

def mapped : Errno → Raised
  | .noent => .value "storage missing"
  | _ => .value "storage symlink"

/-- `except OSError as exc: raise _mapped(exc)`. -/
def orMapped {α : Type} (x : DiskScript α) : DiskScript α :=
  onOSError x (fun errno => .raise (mapped errno))

/-- `_open_root`. -/
def openRoot : DiskScript Unit :=
  onOSError (request .openRoot) (fun _ => .raise (.value "storage root"))

/-- The loop of `_open_dir`, from the open directory. -/
def walk : Path → List Name → DiskScript Path
  | current, [] => .ret current
  | current, name :: rest =>
    if isDots name then do
      request (.close (.directory current))
      .raise (.value "storage path")
    else do
      onOSError (request (.openDirectory current name)) (fun errno => do
        request (.close (.directory current))
        .raise (mapped errno))
      request (.close (.directory current))
      walk (current ++ [name]) rest

/-- `_open_dir`. -/
def openDir (parts : List Name) : DiskScript Path := do
  openRoot
  walk [] parts

/-- `with contextlib.suppress(FileExistsError): os.mkdir(...)`. -/
def mkdirSuppressed (current : Path) (name : Name) : DiskScript Unit :=
  onOSError (request (.mkdir current name)) (fun errno =>
    if errno = .exist then .ret () else .raise (.os errno))

/-- One turn of the loop of `_ensure_dirs`. -/
def ensureStep (current : Path) (name : Name) : DiskScript Unit :=
  if isDots name then
    .raise (.value "storage path")
  else do
    mkdirSuppressed current name
    orMapped (request (.openDirectory current name))
    request (.close (.directory current))

def ensureFrom : Path → List Name → DiskScript Unit
  | current, [] => request (.close (.directory current))
  | current, name :: rest => do
      onError (ensureStep current name) (request (.close (.directory current)))
      ensureFrom (current ++ [name]) rest

/-- `_ensure_dirs`. -/
def ensureDirs (parts : List Name) : DiskScript Unit := do
  openRoot
  ensureFrom [] parts

/-! ## Files -/

/-- `1 << 20`. -/
def blockSize : Nat := 1048576

/-- `os.read` until an empty block. -/
def readBlocks (inode : Nat) : Nat → Bytes → DiskScript Bytes
  | 0, _ => .raise .interrupted
  | patience + 1, chunks => do
      let block ← request (.read inode chunks.length blockSize)
      if block = [] then
        .ret chunks
      else
        readBlocks inode patience (chunks ++ block)

/-- `os.open(name, _READ)`, where `FileNotFoundError` is not an error. -/
def openOptional (parent : Path) (name : Name) : DiskScript (Option Nat) :=
  onOSError ((request (.openRead parent name)).andThen (fun inode => .ret (some inode)))
    (fun errno => if errno = .noent then .ret none else .raise (mapped errno))

/-- `_read_optional`. -/
def readOptional (patience : Nat) (parent : Path) (name : Name) : DiskScript (Option Bytes) := do
  let opened ← openOptional parent name
  match opened with
  | none => .ret none
  | some inode =>
    ((readBlocks inode patience []).lastly (request (.close (.file inode)))).andThen
      (fun data => .ret (some data))

/-- `os.write` until the view is empty.  A write moves a byte or raises, so as many turns as bytes are
enough. -/
def writeAll (inode : Nat) : Nat → Bytes → DiskScript Unit
  | _, [] => .ret ()
  | 0, _ => .raise (.os .other)
  | turns + 1, view => do
      let written ← request (.write inode view)
      if written = 0 then
        .raise (.os .other)
      else
        writeAll inode turns (view.drop written)

/-- `_unlink_temp`. -/
def unlinkTemp (parent : Path) (name : Name) : DiskScript Unit :=
  onOSError (request (.unlink parent name)) (fun errno =>
    if errno = .noent then .ret () else .raise (.os errno))

/-- `os.lstat`, and whether the entry is a regular file. -/
def lstat (parent : Path) (name : Name) : DiskScript Bool :=
  orMapped (request (.lstat parent name))

/-- `_unlink_object`. -/
def unlinkObject (parent : Path) (name : Name) : DiskScript Unit :=
  if !isHex64 name then
    .raise (.value "storage path")
  else do
    let regular ← lstat parent name
    if regular then
      request (.unlink parent name)
    else
      .raise (.value "storage symlink")

/-- `_names`. -/
def names (parent : Path) : DiskScript (List Name) := do
  let listed ← request (.listdir parent)
  .ret (listed.mergeSort (fun a b => decide (a ≤ b)))

/-! ## Placement -/

/-- `"." + uuid4().hex`. -/
def tempName (uuid4 : Uuid) : Name :=
  '.' :: hexDigits 32 uuid4.toNat

section Place

variable (patience : Nat) (parent : Path) (temp digest : Name) (data : Bytes) (object : StoredObject)

/-- The link was refused: the entry exists, or did a moment ago. -/
def compareCurrent : DiskScript StoredObject := do
  let current ← readOptional patience parent digest
  match current with
  | none => .raise (.value "storage missing")
  | some bytes =>
    if bytes = data then
      .ret object
    else do
      Script.ofExcept (refuseCollision bytes data)
      request (.fsync (.directory parent))
      .ret object

/-- `os.link`, `os.fsync(parent)`. -/
def linkObject : DiskScript StoredObject := do
  let linked ← (request (.link parent temp digest)).attempt
  match linked with
  | .ok _ => do
      request (.fsync (.directory parent))
      .ret object
  | .error (.os .exist) => compareCurrent patience parent digest data object
  | .error e => .raise e

/-- The `try` block of `_place_in`. -/
def fill (inode : Nat) : DiskScript StoredObject := do
  writeAll inode data.length data
  request (.fsync (.file inode))
  linkObject patience parent temp digest data object

/-- `_place_in`, once no object is in the place. -/
def place : DiskScript StoredObject := do
  let inode ← orMapped (request (.create parent temp))
  (fill patience parent temp digest data object inode).lastly (do
    request (.close (.file inode))
    unlinkTemp parent temp)

/-- `_place_in`. -/
def placeIn : DiskScript StoredObject := do
  let existing ← readOptional patience parent digest
  match existing with
  | none => place patience parent temp digest data object
  | some bytes =>
    if bytes = data then
      .ret object
    else do
      Script.ofExcept (refuseCollision bytes data)
      place patience parent temp digest data object

end Place

end Scripts

/-! ## Calls -/

namespace LocalAssetStore

open Scripts

section Calls

variable (sha256 : Bytes → Text) (patience : Nat) (uuid4 : Uuid)

/-- The checks of `_put` before it touches the disk. -/
def putKey (role : StorageRole) (scheme : Scheme) (product : Uuid) (spec : SpecVersion)
    (digest : Text) (data : Bytes) : Except Raised (Text × Key) := do
  requireDigest sha256 data digest
  let uri ← objectUri scheme product spec digest
  let parsed ← key uri
  if parsed.role ≠ role then
    .error (.value "storage role")
  else
    .ok (uri, parsed)

/-- `_put`. -/
def put (role : StorageRole) (scheme : Scheme) (product : Uuid) (spec : SpecVersion)
    (digest : Text) (data : Bytes) : DiskScript StoreAnswer := do
  let (uri, parsed) ← Script.ofExcept (putKey sha256 role scheme product spec digest data)
  ensureDirs [role.text, parsed.product, parsed.spec]
  let parent ← openDir [role.text, parsed.product, parsed.spec]
  let object ← (placeIn patience parent (tempName uuid4) parsed.digest data
    ⟨uri, parsed.digest, data.length, role⟩).lastly (request (.close (.directory parent)))
  .ret (.stored object)

/-- `read`. -/
def read (uri : Text) : DiskScript StoreAnswer := do
  let parsed ← Script.ofExcept (key uri)
  let parent ← openDir parsed.directory
  let data ← (readOptional patience parent parsed.digest).lastly
    (request (.close (.directory parent)))
  match data with
  | none => .raise (.value "storage missing")
  | some data =>
    if sha256 data ≠ parsed.digest then
      .raise (.value "storage bytes")
    else
      .ret (.bytes data)

/-- `discard`. -/
def discard (uri : Text) : DiskScript StoreAnswer := do
  Script.ofExcept (refusePublished uri)
  let parsed ← Script.ofExcept (key uri)
  let parent ← openDir parsed.directory
  (unlinkObject parent parsed.digest).lastly (request (.close (.directory parent)))
  .ret .none

/-- The loop of `cleanup_temporary`. -/
def removeNames (parent : Path) (keep : Text) : List Name → List Text → DiskScript (List Text)
  | [], removed => .ret removed
  | name :: rest, removed =>
    if name = keep || !isHex64 name then
      removeNames parent keep rest removed
    else do
      unlinkObject parent name
      removeNames parent keep rest (removed ++ [name])

/-- `_open_dir`, where a missing directory has nothing to clean. -/
def openTemporary (product : Uuid) (spec : SpecVersion) : DiskScript (Option Path) :=
  ((openDir [StorageRole.temporary.text, uuidChars product, spec.str]).andThen
    (fun parent => .ret (some parent))).handle (fun e =>
      if e = .value "storage missing" then .ret none else .raise e)

/-- `cleanup_temporary`. -/
def cleanupTemporary (product : Uuid) (spec : SpecVersion) (keep : Text) :
    DiskScript StoreAnswer :=
  if !isHex64 keep then
    .raise (.value "storage hash")
  else do
    let opened ← openTemporary product spec
    match opened with
    | none => .ret (.removed [])
    | some parent => do
        let removed ← (names parent >>= fun listed => removeNames parent keep listed []).lastly
          (request (.close (.directory parent)))
        .ret (.removed removed)

/-- One call of the store. -/
def script : StoreCall → DiskScript StoreAnswer
  | .publish product spec digest data =>
    put sha256 patience uuid4 .published .fixture product spec digest data
  | .putTemporary product spec digest data =>
    put sha256 patience uuid4 .temporary .temp product spec digest data
  | .read uri => read sha256 patience uri
  | .discard uri => discard uri
  | .cleanupTemporary product spec keep => cleanupTemporary product spec keep

end Calls

end LocalAssetStore

end Storage
end Integrations
end MoneyMachine
