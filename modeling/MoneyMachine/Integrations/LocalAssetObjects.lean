import MoneyMachine.Integrations.AssetObjects

/-!
# LocalAssetObjects — the local store keeps objects

A disk `Shows` objects when its files are exactly these objects, each under the path of its key.  Alone on
such a disk, every call of the local store answers as `Serves` says and leaves a disk that shows what it
says.
-/

namespace MoneyMachine
namespace Integrations
namespace Storage

open MoneyMachine.Domain
open MoneyMachine.Library
open MoneyMachine.Library.Disk
open Scripts

/-- The scheme of the local store's URIs. -/
def Key.scheme (k : Key) : Scheme :=
  match k.role with
  | .published => .fixture
  | .temporary => .temp

theorem roleText_injective {role role' : StorageRole} (h : role.text = role'.text) : role = role' := by
  cases role <;> cases role' <;> first | rfl | exact absurd h (by decide)

theorem Key.path_injective {k k' : Key} (h : k.path = k'.path) : k = k' := by
  rcases k with ⟨role, product, spec, digest⟩
  rcases k' with ⟨role', product', spec', digest'⟩
  simp only [Key.path, Key.directory, List.cons_append, List.nil_append, List.cons.injEq, and_true]
    at h
  rcases h with ⟨hrole, rfl, rfl, rfl⟩
  rw [roleText_injective hrole]

/-- A URI names a key exactly when it is the one of the key. -/
theorem key_eq_ok_iff {uri : Text} {k : Key} :
    key uri = .ok k ↔ k.Valid ∧ uri = k.scheme.text ++ k.rest := by
  unfold key
  constructor
  · intro h
    have hdrop : ∀ start : Text, start.isPrefixOf uri = true →
        uri = start ++ uri.drop start.length := by
      intro start hstart
      exact (List.prefix_iff_eq_append.1 (List.isPrefixOf_iff_prefix.1 hstart)).symm
    unfold splitUri at h
    split_ifs at h with hfixture htemp
    · rcases keyOf_eq_ok_iff.1 h with ⟨hrole, hvalid, hrest⟩
      refine ⟨hvalid, ?_⟩
      rw [Key.scheme, hrole, ← hrest]
      exact hdrop _ hfixture
    · rcases keyOf_eq_ok_iff.1 h with ⟨hrole, hvalid, hrest⟩
      refine ⟨hvalid, ?_⟩
      rw [Key.scheme, hrole, ← hrest]
      exact hdrop _ htemp
  · rintro ⟨hvalid, rfl⟩
    cases hrole : k.role with
    | published =>
      rw [Key.scheme, hrole]
      simp only [splitUri_fixture]
      exact keyOf_eq_ok_iff.2 ⟨hrole, hvalid, rfl⟩
    | temporary =>
      rw [Key.scheme, hrole]
      simp only [splitUri_temp]
      exact keyOf_eq_ok_iff.2 ⟨hrole, hvalid, rfl⟩

theorem valid_of_key {uri : Text} {k : Key} (h : key uri = .ok k) : k.Valid :=
  (key_eq_ok_iff.1 h).1

theorem refusePublished_of_temporary {uri : Text} {k : Key} (h : key uri = .ok k)
    (hrole : k.role = .temporary) : refusePublished uri = .ok () := by
  rw [(key_eq_ok_iff.1 h).2, Key.scheme, hrole]
  rfl

/-- The files of the disk are these objects. -/
structure Shows {ι : Type} (sha256 : Bytes → Text) (patience : Nat) (d : Disk ι) (m : Objects) :
    Prop where
  wired : d.Wired
  shallow : ∀ path, d.node? path = some .directory → path.length ≤ 3
  files : ∀ path inode, d.node? path = some (.file inode) → ∃ k : Key, k.Valid ∧ path = k.path
  shown : ∀ k data, m k = some data ↔ k.Valid ∧ Present k.directory k.digest data d
  named : m.Named sha256
  short : ∀ k data, m k = some data → data.length < patience

namespace Shows

variable {ι : Type} {sha256 : Bytes → Text} {patience : Nat} {d d' : Disk ι} {m : Objects}

theorem empty (patience : Nat) :
    Shows sha256 patience (Disk.empty : Disk ι) (fun _ => none) := by
  refine ⟨wired_empty, fun path h => (by cases h), fun path inode h => (by cases h), ?_,
    Objects.named_empty sha256, fun k data h => (by cases h)⟩
  intro k data
  constructor
  · intro h
    cases h
  · rintro ⟨-, inode, file, hnode, -⟩
    cases hnode

/-- The file of a key is the object under it. -/
theorem file (h : Shows sha256 patience d m) {k : Key} (hvalid : k.Valid) {inode : Nat}
    (hnode : d.node? k.path = some (.file inode)) :
    ∃ file, d.inodes[inode]? = some file ∧ m k = some file.bytes := by
  have hlt := h.wired.inodes _ _ hnode
  have hfile : d.inodes[inode]? = some d.inodes[inode] := List.getElem?_eq_getElem hlt
  exact ⟨d.inodes[inode], hfile, (h.shown k _).2 ⟨hvalid, inode, _, hnode, hfile, rfl⟩⟩

theorem node (h : Shows sha256 patience d m) {k : Key} {data : Bytes} (hdata : m k = some data) :
    ∃ inode file, d.node? k.path = some (.file inode) ∧ d.inodes[inode]? = some file ∧
      file.bytes = data :=
  ((h.shown k data).1 hdata).2

theorem free (h : Shows sha256 patience d m) {k : Key} (hvalid : k.Valid) (hnone : m k = none) :
    d.node? k.path = none := by
  cases hnode : d.node? k.path with
  | none => rfl
  | some node =>
    cases node with
    | directory =>
      have hlength := h.shallow _ hnode
      simp [Key.path, Key.directory] at hlength
    | file inode =>
      rcases h.file hvalid hnode with ⟨file, -, hdata⟩
      rw [hnone] at hdata
      cases hdata

/-- Only objects are files: none lies where a directory belongs. -/
theorem notFile (h : Shows sha256 patience d m) {parts : List Name} (hlength : parts.length ≤ 3)
    (n inode : Nat) : d.node? (parts.take n) ≠ some (.file inode) := by
  intro hnode
  rcases h.files _ _ hnode with ⟨k, -, hpath⟩
  have hfour : (parts.take n).length = 4 := by
    rw [hpath]
    rfl
  rw [List.length_take] at hfour
  omega

/-- New directories show nothing new. -/
theorem directories (h : Shows sha256 patience d m) (honly : OnlyDirectories d d' 3) :
    Shows sha256 patience d' m := by
  refine ⟨honly.wired h.wired, ?_, ?_, ?_, h.named, h.short⟩
  · intro path hpath
    exact (honly.shallow path hpath).elim (h.shallow path) id
  · exact fun path inode hnode => h.files path inode ((honly.files path inode).1 hnode)
  · intro k data
    rw [h.shown]
    apply and_congr_right
    intro _
    simp only [Present, honly.files, honly.inodes]

theorem gained {i : ι} (h : Shows sha256 patience d m) {k : Key} {data : Bytes} (hvalid : k.Valid)
    (hsha : sha256 data = k.digest) (hshort : data.length < patience)
    (hdir : d.isDirectory k.directory = true) (hnone : m k = none)
    (hgained : Gained i d d' k.path data) : Shows sha256 patience d' (m.put k data) := by
  have hfree := h.free hvalid hnone
  have hnodes := hgained.nodes
  have hdirectory : ∀ path, d.isDirectory path = true → d'.isDirectory path = true := by
    intro path hpath
    simp only [isDirectory, Bool.or_eq_true, decide_eq_true_eq] at hpath ⊢
    rcases hpath with hroot | hnode
    · exact Or.inl hroot
    · refine Or.inr ?_
      rw [hnodes, if_neg]
      · exact hnode
      · rintro rfl
        rw [hfree] at hnode
        cases hnode
  refine ⟨⟨?_, ?_⟩, ?_, ?_, ?_, h.named.put hvalid hsha, ?_⟩
  · intro parent name node hnode
    apply hdirectory
    rw [hnodes] at hnode
    split_ifs at hnode with hpath
    · have hparent : k.directory = parent := (List.append_inj' hpath rfl).1
      rw [← hparent]
      exact hdir
    · exact h.wired.parents parent name node hnode
  · intro path inode hnode
    rw [hnodes] at hnode
    rw [hgained.inodes, List.length_append, List.length_singleton]
    split_ifs at hnode
    · cases hnode
      omega
    · have hlt := h.wired.inodes path inode hnode
      omega
  · intro path hpath
    rw [hnodes] at hpath
    split_ifs at hpath
    · cases hpath
    · exact h.shallow path hpath
  · intro path inode hnode
    rw [hnodes] at hnode
    split_ifs at hnode with hpath
    · exact ⟨k, hvalid, hpath.symm⟩
    · exact h.files path inode hnode
  · intro other data'
    by_cases hkey : other = k
    · subst hkey
      have hnode : d'.node? other.path = some (.file d.inodes.length) := by
        rw [hnodes, if_pos rfl]
      have hfile : d'.inodes[d.inodes.length]? = some ⟨data, i⟩ := by
        rw [hgained.inodes]
        simp
      constructor
      · intro hput
        simp only [Objects.put, if_true, Option.some.injEq] at hput
        subst hput
        exact ⟨hvalid, _, _, hnode, hfile, rfl⟩
      · rintro ⟨-, inode, file, hnode', hfile', hbytes⟩
        have hinode : inode = d.inodes.length := by
          have heq := hnode'.symm.trans hnode
          cases heq
          rfl
        subst hinode
        rw [hfile] at hfile'
        cases hfile'
        subst hbytes
        simp [Objects.put]
    · have hpath : k.path ≠ other.path := fun hpath => hkey (Key.path_injective hpath).symm
      have hsame : m.put k data other = m other := by
        simp [Objects.put, hkey]
      rw [hsame, h.shown]
      apply and_congr_right
      intro _
      constructor
      · rintro ⟨inode, file, hnode, hfile, hbytes⟩
        refine ⟨inode, file, ?_, ?_, hbytes⟩
        · have hother := hnodes other.path
          rw [if_neg hpath] at hother
          exact hother.trans hnode
        · rw [hgained.inodes, List.getElem?_append_left (h.wired.inodes _ _ hnode)]
          exact hfile
      · rintro ⟨inode, file, hnode, hfile, hbytes⟩
        have hother : d.node? other.path = some (.file inode) := by
          have hother := hnodes other.path
          rw [if_neg hpath] at hother
          exact hother.symm.trans hnode
        refine ⟨inode, file, hother, ?_, hbytes⟩
        rw [hgained.inodes, List.getElem?_append_left (h.wired.inodes _ _ hother)] at hfile
        exact hfile
  · intro other data' hother
    unfold Objects.put at hother
    split_ifs at hother
    · cases hother
      exact hshort
    · exact h.short other data' hother

theorem removed (i : ι) (h : Shows sha256 patience d m) {k : Key} {inode : Nat}
    (hnode : d.node? k.path = some (.file inode)) :
    Shows sha256 patience (d.remove k.path) (m.erase [k]) := by
  have hold : ∀ path node, (d.remove k.path).node? path = some node →
      k.path ≠ path ∧ d.node? path = some node := by
    intro path node hnode'
    rw [node?_remove] at hnode'
    split_ifs at hnode' with hpath
    exact ⟨hpath, hnode'⟩
  refine ⟨?_, fun path hpath => h.shallow path (hold path _ hpath).2,
    fun path inode' hnode' => h.files path inode' (hold path _ hnode').2, ?_, h.named.erase [k], ?_⟩
  · exact Change.wired h.wired (Change.unlink (i := i) k.directory k.digest inode hnode)
  · intro other data
    by_cases hkey : other = k
    · subst hkey
      have hnone : (m.erase [other]) other = none := by
        simp [Objects.erase]
      rw [hnone]
      constructor
      · intro hdata
        cases hdata
      · rintro ⟨-, inode', file, hnode', -⟩
        exact absurd rfl (hold _ _ hnode').1
    · have hpath : k.path ≠ other.path := fun hpath => hkey (Key.path_injective hpath).symm
      have hsame : m.erase [k] other = m other := by
        simp [Objects.erase, hkey]
      rw [hsame, h.shown]
      apply and_congr_right
      intro _
      have hother : (d.remove k.path).node? (other.directory ++ [other.digest]) =
          d.node? (other.directory ++ [other.digest]) := by
        have hremove := node?_remove d k.path other.path
        rw [if_neg hpath] at hremove
        exact hremove
      simp only [Present, hother, inodes_remove]
  · intro other data hother
    unfold Objects.erase at hother
    split_ifs at hother
    exact h.short other data hother

end Shows

/-! ## Calls -/

section Calls

variable {ι : Type} {i : ι} {sha256 : Bytes → Text} {patience : Nat} {d : Disk ι} {m : Objects}

/-- A spec that is refused as a key still names no dots. -/
theorem isDots_str (spec : SpecVersion) : isDots spec.str = false := by
  match spec with
  | .int (.ofNat 0) => decide
  | .int (.ofNat (n + 1)) => exact isDots_of_isSpec (isSpec_toDigits (n + 1) (Nat.succ_pos n))
  | .int (.negSucc n) => simp [SpecVersion.str, isDots]
  | .bool true => decide
  | .bool false => decide

theorem length_role (role : StorageRole) : role.text.length ≤ nameMax := by
  cases role <;> decide

theorem length_uuidChars (u : Uuid) : (uuidChars u).length = 36 := by
  simp [uuidChars]

theorem length_digest {digest : Text} (h : isHex64 digest = true) : digest.length ≤ nameMax := by
  rw [(isHex64_iff.1 h).1]
  decide

theorem isDots_directory {k : Key} (hk : k.Valid) : ∀ name ∈ k.directory, isDots name = false := by
  intro name hmem
  simp only [Key.directory, List.mem_cons, List.not_mem_nil, or_false] at hmem
  rcases hmem with rfl | rfl | rfl
  · exact isDots_role k.role
  · exact isDots_of_isUuid hk.product
  · exact isDots_of_isSpec hk.spec

theorem isDirectory_of_walkable {a b c : Name} (h : Walkable d [] [a, b, c]) :
    d.isDirectory [a, b, c] = true := by
  rcases h with ⟨-, -, -, -, -, hnode, -⟩
  have hnode : d.node? [a, b, c] = some .directory := hnode
  simp [isDirectory, hnode]

/-- The directories of an object are there. -/
theorem Shows.walkable (h : Shows sha256 patience d m) {k : Key} {data : Bytes}
    (hdata : m k = some data) : Walkable d [] k.directory := by
  have hvalid := h.named.valid k data hdata
  rcases h.node hdata with ⟨inode, file, hnode, -, -⟩
  exact walkable_of_wired h.wired hnode (isDots_role k.role) (isDots_of_isUuid hvalid.product)
    (isDots_of_isSpec hvalid.spec)

/-- Without their directories the open is refused, and nothing is changed. -/
theorem Shows.openDir_missing (h : Shows sha256 patience d m) {parts : List Name}
    (hlength : parts.length ≤ 3) (hwalk : ¬ Walkable d [] parts)
    (hdots : ∀ name ∈ parts, isDots name = false) :
    ∃ e, alone i (openDir parts) d = (.error e, d) ∧
      ((∀ name ∈ parts, name.length ≤ nameMax) → e = .value "storage missing") :=
  alone_openDir_missing hwalk hdots (fun n inode => h.notFile hlength (n + 1) inode)

/-! ### Puts -/

/-- Once its arguments are accepted, a put makes the directories of its object and places it there. -/
theorem Shows.put_placeIn (h : Shows sha256 patience d m) {p : Put} (hp : p.Matched)
    (haccepted : p.Accepted sha256) (hspec : p.spec.str.length ≤ nameMax) (uuid4 : Uuid) :
    ∃ d₁, Shows sha256 patience d₁ m ∧ Walkable d₁ [] p.parent ∧
      alone i (LocalAssetStore.put sha256 patience uuid4 p.role p.scheme p.product p.spec p.digest
        p.data) d =
        ((alone i (placeIn patience p.parent (tempName uuid4) p.digest p.data p.object) d₁).1.map
            .stored,
          (alone i (placeIn patience p.parent (tempName uuid4) p.digest p.data p.object) d₁).2) := by
  have hlength : ∀ name ∈ p.parent, name.length ≤ nameMax := by
    intro name hmem
    simp only [Put.parent, List.mem_cons, List.not_mem_nil, or_false] at hmem
    rcases hmem with rfl | rfl | rfl
    · exact length_role p.role
    · rw [length_uuidChars]
      decide
    · exact hspec
  have hensure : ∃ d₁, alone i (ensureDirs p.parent) d = (.ok (), d₁) ∧ OnlyDirectories d d₁ 3 ∧
      Walkable d₁ [] p.parent :=
    alone_ensureDirs (isDots_directory haccepted.valid) hlength
      (fun n inode => h.notFile le_rfl (n + 1) inode) le_rfl
  rcases hensure with ⟨d₁, hrun, honly, hwalk⟩
  refine ⟨d₁, h.directories honly, hwalk, ?_⟩
  have hopen : alone i (openDir p.parent) d₁ = (.ok p.parent, d₁) := alone_openDir hwalk
  have hkey := putKey_of_valid hp haccepted.hex haccepted.sha haccepted.spec
  simp only [Put.parent] at hrun hopen
  simp only [LocalAssetStore.put, hkey, Script.ofExcept_ok_bind, Script.run_bind, hrun, hopen,
    Script.run_lastly, request, Script.run_request, perform_close, Put.parent]
  unfold Put.object alone
  generalize Script.run (perform fail i) quiet
    (placeIn patience [p.role.text, uuidChars p.product, p.spec.str] (tempName uuid4) p.digest p.data
      ⟨p.uri, p.digest, p.data.length, p.role⟩) d₁ = placed
  rcases placed with ⟨r, d'⟩
  cases r with
  | ok object => rfl
  | error e => rfl

/-- A temporary is no object. -/
theorem Shows.free_tempName (h : Shows sha256 patience d m) (parts : List Name)
    (hlength : parts.length = 3) (uuid4 : Uuid) : d.node? (parts ++ [tempName uuid4]) = none := by
  cases hnode : d.node? (parts ++ [tempName uuid4]) with
  | none => rfl
  | some node =>
    cases node with
    | directory =>
      have hshallow := h.shallow _ hnode
      simp [hlength] at hshallow
    | file inode =>
      rcases h.files _ _ hnode with ⟨k, hvalid, hpath⟩
      have hname : [tempName uuid4] = [k.digest] := (List.append_inj' hpath rfl).2
      have hhex := hvalid.digest
      rw [← List.cons.inj hname |>.1, isHex64_tempName] at hhex
      cases hhex

theorem local_put (h : Shows sha256 patience d m) {call : StoreCall} {p : Put}
    (hput : call.put? = some p) (hspec : p.spec.str.length ≤ nameMax)
    (hshort : p.data.length < patience) (uuid4 : Uuid) :
    ∃ r d' m', alone i (LocalAssetStore.put sha256 patience uuid4 p.role p.scheme p.product p.spec
        p.digest p.data) d = (r, d') ∧
      Serves sha256 m call r.toOption m' ∧ Shows sha256 patience d' m' := by
  have hp := matched_of_put? hput
  by_cases haccepted : p.Accepted sha256
  · rcases h.put_placeIn (i := i) hp haccepted hspec uuid4 with ⟨d₁, h₁, hwalk, hrun⟩
    cases hdata : m p.key with
    | some bytes =>
      -- The place is taken: the same bytes are idempotent, others collide.
      rcases h₁.node hdata with ⟨inode, file, hnode, hfile, rfl⟩
      have hplace : alone i (placeIn patience p.parent (tempName uuid4) p.digest p.data p.object)
          d₁ = (if file.bytes = p.data then .ok p.object
            else .error (.value "storage collision"), d₁) :=
        alone_placeIn_taken hnode hfile (h₁.short _ _ hdata)
      rw [hplace] at hrun
      by_cases hsame : file.bytes = p.data
      · rw [if_pos hsame] at hrun
        rw [hsame] at hdata
        refine ⟨_, _, m.put p.key p.data, hrun, .stored hput haccepted (Or.inr hdata), ?_⟩
        rw [Objects.put_same hdata]
        exact h₁
      · rw [if_neg hsame] at hrun
        refine ⟨_, _, m, hrun, .putRefused hput ?_, h₁⟩
        rintro ⟨-, hfree | hother⟩
        · rw [hdata] at hfree
          cases hfree
        · rw [hdata] at hother
          exact hsame (Option.some.inj hother)
    | none =>
      have hdir : d₁.isDirectory p.parent = true := isDirectory_of_walkable hwalk
      have hfree : d₁.node? (p.parent ++ [p.digest]) = none := h₁.free haccepted.valid hdata
      have hne : tempName uuid4 ≠ p.digest := by
        intro heq
        have hhex := haccepted.hex
        rw [← heq, isHex64_tempName] at hhex
        cases hhex
      have hplace : ∃ d', alone i (placeIn patience p.parent (tempName uuid4) p.digest p.data
          p.object) d₁ = (.ok p.object, d') ∧ Gained i d₁ d' (p.parent ++ [p.digest]) p.data :=
        alone_placeIn_free hdir (h₁.free_tempName p.parent rfl uuid4) hfree hne
          (by simp [tempName, nameMax]) (length_digest haccepted.hex) patience
      rcases hplace with ⟨d', hplaced, hgained⟩
      rw [hplaced] at hrun
      exact ⟨_, d', _, hrun, .stored hput haccepted (Or.inl hdata),
        h₁.gained haccepted.valid haccepted.sha hshort hdir hdata hgained⟩
  · -- The arguments are refused before the disk is touched.
    have hrefused : ∃ e, LocalAssetStore.putKey sha256 p.role p.scheme p.product p.spec p.digest
        p.data = .error e := by
      cases hkey : LocalAssetStore.putKey sha256 p.role p.scheme p.product p.spec p.digest p.data with
      | error e => exact ⟨e, rfl⟩
      | ok checked =>
        rcases putKey_eq_ok hp hkey with ⟨-, -, hhex, hsha, hspec⟩
        exact absurd ⟨hhex, hsha, hspec⟩ haccepted
    rcases hrefused with ⟨e, hkey⟩
    refine ⟨.error e, d, m, ?_, .putRefused hput (fun hboth => haccepted hboth.1), h⟩
    rw [LocalAssetStore.put, hkey, Script.ofExcept_error_bind, alone, Script.run_raise]

/-! ### Reads and deletions -/

/-- The directories of a key are there and its place is taken, or nothing is stored under it. -/
theorem local_read (h : Shows sha256 patience d m) (uri : Text) :
    ∃ r d' m', alone i (LocalAssetStore.read sha256 patience uri) d = (r, d') ∧
      Serves sha256 m (.read uri) r.toOption m' ∧ Shows sha256 patience d' m' := by
  cases hkey : key uri with
  | error e =>
    refine ⟨.error e, d, m, ?_, .readRefused ?_, h⟩
    · rw [LocalAssetStore.read, hkey, Script.ofExcept_error_bind, alone, Script.run_raise]
    · intro k hk
      rw [hkey] at hk
      cases hk
  | ok k =>
    have hvalid : k.Valid := valid_of_key hkey
    cases hdata : m k with
    | some data =>
      rcases h.node hdata with ⟨inode, file, hnode, hfile, rfl⟩
      have hread : Readable sha256 i uri file.bytes d :=
        readable_of_node hkey (h.walkable hdata) hnode hfile (h.named.digest k _ hdata)
      exact ⟨_, d, m, hread patience (h.short k _ hdata), .bytes hkey hdata, h⟩
    | none =>
      have hmissing : ∀ k', key uri = .ok k' → m k' = none := by
        intro k' hk'
        rw [hkey] at hk'
        cases hk'
        exact hdata
      by_cases hwalk : Walkable d [] k.directory
      · have hopen : alone i (openDir k.directory) d = (.ok k.directory, d) :=
          alone_openDir hwalk
        have hfree : d.node? (k.directory ++ [k.digest]) = none := h.free hvalid hdata
        have hnone : alone i (readOptional patience k.directory k.digest) d = (.ok none, d) :=
          alone_readOptional_free hfree (length_digest hvalid.digest) patience
        refine ⟨.error (.value "storage missing"), d, m, ?_, .readRefused hmissing, h⟩
        simp only [LocalAssetStore.read, hkey, Script.ofExcept_ok_bind, Script.run_bind, hopen,
          Script.run_lastly, hnone, request, Script.run_request, perform_close,
          Script.run_raise]
      · rcases h.openDir_missing (i := i) le_rfl hwalk (isDots_directory hvalid) with
          ⟨e, hopen, -⟩
        refine ⟨.error e, d, m, ?_, .readRefused hmissing, h⟩
        simp only [LocalAssetStore.read, hkey, Script.ofExcept_ok_bind, Script.run_bind, hopen]

theorem local_discard (h : Shows sha256 patience d m) (uri : Text) :
    ∃ r d' m', alone i (LocalAssetStore.discard uri) d = (r, d') ∧
      Serves sha256 m (.discard uri) r.toOption m' ∧ Shows sha256 patience d' m' := by
  cases hpublished : refusePublished uri with
  | error e =>
    refine ⟨.error e, d, m, ?_, .discardRefused ?_, h⟩
    · rw [LocalAssetStore.discard, hpublished, Script.ofExcept_error_bind, alone,
        Script.run_raise]
    · -- A temporary key has a URI that is not refused as published.
      intro k hk hrole
      rw [refusePublished_of_temporary hk hrole] at hpublished
      cases hpublished
  | ok _ =>
    cases hkey : key uri with
    | error e =>
      refine ⟨.error e, d, m, ?_, .discardRefused ?_, h⟩
      · rw [LocalAssetStore.discard, hpublished, Script.ofExcept_ok_bind, hkey,
          Script.ofExcept_error_bind, alone, Script.run_raise]
      · intro k hk
        rw [hkey] at hk
        cases hk
    | ok k =>
      have hvalid : k.Valid := valid_of_key hkey
      have hrole := role_of_refusePublished hpublished hkey
      cases hdata : m k with
      | some data =>
        rcases h.node hdata with ⟨inode, file, hnode, hfile, -⟩
        have hopen : alone i (openDir k.directory) d = (.ok k.directory, d) :=
          alone_openDir (h.walkable hdata)
        have hunlink : alone i (unlinkObject k.directory k.digest) d =
            (.ok (), d.remove (k.directory ++ [k.digest])) :=
          alone_unlinkObject hvalid.digest hnode
        refine ⟨.ok .none, d.remove (k.directory ++ [k.digest]), m.erase [k], ?_,
          .discarded hkey hrole hdata, h.removed i hnode⟩
        simp only [LocalAssetStore.discard, hpublished, hkey, Script.ofExcept_ok_bind,
          Script.run_bind, hopen, Script.run_lastly, hunlink, request, Script.run_request,
          perform_close, Script.run_ret]
      | none =>
        have hmissing : ∀ k', key uri = .ok k' → k'.role = .temporary → m k' = none := by
          intro k' hk' _
          rw [hkey] at hk'
          cases hk'
          exact hdata
        by_cases hwalk : Walkable d [] k.directory
        · have hopen : alone i (openDir k.directory) d = (.ok k.directory, d) :=
            alone_openDir hwalk
          have hfree : d.node? (k.directory ++ [k.digest]) = none := h.free hvalid hdata
          rcases alone_unlinkObject_missing (i := i) hfree with ⟨e, hunlink⟩
          refine ⟨.error e, d, m, ?_, .discardRefused hmissing, h⟩
          simp only [LocalAssetStore.discard, hpublished, hkey, Script.ofExcept_ok_bind,
            Script.run_bind, hopen, Script.run_lastly, hunlink, request, Script.run_request,
            perform_close]
        · rcases h.openDir_missing (i := i) le_rfl hwalk (isDots_directory hvalid) with
            ⟨e, hopen, -⟩
          refine ⟨.error e, d, m, ?_, .discardRefused hmissing, h⟩
          simp only [LocalAssetStore.discard, hpublished, hkey, Script.ofExcept_ok_bind,
            Script.run_bind, hopen]

/-! ### Cleaning up -/

/-- What the loop of `cleanup_temporary` takes of the names it is given. -/
def others (keep : Text) (names : List Name) : List Name :=
  names.filter (fun name => decide (name ≠ keep))

theorem local_removeNames {product : Uuid} {spec : SpecVersion} {keep : Text} {names : List Name}
    (removed : List Text) (h : Shows sha256 patience d m) (hnodup : names.Nodup)
    (hnames : ∀ name ∈ names, isHex64 name = true ∧
      ∃ inode, d.node? (temporaryKey product spec name).path = some (.file inode)) :
    ∃ d', alone i (LocalAssetStore.removeNames
        [StorageRole.temporary.text, uuidChars product, spec.str] keep names removed) d =
        (.ok (removed ++ others keep names), d') ∧
      Shows sha256 patience d' (m.erase ((others keep names).map (temporaryKey product spec))) := by
  induction names generalizing removed d m with
  | nil => exact ⟨d, by simp [LocalAssetStore.removeNames, others], by simpa [others] using h⟩
  | cons name rest ih =>
    rcases hnames name List.mem_cons_self with ⟨hhex, inode, hnode⟩
    have hrest : ∀ other ∈ rest, isHex64 other = true ∧
        ∃ inode, d.node? (temporaryKey product spec other).path = some (.file inode) :=
      fun other hmem => hnames other (List.mem_cons_of_mem name hmem)
    by_cases hkeep : name = keep
    · subst hkeep
      rcases ih removed h hnodup.of_cons hrest with ⟨d', hrun, hshows⟩
      refine ⟨d', ?_, by simpa [others] using hshows⟩
      simp only [LocalAssetStore.removeNames, decide_true, Bool.true_or, if_true]
      simpa [others] using hrun
    · have hunlink : alone i (unlinkObject
          [StorageRole.temporary.text, uuidChars product, spec.str] name) d =
            (.ok (), d.remove (temporaryKey product spec name).path) :=
        alone_unlinkObject hhex hnode
      -- The other names are still there.
      have hstays : ∀ other ∈ rest, isHex64 other = true ∧
          ∃ inode, (d.remove (temporaryKey product spec name).path).node?
            (temporaryKey product spec other).path = some (.file inode) := by
        intro other hmem
        rcases hrest other hmem with ⟨hother, inode', hnode'⟩
        refine ⟨hother, inode', ?_⟩
        rw [node?_remove, if_neg]
        · exact hnode'
        · intro hpath
          have hkeys := congrArg Key.digest (Key.path_injective hpath)
          have hsame : name = other := hkeys
          exact (List.nodup_cons.1 hnodup).1 (hsame ▸ hmem)
      rcases ih (removed ++ [name]) (h.removed i hnode) hnodup.of_cons hstays with
        ⟨d', hrun, hshows⟩
      refine ⟨d', ?_, ?_⟩
      · simp only [LocalAssetStore.removeNames, hkeep, decide_false, hhex, Bool.not_true,
          Bool.or_self, Bool.false_eq_true, if_false, Script.run_bind, hunlink]
        simpa [others, hkeep] using hrun
      · rw [Objects.erase_erase] at hshows
        simpa [others, hkeep] using hshows

theorem sorted_mergeSort (texts : List Text) :
    (texts.mergeSort (fun a b => decide (a ≤ b))).Pairwise (fun a b => a ≤ b) := by
  have hsorted : (texts.mergeSort (fun a b => decide (a ≤ b))).Pairwise
      (fun a b => decide (a ≤ b) = true) := by
    apply List.pairwise_mergeSort
    · intro a b c
      simpa using fun hab hbc => le_trans hab hbc
    · intro a b
      simpa using le_total a b
  exact hsorted.imp (fun hle => of_decide_eq_true hle)

/-- The names in the directory of the renders, in order, are the digests of what is stored there. -/
theorem Shows.superseded (h : Shows sha256 patience d m) (product : Uuid) (spec : SpecVersion)
    (keep : Text) :
    Superseded m product spec keep (others keep
      ((d.names [StorageRole.temporary.text, uuidChars product, spec.str]).mergeSort
        (fun a b => decide (a ≤ b)))) ∧
    (∀ name ∈ d.names [StorageRole.temporary.text, uuidChars product, spec.str],
      isHex64 name = true ∧
        ∃ inode, d.node? (temporaryKey product spec name).path = some (.file inode)) := by
  have hnames : ∀ name ∈ d.names [StorageRole.temporary.text, uuidChars product, spec.str],
      isHex64 name = true ∧
        ∃ inode, d.node? (temporaryKey product spec name).path = some (.file inode) := by
    intro name hmem
    rcases mem_names_iff.1 hmem with ⟨node, hnode⟩
    cases node with
    | directory =>
      have hshallow := h.shallow _ hnode
      simp at hshallow
    | file inode =>
      rcases h.files _ _ hnode with ⟨k, hvalid, hpath⟩
      have hname : [name] = [k.digest] := (List.append_inj' hpath rfl).2
      refine ⟨?_, inode, hnode⟩
      rw [(List.cons.inj hname).1]
      exact hvalid.digest
  refine ⟨⟨?_, ?_, ?_⟩, hnames⟩
  · apply List.Pairwise.filter
    exact sorted_mergeSort _
  · apply List.Nodup.filter
    exact (List.mergeSort_perm _ _).nodup_iff.2 (nodup_names d _)
  · intro digest
    simp only [others, List.mem_filter, List.mem_mergeSort, decide_eq_true_eq]
    constructor
    · rintro ⟨hmem, hne⟩
      rcases hnames digest hmem with ⟨hhex, inode, hnode⟩
      rcases h.files _ _ hnode with ⟨k, hvalid, hpath⟩
      have hkey := Key.path_injective hpath
      rcases h.file (hkey ▸ hvalid) hnode with ⟨file, -, hdata⟩
      exact ⟨hne, file.bytes, hdata⟩
    · rintro ⟨hne, data, hdata⟩
      rcases h.node hdata with ⟨inode, file, hnode, -, -⟩
      exact ⟨mem_names_iff.2 ⟨.file inode, hnode⟩, hne⟩

theorem local_cleanup (h : Shows sha256 patience d m) (product : Uuid) {spec : SpecVersion}
    (hspec : spec.str.length ≤ nameMax) (keep : Text) :
    ∃ r d' m', alone i (LocalAssetStore.cleanupTemporary product spec keep) d = (r, d') ∧
      Serves sha256 m (.cleanupTemporary product spec keep) r.toOption m' ∧
        Shows sha256 patience d' m' := by
  by_cases hhex : isHex64 keep = true
  · rcases h.superseded product spec keep with ⟨hdigests, hnames⟩
    by_cases hwalk : Walkable d [] [StorageRole.temporary.text, uuidChars product, spec.str]
    · have hopen : alone i (openDir [StorageRole.temporary.text, uuidChars product, spec.str]) d =
          (.ok [StorageRole.temporary.text, uuidChars product, spec.str], d) :=
        alone_openDir hwalk
      have hlist : alone i (Scripts.names
          [StorageRole.temporary.text, uuidChars product, spec.str]) d =
            (.ok ((d.names [StorageRole.temporary.text, uuidChars product, spec.str]).mergeSort
              (fun a b => decide (a ≤ b))), d) := rfl
      have hnodup := (List.mergeSort_perm
        (d.names [StorageRole.temporary.text, uuidChars product, spec.str])
        (fun a b => decide (a ≤ b))).nodup_iff.2 (nodup_names d _)
      have hloop : ∃ d', alone i (LocalAssetStore.removeNames
          [StorageRole.temporary.text, uuidChars product, spec.str] keep
          ((d.names [StorageRole.temporary.text, uuidChars product, spec.str]).mergeSort
            (fun a b => decide (a ≤ b))) []) d =
          (.ok ([] ++ others keep ((d.names
            [StorageRole.temporary.text, uuidChars product, spec.str]).mergeSort
              (fun a b => decide (a ≤ b)))), d') ∧
        Shows sha256 patience d' (m.erase ((others keep ((d.names
          [StorageRole.temporary.text, uuidChars product, spec.str]).mergeSort
            (fun a b => decide (a ≤ b)))).map (temporaryKey product spec))) :=
        local_removeNames [] h hnodup (fun name hmem => hnames name (List.mem_mergeSort.1 hmem))
      rcases hloop with ⟨d', hrun, hshows⟩
      refine ⟨.ok (.removed _), d', _, ?_, .removed hhex hdigests, hshows⟩
      simp only [LocalAssetStore.cleanupTemporary, hhex, Bool.not_true, Bool.false_eq_true, if_false,
        LocalAssetStore.openTemporary, Script.run_bind, Script.run_handle, Script.run_andThen, hopen,
        Script.run_ret, Script.run_lastly, hlist, hrun, request, Script.run_request, perform_close,
        List.nil_append]
    · -- Nothing was ever stored for this product and spec.
      have hdots : ∀ name ∈ [StorageRole.temporary.text, uuidChars product, spec.str],
          isDots name = false := by
        intro name hmem
        simp only [List.mem_cons, List.not_mem_nil, or_false] at hmem
        rcases hmem with rfl | rfl | rfl
        · exact isDots_role .temporary
        · exact isDots_of_isUuid (isUuid_uuidChars product)
        · exact isDots_str spec
      have hlength : ∀ name ∈ [StorageRole.temporary.text, uuidChars product, spec.str],
          name.length ≤ nameMax := by
        intro name hmem
        simp only [List.mem_cons, List.not_mem_nil, or_false] at hmem
        rcases hmem with rfl | rfl | rfl
        · exact length_role .temporary
        · rw [length_uuidChars]
          decide
        · exact hspec
      rcases h.openDir_missing (i := i) le_rfl hwalk hdots with ⟨e, hopen, hmissing⟩
      have hmissing := hmissing hlength
      subst hmissing
      have hnone : Superseded m product spec keep [] := by
        refine ⟨List.Pairwise.nil, List.nodup_nil, fun digest => ?_⟩
        constructor
        · intro hmem
          cases hmem
        · rintro ⟨-, data, hdata⟩
          exact absurd (h.walkable hdata) hwalk
      refine ⟨.ok (.removed []), d, m.erase [], ?_, .removed hhex hnone, by simpa using h⟩
      simp only [LocalAssetStore.cleanupTemporary, hhex, Bool.not_true, Bool.false_eq_true, if_false,
        LocalAssetStore.openTemporary, Script.run_bind, Script.run_handle, Script.run_andThen, hopen,
        if_true, Script.run_ret]
  · refine ⟨.error (.value "storage hash"), d, m, ?_, .cleanupRefused (by simpa using hhex), h⟩
    simp only [LocalAssetStore.cleanupTemporary, hhex, Bool.not_false, if_true, Script.run_raise]

/-! ### Any call -/

/-- The spec a call makes a file name of. -/
def StoreCall.spec? : StoreCall → Option SpecVersion
  | .publish _ spec _ _ => some spec
  | .putTemporary _ spec _ _ => some spec
  | .cleanupTemporary _ spec _ => some spec
  | _ => none

/-- The spec fits a file name, and what is put is read again within the patience. -/
structure StoreCall.Fits (patience : Nat) (call : StoreCall) : Prop where
  spec : ∀ spec, call.spec? = some spec → spec.str.length ≤ nameMax
  data : ∀ p, call.put? = some p → p.data.length < patience

/-- Alone on its disk, the local store serves every call. -/
theorem local_serves (h : Shows sha256 patience d m) {call : StoreCall} (hfits : call.Fits patience)
    (uuid4 : Uuid) :
    ∃ r d' m', alone i (LocalAssetStore.script sha256 patience uuid4 call) d = (r, d') ∧
      Serves sha256 m call r.toOption m' ∧ Shows sha256 patience d' m' := by
  have hputs : ∀ p, call.put? = some p → p.spec.str.length ≤ nameMax →
      ∃ r d' m', alone i (LocalAssetStore.put sha256 patience uuid4 p.role p.scheme p.product p.spec
          p.digest p.data) d = (r, d') ∧
        Serves sha256 m call r.toOption m' ∧ Shows sha256 patience d' m' :=
    fun p hput hspec => local_put h hput hspec (hfits.data p hput) uuid4
  cases call with
  | publish product spec digest data =>
    exact hputs ⟨.published, .fixture, product, spec, digest, data⟩ rfl (hfits.spec spec rfl)
  | putTemporary product spec digest data =>
    exact hputs ⟨.temporary, .temp, product, spec, digest, data⟩ rfl (hfits.spec spec rfl)
  | read uri => exact local_read h uri
  | discard uri => exact local_discard h uri
  | cleanupTemporary product spec keep => exact local_cleanup h product (hfits.spec spec rfl) keep

end Calls

end Storage
end Integrations
end MoneyMachine
