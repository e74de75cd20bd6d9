import MoneyMachine.Integrations.AssetStoreDiscipline

/-!
# AssetStorePlacement — placing an object among other calls

`_place_in` checks the place, writes a temporary, links it, looks again when the link is refused, and
unlinks the temporary in a final block.  Each part is shown among other calls that may do whatever a
call may do, from what it finds to what it leaves:

* `Mine`      : the file of the call, linked to its temporary only;
* `Placed`    : what the final block finds;
* `Returned`  : an object that is returned is in its place.
-/

namespace MoneyMachine
namespace Integrations
namespace Storage

open MoneyMachine.Domain
open MoneyMachine.Library
open MoneyMachine.Library.Disk

/-! ## Scripts that change the disk -/

section Changes

open Scripts

variable {ι : Type} {sha256 : Bytes → Text} {calls : ι → LocalCall} {i : ι}
  {kept : Path → Name → Prop}

/-- The script among the other calls. -/
abbrev Among {α : Type} (sha256 : Bytes → Text) (calls : ι → LocalCall) (i : ι)
    (kept : Path → Name → Prop) (post : Except Raised α → Disk ι → Prop) (x : DiskScript α)
    (d : Disk ι) : Prop :=
  x.Holds (Disk.perform fail i) (Relies i kept) (May sha256 calls i) post d

/-- An assertion that the other calls and every harmless operation keep. -/
structure Steady (i : ι) (kept : Path → Name → Prop) (A : Disk ι → Prop) : Prop where
  relies : ∀ d d', Relies i kept d d' → A d → A d'
  harmless : ∀ d op d', Harmless op → Change i d op d' → A d → A d'

/-- A script that only looks keeps what is steady. -/
theorem among_of_looks {α : Type} {A : Disk ι → Prop} (hA : Steady i kept A) {x : DiskScript α}
    (h : Looks x) {d : Disk ι} (hd : A d) :
    Among sha256 calls i kept (fun _ d => A d) x d := by
  have hmay : ∀ d op, Harmless op → May sha256 calls i d op := by
    intro d op hop
    cases op <;> first | exact hop.elim | exact trivial
  have hlooks : Among sha256 calls i kept (fun _ d => True ∧ A d) x d :=
    Script.holds_of_only h hmay hA.relies
      (fun d c op hop => hA.harmless d op _ hop (change_perform fail i d c op)) hd
  exact hlooks.mono (fun _ _ hpost => hpost.2)

/-! ### Assertions -/

/-- The object is in its place, with these bytes. -/
def Present (parent : Path) (name : Name) (data : Bytes) (d : Disk ι) : Prop :=
  ∃ inode file, d.node? (parent ++ [name]) = some (.file inode) ∧
    d.inodes[inode]? = some file ∧ file.bytes = data

/-- The temporary is there, and the call `i` created it. -/
def Temporary (i : ι) (parent : Path) (temp : Name) (d : Disk ι) : Prop :=
  ∃ inode file, d.node? (parent ++ [temp]) = some (.file inode) ∧
    d.inodes[inode]? = some file ∧ file.creator = i

/-- The file of the call `i`: it holds `bytes`, and no entry but its temporary is linked to it. -/
def Mine (i : ι) (parent : Path) (temp : Name) (inode : Nat) (bytes : Bytes) (d : Disk ι) : Prop :=
  d.inodes[inode]? = some ⟨bytes, i⟩ ∧ d.node? (parent ++ [temp]) = some (.file inode) ∧
    ∀ path, d.node? path = some (.file inode) → path = parent ++ [temp]

theorem Mine.temporary {parent : Path} {temp : Name} {inode : Nat} {bytes : Bytes} {d : Disk ι}
    (h : Mine i parent temp inode bytes d) : Temporary i parent temp d :=
  ⟨inode, ⟨bytes, i⟩, h.2.1, h.1, rfl⟩

/-- A harmless operation makes a directory at most. -/
theorem harmless_cases {d d' : Disk ι} {op : DiskOp} (hop : Harmless op) (h : Change i d op d') :
    d' = d ∨ ∃ path, d.node? path = none ∧ d' = d.add path .directory := by
  cases h with
  | none => exact Or.inl rfl
  | mkdir parent name hdir hfree => exact Or.inr ⟨_, hfree, rfl⟩
  | create => exact hop.elim
  | write => exact hop.elim
  | link => exact hop.elim
  | unlink => exact hop.elim

/-- No harmless operation changes a file, or which entries are linked to it. -/
theorem harmless_file {d d' : Disk ι} {op : DiskOp} (hop : Harmless op) (h : Change i d op d') :
    d'.inodes = d.inodes ∧
      ∀ path inode, d'.node? path = some (.file inode) ↔ d.node? path = some (.file inode) := by
  rcases harmless_cases hop h with rfl | ⟨path, hfree, rfl⟩
  · exact ⟨rfl, fun _ _ => Iff.rfl⟩
  · refine ⟨inodes_add d path .directory, ?_⟩
    intro other inode
    rw [node?_add _ hfree]
    split_ifs with hpath
    · subst hpath
      simp [hfree]
    · rfl

theorem steady_wired : Steady i kept (fun d : Disk ι => d.Wired) :=
  ⟨fun _ _ h hd => h.wired hd, fun _ _ _ _ h hd => h.wired hd⟩

theorem Steady.and {A B : Disk ι → Prop} (hA : Steady i kept A) (hB : Steady i kept B) :
    Steady i kept (fun d => A d ∧ B d) :=
  ⟨fun d d' h hd => ⟨hA.relies d d' h hd.1, hB.relies d d' h hd.2⟩,
    fun d op d' hop h hd => ⟨hA.harmless d op d' hop h hd.1, hB.harmless d op d' hop h hd.2⟩⟩

theorem steady_present (parent : Path) (name : Name) (data : Bytes) :
    Steady i kept (fun d : Disk ι => kept parent name → Present parent name data d) := by
  constructor
  · intro d d' h hd hkept
    rcases hd hkept with ⟨inode, file, hnode, hfile, hbytes⟩
    rcases h.kept parent name inode file hkept hnode hfile with ⟨hnode', hfile'⟩
    exact ⟨inode, file, hnode', hfile', hbytes⟩
  · intro d op d' hop h hd hkept
    rcases hd hkept with ⟨inode, file, hnode, hfile, hbytes⟩
    rcases harmless_file hop h with ⟨hinodes, hnodes⟩
    exact ⟨inode, file, (hnodes _ _).2 hnode, by rw [hinodes]; exact hfile, hbytes⟩

/-- An object that was opened is the object that is in its place. -/
theorem steady_opened (parent : Path) (name : Name) (inode : Nat) (file : Inode ι) :
    Steady i kept (fun d : Disk ι => kept parent name →
      d.node? (parent ++ [name]) = some (.file inode) ∧ d.inodes[inode]? = some file) := by
  constructor
  · intro d d' h hd hkept
    exact h.kept parent name inode file hkept (hd hkept).1 (hd hkept).2
  · intro d op d' hop h hd hkept
    rcases harmless_file hop h with ⟨hinodes, hnodes⟩
    exact ⟨(hnodes _ _).2 (hd hkept).1, by rw [hinodes]; exact (hd hkept).2⟩

theorem steady_temporary (parent : Path) {temp : Name} (htemp : isHex64 temp = false) :
    Steady i kept (Temporary i parent temp) := by
  constructor
  · rintro d d' h ⟨inode, file, hnode, hfile, hcreator⟩
    exact ⟨inode, file, h.temps parent temp inode file htemp hnode hfile hcreator,
      h.own inode file hfile hcreator, hcreator⟩
  · rintro d op d' hop h ⟨inode, file, hnode, hfile, hcreator⟩
    rcases harmless_file hop h with ⟨hinodes, hnodes⟩
    exact ⟨inode, file, (hnodes _ _).2 hnode, by rw [hinodes]; exact hfile, hcreator⟩

theorem steady_mine (parent : Path) {temp : Name} (htemp : isHex64 temp = false) (inode : Nat)
    (bytes : Bytes) : Steady i kept (Mine i parent temp inode bytes) := by
  constructor
  · rintro d d' h ⟨hfile, hnode, honly⟩
    refine ⟨h.own inode _ hfile rfl, h.temps parent temp inode _ htemp hnode hfile rfl, ?_⟩
    intro path hpath
    exact honly path (h.noNew inode _ path hfile rfl hpath)
  · rintro d op d' hop h ⟨hfile, hnode, honly⟩
    rcases harmless_file hop h with ⟨hinodes, hnodes⟩
    refine ⟨by rw [hinodes]; exact hfile, (hnodes _ _).2 hnode, ?_⟩
    intro path hpath
    exact honly path ((hnodes _ _).1 hpath)

/-! ### Reading -/

/-- What `readBlocks` returns is the file, when the file does not change while it is read. -/
theorem among_readBlocks {A : Disk ι → Prop} (hA : Steady i kept A) {inode : Nat} {whole : Bytes}
    {guarded : Prop}
    (hfile : ∀ d, A d → guarded → ∃ file, d.inodes[inode]? = some file ∧ file.bytes = whole)
    (patience : Nat) {chunks : Bytes} (hchunks : guarded → chunks <+: whole) {d : Disk ι} (hd : A d) :
    Among sha256 calls i kept (fun r d => A d ∧ ∀ data, r = .ok data → guarded → data = whole)
      (readBlocks inode patience chunks) d := by
  induction patience generalizing chunks d with
  | zero =>
    intro d' hd'
    exact ⟨hA.relies d d' hd' hd, fun data h => by cases h⟩
  | succ patience ih =>
    -- The answer is an empty block only at the end of the file.
    apply Script.holds_bind (fun r d => A d ∧ ∀ block, r = .ok block → guarded →
      chunks ++ block <+: whole ∧ (block = [] → chunks = whole))
    · apply Script.holds_request A (fun d' hd' => hA.relies d d' hd' hd)
        (fun _ _ => trivial)
      intro d c hd d' hd'
      have hstep := hA.harmless d (.read inode chunks.length blockSize) _ trivial
        (change_perform fail i d c _) hd
      refine ⟨hA.relies _ d' hd' hstep, ?_⟩
      intro block hblock hguarded
      rcases hfile d hd hguarded with ⟨file, hget, hbytes⟩
      rcases hchunks hguarded with ⟨rest, hrest⟩
      unfold perform at hblock
      cases hfault : c.fault with
      | some fault => simp [hfault] at hblock
      | none =>
        have hread : block = rest.take (min blockSize (max 1 c.amount)) := by
          simp only [hfault, act, hget, hbytes, ← hrest, List.drop_left, Except.mapError,
            Except.ok.injEq] at hblock
          exact hblock.symm
        constructor
        · refine ⟨rest.drop (min blockSize (max 1 c.amount)), ?_⟩
          rw [List.append_assoc, hread, List.take_append_drop, hrest]
        · intro hempty
          have hpos : 0 < min blockSize (max 1 c.amount) := by
            simp [blockSize]
          rw [hread, List.take_eq_nil_iff] at hempty
          rcases hempty with hzero | hnil
          · omega
          · rw [← hrest, hnil, List.append_nil]
    · intro block d hblock
      split_ifs with hempty
      · intro d' hd'
        refine ⟨(hblock d' hd').1, ?_⟩
        intro data hdata hguarded
        cases hdata
        exact ((hblock d' hd').2 block rfl hguarded).2 hempty
      · apply ih
        · intro hguarded
          exact ((hblock d (relies_refl i kept d)).2 block rfl hguarded).1
        · exact (hblock d (relies_refl i kept d)).1
    · intro e d hmid
      exact ⟨hmid.1, fun data h => by cases h⟩

/-- A final block that only looks. -/
theorem among_lastly {α : Type} {post : Except Raised α → Disk ι → Prop}
    (hsteady : ∀ r, Steady i kept (post r)) (herror : ∀ r e d, post r d → post (.error e) d)
    {x : DiskScript α} {cleanup : DiskScript Unit} {d : Disk ι}
    (h : Among sha256 calls i kept post x d) (hcleanup : Looks cleanup) :
    Among sha256 calls i kept post (x.lastly cleanup) d := by
  apply Script.holds_lastly post h
  intro r d hr
  have hd : post r d := hr d (relies_refl i kept d)
  apply (among_of_looks (hsteady r) hcleanup hd).mono
  intro done d hd
  cases done with
  | ok _ => exact hd
  | error e => exact herror r e d hd

theorem steady_const (p : Prop) : Steady i kept (fun _ : Disk ι => p) :=
  ⟨fun _ _ _ h => h, fun _ _ _ _ _ h => h⟩

/-- An object that is opened is in its place. -/
theorem among_openOptional {A : Disk ι → Prop} (hA : Steady i kept A)
    (hwired : ∀ d, A d → d.Wired) (parent : Path) (name : Name) {d : Disk ι} (hd : A d) :
    Among sha256 calls i kept
      (fun r d => A d ∧ ∀ inode, r = .ok (some inode) → kept parent name →
        ∃ file, d.node? (parent ++ [name]) = some (.file inode) ∧ d.inodes[inode]? = some file)
      (openOptional parent name) d := by
  apply Script.holds_handle (fun r d => A d ∧ ∀ inode, r = .ok (some inode) → kept parent name →
    ∃ file, d.node? (parent ++ [name]) = some (.file inode) ∧ d.inodes[inode]? = some file)
  · apply Script.holds_andThen (fun r d => A d ∧ ∀ inode, r = .ok inode → kept parent name →
      ∃ file, d.node? (parent ++ [name]) = some (.file inode) ∧ d.inodes[inode]? = some file)
    · apply Script.holds_request A (fun d' hd' => hA.relies d d' hd' hd) (fun _ _ => trivial)
      intro d c hd d' hd'
      have hstep := hA.harmless d (.openRead parent name) _ trivial (change_perform fail i d c _) hd
      refine ⟨hA.relies _ d' hd' hstep, ?_⟩
      intro inode hinode hkept
      -- The entry that was opened is linked to a file, and both stay.
      have hopened : d.node? (parent ++ [name]) = some (.file inode) ∧
          (d.perform fail i c (.openRead parent name)).2 = d := by
        unfold perform at hinode ⊢
        cases hfault : c.fault with
        | some fault => simp [hfault] at hinode
        | none =>
          simp only [hfault, act] at hinode ⊢
          split at hinode <;> simp_all [Except.mapError]
      rcases hopened with ⟨hnode, hsame⟩
      have hlt := (hwired d hd).inodes _ inode hnode
      rw [hsame] at hd'
      exact ⟨_, (hd'.kept parent name inode _ hkept hnode (List.getElem?_eq_getElem hlt))⟩
    · intro inode d hmid d' hd'
      refine ⟨(hmid d' hd').1, ?_⟩
      intro inode' hinode hkept
      cases hinode
      exact (hmid d' hd').2 inode rfl hkept
    · intro e d hmid
      exact ⟨hmid.1, fun inode hinode => by cases hinode⟩
  · intro opened d hmid
    exact hmid
  · intro e d hmid
    have hd : A d := (hmid d (relies_refl i kept d)).1
    have hnone : Among sha256 calls i kept
        (fun r d => A d ∧ ∀ inode, r = .ok (some inode) → kept parent name →
          ∃ file, d.node? (parent ++ [name]) = some (.file inode) ∧ d.inodes[inode]? = some file)
        (.ret none) d :=
      fun d' hd' => ⟨hA.relies d d' hd' hd, fun inode hinode => by cases hinode⟩
    have hraise : ∀ e, Among sha256 calls i kept
        (fun r d => A d ∧ ∀ inode, r = .ok (some inode) → kept parent name →
          ∃ file, d.node? (parent ++ [name]) = some (.file inode) ∧ d.inodes[inode]? = some file)
        (.raise e) d :=
      fun e d' hd' => ⟨hA.relies d d' hd' hd, fun inode hinode => by cases hinode⟩
    cases e with
    | os errno =>
      dsimp only
      split_ifs
      · exact hnone
      · exact hraise _
    | value message => exact hraise _
    | interrupted => exact hraise _

/-- What `_read_optional` finds in the place of an object that nobody deletes is there to stay. -/
theorem among_readOptional {A : Disk ι → Prop} (hA : Steady i kept A)
    (hwired : ∀ d, A d → d.Wired) (patience : Nat) (parent : Path) (name : Name) {d : Disk ι}
    (hd : A d) :
    Among sha256 calls i kept
      (fun r d => A d ∧ ∀ data, r = .ok (some data) → kept parent name → Present parent name data d)
      (readOptional patience parent name) d := by
  apply Script.holds_bind _ (among_openOptional hA hwired parent name hd)
  · intro opened d hopened
    rcases hopened d (relies_refl i kept d) with ⟨hd, hfound⟩
    cases opened with
    | none => exact fun d' hd' => ⟨hA.relies d d' hd' hd, fun data hdata => by cases hdata⟩
    | some inode =>
      have hwhole : ∃ file : Inode ι, kept parent name →
          d.node? (parent ++ [name]) = some (.file inode) ∧ d.inodes[inode]? = some file := by
        by_cases hkept : kept parent name
        · rcases hfound inode rfl hkept with ⟨file, hfile⟩
          exact ⟨file, fun _ => hfile⟩
        · exact ⟨⟨[], i⟩, fun h => absurd h hkept⟩
      rcases hwhole with ⟨file, hfile⟩
      -- While the object stays in its place its blocks are the blocks of one file.
      have hsteady := hA.and (steady_opened parent name inode file)
      have hread : Among sha256 calls i kept
          (fun r d => (A d ∧ (kept parent name → d.node? (parent ++ [name]) = some (.file inode) ∧
            d.inodes[inode]? = some file)) ∧
            ∀ data, r = .ok data → kept parent name → data = file.bytes)
          (readBlocks inode patience []) d :=
        among_readBlocks hsteady (fun d hd hkept => ⟨file, (hd.2 hkept).2, rfl⟩) patience
          (fun _ => List.nil_prefix) ⟨hd, hfile⟩
      apply Script.holds_andThen _ (among_lastly ?_ ?_ hread (looks_close _))
      · intro data d hdata d' hd'
        rcases hdata d' hd' with ⟨⟨hA', hplace⟩, hbytes⟩
        refine ⟨hA', ?_⟩
        intro data' hdata' hkept
        cases hdata'
        exact ⟨inode, file, (hplace hkept).1, (hplace hkept).2, (hbytes data rfl hkept).symm⟩
      · intro e d hmid
        exact ⟨hmid.1.1, fun data hdata => by cases hdata⟩
      · exact fun r => hsteady.and (steady_const _)
      · exact fun r e d hd => ⟨hd.1, fun data hdata => by cases hdata⟩
  · intro e d hmid
    exact ⟨hmid.1, fun data hdata => by cases hdata⟩

/-! ### Placing -/

/-- The final block still finds the temporary, and an object that is returned is in its place. -/
def Placed (i : ι) (kept : Path → Name → Prop) (parent : Path) (temp digest : Name) (data : Bytes)
    (object : StoredObject) (r : Except Raised StoredObject) (d : Disk ι) : Prop :=
  (Temporary i parent temp d ∧ d.Wired) ∧
    ∀ object', r = .ok object' →
      object' = object ∧ (kept parent digest → Present parent digest data d)

theorem mine_append {parent : Path} {temp : Name} {inode : Nat} {bytes : Bytes} {d : Disk ι}
    (h : Mine i parent temp inode bytes d) (chunk : Bytes) :
    Mine i parent temp inode (bytes ++ chunk) (d.append inode chunk) := by
  rcases h with ⟨hfile, hnode, honly⟩
  exact ⟨by simp [append, hfile], hnode, honly⟩

section Placement

variable {parent : Path} {temp digest : Name} {data : Bytes} {object : StoredObject}

theorem steady_found (htemp : isHex64 temp = false) :
    Steady i kept (fun d : Disk ι => Temporary i parent temp d ∧ d.Wired) :=
  (steady_temporary parent htemp).and steady_wired

theorem among_writeAll (htemp : isHex64 temp = false) {inode : Nat} (turns : Nat)
    {view bytes : Bytes} {d : Disk ι} (hmine : Mine i parent temp inode bytes d) (hd : d.Wired) :
    Among sha256 calls i kept
      (fun r d => (Temporary i parent temp d ∧ d.Wired) ∧
        (r = .ok () → Mine i parent temp inode (bytes ++ view) d))
      (writeAll inode turns view) d := by
  have hsteady : Steady i kept (fun d : Disk ι => Mine i parent temp inode bytes d ∧ d.Wired) :=
    (steady_mine parent htemp inode bytes).and steady_wired
  induction turns generalizing view bytes d with
  | zero =>
    cases view with
    | nil =>
      intro d' hd'
      have hkeeps := hsteady.relies d d' hd' ⟨hmine, hd⟩
      exact ⟨⟨hkeeps.1.temporary, hkeeps.2⟩, fun _ => by simpa using hkeeps.1⟩
    | cons b view =>
      intro d' hd'
      have hkeeps := hsteady.relies d d' hd' ⟨hmine, hd⟩
      exact ⟨⟨hkeeps.1.temporary, hkeeps.2⟩, fun h => by cases h⟩
  | succ turns ih =>
    cases view with
    | nil =>
      intro d' hd'
      have hkeeps := hsteady.relies d d' hd' ⟨hmine, hd⟩
      exact ⟨⟨hkeeps.1.temporary, hkeeps.2⟩, fun _ => by simpa using hkeeps.1⟩
    | cons b view =>
      -- What was written is a beginning of the view, and the rest of it is written next.
      apply Script.holds_bind (fun r d => (Temporary i parent temp d ∧ d.Wired) ∧
        ∀ written, r = .ok written →
          Mine i parent temp inode (bytes ++ (b :: view).take written) d)
      · apply Script.holds_request
          (fun d => Mine i parent temp inode bytes d ∧ d.Wired)
          (fun d' hd' => hsteady.relies d d' hd' ⟨hmine, hd⟩)
        · rintro d ⟨⟨hfile, hnode, honly⟩, -⟩
          refine ⟨⟨_, hfile, rfl⟩, ?_⟩
          intro parent' name hname
          rw [(path_inj (honly _ hname)).2]
          exact htemp
        · rintro d c ⟨hmine, hd⟩ d' hd'
          have hwritten : ∀ chunk, Mine i parent temp inode (bytes ++ chunk) d' →
              Temporary i parent temp d' := fun chunk h => h.temporary
          have hwired : (d.perform fail i c (.write inode (b :: view))).2.Wired :=
            (change_perform fail i d c (.write inode (b :: view))).wired hd
          unfold perform at hd' hwired ⊢
          cases hfault : c.fault with
          | some fault =>
            simp only [hfault] at hd' hwired ⊢
            have hkeeps := hsteady.relies d d' hd' ⟨hmine, hd⟩
            exact ⟨⟨hkeeps.1.temporary, hkeeps.2⟩, fun written h => by cases h⟩
          | none =>
            simp only [hfault, act, Except.mapError] at hd' hwired ⊢
            have hkeeps := (steady_mine parent htemp inode _).relies _ d' hd'
              (mine_append hmine _)
            refine ⟨⟨hwritten _ hkeeps, hd'.wired hwired⟩, ?_⟩
            intro written h
            cases h
            exact hkeeps
      · intro written d hmid
        rcases hmid d (relies_refl i kept d) with ⟨⟨htemporary, hd⟩, hwritten⟩
        split_ifs
        · intro d' hd'
          have hkeeps := (steady_found htemp).relies d d' hd' ⟨htemporary, hd⟩
          exact ⟨hkeeps, fun h => by cases h⟩
        · have hnext : Among sha256 calls i kept
              (fun r d => (Temporary i parent temp d ∧ d.Wired) ∧ (r = .ok () →
                Mine i parent temp inode
                  (bytes ++ (b :: view).take written ++ (b :: view).drop written) d))
              (writeAll inode turns ((b :: view).drop written)) d :=
            ih (hwritten written rfl) hd ((steady_mine parent htemp inode _).and steady_wired)
          simpa only [List.append_assoc, List.take_append_drop] using hnext
      · intro e d hmid
        exact ⟨hmid.1, fun h => by cases h⟩

theorem steady_placed (htemp : isHex64 temp = false) (r : Except Raised StoredObject) :
    Steady i kept (Placed (ι := ι) i kept parent temp digest data object r) := by
  have hpresent : Steady i kept (fun d : Disk ι => kept parent digest → Present parent digest data d) :=
    steady_present parent digest data
  have hfound : Steady i kept (fun d : Disk ι => Temporary i parent temp d ∧ d.Wired) :=
    steady_found htemp
  constructor
  · intro d d' h hd
    refine ⟨hfound.relies d d' h hd.1, ?_⟩
    intro object' hobject
    exact ⟨(hd.2 object' hobject).1, hpresent.relies d d' h (hd.2 object' hobject).2⟩
  · intro d op d' hop h hd
    refine ⟨hfound.harmless d op d' hop h hd.1, ?_⟩
    intro object' hobject
    exact ⟨(hd.2 object' hobject).1, hpresent.harmless d op d' hop h (hd.2 object' hobject).2⟩

/-- Raising leaves the temporary to the final block. -/
theorem placed_error {r : Except Raised StoredObject} {e : Raised} {d : Disk ι}
    (h : Placed i kept parent temp digest data object r d) :
    Placed i kept parent temp digest data object (.error e) d :=
  ⟨h.1, fun object' h => by cases h⟩

/-- The directory is synchronised and the object returned. -/
theorem among_synced (htemp : isHex64 temp = false) {d : Disk ι}
    (hd : Placed i kept parent temp digest data object (.ok object) d) :
    Among sha256 calls i kept (Placed i kept parent temp digest data object)
      (request (.fsync (.directory parent)) >>= fun _ => .ret object) d := by
  apply Script.holds_bind (fun _ => Placed i kept parent temp digest data object (.ok object))
  · exact among_of_looks (steady_placed htemp _) (looks_request (by trivial)) hd
  · exact fun _ d hmid => hmid
  · exact fun e d hmid => placed_error hmid

theorem among_compareCurrent (htemp : isHex64 temp = false) (patience : Nat) {d : Disk ι}
    (hd : Temporary i parent temp d ∧ d.Wired) :
    Among sha256 calls i kept (Placed i kept parent temp digest data object)
      (compareCurrent patience parent digest data object) d := by
  apply Script.holds_bind _
    (among_readOptional (steady_found htemp) (fun d hd => hd.2) patience parent digest hd)
  · intro current d hmid
    rcases hmid d (relies_refl i kept d) with ⟨hd, hfound⟩
    have hraise : ∀ e, Among sha256 calls i kept (Placed i kept parent temp digest data object)
        (.raise e) d :=
      fun e d' hd' => ⟨(steady_found htemp).relies d d' hd' hd, fun object' h => by cases h⟩
    cases current with
    | none => exact hraise _
    | some bytes =>
      dsimp only
      split_ifs with hsame
      · -- The same object is already in the place.
        intro d' hd'
        refine ⟨(steady_found htemp).relies d d' hd' hd, ?_⟩
        intro object' hobject
        cases hobject
        refine ⟨rfl, ?_⟩
        intro hkept
        rw [← hsame]
        exact (hmid d' hd').2 bytes rfl hkept
      · have hcollision : refuseCollision bytes data = .error (.value "storage collision") := by
          simp [refuseCollision, hsame]
        rw [hcollision]
        exact hraise _
  · intro e d hmid
    exact ⟨hmid.1, fun object' h => by cases h⟩

theorem among_linkObject (htemp : isHex64 temp = false) (hdigest : isHex64 digest = true)
    (hsha : sha256 data = digest) (patience : Nat) {inode : Nat} {d : Disk ι}
    (hmine : Mine i parent temp inode data d) (hd : d.Wired) :
    Among sha256 calls i kept (Placed i kept parent temp digest data object)
      (linkObject patience parent temp digest data object) d := by
  have hpre : Steady i kept (fun d : Disk ι => Mine i parent temp inode data d ∧ d.Wired) :=
    (steady_mine parent htemp inode data).and steady_wired
  have hlink : Among sha256 calls i kept
      (fun r d => (Temporary i parent temp d ∧ d.Wired) ∧
        (r = .ok () → kept parent digest → Present parent digest data d))
      (request (.link parent temp digest)) d := by
    apply Script.holds_request (fun d => Mine i parent temp inode data d ∧ d.Wired)
      (fun d' hd' => hpre.relies d d' hd' ⟨hmine, hd⟩)
    · rintro d ⟨⟨hfile, hnode, honly⟩, -⟩ inode' hnode'
      rw [hnode] at hnode'
      cases hnode'
      exact ⟨_, hfile, rfl, hsha⟩
    · rintro d c ⟨hmine, hd⟩ d' hd'
      have hwired : (d.perform fail i c (.link parent temp digest)).2.Wired :=
        (change_perform fail i d c (.link parent temp digest)).wired hd
      have hfailed : ∀ r : Except Raised Unit, r ≠ .ok () → Relies i kept d d' →
          (Temporary i parent temp d' ∧ d'.Wired) ∧
            (r = .ok () → kept parent digest → Present parent digest data d') := by
        intro r hr hrely
        have hkeeps := hpre.relies d d' hrely ⟨hmine, hd⟩
        exact ⟨⟨hkeeps.1.temporary, hkeeps.2⟩, fun h => absurd h hr⟩
      have hnode := hmine.2.1
      unfold perform at hd' hwired ⊢
      cases hfault : c.fault with
      | some fault =>
        simp only [hfault] at hd' ⊢
        exact hfailed _ (by simp) hd'
      | none =>
        cases hrefuses : d.refuses parent digest with
        | some errno =>
          simp only [hfault, act, hnode, hrefuses, Except.mapError] at hd' ⊢
          exact hfailed _ (by simp) hd'
        | none =>
          simp only [hfault, act, hnode, hrefuses, Except.mapError] at hd' hwired ⊢
          -- The file has both names now.
          rcases refuses_eq_none_iff.1 hrefuses with ⟨-, -, hfree⟩
          have hother : parent ++ [digest] ≠ parent ++ [temp] := by
            intro hpath
            rw [(path_inj hpath).2, htemp] at hdigest
            cases hdigest
          have hfile : (d.add (parent ++ [digest]) (.file inode)).inodes[inode]? =
              some ⟨data, i⟩ := by
            simpa using hmine.1
          have htemporary : Temporary i parent temp
              (d.add (parent ++ [digest]) (.file inode)) :=
            ⟨inode, _, by rw [node?_add _ hfree, if_neg hother]; exact hnode, hfile, rfl⟩
          have hpresent : Present parent digest data
              (d.add (parent ++ [digest]) (.file inode)) :=
            ⟨inode, _, by rw [node?_add _ hfree, if_pos rfl], hfile, rfl⟩
          refine ⟨(steady_found htemp).relies _ d' hd' ⟨htemporary, hwired⟩, ?_⟩
          intro _
          exact (steady_present parent digest data).relies _ d' hd' (fun _ => hpresent)
  apply Script.holds_bind _ (Script.holds_attempt hlink)
  · intro linked d hmid
    cases linked with
    | ok _ =>
      apply among_synced htemp
      rcases hmid d (relies_refl i kept d) with ⟨hfound, hpresent⟩
      exact ⟨hfound, fun object' h => by cases h; exact ⟨rfl, hpresent rfl⟩⟩
    | error e =>
      have hfound := (hmid d (relies_refl i kept d)).1
      have hraise : ∀ e, Among sha256 calls i kept
          (Placed i kept parent temp digest data object) (.raise e) d :=
        fun e d' hd' => ⟨(hmid d' hd').1, fun object' h => by cases h⟩
      cases e with
      | value message => exact hraise _
      | interrupted => exact hraise _
      | os errno =>
        cases errno with
        | exist => exact among_compareCurrent htemp patience hfound
        | noent => exact hraise _
        | other => exact hraise _
  · intro e d hmid
    exact hmid.elim

theorem among_fill (htemp : isHex64 temp = false) (hdigest : isHex64 digest = true)
    (hsha : sha256 data = digest) (patience : Nat) {inode : Nat} {d : Disk ι}
    (hmine : Mine i parent temp inode [] d) (hd : d.Wired) :
    Among sha256 calls i kept (Placed i kept parent temp digest data object)
      (fill patience parent temp digest data object inode) d := by
  apply Script.holds_bind _ (among_writeAll htemp data.length hmine hd)
  · intro _ d hmid
    rcases hmid d (relies_refl i kept d) with ⟨hfound, hwritten⟩
    have hsteady : Steady i kept (fun d : Disk ι => Mine i parent temp inode data d ∧ d.Wired) :=
      (steady_mine parent htemp inode data).and steady_wired
    apply Script.holds_bind (fun r d => Mine i parent temp inode data d ∧ d.Wired)
    · exact among_of_looks hsteady (looks_request (by trivial)) ⟨hwritten rfl, hfound.2⟩
    · intro _ d hmid
      rcases hmid d (relies_refl i kept d) with ⟨hmine, hd⟩
      exact among_linkObject htemp hdigest hsha patience hmine hd
    · intro e d hmid
      exact ⟨⟨hmid.1.temporary, hmid.2⟩, fun object' h => by cases h⟩
  · intro e d hmid
    exact ⟨hmid.1, fun object' h => by cases h⟩

/-- The object that the call returns is in its place. -/
def Returned (kept : Path → Name → Prop) (parent : Path) (digest : Name) (data : Bytes)
    (object : StoredObject) (r : Except Raised StoredObject) (d : Disk ι) : Prop :=
  ∀ object', r = .ok object' → object' = object ∧ (kept parent digest → Present parent digest data d)

theorem steady_returned (r : Except Raised StoredObject) :
    Steady i kept (Returned (ι := ι) kept parent digest data object r) := by
  have hpresent : Steady i kept
      (fun d : Disk ι => kept parent digest → Present parent digest data d) :=
    steady_present parent digest data
  constructor
  · intro d d' h hd object' hobject
    exact ⟨(hd object' hobject).1, hpresent.relies d d' h (hd object' hobject).2⟩
  · intro d op d' hop h hd object' hobject
    exact ⟨(hd object' hobject).1, hpresent.harmless d op d' hop h (hd object' hobject).2⟩

theorem returned_error (e : Raised) (d : Disk ι) :
    Returned kept parent digest data object (.error e) d :=
  fun object' h => by cases h

/-- `_unlink_temp` in the final block. -/
theorem among_unlinkTemp (htemp : isHex64 temp = false) (hdigest : isHex64 digest = true)
    (hdirectory : (calls i).call.directory parent) {r : Except Raised StoredObject} {d : Disk ι}
    (hd : Placed i kept parent temp digest data object r d) :
    Among sha256 calls i kept
      (fun _ d => Returned kept parent digest data object r d) (unlinkTemp parent temp) d := by
  apply Script.holds_handle (fun _ d => Returned kept parent digest data object r d)
  · apply Script.holds_request (Placed i kept parent temp digest data object r)
      (fun d' hd' => (steady_placed htemp r).relies d d' hd' hd)
    · intro d hd
      refine ⟨hdirectory, fun hhex => ?_, fun _ inode file hnode hfile => ?_⟩
      · rw [htemp] at hhex
        cases hhex
      · rcases hd.1.1 with ⟨inode', file', hnode', hfile', hcreator⟩
        rw [hnode] at hnode'
        cases hnode'
        rw [hfile] at hfile'
        cases hfile'
        exact hcreator
    · intro d c hd
      have hreturned : Returned kept parent digest data object r d := hd.2
      -- The object has another name than the temporary.
      have hafter : Returned kept parent digest data object r
          (d.perform fail i c (.unlink parent temp)).2 := by
        have hchange := change_perform fail i d c (.unlink parent temp)
        generalize (d.perform fail i c (.unlink parent temp)).2 = d' at hchange ⊢
        cases hchange with
        | none => exact hreturned
        | unlink _ _ inode hnode =>
          intro object' hobject
          refine ⟨(hreturned object' hobject).1, ?_⟩
          intro hkept
          rcases (hreturned object' hobject).2 hkept with ⟨inode', file, hplace, hfile, hbytes⟩
          refine ⟨inode', file, ?_, hfile, hbytes⟩
          rw [node?_remove, if_neg]
          · exact hplace
          · intro hpath
            rw [← (path_inj hpath).2, htemp] at hdigest
            cases hdigest
      exact fun d' hd' => (steady_returned (i := i) r).relies _ d' hd' hafter
  · exact fun _ d hd => hd
  · intro e d hmid
    have hd := hmid d (relies_refl i kept d)
    have hend : ∀ x : DiskScript Unit, Looks x →
        Among sha256 calls i kept (fun _ d => Returned kept parent digest data object r d) x d :=
      fun x hx => among_of_looks (steady_returned r) hx hd
    cases e with
    | value message => exact hend _ trivial
    | interrupted => exact hend _ trivial
    | os errno =>
      dsimp only
      split_ifs
      · exact hend _ trivial
      · exact hend _ trivial

/-- A new temporary is the call's own. -/
theorem among_create (htemp : isHex64 temp = false) {d : Disk ι} (hd : d.Wired) :
    Among sha256 calls i kept
      (fun r d => d.Wired ∧ ∀ inode, r = .ok inode → Mine i parent temp inode [] d)
      (orMapped (request (.create parent temp))) d := by
  apply Script.holds_handle
    (fun r d => d.Wired ∧ ∀ inode, r = .ok inode → Mine i parent temp inode [] d)
  · apply Script.holds_request Wired (fun d' hd' => hd'.wired hd)
    · exact fun _ _ => htemp
    intro d c hd d' hd'
    have hwired : (d.perform fail i c (.create parent temp)).2.Wired :=
      (change_perform fail i d c (.create parent temp)).wired hd
    refine ⟨hd'.wired hwired, ?_⟩
    intro inode hinode
    have hmine : Mine i parent temp inode [] (d.perform fail i c (.create parent temp)).2 := by
      unfold perform at hinode ⊢
      cases hfault : c.fault with
      | some fault => simp [hfault] at hinode
      | none =>
        cases hrefuses : d.refuses parent temp with
        | some errno => simp [hfault, act, hrefuses, Except.mapError] at hinode
        | none =>
          rcases refuses_eq_none_iff.1 hrefuses with ⟨-, -, hfree⟩
          simp only [hfault, act, hrefuses, Except.mapError, Except.ok.injEq] at hinode ⊢
          subst hinode
          have hnode : ∀ path, ({ d.add (parent ++ [temp]) (.file d.inodes.length) with
              inodes := d.inodes ++ [⟨[], i⟩] } : Disk ι).node? path =
                if parent ++ [temp] = path then some (.file d.inodes.length)
                else d.node? path :=
            node?_add _ hfree
          refine ⟨by simp, by rw [hnode, if_pos rfl], ?_⟩
          intro path hpath
          rw [hnode] at hpath
          split_ifs at hpath with hsame
          · exact hsame.symm
          · exact absurd (hd.inodes path _ hpath) (Nat.lt_irrefl _)
    exact (steady_mine parent htemp inode []).relies _ d' hd' hmine
  · exact fun inode d hmid => hmid
  · intro e d hmid
    have hd := (hmid d (relies_refl i kept d)).1
    cases e with
    | value message => exact fun d' hd' => ⟨hd'.wired hd, fun inode h => by cases h⟩
    | interrupted => exact fun d' hd' => ⟨hd'.wired hd, fun inode h => by cases h⟩
    | os errno => exact fun d' hd' => ⟨hd'.wired hd, fun inode h => by cases h⟩

theorem among_place (htemp : isHex64 temp = false) (hdigest : isHex64 digest = true)
    (hsha : sha256 data = digest) (hdirectory : (calls i).call.directory parent) (patience : Nat)
    {d : Disk ι} (hd : d.Wired) :
    Among sha256 calls i kept (Returned kept parent digest data object)
      (place patience parent temp digest data object) d := by
  apply Script.holds_bind _ (among_create htemp hd)
  · intro inode d hmid
    rcases hmid d (relies_refl i kept d) with ⟨hd, hmine⟩
    apply Script.holds_lastly _ (among_fill htemp hdigest hsha patience (hmine inode rfl) hd)
    intro r d hr
    have hplaced := hr d (relies_refl i kept d)
    apply Script.holds_bind (fun _ d => Placed i kept parent temp digest data object r d)
    · exact among_of_looks (steady_placed htemp r) (looks_close _) hplaced
    · intro _ d hmid
      have hplaced := hmid d (relies_refl i kept d)
      apply (among_unlinkTemp htemp hdigest hdirectory hplaced).mono
      intro done d hreturned
      cases done with
      | ok _ => exact hreturned
      | error e => exact returned_error e d
    · exact fun e d _ => returned_error e d
  · exact fun e d _ => returned_error e d

theorem among_placeIn (htemp : isHex64 temp = false) (hdigest : isHex64 digest = true)
    (hsha : sha256 data = digest) (hdirectory : (calls i).call.directory parent) (patience : Nat)
    {d : Disk ι} (hd : d.Wired) :
    Among sha256 calls i kept (Returned kept parent digest data object)
      (placeIn patience parent temp digest data object) d := by
  apply Script.holds_bind _
    (among_readOptional steady_wired (fun d hd => hd) patience parent digest hd)
  · intro existing d hmid
    have hd := (hmid d (relies_refl i kept d)).1
    have hplace : Among sha256 calls i kept (Returned kept parent digest data object)
        (place patience parent temp digest data object) d :=
      among_place htemp hdigest hsha hdirectory patience hd
    cases existing with
    | none => exact hplace
    | some bytes =>
      dsimp only
      split_ifs with hsame
      · intro d' hd' object' hobject
        cases hobject
        refine ⟨rfl, ?_⟩
        intro hkept
        rw [← hsame]
        exact (hmid d' hd').2 bytes rfl hkept
      · have hcollision : refuseCollision bytes data = .error (.value "storage collision") := by
          simp [refuseCollision, hsame]
        rw [hcollision]
        exact fun d' hd' => returned_error _ d'
  · exact fun e d _ => returned_error e d

end Placement

end Changes

end Storage
end Integrations
end MoneyMachine
