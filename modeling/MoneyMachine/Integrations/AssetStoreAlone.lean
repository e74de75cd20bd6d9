import MoneyMachine.Integrations.LocalAssetStore

/-!
# AssetStoreAlone — one call after the other

What the scripts of the local store do when nothing disturbs them: no other call, no fault, and reads
and writes that move as much as they can.
-/

namespace MoneyMachine
namespace Integrations
namespace Storage

open MoneyMachine.Domain
open MoneyMachine.Library
open MoneyMachine.Library.Disk
open Scripts

/-- No fault, and whole blocks. -/
def quiet : Choice :=
  ⟨none, blockSize⟩

/-- A script alone on the disk. -/
abbrev alone {ι α : Type} (i : ι) (x : DiskScript α) (d : Disk ι) : Except Raised α × Disk ι :=
  x.run (Disk.perform fail i) quiet d

section Alone

variable {ι : Type} {i : ι} {d : Disk ι}

theorem perform_quiet (op : DiskOp) :
    d.perform fail i quiet op =
      ((d.act i blockSize op).1.mapError Raised.os, (d.act i blockSize op).2) := rfl

/-! ## Directories -/

/-- Every directory on the way is there. -/
def Walkable (d : Disk ι) : Path → List Name → Prop
  | _, [] => True
  | current, name :: rest =>
    isDots name = false ∧ d.node? (current ++ [name]) = some .directory ∧
      Walkable d (current ++ [name]) rest

theorem perform_close (handle : Handle) :
    d.perform fail i quiet (.close handle) = (.ok (), d) := rfl

theorem alone_openRoot : alone i openRoot d = (.ok (), d) := by
  simp [openRoot, onOSError, Script.run_handle, request, perform_quiet, act, Except.mapError]

theorem alone_walk {current : Path} {parts : List Name} (h : Walkable d current parts) :
    alone i (walk current parts) d = (.ok (current ++ parts), d) := by
  induction parts generalizing current with
  | nil => simp [walk]
  | cons name rest ih =>
    rcases h with ⟨hdots, hnode, hrest⟩
    have hopen : d.perform fail i quiet (.openDirectory current name) = (.ok (), d) := by
      simp [perform_quiet, act, hnode, Except.mapError]
    have hnext := ih hrest
    simp only [walk, hdots, Bool.false_eq_true, if_false, Script.run_bind, onOSError,
      Script.run_handle, request, Script.run_request, hopen, perform_close]
    simpa using hnext

theorem alone_openDir {parts : List Name} (h : Walkable d [] parts) :
    alone i (openDir parts) d = (.ok parts, d) := by
  have hwalk : alone i (walk [] parts) d = (.ok parts, d) := alone_walk h
  simp only [openDir, Script.run_bind, alone_openRoot]
  exact hwalk

/-- The directories of an entry are there. -/
theorem walkable_of_wired (hd : d.Wired) {a b c name : Name} {node : Node}
    (hnode : d.node? ([a, b, c] ++ [name]) = some node) (ha : isDots a = false)
    (hb : isDots b = false) (hc : isDots c = false) : Walkable d [] [a, b, c] := by
  have hdirectory : ∀ parent : Path, parent ≠ [] → d.isDirectory parent = true →
      d.node? parent = some .directory := by
    intro parent hne hdir
    simpa [isDirectory, hne] using hdir
  have habc : d.node? ([a, b] ++ [c]) = some .directory :=
    hdirectory _ (by simp) (hd.parents _ _ _ hnode)
  have hab : d.node? ([a] ++ [b]) = some .directory :=
    hdirectory _ (by simp) (hd.parents _ _ _ habc)
  have ha' : d.node? ([] ++ [a]) = some .directory :=
    hdirectory _ (by simp) (hd.parents _ _ _ hab)
  exact ⟨ha, ha', hb, hab, hc, habc, trivial⟩

/-- A directory on the way is missing: the walk says so and changes nothing. -/
theorem alone_walk_missing {current : Path} {parts : List Name} (h : ¬ Walkable d current parts)
    (hdots : ∀ name ∈ parts, isDots name = false)
    (hfiles : ∀ n inode, d.node? (current ++ parts.take (n + 1)) ≠ some (.file inode)) :
    ∃ e, alone i (walk current parts) d = (.error e, d) ∧
      ((∀ name ∈ parts, name.length ≤ nameMax) → e = .value "storage missing") := by
  induction parts generalizing current with
  | nil => exact absurd trivial h
  | cons name rest ih =>
    have hname := hdots name List.mem_cons_self
    cases hnode : d.node? (current ++ [name]) with
    | none =>
      have hopen : d.perform fail i quiet (.openDirectory current name) =
          (.error (.os (missing name)), d) := by
        simp [perform_quiet, act, hnode, Except.mapError]
      refine ⟨mapped (missing name), ?_, ?_⟩
      · simp only [walk, hname, Bool.false_eq_true, if_false, Script.run_bind, onOSError,
          Script.run_handle, request, Script.run_request, hopen, perform_close]
        rfl
      · intro hlength
        have hle := hlength name List.mem_cons_self
        simp [missing, not_lt.2 hle, mapped]
    | some node =>
      cases node with
      | file inode => exact absurd (by simpa using hnode) (hfiles 0 inode)
      | directory =>
        have hopen : d.perform fail i quiet (.openDirectory current name) = (.ok (), d) := by
          simp [perform_quiet, act, hnode, Except.mapError]
        have hrest : ¬ Walkable d (current ++ [name]) rest :=
          fun hwalk => h ⟨hname, hnode, hwalk⟩
        rcases ih hrest (fun other hmem => hdots other (List.mem_cons_of_mem name hmem))
          (fun n inode => by simpa using hfiles (n + 1) inode) with ⟨e, hrun, he⟩
        refine ⟨e, ?_, fun hlength => he
          (fun other hmem => hlength other (List.mem_cons_of_mem name hmem))⟩
        simp only [walk, hname, Bool.false_eq_true, if_false, Script.run_bind, onOSError,
          Script.run_handle, request, Script.run_request, hopen, perform_close]
        exact hrun

theorem alone_openDir_missing {parts : List Name} (h : ¬ Walkable d [] parts)
    (hdots : ∀ name ∈ parts, isDots name = false)
    (hfiles : ∀ n inode, d.node? (parts.take (n + 1)) ≠ some (.file inode)) :
    ∃ e, alone i (openDir parts) d = (.error e, d) ∧
      ((∀ name ∈ parts, name.length ≤ nameMax) → e = .value "storage missing") := by
  rcases alone_walk_missing (i := i) h hdots hfiles with ⟨e, hrun, he⟩
  refine ⟨e, ?_, he⟩
  simp only [openDir, Script.run_bind, alone_openRoot]
  exact hrun

/-- Directories were added, and nothing else. -/
structure OnlyDirectories (d d' : Disk ι) (depth : Nat) : Prop where
  inodes : d'.inodes = d.inodes
  files : ∀ path inode, d'.node? path = some (.file inode) ↔ d.node? path = some (.file inode)
  directories : ∀ path, d.node? path = some .directory → d'.node? path = some .directory
  shallow : ∀ path, d'.node? path = some .directory →
    d.node? path = some .directory ∨ path.length ≤ depth
  wired : d.Wired → d'.Wired

theorem onlyDirectories_refl (d : Disk ι) (depth : Nat) : OnlyDirectories d d depth :=
  ⟨rfl, fun _ _ => Iff.rfl, fun _ h => h, fun _ h => Or.inl h, fun h => h⟩

theorem OnlyDirectories.trans {d' d'' : Disk ι} {depth : Nat} (h : OnlyDirectories d d' depth)
    (h' : OnlyDirectories d' d'' depth) : OnlyDirectories d d'' depth := by
  refine ⟨h'.inodes.trans h.inodes, fun path inode => (h'.files path inode).trans (h.files path inode),
    fun path hpath => h'.directories path (h.directories path hpath), ?_,
    fun hd => h'.wired (h.wired hd)⟩
  intro path hpath
  rcases h'.shallow path hpath with hold | hle
  · exact h.shallow path hold
  · exact Or.inr hle

theorem onlyDirectories_add {parent : Path} {name : Name} {depth : Nat}
    (hdir : d.isDirectory parent = true) (hfree : d.node? (parent ++ [name]) = none)
    (hdepth : (parent ++ [name]).length ≤ depth) :
    OnlyDirectories d (d.add (parent ++ [name]) .directory) depth := by
  have hnode := node?_add (d := d) .directory hfree
  refine ⟨inodes_add d _ _, ?_, ?_, ?_, ?_⟩
  · intro path inode
    rw [hnode]
    split_ifs with hpath
    · subst hpath
      simp [hfree]
    · rfl
  · intro path hpath
    rw [hnode]
    split_ifs
    · rfl
    · exact hpath
  · intro path hpath
    rw [hnode] at hpath
    split_ifs at hpath with hsame
    · exact Or.inr (hsame ▸ hdepth)
    · exact Or.inl hpath
  · exact fun hd => wired_add hd .directory hdir hfree (fun inode hnode => by cases hnode)

/-- `_ensure_dirs` makes the directories that are missing. -/
theorem alone_ensureFrom {current : Path} {parts : List Name} {depth : Nat}
    (hdir : d.isDirectory current = true) (hdots : ∀ name ∈ parts, isDots name = false)
    (hlength : ∀ name ∈ parts, name.length ≤ nameMax)
    (hfiles : ∀ n inode, d.node? (current ++ parts.take (n + 1)) ≠ some (.file inode))
    (hdepth : current.length + parts.length ≤ depth) :
    ∃ d', alone i (ensureFrom current parts) d = (.ok (), d') ∧ OnlyDirectories d d' depth ∧
      Walkable d' current parts := by
  induction parts generalizing current d with
  | nil => exact ⟨d, by simp [ensureFrom, request, perform_close], onlyDirectories_refl d depth, trivial⟩
  | cons name rest ih =>
    have hname := hdots name List.mem_cons_self
    have hstep : ∃ d₁, alone i (ensureStep current name) d = (.ok (), d₁) ∧
        OnlyDirectories d d₁ depth ∧ d₁.node? (current ++ [name]) = some .directory := by
      cases hnode : d.node? (current ++ [name]) with
      | none =>
        have hrefuses : d.refuses current name = none :=
          refuses_eq_none_iff.2 ⟨hdir, hlength name List.mem_cons_self, hnode⟩
        have hmkdir : d.perform fail i quiet (.mkdir current name) =
            (.ok (), d.add (current ++ [name]) .directory) := by
          simp [perform_quiet, act, hrefuses, Except.mapError]
        have hmade : (d.add (current ++ [name]) .directory).node? (current ++ [name]) =
            some .directory := by
          rw [node?_add _ hnode, if_pos rfl]
        have hopen : (d.add (current ++ [name]) .directory).perform fail i quiet
            (.openDirectory current name) =
              (.ok (), d.add (current ++ [name]) .directory) := by
          simp [perform_quiet, act, hmade, Except.mapError]
        refine ⟨_, ?_, onlyDirectories_add hdir hnode ?_, hmade⟩
        · simp only [ensureStep, hname, Bool.false_eq_true, if_false, Script.run_bind,
            mkdirSuppressed, orMapped, onOSError, Script.run_handle, request,
            Script.run_request, hmkdir, hopen, perform_close]
        · simp only [List.length_append, List.length_cons, List.length_nil] at hdepth ⊢
          omega
      | some node =>
        cases node with
        | file inode => exact absurd (by simpa using hnode) (hfiles 0 inode)
        | directory =>
          have hrefuses : d.refuses current name = some .exist := by
            simp [refuses, hdir, hnode, not_lt.2 (hlength name List.mem_cons_self)]
          have hmkdir : d.perform fail i quiet (.mkdir current name) =
              (.error (.os .exist), d) := by
            simp [perform_quiet, act, hrefuses, Except.mapError]
          have hopen : d.perform fail i quiet (.openDirectory current name) =
              (.ok (), d) := by
            simp [perform_quiet, act, hnode, Except.mapError]
          refine ⟨d, ?_, onlyDirectories_refl d depth, hnode⟩
          simp only [ensureStep, hname, Bool.false_eq_true, if_false, Script.run_bind,
            mkdirSuppressed, orMapped, onOSError, Script.run_handle, request,
            Script.run_request, hmkdir, if_true, Script.run_ret, hopen, perform_close]
    rcases hstep with ⟨d₁, hrun, honly, hmade⟩
    have hnext : ∃ d', alone i (ensureFrom (current ++ [name]) rest) d₁ = (.ok (), d') ∧
        OnlyDirectories d₁ d' depth ∧ Walkable d' (current ++ [name]) rest := by
      apply ih
      · simp [isDirectory, hmade]
      · exact fun other hmem => hdots other (List.mem_cons_of_mem name hmem)
      · exact fun other hmem => hlength other (List.mem_cons_of_mem name hmem)
      · intro n inode hnode
        apply hfiles (n + 1) inode
        simpa using (honly.files _ inode).1 hnode
      · simp only [List.length_append, List.length_cons, List.length_nil] at hdepth ⊢
        omega
    rcases hnext with ⟨d', hrest, honly', hwalk⟩
    refine ⟨d', ?_, honly.trans honly', hname, honly'.directories _ hmade, hwalk⟩
    simp only [ensureFrom, Script.run_bind, onError, Script.run_handle, hrun]
    exact hrest

/-- The directories of an object are made and opened. -/
theorem alone_ensureDirs {parts : List Name} {depth : Nat}
    (hdots : ∀ name ∈ parts, isDots name = false)
    (hlength : ∀ name ∈ parts, name.length ≤ nameMax)
    (hfiles : ∀ n inode, d.node? (parts.take (n + 1)) ≠ some (.file inode))
    (hdepth : parts.length ≤ depth) :
    ∃ d', alone i (ensureDirs parts) d = (.ok (), d') ∧ OnlyDirectories d d' depth ∧
      Walkable d' [] parts := by
  have hroot : d.isDirectory [] = true := by simp [isDirectory]
  rcases alone_ensureFrom (i := i) hroot hdots hlength hfiles (by simpa using hdepth) with
    ⟨d', hrun, hrest⟩
  refine ⟨d', ?_, hrest⟩
  simp only [ensureDirs, Script.run_bind, alone_openRoot]
  exact hrun

/-! ## Reading -/

theorem alone_readBlocks {inode : Nat} {file : Inode ι} (hfile : d.inodes[inode]? = some file)
    {patience : Nat} {chunks rest : Bytes} (hchunks : chunks ++ rest = file.bytes)
    (hpatience : rest.length < patience) :
    alone i (readBlocks inode patience chunks) d = (.ok file.bytes, d) := by
  induction patience generalizing chunks rest with
  | zero => omega
  | succ patience ih =>
    have hread : d.perform fail i quiet (.read inode chunks.length blockSize) =
        (.ok (rest.take blockSize), d) := by
      simp [perform_quiet, act, hfile, ← hchunks, Except.mapError, blockSize]
    simp only [readBlocks, Script.run_bind, request, Script.run_request, hread]
    split_ifs with hempty
    · have hnil : rest = [] := by
        rcases List.take_eq_nil_iff.1 hempty with hzero | hnil
        · simp [blockSize] at hzero
        · exact hnil
      simp [← hchunks, hnil]
    · -- A block that is not empty brings the end nearer.
      have hrest : chunks ++ rest.take blockSize ++ rest.drop blockSize = file.bytes := by
        rw [List.append_assoc, List.take_append_drop, hchunks]
      apply ih hrest
      have hne : rest ≠ [] := fun hnil => hempty (by simp [hnil])
      have hpos : 0 < rest.length := List.length_pos_iff.2 hne
      have hblock : 0 < blockSize := by decide
      rw [List.length_drop]
      omega

theorem alone_readOptional {parent : Path} {name : Name} {inode : Nat} {file : Inode ι}
    (hnode : d.node? (parent ++ [name]) = some (.file inode))
    (hfile : d.inodes[inode]? = some file) {patience : Nat}
    (hpatience : file.bytes.length < patience) :
    alone i (readOptional patience parent name) d = (.ok (some file.bytes), d) := by
  have hopen : alone i (openOptional parent name) d = (.ok (some inode), d) := by
    simp [openOptional, onOSError, Script.run_handle, Script.run_andThen, request, perform_quiet,
      act, hnode, Except.mapError]
  have hread : alone i (readBlocks inode patience []) d = (.ok file.bytes, d) :=
    alone_readBlocks hfile (List.nil_append _) hpatience
  simp only [readOptional, Script.run_bind, hopen, Script.run_andThen, Script.run_lastly, hread,
    request, Script.run_request, perform_close]
  rfl

/-- A reader who is not disturbed gets the bytes. -/
def Readable (sha256 : Bytes → Text) (i : ι) (uri : Text) (data : Bytes) (d : Disk ι) : Prop :=
  ∀ patience, data.length < patience →
    alone i (LocalAssetStore.read sha256 patience uri) d = (.ok (.bytes data), d)

theorem readable_of_node {sha256 : Bytes → Text} {uri : Text} {parsed : Key}
    (hkey : key uri = .ok parsed) (hwalk : Walkable d [] parsed.directory) {inode : Nat}
    {file : Inode ι} (hnode : d.node? (parsed.directory ++ [parsed.digest]) = some (.file inode))
    (hfile : d.inodes[inode]? = some file) (hsha : sha256 file.bytes = parsed.digest) :
    Readable sha256 i uri file.bytes d := by
  intro patience hpatience
  simp only [LocalAssetStore.read, hkey, Script.ofExcept_ok_bind, Script.run_bind,
    alone_openDir hwalk, Script.run_lastly, alone_readOptional hnode hfile hpatience, request,
    Script.run_request, perform_close, hsha]
  simp

/-- No object is in the place. -/
theorem alone_readOptional_free {parent : Path} {name : Name}
    (hnode : d.node? (parent ++ [name]) = none) (hlength : name.length ≤ nameMax) (patience : Nat) :
    alone i (readOptional patience parent name) d = (.ok none, d) := by
  have hopen : alone i (openOptional parent name) d = (.ok none, d) := by
    simp [openOptional, onOSError, Script.run_handle, Script.run_andThen, request, perform_quiet,
      act, hnode, missing, not_lt.2 hlength, Except.mapError]
  simp only [readOptional, Script.run_bind, hopen, Script.run_ret]

/-! ## Placing -/

theorem modify_last {α : Type} (xs : List α) (x : α) (f : α → α) :
    (xs ++ [x]).modify xs.length f = xs ++ [f x] := by
  induction xs with
  | nil => rfl
  | cons y ys ih => simpa using ih

/-- The last file of the disk grows by what is written to it. -/
theorem alone_writeAll {inodes : List (Inode ι)} {bytes : Bytes} (turns : Nat) {view : Bytes}
    (hturns : view.length ≤ turns) :
    alone i (writeAll inodes.length turns view) ⟨d.entries, inodes ++ [⟨bytes, i⟩]⟩ =
      (.ok (), ⟨d.entries, inodes ++ [⟨bytes ++ view, i⟩]⟩) := by
  induction turns generalizing view bytes with
  | zero =>
    have hnil : view = [] := List.length_eq_zero_iff.1 (by omega)
    simp [hnil, writeAll]
  | succ turns ih =>
    cases view with
    | nil => simp [writeAll]
    | cons b view =>
      have hwrite : (⟨d.entries, inodes ++ [⟨bytes, i⟩]⟩ : Disk ι).perform fail i quiet
          (.write inodes.length (b :: view)) =
            (.ok (min blockSize (b :: view).length),
              ⟨d.entries, inodes ++
                [⟨bytes ++ (b :: view).take (min blockSize (b :: view).length), i⟩]⟩) := by
        simp [perform_quiet, act, append, Except.mapError, modify_last]
      have hpos : min blockSize (b :: view).length ≠ 0 := by
        simp [blockSize]
      have hless : ((b :: view).drop (min blockSize (b :: view).length)).length ≤ turns := by
        rw [List.length_drop]
        omega
      have hrest : alone i
          (writeAll inodes.length turns ((b :: view).drop (min blockSize (b :: view).length)))
          ⟨d.entries, inodes ++
            [⟨bytes ++ (b :: view).take (min blockSize (b :: view).length), i⟩]⟩ =
            (.ok (), ⟨d.entries, inodes ++
              [⟨bytes ++ (b :: view).take (min blockSize (b :: view).length) ++
                (b :: view).drop (min blockSize (b :: view).length), i⟩]⟩) :=
        ih hless
      rw [List.append_assoc, List.take_append_drop] at hrest
      simp only [writeAll, Script.run_bind, request, Script.run_request, hwrite, if_neg hpos]
      exact hrest

/-- The object was put in its place, as the last file, and nothing else was changed. -/
structure Gained (i : ι) (d d' : Disk ι) (path : Path) (data : Bytes) : Prop where
  inodes : d'.inodes = d.inodes ++ [⟨data, i⟩]
  nodes : ∀ other, d'.node? other =
    if path = other then some (.file d.inodes.length) else d.node? other

theorem alone_place {parent : Path} {temp digest : Name} {data : Bytes} {object : StoredObject}
    (hdir : d.isDirectory parent = true) (htemp : d.node? (parent ++ [temp]) = none)
    (hdigest : d.node? (parent ++ [digest]) = none) (hne : temp ≠ digest)
    (htempLength : temp.length ≤ nameMax) (hdigestLength : digest.length ≤ nameMax)
    (patience : Nat) :
    ∃ d', alone i (place patience parent temp digest data object) d = (.ok object, d') ∧
      Gained i d d' (parent ++ [digest]) data := by
  have hpaths : parent ++ [temp] ≠ parent ++ [digest] := by
    intro hpath
    exact hne (by simpa using hpath)
  -- The disk with the empty temporary, with the written one, with both names, with the object.
  let written : Bytes → Disk ι := fun bytes =>
    ⟨(d.add (parent ++ [temp]) (.file d.inodes.length)).entries, d.inodes ++ [⟨bytes, i⟩]⟩
  have hwritten : ∀ bytes path, (written bytes).node? path =
      if parent ++ [temp] = path then some (.file d.inodes.length) else d.node? path :=
    fun bytes path => node?_add _ htemp path
  have hcreate : d.perform fail i quiet (.create parent temp) =
      (.ok d.inodes.length, written []) := by
    have hrefuses : d.refuses parent temp = none :=
      refuses_eq_none_iff.2 ⟨hdir, htempLength, htemp⟩
    simp [perform_quiet, act, hrefuses, Except.mapError, written]
  have hwrite : alone i (writeAll d.inodes.length data.length data) (written []) =
      (.ok (), written data) :=
    alone_writeAll (d := d.add (parent ++ [temp]) (.file d.inodes.length)) data.length le_rfl
  have hsource : (written data).node? (parent ++ [temp]) = some (.file d.inodes.length) := by
    rw [hwritten, if_pos rfl]
  have hfree : (written data).node? (parent ++ [digest]) = none := by
    rw [hwritten, if_neg hpaths, hdigest]
  have hlinked : ∀ path, ((written data).add (parent ++ [digest]) (.file d.inodes.length)).node? path =
      if parent ++ [digest] = path then some (.file d.inodes.length)
      else (written data).node? path :=
    node?_add _ hfree
  have hlink : (written data).perform fail i quiet (.link parent temp digest) =
      (.ok (), (written data).add (parent ++ [digest]) (.file d.inodes.length)) := by
    have hdirectory : (written data).isDirectory parent = true := by
      simp only [isDirectory, Bool.or_eq_true, decide_eq_true_eq] at hdir ⊢
      rcases hdir with hroot | hdir
      · exact Or.inl hroot
      · refine Or.inr ?_
        rw [hwritten, if_neg]
        · exact hdir
        · intro hpath
          rw [hpath, hdir] at htemp
          cases htemp
    have hrefuses : (written data).refuses parent digest = none :=
      refuses_eq_none_iff.2 ⟨hdirectory, hdigestLength, hfree⟩
    simp [perform_quiet, act, hsource, hrefuses, Except.mapError]
  have hunlink : ((written data).add (parent ++ [digest]) (.file d.inodes.length)).perform fail i
      quiet (.unlink parent temp) =
        (.ok (), ((written data).add (parent ++ [digest]) (.file d.inodes.length)).remove
          (parent ++ [temp])) := by
    have hnode : ((written data).add (parent ++ [digest]) (.file d.inodes.length)).node?
        (parent ++ [temp]) = some (.file d.inodes.length) := by
      rw [hlinked, if_neg hpaths.symm, hsource]
    simp [perform_quiet, act, hnode, Except.mapError]
  have hfsync : ∀ (disk : Disk ι) (handle : Handle),
      disk.perform fail i quiet (.fsync handle) = (.ok (), disk) := fun _ _ => rfl
  refine ⟨((written data).add (parent ++ [digest]) (.file d.inodes.length)).remove
    (parent ++ [temp]), ?_, ?_, ?_⟩
  · have hfill : alone i (fill patience parent temp digest data object d.inodes.length) (written []) =
        (.ok object, (written data).add (parent ++ [digest]) (.file d.inodes.length)) := by
      simp only [fill, linkObject, Script.run_bind, hwrite, request, Script.run_request, hfsync,
        Script.run_attempt, hlink, Script.run_ret]
    simp only [place, orMapped, onOSError, Script.run_bind, Script.run_handle, request,
      Script.run_request, hcreate, Script.run_lastly, hfill, perform_close, unlinkTemp, hunlink]
  · simp [written]
  · intro path
    rw [node?_remove, hlinked, hwritten]
    by_cases htempPath : parent ++ [temp] = path
    · subst htempPath
      simp [hpaths.symm, htemp]
    · simp [htempPath]

/-- The same object again, or another one of its digest. -/
theorem alone_placeIn_taken {parent : Path} {temp digest : Name} {data : Bytes}
    {object : StoredObject} {inode : Nat} {file : Inode ι}
    (hnode : d.node? (parent ++ [digest]) = some (.file inode))
    (hfile : d.inodes[inode]? = some file) {patience : Nat}
    (hpatience : file.bytes.length < patience) :
    alone i (placeIn patience parent temp digest data object) d =
      (if file.bytes = data then .ok object else .error (.value "storage collision"), d) := by
  simp only [placeIn, Script.run_bind, alone_readOptional hnode hfile hpatience]
  split_ifs with hsame
  · rfl
  · have hcollision : refuseCollision file.bytes data = .error (.value "storage collision") := by
      simp [refuseCollision, hsame]
    rw [hcollision, Script.ofExcept_error_bind]
    rfl

theorem alone_placeIn_free {parent : Path} {temp digest : Name} {data : Bytes}
    {object : StoredObject} (hdir : d.isDirectory parent = true)
    (htemp : d.node? (parent ++ [temp]) = none) (hdigest : d.node? (parent ++ [digest]) = none)
    (hne : temp ≠ digest) (htempLength : temp.length ≤ nameMax)
    (hdigestLength : digest.length ≤ nameMax) (patience : Nat) :
    ∃ d', alone i (placeIn patience parent temp digest data object) d = (.ok object, d') ∧
      Gained i d d' (parent ++ [digest]) data := by
  have hplace : ∃ d', alone i (place patience parent temp digest data object) d = (.ok object, d') ∧
      Gained i d d' (parent ++ [digest]) data :=
    alone_place hdir htemp hdigest hne htempLength hdigestLength patience
  rcases hplace with ⟨d', hrun, hgained⟩
  refine ⟨d', ?_, hgained⟩
  simp only [placeIn, Script.run_bind, alone_readOptional_free hdigest hdigestLength]
  exact hrun

/-! ## Removing -/

theorem alone_unlinkObject {parent : Path} {name : Name} {inode : Nat} (hhex : isHex64 name = true)
    (hnode : d.node? (parent ++ [name]) = some (.file inode)) :
    alone i (unlinkObject parent name) d = (.ok (), d.remove (parent ++ [name])) := by
  have hlstat : d.perform fail i quiet (.lstat parent name) = (.ok true, d) := by
    simp [perform_quiet, act, hnode, Except.mapError]
  have hunlink : d.perform fail i quiet (.unlink parent name) =
      (.ok (), d.remove (parent ++ [name])) := by
    simp [perform_quiet, act, hnode, Except.mapError]
  simp only [unlinkObject, hhex, Bool.not_true, Bool.false_eq_true, if_false, lstat, orMapped,
    onOSError, Script.run_bind, Script.run_handle, request, Script.run_request, hlstat, if_true,
    hunlink]

theorem alone_unlinkObject_missing {parent : Path} {name : Name}
    (hnode : d.node? (parent ++ [name]) = none) :
    ∃ e, alone i (unlinkObject parent name) d = (.error e, d) := by
  have hlstat : d.perform fail i quiet (.lstat parent name) =
      (.error (.os (missing name)), d) := by
    simp [perform_quiet, act, hnode, Except.mapError]
  unfold unlinkObject
  split_ifs
  · exact ⟨_, rfl⟩
  · refine ⟨mapped (missing name), ?_⟩
    simp only [lstat, orMapped, onOSError, Script.run_bind, Script.run_handle, request,
      Script.run_request, hlstat, Script.run_raise]

end Alone

end Storage
end Integrations
end MoneyMachine
