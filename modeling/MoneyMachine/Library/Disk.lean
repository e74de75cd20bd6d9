import MoneyMachine.Library.Bytes
import MoneyMachine.Library.Table

/-!
# Disk — directories, files and hard links

A directory tree below one root.  An entry names a directory or an inode; a file is written through its
inode, so every entry that is linked to it shows what was written.  Nothing here removes or renames a
directory, so an open directory is its path.

* `DiskOp`  : the system calls, relative to an open directory where they take a name;
* `perform` : one of them, with the fault or the number of bytes the system chooses;
* `Wired`   : entries lie in directories, and the inodes they name exist.

The creator of an inode is recorded for the reader of a proof: no call reads it.
-/

namespace MoneyMachine
namespace Library

/-! ## Trees -/

namespace Disk

abbrev Name := List Char

abbrev Path := List Name

inductive Node
  | directory
  | file (inode : Nat)
  deriving DecidableEq, Repr

structure Inode (ι : Type) where
  bytes : Bytes
  creator : ι
  deriving DecidableEq, Repr

end Disk

open Disk

/-- The entries under the root, and the files in the order they were created. -/
structure Disk (ι : Type) where
  entries : Table (Path × Node) Prod.fst
  inodes : List (Inode ι)

namespace Disk

variable {ι : Type}

def empty : Disk ι where
  entries := ⟨[], List.nodup_nil⟩
  inodes := []

/-- What an entry names. -/
def node? (d : Disk ι) (path : Path) : Option Node :=
  (d.entries.get? path).map Prod.snd

def isDirectory (d : Disk ι) (path : Path) : Bool :=
  decide (path = []) || decide (d.node? path = some .directory)

def add (d : Disk ι) (path : Path) (node : Node) : Disk ι :=
  match d.entries.insert? (path, node) with
  | some entries => { d with entries := entries }
  | none => d

def remove (d : Disk ι) (path : Path) : Disk ι :=
  { d with entries := d.entries.erase path }

/-- The names in one directory. -/
def names (d : Disk ι) (parent : Path) : List Name :=
  d.entries.rows.filterMap (fun row =>
    if row.1.dropLast = parent then row.1.getLast? else none)

@[simp] theorem node?_empty (path : Path) : (empty : Disk ι).node? path = none := rfl

@[simp] theorem inodes_add (d : Disk ι) (path : Path) (node : Node) :
    (d.add path node).inodes = d.inodes := by
  unfold add
  split <;> rfl

@[simp] theorem inodes_remove (d : Disk ι) (path : Path) : (d.remove path).inodes = d.inodes := rfl

theorem node?_add {d : Disk ι} {path : Path} (node : Node) (hfree : d.node? path = none)
    (other : Path) :
    (d.add path node).node? other = if path = other then some node else d.node? other := by
  have hget : d.entries.get? path = none := by
    simpa [node?] using hfree
  rcases Table.exists_insert (t := d.entries) (r := (path, node)) hget with ⟨entries, hins⟩
  simp only [node?, add, hins, Table.get?_insert hins]
  by_cases h : path = other <;> simp [h]

theorem node?_remove (d : Disk ι) (path other : Path) :
    (d.remove path).node? other = if path = other then none else d.node? other := by
  simp only [node?, remove, Table.get?_erase]
  by_cases h : path = other <;> simp [h]

theorem mem_names_iff {d : Disk ι} {parent : Path} {name : Name} :
    name ∈ d.names parent ↔ ∃ node, d.node? (parent ++ [name]) = some node := by
  simp only [names, List.mem_filterMap, node?, Option.map_eq_some_iff]
  constructor
  · rintro ⟨⟨path, node⟩, hmem, hrow⟩
    split_ifs at hrow with hparent
    have hpath : path = parent ++ [name] := by
      rw [← hparent]
      exact (List.dropLast_append_getLast? name hrow).symm
    exact ⟨node, (path, node), Table.get?_eq_some_iff.2 ⟨hmem, hpath⟩, rfl⟩
  · rintro ⟨node, row, hget, -⟩
    rcases Table.get?_eq_some_iff.1 hget with ⟨hmem, hpath⟩
    refine ⟨row, hmem, ?_⟩
    rw [hpath]
    simp

/-- A directory lists each name once. -/
theorem nodup_names (d : Disk ι) (parent : Path) : (d.names parent).Nodup := by
  have hpaths : (d.entries.rows.map Prod.fst).Nodup := d.entries.nodup
  have hnames : d.names parent = (d.entries.rows.map Prod.fst).filterMap (fun path =>
      if path.dropLast = parent then path.getLast? else none) := by
    rw [List.filterMap_map]
    rfl
  rw [hnames]
  apply hpaths.filterMap
  intro path path' name hname hname'
  simp only [Option.mem_def] at hname hname'
  split_ifs at hname hname' with hparent hparent'
  calc
    path = path.dropLast ++ [name] := (List.dropLast_append_getLast? name hname).symm
    _ = path'.dropLast ++ [name] := by rw [hparent, hparent']
    _ = path' := List.dropLast_append_getLast? name hname'

/-! ## System calls -/

inductive Errno
  | noent
  | exist
  | other
  deriving DecidableEq, Repr

/-- A call fails, or the program is interrupted before it. -/
inductive Fault
  | os (errno : Errno)
  | interrupted
  deriving DecidableEq, Repr

inductive Handle
  | directory (path : Path)
  | file (inode : Nat)
  deriving DecidableEq, Repr

end Disk

inductive DiskOp
  | openRoot
  | openDirectory (parent : Path) (name : Name)
  | mkdir (parent : Path) (name : Name)
  | openRead (parent : Path) (name : Name)
  | create (parent : Path) (name : Name)
  | read (inode offset block : Nat)
  | write (inode : Nat) (view : Bytes)
  | fsync (handle : Handle)
  | close (handle : Handle)
  | link (parent : Path) (source target : Name)
  | lstat (parent : Path) (name : Name)
  | unlink (parent : Path) (name : Name)
  | listdir (parent : Path)
  deriving DecidableEq, Repr

/-- `openRead` and `create` answer with the inode, `write` with the number of bytes written, and `lstat`
says whether the entry is a regular file. -/
abbrev DiskOp.Ans : DiskOp → Type
  | .openRead _ _ => Nat
  | .create _ _ => Nat
  | .read _ _ _ => Bytes
  | .write _ _ => Nat
  | .lstat _ _ => Bool
  | .listdir _ => List Name
  | _ => Unit

namespace Disk

/-- What the system chooses: a fault, or how many bytes a read or a write moves. -/
structure Choice where
  fault : Option Fault
  amount : Nat
  deriving DecidableEq, Repr

/-- `NAME_MAX`. -/
def nameMax : Nat := 255

variable {ι : Type}

def missing (name : Name) : Errno :=
  if nameMax < name.length then .other else .noent

/-- A new entry needs its directory, a name that fits and a free place. -/
def refuses (d : Disk ι) (parent : Path) (name : Name) : Option Errno :=
  if d.isDirectory parent then
    if nameMax < name.length then
      some .other
    else if d.node? (parent ++ [name]) = none then
      none
    else
      some .exist
  else
    some .noent

def append (d : Disk ι) (inode : Nat) (chunk : Bytes) : Disk ι :=
  { d with inodes := d.inodes.modify inode (fun file => { file with bytes := file.bytes ++ chunk }) }

/-- One call without a fault.  A directory cannot be opened for reading here: the kernel refuses the
first read instead. -/
def act (i : ι) (d : Disk ι) (amount : Nat) : (op : DiskOp) → Except Errno op.Ans × Disk ι
  | .openRoot => (.ok (), d)
  | .openDirectory parent name =>
    match d.node? (parent ++ [name]) with
    | some .directory => (.ok (), d)
    | some (.file _) => (.error .other, d)
    | none => (.error (missing name), d)
  | .mkdir parent name =>
    match d.refuses parent name with
    | some errno => (.error errno, d)
    | none => (.ok (), d.add (parent ++ [name]) .directory)
  | .openRead parent name =>
    match d.node? (parent ++ [name]) with
    | some (.file inode) => (.ok inode, d)
    | some .directory => (.error .other, d)
    | none => (.error (missing name), d)
  | .create parent name =>
    match d.refuses parent name with
    | some errno => (.error errno, d)
    | none =>
      (.ok d.inodes.length,
        { d.add (parent ++ [name]) (.file d.inodes.length) with
          inodes := d.inodes ++ [⟨[], i⟩] })
  | .read inode offset block =>
    match d.inodes[inode]? with
    | some file => (.ok ((file.bytes.drop offset).take (min block (max 1 amount))), d)
    | none => (.error .other, d)
  | .write inode view =>
    (.ok (min amount view.length), d.append inode (view.take (min amount view.length)))
  | .fsync _ => (.ok (), d)
  | .close _ => (.ok (), d)
  | .link parent source target =>
    match d.node? (parent ++ [source]) with
    | some (.file inode) =>
      match d.refuses parent target with
      | some errno => (.error errno, d)
      | none => (.ok (), d.add (parent ++ [target]) (.file inode))
    | some .directory => (.error .other, d)
    | none => (.error (missing source), d)
  | .lstat parent name =>
    match d.node? (parent ++ [name]) with
    | some (.file _) => (.ok true, d)
    | some .directory => (.ok false, d)
    | none => (.error (missing name), d)
  | .unlink parent name =>
    match d.node? (parent ++ [name]) with
    | some (.file _) => (.ok (), d.remove (parent ++ [name]))
    | some .directory => (.error .other, d)
    | none => (.error (missing name), d)
  | .listdir parent => (.ok (d.names parent), d)

/-- One call; `fail` is how the program sees a fault. -/
def perform {ε : Type} (fail : Fault → ε) (i : ι) (d : Disk ι) (c : Choice) (op : DiskOp) :
    Except ε op.Ans × Disk ι :=
  match c.fault with
  | some fault => (.error (fail fault), d)
  | none =>
    ((d.act i c.amount op).1.mapError (fun errno => fail (.os errno)), (d.act i c.amount op).2)

/-! ## What a call changes -/

theorem refuses_eq_none_iff {d : Disk ι} {parent : Path} {name : Name} :
    d.refuses parent name = none ↔
      d.isDirectory parent = true ∧ name.length ≤ nameMax ∧ d.node? (parent ++ [name]) = none := by
  unfold refuses
  split_ifs <;> simp_all

/-- A call leaves the tree alone, makes one directory, creates one file, appends to one file, links one
file or removes one entry. -/
inductive Change (i : ι) (d : Disk ι) : DiskOp → Disk ι → Prop
  | none (op : DiskOp) : Change i d op d
  | mkdir (parent : Path) (name : Name) (hdir : d.isDirectory parent = true)
      (hfree : d.node? (parent ++ [name]) = Option.none) :
      Change i d (.mkdir parent name) (d.add (parent ++ [name]) .directory)
  | create (parent : Path) (name : Name) (hdir : d.isDirectory parent = true)
      (hfree : d.node? (parent ++ [name]) = Option.none) :
      Change i d (.create parent name)
        { d.add (parent ++ [name]) (.file d.inodes.length) with inodes := d.inodes ++ [⟨[], i⟩] }
  | write (inode : Nat) (view chunk : Bytes) :
      Change i d (.write inode view) (d.append inode chunk)
  | link (parent : Path) (source target : Name) (inode : Nat)
      (hdir : d.isDirectory parent = true)
      (hsource : d.node? (parent ++ [source]) = some (.file inode))
      (hfree : d.node? (parent ++ [target]) = Option.none) :
      Change i d (.link parent source target) (d.add (parent ++ [target]) (.file inode))
  | unlink (parent : Path) (name : Name) (inode : Nat)
      (hnode : d.node? (parent ++ [name]) = some (.file inode)) :
      Change i d (.unlink parent name) (d.remove (parent ++ [name]))

theorem change_perform {ε : Type} (fail : Fault → ε) (i : ι) (d : Disk ι) (c : Choice)
    (op : DiskOp) : Change i d op (d.perform fail i c op).2 := by
  unfold perform
  cases c.fault with
  | some fault => exact .none op
  | none =>
    cases op with
    | mkdir parent name =>
      dsimp only [act]
      split
      · exact .none _
      · rename_i hfree
        rcases refuses_eq_none_iff.1 hfree with ⟨hdir, -, hnode⟩
        exact .mkdir parent name hdir hnode
    | create parent name =>
      dsimp only [act]
      split
      · exact .none _
      · rename_i hfree
        rcases refuses_eq_none_iff.1 hfree with ⟨hdir, -, hnode⟩
        exact .create parent name hdir hnode
    | write inode view => exact .write inode view _
    | link parent source target =>
      dsimp only [act]
      split
      · rename_i inode hsource
        split
        · exact .none _
        · rename_i hfree
          rcases refuses_eq_none_iff.1 hfree with ⟨hdir, -, hnode⟩
          exact .link parent source target inode hdir hsource hnode
      · exact .none _
      · exact .none _
    | unlink parent name =>
      dsimp only [act]
      split
      · rename_i inode hnode
        exact .unlink parent name inode hnode
      · exact .none _
      · exact .none _
    | openDirectory parent name =>
      dsimp only [act]
      split <;> exact .none _
    | openRead parent name =>
      dsimp only [act]
      split <;> exact .none _
    | read inode offset block =>
      dsimp only [act]
      split <;> exact .none _
    | lstat parent name =>
      dsimp only [act]
      split <;> exact .none _
    | openRoot => exact .none _
    | fsync handle => exact .none _
    | close handle => exact .none _
    | listdir parent => exact .none _

/-! ## Well-formed trees -/

/-- Entries lie in directories, and the inodes they name exist. -/
structure Wired (d : Disk ι) : Prop where
  parents : ∀ parent name node, d.node? (parent ++ [name]) = some node →
    d.isDirectory parent = true
  inodes : ∀ path inode, d.node? path = some (.file inode) → inode < d.inodes.length

theorem wired_empty : (empty : Disk ι).Wired := by
  constructor
  · intro parent name node h
    cases h
  · intro path inode h
    cases h

theorem isDirectory_add {d : Disk ι} {path other : Path} {node : Node} (hfree : d.node? path = none)
    (h : d.isDirectory other = true) : (d.add path node).isDirectory other = true := by
  simp only [isDirectory, Bool.or_eq_true, decide_eq_true_eq] at h ⊢
  rcases h with hroot | hdir
  · exact Or.inl hroot
  · refine Or.inr ?_
    rw [node?_add node hfree, if_neg]
    · exact hdir
    · rintro rfl
      rw [hfree] at hdir
      cases hdir

theorem isDirectory_remove {d : Disk ι} {path other : Path} {inode : Nat}
    (hfile : d.node? path = some (.file inode)) (h : d.isDirectory other = true) :
    (d.remove path).isDirectory other = true := by
  simp only [isDirectory, Bool.or_eq_true, decide_eq_true_eq] at h ⊢
  rcases h with hroot | hdir
  · exact Or.inl hroot
  · refine Or.inr ?_
    rw [node?_remove, if_neg]
    · exact hdir
    · rintro rfl
      rw [hfile] at hdir
      cases hdir

theorem wired_add {d : Disk ι} (h : d.Wired) {parent : Path} {name : Name} (node : Node)
    (hdir : d.isDirectory parent = true) (hfree : d.node? (parent ++ [name]) = none)
    (hnode : ∀ inode, node = .file inode → inode < d.inodes.length) :
    (d.add (parent ++ [name]) node).Wired := by
  constructor
  · intro parent' name' node' hnode'
    rw [node?_add node hfree] at hnode'
    apply isDirectory_add hfree
    split_ifs at hnode' with hpath
    · rw [← (List.append_inj' hpath rfl).1]
      exact hdir
    · exact h.parents parent' name' node' hnode'
  · intro path inode hfile
    rw [node?_add node hfree] at hfile
    rw [inodes_add]
    split_ifs at hfile
    · cases hfile
      exact hnode inode rfl
    · exact h.inodes path inode hfile

/-- Every call keeps the tree well formed. -/
theorem Change.wired {i : ι} {d d' : Disk ι} {op : DiskOp} (h : d.Wired) (hchange : Change i d op d') :
    d'.Wired := by
  cases hchange with
  | none => exact h
  | mkdir parent name hdir hfree =>
    exact wired_add h .directory hdir hfree (fun inode hnode => by cases hnode)
  | create parent name hdir hfree =>
    have hgrown : ({ d with inodes := d.inodes ++ [⟨[], i⟩] } : Disk ι).Wired := by
      refine ⟨h.parents, ?_⟩
      intro path inode hfile
      have := h.inodes path inode hfile
      simp only [List.length_append, List.length_singleton]
      omega
    have hadded := wired_add hgrown (.file d.inodes.length) hdir hfree (by
      intro inode hnode
      cases hnode
      simp)
    unfold add at hadded ⊢
    split at hadded <;> split <;> simp_all
  | write inode view chunk =>
    refine ⟨h.parents, ?_⟩
    intro path inode' hfile
    simpa [append] using h.inodes path inode' hfile
  | link parent source target inode hdir hsource hfree =>
    refine wired_add h (.file inode) hdir hfree ?_
    intro inode' hnode
    cases hnode
    exact h.inodes _ inode hsource
  | unlink parent name inode hnode =>
    constructor
    · intro parent' name' node' hnode'
      rw [node?_remove] at hnode'
      apply isDirectory_remove hnode
      split_ifs at hnode' with hpath
      exact h.parents parent' name' node' hnode'
    · intro path inode' hfile
      rw [node?_remove] at hfile
      split_ifs at hfile
      exact h.inodes path inode' hfile

end Disk
end Library
end MoneyMachine
