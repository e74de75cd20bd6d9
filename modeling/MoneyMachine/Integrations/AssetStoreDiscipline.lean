import MoneyMachine.Integrations.LocalAssetStore

/-!
# AssetStoreDiscipline — what a store call may do to the disk

The system calls of any number of store calls on one root interleave.

* `May`    : what a call does to the disk, operation by operation: it creates no object, writes only to a
  file of its own that no object is linked to, links a file only under its digest, and unlinks its own
  temporary or, when it is asked to, an object of its directory;
* `Relies` : what is therefore true of the others: a call's own file is left alone, and objects that no
  call is asked to delete stay;
* `Looks`  : the scripts that create, write, link and unlink nothing.
-/

namespace MoneyMachine
namespace Integrations
namespace Storage

open MoneyMachine.Domain
open MoneyMachine.Library
open MoneyMachine.Library.Disk

/-! ## Calls -/

/-- A call, how long it reads, and the name its temporary gets. -/
structure LocalCall where
  call : StoreCall
  patience : Nat
  uuid4 : Uuid

def LocalCall.script (sha256 : Bytes → Text) (c : LocalCall) : DiskScript StoreAnswer :=
  LocalAssetStore.script sha256 c.patience c.uuid4 c.call

/-- The directory of the objects a call is about. -/
def StoreCall.directory : StoreCall → Path → Prop
  | .publish product spec _ _, parent =>
    parent = [StorageRole.published.text, uuidChars product, spec.str]
  | .putTemporary product spec _ _, parent =>
    parent = [StorageRole.temporary.text, uuidChars product, spec.str]
  | .read uri, parent => ∃ parsed, key uri = .ok parsed ∧ parent = parsed.directory
  | .discard uri, parent => ∃ parsed, key uri = .ok parsed ∧ parent = parsed.directory
  | .cleanupTemporary product spec _, parent =>
    parent = [StorageRole.temporary.text, uuidChars product, spec.str]

/-- The objects a call is asked to delete. -/
def StoreCall.deletes : StoreCall → Path → Name → Prop
  | .discard uri, parent, name =>
    ∃ parsed, key uri = .ok parsed ∧ parsed.role = .temporary ∧ parent = parsed.directory ∧
      name = parsed.digest
  | .cleanupTemporary product spec keep, parent, name =>
    parent = [StorageRole.temporary.text, uuidChars product, spec.str] ∧ name ≠ keep
  | _, _, _ => False

section Discipline

variable {ι : Type}

/-- What the call `i` may do to the disk. -/
def May (sha256 : Bytes → Text) (calls : ι → LocalCall) (i : ι) (d : Disk ι) : DiskOp → Prop
  | .create _ name => isHex64 name = false
  | .write inode _ =>
    (∃ file, d.inodes[inode]? = some file ∧ file.creator = i) ∧
      ∀ parent name, d.node? (parent ++ [name]) = some (.file inode) → isHex64 name = false
  | .link parent source target =>
    ∀ inode, d.node? (parent ++ [source]) = some (.file inode) →
      ∃ file, d.inodes[inode]? = some file ∧ file.creator = i ∧ sha256 file.bytes = target
  | .unlink parent name =>
    (calls i).call.directory parent ∧
      (isHex64 name = true → (calls i).call.deletes parent name) ∧
        (isHex64 name = false → ∀ inode file, d.node? (parent ++ [name]) = some (.file inode) →
          d.inodes[inode]? = some file → file.creator = i)
  | _ => True

/-- What the call `i` finds as it left it, and the objects `kept` that it finds again. -/
structure Relies (i : ι) (kept : Path → Name → Prop) (d d' : Disk ι) : Prop where
  own : ∀ (inode : Nat) (file : Inode ι), d.inodes[inode]? = some file → file.creator = i →
    d'.inodes[inode]? = some file
  noNew : ∀ (inode : Nat) (file : Inode ι) (path : Path), d.inodes[inode]? = some file →
    file.creator = i → d'.node? path = some (.file inode) → d.node? path = some (.file inode)
  temps : ∀ (parent : Path) (name : Name) (inode : Nat) (file : Inode ι), isHex64 name = false →
    d.node? (parent ++ [name]) = some (.file inode) → d.inodes[inode]? = some file →
      file.creator = i → d'.node? (parent ++ [name]) = some (.file inode)
  kept : ∀ (parent : Path) (name : Name) (inode : Nat) (file : Inode ι), kept parent name →
    d.node? (parent ++ [name]) = some (.file inode) → d.inodes[inode]? = some file →
      d'.node? (parent ++ [name]) = some (.file inode) ∧ d'.inodes[inode]? = some file
  wired : d.Wired → d'.Wired

theorem relies_refl (i : ι) (kept : Path → Name → Prop) (d : Disk ι) : Relies i kept d d := by
  refine ⟨?_, ?_, ?_, ?_, ?_⟩
  · exact fun inode file hfile _ => hfile
  · exact fun inode file path _ _ hnode => hnode
  · exact fun parent name inode file _ hnode _ _ => hnode
  · exact fun parent name inode file _ hnode hfile => ⟨hnode, hfile⟩
  · exact fun h => h

theorem relies_trans (i : ι) (kept : Path → Name → Prop) (d d' d'' : Disk ι)
    (h : Relies i kept d d') (h' : Relies i kept d' d'') : Relies i kept d d'' := by
  refine ⟨?_, ?_, ?_, ?_, fun hwired => h'.wired (h.wired hwired)⟩
  · intro inode file hfile hcreator
    exact h'.own inode file (h.own inode file hfile hcreator) hcreator
  · intro inode file path hfile hcreator hnode
    apply h.noNew inode file path hfile hcreator
    exact h'.noNew inode file path (h.own inode file hfile hcreator) hcreator hnode
  · intro parent name inode file hname hnode hfile hcreator
    apply h'.temps parent name inode file hname _ (h.own inode file hfile hcreator) hcreator
    exact h.temps parent name inode file hname hnode hfile hcreator
  · intro parent name inode file hkept hnode hfile
    rcases h.kept parent name inode file hkept hnode hfile with ⟨hnode', hfile'⟩
    exact h'.kept parent name inode file hkept hnode' hfile'

/-! ## One operation -/

theorem path_inj {parent parent' : Path} {name name' : Name}
    (h : parent ++ [name] = parent' ++ [name']) : parent = parent' ∧ name = name' := by
  have hparts := List.append_inj' h rfl
  exact ⟨hparts.1, by simpa using hparts.2⟩

variable {sha256 : Bytes → Text} {calls : ι → LocalCall} {i j : ι} {d d' : Disk ι} {op : DiskOp}

/-- An inode that existed is still there after a file was created. -/
theorem getElem?_of_create {inode : Nat} {file : Inode ι} (x : Inode ι)
    (h : d.inodes[inode]? = some file) : (d.inodes ++ [x])[inode]? = some file := by
  rcases List.getElem?_eq_some_iff.1 h with ⟨hlt, -⟩
  rw [List.getElem?_append_left hlt, h]

/-- An object that the call is not asked to delete is still there, with its bytes. -/
theorem object_kept (hmay : May sha256 calls i d op) (h : Change i d op d') {parent : Path}
    {name : Name} {inode : Nat} {file : Inode ι} (hhex : isHex64 name = true)
    (hdeletes : ¬ (calls i).call.deletes parent name)
    (hnode : d.node? (parent ++ [name]) = some (.file inode))
    (hfile : d.inodes[inode]? = some file) :
    d'.node? (parent ++ [name]) = some (.file inode) ∧ d'.inodes[inode]? = some file := by
  have hadd : ∀ (path : Path) (node : Node), d.node? path = none →
      (d.add path node).node? (parent ++ [name]) = some (.file inode) := by
    intro path node hfree
    rw [node?_add node hfree, if_neg]
    · exact hnode
    · rintro rfl
      rw [hfree] at hnode
      cases hnode
  cases h with
  | none => exact ⟨hnode, hfile⟩
  | mkdir parent' name' hdir hfree => exact ⟨hadd _ _ hfree, by simpa using hfile⟩
  | create parent' name' hdir hfree => exact ⟨hadd _ _ hfree, getElem?_of_create _ hfile⟩
  | link parent' source target inode' hdir hsource hfree =>
    exact ⟨hadd _ _ hfree, by simpa using hfile⟩
  | write inode' view chunk =>
    -- The file that is written is not linked to an object.
    have hne : inode ≠ inode' := by
      rintro rfl
      have := hmay.2 parent name hnode
      rw [hhex] at this
      cases this
    refine ⟨hnode, ?_⟩
    simp [append, hne.symm, hfile]
  | unlink parent' name' inode' hnode' =>
    refine ⟨?_, hfile⟩
    rw [node?_remove, if_neg]
    · exact hnode
    · intro hpath
      rcases path_inj hpath with ⟨rfl, rfl⟩
      exact hdeletes (hmay.2.1 hhex)

/-- What one call may do, every other call relies on. -/
theorem relies_of_may {kept : Path → Name → Prop} (hij : j ≠ i)
    (hkept : ∀ parent name, kept parent name → isHex64 name = true)
    (hdeletes : ∀ parent name, kept parent name → ¬ (calls i).call.deletes parent name)
    (hmay : May sha256 calls i d op) (h : Change i d op d') : Relies j kept d d' := by
  have hobjects : ∀ parent name inode file, kept parent name →
      d.node? (parent ++ [name]) = some (.file inode) → d.inodes[inode]? = some file →
        d'.node? (parent ++ [name]) = some (.file inode) ∧ d'.inodes[inode]? = some file :=
    fun parent name inode file hname =>
      object_kept hmay h (hkept parent name hname) (hdeletes parent name hname)
  have hwired : d.Wired → d'.Wired := fun hwired => h.wired hwired
  have hadd : ∀ (path : Path) (node : Node), d.node? path = none → ∀ other n,
      d.node? other = some (.file n) → (d.add path node).node? other = some (.file n) := by
    intro path node hfree other n hother
    rw [node?_add node hfree, if_neg]
    · exact hother
    · rintro rfl
      rw [hfree] at hother
      cases hother
  cases h with
  | none => exact relies_refl j kept d
  | mkdir parent name hdir hfree =>
    refine ⟨?_, ?_, ?_, hobjects, hwired⟩
    · exact fun inode file hfile _ => by simpa using hfile
    · intro inode file path hfile hcreator hnode
      rw [node?_add _ hfree] at hnode
      split_ifs at hnode
      · cases hnode
      · exact hnode
    · exact fun parent' name' inode file _ hnode _ _ => hadd _ _ hfree _ _ hnode
  | create parent name hdir hfree =>
    refine ⟨?_, ?_, ?_, hobjects, hwired⟩
    · exact fun inode file hfile _ => getElem?_of_create _ hfile
    · intro inode file path hfile hcreator hnode
      have hnode' : (d.add (parent ++ [name]) (.file d.inodes.length)).node? path =
          some (.file inode) := hnode
      rw [node?_add _ hfree] at hnode'
      split_ifs at hnode'
      · -- The new file is not one of the old ones.
        cases hnode'
        rcases List.getElem?_eq_some_iff.1 hfile with ⟨hlt, -⟩
        exact absurd hlt (Nat.lt_irrefl _)
      · exact hnode'
    · exact fun parent' name' inode file _ hnode _ _ => hadd _ _ hfree _ _ hnode
  | write inode' view chunk =>
    refine ⟨?_, ?_, ?_, hobjects, hwired⟩
    · intro inode file hfile hcreator
      rcases hmay.1 with ⟨file', hfile', hcreator'⟩
      have hne : inode' ≠ inode := by
        rintro rfl
        rw [hfile] at hfile'
        cases hfile'
        exact hij (hcreator.symm.trans hcreator')
      simp [append, hne, hfile]
    · exact fun inode file path _ _ hnode => hnode
    · exact fun parent' name' inode file _ hnode _ _ => hnode
  | link parent source target inode' hdir hsource hfree =>
    refine ⟨?_, ?_, ?_, hobjects, hwired⟩
    · exact fun inode file hfile _ => by simpa using hfile
    · intro inode file path hfile hcreator hnode
      rw [node?_add _ hfree] at hnode
      split_ifs at hnode
      · -- A call links its own file only.
        cases hnode
        rcases hmay inode' hsource with ⟨file', hfile', hcreator', -⟩
        rw [hfile] at hfile'
        cases hfile'
        exact absurd (hcreator.symm.trans hcreator') hij
      · exact hnode
    · exact fun parent' name' inode file _ hnode _ _ => hadd _ _ hfree _ _ hnode
  | unlink parent name inode' hnode' =>
    refine ⟨?_, ?_, ?_, hobjects, hwired⟩
    · exact fun inode file hfile _ => hfile
    · intro inode file path hfile hcreator hnode
      rw [node?_remove] at hnode
      split_ifs at hnode
      exact hnode
    · intro parent' name' inode file hname hnode hfile hcreator
      rw [node?_remove, if_neg]
      · exact hnode
      · intro hpath
        rcases path_inj hpath with ⟨rfl, rfl⟩
        exact hij (hcreator.symm.trans (hmay.2.2 hname inode file hnode hfile))

end Discipline

/-! ## Scripts that only look -/

/-- Opening, reading, listing, and making directories. -/
def Harmless : DiskOp → Prop
  | .create _ _ => False
  | .write _ _ => False
  | .link _ _ _ => False
  | .unlink _ _ => False
  | _ => True

/-- A script that creates, writes, links and unlinks nothing. -/
def Looks {α : Type} (x : DiskScript α) : Prop :=
  x.Only Harmless (fun _ _ => True) (fun _ => True)

section Looks

open Scripts

variable {α β : Type}

theorem looks_request {op : DiskOp} (h : Harmless op) : Looks (request op) :=
  (Script.only_request h).mono (fun _ _ => trivial)

theorem looks_bind {x : DiskScript α} {f : α → DiskScript β} (h : Looks x) (hf : ∀ a, Looks (f a)) :
    Looks (x >>= f) :=
  Script.only_bind h (fun a _ => hf a) (fun _ _ => trivial)

theorem looks_handle {x : DiskScript α} {handler : Raised → DiskScript α} (h : Looks x)
    (hhandler : ∀ e, Looks (handler e)) : Looks (x.handle handler) :=
  Script.only_handle h (fun _ _ => trivial) (fun e _ => hhandler e)

theorem looks_onOSError {x : DiskScript α} {handler : Errno → DiskScript α} (h : Looks x)
    (hhandler : ∀ errno, Looks (handler errno)) : Looks (onOSError x handler) := by
  apply looks_handle h
  intro e
  cases e with
  | os errno => exact hhandler errno
  | value message => exact trivial
  | interrupted => exact trivial

theorem looks_ofExcept (x : Except Raised α) : Looks (Script.ofExcept x : DiskScript α) := by
  cases x with
  | ok a => exact trivial
  | error e => exact trivial

theorem looks_lastly {x : DiskScript α} {cleanup : DiskScript Unit} (h : Looks x)
    (hcleanup : Looks cleanup) : Looks (x.lastly cleanup) := by
  have hattempt : Looks x.attempt :=
    looks_handle (looks_bind h (fun _ => trivial)) (fun _ => trivial)
  exact looks_bind hattempt (fun r => looks_bind hcleanup (fun _ => looks_ofExcept r))

theorem looks_close (handle : Handle) : Looks (request (.close handle)) :=
  looks_request (by trivial)

theorem looks_openRoot : Looks openRoot :=
  looks_onOSError (looks_request (by trivial)) (fun _ => by trivial)

/-- A walk ends in the directory it was asked for. -/
theorem walk_returns (current : Path) (parts : List Name) :
    (walk current parts).Only Harmless (fun _ _ => True)
      (fun r => ∀ path, r = .ok path → path = current ++ parts) := by
  have hclose : ∀ (handle : Handle) (e : Raised) (Q : Except Raised Path → Prop), Q (.error e) →
      (∀ e, Q (.error e)) → (request (.close handle) >>= fun _ => (.raise e : DiskScript Path)).Only
        Harmless (fun _ _ => True) Q :=
    fun handle e Q he herror => Script.only_bind (looks_close handle) (fun _ _ => he)
      (fun e _ => herror e)
  induction parts generalizing current with
  | nil =>
    intro path hpath
    cases hpath
    simp
  | cons name rest ih =>
    unfold walk
    split_ifs
    · exact hclose _ _ _ (fun path h => by cases h) (fun e path h => by cases h)
    · apply Script.only_bind (looks_onOSError (looks_request (by trivial))
        (fun errno => looks_bind (looks_close _) (fun _ => by trivial)))
      · intro _ _
        apply Script.only_bind (looks_close _)
        · intro _ _
          simpa only [List.append_assoc, List.singleton_append] using ih (current ++ [name])
        · exact fun e _ path h => by cases h
      · exact fun e _ path h => by cases h

theorem openDir_returns (parts : List Name) :
    (openDir parts).Only Harmless (fun _ _ => True)
      (fun r => ∀ path, r = .ok path → path = parts) :=
  Script.only_bind looks_openRoot (fun _ _ => walk_returns [] parts)
    (fun e _ path h => by cases h)

theorem looks_openDir (parts : List Name) : Looks (openDir parts) :=
  (openDir_returns parts).mono (fun _ _ => trivial)

theorem looks_ensureStep (current : Path) (name : Name) : Looks (ensureStep current name) := by
  unfold ensureStep
  split_ifs
  · exact trivial
  · apply looks_bind
    · apply looks_onOSError (looks_request (by trivial))
      intro errno
      split_ifs <;> exact trivial
    · intro _
      apply looks_bind (looks_onOSError (looks_request (by trivial)) (fun _ => by trivial))
      exact fun _ => looks_close _

theorem looks_ensureFrom (current : Path) (parts : List Name) :
    Looks (ensureFrom current parts) := by
  induction parts generalizing current with
  | nil => exact looks_close _
  | cons name rest ih =>
    apply looks_bind
    · apply looks_handle (looks_ensureStep current name)
      intro e
      cases e with
      | interrupted => exact trivial
      | value message => exact looks_bind (looks_close _) (fun _ => by trivial)
      | os errno => exact looks_bind (looks_close _) (fun _ => by trivial)
    · exact fun _ => ih _

theorem looks_ensureDirs (parts : List Name) : Looks (ensureDirs parts) :=
  looks_bind looks_openRoot (fun _ => looks_ensureFrom [] parts)

theorem looks_readBlocks (inode patience : Nat) (chunks : Bytes) :
    Looks (readBlocks inode patience chunks) := by
  induction patience generalizing chunks with
  | zero => exact trivial
  | succ patience ih =>
    apply looks_bind (looks_request (by trivial))
    intro block
    split_ifs
    · exact trivial
    · exact ih _

theorem looks_openOptional (parent : Path) (name : Name) : Looks (openOptional parent name) := by
  apply looks_onOSError (looks_bind (looks_request (by trivial)) (fun _ => by trivial))
  intro errno
  split_ifs <;> exact trivial

theorem looks_readOptional (patience : Nat) (parent : Path) (name : Name) :
    Looks (readOptional patience parent name) := by
  apply looks_bind (looks_openOptional parent name)
  intro opened
  cases opened with
  | none => exact trivial
  | some inode =>
    apply looks_bind (looks_lastly (looks_readBlocks inode patience []) (looks_close _))
    exact fun _ => trivial

theorem looks_lstat (parent : Path) (name : Name) : Looks (lstat parent name) :=
  looks_onOSError (looks_request (by trivial)) (fun _ => by trivial)

theorem looks_names (parent : Path) : Looks (names parent) :=
  looks_bind (looks_request (by trivial)) (fun _ => by trivial)

theorem looks_read (sha256 : Bytes → Text) (patience : Nat) (uri : Text) :
    Looks (LocalAssetStore.read sha256 patience uri) := by
  apply looks_bind (looks_ofExcept _)
  intro parsed
  apply looks_bind (looks_openDir _)
  intro parent
  apply looks_bind (looks_lastly (looks_readOptional _ _ _) (looks_close _))
  intro data
  cases data with
  | none => exact trivial
  | some data =>
    dsimp only
    split_ifs <;> exact trivial

end Looks

end Storage
end Integrations
end MoneyMachine
