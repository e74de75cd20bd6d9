import MoneyMachine.Agents.CheckpointRuns
import MoneyMachine.Library.Script
import MoneyMachine.Library.Equality
import Mathlib.Algebra.Group.Nat.Defs

/-!
# CheckpointWriters — several processes in one directory

A temporary is named after its checkpoint and the pid of its writer, and recognised by the beginning
and the end of its name only.  Here the operations of writers and adopters of any checkpoints in one
directory interleave; what a reader finds in a file is arbitrary.

* `writers_spare_temporaries` : which temporaries the operations on one checkpoint never touch.
-/

namespace MoneyMachine
namespace Agents
namespace Progress

open MoneyMachine.Library
open MoneyMachine.Library.Json

/-! ## Names -/

abbrev Name := List Char

/-- `f".{path.name}."`. -/
def marker (a : Name) : Name :=
  '.' :: a ++ ['.']

/-- `".tmp"`. -/
def suffix : Name :=
  ['.', 't', 'm', 'p']

/-- `str(pid)`. -/
def pidDigits (pid : Nat) : Name :=
  Nat.toDigits 10 pid

/-- `f".{path.name}.{os.getpid()}.tmp"`. -/
def tempName (a : Name) (pid : Nat) : Name :=
  marker a ++ pidDigits pid ++ suffix

/-- `name.startswith(marker) and name.endswith(suffix)`. -/
def marked (a name : Name) : Bool :=
  (marker a).isPrefixOf name && suffix.isSuffixOf name

/-- `name[len(marker) : -len(suffix)]`. -/
def pidText (a name : Name) : Name :=
  (name.take (name.length - suffix.length)).drop (marker a).length

/-- What Unicode says of the digits that are not ASCII: a decimal digit with its value, or a digit that
is not decimal. -/
inductive DigitKind
  | decimal (value : Nat)
  | other

section Digits

variable (unicode : Char → Option DigitKind)

/-- `str.isdigit`. -/
def isdigit (text : Name) : Bool :=
  decide (text ≠ []) && text.all (fun c => c.isDigit || (unicode c).isSome)

def digitValue (c : Char) : Option Nat :=
  if c.isDigit then
    some (c.toNat - '0'.toNat)
  else
    match unicode c with
    | some (.decimal value) => some value
    | _ => none

/-- `int(text)` of digits; a digit that is not decimal is a `ValueError`. -/
def int (text : Name) : Option Nat :=
  text.foldl (fun acc c =>
    match acc, digitValue unicode c with
    | some n, some d => some (10 * n + d)
    | _, _ => none) (some 0)

end Digits

/-! ## Operations -/

/-- A file operation, or a signal to another process. -/
inductive FileOp
  | iterdir
  | kill (pid : Nat)
  | isFile (name : Name)
  | read (name : Name)
  | stat (name : Name)
  | create (name : Name)
  | fill (name : Name) (text : List Char)
  | unlink (name : Name)
  | replace (source target : Name)
  deriving DecidableEq

abbrev FileOp.Ans : FileOp → Type
  | .iterdir => List Name
  | .kill _ => Bool
  | .isFile _ => Bool
  | .read _ => List Char
  | .stat _ => Nat
  | .create _ => Unit
  | .fill _ _ => Unit
  | .unlink _ => Unit
  | .replace _ _ => Unit

/-- The file under the name is removed, written, moved away or replaced. -/
def FileOp.touches : FileOp → Name → Prop
  | .create n, name => name = n
  | .fill n _, name => name = n
  | .unlink n, name => name = n
  | .replace source target, name => name = source ∨ name = target
  | _, _ => False

inductive Raised
  | osError
  | interrupted
  | valueError
  | overflowError
  | build (error : ProductBuildError)
  deriving DecidableEq, Repr

abbrev FileScript := Script FileOp FileOp.Ans Raised

namespace Scripts

def ask (op : FileOp) : FileScript op.Ans :=
  Script.request op

def checked {α : Type} (x : Except ProductBuildError α) : FileScript α :=
  match x with
  | .ok a => .ret a
  | .error e => .raise (.build e)

/-- `except OSError`. -/
def onOSError {α : Type} (x handler : FileScript α) : FileScript α :=
  x.handle (fun e => if e = .osError then handler else .raise e)

/-- `except BaseException: ...; raise`. -/
def onAnyError (x cleanup : FileScript Unit) : FileScript Unit :=
  x.handle (fun e => cleanup.andThen (fun _ => .raise e))

/-- `with contextlib.suppress(OSError): file.unlink()`. -/
def removed (name : Name) : FileScript Unit :=
  onOSError (ask (FileOp.unlink name)) (.ret ())

section Env

variable (env : Env) (unicode : Char → Option DigitKind)

/-- `_pid_alive`; a pid that does not fit the call is an `OverflowError`. -/
def pidAlive (pid : Nat) : FileScript Bool :=
  if pid = 0 then
    .ret false
  else if 2 ^ 31 ≤ pid then
    .raise .overflowError
  else
    ask (FileOp.kill pid)

/-- `_pid_alive(int(pid_text))`. -/
def ownerAlive (text : Name) : FileScript Bool :=
  match int unicode text with
  | none => .raise .valueError
  | some pid => pidAlive pid

/-- The loop of `_remove_dead_temps`. -/
def removeDead (a : Name) : List Name → FileScript Unit
  | [] => .ret ()
  | name :: rest => do
      if marked a name then
        if isdigit unicode (pidText a name) then do
          if ← ownerAlive unicode (pidText a name) then
            removeDead a rest
          else do
            removed name
            removeDead a rest
        else do
          removed name
          removeDead a rest
      else
        removeDead a rest

/-- `_remove_dead_temps`. -/
def removeDeadTemps (a : Name) : FileScript Unit := do
  let names : List Name ← ask FileOp.iterdir
  removeDead unicode a names

/-- `_complete_checkpoint_file`. -/
def completeCheckpointFile (name : Name) : FileScript Bool :=
  onOSError
    (do
      let present : Bool ← ask (FileOp.isFile name)
      if present then do
        let text : List Char ← ask (FileOp.read name)
        if (loadPayload env.sha256 (some text) false).toOption.isSome then
          ask (FileOp.isFile name)
        else
          .ret false
      else
        .ret false)
    (.ret false)

/-- `_strictly_extends`. -/
def extendsLive (candidate live : Name) : FileScript Bool :=
  onOSError
    (do
      let liveText : List Char ← ask (FileOp.read live)
      let text : List Char ← ask (FileOp.read candidate)
      .ret (strictlyExtends env.floatEq text liveText))
    (.ret false)

/-- `write_document`, by the process `pid`. -/
def writeDocument (a : Name) (pid : Nat) (payload progress : Dict) : FileScript Unit := do
  let unsigned ← checked (unsignedBody progress)
  checked (requireShape unsigned)
  removeDeadTemps unicode a
  let temporary := tempName a pid
  onAnyError
    (do
      ask (FileOp.create temporary)
      ask (FileOp.fill temporary (Document.text env.sha256 ⟨payload, unsigned⟩)))
    (removed temporary)
  onAnyError (ask (FileOp.replace temporary a)) (do
    if ← completeCheckpointFile env temporary then
      .ret ()
    else
      removed temporary)

/-- The entries that `adopt_checkpoint_temps` takes up. -/
def adoptable (a : Name) : List Name → FileScript (List Name)
  | [] => .ret []
  | name :: rest => do
      if marked a name && isdigit unicode (pidText a name) then do
        if ← ownerAlive unicode (pidText a name) then
          adoptable a rest
        else if ← completeCheckpointFile env name then
          if ← extendsLive env name a then do
            let found ← adoptable a rest
            .ret (name :: found)
          else
            adoptable a rest
        else
          adoptable a rest
      else
        adoptable a rest

/-- `_newest_mtime` of each. -/
def modified : List Name → FileScript (List (Nat × Name))
  | [] => .ret []
  | name :: rest => do
      let mtime : Nat ← ask (FileOp.stat name)
      let others ← modified rest
      .ret ((mtime, name) :: others)

/-- The last loop of `adopt_checkpoint_temps`. -/
def installFirst (a : Name) : List Name → FileScript Unit
  | [] => .ret ()
  | name :: rest => do
      if ← extendsLive env name a then do
        let installed ← onOSError
          (do
            ask (FileOp.replace name a)
            .ret true)
          (.ret false)
        if installed then .ret () else installFirst a rest
      else
        installFirst a rest

/-- `adopt_checkpoint_temps`. -/
def adoptCheckpointTemps (a : Name) : FileScript Unit := do
  let present : Bool ← ask (FileOp.isFile a)
  if present then do
    let names : List Name ← ask FileOp.iterdir
    let found ← adoptable env unicode a names
    let stamped ← modified found
    installFirst env a ((stamped.insertionSort (fun x y => y.1 ≤ x.1)).map Prod.snd)
  else
    .ret ()

end Env

end Scripts

/-! ## The directory and the processes -/

/-- What a process does in the directory. -/
inductive Task
  | write (name : Name) (payload progress : Dict)
  | adopt (name : Name)

/-- The checkpoint it works on. -/
def Task.name : Task → Name
  | .write name _ _ => name
  | .adopt name => name

def Task.script (env : Env) (unicode : Char → Option DigitKind) (pid : Nat) : Task → FileScript Unit
  | .write name payload progress => Scripts.writeDocument env unicode name pid payload progress
  | .adopt name => Scripts.adoptCheckpointTemps env unicode name

/-- The processes that live throughout, some of them with a task in the directory. -/
structure Processes where
  live : Nat → Bool
  task : Nat → Option Task
  valid : ∀ pid, live pid = true → 0 < pid ∧ pid < 2 ^ 31
  running : ∀ pid t, task pid = some t → live pid = true

/-- How an operation ends. -/
inductive Outcome
  | done
  | error
  | interrupted
  deriving DecidableEq, Repr

/-- What the system decides in one turn. -/
structure Turn where
  outcome : Outcome
  /-- The place of a name in a listing. -/
  place : Name → Nat
  /-- Whether a pid of no process that lives throughout is taken. -/
  alive : Bool
  /-- What is found in a file. -/
  text : List Char
  mtime : Nat

/-- Fail as it is decided, else answer and change the names. -/
def Turn.finish {α : Type} (turn : Turn) (d : List Name) (answer : Except Raised α × List Name) :
    Except Raised α × List Name :=
  match turn.outcome with
  | .done => answer
  | .error => (.error .osError, d)
  | .interrupted => (.error .interrupted, d)

/-- One operation in the directory of these names. -/
def perform (procs : Processes) (d : List Name) (turn : Turn) :
    (op : FileOp) → Except Raised op.Ans × List Name
  | .iterdir =>
    turn.finish d (.ok (d.insertionSort (fun m n => turn.place m ≤ turn.place n)), d)
  | .kill pid => (.ok (procs.live pid || turn.alive), d)
  | .isFile name => (.ok (decide (name ∈ d)), d)
  | .read name =>
    turn.finish d (if name ∈ d then (.ok turn.text, d) else (.error .osError, d))
  | .stat name =>
    turn.finish d (if name ∈ d then (.ok turn.mtime, d) else (.error .osError, d))
  | .create name => turn.finish d (.ok (), if name ∈ d then d else name :: d)
  | .fill _ _ => turn.finish d (.ok (), d)
  | .unlink name =>
    turn.finish d (if name ∈ d then (.ok (), d.filter (· ≠ name)) else (.error .osError, d))
  | .replace source target =>
    turn.finish d
      (if source ∈ d then (.ok (), target :: d.filter (fun n => n ≠ source ∧ n ≠ target))
        else (.error .osError, d))

/-- The processes at the start of their tasks, over any directory. -/
def startWorld (env : Env) (unicode : Char → Option DigitKind) (procs : Processes) (d : List Name) :
    World FileOp FileOp.Ans Raised Unit Nat (List Name) where
  shared := d
  scripts := fun pid =>
    match procs.task pid with
    | some task => task.script env unicode pid
    | none => .ret ()

/-! ## What a name says -/

theorem pidDigits_digit {pid : Nat} {c : Char} (h : c ∈ pidDigits pid) : c.isDigit = true :=
  Nat.isDigit_of_mem_toDigits (by decide) (by decide) h

theorem point_notMem_pidDigits (pid : Nat) : '.' ∉ pidDigits pid := by
  intro h
  exact absurd (pidDigits_digit h) (by decide)

theorem pidDigits_injective {p q : Nat} (h : pidDigits p = pidDigits q) : p = q := by
  have hp : Nat.ofDigitChars 10 (pidDigits p) 0 = p := Nat.ofDigitChars_ten_toDigits
  have hq : Nat.ofDigitChars 10 (pidDigits q) 0 = q := Nat.ofDigitChars_ten_toDigits
  rw [← hp, h, hq]

section Digits

variable (unicode : Char → Option DigitKind)

theorem isdigit_pidDigits (pid : Nat) : isdigit unicode (pidDigits pid) = true := by
  have hall : (pidDigits pid).all (fun c => c.isDigit || (unicode c).isSome) = true := by
    rw [List.all_eq_true]
    intro c hc
    rw [pidDigits_digit hc]
    rfl
  have hne : pidDigits pid ≠ [] := Nat.toDigits_ne_nil
  rw [isdigit, hall, Bool.and_true]
  exact decide_eq_true hne

theorem int_pidDigits (pid : Nat) : int unicode (pidDigits pid) = some pid := by
  -- On ASCII digits `int` is the decimal value.
  have hfold : ∀ (text : Name) (n : Nat), (∀ c ∈ text, c.isDigit = true) →
      text.foldl (fun acc c =>
        match acc, digitValue unicode c with
        | some n, some d => some (10 * n + d)
        | _, _ => none) (some n) = some (Nat.ofDigitChars 10 text n) := by
    intro text
    induction text with
    | nil => exact fun n _ => rfl
    | cons c text ih =>
      intro n hdigits
      have hvalue : digitValue unicode c = some (c.toNat - '0'.toNat) := by
        rw [digitValue, if_pos (hdigits c List.mem_cons_self)]
      rw [List.foldl_cons, hvalue, Nat.ofDigitChars_cons]
      exact ih _ (fun d hd => hdigits d (List.mem_cons_of_mem _ hd))
  have hvalue := hfold (pidDigits pid) 0 (fun c hc => pidDigits_digit hc)
  rw [show Nat.ofDigitChars 10 (pidDigits pid) 0 = pid from Nat.ofDigitChars_ten_toDigits] at hvalue
  exact hvalue

end Digits

/-- The digits of a temporary are found between its marker and its suffix. -/
theorem pidText_tempName (a : Name) (pid : Nat) : pidText a (tempName a pid) = pidDigits pid := by
  have hlength : (tempName a pid).length - suffix.length = (marker a ++ pidDigits pid).length := by
    unfold tempName
    rw [List.length_append, Nat.add_sub_cancel]
  unfold pidText
  rw [hlength, tempName, List.take_left, List.drop_left]

/-- The last point of a name divides it in one way. -/
theorem last_point {x y d e : Name} (hd : '.' ∉ d) (he : '.' ∉ e) (h : x ++ '.' :: d = y ++ '.' :: e) :
    x = y ∧ d = e := by
  rcases List.append_eq_append_iff.1 h with ⟨c, hy, hc⟩ | ⟨c, hx, hc⟩
  · cases c with
    | nil =>
      rw [List.append_nil] at hy
      exact ⟨hy.symm, (List.cons.inj hc).2⟩
    | cons p c =>
      have hmem : '.' ∈ d := by
        rw [(List.cons.inj hc).2]
        simp
      exact absurd hmem hd
  · cases c with
    | nil =>
      rw [List.append_nil] at hx
      exact ⟨hx, (List.cons.inj hc).2.symm⟩
    | cons p c =>
      have hmem : '.' ∈ e := by
        rw [(List.cons.inj hc).2]
        simp
      exact absurd hmem he

theorem tempName_injective {a b : Name} {p q : Nat} (h : tempName a p = tempName b q) :
    a = b ∧ p = q := by
  have hmarked : marker a ++ pidDigits p = marker b ++ pidDigits q := List.append_cancel_right h
  have hpoints : ('.' :: a) ++ '.' :: pidDigits p = ('.' :: b) ++ '.' :: pidDigits q := by
    simpa [marker] using hmarked
  rcases last_point (point_notMem_pidDigits p) (point_notMem_pidDigits q) hpoints with ⟨hname, hpid⟩
  exact ⟨(List.cons.inj hname).2, pidDigits_injective hpid⟩

theorem tempName_ne (a : Name) (pid : Nat) : tempName a pid ≠ a := by
  intro h
  have hlength := congrArg List.length h
  simp only [tempName, marker, suffix, List.length_append, List.length_cons, List.length_nil] at hlength
  omega

/-- Two names of which the longer one goes on with a point. -/
theorem point_split {a b t u : Name} (h : a ++ '.' :: t = b ++ '.' :: u) :
    a = b ∨ (∃ x, b = a ++ '.' :: x ∧ t = x ++ '.' :: u) ∨ ∃ x, a = b ++ '.' :: x ∧ u = x ++ '.' :: t := by
  rcases List.append_eq_append_iff.1 h with ⟨c, hb, hc⟩ | ⟨c, ha, hc⟩
  · cases c with
    | nil => exact Or.inl (by simpa using hb.symm)
    | cons p c =>
      rcases List.cons.inj hc with ⟨rfl, ht⟩
      exact Or.inr (Or.inl ⟨c, hb, ht⟩)
  · cases c with
    | nil => exact Or.inl (by simpa using ha)
    | cons p c =>
      rcases List.cons.inj hc with ⟨rfl, hu⟩
      exact Or.inr (Or.inr ⟨c, ha, hu⟩)

/-- The temporary of another checkpoint looks like one of `a` only where one name extends the other. -/
theorem marked_tempName {a b : Name} {q : Nat} (hne : a ≠ b) (h : marked a (tempName b q) = true) :
    (∃ x, b = a ++ '.' :: x) ∨ a = b ++ '.' :: pidDigits q := by
  rw [marked, Bool.and_eq_true, List.isPrefixOf_iff_prefix] at h
  rcases h.1 with ⟨t, ht⟩
  have hnames : a ++ '.' :: t = b ++ '.' :: (pidDigits q ++ suffix) := by
    simpa [marker, tempName] using ht
  rcases point_split hnames with heq | ⟨x, hx, _⟩ | ⟨x, hx, hrest⟩
  · exact absurd heq hne
  · exact Or.inl ⟨x, hx⟩
  · -- The next point of the temporary is the one before `tmp`.
    refine Or.inr ?_
    have hsuffix : pidDigits q ++ '.' :: ['t', 'm', 'p'] = x ++ '.' :: t := hrest
    rcases point_split hsuffix with heq | ⟨y, _, hy⟩ | ⟨y, hy, _⟩
    · rw [hx, heq]
    · have hmem : '.' ∈ ['t', 'm', 'p'] := by
        rw [hy]
        simp
      exact absurd hmem (by decide)
    · have hmem : '.' ∈ pidDigits q := by
        rw [hy]
        simp
      exact absurd hmem (point_notMem_pidDigits q)

/-! ## What each task touches -/

/-- A name that looks like a temporary of `a` and not like one of a process that lives. -/
def Dead (procs : Processes) (a name : Name) : Prop :=
  marked a name = true ∧ ∀ q, procs.live q = true → pidText a name ≠ pidDigits q

/-- The operation touches nothing but the process's own temporary, the checkpoint and dead temporaries. -/
def Confined (procs : Processes) (a : Name) (pid : Nat) (op : FileOp) : Prop :=
  ∀ name, op.touches name → name = tempName a pid ∨ name = a ∨ Dead procs a name

/-- A signal to a process that lives finds it. -/
def possible (procs : Processes) : (op : FileOp) → Except Raised op.Ans → Prop
  | .kill pid, r => procs.live pid = true → r = .ok true
  | _, _ => True

namespace Scripts

variable {procs : Processes} {env : Env} {unicode : Char → Option DigitKind} {a : Name} {pid : Nat}

/-- Every operation is confined. -/
abbrev Tame {α : Type} (procs : Processes) (a : Name) (pid : Nat) (Q : Except Raised α → Prop)
    (x : FileScript α) : Prop :=
  x.Only (Confined procs a pid) (possible procs) Q

theorem ask_tame {op : FileOp} (h : Confined procs a pid op) :
    Tame procs a pid (fun _ => True) (ask op) :=
  (Script.only_request h).mono (fun _ _ => trivial)

/-- An operation that touches nothing. -/
theorem look_tame {op : FileOp} (h : ∀ name, ¬ op.touches name) :
    Tame procs a pid (fun _ => True) (ask op) :=
  ask_tame (fun name htouches => absurd htouches (h name))

theorem checked_tame {α : Type} {x : Except ProductBuildError α} :
    Tame procs a pid (fun _ => True) (checked x) := by
  unfold checked
  cases x with
  | ok _ => exact trivial
  | error _ => exact trivial

theorem onOSError_tame {α : Type} {x handler : FileScript α} {Q R : Except Raised α → Prop}
    (h : Tame procs a pid R x) (hhandler : Tame procs a pid Q handler)
    (hok : ∀ b, R (.ok b) → Q (.ok b)) (herror : ∀ e, R (.error e) → Q (.error e)) :
    Tame procs a pid Q (onOSError x handler) := by
  refine Script.only_handle h hok ?_
  intro e he
  split_ifs with hos
  · exact hhandler
  · exact herror e he

/-- The same where nothing is said about the results. -/
theorem onOSError_tame_any {α : Type} {x handler : FileScript α}
    (h : Tame procs a pid (fun _ => True) x) (hhandler : Tame procs a pid (fun _ => True) handler) :
    Tame procs a pid (fun _ => True) (onOSError x handler) :=
  onOSError_tame h hhandler (fun _ _ => trivial) (fun _ _ => trivial)

theorem onAnyError_tame {x cleanup : FileScript Unit} (h : Tame procs a pid (fun _ => True) x)
    (hcleanup : Tame procs a pid (fun _ => True) cleanup) :
    Tame procs a pid (fun _ => True) (onAnyError x cleanup) :=
  Script.only_handle h (fun _ _ => trivial) (fun _ _ =>
    Script.only_bind hcleanup (fun _ _ => trivial) (fun _ _ => trivial))

theorem removed_tame {name : Name} (h : name = tempName a pid ∨ name = a ∨ Dead procs a name) :
    Tame procs a pid (fun _ => True) (removed name) := by
  refine onOSError_tame_any (ask_tame ?_) trivial
  rintro other rfl
  exact h

/-- An owner that is not alive is none of the processes that live. -/
theorem ownerAlive_tame (text : Name) :
    Tame procs a pid (fun r => r = .ok false → ∀ q, procs.live q = true → text ≠ pidDigits q)
      (ownerAlive unicode text) := by
  unfold ownerAlive
  cases hint : int unicode text with
  | none => exact nofun
  | some owner =>
    -- If the text is the pid of a process that lives, that process is the owner.
    have howner : ∀ q, text = pidDigits q → q = owner := by
      rintro q rfl
      exact Option.some.inj ((int_pidDigits unicode q).symm.trans hint)
    dsimp only
    unfold pidAlive
    by_cases hzero : owner = 0
    · rw [if_pos hzero]
      intro _ q hlive htext
      have hpositive := (procs.valid q hlive).1
      rw [howner q htext, hzero] at hpositive
      exact absurd hpositive (Nat.lt_irrefl 0)
    · rw [if_neg hzero]
      by_cases hlarge : 2 ^ 31 ≤ owner
      · rw [if_pos hlarge]
        intro hraised
        cases hraised
      · rw [if_neg hlarge]
        have hkill : Confined procs a pid (.kill owner) := fun name htouches => absurd htouches id
        refine (Script.only_request hkill).mono ?_
        intro r hr hfalse q hlive htext
        have htrue : r = .ok true := hr (by rw [← howner q htext]; exact hlive)
        cases hfalse.symm.trans htrue

theorem removeDead_tame (names : List Name) :
    Tame procs a pid (fun _ => True) (removeDead unicode a names) := by
  induction names with
  | nil => exact trivial
  | cons name names ih =>
    have hgone : Dead procs a name → Tame procs a pid (fun _ => True)
        (removed name >>= fun _ => removeDead unicode a names) := by
      intro hdead
      exact Script.only_bind (removed_tame (Or.inr (Or.inr hdead))) (fun _ _ => ih)
        (fun _ _ => trivial)
    unfold removeDead
    split_ifs with hmarked hdigits
    · refine Script.only_bind (ownerAlive_tame _) ?_ (fun _ _ => trivial)
      intro alive halive
      split_ifs with htrue
      · exact ih
      · refine hgone ⟨hmarked, halive ?_⟩
        rw [Bool.eq_false_of_not_eq_true htrue]
    · refine hgone ⟨hmarked, ?_⟩
      -- A text that is no number is no pid.
      intro q _ htext
      rw [htext, isdigit_pidDigits] at hdigits
      exact hdigits rfl
    · exact ih

theorem removeDeadTemps_tame : Tame procs a pid (fun _ => True) (removeDeadTemps unicode a) :=
  Script.only_bind (look_tame (fun _ h => h)) (fun names _ => removeDead_tame names)
    (fun _ _ => trivial)

theorem completeCheckpointFile_tame (name : Name) :
    Tame procs a pid (fun _ => True) (completeCheckpointFile env name) := by
  refine onOSError_tame_any ?_ trivial
  refine Script.only_bind (look_tame (fun _ h => h)) ?_ (fun _ _ => trivial)
  intro present _
  split_ifs with hpresent
  · refine Script.only_bind (look_tame (fun _ h => h)) ?_ (fun _ _ => trivial)
    intro text _
    by_cases hload : (loadPayload env.sha256 (some text) false).toOption.isSome = true
    · rw [if_pos hload]
      exact look_tame (fun _ h => h)
    · rw [if_neg hload]
      exact trivial
  · exact trivial

theorem extendsLive_tame (candidate live : Name) :
    Tame procs a pid (fun _ => True) (extendsLive env candidate live) := by
  refine onOSError_tame_any ?_ trivial
  refine Script.only_bind (look_tame (fun _ h => h)) ?_ (fun _ _ => trivial)
  intro liveText _
  exact Script.only_bind (look_tame (fun _ h => h)) (fun _ _ => trivial) (fun _ _ => trivial)

theorem writeDocument_tame (payload progress : Dict) :
    Tame procs a pid (fun _ => True) (writeDocument env unicode a pid payload progress) := by
  have hown : ∀ {op : FileOp}, (∀ name, op.touches name → name = tempName a pid ∨ name = a) →
      Tame procs a pid (fun _ => True) (ask op) :=
    fun h => ask_tame (fun name htouches => (h name htouches).imp id Or.inl)
  have hremoved : Tame procs a pid (fun _ => True) (removed (tempName a pid)) :=
    removed_tame (Or.inl rfl)
  unfold writeDocument
  refine Script.only_bind checked_tame ?_ (fun _ _ => trivial)
  intro unsigned _
  refine Script.only_bind checked_tame ?_ (fun _ _ => trivial)
  intro _ _
  refine Script.only_bind removeDeadTemps_tame ?_ (fun _ _ => trivial)
  intro _ _
  refine Script.only_bind (onAnyError_tame ?_ hremoved) ?_ (fun _ _ => trivial)
  · exact Script.only_bind (hown (fun _ h => Or.inl h)) (fun _ _ => hown (fun _ h => Or.inl h))
      (fun _ _ => trivial)
  · intro _ _
    refine onAnyError_tame (hown (fun _ h => h)) ?_
    refine Script.only_bind (completeCheckpointFile_tame _) ?_ (fun _ _ => trivial)
    intro complete _
    split_ifs with hcomplete
    · exact trivial
    · exact hremoved

/-- Only dead temporaries are taken up. -/
theorem adoptable_tame (names : List Name) :
    Tame procs a pid (fun r => ∀ found, r = .ok found → ∀ name ∈ found, Dead procs a name)
      (adoptable env unicode a names) := by
  induction names with
  | nil =>
    rintro found ⟨⟩
    exact fun name hname => absurd hname List.not_mem_nil
  | cons name names ih =>
    unfold adoptable
    split_ifs with hmarked
    · rw [Bool.and_eq_true] at hmarked
      refine Script.only_bind (ownerAlive_tame _) ?_ (fun _ _ => nofun)
      intro alive halive
      split_ifs with htrue
      · exact ih
      · have hdead : Dead procs a name := by
          refine ⟨hmarked.1, halive ?_⟩
          rw [Bool.eq_false_of_not_eq_true htrue]
        refine Script.only_bind (completeCheckpointFile_tame name) ?_ (fun _ _ => nofun)
        intro complete _
        split_ifs with hcomplete
        · refine Script.only_bind (extendsLive_tame name a) ?_ (fun _ _ => nofun)
          intro longer _
          split_ifs with hlonger
          · refine Script.only_bind ih ?_ (fun _ _ => nofun)
            rintro found hfound all ⟨⟩ other hother
            rcases List.mem_cons.1 hother with rfl | hother
            · exact hdead
            · exact hfound found rfl other hother
          · exact ih
        · exact ih
    · exact ih

theorem modified_tame (names : List Name) :
    Tame procs a pid (fun r => ∀ stamped, r = .ok stamped → stamped.map Prod.snd = names)
      (modified names) := by
  induction names with
  | nil =>
    rintro stamped ⟨⟩
    rfl
  | cons name names ih =>
    unfold modified
    refine Script.only_bind (look_tame (fun _ h => h)) ?_ (fun _ _ => nofun)
    intro mtime _
    refine Script.only_bind ih ?_ (fun _ _ => nofun)
    rintro others hothers stamped ⟨⟩
    rw [List.map_cons, hothers others rfl]

theorem installFirst_tame {names : List Name} (h : ∀ name ∈ names, Dead procs a name) :
    Tame procs a pid (fun _ => True) (installFirst env a names) := by
  induction names with
  | nil => exact trivial
  | cons name names ih =>
    have hrest := ih (fun other hother => h other (List.mem_cons_of_mem _ hother))
    have hreplace : Confined procs a pid (.replace name a) := by
      rintro other (rfl | rfl)
      · exact Or.inr (Or.inr (h other List.mem_cons_self))
      · exact Or.inr (Or.inl rfl)
    unfold installFirst
    refine Script.only_bind (extendsLive_tame name a) ?_ (fun _ _ => trivial)
    intro longer _
    split_ifs with hlonger
    · have htry : Tame procs a pid (fun _ => True)
          (onOSError (do ask (FileOp.replace name a); .ret true) (.ret false)) :=
        onOSError_tame_any (Script.only_bind (ask_tame hreplace) (fun _ _ => trivial)
          (fun _ _ => trivial)) trivial
      refine Script.only_bind htry ?_ (fun _ _ => trivial)
      intro installed _
      split_ifs with hinstalled
      · exact trivial
      · exact hrest
    · exact hrest

theorem adoptCheckpointTemps_tame :
    Tame procs a pid (fun _ => True) (adoptCheckpointTemps env unicode a) := by
  unfold adoptCheckpointTemps
  refine Script.only_bind (look_tame (fun _ h => h)) ?_ (fun _ _ => trivial)
  intro present _
  split_ifs with hpresent
  · refine Script.only_bind (look_tame (fun _ h => h)) ?_ (fun _ _ => trivial)
    intro names _
    refine Script.only_bind (adoptable_tame names) ?_ (fun _ _ => trivial)
    intro found hfound
    refine Script.only_bind (modified_tame found) ?_ (fun _ _ => trivial)
    intro stamped hstamped
    refine installFirst_tame ?_
    intro name hname
    rcases List.mem_map.1 hname with ⟨stamp, hstamp, rfl⟩
    have hmem : stamp.2 ∈ found := by
      rw [← hstamped stamped rfl]
      exact List.mem_map_of_mem ((List.mem_insertionSort _).1 hstamp)
    exact hfound found rfl _ hmem
  · exact trivial

theorem script_tame (task : Task) :
    Tame procs task.name pid (fun _ => True) (task.script env unicode pid) := by
  cases task with
  | write name payload progress => exact writeDocument_tame payload progress
  | adopt name => exact adoptCheckpointTemps_tame

end Scripts

/-! ## Interleavings -/

theorem perform_possible (procs : Processes) (d : List Name) (turn : Turn) (op : FileOp) :
    possible procs op (perform procs d turn op).1 := by
  cases op with
  | kill pid =>
    intro hlive
    show Except.ok (procs.live pid || turn.alive) = Except.ok true
    rw [hlive]
    rfl
  | iterdir => exact trivial
  | isFile name => exact trivial
  | read name => exact trivial
  | stat name => exact trivial
  | create name => exact trivial
  | fill name text => exact trivial
  | unlink name => exact trivial
  | replace source target => exact trivial

theorem startWorld_tame (env : Env) (unicode : Char → Option DigitKind) (procs : Processes)
    (d : List Name) (pid : Nat) :
    ((startWorld env unicode procs d).scripts pid).Only
      (fun op => ∀ task, procs.task pid = some task → Confined procs task.name pid op)
      (possible procs) (fun _ => True) := by
  unfold startWorld
  dsimp only
  cases htask : procs.task pid with
  | none => exact trivial
  | some task =>
    have htame : Scripts.Tame procs task.name pid (fun _ => True) (task.script env unicode pid) :=
      Scripts.script_tame task
    refine htame.mono_op ?_
    rintro op hop other ⟨⟩
    exact hop

/-- The names of the two checkpoints do not get in each other's way: `b` is not `a` with a point behind
it, and `a` is neither `b` with the pid of one of its writers nor the name of that writer's temporary. -/
structure Apart (procs : Processes) (a b : Name) : Prop where
  longer : ∀ x, b ≠ a ++ '.' :: x
  shorter : ∀ q payload progress, procs.task q = some (.write b payload progress) →
    a ≠ b ++ '.' :: pidDigits q ∧ a ≠ tempName b q

/-- The operation leaves the temporaries of the writers of `b` alone, and those of `a` whose process is
another one that lives. -/
def Spares (procs : Processes) (a b : Name) (pid : Nat) (op : FileOp) : Prop :=
  (∀ q payload progress, procs.task q = some (.write b payload progress) →
    ¬ op.touches (tempName b q)) ∧
  ∀ q, procs.live q = true → q ≠ pid → ¬ op.touches (tempName a q)

theorem Confined.spares {procs : Processes} {a b : Name} {pid : Nat} {op : FileOp}
    (h : Confined procs a pid op) (hne : a ≠ b) (hapart : Apart procs a b) :
    Spares procs a b pid op := by
  constructor
  · intro q payload progress htask htouches
    rcases h _ htouches with hown | hlive | hdead
    · exact hne (tempName_injective hown).1.symm
    · exact (hapart.shorter q payload progress htask).2 hlive.symm
    · rcases marked_tempName hne hdead.1 with ⟨x, hx⟩ | hshorter
      · exact hapart.longer x hx
      · exact (hapart.shorter q payload progress htask).1 hshorter
  · intro q hlive hother htouches
    rcases h _ htouches with hown | hname | hdead
    · exact hother (tempName_injective hown).2
    · exact tempName_ne a q hname
    · exact hdead.2 q hlive (pidText_tempName a q)

/-- In every interleaving over every directory, no operation on `a` touches a temporary of a writer of
`b`, or one of `a` whose process is another one that lives. -/
theorem writers_spare_temporaries (env : Env) (unicode : Char → Option DigitKind) (procs : Processes)
    (d : List Name) {a b : Name} (hne : a ≠ b) (hapart : Apart procs a b) (turns : List (Nat × Turn)) :
    Along (World.step (perform procs))
      (fun w turn => ∀ op task, w.asks turn.1 = some op → procs.task turn.1 = some task →
        task.name = a → Spares procs a b turn.1 op)
      (startWorld env unicode procs d) turns := by
  have hconfined := World.along_only (perform_possible procs) (startWorld_tame env unicode procs d) turns
  refine along_of_invariant (I := fun _ => True) (fun _ _ _ _ => trivial) ?_ trivial hconfined
  rintro w turn - hop op task hasks htask rfl
  exact (hop op hasks task htask).spares hne hapart

/-! ## Samples -/

/-- Two processes, each with a checkpoint to write. -/
def twoWriters (a b : Name) : Processes where
  live := fun pid => decide (pid = 7 ∨ pid = 8)
  task := fun pid =>
    if pid = 7 then some (.write b [] (sampleBody []))
    else if pid = 8 then some (.write a [] (sampleBody []))
    else none
  valid := by
    intro pid hpid
    rcases of_decide_eq_true hpid with rfl | rfl
    · decide
    · decide
  running := by
    intro pid t ht
    split_ifs at ht with h7 h8
    · exact decide_eq_true (Or.inl h7)
    · exact decide_eq_true (Or.inr h8)

/-- A turn in which everything goes well. -/
def plainTurn : Turn where
  outcome := .done
  place := fun _ => 0
  alive := false
  text := []
  mtime := 0

def noUnicode : Char → Option DigitKind :=
  fun _ => none

/-- The writer of `cp` removes the temporary that the writer of `cp.bak` has just made. -/
theorem longer_name_removed :
    let a : Name := ['c', 'p']
    let b : Name := ['c', 'p', '.', 'b', 'a', 'k']
    let w := runFrom (World.step (perform (twoWriters a b)))
      (startWorld sampleEnv noUnicode (twoWriters a b) []) [(7, plainTurn), (7, plainTurn), (8, plainTurn)]
    a ≠ b ∧ w.shared = [tempName b 7] ∧ w.asks 8 = some (.unlink (tempName b 7)) := by
  decide +kernel

theorem writers_spare_temporaries_sample :
    let a : Name := ['c', 'p']
    let b : Name := ['q']
    a ≠ b ∧ Apart (twoWriters a b) a b ∧
      Along (World.step (perform (twoWriters a b)))
        (fun w turn => ∀ op task, w.asks turn.1 = some op → (twoWriters a b).task turn.1 = some task →
          task.name = a → Spares (twoWriters a b) a b turn.1 op)
        (startWorld sampleEnv noUnicode (twoWriters a b) []) [(7, plainTurn), (7, plainTurn), (8, plainTurn)] := by
  intro a b
  have hne : a ≠ b := by decide
  have hapart : Apart (twoWriters a b) a b := by
    constructor
    · intro x hx
      have hfirst : some 'q' = some 'c' := congrArg List.head? hx
      exact absurd hfirst (by decide)
    · intro q payload progress _
      constructor
      · intro hq
        have hfirst : some 'c' = some 'q' := congrArg List.head? hq
        exact absurd hfirst (by decide)
      · intro hq
        have hfirst : some 'c' = some '.' := congrArg List.head? hq
        exact absurd hfirst (by decide)
  exact ⟨hne, hapart, writers_spare_temporaries sampleEnv noUnicode (twoWriters a b) [] hne hapart _⟩

end Progress
end Agents
end MoneyMachine
