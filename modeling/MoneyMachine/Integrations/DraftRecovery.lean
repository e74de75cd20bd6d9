import MoneyMachine.Integrations.DraftLedger
import MoneyMachine.Integrations.DraftPages
import MoneyMachine.Library.Halting

/-!
# DraftRecovery — what the next call does after a crash

A call that finds its row pending, or no row at all, walks the shop's drafts.  It records the one with its
marker, whatever temporary file an earlier call left next to the row, and without one it sends nothing
for a pending row.

* `createDraft_finished` : a call that is alone comes to an end;
* `createDraft_adopts`   : it adopts the one draft with its marker;
* `createDraft_refuses`  : it refuses a pending row without a draft.
-/

namespace MoneyMachine
namespace Integrations

open MoneyMachine.Domain
open MoneyMachine.Library

/-! ## A call alone -/

section Alone

variable (sha256 : String → String) (spec : DraftSpec) (send : FixtureTransport)

/-- `fixture_hash` of the spec in its marker. -/
def specMarker : String :=
  draftMarker spec.specVersion (fixtureHash sha256 spec)

/-- The file of the spec's row. -/
def specPath : String :=
  ledgerPath spec.specVersion (fixtureHash sha256 spec)

/-- What happens next to a call that nothing disturbs. -/
def nextEvent : Phase → ClientEvent
  | .walking _ => .pages (pageReplies (some send) spec.shopId)
  | .confirming _ _ => .pages (pageReplies (some send) spec.shopId)
  | .posted => .reply (createReply (some send) spec (specMarker sha256 spec))
  | _ => .proceed

/-- One step of the call. -/
def aloneStep (clients : DraftClients Unit) : DraftClients Unit :=
  clientsStep sha256 (fun _ => spec) clients ((), nextEvent sha256 spec send (clients.phases ()))

/-- The call stopped after `n` steps. -/
def stoppedAfter (directory : Directory) (n : Nat) : DraftClients Unit :=
  (aloneStep sha256 spec send)^[n] (DraftClients.start (fun _ => spec) directory)

/-- The steps a call has left at most. -/
def Phase.remaining : Phase → Nat
  | .idle => 17
  | .opening => 16
  | .reading _ => 15
  | .walking _ => 14
  | .confirming _ _ => 13
  | .claiming => 12
  | .reopening => 11
  | .creating => 11
  | .rereading _ => 10
  | .writing _ => 10
  | .syncing => 9
  | .posting => 8
  | .posted => 7
  | .unlinkingNext _ => 6
  | .creatingNext _ => 5
  | .writingNext _ _ => 4
  | .syncingNext _ => 3
  | .replacing _ => 2
  | .syncingRow _ => 1
  | .returned _ => 0
  | .raised _ => 0
  | .crashed => 0

/-- `create_draft`, from the first access to the last. -/
def createDraft (directory : Directory) : DraftClients Unit :=
  stoppedAfter sha256 spec send directory Phase.idle.remaining

/-- `DraftReceipt`. -/
structure DraftReceipt where
  listingId : Int
  specVersion : Int
  fixtureHash : String
  marker : String
  state : String
  ready : Bool
  deriving DecidableEq, Repr

/-- `_receipt`. -/
def receiptOf (listingId : Int) : DraftReceipt :=
  { listingId := listingId
    specVersion := spec.specVersion
    fixtureHash := fixtureHash sha256 spec
    marker := specMarker sha256 spec
    state := "draft"
    ready := true }

/-- What the call returned, if it did. -/
def DraftClients.receipt? (clients : DraftClients Unit) : Option DraftReceipt :=
  match clients.phases () with
  | .returned listingId => some (receiptOf sha256 spec listingId)
  | _ => none

end Alone

/-- `DraftLedger.get`, when nothing happens in between. -/
def ledgerGet (directory : Directory) (path : String) : Except DraftError (Option LedgerEntry) :=
  match directory.names path with
  | none => .ok none
  | some descriptor => (parseRow (directory.contents descriptor)).map some

/-- A state with one call in it. -/
def alone (directory : Directory) (phase : Phase) (posts : List Unit) : DraftClients Unit :=
  { directory := directory
    phases := fun _ => phase
    posts := posts }

attribute [local simp] clientStep nextEvent advance openRow

section Steps

variable {sha256 : String → String} {spec : DraftSpec} {send : FixtureTransport}

/-- A step of the call is one of its client. -/
theorem aloneStep_alone (directory : Directory) (phase : Phase) (posts : List Unit) :
    aloneStep sha256 spec send (alone directory phase posts) =
      alone
        (clientStep (specPath sha256 spec) (specMarker sha256 spec) directory phase
          (nextEvent sha256 spec send phase)).1
        (clientStep (specPath sha256 spec) (specMarker sha256 spec) directory phase
          (nextEvent sha256 spec send phase)).2
        (if phase = .posting ∧ (clientStep (specPath sha256 spec) (specMarker sha256 spec) directory phase
            (nextEvent sha256 spec send phase)).2 = .posted then posts ++ [()] else posts) := by
  have hunique : ∀ phase', Function.update (fun _ : Unit => phase) () phase' = fun _ => phase' := by
    intro phase'
    funext i
    rfl
  simp only [aloneStep, clientsStep, alone, hunique]
  rfl

theorem eq_alone (clients : DraftClients Unit) :
    clients = alone clients.directory (clients.phases ()) clients.posts := rfl

/-- Each step uses up one of those that remain. -/
theorem remaining_clientStep (directory : Directory) (phase : Phase) :
    (clientStep (specPath sha256 spec) (specMarker sha256 spec) directory phase
      (nextEvent sha256 spec send phase)).2.remaining ≤ phase.remaining - 1 := by
  cases phase with
  | idle =>
    simp only [nextEvent, clientStep, advance]
    split <;> simp [Phase.remaining]
  | opening =>
    simp only [nextEvent, clientStep, advance, openRow]
    split <;> simp [Phase.remaining]
  | reading descriptor =>
    simp only [nextEvent, clientStep, advance]
    split <;> simp [Phase.remaining]
  | walking existing =>
    simp only [nextEvent, clientStep]
    split <;> simp [Phase.remaining]
  | confirming existing first =>
    simp only [nextEvent, clientStep]
    split
    · simp [Phase.remaining]
    · simp only [afterWalks]
      split
      · simp [Phase.remaining]
      · simp [Phase.remaining]
      · split <;> simp [Phase.remaining]
  | claiming =>
    simp only [nextEvent, clientStep, advance]
    split <;> simp [Phase.remaining]
  | reopening =>
    simp only [nextEvent, clientStep, advance, openRow]
    split <;> simp [Phase.remaining]
  | rereading descriptor =>
    simp only [nextEvent, clientStep, advance]
    split <;> simp [Phase.remaining]
  | creating =>
    simp only [nextEvent, clientStep, advance]
    split <;> simp [Phase.remaining]
  | posted =>
    simp only [nextEvent, clientStep]
    split <;> simp [Phase.remaining]
  | creatingNext listingId =>
    simp only [nextEvent, clientStep, advance]
    split <;> simp [Phase.remaining]
  | replacing listingId =>
    simp only [nextEvent, clientStep, advance]
    split <;> simp [Phase.remaining]
  | _ => simp [Phase.remaining]

/-- A call that has ended stays as it is. -/
theorem finished_iff (phase : Phase) : phase.finished = true ↔ phase.remaining = 0 := by
  cases phase <;> simp [Phase.finished, Phase.remaining]

theorem isFixedPt_of_finished {clients : DraftClients Unit}
    (h : (clients.phases ()).finished = true) :
    Function.IsFixedPt (aloneStep sha256 spec send) clients := by
  rw [eq_alone clients]
  generalize clients.phases () = phase at h ⊢
  show aloneStep sha256 spec send _ = _
  rw [aloneStep_alone]
  cases phase with
  | returned listingId => rfl
  | raised error => rfl
  | crashed => rfl
  | _ => cases h

/-- A call that nothing disturbs comes to an end. -/
theorem createDraft_finished (directory : Directory) :
    ((createDraft sha256 spec send directory).phases ()).finished = true := by
  have hstep : ∀ clients : DraftClients Unit,
      ((aloneStep sha256 spec send clients).phases ()).remaining ≤ (clients.phases ()).remaining - 1 := by
    intro clients
    rw [eq_alone clients, aloneStep_alone]
    exact remaining_clientStep _ _
  have hused := @iterate_rank _ (aloneStep sha256 spec send) (fun clients => (clients.phases ()).remaining)
    hstep (DraftClients.start (fun _ => spec) directory) Phase.idle.remaining
  have hstart : ((DraftClients.start (fun _ : Unit => spec) directory).phases ()).remaining ≤
      Phase.idle.remaining := by
    simp only [DraftClients.start]
    split <;> simp [Phase.remaining]
  rw [Nat.sub_eq_zero_of_le hstart] at hused
  exact (finished_iff _).mpr (Nat.le_zero.mp hused)

/-- The call ends where its steps lead. -/
theorem createDraft_eq_of_leads {directory : Directory} {clients : DraftClients Unit}
    (h : Leads (aloneStep sha256 spec send) (DraftClients.start (fun _ => spec) directory) clients)
    (hfinished : (clients.phases ()).finished = true) :
    createDraft sha256 spec send directory = clients := by
  obtain ⟨n, hn⟩ := h
  exact halted_unique rfl hn (isFixedPt_of_finished (createDraft_finished directory))
    (isFixedPt_of_finished hfinished)

theorem start_admitted (h : requireSpec spec = .ok ()) (directory : Directory) :
    DraftClients.start (fun _ : Unit => spec) directory = alone directory .idle [] := by
  simp only [DraftClients.start, h]
  rfl

/-- A step other than the `POST` keeps the `POST`s. -/
theorem aloneStep_of {directory directory' : Directory} {phase phase' : Phase} (posts : List Unit)
    (hstep : clientStep (specPath sha256 spec) (specMarker sha256 spec) directory phase
      (nextEvent sha256 spec send phase) = (directory', phase'))
    (hquiet : phase ≠ .posting) :
    aloneStep sha256 spec send (alone directory phase posts) = alone directory' phase' posts := by
  rw [aloneStep_alone, hstep, if_neg (fun hposting => hquiet hposting.1)]

end Steps

/-! ## The ledger -/

section Ledger

variable {path : String} {directory : Directory}

theorem decimalValue_toDigits (n : Nat) : decimalValue (Nat.toDigits 10 n) = n :=
  Nat.ofDigitChars_ten_toDigits

/-- A recorded row is read back. -/
theorem parseRow_recordedText {listingId : Int} (h : 1 ≤ listingId) :
    parseRow (recordedText listingId) = .ok (.recorded listingId.toNat) := by
  have hchars : (recordedText listingId).toList =
      "recorded".toList ++ '\n' :: (Nat.toDigits 10 listingId.toNat ++ '\n' :: []) := by
    rw [recordedText, String.toList_append, String.toList_append,
      toString_int_toList (Int.le_of_lt h)]
    rfl
  have hdigits : '\n' ∉ Nat.toDigits 10 listingId.toNat := by
    intro hmem
    have hdigit := Nat.isDigit_of_mem_toDigits (by decide) (by decide) hmem
    revert hdigit
    decide
  have hsplit : (recordedText listingId).toList.splitOn '\n' =
      ["recorded".toList, Nat.toDigits 10 listingId.toNat, []] := by
    rw [hchars, List.splitOn_append_cons_self_of_not_mem (by decide),
      List.splitOn_append_cons_self_of_not_mem hdigits]
    rfl
  have hpending : recordedText listingId ≠ "pending\n" := by
    intro heq
    have hhead : some 'r' = some 'p' := by
      have hlist := congrArg List.head? (congrArg String.toList heq)
      rw [hchars] at hlist
      exact hlist
    revert hhead
    decide
  have hstart : startsWith (recordedText listingId) "recorded\n" = true := by
    rw [startsWith, hchars]
    exact List.isPrefixOf_iff_prefix.mpr ⟨Nat.toDigits 10 listingId.toNat ++ ['\n'], rfl⟩
  have hvalue : 1 ≤ decimalValue (Nat.toDigits 10 listingId.toNat) := by
    rw [decimalValue_toDigits]
    exact Int.le_toNat (Int.le_of_lt h) |>.mpr h
  have hnonempty : Nat.toDigits 10 listingId.toNat ≠ [] := by
    obtain ⟨c, cs, hcons, -, -⟩ := Json.toDigits_cons listingId.toNat
    rw [hcons]
    exact List.cons_ne_nil c cs
  simp only [parseRow, if_neg hpending, hstart, if_true, hsplit]
  rw [if_pos ⟨hnonempty, toDigits_all _, hvalue⟩, decimalValue_toDigits]

/-- What `get` says of a row with a given text. -/
theorem ledgerGet_eq {descriptor : Nat} {text : String} (hname : directory.names path = some descriptor)
    (htext : directory.contents descriptor = text) :
    ledgerGet directory path = (parseRow text).map some := by
  rw [ledgerGet, hname, ← htext]

end Ledger

/-! ## Adopting -/

section Adopting

variable {sha256 : String → String} {spec : DraftSpec} {send : FixtureTransport}

/-- The directory once the temporary file is created. -/
def temporaryIn (directory : Directory) (path : String) : Directory :=
  { names := Function.update (Function.update directory.names (nextPath path) none) (nextPath path)
      (some directory.next)
    contents := Function.update directory.contents directory.next ""
    next := directory.next + 1 }

/-- The directory after `record`. -/
def recordIn (directory : Directory) (path : String) (listingId : Int) : Directory :=
  { (temporaryIn directory path).write directory.next (recordedText listingId) with
    names := Function.update (Function.update (temporaryIn directory path).names (nextPath path) none) path
      (some directory.next) }

/-- The recorded row is read back. -/
theorem ledgerGet_recordIn (directory : Directory) (path : String) {listingId : Int}
    (h : 1 ≤ listingId) :
    ledgerGet (recordIn directory path listingId) path =
      .ok (some (.recorded listingId.toNat)) := by
  have hname : (recordIn directory path listingId).names path = some directory.next := by
    simp [recordIn]
  have htext : (recordIn directory path listingId).contents directory.next = recordedText listingId := by
    simp [recordIn, Directory.write]
  rw [ledgerGet_eq hname htext, parseRow_recordedText h]
  rfl

/-- `record` replaces the row, whatever lies at the temporary name. -/
theorem leads_record (directory : Directory) (listingId : Int) (posts : List Unit) :
    Leads (aloneStep sha256 spec send) (alone directory (.unlinkingNext listingId) posts)
      (alone (recordIn directory (specPath sha256 spec) listingId) (.returned listingId) posts) := by
  generalize hpath : specPath sha256 spec = path
  have hcreate : (directory.unlink (nextPath path)).createExclusive (nextPath path) =
      some (temporaryIn directory path, directory.next) := by
    have hnone : (directory.unlink (nextPath path)).names (nextPath path) = none := by
      simp [Directory.unlink]
    simp only [Directory.createExclusive, hnone]
    rfl
  have hreplace : ((temporaryIn directory path).write directory.next (recordedText listingId)).replace
      (nextPath path) path = some (recordIn directory path listingId) := by
    have hname : ((temporaryIn directory path).write directory.next (recordedText listingId)).names
        (nextPath path) = some directory.next := by
      simp [temporaryIn, Directory.write]
    simp only [Directory.replace, hname, Option.map_some]
    rfl
  have hunlinked := @aloneStep_of sha256 spec send directory (directory.unlink (nextPath path))
    (.unlinkingNext listingId) (.creatingNext listingId) posts (by rw [hpath]; rfl) (by simp)
  have hcreated := @aloneStep_of sha256 spec send (directory.unlink (nextPath path))
    (temporaryIn directory path) (.creatingNext listingId) (.writingNext listingId directory.next) posts
    (by simp [hpath, hcreate]) (by simp)
  have hwritten := @aloneStep_of sha256 spec send (temporaryIn directory path)
    ((temporaryIn directory path).write directory.next (recordedText listingId))
    (.writingNext listingId directory.next) (.syncingNext listingId) posts rfl (by simp)
  have hsynced := @aloneStep_of sha256 spec send
    ((temporaryIn directory path).write directory.next (recordedText listingId))
    ((temporaryIn directory path).write directory.next (recordedText listingId))
    (.syncingNext listingId) (.replacing listingId) posts rfl (by simp)
  have hreplaced := @aloneStep_of sha256 spec send
    ((temporaryIn directory path).write directory.next (recordedText listingId))
    (recordIn directory path listingId) (.replacing listingId) (.syncingRow listingId) posts
    (by simp [hpath, hreplace]) (by simp)
  have hreturned := @aloneStep_of sha256 spec send (recordIn directory path listingId)
    (recordIn directory path listingId) (.syncingRow listingId) (.returned listingId) posts rfl (by simp)
  exact Leads.head hunlinked (Leads.head hcreated (Leads.head hwritten (Leads.head hsynced
    (Leads.head hreplaced (Leads.head hreturned (Leads.refl _))))))

/-- The first look at the ledger: nothing, or a row that is pending. -/
theorem leads_lookup {directory : Directory} {existing : Option LedgerEntry} (posts : List Unit)
    (h : ledgerGet directory (specPath sha256 spec) = .ok existing)
    (hopen : existing = none ∨ existing = some .pending) :
    Leads (aloneStep sha256 spec send) (alone directory .idle posts)
      (alone directory (.walking existing) posts) := by
  cases hname : directory.names (specPath sha256 spec) with
  | none =>
    have hnone : existing = none := by
      simp only [ledgerGet, hname] at h
      exact (Except.ok.inj h).symm
    have hprobed := @aloneStep_of sha256 spec send directory directory .idle (.walking none) posts
      (by simp [hname]) (by simp)
    rw [hnone]
    exact Leads.head hprobed (Leads.refl _)
  | some descriptor =>
    rw [ledgerGet_eq hname rfl] at h
    obtain ⟨entry, hparse, hentry⟩ := map_eq_ok.mp h
    have hpending : entry = .pending := by
      rcases hopen with rfl | rfl
      · cases hentry
      · exact Option.some.inj hentry
    rw [hpending] at hparse hentry
    have hprobed := @aloneStep_of sha256 spec send directory directory .idle .opening posts
      (by simp [hname]) (by simp)
    have hopened := @aloneStep_of sha256 spec send directory directory .opening (.reading descriptor)
      posts (by simp [hname]) (by simp)
    have hread := @aloneStep_of sha256 spec send directory directory (.reading descriptor)
      (.walking (some .pending)) posts (by simp [hparse]) (by simp)
    rw [← hentry]
    exact Leads.head hprobed (Leads.head hopened (Leads.head hread (Leads.refl _)))

/-- A recorded row is returned at once. -/
theorem leads_recorded {directory : Directory} {listingId : Nat} (posts : List Unit)
    (h : ledgerGet directory (specPath sha256 spec) = .ok (some (.recorded listingId))) :
    Leads (aloneStep sha256 spec send) (alone directory .idle posts)
      (alone directory (.returned listingId) posts) := by
  cases hname : directory.names (specPath sha256 spec) with
  | none =>
    simp only [ledgerGet, hname] at h
    cases h
  | some descriptor =>
    rw [ledgerGet_eq hname rfl] at h
    obtain ⟨entry, hparse, hentry⟩ := map_eq_ok.mp h
    cases hentry
    have hprobed := @aloneStep_of sha256 spec send directory directory .idle .opening posts
      (by simp [hname]) (by simp)
    have hopened := @aloneStep_of sha256 spec send directory directory .opening (.reading descriptor)
      posts (by simp [hname]) (by simp)
    have hread := @aloneStep_of sha256 spec send directory directory (.reading descriptor)
      (.returned listingId) posts (by simp [hparse]) (by simp)
    exact Leads.head hprobed (Leads.head hopened (Leads.head hread (Leads.refl _)))

/-- Both walks read the same pages, and what the first one found decides. -/
theorem leads_walks {directory : Directory} {existing : Option LedgerEntry} {walk : Walk}
    (posts : List Unit)
    (h : readPages (specMarker sha256 spec) (pageReplies (some send) spec.shopId) = .ok walk) :
    Leads (aloneStep sha256 spec send) (alone directory (.walking existing) posts)
      (alone directory (afterWalks existing walk walk) posts) := by
  have hwalked := @aloneStep_of sha256 spec send directory directory (.walking existing)
    (.confirming existing walk) posts (by simp [h]) (by simp)
  have hconfirmed := @aloneStep_of sha256 spec send directory directory (.confirming existing walk)
    (afterWalks existing walk walk) posts (by simp [h]) (by simp)
  exact Leads.head hwalked (Leads.head hconfirmed (Leads.refl _))

theorem adoptOf_self (walk : Walk) : adoptOf walk walk = .ok walk.found := by
  simp [adoptOf]

end Adopting

/-! ## The next call -/

section Next

variable (sha256 : String → String) (spec : DraftSpec)

/-- The call sent nothing, returned the receipt of a listing, and left its row recorded. -/
structure Recovered (listingId : Int) (clients : DraftClients Unit) : Prop where
  silent : clients.posts = []
  receipt : clients.receipt? sha256 spec = some (receiptOf sha256 spec listingId)
  row : ledgerGet clients.directory (specPath sha256 spec) = .ok (some (.recorded listingId.toNat))

/-- The call sent nothing, refused, and left the ledger as it was. -/
structure Refused (directory : Directory) (clients : DraftClients Unit) : Prop where
  silent : clients.posts = []
  refusal : ∃ code, clients.phases () = .raised (.refused code)
  unchanged : clients.directory = directory

variable {sha256 spec} {send : FixtureTransport} {shop : DraftShop} {directory : Directory}

/-- An admitted spec has a positive shop. -/
theorem one_le_shopId (h : requireSpec spec = .ok ()) : 1 ≤ spec.shopId := by
  unfold requireSpec at h
  split_ifs at h
  omega

/-- The one marked draft is adopted and recorded. -/
theorem createDraft_adopts (hspec : requireSpec spec = .ok ()) (hserves : Serves send spec.shopId shop)
    {listingId : Int} (hmarked : shop.OneMarked (specMarker sha256 spec) listingId)
    {existing : Option LedgerEntry} (hrow : ledgerGet directory (specPath sha256 spec) = .ok existing)
    (hopen : existing = none ∨ existing = some .pending) :
    Recovered sha256 spec listingId (createDraft sha256 spec send directory) := by
  obtain ⟨walk, hwalk, hfound⟩ :=
    readPages_oneMarked (hserves.slices (one_le_shopId hspec)) hmarked
  have hadopted : afterWalks existing walk walk = .unlinkingNext listingId := by
    simp only [afterWalks, adoptOf_self, hfound]
  have hwalks := @leads_walks sha256 spec send directory existing walk [] hwalk
  rw [hadopted] at hwalks
  have hleads := (leads_lookup [] hrow hopen).trans (hwalks.trans (leads_record directory listingId []))
  rw [← start_admitted hspec] at hleads
  have hpositive : 1 ≤ listingId := by
    obtain ⟨row, -, rfl, hmarked, -⟩ := hmarked
    exact hmarked.positive
  rw [createDraft_eq_of_leads hleads rfl]
  exact ⟨rfl, rfl, ledgerGet_recordIn directory _ hpositive⟩

/-- A recorded row is returned without a walk. -/
theorem createDraft_recorded (hspec : requireSpec spec = .ok ()) {listingId : Int} (hpositive : 1 ≤ listingId)
    (hrow : ledgerGet directory (specPath sha256 spec) = .ok (some (.recorded listingId.toNat))) :
    Recovered sha256 spec listingId (createDraft sha256 spec send directory) := by
  have hleads := @leads_recorded sha256 spec send directory _ [] hrow
  have hcast : (listingId.toNat : Int) = listingId := Int.toNat_of_nonneg (Int.le_of_lt hpositive)
  rw [← start_admitted hspec, hcast] at hleads
  rw [createDraft_eq_of_leads hleads rfl]
  exact ⟨rfl, rfl, hrow⟩

/-- A spec that is not admitted is refused at once. -/
theorem requireSpec_error {error : DraftError} (h : requireSpec spec = .error error) :
    ∃ code, error = .refused code := by
  unfold requireSpec at h
  split_ifs at h
  all_goals
    cases h
    exact ⟨_, rfl⟩

/-- A pending row without a draft is refused. -/
theorem createDraft_refuses (hserves : Serves send spec.shopId shop)
    (hunmarked : shop.Unmarked (specMarker sha256 spec))
    (hrow : ledgerGet directory (specPath sha256 spec) = .ok (some .pending)) :
    Refused directory (createDraft sha256 spec send directory) := by
  cases hspec : requireSpec spec with
  | error error =>
    obtain ⟨code, rfl⟩ := requireSpec_error hspec
    have hstart : DraftClients.start (fun _ : Unit => spec) directory =
        alone directory (.raised (.refused code)) [] := by
      simp only [DraftClients.start, hspec]
      rfl
    have hleads := @Leads.refl _ (aloneStep sha256 spec send)
      (DraftClients.start (fun _ : Unit => spec) directory)
    rw [createDraft_eq_of_leads hleads (by rw [hstart]; rfl), hstart]
    exact ⟨rfl, ⟨code, rfl⟩, rfl⟩
  | ok _ =>
    obtain ⟨walk, hwalk, hfound⟩ :=
      readPages_unmarked (hserves.slices (one_le_shopId hspec)) hunmarked
    have hrefused : afterWalks (some .pending) walk walk = .raised (.refused "pending") := by
      simp only [afterWalks, adoptOf_self, hfound]
    have hwalks := @leads_walks sha256 spec send directory (some .pending) walk [] hwalk
    rw [hrefused] at hwalks
    have hleads := (leads_lookup [] hrow (Or.inr rfl)).trans hwalks
    rw [← start_admitted hspec] at hleads
    rw [createDraft_eq_of_leads hleads rfl]
    exact ⟨rfl, ⟨"pending", rfl⟩, rfl⟩

end Next

end Integrations
end MoneyMachine
