import MoneyMachine.Integrations.DraftMarkers
import MoneyMachine.Integrations.DraftRecovery
import MoneyMachine.Integrations.SinglePost

/-!
# DraftCrash — a call that stops after its `POST`

A call can stop anywhere after its `POST`: the shop has the draft, and the ledger says `pending` still or
`recorded` already.  The next call makes good for it.

* `row_after_post`          : what the ledger says when a call stopped after its `POST`;
* `createDraft_after_crash` : the next call returns the draft that was created;
* `createDraft_recovers`    : with every draft and every row it may find.
-/

namespace MoneyMachine
namespace Integrations

open MoneyMachine.Domain
open MoneyMachine.Library

/-! ## Where a call can stop -/

/-- The file of a row holds a text. -/
def RowHolds (path text : String) (directory : Directory) : Prop :=
  ∃ file, directory.names path = some file ∧ directory.contents file = text ∧ file < directory.next

/-- What a call that is alone knows of its row, and what the row says once the `POST` is sent. -/
def AloneInvariant (path : String) (listingId : Int) (directory : Directory) (posts : List Unit) :
    Phase → Prop
  | .idle | .opening | .reading _ => posts = []
  | .walking existing | .confirming existing _ =>
    posts = [] ∧ (existing = none → directory.names path = none)
  | .claiming | .creating => posts = [] ∧ directory.names path = none
  -- Nobody else could have created the row.
  | .reopening | .rereading _ => False
  | .writing descriptor =>
    posts = [] ∧ directory.names path = some descriptor ∧ descriptor < directory.next
  | .syncing | .posting => posts = [] ∧ RowHolds path "pending\n" directory
  | .posted => RowHolds path "pending\n" directory
  | .unlinkingNext found | .creatingNext found =>
    posts ≠ [] → found = listingId ∧ RowHolds path "pending\n" directory
  | .writingNext found descriptor =>
    posts ≠ [] → found = listingId ∧ descriptor < directory.next ∧
      directory.names (nextPath path) = some descriptor ∧
        ∃ file, directory.names path = some file ∧ directory.contents file = "pending\n" ∧
          file < directory.next ∧ file ≠ descriptor
  | .syncingNext found | .replacing found =>
    posts ≠ [] → found = listingId ∧ RowHolds path "pending\n" directory ∧
      RowHolds (nextPath path) (recordedText listingId) directory
  | .syncingRow _ | .returned _ => posts ≠ [] → RowHolds path (recordedText listingId) directory
  | .raised _ | .crashed =>
    posts ≠ [] → RowHolds path "pending\n" directory ∨ RowHolds path (recordedText listingId) directory

section Stopping

variable {sha256 : String → String} {spec : DraftSpec} {send : FixtureTransport}
  {directory : Directory} {listingId : Int} {posts : List Unit}

/-- Creating another file leaves a row. -/
theorem RowHolds.createExclusive {path other text : String} {directory' : Directory} {descriptor : Nat}
    (h : RowHolds path text directory) (hne : path ≠ other)
    (hcreate : directory.createExclusive other = some (directory', descriptor)) :
    descriptor = directory.next ∧ directory'.next = directory.next + 1 ∧
      ∃ file, directory'.names path = some file ∧ directory'.contents file = text ∧
        file < directory.next := by
  unfold Directory.createExclusive at hcreate
  obtain ⟨file, hname, htext, hold⟩ := h
  split at hcreate
  · cases hcreate
  · cases hcreate
    refine ⟨rfl, rfl, file, ?_, ?_, hold⟩
    · simpa [hne] using hname
    · simpa [Nat.ne_of_lt hold] using htext

/-- A step other than the `POST` keeps what the call knows, if the creation was answered with the
listing it made. -/
theorem aloneInvariant_clientStep (phase : Phase) (hquiet : phase ≠ .posting)
    (hanswer : ∀ found, (createReply (some send) spec (specMarker sha256 spec) >>= fun payload =>
      draftListingId payload (some (specMarker sha256 spec))) = .ok found → found = listingId)
    (h : AloneInvariant (specPath sha256 spec) listingId directory posts phase) :
    AloneInvariant (specPath sha256 spec) listingId
      (clientStep (specPath sha256 spec) (specMarker sha256 spec) directory phase
        (nextEvent sha256 spec send phase)).1 posts
      (clientStep (specPath sha256 spec) (specMarker sha256 spec) directory phase
        (nextEvent sha256 spec send phase)).2 := by
  generalize specPath sha256 spec = path at h ⊢
  have hother : path ≠ nextPath path := (nextPath_ne path).symm
  cases phase with
  | idle =>
    cases hname : directory.names path with
    | none => simpa [nextEvent, clientStep, advance, hname, AloneInvariant] using h
    | some file => simpa [nextEvent, clientStep, advance, hname, AloneInvariant] using h
  | opening =>
    simp only [AloneInvariant] at h
    cases hname : directory.names path with
    | none => simp [nextEvent, clientStep, advance, openRow, hname, AloneInvariant, h]
    | some file => simp [nextEvent, clientStep, advance, openRow, hname, AloneInvariant, h]
  | reading descriptor =>
    simp only [AloneInvariant] at h
    simp only [nextEvent, clientStep, advance]
    split <;> simp [AloneInvariant, h]
  | walking existing =>
    obtain ⟨hposts, hnone⟩ := h
    cases hwalk : readPages (specMarker sha256 spec) (pageReplies (some send) spec.shopId) with
    | error error => simp [nextEvent, clientStep, hwalk, AloneInvariant, hposts]
    | ok walk =>
      simp only [nextEvent, clientStep, hwalk]
      exact ⟨hposts, hnone⟩
  | confirming existing first =>
    obtain ⟨hposts, hnone⟩ := h
    cases hwalk : readPages (specMarker sha256 spec) (pageReplies (some send) spec.shopId) with
    | error error => simp [nextEvent, clientStep, hwalk, AloneInvariant, hposts]
    | ok walk =>
      simp only [nextEvent, clientStep, hwalk, afterWalks]
      cases adoptOf first walk with
      | error error => simp [AloneInvariant, hposts]
      | ok found =>
        cases found with
        | some found => simp [AloneInvariant, hposts]
        | none =>
          cases existing with
          | none => exact ⟨hposts, hnone rfl⟩
          | some entry => simp [AloneInvariant, hposts]
  | claiming =>
    simp only [AloneInvariant] at h
    simp [nextEvent, clientStep, advance, h.2, h.1, AloneInvariant]
  | reopening => exact h.elim
  | rereading descriptor => exact h.elim
  | creating =>
    simp only [AloneInvariant] at h
    simp [nextEvent, clientStep, advance, Directory.createExclusive, h.2, h.1, AloneInvariant]
  | writing descriptor =>
    obtain ⟨hposts, hname, hfresh⟩ := h
    refine ⟨hposts, descriptor, hname, ?_, hfresh⟩
    simp [nextEvent, clientStep, advance, Directory.write]
  | syncing => exact h
  | posting => exact absurd rfl hquiet
  | posted =>
    have hrow : RowHolds path "pending\n" directory := h
    simp only [nextEvent, clientStep]
    split
    · exact fun _ => Or.inl hrow
    · next found hfound => exact fun _ => ⟨hanswer found hfound, hrow⟩
  | unlinkingNext found =>
    intro hsent
    obtain ⟨hfound, file, hname, htext, hold⟩ := h hsent
    refine ⟨hfound, file, ?_, htext, hold⟩
    simpa [nextEvent, clientStep, advance, Directory.unlink, hother] using hname
  | creatingNext found =>
    simp only [nextEvent, clientStep, advance]
    cases hcreate : directory.createExclusive (nextPath path) with
    | none => exact fun hsent => Or.inl (h hsent).2
    | some created =>
      obtain ⟨directory', descriptor⟩ := created
      intro hsent
      obtain ⟨hfound, hrow⟩ := h hsent
      obtain ⟨hdescriptor, hnext, file, hname, htext, hold⟩ := hrow.createExclusive hother hcreate
      have htaken := (createExclusive_eq_some hcreate).2.1
      have hnew : descriptor < directory'.next := by omega
      have hstill : file < directory'.next := by omega
      have hapart : file ≠ descriptor := by omega
      exact ⟨hfound, hnew, htaken, file, hname, htext, hstill, hapart⟩
  | writingNext found descriptor =>
    intro hsent
    obtain ⟨hfound, hold', htaken, file, hname, htext, hold, hne⟩ := h hsent
    refine ⟨hfound, ⟨file, hname, ?_, hold⟩, descriptor, htaken, ?_, hold'⟩
    · simpa [nextEvent, clientStep, advance, Directory.write, hne] using htext
    · simp [nextEvent, clientStep, advance, Directory.write, hfound]
  | syncingNext found => exact h
  | replacing found =>
    simp only [nextEvent, clientStep, advance]
    cases hreplace : directory.replace (nextPath path) path with
    | none => exact fun hsent => Or.inl (h hsent).2.1
    | some directory' =>
      intro hsent
      obtain ⟨-, -, file, hname, htext, hold⟩ := h hsent
      simp only [Directory.replace, hname, Option.map_some, Option.some.injEq] at hreplace
      cases hreplace
      exact ⟨file, by simp, htext, hold⟩
  | syncingRow found => exact h
  | returned found => exact h
  | raised error => exact h
  | crashed => exact h

theorem aloneInvariant_step (clients : DraftClients Unit)
    (hanswer : ∀ found, (createReply (some send) spec (specMarker sha256 spec) >>= fun payload =>
      draftListingId payload (some (specMarker sha256 spec))) = .ok found → found = listingId)
    (h : AloneInvariant (specPath sha256 spec) listingId clients.directory clients.posts
      (clients.phases ())) :
    AloneInvariant (specPath sha256 spec) listingId (aloneStep sha256 spec send clients).directory
      (aloneStep sha256 spec send clients).posts ((aloneStep sha256 spec send clients).phases ()) := by
  rw [eq_alone clients] at h ⊢
  generalize clients.phases () = phase at h ⊢
  rw [aloneStep_alone]
  by_cases hposting : phase = .posting
  · -- The row was pending before the `POST`, and is pending after it.
    cases hposting
    exact h.2
  · rw [if_neg (fun hsent => hposting hsent.1)]
    exact aloneInvariant_clientStep phase hposting hanswer h

/-- Once the `POST` is sent, the row is pending or recorded, wherever the call stops. -/
theorem row_after_post
    (hanswer : ∀ found, (createReply (some send) spec (specMarker sha256 spec) >>= fun payload =>
      draftListingId payload (some (specMarker sha256 spec))) = .ok found → found = listingId)
    (n : Nat) (hsent : (stoppedAfter sha256 spec send directory n).posts ≠ []) :
    RowHolds (specPath sha256 spec) "pending\n" (stoppedAfter sha256 spec send directory n).directory ∨
      RowHolds (specPath sha256 spec) (recordedText listingId)
        (stoppedAfter sha256 spec send directory n).directory := by
  have hinvariant : AloneInvariant (specPath sha256 spec) listingId
      (stoppedAfter sha256 spec send directory n).directory
      (stoppedAfter sha256 spec send directory n).posts
      ((stoppedAfter sha256 spec send directory n).phases ()) := by
    refine @iterate_invariant _ (aloneStep sha256 spec send)
      (fun clients => AloneInvariant (specPath sha256 spec) listingId clients.directory clients.posts
        (clients.phases ())) ?_ _ ?_ n
    · intro clients hclients
      exact aloneInvariant_step clients hanswer hclients
    · simp only [DraftClients.start]
      split
      · rfl
      · exact fun hposts => absurd rfl hposts
  generalize stoppedAfter sha256 spec send directory n = clients at hsent hinvariant ⊢
  generalize clients.phases () = phase at hinvariant
  cases phase with
  | posted => exact Or.inl hinvariant
  | unlinkingNext found => exact Or.inl (hinvariant hsent).2
  | creatingNext found => exact Or.inl (hinvariant hsent).2
  | writingNext found descriptor =>
    obtain ⟨-, -, -, file, hname, htext, hold, -⟩ := hinvariant hsent
    exact Or.inl ⟨file, hname, htext, hold⟩
  | syncingNext found => exact Or.inl (hinvariant hsent).2.1
  | replacing found => exact Or.inl (hinvariant hsent).2.1
  | syncingRow found => exact Or.inr (hinvariant hsent)
  | returned found => exact Or.inr (hinvariant hsent)
  | raised error => exact hinvariant hsent
  | crashed => exact hinvariant hsent
  | reopening => exact hinvariant.elim
  | rereading descriptor => exact hinvariant.elim
  | idle => exact absurd hinvariant hsent
  | opening => exact absurd hinvariant hsent
  | reading descriptor => exact absurd hinvariant hsent
  | _ => exact absurd hinvariant.1 hsent

end Stopping

/-! ## The created draft -/

section Created

variable {sha256 : String → String} {spec : DraftSpec}

/-- The marker of a spec is one plain line. -/
theorem specMarker_plain (hhex : ∀ text, (sha256 text).toList.all isHexDigit = true) :
    ∀ c ∈ (specMarker sha256 spec).toList, isPlainChar c = true := by
  apply draftMarker_plain
  intro c hc
  have hdigit : isHexDigit c = true := List.all_eq_true.mp (hhex _) c hc
  exact isPlainChar_of ⟨by decide, by decide⟩ ⟨by decide, by decide⟩ hdigit

/-- The shop has the draft that the creation made, and no other draft carries its marker. -/
def CreatedIn (sha256 : String → String) (spec : DraftSpec) (listingId : Int) (shop : DraftShop) : Prop :=
  ∃ row ∈ shop.rows, row.listingId = listingId ∧ 1 ≤ listingId ∧
    row.row.get? "state" = some (.str "draft") ∧
    row.row.get? "description" =
        some (.str (withMarker spec.description (specMarker sha256 spec))) ∧
      ∀ other ∈ shop.rows, other.Carries (specMarker sha256 spec) → other = row

/-- The created draft is the one that is marked. -/
theorem CreatedIn.oneMarked {listingId : Int} {shop : DraftShop} (hspec : requireSpec spec = .ok ())
    (hhex : ∀ text, (sha256 text).toList.all isHexDigit = true)
    (h : CreatedIn sha256 spec listingId shop) :
    shop.OneMarked (specMarker sha256 spec) listingId := by
  obtain ⟨row, hmem, rfl, hpositive, hstate, hdescription, honly⟩ := h
  refine ⟨row, hmem, rfl, ⟨hstate, hpositive, _, hdescription, ?_⟩, honly⟩
  exact markerLines_withMarker (specMarker_plain hhex) startsWith_draftMarker
    (description_admitted hspec)

theorem ledgerGet_of_rowHolds {path text : String} {directory : Directory} {entry : LedgerEntry}
    (h : RowHolds path text directory) (hparse : parseRow text = .ok entry) :
    ledgerGet directory path = .ok (some entry) := by
  obtain ⟨file, hname, htext, -⟩ := h
  rw [ledgerGet_eq hname htext, hparse]
  rfl

/-- A call that stopped anywhere after its `POST` is made good by the next one. -/
theorem createDraft_after_crash {send send' : FixtureTransport} {directory : Directory}
    {shop : DraftShop} {listingId : Int} {n : Nat} (hspec : requireSpec spec = .ok ())
    (hhex : ∀ text, (sha256 text).toList.all isHexDigit = true)
    (hsent : (stoppedAfter sha256 spec send directory n).posts ≠ [])
    (hanswer : ∀ found, (createReply (some send) spec (specMarker sha256 spec) >>= fun payload =>
      draftListingId payload (some (specMarker sha256 spec))) = .ok found → found = listingId)
    (hcreated : CreatedIn sha256 spec listingId shop) (hserves : Serves send' spec.shopId shop) :
    Recovered sha256 spec listingId
      (createDraft sha256 spec send' (stoppedAfter sha256 spec send directory n).directory) := by
  have hmarked := hcreated.oneMarked hspec hhex
  rcases row_after_post hanswer n hsent with hrow | hrow
  · have hpending : parseRow "pending\n" = .ok .pending := rfl
    exact createDraft_adopts hspec hserves hmarked (ledgerGet_of_rowHolds hrow hpending) (Or.inr rfl)
  · obtain ⟨row, -, rfl, hpositive, -⟩ := hcreated
    exact createDraft_recorded hspec hpositive
      (ledgerGet_of_rowHolds hrow (parseRow_recordedText hpositive))

end Created

/-! ## Recovery -/

/-- The next call returns the one marked draft for a row that is pending or missing, refuses a pending row
without a draft, and makes good for a call that stopped anywhere after its `POST`. -/
theorem createDraft_recovers (sha256 : String → String) (spec : DraftSpec) :
    (requireSpec spec = .ok () →
      ∀ (send : FixtureTransport) (shop : DraftShop) (directory : Directory) (listingId : Int)
        (existing : Option LedgerEntry),
        Serves send spec.shopId shop → shop.OneMarked (specMarker sha256 spec) listingId →
        ledgerGet directory (specPath sha256 spec) = .ok existing →
        (existing = none ∨ existing = some .pending) →
        Recovered sha256 spec listingId (createDraft sha256 spec send directory)) ∧
    (∀ (send : FixtureTransport) (shop : DraftShop) (directory : Directory),
      Serves send spec.shopId shop → shop.Unmarked (specMarker sha256 spec) →
      ledgerGet directory (specPath sha256 spec) = .ok (some .pending) →
      Refused directory (createDraft sha256 spec send directory)) ∧
    (requireSpec spec = .ok () → (∀ text, (sha256 text).toList.all isHexDigit = true) →
      ∀ (send send' : FixtureTransport) (shop : DraftShop) (directory : Directory) (listingId : Int) (n : Nat),
        (stoppedAfter sha256 spec send directory n).posts ≠ [] →
        (∀ found, (createReply (some send) spec (specMarker sha256 spec) >>= fun payload =>
          draftListingId payload (some (specMarker sha256 spec))) = .ok found → found = listingId) →
        CreatedIn sha256 spec listingId shop → Serves send' spec.shopId shop →
        Recovered sha256 spec listingId
          (createDraft sha256 spec send' (stoppedAfter sha256 spec send directory n).directory)) := by
  refine ⟨?_, ?_, ?_⟩
  · intro hspec send shop directory listingId existing hserves hmarked hrow hopen
    exact createDraft_adopts hspec hserves hmarked hrow hopen
  · intro send shop directory hserves hunmarked hrow
    exact createDraft_refuses hserves hunmarked hrow
  · intro hspec hhex send send' shop directory listingId n hsent hanswer hcreated hserves
    exact createDraft_after_crash hspec hhex hsent hanswer hcreated hserves

/-! ## A creation whose answer is lost -/

/-- A transport that lists the drafts of a shop and never answers a creation. -/
def listingOnly (shop : DraftShop) : FixtureTransport :=
  fun call =>
    match call.query.lookup "offset" with
    | none => .error .other
    | some offset =>
      .ok (.obj
        [("count", .int shop.rows.length),
          ("results",
            .arr (((shop.rows.drop (Nat.ofDigitChars 10 offset.toList 0)).take pageLimit).map
              DraftRow.row))])

/-- It lists every shop as the client expects. -/
theorem serves_listingOnly (shopId : Int) (shop : DraftShop) :
    Serves (listingOnly shop) shopId shop := by
  intro offset
  have hoffset : (draftQuery offset).lookup "offset" = some (toString offset) := rfl
  have hvalue : Nat.ofDigitChars 10 (toString offset).toList 0 = offset := by
    rw [toString_toList]
    exact Nat.ofDigitChars_ten_toDigits
  have hreply : listingOnly shop (listCall shopId offset) =
      .ok (.obj
        [("count", .int shop.rows.length),
          ("results", .arr (((shop.rows.drop offset).take pageLimit).map DraftRow.row))]) := by
    simp only [listingOnly, listCall, hoffset, hvalue]
  exact ⟨_, hreply, rfl, rfl⟩

def emptyShop : DraftShop where
  rows := []
  nodup := List.nodup_nil
  few := by decide

def plannerRow : DraftRow where
  row := .obj
    [("listing_id", .int 41), ("state", .str "draft"),
      ("description",
        .str (withMarker plannerSpec.description (specMarker plannerSha256 plannerSpec)))]
  listingId := 41
  isObject := ⟨_, rfl⟩
  listed := rfl

/-- The shop once the creation has taken effect. -/
def plannerShop : DraftShop where
  rows := [plannerRow]
  nodup := List.nodup_singleton _
  few := by decide

theorem plannerShop_created : CreatedIn plannerSha256 plannerSpec 41 plannerShop := by
  refine ⟨plannerRow, List.mem_cons_self, rfl, by decide, rfl, rfl, ?_⟩
  intro other hmem _
  exact List.mem_singleton.mp hmem

/-- The call that created it, stopped before it had an answer. -/
theorem createDraft_recovers_planner :
    Recovered plannerSha256 plannerSpec 41
      (createDraft plannerSha256 plannerSpec (listingOnly plannerShop)
        (stoppedAfter plannerSha256 plannerSpec (listingOnly emptyShop) emptyDirectory 8).directory) := by
  have hspec : requireSpec plannerSpec = .ok () := by decide +kernel
  have hhex : ∀ text, (plannerSha256 text).toList.all isHexDigit = true := by
    intro text
    have hdigest : plannerSha256 text = plannerSha256 "" := rfl
    rw [hdigest]
    decide +kernel
  have hsent : (stoppedAfter plannerSha256 plannerSpec (listingOnly emptyShop) emptyDirectory 8).posts ≠ [] := by
    decide +kernel
  have hlost : createReply (some (listingOnly emptyShop)) plannerSpec
      (specMarker plannerSha256 plannerSpec) = .error .other :=
    exchange_create (listingOnly emptyShop) (one_le_shopId hspec) _
  refine (createDraft_recovers plannerSha256 plannerSpec).2.2 hspec hhex (listingOnly emptyShop)
    (listingOnly plannerShop) plannerShop emptyDirectory 41 8 hsent ?_ plannerShop_created
    (serves_listingOnly _ _)
  intro found hfound
  rw [hlost] at hfound
  cases hfound

end Integrations
end MoneyMachine
