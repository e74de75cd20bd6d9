import MoneyMachine.Integrations.DraftTransport
import MoneyMachine.Library.Runs
import MoneyMachine.Library.Table

/-!
# DraftPages — a shop's drafts and the walk over their pages

The drafts are listed in slices.  A walk reads them one after the other, whatever the size of the last
page, and finds the one row that carries a marker.

* `readPagesFrom_slices` : a walk over consistent slices is a pass over the rows;
* `readPages_unmarked`   : nothing is found where no row carries the marker;
* `readPages_oneMarked`  : the one row with the marker is found.
-/

namespace MoneyMachine
namespace Integrations

open MoneyMachine.Domain
open MoneyMachine.Library

/-! ## A shop and its pages -/

/-- A row of a listing: an object with an id. -/
structure DraftRow where
  row : Json
  listingId : Int
  isObject : ∃ members, row = .obj members
  listed : row.get? "listing_id" = some (.int listingId)

/-- The drafts of a shop, few enough for the walk. -/
structure DraftShop extends Table DraftRow DraftRow.listingId where
  few : rows.length < pageCap * pageLimit

/-- The transport lists the drafts of a shop in slices and says how many there are. -/
def Serves (send : FixtureTransport) (shopId : Int) (shop : DraftShop) : Prop :=
  ∀ offset, ∃ payload, send (listCall shopId offset) = .ok payload ∧
    payload.get? "results" = some (.arr (((shop.rows.drop offset).take pageLimit).map DraftRow.row)) ∧
      payload.get? "count" = some (.int shop.rows.length)

/-- The replies to the lookups are the pages of the rows. -/
def Slices (replies : Nat → Reply) (rows : List Json) : Prop :=
  ∀ page, ∃ payload, replies page = .ok payload ∧
    payload.get? "results" = some (.arr ((rows.drop (pageLimit * page)).take pageLimit)) ∧
      payload.get? "count" = some (.int rows.length)

/-- The lookups of the client get the pages. -/
theorem Serves.slices {send : FixtureTransport} {shopId : Int} {shop : DraftShop}
    (h : Serves send shopId shop) (hshop : 1 ≤ shopId) :
    Slices (pageReplies (some send) shopId) (shop.rows.map DraftRow.row) := by
  intro page
  obtain ⟨payload, hreply, hresults, hcount⟩ := h (pageLimit * page)
  refine ⟨payload, (exchange_list send hshop page).trans hreply, ?_, ?_⟩
  · rw [hresults, List.map_take, List.map_drop]
  · rw [hcount, List.length_map]

/-! ## The walk -/

section Pages

variable {marker : String}

/-- What a walk returns. -/
def Walk.sorted (walk : Walk) (seen : Nat) : Walk :=
  { walk with
    seen := seen
    ids := walk.ids.insertionSort (· ≤ ·)
    texts := walk.texts.insertionSort (· ≤ ·) }

/-- The number of rows seen is not read by the rows, nor changed. -/
theorem readRow_atSeen (walk : Walk) (row : Json) (seen : Nat) :
    readRow marker { walk with seen := seen } row =
      (readRow marker walk row).map (fun walk' => { walk' with seen := seen }) := by
  unfold readRow
  split
  · split
    · split_ifs
      · rfl
      · cases hmatched : lineMarker (Json.get? (.obj _) "description") marker with
        | error error => rfl
        | ok matched =>
          cases matched with
          | false => rfl
          | true =>
            cases hfound : draftListingId (.obj _) none with
            | error error => rfl
            | ok found =>
              simp only [bind, Except.bind, if_true]
              split_ifs
              · rfl
              · rfl
    · rfl
  · rfl

theorem foldlM_atSeen (rows : List Json) (walk : Walk) (seen : Nat) :
    rows.foldlM (readRow marker) { walk with seen := seen } =
      (rows.foldlM (readRow marker) walk).map (fun walk' => { walk' with seen := seen }) := by
  induction rows generalizing walk with
  | nil => rfl
  | cons row rest ih =>
    rw [List.foldlM_cons, List.foldlM_cons, readRow_atSeen]
    cases readRow marker walk row with
    | error error => rfl
    | ok walk' => exact ih walk'

theorem foldlM_seen {rows : List Json} {walk walk' : Walk}
    (h : rows.foldlM (readRow marker) walk = .ok walk') : walk'.seen = walk.seen := by
  have hself := @foldlM_atSeen marker rows walk walk.seen
  change rows.foldlM (readRow marker) walk = _ at hself
  rw [h] at hself
  have hkept : walk' = { walk' with seen := walk.seen } := Except.ok.inj hself
  calc walk'.seen = ({ walk' with seen := walk.seen } : Walk).seen := congrArg Walk.seen hkept
    _ = walk.seen := rfl

/-- A walk over consistent slices reads the rows one after the other. -/
theorem readPagesFrom_slices {rows : List Json} {replies : Nat → Reply}
    (hreplies : Slices replies rows)
    {remaining page : Nat} {walk : Walk} {expected : Option Int}
    (hexpected : expected = none ∨ expected = some (rows.length : Int))
    (hseen : walk.seen = pageLimit * page) (hpage : pageLimit * page ≤ rows.length)
    (hfew : rows.length < pageLimit * (page + remaining)) :
    readPagesFrom marker replies expected walk page remaining =
      ((rows.drop (pageLimit * page)).foldlM (readRow marker) walk).map
        (fun walk' => walk'.sorted rows.length) := by
  -- By induction on the pages left: a full page goes on with the next one, a short page is the last.
  induction remaining generalizing page walk expected with
  | zero =>
    rw [Nat.add_zero] at hfew
    exact absurd hfew (Nat.not_lt.mpr hpage)
  | succ remaining ih =>
    obtain ⟨payload, hreply, hresults, hcount⟩ := hreplies page
    have hnonneg : ¬ (rows.length : Int) < 0 := Int.not_lt.mpr (Int.natCast_nonneg _)
    have hsame : expected.any (fun total => decide ((rows.length : Int) ≠ total)) = false := by
      rcases hexpected with rfl | rfl
      · rfl
      · simp
    have htotal : expected.getD (rows.length : Int) = rows.length := by
      rcases hexpected with rfl | rfl
      · rfl
      · rfl
    have hshort : ¬ pageLimit < ((rows.drop (pageLimit * page)).take pageLimit).length := by
      rw [List.length_take]
      exact Nat.not_lt.mpr (Nat.min_le_left _ _)
    have hsplit : rows.drop (pageLimit * page) =
        (rows.drop (pageLimit * page)).take pageLimit ++ rows.drop (pageLimit * (page + 1)) := by
      rw [Nat.mul_succ, ← List.drop_drop]
      exact (List.take_append_drop _ _).symm
    have hlength : ((rows.drop (pageLimit * page)).take pageLimit).length =
        min pageLimit (rows.length - pageLimit * page) := by
      rw [List.length_take, List.length_drop]
    generalize hslice : (rows.drop (pageLimit * page)).take pageLimit = slice at *
    simp only [readPagesFrom, hreply, hresults, hcount, if_neg hnonneg, hsame, if_neg hshort, htotal,
      Bool.false_eq_true, if_false]
    rw [hsplit, List.foldlM_append]
    cases hfold : slice.foldlM (readRow marker) walk with
    | error error => rfl
    | ok walk' =>
      have hseen' : walk'.seen = pageLimit * page := (foldlM_seen hfold).trans hseen
      simp only [bind, Except.bind]
      by_cases hlast : slice.length < pageLimit
      · -- A short page reaches the end of the rows.
        have hall : pageLimit * page + slice.length = rows.length := by omega
        have hrest : rows.drop (pageLimit * (page + 1)) = [] := by
          rw [List.drop_eq_nil_iff, Nat.mul_succ]
          omega
        rw [if_pos hlast, hseen', hall, if_neg (not_not_intro rfl), hrest]
        rfl
      · have hfull : slice.length = pageLimit := by omega
        have hnext : pageLimit * (page + 1) ≤ rows.length := by
          rw [Nat.mul_succ]
          omega
        have hgoes := @ih (page + 1) { walk' with seen := walk'.seen + slice.length }
          (some (rows.length : Int)) (Or.inr rfl) (by rw [hseen', hfull, Nat.mul_succ]) hnext
          (by rw [Nat.add_assoc, Nat.add_comm 1 remaining]; exact hfew)
        rw [if_neg hlast, hgoes, foldlM_atSeen]
        cases (rows.drop (pageLimit * (page + 1))).foldlM (readRow marker) walk' with
        | error error => rfl
        | ok walk'' => rfl

end Pages

/-! ## Markers -/

/-- A row has a line that is the marker. -/
def DraftRow.Carries (marker : String) (row : DraftRow) : Prop :=
  ∃ text, row.row.get? "description" = some (.str text) ∧ marker ∈ descriptionLines text

/-- A row is a draft whose one line that claims to be a marker is this one. -/
structure DraftRow.Marked (marker : String) (row : DraftRow) : Prop where
  state : row.row.get? "state" = some (.str "draft")
  positive : 1 ≤ row.listingId
  line : ∃ text, row.row.get? "description" = some (.str text) ∧
    (descriptionLines text).filter (fun line => startsWith line "mm-draft:") = [marker]

/-- No draft of the shop carries the marker. -/
def DraftShop.Unmarked (marker : String) (shop : DraftShop) : Prop :=
  ∀ row ∈ shop.rows, ¬ row.Carries marker

/-- One draft of the shop carries the marker, and it is this one. -/
def DraftShop.OneMarked (marker : String) (listingId : Int) (shop : DraftShop) : Prop :=
  ∃ row ∈ shop.rows, row.listingId = listingId ∧ row.Marked marker ∧
    ∀ other ∈ shop.rows, other.Carries marker → other = row

section Rows

variable {marker : String}

/-- A row without the marker is not matched. -/
theorem lineMarker_plain {row : DraftRow} (h : ¬ row.Carries marker) :
    lineMarker (row.row.get? "description") marker = .ok false := by
  unfold lineMarker
  split
  · next text htext =>
      have hnot : marker ∉ (descriptionLines text).filter (fun line => startsWith line "mm-draft:") := by
        intro hmem
        exact h ⟨text, htext, List.mem_of_mem_filter hmem⟩
      have hlines : (descriptionLines text).filter (fun line => startsWith line "mm-draft:") ≠ [marker] := by
        intro heq
        rw [heq] at hnot
        exact hnot List.mem_cons_self
      have hone : ¬ (marker ∈ (descriptionLines text).filter (fun line => startsWith line "mm-draft:") ∧
          1 < ((descriptionLines text).filter (fun line => startsWith line "mm-draft:")).length) :=
        fun hmany => hnot hmany.1
      simp only [if_neg hone, hlines, decide_false]
  · rfl

theorem lineMarker_marked {row : DraftRow} (h : row.Marked marker) :
    lineMarker (row.row.get? "description") marker = .ok true := by
  obtain ⟨text, htext, hlines⟩ := h.line
  have hone : ¬ (marker ∈ [marker] ∧ 1 < [marker].length) := fun hmany => absurd hmany.2 (by simp)
  simp only [htext, lineMarker, hlines, if_neg hone, decide_true]

/-- A row that is not matched adds its id and its text. -/
theorem readRow_plain {walk : Walk} {row : DraftRow} (hfresh : row.listingId ∉ walk.ids)
    (h : ¬ row.Carries marker) :
    readRow marker walk row.row =
      .ok { walk with
        ids := walk.ids ++ [row.listingId]
        texts := walk.texts ++ [rowText (row.row.get? "description")] } := by
  obtain ⟨members, hobject⟩ := row.isObject
  have hlisted := row.listed
  have hplain := lineMarker_plain h
  rw [hobject] at hlisted hplain ⊢
  simp only [readRow, hlisted, if_neg hfresh, hplain, bind, Except.bind]
  rfl

/-- The matched row is found. -/
theorem readRow_marked {walk : Walk} {row : DraftRow} (hfresh : row.listingId ∉ walk.ids)
    (hfound : walk.found = none) (h : row.Marked marker) :
    readRow marker walk row.row =
      .ok { walk with
        found := some row.listingId
        ids := walk.ids ++ [row.listingId]
        texts := walk.texts ++ [rowText (row.row.get? "description")] } := by
  obtain ⟨members, hobject⟩ := row.isObject
  have hlisted := row.listed
  have hmatched := lineMarker_marked h
  have hstate := h.state
  have hpositive : ¬ row.listingId < 1 := Int.not_lt.mpr h.positive
  rw [hobject] at hlisted hmatched hstate ⊢
  simp only [readRow, hlisted, if_neg hfresh, hmatched, draftListingId, hstate, hfound, bind,
    Except.bind, if_true, if_neg hpositive]
  rfl

/-- Rows without the marker leave what was found. -/
theorem foldlM_plain {rows : List DraftRow} {walk : Walk}
    (hnodup : (walk.ids ++ rows.map DraftRow.listingId).Nodup)
    (hplain : ∀ row ∈ rows, ¬ row.Carries marker) :
    ∃ walk', (rows.map DraftRow.row).foldlM (readRow marker) walk = .ok walk' ∧
      walk'.found = walk.found ∧ walk'.ids = walk.ids ++ rows.map DraftRow.listingId := by
  induction rows generalizing walk with
  | nil => exact ⟨walk, rfl, rfl, (List.append_nil _).symm⟩
  | cons row rest ih =>
    have hfresh : row.listingId ∉ walk.ids := by
      intro hmem
      rw [List.nodup_append] at hnodup
      exact hnodup.2.2 _ hmem _ List.mem_cons_self rfl
    have hsplit : walk.ids ++ (row :: rest).map DraftRow.listingId =
        (walk.ids ++ [row.listingId]) ++ rest.map DraftRow.listingId := by
      rw [List.map_cons, List.append_assoc, List.singleton_append]
    rw [hsplit] at hnodup
    have hread := readRow_plain hfresh (hplain row List.mem_cons_self)
    obtain ⟨walk', hrest, hfound, hids⟩ := @ih
      { walk with
        ids := walk.ids ++ [row.listingId]
        texts := walk.texts ++ [rowText (row.row.get? "description")] } hnodup
      (fun other hmem => hplain other (List.mem_cons_of_mem row hmem))
    refine ⟨walk', ?_, hfound, hids.trans hsplit.symm⟩
    rw [List.map_cons, List.foldlM_cons, hread]
    exact hrest

/-- A walk over a shop without the marker finds nothing. -/
theorem readPages_unmarked {replies : Nat → Reply} {shop : DraftShop}
    (hreplies : Slices replies (shop.rows.map DraftRow.row))
    (h : shop.Unmarked marker) :
    ∃ walk, readPages marker replies = .ok walk ∧ walk.found = none := by
  obtain ⟨walk, hfold, hfound, -⟩ := @foldlM_plain marker shop.rows Walk.empty shop.nodup h
  refine ⟨walk.sorted (shop.rows.map DraftRow.row).length, ?_, hfound⟩
  have hfew : (shop.rows.map DraftRow.row).length < pageLimit * (0 + pageCap) := by
    rw [List.length_map, Nat.zero_add, Nat.mul_comm]
    exact shop.few
  rw [readPages, readPagesFrom_slices hreplies (Or.inl rfl) rfl (Nat.zero_le _) hfew]
  change (((shop.rows.map DraftRow.row)).foldlM (readRow marker) Walk.empty).map _ = _
  rw [hfold]
  rfl

/-- A walk over a shop with one marked draft finds it. -/
theorem readPages_oneMarked {replies : Nat → Reply} {shop : DraftShop} {listingId : Int}
    (hreplies : Slices replies (shop.rows.map DraftRow.row))
    (h : shop.OneMarked marker listingId) :
    ∃ walk, readPages marker replies = .ok walk ∧ walk.found = some listingId := by
  obtain ⟨row, hmem, rfl, hmarked, honly⟩ := h
  obtain ⟨before, after, hrows⟩ := List.append_of_mem hmem
  have hnodup := shop.nodup
  rw [hrows, List.map_append, List.map_cons] at hnodup
  obtain ⟨hbefore, hafter, hapart⟩ := List.nodup_append.mp hnodup
  -- A second row with the marker would be the same row, with the same id.
  have hplain : ∀ other ∈ before ++ after, ¬ other.Carries marker := by
    intro other hother hcarries
    have hin : other ∈ shop.rows := by
      rw [hrows]
      rcases List.mem_append.mp hother with hfront | hback
      · exact List.mem_append_left _ hfront
      · exact List.mem_append_right _ (List.mem_cons_of_mem row hback)
    have hsame := honly other hin hcarries
    rw [hsame] at hother
    rcases List.mem_append.mp hother with hfront | hback
    · exact hapart _ (List.mem_map_of_mem hfront) _ List.mem_cons_self rfl
    · exact (List.nodup_cons.mp hafter).1 (List.mem_map_of_mem hback)
  obtain ⟨walk₁, hfold₁, hfound₁, hids₁⟩ := @foldlM_plain marker before Walk.empty hbefore
    (fun other hother => hplain other (List.mem_append_left after hother))
  have hids₁' : walk₁.ids = before.map DraftRow.listingId := hids₁
  have hfresh : row.listingId ∉ walk₁.ids := by
    rw [hids₁']
    intro hin
    exact hapart _ hin _ List.mem_cons_self rfl
  have hread := readRow_marked hfresh hfound₁ hmarked
  have hnodup₂ : (walk₁.ids ++ [row.listingId] ++ after.map DraftRow.listingId).Nodup := by
    rw [hids₁', List.append_assoc, List.singleton_append]
    exact hnodup
  obtain ⟨walk₂, hfold₂, hfound₂, -⟩ := @foldlM_plain marker after
    { walk₁ with
      found := some row.listingId
      ids := walk₁.ids ++ [row.listingId]
      texts := walk₁.texts ++ [rowText (row.row.get? "description")] } hnodup₂
    (fun other hother => hplain other (List.mem_append_right before hother))
  refine ⟨walk₂.sorted (shop.rows.map DraftRow.row).length, ?_, hfound₂⟩
  have hfew : (shop.rows.map DraftRow.row).length < pageLimit * (0 + pageCap) := by
    rw [List.length_map, Nat.zero_add, Nat.mul_comm]
    exact shop.few
  rw [readPages, readPagesFrom_slices hreplies (Or.inl rfl) rfl (Nat.zero_le _) hfew]
  change ((shop.rows.map DraftRow.row).foldlM (readRow marker) Walk.empty).map _ = _
  rw [hrows, List.map_append, List.map_cons, List.foldlM_append, hfold₁]
  change (((row.row :: after.map DraftRow.row).foldlM (readRow marker) walk₁)).map _ = _
  rw [List.foldlM_cons, hread]
  change ((after.map DraftRow.row).foldlM (readRow marker) _).map _ = _
  rw [hfold₂]
  rfl

end Rows

end Integrations
end MoneyMachine
