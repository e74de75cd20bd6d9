import MoneyMachine.Cli.SandboxRun
import Mathlib.Data.List.Chain
import Mathlib.Data.List.Nodup

/-!
# SandboxAccounting — no page is lost

`Accounted` is what the lists of a run say about its log:

* the created ids are distinct, in step with their rows, and none is blank or the sandbox parent;
* every page that a request returned is kept: as created, flagged or rejected;
* there is one marker for each request that raised.

Every call keeps it, and a page that a call returns was confirmed under its parent and up to the sandbox.
-/

namespace MoneyMachine
namespace Cli

open MoneyMachine.Library

/-! ## What the log says -/

/-- The pages that a `create_child_page` returned. -/
def createdPages (log : List Exchange) : List PageView :=
  log.filterMap (fun exchange =>
    match exchange with
    | .create _ _ (.ok page) => some page
    | _ => none)

/-- The pages that a `read_page` returned. -/
def readPages (log : List Exchange) : List PageView :=
  log.filterMap (fun exchange =>
    match exchange with
    | .read _ (.ok page) => some page
    | _ => none)

/-- The markers of the `create_child_page` calls that raised. -/
def raisedMarkers (sha256 : Text → Text) (log : List Exchange) : List Marker :=
  log.filterMap (fun exchange =>
    match exchange with
    | .create parentId title (.error _) => some (markerOf sha256 parentId title)
    | _ => none)

/-- A page id that somebody can still find. -/
def SandboxRun.Kept (run : SandboxRun) (pageId : Text) : Prop :=
  pageId = [] ∨ pageId = sandboxParentPageId ∨ pageId ∈ run.createdIds ∨
    (∃ row ∈ run.flaggedPages, row.id = pageId) ∨ ∃ row ∈ run.rejectedPages, row.id = pageId

/-- The created ids are distinct and in step with their rows. -/
structure SandboxRun.Listed (run : SandboxRun) : Prop where
  nodup : run.createdIds.Nodup
  rows : run.created.map CreatedRow.id = run.createdIds
  blank : [] ∉ run.createdIds

structure Accounted (sha256 : Text → Text) (w : World) : Prop where
  listed : w.run.Listed
  parent : sandboxParentPageId ∉ w.run.createdIds
  kept : ∀ page ∈ createdPages w.log, w.run.Kept (canonicalId page.pageId)
  orphans : w.run.possibleOrphans.Perm (raisedMarkers sha256 w.log)

/-- A chain of pages, each read, from the first up to the sandbox parent. -/
structure ReachesSandbox (read chain : List PageView) : Prop where
  linked : chain.IsChain (fun page next => canonicalId next.pageId = canonicalId page.parentId)
  last : ∃ page, chain.getLast? = some page ∧ canonicalId page.pageId = sandboxParentPageId
  distinct : (chain.map (fun page => canonicalId page.pageId)).Nodup
  sound : ∀ page ∈ chain, spaceConflicts page.spaceId = false ∧ page.archived = false
  observed : ∀ page ∈ chain, page ∈ read

/-! ## Changes of the lists -/

namespace SandboxRun

variable {run : SandboxRun} {page : PageView} {pageId : Text}

theorem Listed.append (h : run.Listed) (hne : pageId ≠ []) (hfree : pageId ∉ run.createdIds) :
    (run.append page pageId).Listed := by
  constructor
  · have hdisjoint : run.createdIds.Disjoint [pageId] := by
      simpa using hfree
    exact h.nodup.append (List.nodup_singleton pageId) hdisjoint
  · simp [SandboxRun.append, rowOf, h.rows]
  · simp only [SandboxRun.append, List.mem_append, List.mem_singleton, not_or]
    exact ⟨h.blank, hne.symm⟩

/-- The lists after one id is taken out of both. -/
theorem Listed.without (h : run.Listed) (pageId : Text) {run' : SandboxRun}
    (hids : run'.createdIds = run.createdIds.erase pageId)
    (hrows : run'.created = run.created.filter (fun row => decide (row.id ≠ pageId))) :
    run'.Listed := by
  constructor
  · rw [hids]
    exact h.nodup.erase pageId
  · rw [hids, hrows, h.nodup.erase_eq_filter, ← h.rows, List.filter_map]
    congr 1
    apply List.filter_congr
    intro row _
    by_cases hid : row.id = pageId <;> simp [hid]
  · rw [hids]
    exact fun hmem => h.blank (List.mem_of_mem_erase hmem)

theorem flag_lists (run : SandboxRun) (pageId : Text) (reason : String) :
    (run.flag pageId reason).createdIds = run.createdIds ∧
      (run.flag pageId reason).created = run.created ∧
      (run.flag pageId reason).rejectedPages = run.rejectedPages ∧
      (run.flag pageId reason).possibleOrphans = run.possibleOrphans ∧
      ∀ row ∈ run.flaggedPages, row ∈ (run.flag pageId reason).flaggedPages := by
  unfold flag
  split_ifs
  · exact ⟨rfl, rfl, rfl, rfl, fun row hrow => hrow⟩
  · exact ⟨rfl, rfl, rfl, rfl, fun row hrow => hrow⟩
  · exact ⟨rfl, rfl, rfl, rfl, fun row hrow => List.mem_append_left _ hrow⟩

/-- A flagged page is kept. -/
theorem kept_flag (run : SandboxRun) (pageId : Text) (reason : String) :
    (run.flag pageId reason).Kept pageId := by
  unfold flag
  split_ifs with hblank hflagged
  · exact Or.inl hblank
  · exact Or.inr (Or.inr (Or.inr (Or.inl ⟨_, hflagged, rfl⟩)))
  · refine Or.inr (Or.inr (Or.inr (Or.inl ⟨⟨pageId, reason⟩, ?_, rfl⟩)))
    exact List.mem_append_right _ (List.mem_singleton_self _)

theorem Listed.flag (h : run.Listed) (pageId : Text) (reason : String) :
    (run.flag pageId reason).Listed := by
  rcases flag_lists run pageId reason with ⟨hids, hrows, -⟩
  constructor
  · rw [hids]
    exact h.nodup
  · rw [hids, hrows]
    exact h.rows
  · rw [hids]
    exact h.blank

/-- A page is kept as long as the lists only grow, but for one id that is kept another way. -/
theorem Kept.of_lists {run' : SandboxRun} {pageId other : Text} (h : run.Kept pageId)
    (hids : ∀ id ∈ run.createdIds, id ≠ other → id ∈ run'.createdIds)
    (hflagged : ∀ row ∈ run.flaggedPages, row ∈ run'.flaggedPages)
    (hrejected : ∀ row ∈ run.rejectedPages, row ∈ run'.rejectedPages) (hother : run'.Kept other) :
    run'.Kept pageId := by
  by_cases hsame : pageId = other
  · rw [hsame]
    exact hother
  · rcases h with hblank | hparent | hcreated | ⟨row, hrow, hid⟩ | ⟨row, hrow, hid⟩
    · exact Or.inl hblank
    · exact Or.inr (Or.inl hparent)
    · exact Or.inr (Or.inr (Or.inl (hids pageId hcreated hsame)))
    · exact Or.inr (Or.inr (Or.inr (Or.inl ⟨row, hflagged row hrow, hid⟩)))
    · exact Or.inr (Or.inr (Or.inr (Or.inr ⟨row, hrejected row hrow, hid⟩)))

theorem Kept.flag (h : run.Kept pageId) (other : Text) (reason : String) :
    (run.flag other reason).Kept pageId := by
  rcases flag_lists run other reason with ⟨hids, -, hrejected, -, hflagged⟩
  exact Kept.of_lists h (fun id hid _ => by rw [hids]; exact hid) hflagged
    (fun row hrow => by rw [hrejected]; exact hrow) (kept_flag run other reason)

/-- A rejected page is kept. -/
theorem kept_rejectUnfresh (run : SandboxRun) (pageId : Text) :
    (run.rejectUnfresh pageId).Kept pageId := by
  by_cases hblank : pageId = []
  · exact Or.inl hblank
  refine Or.inr (Or.inr (Or.inr (Or.inr ?_)))
  unfold rejectUnfresh
  by_cases hall : run.rejectedPages.all (fun row => decide (row.id ≠ pageId)) = true
  · rw [if_pos ⟨hblank, hall⟩]
    exact ⟨_, List.mem_append_right _ (List.mem_singleton_self _), rfl⟩
  · rw [if_neg (fun hboth => hall hboth.2)]
    simpa using hall

theorem rejectedPages_rejectUnfresh (run : SandboxRun) (pageId : Text) :
    ∀ row ∈ run.rejectedPages, row ∈ (run.rejectUnfresh pageId).rejectedPages := by
  intro row hrow
  unfold rejectUnfresh
  split_ifs
  · exact List.mem_append_left _ hrow
  · exact hrow

theorem Kept.rejectUnfresh (h : run.Kept pageId) (other : Text) :
    (run.rejectUnfresh other).Kept pageId := by
  refine Kept.of_lists h ?_ (fun row hrow => hrow) (rejectedPages_rejectUnfresh run other)
    (kept_rejectUnfresh run other)
  intro id hid hne
  exact (List.mem_erase_of_ne hne).2 hid

theorem Listed.confirm (h : run.Listed) (page : PageView) (pageId : Text) :
    (run.confirm page pageId).Listed ∧ (run.confirm page pageId).createdIds = run.createdIds := by
  unfold SandboxRun.confirm
  cases hlast : run.created.getLast? with
  | none => exact ⟨h, rfl⟩
  | some row =>
    dsimp only
    split_ifs with hid
    · refine ⟨⟨h.nodup, ?_, h.blank⟩, rfl⟩
      have hsame : run.created = run.created.dropLast ++ [row] :=
        (List.dropLast_append_getLast? row hlast).symm
      calc
        (run.created.dropLast ++ [rowOf page pageId]).map CreatedRow.id =
            (run.created.dropLast ++ [row]).map CreatedRow.id := by
          simp [rowOf, hid]
        _ = run.createdIds := by
          rw [← hsame, h.rows]
    · exact ⟨h, rfl⟩

end SandboxRun

/-! ## Changes of the world -/

namespace Accounted

variable {sha256 : Text → Text} {w : World}

/-- A change of the run that keeps the lists in order and loses no page. -/
theorem withRun (h : Accounted sha256 w) {run : SandboxRun} (hlisted : run.Listed)
    (hparent : sandboxParentPageId ∉ run.createdIds)
    (hkept : ∀ pageId, w.run.Kept pageId → run.Kept pageId)
    (horphans : run.possibleOrphans = w.run.possibleOrphans) : Accounted sha256 (w.withRun run) where
  listed := hlisted
  parent := hparent
  kept := fun page hpage => hkept _ (h.kept page hpage)
  orphans := by
    have hrun : (w.withRun run).run.possibleOrphans = w.run.possibleOrphans := horphans
    rw [hrun]
    exact h.orphans

theorem flag (h : Accounted sha256 w) (pageId : Text) (reason : String) :
    Accounted sha256 (w.withRun (w.run.flag pageId reason)) := by
  rcases SandboxRun.flag_lists w.run pageId reason with ⟨hids, -, -, horphans, -⟩
  apply h.withRun (h.listed.flag pageId reason) _ (fun _ hkept => hkept.flag pageId reason) horphans
  rw [hids]
  exact h.parent

theorem rejectUnfresh (h : Accounted sha256 w) (pageId : Text) :
    Accounted sha256 (w.withRun (w.run.rejectUnfresh pageId)) := by
  apply h.withRun (h.listed.without pageId rfl rfl) _ (fun _ hkept => hkept.rejectUnfresh pageId) rfl
  exact fun hmem => h.parent (List.mem_of_mem_erase hmem)

theorem confirm (h : Accounted sha256 w) (page : PageView) (pageId : Text) :
    Accounted sha256 (w.withRun (w.run.confirm page pageId)) := by
  rcases h.listed.confirm page pageId with ⟨hlisted, hids⟩
  have hfields : (w.run.confirm page pageId).flaggedPages = w.run.flaggedPages ∧
      (w.run.confirm page pageId).rejectedPages = w.run.rejectedPages ∧
      (w.run.confirm page pageId).possibleOrphans = w.run.possibleOrphans := by
    unfold SandboxRun.confirm
    split
    · exact ⟨rfl, rfl, rfl⟩
    · split_ifs <;> exact ⟨rfl, rfl, rfl⟩
  rcases hfields with ⟨hflagged, hrejected, horphans⟩
  apply h.withRun hlisted _ _ horphans
  · rw [hids]
    exact h.parent
  · intro id hkept
    unfold SandboxRun.Kept at hkept ⊢
    rw [hids, hflagged, hrejected]
    exact hkept

/-- A read leaves the lists alone. -/
theorem read (h : Accounted sha256 w) (pageId : Text) (answer : Except Raised PageView) :
    Accounted sha256 { w with log := w.log ++ [.read pageId answer] } where
  listed := h.listed
  parent := h.parent
  kept := by
    intro page hpage
    apply h.kept page
    simpa [createdPages] using hpage
  orphans := by
    have hsame : raisedMarkers sha256 (w.log ++ [.read pageId answer]) =
        raisedMarkers sha256 w.log := by
      simp [raisedMarkers]
    rw [hsame]
    exact h.orphans

end Accounted

/-! ## The request -/

section Calls

variable {sha256 : Text → Text} {answers : Nat → Except Raised PageView} {w₀ w : World}

/-- Everything is accounted for at `w`, and these pages were read since `w₀`. -/
structure Later (sha256 : Text → Text) (w₀ w : World) (pages : List PageView) : Prop where
  accounted : Accounted sha256 w
  log : ∃ during, w.log = w₀.log ++ during ∧ ∀ page ∈ pages, page ∈ readPages during

theorem Later.mono {pages pages' : List PageView} (h : Later sha256 w₀ w pages)
    (hpages : ∀ page ∈ pages', page ∈ pages) : Later sha256 w₀ w pages' := by
  rcases h.log with ⟨during, hlog, hread⟩
  exact ⟨h.accounted, during, hlog, fun page hpage => hread page (hpages page hpage)⟩

theorem Later.withRun {pages : List PageView} {run : SandboxRun} (h : Later sha256 w₀ w pages)
    (haccounted : Accounted sha256 (w.withRun run)) : Later sha256 w₀ (w.withRun run) pages :=
  ⟨haccounted, h.log⟩

/-- A request returned: the live client may have published its page. -/
structure Returned (w₀ : World) (page : PageView) (w : World) : Prop where
  log : ∃ parentId title, w.log = w₀.log ++ [.create parentId title (.ok page)]
  flagged : w.run.flaggedPages = w₀.run.flaggedPages
  rejected : w.run.rejectedPages = w₀.run.rejectedPages
  orphans : w.run.possibleOrphans.Perm w₀.run.possibleOrphans
  lists : (w.run.createdIds = w₀.run.createdIds ∧ w.run.created = w₀.run.created) ∨
    (canonicalId page.pageId ≠ [] ∧ spaceConflicts page.spaceId = false ∧
      canonicalId page.pageId ∉ w₀.run.createdIds ∧
      w.run.createdIds = w₀.run.createdIds ++ [canonicalId page.pageId] ∧
      w.run.created = w₀.run.created ++ [SandboxRun.rowOf page (canonicalId page.pageId)])

/-- What `_publish` does to a run. -/
theorem publish_run (w : World) (page : PageView) :
    (w.publish page).run = w.run ∨
      (canonicalId page.pageId ≠ [] ∧ spaceConflicts page.spaceId = false ∧
        canonicalId page.pageId ∉ w.run.createdIds ∧
        (w.publish page).run = w.run.append page (canonicalId page.pageId)) := by
  unfold World.publish
  cases w.client with
  | plain => exact Or.inl rfl
  | live createdIds bound =>
    dsimp only
    by_cases hskip : (decide (canonicalId page.pageId = []) || spaceConflicts page.spaceId) = true
    · rw [if_pos hskip]
      exact Or.inl rfl
    · rw [if_neg hskip]
      dsimp only
      split_ifs with hbound
      · refine Or.inr ?_
        simp only [Bool.or_eq_true, decide_eq_true_eq, not_or, Bool.not_eq_true] at hskip
        simp only [Bool.and_eq_true, decide_eq_true_eq] at hbound
        exact ⟨hskip.1, hskip.2, hbound.2, rfl⟩
      · exact Or.inl rfl

/-- With its marker, a request is under way. -/
def marked (sha256 : Text → Text) (w : World) (parentId title : Text) : World :=
  w.withRun { w.run with
    possibleOrphans := w.run.possibleOrphans ++ [markerOf sha256 parentId title] }

theorem returned_publish (sha256 : Text → Text) (w : World) (parentId title : Text) (page : PageView)
    {run : SandboxRun} {client : Client}
    (hrun : run = { ((marked sha256 w parentId title).publish page).run with
      possibleOrphans := ((marked sha256 w parentId title).publish page).run.possibleOrphans.erase
        (markerOf sha256 parentId title)
      createChildPageCount :=
        ((marked sha256 w parentId title).publish page).run.createChildPageCount + 1 }) :
    Returned w page ⟨run, client, w.log ++ [.create parentId title (.ok page)]⟩ := by
  subst hrun
  have hpublish := publish_run (marked sha256 w parentId title) page
  have hkept : ((marked sha256 w parentId title).publish page).run.flaggedPages =
        w.run.flaggedPages ∧
      ((marked sha256 w parentId title).publish page).run.rejectedPages = w.run.rejectedPages ∧
      ((marked sha256 w parentId title).publish page).run.possibleOrphans =
        w.run.possibleOrphans ++ [markerOf sha256 parentId title] := by
    rcases hpublish with hsame | ⟨-, -, -, happend⟩
    · rw [hsame]
      exact ⟨rfl, rfl, rfl⟩
    · rw [happend]
      exact ⟨rfl, rfl, rfl⟩
  refine ⟨⟨parentId, title, rfl⟩, hkept.1, hkept.2.1, ?_, ?_⟩
  · -- One of the equal markers goes.
    have hperm : (w.run.possibleOrphans ++ [markerOf sha256 parentId title]).Perm
        (markerOf sha256 parentId title :: w.run.possibleOrphans) :=
      List.perm_append_singleton _ _
    have herase := hperm.erase (markerOf sha256 parentId title)
    rw [List.erase_cons_head] at herase
    simpa [hkept.2.2] using herase
  · rcases hpublish with hsame | ⟨hne, hspace, hfree, happend⟩
    · left
      constructor
      · exact (congrArg SandboxRun.createdIds hsame :)
      · exact (congrArg SandboxRun.created hsame :)
    · right
      refine ⟨hne, hspace, hfree, ?_, ?_⟩
      · exact (congrArg SandboxRun.createdIds happend :)
      · exact (congrArg SandboxRun.created happend :)

theorem createMarked_ends (h : Accounted sha256 w) (parentId title : Text) :
    (createMarked sha256 answers parentId title).Ends w (fun r w' =>
      (∀ e, r = .error e → Later sha256 w w' []) ∧ ∀ page, r = .ok page → Returned w page w') := by
  unfold createMarked
  apply Action.ends_change
  show Action.Ends _ (marked sha256 w parentId title) _
  unfold Action.Ends
  rw [Action.bind_run]
  cases hanswer : createAnswer answers parentId (marked sha256 w parentId title) with
  | error e =>
    simp only [createChildPage, hanswer]
    refine ⟨fun _ _ => ?_, fun page hpage => (by cases hpage)⟩
    -- The marker stays, for the request that raised.
    refine ⟨?_, _, rfl, fun page hpage => (by cases hpage)⟩
    constructor
    · exact ⟨h.listed.nodup, h.listed.rows, h.listed.blank⟩
    · exact h.parent
    · intro page hpage
      apply h.kept page
      simpa [createdPages, marked, World.withRun] using hpage
    · have hmarkers : raisedMarkers sha256 (w.log ++ [.create parentId title (.error e)]) =
          raisedMarkers sha256 w.log ++ [markerOf sha256 parentId title] := by
        simp [raisedMarkers]
      show (w.run.possibleOrphans ++ [markerOf sha256 parentId title]).Perm
        (raisedMarkers sha256 (w.log ++ [.create parentId title (.error e)]))
      rw [hmarkers]
      exact h.orphans.append_right _
  | ok page =>
    simp only [createChildPage, hanswer]
    refine ⟨fun e he => (by cases he), ?_⟩
    intro page' hpage
    cases hpage
    exact returned_publish sha256 w parentId title page rfl

/-! ## The page that was created -/

/-- The loop of `_align` has nothing to take away. -/
theorem shrink_run {pageId : Text} {before steps : Nat}
    (h : w.run.createdIds.length ≤ before ∨ w.run.createdIds.getLast? = some pageId) :
    shrink pageId before (steps + 1) w = (.ok (), w) := by
  simp only [shrink, Action.bind_run, Action.inspect_run]
  cases hlast : w.run.createdIds.getLast? with
  | none => rfl
  | some tail =>
    rcases h with hle | htail
    · simp only [if_pos hle]
      rfl
    · rw [hlast] at htail
      cases htail
      simp only [if_true]
      split_ifs <;> rfl

/-- What the lists are once the page is recorded. -/
inductive ListsFrom (run : SandboxRun) (page : PageView) (run' : SandboxRun) : Prop
  | same (hpage : canonicalId page.pageId = [] ∨
        (canonicalId page.pageId ∈ run.createdIds ∧ spaceConflicts page.spaceId = false))
      (hids : run'.createdIds = run.createdIds) (hrows : run'.created = run.created)
  | dropped (hpage : canonicalId page.pageId ∈ run.createdIds)
      (hspace : spaceConflicts page.spaceId = true)
      (hids : run'.createdIds = run.createdIds.erase (canonicalId page.pageId))
      (hrows : run'.created =
        run.created.filter (fun row => decide (row.id ≠ canonicalId page.pageId)))
  | appended (hblank : canonicalId page.pageId ≠ []) (hfree : canonicalId page.pageId ∉ run.createdIds)
      (hids : run'.createdIds = run.createdIds ++ [canonicalId page.pageId])
      (hrows : run'.created =
        run.created ++ [SandboxRun.rowOf page (canonicalId page.pageId)])

structure Recorded (w₀ : World) (page : PageView) (w : World) : Prop where
  log : ∃ parentId title, w.log = w₀.log ++ [.create parentId title (.ok page)]
  flagged : ∀ row ∈ w₀.run.flaggedPages, row ∈ w.run.flaggedPages
  rejected : w.run.rejectedPages = w₀.run.rejectedPages
  orphans : w.run.possibleOrphans.Perm w₀.run.possibleOrphans
  lists : ListsFrom w₀.run page w.run

theorem remember_fields (run : SandboxRun) (page : PageView) (pageId : Text) :
    (run.remember page pageId).flaggedPages = run.flaggedPages ∧
      (run.remember page pageId).rejectedPages = run.rejectedPages ∧
      (run.remember page pageId).possibleOrphans = run.possibleOrphans := by
  unfold SandboxRun.remember
  split_ifs <;> exact ⟨rfl, rfl, rfl⟩

theorem dropRecorded_fields (run : SandboxRun) (pageId : Text) :
    (run.dropRecorded pageId).flaggedPages = run.flaggedPages ∧
      (run.dropRecorded pageId).rejectedPages = run.rejectedPages ∧
      (run.dropRecorded pageId).possibleOrphans = run.possibleOrphans := by
  unfold SandboxRun.dropRecorded
  split_ifs <;> exact ⟨rfl, rfl, rfl⟩

/-- Recording changes the lists of created pages and may flag the page. -/
theorem record_fields (run : SandboxRun) (page : PageView) (pageId : Text) (before : Nat) :
    (∀ row ∈ run.flaggedPages, row ∈ (run.record page pageId before).flaggedPages) ∧
      (run.record page pageId before).rejectedPages = run.rejectedPages ∧
      (run.record page pageId before).possibleOrphans = run.possibleOrphans := by
  rcases remember_fields run page pageId with ⟨hflagged, hrejected, horphans⟩
  unfold SandboxRun.record
  split_ifs
  · rcases dropRecorded_fields run pageId with ⟨hflagged, hrejected, horphans⟩
    exact ⟨fun row hrow => by rw [hflagged]; exact hrow, hrejected, horphans⟩
  · rcases SandboxRun.flag_lists (run.remember page pageId) pageId "space_conflict" with
      ⟨-, -, hrejected', horphans', hkept⟩
    refine ⟨fun row hrow => hkept row ?_, hrejected'.trans hrejected, horphans'.trans horphans⟩
    rw [hflagged]
    exact hrow
  · exact ⟨fun row hrow => by rw [hflagged]; exact hrow, hrejected, horphans⟩

theorem Returned.take {page : PageView} (h : Returned w₀ page w) :
    w.run.createdIds.take w₀.run.createdIds.length = w₀.run.createdIds := by
  rcases h.lists with ⟨hids, -⟩ | ⟨-, -, -, hids, -⟩
  · rw [hids, List.take_length]
  · rw [hids, List.take_left]

theorem record_lists (h₀ : w₀.run.Listed) {page : PageView} (h : Returned w₀ page w) :
    ListsFrom w₀.run page
      (w.run.record page (canonicalId page.pageId) w₀.run.createdIds.length) := by
  have htake := h.take
  unfold SandboxRun.record
  rw [htake]
  cases hspace : spaceConflicts page.spaceId with
  | true =>
    -- The live client does not publish a page of another space.
    rcases h.lists with ⟨hids, hrows⟩ | ⟨-, hfalse, -⟩
    · rw [if_pos rfl]
      by_cases hmem : canonicalId page.pageId ∈ w₀.run.createdIds
      · rw [if_pos hmem]
        have hblank : canonicalId page.pageId ≠ [] := fun hnil => h₀.blank (hnil ▸ hmem)
        refine .dropped hmem hspace ?_ ?_ <;>
          simp [SandboxRun.dropRecorded, hblank, hids, hmem, hrows]
      · rw [if_neg hmem]
        rcases SandboxRun.flag_lists (w.run.remember page (canonicalId page.pageId))
          (canonicalId page.pageId) "space_conflict" with ⟨hflagIds, hflagRows, -⟩
        by_cases hblank : canonicalId page.pageId = []
        · refine .same (Or.inl hblank) (hflagIds.trans ?_) (hflagRows.trans ?_) <;>
            simp [SandboxRun.remember, hblank, hids, hrows]
        · refine .appended hblank hmem (hflagIds.trans ?_) (hflagRows.trans ?_) <;>
            simp [SandboxRun.remember, SandboxRun.append, hblank, hids, hmem, hrows]
    · rw [hspace] at hfalse
      cases hfalse
  | false =>
    rw [if_neg (by simp)]
    rcases h.lists with ⟨hids, hrows⟩ | ⟨hblank, -, hfree, hids, hrows⟩
    · by_cases hmem : canonicalId page.pageId ∈ w₀.run.createdIds
      · refine .same (Or.inr ⟨hmem, hspace⟩) ?_ ?_ <;>
          simp [SandboxRun.remember, hids, hmem, hrows]
      · by_cases hblank : canonicalId page.pageId = []
        · refine .same (Or.inl hblank) ?_ ?_ <;>
            simp [SandboxRun.remember, hblank, hids, hrows]
        · refine .appended hblank hmem ?_ ?_ <;>
            simp [SandboxRun.remember, SandboxRun.append, hblank, hids, hmem, hrows]
    · -- The live client has recorded it already.
      refine .appended hblank hfree ?_ ?_ <;>
        simp [SandboxRun.remember, hids, hrows]

theorem align_ends (h₀ : w₀.run.Listed) {page : PageView} (h : Returned w₀ page w) :
    (align page w₀.run.createdIds.length).Ends w (fun r w' =>
      r = .ok (canonicalId page.pageId) ∧ Recorded w₀ page w') := by
  have hloop : w.run.createdIds.length ≤ w₀.run.createdIds.length ∨
      w.run.createdIds.getLast? = some (canonicalId page.pageId) := by
    rcases h.lists with ⟨hids, -⟩ | ⟨-, -, -, hids, -⟩
    · exact Or.inl (by rw [hids])
    · exact Or.inr (by rw [hids, List.getLast?_concat])
  rcases record_fields w.run page (canonicalId page.pageId) w₀.run.createdIds.length with
    ⟨hflagged, hrejected, horphans⟩
  unfold Action.Ends align
  simp only [Action.bind_run, Action.inspect_run, shrink_run hloop, modifyRun, Action.change_run,
    Action.pure_run, true_and]
  refine ⟨h.log, ?_, hrejected.trans h.rejected, ?_, record_lists h₀ h⟩
  · intro row hrow
    apply hflagged
    rw [h.flagged]
    exact hrow
  · have hperm := h.orphans
    rw [← horphans] at hperm
    exact hperm

/-- An id that is in none of the rows is taken out of none of them. -/
theorem filter_rows {run : SandboxRun} (h : run.Listed) {pageId : Text}
    (hfree : pageId ∉ run.createdIds) :
    run.created.filter (fun row => decide (row.id ≠ pageId)) = run.created := by
  apply List.filter_eq_self.2
  intro row hrow
  simp only [ne_eq, decide_not, Bool.not_eq_true', decide_eq_false_iff_not]
  rintro rfl
  exact hfree (h.rows ▸ List.mem_map_of_mem hrow)

theorem ListsFrom.listed {run run' : SandboxRun} (h₀ : run.Listed) {page : PageView}
    (h : ListsFrom run page run') : run'.Listed := by
  cases h with
  | same hpage hids hrows =>
    constructor
    · rw [hids]
      exact h₀.nodup
    · rw [hids, hrows]
      exact h₀.rows
    · rw [hids]
      exact h₀.blank
  | dropped hpage hspace hids hrows => exact h₀.without _ hids hrows
  | appended hblank hfree hids hrows =>
    have happend : (run.append page (canonicalId page.pageId)).Listed := h₀.append hblank hfree
    constructor
    · rw [hids]
      exact happend.nodup
    · rw [hids, hrows]
      exact happend.rows
    · rw [hids]
      exact happend.blank

/-- Every page that was kept is kept, once the new one is. -/
theorem Recorded.kept {page : PageView} (h : Recorded w₀ page w) {run : SandboxRun} {pageId : Text}
    (hids : run.createdIds = w.run.createdIds)
    (hflagged : ∀ row ∈ w.run.flaggedPages, row ∈ run.flaggedPages)
    (hrejected : run.rejectedPages = w.run.rejectedPages)
    (hpage : run.Kept (canonicalId page.pageId)) (hold : w₀.run.Kept pageId) : run.Kept pageId := by
  refine SandboxRun.Kept.of_lists hold ?_ (fun row hrow => hflagged row (h.flagged row hrow))
    (fun row hrow => ?_) hpage
  · intro id hid hne
    rw [hids]
    rcases h.lists with ⟨-, hsame, -⟩ | ⟨-, -, hdropped, -⟩ | ⟨-, -, happended, -⟩
    · rw [hsame]
      exact hid
    · rw [hdropped]
      exact (List.mem_erase_of_ne hne).2 hid
    · rw [happended]
      exact List.mem_append_left _ hid
  · rw [hrejected, h.rejected]
    exact hrow

/-- After a request, a run is accounted for once no page is lost, the new one included. -/
theorem Recorded.later_of_kept (h₀ : Accounted sha256 w₀) {page : PageView}
    (h : Recorded w₀ page w) {run : SandboxRun} (hlisted : run.Listed)
    (hparent : sandboxParentPageId ∉ run.createdIds)
    (hold : ∀ pageId, w₀.run.Kept pageId → run.Kept pageId)
    (hpage : run.Kept (canonicalId page.pageId))
    (horphans : run.possibleOrphans = w.run.possibleOrphans) :
    Later sha256 w₀ (w.withRun run) [] := by
  rcases h.log with ⟨parentId, title, hlog⟩
  have hlog' : (w.withRun run).log = w₀.log ++ [.create parentId title (.ok page)] := hlog
  refine ⟨⟨hlisted, hparent, ?_, ?_⟩, _, hlog', fun page hpage => (by cases hpage)⟩
  · intro other hother
    have hcreated : other ∈ createdPages w₀.log ∨ other = page := by
      rw [hlog'] at hother
      simpa [createdPages] using hother
    rcases hcreated with hmem | rfl
    · exact hold _ (h₀.kept other hmem)
    · exact hpage
  · have hmarkers : raisedMarkers sha256 (w.withRun run).log = raisedMarkers sha256 w₀.log := by
      rw [hlog']
      simp [raisedMarkers]
    have hrun : (w.withRun run).run.possibleOrphans = w.run.possibleOrphans := horphans
    rw [hmarkers, hrun]
    exact h.orphans.trans h₀.orphans

/-- The page that was recorded is accounted for, unless it is the sandbox parent. -/
theorem Recorded.later (h₀ : Accounted sha256 w₀) {page : PageView} (h : Recorded w₀ page w)
    {run : SandboxRun} (hids : run.createdIds = w.run.createdIds)
    (hrows : run.created = w.run.created)
    (hflagged : ∀ row ∈ w.run.flaggedPages, row ∈ run.flaggedPages)
    (hrejected : run.rejectedPages = w.run.rejectedPages)
    (horphans : run.possibleOrphans = w.run.possibleOrphans)
    (hpage : run.Kept (canonicalId page.pageId))
    (hparent : canonicalId page.pageId ≠ sandboxParentPageId) :
    Later sha256 w₀ (w.withRun run) [] := by
  have hlisted := h.lists.listed h₀.listed
  apply h.later_of_kept h₀ _ _ (fun _ hold => h.kept hids hflagged hrejected hpage hold) hpage
    horphans
  · exact ⟨hids ▸ hlisted.nodup, (hids ▸ hrows ▸ hlisted.rows :), hids ▸ hlisted.blank⟩
  · rw [hids]
    rcases h.lists with ⟨-, hsame, -⟩ | ⟨-, -, hdropped, -⟩ | ⟨-, -, happended, -⟩
    · rw [hsame]
      exact h₀.parent
    · rw [hdropped]
      exact fun hmem => h₀.parent (List.mem_of_mem_erase hmem)
    · rw [happended, List.mem_append, List.mem_singleton, not_or]
      exact ⟨h₀.parent, hparent.symm⟩

theorem Recorded.flagged_later (h₀ : Accounted sha256 w₀) {page : PageView} (h : Recorded w₀ page w)
    (hparent : canonicalId page.pageId ≠ sandboxParentPageId) (reason : String) :
    Later sha256 w₀ (w.withRun (w.run.flag (canonicalId page.pageId) reason)) [] := by
  rcases SandboxRun.flag_lists w.run (canonicalId page.pageId) reason with
    ⟨hids, hrows, hrejected, horphans, hflagged⟩
  exact h.later h₀ hids hrows hflagged hrejected horphans (SandboxRun.kept_flag _ _ _) hparent

/-- A blank page was not recorded, and the sandbox parent is taken back. -/
theorem Recorded.dropped_later (h₀ : Accounted sha256 w₀) {page : PageView} (h : Recorded w₀ page w)
    (hpage : canonicalId page.pageId = [] ∨ canonicalId page.pageId = sandboxParentPageId) :
    Later sha256 w₀ (w.withRun (w.run.dropRecorded (canonicalId page.pageId))) [] := by
  rcases dropRecorded_fields w.run (canonicalId page.pageId) with ⟨hflagged, hrejected, horphans⟩
  have hlists : (w.run.dropRecorded (canonicalId page.pageId)).createdIds = w₀.run.createdIds ∧
      (w.run.dropRecorded (canonicalId page.pageId)).created = w₀.run.created := by
    have hfree : canonicalId page.pageId ∉ w₀.run.createdIds := by
      rcases hpage with hblank | hparent
      · rw [hblank]
        exact h₀.listed.blank
      · rw [hparent]
        exact h₀.parent
    rcases h.lists with ⟨-, hids, hrows⟩ | ⟨hmem, -⟩ | ⟨hblank, -, hids, hrows⟩
    · have hskip : canonicalId page.pageId = [] ∨ canonicalId page.pageId ∉ w.run.createdIds :=
        Or.inr (hids ▸ hfree)
      rw [SandboxRun.dropRecorded, if_pos hskip]
      exact ⟨hids, hrows⟩
    · exact absurd hmem hfree
    · have hdrop : ¬ (canonicalId page.pageId = [] ∨ canonicalId page.pageId ∉ w.run.createdIds) := by
        rw [hids]
        simp [hblank]
      rw [SandboxRun.dropRecorded, if_neg hdrop]
      refine ⟨?_, ?_⟩
      · show w.run.createdIds.erase (canonicalId page.pageId) = w₀.run.createdIds
        rw [hids, List.erase_append_right _ hfree]
        simp
      · show w.run.created.filter (fun row => decide (row.id ≠ canonicalId page.pageId)) =
          w₀.run.created
        rw [hrows, List.filter_append, filter_rows h₀.listed hfree]
        simp [SandboxRun.rowOf]
  have hpage' : (w.run.dropRecorded (canonicalId page.pageId)).Kept (canonicalId page.pageId) :=
    hpage.elim Or.inl (fun hparent => Or.inr (Or.inl hparent))
  apply h.later_of_kept h₀ _ _ _ hpage' horphans
  · exact ⟨hlists.1 ▸ h₀.listed.nodup, (hlists.1 ▸ hlists.2 ▸ h₀.listed.rows :),
      hlists.1 ▸ h₀.listed.blank⟩
  · exact hlists.1 ▸ h₀.parent
  · intro pageId hold
    exact hold.of_lists (fun id hid (_ : id ≠ canonicalId page.pageId) => hlists.1 ▸ hid)
      (fun row hrow => hflagged ▸ h.flagged row hrow) (fun row hrow => hrejected ▸ h.rejected ▸ hrow)
      hpage'

/-! ## The refusals -/

theorem require_run (condition : Bool) (e : Raised) (w : World) :
    require condition e w = if condition then (.ok (), w) else (.error e, w) := by
  unfold require
  split_ifs <;> rfl

theorem Later.flag {pages : List PageView} (h : Later sha256 w₀ w pages) (pageId : Text)
    (reason : String) : Later sha256 w₀ (w.withRun (w.run.flag pageId reason)) pages :=
  h.withRun (h.accounted.flag pageId reason)

/-- A page that is not fresh is rejected. -/
theorem fresh_ends {pages : List PageView} (h : Later sha256 w₀ w pages) (page : PageView) :
    (fresh page).Ends w (fun _ w' => Later sha256 w₀ w' pages) := by
  unfold fresh
  apply Action.ends_inspect
  split_ifs
  · exact h
  · exact h.withRun (h.accounted.rejectUnfresh _)

theorem checkCreated_ends (h₀ : Accounted sha256 w₀) {page : PageView} (h : Recorded w₀ page w)
    (requested : Text) :
    (checkCreated page (canonicalId page.pageId) requested w₀.run.createdIds.length).Ends w
      (fun r w' => Later sha256 w₀ w' [] ∧
        (r = .ok () → canonicalId page.pageId ∉ w₀.run.createdIds)) := by
  unfold checkCreated Action.Ends
  by_cases hold : canonicalId page.pageId = [] ∨ canonicalId page.pageId = sandboxParentPageId ∨
      canonicalId page.pageId = requested
  · simp only [if_pos hold]
    by_cases hother : canonicalId page.pageId ≠ [] ∧ canonicalId page.pageId ≠ sandboxParentPageId
    · simp only [if_pos hother]
      exact ⟨h.flagged_later h₀ hother.2 _, fun hok => (by cases hok)⟩
    · simp only [if_neg hother, Action.bind_run, modifyRun, Action.change_run, Action.raise_run]
      refine ⟨h.dropped_later h₀ ?_, fun hok => (by cases hok)⟩
      by_cases hblank : canonicalId page.pageId = []
      · exact Or.inl hblank
      · exact Or.inr (not_not.1 (fun hne => hother ⟨hblank, hne⟩))
  · rw [not_or, not_or] at hold
    rcases hold with ⟨hblank, hparent, hrequested⟩
    have hskip : ¬ (canonicalId page.pageId = [] ∨ canonicalId page.pageId = sandboxParentPageId ∨
        canonicalId page.pageId = requested) := by
      rw [not_or, not_or]
      exact ⟨hblank, hparent, hrequested⟩
    simp only [if_neg hskip, Action.bind_run, Action.inspect_run, require_run]
    by_cases hseen : canonicalId page.pageId ∈ w.run.createdIds.take w₀.run.createdIds.length
    · -- An earlier page, which is still listed.
      simp only [hseen, not_true, decide_false, Bool.false_eq_true, if_false]
      refine ⟨?_, fun hok => (by cases hok)⟩
      have hmem : canonicalId page.pageId ∈ w.run.createdIds := List.mem_of_mem_take hseen
      have hkept : w.run.Kept (canonicalId page.pageId) := Or.inr (Or.inr (Or.inl hmem))
      exact h.later h₀ rfl rfl (fun _ hrow => hrow) rfl rfl hkept hparent
    · simp only [hseen, not_false_eq_true, decide_true, if_true]
      by_cases hspace : spaceConflicts page.spaceId = true
      · simp only [if_pos hspace]
        exact ⟨h.flagged_later h₀ hparent _, fun hok => (by cases hok)⟩
      · -- The page is new, and it is listed.
        have hnew : canonicalId page.pageId ∉ w₀.run.createdIds ∧
            canonicalId page.pageId ∈ w.run.createdIds := by
          rcases h.lists with ⟨hpage, hids, -⟩ | ⟨-, hconflict, -⟩ | ⟨-, hfree, hids, -⟩
          · rcases hpage with hnil | ⟨hmem, -⟩
            · exact absurd hnil hblank
            · rw [hids, List.take_length] at hseen
              exact absurd hmem hseen
          · exact absurd hconflict hspace
          · exact ⟨hfree, by rw [hids]; simp⟩
        have hkept : w.run.Kept (canonicalId page.pageId) := Or.inr (Or.inr (Or.inl hnew.2))
        have hlater : Later sha256 w₀ w [] :=
          h.later h₀ rfl rfl (fun _ hrow => hrow) rfl rfl hkept hparent
        simp only [if_neg hspace]
        by_cases hunder : canonicalId page.parentId = requested
        · simp only [hunder, decide_true]
          exact ⟨fresh_ends hlater page, fun _ => hnew.1⟩
        · simp only [hunder, decide_false]
          exact ⟨hlater, fun _ => hnew.1⟩

theorem readPage_ends {pages : List PageView} (h : Later sha256 w₀ w pages) (pageId : Text) :
    (readPage answers pageId).Ends w (fun r w' => Later sha256 w₀ w' pages ∧
      ∀ page, r = .ok page → Later sha256 w₀ w' (pages ++ [page])) := by
  unfold Action.Ends readPage
  rcases h.log with ⟨during, hlog, hread⟩
  have hgrown : w.log ++ [.read pageId (answered answers w)] =
      w₀.log ++ (during ++ [.read pageId (answered answers w)]) := by
    rw [hlog, List.append_assoc]
  have hsub : ∀ page ∈ readPages during,
      page ∈ readPages (during ++ [.read pageId (answered answers w)]) := by
    intro page hpage
    rw [readPages, List.filterMap_append]
    exact List.mem_append_left _ hpage
  refine ⟨⟨h.accounted.read pageId _, _, hgrown, fun page hpage => hsub page (hread page hpage)⟩, ?_⟩
  intro page hok
  refine ⟨h.accounted.read pageId _, _, hgrown, ?_⟩
  intro other hother
  rcases List.mem_append.1 hother with hold | hnew
  · exact hsub other (hread other hold)
  · cases List.mem_singleton.1 hnew
    have hanswer : answered answers w = .ok page := hok
    simp [readPages, hanswer]

theorem checkConfirmed_ends {pages : List PageView} (h : Later sha256 w₀ w pages)
    (confirmed : PageView) (pageId requested : Text) :
    (checkConfirmed confirmed pageId requested).Ends w (fun r w' => Later sha256 w₀ w' pages ∧
      (r = .ok () → canonicalId confirmed.pageId = pageId ∧
        canonicalId confirmed.parentId = requested ∧
        spaceConflicts confirmed.spaceId = false ∧ confirmed.archived = false)) := by
  unfold checkConfirmed Action.Ends
  simp only [Action.bind_run, require_run]
  by_cases hid : canonicalId confirmed.pageId = pageId
  · simp only [hid, decide_true, if_true]
    by_cases hparent : canonicalId confirmed.parentId = requested
    · simp only [hparent, decide_true, if_true]
      by_cases hbad : (spaceConflicts confirmed.spaceId || confirmed.archived) = true
      · simp only [if_pos hbad]
        exact ⟨h.flag _ _, fun hok => (by cases hok)⟩
      · simp only [if_neg hbad]
        exact ⟨fresh_ends h confirmed, fun _ => ⟨trivial, trivial, by simpa using hbad⟩⟩
    · simp only [hparent, decide_false, Bool.false_eq_true, if_false]
      exact ⟨h, fun hok => (by cases hok)⟩
  · simp only [hid, decide_false, Bool.false_eq_true, if_false]
    exact ⟨h, fun hok => (by cases hok)⟩

/-! ## The chain -/

/-- The rest of a chain, above a page that is `seen` no more. -/
structure ChainAbove (current : PageView) (seen : List Text) (rest : List PageView) : Prop where
  linked : (current :: rest).IsChain
    (fun page next => canonicalId next.pageId = canonicalId page.parentId)
  last : ∃ page, (current :: rest).getLast? = some page ∧
    canonicalId page.pageId = sandboxParentPageId
  distinct : ((current :: rest).map (fun page => canonicalId page.pageId)).Nodup
  fresh : ∀ page ∈ current :: rest, canonicalId page.pageId ∉ seen
  sound : ∀ page ∈ rest, spaceConflicts page.spaceId = false ∧ page.archived = false

theorem ChainAbove.cons {current next : PageView} {seen : List Text} {rest : List PageView}
    (hlink : canonicalId next.pageId = canonicalId current.parentId)
    (hfree : canonicalId current.pageId ∉ seen)
    (hsound : spaceConflicts next.spaceId = false ∧ next.archived = false)
    (h : ChainAbove next (seen ++ [canonicalId current.pageId]) rest) :
    ChainAbove current seen (next :: rest) := by
  have hlater : ∀ page ∈ next :: rest, canonicalId page.pageId ∉ seen ∧
      canonicalId page.pageId ≠ canonicalId current.pageId := by
    intro page hpage
    have hfresh := h.fresh page hpage
    rw [List.mem_append, List.mem_singleton, not_or] at hfresh
    exact hfresh
  rcases h.last with ⟨top, htop, hparent⟩
  refine ⟨List.IsChain.cons_cons hlink h.linked, ⟨top, ?_, hparent⟩, ?_, ?_, ?_⟩
  · rw [List.getLast?_cons_cons]
    exact htop
  · rw [List.map_cons, List.nodup_cons]
    refine ⟨?_, h.distinct⟩
    intro hmem
    rcases List.mem_map.1 hmem with ⟨page, hpage, hsame⟩
    exact (hlater page hpage).2 hsame
  · intro page hpage
    rcases List.mem_cons.1 hpage with rfl | hpage
    · exact hfree
    · exact (hlater page hpage).1
  · intro page hpage
    rcases List.mem_cons.1 hpage with rfl | hpage
    · exact hsound
    · exact h.sound page hpage

theorem chainFrom_ends {createdId : Text} (steps : Nat) {current : PageView} {seen : List Text}
    {pages : List PageView} (h : Later sha256 w₀ w pages) (hseen : sandboxParentPageId ∉ seen) :
    (chainFrom answers createdId steps current seen).Ends w (fun r w' =>
      Later sha256 w₀ w' pages ∧
        (r = .ok () → ∃ rest, ChainAbove current seen rest ∧ Later sha256 w₀ w' (pages ++ rest))) := by
  induction steps generalizing w current seen pages with
  | zero => exact ⟨h, fun hok => (by cases hok)⟩
  | succ steps ih =>
    unfold chainFrom
    by_cases htop : canonicalId current.pageId = sandboxParentPageId
    · rw [if_pos htop]
      split_ifs with hbad
      · exact ⟨h.flag _ _, fun hok => (by cases hok)⟩
      · refine ⟨h, fun _ => ⟨[], ⟨?_, ⟨current, rfl, htop⟩, ?_, ?_, ?_⟩, by simpa using h⟩⟩
        · exact List.IsChain.singleton current
        · exact List.nodup_singleton _
        · intro page hpage
          rw [List.mem_singleton.1 hpage, htop]
          exact hseen
        · intro page hpage
          cases hpage
    · rw [if_neg htop]
      split_ifs with hstop
      · exact ⟨h, fun hok => (by cases hok)⟩
      · rw [not_or, not_or] at hstop
        apply Action.ends_bind (readPage_ends h _)
        · rintro next w₁ ⟨h₁, hnext⟩
          have hnext := hnext next rfl
          split_ifs with hlink hbad
          · exact ⟨h₁.flag _ _, fun hok => (by cases hok)⟩
          · exact ⟨h₁.flag _ _, fun hok => (by cases hok)⟩
          · -- The page that was read goes on the chain.
            have hseen' : sandboxParentPageId ∉ seen ++ [canonicalId current.pageId] := by
              rw [List.mem_append, List.mem_singleton, not_or]
              exact ⟨hseen, fun hsame => htop hsame.symm⟩
            apply (ih hnext hseen').mono
            rintro r w₂ ⟨h₂, hchain⟩
            refine ⟨h₂.mono (fun page hpage => List.mem_append_left _ hpage), fun hok => ?_⟩
            rcases hchain hok with ⟨rest, habove, hread⟩
            refine ⟨next :: rest, habove.cons (not_not.1 hlink) hstop.2.2 (by simpa using hbad), ?_⟩
            simpa using hread
        · rintro e w₁ ⟨h₁, -⟩
          exact ⟨h₁, fun hok => (by cases hok)⟩

/-! ## Any number of calls -/

/-- One call keeps everything accounted for, and returns only what it confirmed. -/
theorem createUnder_ends (h : Accounted sha256 w) (parentId title : Text) :
    (createUnder sha256 answers parentId title).Ends w (fun r w' => Later sha256 w w' [] ∧
      ∀ page, r = .ok page → canonicalId page.pageId ∉ w.run.createdIds ∧
        canonicalId page.parentId = canonicalId parentId ∧
        ∃ rest, ReachesSandbox (page :: rest) (page :: rest) ∧
          Later sha256 w w' (page :: rest)) := by
  have hnow : Later sha256 w w [] :=
    ⟨h, [], (List.append_nil _).symm, fun page hpage => (by cases hpage)⟩
  unfold createUnder
  apply Action.ends_inspect
  have hrequire : ∀ condition e, (require condition e).Ends w
      (fun _ w' => w' = w) := by
    intro condition e
    unfold Action.Ends
    rw [require_run]
    split_ifs <;> rfl
  apply Action.ends_bind (hrequire _ _)
  · rintro _ w₁ rfl
    apply Action.ends_bind (hrequire _ _)
    · rintro _ w₁ rfl
      apply Action.ends_bind (createMarked_ends h parentId title)
      · rintro page w₂ ⟨-, hreturned⟩
        apply Action.ends_bind (align_ends h.listed (hreturned page rfl))
        · rintro pageId w₃ ⟨hpageId, hrecorded⟩
          cases hpageId
          apply Action.ends_bind (checkCreated_ends h hrecorded (canonicalId parentId))
          · rintro _ w₄ ⟨h₄, hnew⟩
            apply Action.ends_bind (readPage_ends h₄ _)
            · rintro confirmed w₅ ⟨-, h₅⟩
              apply Action.ends_bind (checkConfirmed_ends (h₅ confirmed rfl) confirmed
                (canonicalId page.pageId) (canonicalId parentId))
              · rintro _ w₆ ⟨h₆, hconfirmed⟩
                rcases hconfirmed rfl with ⟨hid, hparent, hsound⟩
                apply Action.ends_bind (chainFrom_ends 4 h₆ List.not_mem_nil)
                · rintro _ w₇ ⟨-, hchain⟩
                  rcases hchain rfl with ⟨rest, habove, h₇⟩
                  -- The row of the page is written again.
                  have h₈ := h₇.withRun (h₇.accounted.confirm confirmed (canonicalId page.pageId))
                  refine ⟨h₈.mono (fun page hpage => (by cases hpage)), ?_⟩
                  intro page' hpage'
                  cases hpage'
                  refine ⟨hid ▸ hnew rfl, hparent, rest, ⟨habove.linked, habove.last,
                    habove.distinct, ?_, fun page hpage => hpage⟩,
                    h₈.mono (fun page hpage => by simpa using hpage)⟩
                  intro page hpage
                  rcases List.mem_cons.1 hpage with rfl | hpage
                  · exact hsound
                  · exact habove.sound page hpage
                · rintro e w₇ ⟨h₇, -⟩
                  exact ⟨h₇.mono (fun page hpage => (by cases hpage)), fun page hok => (by cases hok)⟩
              · rintro e w₆ ⟨h₆, -⟩
                exact ⟨h₆.mono (fun page hpage => (by cases hpage)), fun page hok => (by cases hok)⟩
            · rintro e w₅ ⟨h₅, -⟩
              exact ⟨h₅, fun page hok => (by cases hok)⟩
          · rintro e w₄ ⟨h₄, -⟩
            exact ⟨h₄, fun page hok => (by cases hok)⟩
        · rintro e w₃ ⟨hok, -⟩
          cases hok
      · rintro e w₂ ⟨hraised, -⟩
        exact ⟨hraised e rfl, fun page hok => (by cases hok)⟩
    · rintro e w₁ rfl
      exact ⟨hnow, fun page hok => (by cases hok)⟩
  · rintro e w₁ rfl
    exact ⟨hnow, fun page hok => (by cases hok)⟩

end Calls

theorem accounted_start (sha256 : Text → Text) (client : Client) (moment : Int)
    (botUserId botSpaceId : Text) :
    Accounted sha256 (World.start client moment botUserId botSpaceId) where
  listed := ⟨List.nodup_nil, rfl, List.not_mem_nil⟩
  parent := List.not_mem_nil
  kept := fun page hpage => (by cases hpage)
  orphans := List.Perm.refl _

theorem accounted_afterCalls {sha256 : Text → Text} {answers : Nat → Except Raised PageView}
    {w : World} (h : Accounted sha256 w) (calls : List (Text × Text)) :
    Accounted sha256 (afterCalls sha256 answers w calls) := by
  induction calls generalizing w with
  | nil => exact h
  | cons call rest ih =>
    have hcall : (createUnder sha256 answers call.1 call.2).Ends w _ :=
      createUnder_ends h call.1 call.2
    exact ih hcall.1.accounted

/-- After any calls of any client everything is accounted for, and a page that the next call returns is
new, confirmed under its parent and read all the way up to the sandbox. -/
theorem sandbox_pages_accounted (sha256 : Text → Text) (answers : Nat → Except Raised PageView)
    (client : Client) (moment : Int) (botUserId botSpaceId : Text) (calls : List (Text × Text)) :
    Accounted sha256
        (afterCalls sha256 answers (World.start client moment botUserId botSpaceId) calls) ∧
      ∀ parentId title page w', createUnder sha256 answers parentId title
          (afterCalls sha256 answers (World.start client moment botUserId botSpaceId) calls) =
            (.ok page, w') →
        canonicalId page.pageId ∉ (afterCalls sha256 answers
          (World.start client moment botUserId botSpaceId) calls).run.createdIds ∧
        canonicalId page.parentId = canonicalId parentId ∧
        ∃ during rest, w'.log = (afterCalls sha256 answers
            (World.start client moment botUserId botSpaceId) calls).log ++ during ∧
          ReachesSandbox (readPages during) (page :: rest) := by
  have h : Accounted sha256
      (afterCalls sha256 answers (World.start client moment botUserId botSpaceId) calls) :=
    accounted_afterCalls (accounted_start sha256 client moment botUserId botSpaceId) calls
  refine ⟨h, ?_⟩
  intro parentId title page w' hrun
  have hcall : (createUnder sha256 answers parentId title).Ends _ _ :=
    createUnder_ends h parentId title
  unfold Action.Ends at hcall
  rw [hrun] at hcall
  rcases hcall.2 page rfl with ⟨hnew, hparent, rest, hchain, hlater⟩
  rcases hlater.log with ⟨during, hlog, hread⟩
  exact ⟨hnew, hparent, during, rest, hlog,
    hchain.linked, hchain.last, hchain.distinct, hchain.sound, hread⟩

end Cli
end MoneyMachine
