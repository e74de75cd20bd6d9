import MoneyMachine.Agents.CheckpointDocuments

/-!
# CheckpointRuns — what a crash leaves of a checkpoint

The only operation that changes the live file moves a whole temporary over it.  A temporary holds the
beginning of one document, and the newline that ends a document stands nowhere else in it, so a
temporary that can be read is a whole document.

* `checkpoints_survive` : over all runs, with a crash at every operation.
-/

namespace MoneyMachine
namespace Agents
namespace Progress

open MoneyMachine.Library
open MoneyMachine.Library.Json

/-! ## The invariant -/

/-- Every document that can come into the live file is sound, its rest is one of `known`, and each
installed list of jobs extends the ones before it. -/
structure Inv (sha256 : List Char → List Char) (known : Dict → Prop) (s : Store) : Prop where
  live : s.live = s.installs.head?.map (Document.text sha256)
  sound : ∀ d ∈ s.installs, d.Sound ∧ known d.rest
  grows : s.installs.Pairwise (fun later earlier => earlier.jobs <+: later.jobs)
  temps : ∀ t ∈ s.temps, (t.document.Sound ∧ known t.document.rest) ∧
    t.text <+: t.document.text sha256

/-- The live file is untouched and no temporary is new. -/
structure Quiet (s s' : Store) : Prop where
  live : s'.live = s.live
  installs : s'.installs = s.installs
  temps : ∀ t ∈ s'.temps, t ∈ s.temps

/-- Nothing changed but the time. -/
structure Still (s s' : Store) : Prop where
  live : s'.live = s.live
  installs : s'.installs = s.installs
  temps : s'.temps = s.temps

theorem Quiet.refl (s : Store) : Quiet s s :=
  ⟨rfl, rfl, fun _ h => h⟩

theorem Quiet.trans {s s' s'' : Store} (h : Quiet s s') (h' : Quiet s' s'') : Quiet s s'' :=
  ⟨h'.live.trans h.live, h'.installs.trans h.installs, fun t ht => h.temps t (h'.temps t ht)⟩

theorem Still.refl (s : Store) : Still s s :=
  ⟨rfl, rfl, rfl⟩

theorem Still.trans {s s' s'' : Store} (h : Still s s') (h' : Still s' s'') : Still s s'' :=
  ⟨h'.live.trans h.live, h'.installs.trans h.installs, h'.temps.trans h.temps⟩

theorem Still.quiet {s s' : Store} (h : Still s s') : Quiet s s' :=
  ⟨h.live, h.installs, fun t ht => by rw [← h.temps]; exact ht⟩

theorem Still.find {s s' : Store} (h : Still s s') (pid : Nat) : s'.find pid = s.find pid := by
  unfold Store.find
  rw [h.temps]

theorem Inv.of_quiet {sha256 : List Char → List Char} {known : Dict → Prop} {s s' : Store}
    (h : Inv sha256 known s) (hq : Quiet s s') : Inv sha256 known s' where
  live := by rw [hq.live, hq.installs]; exact h.live
  sound := by rw [hq.installs]; exact h.sound
  grows := by rw [hq.installs]; exact h.grows
  temps := fun t ht => h.temps t (hq.temps t ht)

theorem find_mem {s : Store} {pid : Nat} {t : Temp} (h : s.find pid = some t) : t ∈ s.temps :=
  List.mem_of_find?_eq_some h

theorem drop_quiet (s : Store) (pid : Nat) : Quiet s (s.drop pid) :=
  ⟨rfl, rfl, fun _ ht => List.mem_of_mem_filter ht⟩

/-! ## One operation -/

section Programs

variable {env : Env} {s : Store}

theorem operation_ends : (operation env).Ends s (fun _ s' => Still s s') := by
  unfold Action.Ends operation
  cases env.fate s.moment with
  | done => exact ⟨rfl, rfl, rfl⟩
  | error => exact ⟨rfl, rfl, rfl⟩
  | interrupted => exact ⟨rfl, rfl, rfl⟩
  | crashed => exact ⟨rfl, rfl, rfl⟩

/-- A handler for `OSError` that does nothing. -/
theorem onOSError_ends {α : Type} {x handler : Program α} {Q R : Except Fault α → Store → Prop}
    (h : x.Ends s R) (hok : ∀ a s', R (.ok a) s' → Q (.ok a) s')
    (hhandler : ∀ s', R (.error .osError) s' → handler.Ends s' Q)
    (herror : ∀ e s', R (.error e) s' → Q (.error e) s') : (onOSError x handler).Ends s Q := by
  refine Action.ends_handle h hok ?_
  intro e s' hR
  split_ifs with he
  · subst he
    exact hhandler s' hR
  · exact herror e s' hR

/-- A handler that cleans up and raises again; after a crash it does not run. -/
theorem onAnyError_ends {x cleanup : Program Unit} {Q R : Except Fault Unit → Store → Prop}
    (h : x.Ends s R) (hok : ∀ a s', R (.ok a) s' → Q (.ok a) s')
    (hcrash : ∀ s', R (.error .crashed) s' → Q (.error .crashed) s')
    (hcleanup : ∀ e s', R (.error e) s' → cleanup.Ends s' (fun _ s'' => ∀ e', Q (.error e') s'')) :
    (onAnyError x cleanup).Ends s Q := by
  refine Action.ends_handle h hok ?_
  intro e s' hR
  split_ifs with he
  · subst he
    exact hcrash s' hR
  · exact Action.ends_bind (hcleanup e s' hR) (fun _ _ hQ => hQ _) (fun _ _ hQ => hQ _)

theorem checked_ends {α : Type} {x : Except ProductBuildError α} :
    (checked x).Ends s (fun r s' => s' = s ∧ ∀ a, r = .ok a → x = .ok a) := by
  unfold Action.Ends checked
  cases x with
  | ok a =>
    refine ⟨rfl, ?_⟩
    intro b hb
    cases hb
    rfl
  | error e =>
    refine ⟨rfl, ?_⟩
    intro a ha
    cases ha

theorem unlink_ends (pid : Nat) : (unlink env pid).Ends s (fun _ s' => Quiet s s') := by
  refine Action.ends_bind operation_ends ?_ (fun _ _ h => h.quiet)
  intro _ s' h
  exact h.quiet.trans (drop_quiet s' pid)

theorem removed_ends (pid : Nat) :
    (onOSError (unlink env pid) (pure ())).Ends s (fun _ s' => Quiet s s') :=
  onOSError_ends (unlink_ends pid) (fun _ _ h => h) (fun _ h => h) (fun _ _ h => h)

theorem iterdir_ends : (iterdir env).Ends s (fun _ s' => Still s s') :=
  Action.ends_bind operation_ends (fun _ _ h => h) (fun _ _ h => h)

theorem removeDead_ends (pids : List Nat) :
    (removeDead env pids).Ends s (fun _ s' => Quiet s s') := by
  induction pids generalizing s with
  | nil => exact Quiet.refl s
  | cons pid pids ih =>
    unfold removeDead
    refine Action.ends_inspect ?_
    split_ifs with halive
    · exact ih
    · refine Action.ends_bind (removed_ends pid) ?_ (fun _ _ h => h)
      intro _ s' h
      exact ih.mono (fun _ _ h' => h.trans h')

theorem removeDeadTemps_ends : (removeDeadTemps env).Ends s (fun _ s' => Quiet s s') := by
  refine Action.ends_bind iterdir_ends ?_ (fun _ _ h => h.quiet)
  intro pids s' h
  exact (removeDead_ends pids).mono (fun _ _ h' => h.quiet.trans h')

/-- What a check of a temporary tells. -/
theorem completeCheckpointFile_ends (pid : Nat) :
    (completeCheckpointFile env pid).Ends s (fun r s' => Still s s' ∧
      (r = .ok true → ∃ t, s.find pid = some t ∧
        (loadPayload env.sha256 (some t.text) false).toOption.isSome = true)) := by
  unfold completeCheckpointFile
  refine Action.ends_inspect ?_
  cases hfind : s.find pid with
  | none => exact ⟨Still.refl s, fun h => by cases h⟩
  | some t =>
    refine onOSError_ends (R := fun r s' => Still s s' ∧ ∀ b, r = .ok b →
      b = (loadPayload env.sha256 (some t.text) false).toOption.isSome) ?_ ?_ ?_ ?_
    · refine Action.ends_bind operation_ends ?_ ?_
      · intro _ s' h
        refine ⟨h, ?_⟩
        intro b hb
        cases hb
        rfl
      · intro e s' h
        exact ⟨h, fun b hb => by cases hb⟩
    · intro b s' h
      refine ⟨h.1, ?_⟩
      intro hb
      cases hb
      exact ⟨t, rfl, (h.2 true rfl).symm⟩
    · intro s' h
      exact ⟨h.1, fun hb => by cases hb⟩
    · intro e s' h
      exact ⟨h.1, fun hb => by cases hb⟩

/-- The live file is untouched, and a temporary that is new holds a beginning of `d`. -/
structure Wrote (sha256 : List Char → List Char) (d : Document) (s s' : Store) : Prop where
  live : s'.live = s.live
  installs : s'.installs = s.installs
  temps : ∀ t ∈ s'.temps, t ∈ s.temps ∨ (t.document = d ∧ t.text <+: d.text sha256)

theorem Wrote.of_quiet {sha256 : List Char → List Char} {d : Document} {s s' s'' : Store}
    (h : Wrote sha256 d s s') (h' : Quiet s' s'') : Wrote sha256 d s s'' :=
  ⟨h'.live.trans h.live, h'.installs.trans h.installs, fun t ht => h.temps t (h'.temps t ht)⟩

theorem Wrote.put {sha256 : List Char → List Char} {d : Document} {s s' : Store} {t : Temp}
    (h : Wrote sha256 d s s') (hdocument : t.document = d) (htext : t.text <+: d.text sha256) :
    Wrote sha256 d s (s'.put t) where
  live := h.live
  installs := h.installs
  temps := by
    intro u hu
    rcases List.mem_cons.1 hu with rfl | hu
    · exact Or.inr ⟨hdocument, htext⟩
    · exact h.temps u (List.mem_of_mem_filter hu)

theorem Quiet.wrote {sha256 : List Char → List Char} {s s' : Store} (h : Quiet s s')
    (d : Document) : Wrote sha256 d s s' :=
  ⟨h.live, h.installs, fun t ht => Or.inl (h.temps t ht)⟩

theorem find_put (s : Store) (t : Temp) : (s.put t).find t.pid = some t := by
  unfold Store.find Store.put
  rw [List.find?_cons_of_pos (by simp)]

theorem Inv.of_wrote {sha256 : List Char → List Char} {known : Dict → Prop} {d : Document}
    {s s' : Store} (h : Inv sha256 known s) (hw : Wrote sha256 d s s') (hd : d.Sound)
    (hknown : known d.rest) : Inv sha256 known s' where
  live := by rw [hw.live, hw.installs]; exact h.live
  sound := by rw [hw.installs]; exact h.sound
  grows := by rw [hw.installs]; exact h.grows
  temps := by
    intro t ht
    rcases hw.temps t ht with ht | ⟨hdocument, htext⟩
    · exact h.temps t ht
    · rw [hdocument]
      exact ⟨⟨hd, hknown⟩, htext⟩

/-- A write that returned has put the whole document into its temporary. -/
theorem writeText_ends (pid : Nat) (d : Document) :
    (writeText env pid d).Ends s (fun r s' => Wrote env.sha256 d s s' ∧
      (r = .ok () → ∃ t, s'.find pid = some t ∧ t.document = d ∧ t.text = d.text env.sha256)) := by
  unfold writeText
  refine Action.ends_bind operation_ends ?_ ?_
  · intro _ s₁ h₁
    -- The file is open and empty, and then it is filled.
    have hopen : ∀ now, Wrote env.sha256 d s (s₁.put ⟨pid, [], now, d⟩) :=
      fun now => (h₁.quiet.wrote d).put rfl List.nil_prefix
    generalize hs₂ : s₁.put ⟨pid, [], env.clock s₁.moment, d⟩ = s₂
    have hwrote : Wrote env.sha256 d s s₂ := hs₂ ▸ hopen _
    refine Action.ends_inspect (Action.ends_change ?_)
    rw [hs₂]
    have hop : (operation env).Ends s₂ (fun _ s' => Still s₂ s') := operation_ends
    unfold Action.Ends at hop ⊢
    unfold fill
    rcases hrun : operation env s₂ with ⟨r, s₃⟩
    rw [hrun] at hop
    have hstill : Wrote env.sha256 d s s₃ := hwrote.of_quiet hop.quiet
    cases r with
    | ok u =>
      refine ⟨hstill.put rfl (List.prefix_refl _), ?_⟩
      intro _
      exact ⟨_, find_put s₃ _, rfl, rfl⟩
    | error e =>
      refine ⟨hstill.put rfl (List.take_prefix _ _), ?_⟩
      intro h
      cases h
  · intro e s' h
    exact ⟨h.quiet.wrote d, fun he => by cases he⟩

/-- The temporary `t` became the live file. -/
structure Installed (t : Temp) (s s' : Store) : Prop where
  live : s'.live = some t.text
  installs : s'.installs = t.document :: s.installs
  temps : ∀ u ∈ s'.temps, u ∈ s.temps

theorem replace_ends (pid : Nat) :
    (replace env pid).Ends s (fun r s' =>
      match r with
      | .ok _ => ∃ t, s.find pid = some t ∧ Installed t s s'
      | .error _ => Still s s') := by
  unfold replace
  refine Action.ends_bind operation_ends ?_ (fun _ _ h => h)
  intro _ s₁ h₁
  refine Action.ends_inspect ?_
  cases hfind : s₁.find pid with
  | none => exact h₁
  | some t =>
    refine ⟨t, (h₁.find pid).symm.trans hfind, rfl, ?_, ?_⟩
    · exact congrArg (t.document :: ·) h₁.installs
    · intro u hu
      exact h₁.quiet.temps u (List.mem_of_mem_filter hu)

/-- Installing a whole document whose jobs extend the live ones keeps the invariant. -/
theorem Inv.install {sha256 : List Char → List Char} {known : Dict → Prop} {s s' : Store} {t : Temp}
    (h : Inv sha256 known s) (hi : Installed t s s') (hd : t.document.Sound)
    (hknown : known t.document.rest) (htext : t.text = t.document.text sha256)
    (hjobs : ∀ d, s.installs.head? = some d → d.jobs <+: t.document.jobs) :
    Inv sha256 known s' where
  live := by
    rw [hi.live, hi.installs, htext]
    rfl
  sound := by
    intro d hmem
    rw [hi.installs] at hmem
    rcases List.mem_cons.1 hmem with rfl | hmem
    · exact ⟨hd, hknown⟩
    · exact h.sound d hmem
  grows := by
    rw [hi.installs]
    refine List.pairwise_cons.2 ⟨?_, h.grows⟩
    intro earlier hearlier
    -- The last list extends every earlier one, and the new one extends the last.
    have hgrows := h.grows
    cases hinstalls : s.installs with
    | nil =>
      rw [hinstalls] at hearlier
      cases hearlier
    | cons last others =>
      rw [hinstalls] at hearlier hgrows hjobs
      have hlast : last.jobs <+: t.document.jobs := hjobs last rfl
      rcases List.mem_cons.1 hearlier with rfl | hearlier
      · exact hlast
      · exact ((List.pairwise_cons.1 hgrows).1 earlier hearlier).trans hlast
  temps := fun u hu => h.temps u (hi.temps u hu)

/-! ## Writing -/

/-- What a write may be given: if its shape is accepted, the document is sound, its rest is known and
its jobs extend the live ones. -/
def Writable (known : Dict → Prop) (s : Store) (d : Document) : Prop :=
  exactKeys d.progress progressFields = true → requireShape d.progress = .ok () →
    d.Sound ∧ known d.rest ∧ ∀ last, s.installs.head? = some last → last.jobs <+: d.jobs

variable {known : Dict → Prop}

/-- The cleanup behind a failed `os.replace`. -/
theorem discarded_ends (pid : Nat) :
    Action.Ends (do
      if ← completeCheckpointFile env pid then
        pure ()
      else
        onOSError (unlink env pid) (pure ()) : Program Unit) s (fun _ s' => Quiet s s') := by
  refine Action.ends_bind (completeCheckpointFile_ends pid) ?_ (fun _ _ h => h.1.quiet)
  intro complete s' h
  split_ifs with hcomplete
  · exact h.1.quiet
  · exact (removed_ends pid).mono (fun _ _ h' => h.1.quiet.trans h')

theorem writeDocument_ends (pid : Nat) {payload progress : Dict} (h : Inv env.sha256 known s)
    (hd : Writable known s ⟨payload, progress⟩) :
    (writeDocument env pid payload progress).Ends s (fun _ s' => Inv env.sha256 known s') := by
  unfold writeDocument
  refine Action.ends_bind checked_ends ?_ (fun _ _ hr => hr.1 ▸ h)
  rintro unsigned _ ⟨rfl, hunsigned⟩
  -- A body with exactly the fields is written as it is.
  have hkeys : exactKeys progress progressFields = true ∧ unsigned = progress := by
    have hbody := hunsigned unsigned rfl
    unfold unsignedBody at hbody
    split_ifs at hbody with hkeys
    exact ⟨hkeys, (Except.ok.inj hbody).symm⟩
  rcases hkeys with ⟨hkeys, rfl⟩
  refine Action.ends_bind checked_ends ?_ (fun _ _ hr => hr.1 ▸ h)
  rintro ⟨⟩ _ ⟨rfl, hshape⟩
  rcases hd hkeys (hshape () rfl) with ⟨hsound, hknown, hjobs⟩
  refine Action.ends_bind removeDeadTemps_ends ?_ (fun _ _ hq => h.of_quiet hq)
  intro _ s₁ hq₁
  have h₁ : Inv env.sha256 known s₁ := h.of_quiet hq₁
  refine Action.ends_bind (R := fun r s' => Wrote env.sha256 ⟨payload, unsigned⟩ s₁ s' ∧
      (r = .ok () → ∃ t, s'.find pid = some t ∧ t.document = ⟨payload, unsigned⟩ ∧
        t.text = Document.text env.sha256 ⟨payload, unsigned⟩)) ?_ ?_ ?_
  · refine onAnyError_ends (writeText_ends pid _) (fun _ _ hw => hw) (fun _ hw => hw) ?_
    intro e s₂ hw
    refine (removed_ends pid).mono ?_
    intro _ s₃ hq e'
    exact ⟨hw.1.of_quiet hq, fun he => by cases he⟩
  · rintro ⟨⟩ s₂ ⟨hw, hfull⟩
    have h₂ : Inv env.sha256 known s₂ := h₁.of_wrote hw hsound hknown
    rcases hfull rfl with ⟨t, hfind, hdocument, htext⟩
    have hlast : ∀ last, s₂.installs.head? = some last → last.jobs <+: t.document.jobs := by
      intro last hlast
      rw [hw.installs, hq₁.installs] at hlast
      rw [hdocument]
      exact hjobs last hlast
    refine onAnyError_ends (replace_ends pid) ?_ (fun _ hs => h₂.of_quiet (Still.quiet hs)) ?_
    · rintro _ s₃ ⟨u, hu, hi⟩
      cases hfind.symm.trans hu
      refine h₂.install hi ?_ ?_ ?_ hlast
      · rw [hdocument]
        exact hsound
      · rw [hdocument]
        exact hknown
      · rw [hdocument]
        exact htext
    · intro e s₃ hs
      refine (discarded_ends pid).mono ?_
      intro _ s₄ hq _
      exact h₂.of_quiet ((Still.quiet hs).trans hq)
  · intro e s₂ hw
    exact h₁.of_wrote hw.1 hsound hknown

/-! ## Adopting -/

/-- The temporary of `pid` is a whole document. -/
def Whole (sha256 : List Char → List Char) (s : Store) (pid : Nat) : Prop :=
  ∃ t, s.find pid = some t ∧ t.text = t.document.text sha256

theorem Whole.of_still {sha256 : List Char → List Char} {s s' : Store} {pid : Nat}
    (h : Whole sha256 s pid) (hs : Still s s') : Whole sha256 s' pid := by
  rcases h with ⟨t, hfind, htext⟩
  exact ⟨t, (hs.find pid).trans hfind, htext⟩

/-- What the comparison with the live file tells. -/
theorem extendsLive_ends (pid : Nat) :
    (extendsLive env pid).Ends s (fun r s' => Still s s' ∧
      (r = .ok true → ∃ live t, s.live = some live ∧ s.find pid = some t ∧
        strictlyExtends env.floatEq t.text live = true)) := by
  unfold extendsLive
  refine Action.ends_inspect ?_
  split
  · rename_i live t hpair
    have hlive : s.live = some live := congrArg Prod.fst hpair
    have hfind : s.find pid = some t := congrArg Prod.snd hpair
    refine onOSError_ends (R := fun r s' => Still s s' ∧ ∀ b, r = .ok b →
      b = strictlyExtends env.floatEq t.text live) ?_ ?_ ?_ ?_
    · refine Action.ends_bind operation_ends ?_ (fun _ _ hs => ⟨hs, fun b hb => by cases hb⟩)
      intro _ s₁ hs₁
      refine Action.ends_bind operation_ends ?_
        (fun _ _ hs => ⟨hs₁.trans hs, fun b hb => by cases hb⟩)
      intro _ s₂ hs₂
      refine ⟨hs₁.trans hs₂, ?_⟩
      intro b hb
      cases hb
      rfl
    · intro b s' hb
      refine ⟨hb.1, ?_⟩
      intro htrue
      cases htrue
      exact ⟨live, t, hlive, hfind, (hb.2 true rfl).symm⟩
    · intro s' hb
      exact ⟨hb.1, fun htrue => by cases htrue⟩
    · intro e s' hb
      exact ⟨hb.1, fun htrue => by cases htrue⟩
  · exact ⟨Still.refl s, fun h => by cases h⟩

/-- Only whole documents are taken up. -/
theorem adoptable_ends (h : Inv env.sha256 known s) (pids : List Nat) :
    (adoptable env pids).Ends s (fun r s' => Still s s' ∧
      ∀ found, r = .ok found → ∀ pid ∈ found, Whole env.sha256 s pid) := by
  induction pids generalizing s with
  | nil =>
    refine ⟨Still.refl s, ?_⟩
    intro found hfound
    cases hfound
    exact fun pid hpid => absurd hpid List.not_mem_nil
  | cons pid pids ih =>
    unfold adoptable
    refine Action.ends_inspect ?_
    -- The rest of the listing, from a store in which nothing moved.
    have hrest : ∀ s', Still s s' → (adoptable env pids).Ends s' (fun r s'' => Still s s'' ∧
        ∀ found, r = .ok found → ∀ pid ∈ found, Whole env.sha256 s pid) := by
      intro s' hs
      refine (ih (h.of_quiet hs.quiet)).mono ?_
      intro r s'' hr
      refine ⟨hs.trans hr.1, ?_⟩
      intro found hfound other hother
      exact (hr.2 found hfound other hother).of_still ⟨hs.live.symm, hs.installs.symm, hs.temps.symm⟩
    split_ifs with halive
    · exact hrest s (Still.refl s)
    · refine Action.ends_bind (completeCheckpointFile_ends pid) ?_
        (fun _ _ hs => ⟨hs.1, fun found hfound => by cases hfound⟩)
      intro complete s₁ hcomplete
      split_ifs with htrue
      · refine Action.ends_bind (extendsLive_ends pid) ?_
          (fun _ _ hs => ⟨hcomplete.1.trans hs.1, fun found hfound => by cases hfound⟩)
        intro longer s₂ hlonger
        split_ifs with hlong
        · refine Action.ends_bind (hrest s₂ (hcomplete.1.trans hlonger.1)) ?_
            (fun _ _ hs => ⟨hs.1, fun found hfound => by cases hfound⟩)
          intro found s₃ hfound
          refine ⟨hfound.1, ?_⟩
          intro all hall other hother
          cases hall
          rcases List.mem_cons.1 hother with rfl | hother
          · rcases hcomplete.2 (by rw [htrue]) with ⟨t, hfind, hload⟩
            have htemp := (h.temps t (find_mem hfind)).2
            exact ⟨t, hfind, Document.whole_of_loadPayload htemp hload⟩
          · exact hfound.2 found rfl other hother
        · exact hrest s₂ (hcomplete.1.trans hlonger.1)
      · exact hrest s₁ hcomplete.1

theorem modified_ends (pids : List Nat) :
    (modified env pids).Ends s (fun r s' => Still s s' ∧
      ∀ stamped, r = .ok stamped → stamped.map Prod.snd = pids) := by
  induction pids generalizing s with
  | nil =>
    refine ⟨Still.refl s, ?_⟩
    intro stamped hstamped
    cases hstamped
    rfl
  | cons pid pids ih =>
    unfold modified
    refine Action.ends_bind operation_ends ?_ (fun _ _ hs => ⟨hs, fun _ h => by cases h⟩)
    intro _ s₁ hs₁
    refine Action.ends_inspect ?_
    refine Action.ends_bind ih ?_ (fun _ _ hs => ⟨hs₁.trans hs.1, fun _ h => by cases h⟩)
    intro others s₂ hothers
    refine ⟨hs₁.trans hothers.1, ?_⟩
    intro stamped hstamped
    cases hstamped
    rw [List.map_cons, hothers.2 others rfl]

/-- Nothing was installed, or a document that has the live one's jobs first and differs from it in
nothing but the jobs and the digest. -/
def Adopted (s s' : Store) : Prop :=
  (s'.live = s.live ∧ s'.installs = s.installs) ∨
    ∃ last d, s.installs.head? = some last ∧ s'.installs = d :: s.installs ∧
      last.jobs <+: d.jobs ∧ d.rest = last.rest

theorem Adopted.of_still {s s₁ s' : Store} (hs : Still s s₁) (h : Adopted s₁ s') : Adopted s s' := by
  rcases h with ⟨hlive, hinstalls⟩ | ⟨last, d, hhead, hinstalls, hjobs, hrest⟩
  · exact Or.inl ⟨hlive.trans hs.live, hinstalls.trans hs.installs⟩
  · rw [hs.installs] at hhead hinstalls
    exact Or.inr ⟨last, d, hhead, hinstalls, hjobs, hrest⟩

theorem Still.adopted {s s' : Store} (h : Still s s') : Adopted s s' :=
  Or.inl ⟨h.live, h.installs⟩

/-- Python's `==` tells the known rests apart. -/
def Told (floatEq : Value → Value → Bool) (known : Dict → Prop) : Prop :=
  ∀ r r', known r → known r' → pyEqMembers floatEq r r' = true → r = r'

/-- A whole temporary that extends the live file is its document with more jobs. -/
theorem extension_of_live (h : Inv env.sha256 known s) (htold : Told env.floatEq known) {pid : Nat}
    (hwhole : Whole env.sha256 s pid) {live : List Char} {t : Temp} (hlive : s.live = some live)
    (hfind : s.find pid = some t) (hextends : strictlyExtends env.floatEq t.text live = true) :
    t.text = t.document.text env.sha256 ∧ ∃ last, s.installs.head? = some last ∧
      last.jobs <+: t.document.jobs ∧ t.document.rest = last.rest := by
  rcases hwhole with ⟨u, hu, htext⟩
  cases hfind.symm.trans hu
  have hinv := h.live
  rw [hlive] at hinv
  rcases Option.map_eq_some_iff.1 hinv.symm with ⟨last, hlast, hlastText⟩
  rw [htext, ← hlastText] at hextends
  have htemp := (h.temps t (find_mem hfind)).1
  have hlastSound := h.sound last (List.mem_of_head? hlast)
  rcases Document.extends_of_strictlyExtends hlastSound.1 htemp.1 hextends with ⟨hjobs, hrest⟩
  exact ⟨htext, last, hlast, hjobs, (htold _ _ hlastSound.2 htemp.2 hrest).symm⟩

/-- One try of the last loop: the file is replaced, or nothing moved. -/
theorem tried_ends {pid : Nat} {t : Temp} (hfind : s.find pid = some t) :
    Action.Ends (onOSError (do replace env pid; pure true) (pure false) : Program Bool) s
      (fun r s' => (r = .ok true ∧ Installed t s s') ∨ (r ≠ .ok true ∧ Still s s')) := by
  refine onOSError_ends (R := fun r s' =>
    (r = .ok true ∧ Installed t s s') ∨ (r ≠ .ok true ∧ Still s s')) ?_ (fun _ _ hr => hr) ?_
    (fun _ _ hr => hr)
  · refine Action.ends_bind (replace_ends pid) ?_ ?_
    · rintro _ s' ⟨u, hu, hi⟩
      cases hfind.symm.trans hu
      exact Or.inl ⟨rfl, hi⟩
    · intro e s' hs
      exact Or.inr ⟨nofun, hs⟩
  · rintro s' (⟨h, _⟩ | ⟨_, hs⟩)
    · cases h
    · exact Or.inr ⟨nofun, hs⟩

theorem installFirst_ends (htold : Told env.floatEq known) {pids : List Nat}
    (h : Inv env.sha256 known s) (hwhole : ∀ pid ∈ pids, Whole env.sha256 s pid) :
    (installFirst env pids).Ends s (fun _ s' => Inv env.sha256 known s' ∧ Adopted s s') := by
  induction pids generalizing s with
  | nil => exact ⟨h, (Still.refl s).adopted⟩
  | cons pid pids ih =>
    -- The later candidates, from a store in which nothing moved.
    have hrest : ∀ s', Still s s' → (installFirst env pids).Ends s'
        (fun _ s'' => Inv env.sha256 known s'' ∧ Adopted s s'') := by
      intro s' hs
      have hwhole' : ∀ other ∈ pids, Whole env.sha256 s' other :=
        fun other hother => (hwhole other (List.mem_cons_of_mem _ hother)).of_still hs
      exact (ih (h.of_quiet hs.quiet) hwhole').mono (fun _ _ hr => ⟨hr.1, hr.2.of_still hs⟩)
    unfold installFirst
    refine Action.ends_bind (extendsLive_ends pid) ?_
      (fun _ _ hs => ⟨h.of_quiet hs.1.quiet, hs.1.adopted⟩)
    intro longer s₁ hlonger
    have h₁ : Inv env.sha256 known s₁ := h.of_quiet hlonger.1.quiet
    split_ifs with hlong
    · rcases hlonger.2 (by rw [hlong]) with ⟨live, t, hlive, hfind, hextends⟩
      rcases extension_of_live h htold (hwhole pid List.mem_cons_self) hlive hfind hextends with
        ⟨htext, last, hlast, hjobs, hsame⟩
      refine Action.ends_bind (tried_ends ((hlonger.1.find pid).trans hfind)) ?_ ?_
      · rintro installed s' (⟨htrue, hi⟩ | ⟨hfalse, hs⟩)
        · cases htrue
          have htemp := (h.temps t (find_mem hfind)).1
          have hlast₁ : ∀ d, s₁.installs.head? = some d → d.jobs <+: t.document.jobs := by
            intro d hd
            rw [hlonger.1.installs, hlast] at hd
            cases hd
            exact hjobs
          have hinstalls : s'.installs = t.document :: s.installs := by
            rw [hi.installs, hlonger.1.installs]
          exact ⟨h₁.install hi htemp.1 htemp.2 htext hlast₁,
            Or.inr ⟨last, t.document, hlast, hinstalls, hjobs, hsame⟩⟩
        · cases installed with
          | true => exact absurd rfl hfalse
          | false => exact hrest s' (hlonger.1.trans hs)
      · rintro e s' (⟨htrue, _⟩ | ⟨_, hs⟩)
        · cases htrue
        · exact ⟨h₁.of_quiet hs.quiet, (hlonger.1.trans hs).adopted⟩
    · exact hrest s₁ hlonger.1

theorem adopt_ends (htold : Told env.floatEq known) (h : Inv env.sha256 known s) :
    (adoptCheckpointTemps env).Ends s (fun _ s' => Inv env.sha256 known s' ∧ Adopted s s') := by
  have hstill : ∀ s', Still s s' → Inv env.sha256 known s' ∧ Adopted s s' :=
    fun s' hs => ⟨h.of_quiet hs.quiet, hs.adopted⟩
  unfold adoptCheckpointTemps
  refine Action.ends_inspect ?_
  split_ifs with hlive
  · refine Action.ends_bind iterdir_ends ?_ (fun _ s' hs => hstill s' hs)
    intro entries s₁ hs₁
    refine Action.ends_bind (adoptable_ends (h.of_quiet hs₁.quiet) entries) ?_
      (fun _ s' hs => hstill s' (hs₁.trans hs.1))
    intro found s₂ hfound
    refine Action.ends_bind (modified_ends found) ?_
      (fun _ s' hs => hstill s' ((hs₁.trans hfound.1).trans hs.1))
    intro stamped s₃ hstamped
    have hs₃ : Still s s₃ := (hs₁.trans hfound.1).trans hstamped.1
    refine (installFirst_ends htold (h.of_quiet hs₃.quiet) ?_).mono
      (fun _ _ hr => ⟨hr.1, hr.2.of_still hs₃⟩)
    intro pid hpid
    rcases List.mem_map.1 hpid with ⟨stamp, hstamp, rfl⟩
    have hmem : stamp.2 ∈ found := by
      rw [← hstamped.2 stamped rfl]
      exact List.mem_map_of_mem ((List.mem_insertionSort _).1 hstamp)
    exact ((hfound.2 found rfl _ hmem).of_still hfound.1).of_still hstamped.1
  · exact hstill s (Still.refl s)

/-! ## Appending a job -/

/-- The live document with one more job may be written. -/
theorem writable_appended {job : Dict} (hjob : Fresh job) (h : Inv env.sha256 known s) {last : Document}
    (hhead : s.installs.head? = some last) :
    Writable known s (last.appended (last.jobs ++ [.obj job])) := by
  have hlast : last.Sound ∧ known last.rest := h.sound last (List.mem_of_head? hhead)
  have hsorted : (Value.arr (last.jobs ++ [.obj job])).Sorted := by
    refine sortedItems_iff.2 ?_
    intro item hitem
    rcases List.mem_append.1 hitem with hitem | hitem
    · exact sortedItems_iff.1 (Document.jobs_ok hlast.1).2 item hitem
    · rw [List.mem_singleton.1 hitem]
      exact hjob.sorted
  have haccepted : (last.jobs ++ [Value.obj job]).all acceptedKind = true := by
    rw [List.all_append, jobs_accepted hlast.1]
    simp [hjob.accepted]
  intro hkeys hshape
  refine ⟨sound_appended hlast.1 hsorted haccepted hkeys hshape, ?_, ?_⟩
  · rw [rest_appended hlast.1 hsorted]
    exact hlast.2
  · intro d hd
    cases hhead.symm.trans hd
    have hjobs : (last.appended (last.jobs ++ [.obj job])).jobs = last.jobs ++ [.obj job] :=
      Document.jobs_eq (lookup_withJobs _ _)
    rw [hjobs]
    exact List.prefix_append _ _

theorem jobList_progress {d : Document} (h : d.Sound) : jobList d.progress = some d.jobs := by
  rcases (shaped_of_requireShape h.shape).jobs with ⟨items, hitems, _⟩
  rw [Document.jobs_eq hitems]
  simp [jobList, hitems]

theorem appendJob_ends (pid : Nat) {job : Dict} (hjob : Fresh job) (h : Inv env.sha256 known s) :
    (appendJob env pid job).Ends s (fun _ s' => Inv env.sha256 known s') := by
  unfold appendJob
  refine Action.ends_inspect ?_
  have hlive := h.live
  cases hhead : s.installs.head? with
  | none =>
    rw [hhead] at hlive
    rw [hlive]
    exact h
  | some last =>
    rw [hhead] at hlive
    rw [hlive]
    have hlast : last.Sound := (h.sound last (List.mem_of_head? hhead)).1
    refine Action.ends_bind operation_ends ?_ (fun _ _ hs => h.of_quiet hs.quiet)
    intro _ s₁ hs₁
    have h₁ : Inv env.sha256 known s₁ := h.of_quiet hs₁.quiet
    have hhead₁ : s₁.installs.head? = some last := by
      rw [hs₁.installs]
      exact hhead
    -- What is read is the last document.
    refine Action.ends_bind checked_ends ?_ (fun _ _ hr => hr.1 ▸ h₁)
    rintro raw _ ⟨rfl, hraw⟩
    cases (Document.loadObject_text hlast).symm.trans (hraw raw rfl)
    refine Action.ends_bind checked_ends ?_ (fun _ _ hr => hr.1 ▸ h₁)
    rintro found _ ⟨rfl, hfound⟩
    cases (Document.checkedProgress_body hlast).symm.trans (hfound found rfl)
    simp only [Document.without_stored hlast, Document.without_body hlast, jobList_progress hlast]
    split_ifs with hsame
    · exact h₁
    · exact writeDocument_ends pid h₁ (writable_appended hjob h₁ hhead₁)

theorem appendRepairs_ends (pid : Nat) {names present : List Text} (h : Inv env.sha256 known s) :
    (appendRepairs env pid names present).Ends s (fun _ s' => Inv env.sha256 known s') := by
  induction names generalizing s present with
  | nil => exact h
  | cons name names ih =>
    unfold appendRepairs
    split_ifs with hname
    · refine Action.ends_bind checked_ends ?_ (fun _ _ hr => hr.1 ▸ h)
      rintro job _ ⟨rfl, hjob⟩
      refine Action.ends_bind (appendJob_ends pid (fresh_of_repairJob (hjob job rfl)) h) ?_
        (fun _ _ hr => hr)
      intro _ s₁ h₁
      exact ih h₁
    · exact ih h

theorem recordAppliedRepairs_ends (pid : Nat) (names : List Text) (h : Inv env.sha256 known s) :
    (recordAppliedRepairs env pid names).Ends s (fun _ s' => Inv env.sha256 known s') := by
  unfold recordAppliedRepairs
  refine Action.ends_inspect ?_
  cases s.live with
  | none => exact h
  | some text =>
    refine Action.ends_bind operation_ends ?_ (fun _ _ hs => h.of_quiet hs.quiet)
    intro _ s₁ hs₁
    have h₁ : Inv env.sha256 known s₁ := h.of_quiet hs₁.quiet
    refine Action.ends_bind checked_ends ?_ (fun _ _ hr => hr.1 ▸ h₁)
    rintro envelope _ ⟨rfl, _⟩
    exact appendRepairs_ends pid h₁

/-- A job is made and appended. -/
theorem appended_ends (pid : Nat) {operation response phase kind : Text}
    (h : Inv env.sha256 known s) :
    Action.Ends (do
      let job ← checked (repairJob operation response phase kind)
      appendJob env pid job : Program Unit) s (fun _ s' => Inv env.sha256 known s') := by
  refine Action.ends_bind checked_ends ?_ (fun _ _ hr => hr.1 ▸ h)
  rintro job _ ⟨rfl, hjob⟩
  exact appendJob_ends pid (fresh_of_repairJob (hjob job rfl)) h

end Programs

/-! ## Calls -/

/-- What a write would install, without its jobs and its digest. -/
def WriteArgs.rest (args : WriteArgs) : Option Dict :=
  match args.preservedPayload with
  | some payload => args.progress.map (fun body => Document.rest ⟨payload, body⟩)
  | none =>
    match args.checkpoint, args.references with
    | some view, some references =>
      view.recordedAt.map (fun recordedAt =>
        Document.rest ⟨payloadOf view references recordedAt,
          bodyOf view args.retainedCreatedIds []⟩)
    | _, _ => none

def Call.rest : Call → Option Dict
  | .write args _ => args.rest
  | _ => none

/-- What `write_document` does not check of a record it is handed: that its operations are the
checkpoint's names, that its jobs have accepted kinds and that they extend the jobs of the file. -/
structure Preserves (sha256 : List Char → List Char) (live : Option (List Char))
    (payload body : Dict) : Prop where
  alignment : aligned body (payload.lookup (lit "checkpoint_names")) = true
  evidence : rejectNonProviderEvidence body = .ok ()
  jobs : ∀ envelope, loadPayload sha256 live true = .ok envelope →
    envelope.repairJobs <+: (jobList body).getD []

/-- A call whose texts hold no high surrogate directly before a low one and that, where it is handed a
record of the right shape, is handed one that preserves the file. -/
def Kept (env : Env) (s : Store) (call : Nat × Call) : Prop :=
  match call.2 with
  | .write args _ =>
    (∀ rest, args.rest = some rest → (Value.obj rest).Unpaired) ∧
      ∀ payload body, args.preservedPayload = some payload → args.progress = some body →
        exactKeys body progressFields = true → requireShape body = .ok () →
        Preserves env.sha256 s.live payload body
  | _ => True

section Runs

variable {env : Env} {s : Store} {known : Dict → Prop}

/-- What the last document says of the live file. -/
theorem accepted_live (h : Inv env.sha256 known s) {last : Document}
    (hlast : s.installs.head? = some last) : Document.Accepted env.sha256 s.live last := by
  have hlive := h.live
  rw [hlast] at hlive
  rw [hlive]
  exact Document.accepted_text (h.sound last (List.mem_of_head? hlast)).1

theorem writable_of_parts {payload body : Dict} (hpayload : (Value.obj payload).Sorted)
    (hbody : (Value.obj body).Sorted) (hrest : (Value.obj (Document.rest ⟨payload, body⟩)).Unpaired)
    (hknown : known (Document.rest ⟨payload, body⟩))
    (hparts : exactKeys body progressFields = true → requireShape body = .ok () →
      rejectNonProviderEvidence body = .ok () ∧
      aligned body (payload.lookup (lit "checkpoint_names")) = true ∧
      ∀ last, s.installs.head? = some last → last.jobs <+: Document.jobs ⟨payload, body⟩) :
    Writable known s ⟨payload, body⟩ := by
  intro hkeys hshape
  rcases hparts hkeys hshape with ⟨hevidence, halignment, hjobs⟩
  have hunpaired := unpaired_of_rest (d := ⟨payload, body⟩) hpayload hbody hshape hrest
  exact ⟨⟨hpayload, hbody, hunpaired.1, hunpaired.2, hkeys, hshape, hevidence, halignment⟩, hknown,
    hjobs⟩

/-- A record that preserves the file may be written. -/
theorem writable_preserved (h : Inv env.sha256 known s) {payload body : Dict}
    (hpayload : (Value.obj payload).Sorted) (hbody : (Value.obj body).Sorted)
    (hrest : (Value.obj (Document.rest ⟨payload, body⟩)).Unpaired)
    (hknown : known (Document.rest ⟨payload, body⟩))
    (hpreserves : exactKeys body progressFields = true → requireShape body = .ok () →
      Preserves env.sha256 s.live payload body) : Writable known s ⟨payload, body⟩ := by
  refine writable_of_parts hpayload hbody hrest hknown ?_
  intro hkeys hshape
  have hp := hpreserves hkeys hshape
  refine ⟨hp.evidence, hp.alignment, ?_⟩
  intro last hlast
  rcases (accepted_live h hlast).envelope with ⟨recovery, created, _, _, hload⟩
  exact hp.jobs _ hload

/-- The record of a checkpoint, with the jobs of the file, may be written. -/
theorem writable_view {view : CheckpointView} {references : Dict} {retained : Option Dict}
    {recordedAt : Text} {jobs : List Value} (hreferences : (Value.obj references).Sorted)
    (hretained : ∀ d, retained = some d → (Value.obj d).Sorted)
    (hrest : (Value.obj (Document.rest ⟨payloadOf view references recordedAt,
      bodyOf view retained []⟩)).Unpaired)
    (hknown : known (Document.rest ⟨payloadOf view references recordedAt, bodyOf view retained []⟩))
    (hjobs : (Value.arr jobs).Sorted) (haccepted : jobs.all acceptedKind = true)
    (hlast : ∀ last, s.installs.head? = some last → last.jobs <+: jobs) :
    Writable known s ⟨payloadOf view references recordedAt, bodyOf view retained jobs⟩ := by
  have hpayload := sorted_payloadOf view hreferences recordedAt
  have hbody := sorted_bodyOf view hretained hjobs
  have halignment := aligned_view view references recordedAt retained jobs
  have hsame := withJobs_bodyOf view hretained hjobs
  have hlookup := lookup_bodyOf_jobs view retained jobs
  -- From here on only these facts about the two dictionaries matter.
  generalize payloadOf view references recordedAt = payload at *
  generalize bodyOf view retained [] = first at *
  generalize bodyOf view retained jobs = body at *
  have hrests : Document.rest ⟨payload, body⟩ = Document.rest ⟨payload, first⟩ := by
    unfold Document.rest
    rw [hsame]
  refine writable_of_parts hpayload hbody (by rw [hrests]; exact hrest) (by rw [hrests]; exact hknown) ?_
  intro _ _
  refine ⟨evidence_of_jobs hlookup haccepted, halignment, ?_⟩
  intro last hhead
  have hnew : Document.jobs ⟨payload, body⟩ = jobs := Document.jobs_eq hlookup
  rw [hnew]
  exact hlast last hhead

theorem writeCheckpoint_ends (pid : Nat) {args : WriteArgs} (hordered : args.Ordered)
    (h : Inv env.sha256 known s) (hkept : Kept env s (pid, .write args hordered))
    (hknown : ∀ rest, args.rest = some rest → known rest) :
    (writeCheckpoint env pid args).Ends s (fun _ s' => Inv env.sha256 known s') := by
  unfold writeCheckpoint
  cases hpreserved : args.preservedPayload with
  | some payload =>
    cases hprogress : args.progress with
    | none => exact h
    | some body =>
      have hrest : args.rest = some (Document.rest ⟨payload, body⟩) := by
        simp [WriteArgs.rest, hpreserved, hprogress]
      exact writeDocument_ends pid h (writable_preserved h
        (hordered.preservedPayload payload hpreserved) (hordered.progress body hprogress)
        (hkept.1 _ hrest) (hknown _ hrest) (hkept.2 payload body hpreserved hprogress))
  | none =>
    cases hcheckpoint : args.checkpoint with
    | none => exact h
    | some view =>
      cases hreferences : args.references with
      | none => exact h
      | some references =>
        cases hrecorded : view.recordedAt with
        | none =>
          simp only [hrecorded]
          exact h
        | some recordedAt =>
          have hrest : args.rest = some (Document.rest
              ⟨payloadOf view references recordedAt,
                bodyOf view args.retainedCreatedIds []⟩) := by
            simp [WriteArgs.rest, hpreserved, hcheckpoint, hreferences, hrecorded]
          have hwritable := fun s jobs => @writable_view s known view references
            args.retainedCreatedIds recordedAt jobs
            (hordered.references references hreferences) hordered.retainedCreatedIds
            (hkept.1 _ hrest) (hknown _ hrest)
          simp only [hrecorded]
          refine Action.ends_inspect ?_
          have hlive := h.live
          cases hhead : s.installs.head? with
          | none =>
            rw [hhead] at hlive
            rw [hlive]
            refine writeDocument_ends pid h (hwritable s [] trivial rfl ?_)
            intro last hlast
            cases hhead.symm.trans hlast
          | some last =>
            rw [hhead] at hlive
            rw [hlive]
            have hlast := (h.sound last (List.mem_of_head? hhead)).1
            refine Action.ends_bind operation_ends ?_ (fun _ _ hs => h.of_quiet hs.quiet)
            intro _ s₁ hs₁
            have h₁ : Inv env.sha256 known s₁ := h.of_quiet hs₁.quiet
            refine Action.ends_bind checked_ends ?_ (fun _ _ hr => hr.1 ▸ h₁)
            rintro prior _ ⟨rfl, hprior⟩
            -- The jobs that are read are those of the last document.
            rcases (Document.accepted_text hlast).envelope with
              ⟨recovery, created, _, _, hload⟩
            cases hload.symm.trans (hprior prior rfl)
            refine writeDocument_ends pid h₁ (hwritable _ last.jobs
              (Document.jobs_ok hlast).2 (jobs_accepted hlast) ?_)
            intro d hd
            rw [hs₁.installs, hhead] at hd
            cases hd
            exact List.prefix_refl _

/-- Every call that keeps the condition keeps the invariant. -/
theorem step_inv {call : Nat × Call} (htold : Told env.floatEq known) (h : Inv env.sha256 known s)
    (hkept : Kept env s call) (hknown : ∀ rest, call.2.rest = some rest → known rest) :
    Inv env.sha256 known (step env s call) := by
  rcases call with ⟨pid, call⟩
  cases call with
  | write args ordered => exact writeCheckpoint_ends pid ordered h hkept hknown
  | providerFailure operation response phase => exact appended_ends pid h
  | refusedRebuild reason => exact appended_ends pid h
  | appliedRepairs names => exact recordAppliedRepairs_ends pid names h
  | adopt => exact (adopt_ends htold h).1

theorem empty_inv : Inv env.sha256 known Store.empty where
  live := rfl
  sound := by
    intro d hd
    cases hd
  grows := List.Pairwise.nil
  temps := by
    intro t ht
    cases ht

end Runs

/-- The rests that the calls of a run write. -/
def Written (calls : List (Nat × Call)) (rest : Dict) : Prop :=
  ∃ call ∈ calls, call.2.rest = some rest

/-- Over all runs, with a crash at every operation: the live file is absent until a document was
installed and then holds exactly the last one, every installed list of jobs extends the earlier ones,
and adopting a temporary changes nothing but the jobs and the digest. -/
theorem checkpoints_survive (env : Env) (calls : List (Nat × Call))
    (hkept : Along (step env) (Kept env) Store.empty calls)
    (htold : Told env.floatEq (Written calls)) :
    let s := runFrom (step env) Store.empty calls
    (s.installs = [] → s.live = none) ∧
    (∀ last, s.installs.head? = some last → Document.Accepted env.sha256 s.live last) ∧
    s.installs.Pairwise (fun later earlier => earlier.jobs <+: later.jobs) ∧
    ∀ pid, Adopted s (step env s (pid, .adopt)) := by
  intro s
  have hknown : Along (step env) (fun _ call => ∀ rest, call.2.rest = some rest →
      Written calls rest) Store.empty calls :=
    along_of_forall (fun call hcall rest hrest => ⟨call, hcall, hrest⟩)
  have hinv : Inv env.sha256 (Written calls) s :=
    runFrom_invariant_along (fun _ _ h hok => step_inv htold h hok.1 hok.2) empty_inv
      (along_and hkept hknown)
  refine ⟨?_, fun last hlast => accepted_live hinv hlast, hinv.grows, fun _ => (adopt_ends htold hinv).2⟩
  intro hnone
  rw [hinv.live, hnone]
  rfl

/-! ## Samples -/

/-- A disk on which the ninth operation is a crash. -/
def sampleEnv : Env where
  sha256 := fun text => text.take 8
  floatEq := fun _ _ => false
  fate := fun moment => if moment = 8 then .crashed else .done
  reached := fun _ => 0
  alive := fun _ _ => false
  clock := id
  place := fun _ pid => pid

/-- The record of a build that has done nothing. -/
def sampleBody (jobs : List Value) : Dict :=
  dictOf
    [("completed_operations", .arr []),
      ("deferred_operations", textArray phases),
      ("created_notion_ids", .obj emptyCreatedIds),
      ("property_mappings", .obj []),
      ("page_counts", .obj (dictOf [("blocks", .int 0), ("databases", .int 0), ("pages", .int 0)])),
      ("formula_state", .arr []),
      ("repair_jobs", .arr jobs),
      ("recovery", .str (lit "recoverable")),
      ("next_phase", .str (lit "shared_databases"))]

def sampleArgs (jobs : List Value) : WriteArgs where
  checkpoint := none
  references := none
  preservedPayload := some (dictOf [("spec_id", .str (lit "spec-1"))])
  progress := some (sampleBody jobs)
  retainedCreatedIds := none

/-- A job whose kind is none of the accepted ones. -/
def screenshotJob : Value :=
  .obj (dictOf
    [("kind", .str (lit "screenshot")), ("operation", .str (lit "qa.duplicate")),
      ("phase", .str (lit "qa")), ("response", .str (lit "shot"))])

theorem sampleArgs_ordered {jobs : List Value} (hjobs : (Value.arr jobs).Sorted) :
    (sampleArgs jobs).Ordered where
  references := nofun
  preservedPayload := by
    rintro d ⟨⟩
    exact sorted_dictOf (by simp [Value.Sorted])
  progress := by
    rintro d ⟨⟩
    have hcreated : (Value.obj emptyCreatedIds).Sorted :=
      sorted_dictOf (by simp [Value.Sorted, SortedItems])
    have hcounts : (Value.obj (dictOf
        [("blocks", .int 0), ("databases", .int 0), ("pages", .int 0)])).Sorted :=
      sorted_dictOf (by simp [Value.Sorted])
    refine sorted_dictOf ?_
    simp [sorted_textArray, hcreated, hcounts, hjobs]
    simp [Value.Sorted, SortedItems, SortedMembers, SortedNames]
  retainedCreatedIds := nofun

theorem screenshotJob_sorted : (Value.arr [screenshotJob]).Sorted :=
  ⟨sorted_dictOf (by simp [Value.Sorted]), trivial⟩

/-- A record with such a job is written, and no loader accepts the file. -/
theorem screenshot_job_written :
    let s := runFrom (step sampleEnv) Store.empty
      [(1, .write (sampleArgs [screenshotJob]) (sampleArgs_ordered screenshotJob_sorted))]
    s.live.isSome = true ∧ (loadPayload sampleEnv.sha256 s.live true).toOption.isSome = false := by
  decide +kernel

def sampleCalls : List (Nat × Call) :=
  [(1, .write (sampleArgs []) (sampleArgs_ordered trivial)),
    (1, .providerFailure (lit "qa.duplicate") (lit "rejected") (lit "qa")),
    (2, .adopt)]

theorem unpaired_dictOf {fields : List (String × Value)} (h : ∀ field ∈ fields, field.2.Unpaired) :
    (Value.obj (dictOf fields)).Unpaired := by
  refine unpairedMembers_iff.2 ?_
  intro member hmember
  rcases List.mem_map.1 (mem_ofPairs hmember) with ⟨field, hfield, rfl⟩
  exact ⟨unpaired_lit field.1, h field hfield⟩

theorem sampleArgs_unpaired (rest : Dict) (h : (sampleArgs []).rest = some rest) :
    (Value.obj rest).Unpaired := by
  have hphases : (textArray phases).Unpaired := by
    refine unpairedItems_iff.2 ?_
    intro value hvalue
    rcases List.mem_map.1 hvalue with ⟨t, ht, rfl⟩
    have hall : phases.all isAscii = true := by decide
    exact unpaired_of_isAscii (List.all_eq_true.1 hall t ht)
  have hcreated : (Value.obj emptyCreatedIds).Unpaired :=
    unpaired_dictOf (by simp [Value.Unpaired, UnpairedItems, Json.Unpaired])
  have hcounts : (Value.obj (dictOf
      [("blocks", .int 0), ("databases", .int 0), ("pages", .int 0)])).Unpaired :=
    unpaired_dictOf (by simp [Value.Unpaired])
  have hbody : (Value.obj (sampleBody [])).Unpaired := by
    refine unpaired_dictOf ?_
    simp [hphases, hcreated, hcounts]
    simp [Value.Unpaired, UnpairedItems, UnpairedMembers, unpaired_lit]
  have hpayload : (Value.obj (dictOf [("spec_id", .str (lit "spec-1"))])).Unpaired :=
    unpaired_dictOf (by simp [Value.Unpaired, unpaired_lit])
  cases h
  exact unpaired_insertMember hpayload (unpaired_lit _)
    (unpaired_insertMember hbody (unpaired_lit _) trivial)

/-- A job that a crash left in a temporary is adopted. -/
theorem checkpoints_survive_sample :
    Along (step sampleEnv) (Kept sampleEnv) Store.empty sampleCalls ∧
      Told sampleEnv.floatEq (Written sampleCalls) ∧
      (runFrom (step sampleEnv) Store.empty sampleCalls).installs.Pairwise
        (fun later earlier => earlier.jobs <+: later.jobs) := by
  have hkept : Along (step sampleEnv) (Kept sampleEnv) Store.empty sampleCalls := by
    refine ⟨⟨sampleArgs_unpaired, ?_⟩, trivial, trivial, trivial⟩
    rintro payload body ⟨⟩ ⟨⟩ _ _
    refine ⟨rfl, rfl, ?_⟩
    rintro envelope ⟨⟩
    exact List.nil_prefix
  have htold : Told sampleEnv.floatEq (Written sampleCalls) := by
    have hrest : ∀ r, Written sampleCalls r → (sampleArgs []).rest = some r := by
      rintro r ⟨call, hcall, hr⟩
      simp only [sampleCalls, List.mem_cons, List.not_mem_nil, or_false] at hcall
      rcases hcall with rfl | rfl | rfl
      · exact hr
      · cases hr
      · cases hr
    intro r r' hr hr' _
    exact Option.some.inj ((hrest r hr).symm.trans (hrest r' hr'))
  exact ⟨hkept, htold, (checkpoints_survive sampleEnv sampleCalls hkept htold).2.2.1⟩

end Progress
end Agents
end MoneyMachine
