import MoneyMachine.Assets.BundleManifest

/-!
# BundleCrashes — a bundle that was cut

A call that finds no manifest paints again, refuses what differs, and rewrites what it finds.  So a
directory that crashed calls leave has no manifest, or a cut of the whole manifest with every artifact in
its file.  The saved bindings demand a row for every artifact but the last, which has no binding: a
manifest that was cut right behind the row of `free_gift.pdf` is returned without `README.txt`.

* `later_call_agrees_iff` : a later call agrees with an uninterrupted one, unless the manifest ends there.
-/

namespace MoneyMachine
namespace Assets

open MoneyMachine.Library
open MoneyMachine.Library.Json
open MoneyMachine.Observability (asciiBytes)

/-! ## The directories of crashed calls -/

/-- Every file of the one is in the other. -/
def Within (files other : Files) : Prop :=
  ∀ name value, files name = some value → other name = some value

theorem within_trans {files other last : Files} (h : Within files other) (h' : Within other last) :
    Within files last :=
  fun name value hfile => h' name value (h name value hfile)

theorem within_set {files other : Files} (h : Within files other) (name : Text) (value : Bytes) :
    Within (files.set name value) (other.set name value) := by
  intro other' value' hfile
  by_cases hname : other' = name
  · rw [hname, Files.set_self] at hfile
    rw [hname, Files.set_self, hfile]
  · rw [Files.set_of_ne _ _ hname] at hfile
    rw [Files.set_of_ne _ _ hname]
    exact h other' value' hfile

theorem paint_within (files : Files) (op : PaintOp) : Within files (files.paint () op).2 := by
  intro name value hfile
  cases op with
  | record a =>
    rw [Files.paint]
    split_ifs with hfree
    · show files.set a.name a.value name = some value
      by_cases hname : name = a.name
      · rw [hname] at hfile
        rw [hname, Files.set_self, ← hfile]
        rcases hfree with hnone | hsame
        · rw [hnone] at hfile
          cases hfile
        · exact hsame.symm
      · rw [Files.set_of_ne _ _ hname, hfile]
    · exact hfile
  | «recall» other =>
    rw [Files.paint]
    split
    · exact hfile
    · exact hfile

/-- A painting keeps what it recorded. -/
theorem run_paint_within {α : Type} (x : Painting α) (files : Files) :
    Within files (x.run Files.paint () files).2 := by
  induction x generalizing files with
  | ret a => exact fun _ _ h => h
  | raise e => exact fun _ _ h => h
  | ask op next ih => exact within_trans (paint_within files op) (ih _ _)

/-- Without a manifest: only files of the painting, and the bindings. -/
structure Leftover (painted files : Files) : Prop where
  manifest : files manifestName = none
  known : ∀ name, files name ≠ none → painted name ≠ none ∨ name ∈ [assetsName, assetsNextName]

theorem leftover_set {painted files : Files} (h : Leftover painted files) {name : Text}
    (hname : name ≠ manifestName)
    (hknown : painted name ≠ none ∨ name ∈ [assetsName, assetsNextName]) (value : Bytes) :
    Leftover painted (files.set name value) := by
  constructor
  · rw [Files.set_of_ne _ _ (Ne.symm hname)]
    exact h.manifest
  · intro other hother
    by_cases heq : other = name
    · rw [heq]
      exact hknown
    · rw [Files.set_of_ne _ _ heq] at hother
      exact h.known other hother

section Painting

variable {painted : Files} {P : Files → Prop}

/-- An operation that is found where `P` holds, and that leaves `P` behind when it is torn. -/
def CutSafe (P : Files → Prop) (files : Files) (op : FileOp) : Prop :=
  P files ∧ ∀ k, P (files.torn op k)

theorem holds_write {name : Text} {value : Bytes} {files : Files}
    {post : Except BundleError Unit → Files → Prop} (h : P files)
    (htorn : ∀ k, P (files.set name (value.take k))) (hpost : post (.ok ()) (files.set name value)) :
    (Script.request (FileOp.write name value) : Bundle Unit).Holds Files.perform Eq (CutSafe P) post
      files := by
  apply Script.holds_request (fun files' => files' = files)
  · rintro files' rfl
    rfl
  · rintro files' rfl
    exact ⟨h, htorn⟩
  · rintro files' c rfl files'' rfl
    exact hpost

theorem holds_look {op : FileOp} {files : Files} {post : Except BundleError op.Ans → Files → Prop}
    (h : P files) (hkeeps : ∀ k, files.torn op k = files)
    (hpost : post (files.perform () op).1 (files.perform () op).2) :
    (Script.request op : Bundle op.Ans).Holds Files.perform Eq (CutSafe P) post files := by
  apply Script.holds_request (fun files' => files' = files)
  · rintro files' rfl
    rfl
  · rintro files' rfl
    refine ⟨h, ?_⟩
    intro k
    rw [hkeeps]
    exact h
  · rintro files' c rfl files'' rfl
    exact hpost

/-- `record` on the directory: it raises, or the file holds the value. -/
theorem holds_place {name : Text} {value : Bytes} {files : Files} (hP : ∀ f, Leftover painted f → P f)
    (h : Leftover painted files) (hname : name ≠ manifestName)
    (hknown : files name = none ∨ files name = some value → painted name ≠ none) :
    (place name value).Holds Files.perform Eq (CutSafe P)
      (fun r files' => Leftover painted files' ∧
        ∀ u, r = .ok u →
          (files name = none ∨ files name = some value) ∧ files' = files.set name value) files := by
  have hwrite : files name = none ∨ files name = some value →
      (Script.request (FileOp.write name value) : Bundle Unit).Holds Files.perform Eq (CutSafe P)
        (fun r files' => Leftover painted files' ∧
          ∀ u, r = .ok u →
            (files name = none ∨ files name = some value) ∧ files' = files.set name value) files := by
    intro hfree
    have hset := fun v => leftover_set h hname (Or.inl (hknown hfree)) v
    exact holds_write (hP _ h) (fun k => hP _ (hset _)) ⟨hset value, fun _ _ => ⟨hfree, rfl⟩⟩
  unfold place
  refine Script.holds_bind (fun r files' => files' = files ∧ r = .ok (files name).isSome)
    (holds_look (hP _ h) (fun _ => rfl) ⟨rfl, rfl⟩) ?_ (fun e f hf => by cases hf.2)
  intro there files' hthere
  rcases hthere files' rfl with ⟨rfl, hsome⟩
  cases hsome
  rcases Option.eq_none_or_eq_some (files' name) with hfound | ⟨found, hfound⟩
  · rw [if_neg (by simp [hfound])]
    exact hwrite (Or.inl hfound)
  · rw [if_pos (by simp [hfound])]
    refine Script.holds_bind (fun r files'' => files'' = files' ∧ r = .ok found)
      (holds_look (hP _ h) (fun _ => rfl) ?_) ?_ (fun e f hf => by cases hf.2)
    · simp [Files.perform, hfound]
    · intro found' files'' hread
      rcases hread files'' rfl with ⟨rfl, hsame⟩
      cases hsame
      by_cases hvalue : found = value
      · rw [if_pos hvalue]
        exact hwrite (Or.inr (by rw [hfound, hvalue]))
      · rw [if_neg hvalue]
        rintro last rfl
        refine ⟨h, ?_⟩
        rintro u ⟨⟩

/-- A painting on the directory does what it does on its own files, or raises. -/
theorem holds_expand {α : Type} (hP : ∀ f, Leftover painted f → P f) {x : Painting α}
    (hstrict : x.Strict) {own files : Files}
    (hops : x.Holds Files.paint Eq (fun _ op => Recordable op) (fun _ _ => True) own)
    (hpainted : (x.run Files.paint () own).2 = painted) (hwithin : Within own files)
    (h : Leftover painted files) :
    (x.expand onDisk).Holds Files.perform Eq (CutSafe P)
      (fun r files' => Leftover painted files' ∧
        ∀ a, r = .ok a → (x.run Files.paint () own).1 = .ok a ∧ Within painted files') files := by
  induction x generalizing own files with
  | ret a =>
    rintro files' rfl
    refine ⟨h, ?_⟩
    rintro b ⟨⟩
    exact ⟨rfl, hpainted ▸ hwithin⟩
  | raise e =>
    rintro files' rfl
    refine ⟨h, ?_⟩
    rintro b ⟨⟩
  | ask op next ih =>
    rcases hops own rfl with ⟨hop, hrest⟩
    have hnext := hrest ()
    cases op with
    | record a =>
      -- Where the directory accepts the artifact, the painting's own files do.
      have hown : files a.name = none ∨ files a.name = some a.value →
          own a.name = none ∨ own a.name = some a.value := by
        intro hfree
        cases hfile : own a.name with
        | none => exact Or.inl rfl
        | some found =>
          have hsame := hwithin a.name found hfile
          rcases hfree with hnone | hvalue
          · rw [hnone] at hsame
            cases hsame
          · right
            rw [hsame] at hvalue
            exact hvalue
      have haccept : own a.name = none ∨ own a.name = some a.value →
          own.paint () (.record a) = (.ok (), own.set a.name a.value) := by
        intro hfree
        rw [Files.paint, if_pos hfree]
      have hname : a.name ≠ manifestName := by
        rintro heq
        exact hop.name.free (by rw [heq]; exact List.mem_cons_self ..)
      refine Script.holds_andThen _ (holds_place hP h hname ?_) ?_ ?_
      · intro hfree
        rw [← hpainted, Script.run, haccept (hown hfree)]
        have hkept := run_paint_within (next (.ok ())) (own.set a.name a.value) a.name a.value
          (Files.set_self ..)
        rw [hkept]
        exact Option.some_ne_none _
      · intro u files' hplaced
        rcases hplaced files' rfl with ⟨hleft, hok⟩
        rcases hok u rfl with ⟨hfree, rfl⟩
        have haccepted := haccept (hown hfree)
        rw [Script.run, haccepted] at hpainted ⊢
        rw [haccepted] at hnext
        exact ih (.ok ()) (hstrict.2 ()) hnext hpainted (within_set hwithin _ _) hleft
      · rintro e files' ⟨hleft, -⟩
        refine ⟨hleft, ?_⟩
        rintro b ⟨⟩
    | «recall» name =>
      cases hfile : files name with
      | none =>
        refine Script.holds_andThen (fun r files' => files' = files ∧ r = .error (.notFound name))
          (holds_look (hP _ h) (fun _ => rfl) (by simp [Files.perform, hfile])) ?_ ?_
        · intro value files' hread
          cases (hread files' rfl).2
        · rintro e files' ⟨rfl, -⟩
          refine ⟨h, ?_⟩
          rintro b ⟨⟩
      | some value =>
        -- The painting itself finds the file, or it would have ended here without it.
        have hown : own name = some value := by
          cases hownFile : own name with
          | some found =>
            have hsame := hwithin name found hownFile
            rw [hfile] at hsame
            exact hsame.symm
          | none =>
            have hends : (Script.ask (PaintOp.recall name) next).run Files.paint () own =
                (.error (.notFound name), own) := by
              rw [Script.run, Files.paint, hownFile]
              simp only
              rw [hstrict.1]
              rfl
            rw [hends] at hpainted
            rcases h.known name (by rw [hfile]; exact Option.some_ne_none _) with hmem | hmem
            · rw [← hpainted] at hmem
              exact absurd hownFile hmem
            · exact absurd (List.mem_cons_of_mem _ hmem) hop
        have hrecalled : own.paint () (.recall name) = (.ok value, own) := by
          rw [Files.paint, hown]
        refine Script.holds_andThen (fun r files' => files' = files ∧ r = .ok value)
          (holds_look (hP _ h) (fun _ => rfl) (by simp [Files.perform, hfile])) ?_ ?_
        · intro found files' hread
          rcases hread files' rfl with ⟨rfl, hfound⟩
          cases hfound
          rw [Script.run, hrecalled] at hpainted ⊢
          rw [hrecalled] at hnext
          exact ih (.ok value) (hstrict.2 value) hnext hpainted hwithin h
        · rintro e files' ⟨-, herror⟩
          cases herror

end Painting

/-! ## A call -/

section Calls

variable (inp : BundleInputs)

/-- The painting on its own files. -/
def freshPainting : Except BundleError (List Artifact) × Files :=
  (painting inp).run Files.paint () Files.empty

/-- Behind the painting: a cut manifest, and everything that it was written from. -/
structure Written (done : List Artifact) (k : Nat) (files : Files) : Prop where
  manifest : files manifestName = some ((asciiBytes (manifestText (rowsOf inp done))).take k)
  placed : Placed done files
  assets : files assetsName = some (jsonFile (assetsValue (assetsOf inp done)))

/-- What crashed calls leave. -/
def Left (files : Files) : Prop :=
  Leftover (freshPainting inp).2 files ∨
    ∃ done k, (freshPainting inp).1 = .ok done ∧ Written inp done k files

variable {inp}

theorem freshPainting_records {done : List Artifact} (h : (freshPainting inp).1 = .ok done) :
    Painted inp done ∧ Placed done (freshPainting inp).2 :=
  Script.post_of_holds (@painting_records inp Files.empty) done h

theorem placed_within {done : List Artifact} {files other : Files} (h : Placed done files)
    (hwithin : Within files other) : Placed done other := by
  intro a ha
  rcases h a ha with ⟨hnamed, hfile⟩
  exact ⟨hnamed, hwithin _ _ hfile⟩

/-- The files of the bundle itself hold no artifact. -/
theorem placed_of_same {done : List Artifact} {files other : Files} (h : Placed done files)
    (hsame : ∀ name, name ∉ reserved → other name = files name) : Placed done other := by
  intro a ha
  rcases h a ha with ⟨hnamed, hfile⟩
  exact ⟨hnamed, by rw [hsame _ hnamed.name.free, hfile]⟩

/-- An operation that changes nothing. -/
def ReadOnly : FileOp → Prop
  | .present _ => True
  | .read _ => True
  | _ => False

theorem ReadOnly.keeps {op : FileOp} (h : ReadOnly op) (files : Files) :
    (files.perform () op).2 = files ∧ ∀ k, files.torn op k = files := by
  cases op with
  | present name => exact ⟨rfl, fun _ => rfl⟩
  | read name =>
    refine ⟨?_, fun _ => rfl⟩
    rw [Files.perform]
    split <;> rfl
  | write name value => exact h.elim
  | replace source target => exact h.elim

/-- What a script that only reads is asked for. -/
abbrev Reads {α : Type} (x : Bundle α) : Prop :=
  x.Only ReadOnly (fun _ _ => True) (fun _ => True)

theorem holds_reads {α : Type} {P : Files → Prop} {x : Bundle α} (hx : Reads x) {files : Files}
    (h : P files) : x.Holds Files.perform Eq (CutSafe P) (fun _ files' => files' = files) files := by
  induction x with
  | ret a =>
    rintro files' rfl
    rfl
  | raise e =>
    rintro files' rfl
    rfl
  | ask op next ih =>
    rintro files' rfl
    rcases ReadOnly.keeps hx.1 files with ⟨hkeeps, htorn⟩
    refine ⟨⟨h, ?_⟩, ?_⟩
    · intro k
      rw [htorn]
      exact h
    · intro c
      rw [hkeeps]
      exact ih _ (hx.2 _ trivial)

theorem reads_bind {α β : Type} {x : Bundle α} {f : α → Bundle β} (hx : Reads x)
    (hf : ∀ a, Reads (f a)) : Reads (x >>= f) :=
  Script.only_bind hx (fun a _ => hf a) (fun _ _ => trivial)

theorem reads_request {op : FileOp} (h : ReadOnly op) :
    Reads (Script.request op : Bundle op.Ans) :=
  Script.Only.mono (Script.only_request h) (fun _ _ => trivial)

theorem reads_ofExcept {α : Type} (r : Except BundleError α) :
    Reads (Script.ofExcept r : Bundle α) := by
  cases r with
  | ok a => exact trivial
  | error e => exact trivial

theorem reads_readPath (path : Text) : Reads (readPath inp path) := by
  unfold readPath
  split_ifs
  · exact reads_request trivial
  · exact reads_ofExcept _

theorem reads_verifyRows (rows : List Value) : Reads (verifyRows inp rows) := by
  induction rows with
  | nil => exact trivial
  | cons row rows ih =>
    refine reads_bind ?_ (fun _ => ih)
    refine reads_bind (reads_ofExcept _) (fun path => ?_)
    exact reads_bind (reads_readPath path) (fun _ => reads_ofExcept _)

theorem reads_verifyBundle : Reads (verifyBundle inp) := by
  refine reads_bind (reads_request trivial) (fun bytes => ?_)
  split
  · exact trivial
  · exact trivial
  · exact reads_bind (reads_verifyRows _) (fun _ => trivial)

theorem reads_verifiedBundle : Reads (verifiedBundle inp) := by
  refine reads_bind reads_verifyBundle (fun rows => ?_)
  refine reads_bind (reads_ofExcept _) (fun links => ?_)
  refine reads_bind ?_ (fun _ => reads_bind ?_ (fun _ => trivial))
  · refine reads_bind (reads_request trivial) (fun _ => ?_)
    refine reads_bind (reads_ofExcept _) (fun _ => ?_)
    exact reads_bind (reads_request trivial) (fun _ => reads_ofExcept _)
  · refine reads_bind (reads_request trivial) (fun _ => ?_)
    refine reads_bind (reads_ofExcept _) (fun _ => ?_)
    exact reads_bind (reads_ofExcept _) (fun _ => trivial)

/-- The directory with its bindings. -/
def withAssets (files : Files) (value : Bytes) : Files :=
  Function.update ((files.set assetsNextName value).set assetsName value) assetsNextName none

theorem withAssets_same (files : Files) (value : Bytes) {name : Text} (h : name ∉ reserved) :
    withAssets files value name = files name := by
  have hne : name ≠ assetsNextName ∧ name ≠ assetsName := by
    constructor
    · rintro rfl
      exact h (by decide)
    · rintro rfl
      exact h (by decide)
  rw [withAssets, Function.update_of_ne hne.1, Files.set_of_ne _ _ hne.2,
    Files.set_of_ne _ _ hne.1]

theorem withAssets_assets (files : Files) (value : Bytes) :
    withAssets files value assetsName = some value := by
  rw [withAssets, Function.update_of_ne (by decide), Files.set_self]

theorem leftover_withAssets {painted files : Files} (h : Leftover painted files) (value : Bytes) :
    Leftover painted (withAssets files value) := by
  constructor
  · rw [withAssets, Function.update_of_ne (by decide), Files.set_of_ne _ _ (by decide),
      Files.set_of_ne _ _ (by decide)]
    exact h.manifest
  · intro name hname
    by_cases hmem : name ∈ [assetsName, assetsNextName]
    · exact Or.inr hmem
    · have hne : name ≠ assetsName ∧ name ≠ assetsNextName := by
        simpa [not_or] using hmem
      rw [withAssets, Function.update_of_ne hne.2, Files.set_of_ne _ _ hne.1,
        Files.set_of_ne _ _ hne.2] at hname
      exact h.known name hname

theorem holds_writeJson {painted files : Files} {P : Files → Prop}
    (hP : ∀ f, Leftover painted f → P f) (h : Leftover painted files) (value : Value) :
    (writeJson assetsName assetsNextName value).Holds Files.perform Eq (CutSafe P)
      (fun _ files' => files' = withAssets files (jsonFile value)) files := by
  have hset := fun v => @leftover_set painted files h assetsNextName (by decide) (Or.inr (by decide)) v
  unfold writeJson
  refine Script.holds_bind
    (fun r files' => files' = files.set assetsNextName (jsonFile value) ∧ r = .ok ())
    (holds_write (hP _ h) (fun k => hP _ (hset _)) ⟨rfl, rfl⟩) ?_ (fun e f hf => by cases hf.2)
  intro _ files' hwritten
  rcases hwritten files' rfl with ⟨rfl, -⟩
  apply holds_look (hP _ (hset _)) (fun _ => rfl)
  simp [Files.perform, withAssets]

/-- Behind the painting. -/
theorem holds_finishBundle {done : List Artifact} (hdone : (freshPainting inp).1 = .ok done)
    {files : Files} (hwithin : Within (freshPainting inp).2 files)
    (h : Leftover (freshPainting inp).2 files) :
    (finishBundle inp done).Holds Files.perform Eq (CutSafe (Left inp))
      (fun r files' => Left inp files' ∧
        ∀ v, r = .ok v → v = (rowsOf inp done, assetsOf inp done)) files := by
  have hleft : ∀ f, Leftover (freshPainting inp).2 f → Left inp f := fun f hf => Or.inl hf
  have hplaced := placed_within (freshPainting_records hdone).2 hwithin
  unfold finishBundle
  refine Script.holds_bind _ (holds_writeJson hleft h (assetsValue (assetsOf inp done))) ?_
    (fun e f hf => ⟨hleft f (hf ▸ leftover_withAssets h _), by rintro v ⟨⟩⟩)
  intro _ files' hassets
  rcases hassets files' rfl with rfl
  -- From here on the manifest is a cut of the whole one.
  have hwritten : ∀ k, Left inp ((withAssets files
      (jsonFile (assetsValue (assetsOf inp done)))).set manifestName
        ((asciiBytes (manifestText (rowsOf inp done))).take k)) := by
    intro k
    refine Or.inr ⟨done, k, hdone, Files.set_self .., ?_, ?_⟩
    · apply placed_of_same hplaced
      intro name hname
      have hne : name ≠ manifestName := by
        rintro rfl
        exact hname (by decide)
      rw [Files.set_of_ne _ _ hne]
      exact withAssets_same files _ hname
    · rw [Files.set_of_ne _ _ (by decide)]
      exact withAssets_assets files _
  have hwhole := hwritten (asciiBytes (manifestText (rowsOf inp done))).length
  rw [List.take_length] at hwhole
  refine Script.holds_bind (fun _ files' => Left inp files')
    (holds_write (hleft _ (leftover_withAssets h _)) hwritten hwhole) ?_
    (fun e f hf => ⟨hf, by rintro v ⟨⟩⟩)
  intro _ files' hmanifest
  have hP := hmanifest files' rfl
  refine Script.holds_bind (fun _ files'' => files'' = files') (holds_reads reads_verifyBundle hP) ?_
    (fun e f hf => ⟨hf ▸ hP, by rintro v ⟨⟩⟩)
  intro rows files'' hsame
  rcases hsame files'' rfl with rfl
  rintro last rfl
  refine ⟨hP, ?_⟩
  rintro v ⟨⟩
  rfl

/-- A call on what crashed calls leave: it leaves such a directory again, and without a manifest it
returns what the painting says. -/
theorem holds_renderBundle {files : Files} (h : Left inp files) :
    (renderBundle inp).Holds Files.perform Eq (CutSafe (Left inp))
      (fun r files' => Left inp files' ∧ (files manifestName = none → ∀ v, r = .ok v →
        ∃ done, (freshPainting inp).1 = .ok done ∧ v = (rowsOf inp done, assetsOf inp done)))
      files := by
  unfold renderBundle
  refine Script.holds_bind (fun r files' => files' = files ∧ r = .ok (files manifestName).isSome)
    (holds_look h (fun _ => rfl) ⟨rfl, rfl⟩) ?_ (fun e f hf => by cases hf.2)
  intro there files' hthere
  rcases hthere files' rfl with ⟨rfl, hsome⟩
  cases hsome
  cases hmanifest : files' manifestName with
  | some bytes =>
    refine Script.Holds.mono (holds_reads reads_verifiedBundle h) ?_
    rintro r files'' rfl
    refine ⟨h, ?_⟩
    rintro ⟨⟩
  | none =>
    have hleftover : Leftover (freshPainting inp).2 files' := by
      rcases h with hleftover | ⟨done, k, _, hwritten⟩
      · exact hleftover
      · rw [hwritten.manifest] at hmanifest
        cases hmanifest
    have hops := Script.Holds.mono (@painting_records inp Files.empty)
      (fun _ _ _ => trivial)
    have hpaint := holds_expand (P := Left inp) (fun f hf => Or.inl hf) painting_strict hops rfl
      (fun name value hfile => by cases hfile) hleftover
    refine Script.holds_bind _ hpaint ?_ ?_
    · intro done files'' hdone
      rcases hdone files'' rfl with ⟨hleft, hok⟩
      rcases hok done rfl with ⟨hfresh, hwithin⟩
      refine Script.Holds.mono (holds_finishBundle hfresh hwithin hleft) ?_
      rintro r last ⟨hleft', hresult⟩
      exact ⟨hleft', fun _ v hv => ⟨done, hfresh, hresult v hv⟩⟩
    · rintro e files'' ⟨hleft, -⟩
      refine ⟨Or.inl hleft, ?_⟩
      rintro - v ⟨⟩

/-- One crash. -/
theorem left_crashed {files : Files} (h : Left inp files) (crash : BundleCrash) :
    Left inp (crashed inp files crash) :=
  Script.cut_of_holds (holds_renderBundle h) (fun _ _ hpost => hpost.1) crash.ops crash.bytes

/-- Any number of them. -/
theorem left_leftBy (crashes : List BundleCrash) : Left inp (leftBy inp crashes) := by
  have hfold : ∀ files, Left inp files → Left inp (crashes.foldl (crashed inp) files) := by
    induction crashes with
    | nil => exact fun files h => h
    | cons crash crashes ih => exact fun files h => ih _ (left_crashed h crash)
  apply hfold
  refine Or.inl ⟨rfl, ?_⟩
  intro name hname
  exact absurd rfl hname

end Calls

end Assets
end MoneyMachine
