import MoneyMachine.Assets.FixtureBundle
import Mathlib.Data.List.Nodup

/-!
# BundlePainting — what a painting records

The names of the artifacts are pairwise different, none of them is a file of the bundle itself, and every
artifact that was recorded is in its file.

* `painting_records` : what an uninterrupted painting returns.
-/

namespace MoneyMachine
namespace Assets

open MoneyMachine.Library
open MoneyMachine.Library.Json

/-! ## Names -/

def chars (text : List Char) : Text :=
  text.map CodePoint.ofChar

theorem chars_injective : Function.Injective chars :=
  List.map_injective_iff.2 ofChar_injective

theorem unpaired_chars (text : List Char) : Json.Unpaired (chars text) :=
  unpaired_ofChar text

theorem decimal_injective : Function.Injective decimal := by
  intro n m h
  have hdigits : Nat.toDigits 10 n = Nat.toDigits 10 m := chars_injective h
  calc
    n = Nat.ofDigitChars 10 (Nat.toDigits 10 n) 0 := Nat.ofDigitChars_ten_toDigits.symm
    _ = Nat.ofDigitChars 10 (Nat.toDigits 10 m) 0 := by rw [hdigits]
    _ = m := Nat.ofDigitChars_ten_toDigits

/-- The digits with a zero before one of them. -/
def digits2 (n : Nat) : List Char :=
  if n < 10 then '0' :: Nat.toDigits 10 n else Nat.toDigits 10 n

theorem decimal2_eq (n : Nat) : decimal2 n = chars (digits2 n) := by
  unfold decimal2 digits2
  split_ifs <;> rfl

theorem ofDigitChars_digits2 (n : Nat) : Nat.ofDigitChars 10 (digits2 n) 0 = n := by
  unfold digits2
  split_ifs with h
  · rw [Nat.ofDigitChars_cons]
    exact Nat.ofDigitChars_ten_toDigits
  · exact Nat.ofDigitChars_ten_toDigits

theorem decimal2_injective : Function.Injective decimal2 := by
  intro n m h
  rw [decimal2_eq, decimal2_eq] at h
  calc
    n = Nat.ofDigitChars 10 (digits2 n) 0 := (ofDigitChars_digits2 n).symm
    _ = Nat.ofDigitChars 10 (digits2 m) 0 := by rw [chars_injective h]
    _ = m := ofDigitChars_digits2 m

theorem screenshotName_injective : Function.Injective screenshotName := by
  intro n m h
  have h' := List.append_cancel_right h
  exact decimal_injective (List.append_cancel_left h')

theorem listingName_injective : Function.Injective listingName := by
  intro n m h
  have h' := List.append_cancel_right h
  have hdecimal := decimal2_injective (List.append_cancel_left h')
  omega

/-- The files of the bundle that are no artifacts. -/
def reserved : List Text :=
  [manifestName, assetsName, assetsNextName]

/-- A name of the directory that no file of the bundle itself has, and that JSON reads back. -/
structure FreeName (name : Text) : Prop where
  plain : isPlain name = true
  free : name ∉ reserved
  unpaired : Json.Unpaired name

theorem freeName_lit {s : String}
    (h : isPlain (lit s) = true ∧ lit s ∉ reserved) : FreeName (lit s) :=
  ⟨h.1, h.2, unpaired_ofChar _⟩

theorem digit_ne_slash {c : Char} (h : c.isDigit = true) : c ≠ '/' ∧ c ≠ '\x00' := by
  constructor
  · rintro rfl
    revert h
    decide
  · rintro rfl
    revert h
    decide

theorem isDigit_digits2 {n : Nat} : ∀ c ∈ digits2 n, c.isDigit = true := by
  intro c hc
  have hten : ∀ c ∈ Nat.toDigits 10 n, c.isDigit = true :=
    fun c hc => Nat.isDigit_of_mem_toDigits (by decide) (by decide) hc
  unfold digits2 at hc
  split_ifs at hc with h
  · rcases List.mem_cons.1 hc with rfl | hc
    · decide
    · exact hten c hc
  · exact hten c hc

/-- A picture's name: a word, digits and `.png`. -/
theorem freeName_png {word digits : List Char}
    (hordinary : ∀ c ∈ word, c ≠ '/' ∧ c ≠ '\x00') (hdigits : ∀ c ∈ digits, c.isDigit = true) :
    FreeName (chars (word ++ digits ++ ['.', 'p', 'n', 'g'])) := by
  have hlast : (chars (word ++ digits ++ ['.', 'p', 'n', 'g'])).getLast? =
      some (CodePoint.ofChar 'g') := by
    simp [chars]
  have hmem : ∀ c ∈ word ++ digits ++ ['.', 'p', 'n', 'g'], c ≠ '/' ∧ c ≠ '\x00' := by
    intro c hc
    rcases List.mem_append.1 hc with hc | hc
    · rcases List.mem_append.1 hc with hc | hc
      · exact hordinary c hc
      · exact digit_ne_slash (hdigits c hc)
    · have hsuffix : ∀ c ∈ ['.', 'p', 'n', 'g'], c ≠ '/' ∧ c ≠ '\x00' :=
        List.all_iff_forall_prop.1 (by decide)
      exact hsuffix c hc
  have hnot : ∀ d : Char, (∀ c ∈ word ++ digits ++ ['.', 'p', 'n', 'g'], c ≠ d) →
      CodePoint.ofChar d ∉ chars (word ++ digits ++ ['.', 'p', 'n', 'g']) := by
    intro d hd hmem
    rcases List.mem_map.1 hmem with ⟨c, hc, heq⟩
    exact hd c hc (ofChar_injective heq)
  have hne : ∀ t : Text, t.getLast? ≠ some (CodePoint.ofChar 'g') →
      chars (word ++ digits ++ ['.', 'p', 'n', 'g']) ≠ t := by
    rintro t ht rfl
    exact ht hlast
  refine ⟨?_, ?_, unpaired_chars _⟩
  · rw [isPlain, decide_eq_true_eq]
    refine ⟨hne _ (by decide), hne _ (by decide), hne _ (by decide), ?_, ?_⟩
    · exact hnot '/' (fun c hc => (hmem c hc).1)
    · exact hnot '\x00' (fun c hc => (hmem c hc).2)
  · intro hreserved
    simp only [reserved, List.mem_cons, List.not_mem_nil, or_false] at hreserved
    rcases hreserved with h | h | h
    · exact hne _ (by decide) h
    · exact hne _ (by decide) h
    · exact hne _ (by decide) h

theorem screenshotName_eq (index : Nat) :
    screenshotName index =
      chars ("screenshot-".toList ++ Nat.toDigits 10 index ++ ['.', 'p', 'n', 'g']) := by
  simp [screenshotName, decimal, chars, lit]

theorem listingName_eq (index : Nat) :
    listingName index = chars ("listing-".toList ++ digits2 (index + 1) ++ ['.', 'p', 'n', 'g']) := by
  simp [listingName, decimal2_eq, chars, lit]

theorem freeName_screenshot (index : Nat) : FreeName (screenshotName index) := by
  rw [screenshotName_eq]
  refine freeName_png (List.all_iff_forall_prop.1 (by decide)) ?_
  exact fun c hc => Nat.isDigit_of_mem_toDigits (by decide) (by decide) hc

theorem freeName_listing (index : Nat) : FreeName (listingName index) := by
  rw [listingName_eq]
  exact freeName_png (List.all_iff_forall_prop.1 (by decide)) isDigit_digits2

/-- The names of the artifacts, of `n` variants and `m` listing images. -/
def artifactNames (n m : Nat) : List Text :=
  [lit "product-structure.json", lit "product.html"] ++ (List.range n).map screenshotName ++
    (List.range m).map listingName ++
    [lit "walkthrough.mkv", lit "walkthrough.mp4", lit "video-probe.json", lit "readme.pdf",
      lit "free_gift.pdf", lit "README.txt"]

theorem head_screenshotName (index : Nat) :
    (screenshotName index).head? = some (CodePoint.ofChar 's') := by
  rw [screenshotName_eq]
  rfl

theorem head_listingName (index : Nat) :
    (listingName index).head? = some (CodePoint.ofChar 'l') := by
  rw [listingName_eq]
  rfl

theorem nodup_artifactNames (n m : Nat) : (artifactNames n m).Nodup := by
  have hshots : ((List.range n).map screenshotName).Nodup :=
    List.nodup_range.map screenshotName_injective
  have hlistings : ((List.range m).map listingName).Nodup :=
    List.nodup_range.map listingName_injective
  have hshot : ∀ name ∈ (List.range n).map screenshotName,
      name.head? = some (CodePoint.ofChar 's') := by
    intro name hname
    rcases List.mem_map.1 hname with ⟨index, _, rfl⟩
    exact head_screenshotName index
  have hlisting : ∀ name ∈ (List.range m).map listingName,
      name.head? = some (CodePoint.ofChar 'l') := by
    intro name hname
    rcases List.mem_map.1 hname with ⟨index, _, rfl⟩
    exact head_listingName index
  -- The four groups begin with different letters.
  have hfirst : ∀ name ∈ [lit "product-structure.json", lit "product.html"],
      name.head? ≠ some (CodePoint.ofChar 's') ∧ name.head? ≠ some (CodePoint.ofChar 'l') := by
    decide
  have hlast : ∀ name ∈ [lit "walkthrough.mkv", lit "walkthrough.mp4", lit "video-probe.json",
      lit "readme.pdf", lit "free_gift.pdf", lit "README.txt"],
      name.head? ≠ some (CodePoint.ofChar 's') ∧ name.head? ≠ some (CodePoint.ofChar 'l') ∧
        name ∉ [lit "product-structure.json", lit "product.html"] := by
    decide
  unfold artifactNames
  refine List.Nodup.append (List.Nodup.append (List.Nodup.append (by decide) hshots ?_) hlistings ?_)
    (by decide) ?_
  · intro name hname hname'
    exact (hfirst name hname).1 (hshot name hname')
  · intro name hname hname'
    rcases List.mem_append.1 hname with h | h
    · exact (hfirst name h).2 (hlisting name hname')
    · exact absurd ((hshot name h).symm.trans (hlisting name hname')) (by decide)
  · intro name hname hname'
    rcases hlast name hname' with ⟨hs, hl, hp⟩
    rcases List.mem_append.1 hname with h | h
    · rcases List.mem_append.1 h with h | h
      · exact hp h
      · exact hs (hshot name h)
    · exact hl (hlisting name h)

/-! ## Operations -/

/-- One operation of a painting on the files that it recorded itself. -/
def Files.paint (files : Files) (_ : Unit) : (op : PaintOp) → Except BundleError op.Ans × Files
  | .record a =>
    if files a.name = none ∨ files a.name = some a.value then
      (.ok (), files.set a.name a.value)
    else
      (.error (.refuseReplacing a.name), files)
  | .recall name =>
    match files name with
    | some value => (.ok value, files)
    | none => (.error (.notFound name), files)

@[simp] theorem Files.set_self (files : Files) (name : Text) (value : Bytes) :
    files.set name value name = some value :=
  Function.update_self ..

theorem Files.set_of_ne (files : Files) {name other : Text} (value : Bytes) (h : other ≠ name) :
    files.set name value other = files other :=
  Function.update_of_ne h ..

/-- The three operations of `record` are one of the painting. -/
theorem run_onDisk (op : PaintOp) (files : Files) :
    (onDisk op).run Files.perform () files = files.paint () op := by
  cases op with
  | «recall» name => exact Script.run_request _
  | record a =>
    rw [onDisk, place]
    simp only [Script.run_bind, Script.run_request, Files.perform, Files.paint]
    cases hfound : files a.name with
    | none => simp [Files.perform]
    | some found =>
      simp only [Option.isSome_some, if_true, Script.run_bind, Script.run_request,
        Files.perform, hfound]
      by_cases h : found = a.value
      · simp [h, Files.perform]
      · simp [h]

/-- An artifact that the manifest can hold. -/
structure Artifact.WellNamed (a : Artifact) : Prop where
  name : FreeName a.name
  kind : Json.Unpaired a.kind
  parents : ∀ parent ∈ a.parents, Json.Unpaired parent

/-- What a painting may ask for. -/
def Recordable : PaintOp → Prop
  | .record a => a.WellNamed
  | .recall name => name ∉ reserved

/-- Every artifact is in its file. -/
def Placed (done : List Artifact) (files : Files) : Prop :=
  ∀ a ∈ done, a.WellNamed ∧ files a.name = some a.value

theorem placed_nil (files : Files) : Placed [] files := by
  rintro a ⟨⟩

/-- From these files, whatever the painting returns satisfies `post`. -/
def Paints {α : Type} (post : α → Files → Prop) (x : Painting α) (files : Files) : Prop :=
  x.Holds Files.paint Eq (fun _ op => Recordable op) (fun r files => ∀ a, r = .ok a → post a files)
    files

section Rules

variable {α β : Type} {files : Files}

theorem paints_bind (mid : α → Files → Prop) {post : β → Files → Prop} {x : Painting α}
    {f : α → Painting β} (hx : Paints mid x files)
    (hf : ∀ a files, mid a files → Paints post (f a) files) : Paints post (x >>= f) files := by
  refine Script.holds_bind _ hx ?_ ?_
  · intro a files' hmid
    exact hf a files' (hmid files' rfl a rfl)
  · intro e files' _ a ha
    cases ha

theorem paints_pure {post : α → Files → Prop} {a : α} (h : post a files) :
    Paints post (pure a) files := by
  rintro files' rfl b hb
  cases hb
  exact h

theorem paints_ofExcept {post : α → Files → Prop} {r : Except BundleError α}
    (h : ∀ a, r = .ok a → post a files) : Paints post (Script.ofExcept r) files := by
  apply Script.holds_ofExcept
  rintro files' rfl a ha
  exact h a ha

theorem paints_recall {post : Bytes → Files → Prop} {name : Text} (hname : name ∉ reserved)
    (h : ∀ value, post value files) :
    Paints post (Script.request (PaintOp.recall name)) files := by
  apply Script.holds_request (fun files' => files' = files)
  · rintro files' rfl
    rfl
  · intro files' _
    exact hname
  · rintro files' ⟨⟩ rfl files'' hafter value hvalue
    rw [← hafter]
    -- A read leaves the files alone.
    have hsame : (files'.paint () (.recall name)).2 = files' := by
      rw [Files.paint]
      split <;> rfl
    rw [hsame]
    exact h value

theorem placed_set {done : List Artifact} {a : Artifact} (hdone : Placed done files)
    (ha : a.WellNamed) (hfree : files a.name = none ∨ files a.name = some a.value) :
    Placed (done ++ [a]) (files.set a.name a.value) := by
  intro b hb
  rcases List.mem_append.1 hb with hb | hb
  · rcases hdone b hb with ⟨hnamed, hfile⟩
    refine ⟨hnamed, ?_⟩
    by_cases hname : b.name = a.name
    · -- A name that comes again comes with its value.
      rw [hname] at hfile
      rcases hfree with hnone | hsame
      · rw [hnone] at hfile
        cases hfile
      · rw [hname, Files.set_self, ← hsame, hfile]
    · rw [Files.set_of_ne _ _ hname, hfile]
  · rw [List.mem_singleton.1 hb]
    exact ⟨ha, Files.set_self ..⟩

theorem paints_record {done : List Artifact} {a : Artifact} (hdone : Placed done files)
    (ha : a.WellNamed) :
    Paints (fun done' files => done' = done ++ [a] ∧ Placed done' files) (record done a) files := by
  refine paints_bind (fun _ files => Placed (done ++ [a]) files) ?_ ?_
  · apply Script.holds_request (fun files' => files' = files)
    · rintro files' rfl
      rfl
    · intro files' _
      exact ha
    · rintro files' ⟨⟩ rfl files'' hafter r hr
      rw [← hafter]
      by_cases hfree : files' a.name = none ∨ files' a.name = some a.value
      · rw [Files.paint, if_pos hfree]
        exact placed_set hdone ha hfree
      · rw [Files.paint, if_neg hfree] at hr
        cases hr
  · intro _ files' hplaced
    exact paints_pure ⟨rfl, hplaced⟩

end Rules

/-! ## The painting -/

section Painting

variable {inp : BundleInputs} {files : Files}

theorem wellNamed_lit {name kind : String} {value : Bytes} {parents : List Text}
    {bound : Option BoundAsset} (hname : isPlain (lit name) = true ∧ lit name ∉ reserved)
    (hparents : ∀ parent ∈ parents, ∃ text, parent = chars text) :
    ({ name := lit name, kind := lit kind, value := value, parents := parents,
       bound := bound } : Artifact).WellNamed where
  name := freeName_lit hname
  kind := unpaired_ofChar _
  parents := by
    intro parent hparent
    rcases hparents parent hparent with ⟨text, rfl⟩
    exact unpaired_chars text

theorem artifactId_chars (name : Text) : ∃ text, artifactId inp name = chars text :=
  ⟨_, rfl⟩

theorem sourceIds_chars : ∀ parent ∈ sourceIds inp, ∃ text, parent = chars text := by
  intro parent hparent
  rcases List.mem_map.1 hparent with ⟨index, _, rfl⟩
  exact artifactId_chars _

theorem singleton_chars (name : Text) :
    ∀ parent ∈ [artifactId inp name], ∃ text, parent = chars text := by
  intro parent hparent
  rw [List.mem_singleton.1 hparent]
  exact artifactId_chars name

theorem no_parents : ∀ parent ∈ ([] : List Text), ∃ text, parent = chars text := by
  rintro parent ⟨⟩

/-- The names of recorded artifacts. -/
def namesOf (done : List Artifact) : List Text :=
  done.map Artifact.name

theorem namesOf_append (done more : List Artifact) :
    namesOf (done ++ more) = namesOf done ++ namesOf more :=
  List.map_append ..

theorem paintProduct_records :
    Paints (fun done files =>
      namesOf done = [lit "product-structure.json", lit "product.html"] ∧ Placed done files)
      (paintProduct inp) files := by
  unfold paintProduct
  refine paints_bind _ (paints_record (placed_nil files) (wellNamed_lit (by decide) no_parents)) ?_
  rintro done files ⟨rfl, hplaced⟩
  refine paints_bind (fun _ files' => files' = files)
    (paints_ofExcept (fun _ _ => rfl)) ?_
  rintro document files' rfl
  have hsecond := paints_record hplaced
    (a := { name := lit "product.html", kind := lit "product_html", value := document,
            parents := [artifactId inp (lit "product-structure.json")], bound := none })
    (wellNamed_lit (by decide) (singleton_chars _))
  refine Script.Holds.mono hsecond ?_
  rintro r files'' hpost done hr
  rcases hpost done hr with ⟨rfl, hplaced'⟩
  exact ⟨rfl, hplaced'⟩

/-- Every picture of the dictionary is a file of the painting. -/
def ShotsFree (shots : List (Text × Text)) : Prop :=
  ∀ shot ∈ shots, shot.2 ∉ reserved

theorem shotsFree_setShot {shots : List (Text × Text)} (h : ShotsFree shots) (name : Text)
    {path : Text} (hpath : path ∉ reserved) : ShotsFree (setShot shots name path) := by
  intro shot hshot
  unfold setShot at hshot
  split_ifs at hshot with hany
  · rcases List.mem_map.1 hshot with ⟨old, hold, rfl⟩
    split_ifs with hname
    · exact hpath
    · exact h old hold
  · rcases List.mem_append.1 hshot with hold | hnew
    · exact h shot hold
    · rw [List.mem_singleton.1 hnew]
      exact hpath

theorem shotsFree_framesOf {shots : List (Text × Text)} (h : ShotsFree shots) :
    ShotsFree (framesOf shots) := by
  unfold framesOf
  generalize shotRoles = roles
  induction roles generalizing shots with
  | nil => exact h
  | cons role roles ih => exact ih (shotsFree_setShot h role (freeName_screenshot 0).free)

theorem paintScreenshots_records (variants : List BundleVariant) {index : Nat}
    {shots : List (Text × Text)} {done : List Artifact} (hshots : ShotsFree shots)
    (hdone : Placed done files) :
    Paints (fun r files => ShotsFree r.1 ∧ Placed r.2 files ∧
        namesOf r.2 = namesOf done ++ (List.range' index variants.length).map screenshotName)
      (paintScreenshots inp index shots done variants) files := by
  induction variants generalizing index shots done files with
  | nil => exact paints_pure ⟨hshots, hdone, by simp⟩
  | cons variant rest ih =>
    refine paints_bind (fun _ files' => files' = files)
      (paints_ofExcept (fun _ _ => rfl)) ?_
    rintro value files' rfl
    refine paints_bind _ (paints_record hdone ?_) ?_
    · refine ⟨freeName_screenshot index, unpaired_ofChar _, ?_⟩
      intro parent hparent
      rcases singleton_chars _ parent hparent with ⟨text, rfl⟩
      exact unpaired_chars text
    · rintro done' files' ⟨rfl, hplaced⟩
      have hset := shotsFree_setShot hshots variant.name (freeName_screenshot index).free
      refine Script.Holds.mono (ih hset hplaced) ?_
      intro r files'' hpost result hr
      rcases hpost result hr with ⟨hfree, hplaced', hnames⟩
      refine ⟨hfree, hplaced', ?_⟩
      rw [hnames, namesOf_append, List.length_cons, List.range'_succ, List.map_cons,
        List.append_assoc]
      rfl

theorem recallShots_keeps {done : List Artifact} (shots : List (Text × Text))
    (hshots : ShotsFree shots) (hdone : Placed done files) :
    Paints (fun _ files => Placed done files) (recallShots shots) files := by
  induction shots generalizing files with
  | nil => exact paints_pure hdone
  | cons shot rest ih =>
    refine paints_bind (fun _ files => Placed done files)
      (paints_recall (hshots shot (List.mem_cons_self ..)) (fun _ => hdone)) ?_
    intro value files' hplaced
    refine paints_bind _ (ih (fun s hs => hshots s (List.mem_cons_of_mem _ hs)) hplaced) ?_
    intro values files'' hplaced'
    exact paints_pure hplaced'

theorem paintListing_records (images : List Rendered) {index : Nat} {done : List Artifact}
    (hdone : Placed done files) :
    Paints (fun done' files => Placed done' files ∧
        namesOf done' = namesOf done ++ (List.range' index images.length).map listingName)
      (paintListing inp index done images) files := by
  induction images generalizing index done files with
  | nil => exact paints_pure ⟨hdone, by simp⟩
  | cons image rest ih =>
    refine paints_bind _ (paints_record hdone ?_) ?_
    · refine ⟨freeName_listing index, unpaired_ofChar _, ?_⟩
      intro parent hparent
      rcases sourceIds_chars parent hparent with ⟨text, rfl⟩
      exact unpaired_chars text
    · rintro done' files' ⟨rfl, hplaced⟩
      refine Script.Holds.mono (ih hplaced) ?_
      intro r files'' hpost result hr
      rcases hpost result hr with ⟨hplaced', hnames⟩
      refine ⟨hplaced', ?_⟩
      rw [hnames, namesOf_append, List.length_cons, List.range'_succ, List.map_cons,
        List.append_assoc]
      rfl

theorem paintVideo_records {frames : List (Text × Bytes)} {done : List Artifact}
    (hdone : Placed done files) :
    Paints (fun done' files => Placed done' files ∧
        namesOf done' = namesOf done ++
          [lit "walkthrough.mkv", lit "walkthrough.mp4", lit "video-probe.json"])
      (paintVideo inp frames done) files := by
  unfold paintVideo
  refine paints_bind (fun _ files => Placed done files)
    (paints_ofExcept (fun _ _ => hdone)) ?_
  intro video files hplaced
  refine paints_bind _ (paints_record hplaced (wellNamed_lit (by decide) sourceIds_chars)) ?_
  rintro done₁ files ⟨hdone₁, hplaced₁⟩
  refine paints_bind (fun _ files => Placed done₁ files)
    (paints_recall (by decide) (fun _ => hplaced₁)) ?_
  intro source files hplaced
  refine paints_bind (fun _ files => Placed done₁ files)
    (paints_ofExcept (fun _ _ => hplaced)) ?_
  intro encoded files hplaced
  refine paints_bind _ (paints_record hplaced (wellNamed_lit (by decide) (singleton_chars _))) ?_
  rintro done₂ files ⟨hdone₂, hplaced₂⟩
  refine paints_bind (fun _ files => Placed done₂ files)
    (paints_recall (by decide) (fun _ => hplaced₂)) ?_
  intro target files hplaced
  refine paints_bind (fun _ files => Placed done₂ files)
    (paints_ofExcept (fun _ _ => hplaced)) ?_
  intro metadata files hplaced
  refine paints_bind (fun _ files => Placed done₂ files)
    (paints_ofExcept (fun _ _ => hplaced)) ?_
  intro _ files hplaced
  have hlast := paints_record hplaced
    (a := { name := lit "video-probe.json", kind := lit "video_probe", value := metadata,
            parents := [artifactId inp (lit "walkthrough.mkv")], bound := none })
    (wellNamed_lit (by decide) (singleton_chars _))
  refine Script.Holds.mono hlast ?_
  intro r files' hpost done₃ hr
  rcases hpost done₃ hr with ⟨rfl, hplaced₃⟩
  refine ⟨hplaced₃, ?_⟩
  rw [hdone₂, hdone₁]
  simp [namesOf]

/-- A delivery PDF, as it was admitted. -/
structure AdmittedPdf (inp : BundleInputs) (name : Text)
    (expected : Except BundleError (List Text)) (a : Artifact) : Prop where
  name : a.name = name
  bound : ∃ bound, a.bound = some bound
  admitted : ∃ links, expected = .ok links ∧ admitDeliveryPdf inp a.value links = .ok ()

theorem paintPdf_records {name : String} (hname : isPlain (lit name) = true ∧ lit name ∉ reserved)
    {pdf : Except BundleError Rendered} {expected : Except BundleError (List Text)}
    {done : List Artifact} (hdone : Placed done files) :
    Paints (fun done' files => Placed done' files ∧
        ∃ a, done' = done ++ [a] ∧ AdmittedPdf inp (lit name) expected a)
      (paintPdf inp (lit name) pdf expected done) files := by
  unfold paintPdf
  refine paints_bind (fun _ files => Placed done files)
    (paints_ofExcept (fun _ _ => hdone)) ?_
  intro rendered files hplaced
  refine paints_bind (fun links files => expected = .ok links ∧ Placed done files)
    (paints_ofExcept (fun _ hlinks => ⟨hlinks, hplaced⟩)) ?_
  rintro links files ⟨hlinks, hplaced⟩
  refine paints_bind
    (fun _ files => admitDeliveryPdf inp rendered.bytes links = .ok () ∧ Placed done files)
    (paints_ofExcept (fun _ hadmitted => ⟨hadmitted, hplaced⟩)) ?_
  rintro _ files ⟨hadmitted, hplaced⟩
  have hrecord := paints_record hplaced
    (a := { name := lit name, kind := lit "delivery_pdf", value := rendered.bytes, parents := [],
            bound := some rendered.bound })
    (wellNamed_lit hname no_parents)
  refine Script.Holds.mono hrecord ?_
  intro r files' hpost done' hr
  rcases hpost done' hr with ⟨rfl, hplaced'⟩
  exact ⟨hplaced', _, rfl, rfl, ⟨_, rfl⟩, links, hlinks, hadmitted⟩

/-- What an uninterrupted painting records. -/
structure Painted (inp : BundleInputs) (done : List Artifact) : Prop where
  names : ∃ m, namesOf done = artifactNames inp.variants.length m
  ends : ∃ front pdf gift readme, done = front ++ [pdf, gift, readme] ∧
    AdmittedPdf inp (lit "readme.pdf") (expectedReadmeLinks inp) pdf ∧
    AdmittedPdf inp (lit "free_gift.pdf") (.ok []) gift ∧ readme.bound = none

theorem paintPictures_records {shots : List (Text × Text)} {done : List Artifact}
    (hshots : ShotsFree shots) (hdone : Placed done files) :
    Paints (fun done' files => Placed done' files ∧ ∃ m,
        namesOf done' = namesOf done ++ (List.range m).map listingName ++
          [lit "walkthrough.mkv", lit "walkthrough.mp4", lit "video-probe.json"])
      (paintPictures inp shots done) files := by
  unfold paintPictures
  refine paints_bind _ (recallShots_keeps (framesOf shots) (shotsFree_framesOf hshots) hdone) ?_
  intro frames files hplaced
  refine paints_bind (fun _ files => Placed done files)
    (paints_ofExcept (fun _ _ => hplaced)) ?_
  intro images files hplaced
  refine paints_bind _ (paintListing_records images hplaced) ?_
  rintro done₁ files ⟨hplaced₁, hnames₁⟩
  refine Script.Holds.mono (paintVideo_records hplaced₁) ?_
  intro r files' hpost done' hr
  rcases hpost done' hr with ⟨hplaced', hnames⟩
  refine ⟨hplaced', images.length, ?_⟩
  rw [hnames, hnames₁, List.range_eq_range']

theorem paintDocuments_records {done : List Artifact} (hdone : Placed done files) :
    Paints (fun done' files => Placed done' files ∧ ∃ pdf gift readme,
        done' = done ++ [pdf, gift, readme] ∧
        AdmittedPdf inp (lit "readme.pdf") (expectedReadmeLinks inp) pdf ∧
        AdmittedPdf inp (lit "free_gift.pdf") (.ok []) gift ∧
        readme.name = lit "README.txt" ∧ readme.bound = none)
      (paintDocuments inp done) files := by
  unfold paintDocuments
  refine paints_bind _ (paintPdf_records (by decide) hdone) ?_
  rintro done₁ files ⟨hplaced₁, pdf, rfl, hpdf⟩
  refine paints_bind _ (paintPdf_records (by decide) hplaced₁) ?_
  rintro done₂ files ⟨hplaced₂, gift, rfl, hgift⟩
  have hlast := paints_record hplaced₂
    (a := { name := lit "README.txt", kind := lit "readme_text", value := inp.readmeText,
            parents := [artifactId inp (lit "product-structure.json")], bound := none })
    (wellNamed_lit (by decide) (singleton_chars _))
  refine Script.Holds.mono hlast ?_
  intro r files' hpost done' hr
  rcases hpost done' hr with ⟨rfl, hplaced'⟩
  rw [List.append_assoc, List.append_assoc] at hplaced' ⊢
  exact ⟨hplaced', pdf, gift, _, rfl, hpdf, hgift, rfl, rfl⟩

theorem painting_records :
    Paints (fun done files => Painted inp done ∧ Placed done files) (painting inp) files := by
  unfold painting
  refine paints_bind _ paintProduct_records ?_
  rintro done files ⟨hnames, hplaced⟩
  refine paints_bind (fun _ files => Placed done files)
    (paints_ofExcept (fun _ _ => hplaced)) ?_
  intro _ files hplaced
  have hnone : ShotsFree [] := by
    rintro shot ⟨⟩
  refine paints_bind _ (paintScreenshots_records inp.variants hnone hplaced) ?_
  rintro r files ⟨hshots, hplaced₁, hnames₁⟩
  refine paints_bind _ (paintPictures_records hshots hplaced₁) ?_
  rintro done₂ files ⟨hplaced₂, m, hnames₂⟩
  refine Script.Holds.mono (paintDocuments_records hplaced₂) ?_
  intro r' files' hpost done' hr
  rcases hpost done' hr with ⟨hplaced', pdf, gift, readme, rfl, hpdf, hgift, hname, hbound⟩
  refine ⟨⟨⟨m, ?_⟩, done₂, pdf, gift, readme, rfl, hpdf, hgift, hbound⟩, hplaced'⟩
  have hlast : namesOf [pdf, gift, readme] =
      [lit "readme.pdf", lit "free_gift.pdf", lit "README.txt"] := by
    simp only [namesOf, List.map_cons, List.map_nil, hpdf.name, hgift.name, hname]
  simp only [namesOf_append, hlast, hnames₂, hnames₁, hnames, artifactNames, List.range_eq_range',
    List.append_assoc, List.cons_append, List.nil_append]

/-- The painting propagates what an operation raises. -/
theorem record_strict (done : List Artifact) (a : Artifact) : (record done a).Strict :=
  Script.strict_bind (Script.strict_request _) (fun _ => trivial)

theorem paintScreenshots_strict (variants : List BundleVariant) (index : Nat)
    (shots : List (Text × Text)) (done : List Artifact) :
    (paintScreenshots inp index shots done variants).Strict := by
  induction variants generalizing index shots done with
  | nil => exact trivial
  | cons variant rest ih =>
    refine Script.strict_bind (Script.strict_ofExcept _) (fun value => ?_)
    exact Script.strict_bind (record_strict _ _) (fun done' => ih _ _ _)

theorem recallShots_strict (shots : List (Text × Text)) : (recallShots shots).Strict := by
  induction shots with
  | nil => exact trivial
  | cons shot rest ih =>
    refine Script.strict_bind (Script.strict_request _) (fun value => ?_)
    exact Script.strict_bind ih (fun _ => trivial)

theorem paintListing_strict (images : List Rendered) (index : Nat) (done : List Artifact) :
    (paintListing inp index done images).Strict := by
  induction images generalizing index done with
  | nil => exact trivial
  | cons image rest ih => exact Script.strict_bind (record_strict _ _) (fun done' => ih _ _)

theorem paintPdf_strict (name : Text) (pdf : Except BundleError Rendered)
    (expected : Except BundleError (List Text)) (done : List Artifact) :
    (paintPdf inp name pdf expected done).Strict := by
  refine Script.strict_bind (Script.strict_ofExcept _) (fun _ => ?_)
  refine Script.strict_bind (Script.strict_ofExcept _) (fun _ => ?_)
  exact Script.strict_bind (Script.strict_ofExcept _) (fun _ => record_strict _ _)

theorem paintVideo_strict (frames : List (Text × Bytes)) (done : List Artifact) :
    (paintVideo inp frames done).Strict := by
  refine Script.strict_bind (Script.strict_ofExcept _) (fun _ => ?_)
  refine Script.strict_bind (record_strict _ _) (fun _ => ?_)
  refine Script.strict_bind (Script.strict_request _) (fun _ => ?_)
  refine Script.strict_bind (Script.strict_ofExcept _) (fun _ => ?_)
  refine Script.strict_bind (record_strict _ _) (fun _ => ?_)
  refine Script.strict_bind (Script.strict_request _) (fun _ => ?_)
  refine Script.strict_bind (Script.strict_ofExcept _) (fun _ => ?_)
  exact Script.strict_bind (Script.strict_ofExcept _) (fun _ => record_strict _ _)

theorem paintProduct_strict : (paintProduct inp).Strict := by
  refine Script.strict_bind (record_strict _ _) (fun _ => ?_)
  exact Script.strict_bind (Script.strict_ofExcept _) (fun _ => record_strict _ _)

theorem paintPictures_strict (shots : List (Text × Text)) (done : List Artifact) :
    (paintPictures inp shots done).Strict := by
  unfold paintPictures
  refine Script.strict_bind (recallShots_strict (framesOf shots)) (fun _ => ?_)
  refine Script.strict_bind (Script.strict_ofExcept _) (fun _ => ?_)
  exact Script.strict_bind (paintListing_strict _ _ _) (fun _ => paintVideo_strict _ _)

theorem paintDocuments_strict (done : List Artifact) : (paintDocuments inp done).Strict := by
  refine Script.strict_bind (paintPdf_strict _ _ _ _) (fun _ => ?_)
  exact Script.strict_bind (paintPdf_strict _ _ _ _) (fun _ => record_strict _ _)

theorem painting_strict : (painting inp).Strict := by
  unfold painting
  refine Script.strict_bind paintProduct_strict (fun _ => ?_)
  refine Script.strict_bind (Script.strict_ofExcept _) (fun _ => ?_)
  refine Script.strict_bind (paintScreenshots_strict _ _ _ _) (fun _ => ?_)
  exact Script.strict_bind (paintPictures_strict _ _) (fun _ => paintDocuments_strict _)

end Painting

end Assets
end MoneyMachine
