import MoneyMachine.Assets.DefangPatterns

/-!
# DefangPasses — what the passes over a candidate keep

* `replaceWhere_window`  : a stretch that no replacement touches is still there;
* `pass_hostIn`          : a restored host outlives the later passes;
* `bracketPass_hostIn`   : the pass over bracketed dots restores it;
* `undoSpan_hostIn`      : all passes, in their order.
-/

namespace MoneyMachine
namespace Assets
namespace DefangNormalizer

open Library

/-! ## The loop of a pass -/

def EndsHost (text : Text) : Prop :=
  ∃ c, text.getLast? = some c ∧ hostChar c = true

theorem EndsHost.append {a b : Text} (h : EndsHost b) : EndsHost (a ++ b) := by
  obtain ⟨c, hc, hhost⟩ := h
  exact ⟨c, by simp [List.getLast?_append, hc], hhost⟩

theorem EndsHost.of_append {a b : Text} (h : EndsHost (a ++ b)) (hb : b ≠ []) : EndsHost b := by
  obtain ⟨c, hc, hhost⟩ := h
  exact ⟨c, by rwa [List.getLast?_append_of_ne_nil _ hb] at hc, hhost⟩

/-- What is left behind a host: nothing goes on with a label, and it is empty only if nothing stood
there. -/
structure Closed (nothing : Prop) (behind : Text) : Prop where
  noLabel : NoLabel behind
  empty : behind = [] → nothing

variable {nothing : Prop}

theorem Closed.cons {c : Char} {rest : Text} (h : hostChar c = false ∧ c ≠ '-') :
    Closed nothing (c :: rest) := by
  refine ⟨fun d hd => ?_, fun hnil => by cases hnil⟩
  obtain rfl := Option.some.inj hd
  exact h

theorem Closed.replace {front new : Text} (old : Text) (h : Closed nothing (front ++ old))
    (hnew : Closed nothing new) : Closed nothing (front ++ new) := by
  cases front with
  | nil => exact hnew
  | cons c front => exact Closed.cons (h.noLabel c rfl)

section Loop

variable {choose : Match → Option (Text × Text)}

theorem replaceWhere_skip {cursor : Text} {m : Match} {ms : List Match}
    (h : cursor.length < m.first.after.length ∨ choose m = none) :
    replaceWhere choose cursor (m :: ms) = replaceWhere choose cursor ms := by
  rw [replaceWhere]
  rcases h with h | h
  · rw [if_pos h]
  · split
    · rfl
    · simp [h]

theorem replaceWhere_take {cursor new next : Text} {m : Match} {ms : List Match}
    (hlen : ¬ cursor.length < m.first.after.length) (h : choose m = some (new, next)) :
    replaceWhere choose cursor (m :: ms) =
      cursor.take (cursor.length - m.first.after.length) ++ new ++ replaceWhere choose next ms := by
  rw [replaceWhere, if_neg hlen]
  simp [h]

/-- The replacement of a match leaves a stretch alone: it ends before it, or it begins behind. -/
def Keeps (nothing : Prop) (window behind : Text) (m : Match) (new next : Text) : Prop :=
  (∃ front, next = front ++ (window ++ behind) ∧ (EndsHost front ∨ front = [] ∧ EndsHost new)) ∨
    (∃ front, behind = front ++ m.first.after ∧ ∀ more, Closed nothing (front ++ (new ++ more)))

theorem replaceWhere_window {window behind : Text} (hbehind : Closed nothing behind) :
    ∀ {ms : List Match} {front : Text},
      (∀ m ∈ ms, ∀ new next, choose m = some (new, next) → Keeps nothing window behind m new next) →
      EndsHost front ∨ front = [] →
      ∃ front' behind', replaceWhere choose (front ++ (window ++ behind)) ms =
          front' ++ (window ++ behind') ∧ Closed nothing behind' ∧
        (EndsHost front' ∨ front = [] ∧ front' = []) := by
  intro ms
  induction ms with
  | nil =>
    intro front _ hfront
    exact ⟨front, behind, rfl, hbehind, hfront.imp id fun h => ⟨h, h⟩⟩
  | cons m ms ih =>
    intro front hms hfront
    have hrest := fun m' hm' => hms m' (List.mem_cons_of_mem _ hm')
    rcases Decidable.em ((front ++ (window ++ behind)).length < m.first.after.length) with
      hlen | hlen
    · rw [replaceWhere_skip (Or.inl hlen)]
      exact ih hrest hfront
    cases hchoose : choose m with
    | none =>
      rw [replaceWhere_skip (Or.inr hchoose)]
      exact ih hrest hfront
    | some chosen =>
      obtain ⟨new, next⟩ := chosen
      rw [replaceWhere_take hlen hchoose]
      rcases hms m (List.mem_cons_self ..) new next hchoose with
        ⟨front₁, rfl, hends⟩ | ⟨front₁, hfront₁, hmore⟩
      · -- The rest of the text in front of the stretch goes through the same loop.
        obtain ⟨front', behind', heq, hbehind', hfront'⟩ :=
          ih hrest (hends.imp id And.left)
        rw [heq]
        generalize List.take _ _ = taken
        refine ⟨taken ++ new ++ front', behind', by simp only [List.append_assoc], hbehind',
          Or.inl ?_⟩
        rcases hfront' with h | ⟨rfl, rfl⟩
        · exact h.append
        · rw [List.append_nil]
          rcases hends with ⟨_, h, _⟩ | ⟨_, h⟩
          · cases h
          · exact h.append
      · subst hfront₁
        have htake : (front ++ (window ++ (front₁ ++ m.first.after))).take
            ((front ++ (window ++ (front₁ ++ m.first.after))).length - m.first.after.length) =
              front ++ (window ++ front₁) := by
          rw [← List.append_assoc, ← List.append_assoc, List.length_append,
            Nat.add_sub_cancel, List.take_left, List.append_assoc]
        rw [htake]
        exact ⟨front, front₁ ++ (new ++ replaceWhere choose next ms),
          by simp only [List.append_assoc], hmore _, hfront.imp id fun h => ⟨h, h⟩⟩

theorem replaceWhere_closed :
    ∀ {ms : List Match} {cursor : Text}, Closed nothing cursor →
      (∀ m ∈ ms, ∀ new next, choose m = some (new, next) → ∀ more, Closed nothing (new ++ more)) →
      Closed nothing (replaceWhere choose cursor ms) := by
  intro ms
  induction ms with
  | nil =>
    intro cursor hcursor _
    exact hcursor
  | cons m ms ih =>
    intro cursor hcursor hms
    have hrest := fun m' hm' => hms m' (List.mem_cons_of_mem _ hm')
    rcases Decidable.em (cursor.length < m.first.after.length) with hlen | hlen
    · rw [replaceWhere_skip (Or.inl hlen)]
      exact ih hcursor hrest
    cases hchoose : choose m with
    | none =>
      rw [replaceWhere_skip (Or.inr hchoose)]
      exact ih hcursor hrest
    | some chosen =>
      rw [replaceWhere_take hlen hchoose, List.append_assoc]
      refine Closed.replace (cursor.drop (cursor.length - m.first.after.length)) ?_
        (hms m (List.mem_cons_self ..) _ _ hchoose _)
      rw [List.take_append_drop]
      exact hcursor

/-- The matches before a place, when each of their replacements ends before it. -/
theorem replaceWhere_before {place : Text} {ms : List Match} :
    ∀ {before : List Match} {front : Text},
      (∀ m ∈ before, ∀ new next, choose m = some (new, next) →
        ∃ front', next = front' ++ place ∧ (EndsHost front' ∨ front' = [] ∧ EndsHost new)) →
      EndsHost front ∨ front = [] →
      ∃ done front', replaceWhere choose (front ++ place) (before ++ ms) =
          done ++ replaceWhere choose (front' ++ place) ms ∧
        (EndsHost (done ++ front') ∨ front = [] ∧ done = [] ∧ front' = []) := by
  intro before
  induction before with
  | nil =>
    intro front _ hfront
    exact ⟨[], front, rfl, hfront.imp id fun h => ⟨h, rfl, h⟩⟩
  | cons m before ih =>
    intro front hms hfront
    have hrest := fun m' hm' => hms m' (List.mem_cons_of_mem _ hm')
    rw [List.cons_append]
    rcases Decidable.em ((front ++ place).length < m.first.after.length) with hlen | hlen
    · rw [replaceWhere_skip (Or.inl hlen)]
      exact ih hrest hfront
    cases hchoose : choose m with
    | none =>
      rw [replaceWhere_skip (Or.inr hchoose)]
      exact ih hrest hfront
    | some chosen =>
      obtain ⟨new, next⟩ := chosen
      rw [replaceWhere_take hlen hchoose]
      obtain ⟨front₁, rfl, hends⟩ := hms m (List.mem_cons_self ..) new next hchoose
      obtain ⟨done, front', heq, hdone⟩ := ih hrest (hends.imp id And.left)
      rw [heq]
      generalize List.take _ _ = taken
      refine ⟨taken ++ new ++ done, front', by simp only [List.append_assoc], Or.inl ?_⟩
      rcases hdone with h | ⟨rfl, rfl, rfl⟩
      · rw [List.append_assoc]
        exact h.append
      · rw [List.append_nil, List.append_nil]
        rcases hends with ⟨_, h, _⟩ | ⟨_, h⟩
        · cases h
        · exact h.append

end Loop

/-! ## The tokens that are put behind a dot -/

/-- A token ends where what was read for it ends. -/
structure TokenRead (text token rest : Text) : Prop where
  read : ∃ w, text = w ++ rest ∧ (∀ c ∈ w, labelChar c = true ∨ c = ' ') ∧
    ∃ c, w.getLast? = some c ∧ token.getLast? = some c ∧ labelChar c = true

theorem labelChar_of_isAlphanum {c : Char} (h : c.isAlphanum = true) : labelChar c = true := by
  simp [labelChar, h]

theorem loneLetter_eq_some {text rest : Text} {c : Char} (h : loneLetter text = some (c, rest)) :
    text = c :: rest ∧ c.isAlphanum = true := by
  cases text with
  | nil => cases h
  | cons d text =>
    rw [loneLetter] at h
    split at h
    · next hd =>
        obtain ⟨rfl, rfl⟩ := Prod.mk.inj (Option.some.inj h)
        simp only [Bool.and_eq_true] at hd
        exact ⟨rfl, hd.1⟩
    · cases h

/-- The spelled words of letters each of which stands behind spaces. -/
inductive Letters : Text → List (Char × Text) → Prop
  | nil (text : Text) : Letters text []
  | cons {spaces rest : Text} {c : Char} {letters : List (Char × Text)} :
      (∀ d ∈ spaces, d = ' ') → c.isAlphanum = true → Letters rest letters →
      Letters (spaces ++ c :: rest) ((c, rest) :: letters)

theorem moreLetters_letters (count : Nat) (text : Text) :
    Letters text (moreLetters count text) := by
  fun_induction moreLetters count text with
  | case1 text => exact Letters.nil text
  | case2 count rest c rest' hlone ih =>
    obtain ⟨hdrop, hc⟩ := loneLetter_eq_some hlone
    have htext : ' ' :: rest =
        (' ' :: rest.takeWhile (fun c => decide (c = ' '))) ++ c :: rest' := by
      rw [List.cons_append, ← hdrop, List.takeWhile_append_dropWhile]
    rw [htext]
    refine Letters.cons ?_ hc ih
    intro d hd
    rcases List.mem_cons.1 hd with rfl | hd
    · rfl
    · have hall := List.all_takeWhile (p := fun c => decide (c = ' ')) (l := rest)
      simpa using List.all_eq_true.1 hall d hd
  | case3 => exact Letters.nil _
  | case4 => exact Letters.nil _

theorem spelled_read {text : Text} {letters : List (Char × Text)} (h : Letters text letters) :
    ∀ {acc : Text} {w : Text × Text}, w ∈ spelled acc letters → TokenRead text w.1 w.2 := by
  induction h with
  | nil text =>
    intro acc w hw
    cases hw
  | cons hspaces hc hletters ih =>
    rename_i spaces rest c letters
    intro acc w hw
    have hchars : ∀ d ∈ spaces ++ [c], labelChar d = true ∨ d = ' ' := by
      intro d hd
      rcases List.mem_append.1 hd with hd | hd
      · exact Or.inr (hspaces d hd)
      · rw [List.mem_singleton.1 hd]
        exact Or.inl (labelChar_of_isAlphanum hc)
    rw [spelled] at hw
    rcases List.mem_cons.1 hw with rfl | hw
    · exact ⟨spaces ++ [c], by simp, hchars, c, by simp, by simp, labelChar_of_isAlphanum hc⟩
    · obtain ⟨v, rfl, hv, last, hlast, htoken, hlabel⟩ := (ih hw).read
      refine ⟨spaces ++ c :: v, by simp, ?_, last, ?_, htoken, hlabel⟩
      · intro d hd
        rcases List.mem_append.1 (show d ∈ (spaces ++ [c]) ++ v by simpa using hd) with hd | hd
        · exact hchars d hd
        · exact hv d hd
      · rw [List.getLast?_append, List.getLast?_cons, hlast]
        rfl

theorem spacedPrefixes_read {text : Text} {w : Text × Text} (h : w ∈ spacedPrefixes text) :
    TokenRead text w.1 w.2 := by
  unfold spacedPrefixes at h
  split at h
  · cases h
  · next c rest hlone =>
      obtain ⟨rfl, hc⟩ := loneLetter_eq_some hlone
      split at h
      · cases h
      · have hletters : Letters ([] ++ c :: rest) ((c, rest) :: moreLetters 11 rest) :=
          Letters.cons (by simp) hc (moreLetters_letters 11 rest)
        exact spelled_read hletters h

theorem readTld_read {text token rest : Text} {spaced : Bool}
    (h : readTld text = some (token, rest, spaced)) : TokenRead text token rest := by
  unfold readTld at h
  split at h
  · next hhead =>
      split at h
      · next w hlast =>
          simp only [Option.some.injEq, Prod.mk.injEq] at h
          obtain ⟨rfl, rfl, _⟩ := h
          exact spacedPrefixes_read (List.mem_of_getLast? hlast)
      · simp only [Option.some.injEq, Prod.mk.injEq] at h
        obtain ⟨rfl, rfl, _⟩ := h
        have hall := List.all_takeWhile (p := labelChar) (l := text)
        have hne : text.takeWhile labelChar ≠ [] := by
          cases text with
          | nil => cases hhead
          | cons c text =>
            have hc : labelChar c = true := labelChar_of_isAlphanum (by simpa using hhead)
            simp [hc]
        obtain ⟨c, hc⟩ : ∃ c, (text.takeWhile labelChar).getLast? = some c :=
          ⟨_, List.getLast?_eq_some_getLast hne⟩
        exact ⟨text.takeWhile labelChar, List.takeWhile_append_dropWhile.symm,
          fun d hd => Or.inl (List.all_eq_true.1 hall d hd), c, hc, hc,
          List.all_eq_true.1 hall c (List.mem_of_getLast? hc)⟩
  · cases h

theorem longestAccepted_read {text token rest token' rest' : Text} {spaced spaced' : Bool}
    {accept : Text → Bool} (hread : TokenRead text token rest)
    (h : longestAccepted text token rest spaced accept = some (token', rest', spaced')) :
    TokenRead text token' rest' := by
  unfold longestAccepted at h
  split at h
  · split at h
    · simp only [Option.some.injEq, Prod.mk.injEq] at h
      obtain ⟨rfl, rfl, _⟩ := h
      exact hread
    · cases h
  · obtain ⟨w, hw, heq⟩ := Option.map_eq_some_iff.1 h
    simp only [Prod.mk.injEq] at heq
    obtain ⟨rfl, rfl, _⟩ := heq
    exact spacedPrefixes_read (List.mem_filter.1 (List.mem_of_getLast? hw)).1

theorem outsideCurated_eq {place : Cursor} {token rest token' rest' tail : Text} {boundary : Bool}
    (h : outsideCurated place token rest boundary tail = some (token', rest')) :
    token = token' ∧ rest = rest' := by
  unfold outsideCurated at h
  split at h
  · cases h
  split at h
  · cases h
  split at h
  · cases h
  · simpa using h

theorem chosenTld_read {place : Cursor} {accept : Text → Bool} {boundary : Bool}
    {tail token rest : Text} (h : chosenTld place accept boundary tail = some (token, rest)) :
    TokenRead place.after token rest := by
  unfold chosenTld at h
  split at h
  · cases h
  · next token₀ rest₀ spaced hread =>
      have htoken := readTld_read hread
      split at h
      · obtain ⟨rfl, rfl⟩ := outsideCurated_eq h
        exact htoken
      · next token₁ rest₁ spaced₁ haccepted =>
          have htoken₁ := longestAccepted_read htoken haccepted
          dsimp only at h
          split at h
          · cases h
          split at h
          · cases h
          · obtain ⟨rfl, rfl⟩ : token₁ = token ∧ rest₁ = rest := by simpa using h
            exact htoken₁

theorem blank_label {c : Char} (h : blank c = true) : labelChar c = false := by
  simp only [blank, Bool.or_eq_true, decide_eq_true_eq] at h
  rcases h with rfl | rfl <;> decide

/-- A token does not reach past a character that belongs to no label, nor into the blanks in front
of it. -/
theorem TokenRead.before {token rest front blanks behind : Text} {k : Char}
    (h : TokenRead (front ++ (blanks ++ k :: behind)) token rest)
    (hblanks : ∀ c ∈ blanks, blank c = true) (hk : labelChar k = false) (hspace : k ≠ ' ') :
    ∃ w front', front = w ++ front' ∧ rest = front' ++ (blanks ++ k :: behind) ∧
      token.getLast? = w.getLast? := by
  obtain ⟨w, heq, hw, c, hlast, htoken, hc⟩ := h.read
  rcases List.append_eq_append_iff.1 heq with ⟨extra, rfl, hextra⟩ | ⟨front', rfl, hrest⟩
  · -- What the token takes of the blanks is nothing, since it ends in a label.
    have hnil : extra = [] := by
      by_contra hne
      rw [List.getLast?_append_of_ne_nil _ hne] at hlast
      rcases List.append_eq_append_iff.1 hextra with ⟨more, rfl, hmore⟩ | ⟨more, rfl, _⟩
      · cases more with
        | nil =>
          have hblank := hblanks c (by simpa using List.mem_of_getLast? hlast)
          simp [blank_label hblank] at hc
        | cons d more =>
          obtain ⟨rfl, _⟩ := List.cons.inj hmore
          rcases hw k (by simp) with h | h
          · rw [hk] at h
            cases h
          · exact hspace h
      · have hblank := hblanks c (List.mem_append_left _ (List.mem_of_getLast? hlast))
        simp [blank_label hblank] at hc
    subst hnil
    refine ⟨front, [], by simp, by simpa using hextra.symm, ?_⟩
    rw [htoken, ← hlast, List.append_nil]
  · exact ⟨w, front', rfl, hrest, by rw [hlast, htoken]⟩

theorem TokenRead.endsHost {token rest front blanks behind : Text} {k : Char}
    (h : TokenRead (front ++ (blanks ++ k :: behind)) token rest)
    (hblanks : ∀ c ∈ blanks, blank c = true) (hk : labelChar k = false) (hspace : k ≠ ' ')
    (hfront : EndsHost front) :
    ∃ front', rest = front' ++ (blanks ++ k :: behind) ∧
      (EndsHost front' ∨ front' = [] ∧ EndsHost ('.' :: token)) := by
  obtain ⟨w, front', rfl, hrest, hlast⟩ := h.before hblanks hk hspace
  refine ⟨front', hrest, ?_⟩
  rcases Decidable.em (front' = []) with rfl | hne
  · obtain ⟨c, hc, hhost⟩ := hfront
    rw [List.append_nil] at hc
    refine Or.inr ⟨rfl, c, ?_, hhost⟩
    rw [List.getLast?_cons, hlast, hc]
    rfl
  · exact Or.inl (hfront.of_append hne)

/-! ## A restored host outlives a pass -/

/-- A host character, a dot, a top-level domain, and nothing that goes on with it. -/
def HostIn (nothing : Prop) (tld text : Text) : Prop :=
  ∃ front behind, text = front ++ ('.' :: tld ++ behind) ∧ EndsHost front ∧ Closed nothing behind

theorem LooseWord.no_dot {w before after rest tld behind : Text} (hw : LooseWord w)
    (heq : w = before ++ '.' :: after) (hbefore : EndsHost before ∨ before = [])
    (htld : ∀ c ∈ tld, hostChar c = true) (hne : tld ≠ [])
    (hafter : tld ++ behind = after ++ rest) : False := by
  rcases hw.dot before after heq with ⟨c, hc, hhost⟩ | ⟨c, hc, hhost⟩
  · rcases hbefore with ⟨d, hd, hdhost⟩ | rfl
    · rw [hd] at hc
      obtain rfl := Option.some.inj hc
      rw [hdhost] at hhost
      cases hhost
    · cases hc
  · obtain ⟨after, rfl⟩ := List.head?_eq_some_iff.1 hc
    obtain ⟨d, tld, rfl⟩ := List.exists_cons_of_ne_nil hne
    obtain ⟨rfl, _⟩ := List.cons.inj hafter
    rw [htld d (List.mem_cons_self ..)] at hhost
    cases hhost

theorem LooseWord.not_endsHost {w front : Text} (hw : LooseWord w) : ¬ EndsHost (front ++ w) := by
  intro h
  obtain ⟨c, hc, hhost⟩ := h.of_append hw.ne_nil
  rw [hw.last c hc] at hhost
  cases hhost

/-- A separator is not found between two host characters. -/
theorem LooseWord.outside {skipped w rest front tld behind : Text} (hw : LooseWord w)
    (hfront : EndsHost front) (htld : ∀ c ∈ tld, hostChar c = true) (hne : tld ≠ [])
    (h : skipped ++ (w ++ rest) = front ++ ('.' :: tld ++ behind)) :
    (∃ front', rest = front' ++ ('.' :: tld ++ behind) ∧ EndsHost front') ∨
      ∃ front', behind = front' ++ (w ++ rest) := by
  rcases List.append_eq_append_iff.1 h with ⟨before, rfl, hbefore⟩ | ⟨after, rfl, hafter⟩
  · rcases List.append_eq_append_iff.1 hbefore with ⟨beyond, rfl, hover⟩ | ⟨beyond, rfl, hover⟩
    · -- The word ends in front of the dot, and not with the host character there.
      refine Or.inl ⟨beyond, hover, ?_⟩
      rw [← List.append_assoc] at hfront
      rcases Decidable.em (beyond = []) with rfl | hne'
      · rw [List.append_nil] at hfront
        exact absurd hfront hw.not_endsHost
      · exact hfront.of_append hne'
    · -- It would run over the dot.
      cases beyond with
      | nil =>
        rw [List.append_nil] at hw
        exact absurd hfront hw.not_endsHost
      | cons c beyond =>
        rw [List.cons_append, List.cons_append] at hover
        obtain ⟨rfl, hbehind⟩ := List.cons.inj hover
        have hends : EndsHost before ∨ before = [] := by
          rcases Decidable.em (before = []) with hnil | hne'
          · exact Or.inr hnil
          · exact Or.inl (hfront.of_append hne')
        exact (hw.no_dot rfl hends htld hne hbehind).elim
  · cases after with
    | nil =>
      -- It would begin with the dot.
      rw [List.nil_append] at hafter
      obtain ⟨c, w', rfl⟩ := List.exists_cons_of_ne_nil hw.ne_nil
      rw [List.cons_append, List.cons_append] at hafter
      obtain ⟨rfl, hbehind⟩ := List.cons.inj hafter
      have hnothing : EndsHost ([] : Text) ∨ ([] : Text) = [] := Or.inr rfl
      exact (hw.no_dot rfl hnothing htld hne hbehind).elim
    | cons c after =>
      rw [List.cons_append, List.cons_append] at hafter
      obtain ⟨rfl, hbehind⟩ := List.cons.inj hafter
      rcases List.append_eq_append_iff.1 hbehind with ⟨more, rfl, hmore⟩ | ⟨more, rfl, hmore⟩
      · exact Or.inr ⟨more, hmore⟩
      · cases more with
        | nil => exact Or.inr ⟨[], hmore.symm⟩
        | cons d more =>
          -- It would begin inside the top-level domain.
          obtain ⟨e, w', rfl⟩ := List.exists_cons_of_ne_nil hw.ne_nil
          obtain ⟨rfl, _⟩ := List.cons.inj hmore
          have hhost := htld e (by simp)
          rw [hw.first e rfl] at hhost
          cases hhost

/-- What a pass makes of a match of its pattern. -/
structure Replaces (choose : Match → Option (Text × Text)) : Prop where
  new : ∀ {m : Match} {new next : Text}, choose m = some (new, next) →
    ∃ c more, new = c :: more ∧ hostChar c = false ∧ c ≠ '-'
  next : ∀ {m : Match} {new next : Text}, choose m = some (new, next) →
    next = m.last.after ∨ ∃ token, new = '.' :: token ∧ TokenRead m.last.after token next

theorem pass_hostIn {choose : Match → Option (Text × Text)} {pattern : Re} {ignoreCase : Bool}
    {tld chunk : Text} (hchoose : Replaces choose) (hpattern : Loose pattern ignoreCase = true)
    (htld : ∀ c ∈ tld, hostChar c = true) (hne : tld ≠ []) (h : HostIn nothing tld chunk) :
    HostIn nothing tld (replaceWhere choose chunk (finditer ascii ignoreCase pattern chunk)) := by
  obtain ⟨front, behind, hchunk, hfront, hbehind⟩ := h
  have hkeeps : ∀ m ∈ finditer ascii ignoreCase pattern chunk, ∀ new next,
      choose m = some (new, next) → Keeps nothing ('.' :: tld) behind m new next := by
    intro m hm new next hnew
    obtain ⟨skipped, w, hskipped, hgood⟩ := finditer_reads hm
    have hloose := looseWord_of_word hpattern hgood.word
    have hwhole : skipped ++ (w ++ m.last.after) = front ++ ('.' :: tld ++ behind) := by
      rw [← hchunk, ← hgood.reads.after, ← hskipped.after]
      rfl
    obtain ⟨c, more, rfl, hc⟩ := hchoose.new hnew
    rcases hloose.outside hfront htld hne hwhole with ⟨front', hrest, hends⟩ | ⟨front', hrest⟩
    · refine Or.inl ?_
      rcases hchoose.next hnew with rfl | ⟨token, htoken, hread⟩
      · exact ⟨front', hrest, Or.inl hends⟩
      · have hdot : TokenRead (front' ++ ([] ++ '.' :: (tld ++ behind))) token next := by
          rw [hrest] at hread
          exact hread
        rw [htoken]
        exact hdot.endsHost (by simp) rfl (by decide) hends
    · refine Or.inr ⟨front', by rw [hrest, hgood.reads.after], fun more' => ?_⟩
      refine Closed.replace (w ++ m.last.after) (hrest ▸ hbehind) ?_
      exact Closed.cons hc
  obtain ⟨front', behind', heq, hbehind', hfront'⟩ :=
    replaceWhere_window hbehind hkeeps (Or.inl hfront)
  refine ⟨front', behind', ?_, ?_, hbehind'⟩
  · rw [← heq, ← hchunk]
  · rcases hfront' with h | ⟨rfl, _⟩
    · exact h
    · obtain ⟨_, h, _⟩ := hfront
      cases h

/-! ## Each pass -/

theorem apart_dot : hostChar '.' = false ∧ '.' ≠ '-' := by
  decide

theorem apart_at : hostChar '@' = false ∧ '@' ≠ '-' := by
  decide

theorem replaces_dots (accept : Text → Bool) (boundary : Bool) (tail : Text) :
    Replaces (fun m =>
      (chosenTld m.last accept boundary tail).map (fun c => ('.' :: c.1, c.2))) := by
  constructor
  · intro m new next h
    obtain ⟨c, _, heq⟩ := Option.map_eq_some_iff.1 h
    obtain ⟨rfl, _⟩ := Prod.mk.inj heq
    exact ⟨'.', c.1, rfl, apart_dot⟩
  · intro m new next h
    obtain ⟨c, hc, heq⟩ := Option.map_eq_some_iff.1 h
    obtain ⟨rfl, rfl⟩ := Prod.mk.inj heq
    exact Or.inr ⟨c.1, rfl, chosenTld_read hc⟩

theorem replaceDots_hostIn {chunk tld tail : Text} {pattern : Re} {ignoreCase boundary : Bool}
    {accept : Text → Bool} (hpattern : Loose pattern ignoreCase = true)
    (htld : ∀ c ∈ tld, hostChar c = true) (hne : tld ≠ []) (h : HostIn nothing tld chunk) :
    HostIn nothing tld (replaceDots chunk pattern ignoreCase accept boundary tail) :=
  pass_hostIn (replaces_dots accept boundary tail) hpattern htld hne h

/-- What a substitution by an at sign gives. -/
theorem replaceAt_gives {bracket : Bool} {m : Match} {new next : Text}
    (h : (match matchFrom ascii true hostTail m.last with
      | none => none
      | some host =>
        let tld := afterLastDot host.text
        let allowed := if bracket then bracketTld tld else curatedTld tld
        if allowed then some (['@'], m.last.after) else none) = some (new, next)) :
    new = ['@'] ∧ next = m.last.after := by
  split at h
  · cases h
  · simp only [Option.ite_none_right_eq_some] at h
    obtain ⟨rfl, rfl⟩ := Prod.mk.inj (Option.some.inj h.2)
    exact ⟨rfl, rfl⟩

theorem replaceAts_hostIn {chunk tld : Text} {pattern : Re} {bracket : Bool}
    (hpattern : Loose pattern true = true) (htld : ∀ c ∈ tld, hostChar c = true) (hne : tld ≠ [])
    (h : HostIn nothing tld chunk) : HostIn nothing tld (replaceAts chunk pattern bracket) := by
  refine pass_hostIn ?_ hpattern htld hne h
  constructor
  · intro m new next h
    exact ⟨'@', [], (replaceAt_gives h).1, apart_at⟩
  · intro m new next h
    exact Or.inl (replaceAt_gives h).2

/-- A substitution is a pass that goes on behind each match. -/
theorem replaceMatches_eq {replacement : Match → Text} :
    ∀ {ms : List Match} {place : Cursor},
      (∀ m ∈ ms, ∃ skipped, Reads place skipped m.first) →
      ms.Pairwise (fun m m' => ∃ skipped, Reads m.last skipped m'.first) →
      replaceMatches replacement place ms =
        replaceWhere (fun m => some (replacement m, m.last.after)) place.after ms := by
  intro ms
  induction ms with
  | nil =>
    intro place _ _
    rfl
  | cons m ms ih =>
    intro place hfirst hordered
    obtain ⟨skipped, hskipped⟩ := hfirst m (List.mem_cons_self ..)
    have hlen : ¬ place.after.length < m.first.after.length := by
      rw [hskipped.after, List.length_append]
      omega
    have hnext := List.pairwise_cons.1 hordered
    rw [replaceMatches, replaceWhere_take hlen rfl, ih (fun m' hm' => hnext.1 m' hm') hnext.2]
    rfl

theorem sub_eq {pattern : Re} {ignoreCase : Bool} (replacement : Match → Text) (text : Text) :
    sub ascii ignoreCase pattern replacement text =
      replaceWhere (fun m => some (replacement m, m.last.after)) text
        (finditer ascii ignoreCase pattern text) := by
  refine replaceMatches_eq (fun m hm => ?_) (finditer_ordered text)
  obtain ⟨skipped, _, hskipped, _⟩ := finditer_reads hm
  exact ⟨skipped, hskipped⟩

theorem sub_hostIn {chunk tld : Text} {pattern : Re} (hpattern : Loose pattern false = true)
    (htld : ∀ c ∈ tld, hostChar c = true) (hne : tld ≠ []) (h : HostIn nothing tld chunk) :
    HostIn nothing tld (sub ascii false pattern (fun _ => ['@']) chunk) := by
  rw [sub_eq]
  refine pass_hostIn ?_ hpattern htld hne h
  constructor
  · intro m new next h
    obtain ⟨rfl, _⟩ := Prod.mk.inj (Option.some.inj h)
    exact ⟨'@', [], rfl, apart_at⟩
  · intro m new next h
    obtain ⟨_, rfl⟩ := Prod.mk.inj (Option.some.inj h)
    exact Or.inl rfl

/-! ## The pass over bracketed dots -/

/-- A top-level domain of letters and digits that the bracketed form accepts. -/
structure BracketTld (tld : Text) : Prop where
  chars : ∀ c ∈ tld, c.isAlphanum = true
  length : 2 ≤ tld.length
  registered : isOneOf ianaTlds (casefold tld) = true

theorem BracketTld.plain {tld : Text} (h : BracketTld tld) : plainName (casefold tld) = true := by
  have hmem : String.ofList (casefold tld) ∈ ianaTlds := by
    simpa [isOneOf] using h.registered
  have hplain := List.all_eq_true.1 ianaTlds_plain _ hmem
  rw [String.toList_ofList, Bool.or_eq_true] at hplain
  rcases hplain with hhyphen | hplain
  · -- The name has no hyphen.
    obtain ⟨c, hc, heq⟩ := List.any_eq_true.1 hhyphen
    obtain ⟨d, hd, rfl⟩ := List.mem_map.1 hc
    have hdash : d.toLower = '-' := by simpa using heq
    have hdalnum := h.chars d hd
    cases hupper : inRange 'A' 'Z' d with
    | false =>
      rw [toLower_of_not_upper hupper] at hdash
      rw [hdash] at hdalnum
      exact absurd hdalnum (by decide)
    | true =>
      have hlower := toLower_host hupper
      rw [hdash] at hlower
      exact absurd hlower (by decide)
  · exact hplain

theorem BracketTld.no_digit_map {tld : Text} (h : BracketTld tld) :
    reliesOnDigitMap tld = false := by
  have hsame : mapDigits (casefold tld) = casefold tld := by
    unfold mapDigits
    refine (List.map_congr_left fun c hc => ?_).trans (List.map_id _)
    have hdigit := plainName_digit h.plain c hc
    rw [if_neg, if_neg, if_neg]
    · rfl
    all_goals
      rintro rfl
      exact absurd hdigit (by decide)
  unfold reliesOnDigitMap
  simp [hsame]

theorem BracketTld.host {tld : Text} (h : BracketTld tld) : ∀ c ∈ tld, hostChar c = true :=
  fun c hc => hostChar_of_isAlphanum (h.chars c hc)

theorem BracketTld.ne_nil {tld : Text} (h : BracketTld tld) : tld ≠ [] := by
  rintro rfl
  exact absurd h.length (by decide)

/-- The token behind a bracketed dot. -/
theorem BracketTld.chosen {tld behind tail before : Text} (h : BracketTld tld)
    (hbehind : NoLabel behind) :
    chosenTld { before := before, after := tld ++ behind } bracketTld false tail =
      some (tld, behind) := by
  have hlabel : ∀ c ∈ tld, labelChar c = true := fun c hc => labelChar_of_isAlphanum (h.chars c hc)
  have hstop : ∀ c ∈ behind.head?, labelChar c = false := by
    intro c hc
    obtain ⟨hhost, hdash⟩ := hbehind c hc
    simp only [labelChar, Bool.or_eq_false_iff, decide_eq_false_iff_not]
    refine ⟨?_, hdash⟩
    rw [Bool.eq_false_iff]
    intro halnum
    rw [hostChar_of_isAlphanum halnum] at hhost
    cases hhost
  have htake : (tld ++ behind).takeWhile labelChar = tld ∧
      (tld ++ behind).dropWhile labelChar = behind := by
    rw [List.takeWhile_append_of_pos hlabel, List.dropWhile_append_of_pos hlabel]
    cases behind with
    | nil => simp
    | cons c behind => simp [hstop c rfl]
  obtain ⟨c₁, c₂, more, rfl⟩ : ∃ c₁ c₂ more, tld = c₁ :: c₂ :: more := by
    match tld, h.length with
    | c₁ :: c₂ :: more, _ => exact ⟨c₁, c₂, more, rfl⟩
  have hread : readTld (c₁ :: c₂ :: more ++ behind) = some (c₁ :: c₂ :: more, behind, false) := by
    have hlone : spacedPrefixes (c₁ :: c₂ :: more ++ behind) = [] := by
      simp [spacedPrefixes, loneLetter, hlabel c₂ (by simp)]
    unfold readTld
    rw [hlone, htake.1, htake.2]
    simp [h.chars c₁ (by simp)]
  have haccept : bracketTld (c₁ :: c₂ :: more) = true := by
    simp [bracketTld, h.registered]
  unfold chosenTld
  rw [hread]
  simp only [longestAccepted, haccept]
  simp [h.no_digit_map]

theorem BracketWord.ne_nil {w : Text} (h : BracketWord w) : w ≠ [] := by
  obtain ⟨front, opener, inner, closer, back, rfl, _⟩ := h.shape
  simp

theorem BracketWord.not_endsHost {w front : Text} (h : BracketWord w) :
    ¬ EndsHost (front ++ w) := by
  intro hends
  obtain ⟨c, hc, hhost⟩ := hends.of_append h.ne_nil
  obtain ⟨front', opener, inner, closer, back, rfl, _, _, _, _, _, hcloser, hback⟩ := h.shape
  have hmem : c = closer ∨ c ∈ back := by
    have hlast : ((front' ++ opener :: inner) ++ closer :: back).getLast? = some c := by
      simpa using hc
    rw [List.getLast?_append_of_ne_nil _ (by simp)] at hlast
    simpa using List.mem_of_getLast? hlast
  rcases hmem with rfl | hmem
  · rw [hcloser] at hhost
    cases hhost
  · rw [hback c hmem] at hhost
    cases hhost

/-- A bracketed dot does not run over the beginning of another one behind a host character. -/
theorem BracketWord.not_over {w before beyond rest behind : Text} {d : BracketDot}
    (hw : BracketWord w) (heq : w = before ++ beyond) (hbefore : EndsHost before) (hover : beyond ≠ [])
    (h : d.text ++ behind = beyond ++ rest) : False := by
  obtain ⟨front, opener, inner, closer, back, rfl, hfront, hopener, hinner, hcloser, hblank,
    hclosed, hback⟩ := hw.shape
  -- The host character is inside the brackets.
  obtain ⟨inner', hinner', hover'⟩ : ∃ inner', (∀ c ∈ inner', isOpener c = false) ∧
      beyond = inner' ++ closer :: back := by
    have hsplit : (front ++ [opener]) ++ (inner ++ closer :: back) = before ++ beyond := by
      rw [← heq]
      simp
    obtain ⟨c, hc, hhost⟩ := hbefore
    rcases List.append_eq_append_iff.1 hsplit with ⟨more, rfl, hmore⟩ | ⟨more, hfewer, _⟩
    · rcases List.append_eq_append_iff.1 hmore with ⟨past, rfl, hpast⟩ | ⟨inner', rfl, hinner'⟩
      · cases past with
        | nil => exact ⟨[], by simp, hpast.symm⟩
        | cons d past =>
          obtain ⟨rfl, rfl⟩ := List.cons.inj hpast
          -- Behind the closing bracket there is no host character.
          have hmem : c ∈ closer :: past := by
            rw [← List.append_assoc, List.getLast?_append_of_ne_nil _ (by simp)] at hc
            exact List.mem_of_getLast? hc
          rcases List.mem_cons.1 hmem with rfl | hmem
          · rw [hclosed] at hhost
            cases hhost
          · rw [hback c (List.mem_append_left _ hmem)] at hhost
            cases hhost
      · exact ⟨inner', fun c hc => hinner c (List.mem_append_right _ hc), hinner'⟩
    · -- Nor is there one up to the opening bracket.
      have hmem : c ∈ front ++ [opener] := by
        rw [hfewer]
        exact List.mem_append_left _ (List.mem_of_getLast? hc)
      rcases List.mem_append.1 hmem with hmem | hmem
      · rw [hfront c hmem] at hhost
        cases hhost
      · rw [List.mem_singleton.1 hmem, hopener] at hhost
        cases hhost
  subst hover'
  have hboth : d.outerBefore ++ (d.opener ::
      (d.innerBefore ++ (d.dot ++ (d.innerAfter ++ d.closer :: d.outerAfter))) ++ behind) =
        inner' ++ (closer :: back ++ rest) := by
    simpa [BracketDot.text] using h
  rcases List.append_eq_append_iff.1 hboth with ⟨more, rfl, hmore⟩ | ⟨more, houter, hmore⟩
  · -- The first character that is not blank is an opening bracket.
    cases more with
    | nil =>
      obtain ⟨heq, _⟩ := List.cons.inj hmore
      rw [← heq, d.opener_apart.2.2.1] at hcloser
      cases hcloser
    | cons c more =>
      obtain ⟨rfl, _⟩ := List.cons.inj hmore
      have := hinner' d.opener (by simp)
      rw [d.opener_apart.2.2.1] at this
      cases this
  · cases more with
    | nil =>
      obtain ⟨heq, _⟩ := List.cons.inj hmore
      rw [heq, d.opener_apart.2.2.1] at hcloser
      cases hcloser
    | cons c more =>
      obtain ⟨rfl, _⟩ := List.cons.inj hmore
      have := d.outerBefore_blank closer (by rw [houter]; simp)
      rw [hblank] at this
      cases this

theorem BracketDot.ne_nil (d : BracketDot) : d.text ≠ [] := by
  simp [BracketDot.text]

theorem bracketDot_read {chunk : Text} {m : Match} (hm : m ∈ finditer ascii true bracketDotRe chunk) :
    ∃ skipped w, BracketWord w ∧ m.first.after = w ++ m.last.after ∧
      skipped ++ (w ++ m.last.after) = chunk := by
  obtain ⟨skipped, w, hskipped, hgood⟩ := finditer_reads hm
  refine ⟨skipped, w, bracketWord_of_word hgood.word, hgood.reads.after, ?_⟩
  rw [← hgood.reads.after]
  exact hskipped.after.symm

/-- A bracketed dot in front of the one behind a host character ends in front of it. -/
theorem BracketWord.before_or_after {skipped w rest front behind : Text} {d : BracketDot}
    (hw : BracketWord w) (hfront : EndsHost front)
    (h : skipped ++ (w ++ rest) = front ++ (d.text ++ behind)) :
    (∃ front', EndsHost front' ∧ rest = front' ++ (d.text ++ behind)) ∨
      ∃ more, skipped = front ++ more := by
  rcases List.append_eq_append_iff.1 h with ⟨before, rfl, hbefore⟩ | ⟨more, rfl, _⟩
  · rcases List.append_eq_append_iff.1 hbefore with ⟨beyond, rfl, hover⟩ | ⟨beyond, rfl, hover⟩
    · refine Or.inl ⟨beyond, ?_, hover⟩
      rw [← List.append_assoc] at hfront
      rcases Decidable.em (beyond = []) with rfl | hne
      · rw [List.append_nil] at hfront
        exact absurd hfront hw.not_endsHost
      · exact hfront.of_append hne
    · rcases Decidable.em (before = []) with rfl | hne
      · exact Or.inr ⟨[], by simp⟩
      rcases Decidable.em (beyond = []) with rfl | hne'
      · rw [List.append_nil] at hw
        exact absurd hfront hw.not_endsHost
      · exact (hw.not_over rfl (hfront.of_append hne) hne' hover).elim
  · exact Or.inr ⟨more, rfl⟩

/-- The pass finds the bracketed dot behind a host character. -/
theorem bracketDot_found {front tld behind : Text} (d : BracketDot) (hfront : EndsHost front)
    (htld : BracketTld tld) :
    ∃ m ∈ finditer ascii true bracketDotRe (front ++ (d.text ++ (tld ++ behind))),
      m.first.after = d.text ++ (tld ++ behind) ∧
        m.last = { before := d.text.reverse ++ front.reverse, after := tld ++ behind } := by
  have hnext : ∀ c ∈ (tld ++ behind).head?, blank c = false := by
    intro c hc
    obtain ⟨c', tld', rfl⟩ := List.exists_cons_of_ne_nil htld.ne_nil
    obtain rfl := Option.some.inj hc
    exact not_blank_of_host (htld.host _ (List.mem_cons_self ..))
  have hwanted : Reads (Cursor.start (front ++ (d.text ++ (tld ++ behind)))) front
      { before := front.reverse, after := d.text ++ (tld ++ behind) } :=
    ⟨rfl, by simp [Cursor.start]⟩
  have hlen : 0 < d.text.length := List.length_pos_iff.2 d.ne_nil
  obtain ⟨m, hm, hfirst, hlast⟩ := mem_finditer hwanted (bracketDot_prefers d hnext)
    (by
      simp only [List.length_append]
      omega)
    (by
      rintro m hm ⟨hstart, hstop⟩
      obtain ⟨skipped, w, hw, hafter, hwhole⟩ := bracketDot_read hm
      rcases hw.before_or_after hfront hwhole with ⟨front', _, hrest⟩ | ⟨more, rfl⟩
      · have := congrArg List.length hrest
        simp only [List.length_append] at this hstop
        omega
      · have := congrArg List.length hwhole
        simp only [hafter, List.length_append] at this hstart
        omega)
  exact ⟨m, hm, by rw [hfirst], hlast⟩

/-- Where a bracketed dot stands behind a host character and in front of a top-level domain, the
pass puts the dot. -/
theorem bracketPass_hostIn {front tld behind : Text} (tail : Text) (d : BracketDot)
    (hfront : EndsHost front) (htld : BracketTld tld) (hbehind : Closed nothing behind) :
    HostIn nothing tld (replaceDots (front ++ (d.text ++ (tld ++ behind))) bracketDotRe true bracketTld false
      tail) := by
  obtain ⟨m, hm, hfirst, hlast⟩ := @bracketDot_found front tld behind d hfront htld
  have hreplaces := replaces_dots bracketTld false tail
  have hchosen : (chosenTld m.last bracketTld false tail).map (fun c => ('.' :: c.1, c.2)) =
      some ('.' :: tld, behind) := by
    rw [hlast, htld.chosen hbehind.noLabel]
    rfl
  have hordered := @finditer_ordered ascii true bracketDotRe (front ++ (d.text ++ (tld ++ behind)))
  unfold replaceDots
  obtain ⟨before, after, hms⟩ := List.append_of_mem hm
  rw [hms] at hordered ⊢
  obtain ⟨_, _, hbefore⟩ := List.pairwise_append.1 hordered
  -- The replacements in front of the match end in front of it.
  have hkeep : ∀ m' ∈ before, ∀ new next,
      (chosenTld m'.last bracketTld false tail).map (fun c => ('.' :: c.1, c.2)) = some (new, next) →
      ∃ front', next = front' ++ (d.text ++ (tld ++ behind)) ∧
        (EndsHost front' ∨ front' = [] ∧ EndsHost new) := by
    intro m' hm' new next hnew
    obtain ⟨between, hbetween⟩ := hbefore m' hm' m (List.mem_cons_self ..)
    obtain ⟨skipped, w, hw, hafter, hwhole⟩ :=
      bracketDot_read (hms ▸ List.mem_append_left _ hm' : m' ∈ finditer ascii true bracketDotRe _)
    rw [hbetween.after, hfirst] at hwhole
    have hends : EndsHost between := by
      rw [← List.append_assoc, ← List.append_assoc] at hwhole
      have hfrontEq := List.append_cancel_right hwhole
      rw [← hfrontEq] at hfront
      rcases Decidable.em (between = []) with rfl | hne
      · rw [List.append_nil] at hfront
        exact absurd hfront hw.not_endsHost
      · exact hfront.of_append hne
    rcases hreplaces.next hnew with rfl | ⟨token, rfl, hread⟩
    · exact ⟨between, by rw [hbetween.after, hfirst], Or.inl hends⟩
    · rw [hbetween.after, hfirst] at hread
      have hdot : TokenRead (between ++ (d.outerBefore ++ d.opener ::
          (d.innerBefore ++ (d.dot ++ (d.innerAfter ++ d.closer :: d.outerAfter)) ++
            (tld ++ behind)))) token next := by
        simpa [BracketDot.text] using hread
      obtain ⟨front', hnext, hfront'⟩ :=
        hdot.endsHost d.outerBefore_blank d.opener_label.1 d.opener_label.2 hends
      exact ⟨front', by simpa [BracketDot.text] using hnext, hfront'⟩
  obtain ⟨done, front', heq, hdone⟩ := replaceWhere_before hkeep (Or.inl hfront)
  have hlen : ¬ (front' ++ (d.text ++ (tld ++ behind))).length < m.first.after.length := by
    rw [hfirst, List.length_append]
    omega
  have htake : (front' ++ (d.text ++ (tld ++ behind))).take
      ((front' ++ (d.text ++ (tld ++ behind))).length - m.first.after.length) = front' := by
    rw [hfirst, List.length_append, Nat.add_sub_cancel, List.take_left]
  have hleft : Closed nothing (replaceWhere (fun m =>
      (chosenTld m.last bracketTld false tail).map (fun c => ('.' :: c.1, c.2))) behind after) := by
    refine replaceWhere_closed hbehind (fun m' _ new next hnew more => ?_)
    obtain ⟨c, more', rfl, hc⟩ := hreplaces.new hnew
    exact Closed.cons hc
  rw [heq, replaceWhere_take hlen hchosen, htake]
  refine ⟨done ++ front', _, by simp only [List.append_assoc], ?_, hleft⟩
  rcases hdone with h | ⟨rfl, _⟩
  · exact h
  · obtain ⟨_, h, _⟩ := hfront
    cases h

/-! ## The scheme, and all passes -/

theorem toLower_of_single_has {c d : Char} (hd : inRange 'a' 'z' d = true)
    (hplain : d ≠ 'i' ∧ d ≠ 's' ∧ d ≠ 'k') (h : (single d).has ascii true c = true) :
    c.toLower = d := by
  have hupper : inRange 'A' 'Z' d = false := by
    rw [inRange_iff] at hd
    rw [Bool.eq_false_iff, ne_eq, inRange_iff]
    have hZ : 'Z'.toNat < 'a'.toNat := by decide
    omega
  simp only [CharSet.has, single, List.any_cons, List.any_nil, Bool.or_false, SetItem.has,
    Bool.true_and, bne_iff_ne, ne_eq, Bool.not_eq_false, Bool.or_eq_true, List.any_eq_true] at h
  rcases h with h | ⟨e, he, h⟩
  · obtain rfl := inRange_self h
    exact toLower_of_not_upper hupper
  · obtain rfl := inRange_self h
    unfold otherCases at he
    split at he
    · next hlower =>
        rw [List.mem_singleton.1 he, toUpper_host hlower] at hupper
        cases hupper
    split at he
    · exact (List.mem_singleton.1 he).symm
    split at he
    · rcases List.mem_pair.1 he with rfl | rfl
      · exact absurd rfl hplain.1
      · exact absurd hd (by decide)
    split at he
    · rcases List.mem_pair.1 he with rfl | rfl
      · exact absurd rfl hplain.2.1
      · exact absurd hd (by decide)
    split at he
    · rcases List.mem_pair.1 he with rfl | rfl
      · exact absurd rfl hplain.2.2
      · exact absurd hd (by decide)
    · cases he

/-- Every other case of a letter is a host character too. -/
theorem hostChar_of_single {c d : Char} (hd : hostChar d = true)
    (h : (single d).has ascii true c = true) : hostChar c = true := by
  simp only [CharSet.has, single, List.any_cons, List.any_nil, Bool.or_false, SetItem.has,
    Bool.true_and, bne_iff_ne, ne_eq, Bool.not_eq_false, Bool.or_eq_true, List.any_eq_true] at h
  rcases h with h | ⟨e, he, h⟩
  · rwa [inRange_self h]
  · obtain rfl := inRange_self h
    have hother : ∀ {low high : Char}, inRange low high e = true →
        (otherCases c).any (inRange low high) = true :=
      fun h => List.any_eq_true.2 ⟨e, he, h⟩
    rcases isAlphanum_iff.1 (otherCases_host he) with h | h | h <;>
      simp [hostChar, CharSet.has, hostSet, SetItem.has, hother h]

/-- The letters of the scheme, and its separator. -/
theorem HxxpWord.split {w : Text} (h : HxxpWord w) :
    ∃ a b c d plural separator, w = (a :: b :: c :: d :: plural) ++ separator ∧
      a.toLower = 'h' ∧ b.toLower = 'x' ∧ c.toLower = 'x' ∧ d.toLower = 'p' ∧
      (∀ e ∈ a :: b :: c :: d :: plural, hostChar e = true) ∧
      (∀ e ∈ separator, hostChar e = false) ∧
      ((∃ more, separator = ':' :: more) ∨ ∃ more, separator = '[' :: ':' :: more) := by
  obtain ⟨a, b, c, d, plural, separator, rfl, ha, hb, hc, hd, hplural, hseparator⟩ := h.shape
  have hlower : ∀ {e x : Char}, inRange 'a' 'z' x = true → x ≠ 'i' ∧ x ≠ 's' ∧ x ≠ 'k' →
      (single x).has ascii true e = true → e.toLower = x := toLower_of_single_has
  have hhost : ∀ {e x : Char}, hostChar x = true → (single x).has ascii true e = true →
      hostChar e = true := hostChar_of_single
  refine ⟨a, b, c, d, plural, separator ++ ['/', '/'], by simp, hlower rfl (by decide) ha,
    hlower rfl (by decide) hb, hlower rfl (by decide) hc, hlower rfl (by decide) hd, ?_, ?_, ?_⟩
  · intro e he
    simp only [List.mem_cons] at he
    rcases he with rfl | rfl | rfl | rfl | he
    · exact hhost rfl ha
    · exact hhost rfl hb
    · exact hhost rfl hc
    · exact hhost rfl hd
    · rcases hplural with rfl | ⟨s, rfl, hs⟩
      · cases he
      · rw [List.mem_singleton.1 he]
        exact hhost rfl hs
  · intro e he
    have hnone : ∀ e ∈ [':', '[', ']', '/'], hostChar e = false := List.all_iff_forall_prop.1 (by decide)
    refine hnone e ?_
    rcases hseparator with rfl | rfl
    · simp only [List.cons_append, List.nil_append, List.mem_cons, List.not_mem_nil, or_false] at he
      rcases he with rfl | rfl | rfl <;> simp
    · simp only [List.cons_append, List.nil_append, List.mem_cons, List.not_mem_nil, or_false] at he
      rcases he with rfl | rfl | rfl | rfl | rfl <;> simp
  · rcases hseparator with rfl | rfl
    · exact Or.inl ⟨_, rfl⟩
    · exact Or.inr ⟨_, rfl⟩

theorem BracketDot.not_scheme {d : BracketDot} {rest behind separator : Text}
    (h : d.text ++ behind = separator ++ rest)
    (hseparator : (∃ more, separator = ':' :: more) ∨ ∃ more, separator = '[' :: ':' :: more) :
    False := by
  cases houter : d.outerBefore with
  | cons b outer =>
    -- A blank begins no separator.
    have hb : blank b = true := d.outerBefore_blank b (houter ▸ List.mem_cons_self ..)
    rw [BracketDot.text, houter] at h
    rcases hseparator with ⟨more, rfl⟩ | ⟨more, rfl⟩ <;>
      (obtain ⟨rfl, _⟩ := List.cons.inj h; cases hb)
  | nil =>
    rw [BracketDot.text, houter, List.nil_append] at h
    rcases hseparator with ⟨more, rfl⟩ | ⟨more, rfl⟩
    · obtain ⟨hopener, _⟩ := List.cons.inj h
      have := d.opener_apart.2.2.1
      rw [hopener] at this
      cases this
    · -- Behind the bracket stands a blank, a dot or a letter.
      obtain ⟨_, hinner⟩ := List.cons.inj h
      have hcolon : (d.innerBefore ++ (d.dot ++ (d.innerAfter ++ d.closer :: d.outerAfter)) ++
          behind).head? = some ':' :=
        (congrArg List.head? hinner).trans rfl
      cases hin : d.innerBefore with
      | cons b inner =>
        have hb : blank b = true := d.blanks b (by simp [hin])
        rw [hin] at hcolon
        obtain rfl := Option.some.inj hcolon
        cases hb
      | nil =>
        rw [hin, List.nil_append] at hcolon
        rcases d.dotted with hdot | hdot
        · rw [hdot] at hcolon
          exact absurd (Option.some.inj hcolon) (by decide)
        · obtain ⟨a, b, c, hdot', ha, _⟩ := casefold_dot hdot
          rw [hdot'] at hcolon
          obtain rfl := Option.some.inj hcolon
          exact absurd ha (by decide)

theorem BracketDot.no_h (d : BracketDot) : ∀ c ∈ d.text, c.toLower ≠ 'h' := by
  intro c hc
  obtain ⟨outerBefore, opener, innerBefore, dot, innerAfter, closer, outerAfter, hblanks, hbrackets,
    hdot⟩ := d
  have hblank : ∀ c, blank c = true → c.toLower ≠ 'h' := by
    intro c hc
    simp only [blank, Bool.or_eq_true, decide_eq_true_eq] at hc
    rcases hc with rfl | rfl <;> decide
  have hword : ∀ x ∈ dot, x.toLower ≠ 'h' := by
    intro x hx
    rcases hdot with hdot | hdot
    · rw [hdot] at hx
      rw [List.mem_singleton.1 hx]
      decide
    · have hmem : x.toLower ∈ casefold dot := List.mem_map_of_mem hx
      rw [hdot] at hmem
      intro hh
      rw [hh] at hmem
      exact absurd hmem (by decide)
  simp only [List.mem_append] at hblanks
  simp only [BracketDot.text, List.mem_append, List.mem_cons] at hc
  simp only [List.mem_cons, Prod.mk.injEq, List.not_mem_nil, or_false] at hbrackets
  rcases hc with hc | hc | hc | hc | hc | hc | hc
  · exact hblank c (hblanks c (by simp [hc]))
  · rcases hbrackets with ⟨h, _⟩ | ⟨h, _⟩ | ⟨h, _⟩ <;> rw [hc, h] <;> decide
  · exact hblank c (hblanks c (by simp [hc]))
  · exact hword c hc
  · exact hblank c (hblanks c (by simp [hc]))
  · rcases hbrackets with ⟨_, h⟩ | ⟨_, h⟩ | ⟨_, h⟩ <;> rw [hc, h] <;> decide
  · exact hblank c (hblanks c (by simp [hc]))

theorem HxxpWord.not_endsHost {w front : Text} (h : HxxpWord w) : ¬ EndsHost (front ++ w) := by
  obtain ⟨a, b, c, d, plural, separator, rfl, _⟩ := h.shape
  rintro ⟨e, he, hhost⟩
  have hlast : (front ++ a :: b :: c :: d :: (plural ++ (separator ++ ['/'])) ++ ['/']).getLast? =
      some e := by
    simpa using he
  rw [List.getLast?_append] at hlast
  obtain rfl := Option.some.inj hlast
  exact absurd hhost (by decide)

/-- A scheme is not found in a bracketed dot, its label and its top-level domain. -/
theorem HxxpWord.outside {skipped w rest front tld behind : Text} {d : BracketDot} (hw : HxxpWord w)
    (hfront : EndsHost front) (htld : BracketTld tld) (hbehind : Closed nothing behind)
    (h : skipped ++ (w ++ rest) = front ++ (d.text ++ (tld ++ behind))) :
    (∃ front', EndsHost front' ∧ rest = front' ++ (d.text ++ (tld ++ behind))) ∨
      ∃ c more, behind = c :: more ++ (w ++ rest) := by
  obtain ⟨a, b, c, p, plural, separator, hsplit, ha, hb, hc, hp, hcore, hseparator, hform⟩ := hw.split
  have hheadHost : hostChar a = true := hcore a (by simp)
  -- The text behind the top-level domain does not begin with the scheme.
  have hnotBehind : behind ≠ w ++ rest := by
    intro heq
    have := (hbehind.noLabel a (by rw [heq, hsplit]; rfl)).1
    rw [hheadHost] at this
    cases this
  -- Nor does the top-level domain end with it.
  have hnotTld : ∀ past, tld ≠ past ++ a :: b :: c :: p :: plural := by
    intro past heq
    have hplain := htld.plain
    have hxxp := plainName_xxp (casefold past ++ ['h']) (casefold plural)
    rw [heq] at hplain
    simp only [casefold, List.map_append, List.map_cons, ha, hb, hc, hp, List.append_assoc,
      List.singleton_append] at hplain hxxp
    rw [hxxp] at hplain
    cases hplain
  have htail : ∀ past, tld ++ behind = past ++ (w ++ rest) →
      ∃ c more, behind = c :: more ++ (w ++ rest) := by
    intro past hpast
    rcases List.append_eq_append_iff.1 hpast with ⟨more, rfl, hmore⟩ | ⟨more, htldEq, hmore⟩
    · cases more with
      | nil => exact absurd hmore hnotBehind
      | cons e more => exact ⟨e, more, hmore⟩
    · rw [hsplit, List.append_assoc] at hmore
      rcases List.append_eq_append_iff.1 hmore with ⟨more', rfl, hmore'⟩ | ⟨more', hcoreEq, hmore'⟩
      · cases more' with
        | nil =>
          rw [List.append_nil] at htldEq
          exact absurd htldEq (hnotTld past)
        | cons e more' =>
          -- The separator is no part of a top-level domain.
          have hmem : e ∈ separator := by
            rcases hform with ⟨_, rfl⟩ | ⟨_, rfl⟩ <;>
              (obtain ⟨rfl, _⟩ := List.cons.inj hmore'; simp)
          have hhost := htld.host e (by rw [htldEq]; simp)
          rw [hseparator e hmem] at hhost
          cases hhost
      · cases more' with
        | nil =>
          rw [List.append_nil] at hcoreEq
          rw [← hcoreEq] at htldEq
          exact absurd htldEq (hnotTld past)
        | cons e more' =>
          have hhost := hcore e (by rw [hcoreEq]; simp)
          rw [(hbehind.noLabel e (by rw [hmore']; rfl)).1] at hhost
          cases hhost
  rcases List.append_eq_append_iff.1 h with ⟨before, rfl, hbefore⟩ | ⟨after, rfl, hafter⟩
  · rcases List.append_eq_append_iff.1 hbefore with ⟨beyond, rfl, hover⟩ | ⟨beyond, hover, hrest⟩
    · refine Or.inl ⟨beyond, ?_, hover⟩
      rw [← List.append_assoc] at hfront
      rcases Decidable.em (beyond = []) with rfl | hne
      · rw [List.append_nil] at hfront
        exact absurd hfront hw.not_endsHost
      · exact hfront.of_append hne
    · -- It would run over the beginning of the bracketed dot.
      exfalso
      have hstart : ∀ e more, beyond = e :: more → hostChar e = false := by
        intro e more heq
        exact (d.noLabel _ e (by rw [hrest, heq]; rfl)).1
      rcases Decidable.em (before = []) with rfl | hne
      · rw [List.nil_append] at hover
        rw [hstart a _ (by rw [← hover, hsplit]; rfl)] at hheadHost
        cases hheadHost
      have hends := hfront.of_append hne
      rw [hsplit] at hover
      rcases List.append_eq_append_iff.1 hover with ⟨more, rfl, hmore⟩ | ⟨more, hcoreEq, hmore⟩
      · rcases Decidable.em (more = []) with rfl | hne'
        · rw [List.nil_append] at hmore
          exact BracketDot.not_scheme hrest (hmore ▸ hform)
        · obtain ⟨e, he, hhost⟩ := hends.of_append hne'
          rw [hseparator e (by rw [hmore]; simp [List.mem_of_getLast? he])] at hhost
          cases hhost
      · cases more with
        | nil => exact BracketDot.not_scheme hrest (hmore ▸ hform)
        | cons e more =>
          have hhost := hcore e (by rw [hcoreEq]; simp)
          rw [hstart e _ hmore] at hhost
          cases hhost
  · rcases List.append_eq_append_iff.1 hafter with ⟨past, rfl, hpast⟩ | ⟨inside, hinside, hrest⟩
    · exact Or.inr (htail past hpast)
    · cases inside with
      | nil => exact Or.inr (htail [] hrest.symm)
      | cons e inside =>
        rw [hsplit] at hrest
        obtain ⟨rfl, _⟩ := List.cons.inj hrest
        exact absurd ha (d.no_h a (by rw [hinside]; simp))

/-- The scheme is restored, and the rest of the candidate is as before. -/
theorem schemePass {front tld behind : Text} (d : BracketDot) (hfront : EndsHost front)
    (htld : BracketTld tld) (hbehind : Closed nothing behind) :
    ∃ front' behind', sub ascii true hxxp httpFor (front ++ (d.text ++ (tld ++ behind))) =
        front' ++ (d.text ++ (tld ++ behind')) ∧ EndsHost front' ∧ Closed nothing behind' := by
  have hkeeps : ∀ m ∈ finditer ascii true hxxp (front ++ ((d.text ++ tld) ++ behind)),
      ∀ new next, some (httpFor m, m.last.after) = some (new, next) →
        Keeps nothing (d.text ++ tld) behind m new next := by
    intro m hm new next hnew
    obtain ⟨rfl, rfl⟩ := Prod.mk.inj (Option.some.inj hnew)
    obtain ⟨skipped, w, hskipped, hgood⟩ := finditer_reads hm
    have hwhole : skipped ++ (w ++ m.last.after) = front ++ (d.text ++ (tld ++ behind)) := by
      rw [← hgood.reads.after, ← List.append_assoc d.text]
      exact hskipped.after.symm
    rcases (hxxpWord_of_word hgood.word).outside hfront htld hbehind hwhole with
      ⟨front', hends, hrest⟩ | ⟨c, more, hrest⟩
    · exact Or.inl ⟨front', by rw [hrest, List.append_assoc], Or.inl hends⟩
    · refine Or.inr ⟨c :: more, by rw [hrest, hgood.reads.after], fun more' => ?_⟩
      exact Closed.cons (hbehind.noLabel c (by rw [hrest]; rfl))
  obtain ⟨front', behind', heq, hbehind', hfront'⟩ :=
    replaceWhere_window hbehind hkeeps (Or.inl hfront)
  refine ⟨front', behind', ?_, ?_, hbehind'⟩
  · rw [← List.append_assoc d.text, ← List.append_assoc d.text, sub_eq, heq]
  · rcases hfront' with h | ⟨rfl, _⟩
    · exact h
    · obtain ⟨_, h, _⟩ := hfront
      cases h

/-- All passes over a candidate that holds a label, a bracketed dot and a top-level domain. -/
theorem undoSpan_hostIn {text front tld behind : Text} {start stop : Nat} (d : BracketDot)
    (hchunk : (text.take stop).drop start = front ++ (d.text ++ (tld ++ behind)))
    (hfront : EndsHost front) (htld : BracketTld tld) (hbehind : Closed nothing behind) :
    HostIn nothing tld (undoSpan text start stop) := by
  obtain ⟨hbare, hspaced, hbracketAt, hbareAt, hsign⟩ := loose_patterns
  obtain ⟨front', behind', hscheme, hfront', hbehind'⟩ := schemePass d hfront htld hbehind
  unfold undoSpan
  dsimp only
  rw [hchunk, hscheme]
  have hbracket := bracketPass_hostIn (text.drop stop) d hfront' htld hbehind'
  exact sub_hostIn hsign htld.host htld.ne_nil
    (replaceAts_hostIn hbareAt htld.host htld.ne_nil
      (replaceAts_hostIn hbracketAt htld.host htld.ne_nil
        (replaceDots_hostIn hspaced htld.host htld.ne_nil
          (replaceDots_hostIn hbare htld.host htld.ne_nil hbracket))))

end DefangNormalizer
end Assets
end MoneyMachine
