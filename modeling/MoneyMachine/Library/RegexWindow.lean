import MoneyMachine.Library.RegexScan

/-!
# RegexWindow — texts without a match, checked at small cost

A run of the matcher at every place of a text is dear in the kernel.  A window of one or two characters
mostly shows that no word of the pattern begins there, and the same windows come back all over a text.

* `Re.opens`          : a word of the pattern may begin with these characters;
* `quietFrom`         : no place of a text has a match, the windows tried first;
* `finditer_of_quiet` : a quiet text has no matches, so that `search` and `sub` find nothing;
* `forced`            : the same text with each of its characters evaluated.
-/

namespace MoneyMachine
namespace Library

/-! ## Windows -/

section Windows

variable (alphabet : Alphabet) (ignoreCase : Bool)

/-- So many rounds over a window; after more of them anything may follow. -/
def starFits (body : List Char → (List Char → Bool) → Bool) :
    Nat → List Char → (List Char → Bool) → Bool
  | 0, _, _ => true
  | rounds + 1, window, next =>
    next window || body window (fun rest => starFits body rounds rest next)

/-- A word of the pattern agrees with the window, and what follows it with the rest of the window.  The text
goes on behind the window; look-around is not looked at. -/
def Re.fits : Re → List Char → (List Char → Bool) → Bool
  | .empty, window, next => next window
  | .one set, window, next =>
    match window with
    | [] => true
    | c :: rest => set.has alphabet ignoreCase c && next rest
  | .seq a b, window, next => Re.fits a window (fun rest => Re.fits b rest next)
  | .alt a b, window, next => Re.fits a window next || Re.fits b window next
  | .star body, window, next => starFits (Re.fits body) (window.length + 1) window next
  | .group _ body, window, next => Re.fits body window next
  | .ahead _ _, window, next => next window
  | .behind _ _, window, next => next window
  | .boundary, window, next => next window

def Re.opens (re : Re) (window : List Char) : Bool :=
  re.fits alphabet ignoreCase window (fun _ => true)

/-- There is no match at a place. -/
def quietAt (re : Re) (before after : List Char) : Bool :=
  (matchAt alphabet ignoreCase re false { before := before, after := after }).isNone

def quietFrom (re : Re) : List Char → List Char → Bool
  | before, [] => quietAt alphabet ignoreCase re before []
  | before, [c] =>
    (!re.opens alphabet ignoreCase [c] || quietAt alphabet ignoreCase re before [c]) &&
      quietFrom re (c :: before) []
  | before, c :: d :: rest =>
    (!re.opens alphabet ignoreCase [c] || !re.opens alphabet ignoreCase [c, d] ||
        quietAt alphabet ignoreCase re before (c :: d :: rest)) &&
      quietFrom re (c :: before) (d :: rest)

def quiet (re : Re) (text : List Char) : Bool :=
  quietFrom alphabet ignoreCase re [] text

end Windows

/-! ## A window that does not fit -/

section Sound

variable {alphabet : Alphabet} {ignoreCase : Bool} {re : Re}

theorem starFits_of_parts {P : List Char → Prop} {body : List Char → (List Char → Bool) → Bool}
    (hbody : ∀ {w tail next}, P w → (∀ window, window <+: tail → next window = true) →
      ∀ window, window <+: w ++ tail → body window next = true) :
    ∀ {parts : List (List Char)} {tail : List Char} {next : List Char → Bool},
      (∀ part ∈ parts, P part) → (∀ window, window <+: tail → next window = true) →
        ∀ (rounds : Nat) (window : List Char), window <+: parts.flatten ++ tail →
          starFits body rounds window next = true := by
  intro parts tail next hparts hnext
  induction parts with
  | nil =>
    intro rounds window hwindow
    cases rounds with
    | zero => rfl
    | succ rounds =>
      rw [starFits, hnext window hwindow]
      rfl
  | cons part parts ih =>
    intro rounds window hwindow
    cases rounds with
    | zero => rfl
    | succ rounds =>
      have hrest := ih (fun part hpart => hparts part (List.mem_cons_of_mem _ hpart)) rounds
      rw [List.flatten_cons, List.append_assoc] at hwindow
      rw [starFits, hbody (hparts part List.mem_cons_self) hrest window hwindow, Bool.or_true]

/-- What begins with a word fits the pattern of the word, through whatever window it is seen. -/
theorem fits_of_word (re : Re) :
    ∀ {w tail : List Char} {next : List Char → Bool}, re.Word alphabet ignoreCase w →
      (∀ window, window <+: tail → next window = true) →
        ∀ window, window <+: w ++ tail → re.fits alphabet ignoreCase window next = true := by
  induction re with
  | empty =>
    rintro w tail next rfl hnext window hwindow
    exact hnext window hwindow
  | one set =>
    rintro w tail next ⟨c, rfl, hset⟩ hnext window hwindow
    cases window with
    | nil => rfl
    | cons d rest =>
      obtain ⟨rfl, hrest⟩ := List.cons_prefix_cons.mp hwindow
      rw [Re.fits, hset, hnext rest hrest]
      rfl
  | seq a b iha ihb =>
    rintro w tail next ⟨u, v, rfl, hu, hv⟩ hnext window hwindow
    rw [List.append_assoc] at hwindow
    exact iha hu (fun rest hrest => ihb hv hnext rest hrest) window hwindow
  | alt a b iha ihb =>
    intro w tail next hword hnext window hwindow
    rw [Re.fits, Bool.or_eq_true]
    exact hword.imp (fun ha => iha ha hnext window hwindow) (fun hb => ihb hb hnext window hwindow)
  | star body ih =>
    rintro w tail next ⟨parts, rfl, hparts⟩ hnext window hwindow
    exact starFits_of_parts ih hparts hnext _ window hwindow
  | group n body ih =>
    intro w tail next hword hnext window hwindow
    exact ih hword hnext window hwindow
  | ahead positive body _ =>
    rintro w tail next rfl hnext window hwindow
    exact hnext window hwindow
  | behind positive body _ =>
    rintro w tail next rfl hnext window hwindow
    exact hnext window hwindow
  | boundary =>
    rintro w tail next rfl hnext window hwindow
    exact hnext window hwindow

theorem quietAt_of_window {before after window : List Char} (hwindow : window <+: after)
    (h : re.opens alphabet ignoreCase window = false) :
    quietAt alphabet ignoreCase re before after = true := by
  rw [quietAt, Option.isNone_iff_eq_none]
  by_contra hsome
  obtain ⟨m, hm⟩ := Option.ne_none_iff_exists'.mp hsome
  obtain ⟨hfirst, w, hgood, -⟩ := matchAt_good hm
  have hafter : after = w ++ m.last.after := by
    rw [← hgood.reads.after, hfirst]
  rw [hafter] at hwindow
  have hopens := fits_of_word re hgood.word (fun _ _ => rfl) window hwindow
  rw [Re.opens] at h
  rw [h] at hopens
  cases hopens

/-- No search finds anything in a quiet text. -/
theorem searchAfter_of_quiet {after before : List Char}
    (h : quietFrom alphabet ignoreCase re before after = true) :
    searchAfter alphabet ignoreCase re false before after = none := by
  have hstep : ∀ {c before rest}, quietAt alphabet ignoreCase re before (c :: rest) = true →
      searchAfter alphabet ignoreCase re false (c :: before) rest = none →
        searchAfter alphabet ignoreCase re false before (c :: rest) = none := by
    intro c before rest hat hrest
    rw [quietAt, Option.isNone_iff_eq_none] at hat
    rw [searchAfter, hat]
    exact hrest
  fun_induction quietFrom alphabet ignoreCase re before after with
  | case1 before => exact Option.isNone_iff_eq_none.mp h
  | case2 before c ih =>
    obtain ⟨hat, hrest⟩ := Bool.and_eq_true_iff.mp h
    apply hstep _ (ih hrest)
    rcases Bool.or_eq_true_iff.mp hat with hone | hat
    · exact quietAt_of_window List.prefix_rfl (Bool.not_eq_true' _ ▸ hone)
    · exact hat
  | case3 before c d rest ih =>
    obtain ⟨hat, hrest⟩ := Bool.and_eq_true_iff.mp h
    apply hstep _ (ih hrest)
    rcases Bool.or_eq_true_iff.mp hat with hwindow | hat
    · rcases Bool.or_eq_true_iff.mp hwindow with hone | htwo
      · exact quietAt_of_window ⟨d :: rest, rfl⟩ (Bool.not_eq_true' _ ▸ hone)
      · exact quietAt_of_window ⟨rest, rfl⟩ (Bool.not_eq_true' _ ▸ htwo)
    · exact hat

theorem finditer_of_quiet {text : List Char} (h : quiet alphabet ignoreCase re text = true) :
    finditer alphabet ignoreCase re text = [] := by
  rw [finditer, matchesAfter, Cursor.start, searchAfter_of_quiet h]

theorem sub_of_quiet {text : List Char} {replacement : Match → List Char}
    (h : quiet alphabet ignoreCase re text = true) :
    sub alphabet ignoreCase re replacement text = text := by
  rw [sub, finditer_of_quiet h]
  rfl

end Sound

/-! ## Evaluated texts -/

/-- A check of a text.  It is handed the characters by their numbers, so that equal characters are equal
terms and what is computed of one of them is computed once. -/
def forced : List Char → (List Char → Bool) → Bool
  | [], check => check []
  | c :: rest, check =>
    match c.toNat with
    | 0 => forced rest (fun text => check (c :: text))
    | n + 1 => forced rest (fun text => check (Char.ofNat (n + 1) :: text))

@[simp]
theorem forced_eq (text : List Char) (check : List Char → Bool) : forced text check = check text := by
  induction text generalizing check with
  | nil => rfl
  | cons c rest ih =>
    rw [forced]
    split
    · exact ih _
    · next n hn =>
        have hnumber : n + 1 = c.toNat := hn.symm
        rw [ih, hnumber, Char.ofNat_toNat]

end Library
end MoneyMachine
