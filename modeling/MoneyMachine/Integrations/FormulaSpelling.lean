import MoneyMachine.Integrations.Formulas

/-!
# FormulaSpelling — the reader of formulas inverts printing

A tree of legal calls and plain literals has many spellings: blanks may stand around every token.  The
reader accepts exactly these texts and gives the tree back.

* `Spells`             : a text is a spelling of a tree;
* `parse_sound`        : a text that is read spells its tree;
* `parse_complete`     : a spelling is read as its tree;
* `parse_iff_spelling` : the reader inverts printing.
-/

namespace MoneyMachine
namespace Integrations
namespace Formulas

open MoneyMachine.Domain
open MoneyMachine.Library

/-! ## Spellings -/

/-- Any amount of whitespace. -/
def Blank (text : Text) : Prop :=
  ∀ c ∈ text, isSpace c = true

/-- A function of the language, with as many arguments as it takes. -/
def LegalCall (name : Text) (count : Nat) : Prop :=
  (name ∈ atLeastTwo ∧ 2 ≤ count) ∨ (name ∉ atLeastTwo ∧ exactArity.lookup name = some count)

mutual

/-- The text is a spelling of the tree, without blanks around it. -/
inductive Spells : Node → Text → Prop
  | string (text : Text) (plain : ∀ c ∈ text, c ≠ '"' ∧ c ≠ '\\') :
      Spells (.literal text .string) ('"' :: (text ++ ['"']))
  | number (digits : Text) (hsome : digits ≠ []) (ascii : ∀ c ∈ digits, isAsciiDigit c = true) :
      Spells (.literal digits .number) digits
  | call (name : Text) (args : List Node) (blank inner : Text) (hblank : Blank blank)
      (legal : LegalCall name args.length) (hargs : SpellsArgs args inner) :
      Spells (.call name args) (name ++ (blank ++ '(' :: (inner ++ [')'])))

/-- What stands between the brackets of a call. -/
inductive SpellsArgs : List Node → Text → Prop
  | none (blank : Text) (hblank : Blank blank) : SpellsArgs [] blank
  | last (arg : Node) (before text behind : Text) (hbefore : Blank before) (harg : Spells arg text)
      (hbehind : Blank behind) : SpellsArgs [arg] (before ++ (text ++ behind))
  | cons (arg next : Node) (args : List Node) (before text behind rest : Text) (hbefore : Blank before)
      (harg : Spells arg text) (hbehind : Blank behind) (hrest : SpellsArgs (next :: args) rest) :
      SpellsArgs (arg :: next :: args) (before ++ (text ++ (behind ++ ',' :: rest)))

end

/-- The text is a spelling of the tree. -/
def Spelling (node : Node) (text : Text) : Prop :=
  ∃ before inner behind, text = before ++ (inner ++ behind) ∧ Blank before ∧ Spells node inner ∧
    Blank behind

/-! ## What is read -/

section Sound

variable {unicode : Unicode}

theorem skip_split (rest : Text) : ∃ blank, Blank blank ∧ rest = blank ++ skip rest :=
  ⟨rest.takeWhile isSpace, fun _ hc => List.mem_takeWhile_imp hc, List.takeWhile_append_dropWhile.symm⟩

theorem blank_of_skip_nil {rest : Text} (h : skip rest = []) : Blank rest := by
  obtain ⟨blank, hblank, hrest⟩ := skip_split rest
  rw [h, List.append_nil] at hrest
  exact hrest ▸ hblank

theorem legalCall_of_checkArity {name : Text} {count : Nat} (h : checkArity unicode name count = .ok ()) :
    LegalCall name count := by
  unfold checkArity at h
  split_ifs at h with hmany hfew
  · exact Or.inl ⟨hmany, Nat.le_of_not_lt hfew⟩
  · split at h
    · cases h
    · next expected hexpected =>
        split_ifs at h with hcount
        exact Or.inr ⟨hmany, by rw [hexpected, not_not.mp hcount]⟩

theorem parseString_sound {rest left : Text} {node : Node} :
    ∀ {text : Text}, parseString text rest = .ok (node, left) →
      ∃ more, rest = more ++ '"' :: left ∧ node = .literal (text ++ more) .string ∧
        ∀ c ∈ more, c ≠ '"' ∧ c ≠ '\\' := by
  induction rest with
  | nil =>
    intro text h
    cases h
  | cons c rest ih =>
    intro text h
    unfold parseString at h
    split_ifs at h with hquote hescape
    · cases h
      exact ⟨[], by rw [hquote]; rfl, by rw [List.append_nil], by simp⟩
    · cases h
    · obtain ⟨more, rfl, rfl, hplain⟩ := ih h
      refine ⟨c :: more, rfl, by rw [List.append_assoc]; rfl, ?_⟩
      intro d hd
      rcases List.mem_cons.mp hd with rfl | hd
      · exact ⟨hquote, hescape⟩
      · exact hplain d hd

/-- An expression that is read, of any reader of expressions. -/
def ReadsSpelling (expr : Text → Except SchemaError (Node × Text)) : Prop :=
  ∀ rest node left, expr rest = .ok (node, left) →
    ∃ before text, rest = before ++ (text ++ left) ∧ Blank before ∧ Spells node text

theorem parseArgs_sound {expr : Text → Except SchemaError (Node × Text)} (hexpr : ReadsSpelling expr)
    (rounds : Nat) : ∀ {rest left : Text} {args : List Node}, parseArgs expr rounds rest = .ok (args, left) →
      args ≠ [] ∧ ∃ inner, rest = inner ++ left ∧ SpellsArgs args inner := by
  induction rounds with
  | zero =>
    intro rest left args h
    cases h
  | succ rounds ih =>
    intro rest left args h
    unfold parseArgs at h
    obtain ⟨⟨arg, afterArg⟩, hread, hafter⟩ := bind_eq_ok.mp h
    obtain ⟨before, text, rfl, hbefore, hspells⟩ := hexpr _ _ _ hread
    obtain ⟨blank, hblank, hsplit⟩ := skip_split afterArg
    dsimp only at hafter
    split at hafter
    · next later hskip =>
        obtain ⟨⟨others, final⟩, hothers, hfinal⟩ := bind_eq_ok.mp hafter
        cases hfinal
        obtain ⟨hne, inner, rfl, hinner⟩ := ih hothers
        rw [hskip] at hsplit
        cases others with
        | nil => exact absurd rfl hne
        | cons next others =>
          refine ⟨List.cons_ne_nil _ _, before ++ (text ++ (blank ++ ',' :: inner)), ?_,
            .cons _ _ _ _ _ _ _ hbefore hspells hblank hinner⟩
          rw [hsplit]
          simp only [List.append_assoc, List.cons_append]
    · cases hafter
      refine ⟨List.cons_ne_nil _ _, before ++ (text ++ blank), ?_, .last _ _ _ _ hbefore hspells hblank⟩
      conv_lhs => rw [hsplit]
      simp only [List.append_assoc]

theorem parseArguments_sound {expr : Text → Except SchemaError (Node × Text)}
    (hexpr : ReadsSpelling expr) {rounds : Nat} {rest left : Text} {args : List Node}
    (h : parseArguments expr rounds rest = .ok (args, left)) :
    ∃ inner, rest = inner ++ left ∧ SpellsArgs args inner := by
  unfold parseArguments at h
  split at h
  · cases h
    exact ⟨[], rfl, .none [] (by simp [Blank])⟩
  · exact (parseArgs_sound hexpr rounds h).2

theorem Blank.append {text more : Text} (h : Blank text) (hmore : Blank more) : Blank (text ++ more) :=
  fun c hc => (List.mem_append.mp hc).elim (h c) (hmore c)

/-- Blanks may be added behind the arguments. -/
theorem SpellsArgs.append_blank {blank : Text} (hblank : Blank blank) :
    ∀ {args : List Node} {inner : Text}, SpellsArgs args inner → SpellsArgs args (inner ++ blank)
  | _, _, .none own hown => .none (own ++ blank) (hown.append hblank)
  | _, _, .last arg before text behind hbefore harg hbehind => by
      rw [List.append_assoc, List.append_assoc]
      exact .last arg before text (behind ++ blank) hbefore harg (hbehind.append hblank)
  | _, _, .cons arg next args before text behind rest hbefore harg hbehind hrest => by
      simp only [List.append_assoc, List.cons_append]
      exact .cons arg next args before text behind (rest ++ blank) hbefore harg hbehind
        (append_blank hblank hrest)

theorem parseCall_sound {expr : Text → Except SchemaError (Node × Text)} (hexpr : ReadsSpelling expr)
    {rounds : Nat} {rest left : Text} {node : Node}
    (h : parseCall unicode expr rounds rest = .ok (node, left)) :
    ∃ text, rest = text ++ left ∧ Spells node text := by
  unfold parseCall at h
  split at h
  · next opened hopened =>
      obtain ⟨⟨args, afterArgs⟩, hargs, hafter⟩ := bind_eq_ok.mp h
      obtain ⟨inner, rfl, hinner⟩ := parseArguments_sound hexpr hargs
      dsimp only at hafter
      split at hafter
      · next closed hclosed =>
          obtain ⟨u, harity, hdone⟩ := bind_eq_ok.mp hafter
          cases hdone
          obtain ⟨blank, hblank, hsplit⟩ := skip_split (rest.dropWhile (isWord unicode))
          obtain ⟨blank', hblank', hsplit'⟩ := skip_split afterArgs
          rw [hopened] at hsplit
          rw [hclosed] at hsplit'
          refine ⟨_, ?_, .call _ args blank (inner ++ blank') hblank (legalCall_of_checkArity harity)
            (SpellsArgs.append_blank hblank' hinner)⟩
          calc rest = rest.takeWhile (isWord unicode) ++ rest.dropWhile (isWord unicode) :=
                List.takeWhile_append_dropWhile.symm
            _ = rest.takeWhile (isWord unicode) ++ (blank ++ '(' :: (inner ++ (blank' ++ ')' :: left))) := by
                rw [hsplit, hsplit']
            _ = _ := by simp only [List.append_assoc, List.cons_append, List.nil_append]
      · cases hafter
  · cases h

theorem parseExpr_sound (fuel : Nat) : ReadsSpelling (parseExpr unicode fuel) := by
  induction fuel with
  | zero =>
    intro rest node left h
    cases h
  | succ fuel ih =>
    intro rest node left h
    obtain ⟨before, hbefore, hrest⟩ := skip_split rest
    unfold parseExpr at h
    split at h
    · cases h
    · next c later hskip =>
        rw [hskip] at hrest
        split_ifs at h with hquote hdigit hword
        · obtain ⟨more, rfl, rfl, hplain⟩ := parseString_sound h
          refine ⟨before, _, ?_, hbefore, .string more hplain⟩
          rw [hrest, hquote]
          simp only [List.append_assoc, List.cons_append, List.nil_append]
        · cases h
          refine ⟨before, _, ?_, hbefore, .number _ ?_ (fun d hd => List.mem_takeWhile_imp hd)⟩
          · rw [hrest, List.takeWhile_append_dropWhile]
          · rw [List.takeWhile_cons_of_pos hdigit]
            exact List.cons_ne_nil _ _
        · obtain ⟨text, htext, hspells⟩ := parseCall_sound ih h
          exact ⟨before, text, by rw [hrest, htext], hbefore, hspells⟩
        · cases h

/-- A text that is read spells its tree. -/
theorem parse_sound {text : Text} {node : Node} (h : parse unicode text = .ok node) :
    Spelling node text := by
  unfold parse at h
  obtain ⟨⟨read, left⟩, hread, hend⟩ := bind_eq_ok.mp h
  dsimp only at hend
  split_ifs at hend with hleft
  · cases hend
  · cases hend
    obtain ⟨before, inner, rfl, hbefore, hspells⟩ := parseExpr_sound _ _ _ _ hread
    exact ⟨before, inner, left, rfl, hbefore, hspells, blank_of_skip_nil (not_not.mp hleft)⟩

end Sound

/-! ## What is accepted -/

/-- What the tables say of ASCII characters and of whitespace. -/
structure WordTables (unicode : Unicode) : Prop where
  letter : ∀ c : Char, c.toNat < 128 → unicode.isLetter c = c.isAlpha
  alnum : ∀ c : Char, c.toNat < 128 → unicode.isAlnum c = c.isAlphanum
  blank : ∀ c : Char, isSpace c = true → unicode.isAlnum c = false

section Complete

theorem skip_append {blank : Text} (h : Blank blank) (rest : Text) : skip (blank ++ rest) = skip rest :=
  List.dropWhile_append_of_pos h

theorem skip_cons {c : Char} (h : isSpace c = false) (rest : Text) : skip (c :: rest) = c :: rest :=
  List.dropWhile_cons_of_neg (by rw [h]; exact Bool.false_ne_true)

theorem digit_range {c : Char} (h : isAsciiDigit c = true) : 48 ≤ c.toNat ∧ c.toNat ≤ 57 := by
  simpa [isAsciiDigit, Char.le_def, UInt32.le_iff_toNat_le] using h

theorem alpha_range {c : Char} (h : c.isAlpha = true) :
    (65 ≤ c.toNat ∧ c.toNat ≤ 90) ∨ (97 ≤ c.toNat ∧ c.toNat ≤ 122) := by
  simpa [isAlpha_eq, isUpper_eq, isLower_eq, Char.le_def, UInt32.le_iff_toNat_le] using h

theorem isSpace_of_range {c : Char} (h : 32 < c.toNat ∧ c.toNat < 128) : isSpace c = false := by
  simp only [isSpace, isWhiteSpace, Bool.or_eq_false_iff, decide_eq_false_iff_not]
  omega

theorem ne_of_toNat {c d : Char} (h : c.toNat ≠ d.toNat) : c ≠ d := by
  rintro rfl
  exact h rfl

theorem isAsciiDigit_eq_false {c : Char} (h : c.toNat < 48 ∨ 57 < c.toNat) : isAsciiDigit c = false := by
  by_contra hdigit
  have hrange := digit_range (Bool.not_eq_false _ ▸ hdigit)
  omega

/-- The names of the functions. -/
def functionNames : List Text := exactArity.map Prod.fst ++ atLeastTwo

theorem functionNames_alpha :
    functionNames.all (fun name => !name.isEmpty && name.all Char.isAlpha) = true := by
  decide

theorem LegalCall.cons {name : Text} {count : Nat} (h : LegalCall name count) :
    ∃ c rest, name = c :: rest ∧ ∀ d ∈ name, d.isAlpha = true := by
  have hmem : name ∈ functionNames := by
    rcases h with ⟨hmany, -⟩ | ⟨-, hexact⟩
    · exact List.mem_append_right _ hmany
    · obtain ⟨front, behind, hlist, -⟩ := List.lookup_eq_some_iff.mp hexact
      apply List.mem_append_left
      rw [hlist, List.map_append]
      exact List.mem_append_right _ List.mem_cons_self
  have hname := List.all_eq_true.mp functionNames_alpha name hmem
  rw [Bool.and_eq_true, List.all_eq_true] at hname
  cases name with
  | nil => exact absurd hname.1 (by decide)
  | cons c rest => exact ⟨c, rest, rfl, hname.2⟩

theorem checkArity_of_legal {unicode : Unicode} {name : Text} {count : Nat} (h : LegalCall name count) :
    checkArity unicode name count = .ok () := by
  unfold checkArity
  rcases h with ⟨hmany, hcount⟩ | ⟨hmany, hexact⟩
  · rw [if_pos hmany, if_neg (Nat.not_lt.mpr hcount)]
  · rw [if_neg hmany, hexact]
    simp

theorem parseString_complete {more : Text} (hplain : ∀ c ∈ more, c ≠ '"' ∧ c ≠ '\\') (left : Text) :
    ∀ text : Text, parseString text (more ++ '"' :: left) =
      .ok (.literal (text ++ more) .string, left) := by
  induction more with
  | nil =>
    intro text
    rw [List.nil_append, parseString, if_pos rfl, List.append_nil]
  | cons c more ih =>
    intro text
    obtain ⟨hquote, hescape⟩ := hplain c List.mem_cons_self
    rw [List.cons_append, parseString, if_neg hquote, if_neg hescape,
      ih (fun d hd => hplain d (List.mem_cons_of_mem c hd)), List.append_assoc]
    rfl

/-- No number goes on here. -/
def Stops (tail : Text) : Prop :=
  ∀ c, tail.head? = some c → isAsciiDigit c = false

theorem stops_cons {c : Char} (h : isAsciiDigit c = false) (tail : Text) : Stops (c :: tail) := by
  rintro d ⟨⟩
  exact h

theorem stops_blank {blank tail : Text} (hblank : Blank blank) (htail : Stops tail) :
    Stops (blank ++ tail) := by
  cases blank with
  | nil => exact htail
  | cons c blank =>
    apply stops_cons
    by_contra hdigit
    have hrange := digit_range (Bool.not_eq_false _ ▸ hdigit)
    have hspace := hblank c List.mem_cons_self
    rw [isSpace_of_range ⟨by omega, by omega⟩] at hspace
    cases hspace

theorem parseNumber_complete {digits tail : Text} (hdigits : ∀ c ∈ digits, isAsciiDigit c = true)
    (htail : Stops tail) : parseNumber (digits ++ tail) = (.literal digits .number, tail) := by
  have hstop : tail.takeWhile isAsciiDigit = [] ∧ tail.dropWhile isAsciiDigit = tail := by
    cases tail with
    | nil => exact ⟨rfl, rfl⟩
    | cons c tail =>
      have hc : ¬ isAsciiDigit c = true := by rw [htail c rfl]; exact Bool.false_ne_true
      exact ⟨List.takeWhile_cons_of_neg hc, List.dropWhile_cons_of_neg hc⟩
  rw [parseNumber, List.takeWhile_append_of_pos hdigits, List.dropWhile_append_of_pos hdigits, hstop.1,
    hstop.2, List.append_nil]

/-- How a spelling begins. -/
theorem Spells.head {node : Node} {text : Text} (h : Spells node text) :
    ∃ c later, text = c :: later ∧ isSpace c = false ∧ c ≠ ')' := by
  cases h with
  | string inner plain => exact ⟨_, _, rfl, by decide, by decide⟩
  | number digits hsome ascii =>
    cases text with
    | nil => exact absurd rfl hsome
    | cons c later =>
      have hrange := digit_range (ascii c List.mem_cons_self)
      exact ⟨c, later, rfl, isSpace_of_range ⟨by omega, by omega⟩,
        ne_of_toNat (by have : (')' : Char).toNat = 41 := rfl; omega)⟩
  | call name args blank inner hblank legal hargs =>
    obtain ⟨c, rest, rfl, halpha⟩ := legal.cons
    have hrange := alpha_range (halpha c List.mem_cons_self)
    exact ⟨c, _, rfl, isSpace_of_range ⟨by omega, by omega⟩,
      ne_of_toNat (by have : (')' : Char).toNat = 41 := rfl; omega)⟩

variable {unicode : Unicode}

/-- A call is read, where its arguments are. -/
theorem parseCall_complete (htables : WordTables unicode) {expr : Text → Except SchemaError (Node × Text)}
    {rounds : Nat} {name blank opened left tail : Text} {args : List Node} (hblank : Blank blank)
    (legal : LegalCall name args.length)
    (hargs : parseArguments expr rounds opened = .ok (args, left)) (hleft : skip left = ')' :: tail) :
    parseCall unicode expr rounds (name ++ (blank ++ '(' :: opened)) = .ok (.call name args, tail) := by
  obtain ⟨-, -, -, halpha⟩ := legal.cons
  have hname : ∀ c ∈ name, isWord unicode c = true := by
    intro c hc
    have hrange := alpha_range (halpha c hc)
    rw [isWord, htables.alnum c (by omega), Char.isAlphanum, halpha c hc]
    rfl
  have hstop : ∀ rest, (blank ++ '(' :: rest).head?.any (isWord unicode) = false := by
    intro rest
    cases blank with
    | nil =>
      show (unicode.isAlnum '(' || decide ('(' = '_')) = false
      rw [htables.alnum '(' (by decide)]
      rfl
    | cons c blank =>
      have hspace := hblank c List.mem_cons_self
      have hunderscore : c ≠ '_' := by
        rintro rfl
        cases hspace
      show (unicode.isAlnum c || decide (c = '_')) = false
      rw [htables.blank c hspace, decide_eq_false hunderscore]
      rfl
  have hcut : (blank ++ '(' :: opened).takeWhile (isWord unicode) = [] ∧
      (blank ++ '(' :: opened).dropWhile (isWord unicode) = blank ++ '(' :: opened := by
    have hhead := hstop opened
    cases htext : blank ++ '(' :: opened with
    | nil => exact ⟨rfl, rfl⟩
    | cons c rest =>
      rw [htext] at hhead
      have hc : ¬ isWord unicode c = true := by
        rw [show isWord unicode c = false from hhead]
        exact Bool.false_ne_true
      exact ⟨List.takeWhile_cons_of_neg hc, List.dropWhile_cons_of_neg hc⟩
  unfold parseCall
  rw [List.takeWhile_append_of_pos hname, List.dropWhile_append_of_pos hname, hcut.1, hcut.2,
    List.append_nil, skip_append hblank, skip_cons (by decide)]
  simp only [hargs, bind, Except.bind, hleft, checkArity_of_legal legal]

theorem parseArguments_of_some {expr : Text → Except SchemaError (Node × Text)} {rounds : Nat}
    {inner tail : Text} {args : List Node} (h : SpellsArgs args inner) (hne : args ≠ [])
    (hargs : parseArgs expr rounds (inner ++ ')' :: tail) = .ok (args, ')' :: tail)) :
    parseArguments expr rounds (inner ++ ')' :: tail) = .ok (args, ')' :: tail) := by
  have hhead : (skip (inner ++ ')' :: tail)).head? ≠ some ')' := by
    have hfirst : ∀ {arg : Node} {before text rest : Text}, Blank before → Spells arg text →
        (skip (before ++ (text ++ rest))).head? ≠ some ')' := by
      intro arg before text rest hbefore hspells
      obtain ⟨c, later, rfl, hspace, hbracket⟩ := hspells.head
      rw [skip_append hbefore, List.cons_append, skip_cons hspace]
      intro hsome
      exact hbracket (Option.some.inj hsome)
    cases h with
    | none blank hblank => exact absurd rfl hne
    | last arg before text behind hbefore harg hbehind =>
      rw [List.append_assoc, List.append_assoc]
      exact hfirst hbefore harg
    | cons arg next args before text behind rest hbefore harg hbehind hrest =>
      rw [List.append_assoc, List.append_assoc]
      exact hfirst hbefore harg
  rw [parseArguments, if_neg hhead, hargs]

mutual

/-- A spelling is read, behind blanks and before anything that is no digit. -/
theorem parseExpr_complete (htables : WordTables unicode) :
    ∀ {node : Node} {text : Text}, Spells node text → ∀ (fuel : Nat) (before tail : Text), Blank before →
      Stops tail → (before ++ (text ++ tail)).length < fuel →
        parseExpr unicode fuel (before ++ (text ++ tail)) = .ok (node, tail)
  | _, _, _, 0, _, _, _, _, hfuel => absurd hfuel (Nat.not_lt_zero _)
  | _, _, .string text plain, fuel + 1, before, tail, hbefore, _, _ => by
      rw [parseExpr, skip_append hbefore, List.cons_append, List.append_assoc, skip_cons (by decide)]
      simp only [if_true]
      exact parseString_complete plain tail []
  | _, _, .number digits hsome ascii, fuel + 1, before, tail, hbefore, htail, _ => by
      have hnumber := parseNumber_complete ascii htail
      cases digits with
      | nil => exact absurd rfl hsome
      | cons c digits =>
        have hrange := digit_range (ascii c List.mem_cons_self)
        have hquote : c ≠ '"' := ne_of_toNat (by have : ('"' : Char).toNat = 34 := rfl; omega)
        rw [parseExpr, skip_append hbefore, List.cons_append,
          skip_cons (isSpace_of_range ⟨by omega, by omega⟩)]
        simp only [if_neg hquote, ascii c List.mem_cons_self, if_true]
        exact congrArg Except.ok hnumber
  | _, _, .call name args blank inner hblank legal hargs, fuel + 1, before, tail, hbefore, _, hfuel => by
      obtain ⟨c, rest, rfl, halpha⟩ := legal.cons
      have hrange := alpha_range (halpha c List.mem_cons_self)
      have hquote : c ≠ '"' := ne_of_toNat (by have : ('"' : Char).toNat = 34 := rfl; omega)
      have hdigit : isAsciiDigit c = false := isAsciiDigit_eq_false (by omega)
      have hletter : unicode.isLetter c = true := by
        rw [htables.letter c (by omega)]
        exact halpha c List.mem_cons_self
      -- What is behind the bracket is shorter by the name at least.
      have hinner : (inner ++ ')' :: tail).length < fuel := by
        simp only [List.length_append, List.length_cons] at hfuel ⊢
        omega
      have hread : ∃ left, parseArguments (parseExpr unicode fuel) (fuel + 1) (inner ++ ')' :: tail) =
          .ok (args, left) ∧ skip left = ')' :: tail := by
        cases hlist : args with
        | nil =>
          rw [hlist] at hargs
          cases hargs with
          | none _ hinnerBlank =>
            have hskip : skip (inner ++ ')' :: tail) = ')' :: tail := by
              rw [skip_append hinnerBlank, skip_cons (by decide)]
            refine ⟨_, ?_, hskip⟩
            rw [parseArguments, hskip]
            rfl
        | cons arg others =>
          have hne : args ≠ [] := by
            rw [hlist]
            exact List.cons_ne_nil arg others
          refine ⟨_, ?_, skip_cons (by decide) tail⟩
          rw [← hlist]
          exact parseArguments_of_some hargs hne
            (parseArgs_complete htables hargs hne fuel (fuel + 1) tail hinner (Nat.lt_succ_of_lt hinner))
      obtain ⟨left, hread, hleft⟩ := hread
      have hcall := parseCall_complete htables hblank legal hread hleft
      have htext : (c :: rest) ++ (blank ++ '(' :: (inner ++ [')'])) ++ tail =
          (c :: rest) ++ (blank ++ '(' :: (inner ++ ')' :: tail)) := by
        simp only [List.append_assoc, List.cons_append, List.nil_append]
      rw [htext, parseExpr, skip_append hbefore, List.cons_append,
        skip_cons (isSpace_of_range ⟨by omega, by omega⟩)]
      simp only [if_neg hquote, hdigit, Bool.false_eq_true, if_false, hletter, Bool.true_or, if_true]
      exact hcall

theorem parseArgs_complete (htables : WordTables unicode) :
    ∀ {args : List Node} {inner : Text}, SpellsArgs args inner → args ≠ [] →
      ∀ (fuel rounds : Nat) (tail : Text), (inner ++ ')' :: tail).length < fuel →
        (inner ++ ')' :: tail).length < rounds →
          parseArgs (parseExpr unicode fuel) rounds (inner ++ ')' :: tail) = .ok (args, ')' :: tail)
  | _, _, .none _ _, hne, _, _, _, _, _ => absurd rfl hne
  | _, _, _, _, _, 0, _, _, hrounds => absurd hrounds (Nat.not_lt_zero _)
  | _, _, .last arg before text behind hbefore harg hbehind, _, fuel, rounds + 1, tail, hfuel, _ => by
      rw [List.append_assoc, List.append_assoc] at hfuel ⊢
      have hexpr := parseExpr_complete htables harg fuel before (behind ++ ')' :: tail) hbefore
        (stops_blank hbehind (stops_cons (by decide) tail)) hfuel
      rw [parseArgs, hexpr]
      simp only [bind, Except.bind, skip_append hbehind, skip_cons (show isSpace ')' = false by decide)]
      rfl
  | _, _, .cons arg next args before text behind rest hbefore harg hbehind hrest, _, fuel, rounds + 1, tail,
      hfuel, hrounds => by
      simp only [List.append_assoc, List.cons_append] at hfuel hrounds ⊢
      have hexpr := parseExpr_complete htables harg fuel before (behind ++ ',' :: (rest ++ ')' :: tail))
        hbefore (stops_blank hbehind (stops_cons (by decide) _)) hfuel
      have hshort : (rest ++ ')' :: tail).length < fuel ∧ (rest ++ ')' :: tail).length < rounds := by
        simp only [List.length_append, List.length_cons] at hfuel hrounds ⊢
        omega
      have hothers := parseArgs_complete htables hrest (List.cons_ne_nil _ _) fuel rounds tail hshort.1
        hshort.2
      rw [parseArgs, hexpr]
      simp only [bind, Except.bind, skip_append hbehind, skip_cons (show isSpace ',' = false by decide),
        hothers]

end

/-- A spelling is read as its tree. -/
theorem parse_complete (htables : WordTables unicode) {node : Node} {text : Text}
    (h : Spelling node text) : parse unicode text = .ok node := by
  obtain ⟨before, inner, behind, rfl, hbefore, hspells, hbehind⟩ := h
  have hstops : Stops behind := by
    have hend := @stops_blank behind [] hbehind (fun c hc => by cases hc)
    rwa [List.append_nil] at hend
  have hskip : skip behind = [] := by
    have hnil := skip_append hbehind []
    rwa [List.append_nil] at hnil
  have hread := parseExpr_complete htables hspells _ before behind hbefore hstops (Nat.lt_succ_self _)
  simp only [parse, hread, bind, Except.bind, hskip, ne_eq, not_true_eq_false, if_false]

/-- The reader inverts printing: it gives a tree exactly for the spellings of the tree. -/
theorem parse_iff_spelling (unicode : Unicode) (htables : WordTables unicode) (text : Text) (node : Node) :
    parse unicode text = .ok node ↔ Spelling node text :=
  ⟨parse_sound, parse_complete htables⟩

theorem wordTables_ascii : WordTables Unicode.ascii where
  letter := fun _ _ => rfl
  alnum := fun _ _ => rfl
  blank := by
    intro c hspace
    by_contra hword
    have halnum : c.isAlphanum = true := Bool.not_eq_false _ ▸ hword
    have hrange : (48 ≤ c.toNat ∧ c.toNat ≤ 57) ∨ (65 ≤ c.toNat ∧ c.toNat ≤ 90) ∨
        (97 ≤ c.toNat ∧ c.toNat ≤ 122) := by
      rcases Bool.or_eq_true_iff.mp halnum with halpha | hdigit
      · exact Or.inr (alpha_range halpha)
      · left
        simpa [Char.isDigit, UInt32.le_iff_toNat_le] using hdigit
    rw [isSpace_of_range ⟨by omega, by omega⟩] at hspace
    cases hspace

/-- Blanks around the tokens of `not(empty(prop("Due")))`. -/
theorem parse_iff_spelling_not :
    Spelling (.call (lit "not") [.call (lit "empty") [.call (lit "prop") [.literal (lit "Due") .string]]])
      (lit " not ( empty(prop( \"Due\" ) ) )\n") :=
  (parse_iff_spelling Unicode.ascii wordTables_ascii _ _).mp rfl

end Complete

end Formulas
end Integrations
end MoneyMachine
