import MoneyMachine.Integrations.DraftMarkers
import MoneyMachine.Library.Lines

/-!
# DraftKeys — the texts that the ledger keys are hashed from

The hashed text has one line for each field, and four of the fields may break lines themselves.  A text
is cut back into fields in one way only, unless a line inside of a field reads like the next field.

* `SpecLines.cases`            : two cuts of the same lines;
* `fixture_hash_separates_iff` : which specs share their text with no other one.
-/

namespace MoneyMachine
namespace Integrations

open MoneyMachine.Domain
open MoneyMachine.Library

/-! ## Lines of a spec -/

/-- A line that names its field. -/
def keyLine (key : String) (value : List Char) : List Char :=
  key.toList ++ value

theorem keyLine_ne {key key' : String}
    (h : key.toList.isPrefixOf key'.toList = false ∧ key'.toList.isPrefixOf key.toList = false)
    (value value' : List Char) : keyLine key value ≠ keyLine key' value' := by
  intro heq
  have hkey : key.toList <+: keyLine key value := List.prefix_append ..
  have hkey' : key'.toList <+: keyLine key value := heq ▸ List.prefix_append ..
  rcases List.prefix_or_prefix_of_prefix hkey hkey' with hle | hle
  · rw [← List.isPrefixOf_iff_prefix, h.1] at hle
    cases hle
  · rw [← List.isPrefixOf_iff_prefix, h.2] at hle
    cases hle

theorem keyLine_injective {key : String} {value value' : List Char}
    (h : keyLine key value = keyLine key value') : value = value' :=
  List.append_cancel_left h

/-- The first lines of the fields that may break lines, and what follows them. -/
structure SpecLines where
  description : List Char
  descriptionRest : List (List Char)
  price : List Char
  priceRest : List (List Char)
  quantity : List Char
  whoMade : List Char
  whoMadeRest : List (List Char)
  whenMade : List Char
  whenMadeRest : List (List Char)

namespace SpecLines

/-- From the price on. -/
def fromPrice (lines : SpecLines) : List (List Char) :=
  keyLine "price=" lines.price :: (lines.priceRest ++
    keyLine "quantity=" lines.quantity :: keyLine "who_made=" lines.whoMade :: (lines.whoMadeRest ++
      keyLine "when_made=" lines.whenMade :: lines.whenMadeRest))

def all (lines : SpecLines) : List (List Char) :=
  keyLine "description=" lines.description :: (lines.descriptionRest ++ lines.fromPrice)

/-- A line behind the quantity that reads like a field. -/
def Mimics (lines : SpecLines) (quantity : List Char) : Prop :=
  (∃ before value behind, lines.whoMadeRest =
      before ++ keyLine "quantity=" quantity :: keyLine "who_made=" value :: behind) ∨
    (∃ before value behind, lines.whoMadeRest = before ++ keyLine "when_made=" value :: behind) ∨
      ∃ before value behind, lines.whenMadeRest = before ++ keyLine "when_made=" value :: behind

variable {lines lines' : SpecLines}

/-- Behind the quantity there is no other quantity, unless a field mimics one. -/
theorem mimics_of_quantity {between : List (List Char)}
    (h : keyLine "who_made=" lines.whoMade :: (lines.whoMadeRest ++
        keyLine "when_made=" lines.whenMade :: lines.whenMadeRest) =
      between ++ keyLine "quantity=" lines'.quantity :: keyLine "who_made=" lines'.whoMade ::
        (lines'.whoMadeRest ++ keyLine "when_made=" lines'.whenMade :: lines'.whenMadeRest)) :
    lines.Mimics lines'.quantity := by
  cases between with
  | nil => exact absurd (List.cons.inj h).1 (keyLine_ne (by decide) _ _)
  | cons first between =>
    have hrest := (List.cons.inj h).2
    rcases append_cons_cases hrest with ⟨-, hsame, -⟩ | ⟨more, -, hbehind⟩ | ⟨more, hwho, hbehind⟩
    · exact absurd hsame (keyLine_ne (by decide) _ _)
    · -- It stands in `when_made`, and so does what follows it.
      exact Or.inr (Or.inr ⟨more ++ keyLine "quantity=" lines'.quantity ::
        keyLine "who_made=" lines'.whoMade :: lines'.whoMadeRest, _, _, by simpa using hbehind⟩)
    · cases more with
      | nil => exact absurd (List.cons.inj hbehind).1 (keyLine_ne (by decide) _ _)
      | cons second more =>
        obtain ⟨rfl, -⟩ := List.cons.inj hbehind
        exact Or.inl ⟨_, _, _, hwho⟩

/-- A line inside of a field that reads like another field, and leaves fields that are admitted. -/
inductive Ambiguous (lines lines' : SpecLines) : Prop
  | description (before : List (List Char)) (value : List Char) (behind : List (List Char))
      (mimic : lines.descriptionRest = before ++ keyLine "price=" value :: behind)
  | price (before : List (List Char)) (value : List Char) (behind : List (List Char))
      (mimic : lines.priceRest = before ++ keyLine "price=" value :: behind)
      (some : value ≠ [] ∨ behind ≠ [])
      (same : lines'.description = lines.description ∧ lines'.descriptionRest =
        lines.descriptionRest ++ keyLine "price=" lines.price :: before)
  | quantity (value : List Char) (behind : List (List Char))
      (mimic : lines.priceRest = lines'.priceRest ++ keyLine "quantity=" lines'.quantity ::
        keyLine "who_made=" value :: behind)
      (same : lines'.price = lines.price)
  | behind (mimic : lines.Mimics lines'.quantity)

theorem eq_of_fromPrice {first : List Char}
    (hdescription : lines'.description = lines.description ∧
      lines'.descriptionRest = lines.descriptionRest)
    (hprice : lines'.price = lines.price)
    (h : first :: (lines.priceRest ++
        keyLine "quantity=" lines.quantity :: keyLine "who_made=" lines.whoMade ::
          (lines.whoMadeRest ++ keyLine "when_made=" lines.whenMade :: lines.whenMadeRest)) =
      first :: (lines'.priceRest ++
        keyLine "quantity=" lines'.quantity :: keyLine "who_made=" lines'.whoMade ::
          (lines'.whoMadeRest ++ keyLine "when_made=" lines'.whenMade :: lines'.whenMadeRest))) :
    lines = lines' ∨ Ambiguous lines lines' := by
  rcases append_cons_cases (List.cons.inj h).2 with ⟨hpriceRest, hquantity, hbehind⟩ |
      ⟨between, -, hbehind⟩ | ⟨between, hpriceRest, hbehind⟩
  · obtain ⟨hwho, hrest⟩ := List.cons.inj hbehind
    rcases append_cons_cases hrest with ⟨hwhoRest, hwhen, hwhenRest⟩ | ⟨more, -, hmore⟩ |
        ⟨more, hmore, -⟩
    · left
      obtain ⟨hd, hds⟩ := hdescription
      cases lines
      cases lines'
      simp only [mk.injEq]
      exact ⟨hd.symm, hds.symm, hprice.symm, hpriceRest, keyLine_injective hquantity,
        keyLine_injective hwho, hwhoRest, keyLine_injective hwhen, hwhenRest⟩
    · exact Or.inr (.behind (Or.inr (Or.inr ⟨_, _, _, hmore⟩)))
    · exact Or.inr (.behind (Or.inr (Or.inl ⟨_, _, _, hmore⟩)))
  · exact Or.inr (.behind (mimics_of_quantity hbehind))
  · cases between with
    | nil => exact absurd (List.cons.inj hbehind).1 (keyLine_ne (by decide) _ _)
    | cons second between =>
      obtain ⟨rfl, -⟩ := List.cons.inj hbehind
      exact Or.inr (.quantity _ _ hpriceRest hprice)

/-- Two cuts of the same lines are the same, or a line inside of a field reads like another field. -/
theorem cases (hsome : lines'.price ≠ [] ∨ lines'.priceRest ≠ []) (h : lines.all = lines'.all) :
    lines = lines' ∨ Ambiguous lines lines' := by
  obtain ⟨hfirst, hrest⟩ := List.cons.inj h
  have hfirst' := (keyLine_injective hfirst).symm
  rcases append_cons_cases hrest with ⟨hdescription, hprice, hbehind⟩ |
      ⟨between, hdescription, hbehind⟩ | ⟨between, hdescription, -⟩
  · exact eq_of_fromPrice ⟨hfirst', hdescription.symm⟩ (keyLine_injective hprice).symm
      (congrArg (List.cons []) hbehind)
  · -- The other description is longer: its price is a line behind the price.
    rcases append_cons_cases hbehind with ⟨-, hsame, -⟩ | ⟨more, -, hmore⟩ | ⟨more, hmore, hfew⟩
    · exact absurd hsame (keyLine_ne (by decide) _ _)
    · exact Or.inr (.behind (@mimics_of_quantity _ _
        (more ++ keyLine "price=" lines'.price :: lines'.priceRest) (by simpa using hmore)))
    · by_cases hnone : lines'.price = [] ∧ more = []
      · obtain ⟨hprice, rfl⟩ := hnone
        cases hpriceRest : lines'.priceRest with
        | nil => exact absurd hsome (by simp [hprice, hpriceRest])
        | cons second priceRest =>
          rw [hpriceRest] at hfew
          obtain ⟨rfl, hlater⟩ := List.cons.inj hfew
          exact Or.inr (.behind (mimics_of_quantity hlater.symm))
      · exact Or.inr (.price _ _ _ hmore (not_and_or.mp hnone) ⟨hfirst', hdescription⟩)
  · exact Or.inr (.description _ _ _ hdescription)

end SpecLines

/-! ## The hashed text -/

section Text

theorem fixtureHashText_eq (spec : DraftSpec) :
    fixtureHashText spec =
      "product_id=" ++ (uuidStr spec.productId ++ ("\n" ++ ("spec_version=" ++
        (toString spec.specVersion ++ ("\n" ++ ("shop_id=" ++ (toString spec.shopId ++ ("\n" ++
          ("title=" ++ (spec.title ++ ("\n" ++ ("description=" ++ (spec.description ++ ("\n" ++
            ("price=" ++ (spec.price ++ ("\n" ++ ("quantity=" ++ (toString spec.quantity ++ ("\n" ++
              ("who_made=" ++ (spec.whoMade ++ ("\n" ++ ("when_made=" ++ (spec.whenMade ++ ("\n" ++
                ("taxonomy_id=" ++ toString spec.taxonomyId))))))))))))))))))))))))))) := by
  simp only [fixtureHashText, String.intercalate_cons_cons, String.intercalate_singleton,
    String.append_assoc]

/-- The lines of a text. -/
def linesOf (text : String) : List (List Char) :=
  text.toList.splitOn '\n'

/-- A text of some lines. -/
def ofLines (lines : List (List Char)) : String :=
  String.ofList (['\n'].intercalate lines)

theorem ofLines_linesOf (text : String) : ofLines (linesOf text) = text := by
  rw [ofLines, linesOf, List.intercalate_splitOn, String.ofList_toList]

theorem exists_linesOf (text : String) : ∃ first rest, linesOf text = first :: rest :=
  exists_splitOn_eq_cons '\n' text.toList

theorem ofLines_eq_empty {first : List Char} {rest : List (List Char)} (h : ofLines (first :: rest) = "") :
    first = [] ∧ rest = [] := by
  have hchars : ['\n'].intercalate (first :: rest) = [] := by
    simpa [ofLines] using congrArg String.toList h
  cases rest with
  | nil => exact ⟨by simpa using hchars, rfl⟩
  | cons second rest => simp [List.intercalate_cons_cons] at hchars

/-- A line that names a field cuts the text in two. -/
theorem ofLines_cut (first : List Char) (before : List (List Char)) (key : String) (value : List Char)
    (behind : List (List Char)) :
    ofLines (first :: (before ++ keyLine key value :: behind)) =
      ofLines (first :: before) ++ "\n" ++ key ++ ofLines (value :: behind) := by
  apply String.toList_inj.mp
  rw [ofLines, ← List.cons_append, intercalate_append (List.cons_ne_nil first before)
    (List.cons_ne_nil _ behind), keyLine, intercalate_front]
  simp [ofLines]

def specLines (spec : DraftSpec) : SpecLines where
  description := (linesOf spec.description).headD []
  descriptionRest := (linesOf spec.description).tail
  price := (linesOf spec.price).headD []
  priceRest := (linesOf spec.price).tail
  quantity := (toString spec.quantity).toList
  whoMade := (linesOf spec.whoMade).headD []
  whoMadeRest := (linesOf spec.whoMade).tail
  whenMade := (linesOf spec.whenMade).headD []
  whenMadeRest := (linesOf spec.whenMade).tail

theorem ofLines_head_tail (text : String) :
    ofLines ((linesOf text).headD [] :: (linesOf text).tail) = text := by
  obtain ⟨first, rest, h⟩ := exists_linesOf text
  rw [h]
  exact (congrArg ofLines h.symm).trans (ofLines_linesOf text)

theorem linesOf_single {text : String} (h : '\n' ∉ text.toList) : linesOf text = [text.toList] :=
  List.splitOn_eq_singleton h

theorem linesOf_key {key : String} (hkey : '\n' ∉ key.toList) (text rest : String) :
    linesOf (key ++ (text ++ ("\n" ++ rest))) =
      keyLine key ((linesOf text).headD []) :: ((linesOf text).tail ++ linesOf rest) := by
  obtain ⟨first, more, h⟩ := exists_linesOf text
  rw [h]
  have hcut : linesOf (text ++ ("\n" ++ rest)) = first :: (more ++ linesOf rest) := by
    rw [linesOf, String.toList_append, String.toList_append]
    refine (List.splitOn_append_cons_self _ _).trans ?_
    rw [← linesOf, h]
    rfl
  rw [linesOf, String.toList_append]
  exact splitOn_append_of_not_mem hkey hcut

/-- The lines of the hashed text of a spec whose title is one line. -/
theorem linesOf_fixtureHashText {spec : DraftSpec} (htitle : '\n' ∉ spec.title.toList) :
    linesOf (fixtureHashText spec) =
      keyLine "product_id=" (uuidStr spec.productId).toList ::
        keyLine "spec_version=" (toString spec.specVersion).toList ::
          keyLine "shop_id=" (toString spec.shopId).toList ::
            keyLine "title=" spec.title.toList ::
              ((specLines spec).all ++ [keyLine "taxonomy_id=" (toString spec.taxonomyId).toList]) := by
  have hplain : ∀ n : Int, '\n' ∉ (toString n).toList := by
    intro n h
    cases toString_int_plain n _ h
  have huuid : '\n' ∉ (uuidStr spec.productId).toList := by
    rw [uuidStr, String.toList_ofList]
    exact not_mem_uuidChars _ (by decide) (by decide)
  have hlast : linesOf ("taxonomy_id=" ++ toString spec.taxonomyId) =
      [keyLine "taxonomy_id=" (toString spec.taxonomyId).toList] := by
    rw [linesOf, String.toList_append, List.splitOn_eq_singleton]
    · rfl
    · exact List.not_mem_append (by decide) (hplain _)
  rw [fixtureHashText_eq, linesOf_key (by decide), linesOf_key (by decide), linesOf_key (by decide),
    linesOf_key (by decide), linesOf_key (by decide), linesOf_key (by decide), linesOf_key (by decide),
    linesOf_key (by decide), linesOf_key (by decide), hlast]
  rw [linesOf_single huuid, linesOf_single (hplain spec.specVersion), linesOf_single (hplain spec.shopId),
    linesOf_single htitle, linesOf_single (hplain spec.quantity)]
  simp [SpecLines.all, SpecLines.fromPrice, specLines]

end Text

/-! ## Specs that share no text -/

/-- No line inside of a field reads like the next field, in a way that leaves two fields that are admitted. -/
structure ClearKey (spec : DraftSpec) : Prop where
  description : ∀ before behind, spec.description ≠ before ++ "\n" ++ "price=" ++ behind
  /-- The price would be the rest, which is refused when it is empty. -/
  price : ∀ before behind, spec.price = before ++ "\n" ++ "price=" ++ behind →
    behind = "" ∨ (descriptionLines (spec.description ++ "\n" ++ "price=" ++ before)).any
      (fun line => startsWith line "mm-draft:") = true
  /-- The price would be the front, which is refused when it is empty. -/
  quantity : ∀ before (quantity : Int) behind, 1 ≤ quantity →
    spec.price = before ++ "\n" ++ "quantity=" ++ toString quantity ++ "\n" ++ "who_made=" ++ behind →
      before = ""
  whoMade : ∀ before (quantity : Int) behind, 1 ≤ quantity →
    spec.whoMade ≠ before ++ "\n" ++ "quantity=" ++ toString quantity ++ "\n" ++ "who_made=" ++ behind
  whenMade : ∀ before behind, spec.whoMade ≠ before ++ "\n" ++ "when_made=" ++ behind ∧
    spec.whenMade ≠ before ++ "\n" ++ "when_made=" ++ behind

section Clear

variable {spec other : DraftSpec}

theorem requireSpec_iff :
    requireSpec spec = .ok () ↔
      (1 ≤ spec.specVersion ∧ 1 ≤ spec.shopId ∧ 1 ≤ spec.quantity ∧ 1 ≤ spec.taxonomyId) ∧
        (spec.title ≠ "" ∧ '\n' ∉ spec.title.toList ∧ '\r' ∉ spec.title.toList) ∧ spec.price ≠ "" ∧
          (descriptionLines spec.description).any (fun line => startsWith line "mm-draft:") = false := by
  unfold requireSpec
  split_ifs with hversion hshop hquantity htaxonomy htitle hprice hmarker
  · exact iff_of_false (by simp) (fun h => absurd h.1.1 (by omega))
  · exact iff_of_false (by simp) (fun h => absurd h.1.2.1 (by omega))
  · exact iff_of_false (by simp) (fun h => absurd h.1.2.2.1 (by omega))
  · exact iff_of_false (by simp) (fun h => absurd h.1.2.2.2 (by omega))
  · exact iff_of_false (by simp) (fun h => htitle.elim h.2.1.1 (fun h' => h'.elim h.2.1.2.1 h.2.1.2.2))
  · exact iff_of_false (by simp) (fun h => h.2.2.1 hprice)
  · exact iff_of_false (by simp) (fun h => by rw [h.2.2.2] at hmarker; cases hmarker)
  · rw [not_or, not_or] at htitle
    exact iff_of_true rfl ⟨⟨by omega, by omega, by omega, by omega⟩, htitle, hprice,
      Bool.eq_false_iff.mpr hmarker⟩

theorem toString_int_injective {m n : Int} (hm : 1 ≤ m) (hn : 1 ≤ n) (h : toString m = toString n) :
    m = n := by
  have hdigits := congrArg String.toList h
  rw [toString_int_toList (Int.le_of_lt hm), toString_int_toList (Int.le_of_lt hn)] at hdigits
  have hvalue := congrArg (fun digits => Nat.ofDigitChars 10 digits 0) hdigits
  simp only [Nat.ofDigitChars_toDigits (by decide : 1 < 10) (by decide)] at hvalue
  omega

/-- The fields of an admitted spec are its lines. -/
theorem eq_of_specLines (hspec : requireSpec spec = .ok ()) (hother : requireSpec other = .ok ())
    (h : specLines spec = specLines other) (hproduct : uuidStr spec.productId = uuidStr other.productId)
    (hversion : toString spec.specVersion = toString other.specVersion)
    (hshop : toString spec.shopId = toString other.shopId) (htitle : spec.title = other.title)
    (htaxonomy : toString spec.taxonomyId = toString other.taxonomyId) : spec = other := by
  have hfield : ∀ {text text' : String}, (linesOf text).headD [] = (linesOf text').headD [] →
      (linesOf text).tail = (linesOf text').tail → text = text' := by
    intro text text' hhead htail
    rw [← ofLines_head_tail text, hhead, htail, ofLines_head_tail]
  obtain ⟨⟨hv, hs, hq, ht⟩, -⟩ := requireSpec_iff.mp hspec
  obtain ⟨⟨hv', hs', hq', ht'⟩, -⟩ := requireSpec_iff.mp hother
  simp only [specLines, SpecLines.mk.injEq] at h
  obtain ⟨hd, hds, hp, hps, hquantity, hw, hws, hn, hns⟩ := h
  have huuid : spec.productId = other.productId :=
    uuidChars_injective (by simpa [uuidStr] using congrArg String.toList hproduct)
  replace hquantity := toString_int_injective hq hq' (String.toList_inj.mp hquantity)
  replace hversion := toString_int_injective hv hv' hversion
  replace hshop := toString_int_injective hs hs' hshop
  replace htaxonomy := toString_int_injective ht ht' htaxonomy
  have hdescription := hfield hd hds
  have hprice := hfield hp hps
  have hwho := hfield hw hws
  have hwhen := hfield hn hns
  cases spec
  cases other
  simp only [DraftSpec.mk.injEq]
  exact ⟨huuid, hversion, hshop, htitle, hdescription, hprice, hquantity, hwho, hwhen, htaxonomy⟩

theorem linesOf_price_ne (h : spec.price ≠ "") :
    (specLines spec).price ≠ [] ∨ (specLines spec).priceRest ≠ [] := by
  by_contra hnone
  rw [not_or, not_not, not_not] at hnone
  apply h
  have hlines := ofLines_head_tail spec.price
  have hfirst : (linesOf spec.price).headD [] = [] := hnone.1
  have hrest : (linesOf spec.price).tail = [] := hnone.2
  rw [hfirst, hrest] at hlines
  exact hlines.symm

/-- A clear spec shares its text with no other one. -/
theorem eq_of_clear (hspec : requireSpec spec = .ok ()) (hother : requireSpec other = .ok ())
    (hclear : ClearKey spec) (htext : fixtureHashText spec = fixtureHashText other) : spec = other := by
  obtain ⟨-, ⟨-, htitle, -⟩, -, -⟩ := requireSpec_iff.mp hspec
  obtain ⟨⟨-, -, hquantity, -⟩, ⟨-, htitle', -⟩, hprice', hmarker'⟩ := requireSpec_iff.mp hother
  have hlines := congrArg linesOf htext
  rw [linesOf_fixtureHashText htitle, linesOf_fixtureHashText htitle'] at hlines
  obtain ⟨hproduct, hlines⟩ := List.cons.inj hlines
  obtain ⟨hversion, hlines⟩ := List.cons.inj hlines
  obtain ⟨hshop, hlines⟩ := List.cons.inj hlines
  obtain ⟨htitles, hlines⟩ := List.cons.inj hlines
  obtain ⟨hall, hlast⟩ := List.append_inj' hlines rfl
  -- What the lines of a field spell, when one of them names the next field.
  have hcut : ∀ {text : String} {before : List (List Char)} {key value behind},
      (linesOf text).tail = before ++ keyLine key value :: behind →
        text = ofLines ((linesOf text).headD [] :: before) ++ "\n" ++ key ++ ofLines (value :: behind) := by
    intro text before key value behind htail
    rw [← ofLines_cut, ← htail, ofLines_head_tail]
  rcases SpecLines.cases (linesOf_price_ne hprice') hall with hsame | hambiguous
  · exact eq_of_specLines hspec hother hsame (String.toList_inj.mp (keyLine_injective hproduct))
      (String.toList_inj.mp (keyLine_injective hversion)) (String.toList_inj.mp (keyLine_injective hshop))
      (String.toList_inj.mp (keyLine_injective htitles))
      (String.toList_inj.mp (keyLine_injective (List.cons.inj hlast).1))
  · exfalso
    have hquantityCut : ∀ {text : String} {before value behind},
        (linesOf text).tail = before ++ keyLine "quantity=" (specLines other).quantity ::
          keyLine "who_made=" value :: behind →
        text = ofLines ((linesOf text).headD [] :: before) ++ "\n" ++ "quantity=" ++
          toString other.quantity ++ "\n" ++ "who_made=" ++ ofLines (value :: behind) := by
      intro text before value behind htail
      have hinner := ofLines_cut (specLines other).quantity [] "who_made=" value behind
      rw [List.nil_append] at hinner
      have houter := hcut htail
      rw [hinner] at houter
      simpa [ofLines, specLines, String.append_assoc] using houter
    cases hambiguous with
    | description before value behind mimic => exact hclear.description _ _ (hcut mimic)
    | price before value behind mimic hsome same =>
      rcases hclear.price _ _ (hcut mimic) with hempty | hmarker
      · exact (hsome.elim (fun h => h (ofLines_eq_empty hempty).1)
          (fun h => h (ofLines_eq_empty hempty).2)).elim
      · have hdescription : other.description = spec.description ++ "\n" ++ "price=" ++
            ofLines ((linesOf spec.price).headD [] :: before) := by
          have hfirst : (linesOf other.description).headD [] = (linesOf spec.description).headD [] := same.1
          have hrest : (linesOf other.description).tail = (linesOf spec.description).tail ++
              keyLine "price=" ((linesOf spec.price).headD []) :: before := same.2
          rw [← ofLines_head_tail other.description, hfirst, hrest, ofLines_cut, ofLines_head_tail]
        rw [← hdescription, hmarker'] at hmarker
        cases hmarker
    | quantity value behind mimic same =>
      have hempty := hclear.quantity _ _ _ hquantity (hquantityCut mimic)
      apply hprice'
      rw [← ofLines_head_tail other.price]
      have hfirst : (linesOf other.price).headD [] = (linesOf spec.price).headD [] := same
      rw [hfirst]
      exact hempty
    | behind mimic =>
      rcases mimic with ⟨before, value, behind, mimic⟩ | ⟨before, value, behind, mimic⟩ |
        ⟨before, value, behind, mimic⟩
      · exact hclear.whoMade _ _ _ hquantity (hquantityCut mimic)
      · exact (hclear.whenMade _ _).1 (hcut mimic)
      · exact (hclear.whenMade _ _).2 (hcut mimic)

theorem ne_append_break (text behind : String) : text ≠ text ++ ("\n" ++ behind) := by
  intro heq
  have hchars := congrArg String.toList heq
  rw [String.toList_append, List.self_eq_append_right, String.toList_append] at hchars
  cases hchars

/-- An admitted spec that shares its text with no other one is clear: a line that mimics a field makes
another admitted spec of the same text. -/
theorem clear_of_separated (hspec : requireSpec spec = .ok ())
    (h : ∀ other, requireSpec other = .ok () → fixtureHashText spec = fixtureHashText other →
      spec = other) : ClearKey spec := by
  obtain ⟨hnumbers, htitle, hprice, hmarker⟩ := requireSpec_iff.mp hspec
  have hversion := hnumbers.1
  have hshop := hnumbers.2.1
  have htaxonomy := hnumbers.2.2.2
  constructor
  · -- The description ends before the line, and the price has the rest.
    intro before behind heq
    rw [String.append_assoc, String.append_assoc] at heq
    have hfront : (descriptionLines before).any (fun line => startsWith line "mm-draft:") = false := by
      apply @admitted_before before ("price=" ++ behind)
      rw [String.append_assoc, ← heq]
      exact hmarker
    have hsame := h
      { spec with
        description := before
        price := behind ++ ("\n" ++ ("price=" ++ spec.price)) }
      (requireSpec_iff.mpr ⟨hnumbers, htitle,
        fun hempty => hprice (by simpa using congrArg String.toList hempty), hfront⟩)
      (by simp only [fixtureHashText_eq, heq, String.append_assoc])
    have hdescription : spec.description = before := congrArg DraftSpec.description hsame
    exact ne_append_break before _ (hdescription ▸ heq)
  · -- The description goes on up to the line, and the price has the rest.
    intro before behind heq
    rw [String.append_assoc, String.append_assoc] at heq
    by_contra hnone
    rw [not_or, Bool.not_eq_true, String.append_assoc, String.append_assoc] at hnone
    have hsame := h
      { spec with
        description := spec.description ++ ("\n" ++ ("price=" ++ before))
        price := behind }
      (requireSpec_iff.mpr ⟨hnumbers, htitle, hnone.1, hnone.2⟩)
      (by simp only [fixtureHashText_eq, heq, String.append_assoc])
    exact ne_append_break _ _ (congrArg DraftSpec.description hsame)
  · -- The price ends before the line, and `who_made` has the rest.
    intro before quantity behind hquantity heq
    simp only [String.append_assoc] at heq
    by_contra hne
    have hsame := h
      { spec with
        price := before
        quantity := quantity
        whoMade := behind ++ ("\n" ++ ("quantity=" ++ (toString spec.quantity ++
          ("\n" ++ ("who_made=" ++ spec.whoMade))))) }
      (requireSpec_iff.mpr ⟨⟨hversion, hshop, hquantity, htaxonomy⟩, htitle, hne, hmarker⟩)
      (by simp only [fixtureHashText_eq, heq, String.append_assoc])
    have hbefore : spec.price = before := congrArg DraftSpec.price hsame
    exact ne_append_break before _ (hbefore ▸ heq)
  · -- The price goes on up to the line, and `who_made` has the rest.
    intro before quantity behind hquantity heq
    simp only [String.append_assoc] at heq
    have hsame := h
      { spec with
        price := spec.price ++ ("\n" ++ ("quantity=" ++ (toString spec.quantity ++
          ("\n" ++ ("who_made=" ++ before)))))
        quantity := quantity
        whoMade := behind }
      (requireSpec_iff.mpr ⟨⟨hversion, hshop, hquantity, htaxonomy⟩, htitle,
        fun hempty => hprice (String.append_eq_empty_iff.mp hempty).1, hmarker⟩)
      (by simp only [fixtureHashText_eq, heq, String.append_assoc])
    exact ne_append_break _ _ (congrArg DraftSpec.price hsame)
  · intro before behind
    constructor
    · -- `who_made` ends before the line, and `when_made` has the rest.
      intro heq
      rw [String.append_assoc, String.append_assoc] at heq
      have hsame := h
        { spec with
          whoMade := before
          whenMade := behind ++ ("\n" ++ ("when_made=" ++ spec.whenMade)) }
        (requireSpec_iff.mpr ⟨hnumbers, htitle, hprice, hmarker⟩)
        (by simp only [fixtureHashText_eq, heq, String.append_assoc])
      have hbefore : spec.whoMade = before := congrArg DraftSpec.whoMade hsame
      exact ne_append_break before _ (hbefore ▸ heq)
    · -- `who_made` goes on up to the line, and `when_made` has the rest.
      intro heq
      rw [String.append_assoc, String.append_assoc] at heq
      have hsame := h
        { spec with
          whoMade := spec.whoMade ++ ("\n" ++ ("when_made=" ++ before))
          whenMade := behind }
        (requireSpec_iff.mpr ⟨hnumbers, htitle, hprice, hmarker⟩)
        (by simp only [fixtureHashText_eq, heq, String.append_assoc])
      exact ne_append_break _ _ (congrArg DraftSpec.whoMade hsame)

/-- The hashed text separates an admitted spec from every other one, if and only if no line inside of its
fields reads like the next field. -/
theorem fixture_hash_separates_iff (spec : DraftSpec) (hspec : requireSpec spec = .ok ()) :
    (∀ other, requireSpec other = .ok () → fixtureHashText spec = fixtureHashText other →
        spec = other) ↔ ClearKey spec :=
  ⟨clear_of_separated hspec, fun hclear _ hother htext => eq_of_clear hspec hother hclear htext⟩

/-- Fields of one line are clear. -/
theorem clear_of_single_lines (hdescription : '\n' ∉ spec.description.toList)
    (hprice : '\n' ∉ spec.price.toList) (hwho : '\n' ∉ spec.whoMade.toList)
    (hwhen : '\n' ∉ spec.whenMade.toList) : ClearKey spec := by
  have hcut : ∀ {text before behind : String}, '\n' ∉ text.toList → text ≠ before ++ ("\n" ++ behind) := by
    rintro text before behind hnone rfl
    apply hnone
    rw [String.toList_append, String.toList_append]
    exact List.mem_append_right _ (List.mem_append_left _ (List.mem_singleton.mpr rfl))
  constructor
  · intro before behind
    simpa only [String.append_assoc] using hcut hdescription
  · intro before behind heq
    rw [String.append_assoc, String.append_assoc] at heq
    exact absurd heq (by simpa only [String.append_assoc] using hcut hprice)
  · intro before quantity behind _ heq
    simp only [String.append_assoc] at heq
    exact absurd heq (by simpa only [String.append_assoc] using hcut hprice)
  · intro before quantity behind _
    simpa only [String.append_assoc] using hcut hwho
  · intro before behind
    constructor
    · simpa only [String.append_assoc] using hcut hwho
    · simpa only [String.append_assoc] using hcut hwhen

end Clear

/-- A spec, but for its description and its price. -/
def printable (description price : String) : DraftSpec where
  productId := 1
  specVersion := 1
  shopId := 9
  title := "Planner"
  description := description
  price := price
  quantity := 1
  whoMade := "i_did"
  whenMade := "made_to_order"
  taxonomyId := 1

/-- A spec that `_require_spec` accepts. -/
structure AcceptedSpec where
  spec : DraftSpec
  accepted : requireSpec spec = .ok ()

def plainSpec : AcceptedSpec := ⟨printable "A printable planner." "4.00", by decide +kernel⟩

/-- A line of the price that reads like a price. -/
def brokenPrice : AcceptedSpec := ⟨printable "a" "b\nprice=c", by decide +kernel⟩

def brokenDescription : AcceptedSpec := ⟨printable "a\nprice=b" "c", by decide +kernel⟩

theorem fixture_hash_separates_printable :
    requireSpec (printable "A printable planner." "4.00") = .ok () ∧
      ∀ other, requireSpec other = .ok () →
        fixtureHashText (printable "A printable planner." "4.00") = fixtureHashText other →
          printable "A printable planner." "4.00" = other := by
  refine ⟨plainSpec.accepted,
    (fixture_hash_separates_iff (printable "A printable planner." "4.00") plainSpec.accepted).mpr ?_⟩
  exact clear_of_single_lines (by decide) (by decide) (by decide) (by decide)

/-- The two specs have one text. -/
theorem fixture_hash_collides :
    ¬ ∀ spec other : DraftSpec, requireSpec spec = .ok () → requireSpec other = .ok () →
      fixtureHashText spec = fixtureHashText other → spec = other := by
  intro h
  have hsame := h (printable "a" "b\nprice=c") (printable "a\nprice=b" "c") brokenPrice.accepted
    brokenDescription.accepted (by decide +kernel)
  have hprice : "b\nprice=c" = "c" := congrArg DraftSpec.price hsame
  exact absurd hprice (by decide)

end Integrations
end MoneyMachine
