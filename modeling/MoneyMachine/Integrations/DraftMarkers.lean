import MoneyMachine.Domain.Text
import MoneyMachine.Integrations.DraftTransport

/-!
# DraftMarkers — the line that is added to a description

The marker of an admitted spec is one line without breaks and blanks.  Added to the description of the
spec, however that ends, it is the one line that claims to be a marker.

* `foldBreaks_append_break` : a break after a text, which may end in half of one;
* `markerLines_withMarker`  : the marker is the one line of its kind;
* `marker_round_trip`       : it is recognised there, and no other marker is.
-/

namespace MoneyMachine
namespace Integrations

open MoneyMachine.Domain

/-! ## Lines -/

/-- A character that neither breaks a line nor is stripped from its end. -/
def isPlainChar (c : Char) : Bool :=
  decide (c ≠ '\n' ∧ c ≠ '\r') && !isBlank c

theorem foldCrLf_of_plain {text : List Char} (h : ∀ c ∈ text, isPlainChar c = true) :
    foldBreaks text = text := by
  have hne : ∀ c ∈ text, c ≠ '\r' := by
    intro c hc hr
    have hplain := h c hc
    rw [hr] at hplain
    cases hplain
  have hfold : foldCrLf text = text := by
    induction text with
    | nil => rfl
    | cons c rest ih =>
      have hc := hne c List.mem_cons_self
      rw [foldCrLf]
      · rw [ih (fun d hd => h d (List.mem_cons_of_mem c hd))
          (fun d hd => hne d (List.mem_cons_of_mem c hd))]
      · intro tail hhead
        exact absurd hhead hc
  rw [foldBreaks, hfold]
  conv_rhs => rw [← List.map_id text]
  apply List.map_congr_left
  intro c hc
  rw [if_neg (hne c hc)]
  rfl

/-- A break after a text stays one, unless the text ends in half of it. -/
theorem foldBreaks_append_break (text : List Char) :
    ∃ front, (foldBreaks text = front ∨ foldBreaks text = front ++ ['\n']) ∧
      ∀ last, foldBreaks (text ++ '\n' :: last) = front ++ '\n' :: foldBreaks last := by
  induction text using foldCrLf.induct with
  | case1 rest ih =>
    obtain ⟨front, hfront, hlast⟩ := ih
    refine ⟨'\n' :: front, ?_, ?_⟩
    · rcases hfront with h | h
      · exact Or.inl (congrArg ('\n' :: ·) h)
      · exact Or.inr (congrArg ('\n' :: ·) h)
    · intro last
      exact congrArg ('\n' :: ·) (hlast last)
  | case2 c rest hnot ih =>
    by_cases hhalf : c = '\r' ∧ rest = []
    · obtain ⟨rfl, rfl⟩ := hhalf
      exact ⟨[], Or.inr rfl, fun last => rfl⟩
    · obtain ⟨front, hfront, hlast⟩ := ih
      have hcons : ∀ text, (c = '\r' → ∀ tail, text ≠ '\n' :: tail) →
          foldBreaks (c :: text) = (if c = '\r' then '\n' else c) :: foldBreaks text := by
        intro text htext
        rw [foldBreaks, foldCrLf]
        · rfl
        · intro tail hc htail
          exact htext hc tail htail
      refine ⟨(if c = '\r' then '\n' else c) :: front, ?_, ?_⟩
      · rw [hcons rest (fun hc tail htail => hnot tail hc htail)]
        rcases hfront with h | h
        · exact Or.inl (congrArg _ h)
        · exact Or.inr (congrArg _ h)
      · intro last
        rw [List.cons_append, hcons, hlast last]
        · rfl
        · -- A text that starts with `\r` has a next character, which is no `\n`.
          intro hc tail htail
          cases rest with
          | nil => exact hhalf ⟨hc, rfl⟩
          | cons d more =>
            rw [List.cons_append, List.cons.injEq] at htail
            exact hnot more hc (by rw [htail.1])
  | case3 => exact ⟨[], Or.inl rfl, fun last => rfl⟩

/-- The lines of a text and a last line: some first lines of the text, and the last. -/
theorem splitOn_foldBreaks_append (text : List Char) :
    ∃ lines more, (foldBreaks text).splitOn '\n' = lines ++ more ∧
      ∀ last, (∀ c ∈ last, isPlainChar c = true) →
        (foldBreaks (text ++ '\n' :: last)).splitOn '\n' = lines ++ [last] := by
  obtain ⟨front, hfront, hlast⟩ := foldBreaks_append_break text
  have hsplit : ∀ last, (∀ c ∈ last, isPlainChar c = true) →
      (foldBreaks (text ++ '\n' :: last)).splitOn '\n' = front.splitOn '\n' ++ [last] := by
    intro last hplain
    have hbreak : '\n' ∉ last := by
      intro hmem
      have hself := hplain '\n' hmem
      cases hself
    rw [hlast last, foldCrLf_of_plain hplain, List.splitOn_append_cons_self,
      List.splitOn_eq_singleton hbreak]
  rcases hfront with h | h
  · exact ⟨front.splitOn '\n', [], by rw [h, List.append_nil], hsplit⟩
  · refine ⟨front.splitOn '\n', [[]], ?_, hsplit⟩
    rw [h, List.splitOn_append_cons_self]
    rfl

/-- A text whose lines are some first lines of an admitted one, and the marker. -/
theorem markerLines_of_lines {description sent marker : String} {lines more : List (List Char)}
    (hplain : ∀ c ∈ marker.toList, isPlainChar c = true)
    (hstart : startsWith marker "mm-draft:" = true)
    (hadmitted : (descriptionLines description).any (fun line => startsWith line "mm-draft:") = false)
    (hlines : (foldBreaks description.toList).splitOn '\n' = lines ++ more)
    (hsent : (foldBreaks sent.toList).splitOn '\n' = lines ++ [marker.toList]) :
    (descriptionLines sent).filter (fun line => startsWith line "mm-draft:") = [marker] := by
  have hstripped : marker.toList.rdropWhile isBlank = marker.toList := by
    rw [List.rdropWhile_eq_self_iff]
    intro hne hblank
    have hlast := hplain _ (List.getLast_mem hne)
    rw [isPlainChar, hblank, Bool.not_true, Bool.and_false] at hlast
    cases hlast
  have hnone : (lines.map (fun line => String.ofList (line.rdropWhile isBlank))).filter
      (fun line => startsWith line "mm-draft:") = [] := by
    rw [List.filter_eq_nil_iff]
    intro line hmem hclaims
    have hin : line ∈ descriptionLines description := by
      rw [descriptionLines, hlines, List.map_append]
      exact List.mem_append_left _ hmem
    rw [List.any_eq_false] at hadmitted
    exact hadmitted line hin hclaims
  rw [descriptionLines, hsent, List.map_append, List.filter_append, hnone, List.nil_append,
    List.map_singleton, hstripped, String.ofList_toList, List.filter_singleton, hstart]
  rfl

/-- The description that is sent has the marker as its one line that claims to be one. -/
theorem markerLines_withMarker {description marker : String}
    (hplain : ∀ c ∈ marker.toList, isPlainChar c = true)
    (hstart : startsWith marker "mm-draft:" = true)
    (hadmitted : (descriptionLines description).any (fun line => startsWith line "mm-draft:") = false) :
    (descriptionLines (withMarker description marker)).filter
      (fun line => startsWith line "mm-draft:") = [marker] := by
  have hbreak : '\n' ∉ marker.toList := by
    intro hmem
    have hself := hplain '\n' hmem
    cases hself
  unfold withMarker
  split_ifs with hempty hends
  · -- Nothing stands before the marker.
    apply markerLines_of_lines hplain hstart hadmitted (List.nil_append _).symm
    rw [foldCrLf_of_plain hplain, List.splitOn_eq_singleton hbreak]
    rfl
  · -- The description ends with a break already.
    obtain ⟨front, hfront⟩ := List.getLast?_eq_some_iff.mp hends
    obtain ⟨lines, more, -, hlast⟩ := splitOn_foldBreaks_append front
    apply markerLines_of_lines hplain hstart hadmitted
    · rw [hfront]
      exact hlast [] (fun c hc => absurd hc List.not_mem_nil)
    · rw [String.toList_append, hfront, List.append_assoc]
      exact hlast marker.toList hplain
  · obtain ⟨lines, more, hlines, hlast⟩ := splitOn_foldBreaks_append description.toList
    apply markerLines_of_lines hplain hstart hadmitted hlines
    rw [String.toList_append, String.toList_append, List.append_assoc]
    exact hlast marker.toList hplain

/-! ## The marker of a spec -/

/-- Characters of a class without breaks and blanks are plain. -/
theorem isPlainChar_of {p : Char → Bool} (hbreaks : p '\n' = false ∧ p '\r' = false)
    (hblanks : p ' ' = false ∧ p '\t' = false) {c : Char} (h : p c = true) : isPlainChar c = true := by
  have hother : ∀ d, p d = false → c ≠ d := by
    intro d hd heq
    rw [heq, hd] at h
    cases h
  have hblank : ¬ (c = ' ' ∨ c = '\t') :=
    not_or.mpr ⟨hother ' ' hblanks.1, hother '\t' hblanks.2⟩
  have hbreak : c ≠ '\n' ∧ c ≠ '\r' := ⟨hother '\n' hbreaks.1, hother '\r' hbreaks.2⟩
  rw [isPlainChar, isBlank, decide_eq_true hbreak, decide_eq_false hblank]
  rfl

theorem toString_int_plain (n : Int) : ∀ c ∈ (toString n).toList, isPlainChar c = true := by
  have hdigits : ∀ m : Nat, ∀ c ∈ (toString m).toList, isPlainChar c = true := by
    intro m c hc
    rw [toString_toList] at hc
    have hdigit : c.isDigit = true := Nat.isDigit_of_mem_toDigits (by decide) (by decide) hc
    exact isPlainChar_of ⟨by decide, by decide⟩ ⟨by decide, by decide⟩ hdigit
  cases n with
  | ofNat m => exact hdigits m
  | negSucc m =>
    intro c hc
    have hsign : (toString (Int.negSucc m)).toList = '-' :: (toString (m + 1)).toList := by
      show ("-" ++ toString (m + 1)).toList = _
      rw [String.toList_append]
      rfl
    rw [hsign] at hc
    rcases List.mem_cons.mp hc with rfl | hc
    · rfl
    · exact hdigits (m + 1) c hc

/-- A marker is one plain line, whatever version it names. -/
theorem draftMarker_plain {specVersion : Int} {fixtureHash : String}
    (hhash : ∀ c ∈ fixtureHash.toList, isPlainChar c = true) :
    ∀ c ∈ (draftMarker specVersion fixtureHash).toList, isPlainChar c = true := by
  intro c hc
  have hfront : ∀ d ∈ "mm-draft:".toList, isPlainChar d = true := List.all_eq_true.1 (by decide)
  have hcolon : ∀ d ∈ ":".toList, isPlainChar d = true := List.all_eq_true.1 (by decide)
  rw [draftMarker, String.toList_append, String.toList_append, String.toList_append] at hc
  rcases List.mem_append.mp hc with hc | hc
  · rcases List.mem_append.mp hc with hc | hc
    · rcases List.mem_append.mp hc with hc | hc
      · exact hfront c hc
      · exact toString_int_plain specVersion c hc
    · exact hcolon c hc
  · exact hhash c hc

theorem startsWith_draftMarker {specVersion : Int} {fixtureHash : String} :
    startsWith (draftMarker specVersion fixtureHash) "mm-draft:" = true := by
  rw [startsWith, draftMarker, String.toList_append, String.toList_append, String.toList_append,
    List.append_assoc, List.append_assoc]
  exact List.isPrefixOf_iff_prefix.mpr ⟨_, rfl⟩

/-! ## Round trip -/

theorem description_admitted {spec : DraftSpec} (h : requireSpec spec = .ok ()) :
    (descriptionLines spec.description).any (fun line => startsWith line "mm-draft:") = false := by
  unfold requireSpec at h
  split_ifs at h with _ _ _ _ _ _ hclaims
  exact Bool.eq_false_iff.mpr hclaims

/-- What stands before a break of an admitted description is admitted. -/
theorem admitted_before {before behind : String}
    (h : (descriptionLines (before ++ "\n" ++ behind)).any (fun line => startsWith line "mm-draft:") =
      false) : (descriptionLines before).any (fun line => startsWith line "mm-draft:") = false := by
  obtain ⟨front, hfront, hlast⟩ := foldBreaks_append_break before.toList
  have hlines : (foldBreaks (before ++ "\n" ++ behind).toList).splitOn '\n' =
      front.splitOn '\n' ++ (foldBreaks behind.toList).splitOn '\n' := by
    rw [String.toList_append, String.toList_append, List.append_assoc]
    exact (congrArg _ (hlast behind.toList)).trans (List.splitOn_append_cons_self ..)
  rw [descriptionLines, hlines, List.map_append, List.any_append, Bool.or_eq_false_iff] at h
  rcases hfront with hfold | hfold
  · rw [descriptionLines, hfold]
    exact h.1
  · -- Half a break ends the text: there is one more line, which is empty.
    rw [descriptionLines, hfold, List.splitOn_append_cons_self, List.map_append, List.any_append,
      h.1]
    decide

/-- A text with one line that claims to be a marker answers for that marker only. -/
theorem lineMarker_of_single {text marker : String}
    (hlines : (descriptionLines text).filter (fun line => startsWith line "mm-draft:") = [marker])
    (asked : String) : lineMarker (some (.str text)) asked = .ok (decide (marker = asked)) := by
  have hone : ¬ (asked ∈ [marker] ∧ 1 < [marker].length) := by
    rintro ⟨-, hmany⟩
    exact absurd hmany (Nat.lt_irrefl 1)
  simp only [lineMarker, hlines, if_neg hone, List.cons.injEq, and_true]

/-- The marker that a description was given is recognised in it, and every other one is not. -/
theorem marker_round_trip (spec : DraftSpec) (hspec : requireSpec spec = .ok ())
    (specVersion : Int) (fixtureHash : String)
    (hhash : ∀ c ∈ fixtureHash.toList, c.isAlphanum = true) :
    lineMarker (some (.str (withMarker spec.description (draftMarker specVersion fixtureHash))))
        (draftMarker specVersion fixtureHash) = .ok true ∧
      ∀ (specVersion' : Int) (fixtureHash' : String),
        draftMarker specVersion' fixtureHash' ≠ draftMarker specVersion fixtureHash →
        lineMarker (some (.str (withMarker spec.description (draftMarker specVersion fixtureHash))))
          (draftMarker specVersion' fixtureHash') = .ok false := by
  have hplain : ∀ c ∈ fixtureHash.toList, isPlainChar c = true := by
    intro c hc
    exact isPlainChar_of ⟨by decide, by decide⟩ ⟨by decide, by decide⟩ (hhash c hc)
  have hsingle := markerLines_withMarker (@draftMarker_plain specVersion fixtureHash hplain)
    startsWith_draftMarker (description_admitted hspec)
  constructor
  · rw [lineMarker_of_single hsingle, decide_eq_true rfl]
  · intro specVersion' fixtureHash' hne
    rw [lineMarker_of_single hsingle, decide_eq_false (fun heq => hne heq.symm)]

/-- The description ends in half a break, after blanks. -/
theorem marker_round_trip_half_break :
    lineMarker (some (.str (withMarker "Planner \t\r" (draftMarker 1 "0a")))) (draftMarker 1 "0a") =
        .ok true ∧
      lineMarker (some (.str (withMarker "Planner \t\r" (draftMarker 1 "0a")))) (draftMarker 2 "0a") =
        .ok false := by
  obtain ⟨hself, hother⟩ := marker_round_trip ⟨0, 1, 41, "Planner", "Planner \t\r", "9.00", 1, "i_did",
    "made_to_order", 1⟩ (by decide +kernel) 1 "0a" (List.all_eq_true.1 (by decide))
  exact ⟨hself, hother 2 "0a" (by decide +kernel)⟩

end Integrations
end MoneyMachine
