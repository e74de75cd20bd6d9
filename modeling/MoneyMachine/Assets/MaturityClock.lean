import MoneyMachine.Domain.Basic
import Mathlib.Algebra.Order.BigOperators.Group.List
import Mathlib.Data.List.Sort

/-!
# MaturityClock — accumulated live periods

A listing matures after thirty periods of 24 hours live.  The live time of each interval is cut to whole
seconds before it is added, so what an interval has beyond its last whole second is lost.

* `accumulated_of_disjoint` : what is counted when no two live parts overlap;
* `accumulated_iff`         : when that is the number of whole periods of the live time.
-/

namespace MoneyMachine
namespace Assets
namespace MaturityClock

open MoneyMachine.Domain

/-! ## Model -/

/-- A `datetime`: with a timezone it is an instant. -/
inductive Datetime
  | naive
  | aware (utc : Moment)
  deriving DecidableEq, Repr

inductive IntervalStatus
  | active
  | inactive
  | other (text : String)
  deriving DecidableEq, Repr

/-- `LiveInterval`. -/
structure LiveInterval where
  status : IntervalStatus
  startedAt : Datetime
  endedAt : Datetime
  deriving DecidableEq, Repr

/-- `ListingDefect`. -/
structure ListingDefect where
  code : String
  detectedAt : Datetime
  deriving DecidableEq, Repr

/-- `RepairWork`. -/
structure RepairWork where
  repairJobId : Uuid
  listingId : Uuid
  defectCode : String
  detectedAt : Moment
  deriving DecidableEq, Repr

/-- `MaturityEvaluation`. -/
structure MaturityEvaluation where
  accumulatedLivePeriods : Int
  mature : Bool
  portfolioDecisionDue : Bool
  repair : Option RepairWork
  idempotencyKey : Option String
  deriving DecidableEq, Repr

def accumulatedLiveRule : String := "accumulated-live-periods"

def maturityLiveDays : Int := 30

/-- `_PERIOD_SECONDS`. -/
def periodSeconds : Int := 24 * 60 * 60

/-- `_as_utc`. -/
def asUtc (label : String) : Datetime → Except String Moment
  | .naive => .error (label ++ " must be a timezone-aware UTC datetime")
  | .aware utc => .ok utc

/-- `timedelta.days` and `timedelta.seconds`, as seconds. -/
def wholeSeconds (delta : Duration) : Int :=
  let days := delta / 86400000000
  let rest := delta % 86400000000 / 1000000
  days * periodSeconds + rest

/-- The live range of an interval, where it has one. -/
def liveRange (published evaluated : Moment) (interval : LiveInterval) :
    Except String (Option (Moment × Moment)) := do
  let start ← asUtc "interval.started_at" interval.startedAt
  let finish ← asUtc "interval.ended_at" interval.endedAt
  if finish < start then
    .error "interval ends before it starts"
  else
    match interval.status with
    | .inactive => .ok none
    | .other text => .error ("unknown interval status: " ++ text)
    | .active =>
      if max start published < min finish evaluated then
        .ok (some (max start published, min finish evaluated))
      else
        .ok none

def liveRanges (published evaluated : Moment) :
    List LiveInterval → Except String (List (Moment × Moment))
  | [] => .ok []
  | interval :: rest => do
      let range ← liveRange published evaluated interval
      let ranges ← liveRanges published evaluated rest
      .ok (range.toList ++ ranges)

/-- The loop over the sorted ranges. -/
def totalSeconds : Option Moment → List (Moment × Moment) → Except String Int
  | _, [] => .ok 0
  | previousEnd, (start, finish) :: rest =>
    if previousEnd.any (fun previousEnd => decide (start < previousEnd)) then
      .error "active intervals overlap"
    else do
      let total ← totalSeconds (some finish) rest
      .ok (wholeSeconds (finish - start) + total)

/-- `_accumulated_live_periods`. -/
def accumulatedLivePeriods (published : Moment) (intervals : List LiveInterval) (evaluated : Moment) :
    Except String Int := do
  let ranges ← liveRanges published evaluated intervals
  let total ← totalSeconds none (ranges.insertionSort (fun a b => a.1 ≤ b.1))
  .ok (total / periodSeconds)

section Evaluate

variable (uuid5 : String → Uuid)

/-- `repair_work_id`. -/
def repairWorkId (listingId : Uuid) (defectCode : String) : Uuid :=
  uuid5 ("money-machine:repair-work:" ++ uuidStr listingId ++ ":" ++ defectCode)

/-- `_repair`. -/
def repairOf (listingId : Uuid) (defect : Option ListingDefect) (published evaluated : Moment) :
    Except String (Option RepairWork) :=
  match defect with
  | none => .ok none
  | some defect => do
      let detectedAt ← asUtc "defect.detected_at" defect.detectedAt
      if detectedAt < published ∨ evaluated < detectedAt then
        .ok none
      else
        .ok (some ⟨repairWorkId uuid5 listingId defect.code, listingId, defect.code, detectedAt⟩)

/-- `evaluate_maturity`. -/
def evaluateMaturity (listingId : Uuid) (publishedAt : Datetime) (intervals : List LiveInterval)
    (evaluatedAt : Datetime) (defect : Option ListingDefect) : Except String MaturityEvaluation := do
  let published ← asUtc "published_at" publishedAt
  let evaluated ← asUtc "evaluated_at" evaluatedAt
  let periods ← accumulatedLivePeriods published intervals evaluated
  let repair ← repairOf uuid5 listingId defect published evaluated
  let mature := decide (maturityLiveDays ≤ periods)
  let decisionDue := mature && repair.isNone
  .ok
    { accumulatedLivePeriods := periods
      mature := mature
      portfolioDecisionDue := decisionDue
      repair := repair
      idempotencyKey :=
        if decisionDue then
          some (uuidStr listingId ++ ":" ++ accumulatedLiveRule ++ ":" ++ toString maturityLiveDays)
        else
          none }

end Evaluate

/-! ## Live time -/

/-- An interval between two instants. -/
structure Span where
  active : Bool
  start : Moment
  finish : Moment
  deriving DecidableEq, Repr

def Span.interval (span : Span) : LiveInterval :=
  ⟨if span.active then .active else .inactive, .aware span.start, .aware span.finish⟩

section Time

variable (published evaluated : Moment)

/-- An instant of the live part of an interval. -/
def Span.LiveAt (span : Span) (t : Moment) : Prop :=
  span.active = true ∧ max span.start published ≤ t ∧ t < min span.finish evaluated

/-- No two live parts overlap. -/
def LiveApart (spans : List Span) : Prop :=
  spans.Pairwise (fun a b => ∀ t, ¬ (a.LiveAt published evaluated t ∧ b.LiveAt published evaluated t))

/-- The length of the live part of an interval. -/
def Span.liveTime (span : Span) : Duration :=
  if span.active then max 0 (min span.finish evaluated - max span.start published) else 0

/-- The live time of all intervals. -/
def liveTime (spans : List Span) : Duration :=
  (spans.map (Span.liveTime published evaluated)).sum

/-- What the live parts have beyond their whole seconds. -/
def fractions (spans : List Span) : Duration :=
  (spans.map (fun span => span.liveTime published evaluated % 1000000)).sum

/-- 24 hours. -/
def period : Duration := 86400000000

end Time

/-! ## What is counted -/

section Count

theorem wholeSeconds_eq (delta : Duration) : wholeSeconds delta = delta / 1000000 := by
  simp only [wholeSeconds, periodSeconds]
  omega

variable {published evaluated : Moment}

/-- The live range of a span. -/
def Span.range (published evaluated : Moment) (span : Span) : Option (Moment × Moment) :=
  if span.active = true ∧ max span.start published < min span.finish evaluated then
    some (max span.start published, min span.finish evaluated)
  else
    none

theorem liveRange_interval (span : Span) :
    liveRange published evaluated span.interval =
      if span.finish < span.start then .error "interval ends before it starts"
      else .ok (span.range published evaluated) := by
  obtain ⟨active, start, finish⟩ := span
  by_cases hlt : finish < start
  · simp [liveRange, Span.interval, asUtc, bind, Except.bind, hlt]
  · cases active with
    | false => simp [liveRange, Span.interval, Span.range, asUtc, bind, Except.bind, hlt]
    | true =>
      simp only [liveRange, Span.interval, Span.range, asUtc, bind, Except.bind, hlt, if_false,
        if_true, true_and]
      split <;> rfl

theorem liveRanges_ok {spans : List Span} (h : ∀ span ∈ spans, span.start ≤ span.finish) :
    liveRanges published evaluated (spans.map Span.interval) =
      .ok (spans.filterMap (Span.range published evaluated)) := by
  induction spans with
  | nil => rfl
  | cons span spans ih =>
    have hspan : ¬ span.finish < span.start := not_lt.mpr (h span List.mem_cons_self)
    rw [List.map_cons, liveRanges, liveRange_interval, if_neg hspan,
      ih (fun other hother => h other (List.mem_cons_of_mem _ hother))]
    cases hrange : span.range published evaluated with
    | none => simp [bind, Except.bind, hrange]
    | some range => simp [bind, Except.bind, hrange]

/-- An interval that ends before it starts is refused. -/
theorem liveRanges_reversed {spans : List Span} {ranges : List (Moment × Moment)}
    (h : liveRanges published evaluated (spans.map Span.interval) = .ok ranges) :
    ∀ span ∈ spans, span.start ≤ span.finish := by
  induction spans generalizing ranges with
  | nil => exact fun span hspan => absurd hspan List.not_mem_nil
  | cons span spans ih =>
    rw [List.map_cons, liveRanges, liveRange_interval] at h
    by_cases hspan : span.finish < span.start
    · rw [if_pos hspan] at h
      cases h
    · rw [if_neg hspan] at h
      cases hrest : liveRanges published evaluated (spans.map Span.interval) with
      | error e =>
        rw [hrest] at h
        cases h
      | ok rest =>
        exact List.forall_mem_cons.mpr ⟨not_lt.mp hspan, ih hrest⟩

/-- Ranges in order, none of which starts before the one in front of it ends. -/
theorem totalSeconds_ok {ranges : List (Moment × Moment)} {previousEnd : Option Moment}
    (hfirst : ∀ e ∈ previousEnd, ∀ range ∈ ranges, e ≤ range.1)
    (h : ranges.Pairwise (fun a b => a.2 ≤ b.1)) :
    totalSeconds previousEnd ranges =
      .ok ((ranges.map (fun range => wholeSeconds (range.2 - range.1))).sum) := by
  induction ranges generalizing previousEnd with
  | nil => rfl
  | cons range ranges ih =>
    obtain ⟨start, finish⟩ := range
    obtain ⟨hnext, hrest⟩ := List.pairwise_cons.mp h
    have hin : previousEnd.any (fun e => decide (start < e)) = false := by
      cases previousEnd with
      | none => rfl
      | some e => simpa using hfirst e rfl _ List.mem_cons_self
    rw [totalSeconds, hin]
    simp only [Bool.false_eq_true, if_false]
    have hlater : ∀ e ∈ some finish, ∀ range ∈ ranges, e ≤ range.1 := by
      intro e he
      cases he
      exact hnext
    rw [ih hlater hrest]
    simp [bind, Except.bind]

/-- Sorted ranges that share no instant follow one another. -/
theorem sorted_follow {ranges : List (Moment × Moment)}
    (hfull : ∀ range ∈ ranges, range.1 < range.2)
    (hapart : ranges.Pairwise (fun a b => ∀ t, ¬ ((a.1 ≤ t ∧ t < a.2) ∧ (b.1 ≤ t ∧ t < b.2)))) :
    (ranges.insertionSort (fun a b => a.1 ≤ b.1)).Pairwise (fun a b => a.2 ≤ b.1) := by
  have hperm := List.perm_insertionSort (fun a b : Moment × Moment => a.1 ≤ b.1) ranges
  have hsorted := List.pairwise_insertionSort (fun a b : Moment × Moment => a.1 ≤ b.1) ranges
  have hapart' := (hperm.pairwise_iff (fun {_ _} h t hboth => h t ⟨hboth.2, hboth.1⟩)).mpr hapart
  apply (hsorted.and hapart').imp_of_mem
  rintro a b ha hb ⟨hle, hnone⟩
  -- Otherwise the later range starts inside the earlier one.
  by_contra hlt
  exact hnone b.1 ⟨⟨hle, not_le.mp hlt⟩, le_refl _, hfull b (hperm.mem_iff.mp hb)⟩

theorem Span.range_eq_some {span : Span} {range : Moment × Moment}
    (h : span.range published evaluated = some range) :
    span.active = true ∧ range.1 < range.2 ∧ range.1 = max span.start published ∧
      range.2 = min span.finish evaluated := by
  unfold Span.range at h
  split at h
  · rename_i hlive
    cases h
    exact ⟨hlive.1, hlive.2, rfl, rfl⟩
  · cases h

theorem ranges_apart {spans : List Span} (h : LiveApart published evaluated spans) :
    (spans.filterMap (Span.range published evaluated)).Pairwise
      (fun a b => ∀ t, ¬ ((a.1 ≤ t ∧ t < a.2) ∧ (b.1 ≤ t ∧ t < b.2))) := by
  rw [List.pairwise_filterMap]
  apply h.imp
  intro a b hnone range hrange range' hrange' t hboth
  obtain ⟨hactive, -, hstart, hfinish⟩ := Span.range_eq_some hrange
  obtain ⟨hactive', -, hstart', hfinish'⟩ := Span.range_eq_some hrange'
  rw [hstart, hfinish, hstart', hfinish'] at hboth
  exact hnone t ⟨⟨hactive, hboth.1⟩, ⟨hactive', hboth.2⟩⟩

/-- The live time of a span is the length of its range, if it has one. -/
theorem Span.liveTime_eq (span : Span) :
    span.liveTime published evaluated =
      ((span.range published evaluated).map (fun range => range.2 - range.1)).getD 0 := by
  unfold Span.liveTime Span.range
  by_cases hactive : span.active = true
  · by_cases hlt : max span.start published < min span.finish evaluated
    · rw [if_pos hactive, if_pos ⟨hactive, hlt⟩]
      exact max_eq_right (le_of_lt (sub_pos.mpr hlt))
    · rw [if_pos hactive, if_neg (fun h => hlt h.2)]
      exact max_eq_left (sub_nonpos.mpr (not_lt.mp hlt))
  · rw [if_neg hactive, if_neg (fun h => hactive h.1)]
    rfl

/-- A sum over the ranges is a sum over the spans. -/
theorem sum_ranges (f : Duration → Int) (hzero : f 0 = 0) (spans : List Span) :
    ((spans.filterMap (Span.range published evaluated)).map (fun range => f (range.2 - range.1))).sum =
      (spans.map (fun span => f (span.liveTime published evaluated))).sum := by
  induction spans with
  | nil => rfl
  | cons span spans ih =>
    rw [List.map_cons, List.sum_cons, ← ih, Span.liveTime_eq]
    cases hrange : span.range published evaluated with
    | none => simp [hrange, hzero]
    | some range => simp [hrange]

/-- What is counted when no live parts overlap: the whole seconds of each, in whole periods. -/
theorem accumulated_of_apart {spans : List Span} (hapart : LiveApart published evaluated spans)
    (horder : ∀ span ∈ spans, span.start ≤ span.finish) :
    accumulatedLivePeriods published (spans.map Span.interval) evaluated =
      .ok ((spans.map (fun span => span.liveTime published evaluated / 1000000)).sum / periodSeconds) := by
  have hfull : ∀ range ∈ spans.filterMap (Span.range published evaluated), range.1 < range.2 := by
    intro range hrange
    obtain ⟨span, -, hspan⟩ := List.mem_filterMap.mp hrange
    exact (Span.range_eq_some hspan).2.1
  have hfollow := sorted_follow hfull (ranges_apart hapart)
  have hperm := List.perm_insertionSort (fun a b : Moment × Moment => a.1 ≤ b.1)
    (spans.filterMap (Span.range published evaluated))
  have hsum := (hperm.map (fun range => wholeSeconds (range.2 - range.1))).sum_eq
  unfold accumulatedLivePeriods
  rw [liveRanges_ok horder]
  simp only [bind, Except.bind]
  rw [totalSeconds_ok (fun e he => by cases he) hfollow, hsum]
  simp only [wholeSeconds_eq]
  rw [sum_ranges (fun d => d / 1000000) (by decide)]

/-- Durations are their whole seconds and what they have beyond them. -/
theorem seconds_and_fractions (spans : List Span) :
    1000000 * (spans.map (fun span => span.liveTime published evaluated / 1000000)).sum +
      fractions published evaluated spans = liveTime published evaluated spans := by
  unfold fractions liveTime
  induction spans with
  | nil => rfl
  | cons span spans ih =>
    rw [List.map_cons, List.sum_cons, List.map_cons, List.sum_cons, List.map_cons, List.sum_cons, ← ih]
    have hspan := Int.mul_ediv_add_emod (span.liveTime published evaluated) 1000000
    rw [mul_add, add_add_add_comm, hspan]

theorem fractions_nonneg (spans : List Span) : 0 ≤ fractions published evaluated spans := by
  unfold fractions
  apply List.sum_nonneg
  intro f hf
  obtain ⟨span, -, rfl⟩ := List.mem_map.mp hf
  exact Int.emod_nonneg _ (by decide)

/-- Whole seconds lose no period exactly when the fractions fit into what is left of the last one. -/
theorem periods_eq_iff {total seconds lost : Int} (h : 1000000 * seconds + lost = total)
    (hlost : 0 ≤ lost) :
    seconds / periodSeconds = total / period ↔ lost ≤ total % period := by
  unfold periodSeconds period
  omega

/-- No interval ends before it starts, and the fractions of a second of the live parts fit into the part
of a period that is left over. -/
structure FractionsFit (published evaluated : Moment) (spans : List Span) : Prop where
  ordered : ∀ span ∈ spans, span.start ≤ span.finish
  fit : fractions published evaluated spans ≤ liveTime published evaluated spans % period

theorem accumulated_eq_iff {spans : List Span} (hapart : LiveApart published evaluated spans) :
    accumulatedLivePeriods published (spans.map Span.interval) evaluated =
        .ok (liveTime published evaluated spans / period) ↔ FractionsFit published evaluated spans := by
  have hfit := periods_eq_iff (@seconds_and_fractions published evaluated spans) (fractions_nonneg spans)
  constructor
  · intro h
    have horder : ∀ span ∈ spans, span.start ≤ span.finish := by
      cases hranges : liveRanges published evaluated (spans.map Span.interval) with
      | error e =>
        rw [accumulatedLivePeriods, hranges] at h
        cases h
      | ok ranges => exact liveRanges_reversed hranges
    rw [accumulated_of_apart hapart horder] at h
    exact ⟨horder, hfit.mp (Except.ok.inj h)⟩
  · rintro ⟨horder, hfractions⟩
    rw [accumulated_of_apart hapart horder, hfit.mpr hfractions]

end Count

/-! ## Splitting an interval -/

section Split

variable {published evaluated : Moment} {span : Span} {m : Moment}

/-- An interval up to an instant, and from it on. -/
def Span.split (span : Span) (m : Moment) : List Span :=
  [{ span with finish := m }, { span with start := m }]

theorem Span.LiveAt.of_split {part : Span} (hstart : span.start ≤ m) (hfinish : m ≤ span.finish)
    (hpart : part ∈ span.split m) {t : Moment} (h : part.LiveAt published evaluated t) :
    span.LiveAt published evaluated t := by
  obtain ⟨hactive, hle, hlt⟩ := h
  simp only [Span.split, List.mem_cons, List.not_mem_nil, or_false] at hpart
  rcases hpart with rfl | rfl
  · exact ⟨hactive, hle, lt_of_lt_of_le hlt (min_le_min_right _ hfinish)⟩
  · exact ⟨hactive, le_trans (max_le_max_right _ hstart) hle, hlt⟩

/-- The parts of a split interval are apart from one another and from what the interval was apart from. -/
theorem LiveApart.split {before after : List Span} (hstart : span.start ≤ m) (hfinish : m ≤ span.finish)
    (h : LiveApart published evaluated (before ++ span :: after)) :
    LiveApart published evaluated (before ++ (span.split m ++ after)) := by
  unfold LiveApart at h ⊢
  rw [List.pairwise_append, List.pairwise_cons] at h
  obtain ⟨hbefore, ⟨hspan, hafter⟩, hacross⟩ := h
  have hpart : ∀ part ∈ span.split m, ∀ t, part.LiveAt published evaluated t →
      span.LiveAt published evaluated t :=
    fun part hin t hlive => hlive.of_split hstart hfinish hin
  rw [List.pairwise_append, List.pairwise_append]
  refine ⟨hbefore, ⟨?_, hafter, ?_⟩, ?_⟩
  · -- The first part ends where the second starts.
    rw [Span.split, List.pairwise_cons]
    refine ⟨?_, List.pairwise_singleton _ _⟩
    intro other hother t hboth
    rw [List.mem_singleton] at hother
    subst hother
    obtain ⟨⟨-, -, hlt⟩, ⟨-, hle, -⟩⟩ := hboth
    exact absurd (lt_of_lt_of_le hlt (min_le_left _ _)) (not_lt.mpr (le_trans (le_max_left _ _) hle))
  · intro part hin other hother t hboth
    exact hspan other hother t ⟨hpart part hin t hboth.1, hboth.2⟩
  · intro other hother part hin t hboth
    rcases List.mem_append.mp hin with hin | hin
    · exact hacross other hother span List.mem_cons_self t ⟨hboth.1, hpart part hin t hboth.2⟩
    · exact hacross other hother part (List.mem_cons_of_mem _ hin) t hboth

/-- Two adjacent parts of a range, clipped, are as long as the range. -/
theorem clipped_split {a b m p e : Int} (ha : a ≤ m) (hb : m ≤ b) :
    max 0 (min m e - max a p) + max 0 (min b e - max m p) = max 0 (min b e - max a p) := by
  omega

/-- The live time is not changed. -/
theorem liveTime_split {before after : List Span} (hstart : span.start ≤ m) (hfinish : m ≤ span.finish) :
    liveTime published evaluated (before ++ (span.split m ++ after)) =
      liveTime published evaluated (before ++ span :: after) := by
  have hspan : ({ span with finish := m } : Span).liveTime published evaluated +
      ({ span with start := m } : Span).liveTime published evaluated =
        span.liveTime published evaluated := by
    obtain ⟨active, start, finish⟩ := span
    cases active with
    | false => rfl
    | true => exact clipped_split hstart hfinish
  unfold liveTime
  simp only [Span.split, List.map_append, List.map_cons, List.map_nil, List.sum_append, List.sum_cons,
    List.sum_nil, add_zero]
  rw [hspan]

end Split

/-- The whole periods of the live time are counted exactly when the fractions fit, and an interval that is
split where they fit before and after gives the same evaluation. -/
theorem accumulated_iff (published evaluated : Moment) (spans : List Span)
    (hapart : LiveApart published evaluated spans) :
    (accumulatedLivePeriods published (spans.map Span.interval) evaluated =
        .ok (liveTime published evaluated spans / period) ↔
      FractionsFit published evaluated spans) ∧
    ∀ (uuid5 : String → Uuid) (listingId : Uuid) (defect : Option ListingDefect)
      (before after : List Span) (span : Span) (m : Moment), spans = before ++ span :: after →
      span.active = true → span.start < m → m < span.finish →
      FractionsFit published evaluated spans →
      FractionsFit published evaluated (before ++ (span.split m ++ after)) →
        evaluateMaturity uuid5 listingId (.aware published)
            ((before ++ (span.split m ++ after)).map Span.interval) (.aware evaluated) defect =
          evaluateMaturity uuid5 listingId (.aware published) (spans.map Span.interval)
            (.aware evaluated) defect := by
  refine ⟨accumulated_eq_iff hapart, ?_⟩
  intro uuid5 listingId defect before after span m hspans _ hstart hfinish hfit hsplit
  subst hspans
  have hwhole := (accumulated_eq_iff hapart).mpr hfit
  have hparts := (accumulated_eq_iff (hapart.split hstart.le hfinish.le)).mpr hsplit
  rw [liveTime_split hstart.le hfinish.le] at hparts
  simp only [evaluateMaturity, asUtc, bind, Except.bind, hwhole, hparts]

/-- Two intervals, one behind the other. -/
theorem liveApart_pair {a b : Span} {published evaluated : Moment} (h : a.finish ≤ b.start) :
    LiveApart published evaluated [a, b] := by
  unfold LiveApart
  rw [List.pairwise_cons]
  refine ⟨?_, List.pairwise_singleton _ _⟩
  intro other hother t hboth
  rw [List.mem_singleton] at hother
  subst hother
  obtain ⟨⟨-, -, hlt⟩, ⟨-, hle, -⟩⟩ := hboth
  have hfinish : t < a.finish := lt_of_lt_of_le hlt (min_le_left _ _)
  have hstart : other.start ≤ t := le_trans (le_max_left _ _) hle
  exact absurd (lt_of_lt_of_le hfinish h) (not_lt.mpr hstart)

/-- Live for more than a day, paused, and live for more than a day again, to the fraction of a second. -/
def paused : List Span :=
  [⟨true, 250000, 86401750000⟩, ⟨true, 172800125000, 259202875000⟩]

/-- Two periods, also when the second part is split. -/
theorem accumulated_whole :
    accumulatedLivePeriods 0 (paused.map Span.interval) 259202875000 = .ok 2 ∧
      ∀ (uuid5 : String → Uuid) (listingId : Uuid) (defect : Option ListingDefect),
        evaluateMaturity uuid5 listingId (.aware 0)
            ((paused.take 1 ++ (Span.split ⟨true, 172800125000, 259202875000⟩ 200000000500 ++ [])).map
              Span.interval) (.aware 259202875000) defect =
          evaluateMaturity uuid5 listingId (.aware 0) (paused.map Span.interval)
            (.aware 259202875000) defect := by
  have hapart : LiveApart 0 259202875000 paused := liveApart_pair (by decide)
  have hfit : FractionsFit 0 259202875000 paused := ⟨by decide, by decide⟩
  obtain ⟨hcounted, hsplit⟩ := accumulated_iff 0 259202875000 paused hapart
  refine ⟨hcounted.mpr hfit, ?_⟩
  intro uuid5 listingId defect
  exact hsplit uuid5 listingId defect (paused.take 1) [] _ 200000000500 rfl rfl (by decide)
    (by decide) hfit ⟨by decide, by decide⟩

/-- Thirty days live, paused and resumed after half a second. -/
def resumed : List Span :=
  [⟨true, 0, 500000⟩, ⟨true, 500000, 2592000000000⟩]

/-- The half second is lost twice, and with it the thirtieth period. -/
theorem resumed_not_counted :
    ¬ ∀ (published evaluated : Moment) (spans : List Span), LiveApart published evaluated spans →
      accumulatedLivePeriods published (spans.map Span.interval) evaluated =
        .ok (liveTime published evaluated spans / period) := by
  intro h
  have heq := h 0 2592000000000 resumed (liveApart_pair (by decide))
  exact absurd heq (by decide)

end MaturityClock
end Assets
end MoneyMachine
