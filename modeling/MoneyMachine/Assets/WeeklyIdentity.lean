import MoneyMachine.Assets.WeeklyPlan
import MoneyMachine.Observability.ReceiptLog

/-!
# WeeklyIdentity — what the plan and the ledger call one record

The plan knows a window by the instants of its ends.  The ledger knows it by the text of its start, so
another offset gives another key and another end does not.  The version of a listing is in no key.

* `writtenAlike_iff` : two starts have one text exactly if their fields and offsets are the same.
* `agreesOnIdentity_iff` : over all runs, exactly when the two notions agree.
-/

namespace MoneyMachine
namespace Assets

open MoneyMachine.Domain

theorem uuidChars_length (u : Uuid) : (uuidChars u).length = 36 := by
  simp [uuidChars]

/-! ## Texts of datetimes -/

namespace Datetime

variable {Zone : Type}

theorem isoformat_eq_local (t : Observability.Datetime) :
    Observability.isoformat t =
      localText t ++ Observability.offsetText t.negative t.offset := by
  simp [Observability.isoformat, localText]

theorem localText_length (t : Observability.Datetime) :
    (localText t).length = 19 ∨ (localText t).length = 26 := by
  unfold localText Observability.fractionText
  split_ifs <;> simp [Observability.padded_length]

theorem offsetText_length (negative : Bool) (offset : Nat) :
    (Observability.offsetText negative offset).length = 6 ∨
      (Observability.offsetText negative offset).length = 9 ∨
        (Observability.offsetText negative offset).length = 16 := by
  unfold Observability.offsetText Observability.fractionText
  split_ifs <;> simp [Observability.padded_length]

theorem isoformat_fields_injective {t u : Observability.Datetime}
    (h : Observability.isoformat t = Observability.isoformat u) : t = u := by
  have ht := Observability.fromisoformat_isoformat t
  rw [h, Observability.fromisoformat_isoformat] at ht
  exact (Option.some.inj ht).symm

/-- A text with an offset is no text without one. -/
theorem isoformat_ne_localText (t u : Observability.Datetime) :
    Observability.isoformat t ≠ localText u := by
  intro h
  have hlength := congrArg List.length h
  rw [isoformat_eq_local, List.length_append] at hlength
  have ht := localText_length t
  have hu := localText_length u
  have hoffset := offsetText_length t.negative t.offset
  omega

theorem unsigned_of_naive {t : Datetime Zone} (h : t.aware = false) : t.fields.negative = false := by
  cases hnegative : t.fields.negative with
  | false => rfl
  | true => exact absurd (t.unshifted h) (t.fields.signed hnegative)

theorem fields_eq_of_localText {t u : Datetime Zone} (ht : t.aware = false) (hu : u.aware = false)
    (h : localText t.fields = localText u.fields) : t.fields = u.fields := by
  apply isoformat_fields_injective
  rw [isoformat_eq_local, isoformat_eq_local, h, unsigned_of_naive ht, unsigned_of_naive hu,
    t.unshifted ht, u.unshifted hu]

/-- Two datetimes have the same local fields and the same offset. -/
def WrittenAlike (t u : Datetime Zone) : Prop :=
  t.fields = u.fields ∧ t.aware = u.aware

theorem writtenAlike_iff (t u : Datetime Zone) :
    WrittenAlike t u ↔ t.isoformat = u.isoformat := by
  constructor
  · rintro ⟨hfields, haware⟩
    simp only [isoformat, hfields, haware]
  · intro h
    unfold isoformat at h
    cases ht : t.aware with
    | true =>
      cases hu : u.aware with
      | true =>
        simp only [ht, hu, if_true] at h
        exact ⟨isoformat_fields_injective h, by rw [ht, hu]⟩
      | false =>
        simp only [ht, hu, if_true, Bool.false_eq_true, if_false] at h
        exact absurd h (isoformat_ne_localText _ _)
    | false =>
      cases hu : u.aware with
      | true =>
        simp only [ht, hu, if_true, Bool.false_eq_true, if_false] at h
        exact absurd h.symm (isoformat_ne_localText _ _)
      | false =>
        simp only [ht, hu, Bool.false_eq_true, if_false] at h
        exact ⟨fields_eq_of_localText ht hu h, by rw [ht, hu]⟩

end Datetime

/-! ## Keys of records -/

section Keys

variable {Zone : Type} {shopId : Uuid}

/-- A collection names its listing and a review names none. -/
def CollectionRecord.Named (record : CollectionRecord Zone) : Prop :=
  match record.kind with
  | .collection => record.listingId ≠ none
  | .shopReview => record.listingId = none

theorem triggerKey_collection_injective {r s : CollectionRecord Zone} {a b : Uuid}
    (hr : r.kind = .collection) (hs : s.kind = .collection) (ha : r.listingId = some a)
    (hb : s.listingId = some b) (h : triggerKey shopId r = triggerKey shopId s) :
    a = b ∧ r.windowStart.isoformat = s.windowStart.isoformat := by
  simp only [triggerKey, hr, hs, ha, hb, Except.ok.injEq, List.append_cancel_left_eq] at h
  have hsplit := List.append_inj h (by rw [uuidChars_length, uuidChars_length])
  exact ⟨uuidChars_injective hsplit.1, (List.cons.inj hsplit.2).2⟩

/-- A key of a planned record says which kind it is of, which listing, and the text of the start. -/
theorem triggerKey_eq_iff {r s : CollectionRecord Zone} (hr : r.Named) (hs : s.Named) :
    triggerKey shopId r = triggerKey shopId s ↔
      r.kind = s.kind ∧ r.listingId = s.listingId ∧
        r.windowStart.WrittenAlike s.windowStart := by
  rw [Datetime.writtenAlike_iff]
  constructor
  · intro h
    cases hkind : r.kind with
    | collection =>
      have hlisting : r.listingId ≠ none := by simpa only [CollectionRecord.Named, hkind] using hr
      obtain ⟨a, ha⟩ := Option.ne_none_iff_exists'.mp hlisting
      cases hother : s.kind with
      | collection =>
        have hlisted : s.listingId ≠ none := by
          simpa only [CollectionRecord.Named, hother] using hs
        obtain ⟨b, hb⟩ := Option.ne_none_iff_exists'.mp hlisted
        obtain ⟨hids, htexts⟩ := triggerKey_collection_injective hkind hother ha hb h
        exact ⟨rfl, by rw [ha, hb, hids], htexts⟩
      | shopReview =>
        simp [triggerKey, hkind, hother, ha] at h
    | shopReview =>
      cases hother : s.kind with
      | collection =>
        have hlisted : s.listingId ≠ none := by
          simpa only [CollectionRecord.Named, hother] using hs
        obtain ⟨b, hb⟩ := Option.ne_none_iff_exists'.mp hlisted
        simp [triggerKey, hkind, hother, hb] at h
      | shopReview =>
        have hnone : r.listingId = none := by simpa only [CollectionRecord.Named, hkind] using hr
        have hnone' : s.listingId = none := by
          simpa only [CollectionRecord.Named, hother] using hs
        simp only [triggerKey, hkind, hother, Except.ok.injEq,
          List.append_cancel_left_eq] at h
        exact ⟨rfl, by rw [hnone, hnone'], h⟩
  · rintro ⟨hkind, hlisting, htext⟩
    unfold triggerKey
    rw [hkind, hlisting, htext]

theorem triggerKey_ok (shopId : Uuid) {r : CollectionRecord Zone} (hr : r.Named) :
    ∃ key, triggerKey shopId r = .ok key := by
  unfold triggerKey
  unfold CollectionRecord.Named at hr
  cases hkind : r.kind with
  | collection =>
    rw [hkind] at hr
    obtain ⟨a, ha⟩ := Option.ne_none_iff_exists'.mp hr
    rw [ha]
    exact ⟨_, rfl⟩
  | shopReview => exact ⟨_, rfl⟩

end Keys

/-! ## Runs -/

section Runs

variable {Zone Snapshot : Type} [DecidableEq Zone]

/-- What the two functions take as one record, on the side of the plan: windows are compared as
`plan_weekly` compares them. -/
def CollectionRecord.sameIdentity (r s : CollectionRecord Zone) : Bool :=
  decide (r.kind = s.kind) && decide (r.listingId = s.listingId) &&
    decide (r.listingVersion = s.listingVersion) && r.covers s.windowStart s.windowEnd

/-- A call of `plan_weekly`, whose plan is then persisted.  A replay passes no existing records. -/
structure WeeklyCall (Zone Snapshot : Type) where
  listings : List ActiveListing
  windowStart : Datetime Zone
  windowEnd : Datetime Zone
  priorSnapshots : List Snapshot
  replay : Bool
  nextFireAt : Datetime Zone

/-- The ledger, and every record planned so far. -/
structure WeeklyLoop (Zone : Type) where
  ledger : TriggerLedger Zone
  planned : List (CollectionRecord Zone)

def WeeklyLoop.start : WeeklyLoop Zone :=
  { ledger := .empty, planned := [] }

/-- What one call planned and stored, and what had been planned before it. -/
structure WeeklyVisit (Zone : Type) where
  before : List (CollectionRecord Zone)
  records : List (CollectionRecord Zone)
  inserted : Except String (List (StoredTrigger Zone))

/-- One call.  A call that plans nothing because it raises leaves the loop as it was. -/
def WeeklyLoop.call (shopId : Uuid) (s : WeeklyLoop Zone) (c : WeeklyCall Zone Snapshot) :
    WeeklyLoop Zone × List (WeeklyVisit Zone) :=
  match planWeekly c.listings c.windowStart c.windowEnd c.priorSnapshots
      (if c.replay then [] else s.planned) with
  | .error _ => (s, [])
  | .ok plan =>
    let stored := persistWeeklyPlan s.ledger shopId plan c.nextFireAt
    ({ ledger := stored.1, planned := s.planned ++ plan.records },
      [{ before := s.planned, records := plan.records, inserted := stored.2 }])

/-- A run of calls, with its visits. -/
def WeeklyLoop.run (shopId : Uuid) (s : WeeklyLoop Zone) :
    List (WeeklyCall Zone Snapshot) → WeeklyLoop Zone × List (WeeklyVisit Zone)
  | [] => (s, [])
  | c :: calls =>
    let (next, visit) := s.call shopId c
    let (last, visits) := next.run shopId calls
    (last, visit ++ visits)

/-- A row of the ledger is the trigger of both records. -/
def SharesTrigger (shopId : Uuid) (ledger : TriggerLedger Zone) (r s : CollectionRecord Zone) : Prop :=
  ∃ row ∈ ledger.rows,
    triggerKey shopId r = .ok row.triggerKey ∧ triggerKey shopId s = .ok row.triggerKey

/-- The records that are not the same as an earlier one. -/
def newRecords : List (CollectionRecord Zone) → List (CollectionRecord Zone) →
    List (CollectionRecord Zone)
  | _, [] => []
  | earlier, r :: rest =>
    if earlier.any (·.sameIdentity r) then
      newRecords (earlier ++ [r]) rest
    else
      r :: newRecords (earlier ++ [r]) rest

/-- Planning and persistence agree on identity: two records share a trigger if they are the same, and
every call stores the triggers of its new records and no other. -/
structure AgreesOnIdentity (shopId : Uuid) (calls : List (WeeklyCall Zone Snapshot)) : Prop where
  shared : ∀ r ∈ (WeeklyLoop.start.run shopId calls).1.planned,
    ∀ s ∈ (WeeklyLoop.start.run shopId calls).1.planned,
      SharesTrigger shopId (WeeklyLoop.start.run shopId calls).1.ledger r s ↔
        r.sameIdentity s = true
  inserted : ∀ v ∈ (WeeklyLoop.start.run shopId calls).2, ∃ rows, v.inserted = .ok rows ∧
    rows.map (fun row => Except.ok row.triggerKey) =
      (newRecords v.before v.records).map (triggerKey shopId)

/-- The window of `c` is that of `d`. -/
def WeeklyCall.sameWindow (c d : WeeklyCall Zone Snapshot) : Bool :=
  c.windowStart.eq d.windowStart && c.windowEnd.eq d.windowEnd

/-- The window of a call is in order, and no call before it is known to have planned it. -/
def WeeklyCall.plans (earlier : List (WeeklyCall Zone Snapshot)) (c : WeeklyCall Zone Snapshot) :
    Bool :=
  decide (c.windowEnd.le c.windowStart = some false) &&
    (c.replay || !earlier.any (·.sameWindow c))

/-- The calls that plan records, after `earlier`. -/
def planningCalls : List (WeeklyCall Zone Snapshot) → List (WeeklyCall Zone Snapshot) →
    List (WeeklyCall Zone Snapshot)
  | earlier, [] => earlier
  | earlier, c :: calls =>
    if c.plans earlier then planningCalls (earlier ++ [c]) calls else planningCalls earlier calls

/-- Windows are the same exactly if their starts are written alike, and no window has two versions of
one active listing. -/
structure WindowsWrittenApart (calls : List (WeeklyCall Zone Snapshot)) : Prop where
  starts : ∀ c ∈ planningCalls [] calls, ∀ d ∈ planningCalls [] calls,
    c.windowStart.WrittenAlike d.windowStart ↔ c.sameWindow d = true
  versions : ∀ c ∈ planningCalls [] calls, ∀ d ∈ planningCalls [] calls,
    c.sameWindow d = true → ∀ a ∈ c.listings, ∀ b ∈ d.listings, a.active = true →
      b.active = true → a.listingId = b.listingId → a.listingVersion = b.listingVersion

/-! ## What a call plans -/

/-- The records of a call that plans. -/
def WeeklyCall.records (c : WeeklyCall Zone Snapshot) : List (CollectionRecord Zone) :=
  (c.listings.filter (·.active)).map (collection c.windowStart c.windowEnd) ++
    [shopReview c.windowStart c.windowEnd]

omit [DecidableEq Zone] in
theorem records_cases {c : WeeklyCall Zone Snapshot} {r : CollectionRecord Zone}
    (h : r ∈ c.records) :
    (∃ a ∈ c.listings, a.active = true ∧ r = collection c.windowStart c.windowEnd a) ∨
      r = shopReview c.windowStart c.windowEnd := by
  rcases List.mem_append.mp h with hcollection | hreview
  · left
    obtain ⟨a, ha, rfl⟩ := List.mem_map.mp hcollection
    obtain ⟨hmem, hactive⟩ := List.mem_filter.mp ha
    exact ⟨a, hmem, hactive, rfl⟩
  · right
    exact List.mem_singleton.mp hreview

omit [DecidableEq Zone] in
theorem collection_mem_records {c : WeeklyCall Zone Snapshot} {a : ActiveListing}
    (ha : a ∈ c.listings) (hactive : a.active = true) :
    collection c.windowStart c.windowEnd a ∈ c.records := by
  apply List.mem_append_left
  apply List.mem_map_of_mem
  exact List.mem_filter.mpr ⟨ha, hactive⟩

omit [DecidableEq Zone] in
theorem shopReview_mem_records (c : WeeklyCall Zone Snapshot) :
    shopReview c.windowStart c.windowEnd ∈ c.records :=
  List.mem_append_right _ (List.mem_singleton.mpr rfl)

omit [DecidableEq Zone] in
theorem named_of_mem_records {c : WeeklyCall Zone Snapshot} {r : CollectionRecord Zone}
    (h : r ∈ c.records) : r.Named := by
  rcases records_cases h with ⟨a, -, -, rfl⟩ | rfl
  · exact Option.some_ne_none _
  · rfl

omit [DecidableEq Zone] in
theorem window_of_mem_records {c : WeeklyCall Zone Snapshot} {r : CollectionRecord Zone}
    (h : r ∈ c.records) : r.windowStart = c.windowStart ∧ r.windowEnd = c.windowEnd := by
  rcases records_cases h with ⟨a, -, -, rfl⟩ | rfl
  · exact ⟨rfl, rfl⟩
  · exact ⟨rfl, rfl⟩

/-- A window has records exactly if a planning call had that window. -/
theorem any_covers (earlier : List (WeeklyCall Zone Snapshot)) (c : WeeklyCall Zone Snapshot) :
    (earlier.flatMap WeeklyCall.records).any (·.covers c.windowStart c.windowEnd) =
      earlier.any (·.sameWindow c) := by
  rw [Bool.eq_iff_iff, List.any_eq_true, List.any_eq_true]
  constructor
  · rintro ⟨r, hr, hcovers⟩
    obtain ⟨d, hd, hmem⟩ := List.mem_flatMap.mp hr
    obtain ⟨hstart, hend⟩ := window_of_mem_records hmem
    refine ⟨d, hd, ?_⟩
    rw [WeeklyCall.sameWindow, ← hstart, ← hend]
    exact hcovers
  · rintro ⟨d, hd, hsame⟩
    exact ⟨_, List.mem_flatMap.mpr ⟨d, hd, shopReview_mem_records d⟩, hsame⟩

end Runs

/-! ## What a call stores -/

section Storing

variable {Zone Snapshot : Type} {shopId : Uuid} {nextFireAt : Datetime Zone}

/-- Every record finds its key in the ledger afterwards, and no other key is added. -/
theorem keys_persistRecords {records : List (CollectionRecord Zone)}
    (hnamed : ∀ r ∈ records, r.Named) (ledger : TriggerLedger Zone)
    (inserted : List (StoredTrigger Zone)) (key : List Char) :
    key ∈ (persistRecords shopId nextFireAt ledger inserted records).1.keys ↔
      key ∈ ledger.keys ∨ ∃ r ∈ records, triggerKey shopId r = .ok key := by
  induction records generalizing ledger inserted with
  | nil => simp [persistRecords]
  | cons record rest ih =>
    obtain ⟨own, hown⟩ := triggerKey_ok shopId (hnamed record List.mem_cons_self)
    have hrest := fun r hr => hnamed r (List.mem_cons_of_mem _ hr)
    simp only [persistRecords, hown]
    rw [ih hrest, TriggerLedger.keys_insert, or_assoc]
    apply or_congr_right
    simp only [List.mem_cons, exists_eq_or_imp, hown, Except.ok.injEq]
    exact or_congr_left eq_comm

variable [DecidableEq Zone]

/-- Where keys agree with identity, the triggers stored are those of the new records.  The induction
is on the records; what is behind the loop counts as earlier. -/
theorem persistRecords_new (shopId : Uuid) (nextFireAt : Datetime Zone)
    {records before : List (CollectionRecord Zone)}
    (hnamed : ∀ r ∈ records, r.Named) {ledger : TriggerLedger Zone}
    (hkeys : ∀ key, key ∈ ledger.keys ↔ ∃ r ∈ before, triggerKey shopId r = .ok key)
    (hagree : ∀ r ∈ before ++ records, ∀ s ∈ records,
      triggerKey shopId r = triggerKey shopId s ↔ r.sameIdentity s = true)
    (inserted : List (StoredTrigger Zone)) :
    ∃ rows, (persistRecords shopId nextFireAt ledger inserted records).2 = .ok (inserted ++ rows) ∧
      rows.map (fun row => Except.ok row.triggerKey) =
        (newRecords before records).map (triggerKey shopId) := by
  induction records generalizing before ledger inserted with
  | nil => exact ⟨[], by simp [persistRecords], rfl⟩
  | cons record rest ih =>
    obtain ⟨own, hown⟩ := triggerKey_ok shopId (hnamed record List.mem_cons_self)
    have hseen : own ∈ ledger.keys ↔ before.any (·.sameIdentity record) = true := by
      rw [hkeys, List.any_eq_true]
      constructor
      · rintro ⟨r, hr, hkey⟩
        refine ⟨r, hr, ?_⟩
        apply (hagree r (List.mem_append_left _ hr) record List.mem_cons_self).mp
        rw [hkey, hown]
      · rintro ⟨r, hr, hsame⟩
        refine ⟨r, hr, ?_⟩
        rw [← hown]
        exact (hagree r (List.mem_append_left _ hr) record List.mem_cons_self).mpr hsame
    have hkeys' : ∀ key, key ∈ (ledger.insert (weeklyTrigger shopId nextFireAt own)).1.keys ↔
        ∃ r ∈ before ++ [record], triggerKey shopId r = .ok key := by
      intro key
      rw [TriggerLedger.keys_insert, hkeys]
      simp only [List.mem_append, List.mem_singleton, or_and_right, exists_or, exists_eq_left,
        hown, Except.ok.injEq]
      exact or_congr_right eq_comm
    have hagree' : ∀ r ∈ (before ++ [record]) ++ rest, ∀ s ∈ rest,
        triggerKey shopId r = triggerKey shopId s ↔ r.sameIdentity s = true := by
      intro r hr s hs
      apply hagree r _ s (List.mem_cons_of_mem _ hs)
      simpa using hr
    obtain ⟨rows, hresult, hrows⟩ := ih (fun r hr => hnamed r (List.mem_cons_of_mem _ hr))
      hkeys' hagree' (inserted ++
        (ledger.insert (weeklyTrigger shopId nextFireAt own)).2.toList)
    simp only [persistRecords, hown, newRecords]
    rw [hresult]
    by_cases hold : own ∈ ledger.keys
    · -- The key was there: nothing is stored, and the record is not new.
      refine ⟨rows, ?_, ?_⟩
      · rw [TriggerLedger.insert_snd, weeklyTrigger_triggerKey, if_pos hold]
        simp
      · rw [if_pos (hseen.mp hold), hrows]
    · refine ⟨weeklyTrigger shopId nextFireAt own :: rows, ?_, ?_⟩
      · rw [TriggerLedger.insert_snd, weeklyTrigger_triggerKey, if_neg hold]
        simp
      · rw [if_neg (fun hany => hold (hseen.mpr hany)), List.map_cons, List.map_cons, hrows, hown]
        rfl

end Storing

/-! ## What a run keeps -/

section Keeping

variable {Zone Snapshot : Type} [DecidableEq Zone] {shopId : Uuid}

/-- The planned records are those of the planning calls, and the ledger has their keys. -/
structure Settles (shopId : Uuid) (earlier : List (WeeklyCall Zone Snapshot)) (s : WeeklyLoop Zone) :
    Prop where
  planned : s.planned = earlier.flatMap WeeklyCall.records
  keys : ∀ key, key ∈ s.ledger.keys ↔ ∃ r ∈ s.planned, triggerKey shopId r = .ok key

omit [DecidableEq Zone] in
theorem Settles.start (shopId : Uuid) : Settles shopId ([] : List (WeeklyCall Zone Snapshot)) WeeklyLoop.start :=
  { planned := rfl
    keys := by simp [WeeklyLoop.start, TriggerLedger.empty, TriggerLedger.keys] }

omit [DecidableEq Zone] in
theorem Settles.named {earlier : List (WeeklyCall Zone Snapshot)} {s : WeeklyLoop Zone}
    (h : Settles shopId earlier s) : ∀ r ∈ s.planned, r.Named := by
  intro r hr
  rw [h.planned] at hr
  obtain ⟨c, -, hmem⟩ := List.mem_flatMap.mp hr
  exact named_of_mem_records hmem

/-- What `plan_weekly` returns, by what it finds among the existing records. -/
theorem planWeekly_eq (c : WeeklyCall Zone Snapshot) (existing : List (CollectionRecord Zone)) :
    planWeekly c.listings c.windowStart c.windowEnd c.priorSnapshots existing =
      match c.windowEnd.le c.windowStart with
      | none => .error .typeError
      | some true => .error (.refusal "window")
      | some false => .ok
          { records :=
              if existing.any (·.covers c.windowStart c.windowEnd) then [] else c.records
            priorSnapshots := c.priorSnapshots } := by
  unfold planWeekly window
  cases hle : c.windowEnd.le c.windowStart with
  | none => rfl
  | some late =>
    cases late with
    | true => rfl
    | false =>
      simp only [bind, Except.bind]
      split_ifs <;> rfl

/-- One call: it refuses its window, or it plans and stores the records of a planning call. -/
theorem call_cases {earlier : List (WeeklyCall Zone Snapshot)} {s : WeeklyLoop Zone}
    (h : Settles shopId earlier s) (c : WeeklyCall Zone Snapshot) :
    (c.plans earlier = false ∧ s.call shopId c = (s, [])) ∨
      ∃ records, records = (if c.plans earlier then c.records else []) ∧
        s.call shopId c =
          ({ ledger := (persistRecords shopId c.nextFireAt s.ledger [] records).1
             planned := s.planned ++ records },
            [{ before := s.planned
               records := records
               inserted := (persistRecords shopId c.nextFireAt s.ledger [] records).2 }]) := by
  unfold WeeklyLoop.call WeeklyCall.plans
  rw [planWeekly_eq]
  cases hle : c.windowEnd.le c.windowStart with
  | none => exact Or.inl ⟨rfl, rfl⟩
  | some late =>
    cases late with
    | true => exact Or.inl ⟨rfl, rfl⟩
    | false =>
      right
      refine ⟨_, rfl, ?_⟩
      have hfound : (if c.replay then [] else s.planned).any
          (·.covers c.windowStart c.windowEnd) = !(c.replay || !earlier.any (·.sameWindow c)) := by
        cases c.replay with
        | true => rfl
        | false =>
          rw [if_neg Bool.false_ne_true, h.planned, any_covers]
          simp
      simp only [hfound, decide_true, Bool.true_and, persistWeeklyPlan]
      cases c.replay || !earlier.any (·.sameWindow c) <;> rfl

theorem call_settles {earlier : List (WeeklyCall Zone Snapshot)} {s : WeeklyLoop Zone}
    (h : Settles shopId earlier s) (c : WeeklyCall Zone Snapshot) :
    Settles shopId (if c.plans earlier then earlier ++ [c] else earlier) (s.call shopId c).1 := by
  rcases call_cases h c with ⟨hskip, hcall⟩ | ⟨records, hrecords, hcall⟩
  · rw [hcall, hskip]
    exact h
  · rw [hcall]
    have hnamed : ∀ r ∈ records, r.Named := by
      intro r hr
      rw [hrecords] at hr
      split_ifs at hr with hplans
      · exact named_of_mem_records hr
      · exact absurd hr List.not_mem_nil
    constructor
    · rw [hrecords, h.planned]
      split_ifs <;> simp
    · intro key
      rw [keys_persistRecords hnamed, h.keys]
      simp only [List.mem_append, or_and_right, exists_or]

theorem run_settles (calls : List (WeeklyCall Zone Snapshot))
    {earlier : List (WeeklyCall Zone Snapshot)} {s : WeeklyLoop Zone}
    (h : Settles shopId earlier s) :
    Settles shopId (planningCalls earlier calls) (s.run shopId calls).1 := by
  induction calls generalizing earlier s with
  | nil => exact h
  | cons c calls ih =>
    have hnext := ih (call_settles h c)
    rw [planningCalls]
    split_ifs at hnext ⊢ with hplans
    · exact hnext
    · exact hnext

theorem run_cons (c : WeeklyCall Zone Snapshot) (calls : List (WeeklyCall Zone Snapshot))
    (s : WeeklyLoop Zone) :
    s.run shopId (c :: calls) =
      (((s.call shopId c).1.run shopId calls).1,
        (s.call shopId c).2 ++ ((s.call shopId c).1.run shopId calls).2) :=
  rfl

/-- A planned record stays planned. -/
theorem planned_subset_run (shopId : Uuid) (calls : List (WeeklyCall Zone Snapshot)) (s : WeeklyLoop Zone) :
    s.planned ⊆ (s.run shopId calls).1.planned := by
  induction calls generalizing s with
  | nil => exact fun r hr => hr
  | cons c calls ih =>
    have hstep : s.planned ⊆ (s.call shopId c).1.planned := by
      unfold WeeklyLoop.call
      split
      · exact fun r hr => hr
      · exact List.subset_append_left _ _
    exact List.Subset.trans hstep (ih _)

/-- Where keys agree with identity over a whole run, each of its calls stores its new records. -/
theorem run_inserted {calls earlier : List (WeeklyCall Zone Snapshot)} {s : WeeklyLoop Zone}
    (h : Settles shopId earlier s)
    (hagree : ∀ r ∈ (s.run shopId calls).1.planned, ∀ t ∈ (s.run shopId calls).1.planned,
      triggerKey shopId r = triggerKey shopId t ↔ r.sameIdentity t = true) :
    ∀ v ∈ (s.run shopId calls).2, ∃ rows, v.inserted = .ok rows ∧
      rows.map (fun row => Except.ok row.triggerKey) =
        (newRecords v.before v.records).map (triggerKey shopId) := by
  induction calls generalizing earlier s with
  | nil =>
    intro v hv
    exact absurd hv List.not_mem_nil
  | cons c calls ih =>
    intro v hv
    rw [run_cons] at hv hagree
    have hlater := planned_subset_run shopId calls (s.call shopId c).1
    have hnext := call_settles h c
    rcases List.mem_append.mp hv with hhead | htail
    · rcases call_cases h c with ⟨-, hcall⟩ | ⟨records, -, hcall⟩
      · rw [hcall] at hhead
        exact absurd hhead List.not_mem_nil
      · rw [hcall] at hhead hlater hnext
        obtain rfl := List.mem_singleton.mp hhead
        have hnamed : ∀ r ∈ records, r.Named :=
          fun r hr => hnext.named r (List.mem_append_right _ hr)
        rw [hcall] at hagree
        obtain ⟨rows, hresult, hrows⟩ := persistRecords_new shopId
          c.nextFireAt hnamed h.keys
          (fun r hr t ht => hagree r (hlater hr) t (hlater (List.mem_append_right _ ht))) []
        exact ⟨rows, hresult, hrows⟩
    · exact ih hnext hagree v htail

/-! ## Agreement -/

omit [DecidableEq Zone] in
/-- Planned records share a trigger exactly if their keys are equal. -/
theorem sharesTrigger_iff {earlier : List (WeeklyCall Zone Snapshot)} {s : WeeklyLoop Zone}
    (h : Settles shopId earlier s) {r t : CollectionRecord Zone} (hr : r ∈ s.planned) :
    SharesTrigger shopId s.ledger r t ↔ triggerKey shopId r = triggerKey shopId t := by
  constructor
  · rintro ⟨row, -, hkey, hother⟩
    rw [hkey, hother]
  · intro heq
    obtain ⟨key, hkey⟩ := triggerKey_ok shopId (h.named r hr)
    have hmem := (h.keys key).mpr ⟨r, hr, hkey⟩
    obtain ⟨row, hrow, rfl⟩ := List.mem_map.mp hmem
    exact ⟨row, hrow, hkey, heq ▸ hkey⟩

/-- Keys agree with identity over the records of `calls` exactly if the condition holds of them. -/
theorem keys_agree_iff (shopId : Uuid) (calls : List (WeeklyCall Zone Snapshot)) :
    (∀ r ∈ calls.flatMap WeeklyCall.records, ∀ s ∈ calls.flatMap WeeklyCall.records,
      triggerKey shopId r = triggerKey shopId s ↔ r.sameIdentity s = true) ↔
    (∀ c ∈ calls, ∀ d ∈ calls,
      (c.windowStart.WrittenAlike d.windowStart ↔ c.sameWindow d = true) ∧
      (c.sameWindow d = true → ∀ a ∈ c.listings, ∀ b ∈ d.listings, a.active = true →
        b.active = true → a.listingId = b.listingId → a.listingVersion = b.listingVersion)) := by
  constructor
  · intro hagree c hc d hd
    have hreviews := hagree _ (List.mem_flatMap.mpr ⟨c, hc, shopReview_mem_records c⟩) _
      (List.mem_flatMap.mpr ⟨d, hd, shopReview_mem_records d⟩)
    rw [triggerKey_eq_iff (named_of_mem_records (shopReview_mem_records c))
      (named_of_mem_records (shopReview_mem_records d))] at hreviews
    have hstarts : c.windowStart.WrittenAlike d.windowStart ↔ c.sameWindow d = true := by
      simpa [shopReview, CollectionRecord.sameIdentity, CollectionRecord.covers,
        WeeklyCall.sameWindow] using hreviews
    refine ⟨hstarts, ?_⟩
    intro hsame a ha b hb hactive hactive' hid
    have hpair := hagree _ (List.mem_flatMap.mpr ⟨c, hc, collection_mem_records ha hactive⟩) _
      (List.mem_flatMap.mpr ⟨d, hd, collection_mem_records hb hactive'⟩)
    rw [triggerKey_eq_iff (named_of_mem_records (collection_mem_records ha hactive))
      (named_of_mem_records (collection_mem_records hb hactive'))] at hpair
    have hidentity := hpair.mp ⟨rfl, congrArg some hid, hstarts.mpr hsame⟩
    simp only [CollectionRecord.sameIdentity, Bool.and_eq_true, decide_eq_true_eq] at hidentity
    exact Option.some.inj hidentity.1.2
  · intro hcalls r hr s hs
    obtain ⟨c, hc, hrc⟩ := List.mem_flatMap.mp hr
    obtain ⟨d, hd, hsd⟩ := List.mem_flatMap.mp hs
    obtain ⟨hstarts, hversions⟩ := hcalls c hc d hd
    obtain ⟨hrstart, hrend⟩ := window_of_mem_records hrc
    obtain ⟨hsstart, hsend⟩ := window_of_mem_records hsd
    rw [triggerKey_eq_iff (named_of_mem_records hrc) (named_of_mem_records hsd), hrstart, hsstart,
      hstarts, CollectionRecord.sameIdentity, CollectionRecord.covers, hrstart, hrend, hsstart,
      hsend]
    simp only [Bool.and_eq_true, decide_eq_true_eq]
    constructor
    · rintro ⟨hkind, hlisting, hsame⟩
      have hversion : r.listingVersion = s.listingVersion := by
        rcases records_cases hrc with ⟨a, ha, hactive, rfl⟩ | rfl
        · rcases records_cases hsd with ⟨b, hb, hactive', rfl⟩ | rfl
          · exact congrArg some
              (hversions hsame a ha b hb hactive hactive' (Option.some.inj hlisting))
          · exact absurd hkind (by simp [collection, shopReview])
        · rcases records_cases hsd with ⟨b, -, -, rfl⟩ | rfl
          · exact absurd hkind (by simp [collection, shopReview])
          · rfl
      refine ⟨⟨⟨hkind, hlisting⟩, hversion⟩, ?_⟩
      simpa [WeeklyCall.sameWindow] using hsame
    · rintro ⟨⟨⟨hkind, hlisting⟩, -⟩, hsame⟩
      exact ⟨hkind, hlisting, by simpa [WeeklyCall.sameWindow] using hsame⟩

/-- Over all runs of the plan and the ledger of a shop: they agree on what one record is exactly if
windows are the same exactly where their starts are written alike, and a window never has two versions
of one active listing. -/
theorem agreesOnIdentity_iff (shopId : Uuid) (calls : List (WeeklyCall Zone Snapshot)) :
    AgreesOnIdentity shopId calls ↔ WindowsWrittenApart calls := by
  have hsettled := run_settles calls (Settles.start shopId)
  have hkeys := keys_agree_iff shopId (planningCalls [] calls)
  rw [← hsettled.planned] at hkeys
  constructor
  · intro h
    have hcalls := hkeys.mp (by
      intro r hr s hs
      rw [← sharesTrigger_iff hsettled hr]
      exact h.shared r hr s hs)
    exact
      { starts := fun c hc d hd => (hcalls c hc d hd).1
        versions := fun c hc d hd => (hcalls c hc d hd).2 }
  · intro h
    have hagree := hkeys.mpr (fun c hc d hd => ⟨h.starts c hc d hd, h.versions c hc d hd⟩)
    exact
      { shared := by
          intro r hr s hs
          rw [sharesTrigger_iff hsettled hr]
          exact hagree r hr s hs
        inserted := run_inserted (Settles.start shopId) hagree }

end Keeping

/-! ## A window dropped -/

section October

local instance neZeroYears : NeZero 10000 := inferInstance
local instance neZeroMonths : NeZero 13 := inferInstance
local instance neZeroHours : NeZero 24 := inferInstance
local instance neZeroMinutes : NeZero 60 := inferInstance
local instance neZeroMicroseconds : NeZero 1000000 := inferInstance
local instance neZeroOffsets : NeZero 86400000000 := inferInstance

theorem october_signed : false = true → ((0 : Fin 86400000000) : Nat) ≠ 0 := by
  decide

/-- Midnight of a day of October 2026, UTC. -/
def october (day : Nat) (h : day < 32) (hdate : Observability.validDate 2026 10 day = true) :
    Datetime Unit :=
  { fields :=
      { year := 2026, month := 10, day := ⟨day, h⟩, hour := 0, minute := 0, second := 0
        microsecond := 0, negative := false, offset := 0, date := hdate, signed := october_signed }
    zone := some ()
    aware := true
    folds := false
    naive := by decide
    unshifted := fun _ => rfl }

end October

/-- A week and a fortnight that start together. -/
def startTogether : List (WeeklyCall Unit Unit) :=
  [{ listings := [], windowStart := october 5 (by decide) (by decide)
     windowEnd := october 12 (by decide) (by decide), priorSnapshots := [], replay := false
     nextFireAt := october 12 (by decide) (by decide) },
   { listings := [], windowStart := october 5 (by decide) (by decide)
     windowEnd := october 19 (by decide) (by decide), priorSnapshots := [], replay := false
     nextFireAt := october 19 (by decide) (by decide) }]

/-- Both windows are planned, and the trigger of the second is not stored. -/
theorem second_window_dropped : ¬ AgreesOnIdentity 7 startTogether := by
  intro h
  have hplanned : (WeeklyLoop.start.run 7 startTogether).1.planned =
      [shopReview (october 5 (by decide) (by decide)) (october 12 (by decide) (by decide)),
        shopReview (october 5 (by decide) (by decide)) (october 19 (by decide) (by decide))] := rfl
  have hshared := h.shared
  rw [hplanned] at hshared
  have hsame := (hshared _ List.mem_cons_self _ (List.mem_cons_of_mem _ List.mem_cons_self)).mp
    ⟨_, List.mem_cons_self, rfl, rfl⟩
  exact absurd hsame (by decide)

end Assets
end MoneyMachine
