import MoneyMachine.Agents.NotionCheckpoints

/-!
# CheckpointDocuments — what is written is read back

A document that passes the checks of the loader is accepted from its own text, with the payload and the
progress it was written with; a text that is cut anywhere is not.  The other results say when the
documents that the code builds pass those checks.
-/

namespace MoneyMachine
namespace Agents
namespace Progress

open MoneyMachine.Library
open MoneyMachine.Library.Json

/-! ## Dictionaries -/

theorem lookup_without (name : Text) (d : Dict) (other : Text) :
    (without name d).lookup other = if other = name then none else d.lookup other := by
  induction d with
  | nil =>
    unfold without
    simp
  | cons member d ih =>
    unfold without at ih ⊢
    by_cases hmember : member.1 = name
    · -- The member goes, and under its name there is nothing left.
      rw [List.filter_cons_of_neg (by simpa using hmember), ih]
      split_ifs with hother
      · rfl
      · rw [lookup_later (by rw [hmember]; exact hother)]
    · rw [List.filter_cons_of_pos (by simpa using hmember)]
      by_cases hfirst : other = member.1
      · rw [hfirst, lookup_first, lookup_first, if_neg hmember]
      · rw [lookup_later hfirst, lookup_later hfirst, ih]

theorem mem_without {name : Text} {d : Dict} {member : Text × Value}
    (h : member ∈ without name d) : member ∈ d :=
  List.mem_of_mem_filter h

theorem sorted_without {d : Dict} (h : (Value.obj d).Sorted) (name : Text) :
    (Value.obj (without name d)).Sorted := by
  refine ⟨?_, sortedMembers_iff.2 (fun member hmember =>
    sortedMembers_iff.1 h.2 member (mem_without hmember))⟩
  have hnames := h.1
  clear h
  induction d with
  | nil => exact trivial
  | cons member d ih =>
    unfold without at ih ⊢
    rw [List.filter_cons]
    split_ifs with hmember
    · exact ⟨fun other hother => hnames.1 other (List.mem_of_mem_filter hother), ih hnames.2⟩
    · exact ih hnames.2

theorem unpaired_without {d : Dict} (h : (Value.obj d).Unpaired) (name : Text) :
    (Value.obj (without name d)).Unpaired :=
  unpairedMembers_iff.2 (fun member hmember => unpairedMembers_iff.1 h member (mem_without hmember))

/-- Removing what is not there. -/
theorem without_of_lookup {name : Text} {d : Dict} (h : (Value.obj d).Sorted)
    (hnone : d.lookup name = none) : without name d = d := by
  refine sorted_ext (sorted_without h name).1 h.1 ?_
  intro other
  rw [lookup_without]
  split_ifs with hother
  · rw [hother, hnone]
  · rfl

/-- An assignment is removed with what it replaced. -/
theorem without_insertMember {name : Text} {value : Value} {d : Dict} (h : (Value.obj d).Sorted)
    (hvalue : value.Sorted) : without name (insertMember name value d) = without name d := by
  refine sorted_ext (sorted_without (sorted_insertMember h name hvalue) name).1
    (sorted_without h name).1 ?_
  intro other
  rw [lookup_without, lookup_without, lookup_insertMember]
  split_ifs with hother
  · rfl
  · rfl

/-- An assignment over a member is an assignment. -/
theorem insertMember_without {name : Text} {value : Value} {d : Dict} (h : (Value.obj d).Sorted)
    (hvalue : value.Sorted) : insertMember name value (without name d) = insertMember name value d := by
  refine sorted_ext (sorted_insertMember (sorted_without h name) name hvalue).1
    (sorted_insertMember h name hvalue).1 ?_
  intro other
  rw [lookup_insertMember, lookup_insertMember, lookup_without]
  split_ifs with hother
  · rfl
  · rfl

theorem insertMember_insertMember {name : Text} {value value' : Value} {d : Dict}
    (h : (Value.obj d).Sorted) (hvalue : value.Sorted) (hvalue' : value'.Sorted) :
    insertMember name value' (insertMember name value d) = insertMember name value' d := by
  refine sorted_ext (sorted_insertMember (sorted_insertMember h name hvalue) name hvalue').1
    (sorted_insertMember h name hvalue').1 ?_
  intro other
  rw [lookup_insertMember, lookup_insertMember, lookup_insertMember]
  split_ifs with hother
  · rfl
  · rfl

/-- Exactly the expected keys. -/
theorem exactKeys_iff {d : Dict} {expected : List String} :
    exactKeys d expected = true ↔
      ∀ name, (d.lookup name).isSome = true ↔ name ∈ expected.map lit := by
  simp only [exactKeys, Bool.and_eq_true, List.all_eq_true, decide_eq_true_eq, lookup_isSome_iff]
  constructor
  · rintro ⟨hfound, hexpected⟩ name
    constructor
    · intro hname
      rcases List.mem_map.1 hname with ⟨member, hmember, rfl⟩
      exact hfound member hmember
    · intro hname
      rcases List.mem_map.1 hname with ⟨key, hkey, rfl⟩
      exact hexpected key hkey
  · intro h
    constructor
    · intro member hmember
      exact (h member.1).1 (List.mem_map_of_mem hmember)
    · intro key hkey
      exact (h (lit key)).2 (List.mem_map_of_mem hkey)

theorem unpaired_lit (s : String) : Json.Unpaired (lit s) :=
  unpaired_ofChar s.toList

/-! ## Checks that passed -/

theorem ensure_eq_ok {b : Bool} {e : ProductBuildError} {u : Unit} :
    ensure b e = .ok u ↔ b = true := by
  unfold ensure
  split_ifs with h
  · simp [h]
  · simp [h]

/-- What a body of the right shape holds. -/
structure Shaped (body : Dict) : Prop where
  completed : ∃ texts, textList (body.lookup (lit "completed_operations")) = some texts
  jobs : ∃ items, body.lookup (lit "repair_jobs") = some (.arr items) ∧ jobsOk (some (.arr items)) = true
  recovery : ∃ t, body.lookup (lit "recovery") = some (.str t)
  created : ∃ d, body.lookup (lit "created_notion_ids") = some (.obj d)

theorem shaped_of_requireShape {body : Dict} (h : requireShape body = .ok ()) : Shaped body := by
  unfold requireShape at h
  split at h
  · rename_i completed deferred hcompleted _
    rcases bind_eq_ok.1 h with ⟨_, _, h⟩
    rcases bind_eq_ok.1 h with ⟨_, _, h⟩
    rcases bind_eq_ok.1 h with ⟨_, hcreated, h⟩
    rcases bind_eq_ok.1 h with ⟨_, _, h⟩
    rcases bind_eq_ok.1 h with ⟨_, _, h⟩
    rcases bind_eq_ok.1 h with ⟨_, _, h⟩
    rcases bind_eq_ok.1 h with ⟨_, hjobs, h⟩
    rcases bind_eq_ok.1 h with ⟨_, hrecovery, _⟩
    rw [ensure_eq_ok] at hcreated hjobs
    refine ⟨⟨completed, hcompleted⟩, ?_, ?_, ?_⟩
    · cases hlookup : body.lookup (lit "repair_jobs") with
      | none => simp [hlookup, jobsOk] at hjobs
      | some value =>
        rw [hlookup] at hjobs
        cases value with
        | arr items => exact ⟨items, rfl, hjobs⟩
        | null => cases hjobs
        | bool _ => cases hjobs
        | int _ => cases hjobs
        | float _ => cases hjobs
        | str _ => cases hjobs
        | obj _ => cases hjobs
    · unfold requireRecovery at hrecovery
      split at hrecovery
      · rename_i recovery hlookup
        exact ⟨recovery, hlookup⟩
      · cases hrecovery
    · cases hlookup : body.lookup (lit "created_notion_ids") with
      | none => simp [hlookup, createdOk] at hcreated
      | some value =>
        rw [hlookup] at hcreated
        cases value with
        | obj d => exact ⟨d, rfl⟩
        | null => cases hcreated
        | bool _ => cases hcreated
        | int _ => cases hcreated
        | float _ => cases hcreated
        | str _ => cases hcreated
        | arr _ => cases hcreated
  · cases h

theorem unpaired_of_isAscii {t : Text} (h : isAscii t = true) : Json.Unpaired t := by
  induction t with
  | nil => exact trivial
  | cons p t ih =>
    rw [isAscii, List.all_cons, Bool.and_eq_true, decide_eq_true_eq] at h
    have htail : Json.Unpaired t := ih h.2
    cases t with
    | nil => exact trivial
    | cons q t =>
      refine ⟨?_, htail⟩
      simp [isHigh]
      omega

/-- A job is a dictionary of ASCII texts. -/
theorem job_texts {item : Value} (h : jobOk item = true) (hsorted : item.Sorted) :
    ∃ d, item = .obj d ∧ ∀ member ∈ d, Json.Unpaired member.1 ∧
      ∃ t, member.2 = .str t ∧ isAscii t = true := by
  cases item with
  | obj d =>
    rw [jobOk, Bool.and_eq_true, List.all_eq_true] at h
    refine ⟨d, rfl, ?_⟩
    intro member hmember
    have hlookup : d.lookup member.1 = some member.2 := lookup_of_mem hsorted.1 hmember
    have hname : member.1 ∈ jobKeys.map lit :=
      (exactKeys_iff.1 h.1 member.1).1 (by rw [hlookup]; rfl)
    rcases List.mem_map.1 hname with ⟨key, hkey, hlit⟩
    refine ⟨by rw [← hlit]; exact unpaired_lit key, ?_⟩
    have hfilled := h.2 key hkey
    rw [hlit, hlookup] at hfilled
    cases hvalue : member.2 with
    | str t =>
      refine ⟨t, rfl, ?_⟩
      by_contra hascii
      simp [filledText, hvalue, asciiText, hascii] at hfilled
    | null => simp [filledText, hvalue, asciiText] at hfilled
    | bool _ => simp [filledText, hvalue, asciiText] at hfilled
    | int _ => simp [filledText, hvalue, asciiText] at hfilled
    | float _ => simp [filledText, hvalue, asciiText] at hfilled
    | arr _ => simp [filledText, hvalue, asciiText] at hfilled
    | obj _ => simp [filledText, hvalue, asciiText] at hfilled
  | null => cases h
  | bool _ => cases h
  | int _ => cases h
  | float _ => cases h
  | str _ => cases h
  | arr _ => cases h

theorem jobs_unpaired {items : List Value} (h : items.all jobOk = true)
    (hsorted : (Value.arr items).Sorted) : (Value.arr items).Unpaired := by
  refine unpairedItems_iff.2 ?_
  intro item hitem
  have hitemSorted : item.Sorted := sortedItems_iff.1 hsorted item hitem
  rcases job_texts (List.all_eq_true.1 h item hitem) hitemSorted with ⟨d, rfl, hmembers⟩
  refine unpairedMembers_iff.2 ?_
  intro member hmember
  rcases hmembers member hmember with ⟨hname, t, ht, hascii⟩
  rw [ht]
  exact ⟨hname, unpaired_of_isAscii hascii⟩

/-! ## Python equality of jobs -/

section PyEq

variable {floatEq : Value → Value → Bool}

/-- `==` with a dictionary of texts is equality. -/
theorem pyEqMembers_texts {d d' : Dict} (h : ∀ member ∈ d, ∃ t, member.2 = .str t)
    (heq : pyEqMembers floatEq d' d = true) : d' = d := by
  induction d generalizing d' with
  | nil =>
    cases d' with
    | nil => rfl
    | cons member d' => simp [pyEqMembers] at heq
  | cons member d ih =>
    cases d' with
    | nil => simp [pyEqMembers] at heq
    | cons other d' =>
      rw [pyEqMembers, Bool.and_eq_true, Bool.and_eq_true, decide_eq_true_eq] at heq
      rcases h member List.mem_cons_self with ⟨t, ht⟩
      have hrest : d' = d :=
        ih (fun m hm => h m (List.mem_cons_of_mem _ hm)) heq.2
      have hvalue : other.2 = member.2 := by
        have hpy := heq.1.2
        rw [ht] at hpy ⊢
        cases hother : other.2 with
        | str t' =>
          rw [hother, pyEq, decide_eq_true_eq] at hpy
          rw [hpy]
        | null => simp [hother, pyEq, scalarEq, asInteger] at hpy
        | bool b => cases b <;> simp [hother, pyEq, scalarEq, asInteger] at hpy
        | int n => simp [hother, pyEq, scalarEq, asInteger] at hpy
        | float x => simp [hother, pyEq, scalarEq, asInteger] at hpy
        | arr items => simp [hother, pyEq] at hpy
        | obj members => simp [hother, pyEq] at hpy
      rw [hrest, Prod.ext heq.1.1 hvalue]

/-- `==` with a list of jobs is equality. -/
theorem pyEqItems_jobs {items others : List Value} (h : items.all jobOk = true)
    (hsorted : (Value.arr items).Sorted) (heq : pyEqItems floatEq others items = true) :
    others = items := by
  induction items generalizing others with
  | nil =>
    cases others with
    | nil => rfl
    | cons other others => simp [pyEqItems] at heq
  | cons item items ih =>
    cases others with
    | nil => simp [pyEqItems] at heq
    | cons other others =>
      rw [pyEqItems, Bool.and_eq_true] at heq
      rw [List.all_cons, Bool.and_eq_true] at h
      have hrest : others = items := ih h.2 hsorted.2 heq.2
      rcases job_texts h.1 hsorted.1 with ⟨d, rfl, hmembers⟩
      have hpy := heq.1
      cases other with
      | obj d' =>
        rw [pyEq] at hpy
        have hd : d' = d := pyEqMembers_texts
          (fun m hm => (hmembers m hm).2.imp (fun _ ht => ht.1)) hpy
        rw [hrest, hd]
      | null => simp [pyEq, scalarEq, asInteger] at hpy
      | bool b => cases b <;> simp [pyEq, scalarEq, asInteger] at hpy
      | int n => simp [pyEq, scalarEq, asInteger] at hpy
      | float x => simp [pyEq, scalarEq, asInteger] at hpy
      | str t => simp [pyEq] at hpy
      | arr vs => simp [pyEq] at hpy

end PyEq

/-! ## A document is read back -/

/-- A document that the loader accepts. -/
structure Document.Sound (d : Document) : Prop where
  payloadSorted : (Value.obj d.payload).Sorted
  progressSorted : (Value.obj d.progress).Sorted
  payloadUnpaired : (Value.obj (without progressKey d.payload)).Unpaired
  progressUnpaired : (Value.obj d.progress).Unpaired
  keys : exactKeys d.progress progressFields = true
  shape : requireShape d.progress = .ok ()
  evidence : rejectNonProviderEvidence d.progress = .ok ()
  alignment : aligned d.progress (d.payload.lookup (lit "checkpoint_names")) = true

namespace Document

variable {sha256 : List Char → List Char} {d : Document}

theorem stored_sorted (h : (Value.obj d.progress).Sorted) : (Value.obj (d.stored sha256)).Sorted :=
  sorted_insertMember h recordDigest trivial

theorem body_sorted (h : d.Sound) : (Value.obj (d.body sha256)).Sorted :=
  sorted_insertMember h.payloadSorted progressKey (stored_sorted h.progressSorted)

theorem body_unpaired (h : d.Sound) : (Value.obj (d.body sha256)).Unpaired := by
  -- A progress member of the payload is replaced, so its texts do not matter.
  have hbody : d.body sha256 =
      insertMember progressKey (.obj (d.stored sha256)) (without progressKey d.payload) :=
    (insertMember_without h.payloadSorted (stored_sorted h.progressSorted)).symm
  rw [hbody]
  refine unpaired_insertMember h.payloadUnpaired (unpaired_lit _) ?_
  exact unpaired_insertMember h.progressUnpaired (unpaired_lit _) (unpaired_ofChar _)

theorem loads_text (h : d.Sound) : loads (d.text sha256) = some (.obj (d.body sha256)) :=
  loads_dumps_space (body_sorted h) (body_unpaired h)

theorem loadObject_text (h : d.Sound) : loadObject (d.text sha256) = .ok (d.body sha256) := by
  unfold loadObject
  rw [loads_text h]
  simp [text]

theorem lookup_digest (h : d.Sound) : d.progress.lookup recordDigest = none := by
  have hkeys := (exactKeys_iff.1 h.keys) recordDigest
  cases hlookup : d.progress.lookup recordDigest with
  | none => rfl
  | some value =>
    rw [hlookup] at hkeys
    have hmem := hkeys.1 rfl
    simp [progressFields, recordDigest] at hmem

theorem without_stored (h : d.Sound) : without recordDigest (d.stored sha256) = d.progress := by
  have hvalue : (Value.str (digest sha256 d.covered)).Sorted := trivial
  unfold stored
  rw [without_insertMember h.progressSorted hvalue]
  exact without_of_lookup h.progressSorted (lookup_digest h)

theorem without_body (h : d.Sound) :
    without progressKey (d.body sha256) = without progressKey d.payload :=
  without_insertMember h.payloadSorted (stored_sorted h.progressSorted)

theorem stored_keys (h : d.Sound) : exactKeys (d.stored sha256) progressKeys = true := by
  rw [exactKeys_iff]
  intro name
  have hfields := (exactKeys_iff.1 h.keys) name
  unfold stored progressKeys
  rw [lookup_insertMember, List.map_append, List.mem_append, ← hfields]
  split_ifs with hname
  · simp [hname, recordDigest]
  · simp [show name ≠ lit "record_digest" from hname]

theorem covered_body (h : d.Sound) :
    insertMember progressKey (.obj d.progress) (without progressKey (d.body sha256)) = d.covered := by
  rw [without_body h]
  exact insertMember_without h.payloadSorted h.progressSorted

theorem lookup_stored {name : Text} (h : name ≠ recordDigest) :
    (d.stored sha256).lookup name = d.progress.lookup name := by
  unfold stored
  rw [lookup_insertMember, if_neg h]

theorem lookup_body {name : Text} (h : name ≠ progressKey) :
    (d.body sha256).lookup name = d.payload.lookup name := by
  unfold body
  rw [lookup_insertMember, if_neg h]

theorem lookup_progress : (d.body sha256).lookup progressKey = some (.obj (d.stored sha256)) := by
  unfold body
  rw [lookup_insertMember, if_pos rfl]

/-- The progress record of a document that was written passes its check. -/
theorem checkedProgress_body (h : d.Sound) :
    checkedProgress sha256 (d.body sha256) = .ok (d.stored sha256) := by
  have hdigest : (d.stored sha256).lookup recordDigest = some (.str (digest sha256 d.covered)) := by
    unfold stored
    rw [lookup_insertMember, if_pos rfl]
  have hnames : (d.body sha256).lookup (lit "checkpoint_names") =
      d.payload.lookup (lit "checkpoint_names") :=
    lookup_body (by simp [progressKey])
  unfold checkedProgress
  rw [lookup_progress]
  simp only [validateProgress, requireDigest, stored_keys h, without_stored h, covered_body h, hdigest, hnames,
    h.shape, h.evidence, h.alignment, ensure, if_true, bind, Except.bind, decide_true]

/-- The file is accepted, and what is read from it is the document. -/
structure Accepted (sha256 : List Char → List Char) (file : Option (List Char)) (d : Document) :
    Prop where
  record : ∃ text raw found, file = some text ∧ loadObject text = .ok raw ∧
    checkedProgress sha256 raw = .ok found ∧
    without progressKey raw = without progressKey d.payload ∧ without recordDigest found = d.progress
  envelope : ∃ recovery created,
    d.progress.lookup (lit "recovery") = some (.str recovery) ∧
    d.progress.lookup (lit "created_notion_ids") = some (.obj created) ∧
    loadPayload sha256 file true =
      .ok { payload := some (without progressKey d.payload), recovery := recovery
            repairJobs := d.jobs, createdNotionIds := some created }

theorem jobs_eq {items : List Value} (h : d.progress.lookup (lit "repair_jobs") = some (.arr items)) :
    d.jobs = items := by
  simp [jobs, jobList, h]

/-- A document that was written is accepted as it is. -/
theorem accepted_text (h : d.Sound) : Accepted sha256 (some (d.text sha256)) d := by
  have hshaped : Shaped d.progress := shaped_of_requireShape h.shape
  rcases hshaped.jobs with ⟨items, hjobs, _⟩
  rcases hshaped.recovery with ⟨recovery, hrecovery⟩
  rcases hshaped.created with ⟨created, hcreated⟩
  refine ⟨⟨d.text sha256, d.body sha256, d.stored sha256, rfl, loadObject_text h,
    checkedProgress_body h, without_body h, without_stored h⟩, recovery, created, hrecovery,
    hcreated, ?_⟩
  -- None of the three members is the digest.
  have hrecovery' : (d.stored sha256).lookup (lit "recovery") = some (.str recovery) :=
    (lookup_stored (by simp [recordDigest])).trans hrecovery
  have hjobs' : (d.stored sha256).lookup (lit "repair_jobs") = some (.arr items) :=
    (lookup_stored (by simp [recordDigest])).trans hjobs
  have hcreated' : (d.stored sha256).lookup (lit "created_notion_ids") = some (.obj created) :=
    (lookup_stored (by simp [recordDigest])).trans hcreated
  unfold loadPayload
  simp only [loadObject_text h, checkedProgress_body h, bind, Except.bind, hrecovery', hjobs',
    hcreated', without_body h, jobs_eq hjobs, ensure, Bool.or_true, if_true]

/-! ## Cut documents -/

theorem newline_mem_text {text more : List Char} (h : text ++ more = d.text sha256)
    (hnewline : '\n' ∈ text) : text = d.text sha256 := by
  -- The newline of a document is its last character: what comes before is printable.
  have hprintable : Printable (dumps .compact (.obj (d.body sha256))) := dumps_printable _ _
  cases more with
  | nil => simpa using h
  | cons c more =>
    exfalso
    have hlast : text ++ (c :: more) = dumps .compact (.obj (d.body sha256)) ++ ['\n'] := h
    have hcut : text <+: dumps .compact (.obj (d.body sha256)) := by
      have hwhole : dumps .compact (.obj (d.body sha256)) <+: d.text sha256 := ⟨['\n'], rfl⟩
      refine List.prefix_of_prefix_length_le ⟨c :: more, h⟩ hwhole ?_
      have hlength := congrArg List.length hlast
      simp only [List.length_append, List.length_cons, List.length_nil] at hlength
      omega
    have hrange := hprintable '\n' (hcut.subset hnewline)
    exact absurd hrange.1 (by decide)

/-- A temporary that can be read is the whole document. -/
theorem whole_of_loadPayload {text : List Char} {allow : Bool} (h : text <+: d.text sha256)
    (hload : (loadPayload sha256 (some text) allow).toOption.isSome = true) :
    text = d.text sha256 := by
  rcases h with ⟨more, hmore⟩
  refine newline_mem_text hmore ?_
  by_contra hnewline
  have hlast : text.getLast? ≠ some '\n' := by
    intro hlast
    exact hnewline (List.mem_of_getLast? hlast)
  have hincomplete : loadObject text = .error ⟨"checkpoint is incomplete"⟩ := by
    unfold loadObject
    rw [if_pos hlast]
  simp [loadPayload, hincomplete, bind, Except.bind, Except.toOption] at hload

/-! ## Extension -/

variable {floatEq : Value → Value → Bool}

theorem jobList_stored (h : d.Sound) : jobList (d.stored sha256) = some d.jobs := by
  rcases (shaped_of_requireShape h.shape).jobs with ⟨items, hjobs, _⟩
  have hstored : (d.stored sha256).lookup (lit "repair_jobs") = some (.arr items) :=
    (lookup_stored (by simp [recordDigest])).trans hjobs
  rw [jobs_eq hjobs]
  simp [jobList, hstored]

theorem jobs_ok (h : d.Sound) : d.jobs.all jobOk = true ∧ (Value.arr d.jobs).Sorted := by
  rcases (shaped_of_requireShape h.shape).jobs with ⟨items, hjobs, hok⟩
  rw [jobs_eq hjobs]
  exact ⟨hok, sortedMembers_iff.1 h.progressSorted.2 _ (mem_of_lookup hjobs)⟩

theorem withJobs_sorted {jobs : List Value} {body : Dict} (h : (Value.obj body).Sorted)
    (hjobs : (Value.arr jobs).Sorted) : (Value.obj (withJobs jobs body)).Sorted :=
  sorted_insertMember h _ hjobs

theorem restOf_body (h : d.Sound) : restOf (d.body sha256) (d.stored sha256) = d.rest := by
  unfold restOf rest body
  rw [without_stored h]
  exact insertMember_insertMember h.payloadSorted (stored_sorted h.progressSorted)
    (withJobs_sorted h.progressSorted trivial)

/-- A document that extends another one has its jobs first and, to `==`, everything else in common. -/
theorem extends_of_strictlyExtends {d' : Document} (h : d.Sound) (h' : d'.Sound)
    (hextends : strictlyExtends floatEq (d'.text sha256) (d.text sha256) = true) :
    d.jobs <+: d'.jobs ∧ pyEqMembers floatEq d.rest d'.rest = true := by
  have hdecoded : decodedObject (d.text sha256) = some (d.body sha256) := by
    simp [decodedObject, loads_text h]
  have hdecoded' : decodedObject (d'.text sha256) = some (d'.body sha256) := by
    simp [decodedObject, loads_text h']
  have hprogress : progressOf (d.body sha256) = some (d.stored sha256) := by
    simp [progressOf, lookup_progress]
  have hprogress' : progressOf (d'.body sha256) = some (d'.stored sha256) := by
    simp [progressOf, lookup_progress]
  simp only [strictlyExtends, hdecoded, hdecoded', hprogress, hprogress', jobList_stored h,
    jobList_stored h', restOf_body h, restOf_body h', Bool.and_eq_true] at hextends
  have hjobs := jobs_ok h
  have htake : d'.jobs.take d.jobs.length = d.jobs :=
    pyEqItems_jobs hjobs.1 hjobs.2 hextends.1.2
  refine ⟨?_, hextends.2⟩
  rw [← htake]
  exact List.take_prefix _ _

end Document

/-! ## Sound documents -/

theorem unpaired_lookup {d : Dict} (h : (Value.obj d).Unpaired) {name : Text} {value : Value}
    (hlookup : d.lookup name = some value) : Json.Unpaired name ∧ value.Unpaired :=
  unpairedMembers_iff.1 h (name, value) (mem_of_lookup hlookup)

theorem unpaired_of_lookup {d : Dict} (hsorted : (Value.obj d).Sorted)
    (h : ∀ name value, d.lookup name = some value → Json.Unpaired name ∧ value.Unpaired) :
    (Value.obj d).Unpaired := by
  refine unpairedMembers_iff.2 ?_
  intro member hmember
  exact h member.1 member.2 (lookup_of_mem hsorted.1 hmember)

/-- The texts of a document are those of its rest and of its jobs, and jobs are ASCII. -/
theorem unpaired_of_rest {d : Document} (hpayload : (Value.obj d.payload).Sorted)
    (hprogress : (Value.obj d.progress).Sorted) (hshape : requireShape d.progress = .ok ())
    (h : (Value.obj d.rest).Unpaired) :
    (Value.obj (without progressKey d.payload)).Unpaired ∧ (Value.obj d.progress).Unpaired := by
  have hfound : d.rest.lookup progressKey = some (.obj (withJobs [] d.progress)) := by
    unfold Document.rest
    rw [lookup_insertMember, if_pos rfl]
  have hinner : (Value.obj (withJobs [] d.progress)).Unpaired := (unpaired_lookup h hfound).2
  constructor
  · refine unpaired_of_lookup (sorted_without hpayload _) ?_
    intro name value hlookup
    rw [lookup_without] at hlookup
    split_ifs at hlookup with hname
    refine unpaired_lookup h ?_
    unfold Document.rest
    rw [lookup_insertMember, if_neg hname, hlookup]
  · refine unpaired_of_lookup hprogress ?_
    intro name value hlookup
    by_cases hname : name = lit "repair_jobs"
    · subst hname
      rcases (shaped_of_requireShape hshape).jobs with ⟨items, hjobs, hok⟩
      cases hlookup.symm.trans hjobs
      exact ⟨unpaired_lit _, jobs_unpaired hok
        (sortedMembers_iff.1 hprogress.2 _ (mem_of_lookup hjobs))⟩
    · refine unpaired_lookup hinner ?_
      unfold withJobs
      rw [lookup_insertMember, if_neg hname, hlookup]

/-- The jobs of a sound document have accepted kinds. -/
theorem jobs_accepted {d : Document} (h : d.Sound) : d.jobs.all acceptedKind = true := by
  rcases (shaped_of_requireShape h.shape).jobs with ⟨items, hjobs, _⟩
  have hevidence := h.evidence
  rw [rejectNonProviderEvidence, hjobs] at hevidence
  rw [Document.jobs_eq hjobs]
  exact ensure_eq_ok.1 hevidence

theorem lookup_withJobs (jobs : List Value) (body : Dict) :
    (withJobs jobs body).lookup (lit "repair_jobs") = some (.arr jobs) := by
  unfold withJobs
  rw [lookup_insertMember, if_pos rfl]

theorem lookup_withJobs_of_ne {name : Text} (h : name ≠ lit "repair_jobs") (jobs : List Value)
    (body : Dict) : (withJobs jobs body).lookup name = body.lookup name := by
  unfold withJobs
  rw [lookup_insertMember, if_neg h]

theorem evidence_of_jobs {body : Dict} {jobs : List Value}
    (hbody : body.lookup (lit "repair_jobs") = some (.arr jobs))
    (h : jobs.all acceptedKind = true) : rejectNonProviderEvidence body = .ok () := by
  rw [rejectNonProviderEvidence, hbody]
  exact ensure_eq_ok.2 h

/-- A sound document with other jobs, the payload of which was read back. -/
def Document.appended (d : Document) (jobs : List Value) : Document :=
  ⟨without progressKey d.payload, withJobs jobs d.progress⟩

theorem rest_appended {d : Document} (h : d.Sound) {jobs : List Value}
    (hjobs : (Value.arr jobs).Sorted) : (d.appended jobs).rest = d.rest := by
  have hinner : withJobs [] (withJobs jobs d.progress) = withJobs [] d.progress :=
    insertMember_insertMember h.progressSorted hjobs trivial
  have hsorted : (Value.obj (withJobs [] d.progress)).Sorted :=
    Document.withJobs_sorted h.progressSorted trivial
  unfold Document.rest Document.appended
  rw [hinner]
  exact insertMember_without h.payloadSorted hsorted

theorem sound_appended {d : Document} (h : d.Sound) {jobs : List Value}
    (hsorted : (Value.arr jobs).Sorted) (haccepted : jobs.all acceptedKind = true)
    (hkeys : exactKeys (d.appended jobs).progress progressFields = true)
    (hshape : requireShape (d.appended jobs).progress = .ok ()) : (d.appended jobs).Sound where
  payloadSorted := sorted_without h.payloadSorted _
  progressSorted := Document.withJobs_sorted h.progressSorted hsorted
  payloadUnpaired := unpaired_without h.payloadUnpaired _
  progressUnpaired := by
    rcases (shaped_of_requireShape hshape).jobs with ⟨items, hjobs, hok⟩
    cases (lookup_withJobs jobs d.progress).symm.trans hjobs
    exact unpaired_insertMember h.progressUnpaired (unpaired_lit _) (jobs_unpaired hok hsorted)
  keys := hkeys
  shape := hshape
  evidence := evidence_of_jobs (lookup_withJobs jobs d.progress) haccepted
  alignment := by
    have hnames : (without progressKey d.payload).lookup (lit "checkpoint_names") =
        d.payload.lookup (lit "checkpoint_names") := by
      rw [lookup_without, if_neg (by simp [progressKey])]
    have hcompleted : (withJobs jobs d.progress).lookup (lit "completed_operations") =
        d.progress.lookup (lit "completed_operations") :=
      lookup_withJobs_of_ne (by simp) jobs d.progress
    have halignment := h.alignment
    unfold aligned at halignment ⊢
    unfold Document.appended
    rw [hnames, hcompleted]
    exact halignment

/-! ## Jobs and records that the code builds -/

/-- A job that `_repair_job` made. -/
structure Fresh (job : Dict) : Prop where
  sorted : (Value.obj job).Sorted
  accepted : acceptedKind (.obj job) = true

theorem mem_ofPairs {pairs : List (Text × Value)} {member : Text × Value}
    (h : member ∈ ofPairs pairs) : member ∈ pairs := by
  have hfold : ∀ (pairs members : List (Text × Value)),
      member ∈ pairs.foldl (fun members pair => insertMember pair.1 pair.2 members) members →
      member ∈ members ∨ member ∈ pairs := by
    intro pairs
    induction pairs with
    | nil => exact fun _ h => Or.inl h
    | cons pair pairs ih =>
      intro members h
      rcases ih _ h with h | h
      · rcases mem_insertMember h with rfl | h
        · exact Or.inr List.mem_cons_self
        · exact Or.inl h
      · exact Or.inr (List.mem_cons_of_mem _ h)
  rcases hfold pairs [] h with h | h
  · cases h
  · exact h

theorem sorted_dictOf {fields : List (String × Value)} (h : ∀ field ∈ fields, field.2.Sorted) :
    (Value.obj (dictOf fields)).Sorted := by
  refine ⟨sortedNames_ofPairs _, sortedMembers_iff.2 ?_⟩
  intro member hmember
  rcases List.mem_map.1 (mem_ofPairs hmember) with ⟨field, hfield, rfl⟩
  exact h field hfield

theorem fresh_of_repairJob {operation response phase kind : Text} {job : Dict}
    (h : repairJob operation response phase kind = .ok job) : Fresh job := by
  unfold repairJob at h
  rcases bind_eq_ok.1 h with ⟨_, hkind, h⟩
  rcases bind_eq_ok.1 h with ⟨_, _, h⟩
  rcases bind_eq_ok.1 h with ⟨_, _, h⟩
  cases h
  refine ⟨sorted_dictOf ?_, ?_⟩
  · simp [Value.Sorted]
  · simpa [acceptedKind, dictOf, ofPairs, lookup_insertMember] using ensure_eq_ok.1 hkind

section View

variable (view : CheckpointView)

theorem sorted_textArray (texts : List Text) : (textArray texts).Sorted := by
  refine sortedItems_iff.2 ?_
  intro value hvalue
  rcases List.mem_map.1 hvalue with ⟨t, _, rfl⟩
  exact trivial

theorem sorted_map {α : Type} {f : α → Value} (h : ∀ a, (f a).Sorted) (items : List α) :
    (Value.arr (items.map f)).Sorted := by
  refine sortedItems_iff.2 ?_
  intro value hvalue
  rcases List.mem_map.1 hvalue with ⟨a, _, rfl⟩
  exact h a

theorem sorted_pairRecords (first second : String) (pairs : List (Text × Text)) :
    (pairRecords first second pairs).Sorted :=
  sorted_map (fun _ => sorted_dictOf (by simp [Value.Sorted])) pairs

theorem sorted_formulaRecords (formulas : List (Text × Text × Text)) :
    (formulaRecords formulas).Sorted :=
  sorted_map (fun _ => sorted_dictOf (by simp [Value.Sorted])) formulas

theorem sorted_hubRecord (hub : Hub) : (hubRecord hub).Sorted := by
  refine sorted_dictOf ?_
  simp [Value.Sorted, sorted_pairRecords]

theorem sorted_notificationRecord (notice : Notification) : (notificationRecord notice).Sorted := by
  refine sorted_dictOf ?_
  simp [Value.Sorted, sorted_pairRecords, sorted_formulaRecords]

theorem sorted_aestheticsRecord (record : Aesthetics) : (aestheticsRecord record).Sorted := by
  refine sorted_dictOf ?_
  simp [sorted_pairRecords]

theorem sorted_variantRecord (variant : Variant) : (variantRecord variant).Sorted := by
  refine sorted_dictOf ?_
  simp [Value.Sorted]

theorem sorted_setItem {d : Dict} (h : (Value.obj d).Sorted) (name : String) {value : Value}
    (hvalue : value.Sorted) : (Value.obj (setItem d name value)).Sorted :=
  sorted_insertMember h (lit name) hvalue

theorem sorted_setSome {d : Dict} (h : (Value.obj d).Sorted) (name : String) {value : Option Value}
    (hvalue : ∀ v, value = some v → v.Sorted) : (Value.obj (setSome d name value)).Sorted := by
  cases value with
  | none => exact h
  | some v => exact sorted_setItem h name (hvalue v rfl)

theorem sorted_variantRecords (v : Value) (h : variantRecords view = some v) : v.Sorted := by
  unfold variantRecords at h
  split_ifs at h with hvariants
  cases h
  exact sorted_map sorted_variantRecord view.variants

theorem sorted_createdIds : (Value.obj (createdIds view)).Sorted := by
  have hempty : (Value.obj emptyCreatedIds).Sorted :=
    sorted_dictOf (by simp [Value.Sorted, SortedItems])
  have hfirst : (Value.obj (firstCreatedIds view)).Sorted := by
    unfold firstCreatedIds
    refine sorted_setItem ?_ "hubs" (sorted_map sorted_hubRecord view.identityHubs)
    refine sorted_setItem ?_ "dashboard" (sorted_pairRecords ..)
    refine sorted_setItem ?_ "databases" (sorted_pairRecords ..)
    refine sorted_setItem ?_ "workspace_id" trivial
    refine sorted_setItem ?_ "top_level_page_id" trivial
    exact sorted_setItem hempty "design_shell_block_id" trivial
  unfold createdIds
  refine sorted_setSome (sorted_setSome (sorted_setSome hfirst _ ?_) _ ?_) _
    (sorted_variantRecords view)
  · intro v hv
    rcases Option.map_eq_some_iff.1 hv with ⟨notice, _, rfl⟩
    exact sorted_notificationRecord notice
  · intro v hv
    rcases Option.map_eq_some_iff.1 hv with ⟨record, _, rfl⟩
    exact sorted_aestheticsRecord record

theorem sorted_mappings : (Value.obj (mappings view)).Sorted := by
  have hfirst : (Value.obj (dictOf
      [("design_shell_block_id", .str (lit "design_shell_block_id")),
        ("product_id", .str (lit "product_id")),
        ("product_spec_id", .str (lit "product_spec_id"))])).Sorted :=
    sorted_dictOf (by simp [Value.Sorted])
  unfold mappings
  dsimp only
  split_ifs with hnotice
  · refine sorted_setItem ?_ "sample_marker" trivial
    exact sorted_setItem hfirst "buyer_name" trivial
  · exact hfirst

theorem sorted_formulas : (formulas view).Sorted := by
  unfold formulas
  cases view.notificationDashboard with
  | none => exact trivial
  | some notice => exact sorted_formulaRecords notice.formulas

theorem sorted_progressFromCheckpoint : (Value.obj (progressFromCheckpoint view)).Sorted := by
  have hcounts : (Value.obj (counts view)).Sorted := sorted_dictOf (by simp [Value.Sorted])
  refine sorted_dictOf ?_
  intro field hfield
  simp only [List.mem_cons, List.not_mem_nil, or_false] at hfield
  rcases hfield with rfl | rfl | rfl | rfl | rfl | rfl | rfl | rfl | rfl
  · exact sorted_textArray _
  · exact sorted_textArray _
  · exact sorted_createdIds view
  · exact sorted_mappings view
  · exact hcounts
  · exact sorted_formulas view
  · exact trivial
  · exact trivial
  · exact trivial

theorem sorted_payloadOf {references : Dict} (h : (Value.obj references).Sorted) (recordedAt : Text) :
    (Value.obj (payloadOf view references recordedAt)).Sorted := by
  refine sorted_dictOf ?_
  intro field hfield
  simp only [List.mem_cons, List.not_mem_nil, or_false] at hfield
  rcases hfield with rfl | rfl | rfl | rfl | rfl | rfl | rfl | rfl | rfl
  · exact trivial
  · exact trivial
  · exact sorted_textArray _
  · exact trivial
  · exact sorted_map (fun token => sorted_textArray [token.1, token.2]) view.paletteTokens
  · exact trivial
  · exact h
  · exact trivial
  · exact trivial

theorem sorted_keptCreatedIds {retained : Dict} (h : (Value.obj retained).Sorted) :
    (Value.obj (keptCreatedIds view retained)).Sorted := by
  unfold keptCreatedIds
  split
  · exact h
  · exact h
  · rename_i variants _ hlookup
    exact sorted_setItem h "variants"
      (sortedMembers_iff.1 (sorted_createdIds view).2 _ (mem_of_lookup hlookup))

theorem sorted_bodyOf {retained : Option Dict} {jobs : List Value}
    (hretained : ∀ d, retained = some d → (Value.obj d).Sorted) (hjobs : (Value.arr jobs).Sorted) :
    (Value.obj (bodyOf view retained jobs)).Sorted := by
  have hbody : (Value.obj (withJobs jobs (progressFromCheckpoint view))).Sorted :=
    Document.withJobs_sorted (sorted_progressFromCheckpoint view) hjobs
  unfold bodyOf
  cases retained with
  | none => exact hbody
  | some kept =>
    exact sorted_setItem hbody "created_notion_ids" (sorted_keptCreatedIds view (hretained kept rfl))

/-- The body with the jobs of the file is, but for them, the body without any. -/
theorem withJobs_bodyOf {retained : Option Dict} {jobs : List Value}
    (hretained : ∀ d, retained = some d → (Value.obj d).Sorted) (hjobs : (Value.arr jobs).Sorted) :
    withJobs [] (bodyOf view retained jobs) = withJobs [] (bodyOf view retained []) := by
  have hnone : (Value.arr []).Sorted := trivial
  refine sorted_ext (Document.withJobs_sorted (sorted_bodyOf view hretained hjobs) hnone).1
    (Document.withJobs_sorted (sorted_bodyOf view hretained hnone) hnone).1 ?_
  intro name
  by_cases hname : name = lit "repair_jobs"
  · rw [hname, lookup_withJobs, lookup_withJobs]
  · rw [lookup_withJobs_of_ne hname, lookup_withJobs_of_ne hname]
    unfold bodyOf
    cases retained with
    | none => rw [lookup_withJobs_of_ne hname, lookup_withJobs_of_ne hname]
    | some kept =>
      unfold setItem
      rw [lookup_insertMember, lookup_insertMember, lookup_withJobs_of_ne hname,
        lookup_withJobs_of_ne hname]

theorem lookup_bodyOf_jobs (retained : Option Dict) (jobs : List Value) :
    (bodyOf view retained jobs).lookup (lit "repair_jobs") = some (.arr jobs) := by
  unfold bodyOf
  cases retained with
  | none => exact lookup_withJobs _ _
  | some kept =>
    unfold setItem
    rw [lookup_insertMember, if_neg (by simp)]
    exact lookup_withJobs _ _

theorem lookup_bodyOf_completed (retained : Option Dict) (jobs : List Value) :
    (bodyOf view retained jobs).lookup (lit "completed_operations") =
      some (textArray view.checkpointNames) := by
  have hprogress : (progressFromCheckpoint view).lookup (lit "completed_operations") =
      some (textArray view.checkpointNames) := by
    simp [progressFromCheckpoint, dictOf, ofPairs, lookup_insertMember]
  have hbody := (lookup_withJobs_of_ne (by simp) jobs (progressFromCheckpoint view)).trans hprogress
  unfold bodyOf
  cases retained with
  | none => exact hbody
  | some kept =>
    unfold setItem
    rw [lookup_insertMember, if_neg (by simp)]
    exact hbody

theorem lookup_payloadOf_names (references : Dict) (recordedAt : Text) :
    (payloadOf view references recordedAt).lookup (lit "checkpoint_names") =
      some (textArray view.checkpointNames) := by
  simp [payloadOf, dictOf, ofPairs, lookup_insertMember]

theorem sameTexts_self (texts : List Text) : sameTexts (texts.map Value.str) texts = true := by
  induction texts with
  | nil => rfl
  | cons t texts ih => simp [sameTexts, ih]

theorem textList_textArray {texts found : List Text} (h : textList (some (textArray texts)) = some found) :
    found = texts := by
  have hmap : ∀ texts found : List Text, (texts.map Value.str).mapM asciiText = some found →
      found = texts := by
    intro texts
    induction texts with
    | nil =>
      intro found h
      cases h
      rfl
    | cons t texts ih =>
      intro found h
      simp only [List.map_cons, List.mapM_cons, bind, Option.bind, asciiText] at h
      split_ifs at h with hascii
      dsimp only at h
      split at h
      · cases h
      · rename_i rest hrest
        cases h
        rw [ih rest hrest]
  exact hmap texts found h

/-- The names of the payload are the operations of the record. -/
theorem aligned_view (references : Dict) (recordedAt : Text) (retained : Option Dict)
    (jobs : List Value) :
    aligned (bodyOf view retained jobs)
      ((payloadOf view references recordedAt).lookup (lit "checkpoint_names")) = true := by
  unfold aligned
  rw [lookup_payloadOf_names, lookup_bodyOf_completed]
  cases hfound : textList (some (textArray view.checkpointNames)) with
  | none => rfl
  | some found =>
    rw [textList_textArray hfound]
    exact sameTexts_self view.checkpointNames

end View

end Progress
end Agents
end MoneyMachine
