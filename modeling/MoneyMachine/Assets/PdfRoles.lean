import MoneyMachine.Assets.PdfActions

/-!
# PdfRoles — what a returned list of links says about the roles of a document

The walk checks a dictionary by the key it stands under: `/Resources`, `/AA`, or an item of `/Annots`.
It does so where the dictionary is at most one reference away (`Near`); `deref` goes up to eight.

* `IsPage.inDocument`    : the pages are dictionaries of the document;
* `roles_measured_iff`   : every role is as measured exactly when the ones further away are.
-/

namespace MoneyMachine
namespace Assets

open MoneyMachine.Library

section Roles

variable {zlib : Zlib} {doc : PdfDocument} {rules : LinkRules} {realPages : List Int} {seen : Seen}

/-! ## Pages are in the document -/

theorem InDocument.field {fields : Fields} (h : InDocument zlib doc (.dict fields)) {key : List Char}
    {x : PdfObject} (hx : fields.lookup key = some x) : InDocument zlib doc x := by
  rcases h with ⟨role, hpart⟩ | ⟨n, o, role, hentry, ho, hpart⟩
  · exact Or.inl ⟨_, hpart.field hx⟩
  · exact Or.inr ⟨n, o, _, hentry, ho, hpart.field hx⟩

theorem InDocument.item {items : List PdfObject} (h : InDocument zlib doc (.array items)) {x : PdfObject}
    (hx : x ∈ items) : InDocument zlib doc x := by
  rcases h with ⟨role, hpart⟩ | ⟨n, o, role, hentry, ho, hpart⟩
  · exact Or.inl ⟨_, hpart.item hx⟩
  · exact Or.inr ⟨n, o, _, hentry, ho, hpart.item hx⟩

theorem Denotes.mem_entries {n : Int} {o : PdfObject} (h : Denotes zlib doc n o) :
    ∃ entry, (n, entry) ∈ doc.entries := by
  have hmem : ∀ {entry : XRef}, doc.entries.lookup n = some entry → (n, entry) ∈ doc.entries := by
    intro entry hentry
    rw [List.lookup_eq_some_iff] at hentry
    rcases hentry with ⟨before, after, hentries, _⟩
    rw [hentries]
    exact List.mem_append_right _ (List.mem_cons_self)
  cases h with
  | plain hentry _ => exact ⟨_, hmem hentry⟩
  | compressed hentry _ _ _ => exact ⟨_, hmem hentry⟩

theorem InDocument.leads {hops : Nat} {o x : PdfObject} (h : InDocument zlib doc o)
    (hx : Leads zlib doc hops o x) : InDocument zlib doc x := by
  induction hx with
  | here _ => exact h
  | follow hn _ ih => exact ih (Or.inr ⟨_, _, none, hn.mem_entries, hn, .self⟩)

theorem InDocument.of_field {fields : Fields} (h : InDocument zlib doc (.dict fields)) (name : String) :
    fields.field name = .null ∨ InDocument zlib doc (fields.field name) := by
  by_cases hnull : fields.field name = .null
  · exact Or.inl hnull
  · exact Or.inr (h.field (Fields.lookup_of_field hnull))

theorem dict_of_field {o : PdfObject} {name : String} (h : (asDict o).field name ≠ .null) :
    o = .dict (asDict o) := by
  cases o with
  | dict fields => rfl
  | _ => exact absurd rfl h

theorem PageOf.inDocument {node : PdfObject} {number : Option Int} {page : Fields}
    (h : PageOf zlib doc node number page) (hnode : node = .null ∨ InDocument zlib doc node) :
    InDocument zlib doc (.dict page) := by
  have hnot_null : ∀ {found : PdfObject}, Leads zlib doc 8 .null found → found = .null := by
    intro found hfound
    cases hfound
    rfl
  induction h with
  | @page node found hfound htype =>
    have hfield : (asDict found).field "Type" ≠ .null := by
      intro hnull
      rw [hnull] at htype
      cases htype
    rw [← dict_of_field hfield]
    rcases hnode with rfl | hin
    · rw [hnot_null hfound] at htype
      cases htype
    · exact hin.leads hfound
  | @kid node found kid kids number page hfound _ hkids hkid _ ih =>
    have hfield : (asDict found).field "Kids" ≠ .null := by
      intro hnull
      rw [hnull] at hkids
      cases hnot_null hkids
    have hin : InDocument zlib doc (.dict (asDict found)) := by
      rw [← dict_of_field hfield]
      rcases hnode with rfl | hin
      · rw [hnot_null hfound] at hfield
        exact absurd rfl hfield
      · exact hin.leads hfound
    rcases hin.of_field "Kids" with hnull | hinKids
    · exact absurd hnull hfield
    · exact ih (Or.inr ((hinKids.leads hkids).item hkid))

/-- A page of the tree is a dictionary of the document. -/
theorem IsPage.inDocument {number : Option Int} {page : Fields} (h : IsPage zlib doc number page) :
    InDocument zlib doc (.dict page) := by
  rcases h with ⟨root, hroot, hpage⟩
  have htrailer : InDocument zlib doc (.dict doc.trailer) := Or.inl ⟨none, .self⟩
  apply hpage.inDocument
  by_cases hnull : (asDict root).field "Pages" = .null
  · exact Or.inl hnull
  · have hdict := dict_of_field hnull
    rcases htrailer.of_field "Root" with hroot' | hin
    · rw [hroot'] at hroot
      cases hroot
      exact absurd rfl hnull
    · have hinRoot := hin.leads hroot
      rw [hdict] at hinRoot
      exact hinRoot.of_field "Pages"

/-! ## Roles -/

/-- The measured resources. -/
def MeasuredResources (x : PdfObject) : Prop :=
  ∃ fields, x = .dict fields ∧ Fields.hasKeys fields resourceKeys = true

/-- A link annotation with the measured keys. -/
def MeasuredLink (x : PdfObject) : Prop :=
  ∃ fields, x = .dict fields ∧ Fields.hasKeys fields linkKeys = true ∧
    nameIs (Fields.field fields "Subtype") "Link" = true

/-- The value is a dictionary at most one reference away. -/
def Near (zlib : Zlib) (doc : PdfDocument) (value : PdfObject) : Prop :=
  ∃ fields, Once zlib doc value (.dict fields)

/-- What the roles of a dictionary's values have to be, for the values that `checked` names and the items
of arrays that `checkedItem` names. -/
structure RolesHold (zlib : Zlib) (doc : PdfDocument) (checked : PdfObject → Prop)
    (checkedItem : PdfObject → List PdfObject → PdfObject → Prop) (fields : Fields) : Prop where
  resources : ∀ value x, fields.lookup "Resources".toList = some value → checked value →
    Leads zlib doc 8 value x → MeasuredResources x
  additional : ∀ value x, fields.lookup "AA".toList = some value → checked value →
    Leads zlib doc 8 value x → ∀ action, x ≠ .dict action
  annots : ∀ value items item x, fields.lookup "Annots".toList = some value →
    Leads zlib doc 8 value (.array items) → item ∈ items → checkedItem value items item →
      Leads zlib doc 8 item x → MeasuredLink x

/-- The roles of all values of a dictionary. -/
def AllRolesHold (zlib : Zlib) (doc : PdfDocument) (fields : Fields) : Prop :=
  RolesHold zlib doc (fun _ => True) (fun _ _ _ => True) fields

/-- The roles of the values that the walk does not see as dictionaries: two references away or more, or
no dictionaries at all. -/
def FarRolesHold (zlib : Zlib) (doc : PdfDocument) (fields : Fields) : Prop :=
  RolesHold zlib doc (fun value => ¬ Near zlib doc value)
    (fun value items item => ¬ (Once zlib doc value (.array items) ∧ Near zlib doc item)) fields

/-- A dictionary of the document, or a page. -/
def Visited (zlib : Zlib) (doc : PdfDocument) (fields : Fields) : Prop :=
  InDocument zlib doc (.dict fields) ∨ ∃ number, IsPage zlib doc number fields

theorem Visited.inDocument {fields : Fields} (h : Visited zlib doc fields) :
    InDocument zlib doc (.dict fields) := by
  rcases h with hin | ⟨number, hpage⟩
  · exact hin
  · exact hpage.inDocument

/-- The check of a role decides it. -/
theorem Checked.resources {fields : Fields}
    (h : Checked zlib doc rules realPages fields (some "Resources".toList)) :
    Fields.hasKeys fields resourceKeys = true := by
  rcases h with ⟨context, _, hrole, _⟩
  have hannots : roleIs (some "Resources".toList) "Annots" = false := by decide
  have hresources : roleIs (some "Resources".toList) "Resources" = true := by decide
  rw [refuseResolvedRole, hannots, hresources] at hrole
  simp only [Bool.false_eq_true, if_false, if_true] at hrole
  split_ifs at hrole with hkeys
  exact hkeys

theorem not_checked_additional {fields : Fields} :
    ¬ Checked zlib doc rules realPages fields (some "AA".toList) := by
  rintro ⟨context, _, hrole, _⟩
  have hannots : roleIs (some "AA".toList) "Annots" = false := by decide
  have hresources : roleIs (some "AA".toList) "Resources" = false := by decide
  have hadditional : roleIs (some "AA".toList) "AA" = true := by decide
  rw [refuseResolvedRole, hannots, hresources, hadditional] at hrole
  simp only [Bool.false_eq_true, if_false, if_true] at hrole
  cases hrole

theorem Checked.annots {fields : Fields}
    (h : Checked zlib doc rules realPages fields (some "Annots".toList)) :
    MeasuredLink (.dict fields) := by
  rcases h with ⟨context, _, hrole, _⟩
  have hannots : roleIs (some "Annots".toList) "Annots" = true := by decide
  rw [refuseResolvedRole, if_pos hannots, refuseAnnotRole] at hrole
  split_ifs at hrole with hkeys hlink
  exact ⟨fields, rfl, by simpa using hkeys, by simpa using hlink⟩

theorem near_leads {value x : PdfObject} {fields : Fields} (hnear : Once zlib doc value (.dict fields))
    (hx : Leads zlib doc 8 value x) : x = .dict fields :=
  hx.unique (hnear.leads (by rintro n g ⟨⟩))

/-- The walk has seen to every role that is near. -/
theorem roles_of_far (hgraph : GraphCovered zlib doc rules realPages seen) {fields : Fields}
    (hfields : InDocument zlib doc (.dict fields)) (hfar : FarRolesHold zlib doc fields) :
    AllRolesHold zlib doc fields := by
  rcases hgraph.covered hfields with ⟨role, hcovered⟩
  have hchild : ∀ {key : List Char} {value : PdfObject}, fields.lookup key = some value →
      Covered zlib doc rules realPages seen value (some key) :=
    fun hvalue x r hx => hcovered x r ((Part.field .self hvalue).trans hx)
  refine { resources := ?_, additional := ?_, annots := ?_ }
  · intro value x hvalue _ hx
    by_cases hnear : Near zlib doc value
    · rcases hnear with ⟨found, hfound⟩
      have hchecked := hgraph.once_checked (hchild hvalue _ _ .self) hfound
      exact ⟨found, near_leads hfound hx, hchecked.resources⟩
    · exact hfar.resources value x hvalue hnear hx
  · intro value x hvalue _ hx
    by_cases hnear : Near zlib doc value
    · rcases hnear with ⟨found, hfound⟩
      exact absurd (hgraph.once_checked (hchild hvalue _ _ .self) hfound) not_checked_additional
    · exact hfar.additional value x hvalue hnear hx
  · intro value items item x hvalue hitems hitem _ hx
    by_cases hnear : Once zlib doc value (.array items) ∧ Near zlib doc item
    · rcases hnear with ⟨harray, found, hfound⟩
      -- The array stands under the key, or the object it is in was followed with that key.
      have hdone : Done zlib doc rules realPages seen item (some "Annots".toList) := by
        cases value with
        | ref n g =>
          rcases hgraph.settled _ ((hchild hvalue _ _ .self).ref n g rfl) with ⟨o, ho, hsettled⟩
          cases Denotes.unique harray ho
          rcases hsettled with ⟨m, g', href⟩ | hinside
          · cases href
          · exact hinside _ _ (.item .self hitem)
        | _ =>
          have hsame := once_direct (by rintro n g ⟨⟩) harray
          rw [← hsame] at hvalue
          exact hchild hvalue _ _ (.item .self hitem)
      rw [near_leads hfound hx]
      exact (hgraph.once_checked hdone hfound).annots
    · exact hfar.annots value items item x hvalue hitems hitem hnear hx

end Roles

/-- When `delivery_link_uris` returns, every role is as measured exactly when the roles that are not near
are. -/
theorem roles_measured_iff (zlib : Zlib) (rules : LinkRules) (pdf : Bytes) (uris : List (List Char))
    (doc : PdfDocument) (h : (deliveryLinkUris zlib rules pdf).Returns (.ok uris))
    (hdoc : (openDocument zlib pdf).Returns (.ok doc)) :
    (∀ fields, Visited zlib doc fields → AllRolesHold zlib doc fields) ↔
      ∀ fields, Visited zlib doc fields → FarRolesHold zlib doc fields := by
  rcases (deliveryLinkUris_delivered h hdoc).graph with ⟨realPages, seen, _, hgraph⟩
  constructor
  · intro hall fields hfields
    have hroles := hall fields hfields
    exact {
      resources := fun value x hvalue _ => hroles.resources value x hvalue trivial
      additional := fun value x hvalue _ => hroles.additional value x hvalue trivial
      annots := fun value items item x hvalue hitems hitem _ =>
        hroles.annots value items item x hvalue hitems hitem trivial }
  · intro hfar fields hfields
    exact roles_of_far hgraph hfields.inDocument (hfar fields hfields)

/-! ## An additional action two references away -/

/-- The `/AA` of the trailer is a reference to a reference to a dictionary. -/
def farActionPdf : Bytes :=
  ascii ("1 0 obj 2 0 R\n2 0 obj<<>>\nxref\n1 2\n0000000000 00000 n \n0000000014 00000 n \n" ++
    "trailer<</Root<</Type 0/Pages<</Kids[]>>>>/AA 1 0 R>>\nstartxref\n26\n")

def farActionDocument : PdfDocument :=
  { pdf := farActionPdf
    entries := [(2, .plain 14 0), (1, .plain 0 0)]
    trailer := [("Root".toList, .dict [("Type".toList, .int 0),
      ("Pages".toList, .dict [("Kids".toList, .array [])])]), ("AA".toList, .ref 1 0)] }

def farActionFile : OpenedPdf farActionPdf farActionDocument where
  uris := []
  opens := ⟨20, by decide +kernel⟩
  returns := ⟨20, by decide +kernel⟩

theorem farAction_leads : Leads plainZlib farActionDocument 8 (.ref 1 0) (.dict []) := by
  have hfirst : (parseAt plainZlib farActionDocument.pdf 0).Returns (.ok (.ref 2 0)) := by
    exact ⟨20, by decide +kernel⟩
  have hsecond : (parseAt plainZlib farActionDocument.pdf 14).Returns (.ok (.dict [])) := by
    exact ⟨20, by decide +kernel⟩
  have hone : Denotes plainZlib farActionDocument 1 (.ref 2 0) :=
    @Denotes.plain _ _ 1 0 0 _ (by decide +kernel) hfirst
  have htwo : Denotes plainZlib farActionDocument 2 (.dict []) :=
    @Denotes.plain _ _ 2 14 0 _ (by decide +kernel) hsecond
  exact .follow hone (.follow htwo (.here (by rintro n g ⟨⟩)))

/-- The links are returned, and the document holds an additional action. -/
theorem additional_action_returned :
    (openDocument plainZlib farActionPdf).Returns (.ok farActionDocument) ∧
      (deliveryLinkUris plainZlib plainRules farActionPdf).Returns (.ok []) ∧
        Visited plainZlib farActionDocument farActionDocument.trailer ∧
          ¬ AllRolesHold plainZlib farActionDocument farActionDocument.trailer := by
  refine ⟨farActionFile.opens, farActionFile.returns, Or.inl (Or.inl ⟨none, .self⟩), ?_⟩
  intro hall
  exact hall.additional (.ref 1 0) _ (by decide +kernel) trivial farAction_leads _ rfl

/-- The equivalence at this file. -/
theorem roles_measured_iff_far :
    (∀ fields, Visited plainZlib farActionDocument fields →
        AllRolesHold plainZlib farActionDocument fields) ↔
      ∀ fields, Visited plainZlib farActionDocument fields →
        FarRolesHold plainZlib farActionDocument fields :=
  roles_measured_iff plainZlib plainRules farActionPdf [] farActionDocument
    farActionFile.returns farActionFile.opens

end Assets
end MoneyMachine
