import MoneyMachine.Assets.PdfWalk

/-!
# PdfActions — what a returned list of links says about the actions of a document

`delivery_link_uris` returns after the walk has checked every dictionary and the pages have given the
URI of each of their link annotations.  An action is checked in one of the two places, but for three
kinds that neither sees (`Overlooked`).

* `documentLinkUris_gives` : the returned URIs are the links of the pages;
* `actions_only_uri_iff`   : every action is a known URI exactly when the overlooked ones are.
-/

namespace MoneyMachine
namespace Assets

open MoneyMachine.Library
open MoneyMachine.Library.Stateful

section Links

variable {zlib : Zlib} {doc : PdfDocument} {rules : LinkRules}

/-! ## The links of the pages -/

/-- The URI of a link annotation, as `_uri_action` reads it. -/
structure ActionOf (zlib : Zlib) (doc : PdfDocument) (annot : Fields) (text : List Char) : Prop where
  keys : annot.hasKeys linkKeys = true
  type : nameIs (annot.field "Type") "Annot" = true
  action : ∃ action, Once zlib doc (annot.field "A") (.dict action) ∧
    ∃ x, Once zlib doc (Fields.field action "URI") x ∧ textOf x = some text

theorem ActionOf.unique {annot : Fields} {text text' : List Char} (h : ActionOf zlib doc annot text)
    (h' : ActionOf zlib doc annot text') : text = text' := by
  rcases h.action with ⟨action, haction, x, hx, htext⟩
  rcases h'.action with ⟨action', haction', x', hx', htext'⟩
  cases haction.unique haction'
  cases hx.unique hx'
  rw [htext] at htext'
  exact Option.some.inj htext'

theorem asDict_of_hasKeys {o : PdfObject} {names : List String}
    (h : (asDict o).hasKeys names = true) (hne : names ≠ []) : o = .dict (asDict o) := by
  cases o with
  | dict fields => rfl
  | _ =>
    rcases List.exists_mem_of_ne_nil names hne with ⟨name, hname⟩
    cases Fields.hasKeys_isSome h hname

theorem uriText_gives {annot : Fields} {uri : Option (List Char)}
    (haction : ∀ text, uri = some text → ActionOf zlib doc annot text) :
    Gives (Correct zlib doc)
      (match uri with
        | none => refuse "pdf uri"
        | some uri => pure uri : Walk (List Char)) (ActionOf zlib doc annot) := by
  cases uri with
  | none => exact refuse_gives
  | some uri => exact gives_pure (haction uri rfl)

theorem uriAction_gives (annot : Fields) :
    Gives (Correct zlib doc) (uriAction zlib doc annot) (ActionOf zlib doc annot) := by
  rw [uriAction]
  split_ifs with hkeys htype
  · exact refuse_gives
  · exact refuse_gives
  · apply (once_gives _).bind
    intro found hfound
    simp only
    split_ifs with hwrong hnone
    · exact refuse_gives
    · exact refuse_gives
    · have hdict : found = .dict (asDict found) := by
        rw [Bool.and_eq_true, Bool.not_eq_true', Bool.not_eq_true', not_and_or, Bool.not_eq_false,
          Bool.not_eq_false] at hnone
        rcases hnone with h | h
        · exact asDict_of_hasKeys h (List.cons_ne_nil _ _)
        · exact asDict_of_hasKeys h (List.cons_ne_nil _ _)
      apply (once_gives _).bind
      intro x hx
      have haction : ∀ uri, textOf x = some uri → ActionOf zlib doc annot uri :=
        fun uri htext =>
          { keys := by simpa using hkeys
            type := by simpa using htype
            action := ⟨asDict found, hdict ▸ hfound, x, hx, htext⟩ }
      cases x with
      | stream fields data => exact refuse_gives
      | _ => exact uriText_gives haction

/-- The URI of an item of `/Annots`. -/
def ItemLink (zlib : Zlib) (doc : PdfDocument) (item : PdfObject) (text : List Char) : Prop :=
  ∃ annot, Leads zlib doc 8 item (.dict annot) ∧ ActionOf zlib doc annot text

/-- The items of the `/Annots` array of a page. -/
def AnnotItems (zlib : Zlib) (doc : PdfDocument) (page : Fields) (items : List PdfObject) : Prop :=
  Leads zlib doc 8 (page.field "Annots") (.array items)

/-- A URI that a page links. -/
def PageLink (zlib : Zlib) (doc : PdfDocument) (page : Fields) (text : List Char) : Prop :=
  ∃ items, AnnotItems zlib doc page items ∧ ∃ item ∈ items, ItemLink zlib doc item text

/-- Every item of the `/Annots` array of a page is a link. -/
def AllLinks (zlib : Zlib) (doc : PdfDocument) (page : Fields) : Prop :=
  ∀ items, AnnotItems zlib doc page items → ∀ item ∈ items, ∃ text, ItemLink zlib doc item text

theorem pageUris_gives (page : Fields) :
    Gives (Correct zlib doc) (pageUris zlib doc page)
      (fun uris => (∀ text, text ∈ uris ↔ PageLink zlib doc page text) ∧ AllLinks zlib doc page) := by
  apply (derefObject_gives _).bind
  intro annots hannots
  have hother : (∀ items, annots ≠ .array items) → Gives (Correct zlib doc)
      (pure [] : Walk (List (List Char)))
      (fun uris => (∀ text, text ∈ uris ↔ PageLink zlib doc page text) ∧ AllLinks zlib doc page) := by
    intro hnot
    apply gives_pure
    constructor
    · intro text
      constructor
      · rintro ⟨⟩
      · rintro ⟨items, hitems, _⟩
        exact absurd (hannots.unique hitems) (hnot items)
    · intro items hitems
      exact absurd (hannots.unique hitems) (hnot items)
  cases annots with
  | array items =>
    have hfold : Gives (Correct zlib doc)
        (items.foldlM (fun uris item => do
          let annot ← derefObject zlib doc item
          let uri ← uriAction zlib doc (asDict annot)
          pure (uris ++ [uri])) [])
        (Folds (fun item b b' => ∃ more, b' = b ++ more ∧
          (∀ text, text ∈ more ↔ ItemLink zlib doc item text) ∧
            ∃ text, ItemLink zlib doc item text) items []) := by
      apply gives_foldlM
      intro item _ b
      apply (derefObject_gives item).bind
      intro annot hannot
      apply (uriAction_gives _).bind
      intro uri huri
      have hdict := asDict_of_hasKeys huri.keys (List.cons_ne_nil _ _)
      rw [hdict] at hannot
      have hlink : ItemLink zlib doc item uri := ⟨_, hannot, huri⟩
      refine gives_pure ⟨[uri], rfl, ?_, uri, hlink⟩
      intro text
      rw [List.mem_singleton]
      constructor
      · rintro rfl
        exact hlink
      · rintro ⟨annot', hannot', huri'⟩
        have hsame := hannot.unique hannot'
        rw [PdfObject.dict.injEq] at hsame
        rw [← hsame] at huri'
        exact huri'.unique huri
    apply hfold.mono
    intro uris hfolds
    constructor
    · intro text
      have hplain : Folds (fun item b b' => ∃ more, b' = b ++ more ∧
          ∀ text, text ∈ more ↔ ItemLink zlib doc item text) items [] uris :=
        hfolds.imp (fun _ _ _ ⟨more, hb, hmore, _⟩ => ⟨more, hb, hmore⟩)
      rw [folds_append hplain]
      constructor
      · rintro (hnil | ⟨item, hitem, hlink⟩)
        · cases hnil
        · exact ⟨items, hannots, item, hitem, hlink⟩
      · rintro ⟨items', hitems', item, hitem, hlink⟩
        cases hannots.unique hitems'
        exact Or.inr ⟨item, hitem, hlink⟩
    · intro items' hitems' item hitem
      cases hannots.unique hitems'
      rcases hfolds.step_of_mem hitem with ⟨_, _, _, _, _, hlink⟩
      exact hlink
  | _ => exact hother (by rintro items ⟨⟩)

/-- A URI that some page of the document links. -/
def IsLink (zlib : Zlib) (doc : PdfDocument) (text : List Char) : Prop :=
  ∃ number page, IsPage zlib doc number page ∧ PageLink zlib doc page text

/-- What is known when the links of a document are returned. -/
structure Delivered (zlib : Zlib) (doc : PdfDocument) (rules : LinkRules) (uris : List (List Char)) :
    Prop where
  graph : ∃ realPages seen, RealPages zlib doc realPages ∧ GraphCovered zlib doc rules realPages seen
  links : ∀ text, text ∈ uris ↔ IsLink zlib doc text
  all : ∀ number page, IsPage zlib doc number page → AllLinks zlib doc page

theorem documentLinkUris_gives :
    Gives (Correct zlib doc) (documentLinkUris zlib doc rules) (Delivered zlib doc rules) := by
  apply refuseGraph_gives.bind
  rintro seen ⟨realPages, hreal, hgraph⟩
  apply documentPages_gives.bind
  intro found hfound
  have hfold : Gives (Correct zlib doc)
      (found.foldlM (fun uris page => do
        let more ← pageUris zlib doc page.2
        pure (uris ++ more)) [])
      (Folds (fun (page : Option Int × Fields) b b' => ∃ more, b' = b ++ more ∧
        (∀ text, text ∈ more ↔ PageLink zlib doc page.2 text) ∧ AllLinks zlib doc page.2) found []) := by
    apply gives_foldlM
    intro page _ b
    apply (pageUris_gives page.2).bind
    rintro more ⟨hmore, hall⟩
    exact gives_pure ⟨more, rfl, hmore, hall⟩
  apply hfold.mono
  intro uris hfolds
  refine { graph := ⟨realPages, seen, hreal, hgraph⟩, links := ?_, all := ?_ }
  · intro text
    have hplain : Folds (fun (page : Option Int × Fields) b b' => ∃ more, b' = b ++ more ∧
        ∀ text, text ∈ more ↔ PageLink zlib doc page.2 text) found [] uris :=
      hfolds.imp (fun _ _ _ ⟨more, hb, hmore, _⟩ => ⟨more, hb, hmore⟩)
    rw [folds_append hplain]
    constructor
    · rintro (hnil | ⟨page, hpage, hlink⟩)
      · cases hnil
      · exact ⟨page.1, page.2, (hfound page).1 hpage, hlink⟩
    · rintro ⟨number, page, hpage, hlink⟩
      exact Or.inr ⟨(number, page), (hfound (number, page)).2 hpage, hlink⟩
  · intro number page hpage
    rcases hfolds.step_of_mem ((hfound (number, page)).2 hpage) with ⟨_, _, _, _, _, hall⟩
    exact hall

/-- What is known when `delivery_link_uris` returns. -/
theorem deliveryLinkUris_delivered {pdf : Bytes} {uris : List (List Char)}
    (h : (deliveryLinkUris zlib rules pdf).Returns (.ok uris))
    (hdoc : (openDocument zlib pdf).Returns (.ok doc)) : Delivered zlib doc rules uris := by
  rcases Comp.returns_ok_bind.1 h with ⟨opened, hattempt, hrest⟩
  rcases Comp.returns_attempt.1 hattempt with ⟨opened', hopen, hsame⟩
  cases hsame
  cases hopen.unique hdoc
  rcases Comp.returns_ok_bind.1 hrest with ⟨⟨found, caches⟩, hwalk, hpure⟩
  cases Except.ok.inj (Comp.returns_pure.1 hpure)
  exact documentLinkUris_gives.returns Correct.empty hwalk

end Links

/-! ## Deferred actions -/

section Deferred

variable {zlib : Zlib} {doc : PdfDocument} {rules : LinkRules} {realPages : List Int}

theorem leads_of_denotes {hops : Nat} {n g : Int} {fields : Fields} {x : PdfObject}
    (hn : Denotes zlib doc n (.dict fields)) (h : Leads zlib doc hops (.ref n g) x) :
    x = .dict fields := by
  cases h with
  | here hnot => exact absurd rfl (hnot n g)
  | follow hn' h' =>
    cases hn.unique hn'
    cases h' with
    | here _ => rfl

/-- A page that is found under a number is the object of that number, when that is a dictionary. -/
theorem PageOf.of_denotes {node : PdfObject} {number : Option Int} {page : Fields}
    (h : PageOf zlib doc node number page) {n : Int} (hnumber : number = some n) {fields : Fields}
    (hn : Denotes zlib doc n (.dict fields)) : page = fields := by
  induction h with
  | page h _ =>
    rename_i node found _
    cases node with
    | ref m g =>
      cases hnumber
      rw [leads_of_denotes hn h]
      rfl
    | _ => cases hnumber
  | kid _ _ _ _ _ ih => exact ih hnumber

theorem RealPages.isPage (h : RealPages zlib doc realPages) {n : Int} (hn : n ∈ realPages)
    {page : Fields} (hpage : Denotes zlib doc n (.dict page)) : IsPage zlib doc (some n) page := by
  rcases (h n).1 hn with ⟨page', root, hroot, hpageOf⟩
  have hsame := hpageOf.of_denotes rfl hpage
  subst hsame
  exact ⟨root, hroot, hpageOf⟩

/-- Where a value is a dictionary after one hop, it is nothing else. -/
theorem spread_of_dict {value x : PdfObject} {fields : Fields}
    (hvalue : Once zlib doc value (.dict fields)) (h : Spread zlib doc value x) : x = .dict fields := by
  induction h with
  | here hx => exact hx.unique hvalue
  | item _ _ _ ih => cases ih
  | stream _ ih => cases ih

/-- Where a value is an array of dictionaries, it is the array, one of them or a further reference. -/
theorem spread_of_array {value x : PdfObject} {items : List PdfObject}
    (hvalue : Leads zlib doc 8 value (.array items))
    (hitems : ∀ item ∈ items, ∃ fields, Leads zlib doc 8 item (.dict fields))
    (h : Spread zlib doc value x) :
    (∃ n g, x = .ref n g) ∨ x = .array items ∨
      ∃ item ∈ items, Once zlib doc item x ∧ ∃ fields, x = .dict fields := by
  induction h with
  | @here x hx =>
    by_cases href : ∃ n g, x = .ref n g
    · exact Or.inl href
    · have hnot : ∀ n g, x ≠ .ref n g := fun n g hxr => href ⟨n, g, hxr⟩
      exact Or.inr (Or.inl ((hx.leads hnot).unique hvalue))
  | @item items' item x _ hitem hx ih =>
    rcases ih with ⟨n, g, href⟩ | hsame | ⟨_, _, _, fields, hdict⟩
    · cases href
    · cases hsame
      by_cases href : ∃ n g, x = .ref n g
      · exact Or.inl href
      · have hnot : ∀ n g, x ≠ .ref n g := fun n g hxr => href ⟨n, g, hxr⟩
        rcases hitems item hitem with ⟨fields, hfields⟩
        exact Or.inr (Or.inr ⟨item, hitem, hx, fields, (hx.leads hnot).unique hfields⟩)
    · cases hdict
  | stream _ ih =>
    rcases ih with ⟨n, g, href⟩ | hsame | ⟨_, _, _, fields, hdict⟩
    · cases href
    · cases hsame
    · cases hdict

/-- An action whose page has no array of annotations: it is deferred and never read. -/
def DeferredAlone (zlib : Zlib) (doc : PdfDocument) (action : Fields) : Prop :=
  ∃ (n : Int) (page annot : Fields), IsPage zlib doc (some n) page ∧ Denotes zlib doc n (.dict page) ∧
    (∀ items, ¬ AnnotItems zlib doc page items) ∧
      Spread zlib doc (page.field "Annots") (.dict annot) ∧
        Spread zlib doc (annot.field "A") (.dict action)

/-- A deferred action is read from its page, or its page has no array of annotations. -/
theorem LinkAction.read_or_alone (hreal : RealPages zlib doc realPages)
    (hall : ∀ number page, IsPage zlib doc number page → AllLinks zlib doc page) {action : Fields}
    (h : LinkAction zlib doc realPages (.dict action)) :
    DeferredAlone zlib doc action ∨
      ∃ x text, Once zlib doc (action.field "URI") x ∧ textOf x = some text ∧ IsLink zlib doc text := by
  rcases h with ⟨annot, ⟨n, page, hn, hpage, hannots⟩, hspread⟩
  have hIsPage := hreal.isPage hn hpage
  by_cases harray : ∃ items, AnnotItems zlib doc page items
  · right
    rcases harray with ⟨items, hitems⟩
    have hlinks := hall _ _ hIsPage items hitems
    have hdicts : ∀ item ∈ items, ∃ fields, Leads zlib doc 8 item (.dict fields) := by
      intro item hitem
      rcases hlinks item hitem with ⟨_, fields, hfields, _⟩
      exact ⟨fields, hfields⟩
    rcases spread_of_array hitems hdicts hannots with ⟨m, g, href⟩ | hsame | ⟨item, hitem, hx, _⟩
    · cases href
    · cases hsame
    · rcases hlinks item hitem with ⟨text, fields, hfields, hlink⟩
      cases (hx.leads (by rintro m g ⟨⟩)).unique hfields
      rcases hlink.action with ⟨read, hread, x, hx', htext⟩
      have hsame := spread_of_dict hread hspread
      rw [PdfObject.dict.injEq] at hsame
      subst hsame
      exact ⟨x, text, hx', htext, some n, page, hIsPage, items, hitems, item, hitem, annot, hfields,
        hlink⟩
  · left
    exact ⟨n, page, annot, hIsPage, hpage, fun items hitems => harray ⟨items, hitems⟩, hannots, hspread⟩

/-! ## Every action -/

/-- The rule of a delivery PDF for a dictionary: where `/S` is a name it is `URI`, and a string `/URI`
is a known one. -/
def OnlyUri (zlib : Zlib) (doc : PdfDocument) (known : List Char → Prop) (fields : Fields) : Prop :=
  ∀ name, Leads zlib doc 8 (fields.field "S") (.name name) → name = "URI".toList ∧
    ∀ x text, Leads zlib doc 8 (fields.field "URI") x → textOf x = some text → known text

/-- The actions that neither the walk nor the pages look at: `/S` is a reference, `/URI` is two
references away, or the page has no array of annotations. -/
inductive Overlooked (zlib : Zlib) (doc : PdfDocument) (fields : Fields) : Prop
  | indirect (n g : Int) (h : fields.field "S" = .ref n g)
  | far (n g m g' : Int) (h : fields.field "URI" = .ref n g) (hn : Denotes zlib doc n (.ref m g'))
  | alone (h : DeferredAlone zlib doc fields)

/-- A URI at most one reference away is found by one hop. -/
theorem once_of_leads {value x : PdfObject} {text : List Char} (h : Leads zlib doc 8 value x)
    (htext : textOf x = some text)
    (hnear : ∀ n g m g', value = .ref n g → ¬ Denotes zlib doc n (.ref m g')) :
    Once zlib doc value x := by
  cases h with
  | here hnot =>
    cases value with
    | ref n g => exact absurd rfl (hnot n g)
    | _ => rfl
  | follow hn h =>
    cases h with
    | here _ => exact hn
    | follow hm _ => exact absurd hn (hnear _ _ _ _ rfl)

/-- An action that is not overlooked is a link of a page or an accepted one. -/
theorem Checked.onlyUri {fields : Fields} {role : Role} (hreal : RealPages zlib doc realPages)
    (hall : ∀ number page, IsPage zlib doc number page → AllLinks zlib doc page)
    (h : Checked zlib doc rules realPages fields role) (hseen : ¬ Overlooked zlib doc fields) :
    OnlyUri zlib doc (fun text => IsLink zlib doc text ∨ text ∈ rules.accepted) fields := by
  rcases h with ⟨context, hjustified, _, haction⟩
  intro name hname
  have hdirect : fields.field "S" = .name name := by
    cases hs : fields.field "S" with
    | ref n g => exact absurd (.indirect n g hs) hseen
    | name value =>
      rw [hs] at hname
      cases hname
      rfl
    | _ =>
      rw [hs] at hname
      cases hname
  have hnear : ∀ n g m g', fields.field "URI" = .ref n g → ¬ Denotes zlib doc n (.ref m g') :=
    fun n g m g' huri hn => hseen (.far n g m g' huri hn)
  refine ⟨haction.uri name hdirect, ?_⟩
  intro x text hx htext
  have honce := once_of_leads hx htext hnear
  cases hlink : context.inLinkAction with
  | false => exact Or.inr (haction.accepted name hdirect hlink x text honce htext)
  | true =>
    rcases (hjustified.action hlink).read_or_alone hreal hall with halone | ⟨y, text', hy, hy', hlink'⟩
    · exact absurd (.alone halone) hseen
    · left
      cases honce.unique hy
      rw [htext] at hy'
      cases hy'
      exact hlink'

end Deferred

/-- When `delivery_link_uris` returns, every action of the document is a returned or an accepted URI
exactly when the overlooked actions are links of the pages or accepted URIs. -/
theorem actions_only_uri_iff (zlib : Zlib) (rules : LinkRules) (pdf : Bytes) (uris : List (List Char))
    (doc : PdfDocument) (h : (deliveryLinkUris zlib rules pdf).Returns (.ok uris))
    (hdoc : (openDocument zlib pdf).Returns (.ok doc)) :
    (∀ fields, InDocument zlib doc (.dict fields) →
        OnlyUri zlib doc (fun text => text ∈ uris ∨ text ∈ rules.accepted) fields) ↔
      ∀ fields, InDocument zlib doc (.dict fields) → Overlooked zlib doc fields →
        OnlyUri zlib doc (fun text => IsLink zlib doc text ∨ text ∈ rules.accepted) fields := by
  have hdelivered := deliveryLinkUris_delivered h hdoc
  rcases hdelivered.graph with ⟨realPages, seen, hreal, hgraph⟩
  constructor
  · intro hclaimed fields hfields _ name hname
    refine ⟨(hclaimed fields hfields name hname).1, ?_⟩
    intro x text hx htext
    rcases (hclaimed fields hfields name hname).2 x text hx htext with huri | haccepted
    · exact Or.inl ((hdelivered.links text).1 huri)
    · exact Or.inr haccepted
  · intro hoverlooked fields hfields
    have hall : OnlyUri zlib doc (fun text => IsLink zlib doc text ∨ text ∈ rules.accepted) fields := by
      by_cases hseen : Overlooked zlib doc fields
      · exact hoverlooked fields hfields hseen
      · rcases hgraph.covered hfields with ⟨role, hcovered⟩
        exact ((hcovered _ _ .self).dict fields rfl).onlyUri hreal hdelivered.all hseen
    intro name hname
    refine ⟨(hall name hname).1, ?_⟩
    intro x text hx htext
    rcases (hall name hname).2 x text hx htext with hlink | haccepted
    · exact Or.inl ((hdelivered.links text).2 hlink)
    · exact Or.inr haccepted

/-! ## A hidden action -/

/-- No stream is inflated and no URI is refused here. -/
def plainZlib : Zlib :=
  { decompress := fun _ => none
    decompressRaw := fun _ => none }

def plainRules : LinkRules :=
  { refuseLink := fun _ => .ok none
    accepted := [] }

/-- The `/S` of the trailer's `/X` is a reference to the name `JavaScript`. -/
def hiddenActionPdf : Bytes :=
  ascii ("1 0 obj/JavaScript\nxref\n1 1\n0000000000 00000 n \n" ++
    "trailer<</Root<</Type 0/Pages<</Kids[]>>>>/X<</S 1 0 R>>>>\nstartxref\n19\n")

def hiddenAction : Fields :=
  [("S".toList, .ref 1 0)]

def hiddenActionDocument : PdfDocument :=
  { pdf := hiddenActionPdf
    entries := [(1, .plain 0 0)]
    trailer := [("Root".toList, .dict [("Type".toList, .int 0),
      ("Pages".toList, .dict [("Kids".toList, .array [])])]), ("X".toList, .dict hiddenAction)] }

/-- A file opens to a document, and its links are returned. -/
structure OpenedPdf (pdf : Bytes) (doc : PdfDocument) where
  uris : List (List Char)
  opens : (openDocument plainZlib pdf).Returns (.ok doc)
  returns : (deliveryLinkUris plainZlib plainRules pdf).Returns (.ok uris)

def hiddenActionFile : OpenedPdf hiddenActionPdf hiddenActionDocument where
  uris := []
  opens := ⟨20, by decide +kernel⟩
  returns := ⟨20, by decide +kernel⟩

theorem hiddenAction_inDocument : InDocument plainZlib hiddenActionDocument (.dict hiddenAction) :=
  Or.inl ⟨some "X".toList, Part.field .self (by decide +kernel)⟩

theorem hiddenAction_name : Leads plainZlib hiddenActionDocument 8
    (Fields.field hiddenAction "S") (.name "JavaScript".toList) := by
  have hparse : (parseAt plainZlib hiddenActionDocument.pdf 0).Returns (.ok (.name "JavaScript".toList)) := by
    exact ⟨20, by decide +kernel⟩
  have hobject : Denotes plainZlib hiddenActionDocument 1 (.name "JavaScript".toList) :=
    @Denotes.plain _ _ 1 0 0 _ (by decide +kernel) hparse
  exact .follow hobject (.here (by rintro n g ⟨⟩))

/-- The links are returned, and the document holds an action that is no URI. -/
theorem javascript_returned :
    (openDocument plainZlib hiddenActionPdf).Returns (.ok hiddenActionDocument) ∧
      (deliveryLinkUris plainZlib plainRules hiddenActionPdf).Returns (.ok []) ∧
        InDocument plainZlib hiddenActionDocument (.dict hiddenAction) ∧
          ¬ OnlyUri plainZlib hiddenActionDocument
            (fun text => text ∈ ([] : List (List Char)) ∨ text ∈ plainRules.accepted) hiddenAction := by
  refine ⟨hiddenActionFile.opens, hiddenActionFile.returns, hiddenAction_inDocument, ?_⟩
  intro honly
  exact absurd (honly _ hiddenAction_name).1 (by decide)

/-- The equivalence at this file. -/
theorem actions_only_uri_iff_hidden :
    (∀ fields, InDocument plainZlib hiddenActionDocument (.dict fields) →
        OnlyUri plainZlib hiddenActionDocument
          (fun text => text ∈ ([] : List (List Char)) ∨ text ∈ plainRules.accepted) fields) ↔
      ∀ fields, InDocument plainZlib hiddenActionDocument (.dict fields) →
        Overlooked plainZlib hiddenActionDocument fields →
          OnlyUri plainZlib hiddenActionDocument
            (fun text => IsLink plainZlib hiddenActionDocument text ∨ text ∈ plainRules.accepted) fields :=
  actions_only_uri_iff plainZlib plainRules hiddenActionPdf [] hiddenActionDocument
    hiddenActionFile.returns hiddenActionFile.opens

end Assets
end MoneyMachine
