import MoneyMachine.Assets.PdfObjects
import MoneyMachine.Assets.PdfTermination

/-!
# PdfWalk — what the walk over a PDF has seen when it returns

What a reference stands for does not depend on the caches, so the calls of the walk have a meaning of
their own: `Leads` for `deref` and `Once` for one hop.

* `pages_gives` : the pages of `_pages` are the pages of the tree;
* `scan_gives`  : `scan` has checked every dictionary it covers, with a context that is justified;
* `refuseGraph_gives` : every dictionary of the document was checked.
-/

namespace MoneyMachine
namespace Assets

open MoneyMachine.Library
open MoneyMachine.Library.Stateful

section References

variable {zlib : Zlib} {doc : PdfDocument}

/-! ## References -/

/-- The cross-reference says one thing about an object. -/
theorem Denotes.unique {n : Int} {o o' : PdfObject} (h : Denotes zlib doc n o)
    (h' : Denotes zlib doc n o') : o = o' := by
  induction h generalizing o' with
  | plain hentry hparse =>
    cases h' with
    | plain hentry' hparse' =>
      rw [hentry] at hentry'
      cases hentry'
      exact Except.ok.inj (hparse.unique hparse')
    | compressed hentry' _ _ _ =>
      rw [hentry] at hentry'
      cases hentry'
  | compressed hentry _ hobjects hlookup ih =>
    cases h' with
    | plain hentry' _ =>
      rw [hentry] at hentry'
      cases hentry'
    | compressed hentry' hfound' hobjects' hlookup' =>
      rw [hentry] at hentry'
      cases hentry'
      have hfound := ih hfound'
      subst hfound
      have hall := Except.ok.inj (hobjects.unique hobjects')
      subst hall
      rw [hlookup] at hlookup'
      exact Option.some.inj hlookup'

/-- At most so many references lead to a value that is none. -/
inductive Leads (zlib : Zlib) (doc : PdfDocument) : Nat → PdfObject → PdfObject → Prop
  | here {hops : Nat} {o : PdfObject} (h : ∀ n g, o ≠ .ref n g) : Leads zlib doc hops o o
  | follow {hops : Nat} {n g : Int} {o o' : PdfObject} (hn : Denotes zlib doc n o)
      (h : Leads zlib doc hops o o') : Leads zlib doc (hops + 1) (.ref n g) o'

theorem Leads.unique {hops hops' : Nat} {o x y : PdfObject} (h : Leads zlib doc hops o x)
    (h' : Leads zlib doc hops' o y) : x = y := by
  induction h generalizing hops' with
  | here hnot =>
    cases h' with
    | here _ => rfl
    | follow _ _ => exact absurd rfl (hnot _ _)
  | follow hn _ ih =>
    cases h' with
    | here hnot => exact absurd rfl (hnot _ _)
    | follow hn' h' =>
      have hsame := hn.unique hn'
      subst hsame
      exact ih h'

/-- `_once`: a reference is followed one hop. -/
def Once (zlib : Zlib) (doc : PdfDocument) : PdfObject → PdfObject → Prop
  | .ref n _, x => Denotes zlib doc n x
  | o, x => x = o

theorem Once.unique {o x y : PdfObject} (h : Once zlib doc o x) (h' : Once zlib doc o y) : x = y := by
  cases o with
  | ref n g => exact Denotes.unique h h'
  | _ => exact Eq.trans h (Eq.symm h')

theorem once_direct {o x : PdfObject} (hnot : ∀ n g, o ≠ .ref n g) (h : Once zlib doc o x) : x = o := by
  cases o with
  | ref n g => exact absurd rfl (hnot n g)
  | _ => exact h

/-- What one hop finds is what `deref` finds, when it is no reference. -/
theorem Once.leads {o x : PdfObject} (h : Once zlib doc o x) (hnot : ∀ n g, x ≠ .ref n g) :
    Leads zlib doc 8 o x := by
  cases o with
  | ref n g => exact .follow h (.here hnot)
  | _ =>
    have hsame : x = _ := h
    subst hsame
    exact .here hnot

/-! ## The calls of the walk -/

theorem lift_gives {α : Type} {call : Caches → Comp Empty (Cached α)} {Q : α → Prop}
    (h : ∀ caches, Correct zlib doc caches → ∀ a caches', (call caches).Returns (.ok (.ok a, caches')) →
      Correct zlib doc caches' ∧ Q a) : Gives (Correct zlib doc) (lift call) Q := by
  intro caches hcaches a caches' hm
  rcases Comp.returns_ok_bind.1 hm with ⟨answer, hattempt, hrest⟩
  rcases Comp.returns_attempt.1 hattempt with ⟨result, hcall, hresult⟩
  cases hresult
  rcases answer with e | ⟨found, caches''⟩
  · cases e
  · cases found with
    | error e =>
      cases Comp.returns_ofExcept.1 hrest
    | ok b =>
      have hsame := Except.ok.inj (Comp.returns_pure.1 hrest)
      cases hsame
      exact h caches hcaches a caches' hcall

theorem getObject_gives (n : Int) : Gives (Correct zlib doc) (getObject zlib doc n) (Denotes zlib doc n) := by
  apply lift_gives
  intro caches hcaches a caches' hget
  have hanswers := get_answers hcaches hget
  exact ⟨hanswers.1, hanswers.2 a rfl⟩

theorem derefWithin_leads (hops : Nat) {caches caches' : Caches} {o x : PdfObject}
    (hcaches : Correct zlib doc caches)
    (h : (derefWithin zlib doc hops caches o).Returns (.ok (.ok x, caches'))) :
    Leads zlib doc hops o x := by
  induction hops generalizing caches o with
  | zero =>
    cases o with
    | ref n g => cases Except.ok.inj (Comp.returns_pure.1 h)
    | _ =>
      cases Except.ok.inj (Comp.returns_pure.1 h)
      exact .here (by rintro n g ⟨⟩)
  | succ hops ih =>
    cases o with
    | ref n g =>
      rw [derefWithin, Comp.returns_ok_bind] at h
      rcases h with ⟨⟨result, caches''⟩, hget, hrest⟩
      have hanswers := get_answers hcaches hget
      cases result with
      | error e => cases Except.ok.inj (Comp.returns_pure.1 hrest)
      | ok found => exact .follow (hanswers.2 found rfl) (ih hanswers.1 hrest)
    | _ =>
      cases Except.ok.inj (Comp.returns_pure.1 h)
      exact .here (by rintro n g ⟨⟩)

theorem derefObject_gives (o : PdfObject) :
    Gives (Correct zlib doc) (derefObject zlib doc o) (Leads zlib doc 8 o) := by
  apply lift_gives
  intro caches hcaches x caches' hderef
  exact ⟨derefWithin_correct 8 hcaches hderef, derefWithin_leads 8 hcaches hderef⟩

theorem once_gives (o : PdfObject) : Gives (Correct zlib doc) (once zlib doc o) (Once zlib doc o) := by
  cases o with
  | ref n g => exact getObject_gives n
  | _ => exact gives_pure rfl

theorem refuse_gives {α : Type} {text : String} {Q : α → Prop} :
    Gives (Correct zlib doc) (refuse text) Q :=
  gives_error

end References

/-! ## Fields -/

theorem Fields.mem_itemsAfter {before : List (List Char)} {fields : Fields} {key : List Char}
    {value : PdfObject} :
    (key, value) ∈ fields.itemsAfter before ↔ key ∉ before ∧ fields.lookup key = some value := by
  induction fields generalizing before with
  | nil => simp [Fields.itemsAfter]
  | cons field rest ih =>
    rcases field with ⟨key', value'⟩
    rw [Fields.itemsAfter, List.lookup_cons]
    by_cases hsame : key = key'
    · subst hsame
      by_cases hbefore : key ∈ before
      · rw [if_pos hbefore, ih]
        simp [hbefore]
      · rw [if_neg hbefore, List.mem_cons, ih]
        simp [hbefore, eq_comm]
    · have hne : (key == key') = false := by simpa using hsame
      by_cases hbefore : key' ∈ before
      · rw [if_pos hbefore, ih, hne]
      · rw [if_neg hbefore, List.mem_cons, ih, hne]
        simp [hsame]

/-- The items of a dictionary are what `fields.get` finds. -/
theorem Fields.mem_items {fields : Fields} {key : List Char} {value : PdfObject} :
    (key, value) ∈ fields.items ↔ fields.lookup key = some value := by
  rw [Fields.items, Fields.mem_itemsAfter]
  simp

theorem Fields.field_of_lookup {fields : Fields} {name : String} {value : PdfObject}
    (h : fields.lookup name.toList = some value) : fields.field name = value := by
  rw [Fields.field, Fields.get?, h]
  rfl

theorem Fields.lookup_of_field {fields : Fields} {name : String} (h : fields.field name ≠ .null) :
    fields.lookup name.toList = some (fields.field name) := by
  unfold Fields.field Fields.get? at h ⊢
  cases hlookup : fields.lookup name.toList with
  | none => simp [hlookup] at h
  | some value => rfl

/-- A key that is measured is there. -/
theorem Fields.hasKeys_isSome {fields : Fields} {names : List String} (h : fields.hasKeys names = true)
    {name : String} (hname : name ∈ names) : (fields.get? name).isSome = true := by
  rw [Fields.hasKeys, Bool.and_eq_true, List.all_eq_true, List.all_eq_true] at h
  exact h.2 name hname

/-! ## Pages -/

section Pages

variable {zlib : Zlib} {doc : PdfDocument}

/-- The number of the object a node is in, when it is a reference. -/
def PdfObject.number? : PdfObject → Option Int
  | .ref n _ => some n
  | _ => none

/-- The pages of the tree below a node, each with the number of its object. -/
inductive PageOf (zlib : Zlib) (doc : PdfDocument) : PdfObject → Option Int → Fields → Prop
  | page {node found : PdfObject} (h : Leads zlib doc 8 node found)
      (htype : nameIs ((asDict found).field "Type") "Page" = true) :
      PageOf zlib doc node node.number? (asDict found)
  | kid {node found kid : PdfObject} {kids : List PdfObject} {number : Option Int} {page : Fields}
      (h : Leads zlib doc 8 node found)
      (htype : nameIs ((asDict found).field "Type") "Page" = false)
      (hkids : Leads zlib doc 8 ((asDict found).field "Kids") (.array kids)) (hkid : kid ∈ kids)
      (hpage : PageOf zlib doc kid number page) : PageOf zlib doc node number page

theorem enterNode_gives (seen : List Int) (node : PdfObject) :
    Gives (Correct zlib doc) (enterNode seen node) (fun entered => entered.1 = node.number?) := by
  cases node with
  | ref n g =>
    rw [enterNode]
    split_ifs
    · exact refuse_gives
    · exact gives_pure rfl
  | _ => exact gives_pure rfl

/-- What a fold over the kids has found. -/
theorem folds_append {γ : Type} {β : Type} {P : γ → β → Prop} {xs : List γ} {found found' : List β}
    (h : Folds (fun x b b' => ∃ more, b' = b ++ more ∧ ∀ y, y ∈ more ↔ P x y) xs found found') (y : β) :
    y ∈ found' ↔ y ∈ found ∨ ∃ x ∈ xs, P x y := by
  induction h with
  | nil => simp
  | cons hstep _ ih =>
    rcases hstep with ⟨more, rfl, hmore⟩
    rw [ih, List.mem_append, hmore]
    simp only [List.mem_cons, exists_eq_or_imp, or_assoc]

/-- The pages that are found are the pages of the tree. -/
theorem pages_gives (levels : Nat) (seen : List Int) (node : PdfObject) :
    Gives (Correct zlib doc) (pages zlib doc levels seen node)
      (fun found => ∀ page, page ∈ found ↔ PageOf zlib doc node page.1 page.2) := by
  induction levels generalizing seen node with
  | zero => exact refuse_gives
  | succ levels ih =>
    rw [pages]
    apply (enterNode_gives seen node).bind
    rintro ⟨number, seen'⟩ hnumber
    simp only at hnumber
    subst hnumber
    apply (derefObject_gives node).bind
    intro found hfound
    by_cases htype : nameIs ((asDict found).field "Type") "Page" = true
    · simp only [htype, if_true]
      apply gives_pure
      rintro ⟨number, page⟩
      simp only [List.mem_singleton, Prod.mk.injEq]
      constructor
      · rintro ⟨rfl, rfl⟩
        exact .page hfound htype
      · intro hpage
        cases hpage with
        | page h _ =>
          have hsame := h.unique hfound
          subst hsame
          exact ⟨rfl, rfl⟩
        | kid h hnot _ _ _ =>
          have hsame := h.unique hfound
          subst hsame
          rw [htype] at hnot
          cases hnot
    · simp only [htype, Bool.false_eq_true, if_false]
      rw [Bool.not_eq_true] at htype
      apply (derefObject_gives _).bind
      intro kids hkids
      cases kids with
      | array kids =>
        have hfold : Gives (Correct zlib doc)
            (kids.foldlM (fun found kid => do
              let more ← pages zlib doc levels seen' kid
              pure (found ++ more)) [])
            (Folds (fun kid b b' => ∃ more, b' = b ++ more ∧
              ∀ page, page ∈ more ↔ PageOf zlib doc kid page.1 page.2) kids []) := by
          apply gives_foldlM
          intro kid _ b
          apply (ih seen' kid).bind
          intro more hmore
          exact gives_pure ⟨more, rfl, hmore⟩
        apply hfold.mono
        rintro pages' hpages ⟨number, page⟩
        rw [folds_append hpages]
        constructor
        · rintro (hnil | ⟨kid, hkid, hpage⟩)
          · cases hnil
          · exact .kid hfound htype hkids hkid hpage
        · intro hpage
          right
          cases hpage with
          | page h hpage =>
            have hsame := h.unique hfound
            subst hsame
            rw [htype] at hpage
            cases hpage
          | kid h _ hkids' hkid hpage =>
            have hsame := h.unique hfound
            subst hsame
            have hsame' := hkids'.unique hkids
            cases hsame'
            exact ⟨_, hkid, hpage⟩
      | _ => exact refuse_gives

/-- The pages of the document, below `/Root` and `/Pages`. -/
def IsPage (zlib : Zlib) (doc : PdfDocument) (number : Option Int) (page : Fields) : Prop :=
  ∃ root, Leads zlib doc 8 (doc.trailer.field "Root") root ∧
    PageOf zlib doc ((asDict root).field "Pages") number page

theorem documentPages_gives :
    Gives (Correct zlib doc) (documentPages zlib doc)
      (fun found => ∀ page, page ∈ found ↔ IsPage zlib doc page.1 page.2) := by
  have hroot : Gives (Correct zlib doc) (rootFields zlib doc)
      (fun fields => ∃ root, Leads zlib doc 8 (doc.trailer.field "Root") root ∧ fields = asDict root) := by
    apply (derefObject_gives _).bind
    intro root hroot
    exact gives_pure ⟨root, hroot, rfl⟩
  apply hroot.bind
  rintro fields ⟨root, hroot, rfl⟩
  apply (pages_gives _ _ _).mono
  intro found hfound page
  rw [hfound page]
  constructor
  · intro hpage
    exact ⟨root, hroot, hpage⟩
  · rintro ⟨root', hroot', hpage⟩
    have hsame := hroot'.unique hroot
    subst hsame
    exact hpage

end Pages

/-! ## Parts -/

/-- The parts of a value, each with the key it stands under.  A reference has no parts. -/
inductive Part (o : PdfObject) (role : Role) : PdfObject → Role → Prop
  | self : Part o role o role
  | item {items : List PdfObject} {x : PdfObject} {r : Role} (h : Part o role (.array items) r)
      (hx : x ∈ items) : Part o role x r
  | stream {fields : Fields} {data : Bytes} {r : Role} (h : Part o role (.stream fields data) r) :
      Part o role (.dict fields) r
  | field {fields : Fields} {key : List Char} {x : PdfObject} {r : Role}
      (h : Part o role (.dict fields) r) (hx : fields.lookup key = some x) : Part o role x (some key)

theorem Part.trans {o x y : PdfObject} {role r r' : Role} (h : Part o role x r) (h' : Part x r y r') :
    Part o role y r' := by
  induction h' with
  | self => exact h
  | item _ hx ih => exact ih.item hx
  | stream _ ih => exact ih.stream
  | field _ hx ih => exact ih.field hx

/-- The parts do not depend on the key the value stands under. -/
theorem Part.with_role {o x : PdfObject} {role r : Role} (h : Part o role x r) (role' : Role) :
    ∃ r', Part o role' x r' := by
  induction h with
  | self => exact ⟨role', .self⟩
  | item _ hx ih =>
    rcases ih with ⟨r', h⟩
    exact ⟨r', h.item hx⟩
  | stream _ ih =>
    rcases ih with ⟨r', h⟩
    exact ⟨r', h.stream⟩
  | field _ hx ih =>
    rcases ih with ⟨r', h⟩
    exact ⟨_, h.field hx⟩

/-- A part of a value that is not the value is a part of one of its children. -/
def Below (o : PdfObject) (role : Role) (x : PdfObject) (r : Role) : Prop :=
  match o with
  | .array items => ∃ item ∈ items, Part item role x r
  | .dict fields => ∃ key child, fields.lookup key = some child ∧ Part child (some key) x r
  | .stream fields _ => Part (.dict fields) role x r
  | _ => False

theorem Part.self_or_below {o x : PdfObject} {role r : Role} (h : Part o role x r) :
    (x = o ∧ r = role) ∨ Below o role x r := by
  have hnext : ∀ {y : PdfObject} {r r' : Role}, Below o role y r → ∀ {x : PdfObject},
      Part y r x r' → Below o role x r' := by
    intro y r r' hbelow x hx
    cases o with
    | array items =>
      rcases hbelow with ⟨item, hitem, hy⟩
      exact ⟨item, hitem, hy.trans hx⟩
    | dict fields =>
      rcases hbelow with ⟨key, child, hchild, hy⟩
      exact ⟨key, child, hchild, hy.trans hx⟩
    | stream fields data =>
      have hy : Part (.dict fields) role y r := hbelow
      exact hy.trans hx
    | _ => exact hbelow.elim
  induction h with
  | self => exact Or.inl ⟨rfl, rfl⟩
  | item _ hx ih =>
    rcases ih with ⟨rfl, rfl⟩ | hbelow
    · exact Or.inr ⟨_, hx, .self⟩
    · exact Or.inr (hnext hbelow (.item .self hx))
  | stream _ ih =>
    rcases ih with ⟨rfl, rfl⟩ | hbelow
    · exact Or.inr .self
    · exact Or.inr (hnext hbelow (.stream .self))
  | field _ hx ih =>
    rcases ih with ⟨rfl, rfl⟩ | hbelow
    · exact Or.inr ⟨_, _, hx, .self⟩
    · exact Or.inr (hnext hbelow (.field .self hx))

/-! ## What the walk has checked -/

section Scan

variable {zlib : Zlib} {doc : PdfDocument} {rules : LinkRules} {realPages : List Int}

/-- What a value under a key may be: one hop, the items of an array, the fields of a stream. -/
inductive Spread (zlib : Zlib) (doc : PdfDocument) (value : PdfObject) : PdfObject → Prop
  | here {x : PdfObject} (h : Once zlib doc value x) : Spread zlib doc value x
  | item {items : List PdfObject} {item x : PdfObject} (h : Spread zlib doc value (.array items))
      (hitem : item ∈ items) (hx : Once zlib doc item x) : Spread zlib doc value x
  | stream {fields : Fields} {data : Bytes} (h : Spread zlib doc value (.stream fields data)) :
      Spread zlib doc value (.dict fields)

/-- A value under the `/Annots` of a page object of the tree. -/
def UnderAnnots (zlib : Zlib) (doc : PdfDocument) (realPages : List Int) (x : PdfObject) : Prop :=
  ∃ (n : Int) (page : Fields), n ∈ realPages ∧ Denotes zlib doc n (.dict page) ∧
    Spread zlib doc (page.field "Annots") x

/-- The action of a link annotation under the `/Annots` of a page object of the tree. -/
def LinkAction (zlib : Zlib) (doc : PdfDocument) (realPages : List Int) (x : PdfObject) : Prop :=
  ∃ annot : Fields, UnderAnnots zlib doc realPages (.dict annot) ∧ Spread zlib doc (annot.field "A") x

/-- The context of a value says what is so. -/
structure Justified (zlib : Zlib) (doc : PdfDocument) (realPages : List Int) (x : PdfObject)
    (context : Context) : Prop where
  under : context.underPageAnnots = true → UnderAnnots zlib doc realPages x
  action : context.inLinkAction = true → LinkAction zlib doc realPages x

/-- The context of a value that may be a reference. -/
def JustifiedOnce (zlib : Zlib) (doc : PdfDocument) (realPages : List Int) (value : PdfObject)
    (context : Context) : Prop :=
  ∀ x, Once zlib doc value x → Justified zlib doc realPages x context

/-- What `_refuse_dict` has found out about an action. -/
structure ActionChecked (zlib : Zlib) (doc : PdfDocument) (rules : LinkRules) (fields : Fields)
    (inLinkAction : Bool) : Prop where
  uri : ∀ name, fields.field "S" = .name name → name = "URI".toList
  accepted : ∀ name, fields.field "S" = .name name → inLinkAction = false →
    ∀ x text, Once zlib doc (fields.field "URI") x → textOf x = some text → text ∈ rules.accepted

/-- A dictionary the walk has checked. -/
def Checked (zlib : Zlib) (doc : PdfDocument) (rules : LinkRules) (realPages : List Int)
    (fields : Fields) (role : Role) : Prop :=
  ∃ context, Justified zlib doc realPages (.dict fields) context ∧
    refuseResolvedRole fields role context = .ok () ∧
      ActionChecked zlib doc rules fields context.inLinkAction

/-- A part that was checked, when it is a dictionary, or followed, when it is a reference. -/
structure Done (zlib : Zlib) (doc : PdfDocument) (rules : LinkRules) (realPages : List Int)
    (seen : Seen) (x : PdfObject) (role : Role) : Prop where
  dict : ∀ fields, x = .dict fields → Checked zlib doc rules realPages fields role
  ref : ∀ n g, x = .ref n g → (n, role) ∈ seen

/-- All parts of a value are done. -/
def Covered (zlib : Zlib) (doc : PdfDocument) (rules : LinkRules) (realPages : List Int)
    (seen : Seen) (o : PdfObject) (role : Role) : Prop :=
  ∀ x r, Part o role x r → Done zlib doc rules realPages seen x r

/-- What a reference stood for is covered; a second reference is left. -/
def Settled (zlib : Zlib) (doc : PdfDocument) (rules : LinkRules) (realPages : List Int)
    (seen : Seen) (p : Int × Role) : Prop :=
  ∃ o, Denotes zlib doc p.1 o ∧
    ((∃ n g, o = .ref n g) ∨ Covered zlib doc rules realPages seen o p.2)

/-- A run of the walk: what it has followed in addition is settled. -/
structure Grows (zlib : Zlib) (doc : PdfDocument) (rules : LinkRules) (realPages : List Int)
    (seen seen' : Seen) : Prop where
  subset : ∀ p ∈ seen, p ∈ seen'
  settled : ∀ p ∈ seen', p ∈ seen ∨ Settled zlib doc rules realPages seen' p

theorem Done.mono {seen seen' : Seen} {x : PdfObject} {role : Role} (hle : ∀ p ∈ seen, p ∈ seen')
    (h : Done zlib doc rules realPages seen x role) : Done zlib doc rules realPages seen' x role :=
  { dict := h.dict
    ref := fun n g hx => hle _ (h.ref n g hx) }

theorem Covered.mono {seen seen' : Seen} {o : PdfObject} {role : Role} (hle : ∀ p ∈ seen, p ∈ seen')
    (h : Covered zlib doc rules realPages seen o role) :
    Covered zlib doc rules realPages seen' o role :=
  fun x r hx => (h x r hx).mono hle

theorem Settled.mono {seen seen' : Seen} {p : Int × Role} (hle : ∀ p ∈ seen, p ∈ seen')
    (h : Settled zlib doc rules realPages seen p) : Settled zlib doc rules realPages seen' p := by
  rcases h with ⟨o, ho, href | hcovered⟩
  · exact ⟨o, ho, Or.inl href⟩
  · exact ⟨o, ho, Or.inr (hcovered.mono hle)⟩

theorem Grows.refl (seen : Seen) : Grows zlib doc rules realPages seen seen :=
  { subset := fun _ h => h
    settled := fun _ h => Or.inl h }

theorem Grows.trans {seen seen' seen'' : Seen} (h : Grows zlib doc rules realPages seen seen')
    (h' : Grows zlib doc rules realPages seen' seen'') : Grows zlib doc rules realPages seen seen'' := by
  refine { subset := fun p hp => h'.subset p (h.subset p hp), settled := ?_ }
  intro p hp
  rcases h'.settled p hp with hold | hsettled
  · rcases h.settled p hold with holder | hsettled
    · exact Or.inl holder
    · exact Or.inr (hsettled.mono h'.subset)
  · exact Or.inr hsettled

/-- A fold whose steps cover one element each covers them all. -/
theorem covered_of_folds {γ : Type} (value : γ → PdfObject) (role : γ → Role) {xs : List γ}
    {seen seen' : Seen}
    (h : Folds (fun x seen seen' => Grows zlib doc rules realPages seen seen' ∧
      Covered zlib doc rules realPages seen' (value x) (role x)) xs seen seen') :
    Grows zlib doc rules realPages seen seen' ∧
      ∀ x ∈ xs, Covered zlib doc rules realPages seen' (value x) (role x) := by
  induction h with
  | nil => exact ⟨Grows.refl _, fun x hx => by cases hx⟩
  | cons hstep _ ih =>
    refine ⟨hstep.1.trans ih.1, ?_⟩
    intro y hy
    rcases List.mem_cons.1 hy with rfl | hy
    · exact hstep.2.mono ih.1.subset
    · exact ih.2 y hy

/-! ### The checks of one dictionary -/

theorem refuseUri_gives (fields : Fields) :
    Gives (Correct zlib doc) (refuseUri zlib doc rules fields)
      (fun _ => ∀ x text, Once zlib doc (fields.field "URI") x → textOf x = some text →
        text ∈ rules.accepted) := by
  apply (once_gives _).bind
  intro resolved hresolved
  have hsame : ∀ x text, Once zlib doc (fields.field "URI") x → textOf x = some text →
      textOf resolved = some text := by
    intro x text hx htext
    rw [hresolved.unique hx]
    exact htext
  cases htext : textOf resolved with
  | none =>
    apply gives_pure
    intro x text hx hx'
    rw [hsame x text hx hx'] at htext
    cases htext
  | some uri =>
    apply (gives_ofExcept (fun reason h => h)).bind
    intro reason hreason
    cases reason with
    | some reason => exact gives_error
    | none =>
      apply gives_pure
      intro x text hx hx'
      have huri := hsame x text hx hx'
      rw [htext] at huri
      cases huri
      -- No reason is given for an accepted URI only.
      unfold LinkRules.refuseGraphUri at hreason
      cases hlink : rules.refuseLink uri with
      | error e => simp [hlink, bind, Except.bind] at hreason
      | ok answer =>
        cases answer with
        | some reason => simp [hlink, bind, Except.bind] at hreason
        | none => simpa [hlink, bind, Except.bind] using hreason

theorem refuseDict_gives (fields : Fields) (inLinkAction : Bool) :
    Gives (Correct zlib doc) (refuseDict zlib doc rules fields inLinkAction)
      (fun _ => ActionChecked zlib doc rules fields inLinkAction) := by
  apply (gives_ofExcept (Q := fun _ => True) (fun _ _ => trivial)).bind
  intro _ _
  cases hs : fields.field "S" with
  | name action =>
    by_cases haction : action = "URI".toList
    · simp only [haction, if_true]
      have hchecked : (inLinkAction = false → ∀ x text, Once zlib doc (fields.field "URI") x →
          textOf x = some text → text ∈ rules.accepted) →
          ActionChecked zlib doc rules fields inLinkAction := by
        intro h
        refine { uri := ?_, accepted := ?_ }
        · intro name hname
          rw [hs] at hname
          cases hname
          exact haction
        · intro _ _
          exact h
      rw [refuseActionUri]
      by_cases hguard : (inLinkAction || (fields.get? "URI").isNone) = true
      · rw [if_pos hguard]
        apply gives_pure
        apply hchecked
        intro hfalse x text hx htext
        -- Without a `/URI` there is no text.
        rw [hfalse, Bool.false_or, Option.isNone_iff_eq_none] at hguard
        have hnull : fields.field "URI" = .null := by
          rw [Fields.field, hguard]
          rfl
        rw [hnull] at hx
        cases once_direct (by rintro n g ⟨⟩) hx
        cases htext
      · rw [if_neg hguard]
        apply (refuseUri_gives fields).mono
        intro _ h
        exact hchecked (fun _ => h)
    · simp only [haction, if_false]
      exact refuse_gives
  | _ =>
    apply gives_pure
    refine { uri := ?_, accepted := ?_ }
    · intro name hname
      rw [hs] at hname
      cases hname
    · intro name hname
      rw [hs] at hname
      cases hname

/-! ### The walk -/

/-- The child of a dictionary has a context that says what is so. -/
theorem childContext_justified {number : Option Int} {fields : Fields} {context : Context}
    (hnumber : ∀ n, number = some n → Denotes zlib doc n (.dict fields))
    (h : Justified zlib doc realPages (.dict fields) context) {key : List Char} {child : PdfObject}
    (hchild : fields.lookup key = some child) :
    JustifiedOnce zlib doc realPages child (childContext realPages number context fields key) := by
  intro x hx
  refine { under := ?_, action := ?_ }
  · intro hunder
    simp only [childContext, deferPageAnnots, Bool.and_eq_true, decide_eq_true_eq,
      Option.any_eq_true] at hunder
    rcases hunder with ⟨⟨_, n, hn, hreal⟩, rfl⟩
    refine ⟨n, fields, hreal, hnumber n hn, .here ?_⟩
    rw [Fields.field_of_lookup hchild]
    exact hx
  · intro haction
    simp only [childContext, Bool.and_eq_true, decide_eq_true_eq] at haction
    rcases haction with ⟨⟨hunder, _⟩, rfl⟩
    refine ⟨fields, h.under hunder, .here ?_⟩
    rw [Fields.field_of_lookup hchild]
    exact hx

theorem JustifiedOnce.of_item {items : List PdfObject} {context : Context}
    (h : Justified zlib doc realPages (.array items) context) {item : PdfObject}
    (hitem : item ∈ items) : JustifiedOnce zlib doc realPages item context := by
  intro x hx
  refine { under := ?_, action := ?_ }
  · intro hunder
    rcases h.under hunder with ⟨n, page, hreal, hn, hspread⟩
    exact ⟨n, page, hreal, hn, hspread.item hitem hx⟩
  · intro haction
    rcases h.action haction with ⟨annot, hannot, hspread⟩
    exact ⟨annot, hannot, hspread.item hitem hx⟩

theorem JustifiedOnce.of_stream {fields : Fields} {data : Bytes} {context : Context}
    (h : Justified zlib doc realPages (.stream fields data) context) :
    JustifiedOnce zlib doc realPages (.dict fields) context := by
  intro x hx
  cases once_direct (by rintro n g ⟨⟩) hx
  refine { under := ?_, action := ?_ }
  · intro hunder
    rcases h.under hunder with ⟨n, page, hreal, hn, hspread⟩
    exact ⟨n, page, hreal, hn, hspread.stream⟩
  · intro haction
    rcases h.action haction with ⟨annot, hannot, hspread⟩
    exact ⟨annot, hannot, hspread.stream⟩

/-- What one call of the walk does: it covers its value. -/
def Scans (zlib : Zlib) (doc : PdfDocument) (rules : LinkRules) (realPages : List Int) (scan : Scan) :
    Prop :=
  ∀ value role context seen, JustifiedOnce zlib doc realPages value context →
    Gives (Correct zlib doc) (scan value role context seen)
      (fun seen' => Grows zlib doc rules realPages seen seen' ∧
        Covered zlib doc rules realPages seen' value role)

theorem visit_gives {scan : Scan} (hscan : Scans zlib doc rules realPages scan) {number : Option Int}
    {value : PdfObject} {role : Role} {context : Context} {seen : Seen}
    (hnumber : ∀ n, number = some n → Denotes zlib doc n value)
    (hjustified : Justified zlib doc realPages value context) :
    Gives (Correct zlib doc) (visit zlib doc rules realPages scan number value role context seen)
      (fun seen' => Grows zlib doc rules realPages seen seen' ∧
        ((∃ n g, value = .ref n g) ∨ Covered zlib doc rules realPages seen' value role)) := by
  have hleaf : (∀ x r, ¬ Below value role x r) → (∀ fields, value ≠ .dict fields) →
      Gives (Correct zlib doc) (pure seen : Walk Seen)
        (fun seen' => Grows zlib doc rules realPages seen seen' ∧
          ((∃ n g, value = .ref n g) ∨ Covered zlib doc rules realPages seen' value role)) := by
    intro hbelow hdict
    apply gives_pure
    refine ⟨Grows.refl seen, ?_⟩
    by_cases href : ∃ n g, value = .ref n g
    · exact Or.inl href
    · right
      intro x r hx
      rcases hx.self_or_below with ⟨rfl, rfl⟩ | hx
      · exact { dict := fun fields h => absurd h (hdict fields), ref := fun n g h => absurd ⟨n, g, h⟩ href }
      · exact absurd hx (hbelow x r)
  cases value with
  | dict fields =>
    rw [visit]
    apply (gives_ofExcept (fun _ h => h)).bind
    intro _ hrole
    apply (refuseDict_gives fields context.inLinkAction).bind
    intro _ haction
    have hchecked : Checked zlib doc rules realPages fields role :=
      ⟨context, hjustified, hrole, haction⟩
    have hfold := @gives_foldlM _ _ _ (Correct zlib doc) _
      (fun seen (field : List Char × PdfObject) => scan field.2 (some field.1)
        (childContext realPages number context fields field.1) seen) _ (Fields.items fields)
      (fun field hfield seen => hscan field.2 (some field.1) _ seen
        (childContext_justified hnumber hjustified (Fields.mem_items.1 hfield))) seen
    apply hfold.mono
    intro seen' hfolds
    rcases covered_of_folds (fun field : List Char × PdfObject => field.2)
      (fun field => some field.1) hfolds with ⟨hgrows, hchildren⟩
    refine ⟨hgrows, Or.inr ?_⟩
    intro x r hx
    rcases hx.self_or_below with ⟨rfl, rfl⟩ | ⟨key, child, hchild, hpart⟩
    · refine { dict := ?_, ref := by rintro n g ⟨⟩ }
      rintro _ ⟨⟩
      exact hchecked
    · exact hchildren (key, child) (Fields.mem_items.2 hchild) x r hpart
  | array items =>
    rw [visit]
    have hfold := @gives_foldlM _ _ _ (Correct zlib doc) _
      (fun seen item => scan item role context seen) _ items
      (fun item hitem seen => hscan item role context seen
        (JustifiedOnce.of_item hjustified hitem)) seen
    apply hfold.mono
    intro seen' hfolds
    rcases covered_of_folds (fun item : PdfObject => item) (fun _ => role) hfolds with
      ⟨hgrows, hitems⟩
    refine ⟨hgrows, Or.inr ?_⟩
    intro x r hx
    rcases hx.self_or_below with ⟨rfl, rfl⟩ | ⟨item, hitem, hpart⟩
    · exact { dict := by rintro fields ⟨⟩, ref := by rintro n g ⟨⟩ }
    · exact hitems item hitem x r hpart
  | stream fields data =>
    rw [visit]
    apply (hscan (.dict fields) role context seen (JustifiedOnce.of_stream hjustified)).mono
    rintro seen' ⟨hgrows, hcovered⟩
    refine ⟨hgrows, Or.inr ?_⟩
    intro x r hx
    rcases hx.self_or_below with ⟨rfl, rfl⟩ | hpart
    · exact { dict := by rintro fields ⟨⟩, ref := by rintro n g ⟨⟩ }
    · exact hcovered x r hpart
  | _ => exact hleaf (fun _ _ h => h) (by rintro fields ⟨⟩)

theorem scan_gives (levels : Nat) : Scans zlib doc rules realPages (scan zlib doc rules realPages levels) := by
  induction levels with
  | zero =>
    intro value role context seen _
    exact refuse_gives
  | succ levels ih =>
    intro value role context seen hjustified
    have hdirect : (∀ n g, value ≠ .ref n g) →
        Gives (Correct zlib doc)
          (visit zlib doc rules realPages (scan zlib doc rules realPages levels) none value role context
            seen)
          (fun seen' => Grows zlib doc rules realPages seen seen' ∧
            Covered zlib doc rules realPages seen' value role) := by
      intro hnot
      have hself : Once zlib doc value value := by
        cases value with
        | ref n g => exact absurd rfl (hnot n g)
        | _ => rfl
      apply (visit_gives ih (by rintro n ⟨⟩) (hjustified value hself)).mono
      rintro seen' ⟨hgrows, ⟨n, g, href⟩ | hcovered⟩
      · exact absurd href (hnot n g)
      · exact ⟨hgrows, hcovered⟩
    cases value with
    | ref n g =>
      have hleaf : ∀ {seen' : Seen}, (n, role) ∈ seen' →
          Covered zlib doc rules realPages seen' (.ref n g) role := by
        intro seen' hmem x r hx
        rcases hx.self_or_below with ⟨rfl, rfl⟩ | hbelow
        · refine { dict := by rintro fields ⟨⟩, ref := ?_ }
          rintro _ _ ⟨⟩
          exact hmem
        · exact hbelow.elim
      rw [scan]
      simp only
      split_ifs with hseen
      · exact gives_pure ⟨Grows.refl seen, hleaf hseen⟩
      · apply (getObject_gives n).bind
        intro o ho
        apply (visit_gives ih (by rintro m ⟨⟩; exact ho) (hjustified o ho)).mono
        rintro seen' ⟨hgrows, hvisited⟩
        have hmem : (n, role) ∈ seen' := hgrows.subset _ (List.mem_cons_self ..)
        refine ⟨?_, hleaf hmem⟩
        refine { subset := fun p hp => hgrows.subset p (List.mem_cons_of_mem _ hp), settled := ?_ }
        intro p hp
        rcases hgrows.settled p hp with hold | hsettled
        · rcases List.mem_cons.1 hold with rfl | hold
          · exact Or.inr ⟨o, ho, hvisited⟩
          · exact Or.inl hold
        · exact Or.inr hsettled
    | _ => exact hdirect (by rintro n g ⟨⟩)

end Scan

/-! ## The whole graph -/

section Graph

variable {zlib : Zlib} {doc : PdfDocument} {rules : LinkRules}

/-- The numbers of the page objects of the tree. -/
def RealPages (zlib : Zlib) (doc : PdfDocument) (realPages : List Int) : Prop :=
  ∀ n, n ∈ realPages ↔ ∃ page, IsPage zlib doc (some n) page

theorem PdfDocument.mem_numbers {n : Int} :
    n ∈ doc.numbers ↔ ∃ entry, (n, entry) ∈ doc.entries := by
  rw [PdfDocument.numbers, List.mem_eraseDups, List.mem_map]
  simp

/-- What the whole walk has covered: the trailer and every object. -/
structure GraphCovered (zlib : Zlib) (doc : PdfDocument) (rules : LinkRules) (realPages : List Int)
    (seen : Seen) : Prop where
  trailer : Covered zlib doc rules realPages seen (.dict doc.trailer) none
  settled : ∀ p ∈ seen, Settled zlib doc rules realPages seen p
  objects : ∀ n ∈ doc.numbers, ∃ role, (n, role) ∈ seen

theorem JustifiedOnce.plain (realPages : List Int) (value : PdfObject) :
    JustifiedOnce zlib doc realPages value Context.plain := by
  intro x _
  exact { under := by rintro ⟨⟩, action := by rintro ⟨⟩ }

theorem scanRest_gives (realPages : List Int) (seen : Seen) :
    Gives (Correct zlib doc) (scanRest zlib doc rules realPages (seen.map Prod.fst) seen)
      (fun seen' => Grows zlib doc rules realPages seen seen' ∧
        ∀ n ∈ doc.numbers, ∃ role, (n, role) ∈ seen') := by
  have hfold : Gives (Correct zlib doc) (scanRest zlib doc rules realPages (seen.map Prod.fst) seen)
      (Folds (fun n b b' => Grows zlib doc rules realPages b b' ∧
        (n ∈ seen.map Prod.fst ∨ ∃ role, (n, role) ∈ b')) doc.numbers seen) := by
    apply gives_foldlM
    intro n _ b
    split_ifs with hreached
    · exact gives_pure ⟨Grows.refl b, Or.inl hreached⟩
    · apply (scan_gives (maxDepth + 1) (.ref n 0) none Context.plain b
        (JustifiedOnce.plain realPages _)).mono
      rintro b' ⟨hgrows, hcovered⟩
      exact ⟨hgrows, Or.inr ⟨none, (hcovered _ _ .self).ref n 0 rfl⟩⟩
  apply hfold.mono
  intro seen' hfolds
  have hgrows : Grows zlib doc rules realPages seen seen' := by
    apply hfolds.trans_of Grows.refl Grows.trans
    intro n _ b b' hstep
    exact hstep.1
  refine ⟨hgrows, ?_⟩
  have hall : ∀ {xs b b'}, Folds (fun n b b' => Grows zlib doc rules realPages b b' ∧
      (n ∈ seen.map Prod.fst ∨ ∃ role, (n, role) ∈ b')) xs b b' →
      Grows zlib doc rules realPages b b' ∧
        ∀ n ∈ xs, n ∈ seen.map Prod.fst ∨ ∃ role, (n, role) ∈ b' := by
    intro xs b b' h
    induction h with
    | nil => exact ⟨Grows.refl _, fun n hn => by cases hn⟩
    | cons hstep _ ih =>
      refine ⟨hstep.1.trans ih.1, ?_⟩
      intro n hn
      rcases List.mem_cons.1 hn with rfl | hn
      · rcases hstep.2 with hreached | ⟨role, hrole⟩
        · exact Or.inl hreached
        · exact Or.inr ⟨role, ih.1.subset _ hrole⟩
      · exact ih.2 n hn
  intro n hn
  rcases (hall hfolds).2 n hn with hreached | hfound
  · rcases List.mem_map.1 hreached with ⟨⟨m, role⟩, hmem, rfl⟩
    exact ⟨role, hgrows.subset _ hmem⟩
  · exact hfound

theorem refuseTrailerRoot_gives :
    Gives (Correct zlib doc) (refuseTrailerRoot zlib doc) (fun _ => True) := by
  apply (derefObject_gives _).bind
  intro root _
  cases root with
  | dict fields =>
    by_cases hkeys : Fields.hasKeys fields catalogKeys = true
    · simp only [hkeys, if_true]
      apply (once_gives _).bind
      intro names _
      cases names with
      | dict names =>
        simp only
        split_ifs
        · exact refuse_gives
        · exact gives_pure trivial
      | _ => exact gives_pure trivial
    · simp only [hkeys]
      exact refuse_gives
  | _ => exact refuse_gives

/-- When the walk over the graph returns, it has covered the whole document. -/
theorem refuseGraph_gives :
    Gives (Correct zlib doc) (refuseGraph zlib doc rules)
      (fun seen => ∃ realPages, RealPages zlib doc realPages ∧
        GraphCovered zlib doc rules realPages seen) := by
  apply refuseTrailerRoot_gives.bind
  intro _ _
  apply documentPages_gives.bind
  intro found hfound
  have hreal : RealPages zlib doc (found.filterMap Prod.fst) := by
    intro n
    rw [List.mem_filterMap]
    constructor
    · rintro ⟨⟨number, page⟩, hmem, hnumber⟩
      have hpage := (hfound _).1 hmem
      simp only at hnumber hpage
      rw [hnumber] at hpage
      exact ⟨page, hpage⟩
    · rintro ⟨page, hpage⟩
      exact ⟨(some n, page), (hfound (some n, page)).2 hpage, rfl⟩
  apply (scan_gives (maxDepth + 1) (.dict doc.trailer) none Context.plain []
    (JustifiedOnce.plain _ _)).bind
  rintro seen ⟨hgrows, hcovered⟩
  apply (scanRest_gives (found.filterMap Prod.fst) seen).mono
  rintro seen' ⟨hgrows', hobjects⟩
  refine ⟨_, hreal, { trailer := hcovered.mono hgrows'.subset, settled := ?_, objects := hobjects }⟩
  intro p hp
  rcases (hgrows.trans hgrows').settled p hp with hnil | hsettled
  · cases hnil
  · exact hsettled

/-! ## Dictionaries of the document -/

/-- A part of the trailer or of an object. -/
def InDocument (zlib : Zlib) (doc : PdfDocument) (x : PdfObject) : Prop :=
  (∃ role, Part (.dict doc.trailer) none x role) ∨
    ∃ n o role, (∃ entry, (n, entry) ∈ doc.entries) ∧ Denotes zlib doc n o ∧ Part o none x role

variable {realPages : List Int} {seen : Seen}

/-- Every dictionary of the document was covered, under some key. -/
theorem GraphCovered.covered (h : GraphCovered zlib doc rules realPages seen) {fields : Fields}
    (hfields : InDocument zlib doc (.dict fields)) :
    ∃ role, Covered zlib doc rules realPages seen (.dict fields) role := by
  have hparts : ∀ {o : PdfObject} {role r : Role}, Covered zlib doc rules realPages seen o role →
      Part o role (.dict fields) r → Covered zlib doc rules realPages seen (.dict fields) r := by
    intro o role r hcovered hpart x r' hx
    exact hcovered x r' (hpart.trans hx)
  rcases hfields with ⟨role, hpart⟩ | ⟨n, o, role, hentry, ho, hpart⟩
  · exact ⟨role, hparts h.trailer hpart⟩
  · rcases h.objects n (PdfDocument.mem_numbers.2 hentry) with ⟨role', hmem⟩
    rcases h.settled _ hmem with ⟨o', ho', hsettled⟩
    have hsame := ho.unique ho'
    subst hsame
    rcases hsettled with ⟨m, g, rfl⟩ | hcovered
    · -- A reference has no parts.
      rcases hpart.self_or_below with ⟨hself, _⟩ | hbelow
      · cases hself
      · exact hbelow.elim
    · rcases hpart.with_role role' with ⟨r', hpart'⟩
      exact ⟨r', hparts hcovered hpart'⟩

/-- What one hop from a value that was done finds was checked under the same key. -/
theorem GraphCovered.once_checked (h : GraphCovered zlib doc rules realPages seen) {value : PdfObject}
    {role : Role} (hdone : Done zlib doc rules realPages seen value role) {fields : Fields}
    (hvalue : Once zlib doc value (.dict fields)) : Checked zlib doc rules realPages fields role := by
  cases value with
  | ref n g =>
    rcases h.settled _ (hdone.ref n g rfl) with ⟨o, ho, hsettled⟩
    have hsame := Denotes.unique hvalue ho
    subst hsame
    rcases hsettled with ⟨m, g', href⟩ | hcovered
    · cases href
    · exact (hcovered _ _ .self).dict fields rfl
  | _ =>
    have hsame := once_direct (by rintro n g ⟨⟩) hvalue
    exact hdone.dict fields hsame.symm

end Graph

end Assets
end MoneyMachine
