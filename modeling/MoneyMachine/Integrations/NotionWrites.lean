import MoneyMachine.Integrations.NotionScope

/-!
# NotionWrites — which writes of the adapter are scoped

A call reads and checks until its request is ready, passes the guard and sends it.

* `gives_request`   : what is known when a request is ready;
* `asks_script`     : every write is sent right after the guard, with that known;
* `manages_request` : a provider that lets the request of an accepted call get ready, with no more reads
  than the targets and the walk need;
* `scoped_iff`      : the writes of a call are all scoped exactly when the walk misses nothing in it.
-/

namespace MoneyMachine
namespace Integrations
namespace Notion

open MoneyMachine.Domain
open MoneyMachine.Library
open MoneyMachine.Library.Script

/-! ## Calls -/

/-- The calls that write under the root page. -/
inductive ScopedCall
  | createPage (parentId : Value) (title : String) (children : List Value)
      (icon : Option (List (String × Value)))
  | appendBlocks (pageId : Value) (children : List Value)
  | createDatabase (parentId : Value) (title : String) (properties : List (String × Value))
  | updateDataSource (dataSourceId : Value) (properties : List (String × Value))
  | createRow (dataSourceId : Value) (properties : List (String × Value))
  | createView (databaseId dataSourceId : Value) (name viewType : String)
      (filter : Option (List (String × Value)))
  | createLinkedView (pageId dataSourceId : Value) (name viewType : String)
      (filter : Option (List (String × Value)))

namespace ScopedCall

/-- The method that is called. -/
def script (uuid : UuidReader) (adapter : PrivateAdapter) :
    ScopedCall → Adapter (List (String × Value))
  | .createPage parentId title children icon => Notion.createPage uuid adapter parentId title children icon
  | .appendBlocks pageId children => Notion.appendBlocks uuid adapter pageId children
  | .createDatabase parentId title properties =>
    Notion.createDatabase uuid adapter parentId title properties
  | .updateDataSource dataSourceId properties =>
    Notion.updateDataSource uuid adapter dataSourceId properties
  | .createRow dataSourceId properties => Notion.createRow uuid adapter dataSourceId properties
  | .createView databaseId dataSourceId name viewType filter =>
    Notion.createView uuid adapter databaseId dataSourceId name viewType filter
  | .createLinkedView pageId dataSourceId name viewType filter =>
    Notion.createLinkedView uuid adapter pageId dataSourceId name viewType filter

/-- How its request gets ready. -/
def request (uuid : UuidReader) (adapter : PrivateAdapter) : ScopedCall → Adapter SdkRequest
  | .createPage parentId title children icon => pageRequest uuid adapter parentId title children icon
  | .appendBlocks pageId children => blocksRequest uuid adapter pageId children
  | .createDatabase parentId title properties => databaseRequest uuid adapter parentId title properties
  | .updateDataSource dataSourceId properties => dataSourceRequest uuid adapter dataSourceId properties
  | .createRow dataSourceId properties => rowRequest uuid adapter dataSourceId properties
  | .createView databaseId dataSourceId name viewType filter =>
    databaseViewRequest uuid adapter databaseId dataSourceId name viewType filter
  | .createLinkedView pageId dataSourceId name viewType filter =>
    linkedViewRequest uuid adapter pageId dataSourceId name viewType filter

theorem script_eq (uuid : UuidReader) (adapter : PrivateAdapter) (c : ScopedCall) :
    c.script uuid adapter = c.request uuid adapter >>= fun request => call uuid adapter true request := by
  cases c <;> rfl

/-- The objects that a call is aimed at. -/
def targets : ScopedCall → List (Kind × Value)
  | .createPage parentId _ _ _ => [(.pages, parentId)]
  | .appendBlocks pageId _ => [(.pages, pageId)]
  | .createDatabase parentId _ _ => [(.pages, parentId)]
  | .updateDataSource dataSourceId _ => [(.dataSources, dataSourceId)]
  | .createRow dataSourceId _ => [(.dataSources, dataSourceId)]
  | .createView databaseId dataSourceId _ _ _ => [(.databases, databaseId), (.dataSources, dataSourceId)]
  | .createLinkedView pageId dataSourceId _ _ _ => [(.pages, pageId), (.dataSources, dataSourceId)]

/-- The JSON that the caller supplies for the body. -/
def parts : ScopedCall → List Value
  | .createPage _ _ children _ => [.list children]
  | .appendBlocks _ children => [.list children]
  | .createDatabase _ _ properties => [.map properties]
  | .updateDataSource _ properties => [.map properties]
  | .createRow _ properties => [.map properties]
  | .createView _ _ _ _ filter => filter.toList.map Value.map
  | .createLinkedView _ _ _ _ filter => filter.toList.map Value.map

/-- The parts that are walked. -/
def walked : ScopedCall → List Value
  | .createView _ _ _ _ _ => []
  | .createLinkedView _ _ _ _ _ => []
  | c => c.parts

end ScopedCall

/-- A title may be written. -/
def TitleAccepted (text : String) : Prop :=
  ¬ (strip text.toList = [] ∨ 2000 < text.length)

namespace ScopedCall

/-- The checks of a call on its other arguments. -/
def Checked : ScopedCall → Prop
  | .createPage _ title _ icon => TitleAccepted title ∧ ∀ emoji ∈ icon, isEmoji emoji = true
  | .appendBlocks _ children => 1 ≤ children.length ∧ children.length ≤ 100
  | .createDatabase _ title _ => TitleAccepted title
  | .updateDataSource _ properties => properties.any (fun member => isNull member.2) = false
  | .createRow _ _ => True
  | .createView _ _ name viewType _ => viewType ∈ viewTypes ∧ TitleAccepted name
  | .createLinkedView _ _ name viewType _ => viewType ∈ viewTypes ∧ TitleAccepted name

end ScopedCall

/-! ## A request gets ready -/

section Ready

variable {uuid : UuidReader} {adapter : PrivateAdapter}

theorem gives_richTitle {kind : AdapterOp → Prop} (text : String) :
    Gives kind (fun _ _ => TitleAccepted text) (richTitle text) := by
  unfold richTitle
  by_cases htitle : strip text.toList = [] ∨ 2000 < text.length
  · rw [if_pos htitle]
    exact gives_raise
  · rw [if_neg htitle]
    exact gives_ret (fun _ => htitle)

theorem gives_iconMember {kind : AdapterOp → Prop} (icon : Option (List (String × Value))) :
    Gives kind (fun _ _ => ∀ emoji ∈ icon, isEmoji emoji = true) (iconMember icon) := by
  cases icon with
  | none => exact gives_ret (fun _ emoji h => by cases h)
  | some emoji =>
    rw [iconMember]
    by_cases hemoji : isEmoji emoji = true
    · rw [if_pos hemoji]
      apply gives_ret
      intro _ other hother
      cases hother
      exact hemoji
    · rw [if_neg hemoji]
      exact gives_raise

/-- A configuration is made without an operation. -/
theorem gives_calendarMember {kind : AdapterOp → Prop} (viewType : String)
    (dataSource : List (String × Value)) :
    Gives kind (fun _ _ => True) (calendarMember viewType dataSource) := by
  unfold calendarMember
  split
  · exact gives_ret (fun _ => trivial)
  · apply gives_bind (gives_dictOf _)
    · intro _
      exact lasting_const _
    intro properties
    apply gives_bind (gives_dictOf _)
    · intro _
      exact lasting_const _
    intro dateProperty
    split
    · split
      · exact gives_ret (fun _ _ _ => trivial)
      · exact gives_raise
    · exact gives_raise

theorem gives_viewRequest (target : List (String × Value)) (source : Value) (name viewType : String)
    (filter : Option (List (String × Value))) :
    Gives AdapterOp.isRead
      (fun _ log => (viewType ∈ viewTypes ∧ TitleAccepted name) ∧
        ScopedIn uuid adapter log .dataSources source)
      (viewRequest uuid adapter target source name viewType filter) := by
  unfold viewRequest
  by_cases htype : viewType ∉ viewTypes
  · rw [if_pos htype]
    exact gives_raise
  rw [if_neg htype]
  apply gives_bind (gives_richTitle name)
  · intro _
    exact lasting_const _
  intro _
  apply gives_bind (gives_scope .dataSources source)
  · intro _
    exact lasting_scopedIn _ _
  intro dataSource
  apply gives_bind (gives_readId source)
  · intro _
    exact lasting_const _
  intro sourceId
  apply gives_bind (gives_calendarMember viewType dataSource)
  · intro _
    exact lasting_const _
  intro configuration
  apply gives_ret
  intro log _ _ hscoped htitle
  exact ⟨⟨not_not.mp htype, htitle⟩, hscoped⟩

/-- What is known when the request of a call is ready. -/
structure Ready (uuid : UuidReader) (adapter : PrivateAdapter) (log : Log) (c : ScopedCall) : Prop where
  checked : c.Checked
  targets : AllScoped uuid adapter log c.targets
  walked : ∀ part ∈ c.walked, Walked uuid adapter log part

theorem lasting_ready (c : ScopedCall) : Lasting (fun log => Ready uuid adapter log c) :=
  fun log more h => ⟨h.checked, lasting_allScoped _ log more h.targets,
    fun part hpart => lasting_walked part log more (h.walked part hpart)⟩

theorem allScoped_one {log : Log} {kind : Kind} {raw : Value} (h : ScopedIn uuid adapter log kind raw) :
    AllScoped uuid adapter log [(kind, raw)] :=
  allScoped_cons.mpr ⟨h, allScoped_nil⟩

theorem forall_mem_one {P : Value → Prop} {part : Value} (h : P part) : ∀ p ∈ [part], P p := by
  intro p hp
  rw [List.mem_singleton] at hp
  rw [hp]
  exact h

/-- The id that `str` wrote is the id that was read. -/
theorem ScopedIn.of_canonical {log : Log} {kind : Kind} {raw : Value} {id : Uuid}
    (hread : uuid.read raw = some id) (h : ScopedIn uuid adapter log kind (.str (uuidStr id))) :
    ScopedIn uuid adapter log kind raw := by
  obtain ⟨id', hid', hroot, hconnected⟩ := h
  rw [uuid.canonical] at hid'
  cases hid'
  exact ⟨id, hread, hroot, hconnected⟩

theorem gives_request (c : ScopedCall) :
    Gives AdapterOp.isRead (fun _ log => Ready uuid adapter log c) (c.request uuid adapter) := by
  cases c with
  | createPage parentId title children icon =>
    apply gives_bind (gives_readId parentId)
    · intro _
      exact lasting_const _
    intro parent
    apply gives_bind (gives_scope .pages _)
    · intro _
      exact lasting_scopedIn _ _
    intro _
    apply gives_bind (gives_referenceItems children)
    · intro _
      exact lasting_walked _
    intro _
    apply gives_bind (gives_richTitle title)
    · intro _
      exact lasting_const _
    intro titleText
    apply gives_bind (gives_iconMember icon)
    · intro _
      exact lasting_const _
    intro icons
    apply gives_ret
    intro log hicon htitle hwalked hscoped hread
    exact ⟨⟨htitle, hicon⟩, allScoped_one (hscoped.of_canonical hread), forall_mem_one hwalked⟩
  | appendBlocks pageId children =>
    apply gives_bind (gives_scope .pages pageId)
    · intro _
      exact lasting_scopedIn _ _
    intro _
    by_cases hlength : 1 ≤ children.length ∧ children.length ≤ 100
    · rw [if_neg (not_not_intro hlength)]
      apply gives_bind (gives_referenceItems children)
      · intro _
        exact lasting_walked _
      intro _
      apply gives_bind (gives_readId pageId)
      · intro _
        exact lasting_const _
      intro page
      apply gives_ret
      intro log _ hwalked hscoped
      exact ⟨hlength, allScoped_one hscoped, forall_mem_one hwalked⟩
    · rw [if_pos hlength]
      exact gives_raise
  | createDatabase parentId title properties =>
    apply gives_bind (gives_scope .pages parentId)
    · intro _
      exact lasting_scopedIn _ _
    intro _
    apply gives_bind (gives_referenceMembers properties)
    · intro _
      exact lasting_walked _
    intro _
    apply gives_bind (gives_readId parentId)
    · intro _
      exact lasting_const _
    intro parent
    apply gives_bind (gives_richTitle title)
    · intro _
      exact lasting_const _
    intro titleText
    apply gives_ret
    intro log htitle _ hwalked hscoped
    exact ⟨htitle, allScoped_one hscoped, forall_mem_one hwalked⟩
  | updateDataSource dataSourceId properties =>
    apply gives_bind (gives_scope .dataSources dataSourceId)
    · intro _
      exact lasting_scopedIn _ _
    intro _
    by_cases hnull : properties.any (fun member => isNull member.2) = true
    · rw [if_pos hnull]
      exact gives_raise
    · rw [if_neg hnull]
      apply gives_bind (gives_referenceMembers properties)
      · intro _
        exact lasting_walked _
      intro _
      apply gives_bind (gives_readId dataSourceId)
      · intro _
        exact lasting_const _
      intro dataSource
      apply gives_ret
      intro log _ hwalked hscoped
      exact ⟨Bool.eq_false_iff.mpr hnull, allScoped_one hscoped, forall_mem_one hwalked⟩
  | createRow dataSourceId properties =>
    apply gives_bind (gives_scope .dataSources dataSourceId)
    · intro _
      exact lasting_scopedIn _ _
    intro _
    apply gives_bind (gives_referenceMembers properties)
    · intro _
      exact lasting_walked _
    intro _
    apply gives_bind (gives_readId dataSourceId)
    · intro _
      exact lasting_const _
    intro dataSource
    apply gives_ret
    intro log _ hwalked hscoped
    exact ⟨trivial, allScoped_one hscoped, forall_mem_one hwalked⟩
  | createView databaseId dataSourceId name viewType filter =>
    apply gives_bind (gives_scope .databases databaseId)
    · intro _
      exact lasting_scopedIn _ _
    intro _
    apply gives_bind (gives_readId databaseId)
    · intro _
      exact lasting_const _
    intro database
    apply (gives_viewRequest _ dataSourceId name viewType filter).mono
    rintro _ log ⟨hchecked, hsource⟩ _ hscoped
    exact ⟨hchecked, allScoped_cons.mpr ⟨hscoped, allScoped_one hsource⟩,
      fun part h => absurd h List.not_mem_nil⟩
  | createLinkedView pageId dataSourceId name viewType filter =>
    apply gives_bind (gives_scope .pages pageId)
    · intro _
      exact lasting_scopedIn _ _
    intro _
    apply gives_bind (gives_readId pageId)
    · intro _
      exact lasting_const _
    intro page
    apply (gives_viewRequest _ dataSourceId name viewType filter).mono
    rintro _ log ⟨hchecked, hsource⟩ _ hscoped
    exact ⟨hchecked, allScoped_cons.mpr ⟨hscoped, allScoped_one hsource⟩,
      fun part h => absurd h List.not_mem_nil⟩

theorem asks_settle {may : Log → AdapterOp → Prop} {log : Log} (write : Bool) (endpoint : Endpoint)
    (reply : Reply) : (settle uuid write endpoint reply).Asks may (fun _ _ => True) log := by
  unfold settle refuse
  repeat' split
  all_goals trivial

/-- A write is sent right after the guard, when the request was ready. -/
def MaySend (uuid : UuidReader) (adapter : PrivateAdapter) (c : ScopedCall) (log : Log) :
    AdapterOp → Prop
  | .send true _ => adapter.guarded = true ∧
      ∃ earlier value, log = earlier ++ [⟨.guard, .returned value⟩] ∧ Ready uuid adapter earlier c
  | _ => True

theorem asks_call_write {c : ScopedCall} {log : Log} (request : SdkRequest)
    (h : Ready uuid adapter log c) :
    (call uuid adapter true request).Asks (MaySend uuid adapter c) (fun _ _ => True) log := by
  unfold call
  rw [authorize_eq]
  change ((passGuard adapter) >>= fun _ => Script.request (AdapterOp.send true request) >>=
    fun reply => settle uuid true request.endpoint reply).Asks _ _ log
  unfold passGuard
  by_cases hguarded : adapter.guarded = true
  · rw [if_pos hguarded]
    -- The guard returns, and the write is the next operation.
    refine ⟨trivial, ?_⟩
    intro answer
    cases answer with
    | returned value =>
      refine ⟨⟨hguarded, log, value, rfl, h⟩, ?_⟩
      intro reply
      exact asks_settle true request.endpoint reply
    | apiError status => trivial
    | failed => trivial
  · rw [if_neg hguarded]
    trivial

/-- Whatever is answered, a call sends its write only so. -/
theorem asks_script (c : ScopedCall) :
    (c.script uuid adapter).Asks (MaySend uuid adapter c) (fun _ _ => True) [] := by
  rw [ScopedCall.script_eq]
  have hread : ∀ (log : Log) (op : AdapterOp), op.isRead → MaySend uuid adapter c log op := by
    intro log op hop
    cases op with
    | guard => trivial
    | send write request =>
      have hwrite : write = false := hop
      subst hwrite
      trivial
  apply asks_bind ((gives_request c []).mono hread (fun _ _ hpost => hpost))
  · rintro request log ⟨-, hready⟩
    exact asks_call_write request (hready request rfl)
  · intro _ _ _
    trivial

end Ready

/-! ## A friendly provider -/

section Friendly

variable (uuid : UuidReader) (adapter : PrivateAdapter)

/-- An object right under the root page, with a date property. -/
def friendly (id : Uuid) : List (String × Value) :=
  [("id", .str (uuidStr id)),
    ("parent", .map [("type", .str "page_id"), ("page_id", .str (uuidStr adapter.root))]),
    ("properties", .map [("Date", .map [("type", .str "date"), ("id", .str "date")])])]

/-- Only objects of some kinds and ids are read. -/
def ReadsOf (needed : Kind → Uuid → Prop) (op : AdapterOp) : Prop :=
  ∃ kind id, op = readOf kind id ∧ needed kind id

/-- An id that may be scoped, and whose object may be read. -/
def Scopable (needed : Kind → Uuid → Prop) (p : Kind × Value) : Prop :=
  MayScope uuid adapter p.1 p.2 ∧ ∀ id, uuid.read p.2 = some id → needed p.1 id

variable {uuid adapter} {needed : Kind → Uuid → Prop}

theorem manages_readId {kind : AdapterOp → Prop} {value : Value} {id : Uuid}
    (h : uuid.read value = some id) : Manages kind (fun named => named = id) (readId uuid value) := by
  rw [readId, h]
  exact manages_ret rfl

theorem manages_call_read {kind : Kind} {id : Uuid} (h : needed kind id) :
    Manages (ReadsOf needed) (fun object => object = friendly adapter id)
      (call uuid adapter false ⟨"GET", .object kind id, none⟩) := by
  unfold call
  rw [authorize_eq]
  change Manages _ _ (Script.request (AdapterOp.send false ⟨"GET", .object kind id, none⟩) >>=
    fun reply => settle uuid false (.object kind id) reply)
  apply manages_bind (Q := fun reply => reply = .returned (.map (friendly adapter id)))
  · exact manages_request ⟨kind, id, rfl, h⟩ _ rfl
  · rintro _ rfl
    exact manages_ret rfl

theorem friendly_id (id : Uuid) :
    uuid.read (getOr (friendly adapter id) "id" (.str "")) = some id :=
  uuid.canonical id

theorem flagged_friendly (id : Uuid) : flagged (friendly adapter id) = false := by
  rfl

theorem parentOf_friendly (id : Uuid) :
    parentOf uuid (friendly adapter id) = .ok (.pages, adapter.root) := by
  have hparent : getOr (friendly adapter id) "parent" (.map []) =
      .map [("type", .str "page_id"), ("page_id", .str (uuidStr adapter.root))] := rfl
  have hkind : kindOfKey "page_id" = some .pages := rfl
  have hlookup : ([("type", Value.str "page_id"), ("page_id", .str (uuidStr adapter.root))].lookup
      "page_id").bind uuid.read = some adapter.root := uuid.canonical adapter.root
  have htype : [("type", Value.str "page_id"), ("page_id", .str (uuidStr adapter.root))].lookup
      "type" = some (.str "page_id") := rfl
  unfold parentOf
  rw [hparent]
  simp only [htype, hkind, hlookup]

/-- One turn of the loop at an object of the friendly provider. -/
theorem manages_scopeFrom_succ {first : Option (List (String × Value))} {visited : List Uuid}
    {kind : Kind} {id : Uuid} {remaining : Nat} (hneeded : needed kind id) (hvisited : id ∉ visited)
    (hroot : id = adapter.root → kind = .pages)
    (hrest : id ≠ adapter.root → Manages (ReadsOf needed) (fun object => ∃ id, object = friendly adapter id)
      (scopeFrom uuid adapter (some (first.getD (friendly adapter id))) (id :: visited) .pages
        adapter.root remaining))
    (hfirst : ∀ object ∈ first, ∃ id, object = friendly adapter id) :
    Manages (ReadsOf needed) (fun object => ∃ id, object = friendly adapter id)
      (scopeFrom uuid adapter first visited kind id (remaining + 1)) := by
  rw [scopeFrom, if_neg hvisited]
  apply manages_bind (manages_call_read hneeded)
  rintro _ rfl
  apply manages_bind (manages_readId (friendly_id id))
  rintro _ rfl
  rw [if_neg (not_not_intro rfl), flagged_friendly]
  simp only [Bool.false_eq_true, if_false]
  rename_i named
  by_cases hid : named = adapter.root
  · rw [if_pos hid, if_neg (not_not_intro (hroot hid))]
    apply manages_ret
    cases first with
    | none => exact ⟨named, rfl⟩
    | some object => exact hfirst object rfl
  · rw [if_neg hid, parentOf_friendly]
    exact hrest hid

theorem manages_scope {p : Kind × Value} (hpages : needed .pages adapter.root)
    (h : Scopable uuid adapter needed p) :
    Manages (ReadsOf needed) (fun object => ∃ id, object = friendly adapter id)
      (scope uuid adapter p.1 p.2) := by
  obtain ⟨⟨id, hread, hroot⟩, hneeded⟩ := h
  unfold scope
  apply manages_bind (manages_readId hread)
  rintro _ rfl
  apply manages_scopeFrom_succ (hneeded _ hread) List.not_mem_nil hroot
  · -- The object is not the root page, which comes next.
    intro hid
    apply manages_scopeFrom_succ hpages
    · rw [List.mem_singleton]
      exact fun h => hid h.symm
    · intro _
      rfl
    · intro h
      exact absurd rfl h
    · intro object hobject
      cases hobject
      exact ⟨_, rfl⟩
  · intro object hobject
    cases hobject

/-! ## The walk with a friendly provider -/

theorem manages_ignored {α β : Type} {kind : AdapterOp → Prop} {Q : α → Prop} {R : β → Prop}
    {x : Adapter α} {y : Adapter β} (h : Manages kind Q x) (hy : Manages kind R y) :
    Manages kind R (x >>= fun _ => y) :=
  manages_bind h (fun _ _ => hy)

theorem manages_done {kind : AdapterOp → Prop} : Manages kind (fun _ => True) (.ret () : Adapter Unit) :=
  manages_ret trivial

theorem manages_relationTargets (hpages : needed .pages adapter.root) (targets : List Value)
    (hnamed : targetsNamed "relation" (.list targets))
    (hids : ∀ p ∈ targetIds targets, Scopable uuid adapter needed p) :
    Manages (ReadsOf needed) (fun _ => True) (relationTargets uuid adapter targets) := by
  induction targets with
  | nil => exact manages_done
  | cons target rest ih =>
    obtain ⟨members, id, rfl, hid⟩ := hnamed rfl target List.mem_cons_self
    have htargets : targetIds (.map members :: rest) = (.pages, id) :: targetIds rest := by
      simp [targetIds, hid]
    rw [htargets] at hids
    rw [relationTargets]
    simp only [hid]
    apply manages_ignored (manages_scope hpages (hids (.pages, id) List.mem_cons_self))
    apply ih
    · intro hkey other hother
      exact hnamed hkey other (List.mem_cons_of_mem _ hother)
    · intro p hp
      exact hids p (List.mem_cons_of_mem _ hp)

theorem manages_checkId (hpages : needed .pages adapter.root) {key : String} {item : Value}
    (hids : ∀ p ∈ keyId key item, Scopable uuid adapter needed p) :
    Manages (ReadsOf needed) (fun _ => True) (checkId uuid adapter key item) := by
  rw [keyId] at hids
  rw [checkId]
  cases hkind : kindOfKey key with
  | none => exact manages_done
  | some kind =>
    rw [hkind] at hids
    exact manages_ignored (manages_scope hpages (hids (kind, item) List.mem_cons_self)) manages_done

theorem manages_checkRelation (hpages : needed .pages adapter.root) {key : String} {item : Value}
    (hnamed : targetsNamed key item)
    (hids : ∀ p ∈ walkedTargets key item, Scopable uuid adapter needed p) :
    Manages (ReadsOf needed) (fun _ => True) (checkRelation uuid adapter key item) := by
  cases item with
  | list targets =>
    rw [checkRelation]
    rw [walkedTargets] at hids
    by_cases hkey : key = "relation"
    · rw [if_pos hkey] at hids ⊢
      subst hkey
      exact manages_relationTargets hpages targets hnamed hids
    · rw [if_neg hkey]
      exact manages_done
  | _ => exact manages_done

mutual

theorem manages_references (hpages : needed .pages adapter.root) : (value : Value) → Clean value →
    Named value → (∀ p ∈ walkedIds value, Scopable uuid adapter needed p) →
    Manages (ReadsOf needed) (fun _ => True) (references uuid adapter value)
  | .map members, hclean, hnamed, hids => manages_referenceMembers hpages members hclean hnamed hids
  | .list items, hclean, hnamed, hids => manages_referenceItems hpages items hclean hnamed hids
  | .tuple items, hclean, hnamed, hids => manages_referenceItems hpages items hclean hnamed hids
  | .null, _, _, _ => manages_done
  | .bool _, _, _, _ => manages_done
  | .int _, _, _, _ => manages_done
  | .float _, _, _, _ => manages_done
  | .str _, _, _, _ => manages_done

theorem manages_referenceMembers (hpages : needed .pages adapter.root) :
    (members : List (String × Value)) → CleanMembers members → NamedMembers members →
    (∀ p ∈ walkedMembers members, Scopable uuid adapter needed p) →
    Manages (ReadsOf needed) (fun _ => True) (referenceMembers uuid adapter members)
  | [], _, _, _ => manages_done
  | (key, item) :: rest, ⟨⟨hcontrol, hexternal⟩, hitem, hclean⟩, ⟨htargets, hitem', hnamed⟩, hids => by
      rw [walkedMembers, List.forall_mem_append, List.forall_mem_append, List.forall_mem_append] at hids
      rw [referenceMembers, checkMember, if_neg hcontrol, if_neg hexternal]
      apply manages_bind
      · exact manages_bind (manages_checkId hpages hids.1.1.1)
          (fun _ _ => manages_checkRelation hpages htargets hids.1.1.2)
      · intro _ _
        apply manages_bind (manages_references hpages item hitem hitem' hids.1.2)
        intro _ _
        exact manages_referenceMembers hpages rest hclean hnamed hids.2

theorem manages_referenceItems (hpages : needed .pages adapter.root) :
    (items : List Value) → CleanItems items → NamedItems items →
    (∀ p ∈ walkedItems items, Scopable uuid adapter needed p) →
    Manages (ReadsOf needed) (fun _ => True) (referenceItems uuid adapter items)
  | [], _, _, _ => manages_done
  | item :: rest, ⟨hitem, hclean⟩, ⟨hitem', hnamed⟩, hids => by
      rw [walkedItems, List.forall_mem_append] at hids
      rw [referenceItems]
      apply manages_bind (manages_references hpages item hitem hitem' hids.1)
      intro _ _
      exact manages_referenceItems hpages rest hclean hnamed hids.2

end

/-! ## A request gets ready with a friendly provider -/

theorem manages_richTitle {kind : AdapterOp → Prop} {text : String} (h : TitleAccepted text) :
    Manages kind (fun _ => True) (richTitle text) := by
  unfold richTitle
  rw [if_neg h]
  exact manages_ret trivial

theorem manages_iconMember {kind : AdapterOp → Prop} {icon : Option (List (String × Value))}
    (h : ∀ emoji ∈ icon, isEmoji emoji = true) : Manages kind (fun _ => True) (iconMember icon) := by
  cases icon with
  | none => exact manages_ret trivial
  | some emoji =>
    rw [iconMember, if_pos (h emoji rfl)]
    exact manages_ret trivial

theorem manages_calendarMember {kind : AdapterOp → Prop} (viewType : String) (id : Uuid) :
    Manages kind (fun _ => True) (calendarMember viewType (friendly adapter id)) := by
  unfold calendarMember
  by_cases htype : viewType ≠ "calendar"
  · rw [if_pos htype]
    exact manages_ret trivial
  · rw [if_neg htype]
    -- Both dictionaries are there, and the property is a date.
    exact manages_ret trivial

theorem manages_viewRequest (hpages : needed .pages adapter.root) {target : List (String × Value)}
    {source : Value} {name viewType : String} {filter : Option (List (String × Value))}
    (htype : viewType ∈ viewTypes) (htitle : TitleAccepted name)
    (hsource : Scopable uuid adapter needed (.dataSources, source)) :
    Manages (ReadsOf needed) (fun _ => True)
      (viewRequest uuid adapter target source name viewType filter) := by
  obtain ⟨⟨id, hread, -⟩, -⟩ := id hsource
  unfold viewRequest
  rw [if_neg (not_not_intro htype)]
  apply manages_bind (manages_richTitle htitle)
  intro _ _
  apply manages_bind (manages_scope hpages hsource)
  rintro _ ⟨other, rfl⟩
  apply manages_bind (manages_readId hread)
  intro _ _
  apply manages_bind (manages_calendarMember viewType other)
  intro _ _
  exact manages_ret trivial

/-- Its own checks hold and what it scopes may be scoped. -/
structure Accepted (uuid : UuidReader) (adapter : PrivateAdapter) (c : ScopedCall) : Prop where
  guarded : adapter.guarded = true
  checked : c.Checked
  targets : ∀ p ∈ c.targets, MayScope uuid adapter p.1 p.2
  clean : ∀ part ∈ c.walked, Clean part
  named : ∀ part ∈ c.walked, Named part
  walked : ∀ part ∈ c.walked, ∀ p ∈ walkedIds part, MayScope uuid adapter p.1 p.2

/-- The objects that an accepted call has to read. -/
def Needed (uuid : UuidReader) (adapter : PrivateAdapter) (c : ScopedCall) (kind : Kind) (id : Uuid) :
    Prop :=
  (kind = .pages ∧ id = adapter.root) ∨
    ∃ p ∈ c.targets ++ c.walked.flatMap walkedIds, p.1 = kind ∧ uuid.read p.2 = some id

theorem Accepted.target {c : ScopedCall} (h : Accepted uuid adapter c) {p : Kind × Value}
    (hp : p ∈ c.targets) : Scopable uuid adapter (Needed uuid adapter c) p :=
  ⟨h.targets p hp, fun _ hread => .inr ⟨p, List.mem_append_left _ hp, rfl, hread⟩⟩

theorem Accepted.part {c : ScopedCall} (h : Accepted uuid adapter c) {part : Value}
    (hpart : part ∈ c.walked) :
    Manages (ReadsOf (Needed uuid adapter c)) (fun _ => True) (references uuid adapter part) := by
  apply manages_references (.inl ⟨rfl, rfl⟩) part (h.clean part hpart) (h.named part hpart)
  intro p hp
  refine ⟨h.walked part hpart p hp, ?_⟩
  intro id hread
  exact .inr ⟨p, List.mem_append_right _ (List.mem_flatMap.mpr ⟨part, hpart, hp⟩), rfl, hread⟩

theorem manages_request_of_accepted (c : ScopedCall) (h : Accepted uuid adapter c) :
    Manages (ReadsOf (Needed uuid adapter c)) (fun _ => True) (c.request uuid adapter) := by
  have hpages : Needed uuid adapter c .pages adapter.root := .inl ⟨rfl, rfl⟩
  cases c with
  | createPage parentId title children icon =>
    have htarget := h.target (p := (.pages, parentId)) List.mem_cons_self
    obtain ⟨⟨id, hread, hroot⟩, hneeded⟩ := id htarget
    have hcanonical : Scopable uuid adapter
        (Needed uuid adapter (.createPage parentId title children icon)) (.pages, .str (uuidStr id)) := by
      refine ⟨⟨id, uuid.canonical id, hroot⟩, ?_⟩
      intro other hother
      rw [uuid.canonical] at hother
      cases hother
      exact hneeded id hread
    apply manages_bind (manages_readId hread)
    rintro _ rfl
    apply manages_ignored (manages_scope hpages hcanonical)
    apply manages_bind (h.part (List.mem_cons_self : (.list children : Value) ∈ [.list children]))
    intro _ _
    apply manages_bind (manages_richTitle h.checked.1)
    intro _ _
    apply manages_bind (manages_iconMember h.checked.2)
    intro _ _
    exact manages_ret trivial
  | appendBlocks pageId children =>
    have htarget := h.target (p := (.pages, pageId)) List.mem_cons_self
    obtain ⟨⟨id, hread, -⟩, -⟩ := id htarget
    have hlength : 1 ≤ children.length ∧ children.length ≤ 100 := h.checked
    apply manages_ignored (manages_scope hpages htarget)
    rw [if_neg (not_not_intro hlength)]
    apply manages_bind (h.part (List.mem_cons_self : (.list children : Value) ∈ [.list children]))
    intro _ _
    apply manages_bind (manages_readId hread)
    intro _ _
    exact manages_ret trivial
  | createDatabase parentId title properties =>
    have htarget := h.target (p := (.pages, parentId)) List.mem_cons_self
    obtain ⟨⟨id, hread, -⟩, -⟩ := id htarget
    apply manages_ignored (manages_scope hpages htarget)
    apply manages_bind (h.part (List.mem_cons_self : (.map properties : Value) ∈ [.map properties]))
    intro _ _
    apply manages_bind (manages_readId hread)
    intro _ _
    apply manages_bind (manages_richTitle h.checked)
    intro _ _
    exact manages_ret trivial
  | updateDataSource dataSourceId properties =>
    have htarget := h.target (p := (.dataSources, dataSourceId)) List.mem_cons_self
    obtain ⟨⟨id, hread, -⟩, -⟩ := id htarget
    have hnull : ¬ properties.any (fun member => isNull member.2) = true :=
      Bool.eq_false_iff.mp h.checked
    apply manages_ignored (manages_scope hpages htarget)
    rw [if_neg hnull]
    apply manages_bind (h.part (List.mem_cons_self : (.map properties : Value) ∈ [.map properties]))
    intro _ _
    apply manages_bind (manages_readId hread)
    intro _ _
    exact manages_ret trivial
  | createRow dataSourceId properties =>
    have htarget := h.target (p := (.dataSources, dataSourceId)) List.mem_cons_self
    obtain ⟨⟨id, hread, -⟩, -⟩ := id htarget
    apply manages_ignored (manages_scope hpages htarget)
    apply manages_bind (h.part (List.mem_cons_self : (.map properties : Value) ∈ [.map properties]))
    intro _ _
    apply manages_bind (manages_readId hread)
    intro _ _
    exact manages_ret trivial
  | createView databaseId dataSourceId name viewType filter =>
    have htarget := h.target (p := (.databases, databaseId)) List.mem_cons_self
    have hsource := h.target (p := (.dataSources, dataSourceId)) (List.mem_cons_of_mem _ List.mem_cons_self)
    obtain ⟨⟨id, hread, -⟩, -⟩ := id htarget
    apply manages_ignored (manages_scope hpages htarget)
    apply manages_bind (manages_readId hread)
    intro _ _
    exact manages_viewRequest hpages h.checked.1 h.checked.2 hsource
  | createLinkedView pageId dataSourceId name viewType filter =>
    have htarget := h.target (p := (.pages, pageId)) List.mem_cons_self
    have hsource := h.target (p := (.dataSources, dataSourceId)) (List.mem_cons_of_mem _ List.mem_cons_self)
    obtain ⟨⟨id, hread, -⟩, -⟩ := id htarget
    apply manages_ignored (manages_scope hpages htarget)
    apply manages_bind (manages_readId hread)
    intro _ _
    exact manages_viewRequest hpages h.checked.1 h.checked.2 hsource

/-- A provider and a guard that let an accepted call send its write. -/
theorem reach_write {c : ScopedCall} (h : Accepted uuid adapter c) :
    ∃ request next reads,
      Reach (c.script uuid adapter) [] (.ask (.send true request) next)
        (reads ++ [⟨.guard, .returned .null⟩]) ∧
      ∀ exchange ∈ reads, ReadsOf (Needed uuid adapter c) exchange.op := by
  obtain ⟨request, reads, -, hreach, hreads⟩ := manages_request_of_accepted c h []
  rw [List.nil_append] at hreach
  have hcall : ∃ next, Reach (call uuid adapter true request) reads (.ask (.send true request) next)
      (reads ++ [⟨.guard, .returned .null⟩]) := by
    unfold call passGuard
    rw [authorize_eq]
    simp only [if_true, h.guarded]
    exact ⟨_, .answered (.returned .null) (.refl _ _)⟩
  obtain ⟨next, hcall⟩ := hcall
  refine ⟨request, next, reads, ?_, hreads⟩
  rw [ScopedCall.script_eq]
  exact (hreach.bind (fun request => call uuid adapter true request)).trans hcall

end Friendly

/-! ## Scoped writes -/

section Scoped

variable (uuid : UuidReader) (adapter : PrivateAdapter)

/-- An id was connected with the root page. -/
def IdConnected (log : Log) (p : Kind × Value) : Prop :=
  ∃ id, uuid.read p.2 = some id ∧ Connected uuid adapter log p.1 id

/-- The guard has just returned, and everything a write touches or refers to lies under the root. -/
structure WellScoped (log : Log) (c : ScopedCall) : Prop where
  guarded : ∃ earlier value, log = earlier ++ [⟨.guard, .returned value⟩]
  targets : ∀ p ∈ c.targets, IdConnected uuid adapter log p
  clean : ∀ part ∈ c.parts, Clean part
  references : ∀ part ∈ c.parts, ∀ p ∈ claimedIds part, IdConnected uuid adapter log p

/-- The walk misses nothing in a call that is accepted: no control in the JSON it does not walk, and no
id but the root, its targets and the ids it walks. -/
def ScopedWhen (c : ScopedCall) : Prop :=
  Accepted uuid adapter c → (∀ part ∈ c.parts, Clean part) ∧
    ∀ part ∈ c.parts, ∀ p ∈ claimedIds part, ∃ id, uuid.read p.2 = some id ∧
      Needed uuid adapter c p.1 id

variable {uuid adapter}

theorem ScopedIn.mayScope {log : Log} {kind : Kind} {raw : Value} (h : ScopedIn uuid adapter log kind raw) :
    MayScope uuid adapter kind raw := by
  obtain ⟨id, hread, hroot, -⟩ := h
  exact ⟨id, hread, hroot⟩

theorem ScopedIn.idConnected {log : Log} {p : Kind × Value} (h : ScopedIn uuid adapter log p.1 p.2) :
    IdConnected uuid adapter log p := by
  obtain ⟨id, hread, -, hconnected⟩ := h
  exact ⟨id, hread, hconnected⟩

theorem Ready.accepted {log : Log} {c : ScopedCall} (hguarded : adapter.guarded = true)
    (h : Ready uuid adapter log c) : Accepted uuid adapter c where
  guarded := hguarded
  checked := h.checked
  targets := fun p hp => (h.targets p hp).mayScope
  clean := fun part hpart => (h.walked part hpart).clean
  named := fun part hpart => (h.walked part hpart).named
  walked := fun part hpart p hp => ((h.walked part hpart).scoped_ids p hp).mayScope

theorem ScopedCall.exists_target (c : ScopedCall) : ∃ p, p ∈ c.targets := by
  cases c <;> exact ⟨_, List.mem_cons_self⟩

/-- What a ready call needs was connected. -/
theorem Ready.connected {log : Log} {c : ScopedCall} (h : Ready uuid adapter log c) {kind : Kind}
    {id : Uuid} (hneeded : Needed uuid adapter c kind id) : Connected uuid adapter log kind id := by
  rcases hneeded with ⟨rfl, rfl⟩ | ⟨q, hq, rfl, hread⟩
  · -- Every chain ends with the root page.
    obtain ⟨p, hp⟩ := c.exists_target
    exact (h.targets p hp).root_connected
  · have hscoped : ScopedIn uuid adapter log q.1 q.2 := by
      rcases List.mem_append.mp hq with hq | hq
      · exact h.targets q hq
      · obtain ⟨part, hpart, hq⟩ := List.mem_flatMap.mp hq
        exact (h.walked part hpart).scoped_ids q hq
    obtain ⟨id', hread', -, hconnected⟩ := hscoped
    rw [hread] at hread'
    cases hread'
    exact hconnected

/-- A connected id was read, so it is one that was needed. -/
theorem Connected.needed {reads : Log} {c : ScopedCall} {kind : Kind} {id : Uuid} {value : Value}
    (hreads : ∀ exchange ∈ reads, ReadsOf (Needed uuid adapter c) exchange.op)
    (h : Connected uuid adapter (reads ++ [⟨.guard, .returned value⟩]) kind id) :
    Needed uuid adapter c kind id := by
  obtain ⟨object, hread⟩ := h.was_read
  rcases List.mem_append.mp hread.answered with hmem | hmem
  · obtain ⟨kind', id', hop, hneeded⟩ := hreads _ hmem
    cases hop
    exact hneeded
  · rw [List.mem_singleton] at hmem
    cases hmem

/-- Every write of a call is scoped exactly when the walk misses nothing in it. -/
theorem scoped_iff (uuid : UuidReader) (adapter : PrivateAdapter) (c : ScopedCall) :
    (∀ request next log,
      Reach (c.script uuid adapter) [] (.ask (.send true request) next) log →
        WellScoped uuid adapter log c) ↔
      ScopedWhen uuid adapter c := by
  constructor
  · intro h haccepted
    obtain ⟨request, next, reads, hreach, hreads⟩ := reach_write haccepted
    have hscoped := h request next _ hreach
    refine ⟨hscoped.clean, ?_⟩
    intro part hpart p hp
    obtain ⟨id, hread, hconnected⟩ := hscoped.references part hpart p hp
    exact ⟨id, hread, hconnected.needed hreads⟩
  · intro h request next log hreach
    obtain ⟨hguarded, earlier, value, rfl, hready⟩ := ((asks_script c).reach hreach).1
    obtain ⟨hclean, hids⟩ := h (hready.accepted hguarded)
    have hready' := lasting_ready c earlier [⟨.guard, .returned value⟩] hready
    refine ⟨⟨earlier, value, rfl⟩, fun p hp => (hready'.targets p hp).idConnected, hclean, ?_⟩
    intro part hpart p hp
    obtain ⟨id, hread, hneeded⟩ := hids part hpart p hp
    exact ⟨id, hread, hready'.connected hneeded⟩

end Scoped

/-! ## A filter that is not walked -/

section Unwalked

def hexValue (c : Char) : Option Nat :=
  (List.range 16).find? (fun n => hexDigit n = c)

/-- `int(digits, 16)`, of lower-case digits. -/
def hexNumber (start : Nat) : List Char → Option Nat
  | [] => some start
  | c :: rest => (hexValue c).bind (fun n => hexNumber (16 * start + n) rest)

theorem hexNumber_append (start : Nat) (digits digits' : List Char) :
    hexNumber start (digits ++ digits') =
      (hexNumber start digits).bind (fun n => hexNumber n digits') := by
  induction digits generalizing start with
  | nil => rfl
  | cons c rest ih =>
    rw [List.cons_append, hexNumber, hexNumber]
    cases hexValue c with
    | none => rfl
    | some n => exact ih _

theorem hexValue_hexDigit {n : Nat} (h : n < 16) : hexValue (hexDigit n) = some n := by
  have hall : ∀ n < 16, hexValue (hexDigit n) = some n := by decide
  exact hall n h

theorem hexNumber_hexDigits (width n : Nat) : hexNumber 0 (hexDigits width n) = some (n % 16 ^ width) := by
  induction width generalizing n with
  | zero => simp [hexDigits, hexNumber, Nat.mod_one]
  | succ width ih =>
    rw [hexDigits, hexNumber_append, ih, Option.bind_some, hexNumber,
      hexValue_hexDigit (Nat.mod_lt n (by decide)), Option.bind_some, hexNumber]
    have hmod := Nat.mod_mul (x := n) (a := 16) (b := 16 ^ width)
    rw [Nat.pow_succ, Nat.mul_comm (16 ^ width), hmod, Nat.add_comm]

theorem hexDigits_add (width width' n : Nat) :
    hexDigits (width + width') n = hexDigits width (n / 16 ^ width') ++ hexDigits width' n := by
  induction width' generalizing n with
  | zero => simp [hexDigits]
  | succ width' ih =>
    rw [← Nat.add_assoc, hexDigits, hexDigits, ih, Nat.div_div_eq_div_mul, Nat.pow_succ,
      Nat.mul_comm 16, List.append_assoc]

theorem dash_not_mem_hexDigits (width n : Nat) : ∀ c ∈ hexDigits width n, decide (c ≠ '-') = true := by
  have hdigit : ∀ d < 16, decide (hexDigit d ≠ '-') = true := by decide
  induction width generalizing n with
  | zero => exact fun c hc => absurd hc List.not_mem_nil
  | succ width ih =>
    intro c hc
    rcases List.mem_append.mp hc with hc | hc
    · exact ih _ c hc
    · rw [List.mem_singleton] at hc
      rw [hc]
      exact hdigit _ (Nat.mod_lt n (by decide))

/-- The digits of a UUID without its dashes. -/
theorem filter_uuidChars (u : Uuid) :
    (uuidChars u).filter (fun c => decide (c ≠ '-')) = hexDigits 32 u.toNat := by
  have hkeep : ∀ width n, (hexDigits width n).filter (fun c => decide (c ≠ '-')) = hexDigits width n :=
    fun width n => List.filter_eq_self.mpr (dash_not_mem_hexDigits width n)
  have hsplit : hexDigits 32 u.toNat =
      hexDigits 8 (u.toNat / 16 ^ 24) ++ (hexDigits 4 (u.toNat / 16 ^ 20) ++
        (hexDigits 4 (u.toNat / 16 ^ 16) ++ (hexDigits 4 (u.toNat / 16 ^ 12) ++
          hexDigits 12 u.toNat))) := by
    rw [hexDigits_add 8 24, hexDigits_add 4 20, hexDigits_add 4 16, hexDigits_add 4 12]
  have hdash : ∀ rest, ('-' :: rest).filter (fun c => decide (c ≠ '-')) =
      rest.filter (fun c => decide (c ≠ '-')) := fun rest => rfl
  rw [hsplit, uuidChars]
  simp only [List.filter_append, List.cons_append, List.append_assoc, hdash, hkeep]

/-- A reader of the canonical texts. -/
def canonicalReader : UuidReader where
  read
    | .str text =>
      let digits := text.toList.filter (fun c => decide (c ≠ '-'))
      if digits.length = 32 then (hexNumber 0 digits).map (BitVec.ofNat 128) else none
    | _ => none
  canonical u := by
    have hlength : (hexDigits 32 u.toNat).length = 32 := by simp [hexDigits]
    have hmod : u.toNat % 16 ^ 32 = u.toNat := Nat.mod_eq_of_lt (lt_of_lt_of_le u.isLt (by decide))
    simp only [uuidStr, String.toList_ofList, filter_uuidChars, hlength, if_true,
      hexNumber_hexDigits, hmod, Option.map_some, BitVec.ofNat_toNat, BitVec.setWidth_eq]

/-- An adapter of a run whose root page is 1. -/
def sampleAdapter : PrivateAdapter where
  authority := ⟨"run", 7, none, some 1⟩
  root := 1
  verified := rfl
  workspace := none
  guarded := true

/-- A view with a filter that archives. -/
def archivingView : ScopedCall :=
  .createView (.str (uuidStr 2)) (.str (uuidStr 3)) "Tasks" "table" (some [("archived", .bool true)])

/-- The filter of a view is sent as it was given. -/
theorem archivingView_not_scoped :
    ¬ ∀ (uuid : UuidReader) (adapter : PrivateAdapter) (c : ScopedCall) (request : SdkRequest)
      (next : Except AdapterError Reply → Adapter (List (String × Value))) (log : Log),
      Reach (c.script uuid adapter) [] (.ask (.send true request) next) log →
        WellScoped uuid adapter log c := by
  intro h
  have htargets : ∀ p ∈ archivingView.targets, MayScope canonicalReader sampleAdapter p.1 p.2 := by
    intro p hp
    rcases List.mem_cons.mp hp with rfl | hp
    · exact ⟨2, canonicalReader.canonical 2, fun hroot => absurd hroot (by decide)⟩
    · rw [List.mem_singleton.mp hp]
      exact ⟨3, canonicalReader.canonical 3, fun hroot => absurd hroot (by decide)⟩
  have htitle : TitleAccepted "Tasks" := by
    unfold TitleAccepted
    decide
  have haccepted : Accepted canonicalReader sampleAdapter archivingView :=
    { guarded := rfl
      checked := ⟨by decide, htitle⟩
      targets := htargets
      clean := fun part hpart => absurd hpart List.not_mem_nil
      named := fun part hpart => absurd hpart List.not_mem_nil
      walked := fun part hpart => absurd hpart List.not_mem_nil }
  obtain ⟨request, next, reads, hreach, -⟩ := reach_write haccepted
  have hscoped := h canonicalReader sampleAdapter archivingView request next _ hreach
  have hclean : Clean (.map [("archived", .bool true)]) := hscoped.clean _ List.mem_cons_self
  exact hclean.1.1 (by decide)

end Unwalked

end Notion
end Integrations
end MoneyMachine
