import MoneyMachine.Application.DraftEffects
import MoneyMachine.Domain.ListingText
import MoneyMachine.Library.Interference

/-!
# NotionAdapter — the bounded operations on one private Notion root

A method of the adapter is a script: it reads the provider to see that what it touches lies under the
verified root, and sends at most one write.  Between two requests anything may be answered.

* `call`       : one request, with what becomes of its answer;
* `scope`      : the ancestry of an object, read up to the root;
* `references` : the walk over the JSON that a caller supplies;
* `createPage`, `appendBlocks`, … : the methods that write.

`UUID(str(value))` is a parameter with its one law: it reads back what `str` writes of a UUID.
-/

namespace MoneyMachine
namespace Integrations
namespace Notion

open MoneyMachine.Domain
open MoneyMachine.Library
open MoneyMachine.Application

/-! ## JSON -/

/-- JSON as Python builds it; the serialiser writes a list and a tuple alike. -/
inductive Value
  | null
  | bool (b : Bool)
  | int (n : Int)
  | float (q : Rat)
  | str (s : String)
  | list (items : List Value)
  | tuple (items : List Value)
  | map (members : List (String × Value))

/-- `bool(value)`. -/
def Value.truthy : Value → Bool
  | .null => false
  | .bool b => b
  | .int n => decide (n ≠ 0)
  | .float q => decide (q ≠ 0)
  | .str s => decide (s ≠ "")
  | .list items => !items.isEmpty
  | .tuple items => !items.isEmpty
  | .map members => !members.isEmpty

/-- `UUID(str(value))`. -/
structure UuidReader where
  read : Value → Option Uuid
  canonical : ∀ u, read (.str (uuidStr u)) = some u

/-! ## Requests -/

inductive Kind
  | pages
  | databases
  | dataSources
  | blocks
  | views
  deriving DecidableEq, Repr

/-- The paths that are requested. -/
inductive Endpoint
  | object (kind : Kind) (id : Uuid)
  | children (id : Uuid)
  | collection (kind : Kind)
  | me
  deriving DecidableEq, Repr

/-- One request of the SDK. -/
structure SdkRequest where
  method : String
  endpoint : Endpoint
  body : Option Value

/-- How the SDK answers a request, or the guard its call. -/
inductive Reply
  | returned (value : Value)
  /-- `APIResponseError`. -/
  | apiError (status : Int)
  | failed

/-- What the adapter raises. -/
inductive AdapterError
  /-- `DraftRunRefused`. -/
  | refused (reason : String)
  /-- `NotionEffectUncertain`. -/
  | uncertain (reason : String)
  /-- Any other exception. -/
  | other
  deriving DecidableEq, Repr

/-- What the adapter asks of the world. -/
inductive AdapterOp
  /-- `before_write`. -/
  | guard
  | send (write : Bool) (request : SdkRequest)

/-- A script of the adapter. -/
abbrev Adapter (α : Type) := Script AdapterOp (fun _ => Reply) AdapterError α

def refuse {α : Type} (reason : String) : Adapter α :=
  .raise (.refused reason)

/-- The adapter: its authority, the workspace, and whether a guard was given. -/
structure PrivateAdapter where
  authority : DraftRunAuthority
  root : Uuid
  verified : authority.verifiedNotionParentId = some root
  workspace : Option Uuid
  guarded : Bool

section Methods

variable (uuid : UuidReader) (adapter : PrivateAdapter)

/-- `_authorize`. -/
def authorize (write : Bool) : Adapter Unit :=
  match adapter.authority.authorize
      (if write then "notion.private_product.write" else "notion.private_product.read")
      adapter.authority.runId adapter.authority.productId none none
      adapter.authority.verifiedNotionParentId with
  | .ok () => .ret ()
  | .error (.refused reason) => refuse reason
  | .error _ => .raise .other

/-- The children of a response can be iterated, and each has an id. -/
def childrenIdentified : Option Value → Bool
  | some (.list items) => items.all identified
  | some (.tuple items) => items.all identified
  | some (.str text) => decide (text = "")
  | some (.map members) => members.isEmpty
  | _ => false
where
  identified : Value → Bool
    | .map members => (members.lookup "id").any (fun id => (uuid.read id).isSome)
    | _ => false

/-- A write's response names what was created. -/
def namesCreated (endpoint : Endpoint) (members : List (String × Value)) : Bool :=
  match endpoint with
  | .children _ => childrenIdentified uuid (members.lookup "results")
  | _ => (members.lookup "id").any (fun id => (uuid.read id).isSome)

/-- What `_call` makes of an answer. -/
def settle (write : Bool) (endpoint : Endpoint) : Reply → Adapter (List (String × Value))
  | .apiError status =>
    if write && decide (500 ≤ status) then
      .raise (.uncertain "provider_write_outcome_unknown")
    else
      refuse ("notion_provider_refused_" ++ toString status)
  | .failed =>
    if write then .raise (.uncertain "provider_write_outcome_unknown") else refuse "notion_read_failed"
  | .returned (.map members) =>
    if write && !namesCreated uuid endpoint members then
      .raise (.uncertain "provider_write_response_invalid")
    else
      .ret members
  | .returned _ =>
    if write then
      .raise (.uncertain "provider_write_response_invalid")
    else
      refuse "provider_read_response_invalid"

/-- The guard before a write. -/
def passGuard : Adapter Unit :=
  if adapter.guarded then do
    match ← Script.request AdapterOp.guard with
    | .returned _ => .ret ()
    | _ => refuse "durable_effect_guard_refused"
  else
    refuse "durable_effect_guard_required"

/-- `_call`. -/
def call (write : Bool) (request : SdkRequest) : Adapter (List (String × Value)) := do
  authorize adapter write
  (if write then passGuard adapter else .ret ())
  let reply ← Script.request (AdapterOp.send write request)
  settle uuid write request.endpoint reply

/-- `_id`. -/
def readId (value : Value) : Adapter Uuid :=
  match uuid.read value with
  | some id => .ret id
  | none => .raise .other

/-- `dict.get` with a default. -/
def getOr (members : List (String × Value)) (name : String) (default : Value) : Value :=
  (members.lookup name).getD default

/-- `.get` on a value that may be no dictionary. -/
def dictOf : Value → Adapter (List (String × Value))
  | .map members => .ret members
  | _ => .raise .other

/-- `kinds`. -/
def kindOfKey (key : String) : Option Kind :=
  [("page_id", Kind.pages), ("database_id", .databases), ("data_source_id", .dataSources),
    ("block_id", .blocks)].lookup key

/-- A flag of an object is set. -/
def flagged (object : List (String × Value)) : Bool :=
  ["archived", "in_trash", "public_url"].any (fun name => (object.lookup name).any Value.truthy)

/-- The parent of an object. -/
def parentOf (object : List (String × Value)) : Except AdapterError (Kind × Uuid) :=
  match getOr object "parent" (.map []) with
  | .map parent =>
    match parent.lookup "type" with
    -- A list or a dictionary has no hash.
    | some (.list _) => .error .other
    | some (.map _) => .error .other
    | some (.str text) =>
      match kindOfKey text with
      | none => .error (.refused "notion_outside_verified_parent")
      | some kind =>
        match (parent.lookup text).bind uuid.read with
        | none => .error .other
        | some id => .ok (kind, id)
    | _ => .error (.refused "notion_outside_verified_parent")
  | _ => .error .other

/-- The loop of `_scope`: the object at the bottom of the chain is `first`. -/
def scopeFrom (first : Option (List (String × Value))) (visited : List Uuid) (kind : Kind) (id : Uuid) :
    Nat → Adapter (List (String × Value))
  | 0 => refuse "notion_ancestry_too_deep"
  | remaining + 1 =>
    if id ∈ visited then
      refuse "notion_ancestry_cycle"
    else do
      let object ← call uuid adapter false ⟨"GET", .object kind id, none⟩
      let named ← readId uuid (getOr object "id" (.str ""))
      if named ≠ id then
        refuse "notion_identity_mismatch"
      else if flagged object then
        refuse "notion_private_active_object_required"
      else if id = adapter.root then
        if kind ≠ .pages then
          refuse "notion_private_page_root_required"
        else
          .ret (first.getD object)
      else do
        let parent ← Script.ofExcept (parentOf uuid object)
        scopeFrom (some (first.getD object)) (id :: visited) parent.1 parent.2 remaining

/-- `_scope`. -/
def scope (kind : Kind) (objectId : Value) : Adapter (List (String × Value)) := do
  let id ← readId uuid objectId
  scopeFrom uuid adapter none [] kind id 32

/-! ## References -/

def controlKeys : List String :=
  ["archived", "in_trash", "public_url", "publish", "public", "sharing"]

def externalKeys : List String :=
  ["external", "embed", "bookmark", "synced_block"]

/-- The targets of a relation. -/
def relationTargets : List Value → Adapter Unit
  | [] => .ret ()
  | target :: rest => do
      match target with
      | .map members =>
        match members.lookup "id" with
        | none => .raise .other
        | some id => do
            let _ ← scope uuid adapter .pages id
            relationTargets rest
      | _ => .raise .other

/-- An id under a key that names a resource. -/
def checkId (key : String) (item : Value) : Adapter Unit :=
  match kindOfKey key with
  | some kind => do
      let _ ← scope uuid adapter kind item
      .ret ()
  | none => .ret ()

/-- The targets of a relation, where it is a list. -/
def checkRelation (key : String) : Value → Adapter Unit
  | .list targets => if key = "relation" then relationTargets uuid adapter targets else .ret ()
  | _ => .ret ()

/-- The checks on one member of a mapping. -/
def checkMember (key : String) (item : Value) : Adapter Unit :=
  if key ∈ controlKeys then
    refuse "notion_forbidden_control"
  else if key ∈ externalKeys then
    refuse "notion_external_resource_forbidden"
  else do
    checkId uuid adapter key item
    checkRelation uuid adapter key item

mutual

/-- `_references`. -/
def references : Value → Adapter Unit
  | .map members => referenceMembers members
  | .list items => referenceItems items
  | .tuple items => referenceItems items
  | _ => .ret ()

def referenceMembers : List (String × Value) → Adapter Unit
  | [] => .ret ()
  | (key, item) :: rest => do
      checkMember uuid adapter key item
      references item
      referenceMembers rest

def referenceItems : List Value → Adapter Unit
  | [] => .ret ()
  | item :: rest => do
      references item
      referenceItems rest

end

/-! ## Methods

Each method first reads and checks, which gives the request, and then sends it. -/

/-- `_title`. -/
def richTitle (text : String) : Adapter Value :=
  if strip text.toList = [] ∨ 2000 < text.length then
    refuse "invalid_title"
  else
    .ret (.list [.map [("type", .str "text"), ("text", .map [("content", .str text)])]])

/-- The icon is an emoji. -/
def isEmoji (icon : List (String × Value)) : Bool :=
  icon.all (fun member => decide (member.1 ∈ ["type", "emoji"])) && (icon.lookup "emoji").isSome &&
    match icon.lookup "type" with
    | some (.str text) => decide (text = "emoji")
    | _ => false

/-- `body["icon"] = icon`. -/
def iconMember : Option (List (String × Value)) → Adapter (List (String × Value))
  | none => .ret []
  | some icon => if isEmoji icon then .ret [("icon", .map icon)] else refuse "emoji_icon_required"

/-- The request of `create_page`. -/
def pageRequest (parentId : Value) (title : String) (children : List Value)
    (icon : Option (List (String × Value))) : Adapter SdkRequest := do
  let parent ← readId uuid parentId
  let _ ← scope uuid adapter .pages (.str (uuidStr parent))
  referenceItems uuid adapter children
  let titleText ← richTitle title
  let icons ← iconMember icon
  .ret ⟨"POST", .collection .pages,
    some (.map
      ([("parent", .map [("type", .str "page_id"), ("page_id", .str (uuidStr parent))]),
        ("properties", .map [("title", .map [("type", .str "title"), ("title", titleText)])]),
        ("children", .list children)] ++ icons))⟩

/-- `create_page`. -/
def createPage (parentId : Value) (title : String) (children : List Value)
    (icon : Option (List (String × Value))) : Adapter (List (String × Value)) := do
  let request ← pageRequest uuid adapter parentId title children icon
  call uuid adapter true request

/-- The request of `append_blocks`. -/
def blocksRequest (pageId : Value) (children : List Value) : Adapter SdkRequest := do
  let _ ← scope uuid adapter .pages pageId
  if ¬ (1 ≤ children.length ∧ children.length ≤ 100) then
    refuse "notion_block_batch_limit"
  else do
    referenceItems uuid adapter children
    let page ← readId uuid pageId
    .ret ⟨"PATCH", .children page, some (.map [("children", .list children)])⟩

/-- `append_blocks`. -/
def appendBlocks (pageId : Value) (children : List Value) : Adapter (List (String × Value)) := do
  let request ← blocksRequest uuid adapter pageId children
  call uuid adapter true request

/-- The request of `create_database`. -/
def databaseRequest (parentId : Value) (title : String) (properties : List (String × Value)) :
    Adapter SdkRequest := do
  let _ ← scope uuid adapter .pages parentId
  referenceMembers uuid adapter properties
  let parent ← readId uuid parentId
  let titleText ← richTitle title
  .ret ⟨"POST", .collection .databases,
    some (.map
      [("parent", .map [("type", .str "page_id"), ("page_id", .str (uuidStr parent))]),
        ("title", titleText), ("is_inline", .bool true),
        ("initial_data_source", .map [("properties", .map properties)])])⟩

/-- `create_database`. -/
def createDatabase (parentId : Value) (title : String) (properties : List (String × Value)) :
    Adapter (List (String × Value)) := do
  let request ← databaseRequest uuid adapter parentId title properties
  call uuid adapter true request

def isNull : Value → Bool
  | .null => true
  | _ => false

/-- The request of `update_data_source`. -/
def dataSourceRequest (dataSourceId : Value) (properties : List (String × Value)) :
    Adapter SdkRequest := do
  let _ ← scope uuid adapter .dataSources dataSourceId
  if properties.any (fun member => isNull member.2) then
    refuse "notion_property_deletion_forbidden"
  else do
    referenceMembers uuid adapter properties
    let dataSource ← readId uuid dataSourceId
    .ret ⟨"PATCH", .object .dataSources dataSource, some (.map [("properties", .map properties)])⟩

/-- `update_data_source`. -/
def updateDataSource (dataSourceId : Value) (properties : List (String × Value)) :
    Adapter (List (String × Value)) := do
  let request ← dataSourceRequest uuid adapter dataSourceId properties
  call uuid adapter true request

/-- The request of `create_row`. -/
def rowRequest (dataSourceId : Value) (properties : List (String × Value)) : Adapter SdkRequest := do
  let _ ← scope uuid adapter .dataSources dataSourceId
  referenceMembers uuid adapter properties
  let dataSource ← readId uuid dataSourceId
  .ret ⟨"POST", .collection .pages,
    some (.map
      [("parent",
          .map [("type", .str "data_source_id"), ("data_source_id", .str (uuidStr dataSource))]),
        ("properties", .map properties)])⟩

/-- `create_row`. -/
def createRow (dataSourceId : Value) (properties : List (String × Value)) :
    Adapter (List (String × Value)) := do
  let request ← rowRequest uuid adapter dataSourceId properties
  call uuid adapter true request

def viewTypes : List String :=
  ["table", "board", "list", "calendar", "timeline", "gallery"]

/-- The configuration of a calendar: the data source must have a date property. -/
def calendarMember (viewType : String) (dataSource : List (String × Value)) :
    Adapter (List (String × Value)) :=
  if viewType ≠ "calendar" then
    .ret []
  else do
    let properties ← dictOf (getOr dataSource "properties" (.map []))
    let dateProperty ← dictOf (getOr properties "Date" (.map []))
    match dateProperty.lookup "type", dateProperty.lookup "id" with
    | some (.str "date"), some id =>
      if id.truthy then
        .ret [("configuration",
          .map [("type", .str "calendar"), ("date_property_id", id), ("view_range", .str "month")])]
      else
        refuse "calendar_date_property_required"
    | _, _ => refuse "calendar_date_property_required"

/-- The request of `_create_view`: the filter goes into the body as it was given. -/
def viewRequest (target : List (String × Value)) (source : Value) (name viewType : String)
    (filter : Option (List (String × Value))) : Adapter SdkRequest :=
  if viewType ∉ viewTypes then
    refuse "notion_view_type_forbidden"
  else do
    let _ ← richTitle name
    let dataSource ← scope uuid adapter .dataSources source
    let sourceId ← readId uuid source
    let configuration ← calendarMember viewType dataSource
    let filters := match filter with
      | none => []
      | some filter => [("filter", .map filter)]
    .ret ⟨"POST", .collection .views,
      some (.map
        (target ++
          [("data_source_id", .str (uuidStr sourceId)), ("name", .str name),
            ("type", .str viewType)] ++ configuration ++ filters))⟩

/-- The request of `create_view`. -/
def databaseViewRequest (databaseId dataSourceId : Value) (name viewType : String)
    (filter : Option (List (String × Value))) : Adapter SdkRequest := do
  let _ ← scope uuid adapter .databases databaseId
  let database ← readId uuid databaseId
  viewRequest uuid adapter [("database_id", .str (uuidStr database))] dataSourceId name viewType filter

/-- `create_view`. -/
def createView (databaseId dataSourceId : Value) (name viewType : String) (filter : Option (List (String × Value))) :
    Adapter (List (String × Value)) := do
  let request ← databaseViewRequest uuid adapter databaseId dataSourceId name viewType filter
  call uuid adapter true request

/-- The request of `create_linked_view`. -/
def linkedViewRequest (pageId dataSourceId : Value) (name viewType : String) (filter : Option (List (String × Value))) :
    Adapter SdkRequest := do
  let _ ← scope uuid adapter .pages pageId
  let page ← readId uuid pageId
  viewRequest uuid adapter
    [("create_database",
      .map
        [("parent", .map [("type", .str "page_id"), ("page_id", .str (uuidStr page))]),
          ("show_data_source_title", .bool false)])]
    dataSourceId name viewType filter

/-- `create_linked_view`. -/
def createLinkedView (pageId dataSourceId : Value) (name viewType : String) (filter : Option (List (String × Value))) :
    Adapter (List (String × Value)) := do
  let request ← linkedViewRequest uuid adapter pageId dataSourceId name viewType filter
  call uuid adapter true request

/-- `_workspace_owner`, as `create_workspace_product` does it first. -/
def workspaceOwner : Adapter Unit :=
  match adapter.workspace with
  | none => refuse "verified_workspace_creation_required"
  | some workspace =>
    if adapter.root ≠ workspace then
      refuse "verified_workspace_creation_required"
    else do
      let me ← call uuid adapter false ⟨"GET", .me, none⟩
      let bot ← dictOf (getOr me "bot" (.map []))
      let named ← readId uuid (getOr bot "workspace_id" (.str ""))
      if named ≠ workspace then
        refuse "notion_workspace_owner_mismatch"
      else do
        let owner ← dictOf (getOr bot "owner" (.map []))
        match owner.lookup "type" with
        | some (.str "user") => .ret ()
        | _ => refuse "notion_workspace_owner_mismatch"

/-- The request of `create_workspace_product`. -/
def workspaceRequest (title : String) (children : List Value) : Adapter SdkRequest := do
  workspaceOwner uuid adapter
  referenceItems uuid adapter children
  let titleText ← richTitle title
  .ret ⟨"POST", .collection .pages,
    some (.map
      [("parent", .map [("workspace", .bool true)]),
        ("properties", .map [("title", .map [("type", .str "title"), ("title", titleText)])]),
        ("children", .list children)])⟩

/-- `create_workspace_product`. -/
def createWorkspaceProduct (title : String) (children : List Value) :
    Adapter (List (String × Value)) := do
  let request ← workspaceRequest uuid adapter title children
  call uuid adapter true request

end Methods

end Notion
end Integrations
end MoneyMachine
