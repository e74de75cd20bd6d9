import MoneyMachine.Integrations.NotionAdapter

/-!
# NotionBuild — the private build of one product

`RealNotionProductBuilder.build` is a script of two operations: an effect under a key, which the draft
ledger executes, and the reading of the notification row.

* `Creation` : what an effect creates, with the callable that is handed to `execute`;
* `build`    : the effects of one product, in their order, under their keys;
* `BuildSystem` : any number of builds over one ledger, each at its own pace.

What a reconciling callable answers and what the notification row reads are not modelled: an event carries
them.  `str(value)` and the digest of a key are parameters.
-/

namespace MoneyMachine
namespace Application
namespace NotionBuild

open MoneyMachine.Domain
open MoneyMachine.Library
open MoneyMachine.Integrations.Notion

abbrev Members := List (String × Value)

/-! ## Contents -/

/-- The databases that every colour shares with its hubs, in their order. -/
def sourceNames : List String := ["Tasks", "Events", "Habits", "Finance", "Meals", "Notes"]

def today : String :=
  "formatDate(prop(\"Date\"), \"YYYY-MM-DD\") == formatDate(now(), \"YYYY-MM-DD\")"

structure Theme where
  name : String
  color : String
  icon : String

def themes : List Theme :=
  [⟨"Forest", "green", "🌿"⟩, ⟨"Sand", "brown", "☀️"⟩, ⟨"Slate", "gray", "🪨"⟩]

def rich (text : String) : Value :=
  .list [.map [("type", .str "text"), ("text", .map [("content", .str text)])]]

def block (text kind color : String) : Value :=
  .map
    [("object", .str "block"), ("type", .str kind),
      (kind, .map [("rich_text", rich text), ("color", .str color)])]

def paragraph (text color : String) : Value := block text "paragraph" color

def title (text : String) : Value := .map [("title", rich text)]

def select (options : List String) : Value :=
  .map [("select", .map [("options", .list (options.map (fun name => .map [("name", .str name)])))])]

def formula (expression : String) : Value :=
  .map [("formula", .map [("expression", .str expression)])]

/-- A property without settings. -/
def bare (kind : String) : Value := .map [(kind, .map [])]

def numeric : Value := .map [("number", .map [("format", .str "number")])]

/-- `schemas`. -/
def schemas : List (String × Members) :=
  [("Tasks",
      [("Name", bare "title"), ("Done", bare "checkbox"), ("Date", bare "date"),
        ("Category", select ["Home", "Work", "Personal"]),
        ("Priority", select ["High", "Normal", "Low"]), ("Due today", formula today),
        ("Open today", formula ("if(not prop(\"Done\") and (" ++ today ++ "), 1, 0)"))]),
    ("Events",
      [("Name", bare "title"), ("Date", bare "date"),
        ("Type", select ["Birthday", "Appointment", "Reminder"]), ("Person", bare "rich_text"),
        ("Due today", formula today),
        ("Birthday today",
          formula ("if(prop(\"Type\") == \"Birthday\" and formatDate(prop(\"Date\"), " ++
            "\"MM-DD\") == formatDate(now(), \"MM-DD\"), 1, 0)"))]),
    ("Habits",
      [("Name", bare "title"), ("Date", bare "date")] ++
        ["Mon", "Tue", "Wed", "Thu", "Fri", "Sat", "Sun"].map (fun day => (day, bare "checkbox")) ++
        [("Water", numeric), ("Due today", formula today),
          ("Water today", formula ("if(" ++ today ++ ", prop(\"Water\"), 0)"))]),
    ("Finance",
      [("Item", bare "title"), ("Amount", numeric), ("Date", bare "date"),
        ("Type", select ["Expense", "Income"]), ("Category", select ["Food", "Bills", "Other"]),
        ("Due today", formula today),
        ("Spent today",
          formula ("if(prop(\"Type\") == \"Expense\" and (" ++ today ++ "), prop(\"Amount\"), 0)"))]),
    ("Meals",
      [("Name", bare "title"), ("Date", bare "date"),
        ("Meal slot", select ["Breakfast", "Lunch", "Dinner", "Snack"]),
        ("Due today", formula today)]),
    ("Notes",
      [("Name", bare "title"), ("Created date", bare "date"),
        ("Topic", select ["Capture", "Weekly review", "Idea"])])]

/-- The sources that the notification sums: the metric of their rows, and its total. -/
def metrics : List (String × String × String) :=
  [("Tasks", "Open today", "Open tasks"), ("Events", "Birthday today", "Birthdays"),
    ("Finance", "Spent today", "Spending"), ("Habits", "Water today", "Water logged")]

def relationTo (dataSource : String) : Value :=
  .map [("relation", .map [("data_source_id", .str dataSource), ("single_property", .map [])])]

def totalOf (source metric : String) : Value :=
  .map
    [("rollup",
      .map
        [("relation_property_name", .str source), ("rollup_property_name", .str metric),
          ("function", .str "sum")])]

/-- `notification_schema`; the id of a source is the empty text where the source has none. -/
def notificationSchema (sourceId : String → String) (currency : String) : Members :=
  [("Name", bare "title"), ("Water goal", numeric)] ++
    metrics.flatMap (fun metric =>
      [(metric.1, relationTo (sourceId metric.1)), (metric.2.2, totalOf metric.1 metric.2.1)]) ++
    [("Notification",
      formula ("\"Have a good day, \" + prop(\"Name\") + \". Today is \" + " ++
        "formatDate(now(), \"dddd, MMMM D, YYYY\")" ++
        " + \". Open tasks due today: \" + format(prop(\"Open tasks\"))" ++
        " + \". Birthdays today: \" + format(prop(\"Birthdays\"))" ++
        " + \". Spent today: " ++ currency ++ " \" + format(prop(\"Spending\"))" ++
        " + \". Water glasses left against your editable goal: \"" ++
        " + format(max(0, prop(\"Water goal\") - prop(\"Water logged\"))) + \".\""))]

def chosen (name : String) : Value := .map [("select", .map [("name", .str name)])]

/-- `examples`, on a day in its ISO spelling. -/
def examples (day : String) : List (String × Members) :=
  let dated : Value := .map [("date", .map [("start", .str day)])]
  [("Tasks",
      [("Name", title "EXAMPLE — plan a quiet afternoon"), ("Done", .map [("checkbox", .bool false)]),
        ("Date", dated), ("Category", chosen "Personal"), ("Priority", chosen "Normal")]),
    ("Events",
      [("Name", title "EXAMPLE — Alex birthday"), ("Date", dated), ("Type", chosen "Birthday"),
        ("Person", .map [("rich_text", rich "Alex (example)")])]),
    ("Habits",
      [("Name", title "EXAMPLE — daily check-in"), ("Date", dated), ("Mon", .map [("checkbox", .bool true)]),
        ("Water", .map [("number", .int 2)])]),
    ("Finance",
      [("Item", title "EXAMPLE — lunch"), ("Date", dated), ("Amount", .map [("number", .float (13 / 2))]),
        ("Type", chosen "Expense"), ("Category", chosen "Food")]),
    ("Meals",
      [("Name", title "EXAMPLE — vegetable soup"), ("Date", dated), ("Meal slot", chosen "Lunch")]),
    ("Notes",
      [("Name", title "EXAMPLE — weekly reset"), ("Created date", dated),
        ("Topic", chosen "Weekly review")])]

/-- A page of a guide: its heading and its text. -/
structure GuidePage where
  heading : String
  text : String

/-- `GUIDES`: two pages for each source. -/
def guides : List (GuidePage × GuidePage) :=
  [(⟨"Choose your next action",
      "Capture tasks in Tasks. Give each task a date and priority. Pick " ++
        "one small next action. Tick Done when finished."⟩,
    ⟨"A gentle daily reset",
      "Check today's priorities, move unfinished tasks deliberately, and " ++
        "leave tomorrow a short starting list."⟩),
   (⟨"Keep meaningful dates",
      "Add appointments and reminders in Events. Set Type to Birthday and " ++
        "fill Person for birthday reminders."⟩,
    ⟨"Review the week ahead",
      "Scan the next seven days. Add preparation tasks in Tasks and keep " ++
        "the event date in Events."⟩),
   (⟨"Build a repeatable routine",
      "Use one Habits row per day. Tick the weekday checkbox when you " ++
        "complete your routine; log your water count."⟩,
    ⟨"Adjust your own goals",
      "Change Water goal on the single Notification row to your own " ++
        "preference. This tracker provides no health advice."⟩),
   (⟨"A simple spending check",
      "Enter positive amounts in Finance and choose Expense or Income. " ++
        "Set the date. Spending counts today's Expense rows only."⟩,
    ⟨"Plan a bill before it arrives",
      "Record a bill as an Events reminder and a Tasks action. Record the " ++
        "actual payment once in Finance; no bank connection is provided."⟩),
   (⟨"Plan a flexible week",
      "Add meal ideas to Meals with a date and meal slot. Move dates as " ++
        "plans change; start with meals you already enjoy."⟩,
    ⟨"A practical pantry check",
      "Review what you already have, choose a few meals, and add shopping " ++
        "actions to Tasks. This planner does not prescribe diets."⟩),
   (⟨"Capture without sorting first",
      "Add quick notes in Notes with Topic Capture. Keep a clear title so " ++
        "you can find the idea later."⟩,
    ⟨"Run a useful weekly review",
      "Review completed Tasks, upcoming Events and Finance entries. Write " ++
        "one observation and one next action in Notes with Topic Weekly review."⟩)]

/-! ## Creations -/

/-- What an effect of the build creates. -/
inductive Creation
  | workspace (title : String) (children : List Value)
  | page (parent title : String) (children : List Value) (icon : String)
  | database (parent title : String) (properties : Members)
  | row (source : String) (properties : Members)
  | view (pageId source name : String) (filter : Members) (viewType : String)
  | navigation (pageId : String) (children : List Value)

/-- `response["results"][0]`. -/
def firstResult (response : Members) : Adapter Value :=
  match response.lookup "results" with
  | some (.list (first :: _)) => .ret first
  | some (.tuple (first :: _)) => .ret first
  | _ => .raise .other

/-- The callable that `execute` awaits for a creation. -/
def Creation.callable (uuid : UuidReader) (adapter : PrivateAdapter) : Creation → Adapter Value
  | .workspace title children => do
      let created ← createWorkspaceProduct uuid adapter title children
      .ret (.map created)
  | .page parent title children icon => do
      let created ← createPage uuid adapter (.str parent) title children
        (some [("type", .str "emoji"), ("emoji", .str icon)])
      .ret (.map created)
  | .database parent title properties => do
      let created ← createDatabase uuid adapter (.str parent) title properties
      .ret (.map created)
  | .row source properties => do
      let created ← createRow uuid adapter (.str source) properties
      .ret (.map created)
  | .view pageId source name filter viewType => do
      let created ← createLinkedView uuid adapter (.str pageId) (.str source) name viewType (some filter)
      .ret (.map created)
  | .navigation pageId children => do
      let response ← appendBlocks uuid adapter (.str pageId) children
      firstResult response

/-! ## The script of a build -/

/-- What the reading of the notification row finds: the text of its formula, and the totals. -/
structure NotificationReading where
  text : Value
  totals : Members

/-- What a build awaits. -/
inductive BuildOp
  /-- `_effect`, under the root that the adapter is bound to. -/
  | effect (root : Uuid) (key : String) (creation : Creation)
  /-- The reads and checks of the notification row. -/
  | notification (root : Uuid) (source row : String) (sources : List (String × String))

def BuildOp.Ans : BuildOp → Type
  | .effect .. => Members
  | .notification .. => NotificationReading

abbrev Build (α : Type) := Script BuildOp BuildOp.Ans DraftEffectError α

structure ColourToken where
  name : String
  hex : String

structure Hub where
  name : String
  description : String

/-- The fields of a product spec that the build reads. -/
structure ProductSpec where
  specId : Uuid
  productId : Uuid
  title : String
  currency : String
  paletteTokens : List ColourToken
  hubs : List Hub
  colourVariants : List String
  sharedDatabases : List String
  /-- `created_at.date().isoformat()`. -/
  createdDay : String

section Build

variable (str : Value → String) (uuid : UuidReader)

/-- `str(members["id"])`. -/
def idText (members : Members) : Build String :=
  match members.lookup "id" with
  | some value => .ret (str value)
  | none => .raise .other

/-- `str(db["data_sources"][0]["id"])`. -/
def sourceText (database : Members) : Build String :=
  match database.lookup "data_sources" with
  | some (.list (.map source :: _)) => idText str source
  | some (.tuple (.map source :: _)) => idText str source
  | _ => .raise .other

/-- `_page`. -/
def page (root : Uuid) (key parent name : String) (children : List Value) (icon : String) : Build Members :=
  Script.request (BuildOp.effect root key (.page parent name children icon))

/-- `_database`: the ids of the database and of its data source. -/
def database (root : Uuid) (key parent name : String) (properties : Members) : Build (String × String) := do
  let created ← Script.request (BuildOp.effect root key (.database parent name properties))
  let databaseId ← idText str created
  let dataSource ← sourceText str created
  .ret (databaseId, dataSource)

/-- `_row`. -/
def row (root : Uuid) (key source : String) (properties : Members) : Build String := do
  let created ← Script.request (BuildOp.effect root key (.row source properties))
  idText str created

/-- `_view`. -/
def view (root : Uuid) (key page source name : String) (filter : Members) (viewType : String) :
    Build String := do
  let created ← Script.request (BuildOp.effect root key (.view page source name filter viewType))
  idText str created

/-- What a colour keeps of one shared database. -/
structure Source where
  name : String
  databaseId : String
  dataSource : String
  exampleRow : String

def Source.find (sources : List Source) (name : String) : Option Source :=
  sources.find? (fun source => decide (source.name = name))

def dataSourceOf (sources : List Source) (name : String) : String :=
  ((Source.find sources name).map Source.dataSource).getD ""

def exampleRowOf (sources : List Source) (name : String) : String :=
  ((Source.find sources name).map Source.exampleRow).getD ""

/-- One shared database with its example row. -/
def sharedSource (root : Uuid) (marker home day : String) (schema : String × Members) : Build Source := do
  let created ← database str root (marker ++ ":source:" ++ schema.1) home schema.1 schema.2
  let exampleRow ← row str root (marker ++ ":example:" ++ schema.1) created.2
    (((examples day).lookup schema.1).getD [])
  .ret ⟨schema.1, created.1, created.2, exampleRow⟩

def equals (property kind : String) (value : Value) : Members :=
  [("property", .str property), (kind, .map [("equals", value)])]

def dueToday : Members :=
  [("property", .str "Due today"), ("formula", .map [("checkbox", .map [("equals", .bool true)])])]

def todayFilter (name : String) : Members :=
  if name = "Notes" then equals "Topic" "select" (.str "Capture") else dueToday

def focusFilter (name : String) : Members :=
  if name = "Tasks" then
    equals "Done" "checkbox" (.bool false)
  else if name = "Notes" then
    equals "Topic" "select" (.str "Weekly review")
  else if name = "Events" then
    equals "Type" "select" (.str "Birthday")
  else if name = "Finance" then
    equals "Type" "select" (.str "Expense")
  else
    [("property", .str "Date"), ("date", .map [("this_week", .map [])])]

/-- One page of a guide, with its number. -/
def guidePage (root : Uuid) (marker name hubPage color : String) (number : Nat) (guide : GuidePage) :
    Build String := do
  let created ← page root (marker ++ ":guide:" ++ name ++ ":" ++ toString number) hubPage guide.heading
    [block guide.heading "heading_2" color, paragraph guide.text "default"] "📖"
  idText str created

/-- What a colour keeps of one hub. -/
structure HubPages where
  name : String
  pageId : String
  sourceId : String
  viewIds : List String
  guideIds : List String

/-- One hub: its page, two views of its source and the two pages of its guide. -/
def hubPages (root : Uuid) (marker home : String) (theme : Theme) (sources : List Source) (hub : Hub)
    (name : String) (guide : GuidePage × GuidePage) : Build HubPages := do
  let created ← page root (marker ++ ":hub:" ++ name) home hub.name
    [block hub.name "heading_1" theme.color, paragraph hub.description "default",
      paragraph ("These views use the shared " ++ name ++ " source. Edit a " ++
        "row here and it changes everywhere.") theme.color]
    theme.icon
  let pageId ← idText str created
  let dataSource := dataSourceOf sources name
  let todayView ← view str root (marker ++ ":hub-view:" ++ name ++ ":today") pageId dataSource
    (if name = "Notes" then "Quick capture" else "Today") (todayFilter name) "table"
  let focusView ← view str root (marker ++ ":hub-view:" ++ name ++ ":focus") pageId dataSource "Focus"
    (focusFilter name) "table"
  let first ← guidePage str root marker name pageId theme.color 0 guide.1
  let second ← guidePage str root marker name pageId theme.color 2 guide.2
  .ret ⟨hub.name, pageId, dataSource, [todayView, focusView], [first, second]⟩

/-- What the build keeps of one colour. -/
structure Variant where
  rootId : String
  sources : List Source
  value : Value

def strings (texts : List String) : Value := .list (texts.map Value.str)

def HubPages.value (hub : HubPages) : Value :=
  .map
    [("name", .str hub.name), ("page_id", .str hub.pageId), ("source_id", .str hub.sourceId),
      ("view_ids", strings hub.viewIds), ("guide_ids", strings hub.guideIds)]

def Source.value (source : Source) : Value :=
  .map [("database_id", .str source.databaseId), ("data_source_id", .str source.dataSource)]

/-- `_variant`. -/
def variant (spec : ProductSpec) (root : Uuid) (parent : String) (theme : Theme) (marker : String) :
    Build Variant := do
  let marker := marker ++ ":" ++ theme.name
  match spec.paletteTokens.find? (fun token => decide (token.name = theme.name)) with
  -- A `StopIteration` inside a coroutine.
  | none => .raise .other
  | some token => do
      let home ← page root (marker ++ ":home") parent (theme.name ++ " — " ++ spec.title)
        [block (theme.name ++ " / " ++ token.hex) "heading_1" theme.color,
          paragraph "Your calm place for today. Start with the dashboard, then choose a hub." theme.color,
          paragraph ("Example rows are labelled EXAMPLE. Replace them and " ++
            "connect new rows to the Notification row; its totals include linked rows only.") "default"]
        theme.icon
      let homeId ← idText str home
      let sources ← schemas.mapM (sharedSource str root marker homeId spec.createdDay)
      let notification ← database str root (marker ++ ":notification") homeId "Notification"
        (notificationSchema (dataSourceOf sources) spec.currency)
      let notificationRow ← row str root (marker ++ ":notification-row") notification.2
        ([("Name", title "EXAMPLE — Alex"), ("Water goal", .map [("number", .int 8)])] ++
          ["Tasks", "Events", "Finance", "Habits"].map (fun name =>
            (name, .map [("relation", .list [.map [("id", .str (exampleRowOf sources name))]])])))
      let reading ← Script.request (BuildOp.notification root notification.2 notificationRow
        (sources.map (fun source => (source.name, source.dataSource))))
      let notificationView ← view str root (marker ++ ":dashboard") homeId notification.2
        "Your day at a glance"
        [("property", .str "Name"), ("title", .map [("is_not_empty", .bool true)])] "list"
      let hubs ← (spec.hubs.zip (sourceNames.zip guides)).mapM (fun hub =>
        hubPages str root marker homeId theme sources hub.1 hub.2.1 hub.2.2)
      let _ ← Script.request (BuildOp.effect root (marker ++ ":navigation")
        (.navigation homeId
          (paragraph (marker ++ ":navigation") theme.color :: hubs.map (fun hub =>
            .map
              [("object", .str "block"), ("type", .str "link_to_page"),
                ("link_to_page", .map [("type", .str "page_id"), ("page_id", .str hub.pageId)])]))))
      let tasksView ← view str root (marker ++ ":home-tasks") homeId (dataSourceOf sources "Tasks")
        "Today's priorities"
        [("and", .list [.map (equals "Done" "checkbox" (.bool false)), .map dueToday])] "table"
      let calendarView ← view str root (marker ++ ":home-calendar") homeId (dataSourceOf sources "Events")
        "This month" [("property", .str "Date"), ("date", .map [("this_month", .map [])])] "calendar"
      let notesView ← view str root (marker ++ ":home-notes") homeId (dataSourceOf sources "Notes")
        "Quick notes" (equals "Topic" "select" (.str "Capture")) "list"
      .ret
        { rootId := homeId
          sources := sources
          value := .map
            [("name", .str theme.name), ("palette_hex", .str token.hex), ("root_id", .str homeId),
              ("sources", .map (sources.map (fun source => (source.name, source.value)))),
              ("hubs", .list (hubs.map HubPages.value)),
              ("home_view_ids", strings [tasksView, calendarView, notesView]),
              ("notification", .map
                [("database_id", .str notification.1), ("data_source_id", .str notification.2),
                  ("row_id", .str notificationRow), ("view_id", .str notificationView),
                  ("formula_result", reading.text), ("rollups", .map reading.totals)]),
              ("page_count_including_databases", .int 26), ("regular_page_count", .int 19)] }

/-- The spec is the one that the authority admits, with the six hubs and the three colours. -/
def specInScope (authority : DraftRunAuthority) (spec : ProductSpec) (runId : String)
    (workspaceId : Uuid) : Bool :=
  decide (spec.productId = authority.productId ∧ runId = authority.runId ∧
    authority.verifiedNotionParentId = some workspaceId ∧ spec.sharedDatabases = sourceNames ∧
    spec.hubs.length = 6 ∧ spec.colourVariants = themes.map Theme.name)

/-- `build`. -/
def build (authority : DraftRunAuthority) (spec : ProductSpec) (runId : String) (workspaceId : Uuid) :
    Build Value :=
  if specInScope authority spec runId workspaceId = false then
    .raise (.refused "real_product_spec_scope")
  else do
    let marker := "mm-real-product:" ++ runId ++ ":" ++ uuidStr spec.productId ++ ":v1"
    let folder ← Script.request (BuildOp.effect workspaceId ("workspace:" ++ marker)
      (.workspace (spec.title ++ " — private build " ++ runId) [paragraph marker "default"]))
    match folder.lookup "id" with
    | none => .raise .other
    | some folderId =>
      match uuid.read folderId with
      | none => .raise .other
      | some root => do
          let variants ← themes.mapM (fun theme => variant str spec root (str folderId) theme marker)
          let allSources := variants.flatMap (fun made => made.sources.map Source.dataSource)
          if (variants.map Variant.rootId).eraseDups.length ≠ 3 ∨ allSources.eraseDups.length ≠ 18 then
            .raise (.refused "variant_complete_copy_identity")
          else
            .ret (.map
              [("schema_version", .int 1), ("run_id", .str runId),
                ("product_id", .str (uuidStr spec.productId)), ("spec_id", .str (uuidStr spec.specId)),
                ("private_folder_id", folderId), ("variants", .list (variants.map Variant.value)),
                ("publication", .str "private"),
                ("visual_review", .str "pending_native_assets_and_human_review"),
                ("qa", .str "provider_readback_checked"), ("api_version", .str "2025-09-03")])

end Build

end NotionBuild
end Application
end MoneyMachine
