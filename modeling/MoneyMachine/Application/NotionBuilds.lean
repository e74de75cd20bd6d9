import MoneyMachine.Application.NotionBuild
import MoneyMachine.Application.ProviderIdentity
import MoneyMachine.Integrations.NotionWrites

/-!
# NotionBuilds — any number of private builds over one ledger

Builds take turns, one transaction or one request at a time.  A write is counted from the moment it is
sent, and no longer once the provider has answered it with a status below 500; what is counted may have
taken effect.

* `asks_callable` : a creation sends nothing after such a write, and is not refused after one;
* `BuildSystem`   : the ledger, the builds and the writes that are counted;
* `Sound`         : every counted write belongs to the one call that owns its key;
* `one_write_per_effect_key` : at most one write is counted for each effect key of a job.
-/

namespace MoneyMachine
namespace Application
namespace NotionBuild

open MoneyMachine.Domain
open MoneyMachine.Library
open MoneyMachine.Library.Script
open MoneyMachine.Integrations.Notion

/-! ## Creations -/

def isWrite : AdapterOp → Bool
  | .send write _ => write
  | .guard => false

/-- A write that is answered so had no effect. -/
def refuses : Reply → Bool
  | .apiError status => decide (status < 500)
  | _ => false

/-- A write was sent that may have taken effect. -/
def Wrote (log : Log) : Prop :=
  ∃ exchange ∈ log, isWrite exchange.op = true ∧ refuses exchange.answer = false

/-- Nothing is written after a write that may have taken effect. -/
def MayWrite (log : Log) (op : AdapterOp) : Prop :=
  isWrite op = true → ¬ Wrote log

/-- A refusal comes only where nothing was written. -/
def Unwritten {α : Type} (result : Except AdapterError α) (log : Log) : Prop :=
  ∀ reason, result = .error (.refused reason) → ¬ Wrote log

theorem not_wrote_nil : ¬ Wrote [] := by
  intro h
  obtain ⟨exchange, hmem, -⟩ := h
  exact List.not_mem_nil hmem

theorem wrote_append {log : Log} {op : AdapterOp} {reply : Reply} :
    Wrote (log ++ [⟨op, reply⟩]) ↔ Wrote log ∨ (isWrite op = true ∧ refuses reply = false) := by
  constructor
  · intro h
    obtain ⟨exchange, hmem, hwrite⟩ := h
    rcases List.mem_append.mp hmem with hold | hnew
    · exact Or.inl ⟨exchange, hold, hwrite⟩
    · rw [List.mem_singleton] at hnew
      subst hnew
      exact Or.inr hwrite
  · intro h
    rcases h with ⟨exchange, hmem, hwrite⟩ | hwrite
    · exact ⟨exchange, List.mem_append_left _ hmem, hwrite⟩
    · exact ⟨⟨op, reply⟩, List.mem_append_right _ List.mem_cons_self, hwrite⟩

theorem not_isWrite_of_isRead {op : AdapterOp} (h : op.isRead) : isWrite op = false := by
  cases op with
  | guard => rfl
  | send write request => exact h

section Callables

variable {uuid : UuidReader} {adapter : PrivateAdapter} {α : Type} {log : Log}

/-- Reads write nothing. -/
theorem asks_of_reads {Q : α → Log → Prop} {x : Adapter α} (h : Gives AdapterOp.isRead Q x)
    (hlog : ¬ Wrote log) : x.Asks MayWrite (fun _ log' => ¬ Wrote log') log := by
  have hstep : ∀ (log' : Log) (op : AdapterOp) (reply : Reply), ¬ Wrote log' → op.isRead →
      ¬ Wrote (log' ++ [⟨op, reply⟩]) := by
    intro log' op reply hlog' hop hwrote
    rcases wrote_append.mp hwrote with hwrote | hwrote
    · exact hlog' hwrote
    · rw [not_isWrite_of_isRead hop] at hwrote
      cases hwrote.1
  apply ((h log).keeps (I := fun log => ¬ Wrote log) hlog hstep).mono
  · intro log' op hop _
    exact hop.2
  · intro result log' hpost
    exact hpost.2

/-- What `_call` makes of the answer to its write. -/
theorem asks_settle_write {request : SdkRequest} (hlog : ¬ Wrote log) (reply : Reply) :
    (settle uuid true request.endpoint reply).Asks MayWrite Unwritten
      (log ++ [⟨.send true request, reply⟩]) := by
  cases reply with
  | apiError status =>
    by_cases hstatus : 500 ≤ status
    · simp only [settle, Bool.true_and, hstatus, decide_true, if_true]
      intro reason hreason
      cases hreason
    · simp only [settle, Bool.true_and, hstatus, decide_false, Bool.false_eq_true, if_false]
      intro reason _ hwrote
      -- The refusal below 500 takes the write back.
      rcases wrote_append.mp hwrote with hwrote | hwrote
      · exact hlog hwrote
      · have hrefuses : refuses (.apiError status) = true := decide_eq_true (not_le.mp hstatus)
        rw [hrefuses] at hwrote
        cases hwrote.2
  | failed =>
    intro reason hreason
    cases hreason
  | returned value =>
    cases value with
    | map members =>
      simp only [settle, Bool.true_and]
      split
      · intro reason hreason
        cases hreason
      · intro reason hreason
        cases hreason
    | _ =>
      intro reason hreason
      cases hreason

/-- `_call` with a write: whatever refuses it, the write had no effect. -/
theorem asks_call (request : SdkRequest) (hlog : ¬ Wrote log) :
    (call uuid adapter true request).Asks MayWrite Unwritten log := by
  unfold call
  rw [authorize_eq]
  change ((passGuard adapter) >>= fun _ => Script.request (AdapterOp.send true request) >>=
    fun reply => settle uuid true request.endpoint reply).Asks _ _ log
  unfold passGuard
  by_cases hguarded : adapter.guarded = true
  · rw [if_pos hguarded]
    refine ⟨fun hwrite => absurd hwrite Bool.false_ne_true, ?_⟩
    intro answer
    have hafter : ¬ Wrote (log ++ [⟨AdapterOp.guard, answer⟩]) := by
      intro hwrote
      rcases wrote_append.mp hwrote with hwrote | hwrote
      · exact hlog hwrote
      · cases hwrote.1
    cases answer with
    | returned value => exact ⟨fun _ => hafter, fun reply => asks_settle_write hafter reply⟩
    | apiError status => exact fun reason _ => hafter
    | failed => exact fun reason _ => hafter
  · rw [if_neg hguarded]
    exact fun reason _ => hlog

/-- A script that goes on without an operation and without a refusal. -/
def Quiet (x : Adapter α) : Prop :=
  (∃ a, x = .ret a) ∨ x = .raise .other

/-- Reads, one write, and then no operation any more. -/
theorem asks_creating {Q : SdkRequest → Log → Prop} {prepare : Adapter SdkRequest}
    {finish : Members → Adapter Value} (hprepare : Gives AdapterOp.isRead Q prepare)
    (hfinish : ∀ members, Quiet (finish members)) :
    (prepare >>= fun request => call uuid adapter true request >>= finish).Asks MayWrite Unwritten [] := by
  apply asks_bind (asks_of_reads hprepare not_wrote_nil)
  · intro request log hlog
    apply asks_bind (asks_call request hlog)
    · intro members log' _
      rcases hfinish members with ⟨value, hvalue⟩ | hother
      · rw [hvalue]
        intro reason hreason
        cases hreason
      · rw [hother]
        intro reason hreason
        cases hreason
    · intro error log' herror reason hreason
      exact herror reason (by cases hreason; rfl)
  · intro error log hlog reason _
    exact hlog

theorem firstResult_quiet (response : Members) : Quiet (firstResult response) := by
  unfold firstResult
  split
  · exact Or.inl ⟨_, rfl⟩
  · exact Or.inl ⟨_, rfl⟩
  · exact Or.inr rfl

theorem created_quiet (members : Members) : Quiet (.ret (.map members) : Adapter Value) :=
  Or.inl ⟨_, rfl⟩

theorem gives_workspaceOwner :
    Gives AdapterOp.isRead (fun _ _ => True) (workspaceOwner uuid adapter) := by
  unfold workspaceOwner
  split
  · exact gives_raise
  split
  · exact gives_raise
  apply gives_bind ((gives_call_read _).mono (fun _ _ _ => trivial))
  · intro _
    exact lasting_const _
  intro me
  apply gives_bind ((gives_dictOf _).mono (fun _ _ _ => trivial))
  · intro _
    exact lasting_const _
  intro bot
  apply gives_bind ((gives_readId _).mono (fun _ _ _ => trivial))
  · intro _
    exact lasting_const _
  intro named
  split
  · exact gives_raise
  apply gives_bind ((gives_dictOf _).mono (fun _ _ _ => trivial))
  · intro _
    exact lasting_const _
  intro owner
  split
  · exact gives_ret (fun _ _ _ _ _ => trivial)
  · exact gives_raise

theorem gives_workspaceRequest (title : String) (children : List Value) :
    Gives AdapterOp.isRead (fun _ _ => True) (workspaceRequest uuid adapter title children) := by
  unfold workspaceRequest
  apply gives_bind gives_workspaceOwner
  · intro _
    exact lasting_const _
  intro _
  apply gives_bind ((gives_referenceItems children).mono (fun _ _ _ => trivial))
  · intro _
    exact lasting_const _
  intro _
  apply gives_bind ((gives_richTitle title).mono (fun _ _ _ => trivial))
  · intro _
    exact lasting_const _
  intro titleText
  exact gives_ret (fun _ _ _ _ => trivial)

/-- A creation sends at most one write that may take effect, and a refusal says that it sent none. -/
theorem asks_callable (creation : Creation) :
    (creation.callable uuid adapter).Asks MayWrite Unwritten [] := by
  cases creation with
  | workspace title children =>
    rw [Creation.callable, createWorkspaceProduct, bind_bind]
    exact asks_creating (gives_workspaceRequest title children) created_quiet
  | page parent title children icon =>
    rw [Creation.callable, createPage, bind_bind]
    exact asks_creating (gives_request (.createPage _ title children _)) created_quiet
  | database parent title properties =>
    rw [Creation.callable, createDatabase, bind_bind]
    exact asks_creating (gives_request (.createDatabase _ title properties)) created_quiet
  | row source properties =>
    rw [Creation.callable, createRow, bind_bind]
    exact asks_creating (gives_request (.createRow _ properties)) created_quiet
  | view pageId source name filter viewType =>
    rw [Creation.callable, createLinkedView, bind_bind]
    exact asks_creating (gives_request (.createLinkedView _ _ name viewType _)) created_quiet
  | navigation pageId children =>
    rw [Creation.callable, appendBlocks, bind_bind]
    exact asks_creating (gives_request (.appendBlocks _ children)) firstResult_quiet

end Callables

/-! ## Builds that take turns -/

/-- A build, and the job and lease it runs under. -/
structure Builder where
  authority : DraftRunAuthority
  jobId : Uuid
  leaseOwner : String
  spec : ProductSpec
  runId : String
  workspaceId : Uuid

/-- `_bind`: the adapter and the ledger of a build are confined to a root. -/
def Builder.adapter (builder : Builder) (root : Uuid) : PrivateAdapter :=
  { authority := { builder.authority with verifiedNotionParentId := some root }
    root := root
    verified := rfl
    workspace := some builder.workspaceId
    guarded := true }

section Builds

variable {β : Type} [DecidableEq β] (str : Value → String) (uuid : UuidReader) (digest : String → String)
  (builders : β → Builder)

/-- The operation key of an effect. -/
def effectKey (key : String) : String := "real-notion-v1:" ++ digest key

/-- The arguments of `execute` in `_effect`. -/
def Builder.request (builder : Builder) (root : Uuid) (key : String) : EffectRequest :=
  { authority := (builder.adapter root).authority
    jobId := builder.jobId
    leaseOwner := builder.leaseOwner
    operationKey := effectKey digest key
    provider := "notion"
    operation := "notion.private_product.write"
    notionParentId := some root
    shopId := none }

/-- A call of `execute`: the build that made it, at which turn, and its arguments. -/
structure CallId (β : Type) where
  builder : β
  turn : Nat
  request : EffectRequest
  deriving DecidableEq

/-- Where a build stands: what is left of its script, and of the creation that it awaits. -/
structure BuildRun where
  script : Build Value
  turn : Nat
  work : Adapter Value
  log : Log

structure BuildSystem (β : Type) where
  drafts : DraftSystem (CallId β)
  runs : β → BuildRun
  /-- The calls whose write was sent and not refused. -/
  writes : List (CallId β)

def BuildSystem.start (store : Store) : BuildSystem β :=
  { drafts := DraftSystem.start store
    runs := fun b =>
      { script := build str uuid (builders b).authority (builders b).spec (builders b).runId
          (builders b).workspaceId
        turn := 0
        work := .ret .null
        log := [] }
    writes := [] }

inductive BuildEvent
  /-- A transaction of `execute`, the answer of its reconciling callable, or the end of the process. -/
  | call (event : CallEvent)
  /-- An answer to the creation. -/
  | reply (reply : Reply)
  /-- `execute` returned, or raised what it raised. -/
  | resumed (observed : Members)
  /-- The notification row was read. -/
  | read (result : Except DraftEffectError NotificationReading)

/-- What `execute` makes of the object that a creation returned. -/
def answerOf : Value → Answer
  | .map members => .object (str (getOr members "id" (.str "")))
  | _ => .malformed

/-- `NotionEffectUncertain` is no exception that the ledger knows. -/
def raisedBy : AdapterError → Answer
  | .refused reason => .raised (.refused reason)
  | .uncertain _ => .raised .other
  | .other => .raised .other

variable (system : BuildSystem β) (b : β) (c : CallId β)

/-- The call goes on by one event. -/
def BuildSystem.draft (event : CallEvent) : BuildSystem β :=
  { system with drafts := draftStep CallId.request system.drafts (.call c event) }

/-- The creation goes on: it ends, or it asks, and what it asks is sent. -/
def BuildSystem.enter (work : Adapter Value) (log : Log) : BuildSystem β :=
  match work with
  | .ret value => system.draft c (.answered (answerOf str value))
  | .raise error => system.draft c (.answered (raisedBy error))
  | .ask op _ =>
    { system with
      runs := Function.update system.runs b { system.runs b with work := work, log := log }
      writes := if isWrite op then system.writes ++ [c] else system.writes }

/-- An answer comes; a refused write is not counted any more. -/
def BuildSystem.reply (reply : Reply) : BuildSystem β :=
  match (system.runs b).work with
  | .ask op next =>
    let counted : BuildSystem β :=
      { system with
        writes := if isWrite op && refuses reply then system.writes.erase c else system.writes }
    counted.enter str b c (next (.ok reply)) ((system.runs b).log ++ [(⟨op, reply⟩ : Exchange _ _)])
  | _ => system

/-- The build goes on with its script. -/
def BuildSystem.resume (script : Build Value) : BuildSystem β :=
  { system with
    runs := Function.update system.runs b
      { system.runs b with script := script, turn := (system.runs b).turn + 1 } }

/-- One event of a build that awaits an effect. -/
def BuildSystem.effectStep (root : Uuid) (creation : Creation)
    (next : Except DraftEffectError Members → Build Value) (event : BuildEvent) : BuildSystem β :=
  match (system.drafts.calls c).phase with
  | .creating =>
    match event with
    | .reply reply => system.reply str b c reply
    | .call .crash => system.draft c .crash
    | _ => system
  | .returned _ =>
    match event with
    | .resumed observed => system.resume b (next (.ok observed))
    | _ => system
  | .raised error =>
    match event with
    | .resumed _ => system.resume b (next (.error error))
    | _ => system
  | _ =>
    match event with
    | .call event =>
      let stepped := system.draft c event
      if (stepped.drafts.calls c).phase = .creating then
        stepped.enter str b c (creation.callable uuid ((builders b).adapter root)) []
      else
        stepped
    | _ => system

/-- One event of a build. -/
def BuildSystem.turn (event : BuildEvent) : BuildSystem β :=
  match (system.runs b).script with
  | .ask (.effect root key creation) next =>
    system.effectStep str uuid builders b
      ⟨b, (system.runs b).turn, (builders b).request digest root key⟩ root creation next event
  | .ask (.notification ..) next =>
    match event with
    | .read result => system.resume b (next result)
    | _ => system
  | _ => system

inductive SystemEvent (β : Type)
  | build (b : β) (event : BuildEvent)
  | environment (environment : Environment)

def systemStep (system : BuildSystem β) : SystemEvent β → BuildSystem β
  | .build b event => system.turn str uuid digest builders b event
  | .environment environment =>
    { system with drafts := draftStep CallId.request system.drafts (.environment environment) }

end Builds

/-! ## One step of a call -/

section Calls

variable {request : EffectRequest} {store : Store} {call : Call}

/-- What a step can do to the write of a call: nothing, start it, or learn how it ended. -/
inductive WriteMove (call call' : Call) (event : CallEvent) : Prop
  | keeps (hstarted : call'.mutationStarted = call.mutationStarted)
      (hrefused : call'.createRefused = call.createRefused)
      (hphase : call'.phase = .creating → call.phase = .creating)
  | starts (hphase : call.phase = .rechecking) (hstarted : call'.mutationStarted = true)
      (hrefused : call'.createRefused = call.createRefused)
  | fails (error : DraftEffectError) (hphase : call.phase = .creating)
      (hevent : event = .answered (.raised error)) (hstarted : call'.mutationStarted = call.mutationStarted)
      (hrefused : call'.createRefused = error.isRefused) (hleft : call'.phase ≠ .creating)

theorem WriteMove.goto {event : CallEvent} {phase : Phase} (hphase : phase ≠ .creating) :
    WriteMove call { call with phase := phase } event :=
  .keeps rfl rfl (fun h => absurd h hphase)

theorem observe_writeMove {event : CallEvent} (objectId : String) :
    WriteMove call (call.observe objectId) event := by
  unfold Call.observe
  split
  · exact .goto (by simp)
  · exact .goto (by simp)

theorem transact_writeMove (now : Moment) (commit : Commit) :
    WriteMove call (call.transact request store now commit).2 (.transaction now commit) := by
  have hfails : ∀ error, WriteMove call { call with phase := .failing error } (.transaction now commit) :=
    fun error => .goto (by simp)
  have hraised : ∀ error, WriteMove call { call with phase := .raised error } (.transaction now commit) :=
    fun error => .goto (by simp)
  cases hat : call.phase with
  | idle =>
    simp only [Call.transact, hat]
    cases beginEffect store.db request now with
    | error error => exact hraised error
    | ok begun =>
      simp only
      have hclaimed : ∀ phase : Phase, phase ≠ .creating →
          WriteMove call { call.claimed begun.2 with phase := phase } (.transaction now commit) :=
        fun phase hphase => .keeps rfl rfl (fun h => absurd h hphase)
      refine outsideTry_call (P := fun call' => WriteMove call call' _) ?_ ?_ hraised commit
      · exact hclaimed .reconciling (by simp)
      · exact hclaimed (.raised .other) (by simp)
  | rechecking =>
    simp only [Call.transact, hat]
    refine inTry_call (P := fun call' => WriteMove call call' _) ?_ hfails commit
    exact .starts hat rfl rfl
  | preserving createdId =>
    simp only [Call.transact, hat]
    refine inTry_call (P := fun call' => WriteMove call call' _) ?_ hfails commit
    exact .goto (by simp)
  | relocking createdId =>
    simp only [Call.transact, hat]
    refine inTry_call (P := fun call' => WriteMove call call' _) ?_ hfails commit
    exact .goto (by simp)
  | failing error =>
    simp only [Call.transact, hat]
    refine outsideTry_call (P := fun call' => WriteMove call call' _) ?_ ?_ hraised commit
    · exact .keeps rfl rfl (fun h => by cases h)
    · exact .keeps rfl rfl (fun h => by cases h)
  | confirming objectId =>
    simp only [Call.transact, hat]
    refine outsideTry_call (P := fun call' => WriteMove call call' _) ?_ ?_ hraised commit
    · exact .goto (by simp)
    · exact .goto (by simp)
  | reconciling | creating | readingBack createdId | returned objectId | raised error | crashed =>
    simp only [Call.transact, hat]
    exact .keeps rfl rfl (fun h => h)

theorem receive_writeMove (answer : Answer) :
    WriteMove call (call.receive answer) (.answered answer) := by
  cases hat : call.phase with
  | reconciling =>
    cases answer with
    | none =>
      simp only [Call.receive, hat]
      split
      · exact .goto (by simp)
      · exact .goto (by simp)
    | object id =>
      simp only [Call.receive, hat]
      exact observe_writeMove id
    | malformed =>
      simp only [Call.receive, hat]
      exact .goto (by simp)
    | raised error =>
      simp only [Call.receive, hat]
      exact .goto (by simp)
  | creating =>
    cases answer with
    | object id =>
      simp only [Call.receive, hat]
      split
      · exact .keeps rfl rfl (fun h => by cases h)
      · exact .keeps rfl rfl (fun h => by cases h)
    | raised error =>
      simp only [Call.receive, hat]
      exact .fails error hat rfl rfl rfl (by simp)
    | none =>
      simp only [Call.receive, hat]
      exact .keeps rfl rfl (fun h => by cases h)
    | malformed =>
      simp only [Call.receive, hat]
      exact .keeps rfl rfl (fun h => by cases h)
  | readingBack createdId =>
    cases answer with
    | object id =>
      simp only [Call.receive, hat]
      split
      · exact observe_writeMove id
      · exact .goto (by simp)
    | none =>
      simp only [Call.receive, hat]
      exact .goto (by simp)
    | malformed =>
      simp only [Call.receive, hat]
      exact .goto (by simp)
    | raised error =>
      simp only [Call.receive, hat]
      exact .goto (by simp)
  | idle | rechecking | preserving createdId | relocking createdId | failing error
  | confirming objectId | returned objectId | raised error | crashed =>
    simp only [Call.receive, hat]
    exact .keeps rfl rfl (fun h => h)

theorem callStep_writeMove (request : EffectRequest) (store : Store) (call : Call) (event : CallEvent) :
    WriteMove call (callStep request store call event).2 event := by
  cases event with
  | transaction now commit => exact transact_writeMove now commit
  | answered answer => exact receive_writeMove answer
  | crash =>
    simp only [callStep]
    split
    · exact .keeps rfl rfl (fun h => h)
    · exact .goto (by simp)

/-- The awaited creation comes back once. -/
theorem receive_leaves (hphase : call.phase = .creating) (answer : Answer) :
    (call.receive answer).phase ≠ .creating := by
  cases answer with
  | object id =>
    simp only [Call.receive, hphase]
    split
    · simp
    · simp
  | none | malformed | raised error => simp [Call.receive, hphase]

/-- Only a write that was started can be refused, and one that is awaited was not. -/
structure Begun (call : Call) : Prop where
  quiet : call.mutationStarted = false → call.createRefused = false
  awaited : call.phase = .creating → UncertainWrite call

theorem initial_begun : Begun Call.initial where
  quiet := fun _ => rfl
  awaited := by
    intro h
    cases h

theorem callStep_begun (hok : CallOk call) (h : Begun call) (event : CallEvent) :
    Begun (callStep request store call event).2 := by
  cases callStep_writeMove request store call event with
  | keeps hstarted hrefused hphase =>
    refine ⟨?_, ?_⟩
    · rw [hstarted, hrefused]
      exact h.quiet
    · intro hcreating
      have huncertain := h.awaited (hphase hcreating)
      exact ⟨hstarted.trans huncertain.1, hrefused.trans huncertain.2⟩
  | starts hphase hstarted hrefused =>
    have hat := hok.phase
    simp only [PhaseOk, hphase] at hat
    refine ⟨?_, fun _ => ⟨hstarted, hrefused.trans (h.quiet hat.1)⟩⟩
    intro hnot
    rw [hstarted] at hnot
    cases hnot
  | fails error hphase hevent hstarted hrefused hleft =>
    refine ⟨?_, fun hcreating => absurd hcreating hleft⟩
    intro hnot
    rw [hstarted, (h.awaited hphase).1] at hnot
    cases hnot

/-- A write stays uncertain, unless its creation is refused. -/
theorem callStep_uncertain (h : UncertainWrite call) (event : CallEvent)
    (hevent : ∀ error, event = .answered (.raised error) → call.phase = .creating →
      error.isRefused = false) : UncertainWrite (callStep request store call event).2 := by
  cases callStep_writeMove request store call event with
  | keeps hstarted hrefused hphase => exact ⟨hstarted.trans h.1, hrefused.trans h.2⟩
  | starts hphase hstarted hrefused => exact ⟨hstarted, hrefused.trans h.2⟩
  | fails error hphase heq hstarted hrefused hleft =>
    exact ⟨hstarted.trans h.1, hrefused.trans (hevent error heq hphase)⟩

end Calls

/-! ## The system -/

section System

variable {β : Type} (digest : String → String) (builders : β → Builder)

/-- The call that a build awaits. -/
def currentCall (run : BuildRun) (b : β) : Option (CallId β) :=
  match run.script with
  | .ask (.effect root key _) _ => some ⟨b, run.turn, (builders b).request digest root key⟩
  | _ => none

def sendsWrite : Adapter Value → Bool
  | .ask op _ => isWrite op
  | _ => false

/-- The awaited creation keeps to its promise, and its write is counted as it should be. -/
structure Working (run : BuildRun) (counted : Prop) : Prop where
  asks : run.work.Asks MayWrite Unwritten run.log
  counted : counted ↔ Wrote run.log ∨ sendsWrite run.work = true

/-- Every counted write belongs to a call that may have taken effect, and is counted once.  The creations
of some builds are known to be followed in the count. -/
structure Sound (followed : β → Prop) (system : BuildSystem β) : Prop where
  owners : SingleOwner CallId.request system.drafts
  begun : ∀ c, Begun (system.drafts.calls c)
  nodup : system.writes.Nodup
  uncertain : ∀ c ∈ system.writes, UncertainWrite (system.drafts.calls c)
  fresh : ∀ c, (system.runs c.builder).turn < c.turn → system.drafts.calls c = Call.initial
  working : ∀ b c, followed b → currentCall digest builders (system.runs b) b = some c →
    (system.drafts.calls c).phase = .creating → Working (system.runs b) (c ∈ system.writes)

variable {digest builders} [DecidableEq β] {system : BuildSystem β} {b : β} {c : CallId β}

omit [DecidableEq β] in
theorem currentCall_spec {run : BuildRun} (h : currentCall digest builders run b = some c) :
    c.builder = b ∧ c.turn = run.turn := by
  unfold currentCall at h
  split at h
  · cases h
    exact ⟨rfl, rfl⟩
  · cases h

omit [DecidableEq β] in
/-- A build whose call does not await its creation needs no following. -/
theorem Sound.extend (h : Sound digest builders (fun b' => b' ≠ b) system)
    (hleft : ∀ c, currentCall digest builders (system.runs b) b = some c →
      (system.drafts.calls c).phase ≠ .creating) :
    Sound digest builders (fun _ => True) system :=
  { h with
    working := by
      intro b' c' _ hcurrent hphase
      by_cases hb : b' = b
      · subst hb
        exact absurd hphase (hleft c' hcurrent)
      · exact h.working b' c' hb hcurrent hphase }

omit [DecidableEq β] in
theorem Sound.forget {followed : β → Prop} (h : Sound digest builders (fun _ => True) system) :
    Sound digest builders followed system :=
  { h with working := fun b c _ => h.working b c trivial }

/-- The call of a build goes on; the other builds are as they were. -/
theorem Sound.draft (h : Sound digest builders (fun b' => b' ≠ b) system) (hbuilder : c.builder = b)
    (hturn : c.turn ≤ (system.runs b).turn) (event : CallEvent)
    (hevent : ∀ error, event = .answered (.raised error) →
      (system.drafts.calls c).phase = .creating → c ∈ system.writes → error.isRefused = false) :
    Sound digest builders (fun b' => b' ≠ b) (system.draft c event) := by
  have hself : (system.draft c event).drafts.calls c =
      (callStep c.request system.drafts.store (system.drafts.calls c) event).2 :=
    Function.update_self c _ system.drafts.calls
  have hothers : ∀ c', c' ≠ c → (system.draft c event).drafts.calls c' = system.drafts.calls c' :=
    fun c' hne => Function.update_of_ne hne _ system.drafts.calls
  refine ⟨draftStep_singleOwner system.drafts (.call c event) h.owners, ?_, h.nodup, ?_, ?_, ?_⟩
  · intro c'
    by_cases hc : c' = c
    · rw [hc, hself]
      exact callStep_begun (h.owners.ok c) (h.begun c) event
    · rw [hothers c' hc]
      exact h.begun c'
  · intro c' hmem
    by_cases hc : c' = c
    · rw [hc, hself]
      have hcounted : c ∈ system.writes := hc ▸ hmem
      exact callStep_uncertain (h.uncertain c hcounted) event
        (fun error heq hphase => hevent error heq hphase hcounted)
    · rw [hothers c' hc]
      exact h.uncertain c' hmem
  · intro c' hlater
    have hne : c' ≠ c := by
      intro hc
      subst hc
      rw [hbuilder] at hlater
      exact absurd hlater (not_lt.mpr hturn)
    rw [hothers c' hne]
    exact h.fresh c' hlater
  · intro b' c' hb hcurrent hphase
    have hne : c' ≠ c := by
      intro hc
      subst hc
      exact hb ((currentCall_spec hcurrent).1.symm.trans hbuilder)
    rw [hothers c' hne] at hphase
    exact h.working b' c' hb hcurrent hphase

/-- The creation of a build goes on, with its write counted so far. -/
theorem Sound.enter (str : Value → String) (h : Sound digest builders (fun b' => b' ≠ b) system)
    (hcurrent : currentCall digest builders (system.runs b) b = some c)
    (hphase : (system.drafts.calls c).phase = .creating) {work : Adapter Value} {log : Log}
    (hasks : work.Asks MayWrite Unwritten log) (hcounted : c ∈ system.writes ↔ Wrote log) :
    Sound digest builders (fun _ => True) (system.enter str b c work log) := by
  obtain ⟨hbuilder, hturn⟩ := currentCall_spec hcurrent
  -- A creation that ended is awaited no more.
  have hends : ∀ answer, (∀ error, answer = .raised error → c ∈ system.writes → error.isRefused = false) →
      Sound digest builders (fun _ => True) (system.draft c (.answered answer)) := by
    intro answer hanswer
    apply (h.draft hbuilder hturn.le (.answered answer)
      (fun error heq _ => hanswer error (by cases heq; rfl))).extend
    intro c' hcurrent'
    have hc : c' = c := Option.some.inj (hcurrent'.symm.trans hcurrent)
    rw [hc]
    have hself : (system.draft c (.answered answer)).drafts.calls c =
        (system.drafts.calls c).receive answer := Function.update_self c _ system.drafts.calls
    rw [hself]
    exact receive_leaves hphase answer
  cases work with
  | ret value =>
    apply hends
    intro error herror
    cases value <;> cases herror
  | raise error =>
    apply hends
    intro raised hraised hmem
    cases error with
    | refused reason => exact absurd (hcounted.mp hmem) (hasks reason rfl)
    | uncertain reason =>
      cases hraised
      rfl
    | other =>
      cases hraised
      rfl
  | ask op next =>
    have hnew : isWrite op = true → c ∉ system.writes := fun hwrite hmem =>
      hasks.1 hwrite (hcounted.mp hmem)
    have hmem : ∀ c', c' ∈ (if isWrite op then system.writes ++ [c] else system.writes) ↔
        c' ∈ system.writes ∨ (c' = c ∧ isWrite op = true) := by
      intro c'
      by_cases hwrite : isWrite op = true
      · rw [if_pos hwrite, List.mem_append, List.mem_singleton]
        exact or_congr_right ⟨fun hc => ⟨hc, hwrite⟩, fun hc => hc.1⟩
      · rw [if_neg hwrite]
        exact ⟨Or.inl, fun hc => hc.resolve_right (fun hnot => hwrite hnot.2)⟩
    refine ⟨h.owners, h.begun, ?_, ?_, ?_, ?_⟩
    · show (if isWrite op then system.writes ++ [c] else system.writes).Nodup
      split
      · rename_i hwrite
        exact List.nodup_append.mpr ⟨h.nodup, List.nodup_singleton c, by
          intro a ha a' ha' heq
          rw [List.mem_singleton] at ha'
          exact hnew hwrite (ha' ▸ heq ▸ ha)⟩
      · exact h.nodup
    · intro c' hc'
      rcases (hmem c').mp hc' with hold | ⟨hc, -⟩
      · exact h.uncertain c' hold
      · rw [hc]
        exact (h.begun c).awaited hphase
    · intro c' hlater
      by_cases hb : c'.builder = b
      · apply h.fresh c'
        simpa [BuildSystem.enter, hb] using hlater
      · apply h.fresh c'
        simpa [BuildSystem.enter, Function.update_of_ne hb] using hlater
    · intro b' c' _ hcurrent' hphase'
      by_cases hb : b' = b
      · subst hb
        have hrun : (system.enter str b' c (.ask op next) log).runs b' =
            { system.runs b' with work := .ask op next, log := log } :=
          Function.update_self b' _ system.runs
        rw [hrun] at hcurrent' ⊢
        have hc : c' = c := Option.some.inj (hcurrent'.symm.trans hcurrent)
        subst hc
        refine ⟨hasks, (hmem c').trans (or_congr hcounted ?_)⟩
        exact ⟨fun hwrite => hwrite.2, fun hwrite => ⟨rfl, hwrite⟩⟩
      · have hrun : (system.enter str b c (.ask op next) log).runs b' = system.runs b' :=
          Function.update_of_ne hb _ system.runs
        rw [hrun] at hcurrent' ⊢
        have hworking := h.working b' c' hb hcurrent' hphase'
        have hne : c' ≠ c := by
          intro hc
          exact hb ((currentCall_spec hcurrent').1.symm.trans (hc ▸ hbuilder))
        refine ⟨hworking.asks, ((hmem c').trans ?_).trans hworking.counted⟩
        exact ⟨fun hc => hc.resolve_right (fun hsame => hne hsame.1), Or.inl⟩

/-- An answer comes to a creation. -/
theorem Sound.reply (str : Value → String) (h : Sound digest builders (fun _ => True) system)
    (hcurrent : currentCall digest builders (system.runs b) b = some c)
    (hphase : (system.drafts.calls c).phase = .creating) (reply : Reply) :
    Sound digest builders (fun _ => True) (system.reply str b c reply) := by
  have hworking := h.working b c trivial hcurrent hphase
  unfold BuildSystem.reply
  cases hwork : (system.runs b).work with
  | ret value => exact h
  | raise error => exact h
  | ask op next =>
    have hasks := hworking.asks
    have hcounted := hworking.counted
    rw [hwork] at hasks hcounted
    -- What is counted after the answer.
    have hmem : ∀ c', c' ∈ (if isWrite op && refuses reply then system.writes.erase c
        else system.writes) ↔ c' ∈ system.writes ∧ ¬ (c' = c ∧ isWrite op = true ∧ refuses reply = true) := by
      intro c'
      by_cases hback : (isWrite op && refuses reply) = true
      · rw [if_pos hback, h.nodup.mem_erase_iff]
        rw [Bool.and_eq_true] at hback
        exact ⟨fun hc => ⟨hc.2, fun hnot => hc.1 hnot.1⟩, fun hc => ⟨fun hne => hc.2 ⟨hne, hback⟩, hc.1⟩⟩
      · rw [if_neg hback]
        rw [Bool.and_eq_true] at hback
        exact ⟨fun hc => ⟨hc, fun hnot => hback hnot.2⟩, fun hc => hc.1⟩
    have hafter : Sound digest builders (fun b' => b' ≠ b)
        { system with
          writes := if isWrite op && refuses reply then system.writes.erase c else system.writes } := by
      refine ⟨h.owners, h.begun, ?_, fun c' hc' => h.uncertain c' ((hmem c').mp hc').1, h.fresh, ?_⟩
      · show (if isWrite op && refuses reply then system.writes.erase c else system.writes).Nodup
        split
        · exact h.nodup.erase c
        · exact h.nodup
      · intro b' c' hb hcurrent' hphase'
        have hother := h.working b' c' trivial hcurrent' hphase'
        have hne : c' ≠ c := by
          intro hc
          exact hb ((currentCall_spec hcurrent').1.symm.trans (hc ▸ (currentCall_spec hcurrent).1))
        refine ⟨hother.asks, ((hmem c').trans ?_).trans hother.counted⟩
        exact ⟨fun hc => hc.1, fun hc => ⟨hc, fun hsame => hne hsame.1⟩⟩
    apply hafter.enter str hcurrent hphase (hasks.2 reply)
    rw [hmem c, wrote_append, hcounted]
    -- Before the answer, the write was counted because it was sent, or because one was sent before.
    constructor
    · intro hc
      rcases hc.1 with hwrote | hsent
      · exact Or.inl hwrote
      · cases hrefuses : refuses reply with
        | false => exact Or.inr ⟨hsent, rfl⟩
        | true => exact absurd ⟨rfl, hsent, hrefuses⟩ hc.2
    · intro hc
      rcases hc with hwrote | ⟨hsent, hrefuses⟩
      · exact ⟨Or.inl hwrote, fun hnot => hasks.1 hnot.2.1 hwrote⟩
      · refine ⟨Or.inr hsent, fun hnot => ?_⟩
        rw [hrefuses] at hnot
        cases hnot.2.2

/-- A build goes on: its next call has not begun. -/
theorem Sound.resume (h : Sound digest builders (fun _ => True) system) (b : β) (script : Build Value) :
    Sound digest builders (fun _ => True) (system.resume b script) := by
  have hturns : ∀ b', (system.runs b').turn ≤ ((system.resume b script).runs b').turn := by
    intro b'
    by_cases hb : b' = b
    · subst hb
      simp [BuildSystem.resume]
    · simp [BuildSystem.resume, Function.update_of_ne hb]
  refine ⟨h.owners, h.begun, h.nodup, h.uncertain, ?_, ?_⟩
  · intro c hlater
    exact h.fresh c (lt_of_le_of_lt (hturns c.builder) hlater)
  · intro b' c' _ hcurrent hphase
    by_cases hb : b' = b
    · subst hb
      obtain ⟨hbuilder, hturn⟩ := currentCall_spec hcurrent
      have hinitial : system.drafts.calls c' = Call.initial := by
        apply h.fresh c'
        rw [hturn, hbuilder]
        simp [BuildSystem.resume]
      have hidle : (system.drafts.calls c').phase = .creating := hphase
      rw [hinitial] at hidle
      cases hidle
    · have hrun : (system.resume b script).runs b' = system.runs b' :=
        Function.update_of_ne hb _ system.runs
      rw [hrun] at hcurrent ⊢
      exact h.working b' c' trivial hcurrent hphase

variable (str : Value → String) (uuid : UuidReader)

theorem Sound.effectStep (h : Sound digest builders (fun _ => True) system)
    (hcurrent : currentCall digest builders (system.runs b) b = some c) (root : Uuid) (creation : Creation)
    (next : Except DraftEffectError Members → Build Value) (event : BuildEvent) :
    Sound digest builders (fun _ => True)
      (system.effectStep str uuid builders b c root creation next event) := by
  obtain ⟨hbuilder, hturn⟩ := currentCall_spec hcurrent
  unfold BuildSystem.effectStep
  split
  · rename_i hphase
    split
    · exact h.reply str hcurrent hphase _
    · -- The process ends while the creation is awaited; its write stays counted.
      apply ((h.forget).draft hbuilder hturn.le .crash (fun error heq => by cases heq)).extend
      intro c' hcurrent'
      have hc : c' = c := Option.some.inj (hcurrent'.symm.trans hcurrent)
      have hself : (system.draft c .crash).drafts.calls c =
          (callStep c.request system.drafts.store (system.drafts.calls c) .crash).2 :=
        Function.update_self c _ system.drafts.calls
      rw [hc, hself]
      simp [callStep, hphase, Phase.finished]
    · exact h
  · split
    · exact h.resume b _
    · exact h
  · split
    · exact h.resume b _
    · exact h
  · rename_i hcreating hreturned hraised
    split
    · rename_i event
      have hstepped := (h.forget).draft hbuilder hturn.le event
        (fun error _ hphase => absurd hphase hcreating)
      dsimp only
      split
      · rename_i hphase
        -- Its write was not started before, and so is not counted.
        have hnone : c ∉ system.writes := by
          intro hmem
          have hself : (system.draft c event).drafts.calls c =
              (callStep c.request system.drafts.store (system.drafts.calls c) event).2 :=
            Function.update_self c _ system.drafts.calls
          rw [hself] at hphase
          cases callStep_writeMove c.request system.drafts.store (system.drafts.calls c) event with
          | keeps _ _ hkeeps => exact hcreating (hkeeps hphase)
          | starts hrechecking _ _ =>
            have hat := (h.owners.ok c).phase
            simp only [PhaseOk, hrechecking] at hat
            have hstarted := (h.uncertain c hmem).1
            rw [hat.1] at hstarted
            cases hstarted
          | fails _ hwas _ _ _ _ => exact hcreating hwas
        apply hstepped.enter str hcurrent hphase (asks_callable creation)
        exact ⟨fun hmem => absurd hmem hnone, fun hwrote => absurd hwrote not_wrote_nil⟩
      · rename_i hphase
        apply hstepped.extend
        intro c' hcurrent'
        have hc : c' = c := Option.some.inj (hcurrent'.symm.trans hcurrent)
        rw [hc]
        exact hphase
    · exact h

theorem Sound.turn (h : Sound digest builders (fun _ => True) system) (b : β) (event : BuildEvent) :
    Sound digest builders (fun _ => True) (system.turn str uuid digest builders b event) := by
  unfold BuildSystem.turn
  split
  · rename_i root key creation next hscript
    apply h.effectStep str uuid
    unfold currentCall
    rw [hscript]
  · split
    · exact h.resume b _
    · exact h
  · exact h

theorem systemStep_sound (system : BuildSystem β) (event : SystemEvent β)
    (h : Sound digest builders (fun _ => True) system) :
    Sound digest builders (fun _ => True) (systemStep str uuid digest builders system event) := by
  cases event with
  | build b event => exact h.turn str uuid b event
  | environment environment =>
    have hcalls : (draftStep CallId.request system.drafts (.environment environment)).calls =
        system.drafts.calls := by
      by_cases hkeeps : environment.Keeps system.drafts.store.db
      · simp [draftStep, hkeeps]
      · simp [draftStep, hkeeps]
    refine ⟨draftStep_singleOwner system.drafts (.environment environment) h.owners, ?_, h.nodup, ?_, ?_, ?_⟩
    · intro c
      simp only [systemStep, hcalls]
      exact h.begun c
    · intro c
      simp only [systemStep, hcalls]
      exact h.uncertain c
    · intro c
      simp only [systemStep, hcalls]
      exact h.fresh c
    · intro b c
      simp only [systemStep, hcalls]
      exact h.working b c

omit [DecidableEq β] in
theorem start_sound (store : Store) :
    Sound digest builders (fun _ => True) (BuildSystem.start str uuid builders store) := by
  refine ⟨start_singleOwner store, fun _ => initial_begun, List.nodup_nil, ?_, fun _ _ => rfl, ?_⟩
  · intro c hmem
    exact absurd hmem List.not_mem_nil
  · intro b c _ _ hphase
    cases hphase

omit [DecidableEq β] in
theorem length_le_one {calls : List (CallId β)} (hnodup : calls.Nodup)
    (hone : ∀ c ∈ calls, ∀ c' ∈ calls, c = c') : calls.length ≤ 1 := by
  cases calls with
  | nil => exact Nat.zero_le 1
  | cons c rest =>
    cases rest with
    | nil => exact le_refl 1
    | cons c' rest =>
      have hsame : c = c' :=
        hone c List.mem_cons_self c' (List.mem_cons_of_mem c List.mem_cons_self)
      exact absurd (hsame ▸ List.mem_cons_self) (List.nodup_cons.mp hnodup).1

/-- In every run of any number of builds, with whatever answers and interruptions, at most one write is
counted for an effect key of a job; and a creation that is refused has written nothing. -/
theorem one_write_per_effect_key (str : Value → String) (uuid : UuidReader) (digest : String → String)
    (builders : β → Builder) (store : Store) (events : List (SystemEvent β)) :
    let system := runFrom (systemStep str uuid digest builders)
      (BuildSystem.start str uuid builders store) events
    (∀ jobId key, (system.writes.filter (fun c => decide (c.request.jobId = jobId ∧
      c.request.operationKey = effectKey digest key))).length ≤ 1) ∧
    ∀ (creation : Creation) (adapter : PrivateAdapter) (log : Log) (reason : String),
      Reach (creation.callable uuid adapter) [] (.raise (.refused reason)) log → ¬ Wrote log := by
  intro system
  have h : Sound digest builders (fun _ => True) system :=
    runFrom_invariant (systemStep_sound str uuid) (start_sound str uuid store) events
  constructor
  · intro jobId key
    apply length_le_one (h.nodup.filter _)
    intro c hc c' hc'
    rw [List.mem_filter, decide_eq_true_eq] at hc hc'
    obtain ⟨key₁, howns, hderived⟩ := h.owners.owned (h.uncertain c hc.1)
    obtain ⟨key₂, howns', hderived'⟩ := h.owners.owned (h.uncertain c' hc'.1)
    have hsame : SameOperation c.request c'.request :=
      ⟨hc.2.1.trans hc'.2.1.symm, hc.2.2.trans hc'.2.2.symm⟩
    have hkey : key₁ = key₂ := hderived.unique hderived' hsame
    exact h.owners.unique c c' key₁ howns (hkey ▸ howns')
  · intro creation adapter log reason hreach
    exact (asks_callable creation).reach hreach reason rfl

end System

end NotionBuild
end Application
end MoneyMachine
