import HMaigc.LocalAgent.Contracts
import Mathlib.Data.List.Induction

/-!
# The events of a turn

`canvas-agent/src/codex-thread.ts`, `#consumeEvents`: the events of the SDK are passed on, and a
turn that completes is preceded by its final decision, the text of an agent message.

* `consumeEvents` — the generator, consumed to its end; the store is any.
* `Advances` — how far the loop comes before it is left.
* `Consumer.Decides` — what is known of the decision that is pending.
* `followsTools_iff` — exactly when the decision follows all tools and nothing follows the end.
-/

set_option autoImplicit false

namespace HMaigc

open Js

namespace LocalAgent

/-! ### Events and records -/

inductive McpToolCallStatus
  | inProgress
  | completed
  | failed
deriving DecidableEq

/-- An item of the SDK; what is not looked at is kept as it is. -/
inductive ThreadItem
  | mcpToolCall (id : String) (status : McpToolCallStatus) (details : Value)
  | agentMessage (id : String) (text : String)
  | other (details : Value)

inductive ThreadEvent
  | threadStarted (threadId : String)
  | turnStarted
  | itemStarted (item : ThreadItem)
  | itemUpdated (item : ThreadItem)
  | itemCompleted (item : ThreadItem)
  | turnCompleted (usage : Value)
  | turnFailed (message : String)
  | error (message : String)

inductive NormalizedCodexEvent
  | threadStarted (threadId sdkThreadId : String)
  | turnStarted (threadId turnId : String)
  | itemStarted (threadId turnId : String) (event : ThreadEvent)
  | itemUpdated (threadId turnId : String) (event : ThreadEvent)
  | itemCompleted (threadId turnId : String) (event : ThreadEvent)
  | finalDecision (threadId turnId : String) (decision : FinalCodexDecision)
  | turnCompleted (threadId turnId : String) (event : ThreadEvent)
  | turnFailed (threadId turnId message : String) (event : Option ThreadEvent)
  | turnCancelled (threadId turnId : String)

inductive TurnStatus
  | running
  | completed
  | failed
  | cancelled
deriving DecidableEq

inductive AttachmentKind
  | image
  | file
deriving DecidableEq

structure TurnAttachment where
  kind : AttachmentKind
  name : String
  mimeType : String

structure LocalCodexTurnRecord where
  turnId : String
  status : TurnStatus
  message : String
  attachments : List TurnAttachment
  events : List NormalizedCodexEvent
  createdAt : String
  completedAt : Option String := none
  errorMessage : Option String := none

structure LocalCodexThreadRecord where
  threadId : String
  sdkThreadId : Option String := none
  canvasId : String
  workspaceRoot : String
  model : String
  createdAt : String
  updatedAt : String
  archivedAt : Option String := none
  turns : List LocalCodexTurnRecord

/-! ### The store and the service -/

/-- What the service is given: the clock and the store, in a world that may change with each use. -/
structure CodexThreadStore (σ : Type) where
  now : σ → String
  get : String → σ → Except String (Option LocalCodexThreadRecord) × σ
  save : LocalCodexThreadRecord → σ → Except String Unit × σ

structure ActiveTurn where
  turnId : String
  threadId : String
deriving DecidableEq

/-- The turns that are active, and the world. -/
structure Service (σ : Type) where
  activeTurns : List ActiveTurn
  world : σ

/-- A turn that is consumed. -/
structure TurnIdentity where
  threadId : String
  turnId : String
  ephemeral : Bool

section

variable {σ : Type} (store : CodexThreadStore σ)

/-- `#requireThread`. -/
def requireThread (threadId : String) (world : σ) : Except String LocalCodexThreadRecord × σ :=
  match store.get threadId world with
  | (.error message, world) => (.error message, world)
  | (.ok none, world) => (.error "本机 Codex 线程不存在", world)
  | (.ok (some record), world) => (.ok record, world)

/-- The turn of a record as it is finished. -/
def finishedTurn (turnId : String) (status : TurnStatus) (events : List NormalizedCodexEvent)
    (failure : Option String) (completedAt : String) (turn : LocalCodexTurnRecord) :
    LocalCodexTurnRecord :=
  if turn.turnId ≠ turnId then turn
  else
    { turn with
      status := status
      events := events
      completedAt := some completedAt
      errorMessage := match failure with
        | none => turn.errorMessage
        | some message => some message }

/-- `#finishTurn`. -/
def finishTurn (threadId turnId : String) (status : TurnStatus)
    (events : List NormalizedCodexEvent) (failure : Option String) (world : σ) :
    Except String Unit × σ :=
  match requireThread store threadId world with
  | (.error message, world) => (.error message, world)
  | (.ok record, world) =>
    let completedAt := store.now world
    store.save { record with
      turns := record.turns.map (finishedTurn turnId status events failure completedAt)
      updatedAt := completedAt } world

/-- The status of a turn by its last event. -/
def NormalizedCodexEvent.status : Option NormalizedCodexEvent → TurnStatus
  | some (.turnCompleted _ _ _) => .completed
  | some (.turnCancelled _ _) => .cancelled
  | _ => .failed

def NormalizedCodexEvent.failure : Option NormalizedCodexEvent → Option String
  | some (.turnFailed _ _ message _) => some message
  | _ => none

/-- `#finalizeConsumedTurn`. -/
def finalizeConsumedTurn (turn : TurnIdentity) (events : List NormalizedCodexEvent)
    (service : Service σ) : Except String Unit × Service σ :=
  let activeTurns := service.activeTurns.filter (·.turnId != turn.turnId)
  if turn.ephemeral then (.ok (), ⟨activeTurns, service.world⟩)
  else
    let outcome := finishTurn store turn.threadId turn.turnId
      (NormalizedCodexEvent.status events.getLast?) events
      (NormalizedCodexEvent.failure events.getLast?) service.world
    (outcome.1, ⟨activeTurns, outcome.2⟩)

/-- `thread.started`: the SDK's identifier is written once. -/
def normalizeThreadStarted (turn : TurnIdentity) (sdkThreadId : String) (world : σ) :
    Except String NormalizedCodexEvent × σ :=
  match requireThread store turn.threadId world with
  | (.error message, world) => (.error message, world)
  | (.ok record, world) =>
    let known := record.sdkThreadId.filter (· != "")
    if known.isSome ∧ known ≠ some sdkThreadId then
      (.error "Codex SDK threadId 与本机目录记录不一致", world)
    else if known.isSome then (.ok (.threadStarted turn.threadId sdkThreadId), world)
    else
      match store.save { record with
        sdkThreadId := some sdkThreadId
        updatedAt := store.now world } world with
      | (.error message, world) => (.error message, world)
      | (.ok (), world) => (.ok (.threadStarted turn.threadId sdkThreadId), world)

/-- `#normalizeEvent`. -/
def normalizeEvent (turn : TurnIdentity) (event : ThreadEvent) (world : σ) :
    Except String NormalizedCodexEvent × σ :=
  match event with
  | .threadStarted sdkThreadId => normalizeThreadStarted store turn sdkThreadId world
  | .turnStarted => (.ok (.turnStarted turn.threadId turn.turnId), world)
  | .itemStarted _ => (.ok (.itemStarted turn.threadId turn.turnId event), world)
  | .itemUpdated _ => (.ok (.itemUpdated turn.threadId turn.turnId event), world)
  | .itemCompleted _ => (.ok (.itemCompleted turn.threadId turn.turnId event), world)
  | .turnCompleted _ => (.ok (.turnCompleted turn.threadId turn.turnId event), world)
  | .turnFailed message =>
    (.ok (.turnFailed turn.threadId turn.turnId message (some event)), world)
  | .error message => (.ok (.turnFailed turn.threadId turn.turnId message (some event)), world)

end

/-! ### The loop -/

/-- The variables of the generator, what it has yielded, and the service. -/
structure Consumer (σ : Type) where
  yields : List NormalizedCodexEvent := []
  normalizedEvents : List NormalizedCodexEvent := []
  pendingFinalDecision : Option FinalCodexDecision := none
  activeMcpToolCallIds : List String := []
  terminal : Bool := false
  finalized : Bool := false
  service : Service σ

/-- The events of the SDK in their order, the error that ends them if one does, the error of closing
them if they are left before their end, and whether the turn is aborted by the time an error is
caught. -/
structure SdkStream where
  events : List ThreadEvent
  ending : Option String := none
  closing : Option String := none
  aborted : Bool := false

/-- The tool call an event is about. -/
def ThreadEvent.toolReport : ThreadEvent → Option (String × McpToolCallStatus)
  | .itemStarted (.mcpToolCall id status _) => some (id, status)
  | .itemUpdated (.mcpToolCall id status _) => some (id, status)
  | .itemCompleted (.mcpToolCall id status _) => some (id, status)
  | _ => none

namespace Consumer

variable {σ : Type}

/-- An event is kept and yielded. -/
def emit (c : Consumer σ) (event : NormalizedCodexEvent) : Consumer σ :=
  { c with
    normalizedEvents := c.normalizedEvents ++ [event]
    yields := c.yields ++ [event] }

/-- What a tool call in progress, or one that is not, does to the decision. -/
def noteTool (c : Consumer σ) (event : ThreadEvent) : Consumer σ :=
  match event.toolReport with
  | none => c
  | some (id, .inProgress) =>
    { c with
      activeMcpToolCallIds :=
        if id ∈ c.activeMcpToolCallIds then c.activeMcpToolCallIds
        else c.activeMcpToolCallIds ++ [id]
      pendingFinalDecision := none }
  | some (id, _) =>
    { c with activeMcpToolCallIds := c.activeMcpToolCallIds.filter (· != id) }

end Consumer

/-- How one event leaves the loop: it goes on, breaks out of it, or throws. -/
inductive Turned (σ : Type)
  | goesOn (consumer : Consumer σ)
  | breaks (consumer : Consumer σ)
  | throws (consumer : Consumer σ) (message : String)

section

variable {σ : Type} (store : CodexThreadStore σ) (parsing : Parsing) (turn : TurnIdentity)

/-- An agent message: a decision, unless a tool call is in progress. -/
def agentMessage (c : Consumer σ) (event : ThreadEvent) (text : String) : Turned σ :=
  let completed := NormalizedCodexEvent.itemCompleted turn.threadId turn.turnId event
  if c.activeMcpToolCallIds = [] then
    match parseFinalCodexDecision parsing text with
    | .error message => .throws c message
    | .ok decision => .goesOn ({ c with pendingFinalDecision := some decision }.emit completed)
  else .goesOn (c.emit completed)

/-- The turn completes. -/
def turnCompletes (c : Consumer σ) (event : ThreadEvent) : Turned σ :=
  if c.activeMcpToolCallIds ≠ [] then
    .throws c ("Codex turn 完成时仍有 " ++ toString c.activeMcpToolCallIds.length ++
      " 个 MCP 工具仍在执行")
  else
    match c.pendingFinalDecision with
    | none => .throws c "Codex turn 完成但缺少结构化最终交付决策"
    | some decision =>
      let decided := c.emit (.finalDecision turn.threadId turn.turnId decision)
      let completed := NormalizedCodexEvent.turnCompleted turn.threadId turn.turnId event
      let kept := { decided with
        normalizedEvents := decided.normalizedEvents ++ [completed]
        terminal := true }
      match finalizeConsumedTurn store turn kept.normalizedEvents kept.service with
      | (.error message, service) => .throws { kept with service := service } message
      | (.ok (), service) => .breaks { kept with
          service := service
          finalized := true
          yields := kept.yields ++ [completed] }

/-- Any other event is passed on; a failure is the last. -/
def passOn (c : Consumer σ) (event : ThreadEvent) : Turned σ :=
  match normalizeEvent store turn event c.service.world with
  | (.error message, world) => .throws { c with service := ⟨c.service.activeTurns, world⟩ } message
  | (.ok normalized, world) =>
    let passed := { c with service := ⟨c.service.activeTurns, world⟩ }.emit normalized
    match normalized with
    | .turnFailed _ _ _ _ => .breaks { passed with terminal := true }
    | _ => .goesOn { passed with terminal := false }

/-- The body of the loop. -/
def consumeEvent (c : Consumer σ) (event : ThreadEvent) : Turned σ :=
  let noted := c.noteTool event
  match event with
  | .itemCompleted (.agentMessage _ text) => agentMessage parsing turn noted event text
  | .turnCompleted _ => turnCompletes store turn noted event
  | _ => passOn store turn noted event

/-- The loop, and the error that leaves it.  Breaking out of it closes the events; what closing them
after an error throws is not heard of. -/
def consumeLoop (stream : SdkStream) : Consumer σ → List ThreadEvent → Consumer σ × Option String
  | c, [] => (c, stream.ending)
  | c, event :: rest =>
    match consumeEvent store parsing turn c event with
    | .goesOn c' => consumeLoop stream c' rest
    | .breaks c' => (c', stream.closing)
    | .throws c' message => (c', some message)

/-- What follows the loop, inside the `try`. -/
def afterLoop (stream : SdkStream) (c : Consumer σ) : Option String → Consumer σ
  | none =>
    if c.terminal then c
    else c.emit (.turnFailed turn.threadId turn.turnId "Codex 事件流在终态事件前结束" none)
  | some message =>
    if stream.aborted then c.emit (.turnCancelled turn.threadId turn.turnId)
    else c.emit (.turnFailed turn.threadId turn.turnId message none)

/-- `#consumeEvents`, consumed to its end: what it yields, and the error it ends with if it does. -/
def consumeEvents (stream : SdkStream) (service : Service σ) : Consumer σ × Option String :=
  let outcome := consumeLoop store parsing turn stream { service := service } stream.events
  let c := afterLoop turn stream outcome.1 outcome.2
  if c.finalized then (c, none)
  else
    match finalizeConsumedTurn store turn c.normalizedEvents c.service with
    | (.error message, service) => ({ c with service := service }, some message)
    | (.ok (), service) => ({ c with service := service }, none)

end

/-! ### What is promised -/

/-- The events a stream ends with. -/
def NormalizedCodexEvent.isTerminal : NormalizedCodexEvent → Bool
  | .turnCompleted _ _ _ | .turnFailed _ _ _ _ | .turnCancelled _ _ => true
  | _ => false

def NormalizedCodexEvent.isDecision : NormalizedCodexEvent → Bool
  | .finalDecision _ _ _ => true
  | _ => false

def ThreadEvent.isAgentMessage : ThreadEvent → Bool
  | .itemCompleted (.agentMessage _ _) => true
  | _ => false

def ThreadEvent.isTurnCompleted : ThreadEvent → Bool
  | .turnCompleted _ => true
  | _ => false

/-- The latest report of a tool call. -/
def lastReport (id : String) (events : List ThreadEvent) : Option McpToolCallStatus :=
  ((events.filterMap ThreadEvent.toolReport).reverse.find? (·.1 == id)).map Prod.snd

def Reported (id : String) (events : List ThreadEvent) : Prop :=
  ∃ event ∈ events, ∃ status, event.toolReport = some (id, status)

/-- The tool calls of a turn have all finished before its message, and none has begun since. -/
def AllFinished (before between : List ThreadEvent) : Prop :=
  ∀ id, Reported id (before ++ between) →
    (∃ status, lastReport id before = some status ∧ status ≠ .inProgress) ∧
      ∀ event ∈ between, event.toolReport ≠ some (id, .inProgress)

/-- The stream ends with its only terminal event; and a turn completes directly after its only
decision, which is the text of a message after all tool calls. -/
structure FollowsTools (parsing : Parsing) (turn : TurnIdentity) (stream : SdkStream)
    (yields : List NormalizedCodexEvent) : Prop where
  ends : ∃ front last, yields = front ++ [last] ∧ last.isTerminal = true ∧
    ∀ event ∈ front, event.isTerminal = false
  decided : ∀ threadId turnId completed,
    NormalizedCodexEvent.turnCompleted threadId turnId completed ∈ yields →
      ∃ front decision before message text between rest,
        yields = front ++ [.finalDecision turn.threadId turn.turnId decision,
          .turnCompleted turn.threadId turn.turnId completed] ∧
        (∀ event ∈ front, event.isDecision = false) ∧
        stream.events = before ++ .itemCompleted (.agentMessage message text) :: between ++
          completed :: rest ∧
        completed.isTurnCompleted = true ∧
        (∀ event ∈ before ++ between, event.isTurnCompleted = false) ∧
        parseFinalCodexDecision parsing text = .ok decision ∧ AllFinished before between

/-- No tool call is reported for the first time after the last message. -/
def NoLateTool (events : List ThreadEvent) : Prop :=
  ∀ before message text after,
    events = before ++ .itemCompleted (.agentMessage message text) :: after →
      (∀ event ∈ after, event.isAgentMessage = false) →
        ∀ id, Reported id after → Reported id before

/-! ### Reports -/

theorem lastReport_append (id : String) (before : List ThreadEvent) (event : ThreadEvent) :
    lastReport id (before ++ [event]) =
      match event.toolReport with
      | none => lastReport id before
      | some report => if report.1 = id then some report.2 else lastReport id before := by
  rw [lastReport, List.filterMap_append, List.reverse_append]
  cases hreport : event.toolReport with
  | none => simp [hreport, lastReport]
  | some report =>
    by_cases hid : report.1 = id
    · simp [hreport, hid]
    · simp [hreport, hid, lastReport]

theorem reported_of_lastReport {id : String} {events : List ThreadEvent}
    {status : McpToolCallStatus} (h : lastReport id events = some status) :
    Reported id events := by
  obtain ⟨report, hfind, -⟩ := Option.map_eq_some_iff.mp h
  have hmem := List.mem_reverse.mp (List.mem_of_find?_eq_some hfind)
  obtain ⟨event, hevent, hreport⟩ := List.mem_filterMap.mp hmem
  have hid : report.1 = id := by
    simpa using List.find?_some hfind
  exact ⟨event, hevent, report.2, by rw [hreport, ← hid]⟩

theorem lastReport_of_reported {id : String} {events : List ThreadEvent}
    (h : Reported id events) : ∃ status, lastReport id events = some status := by
  obtain ⟨event, hevent, status, hreport⟩ := h
  have hmem : (id, status) ∈ (events.filterMap ThreadEvent.toolReport).reverse :=
    List.mem_reverse.mpr (List.mem_filterMap.mpr ⟨event, hevent, hreport⟩)
  obtain ⟨report, hfind⟩ := Option.isSome_iff_exists.mp
    (List.find?_isSome (p := (·.1 == id)) |>.mpr ⟨_, hmem, beq_self_eq_true id⟩)
  exact ⟨report.2, by rw [lastReport, hfind, Option.map_some]⟩

/-! ### How far the loop comes -/

section

variable {σ : Type} (store : CodexThreadStore σ) (parsing : Parsing) (turn : TurnIdentity)

/-- Some events are consumed, and none of them leaves the loop. -/
def advance (c : Consumer σ) : List ThreadEvent → Option (Consumer σ)
  | [] => some c
  | event :: rest =>
    match consumeEvent store parsing turn c event with
    | .goesOn c' => advance c' rest
    | _ => none

/-- The event at which the loop is broken out of. -/
structure BreaksAt (events : List ThreadEvent) (start : Consumer σ) (before : List ThreadEvent)
    (event : ThreadEvent) (rest : List ThreadEvent) (c c' : Consumer σ) : Prop where
  events : events = before ++ event :: rest
  advance : advance store parsing turn start before = some c
  breaks : consumeEvent store parsing turn c event = .breaks c'

variable {store parsing turn}

theorem advance_cons {c c' : Consumer σ} {event : ThreadEvent}
    (h : consumeEvent store parsing turn c event = .goesOn c') (rest : List ThreadEvent) :
    advance store parsing turn c (event :: rest) = advance store parsing turn c' rest := by
  rw [advance, h]

theorem advance_append (c : Consumer σ) (before after : List ThreadEvent) :
    advance store parsing turn c (before ++ after) =
      (advance store parsing turn c before).bind
        fun c' ↦ advance store parsing turn c' after := by
  induction before generalizing c with
  | nil => rfl
  | cons event rest ih =>
    rw [List.cons_append, advance, advance]
    cases consumeEvent store parsing turn c event with
    | goesOn c' => exact ih c'
    | breaks c' => rfl
    | throws c' message => rfl

variable (store parsing turn) in
/-- The loop consumes all events, or it is left at one of them. -/
theorem consumeLoop_cases (stream : SdkStream) (c : Consumer σ) (events : List ThreadEvent) :
    (∃ c', advance store parsing turn c events = some c' ∧
      consumeLoop store parsing turn stream c events = (c', stream.ending)) ∨
    (∃ before event rest c₁ c₂, BreaksAt store parsing turn events c before event rest c₁ c₂ ∧
      consumeLoop store parsing turn stream c events = (c₂, stream.closing)) ∨
    ∃ before event rest c₁ c₂ message, events = before ++ event :: rest ∧
      advance store parsing turn c before = some c₁ ∧
      consumeEvent store parsing turn c₁ event = .throws c₂ message ∧
      consumeLoop store parsing turn stream c events = (c₂, some message) := by
  induction events generalizing c with
  | nil => exact Or.inl ⟨c, rfl, rfl⟩
  | cons event rest ih =>
    rw [consumeLoop]
    cases hevent : consumeEvent store parsing turn c event with
    | breaks c' => exact Or.inr (Or.inl ⟨[], event, rest, c, c', ⟨rfl, rfl, hevent⟩, rfl⟩)
    | throws c' message =>
      exact Or.inr (Or.inr ⟨[], event, rest, c, c', message, rfl, rfl, hevent, rfl⟩)
    | goesOn c' =>
      rcases ih c' with ⟨c'', hadvance, hloop⟩ |
          ⟨before, event', rest', c₁, c₂, hbreaks, hloop⟩ |
          ⟨before, event', rest', c₁, c₂, message, hevents, hadvance, hthrows, hloop⟩
      · exact Or.inl ⟨c'', by rw [advance_cons hevent, hadvance], hloop⟩
      · refine Or.inr (Or.inl ⟨event :: before, event', rest', c₁, c₂, ⟨?_, ?_, hbreaks.breaks⟩,
          hloop⟩)
        · rw [List.cons_append, hbreaks.events]
        · rw [advance_cons hevent, hbreaks.advance]
      · refine Or.inr (Or.inr ⟨event :: before, event', rest', c₁, c₂, message, ?_, ?_, hthrows,
          hloop⟩)
        · rw [List.cons_append, hevents]
        · rw [advance_cons hevent, hadvance]

/-- Where the loop is left, it does not go on. -/
theorem advance_eq_none {c c₁ : Consumer σ} {before after : List ThreadEvent}
    {event : ThreadEvent} (hadvance : advance store parsing turn c before = some c₁)
    (hleft : ∀ c₂, consumeEvent store parsing turn c₁ event ≠ .goesOn c₂) :
    advance store parsing turn c (before ++ event :: after) = none := by
  rw [advance_append, hadvance, Option.bind_some, advance]
  cases hevent : consumeEvent store parsing turn c₁ event with
  | goesOn c₂ => exact absurd hevent (hleft c₂)
  | breaks c₂ => rfl
  | throws c₂ message => rfl

theorem BreaksAt.not_goesOn {events before rest : List ThreadEvent} {start c c' : Consumer σ}
    {event : ThreadEvent} (h : BreaksAt store parsing turn events start before event rest c c')
    (c₂ : Consumer σ) : consumeEvent store parsing turn c event ≠ .goesOn c₂ := by
  rw [h.breaks]
  exact fun heq ↦ by cases heq

/-- The loop is left at one event only. -/
theorem left_once {start c₁ c₁' : Consumer σ} {before before' rest rest' : List ThreadEvent}
    {event event' : ThreadEvent} (heq : before ++ event :: rest = before' ++ event' :: rest')
    (hadvance : advance store parsing turn start before = some c₁)
    (hleft : ∀ c₂, consumeEvent store parsing turn c₁ event ≠ .goesOn c₂)
    (hadvance' : advance store parsing turn start before' = some c₁')
    (hleft' : ∀ c₂, consumeEvent store parsing turn c₁' event' ≠ .goesOn c₂) :
    before = before' ∧ event = event' ∧ c₁ = c₁' := by
  have hlength : before.length = before'.length := by
    by_contra hne
    rcases List.append_eq_append_iff.mp heq with ⟨between, hbefore, hrest⟩ |
        ⟨between, hbefore, hrest⟩
    · cases between with
      | nil => exact hne (by simp [hbefore])
      | cons e between =>
        rw [List.cons_append, List.cons.injEq] at hrest
        rw [hbefore, ← hrest.1, advance_eq_none hadvance hleft] at hadvance'
        cases hadvance'
    · cases between with
      | nil => exact hne (by simp [hbefore])
      | cons e between =>
        rw [List.cons_append, List.cons.injEq] at hrest
        rw [hbefore, ← hrest.1, advance_eq_none hadvance' hleft'] at hadvance
        cases hadvance
  obtain ⟨rfl, hrest⟩ := List.append_inj heq hlength
  rw [List.cons.injEq] at hrest
  rw [hadvance, Option.some.injEq] at hadvance'
  exact ⟨rfl, hrest.1, hadvance'⟩

/-! ### What one event does -/

theorem noteTool_yields (c : Consumer σ) (event : ThreadEvent) :
    (c.noteTool event).yields = c.yields ∧ (c.noteTool event).finalized = c.finalized ∧
      (c.noteTool event).terminal = c.terminal ∧ (c.noteTool event).service = c.service ∧
      (c.noteTool event).normalizedEvents = c.normalizedEvents := by
  rw [Consumer.noteTool]
  split <;> exact ⟨rfl, rfl, rfl, rfl, rfl⟩

/-- The tool calls in progress are those last reported so. -/
theorem mem_active_noteTool {c : Consumer σ} {before : List ThreadEvent}
    (h : ∀ id, id ∈ c.activeMcpToolCallIds ↔ lastReport id before = some .inProgress)
    (event : ThreadEvent) (id : String) :
    id ∈ (c.noteTool event).activeMcpToolCallIds ↔
      lastReport id (before ++ [event]) = some .inProgress := by
  rw [Consumer.noteTool, lastReport_append]
  rcases hreport : event.toolReport with _ | ⟨reported, status⟩
  · exact h id
  · by_cases hid : reported = id
    · subst hid
      cases status with
      | inProgress => by_cases hmem : reported ∈ c.activeMcpToolCallIds <;> simp [hmem]
      | completed => simp
      | failed => simp
    · cases status with
      | inProgress =>
        by_cases hmem : reported ∈ c.activeMcpToolCallIds <;> simp [hmem, hid, Ne.symm hid, h id]
      | completed => simp [hid, Ne.symm hid, h id]
      | failed => simp [hid, Ne.symm hid, h id]

/-- A decision that is still pending has seen no tool call begin. -/
theorem pending_noteTool {c : Consumer σ} {event : ThreadEvent} {decision : FinalCodexDecision}
    (h : (c.noteTool event).pendingFinalDecision = some decision) :
    c.pendingFinalDecision = some decision ∧
      ∀ id, event.toolReport ≠ some (id, .inProgress) := by
  rw [Consumer.noteTool] at h
  rcases hreport : event.toolReport with _ | ⟨reported, status⟩
  · rw [hreport] at h
    exact ⟨h, fun id heq ↦ by cases heq⟩
  · rw [hreport] at h
    cases status with
    | inProgress => cases h
    | completed => exact ⟨h, fun id heq ↦ by cases heq⟩
    | failed => exact ⟨h, fun id heq ↦ by cases heq⟩

variable (parsing turn) in
theorem agentMessage_cases (c : Consumer σ) (event : ThreadEvent) (text : String) :
    (∃ message, agentMessage parsing turn c event text = .throws c message) ∨
    (c.activeMcpToolCallIds = [] ∧ ∃ decision, parseFinalCodexDecision parsing text = .ok decision ∧
      agentMessage parsing turn c event text =
        .goesOn ({ c with pendingFinalDecision := some decision }.emit
          (.itemCompleted turn.threadId turn.turnId event))) ∨
    c.activeMcpToolCallIds ≠ [] ∧ agentMessage parsing turn c event text =
      .goesOn (c.emit (.itemCompleted turn.threadId turn.turnId event)) := by
  rw [agentMessage]
  by_cases hactive : c.activeMcpToolCallIds = []
  · rw [if_pos hactive]
    cases hparse : parseFinalCodexDecision parsing text with
    | error message => exact Or.inl ⟨message, rfl⟩
    | ok decision => exact Or.inr (Or.inl ⟨hactive, decision, rfl, rfl⟩)
  · rw [if_neg hactive]
    exact Or.inr (Or.inr ⟨hactive, rfl⟩)

variable (store turn) in
theorem turnCompletes_cases (c : Consumer σ) (event : ThreadEvent) :
    (∃ message, turnCompletes store turn c event = .throws c message) ∨
    ∃ decision, c.activeMcpToolCallIds = [] ∧ c.pendingFinalDecision = some decision ∧
      ((∃ c' message, turnCompletes store turn c event = .throws c' message ∧
        c'.finalized = c.finalized ∧
        c'.yields = c.yields ++ [.finalDecision turn.threadId turn.turnId decision]) ∨
      ∃ c', turnCompletes store turn c event = .breaks c' ∧ c'.terminal = true ∧
        c'.yields = c.yields ++ [.finalDecision turn.threadId turn.turnId decision,
          .turnCompleted turn.threadId turn.turnId event]) := by
  rw [turnCompletes]
  by_cases hactive : c.activeMcpToolCallIds = []
  · rw [if_neg (not_not.mpr hactive)]
    cases hpending : c.pendingFinalDecision with
    | none => exact Or.inl ⟨_, rfl⟩
    | some decision =>
      refine Or.inr ⟨decision, hactive, rfl, ?_⟩
      simp only
      generalize finalizeConsumedTurn store turn _ _ = outcome
      obtain ⟨result, service⟩ := outcome
      cases result with
      | error message => exact Or.inl ⟨_, _, rfl, rfl, rfl⟩
      | ok _ => exact Or.inr ⟨_, rfl, rfl, by simp [Consumer.emit]⟩
  · rw [if_pos hactive]
    exact Or.inl ⟨_, rfl⟩

theorem normalizeThreadStarted_eq_ok {sdkThreadId : String} {world world' : σ}
    {normalized : NormalizedCodexEvent}
    (h : normalizeThreadStarted store turn sdkThreadId world = (.ok normalized, world')) :
    normalized = .threadStarted turn.threadId sdkThreadId := by
  rw [normalizeThreadStarted] at h
  split at h
  · cases h
  simp only at h
  split_ifs at h
  · cases h
  · cases h
    rfl
  · split at h
    · cases h
    · cases h
      rfl

/-- What is passed on is no decision, and no end but a failure. -/
theorem normalizeEvent_eq_ok {event : ThreadEvent} {world world' : σ}
    {normalized : NormalizedCodexEvent}
    (h : normalizeEvent store turn event world = (.ok normalized, world')) :
    normalized.isDecision = false ∧ (event.isTurnCompleted = false →
      (∃ threadId turnId message origin,
        normalized = .turnFailed threadId turnId message origin) ∨
      normalized.isTerminal = false) := by
  cases event with
  | threadStarted sdkThreadId =>
    rw [normalizeThreadStarted_eq_ok h]
    exact ⟨rfl, fun _ ↦ Or.inr rfl⟩
  | turnCompleted usage =>
    cases h
    exact ⟨rfl, fun hno ↦ absurd hno (by simp [ThreadEvent.isTurnCompleted])⟩
  | turnFailed message =>
    cases h
    exact ⟨rfl, fun _ ↦ Or.inl ⟨_, _, _, _, rfl⟩⟩
  | error message =>
    cases h
    exact ⟨rfl, fun _ ↦ Or.inl ⟨_, _, _, _, rfl⟩⟩
  | turnStarted =>
    cases h
    exact ⟨rfl, fun _ ↦ Or.inr rfl⟩
  | itemStarted item =>
    cases h
    exact ⟨rfl, fun _ ↦ Or.inr rfl⟩
  | itemUpdated item =>
    cases h
    exact ⟨rfl, fun _ ↦ Or.inr rfl⟩
  | itemCompleted item =>
    cases h
    exact ⟨rfl, fun _ ↦ Or.inr rfl⟩

variable (store turn) in
theorem passOn_cases (c : Consumer σ) (event : ThreadEvent) :
    (∃ c' message, passOn store turn c event = .throws c' message ∧ c'.yields = c.yields ∧
      c'.finalized = c.finalized) ∨
    (∃ c' threadId turnId message origin, passOn store turn c event = .breaks c' ∧
      c'.terminal = true ∧ c'.finalized = c.finalized ∧
      c'.yields = c.yields ++ [.turnFailed threadId turnId message origin]) ∨
    ∃ c' normalized, passOn store turn c event = .goesOn c' ∧ c'.terminal = false ∧
      c'.finalized = c.finalized ∧ c'.activeMcpToolCallIds = c.activeMcpToolCallIds ∧
      c'.pendingFinalDecision = c.pendingFinalDecision ∧
      (event.isTurnCompleted = false → normalized.isTerminal = false) ∧
      normalized.isDecision = false ∧ c'.yields = c.yields ++ [normalized] := by
  rw [passOn]
  rcases hnormal : normalizeEvent store turn event c.service.world with ⟨_ | normalized, world⟩
  · exact Or.inl ⟨_, _, rfl, rfl, rfl⟩
  · obtain ⟨hdecision, hkind⟩ := normalizeEvent_eq_ok hnormal
    right
    cases normalized with
    | turnFailed threadId turnId message origin =>
      exact Or.inl ⟨_, threadId, turnId, message, origin, rfl, rfl, rfl, rfl⟩
    | turnCompleted threadId turnId origin =>
      exact Or.inr ⟨_, .turnCompleted threadId turnId origin, rfl, rfl, rfl, rfl, rfl,
        fun hno ↦ (hkind hno).resolve_left (by simp), hdecision, rfl⟩
    | turnCancelled threadId turnId =>
      exact Or.inr ⟨_, .turnCancelled threadId turnId, rfl, rfl, rfl, rfl, rfl,
        fun hno ↦ (hkind hno).resolve_left (by simp), hdecision, rfl⟩
    | finalDecision threadId turnId decision => cases hdecision
    | threadStarted threadId sdkThreadId =>
      exact Or.inr ⟨_, _, rfl, rfl, rfl, rfl, rfl, fun _ ↦ rfl, rfl, rfl⟩
    | turnStarted threadId turnId =>
      exact Or.inr ⟨_, _, rfl, rfl, rfl, rfl, rfl, fun _ ↦ rfl, rfl, rfl⟩
    | itemStarted threadId turnId origin =>
      exact Or.inr ⟨_, _, rfl, rfl, rfl, rfl, rfl, fun _ ↦ rfl, rfl, rfl⟩
    | itemUpdated threadId turnId origin =>
      exact Or.inr ⟨_, _, rfl, rfl, rfl, rfl, rfl, fun _ ↦ rfl, rfl, rfl⟩
    | itemCompleted threadId turnId origin =>
      exact Or.inr ⟨_, _, rfl, rfl, rfl, rfl, rfl, fun _ ↦ rfl, rfl, rfl⟩

variable (store parsing turn) in
/-- Which part of the body an event goes to. -/
theorem consumeEvent_eq (c : Consumer σ) (event : ThreadEvent) :
    (∃ message text, event = .itemCompleted (.agentMessage message text) ∧
      consumeEvent store parsing turn c event = agentMessage parsing turn c event text) ∨
    (event.isTurnCompleted = true ∧
      consumeEvent store parsing turn c event = turnCompletes store turn c event) ∨
    event.isTurnCompleted = false ∧ event.isAgentMessage = false ∧
      consumeEvent store parsing turn c event = passOn store turn (c.noteTool event) event := by
  cases event with
  | itemCompleted item =>
    cases item with
    | agentMessage message text => exact Or.inl ⟨message, text, rfl, rfl⟩
    | mcpToolCall id status details => exact Or.inr (Or.inr ⟨rfl, rfl, rfl⟩)
    | other details => exact Or.inr (Or.inr ⟨rfl, rfl, rfl⟩)
  | turnCompleted usage => exact Or.inr (Or.inl ⟨rfl, rfl⟩)
  | threadStarted _ | turnStarted | itemStarted _ | itemUpdated _ | turnFailed _ | error _ =>
    exact Or.inr (Or.inr ⟨rfl, rfl, rfl⟩)

theorem consumeEvent_throws {c c' : Consumer σ} {event : ThreadEvent} {message : String}
    (h : consumeEvent store parsing turn c event = .throws c' message) :
    c'.finalized = c.finalized ∧ (c'.yields = c.yields ∨ ∃ decision,
      c'.yields = c.yields ++ [.finalDecision turn.threadId turn.turnId decision]) := by
  rcases consumeEvent_eq store parsing turn c event with
    ⟨_, text, -, heq⟩ | ⟨-, heq⟩ | ⟨-, -, heq⟩
  · rcases agentMessage_cases parsing turn c event text with
      ⟨_, hcase⟩ | ⟨-, _, -, hcase⟩ | ⟨-, hcase⟩
    all_goals rw [heq, hcase] at h
    all_goals cases h
    exact ⟨rfl, Or.inl rfl⟩
  · rcases turnCompletes_cases store turn c event with
      ⟨_, hcase⟩ | ⟨decision, -, -, ⟨_, _, hcase, hfinalized, hyields⟩ | ⟨_, hcase, -⟩⟩
    all_goals rw [heq, hcase] at h
    all_goals cases h
    · exact ⟨rfl, Or.inl rfl⟩
    · exact ⟨hfinalized, Or.inr ⟨decision, hyields⟩⟩
  · obtain ⟨hyields, hfinalized, -⟩ := noteTool_yields c event
    rcases passOn_cases store turn (c.noteTool event) event with
      ⟨_, _, hcase, hyields', hfinalized'⟩ | ⟨_, _, _, _, _, hcase, -⟩ | ⟨_, _, hcase, -⟩
    all_goals rw [heq, hcase] at h
    all_goals cases h
    exact ⟨hfinalized'.trans hfinalized, Or.inl (hyields'.trans hyields)⟩

/-- The loop is broken out of when the turn has completed, or has failed. -/
theorem consumeEvent_breaks {c c' : Consumer σ} {event : ThreadEvent}
    (h : consumeEvent store parsing turn c event = .breaks c') :
    c'.terminal = true ∧
      ((event.isTurnCompleted = true ∧ ∃ decision, c.activeMcpToolCallIds = [] ∧
          c.pendingFinalDecision = some decision ∧
          c'.yields = c.yields ++ [.finalDecision turn.threadId turn.turnId decision,
            .turnCompleted turn.threadId turn.turnId event]) ∨
        event.isTurnCompleted = false ∧ ∃ threadId turnId message origin,
          c'.yields = c.yields ++ [.turnFailed threadId turnId message origin]) := by
  rcases consumeEvent_eq store parsing turn c event with
    ⟨_, text, -, heq⟩ | ⟨hcompleted, heq⟩ | ⟨hother, -, heq⟩
  · rcases agentMessage_cases parsing turn c event text with
      ⟨_, hcase⟩ | ⟨-, _, -, hcase⟩ | ⟨-, hcase⟩
    all_goals rw [heq, hcase] at h
    all_goals cases h
  · rcases turnCompletes_cases store turn c event with
      ⟨_, hcase⟩ |
      ⟨decision, hactive, hpending, ⟨_, _, hcase, -⟩ | ⟨_, hcase, hterminal, hyields⟩⟩
    all_goals rw [heq, hcase] at h
    all_goals cases h
    exact ⟨hterminal, Or.inl ⟨hcompleted, decision, hactive, hpending, hyields⟩⟩
  · obtain ⟨hyields, -⟩ := noteTool_yields c event
    rcases passOn_cases store turn (c.noteTool event) event with
      ⟨_, _, hcase, -⟩ | ⟨_, _, _, _, _, hcase, hterminal, -, hyields'⟩ | ⟨_, _, hcase, -⟩
    all_goals rw [heq, hcase] at h
    all_goals cases h
    exact ⟨hterminal, Or.inr ⟨hother, _, _, _, _, by rw [hyields', hyields]⟩⟩

/-- An event the loop goes on after. -/
theorem consumeEvent_goesOn {c c' : Consumer σ} {event : ThreadEvent}
    (h : consumeEvent store parsing turn c event = .goesOn c') :
    event.isTurnCompleted = false ∧
      (∃ normalized, normalized.isTerminal = false ∧ normalized.isDecision = false ∧
        c'.yields = c.yields ++ [normalized]) ∧
      c'.finalized = c.finalized ∧ (c.terminal = false → c'.terminal = false) ∧
      c'.activeMcpToolCallIds = (c.noteTool event).activeMcpToolCallIds ∧
      ((∃ message text decision, event = .itemCompleted (.agentMessage message text) ∧
          c.activeMcpToolCallIds = [] ∧ parseFinalCodexDecision parsing text = .ok decision ∧
          c'.pendingFinalDecision = some decision) ∨
        (event.isAgentMessage = true → c.activeMcpToolCallIds ≠ []) ∧
          c'.pendingFinalDecision = (c.noteTool event).pendingFinalDecision) := by
  rcases consumeEvent_eq store parsing turn c event with
    ⟨message, text, rfl, heq⟩ | ⟨hcompleted, heq⟩ | ⟨hother, hmessage, heq⟩
  · refine ⟨rfl, ?_⟩
    rcases agentMessage_cases parsing turn c
        (.itemCompleted (.agentMessage message text)) text with
      ⟨_, hcase⟩ | ⟨hactive, decision, hparse, hcase⟩ | ⟨hactive, hcase⟩
    all_goals rw [heq, hcase] at h
    all_goals cases h
    · exact ⟨⟨_, rfl, rfl, rfl⟩, rfl, id, rfl,
        Or.inl ⟨message, text, decision, rfl, hactive, hparse, rfl⟩⟩
    · exact ⟨⟨_, rfl, rfl, rfl⟩, rfl, id, rfl, Or.inr ⟨fun _ ↦ hactive, rfl⟩⟩
  · rcases turnCompletes_cases store turn c event with
      ⟨_, hcase⟩ | ⟨_, -, -, ⟨_, _, hcase, -⟩ | ⟨_, hcase, -⟩⟩
    all_goals rw [heq, hcase] at h
    all_goals cases h
  · obtain ⟨hyields, hfinalized, -⟩ := noteTool_yields c event
    rcases passOn_cases store turn (c.noteTool event) event with
      ⟨_, _, hcase, -⟩ | ⟨_, _, _, _, _, hcase, -⟩ |
      ⟨_, normalized, hcase, hterminal, hfinalized', hactive, hpending, hkind, hdecision, hyields'⟩
    all_goals rw [heq, hcase] at h
    all_goals cases h
    refine ⟨hother, ⟨normalized, hkind hother, hdecision, by rw [hyields', hyields]⟩,
      hfinalized'.trans hfinalized, fun _ ↦ hterminal, hactive, Or.inr ⟨?_, hpending⟩⟩
    intro hagent
    rw [hmessage] at hagent
    cases hagent

/-! ### The decision that is pending -/

/-- What is known after some events: the tool calls in progress, and which message the decision is
the text of. -/
structure Consumer.Knows (parsing : Parsing) (before : List ThreadEvent) (c : Consumer σ) :
    Prop where
  yields : ∀ event ∈ c.yields, event.isTerminal = false ∧ event.isDecision = false
  terminal : c.terminal = false
  finalized : c.finalized = false
  uncompleted : ∀ event ∈ before, event.isTurnCompleted = false
  active : ∀ id, id ∈ c.activeMcpToolCallIds ↔ lastReport id before = some .inProgress
  decides : ∀ decision, c.pendingFinalDecision = some decision →
    ∃ front message text back,
      before = front ++ .itemCompleted (.agentMessage message text) :: back ∧
      parseFinalCodexDecision parsing text = .ok decision ∧
      (∀ id, lastReport id front ≠ some .inProgress) ∧
      (∀ event ∈ back, ∀ id, event.toolReport ≠ some (id, .inProgress)) ∧
      ∀ event ∈ back, event.isAgentMessage = false

/-- While a decision is pending, no tool call is in progress. -/
theorem Consumer.Knows.active_eq_nil {c : Consumer σ} {before : List ThreadEvent}
    (h : c.Knows parsing before) {decision : FinalCodexDecision}
    (hpending : c.pendingFinalDecision = some decision) : c.activeMcpToolCallIds = [] := by
  obtain ⟨front, message, text, back, rfl, -, hfront, hback, -⟩ := h.decides decision hpending
  refine List.eq_nil_iff_forall_not_mem.mpr fun id hid ↦ ?_
  have hlast := (h.active id).mp hid
  clear h hid hpending
  induction back using List.reverseRecOn with
  | nil =>
    rw [lastReport_append] at hlast
    exact hfront id hlast
  | append_singleton back event ih =>
    rw [← List.cons_append, ← List.append_assoc, lastReport_append] at hlast
    have hone := hback event (by simp)
    cases hreport : event.toolReport with
    | none =>
      rw [hreport] at hlast
      exact ih (fun e he ↦ hback e (by simp [he])) hlast
    | some report =>
      rw [hreport] at hlast
      by_cases hid : report.1 = id
      · simp only [if_pos hid, Option.some.injEq] at hlast
        exact hone id (by rw [hreport, ← hid, ← hlast])
      · simp only [if_neg hid] at hlast
        exact ih (fun e he ↦ hback e (by simp [he])) hlast

/-- **What is known is known after one event more.** -/
theorem Consumer.Knows.step {c c' : Consumer σ} {before : List ThreadEvent} {event : ThreadEvent}
    (h : c.Knows parsing before)
    (hstep : consumeEvent store parsing turn c event = .goesOn c') :
    c'.Knows parsing (before ++ [event]) := by
  obtain ⟨huncompleted, ⟨normalized, hkind, hdecision, hyields⟩, hfinalized, hterminal, hactive,
    hpending⟩ := consumeEvent_goesOn hstep
  constructor
  · intro e he
    rw [hyields] at he
    rcases List.mem_append.mp he with he | he
    · exact h.yields e he
    · rw [List.mem_singleton.mp he]
      exact ⟨hkind, hdecision⟩
  · exact hterminal h.terminal
  · rw [hfinalized, h.finalized]
  · intro e he
    rcases List.mem_append.mp he with he | he
    · exact h.uncompleted e he
    · rw [List.mem_singleton.mp he, huncompleted]
  · intro id
    rw [hactive]
    exact mem_active_noteTool h.active event id
  · intro decision hdecides
    rcases hpending with ⟨message, text, parsed, rfl, hnone, hparse, hsome⟩ | ⟨hbusy, hsame⟩
    · rw [hsome, Option.some.injEq] at hdecides
      subst hdecides
      refine ⟨before, message, text, [], rfl, hparse, fun id hlast ↦ ?_, by simp, by simp⟩
      have hmem := (h.active id).mpr hlast
      rw [hnone] at hmem
      exact absurd hmem List.not_mem_nil
    · rw [hsame] at hdecides
      obtain ⟨hbefore, hquiet⟩ := pending_noteTool hdecides
      obtain ⟨front, message, text, back, rfl, hparse, hfront, hback, hlast⟩ :=
        h.decides decision hbefore
      refine ⟨front, message, text, back ++ [event], by simp, hparse, hfront, ?_, ?_⟩
      · intro e he
        rcases List.mem_append.mp he with he | he
        · exact hback e he
        · rw [List.mem_singleton.mp he]
          exact hquiet
      · intro e he
        rcases List.mem_append.mp he with he | he
        · exact hlast e he
        · rw [List.mem_singleton.mp he]
          by_contra hagent
          exact hbusy (by simpa using hagent) (h.active_eq_nil hbefore)

theorem Consumer.Knows.advance {c c' : Consumer σ} {before after : List ThreadEvent}
    (h : c.Knows parsing before)
    (hadvance : LocalAgent.advance store parsing turn c after = some c') :
    c'.Knows parsing (before ++ after) := by
  induction after generalizing c before with
  | nil =>
    rw [LocalAgent.advance, Option.some.injEq] at hadvance
    subst hadvance
    rwa [List.append_nil]
  | cons event rest ih =>
    rw [LocalAgent.advance] at hadvance
    cases hevent : consumeEvent store parsing turn c event with
    | goesOn c₁ =>
      rw [hevent] at hadvance
      have hrest := ih (h.step hevent) hadvance
      rwa [List.append_assoc] at hrest
    | breaks c₁ =>
      rw [hevent] at hadvance
      cases hadvance
    | throws c₁ message =>
      rw [hevent] at hadvance
      cases hadvance

theorem Consumer.knows_start (service : Service σ) :
    ({ service := service } : Consumer σ).Knows parsing [] := by
  constructor <;> simp [lastReport]

/-! ### The end of a stream -/

/-- What is yielded, is yielded by the end of the `try`. -/
theorem yields_consumeEvents (stream : SdkStream) (service : Service σ) :
    (consumeEvents store parsing turn stream service).1.yields =
      (afterLoop turn stream
        (consumeLoop store parsing turn stream { service := service } stream.events).1
        (consumeLoop store parsing turn stream { service := service } stream.events).2).yields := by
  rw [consumeEvents]
  split
  · rfl
  · split <;> rfl

/-- An error that is caught is the end. -/
theorem yields_afterLoop_caught (turn : TurnIdentity) (stream : SdkStream) (c : Consumer σ)
    (message : String) :
    ∃ last, (afterLoop turn stream c (some message)).yields = c.yields ++ [last] ∧
      last.isTerminal = true ∧
      ∀ threadId turnId completed, last ≠ .turnCompleted threadId turnId completed := by
  rw [afterLoop]
  split
  · exact ⟨_, rfl, rfl, fun _ _ _ heq ↦ by cases heq⟩
  · exact ⟨_, rfl, rfl, fun _ _ _ heq ↦ by cases heq⟩

/-- A stream that ends without a completed turn. -/
theorem followsTools_of_last {stream : SdkStream} {front : List NormalizedCodexEvent}
    {last : NormalizedCodexEvent} (hfront : ∀ event ∈ front, event.isTerminal = false)
    (hlast : last.isTerminal = true)
    (hother : ∀ threadId turnId completed, last ≠ .turnCompleted threadId turnId completed) :
    FollowsTools parsing turn stream (front ++ [last]) := by
  refine ⟨⟨front, last, rfl, hlast, hfront⟩, fun threadId turnId completed hmem ↦ ?_⟩
  rcases List.mem_append.mp hmem with hmem | hmem
  · exact absurd (hfront _ hmem) (by simp [NormalizedCodexEvent.isTerminal])
  · exact absurd (List.mem_singleton.mp hmem).symm (hother _ _ _)

/-- Two ends are not one. -/
theorem not_followsTools_of_two {stream : SdkStream} {front : List NormalizedCodexEvent}
    {first last : NormalizedCodexEvent} (hfirst : first.isTerminal = true) :
    ¬ FollowsTools parsing turn stream (front ++ [first] ++ [last]) := by
  intro h
  obtain ⟨front', last', heq, -, hfront'⟩ := h.ends
  obtain ⟨rfl, -⟩ := List.append_inj' heq rfl
  exact absurd (hfront' first (by simp)) (by simp [hfirst])

theorem reported_append {id : String} {first second : List ThreadEvent} :
    Reported id (first ++ second) ↔ Reported id first ∨ Reported id second := by
  simp only [Reported, List.mem_append, or_and_right, exists_or]

/-- With the last message known, the tool calls have all finished before it exactly when none is
reported for the first time after it. -/
theorem allFinished_of_noLateTool {front back : List ThreadEvent} {message text : String}
    (hfront : ∀ id, lastReport id front ≠ some .inProgress)
    (hback : ∀ event ∈ back, ∀ id, event.toolReport ≠ some (id, .inProgress))
    (hlast : ∀ event ∈ back, event.isAgentMessage = false)
    (hlate : NoLateTool (front ++ .itemCompleted (.agentMessage message text) :: back)) :
    AllFinished front back := by
  intro id hreported
  have hfirst : Reported id front := by
    rcases reported_append.mp hreported with h | h
    · exact h
    · exact hlate front message text back rfl hlast id h
  obtain ⟨status, hstatus⟩ := lastReport_of_reported hfirst
  exact ⟨⟨status, hstatus, fun heq ↦ hfront id (by rw [hstatus, heq])⟩,
    fun event hevent ↦ hback event hevent id⟩

theorem noLateTool_of_allFinished {front back : List ThreadEvent} {message text : String}
    (hfinished : AllFinished front back) :
    NoLateTool (front ++ .itemCompleted (.agentMessage message text) :: back) := by
  intro before message' text' after heq hafter id hreported
  -- The other message is the last one, so that it is this one or comes later.
  rcases List.append_eq_append_iff.mp heq with ⟨between, rfl, hrest⟩ | ⟨between, rfl, hrest⟩
  · have hmem : Reported id (front ++ back) := by
      cases between with
      | nil =>
        rw [List.nil_append, List.cons.injEq] at hrest
        exact reported_append.mpr (Or.inr (hrest.2 ▸ hreported))
      | cons e between =>
        rw [List.cons_append, List.cons.injEq] at hrest
        refine reported_append.mpr (Or.inr ?_)
        rw [hrest.2]
        exact reported_append.mpr (Or.inr (by
          obtain ⟨event, hevent, hreport⟩ := hreported
          exact ⟨event, List.mem_cons_of_mem _ hevent, hreport⟩))
    obtain ⟨⟨status, hstatus, -⟩, -⟩ := hfinished id hmem
    exact reported_append.mpr (Or.inl (reported_of_lastReport hstatus))
  · cases between with
    | nil =>
      rw [List.nil_append, List.cons.injEq] at hrest
      have hmem : Reported id (before ++ [] ++ back) :=
        reported_append.mpr (Or.inr (hrest.2 ▸ hreported))
      obtain ⟨⟨status, hstatus, -⟩, -⟩ := hfinished id hmem
      simpa using reported_of_lastReport hstatus
    | cons e between =>
      rw [List.cons_append, List.cons.injEq] at hrest
      have hagent := hafter (.itemCompleted (.agentMessage message text)) (by
        rw [hrest.2]
        simp)
      cases hagent

/-- A list is split at its first completion in one way. -/
theorem split_at_completion {before before' rest rest' : List ThreadEvent}
    {event event' : ThreadEvent} (heq : before ++ event :: rest = before' ++ event' :: rest')
    (hbefore : ∀ e ∈ before, e.isTurnCompleted = false) (hevent : event.isTurnCompleted = true)
    (hbefore' : ∀ e ∈ before', e.isTurnCompleted = false)
    (hevent' : event'.isTurnCompleted = true) : before = before' := by
  rcases List.append_eq_append_iff.mp heq with ⟨between, rfl, hrest⟩ | ⟨between, rfl, hrest⟩
  · cases between with
    | nil => simp
    | cons e between =>
      rw [List.cons_append, List.cons.injEq] at hrest
      have hno := hbefore' e (by simp)
      rw [← hrest.1, hevent] at hno
      cases hno
  · cases between with
    | nil => simp
    | cons e between =>
      rw [List.cons_append, List.cons.injEq] at hrest
      have hno := hbefore e (by simp)
      rw [← hrest.1, hevent'] at hno
      cases hno

/-- Where a turn completes after its tools, none was late. -/
theorem noLateTool_of_followsTools {stream : SdkStream} {before rest : List ThreadEvent}
    {event : ThreadEvent} {yields : List NormalizedCodexEvent}
    (h : FollowsTools parsing turn stream yields)
    (hevents : stream.events = before ++ event :: rest)
    (hbefore : ∀ e ∈ before, e.isTurnCompleted = false) (hevent : event.isTurnCompleted = true)
    (hmem : NormalizedCodexEvent.turnCompleted turn.threadId turn.turnId event ∈ yields) :
    NoLateTool before := by
  obtain ⟨front, decision, before', message, text, between, rest', hyields, -, hevents', -,
    hother, -, hfinished⟩ := h.decided turn.threadId turn.turnId event hmem
  have heq : before = before' ++ .itemCompleted (.agentMessage message text) :: between := by
    refine split_at_completion (hevents.symm.trans hevents') hbefore hevent ?_ hevent
    intro e he
    rcases List.mem_append.mp he with he | he
    · exact hother e (List.mem_append_left _ he)
    · rcases List.mem_cons.mp he with rfl | he
      · rfl
      · exact hother e (List.mem_append_right _ he)
  rw [heq]
  exact noLateTool_of_allFinished hfinished

/-- A turn that completes follows its tools exactly when none was late. -/
theorem followsTools_completed_iff {stream : SdkStream} {before rest : List ThreadEvent}
    {event : ThreadEvent} {c : Consumer σ} {decision : FinalCodexDecision}
    (hevents : stream.events = before ++ event :: rest) (hknows : c.Knows parsing before)
    (hevent : event.isTurnCompleted = true) (hpending : c.pendingFinalDecision = some decision) :
    FollowsTools parsing turn stream
        (c.yields ++ [.finalDecision turn.threadId turn.turnId decision,
          .turnCompleted turn.threadId turn.turnId event]) ↔ NoLateTool before := by
  constructor
  · exact fun h ↦ noLateTool_of_followsTools h hevents hknows.uncompleted hevent (by simp)
  · intro hlate
    obtain ⟨front, message, text, back, rfl, hparse, hfront, hback, hlast⟩ :=
      hknows.decides decision hpending
    constructor
    · refine ⟨c.yields ++ [.finalDecision turn.threadId turn.turnId decision],
        .turnCompleted turn.threadId turn.turnId event, by simp, rfl, ?_⟩
      intro e he
      rcases List.mem_append.mp he with he | he
      · exact (hknows.yields e he).1
      · rw [List.mem_singleton.mp he]
        rfl
    · intro threadId turnId completed hmem
      have heq : NormalizedCodexEvent.turnCompleted threadId turnId completed =
          .turnCompleted turn.threadId turn.turnId event := by
        rcases List.mem_append.mp hmem with hmem | hmem
        · exact absurd (hknows.yields _ hmem).1 (by simp [NormalizedCodexEvent.isTerminal])
        · simpa using hmem
      cases heq
      refine ⟨c.yields, decision, front, message, text, back, rest, rfl,
        fun e he ↦ (hknows.yields e he).2, hevents, hevent, ?_, hparse,
        allFinished_of_noLateTool hfront hback hlast hlate⟩
      intro e he
      refine hknows.uncompleted e ?_
      rcases List.mem_append.mp he with he | he
      · exact List.mem_append_left _ he
      · exact List.mem_append_right _ (List.mem_cons_of_mem _ he)

/-- **The final decision follows all tools.** -/
theorem followsTools_iff (store : CodexThreadStore σ) (parsing : Parsing) (turn : TurnIdentity)
    (stream : SdkStream) (service : Service σ) :
    FollowsTools parsing turn stream
        (consumeEvents store parsing turn stream service).1.yields ↔
      ∀ before event rest c c',
        BreaksAt store parsing turn stream.events { service := service } before event rest c c' →
          stream.closing = none ∧ (event.isTurnCompleted = true → NoLateTool before) := by
  rw [yields_consumeEvents]
  rcases consumeLoop_cases store parsing turn stream
      { service := service } stream.events with
    ⟨c', hadvance, hloop⟩ | ⟨before, event, rest, c₁, c₂, hbreaks, hloop⟩ |
    ⟨before, event, rest, c₁, c₂, message, hevents, hadvance, hthrows, hloop⟩
  · -- All events are consumed.
    have hknows := (Consumer.knows_start service).advance hadvance
    have hnever : ∀ before event rest c c₂, ¬ BreaksAt store parsing turn stream.events
        { service := service } before event rest c c₂ := by
      intro before event rest c c₂ hbreaks
      rw [hbreaks.events, advance_eq_none hbreaks.advance hbreaks.not_goesOn] at hadvance
      cases hadvance
    refine iff_of_true ?_ fun before event rest c c₂ hbreaks ↦
      absurd hbreaks (hnever before event rest c c₂)
    rw [hloop]
    cases hending : stream.ending with
    | none =>
      rw [afterLoop, hknows.terminal]
      exact followsTools_of_last (fun e he ↦ (hknows.yields e he).1) rfl
        fun _ _ _ heq ↦ by cases heq
    | some message =>
      obtain ⟨last, hyields, hlast, hother⟩ := yields_afterLoop_caught turn stream c' message
      rw [hyields]
      exact followsTools_of_last (fun e he ↦ (hknows.yields e he).1) hlast hother
  · -- The loop is broken out of at `event`, and nowhere else.
    have hknows := (Consumer.knows_start service).advance hbreaks.advance
    rw [List.nil_append] at hknows
    have honly : (∀ before' event' rest' c c', BreaksAt store parsing turn stream.events
          { service := service } before' event' rest' c c' →
          stream.closing = none ∧ (event'.isTurnCompleted = true → NoLateTool before')) ↔
        stream.closing = none ∧ (event.isTurnCompleted = true → NoLateTool before) := by
      constructor
      · exact fun h ↦ h _ _ _ _ _ hbreaks
      · intro h before' event' rest' c c' hbreaks'
        obtain ⟨rfl, rfl, -⟩ := left_once (hbreaks.events.symm.trans hbreaks'.events)
          hbreaks.advance hbreaks.not_goesOn hbreaks'.advance hbreaks'.not_goesOn
        exact h
    rw [honly, hloop]
    obtain ⟨hterminal, hend⟩ := consumeEvent_breaks hbreaks.breaks
    cases hclosing : stream.closing with
    | some message =>
      obtain ⟨last, hyields, -⟩ := yields_afterLoop_caught turn stream c₂ message
      refine iff_of_false ?_ fun h ↦ by cases h.1
      rw [hyields]
      rcases hend with ⟨-, decision, -, -, hdecided⟩ |
          ⟨-, threadId, turnId, failure, origin, hfailed⟩
      · have hsplit := List.append_cons c₁.yields
          (NormalizedCodexEvent.finalDecision turn.threadId turn.turnId decision)
          [.turnCompleted turn.threadId turn.turnId event]
        rw [hdecided, hsplit]
        exact not_followsTools_of_two rfl
      · rw [hfailed]
        exact not_followsTools_of_two rfl
    | none =>
      rw [afterLoop, if_pos hterminal]
      rcases hend with ⟨hcompleted, decision, -, hpending, hdecided⟩ |
          ⟨hother, threadId, turnId, failure, origin, hfailed⟩
      · rw [hdecided, followsTools_completed_iff hbreaks.events hknows hcompleted hpending]
        simp [hcompleted]
      · rw [hfailed]
        refine iff_of_true (followsTools_of_last (fun e he ↦ (hknows.yields e he).1) rfl
          fun _ _ _ heq ↦ by cases heq) ⟨rfl, fun h ↦ ?_⟩
        rw [hother] at h
        cases h
  · -- The body of the loop throws.
    have hknows := (Consumer.knows_start service).advance hadvance
    have hleft : ∀ c, consumeEvent store parsing turn c₁ event ≠ .goesOn c := by
      rw [hthrows]
      exact fun c heq ↦ by cases heq
    have hnever : ∀ before' event' rest' c c', ¬ BreaksAt store parsing turn stream.events
        { service := service } before' event' rest' c c' := by
      intro before' event' rest' c c' hbreaks
      obtain ⟨rfl, rfl, rfl⟩ := left_once (hevents.symm.trans hbreaks.events) hadvance hleft
        hbreaks.advance hbreaks.not_goesOn
      have hboth := hbreaks.breaks
      rw [hthrows] at hboth
      cases hboth
    refine iff_of_true ?_ fun before' event' rest' c c' hbreaks ↦
      absurd hbreaks (hnever before' event' rest' c c')
    obtain ⟨last, hyields, hlast, hother⟩ := yields_afterLoop_caught turn stream c₂ message
    rw [hloop, hyields]
    refine followsTools_of_last ?_ hlast hother
    intro e he
    rcases (consumeEvent_throws hthrows).2 with hsame | ⟨decision, hdecided⟩
    · rw [hsame] at he
      exact (hknows.yields e he).1
    · rw [hdecided] at he
      rcases List.mem_append.mp he with he | he
      · exact (hknows.yields e he).1
      · rw [List.mem_singleton.mp he]
        rfl

/-! ### A tool call that is only reported when it has ended -/

def lateEvents : List ThreadEvent :=
  [.turnStarted, .itemCompleted (.agentMessage "message-1" "text"),
    .itemCompleted (.mcpToolCall "tool-1" .failed .null)]

def lateStream : SdkStream where
  events := lateEvents ++ [.turnCompleted .null]

/-- A reader that knows one text. -/
def sampleParsing : Parsing where
  json _ := some (.object [("message", .string "done"), ("expectedDelivery", .object
    [("kind", .string "answer"), ("requiredArtifacts", .null), ("targetCanvasId", .null),
      ("completionCriteria", .array
        [.object [("fact", .string "final_message"), ("artifact", .null)]])])])
  schemaMessage _ := ""

/-- A store that keeps one record. -/
def sampleStore : CodexThreadStore (Option LocalCodexThreadRecord) where
  now _ := "2026-01-01T00:00:00.000Z"
  get _ record := (.ok record, record)
  save record _ := (.ok (), some record)

def sampleTurn : TurnIdentity := ⟨"thread", "turn", false⟩

def sampleRecord : LocalCodexThreadRecord where
  threadId := "thread"
  sdkThreadId := some "sdk"
  canvasId := "canvas"
  workspaceRoot := "/workspace"
  model := "model"
  createdAt := "2026-01-01T00:00:00.000Z"
  updatedAt := "2026-01-01T00:00:00.000Z"
  turns := [⟨"turn", .running, "message", [], [], "2026-01-01T00:00:00.000Z", none, none⟩]

/-- The turn completes with the text of a message before its tool call. -/
theorem not_followsTools_lateStream :
    ¬ FollowsTools sampleParsing sampleTurn lateStream
      (consumeEvents sampleStore sampleParsing sampleTurn lateStream
        ⟨[⟨"turn", "thread"⟩], some sampleRecord⟩).1.yields := by
  intro h
  have hlast : (consumeEvents sampleStore sampleParsing sampleTurn lateStream
      ⟨[⟨"turn", "thread"⟩], some sampleRecord⟩).1.yields.getLast? =
        some (.turnCompleted "thread" "turn" (.turnCompleted .null)) := rfl
  have hevents : lateStream.events = lateEvents ++ .turnCompleted .null :: [] := rfl
  have hlate := noLateTool_of_followsTools h hevents (by decide) rfl (List.mem_of_getLast? hlast)
  obtain ⟨event, hevent, status, hreport⟩ := hlate [.turnStarted] "message-1" "text" _ rfl
    (by simp [ThreadEvent.isAgentMessage]) "tool-1" ⟨_, List.mem_singleton_self _, .failed, rfl⟩
  rw [List.mem_singleton.mp hevent] at hreport
  cases hreport

end

end LocalAgent

end HMaigc
