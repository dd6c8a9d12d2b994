import HMaigc.Js.Error
import Mathlib.Logic.Function.Basic

/-!
# The bridge between the local agent and its audit run

`web/src/services/local-agent/local-agent-bridge.ts`: the tool calls of the local agent are
submitted to an audit run, whose results are delivered to the local agent.

* `Bridge` — the fields of the class, the runs that were made active, and what was sent.
* `Task` — where the event or view at the head of the queue waits.
* `Call` — where `start`, `disconnect` or `dispose` waits; they do not pass through the queue.
* `Bridge.step` — one action: a call of a method, or what an operation waits for.

Runs are objects that are shared: an operation keeps the one it began with.
-/

set_option autoImplicit false

namespace HMaigc

open Js

namespace LocalAgentBridge

/-! ### What is exchanged -/

/-- `AgentRunStatus`. -/
inductive RunStatus
  | queued | running | waitingInput | waitingApproval | waitingTool | succeeded | failed | cancelled
deriving DecidableEq

/-- `isTerminalStatus`. -/
def RunStatus.isTerminal : RunStatus → Bool
  | succeeded | failed | cancelled => true
  | _ => false

def RunStatus.text : RunStatus → String
  | queued => "queued"
  | running => "running"
  | waitingInput => "waiting_input"
  | waitingApproval => "waiting_approval"
  | waitingTool => "waiting_tool"
  | succeeded => "succeeded"
  | failed => "failed"
  | cancelled => "cancelled"

/-- `lastToolResult`. -/
structure ToolResult where
  toolCallId : String
  actionVersion : ℕ
  succeeded : Bool
  output : Value
  errorCode : Option String

structure DecisionFeedback where
  code : String
  reason : String

/-- `AgentDeliveryVerification`: whether its status is `repairable`, and all of it. -/
structure Verification where
  repairable : Bool
  facts : Value

/-- `AgentRuntimeView`, as far as the bridge looks at it. -/
structure RuntimeView where
  runId : String
  /-- `reasoningHost === "local_codex"`. -/
  localReasoning : Bool
  status : RunStatus
  stateVersion : ℕ
  expectedDelivery : Value
  verification : Option Verification
  /-- `pendingToolCall?.toolCallId`. -/
  pendingToolCall : Option String
  lastToolResult : Option ToolResult
  decisionFeedback : Option DecisionFeedback
  failureCode : Option String
  pendingApproval : Bool

/-- `LocalAgentToolCallEvent`. -/
structure ToolCallEvent where
  requestId : String
  threadId : String
  turnId : String
  toolName : String
  arguments : Value
  expectedDelivery : Value

def ToolCallEvent.turn (event : ToolCallEvent) : String × String :=
  (event.threadId, event.turnId)

/-- `LocalAgentFinalDecisionEvent`. -/
structure FinalDecisionEvent where
  threadId : String
  turnId : String
  message : String
  expectedDelivery : Value

/-- `LocalAgentEvent`; the last ones are `thread_started`, and those of a turn that the bridge does
nothing about. -/
inductive Event
  | connected
  | toolCall (event : ToolCallEvent)
  | finalDecision (event : FinalDecisionEvent)
  | turnFailed (threadId turnId message : String)
  | turnCancelled (threadId turnId : String)
  | turnCompleted (threadId turnId : String)
  | threadStarted (threadId : String)
  | progressed (threadId turnId : String)

def Event.threadId : Event → String
  | connected => ""
  | toolCall event => event.threadId
  | finalDecision event => event.threadId
  | turnFailed threadId _ _ | turnCancelled threadId _ | turnCompleted threadId _
  | threadStarted threadId | progressed threadId _ => threadId

def Event.turnId : Event → Option String
  | connected | threadStarted _ => none
  | toolCall event => some event.turnId
  | finalDecision event => some event.turnId
  | turnFailed _ turnId _ | turnCancelled _ turnId | turnCompleted _ turnId
  | progressed _ turnId => some turnId

def Event.isTerminal : Event → Bool
  | turnFailed _ _ _ | turnCancelled _ _ | turnCompleted _ _ => true
  | _ => false

/-- What a request is rejected with: an `AgentRuntimeRequestError`, another `Error`, or no error. -/
inductive Cause
  | request (code message : String)
  | error (message : String)
  | other

def errorCode : Cause → String
  | .request code _ => code
  | _ => "local_agent_bridge_failed"

def errorMessage (cause : Cause) (fallback : String) : String :=
  match cause with
  | .request _ message | .error message => if trim message = "" then fallback else message
  | .other => fallback

/-- What `deliverToolResult` says of a call. -/
structure Outcome where
  succeeded : Bool
  output : Value
  errorCode : Option String
  errorMessage : Option String

/-- What `#deliverResult` makes of the run's result. -/
def ToolResult.outcome (result : ToolResult) : Outcome :=
  if result.succeeded then ⟨true, result.output, none, none⟩
  else
    let code := result.errorCode.getD "agent_tool_failed_without_code"
    ⟨false, result.output, some code, some ("后端工具执行失败：" ++ code)⟩

/-- What `#deliverFailure` makes of a failure. -/
def failure (code message : String) : Outcome :=
  ⟨false, .object [], some code, some message⟩

/-- A tool decision that is submitted to a run. -/
structure Submission where
  runId : String
  clientRequestId : String
  expectedStateVersion : ℕ
  event : ToolCallEvent
  /-- The parsed arguments. -/
  arguments : Value

/-- A result that was delivered; the run is not part of the message. -/
structure Delivery where
  runId : String
  requestId : String
  threadId : String
  turnId : String
  toolName : String
  outcome : Outcome

/-- `parseAgentCapabilityArguments`, and the hexadecimal SHA-256 digest of a text. -/
structure Context where
  parseArguments : String → Value → Except Cause Value
  digest : String → String

/-- `stableDecisionRequestId` of a tool call. -/
def Context.toolRequestId (context : Context) (identity : String) : String :=
  "local-tool:" ++ context.digest ("tool:" ++ identity)

/-! ### The bridge -/

inductive BridgeState
  | idle
  | reasoning (threadId turnId runId : String)
  | waitingApproval (threadId turnId runId toolCallId : String)
  | deliveringResult (threadId turnId runId requestId : String)
  | failed (code message : String)

def BridgeState.isFailed : BridgeState → Bool
  | failed _ _ => true
  | _ => false

structure ActiveBridgeRun where
  threadId : String
  turnId : String
  runId : String
  view : RuntimeView
  pendingTool : Option ToolCallEvent
  finalSubmitted : Bool
  localTerminal : Bool
  repairInstruction : Option String

def ActiveBridgeRun.turn (run : ActiveBridgeRun) : String × String :=
  (run.threadId, run.turnId)

/-- What follows when a call has been answered. -/
inductive After
  | reasoning
  | fail (code message : String)

/-- Why a turn is closed. -/
inductive Ending
  | turnFailed (message : String)
  | turnCancelled
  | decisionMissing
  | notRepairable
  | resumeFailed (message : String)
  /-- The turn before, and what failed in cleaning up. -/
  | threadConflict (closed : String × String) (cleanupFailures : List String)

/-- Where the head of the queue waits. -/
inductive Task
  | idle
  /-- `beforeToolProposal`. -/
  | syncing (run : ℕ) (event : ToolCallEvent) (arguments : Value)
  /-- `stableDecisionRequestId`. -/
  | hashing (run : ℕ) (event : ToolCallEvent) (arguments : Value)
  /-- `submitDecision`, of a tool call. -/
  | submitting (run : ℕ) (event : ToolCallEvent)
  /-- `deliverToolResult`. -/
  | delivering (run : ℕ) (event : ToolCallEvent) (outcome : Outcome) (after : After)
  | delivered (run : ℕ) (event : ToolCallEvent) (after : After)
  /-- `submitDecision`, of the final decision. -/
  | deciding (run : ℕ)
  /-- `interrupt`. -/
  | interrupting (run : ℕ) (ending : Ending)
  | closing (run : ℕ) (ending : Ending)
  /-- `startTurn` of `#continueRepair`. -/
  | repairing (run : ℕ)
  /-- `cancelTurn` of the turn of another thread. -/
  | cancelling (run : ℕ) (closed : String × String)

/-- Where a call that does not pass through the queue waits. -/
inductive Call
  | idle
  /-- `startTurn`. -/
  | starting
  /-- `cancelTurn`, when the bridge was disposed of or the run could not be created. -/
  | abandoning (cause : Cause) (disposed : Bool)
  /-- `startRun`. -/
  | creating (threadId turnId : String)
  /-- `disconnect`: `cancelTurn`, `interrupt`, and what follows. -/
  | disconnecting (run : ℕ) (message : String)
  | disconnectInterrupting (run : ℕ) (message : String)
  | disconnectClosing (run : ℕ) (message : String)
  /-- `#disposeActive`, likewise; with what failed. -/
  | disposing (run : ℕ) (message : String)
  | disposeInterrupting (run : ℕ) (message : String) (failures : List String)
  | disposeClosing (run : ℕ) (message : String) (failures : List String)

/-- The promise that events wait for. -/
inductive Activation
  | pending | resolved | rejected
deriving DecidableEq

inductive Job
  | event (event : Event)
  | view (view : RuntimeView)

/-- `LocalAgentBridge`.  The runs that were made active have the numbers below `runCount`. -/
structure Bridge where
  runs : ℕ → ActiveBridgeRun
  runCount : ℕ
  active : Option ℕ
  state : BridgeState
  queue : List Job
  task : Task
  calls : ℕ → Call
  deliveredRequests : List String
  reportedToolResults : List String
  activation : Activation
  closedTurn : Option (String × String)
  disposedReason : Option String
  /-- The tool calls that have left the queue. -/
  taken : List ToolCallEvent
  submissions : List Submission
  deliveries : List Delivery
  /-- The views that `acceptRuntimeView` has adopted. -/
  views : List RuntimeView

namespace Bridge

/-! ### Small parts -/

def setState (s : Bridge) (state : BridgeState) : Bridge :=
  { s with state := state }

def fail (s : Bridge) (code message : String) : Bridge :=
  s.setState (.failed code message)

def setReasoning (s : Bridge) (run : ℕ) : Bridge :=
  s.setState (.reasoning (s.runs run).threadId (s.runs run).turnId (s.runs run).runId)

def waits (s : Bridge) (task : Task) : Bridge :=
  { s with task := task }

def calling (s : Bridge) (i : ℕ) (call : Call) : Bridge :=
  { s with calls := Function.update s.calls i call }

/-- A run's fields are assigned. -/
def assign (s : Bridge) (run : ℕ) (f : ActiveBridgeRun → ActiveBridgeRun) : Bridge :=
  { s with runs := Function.update s.runs run (f (s.runs run)) }

def adoptView (s : Bridge) (run : ℕ) (view : RuntimeView) : Bridge :=
  s.assign run fun active ↦ { active with view := view }

def endLocally (s : Bridge) (run : ℕ) : Bridge :=
  s.assign run fun active ↦ { active with localTerminal := true }

/-- `this.#closedTurn = …; this.#active = undefined`. -/
def close (s : Bridge) (run : ℕ) : Bridge :=
  { s with
    closedTurn := some (s.runs run).turn
    active := none }

def settleActivation (s : Bridge) (activation : Activation) : Bridge :=
  if s.activation = .pending then { s with activation := activation } else s

/-- `if (this.#disposedReason)`. -/
def disposed (s : Bridge) : Option String :=
  s.disposedReason.filter (· ≠ "")

/-! ### Delivery -/

def deliverOnce (s : Bridge) (run : ℕ) (event : ToolCallEvent) (outcome : Outcome)
    (after : After) : Bridge :=
  if event.requestId ∈ s.deliveredRequests then s.waits (.delivered run event after)
  else
    (s.setState (.deliveringResult (s.runs run).threadId (s.runs run).turnId (s.runs run).runId
      event.requestId)).waits (.delivering run event outcome after)

def deliverFailure (s : Bridge) (run : ℕ) (event : ToolCallEvent) (code message : String)
    (after : After) : Bridge :=
  s.deliverOnce run event (failure code message) after

def reportToolResult (s : Bridge) (event : ToolCallEvent) : Bridge :=
  if event.requestId ∈ s.reportedToolResults then s
  else { s with reportedToolResults := event.requestId :: s.reportedToolResults }

def deliverResult (s : Bridge) (run : ℕ) (event : ToolCallEvent) (result : ToolResult) : Bridge :=
  (s.reportToolResult event).deliverOnce run event result.outcome .reasoning

/-- `deliverToolResult` has returned. -/
def recordDelivery (s : Bridge) (run : ℕ) (event : ToolCallEvent) (outcome : Outcome) : Bridge :=
  { s with
    deliveredRequests := event.requestId :: s.deliveredRequests
    deliveries := ⟨(s.runs run).runId, event.requestId, (s.runs run).threadId, (s.runs run).turnId,
      event.toolName, outcome⟩ :: s.deliveries }

/-- What follows `#deliverOnce`. -/
def finishDelivery (s : Bridge) (run : ℕ) (after : After) : Bridge :=
  let s := (s.assign run fun active ↦ { active with pendingTool := none }).waits .idle
  match after with
  | .reasoning => s.setReasoning run
  | .fail code message => s.fail code message

/-! ### Views -/

/-- The result of the pending call, of the version that was submitted. -/
def RuntimeView.resultOf (view : RuntimeView) (requestId : String) : Option ToolResult :=
  view.lastToolResult.filter fun result ↦
    result.toolCallId = requestId ∧ result.actionVersion = 1

/-- `#acceptRuntimeView`, when a call is pending. -/
def answerPending (s : Bridge) (run : ℕ) (pending : ToolCallEvent) (view : RuntimeView) : Bridge :=
  let active := s.runs run
  match RuntimeView.resultOf view pending.requestId with
  | some result => s.deliverResult run pending result
  | none =>
    if view.status = .waitingApproval ∧ view.pendingToolCall = some pending.requestId ∧
        view.pendingApproval = true then
      s.setState (.waitingApproval active.threadId active.turnId active.runId pending.requestId)
    else if view.status = .waitingTool ∧ view.pendingToolCall = some pending.requestId then
      s.setState (.deliveringResult active.threadId active.turnId active.runId pending.requestId)
    else match view.decisionFeedback with
      | some feedback => s.deliverFailure run pending feedback.code feedback.reason .reasoning
      | none =>
        if view.status = .failed ∨ view.status = .cancelled then
          let code := view.failureCode.getD ("agent_run_" ++ view.status.text)
          let message := "后端 Agent Run 已" ++ if view.status = .failed then "失败" else "取消"
          s.deliverFailure run pending code message (.fail code message)
        else s

/-- `#acceptRuntimeView`. -/
def acceptView (s : Bridge) (view : RuntimeView) : Bridge :=
  match s.active with
  | none => s
  | some run =>
    if view.runId ≠ (s.runs run).runId ∨ view.localReasoning = false then s
    else
      let s := { s.adoptView run view with views := view :: s.views }
      match (s.runs run).pendingTool with
      | none => s
      | some pending => s.answerPending run pending view

/-! ### Closing a turn -/

/-- `#interruptAuditRun`, up to its request. -/
def interrupt (s : Bridge) (run : ℕ) (ending : Ending) : Bridge :=
  if (s.runs run).view.status.isTerminal then s.waits (.closing run ending)
  else s.waits (.interrupting run ending)

/-- `#interruptAuditRun`, from its answer: whether it returns, or what it throws. -/
def interrupted (s : Bridge) (run : ℕ) (answer : Except Cause RuntimeView) :
    Except String Unit × Bridge :=
  match answer with
  | .error cause =>
    (.error (errorMessage cause "未知终止错误"), s.fail "local_agent_audit_interrupt_failed"
      ("后端审计 Run 终止失败：" ++ errorMessage cause "未知终止错误"))
  | .ok view =>
    if view.runId ≠ (s.runs run).runId ∨ view.localReasoning = false ∨
        view.status.isTerminal = false then
      (.error "本机 Agent 后端审计 Run 终止结果无效",
        s.fail "local_agent_audit_interrupt_invalid" "本机 Agent 后端审计 Run 终止结果无效")
    else (.ok (), s.adoptView run view)

def failUnlessFailed (s : Bridge) (code message : String) : Bridge :=
  if s.state.isFailed then s else s.fail code message

/-- What follows `#interruptAuditRun`. -/
def endTurn (s : Bridge) (run : ℕ) : Ending → Bridge
  | .turnFailed message => (s.close run).fail "local_codex_turn_failed" message
  | .turnCancelled =>
    (s.close run).failUnlessFailed "local_codex_turn_cancelled" "本机 Codex turn 已取消"
  | .decisionMissing => (s.close run).fail "local_codex_final_decision_missing"
      "本机 Codex turn 未提交结构化最终交付决策"
  | .notRepairable => (s.close run).failUnlessFailed "agent_delivery_requires_repair"
      "后端未提供可执行的交付纠偏事实"
  | .resumeFailed message => (s.close run).fail "local_agent_repair_resume_failed" message
  | .threadConflict closed cleanupFailures =>
    let message := "本机 Codex 交付纠偏续接线程归属冲突"
    { s with
      closedTurn := some closed
      active := if (s.runs run).localTerminal ∧ (s.runs run).view.status.isTerminal then none
        else s.active
      state := .failed "local_agent_repair_thread_conflict"
        (if cleanupFailures = [] then message
        else message ++ "，且清理未完全成功：" ++ "；".intercalate cleanupFailures) }

/-! ### Events -/

def isLateTerminalEvent (s : Bridge) (event : Event) : Bool :=
  event.isTerminal && match s.closedTurn with
    | none => false
    | some (threadId, turnId) => event.threadId = threadId && event.turnId = some turnId &&
      match s.active with
      | none => true
      | some run =>
        event.threadId ≠ (s.runs run).threadId || event.turnId ≠ some (s.runs run).turnId

/-- The check of `#requireActiveEvent`. -/
def isOf (s : Bridge) (run : ℕ) (event : Event) : Bool :=
  event.threadId = (s.runs run).threadId &&
    event.turnId.all fun turnId ↦ turnId = (s.runs run).turnId

/-- `#handleToolCall`, up to `beforeToolProposal`. -/
def handleToolCall (context : Context) (s : Bridge) (run : ℕ) (event : ToolCallEvent) : Bridge :=
  if (s.runs run).pendingTool.isSome then s
  else match context.parseArguments event.toolName event.arguments with
    | .error cause => s.deliverFailure run event "local_agent_tool_arguments_invalid"
        (errorMessage cause "本机 Agent 工具参数无效") .reasoning
    | .ok arguments => s.waits (.syncing run event arguments)

/-- `#handleFinalDecision`, up to `submitDecision`. -/
def handleFinalDecision (s : Bridge) (run : ℕ) : Bridge :=
  if (s.runs run).pendingTool.isSome then s else s.waits (.deciding run)

/-- `turn_completed`. -/
def handleCompleted (s : Bridge) (run : ℕ) : Bridge :=
  let s := s.endLocally run
  let active := s.runs run
  if active.finalSubmitted = false then s.interrupt run .decisionMissing
  else if active.repairInstruction.isSome then s.waits (.repairing run)
  else if active.view.status.isTerminal = false then s.interrupt run .notRepairable
  else if s.state.isFailed = false then (s.close run).setState .idle
  else s.close run

/-- `#handleEvent`. -/
def handle (context : Context) (s : Bridge) (event : Event) : Bridge :=
  match s.active with
  | none => s
  | some run =>
    if s.isOf run event = false then s
    else match event with
      | .toolCall event => s.handleToolCall context run event
      | .finalDecision _ => s.handleFinalDecision run
      | .turnFailed _ _ message => (s.endLocally run).interrupt run (.turnFailed message)
      | .turnCancelled _ _ => (s.endLocally run).interrupt run .turnCancelled
      | .turnCompleted _ _ => s.handleCompleted run
      | .connected | .threadStarted _ | .progressed _ _ => s

/-- An event, once the bridge is activated or cannot be any more. -/
def takeEvent (context : Context) (s : Bridge) (event : Event) : Bridge :=
  if s.activation = .resolved ∧ s.isLateTerminalEvent event = false then s.handle context event
  else s

/-- The tool calls that have left the queue. -/
def record (s : Bridge) : Event → Bridge
  | .toolCall event => { s with taken := event :: s.taken }
  | _ => s

/-- The head of the queue, when nothing before it waits. -/
def next (context : Context) (s : Bridge) : Option Bridge :=
  match s.task, s.queue with
  | .idle, .event event :: rest =>
    if s.activation = .pending then none
    else some ((({ s with queue := rest }).takeEvent context event).record event)
  | .idle, .view view :: rest => some (({ s with queue := rest }).acceptView view)
  | _, _ => none

/-! ### What the head of the queue waits for -/

/-- `buildDeliveryRepairInstruction`. -/
def repairInstruction (view : RuntimeView) : Option String :=
  let repairable := view.verification.filter (·.repairable)
  if view.status.isTerminal then none
  else if repairable.isNone && view.decisionFeedback.isNone then none
  else
    let facts : Value := .object [
      ("runId", .string view.runId),
      ("stateVersion", .number (.finite (toString view.stateVersion))),
      ("expectedDelivery", view.expectedDelivery),
      ("verification", (repairable.map (·.facts)).getD .undefined),
      ("decisionFeedback", (view.decisionFeedback.map fun feedback ↦
        .object [("code", .string feedback.code), ("reason", .string feedback.reason)]).getD
          .undefined)]
    some ("\n".intercalate [
      "系统交付校验判定本轮尚未完成。请在同一执行链中继续修正，不要把这段内部纠偏事实复述给用户，也不要假设成功。",
      "权威纠偏事实：" ++ String.ofList ((stringify facts).getD []),
      "请基于当前真实画布状态和工具返回继续采取必要动作；完成后重新提交与冻结合同完全一致的 expectedDelivery。" ++
        "若事实仍不足，必须显式失败并说明缺口。"])

/-- `#handleFinalDecision`, from the answer. -/
def decided (s : Bridge) (run : ℕ) (view : RuntimeView) : Bridge :=
  let s := (s.assign run fun active ↦ { active with finalSubmitted := true, view := view }).waits
    .idle
  if view.status = .succeeded then s.setReasoning run
  else match repairInstruction view with
    | some instruction =>
      (s.assign run fun active ↦ { active with repairInstruction := some instruction }).setReasoning
        run
    | none => s.fail "agent_delivery_requires_repair"
        (((view.decisionFeedback.map (·.reason)).orElse fun _ ↦ view.failureCode).getD
          ("最终决策返回非成功状态 " ++ view.status.text))

/-- `#handleToolCall`, when the canvas is synchronised. -/
def synced (s : Bridge) (run : ℕ) (event : ToolCallEvent) (arguments : Value) : Bridge :=
  (s.assign run fun active ↦ { active with pendingTool := some event }).waits
    (.hashing run event arguments)

/-- `submitDecision` is called. -/
def submit (context : Context) (s : Bridge) (run : ℕ) (event : ToolCallEvent)
    (arguments : Value) : Bridge :=
  { s with
    task := .submitting run event
    submissions := ⟨(s.runs run).runId, context.toolRequestId event.requestId,
      (s.runs run).view.stateVersion, event, arguments⟩ :: s.submissions }

/-- `#handleToolCall`, when the decision is rejected. -/
def rejected (s : Bridge) (run : ℕ) (event : ToolCallEvent) (cause : Cause) : Bridge :=
  s.deliverFailure run event (errorCode cause) (errorMessage cause "后端拒绝了本机 Agent 工具决策")
    (.fail (errorCode cause) (errorMessage cause "本机 Agent 工具决策失败"))

/-- `#continueRepair`, from its turn. -/
def resumed (s : Bridge) (run : ℕ) (threadId turnId : String) : Bridge :=
  let closed := (s.runs run).turn
  if threadId ≠ (s.runs run).threadId then
    (s.assign run fun active ↦
      { active with threadId := threadId, turnId := turnId, localTerminal := false }).waits
      (.cancelling run closed)
  else
    let s := s.assign run fun active ↦ { active with
      turnId := turnId
      finalSubmitted := false
      localTerminal := false
      repairInstruction := none }
    ({ s with closedTurn := some closed }.waits .idle).setReasoning run

/-- `#interruptAuditRun` has its answer: what it throws is kept where it is caught. -/
def interruptAnswered (s : Bridge) (run : ℕ) (ending : Ending)
    (answer : Except Cause RuntimeView) : Bridge :=
  match s.interrupted run answer, ending with
  | (.ok _, s), ending => s.waits (.closing run ending)
  | (.error message, s), .threadConflict closed failures =>
    s.waits (.closing run (.threadConflict closed
      (failures ++ ["后端审计 Run 终止失败：" ++ message])))
  | (.error _, s), _ => s.waits .idle

end Bridge

/-- What a request is answered with, or what a method waits for comes to pass. -/
inductive Answer
  | done
  | turn (threadId turnId : String)
  | view (view : RuntimeView)
  | failed (cause : Cause)

namespace Bridge

/-- What the head of the queue waits for. -/
def answer (context : Context) (s : Bridge) : Answer → Option Bridge :=
  fun answer ↦ match s.task, answer with
  | .syncing run event arguments, .done => some (s.synced run event arguments)
  | .syncing run event _, .failed cause =>
    some (s.deliverFailure run event "local_agent_canvas_sync_failed"
      (errorMessage cause "当前画布同步失败") .reasoning)
  | .hashing run event arguments, .done => some (s.submit context run event arguments)
  | .hashing run event _, .failed cause => some (s.rejected run event cause)
  | .submitting _ _, .view view => some ((s.waits .idle).acceptView view)
  | .submitting run event, .failed cause => some (s.rejected run event cause)
  | .delivering run event outcome after, .done =>
    some ((s.recordDelivery run event outcome).waits (.delivered run event after))
  | .delivering _ _ _ _, .failed cause =>
    some ((s.fail "local_agent_result_delivery_failed"
      ("工具结果回传本机 Agent 失败：" ++ errorMessage cause "未知传输错误")).waits .idle)
  | .delivered run _ after, .done => some (s.finishDelivery run after)
  | .deciding run, .view view => some (s.decided run view)
  | .deciding _, .failed _ => some (s.waits .idle)
  | .interrupting run ending, .view view => some (s.interruptAnswered run ending (.ok view))
  | .interrupting run ending, .failed cause =>
    some (s.interruptAnswered run ending (.error cause))
  | .closing run ending, .done => some ((s.endTurn run ending).waits .idle)
  | .repairing run, .turn threadId turnId => some (s.resumed run threadId turnId)
  | .repairing run, .failed cause => some (s.interrupt run
      (.resumeFailed (errorMessage cause "本机 Codex 交付纠偏续接失败")))
  | .cancelling run closed, .done =>
    some ((s.endLocally run).interrupt run (.threadConflict closed []))
  | .cancelling run closed, .failed cause => some (s.interrupt run (.threadConflict closed
      ["冲突 Codex turn 取消失败：" ++ errorMessage cause "未知取消错误"]))
  | _, _ => none

/-! ### What does not pass through the queue -/

/-- `start`, up to its first request. -/
def start (s : Bridge) (i : ℕ) : Bridge :=
  if s.disposed.isSome ∨ s.active.isSome then s else s.calling i .starting

/-- `disconnect`, up to its first request. -/
def disconnect (s : Bridge) (i : ℕ) (message : String) : Bridge :=
  match s.active with
  | none => (s.settleActivation .rejected).fail "local_agent_disconnected" message
  | some run =>
    if (s.runs run).localTerminal = false then s.calling i (.disconnecting run message)
    else if (s.runs run).view.status.isTerminal then s.calling i (.disconnectClosing run message)
    else s.calling i (.disconnectInterrupting run message)

/-- `#disposeActive`, up to its first request. -/
def disposeActive (s : Bridge) (i run : ℕ) (message : String) : Bridge :=
  if (s.runs run).localTerminal = false then s.calling i (.disposing run message)
  else if (s.runs run).view.status.isTerminal then s.calling i (.disposeClosing run message [])
  else s.calling i (.disposeInterrupting run message [])

/-- `dispose`, up to its first request. -/
def dispose (s : Bridge) (i : ℕ) (message : String) : Bridge :=
  let reason := s.disposedReason.getD message
  let s := { s with disposedReason := some reason }.settleActivation .rejected
  match s.active with
  | none => s.fail "local_agent_disposed" reason
  | some run => s.disposeActive i run reason

/-- `start` has its turn. -/
def turnStarted (s : Bridge) (i : ℕ) (threadId turnId : String) : Bridge :=
  match s.disposed with
  | some reason => s.calling i (.abandoning (.error reason) true)
  | none => s.calling i (.creating threadId turnId)

/-- `#cancelAfterActivationFailure`, and what follows. -/
def abandoned (s : Bridge) (cause : Cause) (disposed : Bool) (cancelFailure : Option Cause) :
    Bridge :=
  let cause := match cancelFailure with
    | none => cause
    | some cancelFailure => .error (errorMessage cause "后端审计 Run 创建失败" ++
        "；本机 Codex turn 取消失败：" ++ errorMessage cancelFailure "未知取消错误")
  let s := s.settleActivation .rejected
  if disposed then
    s.fail "local_agent_disposed" (errorMessage cause (s.disposedReason.getD ""))
  else s.fail (errorCode cause) (errorMessage cause "后端审计 Run 创建失败")

/-- `start` has its audit run. -/
def runStarted (s : Bridge) (i : ℕ) (threadId turnId : String) (view : RuntimeView) : Bridge :=
  let run : ActiveBridgeRun := ⟨threadId, turnId, view.runId, view, none, false, false, none⟩
  let started := { s with
    runs := Function.update s.runs s.runCount run
    runCount := s.runCount + 1
    active := some s.runCount }
  match s.disposed with
  | some reason => started.disposeActive i s.runCount reason
  | none => ((started.settleActivation .resolved).setReasoning s.runCount).calling i .idle

/-- `#disposeActive`, from its last answer; `dispose` has settled the activation. -/
def disposeEnd (s : Bridge) (run : ℕ) (message : String) (failures : List String) : Bridge :=
  if failures = [] then (s.close run).fail "local_agent_disconnected" message
  else (s.close run).fail "local_agent_dispose_failed" (message ++ "时存在未完成的终止操作")

/-- `#interruptAuditRun` of `disconnect` and `#disposeActive`, up to its request. -/
def callInterrupt (s : Bridge) (i run : ℕ) (interrupting closing : Call) : Bridge :=
  if (s.runs run).view.status.isTerminal then s.calling i closing else s.calling i interrupting

/-- `disconnect`'s interruption has its answer. -/
def disconnectInterrupted (s : Bridge) (i run : ℕ) (message : String)
    (answer : Except Cause RuntimeView) : Bridge :=
  match s.interrupted run answer with
  | (.ok _, s) => s.calling i (.disconnectClosing run message)
  | (.error _, s) => s.calling i .idle

/-- `#disposeActive`'s interruption has its answer. -/
def disposeInterrupted (s : Bridge) (i run : ℕ) (message : String) (failures : List String)
    (answer : Except Cause RuntimeView) : Bridge :=
  match s.interrupted run answer with
  | (.ok _, s) => s.calling i (.disposeClosing run message failures)
  | (.error cause, s) => s.calling i (.disposeClosing run message
      (failures ++ ["后端审计 Run 终止失败：" ++ cause]))

/-- What `start`, `disconnect` or `dispose` waits for. -/
def reply (s : Bridge) (i : ℕ) : Answer → Option Bridge :=
  fun answer ↦ match s.calls i, answer with
  | .starting, .turn threadId turnId => some (s.turnStarted i threadId turnId)
  | .starting, .failed cause => some (((s.settleActivation .rejected).fail (errorCode cause)
      (errorMessage cause "本机 Codex turn 创建失败")).calling i .idle)
  | .abandoning cause disposed, .done => some ((s.abandoned cause disposed none).calling i .idle)
  | .abandoning cause disposed, .failed cancelFailure =>
    some ((s.abandoned cause disposed (some cancelFailure)).calling i .idle)
  | .creating threadId turnId, .view view => some (s.runStarted i threadId turnId view)
  | .creating _ _, .failed cause => some (s.calling i (.abandoning cause false))
  | .disconnecting run message, .done => some ((s.endLocally run).callInterrupt i run
      (.disconnectInterrupting run message) (.disconnectClosing run message))
  | .disconnecting _ _, .failed cause => some ((s.fail "local_agent_cancel_failed"
      ("本机 Codex turn 取消失败：" ++ errorMessage cause "未知取消错误")).calling i .idle)
  | .disconnectInterrupting run message, .view view =>
    some (s.disconnectInterrupted i run message (.ok view))
  | .disconnectInterrupting run message, .failed cause =>
    some (s.disconnectInterrupted i run message (.error cause))
  | .disconnectClosing run message, .done => some ((((s.close run).settleActivation
      .rejected).fail "local_agent_disconnected" message).calling i .idle)
  | .disposing run message, .done => some ((s.endLocally run).callInterrupt i run
      (.disposeInterrupting run message []) (.disposeClosing run message []))
  | .disposing run message, .failed cause =>
    let failures := ["本机 Codex turn 取消失败：" ++ errorMessage cause "未知取消错误"]
    some (s.callInterrupt i run (.disposeInterrupting run message failures)
      (.disposeClosing run message failures))
  | .disposeInterrupting run message failures, .view view =>
    some (s.disposeInterrupted i run message failures (.ok view))
  | .disposeInterrupting run message failures, .failed cause =>
    some (s.disposeInterrupted i run message failures (.error cause))
  | .disposeClosing run message failures, .done =>
    some ((s.disposeEnd run message failures).calling i .idle)
  | _, _ => none

end Bridge

/-! ### Runs -/

/-- A method is called, as the call `i`; the queue goes on; or what is waited for comes to pass. -/
inductive Action
  | handleEvent (event : Event)
  | acceptRuntimeView (view : RuntimeView)
  | start (i : ℕ)
  | disconnect (i : ℕ) (message : String)
  | dispose (i : ℕ) (message : String)
  | next
  | answer (answer : Answer)
  | reply (i : ℕ) (answer : Answer)

namespace Bridge

/-- A call has a number that no other call in flight has. -/
def called (s : Bridge) (i : ℕ) (after : Bridge) : Option Bridge :=
  match s.calls i with
  | .idle => some after
  | _ => none

def step (context : Context) (s : Bridge) : Action → Option Bridge
  | .handleEvent .connected => some s
  | .handleEvent event => some { s with queue := s.queue ++ [.event event] }
  | .acceptRuntimeView view => some { s with queue := s.queue ++ [.view view] }
  | .start i => s.called i (s.start i)
  | .disconnect i message => s.called i (s.disconnect i message)
  | .dispose i message => s.called i (s.dispose i message)
  | .next => s.next context
  | .answer answer => s.answer context answer
  | .reply i answer => s.reply i answer

/-- The constructor; there is no run. -/
def initial : Bridge where
  runs _ := ⟨"", "", "", ⟨"", false, .queued, 0, .undefined, none, none, none, none, none, false⟩,
    none, false, false, none⟩
  runCount := 0
  active := none
  state := .idle
  queue := []
  task := .idle
  calls _ := .idle
  deliveredRequests := []
  reportedToolResults := []
  activation := .pending
  closedTurn := none
  disposedReason := none
  taken := []
  submissions := []
  deliveries := []
  views := []

/-- Nothing is in flight. -/
def Quiet (s : Bridge) : Prop :=
  s.queue = [] ∧ s.task = .idle ∧ ∀ i, s.calls i = .idle

/-- The tool calls that `handleEvent` was called with. -/
def received (s : Bridge) : List ToolCallEvent :=
  s.taken ++ s.queue.filterMap fun job ↦ match job with
    | .event (.toolCall event) => some event
    | _ => none

end Bridge

/-- Actions that all meet a condition on the state before them. -/
inductive Run (context : Context) (condition : Bridge → Action → Prop) (s : Bridge) : Bridge → Prop
  | nil : Run context condition s s
  | step {reached after : Bridge} (hrun : Run context condition s reached) (action : Action)
      (hcondition : condition reached action) (hstep : reached.step context action = some after) :
      Run context condition s after

end LocalAgentBridge

end HMaigc
