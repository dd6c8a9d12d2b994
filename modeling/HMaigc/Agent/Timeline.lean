import HMaigc.Agent.Run
import HMaigc.Proc.Machine

/-!
# The timeline of a run

`repository/agent_runtime_timeline.go` and the commit of `repository/agent_runtime_execution.go`:
the events of a transition are written with the checkpoint, and each of them opens, moves or closes
one item of the run's timeline.  Between transitions the text of a message that the model is still
writing arrives in deltas, which open and move an item of their own.

The digests that name the items are kept as what they are digests of.  Where a row is compared and
swapped under its lock the swap cannot be lost.
-/

set_option autoImplicit false

namespace HMaigc.AgentRuntime

open Go

/-! ## Items -/

inductive TimelineItemKind
  | userMessage | agentMessage | statusKind | clarification | toolCall | toolResult | error
  deriving DecidableEq

inductive TimelineItemStatus
  | inProgress | completed | failed | declined | interrupted
  deriving DecidableEq

/-- What an item's id is the digest of. -/
inductive TimelineItemID
  | userMessage (clientRequestID : String)
  | steer (clientRequestID : String)
  | message (stepNumber : ℤ)
  | clarification (requestID : String)
  | toolCall (toolCallID : String) (actionVersion : ℤ)
  | toolResult (toolCallID : String) (actionVersion sequence : ℤ)
  | status (sequence : ℤ)
  | error (sequence : ℤ)
  deriving DecidableEq

inductive AssemblyTaskStatus
  | queued | running | succeeded | failed | cancelled
  deriving DecidableEq

/-- The public facts of a media assembly; `details` are those that nothing here looks at. -/
structure AssemblyContent where
  toolCallID : String
  actionVersion : ℤ
  taskStatus : AssemblyTaskStatus
  stage : String
  errorCode : String
  hasFinal : Bool
  details : String

/-- The content of an item, before it is marshalled. -/
inductive TimelineContent
  | userMessage (clientRequestID message : String)
  | message (message : String)
  | failedMessage (message failureCode : String)
  | status (status : RunStatus)
  | steer (steer : PendingSteer)
  | clarification (pending : PendingClarification)
  | completedClarification (completed : CompletedClarification)
  | interruptedClarification (requestID : String)
  | failedClarification (requestID errorCode : String)
  | toolCall (toolCallID : String) (toolName : ToolName) (actionVersion : ℤ)
  | toolStarted (toolCallID : String) (actionVersion : ℤ)
  | approvalRequired (toolCallID : String) (actionVersion : ℤ)
  | approvalDecided (toolCallID : String) (actionVersion : ℤ) (decision : ToolApprovalDecision)
  | interruptedToolCall (toolCallID : String) (actionVersion : ℤ)
  | toolResult (toolName : Option ToolName) (result : ToolResult) (output : Option String)
  | assembly (content : AssemblyContent)
  | rejection (code reason : String)

structure TimelineItem where
  id : TimelineItemID
  kind : TimelineItemKind
  status : TimelineItemStatus
  ordinal : ℤ
  sourceEventSequence : ℤ
  content : TimelineContent

structure TimelineMutation where
  itemID : TimelineItemID
  kind : TimelineItemKind
  fromStatus : Option TimelineItemStatus := none
  toStatus : TimelineItemStatus
  sourceEventSequence : ℤ
  content : TimelineContent
  allowInsert : Bool := false

/-- What the timeline takes from elsewhere. -/
structure TimelineContext where
  runtime : RuntimeContext
  /-- The length of a marshalled content. -/
  contentLength : TimelineContent → ℕ
  /-- `DecodeMediaAssemblyTimelineContent`. -/
  decodeAssembly : String → Option AssemblyContent
  /-- The part of a tool's output that may be shown, for the tools that have one. -/
  publicOutput : ToolName → String → Option String

def agentEventPayloadLimit : ℕ := 256 * 1024

def errAgentPayloadTooLarge : String := "agent payload is too large"

def errAgentTimelineConflict : String := "agent timeline conflict"

def errAgentMessageStreamClosed : String := "agent message stream is closed"

/-- `agentTimelineStatusTerminal`. -/
def TimelineItemStatus.terminal (status : TimelineItemStatus) : Bool :=
  status = .completed || status = .failed || status = .declined || status = .interrupted

variable (ctx : TimelineContext)

def marshalAgentTimelineContent (content : TimelineContent) : Except String TimelineContent :=
  if ctx.contentLength content > agentEventPayloadLimit then .error errAgentPayloadTooLarge
  else .ok content

/-! ## Moving one item -/

/-- The items as a transaction has them, and the ordinal it would give the next one. -/
structure Timeline where
  items : List TimelineItem
  nextOrdinal : ℤ

def nextAgentTimelineOrdinal (items : List TimelineItem) : ℤ :=
  (items.map (·.ordinal)).foldr max 0 + 1

def Timeline.ofItems (items : List TimelineItem) : Timeline :=
  ⟨items, nextAgentTimelineOrdinal items⟩

/-- The item a mutation inserts. -/
def TimelineMutation.item (mutation : TimelineMutation) (ordinal : ℤ) : TimelineItem where
  id := mutation.itemID
  kind := mutation.kind
  status := mutation.toStatus
  ordinal := ordinal
  sourceEventSequence := mutation.sourceEventSequence
  content := mutation.content

/-- The columns a mutation updates. -/
def TimelineMutation.update (mutation : TimelineMutation) (item : TimelineItem) : TimelineItem :=
  if item.id = mutation.itemID then
    { item with
      status := mutation.toStatus
      sourceEventSequence := mutation.sourceEventSequence
      content := mutation.content }
  else item

/-- The stored item cannot be moved as the mutation says. -/
def TimelineMutation.Conflicts (mutation : TimelineMutation) (existing : TimelineItem) : Prop :=
  existing.kind ≠ mutation.kind ∨ existing.sourceEventSequence ≥ mutation.sourceEventSequence ∨
    existing.status.terminal = true ∨ mutation.fromStatus ≠ some existing.status

instance (mutation : TimelineMutation) (existing : TimelineItem) :
    Decidable (mutation.Conflicts existing) :=
  inferInstanceAs (Decidable (_ ∨ _))

def persistAgentTimelineMutation (mutation : TimelineMutation) (timeline : Timeline) :
    Except String Timeline :=
  if timeline.nextOrdinal < 1 then .error errAgentTimelineConflict
  else if mutation.sourceEventSequence < 1 ∨
      ctx.contentLength mutation.content > agentEventPayloadLimit then
    .error errAgentTimelineConflict
  else
    match timeline.items.find? (·.id == mutation.itemID) with
    | none =>
      if mutation.fromStatus.isSome ∧ mutation.allowInsert = false then
        .error errAgentTimelineConflict
      else if timeline.nextOrdinal ≠ nextAgentTimelineOrdinal timeline.items then
        .error errAgentTimelineConflict
      else
        .ok ⟨timeline.items ++ [mutation.item timeline.nextOrdinal], timeline.nextOrdinal + 1⟩
    | some existing =>
      if mutation.Conflicts existing then .error errAgentTimelineConflict
      else .ok { timeline with items := timeline.items.map mutation.update }

/-! ## Events -/

/-- The item of a tool call that is in progress from its first event to its last. -/
def toolCallItemID (call : ToolCallDecision) : TimelineItemID :=
  .toolCall call.toolCallID call.actionVersion

def clarificationItemID (request : ClarificationDecision) : TimelineItemID :=
  .clarification request.requestID

/-- The pending tool call already has its result. -/
def pendingToolResolved (call : ToolCallDecision) (state : RuntimeState) : Bool :=
  state.lastToolResult.any fun result ↦
    result.toolCallID = call.toolCallID && result.actionVersion = call.actionVersion

/-- A new item that says the status of the run. -/
def statusMutation (state : RuntimeState) (sequence : ℤ) (toStatus : TimelineItemStatus) :
    Except String TimelineMutation := do
  let content ← marshalAgentTimelineContent ctx (.status state.status)
  return { itemID := .status sequence, kind := .statusKind, toStatus
           sourceEventSequence := sequence, content }

/-- A mutation of an item in progress. -/
def moveMutation (itemID : TimelineItemID) (kind : TimelineItemKind)
    (toStatus : TimelineItemStatus) (sequence : ℤ) (content : TimelineContent) :
    Except String TimelineMutation := do
  let content ← marshalAgentTimelineContent ctx content
  return { itemID, kind, fromStatus := some .inProgress, toStatus
           sourceEventSequence := sequence, content }

/-- The assembly is the one the call waits for, and its facts agree with the result. -/
def assemblyAgrees (call : ToolCallDecision) (result : ToolResult) (content : AssemblyContent) :
    Bool :=
  content.toolCallID = result.toolCallID && content.actionVersion = result.actionVersion &&
    content.toolCallID = call.toolCallID && content.actionVersion = call.actionVersion &&
    if result.succeeded then content.taskStatus = .succeeded && result.errorCode = ""
    else (content.taskStatus = .failed || content.taskStatus = .cancelled) &&
      result.errorCode ≠ "" && result.errorCode = content.errorCode

def mediaAssemblyTimelineItemStatus (content : AssemblyContent) : TimelineItemStatus :=
  match content.taskStatus with
  | .queued | .running => .inProgress
  | .succeeded => .completed
  | .failed => .failed
  | .cancelled => .interrupted

def agentTimelinePublicCapabilityOutput (toolName : ToolName) (output : String) :
    Except String (Option String) :=
  if toolName = .canvasApplyOps ∨ toolName = .mediaGenerate ∨ toolName = .visionAnalyze then
    match ctx.publicOutput toolName output with
    | none => .error "agent timeline output is invalid"
    | some shown => .ok (some shown)
  else .ok none

/-- The status of the item of a tool call that has its result. -/
def toolResultStatus (result : ToolResult) : TimelineItemStatus :=
  if result.errorCode = "tool_approval_rejected" then .declined
  else if result.succeeded then .completed
  else .failed

/-- The mutation of a tool's result. -/
def toolResultMutation (previous state : RuntimeState) (sequence : ℤ) :
    Except String TimelineMutation :=
  match state.lastToolResult with
  | none => .error "agent tool result timeline facts are missing"
  | some result =>
    match previous.pendingToolCall with
    | none => do
      let content ← marshalAgentTimelineContent ctx (.toolResult none result none)
      return { itemID := .toolResult result.toolCallID result.actionVersion sequence
               kind := .toolResult, toStatus := toolResultStatus result
               sourceEventSequence := sequence, content }
    | some call =>
      if call.toolName = .mediaAssemble then
        match ctx.decodeAssembly result.output with
        | none => .error "agent media assembly tool result facts are invalid"
        | some content =>
          if assemblyAgrees call result content = false then
            .error "agent media assembly tool result facts are invalid"
          else
            .ok { itemID := .toolCall result.toolCallID result.actionVersion, kind := .toolCall
                  fromStatus := some .inProgress
                  toStatus := mediaAssemblyTimelineItemStatus content
                  sourceEventSequence := sequence, content := .assembly content }
      else do
        let output ← if result.succeeded then
            agentTimelinePublicCapabilityOutput ctx call.toolName result.output
          else .ok none
        moveMutation ctx (.toolCall result.toolCallID result.actionVersion) .toolCall
          (toolResultStatus result) sequence (.toolResult (some call.toolName) result output)

/-- The request an answer was saved for: the pending one, or the one it completed. -/
def answeredContent (state : RuntimeState) : Option (String × TimelineContent) :=
  match state.pendingClarification, state.clarificationHistory.getLast? with
  | some pending, _ => some (pending.request.requestID, .clarification pending)
  | none, some completed => some (completed.request.requestID, .completedClarification completed)
  | none, none => none

def agentTimelineMutationForEvent (previous state : RuntimeState) (sequence : ℤ) :
    EventKind → Except String TimelineMutation
  | .agentMessageCompleted => do
    let content ← marshalAgentTimelineContent ctx (.message state.finalMessage)
    return { itemID := .message (state.stepNumber - 1), kind := .agentMessage
             fromStatus := some .inProgress, toStatus := .completed
             sourceEventSequence := sequence, content, allowInsert := true }
  | .runInterrupted =>
    match previous.pendingClarification, previous.pendingToolCall with
    | some pending, _ =>
      moveMutation ctx (clarificationItemID pending.request) .clarification .interrupted sequence
        (.interruptedClarification pending.request.requestID)
    | none, some call =>
      if pendingToolResolved call state then statusMutation ctx state sequence .interrupted
      else
        moveMutation ctx (toolCallItemID call) .toolCall .interrupted sequence
          (.interruptedToolCall call.toolCallID call.actionVersion)
    | none, none => statusMutation ctx state sequence .interrupted
  | .runFailed =>
    match previous.pendingClarification with
    | some pending =>
      moveMutation ctx (clarificationItemID pending.request) .clarification .failed sequence
        (.failedClarification pending.request.requestID state.failureCode)
    | none => statusMutation ctx state sequence .failed
  | .runStatusChanged | .runCompleted => statusMutation ctx state sequence .completed
  | .runSteered =>
    match state.pendingSteers.getLast? with
    | none => .error "agent steer timeline facts are missing"
    | some steer => do
      let content ← marshalAgentTimelineContent ctx (.steer steer)
      return { itemID := .steer steer.clientRequestID, kind := .userMessage, toStatus := .completed
               sourceEventSequence := sequence, content }
  | .clarificationRequested =>
    match state.pendingClarification with
    | none => .error "agent clarification timeline facts are missing"
    | some pending => do
      let content ← marshalAgentTimelineContent ctx (.clarification pending)
      return { itemID := clarificationItemID pending.request, kind := .clarification
               toStatus := .inProgress, sourceEventSequence := sequence, content }
  | .clarificationAnswerSaved =>
    match answeredContent state with
    | none => .error "agent clarification answer timeline facts are missing"
    | some (requestID, content) =>
      moveMutation ctx (.clarification requestID) .clarification .inProgress sequence content
  | .clarificationResponded =>
    match state.clarificationHistory.getLast? with
    | none => .error "agent clarification response timeline facts are missing"
    | some completed =>
      moveMutation ctx (clarificationItemID completed.request) .clarification .completed sequence
        (.completedClarification completed)
  | .toolCall =>
    match state.pendingToolCall with
    | none => .error "agent tool call timeline facts are missing"
    | some call => do
      let content ← marshalAgentTimelineContent ctx
        (.toolCall call.toolCallID call.toolName call.actionVersion)
      return { itemID := toolCallItemID call, kind := .toolCall, toStatus := .inProgress
               sourceEventSequence := sequence, content }
  | .toolStarted =>
    match state.pendingToolCall with
    | none => .error "agent tool start timeline facts are missing"
    | some call =>
      if state.pendingToolStarted = false then
        .error "agent tool start timeline facts are missing"
      else
        moveMutation ctx (toolCallItemID call) .toolCall .inProgress sequence
          (.toolStarted call.toolCallID call.actionVersion)
  | .toolResult => toolResultMutation ctx previous state sequence
  | .approvalRequired =>
    match state.pendingToolCall with
    | none => .error "agent approval timeline facts are missing"
    | some call =>
      moveMutation ctx (toolCallItemID call) .toolCall .inProgress sequence
        (.approvalRequired call.toolCallID call.actionVersion)
  | .approvalDecided =>
    match previous.pendingToolCall with
    | none => .error "agent approval decision timeline facts are missing"
    | some call =>
      moveMutation ctx (toolCallItemID call) .toolCall .inProgress sequence
        (.approvalDecided call.toolCallID call.actionVersion
          (if state.lastToolResult.any (·.errorCode = "tool_approval_rejected") then .rejected
            else .approved))
  | .modelRejected =>
    match state.decisionFeedback with
    | none => .error "agent model rejection timeline facts are missing"
    | some feedback => do
      let content ← marshalAgentTimelineContent ctx (.rejection feedback.code feedback.reason)
      return { itemID := .error sequence, kind := .error, toStatus := .failed
               sourceEventSequence := sequence, content }

/-- An assembly that was still under way is shown as cancelled. -/
def interruptedAgentTimelineContent (item : TimelineItem) : Except String TimelineContent :=
  match item.kind, item.content with
  | .toolCall, .assembly content =>
    if content.taskStatus ≠ .queued ∧ content.taskStatus ≠ .running then
      .error errAgentTimelineConflict
    else
      .ok (.assembly { content with
        taskStatus := .cancelled, stage := "Agent 任务已终止", hasFinal := false
        errorCode := "media_assembly_cancelled" })
  | _, content => .ok content

/-- The mutation that closes the one item in progress, if there is one. -/
def activeAgentTimelineInterruptMutation (items : List TimelineItem) (sequence : ℤ) :
    Except String (Option TimelineMutation) :=
  match items.filter (·.status = .inProgress) with
  | [] => .ok none
  | [item] => do
    let content ← interruptedAgentTimelineContent item
    return some { itemID := item.id, kind := item.kind, fromStatus := some .inProgress
                  toStatus := .interrupted, sourceEventSequence := sequence, content }
  | _ => .error errAgentTimelineConflict

def persistAgentTimelineEvent (previous state : RuntimeState) (kind : EventKind) (sequence : ℤ)
    (timeline : Timeline) : Except String Timeline :=
  if timeline.nextOrdinal < 1 ∨ sequence < 1 then .error errAgentTimelineConflict
  else if kind = .runInterrupted ∧ previous.pendingClarification.isNone ∧
      previous.pendingToolCall.isNone then do
    match ← activeAgentTimelineInterruptMutation timeline.items sequence with
    | some mutation => persistAgentTimelineMutation ctx mutation timeline
    | none =>
      let mutation ← agentTimelineMutationForEvent ctx previous state sequence kind
      persistAgentTimelineMutation ctx mutation timeline
  else do
    let mutation ← agentTimelineMutationForEvent ctx previous state sequence kind
    persistAgentTimelineMutation ctx mutation timeline

/-! ## Two more reducers

What becomes of a tool call that cannot be prepared, or that was resolved before. -/

structure ToolDecisionFailure where
  call : ToolCallDecision
  failureClass : ToolFailureClass
  errorCode : String
  output : String

def rejectToolDecision (ctx : RuntimeContext) (current : RuntimeState)
    (failure : ToolDecisionFailure) : Except String RuntimeTransition := do
  let current ← validateAdvancingState ctx current
  let call ← (failure.call.validate ctx.canonicalArguments currentToolSchemaVersion).mapError
    fun _ ↦ "rejected agent tool decision is invalid"
  let errorCode := trimSpace failure.errorCode
  let output := trimSpace failure.output
  if validFailureCode errorCode = false ∨ toolOutputInvalid output then
    .error "rejected agent tool failure is invalid"
  else if failure.failureClass ≠ .agentRepairable ∧ failure.failureClass ≠ .terminal then
    .error "rejected agent tool failure class is invalid"
  else if current.expectedDelivery.any fun expected ↦ !expected.equal call.expectedDelivery then
    .error "rejected agent tool delivery contract conflicts with frozen facts"
  else
    let next := { current with
      stateVersion := current.stateVersion + 1
      stepNumber := current.stepNumber + 1
      pendingToolCall := none
      pendingToolStarted := false
      decisionFeedback := none
      verification := none
      finalMessage := ""
      failureCode := ""
      expectedDelivery := current.expectedDelivery <|> some call.expectedDelivery
      lastToolResult := some {
        toolCallID := call.toolCallID, actionVersion := call.actionVersion, succeeded := false
        output, errorCode } }
    if failure.failureClass = .terminal then
      .ok {
        state := { next with status := .failed, failureCode := errorCode }
        eventKinds := [.toolResult, .runFailed] }
    else .ok (continueOrExhaust next [.toolResult])

structure ToolReplay where
  call : ToolCallDecision
  sourceRunID : String
  sourceToolCallID : String
  sourceActionVersion : ℤ
  result : ToolResolution

/-- The replay is one of the pending call. -/
def ToolReplay.Matches (replay : ToolReplay) (call : ToolCallDecision) : Prop :=
  replay.call.toolCallID = call.toolCallID ∧ replay.call.actionVersion = call.actionVersion ∧
    replay.call.toolName = call.toolName ∧ replay.call.arguments = call.arguments ∧
    trimSpace replay.sourceRunID ≠ "" ∧ trimSpace replay.sourceToolCallID ≠ "" ∧
    replay.sourceActionVersion ≥ 1

instance (replay : ToolReplay) (call : ToolCallDecision) : Decidable (replay.Matches call) :=
  inferInstanceAs (Decidable (_ ∧ _))

def replayResolvedTool (ctx : RuntimeContext) (current : RuntimeState)
    (pending : RuntimeTransition) (replay : ToolReplay) : Except String RuntimeTransition := do
  let current ← validateAdvancingState ctx current
  match pending.state.pendingToolCall with
  | none => .error "agent replay source transition is invalid"
  | some call =>
    let toolCallID := trimSpace replay.result.toolCallID
    let errorCode := trimSpace replay.result.errorCode
    let output := trimSpace replay.result.output
    if pending.state.status ≠ .waitingApproval ∨ pending.state.pendingToolStarted ∨
        pending.state.stateVersion ≠ current.stateVersion + 1 ∨
        pending.state.stepNumber ≠ current.stepNumber + 1 then
      .error "agent replay source transition is invalid"
    else if ¬replay.Matches call then .error "agent replay identity is invalid"
    else if toolCallID ≠ call.toolCallID ∨ replay.result.actionVersion ≠ call.actionVersion ∨
        toolOutputInvalid output then
      .error "agent replay result is invalid"
    else if replay.result.succeeded ∧
        (errorCode ≠ "" ∨ replay.result.failureClass ≠ .none) then
      .error "successful agent replay result contains failure facts"
    else if replay.result.succeeded = false ∧ (validFailureCode errorCode = false ∨
        (replay.result.failureClass ≠ .agentRepairable ∧
          replay.result.failureClass ≠ .terminal)) then
      .error "failed agent replay result is invalid"
    else
      let next := { pending.state with
        status := .running
        pendingToolCall := none
        pendingToolStarted := false
        lastToolResult := some {
          toolCallID, actionVersion := replay.result.actionVersion
          succeeded := replay.result.succeeded, output, errorCode } }
      if replay.result.succeeded = false ∧ replay.result.failureClass = .terminal then
        .ok {
          state := { next with status := .failed, failureCode := errorCode }
          eventKinds := [.toolCall, .toolResult, .runFailed] }
      else .ok { state := next, eventKinds := [.toolCall, .toolResult, .runStatusChanged] }

/-! ## Committing a transition -/

/-- A call of a reducer whose transition is committed with its events. -/
inductive TimelineCall
  | reducer (call : ReducerCall)
  | rejectToolDecision (failure : ToolDecisionFailure)
  | replayResolvedTool (input : RuntimeInput) (toolSchemaVersion : ℤ) (replay : ToolReplay)

/-- The transition, and the call it replays. -/
def TimelineCall.apply (ctx : RuntimeContext) (state : RuntimeState) :
    TimelineCall → Except String (RuntimeTransition × Option ToolCallDecision)
  | .reducer call => (call.apply ctx state).map (·, none)
  | .rejectToolDecision failure =>
    (AgentRuntime.rejectToolDecision ctx state failure).map (·, none)
  | .replayResolvedTool input toolSchemaVersion replay => do
    let pending ← advanceForToolSchema ctx state input toolSchemaVersion
    let transition ← AgentRuntime.replayResolvedTool ctx state pending replay
    return (transition, some replay.call)

/-- What a run keeps in the database. -/
structure TimelineStore where
  checkpoint : RuntimeState
  lastEventSequence : ℤ
  items : List TimelineItem

/-- The transition is one of the run. -/
def validateAgentRuntimeTransition (previous : RuntimeState) (transition : RuntimeTransition)
    (replay : Option ToolCallDecision) : Except String Unit :=
  let state := transition.state
  if previous.stateVersion < 1 ∨ state.stateVersion ≠ previous.stateVersion + 1 ∨
      (state.stepNumber ≠ previous.stepNumber ∧ state.stepNumber ≠ previous.stepNumber + 1) ∨
      state.maxSteps ≠ previous.maxSteps ∨ state.userMessage ≠ previous.userMessage ∨
      state.maxSteps < 1 ∨ state.maxSteps > 24 ∨ previous.status.valid = false ∨
      state.status.valid = false then
    .error "agent runtime transition boundary is invalid"
  else if transition.eventKinds = [] ∨ transition.eventKinds.length > 8 then
    .error "agent runtime transition events are invalid"
  else if replay.isSome ∧ (previous.pendingToolCall.isSome ∨ state.pendingToolCall.isSome) then
    .error "agent replayed tool transition is invalid"
  else .ok ()

/-- A replayed call is shown as if it had been pending between its two events. -/
def agentRuntimeTransitionEventStates (previous state : RuntimeState)
    (replay : Option ToolCallDecision) (kind : EventKind) : RuntimeState × RuntimeState :=
  match replay with
  | none => (previous, state)
  | some call =>
    let callState := { state with
      pendingToolCall := some call, pendingToolStarted := false, lastToolResult := none }
    match kind with
    | .toolCall => (previous, callState)
    | .toolResult => (callState, state)
    | _ => (previous, state)

def persistAgentTimelineEvents (previous state : RuntimeState) (replay : Option ToolCallDecision) :
    List EventKind → ℤ → Timeline → Except String Timeline
  | [], _, timeline => .ok timeline
  | kind :: rest, sequence, timeline => do
    let states := agentRuntimeTransitionEventStates previous state replay kind
    let timeline ← persistAgentTimelineEvent ctx states.1 states.2 kind sequence timeline
    persistAgentTimelineEvents previous state replay rest (sequence + 1) timeline

/-- The timeline's part of a commit. -/
def TimelineStore.persistEvents (s : TimelineStore) (transition : RuntimeTransition)
    (replay : Option ToolCallDecision) : Except String Timeline :=
  persistAgentTimelineEvents ctx s.checkpoint transition.state replay transition.eventKinds
    (s.lastEventSequence + 1) (.ofItems s.items)

def commitAgentRuntimeTransition (s : TimelineStore) (transition : RuntimeTransition)
    (replay : Option ToolCallDecision) : Except String TimelineStore := do
  validateAgentRuntimeTransition s.checkpoint transition replay
  let timeline ← s.persistEvents ctx transition replay
  return {
    checkpoint := transition.state
    lastEventSequence := s.lastEventSequence + transition.eventKinds.length
    items := timeline.items }

/-! ## Deltas -/

def ensureAgentMessageStreamWritable (state : RuntimeState) : Except String Unit :=
  if runtimeStatusTerminal state.status then .error errAgentMessageStreamClosed else .ok ()

/-- An event of the message, and the mutation of its item. -/
def moveMessage (s : TimelineStore) (stepNumber : ℤ) (toStatus : TimelineItemStatus)
    (content : TimelineContent) (allowInsert : Bool) : Except String TimelineStore := do
  let content ← marshalAgentTimelineContent ctx content
  ensureAgentMessageStreamWritable s.checkpoint
  let sequence := s.lastEventSequence + 1
  let timeline ← persistAgentTimelineMutation ctx
    { itemID := .message stepNumber, kind := .agentMessage, fromStatus := some .inProgress, toStatus
      sourceEventSequence := sequence, content, allowInsert } (.ofItems s.items)
  return { s with lastEventSequence := sequence, items := timeline.items }

def appendAgentMessageDelta (s : TimelineStore) (stepNumber : ℤ) (message : String)
    (started : Bool) : Except String TimelineStore :=
  if message = "" then .error errAgentTimelineConflict
  else moveMessage ctx s stepNumber .inProgress (.message message) started

def failAgentMessageStream (s : TimelineStore) (stepNumber : ℤ) (message failureCode : String) :
    Except String TimelineStore :=
  if message = "" ∨ failureCode = "" ∨ failureCode.utf8ByteSize > 80 then
    .error errAgentTimelineConflict
  else moveMessage ctx s stepNumber .failed (.failedMessage message failureCode) false

/-! ## The run of a timeline -/

/-- `initializeAgentRun`: the first checkpoint, and the message the run answers. -/
def initializeAgentRun (clientRequestID userMessage : String) (maxSteps : ℤ)
    (configuration : RunConfiguration) (limits : Option RuntimeLimits) :
    Except String TimelineStore := do
  let state : RuntimeState := {
    stateVersion := 1, stepNumber := 0, maxSteps, status := .queued
    userMessage := trimSpace userMessage, configuration, limits }
  let state ← validateRuntimeState ctx.runtime state
  return {
    checkpoint := state
    lastEventSequence := 2
    items := [{
      id := .userMessage clientRequestID, kind := .userMessage, status := .completed, ordinal := 1
      sourceEventSequence := 2, content := .userMessage clientRequestID state.userMessage }] }

inductive TimelineAction
  | transition (call : TimelineCall)
  | delta (stepNumber : ℤ) (message : String) (started : Bool)
  | failStream (stepNumber : ℤ) (message failureCode : String)

/-- What an action leads to; a transaction that fails leaves nothing behind. -/
def timelineStep (s : TimelineStore) : TimelineAction → Option TimelineStore
  | .transition call =>
    match call.apply ctx.runtime s.checkpoint with
    | .error _ => none
    | .ok (transition, replay) => (commitAgentRuntimeTransition ctx s transition replay).toOption
  | .delta stepNumber message started =>
    (appendAgentMessageDelta ctx s stepNumber message started).toOption
  | .failStream stepNumber message failureCode =>
    (failAgentMessageStream ctx s stepNumber message failureCode).toOption

/-! ## What is in progress -/

/-- The items in progress. -/
def TimelineStore.active (s : TimelineStore) : List TimelineItem :=
  s.items.filter (·.status = .inProgress)

/-- The item of what a run waits for. -/
def openItem (state : RuntimeState) : Option TimelineItemID :=
  if runtimeStatusTerminal state.status then none
  else
    match state.pendingClarification, state.pendingToolCall with
    | some pending, _ => some (clarificationItemID pending.request)
    | none, some call => some (toolCallItemID call)
    | none, none => none

/-- The item shows what the run is doing. -/
def Shows (state : RuntimeState) (id : TimelineItemID) : Prop :=
  openItem state = some id ∨ state.status = .running ∧ id = .message state.stepNumber

/-- The discipline of a timeline. -/
structure TimelineStore.Disciplined (s : TimelineStore) : Prop where
  single : s.active.length ≤ 1
  shows : ∀ item ∈ s.active, Shows s.checkpoint item.id
  terminal : runtimeStatusTerminal s.checkpoint.status = true → s.active = []
  interruptible : ∀ version transition,
    interrupt ctx.runtime s.checkpoint version = .ok transition →
    ∃ timeline, s.persistEvents ctx transition none = .ok timeline

/-- The message of the current step is still being written. -/
def TimelineStore.streaming (s : TimelineStore) : Bool :=
  s.items.any fun item ↦
    item.id = .message s.checkpoint.stepNumber && item.status = .inProgress

/-- The decision is the final answer, and it completes the run. -/
def completesRun (state : RuntimeState) (input : RuntimeInput) : Bool :=
  match input.decision.kind, input.decision.final with
  | .final, some final =>
    state.expectedDelivery.all (·.equal final.expectedDelivery) &&
      missingRequiredSkillDirs state.configuration.skills state.loadedSkillDirs = [] &&
      (verifyDelivery final.expectedDelivery input.evidence).status = .satisfied
  | _, _ => false

/-- The call closes the message that is being written, or lets it be written on. -/
def TimelineCall.mindsMessage (state : RuntimeState) : TimelineCall → Bool
  | .reducer (.advance input _) => completesRun state input
  | .reducer (.interrupt _) | .reducer (.appendSteer _) => true
  | _ => false

/-- The condition: a run does not go on before its message is closed, and deltas are those of the
model request that is under way. -/
def TimelineStore.fits (s : TimelineStore) : TimelineAction → Bool
  | .transition call => !s.streaming || call.mindsMessage s.checkpoint
  | .delta stepNumber _ _ =>
    s.checkpoint.status = .running && stepNumber = s.checkpoint.stepNumber
  | .failStream _ _ _ => true

abbrev TimelineStore.Fits (s : TimelineStore) (action : TimelineAction) : Prop :=
  s.fits action = true

end HMaigc.AgentRuntime
