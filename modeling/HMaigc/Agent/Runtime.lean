import HMaigc.Agent.Clarification
import HMaigc.Agent.Configuration
import HMaigc.Go.Json
import Mathlib.Data.List.Sort

/-!
# The agent's runtime state and its reducers

`agentruntime/runtime.go` and the reducer of `agentruntime/clarification.go`.  A run is a checkpoint
that a reducer takes to the next one; every reducer validates the checkpoint it is given before it
looks at anything else, so a checkpoint that does not validate is the end of its run.

Validation trims the texts of the chosen generation models in place, and `validateRuntimeState`
returns the state as it leaves it.
-/

set_option autoImplicit false

namespace HMaigc.AgentRuntime

open Go

def maxRuntimeSteps : ℤ := 24

def maxRuntimeToolCalls : ℤ := 64

def agentToolResultLimit : ℕ := 256 * 1024

inductive RunStatus
  | queued | running | waitingInput | waitingApproval | waitingTool | succeeded | failed | cancelled
  | other (name : String)
  deriving DecidableEq

def RunStatus.valid : RunStatus → Bool
  | .other _ => false
  | _ => true

def runtimeStatusTerminal (status : RunStatus) : Bool :=
  status = .succeeded || status = .failed || status = .cancelled

/-- The events the reducers record. -/
inductive EventKind
  | runStatusChanged | runSteered | runInterrupted | modelRejected | clarificationRequested
  | clarificationAnswerSaved | clarificationResponded | toolCall | approvalRequired
  | approvalDecided | toolStarted | toolResult | runCompleted | runFailed | agentMessageCompleted
  deriving DecidableEq

/-! ## The state -/

structure RuntimeLimits where
  maxToolCalls : ℤ
  toolCallsUsed : ℤ
  startedAt : Time
  deadlineAt : Time

structure ToolResult where
  toolCallID : String
  actionVersion : ℤ
  succeeded : Bool
  output : String
  errorCode : String := ""

structure ModelDecisionFeedback where
  code : String
  reason : String

structure PendingSteer where
  clientRequestID : String
  message : String
  deriving DecidableEq

structure RuntimeState where
  stateVersion : ℤ
  stepNumber : ℤ
  maxSteps : ℤ
  status : RunStatus
  expectedDelivery : Option ExpectedDelivery := none
  verification : Option DeliveryVerification := none
  pendingToolCall : Option ToolCallDecision := none
  pendingToolStarted : Bool := false
  pendingClarification : Option PendingClarification := none
  clarificationHistory : List CompletedClarification := []
  lastToolResult : Option ToolResult := none
  decisionFeedback : Option ModelDecisionFeedback := none
  finalMessage : String := ""
  failureCode : String := ""
  userMessage : String
  configuration : RunConfiguration
  loadedSkillDirs : List String := []
  pendingSteers : List PendingSteer := []
  limits : Option RuntimeLimits := none

/-! ## Validation -/

def validateRuntimeLimits (limits : Option RuntimeLimits) : Except String Unit :=
  match limits with
  | none => .ok ()
  | some limits =>
    if limits.maxToolCalls < 1 ∨ limits.maxToolCalls > maxRuntimeToolCalls ∨
        limits.toolCallsUsed < 0 ∨ limits.toolCallsUsed > limits.maxToolCalls ∨
        isZero limits.startedAt ∨ isZero limits.deadlineAt ∨
        ¬limits.startedAt < limits.deadlineAt then
      .error "agent runtime limits are invalid"
    else .ok ()

/-- The texts of a steer are trimmed, not empty and not too long. -/
def checkPendingSteer (pending : PendingSteer) : Except String Unit :=
  if trimSpace pending.clientRequestID ≠ pending.clientRequestID ∨ pending.clientRequestID = "" ∨
      pending.clientRequestID.utf8ByteSize > 120 ∨ trimSpace pending.message ≠ pending.message ∨
      pending.message = "" ∨ pending.message.utf8ByteSize > 64 * 1024 then
    .error "agent runtime pending steer is invalid"
  else .ok ()

def validatePendingSteers (pendingSteers : List PendingSteer) : Except String Unit :=
  checkDistinct (·.clientRequestID) checkPendingSteer "agent runtime pending steer is duplicated"
    (fun _ ↦ .ok ()) [] pendingSteers

def validModelDecisionFeedbackCode (code : String) : Bool :=
  code = "model_decision_invalid" || code = "delivery_contract_changed" ||
    code = "required_skill_not_loaded" || code = "clarification_identity_reused"

/-- The request is made under the contract of the run. -/
def checkDelivery (state : RuntimeState) (request : ClarificationDecision) : Except String Unit :=
  if state.expectedDelivery.any (·.equal request.expectedDelivery) then .ok ()
  else .error "agent runtime clarification delivery contract is invalid"

/-- The checks of the pending request. -/
def checkPendingClarification (state : RuntimeState) (pending : PendingClarification) :
    Except String Unit := do
  validateClarificationRecord pending.request pending.answers false
  if pending.request.requestID ∈ state.clarificationHistory.map (·.request.requestID) then
    .error "agent runtime clarification identity is reused"
  else checkDelivery state pending.request

def validateClarificationState (state : RuntimeState) : Except String Unit :=
  if (state.status = .waitingInput ∧ (state.pendingClarification.isNone ∨
        state.pendingToolCall.isSome ∨ state.pendingToolStarted)) ∨
      (state.status ≠ .waitingInput ∧ state.pendingClarification.isSome) then
    .error "agent runtime clarification state is invalid"
  else do
    checkDistinct (·.request.requestID) validateCompletedClarification
      "agent runtime clarification history is duplicated"
      (fun completed ↦ checkDelivery state completed.request) [] state.clarificationHistory
    match state.pendingClarification with
    | none => .ok ()
    | some pending => checkPendingClarification state pending

/-- A loaded skill is named by a trimmed text. -/
def checkLoadedSkillDir (dir : String) : Except String Unit :=
  if trimSpace dir ≠ dir ∨ dir = "" then .error "agent runtime loaded skill facts are invalid"
  else .ok ()

def validateLoadedSkillDirs (selected : List SkillSelection) (loaded : List String) :
    Except String Unit :=
  checkAscending id checkLoadedSkillDir "agent runtime loaded skill facts are invalid"
    (fun dir ↦
      if dir ∈ selected.map (·.dir) then .ok ()
      else .error "agent runtime loaded skill facts conflict with configuration")
    "" loaded

def validFeedback (feedback : ModelDecisionFeedback) : Bool :=
  validModelDecisionFeedbackCode (trimSpace feedback.code) && trimSpace feedback.reason ≠ "" &&
    (trimSpace feedback.reason).utf8ByteSize ≤ 240

def userMessageInvalid (message : String) : Prop :=
  isBlank message = true ∨ message.utf8ByteSize > 64 * 1024

instance (message : String) : Decidable (userMessageInvalid message) :=
  inferInstanceAs (Decidable (_ ∨ _))

/-- A check of a contract that need not be set. -/
def checkExpectedDelivery (expected : Option ExpectedDelivery) : Except String Unit :=
  match expected with
  | none => .ok ()
  | some expected => expected.validate

/-- The checks of `validateRuntimeState`, on the trimmed configuration. -/
def checkRuntimeState (ctx : RuntimeContext) (state : RuntimeState) : Except String Unit :=
  if state.stateVersion < 1 ∨ state.stepNumber < 0 ∨ state.maxSteps < 1 ∨
      state.maxSteps > maxRuntimeSteps ∨ state.stepNumber > state.maxSteps then
    .error "agent runtime state boundary is invalid"
  else if state.status.valid = false then .error "agent runtime status is invalid"
  else do
    validateRuntimeLimits state.limits
    if state.pendingToolStarted ∧ ((state.status ≠ .waitingTool ∧ state.status ≠ .cancelled) ∨
        state.pendingToolCall.isNone) then
      .error "agent runtime tool execution state is invalid"
    else do
    validatePendingSteers state.pendingSteers
    validateClarificationState state
    if userMessageInvalid state.userMessage then .error "agent runtime user message is invalid"
    else do
    state.configuration.check ctx
    if state.decisionFeedback.any fun feedback ↦ !validFeedback feedback then
      .error "agent model decision feedback is invalid"
    else do
    checkExpectedDelivery state.expectedDelivery
    validateLoadedSkillDirs state.configuration.skills state.loadedSkillDirs

/-- The state as its validation leaves it. -/
def RuntimeState.trimmed (state : RuntimeState) : RuntimeState :=
  { state with configuration := state.configuration.trimmed }

def validateRuntimeState (ctx : RuntimeContext) (state : RuntimeState) :
    Except String RuntimeState := do
  checkRuntimeState ctx state.trimmed
  return state.trimmed

def validateAdvancingState (ctx : RuntimeContext) (state : RuntimeState) :
    Except String RuntimeState := do
  let state ← validateRuntimeState ctx state
  if state.stepNumber ≥ state.maxSteps then .error "agent runtime state boundary is invalid"
  else if userMessageInvalid state.userMessage then
    .error "agent runtime user message is invalid"
  else if state.status ≠ .queued ∧ state.status ≠ .running then
    .error "agent runtime state is not advanceable"
  else .ok state

/-! ## Requests and transitions -/

structure SteerRequest where
  clientRequestID : String
  message : String
  expectedStateVersion : ℤ

inductive ApprovalResolution
  | approved | rejected | invalidated
  deriving DecidableEq

/-- A state with the events that led to it; a replay has none. -/
structure RuntimeTransition where
  state : RuntimeState
  eventKinds : List EventKind := []
  approvalProposalHash : String := ""
  approvalResolution : Option ApprovalResolution := none

structure RuntimeInput where
  decision : ModelDecision
  evidence : DeliveryEvidence

inductive ToolFailureClass
  | none | agentRepairable | terminal | other (name : String)
  deriving DecidableEq

structure ToolResolution where
  toolCallID : String
  actionVersion : ℤ
  succeeded : Bool
  output : String
  errorCode : String := ""
  failureClass : ToolFailureClass := .none

structure ToolExecution where
  toolCallID : String
  actionVersion : ℤ

inductive ToolApprovalDecision
  | approved | rejected | other (name : String)

structure ToolApproval where
  toolCallID : String
  actionVersion : ℤ
  decision : ToolApprovalDecision
  proposalHash : String

def approvalProposalExpired : String := "approval_proposal_expired"

def approvalProposalMismatch : String := "approval_proposal_mismatch"

structure ToolApprovalInvalidation where
  toolCallID : String
  actionVersion : ℤ
  proposalHash : String
  errorCode : String

structure ClarificationResponseSubmission where
  requestID : String
  expectedStateVersion : ℤ
  questionID : String
  answer : ClarificationAnswerInput
  complete : Bool

def failureRuntimeDeadlineExceeded : String := "runtime_deadline_exceeded"

def errSteerConflict : String := "agent steer conflict"

def errInterruptConflict : String := "agent interrupt conflict"

def validFailureCode (value : String) : Bool :=
  value ≠ "" && value.utf8ByteSize ≤ 80 &&
    value.toList.all fun c ↦ ('a' ≤ c && c ≤ 'z') || ('0' ≤ c && c ≤ '9') || c = '_'

def validSHA256 (value : String) : Bool :=
  value.utf8ByteSize = 64 &&
    value.toList.all fun c ↦ ('0' ≤ c && c ≤ '9') || ('a' ≤ c && c ≤ 'f')

/-! ## Reducers -/

/-- What most reducers end with: the run goes on, or has used up its steps. -/
def continueOrExhaust (next : RuntimeState) (eventKinds : List EventKind) : RuntimeTransition :=
  if next.stepNumber ≥ next.maxSteps then
    { state := { next with status := .failed, failureCode := "step_budget_exhausted" }
      eventKinds := eventKinds ++ [.runFailed] }
  else
    { state := { next with status := .running }, eventKinds := eventKinds ++ [.runStatusChanged] }

/-- The flag says that the request had been accepted before. -/
def appendSteer (ctx : RuntimeContext) (current : RuntimeState) (request : SteerRequest) :
    Except String (RuntimeTransition × Bool) := do
  let current ← validateRuntimeState ctx current
  let clientRequestID := trimSpace request.clientRequestID
  let message := trimSpace request.message
  if clientRequestID = "" ∨ clientRequestID.utf8ByteSize > 120 ∨ message = "" ∨
      message.utf8ByteSize > 64 * 1024 ∨ request.expectedStateVersion < 1 then
    .error errSteerConflict
  else
    match current.pendingSteers.find? (·.clientRequestID == clientRequestID) with
    | some pending =>
      if pending.message ≠ message then .error errSteerConflict
      else .ok ({ state := current }, true)
    | none =>
      if runtimeStatusTerminal current.status ∨
          current.stateVersion ≠ request.expectedStateVersion then
        .error errSteerConflict
      else do
      let next ← validateRuntimeState ctx { current with
        stateVersion := current.stateVersion + 1
        pendingSteers := current.pendingSteers ++ [{ clientRequestID, message }] }
      return ({ state := next, eventKinds := [.runSteered] }, false)

def consumePendingSteersAtSafeBoundary (ctx : RuntimeContext) (current : RuntimeState) :
    Except String (RuntimeState × List PendingSteer) := do
  let current ← validateRuntimeState ctx current
  if current.status ≠ .queued ∧ current.status ≠ .running then .error errSteerConflict
  else if current.pendingToolCall.isSome ∨ current.pendingToolStarted ∨
      current.pendingClarification.isSome then
    .error errSteerConflict
  else if current.pendingSteers.isEmpty then .ok (current, [])
  else do
  let next ← validateRuntimeState ctx { current with pendingSteers := [] }
  return (next, current.pendingSteers)

def interrupt (ctx : RuntimeContext) (current : RuntimeState) (expectedStateVersion : ℤ) :
    Except String RuntimeTransition := do
  let current ← validateRuntimeState ctx current
  if expectedStateVersion < 1 ∨ current.stateVersion ≠ expectedStateVersion ∨
      runtimeStatusTerminal current.status then
    .error errInterruptConflict
  else do
  let next ← validateRuntimeState ctx { current with
    stateVersion := current.stateVersion + 1
    status := .cancelled
    pendingSteers := []
    pendingClarification := none
    decisionFeedback := none
    verification := none
    failureCode := ""
    -- A tool that has been started stays on record.
    pendingToolCall := if current.pendingToolStarted then current.pendingToolCall else none }
  return { state := next, eventKinds := [.runInterrupted] }

/-- What is left of a pending tool call when the run ends without its result. -/
def abandonedToolResult (call : ToolCallDecision) (errorCode : String) : ToolResult :=
  { toolCallID := call.toolCallID, actionVersion := call.actionVersion, succeeded := false
    output := "\x7b\x7d", errorCode }

def terminate (ctx : RuntimeContext) (current : RuntimeState) (failureCode : String) :
    Except String RuntimeTransition := do
  let current ← validateRuntimeState ctx current
  let failureCode := trimSpace failureCode
  if runtimeStatusTerminal current.status then .error "agent runtime is already terminal"
  else if validFailureCode failureCode = false then .error "agent runtime failure code is invalid"
  else
    .ok {
      state := { current with
        stateVersion := current.stateVersion + 1
        status := .failed
        verification := none
        failureCode
        lastToolResult := match current.pendingToolCall with
          | some call => some (abandonedToolResult call failureCode)
          | none => current.lastToolResult
        pendingToolCall := none
        pendingToolStarted := false
        pendingClarification := none }
      eventKinds := match current.pendingToolCall with
        | some _ => [.toolResult, .runFailed]
        | none => [.runFailed] }

/-- The flag says that the deadline has passed. -/
def expireRuntimeAt (ctx : RuntimeContext) (current : RuntimeState) (now : Time) :
    Except String (RuntimeTransition × Bool) := do
  let current ← validateRuntimeState ctx current
  if isZero now then .error "agent runtime deadline check time is invalid"
  else if (current.limits.all fun limits ↦ now < limits.deadlineAt) ∨
      runtimeStatusTerminal current.status then
    .ok ({ state := current }, false)
  else do
  let transition ← terminate ctx current failureRuntimeDeadlineExceeded
  return (transition, true)

def beginModelRequest (ctx : RuntimeContext) (current : RuntimeState) :
    Except String RuntimeTransition := do
  let current ← validateRuntimeState ctx current
  if current.status ≠ .queued then
    .error "agent runtime is not queued for a model request"
  else do
  let next ← validateRuntimeState ctx { current with
    stateVersion := current.stateVersion + 1, status := .running }
  return { state := next, eventKinds := [.runStatusChanged] }

def fail (ctx : RuntimeContext) (current : RuntimeState) (failureCode : String) :
    Except String RuntimeTransition := do
  let current ← validateAdvancingState ctx current
  let failureCode := trimSpace failureCode
  if validFailureCode failureCode = false then .error "agent runtime failure code is invalid"
  else
    .ok {
      state := { current with
        stateVersion := current.stateVersion + 1
        stepNumber := current.stepNumber + 1
        status := .failed
        pendingToolCall := none
        pendingToolStarted := false
        verification := none
        failureCode }
      eventKinds := [.runFailed] }

def missingRequiredSkillDirs (selected : List SkillSelection) (loaded : List String) :
    List String :=
  (selected.map (·.dir)).filter fun dir ↦ dir ∉ loaded

/-- The feedback on a final answer that comes before all selected skills are loaded. -/
def missingSkillsFeedback (missing : List String) : ModelDecisionFeedback :=
  ⟨"required_skill_not_loaded",
    "load the missing selected skills before final delivery: " ++ String.intercalate ", " missing⟩

/-- A request for clarification under the contract of the run. -/
def advanceClarification (next : RuntimeState) (request : ClarificationDecision) :
    RuntimeTransition :=
  if next.stepNumber ≥ next.maxSteps then
    { state := { next with status := .failed, failureCode := "step_budget_exhausted" }
      eventKinds := [.runFailed] }
  else if (completedClarificationByRequestID next.clarificationHistory
      request.requestID).isSome then
    { state := { next with
        status := .running
        decisionFeedback := some ⟨"clarification_identity_reused",
          "clarification requestId was already completed and must not be reused"⟩ }
      eventKinds := [.modelRejected, .runStatusChanged] }
  else
    { state := { next with
        status := .waitingInput, pendingClarification := some { request, answers := [] } }
      eventKinds := [.clarificationRequested, .runStatusChanged] }

/-- A tool call under the contract of the run: it uses up one of the run's tool calls. -/
def advanceToolCall (next : RuntimeState) (call : ToolCallDecision) (toolSchemaVersion : ℤ) :
    Except String RuntimeTransition :=
  if next.stepNumber ≥ next.maxSteps then
    .ok {
      state := { next with status := .failed, failureCode := "step_budget_exhausted" }
      eventKinds := [.runFailed] }
  else
    match toolPolicyForSchema call.toolName toolSchemaVersion with
    | none => .error "agent tool policy is unavailable"
    | some policy =>
      if next.limits.any fun limits ↦ limits.toolCallsUsed ≥ limits.maxToolCalls then
        .ok {
          state := { next with status := .failed, failureCode := "tool_call_budget_exhausted" }
          eventKinds := [.runFailed] }
      else
        let next := { next with
          limits := next.limits.map fun limits ↦
            { limits with toolCallsUsed := limits.toolCallsUsed + 1 }
          status := .waitingTool
          pendingToolCall := some call }
        if approvalRequiredFor policy then
          .ok {
            state := { next with status := .waitingApproval }
            eventKinds := [.toolCall, .approvalRequired, .runStatusChanged] }
        else .ok { state := next, eventKinds := [.toolCall, .runStatusChanged] }

/-- A final answer under the contract of the run. -/
def advanceFinal (next : RuntimeState) (final : FinalDecision) (evidence : DeliveryEvidence) :
    RuntimeTransition :=
  let missing := missingRequiredSkillDirs next.configuration.skills next.loadedSkillDirs
  if missing ≠ [] then
    continueOrExhaust
      { next with finalMessage := "", decisionFeedback := some (missingSkillsFeedback missing) }
      [.modelRejected]
  else
    let verification := verifyDelivery final.expectedDelivery evidence
    let next := { next with verification := some verification, finalMessage := final.message }
    match verification.status with
    | .satisfied =>
      { state := { next with status := .succeeded }
        eventKinds := [.agentMessageCompleted, .runCompleted] }
    | .failed =>
      { state := { next with status := .failed, failureCode := "delivery_contract_invalid" }
        eventKinds := [.runFailed] }
    | .repairable => continueOrExhaust next []

/-- The decision is not under the contract of the run. -/
def rejectChangedDelivery (next : RuntimeState) : RuntimeTransition :=
  continueOrExhaust
    { next with
      pendingToolCall := none
      pendingToolStarted := false
      verification := none
      decisionFeedback := some ⟨"delivery_contract_changed",
        "expectedDelivery must exactly match the contract frozen by the first model decision"⟩
      finalMessage := ""
      failureCode := "" }
    [.modelRejected]

/-- The state a decision under the contract of the run is applied to. -/
def RuntimeState.decided (next : RuntimeState) : RuntimeState :=
  { next with
    pendingToolCall := none
    pendingToolStarted := false
    lastToolResult := none
    decisionFeedback := none
    verification := none
    failureCode := ""
    pendingClarification := none }

def advanceForToolSchema (ctx : RuntimeContext) (current : RuntimeState) (input : RuntimeInput)
    (toolSchemaVersion : ℤ) : Except String RuntimeTransition := do
  let current ← validateAdvancingState ctx current
  let decision ← input.decision.validateForToolSchema ctx.canonicalArguments toolSchemaVersion
  let next := { current with
    stateVersion := current.stateVersion + 1, stepNumber := current.stepNumber + 1 }
  if current.expectedDelivery.any fun expected ↦ !expected.equal decision.expectedDelivery then
    .ok (rejectChangedDelivery next)
  else
    -- The first decision freezes its contract; a later one repeats it.
    let next := { next with expectedDelivery := some decision.expectedDelivery }.decided
    match decision with
    | .clarification request => .ok (advanceClarification next request)
    | .toolCall call => advanceToolCall next call toolSchemaVersion
    | .final final => .ok (advanceFinal next final input.evidence)

def advance (ctx : RuntimeContext) (current : RuntimeState) (input : RuntimeInput) :
    Except String RuntimeTransition :=
  advanceForToolSchema ctx current input currentToolSchemaVersion

def rejectModelDecision (ctx : RuntimeContext) (current : RuntimeState)
    (feedback : ModelDecisionFeedback) : Except String RuntimeTransition := do
  let current ← validateAdvancingState ctx current
  if validFeedback feedback = false then .error "agent model decision feedback is invalid"
  else
    .ok (continueOrExhaust
      { current with
        stateVersion := current.stateVersion + 1
        stepNumber := current.stepNumber + 1
        pendingToolCall := none
        pendingToolStarted := false
        decisionFeedback := some ⟨trimSpace feedback.code, trimSpace feedback.reason⟩
        verification := none
        finalMessage := ""
        failureCode := "" }
      [.modelRejected])

def rejectReusedToolIdentity (ctx : RuntimeContext) (current : RuntimeState)
    (call : ToolCallDecision) : Except String RuntimeTransition := do
  let current ← validateAdvancingState ctx current
  let call ← call.validate ctx.canonicalArguments currentToolSchemaVersion
  return continueOrExhaust
    { current with
      stateVersion := current.stateVersion + 1
      stepNumber := current.stepNumber + 1
      pendingToolCall := none
      pendingToolStarted := false
      verification := none
      finalMessage := ""
      failureCode := ""
      decisionFeedback := none
      lastToolResult := some {
        toolCallID := call.toolCallID, actionVersion := call.actionVersion, succeeded := false
        output := "\x7b\"reason\":\"toolCallId and actionVersion were already used\"\x7d"
        errorCode := "tool_identity_reused" } }
    [.toolResult]

/-! ### Tool results -/

/-- The output of a tool is one JSON object. -/
def toolOutputInvalid (output : String) : Prop :=
  output = "" ∨ output.utf8ByteSize > agentToolResultLimit ∨ output.toList.head? ≠ some '\x7b' ∨
    parse output = none

instance (output : String) : Decidable (toolOutputInvalid output) :=
  inferInstanceAs (Decidable (_ ∨ _))

def capabilityPayloadLimit : ℕ := 128 * 1024

def capabilityDisplayNameLimit : ℕ := 240

def capabilityInstructionsLimit : ℕ := 64 * 1024

def normalizeText (value : String) (limit : ℕ) : Option String :=
  let normalized := trimSpace value
  if normalized = "" ∨ normalized.length > limit then none else some normalized

def decodeSkillsLoadResult (ctx : RuntimeContext) (payload : String) : Option SkillsLoadResult := do
  let trimmed := trimSpace payload
  guard (trimmed ≠ "" ∧ trimmed.utf8ByteSize ≤ capabilityPayloadLimit ∧
    trimmed.toList.head? = some '\x7b')
  let wire ← ctx.decodeSkillsLoad trimmed
  guard (1 ≤ wire.version ∧ validSHA256 wire.checksum = true)
  let skillDir ← normalizeText wire.skillDir capabilityDisplayNameLimit
  let instructions ← normalizeText wire.instructions capabilityInstructionsLimit
  return { wire with skillDir, instructions }

def resolvedSkillDir (ctx : RuntimeContext) (selected : List SkillSelection) (output : String) :
    Except String String :=
  match decodeSkillsLoadResult ctx output with
  | none => .error "agent skill load result is invalid"
  | some result =>
    if selected.any fun skill ↦
        skill.dir == result.skillDir && skill.version == result.version &&
          skill.checksum == result.checksum && skill.instructions == result.instructions then
      .ok result.skillDir
    else .error "agent skill load result conflicts with frozen selection"

/-- `sort.Strings` after one name is appended to sorted ones. -/
def appendLoadedSkillDir (current : List String) (dir : String) : List String :=
  if dir ∈ current then current else current.orderedInsert (· ≤ ·) dir

/-- The skills loaded once a tool call has its result. -/
def loadedAfter (ctx : RuntimeContext) (current : RuntimeState) (call : ToolCallDecision)
    (resolution : ToolResolution) : Except String (List String) :=
  if resolution.succeeded ∧ call.toolName = .skillsLoad then
    (resolvedSkillDir ctx current.configuration.skills resolution.output).map
      (appendLoadedSkillDir current.loadedSkillDirs)
  else .ok current.loadedSkillDirs

def resolveTool (ctx : RuntimeContext) (current : RuntimeState) (resolution : ToolResolution) :
    Except String RuntimeTransition := do
  let current ← validateRuntimeState ctx current
  match current.pendingToolCall with
  | none => .error "agent runtime is not waiting for a tool result"
  | some call =>
    let toolCallID := trimSpace resolution.toolCallID
    let errorCode := trimSpace resolution.errorCode
    let output := trimSpace resolution.output
    if current.status ≠ .waitingTool then
      .error "agent runtime is not waiting for a tool result"
    else if toolCallID ≠ call.toolCallID ∨ resolution.actionVersion ≠ call.actionVersion then
      .error "agent tool result identity is invalid"
    else if toolOutputInvalid output then .error "agent tool result output is invalid"
    else if resolution.succeeded ∧ errorCode ≠ "" then
      .error "successful agent tool result cannot have an error code"
    else if resolution.succeeded ∧ resolution.failureClass ≠ .none then
      .error "successful agent tool result cannot have a failure class"
    else if resolution.succeeded = false ∧ validFailureCode errorCode = false then
      .error "failed agent tool result requires an error code"
    else if resolution.succeeded = false ∧ resolution.failureClass ≠ .agentRepairable ∧
        resolution.failureClass ≠ .terminal then
      .error "failed agent tool result requires a failure class"
    else do
    let loadedSkillDirs ← loadedAfter ctx current call resolution
    let next := { current with
      stateVersion := current.stateVersion + 1
      pendingToolCall := none
      pendingToolStarted := false
      lastToolResult := some {
        toolCallID, actionVersion := resolution.actionVersion, succeeded := resolution.succeeded
        output, errorCode }
      loadedSkillDirs }
    if resolution.succeeded = false ∧ resolution.failureClass = .terminal then
      .ok {
        state := { next with status := .failed, failureCode := errorCode }
        eventKinds := [.toolResult, .runFailed] }
    else .ok (continueOrExhaust next [.toolResult])

def beginToolExecution (ctx : RuntimeContext) (current : RuntimeState) (execution : ToolExecution) :
    Except String RuntimeTransition := do
  let current ← validateRuntimeState ctx current
  match current.pendingToolCall with
  | none => .error "agent runtime tool is not pending execution"
  | some call =>
    if current.status ≠ .waitingTool ∨ current.pendingToolStarted then
      .error "agent runtime tool is not pending execution"
    else if trimSpace execution.toolCallID ≠ call.toolCallID ∨
        execution.actionVersion ≠ call.actionVersion then
      .error "agent tool execution identity is invalid"
    else
      .ok {
        state := { current with
          stateVersion := current.stateVersion + 1, pendingToolStarted := true }
        eventKinds := [.toolStarted] }

/-! ### Approvals -/

/-- The pending tool call of a run that waits for its approval. -/
def awaitedApproval (current : RuntimeState) (toolCallID : String) (actionVersion : ℤ)
    (conflict : String) : Except String Unit :=
  match current.pendingToolCall with
  | none => .error "agent runtime is not waiting for tool approval"
  | some call =>
    if current.status ≠ .waitingApproval then
      .error "agent runtime is not waiting for tool approval"
    else if toolCallID ≠ call.toolCallID ∨ actionVersion ≠ call.actionVersion then .error conflict
    else .ok ()

/-- The tool call is dropped, and the run goes on without its result. -/
def RuntimeState.refused (current : RuntimeState) (toolCallID : String) (actionVersion : ℤ)
    (errorCode : String) : RuntimeState :=
  { current with
    stateVersion := current.stateVersion + 1
    pendingToolCall := none
    pendingToolStarted := false
    lastToolResult := some
      { toolCallID, actionVersion, succeeded := false, output := "\x7b\x7d", errorCode }
    failureCode := "" }

def reviewToolApproval (ctx : RuntimeContext) (current : RuntimeState) (approval : ToolApproval) :
    Except String RuntimeTransition := do
  let current ← validateRuntimeState ctx current
  let toolCallID := trimSpace approval.toolCallID
  awaitedApproval current toolCallID approval.actionVersion "agent tool approval identity is invalid"
  let approvalProposalHash := trimSpace approval.proposalHash
  match approval.decision with
  | .approved =>
    if current.stepNumber ≥ current.maxSteps then
      .ok {
        state := { current.refused toolCallID approval.actionVersion "step_budget_exhausted" with
          status := .failed, failureCode := "step_budget_exhausted" }
        eventKinds := [.approvalDecided, .toolResult, .runFailed]
        approvalProposalHash
        approvalResolution := some .approved }
    else
      .ok {
        state := { current with stateVersion := current.stateVersion + 1, status := .waitingTool }
        eventKinds := [.approvalDecided, .runStatusChanged]
        approvalProposalHash
        approvalResolution := some .approved }
  | .rejected =>
    .ok { continueOrExhaust
        (current.refused toolCallID approval.actionVersion "tool_approval_rejected")
        [.approvalDecided, .toolResult] with
      approvalProposalHash
      approvalResolution := some .rejected }
  | .other _ => .error "agent tool approval decision is invalid"

def invalidateToolApproval (ctx : RuntimeContext) (current : RuntimeState)
    (invalidation : ToolApprovalInvalidation) : Except String RuntimeTransition := do
  let current ← validateRuntimeState ctx current
  let toolCallID := trimSpace invalidation.toolCallID
  let approvalProposalHash := trimSpace invalidation.proposalHash
  let errorCode := trimSpace invalidation.errorCode
  awaitedApproval current toolCallID invalidation.actionVersion
    "agent tool approval invalidation identity is invalid"
  if validSHA256 approvalProposalHash = false then
    .error "agent tool approval invalidation proposal hash is invalid"
  else if errorCode ≠ approvalProposalExpired ∧ errorCode ≠ approvalProposalMismatch then
    .error "agent tool approval invalidation error code is invalid"
  else
    .ok { continueOrExhaust (current.refused toolCallID invalidation.actionVersion errorCode)
        [.toolResult] with
      approvalProposalHash
      approvalResolution := some .invalidated }

/-! ### Answers -/

/-- The answer to the pending request.  The flag says that it had been kept before. -/
def answerPending (current : RuntimeState) (pending : PendingClarification) (questionID : String)
    (submission : ClarificationResponseSubmission) : Except String (RuntimeTransition × Bool) := do
  let answer ← canonicalClarificationAnswer pending.request questionID submission.answer
  let answerChanged : Bool :=
    clarificationAnswerByQuestionID pending.answers questionID ≠ some answer
  if submission.complete = false ∧ answerChanged = false then .ok ({ state := current }, true)
  else if submission.expectedStateVersion ≠ current.stateVersion then
    .error errClarificationVersionConflict
  else
    let answers := upsertClarificationAnswer pending.request pending.answers answer
    let saved := if answerChanged then [EventKind.clarificationAnswerSaved] else []
    if submission.complete ∧ clarificationAnswersComplete pending.request answers = false then
      .error errClarificationIncomplete
    else if submission.complete = false then
      .ok ({
        state := { current with
          stateVersion := current.stateVersion + 1
          pendingClarification := some { request := pending.request, answers } }
        eventKinds := saved }, false)
    else
      .ok ({
        state := { current with
          stateVersion := current.stateVersion + 1
          status := .running
          clarificationHistory := current.clarificationHistory ++
            [{ request := pending.request, answers, completionQuestionID := questionID
               completionExpectedStateVersion := submission.expectedStateVersion }]
          pendingClarification := none }
        eventKinds := saved ++ [.clarificationResponded, .runStatusChanged] }, false)

/-- The answer that completed the request is accepted again, any other one refused. -/
def answerCompleted (current : RuntimeState) (completed : CompletedClarification)
    (questionID : String) (submission : ClarificationResponseSubmission) :
    Except String (RuntimeTransition × Bool) := do
  let answer ← canonicalClarificationAnswer completed.request questionID submission.answer
  if submission.complete ∧ questionID = completed.completionQuestionID ∧
      submission.expectedStateVersion = completed.completionExpectedStateVersion ∧
      clarificationAnswerByQuestionID completed.answers questionID = some answer then
    .ok ({ state := current }, true)
  else .error (errClarificationConflict ++ "\n" ++ errClarificationIdentityReused)

def applyClarificationResponse (ctx : RuntimeContext) (current : RuntimeState)
    (submission : ClarificationResponseSubmission) : Except String (RuntimeTransition × Bool) := do
  let current ← validateRuntimeState ctx current
  let requestID := trimSpace submission.requestID
  let questionID := trimSpace submission.questionID
  if boundedDecisionText requestID 120 = false ∨ boundedDecisionText questionID 120 = false ∨
      submission.expectedStateVersion < 1 then
    .error errClarificationAnswerInvalid
  else
    match completedClarificationByRequestID current.clarificationHistory requestID,
      current.pendingClarification with
    | some completed, _ => answerCompleted current completed questionID submission
    | none, none => .error (errClarificationConflict ++ "\n" ++ errClarificationNotPending)
    | none, some pending =>
      if current.status ≠ .waitingInput then
        .error (errClarificationConflict ++ "\n" ++ errClarificationNotPending)
      else if pending.request.requestID ≠ requestID then .error errClarificationConflict
      else answerPending current pending questionID submission

end HMaigc.AgentRuntime
