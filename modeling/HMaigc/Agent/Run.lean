import HMaigc.Agent.Transitions

/-!
# The runs of an agent

A run is any sequence of reducer calls that succeed, with any arguments.

* `advance_reduced` — a decision, and when its feedback is well formed.
* `ReducerCall.apply` — the fifteen reducers as one step, and `Run` — any number of steps.
* `Run.promised` — **what a step may do**, from every checkpoint a run reaches.

One step is left out: the refusal of a final answer whose list of skills still to be loaded is
longer than the feedback a checkpoint may hold (`RefusedAtLength`).  The checkpoint that step makes
is not accepted any more.
-/

set_option autoImplicit false

namespace HMaigc.AgentRuntime

open Go

theorem missingSkillsFeedback_fits {state : RuntimeState} {input : RuntimeInput}
    (hkind : input.decision.kind = .final) (hshort : ¬RefusedAtLength state input) :
    validFeedback (missingSkillsFeedback (missingRequiredSkillDirs state.configuration.skills
      state.loadedSkillDirs)) = true := by
  by_contra hlong
  exact hshort ⟨hkind, by simpa using hlong⟩

theorem rejectChangedDelivery_fits {next : RuntimeState} :
    FeedbackFits (rejectChangedDelivery next).state := by
  intro kept hkept
  rw [rejectChangedDelivery, continueOrExhaust_decisionFeedback] at hkept
  cases hkept
  decide

theorem advanceClarification_fits {next : RuntimeState} {request : ClarificationDecision}
    (hfeedback : next.decisionFeedback = none) :
    FeedbackFits (advanceClarification next request).state := by
  intro kept hkept
  rw [advanceClarification] at hkept
  by_cases hexhausted : next.stepNumber ≥ next.maxSteps
  · rw [if_pos hexhausted] at hkept
    rw [hfeedback] at hkept
    cases hkept
  · rw [if_neg hexhausted] at hkept
    by_cases hreused : (completedClarificationByRequestID next.clarificationHistory
        request.requestID).isSome = true
    · rw [if_pos hreused] at hkept
      cases hkept
      decide
    · rw [if_neg hreused] at hkept
      rw [hfeedback] at hkept
      cases hkept

theorem advanceClarification_eventKinds (next : RuntimeState) (request : ClarificationDecision) :
    (advanceClarification next request).eventKinds ≠ [] := by
  unfold advanceClarification
  split
  · simp
  · split <;> simp

theorem advance_reduced {ctx : RuntimeContext} {state : RuntimeState} {input : RuntimeInput}
    {toolSchemaVersion : ℤ} {transition : RuntimeTransition}
    (h : advanceForToolSchema ctx state input toolSchemaVersion = .ok transition) :
    ∃ current, validateRuntimeState ctx state = .ok current ∧ Outcome ctx current transition ∧
      (¬RefusedAtLength state input → FeedbackFits transition.state) := by
  obtain ⟨current, hadvancing, h⟩ := bind_eq_ok.mp h
  obtain ⟨decision, hdecision, h⟩ := bind_eq_ok.mp h
  have hcurrent := advancing_of_validate hadvancing
  have hvalid := valid_of_validateForToolSchema hdecision
  by_cases hchanged : (current.expectedDelivery.any fun expected ↦
      !expected.equal decision.expectedDelivery) = true
  · rw [if_pos hchanged] at h
    cases h
    refine ⟨current, hcurrent.valid, .moved (continueOrExhaust_eventKinds _ _) ?_,
      fun _ ↦ rejectChangedDelivery_fits⟩
    exact (hcurrent.settled.update _ _ _ _ _ _ _).continueOrExhaust hcurrent.sound
      hcurrent.active _
  · rw [if_neg hchanged] at h
    have hsettled := hcurrent.decided hvalid.delivery hchanged
    cases decision with
    | clarification request =>
      cases h
      cases hvalid with
      | clarification hrequest =>
        refine ⟨current, hcurrent.valid, .moved (advanceClarification_eventKinds _ _) ?_,
          fun _ ↦ advanceClarification_fits rfl⟩
        exact advanceClarification_follows hsettled hcurrent.sound hcurrent.active hrequest rfl rfl
    | toolCall call =>
      obtain ⟨hfollows, hevents, hfeedback⟩ :=
        advanceToolCall_follows hsettled hcurrent.sound hcurrent.active rfl h
      refine ⟨current, hcurrent.valid, .moved hevents hfollows, fun _ kept hkept ↦ ?_⟩
      rw [hfeedback] at hkept
      cases hkept
    | final final =>
      cases h
      obtain ⟨hfollows, hevents⟩ :=
        advanceFinal_follows hsettled hcurrent.sound hcurrent.active rfl
      refine ⟨current, hcurrent.valid, .moved hevents hfollows, fun hshort ↦ ?_⟩
      have hkind : input.decision.kind = .final := by
        rcases validateForToolSchema_eq_ok hdecision with ⟨raw, result, hkind, -⟩ |
          ⟨call, result, -, -, hcall⟩ | ⟨request, result, -, -, hrequest⟩
        · exact hkind
        · cases hcall
        · cases hrequest
      obtain ⟨rfl, -⟩ := validateRuntimeState_eq_ok.mp hcurrent.valid
      exact advanceFinal_fits rfl (missingSkillsFeedback_fits hkind hshort)

/-! ## One step -/

/-- A call of a reducer, with its arguments. -/
inductive ReducerCall
  | beginModelRequest
  | advance (input : RuntimeInput) (toolSchemaVersion : ℤ)
  | fail (failureCode : String)
  | terminate (failureCode : String)
  | expireRuntimeAt (now : Time)
  | interrupt (expectedStateVersion : ℤ)
  | appendSteer (request : SteerRequest)
  | consumePendingSteersAtSafeBoundary
  | rejectModelDecision (feedback : ModelDecisionFeedback)
  | rejectReusedToolIdentity (call : ToolCallDecision)
  | beginToolExecution (execution : ToolExecution)
  | resolveTool (resolution : ToolResolution)
  | reviewToolApproval (approval : ToolApproval)
  | invalidateToolApproval (invalidation : ToolApprovalInvalidation)
  | applyClarificationResponse (submission : ClarificationResponseSubmission)

/-- The transition a call comes to; taking the steers records no event. -/
def ReducerCall.apply (ctx : RuntimeContext) (state : RuntimeState) :
    ReducerCall → Except String RuntimeTransition
  | .beginModelRequest => AgentRuntime.beginModelRequest ctx state
  | .advance input toolSchemaVersion => advanceForToolSchema ctx state input toolSchemaVersion
  | .fail failureCode => AgentRuntime.fail ctx state failureCode
  | .terminate failureCode => AgentRuntime.terminate ctx state failureCode
  | .expireRuntimeAt now => (AgentRuntime.expireRuntimeAt ctx state now).map (·.1)
  | .interrupt expectedStateVersion => AgentRuntime.interrupt ctx state expectedStateVersion
  | .appendSteer request => (AgentRuntime.appendSteer ctx state request).map (·.1)
  | .consumePendingSteersAtSafeBoundary =>
    (AgentRuntime.consumePendingSteersAtSafeBoundary ctx state).map fun taken ↦
      { state := taken.1 }
  | .rejectModelDecision feedback => AgentRuntime.rejectModelDecision ctx state feedback
  | .rejectReusedToolIdentity call => AgentRuntime.rejectReusedToolIdentity ctx state call
  | .beginToolExecution execution => AgentRuntime.beginToolExecution ctx state execution
  | .resolveTool resolution => AgentRuntime.resolveTool ctx state resolution
  | .reviewToolApproval approval => AgentRuntime.reviewToolApproval ctx state approval
  | .invalidateToolApproval invalidation =>
    AgentRuntime.invalidateToolApproval ctx state invalidation
  | .applyClarificationResponse submission =>
    (AgentRuntime.applyClarificationResponse ctx state submission).map (·.1)

/-- The call is the one whose feedback does not fit. -/
def ReducerCall.Overlong (state : RuntimeState) : ReducerCall → Prop
  | .advance input _ => RefusedAtLength state input
  | _ => False

theorem apply_reduced {ctx : RuntimeContext} {state : RuntimeState} {call : ReducerCall}
    {transition : RuntimeTransition} (h : call.apply ctx state = .ok transition) :
    ∃ current, validateRuntimeState ctx state = .ok current ∧ Outcome ctx current transition ∧
      (¬call.Overlong state → FeedbackFits transition.state) := by
  have of_reduced (hreduced : Reduced ctx state transition) :
      ∃ current, validateRuntimeState ctx state = .ok current ∧ Outcome ctx current transition ∧
        (¬call.Overlong state → FeedbackFits transition.state) := by
    obtain ⟨current, hvalid, houtcome, hfits⟩ := hreduced
    exact ⟨current, hvalid, houtcome, fun _ ↦ hfits⟩
  cases call with
  | beginModelRequest => exact of_reduced (beginModelRequest_reduced h)
  | advance input toolSchemaVersion => exact advance_reduced h
  | fail failureCode => exact of_reduced (fail_reduced h)
  | terminate failureCode => exact of_reduced (terminate_reduced h)
  | expireRuntimeAt now =>
    obtain ⟨⟨result, expired⟩, hcall, rfl⟩ := map_eq_ok.mp h
    exact of_reduced (expireRuntimeAt_reduced hcall)
  | interrupt expectedStateVersion => exact of_reduced (interrupt_reduced h)
  | appendSteer request =>
    obtain ⟨⟨result, replayed⟩, hcall, rfl⟩ := map_eq_ok.mp h
    exact of_reduced (appendSteer_reduced hcall)
  | consumePendingSteersAtSafeBoundary =>
    obtain ⟨⟨next, consumed⟩, hcall, rfl⟩ := map_eq_ok.mp h
    exact of_reduced (consumePendingSteers_reduced hcall)
  | rejectModelDecision feedback => exact of_reduced (rejectModelDecision_reduced h)
  | rejectReusedToolIdentity toolCall => exact of_reduced (rejectReusedToolIdentity_reduced h)
  | beginToolExecution execution => exact of_reduced (beginToolExecution_reduced h)
  | resolveTool resolution => exact of_reduced (resolveTool_reduced h)
  | reviewToolApproval approval => exact of_reduced (reviewToolApproval_reduced h)
  | invalidateToolApproval invalidation => exact of_reduced (invalidateToolApproval_reduced h)
  | applyClarificationResponse submission =>
    obtain ⟨⟨result, replayed⟩, hcall, rfl⟩ := map_eq_ok.mp h
    exact of_reduced (applyClarificationResponse_reduced hcall)

/-! ## Runs -/

/-- The states that successful calls lead to. -/
inductive Run (ctx : RuntimeContext) (init : RuntimeState) : RuntimeState → Prop
  | start : Run ctx init init
  | step {state : RuntimeState} {call : ReducerCall} {transition : RuntimeTransition}
      (hrun : Run ctx init state) (hcall : call.apply ctx state = .ok transition)
      (hshort : ¬call.Overlong state) : Run ctx init transition.state

/-- The steps and tool calls of a state go on from those of another one. -/
structure Counted (before after : RuntimeState) : Prop where
  maxSteps : after.maxSteps = before.maxSteps
  steps : before.stepNumber ≤ after.stepNumber ∧ after.stepNumber ≤ after.maxSteps
  calls : ∀ limits, before.limits = some limits → ∃ limits', after.limits = some limits' ∧
    limits'.maxToolCalls = limits.maxToolCalls ∧ limits.toolCallsUsed ≤ limits'.toolCallsUsed ∧
    limits'.toolCallsUsed ≤ limits'.maxToolCalls

/-- What a step of a run from `init` promises. -/
structure Promised (ctx : RuntimeContext) (init state : RuntimeState)
    (transition : RuntimeTransition) : Prop where
  accepted : Accepted ctx transition.state
  version : transition.state.stateVersion =
    state.stateVersion + if transition.eventKinds = [] then 0 else 1
  unchanged : transition.eventKinds = [] → transition.state = state.trimmed ∨
    transition.state = { state.trimmed with pendingSteers := [] }
  counted : Counted state transition.state
  terminal : runtimeStatusTerminal state.status = true →
    transition.eventKinds = [] ∧ transition.state = state.trimmed
  frozen : ∀ expected, state.expectedDelivery = some expected →
    transition.state.expectedDelivery = some expected
  budget : Budgeted init → Budgeted transition.state
  delivered : init.status ≠ .succeeded → transition.state.status = .succeeded →
    Delivered transition.state

section

variable {ctx : RuntimeContext} {init state current : RuntimeState}
  {transition : RuntimeTransition}

theorem validateRuntimeLimits_of_sound (hsound : Sound ctx state) {limits : RuntimeLimits}
    (hlimits : state.limits = some limits) : limits.toolCallsUsed ≤ limits.maxToolCalls := by
  have hvalid := hsound.limits
  rw [hlimits] at hvalid
  exact (validateRuntimeLimits_some.mp hvalid).2.1.2

theorem Counted.of_same {after : RuntimeState} (hsound : Sound ctx state)
    (hmax : after.maxSteps = state.maxSteps) (hsteps : after.stepNumber = state.stepNumber)
    (hlimits : after.limits = state.limits) : Counted state after := by
  refine ⟨hmax, ?_, fun limits hbefore ↦ ?_⟩
  · rw [hmax, hsteps]
    exact ⟨le_rfl, hsound.steps.2⟩
  · exact ⟨limits, hlimits.trans hbefore, rfl, le_rfl,
      validateRuntimeLimits_of_sound hsound hbefore⟩

theorem Follows.counted {after : RuntimeState} (h : Follows ctx state after) :
    Counted state after := by
  refine ⟨h.maxSteps, ⟨h.steps, h.sound.steps.2⟩, fun limits hbefore ↦ ?_⟩
  obtain ⟨calls, hcalls, hafter⟩ := h.limits
  rw [hbefore, Option.map_some] at hafter
  refine ⟨_, hafter, rfl, ?_, validateRuntimeLimits_of_sound h.sound hafter⟩
  show limits.toolCallsUsed ≤ limits.toolCallsUsed + calls
  omega

theorem Counted.of_trimmed {after : RuntimeState} (h : Counted state.trimmed after) :
    Counted state after :=
  ⟨h.maxSteps, h.steps, h.calls⟩

/-- What holds of the states of a run whose first state is neither over nor out of steps. -/
structure Kept (init state : RuntimeState) : Prop where
  budget : Budgeted init → Budgeted state
  delivered : init.status ≠ .succeeded → state.status = .succeeded → Delivered state

theorem Kept.outcome (h : Kept init state) (houtcome : Outcome ctx state.trimmed transition) :
    Kept init transition.state := by
  cases houtcome with
  | moved hevents hfollows =>
    exact ⟨fun hinit ↦ hfollows.budget (h.budget hinit), fun _ ↦ hfollows.delivered⟩
  | replayed hevents hsame =>
    rw [hsame]
    exact ⟨h.budget, h.delivered⟩
  | consumed hevents hstatus hsame =>
    rw [hsame]
    refine ⟨h.budget, fun _ hsucceeded ↦ ?_⟩
    have hdone : state.trimmed.status = .succeeded := hsucceeded
    rcases hstatus with hstatus | hstatus <;> rw [hstatus] at hdone <;> cases hdone

theorem Run.kept (hrun : Run ctx init state) : Kept init state := by
  induction hrun with
  | start => exact ⟨id, fun hnot hsucceeded ↦ absurd hsucceeded hnot⟩
  | step hrun hcall hshort ih =>
    obtain ⟨current, hvalid, houtcome, -⟩ := apply_reduced hcall
    obtain ⟨rfl, -⟩ := validateRuntimeState_eq_ok.mp hvalid
    exact ih.outcome houtcome

theorem Outcome.accepted (hsound : Sound ctx state.trimmed)
    (houtcome : Outcome ctx state.trimmed transition) (hfits : FeedbackFits transition.state) :
    Accepted ctx transition.state := by
  rw [accepted_iff]
  cases houtcome with
  | moved hevents hfollows =>
    have htrimmed : transition.state.trimmed = transition.state := by
      rw [RuntimeState.trimmed, hfollows.configuration]
      show { transition.state with configuration := state.configuration.trimmed.trimmed } = _
      rw [RunConfiguration.trimmed_trimmed]
      show { transition.state with configuration := state.trimmed.configuration } = _
      rw [← hfollows.configuration]
    rw [htrimmed]
    exact ⟨hfollows.sound, hfits⟩
  | replayed hevents hsame =>
    rw [hsame] at hfits ⊢
    rw [RuntimeState.trimmed_trimmed]
    exact ⟨hsound, hfits⟩
  | consumed hevents hstatus hsame =>
    have htrimmed : ({ state.trimmed with pendingSteers := [] } : RuntimeState).trimmed =
        { state.trimmed with pendingSteers := [] } := by
      simp [RuntimeState.trimmed]
    rw [hsame] at hfits ⊢
    rw [htrimmed]
    have hclarification := hsound.clarification
    exact ⟨{ hsound with
      steers := rfl
      clarification := ⟨hclarification.waiting, hclarification.idle, hclarification.history,
        hclarification.pending⟩ }, hfits⟩

theorem Run.accepted (hinit : Accepted ctx init) (hrun : Run ctx init state) :
    Accepted ctx state := by
  cases hrun with
  | start => exact hinit
  | step hrun hcall hshort =>
    obtain ⟨current, hvalid, houtcome, hfits⟩ := apply_reduced hcall
    obtain ⟨rfl, hsound, -⟩ := validateRuntimeState_eq_ok.mp hvalid
    exact houtcome.accepted hsound (hfits hshort)

theorem Outcome.promises (hkept : Kept init state) (hsound : Sound ctx state.trimmed)
    (houtcome : Outcome ctx state.trimmed transition) (hfits : FeedbackFits transition.state) :
    Promised ctx init state transition := by
  have hnext := hkept.outcome houtcome
  have haccepted := houtcome.accepted hsound hfits
  cases houtcome with
  | moved hevents hfollows =>
    refine ⟨haccepted, ?_, fun hnone ↦ absurd hnone hevents, hfollows.counted.of_trimmed, fun hover ↦ ?_,
      fun expected hexpected ↦ ?_, hnext.budget, hnext.delivered⟩
    · rw [if_neg hevents]
      exact hfollows.version
    · have hactive : runtimeStatusTerminal state.status = false := hfollows.active
      rw [hactive] at hover
      cases hover
    · rcases hfollows.frozen with hnone | hsame
      · have hunset : state.expectedDelivery = none := hnone
        rw [hunset] at hexpected
        cases hexpected
      · exact hsame.trans hexpected
  | replayed hevents hsame =>
    refine ⟨haccepted, ?_, fun _ ↦ .inl hsame, ?_, fun _ ↦ ⟨hevents, hsame⟩,
      fun expected hexpected ↦ ?_, hnext.budget, hnext.delivered⟩
    · rw [if_pos hevents, hsame, add_zero]
      rfl
    · rw [hsame]
      exact .of_trimmed (.of_same hsound rfl rfl rfl)
    · rw [hsame]
      exact hexpected
  | consumed hevents hstatus hsame =>
    refine ⟨haccepted, ?_, fun _ ↦ .inr hsame, ?_, fun hover ↦ ?_, fun expected hexpected ↦ ?_,
      hnext.budget, hnext.delivered⟩
    · rw [if_pos hevents, hsame, add_zero]
      rfl
    · rw [hsame]
      exact .of_trimmed (.of_same hsound rfl rfl rfl)
    · have hactive : runtimeStatusTerminal state.status = false := active_of_goes hstatus
      rw [hactive] at hover
      cases hover
    · rw [hsame]
      exact hexpected

/-- **What a step of a run may do.**  From every state a run reaches, a successful call leaves a
state that is accepted again; it counts its steps, its tool calls and its versions, keeps the
delivery contract, and changes nothing once the run is over. -/
theorem Run.promised (hinit : Accepted ctx init) (hrun : Run ctx init state) :
    Accepted ctx state ∧
      ∀ call transition, ReducerCall.apply ctx state call = .ok transition →
        ¬call.Overlong state → Promised ctx init state transition := by
  refine ⟨hrun.accepted hinit, fun call transition hcall hshort ↦ ?_⟩
  obtain ⟨current, hvalid, houtcome, hfits⟩ := apply_reduced hcall
  obtain ⟨rfl, hsound, -⟩ := validateRuntimeState_eq_ok.mp hvalid
  exact houtcome.promises hrun.kept hsound (hfits hshort)

end

/-! ### A run, and a call on a run that is over -/

/-- Code outside the package that accepts every tool call and no skill. -/
def plainContext : RuntimeContext where
  canonicalArguments := fun _ arguments ↦ some arguments
  decodeSkillsLoad := fun _ ↦ none
  sha256Hex := fun _ ↦ ""

def answerDelivery : ExpectedDelivery where
  kind := .answer
  completionCriteria := [{ fact := .finalMessage }]

/-- A run that is about to ask its model. -/
def queuedState : RuntimeState where
  stateVersion := 1
  stepNumber := 0
  maxSteps := 3
  status := .queued
  userMessage := "hello"
  configuration := { executionMode := .guided }
  limits := some { maxToolCalls := 2, toolCallsUsed := 0, startedAt := 1, deadlineAt := 2 }

def finalAnswer : RuntimeInput where
  decision := { kind := .final, final := some ⟨"done", answerDelivery⟩ }
  evidence := { finalMessage := "done" }

/-- The same run once its model has been asked. -/
def runningState : RuntimeState :=
  { queuedState with stateVersion := 2, status := .running }

/-- The same run after the final answer. -/
def succeededState : RuntimeState :=
  { runningState with
    stateVersion := 3
    stepNumber := 1
    status := .succeeded
    expectedDelivery := some answerDelivery
    verification := some (verifyDelivery answerDelivery finalAnswer.evidence)
    finalMessage := "done" }

theorem beginModelRequest_queuedState :
    ReducerCall.apply plainContext queuedState .beginModelRequest =
      .ok { state := runningState, eventKinds := [.runStatusChanged] } := by
  rfl

theorem advance_runningState :
    ReducerCall.apply plainContext runningState (.advance finalAnswer currentToolSchemaVersion) =
      .ok { state := succeededState, eventKinds := [.agentMessageCompleted, .runCompleted] } := by
  rfl

theorem not_overlong_finalAnswer :
    ¬(ReducerCall.advance finalAnswer currentToolSchemaVersion).Overlong runningState := by
  rintro ⟨-, hlong⟩
  revert hlong
  decide

theorem promised_finalAnswer :
    Promised plainContext queuedState runningState
      { state := succeededState, eventKinds := [.agentMessageCompleted, .runCompleted] } :=
  ((Run.start.step beginModelRequest_queuedState id).promised ⟨queuedState, rfl⟩).2 _ _
    advance_runningState not_overlong_finalAnswer

/-- A run that failed before it took the steer it was sent. -/
def failedState : RuntimeState :=
  { queuedState with
    status := .failed
    failureCode := "runtime_deadline_exceeded"
    pendingSteers := [⟨"request", "faster"⟩] }

/-- **What is not promised.**  A reducer may succeed on a run that has failed, and without a new
version: the steer had been accepted before.  And a first state need not have steps left when it is
queued, nor a verification when it has succeeded. -/
theorem appendSteer_failedState :
    (∃ ctx state call transition, Accepted ctx state ∧ runtimeStatusTerminal state.status = true ∧
      ReducerCall.apply ctx state call = .ok transition ∧
      transition.state.stateVersion = state.stateVersion) ∧
    (∃ ctx state, Accepted ctx state ∧ state.status = .queued ∧
      ¬state.stepNumber < state.maxSteps) ∧
    ∃ ctx state, Accepted ctx state ∧ state.status = .succeeded ∧ state.verification = none := by
  refine ⟨⟨plainContext, failedState, .appendSteer ⟨"request", "faster", 1⟩,
    { state := failedState }, ⟨failedState, rfl⟩, rfl, rfl, rfl⟩, ?_, ?_⟩
  · exact ⟨plainContext, { queuedState with stepNumber := 3 }, ⟨_, rfl⟩, rfl, by decide⟩
  · exact ⟨plainContext, { queuedState with status := .succeeded }, ⟨_, rfl⟩, rfl, rfl⟩

end HMaigc.AgentRuntime
