import HMaigc.Agent.Run

/-!
# What the reducers do to requests for clarification

A request is asked by a decision of the model, answered by `applyClarificationResponse`, and given up
when the run ends.  All other reducers leave it and the history of requests as they are:
`ReducerCall.leavesAnswers` is the case distinction, over all reducers but the one that answers.
-/

set_option autoImplicit false

namespace HMaigc.AgentRuntime

open Go

/-- The ways in which a reducer that answers nothing leaves requests. -/
inductive LeavesAnswers (before after : RuntimeState) : Prop
  /-- The pending request, if there is one, stays pending. -/
  | kept (hhistory : after.clarificationHistory = before.clarificationHistory)
      (hpending : after.pendingClarification = before.pendingClarification)
      (hstatus : after.status = before.status)
  /-- There is none before and after. -/
  | idle (hhistory : after.clarificationHistory = before.clarificationHistory)
      (hbefore : before.pendingClarification = none) (hafter : after.pendingClarification = none)
  /-- The run is over. -/
  | ended (hhistory : after.clarificationHistory = before.clarificationHistory)
      (hafter : after.pendingClarification = none)
      (hover : runtimeStatusTerminal after.status = true)
  /-- A new request is asked. -/
  | asked (request : ClarificationDecision)
      (hhistory : after.clarificationHistory = before.clarificationHistory)
      (hbefore : before.pendingClarification = none)
      (hactive : runtimeStatusTerminal before.status = false)
      (hafter : after.pendingClarification = some ⟨request, []⟩)
      (hnew : completedClarificationByRequestID before.clarificationHistory request.requestID =
        none)

section

variable {ctx : RuntimeContext} {state current : RuntimeState} {transition : RuntimeTransition}

@[simp] theorem continueOrExhaust_clarificationHistory (next : RuntimeState)
    (eventKinds : List EventKind) :
    (continueOrExhaust next eventKinds).state.clarificationHistory =
      next.clarificationHistory := by
  unfold continueOrExhaust
  split <;> rfl

@[simp] theorem continueOrExhaust_pendingClarification (next : RuntimeState)
    (eventKinds : List EventKind) :
    (continueOrExhaust next eventKinds).state.pendingClarification =
      next.pendingClarification := by
  unfold continueOrExhaust
  split <;> rfl

theorem LeavesAnswers.of_trimmed {after : RuntimeState} (h : LeavesAnswers state.trimmed after) :
    LeavesAnswers state after := by
  cases h with
  | kept hhistory hpending hstatus => exact .kept hhistory hpending hstatus
  | idle hhistory hbefore hafter => exact .idle hhistory hbefore hafter
  | ended hhistory hafter hover => exact .ended hhistory hafter hover
  | asked request hhistory hbefore hactive hafter hnew =>
    exact .asked request hhistory hbefore hactive hafter hnew

theorem trimmed_of_valid (h : validateRuntimeState ctx state = .ok current) :
    current = state.trimmed ∧ Sound ctx current := by
  obtain ⟨heq, hsound, -⟩ := validateRuntimeState_eq_ok.mp h
  exact ⟨heq, hsound⟩

theorem beginModelRequest_leaves (h : beginModelRequest ctx state = .ok transition) :
    LeavesAnswers state transition.state := by
  obtain ⟨current, hvalid, h⟩ := bind_eq_ok.mp h
  obtain ⟨hstatus, h⟩ := refuse_eq_ok.mp h
  obtain ⟨next, hnext, h⟩ := bind_eq_ok.mp h
  cases pure_eq_ok.mp h
  obtain ⟨rfl, hsound⟩ := trimmed_of_valid hvalid
  obtain ⟨rfl, -⟩ := trimmed_of_valid hnext
  have hqueued : state.trimmed.status = .queued := not_not.mp hstatus
  have hnone := hsound.clarification.idle (by simp [hqueued])
  exact .idle rfl hnone hnone

theorem advancing_leaves (h : validateAdvancingState ctx state = .ok current) :
    current = state.trimmed ∧ state.pendingClarification = none ∧
      runtimeStatusTerminal state.status = false := by
  have hadvancing := advancing_of_validate h
  obtain ⟨rfl, -⟩ := trimmed_of_valid hadvancing.valid
  exact ⟨rfl, hadvancing.clarification, hadvancing.active⟩

theorem advanceClarification_leaves {request : ClarificationDecision} {next : RuntimeState}
    (hhistory : next.clarificationHistory = state.clarificationHistory)
    (hbefore : state.pendingClarification = none)
    (hactive : runtimeStatusTerminal state.status = false)
    (hafter : next.pendingClarification = none) :
    LeavesAnswers state (advanceClarification next request).state := by
  rw [advanceClarification]
  by_cases hexhausted : next.stepNumber ≥ next.maxSteps
  · rw [if_pos hexhausted]
    exact .idle hhistory hbefore hafter
  · rw [if_neg hexhausted]
    by_cases hreused : (completedClarificationByRequestID next.clarificationHistory
        request.requestID).isSome = true
    · rw [if_pos hreused]
      exact .idle hhistory hbefore hafter
    · rw [if_neg hreused]
      refine .asked request hhistory hbefore hactive rfl ?_
      rw [← hhistory]
      simpa using hreused

theorem advanceToolCall_leaves {next : RuntimeState} {call : ToolCallDecision}
    {toolSchemaVersion : ℤ} (h : advanceToolCall next call toolSchemaVersion = .ok transition) :
    transition.state.clarificationHistory = next.clarificationHistory ∧
      transition.state.pendingClarification = next.pendingClarification := by
  rw [advanceToolCall] at h
  split at h
  · cases h
    exact ⟨rfl, rfl⟩
  · split at h
    · cases h
    · split at h
      · cases h
        exact ⟨rfl, rfl⟩
      · dsimp only at h
        split at h <;> cases h <;> exact ⟨rfl, rfl⟩

theorem advanceFinal_leaves (next : RuntimeState) (final : FinalDecision)
    (evidence : DeliveryEvidence) :
    (advanceFinal next final evidence).state.clarificationHistory = next.clarificationHistory ∧
      (advanceFinal next final evidence).state.pendingClarification =
        next.pendingClarification := by
  rw [advanceFinal]
  dsimp only
  split
  · simp
  · split <;> simp

theorem advance_leaves {input : RuntimeInput} {toolSchemaVersion : ℤ}
    (h : advanceForToolSchema ctx state input toolSchemaVersion = .ok transition) :
    LeavesAnswers state transition.state := by
  obtain ⟨current, hadvancing, h⟩ := bind_eq_ok.mp h
  obtain ⟨decision, -, h⟩ := bind_eq_ok.mp h
  obtain ⟨rfl, hnone, hactive⟩ := advancing_leaves hadvancing
  split at h
  · cases h
    exact .idle (by simp [rejectChangedDelivery, RuntimeState.trimmed]) hnone
      (by simpa [rejectChangedDelivery, RuntimeState.trimmed] using hnone)
  · cases decision with
    | clarification request =>
      cases h
      exact advanceClarification_leaves rfl hnone hactive rfl
    | toolCall call =>
      obtain ⟨hhistory, hafter⟩ := advanceToolCall_leaves h
      exact .idle hhistory hnone hafter
    | final final =>
      cases h
      obtain ⟨hhistory, hafter⟩ := advanceFinal_leaves
        { state.trimmed with
          stateVersion := state.trimmed.stateVersion + 1
          stepNumber := state.trimmed.stepNumber + 1
          expectedDelivery := some (CanonicalDecision.final final).expectedDelivery }.decided
        final input.evidence
      exact .idle hhistory hnone hafter

theorem fail_leaves {failureCode : String} (h : fail ctx state failureCode = .ok transition) :
    LeavesAnswers state transition.state := by
  obtain ⟨current, hadvancing, h⟩ := bind_eq_ok.mp h
  obtain ⟨-, h⟩ := refuse_eq_ok.mp h
  obtain ⟨rfl, hnone, -⟩ := advancing_leaves hadvancing
  cases h
  exact .idle rfl hnone hnone

theorem terminate_leaves {failureCode : String}
    (h : terminate ctx state failureCode = .ok transition) :
    LeavesAnswers state transition.state := by
  obtain ⟨current, hvalid, h⟩ := bind_eq_ok.mp h
  obtain ⟨-, h⟩ := refuse_eq_ok.mp h
  obtain ⟨-, h⟩ := refuse_eq_ok.mp h
  obtain ⟨rfl, -⟩ := trimmed_of_valid hvalid
  cases h
  exact .ended rfl rfl rfl

theorem expireRuntimeAt_leaves {now : Time} {expired : Bool}
    (h : expireRuntimeAt ctx state now = .ok (transition, expired)) :
    LeavesAnswers state transition.state := by
  obtain ⟨current, hvalid, h⟩ := bind_eq_ok.mp h
  obtain ⟨-, h⟩ := refuse_eq_ok.mp h
  obtain ⟨rfl, -⟩ := trimmed_of_valid hvalid
  split at h
  · cases h
    exact .kept rfl rfl rfl
  · obtain ⟨result, hterminate, h⟩ := bind_eq_ok.mp h
    cases pure_eq_ok.mp h
    exact (terminate_leaves hterminate).of_trimmed

theorem interrupt_leaves {expectedStateVersion : ℤ}
    (h : interrupt ctx state expectedStateVersion = .ok transition) :
    LeavesAnswers state transition.state := by
  obtain ⟨current, hvalid, h⟩ := bind_eq_ok.mp h
  obtain ⟨-, h⟩ := refuse_eq_ok.mp h
  obtain ⟨next, hnext, h⟩ := bind_eq_ok.mp h
  cases pure_eq_ok.mp h
  obtain ⟨rfl, -⟩ := trimmed_of_valid hvalid
  obtain ⟨rfl, -⟩ := trimmed_of_valid hnext
  exact .ended rfl rfl rfl

theorem appendSteer_leaves {request : SteerRequest} {replayed : Bool}
    (h : appendSteer ctx state request = .ok (transition, replayed)) :
    LeavesAnswers state transition.state := by
  obtain ⟨current, hvalid, h⟩ := bind_eq_ok.mp h
  obtain ⟨-, h⟩ := refuse_eq_ok.mp h
  obtain ⟨rfl, -⟩ := trimmed_of_valid hvalid
  split at h
  · obtain ⟨-, h⟩ := refuse_eq_ok.mp h
    cases h
    exact .kept rfl rfl rfl
  · obtain ⟨-, h⟩ := refuse_eq_ok.mp h
    obtain ⟨next, hnext, h⟩ := bind_eq_ok.mp h
    cases pure_eq_ok.mp h
    obtain ⟨rfl, -⟩ := trimmed_of_valid hnext
    exact .kept rfl rfl rfl

theorem consumePendingSteers_leaves {next : RuntimeState} {consumed : List PendingSteer}
    (h : consumePendingSteersAtSafeBoundary ctx state = .ok (next, consumed)) :
    LeavesAnswers state next := by
  obtain ⟨current, hvalid, h⟩ := bind_eq_ok.mp h
  obtain ⟨-, h⟩ := refuse_eq_ok.mp h
  obtain ⟨-, h⟩ := refuse_eq_ok.mp h
  obtain ⟨rfl, -⟩ := trimmed_of_valid hvalid
  split at h
  · cases h
    exact .kept rfl rfl rfl
  · obtain ⟨result, hnext, h⟩ := bind_eq_ok.mp h
    cases pure_eq_ok.mp h
    obtain ⟨rfl, -⟩ := trimmed_of_valid hnext
    exact .kept rfl rfl rfl

theorem rejectModelDecision_leaves {feedback : ModelDecisionFeedback}
    (h : rejectModelDecision ctx state feedback = .ok transition) :
    LeavesAnswers state transition.state := by
  obtain ⟨current, hadvancing, h⟩ := bind_eq_ok.mp h
  obtain ⟨-, h⟩ := refuse_eq_ok.mp h
  obtain ⟨rfl, hnone, -⟩ := advancing_leaves hadvancing
  cases h
  exact .idle (by simp [RuntimeState.trimmed]) hnone (by simpa [RuntimeState.trimmed] using hnone)

theorem rejectReusedToolIdentity_leaves {call : ToolCallDecision}
    (h : rejectReusedToolIdentity ctx state call = .ok transition) :
    LeavesAnswers state transition.state := by
  obtain ⟨current, hadvancing, h⟩ := bind_eq_ok.mp h
  obtain ⟨call, -, h⟩ := bind_eq_ok.mp h
  obtain ⟨rfl, hnone, -⟩ := advancing_leaves hadvancing
  cases pure_eq_ok.mp h
  exact .idle (by simp [RuntimeState.trimmed]) hnone (by simpa [RuntimeState.trimmed] using hnone)

theorem continued_leaves {next : RuntimeState} {eventKinds : List EventKind}
    (hhistory : next.clarificationHistory = state.clarificationHistory)
    (hbefore : state.pendingClarification = none) (hafter : next.pendingClarification = none) :
    LeavesAnswers state (continueOrExhaust next eventKinds).state :=
  .idle (by simpa using hhistory) hbefore (by simpa using hafter)

theorem beginToolExecution_leaves {execution : ToolExecution}
    (h : beginToolExecution ctx state execution = .ok transition) :
    LeavesAnswers state transition.state := by
  obtain ⟨current, hvalid, h⟩ := bind_eq_ok.mp h
  obtain ⟨rfl, -⟩ := trimmed_of_valid hvalid
  cases hcall : state.trimmed.pendingToolCall with
  | none =>
    rw [hcall] at h
    cases h
  | some call =>
    simp only [hcall] at h
    obtain ⟨-, h⟩ := refuse_eq_ok.mp h
    obtain ⟨-, h⟩ := refuse_eq_ok.mp h
    cases h
    exact .kept rfl rfl rfl

theorem resolveTool_leaves {resolution : ToolResolution}
    (h : resolveTool ctx state resolution = .ok transition) :
    LeavesAnswers state transition.state := by
  obtain ⟨current, hvalid, h⟩ := bind_eq_ok.mp h
  obtain ⟨rfl, hsound⟩ := trimmed_of_valid hvalid
  cases hcall : state.trimmed.pendingToolCall with
  | none =>
    rw [hcall] at h
    cases h
  | some call =>
    simp only [hcall] at h
    obtain ⟨hwaiting, h⟩ := refuse_eq_ok.mp h
    obtain ⟨-, h⟩ := refuse_eq_ok.mp h
    obtain ⟨-, h⟩ := refuse_eq_ok.mp h
    obtain ⟨-, h⟩ := refuse_eq_ok.mp h
    obtain ⟨-, h⟩ := refuse_eq_ok.mp h
    obtain ⟨-, h⟩ := refuse_eq_ok.mp h
    obtain ⟨-, h⟩ := refuse_eq_ok.mp h
    obtain ⟨loaded, -, h⟩ := bind_eq_ok.mp h
    have hstatus : state.trimmed.status = .waitingTool := not_not.mp hwaiting
    have hnone := hsound.clarification.idle (by simp [hstatus])
    by_cases hterminal : resolution.succeeded = false ∧ resolution.failureClass = .terminal
    · rw [if_pos hterminal] at h
      cases h
      exact .idle rfl hnone hnone
    · rw [if_neg hterminal] at h
      cases h
      exact continued_leaves rfl hnone hnone

theorem awaited_leaves {toolCallID conflict : String} {actionVersion : ℤ}
    (hsound : Sound ctx state.trimmed)
    (h : awaitedApproval state.trimmed toolCallID actionVersion conflict = .ok ()) :
    state.pendingClarification = none := by
  have hstatus := awaitedApproval_eq_ok h
  exact hsound.clarification.idle (by simp [hstatus])

theorem reviewToolApproval_leaves {approval : ToolApproval}
    (h : reviewToolApproval ctx state approval = .ok transition) :
    LeavesAnswers state transition.state := by
  obtain ⟨current, hvalid, h⟩ := bind_eq_ok.mp h
  obtain ⟨_, hawaited, h⟩ := bind_eq_ok.mp h
  obtain ⟨rfl, hsound⟩ := trimmed_of_valid hvalid
  have hnone := awaited_leaves hsound hawaited
  cases hdecision : approval.decision with
  | approved =>
    simp only [hdecision] at h
    split at h <;> cases h <;> exact .idle rfl hnone hnone
  | rejected =>
    simp only [hdecision] at h
    cases h
    exact continued_leaves rfl hnone hnone
  | other name =>
    simp only [hdecision] at h
    cases h

theorem invalidateToolApproval_leaves {invalidation : ToolApprovalInvalidation}
    (h : invalidateToolApproval ctx state invalidation = .ok transition) :
    LeavesAnswers state transition.state := by
  obtain ⟨current, hvalid, h⟩ := bind_eq_ok.mp h
  obtain ⟨_, hawaited, h⟩ := bind_eq_ok.mp h
  obtain ⟨-, h⟩ := refuse_eq_ok.mp h
  obtain ⟨-, h⟩ := refuse_eq_ok.mp h
  obtain ⟨rfl, hsound⟩ := trimmed_of_valid hvalid
  have hnone := awaited_leaves hsound hawaited
  cases h
  exact continued_leaves rfl hnone hnone

/-! ## All of them -/

/-- The call submits an answer. -/
def ReducerCall.answers : ReducerCall → Bool
  | .applyClarificationResponse _ => true
  | _ => false

/-- **All reducers but one leave answers as they are.** -/
theorem ReducerCall.leavesAnswers {call : ReducerCall} (hother : call.answers = false)
    (h : call.apply ctx state = .ok transition) : LeavesAnswers state transition.state := by
  cases call with
  | beginModelRequest => exact beginModelRequest_leaves h
  | advance input toolSchemaVersion => exact advance_leaves h
  | fail failureCode => exact fail_leaves h
  | terminate failureCode => exact terminate_leaves h
  | expireRuntimeAt now =>
    obtain ⟨⟨result, expired⟩, hcall, rfl⟩ := map_eq_ok.mp h
    exact expireRuntimeAt_leaves hcall
  | interrupt expectedStateVersion => exact interrupt_leaves h
  | appendSteer request =>
    obtain ⟨⟨result, replayed⟩, hcall, rfl⟩ := map_eq_ok.mp h
    exact appendSteer_leaves hcall
  | consumePendingSteersAtSafeBoundary =>
    obtain ⟨⟨next, consumed⟩, hcall, rfl⟩ := map_eq_ok.mp h
    exact consumePendingSteers_leaves hcall
  | rejectModelDecision feedback => exact rejectModelDecision_leaves h
  | rejectReusedToolIdentity toolCall => exact rejectReusedToolIdentity_leaves h
  | beginToolExecution execution => exact beginToolExecution_leaves h
  | resolveTool resolution => exact resolveTool_leaves h
  | reviewToolApproval approval => exact reviewToolApproval_leaves h
  | invalidateToolApproval invalidation => exact invalidateToolApproval_leaves h
  | applyClarificationResponse submission => cases hother

/-- A run that is over stays as it is. -/
theorem ReducerCall.stays {call : ReducerCall}
    (hover : runtimeStatusTerminal state.status = true)
    (h : call.apply ctx state = .ok transition) : transition.state = state.trimmed := by
  obtain ⟨current, hvalid, houtcome, -⟩ := apply_reduced h
  obtain ⟨rfl, -⟩ := trimmed_of_valid hvalid
  have hstatus : runtimeStatusTerminal state.trimmed.status = true := hover
  cases houtcome with
  | moved hevents hfollows =>
    rw [hfollows.active] at hstatus
    cases hstatus
  | replayed hevents hsame => exact hsame
  | consumed hevents hwaiting hsame =>
    rcases hwaiting with hwaiting | hwaiting <;> rw [hwaiting] at hstatus <;> cases hstatus

end

end HMaigc.AgentRuntime
