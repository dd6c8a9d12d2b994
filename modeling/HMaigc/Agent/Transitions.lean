import HMaigc.Agent.Checkpoint

/-!
# What a reducer does to a run

Fifteen reducers copy the checkpoint and set a dozen fields that depend on each other.

* `Follows` — what all of them keep to: the version grows by one, steps and tool calls are never
  given back, the delivery contract is set once, and the new checkpoint is sound.
* `Settled` — a checkpoint with nothing pending.  Most reducers make one before they decide on the
  status, and `Settled.follows` is the rest of their proof.
* `*_follows` — one lemma a reducer.
-/

set_option autoImplicit false

namespace HMaigc.AgentRuntime

open Go

/-! ## Following a checkpoint -/

/-- Tool calls are used up and never given back; the other limits stay. -/
def Spent (before after : Option RuntimeLimits) : Prop :=
  ∃ calls : ℤ, 0 ≤ calls ∧
    after = before.map fun limits ↦ { limits with toolCallsUsed := limits.toolCallsUsed + calls }

theorem Spent.refl (limits : Option RuntimeLimits) : Spent limits limits :=
  ⟨0, le_rfl, by simp⟩

/-- A run that goes on has steps left. -/
def Budgeted (state : RuntimeState) : Prop :=
  state.status = .queued ∨ state.status = .running ∨ state.status = .waitingInput →
    state.stepNumber < state.maxSteps

/-- All selected skills are loaded, and the final answer meets the contract of the run. -/
def Delivered (state : RuntimeState) : Prop :=
  missingRequiredSkillDirs state.configuration.skills state.loadedSkillDirs = [] ∧
    ∃ expected evidence, state.expectedDelivery = some expected ∧
      state.verification = some (verifyDelivery expected evidence) ∧
      (verifyDelivery expected evidence).status = .satisfied

/-- The checkpoint `after` is one that a reducer makes from `before`. -/
structure Follows (ctx : RuntimeContext) (before after : RuntimeState) : Prop where
  active : runtimeStatusTerminal before.status = false
  version : after.stateVersion = before.stateVersion + 1
  maxSteps : after.maxSteps = before.maxSteps
  steps : before.stepNumber ≤ after.stepNumber
  limits : Spent before.limits after.limits
  frozen : Frozen before.expectedDelivery after.expectedDelivery
  configuration : after.configuration = before.configuration
  budget : Budgeted before → Budgeted after
  delivered : after.status = .succeeded → Delivered after
  sound : Sound ctx after

/-- A checkpoint made from `before` with nothing pending, whatever its status will be. -/
structure Settled (before after : RuntimeState) : Prop where
  version : after.stateVersion = before.stateVersion + 1
  maxSteps : after.maxSteps = before.maxSteps
  steps : before.stepNumber ≤ after.stepNumber ∧ after.stepNumber ≤ before.maxSteps
  limits : Spent before.limits after.limits
  validLimits : validateRuntimeLimits after.limits = .ok ()
  frozen : Frozen before.expectedDelivery after.expectedDelivery
  delivery : ∀ expected, after.expectedDelivery = some expected → expected.validate = .ok ()
  configuration : after.configuration = before.configuration
  userMessage : after.userMessage = before.userMessage
  steers : after.pendingSteers = before.pendingSteers ∨ after.pendingSteers = []
  history : after.clarificationHistory = before.clarificationHistory
  clarification : after.pendingClarification = none
  tool : after.pendingToolStarted = false
  skills : validateLoadedSkillDirs after.configuration.skills after.loadedSkillDirs = .ok ()

section

variable {ctx : RuntimeContext} {before after : RuntimeState}

theorem Settled.sound (h : Settled before after) (hsound : Sound ctx before)
    (hvalid : after.status.valid = true) (hidle : after.status ≠ .waitingInput) :
    Sound ctx after where
  version := by
    have hversion := hsound.version
    rw [h.version]
    omega
  steps := by
    rw [h.maxSteps]
    exact ⟨hsound.steps.1.trans h.steps.1, h.steps.2⟩
  maxSteps := by
    rw [h.maxSteps]
    exact hsound.maxSteps
  status := hvalid
  limits := h.validLimits
  tool := fun hstarted ↦ by
    rw [h.tool] at hstarted
    cases hstarted
  steers := by
    rcases h.steers with hsame | hnone
    · rw [hsame]
      exact hsound.steers
    · rw [hnone]
      rfl
  clarification := hsound.clarification.of_idle hidle h.clarification h.history h.frozen
  message := by
    rw [h.userMessage]
    exact hsound.message
  configuration := by
    rw [h.configuration]
    exact hsound.configuration
  delivery := h.delivery
  skills := h.skills

theorem Settled.follows (h : Settled before after) (hsound : Sound ctx before)
    (hactive : runtimeStatusTerminal before.status = false) (hvalid : after.status.valid = true)
    (hidle : after.status ≠ .waitingInput) (hbudget : Budgeted after)
    (hdelivered : after.status = .succeeded → Delivered after) : Follows ctx before after :=
  ⟨hactive, h.version, h.maxSteps, h.steps.1, h.limits, h.frozen, h.configuration, fun _ ↦ hbudget,
    hdelivered, h.sound hsound hvalid hidle⟩

/-- The checkpoint of a run that fails. -/
theorem Settled.failed (h : Settled before after) (hsound : Sound ctx before)
    (hactive : runtimeStatusTerminal before.status = false) (hstatus : after.status = .failed) :
    Follows ctx before after := by
  refine h.follows hsound hactive ?_ ?_ ?_ ?_
  · rw [hstatus]
    rfl
  · rw [hstatus]
    decide
  · intro hgoes
    rw [hstatus] at hgoes
    simp at hgoes
  · intro hsucceeded
    rw [hstatus] at hsucceeded
    cases hsucceeded

/-- The fields that say what became of a step are not among those of `Settled`. -/
theorem Settled.update (h : Settled before after) (status : RunStatus)
    (verification : Option DeliveryVerification) (pendingToolCall : Option ToolCallDecision)
    (lastToolResult : Option ToolResult) (decisionFeedback : Option ModelDecisionFeedback)
    (finalMessage failureCode : String) :
    Settled before { after with
      status, verification, pendingToolCall, lastToolResult, decisionFeedback, finalMessage
      failureCode } :=
  ⟨h.version, h.maxSteps, h.steps, h.limits, h.validLimits, h.frozen, h.delivery, h.configuration,
    h.userMessage, h.steers, h.history, h.clarification, h.tool, h.skills⟩

/-- **The run goes on, or has used up its steps.** -/
theorem Settled.continueOrExhaust (h : Settled before after) (hsound : Sound ctx before)
    (hactive : runtimeStatusTerminal before.status = false) (eventKinds : List EventKind) :
    Follows ctx before (continueOrExhaust after eventKinds).state := by
  by_cases hexhausted : after.stepNumber ≥ after.maxSteps
  · rw [AgentRuntime.continueOrExhaust, if_pos hexhausted]
    exact (h.update _ _ _ _ _ _ _).failed hsound hactive rfl
  · rw [AgentRuntime.continueOrExhaust, if_neg hexhausted]
    refine (h.update .running _ _ _ _ _ _).follows hsound hactive rfl
      (fun hwaiting ↦ by cases hwaiting) ?_ ?_
    · exact fun _ ↦ not_le.mp hexhausted
    · intro hsucceeded
      cases hsucceeded

end

@[simp] theorem continueOrExhaust_decisionFeedback (next : RuntimeState)
    (eventKinds : List EventKind) :
    (continueOrExhaust next eventKinds).state.decisionFeedback = next.decisionFeedback := by
  unfold continueOrExhaust
  split <;> rfl

theorem continueOrExhaust_eventKinds (next : RuntimeState) (eventKinds : List EventKind) :
    (continueOrExhaust next eventKinds).eventKinds ≠ [] := by
  unfold continueOrExhaust
  split <;> simp

/-! ## What a call comes to -/

/-- What a successful call does: it records events and moves the run on, it finds that there is
nothing to do, or it takes the steers of a run that goes on. -/
inductive Outcome (ctx : RuntimeContext) (current : RuntimeState) : RuntimeTransition → Prop
  | moved {transition : RuntimeTransition} (hevents : transition.eventKinds ≠ [])
      (hfollows : Follows ctx current transition.state) : Outcome ctx current transition
  | replayed {transition : RuntimeTransition} (hevents : transition.eventKinds = [])
      (hsame : transition.state = current) : Outcome ctx current transition
  | consumed {transition : RuntimeTransition} (hevents : transition.eventKinds = [])
      (hstatus : current.status = .queued ∨ current.status = .running)
      (hsame : transition.state = { current with pendingSteers := [] }) :
      Outcome ctx current transition

theorem validateAdvancingState_eq_ok {ctx : RuntimeContext} {state current : RuntimeState} :
    validateAdvancingState ctx state = .ok current →
      validateRuntimeState ctx state = .ok current ∧ current.stepNumber < current.maxSteps ∧
        (current.status = .queued ∨ current.status = .running) := by
  intro h
  obtain ⟨result, hvalid, h⟩ := bind_eq_ok.mp h
  obtain ⟨hsteps, h⟩ := refuse_eq_ok.mp h
  obtain ⟨-, h⟩ := refuse_eq_ok.mp h
  obtain ⟨hstatus, h⟩ := refuse_eq_ok.mp h
  cases h
  refine ⟨hvalid, not_le.mp hsteps, ?_⟩
  by_contra hnot
  exact hstatus (not_or.mp hnot)

theorem active_of_goes {status : RunStatus} (h : status = .queued ∨ status = .running) :
    runtimeStatusTerminal status = false := by
  rcases h with rfl | rfl <;> rfl

/-- A state made from a validated one, with its configuration, is as its validation leaves it. -/
theorem trimmed_of_configuration {ctx : RuntimeContext} {state current next : RuntimeState}
    (hvalid : validateRuntimeState ctx state = .ok current)
    (hsame : next.configuration = current.configuration) : next.trimmed = next := by
  obtain ⟨rfl, -⟩ := validateRuntimeState_eq_ok.mp hvalid
  have hconfiguration : next.configuration.trimmed = next.configuration := by
    rw [hsame]
    exact RunConfiguration.trimmed_trimmed state.configuration
  rw [RuntimeState.trimmed, hconfiguration]

/-- A call succeeds on a state that validates, and keeps the feedback well formed. -/
def Reduced (ctx : RuntimeContext) (state : RuntimeState) (transition : RuntimeTransition) : Prop :=
  ∃ current, validateRuntimeState ctx state = .ok current ∧ Outcome ctx current transition ∧
    FeedbackFits transition.state

/-! ## The reducers -/

section

variable {ctx : RuntimeContext} {state : RuntimeState} {transition : RuntimeTransition}

/-- A change of the version, the status and the steers that is validated again. -/
theorem Reduced.of_validated {current next result : RuntimeState} {eventKinds : List EventKind}
    (hvalid : validateRuntimeState ctx state = .ok current)
    (hnext : validateRuntimeState ctx next = .ok result)
    (hconfiguration : next.configuration = current.configuration) (hevents : eventKinds ≠ [])
    (hfollows : Sound ctx next → Follows ctx current next) :
    Reduced ctx state { state := result, eventKinds } := by
  obtain ⟨rfl, hsound, hfits⟩ := validateRuntimeState_eq_ok.mp hnext
  rw [trimmed_of_configuration hvalid hconfiguration] at hsound hfits ⊢
  exact ⟨current, hvalid, .moved hevents (hfollows hsound), hfits⟩

theorem beginModelRequest_reduced (h : beginModelRequest ctx state = .ok transition) :
    Reduced ctx state transition := by
  obtain ⟨current, hvalid, h⟩ := bind_eq_ok.mp h
  obtain ⟨hstatus, h⟩ := refuse_eq_ok.mp h
  obtain ⟨next, hnext, h⟩ := bind_eq_ok.mp h
  cases pure_eq_ok.mp h
  have hqueued : current.status = .queued := not_not.mp hstatus
  refine Reduced.of_validated hvalid hnext rfl (by simp) fun hsound ↦ ?_
  refine ⟨active_of_goes (.inl hqueued), rfl, rfl, le_rfl, .refl _, .inr rfl, rfl, ?_, ?_, hsound⟩
  · intro hbudget _
    exact hbudget (.inl hqueued)
  · intro hsucceeded
    cases hsucceeded

theorem interrupt_reduced {expectedStateVersion : ℤ}
    (h : interrupt ctx state expectedStateVersion = .ok transition) :
    Reduced ctx state transition := by
  obtain ⟨current, hvalid, h⟩ := bind_eq_ok.mp h
  obtain ⟨hconflict, h⟩ := refuse_eq_ok.mp h
  obtain ⟨next, hnext, h⟩ := bind_eq_ok.mp h
  cases pure_eq_ok.mp h
  simp only [not_or] at hconflict
  refine Reduced.of_validated hvalid hnext rfl (by simp) fun hsound ↦ ?_
  refine ⟨by simpa using hconflict.2.2, rfl, rfl, le_rfl, .refl _, .inr rfl, rfl, ?_, ?_, hsound⟩
  · intro _ hgoes
    simp at hgoes
  · intro hsucceeded
    cases hsucceeded

theorem appendSteer_reduced {request : SteerRequest} {replayed : Bool}
    (h : appendSteer ctx state request = .ok (transition, replayed)) :
    Reduced ctx state transition := by
  obtain ⟨current, hvalid, h⟩ := bind_eq_ok.mp h
  obtain ⟨-, h⟩ := refuse_eq_ok.mp h
  cases hpending : current.pendingSteers.find?
      (·.clientRequestID == trimSpace request.clientRequestID) with
  | some pending =>
    simp only [hpending] at h
    obtain ⟨-, h⟩ := refuse_eq_ok.mp h
    cases h
    exact ⟨current, hvalid, .replayed rfl rfl, (validateRuntimeState_eq_ok.mp hvalid).2.2⟩
  | none =>
    simp only [hpending] at h
    obtain ⟨hactive, h⟩ := refuse_eq_ok.mp h
    obtain ⟨next, hnext, h⟩ := bind_eq_ok.mp h
    cases pure_eq_ok.mp h
    rw [not_or] at hactive
    have hterminal : runtimeStatusTerminal current.status = false := by simpa using hactive.1
    refine Reduced.of_validated hvalid hnext rfl (by simp) fun hsound ↦ ?_
    refine ⟨hterminal, rfl, rfl, le_rfl, .refl _, .inr rfl, rfl, id, fun hsucceeded ↦ ?_, hsound⟩
    have hstatus : current.status = .succeeded := hsucceeded
    rw [hstatus] at hterminal
    cases hterminal

theorem consumePendingSteers_reduced {next : RuntimeState} {consumed : List PendingSteer}
    (h : consumePendingSteersAtSafeBoundary ctx state = .ok (next, consumed)) :
    Reduced ctx state { state := next } := by
  obtain ⟨current, hvalid, h⟩ := bind_eq_ok.mp h
  obtain ⟨hstatus, h⟩ := refuse_eq_ok.mp h
  obtain ⟨-, h⟩ := refuse_eq_ok.mp h
  by_cases hnone : current.pendingSteers.isEmpty = true
  · rw [if_pos hnone] at h
    cases h
    exact ⟨next, hvalid, .replayed rfl rfl, (validateRuntimeState_eq_ok.mp hvalid).2.2⟩
  · rw [if_neg hnone] at h
    obtain ⟨result, hnext, h⟩ := bind_eq_ok.mp h
    cases pure_eq_ok.mp h
    obtain ⟨rfl, -, hfits⟩ := validateRuntimeState_eq_ok.mp hnext
    refine ⟨current, hvalid, .consumed rfl ?_ (trimmed_of_configuration hvalid rfl), hfits⟩
    by_contra hnot
    exact hstatus (not_or.mp hnot)

end

/-! ### Reducers that take a step -/

section

variable {ctx : RuntimeContext} {state current : RuntimeState} {transition : RuntimeTransition}

/-- What a run that may take a step promises. -/
structure Advancing (ctx : RuntimeContext) (state current : RuntimeState) : Prop where
  valid : validateRuntimeState ctx state = .ok current
  sound : Sound ctx current
  fits : FeedbackFits current
  steps : current.stepNumber < current.maxSteps
  active : runtimeStatusTerminal current.status = false
  clarification : current.pendingClarification = none

theorem advancing_of_validate (h : validateAdvancingState ctx state = .ok current) :
    Advancing ctx state current := by
  obtain ⟨hvalid, hsteps, hstatus⟩ := validateAdvancingState_eq_ok h
  obtain ⟨-, hsound, hfits⟩ := validateRuntimeState_eq_ok.mp hvalid
  refine ⟨hvalid, hsound, hfits, hsteps, active_of_goes hstatus, hsound.clarification.idle ?_⟩
  rcases hstatus with hstatus | hstatus <;> simp [hstatus]

/-- The checkpoint of a run that takes a step. -/
theorem Advancing.settled (h : Advancing ctx state current) :
    Settled current { current with
      stateVersion := current.stateVersion + 1
      stepNumber := current.stepNumber + 1
      pendingToolStarted := false } :=
  ⟨rfl, rfl, ⟨by simp, h.steps⟩, .refl _, h.sound.limits, .inr rfl, h.sound.delivery, rfl, rfl,
    .inl rfl, rfl, h.clarification, rfl, h.sound.skills⟩

theorem fail_reduced {failureCode : String} (h : fail ctx state failureCode = .ok transition) :
    Reduced ctx state transition := by
  obtain ⟨current, hadvancing, h⟩ := bind_eq_ok.mp h
  obtain ⟨-, h⟩ := refuse_eq_ok.mp h
  cases h
  have hcurrent := advancing_of_validate hadvancing
  refine ⟨current, hcurrent.valid, .moved (by simp) ?_, hcurrent.fits⟩
  exact (hcurrent.settled.update _ _ _ _ _ _ _).failed hcurrent.sound hcurrent.active rfl

theorem rejectModelDecision_reduced {feedback : ModelDecisionFeedback}
    (h : rejectModelDecision ctx state feedback = .ok transition) :
    Reduced ctx state transition := by
  obtain ⟨current, hadvancing, h⟩ := bind_eq_ok.mp h
  obtain ⟨hfits, h⟩ := refuse_eq_ok.mp h
  cases h
  have hcurrent := advancing_of_validate hadvancing
  refine ⟨current, hcurrent.valid, .moved (continueOrExhaust_eventKinds _ _) ?_, ?_⟩
  · exact (hcurrent.settled.update _ _ _ _ _ _ _).continueOrExhaust hcurrent.sound
      hcurrent.active _
  · intro kept hkept
    rw [continueOrExhaust_decisionFeedback] at hkept
    cases hkept
    simpa [validFeedback, and_assoc] using hfits

theorem rejectReusedToolIdentity_reduced {call : ToolCallDecision}
    (h : rejectReusedToolIdentity ctx state call = .ok transition) :
    Reduced ctx state transition := by
  obtain ⟨current, hadvancing, h⟩ := bind_eq_ok.mp h
  obtain ⟨call, -, h⟩ := bind_eq_ok.mp h
  cases pure_eq_ok.mp h
  have hcurrent := advancing_of_validate hadvancing
  refine ⟨current, hcurrent.valid, .moved (continueOrExhaust_eventKinds _ _) ?_, ?_⟩
  · exact (hcurrent.settled.update _ _ _ _ _ _ _).continueOrExhaust hcurrent.sound
      hcurrent.active _
  · intro kept hkept
    rw [continueOrExhaust_decisionFeedback] at hkept
    cases hkept

end

/-! ### Reducers of a run that waits -/

section

variable {ctx : RuntimeContext} {state current : RuntimeState} {transition : RuntimeTransition}

/-- The checkpoint of a run whose pending call or request is gone. -/
theorem Settled.stayed (hsound : Sound ctx current) :
    Settled current { current with
      stateVersion := current.stateVersion + 1
      pendingToolStarted := false
      pendingClarification := none } :=
  ⟨rfl, rfl, ⟨le_rfl, hsound.steps.2⟩, .refl _, hsound.limits, .inr rfl, hsound.delivery, rfl, rfl,
    .inl rfl, rfl, rfl, rfl, hsound.skills⟩

theorem terminate_reduced {failureCode : String}
    (h : terminate ctx state failureCode = .ok transition) : Reduced ctx state transition := by
  obtain ⟨current, hvalid, h⟩ := bind_eq_ok.mp h
  obtain ⟨hactive, h⟩ := refuse_eq_ok.mp h
  obtain ⟨-, h⟩ := refuse_eq_ok.mp h
  cases h
  obtain ⟨-, hsound, hfits⟩ := validateRuntimeState_eq_ok.mp hvalid
  refine ⟨current, hvalid, .moved ?_ ?_, hfits⟩
  · cases current.pendingToolCall <;> simp
  · exact ((Settled.stayed hsound).update _ _ _ _ _ _ _).failed hsound (by simpa using hactive) rfl

theorem expireRuntimeAt_reduced {now : Time} {expired : Bool}
    (h : expireRuntimeAt ctx state now = .ok (transition, expired)) :
    Reduced ctx state transition := by
  obtain ⟨current, hvalid, h⟩ := bind_eq_ok.mp h
  obtain ⟨-, h⟩ := refuse_eq_ok.mp h
  by_cases hactive : (current.limits.all fun limits ↦ now < limits.deadlineAt) = true ∨
      runtimeStatusTerminal current.status = true
  · rw [if_pos hactive] at h
    cases h
    exact ⟨_, hvalid, .replayed rfl rfl, (validateRuntimeState_eq_ok.mp hvalid).2.2⟩
  · rw [if_neg hactive] at h
    obtain ⟨result, hterminate, h⟩ := bind_eq_ok.mp h
    cases pure_eq_ok.mp h
    obtain ⟨again, hagain, houtcome, hfits⟩ := terminate_reduced hterminate
    obtain ⟨rfl, -⟩ := validateRuntimeState_eq_ok.mp hagain
    rw [trimmed_of_configuration hvalid rfl] at houtcome
    exact ⟨current, hvalid, houtcome, hfits⟩

theorem beginToolExecution_reduced {execution : ToolExecution}
    (h : beginToolExecution ctx state execution = .ok transition) :
    Reduced ctx state transition := by
  obtain ⟨current, hvalid, h⟩ := bind_eq_ok.mp h
  obtain ⟨-, hsound, hfits⟩ := validateRuntimeState_eq_ok.mp hvalid
  cases hcall : current.pendingToolCall with
  | none =>
    rw [hcall] at h
    cases h
  | some call =>
    simp only [hcall] at h
    obtain ⟨hwaiting, h⟩ := refuse_eq_ok.mp h
    obtain ⟨-, h⟩ := refuse_eq_ok.mp h
    cases h
    have hstatus : current.status = .waitingTool := not_not.mp (not_or.mp hwaiting).1
    have hidle : current.status ≠ .waitingInput := by simp [hstatus]
    have hnone := hsound.clarification.idle hidle
    refine ⟨current, hvalid, .moved (by simp) ?_, hfits⟩
    refine ⟨by simp [hstatus, runtimeStatusTerminal], rfl, rfl, le_rfl, .refl _, .inr rfl, rfl, id,
      fun hsucceeded ↦ ?_, ?_⟩
    · rw [hstatus] at hsucceeded
      cases hsucceeded
    · exact { hsound with
        version := by
          have hversion := hsound.version
          show 1 ≤ current.stateVersion + 1
          omega
        tool := fun _ ↦ ⟨.inl hstatus, by simp⟩
        clarification := hsound.clarification.of_idle hidle hnone rfl (.inr rfl) }

theorem awaitedApproval_eq_ok {toolCallID conflict : String} {actionVersion : ℤ}
    (h : awaitedApproval current toolCallID actionVersion conflict = .ok ()) :
    current.status = .waitingApproval := by
  rw [awaitedApproval] at h
  cases hcall : current.pendingToolCall with
  | none =>
    rw [hcall] at h
    cases h
  | some call =>
    simp only [hcall] at h
    exact not_not.mp (refuse_eq_ok.mp h).1

/-- The checkpoint of a run whose tool call is dropped. -/
theorem Settled.refused (hsound : Sound ctx current) (hidle : current.status ≠ .waitingInput)
    (toolCallID : String) (actionVersion : ℤ) (errorCode : String) :
    Settled current (current.refused toolCallID actionVersion errorCode) :=
  ⟨rfl, rfl, ⟨le_rfl, hsound.steps.2⟩, .refl _, hsound.limits, .inr rfl, hsound.delivery, rfl, rfl,
    .inl rfl, rfl, hsound.clarification.idle hidle, rfl, hsound.skills⟩

theorem reviewToolApproval_reduced {approval : ToolApproval}
    (h : reviewToolApproval ctx state approval = .ok transition) :
    Reduced ctx state transition := by
  obtain ⟨current, hvalid, h⟩ := bind_eq_ok.mp h
  obtain ⟨_, hawaited, h⟩ := bind_eq_ok.mp h
  obtain ⟨-, hsound, hfits⟩ := validateRuntimeState_eq_ok.mp hvalid
  have hstatus := awaitedApproval_eq_ok hawaited
  have hidle : current.status ≠ .waitingInput := by simp [hstatus]
  have hactive : runtimeStatusTerminal current.status = false := by
    simp [hstatus, runtimeStatusTerminal]
  cases hdecision : approval.decision with
  | approved =>
    simp only [hdecision] at h
    by_cases hexhausted : current.stepNumber ≥ current.maxSteps
    · rw [if_pos hexhausted] at h
      cases h
      refine ⟨current, hvalid, .moved (by simp) ?_, hfits⟩
      exact ((Settled.refused hsound hidle _ _ _).update _ _ _ _ _ _ _).failed hsound hactive rfl
    · rw [if_neg hexhausted] at h
      cases h
      refine ⟨current, hvalid, .moved (by simp) ?_, hfits⟩
      refine ⟨hactive, rfl, rfl, le_rfl, .refl _, .inr rfl, rfl, ?_, fun hsucceeded ↦ ?_, ?_⟩
      · intro _ hgoes
        simp at hgoes
      · cases hsucceeded
      · exact { hsound with
          version := by
            have hversion := hsound.version
            show 1 ≤ current.stateVersion + 1
            omega
          status := rfl
          tool := fun hstarted ↦ ⟨.inl rfl, (hsound.tool hstarted).2⟩
          clarification := hsound.clarification.of_idle (by simp)
            (hsound.clarification.idle hidle) rfl (.inr rfl) }
  | rejected =>
    simp only [hdecision] at h
    cases h
    refine ⟨current, hvalid, .moved (continueOrExhaust_eventKinds _ _) ?_, ?_⟩
    · exact (Settled.refused hsound hidle _ _ _).continueOrExhaust hsound hactive _
    · intro kept hkept
      rw [continueOrExhaust_decisionFeedback] at hkept
      exact hfits kept hkept
  | other name =>
    simp only [hdecision] at h
    cases h

theorem invalidateToolApproval_reduced {invalidation : ToolApprovalInvalidation}
    (h : invalidateToolApproval ctx state invalidation = .ok transition) :
    Reduced ctx state transition := by
  obtain ⟨current, hvalid, h⟩ := bind_eq_ok.mp h
  obtain ⟨_, hawaited, h⟩ := bind_eq_ok.mp h
  obtain ⟨-, h⟩ := refuse_eq_ok.mp h
  obtain ⟨-, h⟩ := refuse_eq_ok.mp h
  cases h
  obtain ⟨-, hsound, hfits⟩ := validateRuntimeState_eq_ok.mp hvalid
  have hstatus := awaitedApproval_eq_ok hawaited
  refine ⟨current, hvalid, .moved (continueOrExhaust_eventKinds _ _) ?_, ?_⟩
  · exact (Settled.refused hsound (by simp [hstatus]) _ _ _).continueOrExhaust hsound
      (by simp [hstatus, runtimeStatusTerminal]) _
  · intro kept hkept
    rw [continueOrExhaust_decisionFeedback] at hkept
    exact hfits kept hkept

end

/-! ### Tool results -/

theorem pairwise_orderedInsert {dir : String} {loaded : List String}
    (h : loaded.Pairwise (· < ·)) (hnew : dir ∉ loaded) :
    (loaded.orderedInsert (· ≤ ·) dir).Pairwise (· < ·) := by
  induction loaded with
  | nil => simp
  | cons first rest ih =>
    rw [List.pairwise_cons] at h
    rw [List.mem_cons, not_or] at hnew
    rw [List.orderedInsert_cons]
    by_cases hle : dir ≤ first
    · have hlt : dir < first := by
        by_contra hnot
        exact hnew.1 (String.le_antisymm hle (String.not_lt.mp hnot))
      rw [if_pos hle]
      refine List.pairwise_cons.mpr ⟨fun later hlater ↦ ?_, List.pairwise_cons.mpr h⟩
      rcases List.mem_cons.mp hlater with rfl | hlater
      · exact hlt
      · exact String.lt_trans hlt (h.1 later hlater)
    · rw [if_neg hle]
      refine List.pairwise_cons.mpr ⟨fun later hlater ↦ ?_, ih h.2 hnew.2⟩
      rcases (List.mem_orderedInsert _).mp hlater with rfl | hlater
      · exact String.not_le.mp hle
      · exact h.1 later hlater

/-- What the loaded skills promise. -/
theorem validateLoadedSkillDirs_eq_ok {selected : List SkillSelection} {loaded : List String} :
    validateLoadedSkillDirs selected loaded = .ok () ↔
      (∀ dir ∈ loaded, (trimSpace dir = dir ∧ dir ≠ "") ∧ dir ∈ selected.map (·.dir)) ∧
        loaded.Pairwise (· < ·) := by
  have hcheck : ∀ dir, checkLoadedSkillDir dir = .ok () ↔ trimSpace dir = dir ∧ dir ≠ "" := by
    intro dir
    simp [checkLoadedSkillDir]
  have hmore : ∀ dir : String, (if dir ∈ selected.map (·.dir) then .ok ()
      else .error "agent runtime loaded skill facts conflict with configuration" :
        Except String Unit) = .ok () ↔ dir ∈ selected.map (·.dir) := by
    intro dir
    by_cases hmem : dir ∈ selected.map (·.dir)
    · rw [if_pos hmem]
      exact ⟨fun _ ↦ hmem, fun _ ↦ rfl⟩
    · rw [if_neg hmem]
      exact ⟨fun h ↦ (nomatch h), fun h ↦ absurd h hmem⟩
  have hkey : ∀ dir, checkLoadedSkillDir dir = .ok () → id dir ≠ "" := fun dir hdir ↦
    ((hcheck dir).mp hdir).2
  rw [validateLoadedSkillDirs, checkAscending_eq_ok hkey, List.map_id]
  simp only [hcheck, hmore]
  exact and_congr_right fun _ ↦ and_iff_left fun _ _ h ↦ absurd rfl h

theorem validateLoadedSkillDirs_append {selected : List SkillSelection} {loaded : List String}
    (h : validateLoadedSkillDirs selected loaded = .ok ()) {dir : String}
    (hdir : (trimSpace dir = dir ∧ dir ≠ "") ∧ dir ∈ selected.map (·.dir)) :
    validateLoadedSkillDirs selected (appendLoadedSkillDir loaded dir) = .ok () := by
  rw [appendLoadedSkillDir]
  by_cases hmem : dir ∈ loaded
  · rwa [if_pos hmem]
  · rw [if_neg hmem]
    obtain ⟨hall, hsorted⟩ := validateLoadedSkillDirs_eq_ok.mp h
    refine validateLoadedSkillDirs_eq_ok.mpr
      ⟨fun later hlater ↦ ?_, pairwise_orderedInsert hsorted hmem⟩
    rcases (List.mem_orderedInsert _).mp hlater with rfl | hlater
    · exact hdir
    · exact hall later hlater

theorem normalizeText_eq_some {value result : String} {limit : ℕ}
    (h : normalizeText value limit = some result) : trimSpace result = result ∧ result ≠ "" := by
  rw [normalizeText] at h
  by_cases hbad : trimSpace value = "" ∨ (trimSpace value).length > limit
  · rw [if_pos hbad] at h
    cases h
  · rw [if_neg hbad] at h
    cases h
    exact ⟨trimSpace_trimSpace value, (not_or.mp hbad).1⟩

/-- The skill a result resolves to is a selected one, by its trimmed name. -/
theorem resolvedSkillDir_eq_ok {ctx : RuntimeContext} {selected : List SkillSelection}
    {output dir : String} (h : resolvedSkillDir ctx selected output = .ok dir) :
    (trimSpace dir = dir ∧ dir ≠ "") ∧ dir ∈ selected.map (·.dir) := by
  rw [resolvedSkillDir] at h
  cases hdecoded : decodeSkillsLoadResult ctx output with
  | none =>
    rw [hdecoded] at h
    cases h
  | some result =>
    simp only [hdecoded] at h
    have htext : trimSpace result.skillDir = result.skillDir ∧ result.skillDir ≠ "" := by
      simp only [decodeSkillsLoadResult, Option.bind_eq_bind, Option.bind_eq_some_iff] at hdecoded
      obtain ⟨_, -, wire, -, _, -, skillDir, hdir, instructions, -, hresult⟩ := hdecoded
      cases hresult
      exact normalizeText_eq_some hdir
    by_cases hsome : (selected.any fun skill ↦
        skill.dir == result.skillDir && skill.version == result.version &&
          skill.checksum == result.checksum && skill.instructions == result.instructions) = true
    · rw [if_pos hsome] at h
      cases h
      obtain ⟨skill, hskill, hsame⟩ := List.any_eq_true.mp hsome
      simp only [Bool.and_eq_true, beq_iff_eq] at hsame
      exact ⟨htext, List.mem_map.mpr ⟨skill, hskill, hsame.1.1.1⟩⟩
    · rw [if_neg hsome] at h
      cases h

theorem loadedAfter_eq_ok {ctx : RuntimeContext} {current : RuntimeState} {call : ToolCallDecision}
    {resolution : ToolResolution} {loaded : List String} (hsound : Sound ctx current)
    (h : loadedAfter ctx current call resolution = .ok loaded) :
    validateLoadedSkillDirs current.configuration.skills loaded = .ok () := by
  rw [loadedAfter] at h
  by_cases hload : resolution.succeeded = true ∧ call.toolName = .skillsLoad
  · rw [if_pos hload] at h
    cases hdir : resolvedSkillDir ctx current.configuration.skills resolution.output with
    | error e =>
      rw [hdir] at h
      cases h
    | ok dir =>
      rw [hdir] at h
      cases h
      exact validateLoadedSkillDirs_append hsound.skills (resolvedSkillDir_eq_ok hdir)
  · rw [if_neg hload] at h
    cases h
    exact hsound.skills

theorem resolveTool_reduced {ctx : RuntimeContext} {state : RuntimeState}
    {transition : RuntimeTransition} {resolution : ToolResolution}
    (h : resolveTool ctx state resolution = .ok transition) : Reduced ctx state transition := by
  obtain ⟨current, hvalid, h⟩ := bind_eq_ok.mp h
  obtain ⟨-, hsound, hfits⟩ := validateRuntimeState_eq_ok.mp hvalid
  cases hcall : current.pendingToolCall with
  | none =>
    rw [hcall] at h
    cases h
  | some call =>
    simp only [hcall] at h
    obtain ⟨hwaiting, h⟩ := refuse_eq_ok.mp h
    obtain ⟨-, h⟩ := refuse_eq_ok.mp h
    obtain ⟨-, h⟩ := refuse_eq_ok.mp h
    obtain ⟨-, h⟩ := refuse_eq_ok.mp h
    obtain ⟨-, h⟩ := refuse_eq_ok.mp h
    obtain ⟨-, h⟩ := refuse_eq_ok.mp h
    obtain ⟨-, h⟩ := refuse_eq_ok.mp h
    obtain ⟨loaded, hloaded, h⟩ := bind_eq_ok.mp h
    have hstatus : current.status = .waitingTool := not_not.mp hwaiting
    have hactive : runtimeStatusTerminal current.status = false := by
      simp [hstatus, runtimeStatusTerminal]
    have hskills := loadedAfter_eq_ok hsound hloaded
    have hsettled : Settled current { current with
        stateVersion := current.stateVersion + 1
        pendingToolStarted := false
        loadedSkillDirs := loaded } :=
      ⟨rfl, rfl, ⟨le_rfl, hsound.steps.2⟩, .refl _, hsound.limits, .inr rfl, hsound.delivery, rfl, rfl,
        .inl rfl, rfl, hsound.clarification.idle (by simp [hstatus]), rfl, hskills⟩
    by_cases hterminal : resolution.succeeded = false ∧ resolution.failureClass = .terminal
    · rw [if_pos hterminal] at h
      cases h
      refine ⟨current, hvalid, .moved (by simp) ?_, hfits⟩
      exact (hsettled.update _ _ _ _ _ _ _).failed hsound hactive rfl
    · rw [if_neg hterminal] at h
      cases h
      refine ⟨current, hvalid, .moved (continueOrExhaust_eventKinds _ _) ?_, ?_⟩
      · exact (hsettled.update _ _ _ _ _ _ _).continueOrExhaust hsound hactive _
      · intro kept hkept
        rw [continueOrExhaust_decisionFeedback] at hkept
        exact hfits kept hkept

/-! ### Answers -/

section

variable {ctx : RuntimeContext} {state current : RuntimeState} {transition : RuntimeTransition}

/-- A completed request joins the history. -/
theorem HistoryFacts.append {delivery : Option ExpectedDelivery}
    {history : List CompletedClarification} (h : HistoryFacts delivery history)
    {pending : PendingClarification} (hpending : PendingFacts delivery history pending)
    {completed : CompletedClarification} (hcompleted : validateCompletedClarification completed = .ok ())
    (hrequest : completed.request = pending.request) :
    HistoryFacts delivery (history ++ [completed]) := by
  refine ⟨fun other hother ↦ ?_, fun other hother ↦ ?_, ?_⟩
  · rcases List.mem_append.mp hother with hold | hnew
    · exact h.completed other hold
    · rw [List.mem_singleton.mp hnew]
      exact hcompleted
  · rcases List.mem_append.mp hother with hold | hnew
    · exact h.delivery other hold
    · rw [List.mem_singleton.mp hnew, hrequest]
      exact hpending.delivery
  · rw [List.map_append, List.map_singleton, List.nodup_append]
    refine ⟨h.nodup, List.nodup_singleton _, fun id hid other hother ↦ ?_⟩
    rw [List.mem_singleton.mp hother, hrequest]
    rintro rfl
    exact hpending.fresh hid

theorem answerPending_moved {pending : PendingClarification} {questionID : String}
    {submission : ClarificationResponseSubmission} {replayed : Bool} (hsound : Sound ctx current)
    (hstatus : current.status = .waitingInput) (hpending : current.pendingClarification = some pending)
    (hid : trimSpace questionID = questionID) (hbounded : boundedDecisionText questionID 120 = true)
    (hversion : 1 ≤ submission.expectedStateVersion)
    (h : answerPending current pending questionID submission = .ok (transition, replayed)) :
    Outcome ctx current transition ∧
      transition.state.decisionFeedback = current.decisionFeedback := by
  obtain ⟨answer, hanswer, h⟩ := bind_eq_ok.mp h
  have hfacts := hsound.clarification.pending pending hpending
  have hkept := hfacts.wellFormed.upsert hanswer hid
  have hactive : runtimeStatusTerminal current.status = false := by
    simp [hstatus, runtimeStatusTerminal]
  have hnext : 1 ≤ current.stateVersion + 1 := by
    have hversion := hsound.version
    omega
  by_cases hsame : submission.complete = false ∧
      (decide (clarificationAnswerByQuestionID pending.answers questionID ≠ some answer)) = false
  · rw [if_pos hsame] at h
    cases h
    exact ⟨.replayed rfl rfl, rfl⟩
  · rw [if_neg hsame] at h
    obtain ⟨-, h⟩ := refuse_eq_ok.mp h
    obtain ⟨hcomplete, h⟩ := refuse_eq_ok.mp h
    by_cases hopen : submission.complete = false
    · rw [if_pos hopen] at h
      cases h
      have hchanged : clarificationAnswerByQuestionID pending.answers questionID ≠ some answer :=
        by simpa [hopen] using hsame
      refine ⟨.moved (by simp [hchanged]) ?_, rfl⟩
      refine ⟨hactive, rfl, rfl, le_rfl, .refl _, .inr rfl, rfl, id, fun hsucceeded ↦ ?_, ?_⟩
      · rw [hstatus] at hsucceeded
        cases hsucceeded
      · obtain ⟨-, hcall, hstarted⟩ := hsound.clarification.waiting hstatus
        exact { hsound with
          version := hnext
          clarification := ⟨fun _ ↦ ⟨rfl, hcall, hstarted⟩, fun hidle ↦ absurd hstatus hidle,
            hsound.clarification.history, fun kept hsome ↦
              Option.some.inj hsome ▸ ⟨hkept, hfacts.fresh, hfacts.delivery⟩⟩ }
    · rw [if_neg hopen] at h
      cases h
      have hdone : clarificationAnswersComplete pending.request
          (upsertClarificationAnswer pending.request pending.answers answer) = true := by
        simpa [hopen] using hcomplete
      refine ⟨.moved (by simp) ?_, rfl⟩
      refine ⟨hactive, rfl, rfl, le_rfl, .refl _, .inr rfl, rfl, ?_, fun hsucceeded ↦ ?_, ?_⟩
      · intro hbudget _
        exact hbudget (.inr (.inr hstatus))
      · cases hsucceeded
      · obtain ⟨-, hcall, hstarted⟩ := hsound.clarification.waiting hstatus
        have hcompleted : validateCompletedClarification
            { request := pending.request
              answers := upsertClarificationAnswer pending.request pending.answers answer
              completionQuestionID := questionID
              completionExpectedStateVersion := submission.expectedStateVersion } = .ok () := by
          refine bind_eq_ok.mpr ⟨(), validateClarificationRecord_eq_ok.mpr
            ⟨hkept, fun _ ↦ hkept.complete_trimmed hdone⟩, refuse_eq_ok.mpr ⟨?_,
              refuse_eq_ok.mpr ⟨answerByQuestionID_upsert hanswer, rfl⟩⟩⟩
          rw [hbounded]
          simpa using hversion
        exact { hsound with
          version := hnext
          status := rfl
          tool := fun hstarts ↦ by
            rw [hstarted] at hstarts
            cases hstarts
          clarification := ⟨nofun, fun _ ↦ rfl,
            hsound.clarification.history.append hfacts hcompleted rfl, nofun⟩ }

theorem applyClarificationResponse_reduced {submission : ClarificationResponseSubmission}
    {replayed : Bool}
    (h : applyClarificationResponse ctx state submission = .ok (transition, replayed)) :
    Reduced ctx state transition := by
  obtain ⟨current, hvalid, h⟩ := bind_eq_ok.mp h
  obtain ⟨-, hsound, hfits⟩ := validateRuntimeState_eq_ok.mp hvalid
  obtain ⟨hinvalid, h⟩ := refuse_eq_ok.mp h
  simp only [not_or, Bool.not_eq_false, not_lt] at hinvalid
  cases hcompleted : completedClarificationByRequestID current.clarificationHistory
      (trimSpace submission.requestID) with
  | some completed =>
    simp only [hcompleted] at h
    obtain ⟨answer, -, h⟩ := bind_eq_ok.mp h
    by_cases hsame : submission.complete = true ∧
        trimSpace submission.questionID = completed.completionQuestionID ∧
        submission.expectedStateVersion = completed.completionExpectedStateVersion ∧
        clarificationAnswerByQuestionID completed.answers (trimSpace submission.questionID) =
          some answer
    · rw [if_pos hsame] at h
      cases h
      exact ⟨_, hvalid, .replayed rfl rfl, hfits⟩
    · rw [if_neg hsame] at h
      cases h
  | none =>
    cases hpending : current.pendingClarification with
    | none =>
      simp only [hcompleted, hpending] at h
      cases h
    | some pending =>
      simp only [hcompleted, hpending] at h
      obtain ⟨hstatus, h⟩ := refuse_eq_ok.mp h
      obtain ⟨-, h⟩ := refuse_eq_ok.mp h
      obtain ⟨houtcome, hfeedback⟩ := answerPending_moved hsound (not_not.mp hstatus) hpending
        (trimSpace_trimSpace _) hinvalid.2.1 hinvalid.2.2 h
      refine ⟨current, hvalid, houtcome, fun kept hkept ↦ hfits kept ?_⟩
      rwa [hfeedback] at hkept

end

/-! ### Decisions -/

section

variable {ctx : RuntimeContext} {state current next : RuntimeState} {transition : RuntimeTransition}

/-- A final answer is refused for skills not loaded, with a list of them that is too long for the
feedback a checkpoint may keep. -/
def RefusedAtLength (state : RuntimeState) (input : RuntimeInput) : Prop :=
  input.decision.kind = .final ∧
    validFeedback (missingSkillsFeedback (missingRequiredSkillDirs state.configuration.skills
      state.loadedSkillDirs)) = false

/-- What a decision is applied to: a checkpoint that takes a step under the decided contract. -/
theorem Advancing.decided (h : Advancing ctx state current) {expected : ExpectedDelivery}
    (hexpected : expected.validate = .ok ())
    (hfrozen : (current.expectedDelivery.any fun kept ↦ !kept.equal expected) ≠ true) :
    Settled current { current with
      stateVersion := current.stateVersion + 1
      stepNumber := current.stepNumber + 1
      expectedDelivery := some expected }.decided := by
  refine ⟨rfl, rfl, ⟨by simp [RuntimeState.decided], h.steps⟩, .refl _, h.sound.limits, ?_, ?_, rfl,
    rfl, .inl rfl, rfl, rfl, rfl, h.sound.skills⟩
  · cases hkept : current.expectedDelivery with
    | none => exact .inl rfl
    | some kept =>
      have hsame : kept.equal expected = true := by simpa [hkept] using hfrozen
      exact .inr (congrArg some (ExpectedDelivery.equal_iff.mp hsame).symm)
  · intro kept hkept
    cases hkept
    exact hexpected

theorem validateRuntimeLimits_some {limits : RuntimeLimits} :
    validateRuntimeLimits (some limits) = .ok () ↔
      (1 ≤ limits.maxToolCalls ∧ limits.maxToolCalls ≤ maxRuntimeToolCalls) ∧
        (0 ≤ limits.toolCallsUsed ∧ limits.toolCallsUsed ≤ limits.maxToolCalls) ∧
        isZero limits.startedAt = false ∧ isZero limits.deadlineAt = false ∧
        limits.startedAt < limits.deadlineAt := by
  simp only [validateRuntimeLimits, refuse_eq_ok, not_or, not_lt, not_le, and_true,
    Bool.not_eq_true, and_assoc]

/-- One more tool call, where there is one left. -/
theorem validateRuntimeLimits_spend {limits : Option RuntimeLimits}
    (h : validateRuntimeLimits limits = .ok ())
    (hleft : (limits.any fun limits ↦ limits.toolCallsUsed ≥ limits.maxToolCalls) ≠ true) :
    validateRuntimeLimits (limits.map fun limits ↦
      { limits with toolCallsUsed := limits.toolCallsUsed + 1 }) = .ok () := by
  cases limits with
  | none => rfl
  | some limits =>
    obtain ⟨hmax, hused, htimes⟩ := validateRuntimeLimits_some.mp h
    have hlt : limits.toolCallsUsed < limits.maxToolCalls := by simpa using hleft
    refine validateRuntimeLimits_some.mpr ⟨hmax, ⟨?_, ?_⟩, htimes⟩
    · show 0 ≤ limits.toolCallsUsed + 1
      omega
    · show limits.toolCallsUsed + 1 ≤ limits.maxToolCalls
      omega

theorem advanceClarification_follows {request : ClarificationDecision}
    (hsettled : Settled current next) (hsound : Sound ctx current)
    (hactive : runtimeStatusTerminal current.status = false)
    (hrequest : request.validate = .ok request) (hcall : next.pendingToolCall = none)
    (hexpected : next.expectedDelivery = some request.expectedDelivery) :
    Follows ctx current (advanceClarification next request).state := by
  rw [advanceClarification]
  by_cases hexhausted : next.stepNumber ≥ next.maxSteps
  · rw [if_pos hexhausted]
    exact (hsettled.update _ _ _ _ _ _ _).failed hsound hactive rfl
  · rw [if_neg hexhausted]
    by_cases hreused : (completedClarificationByRequestID next.clarificationHistory
        request.requestID).isSome = true
    · rw [if_pos hreused]
      exact (hsettled.update _ _ _ _ _ _ _).follows hsound hactive rfl nofun
        (fun _ ↦ not_le.mp hexhausted) nofun
    · rw [if_neg hreused]
      -- The status of `next` does not matter to what else it promises.
      have hnext := (hsettled.update .failed none none none none "" "").sound hsound rfl nofun
      have hfresh : request.requestID ∉ next.clarificationHistory.map (·.request.requestID) := by
        intro hmem
        obtain ⟨completed, hcompleted, hsame⟩ := List.mem_map.mp hmem
        refine hreused (List.find?_isSome.mpr ⟨completed, hcompleted, ?_⟩)
        simpa using hsame
      obtain ⟨hcheck, -⟩ := ClarificationDecision.validate_eq_ok.mp hrequest
      refine ⟨hactive, hsettled.version, hsettled.maxSteps, hsettled.steps.1, hsettled.limits,
        hsettled.frozen, hsettled.configuration, fun _ _ ↦ not_le.mp hexhausted, nofun, ?_⟩
      exact { hnext with
        status := rfl
        tool := fun hstarts ↦ by
          rw [hsettled.tool] at hstarts
          cases hstarts
        clarification := ⟨fun _ ↦ ⟨rfl, hcall, hsettled.tool⟩, fun hidle ↦ absurd rfl hidle,
          hnext.clarification.history, fun kept hsome ↦
            Option.some.inj hsome ▸ ⟨.nil hcheck, hfresh, hexpected⟩⟩ }

theorem advanceToolCall_follows {call : ToolCallDecision} {toolSchemaVersion : ℤ}
    (hsettled : Settled current next) (hsound : Sound ctx current)
    (hactive : runtimeStatusTerminal current.status = false)
    (hlimits : next.limits = current.limits)
    (h : advanceToolCall next call toolSchemaVersion = .ok transition) :
    Follows ctx current transition.state ∧ transition.eventKinds ≠ [] ∧
      transition.state.decisionFeedback = next.decisionFeedback := by
  rw [advanceToolCall] at h
  by_cases hexhausted : next.stepNumber ≥ next.maxSteps
  · rw [if_pos hexhausted] at h
    cases h
    exact ⟨(hsettled.update _ _ _ _ _ _ _).failed hsound hactive rfl, by simp, rfl⟩
  · rw [if_neg hexhausted] at h
    cases hpolicy : toolPolicyForSchema call.toolName toolSchemaVersion with
    | none =>
      rw [hpolicy] at h
      cases h
    | some policy =>
      simp only [hpolicy] at h
      by_cases hspent : (next.limits.any fun limits ↦
          limits.toolCallsUsed ≥ limits.maxToolCalls) = true
      · rw [if_pos hspent] at h
        cases h
        exact ⟨(hsettled.update _ _ _ _ _ _ _).failed hsound hactive rfl, by simp, rfl⟩
      · rw [if_neg hspent] at h
        have hcalled : Settled current { next with
            limits := next.limits.map fun limits ↦
              { limits with toolCallsUsed := limits.toolCallsUsed + 1 } } :=
          ⟨hsettled.version, hsettled.maxSteps, hsettled.steps, ⟨1, by simp, by rw [hlimits]⟩,
            validateRuntimeLimits_spend hsettled.validLimits hspent, hsettled.frozen,
            hsettled.delivery, hsettled.configuration, hsettled.userMessage, hsettled.steers,
            hsettled.history, hsettled.clarification, hsettled.tool, hsettled.skills⟩
        by_cases happroval : approvalRequiredFor policy = true
        · rw [if_pos happroval] at h
          cases h
          exact ⟨(hcalled.update _ _ _ _ _ _ _).follows hsound hactive rfl nofun
            (fun hgoes ↦ by simp at hgoes) nofun, by simp, rfl⟩
        · rw [if_neg happroval] at h
          cases h
          exact ⟨(hcalled.update _ _ _ _ _ _ _).follows hsound hactive rfl nofun
            (fun hgoes ↦ by simp at hgoes) nofun, by simp, rfl⟩

theorem advanceFinal_follows {final : FinalDecision} {evidence : DeliveryEvidence}
    (hsettled : Settled current next) (hsound : Sound ctx current)
    (hactive : runtimeStatusTerminal current.status = false)
    (hexpected : next.expectedDelivery = some final.expectedDelivery) :
    Follows ctx current (advanceFinal next final evidence).state ∧
      (advanceFinal next final evidence).eventKinds ≠ [] := by
  rw [advanceFinal]
  by_cases hmissing : missingRequiredSkillDirs next.configuration.skills next.loadedSkillDirs ≠ []
  · rw [if_pos hmissing]
    exact ⟨(hsettled.update _ _ _ _ _ _ _).continueOrExhaust hsound hactive _,
      continueOrExhaust_eventKinds _ _⟩
  · rw [if_neg hmissing]
    cases hstatus : (verifyDelivery final.expectedDelivery evidence).status with
    | satisfied =>
      simp only [hstatus]
      refine ⟨(hsettled.update _ _ _ _ _ _ _).follows hsound hactive rfl nofun ?_ fun _ ↦ ?_,
        by simp⟩
      · intro hgoes
        simp at hgoes
      · exact ⟨not_not.mp hmissing, _, evidence, hexpected, rfl, hstatus⟩
    | failed =>
      simp only [hstatus]
      exact ⟨(hsettled.update _ _ _ _ _ _ _).failed hsound hactive rfl, by simp⟩
    | repairable =>
      simp only [hstatus]
      exact ⟨(hsettled.update _ _ _ _ _ _ _).continueOrExhaust hsound hactive _,
        continueOrExhaust_eventKinds _ _⟩

theorem advanceFinal_fits {final : FinalDecision} {evidence : DeliveryEvidence}
    (hfeedback : next.decisionFeedback = none)
    (hshort : validFeedback (missingSkillsFeedback (missingRequiredSkillDirs
      next.configuration.skills next.loadedSkillDirs)) = true) :
    FeedbackFits (advanceFinal next final evidence).state := by
  intro kept hkept
  rw [advanceFinal] at hkept
  by_cases hmissing : missingRequiredSkillDirs next.configuration.skills next.loadedSkillDirs ≠ []
  · rw [if_pos hmissing, continueOrExhaust_decisionFeedback] at hkept
    cases hkept
    exact hshort
  · rw [if_neg hmissing] at hkept
    cases hstatus : (verifyDelivery final.expectedDelivery evidence).status with
    | satisfied | failed =>
      simp only [hstatus] at hkept
      rw [hfeedback] at hkept
      cases hkept
    | repairable =>
      simp only [hstatus, continueOrExhaust_decisionFeedback] at hkept
      rw [hfeedback] at hkept
      cases hkept

end

end HMaigc.AgentRuntime
