import HMaigc.Agent.Runtime

/-!
# What makes a checkpoint well formed

The validation of a runtime state, as a record of what it promises.

* `Checked` — the promises, one field a check, and `checkRuntimeState_eq_ok`.
* `ClarificationFacts` — the part about requests for clarification, which ties the status, the
  pending request, the history and the delivery contract together.
-/

set_option autoImplicit false

namespace HMaigc.AgentRuntime

open Go

/-! ## Requests for clarification -/

/-- What the history of answered requests promises. -/
structure HistoryFacts (delivery : Option ExpectedDelivery)
    (history : List CompletedClarification) : Prop where
  completed : ∀ completed ∈ history, validateCompletedClarification completed = .ok ()
  delivery : ∀ completed ∈ history, delivery = some completed.request.expectedDelivery
  nodup : (history.map (·.request.requestID)).Nodup

/-- What a pending request promises. -/
structure PendingFacts (delivery : Option ExpectedDelivery) (history : List CompletedClarification)
    (pending : PendingClarification) : Prop where
  wellFormed : WellFormed pending.request pending.answers
  fresh : pending.request.requestID ∉ history.map (·.request.requestID)
  delivery : delivery = some pending.request.expectedDelivery

structure ClarificationFacts (state : RuntimeState) : Prop where
  waiting : state.status = .waitingInput → state.pendingClarification.isSome = true ∧
    state.pendingToolCall = none ∧ state.pendingToolStarted = false
  idle : state.status ≠ .waitingInput → state.pendingClarification = none
  history : HistoryFacts state.expectedDelivery state.clarificationHistory
  pending : ∀ pending, state.pendingClarification = some pending →
    PendingFacts state.expectedDelivery state.clarificationHistory pending

theorem checkDelivery_eq_ok {state : RuntimeState} {request : ClarificationDecision} :
    checkDelivery state request = .ok () ↔
      state.expectedDelivery = some request.expectedDelivery := by
  rw [checkDelivery]
  cases hdelivery : state.expectedDelivery with
  | none => simp
  | some expected =>
    by_cases hequal : expected.equal request.expectedDelivery = true
    · rw [Option.any_some, if_pos hequal, ExpectedDelivery.equal_iff.mp hequal]
      simp
    · have hne : expected ≠ request.expectedDelivery := fun h ↦
        hequal (ExpectedDelivery.equal_iff.mpr h)
      simp [hequal, hne]

theorem checkPendingClarification_eq_ok {state : RuntimeState} {pending : PendingClarification} :
    checkPendingClarification state pending = .ok () ↔
      PendingFacts state.expectedDelivery state.clarificationHistory pending := by
  rw [checkPendingClarification, bind_eq_ok]
  constructor
  · rintro ⟨_, hrecord, h⟩
    obtain ⟨hfresh, hdelivery⟩ := refuse_eq_ok.mp h
    exact ⟨(validateClarificationRecord_eq_ok.mp hrecord).1, hfresh,
      checkDelivery_eq_ok.mp hdelivery⟩
  · intro h
    exact ⟨(), validateClarificationRecord_eq_ok.mpr ⟨h.wellFormed, fun hfalse ↦ by cases hfalse⟩,
      refuse_eq_ok.mpr ⟨h.fresh, checkDelivery_eq_ok.mpr h.delivery⟩⟩

theorem checkHistory_eq_ok {state : RuntimeState} :
    checkDistinct (·.request.requestID) validateCompletedClarification
        "agent runtime clarification history is duplicated"
        (fun completed ↦ checkDelivery state completed.request) [] state.clarificationHistory =
      .ok () ↔
    HistoryFacts state.expectedDelivery state.clarificationHistory := by
  rw [checkDistinct_eq_ok]
  constructor
  · rintro ⟨hall, hnodup, -⟩
    exact ⟨fun completed hcompleted ↦ (hall completed hcompleted).1,
      fun completed hcompleted ↦ checkDelivery_eq_ok.mp (hall completed hcompleted).2, hnodup⟩
  · intro h
    exact ⟨fun completed hcompleted ↦ ⟨h.completed completed hcompleted,
      checkDelivery_eq_ok.mpr (h.delivery completed hcompleted)⟩, h.nodup, by simp⟩

/-- The last check of the clarification state. -/
theorem checkPending_eq_ok {state : RuntimeState} :
    (match state.pendingClarification with
      | none => .ok ()
      | some pending => checkPendingClarification state pending : Except String Unit) = .ok () ↔
    ∀ pending, state.pendingClarification = some pending →
      PendingFacts state.expectedDelivery state.clarificationHistory pending := by
  cases hpending : state.pendingClarification with
  | none => simp
  | some pending => simp [checkPendingClarification_eq_ok]

theorem validateClarificationState_eq_ok {state : RuntimeState} :
    validateClarificationState state = .ok () ↔ ClarificationFacts state := by
  rw [validateClarificationState, refuse_eq_ok, bind_eq_ok]
  constructor
  · rintro ⟨hstatus, _, hhistory, hpending⟩
    rw [not_or, not_and, not_and] at hstatus
    refine ⟨fun hwaiting ↦ ?_, fun hidle ↦ ?_, checkHistory_eq_ok.mp hhistory,
      checkPending_eq_ok.mp hpending⟩
    · simpa [Option.isSome_iff_ne_none, not_or] using hstatus.1 hwaiting
    · simpa using hstatus.2 hidle
  · intro h
    refine ⟨?_, (), checkHistory_eq_ok.mpr h.history, checkPending_eq_ok.mpr h.pending⟩
    rintro (⟨hwaiting, hbad⟩ | ⟨hidle, hbad⟩)
    · obtain ⟨hpending, hcall, hstarted⟩ := h.waiting hwaiting
      simp [Option.isSome_iff_ne_none.mp hpending, hcall, hstarted] at hbad
    · rw [h.idle hidle] at hbad
      cases hbad

/-- The delivery contract of a run is set once. -/
def Frozen (before after : Option ExpectedDelivery) : Prop :=
  before = none ∨ after = before

/-- A history under no contract is empty, so setting the contract changes nothing about it. -/
theorem HistoryFacts.frozen {before after : Option ExpectedDelivery}
    {history : List CompletedClarification} (h : HistoryFacts before history)
    (hfrozen : Frozen before after) : HistoryFacts after history := by
  rcases hfrozen with hnone | hsame
  · have hempty : history = [] := by
      refine List.eq_nil_iff_forall_not_mem.mpr fun completed hcompleted ↦ ?_
      have hdelivery := h.delivery completed hcompleted
      rw [hnone] at hdelivery
      cases hdelivery
    rw [hempty]
    exact ⟨by simp, by simp, List.nodup_nil⟩
  · rwa [hsame]

/-- A state without a pending request. -/
theorem ClarificationFacts.of_idle {before after : RuntimeState} (h : ClarificationFacts before)
    (hstatus : after.status ≠ .waitingInput) (hpending : after.pendingClarification = none)
    (hhistory : after.clarificationHistory = before.clarificationHistory)
    (hfrozen : Frozen before.expectedDelivery after.expectedDelivery) :
    ClarificationFacts after := by
  refine ⟨fun hwaiting ↦ absurd hwaiting hstatus, fun _ ↦ hpending, ?_, fun pending hsome ↦ ?_⟩
  · rw [hhistory]
    exact h.history.frozen hfrozen
  · rw [hpending] at hsome
    cases hsome

/-! ## The whole state -/

/-- What a checked state promises, apart from the feedback it keeps for the model. -/
structure Sound (ctx : RuntimeContext) (state : RuntimeState) : Prop where
  version : 1 ≤ state.stateVersion
  steps : 0 ≤ state.stepNumber ∧ state.stepNumber ≤ state.maxSteps
  maxSteps : 1 ≤ state.maxSteps ∧ state.maxSteps ≤ maxRuntimeSteps
  status : state.status.valid = true
  limits : validateRuntimeLimits state.limits = .ok ()
  tool : state.pendingToolStarted = true →
    (state.status = .waitingTool ∨ state.status = .cancelled) ∧ state.pendingToolCall.isSome = true
  steers : validatePendingSteers state.pendingSteers = .ok ()
  clarification : ClarificationFacts state
  message : ¬userMessageInvalid state.userMessage
  configuration : state.configuration.check ctx = .ok ()
  delivery : ∀ expected, state.expectedDelivery = some expected → expected.validate = .ok ()
  skills : validateLoadedSkillDirs state.configuration.skills state.loadedSkillDirs = .ok ()

/-- The feedback kept for the model is well formed. -/
def FeedbackFits (state : RuntimeState) : Prop :=
  ∀ feedback, state.decisionFeedback = some feedback → validFeedback feedback = true

theorem checkRuntimeState_eq_ok {ctx : RuntimeContext} {state : RuntimeState} :
    checkRuntimeState ctx state = .ok () ↔ Sound ctx state ∧ FeedbackFits state := by
  have hfeedback : (¬(state.decisionFeedback.any fun feedback ↦ !validFeedback feedback) = true) ↔
      FeedbackFits state := by
    cases h : state.decisionFeedback with
    | none => simp [FeedbackFits, h]
    | some feedback => simp [FeedbackFits, h]
  have hdelivery : checkExpectedDelivery state.expectedDelivery = .ok () ↔
      ∀ expected, state.expectedDelivery = some expected → expected.validate = .ok () := by
    cases h : state.expectedDelivery with
    | none => simp [checkExpectedDelivery]
    | some expected => simp [checkExpectedDelivery]
  rw [checkRuntimeState]
  simp only [refuse_eq_ok, bind_eq_ok, hfeedback, hdelivery]
  constructor
  · rintro ⟨hboundary, hstatus, _, hlimits, htool, _, hsteers, _, hclarification, hmessage, _,
      hconfiguration, hfeedback, _, hdelivery, hskills⟩
    refine ⟨⟨by omega, by omega, by omega, by simpa using hstatus, hlimits, fun hstarted ↦ ?_,
      hsteers, validateClarificationState_eq_ok.mp hclarification, hmessage, hconfiguration, hdelivery, hskills⟩, hfeedback⟩
    rw [not_and, not_or] at htool
    obtain ⟨hstatus, hcall⟩ := htool hstarted
    refine ⟨?_, by simpa [Option.isSome_iff_ne_none] using hcall⟩
    by_contra hnot
    exact hstatus (not_or.mp hnot)
  · rintro ⟨h, hfeedback⟩
    refine ⟨?_, by simp [h.status], (), h.limits, ?_, (), h.steers, (),
      validateClarificationState_eq_ok.mpr h.clarification, h.message, (), h.configuration, hfeedback, (), h.delivery, h.skills⟩
    · obtain ⟨hversion, hsteps, hmax, -⟩ := h
      omega
    · rintro ⟨hstarted, hbad⟩
      obtain ⟨hstatus, hcall⟩ := h.tool hstarted
      rcases hbad with ⟨hwaiting, hcancelled⟩ | hnone
      · exact hstatus.elim hwaiting hcancelled
      · rw [Option.isNone_iff_eq_none.mp hnone] at hcall
        cases hcall

@[simp] theorem GenerationModelSelection.trimmed_trimmed (selection : GenerationModelSelection) :
    selection.trimmed.trimmed = selection.trimmed := by
  simp [GenerationModelSelection.trimmed]

@[simp] theorem RunConfiguration.trimmed_trimmed (configuration : RunConfiguration) :
    configuration.trimmed.trimmed = configuration.trimmed := by
  simp [RunConfiguration.trimmed, Function.comp_def]

@[simp] theorem RuntimeState.trimmed_trimmed (state : RuntimeState) :
    state.trimmed.trimmed = state.trimmed := by
  simp [RuntimeState.trimmed]

/-- A state that validation accepts. -/
def Accepted (ctx : RuntimeContext) (state : RuntimeState) : Prop :=
  ∃ trimmed, validateRuntimeState ctx state = .ok trimmed

theorem validateRuntimeState_eq_ok {ctx : RuntimeContext} {state result : RuntimeState} :
    validateRuntimeState ctx state = .ok result ↔
      result = state.trimmed ∧ Sound ctx result ∧ FeedbackFits result := by
  rw [validateRuntimeState, bind_eq_ok]
  constructor
  · rintro ⟨_, hcheck, h⟩
    cases pure_eq_ok.mp h
    exact ⟨rfl, checkRuntimeState_eq_ok.mp hcheck⟩
  · rintro ⟨rfl, h⟩
    exact ⟨(), checkRuntimeState_eq_ok.mpr h, rfl⟩

/-- What is accepted is accepted as validation leaves it, too. -/
theorem accepted_iff {ctx : RuntimeContext} {state : RuntimeState} :
    Accepted ctx state ↔ Sound ctx state.trimmed ∧ FeedbackFits state.trimmed := by
  constructor
  · rintro ⟨trimmed, h⟩
    obtain ⟨rfl, h⟩ := validateRuntimeState_eq_ok.mp h
    exact h
  · intro h
    exact ⟨_, validateRuntimeState_eq_ok.mpr ⟨rfl, h⟩⟩

end HMaigc.AgentRuntime
