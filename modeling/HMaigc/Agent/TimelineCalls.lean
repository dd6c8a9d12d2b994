import HMaigc.Agent.TimelineItems

/-!
# The events of each reducer

Which events a reducer records depends on what the run waits for before and after it.  Most
transitions are a `Walk` about the item of what the run waits for; `Mindful` lists the three that a
message may be written across: its completion, a steer and an interruption.

`Tidy` is what the checkpoints of a run keep to for this: a run that goes on waits for nothing, a
pending call has no result, and the names of what is waited for are short.
-/

set_option autoImplicit false

namespace HMaigc.AgentRuntime.Timelines

open Go

/-! ## Checkpoints -/

structure Tidy (state : RuntimeState) : Prop where
  going : state.status = .queued ∨ state.status = .running →
    state.pendingToolCall = none ∧ state.pendingClarification = none
  waiting : ∀ call, state.pendingToolCall = some call →
    runtimeStatusTerminal state.status = false →
    state.lastToolResult = none ∧ call.toolCallID.utf8ByteSize ≤ 120
  asked : ∀ pending, state.pendingClarification = some pending →
    pending.request.requestID.length ≤ 120

/-- The run waits for nothing. -/
structure Idle (state : RuntimeState) : Prop where
  call : state.pendingToolCall = none
  clarification : state.pendingClarification = none

variable {ctx : RuntimeContext} {previous state current : RuntimeState}
  {replay : Option ToolCallDecision} {transition : RuntimeTransition} {x : TimelineItemID}
  {call : ToolCallDecision} {kinds : List EventKind}

theorem Idle.tidy (h : Idle state) : Tidy state :=
  ⟨fun _ ↦ ⟨h.call, h.clarification⟩, fun _ hcall ↦ (nomatch h.call.symm.trans hcall),
    fun _ hpending ↦ nomatch h.clarification.symm.trans hpending⟩

theorem Idle.openItem (h : Idle state) : openItem state = none := by
  rw [AgentRuntime.openItem, h.call, h.clarification]
  split <;> rfl

theorem openItem_of_terminal (h : runtimeStatusTerminal state.status = true) :
    openItem state = none := if_pos h

theorem openItem_of_call (hactive : runtimeStatusTerminal state.status = false)
    (hnone : state.pendingClarification = none) (hcall : state.pendingToolCall = some call) :
    openItem state = some (toolCallItemID call) := by
  rw [openItem, hactive, hnone, hcall]
  rfl

theorem openItem_of_pending {pending : PendingClarification}
    (hactive : runtimeStatusTerminal state.status = false)
    (hpending : state.pendingClarification = some pending) :
    openItem state = some (clarificationItemID pending.request) := by
  rw [openItem, hactive, hpending]
  rfl

/-- A run that may take a step waits for nothing. -/
theorem idle_of_advancing (htidy : Tidy state)
    (h : validateAdvancingState ctx state = .ok current) :
    current = state.trimmed ∧ Idle state := by
  obtain ⟨hvalid, -, hstatus⟩ := validateAdvancingState_eq_ok h
  obtain ⟨rfl, -⟩ := trimmed_of_valid hvalid
  obtain ⟨hcall, hnone⟩ := htidy.going hstatus
  exact ⟨rfl, hcall, hnone⟩

/-! ## Walks -/

theorem eventStates_none (kind : EventKind) :
    agentRuntimeTransitionEventStates previous state none kind = (previous, state) := rfl

/-- The events that add a closed item to the timeline of a run that waits for nothing. -/
def addsClosed : EventKind → Bool
  | .runStatusChanged | .runCompleted | .runFailed | .modelRejected | .toolResult => true
  | _ => false

theorem sequenceOf_addsClosed (hidle : Idle previous) {kind : EventKind}
    (hkind : addsClosed kind = true) {sequence : ℤ} {id : TimelineItemID}
    (h : eventItem previous state sequence kind = some id) : sequenceOf id = some sequence := by
  cases kind <;> simp only [addsClosed, Bool.false_eq_true] at hkind <;>
    simp only [eventItem, hidle.call, hidle.clarification, Option.isNone_none, if_true,
      Option.some.injEq, Option.map_eq_some_iff] at h
  case toolResult =>
    obtain ⟨result, -, rfl⟩ := h
    rfl
  all_goals
    subst h
    rfl

/-- Such events are a walk about anything. -/
theorem walk_addsClosed (hidle : Idle previous) (hkinds : ∀ kind ∈ kinds, addsClosed kind = true)
    (b : Bool) : Walk previous state none x kinds b b := by
  induction kinds with
  | nil => exact .nil b
  | cons kind rest ih =>
    have hkind := hkinds kind List.mem_cons_self
    refine .aside ?_ ?_ (fun sequence id h ↦ sequenceOf_addsClosed hidle hkind h)
      (ih fun other hother ↦ hkinds other (List.mem_cons_of_mem _ hother))
    · rintro rfl
      cases hkind
    · cases kind <;> first | rfl | cases hkind

theorem walk_status {b : Bool} : Walk previous state replay x [.runStatusChanged] b b :=
  .aside (by decide) rfl (fun _ _ h ↦ by cases h; rfl) (.nil b)

theorem walk_failed {b : Bool} (hnone : previous.pendingClarification = none) :
    Walk previous state replay x [.runFailed] b b := by
  refine .aside (by decide) rfl (fun sequence id h ↦ ?_) (.nil b)
  have hprevious : (agentRuntimeTransitionEventStates previous state replay .runFailed).1 =
      previous := by
    cases replay <;> rfl
  simp only [eventItem, hprevious, hnone, Option.some.injEq] at h
  subst h
  rfl

/-! ## What a transition does -/

/-- A transition that a message may be written across. -/
inductive Mindful (previous state : RuntimeState) : List EventKind → Prop
  | completes (hstep : state.stepNumber = previous.stepNumber + 1) (hbefore : Idle previous)
      (hafter : runtimeStatusTerminal state.status = true) :
      Mindful previous state [.agentMessageCompleted, .runCompleted]
  | steers (hstatus : state.status = previous.status)
      (hstep : state.stepNumber = previous.stepNumber)
      (hopen : openItem state = openItem previous) : Mindful previous state [.runSteered]
  | interrupts (hafter : state.status = .cancelled)
      (hresult : state.lastToolResult = previous.lastToolResult) :
      Mindful previous state [.runInterrupted]

/-- A transition of a run. -/
inductive Timed (previous state : RuntimeState) (replay : Option ToolCallDecision)
    (kinds : List EventKind) : Prop
  | minds (h : Mindful previous state kinds) (hnone : replay = none)
  | walks {x : TimelineItemID} {b c : Bool}
      (hbefore : openItem previous = if b then some x else none)
      (hwalk : Walk previous state replay x kinds b c)
      (hafter : openItem state = if c then some x else none)

/-- Validation trims nothing a transition is about. -/
theorem Timed.of_trimmed (h : Timed previous.trimmed state none kinds) :
    Timed previous state none kinds := by
  cases h with
  | minds h hnone =>
    refine .minds ?_ hnone
    cases h with
    | completes hstep hbefore hafter =>
      exact .completes hstep ⟨hbefore.call, hbefore.clarification⟩ hafter
    | steers hstatus hstep hopen => exact .steers hstatus hstep hopen
    | interrupts hafter hresult => exact .interrupts hafter hresult
  | walks hbefore hwalk hafter =>
    refine .walks hbefore ?_ hafter
    clear hbefore hafter
    induction hwalk with
    | nil b => exact .nil b
    | aside hkind hclosed hnew _ ih => exact .aside hkind hclosed hnew ih
    | touch hkind hnames _ ih => exact .touch hkind hnames ih

theorem Timed.idle (hbefore : Idle previous) (hafter : Idle state)
    (hkinds : ∀ kind ∈ kinds, addsClosed kind = true) :
    Timed previous state none kinds ∧ Tidy state :=
  ⟨.walks (x := .message 0) (b := false) hbefore.openItem (walk_addsClosed hbefore hkinds false)
    hafter.openItem, hafter.tidy⟩

theorem idle_continueOrExhaust {next : RuntimeState} (h : Idle next) (kinds : List EventKind) :
    Idle (continueOrExhaust next kinds).state := by
  rw [continueOrExhaust]
  split <;> exact ⟨h.call, h.clarification⟩

theorem addsClosed_continueOrExhaust {next : RuntimeState}
    (hkinds : ∀ kind ∈ kinds, addsClosed kind = true) :
    ∀ kind ∈ (continueOrExhaust next kinds).eventKinds, addsClosed kind = true := by
  rw [continueOrExhaust]
  split <;>
  · intro kind hkind
    rcases List.mem_append.mp hkind with hkind | hkind
    · exact hkinds kind hkind
    · rw [List.mem_singleton.mp hkind]
      rfl

/-- A run that waits for nothing goes on, or has used up its steps. -/
theorem Timed.continued {next : RuntimeState} (hbefore : Idle previous) (hafter : Idle next)
    (hkinds : ∀ kind ∈ kinds, addsClosed kind = true) :
    Timed previous (continueOrExhaust next kinds).state none
        (continueOrExhaust next kinds).eventKinds ∧
      Tidy (continueOrExhaust next kinds).state :=
  Timed.idle hbefore (idle_continueOrExhaust hafter kinds) (addsClosed_continueOrExhaust hkinds)

/-- The run has the result of the call it waited for. -/
structure Resolved (previous state : RuntimeState) (call : ToolCallDecision) : Prop where
  active : runtimeStatusTerminal previous.status = false
  pending : previous.pendingToolCall = some call
  nothingAsked : previous.pendingClarification = none
  result : ∃ result, state.lastToolResult = some result ∧ result.toolCallID = call.toolCallID ∧
    result.actionVersion = call.actionVersion
  idle : Idle state

theorem Resolved.walk (h : Resolved previous state call) {b : Bool} (hkinds : kinds =
      [.toolResult, .runFailed] ∨ kinds = [.toolResult, .runStatusChanged]) :
    Walk previous state none (toolCallItemID call) kinds b false := by
  obtain ⟨result, hresult, hid, hversion⟩ := h.result
  have hnames : ∀ sequence id, eventItem previous state sequence .toolResult = some id →
      id = toolCallItemID call := by
    intro sequence id hitem
    simp only [eventItem, hresult, h.pending, Option.isNone_some, Option.map_some,
      Option.some.injEq] at hitem
    subst hitem
    simp [toolCallItemID, hid, hversion]
  rcases hkinds with rfl | rfl
  · exact .touch (by decide) hnames (walk_failed h.nothingAsked)
  · exact .touch (by decide) hnames walk_status

theorem Resolved.timed (h : Resolved previous state call)
    (hkinds : kinds = [.toolResult, .runFailed] ∨ kinds = [.toolResult, .runStatusChanged]) :
    Timed previous state none kinds ∧ Tidy state :=
  ⟨.walks (b := true) (openItem_of_call h.active h.nothingAsked h.pending) (h.walk hkinds)
    h.idle.openItem, h.idle.tidy⟩

/-- The approval's event is about the same call. -/
theorem names_approvalDecided (hcall : previous.pendingToolCall = some call) (sequence : ℤ)
    (id : TimelineItemID) (h : eventItem previous state sequence .approvalDecided = some id) :
    id = toolCallItemID call := by
  simp only [eventItem, hcall, Option.map_some, Option.some.injEq] at h
  exact h.symm

theorem Resolved.decided (h : Resolved previous state call)
    (hkinds : kinds = [.toolResult, .runFailed] ∨ kinds = [.toolResult, .runStatusChanged]) :
    Timed previous state none (.approvalDecided :: kinds) ∧ Tidy state :=
  ⟨.walks (b := true) (openItem_of_call h.active h.nothingAsked h.pending)
    (.touch (by decide) (names_approvalDecided h.pending) (h.walk hkinds))
    h.idle.openItem, h.idle.tidy⟩

/-! ## The reducers -/

section

variable (htidy : Tidy state)

include htidy

theorem beginModelRequest_timed (h : beginModelRequest ctx state = .ok transition) :
    Timed state transition.state none transition.eventKinds ∧ Tidy transition.state := by
  obtain ⟨current, hvalid, h⟩ := bind_eq_ok.mp h
  obtain ⟨hstatus, h⟩ := refuse_eq_ok.mp h
  obtain ⟨next, hnext, h⟩ := bind_eq_ok.mp h
  cases pure_eq_ok.mp h
  obtain ⟨rfl, -⟩ := trimmed_of_valid hvalid
  obtain ⟨rfl, -⟩ := trimmed_of_valid hnext
  obtain ⟨hcall, hnone⟩ := htidy.going (.inl (not_not.mp hstatus))
  exact Timed.idle ⟨hcall, hnone⟩ ⟨hcall, hnone⟩ (by simp [addsClosed])

theorem fail_timed {failureCode : String} (h : fail ctx state failureCode = .ok transition) :
    Timed state transition.state none transition.eventKinds ∧ Tidy transition.state := by
  obtain ⟨current, hadvancing, h⟩ := bind_eq_ok.mp h
  obtain ⟨-, h⟩ := refuse_eq_ok.mp h
  obtain ⟨rfl, hidle⟩ := idle_of_advancing htidy hadvancing
  cases h
  exact Timed.idle hidle ⟨rfl, hidle.clarification⟩ (by simp [addsClosed])

theorem rejectModelDecision_timed {feedback : ModelDecisionFeedback}
    (h : rejectModelDecision ctx state feedback = .ok transition) :
    Timed state transition.state none transition.eventKinds ∧ Tidy transition.state := by
  obtain ⟨current, hadvancing, h⟩ := bind_eq_ok.mp h
  obtain ⟨-, h⟩ := refuse_eq_ok.mp h
  obtain ⟨rfl, hidle⟩ := idle_of_advancing htidy hadvancing
  cases h
  exact Timed.continued hidle ⟨rfl, hidle.clarification⟩ (by simp [addsClosed])

theorem rejectReusedToolIdentity_timed {reused : ToolCallDecision}
    (h : rejectReusedToolIdentity ctx state reused = .ok transition) :
    Timed state transition.state none transition.eventKinds ∧ Tidy transition.state := by
  obtain ⟨current, hadvancing, h⟩ := bind_eq_ok.mp h
  obtain ⟨canonical, -, h⟩ := bind_eq_ok.mp h
  obtain ⟨rfl, hidle⟩ := idle_of_advancing htidy hadvancing
  cases pure_eq_ok.mp h
  exact Timed.continued hidle ⟨rfl, hidle.clarification⟩ (by simp [addsClosed])

theorem rejectToolDecision_timed {failure : ToolDecisionFailure}
    (h : rejectToolDecision ctx state failure = .ok transition) :
    Timed state transition.state none transition.eventKinds ∧ Tidy transition.state := by
  obtain ⟨current, hadvancing, h⟩ := bind_eq_ok.mp h
  obtain ⟨canonical, -, h⟩ := bind_eq_ok.mp h
  obtain ⟨-, h⟩ := refuse_eq_ok.mp h
  obtain ⟨-, h⟩ := refuse_eq_ok.mp h
  obtain ⟨-, h⟩ := refuse_eq_ok.mp h
  obtain ⟨rfl, hidle⟩ := idle_of_advancing htidy hadvancing
  by_cases hterminal : failure.failureClass = .terminal
  · rw [if_pos hterminal] at h
    cases h
    exact Timed.idle hidle ⟨rfl, hidle.clarification⟩ (by simp [addsClosed])
  · rw [if_neg hterminal] at h
    cases h
    exact Timed.continued hidle ⟨rfl, hidle.clarification⟩ (by simp [addsClosed])

end

theorem terminate_timed {failureCode : String}
    (h : terminate ctx state failureCode = .ok transition) :
    Timed state transition.state none transition.eventKinds ∧ Tidy transition.state := by
  obtain ⟨current, hvalid, h⟩ := bind_eq_ok.mp h
  obtain ⟨hterminal, h⟩ := refuse_eq_ok.mp h
  obtain ⟨-, h⟩ := refuse_eq_ok.mp h
  obtain ⟨rfl, hsound⟩ := trimmed_of_valid hvalid
  have hactive : runtimeStatusTerminal state.status = false := Bool.eq_false_iff.mpr hterminal
  cases hcall : state.trimmed.pendingToolCall with
  | some call =>
    simp only [hcall] at h
    cases h
    have hnone : state.pendingClarification = none := by
      refine hsound.clarification.idle fun hwaiting ↦ ?_
      rw [(hsound.clarification.waiting hwaiting).2.1] at hcall
      cases hcall
    exact Resolved.timed ⟨hactive, hcall, hnone,
      ⟨abandonedToolResult call (trimSpace failureCode), rfl, rfl, rfl⟩, rfl, rfl⟩ (.inl rfl)
  | none =>
    simp only [hcall] at h
    cases h
    cases hpending : state.pendingClarification with
    | none => exact Timed.idle ⟨hcall, hpending⟩ ⟨rfl, rfl⟩ (by simp [addsClosed])
    | some pending =>
      refine ⟨.walks (b := true) (openItem_of_pending hactive hpending)
        (.touch (by decide) (fun sequence id hitem ↦ ?_) (.nil false)) rfl,
        Idle.tidy ⟨rfl, rfl⟩⟩
      simp only [eventStates_none, eventItem, hpending, Option.some.injEq] at hitem
      exact hitem.symm

theorem expireRuntimeAt_timed {now : Time} {expired : Bool}
    (h : expireRuntimeAt ctx state now = .ok (transition, expired))
    (hevents : transition.eventKinds ≠ []) :
    Timed state transition.state none transition.eventKinds ∧ Tidy transition.state := by
  obtain ⟨current, hvalid, h⟩ := bind_eq_ok.mp h
  obtain ⟨-, h⟩ := refuse_eq_ok.mp h
  obtain ⟨rfl, -⟩ := trimmed_of_valid hvalid
  split at h
  · cases h
    exact absurd rfl hevents
  · obtain ⟨result, hterminate, h⟩ := bind_eq_ok.mp h
    cases pure_eq_ok.mp h
    obtain ⟨htimed, hafter⟩ := terminate_timed hterminate
    exact ⟨htimed.of_trimmed, hafter⟩

theorem interrupt_mindful {expectedStateVersion : ℤ}
    (h : interrupt ctx state expectedStateVersion = .ok transition) :
    Mindful state transition.state transition.eventKinds ∧ Tidy transition.state := by
  obtain ⟨current, hvalid, h⟩ := bind_eq_ok.mp h
  obtain ⟨-, h⟩ := refuse_eq_ok.mp h
  obtain ⟨next, hnext, h⟩ := bind_eq_ok.mp h
  cases pure_eq_ok.mp h
  obtain ⟨rfl, -⟩ := trimmed_of_valid hnext
  obtain ⟨rfl, -⟩ := trimmed_of_valid hvalid
  exact ⟨.interrupts rfl rfl, nofun, fun _ _ hactive ↦ (nomatch hactive), nofun⟩

theorem appendSteer_mindful {request : SteerRequest} {replayed : Bool} (htidy : Tidy state)
    (h : appendSteer ctx state request = .ok (transition, replayed))
    (hevents : transition.eventKinds ≠ []) :
    Mindful state transition.state transition.eventKinds ∧ Tidy transition.state := by
  obtain ⟨current, hvalid, h⟩ := bind_eq_ok.mp h
  obtain ⟨-, h⟩ := refuse_eq_ok.mp h
  obtain ⟨rfl, -⟩ := trimmed_of_valid hvalid
  split at h
  · obtain ⟨-, h⟩ := refuse_eq_ok.mp h
    cases h
    exact absurd rfl hevents
  · obtain ⟨-, h⟩ := refuse_eq_ok.mp h
    obtain ⟨next, hnext, h⟩ := bind_eq_ok.mp h
    cases pure_eq_ok.mp h
    obtain ⟨rfl, -⟩ := trimmed_of_valid hnext
    exact ⟨.steers rfl rfl rfl, htidy.going, htidy.waiting, htidy.asked⟩

/-! ### Reducers of a pending call -/

theorem beginToolExecution_timed {execution : ToolExecution} (htidy : Tidy state)
    (h : beginToolExecution ctx state execution = .ok transition) :
    Timed state transition.state none transition.eventKinds ∧ Tidy transition.state := by
  obtain ⟨current, hvalid, h⟩ := bind_eq_ok.mp h
  obtain ⟨rfl, hsound⟩ := trimmed_of_valid hvalid
  cases hcall : state.trimmed.pendingToolCall with
  | none =>
    rw [hcall] at h
    cases h
  | some call =>
    simp only [hcall] at h
    obtain ⟨hwaiting, h⟩ := refuse_eq_ok.mp h
    obtain ⟨-, h⟩ := refuse_eq_ok.mp h
    cases h
    have hstatus : state.status = .waitingTool := not_not.mp (not_or.mp hwaiting).1
    have hactive : runtimeStatusTerminal state.status = false := by rw [hstatus]; rfl
    have hnone : state.pendingClarification = none :=
      hsound.clarification.idle fun hinput ↦ by
        rw [show state.trimmed.status = .waitingTool from hstatus] at hinput
        cases hinput
    refine ⟨.walks (b := true) (openItem_of_call hactive hnone hcall)
      (.touch (by decide) (fun sequence id hitem ↦ ?_) (.nil true))
      (openItem_of_call hactive hnone rfl), fun hgoing ↦ ?_, fun other hother _ ↦ ?_, htidy.asked⟩
    · simp only [eventStates_none, eventItem, Option.map_some, Option.some.injEq] at hitem
      exact hitem.symm
    · rcases hgoing with hgoing | hgoing <;> cases hstatus.symm.trans hgoing
    · cases hother
      exact htidy.waiting call hcall hactive

/-- The end of a reducer that has the result of the pending call. -/
theorem Resolved.kinds_continueOrExhaust {next : RuntimeState} :
    (continueOrExhaust next [.toolResult]).eventKinds = [.toolResult, .runFailed] ∨
      (continueOrExhaust next [.toolResult]).eventKinds = [.toolResult, .runStatusChanged] := by
  rw [continueOrExhaust]
  split
  · exact .inl rfl
  · exact .inr rfl

theorem Resolved.continueOrExhaust {next : RuntimeState} (h : Resolved previous next call)
    (kinds : List EventKind) : Resolved previous (continueOrExhaust next kinds).state call := by
  rw [AgentRuntime.continueOrExhaust]
  split <;> exact ⟨h.active, h.pending, h.nothingAsked, h.result, h.idle.call, h.idle.clarification⟩

theorem Resolved.continued {next : RuntimeState} (call : ToolCallDecision)
    (h : Resolved previous next call) :
    Timed previous (AgentRuntime.continueOrExhaust next [.toolResult]).state none
        (AgentRuntime.continueOrExhaust next [.toolResult]).eventKinds ∧
      Tidy (AgentRuntime.continueOrExhaust next [.toolResult]).state :=
  (h.continueOrExhaust _).timed Resolved.kinds_continueOrExhaust

theorem resolveTool_timed {resolution : ToolResolution}
    (h : resolveTool ctx state resolution = .ok transition) :
    Timed state transition.state none transition.eventKinds ∧ Tidy transition.state := by
  obtain ⟨current, hvalid, h⟩ := bind_eq_ok.mp h
  obtain ⟨rfl, hsound⟩ := trimmed_of_valid hvalid
  cases hcall : state.trimmed.pendingToolCall with
  | none =>
    rw [hcall] at h
    cases h
  | some call =>
    simp only [hcall] at h
    obtain ⟨hwaiting, h⟩ := refuse_eq_ok.mp h
    obtain ⟨hidentity, h⟩ := refuse_eq_ok.mp h
    obtain ⟨-, h⟩ := refuse_eq_ok.mp h
    obtain ⟨-, h⟩ := refuse_eq_ok.mp h
    obtain ⟨-, h⟩ := refuse_eq_ok.mp h
    obtain ⟨-, h⟩ := refuse_eq_ok.mp h
    obtain ⟨-, h⟩ := refuse_eq_ok.mp h
    obtain ⟨loaded, -, h⟩ := bind_eq_ok.mp h
    have hstatus : state.trimmed.status = .waitingTool := not_not.mp hwaiting
    have hactive : runtimeStatusTerminal state.trimmed.status = false := by rw [hstatus]; rfl
    have hnone := hsound.clarification.idle (by simp [hstatus])
    obtain ⟨hid, hversion⟩ := not_or.mp hidentity
    by_cases hterminal : resolution.succeeded = false ∧ resolution.failureClass = .terminal
    · rw [if_pos hterminal] at h
      cases h
      exact Resolved.timed ⟨hactive, hcall, hnone,
        ⟨_, rfl, not_not.mp hid, not_not.mp hversion⟩, rfl, hnone⟩ (.inl rfl)
    · rw [if_neg hterminal] at h
      cases h
      refine Resolved.continued call ?_
      exact ⟨hactive, hcall, hnone, ⟨_, rfl, not_not.mp hid, not_not.mp hversion⟩, rfl, hnone⟩

/-- What an approval is awaited for. -/
theorem awaited_spec {toolCallID conflict : String} {actionVersion : ℤ}
    (hsound : Sound ctx state.trimmed)
    (h : awaitedApproval state.trimmed toolCallID actionVersion conflict = .ok ()) :
    ∃ call, state.pendingToolCall = some call ∧ state.pendingClarification = none ∧
      state.status = .waitingApproval ∧ toolCallID = call.toolCallID ∧
      actionVersion = call.actionVersion := by
  have hnone := awaited_leaves hsound h
  have hstatus := awaitedApproval_eq_ok h
  rw [awaitedApproval] at h
  cases hcall : state.trimmed.pendingToolCall with
  | none =>
    rw [hcall] at h
    cases h
  | some call =>
    simp only [hcall] at h
    obtain ⟨-, h⟩ := refuse_eq_ok.mp h
    obtain ⟨hidentity, -⟩ := refuse_eq_ok.mp h
    obtain ⟨hid, hversion⟩ := not_or.mp hidentity
    exact ⟨call, hcall, hnone, hstatus, not_not.mp hid, not_not.mp hversion⟩

/-- A call that is dropped has the result the reducer gives it. -/
theorem resolved_refused {toolCallID : String} {actionVersion : ℤ}
    (hactive : runtimeStatusTerminal state.status = false)
    (hcall : state.pendingToolCall = some call) (hnone : state.pendingClarification = none)
    (hid : toolCallID = call.toolCallID) (hversion : actionVersion = call.actionVersion)
    (errorCode : String) :
    Resolved state (state.trimmed.refused toolCallID actionVersion errorCode) call :=
  ⟨hactive, hcall, hnone, ⟨_, rfl, hid, hversion⟩, rfl, hnone⟩

theorem reviewToolApproval_timed {approval : ToolApproval} (htidy : Tidy state)
    (h : reviewToolApproval ctx state approval = .ok transition) :
    Timed state transition.state none transition.eventKinds ∧ Tidy transition.state := by
  obtain ⟨current, hvalid, h⟩ := bind_eq_ok.mp h
  obtain ⟨_, hawaited, h⟩ := bind_eq_ok.mp h
  obtain ⟨rfl, hsound⟩ := trimmed_of_valid hvalid
  obtain ⟨call, hcall, hnone, hstatus, hid, hversion⟩ := awaited_spec hsound hawaited
  have hactive : runtimeStatusTerminal state.status = false := by rw [hstatus]; rfl
  have hrefused := resolved_refused hactive hcall hnone hid hversion
  cases hdecision : approval.decision with
  | approved =>
    simp only [hdecision] at h
    by_cases hexhausted : state.trimmed.stepNumber ≥ state.trimmed.maxSteps
    · rw [if_pos hexhausted] at h
      cases h
      have hdone := hrefused "step_budget_exhausted"
      exact Resolved.decided ⟨hactive, hcall, hnone, hdone.result, rfl, hnone⟩ (.inl rfl)
    · rw [if_neg hexhausted] at h
      cases h
      refine ⟨.walks (b := true) (openItem_of_call hactive hnone hcall)
        (.touch (by decide) (names_approvalDecided hcall) walk_status)
        (openItem_of_call rfl hnone hcall), fun hgoing ↦ ?_, fun other hother _ ↦ ?_, htidy.asked⟩
      · rcases hgoing with hgoing | hgoing <;> cases hgoing
      · exact htidy.waiting other hother hactive
  | rejected =>
    simp only [hdecision] at h
    cases h
    have hdone := (hrefused "tool_approval_rejected").continueOrExhaust
      [.approvalDecided, .toolResult]
    have hkinds : (continueOrExhaust
          (state.trimmed.refused (trimSpace approval.toolCallID) approval.actionVersion
            "tool_approval_rejected") [.approvalDecided, .toolResult]).eventKinds =
        .approvalDecided :: (continueOrExhaust
          (state.trimmed.refused (trimSpace approval.toolCallID) approval.actionVersion
            "tool_approval_rejected") [.toolResult]).eventKinds := by
      simp only [continueOrExhaust]
      split <;> rfl
    dsimp only
    rw [hkinds]
    exact hdone.decided Resolved.kinds_continueOrExhaust
  | other name =>
    simp only [hdecision] at h
    cases h

theorem invalidateToolApproval_timed {invalidation : ToolApprovalInvalidation}
    (h : invalidateToolApproval ctx state invalidation = .ok transition) :
    Timed state transition.state none transition.eventKinds ∧ Tidy transition.state := by
  obtain ⟨current, hvalid, h⟩ := bind_eq_ok.mp h
  obtain ⟨_, hawaited, h⟩ := bind_eq_ok.mp h
  obtain ⟨-, h⟩ := refuse_eq_ok.mp h
  obtain ⟨-, h⟩ := refuse_eq_ok.mp h
  obtain ⟨rfl, hsound⟩ := trimmed_of_valid hvalid
  obtain ⟨call, hcall, hnone, hstatus, hid, hversion⟩ := awaited_spec hsound hawaited
  have hactive : runtimeStatusTerminal state.status = false := by rw [hstatus]; rfl
  cases h
  exact Resolved.continued call (resolved_refused hactive hcall hnone hid hversion _)

/-! ### Answers -/

theorem walk_responded {completed : CompletedClarification} {b : Bool}
    (hlast : state.clarificationHistory.getLast? = some completed) :
    Walk previous state none (clarificationItemID completed.request)
      [.clarificationResponded, .runStatusChanged] b false := by
  refine .touch (by decide) (fun sequence id hitem ↦ ?_) walk_status
  simp only [eventStates_none, eventItem, hlast, Option.map_some, Option.some.injEq] at hitem
  exact hitem.symm

/-- The request has its last answer. -/
theorem responded_timed {completed : CompletedClarification}
    (hbefore : openItem previous = some (clarificationItemID completed.request))
    (hafter : Idle state) (hlast : state.clarificationHistory.getLast? = some completed)
    (changed : Bool) :
    Timed previous state none ((if changed then [.clarificationAnswerSaved] else []) ++
      [.clarificationResponded, .runStatusChanged]) ∧ Tidy state := by
  refine ⟨?_, hafter.tidy⟩
  cases changed with
  | false => exact .walks (b := true) hbefore (walk_responded hlast) hafter.openItem
  | true =>
    refine .walks (b := true) hbefore
      (.touch (by decide) (fun sequence id hitem ↦ ?_) (walk_responded hlast)) hafter.openItem
    simp only [eventStates_none, eventItem, answeredContent, hafter.clarification, hlast,
      Option.map_some, Option.some.injEq] at hitem
    exact hitem.symm

/-- The saved answer is one to the pending request. -/
theorem answerPending_timed {pending : PendingClarification} {questionID : String}
    {submission : ClarificationResponseSubmission} {replayed : Bool}
    (hactive : runtimeStatusTerminal state.status = false) (hstatus : state.status = .waitingInput)
    (hcall : state.pendingToolCall = none) (hpending : state.pendingClarification = some pending)
    (htidy : Tidy state)
    (h : answerPending state.trimmed pending questionID submission = .ok (transition, replayed))
    (hevents : transition.eventKinds ≠ []) :
    Timed state transition.state none transition.eventKinds ∧ Tidy transition.state := by
  obtain ⟨answer, -, h⟩ := bind_eq_ok.mp h
  dsimp only at h
  generalize decide (clarificationAnswerByQuestionID pending.answers questionID ≠
    some answer) = changed at h
  split at h
  · cases h
    exact absurd rfl hevents
  · obtain ⟨-, h⟩ := refuse_eq_ok.mp h
    obtain ⟨-, h⟩ := refuse_eq_ok.mp h
    have hbefore := openItem_of_pending hactive hpending
    by_cases hopen : submission.complete = false
    · rw [if_pos hopen] at h
      cases h
      cases changed with
      | false => exact absurd rfl hevents
      | true =>
        refine ⟨.walks (b := true) (c := true) hbefore
          (.touch (by decide) (fun sequence id hitem ↦ ?_) (.nil true)) (if_neg ?_),
          fun hgoing ↦ ?_, fun other hother ↦ ?_, fun asked hasked ↦ ?_⟩
        · simp only [eventStates_none, eventItem, answeredContent, Option.map_some,
            Option.some.injEq] at hitem
          exact hitem.symm
        · rw [show state.trimmed.status = state.status from rfl, hactive]
          exact Bool.false_ne_true
        · rcases hgoing with hgoing | hgoing <;> cases hstatus.symm.trans hgoing
        · cases hcall.symm.trans hother
        · cases hasked
          exact htidy.asked pending hpending
    · rw [if_neg hopen] at h
      cases h
      refine responded_timed hbefore ?_ List.getLast?_concat changed
      exact ⟨hcall, rfl⟩

theorem applyClarificationResponse_timed {submission : ClarificationResponseSubmission}
    {replayed : Bool} (htidy : Tidy state)
    (h : applyClarificationResponse ctx state submission = .ok (transition, replayed))
    (hevents : transition.eventKinds ≠ []) :
    Timed state transition.state none transition.eventKinds ∧ Tidy transition.state := by
  obtain ⟨current, hvalid, h⟩ := bind_eq_ok.mp h
  obtain ⟨-, h⟩ := refuse_eq_ok.mp h
  obtain ⟨rfl, hsound⟩ := trimmed_of_valid hvalid
  cases hcompleted : completedClarificationByRequestID state.trimmed.clarificationHistory
      (trimSpace submission.requestID) with
  | some completed =>
    simp only [hcompleted] at h
    obtain ⟨answer, -, h⟩ := bind_eq_ok.mp h
    split at h
    · cases h
      exact absurd rfl hevents
    · cases h
  | none =>
    cases hpending : state.trimmed.pendingClarification with
    | none =>
      simp only [hcompleted, hpending] at h
      cases h
    | some pending =>
      simp only [hcompleted, hpending] at h
      obtain ⟨hwaiting, h⟩ := refuse_eq_ok.mp h
      obtain ⟨-, h⟩ := refuse_eq_ok.mp h
      have hstatus : state.status = .waitingInput := not_not.mp hwaiting
      have hactive : runtimeStatusTerminal state.status = false := by rw [hstatus]; rfl
      have hcall : state.pendingToolCall = none := (hsound.clarification.waiting hstatus).2.1
      exact answerPending_timed hactive hstatus hcall hpending htidy h hevents

/-! ### Decisions -/

theorem toolCallID_short {canonicalArguments : ToolName → String → Option String}
    {toolSchemaVersion : ℤ} {result : ToolCallDecision}
    (h : call.validate canonicalArguments toolSchemaVersion = .ok result) :
    result.toolCallID.utf8ByteSize ≤ 120 := by
  obtain ⟨hinvalid, h⟩ := refuse_eq_ok.mp h
  obtain ⟨_, -, h⟩ := bind_eq_ok.mp h
  cases hargs : canonicalArguments call.toolName call.arguments with
  | none =>
    rw [hargs] at h
    cases h
  | some arguments =>
    rw [hargs] at h
    cases pure_eq_ok.mp h
    exact not_lt.mp (not_or.mp (not_or.mp hinvalid).2).1

theorem requestID_short {request result : ClarificationDecision}
    (h : request.validate = .ok result) : result.requestID.length ≤ 120 := by
  obtain ⟨hcheck, rfl⟩ := ClarificationDecision.validate_eq_ok.mp h
  have hbounded := (ClarificationDecision.checked_of_check hcheck).requestID
  simp only [boundedDecisionText, Bool.and_eq_true, decide_eq_true_eq] at hbounded
  exact hbounded.2

theorem advanceClarification_timed {next : RuntimeState} {request : ClarificationDecision}
    (hbefore : Idle previous) (hnext : Idle next) (hshort : request.requestID.length ≤ 120) :
    Timed previous (advanceClarification next request).state none
        (advanceClarification next request).eventKinds ∧
      Tidy (advanceClarification next request).state := by
  rw [advanceClarification]
  split
  · exact Timed.idle hbefore ⟨hnext.call, hnext.clarification⟩ (by simp [addsClosed])
  · split
    · exact Timed.idle hbefore ⟨hnext.call, hnext.clarification⟩ (by simp [addsClosed])
    · refine ⟨.walks (x := clarificationItemID request) (b := false) (c := true) hbefore.openItem
        (.touch (by decide) (fun sequence id hitem ↦ ?_) walk_status) rfl,
        fun hgoing ↦ ?_, fun other hother ↦ ?_, fun asked hasked ↦ ?_⟩
      · simp only [eventStates_none, eventItem, Option.map_some, Option.some.injEq] at hitem
        exact hitem.symm
      · rcases hgoing with hgoing | hgoing <;> cases hgoing
      · cases hnext.call.symm.trans hother
      · cases hasked
        exact hshort

/-- The events of a call that is adopted. -/
theorem walk_toolCall (hcall : state.pendingToolCall = some call) (approval : Bool) :
    Walk previous state none (toolCallItemID call)
      (.toolCall :: ((if approval then [.approvalRequired] else []) ++ [.runStatusChanged]))
      false true := by
  have hnames : ∀ id, state.pendingToolCall.map toolCallItemID = some id →
      id = toolCallItemID call := by
    intro id hitem
    rw [hcall] at hitem
    exact (Option.some.inj hitem).symm
  refine .touch (by decide) (fun _ id hitem ↦ hnames id hitem) ?_
  cases approval with
  | false => exact walk_status
  | true => exact .touch (by decide) (fun _ id hitem ↦ hnames id hitem) walk_status

/-- A run that waits for nothing adopts a call. -/
theorem adopted_timed (hbefore : Idle previous) (approval : Bool)
    (hwaits : state.status = .waitingApproval ∨ state.status = .waitingTool)
    (hcall : state.pendingToolCall = some call) (hnone : state.pendingClarification = none)
    (hresult : state.lastToolResult = none) (hshort : call.toolCallID.utf8ByteSize ≤ 120) :
    Timed previous state none
        (.toolCall :: ((if approval then [.approvalRequired] else []) ++ [.runStatusChanged])) ∧
      Tidy state := by
  have hactive : runtimeStatusTerminal state.status = false := by
    rcases hwaits with h | h <;> rw [h] <;> rfl
  refine ⟨.walks (b := false) (c := true) hbefore.openItem (walk_toolCall hcall approval)
    (openItem_of_call hactive hnone hcall), fun hgoing ↦ ?_, fun other hother _ ↦ ?_,
    fun asked hasked ↦ ?_⟩
  · rcases hwaits with h | h <;> rw [h] at hgoing <;> rcases hgoing with hgoing | hgoing <;>
      cases hgoing
  · cases hcall.symm.trans hother
    exact ⟨hresult, hshort⟩
  · cases hnone.symm.trans hasked

theorem advanceToolCall_timed {next : RuntimeState} {toolSchemaVersion : ℤ}
    (hbefore : Idle previous) (hnext : Idle next) (hresult : next.lastToolResult = none)
    (hshort : call.toolCallID.utf8ByteSize ≤ 120)
    (h : advanceToolCall next call toolSchemaVersion = .ok transition) :
    Timed previous transition.state none transition.eventKinds ∧ Tidy transition.state := by
  rw [advanceToolCall] at h
  split at h
  · cases h
    exact Timed.idle hbefore ⟨hnext.call, hnext.clarification⟩ (by simp [addsClosed])
  · split at h
    · cases h
    · split at h
      · cases h
        exact Timed.idle hbefore ⟨hnext.call, hnext.clarification⟩ (by simp [addsClosed])
      · dsimp only at h
        split at h <;> cases h
        · exact adopted_timed hbefore true (.inl rfl) rfl hnext.clarification hresult hshort
        · exact adopted_timed hbefore false (.inr rfl) rfl hnext.clarification hresult hshort

theorem advanceFinal_timed {next : RuntimeState} {final : FinalDecision}
    {evidence : DeliveryEvidence} (hbefore : Idle previous) (hnext : Idle next)
    (hstep : next.stepNumber = previous.stepNumber + 1) :
    Timed previous (advanceFinal next final evidence).state none
        (advanceFinal next final evidence).eventKinds ∧
      Tidy (advanceFinal next final evidence).state := by
  rw [advanceFinal]
  dsimp only
  split
  · exact Timed.continued hbefore ⟨hnext.call, hnext.clarification⟩ (by simp [addsClosed])
  · split
    · exact ⟨.minds (.completes hstep hbefore rfl) rfl, Idle.tidy ⟨hnext.call, hnext.clarification⟩⟩
    · exact Timed.idle hbefore ⟨hnext.call, hnext.clarification⟩ (by simp [addsClosed])
    · exact Timed.continued hbefore ⟨hnext.call, hnext.clarification⟩ (by simp)

/-- The final answer of a run that owes nothing more. -/
theorem advanceFinal_mindful {next : RuntimeState} {final : FinalDecision}
    {evidence : DeliveryEvidence} (hbefore : Idle previous) (hnext : Idle next)
    (hstep : next.stepNumber = previous.stepNumber + 1)
    (hmissing : missingRequiredSkillDirs next.configuration.skills next.loadedSkillDirs = [])
    (hsatisfied : (verifyDelivery final.expectedDelivery evidence).status = .satisfied) :
    Mindful previous (advanceFinal next final evidence).state
        (advanceFinal next final evidence).eventKinds ∧
      Tidy (advanceFinal next final evidence).state := by
  rw [advanceFinal]
  dsimp only
  rw [if_neg (not_not.mpr hmissing), hsatisfied]
  exact ⟨.completes hstep hbefore rfl, Idle.tidy ⟨hnext.call, hnext.clarification⟩⟩

/-- The decision of a step that is taken. -/
theorem advance_timed {input : RuntimeInput} {toolSchemaVersion : ℤ} (htidy : Tidy state)
    (h : advanceForToolSchema ctx state input toolSchemaVersion = .ok transition) :
    Timed state transition.state none transition.eventKinds ∧ Tidy transition.state := by
  obtain ⟨current, hadvancing, h⟩ := bind_eq_ok.mp h
  obtain ⟨decision, hdecision, h⟩ := bind_eq_ok.mp h
  obtain ⟨rfl, hidle⟩ := idle_of_advancing htidy hadvancing
  split at h
  · cases h
    exact Timed.continued hidle ⟨rfl, hidle.clarification⟩ (by simp [addsClosed])
  · cases decision with
    | clarification request =>
      cases h
      refine advanceClarification_timed hidle ⟨rfl, rfl⟩ ?_
      obtain ⟨_, _, _, _, _, hasked⟩ | ⟨_, _, _, _, hasked⟩ | ⟨_, _, -, hvalid, hasked⟩ :=
        validateForToolSchema_eq_ok hdecision
      · cases hasked
      · cases hasked
      · cases hasked
        exact requestID_short hvalid
    | toolCall call =>
      refine advanceToolCall_timed hidle ⟨rfl, rfl⟩ rfl ?_ h
      obtain ⟨_, _, _, _, _, hcall⟩ | ⟨_, _, -, hvalid, hcall⟩ | ⟨_, _, _, _, hcall⟩ :=
        validateForToolSchema_eq_ok hdecision
      · cases hcall
      · cases hcall
        exact toolCallID_short hvalid
      · cases hcall
    | final final =>
      cases h
      exact advanceFinal_timed hidle ⟨rfl, rfl⟩ rfl

/-- The final answer that completes the run closes its message. -/
theorem advance_mindful {input : RuntimeInput} {toolSchemaVersion : ℤ} (htidy : Tidy state)
    (hcompletes : completesRun state input = true)
    (h : advanceForToolSchema ctx state input toolSchemaVersion = .ok transition) :
    Mindful state transition.state transition.eventKinds ∧ Tidy transition.state := by
  obtain ⟨current, hadvancing, h⟩ := bind_eq_ok.mp h
  obtain ⟨decision, hdecision, h⟩ := bind_eq_ok.mp h
  obtain ⟨rfl, hidle⟩ := idle_of_advancing htidy hadvancing
  rw [completesRun] at hcompletes
  split at hcompletes
  · rename_i final hkind hfinal
    simp only [Bool.and_eq_true, decide_eq_true_eq, Option.all_eq_true] at hcompletes
    obtain ⟨⟨hcontract, hmissing⟩, hsatisfied⟩ := hcompletes
    rw [ModelDecision.validateForToolSchema] at hdecision
    obtain ⟨-, hdecision⟩ := refuse_eq_ok.mp hdecision
    simp only [hkind, hfinal] at hdecision
    obtain ⟨-, hdecision⟩ := refuse_eq_ok.mp hdecision
    obtain ⟨canonical, hcanonical, hdecision⟩ := bind_eq_ok.mp hdecision
    cases pure_eq_ok.mp hdecision
    have hdelivery : canonical.expectedDelivery = final.expectedDelivery := by
      obtain ⟨-, hcanonical⟩ := refuse_eq_ok.mp hcanonical
      obtain ⟨_, -, hcanonical⟩ := bind_eq_ok.mp hcanonical
      cases pure_eq_ok.mp hcanonical
      rfl
    have hsame : ¬(state.trimmed.expectedDelivery.any fun expected ↦
        !expected.equal (CanonicalDecision.final canonical).expectedDelivery) = true := by
      rw [show (CanonicalDecision.final canonical).expectedDelivery = final.expectedDelivery from
        hdelivery, Option.any_eq_true]
      rintro ⟨expected, hexpected, hchanged⟩
      rw [hcontract expected hexpected] at hchanged
      cases hchanged
    rw [if_neg hsame] at h
    cases h
    exact advanceFinal_mindful hidle ⟨rfl, rfl⟩ rfl hmissing (hdelivery ▸ hsatisfied)
  · cases hcompletes

/-- A replayed call opens its item and closes it. -/
theorem replayResolvedTool_timed {pending : RuntimeTransition} {replayed : ToolReplay}
    (htidy : Tidy state) (hsound : Sound ctx pending.state)
    (h : replayResolvedTool ctx state pending replayed = .ok transition) :
    Timed state transition.state (some replayed.call) transition.eventKinds ∧
      Tidy transition.state := by
  obtain ⟨current, hadvancing, h⟩ := bind_eq_ok.mp h
  obtain ⟨rfl, hidle⟩ := idle_of_advancing htidy hadvancing
  cases hcall : pending.state.pendingToolCall with
  | none =>
    rw [hcall] at h
    cases h
  | some call =>
    simp only [hcall] at h
    obtain ⟨hsource, h⟩ := refuse_eq_ok.mp h
    obtain ⟨hmatches, h⟩ := refuse_eq_ok.mp h
    obtain ⟨hresult, h⟩ := refuse_eq_ok.mp h
    obtain ⟨-, h⟩ := refuse_eq_ok.mp h
    obtain ⟨-, h⟩ := refuse_eq_ok.mp h
    obtain ⟨hid, hversion, -⟩ := not_not.mp hmatches
    obtain ⟨hresultID, hrest⟩ := not_or.mp hresult
    have hresultVersion := (not_or.mp hrest).1
    have hpending : pending.state.pendingClarification = none :=
      hsound.clarification.idle fun hinput ↦ by
        cases hinput.symm.trans (not_not.mp (not_or.mp hsource).1)
    have hopens : ∀ (after : RuntimeState) (sequence : ℤ) (id : TimelineItemID), eventItem state
        { after with
          pendingToolCall := some replayed.call, pendingToolStarted := false
          lastToolResult := none } sequence .toolCall = some id →
        id = toolCallItemID replayed.call := by
      intro after sequence id hitem
      simp only [eventItem, Option.map_some, Option.some.injEq] at hitem
      exact hitem.symm
    have hcloses : ∀ (after : RuntimeState) (result : ToolResult) (sequence : ℤ)
        (id : TimelineItemID), after.lastToolResult = some result →
        result.toolCallID = call.toolCallID → result.actionVersion = call.actionVersion →
        eventItem { after with
          pendingToolCall := some replayed.call, pendingToolStarted := false
          lastToolResult := none } after sequence .toolResult = some id →
        id = toolCallItemID replayed.call := by
      intro after result sequence id hlast hsameID hsameVersion hitem
      simp only [eventItem, hlast, Option.isNone_some, Option.map_some, Option.some.injEq]
        at hitem
      subst hitem
      simp [toolCallItemID, hid, hversion, hsameID, hsameVersion]
    split at h <;> cases h
    · refine ⟨.walks (b := false) (c := false) hidle.openItem
        (.touch (by decide) (hopens _) (.touch (by decide)
          (fun sequence id ↦ hcloses _ _ sequence id rfl (not_not.mp hresultID)
            (not_not.mp hresultVersion)) (walk_failed hidle.clarification)))
        (Idle.openItem ⟨rfl, hpending⟩), Idle.tidy ⟨rfl, hpending⟩⟩
    · refine ⟨.walks (b := false) (c := false) hidle.openItem
        (.touch (by decide) (hopens _) (.touch (by decide)
          (fun sequence id ↦ hcloses _ _ sequence id rfl (not_not.mp hresultID)
            (not_not.mp hresultVersion)) walk_status))
        (Idle.openItem ⟨rfl, hpending⟩), Idle.tidy ⟨rfl, hpending⟩⟩

end HMaigc.AgentRuntime.Timelines
