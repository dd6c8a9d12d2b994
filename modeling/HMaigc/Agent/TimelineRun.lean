import HMaigc.Agent.TimelineCalls

/-!
# The discipline of a timeline

`Inv` is what a run keeps to as long as it does not go on before the message that is being written
is closed: the item of what the run waits for is in progress, and nothing else is, but for the
message of the step under way.

`disciplined_of_run` is the result.  `not_disciplined` are runs that go on without closing their
message: its item is left behind, and the second one that is left behind stands in the way of an
interruption.
-/

set_option autoImplicit false

namespace HMaigc.AgentRuntime

open Go Machine

/-- The contents an interruption writes are short: their texts are bounded, and an `int` has at most
twenty digits. -/
structure TimelineContext.Brief (ctx : TimelineContext) : Prop where
  status : ctx.contentLength (.status .cancelled) ≤ agentEventPayloadLimit
  clarification : ∀ requestID : String, requestID.length ≤ 120 →
    ctx.contentLength (.interruptedClarification requestID) ≤ agentEventPayloadLimit
  toolCall : ∀ (toolCallID : String) (actionVersion : ℤ), toolCallID.utf8ByteSize ≤ 120 →
    ctx.contentLength (.interruptedToolCall toolCallID actionVersion) ≤ agentEventPayloadLimit

namespace Timelines

variable {ctx : TimelineContext}

structure Inv (ctx : TimelineContext) (s : TimelineStore) : Prop where
  wellFormed : WellFormed ctx s.items s.lastEventSequence
  nonneg : 0 ≤ s.lastEventSequence
  tidy : Tidy s.checkpoint
  owned : ∀ id, InProgress s.items id → Shows s.checkpoint id
  opened : ∀ id, openItem s.checkpoint = some id → InProgress s.items id

variable {s : TimelineStore} {state : RuntimeState} {transition : RuntimeTransition}
  {replay : Option ToolCallDecision} {after : Timeline} {kinds : List EventKind}

/-! ## What is open -/

theorem going_of_running (h : Tidy state) (hrunning : state.status = .running) :
    openItem state = none :=
  Idle.openItem ⟨(h.going (.inr hrunning)).1, (h.going (.inr hrunning)).2⟩

theorem sequenceOf_shows {id : TimelineItemID} (h : Shows state id) : sequenceOf id = none := by
  rcases h with hopen | ⟨-, rfl⟩
  · rw [openItem] at hopen
    split at hopen
    · cases hopen
    · split at hopen <;> cases hopen <;> rfl
  · rfl

/-- Two items that show what the run is doing are one. -/
theorem shows_unique (htidy : Tidy state) {id other : TimelineItemID} (h : Shows state id)
    (hother : Shows state other) : id = other := by
  rcases h with h | ⟨hrunning, rfl⟩
  · rcases hother with hother | ⟨hrunning, rfl⟩
    · exact Option.some.inj (h.symm.trans hother)
    · cases (going_of_running htidy hrunning).symm.trans h
  · rcases hother with hother | ⟨-, rfl⟩
    · cases (going_of_running htidy hrunning).symm.trans hother
    · rfl

theorem mem_active {item : TimelineItem} :
    item ∈ s.active ↔ item ∈ s.items ∧ item.status = .inProgress := by
  simp [TimelineStore.active]

theorem not_streaming (h : s.streaming = false) :
    ¬InProgress s.items (.message s.checkpoint.stepNumber) := by
  rintro ⟨item, hmem, hid, hstatus⟩
  rw [TimelineStore.streaming, List.any_eq_false] at h
  exact h item hmem (by simp [hid, hstatus])

/-- In a run that writes no message, what is in progress is what the run waits for. -/
theorem Inv.open_of_inProgress (h : Inv ctx s) (hquiet : s.streaming = false)
    {id : TimelineItemID} (hid : InProgress s.items id) : openItem s.checkpoint = some id := by
  rcases h.owned id hid with hopen | ⟨-, rfl⟩
  · exact hopen
  · exact absurd hid (not_streaming hquiet)

theorem Inv.single (h : Inv ctx s) : s.active.length ≤ 1 := by
  have hnodup : (s.active.map (·.id)).Nodup :=
    h.wellFormed.nodup.sublist (List.filter_sublist.map _)
  have hshows : ∀ item ∈ s.active, Shows s.checkpoint item.id := fun item hitem ↦
    h.owned _ ⟨item, (mem_active.mp hitem).1, rfl, (mem_active.mp hitem).2⟩
  generalize s.active = active at hnodup hshows
  match active, hnodup, hshows with
  | [], _, _ => exact Nat.zero_le 1
  | [_], _, _ => exact Nat.le_refl 1
  | first :: second :: rest, hnodup, hshows =>
    have hsame := shows_unique h.tidy (hshows first List.mem_cons_self)
      (hshows second (List.mem_cons_of_mem _ List.mem_cons_self))
    rw [List.map_cons, List.map_cons, hsame] at hnodup
    exact absurd List.mem_cons_self (List.nodup_cons.mp hnodup).1

/-! ## A transition -/

/-- A transition outside of a message. -/
theorem Inv.walks (h : Inv ctx s) (hquiet : s.streaming = false) {x : TimelineItemID} {b c : Bool}
    (hbefore : openItem s.checkpoint = if b then some x else none)
    (hwalk : Walk s.checkpoint state replay x kinds b c)
    (hafter : openItem state = if c then some x else none) (htidy : Tidy state)
    (hok : persistAgentTimelineEvents ctx s.checkpoint state replay kinds (s.lastEventSequence + 1)
      (.ofItems s.items) = .ok after) :
    Inv ctx ⟨state, s.lastEventSequence + kinds.length, after.items⟩ := by
  have hx : InProgress s.items x ↔ b = true := by
    constructor
    · intro hid
      have hopen := h.open_of_inProgress hquiet hid
      by_contra hb
      rw [hbefore, if_neg hb] at hopen
      cases hopen
    · rintro rfl
      exact h.opened x hbefore
  have hmoved := walked hwalk h.wellFormed hx hok
  refine ⟨hmoved.wellFormed, ?_, htidy, fun id hid ↦ .inl ?_, fun id hid ↦ ?_⟩
  · have := h.nonneg
    dsimp only
    omega
  · by_cases hsame : id = x
    · subst hsame
      exact hafter.trans (if_pos (hmoved.moved.mp hid))
    · have hopen := h.open_of_inProgress hquiet ((hmoved.same id hsame).mp hid)
      rw [hbefore] at hopen
      split at hopen
      · exact absurd (Option.some.inj hopen).symm hsame
      · cases hopen
  · rw [hafter] at hid
    split at hid
    · cases hid
      exact hmoved.moved.mpr ‹_›
    · cases hid

/-- A run that waits for nothing and writes nothing has nothing in progress. -/
theorem inv_of_closed {items : List TimelineItem} {last : ℤ} (hwf : WellFormed ctx items last)
    (hnonneg : 0 ≤ last) (htidy : Tidy state) (hopen : openItem state = none)
    (hclosed : ∀ id, ¬InProgress items id) : Inv ctx ⟨state, last, items⟩ :=
  ⟨hwf, hnonneg, htidy, fun id hid ↦ absurd hid (hclosed id),
    fun _ hid ↦ nomatch hopen.symm.trans hid⟩

/-- The completion of the run closes its message. -/
theorem Inv.completes (h : Inv ctx s) (hstep : state.stepNumber = s.checkpoint.stepNumber + 1)
    (hbefore : Idle s.checkpoint) (hafter : runtimeStatusTerminal state.status = true)
    (htidy : Tidy state)
    (hok : persistAgentTimelineEvents ctx s.checkpoint state none
      [.agentMessageCompleted, .runCompleted] (s.lastEventSequence + 1) (.ofItems s.items) =
        .ok after) : Inv ctx ⟨state, s.lastEventSequence + 2, after.items⟩ := by
  have hmessage : state.stepNumber - 1 = s.checkpoint.stepNumber := by omega
  have hwalk (b : Bool) : Walk s.checkpoint state none (.message s.checkpoint.stepNumber)
      [.agentMessageCompleted, .runCompleted] b false := by
    refine .touch (by decide) (fun sequence id hitem ↦ ?_)
      (.aside (by decide) rfl (fun _ _ h ↦ by cases h; rfl) (.nil false))
    cases hitem
    rw [eventStates_none, hmessage]
  have hmoved : Moved ctx s.items after.items (s.lastEventSequence + 2)
      (.message s.checkpoint.stepNumber) false := by
    by_cases hid : InProgress s.items (.message s.checkpoint.stepNumber)
    · exact walked (hwalk true) h.wellFormed ⟨fun _ ↦ rfl, fun _ ↦ hid⟩ hok
    · exact walked (hwalk false) h.wellFormed ⟨fun hin ↦ absurd hin hid, nofun⟩ hok
  have := h.nonneg
  refine inv_of_closed hmoved.wellFormed (by omega) htidy (openItem_of_terminal hafter)
    fun id hid ↦ ?_
  by_cases hsame : id = .message s.checkpoint.stepNumber
  · subst hsame
    cases hmoved.moved.mp hid
  · rcases h.owned id ((hmoved.same id hsame).mp hid) with hopen | ⟨-, hid⟩
    · cases hbefore.openItem.symm.trans hopen
    · exact hsame hid

/-- The one event of a transition. -/
theorem persist_singleton {kind : EventKind} {sequence : ℤ} {previous : RuntimeState}
    {before : Timeline} :
    persistAgentTimelineEvents ctx previous state none [kind] sequence before =
      persistAgentTimelineEvent ctx previous state kind sequence before := by
  rw [persistAgentTimelineEvents, eventStates_none]
  dsimp only [persistAgentTimelineEvents]
  cases persistAgentTimelineEvent ctx previous state kind sequence before <;> rfl

/-- A steer adds a message of the user, and the run goes on as it did. -/
theorem Inv.steers (h : Inv ctx s) (hstatus : state.status = s.checkpoint.status)
    (hstep : state.stepNumber = s.checkpoint.stepNumber)
    (hopen : openItem state = openItem s.checkpoint) (htidy : Tidy state)
    (hok : persistAgentTimelineEvents ctx s.checkpoint state none [.runSteered]
      (s.lastEventSequence + 1) (.ofItems s.items) = .ok after) :
    Inv ctx ⟨state, s.lastEventSequence + 1, after.items⟩ := by
  rw [persist_singleton] at hok
  obtain ⟨id, hid, hmoved⟩ := event_spec h.wellFormed (by decide) hok
  obtain ⟨steer, -, rfl⟩ := Option.map_eq_some_iff.mp hid
  have hshows (other : TimelineItemID) : Shows state other ↔ Shows s.checkpoint other := by
    rw [Shows, Shows, hopen, hstatus, hstep]
  have := h.nonneg
  refine ⟨hmoved.wellFormed, by dsimp only; omega, htidy, fun other hother ↦ ?_,
    fun other hother ↦ ?_⟩
  · by_cases hsame : other = .steer steer.clientRequestID
    · subst hsame
      cases hmoved.moved.mp hother
    · exact (hshows other).mpr (h.owned other ((hmoved.same other hsame).mp hother))
  · have hbefore := h.opened other (hopen ▸ hother)
    have hsame : other ≠ .steer steer.clientRequestID := by
      rintro rfl
      rcases h.owned _ hbefore with hopened | ⟨-, hid⟩
      · rw [openItem] at hopened
        split at hopened
        · cases hopened
        · split at hopened <;> cases hopened
      · cases hid
    exact (hmoved.same other hsame).mpr hbefore

/-- The event of a run that is interrupted while it waits for something. -/
theorem eventItem_of_open (htidy : Tidy s.checkpoint) {sequence : ℤ} {id x : TimelineItemID}
    (hresult : state.lastToolResult = s.checkpoint.lastToolResult)
    (hopen : openItem s.checkpoint = some x)
    (hid : eventItem s.checkpoint state sequence .runInterrupted = some id) : id = x := by
  have hactive : runtimeStatusTerminal s.checkpoint.status = false := by
    by_contra hterminal
    cases (openItem_of_terminal (Bool.not_eq_false _ ▸ hterminal)).symm.trans hopen
  cases hpending : s.checkpoint.pendingClarification with
  | some pending =>
    rw [openItem_of_pending hactive hpending] at hopen
    simp only [eventItem, hpending] at hid
    exact Option.some.inj (hid.symm.trans hopen)
  | none =>
    cases hcall : s.checkpoint.pendingToolCall with
    | none =>
      rw [Idle.openItem ⟨hcall, hpending⟩] at hopen
      cases hopen
    | some call =>
      rw [openItem_of_call hactive hpending hcall] at hopen
      have hunresolved : pendingToolResolved call state = false := by
        rw [pendingToolResolved, hresult, (htidy.waiting call hcall hactive).1]
        rfl
      simp only [eventItem, hpending, hcall, hunresolved, Bool.false_eq_true, if_false] at hid
      exact Option.some.inj (hid.symm.trans hopen)

theorem active_eq_nil (h : s.active = []) (id : TimelineItemID) : ¬InProgress s.items id := by
  rintro ⟨item, hmem, -, hstatus⟩
  have hactive := mem_active.mpr ⟨hmem, hstatus⟩
  rw [h] at hactive
  cases hactive

/-- The mutation that closes the one item in progress is about that item. -/
theorem activeMutation_spec {item : TimelineItem} {sequence : ℤ} {found : Option TimelineMutation}
    (hactive : s.active = [item]) (h : WellFormed ctx s.items s.lastEventSequence)
    (hunnamed : sequenceOf item.id = none)
    (hfound : activeAgentTimelineInterruptMutation s.items sequence = .ok found) :
    ∃ mutation, found = some mutation ∧ About mutation sequence item.id false := by
  rw [activeAgentTimelineInterruptMutation,
    show s.items.filter (·.status = .inProgress) = [item] from hactive] at hfound
  obtain ⟨content, -, hfound⟩ := bind_eq_ok.mp hfound
  cases pure_eq_ok.mp hfound
  have hmem := (mem_active.mp (hactive ▸ List.mem_cons_self : item ∈ s.active)).1
  exact ⟨_, rfl, rfl, ⟨h.kind item hmem, rfl, fun n hn ↦ by cases hunnamed.symm.trans hn⟩, by simp⟩

/-- A run that is interrupted while it waits for nothing closes the message it writes. -/
theorem Inv.closes_active (h : Inv ctx s)
    (hok : (do
      match ← activeAgentTimelineInterruptMutation s.items (s.lastEventSequence + 1) with
      | some mutation => persistAgentTimelineMutation ctx mutation (.ofItems s.items)
      | none =>
        let mutation ← agentTimelineMutationForEvent ctx s.checkpoint state
          (s.lastEventSequence + 1) .runInterrupted
        persistAgentTimelineMutation ctx mutation (.ofItems s.items)) = Except.ok after) :
    WellFormed ctx after.items (s.lastEventSequence + 1) ∧ ∀ id, ¬InProgress after.items id := by
  obtain ⟨found, hfound, hok⟩ := bind_eq_ok.mp hok
  cases hactive : s.active with
  | nil =>
    rw [activeAgentTimelineInterruptMutation,
      show s.items.filter (·.status = .inProgress) = [] from hactive] at hfound
    cases hfound
    obtain ⟨mutation, hmutation, hok⟩ := bind_eq_ok.mp hok
    obtain ⟨id, -, habout⟩ := mutation_spec hmutation
    have hmoved := persist_spec h.wellFormed habout.event (by omega) hok
    simp only [habout.opened, Bool.decide_eq_true] at hmoved
    refine ⟨hmoved.wellFormed, fun other hother ↦ ?_⟩
    by_cases hsame : other = mutation.itemID
    · subst hsame
      cases hmoved.moved.mp hother
    · exact active_eq_nil hactive other ((hmoved.same other hsame).mp hother)
  | cons item rest =>
    obtain rfl : rest = [] := by
      have hsingle := h.single
      rw [hactive, List.length_cons] at hsingle
      exact List.length_eq_zero_iff.mp (by omega)
    obtain ⟨hmem, hstatus⟩ := mem_active.mp (hactive ▸ List.mem_cons_self : item ∈ s.active)
    have hshows := h.owned item.id ⟨item, hmem, rfl, hstatus⟩
    obtain ⟨mutation, rfl, habout⟩ :=
      activeMutation_spec hactive h.wellFormed (sequenceOf_shows hshows) hfound
    have hmoved := persist_spec h.wellFormed habout.event (by omega) hok
    simp only [habout.opened, Bool.decide_eq_true, habout.item] at hmoved
    refine ⟨hmoved.wellFormed, fun other hother ↦ ?_⟩
    by_cases hsame : other = item.id
    · subst hsame
      cases hmoved.moved.mp hother
    · exact hsame (shows_unique h.tidy (h.owned other ((hmoved.same other hsame).mp hother)) hshows)

/-- An interruption closes whatever is in progress. -/
theorem Inv.interrupts (h : Inv ctx s) (hafter : state.status = .cancelled)
    (hresult : state.lastToolResult = s.checkpoint.lastToolResult) (htidy : Tidy state)
    (hok : persistAgentTimelineEvents ctx s.checkpoint state none [.runInterrupted]
      (s.lastEventSequence + 1) (.ofItems s.items) = .ok after) :
    Inv ctx ⟨state, s.lastEventSequence + 1, after.items⟩ := by
  rw [persist_singleton] at hok
  obtain ⟨-, hok⟩ := refuse_eq_ok.mp hok
  have := h.nonneg
  have hclosed : WellFormed ctx after.items (s.lastEventSequence + 1) ∧
      ∀ id, ¬InProgress after.items id := by
    by_cases hidle : s.checkpoint.pendingClarification.isNone ∧
        s.checkpoint.pendingToolCall.isNone
    · rw [if_pos ⟨rfl, hidle⟩] at hok
      exact h.closes_active hok
    · rw [if_neg fun hboth ↦ hidle hboth.2] at hok
      obtain ⟨mutation, hmutation, hok⟩ := bind_eq_ok.mp hok
      obtain ⟨id, hid, habout⟩ := mutation_spec hmutation
      have hmoved := persist_spec h.wellFormed habout.event (by omega) hok
      simp only [habout.opened, Bool.decide_eq_true, habout.item] at hmoved
      refine ⟨hmoved.wellFormed, fun other hother ↦ ?_⟩
      by_cases hsame : other = id
      · subst hsame
        cases hmoved.moved.mp hother
      · rcases h.owned other ((hmoved.same other hsame).mp hother) with hopen | ⟨hrunning, -⟩
        · exact hsame (eventItem_of_open h.tidy hresult hopen hid).symm
        · obtain ⟨hcall, hnone⟩ := h.tidy.going (.inr hrunning)
          exact hidle ⟨by rw [hnone]; rfl, by rw [hcall]; rfl⟩
  exact inv_of_closed hclosed.1 (by omega) htidy (openItem_of_terminal (by rw [hafter]; rfl))
    hclosed.2

theorem Inv.minds (h : Inv ctx s) (hminds : Mindful s.checkpoint state kinds) (htidy : Tidy state)
    (hok : persistAgentTimelineEvents ctx s.checkpoint state none kinds (s.lastEventSequence + 1)
      (.ofItems s.items) = .ok after) :
    Inv ctx ⟨state, s.lastEventSequence + kinds.length, after.items⟩ := by
  cases hminds with
  | completes hstep hbefore hafter => exact h.completes hstep hbefore hafter htidy hok
  | steers hstatus hstep hopen => exact h.steers hstatus hstep hopen htidy hok
  | interrupts hafter hresult => exact h.interrupts hafter hresult htidy hok

/-! ## The calls -/

section

variable {runtime : RuntimeContext} {call : TimelineCall}

theorem sound_of_moved {input : RuntimeInput} {toolSchemaVersion : ℤ}
    (h : advanceForToolSchema runtime state input toolSchemaVersion = .ok transition) :
    Sound runtime transition.state := by
  obtain ⟨current, hvalid, houtcome, -⟩ := advance_reduced h
  have hsound := (validateRuntimeState_eq_ok.mp hvalid).2.1
  cases houtcome with
  | moved _ hfollows => exact hfollows.sound
  | replayed _ hsame => exact hsame ▸ hsound
  | consumed _ _ hsame =>
    have hfacts := hsound.clarification
    rw [hsame]
    exact { hsound with
      steers := rfl
      clarification := ⟨hfacts.waiting, hfacts.idle, hfacts.history, hfacts.pending⟩ }

theorem apply_timed (htidy : Tidy state)
    (h : call.apply runtime state = .ok (transition, replay))
    (hevents : transition.eventKinds ≠ []) :
    Timed state transition.state replay transition.eventKinds ∧ Tidy transition.state := by
  cases call with
  | rejectToolDecision failure =>
    obtain ⟨result, hcall, hpair⟩ := map_eq_ok.mp h
    cases hpair
    exact rejectToolDecision_timed htidy hcall
  | replayResolvedTool input toolSchemaVersion replayed =>
    obtain ⟨pending, hpending, h⟩ := bind_eq_ok.mp h
    obtain ⟨result, hcall, h⟩ := bind_eq_ok.mp h
    cases pure_eq_ok.mp h
    exact replayResolvedTool_timed htidy (sound_of_moved hpending) hcall
  | reducer call =>
    obtain ⟨result, hcall, hpair⟩ := map_eq_ok.mp h
    cases hpair
    cases call with
    | beginModelRequest => exact beginModelRequest_timed htidy hcall
    | advance input toolSchemaVersion => exact advance_timed htidy hcall
    | fail failureCode => exact fail_timed htidy hcall
    | terminate failureCode => exact terminate_timed hcall
    | expireRuntimeAt now =>
      obtain ⟨⟨result, expired⟩, hreduced, rfl⟩ := map_eq_ok.mp hcall
      exact expireRuntimeAt_timed hreduced hevents
    | interrupt expectedStateVersion =>
      obtain ⟨hminds, hafter⟩ := interrupt_mindful hcall
      exact ⟨.minds hminds rfl, hafter⟩
    | appendSteer request =>
      obtain ⟨⟨result, replayed⟩, hreduced, rfl⟩ := map_eq_ok.mp hcall
      obtain ⟨hminds, hafter⟩ := appendSteer_mindful htidy hreduced hevents
      exact ⟨.minds hminds rfl, hafter⟩
    | consumePendingSteersAtSafeBoundary =>
      obtain ⟨result, -, rfl⟩ := map_eq_ok.mp hcall
      exact absurd rfl hevents
    | rejectModelDecision feedback => exact rejectModelDecision_timed htidy hcall
    | rejectReusedToolIdentity reused => exact rejectReusedToolIdentity_timed htidy hcall
    | beginToolExecution execution => exact beginToolExecution_timed htidy hcall
    | resolveTool resolution => exact resolveTool_timed hcall
    | reviewToolApproval approval => exact reviewToolApproval_timed htidy hcall
    | invalidateToolApproval invalidation => exact invalidateToolApproval_timed hcall
    | applyClarificationResponse submission =>
      obtain ⟨⟨result, replayed⟩, hreduced, rfl⟩ := map_eq_ok.mp hcall
      exact applyClarificationResponse_timed htidy hreduced hevents

theorem apply_mindful (htidy : Tidy state) (hminds : call.mindsMessage state = true)
    (h : call.apply runtime state = .ok (transition, replay))
    (hevents : transition.eventKinds ≠ []) :
    Mindful state transition.state transition.eventKinds ∧ replay = none ∧
      Tidy transition.state := by
  cases call with
  | rejectToolDecision failure => cases hminds
  | replayResolvedTool input toolSchemaVersion replayed => cases hminds
  | reducer call =>
    obtain ⟨result, hcall, hpair⟩ := map_eq_ok.mp h
    cases hpair
    cases call with
    | advance input toolSchemaVersion =>
      obtain ⟨hmindful, hafter⟩ := advance_mindful htidy hminds hcall
      exact ⟨hmindful, rfl, hafter⟩
    | interrupt expectedStateVersion =>
      obtain ⟨hmindful, hafter⟩ := interrupt_mindful hcall
      exact ⟨hmindful, rfl, hafter⟩
    | appendSteer request =>
      obtain ⟨⟨result, replayed⟩, hreduced, rfl⟩ := map_eq_ok.mp hcall
      obtain ⟨hmindful, hafter⟩ := appendSteer_mindful htidy hreduced hevents
      exact ⟨hmindful, rfl, hafter⟩
    | _ => cases hminds

end

/-! ## Steps -/

theorem toOption_eq_some {result : Except String TimelineStore} {s' : TimelineStore} :
    result.toOption = some s' ↔ result = .ok s' := by
  cases result <;> simp [Except.toOption]

/-- **A transition.** -/
theorem Inv.step_transition {call : TimelineCall} {s' : TimelineStore} (h : Inv ctx s)
    (hfits : s.Fits (.transition call)) (hstep : timelineStep ctx s (.transition call) = some s') :
    Inv ctx s' := by
  rw [timelineStep] at hstep
  cases hcall : call.apply ctx.runtime s.checkpoint with
  | error message =>
    rw [hcall] at hstep
    cases hstep
  | ok result =>
    obtain ⟨transition, replay⟩ := result
    simp only [hcall] at hstep
    have hcommit := toOption_eq_some.mp hstep
    obtain ⟨_, hboundary, hcommit⟩ := bind_eq_ok.mp hcommit
    obtain ⟨timeline, hok, hcommit⟩ := bind_eq_ok.mp hcommit
    cases pure_eq_ok.mp hcommit
    have hevents : transition.eventKinds ≠ [] := by
      obtain ⟨-, hboundary⟩ := refuse_eq_ok.mp hboundary
      exact (not_or.mp (refuse_eq_ok.mp hboundary).1).1
    by_cases hminds : call.mindsMessage s.checkpoint = true
    · obtain ⟨hmindful, rfl, htidy⟩ := apply_mindful h.tidy hminds hcall hevents
      exact h.minds hmindful htidy hok
    · have hquiet : s.streaming = false := by
        simpa [TimelineStore.Fits, TimelineStore.fits, hminds] using hfits
      obtain ⟨htimed, htidy⟩ := apply_timed h.tidy hcall hevents
      cases htimed with
      | minds hmindful hnone =>
        subst hnone
        exact h.minds hmindful htidy hok
      | walks hbefore hwalk hafter => exact h.walks hquiet hbefore hwalk hafter htidy hok

/-- What an event of the message does. -/
theorem moveMessage_spec {stepNumber : ℤ} {toStatus : TimelineItemStatus}
    {content : TimelineContent} {allowInsert : Bool} {s' : TimelineStore} (h : Inv ctx s)
    (hok : moveMessage ctx s stepNumber toStatus content allowInsert = .ok s') :
    s'.checkpoint = s.checkpoint ∧ s'.lastEventSequence = s.lastEventSequence + 1 ∧
      Moved ctx s.items s'.items (s.lastEventSequence + 1) (.message stepNumber)
        (toStatus = .inProgress) := by
  obtain ⟨content, -, hok⟩ := bind_eq_ok.mp hok
  obtain ⟨_, -, hok⟩ := bind_eq_ok.mp hok
  obtain ⟨timeline, hpersist, hok⟩ := bind_eq_ok.mp hok
  cases pure_eq_ok.mp hok
  refine ⟨rfl, rfl, persist_spec h.wellFormed ?_ (Int.lt_succ _) hpersist⟩
  exact ⟨rfl, rfl, nofun⟩

/-- An event of the message leaves what the run waits for as it is. -/
theorem Inv.of_message {stepNumber : ℤ} {opened : Bool} {s' : TimelineStore} (h : Inv ctx s)
    (hcheckpoint : s'.checkpoint = s.checkpoint)
    (hlast : s'.lastEventSequence = s.lastEventSequence + 1)
    (hmoved : Moved ctx s.items s'.items (s.lastEventSequence + 1) (.message stepNumber) opened)
    (hshows : opened = true → Shows s.checkpoint (.message stepNumber)) : Inv ctx s' := by
  have := h.nonneg
  refine ⟨hlast ▸ hmoved.wellFormed, by omega, hcheckpoint ▸ h.tidy, fun id hid ↦ ?_,
    fun id hid ↦ ?_⟩ <;> rw [hcheckpoint] at *
  · by_cases hsame : id = .message stepNumber
    · subst hsame
      exact hshows (hmoved.moved.mp hid)
    · exact h.owned id ((hmoved.same id hsame).mp hid)
  · have hother : id ≠ .message stepNumber := by
      rintro rfl
      rw [openItem] at hid
      split at hid
      · cases hid
      · split at hid <;> cases hid
    exact (hmoved.same id hother).mpr (h.opened id hid)

/-- **A step of the run.** -/
theorem Inv.step {action : TimelineAction} {s' : TimelineStore} (h : Inv ctx s)
    (hfits : s.Fits action) (hstep : timelineStep ctx s action = some s') : Inv ctx s' := by
  cases action with
  | transition call => exact h.step_transition hfits hstep
  | delta stepNumber message started =>
    obtain ⟨-, hok⟩ := refuse_eq_ok.mp (toOption_eq_some.mp hstep)
    obtain ⟨hcheckpoint, hlast, hmoved⟩ := moveMessage_spec h hok
    simp only [TimelineStore.Fits, TimelineStore.fits, Bool.and_eq_true, decide_eq_true_eq] at hfits
    exact h.of_message hcheckpoint hlast hmoved fun _ ↦ .inr ⟨hfits.1, hfits.2 ▸ rfl⟩
  | failStream stepNumber message failureCode =>
    obtain ⟨-, hok⟩ := refuse_eq_ok.mp (toOption_eq_some.mp hstep)
    obtain ⟨hcheckpoint, hlast, hmoved⟩ := moveMessage_spec h hok
    exact h.of_message hcheckpoint hlast hmoved nofun

/-- The run begins with the message it answers. -/
theorem inv_start {clientRequestID userMessage : String} {maxSteps : ℤ}
    {configuration : RunConfiguration} {limits : Option RuntimeLimits} {s₀ : TimelineStore}
    (h : initializeAgentRun ctx clientRequestID userMessage maxSteps configuration limits =
      .ok s₀) : Inv ctx s₀ := by
  obtain ⟨state, hvalid, h⟩ := bind_eq_ok.mp h
  cases pure_eq_ok.mp h
  obtain ⟨rfl, -⟩ := trimmed_of_valid hvalid
  refine inv_of_closed ⟨by simp, by simp [kindOf], by simp, by simp [sequenceOf], by simp⟩
    (by decide) (Idle.tidy ⟨rfl, rfl⟩) rfl ?_
  rintro id ⟨item, hmem, -, hstatus⟩
  rw [List.mem_singleton.mp hmem] at hstatus
  cases hstatus

/-! ## Interruptions -/

theorem marshal_of_short {content : TimelineContent}
    (h : ctx.contentLength content ≤ agentEventPayloadLimit) :
    marshalAgentTimelineContent ctx content = .ok content :=
  if_neg (not_lt.mpr h)

/-- An item in progress can be moved. -/
theorem Inv.persists_move (h : Inv ctx s) {id : TimelineItemID} {kind : TimelineItemKind}
    {toStatus : TimelineItemStatus} {content : TimelineContent} (hid : InProgress s.items id)
    (hkind : kind = kindOf id) (hunnamed : sequenceOf id = none)
    (hshort : ctx.contentLength content ≤ agentEventPayloadLimit) :
    ∃ timeline, (do
      let mutation ← moveMutation ctx id kind toStatus (s.lastEventSequence + 1) content
      persistAgentTimelineMutation ctx mutation (.ofItems s.items)) = Except.ok timeline := by
  rw [moveMutation, marshal_of_short hshort]
  refine persist_of_inProgress h.wellFormed h.nonneg hid ?_ rfl hshort
  exact ⟨hkind, rfl, fun n hn ↦ by cases hunnamed.symm.trans hn⟩

/-- A run that waits for nothing can be interrupted. -/
theorem Inv.persists_idle (h : Inv ctx s) (hbrief : ctx.Brief) (hidle : Idle s.checkpoint)
    (hafter : state.status = .cancelled) :
    ∃ timeline, (do
      match ← activeAgentTimelineInterruptMutation s.items (s.lastEventSequence + 1) with
      | some mutation => persistAgentTimelineMutation ctx mutation (.ofItems s.items)
      | none =>
        let mutation ← agentTimelineMutationForEvent ctx s.checkpoint state
          (s.lastEventSequence + 1) .runInterrupted
        persistAgentTimelineMutation ctx mutation (.ofItems s.items)) = Except.ok timeline := by
  have hnonneg := h.nonneg
  rw [activeAgentTimelineInterruptMutation]
  cases hactive : s.active with
  | nil =>
    rw [show s.items.filter (·.status = .inProgress) = [] from hactive]
    have hstatus := hafter ▸ hbrief.status
    have hfresh : ∀ item ∈ s.items, item.id ≠ .status (s.lastEventSequence + 1) := by
      intro item hmem hid
      have := h.wellFormed.named item hmem (s.lastEventSequence + 1) (hid ▸ rfl)
      omega
    simp only [agentTimelineMutationForEvent, hidle.call, hidle.clarification, statusMutation,
      marshal_of_short hstatus]
    exact ⟨_, persist_insert (by dsimp only; omega) hfresh rfl⟩
  | cons item rest =>
    obtain rfl : rest = [] := by
      have hsingle := h.single
      rw [hactive, List.length_cons] at hsingle
      exact List.length_eq_zero_iff.mp (by omega)
    rw [show s.items.filter (·.status = .inProgress) = [item] from hactive]
    obtain ⟨hmem, hstatus⟩ := mem_active.mp (hactive ▸ List.mem_cons_self : item ∈ s.active)
    have hin : InProgress s.items item.id := ⟨item, hmem, rfl, hstatus⟩
    have hmessage : item.id = .message s.checkpoint.stepNumber := by
      rcases h.owned _ hin with hopen | ⟨-, hid⟩
      · cases hidle.openItem.symm.trans hopen
      · exact hid
    have hkind : item.kind = .agentMessage := (h.wellFormed.kind item hmem).trans (hmessage ▸ rfl)
    have hcontent : interruptedAgentTimelineContent item = .ok item.content := by
      rw [interruptedAgentTimelineContent, hkind]
    simp only [hcontent]
    refine persist_of_inProgress h.wellFormed hnonneg hin ?_ rfl
      (h.wellFormed.short item hmem hstatus)
    exact ⟨h.wellFormed.kind item hmem, rfl, fun n hn ↦ by
      rw [show sequenceOf item.id = none by rw [hmessage]; rfl] at hn; cases hn⟩

/-- A run that is interrupted was not over. -/
theorem interrupt_spec {runtime : RuntimeContext} {version : ℤ}
    (h : interrupt runtime state version = .ok transition) :
    runtimeStatusTerminal state.status = false ∧ transition.eventKinds = [.runInterrupted] ∧
      transition.state.status = .cancelled ∧
      transition.state.lastToolResult = state.lastToolResult := by
  obtain ⟨current, hvalid, h⟩ := bind_eq_ok.mp h
  obtain ⟨hrefused, h⟩ := refuse_eq_ok.mp h
  obtain ⟨next, hnext, h⟩ := bind_eq_ok.mp h
  cases pure_eq_ok.mp h
  obtain ⟨rfl, -⟩ := trimmed_of_valid hvalid
  obtain ⟨rfl, -⟩ := trimmed_of_valid hnext
  exact ⟨Bool.eq_false_iff.mpr (not_or.mp (not_or.mp hrefused).2).2, rfl, rfl, rfl⟩

/-- **An interruption goes through.** -/
theorem Inv.interruptible (h : Inv ctx s) (hbrief : ctx.Brief) {version : ℤ}
    (hok : interrupt ctx.runtime s.checkpoint version = .ok transition) :
    ∃ timeline, s.persistEvents ctx transition none = .ok timeline := by
  obtain ⟨hactive, hevents, hcancelled, hkept⟩ := interrupt_spec hok
  have hnonneg := h.nonneg
  have hordinal : ¬((Timeline.ofItems s.items).nextOrdinal < 1 ∨ s.lastEventSequence + 1 < 1) :=
    not_or.mpr ⟨ordinal_pos s.items, by omega⟩
  rw [TimelineStore.persistEvents, hevents, persist_singleton, persistAgentTimelineEvent,
    if_neg hordinal]
  cases hpending : s.checkpoint.pendingClarification with
  | some pending =>
    rw [if_neg (by simp)]
    simp only [agentTimelineMutationForEvent, hpending]
    exact h.persists_move (h.opened _ (openItem_of_pending hactive hpending)) rfl rfl
      (hbrief.clarification _ (h.tidy.asked pending hpending))
  | none =>
    cases hcall : s.checkpoint.pendingToolCall with
    | none =>
      rw [if_pos ⟨rfl, rfl, rfl⟩]
      exact h.persists_idle hbrief ⟨hcall, hpending⟩ hcancelled
    | some call =>
      obtain ⟨hresult, hshort⟩ := h.tidy.waiting call hcall hactive
      have hunresolved : pendingToolResolved call transition.state = false := by
        rw [pendingToolResolved, hkept, hresult]
        rfl
      rw [if_neg (by simp)]
      simp only [agentTimelineMutationForEvent, hpending, hcall, hunresolved, Bool.false_eq_true,
        if_false]
      exact h.persists_move (h.opened _ (openItem_of_call hactive hpending hcall)) rfl rfl
        (hbrief.toolCall _ _ hshort)

theorem Inv.disciplined (h : Inv ctx s) (hbrief : ctx.Brief) : s.Disciplined ctx where
  single := h.single
  shows := fun item hitem ↦ h.owned _
    ⟨item, (mem_active.mp hitem).1, rfl, (mem_active.mp hitem).2⟩
  terminal := by
    intro hterminal
    rw [List.eq_nil_iff_forall_not_mem]
    intro item hitem
    rcases h.owned _ ⟨item, (mem_active.mp hitem).1, rfl, (mem_active.mp hitem).2⟩ with
      hopen | ⟨hrunning, -⟩
    · cases (openItem_of_terminal hterminal).symm.trans hopen
    · rw [hrunning] at hterminal
      cases hterminal
  interruptible := fun _ _ hok ↦ h.interruptible hbrief hok

end Timelines

open Timelines

/-- **The discipline of a timeline.**  A run that closes its message before it goes on has at most
one item in progress, which shows what the run is doing, and can be interrupted until it is over. -/
theorem disciplined_of_run {ctx : TimelineContext} (hbrief : ctx.Brief)
    {clientRequestID userMessage : String} {maxSteps : ℤ} {configuration : RunConfiguration}
    {limits : Option RuntimeLimits} {s₀ s : TimelineStore}
    (hinit : initializeAgentRun ctx clientRequestID userMessage maxSteps configuration limits =
      .ok s₀) (hrun : Machine.Run (timelineStep ctx) TimelineStore.Fits s₀ s) : s.Disciplined ctx :=
  (hrun.invariant (inv_start hinit) fun _ _ _ h hfits hstep ↦
    h.step hfits hstep).disciplined hbrief

/-! ## Runs -/

def RunStatus.text : RunStatus → String
  | .queued => "queued"
  | .running => "running"
  | .waitingInput => "waiting_input"
  | .waitingApproval => "waiting_approval"
  | .waitingTool => "waiting_tool"
  | .succeeded => "succeeded"
  | .failed => "failed"
  | .cancelled => "cancelled"
  | .other name => name

/-- The lengths of contents whose texts need no escapes; the runs here have no long ones. -/
def plainTimelineContext : TimelineContext where
  runtime := plainContext
  contentLength
    | .message message => message.utf8ByteSize + 14
    | .status status => status.text.utf8ByteSize + 13
    | .interruptedClarification requestID => requestID.length + 35
    | .interruptedToolCall toolCallID _ => toolCallID.utf8ByteSize + 80
    | _ => 400
  decodeAssembly := fun _ ↦ none
  publicOutput := fun _ output ↦ some output

theorem brief_plainTimelineContext : plainTimelineContext.Brief where
  status := by decide
  clarification := fun requestID h ↦ by
    show requestID.length + 35 ≤ 256 * 1024
    omega
  toolCall := fun toolCallID _ h ↦ by
    show toolCallID.utf8ByteSize + 80 ≤ 256 * 1024
    omega

/-- A run that has its message. -/
def greeted : TimelineStore where
  checkpoint := queuedState
  lastEventSequence := 2
  items := [{
    id := .userMessage "request", kind := .userMessage, status := .completed, ordinal := 1
    sourceEventSequence := 2, content := .userMessage "request" "hello" }]

theorem initialize_greeted :
    initializeAgentRun plainTimelineContext "request" "hello" 3 { executionMode := .guided }
      (some { maxToolCalls := 2, toolCallsUsed := 0, startedAt := 1, deadlineAt := 2 }) =
        .ok greeted := by
  rfl

def begins : TimelineAction := .transition (.reducer .beginModelRequest)

def answers : TimelineAction :=
  .transition (.reducer (.advance finalAnswer currentToolSchemaVersion))

/-- The answer arrives in two deltas and completes the run. -/
def answered : TimelineStore :=
  (play (timelineStep plainTimelineContext) TimelineStore.Fits greeted
    [begins, .delta 0 "do" true, .delta 0 "done" false, answers]).getD greeted

theorem run_answered :
    Machine.Run (timelineStep plainTimelineContext) TimelineStore.Fits greeted answered :=
  run_of_play .nil [begins, .delta 0 "do" true, .delta 0 "done" false, answers] rfl

theorem disciplined_answered : answered.Disciplined plainTimelineContext :=
  disciplined_of_run brief_plainTimelineContext initialize_greeted run_answered

def asks : TimelineAction :=
  .transition (.reducer (.advance
    { decision := {
        kind := .clarificationRequest
        clarification := some {
          requestID := "colour"
          questions := [{ id := "tone", prompt := "Which tone?", type := .freeText }]
          expectedDelivery := answerDelivery } }
      evidence := {} } currentToolSchemaVersion))

def rejects : TimelineAction :=
  .transition (.reducer (.rejectModelDecision ⟨"model_decision_invalid", "not a decision"⟩))

/-- The state of the run after a schedule, whether it minds its messages or not. -/
def played (schedule : List TimelineAction) : TimelineStore :=
  (play (timelineStep plainTimelineContext) (fun _ _ ↦ True) greeted schedule).getD greeted

/-- The run asks the user. -/
def waiting : TimelineStore := played [begins, asks]

/-- The run fails while its answer is being written. -/
def abandoned : TimelineStore :=
  played [begins, .delta 0 "do" true, .transition (.reducer (.fail "agent_model_failed"))]

/-- Two answers that were being written are rejected. -/
def littered : TimelineStore :=
  played [begins, .delta 0 "do" true, rejects, .delta 1 "do" true, rejects]

def interruption : RuntimeTransition where
  state := { littered.checkpoint with
    stateVersion := 5
    status := .cancelled
    decisionFeedback := none }
  eventKinds := [.runInterrupted]

/-- **What is not promised.**  The item of a pending clarification is in progress, too; a message
that the run goes on without stays in progress, also when the run is over; and two of them stand in
the way of an interruption. -/
theorem not_disciplined :
    (Machine.Run (timelineStep plainTimelineContext) (fun _ _ ↦ True) greeted waiting ∧
      waiting.active.map (·.id) = [.clarification "colour"] ∧
      waiting.checkpoint.pendingToolCall = none) ∧
    (Machine.Run (timelineStep plainTimelineContext) (fun _ _ ↦ True) greeted abandoned ∧
      runtimeStatusTerminal abandoned.checkpoint.status = true ∧
      abandoned.active.map (·.id) = [.message 0]) ∧
    Machine.Run (timelineStep plainTimelineContext) (fun _ _ ↦ True) greeted littered ∧
      littered.checkpoint.status = .running ∧
      littered.active.map (·.id) = [.message 0, .message 1] ∧
      interrupt plainContext littered.checkpoint 4 = .ok interruption ∧
      littered.persistEvents plainTimelineContext interruption none =
        .error errAgentTimelineConflict := by
  exact ⟨⟨run_of_play .nil [begins, asks] rfl, rfl, rfl⟩,
    ⟨run_of_play .nil [begins, .delta 0 "do" true,
      .transition (.reducer (.fail "agent_model_failed"))] rfl, rfl, rfl⟩,
    run_of_play .nil [begins, .delta 0 "do" true, rejects, .delta 1 "do" true, rejects] rfl, rfl,
    rfl, rfl, rfl⟩

end HMaigc.AgentRuntime
