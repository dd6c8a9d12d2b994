import HMaigc.Agent.Requests
import HMaigc.Agent.Timeline

/-!
# What an event does to a timeline

An event names one item and leaves it in progress or not.  `WellFormed` is what the table of items
keeps to by itself; `persist_spec` says what one mutation does to it, `mutation_spec` which item an
event names, and `walked` what the events of a transition come to if each of them is about one given
item or adds a closed one.
-/

set_option autoImplicit false

namespace HMaigc.AgentRuntime.Timelines

open Go

/-! ## The table of items -/

def kindOf : TimelineItemID → TimelineItemKind
  | .userMessage _ | .steer _ => .userMessage
  | .message _ => .agentMessage
  | .clarification _ => .clarification
  | .toolCall _ _ => .toolCall
  | .toolResult _ _ _ => .toolResult
  | .status _ => .statusKind
  | .error _ => .error

/-- The event an item is named after. -/
def sequenceOf : TimelineItemID → Option ℤ
  | .toolResult _ _ sequence | .status sequence | .error sequence => some sequence
  | _ => none

def InProgress (items : List TimelineItem) (id : TimelineItemID) : Prop :=
  ∃ item ∈ items, item.id = id ∧ item.status = .inProgress

/-- What holds of the items of a run whose last event is the given one. -/
structure WellFormed (ctx : TimelineContext) (items : List TimelineItem) (last : ℤ) : Prop where
  nodup : (items.map (·.id)).Nodup
  kind : ∀ item ∈ items, item.kind = kindOf item.id
  old : ∀ item ∈ items, item.sourceEventSequence ≤ last
  named : ∀ item ∈ items, ∀ n, sequenceOf item.id = some n → n ≤ last
  short : ∀ item ∈ items, item.status = .inProgress →
    ctx.contentLength item.content ≤ agentEventPayloadLimit

variable {ctx : TimelineContext} {items : List TimelineItem} {last sequence : ℤ}

theorem WellFormed.not_inProgress (h : WellFormed ctx items last) {id : TimelineItemID}
    (hid : sequenceOf id = some sequence) (hnew : last < sequence) : ¬InProgress items id := by
  rintro ⟨item, hmem, rfl, -⟩
  have := h.named item hmem sequence hid
  omega

theorem WellFormed.eq_of_id (h : WellFormed ctx items last) {item other : TimelineItem}
    (hitem : item ∈ items) (hother : other ∈ items) (hid : item.id = other.id) : item = other :=
  List.inj_on_of_nodup_map h.nodup hitem hother hid

theorem find_eq_none {id : TimelineItemID} :
    items.find? (·.id == id) = none ↔ ∀ item ∈ items, item.id ≠ id := by
  simp

/-- The mutation is one of the event. -/
structure OfEvent (mutation : TimelineMutation) (sequence : ℤ) : Prop where
  kind : mutation.kind = kindOf mutation.itemID
  stamped : mutation.sourceEventSequence = sequence
  named : ∀ n, sequenceOf mutation.itemID = some n → n = sequence

/-- The items after an event that names `id` and leaves it in progress or not. -/
structure Moved (ctx : TimelineContext) (before after : List TimelineItem) (sequence : ℤ)
    (id : TimelineItemID) (opened : Bool) : Prop where
  wellFormed : WellFormed ctx after sequence
  same : ∀ other, other ≠ id → (InProgress after other ↔ InProgress before other)
  moved : InProgress after id ↔ opened = true

/-- The next ordinal is positive. -/
theorem ordinal_pos (items : List TimelineItem) : ¬nextAgentTimelineOrdinal items < 1 := by
  have hmax : 0 ≤ (items.map (·.ordinal)).foldr max 0 := by
    induction items with
    | nil => exact Int.le_refl 0
    | cons item items ih => exact Int.le_trans ih (Int.le_max_right _ _)
  rw [nextAgentTimelineOrdinal]
  omega

variable {mutation : TimelineMutation}

@[simp] theorem id_update (item : TimelineItem) : (mutation.update item).id = item.id := by
  rw [TimelineMutation.update]
  split <;> rfl

@[simp] theorem kind_update (item : TimelineItem) : (mutation.update item).kind = item.kind := by
  rw [TimelineMutation.update]
  split <;> rfl

theorem moved_insert (h : WellFormed ctx items last) (hevent : OfEvent mutation sequence)
    (hnew : last < sequence) (habsent : ∀ item ∈ items, item.id ≠ mutation.itemID)
    (hshort : ctx.contentLength mutation.content ≤ agentEventPayloadLimit) (ordinal : ℤ) :
    Moved ctx items (items ++ [mutation.item ordinal]) sequence mutation.itemID
      (mutation.toStatus = .inProgress) := by
  have hall {p : TimelineItem → Prop} (hold : ∀ item ∈ items, p item)
      (hitem : p (mutation.item ordinal)) : ∀ item ∈ items ++ [mutation.item ordinal], p item := by
    intro item hmem
    rcases List.mem_append.mp hmem with hmem | hmem
    · exact hold item hmem
    · rw [List.mem_singleton.mp hmem]
      exact hitem
  refine ⟨⟨?_, hall h.kind hevent.kind, hall (fun item hmem ↦ ?_) (Int.le_of_eq hevent.stamped),
    hall (fun item hmem n hn ↦ ?_) (fun n hn ↦ Int.le_of_eq (hevent.named n hn)),
    hall h.short fun _ ↦ hshort⟩, fun other hother ↦ ?_, ?_⟩
  · rw [List.map_append, List.nodup_append]
    refine ⟨h.nodup, by simp, ?_⟩
    rintro id hid _ hlast rfl
    obtain ⟨item, hmem, rfl⟩ := List.mem_map.mp hid
    exact habsent item hmem (by simpa [TimelineMutation.item] using hlast)
  · exact Int.le_of_lt (Int.lt_of_le_of_lt (h.old item hmem) hnew)
  · exact Int.le_of_lt (Int.lt_of_le_of_lt (h.named item hmem n hn) hnew)
  · constructor
    · rintro ⟨item, hmem, rfl, hstatus⟩
      rcases List.mem_append.mp hmem with hmem | hmem
      · exact ⟨item, hmem, rfl, hstatus⟩
      · rw [List.mem_singleton.mp hmem] at hother
        exact absurd rfl hother
    · rintro ⟨item, hmem, hid⟩
      exact ⟨item, List.mem_append_left _ hmem, hid⟩
  · rw [decide_eq_true_iff]
    constructor
    · rintro ⟨item, hmem, hid, hstatus⟩
      rcases List.mem_append.mp hmem with hmem | hmem
      · exact absurd hid (habsent item hmem)
      · rwa [List.mem_singleton.mp hmem] at hstatus
    · intro hstatus
      exact ⟨_, List.mem_append_right _ List.mem_cons_self, rfl, hstatus⟩

theorem moved_update (h : WellFormed ctx items last) (hevent : OfEvent mutation sequence)
    (hnew : last < sequence) {existing : TimelineItem} (hmem : existing ∈ items)
    (hid : existing.id = mutation.itemID)
    (hshort : ctx.contentLength mutation.content ≤ agentEventPayloadLimit) :
    Moved ctx items (items.map mutation.update) sequence mutation.itemID
      (mutation.toStatus = .inProgress) := by
  have hall {p : TimelineItem → Prop} (hold : ∀ item ∈ items, p (mutation.update item)) :
      ∀ item ∈ items.map mutation.update, p item := by
    intro item hitem
    obtain ⟨old, hold', rfl⟩ := List.mem_map.mp hitem
    exact hold old hold'
  refine ⟨⟨?_, hall fun item hitem ↦ ?_, hall fun item hitem ↦ ?_, hall fun item hitem n hn ↦ ?_,
    hall fun item hitem hstatus ↦ ?_⟩, fun other hother ↦ ?_, ?_⟩
  · rw [List.map_map]
    exact (List.map_congr_left fun item _ ↦ id_update item) ▸ h.nodup
  · rw [kind_update, id_update]
    exact h.kind item hitem
  · have := h.old item hitem
    rw [TimelineMutation.update]
    split
    · exact Int.le_of_eq hevent.stamped
    · omega
  · rw [id_update] at hn
    have := h.named item hitem n hn
    omega
  · rw [TimelineMutation.update] at hstatus ⊢
    by_cases hother : item.id = mutation.itemID
    · rw [if_pos hother]
      exact hshort
    · rw [if_neg hother] at hstatus ⊢
      exact h.short item hitem hstatus
  · constructor
    · rintro ⟨_, hupdated, rfl, hstatus⟩
      obtain ⟨item, hitem, rfl⟩ := List.mem_map.mp hupdated
      rw [id_update] at hother
      rw [TimelineMutation.update, if_neg hother] at hstatus
      exact ⟨item, hitem, (id_update item).symm, hstatus⟩
    · rintro ⟨item, hitem, rfl, hstatus⟩
      refine ⟨_, List.mem_map_of_mem hitem, id_update item, ?_⟩
      rw [TimelineMutation.update, if_neg hother]
      exact hstatus
  · rw [decide_eq_true_iff]
    constructor
    · rintro ⟨_, hupdated, hid, hstatus⟩
      obtain ⟨item, -, rfl⟩ := List.mem_map.mp hupdated
      rw [id_update] at hid
      rwa [TimelineMutation.update, if_pos hid] at hstatus
    · intro hstatus
      refine ⟨_, List.mem_map_of_mem hmem, (id_update existing).trans hid, ?_⟩
      rw [TimelineMutation.update, if_pos hid]
      exact hstatus

variable {before after : Timeline}

/-- **What one mutation does.** -/
theorem persist_spec (h : WellFormed ctx before.items last) (hevent : OfEvent mutation sequence)
    (hnew : last < sequence) (hok : persistAgentTimelineMutation ctx mutation before = .ok after) :
    Moved ctx before.items after.items sequence mutation.itemID
      (mutation.toStatus = .inProgress) := by
  obtain ⟨-, hok⟩ := refuse_eq_ok.mp hok
  obtain ⟨hvalid, hok⟩ := refuse_eq_ok.mp hok
  have hshort := not_lt.mp (not_or.mp hvalid).2
  cases hfind : before.items.find? (·.id == mutation.itemID) with
  | none =>
    simp only [hfind] at hok
    obtain ⟨-, hok⟩ := refuse_eq_ok.mp hok
    obtain ⟨-, hok⟩ := refuse_eq_ok.mp hok
    cases hok
    exact moved_insert h hevent hnew (find_eq_none.mp hfind) hshort _
  | some existing =>
    simp only [hfind] at hok
    obtain ⟨-, hok⟩ := refuse_eq_ok.mp hok
    cases hok
    exact moved_update h hevent hnew (List.mem_of_find?_eq_some hfind)
      (by simpa using List.find?_some hfind) hshort

section

variable (hvalid : ¬(mutation.sourceEventSequence < 1 ∨
  ctx.contentLength mutation.content > agentEventPayloadLimit))

include hvalid

theorem persist_update {existing : TimelineItem}
    (hfind : items.find? (·.id == mutation.itemID) = some existing)
    (hconflict : ¬mutation.Conflicts existing) :
    persistAgentTimelineMutation ctx mutation (.ofItems items) =
      .ok { Timeline.ofItems items with items := items.map mutation.update } := by
  refine refuse_eq_ok.mpr ⟨ordinal_pos items, refuse_eq_ok.mpr ⟨hvalid, ?_⟩⟩
  simp only [Timeline.ofItems, hfind]
  exact if_neg hconflict

theorem persist_insert (habsent : ∀ item ∈ items, item.id ≠ mutation.itemID)
    (hfrom : mutation.fromStatus = none) :
    persistAgentTimelineMutation ctx mutation (.ofItems items) =
      .ok ⟨items ++ [mutation.item (nextAgentTimelineOrdinal items)],
        nextAgentTimelineOrdinal items + 1⟩ := by
  refine refuse_eq_ok.mpr ⟨ordinal_pos items, refuse_eq_ok.mpr ⟨hvalid, ?_⟩⟩
  simp only [Timeline.ofItems, find_eq_none.mpr habsent]
  exact refuse_eq_ok.mpr ⟨by simp [hfrom], refuse_eq_ok.mpr ⟨not_not.mpr rfl, rfl⟩⟩

end

/-- A mutation of an item in progress goes through. -/
theorem persist_of_inProgress (h : WellFormed ctx items last) (hlast : 0 ≤ last)
    (hid : InProgress items mutation.itemID) (hevent : OfEvent mutation (last + 1))
    (hfrom : mutation.fromStatus = some .inProgress)
    (hshort : ctx.contentLength mutation.content ≤ agentEventPayloadLimit) :
    ∃ timeline, persistAgentTimelineMutation ctx mutation (.ofItems items) = .ok timeline := by
  obtain ⟨item, hmem, hitem, hstatus⟩ := hid
  have hfind : items.find? (·.id == mutation.itemID) = some item := by
    cases hfound : items.find? (·.id == mutation.itemID) with
    | none => exact absurd hitem (find_eq_none.mp hfound item hmem)
    | some found =>
      have hsame : found.id = mutation.itemID := by simpa using List.find?_some hfound
      rw [h.eq_of_id (List.mem_of_find?_eq_some hfound) hmem (hsame.trans hitem.symm)]
  have hconflict : ¬mutation.Conflicts item := by
    have hold := h.old item hmem
    rintro (hne | hlate | hterminal | hother)
    · exact hne ((h.kind item hmem).trans (hitem ▸ hevent.kind.symm))
    · rw [hevent.stamped] at hlate
      omega
    · rw [hstatus] at hterminal
      cases hterminal
    · exact hother (hfrom.trans (congrArg some hstatus.symm))
  have hstamped := hevent.stamped
  exact ⟨_, persist_update (by omega) hfind hconflict⟩

/-! ## Events -/

/-- The item an event names. -/
def eventItem (previous state : RuntimeState) (sequence : ℤ) : EventKind → Option TimelineItemID
  | .agentMessageCompleted => some (.message (state.stepNumber - 1))
  | .runInterrupted =>
    match previous.pendingClarification, previous.pendingToolCall with
    | some pending, _ => some (clarificationItemID pending.request)
    | none, some call =>
      if pendingToolResolved call state then some (.status sequence)
      else some (toolCallItemID call)
    | none, none => some (.status sequence)
  | .runFailed =>
    match previous.pendingClarification with
    | some pending => some (clarificationItemID pending.request)
    | none => some (.status sequence)
  | .runStatusChanged | .runCompleted => some (.status sequence)
  | .runSteered => state.pendingSteers.getLast?.map (.steer ·.clientRequestID)
  | .clarificationRequested => state.pendingClarification.map (clarificationItemID ·.request)
  | .clarificationAnswerSaved => (answeredContent state).map (.clarification ·.1)
  | .clarificationResponded =>
    state.clarificationHistory.getLast?.map (clarificationItemID ·.request)
  | .toolCall | .toolStarted | .approvalRequired => state.pendingToolCall.map toolCallItemID
  | .toolResult => state.lastToolResult.map fun result ↦
    if previous.pendingToolCall.isNone then
      .toolResult result.toolCallID result.actionVersion sequence
    else .toolCall result.toolCallID result.actionVersion
  | .approvalDecided => previous.pendingToolCall.map toolCallItemID
  | .modelRejected => some (.error sequence)

/-- The event leaves its item in progress. -/
def opensItem : EventKind → Bool
  | .clarificationRequested | .clarificationAnswerSaved | .toolCall | .toolStarted
  | .approvalRequired | .approvalDecided => true
  | _ => false

/-- What an event's mutation is about. -/
structure About (mutation : TimelineMutation) (sequence : ℤ) (id : TimelineItemID) (opened : Bool) :
    Prop where
  item : mutation.itemID = id
  event : OfEvent mutation sequence
  opened : (mutation.toStatus = .inProgress) = (opened = true)

theorem statusMutation_spec {state : RuntimeState} {toStatus : TimelineItemStatus}
    {mutation : TimelineMutation} (hclosed : toStatus ≠ .inProgress)
    (h : statusMutation ctx state sequence toStatus = .ok mutation) :
    About mutation sequence (.status sequence) false := by
  obtain ⟨content, -, h⟩ := bind_eq_ok.mp h
  cases pure_eq_ok.mp h
  exact ⟨rfl, ⟨rfl, rfl, fun n hn ↦ (Option.some.inj hn).symm⟩, by simpa using hclosed⟩

theorem moveMutation_spec {id : TimelineItemID} {kind : TimelineItemKind}
    {toStatus : TimelineItemStatus} {content : TimelineContent} {mutation : TimelineMutation}
    (hkind : kind = kindOf id) (hid : sequenceOf id = none)
    (h : moveMutation ctx id kind toStatus sequence content = .ok mutation) :
    About mutation sequence id (toStatus = .inProgress) := by
  obtain ⟨content, -, h⟩ := bind_eq_ok.mp h
  cases pure_eq_ok.mp h
  exact ⟨rfl, ⟨hkind, rfl, fun n hn ↦ by rw [hid] at hn; cases hn⟩, by simp⟩

theorem toolResultStatus_ne (result : ToolResult) : toolResultStatus result ≠ .inProgress := by
  rw [toolResultStatus]
  split
  · decide
  · split <;> decide

/-- An assembly that agrees with its result is over. -/
theorem assemblyStatus_ne {call : ToolCallDecision} {result : ToolResult}
    {content : AssemblyContent} (h : assemblyAgrees call result content = true) :
    mediaAssemblyTimelineItemStatus content ≠ .inProgress := by
  rw [assemblyAgrees] at h
  rw [mediaAssemblyTimelineItemStatus]
  cases hstatus : content.taskStatus <;> simp [hstatus] at h ⊢

theorem toolResultMutation_spec {previous state : RuntimeState} {mutation : TimelineMutation}
    (h : toolResultMutation ctx previous state sequence = .ok mutation) :
    ∃ id, eventItem previous state sequence .toolResult = some id ∧
      About mutation sequence id false := by
  rw [toolResultMutation] at h
  cases hresult : state.lastToolResult with
  | none =>
    rw [hresult] at h
    cases h
  | some result =>
    simp only [hresult] at h
    cases hcall : previous.pendingToolCall with
    | none =>
      simp only [hcall] at h
      obtain ⟨content, -, h⟩ := bind_eq_ok.mp h
      cases pure_eq_ok.mp h
      refine ⟨.toolResult result.toolCallID result.actionVersion sequence,
        by simp [eventItem, hresult, hcall], rfl,
        ⟨rfl, rfl, fun n hn ↦ (Option.some.inj hn).symm⟩, ?_⟩
      simpa using toolResultStatus_ne result
    | some call =>
      simp only [hcall] at h
      refine ⟨.toolCall result.toolCallID result.actionVersion,
        by simp [eventItem, hresult, hcall], ?_⟩
      by_cases hassembly : call.toolName = .mediaAssemble
      · rw [if_pos hassembly] at h
        cases hdecode : ctx.decodeAssembly result.output with
        | none =>
          rw [hdecode] at h
          cases h
        | some content =>
          simp only [hdecode] at h
          obtain ⟨hagrees, h⟩ := refuse_eq_ok.mp h
          cases h
          refine ⟨rfl, ⟨rfl, rfl, nofun⟩, ?_⟩
          simpa using assemblyStatus_ne (by simpa using hagrees)
      · rw [if_neg hassembly] at h
        have hmove : ∃ output, moveMutation ctx (.toolCall result.toolCallID result.actionVersion)
            .toolCall (toolResultStatus result) sequence
            (.toolResult (some call.toolName) result output) = .ok mutation := by
          split at h
          · obtain ⟨output, -, h⟩ := bind_eq_ok.mp h
            exact ⟨output, h⟩
          · exact ⟨none, h⟩
        obtain ⟨output, hmove⟩ := hmove
        have habout := moveMutation_spec rfl rfl hmove
        rwa [decide_eq_false (toolResultStatus_ne result)] at habout

/-- A mutation that adds an item about something the checkpoint may lack. -/
theorem about_of_insert {id : TimelineItemID} {kind : TimelineItemKind}
    {toStatus : TimelineItemStatus} {content : TimelineContent} {mutation : TimelineMutation}
    {fromStatus : Option TimelineItemStatus} {allowInsert : Bool}
    (hkind : kind = kindOf id) (hid : sequenceOf id = none ∨ sequenceOf id = some sequence)
    (h : (do
      let content ← marshalAgentTimelineContent ctx content
      return { itemID := id, kind, fromStatus, toStatus, sourceEventSequence := sequence, content
               allowInsert } : Except String TimelineMutation) = .ok mutation) :
    About mutation sequence id (toStatus = .inProgress) := by
  obtain ⟨content, -, h⟩ := bind_eq_ok.mp h
  cases pure_eq_ok.mp h
  refine ⟨rfl, ⟨hkind, rfl, fun n hn ↦ ?_⟩, by simp⟩
  rcases hid with hid | hid <;> rw [hid] at hn
  · cases hn
  · exact (Option.some.inj hn).symm

/-- **Which item an event names**, and whether it leaves it in progress. -/
theorem mutation_spec {previous state : RuntimeState} {kind : EventKind}
    {mutation : TimelineMutation}
    (h : agentTimelineMutationForEvent ctx previous state sequence kind = .ok mutation) :
    ∃ id, eventItem previous state sequence kind = some id ∧
      About mutation sequence id (opensItem kind) := by
  cases kind with
  | agentMessageCompleted => exact ⟨_, rfl, about_of_insert rfl (.inl rfl) h⟩
  | runStatusChanged => exact ⟨_, rfl, statusMutation_spec (by decide) h⟩
  | runCompleted => exact ⟨_, rfl, statusMutation_spec (by decide) h⟩
  | toolResult => exact toolResultMutation_spec h
  | runInterrupted =>
    cases hpending : previous.pendingClarification with
    | some pending =>
      simp only [agentTimelineMutationForEvent, hpending] at h
      exact ⟨_, by simp only [eventItem, hpending], moveMutation_spec rfl rfl h⟩
    | none =>
      cases hcall : previous.pendingToolCall with
      | none =>
        simp only [agentTimelineMutationForEvent, hpending, hcall] at h
        exact ⟨_, by simp only [eventItem, hpending, hcall], statusMutation_spec (by decide) h⟩
      | some call =>
        simp only [agentTimelineMutationForEvent, hpending, hcall] at h
        by_cases hresolved : pendingToolResolved call state = true
        · rw [if_pos hresolved] at h
          exact ⟨_, by simp only [eventItem, hpending, hcall, if_pos hresolved],
            statusMutation_spec (by decide) h⟩
        · rw [if_neg hresolved] at h
          exact ⟨_, by simp only [eventItem, hpending, hcall, if_neg hresolved],
            moveMutation_spec rfl rfl h⟩
  | runFailed =>
    cases hpending : previous.pendingClarification with
    | some pending =>
      simp only [agentTimelineMutationForEvent, hpending] at h
      exact ⟨_, by simp only [eventItem, hpending], moveMutation_spec rfl rfl h⟩
    | none =>
      simp only [agentTimelineMutationForEvent, hpending] at h
      exact ⟨_, by simp only [eventItem, hpending], statusMutation_spec (by decide) h⟩
  | runSteered =>
    cases hsteer : state.pendingSteers.getLast? with
    | none =>
      simp only [agentTimelineMutationForEvent, hsteer] at h
      cases h
    | some steer =>
      simp only [agentTimelineMutationForEvent, hsteer] at h
      exact ⟨_, by simp only [eventItem, hsteer, Option.map_some],
        about_of_insert rfl (.inl rfl) h⟩
  | clarificationRequested =>
    cases hpending : state.pendingClarification with
    | none =>
      simp only [agentTimelineMutationForEvent, hpending] at h
      cases h
    | some pending =>
      simp only [agentTimelineMutationForEvent, hpending] at h
      exact ⟨_, by simp only [eventItem, hpending, Option.map_some],
        about_of_insert rfl (.inl rfl) h⟩
  | clarificationAnswerSaved =>
    cases hanswered : answeredContent state with
    | none =>
      simp only [agentTimelineMutationForEvent, hanswered] at h
      cases h
    | some answered =>
      simp only [agentTimelineMutationForEvent, hanswered] at h
      exact ⟨_, by simp only [eventItem, hanswered, Option.map_some], moveMutation_spec rfl rfl h⟩
  | clarificationResponded =>
    cases hcompleted : state.clarificationHistory.getLast? with
    | none =>
      simp only [agentTimelineMutationForEvent, hcompleted] at h
      cases h
    | some completed =>
      simp only [agentTimelineMutationForEvent, hcompleted] at h
      exact ⟨_, by simp only [eventItem, hcompleted, Option.map_some], moveMutation_spec rfl rfl h⟩
  | toolCall =>
    cases hcall : state.pendingToolCall with
    | none =>
      simp only [agentTimelineMutationForEvent, hcall] at h
      cases h
    | some call =>
      simp only [agentTimelineMutationForEvent, hcall] at h
      exact ⟨_, by simp only [eventItem, hcall, Option.map_some],
        about_of_insert rfl (.inl rfl) h⟩
  | toolStarted =>
    cases hcall : state.pendingToolCall with
    | none =>
      simp only [agentTimelineMutationForEvent, hcall] at h
      cases h
    | some call =>
      simp only [agentTimelineMutationForEvent, hcall] at h
      obtain ⟨-, h⟩ := refuse_eq_ok.mp h
      exact ⟨_, by simp only [eventItem, hcall, Option.map_some], moveMutation_spec rfl rfl h⟩
  | approvalRequired =>
    cases hcall : state.pendingToolCall with
    | none =>
      simp only [agentTimelineMutationForEvent, hcall] at h
      cases h
    | some call =>
      simp only [agentTimelineMutationForEvent, hcall] at h
      exact ⟨_, by simp only [eventItem, hcall, Option.map_some], moveMutation_spec rfl rfl h⟩
  | approvalDecided =>
    cases hcall : previous.pendingToolCall with
    | none =>
      simp only [agentTimelineMutationForEvent, hcall] at h
      cases h
    | some call =>
      simp only [agentTimelineMutationForEvent, hcall] at h
      exact ⟨_, by simp only [eventItem, hcall, Option.map_some], moveMutation_spec rfl rfl h⟩
  | modelRejected =>
    cases hfeedback : state.decisionFeedback with
    | none =>
      simp only [agentTimelineMutationForEvent, hfeedback] at h
      cases h
    | some feedback =>
      simp only [agentTimelineMutationForEvent, hfeedback] at h
      exact ⟨_, rfl, about_of_insert rfl (.inr rfl) h⟩

/-- **What an event does**, if it does not interrupt the run. -/
theorem event_spec {previous state : RuntimeState} {kind : EventKind}
    (h : WellFormed ctx before.items last) (hkind : kind ≠ .runInterrupted)
    (hok : persistAgentTimelineEvent ctx previous state kind (last + 1) before = .ok after) :
    ∃ id, eventItem previous state (last + 1) kind = some id ∧
      Moved ctx before.items after.items (last + 1) id (opensItem kind) := by
  obtain ⟨-, hok⟩ := refuse_eq_ok.mp hok
  rw [if_neg (fun hinterrupt ↦ hkind hinterrupt.1)] at hok
  obtain ⟨mutation, hmutation, hok⟩ := bind_eq_ok.mp hok
  obtain ⟨id, hid, habout⟩ := mutation_spec hmutation
  have hmoved := persist_spec h habout.event (by omega) hok
  simp only [habout.opened, Bool.decide_eq_true, habout.item] at hmoved
  exact ⟨id, hid, hmoved⟩

/-- Events that are each about the item `x` or add an item that is closed.  The flags say whether
`x` is in progress before and after them. -/
inductive Walk (previous state : RuntimeState) (replay : Option ToolCallDecision)
    (x : TimelineItemID) : List EventKind → Bool → Bool → Prop
  | nil (b : Bool) : Walk previous state replay x [] b b
  | aside {kind : EventKind} {rest : List EventKind} {b c : Bool} (hkind : kind ≠ .runInterrupted)
      (hclosed : opensItem kind = false)
      (hnew : ∀ sequence id, eventItem (agentRuntimeTransitionEventStates previous state replay
          kind).1 (agentRuntimeTransitionEventStates previous state replay kind).2 sequence kind =
        some id → sequenceOf id = some sequence)
      (hrest : Walk previous state replay x rest b c) :
      Walk previous state replay x (kind :: rest) b c
  | touch {kind : EventKind} {rest : List EventKind} {b c : Bool} (hkind : kind ≠ .runInterrupted)
      (hnames : ∀ sequence id, eventItem (agentRuntimeTransitionEventStates previous state replay
          kind).1 (agentRuntimeTransitionEventStates previous state replay kind).2 sequence kind =
        some id → id = x)
      (hrest : Walk previous state replay x rest (opensItem kind) c) :
      Walk previous state replay x (kind :: rest) b c

/-- An item that is named after its event was not there before, and its event closes it. -/
theorem Moved.aside {id : TimelineItemID} (h : WellFormed ctx items last)
    (hmoved : Moved ctx items after.items (last + 1) id false)
    (hid : sequenceOf id = some (last + 1)) (other : TimelineItemID) :
    InProgress after.items other ↔ InProgress items other := by
  by_cases hother : other = id
  · subst hother
    constructor
    · intro hnow
      cases hmoved.moved.mp hnow
    · intro hthen
      exact absurd hthen (h.not_inProgress hid (by omega))
  · exact hmoved.same other hother

/-- **The events of a walk.** -/
theorem walked {previous state : RuntimeState} {replay : Option ToolCallDecision}
    {x : TimelineItemID} {kinds : List EventKind} {b c : Bool}
    (hwalk : Walk previous state replay x kinds b c) (h : WellFormed ctx before.items last)
    (hx : InProgress before.items x ↔ b = true)
    (hok : persistAgentTimelineEvents ctx previous state replay kinds (last + 1) before =
      .ok after) : Moved ctx before.items after.items (last + kinds.length) x c := by
  induction hwalk generalizing before last with
  | nil b =>
    cases hok
    exact ⟨by simpa using h, fun _ _ ↦ Iff.rfl, hx⟩
  | @aside kind rest b c hkind hclosed hnew hrest ih =>
    obtain ⟨mid, hfirst, hok⟩ := bind_eq_ok.mp hok
    obtain ⟨id, hid, hmoved⟩ := event_spec h hkind hfirst
    rw [hclosed] at hmoved
    have hsame := hmoved.aside h (hnew _ _ hid)
    have hlater := ih hmoved.wellFormed ((hsame x).trans hx) hok
    rw [List.length_cons, Nat.cast_add_one, ← add_assoc, add_right_comm]
    exact ⟨hlater.wellFormed, fun other hother ↦ (hlater.same other hother).trans (hsame other),
      hlater.moved⟩
  | @touch kind rest b c hkind hnames hrest ih =>
    obtain ⟨mid, hfirst, hok⟩ := bind_eq_ok.mp hok
    obtain ⟨id, hid, hmoved⟩ := event_spec h hkind hfirst
    obtain rfl := hnames _ _ hid
    have hlater := ih hmoved.wellFormed hmoved.moved hok
    rw [List.length_cons, Nat.cast_add_one, ← add_assoc, add_right_comm]
    exact ⟨hlater.wellFormed,
      fun other hother ↦ (hlater.same other hother).trans (hmoved.same other hother), hlater.moved⟩

end HMaigc.AgentRuntime.Timelines
