import HMaigc.Js.Error
import HMaigc.LocalAgent.Consume

/-!
# The life of a turn

`canvas-agent/src/codex-thread.ts` and `codex-thread-store.ts`: a turn is stored as running, its
thread is opened by the SDK, and its events are consumed.  The store writes a record only if it
passes the schema.

* `Directory`, `directoryStore` — the store, with its schema.
* `openTurn`, `beginTurn`, `runTurn` — `#beginTurn`, and the consumption of what it returns.
* `Released` — no turn of the thread is running or active.
* `runTurn_released_iff` — exactly when a turn ends so.
-/

set_option autoImplicit false

namespace HMaigc

open Js

namespace LocalAgent

/-! ### The store and its schema -/

/-- The records, and how often they were written: the clock may go on in between. -/
structure Directory where
  records : List LocalCodexThreadRecord
  writes : ℕ

/-- What the store is given: the clock, the check of a timestamp, and the message of the error the
schema throws. -/
structure StoreContext where
  clock : ℕ → String
  isTimestamp : String → Bool
  schemaMessage : LocalCodexThreadRecord → String

def bounded (least most : ℕ) (text : String) : Bool :=
  least ≤ utf16Length text && utf16Length text ≤ most

/-- `identitySchema`. -/
def identitySchema : String → Bool :=
  bounded 1 240

/-- `isNormalizedCodexEvent`: of a typed event only the criteria are left to check. -/
def isNormalizedCodexEvent : NormalizedCodexEvent → Bool
  | .finalDecision _ _ decision => decision.expectedDelivery.completionCriteria ≠ []
  | _ => true

def attachmentSchema (attachment : TurnAttachment) : Bool :=
  bounded 1 240 attachment.name && bounded 1 255 attachment.mimeType

/-- `errorMessage` of a turn. -/
def failureSchema : String → Bool :=
  bounded 1 (8 * 1024)

def maxEvents : ℕ := 100000

def turnSchema (context : StoreContext) (turn : LocalCodexTurnRecord) : Bool :=
  identitySchema turn.turnId && bounded 1 (64 * 1024) turn.message &&
    turn.attachments.length ≤ 16 && turn.attachments.all attachmentSchema &&
    turn.events.length ≤ maxEvents && turn.events.all isNormalizedCodexEvent &&
    context.isTimestamp turn.createdAt && turn.completedAt.all context.isTimestamp &&
    turn.errorMessage.all failureSchema

def threadSchema (context : StoreContext) (record : LocalCodexThreadRecord) : Bool :=
  identitySchema record.threadId && record.sdkThreadId.all identitySchema &&
    identitySchema record.canvasId && bounded 1 4096 record.workspaceRoot &&
    bounded 1 240 record.model && context.isTimestamp record.createdAt &&
    context.isTimestamp record.updatedAt && record.archivedAt.all context.isTimestamp &&
    record.turns.length ≤ 10000 && record.turns.all (turnSchema context)

namespace Directory

def find (directory : Directory) (threadId : String) : Option LocalCodexThreadRecord :=
  directory.records.find? (·.threadId == threadId)

/-- A record takes the place of the one with its identifier. -/
def replace (directory : Directory) (record : LocalCodexThreadRecord) : Directory where
  records := directory.records.map fun other ↦
    if other.threadId = record.threadId then record else other
  writes := directory.writes + 1

end Directory

/-- `save`. -/
def saveThread (context : StoreContext) (record : LocalCodexThreadRecord) (directory : Directory) :
    Except String Unit × Directory :=
  if threadSchema context record = false then (.error (context.schemaMessage record), directory)
  else if (directory.find record.threadId).isNone then
    (.error "本机 Codex 线程不存在", directory)
  else (.ok (), directory.replace record)

def directoryStore (context : StoreContext) : CodexThreadStore Directory where
  now directory := context.clock directory.writes
  get threadId directory := (.ok (directory.find threadId), directory)
  save := saveThread context

/-! ### `#beginTurn` -/

/-- What the SDK does: the errors of creating a client and of opening the thread, and the stream of
events or the error of starting it.  An error is given by its message. -/
structure CodexSdk where
  creating : Option String := none
  opening : Option String := none
  runStreamed : Except String SdkStream

/-- What a turn is begun with. -/
structure TurnInput where
  turnId : String
  message : String
  attachments : List TurnAttachment
  resumeExisting : Bool
  ephemeral : Bool

section

variable {σ : Type} (store : CodexThreadStore σ) (parsing : Parsing)

/-- The check that a thread has no turn under way. -/
def isBusy (activeTurns : List ActiveTurn) (record : LocalCodexThreadRecord) : Bool :=
  record.turns.any (·.status == .running) ||
    activeTurns.any (·.threadId == record.threadId)

/-- The record of a turn that begins. -/
def runningTurn (input : TurnInput) (message createdAt : String) : LocalCodexTurnRecord where
  turnId := input.turnId
  status := .running
  message := message
  attachments := input.attachments
  events := []
  createdAt := createdAt

/-- `runningRecord`. -/
def LocalCodexThreadRecord.begin (record : LocalCodexThreadRecord) (turn : LocalCodexTurnRecord) :
    LocalCodexThreadRecord :=
  { record with
    updatedAt := turn.createdAt
    turns := record.turns ++ [turn] }

def activate (service : Service σ) (turn : ActiveTurn) : Service σ :=
  { service with
    activeTurns := service.activeTurns.filter (·.turnId != turn.turnId) ++ [turn] }

/-- The turn is stored and active. -/
def openTurn (record : LocalCodexThreadRecord) (input : TurnInput) (service : Service σ) :
    Except String Unit × Service σ :=
  let message := trim input.message
  if message = "" then (.error "Codex turn 消息不能为空", service)
  else if isBusy service.activeTurns record then (.error "本机 Codex 线程已有活动 turn", service)
  else if input.ephemeral then (.ok (), activate service ⟨input.turnId, record.threadId⟩)
  else
    let createdAt := store.now service.world
    match store.save (record.begin (runningTurn input message createdAt)) service.world with
    | (.error failure, world) => (.error failure, { service with world := world })
    | (.ok (), world) =>
      (.ok (), activate { service with world := world } ⟨input.turnId, record.threadId⟩)

/-- The turn is given to the SDK. -/
def startStream (record : LocalCodexThreadRecord) (input : TurnInput) (sdk : CodexSdk)
    (service : Service σ) : Except String SdkStream × Service σ :=
  match sdk.creating with
  | some failure => (.error failure, service)
  | none =>
    if input.resumeExisting ∧ record.sdkThreadId.getD "" = "" then
      (.error "SDK threadId 缺失", service)
    else
      match sdk.opening with
      | some failure => (.error failure, service)
      | none =>
        match sdk.runStreamed with
        | .ok stream => (.ok stream, service)
        | .error cause =>
          let activeTurns := service.activeTurns.filter (·.turnId != input.turnId)
          if input.ephemeral then
            (.error ("Codex turn 启动失败: " ++ cause), ⟨activeTurns, service.world⟩)
          else
            match finishTurn store record.threadId input.turnId .failed [] (some cause)
                service.world with
            | (.error failure, world) => (.error failure, ⟨activeTurns, world⟩)
            | (.ok (), world) =>
              (.error ("Codex turn 启动失败: " ++ cause), ⟨activeTurns, world⟩)

/-- `#beginTurn`. -/
def beginTurn (record : LocalCodexThreadRecord) (input : TurnInput) (sdk : CodexSdk)
    (service : Service σ) : Except String SdkStream × Service σ :=
  match openTurn store record input service with
  | (.error failure, service) => (.error failure, service)
  | (.ok (), service) => startStream store record input sdk service

/-- A turn is begun, and the stream it returns is consumed. -/
def runTurn (record : LocalCodexThreadRecord) (input : TurnInput) (sdk : CodexSdk)
    (service : Service σ) : Service σ :=
  match beginTurn store record input sdk service with
  | (.error _, service) => service
  | (.ok stream, service) =>
    (consumeEvents store parsing ⟨record.threadId, input.turnId, input.ephemeral⟩ stream
      service).1.service

end

/-! ### The end of a turn -/

/-- The turn is stored, and no turn of the thread is running or active: another may begin. -/
def Released (threadId turnId : String) (service : Service Directory) : Prop :=
  ∃ record, service.world.find threadId = some record ∧
    (∃ turn ∈ record.turns, turn.turnId = turnId) ∧
    isBusy service.activeTurns record = false

def ThreadEvent.failureMessage : ThreadEvent → Option String
  | .turnFailed message | .error message => some message
  | _ => none

/-- The failure an error that is caught is reported with. -/
def SdkStream.caught (stream : SdkStream) (message : String) : Option String :=
  if stream.aborted then none else some message

/-- A stream ends without a completed turn that was stored: the failure, unless the turn is
cancelled, and the number of events that are kept. -/
inductive ClosesWith (context : StoreContext) (parsing : Parsing) (turn : TurnIdentity)
    (stream : SdkStream) (start : Consumer Directory) : Option String → ℕ → Prop
  | early (c : Consumer Directory)
      (hadvance : advance (directoryStore context) parsing turn start stream.events = some c)
      (hending : stream.ending = none) :
      ClosesWith context parsing turn stream start (some "Codex 事件流在终态事件前结束")
        (stream.events.length + 1)
  | raised (c : Consumer Directory) (message : String)
      (hadvance : advance (directoryStore context) parsing turn start stream.events = some c)
      (hending : stream.ending = some message) :
      ClosesWith context parsing turn stream start (stream.caught message)
        (stream.events.length + 1)
  | failed (before : List ThreadEvent) (event : ThreadEvent) (rest : List ThreadEvent)
      (c c' : Consumer Directory) (message : String)
      (hbreaks : BreaksAt (directoryStore context) parsing turn stream.events start before event
        rest c c')
      (hmessage : event.failureMessage = some message) (hclosing : stream.closing = none) :
      ClosesWith context parsing turn stream start (some message) (before.length + 1)
  | failedTwice (before : List ThreadEvent) (event : ThreadEvent) (rest : List ThreadEvent)
      (c c' : Consumer Directory) (first message : String)
      (hbreaks : BreaksAt (directoryStore context) parsing turn stream.events start before event
        rest c c')
      (hfirst : event.failureMessage = some first) (hclosing : stream.closing = some message) :
      ClosesWith context parsing turn stream start (stream.caught message) (before.length + 2)
  | thrown (before : List ThreadEvent) (event : ThreadEvent) (rest : List ThreadEvent)
      (c c' : Consumer Directory) (message : String)
      (hevents : stream.events = before ++ event :: rest)
      (hadvance : advance (directoryStore context) parsing turn start before = some c)
      (hthrows : consumeEvent (directoryStore context) parsing turn c event = .throws c' message) :
      ClosesWith context parsing turn stream start (stream.caught message)
        (c'.normalizedEvents.length + 1)

/-! ### Writing a record -/

section

variable {context : StoreContext}

theorem threadId_find {directory : Directory} {threadId : String}
    {record : LocalCodexThreadRecord} (h : directory.find threadId = some record) :
    record.threadId = threadId := by
  simpa using List.find?_some h

theorem find_replace {directory : Directory} {record stored : LocalCodexThreadRecord}
    (h : directory.find record.threadId = some stored) :
    (directory.replace record).find record.threadId = some record := by
  have hsame : ((·.threadId == record.threadId) ∘ fun other : LocalCodexThreadRecord ↦
      if other.threadId = record.threadId then record else other) =
        (·.threadId == record.threadId) := by
    funext other
    by_cases heq : other.threadId = record.threadId <;> simp [heq]
  have hid := threadId_find h
  rw [Directory.find] at h
  rw [Directory.find, Directory.replace, List.find?_map, hsame]
  rw [h, Option.map_some, if_pos hid]

/-- A record that is stored and passes the schema. -/
structure Stored (context : StoreContext) (threadId : String) (turns : List LocalCodexTurnRecord)
    (directory : Directory) : Prop where
  found : ∃ record, directory.find threadId = some record ∧ threadSchema context record = true ∧
    record.turns = turns

theorem saveThread_eq {directory : Directory} {record stored : LocalCodexThreadRecord}
    (h : directory.find record.threadId = some stored) :
    saveThread context record directory =
      if threadSchema context record = true then (.ok (), directory.replace record)
      else (.error (context.schemaMessage record), directory) := by
  rw [saveThread, h]
  cases threadSchema context record <;> rfl

/-- Writing the SDK's identifier leaves the turns. -/
theorem Stored.normalizeEvent {directory : Directory} {turn : TurnIdentity}
    {turns : List LocalCodexTurnRecord} (h : Stored context turn.threadId turns directory)
    (event : ThreadEvent) : Stored context turn.threadId turns
      (LocalAgent.normalizeEvent (directoryStore context) turn event directory).2 := by
  obtain ⟨record, hfind, hschema, hturns⟩ := h.found
  cases event with
  | threadStarted sdkThreadId =>
    have hid := threadId_find hfind
    rw [LocalAgent.normalizeEvent, normalizeThreadStarted, requireThread]
    simp only [directoryStore, hfind]
    split_ifs
    · exact h
    · exact h
    · generalize hwritten : { record with
        sdkThreadId := some sdkThreadId
        updatedAt := context.clock directory.writes } = written
      have hthread : written.threadId = turn.threadId := by rw [← hwritten, ← hid]
      have hsame : written.turns = turns := by rw [← hwritten, ← hturns]
      rw [← hthread] at hfind
      rw [saveThread_eq hfind]
      split_ifs with hvalid
      · exact ⟨_, hthread ▸ find_replace hfind, hvalid, hsame⟩
      · exact h
  | turnStarted | itemStarted _ | itemUpdated _ | itemCompleted _ | turnCompleted _ | turnFailed _
  | error _ => exact h

/-- The turn as it is finished passes, if its failure and its events do. -/
theorem turnSchema_finishedTurn {turn : LocalCodexTurnRecord} {status : TurnStatus}
    {events : List NormalizedCodexEvent} {failure : Option String} {completedAt : String}
    (h : turnSchema context turn = true) (hclock : context.isTimestamp completedAt = true)
    (hevents : events.all isNormalizedCodexEvent = true) :
    turnSchema context (finishedTurn turn.turnId status events failure completedAt turn) =
      (decide (events.length ≤ maxEvents) && failure.all failureSchema) := by
  simp only [turnSchema, Bool.and_eq_true] at h
  obtain ⟨⟨⟨⟨⟨⟨⟨⟨hid, hmessage⟩, hcount⟩, hattachments⟩, -⟩, -⟩, hcreated⟩, -⟩, hfailure⟩ := h
  simp only [turnSchema, finishedTurn, ne_eq, not_true_eq_false, if_false, hid, hmessage, hcount,
    hattachments, hevents, hcreated, Option.all_some, hclock, Bool.true_and, Bool.and_true]
  cases failure with
  | none => simp only [hfailure, Option.all_none]
  | some message => rfl

theorem finishedTurn_of_ne {turnId : String} {turn : LocalCodexTurnRecord} {status : TurnStatus}
    {events : List NormalizedCodexEvent} {failure : Option String} {completedAt : String}
    (h : turn.turnId ≠ turnId) :
    finishedTurn turnId status events failure completedAt turn = turn := by
  simp only [finishedTurn, ne_eq, h, not_false_eq_true, if_true]

/-- The record with the turn finished passes, if the failure and the events do. -/
theorem threadSchema_finished {record : LocalCodexThreadRecord} {turnId : String}
    (status : TurnStatus) {events : List NormalizedCodexEvent} (failure : Option String)
    {completedAt : String} (h : threadSchema context record = true)
    (hclock : context.isTimestamp completedAt = true)
    (hevents : events.all isNormalizedCodexEvent = true)
    (hturn : ∃ turn ∈ record.turns, turn.turnId = turnId) :
    threadSchema context { record with
      turns := record.turns.map (finishedTurn turnId status events failure completedAt)
      updatedAt := completedAt } =
      (decide (events.length ≤ maxEvents) && failure.all failureSchema) := by
  simp only [threadSchema, Bool.and_eq_true] at h
  obtain ⟨⟨⟨⟨⟨⟨⟨⟨⟨hid, hsdk⟩, hcanvas⟩, hroot⟩, hmodel⟩, hcreated⟩, -⟩, harchived⟩, hcount⟩,
    hall⟩ := h
  have hturns : (record.turns.map (finishedTurn turnId status events failure completedAt)).all
      (turnSchema context) =
      (decide (events.length ≤ maxEvents) && failure.all failureSchema) := by
    rw [Bool.eq_iff_iff, List.all_eq_true]
    constructor
    · intro hpass
      obtain ⟨turn, hmem, rfl⟩ := hturn
      rw [← turnSchema_finishedTurn (List.all_eq_true.mp hall turn hmem) hclock hevents]
      exact hpass _ (List.mem_map_of_mem hmem)
    · intro hpass other hother
      obtain ⟨turn, hmem, rfl⟩ := List.mem_map.mp hother
      by_cases heq : turn.turnId = turnId
      · rw [← heq, turnSchema_finishedTurn (List.all_eq_true.mp hall turn hmem) hclock hevents,
          hpass]
      · rw [finishedTurn_of_ne heq]
        exact List.all_eq_true.mp hall turn hmem
  simp only [threadSchema, hid, hsdk, hcanvas, hroot, hmodel, hcreated, hclock, harchived,
    List.length_map, hcount, hturns, Bool.true_and]

/-- What is written of a turn can be stored. -/
def Storable (failure : Option String) (count : ℕ) : Prop :=
  count ≤ maxEvents ∧ failure.all failureSchema = true

/-- A turn is finished in the store, or nothing is written. -/
theorem finishTurn_spec {threadId turnId : String} {turns : List LocalCodexTurnRecord}
    {directory : Directory} (status : TurnStatus) {events : List NormalizedCodexEvent}
    (failure : Option String) (h : Stored context threadId turns directory)
    (hclock : ∀ n, context.isTimestamp (context.clock n) = true)
    (hevents : events.all isNormalizedCodexEvent = true)
    (hturn : ∃ turn ∈ turns, turn.turnId = turnId) :
    (Storable failure events.length → ∃ directory' completedAt,
      finishTurn (directoryStore context) threadId turnId status events failure directory =
        (.ok (), directory') ∧
      Stored context threadId
        (turns.map (finishedTurn turnId status events failure completedAt)) directory') ∧
    (¬ Storable failure events.length → ∃ message,
      finishTurn (directoryStore context) threadId turnId status events failure directory =
        (.error message, directory)) := by
  obtain ⟨record, hfind, hschema, rfl⟩ := h.found
  have hfinished := threadSchema_finished status failure hschema
    (hclock directory.writes) hevents hturn
  have hstorable : Storable failure events.length ↔
      (decide (events.length ≤ maxEvents) && failure.all failureSchema) = true := by
    rw [Storable, Bool.and_eq_true, decide_eq_true_iff]
  have hthread := threadId_find hfind
  rw [finishTurn, requireThread]
  simp only [directoryStore, hfind]
  generalize hwritten : { record with
    turns := record.turns.map
      (finishedTurn turnId status events failure (context.clock directory.writes))
    updatedAt := context.clock directory.writes } = written at hfinished ⊢
  have hthread' : written.threadId = threadId := by rw [← hwritten, ← hthread]
  have hturns : written.turns = record.turns.map
      (finishedTurn turnId status events failure (context.clock directory.writes)) := by
    rw [← hwritten]
  rw [← hthread'] at hfind
  rw [saveThread_eq hfind, hfinished, hstorable]
  constructor
  · intro hpass
    rw [if_pos hpass]
    exact ⟨_, _, rfl, written, hthread' ▸ find_replace hfind, by rw [hfinished, hpass], hturns⟩
  · intro hpass
    rw [if_neg hpass]
    exact ⟨_, rfl⟩

/-! ### What the consumer keeps -/

theorem status_ne_running (last : Option NormalizedCodexEvent) :
    NormalizedCodexEvent.status last ≠ .running := by
  unfold NormalizedCodexEvent.status
  split <;> exact fun h ↦ by cases h

/-- The other turns of a thread are not running, and this one is stored. -/
structure Begun (turn : TurnIdentity) (turns : List LocalCodexTurnRecord) : Prop where
  persistent : turn.ephemeral = false
  running : ∃ stored ∈ turns, stored.turnId = turn.turnId ∧ stored.status = .running
  idle : ∀ stored ∈ turns, stored.turnId ≠ turn.turnId → stored.status ≠ .running

/-- Until the turn is finished, it is stored as it began; what is kept of it can be written, and no
other turn of the thread is active. -/
structure Consumer.Keeps (context : StoreContext) (turn : TurnIdentity)
    (turns : List LocalCodexTurnRecord) (c : Consumer Directory) : Prop where
  valid : c.normalizedEvents.all isNormalizedCodexEvent = true
  pending : ∀ decision, c.pendingFinalDecision = some decision →
    decision.expectedDelivery.completionCriteria ≠ []
  others : ∀ active ∈ c.service.activeTurns, active.turnId ≠ turn.turnId →
    active.threadId ≠ turn.threadId
  stored : Stored context turn.threadId turns c.service.world

variable {turn : TurnIdentity} {turns : List LocalCodexTurnRecord} {parsing : Parsing}

theorem released_of_finished (hbegun : Begun turn turns) {directory : Directory}
    {activeTurns : List ActiveTurn} {status : TurnStatus} {events : List NormalizedCodexEvent}
    {failure : Option String} {completedAt : String}
    (hstored : Stored context turn.threadId
      (turns.map (finishedTurn turn.turnId status events failure completedAt)) directory)
    (hstatus : status ≠ .running)
    (hothers : ∀ active ∈ activeTurns, active.turnId ≠ turn.turnId →
      active.threadId ≠ turn.threadId) :
    Released turn.threadId turn.turnId
      ⟨activeTurns.filter (·.turnId != turn.turnId), directory⟩ := by
  obtain ⟨record, hfind, -, hturns⟩ := hstored.found
  obtain ⟨stored, hmem, hid, -⟩ := hbegun.running
  refine ⟨record, hfind, ⟨_, hturns ▸ List.mem_map_of_mem hmem, ?_⟩, ?_⟩
  · simp [finishedTurn, hid]
  · rw [isBusy, Bool.or_eq_false_iff, List.any_eq_false, List.any_eq_false]
    constructor
    · intro finished hfinished
      rw [hturns] at hfinished
      obtain ⟨other, hother, rfl⟩ := List.mem_map.mp hfinished
      by_cases hsame : other.turnId = turn.turnId
      · simpa [finishedTurn, hsame] using hstatus
      · rw [finishedTurn_of_ne hsame]
        simpa using hbegun.idle other hother hsame
    · intro active hactive
      obtain ⟨hactive, hne⟩ := List.mem_filter.mp hactive
      rw [threadId_find hfind]
      simpa using hothers active hactive (by simpa using hne)

theorem not_released_of_stored (hbegun : Begun turn turns) {directory : Directory}
    {activeTurns : List ActiveTurn} (hstored : Stored context turn.threadId turns directory) :
    ¬ Released turn.threadId turn.turnId ⟨activeTurns, directory⟩ := by
  rintro ⟨record, hfind, -, hidle⟩
  obtain ⟨record', hfind', -, rfl⟩ := hstored.found
  rw [hfind, Option.some.injEq] at hfind'
  subst hfind'
  obtain ⟨stored, hmem, -, hrunning⟩ := hbegun.running
  rw [isBusy, Bool.or_eq_false_iff, List.any_eq_false] at hidle
  exact hidle.1 stored hmem (by rw [hrunning, beq_self_eq_true])

/-- The turn is finished with its events: it is released, or all is left as it was. -/
theorem finalizeConsumedTurn_spec (hbegun : Begun turn turns)
    (hclock : ∀ n, context.isTimestamp (context.clock n) = true)
    {events : List NormalizedCodexEvent} (hevents : events.all isNormalizedCodexEvent = true)
    {service : Service Directory}
    (hothers : ∀ active ∈ service.activeTurns, active.turnId ≠ turn.turnId →
      active.threadId ≠ turn.threadId)
    (hstored : Stored context turn.threadId turns service.world) :
    (Storable (NormalizedCodexEvent.failure events.getLast?) events.length → ∃ service',
      finalizeConsumedTurn (directoryStore context) turn events service = (.ok (), service') ∧
      Released turn.threadId turn.turnId service') ∧
    (¬ Storable (NormalizedCodexEvent.failure events.getLast?) events.length → ∃ message,
      finalizeConsumedTurn (directoryStore context) turn events service =
        (.error message,
          ⟨service.activeTurns.filter (·.turnId != turn.turnId), service.world⟩)) := by
  obtain ⟨stored, hmem, hid, -⟩ := hbegun.running
  obtain ⟨hpass, hfail⟩ := finishTurn_spec (NormalizedCodexEvent.status events.getLast?)
    (NormalizedCodexEvent.failure events.getLast?) hstored hclock hevents
    ⟨stored, hmem, hid⟩
  rw [finalizeConsumedTurn, if_neg (by simp [hbegun.persistent])]
  constructor
  · intro hstorable
    obtain ⟨directory, completedAt, hfinish, hfinished⟩ := hpass hstorable
    rw [hfinish]
    exact ⟨_, rfl, released_of_finished hbegun hfinished (status_ne_running _) hothers⟩
  · intro hstorable
    obtain ⟨message, hfinish⟩ := hfail hstorable
    rw [hfinish]
    exact ⟨message, rfl⟩

/-! ### Consuming with the store -/

theorem Consumer.Keeps.emit {c : Consumer Directory} (h : c.Keeps context turn turns)
    {event : NormalizedCodexEvent} (hvalid : isNormalizedCodexEvent event = true) :
    (c.emit event).Keeps context turn turns := by
  refine ⟨?_, h.pending, h.others, h.stored⟩
  rw [Consumer.emit, List.all_append, h.valid, Bool.true_and, List.all_cons, hvalid]
  rfl

theorem Consumer.Keeps.noteTool {c : Consumer Directory} (h : c.Keeps context turn turns)
    (event : ThreadEvent) : (c.noteTool event).Keeps context turn turns := by
  obtain ⟨-, -, -, hservice, hevents⟩ := noteTool_yields c event
  refine ⟨hevents ▸ h.valid, ?_, hservice ▸ h.others, hservice ▸ h.stored⟩
  exact fun decision hdecides ↦ h.pending decision (pending_noteTool hdecides).1

/-- What is passed on is no decision, so that it can be written. -/
theorem isNormalizedCodexEvent_of_not_decision {event : NormalizedCodexEvent}
    (h : event.isDecision = false) : isNormalizedCodexEvent event = true := by
  cases event <;> first | rfl | cases h

theorem failureMessage_of_normalizeEvent {event : ThreadEvent} {world world' : Directory}
    {threadId turnId message : String} {origin : Option ThreadEvent}
    (h : normalizeEvent (directoryStore context) turn event world =
      (.ok (.turnFailed threadId turnId message origin), world')) :
    event.failureMessage = some message := by
  cases event with
  | threadStarted sdkThreadId => cases normalizeThreadStarted_eq_ok h
  | turnFailed failure => cases h; rfl
  | error failure => cases h; rfl
  | turnStarted | itemStarted _ | itemUpdated _ | itemCompleted _ | turnCompleted _ => cases h

/-- Events that are passed on. -/
theorem Consumer.Keeps.passOn {c : Consumer Directory} (h : c.Keeps context turn turns)
    (event : ThreadEvent) :
    (∃ c' message, LocalAgent.passOn (directoryStore context) turn c event = .throws c' message ∧
      c'.Keeps context turn turns ∧ c'.finalized = c.finalized) ∨
    (∃ c' threadId turnId message origin,
      LocalAgent.passOn (directoryStore context) turn c event = .breaks c' ∧
      c'.Keeps context turn turns ∧ c'.finalized = c.finalized ∧
      event.failureMessage = some message ∧
      c'.normalizedEvents = c.normalizedEvents ++ [.turnFailed threadId turnId message origin]) ∨
    ∃ c', LocalAgent.passOn (directoryStore context) turn c event = .goesOn c' ∧
      c'.Keeps context turn turns ∧
      c'.normalizedEvents.length = c.normalizedEvents.length + 1 := by
  have hstored := h.stored.normalizeEvent event
  rw [LocalAgent.passOn]
  rcases hnormal : LocalAgent.normalizeEvent (directoryStore context) turn event c.service.world
    with ⟨_ | normalized, world⟩
  · rw [hnormal] at hstored
    exact Or.inl ⟨_, _, rfl, ⟨h.valid, h.pending, h.others, hstored⟩, rfl⟩
  · rw [hnormal] at hstored
    have hpassed : ({ c with service := ⟨c.service.activeTurns, world⟩ } : Consumer Directory).Keeps
        context turn turns := ⟨h.valid, h.pending, h.others, hstored⟩
    have hemitted := hpassed.emit
      (isNormalizedCodexEvent_of_not_decision (normalizeEvent_eq_ok hnormal).1)
    right
    cases normalized with
    | turnFailed threadId turnId message origin =>
      exact Or.inl ⟨_, threadId, turnId, message, origin, rfl,
        ⟨hemitted.valid, hemitted.pending, hemitted.others, hemitted.stored⟩, rfl,
        failureMessage_of_normalizeEvent hnormal, rfl⟩
    | threadStarted | turnStarted | itemStarted | itemUpdated | itemCompleted | finalDecision
    | turnCompleted | turnCancelled =>
      exact Or.inr ⟨_, rfl,
        ⟨hemitted.valid, hemitted.pending, hemitted.others, hemitted.stored⟩,
        by simp [Consumer.emit]⟩

variable (parsing) in
theorem Consumer.Keeps.agentMessage {c : Consumer Directory} (h : c.Keeps context turn turns)
    (event : ThreadEvent) (text : String) :
    (∃ message, LocalAgent.agentMessage parsing turn c event text = .throws c message) ∨
    ∃ c', LocalAgent.agentMessage parsing turn c event text = .goesOn c' ∧
      c'.Keeps context turn turns ∧
      c'.normalizedEvents.length = c.normalizedEvents.length + 1 := by
  rcases agentMessage_cases parsing turn c event text with
    ⟨message, heq⟩ | ⟨-, decision, hparse, heq⟩ | ⟨-, heq⟩
  · exact Or.inl ⟨message, heq⟩
  · have hdecided : ({ c with pendingFinalDecision := some decision } : Consumer Directory).Keeps
        context turn turns := by
      refine ⟨h.valid, fun other hother ↦ ?_, h.others, h.stored⟩
      cases hother
      exact completionCriteria_ne_nil hparse
    exact Or.inr ⟨_, heq, hdecided.emit rfl, by simp [Consumer.emit]⟩
  · exact Or.inr ⟨_, heq, h.emit rfl, by simp [Consumer.emit]⟩

/-- A turn that completes is released, or it is left as it began with too many events. -/
theorem Consumer.Keeps.turnCompletes {c : Consumer Directory} (h : c.Keeps context turn turns)
    (hbegun : Begun turn turns) (hclock : ∀ n, context.isTimestamp (context.clock n) = true)
    (event : ThreadEvent) :
    (∃ c' message, LocalAgent.turnCompletes (directoryStore context) turn c event =
        .throws c' message ∧ c'.Keeps context turn turns ∧ c'.finalized = c.finalized) ∨
    ∃ c', LocalAgent.turnCompletes (directoryStore context) turn c event = .breaks c' ∧
      c'.finalized = true ∧ Released turn.threadId turn.turnId c'.service := by
  rw [LocalAgent.turnCompletes]
  by_cases hactive : c.activeMcpToolCallIds = []
  · rw [if_neg (not_not.mpr hactive)]
    cases hpending : c.pendingFinalDecision with
    | none => exact Or.inl ⟨c, _, rfl, h, rfl⟩
    | some decision =>
      have hcriteria : isNormalizedCodexEvent
          (.finalDecision turn.threadId turn.turnId decision) = true :=
        decide_eq_true (h.pending decision hpending)
      have hcompleted : isNormalizedCodexEvent
          (.turnCompleted turn.threadId turn.turnId event) = true := rfl
      have hkept := (h.emit hcriteria).emit hcompleted
      obtain ⟨hpass, hfail⟩ := finalizeConsumedTurn_spec hbegun hclock hkept.valid hkept.others
        hkept.stored
      by_cases hstorable : Storable (NormalizedCodexEvent.failure
          ((c.emit (.finalDecision turn.threadId turn.turnId decision)).emit
            (.turnCompleted turn.threadId turn.turnId event)).normalizedEvents.getLast?)
          ((c.emit (.finalDecision turn.threadId turn.turnId decision)).emit
            (.turnCompleted turn.threadId turn.turnId event)).normalizedEvents.length
      · obtain ⟨service, hfinal, hreleased⟩ := hpass hstorable
        simp only [Consumer.emit] at hfinal ⊢
        rw [hfinal]
        exact Or.inr ⟨_, rfl, rfl, hreleased⟩
      · obtain ⟨message, hfinal⟩ := hfail hstorable
        simp only [Consumer.emit] at hfinal ⊢
        rw [hfinal]
        refine Or.inl ⟨_, message, rfl, ⟨hkept.valid, fun other hother ↦ h.pending other hother,
          fun active hactive ↦ h.others active (List.mem_filter.mp hactive).1, h.stored⟩, rfl⟩
  · rw [if_pos hactive]
    exact Or.inl ⟨c, _, rfl, h, rfl⟩

variable (parsing) in
/-- **What one event leaves.** -/
theorem Consumer.Keeps.consumeEvent {c : Consumer Directory} (h : c.Keeps context turn turns)
    (hbegun : Begun turn turns) (hclock : ∀ n, context.isTimestamp (context.clock n) = true)
    (event : ThreadEvent) :
    (∃ c' message, LocalAgent.consumeEvent (directoryStore context) parsing turn c event =
        .throws c' message ∧ c'.Keeps context turn turns ∧ c'.finalized = c.finalized) ∨
    (∃ c', LocalAgent.consumeEvent (directoryStore context) parsing turn c event = .breaks c' ∧
      event.failureMessage = none ∧ c'.finalized = true ∧
      Released turn.threadId turn.turnId c'.service) ∨
    (∃ c' threadId turnId message origin,
      LocalAgent.consumeEvent (directoryStore context) parsing turn c event = .breaks c' ∧
      c'.Keeps context turn turns ∧ c'.finalized = c.finalized ∧
      event.failureMessage = some message ∧
      c'.normalizedEvents = c.normalizedEvents ++ [.turnFailed threadId turnId message origin]) ∨
    ∃ c', LocalAgent.consumeEvent (directoryStore context) parsing turn c event = .goesOn c' ∧
      c'.Keeps context turn turns ∧
      c'.normalizedEvents.length = c.normalizedEvents.length + 1 := by
  obtain ⟨-, hfinalized, -, -, hevents⟩ := noteTool_yields c event
  rcases consumeEvent_eq (directoryStore context) parsing turn c event with
    ⟨_, text, -, heq⟩ | ⟨hcompleted, heq⟩ | ⟨-, -, heq⟩
  · rw [heq]
    rcases h.agentMessage parsing event text with ⟨message, hcase⟩ | hcase
    · exact Or.inl ⟨c, message, hcase, h, rfl⟩
    · exact Or.inr (Or.inr (Or.inr hcase))
  · rw [heq]
    rcases h.turnCompletes hbegun hclock event with hcase | ⟨c', hcase, hdone, hreleased⟩
    · exact Or.inl hcase
    · refine Or.inr (Or.inl ⟨c', hcase, ?_, hdone, hreleased⟩)
      cases event <;> first | rfl | cases hcompleted
  · rw [heq]
    rcases (h.noteTool event).passOn event with ⟨c', message, hcase, hkeeps, hdone⟩ |
      ⟨c', threadId, turnId, message, origin, hcase, hkeeps, hdone, hfailure, hlast⟩ |
      ⟨c', hcase, hkeeps, hlength⟩
    · exact Or.inl ⟨c', message, hcase, hkeeps, hdone.trans hfinalized⟩
    · exact Or.inr (Or.inr (Or.inl ⟨c', threadId, turnId, message, origin, hcase, hkeeps,
        hdone.trans hfinalized, hfailure, by rw [hlast, hevents]⟩))
    · exact Or.inr (Or.inr (Or.inr ⟨c', hcase, hkeeps, by rw [hlength, hevents]⟩))

theorem Consumer.Keeps.advance {c c' : Consumer Directory} (h : c.Keeps context turn turns)
    (hbegun : Begun turn turns) (hclock : ∀ n, context.isTimestamp (context.clock n) = true)
    {events : List ThreadEvent}
    (hadvance : LocalAgent.advance (directoryStore context) parsing turn c events = some c') :
    c'.Keeps context turn turns ∧
      c'.normalizedEvents.length = c.normalizedEvents.length + events.length := by
  induction events generalizing c with
  | nil =>
    rw [LocalAgent.advance, Option.some.injEq] at hadvance
    subst hadvance
    exact ⟨h, rfl⟩
  | cons event rest ih =>
    rw [LocalAgent.advance] at hadvance
    rcases h.consumeEvent parsing hbegun hclock event with
      ⟨_, _, hcase, -⟩ | ⟨_, hcase, -⟩ | ⟨_, _, _, _, _, hcase, -⟩ | ⟨c₁, hcase, hkeeps, hlength⟩
    all_goals rw [hcase] at hadvance
    · cases hadvance
    · cases hadvance
    · cases hadvance
    · obtain ⟨hlast, hcount⟩ := ih hkeeps hadvance
      refine ⟨hlast, ?_⟩
      rw [hcount, hlength, List.length_cons]
      omega

/-! ### The end of the stream -/

/-- The last event of a stream that was not finished in the loop. -/
theorem Consumer.Keeps.close {c : Consumer Directory} (h : c.Keeps context turn turns)
    (hbegun : Begun turn turns) (hclock : ∀ n, context.isTimestamp (context.clock n) = true)
    {failure : Option String}
    (hfailure : NormalizedCodexEvent.failure c.normalizedEvents.getLast? = failure) :
    (∃ outcome, finalizeConsumedTurn (directoryStore context) turn c.normalizedEvents c.service =
      outcome ∧ (Released turn.threadId turn.turnId outcome.2 ↔
        Storable failure c.normalizedEvents.length)) := by
  obtain ⟨hpass, hfail⟩ := finalizeConsumedTurn_spec hbegun hclock h.valid h.others h.stored
  rw [hfailure] at hpass hfail
  by_cases hstorable : Storable failure c.normalizedEvents.length
  · obtain ⟨service, hfinal, hreleased⟩ := hpass hstorable
    exact ⟨_, hfinal, iff_of_true hreleased hstorable⟩
  · obtain ⟨message, hfinal⟩ := hfail hstorable
    exact ⟨_, hfinal, iff_of_false (not_released_of_stored hbegun h.stored) hstorable⟩

theorem consumeLoop_of_advance (stream : SdkStream) {c c' : Consumer Directory}
    {before : List ThreadEvent}
    (h : advance (directoryStore context) parsing turn c before = some c')
    (rest : List ThreadEvent) :
    consumeLoop (directoryStore context) parsing turn stream c (before ++ rest) =
      consumeLoop (directoryStore context) parsing turn stream c' rest := by
  induction before generalizing c with
  | nil =>
    rw [advance, Option.some.injEq] at h
    rw [h, List.nil_append]
  | cons event before ih =>
    rw [advance] at h
    rw [List.cons_append, consumeLoop]
    cases hevent : LocalAgent.consumeEvent (directoryStore context) parsing turn c event with
    | goesOn c₁ =>
      rw [hevent] at h
      exact ih h
    | breaks c₁ =>
      rw [hevent] at h
      cases h
    | throws c₁ message =>
      rw [hevent] at h
      cases h

theorem Consumer.Keeps.caught {c : Consumer Directory} (h : c.Keeps context turn turns)
    (stream : SdkStream) (message : String) :
    (afterLoop turn stream c (some message)).Keeps context turn turns ∧
      (afterLoop turn stream c (some message)).finalized = c.finalized ∧
      NormalizedCodexEvent.failure
        (afterLoop turn stream c (some message)).normalizedEvents.getLast? =
          stream.caught message ∧
      (afterLoop turn stream c (some message)).normalizedEvents.length =
        c.normalizedEvents.length + 1 := by
  rw [afterLoop, SdkStream.caught]
  split
  · exact ⟨h.emit rfl, rfl, by simp [Consumer.emit, NormalizedCodexEvent.failure],
      by simp [Consumer.emit]⟩
  · exact ⟨h.emit rfl, rfl, by simp [Consumer.emit, NormalizedCodexEvent.failure],
      by simp [Consumer.emit]⟩

/-- The generator at its `finally`. -/
def closed (context : StoreContext) (parsing : Parsing) (turn : TurnIdentity)
    (stream : SdkStream) (service : Service Directory) : Consumer Directory :=
  afterLoop turn stream
    (consumeLoop (directoryStore context) parsing turn stream { service := service }
      stream.events).1
    (consumeLoop (directoryStore context) parsing turn stream { service := service }
      stream.events).2

theorem closed_eq {stream : SdkStream} {service : Service Directory} {c : Consumer Directory}
    {thrown : Option String}
    (h : consumeLoop (directoryStore context) parsing turn stream { service := service }
      stream.events = (c, thrown)) :
    closed context parsing turn stream service = afterLoop turn stream c thrown := by
  rw [closed, h]

variable {stream : SdkStream} {service : Service Directory}

/-- A failure of the SDK breaks out of the loop with that failure. -/
theorem Consumer.Keeps.failed (hbegun : Begun turn turns)
    (hclock : ∀ n, context.isTimestamp (context.clock n) = true)
    (hstart : ({ service := service } : Consumer Directory).Keeps context turn turns)
    {before rest : List ThreadEvent} {event : ThreadEvent} {c c' : Consumer Directory}
    {message : String}
    (hbreaks : BreaksAt (directoryStore context) parsing turn stream.events
      { service := service } before event rest c c')
    (hmessage : event.failureMessage = some message) :
    c'.Keeps context turn turns ∧ c'.terminal = true ∧ c'.finalized = false ∧
      NormalizedCodexEvent.failure c'.normalizedEvents.getLast? = some message ∧
      c'.normalizedEvents.length = before.length + 1 := by
  obtain ⟨hkeeps, hlength⟩ := hstart.advance hbegun hclock hbreaks.advance
  have hknows := (Consumer.knows_start service).advance hbreaks.advance
  have hterminal := (consumeEvent_breaks hbreaks.breaks).1
  rcases hkeeps.consumeEvent parsing hbegun hclock event with ⟨_, _, hcase, -⟩ |
      ⟨_, hcase, hnone, -⟩ | ⟨c₁, _, _, message', _, hcase, hkept, hfinalized, hsome, hlast⟩ |
      ⟨_, hcase, -⟩
  · rw [hbreaks.breaks] at hcase
    cases hcase
  · rw [hmessage] at hnone
    cases hnone
  · rw [hbreaks.breaks] at hcase
    cases hcase
    rw [hmessage, Option.some.injEq] at hsome
    subst hsome
    refine ⟨hkept, hterminal, by rw [hfinalized, hknows.finalized], ?_, ?_⟩
    · rw [hlast]
      simp [NormalizedCodexEvent.failure]
    · rw [hlast, List.length_append, hlength]
      simp
  · rw [hbreaks.breaks] at hcase
    cases hcase

theorem BreaksAt.consumeLoop {before rest : List ThreadEvent} {event : ThreadEvent}
    {c c' : Consumer Directory}
    (h : BreaksAt (directoryStore context) parsing turn stream.events { service := service } before
      event rest c c') :
    LocalAgent.consumeLoop (directoryStore context) parsing turn stream { service := service }
      stream.events = (c', stream.closing) := by
  conv_lhs => rw [h.events]
  rw [consumeLoop_of_advance stream h.advance, LocalAgent.consumeLoop, h.breaks]

/-- How a stream closes is what the generator holds in the end. -/
theorem ClosesWith.closed {failure : Option String} {count : ℕ}
    (h : ClosesWith context parsing turn stream { service := service } failure count)
    (hbegun : Begun turn turns) (hclock : ∀ n, context.isTimestamp (context.clock n) = true)
    (hstart : ({ service := service } : Consumer Directory).Keeps context turn turns) :
    (LocalAgent.closed context parsing turn stream service).Keeps context turn turns ∧
      (LocalAgent.closed context parsing turn stream service).finalized = false ∧
      NormalizedCodexEvent.failure
        (LocalAgent.closed context parsing turn stream service).normalizedEvents.getLast? =
          failure ∧
      (LocalAgent.closed context parsing turn stream service).normalizedEvents.length = count := by
  cases h with
  | early c hadvance hending =>
    obtain ⟨hkeeps, hlength⟩ := hstart.advance hbegun hclock hadvance
    have hknows := (Consumer.knows_start service).advance hadvance
    have hloop := consumeLoop_of_advance stream hadvance []
    rw [List.append_nil, consumeLoop, hending] at hloop
    rw [closed_eq hloop, afterLoop, hknows.terminal]
    refine ⟨hkeeps.emit rfl, hknows.finalized, ?_, ?_⟩
    · simp [Consumer.emit, NormalizedCodexEvent.failure]
    · simp [Consumer.emit, hlength]
  | raised c message hadvance hending =>
    obtain ⟨hkeeps, hlength⟩ := hstart.advance hbegun hclock hadvance
    have hknows := (Consumer.knows_start service).advance hadvance
    have hloop := consumeLoop_of_advance stream hadvance []
    rw [List.append_nil, consumeLoop, hending] at hloop
    obtain ⟨hcaught, hfinalized, hfailure, hcount⟩ := hkeeps.caught stream message
    rw [closed_eq hloop]
    refine ⟨hcaught, by rw [hfinalized, hknows.finalized], hfailure, ?_⟩
    rw [hcount, hlength]
    simp
  | failed before event rest c c' message hbreaks hmessage hclosing =>
    obtain ⟨hkeeps, hterminal, hfinalized, hfailure, hlength⟩ :=
      Consumer.Keeps.failed hbegun hclock hstart hbreaks hmessage
    have hloop := hbreaks.consumeLoop
    rw [hclosing] at hloop
    rw [closed_eq hloop, afterLoop, if_pos hterminal]
    exact ⟨hkeeps, hfinalized, hfailure, hlength⟩
  | failedTwice before event rest c c' first message hbreaks hfirst hclosing =>
    obtain ⟨hkeeps, -, hfinalized, -, hlength⟩ :=
      Consumer.Keeps.failed hbegun hclock hstart hbreaks hfirst
    obtain ⟨hcaught, hsame, hfailure, hcount⟩ := hkeeps.caught stream message
    have hloop := hbreaks.consumeLoop
    rw [hclosing] at hloop
    rw [closed_eq hloop]
    exact ⟨hcaught, by rw [hsame, hfinalized], hfailure, by rw [hcount, hlength]⟩
  | thrown before event rest c c' message hevents hadvance hthrows =>
    obtain ⟨hkeeps, -⟩ := hstart.advance hbegun hclock hadvance
    have hknows := (Consumer.knows_start service).advance hadvance
    have hkept : c'.Keeps context turn turns := by
      rcases hkeeps.consumeEvent parsing hbegun hclock event with ⟨_, _, hcase, hkept, -⟩ |
          ⟨_, hcase, -⟩ | ⟨_, _, _, _, _, hcase, -⟩ | ⟨_, hcase, -⟩
      all_goals rw [hthrows] at hcase
      all_goals cases hcase
      exact hkept
    obtain ⟨hcaught, hsame, hfailure, hcount⟩ := hkept.caught stream message
    have hloop : consumeLoop (directoryStore context) parsing turn stream { service := service }
        stream.events = (c', some message) := by
      conv_lhs => rw [hevents]
      rw [consumeLoop_of_advance stream hadvance, consumeLoop, hthrows]
    rw [closed_eq hloop]
    exact ⟨hcaught, by rw [hsame, (consumeEvent_throws hthrows).1, hknows.finalized], hfailure,
      hcount⟩

variable (parsing stream) in
/-- A stream closes, or its completed turn is stored. -/
theorem closes_or_released (hbegun : Begun turn turns)
    (hclock : ∀ n, context.isTimestamp (context.clock n) = true)
    (hstart : ({ service := service } : Consumer Directory).Keeps context turn turns) :
    (∃ failure count,
      ClosesWith context parsing turn stream { service := service } failure count) ∨
    (closed context parsing turn stream service).finalized = true ∧
      Released turn.threadId turn.turnId (closed context parsing turn stream service).service := by
  rcases consumeLoop_cases (directoryStore context) parsing turn stream { service := service }
      stream.events with
    ⟨c', hadvance, -⟩ | ⟨before, event, rest, c₁, c₂, hbreaks, hloop⟩ |
    ⟨before, event, rest, c₁, c₂, message, hevents, hadvance, hthrows, -⟩
  · cases hending : stream.ending with
    | none => exact Or.inl ⟨_, _, .early c' hadvance hending⟩
    | some message => exact Or.inl ⟨_, _, .raised c' message hadvance hending⟩
  · obtain ⟨hkeeps, -⟩ := hstart.advance hbegun hclock hbreaks.advance
    rcases hkeeps.consumeEvent parsing hbegun hclock event with ⟨_, _, hcase, -⟩ |
        ⟨_, hcase, -, hfinalized, hreleased⟩ |
        ⟨_, _, _, message, _, hcase, -, -, hmessage, -⟩ | ⟨_, hcase, -⟩
    all_goals rw [hbreaks.breaks] at hcase
    all_goals cases hcase
    · rw [closed_eq hloop]
      refine Or.inr ?_
      have hterminal := (consumeEvent_breaks hbreaks.breaks).1
      cases stream.closing with
      | none =>
        rw [afterLoop, if_pos hterminal]
        exact ⟨hfinalized, hreleased⟩
      | some message =>
        rw [afterLoop]
        split <;> exact ⟨hfinalized, hreleased⟩
    · cases hclosing : stream.closing with
      | none => exact Or.inl ⟨_, _, .failed _ _ _ _ _ message hbreaks hmessage hclosing⟩
      | some closing =>
        exact Or.inl ⟨_, _, .failedTwice _ _ _ _ _ message closing hbreaks hmessage hclosing⟩
  · exact Or.inl ⟨_, _, .thrown _ _ _ _ _ message hevents hadvance hthrows⟩

variable (parsing stream) in
/-- **A stream that is consumed releases its turn exactly when its end can be stored.** -/
theorem released_consumeEvents_iff (hbegun : Begun turn turns)
    (hclock : ∀ n, context.isTimestamp (context.clock n) = true)
    (hstart : ({ service := service } : Consumer Directory).Keeps context turn turns) :
    Released turn.threadId turn.turnId
        (consumeEvents (directoryStore context) parsing turn stream service).1.service ↔
      ∀ failure count,
        ClosesWith context parsing turn stream { service := service } failure count →
          Storable failure count := by
  have hservice : (consumeEvents (directoryStore context) parsing turn stream service).1.service =
      if (closed context parsing turn stream service).finalized then
        (closed context parsing turn stream service).service
      else
        (finalizeConsumedTurn (directoryStore context) turn
          (closed context parsing turn stream service).normalizedEvents
          (closed context parsing turn stream service).service).2 := by
    rw [consumeEvents, closed]
    split
    · rfl
    · split <;> rename_i heq <;> rw [heq]
  rw [hservice]
  rcases closes_or_released parsing stream hbegun hclock hstart with
    ⟨failure, count, hcloses⟩ | ⟨hfinalized, hreleased⟩
  · obtain ⟨hkeeps, hfinalized, hfailure, hcount⟩ := hcloses.closed hbegun hclock hstart
    obtain ⟨_, rfl, hiff⟩ := hkeeps.close hbegun hclock hfailure
    rw [hfinalized, if_neg (by simp), hiff, hcount]
    constructor
    · intro hstorable failure' count' hcloses'
      obtain ⟨-, -, hfailure', hcount'⟩ := hcloses'.closed hbegun hclock hstart
      rw [← hfailure', ← hcount', hfailure, hcount]
      exact hstorable
    · exact fun h ↦ h failure count hcloses
  · rw [if_pos hfinalized]
    refine iff_of_true hreleased fun failure count hcloses ↦ ?_
    obtain ⟨-, hnot, -⟩ := hcloses.closed hbegun hclock hstart
    rw [hfinalized] at hnot
    cases hnot

/-! ### From the beginning -/

variable {record : LocalCodexThreadRecord} {input : TurnInput} {service' : Service Directory}

/-- The identity a turn is consumed under. -/
def TurnInput.identity (input : TurnInput) (record : LocalCodexThreadRecord) : TurnIdentity :=
  ⟨record.threadId, input.turnId, input.ephemeral⟩

/-- What is there once the turn is open. -/
theorem openTurn_eq_ok (hpersistent : input.ephemeral = false)
    (hopen : openTurn (directoryStore context) record input service = (.ok (), service')) :
    isBusy service.activeTurns record = false ∧ ∃ begun turn,
      begun = record.begin turn ∧ turn.turnId = input.turnId ∧ turn.status = .running ∧
      threadSchema context begun = true ∧
      (∃ stored, service.world.find record.threadId = some stored) ∧
      service' = activate { service with world := service.world.replace begun }
        ⟨input.turnId, record.threadId⟩ := by
  rw [openTurn] at hopen
  split_ifs at hopen with hmessage hbusy hephemeral
  · cases hopen
  · cases hopen
  · rw [hpersistent] at hephemeral
    cases hephemeral
  · refine ⟨by simpa using hbusy, _, runningTurn input (trim input.message)
      (context.clock service.world.writes), rfl, rfl, rfl, ?_⟩
    simp only [directoryStore, saveThread] at hopen
    split at hopen
    · cases hopen
    · rename_i heq
      split_ifs at heq with hschema hmissing
      · cases heq
      · cases heq
      · cases heq
        cases hopen
        refine ⟨by simpa using hschema, ?_, rfl⟩
        rw [Option.isNone_iff_eq_none] at hmissing
        exact Option.ne_none_iff_exists'.mp hmissing

/-- A turn that is stored and active as it begins. -/
theorem begun_of_openTurn (hpersistent : input.ephemeral = false)
    (hopen : openTurn (directoryStore context) record input service = (.ok (), service')) :
    ∃ turns, Begun (input.identity record) turns ∧
      ({ service := service' } : Consumer Directory).Keeps context (input.identity record)
        turns := by
  obtain ⟨hidle, begun, turn, hbegun, hid, hrunning, hschema, ⟨stored, hfind⟩, rfl⟩ :=
    openTurn_eq_ok hpersistent hopen
  rw [isBusy, Bool.or_eq_false_iff, List.any_eq_false, List.any_eq_false] at hidle
  have hthread : begun.threadId = record.threadId := by rw [hbegun]; rfl
  refine ⟨begun.turns, ⟨hpersistent, ⟨turn, ?_, hid, hrunning⟩, ?_⟩, ⟨rfl, ?_, ?_, ?_⟩⟩
  · rw [hbegun]
    exact List.mem_append_right _ (List.mem_singleton_self _)
  · intro other hother hne
    rw [hbegun] at hother
    rcases List.mem_append.mp hother with hother | hother
    · simpa using hidle.1 other hother
    · rw [List.mem_singleton.mp hother] at hne
      exact absurd hid hne
  · exact fun decision hdecides ↦ by cases hdecides
  · intro active hactive hne
    rcases List.mem_append.mp hactive with hactive | hactive
    · have hother := hidle.2 active (List.mem_filter.mp hactive).1
      exact fun heq ↦ hother (beq_iff_eq.mpr heq)
    · rw [List.mem_singleton.mp hactive] at hne
      exact absurd rfl hne
  · rw [← hthread] at hfind
    have hfound := find_replace hfind
    rw [hthread] at hfound
    exact ⟨begun, hfound, hschema, rfl⟩

/-- **A turn that has begun ends, exactly when opening it raises nothing and its end can be
stored.** -/
theorem runTurn_released_iff (context : StoreContext) (parsing : Parsing)
    (record : LocalCodexThreadRecord) (input : TurnInput) (sdk : CodexSdk)
    (service service' : Service Directory)
    (hclock : ∀ n, context.isTimestamp (context.clock n) = true)
    (hpersistent : input.ephemeral = false)
    (hopen : openTurn (directoryStore context) record input service = (.ok (), service')) :
    Released record.threadId input.turnId
        (runTurn (directoryStore context) parsing record input sdk service) ↔
      sdk.creating = none ∧ (input.resumeExisting = true → record.sdkThreadId.getD "" ≠ "") ∧
        sdk.opening = none ∧
        (∀ cause, sdk.runStreamed = .error cause → failureSchema cause = true) ∧
        ∀ stream, sdk.runStreamed = .ok stream → ∀ failure count,
          ClosesWith context parsing (input.identity record) stream { service := service' } failure
            count → Storable failure count := by
  obtain ⟨turns, hbegun, hstart⟩ := begun_of_openTurn hpersistent hopen
  have hnot : ∀ activeTurns,
      ¬ Released record.threadId input.turnId ⟨activeTurns, service'.world⟩ :=
    fun activeTurns ↦ not_released_of_stored hbegun hstart.stored
  rw [runTurn, beginTurn, hopen]
  simp only
  rw [startStream]
  cases hcreating : sdk.creating with
  | some failure => exact iff_of_false (hnot _) (by simp)
  | none =>
    simp only
    by_cases hresume : input.resumeExisting = true ∧ record.sdkThreadId.getD "" = ""
    · rw [if_pos hresume]
      exact iff_of_false (hnot _) fun h ↦ h.2.1 hresume.1 hresume.2
    rw [if_neg hresume]
    cases hopening : sdk.opening with
    | some failure => exact iff_of_false (hnot _) (by simp)
    | none =>
      simp only
      cases hrun : sdk.runStreamed with
      | ok stream =>
        have hiff : _ ↔ _ := released_consumeEvents_iff parsing stream hbegun hclock hstart
        constructor
        · intro hreleased
          refine ⟨trivial, fun hexisting hmissing ↦ hresume ⟨hexisting, hmissing⟩, trivial,
            fun cause hcause ↦ ?_, fun other hother ↦ ?_⟩
          · cases hcause
          · cases hother
            exact hiff.mp hreleased
        · exact fun h ↦ hiff.mpr (h.2.2.2.2 stream rfl)
      | error cause =>
        obtain ⟨running, hmem, hid, -⟩ := hbegun.running
        have hstorable : Storable (some cause) ([] : List NormalizedCodexEvent).length ↔
            failureSchema cause = true := by
          simp [Storable]
        have hnone : ([] : List NormalizedCodexEvent).all isNormalizedCodexEvent = true := rfl
        obtain ⟨hpass, hfail⟩ := finishTurn_spec .failed (some cause) hstart.stored hclock hnone
          ⟨running, hmem, hid⟩
        rw [hstorable] at hpass hfail
        simp only [hpersistent, Bool.false_eq_true, if_false]
        by_cases hcause : failureSchema cause = true
        · obtain ⟨directory, completedAt, hfinish, hfinished⟩ := hpass hcause
          refine iff_of_true ?_ ⟨trivial, fun hexisting hmissing ↦ hresume ⟨hexisting, hmissing⟩,
            trivial, fun other hother ↦ ?_, fun stream hstream ↦ ?_⟩
          · have hfinish' : finishTurn (directoryStore context) record.threadId input.turnId .failed
                [] (some cause) service'.world = (.ok (), directory) := hfinish
            simp only [hfinish']
            exact released_of_finished hbegun hfinished (fun h ↦ by cases h) hstart.others
          · cases hother
            exact hcause
          · cases hstream
        · obtain ⟨message, hfinish⟩ := hfail hcause
          refine iff_of_false ?_ fun h ↦ hcause (h.2.2.2.1 cause rfl)
          have hfinish' : finishTurn (directoryStore context) record.threadId input.turnId .failed
              [] (some cause) service'.world = (.error message, service'.world) := hfinish
          simp only [hfinish']
          exact hnot _

/-! ### A failure without a message -/

def sampleContext : StoreContext where
  clock _ := "2026-01-01T00:00:00.000Z"
  isTimestamp _ := true
  schemaMessage _ := "invalid"

/-- A thread without turns. -/
def idleRecord : LocalCodexThreadRecord :=
  { sampleRecord with turns := [] }

def idleService : Service Directory where
  activeTurns := []
  world := ⟨[idleRecord], 0⟩

def sampleInput : TurnInput where
  turnId := "turn"
  message := "message"
  attachments := []
  resumeExisting := true
  ephemeral := false

theorem openTurn_sample : openTurn (directoryStore sampleContext) idleRecord sampleInput
    idleService = (.ok (), (openTurn (directoryStore sampleContext) idleRecord sampleInput
      idleService).2) := rfl

/-- The SDK cannot start, and says why. -/
theorem runTurn_released_refused : Released "thread" "turn"
    (runTurn (directoryStore sampleContext) sampleParsing idleRecord sampleInput
      { runStreamed := .error "spawn failed" } idleService) := by
  refine (runTurn_released_iff sampleContext sampleParsing idleRecord sampleInput
    { runStreamed := .error "spawn failed" } idleService _ (fun _ ↦ rfl) rfl openTurn_sample).mpr
    ⟨rfl, fun _ ↦ by decide, rfl, fun cause hcause ↦ ?_, fun stream hstream ↦ ?_⟩
  · cases hcause
    rfl
  · cases hstream

/-- The turn fails without a message, and runs for ever. -/
theorem not_released_emptyFailure : ¬ Released "thread" "turn"
    (runTurn (directoryStore sampleContext) sampleParsing idleRecord sampleInput
      { runStreamed := .ok { events := [.turnFailed ""] } } idleService) := by
  rintro ⟨record, hfind, -, hidle⟩
  have hfound : (runTurn (directoryStore sampleContext) sampleParsing idleRecord sampleInput
      { runStreamed := .ok { events := [.turnFailed ""] } } idleService).world.find "thread" =
        some { sampleRecord with
          turns := [runningTurn sampleInput "message" "2026-01-01T00:00:00.000Z"] } := rfl
  rw [hfound, Option.some.injEq] at hfind
  subst hfind
  cases hidle

end

end LocalAgent

end HMaigc
