import HMaigc.LocalAgent.Turns
import Mathlib.Logic.Function.Basic

/-!
# Many turns of many threads

`canvas-agent/src/codex-thread.ts`: `startTurn`, `resumeTurn`, `archiveThread` and the consumption
of events read and write whole records, and wait in between.

* `Operation`, `Threads.Step`, `Threads.Run` — the operations, interleaved where they wait.
* `Undisturbed` — an operation acts on the record that is stored, and no other turn of its thread
  is on its way.
* `Exclusive` — what holds in between: a thread is entered by one operation, or has one active turn.
* `separated` — **one turn a thread, and nothing that is stored is lost**, while no operation is
  disturbed.
* `bothActive` — two turns of one thread, one of them lost from the store.
-/

set_option autoImplicit false

namespace HMaigc

open Js

namespace LocalAgent

/-! ### The operations -/

/-- How far an operation has come; it waits before each of its steps. -/
inductive Operation
  | idle
  /-- The record that a turn is to begin of: just created, or read. -/
  | opening (record : LocalCodexThreadRecord) (ephemeral : Bool)
  /-- The record that was checked, and the turn to be written into it. -/
  | saving (base : LocalCodexThreadRecord) (turn : LocalCodexTurnRecord)
  | saved (threadId turnId : String)
  | starting (turn : TurnIdentity)
  | consuming (turn : TurnIdentity)
  /-- The record that was read, and the SDK's identifier to be written into it. -/
  | binding (turn : TurnIdentity) (base : LocalCodexThreadRecord) (sdkThreadId : String)
  /-- The turn is not active any more, and is to be finished. -/
  | closing (threadId turnId : String)
  | finishing (base : LocalCodexThreadRecord) (turnId : String)
  | archiving (base : LocalCodexThreadRecord)

namespace Operation

/-- The thread an operation is about to make a turn of active. -/
def entering : Operation → Option String
  | saving base _ => some base.threadId
  | saved threadId _ => some threadId
  | _ => none

/-- The turn an operation is to finish. -/
def turn : Operation → Option (String × String)
  | saving base turn => some (base.threadId, turn.turnId)
  | saved threadId turnId => some (threadId, turnId)
  | starting turn | consuming turn | binding turn _ _ =>
    if turn.ephemeral then none else some (turn.threadId, turn.turnId)
  | closing threadId turnId => some (threadId, turnId)
  | finishing base turnId => some (base.threadId, turnId)
  | _ => none

end Operation

namespace LocalCodexThreadRecord

def isArchived (record : LocalCodexThreadRecord) : Bool :=
  record.archivedAt.getD "" ≠ ""

/-- `thread.started`. -/
def bind (record : LocalCodexThreadRecord) (sdkThreadId updatedAt : String) :
    LocalCodexThreadRecord :=
  { record with
    sdkThreadId := some sdkThreadId
    updatedAt := updatedAt }

/-- `#finishTurn`. -/
def finish (record : LocalCodexThreadRecord) (turnId : String) (status : TurnStatus)
    (events : List NormalizedCodexEvent) (failure : Option String) (completedAt : String) :
    LocalCodexThreadRecord :=
  { record with
    turns := record.turns.map (finishedTurn turnId status events failure completedAt)
    updatedAt := completedAt }

/-- `archiveThread`. -/
def archive (record : LocalCodexThreadRecord) (archivedAt : String) : LocalCodexThreadRecord :=
  { record with
    archivedAt := some archivedAt
    updatedAt := archivedAt }

end LocalCodexThreadRecord

/-- `create`. -/
def createThread (context : StoreContext) (record : LocalCodexThreadRecord)
    (directory : Directory) : Except String Unit × Directory :=
  if threadSchema context record = false then (.error (context.schemaMessage record), directory)
  else if (directory.find record.threadId).isSome then
    (.error "本机 Codex 线程已经存在", directory)
  else (.ok (), ⟨directory.records ++ [record], directory.writes + 1⟩)

/-- The store, the turns that are active, the operations, and the identifiers of turns that were
given out. -/
structure Threads where
  directory : Directory
  activeTurns : List ActiveTurn
  operations : ℕ → Operation
  turnIds : List String

namespace Threads

/-- Before any operation. -/
def start (directory : Directory) : Threads where
  directory := directory
  activeTurns := []
  operations _ := .idle
  turnIds := directory.records.flatMap fun record ↦ record.turns.map (·.turnId)

def moved (w : Threads) (i : ℕ) (operation : Operation) : Threads :=
  { w with operations := Function.update w.operations i operation }

/-- `activeTurns.set`. -/
def activated (w : Threads) (turn : ActiveTurn) : Threads :=
  { w with activeTurns := w.activeTurns.filter (·.turnId != turn.turnId) ++ [turn] }

/-- `activeTurns.delete`. -/
def deactivated (w : Threads) (turnId : String) : Threads :=
  { w with activeTurns := w.activeTurns.filter (·.turnId != turnId) }

def stored (w : Threads) (directory : Directory) : Threads :=
  { w with directory := directory }

def issued (w : Threads) (turnId : String) : Threads :=
  { w with turnIds := turnId :: w.turnIds }

end Threads

/-! ### The steps -/

/-- A step of the operation `i`.  `cancelTurn` only aborts a signal, after which the events may end
as they may at any time. -/
inductive Threads.Step (context : StoreContext) (i : ℕ) (w : Threads) : Threads → Prop
  /-- `startTurn`, up to `#beginTurn`. -/
  | start (record : LocalCodexThreadRecord) (directory : Directory)
      (hoperation : w.operations i = .idle) (hturns : record.turns = [])
      (hsdk : record.sdkThreadId = none) (harchived : record.archivedAt = none)
      (hcreate : createThread context record w.directory = (.ok (), directory)) :
      Threads.Step context i w ((w.moved i (.opening record false)).stored directory)
  /-- `resumeTurn`, up to `#beginTurn`. -/
  | resume (threadId : String) (record : LocalCodexThreadRecord) (ephemeral : Bool)
      (hoperation : w.operations i = .idle) (hfind : w.directory.find threadId = some record)
      (harchived : record.isArchived = false) (hsdk : record.sdkThreadId.getD "" ≠ "") :
      Threads.Step context i w (w.moved i (.opening record ephemeral))
  /-- `#beginTurn` refuses. -/
  | busy (record : LocalCodexThreadRecord) (ephemeral : Bool)
      (hoperation : w.operations i = .opening record ephemeral)
      (hbusy : isBusy w.activeTurns record = true) : Threads.Step context i w (w.moved i .idle)
  /-- `#beginTurn`, up to the write. -/
  | check (record : LocalCodexThreadRecord) (turn : LocalCodexTurnRecord)
      (hoperation : w.operations i = .opening record false)
      (hbusy : isBusy w.activeTurns record = false) (hrunning : turn.status = .running)
      (hturnId : turn.turnId ∉ w.turnIds) :
      Threads.Step context i w ((w.moved i (.saving record turn)).issued turn.turnId)
  | checkEphemeral (record : LocalCodexThreadRecord) (turnId : String)
      (hoperation : w.operations i = .opening record true)
      (hbusy : isBusy w.activeTurns record = false) (hturnId : turnId ∉ w.turnIds) :
      Threads.Step context i w (((w.moved i (.starting ⟨record.threadId, turnId, true⟩)).issued
        turnId).activated ⟨turnId, record.threadId⟩)
  | save (base : LocalCodexThreadRecord) (turn : LocalCodexTurnRecord) (directory : Directory)
      (hoperation : w.operations i = .saving base turn)
      (hsave : saveThread context (base.begin turn) w.directory = (.ok (), directory)) :
      Threads.Step context i w ((w.moved i (.saved base.threadId turn.turnId)).stored directory)
  | register (threadId turnId : String) (hoperation : w.operations i = .saved threadId turnId) :
      Threads.Step context i w
        ((w.moved i (.starting ⟨threadId, turnId, false⟩)).activated ⟨turnId, threadId⟩)
  | started (turn : TurnIdentity) (hoperation : w.operations i = .starting turn) :
      Threads.Step context i w (w.moved i (.consuming turn))
  /-- The turn cannot be started, or its events have ended: an ephemeral one is over. -/
  | endEphemeral (turn : TurnIdentity)
      (hoperation : w.operations i = .starting turn ∨ w.operations i = .consuming turn)
      (hephemeral : turn.ephemeral = true) :
      Threads.Step context i w ((w.moved i .idle).deactivated turn.turnId)
  | close (turn : TurnIdentity)
      (hoperation : w.operations i = .starting turn ∨ w.operations i = .consuming turn)
      (hephemeral : turn.ephemeral = false) :
      Threads.Step context i w
        ((w.moved i (.closing turn.threadId turn.turnId)).deactivated turn.turnId)
  /-- `thread.started`. -/
  | bindRead (turn : TurnIdentity) (record : LocalCodexThreadRecord) (sdkThreadId : String)
      (hoperation : w.operations i = .consuming turn)
      (hfind : w.directory.find turn.threadId = some record) :
      Threads.Step context i w (w.moved i (.binding turn record sdkThreadId))
  | bindWrite (turn : TurnIdentity) (base : LocalCodexThreadRecord)
      (sdkThreadId updatedAt : String) (directory : Directory)
      (hoperation : w.operations i = .binding turn base sdkThreadId)
      (hsdk : base.sdkThreadId.getD "" = "")
      (hsave : saveThread context (base.bind sdkThreadId updatedAt) w.directory =
        (.ok (), directory)) :
      Threads.Step context i w ((w.moved i (.consuming turn)).stored directory)
  /-- The record has an identifier already, or the write is refused. -/
  | bindSkip (turn : TurnIdentity) (base : LocalCodexThreadRecord) (sdkThreadId : String)
      (hoperation : w.operations i = .binding turn base sdkThreadId) :
      Threads.Step context i w (w.moved i (.consuming turn))
  | finishRead (threadId turnId : String) (record : LocalCodexThreadRecord)
      (hoperation : w.operations i = .closing threadId turnId)
      (hfind : w.directory.find threadId = some record) :
      Threads.Step context i w (w.moved i (.finishing record turnId))
  | finishWrite (base : LocalCodexThreadRecord) (turnId : String) (status : TurnStatus)
      (events : List NormalizedCodexEvent) (failure : Option String) (completedAt : String)
      (directory : Directory) (hoperation : w.operations i = .finishing base turnId)
      (hstatus : status ≠ .running)
      (hsave : saveThread context (base.finish turnId status events failure completedAt)
        w.directory = (.ok (), directory)) :
      Threads.Step context i w ((w.moved i .idle).stored directory)
  /-- A completed turn that cannot be written is finished once more, as a failed one. -/
  | finishAgain (base : LocalCodexThreadRecord) (turnId : String)
      (hoperation : w.operations i = .finishing base turnId) :
      Threads.Step context i w (w.moved i (.closing base.threadId turnId))
  | archiveRead (threadId : String) (record : LocalCodexThreadRecord)
      (hoperation : w.operations i = .idle) (hfind : w.directory.find threadId = some record)
      (hactive : w.activeTurns.any (·.threadId == threadId) = false)
      (harchived : record.isArchived = false) :
      Threads.Step context i w (w.moved i (.archiving record))
  | archiveWrite (base : LocalCodexThreadRecord) (archivedAt : String) (directory : Directory)
      (hoperation : w.operations i = .archiving base)
      (hsave : saveThread context (base.archive archivedAt) w.directory = (.ok (), directory)) :
      Threads.Step context i w ((w.moved i .idle).stored directory)
  /-- An operation fails where it waits, or what it has returned is not consumed any further. -/
  | fail (hoperation : ∀ threadId turnId, w.operations i ≠ .saved threadId turnId) :
      Threads.Step context i w (w.moved i .idle)

/-- Steps that all meet a condition on the state before them. -/
inductive Threads.Run (context : StoreContext) (condition : ℕ → Threads → Prop) (w : Threads) :
    Threads → Prop
  | nil : Threads.Run context condition w w
  | step {reached next : Threads} (hrun : Threads.Run context condition w reached) (i : ℕ)
      (hstep : Threads.Step context i reached next) (hcondition : condition i reached) :
      Threads.Run context condition w next

/-- The operation checks or writes the record that is stored; when a turn is checked, no other turn
of the thread is between its check and its write; and when a thread is archived, none of its turns
is active or on its way. -/
def Undisturbed (i : ℕ) (w : Threads) : Prop :=
  match w.operations i with
  | .opening record _ => w.directory.find record.threadId = some record ∧
      ∀ j base turn, w.operations j = .saving base turn → base.threadId ≠ record.threadId
  | .saving base _ | .binding _ base _ | .finishing base _ =>
    w.directory.find base.threadId = some base
  | .archiving base => w.directory.find base.threadId = some base ∧
      (∀ active ∈ w.activeTurns, active.threadId ≠ base.threadId) ∧
      ∀ j, (w.operations j).entering ≠ some base.threadId
  | _ => True

/-! ### What is promised -/

/-- The turn is as it was, or it was running and is finished. -/
def Continues (turn turn' : LocalCodexTurnRecord) : Prop :=
  turn' = turn ∨ turn.status = .running ∧ ∃ status events failure completedAt,
    status ≠ .running ∧ turn' = finishedTurn turn.turnId status events failure completedAt turn

/-- Every thread is kept, with its identifier of the SDK and its turns. -/
def Kept (directory directory' : Directory) : Prop :=
  ∀ threadId record, directory.find threadId = some record →
    ∃ record', directory'.find threadId = some record' ∧
      (∀ sdkThreadId ≠ "", record.sdkThreadId = some sdkThreadId →
        record'.sdkThreadId = some sdkThreadId) ∧
      ∀ turn ∈ record.turns, ∃ turn' ∈ record'.turns, Continues turn turn'

/-- One turn a thread is active, and none of an archived one. -/
structure OneTurn (w : Threads) : Prop where
  one : w.activeTurns.Pairwise (·.threadId ≠ ·.threadId)
  unarchived : ∀ active ∈ w.activeTurns, ∀ record,
    w.directory.find active.threadId = some record → record.isArchived = false

/-- A turn is active or on its way. -/
def Engaged (w : Threads) (threadId : String) : Prop :=
  (∃ active ∈ w.activeTurns, active.threadId = threadId) ∨
    ∃ i, (w.operations i).entering = some threadId

/-- An operation comes to the check of `#beginTurn` while a turn of the thread is active or on its
way: it is refused, and nothing is written. -/
def Refuses (context : StoreContext) (condition : ℕ → Threads → Prop) (w : Threads) : Prop :=
  ∀ i record ephemeral w', w.operations i = .opening record ephemeral →
    Engaged w record.threadId → Threads.Step context i w w' → condition i w →
      w'.operations i = .idle ∧ w'.directory = w.directory ∧ w'.activeTurns = w.activeTurns

/-- What is promised of every state, and of every run from it. -/
structure Separated (context : StoreContext) (condition : ℕ → Threads → Prop) (w : Threads) :
    Prop where
  turns : OneTurn w
  refuses : Refuses context condition w
  kept : ∀ w', Threads.Run context condition w w' → Kept w.directory w'.directory

/-! ### The store -/

section

variable {context : StoreContext}

theorem Continues.refl (turn : LocalCodexTurnRecord) : Continues turn turn :=
  Or.inl rfl

theorem Continues.trans {first second third : LocalCodexTurnRecord} (h : Continues first second)
    (h' : Continues second third) : Continues first third := by
  rcases h with rfl | ⟨hrunning, status, events, failure, completedAt, hstatus, rfl⟩
  · exact h'
  · rcases h' with rfl | ⟨hrunning', -⟩
    · exact Or.inr ⟨hrunning, status, events, failure, completedAt, hstatus, rfl⟩
    · exact absurd hrunning' (by simpa [finishedTurn] using hstatus)

theorem Kept.refl (directory : Directory) : Kept directory directory :=
  fun _ record hfind ↦ ⟨record, hfind, fun _ _ h ↦ h, fun turn hturn ↦ ⟨turn, hturn, .refl turn⟩⟩

theorem Kept.trans {first second third : Directory} (h : Kept first second)
    (h' : Kept second third) : Kept first third := by
  intro threadId record hfind
  obtain ⟨record', hfind', hsdk, hturns⟩ := h threadId record hfind
  obtain ⟨record'', hfind'', hsdk', hturns'⟩ := h' threadId record' hfind'
  refine ⟨record'', hfind'', fun id hid heq ↦ hsdk' id hid (hsdk id hid heq), fun turn hturn ↦ ?_⟩
  obtain ⟨turn', hturn', hcontinues⟩ := hturns turn hturn
  obtain ⟨turn'', hturn'', hcontinues'⟩ := hturns' turn' hturn'
  exact ⟨turn'', hturn'', hcontinues.trans hcontinues'⟩

theorem find_replace_of_ne {directory : Directory} {record : LocalCodexThreadRecord}
    {threadId : String} (h : record.threadId ≠ threadId) :
    (directory.replace record).find threadId = directory.find threadId := by
  rw [Directory.find, Directory.find, Directory.replace]
  simp only
  induction directory.records with
  | nil => rfl
  | cons other rest ih =>
    rw [List.map_cons, List.find?_cons, List.find?_cons, ih]
    by_cases heq : other.threadId = record.threadId
    · have hno : (record.threadId == threadId) = false := by simpa using h
      simp [heq, hno]
    · simp [heq]

theorem saveThread_eq_ok {record : LocalCodexThreadRecord} {directory directory' : Directory}
    (h : saveThread context record directory = (.ok (), directory')) :
    directory' = directory.replace record ∧
      ∃ stored, directory.find record.threadId = some stored := by
  rw [saveThread] at h
  split_ifs at h with hschema hmissing
  · cases h
  · cases h
  · cases h
    rw [Option.isNone_iff_eq_none] at hmissing
    exact ⟨rfl, Option.ne_none_iff_exists'.mp hmissing⟩

/-- A record is written over the one that is stored. -/
structure Overwrites (base written : LocalCodexThreadRecord) (directory directory' : Directory) :
    Prop where
  thread : written.threadId = base.threadId
  before : directory.find base.threadId = some base
  after : directory'.find base.threadId = some written
  others : ∀ threadId ≠ base.threadId, directory'.find threadId = directory.find threadId

theorem overwrites_of_save {base written : LocalCodexThreadRecord}
    {directory directory' : Directory} (hbase : directory.find base.threadId = some base)
    (h : saveThread context written directory = (.ok (), directory'))
    (hthread : written.threadId = base.threadId) :
    Overwrites base written directory directory' := by
  obtain ⟨rfl, stored, hfind⟩ := saveThread_eq_ok h
  refine ⟨hthread, hbase, ?_, fun threadId hne ↦ ?_⟩
  · rw [← hthread]
    exact find_replace hfind
  · exact find_replace_of_ne (by rw [hthread]; exact fun heq ↦ hne heq.symm)

theorem Overwrites.kept {base written : LocalCodexThreadRecord}
    {directory directory' : Directory} (h : Overwrites base written directory directory')
    (hsdk : ∀ sdkThreadId ≠ "", base.sdkThreadId = some sdkThreadId →
      written.sdkThreadId = some sdkThreadId)
    (hturns : ∀ turn ∈ base.turns, ∃ turn' ∈ written.turns, Continues turn turn') :
    Kept directory directory' := by
  intro threadId record hfind
  by_cases hsame : threadId = base.threadId
  · subst hsame
    rw [h.before, Option.some.injEq] at hfind
    subst hfind
    exact ⟨written, h.after, hsdk, hturns⟩
  · exact ⟨record, by rw [h.others threadId hsame, hfind], fun _ _ heq ↦ heq,
      fun turn hturn ↦ ⟨turn, hturn, .refl turn⟩⟩

/-- A record that is created is new. -/
theorem createThread_eq_ok {record : LocalCodexThreadRecord} {directory directory' : Directory}
    (h : createThread context record directory = (.ok (), directory')) :
    directory.find record.threadId = none ∧ directory'.find record.threadId = some record ∧
      ∀ threadId ≠ record.threadId, directory'.find threadId = directory.find threadId := by
  rw [createThread] at h
  split_ifs at h with hschema hexists
  · cases h
  · cases h
  · cases h
    have hnone : directory.find record.threadId = none := by simpa using hexists
    refine ⟨hnone, ?_, fun threadId hne ↦ ?_⟩
    · rw [Directory.find] at hnone ⊢
      simp [List.find?_append, hnone]
    · rw [Directory.find, Directory.find]
      simp [List.find?_append, hne.symm]

/-! ### What holds in between -/

/-- A thread is entered by one operation, or it has one active turn; nobody else runs a turn that an
operation is to finish. -/
structure Exclusive (w : Threads) : Prop where
  apart : w.activeTurns.Pairwise (·.threadId ≠ ·.threadId)
  alone : ∀ i j threadId, (w.operations i).entering = some threadId →
    (w.operations j).entering = some threadId → i = j
  enters : ∀ i threadId, (w.operations i).entering = some threadId →
    ∀ active ∈ w.activeTurns, active.threadId ≠ threadId
  running : ∀ i base turn, w.operations i = .saving base turn → turn.status = .running
  saved : ∀ i threadId turnId, w.operations i = .saved threadId turnId →
    ∃ record, w.directory.find threadId = some record ∧
      ∃ turn ∈ record.turns, turn.turnId = turnId ∧ turn.status = .running
  unarchived : ∀ threadId, Engaged w threadId → ∀ record,
    w.directory.find threadId = some record → record.isArchived = false
  opening : ∀ i record ephemeral, w.operations i = .opening record ephemeral →
    record.isArchived = false
  runs : ∀ i threadId turnId, (w.operations i).turn = some (threadId, turnId) → ∀ record,
    w.directory.find threadId = some record → ∀ turn ∈ record.turns, turn.turnId = turnId →
      turn.status = .running
  owner : ∀ i j first second, (w.operations i).turn = some first →
    (w.operations j).turn = some second → first.2 = second.2 → i = j
  known : ∀ i threadId turnId, (w.operations i).turn = some (threadId, turnId) →
    turnId ∈ w.turnIds
  written : ∀ threadId record, w.directory.find threadId = some record →
    ∀ turn ∈ record.turns, turn.turnId ∈ w.turnIds

variable {w w' : Threads} {i : ℕ}

theorem Exclusive.oneTurn (h : Exclusive w) : OneTurn w :=
  ⟨h.apart, fun active hactive record hfind ↦
    h.unarchived active.threadId (Or.inl ⟨active, hactive, rfl⟩) record hfind⟩

theorem operations_moved_self (operation : Operation) :
    (w.moved i operation).operations i = operation :=
  Function.update_self ..

theorem operations_moved_of_ne (operation : Operation) {j : ℕ} (h : j ≠ i) :
    (w.moved i operation).operations j = w.operations j :=
  Function.update_of_ne h ..

theorem entering_moved {operation : Operation} {j : ℕ} {threadId : String}
    (hentering : operation.entering = none ∨
      operation.entering = (w.operations i).entering)
    (h : ((w.moved i operation).operations j).entering = some threadId) :
    (w.operations j).entering = some threadId := by
  by_cases heq : j = i
  · subst heq
    rw [operations_moved_self] at h
    rcases hentering with hnone | hsame
    · rw [hnone] at h
      cases h
    · rwa [← hsame]
  · rwa [operations_moved_of_ne _ heq] at h

theorem turn_moved {operation : Operation} {j : ℕ} {turn : String × String}
    (hturn : operation.turn = none ∨ operation.turn = (w.operations i).turn)
    (h : ((w.moved i operation).operations j).turn = some turn) :
    (w.operations j).turn = some turn := by
  by_cases heq : j = i
  · subst heq
    rw [operations_moved_self] at h
    rcases hturn with hnone | hsame
    · rw [hnone] at h
      cases h
    · rwa [← hsame]
  · rwa [operations_moved_of_ne _ heq] at h

/-- An operation goes on with what it has. -/
theorem Exclusive.move (h : Exclusive w) (operation : Operation)
    (hentering : operation.entering = none ∨
      operation.entering = (w.operations i).entering)
    (hturn : operation.turn = none ∨ operation.turn = (w.operations i).turn)
    (hsaving : ∀ base turn, operation ≠ .saving base turn)
    (hsaved : ∀ threadId turnId, operation = .saved threadId turnId →
      ∃ record, w.directory.find threadId = some record ∧
        ∃ turn ∈ record.turns, turn.turnId = turnId ∧ turn.status = .running)
    (hopening : ∀ record ephemeral, operation = .opening record ephemeral →
      record.isArchived = false) : Exclusive (w.moved i operation) := by
  constructor
  · exact h.apart
  · exact fun j k threadId hj hk ↦
      h.alone j k threadId (entering_moved hentering hj) (entering_moved hentering hk)
  · exact fun j threadId hj ↦ h.enters j threadId (entering_moved hentering hj)
  · intro j base turn hj
    by_cases heq : j = i
    · subst heq
      rw [operations_moved_self] at hj
      exact absurd hj (hsaving base turn)
    · rw [operations_moved_of_ne _ heq] at hj
      exact h.running j base turn hj
  · intro j threadId turnId hj
    by_cases heq : j = i
    · subst heq
      rw [operations_moved_self] at hj
      exact hsaved threadId turnId hj
    · rw [operations_moved_of_ne _ heq] at hj
      exact h.saved j threadId turnId hj
  · rintro threadId (hactive | ⟨j, hj⟩)
    · exact h.unarchived threadId (Or.inl hactive)
    · exact h.unarchived threadId (Or.inr ⟨j, entering_moved hentering hj⟩)
  · intro j record ephemeral hj
    by_cases heq : j = i
    · subst heq
      rw [operations_moved_self] at hj
      exact hopening record ephemeral hj
    · rw [operations_moved_of_ne _ heq] at hj
      exact h.opening j record ephemeral hj
  · exact fun j threadId turnId hj ↦ h.runs j threadId turnId (turn_moved hturn hj)
  · exact fun j k first second hj hk ↦
      h.owner j k first second (turn_moved hturn hj) (turn_moved hturn hk)
  · exact fun j threadId turnId hj ↦ h.known j threadId turnId (turn_moved hturn hj)
  · exact h.written

/-- An operation goes on outside the section. -/
theorem Exclusive.leave (h : Exclusive w) (operation : Operation)
    (hentering : operation.entering = none)
    (hturn : operation.turn = none ∨ operation.turn = (w.operations i).turn)
    (hopening : ∀ record ephemeral, operation ≠ .opening record ephemeral) :
    Exclusive (w.moved i operation) := by
  refine h.move operation (Or.inl hentering) hturn ?_ ?_ ?_
  · rintro base turn rfl
    cases hentering
  · rintro threadId turnId rfl
    cases hentering
  · exact fun record ephemeral heq ↦ absurd heq (hopening record ephemeral)

theorem Exclusive.deactivate (h : Exclusive w) (turnId : String) :
    Exclusive (w.deactivated turnId) := by
  constructor
  · exact h.apart.sublist List.filter_sublist
  · exact h.alone
  · exact fun j threadId hj active hactive ↦
      h.enters j threadId hj active (List.mem_filter.mp hactive).1
  · exact h.running
  · exact h.saved
  · rintro threadId (⟨active, hactive, heq⟩ | hj)
    · exact h.unarchived threadId (Or.inl ⟨active, (List.mem_filter.mp hactive).1, heq⟩)
    · exact h.unarchived threadId (Or.inr hj)
  · exact h.opening
  · exact h.runs
  · exact h.owner
  · exact h.known
  · exact h.written

theorem Exclusive.issue (h : Exclusive w) (turnId : String) : Exclusive (w.issued turnId) := by
  constructor
  · exact h.apart
  · exact h.alone
  · exact h.enters
  · exact h.running
  · exact h.saved
  · exact h.unarchived
  · exact h.opening
  · exact h.runs
  · exact h.owner
  · exact fun j threadId id hj ↦ List.mem_cons_of_mem _ (h.known j threadId id hj)
  · exact fun threadId record hfind turn hturn ↦
      List.mem_cons_of_mem _ (h.written threadId record hfind turn hturn)

/-- A turn of a thread that nobody is at becomes active. -/
theorem Exclusive.activate (h : Exclusive w) (turn : ActiveTurn)
    (hfree : ¬ Engaged w turn.threadId)
    (hunarchived : ∀ record, w.directory.find turn.threadId = some record →
      record.isArchived = false) : Exclusive (w.activated turn) := by
  have hothers : ∀ active ∈ w.activeTurns, active.threadId ≠ turn.threadId :=
    fun active hactive heq ↦ hfree (Or.inl ⟨active, hactive, heq⟩)
  constructor
  · refine List.pairwise_append.mpr
      ⟨h.apart.sublist List.filter_sublist, List.pairwise_singleton _ _, ?_⟩
    intro active hactive other hother
    rw [List.mem_singleton.mp hother]
    exact hothers active (List.mem_filter.mp hactive).1
  · exact h.alone
  · intro j threadId hj active hactive
    rcases List.mem_append.mp hactive with hactive | hactive
    · exact h.enters j threadId hj active (List.mem_filter.mp hactive).1
    · rw [List.mem_singleton.mp hactive]
      rintro rfl
      exact hfree (Or.inr ⟨j, hj⟩)
  · exact h.running
  · exact h.saved
  · rintro threadId (⟨active, hactive, rfl⟩ | hj)
    · rcases List.mem_append.mp hactive with hactive | hactive
      · exact h.unarchived _ (Or.inl ⟨active, (List.mem_filter.mp hactive).1, rfl⟩)
      · rw [List.mem_singleton.mp hactive]
        exact hunarchived
    · exact h.unarchived threadId (Or.inr hj)
  · exact h.opening
  · exact h.runs
  · exact h.owner
  · exact h.known
  · exact h.written

/-- A turn of a thread that nobody is at is about to be written. -/
theorem Exclusive.enter (h : Exclusive w) {record : LocalCodexThreadRecord}
    {turn : LocalCodexTurnRecord} (hfree : ¬ Engaged w record.threadId)
    (hrunning : turn.status = .running)
    (hunarchived : ∀ stored, w.directory.find record.threadId = some stored →
      stored.isArchived = false)
    (hturnId : turn.turnId ∉ w.turnIds) :
    Exclusive ((w.moved i (.saving record turn)).issued turn.turnId) := by
  have hsame : ((w.moved i (.saving record turn)).issued turn.turnId).operations i =
      .saving record turn := operations_moved_self _
  have hother : ∀ j, j ≠ i → ((w.moved i (.saving record turn)).issued turn.turnId).operations j =
      w.operations j := fun j hj ↦ operations_moved_of_ne _ hj
  constructor
  · exact h.apart
  · intro j k threadId hj hk
    by_cases hji : j = i
    · subst hji
      by_cases hki : k = j
      · exact hki.symm
      · rw [hsame] at hj
        cases hj
        rw [hother k hki] at hk
        exact absurd (Or.inr ⟨k, hk⟩) hfree
    · rw [hother j hji] at hj
      by_cases hki : k = i
      · subst hki
        rw [hsame] at hk
        cases hk
        exact absurd (Or.inr ⟨j, hj⟩) hfree
      · rw [hother k hki] at hk
        exact h.alone j k threadId hj hk
  · intro j threadId hj active hactive
    by_cases hji : j = i
    · subst hji
      rw [hsame] at hj
      cases hj
      exact fun heq ↦ hfree (Or.inl ⟨active, hactive, heq⟩)
    · rw [hother j hji] at hj
      exact h.enters j threadId hj active hactive
  · intro j base turn' hj
    by_cases hji : j = i
    · subst hji
      rw [hsame] at hj
      cases hj
      exact hrunning
    · rw [hother j hji] at hj
      exact h.running j base turn' hj
  · intro j threadId turnId hj
    by_cases hji : j = i
    · subst hji
      rw [hsame] at hj
      cases hj
    · rw [hother j hji] at hj
      exact h.saved j threadId turnId hj
  · rintro threadId (hactive | ⟨j, hj⟩)
    · exact h.unarchived threadId (Or.inl hactive)
    · by_cases hji : j = i
      · subst hji
        rw [hsame] at hj
        cases hj
        exact hunarchived
      · rw [hother j hji] at hj
        exact h.unarchived threadId (Or.inr ⟨j, hj⟩)
  · intro j opened ephemeral hj
    by_cases hji : j = i
    · subst hji
      rw [hsame] at hj
      cases hj
    · rw [hother j hji] at hj
      exact h.opening j opened ephemeral hj
  · intro j threadId turnId hj stored hfind other hmem hid
    by_cases hji : j = i
    · subst hji
      rw [hsame] at hj
      cases hj
      exact absurd (hid ▸ h.written _ stored hfind other hmem) hturnId
    · rw [hother j hji] at hj
      exact h.runs j threadId turnId hj stored hfind other hmem hid
  · intro j k first second hj hk heq
    by_cases hji : j = i
    · subst hji
      by_cases hki : k = j
      · exact hki.symm
      · rw [hsame] at hj
        cases hj
        rw [hother k hki] at hk
        have hmem := h.known k second.1 second.2 hk
        rw [← heq] at hmem
        exact absurd hmem hturnId
    · rw [hother j hji] at hj
      by_cases hki : k = i
      · subst hki
        rw [hsame] at hk
        cases hk
        have hmem := h.known j first.1 first.2 hj
        rw [heq] at hmem
        exact absurd hmem hturnId
      · rw [hother k hki] at hk
        exact h.owner j k first second hj hk heq
  · intro j threadId turnId hj
    by_cases hji : j = i
    · subst hji
      rw [hsame] at hj
      cases hj
      exact List.mem_cons_self
    · rw [hother j hji] at hj
      exact List.mem_cons_of_mem _ (h.known j threadId turnId hj)
  · exact fun threadId stored hfind other hmem ↦
      List.mem_cons_of_mem _ (h.written threadId stored hfind other hmem)

/-- A record is written over the one that is stored. -/
theorem Exclusive.overwrite (h : Exclusive w) {base written : LocalCodexThreadRecord}
    {directory : Directory} (hwrite : Overwrites base written w.directory directory)
    (harchived : Engaged w base.threadId → written.isArchived = false)
    (hsaved : ∀ i turnId, w.operations i = .saved base.threadId turnId →
      ∃ turn ∈ written.turns, turn.turnId = turnId ∧ turn.status = .running)
    (hruns : ∀ i turnId, (w.operations i).turn = some (base.threadId, turnId) →
      ∀ turn ∈ written.turns, turn.turnId = turnId → turn.status = .running)
    (hknown : ∀ turn ∈ written.turns, turn.turnId ∈ w.turnIds) :
    Exclusive (w.stored directory) := by
  constructor
  · exact h.apart
  · exact h.alone
  · exact h.enters
  · exact h.running
  · intro j threadId turnId hj
    by_cases hsame : threadId = base.threadId
    · subst hsame
      exact ⟨written, hwrite.after, hsaved j turnId hj⟩
    · obtain ⟨record, hfind, hrunning⟩ := h.saved j threadId turnId hj
      exact ⟨record, (hwrite.others threadId hsame).trans hfind, hrunning⟩
  · intro threadId hengaged record hfind
    by_cases hsame : threadId = base.threadId
    · subst hsame
      have heq := hwrite.after.symm.trans hfind
      cases heq
      exact harchived hengaged
    · exact h.unarchived threadId hengaged record ((hwrite.others threadId hsame).symm.trans hfind)
  · exact h.opening
  · intro j threadId turnId hj record hfind
    by_cases hsame : threadId = base.threadId
    · subst hsame
      have heq := hwrite.after.symm.trans hfind
      cases heq
      exact hruns j turnId hj
    · exact h.runs j threadId turnId hj record ((hwrite.others threadId hsame).symm.trans hfind)
  · exact h.owner
  · exact h.known
  · intro threadId record hfind
    by_cases hsame : threadId = base.threadId
    · subst hsame
      have heq := hwrite.after.symm.trans hfind
      cases heq
      exact hknown
    · exact h.written threadId record ((hwrite.others threadId hsame).symm.trans hfind)

/-- What is written leaves the turns. -/
theorem Exclusive.rewrite (h : Exclusive w) {base written : LocalCodexThreadRecord}
    {directory : Directory} (hwrite : Overwrites base written w.directory directory)
    (harchived : Engaged w base.threadId → written.isArchived = false)
    (hturns : written.turns = base.turns) : Exclusive (w.stored directory) := by
  refine h.overwrite hwrite harchived ?_ ?_ ?_
  · intro j turnId hj
    obtain ⟨record, hfind, hrunning⟩ := h.saved j _ turnId hj
    rw [hwrite.before, Option.some.injEq] at hfind
    rw [hturns, hfind]
    exact hrunning
  · rw [hturns]
    exact fun j turnId hj ↦ h.runs j _ turnId hj base hwrite.before
  · rw [hturns]
    exact h.written _ base hwrite.before

/-- A thread that is created has no turns. -/
theorem Exclusive.create (h : Exclusive w) {record : LocalCodexThreadRecord}
    {directory : Directory} (hturns : record.turns = []) (harchived : record.isArchived = false)
    (hnone : w.directory.find record.threadId = none)
    (hfound : directory.find record.threadId = some record)
    (hothers : ∀ threadId ≠ record.threadId, directory.find threadId = w.directory.find threadId) :
    Exclusive (w.stored directory) := by
  constructor
  · exact h.apart
  · exact h.alone
  · exact h.enters
  · exact h.running
  · intro j threadId turnId hj
    obtain ⟨stored, hfind, hrunning⟩ := h.saved j threadId turnId hj
    have hne : threadId ≠ record.threadId := by
      rintro rfl
      rw [hnone] at hfind
      cases hfind
    exact ⟨stored, (hothers threadId hne).trans hfind, hrunning⟩
  · intro threadId hengaged stored hfind
    by_cases hsame : threadId = record.threadId
    · subst hsame
      have heq := hfound.symm.trans hfind
      cases heq
      exact harchived
    · exact h.unarchived threadId hengaged stored ((hothers threadId hsame).symm.trans hfind)
  · exact h.opening
  · intro j threadId turnId hj stored hfind
    by_cases hsame : threadId = record.threadId
    · subst hsame
      have heq := hfound.symm.trans hfind
      cases heq
      simp [hturns]
    · exact h.runs j threadId turnId hj stored ((hothers threadId hsame).symm.trans hfind)
  · exact h.owner
  · exact h.known
  · intro threadId stored hfind
    by_cases hsame : threadId = record.threadId
    · subst hsame
      have heq := hfound.symm.trans hfind
      cases heq
      simp [hturns]
    · exact h.written threadId stored ((hothers threadId hsame).symm.trans hfind)

/-! ### Each step -/

/-- Where a check passes, nobody is at the thread. -/
theorem not_engaged_of_check (h : Exclusive w) {record : LocalCodexThreadRecord}
    (hstored : w.directory.find record.threadId = some record)
    (hsaving : ∀ j base turn, w.operations j = .saving base turn →
      base.threadId ≠ record.threadId)
    (hbusy : isBusy w.activeTurns record = false) : ¬ Engaged w record.threadId := by
  rw [isBusy, Bool.or_eq_false_iff, List.any_eq_false, List.any_eq_false] at hbusy
  rintro (⟨active, hactive, heq⟩ | ⟨j, hj⟩)
  · exact hbusy.2 active hactive (by rw [heq, beq_self_eq_true])
  · cases hoperation : w.operations j with
    | saving base turn =>
      rw [hoperation] at hj
      exact hsaving j base turn hoperation (Option.some.inj hj)
    | saved threadId turnId =>
      rw [hoperation] at hj
      cases hj
      obtain ⟨stored, hfind, turn, hturn, -, hrunning⟩ := h.saved j _ turnId hoperation
      rw [hstored, Option.some.injEq] at hfind
      subst hfind
      exact hbusy.1 turn hturn (by rw [hrunning, beq_self_eq_true])
    | idle | opening _ _ | starting _ | consuming _ | binding _ _ _ | closing _ _ | finishing _ _
    | archiving _ =>
      rw [hoperation] at hj
      cases hj

theorem mem_finish_turns {base : LocalCodexThreadRecord} {turnId completedAt : String}
    {status : TurnStatus} {events : List NormalizedCodexEvent} {failure : Option String}
    {turn' : LocalCodexTurnRecord}
    (h : turn' ∈ (base.finish turnId status events failure completedAt).turns) :
    ∃ turn ∈ base.turns, turn'.turnId = turn.turnId ∧ (turn.turnId ≠ turnId → turn' = turn) := by
  obtain ⟨turn, hturn, rfl⟩ := List.mem_map.mp h
  refine ⟨turn, hturn, ?_, fun hne ↦ finishedTurn_of_ne hne⟩
  unfold finishedTurn
  split_ifs <;> rfl

variable {context : StoreContext}

theorem Exclusive.start_step (h : Exclusive w) {record : LocalCodexThreadRecord}
    {directory : Directory} (hturns : record.turns = []) (harchived : record.archivedAt = none)
    (hcreate : createThread context record w.directory = (.ok (), directory)) :
    Exclusive ((w.moved i (.opening record false)).stored directory) := by
  obtain ⟨hnone, hfound, hothers⟩ := createThread_eq_ok hcreate
  have hunarchived : record.isArchived = false := by
    simp [LocalCodexThreadRecord.isArchived, harchived]
  have hcreated := h.create hturns hunarchived hnone hfound hothers
  refine hcreated.move (.opening record false) (Or.inl rfl) (Or.inl rfl) (fun _ _ heq ↦ ?_)
    (fun _ _ heq ↦ ?_) fun _ _ heq ↦ ?_
  · cases heq
  · cases heq
  · cases heq
    exact hunarchived

theorem Exclusive.checkEphemeral (h : Exclusive w) {record : LocalCodexThreadRecord}
    {turnId : String} (hcondition : Undisturbed i w)
    (hoperation : w.operations i = .opening record true)
    (hbusy : isBusy w.activeTurns record = false) :
    Exclusive (((w.moved i (.starting ⟨record.threadId, turnId, true⟩)).issued
      turnId).activated ⟨turnId, record.threadId⟩) := by
  rw [Undisturbed, hoperation] at hcondition
  have hfree := not_engaged_of_check h hcondition.1 hcondition.2 hbusy
  have hleft : Exclusive (w.moved i (.starting ⟨record.threadId, turnId, true⟩)) :=
    h.leave _ rfl (Or.inl rfl) fun _ _ heq ↦ by cases heq
  refine (hleft.issue turnId).activate ⟨turnId, record.threadId⟩ ?_ fun stored hfind ↦ ?_
  · rintro (hactive | ⟨j, hj⟩)
    · exact hfree (Or.inl hactive)
    · exact hfree (Or.inr ⟨j, entering_moved (Or.inl rfl) hj⟩)
  · have heq := hcondition.1.symm.trans hfind
    cases heq
    exact h.opening i record true hoperation

/-- The new turn is written. -/
theorem Exclusive.save (h : Exclusive w) {base : LocalCodexThreadRecord}
    {turn : LocalCodexTurnRecord} {directory : Directory} (hcondition : Undisturbed i w)
    (hoperation : w.operations i = .saving base turn)
    (hsave : saveThread context (base.begin turn) w.directory = (.ok (), directory)) :
    Exclusive ((w.moved i (.saved base.threadId turn.turnId)).stored directory) := by
  have hstored : w.directory.find base.threadId = some base := by
    simpa only [Undisturbed, hoperation] using hcondition
  have hwrite := overwrites_of_save hstored hsave rfl
  have hrunning := h.running i base turn hoperation
  have hentering : (w.operations i).entering = some base.threadId := by
    rw [hoperation]
    rfl
  have hturn : (w.operations i).turn = some (base.threadId, turn.turnId) := by
    rw [hoperation]
    rfl
  have hnew : turn ∈ (base.begin turn).turns :=
    List.mem_append_right _ (List.mem_singleton_self _)
  have hsaved : Exclusive (w.stored directory) := by
    refine h.overwrite hwrite
      (fun hengaged ↦ h.unarchived base.threadId hengaged base hstored) ?_ ?_ ?_
    · intro j turnId hj
      obtain ⟨record, hfind, other, hother, hrest⟩ := h.saved j _ turnId hj
      rw [hstored, Option.some.injEq] at hfind
      subst hfind
      exact ⟨other, List.mem_append_left _ hother, hrest⟩
    · intro j turnId hj other hother hid
      rcases List.mem_append.mp hother with hother | hother
      · exact h.runs j _ turnId hj base hstored other hother hid
      · rw [List.mem_singleton.mp hother]
        exact hrunning
    · intro other hother
      rcases List.mem_append.mp hother with hother | hother
      · exact h.written _ base hstored other hother
      · rw [List.mem_singleton.mp hother]
        exact h.known i _ turn.turnId hturn
  refine hsaved.move (.saved base.threadId turn.turnId) (Or.inr hentering.symm)
    (Or.inr hturn.symm) (fun _ _ heq ↦ ?_) (fun _ _ heq ↦ ?_) fun _ _ heq ↦ ?_
  · cases heq
  · cases heq
    exact ⟨base.begin turn, hwrite.after, turn, hnew, rfl, hrunning⟩
  · cases heq

theorem Exclusive.register (h : Exclusive w) {threadId turnId : String}
    (hoperation : w.operations i = .saved threadId turnId) :
    Exclusive ((w.moved i (.starting ⟨threadId, turnId, false⟩)).activated
      ⟨turnId, threadId⟩) := by
  have hentering : (w.operations i).entering = some threadId := by
    rw [hoperation]
    rfl
  have hleft : Exclusive (w.moved i (.starting ⟨threadId, turnId, false⟩)) :=
    h.leave _ rfl (Or.inr (by rw [hoperation]; rfl)) fun _ _ heq ↦ by cases heq
  refine hleft.activate ⟨turnId, threadId⟩ ?_ (h.unarchived threadId (Or.inr ⟨i, hentering⟩))
  rintro (⟨active, hactive, heq⟩ | ⟨j, hj⟩)
  · exact h.enters i threadId hentering active hactive heq
  · have hsame := h.alone j i threadId (entering_moved (Or.inl rfl) hj) hentering
    subst hsame
    rw [operations_moved_self] at hj
    cases hj

theorem Exclusive.bindWrite (h : Exclusive w) {turn : TurnIdentity}
    {base : LocalCodexThreadRecord} {sdkThreadId updatedAt : String} {directory : Directory}
    (hcondition : Undisturbed i w) (hoperation : w.operations i = .binding turn base sdkThreadId)
    (hsave : saveThread context (base.bind sdkThreadId updatedAt) w.directory =
      (.ok (), directory)) :
    Exclusive ((w.moved i (.consuming turn)).stored directory) := by
  have hstored : w.directory.find base.threadId = some base := by
    simpa only [Undisturbed, hoperation] using hcondition
  have hleft : Exclusive (w.moved i (.consuming turn)) :=
    h.leave _ rfl (Or.inr (by rw [hoperation]; rfl)) fun _ _ heq ↦ by cases heq
  exact hleft.rewrite (overwrites_of_save hstored hsave rfl)
    (fun hengaged ↦ hleft.unarchived base.threadId hengaged base hstored) rfl

/-- The turn is finished. -/
theorem Exclusive.finishWrite (h : Exclusive w) {base : LocalCodexThreadRecord}
    {turnId completedAt : String} {status : TurnStatus} {events : List NormalizedCodexEvent}
    {failure : Option String} {directory : Directory} (hcondition : Undisturbed i w)
    (hoperation : w.operations i = .finishing base turnId)
    (hsave : saveThread context (base.finish turnId status events failure completedAt)
      w.directory = (.ok (), directory)) :
    Exclusive ((w.moved i .idle).stored directory) := by
  have hstored : w.directory.find base.threadId = some base := by
    simpa only [Undisturbed, hoperation] using hcondition
  have hturn : (w.operations i).turn = some (base.threadId, turnId) := by
    rw [hoperation]
    rfl
  have hleft : Exclusive (w.moved i .idle) :=
    h.leave _ rfl (Or.inl rfl) fun _ _ heq ↦ by cases heq
  -- The turns that others are to finish are other turns.
  have hother : ∀ j id, ((w.moved i .idle).operations j).turn = some (base.threadId, id) →
      id ≠ turnId := by
    rintro j id hj rfl
    have hsame := h.owner j i _ _ (turn_moved (Or.inl rfl) hj) hturn rfl
    subst hsame
    rw [operations_moved_self] at hj
    cases hj
  refine hleft.overwrite (overwrites_of_save hstored hsave rfl)
    (fun hengaged ↦ hleft.unarchived base.threadId hengaged base hstored) ?_ ?_ ?_
  · intro j id hj
    obtain ⟨record, hfind, turn, hmem, hid, hrunning⟩ := hleft.saved j _ id hj
    have heq := hstored.symm.trans hfind
    cases heq
    have hne := hother j id (by rw [hj]; rfl)
    refine ⟨turn, List.mem_map.mpr ⟨turn, hmem, finishedTurn_of_ne ?_⟩, hid, hrunning⟩
    rwa [hid]
  · intro j id hj turn' hturn' hid
    obtain ⟨turn, hmem, hsame, hkeep⟩ := mem_finish_turns hturn'
    have hne := hother j id hj
    rw [hkeep (by rw [← hsame, hid]; exact hne)]
    exact hleft.runs j _ id hj base hstored turn hmem (by rw [← hsame, hid])
  · intro turn' hturn'
    obtain ⟨turn, hmem, hsame, -⟩ := mem_finish_turns hturn'
    rw [hsame]
    exact h.written _ base hstored turn hmem

theorem Exclusive.archiveWrite (h : Exclusive w) {base : LocalCodexThreadRecord}
    {archivedAt : String} {directory : Directory} (hcondition : Undisturbed i w)
    (hoperation : w.operations i = .archiving base)
    (hsave : saveThread context (base.archive archivedAt) w.directory = (.ok (), directory)) :
    Exclusive ((w.moved i .idle).stored directory) := by
  obtain ⟨hstored, hactive, hentering⟩ : w.directory.find base.threadId = some base ∧
      (∀ active ∈ w.activeTurns, active.threadId ≠ base.threadId) ∧
      ∀ j, (w.operations j).entering ≠ some base.threadId := by
    simpa only [Undisturbed, hoperation] using hcondition
  have hleft : Exclusive (w.moved i .idle) :=
    h.leave _ rfl (Or.inl rfl) fun _ _ heq ↦ by cases heq
  refine hleft.rewrite (overwrites_of_save hstored hsave rfl) ?_ rfl
  rintro (⟨active, hmem, heq⟩ | ⟨j, hj⟩)
  · exact absurd heq (hactive active hmem)
  · exact absurd (entering_moved (Or.inl rfl) hj) (hentering j)

/-- **Each undisturbed step keeps the threads exclusive.** -/
theorem Threads.Step.exclusive (hstep : Threads.Step context i w w') (hcondition : Undisturbed i w)
    (h : Exclusive w) : Exclusive w' := by
  cases hstep with
  | start record directory hoperation hturns hsdk harchived hcreate =>
    exact h.start_step hturns harchived hcreate
  | resume threadId record ephemeral hoperation hfind harchived hsdk =>
    refine h.move _ (Or.inl rfl) (Or.inl rfl) (fun _ _ heq ↦ ?_) (fun _ _ heq ↦ ?_)
      fun _ _ heq ↦ ?_
    · cases heq
    · cases heq
    · cases heq
      exact harchived
  | busy record ephemeral hoperation hbusy =>
    exact h.leave _ rfl (Or.inl rfl) fun _ _ heq ↦ by cases heq
  | check record turn hoperation hbusy hrunning hturnId =>
    rw [Undisturbed, hoperation] at hcondition
    have hfree := not_engaged_of_check h hcondition.1 hcondition.2 hbusy
    refine h.enter hfree hrunning (fun stored hfind ↦ ?_) hturnId
    rw [hcondition.1, Option.some.injEq] at hfind
    exact hfind ▸ h.opening i record false hoperation
  | checkEphemeral record turnId hoperation hbusy hturnId =>
    exact h.checkEphemeral hcondition hoperation hbusy
  | save base turn directory hoperation hsave =>
    exact h.save hcondition hoperation hsave
  | register threadId turnId hoperation =>
    exact h.register hoperation
  | started turn hoperation =>
    exact h.leave _ rfl (Or.inr (by rw [hoperation]; rfl)) fun _ _ heq ↦ by cases heq
  | endEphemeral turn hoperation hephemeral =>
    exact (h.leave _ rfl (Or.inl rfl) fun _ _ heq ↦ by cases heq).deactivate _
  | close turn hoperation hephemeral =>
    refine (h.leave _ rfl (Or.inr ?_) fun _ _ heq ↦ by cases heq).deactivate _
    rcases hoperation with hoperation | hoperation <;> rw [hoperation] <;>
      simp [Operation.turn, hephemeral]
  | bindRead turn record sdkThreadId hoperation hfind =>
    exact h.leave _ rfl (Or.inr (by rw [hoperation]; rfl)) fun _ _ heq ↦ by cases heq
  | bindWrite turn base sdkThreadId updatedAt directory hoperation hsdk hsave =>
    exact h.bindWrite hcondition hoperation hsave
  | bindSkip turn base sdkThreadId hoperation =>
    exact h.leave _ rfl (Or.inr (by rw [hoperation]; rfl)) fun _ _ heq ↦ by cases heq
  | finishRead threadId turnId record hoperation hfind =>
    refine h.leave _ rfl (Or.inr ?_) fun _ _ heq ↦ by cases heq
    rw [hoperation, Operation.turn, Operation.turn, threadId_find hfind]
  | finishWrite base turnId status events failure completedAt directory hoperation hstatus hsave =>
    exact h.finishWrite hcondition hoperation hsave
  | finishAgain base turnId hoperation =>
    exact h.leave _ rfl (Or.inr (by rw [hoperation]; rfl)) fun _ _ heq ↦ by cases heq
  | archiveRead threadId record hoperation hfind hactive harchived =>
    exact h.leave _ rfl (Or.inl rfl) fun _ _ heq ↦ by cases heq
  | archiveWrite base archivedAt directory hoperation hsave =>
    exact h.archiveWrite hcondition hoperation hsave
  | fail hoperation => exact h.leave _ rfl (Or.inl rfl) fun _ _ heq ↦ by cases heq

/-- **Each undisturbed step keeps what is stored.** -/
theorem Threads.Step.kept (hstep : Threads.Step context i w w') (hcondition : Undisturbed i w)
    (h : Exclusive w) : Kept w.directory w'.directory := by
  cases hstep with
  | start record directory hoperation hturns hsdk harchived hcreate =>
    obtain ⟨hnone, -, hothers⟩ := createThread_eq_ok hcreate
    intro threadId stored hfind
    have hne : threadId ≠ record.threadId := by
      rintro rfl
      rw [hnone] at hfind
      cases hfind
    exact ⟨stored, (hothers threadId hne).trans hfind, fun _ _ heq ↦ heq,
      fun turn hturn ↦ ⟨turn, hturn, .refl turn⟩⟩
  | save base turn directory hoperation hsave =>
    have hstored : w.directory.find base.threadId = some base := by
      simpa only [Undisturbed, hoperation] using hcondition
    exact (overwrites_of_save hstored hsave rfl).kept (fun _ _ heq ↦ heq)
      fun other hother ↦ ⟨other, List.mem_append_left _ hother, .refl other⟩
  | bindWrite turn base sdkThreadId updatedAt directory hoperation hsdk hsave =>
    have hstored : w.directory.find base.threadId = some base := by
      simpa only [Undisturbed, hoperation] using hcondition
    refine (overwrites_of_save hstored hsave rfl).kept (fun id hid heq ↦ ?_)
      fun other hother ↦ ⟨other, hother, .refl other⟩
    rw [heq] at hsdk
    exact absurd hsdk hid
  | finishWrite base turnId status events failure completedAt directory hoperation hstatus hsave =>
    have hstored : w.directory.find base.threadId = some base := by
      simpa only [Undisturbed, hoperation] using hcondition
    have hturn : (w.operations i).turn = some (base.threadId, turnId) := by
      rw [hoperation]
      rfl
    refine (overwrites_of_save hstored hsave rfl).kept (fun _ _ heq ↦ heq) fun turn hmem ↦
      ⟨finishedTurn turnId status events failure completedAt turn, List.mem_map_of_mem hmem, ?_⟩
    by_cases hid : turn.turnId = turnId
    · have hrunning := h.runs i _ turnId hturn base hstored turn hmem hid
      exact Or.inr ⟨hrunning, status, events, failure, completedAt, hstatus, by rw [hid]⟩
    · exact Or.inl (finishedTurn_of_ne hid)
  | archiveWrite base archivedAt directory hoperation hsave =>
    obtain ⟨hstored, -⟩ : w.directory.find base.threadId = some base ∧
        (∀ active ∈ w.activeTurns, active.threadId ≠ base.threadId) ∧
        ∀ j, (w.operations j).entering ≠ some base.threadId := by
      simpa only [Undisturbed, hoperation] using hcondition
    exact (overwrites_of_save hstored hsave rfl).kept (fun _ _ heq ↦ heq)
      fun other hother ↦ ⟨other, hother, .refl other⟩
  | resume | busy | check | checkEphemeral | register | started | endEphemeral | close | bindRead
  | bindSkip | finishRead | finishAgain | archiveRead | fail => exact .refl w.directory

/-- A check passes only where nobody is at the thread. -/
theorem Exclusive.refuses (h : Exclusive w) : Refuses context Undisturbed w := by
  intro j record ephemeral next hopening hengaged hstep hcondition
  obtain ⟨hstored, hsaving⟩ : w.directory.find record.threadId = some record ∧
      ∀ j base turn, w.operations j = .saving base turn → base.threadId ≠ record.threadId := by
    simpa only [Undisturbed, hopening] using hcondition
  have hbusy : isBusy w.activeTurns record = true := by
    by_contra hidle
    exact not_engaged_of_check h hstored hsaving (by simpa using hidle) hengaged
  cases hstep with
  | busy record' ephemeral' hoperation hbusy' => exact ⟨operations_moved_self _, rfl, rfl⟩
  | fail hoperation => exact ⟨operations_moved_self _, rfl, rfl⟩
  | check record' turn hoperation hidle hrunning hturnId =>
    rw [hopening] at hoperation
    cases hoperation
    rw [hbusy] at hidle
    cases hidle
  | checkEphemeral record' turnId hoperation hidle hturnId =>
    rw [hopening] at hoperation
    cases hoperation
    rw [hbusy] at hidle
    cases hidle
  | endEphemeral turn hoperation | close turn hoperation =>
    rcases hoperation with hoperation | hoperation <;> rw [hopening] at hoperation <;>
      cases hoperation
  | start record' directory hoperation | resume threadId record' ephemeral' hoperation
  | save base turn directory hoperation | register threadId turnId hoperation
  | started turn hoperation | bindRead turn record' sdkThreadId hoperation
  | bindWrite turn base sdkThreadId updatedAt directory hoperation
  | bindSkip turn base sdkThreadId hoperation | finishRead threadId turnId record' hoperation
  | finishWrite base turnId status events failure completedAt directory hoperation
  | finishAgain base turnId hoperation | archiveRead threadId record' hoperation
  | archiveWrite base archivedAt directory hoperation =>
    rw [hopening] at hoperation
    cases hoperation

/-! ### Runs -/

theorem exclusive_start (directory : Directory) : Exclusive (Threads.start directory) := by
  constructor
  · exact List.Pairwise.nil
  · exact fun j k threadId hj ↦ by cases hj
  · exact fun j threadId hj ↦ by cases hj
  · exact fun j base turn hj ↦ by cases hj
  · exact fun j threadId turnId hj ↦ by cases hj
  · rintro threadId (⟨active, hactive, -⟩ | ⟨j, hj⟩)
    · exact absurd hactive List.not_mem_nil
    · cases hj
  · exact fun j record ephemeral hj ↦ by cases hj
  · exact fun j threadId turnId hj ↦ by cases hj
  · exact fun j k first second hj ↦ by cases hj
  · exact fun j threadId turnId hj ↦ by cases hj
  · intro threadId record hfind turn hturn
    exact List.mem_flatMap.mpr
      ⟨record, List.mem_of_find?_eq_some hfind, List.mem_map_of_mem hturn⟩

theorem Threads.Run.exclusive (hrun : Threads.Run context Undisturbed w w') (h : Exclusive w) :
    Exclusive w' := by
  induction hrun with
  | nil => exact h
  | step _ j hstep hcondition ih => exact hstep.exclusive hcondition ih

theorem Threads.Run.kept (hrun : Threads.Run context Undisturbed w w') (h : Exclusive w) :
    Kept w.directory w'.directory := by
  induction hrun with
  | nil => exact .refl _
  | step hrun j hstep hcondition ih => exact ih.trans (hstep.kept hcondition (hrun.exclusive h))

/-- **One turn a thread, and nothing that is stored is lost.** -/
theorem separated (context : StoreContext) (directory : Directory) {w : Threads}
    (hrun : Threads.Run context Undisturbed (Threads.start directory) w) :
    Separated context Undisturbed w := by
  have h := hrun.exclusive (exclusive_start directory)
  exact ⟨h.oneTurn, h.refuses, fun w' hrun' ↦ hrun'.kept h⟩

/-! ### Two turns at once -/

def idleDirectory : Directory :=
  ⟨[idleRecord], 0⟩

def firstTurn : LocalCodexTurnRecord :=
  runningTurn { sampleInput with turnId := "first" } "message" "2026-01-01T00:00:00.000Z"

def secondTurn : LocalCodexTurnRecord :=
  runningTurn { sampleInput with turnId := "second" } "message" "2026-01-01T00:00:00.000Z"

/-- Both resumptions of the thread have read its record. -/
def bothRead : Threads :=
  ((Threads.start idleDirectory).moved 0 (.opening idleRecord false)).moved 1
    (.opening idleRecord false)

theorem run_bothRead (condition : ℕ → Threads → Prop)
    (h : ∀ j w, (w.operations j = .idle) → condition j w) :
    Threads.Run sampleContext condition (Threads.start idleDirectory) bothRead := by
  refine (Threads.Run.nil.step 0 (.resume "thread" idleRecord false rfl rfl rfl (by decide))
    (h 0 _ rfl)).step 1 ?_ (h 1 _ rfl)
  exact .resume "thread" idleRecord false rfl rfl rfl (by decide)

/-- Both have checked it, and both have a turn to write. -/
def bothChecked : Threads :=
  (((bothRead.moved 0 (.saving idleRecord firstTurn)).issued "first").moved 1
    (.saving idleRecord secondTurn)).issued "second"

/-- Both have written it, the second over the first. -/
def bothSaved : Threads :=
  (((bothChecked.moved 0 (.saved "thread" "first")).stored
    ⟨[idleRecord.begin firstTurn], 1⟩).moved 1 (.saved "thread" "second")).stored
      ⟨[idleRecord.begin secondTurn], 2⟩

def bothActive : Threads :=
  (((bothSaved.moved 0 (.starting ⟨"thread", "first", false⟩)).activated
    ⟨"first", "thread"⟩).moved 1 (.starting ⟨"thread", "second", false⟩)).activated
      ⟨"second", "thread"⟩

theorem run_bothActive :
    Threads.Run sampleContext (fun _ _ ↦ True) (Threads.start idleDirectory) bothActive := by
  have hread := run_bothRead (fun _ _ ↦ True) fun _ _ _ ↦ trivial
  have hchecked : Threads.Run sampleContext (fun _ _ ↦ True) (Threads.start idleDirectory)
      bothChecked := by
    refine (hread.step 0 (.check idleRecord firstTurn rfl rfl rfl (by decide)) trivial).step 1 ?_
      trivial
    exact .check idleRecord secondTurn rfl rfl rfl (by decide)
  have hsaved : Threads.Run sampleContext (fun _ _ ↦ True) (Threads.start idleDirectory)
      bothSaved := by
    refine (hchecked.step 0 (.save idleRecord firstTurn _ rfl rfl) trivial).step 1 ?_ trivial
    exact .save idleRecord secondTurn _ rfl rfl
  refine (hsaved.step 0 (.register "thread" "first" rfl) trivial).step 1 ?_ trivial
  exact .register "thread" "second" rfl

/-- Two resumptions that read the thread before either of them writes it both make a turn of it
active. -/
theorem not_separated_bothActive :
    ¬ ∀ w, Threads.Run sampleContext (fun _ _ ↦ True) (Threads.start idleDirectory) w →
      Separated sampleContext (fun _ _ ↦ True) w := by
  intro hclaim
  have hone := (hclaim bothActive run_bothActive).turns.one
  have hactive : bothActive.activeTurns = [⟨"first", "thread"⟩, ⟨"second", "thread"⟩] := rfl
  rw [hactive, List.pairwise_pair] at hone
  exact hone rfl

/-- Both may read it. -/
theorem separated_bothRead : Separated sampleContext Undisturbed bothRead :=
  separated sampleContext idleDirectory (run_bothRead Undisturbed fun j w hidle ↦ by
    rw [Undisturbed, hidle]
    trivial)

end

end LocalAgent

end HMaigc
