import HMaigc.Keyed.Overlay
import HMaigc.Ops.Monotonicity
import HMaigc.Ops.Store

/-!
# From the journal to the row

The controller looks at the files a runner has left and brings its own row of the operation up to
date.  Each file is a fact with the generation of the runner that wrote it; a fact of a lower
generation than the row's is passed over.

* `RunnerFacts`, `Journal.runnerFacts` — the files, read.
* `RunnerFacts.project` — the row they make of another; `project_project` — making it twice makes
  the same row.
* `Database`, `project` — the projection as the controller runs it, events included.
-/

set_option autoImplicit false

namespace HMaigc.Ops

open Go

/-! ## The facts, one by one -/

def preserveControlStatus : OperationStatus → Bool
  | .cancelling | .recovering | .recoveryRequired => true
  | _ => false

def laterTime (current candidate : Time) : Time :=
  if current < candidate then candidate else current

def runnerVersionForRequest (request : OperationRequestFile) : String :=
  if request.runnerSource = .target then request.expectedVersion
  else request.controllerVersionAtStart

/-- The status of an operation whose runner has been heard of. -/
def underWay (status : OperationStatus) : OperationStatus :=
  if preserveControlStatus status then status else .running

def projectLease (request : OperationRequestFile) (lease : RunnerLease) (o : Operation) :
    Operation :=
  { o with
    runnerVersion := runnerVersionForRequest request
    runnerGeneration := lease.generation
    runnerDigest := lease.runnerDigest
    startedAt := o.startedAt <|> some lease.acquiredAt
    status := if o.status = .queued then .running else o.status
    stage := if o.status = .queued then .runnerPreparing else o.stage
    phase := if o.status = .queued then phaseForStage .runnerPreparing else o.phase
    updatedAt := laterTime o.updatedAt lease.acquiredAt }

def projectHeartbeat (heartbeat : RunnerHeartbeat) (o : Operation) : Operation :=
  { o with
    runnerGeneration := heartbeat.generation
    heartbeatAt := some heartbeat.observedAt
    stage := heartbeat.stage
    serviceState := heartbeat.serviceState
    checkpointSequence := heartbeat.sequence
    status := underWay o.status
    phase := phaseForStage heartbeat.stage
    updatedAt := laterTime o.updatedAt heartbeat.observedAt }

def projectCheckpoint (request : OperationRequestFile) (checkpoint : OperationCheckpoint)
    (o : Operation) : Operation :=
  { o with
    runnerVersion := runnerVersionForRequest request
    runnerGeneration := checkpoint.generation
    runnerDigest := checkpoint.runnerDigest
    stage := checkpoint.stage
    serviceState := checkpoint.serviceState
    checkpointSequence := checkpoint.sequence
    recoveryAction := checkpoint.nextSafeAction
    warnings := checkpoint.warnings
    errorCode := checkpoint.failureCode
    error := checkpoint.failureMessage
    startedAt := o.startedAt <|> checkpoint.stageStartedAt
    status := underWay o.status
    phase := phaseForStage checkpoint.stage
    updatedAt := laterTime o.updatedAt checkpoint.updatedAt }

def projectResult (result : OperationResult) (o : Operation) : Operation :=
  { o with
    runnerGeneration := result.generation
    status := result.status
    stage := .completed
    phase := phaseForResult result.status o.recoveryAction
    resultVersion := result.resultVersion
    resultControllerVersion := result.controllerVersion
    serviceState := result.serviceState
    controllerHandoff := result.controllerHandoff
    warnings := result.warnings
    errorCode := result.errorCode
    error := result.error
    completedAt := some result.completedAt
    updatedAt := laterTime o.updatedAt result.completedAt }

/-- The statuses in which a command to stop is heeded. -/
def canStop (status : OperationStatus) : Bool :=
  !isTerminalStatus status && status != .recoveryRequired

def stopRequested (cancel : CancelOperationCommand) (o : Operation) : Operation :=
  { o with
    status := .cancelling
    phase := "已收到停止请求，等待安全点"
    cancelRequestedAt := some cancel.requestedAt
    updatedAt := laterTime o.updatedAt cancel.requestedAt }

def projectCancel (cancel : Option CancelOperationCommand) (o : Operation) : Operation :=
  match cancel with
  | some cancel => if canStop o.status then stopRequested cancel o else o
  | none => o

/-! ## All of them -/

/-- The files of a runner, and the controller's command to stop. -/
structure RunnerFacts where
  lease : Option RunnerLease := none
  heartbeat : Option RunnerHeartbeat := none
  checkpoint : Option OperationCheckpoint := none
  result : Option OperationResult := none
  cancel : Option CancelOperationCommand := none
  deriving DecidableEq

/-- A file need not be there. -/
def ifExists {α : Type} : Except OpsError α → Except OpsError (Option α)
  | .ok fact => .ok (some fact)
  | .error err => if err.kind = .notExist then .ok none else .error err

def Journal.runnerFacts (j : Journal) (secret operationID : String) (now : Time) :
    Except OpsError RunnerFacts := do
  let lease ← ifExists (j.readLease operationID)
  let heartbeat ← ifExists (j.readHeartbeat operationID)
  let checkpoint ← ifExists (j.readCheckpoint operationID)
  let result ← ifExists (j.readResult operationID)
  let cancel ← ifExists (j.readCancelCommand secret operationID now)
  return { lease, heartbeat, checkpoint, result, cancel }

/-- A fact counts if its generation is not below the row's. -/
def newest {α : Type} (generation : α → ℕ) (f : α → Operation → Operation) (fact : Option α)
    (o : Operation) : Operation :=
  match fact with
  | some fact => if o.runnerGeneration ≤ generation fact then f fact o else o
  | none => o

/-- The row the facts make of the stored one. -/
def RunnerFacts.project (request : OperationRequestFile) (facts : RunnerFacts) (o : Operation) :
    Operation :=
  let o := newest (·.generation) (projectLease request) facts.lease o
  let o := newest (·.generation) projectHeartbeat facts.heartbeat o
  let o := newest (·.generation) (projectCheckpoint request) facts.checkpoint o
  let o := newest (·.generation) projectResult facts.result o
  projectCancel facts.cancel o

namespace RunnerFacts

/-- The facts of the generations that pass a test.  The command to stop has no generation. -/
def only (p : ℕ → Bool) (facts : RunnerFacts) : RunnerFacts where
  lease := facts.lease.filter (p ·.generation)
  heartbeat := facts.heartbeat.filter (p ·.generation)
  checkpoint := facts.checkpoint.filter (p ·.generation)
  result := facts.result.filter (p ·.generation)
  cancel := facts.cancel

/-- The facts as layers over the row. -/
def layers (request : OperationRequestFile) (facts : RunnerFacts) :
    List (Overlay.Fact Operation.runnerGeneration) :=
  (facts.lease.map fun lease ↦
    ⟨lease.generation, projectLease request lease, fun _ ↦ rfl⟩).toList ++
  (facts.heartbeat.map fun heartbeat ↦
    ⟨heartbeat.generation, projectHeartbeat heartbeat, fun _ ↦ rfl⟩).toList ++
  (facts.checkpoint.map fun checkpoint ↦
    ⟨checkpoint.generation, projectCheckpoint request checkpoint, fun _ ↦ rfl⟩).toList ++
  (facts.result.map fun result ↦ ⟨result.generation, projectResult result, fun _ ↦ rfl⟩).toList

variable (request : OperationRequestFile) (facts : RunnerFacts) (o : Operation)

theorem project_eq_run :
    facts.project request o =
      projectCancel facts.cancel (Overlay.run (facts.layers request) o) := by
  rcases facts with ⟨lease, heartbeat, checkpoint, result, cancel⟩
  cases lease <;> cases heartbeat <;> cases checkpoint <;> cases result <;> rfl

theorem layers_only (p : ℕ → Bool) :
    (facts.only p).layers request = (facts.layers request).filter (p ·.stamp) := by
  have hone : ∀ {α : Type} (file : Option α) (f : α → Overlay.Fact Operation.runnerGeneration)
      (generation : α → ℕ), (∀ a, (f a).stamp = generation a) →
      ((file.filter (p <| generation ·)).map f).toList =
        (file.map f).toList.filter (p ·.stamp) := by
    intro α file f generation hstamp
    cases file with
    | none => rfl
    | some a => cases hp : p (generation a) <;> simp [hp, hstamp]
  simp only [layers, only, List.filter_append]
  rw [hone _ _ _ fun _ ↦ rfl, hone _ _ _ fun _ ↦ rfl, hone _ _ _ fun _ ↦ rfl,
    hone _ _ _ fun _ ↦ rfl]

end RunnerFacts

/-! ## Laying the facts over the row again -/

theorem laterTime_eq_max (current candidate : Time) :
    laterTime current candidate = max current candidate := by
  rw [laterTime]
  split
  · exact (max_eq_right (Nat.le_of_lt ‹_›)).symm
  · exact (max_eq_left (Nat.le_of_not_lt ‹_›)).symm

theorem max_self_left (a b : Time) : max a (max a b) = max a b :=
  max_eq_right (Nat.le_max_left a b)

@[simp] theorem underWay_underWay (status : OperationStatus) :
    underWay (underWay status) = underWay status := by
  cases status <;> rfl

@[simp] theorem underWay_ne_queued (status : OperationStatus) : underWay status ≠ .queued := by
  cases status <;> decide

@[simp] theorem underWay_cancelling : underWay .cancelling = .cancelling := rfl

@[simp] theorem canStop_cancelling : canStop .cancelling = true := rfl

@[simp] theorem started_ne_queued (status : OperationStatus) :
    (if status = .queued then .running else status) ≠ OperationStatus.queued := by
  cases status <;> decide

@[simp] theorem or_or_self {α : Type} (a b : Option α) : (a.or b).or b = a.or b := by
  cases a <;> cases b <;> rfl

@[simp] theorem runnerGeneration_projectCancel (cancel : Option CancelOperationCommand)
    (o : Operation) : (projectCancel cancel o).runnerGeneration = o.runnerGeneration := by
  cases cancel with
  | none => rfl
  | some cancel =>
    rw [projectCancel]
    split <;> rfl

namespace RunnerFacts

variable (request : OperationRequestFile) (facts : RunnerFacts) (o : Operation)

theorem compose_compose : Overlay.compose (facts.layers request)
    (Overlay.compose (facts.layers request) o) = Overlay.compose (facts.layers request) o := by
  rcases facts with ⟨lease, heartbeat, checkpoint, result, cancel⟩
  cases lease <;> cases heartbeat <;> cases checkpoint <;> cases result <;>
    simp only [layers, Option.map_none, Option.map_some, Option.toList_none, Option.toList_some,
      List.append_nil, List.nil_append, List.cons_append, Overlay.compose_nil,
      Overlay.compose_cons, projectLease, projectHeartbeat, projectCheckpoint, projectResult,
      laterTime_eq_max, Nat.max_left_comm, Nat.max_comm, Nat.max_self, max_self_left,
      Option.orElse_eq_orElse, Option.orElse_eq_or, Option.or_some, Option.some_or,
      Option.getD_some, or_or_self, underWay_underWay, underWay_ne_queued, started_ne_queued,
      ↓reduceIte]

/-- A command to stop that is heeded is heeded again. -/
theorem compose_stopRequested (cancel : CancelOperationCommand)
    (h : canStop (Overlay.compose (facts.layers request) o).status = true) :
    projectCancel (some cancel) (Overlay.compose (facts.layers request)
      (stopRequested cancel (Overlay.compose (facts.layers request) o))) =
    stopRequested cancel (Overlay.compose (facts.layers request) o) := by
  revert h
  rcases facts with ⟨lease, heartbeat, checkpoint, result, _⟩
  cases lease <;> cases heartbeat <;> cases checkpoint <;> cases result <;>
    simp +contextual only [layers, Option.map_none, Option.map_some, Option.toList_none,
      Option.toList_some, List.append_nil, List.nil_append, List.cons_append,
      Overlay.compose_nil, Overlay.compose_cons, projectLease, projectHeartbeat,
      projectCheckpoint, projectResult, projectCancel, stopRequested, laterTime_eq_max,
      Nat.max_left_comm, Nat.max_comm, Nat.max_self, max_self_left, Option.orElse_eq_orElse,
      Option.orElse_eq_or, Option.or_some, Option.some_or, Option.getD_some, or_or_self,
      underWay_underWay, underWay_cancelling, canStop_cancelling, implies_true, reduceCtorEq,
      ↓reduceIte]

theorem projectCancel_compose : projectCancel facts.cancel (Overlay.compose (facts.layers request)
      (projectCancel facts.cancel (Overlay.compose (facts.layers request) o))) =
    projectCancel facts.cancel (Overlay.compose (facts.layers request) o) := by
  cases hcancel : facts.cancel with
  | none => exact compose_compose request facts o
  | some cancel =>
    by_cases h : canStop (Overlay.compose (facts.layers request) o).status = true
    · have hstop : projectCancel (some cancel) (Overlay.compose (facts.layers request) o) =
          stopRequested cancel (Overlay.compose (facts.layers request) o) := if_pos h
      rw [hstop]
      exact compose_stopRequested request facts o cancel h
    · have hskip : projectCancel (some cancel) (Overlay.compose (facts.layers request) o) =
          Overlay.compose (facts.layers request) o := if_neg h
      rw [hskip, compose_compose, hskip]

/-- **Projecting the same facts twice makes the same row.** -/
theorem project_project :
    facts.project request (facts.project request o) = facts.project request o := by
  simp only [project_eq_run]
  refine Overlay.run_run (projectCancel facts.cancel) (runnerGeneration_projectCancel _) ?_ o
  intro g z
  rw [← layers_only request facts (fun stamp ↦ decide (stamp = g))]
  exact projectCancel_compose request (facts.only _) z

/-- **Facts of a lower generation than the row's do not count.** -/
theorem project_only :
    (facts.only (o.runnerGeneration ≤ ·)).project request o = facts.project request o := by
  rw [project_eq_run, project_eq_run, layers_only]
  exact congrArg (projectCancel facts.cancel) (Overlay.run_filter _ (Nat.le_refl _))

/-- **The generation of the row never falls.** -/
theorem generation_le_project :
    o.runnerGeneration ≤ (facts.project request o).runnerGeneration := by
  rw [project_eq_run, runnerGeneration_projectCancel]
  exact Overlay.generation_le_run _ _

/-- The row of a terminal operation is what the runner's files make of it. -/
theorem run_eq_of_terminal (hproject : facts.project request o = o)
    (hterminal : isTerminalStatus o.status = true) :
    Overlay.run (facts.layers request) o = o := by
  rw [project_eq_run] at hproject
  cases hcancel : facts.cancel with
  | none => rwa [hcancel] at hproject
  | some cancel =>
    rw [hcancel, projectCancel] at hproject
    split at hproject
    · rw [← hproject] at hterminal
      cases hterminal
    · exact hproject

/-- The command to stop is of no account to a terminal operation. -/
theorem project_eq_self_of_run (hrun : Overlay.run (facts.layers request) o = o)
    (hterminal : isTerminalStatus o.status = true) : facts.project request o = o := by
  have hstop : canStop o.status = false := by rw [canStop, hterminal]; rfl
  rw [project_eq_run, hrun]
  cases facts.cancel with
  | none => rfl
  | some cancel =>
    rw [projectCancel]
    exact if_neg (by rw [hstop]; decide)

end RunnerFacts

/-! ## The columns a projection does not replace -/

/-- The columns of a row that are set when it is created. -/
def Operation.withOrigin (o p : Operation) : Operation :=
  { p with
    id := o.id, action := o.action, targetVersion := o.targetVersion
    currentVersionAtStart := o.currentVersionAtStart
    controllerVersionAtStart := o.controllerVersionAtStart
    actorUserID := o.actorUserID, actorDisplayName := o.actorDisplayName
    idempotencyKey := o.idempotencyKey, requestHash := o.requestHash, createdAt := o.createdAt }

theorem newest_withOrigin {α : Type} (generation : α → ℕ) (f : α → Operation → Operation)
    {o : Operation} (hf : ∀ a p, f a (o.withOrigin p) = o.withOrigin (f a p)) (fact : Option α)
    (p : Operation) :
    newest generation f fact (o.withOrigin p) = o.withOrigin (newest generation f fact p) := by
  cases fact with
  | none => rfl
  | some a =>
    rw [newest, newest, apply_ite o.withOrigin, hf]
    rfl

theorem projectCancel_withOrigin (cancel : Option CancelOperationCommand) (o p : Operation) :
    projectCancel cancel (o.withOrigin p) = o.withOrigin (projectCancel cancel p) := by
  cases cancel with
  | none => rfl
  | some cancel =>
    rw [projectCancel, projectCancel, apply_ite o.withOrigin]
    rfl

/-- The facts leave them alone. -/
theorem withOrigin_project (request : OperationRequestFile) (facts : RunnerFacts) (o : Operation) :
    o.withOrigin (facts.project request o) = facts.project request o := by
  have hself : o.withOrigin o = o := rfl
  conv_rhs => rw [← hself]
  simp only [RunnerFacts.project]
  rw [newest_withOrigin _ (projectLease request) fun _ _ ↦ rfl,
    newest_withOrigin _ projectHeartbeat fun _ _ ↦ rfl,
    newest_withOrigin _ (projectCheckpoint request) fun _ _ ↦ rfl,
    newest_withOrigin _ projectResult fun _ _ ↦ rfl, projectCancel_withOrigin]

/-! ## The controller's database -/

/-- A line of an operation's log. -/
structure OperationLog where
  operationID : String
  stream : String
  message : String
  createdAt : Time
  deriving DecidableEq

/-- The primary key of the table of events that have been projected. -/
abbrev EventKey : Type := String × ℕ × ℕ

def OperationEvent.key (event : OperationEvent) : EventKey :=
  (event.operationID, event.generation, event.sequence)

def OperationEvent.log (event : OperationEvent) : OperationLog :=
  ⟨event.operationID, event.stream, event.message, event.createdAt⟩

structure Database where
  operations : Store := ∅
  projected : List EventKey := []
  logs : List OperationLog := []

/-- Mark and line are written in one transaction, or neither is where the mark is there. -/
def appendProjectedEvent (db : Database) (event : OperationEvent) : Database :=
  if event.key ∈ db.projected then db
  else { db with projected := db.projected ++ [event.key], logs := db.logs ++ [event.log] }

/-- The events of some generations, one generation after the other. -/
def appendEvents (j : Journal) (operationID : String) :
    List ℕ → Database → Except OpsError Unit × Database
  | [], db => (.ok (), db)
  | generation :: generations, db =>
    match j.readEvents operationID generation 0 with
    | .error err => (.error err, db)
    | .ok events => appendEvents j operationID generations (events.foldl appendProjectedEvent db)

/-- `Projector.Project`. -/
def project (secret : String) (now : Time) (operationID : String) (j : Journal) (db : Database) :
    Except OpsError Unit × Database :=
  match j.readRequest operationID with
  | .error err => (.error err, db)
  | .ok request =>
    match importRequest request db.operations with
    | (.error err, operations) => (.error err, { db with operations })
    | (.ok _, operations) =>
      match operations.operation operationID with
      | .error err => (.error err, { db with operations })
      | .ok current =>
        match j.runnerFacts secret operationID now with
        | .error err => (.error err, { db with operations })
        | .ok facts =>
          let projection := facts.project request current
          match appendEvents j operationID (List.range' 1 projection.runnerGeneration)
              { db with operations } with
          | (.error err, db) => (.error err, db)
          | (.ok (), db) =>
            let (result, operations) :=
              projectOperation operationID current.status current.stage projection db.operations
            (result, { db with operations })

end HMaigc.Ops
