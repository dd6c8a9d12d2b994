import HMaigc.Ops.Recovery

/-!
# The runner's engine

`Engine.run` carries out one operation: it takes up the plan of the operation's action where the
checkpoint left it, executes one stage after another, and ends with a result.  Each stage is framed
by events — an intent before it, a fact or a failure after it — and followed by a checkpoint; the
runner may die between any two of these writes.

A stage is carried out by a script the engine knows nothing about: what it reports is an `Answer`.
-/

set_option autoImplicit false

namespace HMaigc.Ops

open Go Concurrent

structure RunInput where
  operationID : String
  generation : ℕ
  fencingToken : String
  runnerDigest : String
  recoveryAction : Option RecoveryAction := none
  commandSecret : String
  deriving DecidableEq, Repr

/-- The engine, with the hash it fingerprints tokens with. -/
structure Engine where
  hashToken : String → String

def errRunnerLeaseLost : OpsError := ⟨.runnerLeaseLost, "runner lease ownership lost"⟩

def validateRunInput (input : RunInput) : Except OpsError Unit :=
  if input.operationID = "" ∨ input.generation = 0 ∨ input.fencingToken = "" ∨
      input.runnerDigest = "" then
    .error (errOther "runner operation id, generation, fencing token, and digest are required")
  else if input.commandSecret.utf8ByteSize < 32 then
    .error (errOther "runner command secret must contain at least 32 bytes")
  else .ok ()

/-! ## Checkpoints -/

/-- A text the stage reported replaces the one on record. -/
def reported (text old : String) : String := if text ≠ "" then text else old

def applyStageOutput (checkpoint : OperationCheckpoint) (stage : OperationStage)
    (output : StageOutput) : OperationCheckpoint :=
  { checkpoint with
    serviceState := output.serviceState.getD checkpoint.serviceState
    currentVersion := reported output.currentVersion checkpoint.currentVersion
    backupPath := reported output.backupPath checkpoint.backupPath
    backupChecksumStatus := reported output.backupChecksumStatus checkpoint.backupChecksumStatus
    backendImage := reported output.backendImage checkpoint.backendImage
    webImage := reported output.webImage checkpoint.webImage
    backupHelperImage := reported output.backupHelperImage checkpoint.backupHelperImage
    candidateControllerImage :=
      reported output.controllerImage checkpoint.candidateControllerImage
    currentControllerVersion :=
      reported output.controllerVersion checkpoint.currentControllerVersion
    controllerHandoff := output.controllerHandoff <|> checkpoint.controllerHandoff
    warnings := checkpoint.warnings ++ output.warnings
    verifiedRecoveryPoint := checkpoint.verifiedRecoveryPoint || output.verifiedRecoveryPoint
    dataMigrationStarted := checkpoint.dataMigrationStarted || output.dataMigrationStarted
    targetBackendHealthy := checkpoint.targetBackendHealthy || output.targetBackendHealthy
    targetWebHealthy := checkpoint.targetWebHealthy || output.targetWebHealthy
    releaseCommitted := checkpoint.releaseCommitted || output.releaseCommitted
    writesQuiesced :=
      if stage = .restoringCurrent ∨ stage = .restoringBackup ∨
          output.serviceState = some .targetOnline then false
      else output.writesQuiesced }

/-- The checkpoint of a stage that is done. -/
def advanceCheckpoint (checkpoint : OperationCheckpoint) (stage : OperationStage)
    (output : StageOutput) (completedAt : Time) (sequence : ℕ) : OperationCheckpoint :=
  { applyStageOutput checkpoint stage output with
    previousCompletedStage := some checkpoint.stage
    stage := stage, stageStartedAt := some completedAt, stageCompletedAt := some completedAt
    sequence := sequence, failureCode := none, failureMessage := "", updatedAt := completedAt }

def validateCheckpointRequestContract (checkpoint : OperationCheckpoint)
    (request : OperationRequestFile) : Except OpsError Unit :=
  if checkpoint.operationID ≠ request.operationID ∨ checkpoint.action ≠ request.request.action ∨
      checkpoint.expectedVersion ≠ request.expectedVersion ∨
      checkpoint.targetVersion ≠ operationTargetVersion request then
    .error (errCorruptFact "checkpoint diverges from immutable operation request")
  else .ok ()

/-- The result of an operation, from its checkpoint. -/
def terminalResult (input : RunInput) (checkpoint : OperationCheckpoint)
    (status : OperationStatus) (errorCode : Option OperationErrorCode) (errorMessage : String)
    (now : Time) : OperationResult where
  operationID := input.operationID
  generation := input.generation
  status := status
  resultVersion :=
    if status = .succeeded then checkpoint.expectedVersion else checkpoint.currentVersion
  controllerVersion := checkpoint.currentControllerVersion
  serviceState := checkpoint.serviceState
  controllerHandoff := some (checkpoint.controllerHandoff.getD .unchanged)
  warnings := checkpoint.warnings
  errorCode := errorCode
  error := errorMessage
  completedAt := now

def writeTerminalResult (input : RunInput) (checkpoint : OperationCheckpoint)
    (status : OperationStatus) (errorCode : Option OperationErrorCode) (errorMessage : String) :
    OpsProc Unit := do
  let now ← clock
  writeJournal
    (writeResult input.operationID (terminalResult input checkpoint status errorCode errorMessage now))

/-! ## Executing a stage -/

/-- The next event of a run, and its number. -/
def appendRunEvent (input : RunInput) (sequence : ℕ) (kind : EventKind) (stage : OperationStage)
    (message : String) : OpsProc ℕ := do
  let now ← clock
  writeJournal (appendEvent {
    operationID := input.operationID, generation := input.generation, sequence := sequence + 1
    kind := kind, stage := stage, message := message, createdAt := now })
  return sequence + 1

/-- What executing a stage came to, and the number of the last event. -/
structure StageOutcome where
  sequence : ℕ
  output : StageOutput
  failure : Option OpsError

def validateStageOutput (request : OperationRequestFile) (stage : OperationStage)
    (output : StageOutput) : Option OpsError :=
  if output.resultVersion = "" ∨ stage = .restoringCurrent ∨ stage = .restoringBackup then none
  else if output.resultVersion ≠ request.expectedVersion then
    some (errOther ("stage " ++ stage.name ++ " reported result version " ++
      output.resultVersion ++ ", expected " ++ request.expectedVersion))
  else none

/-- The script, from here on out of the engine's hands. -/
def beginStage (run : StageRun) : OpsProc StageReport := do
  Proc.atomic fun w ↦ (.ok (), { w with executed := w.executed ++ [run] })
  match ← Proc.answer with
  | .stage report => return report
  | _ => return default

def executeStage (input : RunInput) (request : OperationRequestFile) (purpose : Purpose)
    (stage : OperationStage) (sequence : ℕ) : OpsProc StageOutcome := do
  match ← (appendRunEvent input sequence .intent stage "stage intent persisted").observe with
  | .error err => return ⟨sequence, {}, some err⟩
  | .ok intent =>
    let report ← beginStage ⟨input.operationID, input.generation, purpose, stage⟩
    match report.failure <|> validateStageOutput request stage report.output with
    | some err =>
      match ← (appendRunEvent input intent .failure stage err.message).observe with
      | .error appendErr => return ⟨intent, report.output, some (err.join appendErr)⟩
      | .ok failure => return ⟨failure, report.output, some err⟩
    | none =>
      match ← (appendRunEvent input intent .fact stage "stage fact persisted").observe with
      | .error err => return ⟨intent, {}, some err⟩
      | .ok fact => return ⟨fact, report.output, none⟩

/-! ## A run -/

namespace Engine

variable (e : Engine)

def validateOwnership (input : RunInput) : OpsProc Unit := do
  let w ← Proc.look
  match w.journal.readLease input.operationID with
  | .error err => .fail (errRunnerLeaseLost.wrap ("read durable lease: " ++ err.message))
  | .ok lease =>
    if lease.generation ≠ input.generation ∨ lease.tokenHash ≠ e.hashToken input.fencingToken ∨
        lease.runnerDigest ≠ input.runnerDigest ∨ lease.expiresAt ≤ w.now then
      .fail (errRunnerLeaseLost.wrap "generation, token, digest, or expiry no longer matches")
    else return ()

/-- The checkpoint on file as one of a new generation. -/
def renewCheckpoint (input : RunInput) (checkpoint : OperationCheckpoint) (now : Time) :
    Except OpsError OperationCheckpoint :=
  if !isRunnableRecoveryAction checkpoint.nextSafeAction &&
      !isRunnableRecoveryAction input.recoveryAction then
    .error (errCommandMismatch.wrap ("checkpoint recovery action " ++
      recoveryActionName checkpoint.nextSafeAction ++ " cannot start a new generation"))
  else .ok { checkpoint with
    nextSafeAction :=
      if isRunnableRecoveryAction checkpoint.nextSafeAction then checkpoint.nextSafeAction
      else input.recoveryAction
    generation := input.generation, fencingTokenHash := e.hashToken input.fencingToken
    runnerDigest := input.runnerDigest, sequence := 0, updatedAt := now }

/-- The checkpoint of an operation nothing has been done for yet. -/
def initialCheckpoint (input : RunInput) (request : OperationRequestFile) (now : Time) :
    OperationCheckpoint where
  operationID := request.operationID
  action := request.request.action
  targetVersion := operationTargetVersion request
  runnerDigest := input.runnerDigest
  generation := input.generation
  fencingTokenHash := e.hashToken input.fencingToken
  stage := .accepted
  currentVersion := request.currentVersion
  expectedVersion := request.expectedVersion
  serviceState := .currentOnline
  currentControllerVersion := request.controllerVersionAtStart
  stageStartedAt := some now
  stageCompletedAt := some now
  updatedAt := now

def loadOrCreateCheckpoint (input : RunInput) (request : OperationRequestFile) :
    OpsProc OperationCheckpoint := do
  match ← (readJournal fun w ↦ w.journal.readCheckpoint input.operationID).observe with
  | .ok checkpoint =>
    .ofExcept (validateCheckpointRequestContract checkpoint request)
    if checkpoint.generation > input.generation then
      .fail (errCommandMismatch.wrap "checkpoint fencing mismatch")
    else if checkpoint.generation = input.generation then
      if checkpoint.fencingTokenHash ≠ e.hashToken input.fencingToken ∨
          checkpoint.runnerDigest ≠ input.runnerDigest then
        .fail (errCommandMismatch.wrap "checkpoint fencing mismatch")
      else return checkpoint
    else
      let now ← clock
      let renewed ← .ofExcept (e.renewCheckpoint input checkpoint now)
      writeJournal (writeCheckpoint input.operationID renewed)
      return renewed
  | .error err =>
    if err.kind ≠ .notExist then .fail err
    else
      let now ← clock
      let checkpoint := e.initialCheckpoint input request now
      writeJournal (writeCheckpoint input.operationID checkpoint)
      return checkpoint

/-- A restoration that failed: nothing is known of the service any more. -/
def restoreFailed (checkpoint : OperationCheckpoint) (sequence : ℕ) (message : String)
    (now : Time) : OperationCheckpoint :=
  { checkpoint with
    sequence := sequence, serviceState := .unknown, nextSafeAction := some .requireOperator
    failureCode := some .restoreFailed, failureMessage := message, updatedAt := now }

/-- The checkpoint and the result of a restoration that failed. -/
def giveUp (input : RunInput) (checkpoint : OperationCheckpoint) (message : String) :
    OpsProc Unit := do
  writeJournal (writeCheckpoint input.operationID checkpoint)
  writeTerminalResult input checkpoint .recoveryRequired (some .restoreFailed) message

def runPersistedRecovery (input : RunInput) (request : OperationRequestFile)
    (checkpoint : OperationCheckpoint) (sequence : ℕ) : OpsProc Unit := do
  e.validateOwnership input
  let (stage, completionStatus) ←
    .ofExcept (recoveryExecution checkpoint.nextSafeAction checkpoint.cancelRequested)
  let outcome ← executeStage input request .recovery stage sequence
  let now ← clock
  match outcome.failure with
  | some err =>
    giveUp input
      { restoreFailed checkpoint outcome.sequence err.message now with
        stage := stage, stageCompletedAt := none } err.message
  | none =>
    let advanced := { advanceCheckpoint checkpoint stage outcome.output now outcome.sequence with
      nextSafeAction := some .none }
    writeJournal (writeCheckpoint input.operationID advanced)
    writeTerminalResult input advanced completionStatus checkpoint.failureCode
      checkpoint.failureMessage

/-- Nothing, if the run goes on; otherwise the operation is over. -/
def handleCancellation (input : RunInput) (request : OperationRequestFile)
    (checkpoint : OperationCheckpoint) (sequence : ℕ) : OpsProc (Option OperationCheckpoint) := do
  let cancel ← (readJournal fun w ↦
    w.journal.readCancelCommand input.commandSecret input.operationID w.now).observe
  match cancel with
  | .error err => if err.kind = .notExist then return some checkpoint else .fail err
  | .ok _ =>
    let now ← clock
    let requested := { checkpoint with
      cancelRequested := true, nextSafeAction := some .none, updatedAt := now }
    if requested.serviceState = .currentOnline ∧ !requested.writesQuiesced then
      writeTerminalResult input requested .cancelled (some .cancelledAtSafePoint)
        "cancelled before the maintenance window"
      return none
    else if requested.releaseCommitted then return some requested
    else
      let stage := if requested.dataMigrationStarted && requested.verifiedRecoveryPoint then
        OperationStage.restoringBackup else .restoringCurrent
      let outcome ← executeStage input request .cancellation stage sequence
      let now ← clock
      match outcome.failure with
      | some err =>
        giveUp input (restoreFailed requested outcome.sequence err.message now) err.message
        return none
      | none =>
        let advanced := { advanceCheckpoint requested stage outcome.output now outcome.sequence with
          cancelRequested := true }
        writeJournal (writeCheckpoint input.operationID advanced)
        writeTerminalResult input advanced .cancelled (some .cancelledAtSafePoint)
          "cancelled at a safe point"
        return none

/-- The checkpoint of a stage that failed, before it is decided what to do. -/
def failedCheckpoint (checkpoint : OperationCheckpoint) (stage : OperationStage)
    (output : StageOutput) (message : String) (sequence : ℕ) (now : Time) : OperationCheckpoint :=
  { applyStageOutput { checkpoint with
      dataMigrationStarted := checkpoint.dataMigrationStarted || stageMayRewriteData stage }
      stage output with
    stage := stage, stageCompletedAt := none, sequence := sequence
    failureCode := some (errorCodeForStage stage), failureMessage := message, updatedAt := now }

def handleStageFailure (input : RunInput) (request : OperationRequestFile)
    (checkpoint : OperationCheckpoint) (stage : OperationStage) (output : StageOutput)
    (stageErr : OpsError) (sequence : ℕ) : OpsProc Unit := do
  let now ← clock
  let failed := failedCheckpoint checkpoint stage output stageErr.message sequence now
  let decision ← .ofExcept (decideRecovery failed (observedFrom failed output))
  let decided := { failed with nextSafeAction := some decision.action }
  writeJournal (writeCheckpoint input.operationID decided)
  match decision.action, decision.stage with
  | .none, _ =>
    writeTerminalResult input decided .failed decided.failureCode stageErr.message
  | .requireOperator, _ =>
    writeTerminalResult input { decided with serviceState := .unknown } .recoveryRequired
      decided.failureCode decision.reason
  | .continueControllerHandoff, _ =>
    writeTerminalResult input decided .recoveryRequired (some .controllerHandoffFailed)
      decision.reason
  | _, none => .fail (errOther "unsupported runtime stage \"\"")
  | _, some recovery =>
    let outcome ← executeStage input request .cleanup recovery sequence
    let now ← clock
    match outcome.failure with
    | some err => giveUp input (restoreFailed decided outcome.sequence err.message now) err.message
    | none =>
      let advanced := { advanceCheckpoint decided recovery outcome.output now outcome.sequence with
        nextSafeAction := some .none }
      writeJournal (writeCheckpoint input.operationID advanced)
      writeTerminalResult input advanced .failed (some (errorCodeForStage stage)) stageErr.message

/-- The stages left of the plan, one after another. -/
def runStages (input : RunInput) (request : OperationRequestFile) :
    List OperationStage → OperationCheckpoint → ℕ → OpsProc Unit
  | [], checkpoint, _ => writeTerminalResult input checkpoint .succeeded none ""
  | stage :: stages, checkpoint, sequence => do
    e.validateOwnership input
    match ← handleCancellation input request checkpoint sequence with
    | none => return ()
    | some checkpoint =>
      let outcome ← executeStage input request .plan stage sequence
      match outcome.failure with
      | some err =>
        handleStageFailure input request checkpoint stage outcome.output err outcome.sequence
      | none =>
        let now ← clock
        let advanced := advanceCheckpoint checkpoint stage outcome.output now outcome.sequence
        writeJournal (writeCheckpoint input.operationID advanced)
        runStages input request stages advanced outcome.sequence

/-- The number of the last event of the generation, and the event. -/
def readEventState (input : RunInput) : OpsProc (ℕ × Option OperationEvent) := do
  let events ← readJournal fun w ↦ w.journal.readEvents input.operationID input.generation 0
  return ((events.getLast?.map (·.sequence)).getD 0, events.getLast?)

/-- From a checkpoint that says all there is to know. -/
def proceed (input : RunInput) (request : OperationRequestFile) (stages : List OperationStage)
    (checkpoint : OperationCheckpoint) (sequence : ℕ) (recoveryGeneration : Bool) :
    OpsProc Unit := do
  if recoveryGeneration then
    let cancel ← (readJournal fun w ↦
      w.journal.readCancelCommand input.commandSecret input.operationID w.now).observe
    match cancel with
    | .ok _ =>
      e.runPersistedRecovery input request { checkpoint with cancelRequested := true } sequence
    | .error err =>
      if err.kind = .notExist then e.runPersistedRecovery input request checkpoint sequence
      else .fail err
  else
    let startIndex ← .ofExcept (nextStageIndex stages checkpoint)
    e.runStages input request (stages.drop startIndex) checkpoint sequence

/-- From a checkpoint and the events of its generation. -/
def goOn (input : RunInput) (request : OperationRequestFile) (stages : List OperationStage)
    (checkpoint : OperationCheckpoint) (recoveryGeneration : Bool) : OpsProc Unit := do
  let (sequence, latestEvent) ← readEventState input
  match latestEvent with
  | none => e.proceed input request stages checkpoint sequence recoveryGeneration
  | some event =>
    let now ← clock
    let (interrupted, applied) ← .ofExcept (applyUnknownStageIntent checkpoint event now)
    if applied then
      writeJournal (writeCheckpoint input.operationID interrupted)
      writeTerminalResult input interrupted .recoveryRequired (some .stateConflict)
        "destructive stage outcome is unknown; the persisted recovery action must run in a new generation"
    else e.proceed input request stages checkpoint sequence recoveryGeneration

/-- From the request and the checkpoint on file. -/
def takeUp (input : RunInput) (recoveryGeneration : Bool) : OpsProc Unit := do
  let request ← readJournal fun w ↦ w.journal.readRequest input.operationID
  if request.importedTerminal then
    .fail (errCommandMismatch.wrap "imported terminal history cannot be executed")
  else
    let stages ← .ofExcept (stagesFor request.request.action)
    let checkpoint ← e.loadOrCreateCheckpoint input request
    e.goOn input request stages checkpoint recoveryGeneration

def run (input : RunInput) : OpsProc Unit := do
  .ofExcept (validateRunInput input)
  e.validateOwnership input
  match ← (readJournal fun w ↦ w.journal.readResult input.operationID).observe with
  | .ok result =>
    if isTerminalStatus result.status then return ()
    else if result.status ≠ .recoveryRequired then
      .fail (errOther "persisted result is not a completed runner outcome")
    else if result.generation ≥ input.generation then return ()
    else e.takeUp input true
  | .error err => if err.kind = .notExist then e.takeUp input false else .fail err

end Engine
end HMaigc.Ops
