import HMaigc.Go.Basic

/-!
# The operations protocol

An *operation* is one upgrade, rollback, backup or verification of the deployed release.  A
controller accepts it and keeps a row for it in its own store; a runner, a container of its own,
carries it out; and the two talk through files in a state directory that both outlive.  This file
has the vocabulary they share: the statuses an operation goes through, the stages a runner
executes, and the content of each file.

A string of the protocol that may be empty because nothing has been recorded yet is an `Option`
here, except where the code compares it as a string.
-/

set_option autoImplicit false

namespace HMaigc.Ops

open Go

inductive Action where
  | install
  | upgrade
  | rollback
  | backup
  | verify
  deriving DecidableEq, Repr

inductive OperationStatus where
  | queued
  | running
  | cancelling
  | recovering
  | succeeded
  | failed
  | cancelled
  | recoveryRequired
  deriving DecidableEq, Repr

inductive OperationStage where
  | accepted
  | runnerPreparing
  | onlinePreflight
  | publicVerifying
  | quiescing
  | quiescedAudit
  | backingUp
  | startingTarget
  | verifyingTarget
  | restoringCurrent
  | restoringBackup
  | restoringRollbackBackup
  | committingRelease
  | controllerHandoff
  | completed
  deriving DecidableEq, Repr

def OperationStage.name : OperationStage → String
  | .accepted => "accepted"
  | .runnerPreparing => "runner_preparing"
  | .onlinePreflight => "online_preflight"
  | .publicVerifying => "public_verifying"
  | .quiescing => "quiescing"
  | .quiescedAudit => "quiesced_audit"
  | .backingUp => "backing_up"
  | .startingTarget => "starting_target"
  | .verifyingTarget => "verifying_target"
  | .restoringCurrent => "restoring_current"
  | .restoringBackup => "restoring_backup"
  | .restoringRollbackBackup => "restoring_rollback_backup"
  | .committingRelease => "committing_release"
  | .controllerHandoff => "controller_handoff"
  | .completed => "completed"

inductive OperationErrorCode where
  | preflightFailed
  | publicVerifyFailed
  | runnerStartFailed
  | leaseLost
  | quiesceFailed
  | backupFailed
  | migrationFailed
  | targetHealthFailed
  | restoreFailed
  | controllerHandoffFailed
  | stateConflict
  | cancelledAtSafePoint
  deriving DecidableEq, Repr

inductive ServiceState where
  | currentOnline
  | maintenance
  | targetOnline
  | currentRestored
  | unknown
  deriving DecidableEq, Repr

inductive ControllerHandoff where
  | unchanged
  | updated
  | restoredPrevious
  deriving DecidableEq, Repr

inductive RunnerSource where
  | current
  | target
  deriving DecidableEq, Repr

inductive RecoveryAction where
  | none
  | retryPreflight
  | restoreCurrent
  | restoreBackup
  | commitTarget
  | continueControllerHandoff
  | requireOperator
  deriving DecidableEq, Repr

def RecoveryAction.name : RecoveryAction → String
  | .none => "none"
  | .retryPreflight => "retry_preflight"
  | .restoreCurrent => "restore_current"
  | .restoreBackup => "restore_backup"
  | .commitTarget => "commit_target"
  | .continueControllerHandoff => "continue_controller_handoff"
  | .requireOperator => "require_operator"

/-- The recovery action of a field that may be empty, as it is printed. -/
def recoveryActionName (action : Option RecoveryAction) : String :=
  (action.map RecoveryAction.name).getD ""

inductive EventKind where
  | intent
  | fact
  | failure
  deriving DecidableEq, Repr

structure OperationWarning where
  code : OperationErrorCode
  message : String
  facts : String := ""
  deriving DecidableEq, Repr

/-! ## Requests and commands -/

structure StartOperationRequest where
  action : Action
  targetVersion : String := ""
  actorUserID : String := ""
  actorDisplayName : String := ""
  idempotencyKey : String
  confirmation : String := ""
  deriving DecidableEq, Repr

/-- `request.json`, the immutable statement of what the operation is. -/
structure OperationRequestFile where
  operationID : String
  request : StartOperationRequest
  requestHash : String
  currentVersion : String := ""
  previousVersion : String := ""
  expectedVersion : String
  rollbackBackup : String := ""
  runnerSource : RunnerSource
  controllerVersionAtStart : String := ""
  importedTerminal : Bool := false
  createdAt : Time := 0
  deriving DecidableEq, Repr

/-- `commands/launch.json`. -/
structure RunnerLaunchCommand where
  operationID : String
  generation : ℕ
  fencingToken : String
  runnerDigest : String
  recoveryAction : Option RecoveryAction := .none
  issuedAt : Time := 0
  deriving DecidableEq, Repr

/-- `commands/cancel.json`. -/
structure CancelOperationCommand where
  operationID : String
  requestHash : String
  actorUserID : String
  actorDisplayName : String := ""
  requestedAt : Time
  nonce : String
  deriving DecidableEq, Repr

/-- `commands/recover.json`. -/
structure RecoverOperationCommand where
  operationID : String
  requestHash : String
  actorUserID : String
  actorDisplayName : String := ""
  recoveryAction : RecoveryAction
  requestedAt : Time
  nonce : String
  deriving DecidableEq, Repr

/-! ## What a runner records -/

/-- `lease.json`. -/
structure RunnerLease where
  operationID : String
  generation : ℕ
  tokenHash : String
  runnerDigest : String
  acquiredAt : Time := 0
  expiresAt : Time := 0
  deriving DecidableEq, Repr

/-- `heartbeat.json`. -/
structure RunnerHeartbeat where
  operationID : String
  generation : ℕ
  sequence : ℕ
  stage : OperationStage
  serviceState : ServiceState
  observedAt : Time := 0
  deriving DecidableEq, Repr

/-- `checkpoint.json`: how far the operation has come, and what was observed on the way. -/
structure OperationCheckpoint where
  operationID : String
  action : Action
  targetVersion : String := ""
  runnerDigest : String
  generation : ℕ
  fencingTokenHash : String
  sequence : ℕ := 0
  stage : OperationStage
  previousCompletedStage : Option OperationStage := .none
  stageStartedAt : Option Time := .none
  stageCompletedAt : Option Time := .none
  currentVersion : String := ""
  expectedVersion : String := ""
  serviceState : ServiceState
  writesQuiesced : Bool := false
  verifiedRecoveryPoint : Bool := false
  backupPath : String := ""
  backupChecksumStatus : String := ""
  dataMigrationStarted : Bool := false
  targetBackendHealthy : Bool := false
  targetWebHealthy : Bool := false
  releaseCommitted : Bool := false
  backendImage : String := ""
  webImage : String := ""
  backupHelperImage : String := ""
  currentControllerVersion : String := ""
  candidateControllerImage : String := ""
  controllerHandoff : Option ControllerHandoff := .none
  warnings : List OperationWarning := []
  cancelRequested : Bool := false
  nextSafeAction : Option RecoveryAction := .none
  failureCode : Option OperationErrorCode := .none
  failureMessage : String := ""
  updatedAt : Time := 0
  deriving DecidableEq, Repr

/-- One file of `events/`. -/
structure OperationEvent where
  operationID : String
  generation : ℕ
  sequence : ℕ
  kind : EventKind
  stage : OperationStage
  stream : String := "system"
  message : String := ""
  createdAt : Time := 0
  deriving DecidableEq, Repr

/-- `result.json`. -/
structure OperationResult where
  operationID : String
  generation : ℕ
  status : OperationStatus
  resultVersion : String := ""
  controllerVersion : String := ""
  serviceState : ServiceState
  controllerHandoff : Option ControllerHandoff := .none
  warnings : List OperationWarning := []
  errorCode : Option OperationErrorCode := .none
  error : String := ""
  completedAt : Time := 0
  deriving DecidableEq, Repr

/-! ## Status transitions -/

/-- The declared transitions. -/
def allowedStatusTransitions : OperationStatus → List OperationStatus
  | .queued => [.running, .cancelling, .cancelled, .failed]
  | .running => [.cancelling, .recovering, .succeeded, .failed, .recoveryRequired]
  | .cancelling => [.recovering, .cancelled, .failed, .recoveryRequired]
  | .recovering => [.succeeded, .failed, .cancelled, .recoveryRequired]
  | .recoveryRequired => [.recovering]
  | .succeeded | .failed | .cancelled => []

def isTerminalStatus : OperationStatus → Bool
  | .succeeded | .failed | .cancelled => true
  | .queued | .running | .cancelling | .recovering | .recoveryRequired => false

/-- The recovery actions a runner can carry out. -/
def isExecutableRecoveryAction : RecoveryAction → Bool
  | .restoreCurrent | .restoreBackup | .commitTarget | .continueControllerHandoff => true
  | .none | .retryPreflight | .requireOperator => false

/-! ## Errors -/

/-- What `errors.Is` tells apart. -/
inductive ErrorKind where
  | notExist
  | invalidOperationID
  | immutableFactExists
  | corruptFact
  | invalidCommandSignature
  | commandExpired
  | commandMismatch
  | runnerLeaseLost
  | invalidStatusTransition
  | idempotencyConflict
  | operationActive
  | cancellationNotAllowed
  | recoveryNotAllowed
  | runnerStartOutcomeUnknown
  | invalidRequest
  | other
  deriving DecidableEq, Repr

structure OpsError where
  kind : ErrorKind
  message : String
  deriving DecidableEq, Repr

/-- `errors.Join`, of two errors. -/
def OpsError.join (first second : OpsError) : OpsError :=
  { first with message := first.message ++ "\n" ++ second.message }

end HMaigc.Ops
