import HMaigc.Ops.World

/-!
# Stages, and what to do when one went wrong

Each action has a plan, the stages its runner executes in order.  Most of them change production,
and of a stage that was begun and has no recorded end nobody knows what it did:
`applyUnknownStageIntent` records that.  `decideRecovery` chooses what may be done about a failed
operation from what its checkpoint says has happened.
-/

set_option autoImplicit false

namespace HMaigc.Ops

open Go

/-! ## Plans -/

def stagesFor : Action → Except OpsError (List OperationStage)
  | .upgrade => .ok [.onlinePreflight, .quiescing, .quiescedAudit, .backingUp, .startingTarget,
      .verifyingTarget, .committingRelease, .controllerHandoff]
  | .verify => .ok [.publicVerifying]
  | .backup => .ok [.onlinePreflight, .quiescing, .backingUp, .startingTarget, .verifyingTarget]
  | .rollback => .ok [.onlinePreflight, .quiescing, .backingUp, .restoringRollbackBackup,
      .startingTarget, .verifyingTarget, .committingRelease, .controllerHandoff]
  | .install => .error (errOther "unsupported operation action \"install\"")

def isDestructiveStage : OperationStage → Bool
  | .quiescing | .quiescedAudit | .backingUp | .startingTarget | .verifyingTarget
  | .restoringCurrent | .restoringBackup | .restoringRollbackBackup | .committingRelease
  | .controllerHandoff => true
  | .accepted | .runnerPreparing | .onlinePreflight | .publicVerifying | .completed => false

def stageMayRewriteData (stage : OperationStage) : Bool :=
  stage == .startingTarget || stage == .restoringRollbackBackup

def errorCodeForStage : OperationStage → OperationErrorCode
  | .onlinePreflight => .preflightFailed
  | .publicVerifying => .publicVerifyFailed
  | .quiescing | .quiescedAudit => .quiesceFailed
  | .backingUp => .backupFailed
  | .startingTarget => .migrationFailed
  | .verifyingTarget => .targetHealthFailed
  | .restoringCurrent | .restoringBackup | .restoringRollbackBackup => .restoreFailed
  | .controllerHandoff => .controllerHandoffFailed
  | .accepted | .runnerPreparing | .committingRelease | .completed => .stateConflict

/-- Where a plan is to be taken up, from a checkpoint. -/
def nextStageIndex (stages : List OperationStage) (checkpoint : OperationCheckpoint) :
    Except OpsError ℕ :=
  if checkpoint.stage = .accepted then .ok 0
  else if checkpoint.stageCompletedAt = none then
    .error (errCorruptFact ("stage " ++ checkpoint.stage.name ++ " has no completion fact"))
  else match stages.findIdx? (· == checkpoint.stage) with
    | some index => .ok (index + 1)
    | none => .error
        (errCorruptFact ("checkpoint stage " ++ checkpoint.stage.name ++
          " is outside the action plan"))

/-! ## Recovery -/

structure ObservedState where
  actualVersion : String
  currentHealthy : Bool
  targetHealthy : Bool
  dataRewriteStarted : Bool
  verifiedBackupPath : String
  releaseCommitted : Bool
  runnerStillOwnsLock : Bool

structure RecoveryDecision where
  action : RecoveryAction
  stage : Option OperationStage := none
  expectedServiceState : ServiceState
  reason : String
  deriving DecidableEq, Repr

def requireOperator (reason : String) : RecoveryDecision where
  action := .requireOperator
  expectedServiceState := .unknown
  reason := reason

/-- Whether the checkpoint has a backup that may be restored. -/
def OperationCheckpoint.backupVerified (checkpoint : OperationCheckpoint) (path : String) : Bool :=
  checkpoint.verifiedRecoveryPoint && checkpoint.backupChecksumStatus == "verified" &&
    checkpoint.backupPath != "" && checkpoint.backupPath == path

def decideRecovery (checkpoint : OperationCheckpoint) (observed : ObservedState) :
    Except OpsError RecoveryDecision :=
  if checkpoint.expectedVersion = "" ∧
      (checkpoint.releaseCommitted ∨ observed.releaseCommitted) then
    .error (errOther "committed release is missing its expected version")
  else if !observed.runnerStillOwnsLock then
    .ok (requireOperator "runner ownership cannot be proven")
  else if checkpoint.releaseCommitted ∨ observed.releaseCommitted then
    if observed.targetHealthy ∧ observed.actualVersion = checkpoint.expectedVersion then
      .ok { action := .continueControllerHandoff, stage := some .controllerHandoff,
            expectedServiceState := .targetOnline
            reason := "committed target is healthy; only controller handoff remains" }
    else .ok (requireOperator "release commit evidence conflicts with the observed target")
  else if checkpoint.dataMigrationStarted ∨ observed.dataRewriteStarted then
    if checkpoint.backupVerified observed.verifiedBackupPath then
      .ok { action := .restoreBackup, stage := some .restoringBackup,
            expectedServiceState := .currentRestored
            reason := "data rewrite started after a verified recovery point" }
    else .ok (requireOperator "data may have changed but no matching verified recovery point exists")
  else if checkpoint.writesQuiesced ∨ checkpoint.serviceState = .maintenance then
    .ok { action := .restoreCurrent, stage := some .restoringCurrent,
          expectedServiceState := .currentRestored
          reason := "writes were quiesced before any data rewrite" }
  else if observed.currentHealthy ∨ checkpoint.serviceState = .currentOnline then
    .ok { action := .none, expectedServiceState := .currentOnline
          reason := "current release remains online" }
  else .ok (requireOperator "service state cannot be proven")

/-- Only two decisions have a stage that is carried out at once. -/
theorem decideRecovery_stage {checkpoint : OperationCheckpoint} {observed : ObservedState}
    {decision : RecoveryDecision} (h : decideRecovery checkpoint observed = .ok decision) :
    (decision.action = .none ∨ decision.action = .requireOperator ∨
        decision.action = .continueControllerHandoff) ∨
      decision.action = .restoreBackup ∧ decision.stage = some .restoringBackup ∨
      decision.action = .restoreCurrent ∧ decision.stage = some .restoringCurrent := by
  rw [decideRecovery] at h
  split_ifs at h <;> cases h <;> simp [requireOperator]

/-- What a checkpoint and a stage's output say about the service. -/
def observedFrom (checkpoint : OperationCheckpoint) (output : StageOutput) : ObservedState where
  actualVersion :=
    if output.resultVersion = "" then checkpoint.expectedVersion else output.resultVersion
  currentHealthy := checkpoint.serviceState == .currentOnline ||
    checkpoint.serviceState == .currentRestored
  targetHealthy := checkpoint.targetBackendHealthy && checkpoint.targetWebHealthy
  dataRewriteStarted := checkpoint.dataMigrationStarted
  verifiedBackupPath := checkpoint.backupPath
  releaseCommitted := checkpoint.releaseCommitted
  runnerStillOwnsLock := true

/-- What is decided about a checkpoint whose release is not committed; the stage's output does not
matter. -/
def uncommittedDecision (checkpoint : OperationCheckpoint) : RecoveryDecision :=
  if checkpoint.dataMigrationStarted then
    if checkpoint.backupVerified checkpoint.backupPath then
      { action := .restoreBackup, stage := some .restoringBackup,
        expectedServiceState := .currentRestored
        reason := "data rewrite started after a verified recovery point" }
    else requireOperator "data may have changed but no matching verified recovery point exists"
  else if checkpoint.writesQuiesced ∨ checkpoint.serviceState = .maintenance then
    { action := .restoreCurrent, stage := some .restoringCurrent,
      expectedServiceState := .currentRestored
      reason := "writes were quiesced before any data rewrite" }
  else if checkpoint.serviceState = .currentOnline ∨ checkpoint.serviceState = .currentRestored then
    { action := .none, expectedServiceState := .currentOnline
      reason := "current release remains online" }
  else requireOperator "service state cannot be proven"

theorem decideRecovery_of_uncommitted {checkpoint : OperationCheckpoint}
    (h : checkpoint.releaseCommitted = false) (output : StageOutput) :
    decideRecovery checkpoint (observedFrom checkpoint output) =
      .ok (uncommittedDecision checkpoint) := by
  rw [decideRecovery, uncommittedDecision, observedFrom]
  simp only [h, Bool.false_eq_true, or_self, and_false, if_false, Bool.not_true,
    Bool.or_eq_true, beq_iff_eq]
  split_ifs <;> grind

/-- Nothing is done exactly if nothing was touched and the current release is known to run. -/
theorem uncommittedDecision_none_iff {checkpoint : OperationCheckpoint} :
    (uncommittedDecision checkpoint).action = .none ↔
      checkpoint.dataMigrationStarted = false ∧ checkpoint.writesQuiesced = false ∧
        (checkpoint.serviceState = .currentOnline ∨ checkpoint.serviceState = .currentRestored) := by
  rw [uncommittedDecision]
  split_ifs <;> grind [requireOperator]

/-- A committed release is carried on with, or left to the operator. -/
theorem decideRecovery_of_committed {checkpoint : OperationCheckpoint} {observed : ObservedState}
    {decision : RecoveryDecision} (h : checkpoint.releaseCommitted = true)
    (hdecision : decideRecovery checkpoint observed = .ok decision) :
    decision.action = .requireOperator ∨ decision.action = .continueControllerHandoff := by
  rw [decideRecovery] at hdecision
  simp only [h, true_or, and_true, if_true] at hdecision
  split_ifs at hdecision <;> cases hdecision <;> simp [requireOperator]

/-- Whether an event tells of a destructive stage the checkpoint knows nothing of. -/
def isUnknownStageIntent (checkpoint : OperationCheckpoint) (event : OperationEvent) : Bool :=
  event.generation == checkpoint.generation && checkpoint.sequence < event.sequence &&
    isDestructiveStage event.stage

/-- The checkpoint after a destructive stage of unknown outcome, and whether there was one.  Every
kind of event counts: the intent, and the end that no checkpoint recorded. -/
def applyUnknownStageIntent (checkpoint : OperationCheckpoint) (event : OperationEvent)
    (now : Time) : Except OpsError (OperationCheckpoint × Bool) :=
  if !isUnknownStageIntent checkpoint event then .ok (checkpoint, false)
  else
    let interrupted := { checkpoint with
      stage := event.stage, stageCompletedAt := none, sequence := event.sequence
      failureCode := some .stateConflict
      failureMessage := "destructive stage event was persisted without a matching checkpoint"
      nextSafeAction := some .requireOperator }
    if stageMayRewriteData event.stage then
      let rewriting := { interrupted with dataMigrationStarted := true }
      match decideRecovery rewriting (observedFrom rewriting {}) with
      | .error err => .error err
      | .ok decision => .ok ({ rewriting with
          nextSafeAction := some decision.action, serviceState := .unknown, updatedAt := now }, true)
    else .ok ({ interrupted with serviceState := .unknown, updatedAt := now }, true)

/-- The stage a recovery action executes, and the status its success comes to. -/
def recoveryExecution (action : Option RecoveryAction) (cancelRequested : Bool) :
    Except OpsError (OperationStage × OperationStatus) :=
  match action with
  | some .restoreCurrent =>
    .ok (.restoringCurrent, if cancelRequested then .cancelled else .failed)
  | some .restoreBackup =>
    .ok (.restoringBackup, if cancelRequested then .cancelled else .failed)
  | some .commitTarget => .ok (.committingRelease, .succeeded)
  | some .continueControllerHandoff => .ok (.controllerHandoff, .succeeded)
  | _ => .error
      (errOther ("recovery action " ++ recoveryActionName action ++ " is not executable"))

/-- `isRunnableRecoveryAction`, of a field that may be empty. -/
def isRunnableRecoveryAction (action : Option RecoveryAction) : Bool :=
  action.any isExecutableRecoveryAction

end HMaigc.Ops
