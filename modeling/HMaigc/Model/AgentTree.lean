import HMaigc.Go.Basic

/-!
# What hangs from an agent run

The rows through which the tasks of an agent run are found when the run ends: its tool calls, the
runs of its specialists with the production stages they work on, and the artifacts of the production
plans it made.
-/

set_option autoImplicit false

namespace HMaigc

open Go

/-- `agentruntime.Scope`, but for the access it grants. -/
structure AgentScope where
  tenantKind : String
  tenantID : String
  threadID : String
  runID : String
  actorUserID : String
  domainProjectID : String
  canvasID : String
  deriving DecidableEq, Repr

inductive ToolCallStatus where
  | pending
  | waitingApproval
  | running
  | succeeded
  | failed
  deriving DecidableEq, Repr

structure AgentToolCall where
  runID : String
  status : ToolCallStatus
  outputJSON : String := ""
  errorCode : String := ""
  deriving DecidableEq, Repr

inductive AgentSpecialistRunStatus where
  | queued
  | running
  | waitingInput
  | waitingApproval
  | waitingTool
  | succeeded
  | failed
  | cancelled
  deriving DecidableEq, Repr

/-- `nonTerminalAgentSpecialistStatuses`. -/
def AgentSpecialistRunStatus.isNonTerminal : AgentSpecialistRunStatus → Bool
  | .queued | .running | .waitingInput | .waitingApproval | .waitingTool => true
  | .succeeded | .failed | .cancelled => false

structure AgentSpecialistRun where
  scope : AgentScope
  stageID : String
  taskID : String := ""
  status : AgentSpecialistRunStatus
  version : ℤ
  errorCode : String := ""
  lastHeartbeatAt : Option Time := none
  completedAt : Option Time := none
  deriving DecidableEq, Repr

inductive ProductionStageStatus where
  | planned
  | running
  | awaitingReview
  | approved
  | completed
  | failed
  | stopped
  | stale
  deriving DecidableEq, Repr

/-- The stages of a production as they were drafted; a version is never changed. -/
structure AgentProductionGraphVersion where
  scope : AgentScope
  graphKey : String
  version : ℤ
  stagesJSON : String
  createdAt : Time
  deriving DecidableEq, Repr

structure AgentProductionStage where
  scope : AgentScope
  graphVersionID : String := ""
  stageKey : String := ""
  status : ProductionStageStatus
  version : ℤ
  reviewRevisionID : String := ""
  lastErrorCode : String := ""
  deriving DecidableEq, Repr

/-- One revision of an artifact of a production. -/
structure AgentArtifactRevision where
  scope : AgentScope
  artifactID : String
  deriving DecidableEq, Repr

structure AgentProductionPlanVersion where
  createdByRunID : String
  deriving DecidableEq, Repr

structure AgentProductionArtifact where
  planVersionID : String
  taskID : String := ""
  deriving DecidableEq, Repr

end HMaigc
